import HyperCom.Client.Exchange
import HyperCom.Crypto.Noise
import HyperCom.Protocol.Frame
import HyperCom.Server.Replies

/-!
# The client's end of a connection

`server_connection`: the handshake, the transport and the buffer of received
bytes that no frame was cut from yet. The socket is outside: each of its calls
succeeds, fails or delivers some bytes, as `SocketBehaviour` says.

`pullAttempt` is one round of the loop of `pull_next_message`, so that a system
in which the server works between two rounds can use it too. `respond` is the
connection as what the client's commands talk to.
-/

namespace HyperCom

variable [Sodium]

/-! ## The connection -/

/-- `server_connection`, without its socket. -/
structure ServerConnection where
  serverStaticPublic : X25519PublicKey
  handshake : NoiseHandshakeInitiator
  transport : Option NoiseTransport := none
  inputBuffer : ByteString := []
  isOpen : Bool := false

namespace ServerConnection

/-- The constructor: the key of the server is pinned. -/
def create (serverStaticPublic : X25519PublicKey) : ServerConnection :=
  { serverStaticPublic, handshake := NoiseHandshakeInitiator.create serverStaticPublic }

/-- The reset at the start of `open_session`: nothing of the previous session
survives. -/
def reset (connection : ServerConnection) : ServerConnection :=
  create connection.serverStaticPublic

/-! ## `pull_next_message` -/

/-- `receive_available`: bytes, silence until the timeout, or the end of the
stream. -/
inductive SocketRead where
  | received (bytes : ByteString)
  | silent
  | closed

/-- How one round of `pull_next_message` ends. -/
inductive PullOutcome where
  | message (message : ByteString)
  | failed (error : ByteString)
  | waiting
deriving DecidableEq

/-- One round of the loop: a message is cut from the buffer, or the socket is
read once. -/
def pullAttempt (read : SocketRead) (connection : ServerConnection) :
    PullOutcome × ServerConnection :=
  match extractLengthPrefixedMessage connection.inputBuffer maxNoiseMessageSize with
  | .message message rest => (.message message, { connection with inputBuffer := rest })
  | .malformed =>
    (.failed (ascii "trame invalide recue du serveur"), { connection with isOpen := false })
  | .incomplete =>
    match read with
    | .received bytes =>
      (.waiting, { connection with inputBuffer := connection.inputBuffer ++ bytes })
    | .silent => (.waiting, connection)
    | .closed =>
      (.failed (ascii "connexion fermee par le serveur"), { connection with isOpen := false })

/-- `READ_CHUNK_SIZE` -/
def readChunkSize : ℕ := 16 * 1024

/-- `MAX_RECEIVE_ATTEMPTS` -/
def maxReceiveAttempts : ℕ := 50

/-- The text left when the attempts are used up. -/
def unanswered : ByteString := ascii "aucune reponse du serveur"

/-- The loop, with the rounds that are left. Giving up leaves the session
open. -/
def pullRounds (reads : ℕ → SocketRead) :
    ℕ → ServerConnection → Except ByteString ByteString × ServerConnection
  | 0, connection => (.error unanswered, connection)
  | left + 1, connection =>
    match pullAttempt (reads (maxReceiveAttempts - (left + 1))) connection with
    | (.message message, connection) => (.ok message, connection)
    | (.failed error, connection) => (.error error, connection)
    | (.waiting, connection) => pullRounds reads left connection

/-- The reads the loop makes before it returns. -/
def pullReads (reads : ℕ → SocketRead) : ℕ → ServerConnection → ℕ
  | 0, _ => 0
  | left + 1, connection =>
    match pullAttempt (reads (maxReceiveAttempts - (left + 1))) connection with
    | (.waiting, connection) => pullReads reads left connection + 1
    | _ => 0

/-- `pull_next_message` -/
def pullNextMessage (reads : ℕ → SocketRead) (connection : ServerConnection) :
    Except ByteString ByteString × ServerConnection :=
  pullRounds reads maxReceiveAttempts connection

/-! The rounds bound how much can be read: a message is cut from the buffer in the
last round at the latest, so the reads of all rounds but that one have to bring
it. -/

/-- The longest message, with its length field, that the rounds can bring. -/
def maxReceivable : ℕ := (maxReceiveAttempts - 1) * readChunkSize

/-- What a read adds to the buffer. -/
def SocketRead.bytes : SocketRead → ByteString
  | .received bytes => bytes
  | .silent => []
  | .closed => []

/-- The buffer after this many reads, if nothing is cut from it. -/
def buffered (reads : ℕ → SocketRead) (connection : ServerConnection) : ℕ → ByteString
  | 0 => connection.inputBuffer
  | count + 1 => buffered reads connection count ++ (reads count).bytes

section Rounds

variable {reads : ℕ → SocketRead} {connection : ServerConnection} {message rest : ByteString}
  {count : ℕ}

omit [Sodium] in
/-- A round with no whole message in the buffer only reads. -/
theorem pullAttempt_waits {read : SocketRead}
    (hincomplete : extractLengthPrefixedMessage connection.inputBuffer maxNoiseMessageSize =
      .incomplete) (hopen : read ≠ .closed) :
    pullAttempt read connection =
      (.waiting, { connection with inputBuffer := connection.inputBuffer ++ read.bytes }) := by
  cases read with
  | received bytes => simp only [pullAttempt, hincomplete, SocketRead.bytes]
  | silent => simp only [pullAttempt, hincomplete, SocketRead.bytes, List.append_nil]
  | closed => exact absurd rfl hopen

omit [Sodium] in
/-- Rounds of this kind come to the rounds that are left, on what they read. -/
theorem pullNextMessage_waits (hcount : count ≤ maxReceiveAttempts)
    (hwaits : ∀ k < count, reads k ≠ .closed ∧ extractLengthPrefixedMessage
      (buffered reads connection k) maxNoiseMessageSize = .incomplete) :
    pullNextMessage reads connection = pullRounds reads (maxReceiveAttempts - count)
      { connection with inputBuffer := buffered reads connection count } := by
  induction count with
  | zero => rfl
  | succ count ih =>
    have hearlier := ih (by omega) fun k hk => hwaits k (by omega)
    have hround : maxReceiveAttempts - count = maxReceiveAttempts - (count + 1) + 1 := by omega
    have hindex : maxReceiveAttempts - (maxReceiveAttempts - (count + 1) + 1) = count := by omega
    obtain ⟨hopen, hincomplete⟩ := hwaits count (by omega)
    rw [hearlier, hround, pullRounds, hindex, pullAttempt_waits hincomplete hopen]
    rfl

omit [Sodium] in
/-- A message arrives in the round that finds all of it in the buffer. -/
theorem pullNextMessage_arrives (hmessage : Transmissible message)
    (hcount : count < maxReceiveAttempts)
    (hwaits : ∀ k < count, reads k ≠ .closed ∧ extractLengthPrefixedMessage
      (buffered reads connection k) maxNoiseMessageSize = .incomplete)
    (hbuffer : buffered reads connection count = appendLengthPrefixedMessage message ++ rest) :
    pullNextMessage reads connection = (.ok message, { connection with inputBuffer := rest }) := by
  have hround : maxReceiveAttempts - count = maxReceiveAttempts - (count + 1) + 1 := by omega
  rw [pullNextMessage_waits hcount.le hwaits, hround, pullRounds]
  simp only [pullAttempt, hbuffer, extract_transmissible hmessage]

omit [Sodium] in
/-- If no round finds one, the client gives up with the session still open. -/
theorem pullNextMessage_gives_up
    (hwaits : ∀ k < maxReceiveAttempts, reads k ≠ .closed ∧ extractLengthPrefixedMessage
      (buffered reads connection k) maxNoiseMessageSize = .incomplete) :
    pullNextMessage reads connection = (.error unanswered,
      { connection with inputBuffer := buffered reads connection maxReceiveAttempts }) := by
  rw [pullNextMessage_waits le_rfl hwaits, Nat.sub_self, pullRounds]

omit [Sodium] in
/-- The rounds before it are the reads that were made. -/
theorem pullReads_arrives (hmessage : Transmissible message)
    (hcount : count < maxReceiveAttempts)
    (hwaits : ∀ k < count, reads k ≠ .closed ∧ extractLengthPrefixedMessage
      (buffered reads connection k) maxNoiseMessageSize = .incomplete)
    (hbuffer : buffered reads connection count = appendLengthPrefixedMessage message ++ rest) :
    pullReads reads maxReceiveAttempts connection = count := by
  -- counted from the round that finds the message backwards
  have hfrom : ∀ k ≤ count, pullReads reads (maxReceiveAttempts - (count - k))
      { connection with inputBuffer := buffered reads connection (count - k) } = k := by
    intro k hk
    induction k with
    | zero =>
      have hround : maxReceiveAttempts - count = maxReceiveAttempts - (count + 1) + 1 := by omega
      rw [Nat.sub_zero, hround, pullReads]
      simp only [pullAttempt, hbuffer, extract_transmissible hmessage]
    | succ k ih =>
      obtain ⟨hopen, hincomplete⟩ := hwaits (count - (k + 1)) (by omega)
      have hround : maxReceiveAttempts - (count - (k + 1)) =
          maxReceiveAttempts - (count - k) + 1 := by omega
      have hindex : maxReceiveAttempts - (maxReceiveAttempts - (count - k) + 1) =
          count - (k + 1) := by omega
      have hnext : count - (k + 1) + 1 = count - k := by omega
      have hlater := ih (by omega)
      rw [← hnext, buffered, hnext] at hlater
      rw [hround, pullReads, hindex, pullAttempt_waits hincomplete hopen]
      exact congrArg (· + 1) hlater
  have hall := hfrom count le_rfl
  rwa [Nat.sub_self, Nat.sub_zero] at hall

omit [Sodium] in
/-- Rounds that find no whole message while the stream is open end in an error. -/
theorem pullNextMessage_fails
    (hwaits : ∀ k < maxReceiveAttempts, (∀ j < k, reads j ≠ .closed) →
      extractLengthPrefixedMessage (buffered reads connection k) maxNoiseMessageSize =
        .incomplete) :
    ∃ error, (pullNextMessage reads connection).1 = .error error := by
  classical
  by_cases hend : ∃ k, k < maxReceiveAttempts ∧ reads k = .closed
  · -- the first read that finds the end
    obtain ⟨hcount, hclosed⟩ := Nat.find_spec hend
    set count := Nat.find hend
    have hopen : ∀ k < count, reads k ≠ .closed := fun k hk hk' =>
      Nat.find_min hend hk ⟨hk.trans hcount, hk'⟩
    have hround : maxReceiveAttempts - count = maxReceiveAttempts - (count + 1) + 1 := by omega
    have hindex : maxReceiveAttempts - (maxReceiveAttempts - (count + 1) + 1) = count := by omega
    have hincomplete := hwaits count hcount hopen
    rw [pullNextMessage_waits hcount.le fun k hk => ⟨hopen k hk, hwaits k (hk.trans hcount)
      fun j hj => hopen j (hj.trans hk)⟩, hround, pullRounds, hindex, hclosed]
    simp only [pullAttempt, hincomplete]
    exact ⟨_, rfl⟩
  · have hopen : ∀ k < maxReceiveAttempts, reads k ≠ .closed := fun k hk hclosed =>
      hend ⟨k, hk, hclosed⟩
    rw [pullNextMessage_gives_up fun k hk => ⟨hopen k hk, hwaits k hk
      fun j hj => hopen j (hj.trans hk)⟩]
    exact ⟨_, rfl⟩

/-! While the buffer is a part of one stream that starts with the message, every
round up to the one that finds it waits. -/

omit [Sodium] in
/-- A buffer that holds only a part of the message. -/
theorem extract_partial {buffer missing : ByteString} (hmessage : Transmissible message)
    (hbuffer : buffer ++ missing = appendLengthPrefixedMessage message ++ rest)
    (hshort : buffer.length < (appendLengthPrefixedMessage message).length) :
    extractLengthPrefixedMessage buffer maxNoiseMessageSize = .incomplete :=
  extract_incomplete hmessage.1 hmessage.2 (lt_of_le_of_lt hmessage.2 (by decide)) hbuffer hshort

omit [Sodium] in
/-- The first round that finds the message has it all, and what came after it. -/
theorem stream_waits (hmessage : Transmissible message)
    (hstream : ∀ k < maxReceiveAttempts, ∃ missing rest,
      buffered reads connection k ++ missing = appendLengthPrefixedMessage message ++ rest)
    (hopen : ∀ k < maxReceiveAttempts, (buffered reads connection k).length <
      (appendLengthPrefixedMessage message).length → reads k ≠ .closed)
    (hcount : count < maxReceiveAttempts)
    (henough : (appendLengthPrefixedMessage message).length ≤
      (buffered reads connection count).length) :
    ∃ n ≤ count, ∃ rest, buffered reads connection n =
        appendLengthPrefixedMessage message ++ rest ∧
      n < maxReceiveAttempts ∧ ∀ k < n, reads k ≠ .closed ∧ extractLengthPrefixedMessage
        (buffered reads connection k) maxNoiseMessageSize = .incomplete := by
  classical
  have hexists : ∃ n, (appendLengthPrefixedMessage message).length ≤
      (buffered reads connection n).length := ⟨count, henough⟩
  obtain ⟨n, hn, hfound, hbefore⟩ : ∃ n ≤ count, (appendLengthPrefixedMessage message).length ≤
      (buffered reads connection n).length ∧ ∀ k < n, (buffered reads connection k).length <
        (appendLengthPrefixedMessage message).length :=
    ⟨Nat.find hexists, Nat.find_min' hexists henough, Nat.find_spec hexists,
      fun k hk => not_le.mp (Nat.find_min hexists hk)⟩
  obtain ⟨missing, following, hsplit⟩ := hstream n (by omega)
  obtain ⟨rest, hrest⟩ : ∃ rest, buffered reads connection n =
      appendLengthPrefixedMessage message ++ rest := by
    obtain ⟨rest, hrest⟩ := List.prefix_of_prefix_length_le
      (List.prefix_append (appendLengthPrefixedMessage message) following)
      (hsplit ▸ List.prefix_append (buffered reads connection n) missing) hfound
    exact ⟨rest, hrest.symm⟩
  refine ⟨n, hn, rest, hrest, by omega, fun k hk => ?_⟩
  obtain ⟨missing, following, hsplit⟩ := hstream k (by omega)
  exact ⟨hopen k (by omega) (hbefore k hk), extract_partial hmessage hsplit (hbefore k hk)⟩

omit [Sodium] in
/-- So the client pulls the message in that round. -/
theorem pullNextMessage_stream (hmessage : Transmissible message)
    (hstream : ∀ k < maxReceiveAttempts, ∃ missing rest,
      buffered reads connection k ++ missing = appendLengthPrefixedMessage message ++ rest)
    (hopen : ∀ k < maxReceiveAttempts, (buffered reads connection k).length <
      (appendLengthPrefixedMessage message).length → reads k ≠ .closed)
    (hcount : count < maxReceiveAttempts)
    (henough : (appendLengthPrefixedMessage message).length ≤
      (buffered reads connection count).length) :
    ∃ n ≤ count, ∃ rest, buffered reads connection n =
        appendLengthPrefixedMessage message ++ rest ∧
      pullNextMessage reads connection =
        (.ok message, { connection with inputBuffer := rest }) := by
  obtain ⟨n, hn, rest, hrest, hround, hwaits⟩ := stream_waits hmessage hstream hopen hcount henough
  exact ⟨n, hn, rest, hrest, pullNextMessage_arrives hmessage hround hwaits hrest⟩

end Rounds

/-! ### A stream that comes piece by piece

The bytes of the server come in their order, but the network decides how many of
them a read finds. -/

/-- What a `recv` finds: so many bytes, up to the size of a read, nothing until
the timeout, or a connection that is gone. -/
inductive Arrival where
  | arrived (count : ℕ)
  | silent
  | lost
deriving DecidableEq

/-- The bytes it takes from the stream. -/
def Arrival.size : Arrival → ℕ
  | .arrived count => min count readChunkSize
  | .silent => 0
  | .lost => 0

/-- The bytes that the first reads take. -/
def taken (arrivals : ℕ → Arrival) : ℕ → ℕ
  | 0 => 0
  | count + 1 => taken arrivals count + (arrivals count).size

/-- The reads of a stream of bytes that arrives like this. When all of it was
read, there is its end, or nothing. -/
def arrivingReads (arrivals : ℕ → Arrival) (bytes : ByteString) (stillOpen : Bool)
    (attempt : ℕ) : SocketRead :=
  match arrivals attempt with
  | .lost => .closed
  | .silent => .silent
  | .arrived count =>
    if taken arrivals attempt < bytes.length then
      .received ((bytes.drop (taken arrivals attempt)).take (min count readChunkSize))
    else if stillOpen then .silent else .closed

/-- So many bytes are read before the last round, and the connection is not gone
before that. -/
def Arrives (arrivals : ℕ → Arrival) (size : ℕ) : Prop :=
  ∃ n < maxReceiveAttempts, (∀ k < n, arrivals k ≠ .lost) ∧ size ≤ taken arrivals n

instance (arrivals : ℕ → Arrival) (size : ℕ) : Decidable (Arrives arrivals size) :=
  inferInstanceAs (Decidable (∃ n, n < maxReceiveAttempts ∧
    (∀ k < n, arrivals k ≠ .lost) ∧ size ≤ taken arrivals n))

/-- A network that has everything at once: each read is as large as it can be. -/
def atOnce (_ : ℕ) : Arrival := .arrived readChunkSize

section Arriving

variable {connection : ServerConnection} {message bytes : ByteString} {arrivals : ℕ → Arrival}
  {stillOpen : Bool} {size count : ℕ}

omit [Sodium]

theorem taken_le (arrivals : ℕ → Arrival) (count : ℕ) :
    taken arrivals count ≤ count * readChunkSize := by
  induction count with
  | zero => exact Nat.zero_le _
  | succ count ih =>
    have hsize : (arrivals count).size ≤ readChunkSize := by
      cases arrivals count with
      | arrived _ => exact Nat.min_le_right ..
      | silent => exact Nat.zero_le _
      | lost => exact Nat.zero_le _
    rw [taken, Nat.succ_mul]
    exact Nat.add_le_add ih hsize

theorem taken_mono (arrivals : ℕ → Arrival) : Monotone (taken arrivals) :=
  monotone_nat_of_le_succ fun _ => Nat.le_add_right ..

theorem taken_atOnce (count : ℕ) : taken atOnce count = count * readChunkSize := by
  induction count with
  | zero => rw [taken, Nat.zero_mul]
  | succ count ih => rw [taken, ih, atOnce, Arrival.size, Nat.min_self, Nat.succ_mul]

/-- However the bytes come, the rounds bound them. -/
theorem Arrives.le_maxReceivable (h : Arrives arrivals size) : size ≤ maxReceivable := by
  obtain ⟨n, hn, -, hsize⟩ := h
  exact (hsize.trans (taken_le arrivals n)).trans (Nat.mul_le_mul_right _ (Nat.le_pred_of_lt hn))

/-- The fastest network brings whatever the rounds can take. -/
theorem arrives_atOnce_iff : Arrives atOnce size ↔ size ≤ maxReceivable := by
  refine ⟨Arrives.le_maxReceivable, fun hsize => ⟨maxReceiveAttempts - 1, by decide, ?_, ?_⟩⟩
  · exact fun k _ => Arrival.noConfusion
  · rwa [taken_atOnce]

/-- The first reads are the first bytes of the stream. -/
theorem buffered_arriving (hempty : connection.inputBuffer = []) (count : ℕ) :
    buffered (arrivingReads arrivals bytes stillOpen) connection count =
      bytes.take (taken arrivals count) := by
  induction count with
  | zero => rw [buffered, hempty, taken, List.take_zero]
  | succ count ih =>
    rw [buffered, ih, taken, List.take_add, arrivingReads]
    cases arrivals count with
    | silent => rw [Arrival.size, List.take_zero]; rfl
    | lost => rw [Arrival.size, List.take_zero]; rfl
    | arrived found =>
      dsimp only
      split
      · rfl
      · next hall =>
        rw [List.drop_eq_nil_of_le (not_lt.mp hall), List.take_nil]
        cases stillOpen <;> rfl

/-- What is still missing after some reads. -/
theorem arriving_missing (message : ByteString) (hempty : connection.inputBuffer = []) (k : ℕ) :
    ∃ missing rest, buffered (arrivingReads arrivals (appendLengthPrefixedMessage message)
      stillOpen) connection k ++ missing = appendLengthPrefixedMessage message ++ rest := by
  refine ⟨(appendLengthPrefixedMessage message).drop (taken arrivals k), [], ?_⟩
  rw [buffered_arriving hempty, List.take_append_drop, List.append_nil]

/-- Before all of it was read, the stream only ends if the connection is gone. -/
theorem arrivingReads_open (hthere : arrivals count ≠ .lost)
    (hmore : taken arrivals count < bytes.length) :
    arrivingReads arrivals bytes stillOpen count ≠ .closed := by
  intro hclosed
  rw [arrivingReads] at hclosed
  split at hclosed
  · next hlost => exact hthere hlost
  · cases hclosed
  · rw [if_pos hmore] at hclosed
    cases hclosed

/-- A message that arrives is what the client pulls, and it takes all of it from
the stream. -/
theorem pullNextMessage_arriving (hmessage : Transmissible message)
    (hempty : connection.inputBuffer = [])
    (harrives : Arrives arrivals (appendLengthPrefixedMessage message).length)
    (stillOpen : Bool) :
    pullNextMessage (arrivingReads arrivals (appendLengthPrefixedMessage message) stillOpen)
        connection = (.ok message, { connection with inputBuffer := [] }) ∧
      (appendLengthPrefixedMessage message).length ≤ taken arrivals
        (pullReads (arrivingReads arrivals (appendLengthPrefixedMessage message) stillOpen)
          maxReceiveAttempts connection) := by
  obtain ⟨last, hlast, hthere, henough⟩ := harrives
  have hbuffered : ∀ k, (buffered (arrivingReads arrivals (appendLengthPrefixedMessage message)
      stillOpen) connection k).length =
        min (taken arrivals k) (appendLengthPrefixedMessage message).length := by
    intro k
    rw [buffered_arriving hempty, List.length_take]
  have hopen : ∀ k < maxReceiveAttempts, (buffered (arrivingReads arrivals
      (appendLengthPrefixedMessage message) stillOpen) connection k).length <
        (appendLengthPrefixedMessage message).length →
      arrivingReads arrivals (appendLengthPrefixedMessage message) stillOpen k ≠ .closed := by
    intro k _ hshort
    rw [hbuffered] at hshort
    have hmore : taken arrivals k < (appendLengthPrefixedMessage message).length := by omega
    have hbefore : k < last := (taken_mono arrivals).reflect_lt (hmore.trans_le henough)
    exact arrivingReads_open (hthere k hbefore) hmore
  obtain ⟨n, -, rest, hbuffer, hwaits⟩ := stream_waits hmessage
    (fun k _ => arriving_missing message hempty k) hopen hlast (by rw [hbuffered]; omega)
  have hlength := congrArg List.length hbuffer
  rw [hbuffered, List.length_append] at hlength
  obtain rfl : rest = [] := List.length_eq_zero_iff.mp (by omega)
  obtain ⟨hn, hwaits⟩ := hwaits
  refine ⟨pullNextMessage_arrives hmessage hn hwaits hbuffer, ?_⟩
  rw [pullReads_arrives hmessage hn hwaits hbuffer]
  rw [List.length_nil] at hlength
  omega

/-- One that does not arrive is given up, or the connection is gone. -/
theorem pullNextMessage_missing (hmessage : Transmissible message)
    (hempty : connection.inputBuffer = [])
    (hmissing : ¬ Arrives arrivals (appendLengthPrefixedMessage message).length) :
    ∃ error, (pullNextMessage (arrivingReads arrivals (appendLengthPrefixedMessage message)
      stillOpen) connection).1 = .error error := by
  refine pullNextMessage_fails fun k hk hopen => ?_
  obtain ⟨missing, rest, hsplit⟩ := arriving_missing message hempty k
  refine extract_partial hmessage hsplit ?_
  rw [buffered_arriving hempty, List.length_take]
  have hshort : taken arrivals k < (appendLengthPrefixedMessage message).length := by
    refine not_le.mp fun henough => hmissing ⟨k, hk, fun j hj hlost => hopen j hj ?_, henough⟩
    rw [arrivingReads, hlost]
  omega

/-- Nothing can be pulled from a stream without bytes. -/
theorem pullNextMessage_nothing (hempty : connection.inputBuffer = []) :
    ∃ error, (pullNextMessage (arrivingReads arrivals [] stillOpen) connection).1 =
      .error error := by
  refine pullNextMessage_fails fun k _ _ => ?_
  rw [buffered_arriving hempty, List.take_nil]
  rfl

end Arriving

/-! ## `open_session` -/

/-- The reset and the first message of `perform_handshake`: the message, and the
connection that waits for the answer. -/
def startHandshake (ephemeral : EphemeralKeypair) (connection : ServerConnection) :
    Option ByteString × ServerConnection :=
  let connection := { connection.reset with isOpen := true }
  match NoiseHandshakeInitiator.writeFirstMessage ephemeral [] connection.handshake with
  | (first?, handshake) => (first?, { connection with handshake })

/-- What `perform_handshake` does with the second message. -/
def finishHandshake (response : ByteString) (connection : ServerConnection) :
    Except ByteString Unit × ServerConnection :=
  match NoiseHandshakeInitiator.readSecondMessage response connection.handshake with
  | (none, handshake) =>
    (.error (ascii "handshake refuse : la cle du serveur ne correspond pas a celle epinglee"),
      { connection with handshake })
  | (some _, handshake) =>
    match handshake.exportTransportKeys with
    | none =>
      (.error (ascii "handshake : derivation des cles de transport impossible"),
        { connection with handshake })
    | some (sendKey, receiveKey) =>
      (.ok (), { connection with
        handshake, transport := some (NoiseTransport.create sendKey receiveKey) })

/-- What the socket and the random generator do during one call. -/
structure SocketBehaviour where
  /-- `connect_to_host`, then `perform_socks5_connect` behind a proxy -/
  dial : Except ByteString Unit := .ok ()
  ephemeral : EphemeralKeypair := none
  /-- the result of `send_all` -/
  sent : Bool := true
  /-- the results of `receive_available`, in order -/
  reads : ℕ → SocketRead := fun _ => .silent

/-- `open_session`; a handshake that fails closes the session again. -/
def openSession (behaviour : SocketBehaviour) (connection : ServerConnection) :
    Except ByteString Unit × ServerConnection :=
  match behaviour.dial with
  | .error error => (.error error, connection.reset)
  | .ok () =>
    match connection.startHandshake behaviour.ephemeral with
    | (none, connection) =>
      (.error (ascii "handshake : premier message impossible a construire"),
        { connection with isOpen := false })
    | (some _, connection) =>
      if !behaviour.sent then
        (.error (ascii "handshake : envoi impossible"), { connection with isOpen := false })
      else
        match connection.pullNextMessage behaviour.reads with
        | (.error error, connection) => (.error error, { connection with isOpen := false })
        | (.ok response, connection) =>
          match connection.finishHandshake response with
          | (.error error, connection) => (.error error, { connection with isOpen := false })
          | (.ok (), connection) => (.ok (), connection)

/-! ## `send_frame` and `receive_frame` -/

/-- The message `send_frame` hands to the socket. -/
def sealFrame (type : MessageType) (payload : ByteString) (connection : ServerConnection) :
    Option ByteString × ServerConnection :=
  if !connection.isOpen then (none, connection)
  else
    match connection.transport with
    | none => (none, connection)
    | some transport =>
      match encodeFrame type payload with
      | none => (none, connection)
      | some frame =>
        let out := NoiseTransport.encryptMessage frame transport
        (out.1, { connection with transport := some out.2 })

/-- `send_frame` -/
def sendFrame (behaviour : SocketBehaviour) (type : MessageType) (payload : ByteString)
    (connection : ServerConnection) : Bool × ServerConnection :=
  match connection.sealFrame type payload with
  | (none, connection) => (false, connection)
  | (some _, connection) => (behaviour.sent, connection)

/-- What `receive_frame` makes of a message that was pulled. -/
def openFrame (message : ByteString) (connection : ServerConnection) :
    Except ByteString (MessageType × ByteString) × ServerConnection :=
  match connection.transport with
  | none => (.error (ascii "session fermee"), connection)
  | some transport =>
    match NoiseTransport.decryptMessage message transport with
    | (none, transport) =>
      (.error (ascii "dechiffrement impossible : session compromise"),
        { connection with transport := some transport, isOpen := false })
    | (some frame, transport) =>
      let connection := { connection with transport := some transport }
      let malformed : Except ByteString (MessageType × ByteString) × ServerConnection :=
        (.error (ascii "trame mal formee"), { connection with isOpen := false })
      match decodeFrameHeader frame with
      | none => malformed
      | some header =>
        if frame.length ≠ frameLengthFieldSize + header.bodySize.toNat then malformed
        else (.ok (header.type, frame.drop frameHeaderSize), connection)

/-- `receive_frame` -/
def receiveFrame (behaviour : SocketBehaviour) (connection : ServerConnection) :
    Except ByteString (MessageType × ByteString) × ServerConnection :=
  if !connection.isOpen || connection.transport.isNone then
    (.error (ascii "session fermee"), connection)
  else
    match connection.pullNextMessage behaviour.reads with
    | (.error error, connection) => (.error error, connection)
    | (.ok message, connection) => connection.openFrame message

/-! ## What a frame does to the connection -/

section Frames

variable {connection connection' : ServerConnection} {type : MessageType} {payload : ByteString}

/-- A frame that was sealed: the next message of the transport. -/
theorem sealFrame_some {message : ByteString}
    (h : connection.sealFrame type payload = (some message, connection')) :
    Transmissible message ∧ connection'.inputBuffer = connection.inputBuffer ∧
      connection'.isOpen = true := by
  unfold sealFrame at h
  split at h
  · cases h
  next hopen =>
  rw [Bool.not_eq_true, Bool.not_eq_false'] at hopen
  split at h
  · cases h
  next transport _ =>
  split at h
  · cases h
  next frame hframe =>
  obtain ⟨hfits, rfl⟩ := encodeFrame_eq_some.mp hframe
  rcases hencrypt : NoiseTransport.encryptMessage (frameBytes type payload) transport with
    ⟨sealed?, transport'⟩
  rw [hencrypt] at h
  obtain ⟨rfl, rfl⟩ := Prod.mk.inj h
  rcases NoiseTransport.encryptMessage_cases hencrypt with ⟨⟨⟩, -⟩ | ⟨hsealed, -⟩
  obtain rfl := Option.some.inj hsealed
  exact ⟨transmissible_sealedMessage _ _ hfits, rfl, hopen⟩

variable (type) in
/-- A frame that fits is sealed as the next message, while nonces are left. -/
theorem sealFrame_sealed {transport : NoiseTransport} (hopen : connection.isOpen = true)
    (established : connection.transport = some transport)
    (nonces : transport.sendState.nonceCounter ≠ NoiseCipherState.exhausted)
    (fits : payload.length ≤ maxPayloadSize) :
    ∃ transport' : NoiseTransport,
      transport'.sendCounter = transport.sendCounter + 1 ∧
      transport'.sendKey = transport.sendKey ∧
      transport'.receiveState = transport.receiveState ∧
      connection.sealFrame type payload =
        (some (sealedMessage transport.sendKey transport.sendCounter (frameBytes type payload)),
          { connection with transport := some transport' }) := by
  have hframe : encodeFrame type payload = some (frameBytes type payload) :=
    encodeFrame_eq_some.mpr ⟨fits, rfl⟩
  have hsealed := NoiseTransport.encryptMessage_some (frameBytes type payload) nonces
  rcases hencrypt : NoiseTransport.encryptMessage (frameBytes type payload) transport with
    ⟨sealed?, transport'⟩
  rw [hencrypt] at hsealed
  rcases NoiseTransport.encryptMessage_cases hencrypt with ⟨rfl, -⟩ | ⟨rfl, hcounter, hkey, hreceive⟩
  · cases hsealed
  · refine ⟨transport', hcounter, hkey, hreceive, ?_⟩
    simp only [sealFrame, hopen, established, hframe, hencrypt, Bool.not_true, Bool.false_eq_true,
      if_false]

variable (type) in
/-- The next message of the peer opens to its frame, while nonces are left. -/
theorem openFrame_sealed {transport : NoiseTransport}
    (established : connection.transport = some transport)
    (nonces : transport.receiveState.nonceCounter ≠ NoiseCipherState.exhausted)
    (fits : payload.length ≤ maxPayloadSize) :
    ∃ transport' : NoiseTransport,
      transport'.receiveCounter = transport.receiveCounter + 1 ∧
      transport'.receiveState.key = transport.receiveState.key ∧
      transport'.sendState = transport.sendState ∧
      connection.openFrame (sealedMessage transport.receiveState.key transport.receiveCounter
          (frameBytes type payload)) =
        (.ok (type, payload), { connection with transport := some transport' }) := by
  obtain ⟨transport', hdecrypt, hcounter, hkey, hsend⟩ :=
    NoiseTransport.decryptMessage_sealed (frameBytes type payload) nonces
  refine ⟨transport', hcounter, hkey, hsend, ?_⟩
  have hlength : ¬ (frameBytes type payload).length ≠ frameLengthFieldSize +
      (UInt32.ofNat (frameTypeFieldSize + payload.length)).toNat :=
    not_not.mpr (frameBytes_bodySize fits)
  simp only [openFrame, established, hdecrypt, decodeFrameHeader_frameBytes fits, if_neg hlength,
    frameBytes_payload]

/-- A frame that could not be sealed leaves the connection as it was. -/
theorem sealFrame_none (h : connection.sealFrame type payload = (none, connection')) :
    connection' = connection := by
  unfold sealFrame at h
  split at h
  · exact (Prod.mk.inj h).2.symm
  split at h
  · exact (Prod.mk.inj h).2.symm
  next transport htransport =>
  split at h
  · exact (Prod.mk.inj h).2.symm
  next frame _ =>
  rcases hencrypt : NoiseTransport.encryptMessage frame transport with ⟨sealed?, transport'⟩
  rw [hencrypt] at h
  obtain ⟨rfl, rfl⟩ := Prod.mk.inj h
  rcases NoiseTransport.encryptMessage_cases hencrypt with ⟨-, rfl⟩ | ⟨⟨⟩, -⟩
  rw [← htransport]

/-- A message that opens to a frame leaves the buffer and the session alone. -/
theorem openFrame_ok {message : ByteString} {frame : MessageType × ByteString}
    (h : connection.openFrame message = (.ok frame, connection')) :
    connection'.inputBuffer = connection.inputBuffer ∧ connection'.isOpen = connection.isOpen := by
  unfold openFrame at h
  split at h
  · cases h
  split at h
  · cases h
  simp only at h
  split at h
  · cases h
  split at h
  · cases h
  · obtain ⟨-, rfl⟩ := Prod.mk.inj h
    exact ⟨rfl, rfl⟩

/-- The first message of a session. -/
theorem startHandshake_some {ephemeral : EphemeralKeypair} {first : ByteString}
    (h : connection.startHandshake ephemeral = (some first, connection')) :
    Transmissible first ∧ connection'.inputBuffer = [] ∧ connection'.isOpen = true := by
  rcases hwrite : NoiseHandshakeInitiator.writeFirstMessage ephemeral []
    { connection.reset with isOpen := true }.handshake with ⟨first?, handshake⟩
  simp only [startHandshake, hwrite] at h
  obtain ⟨rfl, rfl⟩ := Prod.mk.inj h
  have hlength := NoiseHandshakeInitiator.writeFirstMessage_length hwrite
  refine ⟨⟨?_, ?_⟩, rfl, rfl⟩
  · rintro rfl
    cases hlength
  · rw [hlength]
    decide

/-- The second one. -/
theorem finishHandshake_frame (response : ByteString) (connection : ServerConnection) :
    (connection.finishHandshake response).2.inputBuffer = connection.inputBuffer ∧
      (connection.finishHandshake response).2.isOpen = connection.isOpen := by
  unfold finishHandshake
  split
  · exact ⟨rfl, rfl⟩
  · split
    · exact ⟨rfl, rfl⟩
    · exact ⟨rfl, rfl⟩

end Frames

end ServerConnection

end HyperCom
