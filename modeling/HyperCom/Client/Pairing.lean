import HyperCom.Client.ServerConnection
import HyperCom.Lib.Run
import HyperCom.Server.Replies

/-!
# Requests and their replies

One client and one server with the bytes in flight between them. The client
keeps no identifier with a request: the `k`-th frame it consumes stands for the
reply to the `k`-th request. The handshake is the exchange of number 0, and a
login is exchanges like any others, so what holds of any order of sends and
receives holds of `authenticate`, of `register_handle` and of what follows.

`replies_paired`: the positions agree in every run in which no receive gives up
waiting, no session is accepted while a message of the day is active, and the
session guard gets its refusals out. `replies_shifted` is a run with a message
of the day, in which they do not.
-/

namespace HyperCom

open StepRun

variable [Sodium]

/-! ## The two ends -/

/-- What `pull_next_message` was called for. -/
inductive PullPurpose where
  | handshake
  | frame
deriving DecidableEq

/-- A call of `pull_next_message` in progress. -/
structure Pull where
  purpose : PullPurpose
  attemptsLeft : ℕ := ServerConnection.maxReceiveAttempts

/-- How a call of `pull_next_message` ended, on a session that is still open. -/
inductive Receipt where
  | handshake (message : ByteString)
  | frame (message : ByteString) (type : MessageType) (payload : ByteString)
  | timeout
deriving DecidableEq

/-- The message that was consumed. -/
def Receipt.message : Receipt → Option ByteString
  | .handshake message => some message
  | .frame message _ _ => some message
  | .timeout => none

/-- A client, a server and the bytes in flight. The last three fields are logs
that neither end keeps: the messages the client sent, the messages the server
handled with what it queued meanwhile, and how each call of `pull_next_message`
ended. -/
structure Link where
  client : ServerConnection
  pull : Option Pull := none
  server : ProcessorState
  toServer : ByteString := []
  toClient : ByteString := []
  requests : List ByteString := []
  answers : List AnsweredRequest := []
  receipts : List Receipt := []

/-- What can happen next. The database and the rate counters are whatever the
other connections have made of them when the server handles the input. -/
inductive LinkEvent where
  /-- `open_session`, up to the wait for the server's message -/
  | openSession (ephemeral : EphemeralKeypair)
  /-- `send_frame` -/
  | send (type : MessageType) (payload : ByteString)
  /-- `receive_frame`, up to the wait -/
  | receive
  /-- a round of `pull_next_message` that could read `count` bytes -/
  | attempt (count : ℕ)
  /-- `process_connection_input` on the next `count` bytes -/
  | serve (count : ℕ) (database : DatabaseHandle) (policy : RatePolicy) (world : ℕ → Ambient)
  /-- the next `count` bytes of the output are on their way -/
  | flush (count : ℕ)

/-- What `receive_available` finds. -/
def Link.arriving (link : Link) (count : ℕ) : ByteString :=
  link.toClient.take (min count ServerConnection.readChunkSize)

/-- What the client does with a message it pulled. -/
def Link.consume (link : Link) (purpose : PullPurpose) (message : ByteString)
    (client : ServerConnection) : Option Link :=
  match purpose with
  | .handshake =>
    match client.finishHandshake message with
    | (.error _, _) => none
    | (.ok (), client) =>
      some { link with client, pull := none, receipts := link.receipts ++ [.handshake message] }
  | .frame =>
    match client.openFrame message with
    | (.error _, _) => none
    | (.ok (type, payload), client) =>
      some { link with
        client, pull := none, receipts := link.receipts ++ [.frame message type payload] }

/-- A round of `pull_next_message` that found no message: the attempts run out,
which ends `open_session`, or `receive_frame` alone. -/
def Link.wait (link : Link) (pull : Pull) (client : ServerConnection) (count : ℕ) : Option Link :=
  let link := { link with client, toClient := link.toClient.drop (min count ServerConnection.readChunkSize) }
  if pull.attemptsLeft ≤ 1 then
    match pull.purpose with
    | .handshake => none
    | .frame => some { link with pull := none, receipts := link.receipts ++ [.timeout] }
  else some { link with pull := some { pull with attemptsLeft := pull.attemptsLeft - 1 } }

/-- The state in which the server handles its input. -/
def Link.serving (link : Link) (count : ℕ) (database : DatabaseHandle) (policy : RatePolicy) :
    ProcessorState :=
  ProcessorState.withInput { context := { link.server.context with database }, policy }
    (link.server.inputBuffer ++ link.toServer.take count)

/-- One event; `none` when the event cannot happen, or when it ends the session
on either side. A socket whose writes fail ends it too. -/
def Link.step (link : Link) : LinkEvent → Option Link
  | .openSession ephemeral =>
    if link.client.isOpen then none
    else
      match link.client.startHandshake ephemeral with
      | (none, _) => none
      | (some message, client) =>
        some { link with
          client, pull := some { purpose := .handshake }
          toServer := link.toServer ++ appendLengthPrefixedMessage message
          requests := link.requests ++ [message] }
  | .send type payload =>
    if link.pull.isSome then none
    else
      match link.client.sealFrame type payload with
      | (none, _) => some link
      | (some message, client) =>
        some { link with
          client, toServer := link.toServer ++ appendLengthPrefixedMessage message
          requests := link.requests ++ [message] }
  | .receive =>
    if link.pull.isSome || !link.client.isOpen || link.client.transport.isNone then none
    else some { link with pull := some { purpose := .frame } }
  | .attempt count =>
    match link.pull with
    | none => none
    | some pull =>
      match link.client.pullAttempt (.received (link.arriving count)) with
      | (.message message, client) => link.consume pull.purpose message client
      | (.failed _, _) => none
      | (.waiting, client) => link.wait pull client count
  | .serve count database policy world =>
    match processBuffer world 0 (link.serving count database policy) with
    | (false, _) => none
    | (true, server) =>
      some { link with
        server, toServer := link.toServer.drop count
        answers := processBufferLog answerEntry world 0 (link.serving count database policy)
          link.answers }
  | .flush count =>
    let pending := link.server.pendingOutput
    some { link with
      server := { link.server with context := { link.server.context with
        connection := { link.server.context.connection with
          socket := { pendingOutput := pending.drop count } } } }
      toClient := link.toClient ++ pending.take count }

/-- A client that has dialed, and the connection the server accepted. -/
def Link.dialed (pinned : X25519PublicKey) (config : ServerConfig)
    (staticPublic : X25519PublicKey) (staticSecret : X25519SecretKey) (peerAddress : ByteString)
    (connectedAt : UInt64) : Link :=
  { client := ServerConnection.create pinned
    server :=
      { context :=
          { config, database := {}
            connection :=
              ClientConnection.accepted staticPublic staticSecret peerAddress connectedAt }
        policy := { perAddress := 0, perIdentity := 0 } } }

/-! ## What is required, and of which runs -/

/-- The `k`-th message the client consumed is the reply to the `k`-th one it
sent. -/
def Link.Paired (link : Link) : Prop :=
  ∀ (k : ℕ) (receipt : Receipt) (message : ByteString), link.receipts[k]? = some receipt →
    receipt.message = some message →
    ∃ answered, link.answers[k]? = some answered ∧
      link.requests[k]? = some answered.request ∧ answered.reply = some message

/-- The attempts of a `receive_frame` are about to run out. -/
def Link.givesUp (link : Link) : Bool :=
  match link.pull with
  | some { purpose := .frame, attemptsLeft } => decide (attemptsLeft ≤ 1) &&
    decide (extractLengthPrefixedMessage link.client.inputBuffer maxNoiseMessageSize = .incomplete)
  | _ => false

/-- The event is not a round that gives up, and every message it makes the server
handle is one that is answered once. -/
def Link.Orderly (link : Link) : LinkEvent → Prop
  | .attempt _ => link.givesUp = false
  | .serve count database policy world =>
    EachMessage AnsweredOnce world 0 (link.serving count database policy)
  | _ => True

instance (link : Link) (event : LinkEvent) : Decidable (link.Orderly event) :=
  match event with
  | .attempt _ => inferInstanceAs (Decidable (_ = false))
  | .serve _ _ _ _ => inferInstanceAs (Decidable (EachMessage AnsweredOnce _ _ _))
  | .openSession _ | .send _ _ | .receive | .flush _ => .isTrue trivial

/-! ## The invariant -/

/-- The two ends are in step: of the requests, `handled` were answered, each with
the one message it is paired with here, and the others are on their way; of the
replies, the client consumed some and those `waiting` are on their way. -/
structure Link.InStep (link : Link) (handled : List (ByteString × ByteString))
    (unhandled waiting : List ByteString) : Prop where
  requests : link.requests = handled.map Prod.fst ++ unhandled
  answers : link.answers = handled.map fun answered => .once answered.1 answered.2
  receipts : (handled.map fun answered => some answered.2) =
    link.receipts.map Receipt.message ++ waiting.map some
  toServer : link.server.inputBuffer ++ link.toServer = messageStream unhandled
  toClient : link.client.inputBuffer ++ link.toClient ++ link.server.pendingOutput =
    messageStream waiting
  sent : ∀ request ∈ link.requests, Transmissible request
  queued : ∀ answered ∈ handled, Transmissible answered.2
  unopened : link.client.isOpen = false → link.requests = []

section Invariant

variable {link link' : Link} {handled : List (ByteString × ByteString)}
  {unhandled waiting : List ByteString}

omit [Sodium] in
/-- Ends that are in step pair the replies with the requests. -/
theorem Link.InStep.paired (h : link.InStep handled unhandled waiting) : link.Paired := by
  intro k receipt message hreceipt hmessage
  have hk : k < link.receipts.length := (List.getElem?_eq_some_iff.mp hreceipt).1
  -- the message stands at the same place among the replies
  have hreply : (handled.map fun answered => some answered.2)[k]? = some (some message) := by
    rw [h.receipts, List.getElem?_append_left (by rwa [List.length_map]), List.getElem?_map,
      hreceipt, Option.map_some, hmessage]
  rw [List.getElem?_map] at hreply
  obtain ⟨answered, hanswered, hsome⟩ := Option.map_eq_some_iff.mp hreply
  obtain rfl := Option.some.inj hsome
  refine ⟨.once answered.1 answered.2, ?_, ?_, ?_⟩
  · rw [h.answers, List.getElem?_map, hanswered, Option.map_some]
  · have hlength : k < (handled.map Prod.fst).length := by
      rw [List.length_map]
      exact (List.getElem?_eq_some_iff.mp hanswered).1
    rw [h.requests, List.getElem?_append_left hlength, List.getElem?_map, hanswered,
      Option.map_some]
    rfl
  · exact AnsweredRequest.reply_once (h.queued answered (List.mem_of_getElem? hanswered))

omit [Sodium] in
/-- Another request on its way. -/
theorem Link.InStep.request {client : ServerConnection} {pull : Option Pull} {message : ByteString}
    (h : link.InStep handled unhandled waiting) (hmessage : Transmissible message)
    (hbuffer : client.inputBuffer = link.client.inputBuffer) (hopen : client.isOpen = true) :
    Link.InStep
      { link with
        client, pull, toServer := link.toServer ++ appendLengthPrefixedMessage message
        requests := link.requests ++ [message] }
      handled (unhandled ++ [message]) waiting where
  requests := by rw [h.requests, List.append_assoc]
  answers := h.answers
  receipts := h.receipts
  toServer := by
    rw [← List.append_assoc, h.toServer, messageStream_append, messageStream_singleton]
  toClient := by rw [hbuffer, h.toClient]
  sent := by
    intro request hmem
    rcases List.mem_append.mp hmem with hmem | hmem
    · exact h.sent request hmem
    · rwa [List.mem_singleton.mp hmem]
  queued := h.queued
  unopened := by
    intro hclosed
    rw [hopen] at hclosed
    cases hclosed

omit [Sodium] in
/-- A session that was never opened: nothing is anywhere. -/
theorem Link.InStep.untouched (h : link.InStep handled unhandled waiting)
    (hclosed : link.client.isOpen = false) : link.client.inputBuffer = [] := by
  have hrequests := h.requests
  rw [h.unopened hclosed] at hrequests
  obtain ⟨hhandled, -⟩ := List.append_eq_nil_iff.mp hrequests.symm
  rw [List.map_eq_nil_iff] at hhandled
  subst hhandled
  have hwaiting : waiting = [] :=
    List.map_eq_nil_iff.mp (List.append_eq_nil_iff.mp h.receipts.symm).2
  have hstream := h.toClient
  rw [hwaiting, messageStream_nil] at hstream
  exact (List.append_eq_nil_iff.mp (List.append_eq_nil_iff.mp hstream).1).1

/-- A reply is consumed: it is the first of those waiting. -/
theorem Link.InStep.consumed {purpose : PullPurpose} {message rest : ByteString}
    (h : link.InStep handled unhandled waiting)
    (hextract : extractLengthPrefixedMessage link.client.inputBuffer maxNoiseMessageSize =
      .message message rest)
    (hconsume : link.consume purpose message { link.client with inputBuffer := rest } =
      some link') :
    ∃ waiting', link'.InStep handled unhandled waiting' := by
  have hwaiting : ∀ reply ∈ waiting, Transmissible reply := by
    intro reply hmem
    have hmem' : some reply ∈ handled.map fun answered => some answered.2 := by
      rw [h.receipts]
      exact List.mem_append_right _ (List.mem_map_of_mem hmem)
    obtain ⟨answered, hanswered, hsome⟩ := List.mem_map.mp hmem'
    obtain rfl := Option.some.inj hsome
    exact h.queued answered hanswered
  have hstream := h.toClient
  rw [List.append_assoc] at hstream
  obtain ⟨waiting', rfl, hrest⟩ := extract_stream (by decide) hwaiting hstream hextract
  refine ⟨waiting', ?_⟩
  -- whatever the message was for, only the client's buffer and the log change
  have hkept : ∀ {client : ServerConnection} {receipt : Receipt}, client.inputBuffer = rest →
      client.isOpen = link.client.isOpen → receipt.message = some message →
      Link.InStep { link with client, pull := none, receipts := link.receipts ++ [receipt] }
        handled unhandled waiting' := by
    intro client receipt hbuffer hopen hreceipt
    refine { h with receipts := ?_, toClient := ?_, unopened := ?_ }
    · rw [h.receipts, List.map_append, List.map_cons, List.map_cons, List.map_nil, hreceipt,
        List.append_assoc, List.singleton_append]
    · rw [hbuffer, List.append_assoc]
      exact hrest
    · intro hclosed
      rw [hopen] at hclosed
      exact h.unopened hclosed
  cases purpose with
  | handshake =>
    obtain ⟨hbuffer, hopen⟩ :=
      ServerConnection.finishHandshake_frame message { link.client with inputBuffer := rest }
    rcases hfinish : ServerConnection.finishHandshake message
      { link.client with inputBuffer := rest } with ⟨_ | _, client⟩
    · rw [Link.consume, hfinish] at hconsume
      cases hconsume
    · rw [hfinish] at hbuffer hopen
      simp only [Link.consume, hfinish, Option.some.injEq] at hconsume
      subst hconsume
      exact hkept hbuffer hopen rfl
  | frame =>
    rcases hframe : ServerConnection.openFrame message
      { link.client with inputBuffer := rest } with ⟨_ | ⟨type, payload⟩, client⟩
    · rw [Link.consume, hframe] at hconsume
      cases hconsume
    · obtain ⟨hbuffer, hopen⟩ := ServerConnection.openFrame_ok hframe
      simp only [Link.consume, hframe, Option.some.injEq] at hconsume
      subst hconsume
      exact hkept hbuffer hopen rfl

omit [Sodium] in
/-- A round of waiting only moves bytes. -/
theorem Link.InStep.waited {pull : Pull} {count : ℕ}
    (h : link.InStep handled unhandled waiting)
    (hpatient : pull.purpose = .frame → ¬ pull.attemptsLeft ≤ 1)
    (hwait : link.wait pull
      { link.client with inputBuffer := link.client.inputBuffer ++ link.arriving count } count =
        some link') :
    link'.InStep handled unhandled waiting := by
  simp only [Link.wait] at hwait
  split_ifs at hwait with hlast
  · cases hpurpose : pull.purpose with
    | handshake => simp only [hpurpose, reduceCtorEq] at hwait
    | frame => exact absurd hlast (hpatient hpurpose)
  · obtain rfl := Option.some.inj hwait
    refine { h with toClient := ?_ }
    simp only
    rw [Link.arriving, List.append_assoc link.client.inputBuffer, List.take_append_drop, h.toClient]

/-- The server handles what has arrived: every request it takes is answered. -/
theorem Link.InStep.served {count : ℕ} {database : DatabaseHandle} {policy : RatePolicy}
    {world : ℕ → Ambient} (h : link.InStep handled unhandled waiting)
    (horderly : link.Orderly (.serve count database policy world))
    (hstep : link.step (.serve count database policy world) = some link') :
    ∃ handled unhandled waiting, link'.InStep handled unhandled waiting := by
  rcases hout : processBuffer world 0 (link.serving count database policy) with ⟨_ | _, server⟩
  · simp [Link.step, hout] at hstep
  simp only [Link.step, hout, Option.some.injEq] at hstep
  subst hstep
  have hstream : (link.serving count database policy).inputBuffer ++ link.toServer.drop count =
      messageStream unhandled := by
    change link.server.inputBuffer ++ link.toServer.take count ++ _ = _
    rw [List.append_assoc, List.take_append_drop, h.toServer]
  have hsizes : ∀ request ∈ unhandled, Transmissible request := by
    intro request hmem
    refine h.sent request ?_
    rw [h.requests]
    exact List.mem_append_right _ hmem
  obtain ⟨answered, unhandled', rfl, hleft, hqueued, hreplies, hlog⟩ :=
    processBuffer_replies link.answers hsizes hstream horderly (by rw [hout])
  rw [hout] at hleft hqueued
  refine ⟨handled ++ answered, unhandled', waiting ++ answered.map Prod.snd, ?_⟩
  refine { h with requests := ?_, answers := ?_, receipts := ?_, toServer := hleft
                  toClient := ?_, queued := ?_ }
  · rw [h.requests, List.map_append, List.append_assoc]
  · rw [hlog, h.answers, List.map_append]
  · rw [List.map_append, h.receipts, List.map_append, List.append_assoc, List.map_map]
    rfl
  · change _ ++ server.pendingOutput = _
    rw [hqueued, ← List.append_assoc, messageStream_append, ← h.toClient]
    rfl
  · intro reply hmem
    rcases List.mem_append.mp hmem with hmem | hmem
    · exact h.queued reply hmem
    · exact hreplies reply hmem

/-- Every event of the kind keeps the two ends in step. -/
theorem Link.step_inStep {event : LinkEvent} (h : ∃ handled unhandled waiting,
      link.InStep handled unhandled waiting) (horderly : link.Orderly event)
    (hstep : link.step event = some link') :
    ∃ handled unhandled waiting, link'.InStep handled unhandled waiting := by
  obtain ⟨handled, unhandled, waiting, h⟩ := h
  cases event with
  | openSession ephemeral =>
    cases hopen : link.client.isOpen with
    | true => simp [Link.step, hopen] at hstep
    | false =>
      rcases hstart : link.client.startHandshake ephemeral with ⟨_ | message, client⟩
      · simp [Link.step, hopen, hstart] at hstep
      · obtain ⟨hmessage, hbuffer, hclient⟩ := ServerConnection.startHandshake_some hstart
        simp only [Link.step, hopen, hstart, Bool.false_eq_true, if_false,
          Option.some.injEq] at hstep
        subst hstep
        exact ⟨_, _, _, h.request hmessage (hbuffer.trans (h.untouched hopen).symm) hclient⟩
  | send type payload =>
    simp only [Link.step] at hstep
    split_ifs at hstep
    rcases hseal : link.client.sealFrame type payload with ⟨_ | message, client⟩ <;>
      simp only [hseal, Option.some.injEq] at hstep <;> subst hstep
    · exact ⟨_, _, _, h⟩
    · obtain ⟨hmessage, hbuffer, hclient⟩ := ServerConnection.sealFrame_some hseal
      exact ⟨_, _, _, h.request hmessage hbuffer hclient⟩
  | receive =>
    simp only [Link.step] at hstep
    split_ifs at hstep
    obtain rfl := Option.some.inj hstep
    exact ⟨handled, unhandled, waiting, { h with }⟩
  | attempt count =>
    rcases hpull : link.pull with _ | pull
    · simp [Link.step, hpull] at hstep
    rcases hextract : extractLengthPrefixedMessage link.client.inputBuffer maxNoiseMessageSize with
      ⟨message, rest⟩ | _ | _
    · simp only [Link.step, hpull, ServerConnection.pullAttempt, hextract] at hstep
      obtain ⟨waiting', hnext⟩ := h.consumed hextract hstep
      exact ⟨_, _, _, hnext⟩
    · simp only [Link.step, hpull, ServerConnection.pullAttempt, hextract] at hstep
      refine ⟨_, _, _, h.waited ?_ hstep⟩
      intro hpurpose hlast
      -- this round would give up
      obtain ⟨purpose, attemptsLeft⟩ := pull
      obtain rfl : purpose = .frame := hpurpose
      have hgives : link.givesUp = true := by
        simpa only [Link.givesUp, hpull, hextract, decide_true, Bool.and_true, decide_eq_true_eq]
          using hlast
      rw [show link.givesUp = false from horderly] at hgives
      cases hgives
    · simp only [Link.step, hpull, ServerConnection.pullAttempt, hextract, reduceCtorEq] at hstep
  | serve count database policy world => exact h.served horderly hstep
  | flush count =>
    obtain rfl := Option.some.inj hstep
    refine ⟨handled, unhandled, waiting, { h with toClient := ?_ }⟩
    change link.client.inputBuffer ++ (link.toClient ++ link.server.pendingOutput.take count) ++
      link.server.pendingOutput.drop count = _
    rw [List.append_assoc, List.append_assoc, List.take_append_drop, ← List.append_assoc,
      h.toClient]

end Invariant

/-! ## Whole runs -/

/-- The client sends a frame and starts to wait; the server handles it and its
output travels back, and one round of `pull_next_message` goes by. -/
def askedOnce (database : DatabaseHandle) (type : MessageType) (payload : ByteString) :
    List LinkEvent :=
  [.send type payload, .receive, .serve 4096 database unlimited (fun _ => {}), .flush 4096,
    .attempt 4096]

/-- The handshake of the stand-in, a login with the key, then a ping, up to the
first round of the wait for its reply. -/
def loginThenPing (clientPubkey : WirePublicKey) (database : DatabaseHandle) : List LinkEvent :=
  let ephemeral : EphemeralKeypair := some (FixedBytes.zero _, FixedBytes.zero _)
  [.openSession ephemeral, .serve 4096 database unlimited (fun _ => { ephemeral }), .flush 4096,
    .attempt 4096, .attempt 0] ++
  askedOnce database .helloRequest (HelloRequest.writeTo { clientPubkey }) ++ [.attempt 0] ++
  askedOnce database .authResponse (AuthResponse.writeTo
    { signature := ⟨clientPubkey.1 ++ List.replicate 32 0, by simp [clientPubkey.2]; rfl⟩ }) ++
  [.attempt 0] ++ askedOnce database .pingRequest (PingRequest.writeTo { token := 9 })

/-- A database with one account, and a message of the day or none. -/
def announcing (pubkey : WirePublicKey) (motd : List MotdRow) : DatabaseHandle :=
  { tables := { users := [{ id := 1, pubkey, handle := ascii "alice", banned := false }], motd } }

omit [Sodium] in
/-- Without a message of the day the run is orderly. -/
theorem loginThenPing_orderly :
    letI := transparentSodium
    Along Link.step Link.Orderly
      (.dialed (FixedBytes.zero _) {} (FixedBytes.zero _) (FixedBytes.zero _) [] 0)
      (loginThenPing (repeatedBytes _ 5) (announcing (repeatedBytes _ 5) []) ++ [.attempt 0]) := by
  decide +kernel

/-- In every run in which no receive gives up, no session is accepted while a
message of the day is active and the session guard gets its refusals out, the
`k`-th message the client consumed is the server's reply to the `k`-th one it
sent. -/
theorem replies_paired (pinned : X25519PublicKey) (config : ServerConfig)
    (staticPublic : X25519PublicKey) (staticSecret : X25519SecretKey) (peerAddress : ByteString)
    (connectedAt : UInt64) (events : List LinkEvent) (link : Link)
    (horderly : Along Link.step Link.Orderly
      (.dialed pinned config staticPublic staticSecret peerAddress connectedAt) events)
    (hrun : after Link.step
      (.dialed pinned config staticPublic staticSecret peerAddress connectedAt) events =
        some link) :
    link.Paired := by
  have hstart : (Link.dialed pinned config staticPublic staticSecret peerAddress
      connectedAt).InStep [] [] [] :=
    { requests := rfl, answers := rfl, receipts := rfl, toServer := rfl, toClient := rfl
      sent := by simp [Link.dialed], queued := by simp, unopened := fun _ => rfl }
  obtain ⟨_, _, _, h⟩ := after_invariant
    (I := fun link => ∃ handled unhandled waiting, Link.InStep link handled unhandled waiting)
    Link.step_inStep ⟨[], [], [], hstart⟩ horderly hrun
  exact h.paired

omit [Sodium] in
/-- A login without a message of the day, then a ping: the fourth message
consumed is the reply to the ping. -/
theorem replies_paired_login :
    letI := transparentSodium
    let key : WirePublicKey := repeatedBytes _ 5
    ∃ link, after Link.step
        (.dialed (FixedBytes.zero _) {} (FixedBytes.zero _) (FixedBytes.zero _) [] 0)
        (loginThenPing key (announcing key []) ++ [.attempt 0]) = some link ∧
      link.receipts.length = 4 ∧ link.Paired := by
  let _ := transparentSodium
  intro key
  let events := loginThenPing key (announcing key []) ++ [.attempt 0]
  let start := Link.dialed (FixedBytes.zero _) {} (FixedBytes.zero _) (FixedBytes.zero _) [] 0
  have hlength : (after Link.step start events).map (fun link => link.receipts.length) = some 4 := by
    decide +kernel
  obtain ⟨link, hrun, hreceipts⟩ := Option.map_eq_some_iff.mp hlength
  exact ⟨link, hrun, hreceipts, replies_paired _ _ _ _ _ _ _ _ loginThenPing_orderly hrun⟩

omit [Sodium] in
/-- The same run with a message of the day: the fourth frame consumed, after the
ping, is that message. -/
theorem replies_shifted :
    letI := transparentSodium
    let key : WirePublicKey := repeatedBytes _ 5
    ∃ link message payload, after Link.step
        (.dialed (FixedBytes.zero _) {} (FixedBytes.zero _) (FixedBytes.zero _) [] 0)
        (loginThenPing key (announcing key
          [{ id := 1, body := ascii "welcome", active := true, createdAt := 0 }])) = some link ∧
      link.receipts[3]? = some (.frame message .motdPush payload) ∧ ¬ link.Paired := by
  let _ := transparentSodium
  intro key
  let events := loginThenPing key (announcing key
    [{ id := 1, body := ascii "welcome", active := true, createdAt := 0 }])
  let start := Link.dialed (FixedBytes.zero _) {} (FixedBytes.zero _) (FixedBytes.zero _) [] 0
  let payload : ByteString := MotdPush.writeTo { revision := 1, body := ascii "welcome" }
  let message : ByteString := frameBytes .motdPush payload ++ transparentTag
  have hpush : (after Link.step start events).map (fun link => link.receipts[3]?) =
      some (some (.frame message .motdPush payload)) := by
    decide +kernel
  have hreply : (after Link.step start events).map
      (fun link => link.answers[3]?.bind AnsweredRequest.reply) ≠ some (some message) := by
    decide +kernel
  obtain ⟨link, hrun, hreceipt⟩ := Option.map_eq_some_iff.mp hpush
  refine ⟨link, message, payload, hrun, hreceipt, ?_⟩
  intro hpaired
  obtain ⟨answered, hanswered, -, hsame⟩ := hpaired 3 _ message hreceipt rfl
  rw [hrun, Option.map_some, hanswered, Option.bind_some, hsame] at hreply
  exact hreply rfl

end HyperCom
