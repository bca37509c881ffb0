import HyperCom.Client.ServerConnection

/-!
# Messages larger than the rounds

`pull_next_message` bounds its rounds, not its time: a round looks for a message
in the buffer and then reads at most `READ_CHUNK_SIZE` bytes, and what the last
round reads is never looked at. A socket that has everything ready and gives it
in full chunks is the fastest there is, and still a message that the protocol
allows can be longer than that.

The number of rounds and the size of a read are constants of the client, the largest message
is one of the protocol; that the product is smaller than the message is arithmetic, once it
is known that a round gets no more than one read (`pullNextMessage`).
-/

namespace HyperCom

namespace ServerConnection

/-- The chunks in which `recv` delivers bytes that are all there: none is empty,
none exceeds the size of a read, and only the last one may be short. -/
structure FullChunks (chunks : List ByteString) : Prop where
  nonempty : ∀ chunk ∈ chunks, chunk ≠ []
  bounded : ∀ chunk ∈ chunks, chunk.length ≤ readChunkSize
  full : ∀ chunk ∈ chunks.dropLast, chunk.length = readChunkSize

namespace FullChunks

variable {chunks : List ByteString}

theorem of_full (h : ∀ chunk ∈ chunks, chunk.length = readChunkSize) : FullChunks chunks := by
  refine ⟨?_, fun chunk hchunk => (h chunk hchunk).le,
    fun chunk hchunk => h chunk (List.dropLast_subset _ hchunk)⟩
  rintro chunk hchunk rfl
  exact absurd (h [] hchunk) (by decide)

theorem head {chunk : ByteString} (h : FullChunks (chunk :: chunks)) (hmore : chunks ≠ []) :
    chunk.length = readChunkSize := by
  refine h.full chunk ?_
  rw [List.dropLast_cons_of_ne_nil hmore]
  exact List.mem_cons_self

theorem tail {chunk : ByteString} (h : FullChunks (chunk :: chunks)) : FullChunks chunks := by
  refine ⟨fun c hc => h.nonempty c (List.mem_cons_of_mem _ hc),
    fun c hc => h.bounded c (List.mem_cons_of_mem _ hc), fun c hc => h.full c ?_⟩
  rw [List.dropLast_cons_of_ne_nil (List.ne_nil_of_mem (List.dropLast_subset _ hc))]
  exact List.mem_cons_of_mem _ hc

/-- So many reads bring so many full chunks, or everything. -/
theorem length_take (h : FullChunks chunks) (count : ℕ) :
    (chunks.take count).flatten.length =
      min (count * readChunkSize) chunks.flatten.length := by
  induction chunks generalizing count with
  | nil => rw [List.take_nil]; exact (Nat.min_zero _).symm
  | cons chunk chunks ih =>
    cases count with
    | zero => rw [List.take_zero, Nat.zero_mul, Nat.zero_min]; rfl
    | succ count =>
      rw [List.take_succ_cons, List.flatten_cons, List.flatten_cons, List.length_append,
        List.length_append, ih h.tail count, Nat.succ_mul]
      rcases eq_or_ne chunks [] with rfl | hmore
      · have := h.bounded chunk List.mem_cons_self
        simp only [List.flatten_nil, List.length_nil]
        omega
      · have := h.head hmore
        omega

theorem length_le (h : FullChunks chunks) :
    chunks.flatten.length ≤ chunks.length * readChunkSize := by
  have hall := h.length_take chunks.length
  rw [List.take_length] at hall
  omega

end FullChunks

/-- The reads of a socket that has these chunks, and nothing after them. -/
def chunkReads (chunks : List ByteString) (attempt : ℕ) : SocketRead :=
  match chunks[attempt]? with
  | some chunk => .received chunk
  | none => .silent

theorem chunkReads_getElem {chunks : List ByteString} (k : ℕ) (h : k < chunks.length) :
    chunkReads chunks k = .received chunks[k] := by
  rw [chunkReads, List.getElem?_eq_getElem h]

section Available

variable {reads : ℕ → SocketRead} {connection : ServerConnection} {message following : ByteString}
  {chunks : List ByteString}

/-- While chunks are left, the buffer grows by one chunk a round. -/
theorem buffered_chunks (hreads : ∀ k (h : k < chunks.length), reads k = .received chunks[k])
    {count : ℕ} (hcount : count ≤ chunks.length) :
    buffered reads connection count = connection.inputBuffer ++ (chunks.take count).flatten := by
  induction count with
  | zero => rw [buffered, List.take_zero, List.flatten_nil, List.append_nil]
  | succ count ih =>
    rw [buffered, ih (by omega), hreads count hcount, List.take_succ_eq_append_getElem hcount,
      List.flatten_append, List.flatten_singleton, List.append_assoc]
    rfl

/-- After the chunks it holds all of the stream, whatever the socket does
then. -/
theorem buffered_past (connection : ServerConnection)
    (hreads : ∀ k (h : k < chunks.length), reads k = .received chunks[k])
    {count : ℕ} (hpast : chunks.length ≤ count) :
    ∃ later, buffered reads connection count =
      connection.inputBuffer ++ chunks.flatten ++ later := by
  induction count, hpast using Nat.le_induction with
  | base =>
    refine ⟨[], ?_⟩
    rw [buffered_chunks hreads le_rfl, List.take_length, List.append_nil]
  | succ count _ ih =>
    obtain ⟨later, hlater⟩ := ih
    refine ⟨later ++ (reads count).bytes, ?_⟩
    rw [buffered, hlater, List.append_assoc _ later]

/-- So it is always a part of a stream that starts with the message. -/
theorem buffered_stream (hreads : ∀ k (h : k < chunks.length), reads k = .received chunks[k])
    (hstream : connection.inputBuffer ++ chunks.flatten =
      appendLengthPrefixedMessage message ++ following) (count : ℕ) :
    ∃ missing rest, buffered reads connection count ++ missing =
      appendLengthPrefixedMessage message ++ rest := by
  rcases Nat.le_total count chunks.length with hcount | hpast
  · refine ⟨(chunks.drop count).flatten, following, ?_⟩
    rw [buffered_chunks hreads hcount, List.append_assoc, ← List.flatten_append,
      List.take_append_drop, hstream]
  · obtain ⟨later, hlater⟩ := buffered_past connection hreads hpast
    refine ⟨[], following ++ later, ?_⟩
    rw [hlater, hstream, List.append_nil, List.append_assoc]

/-- How much is there after some of the chunks. -/
theorem buffered_length (hchunks : FullChunks chunks)
    (hreads : ∀ k (h : k < chunks.length), reads k = .received chunks[k]) {count : ℕ}
    (hcount : count ≤ chunks.length) :
    (buffered reads connection count).length =
      connection.inputBuffer.length + min (count * readChunkSize) chunks.flatten.length := by
  rw [buffered_chunks hreads hcount, List.length_append, hchunks.length_take]

/-- A message that is longer than what the rounds look at is given up, with all of
it there. -/
theorem pullNextMessage_overlong (hmessage : Transmissible message) (hchunks : FullChunks chunks)
    (hreads : ∀ k (h : k < chunks.length), reads k = .received chunks[k])
    (hstream : connection.inputBuffer ++ chunks.flatten =
      appendLengthPrefixedMessage message ++ following)
    (hlarge : connection.inputBuffer.length + (maxReceiveAttempts - 1) * readChunkSize <
      (appendLengthPrefixedMessage message).length) :
    (pullNextMessage reads connection).1 = .error unanswered := by
  have htotal : connection.inputBuffer.length + chunks.flatten.length =
      (appendLengthPrefixedMessage message).length + following.length := by
    rw [← List.length_append, hstream, List.length_append]
  have hsize := hchunks.length_le
  have hmany : maxReceiveAttempts - 1 < chunks.length := by
    refine lt_of_mul_lt_mul_right ?_ (Nat.zero_le readChunkSize)
    omega
  rw [pullNextMessage_gives_up]
  intro k hk
  obtain ⟨missing, rest, hsplit⟩ := buffered_stream hreads hstream k
  refine ⟨?_, extract_partial hmessage hsplit ?_⟩
  · rw [hreads k (by omega)]
    exact SocketRead.noConfusion
  · have hrounds : k * readChunkSize ≤ (maxReceiveAttempts - 1) * readChunkSize :=
      Nat.mul_le_mul_right _ (by omega)
    rw [buffered_length hchunks hreads (by omega)]
    omega

/-- `pull_next_message` on a message that is there, in full chunks: it arrives
exactly if the reads before the last round, with what was in the buffer, reach
its end. -/
theorem pullNextMessage_available_iff (reads : ℕ → SocketRead) (connection : ServerConnection)
    (message following : ByteString) (chunks : List ByteString) (hmessage : Transmissible message)
    (hchunks : FullChunks chunks)
    (hreads : ∀ k (h : k < chunks.length), reads k = .received chunks[k])
    (hstream : connection.inputBuffer ++ chunks.flatten =
      appendLengthPrefixedMessage message ++ following) :
    (∃ n ≤ chunks.length, ∃ rest,
      connection.inputBuffer ++ (chunks.take n).flatten =
        appendLengthPrefixedMessage message ++ rest ∧
      pullNextMessage reads connection =
        (.ok message, { connection with inputBuffer := rest })) ↔
    (appendLengthPrefixedMessage message).length ≤
      connection.inputBuffer.length + (maxReceiveAttempts - 1) * readChunkSize := by
  have htotal : connection.inputBuffer.length + chunks.flatten.length =
      (appendLengthPrefixedMessage message).length + following.length := by
    rw [← List.length_append, hstream, List.length_append]
  constructor
  · rintro ⟨n, -, rest, -, hpull⟩
    by_contra hlarge
    have hgivesUp := pullNextMessage_overlong hmessage hchunks hreads hstream (not_le.mp hlarge)
    rw [hpull] at hgivesUp
    cases hgivesUp
  · intro hfits
    have hsize := hchunks.length_le
    have hcount : min (maxReceiveAttempts - 1) chunks.length ≤ chunks.length := Nat.min_le_right _ _
    -- a round that misses some of it still has a chunk to read
    have hopen : ∀ k < maxReceiveAttempts, (buffered reads connection k).length <
        (appendLengthPrefixedMessage message).length → reads k ≠ .closed := by
      intro k _ hshort
      have hleft : k < chunks.length := by
        by_contra hpast
        obtain ⟨later, hlater⟩ := buffered_past connection hreads (not_lt.mp hpast)
        rw [hlater, List.length_append, List.length_append] at hshort
        omega
      rw [hreads k hleft]
      exact SocketRead.noConfusion
    have henough : (appendLengthPrefixedMessage message).length ≤ (buffered reads connection
        (min (maxReceiveAttempts - 1) chunks.length)).length := by
      rw [buffered_length hchunks hreads hcount]
      rcases Nat.le_total (maxReceiveAttempts - 1) chunks.length with hmany | hfew
      · rw [Nat.min_eq_left hmany]
        omega
      · rw [Nat.min_eq_right hfew]
        omega
    obtain ⟨n, hn, rest, hbuffer, hpull⟩ := pullNextMessage_stream hmessage
      (fun k _ => buffered_stream hreads hstream k) hopen
      (lt_of_le_of_lt (Nat.min_le_left _ _) (by decide)) henough
    refine ⟨n, hn.trans hcount, rest, ?_, hpull⟩
    rw [← buffered_chunks hreads (hn.trans hcount), hbuffer]

end Available

/-- A message of three bytes that comes in one read. -/
theorem pullNextMessage_available_iff_short :
    letI := transparentSodium
    let connection := create ⟨List.replicate 32 0, rfl⟩
    ∃ n ≤ 1, ∃ rest,
      connection.inputBuffer ++ ([appendLengthPrefixedMessage [1, 2, 3]].take n).flatten =
        appendLengthPrefixedMessage [1, 2, 3] ++ rest ∧
      pullNextMessage (chunkReads [appendLengthPrefixedMessage [1, 2, 3]]) connection =
        (.ok [1, 2, 3], { connection with inputBuffer := rest }) := by
  let _ := transparentSodium
  refine (pullNextMessage_available_iff (chunkReads [appendLengthPrefixedMessage [1, 2, 3]]) _
    [1, 2, 3] [] [appendLengthPrefixedMessage [1, 2, 3]] ⟨by decide, by decide⟩ ?_
    chunkReads_getElem rfl).mpr (by decide)
  refine ⟨by decide, by decide, by decide⟩

/-- The longest message whose bytes fifty reads bring. -/
def lastReadMessage : ByteString :=
  List.replicate (maxReceiveAttempts * readChunkSize - frameLengthFieldSize) 0

/-- Its fifty chunks: the first starts with the length field. -/
def lastReadChunks : List ByteString :=
  (storeLittleEndian (UInt32.ofNat lastReadMessage.length) ++
      List.replicate (readChunkSize - frameLengthFieldSize) 0) ::
    List.replicate (maxReceiveAttempts - 1) (List.replicate readChunkSize 0)

theorem lastReadChunks_flatten :
    lastReadChunks.flatten = appendLengthPrefixedMessage lastReadMessage := by
  have hrest : readChunkSize - frameLengthFieldSize + (maxReceiveAttempts - 1) * readChunkSize =
      maxReceiveAttempts * readChunkSize - frameLengthFieldSize := by decide
  rw [lastReadChunks, List.flatten_cons, List.flatten_replicate_replicate, List.append_assoc,
    List.replicate_append_replicate, hrest, ← lastReadMessage, appendLengthPrefixedMessage,
    writeInteger, writeFixedBytes]

theorem lastReadChunks_full : FullChunks lastReadChunks := by
  refine FullChunks.of_full fun chunk hchunk => ?_
  rcases List.mem_cons.mp hchunk with rfl | hchunk
  · rw [List.length_append, storeLittleEndian_length, List.length_replicate]
    decide
  · rw [List.eq_of_mem_replicate hchunk, List.length_replicate]

theorem lastReadMessage_length : lastReadMessage.length =
    maxReceiveAttempts * readChunkSize - frameLengthFieldSize :=
  List.length_replicate

theorem lastReadMessage_transmissible : Transmissible lastReadMessage := by
  refine ⟨fun hempty => ?_, ?_⟩
  · have hlength := lastReadMessage_length
    rw [hempty] at hlength
    exact absurd hlength (by decide)
  · rw [lastReadMessage_length]
    decide

/-- Every byte of it has been read when the client gives up. -/
theorem last_read_unexamined :
    letI := transparentSodium
    let connection := create ⟨List.replicate 32 0, rfl⟩
    Transmissible lastReadMessage ∧ FullChunks lastReadChunks ∧
      connection.inputBuffer ++ lastReadChunks.flatten =
        appendLengthPrefixedMessage lastReadMessage ++ [] ∧
      ¬ ∃ n ≤ lastReadChunks.length, ∃ rest,
        connection.inputBuffer ++ (lastReadChunks.take n).flatten =
          appendLengthPrefixedMessage lastReadMessage ++ rest ∧
        pullNextMessage (chunkReads lastReadChunks) connection =
          (.ok lastReadMessage, { connection with inputBuffer := rest }) := by
  let _ := transparentSodium
  have hstream : (create ⟨List.replicate 32 0, rfl⟩).inputBuffer ++ lastReadChunks.flatten =
      appendLengthPrefixedMessage lastReadMessage ++ [] := by
    have hempty : (create ⟨List.replicate 32 0, rfl⟩).inputBuffer = [] := rfl
    rw [lastReadChunks_flatten, hempty, List.nil_append, List.append_nil]
  refine ⟨lastReadMessage_transmissible, lastReadChunks_full, hstream, ?_⟩
  rintro ⟨n, -, rest, -, hpull⟩
  have hlarge : (create ⟨List.replicate 32 0, rfl⟩).inputBuffer.length +
      (maxReceiveAttempts - 1) * readChunkSize <
        (appendLengthPrefixedMessage lastReadMessage).length := by
    rw [appendLengthPrefixedMessage_length, lastReadMessage_length]
    decide
  have hgivesUp := pullNextMessage_overlong lastReadMessage_transmissible lastReadChunks_full
    chunkReads_getElem hstream hlarge
  rw [hpull] at hgivesUp
  cases hgivesUp

end ServerConnection

end HyperCom
