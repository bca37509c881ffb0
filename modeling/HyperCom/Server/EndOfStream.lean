import HyperCom.Server.Inbox
import HyperCom.Server.Segmentation

/-!
# The end of the stream

`read_available` appends what it receives and reports the end of the stream in one
call, and `process_connection_input` returns on the report before it looks at the
buffer. What a client sent just before it closed its side is therefore handled or
dropped depending on whether the end was there in time for the same call
(`end_of_stream_iff`).

The condition is on what the kernel had by the time of the call: the same bytes, sent before
the same close, are handled in one case and dropped in the other. A log of what was handled
makes the two comparable.
-/

namespace HyperCom

open BinaryCodec

variable [Sodium]

/-! ## The messages of a run -/

/-- The loop of `process_connection_input`, with the messages it takes out of the
buffer and handles. -/
def processBufferLogged (world : ℕ → Ambient) (index : ℕ) (state : ProcessorState) :
    List ByteString × Bool × ProcessorState :=
  match h : extractLengthPrefixedMessage state.inputBuffer maxNoiseMessageSize with
  | .incomplete => ([], true, state)
  | .malformed => ([], false, state)
  | .message message rest =>
    let out := processMessage ((state.withInput rest).enter (world index)) message
    if out.1 then
      let more := processBufferLogged world (index + 1) out.2
      (message :: more.1, more.2)
    else ([message], false, out.2)
termination_by state.inputBuffer.length
decreasing_by
  rw [processMessage_inputBuffer]
  exact extract_rest_length h

/-- One read of a connection: what happens to the server before it, what
`read_available` appends and reports, and the world while it is processed. -/
structure ConnectionRead where
  meanwhile : ProcessorState → ProcessorState := id
  received : ByteString
  stillOpen : Bool := true
  world : ℕ → Ambient := fun _ => {}

/-- `process_connection_input` with the messages it handles. -/
def processRead (state : ProcessorState) (read : ConnectionRead) :
    List ByteString × Bool × ProcessorState :=
  let state := read.meanwhile state
  let state := state.withInput (state.inputBuffer ++ read.received)
  if !read.stillOpen then ([], false, state) else processBufferLogged read.world 0 state

/-- The messages handled in some reads, until the connection is closed. -/
def dispatchedMessages : ProcessorState → List ConnectionRead → List ByteString
  | _, [] => []
  | state, read :: reads =>
    let out := processRead state read
    out.1 ++ if out.2.1 then dispatchedMessages out.2.2 reads else []

/-- The server after some reads, if the connection is still open. -/
def afterReads : ProcessorState → List ConnectionRead → Option ProcessorState
  | state, [] => some state
  | state, read :: reads =>
    let out := processRead state read
    if out.2.1 then afterReads out.2.2 reads else none

section Log

variable {world : ℕ → Ambient} {index : ℕ} {state : ProcessorState}

theorem processBufferLogged_incomplete
    (h : extractLengthPrefixedMessage state.inputBuffer maxNoiseMessageSize = .incomplete) :
    processBufferLogged world index state = ([], true, state) := by
  rw [processBufferLogged]
  split
  · rfl
  · next h' => cases h.symm.trans h'
  · next h' => cases h.symm.trans h'

theorem processBufferLogged_malformed
    (h : extractLengthPrefixedMessage state.inputBuffer maxNoiseMessageSize = .malformed) :
    processBufferLogged world index state = ([], false, state) := by
  rw [processBufferLogged]
  split
  · next h' => cases h.symm.trans h'
  · rfl
  · next h' => cases h.symm.trans h'

theorem processBufferLogged_message {message rest : ByteString}
    (h : extractLengthPrefixedMessage state.inputBuffer maxNoiseMessageSize =
      .message message rest) :
    processBufferLogged world index state =
      if (processMessage ((state.withInput rest).enter (world index)) message).1 then
        (message :: (processBufferLogged world (index + 1)
            (processMessage ((state.withInput rest).enter (world index)) message).2).1,
          (processBufferLogged world (index + 1)
            (processMessage ((state.withInput rest).enter (world index)) message).2).2)
      else ([message], false,
        (processMessage ((state.withInput rest).enter (world index)) message).2) := by
  rw [processBufferLogged]
  split
  · next h' => cases h.symm.trans h'
  · next h' => cases h.symm.trans h'
  · next h' =>
    obtain ⟨rfl, rfl⟩ := Extraction.message.inj (h.symm.trans h')
    rfl

/-- The loop does what it does without the log. -/
theorem processBufferLogged_snd (world : ℕ → Ambient) (index : ℕ) (state : ProcessorState) :
    (processBufferLogged world index state).2 = processBuffer world index state := by
  induction index, state using processBuffer_rec world with
  | incomplete index state h => rw [processBufferLogged_incomplete h, processBuffer_incomplete h]
  | malformed index state h => rw [processBufferLogged_malformed h, processBuffer_malformed h]
  | message index state message rest h ih =>
    rw [processBufferLogged_message h, processBuffer_message h]
    split
    · exact ih
    · rfl

theorem processRead_snd (state : ProcessorState) (read : ConnectionRead) :
    (processRead state read).2 =
      processConnectionInput read.world read.received read.stillOpen (read.meanwhile state) := by
  rw [processRead, processConnectionInput]
  split
  · rfl
  · exact processBufferLogged_snd ..

/-- Something is handled exactly if there is a complete message in the buffer. -/
theorem processBufferLogged_eq_nil : (processBufferLogged world index state).1 = [] ↔
    ∀ message rest, extractLengthPrefixedMessage state.inputBuffer maxNoiseMessageSize ≠
      .message message rest := by
  rcases h : extractLengthPrefixedMessage state.inputBuffer maxNoiseMessageSize with
    ⟨message, rest⟩ | _ | _
  · rw [processBufferLogged_message h]
    split
    · simp
    · simp
  · rw [processBufferLogged_incomplete h]
    simp
  · rw [processBufferLogged_malformed h]
    simp

/-- A buffer that holds one whole message. -/
theorem processBufferLogged_single {message : ByteString}
    (hinput : state.inputBuffer = appendLengthPrefixedMessage message) (hpos : message ≠ [])
    (hmax : message.length ≤ maxNoiseMessageSize) :
    (processBufferLogged world index state).1 = [message] := by
  rw [processBufferLogged_message (extract_single hinput hpos hmax)]
  split
  · rw [processBufferLogged_incomplete (by rw [processMessage_inputBuffer]; rfl)]
  · rfl

end Log

/-! ## A run cut in two -/

/-- What is handled in later reads is handled if the connection is still open. -/
theorem dispatchedMessages_append (state : ProcessorState) (reads more : List ConnectionRead) :
    dispatchedMessages state (reads ++ more) = dispatchedMessages state reads ++
      ((afterReads state reads).map fun left => dispatchedMessages left more).getD [] := by
  induction reads generalizing state with
  | nil => rfl
  | cons read reads ih =>
    rw [List.cons_append, dispatchedMessages, dispatchedMessages, afterReads]
    split
    · rw [ih, List.append_assoc]
    · rw [List.append_nil, Option.map_none, Option.getD_none, List.append_nil]

/-! ## The end of the stream -/

/-- The end of the stream, with nothing received before it. -/
def endOfStream (meanwhile : ProcessorState → ProcessorState) : ConnectionRead :=
  { meanwhile, received := [], stillOpen := false }

/-- The last bytes complete a message, behind what is left in the buffer. -/
def CompletesMessage (state : ProcessorState) (read : ConnectionRead) : Prop :=
  ∃ message rest, extractLengthPrefixedMessage
    ((read.meanwhile state).inputBuffer ++ read.received) maxNoiseMessageSize = .message message rest

/-- For every stream, in whatever reads it arrives: the messages that are handled do not
depend on whether the end of the stream is reported with the last bytes or after them, if
and only if the connection is closed by then or the last bytes complete no message. -/
theorem end_of_stream_iff (state : ProcessorState) (reads : List ConnectionRead)
    (last : ConnectionRead) (meanwhile : ProcessorState → ProcessorState) :
    dispatchedMessages state (reads ++ [{ last with stillOpen := false }]) =
        dispatchedMessages state
          (reads ++ [{ last with stillOpen := true }, endOfStream meanwhile]) ↔
      ∀ left, afterReads state reads = some left → ¬ CompletesMessage left last := by
  rw [dispatchedMessages_append, dispatchedMessages_append, List.append_cancel_left_eq]
  rcases afterReads state reads with _ | left
  · simp
  rw [Option.map_some, Option.map_some, Option.getD_some, Option.getD_some]
  -- nothing is handled with the end of the stream
  have hend : ∀ state, dispatchedMessages state [endOfStream meanwhile] = [] := fun _ => rfl
  have htogether : dispatchedMessages left [{ last with stillOpen := false }] = [] := rfl
  have hlate : dispatchedMessages left [{ last with stillOpen := true }, endOfStream meanwhile] =
      (processBufferLogged last.world 0 ((last.meanwhile left).withInput
        ((last.meanwhile left).inputBuffer ++ last.received))).1 := by
    rw [dispatchedMessages]
    simp only [hend, ite_self, List.append_nil]
    rfl
  rw [htogether, hlate, eq_comm, processBufferLogged_eq_nil]
  simp only [Option.some.injEq, forall_eq', CompletesMessage, not_exists]
  rfl

omit [Sodium] in
/-- A client that sends a ping and closes its side. -/
theorem last_ping_dropped :
    letI := transparentSodium
    let state : ProcessorState :=
      { context := accountContext {} 1 (repeatedKey 1)
        policy := { perAddress := 8, perIdentity := 8 } }
    let ping := sealedMessage (FixedBytes.zero _) 0 (frameBytes .pingRequest [])
    let sent : ConnectionRead := { received := appendLengthPrefixedMessage ping }
    dispatchedMessages state [{ sent with stillOpen := false }] = [] ∧
      dispatchedMessages state [sent, endOfStream id] = [ping] := by
  let := transparentSodium
  intro state ping sent
  refine ⟨rfl, ?_⟩
  have hone : (processRead state sent).1 = [ping] :=
    processBufferLogged_single rfl (by decide) (by decide)
  have hend : ∀ state, dispatchedMessages state [endOfStream id] = [] := fun _ => rfl
  rw [dispatchedMessages, hone]
  simp only [hend, ite_self, List.append_nil]

end HyperCom
