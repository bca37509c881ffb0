import HyperCom.Server.RequestEffect

/-!
# From bytes to requests

`rate_limiter`, `rate_tracker` and `connection_processor`: the input buffer is
cut into messages, the first of them is the handshake, every other one is
opened, checked, counted against the rate limits and routed.

The loop of `process_connection_input` runs until the buffer holds no complete
message. Each message is handled in its own `Ambient`. `processBuffer_invariant`
is the induction over that loop, stated once.
-/

namespace HyperCom

/-! ## `rate_limiter` and `rate_tracker` -/

/-- `rate_window` -/
structure RateWindow where
  counter : UInt32 := 0
  windowStart : UInt64 := 0
deriving DecidableEq

/-- `WINDOW_DURATION_SECONDS` -/
def windowDurationSeconds : UInt64 := 60

/-- `register_event`: a maximum of 0 disables the limit. -/
def registerEvent (maxEventsPerMinute : UInt32) (now : UInt64) (window : RateWindow) :
    Bool × RateWindow :=
  if maxEventsPerMinute = 0 then (true, window)
  else
    let window :=
      if now < window.windowStart || now - window.windowStart ≥ windowDurationSeconds then
        { counter := 0, windowStart := now }
      else window
    if window.counter ≥ maxEventsPerMinute then (false, window)
    else (true, { window with counter := window.counter + 1 })

/-- The two tables of windows. `operator[]` creates a missing window with its
defaults, so an absent key and a default window cannot be told apart. -/
structure RateTracker where
  byAddress : ByteString → RateWindow := fun _ => {}
  byIdentity : ℤ → RateWindow := fun _ => {}

/-- `rate_policy` -/
structure RatePolicy where
  perAddress : UInt32
  perIdentity : UInt32
  tracker : RateTracker := {}

/-- `allow_address_request` -/
def allowAddressRequest (policy : RatePolicy) (address : ByteString) (now : UInt64) :
    Bool × RatePolicy :=
  let out := registerEvent policy.perAddress now (policy.tracker.byAddress address)
  (out.1, { policy with tracker := { policy.tracker with
    byAddress := Function.update policy.tracker.byAddress address out.2 } })

/-- `allow_identity_request`: only the per-address limit applies to a session
that is not registered yet. -/
def allowIdentityRequest (policy : RatePolicy) (userId : ℤ) (now : UInt64) : Bool × RatePolicy :=
  if userId = 0 then (true, policy)
  else
    let out := registerEvent policy.perIdentity now (policy.tracker.byIdentity userId)
    (out.1, { policy with tracker := { policy.tracker with
      byIdentity := Function.update policy.tracker.byIdentity userId out.2 } })

/-! ## `connection_processor` -/

variable [Sodium]

/-- `MAX_NOISE_MESSAGE_SIZE`: one full application frame plus the tag. -/
def maxNoiseMessageSize : ℕ := maxFrameSize + aeadTagSize

/-- What a processing function works on. -/
structure ProcessorState where
  context : HandlerContext
  policy : RatePolicy

/-- Handle the next message in the given ambient. -/
def ProcessorState.enter (state : ProcessorState) (ambient : Ambient) : ProcessorState :=
  { state with context := { state.context with
    ambient, database := { state.context.database with faults := ambient.sqlFaults } } }

/-- `advance_handshake` -/
def advanceHandshake (context : HandlerContext) (message : ByteString) : Bool × HandlerContext :=
  match context.connection.channel.acceptHandshakeMessage context.ambient.ephemeral message with
  | (none, channel) => (false, { context with connection := { context.connection with channel } })
  | (some reply, channel) =>
    let connection := { context.connection with channel }
    match connection.socket.queueBytes (appendLengthPrefixedMessage reply) with
    | (false, _) => (false, { context with connection })
    | (true, socket) =>
      (true, { context with connection := { connection with
        socket, session := { connection.session with phase := .awaitingHello } } })

/-- The handshake reads and writes no table. -/
theorem advanceHandshake_database (context : HandlerContext) (message : ByteString) :
    (advanceHandshake context message).2.database = context.database := by
  unfold advanceHandshake
  split
  · rfl
  · simp only
    split <;> rfl

/-- A handshake that leaves the connection open. -/
theorem advanceHandshake_open {context : HandlerContext} {message : ByteString}
    (h : (advanceHandshake context message).1 = true) :
    (advanceHandshake context message).2.connection.session =
        { context.connection.session with phase := .awaitingHello } ∧
      (advanceHandshake context message).2.connection.channel.transport ≠ none := by
  rcases haccept : context.connection.channel.acceptHandshakeMessage context.ambient.ephemeral
    message with ⟨_ | reply, channel⟩
  · rw [advanceHandshake, haccept] at h
    cases h
  · obtain ⟨⟨sendKey, receiveKey, htransport⟩, -⟩ :=
      NoiseChannel.acceptHandshakeMessage_some haccept
    rcases hqueue : context.connection.socket.queueBytes (appendLengthPrefixedMessage reply) with
      ⟨_ | _, socket⟩
    · simp only [advanceHandshake, haccept, hqueue] at h
      cases h
    · simp only [advanceHandshake, haccept, hqueue, htransport]
      exact ⟨trivial, Option.some_ne_none _⟩

/-- The verdict on a decrypted frame before it is routed. -/
inductive Admission where
  | rejected
  | limited
  | admitted (type : MessageType) (reader : ByteReader)

/-- The checks of `dispatch_application_frame`: the header, the announced length
against what was decrypted, the limit of the address, then of the identity. -/
def admitFrame (session : SessionState) (policy : RatePolicy) (now : UInt64) (frame : ByteString) :
    Admission × RatePolicy :=
  match decodeFrameHeader frame with
  | none => (.rejected, policy)
  | some header =>
    if frame.length ≠ frameLengthFieldSize + header.bodySize.toNat then (.rejected, policy)
    else
      match allowAddressRequest policy session.peerAddress now with
      | (false, policy) => (.limited, policy)
      | (true, policy) =>
        match allowIdentityRequest policy session.userId now with
        | (false, policy) => (.limited, policy)
        | (true, policy) =>
          (.admitted header.type (ByteReader.start (frame.drop frameHeaderSize)), policy)

omit [Sodium] in
/-- What an admitted frame is. -/
theorem admitFrame_admitted {session : SessionState} {policy policy' : RatePolicy} {now : UInt64}
    {frame : ByteString} {type : MessageType} {reader : ByteReader}
    (h : admitFrame session policy now frame = (.admitted type reader, policy')) :
    ∃ header, decodeFrameHeader frame = some header ∧ header.type = type ∧
      reader = ByteReader.start (frame.drop frameHeaderSize) := by
  unfold admitFrame at h
  split at h
  · cases h
  · next header hheader =>
    split at h
    · cases h
    split at h
    · cases h
    split at h
    · cases h
    · obtain ⟨hadmitted, -⟩ := Prod.mk.inj h
      obtain ⟨rfl, rfl⟩ := Admission.admitted.inj hadmitted
      exact ⟨header, hheader, rfl, rfl⟩

omit [Sodium] in
/-- An encoded frame is admitted unless a limit is reached. -/
theorem admitFrame_frameBytes {session : SessionState} {policy policy' policy'' : RatePolicy}
    {now : UInt64} {type : MessageType} {payload : ByteString}
    (fits : payload.length ≤ maxPayloadSize)
    (address : allowAddressRequest policy session.peerAddress now = (true, policy'))
    (identity : allowIdentityRequest policy' session.userId now = (true, policy'')) :
    admitFrame session policy now (frameBytes type payload) =
      (.admitted type (ByteReader.start payload), policy'') := by
  have hlength : ¬ (frameBytes type payload).length ≠ frameLengthFieldSize +
      (UInt32.ofNat (frameTypeFieldSize + payload.length)).toNat :=
    not_not.mpr (frameBytes_bodySize fits)
  simp only [admitFrame, decodeFrameHeader_frameBytes fits, if_neg hlength, address, identity,
    frameBytes_payload]

/-- The context a request is routed in: the activity is noted first. -/
def HandlerContext.noteActivity (context : HandlerContext) : HandlerContext :=
  { context with connection := { context.connection with
    session := { context.connection.session with
      lastActivityAt := context.ambient.dispatchTimestamp } } }

/-- `dispatch_application_frame` -/
def dispatchApplicationFrame (state : ProcessorState) (frame : ByteString) :
    Bool × ProcessorState :=
  let context := state.context
  match admitFrame context.connection.session state.policy context.ambient.dispatchTimestamp
      frame with
  | (.rejected, policy) => (false, { context, policy })
  | (.limited, policy) =>
    let out := sendStatusError context .rateLimited
    (out.1, { context := out.2, policy })
  | (.admitted type reader, policy) =>
    let out := routeMessage context.noteActivity type reader
    (out.1, { context := out.2, policy })

/-- One pass of the loop of `process_connection_input`, for a message already
detached from the buffer. -/
def processMessage (state : ProcessorState) (message : ByteString) : Bool × ProcessorState :=
  let context := state.context
  if !context.connection.channel.isEstablished then
    let out := advanceHandshake context message
    (out.1, { state with context := out.2 })
  else
    match context.connection.channel.openMessage message with
    | (none, channel) =>
      (false, { state with context := { context with
        connection := { context.connection with channel } } })
    | (some frame, channel) =>
      dispatchApplicationFrame { state with context := { context with
        connection := { context.connection with channel } } } frame

/-- A handshake message that is accepted, with room for the reply. -/
theorem processMessage_handshake {state : ProcessorState} {message reply : ByteString}
    {channel : NoiseChannel} (fresh : state.context.connection.channel.transport = none)
    (accepted : state.context.connection.channel.acceptHandshakeMessage
      state.context.ambient.ephemeral message = (some reply, channel))
    (room : state.context.connection.socket.pendingOutput.length +
      (appendLengthPrefixedMessage reply).length ≤ maxPendingOutput) :
    processMessage state message = (true, { state with context := { state.context with
      connection := { state.context.connection with
        channel
        socket := { pendingOutput := state.context.connection.socket.pendingOutput ++
          appendLengthPrefixedMessage reply }
        session := { state.context.connection.session with phase := .awaitingHello } } } }) := by
  have hestablished : state.context.connection.channel.isEstablished = false := by
    rw [NoiseChannel.isEstablished, fresh, Option.isSome_none]
  simp only [processMessage, hestablished, advanceHandshake, accepted, Bool.not_false, if_true,
    ConnectionSocket.queueBytes_of_room room]

/-- The context once a message has been opened. -/
def HandlerContext.withChannel (context : HandlerContext) (channel : NoiseChannel) :
    HandlerContext :=
  { context with connection := { context.connection with channel } }

/-- What handling one message comes to. -/
inductive MessageOutcome (state : ProcessorState) (message : ByteString) :
    Bool × ProcessorState → Prop where
  | handshake (fresh : state.context.connection.channel.transport = none) :
      MessageOutcome state message ((advanceHandshake state.context message).1,
        { state with context := (advanceHandshake state.context message).2 })
  | unopened {channel : NoiseChannel}
      (opened : state.context.connection.channel.openMessage message = (none, channel)) :
      MessageOutcome state message
        (false, { state with context := state.context.withChannel channel })
  | rejected {channel : NoiseChannel} {frame : ByteString} {policy : RatePolicy}
      (opened : state.context.connection.channel.openMessage message = (some frame, channel))
      (admission : admitFrame state.context.connection.session state.policy
        state.context.ambient.dispatchTimestamp frame = (.rejected, policy)) :
      MessageOutcome state message
        (false, { context := state.context.withChannel channel, policy })
  | limited {channel : NoiseChannel} {frame : ByteString} {policy : RatePolicy}
      (opened : state.context.connection.channel.openMessage message = (some frame, channel))
      (admission : admitFrame state.context.connection.session state.policy
        state.context.ambient.dispatchTimestamp frame = (.limited, policy)) :
      MessageOutcome state message
        ((sendStatusError (state.context.withChannel channel) .rateLimited).1,
          { context := (sendStatusError (state.context.withChannel channel) .rateLimited).2, policy })
  | routed {channel : NoiseChannel} {frame : ByteString} {policy : RatePolicy} {type : MessageType}
      {reader : ByteReader}
      (opened : state.context.connection.channel.openMessage message = (some frame, channel))
      (admission : admitFrame state.context.connection.session state.policy
        state.context.ambient.dispatchTimestamp frame = (.admitted type reader, policy)) :
      MessageOutcome state message
        ((routeMessage (state.context.withChannel channel).noteActivity type reader).1,
          { context := (routeMessage (state.context.withChannel channel).noteActivity type reader).2
            policy })

/-- The inversion of one pass of the loop. -/
theorem processMessage_outcome (state : ProcessorState) (message : ByteString) :
    MessageOutcome state message (processMessage state message) := by
  unfold processMessage
  by_cases hestablished : state.context.connection.channel.isEstablished = true
  · rcases hopened : state.context.connection.channel.openMessage message with ⟨_ | frame, channel⟩
    · simp only [hestablished, hopened, Bool.not_true, Bool.false_eq_true, if_false]
      exact .unopened hopened
    simp only [hestablished, hopened, Bool.not_true, Bool.false_eq_true, if_false,
      dispatchApplicationFrame]
    rcases hadmit : admitFrame state.context.connection.session state.policy
      state.context.ambient.dispatchTimestamp frame with ⟨_ | _ | ⟨type, reader⟩, policy⟩
    · exact .rejected hopened hadmit
    · exact .limited hopened hadmit
    · exact .routed hopened hadmit
  · have hfresh : state.context.connection.channel.transport = none := by
      simpa [NoiseChannel.isEstablished] using hestablished
    simp only [hestablished, Bool.not_false, if_true]
    exact .handshake hfresh

/-- The context with another transport. -/
def HandlerContext.withTransport (context : HandlerContext) (transport : NoiseTransport) :
    HandlerContext :=
  context.withChannel { context.connection.channel with transport := some transport }

/-- The next frame sealed by the peer, once admitted, is routed. -/
theorem processMessage_routed {state : ProcessorState} {transport : NoiseTransport}
    {type : MessageType} {frame : ByteString} {reader : ByteReader} {policy : RatePolicy}
    (established : state.context.connection.channel.transport = some transport)
    (receives : transport.receiveState.nonceCounter ≠ NoiseCipherState.exhausted)
    (admitted : admitFrame state.context.connection.session state.policy
      state.context.ambient.dispatchTimestamp frame = (.admitted type reader, policy)) :
    ∃ opened : NoiseTransport,
      opened.receiveCounter = transport.receiveCounter + 1 ∧
      opened.receiveState.key = transport.receiveState.key ∧
      opened.sendState = transport.sendState ∧
      processMessage state
          (sealedMessage transport.receiveState.key transport.receiveCounter frame) =
        ((routeMessage (state.context.withTransport opened).noteActivity type reader).1,
          { context := (routeMessage (state.context.withTransport opened).noteActivity type
              reader).2
            policy }) := by
  obtain ⟨opened, hdecrypt, hreceived, hkey, hsend⟩ :=
    NoiseTransport.decryptMessage_sealed frame receives
  refine ⟨opened, hreceived, hkey, hsend, ?_⟩
  have hopen : state.context.connection.channel.openMessage
      (sealedMessage transport.receiveState.key transport.receiveCounter frame) =
        (some frame, { state.context.connection.channel with transport := some opened }) := by
    simp only [NoiseChannel.openMessage, established, hdecrypt]
  have hestablished : state.context.connection.channel.isEstablished = true := by
    rw [NoiseChannel.isEstablished, established, Option.isSome_some]
  simp only [processMessage, hestablished, hopen, dispatchApplicationFrame, admitted,
    Bool.not_true, Bool.false_eq_true, if_false]
  rfl

/-- The input buffer of the connection being processed. -/
def ProcessorState.inputBuffer (state : ProcessorState) : ByteString :=
  state.context.connection.inputBuffer

/-- Replace the input buffer. -/
def ProcessorState.withInput (state : ProcessorState) (inputBuffer : ByteString) : ProcessorState :=
  { state with context := { state.context with
    connection := { state.context.connection with inputBuffer } } }

/-! Handling a message never touches the input buffer. -/

/-- What is sent and what is to be read are apart, -/
theorem sendMessage_inputBuffer (context : HandlerContext) (type : MessageType)
    (payload : ByteString) :
    (sendMessage context type payload).2.connection.inputBuffer = context.connection.inputBuffer :=
  (sendRawMessage_cases ..).session_eq.2

/-- so no request changes the buffer it came from, -/
theorem Answer.inputBuffer {context : HandlerContext} {type : MessageType} {reader : ByteReader}
    {out : Bool × HandlerContext} (h : Answer context type reader out) :
    out.2.connection.inputBuffer = context.connection.inputBuffer := by
  cases h with
  | closed => rfl
  | refused => exact sendMessage_inputBuffer ..
  | replied => exact sendMessage_inputBuffer ..
  | announced does payload sent =>
    have haccepted := congrArg (fun out => out.2.connection.inputBuffer) sent
    rw [sendMessage_inputBuffer, ← show _ = _ from haccepted]
    exact sendMessage_inputBuffer ..

/-- nor does the handshake, -/
theorem advanceHandshake_inputBuffer (context : HandlerContext) (message : ByteString) :
    (advanceHandshake context message).2.connection.inputBuffer =
      context.connection.inputBuffer := by
  unfold advanceHandshake
  split
  · rfl
  · simp only
    split <;> rfl

/-- nor any message. -/
theorem processMessage_inputBuffer (state : ProcessorState) (message : ByteString) :
    (processMessage state message).2.inputBuffer = state.inputBuffer := by
  have houtcome := processMessage_outcome state message
  generalize processMessage state message = out at houtcome ⊢
  cases houtcome with
  | handshake => exact advanceHandshake_inputBuffer ..
  | unopened => rfl
  | rejected => rfl
  | limited => exact sendMessage_inputBuffer ..
  | routed => exact (routeMessage_answer ..).inputBuffer

/-- The loop of `process_connection_input`, from the `index`-th message of the
batch on. -/
def processBuffer (world : ℕ → Ambient) (index : ℕ) (state : ProcessorState) :
    Bool × ProcessorState :=
  match h : extractLengthPrefixedMessage state.inputBuffer maxNoiseMessageSize with
  | .incomplete => (true, state)
  | .malformed => (false, state)
  | .message message rest =>
    let out := processMessage ((state.withInput rest).enter (world index)) message
    if out.1 then processBuffer world (index + 1) out.2 else (false, out.2)
termination_by state.inputBuffer.length
decreasing_by
  rw [processMessage_inputBuffer]
  exact extract_rest_length h

/-- `process_connection_input`: what was received is kept even when the read
reports the end of the stream, but is no longer processed then. -/
def processConnectionInput (world : ℕ → Ambient) (received : ByteString) (stillOpen : Bool)
    (state : ProcessorState) : Bool × ProcessorState :=
  let state := state.withInput (state.inputBuffer ++ received)
  if !stillOpen then (false, state) else processBuffer world 0 state

/-- While the stream goes on, input is put into the buffer and the loop is run. -/
theorem processConnectionInput_open (world : ℕ → Ambient) (received : ByteString)
    (state : ProcessorState) :
    processConnectionInput world received true state =
      processBuffer world 0 (state.withInput (state.inputBuffer ++ received)) :=
  rfl

/-- A condition on each message the loop gets to handle, in the state it is
handled in. -/
def EachMessage (condition : ProcessorState → ByteString → Prop) (world : ℕ → Ambient)
    (index : ℕ) (state : ProcessorState) : Prop :=
  match h : extractLengthPrefixedMessage state.inputBuffer maxNoiseMessageSize with
  | .incomplete => True
  | .malformed => True
  | .message message rest =>
    let entered := (state.withInput rest).enter (world index)
    condition entered message ∧ ((processMessage entered message).1 = true →
      EachMessage condition world (index + 1) (processMessage entered message).2)
termination_by state.inputBuffer.length
decreasing_by
  rw [processMessage_inputBuffer]
  exact extract_rest_length h

/-- Where the condition can be evaluated, it can be for the whole buffer. -/
def decidableEachMessage (condition : ProcessorState → ByteString → Prop)
    [∀ state message, Decidable (condition state message)] (world : ℕ → Ambient) (index : ℕ)
    (state : ProcessorState) : Decidable (EachMessage condition world index state) :=
  match hextract : extractLengthPrefixedMessage state.inputBuffer maxNoiseMessageSize with
  | .incomplete => isTrue (by rw [EachMessage]; split <;> simp_all)
  | .malformed => isTrue (by rw [EachMessage]; split <;> simp_all)
  | .message message rest =>
    let entered := (state.withInput rest).enter (world index)
    have := decidableEachMessage condition world (index + 1) (processMessage entered message).2
    decidable_of_iff (condition entered message ∧ ((processMessage entered message).1 = true →
        EachMessage condition world (index + 1) (processMessage entered message).2))
      (by
        rw [EachMessage.eq_def condition world index state]
        split
        · next h => cases hextract.symm.trans h
        · next h => cases hextract.symm.trans h
        · next h =>
          obtain ⟨rfl, rfl⟩ := Extraction.message.inj (hextract.symm.trans h)
          exact Iff.rfl)
termination_by state.inputBuffer.length
decreasing_by
  rw [processMessage_inputBuffer]
  exact extract_rest_length hextract

instance (condition : ProcessorState → ByteString → Prop)
    [∀ state message, Decidable (condition state message)] (world : ℕ → Ambient) (index : ℕ)
    (state : ProcessorState) : Decidable (EachMessage condition world index state) :=
  decidableEachMessage condition world index state

section Loop

variable {world : ℕ → Ambient} {index : ℕ} {state : ProcessorState} {message rest : ByteString}
  {condition : ProcessorState → ByteString → Prop}

/-- The loop by cases: it waits for the rest of a message, -/
theorem processBuffer_incomplete
    (h : extractLengthPrefixedMessage state.inputBuffer maxNoiseMessageSize = .incomplete) :
    processBuffer world index state = (true, state) := by
  rw [processBuffer]
  split
  · rfl
  · next h' => cases h.symm.trans h'
  · next h' => cases h.symm.trans h'

/-- ends the connection at a bad length, -/
theorem processBuffer_malformed
    (h : extractLengthPrefixedMessage state.inputBuffer maxNoiseMessageSize = .malformed) :
    processBuffer world index state = (false, state) := by
  rw [processBuffer]
  split
  · next h' => cases h.symm.trans h'
  · rfl
  · next h' => cases h.symm.trans h'

/-- or handles a message and goes on with what is behind it. -/
theorem processBuffer_message
    (h : extractLengthPrefixedMessage state.inputBuffer maxNoiseMessageSize =
      .message message rest) :
    processBuffer world index state =
      if (processMessage ((state.withInput rest).enter (world index)) message).1 then
        processBuffer world (index + 1)
          (processMessage ((state.withInput rest).enter (world index)) message).2
      else (false, (processMessage ((state.withInput rest).enter (world index)) message).2) := by
  rw [processBuffer]
  split
  · next h' => cases h.symm.trans h'
  · next h' => cases h.symm.trans h'
  · next h' =>
    obtain ⟨rfl, rfl⟩ := Extraction.message.inj (h.symm.trans h')
    rfl

omit [Sodium] in
/-- A buffer with one message in it. -/
theorem extract_single {buffer : ByteString}
    (hinput : buffer = appendLengthPrefixedMessage message) (hpos : message ≠ [])
    (hmax : message.length ≤ maxNoiseMessageSize) :
    extractLengthPrefixedMessage buffer maxNoiseMessageSize = .message message [] := by
  have hword : message.length < 2 ^ 32 := lt_of_le_of_lt hmax (by decide)
  rw [hinput, ← List.append_nil (appendLengthPrefixedMessage message)]
  exact extract_append hpos hmax hword

/-- A buffer that holds one whole message: the loop is that message. -/
theorem processBuffer_single (hinput : state.inputBuffer = appendLengthPrefixedMessage message)
    (hpos : message ≠ []) (hmax : message.length ≤ maxNoiseMessageSize) :
    processBuffer world index state =
      processMessage ((state.withInput []).enter (world index)) message := by
  rw [processBuffer_message (extract_single hinput hpos hmax)]
  split
  · next hopen =>
    rw [processBuffer_incomplete (by rw [processMessage_inputBuffer]; rfl)]
    exact Prod.ext hopen.symm rfl
  · next hclosed => exact Prod.ext (Bool.eq_false_iff.mpr hclosed).symm rfl

/-- A condition on the messages of a run, for the first of them and for the rest. -/
theorem EachMessage.of_message (hmeets : EachMessage condition world index state)
    (h : extractLengthPrefixedMessage state.inputBuffer maxNoiseMessageSize =
      .message message rest) :
    condition ((state.withInput rest).enter (world index)) message ∧
      ((processMessage ((state.withInput rest).enter (world index)) message).1 = true →
        EachMessage condition world (index + 1)
          (processMessage ((state.withInput rest).enter (world index)) message).2) := by
  rw [EachMessage] at hmeets
  split at hmeets
  · next h' => cases h.symm.trans h'
  · next h' => cases h.symm.trans h'
  · next h' =>
    obtain ⟨rfl, rfl⟩ := Extraction.message.inj (h.symm.trans h')
    exact hmeets

/-- A condition on the one message of a buffer. -/
theorem EachMessage.single (hinput : state.inputBuffer = appendLengthPrefixedMessage message)
    (hpos : message ≠ []) (hmax : message.length ≤ maxNoiseMessageSize)
    (h : condition ((state.withInput []).enter (world index)) message) :
    EachMessage condition world index state := by
  have hextract := extract_single hinput hpos hmax
  rw [EachMessage]
  split
  · trivial
  · trivial
  · next h' =>
    obtain ⟨rfl, rfl⟩ := Extraction.message.inj (hextract.symm.trans h')
    refine ⟨h, fun _ => ?_⟩
    rw [EachMessage]
    split
    · trivial
    · trivial
    · next hnext =>
      rw [processMessage_inputBuffer] at hnext
      cases hnext

/-- The induction over the loop, on the bytes left in the buffer: every message
takes some of them away. -/
@[elab_as_elim]
theorem processBuffer_rec (world : ℕ → Ambient) {motive : ℕ → ProcessorState → Prop}
    (incomplete : ∀ index state,
      extractLengthPrefixedMessage state.inputBuffer maxNoiseMessageSize = .incomplete →
      motive index state)
    (malformed : ∀ index state,
      extractLengthPrefixedMessage state.inputBuffer maxNoiseMessageSize = .malformed →
      motive index state)
    (message : ∀ index state message rest,
      extractLengthPrefixedMessage state.inputBuffer maxNoiseMessageSize = .message message rest →
      motive (index + 1) (processMessage ((state.withInput rest).enter (world index)) message).2 →
      motive index state)
    (index : ℕ) (state : ProcessorState) : motive index state := by
  induction hlength : state.inputBuffer.length using Nat.strong_induction_on
    generalizing index state with
  | _ length ih =>
    rcases hextract : extractLengthPrefixedMessage state.inputBuffer maxNoiseMessageSize with
      ⟨next, rest⟩ | _ | _
    · refine message index state next rest hextract (ih rest.length ?_ _ _ ?_)
      · rw [← hlength]
        exact extract_rest_length hextract
      · rw [processMessage_inputBuffer]
        rfl
    · exact incomplete index state hextract
    · exact malformed index state hextract

/-- An invariant that every message handled successfully preserves, under a
condition each of them meets, holds when the loop is over. -/
theorem processBuffer_invariant {I : ProcessorState → Prop}
    (hinput : ∀ {state input ambient}, I state → I ((state.withInput input).enter ambient))
    (hstep : ∀ {state message}, I state → condition state message →
      (processMessage state message).1 = true → I (processMessage state message).2)
    (hstart : I state) (hmeets : EachMessage condition world index state)
    (hopen : (processBuffer world index state).1 = true) :
    I (processBuffer world index state).2 := by
  induction index, state using processBuffer_rec world with
  | incomplete index state hextract =>
    rw [processBuffer_incomplete hextract]
    exact hstart
  | malformed index state hextract =>
    rw [processBuffer_malformed hextract] at hopen
    cases hopen
  | message index state message rest hextract ih =>
    obtain ⟨hmessage, hmeets⟩ := hmeets.of_message hextract
    rw [processBuffer_message hextract] at hopen ⊢
    by_cases hout : (processMessage ((state.withInput rest).enter (world index)) message).1 = true
    · rw [if_pos hout] at hopen ⊢
      exact ih (hstep (hinput hstart) hmessage hout) (hmeets hout) hopen
    · rw [if_neg hout] at hopen
      cases hopen

end Loop

/-! ## A log of the loop -/

/-- A log of the messages handled, after the loop of `process_connection_input`.
The source keeps none: it is what properties of whole runs are stated about. -/
def processBufferLog {Entry : Type} (entry : ProcessorState → ByteString → List Entry)
    (world : ℕ → Ambient) (index : ℕ) (state : ProcessorState) (log : List Entry) : List Entry :=
  match _hextract : extractLengthPrefixedMessage state.inputBuffer maxNoiseMessageSize with
  | .incomplete => log
  | .malformed => log
  | .message message rest =>
    let entered := (state.withInput rest).enter (world index)
    let out := processMessage entered message
    if out.1 then processBufferLog entry world (index + 1) out.2 (log ++ entry entered message)
    else log ++ entry entered message
termination_by state.inputBuffer.length
decreasing_by
  rw [processMessage_inputBuffer]
  exact extract_rest_length ‹_›

section Log

variable {world : ℕ → Ambient} {index : ℕ} {state : ProcessorState} {message rest : ByteString}
  {Entry : Type} {entry : ProcessorState → ByteString → List Entry} {log : List Entry}

/-- The log is written along the same cases. -/
theorem processBufferLog_incomplete
    (h : extractLengthPrefixedMessage state.inputBuffer maxNoiseMessageSize = .incomplete) :
    processBufferLog entry world index state log = log := by
  rw [processBufferLog]
  split
  · rfl
  · rfl
  · next h' => cases h.symm.trans h'

theorem processBufferLog_malformed
    (h : extractLengthPrefixedMessage state.inputBuffer maxNoiseMessageSize = .malformed) :
    processBufferLog entry world index state log = log := by
  rw [processBufferLog]
  split
  · rfl
  · rfl
  · next h' => cases h.symm.trans h'

/-- One pass of the loop. -/
theorem processBufferLog_step
    (h : extractLengthPrefixedMessage state.inputBuffer maxNoiseMessageSize =
      .message message rest) :
    processBufferLog entry world index state log =
      let entered := (state.withInput rest).enter (world index)
      let out := processMessage entered message
      if out.1 then processBufferLog entry world (index + 1) out.2 (log ++ entry entered message)
      else log ++ entry entered message := by
  rw [processBufferLog]
  split
  · next h' => cases h.symm.trans h'
  · next h' => cases h.symm.trans h'
  · next h' =>
    obtain ⟨rfl, rfl⟩ := Extraction.message.inj (h.symm.trans h')
    rfl

/-- A message that ends the connection is in the log, and nothing behind it is. -/
theorem processBufferLog_closed
    (h : extractLengthPrefixedMessage state.inputBuffer maxNoiseMessageSize =
      .message message rest)
    (hclosed : ¬ (processMessage ((state.withInput rest).enter (world index)) message).1 = true) :
    processBufferLog entry world index state log =
      log ++ entry ((state.withInput rest).enter (world index)) message :=
  (processBufferLog_step h).trans (if_neg hclosed)

theorem processBufferLog_message
    (h : extractLengthPrefixedMessage state.inputBuffer maxNoiseMessageSize =
      .message message rest)
    (hopen : (processMessage ((state.withInput rest).enter (world index)) message).1 = true) :
    processBufferLog entry world index state log =
      processBufferLog entry world (index + 1)
        (processMessage ((state.withInput rest).enter (world index)) message).2
        (log ++ entry ((state.withInput rest).enter (world index)) message) :=
  (processBufferLog_step h).trans (if_pos hopen)

variable (entry) in
/-- The induction over the loop, for an invariant that speaks of the log too. -/
theorem processBuffer_logged {I : ProcessorState → List Entry → Prop}
    (hinput : ∀ {state log input ambient}, I state log →
      I ((state.withInput input).enter ambient) log)
    (hstep : ∀ {state log message}, I state log → (processMessage state message).1 = true →
      I (processMessage state message).2 (log ++ entry state message))
    (hstart : I state log) (hopen : (processBuffer world index state).1 = true) :
    I (processBuffer world index state).2 (processBufferLog entry world index state log) := by
  induction index, state using processBuffer_rec world generalizing log with
  | incomplete index state hextract =>
    rw [processBuffer_incomplete hextract, processBufferLog_incomplete hextract]
    exact hstart
  | malformed index state hextract =>
    rw [processBuffer_malformed hextract] at hopen
    cases hopen
  | message index state message rest hextract ih =>
    rw [processBuffer_message hextract] at hopen ⊢
    by_cases hout : (processMessage ((state.withInput rest).enter (world index)) message).1 = true
    · rw [if_pos hout] at hopen ⊢
      rw [processBufferLog_message hextract hout]
      exact ih (hstep (hinput hstart) hout) hopen
    · rw [if_neg hout] at hopen
      cases hopen

/-- What every message preserves, whether or not the connection survives it. -/
theorem processBuffer_always {J : ProcessorState → Prop}
    (hinput : ∀ {state input ambient}, J state → J ((state.withInput input).enter ambient))
    (hstep : ∀ {state message}, J state → J (processMessage state message).2)
    (hstart : J state) : J (processBuffer world index state).2 := by
  induction index, state using processBuffer_rec world with
  | incomplete index state hextract =>
    rw [processBuffer_incomplete hextract]
    exact hstart
  | malformed index state hextract =>
    rw [processBuffer_malformed hextract]
    exact hstart
  | message index state message rest hextract ih =>
    have hnext : J (processMessage ((state.withInput rest).enter (world index)) message).2 :=
      hstep (hinput hstart)
    rw [processBuffer_message hextract]
    split
    · exact ih hnext
    · exact hnext

/-- The log only grows. -/
theorem prefix_processBufferLog : log <+: processBufferLog entry world index state log := by
  induction index, state using processBuffer_rec world generalizing log with
  | incomplete index state hextract =>
    simp [processBufferLog_incomplete hextract]
  | malformed index state hextract =>
    simp [processBufferLog_malformed hextract]
  | message index state message rest hextract ih =>
    by_cases hout : (processMessage ((state.withInput rest).enter (world index)) message).1 = true
    · rw [processBufferLog_message hextract hout]
      exact (List.prefix_append ..).trans ih
    · rw [processBufferLog_closed hextract hout]
      exact List.prefix_append ..

/-- Each entry was there before, or is that of a message handled in the loop. -/
theorem mem_processBufferLog {logged : Entry}
    (h : logged ∈ processBufferLog entry world index state log) :
    logged ∈ log ∨ ∃ (count : ℕ) (entered : ProcessorState) (message : ByteString),
      logged ∈ entry (entered.enter (world count)) message := by
  induction index, state using processBuffer_rec world generalizing log with
  | incomplete index state hextract =>
    rw [processBufferLog_incomplete hextract] at h
    exact .inl h
  | malformed index state hextract =>
    rw [processBufferLog_malformed hextract] at h
    exact .inl h
  | message index state message rest hextract ih =>
    have hentry : logged ∈ log ++ entry ((state.withInput rest).enter (world index)) message →
        logged ∈ log ∨ ∃ (count : ℕ) (entered : ProcessorState) (message : ByteString),
          logged ∈ entry (entered.enter (world count)) message := by
      intro hmem
      rcases List.mem_append.mp hmem with hold | hnew
      · exact .inl hold
      · exact .inr ⟨index, state.withInput rest, message, hnew⟩
    by_cases hout : (processMessage ((state.withInput rest).enter (world index)) message).1 = true
    · rw [processBufferLog_message hextract hout] at h
      rcases ih h with hold | hnew
      · exact hentry hold
      · exact .inr hnew
    · rw [processBufferLog_closed hextract hout] at h
      exact hentry h

end Log

end HyperCom
