import HyperCom.Lib.Run
import HyperCom.Server.Processor

/-!
# The output stream of a connection

The bytes ever queued on a connection, and the nonces its transport has
consumed. The peer opens messages with consecutive nonces, so the stream is
readable only if every nonce consumed has its message in it: `StreamIntact`.

Every handler but one ties the two together by returning `false` when a sealed
reply was refused by the full queue. The exception is the session guard, which
drops the result of its own send. So the stream stays intact in every run in
which the queue has room for each of the guard's replies
(`output_stream_intact`), and breaks in the run that fills the queue first.
-/

namespace HyperCom

open StepRun

variable [Sodium]

/-! ## The sealed stream -/

/-- The frames sealed with the nonces from `index` on, each length-prefixed. -/
def sealedStream (key : SymmetricKey) : ℕ → List ByteString → ByteString
  | _, [] => []
  | index, frame :: frames => wireMessage key index frame ++ sealedStream key (index + 1) frames

/-- The stream of some frames is that of the first and then that of the others, with the
counter going on. -/
theorem sealedStream_append (key : SymmetricKey) (index : ℕ) (frames frames' : List ByteString) :
    sealedStream key index (frames ++ frames') =
      sealedStream key index frames ++ sealedStream key (index + frames.length) frames' := by
  induction frames generalizing index with
  | nil => rfl
  | cons frame frames ih =>
    rw [List.cons_append, sealedStream, sealedStream, ih, List.append_assoc, List.length_cons,
      Nat.add_right_comm, Nat.add_assoc]

/-- One frame more is sealed with the next nonce. -/
theorem sealedStream_concat (key : SymmetricKey) (frames : List ByteString) (frame : ByteString) :
    sealedStream key 0 (frames ++ [frame]) =
      sealedStream key 0 frames ++ wireMessage key frames.length frame := by
  rw [sealedStream_append, Nat.zero_add, sealedStream, sealedStream, List.append_nil]

/-- The sealed messages of the stream, without their length prefixes. -/
def sealedMessages (key : SymmetricKey) : ℕ → List ByteString → List ByteString
  | _, [] => []
  | index, frame :: frames =>
    sealedMessage key index frame :: sealedMessages key (index + 1) frames

/-- A stream is its messages, one behind the other. -/
theorem sealedStream_eq_flatMap (key : SymmetricKey) (index : ℕ) (frames : List ByteString) :
    sealedStream key index frames =
      (sealedMessages key index frames).flatMap appendLengthPrefixedMessage := by
  induction frames generalizing index with
  | nil => rfl
  | cons frame frames ih => rw [sealedStream, sealedMessages, List.flatMap_cons, ih, wireMessage]

/-- One message a frame. -/
@[simp] theorem sealedMessages_length (key : SymmetricKey) (index : ℕ) (frames : List ByteString) :
    (sealedMessages key index frames).length = frames.length := by
  induction frames generalizing index with
  | nil => rfl
  | cons frame frames ih => rw [sealedMessages, List.length_cons, ih, List.length_cons]

/-! ## Intact streams -/

/-- `queued` is everything ever queued on the connection: after the handshake
reply, exactly the messages sealed with the nonces 0 to n-1, where n is the
send counter. -/
def StreamIntact (queued : ByteString) (channel : NoiseChannel) : Prop :=
  match channel.transport with
  | none => queued = []
  | some transport => ∃ (reply : ByteString) (frames : List ByteString),
      queued = appendLengthPrefixedMessage reply ++ sealedStream transport.sendKey 0 frames ∧
        frames.length = transport.sendCounter

/-- With a transport there is a stream. -/
theorem streamIntact_some {queued : ByteString} {channel : NoiseChannel}
    {transport : NoiseTransport} (h : channel.transport = some transport) :
    StreamIntact queued channel ↔ ∃ (reply : ByteString) (frames : List ByteString),
      queued = appendLengthPrefixedMessage reply ++ sealedStream transport.sendKey 0 frames ∧
        frames.length = transport.sendCounter := by
  rw [StreamIntact, h]

/-- The invariant carried through the processing of one connection, after
`delivered` bytes have left its queue. -/
def OutputIntact (delivered : ByteString) (connection : ClientConnection) : Prop :=
  StreamIntact (delivered ++ connection.socket.pendingOutput) connection.channel

section Sends

variable {delivered : ByteString} {connection connection' : ClientConnection}
  {type : MessageType} {payload : ByteString}

/-- A queued message extends the stream by the nonce it consumed. -/
theorem OutputIntact.sent (h : OutputIntact delivered connection)
    (hsend : SendOutcome connection type payload true connection') :
    OutputIntact delivered connection' := by
  cases hsend with
  | @queued transport transport' established counter key receive fits room =>
    obtain ⟨reply, frames, hqueued, hcount⟩ := (streamIntact_some established).mp h
    refine (streamIntact_some rfl).mpr ⟨reply, frames ++ [frameBytes type payload], ?_, ?_⟩
    · rw [sealedStream_concat, key, hcount, ← List.append_assoc, ← List.append_assoc, hqueued]
    · rw [List.length_append, hcount, counter, List.length_singleton]

/-- The bytes of a send, once on the wire. -/
def wireSize (payload : ByteString) : ℕ :=
  frameLengthFieldSize + (frameHeaderSize + payload.length + aeadTagSize)

/-- How many bytes a frame takes on the wire. -/
theorem wireMessage_frameBytes (key : SymmetricKey) (index : ℕ) (type : MessageType)
    (payload : ByteString) :
    (wireMessage key index (frameBytes type payload)).length = wireSize payload := by
  rw [wireMessage_length, frameBytes_length, wireSize]

/-- With room for it, a send leaves the stream intact whatever it returns. -/
theorem OutputIntact.sent_of_room {sent : Bool} (h : OutputIntact delivered connection)
    (room : connection.socket.pendingOutput.length + wireSize payload ≤ maxPendingOutput)
    (hsend : SendOutcome connection type payload sent connection') :
    OutputIntact delivered connection' := by
  cases hsend with
  | unsent => exact h
  | queued established counter key receive fits room' =>
    exact h.sent (.queued established counter key receive fits room')
  | dropped established counter key receive fits full =>
    rw [frameBytes_length] at full
    exact absurd room (Nat.not_le.mpr full)

end Sends

/-! ## One message -/

/-- What the guard answers. -/
def refusalPayload : ByteString :=
  StatusErrorResponse.writeTo
    { code := .notAuthenticated, detail := describeErrorCode .notAuthenticated }

/-- The bytes of that answer on the wire. -/
def refusalWireSize : ℕ := 55

omit [Sodium] in
/-- A refusal takes always the same. -/
theorem wireSize_refusal : wireSize refusalPayload = refusalWireSize := by
  decide

/-- Whether handling the message ends at the session guard. -/
def refusedByGuard (state : ProcessorState) (message : ByteString) : Bool :=
  let context := state.context
  match (context.connection.channel.openMessage message).1 with
  | none => false
  | some frame =>
    match (admitFrame context.connection.session state.policy context.ambient.dispatchTimestamp
        frame).1 with
    | .admitted type _ => type.behindGuard && !context.connection.session.isRegistered
    | _ => false

/-- If the session guard refuses the message, the queue has room for its
reply. -/
def RefusalFits (state : ProcessorState) (message : ByteString) : Prop :=
  refusedByGuard state message = true →
    state.context.connection.socket.pendingOutput.length + refusalWireSize ≤ maxPendingOutput

section Step

variable {delivered : ByteString} {context : HandlerContext}

/-- A message that was sent extends the stream by itself. -/
theorem OutputIntact.sendMessage {type : MessageType} {payload : ByteString}
    (h : OutputIntact delivered context.connection)
    (hsent : (HyperCom.sendMessage context type payload).1 = true) :
    OutputIntact delivered (HyperCom.sendMessage context type payload).2.connection := by
  have houtcome := sendRawMessage_cases context.connection type payload
  rw [show (sendRawMessage context.connection type payload).1 = true from hsent] at houtcome
  exact h.sent houtcome

/-- Routing a request leaves the stream intact if the connection stays open and
the guard's refusal, if that is the answer, fits. -/
theorem OutputIntact.routeMessage {type : MessageType} {reader : ByteReader}
    (h : OutputIntact delivered context.connection)
    (hfits : type.behindGuard = true → context.connection.session.isRegistered = false →
      context.connection.socket.pendingOutput.length + refusalWireSize ≤ maxPendingOutput)
    (hopen : (HyperCom.routeMessage context type reader).1 = true) :
    OutputIntact delivered (HyperCom.routeMessage context type reader).2.connection := by
  have hanswer := routeMessage_answer context type reader
  generalize HyperCom.routeMessage context type reader = out at hanswer hopen ⊢
  cases hanswer with
  | closed => cases hopen
  | refused guarded unregistered =>
    have hroom := hfits guarded unregistered
    rw [← wireSize_refusal] at hroom
    exact h.sent_of_room hroom (sendRawMessage_cases ..)
  | @replied database session =>
    have hleft : OutputIntact delivered (context.leave database session).connection := h
    exact hleft.sendMessage hopen
  | @announced database session announcement accepted does payload sent =>
    have hleft : OutputIntact delivered (context.leave database session).connection := h
    have hfirst := hleft.sendMessage (congrArg Prod.fst sent)
    rw [show _ = accepted from congrArg Prod.snd sent] at hfirst
    exact hfirst.sendMessage hopen

/-- The handshake reply opens the stream. -/
theorem OutputIntact.advanceHandshake {message : ByteString}
    (h : OutputIntact delivered context.connection)
    (hfresh : context.connection.channel.transport = none)
    (hopen : (HyperCom.advanceHandshake context message).1 = true) :
    OutputIntact delivered (HyperCom.advanceHandshake context message).2.connection := by
  have hempty : delivered ++ context.connection.socket.pendingOutput = [] := by
    rwa [OutputIntact, StreamIntact, hfresh] at h
  rcases haccept : context.connection.channel.acceptHandshakeMessage context.ambient.ephemeral
    message with ⟨_ | reply, channel⟩
  · rw [HyperCom.advanceHandshake, haccept] at hopen
    cases hopen
  · obtain ⟨⟨sendKey, receiveKey, htransport⟩, -⟩ :=
      NoiseChannel.acceptHandshakeMessage_some haccept
    rcases hqueue : context.connection.socket.queueBytes (appendLengthPrefixedMessage reply) with
      ⟨_ | _, socket⟩
    · simp only [HyperCom.advanceHandshake, haccept, hqueue] at hopen
      cases hopen
    · simp only [HyperCom.advanceHandshake, haccept, hqueue]
      unfold ConnectionSocket.queueBytes at hqueue
      split at hqueue
      · cases hqueue
      obtain ⟨-, rfl⟩ := Prod.mk.inj hqueue
      refine (streamIntact_some htransport).mpr ⟨reply, [], ?_, rfl⟩
      rw [← List.append_assoc, hempty, sealedStream, List.append_nil, List.nil_append]

/-- Opening a message does not concern the output. -/
theorem OutputIntact.openMessage {connection : ClientConnection} {message : ByteString}
    {frame? : Option ByteString} {channel : NoiseChannel}
    (h : OutputIntact delivered connection)
    (hopened : connection.channel.openMessage message = (frame?, channel)) :
    OutputIntact delivered { connection with channel } := by
  unfold NoiseChannel.openMessage at hopened
  split at hopened
  · obtain ⟨-, rfl⟩ := Prod.mk.inj hopened
    exact h
  · next transport established =>
    obtain ⟨-, rfl⟩ := Prod.mk.inj hopened
    unfold OutputIntact
    rw [streamIntact_some rfl]
    exact (streamIntact_some established).mp h

/-- One pass of the processing loop leaves the stream intact. -/
theorem OutputIntact.processMessage {state : ProcessorState} {message : ByteString}
    (h : OutputIntact delivered state.context.connection) (hfits : RefusalFits state message)
    (hopen : (HyperCom.processMessage state message).1 = true) :
    OutputIntact delivered (HyperCom.processMessage state message).2.context.connection := by
  have houtcome := processMessage_outcome state message
  generalize HyperCom.processMessage state message = out at houtcome hopen ⊢
  cases houtcome with
  | handshake fresh => exact h.advanceHandshake fresh hopen
  | unopened => cases hopen
  | rejected => cases hopen
  | limited opened =>
    have hopened := h.openMessage opened
    exact OutputIntact.sendMessage hopened hopen
  | routed opened admitted =>
    have hopened := h.openMessage opened
    refine OutputIntact.routeMessage hopened ?_ hopen
    intro guarded unregistered
    refine hfits ?_
    have hsession : state.context.connection.session.isRegistered = false := unregistered
    simp [refusedByGuard, opened, admitted, guarded, hsession]

end Step

/-! ## Whole runs -/

/-- A connection with the bytes its peer has already taken. -/
structure ConnectionRun where
  state : ProcessorState
  delivered : ByteString := []

/-- Everything ever queued on the connection. -/
def ConnectionRun.everQueued (run : ConnectionRun) : ByteString :=
  run.delivered ++ run.state.context.connection.socket.pendingOutput

/-- What happens on one connection: input arrives, or the peer takes some of
the output. The database and the rate counters are shared, so they are whatever
the other connections have made of them when input arrives. -/
inductive ConnectionEvent where
  | input (database : DatabaseHandle) (policy : RatePolicy) (received : ByteString)
      (stillOpen : Bool) (world : ℕ → Ambient)
  | flush (count : ℕ)

/-- The state in which `process_connection_input` is called. -/
def ConnectionRun.receiving (run : ConnectionRun) (database : DatabaseHandle)
    (policy : RatePolicy) : ProcessorState :=
  { context := { run.state.context with database }, policy }

/-- One event; the run is over when `process_connection_input` returns `false`. -/
def ConnectionRun.step (run : ConnectionRun) : ConnectionEvent → Option ConnectionRun
  | .input database policy received stillOpen world =>
    match processConnectionInput world received stillOpen (run.receiving database policy) with
    | (false, _) => none
    | (true, state) => some { run with state }
  | .flush count =>
    let pending := run.state.context.connection.socket.pendingOutput
    some {
      state := { run.state with context := { run.state.context with
        connection := { run.state.context.connection with
          socket := { pendingOutput := pending.drop count } } } }
      delivered := run.delivered ++ pending.take count }

/-- A step of the run that handles input. -/
theorem ConnectionRun.step_input {run : ConnectionRun} {database : DatabaseHandle}
    {policy : RatePolicy} {received : ByteString} {stillOpen : Bool} {world : ℕ → Ambient}
    {state : ProcessorState}
    (h : processConnectionInput world received stillOpen (run.receiving database policy) =
      (true, state)) :
    run.step (.input database policy received stillOpen world) = some { run with state } := by
  rw [ConnectionRun.step, h]

/-- A run on a freshly accepted connection. -/
def ConnectionRun.fresh (config : ServerConfig) (staticPublic : X25519PublicKey)
    (staticSecret : X25519SecretKey) (peerAddress : ByteString) (connectedAt : UInt64) :
    ConnectionRun :=
  { state := {
      context := {
        config, database := {}
        connection := ClientConnection.accepted staticPublic staticSecret peerAddress connectedAt }
      policy := { perAddress := 0, perIdentity := 0 } } }

/-- Each message of the event that the session guard refuses finds room for the
refusal. -/
def ConnectionRun.RefusalsFit (run : ConnectionRun) : ConnectionEvent → Prop
  | .input database policy received stillOpen world => stillOpen = true →
    EachMessage RefusalFits world 0
      ((run.receiving database policy).withInput (run.state.inputBuffer ++ received))
  | .flush _ => True

/-- Nothing has been sent on a new connection. -/
theorem ConnectionRun.fresh_intact (config : ServerConfig) (staticPublic : X25519PublicKey)
    (staticSecret : X25519SecretKey) (peerAddress : ByteString) (connectedAt : UInt64) :
    OutputIntact [] (ConnectionRun.fresh config staticPublic staticSecret peerAddress
      connectedAt).state.context.connection := by
  unfold OutputIntact StreamIntact
  rfl

/-- One event keeps the stream intact. -/
theorem ConnectionRun.step_intact {run run' : ConnectionRun} {event : ConnectionEvent}
    (h : OutputIntact run.delivered run.state.context.connection) (hfits : run.RefusalsFit event)
    (hstep : run.step event = some run') :
    OutputIntact run'.delivered run'.state.context.connection := by
  cases event with
  | input database policy received stillOpen world =>
    rcases hprocess : processConnectionInput world received stillOpen
      (run.receiving database policy) with ⟨_ | _, state⟩
    · rw [ConnectionRun.step, hprocess] at hstep
      cases hstep
    rw [ConnectionRun.step, hprocess] at hstep
    obtain rfl := Option.some.inj hstep
    cases stillOpen with
    | false => cases hprocess
    | true =>
      rw [processConnectionInput_open] at hprocess
      have hstart : OutputIntact run.delivered ((run.receiving database policy).withInput
          (run.state.inputBuffer ++ received)).context.connection := h
      have hloop := processBuffer_invariant
        (I := fun state => OutputIntact run.delivered state.context.connection)
        (fun h => h) OutputIntact.processMessage hstart (hfits rfl)
      rw [show processBuffer world 0 ((run.receiving database policy).withInput
        (run.state.inputBuffer ++ received)) = _ from hprocess] at hloop
      exact hloop rfl
  | flush count =>
    obtain rfl := Option.some.inj hstep
    have hmoved : (run.delivered ++ run.state.context.connection.socket.pendingOutput.take count) ++
        run.state.context.connection.socket.pendingOutput.drop count =
        run.delivered ++ run.state.context.connection.socket.pendingOutput := by
      rw [List.append_assoc, List.take_append_drop]
    unfold OutputIntact
    rw [hmoved]
    exact h

/-! ## A client that never registers and never reads

Each of its requests is refused, each refusal takes 55 bytes of the queue, and
the first that does not fit consumes its nonce all the same. -/

/-- A stream has one reading, so a nonce consumed without its message leaves a
stream that is no longer intact. -/
theorem StreamIntact.not_skipped {queued : ByteString} {channel channel' : NoiseChannel}
    {transport transport' : NoiseTransport} (h : StreamIntact queued channel)
    (hshort : queued.length < 2 ^ 32) (established : channel.transport = some transport)
    (established' : channel'.transport = some transport')
    (counter : transport'.sendCounter = transport.sendCounter + 1) :
    ¬ StreamIntact queued channel' := by
  intro h'
  obtain ⟨reply, frames, hqueued, hcount⟩ := (streamIntact_some established).mp h
  obtain ⟨reply', frames', hqueued', hcount'⟩ := (streamIntact_some established').mp h'
  have hread : queued = (reply :: sealedMessages transport.sendKey 0 frames).flatMap
      appendLengthPrefixedMessage := by
    rw [hqueued, sealedStream_eq_flatMap, List.flatMap_cons]
  have hread' : queued = (reply' :: sealedMessages transport'.sendKey 0 frames').flatMap
      appendLengthPrefixedMessage := by
    rw [hqueued', sealedStream_eq_flatMap, List.flatMap_cons]
  have hsame := congrArg List.length
    (lengthPrefixed_flatMap_inj (length_lt_of_flatMap hread hshort)
      (length_lt_of_flatMap hread' hshort) (hread.symm.trans hread'))
  simp only [List.length_cons, sealedMessages_length] at hsame
  omega

/-- A request behind the guard. -/
def guardedFrame : ByteString := frameBytes .friendListRequest []

/-- Limits of 0 are no limits. -/
def unlimited : RatePolicy := { perAddress := 0, perIdentity := 0 }

/-- An unregistered connection after `count` refusals, none of them taken by the
peer. -/
structure Flooded (count : ℕ) (run : ConnectionRun) : Prop where
  transport : ∃ transport, run.state.context.connection.channel.transport = some transport ∧
    transport.sendCounter = count ∧ transport.receiveCounter = count
  unregistered : run.state.context.connection.session.userId = 0
  consumed : run.state.inputBuffer = []
  undelivered : run.delivered = []
  pending : run.state.context.connection.socket.pendingOutput.length = 52 + refusalWireSize * count
  intact : StreamIntact run.everQueued run.state.context.connection.channel

/-- One more refusal, seen from the connection. -/
theorem processMessage_guarded {state : ProcessorState} {transport : NoiseTransport}
    (established : state.context.connection.channel.transport = some transport)
    (unregistered : state.context.connection.session.userId = 0)
    (hpolicy : state.policy = unlimited)
    (receives : transport.receiveState.nonceCounter ≠ NoiseCipherState.exhausted)
    (sends : transport.sendState.nonceCounter ≠ NoiseCipherState.exhausted) :
    ∃ (state' : ProcessorState) (transport' : NoiseTransport) (refusal : ByteString),
      processMessage state
        (sealedMessage transport.receiveState.key transport.receiveCounter guardedFrame) =
          (true, state') ∧
      state'.context.connection.channel.transport = some transport' ∧
      transport'.sendCounter = transport.sendCounter + 1 ∧
      transport'.receiveCounter = transport.receiveCounter + 1 ∧
      state'.context.connection.session.userId = 0 ∧
      refusal.length = refusalWireSize ∧
      state'.context.connection.socket =
        (state.context.connection.socket.queueBytes refusal).2 := by
  have hadmit : admitFrame state.context.connection.session state.policy
      state.context.ambient.dispatchTimestamp guardedFrame = (.admitted .friendListRequest
        (ByteReader.start []), (allowAddressRequest unlimited
          state.context.connection.session.peerAddress
          state.context.ambient.dispatchTimestamp).2) := by
    rw [hpolicy]
    refine admitFrame_frameBytes (by decide) rfl ?_
    rw [unregistered]
    rfl
  obtain ⟨opened, hreceived, -, hsendState, hprocess⟩ :=
    processMessage_routed established receives hadmit
  have hregistered : (state.context.withTransport opened).noteActivity.connection.session.isRegistered
      = false := by
    simp [HandlerContext.withTransport, HandlerContext.withChannel, HandlerContext.noteActivity,
      SessionState.isRegistered, unregistered]
  have hroute : routeMessage (state.context.withTransport opened).noteActivity .friendListRequest
      (ByteReader.start []) = (true, (sendStatusError
        (state.context.withTransport opened).noteActivity .notAuthenticated).2) := by
    rw [routeMessage, handleFriendListRequest]
    exact guardedRequest_refused hregistered
  rw [hroute] at hprocess
  have hnonces : opened.sendState.nonceCounter ≠ NoiseCipherState.exhausted := by
    rw [hsendState]
    exact sends
  have hestablished : (state.context.withTransport opened).noteActivity.connection.channel.transport
      = some opened := rfl
  have hfits : refusalPayload.length ≤ maxPayloadSize := by
    decide
  obtain ⟨transport', hcounter, -, hreceive, hsend⟩ :=
    sendRawMessage_sealed .statusError hestablished hnonces hfits
  rw [refusalPayload] at hsend
  refine ⟨_, transport', wireMessage opened.sendKey opened.sendCounter
    (frameBytes .statusError refusalPayload), hprocess, ?_, ?_, ?_, ?_, ?_, ?_⟩
  · simp only [sendStatusError, sendMessage, hsend]
  · rw [hcounter, NoiseTransport.sendCounter, hsendState, NoiseTransport.sendCounter]
  · rw [NoiseTransport.receiveCounter, hreceive, ← hreceived, NoiseTransport.receiveCounter]
  · simp only [sendStatusError, sendMessage, hsend]
    exact unregistered
  · rw [wireMessage_length, frameBytes_length]
    decide
  · simp only [sendStatusError, sendMessage, hsend]
    rfl

/-- The next guarded request arrives. -/
def guardedInput (transport : NoiseTransport) : ConnectionEvent :=
  .input {} unlimited
    (wireMessage transport.receiveState.key transport.receiveCounter guardedFrame) true fun _ => {}

section Flood

variable {count : ℕ} {run : ConnectionRun} {transport : NoiseTransport}

/-- The frame that is refused is a message on the wire. -/
theorem guardedInput_size (transport : NoiseTransport) :
    sealedMessage transport.receiveState.key transport.receiveCounter guardedFrame ≠ [] ∧
    (sealedMessage transport.receiveState.key transport.receiveCounter guardedFrame).length ≤
      maxNoiseMessageSize := by
  have hlength := sealedMessage_length transport.receiveState.key transport.receiveCounter
    guardedFrame
  refine ⟨?_, ?_⟩
  · intro hempty
    rw [hempty, guardedFrame, frameBytes_length] at hlength
    cases hlength
  · rw [hlength, guardedFrame, frameBytes_length]
    decide

/-- A refusal more: the connection stays open, both counters move, and the queue
takes the refusal if it can. -/
theorem Flooded.step (h : Flooded count run) (hcount : count < 2 ^ 63)
    (established : run.state.context.connection.channel.transport = some transport) :
    ∃ (run' : ConnectionRun) (transport' : NoiseTransport) (refusal : ByteString),
      run.step (guardedInput transport) = some run' ∧
      run'.delivered = [] ∧ run'.state.inputBuffer = [] ∧
      run'.state.context.connection.session.userId = 0 ∧
      run'.state.context.connection.channel.transport = some transport' ∧
      transport'.sendCounter = count + 1 ∧ transport'.receiveCounter = count + 1 ∧
      refusal.length = refusalWireSize ∧
      run'.state.context.connection.socket =
        (run.state.context.connection.socket.queueBytes refusal).2 := by
  obtain ⟨_, established', hsends, hreceives⟩ := h.transport
  obtain rfl := Option.some.inj (established.symm.trans established')
  obtain ⟨hpos, hmax⟩ := guardedInput_size transport
  let state := (run.receiving {} unlimited).withInput (run.state.inputBuffer ++
    wireMessage transport.receiveState.key transport.receiveCounter guardedFrame)
  have hinput : state.inputBuffer = appendLengthPrefixedMessage
      (sealedMessage transport.receiveState.key transport.receiveCounter guardedFrame) := by
    change run.state.inputBuffer ++ _ = _
    rw [h.consumed, List.nil_append, wireMessage]
  have hreceive : transport.receiveState.nonceCounter.toNat < 2 ^ 63 := by
    rw [← NoiseTransport.receiveCounter, hreceives]
    exact hcount
  have hsend : transport.sendState.nonceCounter.toNat < 2 ^ 63 := by
    rw [← NoiseTransport.sendCounter, hsends]
    exact hcount
  have hentered : ((state.withInput []).enter {}).context.connection.channel.transport =
      some transport := established
  obtain ⟨state', transport', refusal, hprocess, htransport, hsent, hreceived, huser, hlength,
    hsocket⟩ := processMessage_guarded hentered h.unregistered rfl
      (NoiseTransport.ne_exhausted (hreceive.trans (by decide)))
      (NoiseTransport.ne_exhausted (hsend.trans (by decide)))
  have hstep : processConnectionInput (fun _ => {}) (wireMessage transport.receiveState.key
      transport.receiveCounter guardedFrame) true (run.receiving {} unlimited) = (true, state') := by
    rw [← hprocess]
    exact processBuffer_single hinput hpos hmax
  have hconsumed := processMessage_inputBuffer ((state.withInput []).enter {})
    (sealedMessage transport.receiveState.key transport.receiveCounter guardedFrame)
  rw [hprocess] at hconsumed
  refine ⟨{ run with state := state' }, transport', refusal, ConnectionRun.step_input hstep,
    h.undelivered, hconsumed, huser, htransport, ?_, ?_, hlength, hsocket⟩
  · rw [hsent, hsends]
  · rw [hreceived, hreceives]

/-- While the queue has room, refusals go in. -/
theorem Flooded.refusalsFit (h : Flooded count run)
    (hroom : 52 + refusalWireSize * (count + 1) ≤ maxPendingOutput) :
    run.RefusalsFit (guardedInput transport) := by
  obtain ⟨hpos, hmax⟩ := guardedInput_size transport
  intro _
  refine EachMessage.single ?_ hpos hmax ?_
  · change run.state.inputBuffer ++ _ = _
    rw [h.consumed, List.nil_append, wireMessage]
  · intro _
    change run.state.context.connection.socket.pendingOutput.length + _ ≤ _
    rw [h.pending, Nat.add_assoc, ← Nat.mul_succ]
    exact hroom

/-- With room for the refusal the flood goes on. -/
theorem Flooded.next (h : Flooded count run) (hcount : count < 2 ^ 63)
    (hroom : 52 + refusalWireSize * (count + 1) ≤ maxPendingOutput)
    (established : run.state.context.connection.channel.transport = some transport) :
    ∃ run', run.step (guardedInput transport) = some run' ∧ Flooded (count + 1) run' := by
  obtain ⟨run', transport', refusal, hstep, hdelivered, hconsumed, huser, htransport, hsent,
    hreceived, hlength, hsocket⟩ := h.step hcount established
  have hqueue : run.state.context.connection.socket.pendingOutput.length + refusal.length ≤
      maxPendingOutput := by
    rw [h.pending, hlength, Nat.add_assoc, ← Nat.mul_succ]
    exact hroom
  refine ⟨run', hstep, ⟨transport', htransport, hsent, hreceived⟩, huser, hconsumed, hdelivered,
    ?_, ConnectionRun.step_intact h.intact (h.refusalsFit hroom) hstep⟩
  rw [hsocket, ConnectionSocket.queueBytes_of_room hqueue, List.length_append, h.pending, hlength,
    Nat.add_assoc, ← Nat.mul_succ]

/-- Without it, the nonce is gone and the connection is still open. -/
theorem Flooded.overflow (h : Flooded count run) (hcount : count < 2 ^ 63)
    (hfull : maxPendingOutput < 52 + refusalWireSize * (count + 1))
    (hshort : 52 + refusalWireSize * count < 2 ^ 32)
    (established : run.state.context.connection.channel.transport = some transport) :
    ∃ run', run.step (guardedInput transport) = some run' ∧
      ¬ StreamIntact run'.everQueued run'.state.context.connection.channel := by
  obtain ⟨run', transport', refusal, hstep, hdelivered, -, -, htransport, hsent, -, hlength,
    hsocket⟩ := h.step hcount established
  have hqueue : maxPendingOutput <
      run.state.context.connection.socket.pendingOutput.length + refusal.length := by
    rw [h.pending, hlength, Nat.add_assoc, ← Nat.mul_succ]
    exact hfull
  have hsame : run'.everQueued = run.everQueued := by
    rw [ConnectionRun.everQueued, ConnectionRun.everQueued, hdelivered, h.undelivered, hsocket,
      ConnectionSocket.queueBytes_of_full hqueue]
  refine ⟨run', hstep, ?_⟩
  rw [hsame]
  refine h.intact.not_skipped ?_ established htransport ?_
  · rw [ConnectionRun.everQueued, h.undelivered, List.nil_append, h.pending]
    exact hshort
  · obtain ⟨_, established', hsends, -⟩ := h.transport
    obtain rfl := Option.some.inj (established.symm.trans established')
    rw [hsent, hsends]

end Flood

/-- The handshake of the stand-in: a first message of zeros. -/
def floodHandshake : ConnectionEvent :=
  .input {} unlimited (appendLengthPrefixedMessage (List.replicate noiseHandshakeMessageSize 0)) true
    fun _ => { ephemeral := some (FixedBytes.zero _, FixedBytes.zero _) }

/-- A guarded request, sealed by the stand-in. -/
def floodRequest : ConnectionEvent :=
  .input {} unlimited (appendLengthPrefixedMessage (guardedFrame ++ transparentTag)) true fun _ => {}

omit [Sodium] in
/-- The connection before the first of them. -/
theorem flood_start :
    letI := transparentSodium
    let fresh := ConnectionRun.fresh {} (FixedBytes.zero _) (FixedBytes.zero _) [] 0
    fresh.RefusalsFit floodHandshake ∧
      ∃ run, fresh.step floodHandshake = some run ∧ Flooded 0 run := by
  let _ := transparentSodium
  intro fresh
  let first : ByteString := List.replicate noiseHandshakeMessageSize 0
  let ambient : Ambient := { ephemeral := some (FixedBytes.zero _, FixedBytes.zero _) }
  let state := (fresh.receiving {} unlimited).withInput (appendLengthPrefixedMessage first)
  obtain ⟨handshake, sendKey, receiveKey, reply, haccept, hreply⟩ :
      ∃ handshake sendKey receiveKey reply,
        fresh.state.context.connection.channel.acceptHandshakeMessage ambient.ephemeral first =
          (some reply, { handshake, transport := some (NoiseTransport.create sendKey receiveKey) }) ∧
        reply.length = noiseHandshakeMessageSize :=
    ⟨_, _, _, _, rfl, rfl⟩
  have hroom : ([] : ByteString).length + (appendLengthPrefixedMessage reply).length ≤
      maxPendingOutput := by
    rw [appendLengthPrefixedMessage_length, hreply]
    decide
  have hpos : first ≠ [] := by decide
  have hmax : first.length ≤ maxNoiseMessageSize := by decide
  have hentered : ((state.withInput []).enter ambient).context.connection.channel.transport =
      none := rfl
  have hinput : processConnectionInput (fun _ => ambient) (appendLengthPrefixedMessage first) true
      (fresh.receiving {} unlimited) = _ :=
    (processBuffer_single rfl hpos hmax).trans (processMessage_handshake hentered haccept hroom)
  have hstep := ConnectionRun.step_input hinput
  have hfits : fresh.RefusalsFit floodHandshake := by
    intro _
    refine EachMessage.single rfl hpos hmax ?_
    intro hrefused
    cases hrefused
  refine ⟨hfits, _, hstep, ⟨_, rfl, rfl, rfl⟩, rfl, rfl, rfl, ?_,
    ConnectionRun.step_intact (ConnectionRun.fresh_intact ..) hfits hstep⟩
  change (appendLengthPrefixedMessage reply).length = _
  rw [appendLengthPrefixedMessage_length, hreply]
  rfl

omit [Sodium] in
/-- The flood, for as long as the refusals fit. -/
theorem flood_run (count more : ℕ) :
    letI := transparentSodium
    ∀ run, Flooded count run → 52 + refusalWireSize * (count + more) ≤ maxPendingOutput →
      ∃ run', after ConnectionRun.step run (List.replicate more floodRequest) = some run' ∧
        Flooded (count + more) run' := by
  let _ := transparentSodium
  induction more generalizing count with
  | zero => exact fun run h _ => ⟨run, rfl, h⟩
  | succ more ih =>
    intro run h hroom
    have hnext : 52 + refusalWireSize * (count + 1) ≤ maxPendingOutput := by
      simp only [refusalWireSize] at hroom ⊢
      omega
    have hcount : count < 2 ^ 63 := by
      simp only [refusalWireSize, maxPendingOutput] at hnext
      omega
    obtain ⟨transport, established, -, -⟩ := h.transport
    obtain ⟨mid, hstep, hmid⟩ := h.next hcount hnext established
    rw [show count + (more + 1) = count + 1 + more by omega] at hroom ⊢
    obtain ⟨run', hrun, hlast⟩ := ih (count + 1) mid hmid hroom
    exact ⟨run', after_of_step hstep hrun, hlast⟩

/-! ## The stream of a whole run -/

/-- In every run of a connection that is still open and in which each refusal of
the session guard found room in the queue, the bytes ever queued after the
handshake reply are exactly the messages sealed with the nonces 0 to n-1, in
order, where n is the send counter. -/
theorem output_stream_intact (config : ServerConfig) (staticPublic : X25519PublicKey)
    (staticSecret : X25519SecretKey) (peerAddress : ByteString) (connectedAt : UInt64)
    (events : List ConnectionEvent) (run : ConnectionRun)
    (hfits : Along ConnectionRun.step ConnectionRun.RefusalsFit
      (.fresh config staticPublic staticSecret peerAddress connectedAt) events)
    (hrun : after ConnectionRun.step
      (.fresh config staticPublic staticSecret peerAddress connectedAt) events = some run) :
    StreamIntact run.everQueued run.state.context.connection.channel := by
  have hintact : OutputIntact run.delivered run.state.context.connection :=
    after_invariant (I := fun run => OutputIntact run.delivered run.state.context.connection)
      ConnectionRun.step_intact (ConnectionRun.fresh_intact ..) hfits hrun
  exact hintact

omit [Sodium] in
/-- A refused request, half of its refusal taken by the peer. -/
theorem output_stream_intact_refused :
    letI := transparentSodium
    ∃ run, after ConnectionRun.step (.fresh {} (FixedBytes.zero _) (FixedBytes.zero _) [] 0)
        [floodHandshake, floodRequest, .flush 80] = some run ∧
      StreamIntact run.everQueued run.state.context.connection.channel := by
  let _ := transparentSodium
  obtain ⟨hfits, started, hstart, hflooded⟩ := flood_start
  obtain ⟨transport, established, -, -⟩ := hflooded.transport
  obtain ⟨refused, hrefused, -⟩ := hflooded.next (by decide) (by decide) established
  obtain ⟨run, hflush⟩ : ∃ run, refused.step (.flush 80) = some run := ⟨_, rfl⟩
  have hrun := after_of_step hstart
    (after_of_step hrefused (after_of_step hflush (after_nil run)))
  refine ⟨run, hrun, output_stream_intact _ _ _ _ _ _ _ ?_ hrun⟩
  refine ⟨hfits, ?_⟩
  intro mid hmid
  obtain rfl := Option.some.inj (hstart.symm.trans hmid)
  exact ⟨hflooded.refusalsFit (by decide), fun _ _ => ⟨trivial, fun _ _ => trivial⟩⟩

omit [Sodium] in
/-- The queue has room for 76259 refusals. The 76260th consumes its nonce, its
bytes are refused, and the connection stays open. -/
theorem output_stream_skips_nonce :
    letI := transparentSodium
    ∃ run, after ConnectionRun.step
        (.fresh {} (FixedBytes.zero _) (FixedBytes.zero _) [] 0)
        (floodHandshake :: (List.replicate 76259 floodRequest ++ [floodRequest])) = some run ∧
      ¬ StreamIntact run.everQueued run.state.context.connection.channel := by
  let _ := transparentSodium
  obtain ⟨-, started, hstart, hflooded⟩ := flood_start
  obtain ⟨full, hfull, hfilled⟩ := flood_run 0 76259 started hflooded (by decide)
  obtain ⟨transport, established, -, -⟩ := hfilled.transport
  obtain ⟨run, hlast, hbroken⟩ := hfilled.overflow (by decide) (by decide) (by decide) established
  exact ⟨run, after_of_step hstart (after_append hfull (after_of_step hlast rfl)), hbroken⟩

end HyperCom
