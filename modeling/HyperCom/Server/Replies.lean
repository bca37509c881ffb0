import HyperCom.Server.OutputStream

/-!
# One reply per request

The client tells replies apart by their position only, so what it needs of the
server is that every message handled queues exactly one message. Two requests
break this: one that opens a session while a message of the day is active is
answered twice, and one the session guard refuses is not answered at all when
its refusal cannot be queued.

`processBuffer_replies` is the loop of `process_connection_input` under the
condition that excludes the two (`AnsweredOnce`): the messages handled and the
messages queued correspond one to one, in order.
-/

namespace HyperCom

variable [Sodium]

/-- The bytes are a stream of these messages, each length-prefixed. -/
def messageStream (messages : List ByteString) : ByteString :=
  messages.flatMap appendLengthPrefixedMessage

omit [Sodium] in
@[simp] theorem messageStream_nil : messageStream [] = [] := rfl

omit [Sodium] in
@[simp] theorem messageStream_append (messages messages' : List ByteString) :
    messageStream (messages ++ messages') = messageStream messages ++ messageStream messages' :=
  List.flatMap_append

omit [Sodium] in
@[simp] theorem messageStream_cons (message : ByteString) (messages : List ByteString) :
    messageStream (message :: messages) =
      appendLengthPrefixedMessage message ++ messageStream messages :=
  List.flatMap_cons

omit [Sodium] in
theorem messageStream_singleton (message : ByteString) :
    messageStream [message] = appendLengthPrefixedMessage message := by simp

/-- A message both ends accept: not empty, within `MAX_NOISE_MESSAGE_SIZE`. -/
def Transmissible (message : ByteString) : Prop :=
  message ≠ [] ∧ message.length ≤ maxNoiseMessageSize

/-- A sealed frame is transmissible. -/
theorem transmissible_sealedMessage {type : MessageType} {payload : ByteString}
    (key : SymmetricKey) (index : ℕ) (fits : payload.length ≤ maxPayloadSize) :
    Transmissible (sealedMessage key index (frameBytes type payload)) := by
  have hlength := sealedMessage_length key index (frameBytes type payload)
  rw [frameBytes_length] at hlength
  refine ⟨?_, ?_⟩
  · intro hempty
    rw [hempty] at hlength
    simp only [List.length_nil, frameHeaderSize, frameLengthFieldSize] at hlength
    omega
  · rw [hlength]
    simp only [maxNoiseMessageSize, maxPayloadSize, maxFrameSize, frameHeaderSize,
      frameLengthFieldSize, frameTypeFieldSize] at *
    omega

omit [Sodium] in
theorem extract_transmissible {message rest : ByteString} (h : Transmissible message) :
    extractLengthPrefixedMessage (appendLengthPrefixedMessage message ++ rest)
      maxNoiseMessageSize = .message message rest :=
  extract_append h.1 h.2 (lt_of_le_of_lt h.2 (by decide))

/-! ## The two requests that are not answered once -/

/-- The message of the day that handling the message appends to the acceptance of
the session. -/
def announcedMotd (state : ProcessorState) (message : ByteString) : Option MotdPush :=
  match state.context.connection.channel.openMessage message with
  | (none, _) => none
  | (some frame, channel) =>
    match (admitFrame state.context.connection.session state.policy
        state.context.ambient.dispatchTimestamp frame).1 with
    | .admitted type reader =>
      (acceptedDatabase (state.context.withChannel channel).noteActivity type reader).bind
        findActiveMotd
    | _ => none

/-- A refusal of the guard can be sealed and queued. -/
def ClientConnection.CanRefuse (connection : ClientConnection) : Prop :=
  connection.socket.pendingOutput.length + refusalWireSize ≤ maxPendingOutput ∧
    ∀ transport ∈ connection.channel.transport,
      transport.sendState.nonceCounter ≠ NoiseCipherState.exhausted

instance (connection : ClientConnection) : Decidable connection.CanRefuse :=
  inferInstanceAs (Decidable (_ ∧ _))

/-- The message neither opens a session while a message of the day is active nor
meets a session guard that cannot get its refusal out. -/
def AnsweredOnce (state : ProcessorState) (message : ByteString) : Prop :=
  announcedMotd state message = none ∧
    (refusedByGuard state message = true → state.context.connection.CanRefuse)

instance (state : ProcessorState) (message : ByteString) : Decidable (AnsweredOnce state message) :=
  inferInstanceAs (Decidable (_ ∧ _))

/-! ## One message -/

/-- The bytes queued on the connection. -/
def ProcessorState.pendingOutput (state : ProcessorState) : ByteString :=
  state.context.connection.socket.pendingOutput

/-- `connection'` has one more message queued than `connection`. -/
def OneMore (connection connection' : ClientConnection) : Prop :=
  ∃ reply, Transmissible reply ∧ connection'.socket.pendingOutput =
    connection.socket.pendingOutput ++ appendLengthPrefixedMessage reply

/-- A send that succeeds queues one message. -/
theorem sendMessage_oneMore {context : HandlerContext} {type : MessageType} {payload : ByteString}
    (h : (sendMessage context type payload).1 = true) :
    OneMore context.connection (sendMessage context type payload).2.connection := by
  have houtcome := sendRawMessage_cases context.connection type payload
  rw [show (sendRawMessage context.connection type payload).1 = true from h] at houtcome
  change OneMore context.connection (sendRawMessage context.connection type payload).2
  generalize (sendRawMessage context.connection type payload).2 = connection at houtcome ⊢
  cases houtcome with
  | queued _ _ _ _ fits => exact ⟨_, transmissible_sealedMessage _ _ fits, rfl⟩

/-- A refusal that can be sent is sent. -/
theorem sendStatusError_oneMore {context : HandlerContext} {transport : NoiseTransport}
    (established : context.connection.channel.transport = some transport)
    (h : context.connection.CanRefuse) :
    OneMore context.connection (sendStatusError context .notAuthenticated).2.connection := by
  have hroom : context.connection.socket.pendingOutput.length + (frameLengthFieldSize +
      ((frameBytes .statusError refusalPayload).length + aeadTagSize)) ≤ maxPendingOutput := by
    have hfits := h.1
    rw [← wireSize_refusal, wireSize] at hfits
    rwa [frameBytes_length]
  exact sendMessage_oneMore
    (sendRawMessage_queued established (h.2 transport established) (by decide) hroom)

/-- A handshake that goes through queues its reply. -/
theorem advanceHandshake_oneMore {context : HandlerContext} {message : ByteString}
    (h : (advanceHandshake context message).1 = true) :
    OneMore context.connection (advanceHandshake context message).2.connection := by
  rcases haccept : context.connection.channel.acceptHandshakeMessage context.ambient.ephemeral
    message with ⟨_ | reply, channel⟩
  · rw [advanceHandshake, haccept] at h
    cases h
  obtain ⟨-, hreply⟩ := NoiseChannel.acceptHandshakeMessage_some haccept
  have hsend : Transmissible reply := by
    refine ⟨?_, ?_⟩
    · rintro rfl
      cases hreply
    · rw [hreply]
      decide
  rcases Nat.lt_or_ge maxPendingOutput (context.connection.socket.pendingOutput.length +
    (appendLengthPrefixedMessage reply).length) with hfull | hroom
  · simp only [advanceHandshake, haccept, ConnectionSocket.queueBytes_of_full hfull] at h
    cases h
  · simp only [advanceHandshake, haccept, ConnectionSocket.queueBytes_of_room hroom]
    exact ⟨reply, hsend, rfl⟩

/-- A request that leaves the connection open is answered with one message, the
two exceptions apart. -/
theorem Answer.oneMore {context : HandlerContext} {type : MessageType} {reader : ByteReader}
    {out : Bool × HandlerContext} {transport : NoiseTransport} (h : Answer context type reader out)
    (established : context.connection.channel.transport = some transport)
    (quiet : (acceptedDatabase context type reader).bind findActiveMotd = none)
    (refusable : type.behindGuard = true → context.connection.session.isRegistered = false →
      context.connection.CanRefuse)
    (hopen : out.1 = true) : OneMore context.connection out.2.connection := by
  cases h with
  | closed => cases hopen
  | refused guarded unregistered =>
    exact sendStatusError_oneMore established (refusable guarded unregistered)
  | @replied database session =>
    have hsent : OneMore (context.leave database session).connection _ := sendMessage_oneMore hopen
    exact hsent
  | announced does payload sent reached active =>
    rw [reached, Option.bind_some, active] at quiet
    cases quiet

/-- Every message that leaves the connection open queues exactly one message. -/
theorem processMessage_oneMore {state : ProcessorState} {message : ByteString}
    (h : AnsweredOnce state message) (hopen : (processMessage state message).1 = true) :
    OneMore state.context.connection (processMessage state message).2.context.connection := by
  have houtcome := processMessage_outcome state message
  generalize processMessage state message = out at houtcome hopen ⊢
  cases houtcome with
  | handshake => exact advanceHandshake_oneMore hopen
  | unopened => cases hopen
  | rejected => cases hopen
  | @limited channel =>
    have hsent : OneMore (state.context.withChannel channel).connection _ :=
      sendMessage_oneMore hopen
    exact hsent
  | @routed channel frame policy type reader opened admission =>
    obtain ⟨before, transport, hbefore, established, hsends⟩ :=
      NoiseChannel.openMessage_some opened
    obtain ⟨hquiet, hrefusable⟩ := h
    have hanswer := routeMessage_answer (state.context.withChannel channel).noteActivity type reader
    have hone : OneMore (state.context.withChannel channel).noteActivity.connection
        (routeMessage (state.context.withChannel channel).noteActivity type reader).2.connection := by
      refine hanswer.oneMore established ?_ ?_ hopen
      · simpa only [announcedMotd, opened, admission] using hquiet
      · intro guarded unregistered
        have hsession : state.context.connection.session.isRegistered = false := unregistered
        obtain ⟨hroom, hnonces⟩ :=
          hrefusable (by simp [refusedByGuard, opened, admission, guarded, hsession])
        refine ⟨hroom, ?_⟩
        intro transport' established'
        obtain rfl := Option.some.inj (established.symm.trans established')
        -- opening a message leaves the sending half of the transport alone
        rw [hsends]
        exact hnonces before hbefore
    exact hone

/-! ## The whole loop -/

/-- A message that was handled and the bytes queued meanwhile. -/
structure AnsweredRequest where
  request : ByteString
  queued : ByteString
deriving DecidableEq

/-- The reply to a request: the first message queued while it was handled. -/
def AnsweredRequest.reply (answered : AnsweredRequest) : Option ByteString :=
  match extractLengthPrefixedMessage answered.queued maxNoiseMessageSize with
  | .message reply _ => some reply
  | _ => none

/-- The log entry of one message. -/
def answerEntry (state : ProcessorState) (message : ByteString) : List AnsweredRequest :=
  [{ request := message
     queued := (processMessage state message).2.pendingOutput.drop state.pendingOutput.length }]

/-- A request answered with this one message. -/
def AnsweredRequest.once (request reply : ByteString) : AnsweredRequest :=
  { request, queued := appendLengthPrefixedMessage reply }

omit [Sodium] in
theorem AnsweredRequest.reply_once {request reply : ByteString} (h : Transmissible reply) :
    (AnsweredRequest.once request reply).reply = some reply := by
  have hextract : extractLengthPrefixedMessage (appendLengthPrefixedMessage reply ++ [])
      maxNoiseMessageSize = .message reply [] := extract_transmissible h
  rw [List.append_nil] at hextract
  rw [AnsweredRequest.reply, AnsweredRequest.once, hextract]

theorem answerEntry_once {state : ProcessorState} {message reply : ByteString}
    (h : (processMessage state message).2.pendingOutput =
      state.pendingOutput ++ appendLengthPrefixedMessage reply) :
    answerEntry state message = [.once message reply] := by
  rw [answerEntry, h, List.drop_left, AnsweredRequest.once]

/-- From a stream of requests of which a part has arrived, the loop takes some,
answers each of them with one message and leaves the rest. -/
theorem processBuffer_replies {world : ℕ → Ambient} {index : ℕ} {state : ProcessorState}
    {requests : List ByteString} {later : ByteString} (log : List AnsweredRequest)
    (hrequests : ∀ request ∈ requests, Transmissible request)
    (hstream : state.inputBuffer ++ later = messageStream requests)
    (hmeets : EachMessage AnsweredOnce world index state)
    (hopen : (processBuffer world index state).1 = true) :
    ∃ (handled : List (ByteString × ByteString)) (unhandled : List ByteString),
      requests = handled.map Prod.fst ++ unhandled ∧
      (processBuffer world index state).2.inputBuffer ++ later = messageStream unhandled ∧
      (processBuffer world index state).2.pendingOutput =
        state.pendingOutput ++ messageStream (handled.map Prod.snd) ∧
      (∀ answered ∈ handled, Transmissible answered.2) ∧
      processBufferLog answerEntry world index state log =
        log ++ handled.map fun answered => .once answered.1 answered.2 := by
  induction index, state using processBuffer_rec world generalizing requests log with
  | incomplete index state hextract =>
    rw [processBuffer_incomplete hextract, processBufferLog_incomplete hextract]
    exact ⟨[], requests, rfl, hstream, by simp, by simp, by simp⟩
  | malformed index state hextract =>
    rw [processBuffer_malformed hextract] at hopen
    cases hopen
  | message index state message rest hextract ih =>
    obtain ⟨hmessage, hmeets⟩ := hmeets.of_message hextract
    rw [processBuffer_message hextract] at hopen ⊢
    by_cases hout : (processMessage ((state.withInput rest).enter (world index)) message).1 = true
    · rw [if_pos hout] at hopen ⊢
      rw [processBufferLog_message hextract hout]
      -- what the loop detaches is the first request of the stream
      obtain ⟨requests', rfl, hrest⟩ := extract_stream (by decide) hrequests hstream hextract
      obtain ⟨reply, hreply, hqueued⟩ := processMessage_oneMore hmessage hout
      have hnext : (processMessage ((state.withInput rest).enter (world index)) message).2.inputBuffer
          ++ later = messageStream requests' := by
        rw [processMessage_inputBuffer]
        exact hrest
      obtain ⟨handled, unhandled, rfl, hleft, hpending, hreplies, hlog⟩ :=
        ih _ (fun request hmem => hrequests request (List.mem_cons_of_mem _ hmem)) hnext
          (hmeets hout) hopen
      refine ⟨(message, reply) :: handled, unhandled, rfl, hleft, ?_, ?_, ?_⟩
      · rw [hpending, ProcessorState.pendingOutput, hqueued, List.append_assoc, List.map_cons,
          messageStream_cons]
        rfl
      · rintro answered hmem
        rcases List.mem_cons.mp hmem with rfl | hmem
        · exact hreply
        · exact hreplies answered hmem
      · rw [hlog, answerEntry_once hqueued, List.append_assoc, List.map_cons, List.singleton_append]
    · rw [if_neg hout] at hopen
      cases hopen

end HyperCom
