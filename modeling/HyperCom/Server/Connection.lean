import HyperCom.Crypto.Noise
import HyperCom.Protocol.Frame
import HyperCom.Protocol.SessionMessages
import HyperCom.Server.Database

/-!
# A connection and its single output path

`connection_socket`, `noise_channel`, `session_state`, `client_connection` and
`response_builder`. Every reply goes through `sendRawMessage`: framing, Noise
sealing, length prefix, queuing. `sendRawMessage_cases` says everything that
call can do, and nothing downstream unfolds it.

A connection is a value: the bytes still to be sent, the cipher states, the session and the
times. What a handler does to it is a function, and whether the operating system has taken
the bytes is decided by the loop, elsewhere and later (`EventLoop`).
-/

namespace HyperCom

/-! ## `connection_socket` -/

/-- `MAX_PENDING_OUTPUT` -/
def maxPendingOutput : ℕ := 4 * 1024 * 1024

/-- The bytes accepted for sending that the peer has not taken yet. -/
structure ConnectionSocket where
  pendingOutput : ByteString := []

/-- `queue_bytes` -/
def ConnectionSocket.queueBytes (socket : ConnectionSocket) (data : ByteString) :
    Bool × ConnectionSocket :=
  if socket.pendingOutput.length + data.length > maxPendingOutput then (false, socket)
  else (true, { pendingOutput := socket.pendingOutput ++ data })

theorem ConnectionSocket.queueBytes_of_full {socket : ConnectionSocket} {data : ByteString}
    (h : maxPendingOutput < socket.pendingOutput.length + data.length) :
    socket.queueBytes data = (false, socket) :=
  if_pos h

theorem ConnectionSocket.queueBytes_of_room {socket : ConnectionSocket} {data : ByteString}
    (h : socket.pendingOutput.length + data.length ≤ maxPendingOutput) :
    socket.queueBytes data = (true, { pendingOutput := socket.pendingOutput ++ data }) :=
  if_neg (Nat.not_lt.mpr h)

/-! ## `noise_channel` -/

variable [Sodium]

/-- The handshake, and the transport once it is over. -/
structure NoiseChannel where
  handshake : NoiseHandshakeResponder
  transport : Option NoiseTransport := none

namespace NoiseChannel

/-- The constructor, for a server key pair. -/
def create (staticPublic : X25519PublicKey) (staticSecret : X25519SecretKey) : NoiseChannel :=
  { handshake := NoiseHandshakeResponder.create staticPublic staticSecret }

/-- `accept_handshake_message`: the reply, if the handshake is valid. -/
def acceptHandshakeMessage (ephemeral : EphemeralKeypair) (input : ByteString)
    (channel : NoiseChannel) : Option ByteString × NoiseChannel :=
  if channel.transport.isSome then (none, channel)
  else
    match NoiseHandshakeResponder.readFirstMessage input channel.handshake with
    | (none, handshake) => (none, { channel with handshake })
    | (some _, handshake) =>
      match NoiseHandshakeResponder.writeSecondMessage ephemeral [] handshake with
      | (none, handshake) => (none, { channel with handshake })
      | (some reply, handshake) =>
        match handshake.exportTransportKeys with
        | none => (none, { channel with handshake })
        | some (sendKey, receiveKey) =>
          (some reply, { handshake, transport := some (NoiseTransport.create sendKey receiveKey) })

/-- `is_established` -/
def isEstablished (channel : NoiseChannel) : Bool := channel.transport.isSome

/-- `open_message` -/
def openMessage (channel : NoiseChannel) (ciphertext : ByteString) :
    Option ByteString × NoiseChannel :=
  match channel.transport with
  | none => (none, channel)
  | some transport =>
    let out := NoiseTransport.decryptMessage ciphertext transport
    (out.1, { channel with transport := some out.2 })

/-- `seal_message` -/
def sealMessage (channel : NoiseChannel) (plaintext : ByteString) :
    Option ByteString × NoiseChannel :=
  match channel.transport with
  | none => (none, channel)
  | some transport =>
    let out := NoiseTransport.encryptMessage plaintext transport
    (out.1, { channel with transport := some out.2 })

end NoiseChannel

/-- A completed handshake: the transport is new, the reply has the size of a
handshake message. -/
theorem NoiseChannel.acceptHandshakeMessage_some {ephemeral : EphemeralKeypair} {input reply : ByteString}
    {channel channel' : NoiseChannel}
    (h : channel.acceptHandshakeMessage ephemeral input = (some reply, channel')) :
    (∃ sendKey receiveKey,
      channel'.transport = some (NoiseTransport.create sendKey receiveKey)) ∧
    reply.length = noiseHandshakeMessageSize := by
  unfold NoiseChannel.acceptHandshakeMessage at h
  split at h
  · cases h
  split at h
  · cases h
  split at h
  · cases h
  next hwrite =>
  split at h
  · cases h
  · next sendKey receiveKey _ =>
    obtain ⟨hreply, rfl⟩ := Prod.mk.inj h
    obtain rfl := Option.some.inj hreply
    exact ⟨⟨sendKey, receiveKey, rfl⟩, NoiseHandshakeResponder.writeSecondMessage_length hwrite⟩

/-- Only an established channel opens anything, and it stays established, its
sending half untouched. -/
theorem NoiseChannel.openMessage_some {message frame : ByteString} {channel channel' : NoiseChannel}
    (h : channel.openMessage message = (some frame, channel')) :
    ∃ transport transport', channel.transport = some transport ∧
      channel'.transport = some transport' ∧ transport'.sendState = transport.sendState := by
  unfold NoiseChannel.openMessage at h
  split at h
  · cases h
  · next transport established =>
    obtain ⟨-, rfl⟩ := Prod.mk.inj h
    exact ⟨transport, _, established, rfl, rfl⟩

/-! ## `session_state` and `client_connection` -/

/-- `session_phase` -/
inductive SessionPhase where
  | awaitingHandshake
  | awaitingHello
  | awaitingAuth
  | authenticated
deriving DecidableEq

/-- Application state of a connection. -/
structure SessionState where
  phase : SessionPhase := .awaitingHandshake
  announcedPubkey : WirePublicKey := FixedBytes.zero _
  challengeNonce : WireNonce := FixedBytes.zero _
  userId : ℤ := 0
  handle : ByteString := []
  peerAddress : ByteString := []
  connectedAt : UInt64 := 0
  lastActivityAt : UInt64 := 0

/-- The check of `require_registered_session`. -/
def SessionState.isRegistered (session : SessionState) : Bool :=
  session.phase = .authenticated && session.userId ≠ 0

/-- A connection: its plumbing, its encrypted channel, its application state. -/
structure ClientConnection where
  socket : ConnectionSocket := {}
  channel : NoiseChannel
  session : SessionState := {}
  inputBuffer : ByteString := []

/-- A freshly accepted connection. -/
def ClientConnection.accepted (staticPublic : X25519PublicKey) (staticSecret : X25519SecretKey)
    (peerAddress : ByteString) (connectedAt : UInt64) : ClientConnection :=
  { channel := NoiseChannel.create staticPublic staticSecret
    session := { peerAddress, connectedAt, lastActivityAt := connectedAt } }

/-! ## `handler_context` and `response_builder` -/

/-- The part of `server_config` the handlers read. -/
structure ServerConfig where
  registrationOpen : Bool := true

/-- What the outside world answers while one message is handled: the two clock
readings, the bytes `fill_random_bytes` would draw, the key pair
`crypto_box_keypair` would generate, and the SQLite calls that would fail. -/
structure Ambient where
  dispatchTimestamp : UInt64 := 0
  unixTimestamp : UInt64 := 0
  randomNonce : WireNonce := FixedBytes.zero _
  ephemeral : EphemeralKeypair := none
  sqlFaults : SqlStatement → ℕ → Bool := fun _ _ => false

/-- Everything a handler needs, passed explicitly. The logger is left out. -/
structure HandlerContext where
  config : ServerConfig := {}
  ambient : Ambient := {}
  database : DatabaseHandle
  connection : ClientConnection

/-- `send_raw_message` -/
def sendRawMessage (connection : ClientConnection) (type : MessageType) (payload : ByteString) :
    Bool × ClientConnection :=
  match encodeFrame type payload with
  | none => (false, connection)
  | some frame =>
    match connection.channel.sealMessage frame with
    | (none, channel) => (false, { connection with channel })
    | (some sealed, channel) =>
      let queued := connection.socket.queueBytes (appendLengthPrefixedMessage sealed)
      (queued.1, { connection with channel, socket := queued.2 })

/-- `send_message`: the payload is the message's `write_to`. -/
def sendMessage (context : HandlerContext) (type : MessageType) (payload : ByteString) :
    Bool × HandlerContext :=
  let sent := sendRawMessage context.connection type payload
  (sent.1, { context with connection := sent.2 })

/-- `send_status_ok` -/
def sendStatusOk (context : HandlerContext) (referenceId : UInt64) : Bool × HandlerContext :=
  sendMessage context .statusOk (StatusOkResponse.writeTo { referenceId })

/-- `send_status_error`: the detail is the generic label of the code. -/
def sendStatusError (context : HandlerContext) (code : ErrorCode) : Bool × HandlerContext :=
  sendMessage context .statusError
    (StatusErrorResponse.writeTo { code, detail := describeErrorCode code })

/-- The bytes on the wire for a frame sealed as the `index`-th message. -/
def wireMessage (key : SymmetricKey) (index : ℕ) (frame : ByteString) : ByteString :=
  appendLengthPrefixedMessage (sealedMessage key index frame)

/-- What one send does to a connection: nothing; or the next nonce is consumed
and the sealed frame is queued; or the nonce is consumed and the bytes are
refused by the full queue. -/
inductive SendOutcome (connection : ClientConnection) (type : MessageType)
    (payload : ByteString) : Bool → ClientConnection → Prop where
  | unsent : SendOutcome connection type payload false connection
  | queued {transport transport' : NoiseTransport}
      (established : connection.channel.transport = some transport)
      (counter : transport'.sendCounter = transport.sendCounter + 1)
      (key : transport'.sendKey = transport.sendKey)
      (receive : transport'.receiveState = transport.receiveState)
      (fits : payload.length ≤ maxPayloadSize)
      (room : connection.socket.pendingOutput.length + (frameLengthFieldSize +
        ((frameBytes type payload).length + aeadTagSize)) ≤ maxPendingOutput) :
      SendOutcome connection type payload true { connection with
        channel := { connection.channel with transport := some transport' }
        socket := { pendingOutput := connection.socket.pendingOutput ++
          wireMessage transport.sendKey transport.sendCounter (frameBytes type payload) } }
  | dropped {transport transport' : NoiseTransport}
      (established : connection.channel.transport = some transport)
      (counter : transport'.sendCounter = transport.sendCounter + 1)
      (key : transport'.sendKey = transport.sendKey)
      (receive : transport'.receiveState = transport.receiveState)
      (fits : payload.length ≤ maxPayloadSize)
      (full : maxPendingOutput < connection.socket.pendingOutput.length + (frameLengthFieldSize +
        ((frameBytes type payload).length + aeadTagSize))) :
      SendOutcome connection type payload false { connection with
        channel := { connection.channel with transport := some transport' } }

theorem wireMessage_length (key : SymmetricKey) (index : ℕ) (frame : ByteString) :
    (wireMessage key index frame).length = frameLengthFieldSize + (frame.length + aeadTagSize) := by
  simp [wireMessage]

/-- Everything `send_raw_message` can do. -/
theorem sendRawMessage_cases (connection : ClientConnection) (type : MessageType)
    (payload : ByteString) :
    SendOutcome connection type payload (sendRawMessage connection type payload).1
      (sendRawMessage connection type payload).2 := by
  rcases hframe : encodeFrame type payload with _ | frame
  · simp only [sendRawMessage, hframe]
    exact .unsent
  obtain ⟨hfits, rfl⟩ := encodeFrame_eq_some.mp hframe
  rcases htransport : connection.channel.transport with _ | transport
  · have hseal : connection.channel.sealMessage (frameBytes type payload) =
        (none, connection.channel) := by rw [NoiseChannel.sealMessage, htransport]
    simp only [sendRawMessage, hframe, hseal]
    exact .unsent
  rcases hencrypt : NoiseTransport.encryptMessage (frameBytes type payload) transport with
    ⟨sealed?, transport'⟩
  have hseal : connection.channel.sealMessage (frameBytes type payload) =
      (sealed?, { connection.channel with transport := some transport' }) := by
    rw [NoiseChannel.sealMessage, htransport]
    simp only [hencrypt]
  rcases NoiseTransport.encryptMessage_cases hencrypt with
    ⟨rfl, rfl⟩ | ⟨rfl, hcounter, hkey, hreceive⟩
  · -- the nonces are used up: nothing is consumed
    simp only [sendRawMessage, hframe, hseal, ← htransport]
    exact .unsent
  · have hlength : (appendLengthPrefixedMessage _).length = _ :=
      wireMessage_length transport.sendKey transport.sendCounter (frameBytes type payload)
    simp only [sendRawMessage, hframe, hseal]
    rcases Nat.lt_or_ge maxPendingOutput (connection.socket.pendingOutput.length +
      (frameLengthFieldSize + ((frameBytes type payload).length + aeadTagSize))) with hfull | hroom
    · rw [ConnectionSocket.queueBytes_of_full (by rw [hlength]; exact hfull)]
      exact .dropped htransport hcounter hkey hreceive hfits hfull
    · rw [ConnectionSocket.queueBytes_of_room (by rw [hlength]; exact hroom)]
      exact .queued htransport hcounter hkey hreceive hfits hroom

/-- A send leaves the session and the unread input alone. -/
theorem SendOutcome.session_eq {connection connection' : ClientConnection} {type : MessageType}
    {payload : ByteString} {sent : Bool} (h : SendOutcome connection type payload sent connection') :
    connection'.session = connection.session ∧ connection'.inputBuffer = connection.inputBuffer := by
  cases h <;> exact ⟨rfl, rfl⟩

/-- An established channel stays established. -/
theorem SendOutcome.established {connection connection' : ClientConnection} {type : MessageType}
    {payload : ByteString} {sent : Bool} (h : SendOutcome connection type payload sent connection')
    (hbefore : connection.channel.transport ≠ none) : connection'.channel.transport ≠ none := by
  cases h with
  | unsent => exact hbefore
  | queued => exact Option.some_ne_none _
  | dropped => exact Option.some_ne_none _

/-- A send on an established channel with nonces left, of a payload that fits
the frame, seals it and offers it to the queue. -/
theorem sendRawMessage_sealed {connection : ClientConnection} {transport : NoiseTransport}
    {payload : ByteString} (type : MessageType)
    (established : connection.channel.transport = some transport)
    (nonces : transport.sendState.nonceCounter ≠ NoiseCipherState.exhausted)
    (fits : payload.length ≤ maxPayloadSize) :
    ∃ transport' : NoiseTransport,
      transport'.sendCounter = transport.sendCounter + 1 ∧
      transport'.sendKey = transport.sendKey ∧
      transport'.receiveState = transport.receiveState ∧
      sendRawMessage connection type payload =
        ((connection.socket.queueBytes (wireMessage transport.sendKey transport.sendCounter
            (frameBytes type payload))).1,
          { connection with
            channel := { connection.channel with transport := some transport' }
            socket := (connection.socket.queueBytes (wireMessage transport.sendKey
              transport.sendCounter (frameBytes type payload))).2 }) := by
  have hframe : encodeFrame type payload = some (frameBytes type payload) :=
    encodeFrame_eq_some.mpr ⟨fits, rfl⟩
  have hencrypt := NoiseTransport.encryptMessage_some (frameBytes type payload) nonces
  rcases hout : NoiseTransport.encryptMessage (frameBytes type payload) transport with
    ⟨sealed?, transport'⟩
  rw [hout] at hencrypt
  rcases NoiseTransport.encryptMessage_cases hout with ⟨rfl, -⟩ | ⟨rfl, counter, key, receive⟩
  · cases hencrypt
  refine ⟨transport', counter, key, receive, ?_⟩
  have hseal : connection.channel.sealMessage (frameBytes type payload) =
      (some (sealedMessage transport.sendKey transport.sendCounter (frameBytes type payload)),
        { connection.channel with transport := some transport' }) := by
    rw [NoiseChannel.sealMessage, established]
    simp only [hout]
  simp only [sendRawMessage, hframe, hseal]
  rfl

/-- With room for it, it is queued. -/
theorem sendRawMessage_queued {connection : ClientConnection} {transport : NoiseTransport}
    {type : MessageType} {payload : ByteString}
    (established : connection.channel.transport = some transport)
    (nonces : transport.sendState.nonceCounter ≠ NoiseCipherState.exhausted)
    (fits : payload.length ≤ maxPayloadSize)
    (room : connection.socket.pendingOutput.length + (frameLengthFieldSize +
      ((frameBytes type payload).length + aeadTagSize)) ≤ maxPendingOutput) :
    (sendRawMessage connection type payload).1 = true := by
  obtain ⟨transport', -, -, -, hsend⟩ := sendRawMessage_sealed type established nonces fits
  rw [hsend, ConnectionSocket.queueBytes_of_room (by rw [wireMessage_length]; exact room)]

/-- The session and the database are what a send leaves untouched of a context. -/
theorem sendMessage_frame (context : HandlerContext) (type : MessageType) (payload : ByteString) :
    (sendMessage context type payload).2.database = context.database ∧
      (sendMessage context type payload).2.connection.session = context.connection.session :=
  ⟨rfl, (sendRawMessage_cases ..).session_eq.1⟩

end HyperCom
