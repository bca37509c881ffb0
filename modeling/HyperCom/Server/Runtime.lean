import HyperCom.Server.Processor

/-!
# The server runtime

`server_runtime`: any number of connections over one database and one set of
rate counters, and the ban command of the administration. Connections are
numbered in the order they are accepted, and a number is never used twice; the
descriptors of the source are.

Each connection carries the log of the frames received on it. The source keeps
no such log: it is what the properties of whole runs are stated about, and
nothing reads it.
-/

namespace HyperCom

variable [Sodium]

/-! ## What was received -/

/-- A decrypted frame, the nonce that was drawn if handling it drew one, and the
phase of the session before and after. -/
structure ReceivedFrame where
  frame : ByteString
  drawnNonce : WireNonce
  before : SessionPhase
  after : SessionPhase

/-- The payload of the frame, decoded as a message of the given type. -/
def ReceivedFrame.decodeAs {α : Type} (received : ReceivedFrame) (type : MessageType)
    (readFrom : Reader α) : Option α :=
  match decodeFrameHeader received.frame with
  | none => none
  | some header =>
    if header.type = type then
      (readFrom (ByteReader.start (received.frame.drop frameHeaderSize))).1
    else none

/-- The log entry of one message: none for a handshake message or for bytes that
do not decrypt. -/
def logEntry (state : ProcessorState) (message : ByteString) : List ReceivedFrame :=
  match (state.context.connection.channel.openMessage message).1 with
  | none => []
  | some frame => [{
      frame
      drawnNonce := state.context.ambient.randomNonce
      before := state.context.connection.session.phase
      after := (processMessage state message).2.context.connection.session.phase }]

theorem logEntry_opened {state : ProcessorState} {message frame : ByteString}
    {channel : NoiseChannel} {out : Bool × ProcessorState}
    (opened : state.context.connection.channel.openMessage message = (some frame, channel))
    (hout : processMessage state message = out) :
    logEntry state message = [{
      frame
      drawnNonce := state.context.ambient.randomNonce
      before := state.context.connection.session.phase
      after := out.2.context.connection.session.phase }] := by
  rw [logEntry, opened, hout]

theorem logEntry_fresh {state : ProcessorState} {message : ByteString}
    (fresh : state.context.connection.channel.transport = none) : logEntry state message = [] := by
  rw [logEntry, NoiseChannel.openMessage, fresh]

/-- The nonce of an entry is that of the ambient it was handled in. -/
theorem drawnNonce_of_logEntry {state : ProcessorState} {message : ByteString}
    {received : ReceivedFrame} (h : received ∈ logEntry state message) :
    received.drawnNonce = state.context.ambient.randomNonce := by
  unfold logEntry at h
  split at h
  · cases h
  · rw [List.mem_singleton.mp h]

/-! ## `rate_tracker`: the sweep -/

/-- `EXPIRY_SECONDS` -/
def expirySeconds : UInt64 := 120

/-- The window, unless it is so old that it is erased. -/
def RateWindow.unlessExpired (now : UInt64) (window : RateWindow) : RateWindow :=
  if now ≥ window.windowStart && now - window.windowStart ≥ expirySeconds then {} else window

/-- `forget_expired_windows` -/
def forgetExpiredWindows (tracker : RateTracker) (now : UInt64) : RateTracker :=
  { byAddress := fun address => (tracker.byAddress address).unlessExpired now
    byIdentity := fun userId => (tracker.byIdentity userId).unlessExpired now }

/-! ## `admin_ban_command` -/

/-- `run_ban_command`, past the parsing of its argument: what it prints, and the
database. -/
def banAccount (database : DatabaseHandle) (pubkey : WirePublicKey) (banned : Bool) :
    ByteString × DatabaseHandle :=
  match findUserByPubkey database pubkey with
  | none => (ascii "aucun compte pour cette cle\n", database)
  | some target =>
    match setBanned database target.id banned with
    | (false, database) => (ascii "echec : ecriture en base impossible\n", database)
    | (true, database) =>
      (ascii "@" ++ target.handle ++
        (if banned then ascii " banni\n" else ascii " reintegre\n"), database)

omit [Sodium] in
theorem banAccount_database (database : DatabaseHandle) (pubkey : WirePublicKey) (banned : Bool) :
    (banAccount database pubkey banned).2 =
      match findUserByPubkey database pubkey with
      | none => database
      | some target => (setBanned database target.id banned).2 := by
  rw [banAccount]
  split
  · rfl
  · split <;> next hbanned => rw [hbanned]

/-! ## `server_runtime` -/

/-- A connection and the frames received on it. -/
structure LoggedConnection where
  connection : ClientConnection
  log : List ReceivedFrame := []

/-- The state of `server_runtime` the connections share, and the connections. -/
structure ServerRuntime where
  config : ServerConfig := {}
  staticPublic : X25519PublicKey
  staticSecret : X25519SecretKey
  database : DatabaseHandle := {}
  policy : RatePolicy
  connections : ℕ → Option LoggedConnection := fun _ => none
  nextNumber : ℕ := 0

/-- What the event loop dispatches: a connection the registry admits, input on a
connection, output taken by its peer, a connection closed by its peer, by the
administration or by the sweep, the sweep of the rate windows, a ban or its
lifting. -/
inductive ServerEvent where
  | accept (peerAddress : ByteString) (connectedAt : UInt64)
  | input (number : ℕ) (received : ByteString) (stillOpen : Bool) (world : ℕ → Ambient)
  | flush (number count : ℕ)
  | close (number : ℕ)
  | sweep (now : UInt64)
  | ban (sqlFaults : SqlStatement → ℕ → Bool) (pubkey : WirePublicKey) (banned : Bool)

namespace ServerRuntime

/-- The connection with its number is replaced, or gone. -/
def withConnection (runtime : ServerRuntime) (number : ℕ) (connection : Option LoggedConnection) :
    ServerRuntime :=
  { runtime with connections := Function.update runtime.connections number connection }

/-- What `service_connection` hands to `process_connection_input`. -/
def receiving (runtime : ServerRuntime) (connection : ClientConnection) : ProcessorState :=
  { context := { config := runtime.config, database := runtime.database, connection }
    policy := runtime.policy }

/-- `service_connection` for readable input: the connection is closed when the
processing says so. -/
def serviceInput (runtime : ServerRuntime) (number : ℕ) (logged : LoggedConnection)
    (received : ByteString) (stillOpen : Bool) (world : ℕ → Ambient) : ServerRuntime :=
  let state := runtime.receiving logged.connection
  let out := processConnectionInput world received stillOpen state
  let log := processBufferLog logEntry world 0 (state.withInput (state.inputBuffer ++ received)) logged.log
  { runtime with database := out.2.context.database, policy := out.2.policy }.withConnection number
    (if out.1 then some { connection := out.2.context.connection, log } else none)

/-- `dispatch_event` -/
def step (runtime : ServerRuntime) : ServerEvent → ServerRuntime
  | .accept peerAddress connectedAt =>
    let connection := ClientConnection.accepted runtime.staticPublic runtime.staticSecret
      peerAddress connectedAt
    { runtime with nextNumber := runtime.nextNumber + 1 }.withConnection runtime.nextNumber
      (some { connection })
  | .input number received stillOpen world =>
    match runtime.connections number with
    | none => runtime
    | some logged => runtime.serviceInput number logged received stillOpen world
  | .flush number count =>
    match runtime.connections number with
    | none => runtime
    | some logged => runtime.withConnection number (some { logged with
        connection := { logged.connection with
          socket := { pendingOutput := logged.connection.socket.pendingOutput.drop count } } })
  | .close number => runtime.withConnection number none
  | .sweep now =>
    { runtime with policy := { runtime.policy with
      tracker := forgetExpiredWindows runtime.policy.tracker now } }
  | .ban sqlFaults pubkey banned =>
    { runtime with database :=
      (banAccount { runtime.database with faults := sqlFaults } pubkey banned).2 }

/-- The state after a run of events. -/
def run (runtime : ServerRuntime) (events : List ServerEvent) : ServerRuntime :=
  events.foldl step runtime

end ServerRuntime

end HyperCom
