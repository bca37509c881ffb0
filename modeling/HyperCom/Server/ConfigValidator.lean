import HyperCom.Protocol.Limits
import HyperCom.Protocol.ByteCodec

/-!
# The configuration and its check

The part of `server_config` that `validate_config` reads, and the check itself:
the server starts on a configuration without problems, warnings do not stop it.

Problems and warnings are collected, not stopped at, so that an operator sees all of them in
one go. Their texts are here, since the order of the checks is visible in the order of the
texts.
-/

namespace HyperCom

/-- `listener_config` -/
structure ListenerConfig where
  enabled : Bool := false
  bindAddress : ByteString := []
  port : UInt16 := 0

/-- `limits_config` -/
structure LimitsConfig where
  maxConnections : UInt32 := 512
  maxConnectionsPerAddress : UInt32 := 8
  maxFrameSize : UInt32 := 1024 * 1024
  handshakeTimeoutSeconds : UInt32 := 10
  /-- zero means that an authenticated session is never idle for too long -/
  idleTimeoutSeconds : UInt32 := 0
  requestsPerMinutePerAddress : UInt32 := 240
  requestsPerMinutePerIdentity : UInt32 := 600

/-- `logging_config` -/
structure LoggingConfig where
  logPeerAddresses : Bool := false
  retentionDays : UInt32 := 7

/-- `paths_config` -/
structure PathsConfig where
  databasePath : ByteString := ascii "hypercom.db"
  serverKeyPath : ByteString := ascii "keys/server_static.key"

/-- `server_config` -/
structure ServerSettings where
  clearnet : ListenerConfig := {}
  onion : ListenerConfig := {}
  limits : LimitsConfig := {}
  logging : LoggingConfig := {}
  paths : PathsConfig := {}

/-- `check_listener` -/
def checkListener (listener : ListenerConfig) (name : ByteString) : List ByteString :=
  if !listener.enabled then []
  else
    (if listener.bindAddress.isEmpty then
      [ascii "[" ++ name ++ ascii "] bind_address est requis quand enabled=true"] else []) ++
    (if listener.port = 0 then
      [ascii "[" ++ name ++ ascii "] port est requis quand enabled=true"] else [])

/-- `check_limits` -/
def checkLimits (limits : LimitsConfig) : List ByteString :=
  (if limits.maxConnections = 0 then
    [ascii "[limits] max_connections doit etre superieur a 0"] else []) ++
  (if limits.maxConnectionsPerAddress > limits.maxConnections then
    [ascii "[limits] max_connections_per_address depasse max_connections"] else []) ++
  (if limits.maxFrameSize.toNat > maxFrameSize then
    [ascii "[limits] max_frame_size depasse le plafond du protocole (1 MiB)"] else []) ++
  (if limits.maxFrameSize.toNat < frameHeaderSize + 1 then
    [ascii "[limits] max_frame_size est trop petit"] else []) ++
  (if limits.handshakeTimeoutSeconds = 0 then
    [ascii "[limits] handshake_timeout_seconds ne peut pas etre nul : une " ++
      ascii "socket qui ne finit jamais son handshake est une fuite de " ++
      ascii "descripteur"] else [])

/-- `LEGAL_RETENTION_MINIMUM_DAYS` -/
def legalRetentionMinimumDays : UInt32 := 365

/-- The problems of `validate_config`. -/
def configProblems (settings : ServerSettings) : List ByteString :=
  (if !settings.clearnet.enabled && !settings.onion.enabled then
    [ascii "aucun listener actif : activer [clearnet] ou [onion]"] else []) ++
  checkListener settings.clearnet (ascii "clearnet") ++
  checkListener settings.onion (ascii "onion") ++
  checkLimits settings.limits ++
  (if settings.paths.databasePath.isEmpty then [ascii "[paths] database est requis"] else []) ++
  (if settings.paths.serverKeyPath.isEmpty then [ascii "[paths] server_key est requis"] else [])

/-- The warnings of `validate_config`. -/
def configWarnings (settings : ServerSettings) : List ByteString :=
  if !settings.logging.logPeerAddresses then []
  else
    [ascii "[logging] log_peer_addresses=true : le serveur va journaliser des " ++
      ascii "adresses IP, contrairement au defaut du projet. Retirer ce " ++
      ascii "reglage pour revenir au comportement non surveille."] ++
    (if settings.logging.retentionDays < legalRetentionMinimumDays then
      [ascii "[logging] retention_days=" ++
        ascii (toString settings.logging.retentionDays.toNat) ++
        ascii " est sous le plancher legal francais d'un an pour les " ++
        ascii "donnees de connexion. Journaliser sans le conserver assez " ++
        ascii "longtemps n'apporte pas la conformite que log_peer_addresses " ++
        ascii "laisse croire."] else [])

/-- `validate_config`: the verdict, the problems and the warnings. -/
def validateConfig (settings : ServerSettings) : Bool × List ByteString × List ByteString :=
  let problems := configProblems settings
  (problems.isEmpty, problems, configWarnings settings)

/-- An accepted configuration admits a connection. -/
theorem validateConfig_maxConnections {settings : ServerSettings}
    (h : (validateConfig settings).1 = true) : settings.limits.maxConnections ≠ 0 := by
  intro hzero
  simp [validateConfig, configProblems, checkLimits, hzero] at h

end HyperCom
