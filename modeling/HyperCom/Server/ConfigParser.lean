import HyperCom.Client.Registry
import HyperCom.Lib.LastWrite
import HyperCom.Lib.TextLines
import HyperCom.Protocol.DecimalText
import HyperCom.Server.ConfigValidator

/-!
# The configuration file

`parse_config_text`: lines one after the other, each in the section that the last
header opened, every error kept. A setting is a `Key` with a value of its type,
so that `Key.read` and `Key.write` say once what a setting can touch.

`parse_unsigned` writes the number in front of a text that goes on behind it and
then refuses the setting, so a refused line can still change the configuration. It
is the report that is exact: what is said of a line depends on the line and the
headers above it only. Of an accepted text the last setting of each key wins. Both
are in `config_text_meaning`.
-/

namespace HyperCom

/-- `log_level` -/
inductive LogLevel where
  | debug | info | warning | error | silent
deriving DecidableEq

/-- `parse_log_level` -/
def parseLogLevel (name : ByteString) : Option LogLevel :=
  if name = ascii "debug" then some .debug
  else if name = ascii "info" then some .info
  else if name = ascii "warning" then some .warning
  else if name = ascii "error" then some .error
  else if name = ascii "silent" then some .silent
  else none

/-- `describe_log_level` -/
def describeLogLevel : LogLevel → ByteString
  | .debug => ascii "debug"
  | .info => ascii "info"
  | .warning => ascii "warning"
  | .error => ascii "error"
  | .silent => ascii "silent"

namespace ConfigParser

/-- `listener_config`, with the address to advertise. -/
structure ListenerSettings extends ListenerConfig where
  advertisedHost : ByteString := []

/-- `logging_config`, with its level and its file. -/
structure LoggingSettings extends LoggingConfig where
  level : LogLevel := .info
  filePath : ByteString := []

/-- `paths_config`, all of its paths. -/
structure PathSettings extends PathsConfig where
  migrationsDirectory : ByteString := ascii "db/migrations"
  adminSocketPath : ByteString := ascii "run/hypercom-admin.sock"
  connectFilePath : ByteString := ascii "run/hypercom-connect.txt"

/-- `server_config`, all of its fields. -/
structure Configuration where
  clearnet : ListenerSettings := {}
  onion : ListenerSettings := {}
  limits : LimitsConfig := {}
  logging : LoggingSettings := {}
  paths : PathSettings := {}
  registrationOpen : Bool := true

/-- What `main` starts from. -/
def Configuration.defaults : Configuration := {}

/-- The part that `validate_config` reads. -/
def Configuration.checked (config : Configuration) : ServerSettings where
  clearnet := config.clearnet.toListenerConfig
  onion := config.onion.toListenerConfig
  limits := config.limits
  logging := config.logging.toLoggingConfig
  paths := config.paths.toPathsConfig

/-! ## Values -/

/-- `trim_spaces`: a carriage return is a blank at the end only. -/
def trimSpaces (text : ByteString) : ByteString :=
  TextLines.trim (fun character => character == 0x20 || character == 0x09)
    (fun character => character == 0x20 || character == 0x09 || character == 0x0D) text

/-- `parse_unsigned`: whether the whole text is a number of 32 bits, and what is in
the target afterwards. -/
def parseUnsigned (text : ByteString) (target : UInt32) : Bool × UInt32 :=
  let digits := text.takeWhile isDecimalDigit
  let value := decimalValue digits
  if digits.isEmpty ∨ value ≥ 2 ^ 32 then (false, target)
  else (digits.length == text.length, UInt32.ofNat value)

/-- `parse_boolean` -/
def parseBoolean (text : ByteString) : Option Bool :=
  if text = ascii "true" ∨ text = ascii "yes" ∨ text = ascii "1" then some true
  else if text = ascii "false" ∨ text = ascii "no" ∨ text = ascii "0" then some false
  else none

/-- A parser that leaves its target alone when it fails. -/
def intoTarget {Value : Type} (result : Option Value) (target : Value) : Bool × Value :=
  (result.isSome, result.getD target)

/-- The port of a listener: parsed beside the configuration, and never zero. -/
def parseListenerPort (text : ByteString) (target : UInt16) : Bool × UInt16 :=
  let (whole, port) := parseUnsigned text 0
  if !whole || port == 0 || port > 65535 then (false, target) else (true, port.toUInt16)

/-! ## Settings -/

/-- The settings of a listener. -/
inductive ListenerKey where
  | enabled | bindAddress | advertisedHost | port
deriving DecidableEq

/-- The settings of `[limits]`. -/
inductive LimitKey where
  | maxConnections | maxConnectionsPerAddress | maxFrameSize | handshakeTimeoutSeconds
  | idleTimeoutSeconds | requestsPerMinutePerAddress | requestsPerMinutePerIdentity
deriving DecidableEq

/-- The settings of `[logging]`. -/
inductive LoggingKey where
  | level | logPeerAddresses | retentionDays | filePath
deriving DecidableEq

/-- The settings of `[paths]`. -/
inductive PathKey where
  | database | migrations | serverKey | adminSocket | connectFile
deriving DecidableEq

/-- A setting: its section and its name. -/
inductive Key where
  | clearnet (key : ListenerKey)
  | onion (key : ListenerKey)
  | limits (key : LimitKey)
  | logging (key : LoggingKey)
  | paths (key : PathKey)
  | registrationOpen
deriving DecidableEq

/-- The type of a listener's setting. -/
abbrev ListenerKey.Value : ListenerKey → Type
  | enabled => Bool
  | bindAddress | advertisedHost => ByteString
  | port => UInt16

/-- The type of the value that belongs to a key. -/
abbrev LoggingKey.Value : LoggingKey → Type
  | level => LogLevel
  | logPeerAddresses => Bool
  | retentionDays => UInt32
  | filePath => ByteString

/-- Likewise, for the keys of all sections. -/
abbrev Key.Value : Key → Type
  | clearnet key | onion key => key.Value
  | limits _ => UInt32
  | logging key => key.Value
  | paths _ => ByteString
  | registrationOpen => Bool

/-! The fields of the configuration, by their keys. -/

/-- Where each key is kept. There is one pair for each section. -/
def ListenerKey.read (listener : ListenerSettings) : (key : ListenerKey) → key.Value
  | enabled => listener.enabled
  | bindAddress => listener.bindAddress
  | advertisedHost => listener.advertisedHost
  | port => listener.port

def ListenerKey.write (listener : ListenerSettings) :
    (key : ListenerKey) → key.Value → ListenerSettings
  | enabled, value => { listener with enabled := value }
  | bindAddress, value => { listener with bindAddress := value }
  | advertisedHost, value => { listener with advertisedHost := value }
  | port, value => { listener with port := value }

/-- All limits are numbers. -/
def LimitKey.read (limits : LimitsConfig) : LimitKey → UInt32
  | maxConnections => limits.maxConnections
  | maxConnectionsPerAddress => limits.maxConnectionsPerAddress
  | maxFrameSize => limits.maxFrameSize
  | handshakeTimeoutSeconds => limits.handshakeTimeoutSeconds
  | idleTimeoutSeconds => limits.idleTimeoutSeconds
  | requestsPerMinutePerAddress => limits.requestsPerMinutePerAddress
  | requestsPerMinutePerIdentity => limits.requestsPerMinutePerIdentity

def LimitKey.write (limits : LimitsConfig) (value : UInt32) : LimitKey → LimitsConfig
  | maxConnections => { limits with maxConnections := value }
  | maxConnectionsPerAddress => { limits with maxConnectionsPerAddress := value }
  | maxFrameSize => { limits with maxFrameSize := value }
  | handshakeTimeoutSeconds => { limits with handshakeTimeoutSeconds := value }
  | idleTimeoutSeconds => { limits with idleTimeoutSeconds := value }
  | requestsPerMinutePerAddress => { limits with requestsPerMinutePerAddress := value }
  | requestsPerMinutePerIdentity => { limits with requestsPerMinutePerIdentity := value }

/-- Levels, switches, a path and a number of days. -/
def LoggingKey.read (logging : LoggingSettings) : (key : LoggingKey) → key.Value
  | level => logging.level
  | logPeerAddresses => logging.logPeerAddresses
  | retentionDays => logging.retentionDays
  | filePath => logging.filePath

def LoggingKey.write (logging : LoggingSettings) :
    (key : LoggingKey) → key.Value → LoggingSettings
  | level, value => { logging with level := value }
  | logPeerAddresses, value => { logging with logPeerAddresses := value }
  | retentionDays, value => { logging with retentionDays := value }
  | filePath, value => { logging with filePath := value }

/-- All paths are texts. -/
def PathKey.read (paths : PathSettings) : PathKey → ByteString
  | database => paths.databasePath
  | migrations => paths.migrationsDirectory
  | serverKey => paths.serverKeyPath
  | adminSocket => paths.adminSocketPath
  | connectFile => paths.connectFilePath

def PathKey.write (paths : PathSettings) (value : ByteString) : PathKey → PathSettings
  | database => { paths with databasePath := value }
  | migrations => { paths with migrationsDirectory := value }
  | serverKey => { paths with serverKeyPath := value }
  | adminSocket => { paths with adminSocketPath := value }
  | connectFile => { paths with connectFilePath := value }

/-- And for the configuration as a whole, -/
def Key.read (config : Configuration) : (key : Key) → key.Value
  | clearnet key => key.read config.clearnet
  | onion key => key.read config.onion
  | limits key => key.read config.limits
  | logging key => key.read config.logging
  | paths key => key.read config.paths
  | registrationOpen => config.registrationOpen

/-- which has all sections in it. -/
def Key.write (config : Configuration) : (key : Key) → key.Value → Configuration
  | clearnet key, value => { config with clearnet := key.write config.clearnet value }
  | onion key, value => { config with onion := key.write config.onion value }
  | limits key, value => { config with limits := key.write config.limits value }
  | logging key, value => { config with logging := key.write config.logging value }
  | paths key, value => { config with paths := key.write config.paths value }
  | registrationOpen, value => { config with registrationOpen := value }

/-! Their names in the file. -/

/-- The names of the source, each to its key. -/
def ListenerKey.named (key : ByteString) : Option ListenerKey :=
  if key = ascii "enabled" then some enabled
  else if key = ascii "bind_address" then some bindAddress
  else if key = ascii "advertised_host" then some advertisedHost
  else if key = ascii "port" then some port
  else none

def LimitKey.named (key : ByteString) : Option LimitKey :=
  if key = ascii "max_connections" then some maxConnections
  else if key = ascii "max_connections_per_address" then some maxConnectionsPerAddress
  else if key = ascii "max_frame_size" then some maxFrameSize
  else if key = ascii "handshake_timeout_seconds" then some handshakeTimeoutSeconds
  else if key = ascii "idle_timeout_seconds" then some idleTimeoutSeconds
  else if key = ascii "requests_per_minute_per_address" then some requestsPerMinutePerAddress
  else if key = ascii "requests_per_minute_per_identity" then some requestsPerMinutePerIdentity
  else none

def LoggingKey.named (key : ByteString) : Option LoggingKey :=
  if key = ascii "level" then some level
  else if key = ascii "log_peer_addresses" then some logPeerAddresses
  else if key = ascii "retention_days" then some retentionDays
  else if key = ascii "file_path" then some filePath
  else none

def PathKey.named (key : ByteString) : Option PathKey :=
  if key = ascii "database" then some database
  else if key = ascii "migrations" then some migrations
  else if key = ascii "server_key" then some serverKey
  else if key = ascii "admin_socket" then some adminSocket
  else if key = ascii "connect_file" then some connectFile
  else none

/-- The comparisons of `apply_setting`. -/
def Key.named (sectionName key : ByteString) : Option Key :=
  if sectionName = ascii "clearnet" then (ListenerKey.named key).map clearnet
  else if sectionName = ascii "onion" then (ListenerKey.named key).map onion
  else if sectionName = ascii "limits" then (LimitKey.named key).map limits
  else if sectionName = ascii "logging" then (LoggingKey.named key).map logging
  else if sectionName = ascii "paths" then (PathKey.named key).map paths
  else if sectionName = ascii "server" ∧ key = ascii "registration_open" then
    some registrationOpen
  else none

/-! What `apply_setting` does with the value. -/

/-- How a value is parsed into the setting that it replaces. A number can be written and
refused. -/
def ListenerKey.parseInto (text : ByteString) : (key : ListenerKey) → key.Value → Bool × key.Value
  | enabled, target => intoTarget (parseBoolean text) target
  | bindAddress, _ => (true, text)
  | advertisedHost, _ => (true, text)
  | port, target => parseListenerPort text target

def LoggingKey.parseInto (text : ByteString) : (key : LoggingKey) → key.Value → Bool × key.Value
  | level, target => intoTarget (parseLogLevel text) target
  | logPeerAddresses, target => intoTarget (parseBoolean text) target
  | retentionDays, target => parseUnsigned text target
  | filePath, _ => (true, text)

def Key.parseInto (text : ByteString) : (key : Key) → key.Value → Bool × key.Value
  | clearnet key, target => key.parseInto text target
  | onion key, target => key.parseInto text target
  | limits _, target => parseUnsigned text target
  | logging key, target => key.parseInto text target
  | paths _, _ => (true, text)
  | registrationOpen, target => intoTarget (parseBoolean text) target

/-- `apply_setting` -/
def applySetting (sectionName key value : ByteString) (config : Configuration) :
    Bool × Configuration :=
  match Key.named sectionName key with
  | none => (false, config)
  | some key =>
    let (accepted, parsed) := key.parseInto value (key.read config)
    (accepted, key.write config parsed)

/-! ## Lines -/

/-- `config_error` -/
structure ConfigError where
  lineNumber : ℕ := 0
  message : ByteString
deriving DecidableEq

/-- What the loop of `parse_config_text` carries along. -/
structure ParserState where
  sectionName : ByteString := []
  config : Configuration
  errors : List ConfigError

/-- `handle_config_line` -/
def handleConfigLine (line : ByteString) (lineNumber : ℕ) (state : ParserState) : ParserState :=
  let trimmed := trimSpaces line
  if trimmed.isEmpty || trimmed.head? == some 0x23 then state
  else if trimmed.head? == some 0x5B then
    if trimmed.getLast? != some 0x5D then
      { state with errors := state.errors ++ [⟨lineNumber, ascii "section non fermee"⟩] }
    else { state with sectionName := (trimmed.drop 1).take (trimmed.length - 2) }
  else
    match splitAtFirst 0x3D trimmed with
    | none =>
      { state with
        errors := state.errors ++ [⟨lineNumber, ascii "ligne sans '=' et hors section"⟩] }
    | some (keyText, valueText) =>
      let key := trimSpaces keyText
      let value := trimSpaces valueText
      if state.sectionName.isEmpty then
        { state with
          errors := state.errors ++ [⟨lineNumber, ascii "reglage hors de toute section"⟩] }
      else
        let (accepted, config) := applySetting state.sectionName key value state.config
        if accepted then { state with config }
        else
          { state with
            config
            errors := state.errors ++ [⟨lineNumber,
              ascii "cle inconnue ou valeur invalide : [" ++ state.sectionName ++ ascii "] " ++
                key⟩] }

/-- The loop, from this line number. -/
def handleConfigLines : ℕ → List ByteString → ParserState → ParserState
  | _, [], state => state
  | lineNumber, line :: lines, state =>
    handleConfigLines (lineNumber + 1) lines (handleConfigLine line lineNumber state)

/-- `parse_config_text`: the verdict, the configuration and the errors. -/
def parseConfigText (text : ByteString) (config : Configuration)
    (errors : List ConfigError := []) : Bool × Configuration × List ConfigError :=
  let state := handleConfigLines 1 (text.splitOn 0x0A) { config, errors }
  (state.errors.isEmpty, state.config, state.errors)

/-- `parse_config_file` -/
def parseConfigFile (files : Files) (path : ByteString) (config : Configuration)
    (errors : List ConfigError := []) : Bool × Configuration × List ConfigError :=
  match files path with
  | none => (false, config, errors ++ [⟨0, ascii "fichier illisible : " ++ path⟩])
  | some text => parseConfigText text config errors

/-- `format_config_errors` -/
def formatConfigErrors (path : ByteString) (errors : List ConfigError) : ByteString :=
  ascii "configuration invalide : " ++ path ++ ascii "\n" ++
    errors.flatMap fun error =>
      ascii "  ligne " ++ ascii (toString error.lineNumber) ++ ascii " : " ++ error.message ++
        ascii "\n"

/-- `load_validated_config`: the configuration the server starts on, if there is one,
and what is printed. -/
def loadValidatedConfig (files : Files) (path : ByteString) : Option Configuration × ByteString :=
  match parseConfigFile files path .defaults with
  | (false, _, errors) => (none, formatConfigErrors path errors)
  | (true, config, _) =>
    let (accepted, problems, warnings) := validateConfig config.checked
    let warned := warnings.flatMap fun warning => ascii "AVERTISSEMENT " ++ warning ++ ascii "\n"
    if accepted then (some config, warned)
    else
      (none, warned ++ ascii "configuration refusee : " ++ path ++ ascii "\n" ++
        problems.flatMap fun problem => ascii "  " ++ problem ++ ascii "\n")

/-! ## What a setting touches -/

namespace ListenerKey

variable (listener : ListenerSettings) {key other : ListenerKey}

@[simp] theorem read_write (value : key.Value) : key.read (key.write listener value) = value := by
  cases key <;> rfl

theorem read_write_of_ne (h : key ≠ other) (value : key.Value) :
    other.read (key.write listener value) = other.read listener := by
  cases key <;> cases other <;> first | rfl | exact absurd rfl h

theorem ext {listener listener' : ListenerSettings}
    (h : ∀ key : ListenerKey, key.read listener = key.read listener') : listener = listener' := by
  obtain ⟨⟨enabled, bindAddress, port⟩, advertisedHost⟩ := listener
  obtain ⟨⟨enabled', bindAddress', port'⟩, advertisedHost'⟩ := listener'
  obtain rfl : enabled = enabled' := h .enabled
  obtain rfl : bindAddress = bindAddress' := h .bindAddress
  obtain rfl : port = port' := h .port
  obtain rfl : advertisedHost = advertisedHost' := h .advertisedHost
  rfl

end ListenerKey

namespace LimitKey

variable (limits : LimitsConfig) (value : UInt32) {key other : LimitKey}

@[simp] theorem read_write : key.read (key.write limits value) = value := by
  cases key <;> rfl

theorem read_write_of_ne (h : key ≠ other) :
    other.read (key.write limits value) = other.read limits := by
  cases key <;> cases other <;> first | rfl | exact absurd rfl h

theorem ext {limits limits' : LimitsConfig}
    (h : ∀ key : LimitKey, key.read limits = key.read limits') : limits = limits' := by
  obtain ⟨maxConnections, maxPerAddress, maxFrameSize, handshake, idle, perAddress, perIdentity⟩ :=
    limits
  obtain rfl : maxConnections = limits'.maxConnections := h .maxConnections
  obtain rfl : maxPerAddress = limits'.maxConnectionsPerAddress := h .maxConnectionsPerAddress
  obtain rfl : maxFrameSize = limits'.maxFrameSize := h .maxFrameSize
  obtain rfl : handshake = limits'.handshakeTimeoutSeconds := h .handshakeTimeoutSeconds
  obtain rfl : idle = limits'.idleTimeoutSeconds := h .idleTimeoutSeconds
  obtain rfl : perAddress = limits'.requestsPerMinutePerAddress := h .requestsPerMinutePerAddress
  obtain rfl : perIdentity = limits'.requestsPerMinutePerIdentity := h .requestsPerMinutePerIdentity
  rfl

end LimitKey

namespace LoggingKey

variable (logging : LoggingSettings) {key other : LoggingKey}

@[simp] theorem read_write (value : key.Value) : key.read (key.write logging value) = value := by
  cases key <;> rfl

theorem read_write_of_ne (h : key ≠ other) (value : key.Value) :
    other.read (key.write logging value) = other.read logging := by
  cases key <;> cases other <;> first | rfl | exact absurd rfl h

theorem ext {logging logging' : LoggingSettings}
    (h : ∀ key : LoggingKey, key.read logging = key.read logging') : logging = logging' := by
  obtain ⟨⟨logPeerAddresses, retentionDays⟩, level, filePath⟩ := logging
  obtain ⟨⟨logPeerAddresses', retentionDays'⟩, level', filePath'⟩ := logging'
  obtain rfl : level = level' := h .level
  obtain rfl : logPeerAddresses = logPeerAddresses' := h .logPeerAddresses
  obtain rfl : retentionDays = retentionDays' := h .retentionDays
  obtain rfl : filePath = filePath' := h .filePath
  rfl

end LoggingKey

namespace PathKey

variable (paths : PathSettings) (value : ByteString) {key other : PathKey}

@[simp] theorem read_write : key.read (key.write paths value) = value := by
  cases key <;> rfl

theorem read_write_of_ne (h : key ≠ other) :
    other.read (key.write paths value) = other.read paths := by
  cases key <;> cases other <;> first | rfl | exact absurd rfl h

theorem ext {paths paths' : PathSettings}
    (h : ∀ key : PathKey, key.read paths = key.read paths') : paths = paths' := by
  obtain ⟨⟨database, serverKey⟩, migrations, adminSocket, connectFile⟩ := paths
  obtain ⟨⟨database', serverKey'⟩, migrations', adminSocket', connectFile'⟩ := paths'
  obtain rfl : database = database' := h .database
  obtain rfl : serverKey = serverKey' := h .serverKey
  obtain rfl : migrations = migrations' := h .migrations
  obtain rfl : adminSocket = adminSocket' := h .adminSocket
  obtain rfl : connectFile = connectFile' := h .connectFile
  rfl

end PathKey

namespace Key

variable (config : Configuration) {key other : Key}

@[simp] theorem read_write (value : key.Value) : key.read (key.write config value) = value := by
  cases key with
  | clearnet key => exact key.read_write _ value
  | onion key => exact key.read_write _ value
  | limits key => exact key.read_write _ value
  | logging key => exact key.read_write _ value
  | paths key => exact key.read_write _ value
  | registrationOpen => rfl

theorem read_write_of_ne (h : key ≠ other) (value : key.Value) :
    other.read (key.write config value) = other.read config := by
  cases key with
  | clearnet key =>
    cases other with
    | clearnet other => exact ListenerKey.read_write_of_ne _ (fun heq => h (congrArg _ heq)) value
    | _ => rfl
  | onion key =>
    cases other with
    | onion other => exact ListenerKey.read_write_of_ne _ (fun heq => h (congrArg _ heq)) value
    | _ => rfl
  | limits key =>
    cases other with
    | limits other => exact LimitKey.read_write_of_ne _ value fun heq => h (congrArg _ heq)
    | _ => rfl
  | logging key =>
    cases other with
    | logging other => exact LoggingKey.read_write_of_ne _ (fun heq => h (congrArg _ heq)) value
    | _ => rfl
  | paths key =>
    cases other with
    | paths other => exact PathKey.read_write_of_ne _ value fun heq => h (congrArg _ heq)
    | _ => rfl
  | registrationOpen =>
    cases other with
    | registrationOpen => exact absurd rfl h
    | _ => rfl

/-- The keys read all of a configuration. -/
theorem ext {config config' : Configuration}
    (h : ∀ key : Key, key.read config = key.read config') : config = config' := by
  obtain ⟨clearnet, onion, limits, logging, paths, registrationOpen⟩ := config
  obtain rfl : clearnet = config'.clearnet := ListenerKey.ext fun key => h (.clearnet key)
  obtain rfl : onion = config'.onion := ListenerKey.ext fun key => h (.onion key)
  obtain rfl : limits = config'.limits := LimitKey.ext fun key => h (.limits key)
  obtain rfl : logging = config'.logging := LoggingKey.ext fun key => h (.logging key)
  obtain rfl : paths = config'.paths := PathKey.ext fun key => h (.paths key)
  obtain rfl : registrationOpen = config'.registrationOpen := h .registrationOpen
  rfl

end Key

/-- One setting of the file. -/
structure Setting where
  key : Key
  value : key.Value

namespace Setting

/-- The value a setting gives to a key. -/
def of (key : Key) (setting : Setting) : Option key.Value :=
  if h : setting.key = key then some (h ▸ setting.value) else none

/-- A setting writes its key. -/
def apply (config : Configuration) (setting : Setting) : Configuration :=
  setting.key.write config setting.value

/-- So it is what its key reads, and nothing else changes. -/
theorem read_apply (key : Key) (config : Configuration) (setting : Setting) :
    key.read (setting.apply config) = (setting.of key).getD (key.read config) := by
  obtain ⟨written, value⟩ := setting
  rw [apply, of]
  split_ifs with h
  · obtain rfl := h
    exact Key.read_write config value
  · exact Key.read_write_of_ne config h value

end Setting

/-! ## Values without their target

Of a refused text a part may be written, but whether it is refused, and the value of an
accepted one, do not depend on what was there before. -/

section Target

variable {Value : Type}

/-- Two results of one parser, into two targets. -/
def SameVerdict (result result' : Bool × Value) : Prop :=
  result.1 = result'.1 ∧ (result.1 = true → result.2 = result'.2)

/-- The verdict on a line does not depend on what was set before, -/
theorem intoTarget_target (result : Option Value) (target target' : Value) :
    SameVerdict (intoTarget result target) (intoTarget result target') := by
  cases result with
  | none => exact ⟨rfl, fun h => by cases h⟩
  | some value => exact ⟨rfl, fun _ => rfl⟩

/-- even where the parser writes before it refuses. -/
theorem parseUnsigned_target (text : ByteString) (target target' : UInt32) :
    SameVerdict (parseUnsigned text target) (parseUnsigned text target') := by
  simp only [SameVerdict, parseUnsigned]
  split_ifs
  · exact ⟨rfl, fun h => by cases h⟩
  · exact ⟨rfl, fun _ => rfl⟩

theorem parseListenerPort_target (text : ByteString) (target target' : UInt16) :
    SameVerdict (parseListenerPort text target) (parseListenerPort text target') := by
  simp only [SameVerdict, parseListenerPort]
  split_ifs
  · exact ⟨rfl, fun h => by cases h⟩
  · exact ⟨rfl, fun _ => rfl⟩

theorem ListenerKey.parseInto_target (text : ByteString) (key : ListenerKey)
    (target target' : key.Value) :
    SameVerdict (key.parseInto text target) (key.parseInto text target') := by
  cases key with
  | enabled => exact intoTarget_target _ _ _
  | bindAddress => exact ⟨rfl, fun _ => rfl⟩
  | advertisedHost => exact ⟨rfl, fun _ => rfl⟩
  | port => exact parseListenerPort_target text target target'

theorem LoggingKey.parseInto_target (text : ByteString) (key : LoggingKey)
    (target target' : key.Value) :
    SameVerdict (key.parseInto text target) (key.parseInto text target') := by
  cases key with
  | level => exact intoTarget_target _ _ _
  | logPeerAddresses => exact intoTarget_target _ _ _
  | retentionDays => exact parseUnsigned_target text target target'
  | filePath => exact ⟨rfl, fun _ => rfl⟩

/-- For every key. -/
theorem Key.parseInto_target (text : ByteString) (key : Key) (target target' : key.Value) :
    SameVerdict (key.parseInto text target) (key.parseInto text target') := by
  cases key with
  | clearnet key => exact key.parseInto_target text target target'
  | onion key => exact key.parseInto_target text target target'
  | limits key => exact parseUnsigned_target text target target'
  | logging key => exact key.parseInto_target text target target'
  | paths key => exact ⟨rfl, fun _ => rfl⟩
  | registrationOpen => exact intoTarget_target _ _ _

end Target

/-- The value of a text for a key, if it has one. -/
def Key.parse (text : ByteString) (key : Key) : Option key.Value :=
  let (accepted, value) := key.parseInto text (key.read .defaults)
  if accepted then some value else none

/-- The setting of a line `key = value` in a section. -/
def settingOf (sectionName key value : ByteString) : Option Setting :=
  (Key.named sectionName key).bind fun key => (key.parse value).map (⟨key, ·⟩)

/-- `apply_setting` succeeds on the lines that are a setting, and then applies it. -/
theorem applySetting_spec (sectionName key value : ByteString) (config : Configuration) :
    (applySetting sectionName key value config).1 = (settingOf sectionName key value).isSome ∧
      ∀ setting ∈ settingOf sectionName key value,
        (applySetting sectionName key value config).2 = setting.apply config := by
  rcases hnamed : Key.named sectionName key with _ | named
  · simp [applySetting, settingOf, hnamed]
  have htarget := named.parseInto_target value (named.read config) (named.read .defaults)
  rcases hparse : named.parseInto value (named.read .defaults) with ⟨accepted, parsed⟩
  rcases hinto : named.parseInto value (named.read config) with ⟨accepted', parsed'⟩
  rw [hinto, hparse] at htarget
  obtain ⟨hverdict, hvalue⟩ := htarget
  obtain rfl : accepted' = accepted := hverdict
  cases accepted' with
  | false => simp [applySetting, settingOf, hnamed, hinto, Key.parse, hparse]
  | true =>
    obtain rfl : parsed' = parsed := hvalue rfl
    simp [applySetting, settingOf, hnamed, hinto, Key.parse, hparse, Setting.apply]

/-! ## Lines by themselves -/

/-- The section a line opens. -/
def header (line : ByteString) : Option ByteString :=
  let trimmed := trimSpaces line
  if trimmed.head? = some 0x5B ∧ trimmed.getLast? = some 0x5D then
    some ((trimmed.drop 1).take (trimmed.length - 2))
  else none

/-- A line that sets something: its key and its value. -/
def assignment (line : ByteString) : Option (ByteString × ByteString) :=
  let trimmed := trimSpaces line
  if trimmed.head? = some 0x23 ∨ trimmed.head? = some 0x5B then none
  else (splitAtFirst 0x3D trimmed).map fun halves => (trimSpaces halves.1, trimSpaces halves.2)

/-- The setting of a line in a section. -/
def lineSetting (sectionName line : ByteString) : Option Setting :=
  if sectionName = [] then none
  else (assignment line).bind fun (key, value) => settingOf sectionName key value

/-- What is wrong with a line in a section. -/
def lineError (sectionName line : ByteString) : Option ByteString :=
  let trimmed := trimSpaces line
  if trimmed = [] ∨ trimmed.head? = some 0x23 ∨ (header line).isSome then none
  else if trimmed.head? = some 0x5B then some (ascii "section non fermee")
  else
    match assignment line with
    | none => some (ascii "ligne sans '=' et hors section")
    | some (key, value) =>
      if sectionName = [] then some (ascii "reglage hors de toute section")
      else if (settingOf sectionName key value).isSome then none
      else some (ascii "cle inconnue ou valeur invalide : [" ++ sectionName ++ ascii "] " ++ key)

/-- What one line does to the parser. -/
theorem handleConfigLine_spec (line : ByteString) (lineNumber : ℕ) (state : ParserState) :
    (handleConfigLine line lineNumber state).sectionName =
        (header line).getD state.sectionName ∧
      (handleConfigLine line lineNumber state).errors = state.errors ++
        ((lineError state.sectionName line).map (⟨lineNumber, ·⟩)).toList ∧
      (lineError state.sectionName line = none →
        (handleConfigLine line lineNumber state).config =
          (lineSetting state.sectionName line).elim state.config
            fun setting => setting.apply state.config) := by
  rcases htrimmed : trimSpaces line with _ | ⟨first, rest⟩
  · -- a blank line
    simp [handleConfigLine, header, lineError, lineSetting, assignment, htrimmed, splitAtFirst]
  by_cases hcomment : first = 0x23
  · simp [handleConfigLine, header, lineError, lineSetting, assignment, htrimmed, hcomment]
  by_cases hopen : first = 0x5B
  · by_cases hclosed : (first :: rest).getLast? = some 0x5D
    · simp [handleConfigLine, header, lineError, lineSetting, assignment, htrimmed, hopen,
        hopen ▸ hclosed]
    · simp [handleConfigLine, header, lineError, lineSetting, assignment, htrimmed, hopen,
        hopen ▸ hclosed]
  rcases hsplit : splitAtFirst 0x3D (first :: rest) with _ | ⟨keyText, valueText⟩
  · simp [handleConfigLine, header, lineError, lineSetting, assignment, htrimmed, hcomment, hopen,
      hsplit]
  by_cases houtside : state.sectionName = []
  · simp [handleConfigLine, header, lineError, lineSetting, assignment, htrimmed, hcomment, hopen,
      hsplit, houtside]
  obtain ⟨hverdict, happly⟩ := applySetting_spec state.sectionName (trimSpaces keyText)
    (trimSpaces valueText) state.config
  rcases happlied : applySetting state.sectionName (trimSpaces keyText) (trimSpaces valueText)
    state.config with ⟨accepted, config⟩
  rw [happlied] at hverdict happly
  rcases hsetting : settingOf state.sectionName (trimSpaces keyText) (trimSpaces valueText)
    with _ | setting
  · obtain rfl : accepted = false := by simpa [hsetting] using hverdict
    simp [handleConfigLine, header, lineError, lineSetting, assignment, htrimmed, hcomment, hopen,
      hsplit, houtside, happlied, hsetting]
  · obtain rfl : accepted = true := by simpa [hsetting] using hverdict
    obtain rfl : config = setting.apply state.config := happly setting hsetting
    simp [handleConfigLine, header, lineError, lineSetting, assignment, htrimmed, hcomment, hopen,
      hsplit, houtside, happlied, hsetting]

/-! ## The whole text -/

/-- The section in force behind some lines. -/
def sectionAfter (start : ByteString) (lines : List ByteString) : ByteString :=
  (LastWrite.last header lines).getD start

/-- Each line with the section in force before it. -/
def inSections (start : ByteString) (lines : List ByteString) : List (ByteString × ByteString) :=
  lines.zipIdx.map fun (line, index) => (sectionAfter start (lines.take index), line)

/-- The functions of the specification, line by line. -/
theorem sectionAfter_cons (start line : ByteString) (lines : List ByteString) :
    sectionAfter start (line :: lines) = sectionAfter ((header line).getD start) lines := by
  have happend := LastWrite.last_append header [line] lines
  rw [List.singleton_append] at happend
  rw [sectionAfter, sectionAfter, happend]
  cases LastWrite.last header lines <;> cases hheader : header line <;>
    simp [LastWrite.last, hheader]

theorem inSections_cons (start line : ByteString) (lines : List ByteString) :
    inSections start (line :: lines) =
      (start, line) :: inSections ((header line).getD start) lines := by
  rw [inSections, List.zipIdx_cons, List.map_cons, zero_add, List.zipIdx_succ, List.map_map]
  congr 1
  exact List.map_congr_left fun entry _ => by
    simp only [Function.comp_apply, List.take_succ_cons, sectionAfter_cons]

/-- The report of some lines, numbered from here. -/
def report (lineNumber : ℕ) (lines : List (ByteString × ByteString)) : List ConfigError :=
  (lines.zipIdx lineNumber).filterMap fun ((sectionName, line), number) =>
    (lineError sectionName line).map (⟨number, ·⟩)

/-- The settings of some lines. -/
def settings (lines : List (ByteString × ByteString)) : List Setting :=
  lines.filterMap fun (sectionName, line) => lineSetting sectionName line

/-- Lines are numbered as they are counted, blank ones included. -/
theorem report_cons (lineNumber : ℕ) (entry : ByteString × ByteString)
    (lines : List (ByteString × ByteString)) :
    report lineNumber (entry :: lines) =
      ((lineError entry.1 entry.2).map (⟨lineNumber, ·⟩)).toList ++
        report (lineNumber + 1) lines := by
  obtain ⟨sectionName, line⟩ := entry
  rw [report, List.zipIdx_cons, List.filterMap_cons]
  cases hline : lineError sectionName line <;> simp [report, hline]

theorem settings_cons (entry : ByteString × ByteString) (lines : List (ByteString × ByteString)) :
    settings (entry :: lines) = (lineSetting entry.1 entry.2).toList ++ settings lines := by
  obtain ⟨sectionName, line⟩ := entry
  rw [settings, List.filterMap_cons]
  cases hline : lineSetting sectionName line <;> simp [settings, hline]

/-- The loop reports what the specification does, -/
theorem handleConfigLines_errors (lineNumber : ℕ) (lines : List ByteString) (state : ParserState) :
    (handleConfigLines lineNumber lines state).errors =
      state.errors ++ report lineNumber (inSections state.sectionName lines) := by
  induction lines generalizing lineNumber state with
  | nil => simp [handleConfigLines, inSections, report]
  | cons line lines ih =>
    obtain ⟨hsection, herrors, -⟩ := handleConfigLine_spec line lineNumber state
    rw [handleConfigLines, ih, hsection, herrors, inSections_cons, report_cons, List.append_assoc]

/-- and, if there is nothing to report, applies the settings in order. -/
theorem handleConfigLines_config (lineNumber : ℕ) (lines : List ByteString) (state : ParserState)
    (haccepted : report lineNumber (inSections state.sectionName lines) = []) :
    (handleConfigLines lineNumber lines state).config =
      (settings (inSections state.sectionName lines)).foldl Setting.apply state.config := by
  induction lines generalizing lineNumber state with
  | nil => rfl
  | cons line lines ih =>
    obtain ⟨hsection, -, hconfig⟩ := handleConfigLine_spec line lineNumber state
    rw [inSections_cons, report_cons, List.append_eq_nil_iff] at haccepted
    have hline : lineError state.sectionName line = none := by simpa using haccepted.1
    have hrest := ih (lineNumber + 1) (handleConfigLine line lineNumber state)
      (by rw [hsection]; exact haccepted.2)
    rw [handleConfigLines, hrest, hsection, hconfig hline, inSections_cons, settings_cons,
      List.foldl_append]
    cases lineSetting state.sectionName line <;> rfl

/-- The lines of a text, each in its section. -/
def textLines (text : ByteString) : List (ByteString × ByteString) :=
  inSections [] (text.splitOn 0x0A)

/-- From the first line of a text. -/
theorem parseConfigText_errors (text : ByteString) (config : Configuration)
    (errors : List ConfigError) :
    (parseConfigText text config errors).2.2 = errors ++ report 1 (textLines text) := by
  rw [parseConfigText, handleConfigLines_errors, textLines]

/-- A text is accepted if there is nothing to report. -/
theorem parseConfigText_accepted_iff {text : ByteString} {config : Configuration} :
    (parseConfigText text config).1 = true ↔ report 1 (textLines text) = [] := by
  have herrors := parseConfigText_errors text config []
  rw [List.nil_append] at herrors
  rw [← herrors, parseConfigText, List.isEmpty_iff]

/-- Then its settings have been applied, -/
theorem parseConfigText_settings {text : ByteString} {config : Configuration}
    (haccepted : (parseConfigText text config).1 = true) :
    (parseConfigText text config).2.1 = (settings (textLines text)).foldl Setting.apply config :=
  handleConfigLines_config 1 (text.splitOn 0x0A) { config, errors := [] }
    (parseConfigText_accepted_iff.mp haccepted)

/-- and each key has its last one. -/
theorem parseConfigText_last {text : ByteString} {config : Configuration}
    (haccepted : (parseConfigText text config).1 = true) (key : Key) :
    key.read (parseConfigText text config).2.1 =
      (LastWrite.last (Setting.of key) (settings (textLines text))).getD (key.read config) := by
  rw [parseConfigText_settings haccepted]
  exact @LastWrite.foldl_eq _ _ _ Setting.apply (fun config => key.read config) (Setting.of key)
    (Setting.read_apply key) config _

/-- What a text means. Its report is line by line: an error stands under the number of its
line, and what is said of a line depends on nothing but the line and the headers above it,
so no error hides another one. It is accepted if there is nothing to report, and then each
key has the value written last under its section, or the one from before: sections may come
back, keys may be repeated, and no setting touches another key. -/
theorem config_text_meaning (text : ByteString) (config : Configuration)
    (errors : List ConfigError) :
    (parseConfigText text config errors).2.2 = errors ++ report 1 (textLines text) ∧
      ((parseConfigText text config errors).1 = true ↔
        errors = [] ∧ report 1 (textLines text) = []) ∧
      ((parseConfigText text config errors).1 = true → ∀ key : Key,
        key.read (parseConfigText text config errors).2.1 =
          (LastWrite.last (Setting.of key) (settings (textLines text))).getD (key.read config)) := by
  have herrors := parseConfigText_errors text config errors
  have haccepted : (parseConfigText text config errors).1 = true ↔
      errors = [] ∧ report 1 (textLines text) = [] := by
    rw [← List.append_eq_nil_iff, ← herrors, parseConfigText, List.isEmpty_iff]
  refine ⟨herrors, haccepted, fun h key => ?_⟩
  obtain ⟨rfl, -⟩ := haccepted.mp h
  exact parseConfigText_last h key

/-- Two sections that come back, and a port that is set twice. -/
example :
    (parseConfigText (ascii "[clearnet]\nport = 1\n[onion]\nport=2\n\n[clearnet]\r\n port= 7717 \r")
      .defaults).2.1.clearnet.port = 7717 := by decide

/-- A number with something behind it is refused, and written all the same. -/
example :
    let (accepted, config, _) := parseConfigText (ascii "[limits]\nmax_connections=12x") .defaults
    (accepted, config.limits.maxConnections) = (false, 12) := by decide

end ConfigParser

end HyperCom
