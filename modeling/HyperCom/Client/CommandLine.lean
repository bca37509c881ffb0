import HyperCom.Client.InviteLinks
import HyperCom.Client.ServerList
import HyperCom.Lib.LastWrite

/-!
# The command line

`parse_cli_options`: the arguments from left to right, with the connect files
they name read where they stand, and a default at the end. That default sees an
empty proxy and not why it is empty, so `command_line_law_iff` has a condition:
a final `--direct` is undone for a `.onion` host.

The loop of the source takes an option, then as many values as it needs, and stops at the
first error; `parseArguments` is that loop, one argument after the other. The options that
only set something commute with those that set something else, which is why the law can
speak of the last occurrence of each instead of their order.
-/

namespace HyperCom

/-- `cli_options` -/
structure CommandLine extends CliOptions where
  serverLabel : ByteString := []
  command : ByteString := []
  arguments : List ByteString := []
  replayIntro : Bool := false

namespace CommandLine

/-- `DEFAULT_TOR_SOCKS_HOST` -/
def defaultTorSocksHost : ByteString := ascii "127.0.0.1"

/-- `DEFAULT_TOR_SOCKS_PORT` -/
def defaultTorSocksPort : UInt16 := 9050

/-- `ONION_SUFFIX` -/
def onionSuffix : ByteString := ascii ".onion"

/-! ## Values -/

/-- `parse_port` of `cli_options.cpp`: what stands behind the digits is not looked
at. -/
def parsePort (text : ByteString) : Option UInt16 :=
  let digits := text.takeWhile isDecimalDigit
  let value := decimalValue digits
  if digits.isEmpty ∨ value = 0 ∨ value > 65535 then none else some (UInt16.ofNat value)

/-- `trim_spaces`: a carriage return is a blank at the end only. -/
def trimSpaces (text : ByteString) : ByteString :=
  let body := text.dropWhile fun character => character == 0x20 || character == 0x09
  (body.reverse.dropWhile fun character =>
    character == 0x20 || character == 0x09 || character == 0x0D).reverse

/-- `parse_proxy_endpoint` -/
def parseProxyEndpoint (text : ByteString) (options : CommandLine) :
    Except ByteString CommandLine :=
  match splitAtLast 0x3A text with
  | none => .error (ascii "proxy SOCKS5 invalide, attendu hote:port : " ++ text)
  | some (host, portText) =>
    match parsePort portText with
    | none => .error (ascii "proxy SOCKS5 invalide, attendu hote:port : " ++ text)
    | some port =>
      if host.isEmpty then .error (ascii "proxy SOCKS5 : hote manquant : " ++ text)
      else .ok { options with socks5Host := host, socks5Port := port }

/-! ## Connect files -/

/-- `apply_connect_line`: a line without `=` is ignored, and so is an unknown
key. -/
def applyConnectLine (line : ByteString) (options : CommandLine) : Except ByteString CommandLine :=
  match splitAtFirst 0x3D line with
  | none => .ok options
  | some (keyText, valueText) =>
    let key := trimSpaces keyText
    let value := trimSpaces valueText
    if key = ascii "host" then .ok { options with host := value }
    else if key = ascii "port" then
      match parsePort value with
      | none => .error (ascii "fichier de connexion : port invalide : " ++ value)
      | some port => .ok { options with port := port }
    else if key = ascii "server_key" then .ok { options with serverKeyHex := value }
    else if key = ascii "socks5" then parseProxyEndpoint value options
    else .ok options

/-- `std::getline` until the file ends, with the line begun before. -/
def linesFrom : ByteString → ByteString → List ByteString
  | line, [] => if line.isEmpty then [] else [line]
  | line, character :: rest =>
    if character = 0x0A then line :: linesFrom [] rest else linesFrom (line ++ [character]) rest

/-- The loop of `load_connect_file`. -/
def applyConnectLines : List ByteString → CommandLine → Except ByteString CommandLine
  | [], options => .ok options
  | line :: lines, options =>
    match applyConnectLine line options with
    | .error failure => .error failure
    | .ok options => applyConnectLines lines options

/-- `load_connect_file` -/
def loadConnectFile (files : Files) (path : ByteString) (options : CommandLine) :
    Except ByteString CommandLine :=
  match files path with
  | none => .error (ascii "fichier de connexion introuvable : " ++ path)
  | some content => applyConnectLines (linesFrom [] content) options

/-! ## Arguments -/

/-- The options that take a value. -/
inductive ValueOption where
  | host | port | serverKey | identity | server | masterSeed | servers | connectFile | socks5

/-- The comparisons of `parse_cli_options`, for the options that take a value. -/
def ValueOption.named (argument : ByteString) : Option ValueOption :=
  if argument = ascii "--host" then some .host
  else if argument = ascii "--port" then some .port
  else if argument = ascii "--server-key" then some .serverKey
  else if argument = ascii "--identity" then some .identity
  else if argument = ascii "--server" then some .server
  else if argument = ascii "--master-seed" then some .masterSeed
  else if argument = ascii "--servers" then some .servers
  else if argument = ascii "--connect-file" then some .connectFile
  else if argument = ascii "--socks5" then some .socks5
  else none

/-- What `parse_cli_options` does with the value. -/
def ValueOption.apply (files : Files) (value : ByteString) (options : CommandLine) :
    ValueOption → Except ByteString CommandLine
  | host => .ok { options with host := value }
  | port =>
    match parsePort value with
    | none => .error (ascii "port invalide : " ++ value)
    | some number => .ok { options with port := number }
  | serverKey => .ok { options with serverKeyHex := value }
  | identity => .ok { options with identityPath := value }
  | server => .ok { options with serverLabel := value }
  | masterSeed => .ok { options with masterSeedPath := value }
  | servers => .ok { options with registryPath := value }
  | connectFile => loadConnectFile files value options
  | socks5 => parseProxyEndpoint value options

/-- The other arguments: three options, the command, and what is left for it. -/
def applyPlain (argument : ByteString) (options : CommandLine) : CommandLine :=
  if argument = ascii "--tor" then
    { options with socks5Host := defaultTorSocksHost, socks5Port := defaultTorSocksPort }
  else if argument = ascii "--direct" then { options with socks5Host := [], socks5Port := 0 }
  else if argument = ascii "--replay-intro" then { options with replayIntro := true }
  else if options.command.isEmpty then { options with command := argument }
  else { options with arguments := options.arguments ++ [argument] }

/-- The loop over the arguments. -/
def parseArguments (files : Files) : List ByteString → CommandLine → Except ByteString CommandLine
  | [], options => .ok options
  | argument :: rest, options =>
    match ValueOption.named argument with
    | none => parseArguments files rest (applyPlain argument options)
    | some option =>
      match rest with
      | [] => .error (ascii "valeur manquante apres " ++ argument)
      | value :: rest =>
        match option.apply files value options with
        | .error failure => .error failure
        | .ok options => parseArguments files rest options

/-- The default proxy of a `.onion` host. -/
def defaultProxy (options : CommandLine) : CommandLine :=
  if options.socks5Host.isEmpty && onionSuffix.isSuffixOf options.host then
    { options with socks5Host := defaultTorSocksHost, socks5Port := defaultTorSocksPort }
  else options

/-- `parse_cli_options`, from the arguments behind the program's name. -/
def parseCliOptions (files : Files) (arguments : List ByteString) (requireCommand : Bool := true)
    (requireServerKey : Bool := true) : Except ByteString CommandLine :=
  match parseArguments files arguments {} with
  | .error failure => .error failure
  | .ok options =>
    if requireCommand && options.command.isEmpty then .error (ascii "aucune commande fournie")
    else
      let options := defaultProxy options
      if requireServerKey && options.serverLabel.isEmpty &&
          !(ascii "server-").isPrefixOf options.command &&
          options.command != ascii "seed-restore" && options.serverKeyHex.length != 64 then
        .error (ascii "--server-key est requis : 64 caracteres hexadecimaux, " ++
          ascii "affiches par le serveur a son demarrage. Sinon, --server " ++
          ascii "<nom> pour viser un serveur deja enregistre")
      else .ok options

/-! ## What the arguments set

The settings in the order in which they stand, read off the arguments and the
files alone. -/

/-- A proxy, or none on purpose. -/
inductive ProxySetting where
  | through (host : ByteString) (port : UInt16)
  | direct
deriving DecidableEq

/-- One setting of the server to connect to. -/
inductive Setting where
  | host (text : ByteString)
  | port (number : UInt16)
  | serverKey (text : ByteString)
  | proxy (setting : ProxySetting)
deriving DecidableEq

/-- The setting of a text `host:port`. -/
def proxySettings (text : ByteString) : List Setting :=
  match splitAtLast 0x3A text with
  | none => []
  | some (host, portText) =>
    match parsePort portText with
    | none => []
    | some port => if host.isEmpty then [] else [.proxy (.through host port)]

/-- The setting of a text that has to be a port. -/
def portSettings (text : ByteString) : List Setting := ((parsePort text).map Setting.port).toList

/-- The setting of a line `key=value`. -/
def lineSettings (line : ByteString) : List Setting :=
  match splitAtFirst 0x3D line with
  | none => []
  | some (keyText, valueText) =>
    let key := trimSpaces keyText
    let value := trimSpaces valueText
    if key = ascii "host" then [.host value]
    else if key = ascii "port" then portSettings value
    else if key = ascii "server_key" then [.serverKey value]
    else if key = ascii "socks5" then proxySettings value
    else []

/-- The settings of a connect file. -/
def fileSettings (files : Files) (path : ByteString) : List Setting :=
  (linesFrom [] ((files path).getD [])).flatMap lineSettings

/-- The settings of an option with its value. -/
def ValueOption.settings (files : Files) (value : ByteString) : ValueOption → List Setting
  | host => [.host value]
  | port => portSettings value
  | serverKey => [.serverKey value]
  | connectFile => fileSettings files value
  | socks5 => proxySettings value
  | identity | server | masterSeed | servers => []

/-- The settings of an argument without a value. -/
def plainSettings (argument : ByteString) : List Setting :=
  if argument = ascii "--tor" then [.proxy (.through defaultTorSocksHost defaultTorSocksPort)]
  else if argument = ascii "--direct" then [.proxy .direct]
  else []

/-- The settings of a command line. -/
def settings (files : Files) : List ByteString → List Setting
  | [] => []
  | argument :: rest =>
    match ValueOption.named argument with
    | none => plainSettings argument ++ settings files rest
    | some option =>
      match rest with
      | [] => []
      | value :: rest => option.settings files value ++ settings files rest

/-- What a setting says about each part of the target. -/
def Setting.host? : Setting → Option ByteString
  | host text => some text
  | _ => none

def Setting.port? : Setting → Option UInt16
  | port number => some number
  | _ => none

def Setting.serverKey? : Setting → Option ByteString
  | serverKey text => some text
  | _ => none

def Setting.proxy? : Setting → Option ProxySetting
  | proxy setting => some setting
  | _ => none

/-- The host the command line ends with. -/
def finalHost (files : Files) (arguments : List ByteString) : ByteString :=
  (LastWrite.last Setting.host? (settings files arguments)).getD (ascii "127.0.0.1")

/-- The last setting of the proxy. -/
def lastProxy (files : Files) (arguments : List ByteString) : Option ProxySetting :=
  LastWrite.last Setting.proxy? (settings files arguments)

/-- Left to right: the options are what was set last, and Tor is the default for
a `.onion` host if nothing was said about a proxy. -/
structure FollowsLastSetting (files : Files) (arguments : List ByteString)
    (options : CommandLine) : Prop where
  host : options.host = finalHost files arguments
  port : options.port = (LastWrite.last Setting.port? (settings files arguments)).getD 7717
  serverKey : options.serverKeyHex =
    (LastWrite.last Setting.serverKey? (settings files arguments)).getD []
  proxy : (options.socks5Host, options.socks5Port) =
    match lastProxy files arguments with
    | some (.through host port) => (host, port)
    | some .direct => ([], 0)
    | none =>
      if onionSuffix.isSuffixOf (finalHost files arguments) then
        (defaultTorSocksHost, defaultTorSocksPort)
      else ([], 0)

/-! ## The loop takes the settings one by one -/

/-- Where to connect to. -/
structure Target where
  host : ByteString
  port : UInt16
  serverKeyHex : ByteString
  proxy : ByteString × UInt16

/-- The part of the options that decides where the client connects to. -/
def target (options : CommandLine) : Target where
  host := options.host
  port := options.port
  serverKeyHex := options.serverKeyHex
  proxy := (options.socks5Host, options.socks5Port)

/-- The host and port of a proxy setting. -/
def ProxySetting.endpoint : ProxySetting → ByteString × UInt16
  | through host port => (host, port)
  | direct => ([], 0)

/-- A setting, applied. -/
def Target.set (target : Target) : Setting → Target
  | .host text => { target with host := text }
  | .port number => { target with port := number }
  | .serverKey text => { target with serverKeyHex := text }
  | .proxy setting => { target with proxy := setting.endpoint }

/-- Each part depends on the settings about it only. -/
theorem Target.set_host (target : Target) (setting : Setting) :
    (target.set setting).host = setting.host?.getD target.host := by
  cases setting <;> rfl

theorem Target.set_port (target : Target) (setting : Setting) :
    (target.set setting).port = setting.port?.getD target.port := by
  cases setting <;> rfl

theorem Target.set_serverKey (target : Target) (setting : Setting) :
    (target.set setting).serverKeyHex = setting.serverKey?.getD target.serverKeyHex := by
  cases setting <;> rfl

theorem Target.set_proxy (target : Target) (setting : Setting) :
    (target.set setting).proxy = (setting.proxy?.map ProxySetting.endpoint).getD target.proxy := by
  cases setting <;> rfl

variable {files : Files} {options options' : CommandLine}

/-- The functions that parse, by the settings they amount to: an endpoint of a proxy, -/
theorem parseProxyEndpoint_ok {text : ByteString}
    (h : parseProxyEndpoint text options = .ok options') :
    options'.target = (proxySettings text).foldl Target.set options.target := by
  rcases hsplit : splitAtLast 0x3A text with _ | ⟨host, portText⟩
  · simp [parseProxyEndpoint, hsplit] at h
  rcases hport : parsePort portText with _ | port
  · simp [parseProxyEndpoint, hsplit, hport] at h
  rcases hempty : host.isEmpty with _ | _
  · simp only [parseProxyEndpoint, hsplit, hport, hempty, Bool.false_eq_true, if_false] at h
    obtain rfl := Except.ok.inj h
    simp only [proxySettings, hsplit, hport, hempty, Bool.false_eq_true, if_false]
    rfl
  · simp [parseProxyEndpoint, hsplit, hport, hempty] at h

/-- a line of a connect file, -/
theorem applyConnectLine_ok {line : ByteString} (h : applyConnectLine line options = .ok options') :
    options'.target = (lineSettings line).foldl Target.set options.target := by
  rcases hsplit : splitAtFirst 0x3D line with _ | ⟨keyText, valueText⟩
  · simp only [applyConnectLine, hsplit] at h
    obtain rfl := Except.ok.inj h
    simp only [lineSettings, hsplit, List.foldl_nil]
  simp only [applyConnectLine, hsplit] at h
  simp only [lineSettings, hsplit]
  split_ifs at h ⊢ with hhost hport hkey hsocks
  · obtain rfl := Except.ok.inj h
    rfl
  · rcases hnumber : parsePort (trimSpaces valueText) with _ | number
    · simp [hnumber] at h
    · simp only [hnumber] at h
      obtain rfl := Except.ok.inj h
      simp only [portSettings, hnumber]
      rfl
  · obtain rfl := Except.ok.inj h
    rfl
  · exact parseProxyEndpoint_ok h
  · obtain rfl := Except.ok.inj h
    rfl

/-- all of its lines, -/
theorem applyConnectLines_ok {lines : List ByteString}
    (h : applyConnectLines lines options = .ok options') :
    options'.target = (lines.flatMap lineSettings).foldl Target.set options.target := by
  induction lines generalizing options with
  | nil =>
    obtain rfl := Except.ok.inj h
    rfl
  | cons line lines ih =>
    rcases hline : applyConnectLine line options with _ | next
    · simp [applyConnectLines, hline] at h
    · simp only [applyConnectLines, hline] at h
      rw [ih h, applyConnectLine_ok hline, List.flatMap_cons, List.foldl_append]

/-- an option with a value, -/
theorem ValueOption.apply_ok {option : ValueOption} {value : ByteString}
    (h : option.apply files value options = .ok options') :
    options'.target = (option.settings files value).foldl Target.set options.target := by
  cases option with
  | port =>
    rcases hnumber : parsePort value with _ | number
    · simp [apply, hnumber] at h
    · simp only [apply, hnumber] at h
      obtain rfl := Except.ok.inj h
      simp only [settings, portSettings, hnumber]
      rfl
  | connectFile =>
    rcases hfile : files value with _ | content
    · simp [apply, loadConnectFile, hfile] at h
    · simp only [apply, loadConnectFile, hfile] at h
      simp only [settings, fileSettings, hfile, Option.getD_some]
      exact applyConnectLines_ok h
  | socks5 => exact parseProxyEndpoint_ok h
  | _ =>
    obtain rfl := Except.ok.inj h
    rfl

/-- and one without. -/
theorem applyPlain_target (argument : ByteString) (options : CommandLine) :
    (applyPlain argument options).target =
      (plainSettings argument).foldl Target.set options.target := by
  simp only [applyPlain, plainSettings]
  split_ifs <;> rfl

/-- The options after the loop are the settings, one after the other. -/
theorem parseArguments_ok {arguments : List ByteString}
    (h : parseArguments files arguments options = .ok options') :
    options'.target = (settings files arguments).foldl Target.set options.target := by
  fun_induction parseArguments files arguments options with
  | case1 options =>
    obtain rfl := Except.ok.inj h
    rfl
  | case2 argument rest options hnamed ih =>
    rw [ih h, applyPlain_target, settings]
    simp only [hnamed, List.foldl_append]
  | case3 => cases h
  | case4 => cases h
  | case5 argument options option hnamed value rest next happly ih =>
    rw [ih h, ValueOption.apply_ok happly, settings]
    simp only [hnamed, List.foldl_append]

/-! ## The last setting -/

/-- A proxy that was named has a host. -/
def Setting.Named (setting : Setting) : Prop :=
  ∀ host port, setting = .proxy (.through host port) → host ≠ []

/-- No setting of a proxy comes without a host. -/
theorem proxySettings_named (text : ByteString) : ∀ setting ∈ proxySettings text, setting.Named := by
  rcases hsplit : splitAtLast 0x3A text with _ | ⟨host, portText⟩
  · simp [proxySettings, hsplit]
  rcases hport : parsePort portText with _ | port
  · simp [proxySettings, hsplit, hport]
  rcases hempty : host.isEmpty with _ | _
  · simp only [proxySettings, hsplit, hport, hempty, Bool.false_eq_true, if_false]
    rintro setting hmem host' port' rfl
    obtain ⟨⟨rfl, rfl⟩⟩ := List.mem_singleton.mp hmem
    simpa using hempty
  · simp [proxySettings, hsplit, hport, hempty]

theorem lineSettings_named (line : ByteString) : ∀ setting ∈ lineSettings line, setting.Named := by
  rcases hsplit : splitAtFirst 0x3D line with _ | ⟨keyText, valueText⟩
  · simp [lineSettings, hsplit]
  simp only [lineSettings, hsplit]
  split_ifs
  · simp [Setting.Named]
  · simp [Setting.Named, portSettings]
  · simp [Setting.Named]
  · exact proxySettings_named _
  · simp

theorem ValueOption.settings_named (files : Files) (value : ByteString) (option : ValueOption) :
    ∀ setting ∈ option.settings files value, setting.Named := by
  cases option with
  | connectFile =>
    intro setting hmem
    obtain ⟨line, -, hline⟩ := List.mem_flatMap.mp hmem
    exact lineSettings_named line setting hline
  | socks5 => exact proxySettings_named value
  | _ => simp [settings, Setting.Named, portSettings]

theorem plainSettings_named (argument : ByteString) :
    ∀ setting ∈ plainSettings argument, setting.Named := by
  rw [plainSettings]
  split_ifs
  · simp [Setting.Named, defaultTorSocksHost, ascii]
  · simp [Setting.Named]
  · simp

/-- So none on a command line does. -/
theorem settings_named (files : Files) (arguments : List ByteString) :
    ∀ setting ∈ settings files arguments, setting.Named := by
  fun_induction settings files arguments with
  | case1 => simp
  | case2 argument rest hnamed ih =>
    intro setting hmem
    rcases List.mem_append.mp hmem with hmem | hmem
    · exact plainSettings_named argument setting hmem
    · exact ih setting hmem
  | case3 => simp
  | case4 argument option hnamed value rest ih =>
    intro setting hmem
    rcases List.mem_append.mp hmem with hmem | hmem
    · exact option.settings_named files value setting hmem
    · exact ih setting hmem

/-- And not the last one, which is what counts. -/
theorem lastProxy_named {arguments : List ByteString} {host : ByteString} {port : UInt16}
    (h : lastProxy files arguments = some (.through host port)) : host ≠ [] := by
  obtain ⟨setting, hmem, hproxy⟩ := List.mem_filterMap.mp (List.mem_of_getLast? h)
  cases setting with
  | proxy setting =>
    obtain rfl := Option.some.inj hproxy
    exact settings_named files arguments _ hmem host port rfl
  | _ => cases hproxy

/-- The options after the loop, part by part. -/
theorem parseArguments_last {arguments : List ByteString}
    (h : parseArguments files arguments {} = .ok options) :
    options.host = finalHost files arguments ∧
      options.port = (LastWrite.last Setting.port? (settings files arguments)).getD 7717 ∧
      options.serverKeyHex =
        (LastWrite.last Setting.serverKey? (settings files arguments)).getD [] ∧
      (options.socks5Host, options.socks5Port) =
        ((lastProxy files arguments).map ProxySetting.endpoint).getD ([], 0) := by
  have htarget := parseArguments_ok h
  have hendpoint : LastWrite.last (fun setting => setting.proxy?.map ProxySetting.endpoint)
      (settings files arguments) = (lastProxy files arguments).map ProxySetting.endpoint := by
    rw [lastProxy, LastWrite.last, LastWrite.last, ← List.map_filterMap, List.getLast?_map]
  have hhost := LastWrite.foldl_eq Target.set_host (target {}) (settings files arguments)
  have hport := LastWrite.foldl_eq Target.set_port (target {}) (settings files arguments)
  have hkey := LastWrite.foldl_eq Target.set_serverKey (target {}) (settings files arguments)
  have hproxy := LastWrite.foldl_eq Target.set_proxy (target {}) (settings files arguments)
  rw [← htarget] at hhost hport hkey hproxy
  rw [hendpoint] at hproxy
  exact ⟨hhost, hport, hkey, hproxy⟩

/-- The default step against the last setting of the proxy. -/
theorem parseCliOptions_ok {arguments : List ByteString} {requireCommand requireServerKey : Bool}
    (h : parseCliOptions files arguments requireCommand requireServerKey = .ok options) :
    ∃ parsed, parseArguments files arguments {} = .ok parsed ∧ options = defaultProxy parsed := by
  rcases hparsed : parseArguments files arguments {} with _ | parsed
  · simp [parseCliOptions, hparsed] at h
  · simp only [parseCliOptions, hparsed] at h
    split_ifs at h
    exact ⟨parsed, rfl, (Except.ok.inj h).symm⟩

/-- What the command line is, in terms of the last settings: a `--direct` at the
end counts like no setting at all. -/
theorem parseCliOptions_last {arguments : List ByteString} {requireCommand requireServerKey : Bool}
    (h : parseCliOptions files arguments requireCommand requireServerKey = .ok options) :
    options.host = finalHost files arguments ∧
      options.port = (LastWrite.last Setting.port? (settings files arguments)).getD 7717 ∧
      options.serverKeyHex =
        (LastWrite.last Setting.serverKey? (settings files arguments)).getD [] ∧
      (options.socks5Host, options.socks5Port) =
        match lastProxy files arguments with
        | some (.through host port) => (host, port)
        | _ =>
          if onionSuffix.isSuffixOf (finalHost files arguments) then
            (defaultTorSocksHost, defaultTorSocksPort)
          else ([], 0) := by
  obtain ⟨parsed, hparsed, rfl⟩ := parseCliOptions_ok h
  obtain ⟨hhost, hport, hkey, hproxy⟩ := parseArguments_last hparsed
  have hkept : (defaultProxy parsed).host = parsed.host ∧ (defaultProxy parsed).port = parsed.port ∧
      (defaultProxy parsed).serverKeyHex = parsed.serverKeyHex := by
    rw [defaultProxy]
    split_ifs <;> exact ⟨rfl, rfl, rfl⟩
  refine ⟨hkept.1.trans hhost, hkept.2.1.trans hport, hkept.2.2.trans hkey, ?_⟩
  have hempty : ∀ {host port}, (parsed.socks5Host, parsed.socks5Port) = (host, port) →
      ((defaultProxy parsed).socks5Host, (defaultProxy parsed).socks5Port) =
        if host.isEmpty && onionSuffix.isSuffixOf (finalHost files arguments) then
          (defaultTorSocksHost, defaultTorSocksPort)
        else (host, port) := by
    intro host port heq
    obtain ⟨rfl, rfl⟩ := Prod.mk.inj heq
    rw [defaultProxy, hhost]
    split_ifs <;> rfl
  rcases hlast : lastProxy files arguments with _ | _ | _
  · rw [hlast] at hproxy
    exact hempty hproxy
  · rename_i host port
    rw [hlast] at hproxy
    have hnamed : host.isEmpty = false := by simpa using lastProxy_named hlast
    rw [hempty hproxy, hnamed, Bool.false_and]
    rfl
  · rw [hlast] at hproxy
    exact hempty hproxy

/-- The command line follows its last settings unless the last word on the proxy
is `--direct` and the host it ends with is a `.onion` address. -/
theorem command_line_law_iff {arguments : List ByteString} {requireCommand requireServerKey : Bool}
    (h : parseCliOptions files arguments requireCommand requireServerKey = .ok options) :
    FollowsLastSetting files arguments options ↔
      ¬ (lastProxy files arguments = some .direct ∧
        onionSuffix.isSuffixOf (finalHost files arguments) = true) := by
  obtain ⟨hhost, hport, hkey, hproxy⟩ := parseCliOptions_last h
  constructor
  · rintro hfollows ⟨hdirect, honion⟩
    have hlaw := hfollows.proxy
    rw [hproxy, hdirect] at hlaw
    simp [honion, defaultTorSocksHost, ascii] at hlaw
  · intro hcondition
    refine ⟨hhost, hport, hkey, ?_⟩
    rw [hproxy]
    rcases hlast : lastProxy files arguments with _ | _ | _
    · rfl
    · rfl
    · have hplain : onionSuffix.isSuffixOf (finalHost files arguments) = false :=
        Bool.not_eq_true _ ▸ fun honion => hcondition ⟨hlast, honion⟩
      rw [hplain]
      rfl

/-- `--tor` after `--direct`, for a `.onion` host. -/
def torAfterDirect : List ByteString :=
  [ascii "--direct", ascii "--tor", ascii "--host", ascii "a.onion", ascii "--server",
    ascii "forum", ascii "whoami"]

/-- `--direct` alone, for a `.onion` host. -/
def directOnion : List ByteString :=
  [ascii "--host", ascii "a.onion", ascii "--direct", ascii "--server", ascii "forum",
    ascii "whoami"]

/-- With `--tor` last the law holds. -/
theorem tor_after_direct :
    ∃ options, parseCliOptions (fun _ => none) torAfterDirect = .ok options ∧
      FollowsLastSetting (fun _ => none) torAfterDirect options := by
  refine ⟨_, rfl, (@command_line_law_iff _ _ _ true true rfl).mpr ?_⟩
  rintro ⟨hdirect, -⟩
  cases hdirect

/-- `--direct` is the only word on the proxy, and the options go through Tor. -/
theorem direct_undone :
    ∃ options, parseCliOptions (fun _ => none) directOnion = .ok options ∧
      options.socks5Host = ascii "127.0.0.1" ∧
      ¬ FollowsLastSetting (fun _ => none) directOnion options := by
  refine ⟨_, rfl, rfl, fun h => ?_⟩
  have hlaw := congrArg Prod.fst h.proxy
  revert hlaw
  decide

end CommandLine

end HyperCom
