import HyperCom.Client.OnionServers
import HyperCom.Server.ConfigParser

/-!
# What a configuration file can say

`configText` writes a configuration down, each setting under a header of its own.
It is read back as it was if its texts are plain: one line, nothing to trim. No file
says anything else (`configurations_expressible_iff`).

The same texts go on into the file that `write_connect_file` leaves for the clients.
Nothing has to be retyped: `--connect-file` finds the host, the port and the key
(`connect_file_names_server`).

The printer is for the proof alone: the program has none. It is written key by key, as the
parser is, so that one lemma for each kind of value (a number, a port, a switch, a level, a
text) and one for each shape of line give the round trip.

One value of the defaults cannot be written, since no line gives it: a port of 0. A setting
that still has it is left out of the text (`isUnset`).
-/

namespace HyperCom

namespace ConfigParser

/-! ## Writing values -/

/-- A text that can stand behind the `=` of a line. -/
def Plain (text : ByteString) : Prop := 0x0A ∉ text ∧ trimSpaces text = text

/-- The word for a value that `parse_boolean` reads back. -/
def printBoolean (value : Bool) : ByteString := if value then ascii "true" else ascii "false"

/-- How a value of each key is written. -/
def ListenerKey.print : (key : ListenerKey) → key.Value → ByteString
  | enabled, value => printBoolean value
  | bindAddress, value | advertisedHost, value => value
  | port, value => ascii (toString value.toNat)

def LoggingKey.print : (key : LoggingKey) → key.Value → ByteString
  | level, value => describeLogLevel value
  | logPeerAddresses, value => printBoolean value
  | retentionDays, value => ascii (toString value.toNat)
  | filePath, value => value

def Key.print : (key : Key) → key.Value → ByteString
  | clearnet key, value | onion key, value => key.print value
  | limits _, value => ascii (toString value.toNat)
  | logging key, value => key.print value
  | paths _, value => value
  | registrationOpen, value => printBoolean value

/-- The texts are plain. -/
def ListenerKey.Expressible : (key : ListenerKey) → key.Value → Prop
  | bindAddress, value | advertisedHost, value => Plain value
  | enabled, _ | port, _ => True

/-- Which values can be written: numbers always, texts if they are plain. -/
def LoggingKey.Expressible : (key : LoggingKey) → key.Value → Prop
  | filePath, value => Plain value
  | level, _ | logPeerAddresses, _ | retentionDays, _ => True

def Key.Expressible : (key : Key) → key.Value → Prop
  | clearnet key, value | onion key, value => key.Expressible value
  | logging key, value => key.Expressible value
  | paths _, value => Plain value
  | limits _, _ | registrationOpen, _ => True

/-- A port that was never set. -/
def ListenerKey.isUnset : (key : ListenerKey) → key.Value → Bool
  | port, value => value == 0
  | enabled, _ | bindAddress, _ | advertisedHost, _ => false

/-- The one value a default has and no line can give. -/
def Key.isUnset : (key : Key) → key.Value → Bool
  | clearnet key, value | onion key, value => key.isUnset value
  | limits _, _ | logging _, _ | paths _, _ | registrationOpen, _ => false

/-- A setting that is left out has its default. -/
theorem Key.default_of_isUnset {key : Key} {value : key.Value} (h : key.isUnset value = true) :
    key.read .defaults = value := by
  have hlistener : ∀ (key : ListenerKey) (value : key.Value), key.isUnset value = true →
      key.read {} = value := by
    intro key value h
    cases key with
    | port => exact (beq_iff_eq.mp h).symm
    | _ => cases h
  cases key with
  | clearnet key => exact hlistener key value h
  | onion key => exact hlistener key value h
  | _ => cases h

/-! ## Reading them back -/

/-- A text is trimmed if it neither begins nor ends with a blank. -/
theorem trimSpaces_eq_self_iff {text : ByteString} :
    trimSpaces text = text ↔
      (∀ character ∈ text.head?, (character == 0x20 || character == 0x09) = false) ∧
        ∀ character ∈ text.getLast?,
          (character == 0x20 || character == 0x09 || character == 0x0D) = false :=
  TextLines.trim_eq_self_iff

/-- What the parser hands on is plain. -/
theorem plain_trimSpaces {text : ByteString} (h : 0x0A ∉ text) : Plain (trimSpaces text) :=
  ⟨fun hmem => h ((TextLines.trim_infix _ _ text).subset hmem), TextLines.trim_trim _ _ text⟩

/-- A text without blanks or ends of lines. -/
theorem plain_of_visible {text : ByteString}
    (h : (text.all fun character => character.toNat > 0x20) = true) : Plain text := by
  have hvisible : ∀ character ∈ text, character ≠ 0x0A ∧ character ≠ 0x20 ∧ character ≠ 0x09 ∧
      character ≠ 0x0D := by
    intro character hmem
    have hlarge := of_decide_eq_true (List.all_eq_true.mp h character hmem)
    refine ⟨?_, ?_, ?_, ?_⟩ <;> (rintro rfl; revert hlarge; decide)
  refine ⟨fun hmem => (hvisible _ hmem).1 rfl, trimSpaces_eq_self_iff.mpr ⟨?_, ?_⟩⟩
  · intro character hmem
    have hother := hvisible character (List.mem_of_mem_head? hmem)
    simp [hother.2.1, hother.2.2.1]
  · intro character hmem
    have hother := hvisible character (List.mem_of_getLast? hmem)
    simp [hother.2.1, hother.2.2.1, hother.2.2.2]

/-- Digits are plain. -/
theorem plain_printed (n : ℕ) : Plain (ascii (toString n)) :=
  plain_of_visible <| List.all_eq_true.mpr fun character hmem => by
    have := (printed_number n).1 character hmem
    exact decide_eq_true (by omega)

/-- The values are read back, one kind after the other. -/
theorem parseUnsigned_printed (value target : UInt32) :
    parseUnsigned (ascii (toString value.toNat)) target = (true, value) := by
  obtain ⟨hdigits, hvalue⟩ := printed_number value.toNat
  have hall : ∀ digit ∈ ascii (toString value.toNat), isDecimalDigit digit = true :=
    fun digit hmem => isDecimalDigit_iff.mpr (hdigits digit hmem)
  have htake : (ascii (toString value.toNat)).takeWhile isDecimalDigit =
      ascii (toString value.toNat) := List.takeWhile_eq_self_iff.mpr hall
  have hbound : value.toNat < 2 ^ 32 := value.toNat_lt
  have hfits : ¬ ((ascii (toString value.toNat)).isEmpty = true ∨ value.toNat ≥ 2 ^ 32) := by
    rw [List.isEmpty_iff]
    exact not_or.mpr ⟨printed_number_ne_nil _, by omega⟩
  rw [parseUnsigned]
  simp only [htake, hvalue, if_neg hfits, beq_self_eq_true, UInt32.ofNat_toNat]

/-- A port is not 0. -/
theorem parseListenerPort_printed {value : UInt16} (target : UInt16) (h : value ≠ 0) :
    parseListenerPort (ascii (toString value.toNat)) target = (true, value) := by
  have hwide : value.toUInt32.toNat = value.toNat := UInt16.toNat_toUInt32 value
  have hbound : value.toNat < 65536 := value.toNat_lt
  have hpositive : value.toUInt32 ≠ 0 := by
    rw [ne_eq, ← UInt32.toNat_inj, hwide]
    exact fun hzero => h (UInt16.toNat_inj.mp hzero)
  have hsmall : ¬ value.toUInt32 > 65535 := by
    rw [gt_iff_lt, UInt32.lt_iff_toNat_lt, hwide, not_lt]
    exact Nat.le_of_lt_succ hbound
  rw [parseListenerPort, ← hwide, parseUnsigned_printed]
  simp [hpositive, hsmall]

theorem parseBoolean_printed (value : Bool) : parseBoolean (printBoolean value) = some value := by
  cases value <;> decide

theorem parseLogLevel_described (level : LogLevel) :
    parseLogLevel (describeLogLevel level) = some level := by
  cases level <;> decide

/-- What is written for a value is that value. -/
theorem Key.parse_print {key : Key} {value : key.Value} (hset : key.isUnset value = false) :
    key.parse (key.print value) = some value := by
  have hlistener : ∀ (key : ListenerKey) (value target : key.Value), key.isUnset value = false →
      key.parseInto (key.print value) target = (true, value) := by
    intro key value target hset
    cases key with
    | enabled => simp [ListenerKey.parseInto, ListenerKey.print, parseBoolean_printed, intoTarget]
    | bindAddress => rfl
    | advertisedHost => rfl
    | port => exact parseListenerPort_printed target (by simpa [ListenerKey.isUnset] using hset)
  suffices h : key.parseInto (key.print value) (key.read .defaults) = (true, value) by
    rw [Key.parse, h]
    rfl
  cases key with
  | clearnet key => exact hlistener key value _ hset
  | onion key => exact hlistener key value _ hset
  | limits key => exact parseUnsigned_printed value _
  | logging key =>
    cases key with
    | level =>
      simp [Key.parseInto, Key.print, LoggingKey.parseInto, LoggingKey.print,
        parseLogLevel_described, intoTarget]
    | logPeerAddresses =>
      simp [Key.parseInto, Key.print, LoggingKey.parseInto, LoggingKey.print, parseBoolean_printed,
        intoTarget]
    | retentionDays => exact parseUnsigned_printed value _
    | filePath => rfl
  | paths key => rfl
  | registrationOpen => simp [Key.parseInto, Key.print, parseBoolean_printed, intoTarget]

/-- `true` and `false`. -/
theorem plain_printBoolean (value : Bool) : Plain (printBoolean value) := by
  cases value <;> exact plain_of_visible (by decide)

/-- It can stand on one line if the texts can. -/
theorem Key.plain_print {key : Key} {value : key.Value} (h : key.Expressible value) :
    Plain (key.print value) := by
  have hlistener : ∀ (key : ListenerKey) (value : key.Value), key.Expressible value →
      Plain (key.print value) := by
    intro key value h
    cases key with
    | enabled => exact plain_printBoolean value
    | bindAddress => exact h
    | advertisedHost => exact h
    | port => exact plain_printed _
  cases key with
  | clearnet key => exact hlistener key value h
  | onion key => exact hlistener key value h
  | limits key => exact plain_printed _
  | logging key =>
    cases key with
    | level => cases value <;> exact plain_of_visible (by decide)
    | logPeerAddresses => exact plain_printBoolean value
    | retentionDays => exact plain_printed _
    | filePath => exact h
  | paths key => exact h
  | registrationOpen => exact plain_printBoolean value

/-- What is read is expressible. -/
theorem Key.expressible_of_parse {key : Key} {text : ByteString} {value : key.Value}
    (htext : Plain text) (h : key.parse text = some value) : key.Expressible value := by
  have hlistener : ∀ (key : ListenerKey) (value target : key.Value),
      key.parseInto text target = (true, value) → key.Expressible value := by
    intro key value target h
    cases key with
    | enabled => trivial
    | bindAddress => exact (Prod.mk.inj h).2 ▸ htext
    | advertisedHost => exact (Prod.mk.inj h).2 ▸ htext
    | port => trivial
  have hinto : key.parseInto text (key.read .defaults) = (true, value) := by
    rw [Key.parse, Option.ite_none_right_eq_some, Option.some.injEq] at h
    exact Prod.ext h.1 h.2
  cases key with
  | clearnet key => exact hlistener key value _ hinto
  | onion key => exact hlistener key value _ hinto
  | limits key => trivial
  | logging key =>
    cases key with
    | filePath => exact (Prod.mk.inj hinto).2 ▸ htext
    | _ => trivial
  | paths key => exact (Prod.mk.inj hinto).2 ▸ htext
  | registrationOpen => trivial

/-! ## Writing lines -/

/-- The names under which the keys stand in a file. -/
def ListenerKey.nameText : ListenerKey → ByteString
  | enabled => ascii "enabled"
  | bindAddress => ascii "bind_address"
  | advertisedHost => ascii "advertised_host"
  | port => ascii "port"

def LimitKey.nameText : LimitKey → ByteString
  | maxConnections => ascii "max_connections"
  | maxConnectionsPerAddress => ascii "max_connections_per_address"
  | maxFrameSize => ascii "max_frame_size"
  | handshakeTimeoutSeconds => ascii "handshake_timeout_seconds"
  | idleTimeoutSeconds => ascii "idle_timeout_seconds"
  | requestsPerMinutePerAddress => ascii "requests_per_minute_per_address"
  | requestsPerMinutePerIdentity => ascii "requests_per_minute_per_identity"

def LoggingKey.nameText : LoggingKey → ByteString
  | level => ascii "level"
  | logPeerAddresses => ascii "log_peer_addresses"
  | retentionDays => ascii "retention_days"
  | filePath => ascii "file_path"

def PathKey.nameText : PathKey → ByteString
  | database => ascii "database"
  | migrations => ascii "migrations"
  | serverKey => ascii "server_key"
  | adminSocket => ascii "admin_socket"
  | connectFile => ascii "connect_file"

def Key.nameText : Key → ByteString
  | clearnet key | onion key => key.nameText
  | limits key => key.nameText
  | logging key => key.nameText
  | paths key => key.nameText
  | registrationOpen => ascii "registration_open"

/-- And the sections. -/
def Key.sectionText : Key → ByteString
  | clearnet _ => ascii "clearnet"
  | onion _ => ascii "onion"
  | limits _ => ascii "limits"
  | logging _ => ascii "logging"
  | paths _ => ascii "paths"
  | registrationOpen => ascii "server"

/-- All keys, to write them one after another. -/
def listenerKeys : List ListenerKey := [.enabled, .bindAddress, .advertisedHost, .port]

/-- All keys. -/
def allKeys : List Key :=
  listenerKeys.map .clearnet ++ listenerKeys.map .onion ++
    [LimitKey.maxConnections, .maxConnectionsPerAddress, .maxFrameSize, .handshakeTimeoutSeconds,
      .idleTimeoutSeconds, .requestsPerMinutePerAddress,
      .requestsPerMinutePerIdentity].map .limits ++
    [LoggingKey.level, .logPeerAddresses, .retentionDays, .filePath].map .logging ++
    [PathKey.database, .migrations, .serverKey, .adminSocket, .connectFile].map .paths ++
    [.registrationOpen]

/-- None is forgotten. -/
theorem mem_allKeys (key : Key) : key ∈ allKeys := by
  rcases key with key | key | key | key | key | _ <;> try cases key
  all_goals decide

/-- Section and name lead back to the key. -/
theorem Key.named_texts (key : Key) : Key.named key.sectionText key.nameText = some key := by
  rcases key with key | key | key | key | key | _ <;> try cases key
  all_goals decide

/-- Names are small letters and underscores. -/
theorem Key.nameText_letters (key : Key) :
    key.nameText ≠ [] ∧ ∀ character ∈ key.nameText, character.toNat ≥ 0x5F := by
  have hletters : key.nameText ≠ [] ∧
      (key.nameText.all fun character => character.toNat ≥ 0x5F) = true := by
    rcases key with key | key | key | key | key | _ <;> try cases key
    all_goals decide
  exact ⟨hletters.1, fun character hmem =>
    of_decide_eq_true (List.all_eq_true.mp hletters.2 character hmem)⟩

/-- A section fits its header. -/
theorem Key.sectionText_letters (key : Key) :
    key.sectionText ≠ [] ∧ 0x0A ∉ key.sectionText := by
  rcases key with key | key | key | key | key | _ <;> try cases key
  all_goals decide

/-- A setting under a header of its own. -/
def Setting.lines (setting : Setting) : List ByteString :=
  [0x5B :: setting.key.sectionText ++ [0x5D],
    setting.key.nameText ++ 0x3D :: setting.key.print setting.value]

/-- The settings of a configuration. -/
def Configuration.settings (config : Configuration) : List Setting :=
  allKeys.filterMap fun key =>
    if key.isUnset (key.read config) then none else some ⟨key, key.read config⟩

/-- A configuration as a file. -/
def configText (config : Configuration) : ByteString :=
  [0x0A].intercalate (config.settings.flatMap Setting.lines)

/-! ## Reading lines back -/

section Lines

variable {setting : Setting} (start : ByteString)

/-- A header is a line that has nothing to trim, -/
theorem trimSpaces_header (sectionName : ByteString) :
    trimSpaces (0x5B :: sectionName ++ [0x5D]) = 0x5B :: sectionName ++ [0x5D] := by
  rw [trimSpaces_eq_self_iff]
  constructor
  · rintro character hmem
    obtain rfl : 0x5B = character := Option.some.inj hmem
    decide
  · rintro character hmem
    rw [List.getLast?_concat] at hmem
    obtain rfl : 0x5D = character := Option.some.inj hmem
    decide

/-- is recognised as a header, -/
theorem header_header (sectionName : ByteString) :
    header (0x5B :: sectionName ++ [0x5D]) = some sectionName := by
  have hlast : (0x5B :: sectionName ++ [0x5D] : ByteString).getLast? = some 0x5D :=
    List.getLast?_concat
  rw [header, trimSpaces_header]
  simp only [hlast, and_true]
  simp

/-- sets nothing, -/
theorem lineSetting_header (sectionName : ByteString) :
    lineSetting start (0x5B :: sectionName ++ [0x5D]) = none := by
  rw [lineSetting, assignment, trimSpaces_header]
  simp

/-- and is no error. -/
theorem lineError_header (sectionName : ByteString) :
    lineError start (0x5B :: sectionName ++ [0x5D]) = none := by
  rw [lineError, header_header]
  simp

/-- The assignment of a setting, as the parser sees it. -/
theorem assignment_line (hexpressible : setting.key.Expressible setting.value) :
    assignment (setting.key.nameText ++ 0x3D :: setting.key.print setting.value) =
        some (setting.key.nameText, setting.key.print setting.value) ∧
      header (setting.key.nameText ++ 0x3D :: setting.key.print setting.value) = none := by
  obtain ⟨hne, hletters⟩ := setting.key.nameText_letters
  have hvalue : Plain (setting.key.print setting.value) := Key.plain_print hexpressible
  generalize setting.key.print setting.value = value at hvalue
  have hname : Plain setting.key.nameText :=
    plain_of_visible <| List.all_eq_true.mpr fun character hmem => by
      have := hletters character hmem
      exact decide_eq_true (by omega)
  have hequals : 0x3D ∉ setting.key.nameText := fun hmem =>
    absurd (hletters _ hmem) (by decide)
  generalize setting.key.nameText = name at hne hletters hname hequals
  obtain ⟨first, rest, rfl⟩ := List.exists_cons_of_ne_nil hne
  have hfirst : first.toNat ≥ 0x5F := hletters first List.mem_cons_self
  have hother : first ≠ 0x23 ∧ first ≠ 0x5B := by
    constructor <;> (rintro rfl; revert hfirst; decide)
  have htrimmed : trimSpaces (first :: rest ++ 0x3D :: value) = first :: rest ++ 0x3D :: value := by
    rw [trimSpaces_eq_self_iff]
    refine ⟨(trimSpaces_eq_self_iff.mp hname.2).1, fun character hmem => ?_⟩
    rw [List.getLast?_append_cons, List.getLast?_cons] at hmem
    rcases hlast : value.getLast? with _ | last
    · obtain rfl : 0x3D = character := by simpa [hlast] using hmem
      decide
    · obtain rfl : last = character := by simpa [hlast] using hmem
      exact (trimSpaces_eq_self_iff.mp hvalue.2).2 _ hlast
  have hsplit : splitAtFirst 0x3D (first :: rest ++ 0x3D :: value) = some (first :: rest, value) :=
    splitAtFirst_eq_some_iff.mpr ⟨rfl, hequals⟩
  rw [assignment, header, htrimmed]
  simp only [hsplit, Option.map_some, hname.2, hvalue.2]
  simp [hother.1, hother.2]

/-- A line that was written is read as the setting it is from. -/
theorem settingOf_texts (hset : setting.key.isUnset setting.value = false) :
    settingOf setting.key.sectionText setting.key.nameText (setting.key.print setting.value) =
      some setting := by
  rw [settingOf, Key.named_texts, Option.bind_some, Key.parse_print hset, Option.map_some]

/-- The lines of some settings are these settings, and nothing is wrong with them. -/
theorem inSections_lines {chosen : List Setting}
    (hset : ∀ setting ∈ chosen, setting.key.isUnset setting.value = false)
    (hexpressible : ∀ setting ∈ chosen, setting.key.Expressible setting.value) (lineNumber : ℕ) :
    settings (inSections start (chosen.flatMap Setting.lines)) = chosen ∧
      report lineNumber (inSections start (chosen.flatMap Setting.lines)) = [] := by
  induction chosen generalizing start lineNumber with
  | nil => exact ⟨rfl, rfl⟩
  | cons setting chosen ih =>
    rw [List.forall_mem_cons] at hset hexpressible
    obtain ⟨hassigned, hheader⟩ := assignment_line hexpressible.1
    have hfound := settingOf_texts hset.1
    have hsetting : lineSetting setting.key.sectionText
        (setting.key.nameText ++ 0x3D :: setting.key.print setting.value) = some setting := by
      rw [lineSetting, if_neg setting.key.sectionText_letters.1, hassigned]
      exact hfound
    have herror : lineError setting.key.sectionText
        (setting.key.nameText ++ 0x3D :: setting.key.print setting.value) = none := by
      have hopen : (trimSpaces (setting.key.nameText ++ 0x3D :: setting.key.print
          setting.value)).head? ≠ some 0x5B := by
        intro hopen
        rw [assignment, if_pos (.inr hopen)] at hassigned
        cases hassigned
      rw [lineError]
      simp only [hassigned, hfound, if_neg hopen, if_neg setting.key.sectionText_letters.1]
      simp
    obtain ⟨hrest, hreport⟩ :=
      ih setting.key.sectionText hset.2 hexpressible.2 (lineNumber + 1 + 1)
    have hlines : (setting :: chosen).flatMap Setting.lines =
        (0x5B :: setting.key.sectionText ++ [0x5D]) ::
          (setting.key.nameText ++ 0x3D :: setting.key.print setting.value) ::
            chosen.flatMap Setting.lines := rfl
    rw [hlines, inSections_cons, header_header, Option.getD_some, inSections_cons, hheader,
      Option.getD_none]
    constructor
    · rw [settings_cons, settings_cons, lineSetting_header, hsetting, hrest]
      rfl
    · rw [report_cons, report_cons, lineError_header, herror, hreport]
      rfl

/-- What is written for a setting is as many lines as it looks. -/
theorem newline_notMem_lines (hexpressible : setting.key.Expressible setting.value) :
    ∀ line ∈ setting.lines, 0x0A ∉ line := by
  have hname : 0x0A ∉ setting.key.nameText := fun hmem =>
    absurd (setting.key.nameText_letters.2 _ hmem) (by decide)
  have hvalue := (Key.plain_print hexpressible).1
  have hsection := setting.key.sectionText_letters.2
  rw [Setting.lines]
  simp [hname, hvalue, hsection]

end Lines

/-! ## Configurations and files -/

section Configurations

variable {config : Configuration}

/-- A configuration is written as the settings that are not at their defaults. -/
theorem Configuration.mem_settings {setting : Setting} :
    setting ∈ config.settings ↔ setting.key.isUnset setting.value = false ∧
      setting.value = setting.key.read config := by
  rw [Configuration.settings, List.mem_filterMap]
  constructor
  · rintro ⟨key, -, hkey⟩
    rw [Option.ite_none_left_eq_some, Option.some.injEq] at hkey
    obtain ⟨hset, rfl⟩ := hkey
    exact ⟨Bool.not_eq_true _ ▸ hset, rfl⟩
  · obtain ⟨key, value⟩ := setting
    rintro ⟨hset, hvalue⟩
    obtain rfl : value = key.read config := hvalue
    exact ⟨key, mem_allKeys key, by simp [hset]⟩

/-- The settings of a configuration give each key its value. -/
theorem Configuration.last_settings (key : Key) :
    (LastWrite.last (Setting.of key) config.settings).getD (key.read .defaults) =
      key.read config := by
  rcases hset : key.isUnset (key.read config) with _ | _
  · have hmem : (⟨key, key.read config⟩ : Setting) ∈ config.settings :=
      Configuration.mem_settings.mpr ⟨hset, rfl⟩
    have hwritten : (⟨key, key.read config⟩ : Setting).of key = some (key.read config) :=
      dif_pos rfl
    rw [LastWrite.last_eq_some_of_unique ⟨_, hmem, hwritten⟩, Option.getD_some]
    rintro ⟨written, value⟩ hsetting other hother
    rw [Setting.of, Option.dite_none_right_eq_some] at hother
    obtain ⟨rfl, hother⟩ := hother
    obtain rfl := Option.some.inj hother
    exact (Configuration.mem_settings.mp hsetting).2
  · -- a port that was never set: no line for it
    have hnone : LastWrite.last (Setting.of key) config.settings = none := by
      rw [LastWrite.last_eq_none_iff]
      rintro ⟨written, value⟩ hmem
      obtain ⟨hwritten, hvalue⟩ := Configuration.mem_settings.mp hmem
      refine dif_neg ?_
      rintro rfl
      obtain rfl : value = written.read config := hvalue
      rw [hset] at hwritten
      cases hwritten
    rw [hnone, Option.getD_none, Key.default_of_isUnset hset]

/-- A configuration of plain texts is read back from its file as it was. -/
theorem parseConfigText_configText (h : ∀ key : Key, key.Expressible (key.read config)) :
    parseConfigText (configText config) .defaults = (true, config, []) := by
  have hset : ∀ setting ∈ config.settings, setting.key.isUnset setting.value = false :=
    fun setting hmem => (Configuration.mem_settings.mp hmem).1
  have hexpressible : ∀ setting ∈ config.settings, setting.key.Expressible setting.value := by
    intro setting hmem
    rw [(Configuration.mem_settings.mp hmem).2]
    exact h setting.key
  have hlines : (configText config).splitOn 0x0A = config.settings.flatMap Setting.lines := by
    refine List.splitOn_intercalate _ (fun line hline => ?_) ?_
    · obtain ⟨setting, hmem, hline⟩ := List.mem_flatMap.mp hline
      exact newline_notMem_lines (hexpressible setting hmem) line hline
    · have hmem : (⟨.registrationOpen, config.registrationOpen⟩ : Setting) ∈ config.settings :=
        Configuration.mem_settings.mpr ⟨rfl, rfl⟩
      exact fun hnil => absurd (List.mem_flatMap.mpr ⟨_, hmem, List.mem_cons_self⟩)
        (hnil ▸ List.not_mem_nil)
  obtain ⟨hsettings, hreport⟩ := inSections_lines [] hset hexpressible 1
  rw [← hlines] at hsettings hreport
  have haccepted : (parseConfigText (configText config) .defaults).1 = true :=
    parseConfigText_accepted_iff.mpr hreport
  have herrors := parseConfigText_errors (configText config) .defaults []
  rw [textLines, hreport] at herrors
  have hconfig : (parseConfigText (configText config) .defaults).2.1 = config := by
    refine Key.ext fun key => ?_
    rw [parseConfigText_last haccepted, textLines, hsettings, Configuration.last_settings]
  exact Prod.ext haccepted (Prod.ext hconfig herrors)

/-- Conversely, what a line sets can be written. -/
theorem expressible_lineSetting {sectionName line : ByteString} {setting : Setting}
    (hline : 0x0A ∉ line) (h : lineSetting sectionName line = some setting) :
    setting.key.Expressible setting.value := by
  rw [lineSetting, Option.ite_none_left_eq_some, Option.bind_eq_some_iff] at h
  obtain ⟨-, ⟨keyText, valueText⟩, hassigned, hsetting⟩ := h
  rw [assignment, Option.ite_none_left_eq_some, Option.map_eq_some_iff] at hassigned
  obtain ⟨-, ⟨before, after⟩, hsplit, hhalves⟩ := hassigned
  obtain ⟨rfl, rfl⟩ := Prod.mk.inj hhalves
  have hafter : 0x0A ∉ after := by
    intro hmem
    have hinside : 0x0A ∈ trimSpaces line := by
      rw [(splitAtFirst_eq_some_iff.mp hsplit).1]
      exact List.mem_append_right _ (List.mem_cons_of_mem _ hmem)
    exact hline ((TextLines.trim_infix _ _ line).subset hinside)
  change settingOf sectionName (trimSpaces before) (trimSpaces after) = some setting at hsetting
  rw [settingOf, Option.bind_eq_some_iff] at hsetting
  obtain ⟨key, -, hparsed⟩ := hsetting
  obtain ⟨value, hvalue, rfl⟩ := Option.map_eq_some_iff.mp hparsed
  exact Key.expressible_of_parse (plain_trimSpaces hafter) hvalue

/-- The texts of what is read are plain. -/
theorem parseConfigText_expressible {text : ByteString}
    (haccepted : (parseConfigText text .defaults).1 = true) (key : Key) :
    key.Expressible (key.read (parseConfigText text .defaults).2.1) := by
  rw [parseConfigText_last haccepted]
  rcases hlast : LastWrite.last (Setting.of key) (settings (textLines text)) with _ | value
  · rcases key with key | key | key | key | key | _ <;> try cases key
    all_goals trivial
  · obtain ⟨⟨written, value'⟩, hmem, hvalue⟩ := LastWrite.exists_mem_of_last hlast
    rw [Setting.of, Option.dite_none_right_eq_some] at hvalue
    obtain ⟨rfl, hvalue⟩ := hvalue
    obtain rfl := Option.some.inj hvalue
    obtain ⟨⟨sectionName, line⟩, hline, hsetting⟩ := List.mem_filterMap.mp hmem
    obtain ⟨⟨line', index⟩, hzip, hentry⟩ := List.mem_map.mp hline
    obtain ⟨-, rfl⟩ := Prod.mk.inj hentry
    exact expressible_lineSetting
      (TextLines.newline_notMem_splitOn line' (List.fst_mem_of_mem_zipIdx hzip))
      hsetting

/-- What a file can say: a configuration is that of some file exactly if its addresses and
paths are one line each with no blank at the ends. -/
theorem configurations_expressible_iff :
    (∃ text, parseConfigText text .defaults = (true, config, [])) ↔
      ∀ key : Key, key.Expressible (key.read config) := by
  constructor
  · rintro ⟨text, hparsed⟩ key
    have haccepted : (parseConfigText text .defaults).1 = true := by rw [hparsed]
    have hexpressible := parseConfigText_expressible haccepted key
    rw [hparsed] at hexpressible
    exact hexpressible
  · exact fun h => ⟨configText config, parseConfigText_configText h⟩

end Configurations

/-! ## The connect file -/

/-- The host of `write_connect_file`. -/
def Configuration.reachableHost (config : Configuration) : ByteString :=
  if config.clearnet.advertisedHost.isEmpty then config.clearnet.bindAddress
  else config.clearnet.advertisedHost

/-- What `write_connect_file` writes. -/
def connectFileText (config : Configuration) (publicKey : X25519PublicKey) : ByteString :=
  ascii "host=" ++ config.reachableHost ++ ascii "\n" ++
    ascii "port=" ++ ascii (toString config.clearnet.port.toNat) ++ ascii "\n" ++
    ascii "server_key=" ++ encodeHex publicKey.1 ++ ascii "\n"

/-- `write_connect_file`, if the file can be opened or not. -/
def writeConnectFile (config : Configuration) (publicKey : X25519PublicKey) (opens : Bool)
    (files : Files) : Files :=
  if config.paths.connectFilePath.isEmpty || !config.clearnet.enabled then files
  else if !opens then files
  else fun path =>
    if path = config.paths.connectFilePath then some (connectFileText config publicKey)
    else files path

/-- `std::getline` on a line that ends. -/
theorem linesFrom_line {text : ByteString} (h : 0x0A ∉ text) (line rest : ByteString) :
    CommandLine.linesFrom line (text ++ 0x0A :: rest) =
      (line ++ text) :: CommandLine.linesFrom [] rest := by
  induction text generalizing line with
  | nil => simp [CommandLine.linesFrom]
  | cons character text ih =>
    rw [List.mem_cons, not_or] at h
    rw [List.cons_append, CommandLine.linesFrom, if_neg (Ne.symm h.1), ih h.2, List.append_assoc,
      List.singleton_append]

/-- The port of the client's `parse_port`, as the server prints it. -/
theorem parsePort_printed {port : UInt16} (h : port ≠ 0) :
    CommandLine.parsePort (ascii (toString port.toNat)) = some port := by
  obtain ⟨hdigits, hvalue⟩ := printed_number port.toNat
  have htake : (ascii (toString port.toNat)).takeWhile isDecimalDigit =
      ascii (toString port.toNat) := List.takeWhile_eq_self_iff.mpr fun digit hmem =>
    isDecimalDigit_iff.mpr (hdigits digit hmem)
  have hbound : port.toNat < 65536 := port.toNat_lt
  have hpositive : port.toNat ≠ 0 := fun hzero => h (UInt16.toNat_inj.mp hzero)
  have hfits : ¬ ((ascii (toString port.toNat)).isEmpty = true ∨ port.toNat = 0 ∨
      port.toNat > 65535) := by
    rw [List.isEmpty_iff]
    have hne := printed_number_ne_nil port.toNat
    simp only [hne, false_or]
    omega
  rw [CommandLine.parsePort]
  simp only [htake, hvalue, if_neg hfits, UInt16.ofNat_toNat]

/-- The key of the server is written in hexadecimal. -/
theorem plain_encodeHex (input : ByteString) : Plain (encodeHex input) := by
  have hall : ∀ n : Fin 256,
      ((hexPair (UInt8.ofNat n)).all fun character => character.toNat > 0x20) = true := by
    decide +kernel
  refine plain_of_visible <| List.all_eq_true.mpr fun character hmem => ?_
  obtain ⟨source, -, hbyte⟩ := List.mem_flatMap.mp hmem
  have hpair := hall ⟨source.toNat, source.toNat_lt⟩
  rw [UInt8.ofNat_toNat] at hpair
  exact List.all_eq_true.mp hpair character hbyte

/-- A line of the connect file, whatever its key. -/
theorem splitAtFirst_line {key value : ByteString} (h : 0x3D ∉ key) :
    splitAtFirst 0x3D (key ++ ascii "=" ++ value) = some (key, value) :=
  splitAtFirst_eq_some_iff.mpr ⟨by rw [List.append_assoc]; rfl, h⟩

/-- The file as the client reads it. -/
theorem loadConnectFile_text {config : Configuration} {files : Files} {path : ByteString}
    {publicKey : X25519PublicKey} (hhost : Plain config.reachableHost)
    (hport : config.clearnet.port ≠ 0)
    (hfile : files path = some (connectFileText config publicKey)) (options : CommandLine) :
    CommandLine.loadConnectFile files path options = .ok { options with
      host := config.reachableHost
      port := config.clearnet.port
      serverKeyHex := encodeHex publicKey.1 } := by
  have hkey := plain_encodeHex publicKey.1
  have hnumber := plain_printed config.clearnet.port.toNat
  have hlines : CommandLine.linesFrom [] (connectFileText config publicKey) =
      [ascii "host" ++ ascii "=" ++ config.reachableHost,
        ascii "port" ++ ascii "=" ++ ascii (toString config.clearnet.port.toNat),
        ascii "server_key" ++ ascii "=" ++ encodeHex publicKey.1] := by
    have hname : ∀ {name value : ByteString}, 0x0A ∉ name → Plain value →
        0x0A ∉ name ++ ascii "=" ++ value := by
      intro name value hname hvalue hmem
      simp only [List.mem_append] at hmem
      rcases hmem with (hmem | hmem) | hmem
      · exact hname hmem
      · exact absurd hmem (by decide)
      · exact hvalue.1 hmem
    have htext : connectFileText config publicKey =
        (ascii "host" ++ ascii "=" ++ config.reachableHost) ++ 0x0A ::
          ((ascii "port" ++ ascii "=" ++ ascii (toString config.clearnet.port.toNat)) ++ 0x0A ::
            ((ascii "server_key" ++ ascii "=" ++ encodeHex publicKey.1) ++ 0x0A :: [])) := by
      simp [connectFileText, ascii, List.append_assoc]
    rw [htext, linesFrom_line (hname (by decide) hhost), linesFrom_line (hname (by decide) hnumber),
      linesFrom_line (hname (by decide) hkey)]
    rfl
  have hread := parsePort_printed hport
  have htrim : ∀ {text : ByteString}, Plain text → CommandLine.trimSpaces text = text :=
    fun h => h.2
  rw [CommandLine.loadConnectFile]
  simp only [hfile, hlines, CommandLine.applyConnectLines, CommandLine.applyConnectLine]
  rw [splitAtFirst_line (by decide)]
  simp only [htrim (plain_of_visible (by decide) : Plain (ascii "host")), if_true,
    htrim hhost]
  rw [splitAtFirst_line (by decide)]
  simp only [htrim (plain_of_visible (by decide) : Plain (ascii "port")), htrim hnumber,
    hread]
  rw [splitAtFirst_line (by decide)]
  simp only [htrim (plain_of_visible (by decide) : Plain (ascii "server_key")), htrim hkey]
  rfl

/-- A configuration the server starts on was read without an error and found without a
problem. -/
theorem loadValidatedConfig_some {files : Files} {path printed : ByteString}
    {config : Configuration} (h : loadValidatedConfig files path = (some config, printed)) :
    ∃ text, files path = some text ∧ (parseConfigText text .defaults).1 = true ∧
      (parseConfigText text .defaults).2.1 = config ∧ configProblems config.checked = [] := by
  rcases hfile : files path with _ | text
  · simp [loadValidatedConfig, parseConfigFile, hfile] at h
  rcases hparsed : parseConfigText text .defaults with ⟨accepted, parsed, errors⟩
  cases accepted with
  | false => simp [loadValidatedConfig, parseConfigFile, hfile, hparsed] at h
  | true =>
    rcases hproblems : (configProblems parsed.checked).isEmpty with _ | _
    · simp [loadValidatedConfig, parseConfigFile, hfile, hparsed, validateConfig, hproblems] at h
    · simp only [loadValidatedConfig, parseConfigFile, hfile, hparsed, validateConfig, hproblems,
        if_true] at h
      obtain ⟨hconfig, -⟩ := Prod.mk.inj h
      obtain rfl := Option.some.inj hconfig
      exact ⟨text, rfl, by rw [hparsed], by rw [hparsed], List.isEmpty_iff.mp hproblems⟩

/-- A listener that is checked has an address and a port. -/
theorem checkListener_eq_nil {listener : ListenerConfig} {name : ByteString}
    (henabled : listener.enabled = true) (h : checkListener listener name = []) :
    listener.bindAddress ≠ [] ∧ listener.port ≠ 0 := by
  rw [checkListener, henabled] at h
  simp only [Bool.not_true, Bool.false_eq_true, if_false, List.append_eq_nil_iff,
    ite_eq_right_iff] at h
  refine ⟨fun hempty => ?_, fun hzero => ?_⟩
  · exact absurd (h.1 (List.isEmpty_iff.mpr hempty)) (by simp)
  · exact absurd (h.2 hzero) (by simp)

section Client

variable [Sodium]

/-- The file the server leaves for its clients says where it is and which key it has. From
whatever file the server was configured, and whatever else stands on the client's command
line, the client that reads it resolves the server to the advertised address, the port of the
listener and the server's own key. -/
theorem connect_file_names_server {files disk : Files} {path printed : ByteString}
    {config : Configuration} (hloaded : loadValidatedConfig files path = (some config, printed))
    (henabled : config.clearnet.enabled = true) (hpath : config.paths.connectFilePath ≠ [])
    (publicKey : X25519PublicKey) {options : CommandLine} (hlabel : options.serverLabel = []) :
    ∃ found, CommandLine.loadConnectFile (writeConnectFile config publicKey true disk)
        config.paths.connectFilePath options = .ok found ∧
      ∀ (passphrase : ByteString) (clientFiles : Files), ∃ entry,
        resolveServer found passphrase clientFiles = .ok entry ∧ entry.serverKey = publicKey ∧
          entry.endpoint = {
            host := config.reachableHost
            port := config.clearnet.port
            socks5Host := options.socks5Host
            socks5Port := options.socks5Port } ∧
          entry.endpoint.host ≠ [] ∧ entry.endpoint.port ≠ 0 := by
  obtain ⟨text, -, haccepted, rfl, hproblems⟩ := loadValidatedConfig_some hloaded
  generalize hconfig : (parseConfigText text .defaults).2.1 = config at *
  have hplain : ∀ key : Key, key.Expressible (key.read config) := by
    rw [← hconfig]
    exact parseConfigText_expressible haccepted
  have hlistener : checkListener config.clearnet.toListenerConfig (ascii "clearnet") = [] := by
    simp only [configProblems, List.append_eq_nil_iff] at hproblems
    exact hproblems.1.1.1.1.2
  obtain ⟨hbound, hport⟩ := checkListener_eq_nil henabled hlistener
  have hhost : Plain config.reachableHost ∧ config.reachableHost ≠ [] := by
    rw [Configuration.reachableHost]
    split_ifs with hadvertised
    · exact ⟨hplain (.clearnet .bindAddress), hbound⟩
    · exact ⟨hplain (.clearnet .advertisedHost), fun hempty => hadvertised (by simp [hempty])⟩
  have hwritten : writeConnectFile config publicKey true disk config.paths.connectFilePath =
      some (connectFileText config publicKey) := by
    have hkept : ¬ (config.paths.connectFilePath.isEmpty || !config.clearnet.enabled) = true := by
      simp [hpath, henabled]
    rw [writeConnectFile, if_neg hkept]
    simp
  refine ⟨_, loadConnectFile_text hhost.1 hport hwritten options, fun passphrase clientFiles => ?_⟩
  have hkey : decodeKey (encodeHex publicKey.1) = some publicKey := by
    rw [decodeKey, decodeHex_encodeHex]
    exact dif_pos publicKey.2
  simp only [resolveServer, hlabel, hkey]
  exact ⟨_, rfl, rfl, rfl, hhost.2, hport⟩

end Client

/-- A server behind all interfaces that says which name it has. -/
def publicServerText : ByteString :=
  ascii "[clearnet]\nenabled = yes\nbind_address = 0.0.0.0\nport = 7717\n" ++
    ascii "advertised_host = forum.example\n"

/-- Its clients look for that name. -/
theorem connect_file_names_public_server :
    letI := transparentSodium
    ∃ config found, loadValidatedConfig (fun _ => some publicServerText) (ascii "hypercom.conf") =
        (some config, []) ∧
      CommandLine.loadConnectFile (writeConnectFile config (FixedBytes.zero _) true fun _ => none)
        config.paths.connectFilePath {} = .ok found ∧
      ∃ entry, resolveServer found [] (fun _ => none) = .ok entry ∧
        entry.endpoint.host = ascii "forum.example" := by
  let := transparentSodium
  have hloaded : loadValidatedConfig (fun _ => some publicServerText) (ascii "hypercom.conf") =
      (some (parseConfigText publicServerText .defaults).2.1, []) := by rfl
  have hlabel : ({} : CommandLine).serverLabel = [] := rfl
  obtain ⟨found, hfound, hresolved⟩ := connect_file_names_server hloaded (by decide) (by decide)
    (FixedBytes.zero _) hlabel
  obtain ⟨entry, hentry, -, hendpoint, -⟩ := hresolved [] fun _ => none
  refine ⟨_, found, hloaded, hfound, entry, hentry, ?_⟩
  rw [hendpoint]
  decide

end ConfigParser

end HyperCom
