import HyperCom.Client.Exchange
import HyperCom.Client.HexCodec
import HyperCom.Crypto.Keystore

/-!
# Invite links and the server registry

`invite_link.cpp`, `server_registry.cpp` and `sealed_file.cpp`. The list of
joined servers is written without any check on its entries beyond their number,
and read back with the rigor of a network frame.

The writer takes any list, the reader refuses a host that is too long, a label that is no
valid text and whatever else does not fit its field. Between the two is the round trip of
the codec, for entries within the bounds, and the sealing of the file under the passphrase.
-/

namespace HyperCom

open BinaryCodec

/-! ## `invite_link.cpp` -/

/-- `LINK_PREFIX` -/
def linkScheme : ByteString := ascii "hypercom://"

/-- `invite_link` -/
structure InviteLink where
  host : ByteString := []
  port : UInt16 := 0
  serverKeyHex : ByteString := []
deriving DecidableEq

/-- A decimal digit. -/
def isDecimalDigit (character : UInt8) : Bool := character ≥ 0x30 && character ≤ 0x39

/-- `parse_port`: `from_chars` has to consume the whole text, which must be a
number between 1 and 65535. -/
def parsePort (text : ByteString) : Option UInt16 :=
  if text.isEmpty || !text.all isDecimalDigit then none
  else
    let value := text.foldl (fun value digit => value * 10 + (digit.toNat - 0x30)) 0
    if value = 0 ∨ value > 65535 then none else some (UInt16.ofNat value)

/-- `is_hex_key` -/
def isHexKey (text : ByteString) : Bool :=
  text.length == 64 && text.all fun character =>
    (character ≥ 0x30 && character ≤ 0x39) || (character ≥ 0x61 && character ≤ 0x66) ||
      (character ≥ 0x41 && character ≤ 0x46)

/-- `find`: what stands before the first occurrence and what stands after it. -/
def splitAtFirst (separator : UInt8) (text : ByteString) : Option (ByteString × ByteString) :=
  if separator ∈ text then
    some (text.takeWhile (· != separator), (text.dropWhile (· != separator)).tail)
  else none

/-- `rfind`: what stands before the last occurrence and what stands after it. -/
def splitAtLast (separator : UInt8) (text : ByteString) : Option (ByteString × ByteString) :=
  (splitAtFirst separator text.reverse).map fun halves => (halves.2.reverse, halves.1.reverse)

/-- `parse_invite_link` -/
def parseInviteLink (text : ByteString) : Except ByteString InviteLink :=
  if !linkScheme.isPrefixOf text then
    .error (ascii "lien invalide : attendu hypercom://hote:port#cle")
  else
    match splitAtFirst 0x23 (text.drop linkScheme.length) with
    | none => .error (ascii "lien invalide : la cle du serveur manque apres le #")
    | some (body, key) =>
      if !isHexKey key then
        .error (ascii "lien invalide : la cle doit faire 64 caracteres hexadecimaux")
      else
        -- an IPv6 host contains colons, only the last one separates the port
        match splitAtLast 0x3A body with
        | none => .error (ascii "lien invalide : port absent ou hors bornes")
        | some (host, portText) =>
          match parsePort portText with
          | none => .error (ascii "lien invalide : port absent ou hors bornes")
          | some port =>
            if host.isEmpty then .error (ascii "lien invalide : hote manquant")
            else .ok { host, port, serverKeyHex := key }

/-- `decode_key` -/
def decodeKey (hex : ByteString) : Option X25519PublicKey :=
  match decodeHex hex with
  | none => none
  | some decoded => if h : decoded.length = 32 then some ⟨decoded, h⟩ else none

/-! ## The entries and their encoding -/

def registryVersion : UInt8 := 1
def maxLabelLength : ℕ := 48
def maxHostLength : ℕ := 256
def maxPathLength : ℕ := 512
def maxServers : ℕ := 64

/-- Where the identity used on a server comes from. -/
inductive IdentitySource where
  | derived | imported
deriving DecidableEq

/-- The enumerator's number. -/
def IdentitySource.toRaw : IdentitySource → UInt8
  | derived => 0
  | imported => 1

/-- The check on `raw_source` and the cast that follows it. -/
def IdentitySource.ofRaw (raw : UInt8) : Option IdentitySource :=
  if raw > IdentitySource.imported.toRaw then none
  else if raw = IdentitySource.derived.toRaw then some .derived
  else some .imported

/-- `server_entry` -/
structure ServerEntry where
  label : ByteString := []
  endpoint : ServerEndpoint := {}
  serverKey : X25519PublicKey := FixedBytes.zero _
  source : IdentitySource := .derived
  importedIdentityPath : ByteString := []
  trustAcknowledged : Bool := false
deriving DecidableEq

/-- The fields of an entry as they stand in the file. -/
structure RawServerEntry where
  label : ByteString
  host : ByteString
  port : UInt16
  socks5Host : ByteString
  socks5Port : UInt16
  serverKey : X25519PublicKey
  rawSource : UInt8
  importedIdentityPath : ByteString
  rawAcknowledged : UInt8

def RawServerEntry.writeTo (raw : RawServerEntry) : ByteString :=
  List.flatten [
    writeTextField raw.label,
    writeTextField raw.host,
    writeInteger raw.port,
    writeTextField raw.socks5Host,
    writeInteger raw.socks5Port,
    writeFixedBytes raw.serverKey.1,
    writeInteger raw.rawSource,
    writeTextField raw.importedIdentityPath,
    writeInteger raw.rawAcknowledged]

/-- The reads of `read_entry`. -/
def RawServerEntry.readFrom : Reader RawServerEntry := do
  let label ← readTextField maxLabelLength
  let host ← readTextField maxHostLength
  let port ← readInteger UInt16
  let socks5Host ← readTextField maxHostLength
  let socks5Port ← readInteger UInt16
  let serverKey ← readFixedBytes 32
  let rawSource ← readInteger UInt8
  let importedIdentityPath ← readTextField maxPathLength
  let rawAcknowledged ← readInteger UInt8
  pure { label, host, port, socks5Host, socks5Port, serverKey, rawSource, importedIdentityPath,
         rawAcknowledged }

/-- The casts of `write_entry`. -/
def ServerEntry.toRaw (entry : ServerEntry) : RawServerEntry where
  label := entry.label
  host := entry.endpoint.host
  port := entry.endpoint.port
  socks5Host := entry.endpoint.socks5Host
  socks5Port := entry.endpoint.socks5Port
  serverKey := entry.serverKey
  rawSource := entry.source.toRaw
  importedIdentityPath := entry.importedIdentityPath
  rawAcknowledged := if entry.trustAcknowledged then 1 else 0

/-- The end of `read_entry`: any byte but zero is an acknowledgement. -/
def RawServerEntry.check (raw : RawServerEntry) : Option ServerEntry :=
  (IdentitySource.ofRaw raw.rawSource).map fun source =>
    { label := raw.label
      endpoint := {
        host := raw.host, port := raw.port, socks5Host := raw.socks5Host
        socks5Port := raw.socks5Port }
      serverKey := raw.serverKey
      source
      importedIdentityPath := raw.importedIdentityPath
      trustAcknowledged := raw.rawAcknowledged != 0 }

/-- `write_entry` -/
def ServerEntry.writeTo (entry : ServerEntry) : ByteString := entry.toRaw.writeTo

/-- `read_entry` -/
def ServerEntry.readFrom : Reader ServerEntry := do
  let raw ← RawServerEntry.readFrom
  Fallible.ofOption raw.check

/-- What the reader asks of an entry, and the writer does not. -/
structure ServerEntry.InRange (entry : ServerEntry) : Prop where
  label : TextInRange maxLabelLength entry.label
  host : TextInRange maxHostLength entry.endpoint.host
  socks5Host : TextInRange maxHostLength entry.endpoint.socks5Host
  importedIdentityPath : TextInRange maxPathLength entry.importedIdentityPath

/-- The texts of a raw entry are within the reader's caps. -/
def RawServerEntry.InRange (raw : RawServerEntry) : Prop :=
  TextInRange maxLabelLength raw.label ∧ TextInRange maxHostLength raw.host ∧
    TextInRange maxHostLength raw.socks5Host ∧ TextInRange maxPathLength raw.importedIdentityPath

theorem RawServerEntry.exact :
    WireExact RawServerEntry.writeTo RawServerEntry.readFrom RawServerEntry.InRange := by
  apply ExactOn.exact
  · apply ExactOn.field (readTextField_exact (by decide))
    intro label
    apply ExactOn.field (readTextField_exact (by decide))
    intro host
    apply ExactOn.field readInteger_exact
    intro port
    apply ExactOn.field (readTextField_exact (by decide))
    intro socks5Host
    apply ExactOn.field readInteger_exact
    intro socks5Port
    apply ExactOn.field (readFixedBytes_exact _)
    intro serverKey
    apply ExactOn.field readInteger_exact
    intro rawSource
    apply ExactOn.field (readTextField_exact (by decide))
    intro importedIdentityPath
    apply ExactOn.field readInteger_exact
    intro rawAcknowledged
    exact .done (by rintro ⟨⟩; simp [and_assoc])
  · intro raw
    simp [RawServerEntry.InRange]

theorem ServerEntry.check_toRaw (entry : ServerEntry) : entry.toRaw.check = some entry := by
  obtain ⟨label, ⟨host, port, socks5Host, socks5Port⟩, serverKey, source, path, acknowledged⟩ := entry
  cases source <;> cases acknowledged <;> rfl

/-- An entry in range is read back, whatever follows it. -/
theorem ServerEntry.readFrom_complete {reader : ByteReader} {entry : ServerEntry}
    {suffix : ByteString} (h : entry.InRange)
    (hs : reader.remaining = entry.writeTo ++ suffix) :
    ∃ reader', ServerEntry.readFrom reader = (some entry, reader') ∧
      reader'.remaining = suffix := by
  have hraw : entry.toRaw.InRange := ⟨h.label, h.host, h.socks5Host, h.importedIdentityPath⟩
  obtain ⟨reader', hread, hrest⟩ := RawServerEntry.exact.complete hraw hs
  refine ⟨reader', ?_, hrest⟩
  rw [ServerEntry.readFrom, Fallible.bind_some hread, entry.check_toRaw, Fallible.ofOption_some]

/-- An entry that was read is in range. -/
theorem ServerEntry.readFrom_inRange {reader reader' : ByteReader} {entry : ServerEntry}
    (h : ServerEntry.readFrom reader = (some entry, reader')) : entry.InRange := by
  obtain ⟨raw, reader₁, hraw, hcheck⟩ := Fallible.bind_eq_some h
  obtain ⟨⟨hlabel, hhost, hsocks, hpath⟩, -⟩ := RawServerEntry.exact.sound hraw
  cases hchecked : raw.check with
  | none =>
    rw [hchecked] at hcheck
    cases hcheck
  | some checked =>
    rw [hchecked] at hcheck
    obtain rfl := Option.some.inj (Prod.mk.inj hcheck).1
    obtain ⟨source, -, rfl⟩ := Option.map_eq_some_iff.mp hchecked
    exact ⟨hlabel, hhost, hsocks, hpath⟩

/-! ## `parse_entries` and its inverse -/

/-- The reads of `parse_entries`. -/
def readEntries : Reader (List ServerEntry) := do
  let version ← readInteger UInt8
  if version ≠ registryVersion then Fallible.fail
  else do
    let count ← readInteger UInt16
    if count.toNat > maxServers then Fallible.fail
    else ServerEntry.readFrom.repeatTimes count.toNat

/-- `parse_entries`: bytes after the last entry are not looked at. -/
def parseEntries (plaintext : ByteString) : Option (List ServerEntry) :=
  (readEntries (ByteReader.start plaintext)).1

/-- What `save` writes, once the number of entries is known to be acceptable. -/
def writeEntries (entries : List ServerEntry) : ByteString :=
  writeInteger registryVersion ++ writeInteger (UInt16.ofNat entries.length) ++
    entries.flatMap ServerEntry.writeTo

/-- Entries in range are read back. -/
theorem parseEntries_writeEntries {entries : List ServerEntry} (hcount : entries.length ≤ maxServers)
    (h : ∀ entry ∈ entries, entry.InRange) : parseEntries (writeEntries entries) = some entries := by
  have hlength : (UInt16.ofNat entries.length).toNat = entries.length :=
    UInt16.toNat_ofNat_of_lt' (Nat.lt_of_le_of_lt hcount (by decide))
  have hstart : (ByteReader.start (writeEntries entries)).remaining =
      writeInteger registryVersion ++ (writeInteger (UInt16.ofNat entries.length) ++
        (entries.flatMap ServerEntry.writeTo ++ [])) := by
    rw [ByteReader.remaining_start, writeEntries, List.append_nil, List.append_assoc]
  obtain ⟨reader₁, hversion, hrest₁⟩ := readInteger_exact.complete trivial hstart
  obtain ⟨reader₂, hread, hrest₂⟩ := readInteger_exact.complete trivial hrest₁
  obtain ⟨reader₃, hentries, -⟩ := repeatTimes_complete ServerEntry.readFrom_complete h hrest₂
  rw [parseEntries, readEntries, Fallible.bind_some hversion, if_neg (by simp), Fallible.bind_some hread, hlength,
    if_neg (by omega), hentries]

/-- Whatever is read is in range. -/
theorem parseEntries_inRange {plaintext : ByteString} {entries : List ServerEntry}
    (h : parseEntries plaintext = some entries) : ∀ entry ∈ entries, entry.InRange := by
  have hparsed : readEntries (ByteReader.start plaintext) =
      (some entries, (readEntries (ByteReader.start plaintext)).2) := Prod.ext h rfl
  obtain ⟨version, reader₁, -, hread⟩ := Fallible.bind_eq_some hparsed
  split at hread
  · cases hread
  · obtain ⟨count, reader₂, -, hread⟩ := Fallible.bind_eq_some hread
    split at hread
    · cases hread
    · exact repeatTimes_forall ServerEntry.readFrom_inRange hread

/-- Whatever is read is not more than the program keeps. -/
theorem parseEntries_length {plaintext : ByteString} {entries : List ServerEntry}
    (h : parseEntries plaintext = some entries) : entries.length ≤ maxServers := by
  have hparsed : readEntries (ByteReader.start plaintext) =
      (some entries, (readEntries (ByteReader.start plaintext)).2) := Prod.ext h rfl
  obtain ⟨version, reader₁, -, hread⟩ := Fallible.bind_eq_some hparsed
  split at hread
  · cases hread
  · obtain ⟨count, reader₂, -, hread⟩ := Fallible.bind_eq_some hread
    split at hread
    · cases hread
    · next hcount =>
      rw [Fallible.repeatTimes_length hread]
      omega

/-! ## `sealed_file.cpp` -/

/-- The files of the disk, by path. -/
abbrev Files : Type := ByteString → Option ByteString

/-- What the system decides about one writing of a file. -/
structure WriteOutcome where
  /-- the file can be opened for writing -/
  opened : Bool := true
  /-- `chmod` succeeds -/
  restricted : Bool := true

/-- `write_sealed_file`. The file is replaced before its permissions are set. -/
def writeSealedFile (path sealed : ByteString) (outcome : WriteOutcome) (files : Files) :
    Except ByteString Unit × Files :=
  if !outcome.opened then (.error (ascii "ecriture impossible : " ++ path), files)
  else
    let files := Function.update files path (some sealed)
    if !outcome.restricted then (.error (ascii "chmod 0600 impossible sur " ++ path), files)
    else (.ok (), files)

/-- `read_sealed_file`: an empty file is refused. -/
def readSealedFile (path : ByteString) (files : Files) : Option ByteString :=
  match files path with
  | none => none
  | some content => if content.isEmpty then none else some content

/-! ## `server_registry` -/

variable [Sodium]

/-- `load` -/
def loadRegistry (path passphrase : ByteString) (files : Files) :
    Except ByteString (List ServerEntry) :=
  match readSealedFile path files with
  | none => .error (ascii "registre des serveurs illisible : " ++ path)
  | some sealed =>
    match openBlob passphrase sealed with
    | none => .error (ascii "passphrase incorrecte ou registre altere")
    | some plaintext =>
      match parseEntries plaintext with
      | none => .error (ascii "registre des serveurs mal forme : " ++ path)
      | some entries => .ok entries

/-- What the outside contributes to one `save`. -/
structure SaveWorld where
  salt : FixedBytes argon2idSaltSize := FixedBytes.zero _
  nonce : FixedBytes xchachaNonceSize := FixedBytes.zero _
  outcome : WriteOutcome := {}

/-- `save` -/
def saveRegistry (path passphrase : ByteString) (entries : List ServerEntry) (world : SaveWorld)
    (files : Files) : Except ByteString Unit × Files :=
  if entries.length > maxServers then (.error (ascii "trop de serveurs enregistres"), files)
  else
    match sealBlob passphrase (writeEntries entries) world.salt world.nonce with
    | none => (.error (ascii "scellement du registre impossible"), files)
    | some sealed => writeSealedFile path sealed world.outcome files

omit [Sodium] in
/-- A successful write is a replacement. -/
theorem writeSealedFile_ok {path sealed : ByteString} {outcome : WriteOutcome} {files files' : Files}
    (h : writeSealedFile path sealed outcome files = (.ok (), files')) :
    files' = Function.update files path (some sealed) := by
  unfold writeSealedFile at h
  split at h
  · cases h
  · dsimp only at h
    split at h
    · cases h
    · exact (Prod.mk.inj h).2.symm

omit [Sodium] in
/-- A write touches no other file. -/
theorem writeSealedFile_other {path other sealed : ByteString} {outcome : WriteOutcome}
    {files : Files} (h : other ≠ path) :
    (writeSealedFile path sealed outcome files).2 other = files other := by
  unfold writeSealedFile
  dsimp only
  split
  · rfl
  · split
    · exact Function.update_of_ne h ..
    · exact Function.update_of_ne h ..

theorem sealBlob_ne_nil {passphrase plaintext sealed : ByteString}
    {salt : FixedBytes argon2idSaltSize} {nonce : FixedBytes xchachaNonceSize}
    (h : sealBlob passphrase plaintext salt nonce = some sealed) : sealed.isEmpty = false := by
  unfold sealBlob at h
  split at h
  · cases h
  · obtain rfl := Option.some.inj h
    simp [keystoreHeader]

/-- What a successful `save` leaves on the disk. -/
theorem saveRegistry_ok {path passphrase : ByteString} {entries : List ServerEntry}
    {world : SaveWorld} {files files' : Files}
    (h : saveRegistry path passphrase entries world files = (.ok (), files')) :
    entries.length ≤ maxServers ∧ ∃ sealed, openBlob passphrase sealed = some (writeEntries entries) ∧
      readSealedFile path files' = some sealed := by
  unfold saveRegistry at h
  split at h
  · cases h
  · next hcount =>
    refine ⟨by omega, ?_⟩
    split at h
    · cases h
    · next sealed hsealed =>
      obtain rfl := writeSealedFile_ok h
      refine ⟨sealed, openBlob_sealBlob hsealed, ?_⟩
      rw [readSealedFile, Function.update_self]
      simp [sealBlob_ne_nil hsealed]

/-- A registry that loads is the list of some plaintext. -/
theorem parsed_of_loadRegistry {path passphrase : ByteString} {entries : List ServerEntry}
    {files : Files} (h : loadRegistry path passphrase files = .ok entries) :
    ∃ plaintext, parseEntries plaintext = some entries := by
  unfold loadRegistry at h
  split at h
  · cases h
  split at h
  · cases h
  split at h
  · cases h
  next hparsed =>
    obtain rfl := Except.ok.inj h
    exact ⟨_, hparsed⟩

/-- A list that was loaded is within the reader's bounds. -/
theorem loadRegistry_inRange {path passphrase : ByteString} {entries : List ServerEntry}
    {files : Files} (h : loadRegistry path passphrase files = .ok entries) :
    ∀ entry ∈ entries, entry.InRange := by
  obtain ⟨plaintext, hparsed⟩ := parsed_of_loadRegistry h
  exact parseEntries_inRange hparsed

/-- The reader of the registry refuses a list that could not be saved. -/
theorem loadRegistry_length {path passphrase : ByteString} {entries : List ServerEntry}
    {files : Files} (h : loadRegistry path passphrase files = .ok entries) :
    entries.length ≤ maxServers := by
  obtain ⟨plaintext, hparsed⟩ := parsed_of_loadRegistry h
  exact parseEntries_length hparsed

/-- A file that holds a sealed list is loaded exactly when all entries of the list
are within the reader's bounds. -/
theorem loadRegistry_sealed_iff {path passphrase sealed : ByteString} {entries : List ServerEntry}
    {files : Files} (hcount : entries.length ≤ maxServers)
    (hread : readSealedFile path files = some sealed)
    (hopen : openBlob passphrase sealed = some (writeEntries entries)) :
    loadRegistry path passphrase files = .ok entries ↔ ∀ entry ∈ entries, entry.InRange := by
  constructor
  · exact loadRegistry_inRange
  · intro hrange
    rw [loadRegistry, hread]
    dsimp only
    rw [hopen]
    dsimp only
    rw [parseEntries_writeEntries hcount hrange]

/-- The list that was saved is loaded again exactly when all of its entries are
within the reader's bounds. -/
theorem loadRegistry_saveRegistry_iff {path passphrase : ByteString} {entries : List ServerEntry}
    {world : SaveWorld} {files files' : Files}
    (h : saveRegistry path passphrase entries world files = (.ok (), files')) :
    loadRegistry path passphrase files' = .ok entries ↔ ∀ entry ∈ entries, entry.InRange := by
  obtain ⟨hcount, sealed, hopen, hread⟩ := saveRegistry_ok h
  exact loadRegistry_sealed_iff hcount hread hopen

end HyperCom
