import HyperCom.Client.Registry
import HyperCom.Crypto.DirectMessage
import HyperCom.Crypto.RecoveryPhrase
import HyperCom.Lib.WriteLoop

/-!
# What is left of a secret file

The two writers of the client, call by call. Both open the file with truncation,
so its old content is gone before anything is known about the new one. The
writer of `sealed_file.cpp` goes through a stream and looks at `open` and `chmod`
only; that of `identity_store.cpp` looks at `open` and `write`. Neither looks at
`close`, and neither restores what was there.

`SecretOperation` is the four functions that use them. `keepsSecret_iff` says for
which answers of the system they leave either the whole sealed file or the old
one.
-/

namespace HyperCom

open WriteLoop

/-! ## The two writers -/

/-- What a file holds of the bytes that were handed over: all of them, or so
many. -/
def heldBytes (held : Option ℕ) (handed : ByteString) : ByteString :=
  match held with
  | none => handed
  | some count => handed.take count

/-- What the system answers to the writer of `sealed_file.cpp`. -/
structure StreamOutcome where
  /-- `std::ofstream{path, trunc}` succeeds -/
  opened : Bool := true
  /-- what the stream gets into the file until it is closed, if not everything -/
  held : Option ℕ := none
  /-- `chmod` succeeds -/
  restricted : Bool := true

/-- `write_sealed_file` of `sealed_file.cpp`: the state of the stream after `write`
and `close` is not looked at. -/
def writeSealedFileThrough (path sealed : ByteString) (outcome : StreamOutcome) (files : Files) :
    Except ByteString Unit × Files :=
  if !outcome.opened then (.error (ascii "ecriture impossible : " ++ path), files)
  else
    let files := Function.update files path (some (heldBytes outcome.held sealed))
    if !outcome.restricted then (.error (ascii "chmod 0600 impossible sur " ++ path), files)
    else (.ok (), files)

/-- What the system answers to the writer of `identity_store.cpp`. -/
structure DescriptorOutcome where
  /-- `open_owner_only` succeeds -/
  opened : Bool := true
  /-- the answers of `write`, one after the other -/
  writes : List Attempt
  /-- what the file holds of what `write` took once `close` has answered, if not
  everything -/
  held : Option ℕ := none

/-- `write_sealed_file` of `identity_store.cpp`, `none` while its loop has not come
back: the answer of `close` is not looked at. -/
def writeOwnerOnly (path sealed : ByteString) (outcome : DescriptorOutcome) (files : Files) :
    Option (Except ByteString Unit) × Files :=
  if !outcome.opened then (some (.error (ascii "ecriture impossible : " ++ path)), files)
  else
    let out := writeAll outcome.writes sealed
    match out.1 with
    | none => (none, Function.update files path (some out.2))
    | some true => (some (.ok ()),
        Function.update files path (some (heldBytes outcome.held out.2)))
    | some false => (some (.error (ascii "ecriture incomplete : " ++ path)),
        Function.update files path (some (heldBytes outcome.held out.2)))

/-- The writer of the registry is this one on a disk that takes everything. -/
theorem writeSealedFile_eq_through (path sealed : ByteString) (outcome : WriteOutcome)
    (files : Files) :
    writeSealedFile path sealed outcome files = writeSealedFileThrough path sealed
      { opened := outcome.opened, restricted := outcome.restricted } files := rfl

/-! ## One writing of a file -/

/-- What a writer comes to: whether the file was opened, what it holds afterwards,
and what is returned, if the writer has come back. -/
structure Writing where
  opened : Bool
  left : ByteString
  returned : Option Bool

/-- Its effect on the disk. -/
def Writing.apply (writing : Writing) (path : ByteString) (files : Files) : Option Bool × Files :=
  if writing.opened then (writing.returned, Function.update files path (some writing.left))
  else (some false, files)

def StreamOutcome.writing (outcome : StreamOutcome) (sealed : ByteString) : Writing where
  opened := outcome.opened
  left := heldBytes outcome.held sealed
  returned := some outcome.restricted

def DescriptorOutcome.writing (outcome : DescriptorOutcome) (sealed : ByteString) : Writing where
  opened := outcome.opened
  left :=
    if (writeAll outcome.writes sealed).1.isSome then
      heldBytes outcome.held (writeAll outcome.writes sealed).2
    else (writeAll outcome.writes sealed).2
  returned := (writeAll outcome.writes sealed).1

@[simp] theorem isOk_ok {ε α : Type} (value : α) : (Except.ok value : Except ε α).isOk = true := rfl

@[simp] theorem isOk_error {ε α : Type} (error : ε) :
    (Except.error error : Except ε α).isOk = false := rfl

@[simp] theorem isOk_map {ε α β : Type} (f : α → β) (result : Except ε α) :
    (result.map f).isOk = result.isOk := by
  cases result <;> rfl

theorem writeSealedFileThrough_eq (path sealed : ByteString) (outcome : StreamOutcome)
    (files : Files) :
    (some (writeSealedFileThrough path sealed outcome files).1.isOk,
      (writeSealedFileThrough path sealed outcome files).2) =
    (outcome.writing sealed).apply path files := by
  rcases hopened : outcome.opened with _ | _ <;> rcases hrestricted : outcome.restricted with _ | _ <;>
    simp [writeSealedFileThrough, StreamOutcome.writing, Writing.apply, hopened, hrestricted]

theorem writeOwnerOnly_eq (path sealed : ByteString) (outcome : DescriptorOutcome)
    (files : Files) :
    ((writeOwnerOnly path sealed outcome files).1.map Except.isOk,
      (writeOwnerOnly path sealed outcome files).2) =
    (outcome.writing sealed).apply path files := by
  rcases hopened : outcome.opened with _ | _
  · simp [writeOwnerOnly, DescriptorOutcome.writing, Writing.apply, hopened]
  · rcases hreturned : (writeAll outcome.writes sealed).1 with _ | _ | _ <;>
      simp [writeOwnerOnly, DescriptorOutcome.writing, Writing.apply, hopened, hreturned]

/-- `has_stored_seed` and `has_stored_identity` -/
def hasStoredFile (path : ByteString) (files : Files) : Bool := (files path).isSome

/-- What the outside contributes to the writing of one sealed file. -/
structure SealedWriting (Outcome : Type) where
  salt : FixedBytes argon2idSaltSize := FixedBytes.zero _
  nonce : FixedBytes xchachaNonceSize := FixedBytes.zero _
  outcome : Outcome

variable [Sodium]

/-! ## `server_registry` -/

/-- `save` -/
def saveRegistryThrough (path passphrase : ByteString) (entries : List ServerEntry)
    (world : SealedWriting StreamOutcome) (files : Files) : Except ByteString Unit × Files :=
  if entries.length > maxServers then (.error (ascii "trop de serveurs enregistres"), files)
  else
    match sealBlob passphrase (writeEntries entries) world.salt world.nonce with
    | none => (.error (ascii "scellement du registre impossible"), files)
    | some sealed => writeSealedFileThrough path sealed world.outcome files

/-- The registry on a disk that takes everything. -/
theorem saveRegistry_eq_through (path passphrase : ByteString) (entries : List ServerEntry)
    (world : SaveWorld) (files : Files) :
    saveRegistry path passphrase entries world files =
      saveRegistryThrough path passphrase entries
        { salt := world.salt, nonce := world.nonce
          outcome := { opened := world.outcome.opened, restricted := world.outcome.restricted } }
        files := rfl

/-! ## `master_seed_store` -/

/-- `seal_to_disk` -/
def sealToDisk (path passphrase : ByteString) (seed : FixedBytes 32)
    (world : SealedWriting StreamOutcome) (files : Files) : Except ByteString Unit × Files :=
  if hasStoredFile path files then
    (.error (ascii "une graine existe deja dans " ++ path ++
      ascii " : l'ecraser reviendrait a perdre toutes les identites " ++
      ascii "qui en derivent, sur tous les serveurs"), files)
  else if passphrase.isEmpty then (.error (ascii "passphrase vide"), files)
  else
    match sealBlob passphrase seed.1 world.salt world.nonce with
    | none => (.error (ascii "scellement de la graine impossible"), files)
    | some sealed => writeSealedFileThrough path sealed world.outcome files

/-- `unlock_seed` -/
def unlockSeed (path passphrase : ByteString) (files : Files) :
    Except ByteString (FixedBytes 32) :=
  match readSealedFile path files with
  | none => .error (ascii "graine illisible : " ++ path)
  | some sealed =>
    match openBlob passphrase sealed with
    | none => .error (ascii "passphrase incorrecte ou graine alteree")
    | some plaintext =>
      if h : plaintext.length = 32 then .ok ⟨plaintext, h⟩
      else .error (ascii "passphrase incorrecte ou graine alteree")

section Seeds

variable [RecoveryWordlist]

/-- `create_seed`, from the entropy it draws: the seed and its phrase. -/
def createSeed (path passphrase : ByteString) (entropy : RecoveryEntropy)
    (world : SealedWriting StreamOutcome) (files : Files) :
    Except ByteString (FixedBytes 32 × ByteString) × Files :=
  match deriveMasterSeed entropy with
  | none => (.error (ascii "derivation de la graine impossible"), files)
  | some seed =>
    match sealToDisk path passphrase seed world files with
    | (.error error, files) => (.error error, files)
    | (.ok (), files) => (.ok (seed, entropyToPhrase entropy), files)

/-- `restore_seed` -/
def restoreSeed (path passphrase phrase : ByteString) (world : SealedWriting StreamOutcome)
    (files : Files) : Except ByteString (FixedBytes 32) × Files :=
  match phraseToEntropy phrase with
  | none => (.error (ascii "phrase de recuperation invalide : 12 mots attendus, " ++
      ascii "verifier l'orthographe et l'ordre"), files)
  | some entropy =>
    match deriveMasterSeed entropy with
    | none => (.error (ascii "derivation de la graine impossible"), files)
    | some seed =>
      match sealToDisk path passphrase seed world files with
      | (.error error, files) => (.error error, files)
      | (.ok (), files) => (.ok seed, files)

end Seeds

/-! ## `identity_store` -/

/-- `open_identity_secret` -/
def openIdentitySecret (passphrase sealed : ByteString) : Option Ed25519SecretKey :=
  match openBlob passphrase sealed with
  | none => none
  | some plaintext => if h : plaintext.length = 64 then some ⟨plaintext, h⟩ else none

/-- `create_identity`, from the seed of the key pair it draws. -/
def createIdentity (path passphrase : ByteString) (drawn : Option (FixedBytes 32))
    (world : SealedWriting DescriptorOutcome) (files : Files) :
    Option (Except ByteString IdentityKeypair) × Files :=
  if hasStoredFile path files then
    (some (.error (ascii "une identite existe deja dans " ++ path ++
      ascii " : l'ecraser reviendrait a perdre le compte associe, " ++
      ascii "sans aucun moyen de le recuperer")), files)
  else if passphrase.isEmpty then
    (some (.error (ascii "une passphrase vide ne chiffre rien")), files)
  else
    match drawn.map IdentityKeypair.deriveFromSeed with
    | none => (some (.error (ascii "generation de la paire de cles impossible")), files)
    | some identity =>
      match sealBlob passphrase identity.secretKey.1 world.salt world.nonce with
      | none => (some (.error (ascii "scellement de la cle privee impossible")), files)
      | some sealed =>
        let out := writeOwnerOnly path sealed world.outcome files
        (out.1.map fun result => result.map fun _ => identity, out.2)

/-- `unlock_identity`: the seed is the front of the secret key. -/
def unlockIdentity (path passphrase : ByteString) (files : Files) :
    Except ByteString IdentityKeypair :=
  match readSealedFile path files with
  | none => .error (ascii "identite illisible : " ++ path)
  | some sealed =>
    match openIdentitySecret passphrase sealed with
    | none => .error (ascii "passphrase incorrecte ou fichier d'identite altere")
    | some secret => .ok (IdentityKeypair.deriveFromSeed (FixedBytes.copyFrom 32 secret.1))

/-! ## Files written once -/

/-- The blob of a file that must not exist yet. -/
def sealedOnce (path passphrase : ByteString) (secret : Option ByteString)
    (salt : FixedBytes argon2idSaltSize) (nonce : FixedBytes xchachaNonceSize) (files : Files) :
    Option ByteString :=
  if hasStoredFile path files || passphrase.isEmpty then none
  else secret.bind fun plaintext => sealBlob passphrase plaintext salt nonce

section Once

variable {path passphrase : ByteString} {files : Files}

/-- What an existing file, an empty passphrase or a failed sealing leaves alone. -/
theorem sealToDisk_eq (path passphrase : ByteString) (seed : FixedBytes 32)
    (world : SealedWriting StreamOutcome) (files : Files) :
    (some (sealToDisk path passphrase seed world files).1.isOk,
      (sealToDisk path passphrase seed world files).2) =
    match sealedOnce path passphrase (some seed.1) world.salt world.nonce files with
    | none => (some false, files)
    | some sealed => (world.outcome.writing sealed).apply path files := by
  rcases hstored : hasStoredFile path files with _ | _
  · rcases hempty : passphrase.isEmpty with _ | _
    · rcases hsealed : sealBlob passphrase seed.1 world.salt world.nonce with _ | sealed
      · simp [sealToDisk, sealedOnce, hstored, hempty, hsealed]
      · simpa [sealToDisk, sealedOnce, hstored, hempty, hsealed] using
          writeSealedFileThrough_eq path sealed world.outcome files
    · simp [sealToDisk, sealedOnce, hstored, hempty]
  · simp [sealToDisk, sealedOnce, hstored]

/-- A new file is written where there was none. -/
theorem sealedOnce_some {secret : Option ByteString} {salt : FixedBytes argon2idSaltSize}
    {nonce : FixedBytes xchachaNonceSize} {sealed : ByteString}
    (h : sealedOnce path passphrase secret salt nonce files = some sealed) :
    files path = none ∧ ∃ plaintext, secret = some plaintext ∧
      sealBlob passphrase plaintext salt nonce = some sealed := by
  rcases hstored : files path with _ | content
  · rcases hempty : passphrase.isEmpty with _ | _
    · simp only [sealedOnce, hasStoredFile, hstored, hempty, Option.isSome_none, Bool.or_self,
        Bool.false_eq_true, if_false] at h
      obtain ⟨plaintext, hsecret, hsealed⟩ := Option.bind_eq_some_iff.mp h
      exact ⟨rfl, plaintext, hsecret, hsealed⟩
    · simp [sealedOnce, hempty] at h
  · simp [sealedOnce, hasStoredFile, hstored] at h

end Once

/-! ## The four operations -/

/-- A call of one of the four functions, with what the outside contributes. -/
inductive SecretOperation where
  | saveRegistry (entries : List ServerEntry) (world : SealedWriting StreamOutcome)
  | createSeed (entropy : RecoveryEntropy) (world : SealedWriting StreamOutcome)
  | restoreSeed (phrase : ByteString) (world : SealedWriting StreamOutcome)
  | createIdentity (drawn : Option (FixedBytes 32)) (world : SealedWriting DescriptorOutcome)

namespace SecretOperation

variable [RecoveryWordlist]

/-- What the function returns, if it has come back, and the disk it leaves. -/
def run (path passphrase : ByteString) (files : Files) : SecretOperation → Option Bool × Files
  | saveRegistry entries world =>
    let out := saveRegistryThrough path passphrase entries world files
    (some out.1.isOk, out.2)
  | createSeed entropy world =>
    let out := HyperCom.createSeed path passphrase entropy world files
    (some out.1.isOk, out.2)
  | restoreSeed phrase world =>
    let out := HyperCom.restoreSeed path passphrase phrase world files
    (some out.1.isOk, out.2)
  | createIdentity drawn world =>
    let out := HyperCom.createIdentity path passphrase drawn world files
    (out.1.map Except.isOk, out.2)

/-- The bytes the function has to write: none if it refuses to write at all. -/
def sealedBytes (path passphrase : ByteString) (files : Files) :
    SecretOperation → Option ByteString
  | saveRegistry entries world =>
    if entries.length > maxServers then none
    else sealBlob passphrase (writeEntries entries) world.salt world.nonce
  | createSeed entropy world =>
    sealedOnce path passphrase ((deriveMasterSeed entropy).map Subtype.val) world.salt world.nonce
      files
  | restoreSeed phrase world =>
    sealedOnce path passphrase (((phraseToEntropy phrase).bind deriveMasterSeed).map Subtype.val)
      world.salt world.nonce files
  | createIdentity drawn world =>
    sealedOnce path passphrase
      (drawn.map fun seed => (IdentityKeypair.deriveFromSeed seed).secretKey.1) world.salt
      world.nonce files

omit [Sodium] [RecoveryWordlist] in
/-- The writer it uses. -/
def writing (sealed : ByteString) : SecretOperation → Writing
  | saveRegistry _ world => world.outcome.writing sealed
  | createSeed _ world => world.outcome.writing sealed
  | restoreSeed _ world => world.outcome.writing sealed
  | createIdentity _ world => world.outcome.writing sealed

/-- The matching load or unlock succeeds with the same passphrase, and returns
what was created. -/
def Reopens (path passphrase : ByteString) (files : Files) : SecretOperation → Prop
  | saveRegistry entries _ => loadRegistry path passphrase files = .ok entries
  | createSeed entropy _ => ∃ seed, deriveMasterSeed entropy = some seed ∧
      unlockSeed path passphrase files = .ok seed
  | restoreSeed phrase _ => ∃ seed, (phraseToEntropy phrase).bind deriveMasterSeed = some seed ∧
      unlockSeed path passphrase files = .ok seed
  | createIdentity _ _ => (unlockIdentity path passphrase files).isOk = true

variable {operation : SecretOperation} {path passphrase sealed : ByteString} {files : Files}

/-- Each of the four refuses, or writes its bytes with its writer. -/
theorem run_eq (operation : SecretOperation) (path passphrase : ByteString) (files : Files) :
    operation.run path passphrase files =
      match operation.sealedBytes path passphrase files with
      | none => (some false, files)
      | some sealed => (operation.writing sealed).apply path files := by
  cases operation with
  | saveRegistry entries world =>
    by_cases hcount : entries.length > maxServers
    · simp [run, sealedBytes, saveRegistryThrough, hcount]
    · rcases hsealed : sealBlob passphrase (writeEntries entries) world.salt world.nonce with
        _ | sealed
      · simp [run, sealedBytes, saveRegistryThrough, hcount, hsealed]
      · simpa [run, sealedBytes, writing, saveRegistryThrough, hcount, hsealed] using
          writeSealedFileThrough_eq path sealed world.outcome files
  | createSeed entropy world =>
    rcases hseed : deriveMasterSeed entropy with _ | seed
    · simp [run, sealedBytes, sealedOnce, HyperCom.createSeed, hseed]
    · have hdisk := sealToDisk_eq path passphrase seed world files
      rcases hout : sealToDisk path passphrase seed world files with ⟨_ | _, after⟩ <;>
        simpa [run, sealedBytes, writing, HyperCom.createSeed, hseed, hout] using hdisk
  | restoreSeed phrase world =>
    rcases hentropy : phraseToEntropy phrase with _ | entropy
    · simp [run, sealedBytes, sealedOnce, HyperCom.restoreSeed, hentropy]
    rcases hseed : deriveMasterSeed entropy with _ | seed
    · simp [run, sealedBytes, sealedOnce, HyperCom.restoreSeed, hentropy, hseed]
    · have hdisk := sealToDisk_eq path passphrase seed world files
      rcases hout : sealToDisk path passphrase seed world files with ⟨_ | _, after⟩ <;>
        simpa [run, sealedBytes, writing, HyperCom.restoreSeed, hentropy, hseed, hout] using hdisk
  | createIdentity drawn world =>
    rcases hstored : hasStoredFile path files with _ | _
    · rcases hempty : passphrase.isEmpty with _ | _
      · rcases drawn with _ | seed
        · simp [run, sealedBytes, sealedOnce, HyperCom.createIdentity, hstored, hempty]
        rcases hsealed : sealBlob passphrase (IdentityKeypair.deriveFromSeed seed).secretKey.1
            world.salt world.nonce with _ | sealed
        · simp [run, sealedBytes, sealedOnce, HyperCom.createIdentity, hstored, hempty, hsealed]
        · have hwritten := writeOwnerOnly_eq path sealed world.outcome files
          simpa [run, sealedBytes, sealedOnce, writing, HyperCom.createIdentity, hstored, hempty,
            hsealed, Option.map_map, Function.comp_def] using hwritten
      · simp [run, sealedBytes, sealedOnce, HyperCom.createIdentity, hstored, hempty]
    · simp [run, sealedBytes, sealedOnce, HyperCom.createIdentity, hstored]

/-- What the reader asks of the content beyond its being sealed. -/
def Readable : SecretOperation → Prop
  | saveRegistry entries _ => ∀ entry ∈ entries, entry.InRange
  | _ => True

omit [RecoveryWordlist] in
/-- A file that holds a blob is read as that blob. -/
theorem readSealedFile_sealBlob {plaintext : ByteString} {salt : FixedBytes argon2idSaltSize}
    {nonce : FixedBytes xchachaNonceSize} (hsealed : sealBlob passphrase plaintext salt nonce = some sealed)
    (hfile : files path = some sealed) : readSealedFile path files = some sealed := by
  simp [readSealedFile, hfile, sealBlob_ne_nil hsealed]

omit [RecoveryWordlist] in
theorem unlockSeed_sealed {seed : FixedBytes 32} {salt : FixedBytes argon2idSaltSize}
    {nonce : FixedBytes xchachaNonceSize} (hsealed : sealBlob passphrase seed.1 salt nonce = some sealed)
    (hfile : files path = some sealed) : unlockSeed path passphrase files = .ok seed := by
  simp [unlockSeed, readSealedFile_sealBlob hsealed hfile, openBlob_sealBlob hsealed, seed.2]

omit [RecoveryWordlist] in
theorem unlockIdentity_sealed {secret : Ed25519SecretKey} {salt : FixedBytes argon2idSaltSize}
    {nonce : FixedBytes xchachaNonceSize}
    (hsealed : sealBlob passphrase secret.1 salt nonce = some sealed)
    (hfile : files path = some sealed) : (unlockIdentity path passphrase files).isOk = true := by
  simp [unlockIdentity, readSealedFile_sealBlob hsealed hfile, openIdentitySecret,
    openBlob_sealBlob hsealed, secret.2]

/-- A file that holds exactly the sealed bytes is opened again if it is readable. -/
theorem reopens_iff {after : Files}
    (hsealed : operation.sealedBytes path passphrase files = some sealed)
    (hfile : after path = some sealed) :
    operation.Reopens path passphrase after ↔ operation.Readable := by
  cases operation with
  | saveRegistry entries world =>
    simp only [sealedBytes] at hsealed
    split at hsealed
    · cases hsealed
    · next hcount =>
      exact loadRegistry_sealed_iff (not_lt.mp hcount) (readSealedFile_sealBlob hsealed hfile)
        (openBlob_sealBlob hsealed)
  | createSeed entropy world =>
    obtain ⟨-, plaintext, hsecret, hblob⟩ := sealedOnce_some hsealed
    obtain ⟨seed, hseed, rfl⟩ := Option.map_eq_some_iff.mp hsecret
    exact iff_of_true ⟨seed, hseed, unlockSeed_sealed hblob hfile⟩ trivial
  | restoreSeed phrase world =>
    obtain ⟨-, plaintext, hsecret, hblob⟩ := sealedOnce_some hsealed
    obtain ⟨seed, hseed, rfl⟩ := Option.map_eq_some_iff.mp hsecret
    exact iff_of_true ⟨seed, hseed, unlockSeed_sealed hblob hfile⟩ trivial
  | createIdentity drawn world =>
    obtain ⟨-, plaintext, hsecret, hblob⟩ := sealedOnce_some hsealed
    obtain ⟨seed, -, rfl⟩ := Option.map_eq_some_iff.mp hsecret
    exact iff_of_true (unlockIdentity_sealed hblob hfile) trivial

/-! ## What is kept -/

/-- The function returns true only if the file holds exactly the sealed bytes and
opens again, and if it returns false the file is as it was. -/
structure KeepsSecret (operation : SecretOperation) (path passphrase : ByteString)
    (files : Files) : Prop where
  written : (operation.run path passphrase files).1 = some true →
    ∃ sealed, operation.sealedBytes path passphrase files = some sealed ∧
      (operation.run path passphrase files).2 path = some sealed ∧
      operation.Reopens path passphrase (operation.run path passphrase files).2
  kept : (operation.run path passphrase files).1 = some false →
    (operation.run path passphrase files).2 path = files path

/-- What has to go well once the file is open, and so empty. -/
def Withstands (path sealed : ByteString) (files : Files) : SecretOperation → Prop
  | saveRegistry entries world =>
    if world.outcome.restricted = true then
      heldBytes world.outcome.held sealed = sealed ∧ ∀ entry ∈ entries, entry.InRange
    else files path = some (heldBytes world.outcome.held sealed)
  | createSeed _ world =>
    world.outcome.restricted = true ∧ heldBytes world.outcome.held sealed = sealed
  | restoreSeed _ world =>
    world.outcome.restricted = true ∧ heldBytes world.outcome.held sealed = sealed
  | createIdentity _ world =>
    FailsAfter world.outcome.writes sealed.length ∧
      ((writeAll world.outcome.writes sealed).1.isSome = true →
        heldBytes world.outcome.held sealed = sealed)

/-- The function refuses, or cannot open the file, or everything goes well. -/
def Undisturbed (operation : SecretOperation) (path passphrase : ByteString) (files : Files) :
    Prop :=
  ∀ sealed, operation.sealedBytes path passphrase files = some sealed →
    (operation.writing sealed).opened = true → operation.Withstands path sealed files

/-- Nothing is written by a function that refuses or cannot open its file. -/
theorem keepsSecret_of_unopened
    (h : ∀ sealed, operation.sealedBytes path passphrase files = some sealed →
      (operation.writing sealed).opened = false) :
    operation.KeepsSecret path passphrase files := by
  have hrun : operation.run path passphrase files = (some false, files) := by
    rw [run_eq]
    rcases hsealed : operation.sealedBytes path passphrase files with _ | sealed
    · rfl
    · simp [Writing.apply, h sealed hsealed]
  constructor
  · intro htrue
    rw [hrun] at htrue
    cases htrue
  · intro _
    rw [hrun]

/-- Once the file is open, what it holds is compared with the sealed bytes, or
with what it held. -/
theorem keepsSecret_opened_iff
    (hsealed : operation.sealedBytes path passphrase files = some sealed)
    (hopened : (operation.writing sealed).opened = true) :
    operation.KeepsSecret path passphrase files ↔
      ((operation.writing sealed).returned = some true →
        (operation.writing sealed).left = sealed ∧ operation.Readable) ∧
      ((operation.writing sealed).returned = some false →
        files path = some (operation.writing sealed).left) := by
  have hrun : operation.run path passphrase files = ((operation.writing sealed).returned,
      Function.update files path (some (operation.writing sealed).left)) := by
    rw [run_eq, hsealed]
    simp [Writing.apply, hopened]
  have hafter : (operation.run path passphrase files).2 path =
      some (operation.writing sealed).left := by
    rw [hrun]
    exact Function.update_self ..
  constructor
  · intro h
    refine ⟨fun htrue => ?_, fun hfalse => ?_⟩
    · obtain ⟨sealed', hsealed', hfile, hreopens⟩ := h.written (by rw [hrun, htrue])
      obtain rfl := Option.some.inj (hsealed.symm.trans hsealed')
      exact ⟨Option.some.inj (hafter.symm.trans hfile), (reopens_iff hsealed hfile).mp hreopens⟩
    · rw [← h.kept (by rw [hrun, hfalse]), hafter]
  · rintro ⟨hwritten, hkept⟩
    constructor
    · intro htrue
      rw [hrun] at htrue
      obtain ⟨hleft, hreadable⟩ := hwritten htrue
      rw [hleft] at hafter
      exact ⟨sealed, hsealed, hafter, (reopens_iff hsealed hafter).mpr hreadable⟩
    · intro hfalse
      rw [hafter]
      rw [hrun] at hfalse
      exact (hkept hfalse).symm

omit [Sodium] [RecoveryWordlist] in
/-- A stream that is created new. -/
theorem stream_withstands_iff {outcome : StreamOutcome} (hnew : files path = none) :
    (((outcome.writing sealed).returned = some true →
        (outcome.writing sealed).left = sealed ∧ True) ∧
      ((outcome.writing sealed).returned = some false →
        files path = some (outcome.writing sealed).left)) ↔
      outcome.restricted = true ∧ heldBytes outcome.held sealed = sealed := by
  rcases hrestricted : outcome.restricted with _ | _ <;>
    simp [StreamOutcome.writing, hrestricted, hnew]

omit [Sodium] [RecoveryWordlist] in
/-- A descriptor that is created new. -/
theorem descriptor_withstands_iff {outcome : DescriptorOutcome} (hnew : files path = none) :
    (((outcome.writing sealed).returned = some true →
        (outcome.writing sealed).left = sealed ∧ True) ∧
      ((outcome.writing sealed).returned = some false →
        files path = some (outcome.writing sealed).left)) ↔
      FailsAfter outcome.writes sealed.length ∧
        ((writeAll outcome.writes sealed).1.isSome = true →
          heldBytes outcome.held sealed = sealed) := by
  have hfalse : (writeAll outcome.writes sealed).1 = some false ↔
      ¬ FailsAfter outcome.writes sealed.length := writeAll_false_iff
  rcases hreturned : (writeAll outcome.writes sealed).1 with _ | _ | _
  · -- the loop has not come back
    simp only [hreturned, reduceCtorEq, false_iff, not_not] at hfalse
    simp [DescriptorOutcome.writing, hreturned, hfalse]
  · simp only [hreturned, true_iff] at hfalse
    simp [DescriptorOutcome.writing, hreturned, hfalse, hnew]
  · simp only [hreturned, Option.some.injEq, Bool.true_eq_false, false_iff, not_not] at hfalse
    have hall : (writeAll outcome.writes sealed).2 = sealed := writeAll_true hreturned
    simp [DescriptorOutcome.writing, hreturned, hfalse, hall]

/-- What the file holds and what is returned agree exactly if everything goes
well. -/
theorem withstands_iff (hsealed : operation.sealedBytes path passphrase files = some sealed) :
    (((operation.writing sealed).returned = some true →
        (operation.writing sealed).left = sealed ∧ operation.Readable) ∧
      ((operation.writing sealed).returned = some false →
        files path = some (operation.writing sealed).left)) ↔
      operation.Withstands path sealed files := by
  cases operation with
  | saveRegistry entries world =>
    rcases hrestricted : world.outcome.restricted with _ | _ <;>
      simp [writing, StreamOutcome.writing, Withstands, Readable, hrestricted]
  | createSeed entropy world => exact stream_withstands_iff (sealedOnce_some hsealed).1
  | restoreSeed phrase world => exact stream_withstands_iff (sealedOnce_some hsealed).1
  | createIdentity drawn world => exact descriptor_withstands_iff (sealedOnce_some hsealed).1

end SecretOperation

/-- A secret file is kept exactly if, once it is open, everything goes well: all
bytes are taken and held, `chmod` succeeds, and the entries of a registry are
within the bounds of its reader. -/
theorem secrets_kept_iff [RecoveryWordlist] (operation : SecretOperation)
    (path passphrase : ByteString) (files : Files) :
    operation.KeepsSecret path passphrase files ↔
      operation.Undisturbed path passphrase files := by
  rcases hsealed : operation.sealedBytes path passphrase files with _ | sealed
  · refine iff_of_true (SecretOperation.keepsSecret_of_unopened ?_) ?_
    · intro sealed h
      rw [hsealed] at h
      cases h
    · intro sealed h
      rw [hsealed] at h
      cases h
  rcases hopened : (operation.writing sealed).opened with _ | _
  · refine iff_of_true (SecretOperation.keepsSecret_of_unopened ?_) ?_
    · intro sealed' h
      obtain rfl := Option.some.inj (hsealed.symm.trans h)
      exact hopened
    · intro sealed' h hopened'
      obtain rfl := Option.some.inj (hsealed.symm.trans h)
      rw [hopened] at hopened'
      cases hopened'
  · rw [SecretOperation.keepsSecret_opened_iff hsealed hopened,
      SecretOperation.withstands_iff hsealed]
    constructor
    · intro h sealed' hsealed' _
      obtain rfl := Option.some.inj (hsealed.symm.trans hsealed')
      exact h
    · exact fun h => h sealed hsealed hopened

/-! ## A full disk -/

/-- A word list for runs in which the phrase does not matter. -/
@[reducible]
def blankWordlist : RecoveryWordlist where
  words := List.replicate 2048 []
  words_length := List.length_replicate

/-- A seed of which nothing reached the disk. -/
def lostSeed : SecretOperation :=
  .createSeed (FixedBytes.zero _) { outcome := { held := some 0 } }

/-- A registry of which one byte did. -/
def cutRegistry : SecretOperation := .saveRegistry [] { outcome := { held := some 1 } }

/-- An identity of which five bytes did, and this writer noticed. -/
def cutIdentity : SecretOperation :=
  .createIdentity (some (FixedBytes.zero _)) { outcome := { writes := [.accepted 5, .failed] } }

omit [Sodium] in
/-- The seed is reported as created and cannot be unlocked, and the registry is
reported as saved while the old one is gone; the identity is reported as not
created, and its file is in the way of the next attempt. -/
theorem secrets_lost_on_full_disk :
    letI := transparentSodium
    letI := blankWordlist
    let path := ascii "secret"
    let passphrase := ascii "passe"
    let empty : Files := fun _ => none
    let before : Files := fun _ => some (ascii "registre")
    (lostSeed.run path passphrase empty).1 = some true ∧
      (unlockSeed path passphrase (lostSeed.run path passphrase empty).2).isOk = false ∧
      ¬ lostSeed.KeepsSecret path passphrase empty ∧
    (cutRegistry.run path passphrase before).1 = some true ∧
      (cutRegistry.run path passphrase before).2 path = some (ascii "H") ∧
      ¬ cutRegistry.KeepsSecret path passphrase before ∧
    (cutIdentity.run path passphrase empty).1 = some false ∧
      (cutIdentity.run path passphrase empty).2 path = some (ascii "HYPCK") ∧
      ¬ cutIdentity.KeepsSecret path passphrase empty := by
  intro path passphrase empty before
  let _ := transparentSodium
  let _ := blankWordlist
  have hseed : (lostSeed.run path passphrase empty).1 = some true := by decide +kernel
  have hlocked : (unlockSeed path passphrase (lostSeed.run path passphrase empty).2).isOk =
      false := by decide +kernel
  have hregistry : (cutRegistry.run path passphrase before).1 = some true := by decide +kernel
  have hcut : (cutRegistry.run path passphrase before).2 path = some (ascii "H") := by
    decide +kernel
  have hidentity : (cutIdentity.run path passphrase empty).1 = some false := by decide +kernel
  have hleft : (cutIdentity.run path passphrase empty).2 path = some (ascii "HYPCK") := by
    decide +kernel
  refine ⟨hseed, hlocked, fun h => ?_, hregistry, hcut, fun h => ?_, hidentity, hleft, fun h => ?_⟩
  · obtain ⟨sealed, -, -, seed, -, hunlocked⟩ := h.written hseed
    rw [hunlocked] at hlocked
    cases hlocked
  · obtain ⟨sealed, hsealed, hfile, -⟩ := h.written hregistry
    obtain rfl := Option.some.inj (hcut.symm.trans hfile)
    revert hsealed
    decide +kernel
  · have hkept := h.kept hidentity
    rw [hleft] at hkept
    cases hkept

end HyperCom
