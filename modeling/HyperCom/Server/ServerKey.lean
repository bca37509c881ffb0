import HyperCom.Crypto.DirectMessage
import HyperCom.Crypto.Noise
import HyperCom.Lib.WriteLoop

/-!
# The key the clients pin

`load_or_create_server_key`: the secret of the server is read from its file, and
made when the reading fails. `read_secret_file` has one answer for a file that is
missing, that cannot be read and that is too short, and `write_secret_file` opens
with truncation, so the second and the third are overwritten like the first is
created.

`loadOrCreateServerKey_keeps_iff` says for which answers of the system the key in
an existing file survives the call.
-/

namespace HyperCom

open WriteLoop

/-- What the system answers during one call. -/
structure KeyFileOutcome where
  /-- `std::ifstream{path}` succeeds on a file that exists -/
  opened : Bool := true
  /-- how much `read` delivers, if not everything it asks for -/
  delivered : Option ℕ := none
  /-- `generate_x25519_keypair` -/
  generated : EphemeralKeypair := none
  /-- `open` for writing succeeds -/
  writable : Bool := true
  /-- the answers of `write`, one after the other -/
  writes : List Attempt := []

/-- What a call comes to: the result, if it has come back, the file it leaves, and
what it has written to it. -/
structure ServerKeyCall where
  returned : Option (Except ByteString (X25519PublicKey × X25519SecretKey))
  file : Option ByteString
  written : ByteString := []

/-- What `read` gets of a file. -/
def KeyFileOutcome.readable (outcome : KeyFileOutcome) (content : ByteString) : ByteString :=
  match outcome.delivered with
  | none => content
  | some count => content.take count

/-- `read_secret_file` -/
def readSecretFile (outcome : KeyFileOutcome) (file : Option ByteString) : Option X25519SecretKey :=
  match file with
  | none => none
  | some content =>
    if !outcome.opened then none
    else if (outcome.readable content).length < 32 then none
    else some (FixedBytes.copyFrom 32 (outcome.readable content))

/-- `write_secret_file`: a file that was there is emptied by `open`. -/
def writeSecretFile (path : ByteString) (keys : X25519PublicKey × X25519SecretKey)
    (outcome : KeyFileOutcome) (file : Option ByteString) : ServerKeyCall :=
  if !outcome.writable then
    { returned := some (.error (ascii "ecriture impossible : " ++ path)), file }
  else
    let out := writeAll outcome.writes keys.2.1
    { returned := out.1.map fun ok =>
        if ok then .ok keys else .error (ascii "ecriture incomplete : " ++ path)
      file := some out.2
      written := out.2 }

variable [Sodium]

/-- `load_or_create_server_key` -/
def loadOrCreateServerKey (path : ByteString) (outcome : KeyFileOutcome)
    (file : Option ByteString) : ServerKeyCall :=
  match readSecretFile outcome file with
  | some secret => { returned := some (.ok (computePublicFromSecret secret, secret)), file }
  | none =>
    match outcome.generated with
    | none =>
      { returned := some (.error (ascii "generation de la cle serveur impossible")), file }
    | some keys => writeSecretFile path keys outcome file

/-- The call leaves a file with this content alone, and answers with the keys in
it or with a failure. -/
structure ServerKeyCall.Keeps (call : ServerKeyCall) (content : ByteString) : Prop where
  file : call.file = some content
  written : call.written = []
  returned : (∃ error, call.returned = some (.error error)) ∨
    ∃ secret : X25519SecretKey, 32 ≤ content.length ∧ secret.1 = content.take 32 ∧
      call.returned = some (.ok (computePublicFromSecret secret, secret))

/-- The 32 bytes of the secret are there and can be read. -/
def KeyFileOutcome.Reads (outcome : KeyFileOutcome) (content : ByteString) : Prop :=
  outcome.opened = true ∧ 32 ≤ content.length ∧
    ∀ count, outcome.delivered = some count → 32 ≤ count

section Reading

variable {outcome : KeyFileOutcome} {content : ByteString}

omit [Sodium] in
theorem KeyFileOutcome.readable_length (outcome : KeyFileOutcome) (content : ByteString) :
    32 ≤ (outcome.readable content).length ↔ 32 ≤ content.length ∧
      ∀ count, outcome.delivered = some count → 32 ≤ count := by
  rcases hdelivered : outcome.delivered with _ | count
  · simp [readable, hdelivered]
  · simp only [readable, hdelivered, List.length_take, le_min_iff, Option.some.injEq,
      forall_eq']
    exact and_comm

omit [Sodium] in
/-- Reading succeeds on the front of the file. -/
theorem readSecretFile_some {secret : X25519SecretKey}
    (h : readSecretFile outcome (some content) = some secret) :
    32 ≤ content.length ∧ secret.1 = content.take 32 := by
  simp only [readSecretFile] at h
  split at h
  · cases h
  split at h
  · cases h
  next hlong =>
  obtain ⟨hlength, hcount⟩ := (outcome.readable_length content).mp (not_lt.mp hlong)
  refine ⟨hlength, ?_⟩
  rw [← Option.some.inj h, FixedBytes.copyFrom_val (not_lt.mp hlong), KeyFileOutcome.readable]
  rcases hdelivered : outcome.delivered with _ | count
  · rfl
  · rw [List.take_take, Nat.min_eq_left (hcount count hdelivered)]

omit [Sodium] in
theorem readSecretFile_isSome_iff :
    (readSecretFile outcome (some content)).isSome = true ↔ outcome.Reads content := by
  rw [KeyFileOutcome.Reads, ← outcome.readable_length content]
  simp only [readSecretFile]
  rcases hopened : outcome.opened with _ | _
  · simp
  · simp only [Bool.not_true, Bool.false_eq_true, if_false, true_and]
    split
    · next hshort => simp [hshort]
    · next hlong => simp [not_lt.mp hlong]

end Reading

section Calls

variable {path content : ByteString} {outcome : KeyFileOutcome}

/-- A secret that was read is the answer, and the file is not touched. -/
theorem loadOrCreateServerKey_read (path : ByteString) (h : outcome.Reads content) :
    (loadOrCreateServerKey path outcome (some content)).Keeps content := by
  obtain ⟨secret, hsecret⟩ := Option.isSome_iff_exists.mp (readSecretFile_isSome_iff.mpr h)
  obtain ⟨hlength, hfront⟩ := readSecretFile_some hsecret
  rw [loadOrCreateServerKey, hsecret]
  exact ⟨rfl, rfl, .inr ⟨secret, hlength, hfront, rfl⟩⟩

/-- Otherwise the file is in the hands of the writer. -/
theorem loadOrCreateServerKey_unread (path : ByteString) (h : ¬ outcome.Reads content) :
    loadOrCreateServerKey path outcome (some content) =
      match outcome.generated with
      | none => { returned := some (.error (ascii "generation de la cle serveur impossible"))
                  file := some content }
      | some keys => writeSecretFile path keys outcome (some content) := by
  have hnone : readSecretFile outcome (some content) = none := by
    rw [← Option.not_isSome_iff_eq_none, readSecretFile_isSome_iff]
    exact h
  rw [loadOrCreateServerKey, hnone]

omit [Sodium] in
/-- A secret has bytes to write. -/
theorem secret_ne_nil (secret : X25519SecretKey) : secret.1 ≠ [] := by
  intro hempty
  have hlength := secret.2
  rw [hempty] at hlength
  exact absurd hlength (by decide)

/-- The writer leaves a file alone if it cannot open it, or if the file was empty
and stays so. -/
theorem writeSecretFile_keeps_iff (keys : X25519PublicKey × X25519SecretKey) :
    (writeSecretFile path keys outcome (some content)).Keeps content ↔
      outcome.writable = false ∨
        content = [] ∧ countBeforeFailure outcome.writes = 0 ∧ .failed ∈ outcome.writes := by
  rw [writeSecretFile]
  rcases outcome.writable with _ | _
  · simp only [Bool.not_false, if_true, true_or, iff_true]
    exact ⟨rfl, rfl, .inl ⟨_, rfl⟩⟩
  · simp only [Bool.not_true, Bool.false_eq_true, if_false, Bool.true_eq_false, false_or]
    rw [← writeAll_untouched_iff (secret_ne_nil keys.2)]
    constructor
    · intro hkeeps
      have hnone : (writeAll outcome.writes keys.2.1).2 = [] := hkeeps.written
      have hcontent : content = [] := by
        rw [← Option.some.inj hkeeps.file, hnone]
      refine ⟨hcontent, ?_, hnone⟩
      rcases hkeeps.returned with ⟨error, herror⟩ | ⟨secret, hlong, -, -⟩
      · obtain ⟨ok, hok, -⟩ := Option.map_eq_some_iff.mp herror
        rw [hok]
        rfl
      · rw [hcontent] at hlong
        exact absurd hlong (by decide)
    · rintro ⟨rfl, hback, hnone⟩
      refine ⟨by rw [hnone], hnone, .inl ?_⟩
      obtain ⟨ok, hok⟩ := Option.isSome_iff_exists.mp hback
      rcases ok with _ | _
      · exact ⟨_, by rw [hok]; rfl⟩
      · exact absurd (hnone ▸ (writeAll_true hok)).symm (secret_ne_nil keys.2)

/-- When the key in a file survives `load_or_create_server_key`: it is read, or no
key is made, or the file cannot be opened for writing, or there was nothing in it
and nothing gets into it. -/
theorem loadOrCreateServerKey_keeps_iff (path content : ByteString) (outcome : KeyFileOutcome) :
    (loadOrCreateServerKey path outcome (some content)).Keeps content ↔
      outcome.Reads content ∨ outcome.generated = none ∨ outcome.writable = false ∨
        (content = [] ∧ countBeforeFailure outcome.writes = 0 ∧ .failed ∈ outcome.writes) := by
  by_cases hreads : outcome.Reads content
  · exact iff_of_true (loadOrCreateServerKey_read path hreads) (.inl hreads)
  · rw [loadOrCreateServerKey_unread path hreads]
    rcases outcome.generated with _ | keys
    · exact iff_of_true ⟨rfl, rfl, .inl ⟨_, rfl⟩⟩ (.inr (.inl rfl))
    · simp only [writeSecretFile_keeps_iff, hreads, reduceCtorEq, false_or]

omit [Sodium] in
/-- A file with one byte too few, and a system on which everything works: the
clients' key is gone, and the call reports success. -/
theorem short_key_overwritten :
    letI := transparentSodium
    let fresh : FixedBytes 32 := ⟨List.replicate 32 9, rfl⟩
    let call := loadOrCreateServerKey (ascii "keys/server_static.key")
      { generated := some (fresh, fresh), writes := [.accepted 32] }
      (some (List.replicate 31 7))
    call.returned.map Except.isOk = some true ∧ call.file = some (List.replicate 32 9) ∧
      ¬ call.Keeps (List.replicate 31 7) := by
  let _ := transparentSodium
  refine ⟨by decide, by decide, fun hkeeps => ?_⟩
  exact absurd hkeeps.file (by decide)

/-- Where there was no file, the pair that was made is returned, and its secret is
what the file holds. -/
theorem loadOrCreateServerKey_absent {keys : X25519PublicKey × X25519SecretKey}
    (hgenerated : outcome.generated = some keys) (hwritable : outcome.writable = true)
    (hwrites : (writeAll outcome.writes keys.2.1).1 = some true) :
    loadOrCreateServerKey path outcome none =
      { returned := some (.ok keys), file := some keys.2.1, written := keys.2.1 } := by
  have hall := writeAll_true hwrites
  simp only [loadOrCreateServerKey, readSecretFile, hgenerated, writeSecretFile, hwritable,
    Bool.not_true, Bool.false_eq_true, if_false, hwrites, hall, Option.map_some, if_true]

end Calls

end HyperCom
