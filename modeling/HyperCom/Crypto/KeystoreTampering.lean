import HyperCom.Crypto.Keystore
import Mathlib.Data.List.Nodup

/-!
# What a sealed blob cannot be changed into

`open_blob` takes the costs, the salt and the nonce from a header that anyone can write.
The header is the associated data, so a blob that opens is one that was sealed, byte for
byte, and under this passphrase (`keystore_envelope`).

`openBlobInto` is `open_blob` with its out-parameter, and with reads that say whether they
stay inside the input.

Any change to the header is a change of the associated data, any change behind it a change
of the ciphertext, and the cipher refuses both. What it needs of the cipher is a hypothesis
with a name.
-/

namespace HyperCom

/-! ## Reads inside the input -/

/-- `sealed.subspan(offset, count)`; `none` where it leaves the input. -/
def subspan (source : ByteString) (offset count : ℕ) : Option ByteString :=
  if offset + count ≤ source.length then some ((source.drop offset).take count) else none

/-- `read_u32`; `none` where it leaves the input. -/
def readU32Within (source : ByteString) (offset : ℕ) : Option UInt32 :=
  (List.range 4).foldlM (fun value index => (source[offset + index]?).map fun byte =>
    value ||| (byte.toUInt32 <<< (UInt32.ofNat index * 8))) 0

theorem FixedBytes.copyFrom_take (n : ℕ) (source : ByteString) :
    FixedBytes.copyFrom n (source.take n) = FixedBytes.copyFrom n source := by
  simp only [FixedBytes.copyFrom, List.take_take, Nat.min_self]

section Reads

variable {source : ByteString} {offset count : ℕ}

theorem subspan_inside (h : offset + count ≤ source.length) :
    subspan source offset count = some ((source.drop offset).take count) := if_pos h

theorem readU32Within_inside (h : offset + 4 ≤ source.length) :
    readU32Within source offset = some (readU32 source offset) := by
  have hloop : ∀ (indices : List ℕ) (value : UInt32), (∀ index ∈ indices, index < 4) →
      indices.foldlM (fun value index => (source[offset + index]?).map fun byte =>
          value ||| (byte.toUInt32 <<< (UInt32.ofNat index * 8))) value =
        some (indices.foldl (fun value index =>
          value ||| ((source.getD (offset + index) 0).toUInt32 <<< (UInt32.ofNat index * 8))) value) := by
    intro indices
    induction indices with
    | nil => exact fun _ _ => rfl
    | cons index indices ih =>
      intro value hindices
      have hlt : offset + index < source.length := by
        have := hindices index List.mem_cons_self
        omega
      simp only [List.foldlM_cons, List.foldl_cons, List.getElem?_eq_getElem hlt, Option.map_some,
        Option.bind_eq_bind, Option.bind_some, List.getD_eq_getElem?_getD, Option.getD_some]
      simpa only [List.getD_eq_getElem?_getD] using
        ih _ fun index hindex => hindices index (List.mem_cons_of_mem _ hindex)
  exact hloop _ 0 fun index hindex => List.mem_range.mp hindex

end Reads

variable [Sodium]

/-! ## `open_blob` with its out-parameter -/

/-- `open_blob`: what it returns and what it leaves in the vector it was given. `none` where
a read leaves the input. -/
def openBlobInto (passphrase sealed out : ByteString) : Option (Bool × ByteString) :=
  if sealed.length < keystoreHeaderSize + aeadTagSize then some (false, out)
  else do
    let magic ← subspan sealed 0 8
    if magic ≠ keystoreMagic then some (false, out)
    else
      let version ← sealed[8]?
      if version ≠ keystoreVersion then some (false, out)
      else
        let operations ← readU32Within sealed (8 + 1)
        let memoryKib ← readU32Within sealed (8 + 5)
        let salt ← subspan sealed (8 + 9) argon2idSaltSize
        let nonce ← subspan sealed (8 + 9 + argon2idSaltSize) xchachaNonceSize
        match deriveWrappingKey passphrase (FixedBytes.copyFrom argon2idSaltSize salt) operations
            memoryKib with
        | none => some (false, out)
        | some wrappingKey =>
          let header ← subspan sealed 0 keystoreHeaderSize
          let body ← subspan sealed keystoreHeaderSize (sealed.length - keystoreHeaderSize)
          match Sodium.xchachaDecrypt wrappingKey (FixedBytes.copyFrom xchachaNonceSize nonce) header
              body with
          | none => some (false, [])
          | some plaintext => some (true, plaintext)

/-- The checks of the header let the bytes pass. -/
def PassesHeaderChecks (sealed : ByteString) : Prop :=
  keystoreHeaderSize + aeadTagSize ≤ sealed.length ∧ sealed.take 8 = keystoreMagic ∧
    sealed.getD 8 0 = keystoreVersion

instance (sealed : ByteString) : Decidable (PassesHeaderChecks sealed) :=
  inferInstanceAs (Decidable (_ ∧ _ ∧ _))

/-- Bytes that are handed to `open_blob`. -/
structure BlobOpening where
  passphrase : ByteString
  sealed : ByteString

namespace BlobOpening

/-- The salt the header names. -/
def salt (opening : BlobOpening) : FixedBytes argon2idSaltSize :=
  FixedBytes.copyFrom argon2idSaltSize (opening.sealed.drop (8 + 9))

/-- The nonce the header names. -/
def nonce (opening : BlobOpening) : FixedBytes xchachaNonceSize :=
  FixedBytes.copyFrom xchachaNonceSize (opening.sealed.drop (8 + 9 + argon2idSaltSize))

/-- The key of the passphrase, with the salt and the costs the header names. -/
def key (opening : BlobOpening) : Option SymmetricKey :=
  deriveWrappingKey opening.passphrase opening.salt (readU32 opening.sealed (8 + 1))
    (readU32 opening.sealed (8 + 5))

variable {opening : BlobOpening}

/-- Where the checks or the key derivation fail, the vector keeps what it had. -/
theorem openBlob_refused (h : ¬ (PassesHeaderChecks opening.sealed ∧ opening.key.isSome = true)) :
    openBlob opening.passphrase opening.sealed = none := by
  rw [openBlob]
  split_ifs with hlength hmagic hversion
  · rfl
  · rfl
  · rfl
  have hpasses : PassesHeaderChecks opening.sealed :=
    ⟨not_lt.mp hlength, not_not.mp hmagic, not_not.mp hversion⟩
  have hkey : opening.key = none :=
    Option.not_isSome_iff_eq_none.mp fun hsome => h ⟨hpasses, hsome⟩
  rw [key, salt] at hkey
  simp only [hkey]

/-- Past them the AEAD decides. -/
theorem openBlob_decrypts (hpasses : PassesHeaderChecks opening.sealed) {wrappingKey : SymmetricKey}
    (hkey : opening.key = some wrappingKey) :
    openBlob opening.passphrase opening.sealed =
      Sodium.xchachaDecrypt wrappingKey opening.nonce (opening.sealed.take keystoreHeaderSize)
        (opening.sealed.drop keystoreHeaderSize) := by
  obtain ⟨hlength, hmagic, hversion⟩ := hpasses
  rw [key, salt] at hkey
  rw [openBlob, if_neg (not_lt.mpr hlength), if_neg (not_not.mpr hmagic),
    if_neg (not_not.mpr hversion)]
  simp only [hkey]
  rfl

/-- Behind the check of the length every read stays inside the input. -/
theorem openBlobInto_long (hlength : ¬ opening.sealed.length < keystoreHeaderSize + aeadTagSize)
    (out : ByteString) :
    openBlobInto opening.passphrase opening.sealed out =
      if opening.sealed.take 8 ≠ keystoreMagic then some (false, out)
      else if opening.sealed.getD 8 0 ≠ keystoreVersion then some (false, out)
      else
        match opening.key with
        | none => some (false, out)
        | some wrappingKey =>
          match Sodium.xchachaDecrypt wrappingKey opening.nonce
              (opening.sealed.take keystoreHeaderSize) (opening.sealed.drop keystoreHeaderSize) with
          | none => some (false, [])
          | some plaintext => some (true, plaintext) := by
  have hlong : 57 + 16 ≤ opening.sealed.length := not_lt.mp hlength
  have hmagic : subspan opening.sealed 0 8 = some (opening.sealed.take 8) :=
    subspan_inside (by omega)
  have hversion : opening.sealed[8]? = some (opening.sealed.getD 8 0) := by
    rw [List.getD_eq_getElem?_getD, List.getElem?_eq_getElem (by omega), Option.getD_some]
  have hoperations : readU32Within opening.sealed (8 + 1) = some (readU32 opening.sealed (8 + 1)) :=
    readU32Within_inside (by omega)
  have hmemory : readU32Within opening.sealed (8 + 5) = some (readU32 opening.sealed (8 + 5)) :=
    readU32Within_inside (by omega)
  have hsalt : subspan opening.sealed (8 + 9) argon2idSaltSize =
      some ((opening.sealed.drop (8 + 9)).take argon2idSaltSize) :=
    subspan_inside ((show 8 + 9 + argon2idSaltSize ≤ 57 by decide).trans (by omega))
  have hnonce : subspan opening.sealed (8 + 9 + argon2idSaltSize) xchachaNonceSize =
      some ((opening.sealed.drop (8 + 9 + argon2idSaltSize)).take xchachaNonceSize) :=
    subspan_inside ((show 8 + 9 + argon2idSaltSize + xchachaNonceSize ≤ 57 by decide).trans (by omega))
  have hheader : subspan opening.sealed 0 keystoreHeaderSize =
      some (opening.sealed.take keystoreHeaderSize) :=
    subspan_inside ((show 0 + keystoreHeaderSize ≤ 57 by decide).trans (by omega))
  have hbody : subspan opening.sealed keystoreHeaderSize (opening.sealed.length - keystoreHeaderSize) =
      some (opening.sealed.drop keystoreHeaderSize) := by
    have hsize : keystoreHeaderSize ≤ opening.sealed.length :=
      (show keystoreHeaderSize ≤ 57 by decide).trans (by omega)
    rw [subspan_inside (by omega), List.take_of_length_le (by rw [List.length_drop])]
  rw [openBlobInto, if_neg hlength, key, salt, nonce]
  simp only [hmagic, hversion, hoperations, hmemory, hsalt, hnonce, hheader, hbody,
    Option.bind_eq_bind, Option.bind_some, FixedBytes.copyFrom_take]

/-- No read leaves the input. A failing call empties the vector if it got to the AEAD, and
does not touch it otherwise. -/
theorem openBlobInto_eq (opening : BlobOpening) (out : ByteString) :
    openBlobInto opening.passphrase opening.sealed out =
      some (match openBlob opening.passphrase opening.sealed with
        | some plaintext => (true, plaintext)
        | none => (false,
            if PassesHeaderChecks opening.sealed ∧ opening.key.isSome = true then [] else out)) := by
  have hrefuse : ∀ {result : Option (Bool × ByteString)},
      ¬ (PassesHeaderChecks opening.sealed ∧ opening.key.isSome = true) → result = some (false, out) →
      result = some (match openBlob opening.passphrase opening.sealed with
        | some plaintext => (true, plaintext)
        | none => (false,
            if PassesHeaderChecks opening.sealed ∧ opening.key.isSome = true then [] else out)) := by
    intro result hrefused hresult
    rw [openBlob_refused hrefused, if_neg hrefused, hresult]
  by_cases hlength : opening.sealed.length < keystoreHeaderSize + aeadTagSize
  · exact hrefuse (fun hpasses => absurd hpasses.1.1 (not_le.mpr hlength))
      (by rw [openBlobInto, if_pos hlength])
  rw [openBlobInto_long hlength]
  by_cases hmagic : opening.sealed.take 8 = keystoreMagic
  case neg => exact hrefuse (fun hpasses => hmagic hpasses.1.2.1) (if_pos hmagic)
  rw [if_neg (not_not.mpr hmagic)]
  by_cases hversion : opening.sealed.getD 8 0 = keystoreVersion
  case neg => exact hrefuse (fun hpasses => hversion hpasses.1.2.2) (if_pos hversion)
  rw [if_neg (not_not.mpr hversion)]
  have hpasses : PassesHeaderChecks opening.sealed := ⟨not_lt.mp hlength, hmagic, hversion⟩
  rcases hkey : opening.key with _ | wrappingKey
  · rw [← hkey]
    exact hrefuse (by simp [hkey]) (by rw [hkey])
  · rw [openBlob_decrypts hpasses hkey, if_pos ⟨hpasses, rfl⟩]
    dsimp only
    rcases Sodium.xchachaDecrypt wrappingKey opening.nonce (opening.sealed.take keystoreHeaderSize)
      (opening.sealed.drop keystoreHeaderSize) with _ | plaintext
    · rfl
    · rfl

end BlobOpening

/-! ## The log of what was sealed -/

/-- A run of `seal_blob` that succeeded, with the salt and the nonce it drew. -/
structure BlobSealing where
  passphrase : ByteString
  plaintext : ByteString
  salt : FixedBytes argon2idSaltSize
  nonce : FixedBytes xchachaNonceSize
  sealed : ByteString
  performed : sealBlob passphrase plaintext salt nonce = some sealed

namespace BlobSealing

/-- The key it sealed under. -/
def key (sealing : BlobSealing) : Option SymmetricKey :=
  deriveWrappingKey sealing.passphrase sealing.salt opslimitModerate memlimitModerateKib

/-- The header it wrote. -/
def header (sealing : BlobSealing) : ByteString := keystoreHeader sealing.salt sealing.nonce

/-- What was sealed: the header and the ciphertext under the key. -/
theorem sealed_eq (sealing : BlobSealing) :
    ∃ wrappingKey, sealing.key = some wrappingKey ∧ sealing.sealed = sealing.header ++
      Sodium.xchachaEncrypt wrappingKey sealing.nonce sealing.header sealing.plaintext := by
  have hperformed := sealing.performed
  rw [sealBlob] at hperformed
  rcases hkey : deriveWrappingKey sealing.passphrase sealing.salt opslimitModerate
    memlimitModerateKib with _ | wrappingKey
  · rw [hkey] at hperformed
    cases hperformed
  · rw [hkey] at hperformed
    exact ⟨wrappingKey, hkey, (Option.some.inj hperformed).symm⟩

/-- The salt is the one that is read back. -/
theorem salt_read (sealing : BlobSealing) :
    FixedBytes.copyFrom argon2idSaltSize (sealing.sealed.drop (8 + 9)) = sealing.salt := by
  obtain ⟨wrappingKey, -, heq⟩ := sealing.sealed_eq
  rw [heq]
  exact (keystoreHeader_read sealing.salt sealing.nonce _).2.2.2.2.1

end BlobSealing

namespace BlobOpening

/-- The AEAD opens what was sealed under the same key, nonce and associated data, and
nothing else: what opens here is a ciphertext of the log. -/
def Authentic (sealings : List BlobSealing) (opening : BlobOpening) : Prop :=
  ∀ wrappingKey plaintext, PassesHeaderChecks opening.sealed → opening.key = some wrappingKey →
    Sodium.xchachaDecrypt wrappingKey opening.nonce (opening.sealed.take keystoreHeaderSize)
      (opening.sealed.drop keystoreHeaderSize) = some plaintext →
    ∃ sealing ∈ sealings, sealing.key = some wrappingKey ∧ sealing.nonce = opening.nonce ∧
      opening.sealed.take keystoreHeaderSize = sealing.header ∧
      opening.sealed.drop keystoreHeaderSize =
        Sodium.xchachaEncrypt wrappingKey sealing.nonce sealing.header sealing.plaintext

/-- Argon2id makes different keys of different passphrases. -/
def KeysApart (sealings : List BlobSealing) (opening : BlobOpening) : Prop :=
  ∀ sealing ∈ sealings, ∀ wrappingKey, sealing.key = some wrappingKey →
    opening.key = some wrappingKey → sealing.passphrase = opening.passphrase

variable {sealings : List BlobSealing} {opening : BlobOpening}

/-- Where nothing opens, the assumption asks for nothing. -/
theorem authentic_of_refused (h : openBlob opening.passphrase opening.sealed = none) :
    opening.Authentic sealings := by
  intro wrappingKey plaintext hpasses hkey hopen
  rw [openBlob_decrypts hpasses hkey, hopen] at h
  cases h

/-- What opens was sealed, byte for byte and under this passphrase. -/
theorem exists_sealing (authentic : opening.Authentic sealings) (apart : opening.KeysApart sealings)
    {plaintext : ByteString} (h : openBlob opening.passphrase opening.sealed = some plaintext) :
    ∃ sealing ∈ sealings, sealing.passphrase = opening.passphrase ∧
      sealing.sealed = opening.sealed ∧ sealing.plaintext = plaintext := by
  have hreached : PassesHeaderChecks opening.sealed ∧ opening.key.isSome = true := by
    by_contra hrefused
    rw [openBlob_refused hrefused] at h
    cases h
  obtain ⟨hpasses, hsome⟩ := hreached
  obtain ⟨wrappingKey, hkey⟩ := Option.isSome_iff_exists.mp hsome
  rw [openBlob_decrypts hpasses hkey] at h
  obtain ⟨sealing, hmem, hsealed, hnonce, hheader, hbody⟩ := authentic wrappingKey plaintext hpasses hkey h
  refine ⟨sealing, hmem, apart sealing hmem wrappingKey hsealed hkey, ?_, ?_⟩
  · obtain ⟨key, hkey', heq⟩ := sealing.sealed_eq
    obtain rfl := Option.some.inj (hkey'.symm.trans hsealed)
    rw [heq, ← hbody, ← hheader, List.take_append_drop]
  · rw [hheader, hbody, ← hnonce, Sodium.xchachaDecrypt_encrypt] at h
    exact Option.some.inj h

end BlobOpening

/-- For every log of what `seal_blob` returned, and any passphrase and bytes: a sealed blob
is opened by its passphrase, whatever the vector held before; `open_blob` succeeds only on
what was sealed under this passphrase, so not on bytes that were changed and, each salt
being drawn once, not under another passphrase; no read leaves the input; and a failing
call leaves the vector empty if it got to the AEAD, and as it was if the header or the key
derivation stopped it. -/
theorem keystore_envelope (sealings : List BlobSealing) (opening : BlobOpening)
    (authentic : opening.Authentic sealings) (apart : opening.KeysApart sealings) :
    (∀ (sealing : BlobSealing) (out : ByteString),
      openBlobInto sealing.passphrase sealing.sealed out = some (true, sealing.plaintext)) ∧
    (∀ out plaintext, openBlobInto opening.passphrase opening.sealed out = some (true, plaintext) →
      ∃ sealing ∈ sealings, sealing.passphrase = opening.passphrase ∧
        sealing.sealed = opening.sealed ∧ sealing.plaintext = plaintext) ∧
    ((sealings.map BlobSealing.salt).Nodup → ∀ sealing ∈ sealings,
      sealing.sealed = opening.sealed → sealing.passphrase ≠ opening.passphrase →
        ∀ out plaintext, openBlobInto opening.passphrase opening.sealed out ≠ some (true, plaintext)) ∧
    ∀ out, ∃ opened after, openBlobInto opening.passphrase opening.sealed out = some (opened, after) ∧
      (opened = false → after =
        if PassesHeaderChecks opening.sealed ∧ opening.key.isSome = true then [] else out) := by
  have hsealed : ∀ {out plaintext},
      openBlobInto opening.passphrase opening.sealed out = some (true, plaintext) →
      ∃ sealing ∈ sealings, sealing.passphrase = opening.passphrase ∧
        sealing.sealed = opening.sealed ∧ sealing.plaintext = plaintext := by
    intro out plaintext h
    rw [opening.openBlobInto_eq] at h
    rcases hopened : openBlob opening.passphrase opening.sealed with _ | content
    · rw [hopened] at h
      cases h
    · rw [hopened] at h
      obtain rfl : content = plaintext := congrArg Prod.snd (Option.some.inj h)
      exact BlobOpening.exists_sealing authentic apart hopened
  refine ⟨fun sealing out => ?_, fun _ _ => hsealed, ?_, fun out => ?_⟩
  · have hopened := openBlob_sealBlob sealing.performed
    rw [BlobOpening.openBlobInto_eq ⟨sealing.passphrase, sealing.sealed⟩ out, hopened]
  · intro fresh sealing hmem hbytes hother out plaintext hopens
    obtain ⟨other, hmem', hpassphrase, hsame, -⟩ := hsealed hopens
    -- the bytes name the salt, and each salt is drawn once
    have hsalt : sealing.salt = other.salt := by
      rw [← sealing.salt_read, ← other.salt_read, hbytes, hsame]
    obtain rfl := List.inj_on_of_nodup_map fresh hmem hmem' hsalt
    exact hother hpassphrase
  · rw [opening.openBlobInto_eq]
    rcases openBlob opening.passphrase opening.sealed with _ | content
    · exact ⟨false, _, rfl, fun _ => rfl⟩
    · exact ⟨true, content, rfl, nofun⟩

/-! ## Changed blobs -/

omit [Sodium]

/-- The keyed stand-in with a key derivation that depends on its inputs, and fails on a cost
of 0 as libsodium's does. -/
@[reducible]
def derivingSodium : Sodium :=
  { keyedSodium with
    pwhash := fun passphrase salt operations memory =>
      if operations = 0 then none
      else some (digest 32 (passphrase ++ salt.1 ++ [UInt8.ofNat operations, UInt8.ofNat (memory / 2 ^ 20)])) }

/-- A text sealed under the passphrase "passe", with a salt of ones and a nonce of twos. -/
def sealedSalut : @BlobSealing derivingSodium :=
  let _ := derivingSodium
  { passphrase := ascii "passe"
    plaintext := ascii "salut"
    salt := repeatedBytes _ 1
    nonce := repeatedBytes _ 2
    sealed := (sealBlob (ascii "passe") (ascii "salut") (repeatedBytes _ 1) (repeatedBytes _ 2)).getD []
    performed := by decide +kernel }

/-- Another text under the same passphrase. -/
def sealedBonjour : @BlobSealing derivingSodium :=
  let _ := derivingSodium
  { passphrase := ascii "passe"
    plaintext := ascii "bonjour"
    salt := repeatedBytes _ 3
    nonce := repeatedBytes _ 4
    sealed := (sealBlob (ascii "passe") (ascii "bonjour") (repeatedBytes _ 3) (repeatedBytes _ 4)).getD []
    performed := by decide +kernel }

/-- The blob with a higher number of operations in its header. -/
def costlier : ByteString :=
  let _ := derivingSodium
  sealedSalut.sealed.set 9 4

/-- The blob with the number of operations in its header set to 0. -/
def costless : ByteString :=
  let _ := derivingSodium
  sealedSalut.sealed.set 9 0

/-- The blob opens under its passphrase. With a changed cost it does not, and as it is it
does not under another passphrase. -/
theorem keystore_envelope_salut :
    letI := derivingSodium
    openBlobInto (ascii "passe") sealedSalut.sealed [] = some (true, ascii "salut") ∧
    (∀ out plaintext, openBlobInto (ascii "passe") costlier out ≠ some (true, plaintext)) ∧
    ∀ out plaintext, openBlobInto (ascii "mauvaise") sealedSalut.sealed out ≠ some (true, plaintext) := by
  let _ := derivingSodium
  have hcostlier : openBlob (ascii "passe") costlier = none := by decide +kernel
  have hother : openBlob (ascii "mauvaise") sealedSalut.sealed = none := by decide +kernel
  have hpasse : BlobOpening.KeysApart [sealedSalut] ⟨ascii "passe", costlier⟩ := by
    intro sealing hsealing _ _ _
    obtain rfl := List.mem_singleton.mp hsealing
    rfl
  have hmauvaise : BlobOpening.KeysApart [sealedSalut] ⟨ascii "mauvaise", sealedSalut.sealed⟩ := by
    intro sealing hsealing wrappingKey hkey hkey'
    obtain rfl := List.mem_singleton.mp hsealing
    exact absurd (hkey.trans hkey'.symm) (by decide +kernel)
  refine ⟨?_, fun out plaintext hopens => ?_, fun out plaintext hopens => ?_⟩
  · exact (keystore_envelope [sealedSalut] ⟨ascii "passe", costlier⟩
      (BlobOpening.authentic_of_refused hcostlier) hpasse).1 sealedSalut []
  · obtain ⟨sealing, hsealing, -, hsame, -⟩ := (keystore_envelope [sealedSalut]
      ⟨ascii "passe", costlier⟩ (BlobOpening.authentic_of_refused hcostlier) hpasse).2.1 out plaintext hopens
    obtain rfl := List.mem_singleton.mp hsealing
    exact absurd hsame (by decide +kernel)
  · exact (keystore_envelope [sealedSalut] ⟨ascii "mauvaise", sealedSalut.sealed⟩
      (BlobOpening.authentic_of_refused hother) hmauvaise).2.2.1 (List.nodup_singleton _) sealedSalut
        (List.mem_singleton_self _) rfl (by decide +kernel) out plaintext hopens

/-- A cost of 0 passes the checks of the header and stops the key derivation, and the vector
keeps what it had. And a blob that differs from a sealed one opens if it was sealed too. -/
theorem costless_keeps_output :
    letI := derivingSodium
    (PassesHeaderChecks costless ∧ openBlobInto (ascii "passe") costless [7] = some (false, [7])) ∧
    sealedBonjour.sealed ≠ sealedSalut.sealed ∧
      openBlobInto (ascii "passe") sealedBonjour.sealed [] = some (true, ascii "bonjour") := by
  let _ := derivingSodium
  refine ⟨⟨?_, ?_⟩, ?_, ?_⟩
  all_goals decide +kernel

end HyperCom
