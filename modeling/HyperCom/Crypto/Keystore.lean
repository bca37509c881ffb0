import HyperCom.Crypto.Sodium

/-!
# `keystore_envelope`

How secrets are kept on the client's disk: a passphrase, hardened by Argon2id,
seals a blob. The costs, the salt and the nonce are written in the header, and
the header is authenticated with the content.

The format is `[version][costs][salt][nonce][ciphertext]`. The costs are read from the file
and not from the program, so that a file stays readable when the program raises them.
-/

namespace HyperCom

variable [Sodium]

/-- `KEYSTORE_MAGIC` -/
def keystoreMagic : ByteString := ascii "HYPCKEY1"

def keystoreVersion : UInt8 := 1

/-- `crypto_pwhash_OPSLIMIT_MODERATE` -/
def opslimitModerate : UInt32 := 3

/-- `crypto_pwhash_MEMLIMIT_MODERATE / 1024` -/
def memlimitModerateKib : UInt32 := 262144

/-- `KEYSTORE_HEADER_SIZE` -/
def keystoreHeaderSize : ℕ := 8 + 1 + 4 + 4 + argon2idSaltSize + xchachaNonceSize

/-- `append_u32` -/
def appendU32 (value : UInt32) : ByteString :=
  (List.range 4).map fun index => ((value >>> (UInt32.ofNat index * 8)) &&& 0xFF).toUInt8

/-- `read_u32` -/
def readU32 (source : ByteString) (offset : ℕ) : UInt32 :=
  (List.range 4).foldl (fun value index =>
    value ||| ((source.getD (offset + index) 0).toUInt32 <<< (UInt32.ofNat index * 8))) 0

/-- `derive_wrapping_key` -/
def deriveWrappingKey (passphrase : ByteString) (salt : FixedBytes argon2idSaltSize)
    (operations memoryKib : UInt32) : Option SymmetricKey :=
  Sodium.pwhash passphrase salt operations.toNat (memoryKib.toNat * 1024)

/-- The header of a blob sealed today. -/
def keystoreHeader (salt : FixedBytes argon2idSaltSize) (nonce : FixedBytes xchachaNonceSize) :
    ByteString :=
  keystoreMagic ++ [keystoreVersion] ++ appendU32 opslimitModerate ++
    appendU32 memlimitModerateKib ++ salt.1 ++ nonce.1

/-- `seal_blob` with the salt and the nonce it draws. -/
def sealBlob (passphrase plaintext : ByteString) (salt : FixedBytes argon2idSaltSize)
    (nonce : FixedBytes xchachaNonceSize) : Option ByteString :=
  match deriveWrappingKey passphrase salt opslimitModerate memlimitModerateKib with
  | none => none
  | some wrappingKey =>
    let header := keystoreHeader salt nonce
    some (header ++ Sodium.xchachaEncrypt wrappingKey nonce header plaintext)

/-- `open_blob` -/
def openBlob (passphrase sealed : ByteString) : Option ByteString :=
  if sealed.length < keystoreHeaderSize + aeadTagSize then none
  else if sealed.take 8 ≠ keystoreMagic then none
  else if sealed.getD 8 0 ≠ keystoreVersion then none
  else
    let operations := readU32 sealed (8 + 1)
    let memoryKib := readU32 sealed (8 + 5)
    let salt := FixedBytes.copyFrom argon2idSaltSize (sealed.drop (8 + 9))
    let nonce := FixedBytes.copyFrom xchachaNonceSize (sealed.drop (8 + 9 + argon2idSaltSize))
    match deriveWrappingKey passphrase salt operations memoryKib with
    | none => none
    | some wrappingKey =>
      Sodium.xchachaDecrypt wrappingKey nonce (sealed.take keystoreHeaderSize)
        (sealed.drop keystoreHeaderSize)

omit [Sodium] in
theorem keystoreHeader_length (salt : FixedBytes argon2idSaltSize)
    (nonce : FixedBytes xchachaNonceSize) :
    (keystoreHeader salt nonce).length = keystoreHeaderSize := by
  simp only [keystoreHeader, List.length_append, salt.2, nonce.2]
  rfl

omit [Sodium] in
/-- Everything the reader takes from the header, whatever it is followed by. -/
theorem keystoreHeader_read (salt : FixedBytes argon2idSaltSize)
    (nonce : FixedBytes xchachaNonceSize) (body : ByteString) :
    (keystoreHeader salt nonce ++ body).take 8 = keystoreMagic ∧
    (keystoreHeader salt nonce ++ body).getD 8 0 = keystoreVersion ∧
    readU32 (keystoreHeader salt nonce ++ body) 9 = opslimitModerate ∧
    readU32 (keystoreHeader salt nonce ++ body) 13 = memlimitModerateKib ∧
    FixedBytes.copyFrom argon2idSaltSize ((keystoreHeader salt nonce ++ body).drop 17) = salt ∧
    FixedBytes.copyFrom xchachaNonceSize
      ((keystoreHeader salt nonce ++ body).drop (17 + argon2idSaltSize)) = nonce := by
  have hfixed : (keystoreMagic ++ [keystoreVersion] ++ appendU32 opslimitModerate ++
      appendU32 memlimitModerateKib) =
      [72, 89, 80, 67, 75, 69, 89, 49, 1, 3, 0, 0, 0, 0, 0, 4, 0] := by decide +kernel
  have hmagic : keystoreMagic = [72, 89, 80, 67, 75, 69, 89, 49] := by decide +kernel
  rw [keystoreHeader, hfixed, hmagic, List.append_assoc, List.append_assoc]
  have hops : readU32 [3, 0, 0, 0] 0 = opslimitModerate := by decide +kernel
  have hmem : readU32 [0, 0, 4, 0] 0 = memlimitModerateKib := by decide +kernel
  rw [← hops, ← hmem]
  refine ⟨rfl, rfl, rfl, rfl, FixedBytes.copyFrom_append salt _, ?_⟩
  rw [← List.drop_drop]
  have hdrop : (salt.1 ++ (nonce.1 ++ body)).drop argon2idSaltSize = nonce.1 ++ body :=
    List.drop_left' salt.2
  change FixedBytes.copyFrom xchachaNonceSize
    ((salt.1 ++ (nonce.1 ++ body)).drop argon2idSaltSize) = nonce
  rw [hdrop]
  exact FixedBytes.copyFrom_append nonce _

/-- A sealed blob is opened by the passphrase that sealed it. -/
theorem openBlob_sealBlob {passphrase plaintext sealed : ByteString}
    {salt : FixedBytes argon2idSaltSize} {nonce : FixedBytes xchachaNonceSize}
    (h : sealBlob passphrase plaintext salt nonce = some sealed) :
    openBlob passphrase sealed = some plaintext := by
  unfold sealBlob at h
  cases hkey : deriveWrappingKey passphrase salt opslimitModerate memlimitModerateKib with
  | none =>
    rw [hkey] at h
    cases h
  | some wrappingKey =>
    rw [hkey] at h
    obtain rfl := Option.some.inj h
    have hlength := keystoreHeader_length salt nonce
    have hbody := Sodium.xchachaEncrypt_length wrappingKey nonce (keystoreHeader salt nonce) plaintext
    obtain ⟨hmagic, hversion, hops, hmem, hsalt, hnonce⟩ := keystoreHeader_read salt nonce
      (Sodium.xchachaEncrypt wrappingKey nonce (keystoreHeader salt nonce) plaintext)
    rw [openBlob, if_neg (by rw [List.length_append, hlength, hbody]; omega),
      if_neg (not_not.mpr hmagic), if_neg (not_not.mpr hversion)]
    simp only [hops, hmem, hsalt, hnonce, hkey, List.take_left' hlength, List.drop_left' hlength]
    exact Sodium.xchachaDecrypt_encrypt ..

end HyperCom
