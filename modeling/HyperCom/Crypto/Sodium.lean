import HyperCom.Protocol.ByteCodec

/-!
# libsodium, and what is built directly on it

The program takes its primitives from libsodium, which is not part of the
repository. They are a parameter here: `Sodium` lists the calls the program
makes, and the behaviour libsodium documents for them that the proofs rely on.
A call that libsodium documents as never failing is a total function; one that
can report failure returns an `Option`.

On top of it: `hkdf_sha256` and `signature_verifier`.
-/

namespace HyperCom

/-- The libsodium calls of the program. -/
class Sodium where
  /-- `crypto_hash_sha256` -/
  hashSha256 : ByteString → FixedBytes 32
  /-- `crypto_auth_hmacsha256_init`, `_update`, `_final` with a 32-byte key -/
  authHmacSha256 : SymmetricKey → ByteString → SymmetricKey
  /-- `crypto_aead_chacha20poly1305_ietf_encrypt`: key, nonce, associated data, plaintext -/
  chachaEncrypt : SymmetricKey → FixedBytes chachaIetfNonceSize → ByteString → ByteString →
    ByteString
  /-- `crypto_aead_chacha20poly1305_ietf_decrypt`: fails on a forged tag -/
  chachaDecrypt : SymmetricKey → FixedBytes chachaIetfNonceSize → ByteString → ByteString →
    Option ByteString
  /-- `crypto_aead_xchacha20poly1305_ietf_encrypt` -/
  xchachaEncrypt : SymmetricKey → FixedBytes xchachaNonceSize → ByteString → ByteString →
    ByteString
  /-- `crypto_aead_xchacha20poly1305_ietf_decrypt` -/
  xchachaDecrypt : SymmetricKey → FixedBytes xchachaNonceSize → ByteString → ByteString →
    Option ByteString
  /-- `crypto_scalarmult`: fails on a low-order point -/
  scalarmult : X25519SecretKey → X25519PublicKey → Option SymmetricKey
  /-- `crypto_scalarmult_base` -/
  scalarmultBase : X25519SecretKey → X25519PublicKey
  /-- `crypto_sign_seed_keypair`; `crypto_sign_keypair` draws the seed itself -/
  signSeedKeypair : FixedBytes 32 → Ed25519PublicKey × Ed25519SecretKey
  /-- `crypto_sign_detached` -/
  signDetached : Ed25519SecretKey → ByteString → Ed25519Signature
  /-- `crypto_sign_verify_detached`: public key, message, signature -/
  signVerifyDetached : Ed25519PublicKey → ByteString → Ed25519Signature → Bool
  /-- `crypto_sign_ed25519_pk_to_curve25519` -/
  ed25519PublicToCurve : Ed25519PublicKey → Option X25519PublicKey
  /-- `crypto_sign_ed25519_sk_to_curve25519` -/
  ed25519SecretToCurve : Ed25519SecretKey → X25519SecretKey
  /-- `crypto_pwhash` with Argon2id: passphrase, salt, operations, memory in bytes -/
  pwhash : ByteString → FixedBytes argon2idSaltSize → ℕ → ℕ → Option SymmetricKey
  /-- the ciphertext is the plaintext's length plus the Poly1305 tag -/
  chachaEncrypt_length : ∀ key nonce ad plaintext,
    (chachaEncrypt key nonce ad plaintext).length = plaintext.length + aeadTagSize
  /-- decryption under the same key, nonce and associated data inverts encryption -/
  chachaDecrypt_encrypt : ∀ key nonce ad plaintext,
    chachaDecrypt key nonce ad (chachaEncrypt key nonce ad plaintext) = some plaintext
  xchachaEncrypt_length : ∀ key nonce ad plaintext,
    (xchachaEncrypt key nonce ad plaintext).length = plaintext.length + aeadTagSize
  xchachaDecrypt_encrypt : ∀ key nonce ad plaintext,
    xchachaDecrypt key nonce ad (xchachaEncrypt key nonce ad plaintext) = some plaintext

/-- `std::copy_n` into an array of `n` bytes, from a source known to be long
enough. -/
def FixedBytes.copyFrom (n : ℕ) (source : ByteString) : FixedBytes n :=
  if h : (source.take n).length = n then ⟨source.take n, h⟩ else FixedBytes.zero n

/-- Copying back an array that was written out. -/
@[simp] theorem FixedBytes.copyFrom_append {n : ℕ} (bytes : FixedBytes n) (rest : ByteString) :
    FixedBytes.copyFrom n (bytes.1 ++ rest) = bytes := by
  have htake : (bytes.1 ++ rest).take n = bytes.1 := List.take_left' bytes.2
  rw [FixedBytes.copyFrom, dif_pos (by rw [htake, bytes.2])]
  exact Subtype.ext htake

theorem FixedBytes.copyFrom_val {n : ℕ} {source : ByteString} (h : n ≤ source.length) :
    (FixedBytes.copyFrom n source).1 = source.take n := by
  rw [FixedBytes.copyFrom, dif_pos (List.length_take_of_le h)]

variable [Sodium]

/-! ## `hkdf_sha256` -/

/-- `compute_hmac` over the two parts. -/
def computeHmac (key : SymmetricKey) (firstPart secondPart : ByteString) : SymmetricKey :=
  Sodium.authHmacSha256 key (firstPart ++ secondPart)

/-- `extract_pseudo_random_key`: a short salt is padded with zeros. -/
def extractPseudoRandomKey (salt inputKeyMaterial : ByteString) : Option SymmetricKey :=
  if salt.length > 32 then none
  else
    some (computeHmac (FixedBytes.copyFrom 32 (salt ++ List.replicate (32 - salt.length) 0))
      inputKeyMaterial [])

/-- `expand_key_block` -/
def expandKeyBlock (pseudoRandomKey : SymmetricKey) (info : ByteString) (blockIndex : UInt8) :
    SymmetricKey :=
  computeHmac pseudoRandomKey info [blockIndex]

/-- `derive_key_pair`: the second block chains on the first. -/
def deriveKeyPair (chainingKey : SymmetricKey) (inputKeyMaterial : ByteString) :
    SymmetricKey × SymmetricKey :=
  let temporaryKey := computeHmac chainingKey inputKeyMaterial []
  let first := expandKeyBlock temporaryKey [] 0x01
  (first, expandKeyBlock temporaryKey first.1 0x02)

/-! ## `signature_verifier` -/

/-- `verify_signature` -/
def verifySignature (publicKey : Ed25519PublicKey) (message : ByteString)
    (signature : Ed25519Signature) : Bool :=
  Sodium.signVerifyDetached publicKey message signature

/-! ## A transparent stand-in

It has the documented behaviour above without the secrecy: tags and key
derivations carry no information. The concrete runs of this development are
evaluated with it. -/

omit [Sodium] in
theorem length_zipWith_xor (first second : FixedBytes 32) :
    (List.zipWith (· ^^^ ·) first.1 second.1).length = 32 := by
  rw [List.length_zipWith, first.2, second.2]
  rfl

/-- The tag of the stand-in. -/
def transparentTag : ByteString := List.replicate aeadTagSize 0

/-- Opening a ciphertext of the stand-in: the tag comes off. -/
def transparentOpen (ciphertext : ByteString) : Option ByteString :=
  if ciphertext.drop (ciphertext.length - aeadTagSize) = transparentTag then
    some (ciphertext.take (ciphertext.length - aeadTagSize))
  else none

omit [Sodium] in
theorem transparentOpen_append (plaintext : ByteString) :
    transparentOpen (plaintext ++ transparentTag) = some plaintext := by
  have hlength : (plaintext ++ transparentTag).length - aeadTagSize = plaintext.length := by
    simp [transparentTag]
  rw [transparentOpen, hlength, List.drop_left, if_pos rfl, List.take_left]

/-- A secret Ed25519 key ends in its public key, and a signature of the stand-in
starts with the signer's. -/
@[reducible]
def transparentSodium : Sodium where
  hashSha256 := fun _ => FixedBytes.zero 32
  authHmacSha256 := fun key _ => key
  chachaEncrypt := fun _ _ _ plaintext => plaintext ++ transparentTag
  chachaDecrypt := fun _ _ _ ciphertext => transparentOpen ciphertext
  xchachaEncrypt := fun _ _ _ plaintext => plaintext ++ transparentTag
  xchachaDecrypt := fun _ _ _ ciphertext => transparentOpen ciphertext
  scalarmult := fun secret peer =>
    some ⟨List.zipWith (· ^^^ ·) secret.1 peer.1, length_zipWith_xor secret peer⟩
  scalarmultBase := fun secret => secret
  signSeedKeypair := fun seed => (seed, ⟨seed.1 ++ seed.1, by simp [seed.2]⟩)
  signDetached := fun secret _ => ⟨secret.1.drop 32 ++ List.replicate 32 0, by simp [secret.2]⟩
  signVerifyDetached := fun publicKey _ signature =>
    signature.1 = publicKey.1 ++ List.replicate 32 0
  ed25519PublicToCurve := fun publicKey => some publicKey
  ed25519SecretToCurve := fun secret => ⟨secret.1.drop 32, by simp [secret.2]⟩
  pwhash := fun _ _ _ _ => some (FixedBytes.zero 32)
  chachaEncrypt_length := fun _ _ _ _ => by simp [transparentTag]
  chachaDecrypt_encrypt := fun _ _ _ plaintext => transparentOpen_append plaintext
  xchachaEncrypt_length := fun _ _ _ _ => by simp [transparentTag]
  xchachaDecrypt_encrypt := fun _ _ _ plaintext => transparentOpen_append plaintext

/-! ## A keyed stand-in

Where a statement is about who can open what, the tag has to depend on the key,
the nonce and the associated data, and a digest on what is digested. -/

omit [Sodium]

/-- The bytes as a numeral to the base 257, kept to `n` bytes. -/
def digest (n : ℕ) (bytes : ByteString) : FixedBytes n :=
  let numeral := bytes.foldl (fun numeral byte => (numeral * 257 + byte.toNat + 1) % 256 ^ n) 0
  ⟨(List.range n).map fun index => UInt8.ofNat (numeral / 256 ^ index), by simp⟩

/-- The tag of the keyed stand-in. -/
def keyedTag (key nonce ad plaintext : ByteString) : ByteString :=
  (digest aeadTagSize (key ++ nonce ++ ad ++ plaintext)).1

/-- Opening a ciphertext of the keyed stand-in: the tag is computed again. -/
def keyedOpen (key nonce ad ciphertext : ByteString) : Option ByteString :=
  let plaintext := ciphertext.take (ciphertext.length - aeadTagSize)
  if plaintext ++ keyedTag key nonce ad plaintext = ciphertext then some plaintext else none

theorem keyedSeal_length (key nonce ad plaintext : ByteString) :
    (plaintext ++ keyedTag key nonce ad plaintext).length = plaintext.length + aeadTagSize := by
  rw [List.length_append, keyedTag, (digest aeadTagSize _).2]

theorem keyedOpen_append (key nonce ad plaintext : ByteString) :
    keyedOpen key nonce ad (plaintext ++ keyedTag key nonce ad plaintext) = some plaintext := by
  have htake : (plaintext ++ keyedTag key nonce ad plaintext).take
      ((plaintext ++ keyedTag key nonce ad plaintext).length - aeadTagSize) = plaintext := by
    rw [keyedSeal_length, Nat.add_sub_cancel, List.take_left]
  simp only [keyedOpen, htake, if_pos]

/-- The transparent stand-in with these tags and digests. -/
@[reducible]
def keyedSodium : Sodium :=
  { transparentSodium with
    hashSha256 := digest 32
    authHmacSha256 := fun key message => digest 32 (key.1 ++ message)
    chachaEncrypt := fun key nonce ad plaintext => plaintext ++ keyedTag key.1 nonce.1 ad plaintext
    chachaDecrypt := fun key nonce ad ciphertext => keyedOpen key.1 nonce.1 ad ciphertext
    xchachaEncrypt := fun key nonce ad plaintext => plaintext ++ keyedTag key.1 nonce.1 ad plaintext
    xchachaDecrypt := fun key nonce ad ciphertext => keyedOpen key.1 nonce.1 ad ciphertext
    chachaEncrypt_length := fun _ _ _ _ => keyedSeal_length ..
    chachaDecrypt_encrypt := fun _ _ _ _ => keyedOpen_append ..
    xchachaEncrypt_length := fun _ _ _ _ => keyedSeal_length ..
    xchachaDecrypt_encrypt := fun _ _ _ _ => keyedOpen_append .. }

end HyperCom
