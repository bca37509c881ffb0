import HyperCom.Crypto.Noise
import Mathlib.Tactic.IntervalCases

/-!
# Direct message cryptography

`identity_keypair`, `x25519_exchange`, `dm_session_keys` (the simplified X3DH),
`dm_message_chain` (the symmetric ratchet) and `dm_envelope`. The header of an
envelope travels in the clear and is authenticated as associated data.

Everything is a function of `Sodium`, the operations of libsodium as parameters: no property
of them is used to define anything. The field order of the header, the domain strings and
the key schedule are those of the source, byte for byte, since they decide what is
authenticated.
-/

namespace HyperCom

variable [Sodium]

/-! ## `identity_keypair` and `x25519_exchange` -/

/-- `identity_keypair` -/
structure IdentityKeypair where
  publicKey : Ed25519PublicKey
  secretKey : Ed25519SecretKey
deriving DecidableEq

/-- `derive_from_seed`. `generate_random` is this with a seed of libsodium's own. -/
def IdentityKeypair.deriveFromSeed (seed : FixedBytes 32) : IdentityKeypair where
  publicKey := (Sodium.signSeedKeypair seed).1
  secretKey := (Sodium.signSeedKeypair seed).2

/-- `sign_message` -/
def IdentityKeypair.signMessage (identity : IdentityKeypair) (message : ByteString) :
    Ed25519Signature :=
  Sodium.signDetached identity.secretKey message

/-- `compute_public_from_secret` -/
def computePublicFromSecret (secretKey : X25519SecretKey) : X25519PublicKey :=
  Sodium.scalarmultBase secretKey

/-- `compute_shared_secret`: a low-order point is refused. -/
def computeSharedSecret (secretKey : X25519SecretKey) (peerPublicKey : X25519PublicKey) :
    Option SymmetricKey :=
  Sodium.scalarmult secretKey peerPublicKey

/-- `convert_identity_public_to_x25519` -/
def convertIdentityPublicToX25519 (identityPublic : Ed25519PublicKey) : Option X25519PublicKey :=
  Sodium.ed25519PublicToCurve identityPublic

/-- `convert_identity_secret_to_x25519` -/
def convertIdentitySecretToX25519 (identitySecret : Ed25519SecretKey) : X25519SecretKey :=
  Sodium.ed25519SecretToCurve identitySecret

/-! ## `dm_session_keys` -/

/-- `DM_SESSION_DOMAIN` -/
def dmSessionDomain : ByteString := ascii "hypercom-dm-x3dh-v1"

/-- `combine_shared_secrets` -/
def combineSharedSecrets (first second third : SymmetricKey) : Option SymmetricKey := do
  let pseudoRandom ← extractPseudoRandomKey dmSessionDomain (first.1 ++ second.1 ++ third.1)
  pure (expandKeyBlock pseudoRandom [] 0x01)

/-- `derive_sender_session_key` -/
def deriveSenderSessionKey (senderIdentity : IdentityKeypair)
    (senderEphemeralSecret : X25519SecretKey) (recipientIdentity : Ed25519PublicKey)
    (recipientPrekey : X25519PublicKey) : Option SymmetricKey := do
  let senderIdentityX := convertIdentitySecretToX25519 senderIdentity.secretKey
  let recipientIdentityX ← convertIdentityPublicToX25519 recipientIdentity
  let first ← computeSharedSecret senderIdentityX recipientPrekey
  let second ← computeSharedSecret senderEphemeralSecret recipientIdentityX
  let third ← computeSharedSecret senderEphemeralSecret recipientPrekey
  combineSharedSecrets first second third

/-- `derive_recipient_session_key`: the same three products, from the other
side. -/
def deriveRecipientSessionKey (recipientIdentity : IdentityKeypair)
    (recipientPrekeySecret : X25519SecretKey) (senderIdentity : Ed25519PublicKey)
    (senderEphemeral : X25519PublicKey) : Option SymmetricKey := do
  let recipientIdentityX := convertIdentitySecretToX25519 recipientIdentity.secretKey
  let senderIdentityX ← convertIdentityPublicToX25519 senderIdentity
  let first ← computeSharedSecret recipientPrekeySecret senderIdentityX
  let second ← computeSharedSecret recipientIdentityX senderEphemeral
  let third ← computeSharedSecret recipientPrekeySecret senderEphemeral
  combineSharedSecrets first second third

/-! ## `dm_message_chain` -/

/-- `dm_message_chain` -/
structure DmMessageChain where
  chainKey : SymmetricKey
  counter : UInt32 := 0

/-- `derive_next_message_key`: the message key, and the chain moved on. -/
def DmMessageChain.deriveNextMessageKey (chain : DmMessageChain) :
    SymmetricKey × DmMessageChain :=
  (expandKeyBlock chain.chainKey (ascii "hypercom-dm-message") 0x01,
    { chainKey := expandKeyBlock chain.chainKey (ascii "hypercom-dm-chain") 0x02
      counter := chain.counter + 1 })

/-! ## `dm_envelope` -/

def dmEnvelopeVersion : UInt8 := 1

/-- `[u8 version][32 sender identity][32 sender ephemeral][u32 counter]` -/
def dmEnvelopeHeaderSize : ℕ := 1 + 32 + 32 + 4

/-- `dm_envelope_header` -/
structure DmEnvelopeHeader where
  version : UInt8 := dmEnvelopeVersion
  senderIdentity : Ed25519PublicKey := FixedBytes.zero _
  senderEphemeral : X25519PublicKey := FixedBytes.zero _
  counter : UInt32 := 0
deriving DecidableEq

/-- `serialize_header`: the counter goes out low byte first. -/
def serializeHeader (header : DmEnvelopeHeader) : ByteString :=
  List.flatten [
    [header.version],
    header.senderIdentity.1,
    header.senderEphemeral.1,
    (List.range 4).map fun index => ((header.counter >>> (UInt32.ofNat index * 8)) &&& 0xFF).toUInt8]

/-- `parse_dm_envelope_header` -/
def parseDmEnvelopeHeader (envelope : ByteString) : Option DmEnvelopeHeader :=
  if envelope.length < dmEnvelopeHeaderSize + aeadTagSize then none
  else if envelope.head? ≠ some dmEnvelopeVersion then none
  else
    some {
      version := dmEnvelopeVersion
      senderIdentity := FixedBytes.copyFrom 32 (envelope.drop 1)
      senderEphemeral := FixedBytes.copyFrom 32 (envelope.drop (1 + 32))
      counter := (List.range 4).foldl (fun counter index =>
        counter ||| ((envelope.getD (1 + 32 + 32 + index) 0).toUInt32 <<< (UInt32.ofNat index * 8))) 0 }

/-- `ZERO_NONCE`: every message has a key of its own. -/
def zeroNonce : FixedBytes xchachaNonceSize := FixedBytes.zero _

/-- `seal_dm_envelope` -/
def sealDmEnvelope (header : DmEnvelopeHeader) (messageKey : SymmetricKey)
    (plaintext : ByteString) : ByteString :=
  let serializedHeader := serializeHeader header
  serializedHeader ++ Sodium.xchachaEncrypt messageKey zeroNonce serializedHeader plaintext

/-- `open_dm_envelope` -/
def openDmEnvelope (envelope : ByteString) (messageKey : SymmetricKey) : Option ByteString :=
  match parseDmEnvelopeHeader envelope with
  | none => none
  | some _ =>
    let associatedData := envelope.take dmEnvelopeHeaderSize
    let body := envelope.drop dmEnvelopeHeaderSize
    Sodium.xchachaDecrypt messageKey zeroNonce associatedData body

omit [Sodium]

@[simp] theorem serializeHeader_length (header : DmEnvelopeHeader) :
    (serializeHeader header).length = dmEnvelopeHeaderSize := by
  simp [serializeHeader, dmEnvelopeHeaderSize, header.senderIdentity.2, header.senderEphemeral.2]

/-- The four bytes of a counter give it back. -/
theorem counter_bytes (counter : UInt32) :
    (List.range 4).foldl (fun parsed index => parsed |||
      ((((List.range 4).map fun index => ((counter >>> (UInt32.ofNat index * 8)) &&& 0xFF).toUInt8).getD
        index 0).toUInt32 <<< (UInt32.ofNat index * 8))) 0 = counter := by
  apply UInt32.toBitVec_inj.mp
  have hrange : List.range 4 = [0, 1, 2, 3] := rfl
  simp only [hrange, List.foldl_cons, List.foldl_nil, List.map_cons, List.map_nil,
    List.getD_cons_zero, List.getD_cons_succ, UInt32.toBitVec_or, UInt32.toBitVec_shiftLeft,
    UInt32.toBitVec_and, UInt32.toBitVec_shiftRight, UInt8.toBitVec_toUInt32,
    UInt32.toBitVec_toUInt8]
  generalize counter.toBitVec = bits
  -- bit by bit: each stands in one of the four bytes
  ext index hindex
  simp
  interval_cases index <;> simp

/-- What `parse_dm_envelope_header` reads is what `serialize_header` wrote. -/
theorem parseDmEnvelopeHeader_serialize {header : DmEnvelopeHeader} {body : ByteString}
    (hversion : header.version = dmEnvelopeVersion) (hbody : aeadTagSize ≤ body.length) :
    parseDmEnvelopeHeader (serializeHeader header ++ body) = some header := by
  obtain ⟨version, identity, ephemeral, counter⟩ := header
  obtain rfl : version = dmEnvelopeVersion := hversion
  set bytes := (List.range 4).map fun index =>
    ((counter >>> (UInt32.ofNat index * 8)) &&& 0xFF).toUInt8 with hbytes
  have hsplit : serializeHeader ⟨dmEnvelopeVersion, identity, ephemeral, counter⟩ ++ body =
      dmEnvelopeVersion :: (identity.1 ++ (ephemeral.1 ++ (bytes ++ body))) := by
    simp [serializeHeader, hbytes]
  have hlong : ¬ (serializeHeader ⟨dmEnvelopeVersion, identity, ephemeral, counter⟩ ++ body).length <
      dmEnvelopeHeaderSize + aeadTagSize := by
    simp only [List.length_append, serializeHeader_length]
    omega
  have hephemeral : (identity.1 ++ (ephemeral.1 ++ (bytes ++ body))).drop 32 =
      ephemeral.1 ++ (bytes ++ body) := List.drop_left' identity.2
  have hcounter : ∀ index ∈ List.range 4,
      (dmEnvelopeVersion :: (identity.1 ++ (ephemeral.1 ++ (bytes ++ body)))).getD
        (1 + 32 + 32 + index) 0 = bytes.getD index 0 := by
    intro index hindex
    have hlt : index < bytes.length := by simpa [hbytes] using hindex
    have hskip : (dmEnvelopeVersion :: (identity.1 ++ (ephemeral.1 ++ (bytes ++ body)))).drop
        (1 + 32 + 32) = bytes ++ body := by
      rw [show 1 + 32 + 32 = 32 + 32 + 1 from rfl, List.drop_succ_cons, ← List.drop_drop,
        hephemeral]
      exact List.drop_left' ephemeral.2
    rw [List.getD_eq_getElem?_getD, ← List.getElem?_drop, hskip, List.getElem?_append_left hlt,
      List.getD_eq_getElem?_getD]
  rw [parseDmEnvelopeHeader, if_neg hlong, hsplit, if_neg (by simp)]
  congr 2
  · exact FixedBytes.copyFrom_append identity _
  · rw [show 1 + 32 = 32 + 1 from rfl, List.drop_succ_cons, hephemeral]
    exact FixedBytes.copyFrom_append ephemeral _
  · rw [List.foldl_ext _ _ _ fun parsed index hindex => by rw [hcounter index hindex]]
    exact counter_bytes counter

/-- `open_dm_envelope` with the right key gives the plaintext back. -/
theorem openDmEnvelope_seal [Sodium] {header : DmEnvelopeHeader} (messageKey : SymmetricKey)
    (plaintext : ByteString) (hversion : header.version = dmEnvelopeVersion) :
    openDmEnvelope (sealDmEnvelope header messageKey plaintext) messageKey = some plaintext := by
  have hbody : aeadTagSize ≤ (Sodium.xchachaEncrypt messageKey zeroNonce (serializeHeader header)
      plaintext).length := by
    rw [Sodium.xchachaEncrypt_length]
    omega
  simp only [openDmEnvelope, sealDmEnvelope, parseDmEnvelopeHeader_serialize hversion hbody]
  rw [List.take_left' (serializeHeader_length header), List.drop_left' (serializeHeader_length header)]
  exact Sodium.xchachaDecrypt_encrypt ..

/-! ## Keys of the stand-in -/

/-- The identity of the stand-in whose public key repeats one byte. -/
def repeatedIdentity (byte : UInt8) : IdentityKeypair where
  publicKey := repeatedBytes 32 byte
  secretKey := repeatedBytes 64 byte

end HyperCom
