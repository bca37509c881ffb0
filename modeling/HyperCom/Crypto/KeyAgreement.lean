import HyperCom.Crypto.DirectMessage

/-!
# What two holders of keys agree on

X25519 gives the same product from either side, and Ed25519 key pairs keep their
relation when they are converted to X25519. These are promises of libsodium about
the key pairs it makes, and hypotheses here.

From them follows that the sender and the recipient of a direct message derive
one session key, although they compute its three parts in swapped roles.

Neither says anything about secrecy. They are equations, which the honest parties need to
get anywhere, and which hold for the key pairs that libsodium's own functions return.
-/

namespace HyperCom

variable [Sodium]

/-! ## What libsodium promises -/

/-- X25519 between a secret and the public key of another. -/
structure X25519Agrees : Prop where
  /-- the product is the same from both sides -/
  commutes : ∀ first second : X25519SecretKey,
    computeSharedSecret first (computePublicFromSecret second) =
      computeSharedSecret second (computePublicFromSecret first)
  /-- a public key made from a secret is not a low-order point -/
  succeeds : ∀ first second : X25519SecretKey,
    (computeSharedSecret first (computePublicFromSecret second)).isSome = true

/-- The key pairs that come from a seed. -/
structure Ed25519Agrees : Prop where
  /-- a signature made with the pair verifies under it -/
  verifies : ∀ (seed : FixedBytes 32) (message : ByteString),
    verifySignature (IdentityKeypair.deriveFromSeed seed).publicKey message
      ((IdentityKeypair.deriveFromSeed seed).signMessage message) = true
  /-- the converted public key belongs to the converted secret key -/
  converts : ∀ seed : FixedBytes 32,
    convertIdentityPublicToX25519 (IdentityKeypair.deriveFromSeed seed).publicKey =
      some (computePublicFromSecret
        (convertIdentitySecretToX25519 (IdentityKeypair.deriveFromSeed seed).secretKey))

/-- Two secrets have a product. -/
theorem X25519Agrees.product (x : X25519Agrees) (first second : X25519SecretKey) :
    ∃ shared, computeSharedSecret first (computePublicFromSecret second) = some shared ∧
      computeSharedSecret second (computePublicFromSecret first) = some shared := by
  obtain ⟨shared, hshared⟩ := Option.isSome_iff_exists.mp (x.succeeds first second)
  exact ⟨shared, hshared, (x.commutes second first).trans hshared⟩

/-! ## The session key of a direct message -/

/-- The domain is short enough for a salt. -/
theorem combineSharedSecrets_some (first second third : SymmetricKey) :
    ∃ root, combineSharedSecrets first second third = some root := by
  have hdomain : ¬ dmSessionDomain.length > 32 := by decide
  simp [combineSharedSecrets, extractPseudoRandomKey, hdomain]

/-- Both sides derive one session key. -/
theorem sessionKeys_agree (x : X25519Agrees) (ed : Ed25519Agrees)
    (senderSeed recipientSeed : FixedBytes 32) (ephemeralSecret prekeySecret : X25519SecretKey) :
    ∃ root,
      deriveSenderSessionKey (IdentityKeypair.deriveFromSeed senderSeed) ephemeralSecret
        (IdentityKeypair.deriveFromSeed recipientSeed).publicKey
        (computePublicFromSecret prekeySecret) = some root ∧
      deriveRecipientSessionKey (IdentityKeypair.deriveFromSeed recipientSeed) prekeySecret
        (IdentityKeypair.deriveFromSeed senderSeed).publicKey
        (computePublicFromSecret ephemeralSecret) = some root := by
  -- identity with prekey, ephemeral with identity, ephemeral with prekey
  obtain ⟨first, hsent₁, hreceived₁⟩ := x.product (convertIdentitySecretToX25519
    (IdentityKeypair.deriveFromSeed senderSeed).secretKey) prekeySecret
  obtain ⟨second, hsent₂, hreceived₂⟩ := x.product ephemeralSecret (convertIdentitySecretToX25519
    (IdentityKeypair.deriveFromSeed recipientSeed).secretKey)
  obtain ⟨third, hsent₃, hreceived₃⟩ := x.product ephemeralSecret prekeySecret
  obtain ⟨root, hroot⟩ := combineSharedSecrets_some first second third
  refine ⟨root, ?_, ?_⟩
  · simp [deriveSenderSessionKey, ed.converts, hsent₁, hsent₂, hsent₃, hroot]
  · simp [deriveRecipientSessionKey, ed.converts, hreceived₁, hreceived₂, hreceived₃, hroot]

/-! ## The stand-ins keep the promises -/

omit [Sodium]

theorem transparentSodium_x25519 :
    letI := transparentSodium
    X25519Agrees := by
  let _ := transparentSodium
  refine ⟨?_, fun _ _ => rfl⟩
  intro first second
  refine congrArg some (Subtype.ext ?_)
  exact List.zipWith_comm_of_comm UInt8.xor_comm

theorem transparentSodium_ed25519 :
    letI := transparentSodium
    Ed25519Agrees := by
  let _ := transparentSodium
  refine ⟨?_, ?_⟩
  · intro seed message
    have hdrop : (seed.1 ++ seed.1).drop 32 = seed.1 := List.drop_left' seed.2
    exact decide_eq_true (congrArg (· ++ List.replicate 32 0) hdrop)
  · intro seed
    refine congrArg some (Subtype.ext ?_)
    exact (List.drop_left' seed.2).symm

theorem keyedSodium_x25519 : @X25519Agrees keyedSodium :=
  @X25519Agrees.mk keyedSodium (@X25519Agrees.commutes transparentSodium transparentSodium_x25519)
    (@X25519Agrees.succeeds transparentSodium transparentSodium_x25519)

theorem keyedSodium_ed25519 : @Ed25519Agrees keyedSodium :=
  @Ed25519Agrees.mk keyedSodium (@Ed25519Agrees.verifies transparentSodium transparentSodium_ed25519)
    (@Ed25519Agrees.converts transparentSodium transparentSodium_ed25519)

end HyperCom
