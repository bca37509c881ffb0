import HyperCom.Crypto.KeyAgreement

/-!
# The two roles of the handshake agree

Initiator and responder are separate code. Each message is written by one of them
from its symmetric state and read by the other from its own.
`decryptAndHash_sealed` is the step they share: from one state, sealing and opening lead to one state. The
handshake is this step twice.

The hypotheses are what the two sides know of each other: the responder's static key pair,
and that the agreements of their keys commute (`KeyAgreement`). Nothing is assumed of the
hash or of the cipher but that opening undoes sealing under one key, nonce and associated
data.

The result is about both channels: the key and counter that one side sends with are those
the other receives with.
-/

namespace HyperCom

variable [Sodium]

/-! ## One payload -/

/-- A payload that is sealed right after `mix_key`. -/
def sealedPayload (state : NoiseSymmetricState) (material payload : ByteString) : ByteString :=
  Sodium.chachaEncrypt (mixKey state material).cipher.key (NoiseCipherState.buildNonce 0)
    state.handshakeHash.1 payload

/-- The state after it, on both sides. -/
def exchangedState (state : NoiseSymmetricState) (material sealed : ByteString) :
    NoiseSymmetricState :=
  mixHash { mixKey state material with
    cipher := { (mixKey state material).cipher with nonceCounter := 1 } } sealed

/-- A key that has just been mixed in has not been used. -/
theorem mixKey_ready (state : NoiseSymmetricState) (material : ByteString) :
    (mixKey state material).cipher.hasKey = true ∧
      (mixKey state material).cipher.nonceCounter = 0 :=
  ⟨rfl, rfl⟩

/-- A sealed payload is longer by a tag. -/
@[simp] theorem sealedPayload_length (state : NoiseSymmetricState) (material payload : ByteString) :
    (sealedPayload state material payload).length = payload.length + aeadTagSize :=
  Sodium.chachaEncrypt_length ..

/-- What the side that writes does. -/
theorem encryptAndHash_mixKey (state : NoiseSymmetricState) (material payload : ByteString) :
    encryptAndHash payload (mixKey state material) =
      (some (sealedPayload state material payload),
        exchangedState state material (sealedPayload state material payload)) := by
  have hzero : ¬ (0 : UInt64) = NoiseCipherState.exhausted := by decide
  obtain ⟨hkey, hcounter⟩ := mixKey_ready state material
  simp only [encryptAndHash, NoiseCipherState.encryptWithAd, hkey, hcounter, hzero, Bool.not_true,
    Bool.false_eq_true, if_false]
  rfl

/-- What the side that reads does, with whatever it is given. -/
theorem decryptAndHash_mixKey (state : NoiseSymmetricState) (material ciphertext : ByteString) :
    decryptAndHash ciphertext (mixKey state material) =
      if ciphertext.length < aeadTagSize then (none, mixKey state material)
      else
        match Sodium.chachaDecrypt (mixKey state material).cipher.key (NoiseCipherState.buildNonce 0)
            state.handshakeHash.1 ciphertext with
        | none => (none, mixKey state material)
        | some payload => (some payload, exchangedState state material ciphertext) := by
  have hzero : ¬ (0 : UInt64) = NoiseCipherState.exhausted := by decide
  obtain ⟨hkey, hcounter⟩ := mixKey_ready state material
  simp only [decryptAndHash, NoiseCipherState.decryptWithAd, hkey, hcounter, hzero, Bool.not_true,
    Bool.false_eq_true, if_false]
  split_ifs
  · rfl
  · have had : (mixKey state material).handshakeHash = state.handshakeHash := rfl
    rw [had]
    cases Sodium.chachaDecrypt (mixKey state material).cipher.key (NoiseCipherState.buildNonce 0)
      state.handshakeHash.1 ciphertext with
    | none => rfl
    | some payload => rfl

/-- From one state, sealing and opening lead to one state. -/
theorem decryptAndHash_sealed (state : NoiseSymmetricState) (material payload : ByteString) :
    decryptAndHash (sealedPayload state material payload) (mixKey state material) =
      (some payload, exchangedState state material (sealedPayload state material payload)) := by
  have hopen : Sodium.chachaDecrypt (mixKey state material).cipher.key
      (NoiseCipherState.buildNonce 0) state.handshakeHash.1
      (sealedPayload state material payload) = some payload := Sodium.chachaDecrypt_encrypt ..
  rw [decryptAndHash_mixKey, if_neg (by simp), hopen]

/-! ## The messages -/

namespace NoiseHandshakeInitiator

variable {initiator : NoiseHandshakeInitiator} {ephemeralPublic : X25519PublicKey}
  {ephemeralSecret : X25519SecretKey} {shared : SymmetricKey}

/-- The first message, when the key exchange succeeds. -/
theorem writeFirstMessage_eq (ephemeralPublic : X25519PublicKey) (payload : ByteString)
    (hfirst : initiator.firstMessageSent = false)
    (hshared : Sodium.scalarmult ephemeralSecret initiator.remoteStatic = some shared) :
    writeFirstMessage (some (ephemeralPublic, ephemeralSecret)) payload initiator =
      let state := mixHash initiator.state ephemeralPublic.1
      let sealed := sealedPayload state shared.1 payload
      (some (ephemeralPublic.1 ++ sealed), { initiator with
        ephemeralSecret, firstMessageSent := true
        state := exchangedState state shared.1 sealed }) := by
  simp only [writeFirstMessage, hfirst, hshared, encryptAndHash_mixKey, Bool.false_eq_true, if_false]

/-- The second message, when it can be opened. -/
theorem readSecondMessage_eq {sealed payload : ByteString}
    (hfirst : initiator.firstMessageSent = true) (hcomplete : initiator.complete = false)
    (hlength : aeadTagSize ≤ sealed.length)
    (hshared : Sodium.scalarmult initiator.ephemeralSecret ephemeralPublic = some shared)
    (hopen : decryptAndHash sealed (mixKey (mixHash initiator.state ephemeralPublic.1) shared.1) =
      (some payload, exchangedState (mixHash initiator.state ephemeralPublic.1) shared.1 sealed)) :
    readSecondMessage (ephemeralPublic.1 ++ sealed) initiator = (some payload, { initiator with
      ephemeralSecret := FixedBytes.zero _, complete := true
      state := exchangedState (mixHash initiator.state ephemeralPublic.1) shared.1 sealed }) := by
  have hlong : ¬ (ephemeralPublic.1 ++ sealed).length < noiseHandshakeMessageSize := by
    rw [List.length_append, ephemeralPublic.2, noiseHandshakeMessageSize]
    omega
  have hdrop : (ephemeralPublic.1 ++ sealed).drop 32 = sealed := List.drop_left' ephemeralPublic.2
  simp only [readSecondMessage, hfirst, hcomplete, hlong, FixedBytes.copyFrom_append, hshared, hdrop,
    hopen, Bool.not_true, Bool.or_false, Bool.false_eq_true, if_false]

/-- What it takes to send the first message. -/
theorem exists_of_firstMessageSent {ephemeral : EphemeralKeypair} {payload : ByteString}
    (hnew : initiator.firstMessageSent = false)
    (hsent : (writeFirstMessage ephemeral payload initiator).2.firstMessageSent = true) :
    ∃ ephemeralPublic ephemeralSecret shared, ephemeral = some (ephemeralPublic, ephemeralSecret) ∧
      Sodium.scalarmult ephemeralSecret initiator.remoteStatic = some shared := by
  rcases ephemeral with _ | ⟨ephemeralPublic, ephemeralSecret⟩
  · simp [writeFirstMessage, hnew] at hsent
  cases hshared : Sodium.scalarmult ephemeralSecret initiator.remoteStatic with
  | none => simp [writeFirstMessage, hnew, hshared] at hsent
  | some shared => exact ⟨ephemeralPublic, ephemeralSecret, shared, rfl, hshared⟩

/-- The first message completes nothing. -/
theorem writeFirstMessage_complete (ephemeral : EphemeralKeypair) (payload : ByteString)
    (initiator : NoiseHandshakeInitiator) :
    (writeFirstMessage ephemeral payload initiator).2.complete = initiator.complete := by
  unfold writeFirstMessage
  split
  · rfl
  split
  · rfl
  dsimp only
  split
  · rfl
  split
  · rfl
  · rfl

/-- What it takes to read the second message. -/
theorem exists_of_readSecondMessage {input payload : ByteString}
    (h : (readSecondMessage input initiator).1 = some payload) :
    initiator.firstMessageSent = true ∧ noiseHandshakeMessageSize ≤ input.length ∧
    ∃ shared, Sodium.scalarmult initiator.ephemeralSecret (FixedBytes.copyFrom 32 input) =
        some shared ∧
      Sodium.chachaDecrypt
        (mixKey (mixHash initiator.state (FixedBytes.copyFrom 32 input).1) shared.1).cipher.key
        (NoiseCipherState.buildNonce 0)
        (mixHash initiator.state (FixedBytes.copyFrom 32 input).1).handshakeHash.1
        (input.drop 32) = some payload := by
  unfold readSecondMessage at h
  split at h
  · cases h
  next hready =>
  split at h
  · cases h
  next hlength =>
  have hsent : initiator.firstMessageSent = true := by
    rw [Bool.or_eq_true, not_or, Bool.not_eq_true', Bool.not_eq_false] at hready
    exact hready.1
  refine ⟨hsent, Nat.le_of_not_lt hlength, ?_⟩
  cases hshared : Sodium.scalarmult initiator.ephemeralSecret (FixedBytes.copyFrom 32 input) with
  | none => simp [hshared] at h
  | some shared =>
    refine ⟨shared, rfl, ?_⟩
    simp only [hshared, decryptAndHash_mixKey] at h
    split_ifs at h with hshort
    cases hopen : Sodium.chachaDecrypt
        (mixKey (mixHash initiator.state (FixedBytes.copyFrom 32 input).1) shared.1).cipher.key
        (NoiseCipherState.buildNonce 0)
        (mixHash initiator.state (FixedBytes.copyFrom 32 input).1).handshakeHash.1
        (input.drop 32) with
    | none => simp [hopen] at h
    | some opened => simpa [hopen] using h

/-- A second message that is refused does not complete the handshake. -/
theorem readSecondMessage_refused {input : ByteString}
    (h : (readSecondMessage input initiator).1 = none) :
    (readSecondMessage input initiator).2.complete = initiator.complete := by
  unfold readSecondMessage at h ⊢
  split
  · rfl
  split
  · rfl
  dsimp only at h ⊢
  split
  · rfl
  split
  · rfl
  · simp_all

end NoiseHandshakeInitiator

namespace NoiseHandshakeResponder

variable {responder : NoiseHandshakeResponder} {ephemeralPublic : X25519PublicKey}
  {ephemeralSecret : X25519SecretKey} {shared : SymmetricKey}

/-- What the responder makes of a first message that opens. -/
theorem readFirstMessage_eq {sealed payload : ByteString}
    (hfirst : responder.firstMessageRead = false) (hlength : aeadTagSize ≤ sealed.length)
    (hshared : Sodium.scalarmult responder.staticSecret ephemeralPublic = some shared)
    (hopen : decryptAndHash sealed (mixKey (mixHash responder.state ephemeralPublic.1) shared.1) =
      (some payload, exchangedState (mixHash responder.state ephemeralPublic.1) shared.1 sealed)) :
    readFirstMessage (ephemeralPublic.1 ++ sealed) responder = (some payload, { responder with
      remoteEphemeral := ephemeralPublic, firstMessageRead := true
      state := exchangedState (mixHash responder.state ephemeralPublic.1) shared.1 sealed }) := by
  have hlong : ¬ (ephemeralPublic.1 ++ sealed).length < noiseHandshakeMessageSize := by
    rw [List.length_append, ephemeralPublic.2, noiseHandshakeMessageSize]
    omega
  have hdrop : (ephemeralPublic.1 ++ sealed).drop 32 = sealed := List.drop_left' ephemeralPublic.2
  simp only [readFirstMessage, hfirst, hlong, FixedBytes.copyFrom_append, hshared, hdrop, hopen,
    Bool.false_eq_true, if_false]

/-- What it answers with. -/
theorem writeSecondMessage_eq (ephemeralPublic : X25519PublicKey) (payload : ByteString)
    (hfirst : responder.firstMessageRead = true) (hcomplete : responder.complete = false)
    (hshared : Sodium.scalarmult ephemeralSecret responder.remoteEphemeral = some shared) :
    writeSecondMessage (some (ephemeralPublic, ephemeralSecret)) payload responder =
      let state := mixHash responder.state ephemeralPublic.1
      let sealed := sealedPayload state shared.1 payload
      (some (ephemeralPublic.1 ++ sealed), { responder with
        complete := true, state := exchangedState state shared.1 sealed }) := by
  simp only [writeSecondMessage, hfirst, hcomplete, hshared, encryptAndHash_mixKey, Bool.not_true,
    Bool.or_false, Bool.false_eq_true, if_false]

/-- What it takes to read the first message, and the state after it. -/
theorem exists_of_firstMessageRead {input : ByteString} (hnew : responder.firstMessageRead = false)
    (hread : (readFirstMessage input responder).2.firstMessageRead = true) :
    noiseHandshakeMessageSize ≤ input.length ∧
    ∃ shared, (readFirstMessage input responder).2.state =
      exchangedState (mixHash responder.state (FixedBytes.copyFrom 32 input).1) shared
        (input.drop 32) := by
  unfold readFirstMessage at hread ⊢
  simp only [hnew, Bool.false_eq_true, if_false] at hread ⊢
  split at hread
  · simp [hnew] at hread
  next hlength =>
  refine ⟨Nat.le_of_not_lt hlength, ?_⟩
  rw [if_neg hlength]
  cases hshared : Sodium.scalarmult responder.staticSecret (FixedBytes.copyFrom 32 input) with
  | none => simp [hshared] at hread
  | some shared =>
    refine ⟨shared.1, ?_⟩
    simp only [hshared, decryptAndHash_mixKey] at hread ⊢
    split_ifs at hread ⊢ with hshort
    cases hopen : Sodium.chachaDecrypt
        (mixKey (mixHash responder.state (FixedBytes.copyFrom 32 input).1) shared.1).cipher.key
        (NoiseCipherState.buildNonce 0)
        (mixHash responder.state (FixedBytes.copyFrom 32 input).1).handshakeHash.1
        (input.drop 32) with
    | none => simp [hopen] at hread
    | some opened => simp

/-- A first message that is refused is not counted as read. -/
theorem readFirstMessage_refused {input : ByteString}
    (h : (readFirstMessage input responder).1 = none) :
    (readFirstMessage input responder).2.firstMessageRead = responder.firstMessageRead ∧
      (readFirstMessage input responder).2.complete = responder.complete := by
  unfold readFirstMessage at h ⊢
  split
  · exact ⟨rfl, rfl⟩
  split
  · exact ⟨rfl, rfl⟩
  dsimp only at h ⊢
  split
  · exact ⟨rfl, rfl⟩
  split
  · exact ⟨rfl, rfl⟩
  · simp_all

/-- Without the first message there is no second. -/
theorem writeSecondMessage_unread (ephemeral : EphemeralKeypair) (payload : ByteString)
    (hunread : responder.firstMessageRead = false) :
    writeSecondMessage ephemeral payload responder = (none, responder) := by
  simp [writeSecondMessage, hunread]

/-- What it takes to write the second message, and what it is. -/
theorem exists_of_writeSecondMessage {ephemeral : EphemeralKeypair} {payload message : ByteString}
    (h : (writeSecondMessage ephemeral payload responder).1 = some message) :
    responder.firstMessageRead = true ∧
    ∃ ephemeralPublic ephemeralSecret shared, ephemeral = some (ephemeralPublic, ephemeralSecret) ∧
      Sodium.scalarmult ephemeralSecret responder.remoteEphemeral = some shared ∧
      message = ephemeralPublic.1 ++
        sealedPayload (mixHash responder.state ephemeralPublic.1) shared.1 payload := by
  by_cases hready : !responder.firstMessageRead || responder.complete
  · simp [writeSecondMessage, hready] at h
  have hflags : responder.firstMessageRead = true ∧ responder.complete = false := by
    simpa using hready
  refine ⟨hflags.1, ?_⟩
  rcases ephemeral with _ | ⟨ephemeralPublic, ephemeralSecret⟩
  · simp [writeSecondMessage, hready] at h
  cases hshared : Sodium.scalarmult ephemeralSecret responder.remoteEphemeral with
  | none => simp [writeSecondMessage, hready, hshared] at h
  | some shared =>
    rw [writeSecondMessage_eq ephemeralPublic payload hflags.1 hflags.2 hshared] at h
    exact ⟨ephemeralPublic, ephemeralSecret, shared, rfl, hshared, (Option.some.inj h).symm⟩

end NoiseHandshakeResponder

/-! ## Both messages, delivered as they were sent -/

/-- For every static key pair, every pair of ephemeral key pairs and every pair of
payloads, the handshake completes on both sides, the payloads arrive, the two
symmetric states end with one hash and one chaining key, and the transport keys
cross. -/
theorem handshake_agrees (x : X25519Agrees)
    (staticSecret initiatorSecret responderSecret : X25519SecretKey)
    (firstPayload secondPayload : ByteString) :
    ∃ first second initiator₁ initiator₂ responder₁ responder₂,
      NoiseHandshakeInitiator.writeFirstMessage
        (some (computePublicFromSecret initiatorSecret, initiatorSecret)) firstPayload
        (.create (computePublicFromSecret staticSecret)) = (some first, initiator₁) ∧
      NoiseHandshakeResponder.readFirstMessage first
        (.create (computePublicFromSecret staticSecret) staticSecret) =
        (some firstPayload, responder₁) ∧
      NoiseHandshakeResponder.writeSecondMessage
        (some (computePublicFromSecret responderSecret, responderSecret)) secondPayload
        responder₁ = (some second, responder₂) ∧
      NoiseHandshakeInitiator.readSecondMessage second initiator₁ =
        (some secondPayload, initiator₂) ∧
      initiator₂.state.handshakeHash = responder₂.state.handshakeHash ∧
      initiator₂.state.chainingKey = responder₂.state.chainingKey ∧
      ∃ sendKey receiveKey,
        initiator₂.exportTransportKeys = some (sendKey, receiveKey) ∧
        responder₂.exportTransportKeys = some (receiveKey, sendKey) := by
  -- the two products, each from both sides
  obtain ⟨es, hes, hes'⟩ := x.product initiatorSecret staticSecret
  obtain ⟨ee, hee, hee'⟩ := x.product responderSecret initiatorSecret
  let initiator := NoiseHandshakeInitiator.create (computePublicFromSecret staticSecret)
  let responder := NoiseHandshakeResponder.create (computePublicFromSecret staticSecret) staticSecret
  -- the states before the two payloads are one on both sides
  let beforeFirst := mixHash initiator.state (computePublicFromSecret initiatorSecret).1
  let first := sealedPayload beforeFirst es.1 firstPayload
  let afterFirst := exchangedState beforeFirst es.1 first
  let beforeSecond := mixHash afterFirst (computePublicFromSecret responderSecret).1
  let second := sealedPayload beforeSecond ee.1 secondPayload
  have hfirstLength : aeadTagSize ≤ first.length := by
    rw [sealedPayload_length]
    omega
  have hsecondLength : aeadTagSize ≤ second.length := by
    rw [sealedPayload_length]
    omega
  have hinitiator : initiator.firstMessageSent = false := rfl
  have hresponder : responder.firstMessageRead = false := rfl
  let initiator₁ : NoiseHandshakeInitiator := { initiator with
    ephemeralSecret := initiatorSecret, firstMessageSent := true, state := afterFirst }
  let responder₁ : NoiseHandshakeResponder := { responder with
    remoteEphemeral := computePublicFromSecret initiatorSecret, firstMessageRead := true
    state := afterFirst }
  have hsent : initiator₁.firstMessageSent = true := rfl
  have hread : responder₁.firstMessageRead = true := rfl
  refine ⟨_, _, initiator₁, _, responder₁, _,
    NoiseHandshakeInitiator.writeFirstMessage_eq _ firstPayload hinitiator hes,
    NoiseHandshakeResponder.readFirstMessage_eq hresponder hfirstLength hes'
      (decryptAndHash_sealed beforeFirst es.1 firstPayload),
    NoiseHandshakeResponder.writeSecondMessage_eq _ secondPayload hread rfl hee,
    NoiseHandshakeInitiator.readSecondMessage_eq hsent rfl hsecondLength hee'
      (decryptAndHash_sealed beforeSecond ee.1 secondPayload), rfl, rfl, _, _, rfl, rfl⟩

omit [Sodium] in
/-- Keys of one repeated byte, over the transparent stand-in for libsodium. -/
theorem handshake_agrees_ones :
    letI := transparentSodium
    ∃ first second initiator₁ initiator₂ responder₁ responder₂,
      NoiseHandshakeInitiator.writeFirstMessage (some (repeatedBytes 32 1, repeatedBytes 32 1))
        (ascii "bonjour") (.create (repeatedBytes 32 7)) = (some first, initiator₁) ∧
      NoiseHandshakeResponder.readFirstMessage first
        (.create (repeatedBytes 32 7) (repeatedBytes 32 7)) =
        (some (ascii "bonjour"), responder₁) ∧
      NoiseHandshakeResponder.writeSecondMessage (some (repeatedBytes 32 2, repeatedBytes 32 2)) []
        responder₁ = (some second, responder₂) ∧
      NoiseHandshakeInitiator.readSecondMessage second initiator₁ = (some [], initiator₂) ∧
      initiator₂.state.handshakeHash = responder₂.state.handshakeHash ∧
      initiator₂.state.chainingKey = responder₂.state.chainingKey ∧
      ∃ sendKey receiveKey,
        initiator₂.exportTransportKeys = some (sendKey, receiveKey) ∧
        responder₂.exportTransportKeys = some (receiveKey, sendKey) := by
  let _ := transparentSodium
  exact handshake_agrees transparentSodium_x25519 (repeatedBytes 32 7) (repeatedBytes 32 1)
    (repeatedBytes 32 2) (ascii "bonjour") []

end HyperCom
