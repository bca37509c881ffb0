import HyperCom.Crypto.Sodium

/-!
# Noise NK

`noise_cipher_state`, `noise_symmetric_state`, `noise_payload_codec`, the two
handshakes and `noise_transport`. A call that fails keeps whatever it had
already done to its state, as in the source.

A transport is only ever built by initialising both of its keys, so
`NoiseTransport` carries that fact: sealing with it never passes plaintext
through.
-/

namespace HyperCom

open BinaryCodec

variable [Sodium]

/-! ## `noise_cipher_state` -/

/-- A key, if there is one, and the nonce counter. -/
structure NoiseCipherState where
  key : SymmetricKey := FixedBytes.zero _
  nonceCounter : UInt64 := 0
  hasKey : Bool := false
deriving DecidableEq

namespace NoiseCipherState

/-- `initialize_key` -/
def initializeKey (key : SymmetricKey) : NoiseCipherState :=
  { key, nonceCounter := 0, hasKey := true }

/-- `build_nonce`: four zero bytes, then the counter as 8 bytes little-endian. -/
def buildNonce (nonceCounter : UInt64) : FixedBytes chachaIetfNonceSize :=
  ⟨List.replicate 4 0 ++ storeLittleEndian nonceCounter, by simp; rfl⟩

/-- The last counter value, kept out of use. -/
def exhausted : UInt64 := 0xFFFFFFFFFFFFFFFF

/-- `encrypt_with_ad` -/
def encryptWithAd (associatedData plaintext : ByteString) :
    Fallible NoiseCipherState ByteString := fun state =>
  if !state.hasKey then (some plaintext, state)
  else if state.nonceCounter = exhausted then (none, state)
  else
    (some (Sodium.chachaEncrypt state.key (buildNonce state.nonceCounter) associatedData plaintext),
      { state with nonceCounter := state.nonceCounter + 1 })

/-- `decrypt_with_ad`: the counter only advances on success. -/
def decryptWithAd (associatedData ciphertext : ByteString) :
    Fallible NoiseCipherState ByteString := fun state =>
  if !state.hasKey then (some ciphertext, state)
  else if ciphertext.length < aeadTagSize then (none, state)
  else if state.nonceCounter = exhausted then (none, state)
  else
    match Sodium.chachaDecrypt state.key (buildNonce state.nonceCounter) associatedData
        ciphertext with
    | none => (none, state)
    | some decoded => (some decoded, { state with nonceCounter := state.nonceCounter + 1 })

theorem encryptWithAd_hasKey (ad plaintext : ByteString) (state : NoiseCipherState) :
    (encryptWithAd ad plaintext state).2.hasKey = state.hasKey := by
  unfold encryptWithAd
  split_ifs <;> rfl

theorem decryptWithAd_hasKey (ad ciphertext : ByteString) (state : NoiseCipherState) :
    (decryptWithAd ad ciphertext state).2.hasKey = state.hasKey := by
  unfold decryptWithAd
  split_ifs
  · rfl
  · rfl
  · rfl
  · split <;> rfl

end NoiseCipherState

/-! ## `noise_symmetric_state` and `noise_payload_codec` -/

/-- `noise_symmetric_state` -/
structure NoiseSymmetricState where
  chainingKey : SymmetricKey
  handshakeHash : FixedBytes 32
  cipher : NoiseCipherState

/-- `NOISE_PROTOCOL_NAME`, exactly 32 bytes -/
def noiseProtocolName : ByteString := ascii "Noise_NK_25519_ChaChaPoly_SHA256"

/-- `NOISE_PROLOGUE` -/
def noisePrologue : ByteString := ascii "hypercom-v1"

/-- The size of either handshake message with an empty payload. -/
def noiseHandshakeMessageSize : ℕ := 32 + aeadTagSize

/-- `initialize_symmetric_state`: a short name is padded with zeros, a long one
is hashed. -/
def initializeSymmetricState (protocolName : ByteString) : NoiseSymmetricState :=
  let handshakeHash :=
    if protocolName.length ≤ 32 then
      FixedBytes.copyFrom 32 (protocolName ++ List.replicate (32 - protocolName.length) 0)
    else Sodium.hashSha256 protocolName
  { chainingKey := handshakeHash, handshakeHash, cipher := {} }

/-- `mix_hash` -/
def mixHash (state : NoiseSymmetricState) (data : ByteString) : NoiseSymmetricState :=
  { state with handshakeHash := Sodium.hashSha256 (state.handshakeHash.1 ++ data) }

/-- `mix_key` -/
def mixKey (state : NoiseSymmetricState) (inputKeyMaterial : ByteString) : NoiseSymmetricState :=
  let keys := deriveKeyPair state.chainingKey inputKeyMaterial
  { state with chainingKey := keys.1, cipher := NoiseCipherState.initializeKey keys.2 }

/-- `split_transport_keys` -/
def splitTransportKeys (state : NoiseSymmetricState) : SymmetricKey × SymmetricKey :=
  deriveKeyPair state.chainingKey []

/-- `encrypt_and_hash`: the associated data is the hash before the ciphertext is
mixed in. -/
def encryptAndHash (plaintext : ByteString) : Fallible NoiseSymmetricState ByteString := fun state =>
  match NoiseCipherState.encryptWithAd state.handshakeHash.1 plaintext state.cipher with
  | (none, cipher) => (none, { state with cipher })
  | (some sealed, cipher) => (some sealed, mixHash { state with cipher } sealed)

/-- `decrypt_and_hash`: it is the ciphertext that gets mixed in. -/
def decryptAndHash (ciphertext : ByteString) : Fallible NoiseSymmetricState ByteString :=
  fun state =>
  match NoiseCipherState.decryptWithAd state.handshakeHash.1 ciphertext state.cipher with
  | (none, cipher) => (none, { state with cipher })
  | (some opened, cipher) => (some opened, mixHash { state with cipher } ciphertext)

/-- Right after `mix_key` there is a key, with its first nonce. -/
theorem encryptAndHash_mixKey_length {state state' : NoiseSymmetricState}
    {material plaintext sealed : ByteString}
    (h : encryptAndHash plaintext (mixKey state material) = (some sealed, state')) :
    sealed.length = plaintext.length + aeadTagSize := by
  have hkey : (mixKey state material).cipher.hasKey = true := rfl
  have hcounter : (mixKey state material).cipher.nonceCounter ≠ NoiseCipherState.exhausted := by
    change (0 : UInt64) ≠ NoiseCipherState.exhausted
    decide
  simp only [encryptAndHash, NoiseCipherState.encryptWithAd, hkey, hcounter, Bool.not_true,
    Bool.false_eq_true, if_false, Prod.mk.injEq, Option.some.injEq] at h
  rw [← h.1]
  exact Sodium.chachaEncrypt_length ..

/-- A fresh X25519 key pair, when `crypto_box_keypair` delivers one. -/
abbrev EphemeralKeypair : Type := Option (X25519PublicKey × X25519SecretKey)

/-! ## `noise_handshake_responder` -/

structure NoiseHandshakeResponder where
  state : NoiseSymmetricState
  staticSecret : X25519SecretKey
  remoteEphemeral : X25519PublicKey := FixedBytes.zero _
  firstMessageRead : Bool := false
  complete : Bool := false

namespace NoiseHandshakeResponder

/-- The constructor: prologue, then the NK pre-message. -/
def create (staticPublic : X25519PublicKey) (staticSecret : X25519SecretKey) :
    NoiseHandshakeResponder :=
  { state := mixHash (mixHash (initializeSymmetricState noiseProtocolName) noisePrologue)
      staticPublic.1
    staticSecret }

/-- `read_first_message` -/
def readFirstMessage (input : ByteString) : Fallible NoiseHandshakeResponder ByteString :=
  fun responder =>
  if responder.firstMessageRead then (none, responder)
  else if input.length < noiseHandshakeMessageSize then (none, responder)
  else
    let remoteEphemeral := FixedBytes.copyFrom 32 input
    let responder := { responder with
      remoteEphemeral, state := mixHash responder.state remoteEphemeral.1 }
    match Sodium.scalarmult responder.staticSecret remoteEphemeral with
    | none => (none, responder)
    | some shared =>
      let responder := { responder with state := mixKey responder.state shared.1 }
      match decryptAndHash (input.drop 32) responder.state with
      | (none, state) => (none, { responder with state })
      | (some payload, state) => (some payload, { responder with state, firstMessageRead := true })

/-- `write_second_message` with the ephemeral key pair it generates. -/
def writeSecondMessage (ephemeral : EphemeralKeypair) (payload : ByteString) :
    Fallible NoiseHandshakeResponder ByteString := fun responder =>
  if !responder.firstMessageRead || responder.complete then (none, responder)
  else
    match ephemeral with
    | none => (none, responder)
    | some (ephemeralPublic, ephemeralSecret) =>
      let responder := { responder with state := mixHash responder.state ephemeralPublic.1 }
      match Sodium.scalarmult ephemeralSecret responder.remoteEphemeral with
      | none => (none, responder)
      | some shared =>
        let responder := { responder with state := mixKey responder.state shared.1 }
        match encryptAndHash payload responder.state with
        | (none, state) => (none, { responder with state })
        | (some sealedPayload, state) =>
          (some (ephemeralPublic.1 ++ sealedPayload), { responder with state, complete := true })

/-- `export_transport_keys`: send key, then receive key. The split gives the
initiator's send key first, which is the responder's receive key. -/
def exportTransportKeys (responder : NoiseHandshakeResponder) :
    Option (SymmetricKey × SymmetricKey) :=
  if !responder.complete then none
  else
    let keys := splitTransportKeys responder.state
    some (keys.2, keys.1)

/-- The size of the second message. -/
theorem writeSecondMessage_length {ephemeral : EphemeralKeypair} {payload message : ByteString}
    {responder responder' : NoiseHandshakeResponder}
    (h : writeSecondMessage ephemeral payload responder = (some message, responder')) :
    message.length = noiseHandshakeMessageSize + payload.length := by
  unfold writeSecondMessage at h
  split at h
  · cases h
  split at h
  · cases h
  next ephemeralPublic ephemeralSecret =>
  simp only at h
  split at h
  · cases h
  split at h
  · cases h
  next sealedPayload state hseal =>
  obtain ⟨hmessage, -⟩ := Prod.mk.inj h
  obtain rfl := Option.some.inj hmessage
  rw [List.length_append, encryptAndHash_mixKey_length hseal, ephemeralPublic.2,
    noiseHandshakeMessageSize]
  omega

end NoiseHandshakeResponder

/-! ## `noise_handshake_initiator` -/

structure NoiseHandshakeInitiator where
  state : NoiseSymmetricState
  remoteStatic : X25519PublicKey
  ephemeralSecret : X25519SecretKey := FixedBytes.zero _
  firstMessageSent : Bool := false
  complete : Bool := false

namespace NoiseHandshakeInitiator

/-- The constructor, pinned to the server's static key. -/
def create (serverStaticPublic : X25519PublicKey) : NoiseHandshakeInitiator :=
  { state := mixHash (mixHash (initializeSymmetricState noiseProtocolName) noisePrologue)
      serverStaticPublic.1
    remoteStatic := serverStaticPublic }

/-- `write_first_message` with the ephemeral key pair it generates. -/
def writeFirstMessage (ephemeral : EphemeralKeypair) (payload : ByteString) :
    Fallible NoiseHandshakeInitiator ByteString := fun initiator =>
  if initiator.firstMessageSent then (none, initiator)
  else
    match ephemeral with
    | none => (none, initiator)
    | some (ephemeralPublic, ephemeralSecret) =>
      let initiator := { initiator with
        ephemeralSecret, state := mixHash initiator.state ephemeralPublic.1 }
      match Sodium.scalarmult ephemeralSecret initiator.remoteStatic with
      | none => (none, initiator)
      | some shared =>
        let initiator := { initiator with state := mixKey initiator.state shared.1 }
        match encryptAndHash payload initiator.state with
        | (none, state) => (none, { initiator with state })
        | (some sealedPayload, state) =>
          (some (ephemeralPublic.1 ++ sealedPayload),
            { initiator with state, firstMessageSent := true })

/-- `read_second_message`: the ephemeral secret is wiped even when the exchange
fails. -/
def readSecondMessage (input : ByteString) : Fallible NoiseHandshakeInitiator ByteString :=
  fun initiator =>
  if !initiator.firstMessageSent || initiator.complete then (none, initiator)
  else if input.length < noiseHandshakeMessageSize then (none, initiator)
  else
    let remoteEphemeral := FixedBytes.copyFrom 32 input
    let exchanged := Sodium.scalarmult initiator.ephemeralSecret remoteEphemeral
    let initiator := { initiator with
      ephemeralSecret := FixedBytes.zero _, state := mixHash initiator.state remoteEphemeral.1 }
    match exchanged with
    | none => (none, initiator)
    | some shared =>
      let initiator := { initiator with state := mixKey initiator.state shared.1 }
      match decryptAndHash (input.drop 32) initiator.state with
      | (none, state) => (none, { initiator with state })
      | (some payload, state) => (some payload, { initiator with state, complete := true })

/-- `export_transport_keys`: send key, then receive key. -/
def exportTransportKeys (initiator : NoiseHandshakeInitiator) :
    Option (SymmetricKey × SymmetricKey) :=
  if !initiator.complete then none else some (splitTransportKeys initiator.state)

/-- The size of the first message. -/
theorem writeFirstMessage_length {ephemeral : EphemeralKeypair} {payload message : ByteString}
    {initiator initiator' : NoiseHandshakeInitiator}
    (h : writeFirstMessage ephemeral payload initiator = (some message, initiator')) :
    message.length = noiseHandshakeMessageSize + payload.length := by
  unfold writeFirstMessage at h
  split at h
  · cases h
  split at h
  · cases h
  next ephemeralPublic ephemeralSecret =>
  simp only at h
  split at h
  · cases h
  split at h
  · cases h
  next sealedPayload state hseal =>
  obtain ⟨hmessage, -⟩ := Prod.mk.inj h
  obtain rfl := Option.some.inj hmessage
  rw [List.length_append, encryptAndHash_mixKey_length hseal, ephemeralPublic.2,
    noiseHandshakeMessageSize]
  omega

end NoiseHandshakeInitiator

/-! ## `noise_transport` -/

/-- Two keyed cipher states, one per direction. -/
structure NoiseTransport where
  sendState : NoiseCipherState
  receiveState : NoiseCipherState
  sendKeyed : sendState.hasKey = true
  receiveKeyed : receiveState.hasKey = true

namespace NoiseTransport

/-- The constructor. -/
def create (sendKey receiveKey : SymmetricKey) : NoiseTransport where
  sendState := NoiseCipherState.initializeKey sendKey
  receiveState := NoiseCipherState.initializeKey receiveKey
  sendKeyed := rfl
  receiveKeyed := rfl

/-- `encrypt_message`: no associated data in the transport phase. -/
def encryptMessage (plaintext : ByteString) : Fallible NoiseTransport ByteString := fun transport =>
  let out := NoiseCipherState.encryptWithAd [] plaintext transport.sendState
  (out.1, { transport with
    sendState := out.2
    sendKeyed := (NoiseCipherState.encryptWithAd_hasKey ..).trans transport.sendKeyed })

/-- `decrypt_message` -/
def decryptMessage (ciphertext : ByteString) : Fallible NoiseTransport ByteString := fun transport =>
  let out := NoiseCipherState.decryptWithAd [] ciphertext transport.receiveState
  (out.1, { transport with
    receiveState := out.2
    receiveKeyed := (NoiseCipherState.decryptWithAd_hasKey ..).trans transport.receiveKeyed })

/-- The send key. -/
def sendKey (transport : NoiseTransport) : SymmetricKey := transport.sendState.key

/-- How many messages have been sealed so far: the next nonce. -/
def sendCounter (transport : NoiseTransport) : ℕ := transport.sendState.nonceCounter.toNat

/-- How many messages have been opened so far. -/
def receiveCounter (transport : NoiseTransport) : ℕ := transport.receiveState.nonceCounter.toNat

end NoiseTransport

/-- Two transports at the two ends of one channel with nothing in flight: what
one sends the other receives. -/
structure NoiseTransport.Crossed (near far : NoiseTransport) : Prop where
  sendKey : near.sendKey = far.receiveState.key
  sendCounter : near.sendCounter = far.receiveCounter
  receiveKey : far.sendKey = near.receiveState.key
  receiveCounter : far.sendCounter = near.receiveCounter

namespace NoiseTransport.Crossed

variable {near near' far far' : NoiseTransport}

omit [Sodium] in
theorem symm (h : near.Crossed far) : far.Crossed near :=
  ⟨h.receiveKey, h.receiveCounter, h.sendKey, h.sendCounter⟩

omit [Sodium] in
/-- A message that one end sealed and the other opened leaves them crossed. -/
theorem passed (h : near.Crossed far) (hsent : near'.sendCounter = near.sendCounter + 1)
    (hkey : near'.sendKey = near.sendKey) (hreceive : near'.receiveState = near.receiveState)
    (hopened : far'.receiveCounter = far.receiveCounter + 1)
    (hfarKey : far'.receiveState.key = far.receiveState.key)
    (hfarSend : far'.sendState = far.sendState) : near'.Crossed far' where
  sendKey := by rw [hkey, h.sendKey, hfarKey]
  sendCounter := by rw [hsent, h.sendCounter, hopened]
  receiveKey := by
    rw [NoiseTransport.sendKey, hfarSend, hreceive]
    exact h.receiveKey
  receiveCounter := by
    rw [NoiseTransport.sendCounter, hfarSend, NoiseTransport.receiveCounter, hreceive]
    exact h.receiveCounter

end NoiseTransport.Crossed

/-- The message sealed under a key as the `index`-th one of a transport. -/
def sealedMessage (key : SymmetricKey) (index : ℕ) (plaintext : ByteString) : ByteString :=
  Sodium.chachaEncrypt key (NoiseCipherState.buildNonce (UInt64.ofNat index)) [] plaintext

@[simp] theorem sealedMessage_length (key : SymmetricKey) (index : ℕ) (plaintext : ByteString) :
    (sealedMessage key index plaintext).length = plaintext.length + aeadTagSize :=
  Sodium.chachaEncrypt_length ..

namespace NoiseTransport

omit [Sodium] in
/-- Nonces are left below the reserved one. -/
theorem ne_exhausted {counter : UInt64} (h : counter.toNat < 2 ^ 64 - 1) :
    counter ≠ NoiseCipherState.exhausted := by
  rintro rfl
  exact absurd h (by decide)

omit [Sodium] in
/-- Below the reserved value the counter does not wrap. -/
theorem counter_succ {counter : UInt64} (h : counter ≠ NoiseCipherState.exhausted) :
    (counter + 1).toNat = counter.toNat + 1 := by
  have hlt := counter.toNat_lt
  have hne : counter.toNat ≠ 2 ^ 64 - 1 := fun heq => h (UInt64.toNat_inj.mp (by rw [heq]; rfl))
  rw [UInt64.toNat_add]
  simp only [UInt64.toNat_one]
  omega

/-- What `encrypt_message` can do: nothing, or consume exactly the next nonce. -/
theorem encryptMessage_cases {plaintext : ByteString} {transport transport' : NoiseTransport}
    {sealed? : Option ByteString}
    (h : encryptMessage plaintext transport = (sealed?, transport')) :
    (sealed? = none ∧ transport' = transport) ∨
    (sealed? = some (sealedMessage transport.sendKey transport.sendCounter plaintext) ∧
      transport'.sendCounter = transport.sendCounter + 1 ∧
      transport'.sendKey = transport.sendKey ∧
      transport'.receiveState = transport.receiveState) := by
  have hkey : (!transport.sendState.hasKey) = false := by simp [transport.sendKeyed]
  obtain ⟨rfl, rfl⟩ := Prod.mk.inj h
  by_cases hmax : transport.sendState.nonceCounter = NoiseCipherState.exhausted
  · left
    simp [NoiseCipherState.encryptWithAd, hkey, hmax]
  · right
    simp only [NoiseCipherState.encryptWithAd, hkey, hmax, Bool.false_eq_true, if_false]
    refine ⟨?_, counter_succ hmax, rfl, trivial⟩
    simp [sealedMessage, sendKey, sendCounter]

/-- Sealing succeeds as long as nonces are left. -/
theorem encryptMessage_some {transport : NoiseTransport} (plaintext : ByteString)
    (h : transport.sendState.nonceCounter ≠ NoiseCipherState.exhausted) :
    (encryptMessage plaintext transport).1 =
      some (sealedMessage transport.sendKey transport.sendCounter plaintext) := by
  simp [encryptMessage, NoiseCipherState.encryptWithAd, transport.sendKeyed, h, sealedMessage,
    sendKey, sendCounter]

/-- Opening the next message sealed under the receive key. -/
theorem decryptMessage_sealed {transport : NoiseTransport} (plaintext : ByteString)
    (h : transport.receiveState.nonceCounter ≠ NoiseCipherState.exhausted) :
    ∃ transport', decryptMessage
        (sealedMessage transport.receiveState.key transport.receiveCounter plaintext) transport =
        (some plaintext, transport') ∧
      transport'.receiveCounter = transport.receiveCounter + 1 ∧
      transport'.receiveState.key = transport.receiveState.key ∧
      transport'.sendState = transport.sendState := by
  have hopen : Sodium.chachaDecrypt transport.receiveState.key
      (NoiseCipherState.buildNonce transport.receiveState.nonceCounter) []
      (sealedMessage transport.receiveState.key transport.receiveCounter plaintext) =
      some plaintext := by
    rw [sealedMessage, receiveCounter, UInt64.ofNat_toNat]
    exact Sodium.chachaDecrypt_encrypt ..
  have hout : NoiseCipherState.decryptWithAd []
      (sealedMessage transport.receiveState.key transport.receiveCounter plaintext)
      transport.receiveState = (some plaintext,
        { transport.receiveState with nonceCounter := transport.receiveState.nonceCounter + 1 }) := by
    rw [NoiseCipherState.decryptWithAd, if_neg (by simp [transport.receiveKeyed]),
      if_neg (by simp), if_neg h, hopen]
  refine ⟨(decryptMessage _ transport).2, Prod.ext (congrArg Prod.fst hout :) rfl, ?_, ?_, rfl⟩
  · change (NoiseCipherState.decryptWithAd [] _ transport.receiveState).2.nonceCounter.toNat = _
    rw [hout]
    exact counter_succ h
  · change (NoiseCipherState.decryptWithAd [] _ transport.receiveState).2.key = _
    rw [hout]

end NoiseTransport

end HyperCom
