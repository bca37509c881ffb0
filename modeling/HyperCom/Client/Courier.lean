import HyperCom.Client.Exchange
import HyperCom.Protocol.SocialMessages

/-!
# `dm_courier`

What the client does to a direct message before it leaves the machine and after
it arrives: the prekey derived from the identity, the check of a recipient's
bundle, sealing and opening. Sealing draws an ephemeral key and reads the clock,
so it is a command; opening is a function of the identity and the bytes.

The prekey is derived and not stored, so a client that has its seed can open what was sent
to any session of its own. What `verify_prekey_bundle` checks, and what it leaves to others,
is the subject of `Client.Recipient`.
-/

namespace HyperCom

open BinaryCodec Interaction

variable [Sodium]

/-! ## The content of a message -/

def dmPayloadVersion : UInt8 := 1

/-- `build_dm_payload`: `[u8 version][u64 sent-at timestamp][text]` -/
def buildDmPayload (sentAt : UInt64) (text : ByteString) : ByteString :=
  List.flatten [writeInteger dmPayloadVersion, writeInteger sentAt, writeFixedBytes text]

/-- `parse_dm_payload`: the date, zero as long as it has not been read, and the
text if it is acceptable. The text comes from a peer, so it is validated. -/
def parseDmPayload (payload : ByteString) : UInt64 × Option ByteString :=
  match readInteger UInt8 (ByteReader.start payload) with
  | (none, _) => (0, none)
  | (some version, reader) =>
    if version ≠ dmPayloadVersion then (0, none)
    else
      match readInteger UInt64 reader with
      | (none, _) => (0, none)
      | (some sentAt, reader) =>
        match takeSlice reader.countRemainingBytes reader with
        | (none, _) => (sentAt, none)
        | (some text, _) => (sentAt, if validateTextField text then some text else none)

/-- `derive_first_message_key`: every send has a fresh root, so the ratchet is
always at its start. -/
def deriveFirstMessageKey (root : SymmetricKey) : SymmetricKey :=
  DmMessageChain.deriveNextMessageKey { chainKey := root } |>.1

/-! ## The courier -/

/-- `PREKEY_DERIVATION_INFO` -/
def prekeyDerivationInfo : ByteString := ascii "hypercom-prekey-derive-v1"

/-- `derive_local_prekey`, from the seed in the first half of the secret key. -/
def deriveLocalPrekey (identity : IdentityKeypair) : X25519PublicKey × X25519SecretKey :=
  let seedMaterial := FixedBytes.copyFrom 32 identity.secretKey.1
  let secret := expandKeyBlock seedMaterial prekeyDerivationInfo 0x01
  (computePublicFromSecret secret, secret)

/-- `verify_prekey_bundle` -/
def verifyPrekeyBundle (bundle : PrekeyBundleResponse) : Bool :=
  verifySignature bundle.ownerPubkey (buildPrekeySigningInput bundle.ownerPubkey bundle.prekey)
    bundle.signature

/-- `seal_direct_message` -/
def sealDirectMessage (sender : IdentityKeypair) (recipientBundle : PrekeyBundleResponse)
    (text : ByteString) : ClientCommand ByteString := do
  if !verifyPrekeyBundle recipientBundle then
    throw (ascii ("prekey du destinataire non signee par son identite : " ++
      "le serveur tente peut-etre de s'interposer"))
  else
    match ← ExceptT.lift (Dialogue.call ClientCall.generateX25519Keypair) with
    | none => throw (ascii "generation de la cle ephemere impossible")
    | some (ephemeralPublic, ephemeralSecret) =>
      match deriveSenderSessionKey sender ephemeralSecret recipientBundle.ownerPubkey
          recipientBundle.prekey with
      | none => throw (ascii "chiffrement du message impossible")
      | some root =>
        let sentAt ← ExceptT.lift (Dialogue.call ClientCall.getUnixTimestamp)
        let header : DmEnvelopeHeader :=
          { senderIdentity := sender.publicKey, senderEphemeral := ephemeralPublic, counter := 0 }
        pure (sealDmEnvelope header (deriveFirstMessageKey root) (buildDmPayload sentAt text))

/-- What `open_direct_message` leaves in its out-parameters: the date, which
stays zero if it was not reached, and the text or what went wrong. -/
structure OpenedMessage where
  sentAt : UInt64 := 0
  text : Except ByteString ByteString

/-- `open_direct_message` -/
def openDirectMessage (recipient : IdentityKeypair) (envelope : ByteString) : OpenedMessage :=
  match parseDmEnvelopeHeader envelope with
  | none => { text := .error (ascii "enveloppe illisible") }
  | some header =>
    let prekey := deriveLocalPrekey recipient
    let plaintext := do
      let root ← deriveRecipientSessionKey recipient prekey.2 header.senderIdentity
        header.senderEphemeral
      openDmEnvelope envelope (deriveFirstMessageKey root)
    match plaintext with
    | none =>
      let error := "dechiffrement impossible : message altere, ou destine a quelqu'un d'autre"
      { text := .error (ascii error) }
    | some plaintext =>
      match parseDmPayload plaintext with
      | (sentAt, none) => { sentAt, text := .error (ascii "contenu du message illisible") }
      | (sentAt, some text) => { sentAt, text := .ok text }

/-- `open_direct_message` returns `true`. -/
def OpenedMessage.accepted (opened : OpenedMessage) : Bool := opened.text.isOk

omit [Sodium] in
theorem OpenedMessage.exists_text {opened : OpenedMessage} (h : opened.accepted = true) :
    ∃ text, opened.text = .ok text := by
  obtain ⟨sentAt, error | text⟩ := opened
  · cases h
  · exact ⟨text, rfl⟩

omit [Sodium] in
/-- What `build_dm_payload` wrote is read back: the date always, the text if it is
acceptable. -/
theorem parseDmPayload_buildDmPayload (sentAt : UInt64) (text : ByteString) :
    parseDmPayload (buildDmPayload sentAt text) =
      (sentAt, if validateTextField text then some text else none) := by
  have hstart : (ByteReader.start (buildDmPayload sentAt text)).remaining =
      writeInteger dmPayloadVersion ++ (writeInteger sentAt ++ text) := by
    simp [buildDmPayload, writeFixedBytes]
  obtain ⟨afterVersion, hversion, hrest⟩ := readInteger_exact.complete trivial hstart
  obtain ⟨afterDate, hdate, htext⟩ := readInteger_exact.complete trivial hrest
  -- the text is all that is left
  rw [← List.append_nil text] at htext
  obtain ⟨finish, hslice, -⟩ := takeSlice_complete htext
  have hcount : afterDate.countRemainingBytes = text.length := by
    rw [← ByteReader.remaining_length, htext, List.append_nil]
  rw [← hcount] at hslice
  simp [parseDmPayload, hversion, hdate, hslice]

/-! ## What they do -/

/-- Sealing for this bundle with this key pair goes through. -/
def Sealable (sender : IdentityKeypair) (bundle : PrekeyBundleResponse)
    (ephemeral : EphemeralKeypair) : Bool :=
  verifyPrekeyBundle bundle && ephemeral.any fun keys =>
    (deriveSenderSessionKey sender keys.2 bundle.ownerPubkey bundle.prekey).isSome

/-- The calls of `seal_direct_message`. -/
def SealCall : ClientCall → Prop
  | .generateX25519Keypair => True
  | .getUnixTimestamp => True
  | _ => False

theorem sealDirectMessage_only (sender : IdentityKeypair) (bundle : PrekeyBundleResponse)
    (text : ByteString) : (sealDirectMessage sender bundle text).run.Only SealCall := by
  unfold sealDirectMessage
  split
  · exact .done
  · apply (Dialogue.only_call trivial).lift.bindExcept
    rintro (_ | ⟨ephemeralPublic, ephemeralSecret⟩)
    · exact .done
    · dsimp only
      split
      · exact .done
      · apply (Dialogue.only_call trivial).lift.bindExcept
        intro sentAt
        exact .done

/-- The envelope `seal_direct_message` makes with a key pair and the session key
derived from it. -/
def sealedEnvelope (sender : IdentityKeypair) (ephemeralPublic : X25519PublicKey)
    (root : SymmetricKey) (sentAt : UInt64) (text : ByteString) : ByteString :=
  sealDmEnvelope { senderIdentity := sender.publicKey, senderEphemeral := ephemeralPublic }
    (deriveFirstMessageKey root) (buildDmPayload sentAt text)

/-- Every course of `seal_direct_message`: where it stops, and what it makes. -/
inductive SealCourse (sender : IdentityKeypair) (bundle : PrekeyBundleResponse)
    (text : ByteString) : ClientTrace → Except ByteString ByteString → Prop where
  | refused {error : ByteString} (verified : verifyPrekeyBundle bundle = false) :
      SealCourse sender bundle text [] (.error error)
  | undrawn {error : ByteString} (verified : verifyPrekeyBundle bundle = true) :
      SealCourse sender bundle text [⟨.generateX25519Keypair, none⟩] (.error error)
  | underived {keys : X25519PublicKey × X25519SecretKey} {error : ByteString}
      (verified : verifyPrekeyBundle bundle = true)
      (derived : deriveSenderSessionKey sender keys.2 bundle.ownerPubkey bundle.prekey = none) :
      SealCourse sender bundle text [⟨.generateX25519Keypair, some keys⟩] (.error error)
  | sealed {keys : X25519PublicKey × X25519SecretKey} {root : SymmetricKey} {sentAt : UInt64}
      (verified : verifyPrekeyBundle bundle = true)
      (derived : deriveSenderSessionKey sender keys.2 bundle.ownerPubkey bundle.prekey =
        some root) :
      SealCourse sender bundle text
        [⟨.generateX25519Keypair, some keys⟩, ⟨.getUnixTimestamp, sentAt⟩]
        (.ok (sealedEnvelope sender keys.1 root sentAt text))

theorem performs_sealDirectMessage {sender : IdentityKeypair} {bundle : PrekeyBundleResponse}
    {text : ByteString} {trace : ClientTrace} {result : Except ByteString ByteString}
    (h : (sealDirectMessage sender bundle text).run.Performs trace result) :
    SealCourse sender bundle text trace result := by
  unfold sealDirectMessage at h
  cases hverify : verifyPrekeyBundle bundle with
  | false =>
    rw [hverify] at h
    obtain ⟨rfl, rfl⟩ := Dialogue.performs_pure.mp h
    exact .refused hverify
  | true =>
    rw [hverify] at h
    obtain ⟨drawn, rest, ephemeral, rfl, hdraw, hdrawn⟩ := Dialogue.performs_lift_bind.mp h
    obtain rfl := Dialogue.performs_call.mp hdraw
    cases ephemeral with
    | none =>
      obtain ⟨rfl, rfl⟩ := Dialogue.performs_pure.mp hdrawn
      exact .undrawn hverify
    | some keys =>
      dsimp only at hdrawn
      cases hroot : deriveSenderSessionKey sender keys.2 bundle.ownerPubkey bundle.prekey with
      | none =>
        rw [hroot] at hdrawn
        obtain ⟨rfl, rfl⟩ := Dialogue.performs_pure.mp hdrawn
        exact .underived hverify hroot
      | some root =>
        rw [hroot] at hdrawn
        obtain ⟨clock, rest, sentAt, rfl, hclock, hsealed⟩ := Dialogue.performs_lift_bind.mp hdrawn
        obtain rfl := Dialogue.performs_call.mp hclock
        obtain ⟨rfl, rfl⟩ := Dialogue.performs_pure.mp hsealed
        exact .sealed hverify hroot

/-- Where the bundle verifies and the keys can be derived, this is a course. -/
theorem sealDirectMessage_performs {sender : IdentityKeypair} {bundle : PrekeyBundleResponse}
    {keys : X25519PublicKey × X25519SecretKey} {root : SymmetricKey} (text : ByteString)
    (sentAt : UInt64) (verified : verifyPrekeyBundle bundle = true)
    (derived : deriveSenderSessionKey sender keys.2 bundle.ownerPubkey bundle.prekey = some root) :
    (sealDirectMessage sender bundle text).run.Performs
      [⟨.generateX25519Keypair, some keys⟩, ⟨.getUnixTimestamp, sentAt⟩]
      (.ok (sealedEnvelope sender keys.1 root sentAt text)) := by
  simp only [sealDirectMessage, verified, Bool.not_true, Bool.false_eq_true, if_false]
  refine Dialogue.performs_lift_bind.mpr ⟨[_], [_], some keys, rfl, Dialogue.performs_call.mpr rfl, ?_⟩
  simp only [derived]
  exact Dialogue.performs_lift_bind.mpr ⟨[_], [], sentAt, rfl, Dialogue.performs_call.mpr rfl,
    Dialogue.performs_pure.mpr ⟨rfl, rfl⟩⟩

/-- A course either fails on what the outside gave, or draws one key pair with
which the bundle can be sealed for. -/
theorem SealCourse.sealable {sender : IdentityKeypair} {bundle : PrekeyBundleResponse}
    {text : ByteString} {trace : ClientTrace} {result : Except ByteString ByteString}
    (h : SealCourse sender bundle text trace result) :
    (∃ error, result = .error error ∧
      ∀ ephemeral ∈ generatedKeypairs trace, Sealable sender bundle ephemeral = false) ∨
    (∃ ciphertext ephemeral, result = .ok ciphertext ∧ generatedKeypairs trace = [ephemeral] ∧
      Sealable sender bundle ephemeral = true) := by
  cases h with
  | refused verified => exact .inl ⟨_, rfl, fun _ hmem => nomatch hmem⟩
  | undrawn verified => exact .inl ⟨_, rfl, by simp [generatedKeypairs, Sealable]⟩
  | underived verified derived =>
    exact .inl ⟨_, rfl, by simp [generatedKeypairs, Sealable, derived]⟩
  | @sealed keys root sentAt verified derived =>
    exact .inr ⟨_, some keys, rfl, rfl, by simp [Sealable, verified, derived]⟩

/-- Sealing sends nothing. -/
theorem performs_seal_unsent {sender : IdentityKeypair} {bundle : PrekeyBundleResponse}
    {text : ByteString} {trace : ClientTrace} {result : Except ByteString ByteString}
    (h : (sealDirectMessage sender bundle text).run.Performs trace result) (type : MessageType) :
    sentFrames type trace = [] :=
  sentFrames_eq_nil ((sealDirectMessage_only sender bundle text).of_performs h) fun _ => id

end HyperCom
