import HyperCom.Client.Recipient
import HyperCom.Crypto.KeyAgreement

/-!
# From the sender to the recipient

The recipient publishes a prekey derived from its seed and signs it. A sender
that is given this bundle seals with a fresh key pair, and the recipient, who has
only its seed and the envelope, derives the same message key and reads the text.

This is where the parts meet: the conversion of identities, the three agreements, the
derivation, the ratchet of the envelope, and the cipher. Each has its own module, and the
proof here is the chain of their results. The one thing assumed is that the agreements
commute; that opening undoes sealing is in `Sodium`.
-/

namespace HyperCom

open BinaryCodec Interaction

variable [Sodium]

/-! ## Publishing -/

/-- The request `run_prekey_publish` sends. -/
def prekeyPublication (identity : IdentityKeypair) : PrekeyPublishRequest :=
  let prekey := (deriveLocalPrekey identity).1
  { prekey, signature := identity.signMessage (buildPrekeySigningInput identity.publicKey prekey) }

/-- `run_prekey_publish` -/
def runPrekeyPublish (identity : IdentityKeypair) : ClientCommand Unit := do
  let _ ← requestReply .prekeyPublishRequest (prekeyPublication identity).writeTo
    (ascii "envoi impossible") .statusOk StatusOkResponse.readFrom
  ExceptT.lift (printLine (ascii "prekey publiee"))

/-- What the server has to hand out after `request`: the key of the account, and
the prekey with its signature. -/
def BundleOf (identity : IdentityKeypair) (request : PrekeyPublishRequest)
    (bundle : PrekeyBundleResponse) : Prop :=
  bundle.ownerPubkey = identity.publicKey ∧ bundle.prekey = request.prekey ∧
    bundle.signature = request.signature

/-- Whatever the server answers, there is one request, or none if the connection
is gone. -/
theorem performs_runPrekeyPublish {identity : IdentityKeypair} {trace : ClientTrace}
    {result : Except ByteString Unit}
    (h : (runPrekeyPublish identity).run.Performs trace result) :
    sentFrames .prekeyPublishRequest trace = [(prekeyPublication identity).writeTo] := by
  have hsent : ∀ {first : ClientTrace} {reply : Except ByteString StatusOkResponse},
      (requestReply .prekeyPublishRequest (prekeyPublication identity).writeTo
        (ascii "envoi impossible") .statusOk StatusOkResponse.readFrom).run.Performs first reply →
      sentFrames .prekeyPublishRequest first = [(prekeyPublication identity).writeTo] := by
    intro first reply hrequest
    rcases performs_requestReply hrequest with ⟨rfl, -⟩ | ⟨answer, rfl, -⟩
    · simp [sentFrames]
    · simp [sentFrames]
  rcases Dialogue.performs_bindExcept.mp h with ⟨error, hrequest, -⟩ |
    ⟨first, second, reply, rfl, hrequest, hprint⟩
  · exact hsent hrequest
  · -- the line that is printed is no frame
    have honly : ∀ exchange ∈ second, exchange.1 = .print (ascii "prekey publiee") :=
      (Dialogue.only_call (P := fun call => call = .print (ascii "prekey publiee")) rfl).lift.of_performs
        hprint
    have hprinted : sentFrames .prekeyPublishRequest second = [] :=
      sentFrames_eq_nil (P := fun call => call = .print (ascii "prekey publiee")) honly
        fun payload hcall => by cases hcall
    rw [sentFrames_append, hsent hrequest, hprinted]
    rfl

/-! ## The round trip -/

section RoundTrip

variable {senderSeed recipientSeed : FixedBytes 32} {request : PrekeyPublishRequest}
  {bundle : PrekeyBundleResponse} {publication trace : ClientTrace} {text : ByteString}
  {published : Except ByteString Unit} {result : Except ByteString ByteString}

/-- The bundle of a genuine identity verifies. -/
theorem verifyPrekeyBundle_published (ed : Ed25519Agrees)
    (hbundle : BundleOf (IdentityKeypair.deriveFromSeed recipientSeed)
      (prekeyPublication (IdentityKeypair.deriveFromSeed recipientSeed)) bundle) :
    verifyPrekeyBundle bundle = true := by
  obtain ⟨howner, hprekey, hsignature⟩ := hbundle
  rw [verifyPrekeyBundle, howner, hprekey, hsignature]
  exact ed.verifies recipientSeed _

/-- The recipient decrypts an envelope whose session key it derives too, and then
looks at the text. -/
theorem openDirectMessage_sealedEnvelope {sender recipient : IdentityKeypair}
    {ephemeralPublic : X25519PublicKey} {root : SymmetricKey} (sentAt : UInt64) (text : ByteString)
    (hroot : deriveRecipientSessionKey recipient (deriveLocalPrekey recipient).2 sender.publicKey
      ephemeralPublic = some root) :
    openDirectMessage recipient (sealedEnvelope sender ephemeralPublic root sentAt text) =
      { sentAt
        text :=
          if validateTextField text then .ok text
          else .error (ascii "contenu du message illisible") } := by
  set header : DmEnvelopeHeader :=
    { senderIdentity := sender.publicKey, senderEphemeral := ephemeralPublic } with hheader
  have hparse : parseDmEnvelopeHeader (sealedEnvelope sender ephemeralPublic root sentAt text) =
      some header := by
    refine parseDmEnvelopeHeader_serialize rfl ?_
    rw [Sodium.xchachaEncrypt_length]
    exact Nat.le_add_left ..
  have hopen : openDmEnvelope (sealedEnvelope sender ephemeralPublic root sentAt text)
      (deriveFirstMessageKey root) = some (buildDmPayload sentAt text) :=
    openDmEnvelope_seal _ _ rfl
  cases hvalid : validateTextField text with
  | false =>
    simp [openDirectMessage, hparse, hheader, hroot, hopen, parseDmPayload_buildDmPayload, hvalid]
  | true =>
    simp [openDirectMessage, hparse, hheader, hroot, hopen, parseDmPayload_buildDmPayload, hvalid]

/-- An acceptable text is opened. -/
theorem openDirectMessage_sealed {sender recipient : IdentityKeypair}
    {ephemeralPublic : X25519PublicKey} {root : SymmetricKey} (sentAt : UInt64)
    (hroot : deriveRecipientSessionKey recipient (deriveLocalPrekey recipient).2 sender.publicKey
      ephemeralPublic = some root) (valid : validateTextField text = true) :
    openDirectMessage recipient (sealedEnvelope sender ephemeralPublic root sentAt text) =
      { sentAt, text := .ok text } := by
  rw [openDirectMessage_sealedEnvelope sentAt text hroot, if_pos valid]

/-- With this bundle, both sides derive one session key from every fresh key. -/
theorem session_key_shared (x : X25519Agrees) (ed : Ed25519Agrees)
    (senderSeed : FixedBytes 32)
    (hbundle : BundleOf (IdentityKeypair.deriveFromSeed recipientSeed)
      (prekeyPublication (IdentityKeypair.deriveFromSeed recipientSeed)) bundle)
    (secret : X25519SecretKey) :
    ∃ root, deriveSenderSessionKey (IdentityKeypair.deriveFromSeed senderSeed) secret
        bundle.ownerPubkey bundle.prekey = some root ∧
      deriveRecipientSessionKey (IdentityKeypair.deriveFromSeed recipientSeed)
        (deriveLocalPrekey (IdentityKeypair.deriveFromSeed recipientSeed)).2
        (IdentityKeypair.deriveFromSeed senderSeed).publicKey
        (computePublicFromSecret secret) = some root := by
  rw [hbundle.1, hbundle.2.1]
  exact sessionKeys_agree x ed senderSeed recipientSeed secret _

/-- For every sender and recipient, a bundle the recipient published, an
acceptable text and a fresh key pair: sealing succeeds, and opening the envelope
gives the text and the time that was read while sealing. -/
theorem direct_message_opens (x : X25519Agrees) (ed : Ed25519Agrees)
    (hpublish : (runPrekeyPublish (IdentityKeypair.deriveFromSeed recipientSeed)).run.Performs
      publication published)
    (hrequest : request.writeTo ∈ sentFrames .prekeyPublishRequest publication)
    (hbundle : BundleOf (IdentityKeypair.deriveFromSeed recipientSeed) request bundle)
    (valid : validateTextField text = true)
    (hseal : (sealDirectMessage (IdentityKeypair.deriveFromSeed senderSeed) bundle text).run.Performs
      trace result)
    (fresh : ∀ ephemeral ∈ generatedKeypairs trace,
      ∃ secret, ephemeral = some (computePublicFromSecret secret, secret)) :
    ∃ ephemeral sentAt envelope,
      trace = [⟨.generateX25519Keypair, ephemeral⟩, ⟨.getUnixTimestamp, sentAt⟩] ∧
      result = .ok envelope ∧
      openDirectMessage (IdentityKeypair.deriveFromSeed recipientSeed) envelope =
        { sentAt, text := .ok text } := by
  set recipient := IdentityKeypair.deriveFromSeed recipientSeed with hrecipient
  set sender := IdentityKeypair.deriveFromSeed senderSeed with hsender
  -- the request tells what the bundle is
  rw [performs_runPrekeyPublish hpublish, List.mem_singleton] at hrequest
  have hread : (PrekeyPublishRequest.readFrom (ByteReader.start request.writeTo)).1 = some request :=
    PrekeyPublishRequest.exact.readFrom_start trivial
  rw [hrequest, PrekeyPublishRequest.exact.readFrom_start trivial] at hread
  obtain rfl := Option.some.inj hread
  have hverified := verifyPrekeyBundle_published ed hbundle
  have hderive := session_key_shared x ed senderSeed hbundle
  cases performs_sealDirectMessage hseal with
  | refused verified => cases hverified.symm.trans verified
  | undrawn verified =>
    obtain ⟨secret, ⟨⟩⟩ := fresh none (by simp [generatedKeypairs])
  | @underived keys _ verified derived =>
    obtain ⟨secret, hkeys⟩ := fresh (some keys) (by simp [generatedKeypairs])
    obtain rfl := Option.some.inj hkeys
    obtain ⟨root, hroot, -⟩ := hderive secret
    cases derived.symm.trans hroot
  | @sealed keys root sentAt verified derived =>
    obtain ⟨secret, hkeys⟩ := fresh (some keys) (by simp [generatedKeypairs])
    obtain rfl := Option.some.inj hkeys
    obtain ⟨root', hroot, hopens⟩ := hderive secret
    obtain rfl := Option.some.inj (derived.symm.trans hroot)
    exact ⟨_, sentAt, _, rfl, rfl, openDirectMessage_sealed sentAt hopens valid⟩

end RoundTrip

omit [Sodium]

/-- How the identity of fives publishes its prekey. -/
def publishedByFives : Except ByteString Unit × ClientTrace :=
  let _ := transparentSodium
  let out := (runPrekeyPublish (.deriveFromSeed (repeatedBytes 32 5))).run.run (scripted none)
    [(.statusOk, StatusOkResponse.writeTo {})]
  (out.1, out.2.1)

/-- What the server makes of it. -/
def bundleOfFives : PrekeyBundleResponse :=
  let _ := transparentSodium
  let request := prekeyPublication (.deriveFromSeed (repeatedBytes 32 5))
  { ownerPubkey := repeatedBytes 32 5, prekey := request.prekey, signature := request.signature
    createdAt := 1 }

/-- How the identity of ones seals a text for it. -/
def sealedForFives : Except ByteString ByteString × ClientTrace :=
  let _ := transparentSodium
  let keys := some (computePublicFromSecret (repeatedBytes 32 9), repeatedBytes 32 9)
  let out := (sealDirectMessage (.deriveFromSeed (repeatedBytes 32 1)) bundleOfFives
    (ascii "salut")).run.run (scripted keys) []
  (out.1, out.2.1)

theorem direct_message_opens_fives :
    letI := transparentSodium
    ∃ ephemeral sentAt envelope,
      sealedForFives.2 = [⟨.generateX25519Keypair, ephemeral⟩, ⟨.getUnixTimestamp, sentAt⟩] ∧
      sealedForFives.1 = .ok envelope ∧
      openDirectMessage (.deriveFromSeed (repeatedBytes 32 5)) envelope =
        { sentAt, text := .ok (ascii "salut") } := by
  let _ := transparentSodium
  have hpublish : (runPrekeyPublish (.deriveFromSeed (repeatedBytes 32 5))).run.Performs
      publishedByFives.2 publishedByFives.1 :=
    Dialogue.run_performs (scripted none) _ [(.statusOk, StatusOkResponse.writeTo {})]
  have hseal : (sealDirectMessage (.deriveFromSeed (repeatedBytes 32 1)) bundleOfFives
      (ascii "salut")).run.Performs sealedForFives.2 sealedForFives.1 :=
    Dialogue.run_performs (scripted (some (computePublicFromSecret (repeatedBytes 32 9),
      repeatedBytes 32 9))) _ []
  have hrequest : (prekeyPublication (.deriveFromSeed (repeatedBytes 32 5))).writeTo ∈
      sentFrames .prekeyPublishRequest publishedByFives.2 := by decide +kernel
  refine direct_message_opens transparentSodium_x25519 transparentSodium_ed25519 hpublish hrequest
    ⟨rfl, rfl, rfl⟩ (by decide +kernel) hseal ?_
  intro ephemeral hdrawn
  refine ⟨repeatedBytes 32 9, ?_⟩
  have hone : generatedKeypairs sealedForFives.2 =
      [some (computePublicFromSecret (repeatedBytes 32 9), repeatedBytes 32 9)] := by decide +kernel
  rw [hone, List.mem_singleton] at hdrawn
  exact hdrawn

end HyperCom
