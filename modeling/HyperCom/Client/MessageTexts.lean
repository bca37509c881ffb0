import HyperCom.Client.Correspondence
import HyperCom.Client.ServerConnection

/-!
# Which texts are messages

Three places look at a direct message: the sender, the decoder of the server and
the recipient. The recipient validates the text and the server bounds the size of
the envelope, and the sender does neither: `seal_direct_message` takes any bytes.
So what is sent is accepted exactly if the text would have passed both checks.

The validity of a text is that of `Protocol.UnicodeText`, and the size that counts is that
of the envelope, header and tag included. The sender could know both before it seals.
-/

namespace HyperCom

open BinaryCodec Interaction

variable [Sodium]

/-- What an envelope adds to its text: the header, the version and the date in
front of the text, and the tag. -/
def dmEnvelopeOverhead : ℕ := dmEnvelopeHeaderSize + (1 + 8) + aeadTagSize

/-- The decoder of the server takes the request, and the recipient opens what is in
it. -/
def acceptedBy (recipient : IdentityKeypair) (payload : ByteString) : Bool :=
  (DmSendRequest.readFrom (ByteReader.start payload)).1.any fun request =>
    (openDirectMessage recipient request.ciphertext).accepted

/-- The text passes the check of the recipient, and its envelope that of the
server. -/
def Acceptable (text : ByteString) : Prop :=
  validateTextField text = true ∧ dmEnvelopeOverhead + text.length ≤ maxDmCiphertextSize

/-- A request was sent for a message to this recipient: the bundle is the one the
recipient published, the key pairs are what libsodium promises, and the payload is
one that `send_frame` can put into a frame. -/
structure SentTo (recipient : IdentityKeypair) (trace : ClientTrace) (payload : ByteString) :
    Prop where
  bundle : ∃ bundle, fetchedBundle trace = some bundle ∧
    BundleOf recipient (prekeyPublication recipient) bundle
  fresh : ∀ keys : X25519PublicKey × X25519SecretKey, some keys ∈ generatedKeypairs trace →
    keys.1 = computePublicFromSecret keys.2
  sent : payload ∈ sentFrames .dmSendRequest trace
  framed : payload.length ≤ maxPayloadSize

/-- `send_frame` reports success only for a payload that fits a frame. -/
theorem sendFrame_framed {behaviour : ServerConnection.SocketBehaviour} {type : MessageType}
    {payload : ByteString} {connection : ServerConnection}
    (h : (connection.sendFrame behaviour type payload).1 = true) :
    payload.length ≤ maxPayloadSize := by
  rw [ServerConnection.sendFrame] at h
  rcases hseal : connection.sealFrame type payload with ⟨_ | message, connection'⟩
  · rw [hseal] at h
    cases h
  · simp only [ServerConnection.sealFrame] at hseal
    split at hseal
    · cases hseal
    split at hseal
    · cases hseal
    split at hseal
    · cases hseal
    · next frame hframe => exact (encodeFrame_eq_some.mp hframe).1

/-! ## The three checks on one envelope -/

omit [Sodium] in
theorem buildDmPayload_length (sentAt : UInt64) (text : ByteString) :
    (buildDmPayload sentAt text).length = 1 + 8 + text.length := by
  simp [buildDmPayload, writeInteger, writeFixedBytes, UnsignedInteger.size]
  omega

theorem sealedEnvelope_length (sender : IdentityKeypair) (ephemeralPublic : X25519PublicKey)
    (root : SymmetricKey) (sentAt : UInt64) (text : ByteString) :
    (sealedEnvelope sender ephemeralPublic root sentAt text).length =
      dmEnvelopeOverhead + text.length := by
  simp only [sealedEnvelope, sealDmEnvelope, List.length_append, serializeHeader_length,
    Sodium.xchachaEncrypt_length, buildDmPayload_length, dmEnvelopeOverhead]
  omega

omit [Sodium] in
/-- The decoder of the server takes a request that was framed exactly if its
ciphertext is not too long. -/
theorem readFrom_dmSendRequest (request : DmSendRequest)
    (framed : request.writeTo.length ≤ maxPayloadSize) :
    (DmSendRequest.readFrom (ByteReader.start request.writeTo)).1 =
      if request.ciphertext.length ≤ maxDmCiphertextSize then some request else none := by
  split
  · next hfits => exact DmSendRequest.exact.readFrom_start hfits
  · next hlong =>
    rcases hread : DmSendRequest.readFrom (ByteReader.start request.writeTo) with ⟨_ | other, rest⟩
    · rfl
    -- another request with this encoding would have the same ciphertext
    · obtain ⟨hrange, hwritten⟩ := DmSendRequest.exact.sound hread
      rw [ByteReader.remaining_start] at hwritten
      simp only [DmSendRequest.writeTo, List.flatten_cons, List.flatten_nil, List.append_nil,
        writeFixedBytes, List.append_assoc] at hwritten
      have hlength : request.ciphertext.length < 2 ^ 32 := by
        have hsize : request.ciphertext.length ≤ request.writeTo.length := by
          simp [DmSendRequest.writeTo, writeLengthPrefixed, writeFixedBytes]
          omega
        exact lt_of_le_of_lt (hsize.trans framed) (by decide)
      have hother : other.ciphertext.length < 2 ^ 32 := lt_of_le_of_lt hrange (by decide)
      have hsame := (List.append_inj hwritten (by
        rw [request.recipientPubkey.2, other.recipientPubkey.2])).2
      rw [← List.append_nil (writeLengthPrefixed request.ciphertext)] at hsame
      rw [(lengthPrefixed_append_inj hlength hother hsame).1] at hlong
      exact absurd hrange hlong

/-- An envelope whose session key the recipient derives is accepted exactly if its
text is acceptable. -/
theorem acceptedBy_sealed_iff {sender recipient : IdentityKeypair} {request : DmSendRequest}
    {ephemeralPublic : X25519PublicKey} {root : SymmetricKey} {sentAt : UInt64} {text : ByteString}
    (hroot : deriveRecipientSessionKey recipient (deriveLocalPrekey recipient).2 sender.publicKey
      ephemeralPublic = some root)
    (hsealed : request.ciphertext = sealedEnvelope sender ephemeralPublic root sentAt text)
    (framed : request.writeTo.length ≤ maxPayloadSize) :
    acceptedBy recipient request.writeTo = true ↔ Acceptable text := by
  have hlength : request.ciphertext.length = dmEnvelopeOverhead + text.length := by
    rw [hsealed, sealedEnvelope_length]
  rw [acceptedBy, readFrom_dmSendRequest request framed, Acceptable, hlength]
  by_cases hfits : dmEnvelopeOverhead + text.length ≤ maxDmCiphertextSize
  · rw [if_pos hfits, Option.any_some, hsealed,
      openDirectMessage_sealedEnvelope sentAt text hroot, OpenedMessage.accepted]
    cases validateTextField text with
    | true => exact iff_of_true rfl ⟨rfl, hfits⟩
    | false => exact iff_of_false Bool.false_ne_true fun h => Bool.false_ne_true h.1
  · rw [if_neg hfits]
    exact iff_of_false Bool.false_ne_true fun h => hfits h.2

/-! ## Both commands -/

/-- Along every course of a deposit, what is sent to the recipient is accepted
exactly if the text is acceptable. -/
theorem DepositCourse.accepted_iff (x : X25519Agrees) (ed : Ed25519Agrees)
    {senderSeed recipientSeed : FixedBytes 32} {recipientPubkey : WirePublicKey}
    {text payload : ByteString} {trace : ClientTrace}
    (course : DepositCourse (.deriveFromSeed senderSeed) recipientPubkey text trace)
    (h : SentTo (.deriveFromSeed recipientSeed) trace payload) :
    acceptedBy (.deriveFromSeed recipientSeed) payload = true ↔ Acceptable text := by
  obtain ⟨bundle, hfetched, hbundle⟩ := h.bundle
  cases course with
  | nothing unsent _ =>
    have hsent := h.sent
    rw [unsent] at hsent
    cases hsent
  | deposited bundle' ephemeral ciphertext sealing fetched drawn _ within sealed sent =>
    obtain rfl := Option.some.inj (fetched.symm.trans hfetched)
    obtain rfl := List.mem_singleton.mp (sent ▸ h.sent)
    have hcourse := performs_sealDirectMessage sealed
    generalize hresult : (Except.ok ciphertext : Except ByteString ByteString) = result at hcourse
    cases hcourse with
    | refused => cases hresult
    | undrawn => cases hresult
    | underived => cases hresult
    | @sealed keys root sentAt verified derived =>
      -- the one key pair that was drawn is the one the envelope was sealed with
      have hkeys : keys.1 = computePublicFromSecret keys.2 := by
        refine h.fresh keys ?_
        obtain ⟨before, after, rfl⟩ := within
        rw [generatedKeypairs_append, generatedKeypairs_append]
        simp [generatedKeypairs]
      obtain ⟨root', hroot, hopens⟩ := session_key_shared x ed senderSeed hbundle keys.2
      obtain rfl := Option.some.inj (derived.symm.trans hroot)
      rw [← hkeys] at hopens
      exact acceptedBy_sealed_iff hopens (Except.ok.inj hresult) h.framed

/-- For every text that either command sends to a recipient whose bundle it was
given: the server's decoder and the recipient accept it exactly if it passes the
recipient's check and its envelope the server's bound. -/
theorem sent_text_accepted_iff (x : X25519Agrees) (ed : Ed25519Agrees) :
    (∀ (senderSeed recipientSeed : FixedBytes 32) (arguments : List ByteString)
      (trace : ClientTrace) (result : Except ByteString Unit) (payload : ByteString),
      (runDmSend (.deriveFromSeed senderSeed) arguments).run.Performs trace result →
      SentTo (.deriveFromSeed recipientSeed) trace payload →
      (acceptedBy (.deriveFromSeed recipientSeed) payload = true ↔
        Acceptable (arguments.getD 1 []))) ∧
    (∀ (senderSeed recipientSeed : FixedBytes 32) (context : CliContext) (state : UiState)
      (trace : ClientTrace) (result : CliContext × UiState) (payload : ByteString),
      context.identity = .deriveFromSeed senderSeed →
      (submitDirectMessage context state).Performs trace result →
      SentTo (.deriveFromSeed recipientSeed) trace payload →
      (acceptedBy (.deriveFromSeed recipientSeed) payload = true ↔
        Acceptable state.dmTextInput.1)) := by
  refine ⟨fun senderSeed recipientSeed arguments trace result payload h hsent => ?_,
    fun senderSeed recipientSeed context state trace result payload hidentity h hsent => ?_⟩
  · obtain ⟨recipientHex, text, more, rfl⟩ : ∃ recipientHex text more,
        arguments = recipientHex :: text :: more := by
      rcases arguments with _ | ⟨recipientHex, _ | ⟨text, more⟩⟩
      · obtain ⟨rfl, -⟩ := Dialogue.performs_pure.mp h
        cases hsent.sent
      · obtain ⟨rfl, -⟩ := Dialogue.performs_pure.mp h
        cases hsent.sent
      · exact ⟨recipientHex, text, more, rfl⟩
    cases hparse : parsePublicKey recipientHex with
    | none =>
      rw [runDmSend, hparse] at h
      obtain ⟨rfl, -⟩ := Dialogue.performs_pure.mp h
      cases hsent.sent
    | some recipient => exact (performs_runDmSend hparse h).accepted_iff x ed hsent
  · rcases performs_submitDirectMessage h with ⟨hnone, -⟩ | ⟨recipient, -, course⟩
    · have hmem := hsent.sent
      rw [hnone] at hmem
      cases hmem
    · rw [hidentity] at course
      exact course.accepted_iff x ed hsent

/-! ## A text for the identity of fives -/

omit [Sodium]

/-- The arguments of the command line. -/
def textForFives (text : ByteString) : List ByteString := [encodeHex (List.replicate 32 5), text]

/-- The key pair of the secret of nines. -/
def keysOfNines : X25519PublicKey × X25519SecretKey :=
  let _ := transparentSodium
  (computePublicFromSecret (repeatedBytes 32 9), repeatedBytes 32 9)

/-- How the identity of ones sends it, if the server answers with their bundle and
accepts the deposit. -/
def sendToFives (text : ByteString) :
    Except ByteString Unit × List (Exchange ClientAnswer) × List (MessageType × ByteString) :=
  let _ := transparentSodium
  (runDmSend (.deriveFromSeed (repeatedBytes 32 1)) (textForFives text)).run.run
    (scripted (some keysOfNines)) (answerWith bundleOfFives)

theorem sendToFives_performs (text : ByteString) :
    letI := transparentSodium
    (runDmSend (.deriveFromSeed (repeatedBytes 32 1)) (textForFives text)).run.Performs
      (sendToFives text).2.1 (sendToFives text).1 := by
  rw [sendToFives]
  exact Dialogue.run_performs ..

/-- The request of such a conversation. -/
theorem sendToFives_sent {text payload : ByteString}
    (hfetched : fetchedBundle (sendToFives text).2.1 = some bundleOfFives)
    (hdrawn : generatedKeypairs (sendToFives text).2.1 = [some keysOfNines])
    (hsent : sentFrames .dmSendRequest (sendToFives text).2.1 = [payload])
    (framed : payload.length ≤ maxPayloadSize) :
    letI := transparentSodium
    SentTo (.deriveFromSeed (repeatedBytes 32 5)) (sendToFives text).2.1 payload := by
  let _ := transparentSodium
  have hbundle : BundleOf (.deriveFromSeed (repeatedBytes 32 5))
      (prekeyPublication (.deriveFromSeed (repeatedBytes 32 5))) bundleOfFives := ⟨rfl, rfl, rfl⟩
  refine ⟨⟨bundleOfFives, hfetched, hbundle⟩, fun keys hkeys => ?_, ?_, framed⟩
  · rw [hdrawn, List.mem_singleton] at hkeys
    obtain rfl := Option.some.inj hkeys
    rfl
  · rw [hsent]
    exact List.mem_singleton.mpr rfl

/-- A text that both ends accept. -/
theorem sent_text_accepted_iff_salut :
    letI := transparentSodium
    ∃ payload, SentTo (.deriveFromSeed (repeatedBytes 32 5)) (sendToFives (ascii "salut")).2.1 payload ∧
      acceptedBy (.deriveFromSeed (repeatedBytes 32 5)) payload = true := by
  let _ := transparentSodium
  have hdrawn : generatedKeypairs (sendToFives (ascii "salut")).2.1 = [some keysOfNines] := by
    decide +kernel
  have hframed : (sentFrames .dmSendRequest (sendToFives (ascii "salut")).2.1).length = 1 ∧
      ∀ payload ∈ sentFrames .dmSendRequest (sendToFives (ascii "salut")).2.1,
        payload.length ≤ maxPayloadSize := by decide +kernel
  obtain ⟨payload, hpayload⟩ := List.length_eq_one_iff.mp hframed.1
  have hsent := sendToFives_sent (by decide +kernel) hdrawn hpayload
    (hframed.2 payload (by rw [hpayload]; exact List.mem_singleton.mpr rfl))
  refine ⟨payload, hsent, ?_⟩
  refine ((sent_text_accepted_iff transparentSodium_x25519 transparentSodium_ed25519).1 _ _ _ _ _ _
    (sendToFives_performs (ascii "salut")) hsent).mpr ?_
  exact ⟨by decide +kernel, by decide +kernel⟩

/-- A bell character: the sender reports success, and the recipient cannot read the
message. -/
theorem bell_unreadable :
    letI := transparentSodium
    (sendToFives [0x07]).1.isOk = true ∧
    ∃ payload, SentTo (.deriveFromSeed (repeatedBytes 32 5)) (sendToFives [0x07]).2.1 payload ∧
      acceptedBy (.deriveFromSeed (repeatedBytes 32 5)) payload = false := by
  let _ := transparentSodium
  have hdrawn : generatedKeypairs (sendToFives [0x07]).2.1 = [some keysOfNines] := by decide +kernel
  have hframed : (sentFrames .dmSendRequest (sendToFives [0x07]).2.1).length = 1 ∧
      ∀ payload ∈ sentFrames .dmSendRequest (sendToFives [0x07]).2.1,
        payload.length ≤ maxPayloadSize ∧
        acceptedBy (.deriveFromSeed (repeatedBytes 32 5)) payload = false := by decide +kernel
  obtain ⟨payload, hpayload⟩ := List.length_eq_one_iff.mp hframed.1
  obtain ⟨hfits, hrefused⟩ :=
    hframed.2 payload (by rw [hpayload]; exact List.mem_singleton.mpr rfl)
  exact ⟨by decide +kernel, payload, sendToFives_sent (by decide +kernel) hdrawn hpayload hfits,
    hrefused⟩

end HyperCom
