import HyperCom.Client.Correspondence
import Mathlib.Data.List.Nodup

/-!
# What an envelope cannot be changed into

A recipient derives the message key from header fields that anyone can write, and
several changes to them leave the key as it was: the sign bit of an Ed25519 key,
the top bit of an X25519 key, the counter. What catches them is that the header
bytes themselves are the associated data.

So an envelope that opens is one that was sealed, byte for byte, and for this
recipient. `direct_message_integrity` says so about the log of everything that
was sealed.
-/

namespace HyperCom

open BinaryCodec Interaction

variable [Sodium]

/-! ## `open_direct_message` with its out-parameters -/

/-- What the caller handed in for `open_direct_message` to write to. -/
structure OpenOutputs where
  text : ByteString := []
  sentAt : UInt64 := 0
  error : ByteString := []
deriving DecidableEq

/-- `parse_dm_payload`: the date is written as soon as it is read, and the text
before it is validated. -/
def parseDmPayloadInto (payload : ByteString) (outputs : OpenOutputs) : Bool × OpenOutputs :=
  match readInteger UInt8 (ByteReader.start payload) with
  | (none, _) => (false, outputs)
  | (some version, reader) =>
    if version ≠ dmPayloadVersion then (false, outputs)
    else
      match readInteger UInt64 reader with
      | (none, _) => (false, outputs)
      | (some sentAt, reader) =>
        match takeSlice reader.countRemainingBytes reader with
        | (none, _) => (false, { outputs with sentAt })
        | (some text, _) => (validateTextField text, { outputs with sentAt, text })

/-- The key under which a recipient tries to open a message with this header. -/
def recipientMessageKey (recipient : IdentityKeypair) (header : DmEnvelopeHeader) :
    Option SymmetricKey := do
  let root ← deriveRecipientSessionKey recipient (deriveLocalPrekey recipient).2
    header.senderIdentity header.senderEphemeral
  pure (deriveFirstMessageKey root)

/-- `open_direct_message` -/
def openDirectMessageInto (recipient : IdentityKeypair) (envelope : ByteString)
    (outputs : OpenOutputs) : Bool × OpenOutputs :=
  match parseDmEnvelopeHeader envelope with
  | none => (false, { outputs with error := ascii "enveloppe illisible" })
  | some header =>
    let plaintext := do
      let messageKey ← recipientMessageKey recipient header
      openDmEnvelope envelope messageKey
    match plaintext with
    | none =>
      let error := "dechiffrement impossible : message altere, ou destine a quelqu'un d'autre"
      (false, { outputs with error := ascii error })
    | some plaintext =>
      match parseDmPayloadInto plaintext outputs with
      | (false, outputs) => (false, { outputs with error := ascii "contenu du message illisible" })
      | (true, outputs) => (true, outputs)

/-- What comes before `parse_dm_payload`: the header, the key, the envelope. -/
def dmPlaintext (recipient : IdentityKeypair) (envelope : ByteString) : Option ByteString := do
  let header ← parseDmEnvelopeHeader envelope
  let messageKey ← recipientMessageKey recipient header
  openDmEnvelope envelope messageKey

omit [Sodium] in
/-- The two readings of `parse_dm_payload` agree. -/
theorem parseDmPayloadInto_eq (payload : ByteString) (outputs : OpenOutputs) :
    (parseDmPayloadInto payload outputs).1 = (parseDmPayload payload).2.isSome ∧
      ∀ text, (parseDmPayload payload).2 = some text →
        (parseDmPayloadInto payload outputs).2 =
          { outputs with text, sentAt := (parseDmPayload payload).1 } := by
  simp only [parseDmPayloadInto, parseDmPayload]
  rcases readInteger UInt8 (ByteReader.start payload) with ⟨_ | version, reader⟩
  · simp
  dsimp only
  split_ifs with hversion
  · simp
  rcases readInteger UInt64 reader with ⟨_ | sentAt, reader⟩
  · simp
  dsimp only
  rcases takeSlice reader.countRemainingBytes reader with ⟨_ | text, finish⟩
  · simp
  dsimp only
  split_ifs with hvalid
  · simp [hvalid]
  · simp [hvalid]

/-- The two readings of `open_direct_message` agree. -/
theorem openDirectMessageInto_eq (recipient : IdentityKeypair) (envelope : ByteString)
    (outputs : OpenOutputs) :
    (openDirectMessageInto recipient envelope outputs).1 =
        (openDirectMessage recipient envelope).accepted ∧
      ∀ text, (openDirectMessage recipient envelope).text = .ok text →
        (openDirectMessageInto recipient envelope outputs).2 =
          { outputs with text, sentAt := (openDirectMessage recipient envelope).sentAt } := by
  simp only [openDirectMessageInto, openDirectMessage, recipientMessageKey]
  rcases parseDmEnvelopeHeader envelope with _ | header
  · simp [OpenedMessage.accepted, Except.isOk, Except.toBool]
  dsimp only
  rcases deriveRecipientSessionKey recipient (deriveLocalPrekey recipient).2 header.senderIdentity
    header.senderEphemeral with _ | root
  · simp [OpenedMessage.accepted, Except.isOk, Except.toBool]
  simp only [Option.bind_eq_bind, Option.bind_some, Option.pure_def]
  rcases openDmEnvelope envelope (deriveFirstMessageKey root) with _ | plaintext
  · simp [OpenedMessage.accepted, Except.isOk, Except.toBool]
  dsimp only
  obtain ⟨haccepted, htext⟩ := parseDmPayloadInto_eq plaintext outputs
  rcases hparsed : parseDmPayload plaintext with ⟨sentAt, _ | text⟩
  · rw [hparsed] at haccepted
    rcases hinto : parseDmPayloadInto plaintext outputs with ⟨_ | _, after⟩
    · simp [OpenedMessage.accepted, Except.isOk, Except.toBool]
    · simp [hinto] at haccepted
  · rw [hparsed] at haccepted htext
    have hafter := htext text rfl
    rcases hinto : parseDmPayloadInto plaintext outputs with ⟨_ | _, after⟩
    · simp [hinto] at haccepted
    · obtain rfl : after = { outputs with text, sentAt } := by rw [← hafter, hinto]
      simp [OpenedMessage.accepted, Except.isOk, Except.toBool]

/-- `open_direct_message` fails where nothing comes before the payload, and then
only the error is written. -/
theorem openDirectMessageInto_untouched {recipient : IdentityKeypair} {envelope : ByteString}
    (h : dmPlaintext recipient envelope = none) (outputs : OpenOutputs) :
    (openDirectMessageInto recipient envelope outputs).1 = false ∧
      (openDirectMessageInto recipient envelope outputs).2.text = outputs.text ∧
      (openDirectMessageInto recipient envelope outputs).2.sentAt = outputs.sentAt := by
  unfold dmPlaintext at h
  unfold openDirectMessageInto
  cases hparse : parseDmEnvelopeHeader envelope with
  | none => exact ⟨rfl, rfl, rfl⟩
  | some header =>
    simp only [hparse, Option.bind_eq_bind, Option.bind_some] at h ⊢
    simp [h]

/-- What opens has a header, a key and a plaintext under it. -/
theorem exists_opened {recipient : IdentityKeypair} {envelope : ByteString} {outputs : OpenOutputs}
    (h : (openDirectMessageInto recipient envelope outputs).1 = true) :
    ∃ header messageKey plaintext, parseDmEnvelopeHeader envelope = some header ∧
      recipientMessageKey recipient header = some messageKey ∧
      Sodium.xchachaDecrypt messageKey zeroNonce (envelope.take dmEnvelopeHeaderSize)
        (envelope.drop dmEnvelopeHeaderSize) = some plaintext := by
  rcases hplain : dmPlaintext recipient envelope with _ | plaintext
  · rw [(openDirectMessageInto_untouched hplain outputs).1] at h
    cases h
  · obtain ⟨header, hheader, hrest⟩ := Option.bind_eq_some_iff.mp hplain
    obtain ⟨messageKey, hkey, hopen⟩ := Option.bind_eq_some_iff.mp hrest
    refine ⟨header, messageKey, plaintext, hheader, hkey, ?_⟩
    simpa only [openDmEnvelope, hheader] using hopen

/-! ## The log of what was sealed -/

/-- A run of `seal_direct_message` that succeeded: between two identities, with
the bundle the recipient published and the key pair that was drawn for it. -/
structure DmSealing where
  senderSeed : FixedBytes 32
  recipientSeed : FixedBytes 32
  bundle : PrekeyBundleResponse
  text : ByteString
  ephemeralSecret : X25519SecretKey
  sentAt : UInt64
  envelope : ByteString
  genuine : BundleOf (.deriveFromSeed recipientSeed)
    (prekeyPublication (.deriveFromSeed recipientSeed)) bundle
  performed : (sealDirectMessage (.deriveFromSeed senderSeed) bundle text).run.Performs
    [⟨.generateX25519Keypair, some (computePublicFromSecret ephemeralSecret, ephemeralSecret)⟩,
      ⟨.getUnixTimestamp, sentAt⟩] (.ok envelope)

namespace DmSealing

/-- The public half of the key pair that was drawn. -/
def ephemeral (sealing : DmSealing) : X25519PublicKey :=
  computePublicFromSecret sealing.ephemeralSecret

/-- The header that was written. -/
def header (sealing : DmSealing) : DmEnvelopeHeader :=
  { senderIdentity := (IdentityKeypair.deriveFromSeed sealing.senderSeed).publicKey
    senderEphemeral := sealing.ephemeral }

/-- The message key of the sender. -/
def messageKey (sealing : DmSealing) : Option SymmetricKey := do
  let root ← deriveSenderSessionKey (.deriveFromSeed sealing.senderSeed) sealing.ephemeralSecret
    sealing.bundle.ownerPubkey sealing.bundle.prekey
  pure (deriveFirstMessageKey root)

/-- What was sealed: the header and the ciphertext under the message key. -/
theorem envelope_eq (sealing : DmSealing) :
    ∃ messageKey, sealing.messageKey = some messageKey ∧
      sealing.envelope = sealDmEnvelope sealing.header messageKey
        (buildDmPayload sealing.sentAt sealing.text) := by
  obtain ⟨senderSeed, recipientSeed, bundle, text, secret, sentAt, envelope, genuine, performed⟩ :=
    sealing
  cases performs_sealDirectMessage performed with
  | sealed verified derived =>
    refine ⟨_, ?_, rfl⟩
    simp only [messageKey, derived]
    rfl

/-- The recipient derives the key of the sender. -/
theorem recipientMessageKey_eq (x : X25519Agrees) (ed : Ed25519Agrees) (sealing : DmSealing) :
    recipientMessageKey (.deriveFromSeed sealing.recipientSeed) sealing.header =
      sealing.messageKey := by
  obtain ⟨howner, hprekey, -⟩ := sealing.genuine
  obtain ⟨root, hsent, hreceived⟩ := sessionKeys_agree x ed sealing.senderSeed
    sealing.recipientSeed sealing.ephemeralSecret
    (deriveLocalPrekey (.deriveFromSeed sealing.recipientSeed)).2
  have hroot : deriveSenderSessionKey (.deriveFromSeed sealing.senderSeed) sealing.ephemeralSecret
      sealing.bundle.ownerPubkey sealing.bundle.prekey = some root := by
    rw [howner, hprekey]
    exact hsent
  have hroot' : deriveRecipientSessionKey (.deriveFromSeed sealing.recipientSeed)
      (deriveLocalPrekey (.deriveFromSeed sealing.recipientSeed)).2 sealing.header.senderIdentity
      sealing.header.senderEphemeral = some root := hreceived
  simp only [recipientMessageKey, messageKey, hroot, hroot']

/-- The header is the one that is read back. -/
theorem parseDmEnvelopeHeader_envelope (sealing : DmSealing) :
    parseDmEnvelopeHeader sealing.envelope = some sealing.header := by
  obtain ⟨key, -, henvelope⟩ := sealing.envelope_eq
  rw [henvelope]
  refine parseDmEnvelopeHeader_serialize rfl ?_
  rw [Sodium.xchachaEncrypt_length]
  exact Nat.le_add_left ..

end DmSealing

/-! ## Integrity -/

/-- Bytes that are handed to `open_direct_message` by the identity of a seed. -/
structure DmOpening where
  recipientSeed : FixedBytes 32
  envelope : ByteString

namespace DmOpening

/-- Who opens. -/
def recipient (opening : DmOpening) : IdentityKeypair := .deriveFromSeed opening.recipientSeed

/-- The AEAD opens what was sealed under the same key, nonce and associated data,
and nothing else: a plaintext under a key this opening derives is one of the log.
The nonce is zero on either side. -/
def Authentic (sealings : List DmSealing) (opening : DmOpening) : Prop :=
  ∀ header messageKey plaintext, parseDmEnvelopeHeader opening.envelope = some header →
    recipientMessageKey opening.recipient header = some messageKey →
    Sodium.xchachaDecrypt messageKey zeroNonce (opening.envelope.take dmEnvelopeHeaderSize)
      (opening.envelope.drop dmEnvelopeHeaderSize) = some plaintext →
    ∃ sealing ∈ sealings, sealing.messageKey = some messageKey ∧
      opening.envelope.take dmEnvelopeHeaderSize = serializeHeader sealing.header ∧
      opening.envelope.drop dmEnvelopeHeaderSize =
        Sodium.xchachaEncrypt messageKey zeroNonce (serializeHeader sealing.header)
          (buildDmPayload sealing.sentAt sealing.text)

/-- Where nothing opens, the assumption asks for nothing. -/
theorem authentic_of_refused (sealings : List DmSealing) (opening : DmOpening)
    (h : dmPlaintext opening.recipient opening.envelope = none) : opening.Authentic sealings := by
  intro header messageKey plaintext hheader hkey hopen
  have hplain : dmPlaintext opening.recipient opening.envelope = some plaintext := by
    simp only [dmPlaintext, openDmEnvelope, hheader, hkey, Option.bind_eq_bind, Option.bind_some,
      hopen]
  rw [h] at hplain
  cases hplain

/-- Where an envelope of the log comes to its recipient, it holds. -/
theorem authentic_of_sealing (x : X25519Agrees) (ed : Ed25519Agrees) {sealings : List DmSealing}
    {sealing : DmSealing} (h : sealing ∈ sealings) :
    DmOpening.Authentic sealings ⟨sealing.recipientSeed, sealing.envelope⟩ := by
  intro header messageKey plaintext hheader hkey _
  rw [sealing.parseDmEnvelopeHeader_envelope] at hheader
  obtain rfl := Option.some.inj hheader
  have hsealed := (sealing.recipientMessageKey_eq x ed).symm.trans hkey
  obtain ⟨key, hkey', henvelope⟩ := sealing.envelope_eq
  obtain rfl := Option.some.inj (hkey'.symm.trans hsealed)
  refine ⟨sealing, h, hsealed, ?_, ?_⟩
  · rw [henvelope]
    exact List.take_left' (serializeHeader_length _)
  · rw [henvelope]
    exact List.drop_left' (serializeHeader_length _)

/-- Identities of different seeds derive different keys: for a message that was
sealed for another, the key is another. -/
def KeysApart (sealings : List DmSealing) (opening : DmOpening) : Prop :=
  ∀ sealing ∈ sealings, sealing.recipientSeed ≠ opening.recipientSeed →
    recipientMessageKey (.deriveFromSeed sealing.recipientSeed) sealing.header ≠
      recipientMessageKey opening.recipient sealing.header

/-- What opens was sealed, byte for byte and for this recipient. -/
theorem exists_sealing (x : X25519Agrees) (ed : Ed25519Agrees) {sealings : List DmSealing}
    {opening : DmOpening} (authentic : opening.Authentic sealings)
    (apart : opening.KeysApart sealings) {outputs : OpenOutputs}
    (h : (openDirectMessageInto opening.recipient opening.envelope outputs).1 = true) :
    ∃ sealing ∈ sealings, sealing.recipientSeed = opening.recipientSeed ∧
      sealing.envelope = opening.envelope := by
  obtain ⟨header, messageKey, plaintext, hheader, hkey, hopen⟩ := exists_opened h
  obtain ⟨sealing, hmem, hsealed, had, hbody⟩ := authentic header messageKey plaintext hheader hkey hopen
  -- header bytes and body are those of the log, so the envelope is
  have henvelope : sealing.envelope = opening.envelope := by
    obtain ⟨key, hkey', henvelope⟩ := sealing.envelope_eq
    obtain rfl := Option.some.inj (hkey'.symm.trans hsealed)
    rw [henvelope, ← List.take_append_drop dmEnvelopeHeaderSize opening.envelope, had, hbody]
    rfl
  refine ⟨sealing, hmem, ?_, henvelope⟩
  -- and so is the key: another recipient would have another
  by_contra hother
  have hread : header = sealing.header := by
    have hparse := sealing.parseDmEnvelopeHeader_envelope
    rw [henvelope, hheader] at hparse
    exact Option.some.inj hparse
  apply apart sealing hmem hother
  rw [sealing.recipientMessageKey_eq x ed, hsealed, ← hread, hkey]

end DmOpening

/-- For every identity and any bytes: `open_direct_message` succeeds only on what
was sealed for this identity, so not on an envelope that was changed, and not on
one for another. Where it fails before the payload, text and date are untouched. -/
theorem direct_message_integrity (x : X25519Agrees) (ed : Ed25519Agrees)
    {sealings : List DmSealing} {opening : DmOpening}
    (authentic : opening.Authentic sealings) (apart : opening.KeysApart sealings)
    (fresh : (sealings.map DmSealing.ephemeral).Nodup) (outputs : OpenOutputs) :
    ((openDirectMessageInto opening.recipient opening.envelope outputs).1 = true →
      ∃ sealing ∈ sealings, sealing.recipientSeed = opening.recipientSeed ∧
        sealing.envelope = opening.envelope) ∧
    (∀ sealing ∈ sealings, sealing.envelope = opening.envelope →
      sealing.recipientSeed ≠ opening.recipientSeed →
      (openDirectMessageInto opening.recipient opening.envelope outputs).1 = false) ∧
    (dmPlaintext opening.recipient opening.envelope = none →
      (openDirectMessageInto opening.recipient opening.envelope outputs).1 = false ∧
      (openDirectMessageInto opening.recipient opening.envelope outputs).2.text = outputs.text ∧
      (openDirectMessageInto opening.recipient opening.envelope outputs).2.sentAt =
        outputs.sentAt) := by
  refine ⟨opening.exists_sealing x ed authentic apart, ?_,
    fun h => openDirectMessageInto_untouched h outputs⟩
  intro sealing hmem henvelope hother
  by_contra hopens
  rw [Bool.not_eq_false] at hopens
  obtain ⟨other, hmem', hseed, henvelope'⟩ := opening.exists_sealing x ed authentic apart hopens
  -- one envelope has one ephemeral key, and each is drawn once
  have hheader : some sealing.header = some other.header := by
    rw [← sealing.parseDmEnvelopeHeader_envelope, ← other.parseDmEnvelopeHeader_envelope, henvelope,
      henvelope']
  have hephemeral : sealing.ephemeral = other.ephemeral :=
    congrArg DmEnvelopeHeader.senderEphemeral (Option.some.inj hheader)
  obtain rfl := List.inj_on_of_nodup_map fresh hmem hmem' hephemeral
  exact hother hseed

omit [Sodium]

/-- The bundle the identity of fives published. -/
def publishedBundle : PrekeyBundleResponse :=
  let _ := keyedSodium
  let request := prekeyPublication (.deriveFromSeed (repeatedBytes 32 5))
  { ownerPubkey := repeatedBytes 32 5, prekey := request.prekey, signature := request.signature
    createdAt := 1 }

/-- The session key of the identity of ones for it, with a key pair of nines. -/
def sessionKeyForFives : SymmetricKey :=
  let _ := keyedSodium
  (deriveSenderSessionKey (.deriveFromSeed (repeatedBytes 32 1)) (repeatedBytes 32 9)
    publishedBundle.ownerPubkey publishedBundle.prekey).getD (FixedBytes.zero _)

/-- A text that was sealed for it. -/
def sealingForFives : @DmSealing keyedSodium :=
  let _ := keyedSodium
  { senderSeed := repeatedBytes 32 1
    recipientSeed := repeatedBytes 32 5
    bundle := publishedBundle
    text := ascii "salut"
    ephemeralSecret := repeatedBytes 32 9
    sentAt := 0
    envelope := sealedEnvelope (.deriveFromSeed (repeatedBytes 32 1))
      (computePublicFromSecret (repeatedBytes 32 9)) sessionKeyForFives 0 (ascii "salut")
    genuine := ⟨rfl, rfl, rfl⟩
    performed := sealDirectMessage_performs (ascii "salut") 0 (by decide +kernel) (by decide +kernel) }

/-- The envelope with its counter changed. -/
def recounted : ByteString :=
  let _ := keyedSodium
  sealingForFives.envelope.set 65 1

/-- The envelope opens for its recipient. With the counter changed, which is in no
key, it does not, and as it is it does not open for another. -/
theorem direct_message_integrity_salut :
    letI := keyedSodium
    ((openDirectMessageInto (.deriveFromSeed (repeatedBytes 32 5)) sealingForFives.envelope {}).1 =
        true ∧
      ∃ sealing ∈ [sealingForFives], sealing.recipientSeed = repeatedBytes 32 5 ∧
        sealing.envelope = sealingForFives.envelope) ∧
    (openDirectMessageInto (.deriveFromSeed (repeatedBytes 32 5)) recounted {}).1 = false ∧
    (openDirectMessageInto (.deriveFromSeed (repeatedBytes 32 7)) sealingForFives.envelope {}).1 =
      false := by
  let _ := keyedSodium
  have hmem := List.mem_singleton_self sealingForFives
  have hfresh : ([sealingForFives].map DmSealing.ephemeral).Nodup := List.nodup_singleton _
  -- for fives there is no other recipient in the log
  have hfives : ∀ envelope, DmOpening.KeysApart [sealingForFives] ⟨repeatedBytes 32 5, envelope⟩ := by
    intro envelope sealing hsealing hother
    obtain rfl := List.mem_singleton.mp hsealing
    exact absurd rfl hother
  have hsevens : DmOpening.KeysApart [sealingForFives]
      ⟨repeatedBytes 32 7, sealingForFives.envelope⟩ := by
    intro sealing hsealing _
    obtain rfl := List.mem_singleton.mp hsealing
    decide +kernel
  refine ⟨?_, ?_, ?_⟩
  · have hopens : (openDirectMessageInto (.deriveFromSeed (repeatedBytes 32 5))
        sealingForFives.envelope {}).1 = true := by decide +kernel
    exact ⟨hopens, (direct_message_integrity keyedSodium_x25519 keyedSodium_ed25519
      (DmOpening.authentic_of_sealing keyedSodium_x25519 keyedSodium_ed25519 hmem) (hfives _)
      hfresh {}).1 hopens⟩
  · have hrefused : dmPlaintext (.deriveFromSeed (repeatedBytes 32 5)) recounted = none := by
      decide +kernel
    have hsealed := (direct_message_integrity keyedSodium_x25519 keyedSodium_ed25519
      (DmOpening.authentic_of_refused [sealingForFives] ⟨_, recounted⟩ hrefused) (hfives recounted)
      hfresh {}).1
    rw [Bool.eq_false_iff]
    intro hopens
    obtain ⟨sealing, hsealing, -, henvelope⟩ := hsealed hopens
    obtain rfl := List.mem_singleton.mp hsealing
    exact absurd henvelope (by decide +kernel)
  · have hrefused : dmPlaintext (.deriveFromSeed (repeatedBytes 32 7)) sealingForFives.envelope =
        none := by decide +kernel
    exact (direct_message_integrity keyedSodium_x25519 keyedSodium_ed25519
      (DmOpening.authentic_of_refused [sealingForFives] ⟨_, _⟩ hrefused) hsevens hfresh {}).2.1
      sealingForFives hmem rfl (by decide +kernel)

end HyperCom
