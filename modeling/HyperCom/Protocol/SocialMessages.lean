import HyperCom.Protocol.Records

/-!
# Social, private and report messages

The messages about profiles, friends, the top 8, prekeys, private messages and reports, in
the same shape as the session messages: structure, `write_to`, `read_from`, `InRange` where
the reader refuses something, exactness.

Accounts are named by their public keys on the wire; ids of accounts stay on the server. Two
of the encodings have something to themselves:

* a top 8 is an array of eight keys, empty slots written as zeros, with no count in front of
  it (`writeSlotArray`);
* a ciphertext is a blob, of which nothing is checked but its length, since the server
  cannot read it.

What a prekey signature is over (`buildPrekeySigningInput`) is here too, as it is in the
source.
-/

namespace HyperCom

open BinaryCodec

/-! ## Profiles, friends, top 8, prekeys -/

/-- `profile_get_request`: the profile of any account, named by its key. -/
structure ProfileGetRequest where
  targetPubkey : WirePublicKey := FixedBytes.zero _
deriving DecidableEq

def ProfileGetRequest.writeTo (request : ProfileGetRequest) : ByteString :=
  List.flatten [writeFixedBytes request.targetPubkey.1]

def ProfileGetRequest.readFrom : Reader ProfileGetRequest := do
  let targetPubkey ← readFixedBytes publicKeySize
  pure { targetPubkey }

theorem ProfileGetRequest.exact :
    WireExact ProfileGetRequest.writeTo ProfileGetRequest.readFrom (fun _ => True) := by
  apply ExactOn.exact
  · apply ExactOn.field (readFixedBytes_exact _)
    intro targetPubkey
    exact .done (by rintro ⟨⟩; simp)
  · intro request
    simp

/-- `profile_response`: an account that never set one is answered with empty texts and its
handle. -/
structure ProfileResponse where
  profile : ProfileRecord := {}
deriving DecidableEq

def ProfileResponse.writeTo (response : ProfileResponse) : ByteString :=
  List.flatten [response.profile.writeTo]

def ProfileResponse.readFrom : Reader ProfileResponse := do
  let profile ← ProfileRecord.readFrom
  pure { profile }

/-- A reply is in range when its record is. -/
def ProfileResponse.InRange (response : ProfileResponse) : Prop :=
  response.profile.InRange

theorem ProfileResponse.exact :
    WireExact ProfileResponse.writeTo ProfileResponse.readFrom ProfileResponse.InRange := by
  apply ExactOn.exact
  · apply ExactOn.field ProfileRecord.exact
    intro profile
    exact .done (by rintro ⟨⟩; simp)
  · intro response
    simp [ProfileResponse.InRange]

/-- `profile_set_request`: replaces all four texts of the session's own profile at once. -/
structure ProfileSetRequest where
  displayName : ByteString := []
  bio : ByteString := []
  themeJson : ByteString := []
  bannerReference : ByteString := []
deriving DecidableEq

def ProfileSetRequest.writeTo (request : ProfileSetRequest) : ByteString :=
  List.flatten [
    writeTextField request.displayName,
    writeTextField request.bio,
    writeTextField request.themeJson,
    writeTextField request.bannerReference]

def ProfileSetRequest.readFrom : Reader ProfileSetRequest := do
  let displayName ← readTextField maxDisplayNameLength
  let bio ← readTextField maxBioLength
  let themeJson ← readTextField maxThemeJsonLength
  let bannerReference ← readTextField maxBlobReferenceLength
  pure { displayName, bio, themeJson, bannerReference }

/-- The caps on the four texts. What the theme says is up to the clients. -/
def ProfileSetRequest.InRange (request : ProfileSetRequest) : Prop :=
  TextInRange maxDisplayNameLength request.displayName ∧ TextInRange maxBioLength request.bio ∧
    TextInRange maxThemeJsonLength request.themeJson ∧
    TextInRange maxBlobReferenceLength request.bannerReference

theorem ProfileSetRequest.exact :
    WireExact ProfileSetRequest.writeTo ProfileSetRequest.readFrom ProfileSetRequest.InRange := by
  apply ExactOn.exact
  · apply ExactOn.field (readTextField_exact (by decide))
    intro displayName
    apply ExactOn.field (readTextField_exact (by decide))
    intro bio
    apply ExactOn.field (readTextField_exact (by decide))
    intro themeJson
    apply ExactOn.field (readTextField_exact (by decide))
    intro bannerReference
    exact .done (by rintro ⟨⟩; simp [and_assoc])
  · intro request
    simp [ProfileSetRequest.InRange]

/-- `friend_add_request`: one row from the session's account to another. Nobody has to
agree, and nobody else's row changes. -/
structure FriendAddRequest where
  targetPubkey : WirePublicKey := FixedBytes.zero _
  status : FriendshipStatus := .requested
deriving DecidableEq

def FriendAddRequest.writeTo (request : FriendAddRequest) : ByteString :=
  List.flatten [writeFixedBytes request.targetPubkey.1, writeFriendshipStatus request.status]

def FriendAddRequest.readFrom : Reader FriendAddRequest := do
  let targetPubkey ← readFixedBytes publicKeySize
  let status ← readFriendshipStatus
  pure { targetPubkey, status }

theorem FriendAddRequest.exact :
    WireExact FriendAddRequest.writeTo FriendAddRequest.readFrom (fun _ => True) := by
  apply ExactOn.exact
  · apply ExactOn.field (readFixedBytes_exact _)
    intro targetPubkey
    apply ExactOn.field readFriendshipStatus_exact
    intro status
    exact .done (by rintro ⟨⟩; simp)
  · intro request
    simp

/-- `friend_list_response`: the rows that start at the session's account. -/
structure FriendListResponse where
  friends : List FriendRecord := []
deriving DecidableEq

def FriendListResponse.writeTo (response : FriendListResponse) : ByteString :=
  List.flatten [writeRecordList FriendRecord.writeTo response.friends]

def FriendListResponse.readFrom : Reader FriendListResponse := do
  let friends ← readRecordList FriendRecord.readFrom maxFriendItems
  pure { friends }

/-- Above `MAX_FRIEND_ITEMS` the reader gives up, and the server sends no more than that. -/
def FriendListResponse.InRange (response : FriendListResponse) : Prop :=
  response.friends.length ≤ maxFriendItems ∧ ∀ record ∈ response.friends, record.InRange

theorem FriendListResponse.exact :
    WireExact FriendListResponse.writeTo FriendListResponse.readFrom FriendListResponse.InRange := by
  apply ExactOn.exact
  · apply ExactOn.field (readRecordList_exact FriendRecord.exact (by decide))
    intro friends
    exact .done (by rintro ⟨⟩; simp)
  · intro response
    simp [FriendListResponse.InRange]

/-- Eight ordered slots; an empty one holds the null key. -/
abbrev Top8Slots : Type := { slots : List WirePublicKey // slots.length = top8SlotCount }

/-- All slots empty, which is how a top 8 is taken back. -/
def Top8Slots.empty : Top8Slots := ⟨List.replicate top8SlotCount (FixedBytes.zero _), rfl⟩

/-- `write_slot_array` -/
def writeSlotArray (slots : Top8Slots) : ByteString :=
  slots.1.flatMap fun slot => writeFixedBytes slot.1

/-- `read_slot_array` -/
def readSlotArray : Reader Top8Slots := do
  let slots ← (readFixedBytes publicKeySize).repeatTimes top8SlotCount
  if h : slots.length = top8SlotCount then pure ⟨slots, h⟩ else Fallible.fail

/-- Any eight keys are a slot array, and there is one way to write them. -/
theorem readSlotArray_exact : WireExact writeSlotArray readSlotArray (fun _ => True) := by
  have slots := ((readFixedBytes_exact publicKeySize).repeatTimes top8SlotCount).subtype
    (p := fun slots => slots.length = top8SlotCount) fun _ h => h.1
  exact ⟨fun {_ v _} _ => slots.complete ⟨v.2, fun _ _ => trivial⟩,
    fun h => ⟨trivial, (slots.sound h).2⟩⟩

/-- `top8_set_request`: replaces the whole top 8. A key may stand in several slots; a key
without an account makes the request fail as a whole. -/
structure Top8SetRequest where
  slots : Top8Slots := Top8Slots.empty
deriving DecidableEq

def Top8SetRequest.writeTo (request : Top8SetRequest) : ByteString :=
  List.flatten [writeSlotArray request.slots]

def Top8SetRequest.readFrom : Reader Top8SetRequest := do
  let slots ← readSlotArray
  pure { slots }

theorem Top8SetRequest.exact :
    WireExact Top8SetRequest.writeTo Top8SetRequest.readFrom (fun _ => True) := by
  apply ExactOn.exact
  · apply ExactOn.field readSlotArray_exact
    intro slots
    exact .done (by rintro ⟨⟩; simp)
  · intro request
    simp

/-- `top8_get_request`: the top 8 of any account. -/
structure Top8GetRequest where
  targetPubkey : WirePublicKey := FixedBytes.zero _
deriving DecidableEq

def Top8GetRequest.writeTo (request : Top8GetRequest) : ByteString :=
  List.flatten [writeFixedBytes request.targetPubkey.1]

def Top8GetRequest.readFrom : Reader Top8GetRequest := do
  let targetPubkey ← readFixedBytes publicKeySize
  pure { targetPubkey }

theorem Top8GetRequest.exact :
    WireExact Top8GetRequest.writeTo Top8GetRequest.readFrom (fun _ => True) := by
  apply ExactOn.exact
  · apply ExactOn.field (readFixedBytes_exact _)
    intro targetPubkey
    exact .done (by rintro ⟨⟩; simp)
  · intro request
    simp

/-- `top8_response`: the eight slots, and a record for every occupied one in the order of
the slots. -/
structure Top8Response where
  slots : Top8Slots := Top8Slots.empty
  details : List FriendRecord := []
deriving DecidableEq

def Top8Response.writeTo (response : Top8Response) : ByteString :=
  List.flatten [
    writeSlotArray response.slots,
    writeRecordList FriendRecord.writeTo response.details]

def Top8Response.readFrom : Reader Top8Response := do
  let slots ← readSlotArray
  let details ← readRecordList FriendRecord.readFrom top8SlotCount
  pure { slots, details }

/-- There are at most as many records as slots. -/
def Top8Response.InRange (response : Top8Response) : Prop :=
  response.details.length ≤ top8SlotCount ∧ ∀ record ∈ response.details, record.InRange

theorem Top8Response.exact :
    WireExact Top8Response.writeTo Top8Response.readFrom Top8Response.InRange := by
  apply ExactOn.exact
  · apply ExactOn.field readSlotArray_exact
    intro slots
    apply ExactOn.field (readRecordList_exact FriendRecord.exact (by decide))
    intro details
    exact .done (by rintro ⟨⟩; simp)
  · intro response
    simp [Top8Response.InRange]

/-- `prekey_publish_request`: a key to write to the account with, signed by its identity.
The server stores it as it is and does not verify the signature. -/
structure PrekeyPublishRequest where
  prekey : WirePublicKey := FixedBytes.zero _
  signature : WireSignature := FixedBytes.zero _
deriving DecidableEq

def PrekeyPublishRequest.writeTo (request : PrekeyPublishRequest) : ByteString :=
  List.flatten [writeFixedBytes request.prekey.1, writeFixedBytes request.signature.1]

def PrekeyPublishRequest.readFrom : Reader PrekeyPublishRequest := do
  let prekey ← readFixedBytes publicKeySize
  let signature ← readFixedBytes signatureSize
  pure { prekey, signature }

theorem PrekeyPublishRequest.exact :
    WireExact PrekeyPublishRequest.writeTo PrekeyPublishRequest.readFrom (fun _ => True) := by
  apply ExactOn.exact
  · apply ExactOn.field (readFixedBytes_exact _)
    intro prekey
    apply ExactOn.field (readFixedBytes_exact _)
    intro signature
    exact .done (by rintro ⟨⟩; simp)
  · intro request
    simp

/-- `PREKEY_SIGNATURE_DOMAIN` -/
def prekeySignatureDomain : ByteString := ascii "hypercom-prekey-v1"

/-- `build_prekey_signing_input`: domain, then identity key, then prekey. -/
def buildPrekeySigningInput (identityPubkey prekey : WirePublicKey) : ByteString :=
  List.flatten [
    writeFixedBytes prekeySignatureDomain,
    writeFixedBytes identityPubkey.1,
    writeFixedBytes prekey.1]

/-- `prekey_fetch_request`: the prekey of whom one wants to write to. -/
structure PrekeyFetchRequest where
  targetPubkey : WirePublicKey := FixedBytes.zero _
deriving DecidableEq

def PrekeyFetchRequest.writeTo (request : PrekeyFetchRequest) : ByteString :=
  List.flatten [writeFixedBytes request.targetPubkey.1]

def PrekeyFetchRequest.readFrom : Reader PrekeyFetchRequest := do
  let targetPubkey ← readFixedBytes publicKeySize
  pure { targetPubkey }

theorem PrekeyFetchRequest.exact :
    WireExact PrekeyFetchRequest.writeTo PrekeyFetchRequest.readFrom (fun _ => True) := by
  apply ExactOn.exact
  · apply ExactOn.field (readFixedBytes_exact _)
    intro targetPubkey
    exact .done (by rintro ⟨⟩; simp)
  · intro request
    simp

/-- `prekey_bundle_response`: it is the client who checks the signature, under the key the
bundle names as its owner. -/
structure PrekeyBundleResponse where
  ownerPubkey : WirePublicKey := FixedBytes.zero _
  prekey : WirePublicKey := FixedBytes.zero _
  signature : WireSignature := FixedBytes.zero _
  createdAt : UInt64 := 0
deriving DecidableEq

def PrekeyBundleResponse.writeTo (response : PrekeyBundleResponse) : ByteString :=
  List.flatten [
    writeFixedBytes response.ownerPubkey.1,
    writeFixedBytes response.prekey.1,
    writeFixedBytes response.signature.1,
    writeInteger response.createdAt]

def PrekeyBundleResponse.readFrom : Reader PrekeyBundleResponse := do
  let ownerPubkey ← readFixedBytes publicKeySize
  let prekey ← readFixedBytes publicKeySize
  let signature ← readFixedBytes signatureSize
  let createdAt ← readInteger UInt64
  pure { ownerPubkey, prekey, signature, createdAt }

theorem PrekeyBundleResponse.exact :
    WireExact PrekeyBundleResponse.writeTo PrekeyBundleResponse.readFrom (fun _ => True) := by
  apply ExactOn.exact
  · apply ExactOn.field (readFixedBytes_exact _)
    intro ownerPubkey
    apply ExactOn.field (readFixedBytes_exact _)
    intro prekey
    apply ExactOn.field (readFixedBytes_exact _)
    intro signature
    apply ExactOn.field readInteger_exact
    intro createdAt
    exact .done (by rintro ⟨⟩; simp [and_assoc])
  · intro response
    simp

/-! ## Private messages -/

/-- `dm_send_request`: an envelope for an account. What is inside is between the two clients. -/
structure DmSendRequest where
  recipientPubkey : WirePublicKey := FixedBytes.zero _
  ciphertext : ByteString := []
deriving DecidableEq

def DmSendRequest.writeTo (request : DmSendRequest) : ByteString :=
  List.flatten [writeFixedBytes request.recipientPubkey.1, writeLengthPrefixed request.ciphertext]

def DmSendRequest.readFrom : Reader DmSendRequest := do
  let recipientPubkey ← readFixedBytes publicKeySize
  let ciphertext ← readLengthPrefixed maxDmCiphertextSize
  pure { recipientPubkey, ciphertext }

/-- An empty ciphertext is readable; the handler refuses it. -/
def DmSendRequest.InRange (request : DmSendRequest) : Prop :=
  request.ciphertext.length ≤ maxDmCiphertextSize

theorem DmSendRequest.exact :
    WireExact DmSendRequest.writeTo DmSendRequest.readFrom DmSendRequest.InRange := by
  apply ExactOn.exact
  · apply ExactOn.field (readFixedBytes_exact _)
    intro recipientPubkey
    apply ExactOn.field (readLengthPrefixed_exact (by decide))
    intro ciphertext
    exact .done (by rintro ⟨⟩; simp)
  · intro request
    simp [DmSendRequest.InRange]

/-- `dm_fetch_request`: the envelopes of the session's account with ids above `sinceId`,
which is 0 at the start of an inbox. -/
structure DmFetchRequest where
  sinceId : UInt64 := 0
  limit : UInt16 := UInt16.ofNat maxDmBatchItems
deriving DecidableEq

def DmFetchRequest.writeTo (request : DmFetchRequest) : ByteString :=
  List.flatten [writeInteger request.sinceId, writeInteger request.limit]

def DmFetchRequest.readFrom : Reader DmFetchRequest := do
  let sinceId ← readInteger UInt64
  let limit ← readInteger UInt16
  pure { sinceId, limit }

theorem DmFetchRequest.exact :
    WireExact DmFetchRequest.writeTo DmFetchRequest.readFrom (fun _ => True) := by
  apply ExactOn.exact
  · apply ExactOn.field readInteger_exact
    intro sinceId
    apply ExactOn.field readInteger_exact
    intro limit
    exact .done (by rintro ⟨⟩; simp)
  · intro request
    simp

/-- `dm_list_response`: a page in the order of the ids, and whether there is more behind it. -/
structure DmListResponse where
  envelopes : List DmEnvelopeRecord := []
  hasMore : UInt8 := 0
deriving DecidableEq

def DmListResponse.writeTo (response : DmListResponse) : ByteString :=
  List.flatten [
    writeRecordList DmEnvelopeRecord.writeTo response.envelopes,
    writeInteger response.hasMore]

def DmListResponse.readFrom : Reader DmListResponse := do
  let envelopes ← readRecordList DmEnvelopeRecord.readFrom maxDmBatchItems
  let hasMore ← readInteger UInt8
  pure { envelopes, hasMore }

/-- Both the number of envelopes and the size of each are capped, but not so that a full
page of the largest would fit a frame. -/
def DmListResponse.InRange (response : DmListResponse) : Prop :=
  response.envelopes.length ≤ maxDmBatchItems ∧ ∀ record ∈ response.envelopes, record.InRange

theorem DmListResponse.exact :
    WireExact DmListResponse.writeTo DmListResponse.readFrom DmListResponse.InRange := by
  apply ExactOn.exact
  · apply ExactOn.field (readRecordList_exact DmEnvelopeRecord.exact (by decide))
    intro envelopes
    apply ExactOn.field readInteger_exact
    intro hasMore
    exact .done (by rintro ⟨⟩; simp)
  · intro response
    simp [DmListResponse.InRange]

/-- `dm_ack_request`: envelopes the client has got and the server may forget. Ids of other
people's envelopes are ignored. -/
structure DmAckRequest where
  envelopeIds : List UInt64 := []
deriving DecidableEq

def DmAckRequest.writeTo (request : DmAckRequest) : ByteString :=
  List.flatten [writeRecordList writeInteger request.envelopeIds]

def DmAckRequest.readFrom : Reader DmAckRequest := do
  let envelopeIds ← readRecordList (readInteger UInt64) maxDmBatchItems
  pure { envelopeIds }

/-- No more ids than a page has envelopes. -/
def DmAckRequest.InRange (request : DmAckRequest) : Prop :=
  request.envelopeIds.length ≤ maxDmBatchItems

theorem DmAckRequest.exact :
    WireExact DmAckRequest.writeTo DmAckRequest.readFrom DmAckRequest.InRange := by
  apply ExactOn.exact
  · apply ExactOn.field (readRecordList_exact readInteger_exact (by decide))
    intro envelopeIds
    exact .done (by rintro ⟨⟩; simp)
  · intro request
    simp [DmAckRequest.InRange]

/-! ## Reports -/

/-- `report_post_request`: tells the administration about a post. -/
structure ReportPostRequest where
  postId : UInt64 := 0
  reason : ByteString := []
deriving DecidableEq

def ReportPostRequest.writeTo (request : ReportPostRequest) : ByteString :=
  List.flatten [writeInteger request.postId, writeTextField request.reason]

def ReportPostRequest.readFrom : Reader ReportPostRequest := do
  let postId ← readInteger UInt64
  let reason ← readTextField maxReportReasonLength
  pure { postId, reason }

/-- The reason is the only text in it, and it may be empty. -/
def ReportPostRequest.InRange (request : ReportPostRequest) : Prop :=
  TextInRange maxReportReasonLength request.reason

theorem ReportPostRequest.exact :
    WireExact ReportPostRequest.writeTo ReportPostRequest.readFrom ReportPostRequest.InRange := by
  apply ExactOn.exact
  · apply ExactOn.field readInteger_exact
    intro postId
    apply ExactOn.field (readTextField_exact (by decide))
    intro reason
    exact .done (by rintro ⟨⟩; simp)
  · intro request
    simp [ReportPostRequest.InRange]

/-- `report_account_request`: tells the administration about an account. -/
structure ReportAccountRequest where
  targetPubkey : WirePublicKey := FixedBytes.zero _
  reason : ByteString := []
deriving DecidableEq

def ReportAccountRequest.writeTo (request : ReportAccountRequest) : ByteString :=
  List.flatten [writeFixedBytes request.targetPubkey.1, writeTextField request.reason]

def ReportAccountRequest.readFrom : Reader ReportAccountRequest := do
  let targetPubkey ← readFixedBytes publicKeySize
  let reason ← readTextField maxReportReasonLength
  pure { targetPubkey, reason }

/-- As for a post. -/
def ReportAccountRequest.InRange (request : ReportAccountRequest) : Prop :=
  TextInRange maxReportReasonLength request.reason

theorem ReportAccountRequest.exact :
    WireExact ReportAccountRequest.writeTo ReportAccountRequest.readFrom ReportAccountRequest.InRange := by
  apply ExactOn.exact
  · apply ExactOn.field (readFixedBytes_exact _)
    intro targetPubkey
    apply ExactOn.field (readTextField_exact (by decide))
    intro reason
    exact .done (by rintro ⟨⟩; simp)
  · intro request
    simp [ReportAccountRequest.InRange]

end HyperCom
