import HyperCom.Protocol.ByteCodec

/-!
# The records carried inside messages

`forum_record`, `content_records`, `social_records` and `dm_envelope_record`:
for each one `write_to`, `read_from`, the range of values the reader accepts,
and the fact that the two are inverse to each other on that range. The order of
the fields and the cap of each text are the source's; a differing cap or a
swapped field would make the `exact` lemma fail.

A record is what one row of the database looks like to a client, after the `JOIN` with the
accounts: keys and handles in place of account ids, and counts that the statement computes.
The same records are carried by the reply to a creation and by the listings, so each is
modelled once.
-/

namespace HyperCom

open BinaryCodec

/-- A forum as it travels over the wire. -/
structure ForumRecord where
  id : UInt64 := 0
  name : ByteString := []
  description : ByteString := []
  founderPubkey : WirePublicKey := FixedBytes.zero _
  founderHandle : ByteString := []
  themeJson : ByteString := []
  createdAt : UInt64 := 0
  postCount : UInt32 := 0
deriving DecidableEq

def ForumRecord.writeTo (forum : ForumRecord) : ByteString :=
  List.flatten [
    writeInteger forum.id,
    writeTextField forum.name,
    writeTextField forum.description,
    writeFixedBytes forum.founderPubkey.1,
    writeTextField forum.founderHandle,
    writeTextField forum.themeJson,
    writeInteger forum.createdAt,
    writeInteger forum.postCount]

def ForumRecord.readFrom : Reader ForumRecord := do
  let id ← readInteger UInt64
  let name ← readTextField maxForumNameLength
  let description ← readTextField maxForumDescriptionLength
  let founderPubkey ← readFixedBytes publicKeySize
  let founderHandle ← readTextField maxHandleLength
  let themeJson ← readTextField maxThemeJsonLength
  let createdAt ← readInteger UInt64
  let postCount ← readInteger UInt32
  pure { id, name, description, founderPubkey, founderHandle, themeJson, createdAt, postCount }

/-- The caps of its four texts. The handle of the founder is one of them, although the
client never wrote it. -/
def ForumRecord.InRange (forum : ForumRecord) : Prop :=
  TextInRange maxForumNameLength forum.name ∧
    TextInRange maxForumDescriptionLength forum.description ∧
    TextInRange maxHandleLength forum.founderHandle ∧
    TextInRange maxThemeJsonLength forum.themeJson

theorem ForumRecord.exact :
    WireExact ForumRecord.writeTo ForumRecord.readFrom ForumRecord.InRange := by
  apply ExactOn.exact
  · apply ExactOn.field readInteger_exact
    intro id
    apply ExactOn.field (readTextField_exact (by decide))
    intro name
    apply ExactOn.field (readTextField_exact (by decide))
    intro description
    apply ExactOn.field (readFixedBytes_exact _)
    intro founderPubkey
    apply ExactOn.field (readTextField_exact (by decide))
    intro founderHandle
    apply ExactOn.field (readTextField_exact (by decide))
    intro themeJson
    apply ExactOn.field readInteger_exact
    intro createdAt
    apply ExactOn.field readInteger_exact
    intro postCount
    exact .done (by rintro ⟨⟩; simp [and_assoc])
  · intro forum
    simp [ForumRecord.InRange]

/-- A post as it travels over the wire. -/
structure PostRecord where
  id : UInt64 := 0
  forumId : UInt64 := 0
  authorPubkey : WirePublicKey := FixedBytes.zero _
  authorHandle : ByteString := []
  title : ByteString := []
  body : ByteString := []
  createdAt : UInt64 := 0
  commentCount : UInt32 := 0
deriving DecidableEq

def PostRecord.writeTo (post : PostRecord) : ByteString :=
  List.flatten [
    writeInteger post.id,
    writeInteger post.forumId,
    writeFixedBytes post.authorPubkey.1,
    writeTextField post.authorHandle,
    writeTextField post.title,
    writeTextField post.body,
    writeInteger post.createdAt,
    writeInteger post.commentCount]

def PostRecord.readFrom : Reader PostRecord := do
  let id ← readInteger UInt64
  let forumId ← readInteger UInt64
  let authorPubkey ← readFixedBytes publicKeySize
  let authorHandle ← readTextField maxHandleLength
  let title ← readTextField maxPostTitleLength
  let body ← readTextField maxPostBodyLength
  let createdAt ← readInteger UInt64
  let commentCount ← readInteger UInt32
  pure { id, forumId, authorPubkey, authorHandle, title, body, createdAt, commentCount }

/-- A post in a listing has a preview for its body, which is far below this cap. -/
def PostRecord.InRange (post : PostRecord) : Prop :=
  TextInRange maxHandleLength post.authorHandle ∧ TextInRange maxPostTitleLength post.title ∧
    TextInRange maxPostBodyLength post.body

theorem PostRecord.exact : WireExact PostRecord.writeTo PostRecord.readFrom PostRecord.InRange := by
  apply ExactOn.exact
  · apply ExactOn.field readInteger_exact
    intro id
    apply ExactOn.field readInteger_exact
    intro forumId
    apply ExactOn.field (readFixedBytes_exact _)
    intro authorPubkey
    apply ExactOn.field (readTextField_exact (by decide))
    intro authorHandle
    apply ExactOn.field (readTextField_exact (by decide))
    intro title
    apply ExactOn.field (readTextField_exact (by decide))
    intro body
    apply ExactOn.field readInteger_exact
    intro createdAt
    apply ExactOn.field readInteger_exact
    intro commentCount
    exact .done (by rintro ⟨⟩; simp [and_assoc])
  · intro post
    simp [PostRecord.InRange]

/-- Comments travel flat: each one carries its parent and its depth. -/
structure CommentRecord where
  id : UInt64 := 0
  postId : UInt64 := 0
  parentCommentId : UInt64 := 0
  authorPubkey : WirePublicKey := FixedBytes.zero _
  authorHandle : ByteString := []
  body : ByteString := []
  createdAt : UInt64 := 0
  depth : UInt16 := 0
deriving DecidableEq

def CommentRecord.writeTo (comment : CommentRecord) : ByteString :=
  List.flatten [
    writeInteger comment.id,
    writeInteger comment.postId,
    writeInteger comment.parentCommentId,
    writeFixedBytes comment.authorPubkey.1,
    writeTextField comment.authorHandle,
    writeTextField comment.body,
    writeInteger comment.createdAt,
    writeInteger comment.depth]

def CommentRecord.readFrom : Reader CommentRecord := do
  let id ← readInteger UInt64
  let postId ← readInteger UInt64
  let parentCommentId ← readInteger UInt64
  let authorPubkey ← readFixedBytes publicKeySize
  let authorHandle ← readTextField maxHandleLength
  let body ← readTextField maxCommentBodyLength
  let createdAt ← readInteger UInt64
  let depth ← readInteger UInt16
  pure { id, postId, parentCommentId, authorPubkey, authorHandle, body, createdAt, depth }

/-- The depth has no cap: it is a `u16` that the statement fills in. -/
def CommentRecord.InRange (comment : CommentRecord) : Prop :=
  TextInRange maxHandleLength comment.authorHandle ∧ TextInRange maxCommentBodyLength comment.body

theorem CommentRecord.exact :
    WireExact CommentRecord.writeTo CommentRecord.readFrom CommentRecord.InRange := by
  apply ExactOn.exact
  · apply ExactOn.field readInteger_exact
    intro id
    apply ExactOn.field readInteger_exact
    intro postId
    apply ExactOn.field readInteger_exact
    intro parentCommentId
    apply ExactOn.field (readFixedBytes_exact _)
    intro authorPubkey
    apply ExactOn.field (readTextField_exact (by decide))
    intro authorHandle
    apply ExactOn.field (readTextField_exact (by decide))
    intro body
    apply ExactOn.field readInteger_exact
    intro createdAt
    apply ExactOn.field readInteger_exact
    intro depth
    exact .done (by rintro ⟨⟩; simp [and_assoc])
  · intro comment
    simp [CommentRecord.InRange]

/-- A profile as it travels over the wire. -/
structure ProfileRecord where
  pubkey : WirePublicKey := FixedBytes.zero _
  handle : ByteString := []
  displayName : ByteString := []
  bio : ByteString := []
  themeJson : ByteString := []
  bannerReference : ByteString := []
deriving DecidableEq

def ProfileRecord.writeTo (profile : ProfileRecord) : ByteString :=
  List.flatten [
    writeFixedBytes profile.pubkey.1,
    writeTextField profile.handle,
    writeTextField profile.displayName,
    writeTextField profile.bio,
    writeTextField profile.themeJson,
    writeTextField profile.bannerReference]

def ProfileRecord.readFrom : Reader ProfileRecord := do
  let pubkey ← readFixedBytes publicKeySize
  let handle ← readTextField maxHandleLength
  let displayName ← readTextField maxDisplayNameLength
  let bio ← readTextField maxBioLength
  let themeJson ← readTextField maxThemeJsonLength
  let bannerReference ← readTextField maxBlobReferenceLength
  pure { pubkey, handle, displayName, bio, themeJson, bannerReference }

/-- The caps of the four texts that the account chose, and of its handle. -/
def ProfileRecord.InRange (profile : ProfileRecord) : Prop :=
  TextInRange maxHandleLength profile.handle ∧
    TextInRange maxDisplayNameLength profile.displayName ∧ TextInRange maxBioLength profile.bio ∧
    TextInRange maxThemeJsonLength profile.themeJson ∧
    TextInRange maxBlobReferenceLength profile.bannerReference

theorem ProfileRecord.exact :
    WireExact ProfileRecord.writeTo ProfileRecord.readFrom ProfileRecord.InRange := by
  apply ExactOn.exact
  · apply ExactOn.field (readFixedBytes_exact _)
    intro pubkey
    apply ExactOn.field (readTextField_exact (by decide))
    intro handle
    apply ExactOn.field (readTextField_exact (by decide))
    intro displayName
    apply ExactOn.field (readTextField_exact (by decide))
    intro bio
    apply ExactOn.field (readTextField_exact (by decide))
    intro themeJson
    apply ExactOn.field (readTextField_exact (by decide))
    intro bannerReference
    exact .done (by rintro ⟨⟩; simp [and_assoc])
  · intro profile
    simp [ProfileRecord.InRange]

/-- `friendship_status` -/
inductive FriendshipStatus where
  | requested
  | accepted
  | blocked
deriving DecidableEq

/-- The enumerator's number. -/
def FriendshipStatus.toRaw : FriendshipStatus → UInt8
  | .requested => 0
  | .accepted => 1
  | .blocked => 2

/-- The cast from a number, after the check against the last enumerator. -/
def FriendshipStatus.ofRaw (raw : UInt8) : Option FriendshipStatus :=
  if raw = 0 then some .requested
  else if raw = 1 then some .accepted
  else if raw = 2 then some .blocked
  else none

/-- Each status has one byte, and no other byte is one. -/
theorem FriendshipStatus.ofRaw_eq_some (raw : UInt8) (status : FriendshipStatus) :
    ofRaw raw = some status ↔ raw = status.toRaw := by
  unfold ofRaw
  cases status <;> simp only [toRaw] <;> split_ifs <;> simp_all

/-- An enumeration is written as its underlying byte. -/
def writeFriendshipStatus (status : FriendshipStatus) : ByteString := writeInteger status.toRaw

/-- `read_friendship_status` -/
def readFriendshipStatus : Reader FriendshipStatus := do
  let raw ← readInteger UInt8
  Fallible.ofOption (FriendshipStatus.ofRaw raw)

/-- So the byte that is read back is the one that was written. -/
theorem readFriendshipStatus_exact :
    WireExact writeFriendshipStatus readFriendshipStatus (fun _ => True) :=
  readInteger_exact.decode FriendshipStatus.ofRaw_eq_some fun _ => trivial

/-- One entry of a friend list. -/
structure FriendRecord where
  pubkey : WirePublicKey := FixedBytes.zero _
  handle : ByteString := []
  displayName : ByteString := []
  status : FriendshipStatus := .requested
deriving DecidableEq

def FriendRecord.writeTo (friend : FriendRecord) : ByteString :=
  List.flatten [
    writeFixedBytes friend.pubkey.1,
    writeTextField friend.handle,
    writeTextField friend.displayName,
    writeFriendshipStatus friend.status]

def FriendRecord.readFrom : Reader FriendRecord := do
  let pubkey ← readFixedBytes publicKeySize
  let handle ← readTextField maxHandleLength
  let displayName ← readTextField maxDisplayNameLength
  let status ← readFriendshipStatus
  pure { pubkey, handle, displayName, status }

/-- The display name is the one of the friend's profile, if there is one. -/
def FriendRecord.InRange (friend : FriendRecord) : Prop :=
  TextInRange maxHandleLength friend.handle ∧ TextInRange maxDisplayNameLength friend.displayName

theorem FriendRecord.exact :
    WireExact FriendRecord.writeTo FriendRecord.readFrom FriendRecord.InRange := by
  apply ExactOn.exact
  · apply ExactOn.field (readFixedBytes_exact _)
    intro pubkey
    apply ExactOn.field (readTextField_exact (by decide))
    intro handle
    apply ExactOn.field (readTextField_exact (by decide))
    intro displayName
    apply ExactOn.field readFriendshipStatus_exact
    intro status
    exact .done (by rintro ⟨⟩; simp [and_assoc])
  · intro friend
    simp [FriendRecord.InRange]

/-- Everything the server keeps about a private message. `sender_pubkey` is the
server's own column; the ciphertext is opaque to it. -/
structure DmEnvelopeRecord where
  id : UInt64 := 0
  senderPubkey : WirePublicKey := FixedBytes.zero _
  ciphertext : ByteString := []
deriving DecidableEq

def DmEnvelopeRecord.writeTo (envelope : DmEnvelopeRecord) : ByteString :=
  List.flatten [
    writeInteger envelope.id,
    writeFixedBytes envelope.senderPubkey.1,
    writeLengthPrefixed envelope.ciphertext]

def DmEnvelopeRecord.readFrom : Reader DmEnvelopeRecord := do
  let id ← readInteger UInt64
  let senderPubkey ← readFixedBytes publicKeySize
  let ciphertext ← readLengthPrefixed maxDmCiphertextSize
  pure { id, senderPubkey, ciphertext }

/-- Bytes, so there is a length to check and nothing else. -/
def DmEnvelopeRecord.InRange (envelope : DmEnvelopeRecord) : Prop :=
  envelope.ciphertext.length ≤ maxDmCiphertextSize

theorem DmEnvelopeRecord.exact :
    WireExact DmEnvelopeRecord.writeTo DmEnvelopeRecord.readFrom DmEnvelopeRecord.InRange := by
  apply ExactOn.exact
  · apply ExactOn.field readInteger_exact
    intro id
    apply ExactOn.field (readFixedBytes_exact _)
    intro senderPubkey
    apply ExactOn.field (readLengthPrefixed_exact (by decide))
    intro ciphertext
    exact .done (by rintro ⟨⟩; simp [and_assoc])
  · intro envelope
    simp [DmEnvelopeRecord.InRange]

end HyperCom
