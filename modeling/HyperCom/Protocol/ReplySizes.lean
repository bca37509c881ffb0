import HyperCom.Protocol.MessageCodec

/-!
# How long the replies are

The length of each record and reply from the lengths of its texts, and the bound
that the caps on its texts and on its items give. Every reply but that of a thread
and that of an inbox stays within `MAX_PAYLOAD_SIZE` by its caps.

The numbers in the lemmas are the widths of the fixed fields and of the length prefixes,
added up; the caps are the ones of `Protocol.Limits`. So `...writeTo_length` is exact,
`...writeTo_length_le` is what the caps make of it, and `....fits` multiplies by the number
of items.

It matters because `encode_frame` refuses what does not fit, and a reply that is refused is
a connection that is closed (`Server.RecordReplies`).
-/

namespace HyperCom

open BinaryCodec

/-! ## The primitives -/

section Primitives

variable {T : Type} [UnsignedInteger T]

/-- The widths of the fields, of which every length below is a sum. -/
@[simp] theorem writeInteger_length (value : T) :
    (writeInteger value).length = UnsignedInteger.size T :=
  storeLittleEndian_length value

@[simp] theorem writeTextField_length (text : ByteString) :
    (writeTextField text).length = 4 + text.length := by
  rw [writeTextField, writeLengthPrefixed, List.length_append, writeInteger_length]
  rfl

@[simp] theorem writeFixedBytes_length {size : ℕ} (bytes : FixedBytes size) :
    (writeFixedBytes bytes.1).length = size :=
  bytes.2

@[simp] theorem writeFriendshipStatus_length (status : FriendshipStatus) :
    (writeFriendshipStatus status).length = 1 :=
  writeInteger_length status.toRaw

end Primitives

/-- Items one behind the other, by how many they can be. -/
theorem flatMap_length_le {α : Type} {writeTo : α → ByteString} {items : List α} {most bound : ℕ}
    (hcount : items.length ≤ most) (h : ∀ item ∈ items, (writeTo item).length ≤ bound) :
    (items.flatMap writeTo).length ≤ most * bound := by
  refine Nat.le_trans ?_ (Nat.mul_le_mul_right bound hcount)
  clear hcount
  induction items with
  | nil => exact Nat.zero_le _
  | cons item items ih =>
    have hfirst := h item List.mem_cons_self
    have hrest := ih fun other hother => h other (List.mem_cons_of_mem _ hother)
    rw [List.flatMap_cons, List.length_append, List.length_cons, Nat.succ_mul]
    omega

/-- A list is its count and its records. -/
theorem writeRecordList_length_le {α : Type} {writeTo : α → ByteString} {items : List α}
    {most bound : ℕ} (hcount : items.length ≤ most)
    (h : ∀ item ∈ items, (writeTo item).length ≤ bound) :
    (writeRecordList writeTo items).length ≤ 2 + most * bound := by
  rw [writeRecordList, List.length_append, writeInteger_length]
  exact Nat.add_le_add_left (flatMap_length_le hcount h) 2

/-! ## The records -/

/-- The exact lengths of the records. -/
theorem ForumRecord.writeTo_length (forum : ForumRecord) :
    forum.writeTo.length = 68 + (forum.name.length + forum.description.length +
      forum.founderHandle.length + forum.themeJson.length) := by
  simp [ForumRecord.writeTo, UnsignedInteger.size, publicKeySize]
  omega

theorem PostRecord.writeTo_length (post : PostRecord) :
    post.writeTo.length = 72 + (post.authorHandle.length + post.title.length +
      post.body.length) := by
  simp [PostRecord.writeTo, UnsignedInteger.size, publicKeySize]
  omega

theorem CommentRecord.writeTo_length (comment : CommentRecord) :
    comment.writeTo.length = 74 + (comment.authorHandle.length + comment.body.length) := by
  simp [CommentRecord.writeTo, UnsignedInteger.size, publicKeySize]
  omega

theorem ProfileRecord.writeTo_length (profile : ProfileRecord) :
    profile.writeTo.length = 52 + (profile.handle.length + profile.displayName.length +
      profile.bio.length + profile.themeJson.length + profile.bannerReference.length) := by
  simp [ProfileRecord.writeTo, publicKeySize]
  omega

theorem FriendRecord.writeTo_length (friend : FriendRecord) :
    friend.writeTo.length = 41 + (friend.handle.length + friend.displayName.length) := by
  simp [FriendRecord.writeTo, publicKeySize]
  omega

/-! ## The records within their caps -/

/-- And their bounds, for records in range. -/
theorem ForumRecord.writeTo_length_le {forum : ForumRecord} (h : forum.InRange) :
    forum.writeTo.length ≤ 1684 := by
  obtain ⟨⟨hname, -⟩, ⟨hdescription, -⟩, ⟨hhandle, -⟩, htheme, -⟩ := h
  rw [maxForumNameLength] at hname
  rw [maxForumDescriptionLength] at hdescription
  rw [maxHandleLength] at hhandle
  rw [maxThemeJsonLength] at htheme
  rw [forum.writeTo_length]
  omega

/-- A post whose body is cut to `bound` bytes. -/
theorem PostRecord.writeTo_length_le {post : PostRecord} {bound : ℕ} (h : post.InRange)
    (hbody : post.body.length ≤ bound) : post.writeTo.length ≤ 304 + bound := by
  obtain ⟨⟨hhandle, -⟩, ⟨htitle, -⟩, -⟩ := h
  rw [maxHandleLength] at hhandle
  rw [maxPostTitleLength] at htitle
  rw [post.writeTo_length]
  omega

/-- 500 of these are almost four frames, which is why a thread can be too long. -/
theorem CommentRecord.writeTo_length_le {comment : CommentRecord} (h : comment.InRange) :
    comment.writeTo.length ≤ 8298 := by
  obtain ⟨⟨hhandle, -⟩, hbody, -⟩ := h
  rw [maxHandleLength] at hhandle
  rw [maxCommentBodyLength] at hbody
  rw [comment.writeTo_length]
  omega

theorem ProfileRecord.writeTo_length_le {profile : ProfileRecord} (h : profile.InRange) :
    profile.writeTo.length ≤ 3300 := by
  obtain ⟨⟨hhandle, -⟩, ⟨hname, -⟩, ⟨hbio, -⟩, ⟨htheme, -⟩, hbanner, -⟩ := h
  rw [maxHandleLength] at hhandle
  rw [maxDisplayNameLength] at hname
  rw [maxBioLength] at hbio
  rw [maxThemeJsonLength] at htheme
  rw [maxBlobReferenceLength] at hbanner
  rw [profile.writeTo_length]
  omega

theorem FriendRecord.writeTo_length_le {friend : FriendRecord} (h : friend.InRange) :
    friend.writeTo.length ≤ 121 := by
  obtain ⟨⟨hhandle, -⟩, hname, -⟩ := h
  rw [maxHandleLength] at hhandle
  rw [maxDisplayNameLength] at hname
  rw [friend.writeTo_length]
  omega

/-! ## The replies within their caps -/

/-- A reply that its reader accepts, and that a frame can carry. -/
structure MessageKind.Readable (kind : MessageKind) (value : kind.Value) : Prop where
  fits : (kind.writeTo value).length ≤ maxPayloadSize
  read : ∃ reader, kind.readFrom (ByteReader.start (kind.writeTo value)) = (some value, reader) ∧
    reader.remaining = []

/-- What is in range is read back as it was written. -/
theorem MessageKind.readable_of_inRange {kind : MessageKind} {value : kind.Value}
    (hvalue : kind.InRange value) (hfits : (kind.writeTo value).length ≤ maxPayloadSize) :
    kind.Readable value := by
  have halone : (ByteReader.start (kind.writeTo value)).remaining = kind.writeTo value ++ [] := by
    rw [ByteReader.remaining_start, List.append_nil]
  exact ⟨hfits, kind.exact.complete hvalue halone⟩

theorem ForumInfoResponse.fits {response : ForumInfoResponse} (h : response.InRange) :
    response.writeTo.length ≤ maxPayloadSize := by
  rw [ForumInfoResponse.writeTo, List.flatten_singleton]
  exact (ForumRecord.writeTo_length_le h).trans (by decide)

/-- 200 forums with all texts at their caps are a third of a frame. -/
theorem ForumListResponse.fits {response : ForumListResponse} (h : response.InRange) :
    response.writeTo.length ≤ maxPayloadSize := by
  have hlist : (writeRecordList ForumRecord.writeTo response.forums).length ≤
      2 + maxListItems * 1684 :=
    writeRecordList_length_le h.1 fun forum hforum => ForumRecord.writeTo_length_le (h.2 forum hforum)
  rw [maxListItems] at hlist
  simp [ForumListResponse.writeTo, UnsignedInteger.size, maxPayloadSize, maxFrameSize,
    frameHeaderSize, frameLengthFieldSize, frameTypeFieldSize]
  omega

theorem PostInfoResponse.fits {response : PostInfoResponse} (h : response.InRange) :
    response.writeTo.length ≤ maxPayloadSize := by
  rw [PostInfoResponse.writeTo, List.flatten_singleton]
  exact (PostRecord.writeTo_length_le h h.2.2.1).trans (by decide)

/-- Whole posts would not fit: the bodies have to be previews. -/
theorem PostListResponse.fits {response : PostListResponse} (h : response.InRange)
    (hpreview : ∀ post ∈ response.posts, post.body.length ≤ 4 * maxPostPreviewLength) :
    response.writeTo.length ≤ maxPayloadSize := by
  have hlist : (writeRecordList PostRecord.writeTo response.posts).length ≤
      2 + maxListItems * (304 + 4 * maxPostPreviewLength) :=
    writeRecordList_length_le h.1 fun post hpost =>
      PostRecord.writeTo_length_le (h.2 post hpost) (hpreview post hpost)
  rw [maxListItems, maxPostPreviewLength] at hlist
  simp [PostListResponse.writeTo, UnsignedInteger.size, maxPayloadSize, maxFrameSize,
    frameHeaderSize, frameLengthFieldSize, frameTypeFieldSize]
  omega

theorem CommentInfoResponse.fits {response : CommentInfoResponse} (h : response.InRange) :
    response.writeTo.length ≤ maxPayloadSize := by
  rw [CommentInfoResponse.writeTo, List.flatten_singleton]
  exact (CommentRecord.writeTo_length_le h).trans (by decide)

theorem ProfileResponse.fits {response : ProfileResponse} (h : response.InRange) :
    response.writeTo.length ≤ maxPayloadSize := by
  rw [ProfileResponse.writeTo, List.flatten_singleton]
  exact (ProfileRecord.writeTo_length_le h).trans (by decide)

/-- 500 friends are far from a frame. -/
theorem FriendListResponse.fits {response : FriendListResponse} (h : response.InRange) :
    response.writeTo.length ≤ maxPayloadSize := by
  have hlist : (writeRecordList FriendRecord.writeTo response.friends).length ≤
      2 + maxFriendItems * 121 :=
    writeRecordList_length_le h.1 fun friend hfriend =>
      FriendRecord.writeTo_length_le (h.2 friend hfriend)
  rw [FriendListResponse.writeTo, List.flatten_singleton]
  exact hlist.trans (by decide)

theorem Top8Response.fits {response : Top8Response} (h : response.InRange) :
    response.writeTo.length ≤ maxPayloadSize := by
  have hlist : (writeRecordList FriendRecord.writeTo response.details).length ≤
      2 + top8SlotCount * 121 :=
    writeRecordList_length_le h.1 fun friend hfriend =>
      FriendRecord.writeTo_length_le (h.2 friend hfriend)
  have hslots : (writeSlotArray response.slots).length ≤ top8SlotCount * publicKeySize :=
    flatMap_length_le response.slots.2.le fun slot _ => slot.2.le
  rw [top8SlotCount] at hlist hslots
  rw [publicKeySize] at hslots
  simp [Top8Response.writeTo, maxPayloadSize, maxFrameSize, frameHeaderSize,
    frameLengthFieldSize, frameTypeFieldSize]
  omega

theorem PrekeyBundleResponse.fits (response : PrekeyBundleResponse) :
    response.writeTo.length ≤ maxPayloadSize := by
  simp [PrekeyBundleResponse.writeTo, UnsignedInteger.size, publicKeySize, signatureSize,
    maxPayloadSize, maxFrameSize, frameHeaderSize, frameLengthFieldSize, frameTypeFieldSize]

theorem MotdPush.fits {push : MotdPush} (h : push.InRange) : push.writeTo.length ≤ maxPayloadSize := by
  have hbody := h.1
  rw [maxMotdLength] at hbody
  simp [MotdPush.writeTo, UnsignedInteger.size, maxPayloadSize, maxFrameSize, frameHeaderSize,
    frameLengthFieldSize, frameTypeFieldSize]
  omega

end HyperCom
