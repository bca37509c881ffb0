import HyperCom.Lib.Schema
import HyperCom.Server.Announcements
import HyperCom.Server.GrownThread

/-!
# The constraints of the schema

`Tables.Integral` is what the migrations declare: unique keys, handles (whatever their
case) and names, one prekey and one profile an account, one row a friendship and a
slot of a top 8, ids that AUTOINCREMENT gave out, and references that lead somewhere.
SQLite checks a row when it is written; that the rows which stay keep their constraints
is for the statements to see to, whichever of them fail (`schema_constraints_hold`).

`Lib.Schema` has the three kinds of constraint, each with what an insertion, an update and a
deletion need to keep it: a key is unique, a reference leads somewhere, and ids are numbered
below a sequence that only grows. The module says which statement needs which of them, then
takes one case for each statement of `RowWrite`.

A failing statement is no special case: it leaves the tables as they were, or as they were
when the transaction began, and both are states the invariant held in.
-/

namespace HyperCom

open BinaryCodec RowStore

/-! ## The constraints -/

section Keys

variable (tables : Tables)

/-- The ids that references lead to. -/
def Tables.userIds : List ℤ := tables.users.map UserRow.id

def Tables.forumIds : List ℤ := tables.forums.map ForumRow.id

def Tables.postIds : List ℤ := tables.posts.map PostRow.id

def Tables.commentIds : List ℤ := tables.comments.map CommentRow.id

end Keys

/-- The post a report is about. -/
def ReportTarget.postId : ReportTarget → Option ℤ
  | .post postId => some postId
  | .account _ => none

/-- The tables as the migrations want them. -/
structure Tables.Integral (tables : Tables) : Prop where
  /-- AUTOINCREMENT: ids are given out once, also after a deletion -/
  userId : Numbered UserRow.id maxRowid tables.users tables.usersSequence
  /-- `UNIQUE`, as the primary keys below -/
  userKey : Unique UserRow.pubkey tables.users
  /-- `COLLATE NOCASE`: the folded handles differ -/
  userHandle : Unique (fun user => foldCase user.handle) tables.users
  prekeyKey : Unique PrekeyRow.userId tables.prekeys
  /-- `REFERENCES users`, as every `…User` and `…Author` below -/
  prekeyUser : Refers (fun row => some row.userId) tables.prekeys tables.userIds
  forumId : Numbered ForumRow.id maxRowid tables.forums tables.forumsSequence
  forumName : Unique ForumRow.name tables.forums
  forumFounder : Refers (fun row => some row.founderId) tables.forums tables.userIds
  postId : Numbered PostRow.id maxRowid tables.posts tables.postsSequence
  postForum : Refers (fun row => some row.forumId) tables.posts tables.forumIds
  postAuthor : Refers (fun row => some row.authorId) tables.posts tables.userIds
  commentId : Numbered CommentRow.id maxRowid tables.comments tables.commentsSequence
  commentPost : Refers (fun row => some row.postId) tables.comments tables.postIds
  /-- `NULL` for a comment on the post itself -/
  commentParent : Refers CommentRow.parentCommentId tables.comments tables.commentIds
  commentAuthor : Refers (fun row => some row.authorId) tables.comments tables.userIds
  profileKey : Unique ProfileRow.userId tables.profiles
  profileUser : Refers (fun row => some row.userId) tables.profiles tables.userIds
  friendKey : Unique (fun row : FriendRow => (row.userId, row.friendId)) tables.friends
  friendUser : Refers (fun row => some row.userId) tables.friends tables.userIds
  friendFriend : Refers (fun row => some row.friendId) tables.friends tables.userIds
  /-- `CHECK (user_id <> friend_id)` -/
  friendOther : ∀ row ∈ tables.friends, row.userId ≠ row.friendId
  top8Key : Unique (fun row : Top8Row => (row.userId, row.slot)) tables.top8
  /-- `CHECK (slot BETWEEN 0 AND 7)` -/
  top8Slot : ∀ row ∈ tables.top8, row.slot < top8SlotCount
  top8User : Refers (fun row => some row.userId) tables.top8 tables.userIds
  top8Friend : Refers (fun row => some row.friendId) tables.top8 tables.userIds
  envelopeId : Numbered DmEnvelopeRow.id maxRowid tables.dmEnvelopes tables.dmEnvelopesSequence
  /-- the sender is a key, not a reference -/
  envelopeRecipient : Refers (fun row => some row.recipientId) tables.dmEnvelopes tables.userIds
  reportId : Numbered ReportRow.id maxRowid tables.reports tables.reportsSequence
  reportReporter : Refers (fun row => some row.reporterId) tables.reports tables.userIds
  /-- a report on an account names a key, and refers to no post -/
  reportPost : Refers (fun row => row.target.postId) tables.reports tables.postIds

/-- The check a statement makes before it refers to an account. -/
theorem Tables.mem_userIds {tables : Tables} {id : ℤ} (h : tables.hasUser id = true) :
    id ∈ tables.userIds := by
  obtain ⟨user, hmem, rfl⟩ := Tables.hasUser_iff.mp h
  exact List.mem_map_of_mem hmem

/-! ## What SQLite checks -/

section Checks

variable {before after : Tables} {id : ℤ} {now : UInt64}

/-- What a successful statement has checked: `UNIQUE` on the key and on the folded handle, -/
theorem insertUserRow_fresh {pubkey : WirePublicKey} {handle : ByteString}
    (h : insertUserRow pubkey handle before = some (id, after)) :
    ∀ user ∈ before.users, user.pubkey ≠ pubkey ∧ foldCase user.handle ≠ foldCase handle := by
  rw [insertUserRow] at h
  split_ifs at h with hnone
  rw [Bool.not_eq_true, List.any_eq_false] at hnone
  intro user hmem
  have huser := hnone user hmem
  rw [Bool.or_eq_true, decide_eq_true_eq, decide_eq_true_eq, not_or] at huser
  exact huser

/-- `UNIQUE` on the name, -/
theorem insertForumRow_fresh {founderId : ℤ} {name description themeJson : ByteString}
    (h : insertForumRow founderId name description themeJson now before = some (id, after)) :
    ∀ forum ∈ before.forums, forum.name ≠ name := by
  rw [insertForumRow] at h
  split_ifs at h with hrefused
  rw [Bool.or_eq_true, not_or, Bool.not_eq_true, List.any_eq_false] at hrefused
  exact fun forum hmem hname => hrefused.1 forum hmem (decide_eq_true hname)

/-- and that the row it refers to is there. -/
theorem insertPostRow_forum {forumId authorId : ℤ} {title body : ByteString}
    (h : insertPostRow forumId authorId title body now before = some (id, after)) :
    forumId ∈ before.forumIds := by
  rw [insertPostRow] at h
  split_ifs at h with hrefused
  simp only [Bool.or_eq_true, Bool.not_eq_true', not_or, Bool.not_eq_false] at hrefused
  obtain ⟨forum, hmem, hid⟩ := List.any_eq_true.mp hrefused.1
  rw [← of_decide_eq_true hid]
  exact List.mem_map_of_mem hmem

/-- A comment refers to its post, its author and, if it has one, its parent. -/
theorem insertCommentRow_post {postId parentCommentId authorId : ℤ} {body : ByteString}
    (h : insertCommentRow postId parentCommentId authorId body now before = some (id, after)) :
    postId ∈ before.postIds ∧
      ∀ parentId ∈ (if parentCommentId = 0 then none else some parentCommentId),
        parentId ∈ before.commentIds := by
  rw [insertCommentRow] at h
  generalize (if parentCommentId = 0 then none else some parentCommentId) = parent at h ⊢
  split_ifs at h with hrefused
  simp only [Bool.or_eq_true, Bool.not_eq_true', not_or, Bool.not_eq_false] at hrefused
  obtain ⟨⟨hpost, -⟩, hparent⟩ := hrefused
  obtain ⟨post, hmem, hid⟩ := List.any_eq_true.mp hpost
  refine ⟨of_decide_eq_true hid ▸ List.mem_map_of_mem hmem, ?_⟩
  rintro parentId rfl
  obtain ⟨comment, hcomment, hsame⟩ := List.any_eq_true.mp hparent
  rw [← of_decide_eq_true hsame]
  exact List.mem_map_of_mem hcomment

/-- Mail has a recipient with an account, -/
theorem insertEnvelopeRow_recipient {recipientId : ℤ} {senderPubkey : WirePublicKey}
    {ciphertext : ByteString}
    (h : insertEnvelopeRow recipientId senderPubkey ciphertext before = some (id, after)) :
    recipientId ∈ before.userIds := by
  rw [insertEnvelopeRow] at h
  split_ifs at h with hnone
  rw [Bool.not_eq_true', Bool.not_eq_false] at hnone
  exact Tables.mem_userIds hnone

/-- and a prekey an owner with one. -/
theorem upsertPrekeyRow_user {userId : ℤ} {prekey : WirePublicKey} {signature : WireSignature}
    {result : Unit}
    (h : upsertPrekeyRow userId prekey signature now before = some (result, after)) :
    userId ∈ before.userIds := by
  rw [upsertPrekeyRow] at h
  split_ifs at h with hnone
  rw [Bool.not_eq_true', Bool.not_eq_false] at hnone
  exact Tables.mem_userIds hnone

/-- Both ends of a friendship have accounts, and are not the same account. -/
theorem upsertFriendRow_users {userId friendId : ℤ} {status : FriendshipStatus} {result : Unit}
    (h : upsertFriendRow userId friendId status before = some (result, after)) :
    userId ≠ friendId ∧ userId ∈ before.userIds ∧ friendId ∈ before.userIds := by
  rw [upsertFriendRow] at h
  split_ifs at h with hrefused
  simp only [Bool.or_eq_true, decide_eq_true_eq, Bool.not_eq_true', not_or,
    Bool.not_eq_false] at hrefused
  obtain ⟨⟨hother, huser⟩, hfriend⟩ := hrefused
  exact ⟨hother, Tables.mem_userIds huser, Tables.mem_userIds hfriend⟩

/-- `slot` is below 8 by a `CHECK`, and no slot is taken twice. -/
theorem insertTop8Row_users {userId : ℤ} {entry : Top8Entry} {result : Unit}
    (h : insertTop8Row userId entry before = some (result, after)) :
    userId ∈ before.userIds ∧ entry.friendId ∈ before.userIds := by
  rw [insertTop8Row] at h
  split at h
  · cases h
  next hrefused =>
  simp only [Bool.or_eq_true, Bool.not_eq_true', not_or, Bool.not_eq_false] at hrefused
  exact ⟨Tables.mem_userIds hrefused.1.2, Tables.mem_userIds hrefused.2⟩

/-- What is reported exists, and so does who reports. -/
theorem insertReportRow_checked {target : ReportTarget} {reporterId : ℤ} {reason : ByteString}
    {result : Unit} (h : insertReportRow target reporterId reason now before = some (result, after)) :
    reporterId ∈ before.userIds ∧ (∀ postId ∈ target.postId, postId ∈ before.postIds) ∧
      ∃ id, nextRowid before.reportsSequence = some id ∧ after = { before with
        reports := before.reports ++
          [{ id, target, reporterId, reason, createdAt := castInt64 now }]
        reportsSequence := id } := by
  rw [insertReportRow.eq_def] at h
  dsimp only at h
  split_ifs at h with hrefused
  simp only [Bool.or_eq_true, Bool.not_eq_true', not_or, Bool.not_eq_false] at hrefused
  obtain ⟨hknown, hreporter⟩ := hrefused
  refine ⟨Tables.mem_userIds hreporter, ?_, ?_⟩
  · cases target with
    | account =>
      intro _ hnone
      cases hnone
    | post postId =>
      intro reported hreported
      obtain rfl : postId = reported := Option.some.inj hreported
      obtain ⟨post, hmem, hid⟩ := List.any_eq_true.mp hknown
      rw [← of_decide_eq_true hid]
      exact List.mem_map_of_mem hmem
  · rcases hnext : nextRowid before.reportsSequence with _ | id
    · rw [hnext] at h
      cases h
    · rw [hnext] at h
      exact ⟨id, rfl, (Prod.mk.inj (Option.some.inj h)).2.symm⟩

end Checks

/-! ## The statements -/

/-- A reference that is not `NULL`. -/
theorem mem_some {κ : Type} {key : κ} {keys : List κ} (h : key ∈ keys) :
    ∀ other ∈ some key, other ∈ keys := by
  intro other hother
  obtain rfl : key = other := Option.some.inj hother
  exact h

namespace Tables.Integral

variable {before after : Tables}

/-- The accounts may change as long as none is lost. -/
theorem withUsers (h : before.Integral) {users : List UserRow} {usersSequence : ℤ}
    (userId : Numbered UserRow.id maxRowid users usersSequence) (userKey : Unique UserRow.pubkey users)
    (userHandle : Unique (fun user => foldCase user.handle) users)
    (hkept : ∀ id ∈ before.userIds, id ∈ users.map UserRow.id) :
    Tables.Integral { before with users, usersSequence } :=
  { h with
    userId, userKey, userHandle
    prekeyUser := h.prekeyUser.mono hkept
    forumFounder := h.forumFounder.mono hkept
    postAuthor := h.postAuthor.mono hkept
    commentAuthor := h.commentAuthor.mono hkept
    profileUser := h.profileUser.mono hkept
    friendUser := h.friendUser.mono hkept
    friendFriend := h.friendFriend.mono hkept
    top8User := h.top8User.mono hkept
    top8Friend := h.top8Friend.mono hkept
    envelopeRecipient := h.envelopeRecipient.mono hkept
    reportReporter := h.reportReporter.mono hkept }

/-- One case for each statement. Only the constraints on the table it writes have to be
shown again. -/
theorem user (h : before.Integral) {pubkey : WirePublicKey} {handle : ByteString} {id : ℤ}
    (written : insertUserRow pubkey handle before = some (id, after)) : after.Integral := by
  have hfresh := insertUserRow_fresh written
  obtain ⟨hid, rfl⟩ := insertUserRow_some written
  obtain ⟨hnext, hroom⟩ := nextRowid_eq_some hid
  refine h.withUsers (h.userId.append hnext hroom)
    (h.userKey.append fun user hmem => (hfresh user hmem).1)
    (h.userHandle.append fun user hmem => (hfresh user hmem).2) fun id hmem => ?_
  exact key_mem_append hmem

/-- A flag is in no constraint. -/
theorem banned (h : before.Integral) {userId : ℤ} {banned : Bool}
    (written : updateBannedFlag userId banned before = some ((), after)) : after.Integral := by
  obtain ⟨-, rfl⟩ := Prod.mk.inj (Option.some.inj written)
  refine h.withUsers (h.userId.update fun _ => rfl) (h.userKey.update fun _ => rfl)
    (h.userHandle.update fun _ => rfl) fun id hmem => ?_
  exact key_mem_update (fun _ => rfl) hmem

/-- An upsert meets the row of its account or adds it. -/
theorem profile (h : before.Integral) {userId : ℤ} {request : ProfileSetRequest}
    (written : upsertProfileRow userId request before = some ((), after)) : after.Integral := by
  obtain ⟨huser, rfl⟩ := upsertProfileRow_some written
  exact { h with
    profileKey := h.profileKey.upsert fun _ => decide_eq_true_iff
    profileUser := h.profileUser.upsert (mem_some (Tables.mem_userIds huser)) }

/-- The same for the prekey of an account. -/
theorem prekey (h : before.Integral) {userId : ℤ} {prekey : WirePublicKey}
    {signature : WireSignature} {now : UInt64}
    (written : upsertPrekeyRow userId prekey signature now before = some ((), after)) :
    after.Integral := by
  have huser := upsertPrekeyRow_user written
  obtain rfl := upsertPrekeyRow_some written
  exact { h with
    prekeyKey := h.prekeyKey.upsert fun _ => decide_eq_true_iff
    prekeyUser := h.prekeyUser.upsert (mem_some huser) }

/-- A pair of accounts is the key, and both ends were checked. -/
theorem friend (h : before.Integral) {userId friendId : ℤ} {status : FriendshipStatus}
    (written : upsertFriendRow userId friendId status before = some ((), after)) :
    after.Integral := by
  obtain ⟨hother, huser, hfriend⟩ := upsertFriendRow_users written
  obtain rfl := upsertFriendRow_some written
  refine { h with
    friendKey := h.friendKey.upsert fun row => ?_
    friendUser := h.friendUser.upsert (mem_some huser)
    friendFriend := h.friendFriend.upsert (mem_some hfriend)
    friendOther := ?_ }
  · simp only [Bool.and_eq_true, decide_eq_true_eq, Prod.mk.injEq]
  · exact forall_mem_upsert h.friendOther hother

/-- Two constraints at once: the name is new, and the founder is there. -/
theorem forum (h : before.Integral) {founderId id : ℤ} {name description themeJson : ByteString}
    {now : UInt64}
    (written : insertForumRow founderId name description themeJson now before = some (id, after)) :
    after.Integral := by
  have hfresh := insertForumRow_fresh written
  obtain ⟨hfounder, hid, rfl⟩ := insertForumRow_some written
  obtain ⟨hnext, hroom⟩ := nextRowid_eq_some hid
  exact { h with
    forumId := h.forumId.append hnext hroom
    forumName := h.forumName.append hfresh
    forumFounder := h.forumFounder.append (mem_some (Tables.mem_userIds hfounder))
    postForum := h.postForum.mono fun _ hmem => key_mem_append hmem }

/-- The posts may change as long as none is lost. -/
theorem withPosts (h : before.Integral) {posts : List PostRow} {postsSequence : ℤ}
    (postId : Numbered PostRow.id maxRowid posts postsSequence)
    (postForum : Refers (fun row => some row.forumId) posts before.forumIds)
    (postAuthor : Refers (fun row => some row.authorId) posts before.userIds)
    (hkept : ∀ id ∈ before.postIds, id ∈ posts.map PostRow.id) :
    Tables.Integral { before with posts, postsSequence } :=
  { h with
    postId, postForum, postAuthor
    commentPost := h.commentPost.mono hkept
    reportPost := h.reportPost.mono hkept }

/-- The forum and the author were checked; the id is the next of the sequence. -/
theorem post (h : before.Integral) {forumId authorId id : ℤ} {title body : ByteString} {now : UInt64}
    (written : insertPostRow forumId authorId title body now before = some (id, after)) :
    after.Integral := by
  have hforum := insertPostRow_forum written
  obtain ⟨hauthor, hid, rfl⟩ := insertPostRow_some written
  obtain ⟨hnext, hroom⟩ := nextRowid_eq_some hid
  exact h.withPosts (h.postId.append hnext hroom) (h.postForum.append (mem_some hforum))
    (h.postAuthor.append (mem_some (Tables.mem_userIds hauthor))) fun _ hmem => key_mem_append hmem

/-- Emptied posts are still there. -/
theorem postsEmptied (h : before.Integral) (selected : PostRow → Bool) (deletedAt : ℤ) :
    Tables.Integral { before with
      posts := updateWhere selected
        (fun post => { post with title := [], body := [], deletedAt := some deletedAt })
        before.posts } :=
  h.withPosts (h.postId.update fun _ => rfl) (h.postForum.update fun _ => rfl)
    (h.postAuthor.update fun _ => rfl) fun _ hmem => key_mem_update (fun _ => rfl) hmem

/-- The parent was there before, so no comment refers to itself or to a later one. -/
theorem comment (h : before.Integral) {postId parentCommentId authorId id : ℤ} {body : ByteString}
    {now : UInt64} (written : insertCommentRow postId parentCommentId authorId body now before =
      some (id, after)) : after.Integral := by
  obtain ⟨hpost, hparent⟩ := insertCommentRow_post written
  obtain ⟨hauthor, hid, rfl⟩ := insertCommentRow_some written
  obtain ⟨hnext, hroom⟩ := nextRowid_eq_some hid
  exact { h with
    commentId := h.commentId.append hnext hroom
    commentPost := h.commentPost.append (mem_some hpost)
    commentParent := (h.commentParent.append hparent).mono fun _ hmem => key_mem_append hmem
    commentAuthor := h.commentAuthor.append (mem_some (Tables.mem_userIds hauthor)) }

/-- An emptied comment keeps its place in the thread, so what answers it still refers to it. -/
theorem commentErased (h : before.Integral) {commentId authorId : ℤ} {now : UInt64} {changed : ℕ}
    (written : eraseCommentRow commentId authorId now before = some (changed, after)) :
    after.Integral := by
  obtain ⟨-, rfl⟩ := Prod.mk.inj (Option.some.inj written)
  refine { h with
    commentId := h.commentId.update fun _ => rfl
    commentPost := h.commentPost.update fun _ => rfl
    commentParent := (h.commentParent.mono fun _ hmem => key_mem_update ?_ hmem).update ?_
    commentAuthor := h.commentAuthor.update fun _ => rfl }
  · exact fun _ => rfl
  · exact fun _ => rfl

/-- Sender and recipient: only the recipient is a reference, the sender is a key. -/
theorem envelope (h : before.Integral) {recipientId id : ℤ} {senderPubkey : WirePublicKey}
    {ciphertext : ByteString}
    (written : insertEnvelopeRow recipientId senderPubkey ciphertext before = some (id, after)) :
    after.Integral := by
  have hrecipient := insertEnvelopeRow_recipient written
  obtain ⟨hid, rfl⟩ := insertEnvelopeRow_some written
  obtain ⟨hnext, hroom⟩ := nextRowid_eq_some hid
  exact { h with
    envelopeId := h.envelopeId.append hnext hroom
    envelopeRecipient := h.envelopeRecipient.append (mem_some hrecipient) }

/-- The slot was free, and within the list. -/
theorem top8 (h : before.Integral) {userId : ℤ} {entry : Top8Entry}
    (written : insertTop8Row userId entry before = some ((), after)) : after.Integral := by
  obtain ⟨huser, hfriend⟩ := insertTop8Row_users written
  obtain ⟨hfresh, hslot, rfl⟩ := insertTop8Row_some written
  exact { h with
    top8Key := h.top8Key.append fun row hrow hsame => hfresh row hrow (Prod.mk.inj hsame)
    top8Slot := forall_mem_append_singleton h.top8Slot hslot
    top8User := h.top8User.append (mem_some huser)
    top8Friend := h.top8Friend.append (mem_some hfriend) }

/-- Reports are numbered, and refer to who filed them and perhaps to a post. -/
theorem report (h : before.Integral) {target : ReportTarget} {reporterId : ℤ} {reason : ByteString}
    {now : UInt64}
    (written : insertReportRow target reporterId reason now before = some ((), after)) :
    after.Integral := by
  obtain ⟨hreporter, hpost, id, hid, rfl⟩ := insertReportRow_checked written
  obtain ⟨hnext, hroom⟩ := nextRowid_eq_some hid
  exact { h with
    reportId := h.reportId.append hnext hroom
    reportReporter := h.reportReporter.append (mem_some hreporter)
    reportPost := h.reportPost.append hpost }

/-- One case for each statement. -/
theorem step (h : before.Integral) (hwrite : RowWrite before after) : after.Integral := by
  cases hwrite with
  | user _ written => exact h.user written
  | banned written => exact h.banned written
  | profile _ written => exact h.profile written
  | forum _ written => exact h.forum written
  | post _ written => exact h.post written
  | comment _ _ written => exact h.comment written
  | commentErased written => exact h.commentErased written
  | envelope _ written => exact h.envelope written
  | friend written => exact h.friend written
  | top8 written => exact h.top8 written
  | prekey written => exact h.prekey written
  | report written => exact h.report written
  | postErased written =>
    obtain ⟨-, rfl⟩ := Prod.mk.inj (Option.some.inj written)
    exact h.postsEmptied _ _
  | postErasedByAdmin written =>
    obtain ⟨-, rfl⟩ := Prod.mk.inj (Option.some.inj written)
    exact h.postsEmptied _ _
  | envelopeDeleted written =>
    obtain ⟨-, rfl⟩ := Prod.mk.inj (Option.some.inj written)
    exact { h with
      envelopeId := h.envelopeId.delete
      envelopeRecipient := h.envelopeRecipient.delete }
  | top8Deleted written =>
    obtain ⟨-, rfl⟩ := Prod.mk.inj (Option.some.inj written)
    exact { h with
      top8Key := h.top8Key.delete
      top8Slot := fun row hrow => h.top8Slot row (List.mem_of_mem_filter hrow)
      top8User := h.top8User.delete
      top8Friend := h.top8Friend.delete }
  | reportDeleted written =>
    obtain ⟨-, rfl⟩ := Prod.mk.inj (Option.some.inj written)
    exact { h with
      reportId := h.reportId.delete
      reportReporter := h.reportReporter.delete
      reportPost := h.reportPost.delete }
  | motdDeactivated written =>
    obtain ⟨-, rfl⟩ := Prod.mk.inj (Option.some.inj written)
    exact { h with }
  | motd _ written =>
    obtain ⟨_, rfl⟩ := insertMotdRow_some written
    exact { h with }

/-- And so for all that a request or a command writes. -/
theorem writes (h : before.Integral) (hwrites : Writes before after) : after.Integral :=
  Writes.keep (fun hwrite hbefore => hbefore.step hwrite) hwrites h

/-- There is nothing in an empty database that could be wrong. -/
theorem empty : Tables.Integral {} where
  userId := .nil
  userKey := .nil
  userHandle := .nil
  prekeyKey := .nil
  prekeyUser := .nil
  forumId := .nil
  forumName := .nil
  forumFounder := .nil
  postId := .nil
  postForum := .nil
  postAuthor := .nil
  commentId := .nil
  commentPost := .nil
  commentParent := .nil
  commentAuthor := .nil
  profileKey := .nil
  profileUser := .nil
  friendKey := .nil
  friendUser := .nil
  friendFriend := .nil
  friendOther := fun _ hmem => absurd hmem List.not_mem_nil
  top8Key := .nil
  top8Slot := fun _ hmem => absurd hmem List.not_mem_nil
  top8User := .nil
  top8Friend := .nil
  envelopeId := .nil
  envelopeRecipient := .nil
  reportId := .nil
  reportReporter := .nil
  reportPost := .nil

end Tables.Integral

/-- Every state of the database is between the empty one and the last statement. -/
theorem ReachableTables.integral [Sodium] {tables : Tables} (h : ReachableTables tables) :
    tables.Integral :=
  Tables.Integral.empty.writes h.writes

/-- Whatever clients and the console ask for, and whichever statements fail, the tables
are as the migrations declare them. -/
theorem schema_constraints_hold [Sodium] {tables : Tables} (h : ReachableTables tables) :
    tables.Integral ∧ tables.MotdSound :=
  ⟨h.integral, h.motdSound⟩

/-- An account, its forum and its post. -/
theorem schema_constraints_hold_openedPost : openedPost.Integral ∧ openedPost.MotdSound :=
  let := transparentSodium
  schema_constraints_hold openedPost_reachable

end HyperCom
