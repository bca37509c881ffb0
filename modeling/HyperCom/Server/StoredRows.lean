import HyperCom.Protocol.TextFields
import HyperCom.Server.TableWrites

/-!
# What the stored rows are like

The invariants of the tables a server can reach. `TextsInRange` says that every
text a reply is made of is one its reader accepts, and that a top 8 has a slot only
once; `CommentsInOrder` that comments have ascending ids, authors with an account
and parents under the same post that are older than themselves; `PostsInOrder` and
`PostsAuthored` the same of posts. Each takes one case for each statement of
`RowWrite`.

The invariants are inductive one statement at a time, and the statements are few: for
accounts and for content they are gathered in `AccountWrite` and `ContentWrite`, so that a
statement on another table is one case and not ten.

They are what the replies rest on. A text that is stored went through the reader of the
request that brought it, whose cap is that of the reply; and a thread is a forest because
parents have smaller ids (`ThreadOrder`).
-/

namespace HyperCom

open BinaryCodec RowStore

/-! ## The accounts -/

/-- An account that exists is found. -/
theorem Tables.userOf_isSome {tables : Tables} {id : ℤ} (h : tables.hasUser id = true) :
    (tables.userOf id).isSome = true := by
  obtain ⟨user, hmem, hid⟩ := Tables.hasUser_iff.mp h
  rw [Tables.userOf, List.find?_isSome]
  exact ⟨user, hmem, decide_eq_true hid⟩

/-- What a statement does to the accounts. -/
inductive AccountWrite (before : Tables) : Tables → Prop where
  /-- a statement on another table -/
  | kept {after : Tables} (users : after.users = before.users)
      (usersSequence : after.usersSequence = before.usersSequence) : AccountWrite before after
  | created {after : Tables} {pubkey : WirePublicKey} {handle : ByteString} {id : ℤ}
      (written : insertUserRow pubkey handle before = some (id, after)) : AccountWrite before after
  | banned {after : Tables} {userId : ℤ} {banned : Bool}
      (written : updateBannedFlag userId banned before = some ((), after)) :
      AccountWrite before after

/-- All other statements leave the accounts alone. -/
theorem RowWrite.account {before after : Tables} (h : RowWrite before after) :
    AccountWrite before after := by
  cases h with
  | user _ written => exact .created written
  | banned written => exact .banned written
  | profile _ written =>
    obtain ⟨-, rfl⟩ := upsertProfileRow_some written
    exact .kept rfl rfl
  | forum _ written =>
    obtain ⟨-, -, rfl⟩ := insertForumRow_some written
    exact .kept rfl rfl
  | post _ written =>
    obtain ⟨-, -, rfl⟩ := insertPostRow_some written
    exact .kept rfl rfl
  | comment _ _ written =>
    obtain ⟨-, -, rfl⟩ := insertCommentRow_some written
    exact .kept rfl rfl
  | envelope _ written =>
    obtain ⟨-, rfl⟩ := insertEnvelopeRow_some written
    exact .kept rfl rfl
  | friend written =>
    obtain rfl := upsertFriendRow_some written
    exact .kept rfl rfl
  | top8 written =>
    obtain ⟨-, -, rfl⟩ := insertTop8Row_some written
    exact .kept rfl rfl
  | prekey written =>
    obtain rfl := upsertPrekeyRow_some written
    exact .kept rfl rfl
  | report written =>
    obtain ⟨_, rfl⟩ := insertReportRow_some written
    exact .kept rfl rfl
  | motd _ written =>
    obtain ⟨_, rfl⟩ := insertMotdRow_some written
    exact .kept rfl rfl
  | postErased written | postErasedByAdmin written | commentErased written
  | envelopeDeleted written | top8Deleted written | reportDeleted written
  | motdDeactivated written =>
    obtain ⟨-, rfl⟩ := Prod.mk.inj (Option.some.inj written)
    exact .kept rfl rfl

/-- Accounts are never removed. -/
theorem RowWrite.hasUser {before after : Tables} (h : RowWrite before after) {id : ℤ}
    (hid : before.hasUser id = true) : after.hasUser id = true := by
  obtain ⟨user, hmem, hsame⟩ := Tables.hasUser_iff.mp hid
  cases h.account with
  | kept users =>
    rw [Tables.hasUser, users]
    exact hid
  | created written =>
    obtain ⟨-, rfl⟩ := insertUserRow_some written
    exact Tables.hasUser_iff.mpr ⟨user, List.mem_append_left _ hmem, hsame⟩
  | banned written =>
    obtain ⟨-, rfl⟩ := Prod.mk.inj (Option.some.inj written)
    refine Tables.hasUser_iff.mpr ⟨_, List.mem_map_of_mem hmem, ?_⟩
    split
    · exact hsame
    · exact hsame

/-- The accounts, as AUTOINCREMENT leaves them. -/
def Tables.UsersInOrder (tables : Tables) : Prop :=
  Numbered UserRow.id maxRowid tables.users tables.usersSequence

/-- A registration takes the next id; a ban changes a flag. -/
theorem Tables.UsersInOrder.step {before after : Tables} (h : before.UsersInOrder)
    (hwrite : RowWrite before after) : after.UsersInOrder := by
  cases hwrite.account with
  | kept users sequence =>
    rw [Tables.UsersInOrder, users, sequence]
    exact h
  | created written =>
    obtain ⟨hid, rfl⟩ := insertUserRow_some written
    obtain ⟨hnext, hroom⟩ := nextRowid_eq_some hid
    exact Numbered.append h hnext hroom
  | banned written =>
    obtain ⟨-, rfl⟩ := Prod.mk.inj (Option.some.inj written)
    exact Numbered.update h fun _ => rfl

/-- So it is in every state the server can reach. -/
theorem ReachableTables.usersInOrder [Sodium] {tables : Tables} (h : ReachableTables tables) :
    tables.UsersInOrder :=
  h.keep Numbered.nil fun hwrite h => h.step hwrite

/-! ## The posts -/

/-- What a statement does to the posts and the comments. -/
inductive ContentWrite (before : Tables) : Tables → Prop where
  /-- a statement on another table -/
  | kept {after : Tables} (posts : after.posts = before.posts)
      (comments : after.comments = before.comments)
      (postsSequence : after.postsSequence = before.postsSequence)
      (commentsSequence : after.commentsSequence = before.commentsSequence) :
      ContentWrite before after
  | post {after : Tables} {forumId authorId id : ℤ} {title body : ByteString} {now : UInt64}
      (written : insertPostRow forumId authorId title body now before = some (id, after)) :
      ContentWrite before after
  | postErased {after : Tables} {postId authorId : ℤ} {now : UInt64} {changed : ℕ}
      (written : erasePostRow postId authorId now before = some (changed, after)) :
      ContentWrite before after
  | postErasedByAdmin {after : Tables} {postId : ℤ} {now : UInt64} {changed : ℕ}
      (written : adminErasePostRow postId now before = some (changed, after)) :
      ContentWrite before after
  | comment {after : Tables} {postId parentCommentId authorId id : ℤ} {body : ByteString}
      {now : UInt64} (parent : before.AcceptsParent postId parentCommentId)
      (written : insertCommentRow postId parentCommentId authorId body now before =
        some (id, after)) : ContentWrite before after
  | commentErased {after : Tables} {commentId authorId : ℤ} {now : UInt64} {changed : ℕ}
      (written : eraseCommentRow commentId authorId now before = some (changed, after)) :
      ContentWrite before after

/-- All other statements leave posts and comments alone. -/
theorem RowWrite.content {before after : Tables} (h : RowWrite before after) :
    ContentWrite before after := by
  cases h with
  | post _ written => exact .post written
  | postErased written => exact .postErased written
  | postErasedByAdmin written => exact .postErasedByAdmin written
  | comment _ parent written => exact .comment parent written
  | commentErased written => exact .commentErased written
  | user _ written =>
    obtain ⟨-, rfl⟩ := insertUserRow_some written
    exact .kept rfl rfl rfl rfl
  | profile _ written =>
    obtain ⟨-, rfl⟩ := upsertProfileRow_some written
    exact .kept rfl rfl rfl rfl
  | forum _ written =>
    obtain ⟨-, -, rfl⟩ := insertForumRow_some written
    exact .kept rfl rfl rfl rfl
  | envelope _ written =>
    obtain ⟨-, rfl⟩ := insertEnvelopeRow_some written
    exact .kept rfl rfl rfl rfl
  | friend written =>
    obtain rfl := upsertFriendRow_some written
    exact .kept rfl rfl rfl rfl
  | top8 written =>
    obtain ⟨-, -, rfl⟩ := insertTop8Row_some written
    exact .kept rfl rfl rfl rfl
  | prekey written =>
    obtain rfl := upsertPrekeyRow_some written
    exact .kept rfl rfl rfl rfl
  | report written =>
    obtain ⟨_, rfl⟩ := insertReportRow_some written
    exact .kept rfl rfl rfl rfl
  | motd _ written =>
    obtain ⟨_, rfl⟩ := insertMotdRow_some written
    exact .kept rfl rfl rfl rfl
  | banned written | envelopeDeleted written | top8Deleted written | reportDeleted written
  | motdDeactivated written =>
    obtain ⟨-, rfl⟩ := Prod.mk.inj (Option.some.inj written)
    exact .kept rfl rfl rfl rfl

/-- Every post has an author with an account. -/
def Tables.PostsAuthored (tables : Tables) : Prop :=
  ∀ post ∈ tables.posts, tables.hasUser post.authorId = true

/-- An account is never removed, so only a new post matters. -/
theorem Tables.PostsAuthored.step {before after : Tables} (h : before.PostsAuthored)
    (hwrite : RowWrite before after) : after.PostsAuthored := by
  intro row hrow
  refine hwrite.hasUser ?_
  cases hwrite.content with
  | kept posts =>
    rw [posts] at hrow
    exact h row hrow
  | post written =>
    obtain ⟨hauthor, -, rfl⟩ := insertPostRow_some written
    rcases List.mem_append.mp hrow with hold | hnew
    · exact h row hold
    · rw [List.mem_singleton.mp hnew]
      exact hauthor
  | postErased written | postErasedByAdmin written =>
    obtain ⟨-, rfl⟩ := Prod.mk.inj (Option.some.inj written)
    obtain ⟨old, hold, rfl⟩ := List.mem_map.mp hrow
    split <;> exact h old hold
  | comment _ written =>
    obtain ⟨-, -, rfl⟩ := insertCommentRow_some written
    exact h row hrow
  | commentErased written =>
    obtain ⟨-, rfl⟩ := Prod.mk.inj (Option.some.inj written)
    exact h row hrow

/-- Every post has an author with an account. -/
theorem ReachableTables.postsAuthored [Sodium] {tables : Tables} (h : ReachableTables tables) :
    tables.PostsAuthored :=
  h.keep (fun _ hmem => absurd hmem List.not_mem_nil) fun hwrite h => h.step hwrite

/-- The posts, as AUTOINCREMENT leaves them. -/
def Tables.PostsInOrder (tables : Tables) : Prop :=
  Numbered PostRow.id maxRowid tables.posts tables.postsSequence

/-- A post takes the next id, and an emptied one keeps its own. -/
theorem Tables.PostsInOrder.step {before after : Tables} (h : before.PostsInOrder)
    (hwrite : RowWrite before after) : after.PostsInOrder := by
  cases hwrite.content with
  | kept posts _ sequence =>
    rw [Tables.PostsInOrder, posts, sequence]
    exact h
  | post written =>
    obtain ⟨-, hid, rfl⟩ := insertPostRow_some written
    obtain ⟨hnext, hroom⟩ := nextRowid_eq_some hid
    exact Numbered.append h hnext hroom
  | postErased written | postErasedByAdmin written =>
    obtain ⟨-, rfl⟩ := Prod.mk.inj (Option.some.inj written)
    exact Numbered.update h fun _ => rfl
  | comment _ written =>
    obtain ⟨-, -, rfl⟩ := insertCommentRow_some written
    exact h
  | commentErased written =>
    obtain ⟨-, rfl⟩ := Prod.mk.inj (Option.some.inj written)
    exact h

/-- So it is in every state the server can reach. -/
theorem ReachableTables.postsInOrder [Sodium] {tables : Tables} (h : ReachableTables tables) :
    tables.PostsInOrder :=
  h.keep Numbered.nil fun hwrite h => h.step hwrite

/-! ## The comments -/

/-- A parent that is older, under the same post. -/
def Tables.HasParent (tables : Tables) (comment : CommentRow) : Prop :=
  ∀ parentId, comment.parentCommentId = some parentId →
    ∃ parent ∈ tables.comments, parent.id = parentId ∧ parent.postId = comment.postId ∧
      parent.id < comment.id

/-- The comments, as AUTOINCREMENT, the foreign keys and the handler of
`comment_create_request` leave them. -/
structure Tables.CommentsInOrder (tables : Tables) : Prop where
  sequence_nonneg : 0 ≤ tables.commentsSequence
  ascending : tables.comments.Pairwise fun first second => first.id < second.id
  given_out : ∀ comment ∈ tables.comments,
    0 < comment.id ∧ comment.id ≤ tables.commentsSequence ∧ comment.id ≤ maxRowid
  parent : ∀ comment ∈ tables.comments, tables.HasParent comment
  author : ∀ comment ∈ tables.comments, tables.hasUser comment.authorId = true

namespace Tables.CommentsInOrder

variable {before after : Tables}

theorem numbered (h : before.CommentsInOrder) :
    Numbered CommentRow.id maxRowid before.comments before.commentsSequence :=
  ⟨h.sequence_nonneg, h.ascending, h.given_out⟩

theorem of_numbered (h : Numbered CommentRow.id maxRowid after.comments after.commentsSequence)
    (parent : ∀ comment ∈ after.comments, after.HasParent comment)
    (author : ∀ comment ∈ after.comments, after.hasUser comment.authorId = true) :
    after.CommentsInOrder :=
  ⟨h.sequence_nonneg, h.ascending, h.given_out, parent, author⟩

/-- Nothing but the comments and the accounts matters. -/
theorem congr (h : before.CommentsInOrder)
    (husers : ∀ {id}, before.hasUser id = true → after.hasUser id = true)
    (hcomments : after.comments = before.comments)
    (hsequence : after.commentsSequence = before.commentsSequence) : after.CommentsInOrder where
  sequence_nonneg := by rw [hsequence]; exact h.sequence_nonneg
  ascending := by rw [hcomments]; exact h.ascending
  given_out := by rw [hcomments, hsequence]; exact h.given_out
  parent := by
    rw [hcomments]
    intro comment hmem parentId hparent
    rw [hcomments]
    exact h.parent comment hmem parentId hparent
  author := by
    rw [hcomments]
    exact fun comment hmem => husers (h.author comment hmem)

/-- A new comment has the largest id, so its parent is older. -/
theorem comment {postId parentCommentId authorId id : ℤ} {body : ByteString} {now : UInt64}
    (h : before.CommentsInOrder) (parent : before.AcceptsParent postId parentCommentId)
    (written : insertCommentRow postId parentCommentId authorId body now before =
      some (id, after)) : after.CommentsInOrder := by
  obtain ⟨hauthor, hid, rfl⟩ := insertCommentRow_some written
  obtain ⟨hnext, hroom⟩ := nextRowid_eq_some hid
  have hnonneg := h.sequence_nonneg
  refine of_numbered (h.numbered.append hnext hroom) ?_ ?_
  · intro comment hmem parentId hparent
    rcases List.mem_append.mp hmem with hold | hnew
    · obtain ⟨older, holder, hsame⟩ := h.parent comment hold parentId hparent
      exact ⟨older, List.mem_append_left _ holder, hsame⟩
    · rw [List.mem_singleton.mp hnew] at hparent ⊢
      simp only at hparent
      rcases parent with hnone | ⟨older, holder, holderId, hpost⟩
      · rw [if_pos hnone] at hparent
        cases hparent
      · have hgiven := h.given_out older holder
        rw [if_neg (by omega)] at hparent
        refine ⟨older, List.mem_append_left _ holder, holderId.trans (Option.some.inj hparent), hpost, ?_⟩
        simp only
        omega
  · intro comment hmem
    rcases List.mem_append.mp hmem with hold | hnew
    · exact h.author comment hold
    · rw [List.mem_singleton.mp hnew]
      exact hauthor

/-- Erasing the text of a comment leaves it where it is. -/
theorem commentErased {commentId authorId : ℤ} {now : UInt64} {changed : ℕ}
    (h : before.CommentsInOrder)
    (written : eraseCommentRow commentId authorId now before = some (changed, after)) :
    after.CommentsInOrder := by
  obtain ⟨-, rfl⟩ := Prod.mk.inj (Option.some.inj written)
  -- every row is an old one, up to its text
  have hold : ∀ comment ∈ updateWhere (fun comment : CommentRow =>
        comment.id = commentId && comment.authorId = authorId && comment.deletedAt.isNone)
      (fun comment => { comment with body := [], deletedAt := some (castInt64 now) })
      before.comments, ∃ old ∈ before.comments, comment.id = old.id ∧ comment.postId = old.postId ∧
        comment.parentCommentId = old.parentCommentId ∧ comment.authorId = old.authorId := by
    intro comment hmem
    obtain ⟨old, hbefore, rfl⟩ := List.mem_map.mp hmem
    refine ⟨old, hbefore, ?_⟩
    split <;> exact ⟨rfl, rfl, rfl, rfl⟩
  refine of_numbered (h.numbered.update fun _ => rfl) ?_ ?_
  · intro comment hmem parentId hparent
    obtain ⟨old, hbefore, hid, hpost, hsame, -⟩ := hold comment hmem
    obtain ⟨parent, hparentMem, hparentId, hparentPost, hlt⟩ :=
      h.parent old hbefore parentId (hsame ▸ hparent)
    refine ⟨_, List.mem_map_of_mem hparentMem, ?_⟩
    rw [hpost, hid]
    split <;> exact ⟨hparentId, hparentPost, hlt⟩
  · intro comment hmem
    obtain ⟨old, hbefore, -, -, -, hauthor⟩ := hold comment hmem
    rw [hauthor]
    exact h.author old hbefore

theorem step (h : before.CommentsInOrder) (hwrite : RowWrite before after) :
    after.CommentsInOrder := by
  have husers : ∀ {id}, before.hasUser id = true → after.hasUser id = true := hwrite.hasUser
  cases hwrite.content with
  | kept _ comments _ sequence => exact h.congr husers comments sequence
  | post written =>
    obtain ⟨-, -, rfl⟩ := insertPostRow_some written
    exact h.congr husers rfl rfl
  | postErased written | postErasedByAdmin written =>
    obtain ⟨-, rfl⟩ := Prod.mk.inj (Option.some.inj written)
    exact h.congr husers rfl rfl
  | comment parent written => exact h.comment parent written
  | commentErased written => exact h.commentErased written

end Tables.CommentsInOrder

/-- So it is in every state the server can reach. -/
theorem ReachableTables.commentsInOrder [Sodium] {tables : Tables} (h : ReachableTables tables) :
    tables.CommentsInOrder :=
  h.keep ⟨le_rfl, List.Pairwise.nil, fun _ hmem => absurd hmem List.not_mem_nil,
    fun _ hmem => absurd hmem List.not_mem_nil, fun _ hmem => absurd hmem List.not_mem_nil⟩
    fun hwrite h => h.step hwrite

/-! ## The texts -/

/-- The texts, as the readers of the requests and the checks of the handlers leave
them, and the slots of the top 8. -/
structure Tables.TextsInRange (tables : Tables) : Prop where
  users : ∀ user ∈ tables.users, validateHandle user.handle = true
  profiles : ∀ profile ∈ tables.profiles, TextInRange maxDisplayNameLength profile.displayName ∧
    TextInRange maxBioLength profile.bio ∧ TextInRange maxThemeJsonLength profile.themeJson ∧
    TextInRange maxBlobReferenceLength profile.bannerRef
  forums : ∀ forum ∈ tables.forums, TextInRange maxForumNameLength forum.name ∧
    TextInRange maxForumDescriptionLength forum.description ∧
    TextInRange maxThemeJsonLength forum.themeJson
  posts : ∀ post ∈ tables.posts, TextInRange maxPostTitleLength post.title ∧
    TextInRange maxPostBodyLength post.body
  comments : ∀ comment ∈ tables.comments, TextInRange maxCommentBodyLength comment.body
  motd : ∀ row ∈ tables.motd, TextInRange maxMotdLength row.body
  slots : ∀ row ∈ tables.top8, row.slot < top8SlotCount
  slots_distinct : tables.top8.Pairwise fun first second =>
    ¬ (first.userId = second.userId ∧ first.slot = second.slot)

/-- What holds of the rows there are and of a new one. -/
theorem forall_mem_append_singleton {α : Type} {p : α → Prop} {rows : List α} {row : α}
    (hrows : ∀ r ∈ rows, p r) (hrow : p row) : ∀ r ∈ rows ++ [row], p r := by
  intro r hr
  rcases List.mem_append.mp hr with hold | hnew
  · exact hrows r hold
  · rw [List.mem_singleton.mp hnew]
    exact hrow

/-- What an update keeps. -/
theorem forall_mem_updateWhere {α : Type} {p : α → Prop} {selected : α → Bool} {f : α → α}
    {rows : List α} (hrows : ∀ r ∈ rows, p r) (hf : ∀ r, p r → p (f r)) :
    ∀ r ∈ updateWhere selected f rows, p r := by
  intro r hr
  obtain ⟨old, hold, rfl⟩ := List.mem_map.mp hr
  split
  · exact hf old (hrows old hold)
  · exact hrows old hold

/-- A statement brings in texts that its request's reader has accepted, or the empty one. -/
theorem Tables.TextsInRange.step {before after : Tables} (h : before.TextsInRange)
    (hwrite : RowWrite before after) : after.TextsInRange := by
  cases hwrite with
  | user allowed written =>
    obtain ⟨-, rfl⟩ := insertUserRow_some written
    exact { h with users := forall_mem_append_singleton h.users allowed }
  | banned written =>
    obtain ⟨-, rfl⟩ := Prod.mk.inj (Option.some.inj written)
    exact { h with users := forall_mem_updateWhere h.users fun _ hhandle => hhandle }
  | profile inRange written =>
    obtain ⟨-, rfl⟩ := upsertProfileRow_some written
    refine { h with profiles := fun profile hmem => ?_ }
    rcases mem_upsert hmem with hold | rfl
    · exact h.profiles profile hold
    · exact inRange
  | forum inRange written =>
    obtain ⟨-, -, rfl⟩ := insertForumRow_some written
    exact { h with forums := forall_mem_append_singleton h.forums inRange }
  | post inRange written =>
    obtain ⟨-, -, rfl⟩ := insertPostRow_some written
    exact { h with posts := forall_mem_append_singleton h.posts inRange }
  | postErased written | postErasedByAdmin written =>
    obtain ⟨-, rfl⟩ := Prod.mk.inj (Option.some.inj written)
    exact { h with posts := forall_mem_updateWhere h.posts fun _ _ => ⟨TextInRange.nil _, TextInRange.nil _⟩ }
  | comment inRange _ written =>
    obtain ⟨-, -, rfl⟩ := insertCommentRow_some written
    exact { h with comments := forall_mem_append_singleton h.comments inRange }
  | commentErased written =>
    obtain ⟨-, rfl⟩ := Prod.mk.inj (Option.some.inj written)
    exact { h with comments := forall_mem_updateWhere h.comments fun _ _ => TextInRange.nil _ }
  | envelope _ written =>
    obtain ⟨-, rfl⟩ := insertEnvelopeRow_some written
    exact { h with }
  | envelopeDeleted written | reportDeleted written =>
    obtain ⟨-, rfl⟩ := Prod.mk.inj (Option.some.inj written)
    exact { h with }
  | friend written =>
    obtain rfl := upsertFriendRow_some written
    exact { h with }
  | top8Deleted written =>
    obtain ⟨-, rfl⟩ := Prod.mk.inj (Option.some.inj written)
    exact { h with
      slots := fun row hmem => h.slots row (List.mem_of_mem_filter hmem)
      slots_distinct := h.slots_distinct.filter _ }
  | top8 written =>
    obtain ⟨hfree, hslot, rfl⟩ := insertTop8Row_some written
    refine { h with
      slots := forall_mem_append_singleton h.slots hslot
      slots_distinct := List.pairwise_append.mpr
        ⟨h.slots_distinct, List.pairwise_singleton .., fun row hmem new hnew => ?_⟩ }
    rw [List.mem_singleton.mp hnew]
    exact hfree row hmem
  | prekey written =>
    obtain rfl := upsertPrekeyRow_some written
    exact { h with }
  | report written =>
    obtain ⟨_, rfl⟩ := insertReportRow_some written
    exact { h with }
  | motdDeactivated written =>
    obtain ⟨-, rfl⟩ := Prod.mk.inj (Option.some.inj written)
    exact { h with motd := forall_mem_updateWhere h.motd fun _ hbody => hbody }
  | motd inRange written =>
    obtain ⟨_, rfl⟩ := insertMotdRow_some written
    exact { h with motd := forall_mem_append_singleton h.motd inRange }

/-- And so does any run of statements. -/
theorem Tables.TextsInRange.writes {before after : Tables} (h : before.TextsInRange)
    (hwrites : Writes before after) : after.TextsInRange :=
  hwrites.keep (fun hwrite h => h.step hwrite) h

/-- So it is in every state the server can reach. -/
theorem ReachableTables.textsInRange [Sodium] {tables : Tables} (h : ReachableTables tables) :
    tables.TextsInRange := by
  refine h.keep ?_ fun hwrite h => h.step hwrite
  exact {
    users := fun _ hmem => absurd hmem List.not_mem_nil
    profiles := fun _ hmem => absurd hmem List.not_mem_nil
    forums := fun _ hmem => absurd hmem List.not_mem_nil
    posts := fun _ hmem => absurd hmem List.not_mem_nil
    comments := fun _ hmem => absurd hmem List.not_mem_nil
    motd := fun _ hmem => absurd hmem List.not_mem_nil
    slots := fun _ hmem => absurd hmem List.not_mem_nil
    slots_distinct := List.Pairwise.nil }

end HyperCom
