import Mathlib.Logic.Relation
import HyperCom.Server.RequestEffect

/-!
# What gets into the tables

`RowWrite` is one writing statement with what its handler has checked before: the
texts as the reader of the request accepts them, a handle and a forum name of the
allowed characters, a parent comment of the same post. Every request, and every
command of the administration, is a sequence of such statements (`routeMessage_writes`,
`setMotd_writes`), so an invariant of the tables takes one case for each statement
and none for a handler. All but the requests that set a top 8 are `OtherWrites`.

Two things are said of each handler at once: that what it does is a sequence of statements,
and what it has checked of each by the time it runs it. Both are in the constructors of
`RowWrite`, so that an invariant never needs to know which handler a statement came from.

`ReachableTables` closes the module: the states from the empty database on, under requests
of any sessions and commands of the console in any order, with any calls failing. Most of
what is proved about stored data is proved of these.
-/

namespace HyperCom

open BinaryCodec RowStore

/-! ## The statements -/

/-- A parent is 0 or a comment of the same post. -/
def Tables.AcceptsParent (tables : Tables) (postId parentCommentId : ℤ) : Prop :=
  parentCommentId = 0 ∨
    ∃ comment ∈ tables.comments, comment.id = parentCommentId ∧ comment.postId = postId

/-- One statement that takes effect. -/
inductive RowWrite (before : Tables) : Tables → Prop where
  /-- a registration -/
  | user {after : Tables} {pubkey : WirePublicKey} {handle : ByteString} {id : ℤ}
      (allowed : validateHandle handle = true)
      (written : insertUserRow pubkey handle before = some (id, after)) : RowWrite before after
  /-- a ban, or its end -/
  | banned {after : Tables} {userId : ℤ} {banned : Bool}
      (written : updateBannedFlag userId banned before = some ((), after)) : RowWrite before after
  /-- the profile of an account, replaced as a whole -/
  | profile {after : Tables} {userId : ℤ} {request : ProfileSetRequest} (inRange : request.InRange)
      (written : upsertProfileRow userId request before = some ((), after)) : RowWrite before after
  /-- a forum is opened -/
  | forum {after : Tables} {founderId id : ℤ} {request : ForumCreateRequest} {now : UInt64}
      (inRange : request.InRange)
      (written : insertForumRow founderId request.name request.description request.themeJson now
        before = some (id, after)) : RowWrite before after
  /-- a post is written -/
  | post {after : Tables} {forumId authorId id : ℤ} {request : PostCreateRequest} {now : UInt64}
      (inRange : request.InRange)
      (written : insertPostRow forumId authorId request.title request.body now before =
        some (id, after)) : RowWrite before after
  /-- a post is emptied by its author -/
  | postErased {after : Tables} {postId authorId : ℤ} {now : UInt64} {changed : ℕ}
      (written : erasePostRow postId authorId now before = some (changed, after)) :
      RowWrite before after
  /-- or by the administration -/
  | postErasedByAdmin {after : Tables} {postId : ℤ} {now : UInt64} {changed : ℕ}
      (written : adminErasePostRow postId now before = some (changed, after)) :
      RowWrite before after
  /-- a comment is written, under one of the same post or under the post -/
  | comment {after : Tables} {postId parentCommentId authorId id : ℤ}
      {request : CommentCreateRequest} {now : UInt64} (inRange : request.InRange)
      (parent : before.AcceptsParent postId parentCommentId)
      (written : insertCommentRow postId parentCommentId authorId request.body now before =
        some (id, after)) : RowWrite before after
  /-- a comment is emptied by its author -/
  | commentErased {after : Tables} {commentId authorId : ℤ} {now : UInt64} {changed : ℕ}
      (written : eraseCommentRow commentId authorId now before = some (changed, after)) :
      RowWrite before after
  /-- a letter is stored -/
  | envelope {after : Tables} {recipientId id : ℤ} {senderPubkey : WirePublicKey}
      {request : DmSendRequest} (inRange : request.InRange)
      (written : insertEnvelopeRow recipientId senderPubkey request.ciphertext before =
        some (id, after)) : RowWrite before after
  /-- and forgotten -/
  | envelopeDeleted {after : Tables} {recipientId : ℤ} {identifier : UInt64}
      (written : deleteEnvelopeRow recipientId identifier before = some ((), after)) :
      RowWrite before after
  /-- a friendship, from one side -/
  | friend {after : Tables} {userId friendId : ℤ} {status : FriendshipStatus}
      (written : upsertFriendRow userId friendId status before = some ((), after)) :
      RowWrite before after
  /-- a top 8 is taken back -/
  | top8Deleted {after : Tables} {userId : ℤ}
      (written : deleteTop8Rows userId before = some ((), after)) : RowWrite before after
  /-- one of its slots is filled -/
  | top8 {after : Tables} {userId : ℤ} {entry : Top8Entry}
      (written : insertTop8Row userId entry before = some ((), after)) : RowWrite before after
  /-- a prekey is published -/
  | prekey {after : Tables} {userId : ℤ} {prekey : WirePublicKey} {signature : WireSignature}
      {now : UInt64} (written : upsertPrekeyRow userId prekey signature now before =
        some ((), after)) : RowWrite before after
  /-- a report is filed -/
  | report {after : Tables} {target : ReportTarget} {reporterId : ℤ} {reason : ByteString}
      {now : UInt64} (written : insertReportRow target reporterId reason now before =
        some ((), after)) : RowWrite before after
  /-- and dropped -/
  | reportDeleted {after : Tables} {id : ℤ}
      (written : deleteReportRow id before = some ((), after)) : RowWrite before after
  /-- the message of the day is taken down -/
  | motdDeactivated {after : Tables} (written : deactivateMotdRows before = some ((), after)) :
      RowWrite before after
  /-- or put up -/
  | motd {after : Tables} {body : ByteString} {now : UInt64}
      (inRange : TextInRange maxMotdLength body)
      (written : insertMotdRow body now before = some ((), after)) : RowWrite before after

/-- The tables after some statements. -/
def Writes : Tables → Tables → Prop := Relation.ReflTransGen RowWrite

/-- Doing nothing is a run. -/
theorem Writes.refl (tables : Tables) : Writes tables tables := Relation.ReflTransGen.refl

/-- Runs follow one another. -/
theorem Writes.trans {first second third : Tables} (h : Writes first second)
    (h' : Writes second third) : Writes first third :=
  Relation.ReflTransGen.trans h h'

/-- What every statement keeps, a sequence of them keeps. -/
theorem Writes.keep {p : Tables → Prop} {before after : Tables}
    (hstep : ∀ {before after}, RowWrite before after → p before → p after)
    (h : Writes before after) (hbefore : p before) : p after := by
  induction h with
  | refl => exact hbefore
  | tail _ write ih => exact hstep write ih

/-! ## Statements on other tables than the top 8 -/

/-- A statement that leaves the top 8 alone. -/
structure OtherWrite (before after : Tables) : Prop where
  write : RowWrite before after
  /-- and the top 8 stays, which it does in all cases but two -/
  top8 : after.top8 = before.top8

/-- The tables after some of them. -/
def OtherWrites : Tables → Tables → Prop := Relation.ReflTransGen OtherWrite

namespace OtherWrites

variable {first second third before after : Tables}

theorem refl (tables : Tables) : OtherWrites tables tables := Relation.ReflTransGen.refl

theorem trans (h : OtherWrites first second) (h' : OtherWrites second third) :
    OtherWrites first third :=
  Relation.ReflTransGen.trans h h'

theorem writes (h : OtherWrites before after) : Writes before after :=
  Relation.ReflTransGen.mono (fun _ _ other => OtherWrite.write other) _ _ h

theorem top8 (h : OtherWrites before after) : after.top8 = before.top8 := by
  induction h with
  | refl => rfl
  | tail _ other ih => exact other.top8.trans ih

end OtherWrites

namespace OtherWrite

variable {before after : Tables} {id userId : ℤ} {now : UInt64}

theorem user {pubkey : WirePublicKey} {handle : ByteString} (allowed : validateHandle handle = true)
    (written : insertUserRow pubkey handle before = some (id, after)) : OtherWrite before after := by
  refine ⟨.user allowed written, ?_⟩
  obtain ⟨-, rfl⟩ := insertUserRow_some written
  rfl

theorem banned {banned : Bool} (written : updateBannedFlag userId banned before = some ((), after)) :
    OtherWrite before after := by
  refine ⟨.banned written, ?_⟩
  obtain ⟨-, rfl⟩ := Prod.mk.inj (Option.some.inj written)
  rfl

theorem profile {request : ProfileSetRequest} (inRange : request.InRange)
    (written : upsertProfileRow userId request before = some ((), after)) :
    OtherWrite before after := by
  refine ⟨.profile inRange written, ?_⟩
  obtain ⟨-, rfl⟩ := upsertProfileRow_some written
  rfl

theorem forum {request : ForumCreateRequest} (inRange : request.InRange)
    (written : insertForumRow userId request.name request.description request.themeJson now before =
      some (id, after)) : OtherWrite before after := by
  refine ⟨.forum inRange written, ?_⟩
  obtain ⟨-, -, rfl⟩ := insertForumRow_some written
  rfl

theorem post {forumId : ℤ} {request : PostCreateRequest} (inRange : request.InRange)
    (written : insertPostRow forumId userId request.title request.body now before =
      some (id, after)) : OtherWrite before after := by
  refine ⟨.post inRange written, ?_⟩
  obtain ⟨-, -, rfl⟩ := insertPostRow_some written
  rfl

theorem postErased {postId : ℤ} {changed : ℕ}
    (written : erasePostRow postId userId now before = some (changed, after)) :
    OtherWrite before after := by
  refine ⟨.postErased written, ?_⟩
  obtain ⟨-, rfl⟩ := Prod.mk.inj (Option.some.inj written)
  rfl

theorem postErasedByAdmin {postId : ℤ} {changed : ℕ}
    (written : adminErasePostRow postId now before = some (changed, after)) :
    OtherWrite before after := by
  refine ⟨.postErasedByAdmin written, ?_⟩
  obtain ⟨-, rfl⟩ := Prod.mk.inj (Option.some.inj written)
  rfl

theorem comment {postId parentCommentId : ℤ} {request : CommentCreateRequest}
    (inRange : request.InRange) (parent : before.AcceptsParent postId parentCommentId)
    (written : insertCommentRow postId parentCommentId userId request.body now before =
      some (id, after)) : OtherWrite before after := by
  refine ⟨.comment inRange parent written, ?_⟩
  obtain ⟨-, -, rfl⟩ := insertCommentRow_some written
  rfl

theorem commentErased {commentId : ℤ} {changed : ℕ}
    (written : eraseCommentRow commentId userId now before = some (changed, after)) :
    OtherWrite before after := by
  refine ⟨.commentErased written, ?_⟩
  obtain ⟨-, rfl⟩ := Prod.mk.inj (Option.some.inj written)
  rfl

theorem envelope {senderPubkey : WirePublicKey} {request : DmSendRequest} (inRange : request.InRange)
    (written : insertEnvelopeRow userId senderPubkey request.ciphertext before = some (id, after)) :
    OtherWrite before after := by
  refine ⟨.envelope inRange written, ?_⟩
  obtain ⟨-, rfl⟩ := insertEnvelopeRow_some written
  rfl

theorem envelopeDeleted {identifier : UInt64}
    (written : deleteEnvelopeRow userId identifier before = some ((), after)) :
    OtherWrite before after := by
  refine ⟨.envelopeDeleted written, ?_⟩
  obtain ⟨-, rfl⟩ := Prod.mk.inj (Option.some.inj written)
  rfl

theorem friend {friendId : ℤ} {status : FriendshipStatus}
    (written : upsertFriendRow userId friendId status before = some ((), after)) :
    OtherWrite before after := by
  refine ⟨.friend written, ?_⟩
  obtain rfl := upsertFriendRow_some written
  rfl

theorem prekey {prekey : WirePublicKey} {signature : WireSignature}
    (written : upsertPrekeyRow userId prekey signature now before = some ((), after)) :
    OtherWrite before after := by
  refine ⟨.prekey written, ?_⟩
  obtain rfl := upsertPrekeyRow_some written
  rfl

theorem report {target : ReportTarget} {reason : ByteString}
    (written : insertReportRow target userId reason now before = some ((), after)) :
    OtherWrite before after := by
  refine ⟨.report written, ?_⟩
  obtain ⟨_, rfl⟩ := insertReportRow_some written
  rfl

theorem reportDeleted (written : deleteReportRow id before = some ((), after)) :
    OtherWrite before after := by
  refine ⟨.reportDeleted written, ?_⟩
  obtain ⟨-, rfl⟩ := Prod.mk.inj (Option.some.inj written)
  rfl

theorem motdDeactivated (written : deactivateMotdRows before = some ((), after)) :
    OtherWrite before after := by
  refine ⟨.motdDeactivated written, ?_⟩
  obtain ⟨-, rfl⟩ := Prod.mk.inj (Option.some.inj written)
  rfl

theorem motd {body : ByteString} (inRange : TextInRange maxMotdLength body)
    (written : insertMotdRow body now before = some ((), after)) : OtherWrite before after := by
  refine ⟨.motd inRange written, ?_⟩
  obtain ⟨_, rfl⟩ := insertMotdRow_some written
  rfl

end OtherWrite

/-! ## The repositories -/

section Repositories

variable {database database' : DatabaseHandle}

/-- One statement on another table. -/
theorem write_others {α : Type} {statement : SqlStatement} {step : ℕ}
    {effect : Tables → Option (α × Tables)} {result : Option α}
    (h : database.write statement step effect = (result, database'))
    (heffect : ∀ {result tables}, effect database.tables = some (result, tables) →
      OtherWrite database.tables tables) : OtherWrites database.tables database'.tables :=
  DatabaseHandle.write_effect h OtherWrites.refl fun heffected =>
    Relation.ReflTransGen.single (heffect heffected)

/-- The functions of the repositories. A transaction is the run of its statements up to the
one that failed, or no run at all if it was undone. -/
theorem deleteAcknowledged_writes {recipientId : ℤ} {ids : List UInt64} {done : Bool}
    (h : deleteAcknowledged database recipientId ids = (done, database')) :
    OtherWrites database.tables database'.tables :=
  deleteAcknowledged_effect h OtherWrites.refl (fun _ _ _ => OtherWrites.trans)
    fun _ _ _ _ written => .single (.envelopeDeleted written)

/-- The one function that writes to the top 8, and the reason `OtherWrites` exists. -/
theorem replaceSlots_writes {userId : ℤ} {entries : List Top8Entry} {done : Bool}
    (h : replaceSlots database userId entries = (done, database')) :
    Writes database.tables database'.tables :=
  replaceSlots_effect h Writes.refl (fun _ _ _ => Writes.trans)
    (fun _ _ written => .single (.top8Deleted written)) fun _ _ _ written => .single (.top8 written)

/-- The old announcement is taken down and the new one put up. -/
theorem publishMotd_writes {body : ByteString} {now : UInt64} {done : Bool}
    (inRange : TextInRange maxMotdLength body)
    (h : publishMotd database body now = (done, database')) :
    OtherWrites database.tables database'.tables :=
  publishMotd_effect h OtherWrites.refl (fun _ _ _ => OtherWrites.trans)
    (fun _ _ written => .single (.motdDeactivated written))
    fun _ _ written => .single (.motd inRange written)

/-- An upsert of the four texts, which the reader of the request has checked. -/
theorem replaceProfile_writes {userId : ℤ} {request : ProfileSetRequest} {done : Bool}
    (inRange : request.InRange) (h : replaceProfile database userId request = (done, database')) :
    OtherWrites database.tables database'.tables := by
  obtain ⟨-, rfl⟩ := Prod.mk.inj h
  exact write_others rfl (.profile inRange)

theorem replacePrekey_writes {userId : ℤ} {prekey : WirePublicKey} {signature : WireSignature}
    {now : UInt64} {done : Bool}
    (h : replacePrekey database userId prekey signature now = (done, database')) :
    OtherWrites database.tables database'.tables := by
  obtain ⟨-, rfl⟩ := Prod.mk.inj h
  exact write_others rfl .prekey

theorem deleteOwnPost_writes {postId authorId : ℤ} {now : UInt64} {done : Bool}
    (h : deleteOwnPost database postId authorId now = (done, database')) :
    OtherWrites database.tables database'.tables := by
  obtain ⟨-, rfl⟩ := Prod.mk.inj h
  exact write_others rfl .postErased

theorem deleteOwnComment_writes {commentId authorId : ℤ} {now : UInt64} {done : Bool}
    (h : deleteOwnComment database commentId authorId now = (done, database')) :
    OtherWrites database.tables database'.tables := by
  obtain ⟨-, rfl⟩ := Prod.mk.inj h
  exact write_others rfl .commentErased

theorem replaceFriendship_writes {userId friendId : ℤ} {status : FriendshipStatus} {done : Bool}
    (h : replaceFriendship database userId friendId status = (done, database')) :
    OtherWrites database.tables database'.tables := by
  obtain ⟨-, rfl⟩ := Prod.mk.inj h
  exact write_others rfl .friend

theorem recordReport_writes {target : ReportTarget} {reporterId : ℤ} {reason : ByteString}
    {now : UInt64} {done : Bool}
    (h : recordReport database target reporterId reason now = (done, database')) :
    OtherWrites database.tables database'.tables := by
  obtain ⟨-, rfl⟩ := Prod.mk.inj h
  exact write_others rfl .report

theorem adminDeletePost_writes {postId : ℤ} {now : UInt64} {done : Bool}
    (h : adminDeletePost database postId now = (done, database')) :
    OtherWrites database.tables database'.tables := by
  obtain ⟨-, rfl⟩ := Prod.mk.inj h
  exact write_others rfl .postErasedByAdmin

theorem clearReport_writes {id : ℤ} {done : Bool} (h : clearReport database id = (done, database')) :
    OtherWrites database.tables database'.tables := by
  obtain ⟨-, rfl⟩ := Prod.mk.inj h
  exact write_others rfl .reportDeleted

/-- The administration's statements change one column or drop one row. -/
theorem setBanned_writes {userId : ℤ} {banned done : Bool}
    (h : setBanned database userId banned = (done, database')) :
    OtherWrites database.tables database'.tables := by
  obtain ⟨-, rfl⟩ := Prod.mk.inj h
  exact write_others rfl .banned

theorem clearActiveMotd_writes {done : Bool} (h : clearActiveMotd database = (done, database')) :
    OtherWrites database.tables database'.tables := by
  obtain ⟨-, rfl⟩ := Prod.mk.inj h
  exact write_others rfl .motdDeactivated

/-- The check of `handle_comment_create_request`. -/
theorem checkParentBelongsToPost_true {parentCommentId postId : ℤ}
    (h : checkParentBelongsToPost database parentCommentId postId = true) :
    ∃ comment ∈ database.tables.comments, comment.id = parentCommentId ∧ comment.postId = postId := by
  obtain ⟨comment, hfound⟩ := Option.isSome_iff_exists.mp h
  obtain ⟨hmem, hsame⟩ := List.mem_filter.mp (DatabaseHandle.queryFirst_mem hfound)
  obtain ⟨hid, hpost⟩ := Bool.and_eq_true_iff.mp hsame
  exact ⟨comment, hmem, of_decide_eq_true hid, of_decide_eq_true hpost⟩

end Repositories

/-! ## `admin_motd_command` -/

/-- `set_motd`: what it prints, and the database. The checks are those of a message
from the network. -/
def setMotd (database : DatabaseHandle) (body : ByteString) (now : UInt64) :
    ByteString × DatabaseHandle :=
  if body.length > maxMotdLength then
    (ascii "refus : annonce trop longue (max " ++ ascii (toString maxMotdLength) ++
      ascii " octets)\n", database)
  else if !validateTextField body then
    (ascii "refus : l'annonce doit etre de l'UTF-8 valide, sans caracteres de controle\n",
      database)
  else
    match publishMotd database body now with
    | (false, database) => (ascii "echec : ecriture en base impossible\n", database)
    | (true, database) =>
      (ascii "annonce publiee, active des la prochaine connexion\n", database)

/-- What the console calls a success or a failure, both are runs. -/
theorem setMotd_writes (database : DatabaseHandle) (body : ByteString) (now : UInt64) :
    OtherWrites database.tables (setMotd database body now).2.tables := by
  rw [setMotd]
  split
  · exact .refl _
  next hlength =>
  split
  · exact .refl _
  next hvalid =>
  rw [Bool.not_eq_true', Bool.not_eq_false] at hvalid
  split <;> next hpublish => exact publishMotd_writes ⟨not_lt.mp hlength, hvalid⟩ hpublish

/-! ## The handlers -/

variable [Sodium]

section Handlers

variable {context : HandlerContext} {reader : ByteReader}

/-- Behind the guard, a handler only has to account for its body. -/
theorem guardedRequest_writes {α : Type} {readFrom : Reader α}
    {body : HandlerContext → α → Bool × HandlerContext}
    (hbody : ∀ request, (readFrom reader).1 = some request →
      OtherWrites context.database.tables (body context request).2.database.tables) :
    OtherWrites context.database.tables (guardedRequest readFrom body context reader).2.database.tables :=
  guardedRequest_effect OtherWrites.refl hbody

/-- Accepting a session leaves the database alone. -/
theorem sendAcceptedSession_database (context : HandlerContext) (user : UserRow) :
    (sendAcceptedSession context user).2.database = context.database := by
  rw [sendAcceptedSession]
  dsimp only
  split
  · next out => exact congrArg (fun out => out.2.database) out.symm
  · next out =>
    have hsent := congrArg (fun out => out.2.database) out.symm
    split
    · exact hsent
    · exact hsent

/-- A registration writes the account and then its empty profile. The handle has passed
`validate_handle`. -/
theorem handleRegisterRequest_writes :
    OtherWrites context.database.tables (handleRegisterRequest context reader).2.database.tables := by
  rw [handleRegisterRequest]
  dsimp only
  split
  · exact .refl _
  split
  · exact .refl _
  split
  · exact .refl _
  split
  · exact .refl _
  next hhandle =>
  rw [Bool.not_eq_true', Bool.not_eq_false] at hhandle
  split
  · next hcreate => exact write_others hcreate (.user hhandle)
  · next createdId database hcreate =>
    have hcreated : OtherWrites context.database.tables database.tables :=
      write_others hcreate (.user hhandle)
    split
    · exact hcreated
    · have inRange : ProfileSetRequest.InRange {} := by
        rw [ProfileSetRequest.InRange]
        decide
      rw [sendAcceptedSession_database]
      exact hcreated.trans (replaceProfile_writes inRange rfl)

/-- One upsert. -/
theorem handlePrekeyPublishRequest_writes :
    OtherWrites context.database.tables (handlePrekeyPublishRequest context reader).2.database.tables := by
  refine guardedRequest_writes fun request _ => ?_
  split
  · next hreplace => exact replacePrekey_writes hreplace
  · next hreplace => exact replacePrekey_writes hreplace

/-- One insertion, of a name that has passed `validate_forum_name`. -/
theorem handleForumCreateRequest_writes :
    OtherWrites context.database.tables (handleForumCreateRequest context reader).2.database.tables := by
  refine guardedRequest_writes fun request decoded => ?_
  have inRange := (ForumCreateRequest.exact.sound (Prod.ext decoded rfl)).1
  split
  · exact .refl _
  split
  · next hcreate => exact write_others hcreate (.forum inRange)
  · next hcreate =>
    split
    · exact write_others hcreate (.forum inRange)
    · exact write_others hcreate (.forum inRange)

/-- One insertion; the row is read back for the reply, which writes nothing. -/
theorem handlePostCreateRequest_writes :
    OtherWrites context.database.tables (handlePostCreateRequest context reader).2.database.tables := by
  refine guardedRequest_writes fun request decoded => ?_
  have inRange := (PostCreateRequest.exact.sound (Prod.ext decoded rfl)).1
  split
  · exact .refl _
  split
  · exact .refl _
  split
  · next hcreate => exact write_others hcreate (.post inRange)
  · next hcreate =>
    split
    · exact write_others hcreate (.post inRange)
    · exact write_others hcreate (.post inRange)

omit [Sodium] in
/-- What the handler accepts as a parent belongs to the post. -/
theorem acceptsParent_of_checked {database : DatabaseHandle} {request : CommentCreateRequest}
    (h : ¬ (request.parentCommentId ≠ 0 && !checkParentBelongsToPost database
      (castInt64 request.parentCommentId) (castInt64 request.postId)) = true) :
    database.tables.AcceptsParent (castInt64 request.postId) (castInt64 request.parentCommentId) := by
  rcases eq_or_ne request.parentCommentId 0 with hnone | hparent
  · rw [hnone]
    exact .inl (by decide)
  · refine .inr (checkParentBelongsToPost_true ?_)
    simpa [hparent] using h

/-- One insertion, whose parent is a comment on the same post or none. -/
theorem handleCommentCreateRequest_writes :
    OtherWrites context.database.tables (handleCommentCreateRequest context reader).2.database.tables := by
  refine guardedRequest_writes fun request decoded => ?_
  have inRange := (CommentCreateRequest.exact.sound (Prod.ext decoded rfl)).1
  split
  · exact .refl _
  split
  · exact .refl _
  split
  · exact .refl _
  next hparent =>
  have hparent := acceptsParent_of_checked hparent
  split
  · next hcreate => exact write_others hcreate (.comment inRange hparent)
  · next hcreate =>
    split
    · exact write_others hcreate (.comment inRange hparent)
    · exact write_others hcreate (.comment inRange hparent)

/-- One update, and a checkpoint behind it if it changed a row. -/
theorem handlePostDeleteRequest_writes :
    OtherWrites context.database.tables (handlePostDeleteRequest context reader).2.database.tables := by
  refine guardedRequest_writes fun request _ => ?_
  split
  · next hdelete => exact deleteOwnPost_writes hdelete
  · next database hdelete =>
    change OtherWrites context.database.tables database.walCheckpoint.tables
    rw [walCheckpoint_tables]
    exact deleteOwnPost_writes hdelete

/-- The same for a comment. -/
theorem handleCommentDeleteRequest_writes :
    OtherWrites context.database.tables (handleCommentDeleteRequest context reader).2.database.tables := by
  refine guardedRequest_writes fun request _ => ?_
  split
  · next hdelete => exact deleteOwnComment_writes hdelete
  · next database hdelete =>
    change OtherWrites context.database.tables database.walCheckpoint.tables
    rw [walCheckpoint_tables]
    exact deleteOwnComment_writes hdelete

/-- One upsert. -/
theorem handleProfileSetRequest_writes :
    OtherWrites context.database.tables (handleProfileSetRequest context reader).2.database.tables := by
  refine guardedRequest_writes fun request decoded => ?_
  have inRange := (ProfileSetRequest.exact.sound (Prod.ext decoded rfl)).1
  split
  · next hreplace => exact replaceProfile_writes inRange hreplace
  · next hreplace => exact replaceProfile_writes inRange hreplace

/-- One upsert, unless the target is unknown or the session's own account. -/
theorem handleFriendAddRequest_writes :
    OtherWrites context.database.tables (handleFriendAddRequest context reader).2.database.tables := by
  refine guardedRequest_writes fun request _ => ?_
  split
  · exact .refl _
  split
  · exact .refl _
  split
  · next hreplace => exact replaceFriendship_writes hreplace
  · next hreplace => exact replaceFriendship_writes hreplace

/-- A deletion and one insertion a slot, in a transaction. -/
theorem handleTop8SetRequest_writes :
    Writes context.database.tables (handleTop8SetRequest context reader).2.database.tables := by
  refine guardedRequest_effect Writes.refl fun request _ => ?_
  split
  · exact .refl _
  split
  · next hreplace => exact replaceSlots_writes hreplace
  · next hreplace => exact replaceSlots_writes hreplace

/-- One insertion, if the recipient is known and there is something to send. -/
theorem handleDmSendRequest_writes :
    OtherWrites context.database.tables (handleDmSendRequest context reader).2.database.tables := by
  refine guardedRequest_writes fun request decoded => ?_
  have inRange := (DmSendRequest.exact.sound (Prod.ext decoded rfl)).1
  split
  · exact .refl _
  split
  · exact .refl _
  split
  · next hinsert => exact write_others hinsert (.envelope inRange)
  · next hinsert => exact write_others hinsert (.envelope inRange)

/-- One deletion for each id, in a transaction. -/
theorem handleDmAckRequest_writes :
    OtherWrites context.database.tables (handleDmAckRequest context reader).2.database.tables := by
  refine guardedRequest_writes fun request _ => ?_
  split
  · next hdelete => exact deleteAcknowledged_writes hdelete
  · next hdelete => exact deleteAcknowledged_writes hdelete

/-- One insertion, if the post exists. -/
theorem handleReportPostRequest_writes :
    OtherWrites context.database.tables (handleReportPostRequest context reader).2.database.tables := by
  refine guardedRequest_writes fun request _ => ?_
  split
  · exact .refl _
  split
  · next hrecord => exact recordReport_writes hrecord
  · next hrecord => exact recordReport_writes hrecord

/-- One insertion, if the account exists. -/
theorem handleReportAccountRequest_writes :
    OtherWrites context.database.tables (handleReportAccountRequest context reader).2.database.tables := by
  refine guardedRequest_writes fun request _ => ?_
  split
  · exact .refl _
  split
  · next hrecord => exact recordReport_writes hrecord
  · next hrecord => exact recordReport_writes hrecord

/-! The other handlers write nothing. -/

/-- Opening a session only reads. -/
theorem handleHelloRequest_database :
    (handleHelloRequest context reader).2.database = context.database := by
  rw [handleHelloRequest]
  dsimp only
  split
  · rfl
  split
  · rfl
  split
  · rfl
  · rfl

/-- So does proving the key: the account is looked up, and a banned one is turned away. -/
theorem handleAuthResponse_database :
    (handleAuthResponse context reader).2.database = context.database := by
  rw [handleAuthResponse]
  dsimp only
  split
  · rfl
  split
  · rfl
  split
  · rfl
  split
  · split
    · rfl
    · exact sendAcceptedSession_database ..
  · rfl

/-- And a ping does not even read. -/
theorem handlePingRequest_database :
    (handlePingRequest context reader).2.database = context.database := by
  rw [handlePingRequest]
  split
  · rfl
  · rfl

end Handlers

/-- Only a `top8_set_request` writes to the top 8. -/
theorem routeMessage_others {context : HandlerContext} {type : MessageType} {reader : ByteReader}
    (htype : type ≠ .top8SetRequest) :
    OtherWrites context.database.tables (routeMessage context type reader).2.database.tables := by
  cases type with
  | helloRequest =>
    rw [routeMessage, handleHelloRequest_database]
    exact .refl _
  | authResponse =>
    rw [routeMessage, handleAuthResponse_database]
    exact .refl _
  | pingRequest =>
    rw [routeMessage, handlePingRequest_database]
    exact .refl _
  | registerRequest => exact handleRegisterRequest_writes
  | prekeyPublishRequest => exact handlePrekeyPublishRequest_writes
  | forumCreateRequest => exact handleForumCreateRequest_writes
  | postCreateRequest => exact handlePostCreateRequest_writes
  | commentCreateRequest => exact handleCommentCreateRequest_writes
  | postDeleteRequest => exact handlePostDeleteRequest_writes
  | commentDeleteRequest => exact handleCommentDeleteRequest_writes
  | profileSetRequest => exact handleProfileSetRequest_writes
  | friendAddRequest => exact handleFriendAddRequest_writes
  | top8SetRequest => exact absurd rfl htype
  | dmSendRequest => exact handleDmSendRequest_writes
  | dmAckRequest => exact handleDmAckRequest_writes
  | reportPostRequest => exact handleReportPostRequest_writes
  | reportAccountRequest => exact handleReportAccountRequest_writes
  | prekeyFetchRequest | forumListRequest | postListRequest | profileGetRequest
  | friendListRequest =>
    refine guardedRequest_writes fun request _ => ?_
    split <;> exact .refl _
  | threadFetchRequest | top8GetRequest =>
    refine guardedRequest_writes fun request _ => ?_
    split
    · exact .refl _
    split <;> exact .refl _
  | dmFetchRequest =>
    refine guardedRequest_writes fun request _ => ?_
    rw [answerDmFetch]
    split <;> exact .refl _
  | helloResponse | authChallenge | authAccepted | pingResponse | motdPush | statusOk
  | statusError | prekeyBundleResponse | forumInfoResponse | forumListResponse
  | postInfoResponse | postListResponse | threadResponse | commentInfoResponse
  | profileResponse | friendListResponse | top8Response | dmListResponse
  | blobAnnounceRequest | blobLocateRequest | blobPeersResponse => exact .refl _

/-- Every request is a sequence of statements, each with its checks. -/
theorem routeMessage_writes (context : HandlerContext) (type : MessageType) (reader : ByteReader) :
    Writes context.database.tables (routeMessage context type reader).2.database.tables := by
  rcases eq_or_ne type .top8SetRequest with rfl | htype
  · exact handleTop8SetRequest_writes
  · exact (routeMessage_others htype).writes

/-! ## The tables the server can reach -/

/-- What requests on any connections and the administration make of an empty
database, whatever SQLite calls fail meanwhile. -/
inductive ReachableTables : Tables → Prop where
  /-- a new database -/
  | empty : ReachableTables {}
  /-- any request on any session, whatever it is answered -/
  | served {context : HandlerContext} (before : ReachableTables context.database.tables)
      (type : MessageType) (reader : ByteReader) :
      ReachableTables (routeMessage context type reader).2.database.tables
  /-- the commands of the console that write -/
  | motdSet {database : DatabaseHandle} (before : ReachableTables database.tables)
      (body : ByteString) (now : UInt64) :
      ReachableTables (setMotd database body now).2.tables
  | motdCleared {database : DatabaseHandle} (before : ReachableTables database.tables) :
      ReachableTables (clearActiveMotd database).2.tables
  | banned {database : DatabaseHandle} (before : ReachableTables database.tables) (userId : ℤ)
      (banned : Bool) : ReachableTables (setBanned database userId banned).2.tables
  | postDeleted {database : DatabaseHandle} (before : ReachableTables database.tables) (postId : ℤ)
      (now : UInt64) : ReachableTables (adminDeletePost database postId now).2.tables
  | reportCleared {database : DatabaseHandle} (before : ReachableTables database.tables) (id : ℤ) :
      ReachableTables (clearReport database id).2.tables

/-- They are what statements make of it. -/
theorem ReachableTables.writes {tables : Tables} (h : ReachableTables tables) :
    Writes {} tables := by
  induction h with
  | empty => exact .refl _
  | served _ type reader ih => exact ih.trans (routeMessage_writes _ type reader)
  | motdSet _ body now ih => exact ih.trans (setMotd_writes _ body now).writes
  | motdCleared _ ih => exact ih.trans (clearActiveMotd_writes rfl).writes
  | banned _ userId banned ih => exact ih.trans (setBanned_writes rfl).writes
  | postDeleted _ postId now ih => exact ih.trans (adminDeletePost_writes rfl).writes
  | reportCleared _ id ih => exact ih.trans (clearReport_writes rfl).writes

/-- An invariant that holds of the empty tables and that every statement keeps. -/
theorem ReachableTables.keep {p : Tables → Prop} {tables : Tables} (h : ReachableTables tables)
    (hempty : p {}) (hstep : ∀ {before after}, RowWrite before after → p before → p after) :
    p tables :=
  h.writes.keep hstep hempty

end HyperCom
