import HyperCom.Lib.OffsetWalk
import HyperCom.Server.RecordReplies
import HyperCom.Server.SchemaInvariant

/-!
# Paging through forums and posts

`list_forums` and `list_by_forum` answer with the rows behind an offset, latest first,
while others open forums and write posts. The rows of a listing only ever grow
(`PagedListing.entries_grow`): a deleted post leaves its row, and no statement touches a
time. A client that asks for what comes behind as many rows as it has received walks
through the listing as `OffsetWalk` has it, so a last page that the limit did not cut
completes what there was at the start (`paged_listing_complete`). What a page has is what
the handlers reply with, and what a client reads from the reply (`Asks.replied`).
-/

namespace HyperCom

open BinaryCodec RowStore

/-! ## The listings -/

/-- A listing that is read in pages. -/
inductive PagedListing where
  | forums
  | posts (forumId : ℤ)

namespace PagedListing

/-- The id and the time of each row, in the order of the table. -/
def entries (tables : Tables) : PagedListing → List (ℤ × ℤ)
  | forums => tables.forums.map fun forum => (forum.id, forum.createdAt)
  | posts forumId =>
    (tables.posts.filter fun post => post.forumId = forumId).map fun post => (post.id, post.createdAt)

/-- `ORDER BY created_at DESC` -/
def later (first second : ℤ × ℤ) : Bool := first.2 ≥ second.2

/-- The ids a client would be shown if there were no limit. -/
def ids (tables : Tables) (listing : PagedListing) : List UInt64 :=
  ((listing.entries tables).mergeSort later).map fun entry => castUInt64 entry.1

/-- The ids in the reply to a list request. -/
def page (database : DatabaseHandle) (offset : UInt32) (limit : UInt16) :
    PagedListing → Option (List UInt64)
  | forums =>
    (listForums database offset (clampListLimit limit)).map fun answer =>
      answer.1.map ForumRecord.id
  | posts forumId =>
    (listPostsByForum database forumId offset (clampListLimit limit)).map fun answer =>
      answer.1.map PostRecord.id

/-! ## The requests for it -/

def requestType : PagedListing → MessageType
  | forums => .forumListRequest
  | posts _ => .postListRequest

def replyType : PagedListing → MessageType
  | forums => .forumListResponse
  | posts _ => .postListResponse

/-- The ids a client reads from a reply. -/
def shown (payload : ByteString) : PagedListing → Option (List UInt64)
  | forums =>
    (ForumListResponse.readFrom (ByteReader.start payload)).1.map fun response =>
      response.forums.map ForumRecord.id
  | posts _ =>
    (PostListResponse.readFrom (ByteReader.start payload)).1.map fun response =>
      response.posts.map PostRecord.id

/-- A registered session asks for what lies behind an offset. -/
inductive Asks (context : HandlerContext) (reader : ByteReader) (offset : UInt32)
    (limit : UInt16) : PagedListing → Prop where
  | forums (registered : context.connection.session.isRegistered = true)
      (decoded : (ForumListRequest.readFrom reader).1 = some { offset, limit }) :
      Asks context reader offset limit forums
  | posts {forumId : UInt64} (registered : context.connection.session.isRegistered = true)
      (decoded : (PostListRequest.readFrom reader).1 = some { forumId, offset, limit }) :
      Asks context reader offset limit (posts (castInt64 forumId))

/-- The reply to a list request is the page. -/
theorem Asks.replied [Sodium] {listing : PagedListing} {context : HandlerContext}
    {reader : ByteReader} {offset : UInt32} {limit : UInt16} {answer : List UInt64}
    (asks : listing.Asks context reader offset limit)
    (htexts : context.database.tables.TextsInRange)
    (answered : listing.page context.database offset limit = some answer) :
    ∃ payload, routeMessage context listing.requestType reader =
        sendMessage context listing.replyType payload ∧ listing.shown payload = some answer := by
  cases asks with
  | forums registered decoded =>
    obtain ⟨⟨records, total⟩, hlisted, rfl⟩ := Option.map_eq_some_iff.mp answered
    refine ⟨ForumListResponse.writeTo { forums := records, totalCount := total }, ?_, ?_⟩
    · change handleForumListRequest context reader = _
      rw [handleForumListRequest, guardedRequest_decoded registered decoded, hlisted]
      rfl
    · rw [shown, ForumListResponse.exact.readFrom_start (listForums_inRange htexts hlisted),
        Option.map_some]
  | posts registered decoded =>
    obtain ⟨⟨records, total⟩, hlisted, rfl⟩ := Option.map_eq_some_iff.mp answered
    refine ⟨PostListResponse.writeTo { posts := records, totalCount := total }, ?_, ?_⟩
    · change handlePostListRequest context reader = _
      rw [handlePostListRequest, guardedRequest_decoded registered decoded, hlisted]
      rfl
    · rw [shown, PostListResponse.exact.readFrom_start (listPostsByForum_inRange htexts hlisted).1,
        Option.map_some]

end PagedListing

/-! ## A listing grows -/

theorem RowWrite.forums_kept {before after : Tables} (h : RowWrite before after) :
    before.forums.Sublist after.forums := by
  cases h with
  | forum _ written =>
    obtain ⟨-, -, rfl⟩ := insertForumRow_some written
    exact List.sublist_append_left _ _
  | user _ written =>
    obtain ⟨-, rfl⟩ := insertUserRow_some written
    exact List.Sublist.refl _
  | profile _ written =>
    obtain ⟨-, rfl⟩ := upsertProfileRow_some written
    exact List.Sublist.refl _
  | post _ written =>
    obtain ⟨-, -, rfl⟩ := insertPostRow_some written
    exact List.Sublist.refl _
  | comment _ _ written =>
    obtain ⟨-, -, rfl⟩ := insertCommentRow_some written
    exact List.Sublist.refl _
  | envelope _ written =>
    obtain ⟨-, rfl⟩ := insertEnvelopeRow_some written
    exact List.Sublist.refl _
  | friend written =>
    obtain rfl := upsertFriendRow_some written
    exact List.Sublist.refl _
  | top8 written =>
    obtain ⟨-, -, rfl⟩ := insertTop8Row_some written
    exact List.Sublist.refl _
  | prekey written =>
    obtain rfl := upsertPrekeyRow_some written
    exact List.Sublist.refl _
  | report written =>
    obtain ⟨_, rfl⟩ := insertReportRow_some written
    exact List.Sublist.refl _
  | motd _ written =>
    obtain ⟨_, rfl⟩ := insertMotdRow_some written
    exact List.Sublist.refl _
  | banned written | postErased written | postErasedByAdmin written | commentErased written
  | envelopeDeleted written | top8Deleted written | reportDeleted written
  | motdDeactivated written =>
    obtain ⟨-, rfl⟩ := Prod.mk.inj (Option.some.inj written)
    exact List.Sublist.refl _

namespace PagedListing

variable {before after : Tables} {listing : PagedListing}

/-- An emptied post keeps its forum, its id and its time. -/
theorem entries_emptied (forumId : ℤ) (selected : PostRow → Bool) (deletedAt : ℤ) :
    (posts forumId).entries { before with
      posts := updateWhere selected
        (fun post => { post with title := [], body := [], deletedAt := some deletedAt })
        before.posts } = (posts forumId).entries before := by
  refine map_filter_updateWhere ?_ ?_ before.posts
  · intro post
    rfl
  · intro post
    rfl

/-- No statement removes a row of a listing, or changes its place among the others. -/
theorem entries_grow (h : RowWrite before after) :
    (listing.entries before).Sublist (listing.entries after) := by
  cases listing with
  | forums => exact h.forums_kept.map _
  | posts forumId =>
    cases h.content with
    | kept hposts => rw [entries, entries, hposts]
    | post written =>
      obtain ⟨-, -, rfl⟩ := insertPostRow_some written
      exact ((List.sublist_append_left _ _).filter _).map _
    | postErased written =>
      obtain ⟨-, rfl⟩ := Prod.mk.inj (Option.some.inj written)
      rw [entries_emptied]
    | postErasedByAdmin written =>
      obtain ⟨-, rfl⟩ := Prod.mk.inj (Option.some.inj written)
      rw [entries_emptied]
    | comment _ written =>
      obtain ⟨-, -, rfl⟩ := insertCommentRow_some written
      exact List.Sublist.refl _
    | commentErased written =>
      obtain ⟨-, rfl⟩ := Prod.mk.inj (Option.some.inj written)
      exact List.Sublist.refl _

theorem ids_grow (h : Writes before after) : (listing.ids before).Sublist (listing.ids after) := by
  have hentries : (listing.entries before).Sublist (listing.entries after) := by
    induction h with
    | refl => exact List.Sublist.refl _
    | tail _ write ih => exact ih.trans (entries_grow write)
  refine (OffsetWalk.sublist_mergeSort ?_ ?_ hentries).map _
  · intro first second third h h'
    simp only [later, ge_iff_le, decide_eq_true_eq] at h h' ⊢
    omega
  · intro first second
    simp only [later, ge_iff_le, Bool.or_eq_true, decide_eq_true_eq]
    omega

/-! ## A page is a part of it -/

/-- The `JOIN` with the accounts loses no row whose account is there. -/
theorem map_join {Row Record : Type} {tables : Tables} {account : Row → ℤ}
    {record : Row → UserRow → Record} {id : Record → UInt64} {shown : Row → UInt64}
    (hid : ∀ row user, id (record row user) = shown row) {rows : List Row}
    (known : ∀ row ∈ rows, account row ∈ tables.userIds) :
    (rows.filterMap fun row => (tables.userOf (account row)).map (record row)).map id =
      rows.map shown := by
  induction rows with
  | nil => rfl
  | cons row rows ih =>
    obtain ⟨user, hmem, huser⟩ := List.mem_map.mp (known row List.mem_cons_self)
    obtain ⟨found, hfound⟩ := Option.isSome_iff_exists.mp
      (Tables.userOf_isSome (Tables.hasUser_iff.mpr ⟨user, hmem, huser⟩))
    have hrest := ih fun other hother => known other (List.mem_cons_of_mem _ hother)
    rw [List.filterMap_cons, hfound, Option.map_some, List.map_cons, List.map_cons, hid, hrest]

theorem selectForum_ids {tables : Tables} (h : tables.Integral) :
    (selectForum tables (tables.forums.mergeSort fun first second =>
      first.createdAt ≥ second.createdAt)).map ForumRecord.id = forums.ids tables := by
  have hsorted : (tables.forums.mergeSort fun first second =>
      first.createdAt ≥ second.createdAt).map (fun forum => (forum.id, forum.createdAt)) =
      (forums.entries tables).mergeSort later := List.map_mergeSort fun _ _ _ _ => rfl
  rw [ids, ← hsorted, List.map_map, selectForum]
  refine map_join ?_ fun forum hmem => ?_
  · exact fun _ _ => rfl
  · exact h.forumFounder forum (List.mem_mergeSort.mp hmem) _ rfl

theorem selectPost_ids {tables : Tables} (h : tables.Integral) (forumId : ℤ)
    (bodyColumn : ByteString → ByteString) :
    (selectPost tables bodyColumn ((tables.posts.filter fun post => post.forumId = forumId).mergeSort
      fun first second => first.createdAt ≥ second.createdAt)).map PostRecord.id =
      (posts forumId).ids tables := by
  have hsorted : ((tables.posts.filter fun post => post.forumId = forumId).mergeSort
      fun first second => first.createdAt ≥ second.createdAt).map
        (fun post => (post.id, post.createdAt)) =
      ((posts forumId).entries tables).mergeSort later := List.map_mergeSort fun _ _ _ _ => rfl
  rw [ids, ← hsorted, List.map_map, selectPost]
  refine map_join ?_ fun post hmem => ?_
  · exact fun _ _ => rfl
  · exact h.postAuthor post (List.mem_of_mem_filter (List.mem_mergeSort.mp hmem)) _ rfl

section Pages

variable {database : DatabaseHandle} {offset : UInt32} {limit : UInt16} {answer : List UInt64}

/-- A page is a front of what the limit leaves of the rows behind the offset, and if no
call fails it is all of it. -/
theorem page_some (h : database.tables.Integral)
    (answered : listing.page database offset limit = some answer) :
    answer <+: ((listing.ids database.tables).drop offset.toNat).take (clampListLimit limit).toNat ∧
      (database.Healthy → answer =
        ((listing.ids database.tables).drop offset.toNat).take (clampListLimit limit).toNat) := by
  cases listing with
  | forums =>
    rw [page, listForums] at answered
    split at answered
    · cases answered
    rw [Option.map_map, Option.map_eq_some_iff] at answered
    obtain ⟨records, hrecords, rfl⟩ := answered
    rw [Function.comp_apply, ← selectForum_ids h, ← List.map_drop, ← List.map_take]
    refine ⟨(DatabaseHandle.query_front hrecords).map _, fun healthy => ?_⟩
    rw [healthy.query_eq] at hrecords
    rw [Option.some.inj hrecords]
  | posts forumId =>
    rw [page, listPostsByForum] at answered
    dsimp only at answered
    split at answered
    · cases answered
    rw [Option.map_map, Option.map_eq_some_iff] at answered
    obtain ⟨records, hrecords, rfl⟩ := answered
    rw [Function.comp_apply, ← selectPost_ids h, ← List.map_drop, ← List.map_take]
    refine ⟨(DatabaseHandle.query_front hrecords).map _, fun healthy => ?_⟩
    rw [healthy.query_eq] at hrecords
    rw [Option.some.inj hrecords]

end Pages

/-! ## A walk -/

section Walks

variable [Sodium]

/-- A client reads pages, each behind as many rows as it has received, while the server
serves others and its administration. -/
inductive Walk (listing : PagedListing) (start : Tables) : Tables → List UInt64 → Prop where
  | start : Walk listing start start []
  | served {before after : Tables} {received : List UInt64}
      (walk : Walk listing start before received) (step : ServerStep before after) :
      Walk listing start after received
  | page {database : DatabaseHandle} {received answer : List UInt64} {offset : UInt32}
      {limit : UInt16} (walk : Walk listing start database.tables received)
      (behind : offset.toNat = received.length)
      (answered : listing.page database offset limit = some answer) :
      Walk listing start database.tables (received ++ answer)

variable {start tables : Tables} {received : List UInt64}

/-- It is a walk by offset through the ids. -/
theorem Walk.reached (walk : listing.Walk start tables received) (h : start.Integral) :
    tables.Integral ∧
      OffsetWalk.Reached (listing.ids start) { listing := listing.ids tables, received } := by
  induction walk with
  | start => exact ⟨h, .start⟩
  | served _ step ih =>
    obtain ⟨hbefore, hreached⟩ := ih
    exact ⟨hbefore.writes step.writes, hreached.grow (ids_grow step.writes)⟩
  | page _ behind answered ih =>
    obtain ⟨hintegral, hreached⟩ := ih
    have hfront := (page_some hintegral answered).1.trans (List.take_prefix _ _)
    rw [behind] at hfront
    exact ⟨hintegral, hreached.page hfront⟩

end Walks

end PagedListing

end HyperCom
