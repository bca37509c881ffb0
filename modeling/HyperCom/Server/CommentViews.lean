import HyperCom.Server.ThreadAnswers

/-!
# The two records of a comment

The author of a comment gets the record of `SELECT_ONE`, the readers of the thread
those of `SELECT_THREAD`. Both go through `read_comment_record`, but the depth that
`SELECT_ONE` selects is a constant 0, so the records of a reply differ
(`comment_views_iff`).

Everything else in the two records is the same, because one function reads the columns of
both statements. The reply to a creation is the one place where the depth of a comment is
shown to somebody who has not asked for the thread.
-/

namespace HyperCom

open BinaryCodec RowStore

/-! ## An accepted comment -/

/-- What an accepted `comment_create_request` is answered with, and the database it
leaves. -/
structure CommentAnswer (context : HandlerContext) (reader : ByteReader)
    (request : CommentCreateRequest) (record : CommentRecord) (after : DatabaseHandle) : Prop where
  registered : context.connection.session.isRegistered = true
  requested : (CommentCreateRequest.readFrom reader).1 = some request
  body : request.body.isEmpty = false
  post : (findPostById context.database (castInt64 request.postId)).isSome = true
  parent : (request.parentCommentId ≠ 0 && !checkParentBelongsToPost context.database
    (castInt64 request.parentCommentId) (castInt64 request.postId)) = false
  created : ∃ createdId, createComment context.database (castInt64 request.postId)
    (castInt64 request.parentCommentId) context.connection.session.userId request.body
    context.ambient.unixTimestamp = (some createdId, after) ∧
      findCommentById after createdId = some record

section Rows

variable {tables : Tables} {postId : ℤ}

/-- A record of the thread is the record of a comment, at its distance to the root. -/
theorem selectThread_record (h : tables.CommentsInOrder) {listed : CommentRecord}
    (hlisted : listed ∈ selectThread tables postId) :
    ∃ comment distance, tables.DistanceToRoot comment distance ∧ distance ≤ maxCommentDepth ∧
      commentRecord tables comment distance = some listed := by
  obtain ⟨node, hnode, hrecord⟩ := List.mem_filterMap.mp (selectThread_perm.mem_iff.mp hlisted)
  obtain ⟨-, hdistance, hle⟩ := (Tables.mem_traversal h).mp hnode
  exact ⟨node.1, node.2, hdistance, hle, hrecord⟩

/-- The depth is the only field that the record does not take from the row. -/
theorem commentRecord_depth {comment : CommentRow} {depth : ℕ} {record : CommentRecord}
    (h : commentRecord tables comment 0 = some record) :
    commentRecord tables comment depth = some { record with depth := UInt16.ofNat depth } := by
  obtain ⟨author, hauthor, rfl⟩ := Option.map_eq_some_iff.mp h
  rw [commentRecord, hauthor]
  rfl

theorem findCommentById_some {database : DatabaseHandle} {id : ℤ} {record : CommentRecord}
    (found : findCommentById database id = some record) :
    ∃ comment ∈ database.tables.comments, comment.id = id ∧
      commentRecord database.tables comment 0 = some record := by
  obtain ⟨comment, hmem, hrecord⟩ := List.mem_filterMap.mp (DatabaseHandle.queryFirst_mem found)
  obtain ⟨hknown, hid⟩ := List.mem_filter.mp hmem
  exact ⟨comment, hknown, of_decide_eq_true hid, hrecord⟩

theorem castInt64_eq_zero_iff {value : UInt64} : castInt64 value = 0 ↔ value = 0 := by
  constructor
  · intro hzero
    have hback : castUInt64 (castInt64 value) = value := by simp [castUInt64, castInt64]
    rw [← hback, hzero]
    rfl
  · rintro rfl
    rfl

/-- Only roots have the distance 0. -/
theorem Tables.DistanceToRoot.eq_zero_iff {comment : CommentRow} {distance : ℕ}
    (h : tables.DistanceToRoot comment distance) :
    distance = 0 ↔ comment.parentCommentId = none := by
  cases h with
  | root known direct => exact ⟨fun _ => direct, fun _ => rfl⟩
  | reply known answers above => simp [answers]

/-- Up to the cap, a depth is not cut by its 16 bits. -/
theorem depth_eq_zero_iff {depth : ℕ} (h : depth ≤ maxCommentDepth) :
    UInt16.ofNat depth = 0 ↔ depth = 0 := by
  rw [maxCommentDepth] at h
  have hvalue : (UInt16.ofNat depth).toNat = depth := UInt16.toNat_ofNat_of_lt' (by rw [UInt16.size]; omega)
  constructor
  · intro hzero
    rw [← hvalue, hzero]
    rfl
  · rintro rfl
    rfl

end Rows

section Created

variable [Sodium] {context : HandlerContext} {reader : ByteReader} {request : CommentCreateRequest}
  {record : CommentRecord} {after : DatabaseHandle}

theorem CommentAnswer.handled (h : CommentAnswer context reader request record after) :
    routeMessage context .commentCreateRequest reader =
      sendMessage { context with database := after } .commentInfoResponse
        (CommentInfoResponse.writeTo { comment := record }) := by
  obtain ⟨createdId, hcreate, hfound⟩ := h.created
  obtain ⟨post, hpost⟩ := Option.isSome_iff_exists.mp h.post
  rw [routeMessage, handleCommentCreateRequest, guardedRequest_decoded h.registered h.requested]
  simp only [h.body, hpost, h.parent, hcreate, hfound, Bool.false_eq_true, if_false]

theorem CommentAnswer.reachable (h : CommentAnswer context reader request record after)
    (reached : ReachableTables context.database.tables) : ReachableTables after.tables := by
  have hserved := reached.served .commentCreateRequest reader
  rwa [h.handled, (sendMessage_frame ..).1] at hserved

omit [Sodium] in
/-- The row behind the answer: a root exactly if the request names no parent. -/
theorem CommentAnswer.row (h : CommentAnswer context reader request record after)
    (inOrder : after.tables.CommentsInOrder) :
    ∃ comment ∈ after.tables.comments, commentRecord after.tables comment 0 = some record ∧
      (comment.parentCommentId = none ↔ request.parentCommentId = 0) := by
  obtain ⟨createdId, hcreate, hfound⟩ := h.created
  obtain ⟨comment, hknown, hid, hrecord⟩ := findCommentById_some hfound
  refine ⟨comment, hknown, hrecord, ?_⟩
  obtain ⟨habsurd, -⟩ | ⟨value, tables, hrow, hvalue, rfl⟩ := DatabaseHandle.write_cases hcreate
  · cases habsurd
  obtain rfl := Option.some.inj hvalue
  obtain ⟨-, -, rfl⟩ := insertCommentRow_some hrow
  -- the row that was found is the one that was inserted
  rw [inOrder.eq_of_id hknown (List.mem_append_right _ List.mem_cons_self) hid]
  rw [← castInt64_eq_zero_iff]
  split
  · next hzero => simp [hzero]
  · next hparent => simp [hparent]

/-! ## The record of the thread -/

/-- What the thread lists under the id of the answer is the same row, and its depth is
its distance to the root. -/
theorem CommentAnswer.listed (h : CommentAnswer context reader request record after)
    (reached : ReachableTables context.database.tables) {postId : ℤ} {listed : CommentRecord}
    (hlisted : listed ∈ selectThread after.tables postId) (hid : listed.id = record.id) :
    listed = { record with depth := listed.depth } ∧
      (listed = record ↔ request.parentCommentId = 0) := by
  have inOrder := (h.reachable reached).commentsInOrder
  obtain ⟨created, hcreated, hrecord, hroot⟩ := h.row inOrder
  obtain ⟨comment, distance, hdistance, hle, hcomment⟩ := selectThread_record inOrder hlisted
  have hfields := Tables.recordOf_some (show after.tables.recordOf (comment, distance) = _ from hcomment)
  have hfields' := Tables.recordOf_some (show after.tables.recordOf (created, 0) = _ from hrecord)
  -- both records have the id of their row
  have hsame : comment = created := by
    have hgiven := inOrder.given_out comment hdistance.known
    have hgiven' := inOrder.given_out created hcreated
    refine inOrder.eq_of_id hdistance.known hcreated
      (castUInt64_eq ⟨hgiven.1.le, hgiven.2.2⟩ ⟨hgiven'.1.le, hgiven'.2.2⟩ ?_)
    rw [← hfields.1, hid, hfields'.1]
  subst hsame
  have heq := Option.some.inj (hcomment.symm.trans (commentRecord_depth hrecord))
  have hdepth : record.depth = 0 := hfields'.2.2
  rw [← hroot, ← hdistance.eq_zero_iff, ← depth_eq_zero_iff hle, heq]
  refine ⟨rfl, fun hall => ?_, fun hzero => ?_⟩
  · rw [← hdepth, ← congrArg CommentRecord.depth hall]
  · rw [hzero, ← hdepth]

/-- For every accepted comment of a reachable database and every thread response right
after it, whatever session asks and whatever steps of the query fail: what the thread
lists under the id agrees with the answer in everything but the depth, and agrees
altogether if and only if the comment answers no other one. -/
theorem comment_views_iff (context fetching : HandlerContext) (reader fetch : ByteReader)
    (request : CommentCreateRequest) (record : CommentRecord) (after : DatabaseHandle)
    (postId : ℤ) (response : ThreadResponse) (listed : CommentRecord)
    (reached : ReachableTables context.database.tables)
    (accepted : CommentAnswer context reader request record after)
    (unchanged : fetching.database.tables = after.tables)
    (answered : ThreadAnswer fetching fetch postId response)
    (hlisted : listed ∈ response.comments) (hid : listed.id = record.id) :
    routeMessage context .commentCreateRequest reader =
        sendMessage { context with database := after } .commentInfoResponse
          (CommentInfoResponse.writeTo { comment := record }) ∧
      routeMessage fetching .threadFetchRequest fetch =
        sendMessage fetching .threadResponse response.writeTo ∧
      listed = { record with depth := listed.depth } ∧
      (listed = record ↔ request.parentCommentId = 0) := by
  obtain ⟨truncated, hthread, -⟩ := answered.thread
  obtain ⟨seen, -, hcomments, -⟩ := listThread_some hthread
  rw [hcomments, unchanged] at hlisted
  exact ⟨accepted.handled, answered.handled,
    accepted.listed reached (List.mem_of_mem_take hlisted) hid⟩

end Created

/-! ## A root and a reply -/

/-- The record of a comment of a grown thread. -/
def grownRecord (parents : ℕ → ℕ) (index : ℕ) (depth : UInt16) : CommentRecord :=
  { id := UInt64.ofNat (index + 1), postId := 1, parentCommentId := UInt64.ofNat (parents index)
    authorPubkey := repeatedKey 1, authorHandle := ascii "alice", body := ascii "hi", createdAt := 0
    depth }

/-- The request for one more comment. -/
def grownRequest (parents : ℕ → ℕ) (index : ℕ) : CommentCreateRequest :=
  { postId := 1, parentCommentId := UInt64.ofNat (parents index), body := ascii "hi" }

/-- Its request is one that can be read. -/
theorem grownRequest_read (parents : ℕ → ℕ) (index : ℕ) :
    (CommentCreateRequest.readFrom (ByteReader.start (grownRequest parents index).writeTo)).1 =
      some (grownRequest parents index) :=
  CommentCreateRequest.exact.readFrom_start (show TextInRange _ (ascii "hi") by decide)

theorem greetings_reachable [Sodium] {parents : ℕ → ℕ} {count : ℕ}
    (older : ∀ index, parents index ≤ index) (hcount : (count : ℤ) ≤ maxRowid) :
    ReachableTables (grownThread parents (ascii "hi") count) :=
  grownThread_reachable (List.cons_ne_nil _ _) (by decide) older hcount

/-- The thread of a database that does not fail, with room for all its comments. -/
theorem threadAnswer_of_healthy {tables : Tables} {post : PostRecord} [Sodium]
    (hpost : findPostById { tables } 1 = some post)
    (hfew : (selectThread tables 1).length ≤ maxThreadComments) :
    ThreadAnswer (accountContext tables 1 (repeatedKey 1))
      (ByteReader.start (ThreadFetchRequest.writeTo { postId := 1 })) 1
      { post, comments := selectThread tables 1, truncated := 0 } where
  registered := rfl
  requested := ⟨{ postId := 1 }, ThreadFetchRequest.exact.readFrom_start trivial, rfl⟩
  post := hpost
  thread := by
    have healthy : DatabaseHandle.Healthy { tables } := rfl
    refine ⟨false, ?_, rfl⟩
    change listThread { tables } 1 maxThreadComments = _
    rw [listThread, healthy.query_eq, List.take_of_length_le (Nat.le_succ_of_le hfew),
      Option.map_some, List.take_of_length_le hfew, decide_eq_false (not_lt.mpr hfew)]

/-- A first comment, which answers no other one: the thread has the record of the answer. -/
theorem comment_views_iff_root :
    letI := transparentSodium
    let context := accountContext (grownThread (fun _ => 0) (ascii "hi") 0) 1 (repeatedKey 1)
    let fetching := accountContext (grownThread (fun _ => 0) (ascii "hi") 1) 1 (repeatedKey 1)
    let reader := ByteReader.start (grownRequest (fun _ => 0) 0).writeTo
    let fetch := ByteReader.start (ThreadFetchRequest.writeTo { postId := 1 })
    ∃ record response, routeMessage context .commentCreateRequest reader =
        sendMessage { context with database := { fetching.database with
          wal := [context.database.tables] } } .commentInfoResponse
          (CommentInfoResponse.writeTo { comment := record }) ∧
      routeMessage fetching .threadFetchRequest fetch =
        sendMessage fetching .threadResponse (ThreadResponse.writeTo response) ∧
      response.comments = [record] := by
  let := transparentSodium
  intro context fetching reader fetch
  have hbefore : ReachableTables context.database.tables :=
    greetings_reachable (fun index => Nat.zero_le index) (by decide)
  have hafter : ReachableTables (grownThread (fun _ => 0) (ascii "hi") 1) :=
    greetings_reachable (fun index => Nat.zero_le index) (by decide)
  have hsmall : (grownThread (fun _ => 0) (ascii "hi") 1).SmallCommentIds := by
    rw [Tables.SmallCommentIds]
    decide
  have hthread : selectThread (grownThread (fun _ => 0) (ascii "hi") 1) 1 =
      [grownRecord (fun _ => 0) 0 0] := by
    rw [selectThread_eq hafter.commentsInOrder hsmall]
    rfl
  have haccepted : CommentAnswer context reader (grownRequest (fun _ => 0) 0)
      (grownRecord (fun _ => 0) 0 0)
      { fetching.database with wal := [context.database.tables] } :=
    ⟨rfl, grownRequest_read .., rfl, rfl, rfl, 1, rfl, rfl⟩
  obtain ⟨post, hpost⟩ : ∃ post, findPostById fetching.database 1 = some post := ⟨_, rfl⟩
  have hanswered := threadAnswer_of_healthy hpost
    (show (selectThread (grownThread (fun _ => 0) (ascii "hi") 1) 1).length ≤ maxThreadComments by
      rw [hthread]
      decide)
  have hlisted : grownRecord (fun _ => 0) 0 0 ∈
      selectThread (grownThread (fun _ => 0) (ascii "hi") 1) 1 := by
    rw [hthread]
    exact List.mem_cons_self
  obtain ⟨hcreated, hfetched, -, -⟩ := comment_views_iff context fetching reader fetch _ _ _ 1 _ _
    hbefore haccepted rfl hanswered hlisted rfl
  exact ⟨_, _, hcreated, hfetched, hthread⟩

/-- A reply to a comment: the answer says depth 0 and the thread depth 1. -/
theorem reply_views_differ :
    letI := transparentSodium
    let context := accountContext (grownThread (fun index => index) (ascii "hi") 1) 1 (repeatedKey 1)
    let fetching := accountContext (grownThread (fun index => index) (ascii "hi") 2) 1 (repeatedKey 1)
    ∃ record response, ReachableTables context.database.tables ∧
      CommentAnswer context (ByteReader.start (grownRequest (fun index => index) 1).writeTo)
        (grownRequest (fun index => index) 1) record
        { fetching.database with wal := [context.database.tables] } ∧
      ThreadAnswer fetching (ByteReader.start (ThreadFetchRequest.writeTo { postId := 1 })) 1
        response ∧
      ∃ listed ∈ response.comments, listed.id = record.id ∧ listed ≠ record := by
  let := transparentSodium
  intro context fetching
  have hafter : ReachableTables (grownThread (fun index => index) (ascii "hi") 2) :=
    greetings_reachable (fun index => le_rfl) (by decide)
  have hsmall : (grownThread (fun index => index) (ascii "hi") 2).SmallCommentIds := by
    rw [Tables.SmallCommentIds]
    decide
  have hthread : selectThread (grownThread (fun index => index) (ascii "hi") 2) 1 =
      [grownRecord (fun index => index) 0 0, grownRecord (fun index => index) 1 1] := by
    rw [selectThread_eq hafter.commentsInOrder hsmall]
    rfl
  refine ⟨grownRecord (fun index => index) 1 0, _,
    greetings_reachable (fun index => le_rfl) (by decide),
    ⟨rfl, grownRequest_read .., rfl, rfl, rfl, 2, rfl, rfl⟩,
    threadAnswer_of_healthy rfl (by rw [hthread]; decide), grownRecord (fun index => index) 1 1,
    ?_, rfl, by decide⟩
  rw [hthread]
  exact List.mem_cons_of_mem _ List.mem_cons_self

end HyperCom
