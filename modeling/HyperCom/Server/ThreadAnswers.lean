import HyperCom.Protocol.ReplySizes
import HyperCom.Server.ThreadOrder

/-!
# Answers to a thread request

Two things a reader of a thread would rely on. That a response without the truncated
flag has every comment of the post holds as long as no comment is nested below
`MAX_COMMENT_DEPTH` (`thread_listed_whole_iff`): the flag speaks of the limit on rows
only, and nothing stops a reply to a comment that is not listed any more. That
a thread is answered at all holds as long as its encoding fits a frame
(`thread_answered_iff`), which long comments can exceed below every other cap.

Both conditions are on what is in the database, and both can be brought about by whoever may
write a comment. The first makes a thread look complete that is not; the second makes it
unreadable, and closes the connection of whoever asks for it.
-/

namespace HyperCom

open BinaryCodec RowStore

/-! ## The comments of the thread -/

section Ids

variable {tables : Tables} {postId : ℤ}

/-- The comments that are listed, in some order. -/
theorem selectThread_ids_perm (h : tables.CommentsInOrder) :
    ((selectThread tables postId).map CommentRecord.id).Perm
      ((tables.traversal postId).map fun node => castUInt64 node.1.id) := by
  refine (selectThread_perm.map _).trans (.of_eq ?_)
  exact map_of_records (map_some_filterMap fun node hnode => h.recordOf_isSome hnode)
    fun node _ record hrecord => (Tables.recordOf_some hrecord).1

/-- No comment is in the thread twice. -/
theorem selectThread_ids_nodup (h : tables.CommentsInOrder) (postId : ℤ) :
    ((selectThread tables postId).map CommentRecord.id).Nodup := by
  rw [(selectThread_ids_perm h).nodup_iff]
  refine List.pairwise_map.mpr ((List.pairwise_map.mp (h.traversal_nodup postId)).imp_of_mem ?_)
  intro first second hfirst hsecond hne heq
  have hgiven := h.given_out _ ((Tables.mem_traversal h).mp hfirst).2.1.known
  have hgiven' := h.given_out _ ((Tables.mem_traversal h).mp hsecond).2.1.known
  exact hne (castUInt64_eq ⟨hgiven.1.le, hgiven.2.2⟩ ⟨hgiven'.1.le, hgiven'.2.2⟩ heq)

/-- What is in the thread is a comment of the post. -/
theorem selectThread_comment (h : tables.CommentsInOrder) {record : CommentRecord}
    (hrecord : record ∈ selectThread tables postId) :
    ∃ comment ∈ tables.comments, comment.postId = postId ∧ castUInt64 comment.id = record.id := by
  have hmem := (selectThread_ids_perm h).mem_iff.mp (List.mem_map_of_mem hrecord)
  obtain ⟨node, hnode, hid⟩ := List.mem_map.mp hmem
  obtain ⟨hpost, hdistance, -⟩ := (Tables.mem_traversal h).mp hnode
  exact ⟨node.1, hdistance.known, hpost, hid⟩

/-- A comment of the post is in the thread if it is not nested too deep. -/
theorem selectThread_listed_iff (h : tables.CommentsInOrder) {comment : CommentRow}
    (hknown : comment ∈ tables.comments) (hpost : comment.postId = postId) :
    castUInt64 comment.id ∈ (selectThread tables postId).map CommentRecord.id ↔
      ∃ distance ≤ maxCommentDepth, tables.DistanceToRoot comment distance := by
  rw [(selectThread_ids_perm h).mem_iff, List.mem_map]
  constructor
  · rintro ⟨node, hnode, hid⟩
    obtain ⟨-, hdistance, hle⟩ := (Tables.mem_traversal h).mp hnode
    have hgiven := h.given_out _ hdistance.known
    have hgiven' := h.given_out _ hknown
    obtain rfl := h.eq_of_id hdistance.known hknown
      (castUInt64_eq ⟨hgiven.1.le, hgiven.2.2⟩ ⟨hgiven'.1.le, hgiven'.2.2⟩ hid)
    exact ⟨node.2, hle, hdistance⟩
  · rintro ⟨distance, hle, hdistance⟩
    exact ⟨(comment, distance), (Tables.mem_traversal h).mpr ⟨hpost, hdistance, hle⟩, rfl⟩

/-- A thread of which not every row was seen has a comment that is not among those seen. -/
theorem selectThread_unseen (h : tables.CommentsInOrder) {seen : ℕ}
    (hlt : seen < (selectThread tables postId).length) :
    ∃ comment ∈ tables.comments, comment.postId = postId ∧
      castUInt64 comment.id ∉ ((selectThread tables postId).take seen).map CommentRecord.id := by
  obtain ⟨comment, hknown, hpost, hid⟩ := selectThread_comment h (List.getElem_mem hlt)
  refine ⟨comment, hknown, hpost, fun hmem => ?_⟩
  have hnodup := selectThread_ids_nodup h postId
  rw [← List.take_append_drop seen (selectThread tables postId), List.map_append] at hnodup
  refine (List.nodup_append.mp hnodup).2.2 _ hmem _ ?_ rfl
  rw [hid, List.drop_eq_getElem_cons hlt, List.map_cons]
  exact List.mem_cons_self

end Ids

/-! ## Complete responses -/

/-- Where a response does not say it is truncated, every comment of the post is in
it exactly once. -/
def Tables.ListedWhole (tables : Tables) (postId : ℤ) (response : ThreadResponse) : Prop :=
  response.truncated = 0 → ∀ comment ∈ tables.comments, comment.postId = postId →
    (response.comments.map CommentRecord.id).count (castUInt64 comment.id) = 1

/-- No comment of a post is nested below the cap. -/
def Tables.NestedWithinCap (tables : Tables) (postId : ℤ) : Prop :=
  ∀ comment ∈ tables.comments, comment.postId = postId →
    ∃ distance ≤ maxCommentDepth, tables.DistanceToRoot comment distance

/-- Either the rows are too many and the ones that show this are delivered, or they
are all delivered and the cap on the depth leaves nothing out. -/
def DatabaseHandle.FlagSuffices (database : DatabaseHandle) (postId : ℤ) : Prop :=
  let listed := (database.tables.traversal postId).length
  (maxThreadComments < listed ∧ database.Delivers .listThread (maxThreadComments + 1)) ∨
    (listed ≤ maxThreadComments ∧ database.Delivers .listThread listed ∧
      database.tables.NestedWithinCap postId)

/-- What a `thread_fetch_request` of a registered session for an existing post is
answered with. -/
structure ThreadAnswer (context : HandlerContext) (reader : ByteReader) (postId : ℤ)
    (response : ThreadResponse) : Prop where
  registered : context.connection.session.isRegistered = true
  requested : ∃ request, (ThreadFetchRequest.readFrom reader).1 = some request ∧
    castInt64 request.postId = postId
  post : findPostById context.database postId = some response.post
  thread : ∃ truncated, listThread context.database postId maxThreadComments =
    some (response.comments, truncated) ∧ response.truncated = if truncated then 1 else 0

/-- The response lists everything if and only if the flag is enough to tell. -/
theorem listedWhole_iff {database : DatabaseHandle} {postId : ℤ} {response : ThreadResponse}
    {truncated : Bool} (h : database.tables.CommentsInOrder)
    (listed : listThread database postId maxThreadComments = some (response.comments, truncated))
    (flag : response.truncated = if truncated then 1 else 0) :
    database.tables.ListedWhole postId response ↔ database.FlagSuffices postId := by
  obtain ⟨seen, hle, hcomments, htruncated, hdelivers, hstopped⟩ := listThread_some listed
  rw [selectThread_length h] at hle hstopped
  have hlength : (selectThread database.tables postId).length =
      (database.tables.traversal postId).length := selectThread_length h
  rcases Nat.lt_or_ge maxThreadComments seen with hmore | hfew
  · -- the row behind the limit was seen, and the flag is set
    have hset : response.truncated ≠ 0 := by
      rw [flag, htruncated, decide_eq_true hmore]
      decide
    refine ⟨fun _ => .inl ⟨by omega, fun step hstep => hdelivers step (by omega)⟩, fun _ hzero => ?_⟩
    exact absurd hzero hset
  · have hzero : response.truncated = 0 := by
      rw [flag, htruncated, decide_eq_false (not_lt.mpr hfew)]
      rfl
    rw [Nat.min_eq_right hfew] at hcomments
    constructor
    · intro hwhole
      have hwhole := hwhole hzero
      -- a row that was not seen is not in the response
      have hall : seen = (database.tables.traversal postId).length := by
        by_contra hne
        obtain ⟨comment, hknown, hpost, hunseen⟩ :=
          selectThread_unseen h (show seen < (selectThread database.tables postId).length by omega)
        have hcount := hwhole comment hknown hpost
        rw [hcomments, List.count_eq_zero_of_not_mem hunseen] at hcount
        cases hcount
      refine .inr ⟨by omega, hall ▸ hdelivers, fun comment hknown hpost => ?_⟩
      rw [← selectThread_listed_iff h hknown hpost]
      have hcount := hwhole comment hknown hpost
      rw [hcomments, List.take_of_length_le (by omega)] at hcount
      exact List.count_pos_iff.mp (by omega)
    · rintro (⟨hmany, hrows⟩ | ⟨hfits, hrows, hnested⟩) -
      · have hfails := hstopped (by omega)
        rw [hrows seen (by omega)] at hfails
        cases hfails
      · have hall : seen = (database.tables.traversal postId).length := by
          by_contra hne
          have hfails := hstopped (by omega)
          rw [hrows seen (by omega)] at hfails
          cases hfails
        intro comment hknown hpost
        rw [hcomments, List.take_of_length_le (by omega)]
        exact List.count_eq_one_of_mem (selectThread_ids_nodup h postId)
          ((selectThread_listed_iff h hknown hpost).mpr (hnested comment hknown hpost))

section Answered

variable [Sodium]

/-- What a thread request is answered with. -/
theorem ThreadAnswer.handled {context : HandlerContext} {reader : ByteReader} {postId : ℤ}
    {response : ThreadResponse} (h : ThreadAnswer context reader postId response) :
    handleThreadFetchRequest context reader =
      sendMessage context .threadResponse response.writeTo := by
  obtain ⟨request, decoded, rfl⟩ := h.requested
  obtain ⟨truncated, hthread, hflag⟩ := h.thread
  rw [handleThreadFetchRequest, guardedRequest_decoded h.registered decoded]
  simp only [h.post, hthread, ← hflag]

/-- In every database the server can reach, the thread response of every request is
complete where it does not say otherwise, if and only if the flag is enough to tell. -/
theorem thread_listed_whole_iff (context : HandlerContext) (reader : ByteReader) (postId : ℤ)
    (response : ThreadResponse) (reached : ReachableTables context.database.tables)
    (answered : ThreadAnswer context reader postId response) :
    handleThreadFetchRequest context reader =
        sendMessage context .threadResponse response.writeTo ∧
      (context.database.tables.ListedWhole postId response ↔
        context.database.FlagSuffices postId) := by
  obtain ⟨truncated, hthread, hflag⟩ := answered.thread
  exact ⟨answered.handled, listedWhole_iff reached.commentsInOrder hthread hflag⟩

/-- The author asks for the post with its comments. -/
theorem grownThread_answered (parents : ℕ → ℕ) (body : ByteString) (count : ℕ) :
    ∃ response, ThreadAnswer (accountContext (grownThread parents body count) 1 (repeatedKey 1))
      (ByteReader.start (ThreadFetchRequest.writeTo { postId := 1 })) 1 response := by
  have hlisted : (listThread { tables := grownThread parents body count } 1
      maxThreadComments).isSome = true := listThread_isSome rfl
  obtain ⟨⟨comments, truncated⟩, hthread⟩ := Option.isSome_iff_exists.mp hlisted
  exact ⟨{ post := _, comments, truncated := if truncated then 1 else 0 },
    rfl, ⟨{ postId := 1 }, ThreadFetchRequest.exact.readFrom_start trivial, rfl⟩, rfl,
    truncated, hthread, rfl⟩

omit [Sodium] in
/-- A reply between two roots: everything is listed. -/
theorem thread_listed_whole_iff_three :
    letI := transparentSodium
    let tables := grownThread (fun index => index % 2) (ascii "hi") 3
    ∃ response, ThreadAnswer (accountContext tables 1 (repeatedKey 1))
      (ByteReader.start (ThreadFetchRequest.writeTo { postId := 1 })) 1 response ∧
      tables.ListedWhole 1 response := by
  intro tables
  let _ := transparentSodium
  obtain ⟨response, answered⟩ := grownThread_answered (fun index => index % 2) (ascii "hi") 3
  have hreached : ReachableTables tables := grownThread_reachable (List.cons_ne_nil _ _)
    (by decide) (fun index => Nat.mod_le index 2) (by decide)
  refine ⟨response, answered,
    (thread_listed_whole_iff _ _ 1 response hreached answered).2.mpr (.inr ⟨?_, fun _ _ => rfl, ?_⟩)⟩
  · change (tables.traversal 1).length ≤ maxThreadComments
    decide
  · intro comment hknown _
    have hall : ∀ comment ∈ tables.comments, comment ∈ (tables.traversal 1).map Prod.fst := by
      decide
    obtain ⟨node, hnode, rfl⟩ := List.mem_map.mp (hall comment hknown)
    obtain ⟨-, hdistance, hle⟩ := (Tables.mem_traversal hreached.commentsInOrder).mp hnode
    exact ⟨node.2, hle, hdistance⟩

omit [Sodium] in
/-- In a chain each comment is one deeper than the one before. -/
theorem chain_distance (body : ByteString) (count index : ℕ) (h : index < count) :
    (grownThread (fun index => index) body count).DistanceToRoot
      (grownComment (fun index => index) body index) index := by
  have hknown : grownComment (fun index => index) body index ∈
      (grownThread (fun index => index) body count).comments :=
    List.mem_map_of_mem (List.mem_range.mpr h)
  induction index with
  | zero => exact .root hknown rfl
  | succ index ih =>
    have hlt : index < count := (Nat.lt_succ_self index).trans h
    have habove := ih hlt (List.mem_map_of_mem (List.mem_range.mpr hlt))
    refine .reply hknown ?_ habove
    rw [grownComment, if_neg (Nat.succ_ne_zero index)]
    rfl

omit [Sodium] in
/-- Twenty-six comments, each a reply to the one before: the last one is not listed,
and the response does not say so. -/
theorem deep_reply_unlisted :
    letI := transparentSodium
    let tables := grownThread (fun index => index) (ascii "hi") 26
    ReachableTables tables ∧
      ∃ response, ThreadAnswer (accountContext tables 1 (repeatedKey 1))
        (ByteReader.start (ThreadFetchRequest.writeTo { postId := 1 })) 1 response ∧
        response.truncated = 0 ∧ ¬ tables.ListedWhole 1 response := by
  intro tables
  let _ := transparentSodium
  have hreached : ReachableTables tables := grownThread_reachable (List.cons_ne_nil _ _)
    (by decide) (fun index => le_rfl) (by decide)
  obtain ⟨response, answered⟩ := grownThread_answered (fun index => index) (ascii "hi") 26
  obtain ⟨truncated, hthread, hflag⟩ := answered.thread
  have hlost : ¬ tables.ListedWhole 1 response := by
    refine (not_congr (listedWhole_iff hreached.commentsInOrder hthread hflag)).mpr ?_
    rintro (⟨hmany, -⟩ | ⟨-, -, hnested⟩)
    · have hlength : (tables.traversal 1).length = 25 := by decide +kernel
      have hmany : maxThreadComments < (tables.traversal 1).length := hmany
      rw [hlength] at hmany
      exact absurd hmany (by decide)
    · have hlast := chain_distance (ascii "hi") 26 25 (by decide)
      obtain ⟨distance, hle, hdistance⟩ := hnested _ hlast.known rfl
      have hsame := hdistance.unique hreached.commentsInOrder hlast
      rw [hsame] at hle
      exact absurd hle (by decide)
  exact ⟨hreached, response, answered, (Classical.not_imp.mp hlost).1, hlost⟩

end Answered

/-! ## Responses that fit -/

/-- The bytes of a thread: those of its texts, and what a post, a comment and the
response take besides. -/
def encodedThreadSize (post : PostRecord) (comments : List CommentRecord) : ℕ :=
  75 + (post.authorHandle.length + post.title.length + post.body.length) +
    (comments.map fun comment => 74 + (comment.authorHandle.length + comment.body.length)).sum

/-- The length of the reply, from the sizes of its parts. -/
theorem threadResponse_length (response : ThreadResponse) :
    response.writeTo.length = encodedThreadSize response.post response.comments := by
  have hcomments : (response.comments.map fun comment => comment.writeTo.length) =
      response.comments.map fun comment =>
        74 + (comment.authorHandle.length + comment.body.length) :=
    List.map_congr_left fun comment _ => comment.writeTo_length
  simp [ThreadResponse.writeTo, encodedThreadSize, writeRecordList, UnsignedInteger.size,
    List.length_flatMap, PostRecord.writeTo_length, hcomments]
  omega

/-- The post as a response carries it. -/
def Tables.postRecordOf (tables : Tables) (postId : ℤ) : Option PostRecord :=
  (selectPost tables (fun body => body) (tables.posts.filter fun post => post.id = postId)).head?

/-- The comments whose rows `list_thread` is delivered. -/
def DatabaseHandle.deliveredThread (database : DatabaseHandle) (postId : ℤ) : List CommentRecord :=
  (DatabaseHandle.stepRows (fun step => database.faults .listThread (step + 1)) 0
    ((selectThread database.tables postId).take (maxThreadComments + 1))).take maxThreadComments

/-- The post is read and the query of its comments prepared, and the texts of what is
delivered leave room in a frame. -/
structure DatabaseHandle.ThreadFits (database : DatabaseHandle) (postId : ℤ) : Prop where
  found : ∀ call ≤ 1, database.faults .findPostById call = false
  prepared : database.faults .listThread 0 = false
  fits : ∀ post, database.tables.postRecordOf postId = some post →
    encodedThreadSize post (database.deliveredThread postId) ≤ maxPayloadSize

section Fits

variable {database : DatabaseHandle} {postId : ℤ}

/-- A post with an author has a record. -/
theorem Tables.PostsAuthored.postRecordOf_isSome {tables : Tables} (h : tables.PostsAuthored)
    (existing : ∃ post ∈ tables.posts, post.id = postId) :
    (tables.postRecordOf postId).isSome = true := by
  obtain ⟨post, hknown, hid⟩ := existing
  obtain ⟨author, hauthor⟩ := Option.isSome_iff_exists.mp (Tables.userOf_isSome (h post hknown))
  rw [Tables.postRecordOf, List.isSome_head?, selectPost, Ne, List.filterMap_eq_nil_iff]
  intro hnone
  have hdropped := hnone post (List.mem_filter.mpr ⟨hknown, decide_eq_true hid⟩)
  rw [hauthor] at hdropped
  cases hdropped

/-- The post, unless one of the two steps fails. -/
theorem findPostById_eq : findPostById database postId =
    if database.faults .findPostById 0 || database.faults .findPostById 1 then none
    else database.tables.postRecordOf postId := by
  rw [findPostById, DatabaseHandle.queryFirst, DatabaseHandle.query, Tables.postRecordOf]
  generalize selectPost _ _ _ = rows
  rcases hprepared : database.faults .findPostById 0 with _ | _
  · rcases hstep : database.faults .findPostById 1 with _ | _
    · cases rows <;> simp [DatabaseHandle.stepRows, hstep]
    · cases rows <;> simp [DatabaseHandle.stepRows, hstep]
  · rfl

/-- The comments that the steps deliver. -/
theorem listThread_eq : listThread database postId maxThreadComments =
    if database.faults .listThread 0 then none
    else some (database.deliveredThread postId, decide (maxThreadComments <
      (DatabaseHandle.stepRows (fun step => database.faults .listThread (step + 1)) 0
        ((selectThread database.tables postId).take (maxThreadComments + 1))).length)) := by
  rw [listThread, DatabaseHandle.query]
  split <;> rfl

end Fits

section Queued

variable [Sodium] {context : HandlerContext} {transport : NoiseTransport}

/-- What the reader of a thread asks for: the connection stays open, and a thread
response is queued on it. -/
def QueuesThread (transport : NoiseTransport) (out : Bool × HandlerContext) : Prop :=
  out.1 = true ∧ ∃ response : ThreadResponse, out.2.connection.socket.pendingOutput =
    wireMessage transport.sendKey transport.sendCounter
      (frameBytes .threadResponse response.writeTo)

/-- A thread response is queued if it fits a frame, and closes the connection if not. -/
theorem queuesThread_iff (ready : ReadyToSend context transport) (response : ThreadResponse) :
    QueuesThread transport (sendMessage context .threadResponse response.writeTo) ↔
      encodedThreadSize response.post response.comments ≤ maxPayloadSize := by
  rw [← threadResponse_length]
  constructor
  · rintro ⟨hopen, -⟩
    by_contra hlarge
    rw [sendMessage_oversized (not_le.mp hlarge)] at hopen
    cases hopen
  · intro hfits
    obtain ⟨hopen, hqueued⟩ := sendMessage_drained ready hfits
    exact ⟨hopen, response, hqueued⟩

/-- An error is no thread: it is shorter. -/
theorem statusError_not_thread (ready : ReadyToSend context transport) (code : ErrorCode) :
    ¬ QueuesThread transport (sendStatusError context code) := by
  have hshort : (StatusErrorResponse.writeTo { code, detail := describeErrorCode code }).length <
      75 := by
    cases code <;> decide
  rintro ⟨-, response, hqueued⟩
  have hfits := hshort.le.trans (show 75 ≤ maxPayloadSize by decide)
  rw [sendStatusError, (sendMessage_drained ready hfits).2] at hqueued
  have hlength := congrArg List.length hqueued
  rw [wireMessage_length, wireMessage_length, frameBytes_length, frameBytes_length,
    threadResponse_length, encodedThreadSize] at hlength
  omega

end Queued

/-! ## A post with many long comments -/

section Flat

variable {tables : Tables} {postId : ℤ} {body : ByteString} {count : ℕ}

/-- With no comment too deep, the traversal is as long as the comments are many. -/
theorem traversal_length (h : tables.CommentsInOrder) (hnested : tables.NestedWithinCap postId) :
    (tables.traversal postId).length =
      (tables.comments.filter fun comment => comment.postId = postId).length := by
  have hnodup : ((tables.traversal postId).map Prod.fst).Nodup := by
    have hids : (((tables.traversal postId).map Prod.fst).map CommentRow.id).Nodup := by
      rw [List.map_map]
      exact h.traversal_nodup postId
    exact hids.of_map
  have hperm : ((tables.traversal postId).map Prod.fst).Perm
      (tables.comments.filter fun comment => comment.postId = postId) := by
    refine (List.perm_ext_iff_of_nodup hnodup (h.nodup.filter _)).mpr fun comment => ?_
    rw [List.mem_map, List.mem_filter]
    constructor
    · rintro ⟨node, hnode, rfl⟩
      obtain ⟨hpost, hdistance, -⟩ := (Tables.mem_traversal h).mp hnode
      exact ⟨hdistance.known, decide_eq_true hpost⟩
    · rintro ⟨hknown, hpost⟩
      obtain ⟨distance, hle, hdistance⟩ := hnested comment hknown (of_decide_eq_true hpost)
      exact ⟨(comment, distance), (Tables.mem_traversal h).mpr
        ⟨of_decide_eq_true hpost, hdistance, hle⟩, rfl⟩
  rw [← hperm.length_eq, List.length_map]

/-- The thread of comments that all answer the post. -/
theorem flatThread_size (h : (grownThread (fun _ => 0) body count).CommentsInOrder)
    (hcount : count ≤ maxThreadComments) {post : PostRecord}
    (hpost : (grownThread (fun _ => 0) body count).postRecordOf 1 = some post) :
    encodedThreadSize post (DatabaseHandle.deliveredThread
      { tables := grownThread (fun _ => 0) body count } 1) = 90 + count * (79 + body.length) := by
  set tables := grownThread (fun _ => 0) body count with htables
  have hcomments : ∀ comment ∈ tables.comments, comment.postId = 1 ∧ comment.authorId = 1 ∧
      comment.parentCommentId = none ∧ comment.body = body := by
    intro comment hmem
    obtain ⟨index, -, rfl⟩ := List.mem_map.mp hmem
    exact ⟨rfl, rfl, rfl, rfl⟩
  have hnested : tables.NestedWithinCap 1 := fun comment hmem _ =>
    ⟨0, Nat.zero_le _, .root hmem (hcomments comment hmem).2.2.1⟩
  have hlength : (selectThread tables 1).length = count := by
    rw [selectThread_length h, traversal_length h hnested, List.filter_eq_self.mpr fun comment hmem =>
      decide_eq_true (hcomments comment hmem).1]
    exact (List.length_map _).trans List.length_range
  have hdelivered : DatabaseHandle.deliveredThread { tables } 1 = selectThread tables 1 := by
    change (DatabaseHandle.stepRows (fun _ => false) 0
      ((selectThread tables 1).take (maxThreadComments + 1))).take maxThreadComments = _
    rw [DatabaseHandle.stepRows_never, List.take_take, List.take_of_length_le (by omega)]
  have hsizes : (selectThread tables 1).map (fun comment =>
      74 + (comment.authorHandle.length + comment.body.length)) =
        List.replicate count (79 + body.length) := by
    rw [List.eq_replicate_iff, List.length_map, hlength]
    refine ⟨rfl, fun size hsize => ?_⟩
    obtain ⟨record, hrecord, rfl⟩ := List.mem_map.mp hsize
    obtain ⟨node, hnode, hrecord⟩ := List.mem_filterMap.mp (selectThread_perm.mem_iff.mp hrecord)
    obtain ⟨-, hauthorId, -, hbody⟩ := hcomments _ ((Tables.mem_traversal h).mp hnode).2.1.known
    obtain ⟨author, hauthor, rfl⟩ := Option.map_eq_some_iff.mp hrecord
    rw [hauthorId] at hauthor
    obtain rfl := Option.some.inj hauthor
    rw [hbody]
    change 74 + (5 + body.length) = 79 + body.length
    omega
  rw [encodedThreadSize, hdelivered, hsizes, List.sum_replicate_nat]
  obtain rfl := Option.some.inj hpost
  rfl

end Flat

/-! ## Which threads are answered -/

/-- For every post and every thread: the response is queued and the connection stays
open if and only if SQLite reads what it is asked for and it fits a frame. -/
theorem thread_answered_iff [Sodium] (context : HandlerContext) (transport : NoiseTransport)
    (reader : ByteReader) (request : ThreadFetchRequest)
    (reached : ReachableTables context.database.tables) (ready : ReadyToSend context transport)
    (decoded : (ThreadFetchRequest.readFrom reader).1 = some request)
    (existing : ∃ post ∈ context.database.tables.posts, post.id = castInt64 request.postId) :
    QueuesThread transport (handleThreadFetchRequest context reader) ↔
      context.database.ThreadFits (castInt64 request.postId) := by
  set database := context.database
  obtain ⟨post, hpost⟩ := Option.isSome_iff_exists.mp
    (reached.postsAuthored.postRecordOf_isSome existing)
  rw [handleThreadFetchRequest, guardedRequest_decoded ready.registered decoded, findPostById_eq]
  rcases hfound : database.faults .findPostById 0 || database.faults .findPostById 1 with _ | _
  · rw [if_neg Bool.false_ne_true, hpost]
    dsimp only
    rw [listThread_eq]
    rcases hprepared : database.faults .listThread 0 with _ | _
    · rw [if_neg Bool.false_ne_true]
      refine (queuesThread_iff ready _).trans ⟨fun hfits => ⟨?_, hprepared, ?_⟩, ?_⟩
      · rw [Bool.or_eq_false_iff] at hfound
        intro call hcall
        rcases Nat.le_one_iff_eq_zero_or_eq_one.mp hcall with rfl | rfl
        · exact hfound.1
        · exact hfound.2
      · intro other hother
        rw [Option.some.inj (hother.symm.trans hpost)]
        exact hfits
      · exact fun h => h.fits post hpost
    · refine iff_of_false (statusError_not_thread ready _) fun h => ?_
      rw [h.prepared] at hprepared
      cases hprepared
  · refine iff_of_false (statusError_not_thread ready _) fun h => ?_
    rw [h.found 0 (by decide), h.found 1 (by decide)] at hfound
    cases hfound

/-- Comments of the largest size that another account can write. -/
def longestComment : ByteString := List.replicate maxCommentBodyLength 0x61

/-- A comment as long as any that can be written. -/
theorem longestComment_inRange : longestComment ≠ [] ∧ TextInRange maxCommentBodyLength longestComment := by
  have hlength : longestComment.length = maxCommentBodyLength := List.length_replicate
  refine ⟨List.ne_nil_of_length_pos (by rw [hlength]; decide), hlength.le, ?_⟩
  refine validateTextField_of_ascii fun byte hbyte => ?_
  rw [(List.mem_replicate.mp hbyte).2]
  decide

/-- Any number of them can be. -/
theorem flatThread_reachable [Sodium] {count : ℕ} (hcount : (count : ℤ) ≤ maxRowid) :
    ReachableTables (grownThread (fun _ => 0) longestComment count) :=
  grownThread_reachable longestComment_inRange.1 longestComment_inRange.2 (fun _ => Nat.zero_le _)
    hcount

/-- A hundred and twenty-six of them are served. -/
theorem thread_answered_iff_longest :
    letI := transparentSodium
    let context := accountContext (grownThread (fun _ => 0) longestComment 126) 1 (repeatedKey 1)
    QueuesThread (NoiseTransport.create (FixedBytes.zero _) (FixedBytes.zero _))
      (handleThreadFetchRequest context
        (ByteReader.start (ThreadFetchRequest.writeTo { postId := 1 }))) := by
  intro context
  let _ := transparentSodium
  have hreached : ReachableTables context.database.tables := flatThread_reachable (by decide)
  have ready := accountContext_ready (grownThread (fun _ => 0) longestComment 126) (repeatedKey 1)
    (show (1 : ℤ) ≠ 0 by decide)
  refine (thread_answered_iff context _ _ { postId := 1 } hreached ready.toSend
    (ThreadFetchRequest.exact.readFrom_start trivial) ⟨_, List.mem_singleton_self _, rfl⟩).mpr
    ⟨fun _ _ => rfl, rfl, fun post hpost => ?_⟩
  have hsize := flatThread_size hreached.commentsInOrder (by decide) hpost
  have hlength : longestComment.length = maxCommentBodyLength := List.length_replicate
  rw [hlength] at hsize
  refine hsize.le.trans ?_
  decide

/-- A hundred and twenty-seven are not, although as many accepted requests put them
there: whoever reads the post loses the connection. -/
theorem long_thread_closes_reader :
    letI := transparentSodium
    let tables := grownThread (fun _ => 0) longestComment 127
    let context := accountContext tables 1 (repeatedKey 1)
    ReachableTables tables ∧
    ReadyToAnswer context (NoiseTransport.create (FixedBytes.zero _) (FixedBytes.zero _)) ∧
    (handleThreadFetchRequest context
      (ByteReader.start (ThreadFetchRequest.writeTo { postId := 1 }))).1 = false := by
  intro tables context
  let _ := transparentSodium
  have hreached : ReachableTables tables := flatThread_reachable (by decide)
  have ready := accountContext_ready tables (repeatedKey 1) (show (1 : ℤ) ≠ 0 by decide)
  obtain ⟨response, answered⟩ := grownThread_answered (fun _ => 0) longestComment 127
  obtain ⟨truncated, hthread, -⟩ := answered.thread
  have hpost : tables.postRecordOf 1 = some response.post := by
    have hfound := answered.post
    rw [findPostById_eq] at hfound
    exact hfound
  have hcomments : DatabaseHandle.deliveredThread { tables } 1 = response.comments := by
    rw [listThread_eq] at hthread
    exact (Prod.mk.inj (Option.some.inj hthread)).1
  have hlarge : maxPayloadSize < response.writeTo.length := by
    have hlength : longestComment.length = maxCommentBodyLength := List.length_replicate
    rw [threadResponse_length, ← hcomments,
      flatThread_size hreached.commentsInOrder (by decide) hpost, hlength]
    decide
  refine ⟨hreached, ready, ?_⟩
  rw [answered.handled]
  exact congrArg Prod.fst (sendMessage_oversized hlarge)

end HyperCom
