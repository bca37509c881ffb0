import HyperCom.Server.Inbox
import HyperCom.Server.TableWrites

/-!
# Threads that requests build

What `comment_create_request` adds to a database that does not fail
(`handleCommentCreateRequest_adds`), and from it that every shape of thread can be
reached: a post of one account, with any number of comments that each answer one of
the earlier ones (`grownThread_reachable`).

The tables are built by the handlers from the empty database, one request after the other,
and evaluated step by step; so the examples of other modules can start from a database with
accounts, a forum and a post in it and still say that it can be reached. Alice is the
account with id 1, and bob, where there is one, the account with id 2.
-/

namespace HyperCom

/-- The tables with one comment more. -/
def Tables.withComment (tables : Tables) (comment : CommentRow) : Tables :=
  { tables with
    comments := tables.comments ++ [comment]
    commentsSequence := comment.id }

/-- A post of one account and `count` comments on it. The `index`-th answers the
comment `parents index`, and is a root where that is 0. -/
def grownComment (parents : ℕ → ℕ) (body : ByteString) (index : ℕ) : CommentRow :=
  { id := (index : ℤ) + 1, postId := 1
    parentCommentId := if parents index = 0 then none else some (parents index : ℤ)
    authorId := 1, body, createdAt := 0 }

/-- An account, its forum and its post. -/
def openedPost : Tables :=
  { users := [{ id := 1, pubkey := repeatedKey 1, handle := ascii "alice", banned := false }]
    usersSequence := 1
    profiles := [{ userId := 1, displayName := [], bio := [], themeJson := [], bannerRef := [] }]
    forums := [{ id := 1, name := ascii "lounge", founderId := 1, description := [], themeJson := []
                 createdAt := 0 }]
    forumsSequence := 1
    posts := [{ id := 1, forumId := 1, authorId := 1, title := ascii "hello", body := ascii "world"
                createdAt := 0 }]
    postsSequence := 1 }

def grownThread (parents : ℕ → ℕ) (body : ByteString) (count : ℕ) : Tables :=
  { openedPost with
    comments := (List.range count).map (grownComment parents body)
    commentsSequence := count }

/-- A comment that is there passes the check. -/
theorem checkParentBelongsToPost_of_mem {database : DatabaseHandle} (healthy : database.Healthy)
    {parent : CommentRow} (known : parent ∈ database.tables.comments) :
    checkParentBelongsToPost database parent.id parent.postId = true := by
  have hselected : parent ∈ database.tables.comments.filter fun comment =>
      comment.id = parent.id && comment.postId = parent.postId :=
    List.mem_filter.mpr ⟨known, by simp⟩
  rw [checkParentBelongsToPost, DatabaseHandle.queryFirst, healthy.query_eq, Option.bind_some,
    Option.isSome_iff_ne_none]
  exact fun hnone => List.ne_nil_of_mem hselected (List.head?_eq_none_iff.mp hnone)

section Rows

variable {parents : ℕ → ℕ} {body : ByteString} {count : ℕ}

/-- What a comment answers is an earlier comment of the post. -/
theorem grownThread_parent (older : parents count ≤ count) (hanswers : parents count ≠ 0) :
    ∃ parent ∈ (grownThread parents body count).comments,
      parent.id = parents count ∧ parent.postId = 1 := by
  refine ⟨grownComment parents body (parents count - 1),
    List.mem_map_of_mem (List.mem_range.mpr (by omega)), ?_, rfl⟩
  change ((parents count - 1 : ℕ) : ℤ) + 1 = parents count
  omega

/-- The row of one more comment. -/
theorem grownThread_insert (older : parents count ≤ count) (hcount : (count : ℤ) < maxRowid) :
    insertCommentRow 1 (parents count) 1 body 0 (grownThread parents body count) =
      some ((grownComment parents body count).id,
        (grownThread parents body count).withComment (grownComment parents body count)) := by
  have hid : nextRowid (grownThread parents body count).commentsSequence =
      some ((count : ℤ) + 1) := if_neg (not_le.mpr hcount)
  have hcolumn : (if (parents count : ℤ) = 0 then none else some (parents count : ℤ)) =
      (grownComment parents body count).parentCommentId := by
    simp only [grownComment, Nat.cast_eq_zero]
  have hknown : ((grownComment parents body count).parentCommentId.all fun id =>
      (grownThread parents body count).comments.any fun comment => comment.id = id) = true := by
    rw [grownComment]
    split
    · rfl
    · next hanswers =>
      obtain ⟨parent, known, hid, -⟩ := grownThread_parent older hanswers
      exact List.any_eq_true.mpr ⟨parent, known, decide_eq_true hid⟩
  have hpost : ((grownThread parents body count).posts.any fun post => post.id = 1) = true := rfl
  have huser : (grownThread parents body count).hasUser 1 = true := rfl
  simp only [insertCommentRow, hcolumn, hknown, hpost, huser, hid]
  rfl

end Rows

variable [Sodium]

/-- A comment on a known post, from a registered session. -/
theorem handleCommentCreateRequest_adds {context : HandlerContext} {reader : ByteReader}
    {request : CommentCreateRequest} {post : PostRecord} {comment : CommentRow}
    (registered : context.connection.session.isRegistered = true)
    (healthy : context.database.Healthy)
    (decoded : (CommentCreateRequest.readFrom reader).1 = some request) (hbody : request.body ≠ [])
    (hpost : findPostById context.database (castInt64 request.postId) = some post)
    (hparent : request.parentCommentId = 0 ∨ checkParentBelongsToPost context.database
      (castInt64 request.parentCommentId) (castInt64 request.postId) = true)
    (hrow : insertCommentRow (castInt64 request.postId) (castInt64 request.parentCommentId)
      context.connection.session.userId request.body context.ambient.unixTimestamp
      context.database.tables = some (comment.id, context.database.tables.withComment comment)) :
    (handleCommentCreateRequest context reader).2.database.tables =
      context.database.tables.withComment comment := by
  have hempty : request.body.isEmpty = false := List.isEmpty_eq_false_iff.mpr hbody
  have hchecked : ¬ (decide (request.parentCommentId ≠ 0) && !checkParentBelongsToPost
      context.database (castInt64 request.parentCommentId) (castInt64 request.postId)) = true := by
    rcases hparent with hroot | hbelongs
    · simp [hroot]
    · simp [hbelongs]
  rw [handleCommentCreateRequest, guardedRequest_decoded registered decoded]
  simp only [hempty, hpost, hchecked, createComment, healthy.write_eq hrow, Bool.false_eq_true, if_false]
  split
  · rfl
  · rfl

section Grown

variable {parents : ℕ → ℕ} {body : ByteString} {count : ℕ}

/-- One more comment. -/
theorem grownThread_succ (hpos : body ≠ []) (hbody : TextInRange maxCommentBodyLength body)
    (older : parents count ≤ count) (hcount : (count : ℤ) < maxRowid) :
    (handleCommentCreateRequest (accountContext (grownThread parents body count) 1 (repeatedKey 1))
      (ByteReader.start (CommentCreateRequest.writeTo
        { postId := 1, parentCommentId := castUInt64 (parents count), body }))).2.database.tables =
      grownThread parents body (count + 1) := by
  have ready := accountContext_ready (grownThread parents body count) (repeatedKey 1)
    (show (1 : ℤ) ≠ 0 by decide)
  have hcast : castInt64 (castUInt64 (parents count)) = parents count := by
    rw [maxRowid] at hcount
    exact castInt64_castUInt64 (by omega) (by omega)
  have hparent : castUInt64 (parents count) = 0 ∨ checkParentBelongsToPost
      (accountContext (grownThread parents body count) 1 (repeatedKey 1)).database
      (castInt64 (castUInt64 (parents count))) (castInt64 1) = true := by
    rcases Nat.eq_zero_or_pos (parents count) with hroot | hanswers
    · left
      rw [hroot]
      rfl
    · right
      obtain ⟨parent, known, hid, hpost⟩ :=
        grownThread_parent older (Nat.ne_of_gt hanswers)
      have hchecked := checkParentBelongsToPost_of_mem ready.healthy known
      rwa [hid, hpost, ← hcast] at hchecked
  have hrow : insertCommentRow (castInt64 1) (castInt64 (castUInt64 (parents count))) 1 body 0
      (grownThread parents body count) = some ((grownComment parents body count).id,
        (grownThread parents body count).withComment (grownComment parents body count)) := by
    rw [hcast]
    exact grownThread_insert older hcount
  have hrange : CommentCreateRequest.InRange
      { postId := 1, parentCommentId := castUInt64 (parents count), body } := hbody
  rw [handleCommentCreateRequest_adds ready.registered ready.healthy
    (CommentCreateRequest.exact.readFrom_start hrange) hpos rfl hparent hrow]
  simp [grownThread, Tables.withComment, List.range_succ, grownComment, accountContext]

/-- The account, before there is a forum. -/
def openedAccount : Tables :=
  { openedPost with forums := [], forumsSequence := 0, posts := [], postsSequence := 0 }

/-- The forum, before there is a post. -/
def openedForum : Tables := { openedPost with posts := [], postsSequence := 0 }

theorem openedAccount_reachable : ReachableTables openedAccount := by
  have hregister : ∃ database user, database.tables = openedAccount ∧
      handleRegisterRequest (accountContext {} 0 (repeatedKey 1))
        (ByteReader.start (RegisterRequest.writeTo { handle := ascii "alice" })) =
        sendAcceptedSession { accountContext {} 0 (repeatedKey 1) with database } user :=
    ⟨_, _, rfl, rfl⟩
  obtain ⟨database, user, htables, hregister⟩ := hregister
  have hbefore : ReachableTables (accountContext {} 0 (repeatedKey 1)).database.tables := .empty
  have hserved := hbefore.served .registerRequest
    (ByteReader.start (RegisterRequest.writeTo { handle := ascii "alice" }))
  rwa [routeMessage, hregister, sendAcceptedSession_database, htables] at hserved

/-- The account, the forum and the post are three requests away from nothing. -/
theorem openedPost_reachable : ReachableTables openedPost := by
  have hforum : ReachableTables openedForum := by
    have hbefore : ReachableTables
        (accountContext openedAccount 1 (repeatedKey 1)).database.tables := openedAccount_reachable
    exact hbefore.served .forumCreateRequest
      (ByteReader.start (ForumCreateRequest.writeTo { name := ascii "lounge" }))
  have hbefore : ReachableTables
      (accountContext openedForum 1 (repeatedKey 1)).database.tables := hforum
  exact hbefore.served .postCreateRequest (ByteReader.start
    (PostCreateRequest.writeTo { forumId := 1, title := ascii "hello", body := ascii "world" }))

/-- Bob has an account as well. -/
def joinedPost : Tables :=
  { openedPost with
    users := openedPost.users ++
      [{ id := 2, pubkey := repeatedKey 2, handle := ascii "bob", banned := false }]
    usersSequence := 2
    profiles := openedPost.profiles ++
      [{ userId := 2, displayName := [], bio := [], themeJson := [], bannerRef := [] }] }

theorem grownThread_reachable (hpos : body ≠ []) (hbody : TextInRange maxCommentBodyLength body)
    (older : ∀ index, parents index ≤ index) (hcount : (count : ℤ) ≤ maxRowid) :
    ReachableTables (grownThread parents body count) := by
  induction count with
  | zero => exact openedPost_reachable
  | succ count ih =>
    have hlt : (count : ℤ) < maxRowid := by
      push_cast at hcount
      omega
    have hbefore : ReachableTables (accountContext (grownThread parents body count) 1
        (repeatedKey 1)).database.tables := ih hlt.le
    have hadded := hbefore.served .commentCreateRequest (ByteReader.start
      (CommentCreateRequest.writeTo
        { postId := 1, parentCommentId := castUInt64 (parents count), body }))
    rwa [routeMessage, grownThread_succ hpos hbody (older count) hlt] at hadded

end Grown

end HyperCom
