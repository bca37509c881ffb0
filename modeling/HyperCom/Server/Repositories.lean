import HyperCom.Lib.Rows
import HyperCom.Protocol.ContentMessages
import HyperCom.Protocol.SessionMessages
import HyperCom.Protocol.SocialMessages
import HyperCom.Server.Database

/-!
# The repositories

Every `*_repository.cpp` that a request reaches. A `SELECT` is a function of
the tables giving the answer's rows in order; a writing statement is a partial
function on the tables, undefined where a constraint of the schema refuses it.
Where the source calls `get_unix_timestamp`, the time is an argument.

Each function of a repository is here under its own name, with the statements it runs, in
their order, and what it returns when one of them fails. A loop over result rows ends at the
first step that is not a row, whatever the reason; the model has the same loop
(`DatabaseHandle.query`).
-/

namespace HyperCom

open RowStore

/-! ## `user_repository` -/

/-- The NOCASE collation folds ASCII letters only. -/
def foldCase (text : ByteString) : ByteString :=
  text.map fun byte => if byte ≥ 0x41 && byte ≤ 0x5A then byte + 0x20 else byte

/-- `find_by_pubkey` -/
def findUserByPubkey (database : DatabaseHandle) (pubkey : WirePublicKey) : Option UserRow :=
  database.queryFirst .findUserByPubkey
    (database.tables.users.filter fun user => user.pubkey = pubkey)

/-- `find_by_id` -/
def findUserById (database : DatabaseHandle) (id : ℤ) : Option UserRow :=
  database.queryFirst .findUserById (database.tables.users.filter fun user => user.id = id)

/-- `INSERT INTO users`: the key and the case-folded handle are unique. -/
def insertUserRow (pubkey : WirePublicKey) (handle : ByteString) (tables : Tables) :
    Option (ℤ × Tables) :=
  if tables.users.any fun user => user.pubkey = pubkey || foldCase user.handle = foldCase handle then
    none
  else
    match nextRowid tables.usersSequence with
    | none => none
    | some id =>
      some (id, { tables with
        users := tables.users ++ [{ id, pubkey, handle, banned := false }]
        usersSequence := id })

theorem insertUserRow_some {pubkey : WirePublicKey} {handle : ByteString} {id : ℤ}
    {before after : Tables} (h : insertUserRow pubkey handle before = some (id, after)) :
    nextRowid before.usersSequence = some id ∧ after = { before with
      users := before.users ++ [{ id, pubkey, handle, banned := false }]
      usersSequence := id } := by
  rw [insertUserRow] at h
  split_ifs at h
  split at h
  · cases h
  · next hid =>
    obtain ⟨rfl, rfl⟩ := Prod.mk.inj (Option.some.inj h)
    exact ⟨hid, rfl⟩

/-- `create_user` -/
def createUser (database : DatabaseHandle) (pubkey : WirePublicKey) (handle : ByteString) :
    Option ℤ × DatabaseHandle :=
  database.write .createUser 0 (insertUserRow pubkey handle)

/-- `UPDATE users SET banned` -/
def updateBannedFlag (userId : ℤ) (banned : Bool) (tables : Tables) : Option (Unit × Tables) :=
  some ((), { tables with
    users := updateWhere (fun user => user.id = userId) (fun user => { user with banned })
      tables.users })

/-- `set_banned` -/
def setBanned (database : DatabaseHandle) (userId : ℤ) (banned : Bool) : Bool × DatabaseHandle :=
  let out := database.write .setBanned 0 (updateBannedFlag userId banned)
  (out.1.isSome, out.2)

/-! ## `profile_repository` -/

/-- The upsert into `profiles`. -/
def upsertProfileRow (userId : ℤ) (request : ProfileSetRequest) (tables : Tables) :
    Option (Unit × Tables) :=
  if !tables.hasUser userId then none
  else
    some ((), { tables with
      profiles := upsert (fun profile => profile.userId = userId)
        { userId, displayName := request.displayName, bio := request.bio
          themeJson := request.themeJson, bannerRef := request.bannerReference }
        tables.profiles })

theorem upsertProfileRow_some {userId : ℤ} {request : ProfileSetRequest} {before after : Tables}
    {result : Unit} (h : upsertProfileRow userId request before = some (result, after)) :
    before.hasUser userId = true ∧ after = { before with
      profiles := upsert (fun profile => profile.userId = userId)
        { userId, displayName := request.displayName, bio := request.bio
          themeJson := request.themeJson, bannerRef := request.bannerReference }
        before.profiles } := by
  rw [upsertProfileRow] at h
  split_ifs at h with hnone
  rw [Bool.not_eq_true', Bool.not_eq_false] at hnone
  exact ⟨hnone, (Prod.mk.inj (Option.some.inj h)).2.symm⟩

/-- `replace_profile` -/
def replaceProfile (database : DatabaseHandle) (userId : ℤ) (request : ProfileSetRequest) :
    Bool × DatabaseHandle :=
  let out := database.write .replaceProfile 0 (upsertProfileRow userId request)
  (out.1.isSome, out.2)

/-- The `LEFT JOIN profiles` of several queries. -/
def Tables.profileOf (tables : Tables) (userId : ℤ) : Option ProfileRow :=
  tables.profiles.find? fun profile => profile.userId = userId

/-- `profile_repository::find_by_pubkey`: an account without a profile has empty
texts. -/
def findProfileByPubkey (database : DatabaseHandle) (pubkey : WirePublicKey) :
    Option ProfileRecord :=
  database.queryFirst .findProfileByPubkey
    ((database.tables.users.filter fun user => user.pubkey = pubkey).map fun user =>
      let profile := database.tables.profileOf user.id
      { pubkey := user.pubkey
        handle := user.handle
        displayName := (profile.map ProfileRow.displayName).getD []
        bio := (profile.map ProfileRow.bio).getD []
        themeJson := (profile.map ProfileRow.themeJson).getD []
        bannerReference := (profile.map ProfileRow.bannerRef).getD [] })

/-! ## `forum_repository` -/

/-- The `JOIN users` of several queries. -/
def Tables.userOf (tables : Tables) (id : ℤ) : Option UserRow :=
  tables.users.find? fun user => user.id = id

/-- `INSERT INTO forums`: the name is unique. -/
def insertForumRow (founderId : ℤ) (name description themeJson : ByteString) (now : UInt64)
    (tables : Tables) : Option (ℤ × Tables) :=
  if (tables.forums.any fun forum => forum.name = name) || !tables.hasUser founderId then none
  else
    match nextRowid tables.forumsSequence with
    | none => none
    | some id =>
      some (id, { tables with
        forums := tables.forums ++
          [{ id, name, founderId, description, themeJson, createdAt := castInt64 now }]
        forumsSequence := id })

theorem insertForumRow_some {founderId : ℤ} {name description themeJson : ByteString}
    {now : UInt64} {id : ℤ} {before after : Tables}
    (h : insertForumRow founderId name description themeJson now before = some (id, after)) :
    before.hasUser founderId = true ∧ nextRowid before.forumsSequence = some id ∧
      after = { before with
        forums := before.forums ++
          [{ id, name, founderId, description, themeJson, createdAt := castInt64 now }]
        forumsSequence := id } := by
  rw [insertForumRow] at h
  split_ifs at h with hrefused
  rw [Bool.or_eq_true_iff, not_or, Bool.not_eq_true', Bool.not_eq_false] at hrefused
  split at h
  · cases h
  · next hid =>
    obtain ⟨rfl, rfl⟩ := Prod.mk.inj (Option.some.inj h)
    exact ⟨hrefused.2, hid, rfl⟩

/-- `create_forum` -/
def createForum (database : DatabaseHandle) (founderId : ℤ)
    (name description themeJson : ByteString) (now : UInt64) : Option ℤ × DatabaseHandle :=
  database.write .createForum 0 (insertForumRow founderId name description themeJson now)

/-- `SELECT_FORUM` over the given rows of `forums`. -/
def selectForum (tables : Tables) (forums : List ForumRow) : List ForumRecord :=
  forums.filterMap fun forum =>
    (tables.userOf forum.founderId).map fun founder =>
      { id := castUInt64 forum.id
        name := forum.name
        description := forum.description
        founderPubkey := founder.pubkey
        founderHandle := founder.handle
        themeJson := forum.themeJson
        createdAt := castUInt64 forum.createdAt
        postCount := UInt32.ofNat (tables.posts.countP fun post => post.forumId = forum.id) }

/-- `forum_repository::find_by_id` -/
def findForumById (database : DatabaseHandle) (id : ℤ) : Option ForumRecord :=
  database.queryFirst .findForumById
    (selectForum database.tables (database.tables.forums.filter fun forum => forum.id = id))

/-- `list_forums`: the page and the total count, latest first. -/
def listForums (database : DatabaseHandle) (offset : UInt32) (limit : UInt16) :
    Option (List ForumRecord × UInt32) :=
  match database.queryFirst .countForums [UInt32.ofNat database.tables.forums.length] with
  | none => none
  | some totalCount =>
    let latestFirst :=
      database.tables.forums.mergeSort fun first second => first.createdAt ≥ second.createdAt
    (database.query .listForums
      (((selectForum database.tables latestFirst).drop offset.toNat).take limit.toNat)).map
        fun forums => (forums, totalCount)

/-! ## `post_repository` -/

/-- `INSERT INTO posts` -/
def insertPostRow (forumId authorId : ℤ) (title body : ByteString) (now : UInt64)
    (tables : Tables) : Option (ℤ × Tables) :=
  if !(tables.forums.any fun forum => forum.id = forumId) || !tables.hasUser authorId then none
  else
    match nextRowid tables.postsSequence with
    | none => none
    | some id =>
      some (id, { tables with
        posts := tables.posts ++
          [{ id, forumId, authorId, title, body, createdAt := castInt64 now }]
        postsSequence := id })

theorem insertPostRow_some {forumId authorId : ℤ} {title body : ByteString} {now : UInt64} {id : ℤ}
    {before after : Tables}
    (h : insertPostRow forumId authorId title body now before = some (id, after)) :
    before.hasUser authorId = true ∧ nextRowid before.postsSequence = some id ∧
      after = { before with
        posts := before.posts ++
          [{ id, forumId, authorId, title, body, createdAt := castInt64 now }]
        postsSequence := id } := by
  rw [insertPostRow] at h
  split_ifs at h with hrefused
  simp only [Bool.or_eq_true, Bool.not_eq_true', not_or, Bool.not_eq_false] at hrefused
  split at h
  · cases h
  · next hid =>
    obtain ⟨rfl, rfl⟩ := Prod.mk.inj (Option.some.inj h)
    exact ⟨hrefused.2, hid, rfl⟩

/-- `create_post` -/
def createPost (database : DatabaseHandle) (forumId authorId : ℤ) (title body : ByteString)
    (now : UInt64) : Option ℤ × DatabaseHandle :=
  database.write .createPost 0 (insertPostRow forumId authorId title body now)

/-- `SELECT_PREFIX body SELECT_SUFFIX` over the given rows of `posts`. -/
def selectPost (tables : Tables) (bodyColumn : ByteString → ByteString) (posts : List PostRow) :
    List PostRecord :=
  posts.filterMap fun post =>
    (tables.userOf post.authorId).map fun author =>
      { id := castUInt64 post.id
        forumId := castUInt64 post.forumId
        authorPubkey := author.pubkey
        authorHandle := author.handle
        title := post.title
        body := bodyColumn post.body
        createdAt := castUInt64 post.createdAt
        commentCount :=
          UInt32.ofNat (tables.comments.countP fun comment => comment.postId = post.id) }

/-- `post_repository::find_by_id` -/
def findPostById (database : DatabaseHandle) (id : ℤ) : Option PostRecord :=
  database.queryFirst .findPostById
    (selectPost database.tables (fun body => body)
      (database.tables.posts.filter fun post => post.id = id))

/-- `substr(text, 1, count)`, which counts characters: a lead byte takes the
continuation bytes after it along. -/
def substrCharacters : ℕ → ByteString → ByteString
  | _, [] => []
  | count, byte :: rest =>
    if byte &&& 0xC0 == 0x80 then byte :: substrCharacters count rest
    else
      match count with
      | 0 => []
      | count + 1 => byte :: substrCharacters count rest

/-- `list_by_forum`: bodies cut to a preview, latest first. -/
def listPostsByForum (database : DatabaseHandle) (forumId : ℤ) (offset : UInt32)
    (limit : UInt16) : Option (List PostRecord × UInt32) :=
  let inForum := database.tables.posts.filter fun post => post.forumId = forumId
  match database.queryFirst .countPosts [UInt32.ofNat inForum.length] with
  | none => none
  | some totalCount =>
    let latestFirst := inForum.mergeSort fun first second => first.createdAt ≥ second.createdAt
    (database.query .listPosts
      (((selectPost database.tables (substrCharacters maxPostPreviewLength) latestFirst).drop
        offset.toNat).take limit.toNat)).map fun posts => (posts, totalCount)

/-- `UPDATE posts SET title = '', body = '', deleted_at = ?1 WHERE id = ?2 AND
author_id = ?3 AND deleted_at IS NULL`, with the number of changed rows. -/
def erasePostRow (postId authorId : ℤ) (now : UInt64) (tables : Tables) : Option (ℕ × Tables) :=
  let selected (post : PostRow) : Bool :=
    post.id = postId && post.authorId = authorId && post.deletedAt.isNone
  some (tables.posts.countP selected, { tables with
    posts := updateWhere selected
      (fun post => { post with title := [], body := [], deletedAt := some (castInt64 now) })
      tables.posts })

/-- `delete_own_post` -/
def deleteOwnPost (database : DatabaseHandle) (postId authorId : ℤ) (now : UInt64) :
    Bool × DatabaseHandle :=
  let out := database.write .deleteOwnPost 0 (erasePostRow postId authorId now)
  (out.1.any (0 < ·), out.2)

/-- `UPDATE posts SET title = '', body = '', deleted_at = ?1 WHERE id = ?2 AND
deleted_at IS NULL` -/
def adminErasePostRow (postId : ℤ) (now : UInt64) (tables : Tables) : Option (ℕ × Tables) :=
  let selected (post : PostRow) : Bool := post.id = postId && post.deletedAt.isNone
  some (tables.posts.countP selected, { tables with
    posts := updateWhere selected
      (fun post => { post with title := [], body := [], deletedAt := some (castInt64 now) })
      tables.posts })

/-- `admin_delete_post` -/
def adminDeletePost (database : DatabaseHandle) (postId : ℤ) (now : UInt64) :
    Bool × DatabaseHandle :=
  let out := database.write .adminDeletePost 0 (adminErasePostRow postId now)
  (out.1.any (0 < ·), out.2)

/-! ## `comment_repository` -/

/-- `MAX_COMMENT_DEPTH` -/
def maxCommentDepth : ℕ := 24

/-- `INSERT INTO comments`: a parent of 0 is NULL. -/
def insertCommentRow (postId parentCommentId authorId : ℤ) (body : ByteString) (now : UInt64)
    (tables : Tables) : Option (ℤ × Tables) :=
  let parent := if parentCommentId = 0 then none else some parentCommentId
  if !(tables.posts.any fun post => post.id = postId) || !tables.hasUser authorId ||
      !parent.all (fun id => tables.comments.any fun comment => comment.id = id) then none
  else
    match nextRowid tables.commentsSequence with
    | none => none
    | some id =>
      some (id, { tables with
        comments := tables.comments ++
          [{ id, postId, parentCommentId := parent, authorId, body, createdAt := castInt64 now }]
        commentsSequence := id })

theorem insertCommentRow_some {postId parentCommentId authorId : ℤ} {body : ByteString}
    {now : UInt64} {id : ℤ} {before after : Tables}
    (h : insertCommentRow postId parentCommentId authorId body now before = some (id, after)) :
    before.hasUser authorId = true ∧ nextRowid before.commentsSequence = some id ∧
      after = { before with
        comments := before.comments ++
          [{ id, postId, parentCommentId := if parentCommentId = 0 then none else some parentCommentId
             authorId, body, createdAt := castInt64 now }]
        commentsSequence := id } := by
  rw [insertCommentRow] at h
  generalize (if parentCommentId = 0 then none else some parentCommentId) = parent at h ⊢
  split_ifs at h with hrefused
  simp only [Bool.or_eq_true, Bool.not_eq_true', not_or, Bool.not_eq_false] at hrefused
  split at h
  · cases h
  · next hid =>
    obtain ⟨rfl, rfl⟩ := Prod.mk.inj (Option.some.inj h)
    exact ⟨hrefused.1.2, hid, rfl⟩

/-- `create_comment` -/
def createComment (database : DatabaseHandle) (postId parentCommentId authorId : ℤ)
    (body : ByteString) (now : UInt64) : Option ℤ × DatabaseHandle :=
  database.write .createComment 0 (insertCommentRow postId parentCommentId authorId body now)

/-- A comment with the depth the query computed for it, joined with its author. -/
def commentRecord (tables : Tables) (comment : CommentRow) (depth : ℕ) : Option CommentRecord :=
  (tables.userOf comment.authorId).map fun author =>
    { id := castUInt64 comment.id
      postId := castUInt64 comment.postId
      parentCommentId := castUInt64 (comment.parentCommentId.getD 0)
      authorPubkey := author.pubkey
      authorHandle := author.handle
      body := comment.body
      createdAt := castUInt64 comment.createdAt
      depth := UInt16.ofNat depth }

/-- `comment_repository::find_by_id`: the depth column is a constant 0. -/
def findCommentById (database : DatabaseHandle) (id : ℤ) : Option CommentRecord :=
  database.queryFirst .findCommentById
    ((database.tables.comments.filter fun comment => comment.id = id).filterMap fun comment =>
      commentRecord database.tables comment 0)

/-- A row of the recursive query. -/
structure ThreadRow where
  comment : CommentRow
  depth : ℕ
  path : ByteString

/-- `printf('%010d', id)` -/
def paddedId (id : ℤ) : ByteString :=
  let digits := ascii (toString id.toNat)
  List.replicate (10 - digits.length) 0x30 ++ digits

/-- The replies to a level of the thread, one level deeper. -/
def threadReplies (comments : List CommentRow) (level : List ThreadRow) : List ThreadRow :=
  level.flatMap fun row =>
    (comments.filter fun comment => comment.parentCommentId = some row.comment.id).map
      fun comment =>
        { comment, depth := row.depth + 1
          path := row.path ++ ascii "/" ++ paddedId comment.id }

/-- The levels of the recursive query, down to `remaining` more. -/
def threadLevels (comments : List CommentRow) : ℕ → List ThreadRow → List ThreadRow
  | 0, level => level
  | remaining + 1, level =>
    level ++ threadLevels comments remaining (threadReplies comments level)

/-- Lexicographic order on bytes, the BINARY collation. -/
def binaryLE (first second : ByteString) : Bool := !second.lex first (· < ·)

/-- `SELECT_THREAD` without its limit. -/
def selectThread (tables : Tables) (postId : ℤ) : List CommentRecord :=
  let roots := (tables.comments.filter fun comment =>
    comment.postId = postId && comment.parentCommentId.isNone).map fun comment =>
      { comment, depth := 0, path := paddedId comment.id : ThreadRow }
  let thread := threadLevels tables.comments maxCommentDepth roots
  (thread.mergeSort fun first second => binaryLE first.path second.path).filterMap fun row =>
    commentRecord tables row.comment row.depth

/-- `list_thread`: one row more than the limit is asked for, to tell whether
there were more. -/
def listThread (database : DatabaseHandle) (postId : ℤ) (limit : ℕ) :
    Option (List CommentRecord × Bool) :=
  (database.query .listThread ((selectThread database.tables postId).take (limit + 1))).map
    fun rows => (rows.take limit, rows.length > limit)

/-- `check_parent_belongs_to_post` -/
def checkParentBelongsToPost (database : DatabaseHandle) (parentCommentId postId : ℤ) : Bool :=
  (database.queryFirst .checkParent (database.tables.comments.filter fun comment =>
    comment.id = parentCommentId && comment.postId = postId)).isSome

/-- `UPDATE comments SET body = '', deleted_at = ?1 WHERE id = ?2 AND author_id
= ?3 AND deleted_at IS NULL` -/
def eraseCommentRow (commentId authorId : ℤ) (now : UInt64) (tables : Tables) :
    Option (ℕ × Tables) :=
  let selected (comment : CommentRow) : Bool :=
    comment.id = commentId && comment.authorId = authorId && comment.deletedAt.isNone
  some (tables.comments.countP selected, { tables with
    comments := updateWhere selected
      (fun comment => { comment with body := [], deletedAt := some (castInt64 now) })
      tables.comments })

/-- `delete_own_comment` -/
def deleteOwnComment (database : DatabaseHandle) (commentId authorId : ℤ) (now : UInt64) :
    Bool × DatabaseHandle :=
  let out := database.write .deleteOwnComment 0 (eraseCommentRow commentId authorId now)
  (out.1.any (0 < ·), out.2)

/-! ## `dm_repository` -/

/-- `INSERT INTO dm_envelopes` -/
def insertEnvelopeRow (recipientId : ℤ) (senderPubkey : WirePublicKey) (ciphertext : ByteString)
    (tables : Tables) : Option (ℤ × Tables) :=
  if !tables.hasUser recipientId then none
  else
    match nextRowid tables.dmEnvelopesSequence with
    | none => none
    | some id =>
      some (id, { tables with
        dmEnvelopes := tables.dmEnvelopes ++ [{ id, recipientId, senderPubkey, ciphertext }]
        dmEnvelopesSequence := id })

theorem insertEnvelopeRow_some {recipientId : ℤ} {senderPubkey : WirePublicKey}
    {ciphertext : ByteString} {id : ℤ} {before after : Tables}
    (h : insertEnvelopeRow recipientId senderPubkey ciphertext before = some (id, after)) :
    nextRowid before.dmEnvelopesSequence = some id ∧ after = { before with
      dmEnvelopes := before.dmEnvelopes ++ [{ id, recipientId, senderPubkey, ciphertext }]
      dmEnvelopesSequence := id } := by
  rw [insertEnvelopeRow] at h
  split_ifs at h
  split at h
  · cases h
  · next hid =>
    obtain ⟨rfl, rfl⟩ := Prod.mk.inj (Option.some.inj h)
    exact ⟨hid, rfl⟩

/-- `insert_envelope` -/
def insertEnvelope (database : DatabaseHandle) (recipientId : ℤ) (senderPubkey : WirePublicKey)
    (ciphertext : ByteString) : Option ℤ × DatabaseHandle :=
  database.write .insertEnvelope 0 (insertEnvelopeRow recipientId senderPubkey ciphertext)

/-- The record a row of `dm_envelopes` is served as. -/
def DmEnvelopeRow.toRecord (envelope : DmEnvelopeRow) : DmEnvelopeRecord :=
  { id := castUInt64 envelope.id
    senderPubkey := envelope.senderPubkey
    ciphertext := envelope.ciphertext }

/-- The envelopes of a recipient past an id, in the order of arrival. -/
def Tables.pendingEnvelopes (tables : Tables) (recipientId sinceId : ℤ) : List DmEnvelopeRow :=
  (tables.dmEnvelopes.filter fun envelope =>
    envelope.recipientId = recipientId && envelope.id > sinceId).mergeSort
      fun first second => first.id ≤ second.id

/-- `list_for_recipient`: one envelope more than the limit is asked for, to tell
whether there were more. -/
def listForRecipient (database : DatabaseHandle) (recipientId : ℤ) (sinceId : UInt64)
    (limit : UInt16) : Option DmListResponse :=
  (database.query .listEnvelopes
    ((database.tables.pendingEnvelopes recipientId (castInt64 sinceId)).take
      (limit.toNat + 1))).map fun rows =>
    { envelopes := (rows.take limit.toNat).map DmEnvelopeRow.toRecord
      hasMore := if rows.length > limit.toNat then 1 else 0 }

/-- `DELETE FROM dm_envelopes WHERE id = ?1 AND recipient_id = ?2` -/
def deleteEnvelopeRow (recipientId : ℤ) (identifier : UInt64) (tables : Tables) :
    Option (Unit × Tables) :=
  some ((), { tables with
    dmEnvelopes := deleteWhere
      (fun envelope => envelope.id = castInt64 identifier && envelope.recipientId = recipientId)
      tables.dmEnvelopes })

/-- The loop of `delete_acknowledged`, from the `step`-th identifier on. -/
def deleteEnvelopes (recipientId : ℤ) : ℕ → List UInt64 → DatabaseHandle → Bool × DatabaseHandle
  | _, [], database => (true, database)
  | step, identifier :: identifiers, database =>
    match database.write .deleteEnvelope step (deleteEnvelopeRow recipientId identifier) with
    | (none, database) => (false, database)
    | (some _, database) => deleteEnvelopes recipientId (step + 1) identifiers database

/-- `delete_acknowledged` -/
def deleteAcknowledged (database : DatabaseHandle) (recipientId : ℤ) (ids : List UInt64) :
    Bool × DatabaseHandle :=
  database.inTransaction (deleteEnvelopes recipientId 0 ids)

/-! ## `friend_repository` -/

/-- The upsert into `friends`: nobody befriends themselves. -/
def upsertFriendRow (userId friendId : ℤ) (status : FriendshipStatus) (tables : Tables) :
    Option (Unit × Tables) :=
  if userId = friendId || !tables.hasUser userId || !tables.hasUser friendId then none
  else
    some ((), { tables with
      friends := upsert (fun row => row.userId = userId && row.friendId = friendId)
        { userId, friendId, status } tables.friends })

theorem upsertFriendRow_some {userId friendId : ℤ} {status : FriendshipStatus}
    {before after : Tables} {result : Unit}
    (h : upsertFriendRow userId friendId status before = some (result, after)) :
    after = { before with
      friends := upsert (fun row => row.userId = userId && row.friendId = friendId)
        { userId, friendId, status } before.friends } := by
  rw [upsertFriendRow] at h
  split_ifs at h
  exact (Prod.mk.inj (Option.some.inj h)).2.symm

/-- `replace_friendship` -/
def replaceFriendship (database : DatabaseHandle) (userId friendId : ℤ)
    (status : FriendshipStatus) : Bool × DatabaseHandle :=
  let out := database.write .replaceFriendship 0 (upsertFriendRow userId friendId status)
  (out.1.isSome, out.2)

/-- A user as the friend lists show it. -/
def friendRecord (tables : Tables) (user : UserRow) (status : FriendshipStatus) : FriendRecord :=
  { pubkey := user.pubkey
    handle := user.handle
    displayName := ((tables.profileOf user.id).map ProfileRow.displayName).getD []
    status }

/-- `list_friends` -/
def listFriends (database : DatabaseHandle) (userId : ℤ) (limit : ℕ) :
    Option (List FriendRecord) :=
  let rows := (database.tables.friends.filter fun row => row.userId = userId).filterMap fun row =>
    (database.tables.userOf row.friendId).map fun friend =>
      friendRecord database.tables friend row.status
  database.query .listFriends
    ((rows.mergeSort fun first second => binaryLE first.handle second.handle).take limit)

/-! ## `top8_repository` -/

/-- `top8_entry` -/
structure Top8Entry where
  slot : ℕ
  friendId : ℤ

/-- `DELETE FROM top8 WHERE user_id = ?1` -/
def deleteTop8Rows (userId : ℤ) (tables : Tables) : Option (Unit × Tables) :=
  some ((), { tables with top8 := deleteWhere (fun row => row.userId = userId) tables.top8 })

/-- `INSERT INTO top8`: one friend a slot, and eight slots. -/
def insertTop8Row (userId : ℤ) (entry : Top8Entry) (tables : Tables) : Option (Unit × Tables) :=
  if (tables.top8.any fun row => row.userId = userId && row.slot = entry.slot) ||
      entry.slot ≥ top8SlotCount || !tables.hasUser userId || !tables.hasUser entry.friendId then
    none
  else
    some ((), { tables with
      top8 := tables.top8 ++ [{ userId, slot := entry.slot, friendId := entry.friendId }] })

theorem insertTop8Row_some {userId : ℤ} {entry : Top8Entry} {before after : Tables} {result : Unit}
    (h : insertTop8Row userId entry before = some (result, after)) :
    (∀ row ∈ before.top8, ¬ (row.userId = userId ∧ row.slot = entry.slot)) ∧
      entry.slot < top8SlotCount ∧ after = { before with
        top8 := before.top8 ++ [{ userId, slot := entry.slot, friendId := entry.friendId }] } := by
  rw [insertTop8Row] at h
  split at h
  · cases h
  next hrefused =>
  simp only [ge_iff_le, Bool.or_eq_true, List.any_eq_true, Bool.and_eq_true, decide_eq_true_eq,
    Bool.not_eq_true', not_or, not_exists, not_le, Bool.not_eq_false] at hrefused
  exact ⟨fun row hrow hsame => hrefused.1.1.1 row ⟨hrow, hsame⟩, hrefused.1.1.2,
    (Prod.mk.inj (Option.some.inj h)).2.symm⟩

/-- The insertion loop of `replace_slots`, from the `step`-th entry on. -/
def insertTop8Rows (userId : ℤ) : ℕ → List Top8Entry → DatabaseHandle → Bool × DatabaseHandle
  | _, [], database => (true, database)
  | step, entry :: entries, database =>
    match database.write .insertTop8 step (insertTop8Row userId entry) with
    | (none, database) => (false, database)
    | (some _, database) => insertTop8Rows userId (step + 1) entries database

/-- `replace_slots` -/
def replaceSlots (database : DatabaseHandle) (userId : ℤ) (entries : List Top8Entry) :
    Bool × DatabaseHandle :=
  database.inTransaction fun database =>
    match database.write .deleteTop8 0 (deleteTop8Rows userId) with
    | (none, database) => (false, database)
    | (some _, database) => insertTop8Rows userId 0 entries database

/-- Writing one slot of the eight. -/
def Top8Slots.set (slots : Top8Slots) (slot : ℕ) (key : WirePublicKey) : Top8Slots :=
  ⟨slots.1.set slot key, by rw [List.length_set]; exact slots.2⟩

/-- `list_slots`: a friend who is no longer in the friend list counts as
accepted. -/
def listSlots (database : DatabaseHandle) (userId : ℤ) : Option Top8Response :=
  let tables := database.tables
  let rows := ((tables.top8.filter fun row => row.userId = userId).mergeSort
    fun first second => first.slot ≤ second.slot).filterMap fun row =>
      (tables.userOf row.friendId).map fun friend =>
        let status := ((tables.friends.find? fun other =>
          other.userId = row.userId && other.friendId = friend.id).map FriendRow.status).getD
            .accepted
        (row.slot, friendRecord tables friend status)
  (database.query .listTop8 rows).map fun rows =>
    (rows.filter fun row => row.1 < top8SlotCount).foldl
      (fun response row =>
        { slots := response.slots.set row.1 row.2.pubkey
          details := response.details ++ [row.2] })
      { slots := Top8Slots.empty, details := [] }

/-! ## `prekey_repository` -/

/-- The upsert into `prekeys`. -/
def upsertPrekeyRow (userId : ℤ) (prekey : WirePublicKey) (signature : WireSignature)
    (now : UInt64) (tables : Tables) : Option (Unit × Tables) :=
  if !tables.hasUser userId then none
  else
    some ((), { tables with
      prekeys := upsert (fun row => row.userId = userId)
        { userId, prekey, signature, createdAt := castInt64 now } tables.prekeys })

theorem upsertPrekeyRow_some {userId : ℤ} {prekey : WirePublicKey} {signature : WireSignature}
    {now : UInt64} {before after : Tables} {result : Unit}
    (h : upsertPrekeyRow userId prekey signature now before = some (result, after)) :
    after = { before with
      prekeys := upsert (fun row => row.userId = userId)
        { userId, prekey, signature, createdAt := castInt64 now } before.prekeys } := by
  rw [upsertPrekeyRow] at h
  split_ifs at h
  exact (Prod.mk.inj (Option.some.inj h)).2.symm

/-- `replace_prekey` -/
def replacePrekey (database : DatabaseHandle) (userId : ℤ) (prekey : WirePublicKey)
    (signature : WireSignature) (now : UInt64) : Bool × DatabaseHandle :=
  let out := database.write .replacePrekey 0 (upsertPrekeyRow userId prekey signature now)
  (out.1.isSome, out.2)

/-- `find_bundle_by_pubkey` -/
def findBundleByPubkey (database : DatabaseHandle) (ownerPubkey : WirePublicKey) :
    Option PrekeyBundleResponse :=
  (database.queryFirst .findPrekey (database.tables.prekeys.filter fun row =>
    database.tables.users.any fun user => user.id = row.userId && user.pubkey = ownerPubkey)).map
      fun row =>
        { ownerPubkey, prekey := row.prekey, signature := row.signature
          createdAt := castUInt64 row.createdAt }

/-! ## `report_repository` -/

/-- `INSERT INTO reports` -/
def insertReportRow (target : ReportTarget) (reporterId : ℤ) (reason : ByteString) (now : UInt64)
    (tables : Tables) : Option (Unit × Tables) :=
  let known : Bool := match target with
    | .post postId => tables.posts.any fun post => post.id = postId
    | .account _ => true
  if !known || !tables.hasUser reporterId then none
  else
    match nextRowid tables.reportsSequence with
    | none => none
    | some id =>
      some ((), { tables with
        reports := tables.reports ++ [{ id, target, reporterId, reason, createdAt := castInt64 now }]
        reportsSequence := id })

theorem insertReportRow_some {target : ReportTarget} {reporterId : ℤ} {reason : ByteString}
    {now : UInt64} {before after : Tables} {result : Unit}
    (h : insertReportRow target reporterId reason now before = some (result, after)) :
    ∃ id, after = { before with
      reports := before.reports ++ [{ id, target, reporterId, reason, createdAt := castInt64 now }]
      reportsSequence := id } := by
  rw [insertReportRow.eq_def] at h
  dsimp only at h
  split_ifs at h
  split at h
  · cases h
  · exact ⟨_, (Prod.mk.inj (Option.some.inj h)).2.symm⟩

/-- The insertion of a report, with the columns its kind fills. -/
def recordReport (database : DatabaseHandle) (target : ReportTarget) (reporterId : ℤ)
    (reason : ByteString) (now : UInt64) : Bool × DatabaseHandle :=
  let out := database.write .recordReport 0 (insertReportRow target reporterId reason now)
  (out.1.isSome, out.2)

/-- `record_post_report` -/
def recordPostReport (database : DatabaseHandle) (postId reporterId : ℤ) (reason : ByteString)
    (now : UInt64) : Bool × DatabaseHandle :=
  recordReport database (.post postId) reporterId reason now

/-- `record_account_report` -/
def recordAccountReport (database : DatabaseHandle) (targetPubkey : WirePublicKey)
    (reporterId : ℤ) (reason : ByteString) (now : UInt64) : Bool × DatabaseHandle :=
  recordReport database (.account targetPubkey) reporterId reason now

/-- `list_reports`: the oldest ones first. -/
def listReports (database : DatabaseHandle) (limit : ℕ) : Option (List ReportRow) :=
  database.query .listReports
    ((database.tables.reports.mergeSort fun first second => first.createdAt ≤ second.createdAt).take
      limit)

/-- `DELETE FROM reports WHERE id = ?1` -/
def deleteReportRow (id : ℤ) (tables : Tables) : Option (Unit × Tables) :=
  some ((), { tables with reports := deleteWhere (fun report => report.id = id) tables.reports })

/-- `clear_report` -/
def clearReport (database : DatabaseHandle) (id : ℤ) : Bool × DatabaseHandle :=
  let out := database.write .clearReport 0 (deleteReportRow id)
  (out.1.isSome, out.2)

/-! ## `motd_repository` -/

/-- `find_active_motd` -/
def findActiveMotd (database : DatabaseHandle) : Option MotdPush :=
  (database.queryFirst .findMotd (database.tables.motd.filter MotdRow.active)).map fun row =>
    { revision := castUInt64 row.id, body := row.body }

/-- `UPDATE motd SET active = 0 WHERE active = 1` -/
def deactivateMotdRows (tables : Tables) : Option (Unit × Tables) :=
  some ((), { tables with
    motd := updateWhere MotdRow.active (fun row => { row with active := false }) tables.motd })

/-- `INSERT INTO motd`: one row is active at most. -/
def insertMotdRow (body : ByteString) (now : UInt64) (tables : Tables) : Option (Unit × Tables) :=
  if tables.motd.any MotdRow.active then none
  else
    match nextRowid tables.motdSequence with
    | none => none
    | some id =>
      some ((), { tables with
        motd := tables.motd ++ [{ id, body, active := true, createdAt := castInt64 now }]
        motdSequence := id })

theorem insertMotdRow_some {body : ByteString} {now : UInt64} {before after : Tables} {result : Unit}
    (h : insertMotdRow body now before = some (result, after)) :
    ∃ id, after = { before with
      motd := before.motd ++ [{ id, body, active := true, createdAt := castInt64 now }]
      motdSequence := id } := by
  rw [insertMotdRow] at h
  split at h
  · cases h
  split at h
  · cases h
  · exact ⟨_, (Prod.mk.inj (Option.some.inj h)).2.symm⟩

/-- `publish_motd` -/
def publishMotd (database : DatabaseHandle) (body : ByteString) (now : UInt64) :
    Bool × DatabaseHandle :=
  database.inTransaction fun database =>
    match database.write .deactivateMotd 0 deactivateMotdRows with
    | (none, database) => (false, database)
    | (some _, database) =>
      let out := database.write .insertMotd 0 (insertMotdRow body now)
      (out.1.isSome, out.2)

/-- `clear_active_motd` -/
def clearActiveMotd (database : DatabaseHandle) : Bool × DatabaseHandle :=
  let out := database.write .deactivateMotd 0 deactivateMotdRows
  (out.1.isSome, out.2)

/-! ## What the loops and the transactions leave

`R` is reflexive and transitive, and holds of what the statements do. A loop touches
neither the open transaction nor the faults. -/

section Effects

variable {R : Tables → Tables → Prop} {database database' : DatabaseHandle} {done : Bool}

/-- The deletion loop, by induction on the identifiers left. -/
theorem deleteEnvelopes_effect {recipientId : ℤ} {step : ℕ} {ids : List UInt64}
    (h : deleteEnvelopes recipientId step ids database = (done, database'))
    (hrefl : ∀ tables, R tables tables)
    (htrans : ∀ first second third, R first second → R second third → R first third)
    (hdelete : ∀ identifier ∈ ids, ∀ before after,
      deleteEnvelopeRow recipientId identifier before = some ((), after) → R before after) :
    R database.tables database'.tables ∧ database'.transaction = database.transaction ∧
      database'.faults = database.faults := by
  induction ids generalizing step database with
  | nil =>
    obtain ⟨-, rfl⟩ := Prod.mk.inj h
    exact ⟨hrefl _, rfl, rfl⟩
  | cons identifier ids ih =>
    rw [deleteEnvelopes] at h
    rcases hwrite : database.write .deleteEnvelope step (deleteEnvelopeRow recipientId identifier)
      with ⟨result, mid⟩
    have hrow : R database.tables mid.tables :=
      DatabaseHandle.write_effect hwrite hrefl (hdelete identifier List.mem_cons_self _ _)
    obtain ⟨htransaction, hfaults⟩ := DatabaseHandle.write_frame hwrite
    rw [hwrite] at h
    cases result with
    | none =>
      obtain ⟨-, rfl⟩ := Prod.mk.inj h
      exact ⟨hrow, htransaction, hfaults⟩
    | some value =>
      obtain ⟨hrest, htransaction', hfaults'⟩ :=
        ih h fun identifier hmem => hdelete identifier (List.mem_cons_of_mem _ hmem)
      exact ⟨htrans _ _ _ hrow hrest, htransaction'.trans htransaction, hfaults'.trans hfaults⟩

theorem deleteAcknowledged_effect {recipientId : ℤ} {ids : List UInt64}
    (h : deleteAcknowledged database recipientId ids = (done, database'))
    (hrefl : ∀ tables, R tables tables)
    (htrans : ∀ first second third, R first second → R second third → R first third)
    (hdelete : ∀ identifier ∈ ids, ∀ before after,
      deleteEnvelopeRow recipientId identifier before = some ((), after) → R before after) :
    R database.tables database'.tables := by
  refine DatabaseHandle.inTransaction_effect h hrefl fun hloop => ?_
  obtain ⟨heffect, htransaction, -⟩ := deleteEnvelopes_effect hloop hrefl htrans hdelete
  exact ⟨heffect, htransaction⟩

/-- The insertion loop, by induction on the entries left. -/
theorem insertTop8Rows_effect {userId : ℤ} {step : ℕ} {entries : List Top8Entry}
    (h : insertTop8Rows userId step entries database = (done, database'))
    (hrefl : ∀ tables, R tables tables)
    (htrans : ∀ first second third, R first second → R second third → R first third)
    (hinsert : ∀ entry before after,
      insertTop8Row userId entry before = some ((), after) → R before after) :
    R database.tables database'.tables ∧ database'.transaction = database.transaction ∧
      database'.faults = database.faults := by
  induction entries generalizing step database with
  | nil =>
    obtain ⟨-, rfl⟩ := Prod.mk.inj h
    exact ⟨hrefl _, rfl, rfl⟩
  | cons entry entries ih =>
    rw [insertTop8Rows] at h
    rcases hwrite : database.write .insertTop8 step (insertTop8Row userId entry) with ⟨result, mid⟩
    have hrow : R database.tables mid.tables :=
      DatabaseHandle.write_effect hwrite hrefl (hinsert entry _ _)
    obtain ⟨htransaction, hfaults⟩ := DatabaseHandle.write_frame hwrite
    rw [hwrite] at h
    cases result with
    | none =>
      obtain ⟨-, rfl⟩ := Prod.mk.inj h
      exact ⟨hrow, htransaction, hfaults⟩
    | some value =>
      obtain ⟨hrest, htransaction', hfaults'⟩ := ih h
      exact ⟨htrans _ _ _ hrow hrest, htransaction'.trans htransaction, hfaults'.trans hfaults⟩

theorem replaceSlots_effect {userId : ℤ} {entries : List Top8Entry}
    (h : replaceSlots database userId entries = (done, database'))
    (hrefl : ∀ tables, R tables tables)
    (htrans : ∀ first second third, R first second → R second third → R first third)
    (hdelete : ∀ before after, deleteTop8Rows userId before = some ((), after) → R before after)
    (hinsert : ∀ entry before after,
      insertTop8Row userId entry before = some ((), after) → R before after) :
    R database.tables database'.tables := by
  refine DatabaseHandle.inTransaction_effect h hrefl ?_
  intro database database' done h
  rcases hwrite : database.write .deleteTop8 0 (deleteTop8Rows userId) with ⟨result, mid⟩
  have hrow : R database.tables mid.tables := DatabaseHandle.write_effect hwrite hrefl (hdelete _ _)
  have htransaction := (DatabaseHandle.write_frame hwrite).1
  simp only [hwrite] at h
  cases result with
  | none =>
    obtain ⟨-, rfl⟩ := Prod.mk.inj h
    exact ⟨hrow, htransaction⟩
  | some value =>
    obtain ⟨hrest, htransaction', -⟩ := insertTop8Rows_effect h hrefl htrans hinsert
    exact ⟨htrans _ _ _ hrow hrest, htransaction'.trans htransaction⟩

theorem publishMotd_effect {body : ByteString} {now : UInt64}
    (h : publishMotd database body now = (done, database'))
    (hrefl : ∀ tables, R tables tables)
    (htrans : ∀ first second third, R first second → R second third → R first third)
    (hdeactivate : ∀ before after, deactivateMotdRows before = some ((), after) → R before after)
    (hinsert : ∀ before after, insertMotdRow body now before = some ((), after) → R before after) :
    R database.tables database'.tables := by
  refine DatabaseHandle.inTransaction_effect h hrefl ?_
  intro database database' done h
  rcases hwrite : database.write .deactivateMotd 0 deactivateMotdRows with ⟨result, mid⟩
  have hrow : R database.tables mid.tables := DatabaseHandle.write_effect hwrite hrefl (hdeactivate _ _)
  have htransaction := (DatabaseHandle.write_frame hwrite).1
  simp only [hwrite] at h
  cases result with
  | none =>
    obtain ⟨-, rfl⟩ := Prod.mk.inj h
    exact ⟨hrow, htransaction⟩
  | some value =>
    obtain ⟨-, rfl⟩ := Prod.mk.inj h
    have hinserted : R mid.tables (mid.write .insertMotd 0 (insertMotdRow body now)).2.tables :=
      DatabaseHandle.write_effect rfl hrefl (hinsert _ _)
    exact ⟨htrans _ _ _ hrow hinserted, (DatabaseHandle.write_frame rfl).1.trans htransaction⟩

end Effects

end HyperCom
