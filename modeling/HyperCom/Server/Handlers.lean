import HyperCom.Server.Connection
import HyperCom.Server.Repositories

/-!
# The request handlers and the router

`session_guard`, every `*_handler.cpp` and `request_router`. A handler returns
whether the connection may stay open, and the context it leaves.

All handlers but those of the session open with the same lines: the session
guard, then the decoding of the request. `guardedRequest` is those lines, and
each handler is written as `guardedRequest` applied to its request type and to
what it does afterwards. The guard's own send is the one whose result the
source discards.
-/

namespace HyperCom

open BinaryCodec

variable [Sodium]

/-! ## `session_guard` -/

/-- `require_registered_session`: emits the protocol error itself, and does not
look at whether it could be sent. -/
def requireRegisteredSession (context : HandlerContext) : Bool × HandlerContext :=
  if context.connection.session.isRegistered then (true, context)
  else (false, (sendStatusError context .notAuthenticated).2)

/-- The opening of every business handler. -/
def guardedRequest {α : Type} (readFrom : Reader α)
    (body : HandlerContext → α → Bool × HandlerContext) (context : HandlerContext)
    (reader : ByteReader) : Bool × HandlerContext :=
  match requireRegisteredSession context with
  | (false, context) => (true, context)
  | (true, context) =>
    match (readFrom reader).1 with
    | none => (false, context)
    | some request => body context request

section Guard

variable {α : Type} {readFrom : Reader α} {body : HandlerContext → α → Bool × HandlerContext}
  {context : HandlerContext} {reader : ByteReader}

/-- An unregistered session is refused, and the connection stays open whatever
became of the refusal. -/
theorem guardedRequest_refused (h : context.connection.session.isRegistered = false) :
    guardedRequest readFrom body context reader =
      (true, (sendStatusError context .notAuthenticated).2) := by
  simp [guardedRequest, requireRegisteredSession, h]

/-- A registered session whose request decodes gets to the body. -/
theorem guardedRequest_decoded {request : α} (h : context.connection.session.isRegistered = true)
    (hread : (readFrom reader).1 = some request) :
    guardedRequest readFrom body context reader = body context request := by
  simp [guardedRequest, requireRegisteredSession, h, hread]

/-- A registered session whose request does not decode is closed. -/
theorem guardedRequest_undecoded (h : context.connection.session.isRegistered = true)
    (hread : (readFrom reader).1 = none) :
    guardedRequest readFrom body context reader = (false, context) := by
  simp [guardedRequest, requireRegisteredSession, h, hread]

/-- Behind the guard, a handler only has to account for its body: nothing else of it
touches the tables. -/
theorem guardedRequest_effect {R : Tables → Tables → Prop} (hrefl : ∀ tables, R tables tables)
    (hbody : ∀ request, (readFrom reader).1 = some request →
      R context.database.tables (body context request).2.database.tables) :
    R context.database.tables (guardedRequest readFrom body context reader).2.database.tables := by
  cases hregistered : context.connection.session.isRegistered with
  | false =>
    rw [guardedRequest_refused hregistered]
    exact hrefl _
  | true =>
    rcases hread : (readFrom reader).1 with _ | request
    · rw [guardedRequest_undecoded hregistered hread]
      exact hrefl _
    · rw [guardedRequest_decoded hregistered hread]
      exact hbody request hread

end Guard

/-! ## `session_handler` -/

/-- `send_accepted_session`: the session becomes the account's, and the message
of the day follows the acceptance. -/
def sendAcceptedSession (context : HandlerContext) (user : UserRow) : Bool × HandlerContext :=
  let session := { context.connection.session with
    phase := .authenticated, userId := user.id, handle := user.handle }
  let context := { context with connection := { context.connection with session } }
  match sendMessage context .authAccepted (AuthAccepted.writeTo
      { userId := castUInt64 user.id, handle := user.handle
        serverTime := context.ambient.unixTimestamp }) with
  | (false, context) => (false, context)
  | (true, context) =>
    match findActiveMotd context.database with
    | none => (true, context)
    | some announcement => sendMessage context .motdPush announcement.writeTo

/-- `handle_hello_request` -/
def handleHelloRequest (context : HandlerContext) (reader : ByteReader) : Bool × HandlerContext :=
  let session := context.connection.session
  if session.phase ≠ .awaitingHello then sendStatusError context .alreadyAuthenticated
  else
    match (HelloRequest.readFrom reader).1 with
    | none => (false, context)
    | some request =>
      if request.protocolVersion ≠ protocolVersion then
        sendStatusError context .unsupportedVersion
      else
        let nonce := context.ambient.randomNonce
        let existing := findUserByPubkey context.database request.clientPubkey
        let session := { session with
          announcedPubkey := request.clientPubkey, challengeNonce := nonce, phase := .awaitingAuth }
        sendMessage { context with connection := { context.connection with session } }
          .authChallenge (AuthChallenge.writeTo
            { nonce, accountExists := if existing.isSome then 1 else 0
              serverTime := context.ambient.unixTimestamp })

/-- `handle_auth_response`: a wrong signature closes the connection. -/
def handleAuthResponse (context : HandlerContext) (reader : ByteReader) : Bool × HandlerContext :=
  let session := context.connection.session
  if session.phase ≠ .awaitingAuth then sendStatusError context .notAuthenticated
  else
    match (AuthResponse.readFrom reader).1 with
    | none => (false, context)
    | some response =>
      let signedInput := buildAuthSigningInput session.challengeNonce session.announcedPubkey
      if !verifySignature session.announcedPubkey signedInput response.signature then
        (false, context)
      else
        match findUserByPubkey context.database session.announcedPubkey with
        | some existing =>
          if existing.banned then sendStatusError context .accountBanned
          else sendAcceptedSession context existing
        | none =>
          -- key proven but without an account: only a registration is acceptable now
          let session := { session with phase := .authenticated, userId := 0 }
          sendStatusOk { context with connection := { context.connection with session } } 0

/-- `handle_register_request` -/
def handleRegisterRequest (context : HandlerContext) (reader : ByteReader) :
    Bool × HandlerContext :=
  let session := context.connection.session
  if session.phase ≠ .authenticated ∨ session.userId ≠ 0 then
    sendStatusError context .alreadyAuthenticated
  else if !context.config.registrationOpen then sendStatusError context .permissionDenied
  else
    match (RegisterRequest.readFrom reader).1 with
    | none => (false, context)
    | some request =>
      if !validateHandle request.handle then sendStatusError context .invalidField
      else
        match createUser context.database session.announcedPubkey request.handle with
        | (none, database) => sendStatusError { context with database } .handleUnavailable
        | (some createdId, database) =>
          match findUserById database createdId with
          | none => sendStatusError { context with database } .internalError
          | some created =>
            -- the result of the profile's creation is discarded
            let database := (replaceProfile database createdId {}).2
            sendAcceptedSession { context with database } created

/-- `handle_ping_request` -/
def handlePingRequest (context : HandlerContext) (reader : ByteReader) : Bool × HandlerContext :=
  match (PingRequest.readFrom reader).1 with
  | none => (false, context)
  | some request =>
    sendMessage context .pingResponse (PingResponse.writeTo
      { token := request.token, serverTime := context.ambient.unixTimestamp })

/-! ## `account_handler` -/

/-- `handle_prekey_publish_request` -/
def handlePrekeyPublishRequest : HandlerContext → ByteReader → Bool × HandlerContext :=
  guardedRequest PrekeyPublishRequest.readFrom fun context request =>
    match replacePrekey context.database context.connection.session.userId request.prekey
        request.signature context.ambient.unixTimestamp with
    | (false, database) => sendStatusError { context with database } .internalError
    | (true, database) => sendStatusOk { context with database } 0

/-- `handle_prekey_fetch_request` -/
def handlePrekeyFetchRequest : HandlerContext → ByteReader → Bool × HandlerContext :=
  guardedRequest PrekeyFetchRequest.readFrom fun context request =>
    match findBundleByPubkey context.database request.targetPubkey with
    | none => sendStatusError context .notFound
    | some bundle => sendMessage context .prekeyBundleResponse bundle.writeTo

/-! ## `forum_handler` -/

/-- `clamp_list_limit`: the requested limit is clamped, never honoured as it is. -/
def clampListLimit (requested : UInt16) : UInt16 :=
  min (if requested = 0 then UInt16.ofNat defaultListItems else requested)
    (UInt16.ofNat maxListItems)

/-- `handle_forum_create_request` -/
def handleForumCreateRequest : HandlerContext → ByteReader → Bool × HandlerContext :=
  guardedRequest ForumCreateRequest.readFrom fun context request =>
    if !validateForumName request.name then sendStatusError context .invalidField
    else
      match createForum context.database context.connection.session.userId request.name
          request.description request.themeJson context.ambient.unixTimestamp with
      | (none, database) => sendStatusError { context with database } .duplicateEntry
      | (some createdId, database) =>
        match findForumById database createdId with
        | none => sendStatusError { context with database } .internalError
        | some forum =>
          sendMessage { context with database } .forumInfoResponse
            (ForumInfoResponse.writeTo { forum })

/-- `handle_forum_list_request` -/
def handleForumListRequest : HandlerContext → ByteReader → Bool × HandlerContext :=
  guardedRequest ForumListRequest.readFrom fun context request =>
    match listForums context.database request.offset (clampListLimit request.limit) with
    | none => sendStatusError context .internalError
    | some (forums, totalCount) =>
      sendMessage context .forumListResponse (ForumListResponse.writeTo { forums, totalCount })

/-! ## `content_handler` -/

/-- `handle_post_create_request` -/
def handlePostCreateRequest : HandlerContext → ByteReader → Bool × HandlerContext :=
  guardedRequest PostCreateRequest.readFrom fun context request =>
    if request.title.isEmpty || request.body.isEmpty then sendStatusError context .invalidField
    else
      match findForumById context.database (castInt64 request.forumId) with
      | none => sendStatusError context .notFound
      | some _ =>
        match createPost context.database (castInt64 request.forumId)
            context.connection.session.userId request.title request.body
            context.ambient.unixTimestamp with
        | (none, database) => sendStatusError { context with database } .internalError
        | (some createdId, database) =>
          match findPostById database createdId with
          | none => sendStatusError { context with database } .internalError
          | some post =>
            sendMessage { context with database } .postInfoResponse
              (PostInfoResponse.writeTo { post })

/-- `handle_post_list_request` -/
def handlePostListRequest : HandlerContext → ByteReader → Bool × HandlerContext :=
  guardedRequest PostListRequest.readFrom fun context request =>
    match listPostsByForum context.database (castInt64 request.forumId) request.offset
        (clampListLimit request.limit) with
    | none => sendStatusError context .internalError
    | some (posts, totalCount) =>
      sendMessage context .postListResponse (PostListResponse.writeTo { posts, totalCount })

/-- `handle_thread_fetch_request` -/
def handleThreadFetchRequest : HandlerContext → ByteReader → Bool × HandlerContext :=
  guardedRequest ThreadFetchRequest.readFrom fun context request =>
    match findPostById context.database (castInt64 request.postId) with
    | none => sendStatusError context .notFound
    | some post =>
      match listThread context.database (castInt64 request.postId) maxThreadComments with
      | none => sendStatusError context .internalError
      | some (comments, truncated) =>
        sendMessage context .threadResponse (ThreadResponse.writeTo
          { post, comments, truncated := if truncated then 1 else 0 })

/-- `handle_comment_create_request`: a parent must belong to the same post. -/
def handleCommentCreateRequest : HandlerContext → ByteReader → Bool × HandlerContext :=
  guardedRequest CommentCreateRequest.readFrom fun context request =>
    if request.body.isEmpty then sendStatusError context .invalidField
    else
      match findPostById context.database (castInt64 request.postId) with
      | none => sendStatusError context .notFound
      | some _ =>
        if request.parentCommentId ≠ 0 && !checkParentBelongsToPost context.database
            (castInt64 request.parentCommentId) (castInt64 request.postId) then
          sendStatusError context .invalidField
        else
          match createComment context.database (castInt64 request.postId)
              (castInt64 request.parentCommentId) context.connection.session.userId request.body
              context.ambient.unixTimestamp with
          | (none, database) => sendStatusError { context with database } .internalError
          | (some createdId, database) =>
            match findCommentById database createdId with
            | none => sendStatusError { context with database } .internalError
            | some comment =>
              sendMessage { context with database } .commentInfoResponse
                (CommentInfoResponse.writeTo { comment })

/-! ## `content_delete_handler` -/

/-- `handle_post_delete_request`: the checkpoint empties the log the erased text
would survive in. -/
def handlePostDeleteRequest : HandlerContext → ByteReader → Bool × HandlerContext :=
  guardedRequest PostDeleteRequest.readFrom fun context request =>
    match deleteOwnPost context.database (castInt64 request.postId)
        context.connection.session.userId context.ambient.unixTimestamp with
    | (false, database) => sendStatusError { context with database } .permissionDenied
    | (true, database) =>
      sendStatusOk { context with database := database.walCheckpoint } request.postId

/-- `handle_comment_delete_request` -/
def handleCommentDeleteRequest : HandlerContext → ByteReader → Bool × HandlerContext :=
  guardedRequest CommentDeleteRequest.readFrom fun context request =>
    match deleteOwnComment context.database (castInt64 request.commentId)
        context.connection.session.userId context.ambient.unixTimestamp with
    | (false, database) => sendStatusError { context with database } .permissionDenied
    | (true, database) =>
      sendStatusOk { context with database := database.walCheckpoint } request.commentId

/-! ## `profile_handler` -/

/-- `handle_profile_get_request` -/
def handleProfileGetRequest : HandlerContext → ByteReader → Bool × HandlerContext :=
  guardedRequest ProfileGetRequest.readFrom fun context request =>
    match findProfileByPubkey context.database request.targetPubkey with
    | none => sendStatusError context .notFound
    | some profile => sendMessage context .profileResponse (ProfileResponse.writeTo { profile })

/-- `handle_profile_set_request`: only the session's own profile is modified. -/
def handleProfileSetRequest : HandlerContext → ByteReader → Bool × HandlerContext :=
  guardedRequest ProfileSetRequest.readFrom fun context request =>
    match replaceProfile context.database context.connection.session.userId request with
    | (false, database) => sendStatusError { context with database } .internalError
    | (true, database) => sendStatusOk { context with database } 0

/-! ## `social_handler` -/

/-- `handle_friend_add_request` -/
def handleFriendAddRequest : HandlerContext → ByteReader → Bool × HandlerContext :=
  guardedRequest FriendAddRequest.readFrom fun context request =>
    match findUserByPubkey context.database request.targetPubkey with
    | none => sendStatusError context .notFound
    | some target =>
      if target.id = context.connection.session.userId then
        sendStatusError context .invalidField
      else
        match replaceFriendship context.database context.connection.session.userId target.id
            request.status with
        | (false, database) => sendStatusError { context with database } .internalError
        | (true, database) => sendStatusOk { context with database } (castUInt64 target.id)

/-- `handle_friend_list_request`: the request has no fields, so nothing is read. -/
def handleFriendListRequest : HandlerContext → ByteReader → Bool × HandlerContext :=
  guardedRequest (pure () : Reader Unit) fun context _ =>
    match listFriends context.database context.connection.session.userId maxFriendItems with
    | none => sendStatusError context .internalError
    | some friends =>
      sendMessage context .friendListResponse (FriendListResponse.writeTo { friends })

/-- `is_empty_slot` -/
def isEmptySlot (key : WirePublicKey) : Bool := key.1.all (· == 0)

/-- `resolve_top8_entries`, from the `index`-th slot on: an unknown key rejects
the whole list. -/
def resolveTop8Entries (database : DatabaseHandle) :
    ℕ → List WirePublicKey → Option (List Top8Entry)
  | _, [] => some []
  | index, slot :: slots =>
    if isEmptySlot slot then resolveTop8Entries database (index + 1) slots
    else
      match findUserByPubkey database slot with
      | none => none
      | some target =>
        (resolveTop8Entries database (index + 1) slots).map fun entries =>
          { slot := index, friendId := target.id } :: entries

/-- `handle_top8_set_request` -/
def handleTop8SetRequest : HandlerContext → ByteReader → Bool × HandlerContext :=
  guardedRequest Top8SetRequest.readFrom fun context request =>
    match resolveTop8Entries context.database 0 request.slots.1 with
    | none => sendStatusError context .notFound
    | some entries =>
      match replaceSlots context.database context.connection.session.userId entries with
      | (false, database) => sendStatusError { context with database } .internalError
      | (true, database) => sendStatusOk { context with database } 0

/-- `handle_top8_get_request` -/
def handleTop8GetRequest : HandlerContext → ByteReader → Bool × HandlerContext :=
  guardedRequest Top8GetRequest.readFrom fun context request =>
    match findUserByPubkey context.database request.targetPubkey with
    | none => sendStatusError context .notFound
    | some target =>
      match listSlots context.database target.id with
      | none => sendStatusError context .internalError
      | some response => sendMessage context .top8Response response.writeTo

/-! ## `dm_handler` -/

/-- `handle_dm_send_request`: the sender is the session's, never a field of the
message. -/
def handleDmSendRequest : HandlerContext → ByteReader → Bool × HandlerContext :=
  guardedRequest DmSendRequest.readFrom fun context request =>
    if request.ciphertext.isEmpty then sendStatusError context .invalidField
    else
      match findUserByPubkey context.database request.recipientPubkey with
      | none => sendStatusError context .notFound
      | some recipient =>
        match insertEnvelope context.database recipient.id
            context.connection.session.announcedPubkey request.ciphertext with
        | (none, database) => sendStatusError { context with database } .internalError
        | (some createdId, database) =>
          sendStatusOk { context with database } (castUInt64 createdId)

/-- The limit `handle_dm_fetch_request` works with. -/
def clampBatchLimit (requested : UInt16) : UInt16 :=
  min (if requested = 0 then 100 else requested) 100

/-- What `handle_dm_fetch_request` does once the request is decoded. -/
def answerDmFetch (context : HandlerContext) (request : DmFetchRequest) : Bool × HandlerContext :=
  match listForRecipient context.database context.connection.session.userId request.sinceId
      (clampBatchLimit request.limit) with
  | none => sendStatusError context .internalError
  | some response => sendMessage context .dmListResponse response.writeTo

/-- `handle_dm_fetch_request` -/
def handleDmFetchRequest : HandlerContext → ByteReader → Bool × HandlerContext :=
  guardedRequest DmFetchRequest.readFrom answerDmFetch

/-- `handle_dm_ack_request`: acknowledging means deleting permanently. -/
def handleDmAckRequest : HandlerContext → ByteReader → Bool × HandlerContext :=
  guardedRequest DmAckRequest.readFrom fun context request =>
    match deleteAcknowledged context.database context.connection.session.userId
        request.envelopeIds with
    | (false, database) => sendStatusError { context with database } .internalError
    | (true, database) =>
      sendStatusOk { context with database } (UInt64.ofNat request.envelopeIds.length)

/-! ## `report_handler` -/

/-- `handle_report_post_request` -/
def handleReportPostRequest : HandlerContext → ByteReader → Bool × HandlerContext :=
  guardedRequest ReportPostRequest.readFrom fun context request =>
    match findPostById context.database (castInt64 request.postId) with
    | none => sendStatusError context .notFound
    | some _ =>
      match recordPostReport context.database (castInt64 request.postId)
          context.connection.session.userId request.reason context.ambient.unixTimestamp with
      | (false, database) => sendStatusError { context with database } .internalError
      | (true, database) => sendStatusOk { context with database } request.postId

/-- `handle_report_account_request` -/
def handleReportAccountRequest : HandlerContext → ByteReader → Bool × HandlerContext :=
  guardedRequest ReportAccountRequest.readFrom fun context request =>
    match findUserByPubkey context.database request.targetPubkey with
    | none => sendStatusError context .notFound
    | some _ =>
      match recordAccountReport context.database request.targetPubkey
          context.connection.session.userId request.reason context.ambient.unixTimestamp with
      | (false, database) => sendStatusError { context with database } .internalError
      | (true, database) => sendStatusOk { context with database } 0

/-! ## `request_router` -/

/-- `route_message`. The families of the source are tried one after the other
and no type belongs to two of them; a type no family recognises is one a client
has no reason to send. -/
def routeMessage (context : HandlerContext) (type : MessageType) (reader : ByteReader) :
    Bool × HandlerContext :=
  match type with
  | .helloRequest => handleHelloRequest context reader
  | .authResponse => handleAuthResponse context reader
  | .registerRequest => handleRegisterRequest context reader
  | .pingRequest => handlePingRequest context reader
  | .forumCreateRequest => handleForumCreateRequest context reader
  | .forumListRequest => handleForumListRequest context reader
  | .postCreateRequest => handlePostCreateRequest context reader
  | .postListRequest => handlePostListRequest context reader
  | .threadFetchRequest => handleThreadFetchRequest context reader
  | .commentCreateRequest => handleCommentCreateRequest context reader
  | .postDeleteRequest => handlePostDeleteRequest context reader
  | .commentDeleteRequest => handleCommentDeleteRequest context reader
  | .prekeyPublishRequest => handlePrekeyPublishRequest context reader
  | .prekeyFetchRequest => handlePrekeyFetchRequest context reader
  | .profileGetRequest => handleProfileGetRequest context reader
  | .profileSetRequest => handleProfileSetRequest context reader
  | .friendAddRequest => handleFriendAddRequest context reader
  | .friendListRequest => handleFriendListRequest context reader
  | .top8SetRequest => handleTop8SetRequest context reader
  | .top8GetRequest => handleTop8GetRequest context reader
  | .dmSendRequest => handleDmSendRequest context reader
  | .dmFetchRequest => handleDmFetchRequest context reader
  | .dmAckRequest => handleDmAckRequest context reader
  | .reportPostRequest => handleReportPostRequest context reader
  | .reportAccountRequest => handleReportAccountRequest context reader
  | _ => sendStatusError context .notImplemented

end HyperCom
