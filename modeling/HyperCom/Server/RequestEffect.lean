import HyperCom.Server.Handlers

/-!
# What a request can do

One inversion for the whole router: `routeMessage_answer` says what any request
can do to the tables, the session and the output, so that no invariant has to
open a handler again.

The tables and the session are described by `RequestEffect`. A registered
session only ever has an `OwnEffect`: rows of other users stay as they are and
new rows carry the session's identity. The output is described by `Answer`:
the connection is closed without a word, the guard refuses the session, one
reply is sent, or the acceptance of a session is followed by the message of
the day.

The module goes from the statements to the handlers: what one statement of a registered
session can do (`OwnEffect`), what the functions of the repositories make of it whether
their calls fail or not, what each handler answers, and then the router. A new handler needs
one lemma here and one line in the match of `routeMessage_answer`.

An `OwnEffect` says of each table which rows may differ. It does not say what was written;
that is what the results about single requests are for.
-/

namespace HyperCom

open BinaryCodec RowStore

/-! ## The effect of a registered session -/

/-- `after` differs from `before` only by what `userId`, whose key is
`announcedPubkey`, owns. -/
structure OwnEffect (userId : ℤ) (announcedPubkey : WirePublicKey) (before after : Tables) :
    Prop where
  /-- accounts are registered and banned, and neither by a registered session -/
  users : after.users = before.users
  usersSequence : after.usersSequence = before.usersSequence
  /-- the administration's own -/
  motd : after.motd = before.motd
  /-- forums are only founded -/
  forums : ∃ founded, after.forums = before.forums ++ founded ∧
    ∀ forum ∈ founded, forum.founderId = userId
  /-- of everybody else, whatever forum they are in -/
  posts : (after.posts.filter fun post => post.authorId ≠ userId) =
    before.posts.filter fun post => post.authorId ≠ userId
  /-- of everybody else, also under the session's own posts -/
  comments : (after.comments.filter fun comment => comment.authorId ≠ userId) =
    before.comments.filter fun comment => comment.authorId ≠ userId
  /-- one row an account, so all rows but one at most -/
  profiles : (after.profiles.filter fun profile => profile.userId ≠ userId) =
    before.profiles.filter fun profile => profile.userId ≠ userId
  /-- the same for prekeys -/
  prekeys : (after.prekeys.filter fun prekey => prekey.userId ≠ userId) =
    before.prekeys.filter fun prekey => prekey.userId ≠ userId
  /-- the rows that start at somebody else, even if they lead to the session -/
  friends : (after.friends.filter fun row => row.userId ≠ userId) =
    before.friends.filter fun row => row.userId ≠ userId
  /-- the lists of others, also where the session's account is in them -/
  top8 : (after.top8.filter fun row => row.userId ≠ userId) =
    before.top8.filter fun row => row.userId ≠ userId
  /-- the envelopes of other recipients are still there -/
  envelopes_kept : (before.dmEnvelopes.filter fun envelope => envelope.recipientId ≠ userId).Sublist
    after.dmEnvelopes
  /-- and a new envelope names its true sender -/
  envelopes_sent : ∀ envelope ∈ after.dmEnvelopes, envelope ∈ before.dmEnvelopes ∨
    envelope.senderPubkey = announcedPubkey
  /-- reports are only filed -/
  reports : ∃ filed, after.reports = before.reports ++ filed ∧
    ∀ report ∈ filed, report.reporterId = userId
  /-- a profile that appears is the user's own, who has an account -/
  profile_user : ∀ profile ∈ after.profiles, profile ∈ before.profiles ∨
    ∃ user ∈ before.users, user.id = profile.userId

namespace OwnEffect

variable {userId : ℤ} {announcedPubkey : WirePublicKey} {before mid after tables : Tables}

/-- A request that writes nothing is one of these, too. -/
theorem refl (tables : Tables) : OwnEffect userId announcedPubkey tables tables where
  users := rfl
  usersSequence := rfl
  motd := rfl
  forums := ⟨[], by simp, by simp⟩
  posts := rfl
  comments := rfl
  profiles := rfl
  prekeys := rfl
  friends := rfl
  top8 := rfl
  envelopes_kept := List.filter_sublist
  envelopes_sent := fun _ h => .inl h
  reports := ⟨[], by simp, by simp⟩
  profile_user := fun _ h => .inl h

/-- Two statements in a row have an effect of the same kind. The lists of new rows are put
together, and the envelopes that the first statement kept are among those the second starts
from. -/
theorem trans (first : OwnEffect userId announcedPubkey before mid)
    (second : OwnEffect userId announcedPubkey mid after) :
    OwnEffect userId announcedPubkey before after where
  users := second.users.trans first.users
  usersSequence := second.usersSequence.trans first.usersSequence
  motd := second.motd.trans first.motd
  forums := by
    obtain ⟨founded, hmid, hfounded⟩ := first.forums
    obtain ⟨founded', hafter, hfounded'⟩ := second.forums
    refine ⟨founded ++ founded', by rw [hafter, hmid, List.append_assoc], ?_⟩
    intro forum hforum
    rcases List.mem_append.mp hforum with h | h
    · exact hfounded forum h
    · exact hfounded' forum h
  posts := second.posts.trans first.posts
  comments := second.comments.trans first.comments
  profiles := second.profiles.trans first.profiles
  prekeys := second.prekeys.trans first.prekeys
  friends := second.friends.trans first.friends
  top8 := second.top8.trans first.top8
  envelopes_kept := by
    have hkept := first.envelopes_kept.filter fun envelope => envelope.recipientId ≠ userId
    rw [List.filter_filter] at hkept
    simp only [Bool.and_self] at hkept
    exact hkept.trans second.envelopes_kept
  envelopes_sent := by
    intro envelope h
    rcases second.envelopes_sent envelope h with h | h
    · exact first.envelopes_sent envelope h
    · exact .inr h
  reports := by
    obtain ⟨filed, hmid, hfiled⟩ := first.reports
    obtain ⟨filed', hafter, hfiled'⟩ := second.reports
    refine ⟨filed ++ filed', by rw [hafter, hmid, List.append_assoc], ?_⟩
    intro report hreport
    rcases List.mem_append.mp hreport with h | h
    · exact hfiled report h
    · exact hfiled' report h
  profile_user := by
    intro profile h
    rcases second.profile_user profile h with h | h
    · exact first.profile_user profile h
    · rw [first.users] at h
      exact .inr h

/-- The accounts stay consistent. -/
theorem consistent (h : OwnEffect userId announcedPubkey before after)
    (hbefore : before.Consistent) : after.Consistent where
  sequence_nonneg := by
    rw [h.usersSequence]
    exact hbefore.sequence_nonneg
  user_id := by
    rw [h.users, h.usersSequence]
    exact hbefore.user_id
  profile_user := by
    intro profile hprofile
    rw [h.users]
    rcases h.profile_user profile hprofile with hold | hnew
    · exact hbefore.profile_user profile hold
    · exact hnew

/-! Every writing statement, bound to the session's own identity. -/

/-- The statements, each with the identity of the session in the column that says whose the
row is. -/
theorem insertForumRow {name description themeJson : ByteString} {now : UInt64} {id : ℤ}
    (h : HyperCom.insertForumRow userId name description themeJson now before = some (id, after)) :
    OwnEffect userId announcedPubkey before after := by
  obtain ⟨-, -, rfl⟩ := insertForumRow_some h
  exact { refl before with forums := ⟨_, rfl, by simp⟩ }

/-- A post may be in anybody's forum; its author is the session. -/
theorem insertPostRow {forumId : ℤ} {title body : ByteString} {now : UInt64} {id : ℤ}
    (h : HyperCom.insertPostRow forumId userId title body now before = some (id, after)) :
    OwnEffect userId announcedPubkey before after := by
  obtain ⟨-, -, rfl⟩ := insertPostRow_some h
  exact { refl before with posts := filter_append_singleton (by simp) _ }

/-- `author_id = ?3` is what keeps other people's posts as they are. -/
theorem erasePostRow {postId : ℤ} {now : UInt64} {changed : ℕ}
    (h : HyperCom.erasePostRow postId userId now before = some (changed, after)) :
    OwnEffect userId announcedPubkey before after := by
  obtain ⟨-, rfl⟩ := Prod.mk.inj (Option.some.inj h)
  refine { refl before with posts := filter_updateWhere ?_ _ }
  intro post hpost
  simp only [Bool.and_eq_true, decide_eq_true_eq] at hpost
  simp [hpost.1.2]

/-- A comment may be under anybody's post. -/
theorem insertCommentRow {postId parentCommentId : ℤ} {body : ByteString} {now : UInt64} {id : ℤ}
    (h : HyperCom.insertCommentRow postId parentCommentId userId body now before =
      some (id, after)) :
    OwnEffect userId announcedPubkey before after := by
  obtain ⟨-, -, rfl⟩ := insertCommentRow_some h
  exact { refl before with comments := filter_append_singleton (by simp) _ }

/-- And the same for comments. -/
theorem eraseCommentRow {commentId : ℤ} {now : UInt64} {changed : ℕ}
    (h : HyperCom.eraseCommentRow commentId userId now before = some (changed, after)) :
    OwnEffect userId announcedPubkey before after := by
  obtain ⟨-, rfl⟩ := Prod.mk.inj (Option.some.inj h)
  refine { refl before with comments := filter_updateWhere ?_ _ }
  intro comment hcomment
  simp only [Bool.and_eq_true, decide_eq_true_eq] at hcomment
  simp [hcomment.1.2]

/-- The statement refuses a profile without an account, which is what keeps the accounts
consistent. -/
theorem upsertProfileRow {request : ProfileSetRequest} {result : Unit}
    (h : HyperCom.upsertProfileRow userId request before = some (result, after)) :
    OwnEffect userId announcedPubkey before after := by
  obtain ⟨hknown, rfl⟩ := upsertProfileRow_some h
  have huser := Tables.hasUser_iff.mp hknown
  refine { refl before with
    profiles := filter_upsert (by simp) (by simp) _
    profile_user := fun profile hprofile => ?_ }
  rcases mem_upsert hprofile with hold | rfl
  · exact .inl hold
  · exact .inr huser

/-- The key of the upsert is the account, so the row of somebody else is never met. -/
theorem upsertPrekeyRow {prekey : WirePublicKey} {signature : WireSignature} {now : UInt64}
    {result : Unit}
    (h : HyperCom.upsertPrekeyRow userId prekey signature now before = some (result, after)) :
    OwnEffect userId announcedPubkey before after := by
  obtain rfl := upsertPrekeyRow_some h
  exact { refl before with prekeys := filter_upsert (by simp) (by simp) _ }

/-- The key is the pair, and the first half of it is the session. -/
theorem upsertFriendRow {friendId : ℤ} {status : FriendshipStatus} {result : Unit}
    (h : HyperCom.upsertFriendRow userId friendId status before = some (result, after)) :
    OwnEffect userId announcedPubkey before after := by
  obtain rfl := upsertFriendRow_some h
  refine { refl before with friends := filter_upsert ?_ (by simp) _ }
  intro row hrow
  simp only [Bool.and_eq_true, decide_eq_true_eq] at hrow
  simp [hrow.1]

/-- Reports belong to the administration, but carry who reported. -/
theorem insertReportRow {target : ReportTarget} {reason : ByteString} {now : UInt64}
    {result : Unit}
    (h : HyperCom.insertReportRow target userId reason now before = some (result, after)) :
    OwnEffect userId announcedPubkey before after := by
  obtain ⟨id, rfl⟩ := insertReportRow_some h
  exact { refl before with reports := ⟨_, rfl, by simp⟩ }

/-- The envelope is somebody else's from then on; its sender is the key of the session. -/
theorem insertEnvelopeRow {recipientId : ℤ} {ciphertext : ByteString} {id : ℤ}
    (h : HyperCom.insertEnvelopeRow recipientId announcedPubkey ciphertext before =
      some (id, after)) :
    OwnEffect userId announcedPubkey before after := by
  obtain ⟨-, rfl⟩ := insertEnvelopeRow_some h
  refine { (refl before : OwnEffect userId announcedPubkey before before) with
    envelopes_kept := List.filter_sublist.trans (List.sublist_append_left ..)
    envelopes_sent := fun envelope henvelope => ?_ }
  rcases List.mem_append.mp henvelope with hold | hnew
  · exact .inl hold
  · rw [List.mem_singleton.mp hnew]
    exact .inr rfl

/-- Only the recipient's own envelopes go. -/
theorem deleteEnvelopeRow {identifier : UInt64} {result : Unit}
    (h : HyperCom.deleteEnvelopeRow userId identifier before = some (result, after)) :
    OwnEffect userId announcedPubkey before after := by
  obtain ⟨-, rfl⟩ := Prod.mk.inj (Option.some.inj h)
  refine { (refl before : OwnEffect userId announcedPubkey before before) with
    envelopes_kept := ?_
    envelopes_sent := fun envelope henvelope => .inl (List.mem_of_mem_filter henvelope) }
  refine List.monotone_filter_right _ fun envelope henvelope => ?_
  simp only [decide_eq_true_eq] at henvelope
  simp [henvelope]

/-- `replace_slots` starts by taking all of the account's own rows away, -/
theorem deleteTop8Rows {result : Unit}
    (h : HyperCom.deleteTop8Rows userId before = some (result, after)) :
    OwnEffect userId announcedPubkey before after := by
  obtain ⟨-, rfl⟩ := Prod.mk.inj (Option.some.inj h)
  exact { refl before with top8 := filter_deleteWhere (by simp) _ }

/-- and puts new ones of the account in. -/
theorem insertTop8Row {entry : Top8Entry} {result : Unit}
    (h : HyperCom.insertTop8Row userId entry before = some (result, after)) :
    OwnEffect userId announcedPubkey before after := by
  obtain ⟨-, -, rfl⟩ := insertTop8Row_some h
  exact { refl before with top8 := filter_append_singleton (by simp) _ }

end OwnEffect

/-! ## The repositories, bound to the session's own identity -/

section Repositories

variable {userId : ℤ} {announcedPubkey : WirePublicKey} {database database' : DatabaseHandle}

/-- The functions of the repositories: a call that fails changes nothing, or undoes what the
transaction had done. -/
theorem createForum_own {name description themeJson : ByteString} {now : UInt64} {id : Option ℤ}
    (h : createForum database userId name description themeJson now = (id, database')) :
    OwnEffect userId announcedPubkey database.tables database'.tables :=
  DatabaseHandle.write_effect h OwnEffect.refl OwnEffect.insertForumRow

/-- One statement each, so that the case analysis of `write` is all there is to do. -/
theorem createPost_own {forumId : ℤ} {title body : ByteString} {now : UInt64} {id : Option ℤ}
    (h : createPost database forumId userId title body now = (id, database')) :
    OwnEffect userId announcedPubkey database.tables database'.tables :=
  DatabaseHandle.write_effect h OwnEffect.refl OwnEffect.insertPostRow

theorem createComment_own {postId parentCommentId : ℤ} {body : ByteString} {now : UInt64}
    {id : Option ℤ}
    (h : createComment database postId parentCommentId userId body now = (id, database')) :
    OwnEffect userId announcedPubkey database.tables database'.tables :=
  DatabaseHandle.write_effect h OwnEffect.refl OwnEffect.insertCommentRow

/-- Here the identity is the key and not the id of the account. -/
theorem insertEnvelope_own {recipientId : ℤ} {ciphertext : ByteString} {id : Option ℤ}
    (h : insertEnvelope database recipientId announcedPubkey ciphertext = (id, database')) :
    OwnEffect userId announcedPubkey database.tables database'.tables :=
  DatabaseHandle.write_effect h OwnEffect.refl OwnEffect.insertEnvelopeRow

/-- That no row was changed is reported as a failure, but it is no failure of the statement. -/
theorem deleteOwnPost_own {postId : ℤ} {now : UInt64} {done : Bool}
    (h : deleteOwnPost database postId userId now = (done, database')) :
    OwnEffect userId announcedPubkey database.tables database'.tables := by
  obtain ⟨-, rfl⟩ := Prod.mk.inj h
  exact DatabaseHandle.write_effect rfl OwnEffect.refl OwnEffect.erasePostRow

theorem deleteOwnComment_own {commentId : ℤ} {now : UInt64} {done : Bool}
    (h : deleteOwnComment database commentId userId now = (done, database')) :
    OwnEffect userId announcedPubkey database.tables database'.tables := by
  obtain ⟨-, rfl⟩ := Prod.mk.inj h
  exact DatabaseHandle.write_effect rfl OwnEffect.refl OwnEffect.eraseCommentRow

/-- An upsert cannot tell whether it has changed a row or added one, and need not. -/
theorem replaceProfile_own {request : ProfileSetRequest} {done : Bool}
    (h : replaceProfile database userId request = (done, database')) :
    OwnEffect userId announcedPubkey database.tables database'.tables := by
  obtain ⟨-, rfl⟩ := Prod.mk.inj h
  exact DatabaseHandle.write_effect rfl OwnEffect.refl OwnEffect.upsertProfileRow

theorem replacePrekey_own {prekey : WirePublicKey} {signature : WireSignature} {now : UInt64}
    {done : Bool} (h : replacePrekey database userId prekey signature now = (done, database')) :
    OwnEffect userId announcedPubkey database.tables database'.tables := by
  obtain ⟨-, rfl⟩ := Prod.mk.inj h
  exact DatabaseHandle.write_effect rfl OwnEffect.refl OwnEffect.upsertPrekeyRow

theorem replaceFriendship_own {friendId : ℤ} {status : FriendshipStatus} {done : Bool}
    (h : replaceFriendship database userId friendId status = (done, database')) :
    OwnEffect userId announcedPubkey database.tables database'.tables := by
  obtain ⟨-, rfl⟩ := Prod.mk.inj h
  exact DatabaseHandle.write_effect rfl OwnEffect.refl OwnEffect.upsertFriendRow

/-- Both kinds of report go through one statement. -/
theorem recordReport_own {target : ReportTarget} {reason : ByteString} {now : UInt64} {done : Bool}
    (h : recordReport database target userId reason now = (done, database')) :
    OwnEffect userId announcedPubkey database.tables database'.tables := by
  obtain ⟨-, rfl⟩ := Prod.mk.inj h
  exact DatabaseHandle.write_effect rfl OwnEffect.refl OwnEffect.insertReportRow

/-- Each deletion is the recipient's own, and so is their sequence. -/
theorem deleteAcknowledged_own {ids : List UInt64} {done : Bool}
    (h : deleteAcknowledged database userId ids = (done, database')) :
    OwnEffect userId announcedPubkey database.tables database'.tables :=
  deleteAcknowledged_effect h OwnEffect.refl (fun _ _ _ => OwnEffect.trans)
    fun _ _ _ _ => OwnEffect.deleteEnvelopeRow

/-- A whole transaction, wherever it broke off. -/
theorem replaceSlots_own {entries : List Top8Entry} {done : Bool}
    (h : replaceSlots database userId entries = (done, database')) :
    OwnEffect userId announcedPubkey database.tables database'.tables :=
  replaceSlots_effect h OwnEffect.refl (fun _ _ _ => OwnEffect.trans)
    (fun _ _ => OwnEffect.deleteTop8Rows) fun _ _ _ => OwnEffect.insertTop8Row

/-- Who is found is there. -/
theorem findUserByPubkey_some {pubkey : WirePublicKey} {user : UserRow}
    (h : findUserByPubkey database pubkey = some user) :
    user ∈ database.tables.users ∧ user.pubkey = pubkey := by
  have hmem := DatabaseHandle.queryFirst_mem h
  simpa using List.mem_filter.mp hmem

/-- The same with the id, for the account that was just created. -/
theorem findUserById_some {id : ℤ} {user : UserRow}
    (h : findUserById database id = some user) :
    user ∈ database.tables.users ∧ user.id = id := by
  have hmem := DatabaseHandle.queryFirst_mem h
  simpa using List.mem_filter.mp hmem

/-- A registration adds one account or none. -/
theorem createUser_cases {pubkey : WirePublicKey}
    {handle : ByteString} {id : Option ℤ}
    (h : createUser database pubkey handle = (id, database')) :
    (id = none ∧ database' = database) ∨
      ∃ createdId, id = some createdId ∧
        insertUserRow pubkey handle database.tables = some (createdId, database'.tables) := by
  obtain hnothing | ⟨createdId, tables, hinsert, rfl, rfl⟩ := DatabaseHandle.write_cases h
  · exact .inl hnothing
  · exact .inr ⟨createdId, rfl, hinsert⟩

/-- The empty profile of a new account, which may fail without the registration failing. -/
theorem replaceProfile_cases (database : DatabaseHandle) (userId : ℤ)
    (request : ProfileSetRequest) :
    (replaceProfile database userId request).2.tables = database.tables ∨
      upsertProfileRow userId request database.tables =
        some ((), (replaceProfile database userId request).2.tables) := by
  rcases hwrite : database.write .replaceProfile 0 (upsertProfileRow userId request) with
    ⟨result, database'⟩
  rw [replaceProfile, hwrite]
  obtain ⟨-, rfl⟩ | ⟨_, tables, hupsert, -, rfl⟩ := DatabaseHandle.write_cases hwrite
  · exact .inl rfl
  · exact .inr hupsert

/-- The checkpoint touches the log only. -/
theorem walCheckpoint_tables (database : DatabaseHandle) :
    database.walCheckpoint.tables = database.tables := by
  rw [DatabaseHandle.walCheckpoint]
  split <;> rfl

end Repositories

/-! ## The effect of any request on the tables and the session -/

variable [Sodium]

/-- The session once an account is accepted. -/
def SessionState.accept (session : SessionState) (user : UserRow) : SessionState :=
  { session with phase := .authenticated, userId := user.id, handle := user.handle }

/-- The database and the session a request of a given type and payload can
leave behind, before anything is sent. -/
inductive RequestEffect (context : HandlerContext) (type : MessageType) (reader : ByteReader) :
    DatabaseHandle → SessionState → Prop where
  /-- nothing is written, and the session stays where it is -/
  | unchanged : RequestEffect context type reader context.database context.connection.session
  /-- a registered session works on what it owns -/
  | own {database : DatabaseHandle} (registered : context.connection.session.isRegistered = true)
      (effect : OwnEffect context.connection.session.userId
        context.connection.session.announcedPubkey context.database.tables database.tables) :
      RequestEffect context type reader database context.connection.session
  /-- the one accepted hello fixes the key and draws the nonce -/
  | greeted {request : HelloRequest} (isHello : type = .helloRequest)
      (phase : context.connection.session.phase = .awaitingHello)
      (decoded : (HelloRequest.readFrom reader).1 = some request)
      (version : request.protocolVersion = protocolVersion) :
      RequestEffect context type reader context.database { context.connection.session with
        announcedPubkey := request.clientPubkey
        challengeNonce := context.ambient.randomNonce
        phase := .awaitingAuth }
  /-- the key is proven and has an account that is not banned -/
  | accepted {response : AuthResponse} {user : UserRow} (isAuth : type = .authResponse)
      (phase : context.connection.session.phase = .awaitingAuth)
      (decoded : (AuthResponse.readFrom reader).1 = some response)
      (verified : verifySignature context.connection.session.announcedPubkey
        (buildAuthSigningInput context.connection.session.challengeNonce
          context.connection.session.announcedPubkey) response.signature = true)
      (known : user ∈ context.database.tables.users)
      (key : user.pubkey = context.connection.session.announcedPubkey)
      (allowed : user.banned = false) :
      RequestEffect context type reader context.database (context.connection.session.accept user)
  /-- the key is proven and has no account -/
  | proven {response : AuthResponse} (isAuth : type = .authResponse)
      (phase : context.connection.session.phase = .awaitingAuth)
      (decoded : (AuthResponse.readFrom reader).1 = some response)
      (verified : verifySignature context.connection.session.announcedPubkey
        (buildAuthSigningInput context.connection.session.challengeNonce
          context.connection.session.announcedPubkey) response.signature = true) :
      RequestEffect context type reader context.database
        { context.connection.session with phase := .authenticated, userId := 0 }
  /-- an account is created for the proven key, with or without its profile -/
  | enrolled {database : DatabaseHandle} {session : SessionState} {handle : ByteString}
      {createdId : ℤ} {tables : Tables} (isRegister : type = .registerRequest)
      (phase : context.connection.session.phase = .authenticated)
      (unregistered : context.connection.session.userId = 0)
      (inserted : insertUserRow context.connection.session.announcedPubkey handle
        context.database.tables = some (createdId, tables))
      (profile : database.tables = tables ∨
        upsertProfileRow createdId {} tables = some ((), database.tables))
      (left : session = context.connection.session ∨ ∃ user ∈ tables.users,
        user.id = createdId ∧ session = context.connection.session.accept user) :
      RequestEffect context type reader database session

/-! ## The answer to any request -/

/-- The context with a new database and session, before anything is sent. -/
def HandlerContext.leave (context : HandlerContext) (database : DatabaseHandle)
    (session : SessionState) : HandlerContext :=
  { context with database, connection := { context.connection with session } }

/-- The request types whose handler starts with the session guard. -/
def MessageType.behindGuard : MessageType → Bool
  | .forumCreateRequest | .forumListRequest | .postCreateRequest | .postListRequest
  | .threadFetchRequest | .commentCreateRequest | .postDeleteRequest | .commentDeleteRequest
  | .prekeyPublishRequest | .prekeyFetchRequest | .profileGetRequest | .profileSetRequest
  | .friendAddRequest | .friendListRequest | .top8SetRequest | .top8GetRequest
  | .dmSendRequest | .dmFetchRequest | .dmAckRequest
  | .reportPostRequest | .reportAccountRequest => true
  | _ => false

/-- The database at the call of `send_accepted_session`, where the handler of the
request gets that far. -/
def acceptedDatabase (context : HandlerContext) (type : MessageType) (reader : ByteReader) :
    Option DatabaseHandle :=
  let session := context.connection.session
  match type with
  | .authResponse =>
    if session.phase ≠ .awaitingAuth then none
    else
      match (AuthResponse.readFrom reader).1 with
      | none => none
      | some response =>
        if !verifySignature session.announcedPubkey
            (buildAuthSigningInput session.challengeNonce session.announcedPubkey)
            response.signature then none
        else
          match findUserByPubkey context.database session.announcedPubkey with
          | some existing => if existing.banned then none else some context.database
          | none => none
  | .registerRequest =>
    if session.phase ≠ .authenticated ∨ session.userId ≠ 0 then none
    else if !context.config.registrationOpen then none
    else
      match (RegisterRequest.readFrom reader).1 with
      | none => none
      | some request =>
        if !validateHandle request.handle then none
        else
          match createUser context.database session.announcedPubkey request.handle with
          | (none, _) => none
          | (some createdId, database) =>
            match findUserById database createdId with
            | none => none
            | some _ => some (replaceProfile database createdId {}).2
  | _ => none

/-- What the handler of a request returns and leaves. -/
inductive Answer (context : HandlerContext) (type : MessageType) (reader : ByteReader) :
    Bool × HandlerContext → Prop where
  /-- closed without a word -/
  | closed : Answer context type reader (false, context)
  /-- refused by the session guard, which does not look at the send's result -/
  | refused (guarded : type.behindGuard = true)
      (unregistered : context.connection.session.isRegistered = false) :
      Answer context type reader (true, (sendStatusError context .notAuthenticated).2)
  /-- one reply, whose sending decides the result -/
  | replied {database : DatabaseHandle} {session : SessionState}
      (does : RequestEffect context type reader database session) (reply : MessageType)
      (payload : ByteString) :
      Answer context type reader (sendMessage (context.leave database session) reply payload)
  /-- the acceptance of a session, then the message of the day -/
  | announced {database : DatabaseHandle} {session : SessionState} {announcement : MotdPush}
      {accepted : HandlerContext} (does : RequestEffect context type reader database session)
      (payload : ByteString)
      (sent : sendMessage (context.leave database session) .authAccepted payload = (true, accepted))
      (reached : acceptedDatabase context type reader = some database)
      (active : findActiveMotd database = some announcement) :
      Answer context type reader (sendMessage accepted .motdPush announcement.writeTo)

/-- Sending leaves the database and the session alone, so they are what the
effect of the request left. -/
theorem Answer.effect {context : HandlerContext} {type : MessageType} {reader : ByteReader}
    {out : Bool × HandlerContext} (h : Answer context type reader out) :
    RequestEffect context type reader out.2.database out.2.connection.session := by
  cases h with
  | closed => exact .unchanged
  | refused =>
    rw [sendStatusError, (sendMessage_frame ..).1, (sendMessage_frame ..).2]
    exact .unchanged
  | replied does =>
    rw [(sendMessage_frame ..).1, (sendMessage_frame ..).2]
    exact does
  | @announced database session announcement accepted does payload sent =>
    obtain ⟨hdatabase, hsession⟩ :=
      sendMessage_frame (context.leave database session) .authAccepted payload
    rw [sent] at hdatabase hsession
    rw [(sendMessage_frame ..).1, (sendMessage_frame ..).2, hdatabase, hsession]
    exact does

/-- No answer takes the channel away. -/
theorem Answer.established {context : HandlerContext} {type : MessageType} {reader : ByteReader}
    {out : Bool × HandlerContext} (h : Answer context type reader out)
    (hbefore : context.connection.channel.transport ≠ none) :
    out.2.connection.channel.transport ≠ none := by
  cases h with
  | closed => exact hbefore
  | refused => exact (sendRawMessage_cases ..).established hbefore
  | replied => exact (sendRawMessage_cases ..).established hbefore
  | @announced database session _ accepted _ payload sent =>
    have haccepted := (sendRawMessage_cases (context.leave database session).connection .authAccepted
      payload).established hbefore
    rw [show (sendRawMessage _ _ _).2 = accepted.connection from
      congrArg (fun out => out.2.connection) sent] at haccepted
    exact (sendRawMessage_cases ..).established haccepted

section Guarded

variable {context : HandlerContext} {type : MessageType} {reader : ByteReader}

/-- An error reply that leaves everything as it was. -/
theorem Answer.error (code : ErrorCode) :
    Answer context type reader (sendStatusError context code) :=
  .replied .unchanged _ _

/-- Behind the guard, a handler only has to account for its body in a
registered session. -/
theorem guardedRequest_answer {α : Type} {readFrom : Reader α}
    {body : HandlerContext → α → Bool × HandlerContext} (guarded : type.behindGuard = true)
    (hbody : ∀ request, context.connection.session.isRegistered = true →
      Answer context type reader (body context request)) :
    Answer context type reader (guardedRequest readFrom body context reader) := by
  cases hregistered : context.connection.session.isRegistered with
  | false =>
    rw [guardedRequest_refused hregistered]
    exact .refused guarded hregistered
  | true =>
    rcases hread : (readFrom reader).1 with _ | request
    · rw [guardedRequest_undecoded hregistered hread]
      exact .closed
    · rw [guardedRequest_decoded hregistered hread]
      exact hbody request hregistered

/-- The handlers, in the order of the router. A guarded request that is refused or
unreadable is dealt with once, in `guardedRequest`; what is left is one case for each reply.
-/
theorem handlePrekeyPublishRequest_answer :
    Answer context .prekeyPublishRequest reader (handlePrekeyPublishRequest context reader) := by
  refine guardedRequest_answer rfl fun request hregistered => ?_
  split
  · next h => exact .replied (.own hregistered (replacePrekey_own h)) _ _
  · next h => exact .replied (.own hregistered (replacePrekey_own h)) _ _

/-- Reading somebody's prekey leaves no trace. -/
theorem handlePrekeyFetchRequest_answer :
    Answer context .prekeyFetchRequest reader (handlePrekeyFetchRequest context reader) := by
  refine guardedRequest_answer rfl fun request _ => ?_
  split
  · exact .error _
  · exact .replied .unchanged _ _

/-- The row that was written is read back for the reply; if that fails, the forum is there
and the client is told of an error. -/
theorem handleForumCreateRequest_answer :
    Answer context .forumCreateRequest reader (handleForumCreateRequest context reader) := by
  refine guardedRequest_answer rfl fun request hregistered => ?_
  split
  · exact .error _
  split
  · next h => exact .replied (.own hregistered (createForum_own h)) _ _
  · next h =>
    split
    · exact .replied (.own hregistered (createForum_own h)) _ _
    · exact .replied (.own hregistered (createForum_own h)) _ _

/-- Lists are answered from the tables, or not at all. -/
theorem handleForumListRequest_answer :
    Answer context .forumListRequest reader (handleForumListRequest context reader) := by
  refine guardedRequest_answer rfl fun request _ => ?_
  split
  · exact .error _
  · exact .replied .unchanged _ _

/-- Two checks before the write: the texts, then the forum. -/
theorem handlePostCreateRequest_answer :
    Answer context .postCreateRequest reader (handlePostCreateRequest context reader) := by
  refine guardedRequest_answer rfl fun request hregistered => ?_
  split
  · exact .error _
  split
  · exact .error _
  split
  · next h => exact .replied (.own hregistered (createPost_own h)) _ _
  · next h =>
    split
    · exact .replied (.own hregistered (createPost_own h)) _ _
    · exact .replied (.own hregistered (createPost_own h)) _ _

theorem handlePostListRequest_answer :
    Answer context .postListRequest reader (handlePostListRequest context reader) := by
  refine guardedRequest_answer rfl fun request _ => ?_
  split
  · exact .error _
  · exact .replied .unchanged _ _

/-- The post is looked up before the comments are. -/
theorem handleThreadFetchRequest_answer :
    Answer context .threadFetchRequest reader (handleThreadFetchRequest context reader) := by
  refine guardedRequest_answer rfl fun request _ => ?_
  split
  · exact .error _
  split
  · exact .error _
  · exact .replied .unchanged _ _

/-- Three checks before the write; the parent comment has to be in the same thread. -/
theorem handleCommentCreateRequest_answer :
    Answer context .commentCreateRequest reader (handleCommentCreateRequest context reader) := by
  refine guardedRequest_answer rfl fun request hregistered => ?_
  split
  · exact .error _
  split
  · exact .error _
  split
  · exact .error _
  split
  · next h => exact .replied (.own hregistered (createComment_own h)) _ _
  · next h =>
    split
    · exact .replied (.own hregistered (createComment_own h)) _ _
    · exact .replied (.own hregistered (createComment_own h)) _ _

/-- The checkpoint after a deletion is no write. -/
theorem handlePostDeleteRequest_answer :
    Answer context .postDeleteRequest reader (handlePostDeleteRequest context reader) := by
  refine guardedRequest_answer rfl fun request hregistered => ?_
  split
  · next h => exact .replied (.own hregistered (deleteOwnPost_own h)) _ _
  · next database h =>
    refine .replied (.own hregistered ?_) _ _
    rw [walCheckpoint_tables]
    exact deleteOwnPost_own h

theorem handleCommentDeleteRequest_answer :
    Answer context .commentDeleteRequest reader (handleCommentDeleteRequest context reader) := by
  refine guardedRequest_answer rfl fun request hregistered => ?_
  split
  · next h => exact .replied (.own hregistered (deleteOwnComment_own h)) _ _
  · next database h =>
    refine .replied (.own hregistered ?_) _ _
    rw [walCheckpoint_tables]
    exact deleteOwnComment_own h

theorem handleProfileGetRequest_answer :
    Answer context .profileGetRequest reader (handleProfileGetRequest context reader) := by
  refine guardedRequest_answer rfl fun request _ => ?_
  split
  · exact .error _
  · exact .replied .unchanged _ _

/-- There is nothing to look up first. -/
theorem handleProfileSetRequest_answer :
    Answer context .profileSetRequest reader (handleProfileSetRequest context reader) := by
  refine guardedRequest_answer rfl fun request hregistered => ?_
  split
  · next h => exact .replied (.own hregistered (replaceProfile_own h)) _ _
  · next h => exact .replied (.own hregistered (replaceProfile_own h)) _ _

/-- The friend must have an account, and be somebody else. -/
theorem handleFriendAddRequest_answer :
    Answer context .friendAddRequest reader (handleFriendAddRequest context reader) := by
  refine guardedRequest_answer rfl fun request hregistered => ?_
  split
  · exact .error _
  split
  · exact .error _
  split
  · next h => exact .replied (.own hregistered (replaceFriendship_own h)) _ _
  · next h => exact .replied (.own hregistered (replaceFriendship_own h)) _ _

theorem handleFriendListRequest_answer :
    Answer context .friendListRequest reader (handleFriendListRequest context reader) := by
  refine guardedRequest_answer rfl fun request _ => ?_
  split
  · exact .error _
  · exact .replied .unchanged _ _

/-- The slots are resolved to accounts before the transaction begins. -/
theorem handleTop8SetRequest_answer :
    Answer context .top8SetRequest reader (handleTop8SetRequest context reader) := by
  refine guardedRequest_answer rfl fun request hregistered => ?_
  split
  · exact .error _
  split
  · next h => exact .replied (.own hregistered (replaceSlots_own h)) _ _
  · next h => exact .replied (.own hregistered (replaceSlots_own h)) _ _

theorem handleTop8GetRequest_answer :
    Answer context .top8GetRequest reader (handleTop8GetRequest context reader) := by
  refine guardedRequest_answer rfl fun request _ => ?_
  split
  · exact .error _
  split
  · exact .error _
  · exact .replied .unchanged _ _

/-- An empty ciphertext is refused, and so is a recipient without an account. -/
theorem handleDmSendRequest_answer :
    Answer context .dmSendRequest reader (handleDmSendRequest context reader) := by
  refine guardedRequest_answer rfl fun request hregistered => ?_
  split
  · exact .error _
  split
  · exact .error _
  split
  · next h => exact .replied (.own hregistered (insertEnvelope_own h)) _ _
  · next h => exact .replied (.own hregistered (insertEnvelope_own h)) _ _

theorem handleDmFetchRequest_answer :
    Answer context .dmFetchRequest reader (handleDmFetchRequest context reader) := by
  refine guardedRequest_answer rfl fun request _ => ?_
  unfold answerDmFetch
  split
  · exact .error _
  · exact .replied .unchanged _ _

/-- Identifiers that are not the session's own are passed over in silence. -/
theorem handleDmAckRequest_answer :
    Answer context .dmAckRequest reader (handleDmAckRequest context reader) := by
  refine guardedRequest_answer rfl fun request hregistered => ?_
  split
  · next h => exact .replied (.own hregistered (deleteAcknowledged_own h)) _ _
  · next h => exact .replied (.own hregistered (deleteAcknowledged_own h)) _ _

/-- The post must be there, deleted or not. -/
theorem handleReportPostRequest_answer :
    Answer context .reportPostRequest reader (handleReportPostRequest context reader) := by
  refine guardedRequest_answer rfl fun request hregistered => ?_
  split
  · exact .error _
  split
  · next h => exact .replied (.own hregistered (recordReport_own h)) _ _
  · next h => exact .replied (.own hregistered (recordReport_own h)) _ _

theorem handleReportAccountRequest_answer :
    Answer context .reportAccountRequest reader (handleReportAccountRequest context reader) := by
  refine guardedRequest_answer rfl fun request hregistered => ?_
  split
  · exact .error _
  split
  · next h => exact .replied (.own hregistered (recordReport_own h)) _ _
  · next h => exact .replied (.own hregistered (recordReport_own h)) _ _

end Guarded

/-! ## The session handlers -/

section Session

variable {context : HandlerContext} {reader : ByteReader}

/-- Accepting a session sends the acceptance and, if there is one, the message
of the day. -/
theorem sendAcceptedSession_answer {type : MessageType} {database : DatabaseHandle}
    {user : UserRow}
    (does : RequestEffect context type reader database (context.connection.session.accept user))
    (reached : acceptedDatabase context type reader = some database) :
    Answer context type reader (sendAcceptedSession { context with database } user) := by
  unfold sendAcceptedSession
  simp only
  split
  · next h =>
    rw [← h]
    exact .replied does _ _
  · next accepted h =>
    have hdatabase : accepted.database = database := by
      have hframe := congrArg (fun out => out.2.database) h
      exact hframe.symm
    split
    · rw [← h]
      exact .replied does _ _
    · next hactive =>
      rw [hdatabase] at hactive
      exact .announced does _ h reached hactive

/-- The four requests that need no account answer for themselves. -/
theorem handleHelloRequest_answer :
    Answer context .helloRequest reader (handleHelloRequest context reader) := by
  unfold handleHelloRequest
  simp only
  split
  · exact .error _
  · next hphase =>
    split
    · exact .closed
    · next request hread =>
      split
      · exact .error _
      · next hversion =>
        exact .replied (.greeted rfl (not_not.mp hphase) hread (not_not.mp hversion)) _ _

/-- The signature is checked first. What is answered then depends on the account: none, a
banned one, or one that is accepted. -/
theorem handleAuthResponse_answer :
    Answer context .authResponse reader (handleAuthResponse context reader) := by
  unfold handleAuthResponse
  simp only
  split
  · exact .error _
  · next hphase =>
    have hphase := not_not.mp hphase
    split
    · exact .closed
    · next response hread =>
      split
      · exact .closed
      · next hverified =>
        rw [Bool.not_eq_true', Bool.not_eq_false] at hverified
        split
        · next user hfound =>
          obtain ⟨hknown, hkey⟩ := findUserByPubkey_some hfound
          split
          · exact .error _
          · next hbanned =>
            have hallowed := (Bool.not_eq_true _).mp hbanned
            refine sendAcceptedSession_answer
              (.accepted rfl hphase hread hverified hknown hkey hallowed) ?_
            simp [acceptedDatabase, hphase, hread, hverified, hfound, hbanned]
        · exact .replied (.proven rfl hphase hread hverified) _ _

/-- The longest of the handlers: five checks, an account, its profile, and the session.
Where the account cannot be read back, it stays and the session remains as it was. -/
theorem handleRegisterRequest_answer :
    Answer context .registerRequest reader (handleRegisterRequest context reader) := by
  unfold handleRegisterRequest
  simp only
  split
  · exact .error _
  · next hfresh =>
    have hphase : context.connection.session.phase = .authenticated :=
      not_not.mp fun h => hfresh (.inl h)
    have hunregistered : context.connection.session.userId = 0 :=
      not_not.mp fun h => hfresh (.inr h)
    split
    · exact .error _
    next hregistration =>
    split
    · exact .closed
    next request hread =>
    split
    · exact .error _
    next hhandle =>
    split
    · -- the handle or the key is taken: nothing was written
      next hcreate =>
      rcases createUser_cases hcreate with ⟨-, rfl⟩ | ⟨createdId, hid, -⟩
      · exact .error _
      · cases hid
    · next hcreate =>
      rcases createUser_cases hcreate with ⟨hid, -⟩ | ⟨createdId, hid, hinsert⟩
      · cases hid
      obtain rfl := Option.some.inj hid
      split
      · exact .replied (.enrolled rfl hphase hunregistered hinsert (.inl rfl) (.inl rfl)) _ _
      · next user hfound =>
        obtain ⟨hknown, hkey⟩ := findUserById_some hfound
        refine sendAcceptedSession_answer (.enrolled rfl hphase hunregistered hinsert
          (replaceProfile_cases ..) (.inr ⟨user, hknown, hkey, rfl⟩)) ?_
        simp only [acceptedDatabase, hfresh, hregistration, hread, hhandle, hcreate, hfound,
          if_false, Bool.false_eq_true]

/-- A ping is answered to anybody, once it is well formed. -/
theorem handlePingRequest_answer :
    Answer context .pingRequest reader (handlePingRequest context reader) := by
  unfold handlePingRequest
  split
  · exact .closed
  · exact .replied .unchanged _ _

end Session

/-- Everything a request can do: the inversion of `route_message`. -/
theorem routeMessage_answer (context : HandlerContext) (type : MessageType) (reader : ByteReader) :
    Answer context type reader (routeMessage context type reader) := by
  cases type with
  | helloRequest => exact handleHelloRequest_answer
  | authResponse => exact handleAuthResponse_answer
  | registerRequest => exact handleRegisterRequest_answer
  | pingRequest => exact handlePingRequest_answer
  | forumCreateRequest => exact handleForumCreateRequest_answer
  | forumListRequest => exact handleForumListRequest_answer
  | postCreateRequest => exact handlePostCreateRequest_answer
  | postListRequest => exact handlePostListRequest_answer
  | threadFetchRequest => exact handleThreadFetchRequest_answer
  | commentCreateRequest => exact handleCommentCreateRequest_answer
  | postDeleteRequest => exact handlePostDeleteRequest_answer
  | commentDeleteRequest => exact handleCommentDeleteRequest_answer
  | prekeyPublishRequest => exact handlePrekeyPublishRequest_answer
  | prekeyFetchRequest => exact handlePrekeyFetchRequest_answer
  | profileGetRequest => exact handleProfileGetRequest_answer
  | profileSetRequest => exact handleProfileSetRequest_answer
  | friendAddRequest => exact handleFriendAddRequest_answer
  | friendListRequest => exact handleFriendListRequest_answer
  | top8SetRequest => exact handleTop8SetRequest_answer
  | top8GetRequest => exact handleTop8GetRequest_answer
  | dmSendRequest => exact handleDmSendRequest_answer
  | dmFetchRequest => exact handleDmFetchRequest_answer
  | dmAckRequest => exact handleDmAckRequest_answer
  | reportPostRequest => exact handleReportPostRequest_answer
  | reportAccountRequest => exact handleReportAccountRequest_answer
  | helloResponse | authChallenge | authAccepted | pingResponse | motdPush | statusOk
  | statusError | prekeyBundleResponse | forumInfoResponse | forumListResponse
  | postInfoResponse | postListResponse | threadResponse | commentInfoResponse
  | profileResponse | friendListResponse | top8Response | dmListResponse
  | blobAnnounceRequest | blobLocateRequest | blobPeersResponse => exact .error _

end HyperCom
