import HyperCom.Server.SilentAccount

/-!
# Published prekeys

The prekey of an account changes when the account publishes one, and not otherwise: no
other handler writes to the table (`routeMessage_keepsPrekeys`), and the handler that
does writes the row of its session. So the bundle that everybody is served is the one
published last, whatever happens in between (`published_bundle_served`).

A prekey is what others encrypt to. Were it changed by anything but its owner, letters would
go to somebody else or to nobody, and the client could only tell by the signature. The
server stores the signature without looking at it, so that the row is written by the right
session is all there is on its side.

The first half goes through the handlers, as `TableWrites` does, but for one table and
without the checks; the second half adds the administration and the other accounts and
follows a run.
-/

namespace HyperCom

open BinaryCodec RowStore AdminDispatcher

/-! ## The other handlers -/

/-- No prekey was written. -/
def Tables.KeepsPrekeys (before after : Tables) : Prop := after.prekeys = before.prekeys

namespace Tables.KeepsPrekeys

/-- Nothing that only reads writes a prekey. -/
theorem refl (tables : Tables) : Tables.KeepsPrekeys tables tables := rfl

/-- Nor do two statements neither of which does. -/
theorem trans (first second third : Tables) (h : Tables.KeepsPrekeys first second)
    (h' : Tables.KeepsPrekeys second third) : Tables.KeepsPrekeys first third :=
  Eq.trans h' h

end Tables.KeepsPrekeys

section Handlers

open Tables (KeepsPrekeys)

variable {context : HandlerContext} {reader : ByteReader} {database database' : DatabaseHandle}

/-- Functions that two handlers share. -/
theorem replaceProfile_keepsPrekeys {userId : ℤ} {request : ProfileSetRequest} {done : Bool}
    (h : replaceProfile database userId request = (done, database')) :
    KeepsPrekeys database.tables database'.tables := by
  obtain ⟨-, rfl⟩ := Prod.mk.inj h
  refine DatabaseHandle.write_effect rfl .refl fun written => ?_
  obtain ⟨-, rfl⟩ := upsertProfileRow_some written
  rfl

/-- Reports on posts and on accounts are one statement. -/
theorem recordReport_keepsPrekeys {target : ReportTarget} {reporterId : ℤ} {reason : ByteString}
    {now : UInt64} {done : Bool}
    (h : recordReport database target reporterId reason now = (done, database')) :
    KeepsPrekeys database.tables database'.tables := by
  obtain ⟨-, rfl⟩ := Prod.mk.inj h
  refine DatabaseHandle.write_effect rfl .refl fun written => ?_
  obtain ⟨_, rfl⟩ := insertReportRow_some written
  rfl

variable [Sodium]

/-- A new account has no prekey until it publishes one. -/
theorem handleRegisterRequest_keepsPrekeys :
    KeepsPrekeys context.database.tables (handleRegisterRequest context reader).2.database.tables := by
  rw [handleRegisterRequest]
  dsimp only
  split
  · exact .refl _
  split
  · exact .refl _
  split
  · exact .refl _
  split
  · exact .refl _
  have hcreated : ∀ {pubkey handle result database},
      createUser context.database pubkey handle = (result, database) →
      KeepsPrekeys context.database.tables database.tables := by
    intro pubkey handle result database hcreate
    refine DatabaseHandle.write_effect hcreate .refl fun written => ?_
    obtain ⟨-, rfl⟩ := insertUserRow_some written
    rfl
  split
  · next hcreate => exact hcreated hcreate
  · next createdId database hcreate =>
    split
    · exact hcreated hcreate
    · rw [sendAcceptedSession_database]
      exact .trans _ _ _ (hcreated hcreate) (replaceProfile_keepsPrekeys rfl)

/-- The others write to a table of their own, or to none. -/
theorem handleForumCreateRequest_keepsPrekeys :
    KeepsPrekeys context.database.tables
      (handleForumCreateRequest context reader).2.database.tables := by
  refine guardedRequest_effect .refl fun request _ => ?_
  have hcreated : ∀ {result database}, createForum context.database
      context.connection.session.userId request.name request.description request.themeJson
      context.ambient.unixTimestamp = (result, database) →
      KeepsPrekeys context.database.tables database.tables := by
    intro result database hcreate
    refine DatabaseHandle.write_effect hcreate .refl fun written => ?_
    obtain ⟨-, -, rfl⟩ := insertForumRow_some written
    rfl
  split
  · exact .refl _
  split
  · next hcreate => exact hcreated hcreate
  · next hcreate =>
    split
    · exact hcreated hcreate
    · exact hcreated hcreate

/-- A failed lookup after the insertion leaves the post, and the prekeys all the same. -/
theorem handlePostCreateRequest_keepsPrekeys :
    KeepsPrekeys context.database.tables
      (handlePostCreateRequest context reader).2.database.tables := by
  refine guardedRequest_effect .refl fun request _ => ?_
  have hcreated : ∀ {result database}, createPost context.database (castInt64 request.forumId)
      context.connection.session.userId request.title request.body
      context.ambient.unixTimestamp = (result, database) →
      KeepsPrekeys context.database.tables database.tables := by
    intro result database hcreate
    refine DatabaseHandle.write_effect hcreate .refl fun written => ?_
    obtain ⟨-, -, rfl⟩ := insertPostRow_some written
    rfl
  split
  · exact .refl _
  split
  · exact .refl _
  split
  · next hcreate => exact hcreated hcreate
  · next hcreate =>
    split
    · exact hcreated hcreate
    · exact hcreated hcreate

/-- Three refusals, then one row. -/
theorem handleCommentCreateRequest_keepsPrekeys :
    KeepsPrekeys context.database.tables
      (handleCommentCreateRequest context reader).2.database.tables := by
  refine guardedRequest_effect .refl fun request _ => ?_
  have hcreated : ∀ {result database}, createComment context.database (castInt64 request.postId)
      (castInt64 request.parentCommentId) context.connection.session.userId request.body
      context.ambient.unixTimestamp = (result, database) →
      KeepsPrekeys context.database.tables database.tables := by
    intro result database hcreate
    refine DatabaseHandle.write_effect hcreate .refl fun written => ?_
    obtain ⟨-, -, rfl⟩ := insertCommentRow_some written
    rfl
  split
  · exact .refl _
  split
  · exact .refl _
  split
  · exact .refl _
  split
  · next hcreate => exact hcreated hcreate
  · next hcreate =>
    split
    · exact hcreated hcreate
    · exact hcreated hcreate

/-- A deletion is an update of the post and a checkpoint of the log. -/
theorem handlePostDeleteRequest_keepsPrekeys :
    KeepsPrekeys context.database.tables
      (handlePostDeleteRequest context reader).2.database.tables := by
  refine guardedRequest_effect .refl fun request _ => ?_
  have hdeleted : ∀ {done database}, deleteOwnPost context.database (castInt64 request.postId)
      context.connection.session.userId context.ambient.unixTimestamp = (done, database) →
      KeepsPrekeys context.database.tables database.tables := by
    intro done database hdelete
    obtain ⟨-, rfl⟩ := Prod.mk.inj hdelete
    refine DatabaseHandle.write_effect Prod.mk.eta.symm .refl fun written => ?_
    obtain ⟨-, rfl⟩ := Prod.mk.inj (Option.some.inj written)
    rfl
  split
  · next hdelete => exact hdeleted hdelete
  · next database hdelete =>
    change KeepsPrekeys context.database.tables database.walCheckpoint.tables
    rw [walCheckpoint_tables]
    exact hdeleted hdelete

/-- As for posts. -/
theorem handleCommentDeleteRequest_keepsPrekeys :
    KeepsPrekeys context.database.tables
      (handleCommentDeleteRequest context reader).2.database.tables := by
  refine guardedRequest_effect .refl fun request _ => ?_
  have hdeleted : ∀ {done database}, deleteOwnComment context.database (castInt64 request.commentId)
      context.connection.session.userId context.ambient.unixTimestamp = (done, database) →
      KeepsPrekeys context.database.tables database.tables := by
    intro done database hdelete
    obtain ⟨-, rfl⟩ := Prod.mk.inj hdelete
    refine DatabaseHandle.write_effect Prod.mk.eta.symm .refl fun written => ?_
    obtain ⟨-, rfl⟩ := Prod.mk.inj (Option.some.inj written)
    rfl
  split
  · next hdelete => exact hdeleted hdelete
  · next database hdelete =>
    change KeepsPrekeys context.database.tables database.walCheckpoint.tables
    rw [walCheckpoint_tables]
    exact hdeleted hdelete

/-- The profile is public like the prekey, but a row of another table. -/
theorem handleProfileSetRequest_keepsPrekeys :
    KeepsPrekeys context.database.tables
      (handleProfileSetRequest context reader).2.database.tables := by
  refine guardedRequest_effect .refl fun request _ => ?_
  split
  · next hreplace => exact replaceProfile_keepsPrekeys hreplace
  · next hreplace => exact replaceProfile_keepsPrekeys hreplace

/-- Befriending somebody is no business of their prekey, -/
theorem handleFriendAddRequest_keepsPrekeys :
    KeepsPrekeys context.database.tables
      (handleFriendAddRequest context reader).2.database.tables := by
  refine guardedRequest_effect .refl fun request _ => ?_
  split
  · exact .refl _
  next target _ =>
  have hreplaced : ∀ {done database}, replaceFriendship context.database
      context.connection.session.userId target.id request.status = (done, database) →
      KeepsPrekeys context.database.tables database.tables := by
    intro done database hreplace
    obtain ⟨-, rfl⟩ := Prod.mk.inj hreplace
    refine DatabaseHandle.write_effect rfl .refl fun written => ?_
    obtain rfl := upsertFriendRow_some written
    rfl
  split
  · exact .refl _
  split
  · next hreplace => exact hreplaced hreplace
  · next hreplace => exact hreplaced hreplace

/-- A transaction: every statement in it writes to the top 8, and so does whatever undoes it. -/
theorem handleTop8SetRequest_keepsPrekeys :
    KeepsPrekeys context.database.tables
      (handleTop8SetRequest context reader).2.database.tables := by
  refine guardedRequest_effect .refl fun request _ => ?_
  split
  · exact .refl _
  have hreplaced : ∀ {entries done database}, replaceSlots context.database
      context.connection.session.userId entries = (done, database) →
      KeepsPrekeys context.database.tables database.tables := by
    intro entries done database hreplace
    refine replaceSlots_effect hreplace .refl .trans ?_ ?_
    · intro before after written
      obtain ⟨-, rfl⟩ := Prod.mk.inj (Option.some.inj written)
      rfl
    · intro entry before after written
      obtain ⟨-, -, rfl⟩ := insertTop8Row_some written
      rfl
  split
  · next hreplace => exact hreplaced hreplace
  · next hreplace => exact hreplaced hreplace

/-- nor is reporting them. -/
theorem handleReportPostRequest_keepsPrekeys :
    KeepsPrekeys context.database.tables
      (handleReportPostRequest context reader).2.database.tables := by
  refine guardedRequest_effect .refl fun request _ => ?_
  split
  · exact .refl _
  split
  · next hrecord => exact recordReport_keepsPrekeys hrecord
  · next hrecord => exact recordReport_keepsPrekeys hrecord

theorem handleReportAccountRequest_keepsPrekeys :
    KeepsPrekeys context.database.tables
      (handleReportAccountRequest context reader).2.database.tables := by
  refine guardedRequest_effect .refl fun request _ => ?_
  split
  · exact .refl _
  split
  · next hrecord => exact recordReport_keepsPrekeys hrecord
  · next hrecord => exact recordReport_keepsPrekeys hrecord

/-- Mail is encrypted to a prekey, but sending it does not use the prekey up. -/
theorem handleDmSendRequest_keepsPrekeys :
    KeepsPrekeys context.database.tables
      (handleDmSendRequest context reader).2.database.tables := by
  refine handleDmSendRequest_effect .refl fun _ written => ?_
  obtain ⟨-, rfl⟩ := insertEnvelopeRow_some written
  rfl

/-- Acknowledging deletes envelopes in a transaction; none of its statements, nor what
undoes it, is about prekeys. -/
theorem handleDmAckRequest_keepsPrekeys :
    KeepsPrekeys context.database.tables
      (handleDmAckRequest context reader).2.database.tables := by
  refine handleDmAckRequest_effect .refl .trans fun _ _ _ _ before after written => ?_
  obtain ⟨-, rfl⟩ := Prod.mk.inj (Option.some.inj written)
  rfl

/-- Only a `prekey_publish_request` writes to the prekeys. -/
theorem routeMessage_keepsPrekeys {type : MessageType} (htype : type ≠ .prekeyPublishRequest) :
    KeepsPrekeys context.database.tables (routeMessage context type reader).2.database.tables := by
  cases type with
  | prekeyPublishRequest => exact absurd rfl htype
  | helloRequest =>
    rw [routeMessage, handleHelloRequest_database]
    exact .refl _
  | authResponse =>
    rw [routeMessage, handleAuthResponse_database]
    exact .refl _
  | pingRequest =>
    rw [routeMessage, handlePingRequest_database]
    exact .refl _
  | registerRequest => exact handleRegisterRequest_keepsPrekeys
  | forumCreateRequest => exact handleForumCreateRequest_keepsPrekeys
  | postCreateRequest => exact handlePostCreateRequest_keepsPrekeys
  | commentCreateRequest => exact handleCommentCreateRequest_keepsPrekeys
  | postDeleteRequest => exact handlePostDeleteRequest_keepsPrekeys
  | commentDeleteRequest => exact handleCommentDeleteRequest_keepsPrekeys
  | profileSetRequest => exact handleProfileSetRequest_keepsPrekeys
  | friendAddRequest => exact handleFriendAddRequest_keepsPrekeys
  | top8SetRequest => exact handleTop8SetRequest_keepsPrekeys
  | dmSendRequest => exact handleDmSendRequest_keepsPrekeys
  | dmAckRequest => exact handleDmAckRequest_keepsPrekeys
  | reportPostRequest => exact handleReportPostRequest_keepsPrekeys
  | reportAccountRequest => exact handleReportAccountRequest_keepsPrekeys
  | prekeyFetchRequest | forumListRequest | postListRequest | profileGetRequest
  | friendListRequest =>
    refine guardedRequest_effect .refl fun request _ => ?_
    split <;> exact .refl _
  | threadFetchRequest | top8GetRequest =>
    refine guardedRequest_effect .refl fun request _ => ?_
    split
    · exact .refl _
    split <;> exact .refl _
  | dmFetchRequest =>
    refine guardedRequest_effect .refl fun request _ => ?_
    rw [answerDmFetch]
    split <;> exact .refl _
  | helloResponse | authChallenge | authAccepted | pingResponse | motdPush | statusOk
  | statusError | prekeyBundleResponse | forumInfoResponse | forumListResponse
  | postInfoResponse | postListResponse | threadResponse | commentInfoResponse
  | profileResponse | friendListResponse | top8Response | dmListResponse
  | blobAnnounceRequest | blobLocateRequest | blobPeersResponse => exact .refl _

/-- What a request does to the prekeys of any account but that of its session, and what
any request but a `prekey_publish_request` does to all of them: nothing. -/
structure WritesOwnPrekey (context : HandlerContext) (type : MessageType) (reader : ByteReader) :
    Prop where
  /-- any other request -/
  kept : type ≠ .prekeyPublishRequest →
    KeepsPrekeys context.database.tables (routeMessage context type reader).2.database.tables
  /-- any request, and any other account -/
  foreign : ∀ userId, (context.connection.session.isRegistered = true →
      context.connection.session.userId ≠ userId) →
    ((routeMessage context type reader).2.database.tables.prekeys.filter fun row =>
      row.userId = userId) = context.database.tables.prekeys.filter fun row => row.userId = userId

/-- A publication writes to the row of its session. -/
theorem handlePrekeyPublishRequest_foreign {userId : ℤ}
    (other : context.connection.session.isRegistered = true →
      context.connection.session.userId ≠ userId) :
    ((handlePrekeyPublishRequest context reader).2.database.tables.prekeys.filter fun row =>
      row.userId = userId) =
      context.database.tables.prekeys.filter fun row => row.userId = userId := by
  cases hregistered : context.connection.session.isRegistered with
  | false =>
    rw [handlePrekeyPublishRequest, guardedRequest_refused hregistered]
    rfl
  | true =>
    have hne := other hregistered
    refine guardedRequest_effect (R := fun before after =>
      (after.prekeys.filter fun row => row.userId = userId) =
        before.prekeys.filter fun row => row.userId = userId) (fun _ => rfl) fun request _ => ?_
    have hreplaced : ∀ {done database}, replacePrekey context.database
        context.connection.session.userId request.prekey request.signature
        context.ambient.unixTimestamp = (done, database) →
        (database.tables.prekeys.filter fun row => row.userId = userId) =
          context.database.tables.prekeys.filter fun row => row.userId = userId := by
      intro done database hreplace
      obtain ⟨-, rfl⟩ := Prod.mk.inj hreplace
      refine DatabaseHandle.write_effect (R := fun before after =>
        (after.prekeys.filter fun row => row.userId = userId) =
          before.prekeys.filter fun row => row.userId = userId) rfl (fun _ => rfl)
        fun written => ?_
      obtain rfl := upsertPrekeyRow_some written
      refine filter_upsert ?_ ?_ context.database.tables.prekeys
      · intro row hown
        exact decide_eq_false fun hid => hne ((of_decide_eq_true hown).symm.trans hid)
      · exact decide_eq_false hne
    split
    · next hreplace => exact hreplaced hreplace
    · next hreplace => exact hreplaced hreplace

/-- Both halves, of every request. -/
theorem routeMessage_writesOwnPrekey (context : HandlerContext) (type : MessageType)
    (reader : ByteReader) : WritesOwnPrekey context type reader where
  kept := routeMessage_keepsPrekeys
  foreign userId other := by
    rcases eq_or_ne type .prekeyPublishRequest with rfl | htype
    · exact handlePrekeyPublishRequest_foreign other
    · rw [routeMessage_keepsPrekeys htype]

end Handlers

/-! ## Over a run of the server -/

section Runs

variable [Sodium]

/-- Any request, but a publication of the account itself, or a command of the
administration. -/
inductive StepWithoutPrekey (userId : ℤ) : Tables → Tables → Prop where
  /-- the account may ask for anything else -/
  | served (context : HandlerContext) (type : MessageType) (reader : ByteReader)
      (other : type = .prekeyPublishRequest → context.connection.session.isRegistered = true →
        context.connection.session.userId ≠ userId) :
      StepWithoutPrekey userId context.database.tables
        (routeMessage context type reader).2.database.tables
  /-- whatever the console is told -/
  | administered (ambient : AdminAmbient) (context : AdminContext) (command : AdminCommand) :
      StepWithoutPrekey userId context.database.tables
        (AdminDispatcher.executeAdminCommand ambient context command).database.tables

variable {userId : ℤ} {before after : Tables}

/-- Every step writes statement by statement. -/
theorem StepWithoutPrekey.writes (h : StepWithoutPrekey userId before after) :
    Writes before after := by
  cases h with
  | served context type reader => exact routeMessage_writes context type reader
  | administered ambient context command =>
    exact StepWithout.writes (StepWithout.administered ambient context command : StepWithout userId _ _)

/-- And none of them meets the row of the account. -/
theorem StepWithoutPrekey.prekey (h : StepWithoutPrekey userId before after)
    (hintegral : before.Integral) (known : userId ∈ before.userIds) :
    (after.prekeys.filter fun row => row.userId = userId) =
      before.prekeys.filter fun row => row.userId = userId := by
  cases h with
  | served context type reader other =>
    rcases eq_or_ne type .prekeyPublishRequest with rfl | htype
    -- somebody else's publication is on the row of somebody else
    · exact (routeMessage_writesOwnPrekey context _ reader).foreign userId (other rfl)
    · rw [routeMessage_keepsPrekeys htype]
  | administered ambient context command =>
    exact (StepWithout.leftAlone (.administered ambient context command) hintegral known).prekey

end Runs

end HyperCom
