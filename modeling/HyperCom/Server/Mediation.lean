import HyperCom.Server.RequestEffect

/-!
# Complete mediation and ownership

What the router lets a session do to the database. Without a registered session
nothing is written, except the account a registration creates. A registered
session leaves everybody else's rows as they were, and what it adds carries its
own identity.

The exception for a registration is stated with everything the handler asks for: a session
that has proven its key and has no account, an open registration, and a session that has the
new account afterwards. It is proved of the router as a whole, by cases on `RequestEffect`.
-/

namespace HyperCom

open RowStore

variable [Sodium]

/-- The rows that do not belong to `userId` are exactly as they were. -/
structure OthersUntouched (userId : ℤ) (before after : Tables) : Prop where
  posts : (after.posts.filter fun post => post.authorId ≠ userId) =
    before.posts.filter fun post => post.authorId ≠ userId
  comments : (after.comments.filter fun comment => comment.authorId ≠ userId) =
    before.comments.filter fun comment => comment.authorId ≠ userId
  profiles : (after.profiles.filter fun profile => profile.userId ≠ userId) =
    before.profiles.filter fun profile => profile.userId ≠ userId
  prekeys : (after.prekeys.filter fun prekey => prekey.userId ≠ userId) =
    before.prekeys.filter fun prekey => prekey.userId ≠ userId
  friends : (after.friends.filter fun row => row.userId ≠ userId) =
    before.friends.filter fun row => row.userId ≠ userId
  top8 : (after.top8.filter fun row => row.userId ≠ userId) =
    before.top8.filter fun row => row.userId ≠ userId
  /-- letters to others stay, and more may have come -/
  envelopes : (before.dmEnvelopes.filter fun envelope => envelope.recipientId ≠ userId).Sublist
    after.dmEnvelopes
  /-- forums are only opened -/
  forums : before.forums <+: after.forums
  users : after.users = before.users
  motd : after.motd = before.motd

/-- A row that was not there before names the session it comes from. -/
structure NewRowsAttributed (userId : ℤ) (announcedPubkey : WirePublicKey)
    (before after : Tables) : Prop where
  posts : ∀ post ∈ after.posts, post ∈ before.posts ∨ post.authorId = userId
  comments : ∀ comment ∈ after.comments, comment ∈ before.comments ∨ comment.authorId = userId
  profiles : ∀ profile ∈ after.profiles, profile ∈ before.profiles ∨ profile.userId = userId
  prekeys : ∀ prekey ∈ after.prekeys, prekey ∈ before.prekeys ∨ prekey.userId = userId
  friends : ∀ row ∈ after.friends, row ∈ before.friends ∨ row.userId = userId
  top8 : ∀ row ∈ after.top8, row ∈ before.top8 ∨ row.userId = userId
  /-- a letter is the recipient's, but names its sender -/
  envelopes : ∀ envelope ∈ after.dmEnvelopes, envelope ∈ before.dmEnvelopes ∨
    envelope.senderPubkey = announcedPubkey
  forums : ∀ forum ∈ after.forums, forum ∈ before.forums ∨ forum.founderId = userId
  /-- a report names who filed it -/
  reports : ∀ report ∈ after.reports, report ∈ before.reports ∨ report.reporterId = userId

/-- The rows an accepted registration inserts, and nothing else: the account of
the announced key and, if it could be written, its empty profile. -/
def EnrolledRows (user : UserRow) (announcedPubkey : WirePublicKey) (before after : Tables) :
    Prop :=
  user.pubkey = announcedPubkey ∧ before.usersSequence < user.id ∧
    ∃ profiles : List ProfileRow, (profiles = [] ∨ profiles = [⟨user.id, [], [], [], []⟩]) ∧
      after = { before with
        users := before.users ++ [user]
        usersSequence := user.id
        profiles := before.profiles ++ profiles }

/-- SQLite executes the lookup of an account by its id as it is written. -/
def DatabaseHandle.AccountsRead (database : DatabaseHandle) : Prop :=
  ∀ step, database.faults .findUserById step = false

/-- The one request an unregistered session may write with: a registration in a
session that has proved its key and has no account, while the server takes
registrations. The session is accepted, and left with the account that was
created, as soon as SQLite reads back the row it has just inserted. -/
structure Enrolment (context : HandlerContext) (type : MessageType)
    (out : Bool × HandlerContext) : Prop where
  isRegister : type = .registerRequest
  /-- the key has been proven -/
  phase : context.connection.session.phase = .authenticated
  /-- and the session has no account so far -/
  unregistered : context.connection.session.userId = 0
  registrationOpen : context.config.registrationOpen = true
  /-- the account is created; if it can be read back, the session is accepted with it -/
  created : ∃ user, EnrolledRows user context.connection.session.announcedPubkey
      context.database.tables out.2.database.tables ∧
    (context.database.AccountsRead →
      out = sendAcceptedSession { context with database := out.2.database } user ∧
      out.2.connection.session.phase = .authenticated ∧
      out.2.connection.session.userId = user.id)

section Rows

omit [Sodium]

/-- If the rows of others are the same, a new row is one's own. -/
theorem mem_or_own {α : Type} {owner : α → ℤ} {userId : ℤ} {before after : List α}
    (h : (after.filter fun row => owner row ≠ userId) = before.filter fun row => owner row ≠ userId)
    {row : α} (hrow : row ∈ after) : row ∈ before ∨ owner row = userId := by
  by_cases howner : owner row = userId
  · exact .inr howner
  · have hmem : row ∈ after.filter fun row => owner row ≠ userId :=
      List.mem_filter.mpr ⟨hrow, by simpa using howner⟩
    rw [h] at hmem
    exact .inl (List.mem_filter.mp hmem).1

/-- A table that is only added to. -/
theorem mem_or_added {α : Type} {p : α → Prop} {before after : List α}
    (h : ∃ added, after = before ++ added ∧ ∀ row ∈ added, p row) {row : α}
    (hrow : row ∈ after) : row ∈ before ∨ p row := by
  obtain ⟨added, rfl, hadded⟩ := h
  rcases List.mem_append.mp hrow with hold | hnew
  · exact .inl hold
  · exact .inr (hadded row hnew)

variable {userId : ℤ} {announcedPubkey : WirePublicKey} {before after tables : Tables}

theorem OwnEffect.othersUntouched (h : OwnEffect userId announcedPubkey before after) :
    OthersUntouched userId before after where
  posts := h.posts
  comments := h.comments
  profiles := h.profiles
  prekeys := h.prekeys
  friends := h.friends
  top8 := h.top8
  envelopes := h.envelopes_kept
  forums := by
    obtain ⟨founded, heq, -⟩ := h.forums
    exact ⟨founded, heq.symm⟩
  users := h.users
  motd := h.motd

theorem OwnEffect.newRowsAttributed (h : OwnEffect userId announcedPubkey before after) :
    NewRowsAttributed userId announcedPubkey before after where
  posts := fun _ => mem_or_own h.posts
  comments := fun _ => mem_or_own h.comments
  profiles := fun _ => mem_or_own h.profiles
  prekeys := fun _ => mem_or_own h.prekeys
  friends := fun _ => mem_or_own h.friends
  top8 := fun _ => mem_or_own h.top8
  envelopes := h.envelopes_sent
  forums := fun _ => mem_or_added h.forums
  reports := fun _ => mem_or_added h.reports

/-- An enrolment writes the account and its profile. The profile is new because
no profile can belong to an account that did not exist. -/
theorem enrolledRows_of_insert {pubkey : WirePublicKey} {handle : ByteString} {id : ℤ}
    (consistent : before.Consistent) (inserted : insertUserRow pubkey handle before = some (id, tables))
    (profile : after = tables ∨ upsertProfileRow id {} tables = some ((), after)) :
    EnrolledRows { id, pubkey, handle, banned := false } pubkey before after := by
  obtain ⟨hid, rfl⟩ := insertUserRow_some inserted
  obtain ⟨hid, -⟩ := nextRowid_eq_some hid
  have hnew : before.usersSequence < id := by omega
  rcases profile with rfl | hprofile
  · exact ⟨rfl, hnew, [], .inl rfl, by simp⟩
  · obtain ⟨-, rfl⟩ := upsertProfileRow_some hprofile
    have hfresh : ∀ row ∈ before.profiles, decide (row.userId = id) = false := by
      intro row hrow
      obtain ⟨user, huser, hsame⟩ := consistent.profile_user row hrow
      have := (consistent.user_id user huser).2
      simp only [decide_eq_false_iff_not]
      omega
    refine ⟨rfl, hnew, [⟨id, [], [], [], []⟩], .inr rfl, ?_⟩
    rw [upsert_of_fresh hfresh]

/-- A lookup that is executed as written finds the account that was just created:
no other account can have its id. -/
theorem findUserById_created {database created : DatabaseHandle} {pubkey : WirePublicKey}
    {handle : ByteString} {id : ℤ} (consistent : database.tables.Consistent)
    (inserted : insertUserRow pubkey handle database.tables = some (id, created.tables))
    (read : created.AccountsRead) :
    findUserById created id = some { id, pubkey, handle, banned := false } := by
  obtain ⟨hid, htables⟩ := insertUserRow_some inserted
  obtain ⟨hid, -⟩ := nextRowid_eq_some hid
  have hold : (database.tables.users.filter fun user => user.id = id) = [] := by
    refine List.filter_eq_nil_iff.mpr fun user huser => ?_
    have := (consistent.user_id user huser).2
    simp only [decide_eq_true_eq]
    omega
  have hrows : (created.tables.users.filter fun user => user.id = id) =
      [{ id, pubkey, handle, banned := false }] := by
    rw [htables, List.filter_append, hold]
    simp
  simp [findUserById, DatabaseHandle.queryFirst, DatabaseHandle.query, DatabaseHandle.stepRows,
    read 0, read 1, hrows]

end Rows

variable {context : HandlerContext} {type : MessageType} {reader : ByteReader}

/-- What a request's effect means for the tables, by the session it came on. -/
theorem RequestEffect.tables_cases {database : DatabaseHandle} {session : SessionState}
    (h : RequestEffect context type reader database session) :
    (context.connection.session.isRegistered = false →
      database.tables = context.database.tables ∨ type = .registerRequest) ∧
    (context.connection.session.isRegistered = true →
      OwnEffect context.connection.session.userId context.connection.session.announcedPubkey
        context.database.tables database.tables) := by
  cases h with
  | unchanged => exact ⟨fun _ => .inl rfl, fun _ => OwnEffect.refl _⟩
  | own registered effect => exact ⟨fun h => absurd (h.symm.trans registered) (by simp),
      fun _ => effect⟩
  | greeted => exact ⟨fun _ => .inl rfl, fun _ => OwnEffect.refl _⟩
  | accepted => exact ⟨fun _ => .inl rfl, fun _ => OwnEffect.refl _⟩
  | proven => exact ⟨fun _ => .inl rfl, fun _ => OwnEffect.refl _⟩
  | enrolled isRegister phase unregistered =>
    refine ⟨fun _ => .inr isRegister, ?_⟩
    intro registered
    simp [SessionState.isRegistered, unregistered] at registered

/-- The acceptance of a session sends its replies and leaves the account in the
session. -/
theorem sendAcceptedSession_frame (context : HandlerContext) (user : UserRow) :
    (sendAcceptedSession context user).2.database = context.database ∧
      (sendAcceptedSession context user).2.connection.session =
        context.connection.session.accept user := by
  have hframe := sendMessage_frame
    { context with connection := { context.connection with
        session := context.connection.session.accept user } } .authAccepted
    (AuthAccepted.writeTo { userId := castUInt64 user.id, handle := user.handle
                            serverTime := context.ambient.unixTimestamp })
  unfold sendAcceptedSession
  simp only [SessionState.accept] at hframe ⊢
  split
  · next h => rwa [h] at hframe
  · next h =>
    rw [h] at hframe
    split
    · exact hframe
    · rw [(sendMessage_frame ..).1, (sendMessage_frame ..).2]
      exact hframe

/-- A registration changes nothing, or enrols the announced key. -/
theorem handleRegisterRequest_cases (context : HandlerContext) (reader : ByteReader)
    (consistent : context.database.tables.Consistent) :
    (handleRegisterRequest context reader).2.database.tables = context.database.tables ∨
      Enrolment context .registerRequest (handleRegisterRequest context reader) := by
  unfold handleRegisterRequest
  simp only
  split
  · exact .inl rfl
  next hfresh =>
  obtain ⟨hphase, hunregistered⟩ := not_or.mp hfresh
  split
  · exact .inl rfl
  next hopen =>
  split
  · exact .inl rfl
  split
  · exact .inl rfl
  have enrolment {out : Bool × HandlerContext} (created) : Enrolment context .registerRequest out :=
    ⟨rfl, not_not.mp hphase, not_not.mp hunregistered, by simpa using hopen, created⟩
  split
  · next hcreate =>
    rcases createUser_cases hcreate with ⟨-, rfl⟩ | ⟨_, hid, -⟩
    · exact .inl rfl
    · cases hid
  · next request _ createdId database hcreate =>
    have hfaults : database.faults = context.database.faults :=
      (DatabaseHandle.write_frame hcreate).2
    rcases createUser_cases hcreate with ⟨hid, -⟩ | ⟨_, hid, hinsert⟩
    · cases hid
    obtain rfl := Option.some.inj hid
    have hread (accounts : context.database.AccountsRead) :=
      findUserById_created consistent hinsert (by rwa [DatabaseHandle.AccountsRead, hfaults])
    split
    · next hfound =>
      have hrows := enrolledRows_of_insert consistent hinsert (.inl rfl)
      refine .inr (enrolment ⟨_, hrows, fun accounts => ?_⟩)
      cases hfound.symm.trans (hread accounts)
    · next created hfound =>
      obtain ⟨hdatabase, hsession⟩ := sendAcceptedSession_frame
        { context with database := (replaceProfile database createdId {}).2 } created
      have hrows := enrolledRows_of_insert consistent hinsert (replaceProfile_cases ..)
      refine .inr (enrolment ⟨_, by rwa [hdatabase], fun accounts => ?_⟩)
      obtain rfl := Option.some.inj (hfound.symm.trans (hread accounts))
      rw [hdatabase, hsession]
      exact ⟨rfl, rfl, rfl⟩

/-- Complete mediation and ownership, for every database the schema admits,
every session state and every frame. -/
theorem routeMessage_mediation (context : HandlerContext) (type : MessageType)
    (reader : ByteReader) (consistent : context.database.tables.Consistent) :
    let session := context.connection.session
    let before := context.database.tables
    let after := (routeMessage context type reader).2.database.tables
    (session.isRegistered = false →
      after = before ∨ Enrolment context type (routeMessage context type reader)) ∧
    (session.isRegistered = true → OthersUntouched session.userId before after ∧
      NewRowsAttributed session.userId session.announcedPubkey before after) := by
  intro session before after
  obtain ⟨hunregistered, hregistered⟩ :=
    (routeMessage_answer context type reader).effect.tables_cases
  constructor
  · intro h
    rcases hunregistered h with hsame | rfl
    · exact .inl hsame
    · exact handleRegisterRequest_cases context reader consistent
  · intro h
    have hown := hregistered h
    exact ⟨hown.othersUntouched, hown.newRowsAttributed⟩

omit [Sodium] in
/-- Two accounts; the session is the first one's and asks to delete a post of
the second. -/
theorem routeMessage_mediation_foreign_delete :
    letI := transparentSodium
    let key (byte : UInt8) : WirePublicKey := ⟨List.replicate 32 byte, rfl⟩
    let tables : Tables := {
      users := [{ id := 1, pubkey := key 1, handle := ascii "alice", banned := false },
        { id := 2, pubkey := key 2, handle := ascii "bob", banned := false }]
      posts := [{ id := 7, forumId := 3, authorId := 2, title := ascii "t", body := ascii "b"
                  createdAt := 0 }]
      usersSequence := 2 }
    let context : HandlerContext := {
      database := { tables }
      connection := {
        channel := NoiseChannel.create (key 9) (key 8)
        session := { phase := .authenticated, userId := 1, announcedPubkey := key 1 } } }
    let reader := ByteReader.start (PostDeleteRequest.writeTo { postId := 7 })
    tables.Consistent ∧ OthersUntouched 1 tables
      (routeMessage context .postDeleteRequest reader).2.database.tables := by
  intro key tables context reader
  let _ := transparentSodium
  have consistent : tables.Consistent :=
    ⟨by decide, by decide, by simp [tables]⟩
  exact ⟨consistent,
    ((routeMessage_mediation context .postDeleteRequest reader consistent).2 rfl).1⟩

end HyperCom
