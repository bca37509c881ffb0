import HyperCom.Lib.Run
import HyperCom.Server.Authentication

/-!
# Banning

`ban` sets a flag of the account, and `handle_auth_response` is the one place
that reads it. What follows from that: while the ban stands nobody comes to be
registered to the account. Whoever was registered to it before the ban still is.

That a ban ends a session is not
what the code does, nor what it tries to do: a session is not looked up again after its login. So there are two results, one about logins
over every run and one that shows a session going on.
-/

namespace HyperCom

open StepRun

variable [Sodium]

/-- `run_ban_command` gets to its last line. -/
def banCommandSucceeds (database : DatabaseHandle) (pubkey : WirePublicKey) (banned : Bool) :
    Bool :=
  match findUserByPubkey database pubkey with
  | none => false
  | some target => (setBanned database target.id banned).1

/-- The session guard lets the session pass, as the given account. -/
def SessionState.registeredTo (session : SessionState) (account : ℤ) : Bool :=
  session.isRegistered && session.userId = account

/-! ## What one message does to the accounts -/

/-- The accounts are as they were, or there is one more. -/
def AccountsGrown (before after : Tables) : Prop :=
  (after.users = before.users ∧ after.usersSequence = before.usersSequence) ∨
  ∃ user, before.usersSequence < user.id ∧ after.users = before.users ++ [user] ∧
    after.usersSequence = user.id

section Accounts

variable {context : HandlerContext} {type : MessageType} {reader : ByteReader}
  {database : DatabaseHandle} {session : SessionState} {state : ProcessorState}

omit [Sodium] in
/-- Accounts have not changed, -/
theorem AccountsGrown.refl (tables : Tables) : AccountsGrown tables tables := .inl ⟨rfl, rfl⟩

omit [Sodium] in
theorem upsertProfileRow_users {id : ℤ} {request : ProfileSetRequest} {before after : Tables}
    (h : upsertProfileRow id request before = some ((), after)) :
    after.users = before.users ∧ after.usersSequence = before.usersSequence := by
  have hown : OwnEffect id (FixedBytes.zero _) before after := OwnEffect.upsertProfileRow h
  exact ⟨hown.users, hown.usersSequence⟩

omit [Sodium] in
/-- or one was added, under a new id and a new key. -/
theorem insertUserRow_grown {pubkey : WirePublicKey} {handle : ByteString} {id : ℤ}
    {before after : Tables} (h : insertUserRow pubkey handle before = some (id, after)) :
    AccountsGrown before after := by
  obtain ⟨hid, rfl⟩ := insertUserRow_some h
  obtain ⟨hid, -⟩ := nextRowid_eq_some hid
  refine .inr ⟨{ id, pubkey, handle, banned := false }, ?_, rfl, rfl⟩
  change before.usersSequence < id
  omega

/-- No request of a client does more to them. -/
theorem RequestEffect.accountsGrown (h : RequestEffect context type reader database session) :
    AccountsGrown context.database.tables database.tables := by
  cases h with
  | unchanged => exact .refl _
  | own registered effect => exact .inl ⟨effect.users, effect.usersSequence⟩
  | greeted => exact .refl _
  | accepted => exact .refl _
  | proven => exact .refl _
  | enrolled isRegister phase unregistered inserted profile =>
    have hgrown := insertUserRow_grown inserted
    rcases profile with hsame | hprofile
    · rw [hsame]
      exact hgrown
    · obtain ⟨husers, hsequence⟩ := upsertProfileRow_users hprofile
      rw [AccountsGrown, husers, hsequence]
      exact hgrown

/-- So neither does a message. -/
theorem processMessage_accountsGrown (state : ProcessorState) (message : ByteString) :
    AccountsGrown state.context.database.tables
      (processMessage state message).2.context.database.tables := by
  have houtcome := processMessage_outcome state message
  generalize processMessage state message = out at houtcome ⊢
  cases houtcome with
  | handshake =>
    rw [advanceHandshake_database]
    exact .refl _
  | unopened => exact .refl _
  | rejected => exact .refl _
  | limited =>
    rw [sendStatusError, (sendMessage_frame ..).1]
    exact .refl _
  | routed => exact (routeMessage_answer ..).effect.accountsGrown

end Accounts

/-! ## The banned account -/

/-- The account with this id is that of the key, and banned. -/
structure Barred (account : ℤ) (pubkey : WirePublicKey) (tables : Tables) : Prop where
  numbered : account ≤ tables.usersSequence
  flagged : ∀ user ∈ tables.users, user.id = account → user.pubkey = pubkey ∧ user.banned = true

/-- `users.id` is a primary key. -/
def Tables.KeyedById (tables : Tables) : Prop :=
  ∀ user ∈ tables.users, ∀ other ∈ tables.users, user.id = other.id → user.pubkey = other.pubkey

section Tables

omit [Sodium]

variable {account : ℤ} {pubkey : WirePublicKey} {before after tables : Tables}

/-- A ban stands while accounts are added. -/
theorem Barred.grown (h : Barred account pubkey before) (hgrown : AccountsGrown before after) :
    Barred account pubkey after := by
  rcases hgrown with ⟨husers, hsequence⟩ | ⟨created, hnew, husers, hsequence⟩
  · exact ⟨hsequence ▸ h.numbered, husers ▸ h.flagged⟩
  · have hnumbered := h.numbered
    refine ⟨by omega, fun user huser hid => ?_⟩
    rw [husers] at huser
    rcases List.mem_append.mp huser with hold | hcreated
    · exact h.flagged user hold hid
    · -- the new account got a number of its own
      obtain rfl := List.mem_singleton.mp hcreated
      omega

/-- Ids and keys still belong together. -/
theorem Tables.KeyedById.grown (h : before.KeyedById) (consistent : before.Consistent)
    (hgrown : AccountsGrown before after) : after.KeyedById := by
  rcases hgrown with ⟨husers, -⟩ | ⟨created, hnew, husers, -⟩
  · intro user huser other hother
    rw [husers] at huser hother
    exact h user huser other hother
  · have hfresh : ∀ user ∈ before.users, user.id < created.id :=
      fun user huser => (consistent.user_id user huser).2.trans_lt hnew
    intro user huser other hother hid
    rw [husers] at huser hother
    rcases List.mem_append.mp huser with hold | hcreated <;>
      rcases List.mem_append.mp hother with hold' | hcreated'
    · exact h user hold other hold' hid
    · have := hfresh user hold
      rw [List.mem_singleton.mp hcreated'] at hid
      omega
    · have := hfresh other hold'
      rw [List.mem_singleton.mp hcreated] at hid
      omega
    · rw [List.mem_singleton.mp hcreated, List.mem_singleton.mp hcreated']

end Tables

/-! ## What the command itself does -/

section Command

omit [Sodium]

variable {database : DatabaseHandle} {pubkey key : WirePublicKey} {banned : Bool} {target : UserRow}
  {account : ℤ}

/-- A command that does not succeed leaves the tables as they were. -/
theorem banAccount_failed (h : banCommandSucceeds database pubkey banned = false) :
    (banAccount database pubkey banned).2.tables = database.tables := by
  cases hfound : findUserByPubkey database pubkey with
  | none => simp [banAccount, hfound]
  | some target =>
    simp only [banCommandSucceeds, hfound, setBanned, DatabaseHandle.write, updateBannedFlag] at h
    simp only [banAccount_database, hfound, setBanned, DatabaseHandle.write, updateBannedFlag]
    split at h
    · next hfault => rw [if_pos hfault]
    · cases h

/-- One that does sets the flag of the account it found. -/
theorem banAccount_succeeded (hfound : findUserByPubkey database pubkey = some target)
    (h : banCommandSucceeds database pubkey banned = true) :
    (banAccount database pubkey banned).2.tables = { database.tables with
      users := RowStore.updateWhere (fun user => user.id = target.id)
        (fun user => { user with banned }) database.tables.users } := by
  simp only [banCommandSucceeds, hfound, setBanned, DatabaseHandle.write, updateBannedFlag] at h
  simp only [banAccount_database, hfound, setBanned, DatabaseHandle.write, updateBannedFlag]
  split at h
  · cases h
  · next hfault => rw [if_neg hfault]

/-- A row after the flag of one account was set. -/
theorem mem_flagged {id : ℤ} {users : List UserRow} {user : UserRow}
    (h : user ∈ RowStore.updateWhere (fun user => user.id = id) (fun user => { user with banned })
      users) :
    ∃ old ∈ users, user.id = old.id ∧ user.pubkey = old.pubkey ∧
      user.banned = if old.id = id then banned else old.banned := by
  obtain ⟨old, hold, rfl⟩ := List.mem_map.mp h
  refine ⟨old, hold, ?_⟩
  by_cases hid : old.id = id <;> simp [hid]

/-- Nothing but the success of an `unban` of the key undoes it. -/
theorem Barred.command (h : Barred account pubkey database.tables)
    (hstands : (!banned && key = pubkey && banCommandSucceeds database key banned) = false) :
    Barred account pubkey (banAccount database key banned).2.tables := by
  rcases hdone : banCommandSucceeds database key banned with _ | _
  · rw [banAccount_failed hdone]
    exact h
  cases hfound : findUserByPubkey database key with
  | none => simp [banCommandSucceeds, hfound] at hdone
  | some target =>
    obtain ⟨hmem, hkey⟩ := findUserByPubkey_some hfound
    rw [banAccount_succeeded hfound hdone]
    refine ⟨h.numbered, fun user huser hid => ?_⟩
    obtain ⟨old, hold, hidOld, hkeyOld, hflag⟩ := mem_flagged huser
    obtain ⟨hold, hbanned⟩ := h.flagged old hold (hidOld.symm.trans hid)
    refine ⟨hkeyOld.trans hold, ?_⟩
    by_cases hsame : old.id = target.id
    · -- the command is about this account, hence about this key
      have htarget := (h.flagged target hmem (hsame.symm.trans (hidOld.symm.trans hid))).1
      obtain rfl : key = pubkey := hkey.symm.trans htarget
      rw [if_pos hsame] at hflag
      rw [hflag]
      simpa [hdone] using hstands
    · rw [if_neg hsame] at hflag
      exact hflag.trans hbanned

/-- Also after a command of the administration. -/
theorem Tables.KeyedById.command (h : database.tables.KeyedById) (pubkey : WirePublicKey)
    (banned : Bool) : (banAccount database pubkey banned).2.tables.KeyedById := by
  rcases hdone : banCommandSucceeds database pubkey banned with _ | _
  · rw [banAccount_failed hdone]
    exact h
  cases hfound : findUserByPubkey database pubkey with
  | none => simp [banCommandSucceeds, hfound] at hdone
  | some target =>
    rw [banAccount_succeeded hfound hdone]
    intro user huser other hother hid
    obtain ⟨old, hold, hidOld, hkeyOld, -⟩ := mem_flagged huser
    obtain ⟨old', hold', hidOld', hkeyOld', -⟩ := mem_flagged hother
    have hsame := h old hold old' hold' (hidOld.symm.trans (hid.trans hidOld'))
    exact hkeyOld.trans (hsame.trans hkeyOld'.symm)

end Command

/-! ## No session comes to be registered to a banned account -/

section Session

variable {account : ℤ} {pubkey : WirePublicKey} {context : HandlerContext} {type : MessageType}
  {reader : ByteReader} {database : DatabaseHandle} {session : SessionState}
  {state : ProcessorState}

omit [Sodium] in
/-- A session is registered to the account that accepted it. -/
theorem SessionState.accept_registeredTo {user : UserRow}
    (h : (session.accept user).registeredTo account = true) : user.id = account := by
  have hid := (Bool.and_eq_true_iff.mp h).2
  exact of_decide_eq_true hid

/-- A request registers nobody to the account. -/
theorem RequestEffect.registeredTo (h : RequestEffect context type reader database session)
    (hbarred : Barred account pubkey context.database.tables)
    (hregistered : session.registeredTo account = true) :
    context.connection.session.registeredTo account = true := by
  cases h with
  | unchanged => exact hregistered
  | own => exact hregistered
  | greeted => simp [SessionState.registeredTo, SessionState.isRegistered] at hregistered
  | @accepted response user isAuth phase decoded verified known key allowed =>
    -- the flag refuses the banned account
    have hflag := (hbarred.flagged user known (SessionState.accept_registeredTo hregistered)).2
    rw [allowed] at hflag
    cases hflag
  | proven => simp [SessionState.registeredTo, SessionState.isRegistered] at hregistered
  | @enrolled _ _ handle createdId tables isRegister phase unregistered inserted profile left =>
    rcases left with rfl | ⟨user, huser, hid, rfl⟩
    · exact hregistered
    · -- a new account has a number of its own
      have hsame := SessionState.accept_registeredTo hregistered
      have hnumbered := hbarred.numbered
      obtain ⟨hnext, -⟩ := nextRowid_eq_some (insertUserRow_some inserted).1
      omega

/-- A connection in its handshake has no account. -/
theorem advanceHandshake_registeredTo {message : ByteString}
    (h : (advanceHandshake context message).2.connection.session.registeredTo account = true) :
    context.connection.session.registeredTo account = true := by
  unfold advanceHandshake at h
  split at h
  · exact h
  · simp only at h
    split at h
    · exact h
    · simp [SessionState.registeredTo, SessionState.isRegistered] at h

/-- Nor does any message, even the one that gets the connection closed. -/
theorem processMessage_registeredTo {message : ByteString}
    (hbarred : Barred account pubkey state.context.database.tables)
    (h : (processMessage state message).2.context.connection.session.registeredTo account = true) :
    state.context.connection.session.registeredTo account = true := by
  have houtcome := processMessage_outcome state message
  generalize processMessage state message = out at houtcome h
  cases houtcome with
  | handshake => exact advanceHandshake_registeredTo h
  | unopened => exact h
  | rejected => exact h
  | limited =>
    rw [sendStatusError, (sendMessage_frame ..).2] at h
    exact h
  | @routed channel _ _ type reader =>
    have hanswer := routeMessage_answer (state.context.withChannel channel).noteActivity type reader
    exact hanswer.effect.registeredTo hbarred h

end Session

/-! ## The whole server -/

/-- One more event: the server itself never stops. -/
def ServerRuntime.next (runtime : ServerRuntime) (event : ServerEvent) : Option ServerRuntime :=
  some (runtime.step event)

/-- The event is not a successful `unban` of the key. -/
def ServerRuntime.BanStands (pubkey : WirePublicKey) (runtime : ServerRuntime) :
    ServerEvent → Prop
  | .ban sqlFaults key banned => (!banned && key = pubkey &&
      banCommandSucceeds { runtime.database with faults := sqlFaults } key banned) = false
  | _ => True

/-- The connection with this number is registered to the account. -/
def ServerRuntime.Registered (runtime : ServerRuntime) (account : ℤ) (number : ℕ) : Prop :=
  ∃ logged, runtime.connections number = some logged ∧
    logged.connection.session.registeredTo account = true

/-- While the ban stands: the account is barred, and only the known connections
are registered to it. -/
structure ServerRuntime.ShutOut (account : ℤ) (pubkey : WirePublicKey) (known : ℕ → Prop)
    (runtime : ServerRuntime) : Prop where
  barred : Barred account pubkey runtime.database.tables
  known : ∀ number, runtime.Registered account number → known number

section Server

variable {account : ℤ} {pubkey : WirePublicKey} {known : ℕ → Prop} {runtime : ServerRuntime}
  {state : ProcessorState} {number : ℕ}

/-- A run, as `Lib.Run` has it. -/
theorem ServerRuntime.after_next (runtime : ServerRuntime) (events : List ServerEvent) :
    after ServerRuntime.next runtime events = some (runtime.run events) := by
  induction events generalizing runtime with
  | nil => rfl
  | cons event events ih => exact ih (runtime.step event)

/-- `ShutOut`, seen from the loop of one connection. -/
def Served (account : ℤ) (pubkey : WirePublicKey) (known : ℕ → Prop) (number : ℕ)
    (state : ProcessorState) : Prop :=
  Barred account pubkey state.context.database.tables ∧
    (state.context.connection.session.registeredTo account = true → known number)

/-- What is known of a session stays so through a message, -/
theorem Served.processMessage {message : ByteString} (h : Served account pubkey known number state) :
    Served account pubkey known number (HyperCom.processMessage state message).2 :=
  ⟨h.1.grown (processMessage_accountsGrown state message),
    fun hregistered => h.2 (processMessage_registeredTo h.1 hregistered)⟩

/-- and through a whole input. -/
theorem Served.processConnectionInput {received : ByteString} {stillOpen : Bool}
    {world : ℕ → Ambient} (h : Served account pubkey known number state) :
    Served account pubkey known number
      (HyperCom.processConnectionInput world received stillOpen state).2 := by
  cases stillOpen with
  | false => exact h
  | true =>
    rw [processConnectionInput_open]
    exact processBuffer_always (fun h => h) Served.processMessage h

omit [Sodium] in
/-- The invariant hands it to the connection that is served. -/
theorem ServerRuntime.ShutOut.receiving {logged : LoggedConnection}
    (h : runtime.ShutOut account pubkey known) (hlogged : runtime.connections number = some logged) :
    Served account pubkey known number (runtime.receiving logged.connection) :=
  ⟨h.barred, fun hregistered => h.known number ⟨logged, hlogged, hregistered⟩⟩

omit [Sodium] in
/-- Only what is put in the place of one connection is new. -/
theorem ServerRuntime.ShutOut.withConnection {runtime' : ServerRuntime}
    {connection : Option LoggedConnection} (h : runtime.ShutOut account pubkey known)
    (barred : Barred account pubkey runtime'.database.tables)
    (others : runtime'.connections = runtime.connections)
    (replaced : ∀ logged, connection = some logged →
      logged.connection.session.registeredTo account = true → known number) :
    (runtime'.withConnection number connection).ShutOut account pubkey known := by
  refine ⟨barred, ?_⟩
  rintro other ⟨logged, hlogged, hregistered⟩
  rcases ServerRuntime.withConnection_cases hlogged with ⟨rfl, hsome⟩ | ⟨-, hold⟩
  · exact replaced logged hsome hregistered
  · rw [others] at hold
    exact h.known other ⟨logged, hold, hregistered⟩

/-- No event lets anybody in. -/
theorem ServerRuntime.ShutOut.step {event : ServerEvent}
    (h : runtime.ShutOut account pubkey known) (hstands : runtime.BanStands pubkey event) :
    (runtime.step event).ShutOut account pubkey known := by
  cases event with
  | accept peerAddress connectedAt =>
    refine h.withConnection h.barred rfl ?_
    intro logged hlogged hregistered
    obtain rfl := Option.some.inj hlogged
    simp [SessionState.registeredTo, SessionState.isRegistered, ClientConnection.accepted]
      at hregistered
  | input number received stillOpen world =>
    rw [ServerRuntime.step]
    split
    · exact h
    · next logged hlogged =>
      have hserved : Served account pubkey known number (processConnectionInput world received
          stillOpen (runtime.receiving logged.connection)).2 :=
        (h.receiving hlogged).processConnectionInput
      refine h.withConnection hserved.1 rfl ?_
      intro left hleft hregistered
      split at hleft
      · obtain rfl := Option.some.inj hleft
        exact hserved.2 hregistered
      · cases hleft
  | flush number count =>
    rw [ServerRuntime.step]
    split
    · exact h
    · next logged hlogged =>
      refine h.withConnection h.barred rfl ?_
      intro left hleft hregistered
      obtain rfl := Option.some.inj hleft
      exact h.known number ⟨logged, hlogged, hregistered⟩
  | close number => exact h.withConnection h.barred rfl (by simp)
  | sweep now => exact ⟨h.barred, h.known⟩
  | ban sqlFaults key banned =>
    have hbarred : Barred account pubkey
        { runtime.database with faults := sqlFaults : DatabaseHandle }.tables := h.barred
    exact ⟨hbarred.command hstands, h.known⟩

end Server

end HyperCom
