import HyperCom.Server.Runtime

/-!
# What an authenticated session proves

In every state the server can reach, a session that is authenticated has
answered the challenge of its own accepted hello, and a session with an account
has the account of the key it proved. The invariant is `Authentic`; it is
carried through every message (`Authentic.processMessage`), every input and
every event, and stated of whole runs in `authentication_invariant`.

`Proven` writes the signed bytes out, domain, nonce and key, so that it says the same
whatever the code's own function for them should become. The log that it refers to is the
history of the session's own frames: the accepted hello is in it, with the nonce that was
drawn for the challenge, and so is the response.

The users are part of the invariant, since registering and banning go on meanwhile: accounts
are kept (`AccountsKept`), so an account that was found stays the account of its key.
-/

namespace HyperCom

variable [Sodium]

/-! ## The invariant of one session -/

/-- The frame is a hello that was accepted. -/
def ReceivedFrame.acceptedHello (received : ReceivedFrame) : Bool :=
  received.before = .awaitingHello && received.after = .awaitingAuth

/-- The session has accepted exactly one hello: the announced key is that
hello's, the challenge is the nonce drawn for it. -/
def Greeted (session : SessionState) (log : List ReceivedFrame) : Prop :=
  ∃ (hello : ReceivedFrame) (request : HelloRequest),
    log.filter ReceivedFrame.acceptedHello = [hello] ∧
    hello.decodeAs .helloRequest HelloRequest.readFrom = some request ∧
    request.protocolVersion = protocolVersion ∧
    session.announcedPubkey = request.clientPubkey ∧
    session.challengeNonce = hello.drawnNonce

/-- The session has received a signature of its own challenge by the announced
key: of the domain's 16 bytes, the 32 of the challenge and the 32 of the key, in
this order. -/
def Proven (session : SessionState) (log : List ReceivedFrame) : Prop :=
  ∃ received ∈ log, ∃ response, received.decodeAs .authResponse AuthResponse.readFrom =
    some response ∧ verifySignature session.announcedPubkey
      (ascii "hypercom-auth-v1" ++ session.challengeNonce.1 ++ session.announcedPubkey.1)
      response.signature = true

/-- What the handler verifies is the signature of these bytes. -/
theorem Proven.of_signature {session : SessionState} {log : List ReceivedFrame}
    {received : ReceivedFrame} {response : AuthResponse} (hmem : received ∈ log)
    (hdecode : received.decodeAs .authResponse AuthResponse.readFrom = some response)
    (verified : verifySignature session.announcedPubkey
      (buildAuthSigningInput session.challengeNonce session.announcedPubkey)
      response.signature = true) : Proven session log := by
  rw [buildAuthSigningInput_eq] at verified
  exact ⟨received, hmem, response, hdecode, verified⟩

/-- The session is what its log accounts for. -/
structure Authentic (users : List UserRow) (session : SessionState) (log : List ReceivedFrame) :
    Prop where
  /-- before the hello there is none in the log -/
  ungreeted : session.phase = .awaitingHandshake ∨ session.phase = .awaitingHello →
    log.filter ReceivedFrame.acceptedHello = []
  /-- from the challenge on there is exactly one, and the session is about its key -/
  greeted : session.phase = .awaitingAuth ∨ session.phase = .authenticated → Greeted session log
  /-- an authenticated session has answered the challenge -/
  proven : session.phase = .authenticated → Proven session log
  /-- and one with an account has the account of that key -/
  account : session.userId ≠ 0 → session.phase = .authenticated ∧
    ∃ user ∈ users, user.id = session.userId ∧ user.pubkey = session.announcedPubkey

/-- No account loses its id or its key. -/
def AccountsKept (before after : List UserRow) : Prop :=
  ∀ user ∈ before, ∃ user' ∈ after, user'.id = user.id ∧ user'.pubkey = user.pubkey

section Session

variable {users users' users'' : List UserRow} {session : SessionState} {log : List ReceivedFrame}
  {entry : ReceivedFrame}

omit [Sodium] in
/-- Accounts are kept while nothing happens, -/
theorem AccountsKept.refl (users : List UserRow) : AccountsKept users users :=
  fun user huser => ⟨user, huser, rfl, rfl⟩

omit [Sodium] in
/-- and over one step after another. -/
theorem AccountsKept.trans (first : AccountsKept users users') (second : AccountsKept users' users'') :
    AccountsKept users users'' := by
  intro user huser
  obtain ⟨mid, hmid, hid, hkey⟩ := first user huser
  obtain ⟨last, hlast, hid', hkey'⟩ := second mid hmid
  exact ⟨last, hlast, hid'.trans hid, hkey'.trans hkey⟩

/-- Other connections may add accounts. -/
theorem Authentic.mono (h : Authentic users session log) (hkept : AccountsKept users users') :
    Authentic users' session log := by
  refine { h with account := fun hid => ?_ }
  obtain ⟨hphase, user, huser, hsame, hkey⟩ := h.account hid
  obtain ⟨user', huser', hid', hkey'⟩ := hkept user huser
  exact ⟨hphase, user', huser', hid'.trans hsame, hkey'.trans hkey⟩

omit [Sodium] in
/-- A frame that is no accepted hello adds none. -/
theorem filter_log_append (h : entry.acceptedHello = false) :
    (log ++ [entry]).filter ReceivedFrame.acceptedHello =
      log.filter ReceivedFrame.acceptedHello := by
  rw [List.filter_append, List.filter_singleton, h, Bool.cond_false, List.append_nil]

omit [Sodium] in
/-- A frame that is not an accepted hello does not concern the greeting. -/
theorem Greeted.logged (h : Greeted session log) (hentry : entry.acceptedHello = false) :
    Greeted session (log ++ [entry]) := by
  obtain ⟨hello, request, hfilter, hrest⟩ := h
  exact ⟨hello, request, (filter_log_append hentry).trans hfilter, hrest⟩

/-- What was proven stays proven as the log grows. -/
theorem Proven.logged (h : Proven session log) : Proven session (log ++ [entry]) := by
  obtain ⟨received, hmem, hrest⟩ := h
  exact ⟨received, List.mem_append_left _ hmem, hrest⟩

/-- Frames that do not move the session. -/
theorem Authentic.logged (h : Authentic users session log)
    (hentry : entry.acceptedHello = false) : Authentic users session (log ++ [entry]) where
  ungreeted := fun hphase => (filter_log_append hentry).trans (h.ungreeted hphase)
  greeted := fun hphase => (h.greeted hphase).logged hentry
  proven := fun hphase => (h.proven hphase).logged
  account := h.account

omit [Sodium] in
/-- Only a frame received while awaiting the hello can be an accepted hello. -/
theorem acceptedHello_of_before (h : entry.before ≠ .awaitingHello) :
    entry.acceptedHello = false := by
  simp [ReceivedFrame.acceptedHello, h]

omit [Sodium] in
/-- A frame that moves nothing accepts nothing. -/
theorem acceptedHello_of_unmoved (h : entry.after = entry.before) :
    entry.acceptedHello = false := by
  rw [ReceivedFrame.acceptedHello, h]
  cases entry.before <;> rfl

end Session

/-! ## One request -/

section Request

omit [Sodium] in
/-- A new account gets a new id. -/
theorem insertUserRow_consistent {pubkey : WirePublicKey} {handle : ByteString} {id : ℤ}
    {before after : Tables} (consistent : before.Consistent)
    (inserted : insertUserRow pubkey handle before = some (id, after)) : after.Consistent := by
  obtain ⟨hid, rfl⟩ := insertUserRow_some inserted
  obtain ⟨hid, -⟩ := nextRowid_eq_some hid
  refine ⟨?_, ?_, ?_⟩
  · have := consistent.sequence_nonneg
    change 0 ≤ id
    omega
  · intro user huser
    change 0 < user.id ∧ user.id ≤ id
    rcases List.mem_append.mp huser with hold | hnew
    · have := consistent.user_id user hold
      omega
    · obtain rfl := List.mem_singleton.mp hnew
      have := consistent.sequence_nonneg
      change 0 < id ∧ id ≤ id
      omega
  · intro profile hprofile
    obtain ⟨user, huser, hsame⟩ := consistent.profile_user profile hprofile
    exact ⟨user, List.mem_append_left _ huser, hsame⟩

omit [Sodium] in
/-- The only account with the new id is the new one. -/
theorem insertUserRow_key {pubkey : WirePublicKey} {handle : ByteString} {id : ℤ}
    {before after : Tables} (consistent : before.Consistent)
    (inserted : insertUserRow pubkey handle before = some (id, after)) {user : UserRow}
    (huser : user ∈ after.users) (hid : user.id = id) : user.pubkey = pubkey := by
  obtain ⟨hnext, rfl⟩ := insertUserRow_some inserted
  obtain ⟨hnext, -⟩ := nextRowid_eq_some hnext
  rcases List.mem_append.mp huser with hold | hnew
  · have := (consistent.user_id user hold).2
    omega
  · obtain rfl := List.mem_singleton.mp hnew
    rfl

omit [Sodium] in
/-- Its profile, written or not, leaves the accounts alone. -/
theorem enrolled_accounts {id : ℤ} {tables after : Tables}
    (consistent : tables.Consistent)
    (profile : after = tables ∨ upsertProfileRow id {} tables = some ((), after)) :
    after.Consistent ∧ after.users = tables.users := by
  rcases profile with rfl | hprofile
  · exact ⟨consistent, rfl⟩
  · have hown : OwnEffect id (FixedBytes.zero _) tables after := OwnEffect.upsertProfileRow hprofile
    exact ⟨hown.consistent consistent, hown.users⟩

variable {context : HandlerContext} {type : MessageType} {reader : ByteReader}
  {database : DatabaseHandle} {session : SessionState}

/-- No request breaks the accounts or takes one away. -/
theorem RequestEffect.accounts (h : RequestEffect context type reader database session)
    (consistent : context.database.tables.Consistent) :
    database.tables.Consistent ∧
      AccountsKept context.database.tables.users database.tables.users := by
  cases h with
  | unchanged => exact ⟨consistent, .refl _⟩
  | own registered effect =>
    refine ⟨effect.consistent consistent, ?_⟩
    rw [effect.users]
    exact .refl _
  | greeted => exact ⟨consistent, .refl _⟩
  | accepted => exact ⟨consistent, .refl _⟩
  | proven => exact ⟨consistent, .refl _⟩
  | @enrolled _ _ _ _ tables isRegister phase unregistered inserted profile left =>
    obtain ⟨hconsistent, husers⟩ := enrolled_accounts
      (insertUserRow_consistent consistent inserted) profile
    refine ⟨hconsistent, ?_⟩
    rw [husers]
    intro user huser
    obtain ⟨-, rfl⟩ := insertUserRow_some inserted
    exact ⟨user, List.mem_append_left _ huser, rfl, rfl⟩

/-- A request keeps the session authentic: one case per effect. -/
theorem Authentic.effect {log : List ReceivedFrame} {entry : ReceivedFrame}
    (h : Authentic context.database.tables.users context.connection.session log)
    (consistent : context.database.tables.Consistent)
    (heffect : RequestEffect context type reader database session)
    (hdecode : ∀ {α : Type} (readFrom : Reader α),
      entry.decodeAs type readFrom = (readFrom reader).1)
    (hnonce : entry.drawnNonce = context.ambient.randomNonce)
    (hbefore : entry.before = context.connection.session.phase)
    (hafter : entry.after = session.phase) :
    Authentic database.tables.users session (log ++ [entry]) := by
  have hkept := (heffect.accounts consistent).2
  cases heffect with
  | unchanged => exact h.logged (acceptedHello_of_unmoved (hafter.trans hbefore.symm))
  | own => exact (h.mono hkept).logged (acceptedHello_of_unmoved (hafter.trans hbefore.symm))
  | @greeted request isHello phase decoded version =>
    -- the first hello accepted: the session had accepted none, and had no account
    have hnone := h.ungreeted (.inr phase)
    have haccepted : entry.acceptedHello = true := by
      simp [ReceivedFrame.acceptedHello, hbefore, hafter, phase]
    have hgreeted : (log ++ [entry]).filter ReceivedFrame.acceptedHello = [entry] := by
      rw [List.filter_append, hnone, List.filter_singleton, haccepted, Bool.cond_true,
        List.nil_append]
    refine ⟨by simp, fun _ => ⟨entry, request, hgreeted, ?_, version, rfl, hnonce.symm⟩, by simp, ?_⟩
    · rw [← isHello, hdecode, decoded]
    · intro hid
      have := (h.account hid).1
      simp [phase] at this
  | @accepted response user isAuth phase decoded verified known key allowed =>
    have hunmoved := acceptedHello_of_before (hbefore.trans_ne (by simp [phase]))
    have hgreeted := (h.greeted (.inl phase)).logged hunmoved
    refine ⟨by simp [SessionState.accept], fun _ => hgreeted, fun _ => ?_, fun _ => ?_⟩
    · refine Proven.of_signature (List.mem_append_right _ (List.mem_singleton_self _)) ?_ verified
      rw [← isAuth, hdecode, decoded]
    · exact ⟨rfl, user, known, rfl, key⟩
  | @proven response isAuth phase decoded verified =>
    have hunmoved := acceptedHello_of_before (hbefore.trans_ne (by simp [phase]))
    have hgreeted := (h.greeted (.inl phase)).logged hunmoved
    refine ⟨by simp, fun _ => hgreeted, fun _ => ?_, fun hid => absurd rfl hid⟩
    refine Proven.of_signature (List.mem_append_right _ (List.mem_singleton_self _)) ?_ verified
    rw [← isAuth, hdecode, decoded]
  | @enrolled _ _ _ createdId tables isRegister phase unregistered inserted profile left =>
    have hunmoved := acceptedHello_of_before (hbefore.trans_ne (by simp [phase]))
    have hlogged := (h.mono hkept).logged hunmoved
    rcases left with rfl | ⟨user, huser, hid, rfl⟩
    · exact hlogged
    · have husers := (enrolled_accounts
        (insertUserRow_consistent consistent inserted) profile).2
      refine ⟨by simp [SessionState.accept], fun _ => hlogged.greeted (.inr phase),
        fun _ => hlogged.proven phase, fun _ => ⟨rfl, user, ?_, rfl, ?_⟩⟩
      · rw [husers]
        exact huser
      · exact insertUserRow_key consistent inserted huser hid

end Request

/-! ## One message -/

section Message

variable {state : ProcessorState} {message : ByteString} {log : List ReceivedFrame}

/-- No message breaks the accounts or takes one away, even the one that gets the
connection closed. -/
theorem processMessage_accounts (message : ByteString) (consistent : state.context.database.tables.Consistent) :
    (processMessage state message).2.context.database.tables.Consistent ∧
      AccountsKept state.context.database.tables.users
        (processMessage state message).2.context.database.tables.users := by
  have houtcome := processMessage_outcome state message
  generalize processMessage state message = out at houtcome ⊢
  cases houtcome with
  | handshake =>
    rw [advanceHandshake_database]
    exact ⟨consistent, .refl _⟩
  | unopened => exact ⟨consistent, .refl _⟩
  | rejected => exact ⟨consistent, .refl _⟩
  | limited =>
    rw [sendStatusError, (sendMessage_frame ..).1]
    exact ⟨consistent, .refl _⟩
  | routed => exact (routeMessage_answer ..).effect.accounts consistent

/-- Before the handshake there is no session yet. -/
def HandshakeFirst (connection : ClientConnection) : Prop :=
  connection.channel.transport = none → connection.session.phase = .awaitingHandshake

/-- Handling one message keeps the session authentic. -/
theorem Authentic.processMessage
    (h : Authentic state.context.database.tables.users state.context.connection.session log)
    (consistent : state.context.database.tables.Consistent)
    (hfirst : HandshakeFirst state.context.connection)
    (hopen : (HyperCom.processMessage state message).1 = true) :
    Authentic (HyperCom.processMessage state message).2.context.database.tables.users
        (HyperCom.processMessage state message).2.context.connection.session
        (log ++ logEntry state message) ∧
      HandshakeFirst (HyperCom.processMessage state message).2.context.connection := by
  have houtcome := processMessage_outcome state message
  generalize hout : HyperCom.processMessage state message = out at houtcome hopen ⊢
  cases houtcome with
  | handshake fresh =>
    obtain ⟨hsession, htransport⟩ := advanceHandshake_open hopen
    have hphase := hfirst fresh
    rw [logEntry_fresh fresh, List.append_nil, advanceHandshake_database, hsession]
    refine ⟨⟨fun _ => h.ungreeted (.inl hphase), by simp, by simp, fun hid => ?_⟩,
      fun hnone => absurd hnone htransport⟩
    have := (h.account hid).1
    simp [hphase] at this
  | unopened => cases hopen
  | rejected => cases hopen
  | @limited channel _ _ opened =>
    obtain ⟨-, transport, -, established, -⟩ := NoiseChannel.openMessage_some opened
    have hchannel : (state.context.withChannel channel).connection.channel.transport ≠ none := by
      simp [HandlerContext.withChannel, established]
    rw [logEntry_opened opened hout, sendStatusError, (sendMessage_frame ..).1,
      (sendMessage_frame ..).2]
    exact ⟨h.logged (acceptedHello_of_unmoved rfl),
      fun hnone => absurd hnone ((sendRawMessage_cases ..).established hchannel)⟩
  | @routed channel frame policy type reader opened admission =>
    obtain ⟨-, transport, -, established, -⟩ := NoiseChannel.openMessage_some opened
    have hchannel : (state.context.withChannel channel).noteActivity.connection.channel.transport ≠
        none := by
      simp [HandlerContext.withChannel, HandlerContext.noteActivity, established]
    obtain ⟨header, hheader, htype, hreader⟩ := admitFrame_admitted admission
    have hanswer := routeMessage_answer (state.context.withChannel channel).noteActivity type reader
    have hactive : Authentic (state.context.withChannel channel).noteActivity.database.tables.users
        (state.context.withChannel channel).noteActivity.connection.session log :=
      ⟨h.ungreeted, h.greeted, h.proven, h.account⟩
    rw [logEntry_opened opened hout]
    refine ⟨hactive.effect consistent hanswer.effect ?_ rfl rfl rfl,
      fun hnone => absurd hnone (hanswer.established hchannel)⟩
    intro α readFrom
    simp only [ReceivedFrame.decodeAs, hheader, htype, hreader, if_true]

end Message

/-! ## One input -/

section Input

variable {world : ℕ → Ambient} {received : ByteString} {stillOpen : Bool} {state : ProcessorState}
  {log : List ReceivedFrame}

/-- The accounts, through a whole input. -/
theorem processConnectionInput_accounts (world : ℕ → Ambient) (received : ByteString)
    (stillOpen : Bool) (consistent : state.context.database.tables.Consistent) :
    (processConnectionInput world received stillOpen state).2.context.database.tables.Consistent ∧
      AccountsKept state.context.database.tables.users
        (processConnectionInput world received stillOpen state).2.context.database.tables.users := by
  cases stillOpen with
  | false => exact ⟨consistent, .refl _⟩
  | true =>
    rw [processConnectionInput_open]
    refine processBuffer_always (J := fun now => now.context.database.tables.Consistent ∧
      AccountsKept state.context.database.tables.users now.context.database.tables.users)
      (fun h => h) ?_ ⟨consistent, .refl _⟩
    rintro now message ⟨hconsistent, hkept⟩
    obtain ⟨hnext, hmore⟩ := processMessage_accounts message hconsistent
    exact ⟨hnext, hkept.trans hmore⟩

/-- The invariant, through a whole input. -/
theorem Authentic.processConnectionInput
    (h : Authentic state.context.database.tables.users state.context.connection.session log)
    (consistent : state.context.database.tables.Consistent)
    (hfirst : HandshakeFirst state.context.connection)
    (hopen : (HyperCom.processConnectionInput world received stillOpen state).1 = true) :
    let out := HyperCom.processConnectionInput world received stillOpen state
    Authentic out.2.context.database.tables.users out.2.context.connection.session
        (processBufferLog logEntry world 0 (state.withInput (state.inputBuffer ++ received)) log) ∧
      HandshakeFirst out.2.context.connection := by
  cases stillOpen with
  | false => cases hopen
  | true =>
    rw [processConnectionInput_open] at hopen ⊢
    have hstart : Authentic (state.withInput (state.inputBuffer ++ received)).context.database.tables.users
        (state.withInput (state.inputBuffer ++ received)).context.connection.session log ∧
        (state.withInput (state.inputBuffer ++ received)).context.database.tables.Consistent ∧
        HandshakeFirst (state.withInput (state.inputBuffer ++ received)).context.connection :=
      ⟨h, consistent, hfirst⟩
    have hloop := processBuffer_logged logEntry
      (I := fun now log => Authentic now.context.database.tables.users now.context.connection.session
        log ∧ now.context.database.tables.Consistent ∧ HandshakeFirst now.context.connection)
      (fun h => h) ?_ hstart hopen
    · exact ⟨hloop.1, hloop.2.2⟩
    · rintro now log message ⟨hnow, hconsistent, hnowFirst⟩ hout
      obtain ⟨hauthentic, hlater⟩ := hnow.processMessage hconsistent hnowFirst hout
      exact ⟨hauthentic, (processMessage_accounts message hconsistent).1, hlater⟩

end Input

/-! ## The whole server -/

/-- A server that has just been started on an existing database. -/
def ServerRuntime.start (config : ServerConfig) (staticPublic : X25519PublicKey)
    (staticSecret : X25519SecretKey) (policy : RatePolicy) (tables : Tables) : ServerRuntime :=
  { config, staticPublic, staticSecret, policy, database := { tables } }

/-- The invariant of the server: every session is authentic, every connection
has been given its number. -/
structure ServerRuntime.Sound (runtime : ServerRuntime) : Prop where
  consistent : runtime.database.tables.Consistent
  authentic : ∀ {number logged}, runtime.connections number = some logged →
    Authentic runtime.database.tables.users logged.connection.session logged.log
  /-- nothing is routed before the handshake is over -/
  handshakeFirst : ∀ {number logged}, runtime.connections number = some logged →
    HandshakeFirst logged.connection
  /-- connections are numbered in the order in which they came -/
  numbered : ∀ {number logged}, runtime.connections number = some logged →
    number < runtime.nextNumber

section Runtime

variable {runtime runtime' : ServerRuntime} {number other : ℕ} {logged logged' : LoggedConnection}
  {connection : Option LoggedConnection}

omit [Sodium] in
/-- A connection after another one was replaced. -/
theorem ServerRuntime.withConnection_cases
    (h : (runtime.withConnection number connection).connections other = some logged) :
    (other = number ∧ connection = some logged) ∨
      (other ≠ number ∧ runtime.connections other = some logged) := by
  by_cases hother : other = number
  · subst hother
    have hself : (runtime.withConnection other connection).connections other = connection :=
      Function.update_self ..
    exact .inl ⟨rfl, hself.symm.trans h⟩
  · have hkept : (runtime.withConnection number connection).connections other =
        runtime.connections other := Function.update_of_ne hother ..
    exact .inr ⟨hother, hkept.symm.trans h⟩

omit [Sodium] in
/-- A ban changes a flag, which is no part of who an account is. -/
theorem accountsKept_updateWhere (p : UserRow → Bool) (banned : Bool) (users : List UserRow) :
    AccountsKept users (RowStore.updateWhere p (fun user => { user with banned }) users) := by
  intro user huser
  refine ⟨_, List.mem_map_of_mem huser, ?_⟩
  split <;> exact ⟨rfl, rfl⟩

omit [Sodium] in
theorem id_of_mem_updateWhere {p : UserRow → Bool} {banned : Bool} {users : List UserRow}
    {user : UserRow} (h : user ∈ RowStore.updateWhere p (fun user => { user with banned }) users) :
    ∃ old ∈ users, user.id = old.id := by
  obtain ⟨old, hold, rfl⟩ := List.mem_map.mp h
  refine ⟨old, hold, ?_⟩
  split <;> rfl

/-- What no statement on the accounts may do: break them or take one away. -/
def AccountsSafe (before after : Tables) : Prop :=
  before.Consistent → after.Consistent ∧ AccountsKept before.users after.users

omit [Sodium] in
/-- A ban changes a flag of an account. -/
theorem updateBannedFlag_safe {userId : ℤ} {banned : Bool} {result : Unit} {before after : Tables}
    (h : updateBannedFlag userId banned before = some (result, after)) :
    AccountsSafe before after := by
  intro consistent
  obtain ⟨-, rfl⟩ := Prod.mk.inj (Option.some.inj h)
  have hkept := accountsKept_updateWhere (fun user => user.id = userId) banned before.users
  refine ⟨⟨consistent.sequence_nonneg, ?_, ?_⟩, hkept⟩
  · intro user huser
    obtain ⟨old, hold, hid⟩ := id_of_mem_updateWhere huser
    rw [hid]
    exact consistent.user_id old hold
  · intro profile hprofile
    obtain ⟨user, huser, hsame⟩ := consistent.profile_user profile hprofile
    obtain ⟨user', huser', hid, -⟩ := hkept user huser
    exact ⟨user', huser', hid.trans hsame⟩

omit [Sodium] in
/-- So the administration's part is safe as well. -/
theorem setBanned_safe {database database' : DatabaseHandle} {userId : ℤ} {banned done : Bool}
    (h : setBanned database userId banned = (done, database')) :
    AccountsSafe database.tables database'.tables := by
  obtain ⟨-, rfl⟩ := Prod.mk.inj h
  exact DatabaseHandle.write_effect rfl (fun _ h => ⟨h, .refl _⟩) updateBannedFlag_safe

omit [Sodium] in
theorem banAccount_safe (database : DatabaseHandle) (pubkey : WirePublicKey) (banned : Bool) :
    AccountsSafe database.tables (banAccount database pubkey banned).2.tables := by
  rw [banAccount_database]
  split
  · exact fun h => ⟨h, .refl _⟩
  · exact setBanned_safe rfl

/-- Only what happens to its own connection concerns a session, as long as no
account is lost. -/
theorem ServerRuntime.Sound.withConnection (h : runtime.Sound)
    (consistent : runtime'.database.tables.Consistent)
    (kept : AccountsKept runtime.database.tables.users runtime'.database.tables.users)
    (others : runtime'.connections = runtime.connections)
    (numbers : runtime.nextNumber ≤ runtime'.nextNumber)
    (connected : ∀ logged, connection = some logged →
      Authentic runtime'.database.tables.users logged.connection.session logged.log ∧
        HandshakeFirst logged.connection ∧ number < runtime'.nextNumber) :
    (runtime'.withConnection number connection).Sound := by
  refine ⟨consistent, ?_, ?_, ?_⟩
  · intro other logged hlogged
    rcases ServerRuntime.withConnection_cases hlogged with ⟨rfl, hsome⟩ | ⟨-, hold⟩
    · exact (connected logged hsome).1
    · rw [others] at hold
      exact (h.authentic hold).mono kept
  · intro other logged hlogged
    rcases ServerRuntime.withConnection_cases hlogged with ⟨rfl, hsome⟩ | ⟨-, hold⟩
    · exact (connected logged hsome).2.1
    · rw [others] at hold
      exact h.handshakeFirst hold
  · intro other logged hlogged
    rcases ServerRuntime.withConnection_cases hlogged with ⟨rfl, hsome⟩ | ⟨-, hold⟩
    · exact (connected logged hsome).2.2
    · rw [others] at hold
      exact (h.numbered hold).trans_le numbers

/-- Every event keeps every session authentic. -/
theorem ServerRuntime.Sound.step (h : runtime.Sound) (event : ServerEvent) :
    (runtime.step event).Sound := by
  cases event with
  | accept peerAddress connectedAt =>
    refine h.withConnection h.consistent (.refl _) rfl (Nat.le_succ _) ?_
    rintro logged hlogged
    obtain rfl := Option.some.inj hlogged
    refine ⟨⟨fun _ => rfl, ?_, ?_, fun hid => absurd rfl hid⟩, fun _ => rfl, Nat.lt_succ_self _⟩
    · intro hphase
      simp [ClientConnection.accepted] at hphase
    · intro hphase
      simp [ClientConnection.accepted] at hphase
  | input number received stillOpen world =>
    rw [ServerRuntime.step]
    split
    · exact h
    · next logged hlogged =>
      have hbefore : (runtime.receiving logged.connection).context.database.tables.Consistent :=
        h.consistent
      have haccounts := processConnectionInput_accounts world received stillOpen hbefore
      refine h.withConnection haccounts.1 haccounts.2 rfl le_rfl ?_
      intro left hleft
      split at hleft
      · next hopen =>
        obtain rfl := Option.some.inj hleft
        have hauthentic := (h.authentic hlogged).processConnectionInput h.consistent
          (h.handshakeFirst hlogged) hopen
        exact ⟨hauthentic.1, hauthentic.2, h.numbered hlogged⟩
      · cases hleft
  | flush number count =>
    rw [ServerRuntime.step]
    split
    · exact h
    · next logged hlogged =>
      refine h.withConnection h.consistent (.refl _) rfl le_rfl ?_
      rintro left hleft
      obtain rfl := Option.some.inj hleft
      have hauthentic := h.authentic hlogged
      have hfirst := h.handshakeFirst hlogged
      exact ⟨hauthentic, hfirst, h.numbered hlogged⟩
  | close number => exact h.withConnection h.consistent (.refl _) rfl le_rfl (by simp)
  | sweep now => exact ⟨h.consistent, h.authentic, h.handshakeFirst, h.numbered⟩
  | ban sqlFaults pubkey banned =>
    obtain ⟨hconsistent, hkept⟩ := banAccount_safe { runtime.database with faults := sqlFaults }
      pubkey banned h.consistent
    exact ⟨hconsistent, fun hlogged => (h.authentic hlogged).mono hkept, h.handshakeFirst,
      h.numbered⟩

/-- By induction on the run. -/
theorem ServerRuntime.Sound.run (h : runtime.Sound) (events : List ServerEvent) :
    (runtime.run events).Sound := by
  induction events generalizing runtime with
  | nil => exact h
  | cons event events ih => exact ih (h.step event)

/-- There are no sessions at the start. -/
theorem ServerRuntime.start_sound (config : ServerConfig) (staticPublic : X25519PublicKey)
    (staticSecret : X25519SecretKey) (policy : RatePolicy) {tables : Tables}
    (consistent : tables.Consistent) :
    (ServerRuntime.start config staticPublic staticSecret policy tables).Sound := by
  refine ⟨consistent, ?_, ?_, ?_⟩ <;>
  · intro number logged hlogged
    cases hlogged

/-! The log of a connection only grows, and no later connection gets its
number. -/

/-- The connection with this number is still the same one, if it is there. -/
def ServerRuntime.Continues (runtime runtime' : ServerRuntime) (number : ℕ) : Prop :=
  ∀ {logged'}, runtime'.connections number = some logged' →
    ∃ logged, runtime.connections number = some logged ∧ logged.log <+: logged'.log

/-- An event lets a connection go on, or ends it; its number is not used again. -/
theorem ServerRuntime.step_continues (hnumber : number < runtime.nextNumber) (event : ServerEvent) :
    runtime.Continues (runtime.step event) number ∧
      number < (runtime.step event).nextNumber := by
  have hsame : ∀ {logged'}, runtime.connections number = some logged' →
      ∃ logged, runtime.connections number = some logged ∧ logged.log <+: logged'.log :=
    fun hlogged => ⟨_, hlogged, List.prefix_rfl⟩
  cases event with
  | accept peerAddress connectedAt =>
    refine ⟨fun hlogged => ?_, hnumber.trans (Nat.lt_succ_self _)⟩
    rcases ServerRuntime.withConnection_cases hlogged with ⟨rfl, -⟩ | ⟨-, hold⟩
    · exact absurd hnumber (lt_irrefl _)
    · exact hsame hold
  | input target received stillOpen world =>
    rw [ServerRuntime.step]
    split
    · exact ⟨hsame, hnumber⟩
    · next logged hlogged =>
      refine ⟨fun hleft => ?_, hnumber⟩
      rcases ServerRuntime.withConnection_cases hleft with ⟨rfl, hsome⟩ | ⟨-, hold⟩
      · split at hsome
        · obtain rfl := Option.some.inj hsome
          exact ⟨logged, hlogged, prefix_processBufferLog⟩
        · cases hsome
      · exact hsame hold
  | flush target count =>
    rw [ServerRuntime.step]
    split
    · exact ⟨hsame, hnumber⟩
    · next logged hlogged =>
      refine ⟨fun hleft => ?_, hnumber⟩
      rcases ServerRuntime.withConnection_cases hleft with ⟨rfl, hsome⟩ | ⟨-, hold⟩
      · obtain rfl := Option.some.inj hsome
        exact ⟨logged, hlogged, List.prefix_rfl⟩
      · exact hsame hold
  | close target =>
    refine ⟨fun hleft => ?_, hnumber⟩
    rcases ServerRuntime.withConnection_cases hleft with ⟨rfl, hsome⟩ | ⟨-, hold⟩
    · cases hsome
    · exact hsame hold
  | sweep now => exact ⟨hsame, hnumber⟩
  | ban sqlFaults pubkey banned => exact ⟨hsame, hnumber⟩

/-- Over a run. -/
theorem ServerRuntime.run_continues (hnumber : number < runtime.nextNumber)
    (events : List ServerEvent) : runtime.Continues (runtime.run events) number := by
  induction events generalizing runtime with
  | nil => exact fun hlogged => ⟨_, hlogged, List.prefix_rfl⟩
  | cons event events ih =>
    obtain ⟨hfirst, hnext⟩ := ServerRuntime.step_continues hnumber event
    intro logged' hlogged
    obtain ⟨mid, hmid, hlater⟩ := ih hnext hlogged
    obtain ⟨logged, hstart, hearlier⟩ := hfirst hmid
    exact ⟨logged, hstart, hearlier.trans hlater⟩

/-- Two sessions over one growing log have accepted the same hello. -/
theorem Authentic.same_greeting {users' : List UserRow} {session session' : SessionState}
    {log log' : List ReceivedFrame} (hlog : log <+: log') (h : Greeted session log)
    (h' : Authentic users' session' log') :
    session'.announcedPubkey = session.announcedPubkey ∧
      session'.challengeNonce = session.challengeNonce := by
  obtain ⟨hello, request, hfilter, hdecode, -, hkey, hnonce⟩ := h
  have hgrown := hlog.filter ReceivedFrame.acceptedHello
  rw [hfilter] at hgrown
  have hphase : session'.phase = .awaitingAuth ∨ session'.phase = .authenticated := by
    by_contra hnot
    have hnone := h'.ungreeted (by cases hcase : session'.phase <;> simp_all)
    rw [hnone] at hgrown
    exact absurd (List.prefix_nil.mp hgrown) (List.cons_ne_nil _ _)
  obtain ⟨hello', request', hfilter', hdecode', -, hkey', hnonce'⟩ := h'.greeted hphase
  rw [hfilter'] at hgrown
  obtain rfl := List.singleton_inj.mp (hgrown.eq_of_length rfl)
  obtain rfl := Option.some.inj (hdecode.symm.trans hdecode')
  exact ⟨hkey'.trans hkey.symm, hnonce'.trans hnonce.symm⟩

/-- In every state of every run of the server, and however the run goes on: a
session with an account is authenticated and has the account of its announced
key; an authenticated session has received a valid signature of its challenge by
that key, and the challenge is the nonce drawn for its one accepted hello; from
that hello on neither the key nor the challenge changes. -/
theorem authentication_invariant (config : ServerConfig) (staticPublic : X25519PublicKey)
    (staticSecret : X25519SecretKey) (policy : RatePolicy) (tables : Tables)
    (consistent : tables.Consistent) (events later : List ServerEvent) (number : ℕ)
    (logged : LoggedConnection)
    (hlogged : ((ServerRuntime.start config staticPublic staticSecret policy tables).run
      events).connections number = some logged) :
    let runtime := (ServerRuntime.start config staticPublic staticSecret policy tables).run events
    let session := logged.connection.session
    (session.userId ≠ 0 → session.phase = .authenticated ∧
      ∃ user ∈ runtime.database.tables.users,
        user.id = session.userId ∧ user.pubkey = session.announcedPubkey) ∧
    (session.phase = .authenticated → Proven session logged.log ∧ Greeted session logged.log) ∧
    (session.phase = .awaitingAuth ∨ session.phase = .authenticated →
      ∀ logged', (runtime.run later).connections number = some logged' →
        logged'.connection.session.announcedPubkey = session.announcedPubkey ∧
        logged'.connection.session.challengeNonce = session.challengeNonce) := by
  intro runtime session
  have hsound : runtime.Sound := (ServerRuntime.start_sound _ _ _ _ consistent).run events
  have hauthentic := hsound.authentic hlogged
  refine ⟨hauthentic.account, fun hphase => ⟨hauthentic.proven hphase, hauthentic.greeted (.inr hphase)⟩,
    ?_⟩
  intro hphase logged' hlater
  obtain ⟨before, hbefore, hlog⟩ :=
    ServerRuntime.run_continues (hsound.numbered hlogged) later hlater
  obtain rfl := Option.some.inj (hlogged.symm.trans hbefore)
  exact Authentic.same_greeting hlog (hauthentic.greeted hphase) ((hsound.run later).authentic hlater)

/-- One message of the stand-in's client, in its own input. -/
def clientInput (message : ByteString) : ServerEvent :=
  .input 0 (appendLengthPrefixedMessage message) true fun _ =>
    { ephemeral := some (FixedBytes.zero _, FixedBytes.zero _)
      randomNonce := ⟨List.replicate 32 7, rfl⟩ }

/-- Handshake, hello, signature and registration on one connection. -/
def registrationRun (clientPubkey : WirePublicKey) (signature : WireSignature)
    (handle : ByteString) : List ServerEvent :=
  [.accept [] 0,
    clientInput (List.replicate noiseHandshakeMessageSize 0),
    clientInput (frameBytes .helloRequest (HelloRequest.writeTo { clientPubkey }) ++ transparentTag),
    clientInput (frameBytes .authResponse (AuthResponse.writeTo { signature }) ++ transparentTag),
    clientInput (frameBytes .registerRequest (RegisterRequest.writeTo { handle }) ++ transparentTag)]

omit [Sodium] in
/-- The account of a registered client, banned afterwards. -/
theorem authentication_invariant_registered :
    letI := transparentSodium
    let clientPubkey : WirePublicKey := ⟨List.replicate 32 5, rfl⟩
    let signature : WireSignature := ⟨List.replicate 32 5 ++ List.replicate 32 0, rfl⟩
    let runtime := (ServerRuntime.start {} (FixedBytes.zero _) (FixedBytes.zero _)
      { perAddress := 0, perIdentity := 0 } {}).run
        (registrationRun clientPubkey signature (ascii "alice") ++ [.ban (fun _ _ => false)
          clientPubkey true])
    ∃ logged, runtime.connections 0 = some logged ∧ logged.connection.session.userId = 1 ∧
      (∃ user ∈ runtime.database.tables.users,
        user.id = 1 ∧ user.pubkey = logged.connection.session.announcedPubkey) ∧
      Proven logged.connection.session logged.log := by
  intro clientPubkey signature runtime
  let _ := transparentSodium
  have hrun : (runtime.connections 0).map (fun logged => logged.connection.session.userId) =
      some 1 := by
    decide +kernel
  obtain ⟨logged, hlogged, hid⟩ := Option.map_eq_some_iff.mp hrun
  have consistent : ({} : Tables).Consistent := ⟨le_rfl, by simp, by simp⟩
  obtain ⟨haccount, hproven, -⟩ :=
    authentication_invariant _ _ _ _ _ consistent _ [] 0 logged hlogged
  obtain ⟨hphase, huser⟩ := haccount (by simp [hid])
  rw [hid] at huser
  exact ⟨logged, hlogged, hid, huser, (hproven hphase).1⟩

end Runtime

end HyperCom
