import HyperCom.Lib.Run
import HyperCom.Server.Authentication
import HyperCom.Server.ConfigValidator

/-!
# The sweep of expired connections

`collect_expired_descriptors` goes by the last activity of a session, and every
frame that is admitted counts as activity, in whatever phase. So a connection
that does not authenticate outlives `handshake_timeout_seconds` exactly as long
as its peer gets a frame admitted every so often; `unauthenticated_expiry` says
when it is collected, in every state of every run.

Both clocks are the ones of the source: the monotonic one that the sweep reads, and the last
activity that an admitted frame sets. A ping is admitted before anything is authenticated,
so it is enough.
-/

namespace HyperCom

open StepRun

variable [Sodium]

/-! ## `connection_registry` -/

/-- The test of `collect_expired_descriptors` on one session. -/
def SessionState.isExpired (session : SessionState) (now : UInt64) (limits : LimitsConfig) : Bool :=
  let handshaking := session.phase ≠ .authenticated
  if !handshaking && limits.idleTimeoutSeconds = 0 then false
  else
    let budget :=
      if handshaking then limits.handshakeTimeoutSeconds else limits.idleTimeoutSeconds
    now > session.lastActivityAt && now - session.lastActivityAt > budget.toUInt64

/-- `collect_expired_descriptors` -/
def collectExpiredDescriptors (runtime : ServerRuntime) (now : UInt64) (limits : LimitsConfig) :
    List ℕ :=
  (List.range runtime.nextNumber).filter fun number =>
    match runtime.connections number with
    | none => false
    | some logged => logged.connection.session.isExpired now limits

/-- `sweep_expired_connections` -/
def sweepExpiredConnections (limits : LimitsConfig) (now : UInt64) (runtime : ServerRuntime) :
    ServerRuntime :=
  runtime.run ((collectExpiredDescriptors runtime now limits).map .close ++ [.sweep now])

/-! ## A server with a clock -/

/-- The time at which the frame of a message is admitted, if it is: it decrypts,
is well formed, and both rate limits let it pass. -/
def admissionTime (state : ProcessorState) (message : ByteString) : List UInt64 :=
  match (state.context.connection.channel.openMessage message).1 with
  | none => []
  | some frame =>
    match (admitFrame state.context.connection.session state.policy
      state.context.ambient.dispatchTimestamp frame).1 with
    | .admitted _ _ => [state.context.ambient.dispatchTimestamp]
    | _ => []

/-- The server, the last reading of its clock, and for every connection the
times at which frames were admitted on it. -/
structure TimedServer where
  runtime : ServerRuntime
  clock : UInt64 := 0
  admissions : ℕ → List UInt64 := fun _ => []

/-- An event, over by the time `finish`, or a sweep of the connections. -/
inductive TimedEvent where
  | serve (event : ServerEvent) (finish : UInt64)
  | sweepConnections (now : UInt64)

namespace TimedServer

/-- The clock does not go back: not from one event to the next, not from one
message of an input to the next. -/
def ClockRuns (server : TimedServer) : TimedEvent → Prop
  | .serve (.accept _ connectedAt) finish => server.clock ≤ connectedAt ∧ connectedAt ≤ finish
  | .serve (.input _ _ _ world) finish => (∀ index, server.clock ≤ (world index).dispatchTimestamp ∧
      (world index).dispatchTimestamp ≤ (world (index + 1)).dispatchTimestamp ∧
      (world index).dispatchTimestamp ≤ finish)
  | .serve _ finish => server.clock ≤ finish
  | .sweepConnections now => server.clock ≤ now

/-- The admissions after an event. -/
def noteAdmissions (server : TimedServer) : ServerEvent → ℕ → List UInt64
  | .accept _ _ => Function.update server.admissions server.runtime.nextNumber []
  | .input number received true world =>
    match server.runtime.connections number with
    | none => server.admissions
    | some logged =>
      let state := server.runtime.receiving logged.connection
      Function.update server.admissions number
        (processBufferLog admissionTime world 0 (state.withInput (state.inputBuffer ++ received))
          (server.admissions number))
  | _ => server.admissions

/-- One event of the timed server, which never stops. -/
def next (limits : LimitsConfig) (server : TimedServer) : TimedEvent → Option TimedServer
  | .serve event finish => some {
      runtime := server.runtime.step event
      clock := finish
      admissions := server.noteAdmissions event }
  | .sweepConnections now => some { server with
      runtime := sweepExpiredConnections limits now server.runtime
      clock := now }

end TimedServer

/-! ## The last activity is the last admission -/

/-- The last activity of a session: its last admission or, before the first
one, the time it was accepted. -/
structure Tracked (session : SessionState) (admissions : List UInt64) : Prop where
  source : session.lastActivityAt = session.connectedAt ∨ session.lastActivityAt ∈ admissions
  accepted : session.connectedAt ≤ session.lastActivityAt
  latest : ∀ time ∈ admissions, time ≤ session.lastActivityAt

section Tracking

variable {session session' : SessionState} {admissions : List UInt64} {state : ProcessorState}
  {message : ByteString} {context : HandlerContext} {type : MessageType} {reader : ByteReader}
  {database : DatabaseHandle} {time : UInt64}

omit [Sodium] in
/-- It depends on the two times of the session only. -/
theorem Tracked.congr (h : Tracked session admissions)
    (hactivity : session'.lastActivityAt = session.lastActivityAt)
    (hconnected : session'.connectedAt = session.connectedAt) : Tracked session' admissions := by
  refine ⟨?_, ?_, ?_⟩
  · rw [hactivity, hconnected]
    exact h.source
  · rw [hactivity, hconnected]
    exact h.accepted
  · rw [hactivity]
    exact h.latest

omit [Sodium] in
/-- A later admission. -/
theorem Tracked.admitted (h : Tracked session admissions) (hlater : session.lastActivityAt ≤ time)
    (hactivity : session'.lastActivityAt = time)
    (hconnected : session'.connectedAt = session.connectedAt) :
    Tracked session' (admissions ++ [time]) := by
  refine ⟨.inr ?_, ?_, ?_⟩
  · simp [hactivity]
  · rw [hactivity, hconnected]
    exact UInt64.le_trans h.accepted hlater
  · intro other hother
    rw [hactivity]
    rcases List.mem_append.mp hother with hold | hnew
    · exact UInt64.le_trans (h.latest other hold) hlater
    · rw [List.mem_singleton.mp hnew]
      exact UInt64.le_refl _

/-- No request touches the two times. -/
theorem RequestEffect.times (h : RequestEffect context type reader database session) :
    session.lastActivityAt = context.connection.session.lastActivityAt ∧
      session.connectedAt = context.connection.session.connectedAt := by
  cases h with
  | unchanged => exact ⟨rfl, rfl⟩
  | own => exact ⟨rfl, rfl⟩
  | greeted => exact ⟨rfl, rfl⟩
  | accepted => exact ⟨rfl, rfl⟩
  | proven => exact ⟨rfl, rfl⟩
  | enrolled _ _ _ _ _ left =>
    rcases left with rfl | ⟨_, -, -, rfl⟩ <;> exact ⟨rfl, rfl⟩

/-- A handshake is no activity. -/
theorem advanceHandshake_times (context : HandlerContext) (message : ByteString) :
    (advanceHandshake context message).2.connection.session.lastActivityAt =
        context.connection.session.lastActivityAt ∧
      (advanceHandshake context message).2.connection.session.connectedAt =
        context.connection.session.connectedAt := by
  unfold advanceHandshake
  split
  · exact ⟨rfl, rfl⟩
  · simp only
    split <;> exact ⟨rfl, rfl⟩

/-- Handling one message keeps track, and the clock ahead. -/
theorem Tracked.processMessage (message : ByteString)
    (h : Tracked state.context.connection.session admissions)
    (hlater : state.context.connection.session.lastActivityAt ≤
      state.context.ambient.dispatchTimestamp) :
    Tracked (HyperCom.processMessage state message).2.context.connection.session
        (admissions ++ admissionTime state message) ∧
      (HyperCom.processMessage state message).2.context.connection.session.lastActivityAt ≤
        state.context.ambient.dispatchTimestamp := by
  have houtcome := processMessage_outcome state message
  generalize HyperCom.processMessage state message = out at houtcome ⊢
  cases houtcome with
  | handshake fresh =>
    have hnone : admissionTime state message = [] := by
      simp [admissionTime, NoiseChannel.openMessage, fresh]
    obtain ⟨hactivity, hconnected⟩ := advanceHandshake_times state.context message
    rw [hnone, List.append_nil, hactivity]
    exact ⟨h.congr hactivity hconnected, hlater⟩
  | unopened opened =>
    have hnone : admissionTime state message = [] := by
      simp [admissionTime, opened]
    rw [hnone, List.append_nil]
    exact ⟨h, hlater⟩
  | rejected opened admission =>
    have hnone : admissionTime state message = [] := by
      simp [admissionTime, opened, admission]
    rw [hnone, List.append_nil]
    exact ⟨h, hlater⟩
  | limited opened admission =>
    have hnone : admissionTime state message = [] := by
      simp [admissionTime, opened, admission]
    rw [hnone, List.append_nil, sendStatusError, (sendMessage_frame ..).2]
    exact ⟨h, hlater⟩
  | @routed channel _ _ type reader opened admission =>
    have hone : admissionTime state message = [state.context.ambient.dispatchTimestamp] := by
      simp [admissionTime, opened, admission]
    obtain ⟨hactivity, hconnected⟩ := (routeMessage_answer
      (state.context.withChannel channel).noteActivity type reader).effect.times
    rw [hone]
    refine ⟨h.admitted hlater hactivity hconnected, ?_⟩
    rw [hactivity]
    exact UInt64.le_refl _

/-- So does the loop, as long as each reading is no earlier than the one
before. -/
theorem Tracked.processBuffer {world : ℕ → Ambient} {finish : UInt64}
    (hclock : ∀ index, (world index).dispatchTimestamp ≤ (world (index + 1)).dispatchTimestamp ∧
      (world index).dispatchTimestamp ≤ finish) {index : ℕ}
    (h : Tracked state.context.connection.session admissions)
    (hlater : state.context.connection.session.lastActivityAt ≤
      (world index).dispatchTimestamp)
    (hopen : (HyperCom.processBuffer world index state).1 = true) :
    Tracked (HyperCom.processBuffer world index state).2.context.connection.session
        (processBufferLog admissionTime world index state admissions) ∧
      (HyperCom.processBuffer world index state).2.context.connection.session.lastActivityAt ≤
        finish := by
  induction index, state using processBuffer_rec world generalizing admissions with
  | incomplete index state hextract =>
    rw [processBuffer_incomplete hextract, processBufferLog_incomplete hextract]
    exact ⟨h, UInt64.le_trans hlater (hclock index).2⟩
  | malformed index state hextract =>
    rw [processBuffer_malformed hextract] at hopen
    cases hopen
  | message index state message rest hextract ih =>
    have hentered : Tracked ((state.withInput rest).enter (world index)).context.connection.session
        admissions := h
    obtain ⟨hnext, hnextLater⟩ := Tracked.processMessage message hentered hlater
    rw [processBuffer_message hextract] at hopen ⊢
    by_cases hout : (HyperCom.processMessage ((state.withInput rest).enter (world index))
        message).1 = true
    · rw [if_pos hout] at hopen ⊢
      rw [processBufferLog_message hextract hout]
      exact ih hnext (UInt64.le_trans hnextLater (hclock index).1) hopen
    · rw [if_neg hout] at hopen
      cases hopen

end Tracking

/-! ## When a connection is collected -/

section Collection

omit [Sodium]

variable {session : SessionState} {admissions : List UInt64} {now clock clock' : UInt64}
  {limits : LimitsConfig} {runtime runtime' : ServerRuntime} {number : ℕ}
  {logged : LoggedConnection}

/-- The check of the source, for a session that is not authenticated: its last activity is
as old as the budget for a handshake. -/
theorem SessionState.isExpired_iff (hphase : session.phase ≠ .authenticated) :
    session.isExpired now limits = true ↔
      session.lastActivityAt.toNat + limits.handshakeTimeoutSeconds.toNat < now.toNat := by
  simp only [SessionState.isExpired, hphase, ne_eq, not_false_eq_true, decide_true, Bool.not_true,
    Bool.false_and, Bool.false_eq_true, if_false, if_true, Bool.and_eq_true, decide_eq_true_eq,
    gt_iff_lt, UInt64.lt_iff_toNat_lt, UInt32.toNat_toUInt64]
  constructor
  · rintro ⟨hlater, hbudget⟩
    rw [UInt64.toNat_sub_of_le _ _ (UInt64.le_of_lt (UInt64.lt_iff_toNat_lt.mpr hlater))] at hbudget
    omega
  · intro h
    have hlater : session.lastActivityAt.toNat < now.toNat := by omega
    rw [UInt64.toNat_sub_of_le _ _ (UInt64.le_of_lt (UInt64.lt_iff_toNat_lt.mpr hlater))]
    omega

/-- For a session that is tracked, the last activity is over the budget exactly
when its acceptance and all its admissions are. -/
theorem Tracked.over_iff (h : Tracked session admissions) {budget : ℕ}
    (hlate : session.connectedAt.toNat + budget < now.toNat) :
    session.lastActivityAt.toNat + budget < now.toNat ↔
      ∀ time ∈ admissions, time.toNat + budget < now.toNat := by
  constructor
  · intro hover time htime
    have hlatest := UInt64.le_iff_toNat_le.mp (h.latest time htime)
    omega
  · intro hall
    rcases h.source with hsame | hmem
    · rw [hsame]
      exact hlate
    · exact hall _ hmem

/-- Every connection is tracked, up to the clock, and has been numbered. -/
def ServerRuntime.Tracks (runtime : ServerRuntime) (clock : UInt64)
    (admissions : ℕ → List UInt64) : Prop :=
  ∀ number logged, runtime.connections number = some logged →
    Tracked logged.connection.session (admissions number) ∧
      logged.connection.session.lastActivityAt ≤ clock ∧ number < runtime.nextNumber

/-- The sweep collects the connections whose sessions have expired. -/
theorem mem_collectExpiredDescriptors (hnumber : number < runtime.nextNumber)
    (hlogged : runtime.connections number = some logged) :
    number ∈ collectExpiredDescriptors runtime now limits ↔
      logged.connection.session.isExpired now limits = true := by
  simp [collectExpiredDescriptors, hnumber, hlogged]

/-- Only what is put in the place of one connection is new. -/
theorem ServerRuntime.Tracks.withConnection {connection : Option LoggedConnection}
    {tracked tracked' : ℕ → List UInt64} (h : runtime.Tracks clock tracked)
    (hclock : clock ≤ clock') (others : runtime'.connections = runtime.connections)
    (numbers : runtime.nextNumber ≤ runtime'.nextNumber)
    (kept : ∀ other, other ≠ number → tracked' other = tracked other)
    (replaced : ∀ logged, connection = some logged →
      Tracked logged.connection.session (tracked' number) ∧
        logged.connection.session.lastActivityAt ≤ clock' ∧ number < runtime'.nextNumber) :
    (runtime'.withConnection number connection).Tracks clock' tracked' := by
  intro other logged hlogged
  rcases ServerRuntime.withConnection_cases hlogged with ⟨rfl, hsome⟩ | ⟨hother, hold⟩
  · exact replaced logged hsome
  · rw [others] at hold
    obtain ⟨htracked, hactive, hnumber⟩ := h other logged hold
    rw [kept other hother]
    exact ⟨htracked, UInt64.le_trans hactive hclock, hnumber.trans_le numbers⟩

/-- Time passes. -/
theorem ServerRuntime.Tracks.later {tracked : ℕ → List UInt64} (h : runtime.Tracks clock tracked)
    (hclock : clock ≤ clock') (others : runtime'.connections = runtime.connections)
    (numbers : runtime'.nextNumber = runtime.nextNumber) : runtime'.Tracks clock' tracked := by
  intro other logged hlogged
  rw [others] at hlogged
  rw [numbers]
  obtain ⟨htracked, hactive, hnumber⟩ := h other logged hlogged
  exact ⟨htracked, UInt64.le_trans hactive hclock, hnumber⟩

end Collection

section Runs

variable {runtime : ServerRuntime} {clock now : UInt64} {tracked : ℕ → List UInt64}
  {limits : LimitsConfig} {server server' : TimedServer}

/-- The sweep takes connections away. -/
theorem ServerRuntime.Tracks.sweep (h : runtime.Tracks clock tracked) (hclock : clock ≤ now) :
    (sweepExpiredConnections limits now runtime).Tracks now tracked := by
  have hclosed : ∀ numbers : List ℕ, ∀ {runtime : ServerRuntime}, runtime.Tracks now tracked →
      (runtime.run (numbers.map .close ++ [.sweep now])).Tracks now tracked := by
    intro numbers
    induction numbers with
    | nil => exact fun h => h.later (UInt64.le_refl _) rfl rfl
    | cons number numbers ih =>
      intro runtime h
      have hone : (runtime.step (.close number)).Tracks now tracked :=
        h.withConnection (UInt64.le_refl _) rfl le_rfl (fun _ _ => rfl) (by simp)
      exact ih hone
  exact hclosed _ (h.later hclock rfl rfl)

/-- Every event keeps track of every connection. -/
theorem TimedServer.tracks_serve {event : ServerEvent} {finish : UInt64}
    (h : server.runtime.Tracks server.clock server.admissions)
    (hclock : server.ClockRuns (.serve event finish)) :
    (server.runtime.step event).Tracks finish (server.noteAdmissions event) := by
  cases event with
  | accept peerAddress connectedAt =>
    obtain ⟨hearlier, hfinish⟩ := hclock
    refine h.withConnection (UInt64.le_trans hearlier hfinish) rfl (Nat.le_succ _)
      (fun _ hother => Function.update_of_ne hother ..) ?_
    intro logged hlogged
    obtain rfl := Option.some.inj hlogged
    rw [TimedServer.noteAdmissions, Function.update_self]
    exact ⟨⟨.inl rfl, UInt64.le_refl _, by simp⟩, hfinish, Nat.lt_succ_self _⟩
  | input number received stillOpen world =>
    have hclock : ∀ index, server.clock ≤ (world index).dispatchTimestamp ∧
        (world index).dispatchTimestamp ≤ (world (index + 1)).dispatchTimestamp ∧
        (world index).dispatchTimestamp ≤ finish := hclock
    have hfinish : server.clock ≤ finish := UInt64.le_trans (hclock 0).1 (hclock 0).2.2
    rw [ServerRuntime.step]
    split
    · next hnone =>
      have hsame : server.noteAdmissions (.input number received stillOpen world) =
          server.admissions := by
        cases stillOpen <;> simp [TimedServer.noteAdmissions, hnone]
      rw [hsame]
      exact h.later hfinish rfl rfl
    next logged hlogged =>
    obtain ⟨htracked, hactive, hnumber⟩ := h number logged hlogged
    cases stillOpen with
    | false =>
      exact h.withConnection hfinish rfl le_rfl (fun _ _ => rfl)
        (by simp [processConnectionInput])
    | true =>
      have hadmissions : server.noteAdmissions (.input number received true world) =
          Function.update server.admissions number (processBufferLog admissionTime world 0
            ((server.runtime.receiving logged.connection).withInput
              ((server.runtime.receiving logged.connection).inputBuffer ++ received))
            (server.admissions number)) := by
        simp [TimedServer.noteAdmissions, hlogged]
      rw [hadmissions]
      refine h.withConnection hfinish rfl le_rfl
        (fun _ hother => Function.update_of_ne hother ..) ?_
      intro left hleft
      split at hleft
      · next hopen =>
        obtain rfl := Option.some.inj hleft
        rw [Function.update_self]
        rw [processConnectionInput_open] at hopen ⊢
        have hstart : Tracked ((server.runtime.receiving logged.connection).withInput
            ((server.runtime.receiving logged.connection).inputBuffer ++
              received)).context.connection.session (server.admissions number) := htracked
        obtain ⟨hleft, hlast⟩ := hstart.processBuffer (fun index => (hclock index).2)
          (UInt64.le_trans hactive (hclock 0).1) hopen
        exact ⟨hleft, hlast, hnumber⟩
      · cases hleft
  | flush number count =>
    rw [ServerRuntime.step]
    split
    · exact h.later hclock rfl rfl
    · next logged hlogged =>
      refine h.withConnection hclock rfl le_rfl (fun _ _ => rfl) ?_
      intro left hleft
      obtain rfl := Option.some.inj hleft
      obtain ⟨htracked, hactive, hnumber⟩ := h number logged hlogged
      exact ⟨htracked, UInt64.le_trans hactive hclock, hnumber⟩
  | close number => exact h.withConnection hclock rfl le_rfl (fun _ _ => rfl) (by simp)
  | sweep now => exact h.later hclock rfl rfl
  | ban sqlFaults pubkey banned => exact h.later hclock rfl rfl

/-- What is recorded of a connection's admissions is its last activity, event after event. -/
theorem TimedServer.tracks_next {event : TimedEvent}
    (h : server.runtime.Tracks server.clock server.admissions) (hclock : server.ClockRuns event)
    (hnext : server.next limits event = some server') :
    server'.runtime.Tracks server'.clock server'.admissions := by
  cases event with
  | serve event finish =>
    obtain rfl := Option.some.inj hnext
    exact TimedServer.tracks_serve h hclock
  | sweepConnections now =>
    obtain rfl := Option.some.inj hnext
    exact h.sweep hclock

/-- A server that has just been started. -/
def TimedServer.start (config : ServerConfig) (staticPublic : X25519PublicKey)
    (staticSecret : X25519SecretKey) (policy : RatePolicy) (tables : Tables) (clock : UInt64) :
    TimedServer :=
  { runtime := ServerRuntime.start config staticPublic staticSecret policy tables, clock }

/-- In every state of every run whose clock does not go back: past
`handshake_timeout_seconds` from its acceptance, a connection that has not
authenticated is collected exactly when no frame was admitted on it within the
last `handshake_timeout_seconds`. -/
theorem unauthenticated_expiry (config : ServerConfig) (settings : ServerSettings)
    (staticPublic : X25519PublicKey) (staticSecret : X25519SecretKey) (policy : RatePolicy)
    (tables : Tables) (startedAt : UInt64) (events : List TimedEvent) (server : TimedServer)
    (hclock : Along (TimedServer.next settings.limits) TimedServer.ClockRuns
      (TimedServer.start config staticPublic staticSecret policy tables startedAt) events)
    (hrun : after (TimedServer.next settings.limits)
      (TimedServer.start config staticPublic staticSecret policy tables startedAt) events =
        some server)
    (number : ℕ) (logged : LoggedConnection)
    (hlogged : server.runtime.connections number = some logged)
    (hphase : logged.connection.session.phase ≠ .authenticated) (now : UInt64)
    (hlate : logged.connection.session.connectedAt.toNat +
      settings.limits.handshakeTimeoutSeconds.toNat < now.toNat) :
    number ∈ collectExpiredDescriptors server.runtime now settings.limits ↔
      ∀ time ∈ server.admissions number,
        time.toNat + settings.limits.handshakeTimeoutSeconds.toNat < now.toNat := by
  have hstart : (TimedServer.start config staticPublic staticSecret policy tables
      startedAt).runtime.Tracks startedAt fun _ => [] := by
    intro number logged hnone
    cases hnone
  obtain ⟨htracked, -, hnumber⟩ := after_invariant
    (I := fun server => server.runtime.Tracks server.clock server.admissions)
    (fun h hevent hnext => TimedServer.tracks_next h hevent hnext) hstart hclock hrun number logged hlogged
  rw [mem_collectExpiredDescriptors hnumber hlogged, SessionState.isExpired_iff hphase]
  exact htracked.over_iff hlate

/-! ## Two peers of the stand-in -/

/-- One message on connection 0, all of it at the given time. -/
def messageAt (time : UInt64) (message : ByteString) : TimedEvent :=
  .serve (.input 0 (appendLengthPrefixedMessage message) true fun _ =>
    { dispatchTimestamp := time, unixTimestamp := time
      ephemeral := some (FixedBytes.zero _, FixedBytes.zero _) }) time

omit [Sodium] in
/-- A message comes no earlier than what came before it. -/
theorem TimedServer.messageAt_clock {time : UInt64} {message : ByteString}
    (h : server.clock ≤ time) : server.ClockRuns (messageAt time message) :=
  fun _ => ⟨h, UInt64.le_refl _, UInt64.le_refl _⟩

/-- Accepted at time 0, and silent from the handshake on. -/
def silentRun : List TimedEvent :=
  [.serve (.accept [] 0) 0, messageAt 0 (List.replicate noiseHandshakeMessageSize 0)]

/-- Accepted at time 0, and nothing but a ping every eight seconds. -/
def pingingRun : List TimedEvent :=
  let ping := frameBytes .pingRequest (PingRequest.writeTo {}) ++ transparentTag
  silentRun ++ [messageAt 8 ping, messageAt 16 ping, messageAt 24 ping]

/-- The default limits behind one listener. -/
def clearnetSettings : ServerSettings :=
  { clearnet := { enabled := true, bindAddress := ascii "0.0.0.0", port := 4242 } }

/-- The server of the stand-in, with the configured rate limits. -/
def clearnetServer : TimedServer :=
  TimedServer.start {} (FixedBytes.zero _) (FixedBytes.zero _)
    { perAddress := clearnetSettings.limits.requestsPerMinutePerAddress
      perIdentity := clearnetSettings.limits.requestsPerMinutePerIdentity } {} 0

omit [Sodium] in
/-- The clock of that run goes forward. -/
theorem silentRun_clock :
    letI := transparentSodium
    Along (TimedServer.next clearnetSettings.limits) TimedServer.ClockRuns clearnetServer
      silentRun := by
  let _ := transparentSodium
  refine ⟨⟨UInt64.le_refl _, UInt64.le_refl _⟩, fun server hserver => ?_⟩
  obtain rfl := Option.some.inj hserver
  exact ⟨TimedServer.messageAt_clock (UInt64.le_refl _), fun _ _ => trivial⟩

omit [Sodium] in
/-- The silent one is collected. -/
theorem unauthenticated_expiry_silent :
    letI := transparentSodium
    ∃ server logged, after (TimedServer.next clearnetSettings.limits) clearnetServer silentRun =
        some server ∧ server.runtime.connections 0 = some logged ∧
      logged.connection.session.phase = .awaitingHello ∧
      0 ∈ collectExpiredDescriptors server.runtime 11 clearnetSettings.limits := by
  let _ := transparentSodium
  have hend : ((after (TimedServer.next clearnetSettings.limits) clearnetServer silentRun).bind
      fun server => (server.runtime.connections 0).map fun logged =>
        (logged.connection.session.phase, logged.connection.session.connectedAt,
          server.admissions 0)) = some (.awaitingHello, 0, []) := by
    decide +kernel
  obtain ⟨server, hserver, hconnection⟩ := Option.bind_eq_some_iff.mp hend
  obtain ⟨logged, hlogged, hsession⟩ := Option.map_eq_some_iff.mp hconnection
  obtain ⟨hphase, hsession⟩ := Prod.mk.inj hsession
  obtain ⟨hconnected, hadmissions⟩ := Prod.mk.inj hsession
  have hiff := unauthenticated_expiry _ clearnetSettings _ _ _ _ 0 silentRun server silentRun_clock
    hserver 0 logged hlogged (by simp [hphase]) 11 (by rw [hconnected]; decide)
  refine ⟨server, logged, hserver, hlogged, hphase, hiff.mpr ?_⟩
  simp [hadmissions]

omit [Sodium] in
/-- The pinging one is not, half a minute after it was accepted. -/
theorem pinging_connection_stays :
    letI := transparentSodium
    (validateConfig clearnetSettings).1 = true ∧
    Along (TimedServer.next clearnetSettings.limits) TimedServer.ClockRuns clearnetServer
      pingingRun ∧
    ∃ server logged, after (TimedServer.next clearnetSettings.limits) clearnetServer pingingRun =
        some server ∧ server.clock ≤ 30 ∧ server.runtime.connections 0 = some logged ∧
      logged.connection.session.phase = .awaitingHello ∧
      logged.connection.session.connectedAt.toNat +
        clearnetSettings.limits.handshakeTimeoutSeconds.toNat < 30 ∧
      0 ∉ collectExpiredDescriptors server.runtime 30 clearnetSettings.limits := by
  let _ := transparentSodium
  have hend : ((after (TimedServer.next clearnetSettings.limits) clearnetServer pingingRun).bind
      fun server => (server.runtime.connections 0).map fun logged =>
        (decide (server.clock ≤ 30), logged.connection.session.phase,
          logged.connection.session.connectedAt,
          decide (0 ∈ collectExpiredDescriptors server.runtime 30 clearnetSettings.limits))) =
        some (true, .awaitingHello, 0, false) := by
    decide +kernel
  obtain ⟨server, hserver, hconnection⟩ := Option.bind_eq_some_iff.mp hend
  obtain ⟨logged, hlogged, hsession⟩ := Option.map_eq_some_iff.mp hconnection
  simp only [Prod.mk.injEq, decide_eq_true_eq, decide_eq_false_iff_not] at hsession
  obtain ⟨hclock, hphase, hconnected, hkept⟩ := hsession
  refine ⟨by decide +kernel, ?_, server, logged, hserver, hclock, hlogged, hphase, ?_, hkept⟩
  · refine ⟨⟨UInt64.le_refl _, UInt64.le_refl _⟩, fun server hserver => ?_⟩
    obtain rfl := Option.some.inj hserver
    refine ⟨TimedServer.messageAt_clock (UInt64.le_refl _), fun server hserver => ?_⟩
    obtain rfl := Option.some.inj hserver
    refine ⟨TimedServer.messageAt_clock (by decide), fun server hserver => ?_⟩
    obtain rfl := Option.some.inj hserver
    refine ⟨TimedServer.messageAt_clock (by decide), fun server hserver => ?_⟩
    obtain rfl := Option.some.inj hserver
    exact ⟨TimedServer.messageAt_clock (by decide), fun _ _ => trivial⟩
  · rw [hconnected]
    decide

end Runs

end HyperCom
