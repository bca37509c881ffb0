import HyperCom.Lib.FixedWindow
import HyperCom.Server.Expiry

/-!
# The rate limits

`rate_limiter` counts in fixed windows of a minute, in tables that all connections
share and that `forget_expired_windows` purges. A purged window would have been
replaced by the next event anyway, so the purge does not show
(`forget_unobservable`), and neither does closing a connection and opening another
one (`rate_limit_bound`).

There are two tables, one for addresses and one for identities, and both are asked for every
frame. `Routed` ties what is counted to what happens: a frame that is handed to the router
has been admitted by both, and one that is not admitted is answered without the router being
called.
-/

namespace HyperCom

open FixedWindow StepRun

/-! ## `register_event` counts in fixed windows -/

/-- The duration of a window, in seconds. -/
def windowSeconds : ℕ := windowDurationSeconds.toNat

/-- The window of the library. -/
def RateWindow.toWindow (window : RateWindow) : Window :=
  { start := window.windowStart.toNat, count := window.counter.toNat }

section Windows

variable {maxEvents : UInt32} {now : UInt64} {window window' : RateWindow} {clock : ℕ}

/-- The window `register_event` counts in. -/
theorem currentWindow_toWindow (now : UInt64) (window : RateWindow) :
    (if now < window.windowStart || now - window.windowStart ≥ windowDurationSeconds then
      { counter := 0, windowStart := now } else window : RateWindow).toWindow =
      window.toWindow.current windowSeconds now.toNat := by
  have hreplaced : (now < window.windowStart || now - window.windowStart ≥ windowDurationSeconds) =
      true ↔ now.toNat < window.toWindow.start ∨
        windowSeconds ≤ now.toNat - window.toWindow.start := by
    simp only [Bool.or_eq_true, decide_eq_true_eq, UInt64.lt_iff_toNat_lt, ge_iff_le,
      UInt64.le_iff_toNat_le, RateWindow.toWindow, windowSeconds]
    rcases Nat.lt_or_ge now.toNat window.windowStart.toNat with hearly | hlate
    · simp [hearly]
    · rw [UInt64.toNat_sub_of_le _ _ (UInt64.le_iff_toNat_le.mpr hlate)]
  rw [Window.current]
  by_cases hover : now.toNat < window.toWindow.start ∨
      windowSeconds ≤ now.toNat - window.toWindow.start
  · rw [if_pos hover, if_pos (hreplaced.mpr hover)]
    rfl
  · rw [if_neg hover, if_neg fun htrue => hover (hreplaced.mp htrue)]

/-- With a limit, an event is registered as in the library. -/
theorem registerEvent_toWindow (hmax : maxEvents ≠ 0) (now : UInt64) (window : RateWindow) :
    ((registerEvent maxEvents now window).1, (registerEvent maxEvents now window).2.toWindow) =
      window.toWindow.register windowSeconds maxEvents.toNat now.toNat := by
  have hcurrent := currentWindow_toWindow now window
  rw [registerEvent, if_neg hmax, Window.register, ← hcurrent]
  generalize (if now < window.windowStart || now - window.windowStart ≥ windowDurationSeconds then
      { counter := 0, windowStart := now } else window : RateWindow) = current
  by_cases hfull : maxEvents ≤ current.counter
  · have hlimit : maxEvents.toNat ≤ current.toWindow.count := UInt32.le_iff_toNat_le.mp hfull
    rw [if_pos hfull, if_pos hlimit]
  · have hroom : current.counter.toNat < maxEvents.toNat :=
      not_le.mp fun hle => hfull (UInt32.le_iff_toNat_le.mpr hle)
    have hlimit : ¬ maxEvents.toNat ≤ current.toWindow.count := not_le.mpr hroom
    have hnext : (current.counter + 1).toNat = current.counter.toNat + 1 := by
      have hbound := maxEvents.toNat_lt
      rw [UInt32.toNat_add, UInt32.toNat_one, Nat.mod_eq_of_lt (by omega)]
    rw [if_neg hfull, if_neg hlimit]
    simp [RateWindow.toWindow, hnext]

/-- Without one, everything passes and nothing is counted. -/
theorem registerEvent_unlimited (now : UInt64) (window : RateWindow) :
    registerEvent 0 now window = (true, window) := rfl

/-- No event from `clock` on tells the two windows apart. -/
def RateWindow.AlikeFrom (clock : ℕ) (first second : RateWindow) : Prop :=
  Alike windowSeconds clock first.toWindow second.toWindow

/-- The purge leaves a window alike. -/
theorem RateWindow.unlessExpired_alike (now : UInt64) (window : RateWindow) :
    RateWindow.AlikeFrom now.toNat (window.unlessExpired now) window := by
  by_cases hexpired : now ≥ window.windowStart && now - window.windowStart ≥ expirySeconds
  · rw [RateWindow.unlessExpired, if_pos hexpired]
    simp only [Bool.and_eq_true, decide_eq_true_eq, ge_iff_le] at hexpired
    obtain ⟨hbegun, hage⟩ := hexpired
    -- two windows have passed since it was opened
    rw [UInt64.le_iff_toNat_le, UInt64.toNat_sub_of_le _ _ hbegun] at hage
    have hexpiry : expirySeconds.toNat = 2 * windowSeconds := rfl
    rw [UInt64.le_iff_toNat_le] at hbegun
    refine .inr ⟨?_, ?_⟩
    · change 0 + windowSeconds ≤ now.toNat
      omega
    · change window.windowStart.toNat + windowSeconds ≤ now.toNat
      omega
  · rw [RateWindow.unlessExpired, if_neg hexpired]
    exact .refl _

/-- Windows that are alike admit the same, and stay alike. -/
theorem RateWindow.AlikeFrom.registerEvent (h : RateWindow.AlikeFrom clock window window')
    (maxEvents : UInt32) (hclock : clock ≤ now.toNat) :
    (registerEvent maxEvents now window).1 = (registerEvent maxEvents now window').1 ∧
      RateWindow.AlikeFrom now.toNat (HyperCom.registerEvent maxEvents now window).2
        (HyperCom.registerEvent maxEvents now window').2 := by
  by_cases hmax : maxEvents = 0
  · rw [hmax, registerEvent_unlimited, registerEvent_unlimited]
    exact ⟨rfl, h.later hclock⟩
  · have hsame := h.register_eq maxEvents.toNat hclock
    rw [← registerEvent_toWindow hmax, ← registerEvent_toWindow hmax] at hsame
    obtain ⟨hdecision, hwindow⟩ := Prod.mk.inj hsame
    exact ⟨hdecision, .inl hwindow⟩

end Windows

/-! ## The purge does not show -/

/-- A call of `rate_tracker`, with the reading of the clock it is given. -/
inductive RateCall where
  | address (address : ByteString) (now : UInt64)
  | identity (userId : ℤ) (now : UInt64)
  | forget (now : UInt64)

namespace RateCall

def now : RateCall → UInt64
  | .address _ now => now
  | .identity _ now => now
  | .forget now => now

/-- It asks for a decision. -/
def isRequest : RateCall → Bool
  | .forget _ => false
  | _ => true

/-- What the call returns, and the tables it leaves. -/
def perform (policy : RatePolicy) : RateCall → Option Bool × RatePolicy
  | .address peer now =>
    let out := allowAddressRequest policy peer now
    (some out.1, out.2)
  | .identity userId now =>
    let out := allowIdentityRequest policy userId now
    (some out.1, out.2)
  | .forget now =>
    (none, { policy with tracker := forgetExpiredWindows policy.tracker now })

/-- The decisions of a sequence of calls. -/
def decisions (policy : RatePolicy) : List RateCall → List Bool
  | [] => []
  | call :: calls => (call.perform policy).1.toList ++ decisions (call.perform policy).2 calls

end RateCall

/-- Equal limits, and every two windows alike. -/
structure RatePolicy.AlikeFrom (clock : ℕ) (policy policy' : RatePolicy) : Prop where
  perAddress : policy.perAddress = policy'.perAddress
  perIdentity : policy.perIdentity = policy'.perIdentity
  byAddress : ∀ address, RateWindow.AlikeFrom clock (policy.tracker.byAddress address)
    (policy'.tracker.byAddress address)
  byIdentity : ∀ userId, RateWindow.AlikeFrom clock (policy.tracker.byIdentity userId)
    (policy'.tracker.byIdentity userId)

namespace RatePolicy.AlikeFrom

variable {policy policy' : RatePolicy} {clock clock' : ℕ} {now : UInt64}

theorem refl (clock : ℕ) (policy : RatePolicy) : policy.AlikeFrom clock policy :=
  ⟨rfl, rfl, fun _ => .refl _, fun _ => .refl _⟩

theorem later (h : policy.AlikeFrom clock policy') (hclock : clock ≤ clock') :
    policy.AlikeFrom clock' policy' :=
  { h with
    byAddress := fun address => (h.byAddress address).later hclock
    byIdentity := fun userId => (h.byIdentity userId).later hclock }

/-- The tables after the purge, against those before it. -/
theorem forget (h : policy.AlikeFrom clock policy') (hclock : clock ≤ now.toNat) :
    RatePolicy.AlikeFrom now.toNat
      { policy with tracker := forgetExpiredWindows policy.tracker now } policy' :=
  { h with
    byAddress := fun address =>
      (RateWindow.unlessExpired_alike now _).trans ((h.byAddress address).later hclock)
    byIdentity := fun userId =>
      (RateWindow.unlessExpired_alike now _).trans ((h.byIdentity userId).later hclock) }

/-- A window of one table is replaced in both. -/
theorem update_alike {κ : Type} [DecidableEq κ] {windows windows' : κ → RateWindow} {key : κ}
    {window window' : RateWindow} (h : ∀ other, RateWindow.AlikeFrom clock (windows other) (windows' other))
    (hkey : RateWindow.AlikeFrom clock window window') (other : κ) :
    RateWindow.AlikeFrom clock (Function.update windows key window other)
      (Function.update windows' key window' other) := by
  by_cases hother : other = key
  · rw [hother, Function.update_self, Function.update_self]
    exact hkey
  · rw [Function.update_of_ne hother, Function.update_of_ne hother]
    exact h other

theorem allowAddressRequest (h : policy.AlikeFrom clock policy') (hclock : clock ≤ now.toNat)
    (address : ByteString) :
    (allowAddressRequest policy address now).1 = (allowAddressRequest policy' address now).1 ∧
      (HyperCom.allowAddressRequest policy address now).2.AlikeFrom now.toNat
        (HyperCom.allowAddressRequest policy' address now).2 := by
  obtain ⟨hdecision, hwindow⟩ :=
    (h.byAddress address).registerEvent policy.perAddress hclock
  have hlater := h.later hclock
  simp only [HyperCom.allowAddressRequest, ← h.perAddress]
  exact ⟨hdecision, rfl, h.perIdentity, update_alike hlater.byAddress hwindow, hlater.byIdentity⟩

theorem allowIdentityRequest (h : policy.AlikeFrom clock policy') (hclock : clock ≤ now.toNat)
    (userId : ℤ) :
    (allowIdentityRequest policy userId now).1 = (allowIdentityRequest policy' userId now).1 ∧
      (HyperCom.allowIdentityRequest policy userId now).2.AlikeFrom now.toNat
        (HyperCom.allowIdentityRequest policy' userId now).2 := by
  by_cases hid : userId = 0
  · simp only [HyperCom.allowIdentityRequest, if_pos hid]
    exact ⟨trivial, h.later hclock⟩
  · obtain ⟨hdecision, hwindow⟩ :=
      (h.byIdentity userId).registerEvent policy.perIdentity hclock
    have hlater := h.later hclock
    simp only [HyperCom.allowIdentityRequest, if_neg hid, ← h.perIdentity]
    exact ⟨hdecision, h.perAddress, rfl, hlater.byAddress, update_alike hlater.byIdentity hwindow⟩

/-- A request is decided alike by both. -/
theorem perform (h : policy.AlikeFrom clock policy') {call : RateCall}
    (hclock : clock ≤ call.now.toNat) (hrequest : call.isRequest = true) :
    (call.perform policy).1 = (call.perform policy').1 ∧
      (call.perform policy).2.AlikeFrom call.now.toNat (call.perform policy').2 := by
  cases call with
  | address address now =>
    have hnow : clock ≤ now.toNat := hclock
    obtain ⟨hdecision, hleft⟩ := h.allowAddressRequest hnow address
    exact ⟨congrArg some hdecision, hleft⟩
  | identity userId now =>
    have hnow : clock ≤ now.toNat := hclock
    obtain ⟨hdecision, hleft⟩ := h.allowIdentityRequest hnow userId
    exact ⟨congrArg some hdecision, hleft⟩
  | forget now => cases hrequest

/-- So are all requests, when one side is purged in between. -/
theorem decisions_eq {calls : List RateCall} (h : policy.AlikeFrom clock policy')
    (hclock : ∀ call ∈ calls, clock ≤ call.now.toNat)
    (hsorted : calls.Pairwise fun call later => call.now ≤ later.now) :
    RateCall.decisions policy calls =
      RateCall.decisions policy' (calls.filter RateCall.isRequest) := by
  induction calls generalizing policy policy' clock with
  | nil => rfl
  | cons call calls ih =>
    obtain ⟨hlater, hordered⟩ := List.pairwise_cons.mp hsorted
    have hnow := hclock call List.mem_cons_self
    have hrest : ∀ later ∈ calls, call.now.toNat ≤ later.now.toNat := fun later hmem =>
      UInt64.le_iff_toNat_le.mp (hlater later hmem)
    cases hrequest : call.isRequest with
    | true =>
      obtain ⟨hdecision, hleft⟩ := h.perform hnow hrequest
      rw [List.filter_cons_of_pos hrequest, RateCall.decisions, RateCall.decisions, hdecision,
        ih hleft hrest hordered]
    | false =>
      obtain ⟨now, rfl⟩ : ∃ now, call = .forget now := by
        cases call with
        | address address now => cases hrequest
        | identity userId now => cases hrequest
        | forget now => exact ⟨now, rfl⟩
      rw [List.filter_cons_of_neg (by simp [hrequest]), RateCall.decisions]
      exact ih (h.forget hnow) hrest hordered

end RatePolicy.AlikeFrom

/-- Whatever the tables hold, the decisions are those of the requests alone,
wherever the purges stand between them. -/
theorem forget_unobservable (policy : RatePolicy) (calls : List RateCall)
    (hsorted : calls.Pairwise fun call later => call.now ≤ later.now) :
    RateCall.decisions policy calls =
      RateCall.decisions policy (calls.filter RateCall.isRequest) :=
  (RatePolicy.AlikeFrom.refl 0 policy).decisions_eq (fun _ _ => Nat.zero_le _) hsorted

/-- One request a minute, the window purged before the third. -/
theorem forget_unobservable_minute :
    RateCall.decisions { perAddress := 1, perIdentity := 1 }
      [.address [] 0, .address [] 59, .forget 120, .address [] 120] =
    RateCall.decisions { perAddress := 1, perIdentity := 1 }
      [.address [] 0, .address [] 59, .address [] 120] :=
  forget_unobservable _ [.address [] 0, .address [] 59, .forget 120, .address [] 120] (by decide)

/-! ## What is counted -/

/-- What a window says about the requests that were handed on, up to windows that
are alike. -/
def RateWindow.Meters (maxEvents : UInt32) (clock : ℕ) (window : RateWindow)
    (openings times : List ℕ) : Prop :=
  ∃ same : Window, Alike windowSeconds clock window.toWindow same ∧
    Counts windowSeconds maxEvents.toNat clock same openings times

namespace RateWindow.Meters

variable {maxEvents : UInt32} {clock clock' : ℕ} {now : UInt64} {window : RateWindow}
  {openings times : List ℕ}

theorem start (maxEvents : UInt32) (clock : ℕ) : RateWindow.Meters maxEvents clock {} [] [] :=
  ⟨{}, .refl _, .start ..⟩

theorem later (h : window.Meters maxEvents clock openings times) (hclock : clock ≤ clock') :
    window.Meters maxEvents clock' openings times := by
  obtain ⟨same, halike, hcounts⟩ := h
  exact ⟨same, halike.later hclock, hcounts.later hclock⟩

theorem forget (h : window.Meters maxEvents clock openings times) (hclock : clock ≤ now.toNat) :
    (window.unlessExpired now).Meters maxEvents now.toNat openings times := by
  obtain ⟨same, halike, hcounts⟩ := h
  exact ⟨same, (unlessExpired_alike now window).trans (halike.later hclock), hcounts.later hclock⟩

/-- One `register_event`; `handed` says whether the request is handed on. -/
theorem register (hmax : maxEvents ≠ 0) (h : window.Meters maxEvents clock openings times)
    (hclock : clock ≤ now.toNat) {handed : Bool}
    (hallowed : handed = true → (registerEvent maxEvents now window).1 = true) :
    (registerEvent maxEvents now window).2.Meters maxEvents now.toNat
      (openings ++ [(registerEvent maxEvents now window).2.windowStart.toNat])
      (if handed then times ++ [now.toNat] else times) := by
  obtain ⟨same, halike, hcounts⟩ := h
  have hsame := registerEvent_toWindow hmax now window
  rw [halike.register_eq maxEvents.toNat hclock] at hsame
  obtain ⟨hdecision, hwindow⟩ := Prod.mk.inj hsame
  rw [hdecision] at hallowed
  have hstart : (registerEvent maxEvents now window).2.windowStart.toNat =
      (same.register windowSeconds maxEvents.toNat now.toNat).2.start :=
    congrArg Window.start hwindow
  rw [hstart]
  exact ⟨_, .inl hwindow, hcounts.register (by decide) hclock hallowed⟩

end RateWindow.Meters

/-- A frame that got to the rate limits: whose it is, when it came, the starts of
the windows it was counted in, and whether it was handed to `route_message`. The
window of the identity is only asked for behind that of the address. -/
structure CountedFrame where
  /-- where it came from, and for whom -/
  address : ByteString
  userId : ℤ
  time : UInt64
  /-- the windows it was counted in -/
  addressWindow : UInt64
  identityWindow : Option UInt64
  /-- whether both limits let it through -/
  handed : Bool

/-- What `dispatch_application_frame` counts. -/
def countFrame (session : SessionState) (policy : RatePolicy) (now : UInt64) (frame : ByteString) :
    List CountedFrame :=
  let out := admitFrame session policy now frame
  let entry (handed : Bool) : CountedFrame :=
    { address := session.peerAddress
      userId := session.userId
      time := now
      addressWindow := (out.2.tracker.byAddress session.peerAddress).windowStart
      identityWindow :=
        if session.userId ≠ 0 && (allowAddressRequest policy session.peerAddress now).1 then
          some (out.2.tracker.byIdentity session.userId).windowStart
        else none
      handed }
  match out.1 with
  | .rejected => []
  | .limited => [entry false]
  | .admitted _ _ => [entry true]

/-- How a frame is counted: against its address, and then against its identity. -/
structure CountedBy (session : SessionState) (policy : RatePolicy) (now : UInt64)
    (policy' : RatePolicy) (entry : CountedFrame) : Prop where
  /-- the limits stay as they are configured -/
  perAddress : policy'.perAddress = policy.perAddress
  perIdentity : policy'.perIdentity = policy.perIdentity
  /-- the frame is counted for its own session -/
  own : entry.address = session.peerAddress ∧ entry.userId = session.userId ∧ entry.time = now
  byAddress : policy'.tracker.byAddress = Function.update policy.tracker.byAddress
    session.peerAddress (registerEvent policy.perAddress now
      (policy.tracker.byAddress session.peerAddress)).2
  addressWindow : entry.addressWindow = (registerEvent policy.perAddress now
    (policy.tracker.byAddress session.peerAddress)).2.windowStart
  addressAllowed : entry.handed = true → (registerEvent policy.perAddress now
    (policy.tracker.byAddress session.peerAddress)).1 = true
  /-- for an identity only if there is one, and the address has let the frame through -/
  identity : (entry.identityWindow = none ∧
      policy'.tracker.byIdentity = policy.tracker.byIdentity ∧
      (session.userId ≠ 0 → entry.handed = false)) ∨
    (policy'.tracker.byIdentity = Function.update policy.tracker.byIdentity session.userId
        (registerEvent policy.perIdentity now (policy.tracker.byIdentity session.userId)).2 ∧
      entry.identityWindow = some (registerEvent policy.perIdentity now
        (policy.tracker.byIdentity session.userId)).2.windowStart ∧
      (entry.handed = true → (registerEvent policy.perIdentity now
        (policy.tracker.byIdentity session.userId)).1 = true))

/-- A frame is not counted, or counted once. -/
theorem countFrame_cases (session : SessionState) (policy : RatePolicy) (now : UInt64)
    (frame : ByteString) :
    (countFrame session policy now frame = [] ∧ (admitFrame session policy now frame).2 = policy) ∨
      ∃ entry, countFrame session policy now frame = [entry] ∧
        CountedBy session policy now (admitFrame session policy now frame).2 entry := by
  cases hheader : decodeFrameHeader frame with
  | none =>
    left
    simp [countFrame, admitFrame, hheader]
  | some header =>
    by_cases hlength : frame.length ≠ frameLengthFieldSize + header.bodySize.toNat
    · left
      simp [countFrame, admitFrame, hheader, hlength]
    right
    rcases haddress : registerEvent policy.perAddress now
      (policy.tracker.byAddress session.peerAddress) with ⟨allowed, window⟩
    have hallow : allowAddressRequest policy session.peerAddress now = (allowed, { policy with
        tracker := { policy.tracker with
          byAddress := Function.update policy.tracker.byAddress session.peerAddress window } }) := by
      rw [allowAddressRequest, haddress]
    have hself : Function.update policy.tracker.byAddress session.peerAddress window
        session.peerAddress = window := Function.update_self ..
    cases allowed with
    | false =>
      have hruling : admitFrame session policy now frame = (.limited, { policy with
          tracker := { policy.tracker with
            byAddress := Function.update policy.tracker.byAddress session.peerAddress window } }) := by
        simp [admitFrame, hheader, hlength, hallow]
      refine ⟨{ address := session.peerAddress, userId := session.userId, time := now
                addressWindow := window.windowStart, identityWindow := none, handed := false },
        by simp [countFrame, hruling, hallow], ?_⟩
      rw [hruling]
      exact ⟨rfl, rfl, ⟨rfl, rfl, rfl⟩, by rw [haddress], by rw [haddress],
        (fun hhanded => by cases hhanded), .inl ⟨rfl, rfl, fun _ => rfl⟩⟩
    | true =>
      by_cases hid : session.userId = 0
      · have hruling : admitFrame session policy now frame =
            (.admitted header.type (ByteReader.start (frame.drop frameHeaderSize)), { policy with
              tracker := { policy.tracker with
                byAddress := Function.update policy.tracker.byAddress session.peerAddress
                  window } }) := by
          simp [admitFrame, hheader, hlength, hallow, allowIdentityRequest, hid]
        refine ⟨{ address := session.peerAddress, userId := session.userId, time := now
                  addressWindow := window.windowStart, identityWindow := none, handed := true },
          by simp [countFrame, hruling, hid], ?_⟩
        rw [hruling]
        exact ⟨rfl, rfl, ⟨rfl, rfl, rfl⟩, by rw [haddress], by rw [haddress], by rw [haddress]; simp,
          .inl ⟨rfl, rfl, fun hother => absurd hid hother⟩⟩
      · rcases hidentity : registerEvent policy.perIdentity now
          (policy.tracker.byIdentity session.userId) with ⟨passed, identityWindow⟩
        have hruling : admitFrame session policy now frame =
            (if passed then .admitted header.type (ByteReader.start (frame.drop frameHeaderSize))
              else .limited,
              { policy with tracker :=
                { byAddress := Function.update policy.tracker.byAddress session.peerAddress window
                  byIdentity := Function.update policy.tracker.byIdentity session.userId
                    identityWindow } }) := by
          cases passed <;>
            simp [admitFrame, hheader, hlength, hallow, allowIdentityRequest, hid, hidentity]
        refine ⟨{ address := session.peerAddress, userId := session.userId, time := now
                  addressWindow := window.windowStart
                  identityWindow := some identityWindow.windowStart, handed := passed }, ?_, ?_⟩
        · cases passed <;> simp [countFrame, hruling, hid, hallow]
        · rw [hruling]
          exact ⟨rfl, rfl, ⟨rfl, rfl, rfl⟩, by rw [haddress], by rw [haddress],
            by rw [haddress]; simp, .inr ⟨by rw [hidentity], by rw [hidentity], by rw [hidentity]; simp⟩⟩

/-- What a limit is kept for. -/
inductive RateKey where
  | address (address : ByteString)
  | identity (userId : ℤ) (registered : userId ≠ 0)

namespace RateKey

/-- Its limit. -/
def limit (policy : RatePolicy) : RateKey → UInt32
  | .address _ => policy.perAddress
  | .identity _ _ => policy.perIdentity

/-- Its window. -/
def window (tracker : RateTracker) : RateKey → RateWindow
  | .address peer => tracker.byAddress peer
  | .identity userId _ => tracker.byIdentity userId

/-- The frame is its own. -/
def owns (frame : CountedFrame) : RateKey → Bool
  | .address peer => frame.address = peer
  | .identity userId _ => frame.userId = userId

/-- The window its frame was counted in. -/
def windowOf (frame : CountedFrame) : RateKey → Option UInt64
  | .address _ => some frame.addressWindow
  | .identity _ _ => frame.identityWindow

/-- When its frames were handed on. -/
def times (key : RateKey) (counted : List CountedFrame) : List ℕ :=
  (counted.filter fun frame => key.owns frame && frame.handed).map fun frame => frame.time.toNat

/-- The starts of its windows. -/
def openings (key : RateKey) (counted : List CountedFrame) : List ℕ :=
  (counted.filter key.owns).filterMap fun frame => (key.windowOf frame).map UInt64.toNat

/-- The log goes by the frames, so it can be read in two parts. -/
theorem times_append (key : RateKey) (counted later : List CountedFrame) :
    key.times (counted ++ later) = key.times counted ++ key.times later := by
  simp [times]

/-- The same of the openings of windows. -/
theorem openings_append (key : RateKey) (counted later : List CountedFrame) :
    key.openings (counted ++ later) = key.openings counted ++ key.openings later := by
  simp [openings]

/-- A frame of another key. -/
theorem singleton_other {key : RateKey} {frame : CountedFrame} (h : key.owns frame = false) :
    key.times [frame] = [] ∧ key.openings [frame] = [] := by
  simp [times, openings, h]

/-- One of its own. -/
theorem singleton_own {key : RateKey} {frame : CountedFrame} (h : key.owns frame = true) :
    key.times [frame] = (if frame.handed then [frame.time.toNat] else []) ∧
      key.openings [frame] = ((key.windowOf frame).map UInt64.toNat).toList := by
  constructor
  · cases hhanded : frame.handed <;> simp [times, h, hhanded]
  · cases hwindow : key.windowOf frame <;> simp [openings, h, hwindow]

end RateKey

/-- Every limited window meters the frames that were counted. -/
def RatePolicy.Meters (clock : ℕ) (policy : RatePolicy) (counted : List CountedFrame) : Prop :=
  ∀ key : RateKey, key.limit policy ≠ 0 →
    (key.window policy.tracker).Meters (key.limit policy) clock (key.openings counted)
      (key.times counted)

namespace CountedBy

variable {session : SessionState} {policy policy' : RatePolicy} {now : UInt64} {entry : CountedFrame}
  {key : RateKey}

theorem limit (h : CountedBy session policy now policy' entry) :
    key.limit policy' = key.limit policy := by
  cases key with
  | address peer => exact h.perAddress
  | identity userId registered => exact h.perIdentity

/-- The windows of others stay as they are. -/
theorem window_other (h : CountedBy session policy now policy' entry)
    (hown : key.owns entry = false) : key.window policy'.tracker = key.window policy.tracker := by
  obtain ⟨haddress, huser, -⟩ := h.own
  cases key with
  | address peer =>
    have hother : peer ≠ session.peerAddress := by
      rintro rfl
      simp [RateKey.owns, haddress] at hown
    rw [RateKey.window, h.byAddress, Function.update_of_ne hother]
    rfl
  | identity userId registered =>
    have hother : userId ≠ session.userId := by
      rintro rfl
      simp [RateKey.owns, huser] at hown
    rcases h.identity with ⟨-, hsame, -⟩ | ⟨hupdated, -, -⟩
    · rw [RateKey.window, hsame]
      rfl
    · rw [RateKey.window, hupdated, Function.update_of_ne hother]
      rfl

/-- Its own window meters the frame. -/
theorem meters_own {clock : ℕ} {openings times : List ℕ}
    (h : CountedBy session policy now policy' entry) (hown : key.owns entry = true)
    (hlimit : key.limit policy ≠ 0)
    (hbefore : (key.window policy.tracker).Meters (key.limit policy) clock openings times)
    (hclock : clock ≤ now.toNat) :
    (key.window policy'.tracker).Meters (key.limit policy) now.toNat
      (openings ++ ((key.windowOf entry).map UInt64.toNat).toList)
      (times ++ if entry.handed then [entry.time.toNat] else []) := by
  obtain ⟨haddress, huser, htime⟩ := h.own
  have hpush : (times ++ if entry.handed then [entry.time.toNat] else []) =
      if entry.handed then times ++ [now.toNat] else times := by
    rw [htime]
    cases entry.handed <;> simp
  rw [hpush]
  cases key with
  | address peer =>
    obtain rfl : peer = session.peerAddress := by
      simpa [RateKey.owns, haddress, eq_comm] using hown
    rw [RateKey.window, h.byAddress, Function.update_self, RateKey.windowOf, Option.map_some,
      Option.toList_some, h.addressWindow]
    exact RateWindow.Meters.register hlimit hbefore hclock h.addressAllowed
  | identity userId registered =>
    obtain rfl : userId = session.userId := by
      simpa [RateKey.owns, huser, eq_comm] using hown
    rcases h.identity with ⟨hnone, hsame, hrefused⟩ | ⟨hupdated, hsome, hallowed⟩
    · -- refused for its address: the identity is not looked at
      rw [RateKey.window, hsame, RateKey.windowOf, hnone, hrefused registered]
      simp only [Option.map_none, Option.toList_none, List.append_nil, Bool.false_eq_true,
        if_false]
      exact hbefore.later hclock
    · rw [RateKey.window, hupdated, Function.update_self, RateKey.windowOf, hsome,
        Option.map_some, Option.toList_some]
      exact RateWindow.Meters.register hlimit hbefore hclock hallowed

end CountedBy

namespace RatePolicy.Meters

variable {policy policy' : RatePolicy} {clock clock' : ℕ} {now : UInt64}
  {counted : List CountedFrame} {session : SessionState} {frame : ByteString}

theorem later (h : policy.Meters clock counted) (hclock : clock ≤ clock') :
    policy.Meters clock' counted :=
  fun key hlimit => (h key hlimit).later hclock

theorem forget (h : policy.Meters clock counted) (hclock : clock ≤ now.toNat) :
    RatePolicy.Meters now.toNat
      { policy with tracker := forgetExpiredWindows policy.tracker now } counted := by
  intro key hlimit
  cases key with
  | address peer => exact (h (.address peer) hlimit).forget hclock
  | identity userId registered => exact (h (.identity userId registered) hlimit).forget hclock

/-- Another frame is counted. -/
theorem countFrame (h : policy.Meters clock counted) (hclock : clock ≤ now.toNat)
    (session : SessionState) (frame : ByteString) :
    (admitFrame session policy now frame).2.Meters now.toNat
      (counted ++ HyperCom.countFrame session policy now frame) := by
  rcases countFrame_cases session policy now frame with ⟨hnone, hsame⟩ | ⟨entry, hone, hcounted⟩
  · rw [hnone, hsame, List.append_nil]
    exact h.later hclock
  rw [hone]
  generalize (admitFrame session policy now frame).2 = policy' at hcounted ⊢
  intro key hlimit
  rw [hcounted.limit] at hlimit ⊢
  rw [RateKey.times_append, RateKey.openings_append]
  cases hown : key.owns entry with
  | false =>
    obtain ⟨htimes, hopenings⟩ := RateKey.singleton_other hown
    rw [htimes, hopenings, List.append_nil, List.append_nil, hcounted.window_other hown]
    exact (h key hlimit).later hclock
  | true =>
    obtain ⟨htimes, hopenings⟩ := RateKey.singleton_own hown
    rw [htimes, hopenings]
    exact hcounted.meters_own hown hlimit (h key hlimit) hclock

/-- Counting changes counts, and no limit. -/
theorem admitFrame_limits (session : SessionState) (policy : RatePolicy) (now : UInt64)
    (frame : ByteString) :
    (admitFrame session policy now frame).2.perAddress = policy.perAddress ∧
      (admitFrame session policy now frame).2.perIdentity = policy.perIdentity := by
  rcases countFrame_cases session policy now frame with ⟨-, hsame⟩ | ⟨entry, -, hcounted⟩
  · rw [hsame]
    exact ⟨rfl, rfl⟩
  · exact ⟨hcounted.perAddress, hcounted.perIdentity⟩

end RatePolicy.Meters

/-! ## A server that keeps count -/

section Server

variable [Sodium]

/-- The frame of a message as it is counted, if the message opens. -/
def countMessage (state : ProcessorState) (message : ByteString) : List CountedFrame :=
  match (state.context.connection.channel.openMessage message).1 with
  | none => []
  | some frame => countFrame state.context.connection.session state.policy
      state.context.ambient.dispatchTimestamp frame

/-- What a message comes to that does not get to `route_message`: a step of the
handshake, a closed connection, or the refusal of the rate limits. -/
inductive Unrouted (state : ProcessorState) : Bool × ProcessorState → Prop where
  /-- before there is a session -/
  | handshake (message : ByteString) :
      Unrouted state ((advanceHandshake state.context message).1,
        { state with context := (advanceHandshake state.context message).2 })
  /-- a message that cannot be opened, or is no frame -/
  | closed (channel : NoiseChannel) (policy : RatePolicy) :
      Unrouted state (false, { context := state.context.withChannel channel, policy })
  /-- a frame too many -/
  | limited (channel : NoiseChannel) (policy : RatePolicy) :
      Unrouted state ((sendStatusError (state.context.withChannel channel) .rateLimited).1,
        { context := (sendStatusError (state.context.withChannel channel) .rateLimited).2, policy })

/-- The answer of `route_message` to the frame of a message. -/
inductive Routed (state : ProcessorState) : Bool × ProcessorState → Prop where
  | answered (channel : NoiseChannel) (policy : RatePolicy) (type : MessageType)
      (reader : ByteReader) :
      Routed state ((routeMessage (state.context.withChannel channel).noteActivity type reader).1,
        { context := (routeMessage (state.context.withChannel channel).noteActivity type reader).2
          policy })

/-- The frames that count as handed on are the ones that `route_message` gets. -/
structure HandedToRoute (state : ProcessorState) (message : ByteString) : Prop where
  /-- a frame that is counted as handed over is routed -/
  routed : (∃ frame ∈ countMessage state message, frame.handed = true) →
    Routed state (processMessage state message)
  /-- and one that is not, is not -/
  unrouted : (∀ frame ∈ countMessage state message, frame.handed = false) →
    Unrouted state (processMessage state message)

/-- The verdict that is logged is the one that the processor goes by. -/
theorem processMessage_handed (state : ProcessorState) (message : ByteString) :
    HandedToRoute state message := by
  have houtcome := processMessage_outcome state message
  constructor
  · rintro ⟨counted, hcounted, hhanded⟩
    generalize processMessage state message = out at houtcome ⊢
    cases houtcome with
    | handshake fresh =>
      simp [countMessage, NoiseChannel.openMessage, fresh] at hcounted
    | unopened opened =>
      simp [countMessage, opened] at hcounted
    | rejected opened admission =>
      simp [countMessage, countFrame, opened, admission] at hcounted
    | limited opened admission =>
      simp only [countMessage, countFrame, opened, admission, List.mem_singleton] at hcounted
      rw [hcounted] at hhanded
      cases hhanded
    | routed opened admission => exact .answered ..
  · intro hnone
    generalize processMessage state message = out at houtcome ⊢
    cases houtcome with
    | handshake fresh => exact .handshake _
    | unopened opened => exact .closed _ state.policy
    | rejected opened admission => exact .closed ..
    | limited opened admission => exact .limited ..
    | routed opened admission =>
      simp [countMessage, countFrame, opened, admission] at hnone

section Loop

variable {state : ProcessorState} {clock : ℕ} {counted : List CountedFrame}

/-- The limits themselves never change. -/
theorem processMessage_limits (state : ProcessorState) (message : ByteString) :
    (HyperCom.processMessage state message).2.policy.perAddress = state.policy.perAddress ∧
      (HyperCom.processMessage state message).2.policy.perIdentity = state.policy.perIdentity := by
  have houtcome := processMessage_outcome state message
  generalize HyperCom.processMessage state message = out at houtcome ⊢
  have hruling : ∀ {frame : ByteString} {admission : Admission} {policy : RatePolicy},
      admitFrame state.context.connection.session state.policy
        state.context.ambient.dispatchTimestamp frame = (admission, policy) →
      policy.perAddress = state.policy.perAddress ∧
        policy.perIdentity = state.policy.perIdentity := by
    intro frame admission policy hadmission
    have hlimits := RatePolicy.Meters.admitFrame_limits state.context.connection.session
      state.policy state.context.ambient.dispatchTimestamp frame
    rwa [hadmission] at hlimits
  cases houtcome with
  | handshake fresh => exact ⟨rfl, rfl⟩
  | unopened opened => exact ⟨rfl, rfl⟩
  | rejected opened admission => exact hruling admission
  | limited opened admission => exact hruling admission
  | routed opened admission => exact hruling admission

/-- Handling a message counts its frame. -/
theorem RatePolicy.Meters.processMessage (message : ByteString)
    (h : state.policy.Meters clock counted)
    (hclock : clock ≤ state.context.ambient.dispatchTimestamp.toNat) :
    (HyperCom.processMessage state message).2.policy.Meters
      state.context.ambient.dispatchTimestamp.toNat (counted ++ countMessage state message) := by
  have houtcome := processMessage_outcome state message
  generalize HyperCom.processMessage state message = out at houtcome ⊢
  have hruling : ∀ {frame : ByteString} {channel : NoiseChannel} {admission : Admission}
      {policy : RatePolicy},
      state.context.connection.channel.openMessage message = (some frame, channel) →
      admitFrame state.context.connection.session state.policy
        state.context.ambient.dispatchTimestamp frame = (admission, policy) →
      policy.Meters state.context.ambient.dispatchTimestamp.toNat
        (counted ++ countMessage state message) := by
    intro frame channel admission policy opened admission
    have hcounted := h.countFrame hclock state.context.connection.session frame
    rw [admission] at hcounted
    simpa [countMessage, opened] using hcounted
  cases houtcome with
  | handshake fresh =>
    have hnone : countMessage state message = [] := by
      simp [countMessage, NoiseChannel.openMessage, fresh]
    rw [hnone, List.append_nil]
    exact h.later hclock
  | unopened opened =>
    have hnone : countMessage state message = [] := by
      simp [countMessage, opened]
    rw [hnone, List.append_nil]
    exact h.later hclock
  | rejected opened admission => exact hruling opened admission
  | limited opened admission => exact hruling opened admission
  | routed opened admission => exact hruling opened admission

/-- So does the loop, whether or not the connection survives it. -/
theorem RatePolicy.Meters.processBuffer {world : ℕ → Ambient} {finish : UInt64}
    (hworld : ∀ index, (world index).dispatchTimestamp ≤ (world (index + 1)).dispatchTimestamp ∧
      (world index).dispatchTimestamp ≤ finish) {index : ℕ}
    (h : state.policy.Meters clock counted)
    (hclock : clock ≤ (world index).dispatchTimestamp.toNat) :
    (HyperCom.processBuffer world index state).2.policy.Meters finish.toNat
      (processBufferLog countMessage world index state counted) := by
  have hfinish : ∀ index, (world index).dispatchTimestamp.toNat ≤ finish.toNat := fun index =>
    UInt64.le_iff_toNat_le.mp (hworld index).2
  induction index, state using processBuffer_rec world generalizing counted clock with
  | incomplete index state hextract =>
    rw [processBuffer_incomplete hextract, processBufferLog_incomplete hextract]
    exact h.later (hclock.trans (hfinish index))
  | malformed index state hextract =>
    rw [processBuffer_malformed hextract, processBufferLog_malformed hextract]
    exact h.later (hclock.trans (hfinish index))
  | message index state message rest hextract ih =>
    have hentered : ((state.withInput rest).enter (world index)).policy.Meters clock counted := h
    have hnext := hentered.processMessage message hclock
    rw [processBuffer_message hextract]
    by_cases hout : (HyperCom.processMessage ((state.withInput rest).enter (world index))
        message).1 = true
    · rw [if_pos hout, processBufferLog_message hextract hout]
      exact ih hnext (UInt64.le_iff_toNat_le.mp (hworld index).1)
    · rw [if_neg hout, processBufferLog_closed hextract hout]
      exact hnext.later (hfinish index)

end Loop

/-- The timed server, and every frame that was counted since it was started, on
whatever connection. -/
structure MeteredServer where
  timed : TimedServer
  counted : List CountedFrame := []

namespace MeteredServer

/-- The clock does not go back, for the purges neither. -/
def ClockRuns (server : MeteredServer) (event : TimedEvent) : Prop :=
  server.timed.ClockRuns event ∧
    match event with
    | .serve (.sweep now) finish => server.timed.clock ≤ now ∧ now ≤ finish
    | _ => True

/-- The frames counted after an event. -/
def noteCounted (server : MeteredServer) : TimedEvent → List CountedFrame
  | .serve (.input number received true world) _ =>
    match server.timed.runtime.connections number with
    | none => server.counted
    | some logged =>
      let state := server.timed.runtime.receiving logged.connection
      processBufferLog countMessage world 0 (state.withInput (state.inputBuffer ++ received))
        server.counted
  | _ => server.counted

/-- One event of the server, which never stops. -/
def next (limits : LimitsConfig) (server : MeteredServer) (event : TimedEvent) :
    Option MeteredServer :=
  (server.timed.next limits event).map fun timed => { timed, counted := server.noteCounted event }

/-- A server that has just been started, with these limits. -/
def start (config : ServerConfig) (staticPublic : X25519PublicKey)
    (staticSecret : X25519SecretKey) (perAddress perIdentity : UInt32) (tables : Tables)
    (clock : UInt64) : MeteredServer :=
  { timed := TimedServer.start config staticPublic staticSecret { perAddress, perIdentity } tables
      clock }

/-- All frames counted so far are metered. -/
def Metered (server : MeteredServer) : Prop :=
  server.timed.runtime.policy.Meters server.timed.clock.toNat server.counted

/-- The sweep purges the windows, whatever it closes. -/
theorem sweepExpiredConnections_policy (limits : LimitsConfig) (now : UInt64)
    (runtime : ServerRuntime) :
    (sweepExpiredConnections limits now runtime).policy =
      { runtime.policy with tracker := forgetExpiredWindows runtime.policy.tracker now } := by
  have hclosed : ∀ numbers : List ℕ, ∀ runtime : ServerRuntime,
      (runtime.run (numbers.map .close ++ [.sweep now])).policy =
        { runtime.policy with tracker := forgetExpiredWindows runtime.policy.tracker now } := by
    intro numbers
    induction numbers with
    | nil => exact fun runtime => rfl
    | cons number numbers ih => exact fun runtime => ih (runtime.step (.close number))
  exact hclosed _ runtime

variable {server server' : MeteredServer} {event : TimedEvent} {limits : LimitsConfig}

/-- Input is metered, on whatever connection. -/
theorem Metered.input (h : server.Metered) {number : ℕ} {received : ByteString} {stillOpen : Bool}
    {world : ℕ → Ambient} {finish : UInt64}
    (hclock : server.timed.ClockRuns (.serve (.input number received stillOpen world) finish)) :
    (server.timed.runtime.step (.input number received stillOpen world)).policy.Meters finish.toNat
      (server.noteCounted (.serve (.input number received stillOpen world) finish)) := by
  have hworld : ∀ index, server.timed.clock ≤ (world index).dispatchTimestamp ∧
      (world index).dispatchTimestamp ≤ (world (index + 1)).dispatchTimestamp ∧
      (world index).dispatchTimestamp ≤ finish := hclock
  have hstart := UInt64.le_iff_toNat_le.mp (hworld 0).1
  have hfinish : server.timed.clock.toNat ≤ finish.toNat :=
    hstart.trans (UInt64.le_iff_toNat_le.mp (hworld 0).2.2)
  cases hconnection : server.timed.runtime.connections number with
  | none =>
    have hsame : server.noteCounted (.serve (.input number received stillOpen world) finish) =
        server.counted := by
      cases stillOpen <;> simp [noteCounted, hconnection]
    rw [hsame, ServerRuntime.step, hconnection]
    exact h.later hfinish
  | some logged =>
    rw [ServerRuntime.step, hconnection]
    cases stillOpen with
    | false => exact h.later hfinish
    | true =>
      have hcounted : server.noteCounted (.serve (.input number received true world) finish) =
          processBufferLog countMessage world 0
            ((server.timed.runtime.receiving logged.connection).withInput
              ((server.timed.runtime.receiving logged.connection).inputBuffer ++ received))
            server.counted := by
        simp [noteCounted, hconnection]
      have hpolicy : (server.timed.runtime.serviceInput number logged received true world).policy =
          (HyperCom.processBuffer world 0
            ((server.timed.runtime.receiving logged.connection).withInput
              ((server.timed.runtime.receiving logged.connection).inputBuffer ++
                received))).2.policy := by
        rw [ServerRuntime.serviceInput, processConnectionInput_open]
        rfl
      have hreceiving : ((server.timed.runtime.receiving logged.connection).withInput
          ((server.timed.runtime.receiving logged.connection).inputBuffer ++
            received)).policy.Meters server.timed.clock.toNat server.counted := h
      change (server.timed.runtime.serviceInput number logged received true world).policy.Meters
        finish.toNat _
      rw [hcounted, hpolicy]
      exact hreceiving.processBuffer (fun index => (hworld index).2) hstart

/-- Every event is metered. -/
theorem Metered.next (h : server.Metered) (hclock : server.ClockRuns event)
    (hnext : server.next limits event = some server') : server'.Metered := by
  obtain ⟨hruns, hsweep⟩ := hclock
  cases event with
  | sweepConnections now =>
    obtain rfl := Option.some.inj hnext
    have hlater : server.timed.clock.toNat ≤ now.toNat := UInt64.le_iff_toNat_le.mp hruns
    rw [Metered, sweepExpiredConnections_policy]
    exact RatePolicy.Meters.forget h hlater
  | serve event finish =>
    obtain rfl := Option.some.inj hnext
    cases event with
    | input number received stillOpen world => exact h.input hruns
    | accept peerAddress connectedAt =>
      exact h.later (UInt64.le_iff_toNat_le.mp (UInt64.le_trans hruns.1 hruns.2))
    | flush number count =>
      have hlater : server.timed.clock.toNat ≤ finish.toNat := UInt64.le_iff_toNat_le.mp hruns
      have hpolicy : (server.timed.runtime.step (.flush number count)).policy =
          server.timed.runtime.policy := by
        rw [ServerRuntime.step]
        split <;> rfl
      rw [Metered, hpolicy]
      exact h.later hlater
    | close number => exact h.later (UInt64.le_iff_toNat_le.mp hruns)
    | sweep now =>
      have hpurged := RatePolicy.Meters.forget h (UInt64.le_iff_toNat_le.mp hsweep.1)
      exact hpurged.later (UInt64.le_iff_toNat_le.mp hsweep.2)
    | ban sqlFaults pubkey banned => exact h.later (UInt64.le_iff_toNat_le.mp hruns)

/-- Nothing changes the limits. -/
theorem next_limits (hnext : server.next limits event = some server') :
    server'.timed.runtime.policy.perAddress = server.timed.runtime.policy.perAddress ∧
      server'.timed.runtime.policy.perIdentity = server.timed.runtime.policy.perIdentity := by
  cases event with
  | sweepConnections now =>
    obtain rfl := Option.some.inj hnext
    change (sweepExpiredConnections limits now server.timed.runtime).policy.perAddress = _ ∧
      (sweepExpiredConnections limits now server.timed.runtime).policy.perIdentity = _
    rw [sweepExpiredConnections_policy]
    exact ⟨rfl, rfl⟩
  | serve event finish =>
    obtain rfl := Option.some.inj hnext
    cases event with
    | input number received stillOpen world =>
      change (server.timed.runtime.step (.input number received stillOpen world)).policy.perAddress =
          _ ∧ (server.timed.runtime.step (.input number received stillOpen world)).policy.perIdentity =
          _
      rw [ServerRuntime.step]
      split
      · exact ⟨rfl, rfl⟩
      next logged _ =>
      cases stillOpen with
      | false => exact ⟨rfl, rfl⟩
      | true =>
        rw [ServerRuntime.serviceInput, processConnectionInput_open]
        refine processBuffer_always (J := fun state =>
          state.policy.perAddress = server.timed.runtime.policy.perAddress ∧
            state.policy.perIdentity = server.timed.runtime.policy.perIdentity)
          (fun h => h) ?_ ⟨rfl, rfl⟩
        intro state message hstate
        obtain ⟨haddress, hidentity⟩ := processMessage_limits state message
        exact ⟨haddress.trans hstate.1, hidentity.trans hstate.2⟩
    | flush number count =>
      change (server.timed.runtime.step (.flush number count)).policy.perAddress = _ ∧
        (server.timed.runtime.step (.flush number count)).policy.perIdentity = _
      rw [ServerRuntime.step]
      split <;> exact ⟨rfl, rfl⟩
    | _ => exact ⟨rfl, rfl⟩

end MeteredServer

/-- In every run whose clock does not go back, whatever connections are opened and
closed and whenever the windows are purged: of one address, or of one account, at
most twice the limit of frames are handed to `route_message` within any minute, and
at most the limit within a window. The frames counted as handed on are those that
`route_message` answers. -/
theorem rate_limit_bound (config : ServerConfig) (staticPublic : X25519PublicKey)
    (staticSecret : X25519SecretKey) (perAddress perIdentity : UInt32) (tables : Tables)
    (limits : LimitsConfig) (startedAt : UInt64) (events : List TimedEvent) (server : MeteredServer)
    (hclock : Along (MeteredServer.next limits) MeteredServer.ClockRuns (MeteredServer.start config
      staticPublic staticSecret perAddress perIdentity tables startedAt) events)
    (hrun : after (MeteredServer.next limits) (MeteredServer.start config staticPublic staticSecret
      perAddress perIdentity tables startedAt) events = some server)
    (key : RateKey) (hlimit : key.limit { perAddress, perIdentity } ≠ 0) :
    (∀ start, countFrom 60 start (key.times server.counted) ≤
        2 * (key.limit { perAddress, perIdentity }).toNat) ∧
      (∀ opening ∈ key.openings server.counted, countFrom 60 opening (key.times server.counted) ≤
        (key.limit { perAddress, perIdentity }).toNat) ∧
      ∀ state message, HandedToRoute state message := by
  have hinvariant : server.Metered ∧ server.timed.runtime.policy.perAddress = perAddress ∧
      server.timed.runtime.policy.perIdentity = perIdentity := by
    refine after_invariant (I := fun server : MeteredServer => server.Metered ∧
      server.timed.runtime.policy.perAddress = perAddress ∧
      server.timed.runtime.policy.perIdentity = perIdentity) ?_ ?_ hclock hrun
    · rintro server event server' ⟨hmetered, haddress, hidentity⟩ hruns hnext
      obtain ⟨haddress', hidentity'⟩ := MeteredServer.next_limits hnext
      exact ⟨hmetered.next hruns hnext, haddress'.trans haddress, hidentity'.trans hidentity⟩
    · refine ⟨fun key _ => ?_, rfl, rfl⟩
      cases key <;> exact .start ..
  obtain ⟨hmetered, haddress, hidentity⟩ := hinvariant
  have hsame : key.limit server.timed.runtime.policy = key.limit { perAddress, perIdentity } := by
    cases key with
    | address peer => exact haddress
    | identity userId registered => exact hidentity
  have hkey := hmetered key (by rw [hsame]; exact hlimit)
  rw [hsame] at hkey
  obtain ⟨window, -, hcounts⟩ := hkey
  exact ⟨hcounts.anywhere, hcounts.opened, processMessage_handed⟩

/-- A message on a connection, all of it at the given time. -/
def messageTo (number : ℕ) (time : UInt64) (message : ByteString) : TimedEvent :=
  .serve (.input number (appendLengthPrefixedMessage message) true fun _ =>
    { dispatchTimestamp := time, unixTimestamp := time
      ephemeral := some (FixedBytes.zero _, FixedBytes.zero _) }) time

/-- A ping on one connection, and after it was closed another one on the next
connection from the same address. -/
def reconnectingRun : List TimedEvent :=
  let handshake := List.replicate noiseHandshakeMessageSize 0
  let ping := frameBytes .pingRequest (PingRequest.writeTo {}) ++ transparentTag
  [.serve (.accept [] 0) 0, messageTo 0 0 handshake, messageTo 0 0 ping, .serve (.close 0) 1,
    .serve (.accept [] 1) 1, messageTo 1 1 handshake, messageTo 1 1 ping]

omit [Sodium] in
/-- With one request a minute the second ping is not handed on. -/
theorem rate_limit_bound_reconnecting :
    letI := transparentSodium
    ∃ server, after (MeteredServer.next {}) (MeteredServer.start {} (FixedBytes.zero _)
        (FixedBytes.zero _) 1 1 {} 0) reconnectingRun = some server ∧
      server.counted.length = 2 ∧
      ∀ opening ∈ RateKey.openings (.address []) server.counted,
        countFrom 60 opening (RateKey.times (.address []) server.counted) ≤ 1 := by
  let _ := transparentSodium
  have hcounted : (after (MeteredServer.next {}) (MeteredServer.start {} (FixedBytes.zero _)
      (FixedBytes.zero _) 1 1 {} 0) reconnectingRun).map (fun server => server.counted.length) =
      some 2 := by
    decide +kernel
  obtain ⟨server, hrun, hlength⟩ := Option.map_eq_some_iff.mp hcounted
  refine ⟨server, hrun, hlength, ?_⟩
  refine (rate_limit_bound {} _ _ 1 1 {} {} 0 reconnectingRun server ?_ hrun (.address [])
    (by decide)).2.1
  have hclock : ∀ {server : MeteredServer} {number : ℕ} {time : UInt64} {message : ByteString},
      server.timed.clock ≤ time → server.ClockRuns (messageTo number time message) :=
    fun h => ⟨fun _ => ⟨h, UInt64.le_refl _, UInt64.le_refl _⟩, trivial⟩
  refine ⟨⟨⟨UInt64.le_refl _, UInt64.le_refl _⟩, trivial⟩, fun server hserver => ?_⟩
  obtain rfl := Option.some.inj hserver
  refine ⟨hclock (UInt64.le_refl _), fun server hserver => ?_⟩
  obtain rfl := Option.some.inj hserver
  refine ⟨hclock (UInt64.le_refl _), fun server hserver => ?_⟩
  obtain rfl := Option.some.inj hserver
  refine ⟨⟨(by decide : (0 : UInt64) ≤ 1), trivial⟩, fun server hserver => ?_⟩
  obtain rfl := Option.some.inj hserver
  refine ⟨⟨⟨UInt64.le_refl _, UInt64.le_refl _⟩, trivial⟩, fun server hserver => ?_⟩
  obtain rfl := Option.some.inj hserver
  refine ⟨hclock (UInt64.le_refl _), fun server hserver => ?_⟩
  obtain rfl := Option.some.inj hserver
  exact ⟨hclock (UInt64.le_refl _), fun _ _ => trivial⟩

end Server

end HyperCom
