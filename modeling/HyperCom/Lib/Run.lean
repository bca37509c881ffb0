import Mathlib.Data.List.Basic

/-!
# Runs of a partial step function

A system that takes one event after another and may stop: `step s e` is `none`
when the system is over. `after` folds a list of events; `Along` states a
condition on every step of a run, in the state it is taken from;
`after_invariant` is the induction every safety proof goes through.

The state and the events are arbitrary types. A condition on a run is a condition on each
step together with the state it starts from, so that an assumption about the environment can
refer to what the system has done so far.
-/

namespace StepRun

variable {S E : Type*} {step : S → E → Option S}

/-- The state after the events, if the system is not over. -/
def after (step : S → E → Option S) : S → List E → Option S
  | s, [] => some s
  | s, e :: es => (step s e).bind fun s' => after step s' es

/-- Every step of the run is taken in a state and with an event satisfying
`P`. -/
def Along (step : S → E → Option S) (P : S → E → Prop) : S → List E → Prop
  | _, [] => True
  | s, e :: es => P s e ∧ ∀ s', step s e = some s' → Along step P s' es

/-- The condition can be evaluated along a run. -/
def decidableAlong {P : S → E → Prop} [∀ s e, Decidable (P s e)] :
    (s : S) → (es : List E) → Decidable (Along step P s es)
  | _, [] => isTrue trivial
  | s, e :: es =>
    match hstep : step s e with
    | none => decidable_of_iff (P s e) ⟨fun h => ⟨h, fun s' hs' => by cases hstep.symm.trans hs'⟩,
        fun h => h.1⟩
    | some s' =>
      have := decidableAlong (P := P) s' es
      decidable_of_iff (P s e ∧ Along step P s' es)
        ⟨fun h => ⟨h.1, fun s'' hs'' => Option.some.inj (hstep.symm.trans hs'') ▸ h.2⟩,
          fun h => ⟨h.1, h.2 s' hstep⟩⟩

instance {P : S → E → Prop} [∀ s e, Decidable (P s e)] (s : S) (es : List E) :
    Decidable (Along step P s es) :=
  decidableAlong s es

/-- A condition weakened step by step. -/
theorem Along.mono {P Q : S → E → Prop} {s : S} {es : List E} (himplies : ∀ s e, P s e → Q s e)
    (halong : Along step P s es) : Along step Q s es := by
  induction es generalizing s with
  | nil => trivial
  | cons e es ih => exact ⟨himplies s e halong.1, fun s' hs' => ih (halong.2 s' hs')⟩

/-- Two conditions on the steps of one run. -/
theorem Along.and {P Q : S → E → Prop} {s : S} {es : List E} (hP : Along step P s es)
    (hQ : Along step Q s es) : Along step (fun s e => P s e ∧ Q s e) s es := by
  induction es generalizing s with
  | nil => trivial
  | cons e es ih => exact ⟨⟨hP.1, hQ.1⟩, fun s' hs' => ih (hP.2 s' hs') (hQ.2 s' hs')⟩

@[simp] theorem after_nil (s : S) : after step s [] = some s := rfl

/-- A first step, then the rest. -/
theorem after_of_step {s s' s'' : S} {e : E} {es : List E} (h : step s e = some s')
    (h' : after step s' es = some s'') : after step s (e :: es) = some s'' := by
  rw [after, h, Option.bind_some, h']

/-- Inversion of the first step. -/
theorem after_cons {s s'' : S} {e : E} {es : List E} (h : after step s (e :: es) = some s'') :
    ∃ s', step s e = some s' ∧ after step s' es = some s'' :=
  Option.bind_eq_some_iff.mp h

/-- A run cut in two. -/
theorem after_append {s s' s'' : S} {es es' : List E} (h : after step s es = some s')
    (h' : after step s' es' = some s'') : after step s (es ++ es') = some s'' := by
  induction es generalizing s with
  | nil =>
    obtain rfl := Option.some.inj h
    exact h'
  | cons e es ih =>
    obtain ⟨mid, hstep, hrest⟩ := after_cons h
    exact after_of_step hstep (ih hrest)

/-- What every step meeting `P` preserves holds at the end of every run whose
steps all meet `P`. -/
theorem after_invariant {I : S → Prop} {P : S → E → Prop}
    (hstep : ∀ {s e s'}, I s → P s e → step s e = some s' → I s') {s s' : S} {es : List E}
    (hstart : I s) (halong : Along step P s es) (h : after step s es = some s') : I s' := by
  induction es generalizing s with
  | nil =>
    obtain rfl := Option.some.inj h
    exact hstart
  | cons e es ih =>
    obtain ⟨mid, hmid, hrest⟩ := after_cons h
    exact ih (hstep hstart halong.1 hmid) (halong.2 mid hmid) hrest

/-- What an invariant implies of a step holds of every step of such a run. -/
theorem Along.of_invariant {I : S → Prop} {P Q : S → E → Prop}
    (hstep : ∀ {s e s'}, I s → P s e → step s e = some s' → I s')
    (himplies : ∀ {s e}, I s → P s e → Q s e) {s : S} {es : List E}
    (hstart : I s) (halong : Along step P s es) : Along step Q s es := by
  induction es generalizing s with
  | nil => trivial
  | cons e es ih =>
    refine ⟨himplies hstart halong.1, fun s' hs' => ?_⟩
    exact ih (hstep hstart halong.1 hs') (halong.2 s' hs')

/-- Two conditions that say the same of a step from a state of an invariant, and
keep the invariant, say the same of a run. -/
theorem Along.iff_of_invariant {I : S → Prop} {P Q : S → E → Prop}
    (hstep : ∀ {s e s'}, I s → P s e → step s e = some s' → I s')
    (hiff : ∀ {s e}, I s → (Q s e ↔ P s e)) {s : S} {es : List E} (hstart : I s) :
    Along step Q s es ↔ Along step P s es := by
  constructor
  · intro halong
    induction es generalizing s with
    | nil => trivial
    | cons e es ih =>
      have hfirst : P s e := (hiff hstart).mp halong.1
      exact ⟨hfirst, fun s' hs' => ih (hstep hstart hfirst hs') (halong.2 s' hs')⟩
  · exact Along.of_invariant hstep (fun hI hP => (hiff hI).mpr hP) hstart

end StepRun
