import Mathlib.Data.Option.Basic
import Mathlib.Data.Prod.Basic

/-!
# What an observer sees of a state

An observer of a system sees `view state`. An operation that may fail is `Overt` if
two states that look the same give the same result and look the same afterwards. A
machine that answers its inputs and is overt in every step gives one transcript for
all the states that look alike (`run_alike`).

Secrecy of what is not seen is then a statement about two runs with the same inputs. An
operation is overt for reasons of its own, and overt operations compose, so that nothing has
to be said about the machine as a whole.
-/

namespace Observation

variable {State View Result Input Output : Type*}

/-- The result of an operation, and what is seen of the state it leaves. -/
def seen (view : State → View) (outcome : Option (Result × State)) : Option (Result × View) :=
  outcome.map (Prod.map id view)

/-- The result, and what is seen afterwards, depend on what is seen before. -/
def Overt (view : State → View) (operation : State → Option (Result × State)) : Prop :=
  ∀ ⦃first second : State⦄, view first = view second →
    seen view (operation first) = seen view (operation second)

/-- A view of the view is the view itself: then it is enough to look at what the
operation does to the view. -/
theorem Overt.of_self {view : State → State} {operation : State → Option (Result × State)}
    (h : ∀ state, seen view (operation (view state)) = seen view (operation state)) :
    Overt view operation := by
  intro first second hview
  rw [← h first, ← h second, hview]

theorem seen_eq_none_iff {view : State → View} {outcome : Option (Result × State)} :
    seen view outcome = none ↔ outcome = none :=
  Option.map_eq_none_iff

/-- An outcome that looks like one that took effect has taken effect. -/
theorem seen_eq_some {view : State → View} {outcome : Option (Result × State)} {result : Result}
    {state : State} (h : seen view (some (result, state)) = seen view outcome) :
    ∃ state', outcome = some (result, state') ∧ view state = view state' := by
  obtain ⟨⟨result', state'⟩, rfl, hout⟩ := Option.map_eq_some_iff.mp h.symm
  obtain ⟨hresult, hstate⟩ := Prod.mk.inj hout
  obtain rfl : result' = result := hresult
  exact ⟨state', rfl, hstate.symm⟩

/-! ## Runs -/

/-- The answers of a machine to its inputs, and the state it ends in. -/
def run (step : Input → State → Output × State) : List Input → State → List Output × State
  | [], state => ([], state)
  | input :: inputs, state =>
    let answered := step input state
    let rest := run step inputs answered.2
    (answered.1 :: rest.1, rest.2)

/-- By induction on the inputs: states that are alike stay alike and answer the same. -/
theorem run_alike {step : Input → State → Output × State} {alike : State → State → Prop}
    (hstep : ∀ input {first second}, alike first second →
      (step input first).1 = (step input second).1 ∧
        alike (step input first).2 (step input second).2)
    (inputs : List Input) {first second : State} (h : alike first second) :
    (run step inputs first).1 = (run step inputs second).1 ∧
      alike (run step inputs first).2 (run step inputs second).2 := by
  induction inputs generalizing first second with
  | nil => exact ⟨rfl, h⟩
  | cons input inputs ih =>
    obtain ⟨hanswer, hafter⟩ := hstep input h
    obtain ⟨hrest, hend⟩ := ih hafter
    exact ⟨congrArg₂ List.cons hanswer hrest, hend⟩

/-- What every step keeps, a run keeps. -/
theorem run_keeps {step : Input → State → Output × State} {kept : State → State → Prop}
    (refl : ∀ state, kept state state)
    (trans : ∀ {first second third}, kept first second → kept second third → kept first third)
    (hstep : ∀ input state, kept state (step input state).2) (inputs : List Input)
    (state : State) : kept state (run step inputs state).2 := by
  induction inputs generalizing state with
  | nil => exact refl state
  | cons input inputs ih => exact trans (hstep input state) (ih _)

end Observation
