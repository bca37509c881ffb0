import Mathlib.Data.List.Basic

/-!
# Fallible stateful computations

`Fallible σ α` is the shape of a C-style parsing function: it works on a
mutable state `σ`, and either produces an `α` or reports failure. Failure does
**not** roll the state back — whatever the computation had already done to `σ`
stays done. This is what separates it from `StateT σ Option`, and it is the
reason the state sits outside the `Option`.

Proofs go through the inversion lemma `Fallible.bind_eq_some` and its
introduction form `Fallible.bind_some`; nothing here is meant to be unfolded
by a caller.
-/

namespace BinaryCodec

universe u v w

/-- A computation on the state `σ` that may fail, keeping its effects when it
does. -/
abbrev Fallible (σ : Type u) (α : Type v) : Type (max u v) := σ → Option α × σ

namespace Fallible

variable {σ : Type u} {α β : Type v}

/-- Succeed without touching the state. -/
protected def pure (a : α) : Fallible σ α := fun s => (some a, s)

/-- Sequencing: a failure of `m` ends the computation in the state `m` left. -/
protected def bind (m : Fallible σ α) (f : α → Fallible σ β) : Fallible σ β := fun s =>
  match m s with
  | (some a, s') => f a s'
  | (none, s') => (none, s')

/-- Fail on the spot, leaving the state alone. -/
def fail : Fallible σ α := fun s => (none, s)

/-- Succeed with the value of an option, or fail. -/
def ofOption : Option α → Fallible σ α
  | some a => Fallible.pure a
  | none => fail

instance : Monad (Fallible σ) where
  pure := Fallible.pure
  bind := Fallible.bind

@[simp] theorem pure_apply (a : α) (s : σ) : (pure a : Fallible σ α) s = (some a, s) := rfl

@[simp] theorem ofOption_some (a : α) (s : σ) :
    (ofOption (some a) : Fallible σ α) s = (some a, s) := rfl

/-- Introduction for `bind`. -/
theorem bind_some {m : Fallible σ α} {f : α → Fallible σ β} {s s' : σ} {a : α}
    (hm : m s = (some a, s')) : (m >>= f) s = f a s' := by
  change (match m s with | (some a, s') => f a s' | (none, s') => (none, s')) = _
  rw [hm]

/-- A failure ends the computation in the state it left. -/
theorem bind_none {m : Fallible σ α} {f : α → Fallible σ β} {s s' : σ}
    (hm : m s = (none, s')) : (m >>= f) s = (none, s') := by
  change (match m s with | (some a, s') => f a s' | (none, s') => (none, s')) = _
  rw [hm]

/-- Inversion for `bind`. -/
theorem bind_eq_some {m : Fallible σ α} {f : α → Fallible σ β} {s s'' : σ} {b : β}
    (h : (m >>= f) s = (some b, s'')) :
    ∃ a s', m s = (some a, s') ∧ f a s' = (some b, s'') := by
  change (match m s with | (some a, s') => f a s' | (none, s') => (none, s')) = _ at h
  rcases hm : m s with ⟨_ | a, s'⟩ <;> rw [hm] at h
  · cases h
  · exact ⟨a, s', rfl, h⟩

/-- Run `m` a fixed number of times and collect the results in order. -/
def repeatTimes (m : Fallible σ α) : ℕ → Fallible σ (List α)
  | 0 => pure []
  | n + 1 => do
    let a ← m
    let rest ← repeatTimes m n
    pure (a :: rest)

theorem repeatTimes_length {m : Fallible σ α} {n : ℕ} {items : List α} {s s' : σ}
    (h : m.repeatTimes n s = (some items, s')) : items.length = n := by
  induction n generalizing s s' items with
  | zero =>
    obtain ⟨hitems, -⟩ := Prod.mk.inj h
    obtain rfl := Option.some.inj hitems
    rfl
  | succ n ih =>
    obtain ⟨item, s₁, -, h⟩ := bind_eq_some h
    obtain ⟨rest, s₂, hrest, h⟩ := bind_eq_some h
    obtain ⟨hitems, -⟩ := Prod.mk.inj h
    obtain rfl := Option.some.inj hitems
    rw [List.length_cons, ih hrest]

end Fallible

/-- Inversion for `bind` of computations that only fail. -/
theorem exceptBind_eq_ok {ε : Type u} {α β : Type v} {m : Except ε α} {f : α → Except ε β} {b : β}
    (h : (m >>= f) = .ok b) : ∃ a, m = .ok a ∧ f a = .ok b := by
  cases m with
  | error e => cases h
  | ok a => exact ⟨a, rfl, h⟩

end BinaryCodec
