import Mathlib.Data.List.Basic

/-!
# Programs in dialogue with their surroundings

A program whose only effects are calls to the outside — a socket, a clock, a
random generator, a terminal — is a tree: at each node it makes a call and
branches on the answer. `Dialogue Answer α` is that tree.

There are two ways to read one:

* `Performs program trace value` — **some** surroundings gave the answers of
  `trace`, and the program ended with `value`. A statement about every trace is
  a statement about every surroundings, hostile ones included.
* `run respond program state` — the answers come from a given responder, which
  keeps a state of its own. `run_performs` says that this is one of the above.

A caller peels a program apart with `performs_bind` and its variant
`performs_bindExcept` for programs that can stop with an error. Where only the
kinds of calls matter, `Only` says it of the program itself.
-/

namespace Interaction

variable {Call : Type} {Answer : Call → Type} {α β ε σ : Type}

/-- A program that ends with a value, or makes a call and goes on with the
answer. -/
inductive Dialogue (Answer : Call → Type) (α : Type) : Type where
  /-- end with a value -/
  | done : α → Dialogue Answer α
  /-- make a call, go on with its answer -/
  | ask : (call : Call) → (Answer call → Dialogue Answer α) → Dialogue Answer α

/-- A call that was made, and how it was answered. -/
abbrev Exchange (Answer : Call → Type) : Type := (call : Call) × Answer call

namespace Dialogue

/-- Graft a continuation onto every end. -/
protected def bind : Dialogue Answer α → (α → Dialogue Answer β) → Dialogue Answer β
  | done a, f => f a
  | ask call next, f => ask call fun answer => (next answer).bind f

instance : Monad (Dialogue Answer) where
  pure := done
  bind := Dialogue.bind

/-- A single call. -/
def call (c : Call) : Dialogue Answer (Answer c) := ask c done

/-! ## Every possible course -/

/-- With the answers of `trace`, the program makes exactly the calls of `trace`
and ends with the value. -/
inductive Performs : Dialogue Answer α → List (Exchange Answer) → α → Prop where
  | done {a : α} : Performs (done a) [] a
  | ask {c : Call} {next : Answer c → Dialogue Answer α} {answer : Answer c}
      {trace : List (Exchange Answer)} {a : α} :
      Performs (next answer) trace a → Performs (ask c next) (⟨c, answer⟩ :: trace) a

@[simp] theorem performs_pure {a b : α} {trace : List (Exchange Answer)} :
    Performs (pure a : Dialogue Answer α) trace b ↔ trace = [] ∧ b = a := by
  constructor
  · rintro ⟨⟩
    exact ⟨rfl, rfl⟩
  · rintro ⟨rfl, rfl⟩
    exact .done

@[simp] theorem performs_call {c : Call} {answer : Answer c} {trace : List (Exchange Answer)} :
    Performs (call c) trace answer ↔ trace = [⟨c, answer⟩] := by
  constructor
  · rintro (_ | ⟨⟨⟩⟩)
    rfl
  · rintro rfl
    exact .ask .done

/-- The course of a sequence is the course of its first part, then that of the
second. -/
theorem performs_bind {m : Dialogue Answer α} {f : α → Dialogue Answer β}
    {trace : List (Exchange Answer)} {b : β} :
    Performs (m >>= f) trace b ↔
      ∃ first second a, trace = first ++ second ∧ Performs m first a ∧ Performs (f a) second b := by
  constructor
  · intro h
    induction m generalizing trace with
    | done a => exact ⟨[], trace, a, rfl, .done, h⟩
    | ask c next ih =>
      obtain _ | @⟨_, _, answer, rest, _, hnext⟩ := h
      obtain ⟨first, second, a, rfl, hfirst, hsecond⟩ := ih answer hnext
      exact ⟨_ :: first, second, a, rfl, .ask hfirst, hsecond⟩
  · rintro ⟨first, second, a, rfl, hfirst, hsecond⟩
    induction hfirst with
    | done => exact hsecond
    | ask _ ih => exact .ask (ih hsecond)

/-- A call at the head of a sequence. -/
theorem performs_call_bind {c : Call} {f : Answer c → Dialogue Answer β}
    {trace : List (Exchange Answer)} {b : β} :
    Performs (call c >>= f) trace b ↔
      ∃ answer rest, trace = ⟨c, answer⟩ :: rest ∧ Performs (f answer) rest b := by
  rw [performs_bind]
  constructor
  · rintro ⟨first, second, answer, rfl, hfirst, hsecond⟩
    obtain rfl := performs_call.mp hfirst
    exact ⟨answer, second, rfl, hsecond⟩
  · rintro ⟨answer, rest, rfl, hrest⟩
    exact ⟨_, rest, answer, rfl, performs_call.mpr rfl, hrest⟩

/-- A sequence of programs that can stop with an error: it stops where its first
part does, or goes on with the second. -/
theorem performs_bindExcept {m : ExceptT ε (Dialogue Answer) α}
    {f : α → ExceptT ε (Dialogue Answer) β} {trace : List (Exchange Answer)} {r : Except ε β} :
    Performs (m >>= f).run trace r ↔
      (∃ e, Performs m.run trace (.error e) ∧ r = .error e) ∨
      ∃ first second a, trace = first ++ second ∧ Performs m.run first (.ok a) ∧
        Performs (f a).run second r := by
  rw [ExceptT.run_bind, performs_bind]
  constructor
  · rintro ⟨first, second, e | a, rfl, hfirst, hsecond⟩
    · obtain ⟨rfl, rfl⟩ := performs_pure.mp hsecond
      exact .inl ⟨e, by simpa using hfirst, rfl⟩
    · exact .inr ⟨first, second, a, rfl, hfirst, hsecond⟩
  · rintro (⟨e, h, rfl⟩ | ⟨first, second, a, rfl, hfirst, hsecond⟩)
    · exact ⟨trace, [], .error e, by simp, h, performs_pure.mpr ⟨rfl, rfl⟩⟩
    · exact ⟨first, second, .ok a, rfl, hfirst, hsecond⟩

/-- A part that cannot fail, at the head of a sequence that can. -/
theorem performs_lift_bind {m : Dialogue Answer α} {f : α → ExceptT ε (Dialogue Answer) β}
    {trace : List (Exchange Answer)} {r : Except ε β} :
    Performs (ExceptT.lift m >>= f).run trace r ↔
      ∃ first second a, trace = first ++ second ∧ Performs m first a ∧
        Performs (f a).run second r := by
  have hlift : ∀ {first x}, Performs (ExceptT.lift m : ExceptT ε (Dialogue Answer) α).run first x ↔
      ∃ a, Performs m first a ∧ x = .ok a := by
    intro first x
    change Performs (m >>= fun a => pure (.ok a)) first x ↔ _
    rw [performs_bind]
    constructor
    · rintro ⟨calls, rest, a, rfl, hm, hpure⟩
      obtain ⟨rfl, rfl⟩ := performs_pure.mp hpure
      exact ⟨a, by simpa using hm, rfl⟩
    · rintro ⟨a, hm, rfl⟩
      exact ⟨first, [], a, by simp, hm, performs_pure.mpr ⟨rfl, rfl⟩⟩
  rw [performs_bindExcept]
  constructor
  · rintro (⟨e, he, rfl⟩ | ⟨first, second, a, rfl, hfirst, hsecond⟩)
    · obtain ⟨a, -, ⟨⟩⟩ := hlift.mp he
    · obtain ⟨a', hm, ha⟩ := hlift.mp hfirst
      obtain rfl := Except.ok.inj ha
      exact ⟨first, second, a, rfl, hm, hsecond⟩
  · rintro ⟨first, second, a, rfl, hm, hsecond⟩
    exact .inr ⟨first, second, a, rfl, hlift.mpr ⟨a, hm, rfl⟩, hsecond⟩

/-! ## The calls a program can make -/

/-- Whatever the answers, every call of the program satisfies `P`. -/
inductive Only (P : Call → Prop) : Dialogue Answer α → Prop where
  | done {a : α} : Only P (done a)
  | ask {c : Call} {next : Answer c → Dialogue Answer α} :
      P c → (∀ answer, Only P (next answer)) → Only P (ask c next)

theorem only_call {P : Call → Prop} {c : Call} (h : P c) :
    Only P (call c : Dialogue Answer (Answer c)) :=
  .ask h fun _ => .done

theorem Only.bind {P : Call → Prop} {m : Dialogue Answer α} {f : α → Dialogue Answer β}
    (hm : Only P m) (hf : ∀ a, Only P (f a)) : Only P (m >>= f) := by
  induction hm with
  | done => exact hf _
  | ask hc _ ih => exact .ask hc ih

theorem Only.bindExcept {P : Call → Prop} {m : ExceptT ε (Dialogue Answer) α}
    {f : α → ExceptT ε (Dialogue Answer) β} (hm : Only P m.run) (hf : ∀ a, Only P (f a).run) :
    Only P (m >>= f).run := by
  rw [ExceptT.run_bind]
  apply hm.bind
  rintro (e | a)
  · exact .done
  · exact hf a

theorem Only.mono {P Q : Call → Prop} {m : Dialogue Answer α} (hm : Only P m)
    (h : ∀ c, P c → Q c) : Only Q m := by
  induction hm with
  | done => exact .done
  | ask hc _ ih => exact .ask (h _ hc) ih

theorem Only.lift {P : Call → Prop} {m : Dialogue Answer α} (hm : Only P m) :
    Only P (ExceptT.lift m : ExceptT ε (Dialogue Answer) α).run :=
  hm.bind fun _ => .done

/-- The calls of a course are among them. -/
theorem Only.of_performs {P : Call → Prop} {m : Dialogue Answer α}
    {trace : List (Exchange Answer)} {a : α} (hm : Only P m) (h : Performs m trace a) :
    ∀ exchange ∈ trace, P exchange.1 := by
  induction h with
  | done => exact fun _ hmem => nomatch hmem
  | ask _ ih =>
    obtain _ | ⟨hc, hnext⟩ := hm
    rintro exchange (_ | ⟨_, hmem⟩)
    · exact hc
    · exact ih (hnext _) exchange hmem

/-! ## The course a responder gives it -/

/-- Run against a responder, keeping the trace. -/
def run (respond : (c : Call) → σ → Answer c × σ) :
    Dialogue Answer α → σ → α × List (Exchange Answer) × σ
  | done a, s => (a, [], s)
  | ask c next, s =>
    let (answer, s') := respond c s
    let (a, trace, s'') := run respond (next answer) s'
    (a, ⟨c, answer⟩ :: trace, s'')

/-- What a responder makes of a program is one of its possible courses. -/
theorem run_performs (respond : (c : Call) → σ → Answer c × σ) (m : Dialogue Answer α) (s : σ) :
    Performs m (run respond m s).2.1 (run respond m s).1 := by
  induction m generalizing s with
  | done a => exact .done
  | ask c next ih => exact .ask (ih (respond c s).1 (respond c s).2)

/-! ## Surroundings with a state -/

/-- The answers of the trace are ones that surroundings with a state can give:
`R s c a s'` says that `c` may be answered by `a` in `s`, which leaves `s'`. -/
inductive Follows (R : σ → (c : Call) → Answer c → σ → Prop) :
    σ → List (Exchange Answer) → σ → Prop where
  | nil {s : σ} : Follows R s [] s
  | cons {s s' s'' : σ} {c : Call} {answer : Answer c} {trace : List (Exchange Answer)} :
      R s c answer s' → Follows R s' trace s'' → Follows R s (⟨c, answer⟩ :: trace) s''

theorem follows_append {R : σ → (c : Call) → Answer c → σ → Prop} {s s'' : σ}
    {first second : List (Exchange Answer)} :
    Follows R s (first ++ second) s'' ↔ ∃ s', Follows R s first s' ∧ Follows R s' second s'' := by
  constructor
  · intro h
    induction first generalizing s with
    | nil => exact ⟨s, .nil, h⟩
    | cons exchange first ih =>
      obtain _ | ⟨hcall, hrest⟩ := h
      obtain ⟨s', hfirst, hsecond⟩ := ih hrest
      exact ⟨s', .cons hcall hfirst, hsecond⟩
  · rintro ⟨s', hfirst, hsecond⟩
    induction hfirst with
    | nil => exact hsecond
    | cons hcall _ ih => exact .cons hcall (ih hsecond)

/-- The relation of a responder. -/
def Responds (respond : (c : Call) → σ → Answer c × σ) (s : σ) (c : Call) (answer : Answer c)
    (s' : σ) : Prop :=
  respond c s = (answer, s')

/-- A run against a responder follows it. -/
theorem run_follows (respond : (c : Call) → σ → Answer c × σ) (m : Dialogue Answer α) (s : σ) :
    Follows (Responds respond) s (run respond m s).2.1 (run respond m s).2.2 := by
  induction m generalizing s with
  | done a => exact .nil
  | ask c next ih => exact .cons rfl (ih (respond c s).1 (respond c s).2)

end Dialogue

end Interaction
