import Mathlib.Data.List.Basic
import Mathlib.Data.List.Count
import Mathlib.Tactic.Linarith

/-!
# Fixed-window counting

A limiter that counts events in windows of a fixed duration. A window starts with
the first event after the previous one is over; an event that finds the counter at
the limit is refused.

`Alike` relates two windows that no later event can tell apart, so that a window
that is over may be forgotten. `Counts` is the invariant that bounds how many
events were admitted, in any stretch of time as long as a window.

Times are natural numbers and never go back. The window is the whole
state: its start and its count. Nothing depends on what is counted or for whom.
-/

namespace FixedWindow

variable {duration limit now clock clock' : ℕ}

/-- When the window was opened, and what was admitted since. -/
structure Window where
  start : ℕ := 0
  count : ℕ := 0
deriving DecidableEq

/-- The window an event at the time `now` falls into. -/
def Window.current (duration now : ℕ) (window : Window) : Window :=
  if now < window.start ∨ duration ≤ now - window.start then { start := now, count := 0 }
  else window

/-- One event: it is admitted and counted, or refused. -/
def Window.register (duration limit now : ℕ) (window : Window) : Bool × Window :=
  let window := window.current duration now
  if limit ≤ window.count then (false, window)
  else (true, { window with count := window.count + 1 })

/-! ## Windows that are over -/

/-- The window is over. -/
def Window.Over (duration clock : ℕ) (window : Window) : Prop := window.start + duration ≤ clock

/-- From the time `clock` on the two windows cannot be told apart. -/
def Alike (duration clock : ℕ) (first second : Window) : Prop :=
  first = second ∨ first.Over duration clock ∧ second.Over duration clock

section Alike

variable {window first second third : Window}

/-- A window that is over stays over. -/
theorem Window.Over.later (h : window.Over duration clock) (hclock : clock ≤ clock') :
    window.Over duration clock' :=
  Nat.le_trans h hclock

/-- A window that is over is replaced by the next event. -/
theorem Window.Over.current_eq (h : window.Over duration now) :
    window.current duration now = { start := now, count := 0 } := by
  have hover : window.start + duration ≤ now := h
  rw [Window.current, if_pos]
  exact .inr (by omega)

/-- Likeness is an equivalence that time does not undo. -/
theorem Alike.refl (window : Window) : Alike duration clock window window := .inl rfl

theorem Alike.symm (h : Alike duration clock first second) : Alike duration clock second first := by
  rcases h with rfl | ⟨hfirst, hsecond⟩
  · exact .inl rfl
  · exact .inr ⟨hsecond, hfirst⟩

theorem Alike.trans (h : Alike duration clock first second)
    (h' : Alike duration clock second third) : Alike duration clock first third := by
  rcases h with rfl | ⟨hfirst, hsecond⟩
  · exact h'
  · rcases h' with rfl | ⟨-, hthird⟩
    · exact .inr ⟨hfirst, hsecond⟩
    · exact .inr ⟨hfirst, hthird⟩

/-- Two windows that are both over now are so later. -/
theorem Alike.later (h : Alike duration clock first second) (hclock : clock ≤ clock') :
    Alike duration clock' first second := by
  rcases h with rfl | ⟨hfirst, hsecond⟩
  · exact .inl rfl
  · exact .inr ⟨hfirst.later hclock, hsecond.later hclock⟩

/-- An event is treated alike, and leaves the same window. -/
theorem Alike.register_eq (h : Alike duration clock first second) (limit : ℕ) (hclock : clock ≤ now) :
    first.register duration limit now = second.register duration limit now := by
  rcases h with rfl | ⟨hfirst, hsecond⟩
  · rfl
  · simp only [Window.register, (hfirst.later hclock).current_eq, (hsecond.later hclock).current_eq]

end Alike

/-! ## How many events are admitted -/

/-- The events in the half-open interval of the given duration from `from` on. -/
def countFrom (duration start : ℕ) (times : List ℕ) : ℕ :=
  times.countP fun time => start ≤ time ∧ time < start + duration

/-- Counting goes event by event. -/
theorem countFrom_append (duration start : ℕ) (times later : List ℕ) :
    countFrom duration start (times ++ later) =
      countFrom duration start times + countFrom duration start later :=
  List.countP_append

theorem countFrom_singleton (duration start time : ℕ) :
    countFrom duration start [time] =
      if start ≤ time ∧ time < start + duration then 1 else 0 := by
  simp [countFrom, List.countP_singleton]

/-- What is counted on the left is counted once on the right. -/
theorem countP_le_add {α : Type*} {p q r : α → Bool} {l : List α}
    (h : ∀ x ∈ l, p x = true → q x = true ∨ r x = true) :
    l.countP p ≤ l.countP q + l.countP r := by
  induction l with
  | nil => simp
  | cons x l ih =>
    have hx := h x List.mem_cons_self
    have hrest := ih fun y hy => h y (List.mem_cons_of_mem x hy)
    simp only [List.countP_cons]
    cases hp : p x with
    | false =>
      simp only [Bool.false_eq_true, if_false]
      omega
    | true =>
      rcases hx hp with hq | hr
      · simp only [hq, if_true]
        omega
      · simp only [hr, if_true]
        omega

/-- What a window says about the admitted events: when they were, how many of them
are its own, and how many the one before it can have had. `openings` are starts of
windows there have been. -/
structure Counts (duration limit clock : ℕ) (window : Window) (openings times : List ℕ) : Prop where
  begun : window.start ≤ clock
  past : ∀ time ∈ times, time ≤ clock
  within : ∀ time ∈ times, time < window.start + duration
  counted : countFrom duration window.start times ≤ window.count
  limited : window.count ≤ limit
  previous : times.countP (fun time => time < window.start ∧ window.start < time + duration) ≤ limit
  anywhere : ∀ start, countFrom duration start times ≤ 2 * limit
  ended : ∀ start ∈ openings, start = window.start ∨ start + duration ≤ window.start
  opened : ∀ start ∈ openings, countFrom duration start times ≤ limit

section Counts

variable {window : Window} {openings times : List ℕ}

/-- Before the first event. -/
theorem Counts.start (duration limit clock : ℕ) : Counts duration limit clock {} [] [] where
  begun := Nat.zero_le _
  past := by simp
  within := by simp
  counted := by simp [countFrom]
  limited := Nat.zero_le _
  previous := by simp
  anywhere := by simp [countFrom]
  ended := by simp
  opened := by simp

/-- Time passes. -/
theorem Counts.later (h : Counts duration limit clock window openings times)
    (hclock : clock ≤ clock') : Counts duration limit clock' window openings times :=
  { h with
    begun := h.begun.trans hclock
    past := fun time hmem => (h.past time hmem).trans hclock }

/-- The event falls into a window of which the same can be said. -/
theorem Counts.current (hduration : 0 < duration)
    (h : Counts duration limit now window openings times) :
    Counts duration limit now (window.current duration now) openings times ∧
      now < (window.current duration now).start + duration := by
  by_cases hover : window.Over duration now
  · -- a new window: the one before it had at most `limit` events
    have hend : window.start + duration ≤ now := hover
    have hnone : countFrom duration now times = 0 := by
      rw [countFrom, List.countP_eq_zero]
      intro time hmem
      have hwithin := h.within time hmem
      simp only [decide_eq_true_eq]
      omega
    have hprevious : times.countP (fun time => time < now ∧ now < time + duration) ≤
        countFrom duration window.start times := by
      refine List.countP_mono_left fun time hmem hnear => ?_
      simp only [decide_eq_true_eq] at hnear ⊢
      exact ⟨by omega, h.within time hmem⟩
    rw [hover.current_eq]
    refine ⟨?_, by change now < now + duration; omega⟩
    exact {
      begun := le_rfl
      past := h.past
      within := fun time hmem => by
        have hwithin := h.within time hmem
        change time < now + duration
        omega
      counted := hnone.le
      limited := Nat.zero_le _
      previous := hprevious.trans (h.counted.trans h.limited)
      anywhere := h.anywhere
      ended := fun start hmem => by
        change start = now ∨ start + duration ≤ now
        rcases h.ended start hmem with rfl | hended
        · exact .inr hend
        · exact .inr (by omega)
      opened := h.opened }
  · have hend : ¬ window.start + duration ≤ now := hover
    have hsame : window.current duration now = window := by
      have hbegun := h.begun
      rw [Window.current, if_neg]
      omega
    rw [hsame]
    exact ⟨h, by omega⟩

/-- The counter goes up for an event that is not counted in `times`. -/
theorem Counts.skipped (h : Counts duration limit clock window openings times)
    (hcount : window.count < limit) :
    Counts duration limit clock { window with count := window.count + 1 } openings times :=
  { h with
    counted := h.counted.trans (Nat.le_succ _)
    limited := hcount }

/-- The counter goes up for an event that is. -/
theorem Counts.admitted (h : Counts duration limit now window openings times)
    (hnow : now < window.start + duration) (hcount : window.count < limit) :
    Counts duration limit now { window with count := window.count + 1 } openings
      (times ++ [now]) := by
  have hbegun := h.begun
  have hcounted : countFrom duration window.start (times ++ [now]) ≤ window.count + 1 := by
    have hbefore := h.counted
    rw [countFrom_append, countFrom_singleton]
    split <;> omega
  refine ⟨hbegun, ?_, ?_, hcounted, hcount, ?_, ?_, h.ended, ?_⟩
  · intro time hmem
    rcases List.mem_append.mp hmem with hold | hnew
    · exact h.past time hold
    · exact (List.mem_singleton.mp hnew).le
  · intro time hmem
    rcases List.mem_append.mp hmem with hold | hnew
    · exact h.within time hold
    · rw [List.mem_singleton.mp hnew]
      exact hnow
  · change (times ++ [now]).countP (fun time => time < window.start ∧
      window.start < time + duration) ≤ limit
    rw [List.countP_append, List.countP_singleton, if_neg (by simp only [decide_eq_true_eq]; omega)]
    exact h.previous
  · intro start
    rw [countFrom_append, countFrom_singleton]
    split
    · next hin =>
      -- the interval holds events of this window and of the one before it only
      have hsplit : countFrom duration start times ≤ countFrom duration window.start times +
          times.countP (fun time => time < window.start ∧ window.start < time + duration) := by
        refine countP_le_add fun time hmem hinside => ?_
        have hwithin := h.within time hmem
        simp only [decide_eq_true_eq] at hinside ⊢
        omega
      have hbefore := h.counted
      have hprevious := h.previous
      omega
    · exact h.anywhere start
  · intro start hmem
    rcases h.ended start hmem with rfl | hended
    · exact hcounted.trans hcount
    · -- a window that is over gets no more events
      rw [countFrom_append, countFrom_singleton, if_neg (by omega)]
      exact h.opened start hmem

/-- The window it is in has been opened. -/
theorem Counts.noteOpening (h : Counts duration limit clock window openings times) :
    Counts duration limit clock window (openings ++ [window.start]) times := by
  refine { h with ended := ?_, opened := ?_ }
  · intro start hmem
    rcases List.mem_append.mp hmem with hold | hnew
    · exact h.ended start hold
    · exact .inl (List.mem_singleton.mp hnew)
  · intro start hmem
    rcases List.mem_append.mp hmem with hold | hnew
    · exact h.opened start hold
    · rw [List.mem_singleton.mp hnew]
      exact h.counted.trans h.limited

/-- One event; `counted` says whether an admitted one is to be counted. -/
theorem Counts.register (hduration : 0 < duration)
    (h : Counts duration limit clock window openings times) (hclock : clock ≤ now)
    {counted : Bool} (hadmitted : counted = true → (window.register duration limit now).1 = true) :
    Counts duration limit now (window.register duration limit now).2
      (openings ++ [(window.register duration limit now).2.start])
      (if counted then times ++ [now] else times) := by
  obtain ⟨hcurrent, hnow⟩ := (h.later hclock).current hduration
  by_cases hfull : limit ≤ (window.current duration now).count
  · have hrefused : window.register duration limit now = (false, window.current duration now) := by
      rw [Window.register, if_pos hfull]
    rw [hrefused] at hadmitted ⊢
    have hnot : counted = false := by
      cases counted with
      | false => rfl
      | true => cases hadmitted rfl
    rw [hnot]
    exact hcurrent.noteOpening
  · have hpassed : window.register duration limit now = (true, { window.current duration now with
        count := (window.current duration now).count + 1 }) := by
      rw [Window.register, if_neg hfull]
    rw [hpassed]
    cases counted with
    | false => exact (hcurrent.skipped (not_le.mp hfull)).noteOpening
    | true => exact (hcurrent.admitted hnow (not_le.mp hfull)).noteOpening

end Counts

end FixedWindow
