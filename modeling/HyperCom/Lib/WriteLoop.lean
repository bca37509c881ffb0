import Mathlib.Data.List.Basic

/-!
# Handing bytes over in several attempts

A loop that offers what is left of some data until all of it was taken. Each
attempt takes a part of it, asks to be repeated, or fails, and a failure ends
the loop. A loop that reports success has handed all of it over, and it reports
failure exactly when an attempt fails before.

The attempts of one loop are given as a list. A loop whose attempts run out has
not come back.
-/

namespace WriteLoop

/-- What one attempt comes to. -/
inductive Attempt where
  | accepted (count : ℕ)
  | retry
  | failed

/-- What an attempt takes at most. -/
def Attempt.count : Attempt → ℕ
  | .accepted count => count
  | .retry => 0
  | .failed => 0

variable {α : Type*} {attempts : List Attempt} {data : List α} {size : ℕ}

/-- The loop: its result, if it comes back, and what was taken. -/
def writeAll : List Attempt → List α → Option Bool × List α
  | _, [] => (some true, [])
  | [], _ :: _ => (none, [])
  | .accepted count :: attempts, data@(_ :: _) =>
    let out := writeAll attempts (data.drop count)
    (out.1, data.take count ++ out.2)
  | .retry :: attempts, data@(_ :: _) => writeAll attempts data
  | .failed :: _, _ :: _ => (some false, [])

@[simp] theorem writeAll_nil (attempts : List Attempt) :
    writeAll attempts ([] : List α) = (some true, []) := by
  cases attempts <;> simp [writeAll]

/-- A loop that reports success handed everything over. -/
theorem writeAll_true (h : (writeAll attempts data).1 = some true) :
    (writeAll attempts data).2 = data := by
  induction attempts, data using writeAll.induct with
  | case1 attempts => simp
  | case2 value rest => simp [writeAll] at h
  | case3 count attempts value rest ih =>
    simp only [writeAll] at h ⊢
    rw [ih h, List.take_append_drop]
  | case4 attempts value rest ih =>
    simp only [writeAll] at h ⊢
    exact ih h
  | case5 attempts value rest => simp [writeAll] at h

/-- What several attempts take at most. -/
def countAll : List Attempt → ℕ
  | [] => 0
  | attempt :: attempts => attempt.count + countAll attempts

/-- Every failure among the attempts comes after so much was taken. -/
def FailsAfter (attempts : List Attempt) (size : ℕ) : Prop :=
  ∀ before after, attempts = before ++ .failed :: after → size ≤ countAll before

theorem failsAfter_zero (attempts : List Attempt) : FailsAfter attempts 0 :=
  fun _ _ _ => Nat.zero_le _

theorem failsAfter_nil : FailsAfter [] size := fun before after h => by simp at h

theorem failsAfter_failed : FailsAfter (.failed :: attempts) size ↔ size = 0 := by
  constructor
  · intro h
    exact Nat.le_zero.mp (h [] attempts rfl)
  · rintro rfl
    exact failsAfter_zero _

theorem failsAfter_cons {attempt : Attempt} (h : attempt ≠ .failed) :
    FailsAfter (attempt :: attempts) size ↔ FailsAfter attempts (size - attempt.count) := by
  constructor
  · rintro hall before after rfl
    have hbefore := hall (attempt :: before) after rfl
    rw [countAll] at hbefore
    omega
  · rintro hall (_ | ⟨first, before⟩) after hsplit
    · exact absurd (List.cons.inj hsplit).1 h
    · obtain ⟨rfl, rfl⟩ := List.cons.inj hsplit
      have hbefore := hall before after rfl
      rw [countAll]
      omega

/-- The loop reports failure exactly when an attempt fails before the data is
over. -/
theorem writeAll_false_iff :
    (writeAll attempts data).1 = some false ↔ ¬ FailsAfter attempts data.length := by
  induction attempts, data using writeAll.induct with
  | case1 attempts => simp [failsAfter_zero]
  | case2 value rest => simp [writeAll, failsAfter_nil]
  | case3 count attempts value rest ih =>
    rw [failsAfter_cons Attempt.noConfusion]
    simpa only [writeAll, List.length_drop, Attempt.count] using ih
  | case4 attempts value rest ih =>
    rw [failsAfter_cons Attempt.noConfusion]
    simpa only [writeAll, Attempt.count, Nat.sub_zero] using ih
  | case5 attempts value rest => simp [writeAll, failsAfter_failed]

/-- What the attempts before the first failure take at most. -/
def countBeforeFailure : List Attempt → ℕ
  | [] => 0
  | .failed :: _ => 0
  | .accepted count :: attempts => count + countBeforeFailure attempts
  | .retry :: attempts => countBeforeFailure attempts

/-- What was taken is the front of the data. -/
theorem writeAll_taken (attempts : List Attempt) (data : List α) :
    (writeAll attempts data).2 = data.take (countBeforeFailure attempts) := by
  induction attempts, data using writeAll.induct with
  | case1 attempts => simp
  | case2 value rest => simp [writeAll, countBeforeFailure]
  | case3 count attempts value rest ih =>
    simp only [writeAll, countBeforeFailure, ih]
    rw [List.take_add]
  | case4 attempts value rest ih =>
    simp only [writeAll, countBeforeFailure]
    exact ih
  | case5 attempts value rest => simp [writeAll, countBeforeFailure]

/-- The loop comes back when everything was taken, or when an attempt fails. -/
theorem writeAll_isSome_iff (attempts : List Attempt) (data : List α) :
    (writeAll attempts data).1.isSome = true ↔
      data.length ≤ countBeforeFailure attempts ∨ .failed ∈ attempts := by
  induction attempts, data using writeAll.induct with
  | case1 attempts => simp
  | case2 value rest => simp [writeAll, countBeforeFailure]
  | case3 count attempts value rest ih =>
    have hleft : (List.drop count (value :: rest)).length = (value :: rest).length - count :=
      List.length_drop
    simp only [writeAll, countBeforeFailure, ih, hleft, List.mem_cons, reduceCtorEq, false_or,
      Nat.sub_le_iff_le_add']
  | case4 attempts value rest ih =>
    simp only [writeAll, countBeforeFailure, ih, List.mem_cons, reduceCtorEq, false_or]
  | case5 attempts value rest => simp [writeAll]

/-- When the loop comes back with none of the data taken. -/
theorem writeAll_untouched_iff (hdata : data ≠ []) :
    ((writeAll attempts data).1.isSome = true ∧ (writeAll attempts data).2 = []) ↔
      countBeforeFailure attempts = 0 ∧ .failed ∈ attempts := by
  have hlength : 0 < data.length := List.length_pos_iff.mpr hdata
  rw [writeAll_isSome_iff, writeAll_taken, List.take_eq_nil_iff]
  constructor
  · rintro ⟨hback, hnone⟩
    have hcount := hnone.resolve_right hdata
    exact ⟨hcount, hback.resolve_left (by omega)⟩
  · rintro ⟨hcount, hfailed⟩
    exact ⟨.inr hfailed, .inl hcount⟩

end WriteLoop
