import Mathlib.Data.List.Induction

/-!
# The last write wins

Writes to the parts of a state, taken one after the other. If every write either
sets a part or leaves it alone, the part ends with the last value written to
it, or with what it was before.

A part is what a function of the writes picks out, so a state has as many parts as one cares
to name. The result is the reason why the order of independent settings in a file does not
matter.
-/

namespace LastWrite

variable {State Write Value : Type*}

/-- The last value the writes give to a part, if there is one. -/
def last (part : Write → Option Value) (writes : List Write) : Option Value :=
  (writes.filterMap part).getLast?

theorem last_append (part : Write → Option Value) (writes writes' : List Write) :
    last part (writes ++ writes') = (last part writes').or (last part writes) := by
  simp [last, List.getLast?_append]

theorem last_eq_none_iff {part : Write → Option Value} {writes : List Write} :
    last part writes = none ↔ ∀ write ∈ writes, part write = none := by
  rw [last, List.getLast?_eq_none_iff, List.filterMap_eq_nil_iff]

/-- The last value was written. -/
theorem exists_mem_of_last {part : Write → Option Value} {writes : List Write} {value : Value}
    (h : last part writes = some value) : ∃ write ∈ writes, part write = some value :=
  List.mem_filterMap.mp (List.mem_of_getLast? h)

/-- A part that gets one value only, however often. -/
theorem last_eq_some_of_unique {part : Write → Option Value} {writes : List Write} {value : Value}
    (hwritten : ∃ write ∈ writes, part write = some value)
    (hunique : ∀ write ∈ writes, ∀ other, part write = some other → other = value) :
    last part writes = some value := by
  rcases hlast : last part writes with _ | other
  · obtain ⟨write, hmem, hvalue⟩ := hwritten
    rw [last_eq_none_iff.mp hlast write hmem] at hvalue
    cases hvalue
  · obtain ⟨write, hmem, hvalue⟩ := exists_mem_of_last hlast
    rw [hunique write hmem other hvalue]

/-- What a part is after all the writes. -/
theorem foldl_eq {apply : State → Write → State} {read : State → Value}
    {part : Write → Option Value}
    (hwrite : ∀ state write, read (apply state write) = (part write).getD (read state))
    (state : State) (writes : List Write) :
    read (writes.foldl apply state) = (last part writes).getD (read state) := by
  induction writes using List.reverseRecOn with
  | nil => rfl
  | append_singleton writes write ih =>
    rw [List.foldl_append, List.foldl_cons, List.foldl_nil, last_append, hwrite, ih]
    rcases hpart : part write with _ | value <;> simp [last, hpart]

end LastWrite
