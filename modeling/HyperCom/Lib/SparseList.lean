import Mathlib.Data.List.Basic
import Mathlib.Data.List.Enum
import Mathlib.Order.Basic

/-!
# Lists with blank entries

A list is determined by its entries that are not blank and their positions: writing
them into a list of blanks of the same length gives the list back.

So a list with many blanks can be stored as its occupied positions, as a table does that has
one row for each.
-/

namespace SparseList

variable {α : Type} {isBlank : α → Bool}

/-- The entries that are not blank, each with its position. -/
def occupied (isBlank : α → Bool) (entries : List α) : List (α × ℕ) :=
  entries.zipIdx.filter fun entry => !isBlank entry.1

/-- Entries written at their positions, one after the other. -/
def fill (array : List α) (written : List (α × ℕ)) : List α :=
  written.foldl (fun array entry => array.set entry.2 entry.1) array

theorem position_lt {entries : List α} {entry : α × ℕ} (h : entry ∈ occupied isBlank entries) :
    entry.2 < entries.length :=
  List.snd_lt_of_mem_zipIdx (List.mem_of_mem_filter h)

/-- The positions ascend. -/
theorem occupied_ascending (entries : List α) :
    (occupied isBlank entries).Pairwise fun first second => first.2 < second.2 := by
  refine List.Pairwise.filter _ ?_
  rw [← List.pairwise_map (f := Prod.snd) (R := (· < ·)), List.zipIdx_map_snd]
  exact List.pairwise_lt_range'

/-- Behind entries that are already there. -/
theorem fill_behind {blank : α} (hblank : ∀ entry, isBlank entry = true → entry = blank)
    (entries written : List α) :
    fill (written ++ List.replicate entries.length blank)
        ((entries.zipIdx written.length).filter fun entry => !isBlank entry.1) =
      written ++ entries := by
  induction entries generalizing written with
  | nil => rfl
  | cons entry entries ih =>
    have hrest := ih (written ++ [entry])
    rw [List.length_append, List.length_singleton, List.append_assoc, List.append_assoc] at hrest
    rw [List.zipIdx_cons]
    cases hentry : isBlank entry with
    | true =>
      rw [List.filter_cons_of_neg (by simp [hentry]), List.length_cons, List.replicate_succ,
        ← hblank entry hentry]
      rw [← hblank entry hentry] at hrest
      exact hrest
    | false =>
      have hset : (written ++ blank :: List.replicate entries.length blank).set written.length entry =
          written ++ ([entry] ++ List.replicate entries.length blank) := by
        simp [List.set_append_right]
      rw [List.filter_cons_of_pos (by simp [hentry]), fill, List.foldl_cons, List.length_cons,
        List.replicate_succ, hset]
      exact hrest

theorem fill_occupied {blank : α} (hblank : ∀ entry, isBlank entry = true → entry = blank)
    (entries : List α) :
    fill (List.replicate entries.length blank) (occupied isBlank entries) = entries :=
  fill_behind hblank entries []

end SparseList
