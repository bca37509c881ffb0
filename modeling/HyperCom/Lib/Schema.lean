import Mathlib.Data.List.Nodup
import HyperCom.Lib.Rows

/-!
# Keys and references

What `UNIQUE`, `PRIMARY KEY` and `REFERENCES` say of the rows of a table, and which
statements keep it: a key is on one row at most (`Unique`), and what a row refers to is
there (`Refers`); a `NULL` refers to nothing.

Each constraint has one lemma for each of the three ways a table changes: a row is added,
rows are updated, rows are deleted. The constraint of an AUTOINCREMENT column, `Numbered`,
is with the rows (`Lib.Rows`): ids ascend in the order of the rows and none is above the
sequence.
-/

namespace RowStore

variable {α κ : Type}

/-! ## The constraints -/

/-- No two rows have the same key. -/
def Unique (key : α → κ) (rows : List α) : Prop := (rows.map key).Nodup

/-- What a row refers to is one of the keys. -/
def Refers (reference : α → Option κ) (rows : List α) (keys : List κ) : Prop :=
  ∀ row ∈ rows, ∀ key ∈ reference row, key ∈ keys

/-! ## No key is lost -/

section Kept

variable {key : α → κ} {rows : List α} {id : κ}

theorem key_mem_append {row : α} (h : id ∈ rows.map key) : id ∈ (rows ++ [row]).map key := by
  rw [List.map_append]
  exact List.mem_append_left _ h

theorem key_mem_update {p : α → Bool} {f : α → α} (hkey : ∀ row, key (f row) = key row)
    (h : id ∈ rows.map key) : id ∈ (updateWhere p f rows).map key := by
  rw [map_updateWhere hkey]
  exact h

end Kept

/-- What holds of every row and of the new one. -/
theorem forall_mem_upsert {p : α → Prop} {rows : List α} {conflicts : α → Bool} {row : α}
    (h : ∀ old ∈ rows, p old) (hrow : p row) : ∀ other ∈ upsert conflicts row rows, p other := by
  intro other hother
  rw [upsert] at hother
  split at hother
  · obtain ⟨old, hold, rfl⟩ := List.mem_map.mp hother
    split
    · exact hrow
    · exact h old hold
  · rcases List.mem_append.mp hother with hold | hnew
    · exact h other hold
    · rw [List.mem_singleton.mp hnew]
      exact hrow

namespace Unique

variable {key : α → κ} {rows : List α}

theorem nil : Unique key [] := List.nodup_nil

theorem append (h : Unique key rows) {row : α} (hfresh : ∀ old ∈ rows, key old ≠ key row) :
    Unique key (rows ++ [row]) := by
  rw [Unique, List.map_append]
  refine List.nodup_append.mpr ⟨h, List.nodup_singleton _, fun first hfirst second hsecond => ?_⟩
  obtain ⟨old, hold, rfl⟩ := List.mem_map.mp hfirst
  rw [List.map_singleton, List.mem_singleton] at hsecond
  rw [hsecond]
  exact hfresh old hold

/-- An update that leaves the key alone. -/
theorem update (h : Unique key rows) {p : α → Bool} {f : α → α}
    (hkey : ∀ row, key (f row) = key row) : Unique key (updateWhere p f rows) := by
  rw [Unique, map_updateWhere hkey]
  exact h

theorem delete (h : Unique key rows) {p : α → Bool} : Unique key (deleteWhere p rows) :=
  h.sublist (List.filter_sublist.map key)

/-- The conflict is on the key: the row in its place has the same key. -/
theorem upsert (h : Unique key rows) {conflicts : α → Bool} {row : α}
    (hconflicts : ∀ old, conflicts old = true ↔ key old = key row) :
    Unique key (upsert conflicts row rows) := by
  rw [RowStore.upsert]
  split
  · have hkeys : (updateWhere conflicts (fun _ => row) rows).map key = rows.map key := by
      rw [updateWhere, List.map_map]
      refine List.map_congr_left fun old _ => ?_
      rw [Function.comp_apply]
      split
      · next hconflict => exact ((hconflicts old).mp hconflict).symm
      · rfl
    rw [Unique, hkeys]
    exact h
  · next hnone =>
    rw [Bool.not_eq_true, List.any_eq_false] at hnone
    exact h.append fun old hold hkey => hnone old hold ((hconflicts old).mpr hkey)

/-- The row with a key is determined. -/
theorem eq_of_key (h : Unique key rows) {first second : α} (hfirst : first ∈ rows)
    (hsecond : second ∈ rows) (hkey : key first = key second) : first = second :=
  List.inj_on_of_nodup_map h hfirst hsecond hkey

end Unique

/-- Ids that were given out one after the other. -/
theorem Numbered.unique {key : α → ℤ} {top sequence : ℤ} {rows : List α}
    (h : Numbered key top rows sequence) : Unique key rows :=
  List.pairwise_map.mpr (h.ascending.imp Int.ne_of_lt)

namespace Refers

variable {reference : α → Option κ} {rows : List α} {keys : List κ}

theorem nil : Refers reference [] keys := fun _ hrow => absurd hrow List.not_mem_nil

/-- The table referred to has not lost a key. -/
theorem mono (h : Refers reference rows keys) {keys' : List κ} (hkeys : ∀ key ∈ keys, key ∈ keys') :
    Refers reference rows keys' :=
  fun row hrow key hkey => hkeys key (h row hrow key hkey)

theorem append (h : Refers reference rows keys) {row : α} (hnew : ∀ key ∈ reference row, key ∈ keys) :
    Refers reference (rows ++ [row]) keys := by
  intro other hother
  rcases List.mem_append.mp hother with hold | hsame
  · exact h other hold
  · rw [List.mem_singleton.mp hsame]
    exact hnew

/-- An update that leaves the reference alone. -/
theorem update (h : Refers reference rows keys) {p : α → Bool} {f : α → α}
    (hreference : ∀ row, reference (f row) = reference row) :
    Refers reference (updateWhere p f rows) keys := by
  intro row hrow
  obtain ⟨old, hold, rfl⟩ := List.mem_map.mp hrow
  split
  · rw [hreference]
    exact h old hold
  · exact h old hold

theorem delete (h : Refers reference rows keys) {p : α → Bool} :
    Refers reference (deleteWhere p rows) keys :=
  fun row hrow => h row (List.mem_of_mem_filter hrow)

theorem upsert (h : Refers reference rows keys) {conflicts : α → Bool} {row : α}
    (hnew : ∀ key ∈ reference row, key ∈ keys) :
    Refers reference (upsert conflicts row rows) keys :=
  forall_mem_upsert h hnew

end Refers

end RowStore
