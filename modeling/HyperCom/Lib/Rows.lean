import Mathlib.Data.Int.Notation
import Mathlib.Data.List.Basic
import Mathlib.Data.List.Forall2
import Mathlib.Data.List.Pairwise
import Mathlib.Order.Basic

/-!
# Tables as lists of rows

The three statements a table is written with besides `INSERT`, as functions on
the list of its rows, and what each of them leaves alone. `q` selects the rows
somebody else owns; a statement whose condition never selects such a row keeps
all of them, in order.

`updateWhere`, `deleteWhere` and `upsert` are the three; each has a lemma about the rows `q`
selects, one about membership, and one about a key that it does not touch. Nothing here
knows of a database.
-/

namespace RowStore

variable {α : Type}

/-- `UPDATE … WHERE p` -/
def updateWhere (p : α → Bool) (f : α → α) (rows : List α) : List α :=
  rows.map fun row => if p row then f row else row

/-- `DELETE … WHERE p` -/
def deleteWhere (p : α → Bool) (rows : List α) : List α :=
  rows.filter fun row => !p row

/-- `INSERT … ON CONFLICT DO UPDATE`, where `conflicts` selects the rows with the
key of the new row. -/
def upsert (conflicts : α → Bool) (row : α) (rows : List α) : List α :=
  if rows.any conflicts then updateWhere conflicts (fun _ => row) rows else rows ++ [row]

variable {q : α → Bool}

theorem filter_updateWhere {p : α → Bool} {f : α → α}
    (hp : ∀ row, p row = true → q row = false ∧ q (f row) = false) (rows : List α) :
    (updateWhere p f rows).filter q = rows.filter q := by
  induction rows with
  | nil => rfl
  | cons row rows ih =>
    change List.filter q ((if p row then f row else row) :: updateWhere p f rows) = _
    by_cases hrow : p row = true
    · rw [if_pos hrow, List.filter_cons_of_neg (by simp [hp row hrow]),
        List.filter_cons_of_neg (by simp [hp row hrow]), ih]
    · rw [if_neg hrow]
      simp only [List.filter_cons, ih]

theorem filter_deleteWhere {p : α → Bool} (hp : ∀ row, p row = true → q row = false)
    (rows : List α) : (deleteWhere p rows).filter q = rows.filter q := by
  rw [deleteWhere, List.filter_filter]
  refine List.filter_congr fun row _ => ?_
  cases hrow : p row with
  | false => simp
  | true => simp [hp row hrow]

/-- The rows of one owner are some of those that are not another's. -/
theorem filter_others {owner : α → ℤ} {id other : ℤ} (hother : other ≠ id) (rows : List α) :
    (rows.filter fun row => owner row ≠ other).filter (fun row => owner row = id) =
      rows.filter fun row => owner row = id := by
  rw [List.filter_filter]
  refine List.filter_congr fun row _ => ?_
  by_cases hrow : owner row = id
  · simp [hrow, hother.symm]
  · simp [hrow]

/-- What leaves the rows of all but one owner leaves those of the others. -/
theorem filter_of_others {owner : α → ℤ} {id other : ℤ} (hother : other ≠ id) {rows rows' : List α}
    (h : (rows'.filter fun row => owner row ≠ other) = rows.filter fun row => owner row ≠ other) :
    (rows'.filter fun row => owner row = id) = rows.filter fun row => owner row = id := by
  rw [← filter_others hother rows', h, filter_others hother]

theorem filter_append_singleton {row : α} (hrow : q row = false) (rows : List α) :
    (rows ++ [row]).filter q = rows.filter q := by
  simp [hrow]

theorem filter_upsert {conflicts : α → Bool} {row : α}
    (hconflicts : ∀ row, conflicts row = true → q row = false) (hrow : q row = false)
    (rows : List α) : (upsert conflicts row rows).filter q = rows.filter q := by
  unfold upsert
  split
  · exact filter_updateWhere (fun r hr => ⟨hconflicts r hr, hrow⟩) rows
  · exact filter_append_singleton hrow rows

/-- An upsert brings in no row but its own. -/
theorem mem_upsert {conflicts : α → Bool} {row r : α} {rows : List α}
    (h : r ∈ upsert conflicts row rows) : r ∈ rows ∨ r = row := by
  unfold upsert at h
  split at h
  · obtain ⟨old, hold, rfl⟩ := List.mem_map.mp h
    split
    · exact .inr rfl
    · exact .inl hold
  · rcases List.mem_append.mp h with h | h
    · exact .inl h
    · exact .inr (List.mem_singleton.mp h)

/-- Without a conflict an upsert is an insert. -/
theorem upsert_of_fresh {conflicts : α → Bool} {row : α} {rows : List α}
    (h : ∀ r ∈ rows, conflicts r = false) : upsert conflicts row rows = rows ++ [row] := by
  rw [upsert, if_neg]
  simpa using h

/-- In ascending order of a key, the same key is the same row. -/
theorem eq_of_key {κ : Type} [LT κ] [Std.Irrefl (· < · : κ → κ → Prop)] {key : α → κ}
    {rows : List α}
    (h : rows.Pairwise fun first second => key first < key second) {first second : α}
    (hfirst : first ∈ rows) (hsecond : second ∈ rows) (hkey : key first = key second) :
    first = second := by
  have hdistinct : rows.Pairwise fun first second => key first ≠ key second := by
    refine h.imp fun {first second} hlt hsame => ?_
    rw [hsame] at hlt
    exact Std.Irrefl.irrefl _ hlt
  have hsymm : Std.Symm fun first second : α => key first ≠ key second := ⟨fun _ _ => Ne.symm⟩
  by_contra hne
  exact hdistinct.forall hfirst hsecond hne hkey

/-- An update that selects the same rows. -/
theorem updateWhere_congr {p p' : α → Bool} {f : α → α} {rows : List α}
    (h : ∀ row ∈ rows, p row = p' row) : updateWhere p f rows = updateWhere p' f rows :=
  List.map_congr_left fun row hrow => by rw [h row hrow]

/-- Where a key is on one row at most, an update that selects a row with the key updates it. -/
theorem updateWhere_of_key {κ : Type} [DecidableEq κ] (key : α → κ) (id : κ) {p : α → Bool}
    {f : α → α} {rows : List α}
    (hunique : ∀ first ∈ rows, ∀ second ∈ rows, key first = key second → first = second)
    (hkey : ∀ row, p row = true → key row = id) (hselected : 0 < rows.countP p) :
    updateWhere p f rows = updateWhere (fun row => key row = id) f rows ∧
      ∃ row ∈ rows, key row = id := by
  obtain ⟨chosen, hchosen, hp⟩ := List.countP_pos_iff.mp hselected
  have hid := hkey chosen hp
  refine ⟨updateWhere_congr fun row hrow => ?_, chosen, hchosen, hid⟩
  by_cases hsame : key row = id
  · obtain rfl := hunique row hrow chosen hchosen (hsame.trans hid.symm)
    rw [hp, decide_eq_true hid]
  · rw [decide_eq_false hsame]
    exact Bool.eq_false_iff.mpr fun hrowp => hsame (hkey row hrowp)

/-! ## A settled row -/

/-- The row with a key is there, and it has a property. -/
def Settled {κ : Type} (key : α → κ) (p : α → Prop) (id : κ) (rows : List α) : Prop :=
  (∃ row ∈ rows, key row = id) ∧ ∀ row ∈ rows, key row = id → p row

namespace Settled

variable {κ : Type} {key : α → κ} {p : α → Prop} {id : κ} {rows : List α}

theorem append (h : Settled key p id rows) {row : α} (hkey : key row ≠ id) :
    Settled key p id (rows ++ [row]) := by
  obtain ⟨⟨settled, hmem, hid⟩, hall⟩ := h
  refine ⟨⟨settled, List.mem_append_left _ hmem, hid⟩, fun other hother hsame => ?_⟩
  rcases List.mem_append.mp hother with hold | hnew
  · exact hall other hold hsame
  · rw [List.mem_singleton.mp hnew] at hsame
    exact absurd hsame hkey

theorem update (h : Settled key p id rows) {selected : α → Bool} {f : α → α}
    (hkey : ∀ row, key (f row) = key row) (hp : ∀ row, p row → p (f row)) :
    Settled key p id (updateWhere selected f rows) := by
  obtain ⟨⟨settled, hmem, hid⟩, hall⟩ := h
  refine ⟨⟨_, List.mem_map_of_mem hmem, ?_⟩, fun row hrow hsame => ?_⟩
  · split
    · rw [hkey, hid]
    · exact hid
  · obtain ⟨old, hold, rfl⟩ := List.mem_map.mp hrow
    split at hsame
    next hselected =>
      rw [if_pos hselected]
      exact hp old (hall old hold (hkey old ▸ hsame))
    next hselected =>
      rw [if_neg hselected]
      exact hall old hold hsame

end Settled

/-! ## Numbered rows -/

/-- Rows with ascending positive keys that a sequence has given out. -/
structure Numbered (key : α → ℤ) (top : ℤ) (rows : List α) (sequence : ℤ) : Prop where
  sequence_nonneg : 0 ≤ sequence
  ascending : rows.Pairwise fun first second => key first < key second
  given_out : ∀ row ∈ rows, 0 < key row ∧ key row ≤ sequence ∧ key row ≤ top

namespace Numbered

variable {key : α → ℤ} {top sequence : ℤ} {rows : List α}

theorem nil : Numbered key top [] 0 :=
  ⟨Int.le_refl 0, List.Pairwise.nil, fun _ hrow => absurd hrow List.not_mem_nil⟩

/-- The next row gets the next key. -/
theorem append (h : Numbered key top rows sequence) {row : α} (hkey : key row = sequence + 1)
    (hroom : sequence < top) : Numbered key top (rows ++ [row]) (key row) where
  sequence_nonneg := by
    have hnonneg := h.sequence_nonneg
    omega
  ascending := by
    refine List.pairwise_append.mpr ⟨h.ascending, List.pairwise_singleton .., ?_⟩
    intro first hfirst second hsecond
    have hgiven := h.given_out first hfirst
    rw [List.mem_singleton.mp hsecond]
    omega
  given_out := by
    have hnonneg := h.sequence_nonneg
    intro other hother
    rcases List.mem_append.mp hother with hold | hnew
    · have hgiven := h.given_out other hold
      omega
    · rw [List.mem_singleton.mp hnew]
      omega

/-- An update that leaves the keys alone. -/
theorem update (h : Numbered key top rows sequence) {p : α → Bool} {f : α → α}
    (hkey : ∀ row, key (f row) = key row) : Numbered key top (updateWhere p f rows) sequence where
  sequence_nonneg := h.sequence_nonneg
  ascending := by
    refine List.pairwise_map.mpr (h.ascending.imp fun hlt => ?_)
    split <;> split <;> simpa only [hkey] using hlt
  given_out := by
    intro row hrow
    obtain ⟨old, hold, rfl⟩ := List.mem_map.mp hrow
    split
    · rw [hkey]
      exact h.given_out old hold
    · exact h.given_out old hold

/-- A deletion. -/
theorem delete (h : Numbered key top rows sequence) {p : α → Bool} :
    Numbered key top (deleteWhere p rows) sequence where
  sequence_nonneg := h.sequence_nonneg
  ascending := h.ascending.filter _
  given_out := fun row hrow => h.given_out row (List.mem_of_mem_filter hrow)

theorem eq_of_key (h : Numbered key top rows sequence) {first second : α} (hfirst : first ∈ rows)
    (hsecond : second ∈ rows) (hkey : key first = key second) : first = second :=
  RowStore.eq_of_key h.ascending hfirst hsecond hkey

end Numbered

/-! ## Row by row -/

section Rowwise

variable {R : α → α → Prop}

/-- An update that keeps `f` of a row keeps the list of them. -/
theorem map_updateWhere {β : Type} {p : α → Bool} {f : α → β} {g : α → α}
    (h : ∀ row, f (g row) = f row) (rows : List α) :
    (updateWhere p g rows).map f = rows.map f := by
  rw [updateWhere, List.map_map]
  refine List.map_congr_left fun row _ => ?_
  rw [Function.comp_apply]
  split
  · exact h row
  · rfl

/-- So does an update that keeps which rows are selected and `f` of them. -/
theorem map_filter_updateWhere {β : Type} {p q : α → Bool} {f : α → β} {g : α → α}
    (hselected : ∀ row, q (g row) = q row) (h : ∀ row, f (g row) = f row) (rows : List α) :
    ((updateWhere p g rows).filter q).map f = (rows.filter q).map f := by
  induction rows with
  | nil => rfl
  | cons row rows ih =>
    have hrow : q (if p row then g row else row) = q row ∧
        f (if p row then g row else row) = f row := by
      split
      · exact ⟨hselected row, h row⟩
      · exact ⟨rfl, rfl⟩
    rw [updateWhere] at ih ⊢
    rw [List.map_cons, List.filter_cons, List.filter_cons, hrow.1]
    split
    · rw [List.map_cons, List.map_cons, hrow.2, ih]
    · exact ih

theorem forall₂_self (hrefl : ∀ row, R row row) (rows : List α) : List.Forall₂ R rows rows :=
  List.forall₂_same.mpr fun row _ => hrefl row

/-- An update changes the rows it selects, and keeps the others. -/
theorem forall₂_updateWhere {p : α → Bool} {f : α → α} (h : ∀ row, p row = true → R row (f row))
    (hrefl : ∀ row, R row row) (rows : List α) : List.Forall₂ R rows (updateWhere p f rows) := by
  rw [updateWhere, List.forall₂_map_right_iff]
  refine List.forall₂_same.mpr fun row _ => ?_
  split
  · next hselected => exact h row hselected
  · exact hrefl row

/-- Row by row, by induction on the first list. -/
theorem forall₂_trans (htrans : ∀ {first second third : α}, R first second → R second third →
    R first third) {rows rows' rows'' : List α} (h : List.Forall₂ R rows rows')
    (h' : List.Forall₂ R rows' rows'') : List.Forall₂ R rows rows'' := by
  induction h generalizing rows'' with
  | nil => exact h'
  | cons hrow _ ih =>
    obtain ⟨row, rest, hrow', hrest, rfl⟩ := List.forall₂_cons_left_iff.mp h'
    exact .cons (htrans hrow hrow') (ih hrest)

end Rowwise

end RowStore
