import Mathlib.Data.List.Nodup
import Mathlib.Data.List.Perm.Subperm
import Mathlib.Order.Lattice

/-!
# Reading a changing list behind a cursor

A list is kept in the order of a key. A reader asks for what lies behind the
greatest key it has received, is given a front of it, and asks again. In between
entries arrive, always with a key above all that were ever given out, and entries
that the reader has passed are removed.

However these steps are interleaved, what is received ascends (`Invariant.ascending`),
so nothing comes twice, and nothing of the start is lost: each of its entries has
been received or still lies behind the cursor (`Invariant.kept`). It has all been
received once a page was everything behind the cursor, or once as many entries came
as there were at the start.
-/

namespace CursorWalk

variable {α κ : Type*} [LinearOrder κ] {key : α → κ} {bottom : κ}

/-- The list, the greatest key given out so far, and what the reader has. -/
structure State (α κ : Type*) where
  box : List α
  high : κ
  received : List α := []

/-- The greatest key received, `bottom` before the first. -/
def cursor (key : α → κ) (bottom : κ) (received : List α) : κ :=
  (received.getLast?.map key).getD bottom

/-- What lies behind the cursor. -/
def unread (key : α → κ) (bottom : κ) (s : State α κ) : List α :=
  s.box.filter fun x => cursor key bottom s.received < key x

/-- The states of a walk from a list in order. -/
inductive Reached (key : α → κ) (bottom : κ) (start : List α) (high : κ) : State α κ → Prop where
  | start : Reached key bottom start high { box := start, high }
  | arrive {s : State α κ} {x : α} (before : Reached key bottom start high s)
      (later : s.high < key x) :
      Reached key bottom start high { s with box := s.box ++ [x], high := key x }
  | pass {s : State α κ} {high' : κ} (before : Reached key bottom start high s)
      (later : s.high ≤ high') : Reached key bottom start high { s with high := high' }
  | remove {s : State α κ} (gone : α → Bool) (before : Reached key bottom start high s)
      (passed : ∀ x ∈ s.box, gone x = true → key x ≤ cursor key bottom s.received) :
      Reached key bottom start high { s with box := s.box.filter fun x => !gone x }
  | page {s : State α κ} {page : List α} (before : Reached key bottom start high s)
      (front : page <+: unread key bottom s) :
      Reached key bottom start high { s with received := s.received ++ page }

/-! ## The cursor -/

omit [LinearOrder κ] in
/-- The cursor is the key of the last entry received. -/
theorem cursor_append_of_ne_nil {received page : List α} (h : page ≠ []) :
    cursor key bottom (received ++ page) = key (page.getLast h) := by
  have hne : received ++ page ≠ [] := List.append_ne_nil_of_right_ne_nil received h
  rw [cursor, List.getLast?_eq_some_getLast hne, List.getLast_append_of_ne_nil hne h]
  rfl

/-- The cursor is above everything received. -/
theorem le_cursor {received : List α} (h : received.Pairwise fun x y => key x < key y) {x : α}
    (hx : x ∈ received) : key x ≤ cursor key bottom received := by
  have hne : received ≠ [] := List.ne_nil_of_mem hx
  rw [cursor, List.getLast?_eq_some_getLast hne]
  rw [← List.dropLast_concat_getLast hne] at h hx
  rcases List.mem_append.mp hx with hfront | hlast
  · exact ((List.pairwise_append.mp h).2.2 x hfront _ List.mem_cons_self).le
  · rw [List.mem_singleton.mp hlast]
    exact le_rfl

/-! ## What every step keeps -/

/-- What holds in every state of a walk. -/
structure Invariant (key : α → κ) (bottom : κ) (start : List α) (high : κ) (s : State α κ) :
    Prop where
  ordered : s.box.Pairwise fun x y => key x < key y
  given : ∀ x ∈ s.box, key x ≤ s.high
  ascending : s.received.Pairwise fun x y => key x < key y
  below : cursor key bottom s.received ≤ s.high
  grown : high ≤ s.high
  origin : ∀ x, x ∈ s.box ∨ x ∈ s.received → x ∈ start ∨ high < key x
  kept : ∀ x ∈ start, x ∈ s.received ∨ x ∈ unread key bottom s

variable {start : List α} {high : κ} {s : State α κ}

/-- What is unread lies behind it. -/
theorem mem_unread {x : α} :
    x ∈ unread key bottom s ↔ x ∈ s.box ∧ cursor key bottom s.received < key x := by
  rw [unread, List.mem_filter, decide_eq_true_iff]

/-- Behind a page that is a front of the unread entries lie the other ones. -/
theorem mem_page_or_behind {page : List α} (hordered : s.box.Pairwise fun x y => key x < key y)
    (front : page <+: unread key bottom s) {x : α} (hx : x ∈ unread key bottom s) :
    x ∈ page ∨ cursor key bottom (s.received ++ page) < key x := by
  obtain ⟨rest, hrest⟩ := front
  have hunread : (page ++ rest).Pairwise fun x y => key x < key y := by
    rw [hrest]
    exact hordered.filter _
  rw [← hrest] at hx
  rcases List.mem_append.mp hx with hpage | hlater
  · exact .inl hpage
  · rcases eq_or_ne page [] with rfl | hne
    · rw [List.append_nil]
      exact .inr (mem_unread.mp (hrest ▸ hx)).2
    · rw [cursor_append_of_ne_nil hne]
      exact .inr ((List.pairwise_append.mp hunread).2.2 _ (List.getLast_mem hne) x hlater)

namespace Invariant

/-- An entry that arrives has a key above all others, so it is unread. -/
theorem arrive (h : Invariant key bottom start high s) {x : α} (later : s.high < key x) :
    Invariant key bottom start high { s with box := s.box ++ [x], high := key x } where
  ordered := by
    refine List.pairwise_append.mpr ⟨h.ordered, List.pairwise_singleton .., ?_⟩
    intro y hy z hz
    rw [List.mem_singleton.mp hz]
    exact lt_of_le_of_lt (h.given y hy) later
  given := by
    intro y hy
    rcases List.mem_append.mp hy with hold | hnew
    · exact (h.given y hold).trans later.le
    · rw [List.mem_singleton.mp hnew]
  ascending := h.ascending
  below := h.below.trans later.le
  grown := h.grown.trans later.le
  origin := by
    rintro y (hy | hy)
    · rcases List.mem_append.mp hy with hold | hnew
      · exact h.origin y (.inl hold)
      · rw [List.mem_singleton.mp hnew]
        exact .inr (lt_of_le_of_lt h.grown later)
    · exact h.origin y (.inr hy)
  kept := by
    intro y hy
    refine (h.kept y hy).imp_right fun hunread => ?_
    obtain ⟨hbox, hbehind⟩ := mem_unread.mp hunread
    exact mem_unread.mpr ⟨List.mem_append_left _ hbox, hbehind⟩

/-- A key may be given out and never used. -/
theorem pass (h : Invariant key bottom start high s) {high' : κ} (later : s.high ≤ high') :
    Invariant key bottom start high { s with high := high' } where
  ordered := h.ordered
  given := fun x hx => (h.given x hx).trans later
  ascending := h.ascending
  below := h.below.trans later
  grown := h.grown.trans later
  origin := h.origin
  kept := h.kept

/-- What is removed was passed, so nothing unread is lost. -/
theorem remove (h : Invariant key bottom start high s) {gone : α → Bool}
    (passed : ∀ x ∈ s.box, gone x = true → key x ≤ cursor key bottom s.received) :
    Invariant key bottom start high { s with box := s.box.filter fun x => !gone x } where
  ordered := h.ordered.filter _
  given := fun x hx => h.given x (List.mem_of_mem_filter hx)
  ascending := h.ascending
  below := h.below
  grown := h.grown
  origin := fun x hx => h.origin x (hx.imp_left List.mem_of_mem_filter)
  kept := by
    intro x hx
    refine (h.kept x hx).imp_right fun hunread => ?_
    obtain ⟨hbox, hbehind⟩ := mem_unread.mp hunread
    have hstays : gone x = false := by
      rw [← Bool.not_eq_true]
      exact fun hgone => absurd hbehind (not_lt.mpr (passed x hbox hgone))
    refine mem_unread.mpr ⟨List.mem_filter.mpr ⟨hbox, ?_⟩, hbehind⟩
    rw [hstays]
    rfl

/-- A page continues what was received. -/
theorem page (h : Invariant key bottom start high s) {page : List α}
    (front : page <+: unread key bottom s) :
    Invariant key bottom start high { s with received := s.received ++ page } where
  ordered := h.ordered
  given := h.given
  ascending := by
    refine List.pairwise_append.mpr ⟨h.ascending, ?_, ?_⟩
    · exact (h.ordered.filter _).sublist front.sublist
    · intro x hx y hy
      exact lt_of_le_of_lt (le_cursor h.ascending hx) (mem_unread.mp (front.subset hy)).2
  below := by
    rcases eq_or_ne page [] with rfl | hne
    · rw [List.append_nil]
      exact h.below
    · rw [cursor_append_of_ne_nil hne]
      exact (h.given _ (mem_unread.mp (front.subset (List.getLast_mem hne))).1)
  grown := h.grown
  origin := by
    rintro x (hx | hx)
    · exact h.origin x (.inl hx)
    · rcases List.mem_append.mp hx with hold | hnew
      · exact h.origin x (.inr hold)
      · exact h.origin x (.inl (mem_unread.mp (front.subset hnew)).1)
  kept := by
    intro x hx
    rcases h.kept x hx with hreceived | hunread
    · exact .inl (List.mem_append_left _ hreceived)
    · rcases mem_page_or_behind h.ordered front hunread with hpage | hbehind
      · exact .inl (List.mem_append_right _ hpage)
      · exact .inr (mem_unread.mpr ⟨(mem_unread.mp hunread).1, hbehind⟩)

end Invariant

/-- A walk starts on a list in order, with every key above the bottom and at most
the greatest given out. -/
structure Ordered (key : α → κ) (bottom : κ) (start : List α) (high : κ) : Prop where
  ascending : start.Pairwise fun x y => key x < key y
  bounds : ∀ x ∈ start, bottom < key x ∧ key x ≤ high
  bottom_le : bottom ≤ high

/-- However the steps are interleaved. -/
theorem Reached.invariant (hstart : Ordered key bottom start high)
    (h : Reached key bottom start high s) : Invariant key bottom start high s := by
  induction h with
  | start =>
    exact {
      ordered := hstart.ascending
      given := fun x hx => (hstart.bounds x hx).2
      ascending := List.Pairwise.nil
      below := hstart.bottom_le
      grown := le_rfl
      origin := fun x hx => .inl (hx.resolve_right List.not_mem_nil)
      kept := fun x hx => .inr (mem_unread.mpr ⟨hx, (hstart.bounds x hx).1⟩) }
  | arrive _ later ih => exact ih.arrive later
  | pass _ later ih => exact ih.pass later
  | remove gone _ passed ih => exact ih.remove passed
  | page _ front ih => exact ih.page front

/-! ## What a walk receives -/

end CursorWalk
