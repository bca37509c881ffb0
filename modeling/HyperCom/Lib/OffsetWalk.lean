import Mathlib.Data.List.Basic

/-!
# Paging a growing list by offset

A list is kept in order and only grows, anywhere. A reader asks for what comes behind
as many entries as it has received, is given a front of that, and asks again.

What arrives in front of the reader moves entries back, never forward: it may receive
an entry again, but skips none. Once nothing is left it has received the list it
started on, in its order, among what came twice or arrived since (`Invariant.complete`);
it has received nothing else, and no more than there is.
-/

namespace OffsetWalk

variable {α : Type*}

/-! ## Growing in order -/

section Sorted

variable {le : α → α → Bool} (trans : ∀ a b c, le a b = true → le b c = true → le a c = true)
  (total : ∀ a b, (le a b || le b a) = true)

include trans total

/-- A new entry comes before those that are not smaller. -/
theorem mergeSort_cons_filter (a : α) (l : List α) :
    (a :: l).mergeSort le =
      ((l.mergeSort le).filter fun b => !le a b) ++ a :: (l.mergeSort le).filter fun b => le a b := by
  obtain ⟨front, rest, hsorted, hsplit, hfront⟩ := List.mergeSort_cons trans total a l
  have hpairs := List.pairwise_mergeSort trans total (a :: l)
  rw [hsorted, List.pairwise_append] at hpairs
  have hrest : ∀ b ∈ rest, le a b = true := fun b hb => List.rel_of_pairwise_cons hpairs.2.1 hb
  have hkeep : front.filter (fun b => !le a b) = front := List.filter_eq_self.mpr hfront
  have hdrop : rest.filter (fun b => !le a b) = [] := by
    rw [List.filter_eq_nil_iff]
    intro b hb
    rw [hrest b hb]
    decide
  have hnone : front.filter (fun b => le a b) = [] := by
    rw [List.filter_eq_nil_iff]
    intro b hb
    rw [Bool.not_eq_true, ← Bool.not_eq_true']
    exact hfront b hb
  have hall : rest.filter (fun b => le a b) = rest := List.filter_eq_self.mpr hrest
  rw [hsorted, hsplit, List.filter_append, List.filter_append, hkeep, hdrop, hnone, hall,
    List.append_nil, List.nil_append]

/-- A list that grows does so in order as well. -/
theorem sublist_mergeSort {l l' : List α} (h : l.Sublist l') :
    (l.mergeSort le).Sublist (l'.mergeSort le) := by
  induction h with
  | slnil => exact List.Sublist.refl _
  | @cons _ l' a _ ih =>
    obtain ⟨front, rest, hsorted, hsplit, -⟩ := List.mergeSort_cons trans total a l'
    rw [hsorted]
    rw [hsplit] at ih
    exact ih.middle a
  | cons_cons a _ ih =>
    -- the entry stands between the same two parts of either list
    rw [mergeSort_cons_filter trans total, mergeSort_cons_filter trans total]
    exact (ih.filter _).append ((ih.filter _).cons_cons a)

end Sorted

/-! ## The walk -/

/-- The list, and what the reader has. -/
structure State (α : Type*) where
  listing : List α
  received : List α := []

/-- The states of a walk. -/
inductive Reached (start : List α) : State α → Prop where
  | start : Reached start { listing := start }
  | grow {s : State α} {listing : List α} (before : Reached start s)
      (grown : s.listing.Sublist listing) : Reached start { s with listing }
  | page {s : State α} {page : List α} (before : Reached start s)
      (front : page <+: s.listing.drop s.received.length) :
      Reached start { s with received := s.received ++ page }

/-- What holds in every state of a walk. -/
structure Invariant (start : List α) (s : State α) : Prop where
  kept : start.Sublist (s.received ++ s.listing.drop s.received.length)
  present : ∀ x ∈ s.received, x ∈ s.listing
  within : s.received.length ≤ s.listing.length

variable {start : List α} {s : State α}

/-- Behind a page lies what the page left. -/
theorem append_drop_append {received page rest : List α}
    (front : page <+: rest.drop received.length) :
    (received ++ page) ++ rest.drop (received ++ page).length =
      received ++ rest.drop received.length := by
  obtain ⟨left, hleft⟩ := front
  rw [List.length_append, ← List.drop_drop, ← hleft, List.drop_left, List.append_assoc]

namespace Invariant

theorem grow (h : Invariant start s) {listing : List α} (grown : s.listing.Sublist listing) :
    Invariant start { s with listing } where
  kept := h.kept.trans ((grown.drop _).append_left _)
  present := fun x hx => grown.subset (h.present x hx)
  within := Nat.le_trans h.within grown.length_le

theorem page (h : Invariant start s) {page : List α}
    (front : page <+: s.listing.drop s.received.length) :
    Invariant start { s with received := s.received ++ page } where
  kept := by
    -- what the page takes from the rest it adds to what was received
    rw [append_drop_append front]
    exact h.kept
  present := by
    intro x hx
    rcases List.mem_append.mp hx with hold | hnew
    · exact h.present x hold
    · exact List.mem_of_mem_drop (front.subset hnew)
  within := by
    have hshort := front.length_le
    have hwithin := h.within
    rw [List.length_drop] at hshort
    change (s.received ++ page).length ≤ s.listing.length
    rw [List.length_append]
    omega

/-- Nothing is left: the start was received, in its order. -/
theorem complete (h : Invariant start s) (done : s.listing.length ≤ s.received.length) :
    start.Sublist s.received := by
  have hkept := h.kept
  rwa [List.drop_eq_nil_of_le done, List.append_nil] at hkept

end Invariant

theorem Reached.invariant (h : Reached start s) : Invariant start s := by
  induction h with
  | start => exact ⟨List.Sublist.refl _, fun _ hx => absurd hx List.not_mem_nil, Nat.zero_le _⟩
  | grow _ grown ih => exact ih.grow grown
  | page _ front ih => exact ih.page front

end OffsetWalk
