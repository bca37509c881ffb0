import Mathlib.Data.List.Basic
import Mathlib.Logic.Function.Basic

/-!
# Slots that are used again

A slot, such as a file descriptor, names one holder at a time and is handed to
another one later. A *ticket* is the name of a slot, noted down together with the
holder it named then. The desk that hands out the slots numbers the holders, so
that a ticket can be compared with the holder the slot names now: it stays valid
exactly as long as its slot is not handed out again.

A desk that serves tickets must not serve an invalid one, since the slot has somebody else
in it by then. The conditions under which it never does are about the numbers alone,
whatever a slot is.
-/

namespace Tickets

variable {Slot : Type*} [DecidableEq Slot]

/-- The last holder of each slot, and the number of the next one. -/
structure Desk (Slot : Type*) where
  holder : Slot → ℕ := fun _ => 0
  next : ℕ := 1

/-- A slot and the holder it named when the ticket was written. -/
structure Ticket (Slot : Type*) where
  slot : Slot
  holder : ℕ

namespace Desk

/-- A slot is handed to a new holder. -/
def assign (desk : Desk Slot) (slot : Slot) : Desk Slot where
  holder := Function.update desk.holder slot desk.next
  next := desk.next + 1

/-- Slots are handed out one after the other. -/
def assignAll (desk : Desk Slot) (slots : List Slot) : Desk Slot := slots.foldl assign desk

/-- The ticket of a slot. -/
def issue (desk : Desk Slot) (slot : Slot) : Ticket Slot := ⟨slot, desk.holder slot⟩

/-- The next number is new. -/
def Fresh (desk : Desk Slot) : Prop := ∀ slot, desk.holder slot < desk.next

theorem Fresh.assign {desk : Desk Slot} (h : desk.Fresh) (slot : Slot) :
    (desk.assign slot).Fresh := by
  intro other
  by_cases hother : other = slot
  · subst hother
    simp [Desk.assign]
  · simpa [Desk.assign, Function.update_of_ne hother] using Nat.lt_succ_of_lt (h other)

theorem Fresh.assignAll {desk : Desk Slot} (h : desk.Fresh) (slots : List Slot) :
    (desk.assignAll slots).Fresh := by
  induction slots generalizing desk with
  | nil => exact h
  | cons slot slots ih => exact ih (h.assign slot)

end Desk

/-- The slot still names the holder of the ticket. -/
def Ticket.Valid (ticket : Ticket Slot) (desk : Desk Slot) : Prop :=
  desk.holder ticket.slot = ticket.holder

instance (ticket : Ticket Slot) (desk : Desk Slot) : Decidable (ticket.Valid desk) :=
  inferInstanceAs (Decidable (desk.holder ticket.slot = ticket.holder))

variable {desk : Desk Slot} {ticket : Ticket Slot} {slot : Slot} {slots : List Slot}

omit [DecidableEq Slot] in
theorem valid_issue (desk : Desk Slot) (slot : Slot) : (desk.issue slot).Valid desk := rfl

/-- Handing out another slot changes nothing. -/
theorem Ticket.Valid.assign (h : ticket.Valid desk) (hother : ticket.slot ≠ slot) :
    ticket.Valid (desk.assign slot) :=
  (Function.update_of_ne hother ..).trans h

/-- A ticket outlives the handing out of other slots. -/
theorem Ticket.Valid.assignAll (h : ticket.Valid desk) (hother : ticket.slot ∉ slots) :
    ticket.Valid (desk.assignAll slots) := by
  induction slots generalizing desk with
  | nil => exact h
  | cons slot slots ih =>
    have hslot : ticket.slot ≠ slot := fun heq => hother (heq ▸ List.mem_cons_self ..)
    have hslots : ticket.slot ∉ slots := fun hmem => hother (List.mem_cons_of_mem _ hmem)
    exact ih (h.assign hslot) hslots

/-- A slot that was handed out names a holder with a new number. -/
theorem next_le_holder (h : slot ∈ slots) : desk.next ≤ (desk.assignAll slots).holder slot := by
  induction slots generalizing desk with
  | nil => cases h
  | cons first slots ih =>
    by_cases hlater : slot ∈ slots
    · have hnext : (desk.assign first).next ≤ ((desk.assign first).assignAll slots).holder slot :=
        ih hlater
      exact Nat.le_trans (Nat.le_succ _) hnext
    · -- handed out now, and not again
      obtain rfl := (List.mem_cons.mp h).resolve_right hlater
      have hvalid : ((desk.assign slot).issue slot).Valid ((desk.assign slot).assignAll slots) :=
        (valid_issue _ slot).assignAll hlater
      have hholder : ((desk.assign slot).assignAll slots).holder slot = desk.next :=
        hvalid.trans (Function.update_self ..)
      exact Nat.le_of_eq hholder.symm

/-- A ticket is valid exactly as long as its slot is not handed out again. -/
theorem Ticket.Valid.assignAll_iff (h : ticket.Valid desk) (hfresh : desk.Fresh) :
    ticket.Valid (desk.assignAll slots) ↔ ticket.slot ∉ slots := by
  constructor
  · intro hvalid hmem
    have hnew : desk.next ≤ (desk.assignAll slots).holder ticket.slot := next_le_holder hmem
    have hold := hfresh ticket.slot
    rw [Ticket.Valid] at h hvalid
    omega
  · exact h.assignAll

end Tickets
