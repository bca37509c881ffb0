import Mathlib.Data.List.Basic

/-!
# Reading until there is enough

A loop that reads pieces of a stream until it holds a number of symbols, and gives
up after some reads or when the stream ends. Whatever the pieces are, it stops at the
first read that brings enough (`readUntil_enough`), and it gets there if the reads
that are left bring enough (`readUntil_of_delivered`).

The loop is generic in what is read and in the piece that each read brings. Reads are
numbered, so that the same list of pieces can serve one loop after another, each going on
where the one before has stopped.
-/

namespace ReadLoop

variable {α : Type*}

/-- How the loop ends. -/
inductive Outcome (α : Type*) where
  | enough (buffer : List α)
  | closed
  | starved

/-- The loop, from a read on, with the reads it may still make: a read is a piece, which
may be empty, or the end of the stream. The second component counts the reads made. -/
def readUntil (reads : ℕ → Option (List α)) (needed : ℕ) :
    ℕ → List α → ℕ → Outcome α × ℕ
  | 0, buffer, position =>
    if buffer.length < needed then (.starved, position) else (.enough buffer, position)
  | left + 1, buffer, position =>
    if buffer.length < needed then
      match reads position with
      | none => (.closed, position + 1)
      | some piece => readUntil reads needed left (buffer ++ piece) (position + 1)
    else (.enough buffer, position)

/-- What some reads bring. -/
def delivered (reads : ℕ → Option (List α)) (first count : ℕ) : List α :=
  (List.range' first count).flatMap fun position => (reads position).getD []

variable {reads : ℕ → Option (List α)} {needed left position : ℕ} {buffer : List α}

@[simp] theorem delivered_zero (first : ℕ) : delivered reads first 0 = [] := rfl

theorem delivered_succ (first count : ℕ) :
    delivered reads first (count + 1) =
      (reads first).getD [] ++ delivered reads (first + 1) count := by
  rw [delivered, List.range'_succ, List.flatMap_cons, delivered]

theorem delivered_add (first count more : ℕ) :
    delivered reads first (count + more) =
      delivered reads first count ++ delivered reads (first + count) more := by
  induction count generalizing first with
  | zero => rw [Nat.zero_add, delivered_zero, List.nil_append, Nat.add_zero]
  | succ count ih =>
    rw [Nat.add_right_comm, delivered_succ, ih, delivered_succ, List.append_assoc,
      Nat.add_right_comm first, Nat.add_assoc first]

/-- A loop that found enough stopped at the first read that brought it. -/
theorem readUntil_enough {buffer' : List α} {last : ℕ}
    (h : readUntil reads needed left buffer position = (.enough buffer', last)) :
    ∃ count ≤ left, last = position + count ∧ buffer' = buffer ++ delivered reads position count ∧
      needed ≤ buffer'.length ∧
      ∀ k < count, (buffer ++ delivered reads position k).length < needed := by
  induction left generalizing buffer position with
  | zero =>
    rw [readUntil] at h
    split_ifs at h with hshort
    · cases h
    · obtain ⟨hbuffer, rfl⟩ := Prod.mk.inj h
      obtain rfl := Outcome.enough.inj hbuffer
      exact ⟨0, Nat.le_refl 0, rfl, by simp, by omega, fun k hk => absurd hk (Nat.not_lt_zero k)⟩
  | succ left ih =>
    rw [readUntil] at h
    split_ifs at h with hshort
    · rcases hread : reads position with _ | piece
      · simp [hread] at h
      · rw [hread] at h
        obtain ⟨count, hcount, rfl, rfl, henough, hfirst⟩ := ih h
        refine ⟨count + 1, by omega, by omega, ?_, henough, fun k hk => ?_⟩
        · rw [delivered_succ, hread, Option.getD_some, List.append_assoc]
        · cases k with
          | zero => simpa using hshort
          | succ k =>
            rw [delivered_succ, hread, Option.getD_some, ← List.append_assoc]
            exact hfirst k (by omega)
    · obtain ⟨hbuffer, rfl⟩ := Prod.mk.inj h
      obtain rfl := Outcome.enough.inj hbuffer
      exact ⟨0, Nat.zero_le _, rfl, by simp, by omega, fun k hk => absurd hk (Nat.not_lt_zero k)⟩

/-- It finds enough if that comes within the reads that are left, and nothing ends the
stream before. -/
theorem readUntil_of_delivered {count : ℕ} (hcount : count ≤ left)
    (hopen : ∀ k < count, (reads (position + k)).isSome)
    (henough : needed ≤ (buffer ++ delivered reads position count).length) :
    ∃ made ≤ count, readUntil reads needed left buffer position =
      (.enough (buffer ++ delivered reads position made), position + made) := by
  induction left generalizing buffer position count with
  | zero =>
    obtain rfl : count = 0 := by omega
    rw [delivered_zero, List.append_nil] at henough
    exact ⟨0, Nat.le_refl 0, by rw [readUntil, if_neg (by omega), delivered_zero, List.append_nil]; rfl⟩
  | succ left ih =>
    by_cases hshort : buffer.length < needed
    · cases count with
      | zero =>
        rw [delivered_zero, List.append_nil] at henough
        omega
      | succ count =>
        obtain ⟨piece, hread⟩ := Option.isSome_iff_exists.mp (hopen 0 (by omega))
        rw [Nat.add_zero] at hread
        rw [delivered_succ, hread, Option.getD_some, ← List.append_assoc] at henough
        have hrest : ∀ k < count, (reads (position + 1 + k)).isSome := fun k hk => by
          rw [Nat.add_assoc, Nat.add_comm 1 k]
          exact hopen (k + 1) (by omega)
        obtain ⟨made, hmade, hloop⟩ := ih (by omega) hrest henough
        refine ⟨made + 1, by omega, ?_⟩
        rw [readUntil, if_pos hshort]
        simp only [hread, hloop, delivered_succ, Option.getD_some, List.append_assoc,
          Nat.add_assoc, Nat.add_comm 1 made]
    · refine ⟨0, Nat.zero_le _, ?_⟩
      rw [readUntil, if_neg hshort, delivered_zero, List.append_nil, Nat.add_zero]

end ReadLoop
