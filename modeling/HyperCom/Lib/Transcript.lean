import Mathlib.Data.List.Induction

/-!
# Transcripts kept as one digest

A protocol that keeps its transcript as a digest absorbs one entry after the
other, each together with the digest so far. `absorbAll_injective` says when the
digest determines the transcript: the absorptions that occurred do not collide,
and an opening entry is told from all others, so that a transcript cannot be the
tail of another.

No digest is injective, so what is assumed is only that the finitely many absorptions at
hand do not collide. It is the assumption one makes of a hash when one argues about a single
run.
-/

namespace Transcript

variable {δ β : Type} (absorb : δ → β → δ)

/-- The digest after all entries. -/
def absorbAll (state : δ) (entries : List β) : δ := entries.foldl absorb state

/-- The absorptions on the way: each entry, with the digest it meets. -/
def absorptions : δ → List β → List (δ × β)
  | _, [] => []
  | state, entry :: rest => (state, entry) :: absorptions (absorb state entry) rest

variable {absorb}

theorem absorbAll_concat (state : δ) (entries : List β) (entry : β) :
    absorbAll absorb state (entries ++ [entry]) = absorb (absorbAll absorb state entries) entry := by
  simp [absorbAll]

/-- The last absorption. -/
theorem absorptions_concat (state : δ) (entries : List β) (entry : β) :
    absorptions absorb state (entries ++ [entry]) =
      absorptions absorb state entries ++ [(absorbAll absorb state entries, entry)] := by
  induction entries generalizing state with
  | nil => rfl
  | cons first rest ih => simp [absorptions, ih, absorbAll]

/-- Absorptions that give one digest are one. -/
def CollisionFree (absorb : δ → β → δ) (used : List (δ × β)) : Prop :=
  ∀ first ∈ used, ∀ second ∈ used,
    absorb first.1 first.2 = absorb second.1 second.2 → first = second

variable {start : δ} {used : List (δ × β)} {opening opening' : β} {entries entries' : List β}

theorem head_mem (h : absorptions absorb start (opening :: entries) ⊆ used) :
    (start, opening) ∈ used :=
  h List.mem_cons_self

theorem last_mem {entry : β}
    (h : absorptions absorb start (opening :: (entries ++ [entry])) ⊆ used) :
    (absorbAll absorb start (opening :: entries), entry) ∈ used := by
  rw [← List.cons_append, absorptions_concat] at h
  exact h (List.mem_append_right _ (List.mem_singleton_self _))

/-- The absorptions of a beginning are among those of the whole. -/
theorem init_subset {rest : List β}
    (h : absorptions absorb start (opening :: (entries ++ rest)) ⊆ used) :
    absorptions absorb start (opening :: entries) ⊆ used := by
  induction rest using List.reverseRecOn with
  | nil => rwa [List.append_nil] at h
  | append_singleton rest entry ih =>
    rw [← List.append_assoc, ← List.cons_append, absorptions_concat] at h
    exact ih fun _ hmem => h (List.mem_append_left _ hmem)

/-- The digest determines the transcript. `Opens` tells the opening entry, which
is at the bottom of both. -/
theorem absorbAll_injective (Opens : β → Prop) (free : CollisionFree absorb used)
    (hused : absorptions absorb start (opening :: entries) ⊆ used)
    (hused' : absorptions absorb start (opening' :: entries') ⊆ used)
    (hopens : Opens opening) (hopens' : Opens opening')
    (hentries : ∀ entry ∈ entries, ¬ Opens entry) (hentries' : ∀ entry ∈ entries', ¬ Opens entry)
    (h : absorbAll absorb start (opening :: entries) =
      absorbAll absorb start (opening' :: entries')) :
    opening :: entries = opening' :: entries' := by
  induction entries using List.reverseRecOn generalizing entries' with
  | nil =>
    cases entries' using List.reverseRecOn with
    | nil =>
      have hone := free _ (head_mem hused) _ (head_mem hused') h
      rw [(Prod.mk.inj hone).2]
    | append_singleton rest' entry' =>
      -- the opening entry would be the last one of the other
      rw [← List.cons_append, absorbAll_concat] at h
      have hone := free _ (head_mem hused) _ (last_mem hused') h
      obtain rfl : opening = entry' := (Prod.mk.inj hone).2
      exact absurd hopens (hentries' opening (by simp))
  | append_singleton rest entry ih =>
    rw [← List.cons_append, absorbAll_concat] at h
    cases entries' using List.reverseRecOn with
    | nil =>
      have hone := free _ (last_mem hused) _ (head_mem hused') h
      obtain rfl : entry = opening' := (Prod.mk.inj hone).2
      exact absurd hopens' (hentries entry (by simp))
    | append_singleton rest' entry' =>
      -- the last entries are one, and so are the digests they met
      rw [← List.cons_append, absorbAll_concat] at h
      have hone := free _ (last_mem hused) _ (last_mem hused') h
      obtain ⟨hdigest, rfl⟩ := Prod.mk.inj hone
      have hrest := ih (init_subset hused) (init_subset hused')
        (fun _ hmem => hentries _ (by simp [hmem])) (fun _ hmem => hentries' _ (by simp [hmem]))
        hdigest
      rw [← List.cons_append, hrest, List.cons_append]

end Transcript
