import HyperCom.Lib.Words

/-!
# Words that may be quoted

As in `Words`, but a word between two quotes holds what it likes, blanks and
nothing at all included. A quote opens such a word only where a word begins, and
the next quote closes it. A text whose last quote stays open is not read at all.

The scanner and the grammar are given separately, and the theorem is that they say the same
(`Quoted`). Nothing escapes a quote, so there are words that cannot be written.
-/

namespace Words

variable {α : Type*} (blank : α → Bool) (quote : α)

/-- The text is these words. -/
inductive Quoted : List (List α) → List α → Prop
  | blanks {gap : List α} (hgap : ∀ letter ∈ gap, blank letter = true) : Quoted [] gap
  | quoted {gap word rest : List α} {words : List (List α)}
      (hgap : ∀ letter ∈ gap, blank letter = true) (hword : quote ∉ word)
      (hrest : Quoted words rest) :
      Quoted (word :: words) (gap ++ quote :: (word ++ quote :: rest))
  | plain {gap word rest : List α} {words : List (List α)}
      (hgap : ∀ letter ∈ gap, blank letter = true) (hword : IsWord blank word)
      (hquote : word.head? ≠ some quote)
      (hborder : ∀ letter ∈ rest.head?, blank letter = true) (hrest : Quoted words rest) :
      Quoted (word :: words) (gap ++ word ++ rest)

variable {blank quote}

namespace Quoted

/-- One more blank in front. -/
theorem cons_blank {words : List (List α)} {text : List α} {letter : α}
    (hblank : blank letter = true) (h : Quoted blank quote words text) :
    Quoted blank quote words (letter :: text) := by
  have hcons : ∀ gap : List α, (∀ letter ∈ gap, blank letter = true) →
      ∀ other ∈ letter :: gap, blank other = true := fun gap hgap =>
    List.forall_mem_cons.mpr ⟨hblank, hgap⟩
  cases h with
  | blanks hgap => exact .blanks (hcons _ hgap)
  | quoted hgap hword hrest => exact .quoted (hcons _ hgap) hword hrest
  | plain hgap hword hquote hborder hrest =>
    exact .plain (hcons _ hgap) hword hquote hborder hrest

theorem append_gap {gap text : List α} {words : List (List α)}
    (hgap : ∀ letter ∈ gap, blank letter = true) (h : Quoted blank quote words text) :
    Quoted blank quote words (gap ++ text) := by
  induction gap with
  | nil => exact h
  | cons letter gap ih =>
    rw [List.forall_mem_cons] at hgap
    exact (ih hgap.2).cons_blank hgap.1

/-- Two texts with a blank between them are read one after the other. -/
theorem append_blank {words more : List (List α)} {text rest : List α} {letter : α}
    (h : Quoted blank quote words text) (hblank : blank letter = true)
    (hrest : Quoted blank quote more rest) :
    Quoted blank quote (words ++ more) (text ++ letter :: rest) := by
  induction h with
  | blanks hgap => exact append_gap hgap (hrest.cons_blank hblank)
  | quoted hgap hword _ ih =>
    simpa using Quoted.quoted hgap hword ih
  | @plain gap word tail _ hgap hword hquote hborder _ ih =>
    have hborder' : ∀ other ∈ (tail ++ letter :: rest).head?, blank other = true := by
      cases tail with
      | nil => simp [hblank]
      | cons first tail => simpa using hborder
    simpa using Quoted.plain hgap hword hquote hborder' ih

theorem eq_nil {words : List (List α)} (h : Quoted blank quote words []) : words = [] := by
  generalize htext : [] = text at h
  cases h with
  | blanks => rfl
  | quoted => simp at htext
  | plain _ hword => simp [hword.1] at htext

/-- A word in quotes, with nothing in front. -/
theorem cons_quoted {words : List (List α)} {word rest : List α} (hword : quote ∉ word)
    (h : Quoted blank quote words rest) :
    Quoted blank quote (word :: words) (quote :: (word ++ quote :: rest)) := by
  have hall : Quoted blank quote (word :: words) ([] ++ quote :: (word ++ quote :: rest)) :=
    .quoted (by simp) hword h
  exact hall

/-- A word without quotes, up to a blank or to the end. -/
theorem cons_plain {words : List (List α)} {word rest : List α} (hword : IsWord blank word)
    (hquote : word.head? ≠ some quote) (hborder : ∀ letter ∈ rest.head?, blank letter = true)
    (h : Quoted blank quote words rest) :
    Quoted blank quote (word :: words) (word ++ rest) := by
  have hall : Quoted blank quote (word :: words) ([] ++ word ++ rest) :=
    .plain (by simp) hword hquote hborder h
  exact hall

/-- A word that was read is without quotes, or it could be written without them. -/
theorem of_mem {words : List (List α)} {text word : List α}
    (h : Quoted blank quote words text) (hmem : word ∈ words) :
    quote ∉ word ∨ IsWord blank word ∧ word.head? ≠ some quote := by
  induction h with
  | blanks => cases hmem
  | quoted _ hword _ ih =>
    obtain rfl | hmem := List.mem_cons.mp hmem
    · exact .inl hword
    · exact ih hmem
  | plain _ hword hquote _ _ ih =>
    obtain rfl | hmem := List.mem_cons.mp hmem
    · exact .inr ⟨hword, hquote⟩
    · exact ih hmem

/-- A word has its letters from the text. -/
theorem subset {words : List (List α)} {text word : List α}
    (h : Quoted blank quote words text) (hmem : word ∈ words) : word ⊆ text := by
  induction h with
  | blanks => cases hmem
  | quoted _ _ _ ih =>
    obtain rfl | hmem := List.mem_cons.mp hmem
    · intro letter hletter
      simp [hletter]
    · intro letter hletter
      simp [ih hmem hletter]
  | plain _ _ _ _ _ ih =>
    obtain rfl | hmem := List.mem_cons.mp hmem
    · intro letter hletter
      simp [hletter]
    · intro letter hletter
      simp [ih hmem hletter]

end Quoted

/-- Where no word begins with a quote, a text is read as before. A text may be without
some of the blanks. -/
theorem Spaced.quoted {inner : α → Bool} {words : List (List α)} {text : List α}
    (h : Spaced inner words text) (hinner : ∀ letter ∈ text, blank letter = inner letter)
    (hwords : ∀ word ∈ words, word.head? ≠ some quote) : Quoted blank quote words text := by
  induction h with
  | blanks hgap =>
    exact .blanks fun letter hletter => (hinner letter hletter).trans (hgap letter hletter)
  | @word gap word rest words hgap hword hborder hrest ih =>
    have hrest' : Quoted blank quote words rest :=
      ih (fun letter hletter => hinner letter (by simp [hletter]))
        fun other hother => hwords other (List.mem_cons_of_mem _ hother)
    have hgap' : ∀ letter ∈ gap, blank letter = true := fun letter hletter =>
      (hinner letter (by simp [hletter])).trans (hgap letter hletter)
    have hword' : IsWord blank word := ⟨hword.1, fun letter hletter =>
      (hinner letter (by simp [hletter])).trans (hword.2 letter hletter)⟩
    have hborder' : ∀ letter ∈ rest.head?, blank letter = true := fun letter hletter =>
      (hinner letter (by simp [List.mem_of_mem_head? hletter])).trans (hborder letter hletter)
    exact .plain hgap' hword' (hwords word (by simp)) hborder' hrest'

end Words
