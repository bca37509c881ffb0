import Mathlib.Data.List.Basic

/-!
# Words between blanks

A text is cut at its blanks, whatever counts as one: `split` gives the longest
runs of other letters. `Spaced` says the same of a text without a scanner, and
`split_eq_iff` that the scanner finds exactly these words.

The scanner goes letter by letter, as loops do; the specification speaks of the text as a
whole, where the words are and what is between them. Which letters are blank is a parameter.
-/

namespace Words

variable {α : Type*} (blank : α → Bool)

/-- The words of a text, with the letters of the word begun before it. -/
def split : List α → List α → List (List α)
  | word, [] => if word.isEmpty then [] else [word]
  | word, letter :: rest =>
    if blank letter then
      if word.isEmpty then split [] rest else word :: split [] rest
    else split (word ++ [letter]) rest

/-- At least one letter, and no blank. -/
def IsWord (word : List α) : Prop := word ≠ [] ∧ ∀ letter ∈ word, blank letter = false

/-- The text is these words, with blanks before, between and behind them: at
least one between two words. -/
inductive Spaced : List (List α) → List α → Prop
  | blanks {gap : List α} (hgap : ∀ letter ∈ gap, blank letter = true) : Spaced [] gap
  | word {gap word rest : List α} {words : List (List α)}
      (hgap : ∀ letter ∈ gap, blank letter = true) (hword : IsWord blank word)
      (hborder : ∀ letter ∈ rest.head?, blank letter = true) (hrest : Spaced words rest) :
      Spaced (word :: words) (gap ++ word ++ rest)

variable {blank}

theorem split_gap {gap : List α} (hgap : ∀ letter ∈ gap, blank letter = true) (rest : List α) :
    split blank [] (gap ++ rest) = split blank [] rest := by
  induction gap with
  | nil => rfl
  | cons letter gap ih =>
    rw [List.forall_mem_cons] at hgap
    simp [split, hgap.1, ih hgap.2]

theorem split_letters {letters : List α} (hletters : ∀ letter ∈ letters, blank letter = false)
    (word rest : List α) :
    split blank word (letters ++ rest) = split blank (word ++ letters) rest := by
  induction letters generalizing word with
  | nil => simp
  | cons letter letters ih =>
    rw [List.forall_mem_cons] at hletters
    simp [split, hletters.1, ih hletters.2]

/-- A word ends at a blank or at the end of the text. -/
theorem split_border {word rest : List α} (hword : word ≠ [])
    (hborder : ∀ letter ∈ rest.head?, blank letter = true) :
    split blank word rest = word :: split blank [] rest := by
  cases rest with
  | nil => simp [split, hword]
  | cons letter rest =>
    have hblank : blank letter = true := hborder letter rfl
    simp [split, hblank, hword]

theorem Spaced.split_eq {words : List (List α)} {text : List α} (h : Spaced blank words text) :
    split blank [] text = words := by
  induction h with
  | blanks hgap => simpa [split] using split_gap hgap []
  | word hgap hword hborder _ ih =>
    rw [List.append_assoc, split_gap hgap, split_letters hword.2, List.nil_append,
      split_border hword.1 hborder, ih]

/-- One more blank in front. -/
theorem Spaced.cons_blank {words : List (List α)} {text : List α} {letter : α}
    (hblank : blank letter = true) (h : Spaced blank words text) :
    Spaced blank words (letter :: text) := by
  have hcons : ∀ gap : List α, (∀ letter ∈ gap, blank letter = true) →
      ∀ other ∈ letter :: gap, blank other = true := fun gap hgap =>
    List.forall_mem_cons.mpr ⟨hblank, hgap⟩
  cases h with
  | blanks hgap => exact .blanks (hcons _ hgap)
  | word hgap hword hborder hrest => exact .word (hcons _ hgap) hword hborder hrest

/-- What the scanner finds is there, the word it has begun included. -/
theorem spaced_split_from {word : List α} (hword : ∀ letter ∈ word, blank letter = false)
    (text : List α) : Spaced blank (split blank word text) (word ++ text) := by
  induction text generalizing word with
  | nil =>
    cases word with
    | nil => exact .blanks (by simp)
    | cons first word =>
      have hone : Spaced blank [first :: word] ([] ++ (first :: word) ++ []) :=
        .word (by simp) ⟨List.cons_ne_nil _ _, hword⟩ (by simp) (.blanks (by simp))
      simpa [split] using hone
  | cons letter text ih =>
    rcases hblank : blank letter with _ | _
    · have hlonger : ∀ other ∈ word ++ [letter], blank other = false := by
        simpa [or_imp, forall_and, hblank] using hword
      simpa [split, hblank] using ih hlonger
    · have hrest : Spaced blank (split blank [] text) (letter :: text) :=
        .cons_blank hblank (ih (by simp))
      cases word with
      | nil => simpa [split, hblank] using hrest
      | cons first word =>
        have hborder : ∀ other ∈ (letter :: text).head?, blank other = true := by simp [hblank]
        have hfirst : Spaced blank ((first :: word) :: split blank [] text)
            ([] ++ (first :: word) ++ letter :: text) :=
          .word (by simp) ⟨List.cons_ne_nil _ _, hword⟩ hborder hrest
        simpa [split, hblank] using hfirst

/-- The scanner finds exactly the words that are there. -/
theorem split_eq_iff {words : List (List α)} {text : List α} :
    split blank [] text = words ↔ Spaced blank words text := by
  constructor
  · rintro rfl
    exact spaced_split_from (by simp) text
  · exact Spaced.split_eq

/-- A word is made of letters of the text. -/
theorem Spaced.of_mem {words : List (List α)} {text word : List α} (h : Spaced blank words text)
    (hmem : word ∈ words) : IsWord blank word ∧ word ⊆ text := by
  induction h with
  | blanks => cases hmem
  | @word gap first rest _ _ hfirst _ _ ih =>
    obtain rfl | hmem := List.mem_cons.mp hmem
    · refine ⟨hfirst, fun letter hletter => ?_⟩
      simp [hletter]
    · refine ⟨(ih hmem).1, fun letter hletter => ?_⟩
      simp [(ih hmem).2 hletter]

/-- Words joined by one blank. -/
theorem spaced_intercalate {separator : α} (hseparator : blank separator = true)
    {words : List (List α)} (hwords : ∀ word ∈ words, IsWord blank word) :
    Spaced blank words ([separator].intercalate words) := by
  induction words with
  | nil => exact .blanks (by simp)
  | cons first words ih =>
    rw [List.forall_mem_cons] at hwords
    cases words with
    | nil =>
      have hone : Spaced blank [first] ([] ++ first ++ []) :=
        .word (by simp) hwords.1 (by simp) (.blanks (by simp))
      simpa using hone
    | cons second words =>
      have hborder : ∀ letter ∈ (separator :: [separator].intercalate (second :: words)).head?,
          blank letter = true := by simp [hseparator]
      have hall : Spaced blank (first :: second :: words)
          ([] ++ first ++ separator :: [separator].intercalate (second :: words)) :=
        .word (by simp) hwords.1 hborder (.cons_blank hseparator (ih hwords.2))
      simpa [List.intercalate_cons_cons] using hall

end Words
