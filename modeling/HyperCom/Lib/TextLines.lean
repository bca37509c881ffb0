import Mathlib.Data.List.DropRight

/-!
# Lines of encoded text

A text of lines, and a text of letters each of which is written as several
symbols. Both come apart again only under a condition: the lines if the newline is
in none of them (`count_endLines_eq_iff`), the letters where one written text ends
or at a `Mark`, a symbol that is a letter by itself (`written_lines_iff`).

Reading lines back cuts the text at its newlines and takes the blanks off the ends
of what it finds: `trim`.
-/

namespace TextLines

/-! ## Lines -/

section Lines

variable {α : Type*} [BEq α] [LawfulBEq α] {newline : α}

/-- Every line with its end. -/
def endLines (newline : α) (lines : List (List α)) : List α :=
  lines.flatMap fun line => line ++ [newline]

theorem count_endLines_cons (line : List α) (lines : List (List α)) :
    (endLines newline (line :: lines)).count newline =
      line.count newline + 1 + (endLines newline lines).count newline := by
  rw [endLines, List.flatMap_cons, List.count_append, List.count_append, List.count_singleton_self]
  rfl

theorem length_le_count_endLines (newline : α) (lines : List (List α)) :
    lines.length ≤ (endLines newline lines).count newline := by
  induction lines with
  | nil => exact Nat.zero_le _
  | cons line lines ih =>
    rw [count_endLines_cons, List.length_cons]
    omega

/-- There are as many ends as lines exactly if no line is broken. -/
theorem count_endLines_eq_iff {lines : List (List α)} :
    (endLines newline lines).count newline = lines.length ↔ ∀ line ∈ lines, newline ∉ line := by
  induction lines with
  | nil => simp [endLines]
  | cons line lines ih =>
    have hrest := length_le_count_endLines newline lines
    rw [List.forall_mem_cons, ← ih, ← List.count_eq_zero, count_endLines_cons, List.length_cons]
    omega

/-- A text that is as many lines unbroken is these lines. -/
theorem unbroken_of_endLines_eq {lines pieces : List (List α)}
    (hlines : ∀ line ∈ lines, newline ∉ line) (hlength : lines.length = pieces.length)
    (h : endLines newline pieces = endLines newline lines) : ∀ piece ∈ pieces, newline ∉ piece := by
  rw [← count_endLines_eq_iff, h, count_endLines_eq_iff.mpr hlines, hlength]

/-- The pieces between two newlines have none. -/
theorem newline_notMem_splitOn {text : List α} :
    ∀ line ∈ text.splitOn newline, newline ∉ line := by
  induction text with
  | nil => simp [List.splitOn_nil]
  | cons symbol text ih =>
    rw [List.splitOn_cons_eq_if_modifyHead]
    split_ifs with hsymbol
    · intro line hline
      rcases List.mem_cons.mp hline with rfl | hline
      · exact List.not_mem_nil
      · exact ih line hline
    · rcases hlines : text.splitOn newline with _ | ⟨line, lines⟩
      · exact absurd hlines (List.splitOn_ne_nil newline text)
      rw [hlines, List.forall_mem_cons] at ih
      rw [List.modifyHead_cons, List.forall_mem_cons, List.mem_cons, not_or]
      exact ⟨⟨fun heq => hsymbol (beq_iff_eq.mpr heq.symm), ih.1⟩, ih.2⟩

end Lines

/-! ## Blanks at the ends -/

section Trim

variable {α : Type*} {front back : α → Bool} {text : List α}

/-- A text without the blanks at its ends. What counts as one may differ from end to
end. -/
def trim (front back : α → Bool) (text : List α) : List α :=
  ((text.dropWhile front).reverse.dropWhile back).reverse

theorem trim_eq_rdropWhile (front back : α → Bool) (text : List α) :
    trim front back text = (text.dropWhile front).rdropWhile back := rfl

/-- The texts with nothing to take off. -/
theorem trim_eq_self_iff :
    trim front back text = text ↔
      (∀ symbol ∈ text.head?, front symbol = false) ∧
        ∀ symbol ∈ text.getLast?, back symbol = false := by
  constructor
  · intro h
    have hshort : (text.dropWhile front).length = text.length := by
      have hback := (List.rdropWhile_prefix back (text.dropWhile front)).length_le
      have hfront := (List.dropWhile_suffix (l := text) front).length_le
      have htext := congrArg List.length h
      rw [trim_eq_rdropWhile] at htext
      omega
    have hfront : text.dropWhile front = text :=
      (List.dropWhile_suffix front).eq_of_length hshort
    rw [trim_eq_rdropWhile, hfront, List.rdropWhile_eq_self_iff] at h
    constructor
    · intro symbol hsymbol
      have hhead := List.head?_dropWhile_not front text
      rw [hfront, Option.mem_def.mp hsymbol] at hhead
      simpa using hhead
    · intro symbol hsymbol
      obtain ⟨hne, rfl⟩ := List.mem_getLast?_eq_getLast hsymbol
      simpa using h hne
  · rintro ⟨hfront, hback⟩
    have hkept : text.dropWhile front = text := by
      cases text with
      | nil => rfl
      | cons symbol text => simp [hfront symbol rfl]
    rw [trim_eq_rdropWhile, hkept, List.rdropWhile_eq_self_iff]
    intro hne
    simp [hback _ (List.getLast_mem_getLast? hne)]

theorem trim_infix (front back : α → Bool) (text : List α) : trim front back text <:+: text := by
  rw [trim_eq_rdropWhile]
  exact (List.rdropWhile_prefix back _).isInfix.trans (List.dropWhile_suffix front).isInfix

/-- A text is only trimmed once. -/
theorem trim_trim (front back : α → Bool) (text : List α) :
    trim front back (trim front back text) = trim front back text := by
  rw [trim_eq_self_iff]
  constructor
  · intro symbol hsymbol
    have hmem : symbol ∈ (text.dropWhile front).head? := by
      obtain ⟨rest, hrest⟩ := List.rdropWhile_prefix back (text.dropWhile front)
      rw [← hrest, List.head?_append, ← trim_eq_rdropWhile, Option.mem_def.mp hsymbol]
      rfl
    have hhead := List.head?_dropWhile_not front text
    rw [Option.mem_def.mp hmem] at hhead
    simpa using hhead
  · intro symbol hsymbol
    rw [trim_eq_rdropWhile] at hsymbol
    obtain ⟨hne, rfl⟩ := List.mem_getLast?_eq_getLast hsymbol
    simpa using List.rdropWhile_last_not back (text.dropWhile front) hne

end Trim

/-! ## Letters -/

section Letters

variable {α β ι : Type*} {encode : α → List β}

/-- No code begins another one. -/
def PrefixFree (encode : α → List β) : Prop :=
  ∀ ⦃first second : α⦄ ⦃rest tail : List β⦄,
    encode first ++ rest = encode second ++ tail → first = second

/-- The text is the codes of some letters. -/
def Written (encode : α → List β) (text : List β) : Prop :=
  ∃ letters : List α, text = letters.flatMap encode

/-- The symbol is a letter by itself, and in no other code. -/
structure Mark (encode : α → List β) (mark : β) : Prop where
  written : ∃ letter, encode letter = [mark]
  alone : ∀ letter, mark ∈ encode letter → encode letter = [mark]

namespace Written

theorem nil : Written encode [] := ⟨[], rfl⟩

theorem append {first second : List β} (hfirst : Written encode first)
    (hsecond : Written encode second) : Written encode (first ++ second) := by
  obtain ⟨letters, rfl⟩ := hfirst
  obtain ⟨more, rfl⟩ := hsecond
  exact ⟨letters ++ more, List.flatMap_append.symm⟩

theorem of_marks {text : List β} (hmarks : ∀ symbol ∈ text, Mark encode symbol) :
    Written encode text := by
  induction text with
  | nil => exact nil
  | cons symbol text ih =>
    rw [List.forall_mem_cons] at hmarks
    obtain ⟨letter, hletter⟩ := hmarks.1.written
    have hsymbol : Written encode [symbol] := ⟨[letter], by simp [hletter]⟩
    exact hsymbol.append (ih hmarks.2)

/-- Behind a written text the rest is written for itself. -/
theorem of_append (hfree : PrefixFree encode) {first second : List β}
    (hfirst : Written encode first) (h : Written encode (first ++ second)) :
    Written encode second := by
  obtain ⟨letters, rfl⟩ := hfirst
  obtain ⟨all, hall⟩ := h
  induction letters generalizing all with
  | nil => exact ⟨all, hall⟩
  | cons letter letters ih =>
    rw [List.flatMap_cons, List.append_assoc] at hall
    cases all with
    | nil =>
      obtain ⟨hletter, hrest⟩ := List.append_eq_nil_iff.mp hall
      exact ih [] hrest
    | cons head all =>
      rw [List.flatMap_cons] at hall
      obtain rfl := hfree hall
      exact ih all (List.append_cancel_left hall)

/-- So is what stands before a mark. -/
theorem before_mark {mark : β} (hmark : Mark encode mark) {text rest : List β}
    (h : Written encode (text ++ mark :: rest)) : Written encode text := by
  obtain ⟨letters, hletters⟩ := h
  induction letters generalizing text with
  | nil => simp at hletters
  | cons letter letters ih =>
    rw [List.flatMap_cons, List.append_eq_append_iff] at hletters
    obtain ⟨tail, hcode, htail⟩ | ⟨tail, rfl, htail⟩ := hletters
    · cases tail with
      | nil => exact ⟨[letter], by simpa using hcode.symm⟩
      | cons symbol tail =>
        -- the code has the mark behind the text, so the text is empty
        obtain ⟨rfl, -⟩ := List.cons.inj htail
        have hone := hmark.alone letter (by simp [hcode])
        have hempty : text = [] := by
          have hlength := congrArg List.length (hcode.symm.trans hone)
          simp only [List.length_append, List.length_cons, List.length_nil] at hlength
          exact List.length_eq_zero_iff.mp (by omega)
        rw [hempty]
        exact nil
    · exact append ⟨[letter], by simp⟩ (ih htail.symm)

end Written

/-- A text of pieces, each between a written text and a mark, is written exactly if each
piece is. -/
theorem written_lines_iff (hfree : PrefixFree encode) {mark : β} (hmark : Mark encode mark)
    {head piece tail : ι → List β} (hhead : ∀ row, Written encode (head row))
    (htail : ∀ row, Written encode (mark :: tail row)) {rows : List ι} :
    Written encode (rows.flatMap fun row => head row ++ piece row ++ mark :: tail row) ↔
      ∀ row ∈ rows, Written encode (piece row) := by
  induction rows with
  | nil => simpa using Written.nil
  | cons row rows ih =>
    rw [List.flatMap_cons, List.forall_mem_cons, ← ih, List.append_assoc, List.append_assoc]
    constructor
    · intro h
      have hbehind := Written.of_append hfree (hhead row) h
      have hpiece := hbehind.before_mark hmark
      exact ⟨hpiece, (htail row).of_append hfree (hpiece.of_append hfree hbehind)⟩
    · rintro ⟨hpiece, hrest⟩
      exact (hhead row).append (hpiece.append ((htail row).append hrest))

end Letters

end TextLines
