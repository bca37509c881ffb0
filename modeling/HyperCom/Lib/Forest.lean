import Mathlib.Data.List.Basic
import Mathlib.Data.List.Flatten
import Mathlib.Data.List.Lex
import Mathlib.Data.List.Nodup

/-!
# Forests by level and in preorder

A row and the replies to it, down to a number of levels: `levels` gathers them
level after level, as a recursive query does, `preorder` puts the replies of a
row right behind it. Both have the same rows (`levels_perm`), each of them once if
no row replies to two others (`Layered.preorder_nodup`).

If every row is spelled by a path and the paths of the replies continue it by
pieces of one width, in ascending order, then the lexicographic order of the paths
is the preorder (`preorder_ascending`): a row's path comes before those below it,
and two siblings differ within their pieces, before anything that follows.
-/

namespace Forest

variable {ρ : Type*} (replies : ρ → List ρ)

/-- A level and the levels below it, down to `remaining` more. -/
def levels : ℕ → List ρ → List ρ
  | 0, level => level
  | remaining + 1, level => level ++ levels remaining (level.flatMap replies)

/-- A row and everything below it in preorder, down to `remaining` more levels. -/
def preorder : ℕ → ρ → List ρ
  | 0, row => [row]
  | remaining + 1, row => row :: (replies row).flatMap (preorder remaining)

/-- A row some number of replies below another. -/
inductive Below : ℕ → ρ → ρ → Prop where
  | self (row : ρ) : Below 0 row row
  | reply {distance : ℕ} {row reply below : ρ} (answers : reply ∈ replies row)
      (rest : Below distance reply below) : Below (distance + 1) row below

variable {replies}

/-! ## The same rows -/

theorem flatMap_cons_perm {σ : Type*} (f : ρ → σ) (g : ρ → List σ) (rows : List ρ) :
    (rows.flatMap fun row => f row :: g row).Perm (rows.map f ++ rows.flatMap g) := by
  induction rows with
  | nil => exact .refl _
  | cons row rows ih =>
    rw [List.flatMap_cons, List.map_cons, List.flatMap_cons, List.cons_append, List.cons_append]
    refine .cons _ ((ih.append_left _).trans ?_)
    rw [← List.append_assoc, ← List.append_assoc]
    exact List.perm_append_comm.append_right _

theorem levels_perm (remaining : ℕ) (level : List ρ) :
    (levels replies remaining level).Perm (level.flatMap (preorder replies remaining)) := by
  induction remaining generalizing level with
  | zero =>
    have hsingle : level.flatMap (preorder replies 0) = level := List.flatMap_singleton' level
    rw [hsingle, levels]
  | succ remaining ih =>
    have hsplit := flatMap_cons_perm id
      (fun row => (replies row).flatMap (preorder replies remaining)) level
    rw [List.map_id, ← List.flatMap_assoc] at hsplit
    exact ((ih (level.flatMap replies)).append_left level).trans hsplit.symm

/-- What is listed below a row is what is so many replies below it. -/
theorem mem_preorder {remaining : ℕ} {row below : ρ} :
    below ∈ preorder replies remaining row ↔
      ∃ distance ≤ remaining, Below replies distance row below := by
  induction remaining generalizing row with
  | zero =>
    constructor
    · intro h
      rw [List.mem_singleton.mp h]
      exact ⟨0, le_rfl, .self row⟩
    · rintro ⟨distance, hle, hbelow⟩
      cases hbelow with
      | self => exact List.mem_singleton_self _
      | reply answers rest => omega
  | succ remaining ih =>
    rw [preorder, List.mem_cons, List.mem_flatMap]
    constructor
    · rintro (rfl | ⟨reply, hreply, hmem⟩)
      · exact ⟨0, Nat.zero_le _, .self below⟩
      · obtain ⟨distance, hle, hbelow⟩ := ih.mp hmem
        exact ⟨distance + 1, Nat.succ_le_succ hle, .reply hreply hbelow⟩
    · rintro ⟨distance, hle, hbelow⟩
      cases hbelow with
      | self => exact .inl rfl
      | reply answers rest => exact .inr ⟨_, answers, ih.mpr ⟨_, Nat.le_of_succ_le_succ hle, rest⟩⟩

/-- Preorder commutes with a map of the rows that the replies commute with. -/
theorem map_preorder {σ : Type*} {replies' : σ → List σ} {f : ρ → σ}
    (h : ∀ row, replies' (f row) = (replies row).map f) (remaining : ℕ) (row : ρ) :
    (preorder replies remaining row).map f = preorder replies' remaining (f row) := by
  induction remaining generalizing row with
  | zero => rfl
  | succ remaining ih =>
    rw [preorder, preorder, List.map_cons, List.map_flatMap, h, List.flatMap_map]
    exact congrArg _ (List.flatMap_congr fun reply _ => ih reply)

/-- What holds of a row and passes to replies holds below it. -/
theorem Below.keep {p : ρ → Prop} (hstep : ∀ {row reply}, p row → reply ∈ replies row → p reply)
    {distance : ℕ} {row below : ρ} (h : Below replies distance row below) (hrow : p row) :
    p below := by
  induction h with
  | self => exact hrow
  | reply answers _ ih => exact ih (hstep hrow answers)

/-- The last reply of those that lead to a row. -/
theorem Below.last {distance : ℕ} {row below : ρ} (h : Below replies (distance + 1) row below) :
    ∃ parent, Below replies distance row parent ∧ below ∈ replies parent := by
  induction distance generalizing row with
  | zero =>
    cases h with
    | reply answers rest =>
      cases rest with
      | self => exact ⟨row, .self row, answers⟩
  | succ distance ih =>
    cases h with
    | reply answers rest =>
      obtain ⟨parent, hparent, hreply⟩ := ih rest
      exact ⟨parent, .reply answers hparent, hreply⟩

theorem Below.snoc {distance : ℕ} {row parent below : ρ} (h : Below replies distance row parent)
    (answers : below ∈ replies parent) : Below replies (distance + 1) row below := by
  induction h with
  | self => exact .reply answers (.self below)
  | reply hreply _ ih => exact .reply hreply (ih answers)

/-! ## Each row once -/

/-- Rows in layers: a reply is one layer deeper than its row, comes once, and is a
reply to no other row. `p` is what the rows have to satisfy for that. -/
structure Layered (replies : ρ → List ρ) (layer : ρ → ℕ) (p : ρ → Prop) : Prop where
  closed : ∀ {row reply}, p row → reply ∈ replies row → p reply
  deeper : ∀ {row reply}, reply ∈ replies row → layer reply = layer row + 1
  once : ∀ {row}, p row → (replies row).Nodup
  one_row : ∀ {row row' reply}, p row → p row' → reply ∈ replies row → reply ∈ replies row' →
    row = row'

namespace Layered

variable {layer : ρ → ℕ} {p : ρ → Prop}

theorem layer_below (h : Layered replies layer p) {distance : ℕ} {row below : ρ}
    (hbelow : Below replies distance row below) : layer below = layer row + distance := by
  induction hbelow with
  | self => rfl
  | reply answers _ ih =>
    rw [ih, h.deeper answers]
    omega

/-- Rows of one layer have nothing below them in common. -/
theorem above_unique (h : Layered replies layer p) {distance distance' : ℕ} {row row' below : ρ}
    (hrow : p row) (hrow' : p row') (hlayer : layer row = layer row')
    (hbelow : Below replies distance row below) (hbelow' : Below replies distance' row' below) :
    row = row' := by
  have hsame : distance = distance' := by
    have hlevel := h.layer_below hbelow
    have hlevel' := h.layer_below hbelow'
    omega
  subst hsame
  induction distance generalizing below with
  | zero =>
    cases hbelow with
    | self =>
      cases hbelow' with
      | self => rfl
  | succ distance ih =>
    obtain ⟨parent, hparent, hreply⟩ := hbelow.last
    obtain ⟨parent', hparent', hreply'⟩ := hbelow'.last
    obtain rfl := h.one_row (hparent.keep h.closed hrow) (hparent'.keep h.closed hrow') hreply hreply'
    exact ih hparent hparent'

theorem flatMap_nodup (h : Layered replies layer p) {remaining : ℕ} {siblings : List ρ}
    (hsiblings : ∀ row ∈ siblings, p row) (hnodup : siblings.Nodup)
    (hlayer : ∀ first ∈ siblings, ∀ second ∈ siblings, layer first = layer second)
    (hbelow : ∀ row ∈ siblings, (preorder replies remaining row).Nodup) :
    (siblings.flatMap (preorder replies remaining)).Nodup := by
  refine List.nodup_flatMap.mpr ⟨hbelow, hnodup.imp_of_mem ?_⟩
  intro first second hfirst hsecond hne row hmem hmem'
  obtain ⟨distance, -, hfrom⟩ := mem_preorder.mp hmem
  obtain ⟨distance', -, hfrom'⟩ := mem_preorder.mp hmem'
  exact hne (h.above_unique (hsiblings _ hfirst) (hsiblings _ hsecond)
    (hlayer _ hfirst _ hsecond) hfrom hfrom')

/-- In preorder no row comes twice, by induction on the levels left. -/
theorem preorder_nodup (h : Layered replies layer p) (remaining : ℕ) {row : ρ} (hrow : p row) :
    (preorder replies remaining row).Nodup := by
  induction remaining generalizing row with
  | zero => exact List.nodup_singleton _
  | succ remaining ih =>
    rw [preorder, List.nodup_cons]
    refine ⟨fun hmem => ?_, h.flatMap_nodup (fun reply hreply => h.closed hrow hreply) (h.once hrow)
      (fun first hfirst second hsecond => (h.deeper hfirst).trans (h.deeper hsecond).symm)
      fun reply hreply => ih (h.closed hrow hreply)⟩
    -- what is below a reply is in a deeper layer than the row
    obtain ⟨reply, hreply, hbelow⟩ := List.mem_flatMap.mp hmem
    obtain ⟨distance, -, hfrom⟩ := mem_preorder.mp hbelow
    have hlevel := h.layer_below hfrom
    rw [h.deeper hreply] at hlevel
    omega

end Layered

/-! ## The order of the paths -/

variable {β : Type*} [LT β] {path : ρ → List β} {width : ℕ} {p : ρ → Prop}

/-- Among paths of one length, what follows them does not matter. -/
theorem append_lt_append {first second : List β} (hlength : first.length = second.length)
    (h : first < second) (rest rest' : List β) : first ++ rest < second ++ rest' := by
  induction h with
  | nil => cases hlength
  | rel hlt => exact List.Lex.rel hlt
  | cons _ ih => exact List.Lex.cons (ih (Nat.succ.inj hlength))

/-- The paths of the replies continue that of the row, by pieces of one width and
in ascending order. `p` is what the rows have to satisfy for that. -/
structure Spelled (replies : ρ → List ρ) (path : ρ → List β) (width : ℕ) (p : ρ → Prop) : Prop where
  width_pos : 0 < width
  closed : ∀ {row reply}, p row → reply ∈ replies row → p reply
  continued : ∀ {row reply}, p row → reply ∈ replies row →
    ∃ piece, piece.length = width ∧ path reply = path row ++ piece
  ascending : ∀ {row}, p row → (replies row).Pairwise fun first second => path first < path second

namespace Spelled

theorem path_below (h : Spelled replies path width p) {distance : ℕ} {row below : ρ}
    (hbelow : Below replies distance row below) (hrow : p row) : path row <+: path below := by
  induction hbelow with
  | self => exact List.prefix_rfl
  | reply answers _ ih =>
    obtain ⟨piece, -, hpath⟩ := h.continued hrow answers
    exact (hpath ▸ List.prefix_append _ piece : _ <+: _).trans (ih (h.closed hrow answers))

/-- Replies have paths of the same length. -/
theorem length_eq (h : Spelled replies path width p) {row first second : ρ} (hrow : p row)
    (hfirst : first ∈ replies row) (hsecond : second ∈ replies row) :
    (path first).length = (path second).length := by
  obtain ⟨piece, hlength, hpath⟩ := h.continued hrow hfirst
  obtain ⟨piece', hlength', hpath'⟩ := h.continued hrow hsecond
  rw [hpath, hpath', List.length_append, List.length_append, hlength, hlength']

/-- A reply comes behind its row, and so does everything below it. -/
theorem lt_of_reply (h : Spelled replies path width p) {row reply : ρ} (hrow : p row)
    (answers : reply ∈ replies row) : path row < path reply := by
  obtain ⟨piece, hlength, hpath⟩ := h.continued hrow answers
  cases piece with
  | nil =>
    have hpos := h.width_pos
    rw [← hlength] at hpos
    cases hpos
  | cons first rest =>
    have hempty : ([] : List β) < first :: rest := List.Lex.nil
    have hlt : path row ++ [] < path row ++ first :: rest := List.append_left_lt hempty
    rwa [List.append_nil, ← hpath] at hlt

/-- Below two siblings the order is that of the siblings. -/
theorem lt_of_siblings (h : Spelled replies path width p) {distance distance' : ℕ}
    {first second below below' : ρ} (hfirst : p first) (hsecond : p second)
    (hlength : (path first).length = (path second).length) (hlt : path first < path second)
    (hbelow : Below replies distance first below)
    (hbelow' : Below replies distance' second below') : path below < path below' := by
  obtain ⟨rest, hrest⟩ := h.path_below hbelow hfirst
  obtain ⟨rest', hrest'⟩ := h.path_below hbelow' hsecond
  rw [← hrest, ← hrest']
  exact append_lt_append hlength hlt rest rest'

/-- Siblings in ascending order, with everything below them. -/
theorem flatMap_ascending (h : Spelled replies path width p) {remaining : ℕ} {siblings : List ρ}
    (hsiblings : ∀ row ∈ siblings, p row)
    (hlength : ∀ first ∈ siblings, ∀ second ∈ siblings,
      (path first).length = (path second).length)
    (hascending : siblings.Pairwise fun first second => path first < path second)
    (hbelow : ∀ row ∈ siblings,
      (preorder replies remaining row).Pairwise fun first second => path first < path second) :
    (siblings.flatMap (preorder replies remaining)).Pairwise
      fun first second => path first < path second := by
  rw [List.pairwise_flatMap]
  refine ⟨hbelow, hascending.imp_of_mem ?_⟩
  intro first second hfirst hsecond hlt below hmem below' hmem'
  obtain ⟨distance, -, hfrom⟩ := mem_preorder.mp hmem
  obtain ⟨distance', -, hfrom'⟩ := mem_preorder.mp hmem'
  exact h.lt_of_siblings (hsiblings _ hfirst) (hsiblings _ hsecond)
    (hlength _ hfirst _ hsecond) hlt hfrom hfrom'

/-- In preorder the paths ascend, by induction on the levels left. -/
theorem preorder_ascending (h : Spelled replies path width p) (remaining : ℕ) {row : ρ}
    (hrow : p row) :
    (preorder replies remaining row).Pairwise fun first second => path first < path second := by
  induction remaining generalizing row with
  | zero => exact List.pairwise_singleton ..
  | succ remaining ih =>
    rw [preorder, List.pairwise_cons]
    refine ⟨?_, h.flatMap_ascending (fun reply hreply => h.closed hrow hreply)
      (fun first hfirst second hsecond => h.length_eq hrow hfirst hsecond) (h.ascending hrow)
      fun reply hreply => ih (h.closed hrow hreply)⟩
    intro below hmem
    obtain ⟨reply, hreply, hbelow⟩ := List.mem_flatMap.mp hmem
    obtain ⟨distance, -, hfrom⟩ := mem_preorder.mp hbelow
    obtain ⟨rest, hrest⟩ := h.path_below hfrom (h.closed hrow hreply)
    rw [← hrest]
    exact List.Lex.append_right _ rest (h.lt_of_reply hrow hreply)

end Spelled

/-- In ascending order, what is smaller comes before. -/
theorem mem_front_of_lt [Std.Asymm (· < · : β → β → Prop)] {front rest : List ρ} {earlier row : ρ}
    (hascending : (front ++ row :: rest).Pairwise fun first second => path first < path second)
    (hmem : earlier ∈ front ++ row :: rest) (hlt : path earlier < path row) : earlier ∈ front := by
  rcases List.mem_append.mp hmem with hfront | hrest
  · exact hfront
  · have hbehind := (List.pairwise_append.mp hascending).2.1
    rcases List.mem_cons.mp hrest with rfl | hlater
    · exact absurd hlt (List.lt_asymm hlt)
    · exact absurd hlt (List.lt_asymm ((List.pairwise_cons.mp hbehind).1 _ hlater))

end Forest
