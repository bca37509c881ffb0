import Mathlib.Data.List.AList

/-!
# Counting the entries of a table by label

A finite table whose values carry a label, and a second table that counts, for
each label in use, the entries carrying it. `Census` is the relation between the
two: a label no entry carries has no count at all, never a count of zero.
Adding, erasing and replacing one entry each have one lemma.

It is the shape of every cache of counts: the table is what is true, the counts are what is
consulted, and the code that writes one has to write the other. A label without entries has
to lose its count, or a table of counts would grow with every label ever seen.
-/

namespace Census

variable {κ β α : Type*} [DecidableEq α] {label : β → α} {table : AList fun _ : κ => β} {key : κ}
  {value : β} {a : α}

/-- The number of entries carrying the label. -/
def tally (label : β → α) (table : AList fun _ : κ => β) (a : α) : ℕ :=
  table.entries.countP fun entry => label entry.2 = a

/-- What one value contributes to the tally of a label. -/
def share (label : β → α) (value : β) (a : α) : ℕ := if label value = a then 1 else 0

@[simp] theorem share_self : share label value (label value) = 1 := if_pos rfl

theorem share_other (h : label value ≠ a) : share label value a = 0 := if_neg h

theorem tally_cons (entries : List (Σ _ : κ, β)) :
    (⟨key, value⟩ :: entries).countP (fun entry => label entry.2 = a) =
      entries.countP (fun entry => label entry.2 = a) + share label value a := by
  simp [List.countP_cons, share]

/-- The size of a table is the tally of the label all values share. -/
theorem size_eq_tally : table.entries.length = tally (fun _ => ()) table () := by
  simp [tally]

/-- No label is carried by more entries than there are. -/
theorem tally_le_size : tally label table a ≤ table.entries.length :=
  List.countP_le_length

variable [DecidableEq κ]

/-- An erased entry takes its share with it. -/
theorem tally_erase_add (h : table.lookup key = some value) :
    tally label (table.erase key) a + share label value a = tally label table a := by
  have hmem : key ∈ table.entries.keys := AList.lookup_isSome.mp (by simp [h])
  obtain ⟨found, before, later, -, hentries, herased⟩ := List.exists_of_kerase hmem
  obtain rfl : found = value := by
    have hfound : (⟨key, found⟩ : Σ _ : κ, β) ∈ table.entries := by simp [hentries]
    rw [← AList.mem_lookup_iff, h] at hfound
    exact (Option.some.inj hfound).symm
  have hcount : (⟨key, found⟩ :: later).countP (fun entry => label entry.2 = a) =
      later.countP (fun entry => label entry.2 = a) + share label found a := tally_cons later
  have hleft : (table.erase key).entries = before ++ later := herased
  simp only [tally, hleft, hentries, List.countP_append, hcount, Nat.add_assoc]

theorem erase_of_lookup_none (h : table.lookup key = none) : table.erase key = table :=
  AList.ext (List.kerase_of_notMem_keys (AList.lookup_eq_none.mp h))

/-- An inserted entry adds its share to what the table holds elsewhere. -/
theorem tally_insert : tally label (table.insert key value) a =
    tally label (table.erase key) a + share label value a :=
  tally_cons _

theorem size_insert (h : table.lookup key = none) :
    (table.insert key value).entries.length = table.entries.length + 1 := by
  rw [size_eq_tally, tally_insert, erase_of_lookup_none h, share_self, size_eq_tally]

theorem size_erase_add (h : table.lookup key = some value) :
    (table.erase key).entries.length + 1 = table.entries.length := by
  have herase : tally (fun _ => ()) (table.erase key) () + share (fun _ => ()) value () =
      tally (fun _ => ()) table () := tally_erase_add h
  rwa [share_self, ← size_eq_tally, ← size_eq_tally] at herase

theorem size_replace {value' : β} (h : table.lookup key = some value) :
    (table.insert key value').entries.length = table.entries.length := by
  rw [size_eq_tally, tally_insert, share_self, ← size_eq_tally, size_erase_add h]

end Census

/-- The counts are those of the table: present exactly for the labels in use. -/
def Census {κ β α : Type*} [DecidableEq κ] [DecidableEq α] (label : β → α)
    (table : AList fun _ : κ => β) (counts : α → Option ℕ) : Prop :=
  ∀ a, counts a = if Census.tally label table a = 0 then none else some (Census.tally label table a)

namespace Census

variable {κ β α : Type*} [DecidableEq κ] [DecidableEq α] {label : β → α}
  {table : AList fun _ : κ => β} {counts counts' : α → Option ℕ} {key : κ} {value value' : β} {a : α}

theorem empty : Census label (∅ : AList fun _ : κ => β) fun _ => none := fun _ => rfl

/-- The count of a label, and zero for the labels not in use. -/
theorem getD_eq (h : Census label table counts) : (counts a).getD 0 = tally label table a := by
  rw [h a]
  split
  · next hzero => exact hzero.symm
  · rfl

/-- No count is zero. -/
theorem ne_zero (h : Census label table counts) : counts a ≠ some 0 := by
  rw [h a]
  split
  · exact fun hzero => by cases hzero
  · next hpos => exact fun hzero => hpos (Option.some.inj hzero)

/-- A new entry: the count of its label goes up by one, from nothing if need
be. -/
theorem insert (h : Census label table counts) (hkey : table.lookup key = none)
    (hcounted : counts' (label value) = some ((counts (label value)).getD 0 + 1))
    (hothers : ∀ a, a ≠ label value → counts' a = counts a) :
    Census label (table.insert key value) counts' := by
  intro a
  rw [tally_insert, erase_of_lookup_none hkey]
  by_cases ha : a = label value
  · subst ha
    rw [hcounted, h.getD_eq, share_self, if_neg (Nat.succ_ne_zero _)]
  · rw [hothers a ha, h a, share_other (Ne.symm ha), Nat.add_zero]

/-- An entry less: the count of its label goes down by one, and is dropped with
the last one. -/
theorem erase (h : Census label table counts) (hkey : table.lookup key = some value)
    (hcounted : counts' (label value) =
      if (counts (label value)).getD 0 ≤ 1 then none else some ((counts (label value)).getD 0 - 1))
    (hothers : ∀ a, a ≠ label value → counts' a = counts a) :
    Census label (table.erase key) counts' := by
  intro a
  have hshare : tally label (table.erase key) a + share label value a = tally label table a :=
    tally_erase_add hkey
  by_cases ha : a = label value
  · subst ha
    rw [share_self] at hshare
    rw [hcounted, h.getD_eq, ← hshare, Nat.add_sub_cancel]
    by_cases hlast : tally label (table.erase key) (label value) = 0
    · simp [hlast]
    · rw [if_neg hlast, if_neg (by omega)]
  · rw [share_other (Ne.symm ha), Nat.add_zero] at hshare
    rw [hothers a ha, h a, hshare]

/-- An entry replaced by one that carries the same label. -/
theorem replace (h : Census label table counts) (hkey : table.lookup key = some value)
    (hlabel : label value' = label value) : Census label (table.insert key value') counts := by
  intro a
  have hsame : share label value' a = share label value a := by rw [share, hlabel, share]
  rw [tally_insert, hsame, tally_erase_add hkey]
  exact h a

end Census
