import HyperCom.Lib.Fallible

/-!
# Exact codecs

A reader working on a state with unread bytes, and a writer, are *exact* for
a set of values when they are inverse to each other in both directions:

* **complete** — reading a written value followed by any suffix returns that
  value and leaves exactly the suffix;
* **sound** — whatever is read is one of those values, and writing it again
  reproduces the consumed bytes. No value has two encodings.

A record's reader is a chain of field reads ending in `pure`. Along that chain
the codec is exact only *relative* to the fields already read, so the notion
carried through the proof is `ExactOn C`: exact for the values satisfying `C`.
`ExactOn.field` extends the chain by one field, `ExactOn.done` ends it, and
`ExactOn.exact` forgets the trivial condition at the front.
-/

namespace BinaryCodec

universe u

variable {σ : Type u} {α β : Type} {rest : σ → List UInt8}

/-- `read` and `write` are inverse to each other on the values satisfying `C`
and `valid`. `C` records what the fields already read have fixed. -/
structure ExactOn (rest : σ → List UInt8) (C : α → Prop) (write : α → List UInt8)
    (read : Fallible σ α) (valid : α → Prop) : Prop where
  /-- a written value is read back, and nothing after it is consumed -/
  complete : ∀ {s v suffix}, C v → valid v → rest s = write v ++ suffix →
    ∃ s', read s = (some v, s') ∧ rest s' = suffix
  /-- a read value is valid, and its encoding is what was consumed -/
  sound : ∀ {s v s'}, read s = (some v, s') →
    C v ∧ valid v ∧ rest s = write v ++ rest s'

/-- An exact codec: the two inverse laws, with nothing read beforehand. -/
structure Exact (rest : σ → List UInt8) (write : α → List UInt8)
    (read : Fallible σ α) (valid : α → Prop) : Prop where
  /-- a written value is read back, and nothing after it is consumed -/
  complete : ∀ {s v suffix}, valid v → rest s = write v ++ suffix →
    ∃ s', read s = (some v, s') ∧ rest s' = suffix
  /-- a read value is valid, and its encoding is what was consumed -/
  sound : ∀ {s v s'}, read s = (some v, s') → valid v ∧ rest s = write v ++ rest s'

/-- The end of a chain of field reads: the fields read determine the record. -/
theorem ExactOn.done {C : α → Prop} {v₀ : α} (hC : ∀ v, C v ↔ v = v₀) :
    ExactOn rest C (fun _ => List.flatten []) (pure v₀) (fun _ => True) where
  complete := by
    intro s v suffix hv _ hs
    obtain rfl := (hC v).mp hv
    exact ⟨s, rfl, by simpa using hs⟩
  sound := by
    intro s v s' h
    obtain ⟨hv, rfl⟩ := Prod.mk.inj h
    exact ⟨(hC v).mpr (Option.some.inj hv).symm, trivial, by simp⟩

/-- One field of a record, then the rest of the chain. `get` is the field. -/
theorem ExactOn.field {C : β → Prop} {get : β → α} {write : α → List UInt8}
    {read : Fallible σ α} {valid : α → Prop} {tail : β → List (List UInt8)}
    {k : α → Fallible σ β} {valid' : β → Prop} (h : Exact rest write read valid)
    (hk : ∀ a, ExactOn rest (fun v => C v ∧ get v = a) (fun v => (tail v).flatten) (k a) valid') :
    ExactOn rest C (fun v => (write (get v) :: tail v).flatten) (read >>= k)
      (fun v => valid (get v) ∧ valid' v) where
  complete := by
    intro s v suffix hC hv hs
    rw [List.flatten_cons, List.append_assoc] at hs
    obtain ⟨s₁, hr, hs₁⟩ := h.complete hv.1 hs
    obtain ⟨s₂, hr₂, hs₂⟩ := (hk (get v)).complete ⟨hC, rfl⟩ hv.2 hs₁
    exact ⟨s₂, by rw [Fallible.bind_some hr, hr₂], hs₂⟩
  sound := by
    intro s v s' hr
    obtain ⟨a, s₁, hr₁, hr₂⟩ := Fallible.bind_eq_some hr
    obtain ⟨ha, hs₁⟩ := h.sound hr₁
    obtain ⟨⟨hC, rfl⟩, hv, hs₂⟩ := (hk a).sound hr₂
    exact ⟨hC, ⟨ha, hv⟩, by rw [hs₁, hs₂, List.flatten_cons, List.append_assoc]⟩

/-- A finished chain is an exact codec. -/
theorem ExactOn.exact {write : α → List UInt8} {read : Fallible σ α} {valid valid' : α → Prop}
    (h : ExactOn rest (fun _ => True) write read valid) (hv : ∀ v, valid v ↔ valid' v) :
    Exact rest write read valid' where
  complete := fun hvalid hs => h.complete trivial ((hv _).mpr hvalid) hs
  sound := fun hr => ⟨(hv _).mp (h.sound hr).2.1, (h.sound hr).2.2⟩

/-- Restricting a codec to the values a check accepts: the reader runs the
check after reading. -/
theorem Exact.guard {write : α → List UInt8} {read : Fallible σ α} {valid : α → Prop}
    (h : Exact rest write read valid) (check : α → Bool) :
    Exact rest write (read >>= fun a => if check a then pure a else Fallible.fail)
      (fun a => valid a ∧ check a = true) where
  complete := by
    intro s a suffix ha hs
    obtain ⟨s', hr, hs'⟩ := h.complete ha.1 hs
    exact ⟨s', by rw [Fallible.bind_some hr, if_pos ha.2, Fallible.pure_apply], hs'⟩
  sound := by
    intro s a s' hr
    obtain ⟨b, s₁, hr₁, hr₂⟩ := Fallible.bind_eq_some hr
    by_cases hb : check b = true
    · rw [if_pos hb] at hr₂
      obtain ⟨hab, rfl⟩ := Prod.mk.inj hr₂
      obtain rfl := Option.some.inj hab
      exact ⟨⟨(h.sound hr₁).1, hb⟩, (h.sound hr₁).2⟩
    · rw [if_neg hb] at hr₂
      cases hr₂

/-- Packing the values of a codec into a subtype all of them belong to. -/
theorem Exact.subtype {write : α → List UInt8} {read : Fallible σ α} {valid p : α → Prop}
    [DecidablePred p] (h : Exact rest write read valid) (hp : ∀ a, valid a → p a) :
    Exact rest (fun a : Subtype p => write a.1)
      (read >>= fun a => if h : p a then pure ⟨a, h⟩ else Fallible.fail)
      (fun a => valid a.1) where
  complete := by
    intro s a suffix ha hs
    obtain ⟨s', hr, hs'⟩ := h.complete ha hs
    exact ⟨s', by rw [Fallible.bind_some hr, dif_pos a.2, Fallible.pure_apply], hs'⟩
  sound := by
    intro s a s' hr
    obtain ⟨b, s₁, hr₁, hr₂⟩ := Fallible.bind_eq_some hr
    rw [dif_pos (hp b (h.sound hr₁).1)] at hr₂
    obtain ⟨hab, rfl⟩ := Prod.mk.inj hr₂
    obtain rfl := Option.some.inj hab
    exact h.sound hr₁

/-- Decoding through a partial function that inverts an encoding where `p`
holds. -/
theorem Exact.decodeWhere {write : α → List UInt8} {read : Fallible σ α} {valid : α → Prop}
    {p : β → Prop} (h : Exact rest write read valid) {enc : β → α} {dec : α → Option β}
    (hdec : ∀ a b, dec a = some b ↔ p b ∧ a = enc b) (hvalid : ∀ b, valid (enc b)) :
    Exact rest (fun b => write (enc b)) (read >>= fun a => Fallible.ofOption (dec a)) p where
  complete := by
    intro s b suffix hb hs
    obtain ⟨s', hr, hs'⟩ := h.complete (hvalid b) hs
    exact ⟨s', by rw [Fallible.bind_some hr, (hdec _ b).mpr ⟨hb, rfl⟩, Fallible.ofOption_some], hs'⟩
  sound := by
    intro s b s' hr
    obtain ⟨a, s₁, hr₁, hr₂⟩ := Fallible.bind_eq_some hr
    rcases hd : dec a with _ | b'
    · rw [hd] at hr₂
      cases hr₂
    · rw [hd] at hr₂
      obtain ⟨hb, rfl⟩ := Prod.mk.inj hr₂
      obtain rfl := Option.some.inj hb
      obtain ⟨hvalue, rfl⟩ := (hdec a b').mp hd
      exact ⟨hvalue, (h.sound hr₁).2⟩

/-- Decoding through a partial function with an inverse: an enumeration read
from its number. -/
theorem Exact.decode {write : α → List UInt8} {read : Fallible σ α} {valid : α → Prop}
    (h : Exact rest write read valid) {enc : β → α} {dec : α → Option β}
    (hdec : ∀ a b, dec a = some b ↔ a = enc b) (hvalid : ∀ b, valid (enc b)) :
    Exact rest (fun b => write (enc b)) (read >>= fun a => Fallible.ofOption (dec a))
      (fun _ => True) :=
  h.decodeWhere (fun a b => by rw [hdec, true_and]) hvalid

/-- Elements written back to back are read back one after the other. -/
theorem repeatTimes_complete {write : α → List UInt8} {read : Fallible σ α} {valid : α → Prop}
    (h : ∀ {s v suffix}, valid v → rest s = write v ++ suffix →
      ∃ s', read s = (some v, s') ∧ rest s' = suffix)
    {items : List α} (hitems : ∀ item ∈ items, valid item) {s : σ} {suffix : List UInt8}
    (hs : rest s = items.flatMap write ++ suffix) :
    ∃ s', read.repeatTimes items.length s = (some items, s') ∧ rest s' = suffix := by
  induction items generalizing s with
  | nil => exact ⟨s, rfl, by simpa using hs⟩
  | cons item tail ih =>
    rw [List.flatMap_cons, List.append_assoc] at hs
    obtain ⟨s₁, hr₁, hs₁⟩ := h (hitems item (List.mem_cons_self ..)) hs
    obtain ⟨s₂, hr₂, hs₂⟩ := ih (fun x hx => hitems x (List.mem_cons_of_mem _ hx)) hs₁
    exact ⟨s₂, by
      rw [List.length_cons, Fallible.repeatTimes, Fallible.bind_some hr₁, Fallible.bind_some hr₂,
        Fallible.pure_apply], hs₂⟩

/-- What is true of everything read is true of every element. -/
theorem repeatTimes_forall {read : Fallible σ α} {P : α → Prop}
    (h : ∀ {s v s'}, read s = (some v, s') → P v) {n : ℕ} {items : List α} {s s' : σ}
    (hr : read.repeatTimes n s = (some items, s')) : ∀ item ∈ items, P item := by
  induction n generalizing s s' items with
  | zero =>
    obtain ⟨hi, rfl⟩ := Prod.mk.inj hr
    obtain rfl := Option.some.inj hi
    exact fun _ hmem => nomatch hmem
  | succ n ih =>
    obtain ⟨item, s₁, hr₁, hr⟩ := Fallible.bind_eq_some hr
    obtain ⟨tail, s₂, hr₂, hr⟩ := Fallible.bind_eq_some hr
    obtain ⟨hi, -⟩ := Prod.mk.inj hr
    obtain rfl := Option.some.inj hi
    rintro x (_ | ⟨_, hx⟩)
    · exact h hr₁
    · exact ih hr₂ x hx

/-- A run of `n` elements, written back to back. -/
theorem Exact.repeatTimes {write : α → List UInt8} {read : Fallible σ α} {valid : α → Prop}
    (h : Exact rest write read valid) (n : ℕ) :
    Exact rest (fun items => items.flatMap write) (read.repeatTimes n)
      (fun items => items.length = n ∧ ∀ item ∈ items, valid item) where
  complete := by
    rintro s items suffix ⟨rfl, hitems⟩ hs
    exact repeatTimes_complete h.complete hitems hs
  sound := by
    intro s items s' hr
    induction n generalizing s items with
    | zero =>
      obtain ⟨hi, rfl⟩ := Prod.mk.inj hr
      obtain rfl := Option.some.inj hi
      simp
    | succ n ih =>
      have hvalid := repeatTimes_forall (fun hr => (h.sound hr).1) hr
      obtain ⟨item, s₁, hr₁, hr⟩ := Fallible.bind_eq_some hr
      obtain ⟨tail, s₂, hr₂, hr⟩ := Fallible.bind_eq_some hr
      obtain ⟨hi, rfl⟩ := Prod.mk.inj hr
      obtain rfl := Option.some.inj hi
      obtain ⟨⟨hlen, -⟩, hs₂⟩ := ih hr₂
      refine ⟨⟨by simp [hlen], hvalid⟩, ?_⟩
      rw [(h.sound hr₁).2, hs₂, List.flatMap_cons, List.append_assoc]

end BinaryCodec
