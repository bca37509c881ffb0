import HyperCom.Protocol.SessionMessages

/-!
# What a valid text consists of

`validate_text_field` measures one sequence after another. A text is valid exactly
if it is a row of sequences each of which is measured as itself, whatever follows
it (`validateTextField_iff`); so a text cut between two sequences stays valid, and
so do two texts put together.

The characterisation is by the code's own measure, not by Unicode: what a sequence is in the
language of UTF-8 is `Protocol.UnicodeText`'s subject. It is the form that proofs about
texts of the program want, where texts are concatenated, cut at a number of characters or
built from ASCII.
-/

namespace HyperCom

open BinaryCodec

/-- A byte that continues a sequence. -/
def isContinuation (byte : UInt8) : Bool := byte &&& 0xC0 == 0x80

/-- A sequence: a lead byte, then continuation bytes. -/
structure IsSequence (bytes : ByteString) : Prop where
  /-- it is measured as itself -/
  measured : ∀ rest, measureUtf8Sequence (bytes ++ rest) = bytes.length
  shape : ∃ lead tail, bytes = lead :: tail ∧ isContinuation lead = false ∧
    ∀ byte ∈ tail, isContinuation byte = true
  short : bytes.length ≤ 4

/-! ## One sequence -/

/-- A check of all bytes. -/
theorem byte_all {p : UInt8 → Bool} (h : ((List.range 256).all fun n => p (UInt8.ofNat n)) = true)
    (byte : UInt8) : p byte = true := by
  have hmem : byte.toNat ∈ List.range 256 := List.mem_range.mpr byte.toNat_lt
  have hbyte := List.all_eq_true.mp h _ hmem
  rwa [UInt8.ofNat_toNat] at hbyte

/-- An ASCII byte starts a character. -/
theorem not_continuation_of_ascii {lead : UInt8} (h : lead < 0x80) : isContinuation lead = false := by
  have hall := byte_all (p := fun byte => !decide (byte < 0x80) || !isContinuation byte)
    (by decide +kernel) lead
  simpa [h] using hall

/-- A lead byte announces two to four bytes, and is no continuation. -/
theorem decodeLeadByte_some {lead : UInt8} {length : ℕ} {codePoint : UInt32}
    (h : decodeLeadByte lead = some (length, codePoint)) :
    isContinuation lead = false ∧ 2 ≤ length ∧ length ≤ 4 := by
  have hall := byte_all (p := fun byte => (decodeLeadByte byte).all fun announced =>
    !isContinuation byte && (decide (2 ≤ announced.1) && decide (announced.1 ≤ 4)))
    (by decide +kernel) lead
  simpa [h] using hall

/-- Only continuation bytes are taken into a code point. -/
theorem appendContinuation_some {codePoint codePoint' : UInt32} {bytes : ByteString}
    (h : appendContinuation codePoint bytes = some codePoint') :
    ∀ byte ∈ bytes, isContinuation byte = true := by
  induction bytes generalizing codePoint with
  | nil => exact fun _ hbyte => absurd hbyte List.not_mem_nil
  | cons byte bytes ih =>
    rw [appendContinuation] at h
    split at h
    · cases h
    · next hbyte =>
      intro other hother
      rcases List.mem_cons.mp hother with rfl | hrest
      · simpa [isContinuation] using hbyte
      · exact ih h other hrest

/-- An ASCII character that is allowed is a sequence. -/
theorem isSequence_ascii {byte : UInt8} (hascii : byte < 0x80) (hallowed : isAllowedAscii byte = true) :
    IsSequence [byte] where
  measured := by
    intro rest
    rw [List.singleton_append, measureUtf8Sequence, if_pos hascii, if_pos hallowed,
      List.length_singleton]
  shape := ⟨byte, [], rfl, not_continuation_of_ascii hascii, fun _ h => absurd h List.not_mem_nil⟩
  short := Nat.le_of_ble_eq_true rfl

/-- What is measured at the head of a text is a sequence. -/
theorem isSequence_of_measure {text : ByteString} (h : measureUtf8Sequence text ≠ 0) :
    IsSequence (text.take (measureUtf8Sequence text)) ∧ measureUtf8Sequence text ≤ text.length := by
  cases text with
  | nil => exact absurd rfl h
  | cons lead rest =>
    by_cases hascii : lead < 0x80
    · rw [measureUtf8Sequence, if_pos hascii] at h ⊢
      by_cases hallowed : isAllowedAscii lead = true
      · rw [if_pos hallowed]
        exact ⟨isSequence_ascii hascii hallowed, Nat.succ_le_succ (Nat.zero_le _)⟩
      · rw [if_neg hallowed] at h
        exact absurd rfl h
    · rw [measureUtf8Sequence, if_neg hascii] at h ⊢
      rcases hlead : decodeLeadByte lead with _ | ⟨length, codePoint⟩
      · rw [hlead] at h
        exact absurd rfl h
      simp only [hlead] at h ⊢
      obtain ⟨hcontinuation, htwo, hfour⟩ := decodeLeadByte_some hlead
      split at h
      · exact absurd rfl h
      next hfits =>
      rw [if_neg hfits]
      rcases htail : appendContinuation codePoint (rest.take (length - 1)) with _ | codePoint'
      · rw [htail] at h
        exact absurd rfl h
      simp only [htail] at h ⊢
      split at h
      next hcanonical =>
        rw [if_pos hcanonical]
        have htail_length : (rest.take (length - 1)).length = length - 1 := by
          rw [List.length_take]
          omega
        have htake : (lead :: rest).take length = lead :: rest.take (length - 1) := by
          obtain ⟨shorter, rfl⟩ : ∃ shorter, length = shorter + 1 := ⟨length - 1, by omega⟩
          rfl
        rw [htake, List.length_cons]
        refine ⟨⟨fun after => ?_, ⟨lead, _, rfl, hcontinuation, appendContinuation_some htail⟩, ?_⟩,
          by omega⟩
        · -- the measure looks at the announced bytes only
          have hafter : (rest.take (length - 1) ++ after).take (length - 1) =
              rest.take (length - 1) := by
            rw [List.take_append_of_le_length htail_length.ge, List.take_of_length_le htail_length.le]
          have hroom : ¬ length > (rest.take (length - 1) ++ after).length + 1 := by
            rw [List.length_append]
            omega
          rw [List.cons_append, measureUtf8Sequence, if_neg hascii]
          simp only [hlead, if_neg hroom, hafter, htail, if_pos hcanonical, List.length_cons]
          omega
        · rw [List.length_cons]
          omega
      next => exact absurd rfl h

/-! ## A text -/

/-- The passes of the loop, by induction on them. -/
theorem validateSequences_iff {passes : ℕ} {text : ByteString} (h : text.length ≤ passes) :
    validateSequences passes text = true ↔
      ∃ sequences : List ByteString, text = sequences.flatten ∧ ∀ s ∈ sequences, IsSequence s := by
  induction passes generalizing text with
  | zero =>
    rw [List.length_eq_zero_iff.mp (Nat.le_zero.mp h), validateSequences]
    exact ⟨fun _ => ⟨[], rfl, fun _ hs => absurd hs List.not_mem_nil⟩, fun _ => rfl⟩
  | succ passes ih =>
    cases text with
    | nil =>
      rw [validateSequences]
      exact ⟨fun _ => ⟨[], rfl, fun _ hs => absurd hs List.not_mem_nil⟩, fun _ => rfl⟩
    | cons byte rest =>
      rw [validateSequences]
      constructor
      · intro hvalid
        split at hvalid
        · cases hvalid
        next hmeasured =>
        obtain ⟨hsequence, hlength⟩ := isSequence_of_measure hmeasured
        have hshorter : ((byte :: rest).drop (measureUtf8Sequence (byte :: rest))).length ≤ passes := by
          rw [List.length_drop]
          omega
        obtain ⟨sequences, hrest, hall⟩ := (ih hshorter).mp hvalid
        refine ⟨(byte :: rest).take (measureUtf8Sequence (byte :: rest)) :: sequences, ?_, ?_⟩
        · rw [List.flatten_cons, ← hrest, List.take_append_drop]
        · intro s hs
          rcases List.mem_cons.mp hs with rfl | hs
          · exact hsequence
          · exact hall s hs
      · rintro ⟨sequences, htext, hall⟩
        cases sequences with
        | nil => cases htext
        | cons s sequences =>
          have hs := hall s List.mem_cons_self
          obtain ⟨lead, tail, hshape, -, -⟩ := hs.shape
          have hpos : s.length ≠ 0 := by
            rw [hshape]
            exact Nat.succ_ne_zero _
          rw [List.flatten_cons] at htext
          rw [htext, hs.measured, if_neg hpos, List.drop_left]
          refine (ih ?_).mpr ⟨sequences, rfl, fun s hs => hall s (List.mem_cons_of_mem _ hs)⟩
          have hlength := congrArg List.length htext
          rw [List.length_append] at hlength
          omega

/-- A text is valid exactly if it consists of sequences. -/
theorem validateTextField_iff {text : ByteString} : validateTextField text = true ↔
    ∃ sequences : List ByteString, text = sequences.flatten ∧ ∀ s ∈ sequences, IsSequence s :=
  validateSequences_iff le_rfl

/-- Names of allowed characters are valid texts. -/
theorem validateTextField_of_ascii {text : ByteString}
    (h : ∀ byte ∈ text, byte < 0x80 ∧ isAllowedAscii byte = true) :
    validateTextField text = true := by
  refine validateTextField_iff.mpr ⟨text.map fun byte => [byte], ?_, ?_⟩
  · rw [← List.flatMap_def, List.flatMap_singleton']
  · intro s hs
    obtain ⟨byte, hbyte, rfl⟩ := List.mem_map.mp hs
    exact isSequence_ascii (h byte hbyte).1 (h byte hbyte).2

/-- A handle is a text within its cap. -/
theorem textInRange_of_validateHandle {handle : ByteString} (h : validateHandle handle = true) :
    TextInRange maxHandleLength handle := by
  rw [validateHandle] at h
  split at h
  · cases h
  next hlength =>
  split at h
  · cases h
  rw [Bool.or_eq_true, not_or, decide_eq_true_eq, decide_eq_true_eq, not_lt, not_lt] at hlength
  refine ⟨hlength.2, validateTextField_of_ascii fun byte hbyte => ?_⟩
  have hcharacter := List.all_eq_true.mp h byte hbyte
  have hall := byte_all (p := fun byte => !isHandleCharacter byte ||
    (decide (byte < 0x80) && isAllowedAscii byte)) (by decide +kernel) byte
  simpa [hcharacter] using hall

end HyperCom
