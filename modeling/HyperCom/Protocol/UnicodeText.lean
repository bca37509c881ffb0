import HyperCom.Lib.TextLines
import HyperCom.Protocol.TextFields

/-!
# The language of valid texts

`validate_text_field` with its offsets, where reading outside the text and running on
are errors, and what it accepts: the UTF-8 encodings of Unicode scalar values other than
the control characters of ASCII that are not tab or newline (`validate_text_field_iff`).

There are two halves. The first is about the code as it runs: the offsets of the loops, with
a fault for every access outside the text and for a loop that does not end, and that neither
happens (`validateTextFieldFrom_eq`). The second is about what is accepted, by comparing one
sequence after another with `String.utf8EncodeChar`, from the encoding to the measure
(`measure_encode`) and back (`IsSequence.exists_scalar`).

Overlong encodings, surrogates and values beyond the last plane are refused because their
code point is not canonical for its length (`isCanonicalCodePoint_ofNat`).
-/

namespace HyperCom

open BinaryCodec

/-! ## The loops over the text -/

/-- What must not happen while a text is looked at. -/
inductive TextFault where
  | outOfBounds
  | outOfFuel
deriving DecidableEq

/-- `text[offset]` -/
def byteAt (text : ByteString) (offset : ℕ) : Except TextFault UInt8 :=
  match text[offset]? with
  | some byte => .ok byte
  | none => .error .outOfBounds

/-- The loop over the continuation bytes, `remaining` of them from `index` on. -/
def decodeContinuationAt (text : ByteString) (offset : ℕ) :
    ℕ → ℕ → UInt32 → Except TextFault (Option UInt32)
  | _, 0, codePoint => .ok (some codePoint)
  | index, remaining + 1, codePoint => do
    let byte ← byteAt text (offset + index)
    if byte &&& 0xC0 != 0x80 then .ok none
    else
      decodeContinuationAt text offset (index + 1) remaining
        ((codePoint <<< 6) ||| (byte &&& 0x3F).toUInt32)

/-- `measure_utf8_sequence` -/
def measureUtf8SequenceAt (text : ByteString) (offset : ℕ) : Except TextFault ℕ := do
  let lead ← byteAt text offset
  if lead < 0x80 then .ok (if isAllowedAscii lead then 1 else 0)
  else
    match decodeLeadByte lead with
    | none => .ok 0
    | some (length, codePoint) =>
      if offset + length > text.length then .ok 0
      else
        match ← decodeContinuationAt text offset 1 (length - 1) codePoint with
        | none => .ok 0
        | some codePoint => .ok (if isCanonicalCodePoint codePoint length then length else 0)

/-- The loop of `validate_text_field` from an offset, for a number of passes. -/
def validateTextFieldFrom (text : ByteString) : ℕ → ℕ → Except TextFault Bool
  | 0, offset => if offset < text.length then .error .outOfFuel else .ok true
  | passes + 1, offset => do
    if offset < text.length then
      let consumed ← measureUtf8SequenceAt text offset
      if consumed = 0 then .ok false else validateTextFieldFrom text passes (offset + consumed)
    else .ok true

section Offsets

variable {text : ByteString} {offset : ℕ}

/-- An access within the text is no fault. -/
theorem byteAt_of_lt (h : offset < text.length) : byteAt text offset = .ok text[offset] := by
  rw [byteAt, List.getElem?_eq_getElem h]

/-- Where the continuation bytes are inside the text, the loop reads them. -/
theorem decodeContinuationAt_eq {index remaining : ℕ} {codePoint : UInt32}
    (h : offset + index + remaining ≤ text.length) :
    decodeContinuationAt text offset index remaining codePoint =
      .ok (appendContinuation codePoint ((text.drop (offset + index)).take remaining)) := by
  induction remaining generalizing index codePoint with
  | zero => rw [decodeContinuationAt, List.take_zero, appendContinuation]
  | succ remaining ih =>
    have hlt : offset + index < text.length := by omega
    rw [decodeContinuationAt, byteAt_of_lt hlt, List.drop_eq_getElem_cons hlt, List.take_succ_cons,
      appendContinuation]
    change (if _ then _ else _) = _
    split
    · rfl
    · rw [ih (by omega)]
      rfl

/-- Inside the text, a sequence is measured as at the head of what is left of it. -/
theorem measureUtf8SequenceAt_eq (h : offset < text.length) :
    measureUtf8SequenceAt text offset = .ok (measureUtf8Sequence (text.drop offset)) := by
  rw [measureUtf8SequenceAt, byteAt_of_lt h, List.drop_eq_getElem_cons h, measureUtf8Sequence]
  change (if _ then _ else _) = _
  split
  · rfl
  rcases hlead : decodeLeadByte text[offset] with _ | ⟨length, codePoint⟩
  · rfl
  have hlength := decodeLeadByte_some hlead
  have hleft : (text.drop (offset + 1)).length + 1 = text.length - offset := by
    rw [List.length_drop]
    omega
  simp only [hleft]
  by_cases hlong : offset + length > text.length
  · rw [if_pos hlong, if_pos (by omega)]
  · rw [if_neg hlong, if_neg (by omega), decodeContinuationAt_eq (by omega)]
    rcases appendContinuation codePoint ((text.drop (offset + 1)).take (length - 1)) with _ | value
    · rfl
    · rfl

/-- The loop runs on what is left of the text, and as many passes as there are bytes
are enough for it. -/
theorem validateTextFieldFrom_eq {passes : ℕ} (h : text.length ≤ offset + passes) :
    validateTextFieldFrom text passes offset = .ok (validateSequences passes (text.drop offset)) := by
  induction passes generalizing offset with
  | zero =>
    have hend : text.length ≤ offset := h
    rw [validateTextFieldFrom, if_neg (not_lt.mpr hend), List.drop_eq_nil_of_le hend,
      validateSequences]
  | succ passes ih =>
    rw [validateTextFieldFrom]
    by_cases hlt : offset < text.length
    · rw [if_pos hlt, measureUtf8SequenceAt_eq hlt]
      have hcons := List.drop_eq_getElem_cons hlt
      have hpass : validateSequences (passes + 1) (text.drop offset) =
          if measureUtf8Sequence (text.drop offset) = 0 then false
          else validateSequences passes
            ((text.drop offset).drop (measureUtf8Sequence (text.drop offset))) := by
        rw [hcons, validateSequences]
      rw [hpass, List.drop_drop]
      change (if _ then _ else _) = _
      split
      · rfl
      · exact ih (by omega)
    · rw [if_neg hlt, List.drop_eq_nil_of_le (not_lt.mp hlt), validateSequences]

end Offsets

/-! ## Code points -/

/-- A scalar value that a text may contain. -/
def isAllowedScalar (scalar : Char) : Bool :=
  (scalar == '\t' || scalar == '\n' || 0x20 ≤ scalar.toNat) && scalar.toNat != 0x7F

/-- The number that continuation bytes complete. -/
def completed (number : ℕ) (bytes : ByteString) : ℕ :=
  bytes.foldl (fun number byte => number * 64 + (byte.toNat - 0x80)) number

/-- The table of lead bytes: how many bytes a sequence has, and the bits the lead
contributes. -/
theorem decodeLeadByte_eq (lead : UInt8) : decodeLeadByte lead =
    if 0xC0 ≤ lead.toNat ∧ lead.toNat < 0xE0 then some (2, UInt32.ofNat (lead.toNat - 0xC0))
    else if 0xE0 ≤ lead.toNat ∧ lead.toNat < 0xF0 then some (3, UInt32.ofNat (lead.toNat - 0xE0))
    else if 0xF0 ≤ lead.toNat ∧ lead.toNat < 0xF8 then some (4, UInt32.ofNat (lead.toNat - 0xF0))
    else none := by
  have hall := byte_all (p := fun lead => decide (decodeLeadByte lead =
    if 0xC0 ≤ lead.toNat ∧ lead.toNat < 0xE0 then some (2, UInt32.ofNat (lead.toNat - 0xC0))
    else if 0xE0 ≤ lead.toNat ∧ lead.toNat < 0xF0 then some (3, UInt32.ofNat (lead.toNat - 0xE0))
    else if 0xF0 ≤ lead.toNat ∧ lead.toNat < 0xF8 then some (4, UInt32.ofNat (lead.toNat - 0xF0))
    else none)) (by decide +kernel) lead
  exact of_decide_eq_true hall

/-- `10xxxxxx`, as a range. -/
theorem isContinuation_iff {byte : UInt8} :
    isContinuation byte = true ↔ 0x80 ≤ byte.toNat ∧ byte.toNat < 0xC0 := by
  have hall := byte_all (p := fun byte => isContinuation byte ==
    decide (0x80 ≤ byte.toNat ∧ byte.toNat < 0xC0)) (by decide +kernel) byte
  rw [beq_iff_eq.mp hall, decide_eq_true_eq]

/-- Six more bits of a number that has room for them. -/
theorem shifted_or {number : ℕ} {byte : UInt8} (hnumber : number < 2 ^ 26)
    (hbyte : isContinuation byte = true) :
    (UInt32.ofNat number <<< 6) ||| (byte &&& 0x3F).toUInt32 =
      UInt32.ofNat (number * 64 + (byte.toNat - 0x80)) := by
  have hlow : (byte &&& 0x3F).toNat = byte.toNat - 0x80 := by
    have hall := byte_all (p := fun byte => !isContinuation byte ||
      decide ((byte &&& 0x3F).toNat = byte.toNat - 0x80)) (by decide +kernel) byte
    simpa [hbyte] using hall
  obtain ⟨-, hhigh⟩ := isContinuation_iff.mp hbyte
  refine UInt32.toNat_inj.mp ?_
  rw [UInt32.toNat_or, UInt32.toNat_shiftLeft, UInt8.toNat_toUInt32, hlow,
    UInt32.toNat_ofNat_of_lt' (by rw [UInt32.size]; omega),
    UInt32.toNat_ofNat_of_lt' (by rw [UInt32.size]; omega)]
  have hshift : number <<< ((6 : UInt32).toNat % 32) % 2 ^ 32 = 2 ^ 6 * number := by
    rw [show (6 : UInt32).toNat % 32 = 6 from rfl, Nat.shiftLeft_eq]
    omega
  rw [hshift, ← Nat.two_pow_add_eq_or_of_lt (by omega)]
  omega

/-- With room for its bits, a number is completed exactly by continuation bytes. -/
theorem appendContinuation_ofNat {number bound : ℕ} {bytes : ByteString} (hnumber : number < bound)
    (hroom : bound * 64 ^ bytes.length ≤ 2 ^ 32) :
    appendContinuation (UInt32.ofNat number) bytes =
      if bytes.all isContinuation then some (UInt32.ofNat (completed number bytes)) else none := by
  induction bytes generalizing number bound with
  | nil => rw [appendContinuation, List.all_nil, if_pos rfl, completed, List.foldl_nil]
  | cons byte bytes ih =>
    rw [List.length_cons, Nat.pow_succ, Nat.mul_comm (64 ^ _), ← Nat.mul_assoc] at hroom
    have hbits : bound * 64 ≤ 2 ^ 32 :=
      (Nat.le_mul_of_pos_right _ (Nat.pow_pos (Nat.succ_pos _))).trans hroom
    rw [appendContinuation, List.all_cons, completed, List.foldl_cons, ← completed]
    cases hbyte : isContinuation byte with
    | false =>
      rw [if_pos (by simpa [isContinuation] using hbyte)]
      rfl
    | true =>
      obtain ⟨-, hhigh⟩ := isContinuation_iff.mp hbyte
      rw [if_neg (by simpa [isContinuation] using hbyte), shifted_or (by omega) hbyte,
        ih (show number * 64 + (byte.toNat - 0x80) < bound * 64 by omega) hroom, Bool.true_and]

/-- Not a surrogate, not beyond the planes, and not shorter to write. -/
theorem isCanonicalCodePoint_ofNat {number length : ℕ} (h : number < 2 ^ 32) :
    isCanonicalCodePoint (UInt32.ofNat number) length = true ↔
      ¬ (0xD800 ≤ number ∧ number ≤ 0xDFFF) ∧
        if length = 2 then 0x80 ≤ number
        else if length = 3 then 0x800 ≤ number
        else 0x10000 ≤ number ∧ number ≤ 0x10FFFF := by
  have hvalue : (UInt32.ofNat number).toNat = number :=
    UInt32.toNat_ofNat_of_lt' (by rw [UInt32.size]; omega)
  simp only [isCanonicalCodePoint, ge_iff_le, UInt32.le_iff_toNat_le, hvalue, Bool.and_eq_true,
    decide_eq_true_eq]
  change (if 0xD800 ≤ number ∧ number ≤ 0xDFFF then false else _) = true ↔ _
  split
  · next hsurrogate => simp [hsurrogate]
  next hscalar =>
  simp only [hscalar, not_false_eq_true, true_and]
  split
  · simp
  split
  · simp
  · simp

/-! ## Sequences and scalar values -/

/-- The character behind a number that is a scalar value. -/
theorem exists_scalar {number : ℕ} (h : ¬ (0xD800 ≤ number ∧ number ≤ 0xDFFF))
    (hplane : number ≤ 0x10FFFF) : ∃ scalar : Char, scalar.toNat = number := by
  have hvalue : (UInt32.ofNat number).toNat = number :=
    UInt32.toNat_ofNat_of_lt' (by rw [UInt32.size]; omega)
  refine ⟨⟨UInt32.ofNat number, ?_⟩, hvalue⟩
  rw [UInt32.isValidChar, hvalue, Nat.isValidChar]
  omega

/-- A lead byte and what it announces, as numbers. -/
theorem measure_lead {lead : UInt8} {length number bound : ℕ} {tail : ByteString}
    (hlead : ¬ lead < 0x80) (hdecoded : decodeLeadByte lead = some (length, UInt32.ofNat number))
    (htail : tail.length + 1 = length) (hnumber : number < bound)
    (hroom : bound * 64 ^ tail.length ≤ 2 ^ 32) :
    measureUtf8Sequence (lead :: tail) =
      if tail.all isContinuation && isCanonicalCodePoint (UInt32.ofNat (completed number tail)) length
      then length else 0 := by
  have htake : tail.take (length - 1) = tail := by
    rw [← htail, Nat.add_sub_cancel, List.take_length]
  rw [measureUtf8Sequence, if_neg hlead, hdecoded]
  simp only
  rw [if_neg (by omega), htake, appendContinuation_ofNat hnumber hroom]
  rcases tail.all isContinuation with _ | _
  · rfl
  · rfl

section Encodings

variable {scalar : Char}

/-- The four shapes of an encoding, in the terms of the decoder. -/
theorem encode_one (h : scalar.toNat < 0x80) :
    String.utf8EncodeChar scalar = [UInt8.ofNat scalar.toNat] :=
  if_pos (Nat.le_of_lt_succ h)

/-- The byte of six bits that are not the first ones. -/
def continuationByte (number : ℕ) : UInt8 := UInt8.ofNat (number % 64 + 0x80)

theorem encode_two (h : 0x80 ≤ scalar.toNat) (h' : scalar.toNat < 0x800) :
    String.utf8EncodeChar scalar =
      [UInt8.ofNat (scalar.toNat / 64 + 0xC0), continuationByte scalar.toNat] := by
  have hlead : scalar.toNat / 64 % 0x20 = scalar.toNat / 64 := by omega
  rw [← hlead]
  exact (if_neg (not_le.mpr h)).trans (if_pos (Nat.le_of_lt_succ h'))

theorem encode_three (h : 0x800 ≤ scalar.toNat) (h' : scalar.toNat < 0x10000) :
    String.utf8EncodeChar scalar =
      [UInt8.ofNat (scalar.toNat / 4096 + 0xE0), continuationByte (scalar.toNat / 64),
        continuationByte scalar.toNat] := by
  have hlead : scalar.toNat / 4096 % 0x10 = scalar.toNat / 4096 := by omega
  have hone : ¬ scalar.toNat ≤ 0x7F := by omega
  rw [← hlead]
  exact (if_neg hone).trans ((if_neg (not_le.mpr h)).trans (if_pos (Nat.le_of_lt_succ h')))

theorem encode_four (h : 0x10000 ≤ scalar.toNat) (h' : scalar.toNat ≤ 0x10FFFF) :
    String.utf8EncodeChar scalar =
      [UInt8.ofNat (scalar.toNat / 262144 + 0xF0), continuationByte (scalar.toNat / 4096),
        continuationByte (scalar.toNat / 64), continuationByte scalar.toNat] := by
  have hlead : scalar.toNat / 262144 % 0x08 = scalar.toNat / 262144 := by omega
  have hone : ¬ scalar.toNat ≤ 0x7F := by omega
  have htwo : ¬ scalar.toNat ≤ 0x7FF := by omega
  rw [← hlead]
  exact (if_neg hone).trans ((if_neg htwo).trans (if_neg (not_le.mpr h)))

/-- A number that is a byte is that byte. -/
theorem byte_toNat {number : ℕ} (h : number < 256) : (UInt8.ofNat number).toNat = number :=
  UInt8.toNat_ofNat_of_lt' h

/-- A scalar value is below the surrogates or above them. -/
theorem scalar_cases (scalar : Char) :
    scalar.toNat < 0xD800 ∨ (0xDFFF < scalar.toNat ∧ scalar.toNat ≤ 0x10FFFF) := by
  rcases scalar.valid with hlow | ⟨hhigh, hplane⟩
  · exact .inl hlow
  · exact .inr ⟨hhigh, Nat.le_of_lt_succ hplane⟩

/-- Tab, newline, and everything printable. -/
theorem isAllowedAscii_iff {byte : UInt8} : isAllowedAscii byte = true ↔
    (byte.toNat = 9 ∨ byte.toNat = 10 ∨ 0x20 ≤ byte.toNat) ∧ byte.toNat ≠ 0x7F := by
  have hall := byte_all (p := fun byte => isAllowedAscii byte ==
    decide ((byte.toNat = 9 ∨ byte.toNat = 10 ∨ 0x20 ≤ byte.toNat) ∧ byte.toNat ≠ 0x7F))
    (by decide +kernel) byte
  rw [beq_iff_eq.mp hall, decide_eq_true_eq]

/-- Among the scalars it is again only ASCII that loses some. -/
theorem isAllowedScalar_iff : isAllowedScalar scalar = true ↔
    (scalar.toNat = 9 ∨ scalar.toNat = 10 ∨ 0x20 ≤ scalar.toNat) ∧ scalar.toNat ≠ 0x7F := by
  have htab : scalar = '\t' ↔ scalar.toNat = 9 := Char.toNat_inj.symm
  have hnewline : scalar = '\n' ↔ scalar.toNat = 10 := Char.toNat_inj.symm
  simp only [isAllowedScalar, Bool.and_eq_true, Bool.or_eq_true, beq_iff_eq, htab, hnewline,
    decide_eq_true_eq, bne_iff_ne, or_assoc]

@[simp] theorem continuationByte_toNat (number : ℕ) :
    (continuationByte number).toNat = number % 64 + 0x80 :=
  byte_toNat (by omega)

@[simp] theorem isContinuation_continuationByte (number : ℕ) :
    isContinuation (continuationByte number) = true := by
  rw [isContinuation_iff, continuationByte_toNat]
  omega

@[simp] theorem completed_nil (number : ℕ) : completed number [] = number := rfl

@[simp] theorem completed_cons (number : ℕ) (byte : UInt8) (bytes : ByteString) :
    completed number (byte :: bytes) = completed (number * 64 + (byte.toNat - 0x80)) bytes :=
  List.foldl_cons ..

/-- A lead with its high bit set announces more bytes. -/
theorem not_ascii {lead : UInt8} (h : 0x80 ≤ lead.toNat) : ¬ lead < 0x80 := by
  rw [UInt8.lt_iff_toNat_lt, show (0x80 : UInt8).toNat = 0x80 from rfl]
  omega

/-- An allowed ASCII character is measured as one byte. -/
theorem measure_ascii (h : isAllowedScalar scalar = true) (hone : scalar.toNat < 0x80) :
    measureUtf8Sequence (String.utf8EncodeChar scalar) = (String.utf8EncodeChar scalar).length := by
  have hbyte := byte_toNat (show scalar.toNat < 256 by omega)
  have hascii : UInt8.ofNat scalar.toNat < 0x80 := by
    rw [UInt8.lt_iff_toNat_lt, hbyte]
    exact hone
  have hallowed : isAllowedAscii (UInt8.ofNat scalar.toNat) = true := by
    rw [isAllowedAscii_iff, hbyte]
    exact isAllowedScalar_iff.mp h
  rw [encode_one hone, measureUtf8Sequence, if_pos hascii, if_pos hallowed, List.length_singleton]

/-- Bytes that complete a lead to a scalar value no shorter sequence has are measured as
what the lead announces. -/
theorem measure_completed {lead : UInt8} {tail : ByteString} {number bound : ℕ}
    (hlead : 0x80 ≤ lead.toNat)
    (hdecoded : decodeLeadByte lead = some (tail.length + 1, UInt32.ofNat number))
    (hnumber : number < bound) (hroom : bound * 64 ^ tail.length ≤ 2 ^ 32)
    (hcontinuation : tail.all isContinuation = true) (hvalue : completed number tail = scalar.toNat)
    (hshortest : if tail.length + 1 = 2 then 0x80 ≤ scalar.toNat
      else if tail.length + 1 = 3 then 0x800 ≤ scalar.toNat
      else 0x10000 ≤ scalar.toNat ∧ scalar.toNat ≤ 0x10FFFF) :
    measureUtf8Sequence (lead :: tail) = (lead :: tail).length := by
  have hscalar := scalar_cases scalar
  rw [measure_lead (not_ascii hlead) hdecoded rfl hnumber hroom, hvalue, if_pos]
  · rfl
  rw [Bool.and_eq_true, isCanonicalCodePoint_ofNat (by omega)]
  exact ⟨hcontinuation, by omega, hshortest⟩

/-- The encoding of an allowed scalar value is measured as itself: the bytes complete
the lead to the value. -/
theorem measure_encode (h : isAllowedScalar scalar = true) :
    measureUtf8Sequence (String.utf8EncodeChar scalar) = (String.utf8EncodeChar scalar).length := by
  have hscalar := scalar_cases scalar
  rcases Nat.lt_or_ge scalar.toNat 0x80 with hone | hone
  · exact measure_ascii h hone
  rcases Nat.lt_or_ge scalar.toNat 0x800 with htwo | htwo
  · have hlead := byte_toNat (show scalar.toNat / 64 + 0xC0 < 256 by omega)
    have hdecoded : decodeLeadByte (UInt8.ofNat (scalar.toNat / 64 + 0xC0)) =
        some (2, UInt32.ofNat (scalar.toNat / 64)) := by
      rw [decodeLeadByte_eq, hlead, if_pos (by omega), Nat.add_sub_cancel]
    have hvalue : completed (scalar.toNat / 64) [continuationByte scalar.toNat] = scalar.toNat := by
      simp only [completed_cons, completed_nil, continuationByte_toNat]
      omega
    rw [encode_two hone htwo]
    exact measure_completed (by omega) hdecoded (show scalar.toNat / 64 < 32 by omega) (by simp)
      (by simp) hvalue hone
  rcases Nat.lt_or_ge scalar.toNat 0x10000 with hthree | hthree
  · have hlead := byte_toNat (show scalar.toNat / 4096 + 0xE0 < 256 by omega)
    have hdecoded : decodeLeadByte (UInt8.ofNat (scalar.toNat / 4096 + 0xE0)) =
        some (3, UInt32.ofNat (scalar.toNat / 4096)) := by
      rw [decodeLeadByte_eq, hlead, if_neg (by omega), if_pos (by omega), Nat.add_sub_cancel]
    have hvalue : completed (scalar.toNat / 4096)
        [continuationByte (scalar.toNat / 64), continuationByte scalar.toNat] = scalar.toNat := by
      simp only [completed_cons, completed_nil, continuationByte_toNat]
      omega
    rw [encode_three htwo hthree]
    exact measure_completed (by omega) hdecoded (show scalar.toNat / 4096 < 16 by omega) (by simp)
      (by simp) hvalue htwo
  · have hplane : scalar.toNat ≤ 0x10FFFF := by omega
    have hlead := byte_toNat (show scalar.toNat / 262144 + 0xF0 < 256 by omega)
    have hdecoded : decodeLeadByte (UInt8.ofNat (scalar.toNat / 262144 + 0xF0)) =
        some (4, UInt32.ofNat (scalar.toNat / 262144)) := by
      rw [decodeLeadByte_eq, hlead, if_neg (by omega), if_neg (by omega), if_pos (by omega),
        Nat.add_sub_cancel]
    have hvalue : completed (scalar.toNat / 262144) [continuationByte (scalar.toNat / 4096),
        continuationByte (scalar.toNat / 64), continuationByte scalar.toNat] = scalar.toNat := by
      simp only [completed_cons, completed_nil, continuationByte_toNat]
      omega
    rw [encode_four hthree hplane]
    exact measure_completed (by omega) hdecoded (show scalar.toNat / 262144 < 8 by omega) (by simp)
      (by simp) hvalue ⟨hthree, hplane⟩

/-- A sequence of several bytes has as many as its lead announces, and they complete
the lead to a canonical code point. -/
theorem IsSequence.announced {lead : UInt8} {tail : ByteString} (h : IsSequence (lead :: tail))
    (hlead : ¬ lead < 0x80) : ∃ codePoint, decodeLeadByte lead = some (tail.length + 1, codePoint) := by
  have hmeasured := h.measured []
  rw [List.append_nil, measureUtf8Sequence, if_neg hlead, List.length_cons] at hmeasured
  rcases hdecoded : decodeLeadByte lead with _ | ⟨length, codePoint⟩
  · rw [hdecoded] at hmeasured
    cases hmeasured
  simp only [hdecoded] at hmeasured
  split at hmeasured
  · cases hmeasured
  rcases hvalue : appendContinuation codePoint (tail.take (length - 1)) with _ | value
  · rw [hvalue] at hmeasured
    cases hmeasured
  simp only [hvalue] at hmeasured
  split at hmeasured
  · rw [← hmeasured]
    exact ⟨codePoint, rfl⟩
  · cases hmeasured

/-- A sequence that is measured as itself has a canonical code point. -/
theorem IsSequence.canonical {lead : UInt8} {tail : ByteString} {number bound : ℕ}
    (h : IsSequence (lead :: tail)) (hlead : ¬ lead < 0x80)
    (hdecoded : decodeLeadByte lead = some (tail.length + 1, UInt32.ofNat number))
    (hnumber : number < bound) (hroom : bound * 64 ^ tail.length ≤ 2 ^ 32) :
    isCanonicalCodePoint (UInt32.ofNat (completed number tail)) (tail.length + 1) = true := by
  have hmeasured := h.measured []
  rw [List.append_nil, measure_lead hlead hdecoded rfl hnumber hroom] at hmeasured
  split at hmeasured
  next hcanonical => exact (Bool.and_eq_true_iff.mp hcanonical).2
  next => cases hmeasured

theorem continuationByte_eq (byte : UInt8) {number : ℕ} (h : number % 64 + 0x80 = byte.toNat) :
    continuationByte number = byte :=
  UInt8.toNat_inj.mp ((continuationByte_toNat number).trans h)

theorem ofNat_eq (byte : UInt8) {number : ℕ} (h : number = byte.toNat) : UInt8.ofNat number = byte := by
  rw [h, UInt8.ofNat_toNat]

/-- A sequence of one byte. -/
theorem IsSequence.scalar_ascii {lead : UInt8} {tail : ByteString} (h : IsSequence (lead :: tail))
    (hascii : lead < 0x80) :
    ∃ scalar, isAllowedScalar scalar = true ∧ lead :: tail = String.utf8EncodeChar scalar := by
  have hmeasured := h.measured []
  rw [List.append_nil, measureUtf8Sequence, if_pos hascii] at hmeasured
  split at hmeasured
  next hallowed =>
    obtain rfl : tail = [] := List.length_eq_zero_iff.mp (by rw [List.length_cons] at hmeasured; omega)
    rw [isAllowedAscii_iff] at hallowed
    rw [UInt8.lt_iff_toNat_lt, show (0x80 : UInt8).toNat = 0x80 from rfl] at hascii
    obtain ⟨scalar, hscalar⟩ : ∃ scalar : Char, scalar.toNat = lead.toNat :=
      HyperCom.exists_scalar (by omega) (by omega)
    refine ⟨scalar, isAllowedScalar_iff.mpr (hscalar ▸ hallowed), ?_⟩
    rw [encode_one (by omega), hscalar, UInt8.ofNat_toNat]
  next => cases hmeasured

/-- A sequence is the encoding of an allowed scalar value. -/
theorem IsSequence.exists_scalar {bytes : ByteString} (h : IsSequence bytes) :
    ∃ scalar, isAllowedScalar scalar = true ∧ bytes = String.utf8EncodeChar scalar := by
  obtain ⟨lead, tail, rfl, -, hcontinuation⟩ := h.shape
  by_cases hascii : lead < 0x80
  · exact h.scalar_ascii hascii
  obtain ⟨codePoint, hdecoded⟩ := h.announced hascii
  have hbyte : ∀ byte ∈ tail, 0x80 ≤ byte.toNat ∧ byte.toNat < 0xC0 := fun byte hmem =>
    isContinuation_iff.mp (hcontinuation byte hmem)
  have hannounced := hdecoded
  rw [decodeLeadByte_eq] at hannounced
  split at hannounced
  next hlead =>
    obtain ⟨htail, rfl⟩ := Prod.mk.inj (Option.some.inj hannounced)
    obtain ⟨first, rfl⟩ := List.length_eq_one_iff.mp (Nat.succ.inj htail).symm
    have hfirst := hbyte first List.mem_cons_self
    have hcanonical := h.canonical hascii hdecoded
      (show lead.toNat - 0xC0 < 32 by omega) (by simp)
    simp only [completed_cons, completed_nil, List.length_cons, List.length_nil] at hcanonical
    rw [isCanonicalCodePoint_ofNat (by omega), if_pos rfl] at hcanonical
    obtain ⟨scalar, hscalar⟩ := HyperCom.exists_scalar hcanonical.1 (by omega)
    refine ⟨scalar, isAllowedScalar_iff.mpr (by omega), ?_⟩
    rw [encode_two (by omega) (by omega), ofNat_eq lead (by omega),
      continuationByte_eq first (by omega)]
  next =>
  split at hannounced
  next hlead =>
    obtain ⟨htail, rfl⟩ := Prod.mk.inj (Option.some.inj hannounced)
    obtain ⟨first, second, rfl⟩ := List.length_eq_two.mp (Nat.succ.inj htail).symm
    have hfirst := hbyte first (by simp)
    have hsecond := hbyte second (by simp)
    have hcanonical := h.canonical hascii hdecoded
      (show lead.toNat - 0xE0 < 16 by omega) (by simp)
    simp only [completed_cons, completed_nil, List.length_cons, List.length_nil] at hcanonical
    rw [isCanonicalCodePoint_ofNat (by omega), if_neg (by decide), if_pos rfl] at hcanonical
    obtain ⟨scalar, hscalar⟩ := HyperCom.exists_scalar hcanonical.1 (by omega)
    refine ⟨scalar, isAllowedScalar_iff.mpr (by omega), ?_⟩
    rw [encode_three (by omega) (by omega), ofNat_eq lead (by omega),
      continuationByte_eq first (by omega), continuationByte_eq second (by omega)]
  next =>
  split at hannounced
  next hlead =>
    obtain ⟨htail, rfl⟩ := Prod.mk.inj (Option.some.inj hannounced)
    obtain ⟨first, second, third, rfl⟩ := List.length_eq_three.mp (Nat.succ.inj htail).symm
    have hfirst := hbyte first (by simp)
    have hsecond := hbyte second (by simp)
    have hthird := hbyte third (by simp)
    have hcanonical := h.canonical hascii hdecoded
      (show lead.toNat - 0xF0 < 8 by omega) (by simp)
    simp only [completed_cons, completed_nil, List.length_cons, List.length_nil] at hcanonical
    rw [isCanonicalCodePoint_ofNat (by omega), if_neg (by decide), if_neg (by decide)] at hcanonical
    obtain ⟨scalar, hscalar⟩ := HyperCom.exists_scalar hcanonical.1 (by omega)
    refine ⟨scalar, isAllowedScalar_iff.mpr (by omega), ?_⟩
    rw [encode_four (by omega) (by omega), ofNat_eq lead (by omega),
      continuationByte_eq first (by omega), continuationByte_eq second (by omega),
      continuationByte_eq third (by omega)]
  next => cases hannounced

/-- The sequences are the encodings of the allowed scalar values. -/
theorem isSequence_iff {bytes : ByteString} : IsSequence bytes ↔
    ∃ scalar, isAllowedScalar scalar = true ∧ bytes = String.utf8EncodeChar scalar := by
  refine ⟨fun h => h.exists_scalar, ?_⟩
  rintro ⟨scalar, hallowed, rfl⟩
  have hmeasure := measure_encode hallowed
  have hpos : measureUtf8Sequence (String.utf8EncodeChar scalar) ≠ 0 := by
    rw [hmeasure, Ne, List.length_eq_zero_iff]
    exact String.utf8EncodeChar_ne_nil
  have hsequence := (isSequence_of_measure hpos).1
  rwa [hmeasure, List.take_length] at hsequence

end Encodings

/-! ## Texts -/

/-- Passes behind the last byte change nothing. -/
theorem validateSequences_passes {passes : ℕ} {text : ByteString} (h : text.length ≤ passes) :
    validateSequences passes text = validateTextField text := by
  rw [Bool.eq_iff_iff, validateSequences_iff h, validateTextField_iff]

/-- The source's loop returns the verdict of the model's. -/
theorem validateTextFieldFrom_start {passes : ℕ} {text : ByteString} (h : text.length ≤ passes) :
    validateTextFieldFrom text passes 0 = .ok (validateTextField text) := by
  rw [validateTextFieldFrom_eq (by omega), List.drop_zero, validateSequences_passes h]

/-- The sequences of a text, one by one. -/
theorem sequences_iff {sequences : List ByteString} : (∀ s ∈ sequences, IsSequence s) ↔
    ∃ scalars : List Char, (∀ scalar ∈ scalars, isAllowedScalar scalar = true) ∧
      sequences = scalars.map String.utf8EncodeChar := by
  induction sequences with
  | nil => exact ⟨fun _ => ⟨[], by simp⟩, fun _ => by simp⟩
  | cons s sequences ih =>
    rw [List.forall_mem_cons, ih, isSequence_iff]
    constructor
    · rintro ⟨⟨scalar, hallowed, rfl⟩, scalars, hall, rfl⟩
      exact ⟨scalar :: scalars, List.forall_mem_cons.mpr ⟨hallowed, hall⟩, rfl⟩
    · rintro ⟨scalars, hall, hcons⟩
      cases scalars with
      | nil => cases hcons
      | cons scalar scalars =>
        obtain ⟨rfl, rfl⟩ := List.cons.inj hcons
        obtain ⟨hallowed, hrest⟩ := List.forall_mem_cons.mp hall
        exact ⟨⟨scalar, hallowed, rfl⟩, scalars, hrest, rfl⟩

/-- What the function accepts: the encodings of the sequences of allowed scalar values.
On its way it reads nothing outside the text, and as many passes as the text has bytes
are enough. -/
theorem validate_text_field_iff (text : ByteString) :
    (∀ passes ≥ text.length,
      validateTextFieldFrom text passes 0 = .ok (validateTextField text)) ∧
    (validateTextField text = true ↔ ∃ scalars : List Char,
      (∀ scalar ∈ scalars, isAllowedScalar scalar = true) ∧
        text = scalars.flatMap String.utf8EncodeChar) := by
  refine ⟨fun passes hpasses => validateTextFieldFrom_start hpasses, ?_⟩
  rw [validateTextField_iff]
  constructor
  · rintro ⟨sequences, rfl, hall⟩
    obtain ⟨scalars, hallowed, rfl⟩ := sequences_iff.mp hall
    exact ⟨scalars, hallowed, List.flatMap_def.symm⟩
  · rintro ⟨scalars, hallowed, rfl⟩
    exact ⟨_, List.flatMap_def, sequences_iff.mpr ⟨scalars, hallowed, rfl⟩⟩

/-- An overlong NUL, which a naive decoder takes for one. -/
example : validateTextField [0xC0, 0x80] = false := by decide

/-! ## Texts that are cut -/

open TextLines in
/-- A byte string that is UTF-8, whatever characters it holds. -/
abbrev Utf8 (bytes : ByteString) : Prop := Written String.utf8EncodeChar bytes

/-- No encoding starts another, so a text is cut into characters in one way. -/
theorem utf8_prefixFree : TextLines.PrefixFree String.utf8EncodeChar := by
  intro first second rest tail h
  have hdecoded := congrArg (fun bytes : ByteString => bytes.toByteArray.utf8DecodeChar? 0) h
  simpa only [List.toByteArray_append, ByteArray.utf8DecodeChar?_utf8EncodeChar_append,
    Option.some.injEq] using hdecoded

/-- Where a character takes several bytes, none of them is an ASCII one. -/
theorem le_of_mem_encode {scalar : Char} (h : 0x80 ≤ scalar.toNat) {byte : UInt8}
    (hmem : byte ∈ String.utf8EncodeChar scalar) : 0x80 ≤ byte.toNat := by
  have hscalar := scalar_cases scalar
  rcases Nat.lt_or_ge scalar.toNat 0x800 with htwo | htwo
  · rw [encode_two h htwo, List.mem_cons, List.mem_singleton] at hmem
    obtain rfl | rfl := hmem
    · rw [byte_toNat (by omega)]
      omega
    · simp
  rcases Nat.lt_or_ge scalar.toNat 0x10000 with hthree | hthree
  · rw [encode_three htwo hthree, List.mem_cons, List.mem_cons, List.mem_singleton] at hmem
    obtain rfl | rfl | rfl := hmem
    · rw [byte_toNat (by omega)]
      omega
    all_goals simp
  · rw [encode_four hthree (by omega), List.mem_cons, List.mem_cons, List.mem_cons,
      List.mem_singleton] at hmem
    obtain rfl | rfl | rfl | rfl := hmem
    · rw [byte_toNat (by omega)]
      omega
    all_goals simp

/-- An ASCII byte is a character by itself, wherever it stands. -/
theorem utf8_mark {byte : UInt8} (h : byte.toNat < 0x80) :
    TextLines.Mark String.utf8EncodeChar byte where
  written := by
    obtain ⟨scalar, hscalar⟩ := exists_scalar (show ¬(0xD800 ≤ byte.toNat ∧ byte.toNat ≤ 0xDFFF) by omega) (by omega)
    refine ⟨scalar, ?_⟩
    rw [encode_one (by rwa [hscalar]), hscalar, UInt8.ofNat_toNat]
  alone scalar hmem := by
    rcases Nat.lt_or_ge scalar.toNat 0x80 with hone | hmany
    · rw [encode_one hone] at hmem ⊢
      rw [List.mem_singleton.mp hmem]
    · exact absurd (le_of_mem_encode hmany hmem) (by omega)

end HyperCom
