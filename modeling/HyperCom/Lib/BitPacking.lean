import Mathlib.Data.Nat.Bitwise
import Mathlib.Data.List.Induction

/-!
# Numerals packed into bytes

The bits of a byte list are numbered from the high bit of its first byte.
Numerals of one width stand one after the other from bit zero on, the high bit
first; the width need not divide eight. `pack` writes them over zeros, `unpack`
reads one, and the two are inverse to each other as long as no bit stands
behind the last numeral.

`orBit` sets a bit and never clears one, as the loops that fill a buffer of zeros do; so
packing is a fold that touches every bit once, and the order in which numerals are stored
does not matter to the bits of the others.
-/

namespace BitPacking

/-! ## Bits -/

/-- Bit number `position`. -/
def bit (bytes : List UInt8) (position : ℕ) : Bool :=
  (bytes.getD (position / 8) 0).toNat.testBit (7 - position % 8)

/-- Bit number `position`, or-ed with a value. -/
def orBit (bytes : List UInt8) (position : ℕ) (value : Bool) : List UInt8 :=
  bytes.modify (position / 8) fun byte => byte ||| UInt8.ofNat (value.toNat <<< (7 - position % 8))

/-- Setting a bit changes no length. -/
@[simp] theorem orBit_length (bytes : List UInt8) (position : ℕ) (value : Bool) :
    (orBit bytes position value).length = bytes.length := by simp [orBit]

/-- The buffer that packing starts from. -/
theorem bit_replicate_zero (count position : ℕ) : bit (List.replicate count 0) position = false := by
  simp [bit]

/-- The one bit of a byte that stands for a value. -/
theorem testBit_valueByte (value : Bool) {shift : ℕ} (hshift : shift ≤ 7) (index : ℕ) :
    (UInt8.ofNat (value.toNat <<< shift)).toNat.testBit index = (decide (shift = index) && value) := by
  have hsmall : value.toNat <<< shift < 2 ^ 8 := by
    rw [Nat.shiftLeft_eq]
    calc value.toNat * 2 ^ shift ≤ 1 * 2 ^ 7 :=
          Nat.mul_le_mul value.toNat_le (Nat.pow_le_pow_right (by decide) hshift)
      _ < 2 ^ 8 := by decide
  rw [UInt8.toNat_ofNat', Nat.mod_eq_of_lt hsmall, Nat.testBit_shiftLeft, Nat.testBit_bool_toNat]
  rcases lt_trichotomy shift index with hlt | rfl | hgt
  · have hrest : index - shift ≠ 0 := by omega
    simp only [decide_eq_false hrest, decide_eq_false hlt.ne, Bool.false_and, Bool.and_false]
  · simp
  · simp only [decide_eq_false hgt.not_ge, decide_eq_false hgt.ne', Bool.false_and]

/-- Or-ing a bit changes that bit and no other. -/
theorem bit_orBit {bytes : List UInt8} {position : ℕ} (hin : position < 8 * bytes.length)
    (value : Bool) (other : ℕ) :
    bit (orBit bytes position value) other = (bit bytes other || (decide (position = other) && value)) := by
  have hbyte : position / 8 < bytes.length := by omega
  by_cases hsame : position / 8 = other / 8
  · have hget : (orBit bytes position value).getD (other / 8) 0 =
        bytes.getD (other / 8) 0 ||| UInt8.ofNat (value.toNat <<< (7 - position % 8)) := by
      simp [orBit, List.getD_eq_getElem?_getD, ← hsame, hbyte]
    have hposition : (7 - position % 8 = 7 - other % 8) = (position = other) := by
      rw [eq_iff_iff]
      omega
    simp only [bit, hget, UInt8.toNat_or, Nat.testBit_or,
      testBit_valueByte value (Nat.sub_le 7 (position % 8)), hposition]
  · have hget : (orBit bytes position value).getD (other / 8) 0 = bytes.getD (other / 8) 0 := by
      simp [orBit, List.getD_eq_getElem?_getD, hsame]
    have hne : position ≠ other := by
      rintro rfl
      exact hsame rfl
    rw [bit, bit, hget, decide_eq_false hne, Bool.false_and, Bool.or_false]

/-- Byte lists of one length with the same bits are equal. -/
theorem eq_of_bit_eq {bytes bytes' : List UInt8} (hlength : bytes.length = bytes'.length)
    (hbits : ∀ position < 8 * bytes.length, bit bytes position = bit bytes' position) :
    bytes = bytes' := by
  refine List.ext_getElem hlength fun index hindex hindex' => ?_
  rw [← UInt8.toNat_inj]
  refine Nat.eq_of_testBit_eq fun place => ?_
  by_cases hplace : place < 8
  · have hposition := hbits (8 * index + (7 - place)) (by omega)
    have hdiv : (8 * index + (7 - place)) / 8 = index := by omega
    have hmod : 7 - (8 * index + (7 - place)) % 8 = place := by omega
    rwa [bit, bit, hdiv, hmod, List.getD_eq_getElem _ _ hindex, List.getD_eq_getElem _ _ hindex']
      at hposition
  · have hbeyond : ∀ byte : UInt8, byte.toNat.testBit place = false := fun byte =>
      Nat.testBit_lt_two_pow (byte.toNat_lt.trans_le (Nat.pow_le_pow_right (by decide) (by omega)))
    rw [hbeyond, hbeyond]

/-! ## One numeral -/

/-- The numeral whose bits are given, the high one first. -/
def numeral (width : ℕ) (bits : ℕ → Bool) : ℕ :=
  (List.range width).foldl (fun sum index => (sum <<< 1) ||| (bits index).toNat) 0

/-- The bits of a numeral that is read, from the high one on. -/
theorem numeral_testBit (width : ℕ) (bits : ℕ → Bool) (place : ℕ) :
    (numeral width bits).testBit place = (decide (place < width) && bits (width - 1 - place)) := by
  induction width generalizing place with
  | zero => simp [numeral]
  | succ width ih =>
    have hlast : numeral (width + 1) bits = (numeral width bits <<< 1) ||| (bits width).toNat := by
      simp [numeral, List.range_succ]
    rw [hlast, Nat.testBit_or, Nat.testBit_shiftLeft, Nat.testBit_bool_toNat]
    cases place with
    | zero => simp
    | succ place =>
      have hindex : width + 1 - 1 - (place + 1) = width - 1 - place := by omega
      rw [hindex]
      simp [ih]

/-- A numeral fits its width. -/
theorem numeral_lt (width : ℕ) (bits : ℕ → Bool) : numeral width bits < 2 ^ width :=
  Nat.lt_pow_two_of_testBit _ fun place hplace => by simp [numeral_testBit, hplace]

/-- A numeral within its width is the one with its bits. -/
theorem numeral_bits {width n : ℕ} (hn : n < 2 ^ width) :
    numeral width (fun index => n.testBit (width - 1 - index)) = n := by
  refine Nat.eq_of_testBit_eq fun place => ?_
  rw [numeral_testBit]
  by_cases hplace : place < width
  · have hback : width - 1 - (width - 1 - place) = place := by omega
    simp [hplace, hback]
  · have hbeyond : n.testBit place = false :=
      Nat.testBit_lt_two_pow (hn.trans_le (Nat.pow_le_pow_right (by decide) (by omega)))
    simp [hplace, hbeyond]

/-- It depends on its own bits only. -/
theorem numeral_congr {width : ℕ} {bits bits' : ℕ → Bool}
    (h : ∀ index < width, bits index = bits' index) : numeral width bits = numeral width bits' := by
  refine Nat.eq_of_testBit_eq fun place => ?_
  rw [numeral_testBit, numeral_testBit]
  by_cases hplace : place < width
  · rw [h _ (by omega)]
  · simp [hplace]

/-- Reading numeral number `field`. -/
def unpack (width : ℕ) (bytes : List UInt8) (field : ℕ) : ℕ :=
  numeral width fun index => bit bytes (field * width + index)

/-- Or-ing the bits of numeral number `field` in. -/
def store (width : ℕ) (bytes : List UInt8) (field n : ℕ) : List UInt8 :=
  (List.range width).foldl
    (fun bytes index => orBit bytes (field * width + index) (n.testBit (width - 1 - index))) bytes

theorem store_foldl_length (positions : List ℕ) (width field n : ℕ) (bytes : List UInt8) :
    (positions.foldl (fun bytes index =>
      orBit bytes (field * width + index) (n.testBit (width - 1 - index))) bytes).length =
      bytes.length := by
  induction positions generalizing bytes with
  | nil => rfl
  | cons position positions ih => simp [ih]

@[simp] theorem store_length (width : ℕ) (bytes : List UInt8) (field n : ℕ) :
    (store width bytes field n).length = bytes.length :=
  store_foldl_length ..

/-- What storing a numeral does to the bits. -/
theorem bit_store {width field : ℕ} {bytes : List UInt8}
    (hin : (field + 1) * width ≤ 8 * bytes.length) (n position : ℕ) :
    bit (store width bytes field n) position =
      (bit bytes position || (decide (field * width ≤ position ∧ position < (field + 1) * width) &&
        n.testBit (width - 1 - (position - field * width)))) := by
  -- the induction is on the bits stored so far
  have hfirst : ∀ count ≤ width,
      bit ((List.range count).foldl (fun bytes index =>
        orBit bytes (field * width + index) (n.testBit (width - 1 - index))) bytes) position =
      (bit bytes position || (decide (field * width ≤ position ∧ position < field * width + count) &&
        n.testBit (width - 1 - (position - field * width)))) := by
    intro count hcount
    induction count with
    | zero =>
      have hempty : ¬ (field * width ≤ position ∧ position < field * width + 0) := by omega
      simp only [List.range_zero, List.foldl_nil, decide_eq_false hempty, Bool.false_and,
        Bool.or_false]
    | succ count ih =>
      rw [add_mul, one_mul] at hin
      rw [List.range_succ, List.foldl_append, List.foldl_cons, List.foldl_nil,
        bit_orBit (by rw [store_foldl_length]; omega), ih (by omega), Bool.or_assoc]
      congr 1
      by_cases hlast : field * width + count = position
      · have hindex : position - field * width = count := by omega
        simp [← hlast]
      · have hsame : (field * width ≤ position ∧ position < field * width + (count + 1)) ↔
            field * width ≤ position ∧ position < field * width + count := by omega
        simp [hlast, hsame]
  rw [add_mul, one_mul]
  exact hfirst width le_rfl

/-! ## All of them -/

/-- Storing numerals from field zero on. -/
def pack (width : ℕ) (numerals : List ℕ) (bytes : List UInt8) : List UInt8 :=
  numerals.zipIdx.foldl (fun bytes numbered => store width bytes numbered.2 numbered.1) bytes

/-- One more numeral is stored behind the others. -/
theorem pack_append_singleton (width : ℕ) (numerals : List ℕ) (n : ℕ) (bytes : List UInt8) :
    pack width (numerals ++ [n]) bytes = store width (pack width numerals bytes) numerals.length n := by
  simp [pack, List.zipIdx_append]

/-- The buffer is as long as it was. -/
@[simp] theorem pack_length (width : ℕ) (numerals : List ℕ) (bytes : List UInt8) :
    (pack width numerals bytes).length = bytes.length := by
  induction numerals using List.reverseRecOn with
  | nil => rfl
  | append_singleton numerals n ih => rw [pack_append_singleton, store_length, ih]

/-- The bits of packed numerals. -/
theorem bit_pack {width : ℕ} (hwidth : 0 < width) {numerals : List ℕ} {bytes : List UInt8}
    (hin : numerals.length * width ≤ 8 * bytes.length) (position : ℕ) :
    bit (pack width numerals bytes) position =
      (bit bytes position ||
        (numerals.getD (position / width) 0).testBit (width - 1 - position % width)) := by
  induction numerals using List.reverseRecOn with
  | nil => simp [pack]
  | append_singleton numerals n ih =>
    rw [List.length_append, List.length_singleton] at hin
    have hbefore : numerals.length * width ≤ 8 * bytes.length :=
      (Nat.mul_le_mul_right width (Nat.le_succ _)).trans hin
    rw [pack_append_singleton, bit_store (by rw [pack_length]; exact hin), ih hbefore, Bool.or_assoc]
    congr 1
    rcases lt_trichotomy (position / width) numerals.length with hlt | heq | hgt
    · -- an earlier numeral
      have hend : position < numerals.length * width := (Nat.div_lt_iff_lt_mul hwidth).mp hlt
      have hout : ¬ (numerals.length * width ≤ position ∧
          position < (numerals.length + 1) * width) := by omega
      simp only [decide_eq_false hout, Bool.false_and, Bool.or_false]
      rw [List.getD_append _ _ _ _ hlt]
    · -- the last one
      have hstart : numerals.length * width ≤ position := by
        rw [← heq]
        exact Nat.div_mul_le_self position width
      have hend : position < (numerals.length + 1) * width := by
        rw [← Nat.div_lt_iff_lt_mul hwidth, heq]
        exact Nat.lt_succ_self _
      have hrest : position - numerals.length * width = position % width := by
        rw [← heq, mul_comm]
        exact (Nat.mod_eq_sub_mul_div ..).symm
      simp [hstart, hend, hrest, heq, List.getD_eq_getElem?_getD]
    · -- behind the numerals
      have hend : ¬ position < (numerals.length + 1) * width := by
        rw [← Nat.div_lt_iff_lt_mul hwidth]
        omega
      have hout : (numerals ++ [n])[position / width]? = none := by
        rw [List.getElem?_eq_none_iff, List.length_append, List.length_singleton]
        omega
      have hout' : numerals[position / width]? = none := by
        rw [List.getElem?_eq_none_iff]
        omega
      simp [hend, hout, hout', List.getD_eq_getElem?_getD]

/-- Reading what was packed. -/
theorem unpack_pack {width count : ℕ} {numerals : List ℕ} {field : ℕ}
    (hin : numerals.length * width ≤ 8 * count) (hfield : field < numerals.length)
    (hn : numerals[field] < 2 ^ width) :
    unpack width (pack width numerals (List.replicate count 0)) field = numerals[field] := by
  rw [← numeral_bits hn, unpack]
  refine numeral_congr fun index hindex => ?_
  have hdiv : (field * width + index) / width = field := by
    rw [mul_comm, Nat.mul_add_div (by omega), Nat.div_eq_of_lt hindex, add_zero]
  have hmod : (field * width + index) % width = index := by
    rw [mul_comm, Nat.mul_add_mod, Nat.mod_eq_of_lt hindex]
  rw [bit_pack (by omega) (by rwa [List.length_replicate]), bit_replicate_zero, hdiv, hmod,
    Bool.false_or, List.getD_eq_getElem?_getD, List.getElem?_eq_getElem hfield, Option.getD_some]

/-- Packing what was read. -/
theorem pack_unpack {width count : ℕ} (hwidth : 0 < width) {bytes : List UInt8}
    (hin : count * width ≤ 8 * bytes.length)
    (hrest : ∀ position, count * width ≤ position → position < 8 * bytes.length →
      bit bytes position = false) :
    pack width ((List.range count).map (unpack width bytes)) (List.replicate bytes.length 0) =
      bytes := by
  refine eq_of_bit_eq (by simp) fun position hposition => ?_
  rw [pack_length, List.length_replicate] at hposition
  rw [bit_pack hwidth (by simpa using hin), bit_replicate_zero, Bool.false_or]
  by_cases hfield : position / width < count
  · have hmod : position % width < width := Nat.mod_lt _ hwidth
    have hback : width - 1 - (width - 1 - position % width) = position % width := by omega
    have hplace : position / width * width + position % width = position :=
      Nat.div_add_mod' position width
    simp only [List.getD_eq_getElem?_getD, List.getElem?_map, List.getElem?_range hfield,
      Option.map_some, Option.getD_some, unpack, numeral_testBit, hback, hplace]
    simp only [Bool.and_eq_right_iff_imp, decide_eq_true_eq]
    omega
  · have hout : count * width ≤ position :=
      (Nat.le_div_iff_mul_le hwidth).mp (Nat.le_of_not_lt hfield)
    rw [hrest position hout hposition]
    simp [List.getD_eq_getElem?_getD, Nat.le_of_not_lt hfield]

end BitPacking
