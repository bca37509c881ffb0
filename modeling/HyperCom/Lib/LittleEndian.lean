import Mathlib.Data.List.Basic
import Mathlib.Tactic.Ring

/-!
# Little-endian natural numbers

Fixed-width little-endian digits in base 256, and the two inverse laws that a
binary format needs: decoding an encoding gives the number back below the
width's bound, and every byte string of the right width is the encoding of the
number it decodes to.

Both laws together make the encoding a bijection between the numbers below 256^n and the
byte strings of length n, which is what makes a format canonical and not only decodable.
-/

namespace BinaryCodec

/-- The `width` low bytes of `n`, least significant first. -/
def encodeLE : ℕ → ℕ → List UInt8
  | 0, _ => []
  | width + 1, n => UInt8.ofNat (n % 256) :: encodeLE width (n / 256)

/-- The number whose little-endian bytes are given. -/
def decodeLE : List UInt8 → ℕ
  | [] => 0
  | b :: rest => b.toNat + 256 * decodeLE rest

@[simp] theorem encodeLE_length (width n : ℕ) : (encodeLE width n).length = width := by
  induction width generalizing n with
  | zero => rfl
  | succ width ih => simp [encodeLE, ih]

theorem decodeLE_lt (bytes : List UInt8) : decodeLE bytes < 256 ^ bytes.length := by
  induction bytes with
  | nil => simp [decodeLE]
  | cons b rest ih =>
    have hb : b.toNat < 256 := b.toNat_lt
    simp only [decodeLE, List.length_cons, pow_succ]
    omega

/-- Decoding inverts encoding below the bound of the width. -/
theorem decodeLE_encodeLE {width n : ℕ} (h : n < 256 ^ width) :
    decodeLE (encodeLE width n) = n := by
  induction width generalizing n with
  | zero =>
    simp only [pow_zero] at h
    simp [encodeLE, decodeLE]
    omega
  | succ width ih =>
    have hdiv : n / 256 < 256 ^ width := by
      rw [pow_succ] at h
      omega
    have hbyte : (UInt8.ofNat (n % 256)).toNat = n % 256 := by
      simp
    rw [encodeLE, decodeLE, ih hdiv, hbyte]
    omega

/-- Every byte string is the encoding of its own value: no number has two
encodings of one width. -/
theorem encodeLE_decodeLE (bytes : List UInt8) :
    encodeLE bytes.length (decodeLE bytes) = bytes := by
  induction bytes with
  | nil => rfl
  | cons b rest ih =>
    have hb : b.toNat < 256 := b.toNat_lt
    have hmod : (b.toNat + 256 * decodeLE rest) % 256 = b.toNat := by omega
    have hdiv : (b.toNat + 256 * decodeLE rest) / 256 = decodeLE rest := by omega
    simp only [List.length_cons, encodeLE, decodeLE, hmod, hdiv, ih, UInt8.ofNat_toNat]

end BinaryCodec
