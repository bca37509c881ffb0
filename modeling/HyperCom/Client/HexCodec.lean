import HyperCom.Protocol.Limits
import Mathlib.Data.List.Flatten

/-!
# `hex_codec`

Both cases are read, lower case is written. Keys are shown to the user and typed
in by the user in this form.

`encode_hex` and `decode_hex`, and that they are inverse to each other in the sense one
would like: decoding an encoding gives the bytes back, so no two byte strings have one
encoding.
-/

namespace HyperCom

/-- `HEX_DIGITS` -/
def hexDigits : ByteString := ascii "0123456789abcdef"

/-- `convert_hex_digit` -/
def convertHexDigit (character : UInt8) : Option UInt8 :=
  if character ≥ 0x30 && character ≤ 0x39 then some (character - 0x30)
  else if character ≥ 0x61 && character ≤ 0x66 then some (character - 0x61 + 10)
  else if character ≥ 0x41 && character ≤ 0x46 then some (character - 0x41 + 10)
  else none

/-- The two digits `encode_hex` pushes for a byte. -/
def hexPair (byte : UInt8) : ByteString :=
  [hexDigits.getD (byte >>> 4).toNat 0, hexDigits.getD (byte &&& 0x0F).toNat 0]

/-- `encode_hex` -/
def encodeHex (input : ByteString) : ByteString := input.flatMap hexPair

/-- The loop of `decode_hex`. -/
def decodeHexPairs : ByteString → Option ByteString
  | [] => some []
  | [_] => none
  | highDigit :: lowDigit :: rest => do
    let high ← convertHexDigit highDigit
    let low ← convertHexDigit lowDigit
    let decoded ← decodeHexPairs rest
    pure (((high <<< 4) ||| low) :: decoded)

/-- `decode_hex` -/
def decodeHex (input : ByteString) : Option ByteString :=
  if input.length % 2 ≠ 0 then none else decodeHexPairs input

/-- The two digits of a byte are read back. -/
theorem convertHexDigit_hexPair (byte : UInt8) :
    ∃ high low highDigit lowDigit, hexPair byte = [highDigit, lowDigit] ∧
      convertHexDigit highDigit = some high ∧ convertHexDigit lowDigit = some low ∧
      (high <<< 4) ||| low = byte := by
  have hall : ∀ n : Fin 256, (convertHexDigit (hexDigits.getD (UInt8.ofNat n >>> 4).toNat 0)).bind
      (fun high => (convertHexDigit (hexDigits.getD (UInt8.ofNat n &&& 0x0F).toNat 0)).map
        fun low => (high <<< 4) ||| low) = some (UInt8.ofNat n) := by decide +kernel
  have hbyte := hall ⟨byte.toNat, byte.toNat_lt⟩
  simp only [UInt8.ofNat_toNat] at hbyte
  obtain ⟨high, hhigh, hrest⟩ := Option.bind_eq_some_iff.mp hbyte
  obtain ⟨low, hlow, hvalue⟩ := Option.map_eq_some_iff.mp hrest
  exact ⟨high, low, _, _, rfl, hhigh, hlow, hvalue⟩

@[simp] theorem encodeHex_nil : encodeHex [] = [] := rfl

theorem encodeHex_cons (byte : UInt8) (input : ByteString) :
    encodeHex (byte :: input) = hexPair byte ++ encodeHex input := rfl

@[simp] theorem length_encodeHex (input : ByteString) :
    (encodeHex input).length = 2 * input.length := by
  induction input with
  | nil => rfl
  | cons byte input ih =>
    rw [encodeHex_cons, List.length_append, ih, hexPair, List.length_cons]
    simp only [List.length_cons, List.length_nil]
    omega

theorem decodeHexPairs_encodeHex (input : ByteString) :
    decodeHexPairs (encodeHex input) = some input := by
  induction input with
  | nil => rfl
  | cons byte input ih =>
    obtain ⟨high, low, highDigit, lowDigit, hpair, hhigh, hlow, hvalue⟩ :=
      convertHexDigit_hexPair byte
    rw [encodeHex_cons, hpair]
    simp [decodeHexPairs, hhigh, hlow, hvalue, ih]

/-- What was written in hexadecimal is read back. -/
theorem decodeHex_encodeHex (input : ByteString) : decodeHex (encodeHex input) = some input := by
  rw [decodeHex, if_neg (by rw [length_encodeHex]; omega), decodeHexPairs_encodeHex]

theorem encodeHex_injective : Function.Injective encodeHex := by
  intro first second h
  have hread := decodeHex_encodeHex first
  rw [h, decodeHex_encodeHex] at hread
  exact (Option.some.inj hread).symm

/-- The first `2 * n` digits are those of the first `n` bytes. -/
theorem take_encodeHex (n : ℕ) (input : ByteString) :
    (encodeHex input).take (2 * n) = encodeHex (input.take n) := by
  induction n generalizing input with
  | zero => simp
  | succ n ih =>
    cases input with
    | nil => simp
    | cons byte input =>
      have hpair : (hexPair byte).length = 2 := rfl
      rw [List.take_succ_cons, encodeHex_cons, encodeHex_cons, List.take_append, hpair,
        List.take_of_length_le (by rw [hpair]; omega), show 2 * (n + 1) - 2 = 2 * n by omega, ih]

end HyperCom
