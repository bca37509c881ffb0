import HyperCom.Protocol.Limits
import Mathlib.Tactic.Ring

/-!
# Numbers in decimal

`std::to_string` writes the decimal digits of a number, and reading them digit
by digit gives the number back.

Only the digits of the decimal system are produced, most significant first and without a
leading zero; this is what the number readers of the configuration and of the command line
are compared with.
-/

namespace HyperCom

/-- The bytes of a printed number are the characters of its digits. -/
theorem ascii_toString (n : ℕ) :
    ascii (toString n) = (Nat.toDigits 10 n).map fun digit => UInt8.ofNat digit.toNat := by
  rw [ascii, Nat.toString_eq_ofList_toDigits, String.toList_ofList]

/-- The character of a digit. -/
theorem digitChar_toNat {digit : ℕ} (h : digit < 10) : digit.digitChar.toNat = 0x30 + digit := by
  have hall : ∀ digit : Fin 10, digit.1.digitChar.toNat = 0x30 + digit.1 := by decide
  exact hall ⟨digit, h⟩

/-- One digit. -/
theorem ascii_toString_of_lt {n : ℕ} (h : n < 10) :
    ascii (toString n) = [UInt8.ofNat (0x30 + n)] := by
  rw [ascii_toString, Nat.toDigits_of_lt_base h, List.map_singleton, digitChar_toNat h]

/-- The last digit stands behind the digits of the rest, which is what the inductions on
printed numbers go by. -/
theorem ascii_toString_of_le {n : ℕ} (h : 10 ≤ n) :
    ascii (toString n) = ascii (toString (n / 10)) ++ [UInt8.ofNat (0x30 + n % 10)] := by
  rw [ascii_toString, Nat.toDigits_of_base_le (by decide) h, List.map_append, List.map_singleton,
    digitChar_toNat (Nat.mod_lt n (by decide)), ascii_toString]

/-- The value of decimal digits, high one first. -/
def decimalValue (digits : ByteString) : ℕ :=
  digits.foldl (fun value digit => value * 10 + (digit.toNat - 0x30)) 0

/-- The bytes of a printed number are digits, and its value is the number. -/
theorem printed_number (n : ℕ) :
    (∀ digit ∈ ascii (toString n), 0x30 ≤ digit.toNat ∧ digit.toNat ≤ 0x39) ∧
      decimalValue (ascii (toString n)) = n := by
  have hdigit : ∀ digit < 10, (UInt8.ofNat (0x30 + digit)).toNat = 0x30 + digit := by
    intro digit hdigit
    rw [UInt8.toNat_ofNat', Nat.mod_eq_of_lt (by omega)]
  induction n using Nat.strong_induction_on with
  | h n ih =>
    rcases Nat.lt_or_ge n 10 with hsmall | hlarge
    · rw [ascii_toString_of_lt hsmall]
      simp only [List.mem_singleton, forall_eq, decimalValue, List.foldl_cons, List.foldl_nil,
        hdigit n hsmall]
      omega
    · obtain ⟨hdigits, hvalue⟩ := ih (n / 10) (by omega)
      have hlast : n % 10 < 10 := Nat.mod_lt n (by decide)
      rw [ascii_toString_of_le hlarge]
      constructor
      · intro digit hmem
        rcases List.mem_append.mp hmem with hmem | hmem
        · exact hdigits digit hmem
        · obtain rfl := List.mem_singleton.mp hmem
          rw [hdigit _ hlast]
          omega
      · rw [decimalValue] at hvalue
        rw [decimalValue, List.foldl_append, hvalue, List.foldl_cons, List.foldl_nil,
          hdigit _ hlast]
        omega

/-- Even 0 has a digit. -/
theorem printed_number_ne_nil (n : ℕ) : ascii (toString n) ≠ [] := by
  rcases Nat.lt_or_ge n 10 with hsmall | hlarge
  · rw [ascii_toString_of_lt hsmall]
    exact List.cons_ne_nil _ _
  · rw [ascii_toString_of_le hlarge]
    exact List.append_ne_nil_of_right_ne_nil _ (List.cons_ne_nil _ _)

end HyperCom
