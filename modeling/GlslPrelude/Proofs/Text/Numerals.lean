import GlslPrelude.Proofs.Text.Spans
import GlslPrelude.Text.Digits
import Mathlib.Data.List.Forall2
import Mathlib.Data.List.Induction
import Mathlib.Data.Nat.Digits.Defs
import Mathlib.Tactic.IntervalCases

/-!
# Numerals

What a numeral stands for: the number that its digits are the positions of in a base
(`Digits.StandsFor`). The value that is computed from the first digit to the last one is that number
(`Digits.standsFor_iff`).
-/

namespace GlslPrelude

namespace Digits

variable {base n d : Nat} {c : Char} {digits : List Char}

/-- The character is the digit of a number, letters in either case. -/
def IsDigitOf (c : Char) (d : Nat) : Prop :=
  c = d.digitChar ∨ c = d.digitChar.toUpper

instance (c : Char) (d : Nat) : Decidable (IsDigitOf c d) :=
  inferInstanceAs (Decidable (_ ∨ _))

/-- The numeral stands for the number in the base: each digit is less than the base, and the last
one counts once, the one in front of it as often as the base says, and so on. -/
def StandsFor (base : Nat) (digits : List Char) (n : Nat) : Prop :=
  ∃ ds : List Nat, digits.Forall₂ (fun c d => d < base ∧ IsDigitOf c d) ds ∧
    n = Nat.ofDigits base ds.reverse

/-! ## Digits by their codes -/

/-- The codes of octal digits lie in one range. -/
theorem isOctal_iff_toNat : isOctal c = true ↔ 48 ≤ c.toNat ∧ c.toNat ≤ 55 := by
  simp [isOctal, Char.le_def, UInt32.le_iff_toNat_le]

/-- The codes of hexadecimal digits lie in three ranges. -/
theorem isHex_iff_toNat : isHex c = true ↔ 48 ≤ c.toNat ∧ c.toNat ≤ 57 ∨
    97 ≤ c.toNat ∧ c.toNat ≤ 102 ∨ 65 ≤ c.toNat ∧ c.toNat ≤ 70 := by
  simp [isHex, Text.isDigit_iff_toNat, Char.le_def, UInt32.le_iff_toNat_le, or_assoc]

/-- The value of a digit is computed from its code. -/
theorem value_eq (c : Char) : value c =
    if 48 ≤ c.toNat ∧ c.toNat ≤ 57 then c.toNat - 48
    else if 97 ≤ c.toNat then c.toNat - 97 + 10 else c.toNat - 65 + 10 := by
  simp [value, Text.isDigit_iff_toNat, Char.le_def, UInt32.le_iff_toNat_le]

/-- Octal digits are the digits less than eight. -/
theorem isOctal_iff : isOctal c = true ↔ isHex c = true ∧ value c < 8 := by
  rw [isOctal_iff_toNat, isHex_iff_toNat, value_eq]
  grind

/-- Decimal digits are the digits less than ten. -/
theorem isDigit_iff : c.isDigit = true ↔ isHex c = true ∧ value c < 10 := by
  rw [Text.isDigit_iff_toNat, isHex_iff_toNat, value_eq]
  grind

/-- All digits are less than sixteen. -/
theorem value_lt_of_isHex (h : isHex c = true) : value c < 16 := by
  rw [isHex_iff_toNat] at h
  rw [value_eq]
  grind

/-- A hexadecimal digit is the digit of its value. -/
theorem isDigitOf_value (h : isHex c = true) : IsDigitOf c (value c) := by
  have hcodes := isHex_iff_toNat.1 h
  rw [← Char.ofNat_toNat c]
  generalize c.toNat = code at hcodes
  rcases hcodes with ⟨hlow, hhigh⟩ | ⟨hlow, hhigh⟩ | ⟨hlow, hhigh⟩
  · interval_cases code <;> decide
  · interval_cases code <;> decide
  · interval_cases code <;> decide

/-- The digits of a number are the hexadecimal digits with this value. -/
theorem isDigitOf_iff (hd : d < 16) : IsDigitOf c d ↔ isHex c = true ∧ value c = d := by
  have hall : ∀ d < 16, (isHex d.digitChar = true ∧ value d.digitChar = d) ∧
      isHex d.digitChar.toUpper = true ∧ value d.digitChar.toUpper = d := by
    decide
  constructor
  · rintro (rfl | rfl)
    · exact (hall d hd).1
    · exact (hall d hd).2
  · rintro ⟨hhex, rfl⟩
    exact isDigitOf_value hhex

/-! ## Numerals -/

/-- One more digit multiplies the value by the base and adds its own. -/
theorem toNat_concat (base : Nat) (digits : List Char) (c : Char) :
    toNat base (digits ++ [c]) = toNat base digits * base + value c := by
  rw [toNat, List.foldl_concat, toNat]

/-- The value that is computed from the first digit to the last one counts each digit by its
position. -/
theorem toNat_eq_ofDigits (base : Nat) (digits : List Char) :
    toNat base digits = Nat.ofDigits base (digits.map value).reverse := by
  -- from the last digit on, which stands first in the reversed list
  induction digits using List.reverseRecOn with
  | nil => rfl
  | append_singleton digits c ih =>
      rw [toNat_concat, ih, List.map_append, List.reverse_append]
      simp [Nat.ofDigits_cons, Nat.mul_comm, Nat.add_comm]

/-- In a base up to sixteen a numeral stands for the value that is computed, if its characters are
digits of the base. -/
theorem standsFor_iff (hbase : base ≤ 16) :
    StandsFor base digits n ↔
      (∀ c ∈ digits, isHex c = true ∧ value c < base) ∧ n = toNat base digits := by
  have hdigit (c : Char) (d : Nat) :
      d < base ∧ IsDigitOf c d ↔ (isHex c = true ∧ value c < base) ∧ value c = d := by
    constructor
    · rintro ⟨hd, h⟩
      obtain ⟨hhex, rfl⟩ := (isDigitOf_iff (hd.trans_le hbase)).1 h
      exact ⟨⟨hhex, hd⟩, rfl⟩
    · rintro ⟨⟨hhex, hd⟩, rfl⟩
      exact ⟨hd, isDigitOf_value hhex⟩
  -- the list of numbers can only be that of the values
  have hdigits (ds : List Nat) : digits.Forall₂ (fun c d => d < base ∧ IsDigitOf c d) ds ↔
      (∀ c ∈ digits, isHex c = true ∧ value c < base) ∧ digits.map value = ds := by
    simp only [hdigit, List.forall₂_and_left, ← List.forall₂_eq_eq_eq, List.forall₂_map_left_iff]
  simp only [StandsFor, hdigits, toNat_eq_ofDigits]
  constructor
  · rintro ⟨ds, ⟨hall, rfl⟩, rfl⟩
    exact ⟨hall, rfl⟩
  · rintro ⟨hall, rfl⟩
    exact ⟨_, ⟨hall, rfl⟩, rfl⟩

end Digits

end GlslPrelude
