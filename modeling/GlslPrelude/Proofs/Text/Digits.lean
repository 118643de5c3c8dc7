import GlslPrelude.Text.Digits
import Mathlib.Data.List.Basic

/-!
# Digits of numbers

The digits that a number is written with in base ten have the value of the number
(`Digits.toNat_toDigits`), and none of them is superfluous.
-/

namespace GlslPrelude

namespace Digits

/-- Digits that are read as they are in core have the same value. -/
theorem toNat_eq_ofDigitChars {digits : List Char} (h : ∀ d ∈ digits, d.isDigit = true) :
    toNat 10 digits = Nat.ofDigitChars 10 digits 0 := by
  rw [toNat, Nat.ofDigitChars_eq_foldl]
  refine List.foldl_ext _ _ _ fun n d hd => ?_
  rw [value, if_pos (h d hd), Nat.mul_comm]

/-- The digits of a number in base ten. -/
theorem isDigit_of_mem_toDigits (n : Nat) : ∀ d ∈ Nat.toDigits 10 n, d.isDigit = true :=
  fun _ => Nat.isDigit_of_mem_toDigits (by decide) (by decide)

/-- The digits of a number have its value. -/
theorem toNat_toDigits (n : Nat) : toNat 10 (Nat.toDigits 10 n) = n := by
  rw [toNat_eq_ofDigitChars (isDigit_of_mem_toDigits n), Nat.ofDigitChars_ten_toDigits]

/-- Only the digits of zero begin with a zero. -/
theorem eq_nil_of_toDigits_eq {n : Nat} {digits : List Char}
    (h : Nat.toDigits 10 n = '0' :: digits) : digits = [] := by
  induction n using Nat.base_induction 10 (by decide) generalizing digits with
  | single m hm =>
      rw [Nat.toDigits_of_lt_base hm] at h
      exact (List.cons.inj h).2.symm
  | digit m k hk hm ih =>
      rw [← Nat.toDigits_append_toDigits (by decide) hm hk] at h
      cases hdigits : Nat.toDigits 10 m with
      | nil => exact absurd hdigits Nat.toDigits_ne_nil
      | cons d digits' =>
          rw [hdigits, List.cons_append] at h
          obtain ⟨rfl, -⟩ := List.cons.inj h
          -- the number in front of the last digit would be zero
          have hzero := toNat_toDigits m
          rw [hdigits, ih hdigits] at hzero
          exact absurd hzero (Nat.ne_of_lt hm)

end Digits

end GlslPrelude
