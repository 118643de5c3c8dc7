import GlslPrelude.Double.Basic

/-!
# Rounding to doubles

The double nearest to a quotient of natural numbers; of two equally near ones that with the even
significand. All the arithmetic is exact. `roundHalfEven_le` and `le_roundHalfEven` say that a rounded
quotient is within one half of the quotient.
-/

namespace GlslPrelude

namespace Double

/-- The natural number nearest to a quotient; half way between two it is the even one. -/
def roundHalfEven (numerator denominator : Nat) : Nat :=
  let below := numerator / denominator
  let twice := 2 * (numerator % denominator)
  if twice < denominator || (twice = denominator && below % 2 = 0) then below else below + 1

/-- Rounding adds at most one half. -/
theorem roundHalfEven_le (n d : Nat) : 2 * (d * roundHalfEven n d) ≤ 2 * n + d := by
  have h := Nat.div_add_mod n d
  simp only [roundHalfEven]
  split
  · omega
  · rename_i hup
    simp only [Bool.or_eq_true, decide_eq_true_eq, Bool.and_eq_true, not_or] at hup
    rw [Nat.mul_add, Nat.mul_one]
    omega

/-- Rounding takes away at most one half. -/
theorem le_roundHalfEven {n d : Nat} (hd : 0 < d) : 2 * n ≤ 2 * (d * roundHalfEven n d) + d := by
  have h := Nat.div_add_mod n d
  have hlt := Nat.mod_lt n hd
  simp only [roundHalfEven]
  split
  · rename_i hdown
    simp only [Bool.or_eq_true, decide_eq_true_eq, Bool.and_eq_true] at hdown
    omega
  · rw [Nat.mul_add, Nat.mul_one]
    omega

/-- Power of two of the last place of the doubles around a positive quotient. -/
def lastPlace (numerator denominator : Nat) : Int :=
  let guess : Int := (Nat.log2 numerator : Int) - Nat.log2 denominator - 52
  -- a quotient of numbers with a and b bits has a - b or a - b + 1 of them
  let place :=
    if numerator * Nat.pow 2 (-guess).toNat < leadingBit * (denominator * Nat.pow 2 guess.toNat) then
      guess - 1
    else guess
  if place < -1074 then -1074 else place

/-- The double nearest to the quotient of two positive numbers. -/
def ofRatio (numerator denominator : Nat) : Double :=
  let place := lastPlace numerator denominator
  let significand :=
    roundHalfEven (numerator * Nat.pow 2 (-place).toNat) (denominator * Nat.pow 2 place.toNat)
  -- a significand that is rounded up to the next power of two carries into the exponent
  let bits := (place + 1074).toNat * leadingBit + significand
  if bits < infinityBits then ⟨UInt64.ofNat bits⟩ else infinity

/-- The double nearest to a natural number. -/
def ofNat (n : Nat) : Double :=
  if n = 0 then zero else ofRatio n 1

/-- The double nearest to an integer. -/
def ofInt (i : Int) : Double :=
  if i < 0 then -ofNat i.natAbs else ofNat i.natAbs

end Double

end GlslPrelude
