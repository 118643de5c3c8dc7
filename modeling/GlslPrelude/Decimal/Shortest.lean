import GlslPrelude.Double.Basic

/-!
# Shortest decimals

The decimal that stands for a double-precision number: of the decimals that read back as the number,
those with the fewest digits, and of these the nearest one. All the arithmetic is exact.
-/

namespace GlslPrelude

/-- The number `digits * 10 ^ exponent`. -/
structure Decimal where
  /-- Digits as one number, without zeros at its end. -/
  digits : Nat
  /-- Power of ten that the digits are multiplied with. -/
  exponent : Int
deriving DecidableEq, Repr

namespace Decimal

/-- The finite number `mantissa * 2 ^ exponent`, and whether the numbers right below it are closer
than those right above. -/
structure Dyadic where
  /-- Integer factor. -/
  mantissa : Nat
  /-- Power of two that the factor is multiplied with. -/
  exponent : Int
  /-- Whether the number is a power of two whose lower neighbour has a smaller spacing. -/
  isBoundary : Bool
deriving DecidableEq, Repr

/-- The finite double whose bits without the sign are given. -/
def Dyadic.ofMagnitude (magnitude : Nat) : Dyadic :=
  let fraction := magnitude % Double.leadingBit
  let biased := magnitude / Double.leadingBit
  if biased = 0 then { mantissa := fraction, exponent := -1074, isBoundary := false }
  else
    { mantissa := Double.leadingBit + fraction
      exponent := biased - 1075
      isBoundary := fraction = 0 ∧ 1 < biased }

/-- A number and the interval of the numbers that round to it, as numerators over one denominator.
-/
structure Neighbourhood where
  /-- Numerator of the lower end. -/
  low : Nat
  /-- Numerator of the number. -/
  value : Nat
  /-- Numerator of the upper end. -/
  high : Nat
  /-- Common denominator. -/
  denominator : Nat
  /-- Whether the ends round to the number. -/
  isClosed : Bool

/-- The numbers that round to a dyadic number: they lie nearer to it than to its neighbours, or half
way if its mantissa is even. -/
def Dyadic.neighbourhood (x : Dyadic) : Neighbourhood :=
  -- quarters of the spacing above the number, so that both half-way points are whole
  let factor := Nat.pow 2 x.exponent.toNat
  { low := (4 * x.mantissa - if x.isBoundary then 1 else 2) * factor
    value := 4 * x.mantissa * factor
    high := (4 * x.mantissa + 2) * factor
    denominator := 4 * Nat.pow 2 (-x.exponent).toNat
    isClosed := x.mantissa % 2 = 0 }

/-- Number of decimal digits. -/
def digitCount (n : Nat) : Nat :=
  (Nat.toDigits 10 n).length

/-- Power of ten of the leading digit of `numerator / denominator`, for numbers above `10 ^ -400`.
-/
def leadingExponent (numerator denominator : Nat) : Int :=
  digitCount (numerator * Nat.pow 10 400 / denominator) - 401

/-- The multiple `digits * 10 ^ exponent` that lies in a neighbourhood and nearest to its number
among the two multiples of `10 ^ exponent` around it; of two equally near ones the upper. -/
def nearestWithin? (n : Neighbourhood) (exponent : Int) : Option Nat :=
  let scaleUp := Nat.pow 10 (-exponent).toNat
  let unit := n.denominator * Nat.pow 10 exponent.toNat
  let below := n.value * scaleUp / unit
  let isInside (digits : Nat) : Bool :=
    let point := digits * unit
    if n.isClosed then n.low * scaleUp ≤ point && point ≤ n.high * scaleUp
    else n.low * scaleUp < point && point < n.high * scaleUp
  -- the remainder is at least half a unit
  let isUpperNearer := unit ≤ 2 * (n.value * scaleUp - below * unit)
  match isInside below, isInside (below + 1) with
  | true, true => some (if isUpperNearer then below + 1 else below)
  | true, false => some below
  | false, true => some (below + 1)
  | false, false => none

/-- The decimal with the zeros at the end of its digits moved into the exponent. -/
def normalize (digits : Nat) (exponent : Int) : Decimal :=
  if digits ≠ 0 ∧ digits % 10 = 0 then normalize (digits / 10) (exponent + 1)
  else { digits, exponent }
termination_by digits

/-- The shortest decimal that reads back as a positive dyadic number; of several the nearest one.
Seventeen digits are always enough. -/
def shortest (x : Dyadic) : Decimal :=
  let n := x.neighbourhood
  let leading := leadingExponent n.value n.denominator
  let attempt (count : Nat) : Option Decimal :=
    let exponent := leading - count
    (nearestWithin? n exponent).map (normalize · exponent)
  ((List.range 17).findSome? attempt).getD { digits := 0, exponent := 0 }

end Decimal

end GlslPrelude
