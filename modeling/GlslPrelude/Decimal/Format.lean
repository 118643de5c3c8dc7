import GlslPrelude.Decimal.Shortest

/-!
# Text of floating-point numbers

A number is written with its shortest decimal. A `Decimal.Format` says which numbers are written
positionally and which zeros beside the point are kept.
-/

namespace GlslPrelude

namespace Decimal

/-- How floating-point numbers are written. -/
structure Format where
  /-- Text of both zeros. -/
  zero : String
  /-- Whether numbers below one have a zero before the point. -/
  leadingZero : Bool
  /-- Whether whole numbers have a zero behind the point. -/
  trailingZero : Bool
  /-- Powers of ten of the leading digits between which numbers are written positionally, the upper
  one excluded; `none` if all numbers are. -/
  positional : Option (Int × Int)

/-- Power of ten of the leading digit. -/
def leading (d : Decimal) : Int :=
  d.exponent + digitCount d.digits - 1

/-- The digits before and behind the point; there are none of them that only zeros would fill. -/
def split (d : Decimal) : List Char × List Char :=
  let digits := Nat.toDigits 10 d.digits
  if 0 ≤ d.exponent then (digits ++ List.replicate d.exponent.toNat '0', [])
  else
    let places := (-d.exponent).toNat
    if places < digits.length then
      (digits.take (digits.length - places), digits.drop (digits.length - places))
    else ([], List.replicate (places - digits.length) '0' ++ digits)

/-- The decimal in positional notation. -/
def renderPositional (format : Format) (d : Decimal) : String :=
  let (whole, fraction) := d.split
  let whole := if whole.isEmpty && format.leadingZero then ['0'] else whole
  let fraction := if fraction.isEmpty && format.trailingZero then ['0'] else fraction
  String.ofList (whole ++ '.' :: fraction)

/-- The decimal with one digit before the point and the power of ten behind the letter `e`. -/
def renderScientific (d : Decimal) : String :=
  let fraction := match Nat.toDigits 10 d.digits with
    | first :: [] => [first]
    | first :: rest => first :: '.' :: rest
    | [] => []
  String.ofList fraction ++ "e" ++ toString d.leading

/-- The positive decimal in the notation that the format chooses. -/
def render (format : Format) (d : Decimal) : String :=
  match format.positional with
  | none => renderPositional format d
  | some (low, high) =>
    if low ≤ d.leading && d.leading < high then renderPositional format d else renderScientific d

/-- Text of a double-precision number. -/
def Format.render (format : Format) (x : Double) : String :=
  if x.isNaN then "NaN"
  else if x.magnitude = 0 then format.zero
  else
    let sign := if x.isNegative then "-" else ""
    if x.magnitude = Double.infinityBits then sign ++ "inf"
    else sign ++ (shortest (Dyadic.ofMagnitude x.magnitude)).render format

end Decimal

end GlslPrelude
