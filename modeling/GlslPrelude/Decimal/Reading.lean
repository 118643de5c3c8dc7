import GlslPrelude.Decimal.Shortest
import GlslPrelude.Double.Rounding

/-!
# Reading decimals

The double-precision number nearest to a decimal. Decimals far outside the range of such numbers are
told by their leading digit, so that no huge power is ever computed.
-/

namespace GlslPrelude

namespace Decimal

/-- The double-precision number nearest to `digits * 10 ^ exponent`. -/
def toDouble (digits : Nat) (exponent : Int) : Double :=
  if digits = 0 then .zero
  else
    let leading := exponent + digitCount digits
    if 400 < leading then .infinity
    else if leading < -400 then .zero
    else .ofRatio (digits * Nat.pow 10 exponent.toNat) (Nat.pow 10 (-exponent).toNat)

end Decimal

end GlslPrelude
