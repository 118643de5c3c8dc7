import GlslPrelude.Type.Basic

/-!
# Implicit conversions

Values of a type may stand for values of another: components widen along the chain of their family
while the shape stays. Vectors and matrices convert component by component; everything else stands
only for itself.
-/

namespace GlslPrelude

/-- Cost of an implicit conversion. -/
inductive Conversion where
  /-- The types are equal. -/
  | exact
  /-- A small integer becomes an `int`, or a floating-point number a `double`. -/
  | promotion
  /-- Any other widening. -/
  | widening
deriving DecidableEq, Repr

namespace Conversion

/-- The costs in ascending order. -/
def rank : Conversion → Nat
  | .exact => 0
  | .promotion => 1
  | .widening => 2

/-- Cost of the conversion between different component kinds. -/
def ofScalars? (a b : Scalar) : Option Conversion :=
  if a.promotesTo b then some .promotion
  else if a.convertsTo b then some .widening
  else none

end Conversion

namespace Ty

/-- The component kinds of two types of the same shape. -/
def sameShape? : Ty → Ty → Option (Scalar × Scalar)
  | .scalar k, .scalar l => some (k, l)
  | .vector k d, .vector l e => if d = e then some (k, l) else none
  | .matrix k d, .matrix l e => if d = e then some (k, l) else none
  | _, _ => none

/-- Cost of converting a value of type `a` to type `b`; `none` if that is impossible. -/
def conversion? (a b : Ty) : Option Conversion :=
  if a = b then some .exact
  else (sameShape? a b).bind fun (k, l) => Conversion.ofScalars? k l

end Ty

end GlslPrelude
