import GlslPrelude.Double.Rounding
import GlslPrelude.Type.Basic

/-!
# Constant values

Values of constants: literals and lists of values. `coerce?` brings a value to the form that the
type of its constant asks for.
-/

namespace GlslPrelude

/-- A literal, or a list of values in braces or behind a type name. -/
inductive ConstValue where
  | bool (value : Bool)
  | int (value : Int64)
  | uint (value : UInt64)
  | float (value : Double)
  | aggregate (values : List ConstValue)
  deriving Inhabited

namespace ConstValue

mutual

/-- Values are compared as trees, their floating-point numbers as numbers. -/
def beq : ConstValue → ConstValue → Bool
  | .bool a, .bool b => a == b
  | .int a, .int b => a == b
  | .uint a, .uint b => a == b
  | .float a, .float b => a.equals b
  | .aggregate as, .aggregate bs => beqList as bs
  | _, _ => false

/-- Lists of values are compared value by value. -/
def beqList : List ConstValue → List ConstValue → Bool
  | [], [] => true
  | a :: as, b :: bs => beq a b && beqList as bs
  | _, _ => false

end

instance : BEq ConstValue := ⟨beq⟩

/-- The word as a signed integer, if it is small enough. -/
def signed? (u : UInt64) : Option Int64 :=
  if u ≤ Int64.maxValue.toUInt64 then some u.toInt64 else none

/-- The signed integer as a word, if it is not negative. -/
def unsigned? (i : Int64) : Option UInt64 :=
  if 0 ≤ i then some i.toUInt64 else none

/-- The integer that a value is, if it is one. -/
def toInt? : ConstValue → Option Int64
  | .int i => some i
  | .uint u => signed? u
  | _ => none

/-- The literal in the form of a scalar kind; `none` if the kind has no such value. -/
def coerceScalar? (kind : Scalar) : ConstValue → Option ConstValue
  | .bool b => if kind = .bool then some (.bool b) else none
  | .int i =>
    match kind.family with
    | .integral => if kind.isSigned then some (.int i) else (unsigned? i).map .uint
    | .floating => some (.float (Double.ofInt i.toInt))
    | .boolean => none
  | .uint u =>
    match kind.family with
    | .integral => if kind.isSigned then (signed? u).map .int else some (.uint u)
    | .floating => some (.float (Double.ofNat u.toNat))
    | .boolean => none
  | .float x => if kind.isFloating then some (.float x) else none
  | .aggregate _ => none

mutual

/-- The value in the form of a type: the literals of a list take the kind of a vector, whose
dimension or one is their number, or the form of the elements of an array. -/
def coerce? (type : Ty) : ConstValue → Option ConstValue
  | .aggregate values =>
    match type with
    | .vector kind dim =>
      if values.length = dim.toNat ∨ values.length = 1 then
        (values.mapM (coerceScalar? kind)).map .aggregate
      else none
    | .array element _ => (coerceAll? element values).map .aggregate
    | _ => none
  | value =>
    match type with
    | .scalar kind => value.coerceScalar? kind
    | _ => none

/-- The values in the form of a type. -/
def coerceAll? (type : Ty) : List ConstValue → Option (List ConstValue)
  | [] => some []
  | v :: vs =>
    match v.coerce? type, coerceAll? type vs with
    | some w, some ws => some (w :: ws)
    | _, _ => none

end

end ConstValue

end GlslPrelude
