import GlslPrelude.Decimal.Format
import GlslPrelude.Value.Basic

/-!
# Text of constant values

Values are written as they would stand in a declaration.
-/

namespace GlslPrelude

namespace ConstValue

/-- Floating-point numbers are written positionally and without zeros beside the point. -/
def floatFormat : Decimal.Format :=
  { zero := "0.", leadingZero := false, trailingZero := false, positional := none }

mutual

/-- Text of the value. -/
def render : ConstValue → String
  | .bool true => "true"
  | .bool false => "false"
  | .int i => toString i.toInt
  | .uint u => toString u.toNat ++ "u"
  | .float x => floatFormat.render x
  | .aggregate [] => "\x7b\x7d"
  | .aggregate (v :: vs) => "\x7b" ++ v.render ++ renderTail vs ++ "\x7d"

/-- Text of the values that follow the first one. -/
def renderTail : List ConstValue → String
  | [] => ""
  | v :: vs => ", " ++ v.render ++ renderTail vs

end

end ConstValue

end GlslPrelude
