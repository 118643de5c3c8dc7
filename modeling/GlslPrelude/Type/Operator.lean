import GlslPrelude.Type.Basic

/-!
# Operators

The types of operator expressions. Operands are brought to a common component kind first; then a
scalar combines with every component of the other operand, and products of matrices and vectors
follow linear algebra.
-/

namespace GlslPrelude

/-- Operator with one operand. -/
inductive UnaryOp where
  | identity
  | negate
  | bitNot
  | logicalNot
  | preIncrement
  | preDecrement
  | postIncrement
  | postDecrement
deriving DecidableEq, Repr

/-- Operator with two operands. -/
inductive BinaryOp where
  | add
  | sub
  | mul
  | div
  | rem
  | shl
  | shr
  | bitAnd
  | bitOr
  | bitXor
  | and
  | or
  | xor
  | eq
  | neq
  | lt
  | lte
  | gt
  | gte
deriving DecidableEq, Repr

/-- The operator as it is written. -/
def UnaryOp.symbol : UnaryOp → String
  | .identity => "+"
  | .negate => "-"
  | .bitNot => "~"
  | .logicalNot => "!"
  | .preIncrement | .postIncrement => "++"
  | .preDecrement | .postDecrement => "--"

/-- The operator as it is written. -/
def BinaryOp.symbol : BinaryOp → String
  | .add => "+"
  | .sub => "-"
  | .mul => "*"
  | .div => "/"
  | .rem => "%"
  | .shl => "<<"
  | .shr => ">>"
  | .bitAnd => "&"
  | .bitOr => "|"
  | .bitXor => "^"
  | .and => "&&"
  | .or => "||"
  | .xor => "^^"
  | .eq => "=="
  | .neq => "!="
  | .lt => "<"
  | .lte => "<="
  | .gt => ">"
  | .gte => ">="

/-- The wider of two kinds of which one converts to the other. -/
def Scalar.join? (a b : Scalar) : Option Scalar :=
  if a = b then some a
  else if a.convertsTo b then some b
  else if b.convertsTo a then some a
  else none

namespace Ty

/-- Whether the type is an integer or a vector of integers. -/
def isIntegral : Ty → Bool
  | .scalar k | .vector k _ => k.isIntegral
  | _ => false

/-- Both types with their components brought to a common kind; truth values only go with truth
values. -/
def unify? (a b : Ty) : Option (Ty × Ty) :=
  match a.scalar?, b.scalar? with
  | some k, some l =>
    if k.isNumeric && l.isNumeric then do
      let kind ← k.join? l
      return (← a.withScalar? kind, ← b.withScalar? kind)
    else if k = l then some (a, b)
    else none
  | _, _ => none

/-- Type of a component-wise operation on operands with components of one kind. -/
def broadcast? (a b : Ty) : Option Ty :=
  if a.isNumeric && b.isNumeric then
    if a = b then some a
    else match a, b with
      | .scalar _, _ => some b
      | _, .scalar _ => some a
      | _, _ => none
  else none

/-- Type of the product of operands with components of one kind: a vector is a row on the left of a
matrix and a column on its right. -/
def product? : Ty → Ty → Option Ty
  | .matrix k m, .vector _ d => if m.cols = d then some (.vector k m.rows) else none
  | .vector k d, .matrix _ m => if m.rows = d then some (.vector k m.cols) else none
  | .matrix k m, .matrix _ n =>
    if m.cols = n.rows then some (.matrix k ⟨n.cols, m.rows⟩) else none
  | a, b => broadcast? a b

/-- Type of an operator expression with one operand. -/
def unary? (op : UnaryOp) (t : Ty) : Option Ty :=
  let applies : Bool := match op with
    | .bitNot => t.isIntegral
    | .logicalNot => t = .scalar .bool
    | _ => t.isNumeric
  if applies then some t else none

/-- Type of an operator expression with two operands. -/
def binary? (op : BinaryOp) (a b : Ty) : Option Ty :=
  match op with
  | .add | .sub | .div => do
    let (a, b) ← unify? a b
    broadcast? a b
  | .mul => do
    let (a, b) ← unify? a b
    product? a b
  | .rem | .bitAnd | .bitOr | .bitXor =>
    if a.isIntegral && b.isIntegral then do
      let (a, b) ← unify? a b
      broadcast? a b
    else none
  | .shl | .shr =>
    if a.isIntegral && b.isIntegral then
      match a, b with
      | _, .scalar _ => some a
      | .vector _ d, .vector _ e => if d = e then some a else none
      | _, _ => none
    else none
  | .and | .or | .xor =>
    if a = .scalar .bool && b = .scalar .bool then some (.scalar .bool) else none
  | .lt | .lte | .gt | .gte =>
    if a.isScalar && b.isScalar && a.isNumeric && b.isNumeric && (unify? a b).isSome then
      some (.scalar .bool)
    else none
  | .eq | .neq =>
    match a with
    | .handle _ | .void => none
    | _ =>
      if a = b || (unify? a b).any (fun (a, b) => a = b) then some (.scalar .bool) else none

/-- Type of an element picked by an index. -/
def index? : Ty → Option Ty
  | .array a _ => some a
  | .vector k _ => some (.scalar k)
  | .matrix k d => some (.vector k d.rows)
  | _ => none

/-- Type of the length. -/
def length? : Ty → Option Ty
  | .array .. | .vector .. | .matrix .. => some (.scalar .int)
  | _ => none

end Ty

end GlslPrelude
