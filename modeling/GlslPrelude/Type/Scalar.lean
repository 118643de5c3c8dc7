import GlslPrelude.Data.EnumSet

/-!
# Scalar kinds

The kinds of scalars, which are also the kinds of the components of vectors and matrices, with their
names and the widening chains along which values convert implicitly.
-/

namespace GlslPrelude

/-- Kind of a scalar or of a component. -/
inductive Scalar where
  | bool
  | int
  | uint
  | float
  | double
  | int8
  | int16
  | int64
  | uint8
  | uint16
  | uint64
  | float16
deriving DecidableEq, Repr, Inhabited

instance : Enumeration Scalar where
  all := [.bool, .int, .uint, .float, .double, .int8, .int16, .int64, .uint8, .uint16, .uint64,
    .float16]
  nodup_all := by decide
  mem_all := by intro a; cases a <;> decide

/-- Family of scalar kinds; conversions never leave a family. -/
inductive Family where
  | boolean
  | integral
  | floating
deriving DecidableEq, Repr

namespace Scalar

/-- Name of the scalar type. -/
def name : Scalar → String
  | .bool => "bool"
  | .int => "int"
  | .uint => "uint"
  | .float => "float"
  | .double => "double"
  | .int8 => "int8_t"
  | .int16 => "int16_t"
  | .int64 => "int64_t"
  | .uint8 => "uint8_t"
  | .uint16 => "uint16_t"
  | .uint64 => "uint64_t"
  | .float16 => "float16_t"

/-- What stands before `vec` in the names of vector types. -/
def vectorStem : Scalar → String
  | .bool => "b"
  | .int => "i"
  | .uint => "u"
  | .float => ""
  | .double => "d"
  | .int8 => "i8"
  | .int16 => "i16"
  | .int64 => "i64"
  | .uint8 => "u8"
  | .uint16 => "u16"
  | .uint64 => "u64"
  | .float16 => "f16"

/-- What stands before `mat` in the names of matrix types; only floating kinds have matrices. -/
def matrixStem? : Scalar → Option String
  | .float => some ""
  | .double => some "d"
  | .float16 => some "f16"
  | _ => none

/-- Names that spell out the width of a kind, besides its own name. -/
def widthNames : Scalar → List String
  | .int => ["int32_t"]
  | .uint => ["uint32_t"]
  | .float => ["float32_t"]
  | .double => ["float64_t"]
  | _ => []

/-- Stems that spell out the width of a kind, besides its own stem. -/
def widthStems : Scalar → List String
  | .int => ["i32"]
  | .uint => ["u32"]
  | .float => ["f32"]
  | .double => ["f64"]
  | _ => []

/-- The kind that a name of a scalar type refers to. -/
def ofName? (name : String) : Option Scalar :=
  (elements Scalar).find? fun k => (k.name :: k.widthNames).contains name

/-- The kind that a stem of vector types refers to. -/
def ofVectorStem? (text : List Char) : Option Scalar :=
  (elements Scalar).find? fun k => (k.vectorStem :: k.widthStems).any (·.toList == text)

/-- The kind that a stem of matrix types refers to. -/
def ofMatrixStem? (text : List Char) : Option Scalar :=
  (elements Scalar).find? fun k =>
    k.matrixStem?.any fun stem => (stem :: k.widthStems).any (·.toList == text)

/-- Family of the kind. -/
def family : Scalar → Family
  | .bool => .boolean
  | .float | .double | .float16 => .floating
  | _ => .integral

/-- Whether values of the kind are integers. -/
def isIntegral (k : Scalar) : Bool :=
  k.family = .integral

/-- Whether values of the kind are floating-point numbers. -/
def isFloating (k : Scalar) : Bool :=
  k.family = .floating

/-- Whether values of the kind are numbers. -/
def isNumeric (k : Scalar) : Bool :=
  k.family ≠ .boolean

/-- Whether values of the kind may be negative. -/
def isSigned : Scalar → Bool
  | .int | .int8 | .int16 | .int64 | .float | .double | .float16 => true
  | _ => false

/-- Place of the kind in the widening chain of its family; `bool` is in no chain. -/
def rank? : Scalar → Option Nat
  | .bool => none
  | .int8 => some 0
  | .uint8 => some 1
  | .int16 => some 2
  | .uint16 => some 3
  | .int => some 4
  | .uint => some 5
  | .int64 => some 6
  | .uint64 => some 7
  | .float16 => some 0
  | .float => some 1
  | .double => some 2

/-- Whether converting from `k` to `target` is a promotion: a small integer becomes an `int`, or a
floating-point number a `double`. -/
def promotesTo (k target : Scalar) : Bool :=
  match k, target with
  | .int8, .int | .int16, .int | .uint8, .int | .uint16, .int => true
  | .float16, .double | .float, .double => true
  | _, _ => false

/-- Whether `k` converts implicitly to `target`, that is, stands lower in the same widening chain.
-/
def convertsTo (k target : Scalar) : Bool :=
  k.family = target.family &&
    match k.rank?, target.rank? with
    | some i, some j => i < j
    | _, _ => false

end Scalar

end GlslPrelude
