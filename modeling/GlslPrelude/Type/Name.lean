import GlslPrelude.Text.Word
import GlslPrelude.Type.Basic

/-!
# Names of types

How types are written, and which type a name refers to. Besides the name by which it is written, a
type may have names that spell out the width of its components, and a square matrix may repeat its
dimension. Blocks and arrays are not found by name.
-/

namespace GlslPrelude

/-- The size as it is written behind a name. -/
def ArraySize.render : ArraySize → String
  | .fixed n => "[" ++ toString n ++ "]"
  | .implicit => "[]"

/-- What stands behind the stem in the name of a matrix type. -/
def MatrixDim.name (d : MatrixDim) : String :=
  if d.isSquare then "mat" ++ d.cols.digit else "mat" ++ d.cols.digit ++ "x" ++ d.rows.digit

/-- The size that a text writes; one dimension is that of a square matrix. -/
def MatrixDim.ofDigits? (text : List Char) : Option MatrixDim :=
  match Text.partAt? "x" text with
  | some (cols, rows) => do return { cols := ← Dim.ofDigit? cols, rows := ← Dim.ofDigit? rows }
  | none => do
    let d ← Dim.ofDigit? text
    return { cols := d, rows := d }

namespace Ty

/-- The type as it is written. -/
def render : Ty → String
  | .void => "void"
  | .scalar k => k.name
  | .vector k d => k.vectorStem ++ "vec" ++ d.digit
  | .matrix k d => k.matrixStem?.getD "" ++ d.name
  | .handle h => h.name
  | .struct n _ => n
  | .array a s => a.render ++ s.render

/-- The names of scalar types. -/
def scalarNames : List (String × Ty) :=
  (elements Scalar).flatMap fun k => (k.name :: k.widthNames).map (·, .scalar k)

/-- The names of vector types. -/
def vectorNames : List (String × Ty) :=
  (elements Scalar).flatMap fun k => (k.vectorStem :: k.widthStems).flatMap fun stem =>
    Dim.all.map fun d => (stem ++ "vec" ++ d.digit, .vector k d)

/-- The names of matrix types, square ones in both spellings. -/
def matrixNames : List (String × Ty) :=
  (elements Scalar).flatMap fun k => match k.matrixStem? with
    | none => []
    | some stem => (stem :: k.widthStems).flatMap fun stem =>
      Dim.all.flatMap fun cols =>
        (stem ++ "mat" ++ cols.digit, .matrix k ⟨cols, cols⟩) ::
          Dim.all.map fun rows =>
            (stem ++ "mat" ++ cols.digit ++ "x" ++ rows.digit, .matrix k ⟨cols, rows⟩)

/-- The names of handle types. -/
def handleNames : List (String × Ty) :=
  Handle.all.map fun h => (h.name, .handle h)

/-- All the names of types. -/
def names : List (String × Ty) :=
  ("void", .void) :: (scalarNames ++ vectorNames ++ matrixNames ++ handleNames)

/-- The kind of the matrix types whose names begin like a name, and what stands behind the stem of
these types. -/
def takeMatrixStem? (name : List Char) : Option (Scalar × List Char) :=
  (Text.partAt? "mat" name).bind fun (stem, dims) => (Scalar.ofMatrixStem? stem).map (·, dims)

/-- The type that a name refers to. -/
def ofName? (name : String) : Option Ty :=
  if name = "void" then some .void
  else
    match Scalar.ofName? name with
    | some k => some (.scalar k)
    | none =>
      match Text.partAt? "vec" name.toList with
      | some (stem, dim) => do return .vector (← Scalar.ofVectorStem? stem) (← Dim.ofDigit? dim)
      | none =>
        match takeMatrixStem? name.toList with
        | some (k, dims) => (MatrixDim.ofDigits? dims).map (.matrix k)
        | none => (Handle.ofName? name).map .handle

end Ty

end GlslPrelude
