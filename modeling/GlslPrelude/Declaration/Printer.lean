import GlslPrelude.Declaration.Basic
import GlslPrelude.Type.Name
import GlslPrelude.Value.Printer

/-!
# Text of declarations

Declarations are written as they would stand in prelude text.
-/

namespace GlslPrelude

namespace Ty

/-- The type of the elements inside all arrays. -/
def base : Ty → Ty
  | .array a _ => a.base
  | t => t

/-- The sizes of all array dimensions, outermost first. -/
def sizes : Ty → List ArraySize
  | .array a s => s :: a.sizes
  | _ => []

/-- A name with its type; the array sizes stand behind the name. -/
def renderDeclarator (t : Ty) (name : String) : String :=
  t.base.render ++ " " ++ name ++ String.join (t.sizes.map ArraySize.render)

end Ty

/-- Text of a constant's declaration. -/
def Constant.render (c : Constant) : String :=
  c.qualifiers.render ++ c.type.renderDeclarator c.name ++ " = " ++ c.value.render ++ ";"

/-- Text of a variable's declaration. -/
def Variable.render (v : Variable) : String :=
  v.qualifiers.render ++ v.type.renderDeclarator v.name ++ ";"

/-- Text of a parameter. -/
def Parameter.render (p : Parameter) : String :=
  p.qualifiers.render ++
    match p.name with
    | some name => p.type.renderDeclarator name
    | none => p.type.render

/-- Text of a function prototype, without the semicolon. -/
def Signature.render (s : Signature) : String :=
  s.returnType.render ++ " " ++ s.name ++ "(" ++
    ", ".intercalate (s.parameters.map Parameter.render) ++ ")"

/-- Text of a member of a block, on a line of its own. -/
def Field.render (f : Field Ty) : String :=
  "    " ++ f.qualifiers.render ++ f.type.renderDeclarator f.name ++ ";\n"

/-- Text of a block. -/
def Block.render (b : Block) : String :=
  b.name ++ " \x7b\n" ++ String.join (b.fields.map Field.render) ++ "\x7d;"

end GlslPrelude
