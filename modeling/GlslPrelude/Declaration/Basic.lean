import GlslPrelude.Condition.Basic
import GlslPrelude.Value.Basic

/-!
# Declarations

What prelude text declares: constants, variables, interface blocks and function signatures, each
under the condition of its fragment.
-/

namespace GlslPrelude

/-- A constant, for instance `const int gl_MaxVertexAttribs = 16;`. -/
structure Constant where
  /-- Name. -/
  name : String
  /-- Type. -/
  type : Ty
  /-- Qualifiers, `const` among them. -/
  qualifiers : QualifierSet
  /-- Value in the form of the type. -/
  value : ConstValue
  /-- Documentation. -/
  doc : Option String

namespace Constant

/-- Whether two records define the same constant, documentation aside. -/
def sameDefinition (a b : Constant) : Bool :=
  a.name = b.name && a.type = b.type && a.qualifiers = b.qualifiers && a.value == b.value

instance : BEq Constant := ⟨fun a b => a.sameDefinition b && a.doc = b.doc⟩

end Constant

/-- A variable, for instance `in vec4 gl_FragCoord;`. -/
structure Variable where
  /-- Name. -/
  name : String
  /-- Type. -/
  type : Ty
  /-- Qualifiers. -/
  qualifiers : QualifierSet
  /-- The anonymous interface block that the variable is a member of. -/
  block : Option String
  /-- Documentation. -/
  doc : Option String
deriving DecidableEq

namespace Variable

/-- Direction in which data flows through the variable. -/
def direction? (v : Variable) : Option Direction :=
  v.qualifiers.direction?

/-- Whether two records define the same variable, documentation aside. -/
def sameDefinition (a b : Variable) : Bool :=
  a.name = b.name && a.type = b.type && a.qualifiers = b.qualifiers && a.block = b.block

end Variable

/-- A function parameter. -/
structure Parameter where
  /-- Name, if the prototype gives one. -/
  name : Option String
  /-- Type. -/
  type : Ty
  /-- Qualifiers. -/
  qualifiers : QualifierSet
deriving DecidableEq

/-- Direction in which data flows through the parameter; without a qualifier it flows in. -/
def Parameter.direction (p : Parameter) : Direction :=
  p.qualifiers.direction?.getD .in

/-- A function signature. -/
structure Signature where
  /-- Name. -/
  name : String
  /-- Type of the result. -/
  returnType : Ty
  /-- Parameters in order. -/
  parameters : List Parameter
  /-- Condition of the fragment that declares the function. -/
  condition : Condition
  /-- Documentation. -/
  doc : Option String
deriving DecidableEq

namespace Signature

/-- Types of the parameters. -/
def parameterTypes (s : Signature) : List Ty :=
  s.parameters.map Parameter.type

/-- Whether two signatures have equal parameter types. -/
def sameParameters (s t : Signature) : Bool :=
  s.parameterTypes = t.parameterTypes

end Signature

/-- What a declaration introduces. -/
inductive Entity where
  | const (constant : Constant)
  | var (var : Variable)
  | block (block : Block)
  | function (signature : Signature)

/-- Name of what is introduced. -/
def Entity.name : Entity → String
  | .const c => c.name
  | .var v => v.name
  | .block b => b.name
  | .function s => s.name

/-- A declaration. -/
structure Declaration where
  /-- Condition of its fragment. -/
  condition : Condition
  /-- Line of its first token in the whole source. -/
  line : Nat
  /-- What it introduces. -/
  entity : Entity

end GlslPrelude
