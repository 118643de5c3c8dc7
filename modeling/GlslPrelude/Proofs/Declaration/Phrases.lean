import GlslPrelude.Declaration.Parser
import GlslPrelude.Declaration.Printer
import Mathlib.Data.List.Forall2

/-!
# What declarations are written as

A phrase is the text of a declaration, token by token, with the array dimensions that are written in
it. What it declares are entities whose types have the dimensions that are written
(`Phrase.Declares`). Every bracket of a phrase belongs to a dimension. Its other tokens do not
matter here, so values of constants are just lists of tokens, and types just words.
-/

namespace GlslPrelude

/-! ## Phrases -/

/-- An array dimension as it is written. -/
inductive SizePhrase where
  /-- Brackets with nothing between them. -/
  | empty
  /-- An integer literal, with a suffix if it is unsigned. -/
  | literal (value : UInt64) (isUnsigned : Bool)
  /-- The name of a constant. -/
  | constant (name : String)

/-- The tokens of the dimension. -/
def SizePhrase.lexemes : SizePhrase → List Lexeme
  | .empty => [.punct .leftBracket, .punct .rightBracket]
  | .literal value isUnsigned =>
    [.punct .leftBracket, .int value isUnsigned, .punct .rightBracket]
  | .constant name => [.punct .leftBracket, .word name, .punct .rightBracket]

/-- Qualifiers and a type, as they are written. -/
structure TypePhrase where
  /-- Qualifiers. -/
  qualifiers : List String
  /-- The word for the type of the elements, or for the type itself. -/
  word : String
  /-- Dimensions behind the word. -/
  sizes : List SizePhrase

/-- The tokens of the type. -/
def TypePhrase.lexemes (p : TypePhrase) : List Lexeme :=
  p.qualifiers.map .word ++ .word p.word :: p.sizes.flatMap SizePhrase.lexemes

/-- A declared name, as it is written. -/
structure NamePhrase where
  /-- The name. -/
  name : String
  /-- Dimensions behind the name. -/
  sizes : List SizePhrase

/-- The tokens of the name. -/
def NamePhrase.lexemes (p : NamePhrase) : List Lexeme :=
  .word p.name :: p.sizes.flatMap SizePhrase.lexemes

/-- The name of a constant or variable with the value behind it, as they are written. -/
structure DeclaratorPhrase extends NamePhrase where
  /-- Equals sign and value, of a constant. -/
  value : List Lexeme
  /-- No dimensions are written in the value. -/
  leftBracket_not_mem_value : .punct .leftBracket ∉ value

/-- The tokens of the name and the value. -/
def DeclaratorPhrase.lexemes (p : DeclaratorPhrase) : List Lexeme :=
  p.toNamePhrase.lexemes ++ p.value

/-- A parameter as it is written. -/
structure ParameterPhrase where
  /-- Its type. -/
  type : TypePhrase
  /-- Its name, if it has one. -/
  name? : Option NamePhrase

/-- The tokens of the parameter. -/
def ParameterPhrase.lexemes (p : ParameterPhrase) : List Lexeme :=
  p.type.lexemes ++ (p.name?.map NamePhrase.lexemes).getD []

/-- Block members of one type, as they are written. -/
structure MemberPhrase where
  /-- Their type. -/
  type : TypePhrase
  /-- Their names. -/
  names : List NamePhrase

/-- The tokens of some phrases, separated by commas. -/
def commaSeparated {α : Type} (lexemes : α → List Lexeme) (ps : List α) : List Lexeme :=
  [.punct .comma].intercalate (ps.map lexemes)

/-- The tokens of the members. -/
def MemberPhrase.lexemes (p : MemberPhrase) : List Lexeme :=
  p.type.lexemes ++ commaSeparated NamePhrase.lexemes p.names ++ [.punct .semicolon]

/-- A declaration as it is written. -/
inductive Phrase where
  /-- Constants or variables of one type. -/
  | declarators (type : TypePhrase) (names : List DeclaratorPhrase)
  /-- A function. -/
  | function (returnType : TypePhrase) (name : String) (parameters : List ParameterPhrase)
  /-- A function with `void` in place of parameters. -/
  | voidFunction (returnType : TypePhrase) (name : String)
  /-- An interface block. -/
  | block (qualifiers : List String) (name : String) (members : List MemberPhrase)
    (instance? : Option NamePhrase)

/-- The tokens of the declaration. -/
def Phrase.lexemes : Phrase → List Lexeme
  | .declarators type names =>
    type.lexemes ++ commaSeparated DeclaratorPhrase.lexemes names ++ [.punct .semicolon]
  | .function returnType name parameters =>
    returnType.lexemes ++ .word name :: .punct .leftParen ::
      commaSeparated ParameterPhrase.lexemes parameters ++
      [.punct .rightParen, .punct .semicolon]
  | .voidFunction returnType name =>
    returnType.lexemes ++
      [.word name, .punct .leftParen, .word "void", .punct .rightParen, .punct .semicolon]
  | .block qualifiers name members instance? =>
    qualifiers.map .word ++ .word name :: .punct .leftBrace ::
      members.flatMap MemberPhrase.lexemes ++ .punct .rightBrace ::
      (instance?.map NamePhrase.lexemes).getD [] ++ [.punct .semicolon]

/-! ## What phrases declare -/

section Declares

variable (IsConstant : String → Int64 → Prop)

/-- The length that a dimension is written for: a literal or the value that `IsConstant` relates to
a name, from 1 on and below `UInt32.size`; none if the brackets are empty. -/
inductive SizePhrase.Denotes : SizePhrase → ArraySize → Prop
  /-- There is no length. -/
  | empty : Denotes .empty .implicit
  /-- The length is a literal. -/
  | literal {value : UInt64} {isUnsigned : Bool} :
      1 ≤ value.toNat → value.toNat < UInt32.size →
      Denotes (.literal value isUnsigned) (.fixed value.toNat)
  /-- The length is the value of a constant. -/
  | constant {name : String} {i : Int64} {k : Nat} : IsConstant name i → i.toInt = k →
      1 ≤ k → k < UInt32.size → Denotes (.constant name) (.fixed k)

/-- A name of a type is declared: the dimensions of the type are written behind the name and, in
front of it, with the type. -/
structure NamePhrase.Declares (p : NamePhrase) (typeSizes : List SizePhrase) (name : String)
    (type : Ty) : Prop where
  /-- The name is written. -/
  name_eq : name = p.name
  /-- The dimensions are written. -/
  sizes : List.Forall₂ (SizePhrase.Denotes IsConstant) (p.sizes ++ typeSizes) type.sizes

/-- A constant or a variable is declared. -/
def DeclaratorPhrase.Declares (typeSizes : List SizePhrase) (p : DeclaratorPhrase) : Entity → Prop
  | .const c => p.toNamePhrase.Declares IsConstant typeSizes c.name c.type
  | .var v => p.toNamePhrase.Declares IsConstant typeSizes v.name v.type
  | .block _ | .function _ => False

/-- A parameter is declared. -/
structure ParameterPhrase.Declares (p : ParameterPhrase) (parameter : Parameter) : Prop where
  /-- The name is written, if there is one. -/
  name_eq : parameter.name = p.name?.map NamePhrase.name
  /-- The dimensions are written. -/
  sizes : List.Forall₂ (SizePhrase.Denotes IsConstant)
    ((p.name?.map NamePhrase.sizes).getD [] ++ p.type.sizes) parameter.type.sizes

/-- Block members are declared. -/
def MemberPhrase.Declares (p : MemberPhrase) (fields : List (Field Ty)) : Prop :=
  List.Forall₂ (fun name field => name.Declares IsConstant p.type.sizes field.name field.type)
    p.names fields

/-- Entities are declared. -/
inductive Phrase.Declares : Phrase → List Entity → Prop
  /-- Constants or variables. -/
  | declarators {type : TypePhrase} {names : List DeclaratorPhrase} {entities : List Entity} :
      List.Forall₂ (DeclaratorPhrase.Declares IsConstant type.sizes) names entities →
      Declares (.declarators type names) entities
  /-- A function. -/
  | function {returnType : TypePhrase} {parameters : List ParameterPhrase} {f : Signature} :
      List.Forall₂ (SizePhrase.Denotes IsConstant) returnType.sizes f.returnType.sizes →
      List.Forall₂ (ParameterPhrase.Declares IsConstant) parameters f.parameters →
      Declares (.function returnType f.name parameters) [.function f]
  /-- A function without parameters. -/
  | voidFunction {returnType : TypePhrase} {f : Signature} :
      List.Forall₂ (SizePhrase.Denotes IsConstant) returnType.sizes f.returnType.sizes →
      f.parameters = [] →
      Declares (.voidFunction returnType f.name) [.function f]
  /-- An interface block whose members are variables. -/
  | anonymous {qualifiers : List String} {members : List MemberPhrase} {head : Input.Head}
      {b : Block} {groups : List (List (Field Ty))} :
      List.Forall₂ (MemberPhrase.Declares IsConstant) members groups →
      b.fields = groups.flatten →
      Declares (.block qualifiers b.name members none)
        (.block b :: Input.memberVariables head b)
  /-- An interface block that is itself a variable. -/
  | named {qualifiers : List String} {members : List MemberPhrase} {b : Block} {v : Variable}
      {groups : List (List (Field Ty))} {name : NamePhrase} :
      List.Forall₂ (MemberPhrase.Declares IsConstant) members groups →
      b.fields = groups.flatten →
      name.Declares IsConstant [] v.name v.type →
      Declares (.block qualifiers b.name members (some name)) [.block b, .var v]

end Declares

end GlslPrelude
