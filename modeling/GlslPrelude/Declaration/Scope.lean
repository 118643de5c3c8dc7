import GlslPrelude.Declaration.Input
import GlslPrelude.Type.Name

/-!
# Scope

What earlier declarations leave for later ones: integer constants, which may stand for array sizes
and values, and interface blocks, which may stand for types. Names, sizes and qualifiers are read in
a scope.
-/

namespace GlslPrelude

/-- The names that declarations may refer to. -/
structure Scope where
  /-- Integer constants, the latest first. -/
  constants : List (String × Int64)
  /-- Interface blocks, the latest first. -/
  blocks : List Block
deriving DecidableEq

namespace Scope

/-- The scope before any declaration. -/
def empty : Scope :=
  { constants := [], blocks := [] }

/-- The scope behind a declaration. -/
def record (scope : Scope) : Entity → Scope
  | .const c =>
    match c.value.toInt? with
    | some i => { scope with constants := (c.name, i) :: scope.constants }
    | none => scope
  | .block b => { scope with blocks := b :: scope.blocks }
  | .var _ | .function _ => scope

/-- Value of the latest integer constant with a given name. -/
def constant? (scope : Scope) (name : String) : Option Int64 :=
  scope.constants.lookup name

/-- The type that a name refers to: a type of the language, else the latest block of that name. -/
def type? (scope : Scope) (name : String) : Option Ty :=
  match Ty.ofName? name with
  | some t => some t
  | none => (scope.blocks.find? (·.name == name)).map Block.type

/-- The number that a token stands for as an array size. -/
def sizeNumber (scope : Scope) : Lexeme → Except ParseCause Nat
  | .int value _ => .ok value.toNat
  | .word name =>
    match scope.constant? name with
    | some i => if i < 0 then .error .negativeSize else .ok i.toInt.toNat
    | none => .error (.unknownSize name)
  | _ => .error .missingSize

/-- The array length that a token stands for. -/
def size (scope : Scope) (lexeme : Lexeme) : Except ParseCause Nat :=
  match scope.sizeNumber lexeme with
  | .error cause => .error cause
  | .ok n => if 0 < n && n < UInt32.size then .ok n else .error .invalidSize

end Scope

namespace Ty

/-- The array with the given dimensions, outermost first, of elements of the type. -/
def arrayOf (t : Ty) (sizes : List ArraySize) : Ty :=
  sizes.foldr (fun s a => .array a s) t

/-- Whether some dimension of the array has no length. -/
def hasImplicitSize : Ty → Bool
  | .array a s => s = .implicit || a.hasImplicitSize
  | _ => false

end Ty

namespace Input

/-- Get stuck. -/
def stuck {α : Type} (cause : ParseCause) (rest : Input) : Except Stuck α :=
  .error { cause, rest }

/-- The input behind a punctuation mark, if one comes next. -/
def skip? (mark : Punct) : Input → Option Input
  | t :: ts => if t.isMark mark then some ts else none
  | [] => none

/-- Read a punctuation mark. -/
def expect (mark : Punct) (ts : Input) : Except Stuck Input :=
  match skip? mark ts with
  | some rest => .ok rest
  | none => stuck (.missingMark mark) ts

/-- The word that comes next, if one does. -/
def word? : Input → Option (String × Input)
  | t :: ts =>
    match t.lexeme with
    | .word w => some (w, ts)
    | _ => none
  | [] => none

/-- Read a word. -/
def expectWord (cause : ParseCause) (ts : Input) : Except Stuck (String × Input) :=
  match word? ts with
  | some result => .ok result
  | none => stuck cause ts

/-- The qualifiers that come next, added to those given. -/
def readQualifiers (qualifiers : QualifierSet) : Input → QualifierSet × Input
  | [] => (qualifiers, [])
  | t :: ts =>
    match t.lexeme with
    | .word w =>
      match Qualifier.ofKeyword? w with
      | some q => readQualifiers (qualifiers.insert q) ts
      | none => (qualifiers, t :: ts)
    | _ => (qualifiers, t :: ts)

/-- Read the array dimensions that come next, outermost first. -/
def readSizes (scope : Scope) : Input → Except Stuck (List ArraySize × Input)
  | [] => .ok ([], [])
  | t :: ts =>
    if t.isMark .leftBracket then
      match ts with
      | [] => stuck .missingSize []
      | u :: us =>
        if u.isMark .rightBracket then
          match readSizes scope us with
          | .ok (sizes, rest) => .ok (.implicit :: sizes, rest)
          | .error e => .error e
        else
          match scope.size u.lexeme with
          | .error cause => stuck cause us
          | .ok n =>
            match us with
            | [] => stuck (.missingMark .rightBracket) []
            | v :: vs =>
              if v.isMark .rightBracket then
                match readSizes scope vs with
                | .ok (sizes, rest) => .ok (.fixed n :: sizes, rest)
                | .error e => .error e
              else stuck (.missingMark .rightBracket) (v :: vs)
    else .ok ([], t :: ts)

/-- Read the array dimensions that come next, of elements of a type. -/
def readArray (scope : Scope) (element : Ty) (ts : Input) : Except Stuck (Ty × Input) :=
  match readSizes scope ts with
  | .ok (sizes, rest) => .ok (element.arrayOf sizes, rest)
  | .error e => .error e

/-- The type that a word before the input names. -/
def resolveType (scope : Scope) (name : String) (ts : Input) : Except Stuck Ty :=
  match scope.type? name with
  | some t => .ok t
  | none => stuck (.unknownType name) ts

/-- Read a type: a word and array dimensions. -/
def readType (cause : ParseCause) (scope : Scope) (ts : Input) : Except Stuck (Ty × Input) :=
  match expectWord cause ts with
  | .error e => .error e
  | .ok (name, rest) =>
    match resolveType scope name rest with
    | .error e => .error e
    | .ok element => readArray scope element rest

/-- Skipping a mark shortens the input. -/
theorem length_skip?_lt {mark : Punct} {ts rest : Input} (h : skip? mark ts = some rest) :
    rest.length < ts.length := by
  unfold skip? at h
  grind

/-- Reading a mark shortens the input. -/
theorem length_expect_lt {mark : Punct} {ts rest : Input} (h : expect mark ts = .ok rest) :
    rest.length < ts.length := by
  unfold expect stuck at h
  grind [→ length_skip?_lt]

/-- A word shortens the input. -/
theorem length_word?_lt {w : String} {ts rest : Input} (h : word? ts = some (w, rest)) :
    rest.length < ts.length := by
  unfold word? at h
  grind

/-- Reading a word shortens the input. -/
theorem length_expectWord_lt {cause : ParseCause} {w : String} {ts rest : Input}
    (h : expectWord cause ts = .ok (w, rest)) : rest.length < ts.length := by
  unfold expectWord stuck at h
  grind [→ length_word?_lt]

/-- Reading qualifiers does not lengthen the input. -/
theorem length_readQualifiers_le (qs : QualifierSet) (ts : Input) :
    (readQualifiers qs ts).2.length ≤ ts.length := by
  fun_induction readQualifiers qs ts <;> grind

/-- Reading dimensions does not lengthen the input. -/
theorem length_readSizes_le {scope : Scope} {sizes : List ArraySize} {ts rest : Input}
    (h : readSizes scope ts = .ok (sizes, rest)) : rest.length ≤ ts.length := by
  fun_induction readSizes scope ts generalizing sizes rest <;> grind [stuck]

/-- Reading an array type does not lengthen the input. -/
theorem length_readArray_le {scope : Scope} {element t : Ty} {ts rest : Input}
    (h : readArray scope element ts = .ok (t, rest)) : rest.length ≤ ts.length := by
  unfold readArray at h
  grind [→ length_readSizes_le]

/-- Reading a type shortens the input. -/
theorem length_readType_lt {cause : ParseCause} {scope : Scope} {t : Ty} {ts rest : Input}
    (h : readType cause scope ts = .ok (t, rest)) : rest.length < ts.length := by
  unfold readType at h
  grind [→ length_expectWord_lt, → length_readArray_le]

end Input

end GlslPrelude
