import GlslPrelude.Overload
import GlslPrelude.SymbolTable.Basic

/-!
# Queries

What a symbol table answers. Every query sees only the definitions whose conditions hold in the
environment of the table.
-/

namespace GlslPrelude

/-- A visible symbol. -/
inductive Symbol where
  | const (constant : Constant)
  | var (var : Variable)
  | block (block : Block)
  /-- A function with its visible signatures in declaration order. -/
  | function (name : String) (overloads : List Signature)

namespace Symbol

/-- Name of the symbol. -/
def name : Symbol → String
  | .const c => c.name
  | .var v => v.name
  | .block b => b.name
  | .function name _ => name

/-- Kind of the symbol. -/
def kind : Symbol → SymbolKind
  | .const _ => .const
  | .var _ => .var
  | .block _ => .block
  | .function _ _ => .function

/-- Declarations of the symbol, one prototype a line for functions. -/
def render : Symbol → String
  | .const c => c.render
  | .var v => v.render
  | .block b => b.render
  | .function _ overloads => "\n".intercalate (overloads.map (·.render ++ ";"))

/-- Whether a scalar kind occurs in a type of the symbol. -/
def mentions (kind : Scalar) : Symbol → Bool
  | .const c => c.type.mentions kind
  | .var v => v.type.mentions kind
  | .block b => b.type.mentions kind
  | .function _ overloads =>
    overloads.any fun s => s.returnType.mentions kind || s.parameterTypes.any (Ty.mentions kind)

end Symbol

/-- What an expression reads under a name: a variable or a constant, with its condition. -/
inductive Readable where
  | const (constant : Constant) (condition : Condition)
  | var (var : Variable) (condition : Condition)

namespace Readable

/-- Name. -/
def name : Readable → String
  | .const c _ => c.name
  | .var v _ => v.name

/-- Type. -/
def type : Readable → Ty
  | .const c _ => c.type
  | .var v _ => v.type

/-- Condition of the definition. -/
def condition : Readable → Condition
  | .const _ p | .var _ p => p

/-- Value, of a constant. -/
def value? : Readable → Option ConstValue
  | .const c _ => some c.value
  | .var _ _ => none

/-- Whether it is a constant. -/
def isConst : Readable → Bool
  | .const _ _ => true
  | .var _ _ => false

end Readable

namespace SymbolTable

/-- The first definition that is visible. -/
def firstVisible? {α : Type} (t : SymbolTable) (definitions : List (Guarded α)) :
    Option (Guarded α) :=
  definitions.find? fun d => d.condition.eval t.env

/-- The signatures that are visible. -/
def visibleSignatures (t : SymbolTable) (signatures : List Signature) : List Signature :=
  signatures.filter fun s => s.condition.eval t.env

/-- The definitions of a name. -/
def entry? (t : SymbolTable) (name : String) : Option Entry :=
  t.entries.lookup name

/-- The visible symbol of an entry. -/
def visible? (t : SymbolTable) (name : String) : Entry → Option Symbol
  | .constants definitions => (t.firstVisible? definitions).map (.const ·.value)
  | .variables definitions => (t.firstVisible? definitions).map (.var ·.value)
  | .blocks definitions => (t.firstVisible? definitions).map (.block ·.value)
  | .functions signatures =>
    match t.visibleSignatures signatures with
    | [] => none
    | overloads => some (.function name overloads)

/-- The visible symbol of a name. -/
def lookup? (t : SymbolTable) (name : String) : Option Symbol :=
  (t.entry? name).bind (t.visible? name)

/-- The visible constant of a name. -/
def constant? (t : SymbolTable) (name : String) : Option Constant :=
  match t.entry? name with
  | some (.constants definitions) => (t.firstVisible? definitions).map Guarded.value
  | _ => none

/-- The visible variable or constant of a name. -/
def readable? (t : SymbolTable) (name : String) : Option Readable :=
  match t.entry? name with
  | some (.constants definitions) =>
    (t.firstVisible? definitions).map fun d => .const d.value d.condition
  | some (.variables definitions) =>
    (t.firstVisible? definitions).map fun d => .var d.value d.condition
  | _ => none

/-- The visible interface block of a name. -/
def block? (t : SymbolTable) (name : String) : Option Block :=
  match t.entry? name with
  | some (.blocks definitions) => (t.firstVisible? definitions).map Guarded.value
  | _ => none

/-- The visible signatures of a function, in declaration order. -/
def overloads (t : SymbolTable) (name : String) : List Signature :=
  match t.entry? name with
  | some (.functions signatures) => t.visibleSignatures signatures
  | _ => []

/-- The signature that a call goes to. -/
def resolveCall (t : SymbolTable) (name : String) (arguments : List Ty) :
    Except ResolveError Signature :=
  Overload.resolve (t.overloads name) name arguments

/-- The visible symbols, in declaration order. -/
def symbols (t : SymbolTable) : List Symbol :=
  t.entries.filterMap fun (name, entry) => t.visible? name entry

/-- Number of visible symbols. -/
def size (t : SymbolTable) : Nat :=
  t.symbols.length

/-- Whether no symbol is visible. -/
def isEmpty (t : SymbolTable) : Bool :=
  t.symbols.isEmpty

end SymbolTable

end GlslPrelude
