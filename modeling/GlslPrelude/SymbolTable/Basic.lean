import GlslPrelude.Condition.Overlap
import GlslPrelude.Declaration.Printer

/-!
# Symbol tables

A table gathers declarations by name and is bound to one environment. Every definition keeps its
condition. Definitions of one name must be of one kind; those that can be visible together must be
the same definition, or functions with different parameters. That is checked for all environments,
not only for the table's own.
-/

namespace GlslPrelude

/-- What a name stands for. -/
inductive SymbolKind where
  | const
  | var
  | block
  | function
deriving DecidableEq, Repr

/-- Name of the kind. -/
def SymbolKind.label : SymbolKind → String
  | .const => "constant"
  | .var => "variable"
  | .block => "block"
  | .function => "function"

/-- Kind of what a declaration introduces. -/
def Entity.kind : Entity → SymbolKind
  | .const _ => .const
  | .var _ => .var
  | .block _ => .block
  | .function _ => .function

/-- A definition and the condition under which it exists. -/
structure Guarded (α : Type) where
  /-- The condition. -/
  condition : Condition
  /-- The definition. -/
  value : α

/-- The definitions of one name; signatures carry their own conditions. -/
inductive Entry where
  | constants (definitions : List (Guarded Constant))
  | variables (definitions : List (Guarded Variable))
  | blocks (definitions : List (Guarded Block))
  | functions (signatures : List Signature)

/-- Kind of the definitions. -/
def Entry.kind : Entry → SymbolKind
  | .constants _ => .const
  | .variables _ => .var
  | .blocks _ => .block
  | .functions _ => .function

/-- What is wrong with a declaration beside the earlier ones of its name. -/
inductive TableFault where
  /-- A different definition can be visible in the same environment. -/
  | conflict
  /-- The name was declared as something else. -/
  | kindMismatch (expected found : SymbolKind)
  /-- A signature with the same parameters can be visible in the same environment. -/
  | ambiguous (signature : Signature)
deriving DecidableEq

/-- A declaration that does not go with the earlier ones. -/
structure TableError where
  /-- Declared name. -/
  name : String
  /-- Line of the declaration. -/
  line : Nat
  /-- What is wrong. -/
  fault : TableFault
deriving DecidableEq

/-- Wording of the error. -/
def TableError.message (error : TableError) : String :=
  "line " ++ toString error.line ++ ": " ++
    match error.fault with
    | .conflict =>
      "`" ++ error.name ++
        "` conflicts with a previous definition visible in the same environment"
    | .kindMismatch expected found =>
      "`" ++ error.name ++ "` is declared as a " ++ found.label ++
        " but was previously declared as a " ++ expected.label
    | .ambiguous signature =>
      "`" ++ signature.render ++
        "` has the same parameters as a signature visible in the same environment"

/-- Add a definition to the earlier ones of its name, unless it is there already under the same
condition; `none` if it conflicts with one of them. -/
def addDefinition? {α : Type} (same : α → α → Bool) (new : Guarded α) :
    List (Guarded α) → Option (List (Guarded α))
  | [] => some [new]
  | old :: olds =>
    if same old.value new.value then
      -- the same definition under another condition is kept too: it is visible elsewhere
      if old.condition = new.condition then some (old :: olds)
      else (addDefinition? same new olds).map (old :: ·)
    else if old.condition.overlaps new.condition then none
    else (addDefinition? same new olds).map (old :: ·)

/-- Add a signature to the earlier ones of its name, unless one with the same parameters and
condition is there already; `none` if one with the same parameters can be visible with it. -/
def addSignature? (new : Signature) : List Signature → Option (List Signature)
  | [] => some [new]
  | old :: olds =>
    if old.sameParameters new then
      if old.condition = new.condition then some (old :: olds)
      else if old.condition.overlaps new.condition then none
      else (addSignature? new olds).map (old :: ·)
    else (addSignature? new olds).map (old :: ·)

namespace Entry

/-- The entry of a name that is declared for the first time. -/
def single (condition : Condition) : Entity → Entry
  | .const value => .constants [{ condition, value }]
  | .var value => .variables [{ condition, value }]
  | .block value => .blocks [{ condition, value }]
  | .function signature => .functions [signature]

/-- The entry with another declaration of its name. -/
def insert (entry : Entry) (condition : Condition) (entity : Entity) : Except TableFault Entry :=
  match entry, entity with
  | .constants olds, .const value =>
    match addDefinition? Constant.sameDefinition { condition, value } olds with
    | some definitions => .ok (.constants definitions)
    | none => .error .conflict
  | .variables olds, .var value =>
    match addDefinition? Variable.sameDefinition { condition, value } olds with
    | some definitions => .ok (.variables definitions)
    | none => .error .conflict
  | .blocks olds, .block value =>
    match addDefinition? (fun a b => a = b) { condition, value } olds with
    | some definitions => .ok (.blocks definitions)
    | none => .error .conflict
  | .functions olds, .function signature =>
    match addSignature? signature olds with
    | some signatures => .ok (.functions signatures)
    | none => .error (.ambiguous signature)
  | entry, entity => .error (.kindMismatch entry.kind entity.kind)

end Entry

/-- The builtins of an environment. -/
structure SymbolTable where
  /-- Environment that the table is bound to. -/
  env : Environment
  /-- The names in the order of their first declarations, with their definitions. -/
  entries : List (String × Entry)

namespace SymbolTable

/-- The entries with another declaration. -/
def insertEntry (d : Declaration) :
    List (String × Entry) → Except TableError (List (String × Entry))
  | [] => .ok [(d.entity.name, .single d.condition d.entity)]
  | (name, entry) :: rest =>
    if name = d.entity.name then
      match entry.insert d.condition d.entity with
      | .ok entry => .ok ((name, entry) :: rest)
      | .error fault => .error { name, line := d.line, fault }
    else
      match insertEntry d rest with
      | .ok rest => .ok ((name, entry) :: rest)
      | .error e => .error e

/-- The entries that declarations lead to from given ones. -/
def insertAll (entries : List (String × Entry)) :
    List Declaration → Except TableError (List (String × Entry))
  | [] => .ok entries
  | d :: ds =>
    match insertEntry d entries with
    | .ok entries => insertAll entries ds
    | .error e => .error e

/-- The table of declarations for an environment. -/
def build (env : Environment) (declarations : List Declaration) : Except TableError SymbolTable :=
  match insertAll [] declarations with
  | .ok entries => .ok { env, entries }
  | .error e => .error e

end SymbolTable

end GlslPrelude
