import GlslPrelude.SymbolTable.Basic

/-!
# Equality of tables

Tables are equal if their environments are, and every name has equal definitions in the same order,
documentation included. The order of the names does not matter.
-/

namespace GlslPrelude

instance {α : Type} [BEq α] : BEq (Guarded α) :=
  ⟨fun a b => a.condition = b.condition && a.value == b.value⟩

namespace Entry

/-- Whether two entries hold equal definitions in the same order. -/
def beq : Entry → Entry → Bool
  | .constants as, .constants bs => as == bs
  | .variables as, .variables bs => as == bs
  | .blocks as, .blocks bs => as == bs
  | .functions as, .functions bs => as = bs
  | _, _ => false

instance : BEq Entry := ⟨beq⟩

end Entry

namespace SymbolTable

/-- Whether two tables are equal. -/
def beq (a b : SymbolTable) : Bool :=
  a.env = b.env && a.entries.length = b.entries.length &&
    a.entries.all fun (name, entry) => (b.entries.lookup name).any (entry == ·)

instance : BEq SymbolTable := ⟨beq⟩

end SymbolTable

end GlslPrelude
