import GlslPrelude.Declaration.Parser
import GlslPrelude.Fragment.Split
import GlslPrelude.SymbolTable.Basic

/-!
# Tables of a text

The whole way from prelude text to the table of an environment: the fragments that are active in the
environment are read one after the other, and their declarations are gathered. Text that is not
active is never read, so its constants size no arrays.
-/

namespace GlslPrelude

/-- Why a text makes no table. -/
inductive BuildError where
  /-- The directives are wrong. -/
  | directive (error : DirectiveError)
  /-- A fragment cannot be read. -/
  | parse (failure : ParseFailure)
  /-- The declarations do not go together. -/
  | table (error : TableError)

/-- Wording of the error. -/
def BuildError.message : BuildError → String
  | .directive e => "malformed directive: " ++ e.message
  | .parse e => "malformed declaration: " ++ e.message
  | .table e => "inconsistent declarations: " ++ e.message

namespace SymbolTable

/-- The table that some fragments make for an environment. -/
def ofFragments (env : Environment) (fragments : List Fragment) : Except BuildError SymbolTable :=
  match Fragment.parseAll .empty fragments with
  | .error e => .error (.parse e)
  | .ok declarations => (build env declarations).mapError .table

/-- The table that the active part of a text makes for an environment. -/
def ofSource (source : String) (env : Environment) : Except BuildError SymbolTable :=
  match Fragment.evaluate source.toList env with
  | .error e => .error (.directive e)
  | .ok fragments => ofFragments env fragments

/-- The table that all of a text makes for an environment, the inactive part included. -/
def ofWholeSource (source : String) (env : Environment) : Except BuildError SymbolTable :=
  match Fragment.split source.toList with
  | .error e => .error (.directive e)
  | .ok fragments => ofFragments env fragments

end SymbolTable

end GlslPrelude
