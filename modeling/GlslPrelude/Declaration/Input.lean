import GlslPrelude.Declaration.Basic
import GlslPrelude.Fragment.Basic
import GlslPrelude.Text.Blank
import GlslPrelude.Token.Lexer

/-!
# Input of the declaration reader

Declarations are read from tokens that carry the comments right before them, so that comments can be
documentation and are invisible otherwise. A reader that gets stuck says why and where.
-/

namespace GlslPrelude

/-- A token that is no comment, with the comments right before it. -/
structure Documented where
  /-- Comments that begin their lines, without their slashes. -/
  comments : List String
  /-- What the token is. -/
  lexeme : Lexeme
  /-- Line of the token in its fragment. -/
  line : Nat

namespace Documented

/-- Whether the token is a given punctuation mark. -/
def isMark (t : Documented) (mark : Punct) : Bool :=
  match t.lexeme with
  | .punct p => p = mark
  | _ => false

/-- One line of documentation: the comment without one space at its start and blanks at its end. -/
def docLine (comment : String) : String :=
  match comment.toList with
  | ' ' :: cs => String.ofList (Text.trimEnd cs)
  | cs => String.ofList (Text.trimEnd cs)

/-- The documentation that the comments before the token make. -/
def doc (t : Documented) : Option String :=
  if t.comments.isEmpty then none else some ("\n".intercalate (t.comments.map docLine))

end Documented

/-- What a reader of declarations has left to read. -/
abbrev Input := List Documented

namespace Input

/-- The input with one more token in front; a comment joins the comments of the next token. -/
def cons (token : Token) (rest : Input) : Input :=
  match token.lexeme, rest with
  | .doc comment, next :: rest => { next with comments := comment :: next.comments } :: rest
  | .doc _, [] => []
  | lexeme, rest => { comments := [], lexeme, line := token.line } :: rest

/-- The input that consists of the given tokens; comments behind the last of the others count for
nothing. -/
def ofTokens (tokens : List Token) : Input :=
  tokens.foldr cons []

end Input

/-- Why a declaration cannot be read. -/
inductive ParseCause where
  | missingType
  | missingName
  | missingParameterType
  | missingFieldType
  | missingFieldName
  | missingMark (mark : Punct)
  | missingInitializer
  | initializerMismatch
  | initializerOfVariable
  | unsizedParameter
  | unterminatedBlock
  | unsizedField
  | unknownType (name : String)
  | missingSize
  | unknownSize (name : String)
  | negativeSize
  | invalidSize
  | literalOutOfRange
  | unknownConstant (name : String)
  | missingLiteral
  | negation
deriving DecidableEq

/-- Wording of the cause. -/
def ParseCause.reason : ParseCause → String
  | .missingType => "expected a type name"
  | .missingName => "expected a declaration name"
  | .missingParameterType => "expected a parameter type"
  | .missingFieldType => "expected a field type"
  | .missingFieldName => "expected a field name"
  | .missingMark mark => "expected `" ++ String.singleton mark.char ++ "`"
  | .missingInitializer => "constant without initializer"
  | .initializerMismatch => "initializer does not match the declared type"
  | .initializerOfVariable => "initializer on a non-constant declaration"
  | .unsizedParameter => "unsized array parameter"
  | .unterminatedBlock => "unterminated interface block"
  | .unsizedField => "unsized array field followed by a sized field"
  | .unknownType name => "unknown type `" ++ name ++ "`"
  | .missingSize => "expected an array size"
  | .unknownSize name => "unknown array size constant `" ++ name ++ "`"
  | .negativeSize => "negative array size"
  | .invalidSize => "invalid array size"
  | .literalOutOfRange => "integer literal out of range"
  | .unknownConstant name => "unknown constant `" ++ name ++ "`"
  | .missingLiteral => "expected a literal initializer"
  | .negation => "cannot negate this literal"

/-- A reader that cannot go on. -/
structure Stuck where
  /-- Why it cannot. -/
  cause : ParseCause
  /-- What it has left to read. -/
  rest : Input

/-- What is wrong with the text of a fragment. -/
inductive ParseFault where
  /-- The text cannot be cut into tokens. -/
  | lexical (fault : LexFault)
  /-- A declaration cannot be read, and what stands where the reader got stuck. -/
  | stuck (cause : ParseCause) (found : Option Lexeme)

/-- Wording of the fault. -/
def ParseFault.reason : ParseFault → String
  | .lexical fault => fault.reason
  | .stuck cause (some lexeme) => cause.reason ++ " (found `" ++ lexeme.render ++ "`)"
  | .stuck cause none => cause.reason ++ " (found end of input)"

/-- Prelude text that declares nothing. -/
structure ParseFailure where
  /-- Line in the whole source. -/
  line : Nat
  /-- The line without blanks at its ends. -/
  text : String
  /-- What is wrong. -/
  fault : ParseFault

namespace ParseFailure

/-- A fault on a line of a fragment, counted from 1. -/
def inFragment (fragment : Fragment) (line : Nat) (fault : ParseFault) : ParseFailure :=
  { line := fragment.line + (line - 1)
    text := String.ofList (Text.trim (fragment.lines[line - 1]?.getD []))
    fault }

/-- Wording of the failure. -/
def message (failure : ParseFailure) : String :=
  "line " ++ toString failure.line ++ ": " ++ failure.fault.reason ++ ": `" ++ failure.text ++ "`"

end ParseFailure

end GlslPrelude
