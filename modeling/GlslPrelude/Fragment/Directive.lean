import GlslPrelude.Condition.Parser
import GlslPrelude.Text.Blank

/-!
# Directives

The lines that open, continue and close conditional blocks of the prelude text. A line is a
directive if its first visible character is `#`; a word of letters, digits and underscores names it.
-/

namespace GlslPrelude

/-- A line that opens, continues or closes a conditional block. -/
inductive Directive where
  /-- Opens a block under a condition: `#if`, `#ifdef` or `#ifndef`. -/
  | opening (condition : Condition)
  /-- Starts the next branch of the innermost block, under a condition: `#elif`. -/
  | alternative (condition : Condition)
  /-- Starts the last branch of the innermost block: `#else`. -/
  | otherwise
  /-- Closes the innermost block: `#endif`. -/
  | closing
deriving DecidableEq

/-- What is wrong with the directives of a text. -/
inductive DirectiveFault where
  /-- The condition of the directive cannot be read. -/
  | condition (error : ConditionError)
  /-- No block is open. -/
  | unbalanced (directive : String)
  /-- The last branch of the block has already begun. -/
  | afterElse (directive : String)
  /-- The block is not closed before the end of the text. -/
  | unterminated
  /-- No directive has this name. -/
  | unknownDirective (name : String)
deriving DecidableEq

/-- A fault and the number of its line, counted from 1. -/
structure DirectiveError where
  /-- Line of the directive. -/
  line : Nat
  /-- What is wrong. -/
  fault : DirectiveFault
deriving DecidableEq

/-- Wording of the error. -/
def DirectiveError.message (error : DirectiveError) : String :=
  "line " ++ toString error.line ++ ": " ++
    match error.fault with
    | .condition e => e.message
    | .unbalanced directive => "#" ++ directive ++ " without a matching #if"
    | .afterElse directive => "#" ++ directive ++ " after #else"
    | .unterminated => "#if is never closed"
    | .unknownDirective name => "unknown directive #" ++ name

namespace Directive

/-- The text behind the `#` of a directive line; `none` for all other lines. -/
def body? (line : List Char) : Option (List Char) :=
  match Text.trimStart line with
  | '#' :: rest => some rest
  | _ => none

/-- The condition of `#if`. -/
def readCondition (text : List Char) : Except DirectiveFault Condition :=
  (Condition.parse (String.ofList text)).mapError .condition

/-- The flag that `#ifdef` and `#ifndef` name. -/
def readMacro (text : List Char) : Except DirectiveFault Condition :=
  let name := String.ofList (Text.trim text)
  match Flag.ofMacroName? name with
  | some f => .ok (.flag f)
  | none => .error (.condition (.unknownMacro name))

/-- Read the text behind the `#` of a directive line. -/
def read (body : List Char) : Except DirectiveFault Directive :=
  let body := Text.trimStart (Text.trimEnd body)
  let name := String.ofList (body.takeWhile Condition.continuesWord)
  let rest := body.dropWhile Condition.continuesWord
  match name with
  | "if" => (readCondition rest).map .opening
  | "ifdef" => (readMacro rest).map .opening
  | "ifndef" => (readMacro rest).map fun p => .opening p.negate
  | "elif" => (readCondition rest).map .alternative
  | "else" => .ok .otherwise
  | "endif" => .ok .closing
  | _ => .error (.unknownDirective name)

end Directive

end GlslPrelude
