import GlslPrelude.Text.Digits
import GlslPrelude.Text.Span

/-!
# Tokens of conditions

The characters behind `#if` are cut into words, decimal numbers, operators and parentheses; spaces,
tabs and carriage returns only separate them.
-/

namespace GlslPrelude

namespace Condition

/-- Why the text of a condition is no condition. -/
inductive Malformation where
  /-- A character that starts no token. -/
  | unexpectedCharacter
  /-- A number that does not fit an unsigned 64-bit word. -/
  | numberOutOfRange
  /-- Something follows the condition. -/
  | trailingTokens
  /-- An open parenthesis is not closed. -/
  | missingParenthesis
  /-- No name follows `defined`. -/
  | missingName
  /-- An operator stands where an operand is due. -/
  | unexpectedOperator
  /-- The text ends where an operand is due. -/
  | unexpectedEnd
deriving DecidableEq, Repr

/-- Wording of the reason. -/
def Malformation.reason : Malformation → String
  | .unexpectedCharacter => "unexpected character"
  | .numberOutOfRange => "integer literal out of range"
  | .trailingTokens => "trailing tokens"
  | .missingParenthesis => "missing closing parenthesis"
  | .missingName => "expected a macro name after `defined`"
  | .unexpectedOperator => "unexpected operator"
  | .unexpectedEnd => "unexpected end of condition"

/-- A token of a condition. -/
inductive Token where
  /-- A macro name or `defined`. -/
  | word (text : String)
  /-- A decimal number. -/
  | number (value : Nat)
  /-- The operator `||`. -/
  | or
  /-- The operator `&&`. -/
  | and
  /-- The operator `!`. -/
  | not
  /-- An opening parenthesis. -/
  | leftParen
  /-- A closing parenthesis. -/
  | rightParen
deriving DecidableEq, Repr

/-- Whether the character separates tokens. -/
def isSeparator (c : Char) : Bool :=
  c = ' ' || c = '\t' || c = '\r'

/-- Whether the character can start a word. -/
def startsWord (c : Char) : Bool :=
  c = '_' || c.isAlpha

/-- Whether the character can continue a word. -/
def continuesWord (c : Char) : Bool :=
  c = '_' || c.isAlphanum

/-- The tokens of a text. -/
def tokenize : List Char → Except Malformation (List Token)
  | [] => .ok []
  | '(' :: cs => return .leftParen :: (← tokenize cs)
  | ')' :: cs => return .rightParen :: (← tokenize cs)
  | '!' :: cs => return .not :: (← tokenize cs)
  | '|' :: '|' :: cs => return .or :: (← tokenize cs)
  | '&' :: '&' :: cs => return .and :: (← tokenize cs)
  | c :: cs =>
    if isSeparator c then tokenize cs
    else if c.isDigit then
      let value := Digits.toNat 10 (c :: cs.takeWhile Char.isDigit)
      if value < Digits.wordLimit then
        return .number value :: (← tokenize (cs.dropWhile Char.isDigit))
      else .error .numberOutOfRange
    else if startsWord c then
      return .word (String.ofList (c :: cs.takeWhile continuesWord)) ::
        (← tokenize (cs.dropWhile continuesWord))
    else .error .unexpectedCharacter
termination_by cs => cs.length
decreasing_by all_goals grind

/-- A text without characters has no tokens. -/
@[simp]
theorem tokenize_nil : tokenize [] = .ok [] := by
  rw [tokenize]

end Condition

end GlslPrelude
