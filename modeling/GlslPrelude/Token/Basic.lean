import GlslPrelude.Decimal.Format

/-!
# Tokens

The tokens that prelude text consists of. Comments that begin their line are tokens too, because
they document the declaration behind them.
-/

namespace GlslPrelude

/-- A punctuation mark. -/
inductive Punct where
  | leftBrace
  | rightBrace
  | leftParen
  | rightParen
  | leftBracket
  | rightBracket
  | semicolon
  | comma
  | equal
  | minus
  | plus
deriving DecidableEq, Repr

namespace Punct

/-- The mark as a character. -/
def char : Punct → Char
  | .leftBrace => '\x7b'
  | .rightBrace => '\x7d'
  | .leftParen => '('
  | .rightParen => ')'
  | .leftBracket => '['
  | .rightBracket => ']'
  | .semicolon => ';'
  | .comma => ','
  | .equal => '='
  | .minus => '-'
  | .plus => '+'

/-- The mark that a character is. -/
def ofChar? : Char → Option Punct
  | '\x7b' => some .leftBrace
  | '\x7d' => some .rightBrace
  | '(' => some .leftParen
  | ')' => some .rightParen
  | '[' => some .leftBracket
  | ']' => some .rightBracket
  | ';' => some .semicolon
  | ',' => some .comma
  | '=' => some .equal
  | '-' => some .minus
  | '+' => some .plus
  | _ => none

/-- The characters of the marks are read back. -/
@[simp]
theorem ofChar?_char (p : Punct) : ofChar? p.char = some p := by
  cases p <;> rfl

/-- Only its own character is read as a mark. -/
theorem ofChar?_eq_some_iff {c : Char} {p : Punct} : ofChar? c = some p ↔ c = p.char := by
  constructor
  · intro h
    unfold ofChar? at h
    split at h <;> simp_all <;> subst h <;> rfl
  · rintro rfl
    exact ofChar?_char p

end Punct

/-- What a token is. -/
inductive Lexeme where
  /-- A name or keyword. -/
  | word (text : String)
  /-- An integer literal, with a suffix if it is unsigned. -/
  | int (value : UInt64) (isUnsigned : Bool)
  /-- A floating-point literal. -/
  | float (value : Double)
  /-- A punctuation mark. -/
  | punct (mark : Punct)
  /-- A comment that begins its line, without its two slashes. -/
  | doc (text : String)
deriving DecidableEq

namespace Lexeme

/-- Floating-point literals are written positionally unless they are very small or very large. -/
def floatFormat : Decimal.Format :=
  { zero := "0.0", leadingZero := true, trailingZero := true, positional := some (-4, 16) }

/-- Text of the token. -/
def render : Lexeme → String
  | .word text => text
  | .int value isUnsigned => toString value.toNat ++ if isUnsigned then "u" else ""
  | .float value => floatFormat.render value
  | .punct mark => String.singleton mark.char
  | .doc text => "//" ++ text

end Lexeme

/-- A token and its line. -/
structure Token where
  /-- What the token is. -/
  lexeme : Lexeme
  /-- Line that the token begins on, counted from 1 in the text read. -/
  line : Nat
deriving DecidableEq

end GlslPrelude
