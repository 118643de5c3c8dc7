import GlslPrelude.Decimal.Reading
import GlslPrelude.Text.Digits
import GlslPrelude.Text.Span
import GlslPrelude.Token.Basic

/-!
# Numeric literals

Integers are written in base ten, in base eight behind a `0` or in base sixteen behind `0x`, and may
have the suffix `u`. A point or an exponent makes a floating-point literal, which may have one of
the suffixes `f` and `lf`.
-/

namespace GlslPrelude

/-- What keeps a text from being cut into tokens. -/
inductive LexFault where
  /-- A block comment is not closed. -/
  | unterminatedComment
  /-- No digits stand behind `0x`, or the number does not fit 64 bits. -/
  | hexadecimal
  /-- A digit behind a leading `0` is not octal, or the number does not fit 64 bits. -/
  | octal
  /-- The number does not fit 64 bits. -/
  | outOfRange
  /-- An exponent has no digits. -/
  | floating
  /-- A literal runs into a letter, digit or underscore. -/
  | suffix
  /-- No token starts with the character. -/
  | unexpectedCharacter
deriving DecidableEq, Repr

/-- Wording of the fault. -/
def LexFault.reason : LexFault → String
  | .unterminatedComment => "unterminated block comment"
  | .hexadecimal => "invalid hexadecimal literal"
  | .octal => "invalid octal literal"
  | .outOfRange => "integer literal out of range"
  | .floating => "invalid floating literal"
  | .suffix => "invalid numeric literal suffix"
  | .unexpectedCharacter => "unexpected character"

namespace Lexeme

/-- Whether the character can continue a name. -/
def continuesName (c : Char) : Bool :=
  c = '_' || c.isAlphanum

/-- Whether the character can start a name. -/
def startsName (c : Char) : Bool :=
  c = '_' || c.isAlpha

/-- A literal, unless the text behind it runs on into a name or number. -/
def finishNumber (lexeme : Lexeme) (rest : List Char) : Except LexFault (Lexeme × List Char) :=
  match rest with
  | c :: _ => if continuesName c then .error .suffix else .ok (lexeme, rest)
  | [] => .ok (lexeme, rest)

/-- The integer literal of a value, with its suffix taken from the text behind the digits. -/
def finishInt (value : Nat) (rest : List Char) : Except LexFault (Lexeme × List Char) :=
  match rest with
  | 'u' :: rest | 'U' :: rest => finishNumber (.int (UInt64.ofNat value) true) rest
  | _ => finishNumber (.int (UInt64.ofNat value) false) rest

/-- Read the digits behind `0x`. -/
def readHex (cs : List Char) : Except LexFault (Lexeme × List Char) :=
  let digits := cs.takeWhile Digits.isHex
  let value := Digits.toNat 16 digits
  if digits.isEmpty || Digits.wordLimit ≤ value then .error .hexadecimal
  else finishInt value (cs.dropWhile Digits.isHex)

/-- The integer literal that a run of decimal digits spells. -/
def readInt (digits rest : List Char) : Except LexFault (Lexeme × List Char) :=
  match digits with
  | '0' :: d :: ds =>
    let value := Digits.toNat 8 (d :: ds)
    if (d :: ds).all Digits.isOctal && value < Digits.wordLimit then finishInt value rest
    else .error .octal
  | _ =>
    let value := Digits.toNat 10 digits
    if value < Digits.wordLimit then finishInt value rest else .error .outOfRange

/-- The digits behind a point, if one comes next. -/
def readFraction (cs : List Char) : Option (List Char) × List Char :=
  match cs with
  | '.' :: cs => (some (cs.takeWhile Char.isDigit), cs.dropWhile Char.isDigit)
  | _ => (none, cs)

/-- An exponent: whether it is negative, and its digits. -/
structure Exponent where
  /-- Whether a minus stands before the digits. -/
  isNegative : Bool
  /-- The digits. -/
  digits : List Char

/-- Value of the exponent. -/
def Exponent.value (e : Exponent) : Int :=
  if e.isNegative then -(Digits.toNat 10 e.digits : Int) else Digits.toNat 10 e.digits

/-- The exponent, if one comes next. -/
def readExponent (cs : List Char) : Option Exponent × List Char :=
  match cs with
  | 'e' :: cs | 'E' :: cs =>
    let (isNegative, cs) : Bool × List Char := match cs with
      | '-' :: cs => (true, cs)
      | '+' :: cs => (false, cs)
      | cs => (false, cs)
    (some { isNegative, digits := cs.takeWhile Char.isDigit }, cs.dropWhile Char.isDigit)
  | _ => (none, cs)

/-- The text behind the suffix of a floating-point literal, if it has one. -/
def skipFloatSuffix (cs : List Char) : List Char :=
  match cs with
  | 'l' :: 'f' :: cs | 'L' :: 'F' :: cs | 'f' :: cs | 'F' :: cs => cs
  | _ => cs

/-- The literal that the parts of a decimal number make: an integer, unless there is a point or an
exponent. -/
def finishDecimal (whole : List Char) (fraction? : Option (List Char)) (exponent? : Option Exponent)
    (rest : List Char) : Except LexFault (Lexeme × List Char) :=
  if fraction?.isNone && exponent?.isNone then readInt whole rest
  else if exponent?.any (·.digits.isEmpty) then .error .floating
  else
    let fraction := fraction?.getD []
    let power := (exponent?.map Exponent.value).getD 0
    let value := Decimal.toDouble (Digits.toNat 10 (whole ++ fraction)) (power - fraction.length)
    finishNumber (.float value) (skipFloatSuffix rest)

/-- Read a number; the text starts with a digit, or with a point and a digit. -/
def readNumber (cs : List Char) : Except LexFault (Lexeme × List Char) :=
  match cs with
  | '0' :: 'x' :: cs | '0' :: 'X' :: cs => readHex cs
  | _ =>
    let fraction := readFraction (cs.dropWhile Char.isDigit)
    let exponent := readExponent fraction.2
    finishDecimal (cs.takeWhile Char.isDigit) fraction.1 exponent.1 exponent.2

/-- A literal keeps the text behind it. -/
theorem finishNumber_eq_ok {l m : Lexeme} {cs rest : List Char}
    (h : finishNumber l cs = .ok (m, rest)) : m = l ∧ rest = cs := by
  unfold finishNumber at h
  grind

/-- An integer literal does not lengthen the text behind it. -/
theorem length_finishInt_le {n : Nat} {l : Lexeme} {cs rest : List Char}
    (h : finishInt n cs = .ok (l, rest)) : rest.length ≤ cs.length := by
  unfold finishInt at h
  split at h <;> have := (finishNumber_eq_ok h).2 <;> grind

/-- Reading hexadecimal digits does not lengthen the text. -/
theorem length_readHex_le {l : Lexeme} {cs rest : List Char}
    (h : readHex cs = .ok (l, rest)) : rest.length ≤ cs.length := by
  unfold readHex at h
  grind [→ length_finishInt_le]

/-- Reading the value of digits does not lengthen the text behind them. -/
theorem length_readInt_le {l : Lexeme} {digits cs rest : List Char}
    (h : readInt digits cs = .ok (l, rest)) : rest.length ≤ cs.length := by
  unfold readInt at h
  grind [→ length_finishInt_le]

/-- Reading the digits behind a point does not lengthen the text. -/
theorem length_readFraction_le (cs : List Char) : (readFraction cs).2.length ≤ cs.length := by
  unfold readFraction
  grind

/-- Reading an exponent does not lengthen the text. -/
theorem length_readExponent_le (cs : List Char) : (readExponent cs).2.length ≤ cs.length := by
  unfold readExponent
  grind

/-- Skipping a suffix does not lengthen the text. -/
theorem length_skipFloatSuffix_le (cs : List Char) : (skipFloatSuffix cs).length ≤ cs.length := by
  unfold skipFloatSuffix
  grind

/-- Putting the parts of a number together does not lengthen the text behind them. -/
theorem length_finishDecimal_le {l : Lexeme} {whole : List Char} {fraction? : Option (List Char)}
    {exponent? : Option Exponent} {cs rest : List Char}
    (h : finishDecimal whole fraction? exponent? cs = .ok (l, rest)) : rest.length ≤ cs.length := by
  unfold finishDecimal at h
  grind [→ length_readInt_le, → finishNumber_eq_ok, length_skipFloatSuffix_le]

/-- A number has at least one character. -/
theorem length_readNumber_lt {l : Lexeme} {c : Char} {cs rest : List Char}
    (hc : c.isDigit ∨ c = '.') (h : readNumber (c :: cs) = .ok (l, rest)) :
    rest.length < (c :: cs).length := by
  unfold readNumber at h
  split at h
  · grind [→ length_readHex_le]
  · grind [→ length_readHex_le]
  · have h₁ := length_finishDecimal_le h
    have h₂ := length_readExponent_le (readFraction ((c :: cs).dropWhile Char.isDigit)).2
    have h₃ : (readFraction ((c :: cs).dropWhile Char.isDigit)).2.length ≤ cs.length := by
      rcases hc with hc | rfl
      · rw [List.dropWhile_cons_of_pos hc]
        exact Nat.le_trans (length_readFraction_le _) (length_dropWhile_le _ _)
      · exact length_dropWhile_le _ _
    grind

end Lexeme

end GlslPrelude
