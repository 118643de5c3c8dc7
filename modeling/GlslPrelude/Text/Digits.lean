/-!
# Digits

Numerals in a positional notation: the value of a list of digits, and the digits of a value.
-/

namespace GlslPrelude

namespace Digits

/-- Value of a digit character; letters stand for ten and more, in either case. -/
def value (c : Char) : Nat :=
  if c.isDigit then c.toNat - '0'.toNat
  else if 'a' ≤ c then c.toNat - 'a'.toNat + 10
  else c.toNat - 'A'.toNat + 10

/-- Whether the character is one of `0` to `7`. -/
def isOctal (c : Char) : Bool :=
  '0' ≤ c && c ≤ '7'

/-- Whether the character is a hexadecimal digit. -/
def isHex (c : Char) : Bool :=
  c.isDigit || ('a' ≤ c && c ≤ 'f') || ('A' ≤ c && c ≤ 'F')

/-- Value of a numeral in the given base, most significant digit first. -/
def toNat (base : Nat) (digits : List Char) : Nat :=
  digits.foldl (fun n c => n * base + value c) 0

/-- Least number that does not fit an unsigned 64-bit word. -/
def wordLimit : Nat :=
  UInt64.size

end Digits

end GlslPrelude
