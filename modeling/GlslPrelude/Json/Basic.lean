import GlslPrelude.Text.Digits

/-!
# JSON values

JSON values as they stand in a text: members keep their order and may repeat a name, numbers keep
their spelling, and strings keep escapes that stand for half a character.
-/

namespace GlslPrelude

/-- The code units of a JSON string: code points, and halves of code points from escapes. -/
abbrev JsonString := List Nat

/-- A JSON value. -/
inductive Json where
  | null
  | bool (value : Bool)
  /-- A number as it is spelled. -/
  | number (text : List Char)
  | string (units : JsonString)
  | array (elements : List Json)
  | object (members : List (JsonString × Json))

namespace JsonString

/-- Whether the unit is the first half of a code point. -/
def isHigh (unit : Nat) : Bool :=
  0xd800 ≤ unit && unit < 0xdc00

/-- Whether the unit is the second half of a code point. -/
def isLow (unit : Nat) : Bool :=
  0xdc00 ≤ unit && unit < 0xe000

/-- The characters that the units make; `none` if a half stands alone. -/
def chars? : JsonString → Option (List Char)
  | [] => some []
  | [unit] => if isHigh unit || isLow unit then none else some [Char.ofNat unit]
  | unit :: next :: rest =>
    if isLow unit then none
    else if isHigh unit then
      if isLow next then
        (chars? rest).map (Char.ofNat (0x10000 + (unit - 0xd800) * 0x400 + (next - 0xdc00)) :: ·)
      else none
    else (chars? (next :: rest)).map (Char.ofNat unit :: ·)

/-- The text that the units make; `none` if a half of a code point stands alone. -/
def text? (units : JsonString) : Option String :=
  (chars? units).map String.ofList

/-- The code points of a text. -/
def units (text : String) : JsonString :=
  text.toList.map Char.toNat

end JsonString

namespace Json

/-- The string with a text. -/
def ofString (text : String) : Json :=
  .string (JsonString.units text)

/-- Members with the code points of their names. -/
def withUnits (members : List (String × Json)) : List (JsonString × Json) :=
  members.map fun (name, value) => (JsonString.units name, value)

/-- The object whose members have these names. -/
def ofMembers (members : List (String × Json)) : Json :=
  .object (withUnits members)

/-- Whether the character is JSON white space. -/
def isSpace (c : Char) : Bool :=
  c = ' ' || c = '\t' || c = '\n' || c = '\r'

/-- The unit that a letter behind a backslash stands for. -/
def escape? : Char → Option Nat
  | '"' => some 0x22
  | '\\' => some 0x5c
  | '/' => some 0x2f
  | 'b' => some 0x08
  | 'f' => some 0x0c
  | 'n' => some 0x0a
  | 'r' => some 0x0d
  | 't' => some 0x09
  | _ => none

/-- The value of a number that is spelled with digits only and fits 64 bits. -/
def word? : Json → Option UInt64
  | .number text =>
    let value := Digits.toNat 10 text
    if text.all Char.isDigit && value < Digits.wordLimit then some (UInt64.ofNat value) else none
  | _ => none

end Json

end GlslPrelude
