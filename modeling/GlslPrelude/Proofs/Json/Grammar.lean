import GlslPrelude.Json.Basic

/-!
# The grammar of JSON

What spells a JSON value: `Json.Spells` says which texts do, white space in front of the value and
between its tokens included. The code points of a text make the text again
(`JsonString.text?_units`), so a string has its text whichever way the characters are spelled.
-/

namespace GlslPrelude

namespace JsonString

/-- A character is no half of a code point. -/
theorem isHigh_toNat (c : Char) : isHigh c.toNat = false ∧ isLow c.toNat = false := by
  have hvalid : c.toNat < 0xd800 ∨ 0xdfff < c.toNat ∧ c.toNat < 0x110000 := c.valid
  simp only [isHigh, isLow]
  grind

/-- Code points make their characters. -/
theorem chars?_map_toNat (cs : List Char) : chars? (cs.map Char.toNat) = some cs := by
  induction cs with
  | nil => rfl
  | cons c cs ih =>
      obtain ⟨hhigh, hlow⟩ := isHigh_toNat c
      cases cs with
      | nil => simp [chars?, hhigh, hlow]
      | cons d cs =>
          rw [List.map_cons] at ih
          simp [chars?, hhigh, hlow, ih]

/-- The code points of a text make the text. -/
theorem text?_units (text : String) : text? (units text) = some text := by
  rw [text?, units, chars?_map_toNat, Option.map_some, String.ofList_toList]

end JsonString

namespace Json

/-- A text of white space. -/
def IsBlank (text : List Char) : Prop :=
  ∀ c ∈ text, isSpace c = true

/-- There may be no white space. -/
theorem isBlank_nil : IsBlank [] :=
  fun _ h => absurd h List.not_mem_nil

/-- A run of at least one digit. -/
def IsDigits (text : List Char) : Prop :=
  text ≠ [] ∧ ∀ c ∈ text, c.isDigit = true

/-- The whole part of a number. -/
inductive IsWhole : List Char → Prop
  | zero : IsWhole ['0']
  | digits {c : Char} {text : List Char} : c ≠ '0' → IsDigits (c :: text) → IsWhole (c :: text)

/-- The fraction of a number, which may be missing. -/
inductive IsFraction : List Char → Prop
  | none : IsFraction []
  | digits {text : List Char} : IsDigits text → IsFraction ('.' :: text)

/-- The exponent of a number, which may be missing, and its sign as well. -/
inductive IsExponent : List Char → Prop
  | none : IsExponent []
  | unsigned {e : Char} {text : List Char} :
    e = 'e' ∨ e = 'E' → IsDigits text → IsExponent (e :: text)
  | signed {e sign : Char} {text : List Char} :
    e = 'e' ∨ e = 'E' → sign = '+' ∨ sign = '-' → IsDigits text → IsExponent (e :: sign :: text)

/-- A number. -/
inductive IsNumber : List Char → Prop
  | positive {whole fraction exponent : List Char} :
    IsWhole whole → IsFraction fraction → IsExponent exponent →
    IsNumber (whole ++ fraction ++ exponent)
  | negative {whole fraction exponent : List Char} :
    IsWhole whole → IsFraction fraction → IsExponent exponent →
    IsNumber ('-' :: (whole ++ fraction ++ exponent))

/-- What stands between the quotes of a string. -/
inductive SpellsString : List Char → JsonString → Prop
  | nil : SpellsString [] []
  /-- A character that stands for itself. -/
  | char {c : Char} {text : List Char} {units : JsonString} :
    0x20 ≤ c.toNat → c ≠ '"' → c ≠ '\\' → SpellsString text units →
    SpellsString (c :: text) (c.toNat :: units)
  /-- A letter behind a backslash. -/
  | escape {c : Char} {unit : Nat} {text : List Char} {units : JsonString} :
    escape? c = some unit → SpellsString text units →
    SpellsString ('\\' :: c :: text) (unit :: units)
  /-- A unit that is given by four hexadecimal digits. -/
  | code {a b c d : Char} {text : List Char} {units : JsonString} :
    [a, b, c, d].all Digits.isHex = true → SpellsString text units →
    SpellsString ('\\' :: 'u' :: a :: b :: c :: d :: text) (Digits.toNat 16 [a, b, c, d] :: units)

/-- The text has no quotes, no backslashes and no control characters. -/
def IsPlain (text : List Char) : Prop :=
  ∀ c ∈ text, 0x20 ≤ c.toNat ∧ c ≠ '"' ∧ c ≠ '\\'

instance (text : List Char) : Decidable (IsPlain text) :=
  List.decidableBAll _ text

/-- A plain text spells its code points. -/
theorem IsPlain.spellsString {text : List Char} (h : IsPlain text) :
    SpellsString text (text.map Char.toNat) := by
  induction text with
  | nil => exact .nil
  | cons c cs ih =>
      obtain ⟨⟨hcontrol, hquote, hbackslash⟩, hcs⟩ := List.forall_mem_cons.1 h
      exact .char hcontrol hquote hbackslash (ih hcs)

mutual

/-- The text spells the value, behind white space. -/
inductive Spells : List Char → Json → Prop
  | nullWord {space : List Char} : IsBlank space → Spells (space ++ "null".toList) .null
  | trueWord {space : List Char} : IsBlank space → Spells (space ++ "true".toList) (.bool true)
  | falseWord {space : List Char} : IsBlank space → Spells (space ++ "false".toList) (.bool false)
  | number {space text : List Char} :
    IsBlank space → IsNumber text → Spells (space ++ text) (.number text)
  | string {space text : List Char} {units : JsonString} :
    IsBlank space → SpellsString text units →
    Spells (space ++ '"' :: text ++ ['"']) (.string units)
  | emptyArray {space inside : List Char} :
    IsBlank space → IsBlank inside → Spells (space ++ '[' :: inside ++ [']']) (.array [])
  | array {space text : List Char} {elements : List Json} :
    IsBlank space → SpellsElements text elements → Spells (space ++ '[' :: text) (.array elements)
  | emptyObject {space inside : List Char} :
    IsBlank space → IsBlank inside → Spells (space ++ '\x7b' :: inside ++ ['\x7d']) (.object [])
  | object {space text : List Char} {members : List (JsonString × Json)} :
    IsBlank space → SpellsMembers text members →
    Spells (space ++ '\x7b' :: text) (.object members)

/-- The text spells the elements of an array, at least one, and the closing bracket. -/
inductive SpellsElements : List Char → List Json → Prop
  | last {text space : List Char} {value : Json} :
    Spells text value → IsBlank space → SpellsElements (text ++ space ++ [']']) [value]
  | cons {text space more : List Char} {value : Json} {values : List Json} :
    Spells text value → IsBlank space → SpellsElements more values →
    SpellsElements (text ++ space ++ ',' :: more) (value :: values)

/-- The text spells the members of an object, at least one, and the closing brace. -/
inductive SpellsMembers : List Char → List (JsonString × Json) → Prop
  | last {front name behind text space : List Char} {units : JsonString} {value : Json} :
    IsBlank front → SpellsString name units → IsBlank behind → Spells text value → IsBlank space →
    SpellsMembers (front ++ '"' :: name ++ '"' :: behind ++ ':' :: text ++ space ++ ['\x7d'])
      [(units, value)]
  | cons {front name behind text space more : List Char} {units : JsonString} {value : Json}
      {members : List (JsonString × Json)} :
    IsBlank front → SpellsString name units → IsBlank behind → Spells text value → IsBlank space →
    SpellsMembers more members →
    SpellsMembers (front ++ '"' :: name ++ '"' :: behind ++ ':' :: text ++ space ++ ',' :: more)
      ((units, value) :: members)

end

end Json

end GlslPrelude
