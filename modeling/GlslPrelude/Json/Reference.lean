import GlslPrelude.Json.Codec
import GlslPrelude.Json.Parser

/-!
# A JSON library

A library to run the declared forms with; what is proved about settings holds for every library that
can be relied on. A record is read from an object, whose unknown members are ignored and whose known
ones must not repeat, or from an array of its fields in order. Texts are written without white space
and read however deep they are.
-/

namespace GlslPrelude

namespace Json

/-! ## Reading forms -/

/-- The values of the named fields in a record, `none` where a field is missing. There is no result
if the value is no record, a known member repeats, or an array has too many elements. -/
def fields? (names : List String) : Json → Option (List (Option Json))
  | .object members =>
    match members.mapM (fun (units, value) => units.text?.map fun name => (name, value)) with
    | none => none
    | some members =>
      names.mapM fun name =>
        match members.filter (·.1 == name) with
        | [] => some none
        | [(_, value)] => some (some value)
        | _ => none
  | .array elements =>
    if elements.length ≤ names.length then
      some (elements.map some ++ List.replicate (names.length - elements.length) none)
    else none
  | _ => none

/-- The element of an enumerated type whose key the value is, or is the only member's name of. -/
def choice? {α : Type} [DecidableEq α] [Enumeration α] (key : α → String) : Json → Option α
  | .string units => units.text?.bind fun name => (elements α).find? (key · == name)
  | .object [(units, .null)] => units.text?.bind fun name => (elements α).find? (key · == name)
  | _ => none

/-- The values that the elements of an array are read as. -/
def list? {α : Type} (codec : Codec α) : Json → Option (List α)
  | .array elements => elements.mapM codec.read?
  | _ => none

/-- The value that is given, or that it is not. -/
def option? {α : Type} (codec : Codec α) : Json → Option (Option α)
  | .null => some none
  | json => (codec.read? json).map some

end Json

/-- The value of a field in a record that may give one. -/
def RecordField.value? {ρ : Type} (field : RecordField ρ) (defaults : ρ) :
    Option Json → Option field.α
  | some json => field.codec.read? json
  | none => if field.isRequired then none else some (field.get defaults)

/-- The record with the value of one more field. -/
def RecordField.fill? {ρ : Type} (defaults made : ρ) (given : RecordField ρ × Option Json) :
    Option ρ :=
  (given.1.value? defaults given.2).map fun a => given.1.set a made

/-- The record that a value is read as. -/
def RecordForm.read? {ρ : Type} (form : RecordForm ρ) (json : Json) : Option ρ :=
  (Json.fields? (form.fields.map RecordField.key) json).bind fun given =>
    (form.fields.zip given).foldlM (RecordField.fill? form.defaults) form.defaults

namespace Json

/-! ## Writing -/

/-- The text of a unit in a string. -/
def unitText (unit : Nat) : List Char :=
  if 0x20 ≤ unit ∧ unit ≠ 0x22 ∧ unit ≠ 0x5c ∧ ¬JsonString.isHigh unit ∧ ¬JsonString.isLow unit then
    [Char.ofNat unit]
  else
    '\\' :: 'u' :: [unit / 0x1000, unit / 0x100, unit / 0x10, unit].map fun n => (n % 16).digitChar

/-- The text of a string in quotes. -/
def quote (units : JsonString) : List Char :=
  '"' :: units.flatMap unitText ++ ['"']

mutual

/-- The text of a value without white space. -/
def compact : Json → List Char
  | .null => "null".toList
  | .bool true => "true".toList
  | .bool false => "false".toList
  | .number text => text
  | .string units => quote units
  | .array elements => '[' :: [','].intercalate (compactElements elements) ++ [']']
  | .object members => '\x7b' :: [','].intercalate (compactMembers members) ++ ['\x7d']

/-- The texts of the elements of an array. -/
def compactElements : List Json → List (List Char)
  | [] => []
  | value :: values => value.compact :: compactElements values

/-- The texts of the members of an object. -/
def compactMembers : List (JsonString × Json) → List (List Char)
  | [] => []
  | (units, value) :: members => (quote units ++ ':' :: value.compact) :: compactMembers members

end

end Json

/-- A library that reads and writes the declared forms. -/
def JsonLibrary.reference : JsonLibrary where
  ofText? codec text := (Json.parse text.toList).bind codec.read?
  toText codec a := .ofList (codec.write a).compact
  word := { read? := Json.word?, write := fun word => .number (Nat.toDigits 10 word.toNat) }
  choice key := { read? := Json.choice? key, write := fun a => .ofString (key a) }
  list codec := { read? := Json.list? codec, write := fun as => .array (as.map codec.write) }
  option codec :=
    { read? := Json.option? codec
      write := fun a? => a?.elim .null codec.write }
  convert ofRepr toRepr codec :=
    { read? := fun json => (codec.read? json).map ofRepr
      write := fun a => codec.write (toRepr a) }
  record form := { read? := form.read?, write := fun r => .ofMembers (form.members r) }

end GlslPrelude
