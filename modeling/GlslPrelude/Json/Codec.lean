import GlslPrelude.Data.EnumSet
import GlslPrelude.Json.Basic

/-!
# JSON forms of types

A type only declares what its JSON form is made of: the keys of its elements, or the fields that its
records have. What a declared form means is up to a JSON library, which is a parameter
(`JsonLibrary`) of everything that is read and written with it.
-/

namespace GlslPrelude

/-- The JSON form of a type. -/
structure Codec (α : Type) where
  /-- The value that a JSON value is read as. -/
  read? : Json → Option α
  /-- The JSON value that a value is written as. -/
  write : α → Json

/-- A field of the records of a type, as it is declared. -/
structure RecordField (ρ : Type) where
  /-- Type of the field. -/
  {α : Type}
  /-- Name of the field in an object. -/
  key : String
  /-- Form of the field. -/
  codec : Codec α
  /-- The field of a record. -/
  get : ρ → α
  /-- The record with another value in the field. -/
  set : α → ρ → ρ
  /-- Whether the field has to be given; one that may be missing has a default. -/
  isRequired : Bool
  /-- Whether the field is left out when it has the value. -/
  skips : α → Bool := fun _ => false

/-- The form of the records of a type, as it is declared. -/
structure RecordForm (ρ : Type) where
  /-- The fields, in their order. -/
  fields : List (RecordField ρ)
  /-- The record that has the values of the fields that are missing. -/
  defaults : ρ
  /-- No two fields have one name. -/
  nodup_keys : (fields.map RecordField.key).Nodup
  /-- A record is made of its fields. -/
  foldl_set : ∀ r, fields.foldl (fun made field => field.set (field.get r) made) defaults = r

/-- The members that a record is written as. -/
def RecordForm.members {ρ : Type} (form : RecordForm ρ) (r : ρ) : List (String × Json) :=
  (form.fields.filter fun field => !field.skips (field.get r)).map fun field =>
    (field.key, field.codec.write (field.get r))

/-- A library that reads and writes JSON. -/
structure JsonLibrary where
  /-- Read a text as a value of a type. -/
  ofText? {α : Type} : Codec α → String → Option α
  /-- Write a value of a type as a text. -/
  toText {α : Type} : Codec α → α → String
  /-- Form of a word. -/
  word : Codec UInt64
  /-- Form of an enumerated type whose elements have these keys. -/
  choice {α : Type} [DecidableEq α] [Enumeration α] : (α → String) → Codec α
  /-- Form of a list. -/
  list {α : Type} : Codec α → Codec (List α)
  /-- Form of a value that may be missing. -/
  option {α : Type} : Codec α → Codec (Option α)
  /-- Form of a type whose values are made from those of another type and turned into them. -/
  convert {α β : Type} : (β → α) → (α → β) → Codec β → Codec α
  /-- Form of a record. -/
  record {ρ : Type} : RecordForm ρ → Codec ρ

end GlslPrelude
