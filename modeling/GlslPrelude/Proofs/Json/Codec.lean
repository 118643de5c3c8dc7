import GlslPrelude.Json.Codec
import GlslPrelude.Proofs.Json.Grammar
import Mathlib.Data.List.Forall2
import Mathlib.Data.List.Nodup

/-!
# What JSON libraries are relied on for

`JsonLibrary.IsDocumented` names what is relied on: for each declared form, what values are written
as and which JSON values they are read from, and that texts are read and written as the values that
they spell, although none is read that is too deep (`JsonLibrary.maxDepth`). It says nothing about
any other JSON value, about messages or about white space that is written.

A form whose values are read back from what they are written as (`Codec.RoundTrips`) makes such
forms of lists, of values that may be missing, of other types and of records, so the round trip of a
declared form is put together from those of its parts
(`JsonLibrary.IsDocumented.record_roundTrips`) and holds for texts as well
(`JsonLibrary.IsDocumented.ofText?_toText`).
-/

namespace GlslPrelude

namespace Json

/-- The value is a string with the text. -/
def IsText (json : Json) (text : String) : Prop :=
  ∃ units, json = .string units ∧ JsonString.text? units = some text

/-- The value is an object that gives the fields in `known` their values, in any order. Its other
members have names that no field of the record has. -/
def IsRecord (names : List String) (json : Json) (known : List (String × Json)) : Prop :=
  ∃ members named others,
    json = .object members ∧
    List.Forall₂ (fun member field => member.1.text? = some field.1 ∧ member.2 = field.2)
      members named ∧
    named.Perm (known ++ others) ∧ ∀ other ∈ others, other.1 ∉ names

/-- At most `depth` arrays and objects of the value stand in one another. -/
inductive IsWithin : Nat → Json → Prop
  | null {depth : Nat} : IsWithin depth .null
  | bool {depth : Nat} (value : Bool) : IsWithin depth (.bool value)
  | number {depth : Nat} (text : List Char) : IsWithin depth (.number text)
  | string {depth : Nat} (units : JsonString) : IsWithin depth (.string units)
  | array {depth : Nat} {elements : List Json} : (∀ element ∈ elements, IsWithin depth element) →
    IsWithin (depth + 1) (.array elements)
  | object {depth : Nat} {members : List (JsonString × Json)} :
    (∀ member ∈ members, IsWithin depth member.2) → IsWithin (depth + 1) (.object members)

/-- The value can be written without escapes and without signs, fractions and exponents, and at most
`depth` arrays and objects stand in one another. -/
inductive IsWritable : Nat → Json → Prop
  | null {depth : Nat} : IsWritable depth .null
  | number {depth : Nat} (n : Nat) : IsWritable depth (.number (Nat.toDigits 10 n))
  | string {depth : Nat} {text : String} : IsPlain text.toList → IsWritable depth (.ofString text)
  | array {depth : Nat} {elements : List Json} : (∀ element ∈ elements, IsWritable depth element) →
    IsWritable (depth + 1) (.array elements)
  | object {depth : Nat} {members : List (String × Json)} :
    (∀ member ∈ members, IsPlain member.1.toList) →
    (∀ member ∈ members, IsWritable depth member.2) → IsWritable (depth + 1) (.ofMembers members)

/-- A value that can be written is no deeper than that says. -/
theorem IsWritable.isWithin {depth : Nat} {json : Json} (h : json.IsWritable depth) :
    json.IsWithin depth := by
  induction h with
  | null => exact .null
  | number n => exact .number _
  | string _ => exact .string _
  | array _ ih => exact .array ih
  | object _ _ ih =>
      refine .object fun member hmember => ?_
      obtain ⟨named, hnamed, rfl⟩ := List.mem_map.1 hmember
      exact ih named hnamed

/-- The string with a text has the text. -/
theorem isText_ofString (text : String) : (ofString text).IsText text :=
  ⟨_, rfl, JsonString.text?_units text⟩

/-- An object with these members is a record of those that belong to one. -/
theorem isRecord_ofMembers {names : List String} {all known others : List (String × Json)}
    (hall : all.Perm (known ++ others)) (hothers : ∀ other ∈ others, other.1 ∉ names) :
    IsRecord names (.ofMembers all) known := by
  refine ⟨withUnits all, all, others, rfl, ?_, hall, hothers⟩
  rw [withUnits, List.forall₂_map_left_iff, List.forall₂_same]
  exact fun member _ => ⟨JsonString.text?_units member.1, rfl⟩

/-- An object that has no other members is a record of them. -/
theorem isRecord_ofMembers_self (names : List String) (known : List (String × Json)) :
    IsRecord names (.ofMembers known) known :=
  isRecord_ofMembers (.of_eq (List.append_nil known).symm) (by simp)

end Json

open Json (IsPlain IsRecord IsWritable Spells)

/-- The members in `known` give the field the value that it has in `r`: one of them is read as the
value, or there is none, the value is the default and the field may be missing. -/
def RecordField.IsGiven {ρ : Type} (field : RecordField ρ) (defaults : ρ)
    (known : List (String × Json)) (r : ρ) : Prop :=
  match known.lookup field.key with
  | some json => field.codec.read? json = some (field.get r)
  | none => field.isRequired = false ∧ field.get r = field.get defaults

/-- How many arrays and objects may stand in one another in a text that is read. -/
def JsonLibrary.maxDepth : Nat :=
  127

/-- What is relied on. -/
structure JsonLibrary.IsDocumented (lib : JsonLibrary) : Prop where
  /-- A text is read as the value is that it spells, unless that is too deep; white space around the
  value is skipped. -/
  ofText?_of_spells {α : Type} (codec : Codec α) {text space : List Char} {json : Json} :
    Spells text json → Json.IsBlank space → json.IsWithin JsonLibrary.maxDepth →
    lib.ofText? codec (.ofList (text ++ space)) = codec.read? json
  /-- The text of a value spells what the value is written as. -/
  spells_toText {α : Type} (codec : Codec α) {a : α} {depth : Nat} :
    (codec.write a).IsWritable depth → Spells (lib.toText codec a).toList (codec.write a)
  /-- A word is written in decimal digits. -/
  write_word (word : UInt64) : lib.word.write word = .number (Nat.toDigits 10 word.toNat)
  /-- A word is read from decimal digits. -/
  read?_word (word : UInt64) : lib.word.read? (.number (Nat.toDigits 10 word.toNat)) = some word
  /-- An element is written as its key. -/
  write_choice {α : Type} [DecidableEq α] [Enumeration α] (key : α → String) (a : α) :
    (lib.choice key).write a = .ofString (key a)
  /-- An element is read from its key, however that is spelled. -/
  read?_choice {α : Type} [DecidableEq α] [Enumeration α] {key : α → String} {a : α} {json : Json} :
    key.Injective → json.IsText (key a) → (lib.choice key).read? json = some a
  /-- A list is written as an array. -/
  write_list {α : Type} (codec : Codec α) (as : List α) :
    (lib.list codec).write as = .array (as.map codec.write)
  /-- A list is read from an array, element by element. -/
  read?_list {α : Type} (codec : Codec α) {elements : List Json} {as : List α} :
    List.Forall₂ (fun json a => codec.read? json = some a) elements as →
    (lib.list codec).read? (.array elements) = some as
  /-- A missing value is written as null and any other as it is. -/
  write_option {α : Type} (codec : Codec α) (a? : Option α) :
    (lib.option codec).write a? = a?.elim .null codec.write
  /-- Null is read as a missing value. -/
  read?_option_null {α : Type} (codec : Codec α) : (lib.option codec).read? .null = some none
  /-- Anything else is read as a value. -/
  read?_option {α : Type} (codec : Codec α) {json : Json} {a : α} : json ≠ .null →
    codec.read? json = some a → (lib.option codec).read? json = some (some a)
  /-- A value of another type is written as what it is turned into. -/
  write_convert {α β : Type} (ofRepr : β → α) (toRepr : α → β) (codec : Codec β) (a : α) :
    (lib.convert ofRepr toRepr codec).write a = codec.write (toRepr a)
  /-- A value of another type is made from what is read. -/
  read?_convert {α β : Type} (ofRepr : β → α) (toRepr : α → β) (codec : Codec β) {json : Json}
    {b : β} :
    codec.read? json = some b → (lib.convert ofRepr toRepr codec).read? json = some (ofRepr b)
  /-- A record is written as an object with its fields in their order, less those left out. -/
  write_record {ρ : Type} (form : RecordForm ρ) (r : ρ) :
    (lib.record form).write r = .ofMembers (form.members r)
  /-- A record is read from an object with its fields, each at most once and in any order; a field
  that is missing has its default, and other members are ignored. -/
  read?_record {ρ : Type} (form : RecordForm ρ) {json : Json} {known : List (String × Json)}
    {r : ρ} :
    IsRecord (form.fields.map RecordField.key) json known → (known.map Prod.fst).Nodup →
    (∀ field ∈ form.fields, field.IsGiven form.defaults known r) →
    (lib.record form).read? json = some r

variable {α β ρ : Type}

/-- The values of the type are written without escapes, not too deep, and read back. -/
structure Codec.RoundTrips (codec : Codec α) (depth : Nat) : Prop where
  /-- No value needs an escape, nor more than `depth` arrays and objects in one another. -/
  isWritable : ∀ a, (codec.write a).IsWritable depth
  /-- Every value is read back. -/
  read?_write : ∀ a, codec.read? (codec.write a) = some a

/-! ## Members of records -/

/-- The names of the members of a record are those of its fields. -/
theorem RecordForm.map_fst_members_sublist (form : RecordForm ρ) (r : ρ) :
    ((form.members r).map Prod.fst).Sublist (form.fields.map RecordField.key) := by
  rw [RecordForm.members, List.map_map]
  exact List.filter_sublist.map RecordField.key

/-- A member is found by its name if no two members have one name. -/
theorem lookup_of_mem {known : List (String × Json)} (h : (known.map Prod.fst).Nodup)
    {name : String} {value : Json} (hmem : (name, value) ∈ known) :
    known.lookup name = some value := by
  obtain ⟨front, back, rfl⟩ := List.append_of_mem hmem
  refine List.lookup_eq_some_iff.2 ⟨front, back, rfl, fun member hmember => ?_⟩
  rw [List.map_append, List.map_cons] at h
  have hnot : name ∉ front.map Prod.fst := fun hname =>
    (List.nodup_append.1 h).2.2 name hname name List.mem_cons_self rfl
  rw [bne_iff_ne]
  rintro rfl
  exact hnot (List.mem_map_of_mem hmember)

/-- A field is written under its name unless it is left out. -/
theorem RecordForm.lookup_members (form : RecordForm ρ) (r : ρ) {field : RecordField ρ}
    (hfield : field ∈ form.fields) :
    (form.members r).lookup field.key =
      if field.skips (field.get r) then none else some (field.codec.write (field.get r)) := by
  by_cases hskips : field.skips (field.get r)
  · rw [if_pos hskips, List.lookup_eq_none_iff]
    intro member hmember
    obtain ⟨other, hother, rfl⟩ := List.mem_map.1 hmember
    obtain ⟨hother, hwritten⟩ := List.mem_filter.1 hother
    -- a field of that name would be the one that is left out
    rw [bne_iff_ne]
    intro hkey
    obtain rfl := List.inj_on_of_nodup_map form.nodup_keys hfield hother hkey
    simp [hskips] at hwritten
  · rw [if_neg hskips]
    apply lookup_of_mem (form.nodup_keys.sublist (form.map_fst_members_sublist r))
    refine List.mem_map.2 ⟨field, List.mem_filter.2 ⟨hfield, ?_⟩, rfl⟩
    simpa using hskips

/-! ## Round trips -/

section RoundTrips

variable {lib : JsonLibrary} {codec : Codec α} {depth : Nat}

namespace JsonLibrary.IsDocumented

/-- Words are read back. -/
theorem word_roundTrips (h : lib.IsDocumented) : lib.word.RoundTrips depth where
  isWritable word := by
    rw [h.write_word]
    exact .number _
  read?_write word := by rw [h.write_word, h.read?_word]

/-- The elements of a type with different, plain keys are read back. -/
theorem choice_roundTrips (h : lib.IsDocumented) [DecidableEq α] [Enumeration α] {key : α → String}
    (hkey : key.Injective) (hplain : ∀ a, IsPlain (key a).toList) :
    (lib.choice key).RoundTrips depth where
  isWritable a := by
    rw [h.write_choice]
    exact .string (hplain a)
  read?_write a := by
    rw [h.write_choice]
    exact h.read?_choice hkey (Json.isText_ofString (key a))

/-- Lists are read back if their elements are. -/
theorem list_roundTrips (h : lib.IsDocumented) (hcodec : codec.RoundTrips depth) :
    (lib.list codec).RoundTrips (depth + 1) where
  isWritable as := by
    rw [h.write_list]
    apply IsWritable.array
    intro element helement
    obtain ⟨a, -, rfl⟩ := List.mem_map.1 helement
    exact hcodec.isWritable a
  read?_write as := by
    rw [h.write_list]
    apply h.read?_list
    rw [List.forall₂_map_left_iff, List.forall₂_same]
    exact fun a _ => hcodec.read?_write a

/-- Values that may be missing are read back if none of them is written as null. -/
theorem option_roundTrips (h : lib.IsDocumented) (hcodec : codec.RoundTrips depth)
    (hnull : ∀ a, codec.write a ≠ .null) : (lib.option codec).RoundTrips depth where
  isWritable a? := by
    rw [h.write_option]
    cases a? with
    | none => exact .null
    | some a => exact hcodec.isWritable a
  read?_write a? := by
    rw [h.write_option]
    cases a? with
    | none => exact h.read?_option_null codec
    | some a => exact h.read?_option codec (hnull a) (hcodec.read?_write a)

/-- Values of another type are read back if they are made of what they are turned into. -/
theorem convert_roundTrips (h : lib.IsDocumented) (hcodec : codec.RoundTrips depth)
    {ofRepr : α → β} {toRepr : β → α} (hrepr : ∀ b, ofRepr (toRepr b) = b) :
    (lib.convert ofRepr toRepr codec).RoundTrips depth where
  isWritable b := by
    rw [h.write_convert]
    exact hcodec.isWritable (toRepr b)
  read?_write b := by
    rw [h.write_convert, h.read?_convert ofRepr toRepr codec (hcodec.read?_write (toRepr b)), hrepr]

/-- Records are read back if their fields are and if those that are left out have their defaults. -/
theorem record_roundTrips (h : lib.IsDocumented) {form : RecordForm ρ}
    (hplain : ∀ field ∈ form.fields, IsPlain field.key.toList)
    (hfields : ∀ field ∈ form.fields, field.codec.RoundTrips depth)
    (hskips : ∀ field ∈ form.fields, ∀ a, field.skips a →
      field.isRequired = false ∧ a = field.get form.defaults) :
    (lib.record form).RoundTrips (depth + 1) where
  isWritable r := by
    rw [h.write_record]
    have hmember : ∀ member ∈ form.members r,
        IsPlain member.1.toList ∧ IsWritable depth member.2 := by
      intro member hmember
      obtain ⟨field, hfield, rfl⟩ := List.mem_map.1 hmember
      have hfield := (List.mem_filter.1 hfield).1
      exact ⟨hplain field hfield, (hfields field hfield).isWritable _⟩
    exact .object (fun member h => (hmember member h).1) fun member h => (hmember member h).2
  read?_write r := by
    rw [h.write_record]
    apply h.read?_record form (Json.isRecord_ofMembers_self _ _)
    · exact form.nodup_keys.sublist (form.map_fst_members_sublist r)
    · intro field hfield
      rw [RecordField.IsGiven, form.lookup_members r hfield]
      by_cases hskip : field.skips (field.get r)
      · -- a field that was left out is read as its default, which it had
        rw [if_pos hskip]
        exact hskips field hfield _ hskip
      · rw [if_neg hskip]
        exact (hfields field hfield).read?_write _

/-- A text is read back if the value is. -/
theorem ofText?_toText (h : lib.IsDocumented) (hcodec : codec.RoundTrips maxDepth) (a : α) :
    lib.ofText? codec (lib.toText codec a) = some a := by
  have hwritable := hcodec.isWritable a
  have hspells := h.spells_toText codec hwritable
  have hread := h.ofText?_of_spells codec hspells Json.isBlank_nil hwritable.isWithin
  rw [List.append_nil, String.ofList_toList] at hread
  rw [hread, hcodec.read?_write]

end JsonLibrary.IsDocumented

end RoundTrips

end GlslPrelude
