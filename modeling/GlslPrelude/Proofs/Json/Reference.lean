import GlslPrelude.Json.Reference
import GlslPrelude.Proofs.Data.Traversal
import GlslPrelude.Proofs.Json.Codec
import GlslPrelude.Proofs.Json.Parsing
import GlslPrelude.Proofs.Text.Digits

/-!
# The JSON library does what is relied on

The library that the declared forms are run with is one that can be relied on
(`JsonLibrary.reference_isDocumented`): values are written as texts that spell them
(`Json.IsWritable.spells_compact`), and records are read from their known members, wherever those
stand (`RecordForm.read?_of_isRecord`).
-/

namespace GlslPrelude

namespace Json

/-! ## Texts of values -/

/-- A plain text needs no escapes. -/
theorem flatMap_unitText {cs : List Char} (h : IsPlain cs) :
    (cs.map Char.toNat).flatMap unitText = cs := by
  induction cs with
  | nil => rfl
  | cons c cs ih =>
      obtain ⟨⟨hcontrol, hquote, hbackslash⟩, hcs⟩ := List.forall_mem_cons.1 h
      obtain ⟨hhigh, hlow⟩ := JsonString.isHigh_toNat c
      have hunit : unitText c.toNat = [c] := by
        rw [unitText, if_pos, Char.ofNat_toNat]
        refine ⟨hcontrol, fun heq => hquote ?_, fun heq => hbackslash ?_, ?_, ?_⟩
        · exact Char.toNat_inj.1 heq
        · exact Char.toNat_inj.1 heq
        · simp [hhigh]
        · simp [hlow]
      rw [List.map_cons, List.flatMap_cons, hunit, ih hcs]
      rfl

/-- A plain text is written as it is, in quotes. -/
theorem quote_map_toNat {cs : List Char} (h : IsPlain cs) :
    quote (cs.map Char.toNat) = '"' :: cs ++ ['"'] := by
  rw [quote, flatMap_unitText h]

/-- The digits of a number are a whole part: none of them is superfluous. -/
theorem isWhole_toDigits (n : Nat) : IsWhole (Nat.toDigits 10 n) := by
  have hdigits : IsDigits (Nat.toDigits 10 n) :=
    ⟨Nat.toDigits_ne_nil, Digits.isDigit_of_mem_toDigits n⟩
  cases hn : Nat.toDigits 10 n with
  | nil => exact absurd hn Nat.toDigits_ne_nil
  | cons c cs =>
      rw [hn] at hdigits
      by_cases hc : c = '0'
      · subst hc
        rw [Digits.eq_nil_of_toDigits_eq hn]
        exact .zero
      · exact .digits hc hdigits

/-- The digits of a number spell it. -/
theorem spells_toDigits (n : Nat) : Spells (Nat.toDigits 10 n) (.number (Nat.toDigits 10 n)) := by
  have hnumber : IsNumber (Nat.toDigits 10 n) := by
    simpa using IsNumber.positive (isWhole_toDigits n) .none .none
  exact .number isBlank_nil hnumber

/-- Values with commas between them spell the elements of an array. -/
theorem spellsElements_compact {value : Json} {values : List Json}
    (h : ∀ element ∈ value :: values, Spells element.compact element) :
    SpellsElements ([','].intercalate (compactElements (value :: values)) ++ [']'])
      (value :: values) := by
  induction values generalizing value with
  | nil =>
      have hlast := SpellsElements.last (h value List.mem_cons_self) isBlank_nil
      simpa [compactElements] using hlast
  | cons next values ih =>
      obtain ⟨hvalue, hvalues⟩ := List.forall_mem_cons.1 h
      have hcons := SpellsElements.cons hvalue isBlank_nil (ih hvalues)
      simpa [compactElements, List.intercalate_cons_cons] using hcons

/-- Members with commas between them spell the members of an object. -/
theorem spellsMembers_compact {member : String × Json} {members : List (String × Json)}
    (hnames : ∀ m ∈ member :: members, IsPlain m.1.toList)
    (hvalues : ∀ m ∈ member :: members, Spells m.2.compact m.2) :
    SpellsMembers
      ([','].intercalate (compactMembers (withUnits (member :: members))) ++ ['\x7d'])
      (withUnits (member :: members)) := by
  induction members generalizing member with
  | nil =>
      have hname := hnames member List.mem_cons_self
      have hlast := SpellsMembers.last isBlank_nil hname.spellsString isBlank_nil
        (hvalues member List.mem_cons_self) isBlank_nil
      simpa [withUnits, compactMembers, JsonString.units, quote_map_toNat hname] using hlast
  | cons next members ih =>
      obtain ⟨hname, hnames⟩ := List.forall_mem_cons.1 hnames
      obtain ⟨hvalue, hvalues⟩ := List.forall_mem_cons.1 hvalues
      have hcons := SpellsMembers.cons isBlank_nil hname.spellsString isBlank_nil hvalue isBlank_nil
        (ih hnames hvalues)
      simpa [withUnits, compactMembers, JsonString.units, quote_map_toNat hname,
        List.intercalate_cons_cons] using hcons

/-- The text of a value spells it. -/
theorem IsWritable.spells_compact {depth : Nat} {json : Json} (h : json.IsWritable depth) :
    Spells json.compact json := by
  induction h with
  | null => exact .nullWord isBlank_nil
  | number n => exact spells_toDigits n
  | @string _ text hplain =>
      have hstring := Spells.string isBlank_nil hplain.spellsString
      rw [ofString, JsonString.units, compact, quote_map_toNat hplain]
      exact hstring
  | @array _ elements _ ih =>
      cases elements with
      | nil => exact .emptyArray isBlank_nil isBlank_nil
      | cons value values => exact .array isBlank_nil (spellsElements_compact ih)
  | @object _ members hnames _ ih =>
      cases members with
      | nil => exact .emptyObject isBlank_nil isBlank_nil
      | cons member members => exact .object isBlank_nil (spellsMembers_compact hnames ih)

/-! ## Reading forms -/

/-- A word is read from its digits. -/
theorem word?_toDigits (word : UInt64) :
    (Json.number (Nat.toDigits 10 word.toNat)).word? = some word := by
  have hdigits : (Nat.toDigits 10 word.toNat).all Char.isDigit = true :=
    List.all_eq_true.2 (Digits.isDigit_of_mem_toDigits _)
  simp [Json.word?, Digits.toNat_toDigits, hdigits, Digits.wordLimit, word.toNat_lt_size]

/-- An element is found by the text of its key. -/
theorem choice?_of_isText {α : Type} [DecidableEq α] [Enumeration α] {key : α → String} {a : α}
    {json : Json} (hkey : key.Injective) (h : json.IsText (key a)) :
    choice? key json = some a := by
  obtain ⟨units, rfl, hunits⟩ := h
  rw [choice?, hunits, Option.bind_some]
  have hfound : ((elements α).find? (key · == key a)).isSome :=
    List.find?_isSome.2 ⟨a, mem_elements a, by simp⟩
  obtain ⟨b, hb⟩ := Option.isSome_iff_exists.1 hfound
  have hkeys := List.find?_some hb
  rw [hb, hkey (eq_of_beq hkeys)]

/-- What is not null is given. -/
theorem option?_of_ne_null {α : Type} {codec : Codec α} {json : Json} (h : json ≠ .null) :
    option? codec json = (codec.read? json).map some := by
  rw [option?.eq_def]
  split
  · exact absurd rfl h
  · rfl

/-- At most one member has the name. -/
theorem filter_eq_toList_lookup {known : List (String × Json)} (h : (known.map Prod.fst).Nodup)
    (name : String) :
    known.filter (·.1 == name) = ((known.lookup name).map (name, ·)).toList := by
  induction known with
  | nil => rfl
  | cons field known ih =>
      obtain ⟨other, value⟩ := field
      rw [List.map_cons, List.nodup_cons] at h
      by_cases hname : other = name
      · subst hname
        have hnone : known.filter (·.1 == other) = [] := by
          refine List.filter_eq_nil_iff.2 fun field hfield heq => h.1 ?_
          exact List.mem_map.2 ⟨field, hfield, eq_of_beq heq⟩
        simp [hnone]
      · have hne : (name == other) = false := by simpa using Ne.symm hname
        simp [List.lookup_cons, hne, hname, ih h.2]

/-- The known members of a record are found, wherever they stand. -/
theorem fields?_of_isRecord {names : List String} {known : List (String × Json)} {json : Json}
    (hknown : (known.map Prod.fst).Nodup) (h : IsRecord names json known) :
    fields? names json = some (names.map fun name => known.lookup name) := by
  obtain ⟨members, named, others, rfl, hnamed, hperm, hothers⟩ := h
  have hmembers : members.mapM (fun (member : JsonString × Json) =>
      member.1.text?.map fun name => (name, member.2)) = some named := by
    refine mapM_eq_some_iff_forall₂.2 (hnamed.imp fun member field h => ?_)
    simp [h.1, h.2]
  simp only [fields?, hmembers]
  refine mapM_eq_some_iff.2 ?_
  rw [List.map_map]
  refine List.map_congr_left fun name hname => ?_
  -- among the members with the name are no others than the known ones
  have hnone : others.filter (·.1 == name) = [] := by
    rw [List.filter_eq_nil_iff]
    rintro other hother
    simp only [beq_iff_eq]
    rintro rfl
    exact hothers other hother hname
  have hfilter := hperm.filter (·.1 == name)
  rw [List.filter_append, hnone, List.append_nil, filter_eq_toList_lookup hknown] at hfilter
  cases hlookup : known.lookup name with
  | none =>
      rw [hlookup] at hfilter
      simp [hfilter.eq_nil, hlookup]
  | some value =>
      rw [hlookup] at hfilter
      simp [List.perm_singleton.1 hfilter, hlookup]

end Json

/-- A field has the value that is given. -/
theorem RecordField.IsGiven.value?_eq {ρ : Type} {field : RecordField ρ} {defaults r : ρ}
    {known : List (String × Json)} (h : field.IsGiven defaults known r) :
    field.value? defaults (known.lookup field.key) = some (field.get r) := by
  rw [RecordField.IsGiven] at h
  cases hlookup : known.lookup field.key with
  | some json =>
      rw [hlookup] at h
      exact h
  | none =>
      rw [hlookup] at h
      rw [RecordField.value?, h.1, h.2]
      rfl

/-- Fields that are given are set to the values that the record has there. -/
theorem RecordField.foldlM_fill? {ρ : Type} {fields : List (RecordField ρ)} {defaults r : ρ}
    {known : List (String × Json)} (h : ∀ field ∈ fields, field.IsGiven defaults known r)
    (made : ρ) :
    (fields.zip (fields.map fun field => known.lookup field.key)).foldlM (fill? defaults) made =
      some (fields.foldl (fun made field => field.set (field.get r) made) made) := by
  induction fields generalizing made with
  | nil => rfl
  | cons field fields ih =>
      obtain ⟨hfield, hfields⟩ := List.forall_mem_cons.1 h
      have hfill : fill? defaults made (field, known.lookup field.key) =
          some (field.set (field.get r) made) := by
        rw [fill?, hfield.value?_eq, Option.map_some]
      rw [List.map_cons, List.zip_cons_cons, List.foldlM_cons, hfill]
      exact ih hfields _

/-- A record is read from its known members, wherever they stand. -/
theorem RecordForm.read?_of_isRecord {ρ : Type} {form : RecordForm ρ} {json : Json}
    {known : List (String × Json)} {r : ρ}
    (hrecord : Json.IsRecord (form.fields.map RecordField.key) json known)
    (hknown : (known.map Prod.fst).Nodup)
    (hgiven : ∀ field ∈ form.fields, field.IsGiven form.defaults known r) :
    form.read? json = some r := by
  rw [RecordForm.read?, Json.fields?_of_isRecord hknown hrecord, Option.bind_some, List.map_map]
  calc
    _ = some (form.fields.foldl (fun made field => field.set (field.get r) made) form.defaults) :=
      RecordField.foldlM_fill? hgiven form.defaults
    _ = some r := congrArg some (form.foldl_set r)

/-- The library can be relied on. -/
theorem JsonLibrary.reference_isDocumented : JsonLibrary.reference.IsDocumented where
  ofText?_of_spells codec text space json htext hspace _ := by
    simp only [reference, String.toList_ofList]
    rw [Json.parse_of_spells htext hspace, Option.bind_some]
  spells_toText codec a depth h := by
    simp only [reference, String.toList_ofList]
    exact h.spells_compact
  write_word _ := rfl
  read?_word word := Json.word?_toDigits word
  write_choice _ _ := rfl
  read?_choice hkey h := Json.choice?_of_isText hkey h
  write_list _ _ := rfl
  read?_list _ _ _ h := mapM_eq_some_iff_forall₂.2 h
  write_option _ _ := rfl
  read?_option_null _ := rfl
  read?_option codec json a hnull h := by
    simp only [reference]
    rw [Json.option?_of_ne_null hnull, h, Option.map_some]
  write_convert _ _ _ _ := rfl
  read?_convert ofRepr _ codec json b h := by
    simp only [reference]
    rw [h, Option.map_some]
  write_record _ _ := rfl
  read?_record _ _ _ _ hrecord hknown hgiven :=
    RecordForm.read?_of_isRecord hrecord hknown hgiven

end GlslPrelude
