import GlslPrelude.Json.Parser
import GlslPrelude.Proofs.Json.Grammar
import GlslPrelude.Proofs.Text.Spans

/-!
# Reading JSON texts

Every value is read from all its spellings (`Json.parse_of_spells`). Each reader takes the text of
its part off whatever follows, if that does not go on with a number.
-/

namespace GlslPrelude

namespace Json

variable {text space rest : List Char} {units : JsonString} {value : Json} {c : Char}

/-! ## White space and marks -/

/-- White space is skipped up to a character that is none. -/
theorem skipSpace_append (hspace : IsBlank space) (hrest : ∀ c ∈ rest.head?, isSpace c = false) :
    skipSpace (space ++ rest) = rest :=
  dropWhile_append_eq hspace hrest

/-- A mark behind white space is found. -/
theorem skip?_append (hspace : IsBlank space) (hc : isSpace c = false) :
    skip? c (space ++ c :: rest) = some rest := by
  rw [skip?, skipSpace_append hspace (by simp [hc])]
  exact if_pos rfl

/-- Another mark behind white space is not found. -/
theorem skip?_append_of_ne {d : Char} (hspace : IsBlank space) (hd : isSpace d = false)
    (hne : d ≠ c) : skip? c (space ++ d :: rest) = none := by
  rw [skip?, skipSpace_append hspace (by simp [hd])]
  exact if_neg hne

/-! ## Numbers -/

/-- No number goes on with the text. -/
def EndsNumber (rest : List Char) : Prop :=
  ∀ c ∈ rest.head?, c.isDigit = false ∧ c ≠ '.' ∧ c ≠ 'e' ∧ c ≠ 'E'

/-- Digits are skipped up to a character that is none. -/
theorem skipDigits?_append (h : IsDigits text) (hrest : ∀ c ∈ rest.head?, c.isDigit = false) :
    skipDigits? (text ++ rest) = some rest := by
  obtain ⟨hne, hdigits⟩ := h
  cases text with
  | nil => exact absurd rfl hne
  | cons c text =>
      rw [List.forall_mem_cons] at hdigits
      rw [List.cons_append, skipDigits?, if_pos hdigits.1, dropWhile_append_eq hdigits.2 hrest]

/-- The whole part of a number is skipped. -/
theorem skipWhole?_append (h : IsWhole text) (hrest : ∀ c ∈ rest.head?, c.isDigit = false) :
    skipWhole? (text ++ rest) = some rest := by
  cases h with
  | zero => rfl
  | @digits c text hc hdigits =>
      rw [← skipDigits?_append hdigits hrest, skipWhole?.eq_def]
      split
      · rename_i heq
        exact absurd (List.cons.inj heq).1 hc
      · rfl

/-- The fraction of a number is skipped. -/
theorem skipFraction?_append (h : IsFraction text)
    (hrest : ∀ c ∈ rest.head?, c.isDigit = false ∧ c ≠ '.') :
    skipFraction? (text ++ rest) = some rest := by
  cases h with
  | none =>
      rw [List.nil_append, skipFraction?.eq_def]
      split
      · exact absurd rfl (hrest '.' rfl).2
      · rfl
  | digits hdigits => exact skipDigits?_append hdigits fun c hc => (hrest c hc).1

/-- A digit is not a sign. -/
theorem ne_of_isDigit {d : Char} (h : c.isDigit = true) (hd : d.isDigit = false) : c ≠ d := by
  rintro rfl
  exact absurd (h.symm.trans hd) (by simp)

/-- The exponent of a number is skipped. -/
theorem skipExponent?_append (h : IsExponent text) (hrest : EndsNumber rest) :
    skipExponent? (text ++ rest) = some rest := by
  have hdigit := fun c hc => (hrest c hc).1
  cases h with
  | none =>
      rw [List.nil_append, skipExponent?.eq_def]
      -- an exponent would begin with one of the letters
      split <;> simp_all [EndsNumber]
  | @unsigned e text he hdigits =>
      rw [← skipDigits?_append hdigits hdigit]
      obtain ⟨hne, hdigits⟩ := hdigits
      obtain ⟨d, text, rfl⟩ := List.exists_cons_of_ne_nil hne
      have hplus := ne_of_isDigit (hdigits d (List.mem_cons_self)) (d := '+') rfl
      have hminus := ne_of_isDigit (hdigits d (List.mem_cons_self)) (d := '-') rfl
      rcases he with rfl | rfl
      · rw [List.cons_append, List.cons_append, skipExponent?.eq_def]
        split <;> simp_all
      · rw [List.cons_append, List.cons_append, skipExponent?.eq_def]
        split <;> simp_all
  | @signed e sign text he hsign hdigits =>
      rw [← skipDigits?_append hdigits hdigit]
      rcases he with rfl | rfl <;> rcases hsign with rfl | rfl <;> rfl

/-- No digit follows the whole part of a number. -/
theorem isDigit_eq_false_of_head? {fraction exponent : List Char} (hfraction : IsFraction fraction)
    (hexponent : IsExponent exponent) (hrest : EndsNumber rest) :
    ∀ c ∈ (fraction ++ (exponent ++ rest)).head?, c.isDigit = false := by
  cases hfraction with
  | digits => exact fun c hc => by cases hc; rfl
  | none =>
      cases hexponent with
      | none => exact fun c hc => (hrest c hc).1
      | unsigned he | signed he => rcases he with rfl | rfl <;> exact fun c hc => by cases hc; rfl

/-- Neither a digit nor a dot follows the fraction of a number. -/
theorem ne_dot_of_head? (h : IsExponent text) (hrest : EndsNumber rest) :
    ∀ c ∈ (text ++ rest).head?, c.isDigit = false ∧ c ≠ '.' := by
  cases h with
  | none => exact fun c hc => ⟨(hrest c hc).1, (hrest c hc).2.1⟩
  | unsigned he | signed he =>
      rcases he with rfl | rfl <;> exact fun c hc => by cases hc; exact ⟨rfl, by decide⟩

/-- A number without its sign is skipped. -/
theorem skipUnsigned?_append {whole fraction exponent : List Char} (hwhole : IsWhole whole)
    (hfraction : IsFraction fraction) (hexponent : IsExponent exponent) (hrest : EndsNumber rest) :
    skipUnsigned? (whole ++ fraction ++ exponent ++ rest) = some rest := by
  have hbehind := isDigit_eq_false_of_head? hfraction hexponent hrest
  rw [skipUnsigned?, List.append_assoc, List.append_assoc, skipWhole?_append hwhole hbehind,
    Option.bind_some, skipFraction?_append hfraction (ne_dot_of_head? hexponent hrest),
    Option.bind_some, skipExponent?_append hexponent hrest]

/-- The whole part of a number begins with a digit. -/
theorem IsWhole.exists_cons (h : IsWhole text) : ∃ c cs, text = c :: cs ∧ c.isDigit = true := by
  cases h with
  | zero => exact ⟨_, _, rfl, rfl⟩
  | digits _ h => exact ⟨_, _, rfl, h.2 _ List.mem_cons_self⟩

/-- A number begins with a digit or with a minus sign. -/
theorem IsNumber.exists_cons (h : IsNumber text) :
    ∃ c cs, text = c :: cs ∧ (c.isDigit = true ∨ c = '-') := by
  cases h with
  | positive hwhole =>
      obtain ⟨c, cs, rfl, hc⟩ := hwhole.exists_cons
      exact ⟨_, _, rfl, .inl hc⟩
  | negative => exact ⟨_, _, rfl, .inr rfl⟩

/-- A number is skipped. -/
theorem skipNumber?_append (h : IsNumber text) (hrest : EndsNumber rest) :
    skipNumber? (text ++ rest) = some rest := by
  cases h with
  | @positive whole fraction exponent hwhole hfraction hexponent =>
      rw [← skipUnsigned?_append hwhole hfraction hexponent hrest]
      obtain ⟨c, cs, rfl, hc⟩ := hwhole.exists_cons
      rw [skipNumber?.eq_def]
      split
      · rename_i heq
        exact absurd (List.cons.inj heq).1 (ne_of_isDigit hc rfl)
      · rfl
  | @negative whole fraction exponent hwhole hfraction hexponent =>
      exact skipUnsigned?_append hwhole hfraction hexponent hrest

/-! ## Strings -/

/-- A string is read up to its closing quote. -/
theorem readString_append (h : SpellsString text units) (reversed : JsonString) :
    readString reversed (text ++ '"' :: rest) = some (reversed.reverse ++ units, rest) := by
  induction h generalizing reversed with
  | nil => simp [readString]
  | char hcontrol hquote hbackslash _ ih =>
      rw [List.cons_append, readString.eq_def]
      split <;> simp_all
  | escape hescape _ ih =>
      simp only [List.cons_append]
      rw [readString, hescape]
      · simp [ih]
      · rintro _ _ _ _ _ rfl
        cases hescape
  | code hdigits _ ih =>
      simp only [List.cons_append]
      rw [readString, if_pos hdigits, ih]
      simp

/-! ## Values -/

/-- What was read and what is left, without the fact that something was used. -/
def withRest {α : Type} {cs : List Char} (reading : Option (α × Behind cs)) :
    Option (α × List Char) :=
  reading.map fun (a, behind) => (a, behind.1)

/-- The value at the beginning of a text, and what is left. -/
def value? (cs : List Char) : Option (Json × List Char) :=
  withRest (readValue cs)

/-- The elements at the beginning of a text that the opening bracket was cut off from, and what is
left behind the closing one. -/
def elements? (cs : List Char) : Option (List Json × List Char) :=
  withRest (readElements cs)

/-- The members at the beginning of a text that the opening brace was cut off from, and what is left
behind the closing one. -/
def members? (cs : List Char) : Option (List (JsonString × Json) × List Char) :=
  withRest (readMembers cs)

/-- How a value is read. -/
theorem value?_eq (cs : List Char) :
    value? cs =
      match skipSpace cs with
      | 'n' :: 'u' :: 'l' :: 'l' :: rest => some (.null, rest)
      | 't' :: 'r' :: 'u' :: 'e' :: rest => some (.bool true, rest)
      | 'f' :: 'a' :: 'l' :: 's' :: 'e' :: rest => some (.bool false, rest)
      | '"' :: rest => (readString [] rest).map fun (units, rest) => (.string units, rest)
      | '[' :: rest =>
        match skip? ']' rest with
        | some rest => some (.array [], rest)
        | none => (elements? rest).map fun (elements, rest) => (.array elements, rest)
      | '\x7b' :: rest =>
        match skip? '\x7d' rest with
        | some rest => some (.object [], rest)
        | none => (members? rest).map fun (members, rest) => (.object members, rest)
      | rest => withRest (readNumber rest) := by
  rw [value?, readValue]
  split
  case h_1 | h_2 | h_3 => simp only [*]; rfl
  case h_4 heq =>
    simp only [heq]
    split <;> simp_all [withRest]
  case h_5 heq =>
    simp only [heq, elements?]
    split
    · simp_all [withRest]
    · split <;> simp_all [withRest]
  case h_6 heq =>
    simp only [heq, members?]
    split
    · simp_all [withRest]
    · split <;> simp_all [withRest]
  case h_7 => split <;> simp_all [withRest]

/-- What was read, with the fact that something was used. -/
theorem exists_of_withRest {α : Type} {cs : List Char} {reading : Option (α × Behind cs)} {a : α}
    (h : withRest reading = some (a, rest)) : ∃ hrest, reading = some (a, ⟨rest, hrest⟩) := by
  obtain ⟨⟨a', rest', hrest⟩, hreading, heq⟩ := Option.map_eq_some_iff.1 h
  cases heq
  exact ⟨hrest, hreading⟩

/-- How the elements of an array go on behind the first. -/
theorem elements?_eq {cs : List Char} (hvalue : value? cs = some (value, rest)) :
    elements? cs =
      match skip? ',' rest with
      | some rest => (elements? rest).map fun (values, rest) => (value :: values, rest)
      | none => (skip? ']' rest).map fun rest => ([value], rest) := by
  obtain ⟨_, hvalue⟩ := exists_of_withRest hvalue
  rw [elements?, readElements, hvalue]
  dsimp only
  split
  · rename_i behindComma hcomma
    simp only [hcomma, elements?]
    cases readElements behindComma <;> rfl
  · rename_i hcomma
    simp only [hcomma]
    split <;> simp [*, withRest]

/-- How the members of an object are read. -/
theorem members?_eq {cs inside behindName behindColon : List Char}
    (hquote : skip? '"' cs = some inside) (hname : readString [] inside = some (units, behindName))
    (hcolon : skip? ':' behindName = some behindColon)
    (hvalue : value? behindColon = some (value, rest)) :
    members? cs =
      match skip? ',' rest with
      | some rest =>
        (members? rest).map fun (members, rest) => ((units, value) :: members, rest)
      | none => (skip? '\x7d' rest).map fun rest => ([(units, value)], rest) := by
  obtain ⟨_, hvalue⟩ := exists_of_withRest hvalue
  rw [members?, readMembers]
  split
  · simp_all
  rename_i heq
  obtain rfl := Option.some.inj (heq.symm.trans hquote)
  split
  · simp_all
  rename_i heq
  obtain ⟨rfl, rfl⟩ := Prod.mk.inj (Option.some.inj (heq.symm.trans hname))
  split
  · simp_all
  rename_i heq
  obtain rfl := Option.some.inj (heq.symm.trans hcolon)
  simp only [hvalue]
  split
  · rename_i behindComma hcomma
    simp only [hcomma, members?]
    cases readMembers behindComma <;> rfl
  · rename_i hcomma
    simp only [hcomma]
    split <;> simp [*, withRest]

/-- White space is one of four characters. -/
theorem isSpace_iff : isSpace c = true ↔ c = ' ' ∨ c = '\t' ∨ c = '\n' ∨ c = '\r' := by
  simp [isSpace, or_assoc]

/-- White space ends a number that no other character goes on with. -/
theorem endsNumber_append (hspace : IsBlank space) (hrest : EndsNumber rest) :
    EndsNumber (space ++ rest) := by
  cases space with
  | nil => exact hrest
  | cons c space =>
      rintro _ ⟨⟩
      rcases isSpace_iff.1 (hspace c List.mem_cons_self) with rfl | rfl | rfl | rfl <;> decide

/-- A mark behind white space ends a number. -/
theorem endsNumber_append_mark (hspace : IsBlank space) (hc : c = ',' ∨ c = ']' ∨ c = '\x7d') :
    EndsNumber (space ++ c :: rest) := by
  refine endsNumber_append hspace ?_
  rintro _ ⟨⟩
  rcases hc with rfl | rfl | rfl <;> decide

/-- A number is no white space. -/
theorem IsNumber.isSpace_eq_false (h : IsNumber text) :
    ∀ c ∈ (text ++ rest).head?, isSpace c = false := by
  obtain ⟨c, cs, rfl, hc⟩ := h.exists_cons
  rintro _ ⟨⟩
  rw [← Bool.not_eq_true, isSpace_iff]
  rintro (rfl | rfl | rfl | rfl) <;> simp at hc

/-- No value begins with a bracket that closes an array. -/
theorem Spells.skip?_eq_none (h : Spells text value) : skip? ']' (text ++ rest) = none := by
  cases h with
  | number hspace hnumber =>
      have hfirst : ∀ c ∈ (_ ++ rest).head?, isSpace c = false := hnumber.isSpace_eq_false
      obtain ⟨c, cs, rfl, hc⟩ := hnumber.exists_cons
      rw [List.append_assoc]
      refine skip?_append_of_ne hspace (hfirst c rfl) ?_
      rintro rfl
      simp at hc
  | nullWord hspace | trueWord hspace | falseWord hspace | string hspace | emptyArray hspace
  | array hspace | emptyObject hspace | object hspace =>
      simp only [List.append_assoc]
      exact skip?_append_of_ne hspace rfl (by decide)

/-- The elements of an array do not begin with the closing bracket. -/
theorem SpellsElements.skip?_eq_none {values : List Json} (h : SpellsElements text values) :
    skip? ']' (text ++ rest) = none := by
  cases h with
  | last hvalue | cons hvalue =>
      simp only [List.append_assoc]
      exact hvalue.skip?_eq_none

/-- The members of an object do not begin with the closing brace. -/
theorem SpellsMembers.skip?_eq_none {members : List (JsonString × Json)}
    (h : SpellsMembers text members) : skip? '\x7d' (text ++ rest) = none := by
  cases h with
  | last hfront | cons hfront =>
      simp only [List.append_assoc, List.cons_append]
      exact skip?_append_of_ne hfront rfl (by decide)

/-- A number is read. -/
theorem withRest_readNumber (h : IsNumber text) (hrest : EndsNumber rest) :
    withRest (readNumber (text ++ rest)) = some (.number text, rest) := by
  rw [readNumber]
  split
  · rename_i behind hbehind
    obtain rfl := Option.some.inj (hbehind.symm.trans (skipNumber?_append h hrest))
    simp [withRest]
  · simp_all [skipNumber?_append h hrest]

mutual

/-- A value is read from its text. -/
theorem value?_append {text rest : List Char} {value : Json} (h : Spells text value)
    (hrest : EndsNumber rest) : value? (text ++ rest) = some (value, rest) := by
  rw [value?_eq]
  cases h with
  | nullWord hspace | trueWord hspace | falseWord hspace =>
      rw [List.append_assoc, skipSpace_append hspace (by simp [isSpace])]
      rfl
  | number hspace hnumber =>
      rw [List.append_assoc, skipSpace_append hspace hnumber.isSpace_eq_false]
      have hread := withRest_readNumber hnumber hrest
      obtain ⟨c, cs, rfl, hc⟩ := hnumber.exists_cons
      -- no other value begins with a digit or a minus sign
      split
      case h_7 => exact hread
      all_goals
        rename_i heq
        obtain rfl := (List.cons.inj heq).1
        simp at hc
  | string hspace hstring =>
      simp only [List.append_assoc, List.cons_append, List.nil_append]
      rw [skipSpace_append hspace (by simp [isSpace])]
      simp [readString_append hstring]
  | emptyArray hspace hinside =>
      simp only [List.append_assoc, List.cons_append, List.nil_append]
      rw [skipSpace_append hspace (by simp [isSpace])]
      simp [skip?_append (c := ']') hinside rfl]
  | emptyObject hspace hinside =>
      simp only [List.append_assoc, List.cons_append, List.nil_append]
      rw [skipSpace_append hspace (by simp [isSpace])]
      simp [skip?_append (c := '\x7d') hinside rfl]
  | array hspace helements =>
      rw [List.append_assoc, List.cons_append, skipSpace_append hspace (by simp [isSpace])]
      simp [helements.skip?_eq_none, elements?_append helements]
  | object hspace hmembers =>
      rw [List.append_assoc, List.cons_append, skipSpace_append hspace (by simp [isSpace])]
      simp [hmembers.skip?_eq_none, members?_append hmembers]

/-- The elements of an array are read from their text. -/
theorem elements?_append {text rest : List Char} {values : List Json}
    (h : SpellsElements text values) :
    elements? (text ++ rest) = some (values, rest) := by
  cases h with
  | @last _ space _ hvalue hspace =>
      have hends : EndsNumber (space ++ ']' :: rest) :=
        endsNumber_append_mark hspace (.inr (.inl rfl))
      simp only [List.append_assoc, List.cons_append, List.nil_append]
      rw [elements?_eq (value?_append hvalue hends),
        skip?_append_of_ne hspace rfl (by decide), skip?_append hspace rfl]
      rfl
  | @cons _ space more _ _ hvalue hspace hvalues =>
      have hends : EndsNumber (space ++ ',' :: (more ++ rest)) :=
        endsNumber_append_mark hspace (.inl rfl)
      simp only [List.append_assoc, List.cons_append]
      rw [elements?_eq (value?_append hvalue hends), skip?_append hspace rfl]
      simp [elements?_append hvalues]

/-- The members of an object are read from their text. -/
theorem members?_append {text rest : List Char} {members : List (JsonString × Json)}
    (h : SpellsMembers text members) :
    members? (text ++ rest) = some (members, rest) := by
  cases h with
  | @last _ _ _ _ space _ _ hfront hname hbehind hvalue hspace =>
      have hends : EndsNumber (space ++ '\x7d' :: rest) :=
        endsNumber_append_mark hspace (.inr (.inr rfl))
      simp only [List.append_assoc, List.cons_append, List.nil_append]
      rw [members?_eq (skip?_append hfront rfl) (readString_append hname [])
          (skip?_append hbehind rfl) (value?_append hvalue hends),
        skip?_append_of_ne hspace rfl (by decide), skip?_append hspace rfl]
      rfl
  | @cons _ _ _ _ space more _ _ _ hfront hname hbehind hvalue hspace hmembers =>
      have hends : EndsNumber (space ++ ',' :: (more ++ rest)) :=
        endsNumber_append_mark hspace (.inl rfl)
      simp only [List.append_assoc, List.cons_append]
      rw [members?_eq (skip?_append hfront rfl) (readString_append hname [])
          (skip?_append hbehind rfl) (value?_append hvalue hends),
        skip?_append hspace rfl]
      simp [members?_append hmembers]

end

/-- A value is read from every text that spells it, white space behind it included. -/
theorem parse_of_spells (h : Spells text value) (hspace : IsBlank space) :
    parse (text ++ space) = some value := by
  have hends : EndsNumber (space ++ []) := endsNumber_append hspace (by simp [EndsNumber])
  have hblank : skipSpace (space ++ []) = [] := skipSpace_append hspace (by simp)
  rw [List.append_nil] at hends hblank
  obtain ⟨_, hread⟩ := exists_of_withRest (value?_append h hends)
  rw [parse, hread]
  simp [hblank]

end Json

end GlslPrelude
