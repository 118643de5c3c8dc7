import GlslPrelude.Json.Basic
import GlslPrelude.Text.Span

/-!
# Reading JSON

A reader of the JSON grammar and nothing else: no comments, no trailing commas, no leading zeros. It
belongs to the library that the declared forms are run with; what is proved about settings does not
depend on it. Each reader returns what is left of its text together with the fact that it used some
of it.
-/

namespace GlslPrelude

namespace Json

/-- What is left of a text behind a value. -/
abbrev Behind (cs : List Char) : Type :=
  { rest : List Char // rest.length < cs.length }

/-- The text behind white space. -/
def skipSpace (cs : List Char) : List Char :=
  cs.dropWhile isSpace

/-- What stands behind white space is no longer than the text. -/
theorem length_of_skipSpace {cs rest : List Char} (h : skipSpace cs = rest) :
    rest.length ≤ cs.length :=
  h ▸ length_dropWhile_le isSpace cs

/-- The text behind white space and a given character, if that comes next. -/
def skip? (c : Char) (cs : List Char) : Option (List Char) :=
  match skipSpace cs with
  | d :: rest => if d = c then some rest else none
  | [] => none

/-- Skipping a character shortens the text. -/
theorem length_skip?_lt {c : Char} {cs rest : List Char} (h : skip? c cs = some rest) :
    rest.length < cs.length := by
  unfold skip? at h
  have := length_dropWhile_le isSpace cs
  unfold skipSpace at h
  grind

/-- Read the units of a string behind the opening quote, behind those given last one first. -/
def readString (reversed : JsonString) : List Char → Option (JsonString × List Char)
  | '"' :: cs => some (reversed.reverse, cs)
  | '\\' :: 'u' :: a :: b :: c :: d :: cs =>
    if [a, b, c, d].all Digits.isHex then
      readString (Digits.toNat 16 [a, b, c, d] :: reversed) cs
    else none
  | '\\' :: c :: cs =>
    match escape? c with
    | some unit => readString (unit :: reversed) cs
    | none => none
  | c :: cs => if c.toNat < 0x20 || c = '\\' then none else readString (c.toNat :: reversed) cs
  | [] => none

/-- Reading a string shortens the text. -/
theorem length_readString_lt {reversed units : JsonString} {cs rest : List Char}
    (h : readString reversed cs = some (units, rest)) : rest.length < cs.length := by
  fun_induction readString reversed cs <;> grind

/-- The text behind a run of at least one digit. -/
def skipDigits? (cs : List Char) : Option (List Char) :=
  match cs with
  | c :: cs => if c.isDigit then some (cs.dropWhile Char.isDigit) else none
  | [] => none

/-- The text behind the whole part of a number; only the number zero starts with a zero. -/
def skipWhole? (cs : List Char) : Option (List Char) :=
  match cs with
  | '0' :: cs => some cs
  | cs => skipDigits? cs

/-- The text behind the fraction of a number, if it has one; `none` if digits are missing. -/
def skipFraction? (cs : List Char) : Option (List Char) :=
  match cs with
  | '.' :: cs => skipDigits? cs
  | cs => some cs

/-- The text behind the exponent of a number, if it has one; `none` if digits are missing. -/
def skipExponent? (cs : List Char) : Option (List Char) :=
  match cs with
  | 'e' :: '+' :: cs | 'e' :: '-' :: cs | 'E' :: '+' :: cs | 'E' :: '-' :: cs => skipDigits? cs
  | 'e' :: cs | 'E' :: cs => skipDigits? cs
  | cs => some cs

/-- The text behind a number without its sign. -/
def skipUnsigned? (cs : List Char) : Option (List Char) :=
  ((skipWhole? cs).bind skipFraction?).bind skipExponent?

/-- The text behind a number. -/
def skipNumber? (cs : List Char) : Option (List Char) :=
  match cs with
  | '-' :: cs => skipUnsigned? cs
  | cs => skipUnsigned? cs

/-- Digits shorten the text. -/
theorem length_skipDigits?_lt {cs rest : List Char} (h : skipDigits? cs = some rest) :
    rest.length < cs.length := by
  unfold skipDigits? at h
  grind

/-- The whole part of a number shortens the text. -/
theorem length_skipWhole?_lt {cs rest : List Char} (h : skipWhole? cs = some rest) :
    rest.length < cs.length := by
  unfold skipWhole? at h
  grind [→ length_skipDigits?_lt]

/-- A fraction does not lengthen the text. -/
theorem length_skipFraction?_le {cs rest : List Char} (h : skipFraction? cs = some rest) :
    rest.length ≤ cs.length := by
  unfold skipFraction? at h
  grind [→ length_skipDigits?_lt]

/-- An exponent does not lengthen the text. -/
theorem length_skipExponent?_le {cs rest : List Char} (h : skipExponent? cs = some rest) :
    rest.length ≤ cs.length := by
  unfold skipExponent? at h
  grind [→ length_skipDigits?_lt]

/-- An unsigned number shortens the text. -/
theorem length_skipUnsigned?_lt {cs rest : List Char} (h : skipUnsigned? cs = some rest) :
    rest.length < cs.length := by
  simp only [skipUnsigned?, Option.bind_eq_some_iff] at h
  obtain ⟨_, ⟨_, hwhole, hfraction⟩, hexponent⟩ := h
  have := length_skipWhole?_lt hwhole
  have := length_skipFraction?_le hfraction
  have := length_skipExponent?_le hexponent
  omega

/-- A number shortens the text. -/
theorem length_skipNumber?_lt {cs rest : List Char} (h : skipNumber? cs = some rest) :
    rest.length < cs.length := by
  unfold skipNumber? at h
  grind [→ length_skipUnsigned?_lt]

/-- Read a number. -/
def readNumber (cs : List Char) : Option (Json × Behind cs) :=
  match h : skipNumber? cs with
  | some rest => some (.number (cs.take (cs.length - rest.length)), ⟨rest, length_skipNumber?_lt h⟩)
  | none => none

mutual

/-- Read a value with the white space in front of it. -/
def readValue (cs : List Char) : Option (Json × Behind cs) :=
  match hspace : skipSpace cs with
  | 'n' :: 'u' :: 'l' :: 'l' :: rest =>
    some (.null, ⟨rest, by have := length_of_skipSpace hspace; grind⟩)
  | 't' :: 'r' :: 'u' :: 'e' :: rest =>
    some (.bool true, ⟨rest, by have := length_of_skipSpace hspace; grind⟩)
  | 'f' :: 'a' :: 'l' :: 's' :: 'e' :: rest =>
    some (.bool false, ⟨rest, by have := length_of_skipSpace hspace; grind⟩)
  | '"' :: rest =>
    match hstring : readString [] rest with
    | none => none
    | some (units, rest') =>
      some (.string units, ⟨rest', by
        have := length_of_skipSpace hspace; have := length_readString_lt hstring; grind⟩)
  | '[' :: rest =>
    have := length_of_skipSpace hspace
    match hclose : skip? ']' rest with
    | some rest' => some (.array [], ⟨rest', by have := length_skip?_lt hclose; grind⟩)
    | none =>
      match readElements rest with
      | none => none
      | some (elements, ⟨rest', h⟩) => some (.array elements, ⟨rest', by grind⟩)
  | '\x7b' :: rest =>
    have := length_of_skipSpace hspace
    match hclose : skip? '\x7d' rest with
    | some rest' => some (.object [], ⟨rest', by have := length_skip?_lt hclose; grind⟩)
    | none =>
      match readMembers rest with
      | none => none
      | some (members, ⟨rest', h⟩) => some (.object members, ⟨rest', by grind⟩)
  | rest =>
    match readNumber rest with
    | none => none
    | some (value, ⟨rest', h⟩) =>
      some (value, ⟨rest', by have := length_of_skipSpace hspace; grind⟩)
termination_by (cs.length, 0)

/-- Read the elements of an array and its closing bracket; there is at least one. -/
def readElements (cs : List Char) : Option (List Json × Behind cs) :=
  match readValue cs with
  | none => none
  | some (value, ⟨rest, h⟩) =>
    match hcomma : skip? ',' rest with
    | some rest' =>
      have := length_skip?_lt hcomma
      match readElements rest' with
      | none => none
      | some (values, ⟨rest₂, h'⟩) => some (value :: values, ⟨rest₂, by omega⟩)
    | none =>
      match hclose : skip? ']' rest with
      | some rest' => some ([value], ⟨rest', by have := length_skip?_lt hclose; omega⟩)
      | none => none
termination_by (cs.length, 1)

/-- Read the members of an object and its closing brace; there is at least one. -/
def readMembers (cs : List Char) : Option (List (JsonString × Json) × Behind cs) :=
  match hquote : skip? '"' cs with
  | none => none
  | some inside =>
    match hname : readString [] inside with
    | none => none
    | some (name, behindName) =>
      match hcolon : skip? ':' behindName with
      | none => none
      | some behindColon =>
        have : behindColon.length < cs.length := by
          have := length_skip?_lt hquote
          have := length_readString_lt hname
          have := length_skip?_lt hcolon
          omega
        match readValue behindColon with
        | none => none
        | some (value, ⟨rest, h⟩) =>
          match hcomma : skip? ',' rest with
          | some rest' =>
            have := length_skip?_lt hcomma
            match readMembers rest' with
            | none => none
            | some (members, ⟨rest₂, h'⟩) => some ((name, value) :: members, ⟨rest₂, by omega⟩)
          | none =>
            match hclose : skip? '\x7d' rest with
            | some rest' =>
              some ([(name, value)], ⟨rest', by have := length_skip?_lt hclose; omega⟩)
            | none => none
termination_by (cs.length, 1)

end

/-- The value that a text spells. -/
def parse (text : List Char) : Option Json :=
  match readValue text with
  | some (value, ⟨rest, _⟩) => if (skipSpace rest).isEmpty then some value else none
  | none => none

end Json

end GlslPrelude
