/-!
# Words in a text

Taking a given word off the front of a text, and parting a text at the first place where the word
stands.
-/

namespace GlslPrelude

namespace Text

/-- Whether a text begins with a word, and the text without it. -/
def takeWord (word : String) (cs : List Char) : Bool × List Char :=
  match word.toList.isPrefixOf? cs with
  | some rest => (true, rest)
  | none => (false, cs)

/-- The parts of a text in front of a word and behind it, at the first place where it stands. -/
def partAt? (word : String) : List Char → Option (List Char × List Char)
  | [] => none
  | c :: cs =>
    match word.toList.isPrefixOf? (c :: cs) with
    | some behind => some ([], behind)
    | none => (partAt? word cs).map fun (front, behind) => (c :: front, behind)

end Text

end GlslPrelude
