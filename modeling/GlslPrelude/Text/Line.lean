/-!
# Lines

A text is cut into lines behind each newline. Every line keeps its newline, so the lines of a text
put together are the text again.
-/

namespace GlslPrelude

namespace Text

/-- The lines of a text with one more character in front. -/
def consLine (c : Char) : List (List Char) → List (List Char)
  | [] => [[c]]
  | line :: lines => if c = '\n' then [c] :: line :: lines else (c :: line) :: lines

/-- The lines of a text, each with the newline that ends it. -/
def lines (cs : List Char) : List (List Char) :=
  cs.foldr consLine []

/-- Putting the lines of a text together gives the text. -/
@[simp]
theorem flatten_lines (cs : List Char) : (lines cs).flatten = cs := by
  induction cs with
  | nil => rfl
  | cons c cs ih =>
    change (consLine c (lines cs)).flatten = c :: cs
    unfold consLine
    split
    · simp_all
    · split <;> simp_all

end Text

end GlslPrelude
