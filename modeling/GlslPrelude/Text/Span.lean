/-!
# Initial spans

Facts about the part of a list before and behind the first element that fails a test, which is how
readers of text take a word or a number off their input.
-/

namespace GlslPrelude

/-- Dropping an initial span does not lengthen a list. -/
theorem length_dropWhile_le {α : Type} (p : α → Bool) (as : List α) :
    (as.dropWhile p).length ≤ as.length :=
  (List.dropWhile_sublist p).length_le

grind_pattern length_dropWhile_le => (as.dropWhile p).length

end GlslPrelude
