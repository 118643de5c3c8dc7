/-!
# Blank characters

The characters with the Unicode property White_Space, and trimming by them.
-/

namespace GlslPrelude

namespace Text

/-- Whether the character has the Unicode property White_Space. -/
def isBlank (c : Char) : Bool :=
  ('\t' ≤ c && c ≤ '\r') || c = ' ' || c = '\u0085' || c = '\u00a0' || c = '\u1680' ||
    ('\u2000' ≤ c && c ≤ '\u200a') || c = '\u2028' || c = '\u2029' || c = '\u202f' ||
    c = '\u205f' || c = '\u3000'

/-- The text without blank characters at its start. -/
def trimStart (cs : List Char) : List Char :=
  cs.dropWhile isBlank

/-- The text without the characters at its end that pass a test. -/
def dropEndWhile (p : Char → Bool) (cs : List Char) : List Char :=
  (cs.reverse.dropWhile p).reverse

/-- The text without blank characters at its end. -/
def trimEnd (cs : List Char) : List Char :=
  dropEndWhile isBlank cs

/-- The text without blank characters at either end. -/
def trim (cs : List Char) : List Char :=
  trimEnd (trimStart cs)

end Text

end GlslPrelude
