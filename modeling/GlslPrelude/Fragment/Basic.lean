import GlslPrelude.Condition.Basic
import GlslPrelude.Text.Line

/-!
# Fragments

A fragment is a stretch of prelude text under one condition. It keeps the place of every line: the
lines in between that belong to other conditions are left empty.
-/

namespace GlslPrelude

/-- Prelude text that is governed by one condition. -/
structure Fragment where
  /-- Conjunction of the conditions around the text. -/
  condition : Condition
  /-- Number of the first line in the source, counted from 1. -/
  line : Nat
  /-- The lines; line `i` of the list is line `line + i` of the source. -/
  lines : List (List Char)
deriving DecidableEq

namespace Fragment

/-- The text under a condition that starts at a given line. -/
def ofText (text : List Char) (line : Nat) (condition : Condition) : Fragment :=
  { condition, line, lines := Text.lines text }

/-- The whole text. -/
def text (fragment : Fragment) : List Char :=
  fragment.lines.flatten

/-- A fragment of one text has the text. -/
theorem text_ofText (text : List Char) (line : Nat) (condition : Condition) :
    (ofText text line condition).text = text :=
  Text.flatten_lines text

/-- Whether the fragment counts in an environment. -/
def isActive (fragment : Fragment) (env : Environment) : Bool :=
  fragment.condition.eval env

end Fragment

end GlslPrelude
