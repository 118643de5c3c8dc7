import GlslPrelude.Data.EnumSet

/-!
# Qualifiers

The keywords that may stand before a type in a declaration, and the direction in which they let data
flow.
-/

namespace GlslPrelude

/-- Storage, interpolation, precision, memory or parameter qualifier. -/
inductive Qualifier where
  | in
  | out
  | inout
  | patch
  | flat
  | const
  | readonly
  | writeonly
  | highp
  | mediump
  | lowp
  | volatile
  | coherent
  | restrict
  | uniform
  | shared
  | centroid
  | smooth
  | noperspective
  | invariant
  | precise
deriving DecidableEq, Repr

instance : Enumeration Qualifier where
  all := [.in, .out, .inout, .patch, .flat, .const, .readonly, .writeonly, .highp, .mediump, .lowp,
    .volatile, .coherent, .restrict, .uniform, .shared, .centroid, .smooth, .noperspective,
    .invariant, .precise]
  nodup_all := by decide
  mem_all := by intro a; cases a <;> decide

namespace Qualifier

/-- Keyword of the qualifier. -/
def keyword : Qualifier → String
  | .in => "in"
  | .out => "out"
  | .inout => "inout"
  | .patch => "patch"
  | .flat => "flat"
  | .const => "const"
  | .readonly => "readonly"
  | .writeonly => "writeonly"
  | .highp => "highp"
  | .mediump => "mediump"
  | .lowp => "lowp"
  | .volatile => "volatile"
  | .coherent => "coherent"
  | .restrict => "restrict"
  | .uniform => "uniform"
  | .shared => "shared"
  | .centroid => "centroid"
  | .smooth => "smooth"
  | .noperspective => "noperspective"
  | .invariant => "invariant"
  | .precise => "precise"

/-- The qualifier with a given keyword. -/
def ofKeyword? (word : String) : Option Qualifier :=
  (elements Qualifier).find? (·.keyword == word)

end Qualifier

/-- Direction in which data flows through a parameter or a stage interface variable. -/
inductive Direction where
  | in
  | out
  | inout
deriving DecidableEq, Repr

/-- The qualifiers of a declared entity. -/
abbrev QualifierSet := EnumSet Qualifier

namespace QualifierSet

/-- Direction that the qualifiers give; `in` and `out` together mean both ways. -/
def direction? (qs : QualifierSet) : Option Direction :=
  if qs.contains .inout || (qs.contains .in && qs.contains .out) then some .inout
  else if qs.contains .out then some .out
  else if qs.contains .in then some .in
  else none

/-- The keywords in canonical order, each followed by a space. -/
def render (qs : QualifierSet) : String :=
  String.join (qs.toList.map (·.keyword ++ " "))

/-- The quoted keywords in braces, separated by commas. -/
def describe (qs : QualifierSet) : String :=
  "\x7b" ++ ", ".intercalate (qs.toList.map fun q => "\"" ++ q.keyword ++ "\"") ++ "\x7d"

end QualifierSet

end GlslPrelude
