import GlslPrelude.Condition.Basic

/-!
# Overlapping conditions

Whether two conditions can hold together. The search runs over every API, every stage and every
choice among the features that one of the conditions mentions: no other feature can matter.
-/

namespace GlslPrelude

namespace Condition

/-- The lists that remain when some elements of a list are left out. -/
def selections {α : Type} : List α → List (List α)
  | [] => [[]]
  | a :: as =>
    let rest := selections as
    rest ++ rest.map (a :: ·)

/-- A list is a selection exactly when it is a sublist. -/
@[simp]
theorem mem_selections {α : Type} {as bs : List α} : bs ∈ selections as ↔ bs.Sublist as := by
  induction as generalizing bs with
  | nil => simp [selections]
  | cons a as ih =>
    simp only [selections, List.mem_append, List.mem_map, ih, List.sublist_cons_iff]
    grind

/-- The features that one of two conditions mentions. -/
def sharedFeatures (p q : Condition) : List Feature :=
  (elements Feature).filter fun f => p.mentions (.feature f) || q.mentions (.feature f)

/-- The environments that enable no feature outside a list. -/
def environmentsOver (features : List Feature) : List Environment :=
  (elements Api).flatMap fun api =>
    (elements Stage).flatMap fun stage =>
      (selections features).map (Environment.ofFeatures api stage)

/-- Whether the two conditions hold together in some environment. -/
def overlaps (p q : Condition) : Bool :=
  (environmentsOver (sharedFeatures p q)).any fun env => p.eval env && q.eval env

/-- Whether the condition holds in some environment. -/
def satisfiable (p : Condition) : Bool :=
  p.overlaps .always

end Condition

end GlslPrelude
