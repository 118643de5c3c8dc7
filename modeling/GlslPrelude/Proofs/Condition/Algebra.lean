import GlslPrelude.Condition.Basic

/-!
# The algebra of the combinators

Conjunctions and disjunctions are joined without regard to grouping, as trees and not only in
meaning (`Condition.and_assoc`, `Condition.or_assoc`). This holds of every combinator that puts the
terms of its operands under one operator (`Condition.combine_assoc`), and both do so unless an
operand always holds (`Condition.and_eq_all`, `Condition.or_eq_any`).
-/

namespace GlslPrelude

namespace Condition

variable {p q : Condition}

/-- The terms that the condition adds to a conjunction. -/
def conjuncts : Condition → List Condition
  | .all ps => ps
  | p => [p]

/-- The terms that the condition adds to a disjunction. -/
def disjuncts : Condition → List Condition
  | .any ps => ps
  | p => [p]

/-- In front of a condition, `always` is dropped from a conjunction. -/
theorem always_and (p : Condition) : always.and p = p := by
  cases p <;> rfl

/-- Behind a condition, `always` is dropped from a conjunction. -/
theorem and_always (p : Condition) : p.and always = p := by
  cases p <;> rfl

/-- In front of a condition, `always` absorbs a disjunction. -/
theorem always_or (p : Condition) : always.or p = always := by
  cases p <;> rfl

/-- Behind a condition, `always` absorbs a disjunction. -/
theorem or_always (p : Condition) : p.or always = always := by
  cases p <;> rfl

/-- Any other two conditions are joined by putting their terms under one conjunction. -/
theorem and_eq_all (hp : p ≠ always) (hq : q ≠ always) :
    p.and q = all (p.conjuncts ++ q.conjuncts) := by
  fun_cases and p q <;> simp_all [conjuncts]

/-- Any other two conditions are joined by putting their terms under one disjunction. -/
theorem or_eq_any (hp : p ≠ always) (hq : q ≠ always) :
    p.or q = any (p.disjuncts ++ q.disjuncts) := by
  fun_cases or p q <;> simp_all [disjuncts]

/-- A combinator that puts the terms of its operands under an operator yields the same tree however
the operands are grouped. -/
theorem combine_assoc {combine : Condition → Condition → Condition}
    {operator : List Condition → Condition} {terms : Condition → List Condition}
    (hcombine : ∀ p q, p ≠ always → q ≠ always → combine p q = operator (terms p ++ terms q))
    (hterms : ∀ ps, terms (operator ps) = ps) (hne : ∀ ps, operator ps ≠ always)
    {p q r : Condition} (hp : p ≠ always) (hq : q ≠ always) (hr : r ≠ always) :
    combine (combine p q) r = combine p (combine q r) := by
  calc combine (combine p q) r
      = operator (terms p ++ terms q ++ terms r) := by
        rw [hcombine p q hp hq, hcombine _ r (hne _) hr, hterms]
    _ = operator (terms p ++ (terms q ++ terms r)) := by rw [List.append_assoc]
    _ = combine p (combine q r) := by
        rw [hcombine q r hq hr, hcombine p _ hp (hne _), hterms]

/-- Conjunctions are the same tree however their operands are grouped. -/
protected theorem and_assoc (p q r : Condition) : (p.and q).and r = p.and (q.and r) := by
  by_cases hp : p = always
  · rw [hp, always_and, always_and]
  by_cases hq : q = always
  · rw [hq, and_always, always_and]
  by_cases hr : r = always
  · rw [hr, and_always, and_always]
  exact combine_assoc (fun _ _ => and_eq_all) (fun _ => rfl) (by simp) hp hq hr

/-- Disjunctions are the same tree however their operands are grouped. -/
protected theorem or_assoc (p q r : Condition) : (p.or q).or r = p.or (q.or r) := by
  by_cases hp : p = always
  · rw [hp, always_or, always_or, always_or]
  by_cases hq : q = always
  · rw [hq, or_always, always_or, or_always]
  by_cases hr : r = always
  · rw [hr, or_always, or_always, or_always]
  exact combine_assoc (fun _ _ => or_eq_any) (fun _ => rfl) (by simp) hp hq hr

end Condition

end GlslPrelude
