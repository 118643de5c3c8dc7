import GlslPrelude.Proofs.Value.Forms

/-!
# The integers in values

A value is a tree of literals, and another value is the same tree only if their literals are the
same, one by one (`SameTree.leaves`). So no integer comes into a value that is brought to the form
of a type (`SameTree.integers_sublist`), and none goes where the literals do not become
floating-point numbers (`SameTree.integers_eq`).
-/

namespace GlslPrelude

namespace ConstValue

variable {v w : ConstValue} {vs : List ConstValue} {n : Int}

mutual

/-- The literals in a value, from left to right. -/
def leaves : ConstValue → List ConstValue
  | .aggregate values => leavesOf values
  | value => [value]

/-- The literals in values, from left to right. -/
def leavesOf : List ConstValue → List ConstValue
  | [] => []
  | v :: vs => v.leaves ++ leavesOf vs

end

/-- The literals in values are those in each of them. -/
theorem mem_leavesOf : v ∈ leavesOf vs ↔ ∃ u ∈ vs, v ∈ u.leaves := by
  induction vs with
  | nil => simp [leavesOf]
  | cons u us ih => simp [leavesOf, ih]

/-- An integer is its own only literal. -/
theorem leaves_of_integer? (h : v.integer? = some n) : v.leaves = [v] := by
  cases v with
  | bool | float | aggregate => cases h
  | int | uint => rfl

/-- The literals of the same tree are the same, one by one. -/
theorem SameTree.leaves {v w : ConstValue} (h : SameTree v w) :
    List.Forall₂ SameTree v.leaves w.leaves := by
  -- lists of the same trees have the same literals, if this holds of each tree
  have hlists {vs ws : List ConstValue} (hsame : List.Forall₂ SameTree vs ws)
      (hleaves : ∀ v ∈ vs, ∀ w, SameTree v w → List.Forall₂ SameTree v.leaves w.leaves) :
      List.Forall₂ SameTree (leavesOf vs) (leavesOf ws) := by
    induction hsame with
    | nil => exact .nil
    | cons hhead _ ih =>
        rw [List.forall_mem_cons] at hleaves
        exact List.rel_append (hleaves.1 _ hhead) (ih hleaves.2)
  cases h with
  | bool b => exact .cons (.bool b) .nil
  | float x => exact .cons (.float x) .nil
  | integer hv hw =>
      rw [leaves_of_integer? hv, leaves_of_integer? hw]
      exact .cons (.integer hv hw) .nil
  | rounded hv =>
      rw [leaves_of_integer? hv]
      exact .cons (.rounded hv) .nil
  | aggregate hsame => exact hlists hsame fun v _ w h => SameTree.leaves h

/-- The integers in a value, from left to right. -/
def integers (v : ConstValue) : List Int :=
  v.leaves.filterMap integer?

theorem mem_integers : n ∈ v.integers ↔ ∃ u ∈ v.leaves, u.integer? = some n :=
  List.mem_filterMap

/-- What stands for an integer stood for it before. -/
theorem SameTree.integer?_of_integer? (h : SameTree v w) (hw : w.integer? = some n) :
    v.integer? = some n := by
  cases h with
  | bool | float | rounded | aggregate => cases hw
  | integer hv hw' => rw [hv, ← hw', hw]

/-- What stood for an integer still does, unless it has become a floating-point number. -/
theorem SameTree.integer?_eq (h : SameTree v w) (hw : ∀ x, .float x ≠ w) :
    w.integer? = v.integer? := by
  cases h with
  | bool | float | aggregate => rfl
  | integer hv hw => rw [hv, hw]
  | rounded => exact absurd rfl (hw _)

/-- The integers of the same tree were there before, in the same order. -/
theorem SameTree.integers_sublist (hsame : SameTree v w) :
    w.integers.Sublist v.integers := by
  rw [integers, integers]
  have h := hsame.leaves
  generalize v.leaves = us, w.leaves = xs at h
  induction h with
  | nil => exact .slnil
  | @cons u x us xs hhead _ ih =>
      rw [List.filterMap_cons, List.filterMap_cons]
      cases hx : x.integer? with
      | some n =>
          rw [hhead.integer?_of_integer? hx]
          exact ih.cons_cons n
      | none =>
          dsimp only
          split
          · exact ih
          · exact ih.cons _

/-- If no number has become a floating-point one, the integers are the same. -/
theorem SameTree.integers_eq (hsame : SameTree v w) (hw : ∀ x, .float x ∉ w.leaves) :
    w.integers = v.integers := by
  rw [integers, integers]
  have h := hsame.leaves
  generalize v.leaves = us, w.leaves = xs at h hw
  induction h with
  | nil => rfl
  | cons hhead _ ih =>
      simp only [List.mem_cons, not_or] at hw
      rw [List.filterMap_cons, List.filterMap_cons, hhead.integer?_eq fun x => (hw x).1,
        ih fun x => (hw x).2]

end ConstValue

end GlslPrelude
