import Mathlib.Data.List.Forall2

/-!
# Partial functions on lists

A partial function that is tried at every place of a list has results for the list only if it has
one at every place (`mapM_eq_some_iff`, and as a relation between the two lists
`mapM_eq_some_iff_forall₂`).
-/

namespace GlslPrelude

variable {α β : Type} {f : α → Option β} {as : List α} {bs : List β}

/-- A partial function has results for all of a list exactly when its values are these results. -/
theorem mapM_eq_some_iff : as.mapM f = some bs ↔ as.map f = bs.map some := by
  induction as generalizing bs with
  | nil => cases bs <;> simp
  | cons a as ih => cases bs <;> simp [List.mapM_cons, Option.bind_eq_some_iff, ih]

/-- The results of a partial function stand at the places of what they are the results of. -/
theorem mapM_eq_some_iff_forall₂ :
    as.mapM f = some bs ↔ List.Forall₂ (fun a b => f a = some b) as bs := by
  rw [mapM_eq_some_iff, ← List.forall₂_eq_eq_eq, List.forall₂_map_left_iff,
    List.forall₂_map_right_iff]

/-- What tells the results of a partial function tells its results for a list, if it consists of a
property of the result and of a relation to what it is the result of. -/
theorem mapM_eq_some_iff_of_forall {p : β → Prop} {r : α → β → Prop}
    (hf : ∀ a b, f a = some b ↔ p b ∧ r a b) :
    as.mapM f = some bs ↔ (∀ b ∈ bs, p b) ∧ List.Forall₂ r as bs := by
  have hflip {s : α → β → Prop} : List.Forall₂ s as bs ↔ List.Forall₂ (flip s) bs as :=
    ⟨List.Forall₂.flip, List.Forall₂.flip⟩
  simp only [mapM_eq_some_iff_forall₂, hf]
  rw [hflip, hflip]
  exact List.forall₂_and_left bs as

end GlslPrelude
