import GlslPrelude.Proofs.Condition.Relevance

/-!
# Overlap is exact

Conditions overlap exactly when both hold in one environment. What the search finds is such an
environment, and by `overlaps_of_eval` it misses none although it tries the mentioned features only.

The choices among these features can also be counted through: the numbers below a power of two stand
for them, bit `i` for the feature at position `i` (`overlaps_eq_any_masks`).
-/

namespace GlslPrelude

namespace Condition

variable {p q : Condition}

/-- Overlapping conditions hold together in some environment. -/
theorem exists_eval_of_overlaps (h : p.overlaps q = true) :
    ∃ env : Environment, p.eval env = true ∧ q.eval env = true := by
  obtain ⟨env, -, hboth⟩ := List.any_eq_true.1 h
  exact ⟨env, by simpa using hboth⟩

theorem overlaps_comm (p q : Condition) : p.overlaps q = q.overlaps p := by
  have flip : ∀ p q : Condition, p.overlaps q = true → q.overlaps p = true := by
    intro p q h
    obtain ⟨env, hp, hq⟩ := exists_eval_of_overlaps h
    exact overlaps_of_eval hq hp
  exact Bool.eq_iff_iff.2 ⟨flip p q, flip q p⟩

/-- Two conditions overlap exactly when there are an API, a stage and a set of features with which
both of them hold. -/
theorem overlaps_iff_exists_eval (p q : Condition) :
    p.overlaps q = true ↔
      ∃ (api : Api) (stage : Stage) (features : FeatureSet),
        p.eval { api, stage, features } = true ∧ q.eval { api, stage, features } = true := by
  constructor
  · intro h
    obtain ⟨⟨api, stage, features⟩, hp, hq⟩ := exists_eval_of_overlaps h
    exact ⟨api, stage, features, hp, hq⟩
  · rintro ⟨api, stage, features, hp, hq⟩
    exact overlaps_of_eval hp hq

/-- An empty disjunction overlaps with nothing, an empty conjunction with what holds somewhere. -/
example :
    never.overlaps .always = false ∧ (all []).overlaps (.flag (.feature .rayQuery)) = true := by
  decide +kernel

/-! ## Choices as numbers -/

section Masks

variable {α : Type}

/-- The elements of a list at whose positions a number has a bit. -/
def chosen : List α → Nat → List α
  | [], _ => []
  | a :: as, mask => if mask.testBit 0 then a :: chosen as (mask / 2) else chosen as (mask / 2)

/-- The selections from a list are the choices by the numbers that have a bit for each element. -/
theorem mem_selections_iff_exists_mask {as bs : List α} :
    bs ∈ selections as ↔ ∃ mask < 1 <<< as.length, chosen as mask = bs := by
  induction as generalizing bs with
  | nil => simp [selections, chosen, eq_comm]
  | cons a as ih =>
      have halves (mask : Nat) : mask < 1 <<< (as.length + 1) ↔ mask / 2 < 1 <<< as.length := by
        rw [Nat.shiftLeft_succ]
        omega
      simp only [selections, List.mem_append, List.mem_map, ih, List.length_cons, halves]
      constructor
      · -- the bit of `a` goes below those of the others
        rintro (⟨mask, hmask, rfl⟩ | ⟨_, ⟨mask, hmask, rfl⟩, rfl⟩)
        · have hhalf : 2 * mask / 2 = mask := by omega
          exact ⟨2 * mask, by rwa [hhalf], by simp [chosen, hhalf]⟩
        · have hhalf : (2 * mask + 1) / 2 = mask := by omega
          exact ⟨2 * mask + 1, by rwa [hhalf], by simp [chosen, hhalf]⟩
      · rintro ⟨mask, hmask, rfl⟩
        rw [chosen]
        split
        · exact .inr ⟨_, ⟨_, hmask, rfl⟩, rfl⟩
        · exact .inl ⟨_, hmask, rfl⟩

end Masks

/-- The search for an overlap may count through the choices among the mentioned features. -/
theorem overlaps_eq_any_masks (p q : Condition) :
    p.overlaps q =
      (elements Api).any fun api => (elements Stage).any fun stage =>
        (List.range (1 <<< (sharedFeatures p q).length)).any fun mask =>
          let env := Environment.ofFeatures api stage (chosen (sharedFeatures p q) mask)
          p.eval env && q.eval env := by
  have masks (test : List Feature → Bool) :
      (selections (sharedFeatures p q)).any test =
        (List.range (1 <<< (sharedFeatures p q).length)).any
          fun mask => test (chosen (sharedFeatures p q) mask) := by
    rw [Bool.eq_iff_iff, List.any_eq_true, List.any_eq_true]
    constructor
    · rintro ⟨features, hmem, htest⟩
      obtain ⟨mask, hmask, rfl⟩ := mem_selections_iff_exists_mask.1 hmem
      exact ⟨mask, List.mem_range.2 hmask, htest⟩
    · rintro ⟨mask, hmask, htest⟩
      exact ⟨_, mem_selections_iff_exists_mask.2 ⟨mask, List.mem_range.1 hmask, rfl⟩, htest⟩
  simp only [overlaps, environmentsOver, List.any_flatMap, List.any_map, masks, Function.comp_def]

end Condition

end GlslPrelude
