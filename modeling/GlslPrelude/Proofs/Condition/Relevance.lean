import GlslPrelude.Condition.Overlap

/-!
# The flags that matter to a condition

A condition has the same value in two environments that agree on the flags it mentions. Conditions
that hold together in some environment therefore do so in one of those that `overlaps` tries, which
differ in the mentioned features only.
-/

namespace GlslPrelude

namespace Condition

variable {env env' : Environment}

mutual

/-- Environments that agree on the mentioned flags give a condition the same value. -/
theorem eval_congr : (p : Condition) →
    (∀ f, p.mentions f = true → env.isSet f = env'.isSet f) → p.eval env = p.eval env'
  | .always, _ => rfl
  | .flag f, h => by
      rw [eval, eval]
      exact h f (by simp [mentions])
  | .not p, h => by
      rw [eval, eval, eval_congr p h]
  | .all ps, h => evalAll_congr ps h
  | .any ps, h => evalAny_congr ps h

/-- Environments that agree on the mentioned flags give a conjunction the same value. -/
theorem evalAll_congr : (ps : List Condition) →
    (∀ f, anyMentions f ps = true → env.isSet f = env'.isSet f) → evalAll env ps = evalAll env' ps
  | [], _ => rfl
  | p :: ps, h => by
      have hp := eval_congr p fun f hf => h f (by rw [anyMentions, hf, Bool.true_or])
      have hps := evalAll_congr ps fun f hf => h f (by rw [anyMentions, hf, Bool.or_true])
      rw [evalAll, evalAll, hp, hps]

/-- Environments that agree on the mentioned flags give a disjunction the same value. -/
theorem evalAny_congr : (ps : List Condition) →
    (∀ f, anyMentions f ps = true → env.isSet f = env'.isSet f) → evalAny env ps = evalAny env' ps
  | [], _ => rfl
  | p :: ps, h => by
      have hp := eval_congr p fun f hf => h f (by rw [anyMentions, hf, Bool.true_or])
      have hps := evalAny_congr ps fun f hf => h f (by rw [anyMentions, hf, Bool.or_true])
      rw [evalAny, evalAny, hp, hps]

end

end Condition

namespace Environment

/-- The environment with all features disabled that are not listed. -/
def restrict (env : Environment) (features : List Feature) : Environment :=
  ofFeatures env.api env.stage (features.filter env.features.contains)

/-- Listed features keep their state. -/
theorem isSet_restrict_feature (env : Environment) {features : List Feature} {feature : Feature}
    (h : feature ∈ features) :
    (env.restrict features).isSet (.feature feature) = env.isSet (.feature feature) := by
  rw [Bool.eq_iff_iff]
  change feature ∈ EnumSet.ofList (features.filter env.features.contains) ↔ _
  rw [EnumSet.mem_ofList, List.mem_filter, and_iff_right h]
  rfl

/-- An environment restricted to some features is among the environments over these. -/
theorem restrict_mem_environmentsOver (env : Environment) (features : List Feature) :
    env.restrict features ∈ Condition.environmentsOver features := by
  rw [Condition.environmentsOver]
  refine List.mem_flatMap.2 ⟨env.api, mem_elements _, ?_⟩
  refine List.mem_flatMap.2 ⟨env.stage, mem_elements _, List.mem_map_of_mem ?_⟩
  exact Condition.mem_selections.2 List.filter_sublist

end Environment

namespace Condition

variable {p q : Condition} {env : Environment}

/-- To disable features that a condition does not mention leaves its value as it is. -/
theorem eval_restrict {features : List Feature}
    (h : ∀ feature, p.mentions (.feature feature) = true → feature ∈ features) :
    p.eval (env.restrict features) = p.eval env := by
  refine eval_congr p fun f hf => ?_
  cases f with
  | api => rfl
  | stage => rfl
  | feature feature => exact env.isSet_restrict_feature (h feature hf)

/-- Conditions that hold together in some environment overlap. -/
theorem overlaps_of_eval (hp : p.eval env = true) (hq : q.eval env = true) :
    p.overlaps q = true := by
  have hshared : ∀ feature,
      (p.mentions (.feature feature) || q.mentions (.feature feature)) = true →
      feature ∈ sharedFeatures p q := fun feature hf =>
    List.mem_filter.2 ⟨mem_elements feature, hf⟩
  rw [overlaps, List.any_eq_true]
  refine ⟨env.restrict (sharedFeatures p q), env.restrict_mem_environmentsOver _, ?_⟩
  rw [eval_restrict fun f hf => hshared f (by rw [hf, Bool.true_or]),
    eval_restrict fun f hf => hshared f (by rw [hf, Bool.or_true]), hp, hq, Bool.and_self]

end Condition

end GlslPrelude
