import GlslPrelude.Environment.Basic

/-!
# Conditions

Boolean expressions over the flags of an environment, with the simplifying combinators by which
nested conditions are joined. `and_eval`, `or_eval` and `not_eval` say that the combinators keep the
meaning.
-/

namespace GlslPrelude

/-- A boolean expression over flags. -/
inductive Condition where
  /-- Always holds. -/
  | always
  /-- Holds if the flag is set. -/
  | flag (flag : Flag)
  /-- Holds if the operand does not. -/
  | not (operand : Condition)
  /-- Holds if all the terms do, so an empty conjunction holds. -/
  | all (terms : List Condition)
  /-- Holds if some term does, so an empty disjunction never holds. -/
  | any (terms : List Condition)
deriving Repr, Inhabited

namespace Condition

mutual

/-- Conditions are compared as trees. -/
def decEq : (p q : Condition) → Decidable (p = q)
  | .always, .always => isTrue rfl
  | .flag f, .flag g => decidable_of_iff (f = g) (by simp)
  | .not p, .not q => @decidable_of_iff _ _ (by simp) (decEq p q)
  | .all ps, .all qs => @decidable_of_iff _ _ (by simp) (decEqTerms ps qs)
  | .any ps, .any qs => @decidable_of_iff _ _ (by simp) (decEqTerms ps qs)
  | .always, .flag _ | .always, .not _ | .always, .all _ | .always, .any _
  | .flag _, .always | .flag _, .not _ | .flag _, .all _ | .flag _, .any _
  | .not _, .always | .not _, .flag _ | .not _, .all _ | .not _, .any _
  | .all _, .always | .all _, .flag _ | .all _, .not _ | .all _, .any _
  | .any _, .always | .any _, .flag _ | .any _, .not _ | .any _, .all _ => isFalse (by simp)

/-- Term lists are compared term by term. -/
def decEqTerms : (ps qs : List Condition) → Decidable (ps = qs)
  | [], [] => isTrue rfl
  | p :: ps, q :: qs =>
    match decEq p q with
    | isTrue h => @decidable_of_iff _ _ (by simp [h]) (decEqTerms ps qs)
    | isFalse h => isFalse (by simp [h])
  | [], _ :: _ | _ :: _, [] => isFalse (by simp)

end

instance : DecidableEq Condition := decEq

/-- A condition that never holds. -/
def never : Condition :=
  .any []

/-- Conjunction, with nested conjunctions flattened and `always` dropped. -/
def and : Condition → Condition → Condition
  | .always, q => q
  | p, .always => p
  | .all ps, .all qs => .all (ps ++ qs)
  | .all ps, q => .all (ps ++ [q])
  | p, .all qs => .all (p :: qs)
  | p, q => .all [p, q]

/-- Disjunction, with nested disjunctions flattened and `always` absorbing. -/
def or : Condition → Condition → Condition
  | .always, _ => .always
  | _, .always => .always
  | .any ps, .any qs => .any (ps ++ qs)
  | .any ps, q => .any (ps ++ [q])
  | p, .any qs => .any (p :: qs)
  | p, q => .any [p, q]

/-- Negation, with a double negation removed. -/
def negate : Condition → Condition
  | .not p => p
  | p => .not p

mutual

/-- Whether the condition holds in an environment. -/
def eval (env : Environment) : Condition → Bool
  | .always => true
  | .flag f => env.isSet f
  | .not p => !p.eval env
  | .all ps => evalAll env ps
  | .any ps => evalAny env ps

/-- Whether all the terms hold. -/
def evalAll (env : Environment) : List Condition → Bool
  | [] => true
  | p :: ps => p.eval env && evalAll env ps

/-- Whether some term holds. -/
def evalAny (env : Environment) : List Condition → Bool
  | [] => false
  | p :: ps => p.eval env || evalAny env ps

end

mutual

/-- Whether a flag occurs in the condition. -/
def mentions (flag : Flag) : Condition → Bool
  | .always => false
  | .flag f => f = flag
  | .not p => p.mentions flag
  | .all ps => anyMentions flag ps
  | .any ps => anyMentions flag ps

/-- Whether a flag occurs in one of the terms. -/
def anyMentions (flag : Flag) : List Condition → Bool
  | [] => false
  | p :: ps => p.mentions flag || anyMentions flag ps

end

/-- The flags that occur in the condition, in canonical order. -/
def flags (p : Condition) : List Flag :=
  (elements Flag).filter p.mentions

/-- All the terms hold exactly when each of them does. -/
@[simp]
theorem evalAll_eq (env : Environment) (ps : List Condition) :
    evalAll env ps = ps.all (eval env) := by
  induction ps with
  | nil => rfl
  | cons p ps ih => simp [evalAll, ih]

/-- Some term holds exactly when one of them does. -/
@[simp]
theorem evalAny_eq (env : Environment) (ps : List Condition) :
    evalAny env ps = ps.any (eval env) := by
  induction ps with
  | nil => rfl
  | cons p ps ih => simp [evalAny, ih]

/-- A flag occurs in a list of terms when it occurs in one of them. -/
@[simp]
theorem anyMentions_eq (flag : Flag) (ps : List Condition) :
    anyMentions flag ps = ps.any (mentions flag) := by
  induction ps with
  | nil => rfl
  | cons p ps ih => simp [anyMentions, ih]

/-- The combinator `and` means conjunction. -/
@[simp]
theorem and_eval (env : Environment) (p q : Condition) :
    (p.and q).eval env = (p.eval env && q.eval env) := by
  fun_cases and p q <;> simp [eval]

/-- The combinator `or` means disjunction. -/
@[simp]
theorem or_eval (env : Environment) (p q : Condition) :
    (p.or q).eval env = (p.eval env || q.eval env) := by
  fun_cases or p q <;> simp [eval]

/-- The combinator `negate` means negation. -/
@[simp]
theorem negate_eval (env : Environment) (p : Condition) :
    p.negate.eval env = !p.eval env := by
  fun_cases negate p <;> simp [eval]

end Condition

end GlslPrelude
