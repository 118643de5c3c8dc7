import GlslPrelude.Proofs.Type.Operators

/-!
# Comparisons of opaque values

Opaque values can only be passed around and handed to builtin functions. Operands that are opaque
are not compared, but their elements and members are not looked at: a type that contains opaque
values without being opaque itself can be compared with itself, and with no other type
(`Ty.binary?_eq_of_hasOpaque`).
-/

namespace GlslPrelude

namespace Ty

/-- Whether the values of the type are opaque, or there are none. -/
def isOpaque : Ty → Bool
  | .handle _ | .void => true
  | .scalar _ | .vector .. | .matrix .. | .struct .. | .array .. => false

mutual

/-- Whether an opaque type occurs in the type, also inside elements and members. -/
def hasOpaque : Ty → Bool
  | .handle _ | .void => true
  | .array a _ => a.hasOpaque
  | .struct _ fs => anyOpaque fs
  | .scalar _ | .vector .. | .matrix .. => false

/-- Whether one occurs in the type of a member. -/
def anyOpaque : List (Field Ty) → Bool
  | [] => false
  | ⟨_, t, _⟩ :: fs => t.hasOpaque || anyOpaque fs

end

variable {a b t : Ty} {op : BinaryOp}

/-- Types that contain opaque types have no components. -/
theorem scalar?_of_hasOpaque (h : t.hasOpaque = true) : t.scalar? = none := by
  cases t with
  | scalar | vector | matrix => cases h
  | void | handle | struct | array => rfl

/-- Operands of which one contains opaque types have no common kind. -/
theorem unify?_of_hasOpaque (h : a.hasOpaque = true ∨ b.hasOpaque = true) :
    unify? a b = none := by
  unfold unify?
  rcases h with ha | hb
  · rw [scalar?_of_hasOpaque ha]
  · rw [scalar?_of_hasOpaque hb]
    cases a.scalar? <;> rfl

/-- A type that is not opaque itself can be compared with itself. -/
theorem binary?_eq_self (t : Ty) :
    binary? .eq t t = if t.isOpaque then none else some (.scalar .bool) := by
  cases t with
  | void | handle => rfl
  | scalar | vector | matrix | struct | array => simp [binary?, isOpaque]

/-- If an operand contains opaque types, at whatever depth, the operands can be compared only if
they are of one type, which is not opaque itself. -/
theorem binary?_eq_of_hasOpaque (hop : op = .eq ∨ op = .neq)
    (h : a.hasOpaque = true ∨ b.hasOpaque = true) :
    binary? op a b = if a = b ∧ a.isOpaque = false then some (.scalar .bool) else none := by
  -- both comparisons have the same operands
  have hcomparison : binary? op a b = binary? .eq a b := by
    rcases hop with rfl | rfl <;> rfl
  rw [hcomparison]
  by_cases heq : a = b
  · subst heq
    rw [binary?_eq_self]
    cases a.isOpaque <;> simp
  · rw [binary?_eq_of_ne heq, unify?_of_hasOpaque h]
    simp [heq]

/-- A `sampler2D`. -/
abbrev sampler2D : Ty :=
  .handle (.sampler
    { sampled := .float, dim := .twoD, isArray := false, isMultisample := false
      isShadow := false })

/-- A block with an array of samplers is compared with itself, and not with the array or with a
sampler; samplers are not compared. -/
theorem binary?_eq_of_hasOpaque_samplers :
    let samplers : Ty := .array sampler2D (.fixed 2)
    let block : Ty := .struct "B" [⟨"s", samplers, ∅⟩]
    (BinaryOp.neq = .eq ∨ BinaryOp.neq = .neq) ∧ block.hasOpaque = true ∧
      binary? .neq block block = some (.scalar .bool) ∧ binary? .neq samplers block = none ∧
      binary? .neq block sampler2D = none ∧ binary? .neq sampler2D sampler2D = none := by
  intro samplers block
  have hop : BinaryOp.neq = .eq ∨ BinaryOp.neq = .neq := .inr rfl
  have hblock : block.hasOpaque = true := rfl
  exact ⟨hop, hblock, (binary?_eq_of_hasOpaque hop (.inl hblock)).trans (if_pos ⟨rfl, rfl⟩),
    (binary?_eq_of_hasOpaque hop (.inr hblock)).trans (if_neg (by simp [samplers, block])),
    (binary?_eq_of_hasOpaque hop (.inl hblock)).trans (if_neg (by simp [block])),
    (binary?_eq_of_hasOpaque hop (.inl rfl)).trans (if_neg (by simp [isOpaque]))⟩

/-- Not all operands that contain opaque types are refused: arrays of samplers are compared. -/
theorem not_forall_binary?_eq_none_of_hasOpaque :
    ¬∀ a b : Ty, a.hasOpaque = true ∨ b.hasOpaque = true →
      binary? .eq a b = none ∧ binary? .neq a b = none := by
  intro h
  have hsamplers := h (.array sampler2D (.fixed 2)) (.array sampler2D (.fixed 2)) (.inl rfl)
  have hcompared : binary? .eq (.array sampler2D (.fixed 2)) (.array sampler2D (.fixed 2)) =
      some (.scalar .bool) := by decide
  exact absurd (hcompared.symm.trans hsamplers.1) (by simp)

end Ty

end GlslPrelude
