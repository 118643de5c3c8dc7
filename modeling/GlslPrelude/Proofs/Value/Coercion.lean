import GlslPrelude.Proofs.Value.Integers

/-!
# The least integer in values

No number of a value becomes the least signed integer, the only one that cannot be written as a
number behind a minus, when the value is brought to the form of a type (`hasLeast_of_coerce?`).
-/

namespace GlslPrelude

namespace ConstValue

variable {type : Ty} {v w : ConstValue} {vs : List ConstValue}

/-- Some literal of the value is the least signed integer. -/
def HasLeast (v : ConstValue) : Prop :=
  .int Int64.minValue ∈ v.leaves

/-- A list has the least integer if one of its values has it. -/
theorem not_hasLeast_cons :
    ¬(aggregate (v :: vs)).HasLeast ↔ ¬v.HasLeast ∧ ¬(aggregate vs).HasLeast := by
  simp [HasLeast, leaves, leavesOf]

/-- A word is read as a signed integer that is not negative. -/
theorem ne_minValue_of_signed? {u : UInt64} {i : Int64} (h : signed? u = some i) :
    i ≠ Int64.minValue := by
  rintro rfl
  have hword := signed?_eq_some_iff.1 h
  rw [Int64.toInt_minValue] at hword
  omega

/-- The integer that a value is, is the least one only if that is in the value. -/
theorem ne_minValue_of_toInt? {i : Int64} (hv : ¬v.HasLeast) (h : v.toInt? = some i) :
    i ≠ Int64.minValue := by
  unfold toInt? at h
  split at h
  · cases h
    rintro rfl
    exact hv (List.mem_singleton_self _)
  · exact ne_minValue_of_signed? h
  · cases h

/-- The least integer is a literal of the value if it is one of its integers: no word is negative.
-/
theorem hasLeast_iff_mem_integers : v.HasLeast ↔ Int64.minValue.toInt ∈ v.integers := by
  rw [HasLeast, mem_integers]
  constructor
  · intro h
    exact ⟨_, h, rfl⟩
  · rintro ⟨u, hu, hleast⟩
    cases u with
    | bool | float | aggregate => cases hleast
    | int i =>
        obtain rfl : i = Int64.minValue := Int64.toInt_inj.1 (Option.some.inj hleast)
        exact hu
    | uint word =>
        have hword := Option.some.inj hleast
        rw [Int64.toInt_minValue] at hword
        omega

/-- A value in the form of a type has the least integer only where it had it before. -/
theorem hasLeast_of_coerce? (h : v.coerce? type = some w) (hw : w.HasLeast) : v.HasLeast := by
  obtain ⟨-, hsame⟩ := coerce?_eq_some_iff.1 h
  rw [hasLeast_iff_mem_integers] at hw ⊢
  exact hsame.integers_sublist.subset hw

end ConstValue

end GlslPrelude
