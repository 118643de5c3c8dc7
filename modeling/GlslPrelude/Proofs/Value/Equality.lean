import GlslPrelude.Declaration.Basic

/-!
# Equality of constant values

Values are compared as trees whose numbers are compared as numbers. The comparison is symmetric, a
value equals itself unless what is not a number occurs in it (`beq_self`), and equal values equal the
same values (`beq_congr`).
-/

namespace GlslPrelude

/-- Equal doubles equal the same doubles. -/
theorem Double.equals_congr {x y : Double} (h : x.equals y = true) (z : Double) :
    x.equals z = y.equals z := by
  obtain ⟨⟨hx, hy⟩, rfl | ⟨hx_zero, hy_zero⟩⟩ : (x.isNaN = false ∧ y.isNaN = false) ∧
      (x = y ∨ x.magnitude = 0 ∧ y.magnitude = 0) := by simpa [equals] using h
  · rfl
  · -- a zero equals the zeros of either sign
    have zero_equals {w : Double} (hw : w.isNaN = false) (hw_zero : w.magnitude = 0) :
        w.equals z = (!z.isNaN && decide (z.magnitude = 0)) := by
      by_cases hz : w = z
      · simp [equals, hw, ← hz, hw_zero]
      · simp [equals, hw, hz, hw_zero]
    rw [zero_equals hx hx_zero, zero_equals hy hy_zero]

namespace ConstValue

mutual

/-- Whether what is not a number occurs in the value. -/
def hasNaN : ConstValue → Bool
  | .float x => x.isNaN
  | .aggregate values => anyNaN values
  | .bool _ | .int _ | .uint _ => false

/-- Whether what is not a number occurs in one of the values. -/
def anyNaN : List ConstValue → Bool
  | [] => false
  | v :: vs => v.hasNaN || anyNaN vs

end

mutual

/-- A value equals itself unless what is not a number occurs in it. -/
theorem beq_self : (v : ConstValue) → v.beq v = !v.hasNaN
  | .bool _ | .int _ | .uint _ => by simp [beq, hasNaN]
  | .float x => by rw [beq, hasNaN, Double.equals_self]
  | .aggregate vs => by rw [beq, hasNaN, beqList_self vs]

/-- A list of values equals itself unless what is not a number occurs in it. -/
theorem beqList_self : (vs : List ConstValue) → beqList vs vs = !anyNaN vs
  | [] => rfl
  | v :: vs => by rw [beqList, anyNaN, beq_self v, beqList_self vs, Bool.not_or]

end

mutual

/-- The order of the compared values does not matter. -/
theorem beq_comm : (v w : ConstValue) → v.beq w = w.beq v
  | .bool _, .bool _ | .int _, .int _ | .uint _, .uint _ => by rw [beq, beq, BEq.comm]
  | .float x, .float y => by rw [beq, beq, Double.equals_comm]
  | .aggregate vs, .aggregate ws => by rw [beq, beq, beqList_comm vs ws]
  | .bool _, .int _ | .bool _, .uint _ | .bool _, .float _ | .bool _, .aggregate _
  | .int _, .bool _ | .int _, .uint _ | .int _, .float _ | .int _, .aggregate _
  | .uint _, .bool _ | .uint _, .int _ | .uint _, .float _ | .uint _, .aggregate _
  | .float _, .bool _ | .float _, .int _ | .float _, .uint _ | .float _, .aggregate _
  | .aggregate _, .bool _ | .aggregate _, .int _ | .aggregate _, .uint _
  | .aggregate _, .float _ => by simp [beq]

/-- The order of the compared lists does not matter. -/
theorem beqList_comm : (vs ws : List ConstValue) → beqList vs ws = beqList ws vs
  | [], [] | [], _ :: _ | _ :: _, [] => by simp [beqList]
  | v :: vs, w :: ws => by rw [beqList, beqList, beq_comm v w, beqList_comm vs ws]

end

mutual

/-- Equal values equal the same values. -/
theorem beq_congr : (v w u : ConstValue) → v.beq w = true → v.beq u = w.beq u
  | .bool _, .bool _, _, h | .int _, .int _, _, h | .uint _, .uint _, _, h => by
      rw [beq, beq_iff_eq] at h
      rw [h]
  | .float x, .float y, u, h => by
      rw [beq] at h
      cases u with
      | float z => rw [beq, beq, Double.equals_congr h]
      | _ => simp [beq]
  | .aggregate vs, .aggregate ws, u, h => by
      rw [beq] at h
      cases u with
      | aggregate us => rw [beq, beq, beqList_congr vs ws us h]
      | _ => simp [beq]
  | .bool _, .int _, _, h | .bool _, .uint _, _, h | .bool _, .float _, _, h
  | .bool _, .aggregate _, _, h | .int _, .bool _, _, h | .int _, .uint _, _, h
  | .int _, .float _, _, h | .int _, .aggregate _, _, h | .uint _, .bool _, _, h
  | .uint _, .int _, _, h | .uint _, .float _, _, h | .uint _, .aggregate _, _, h
  | .float _, .bool _, _, h | .float _, .int _, _, h | .float _, .uint _, _, h
  | .float _, .aggregate _, _, h | .aggregate _, .bool _, _, h | .aggregate _, .int _, _, h
  | .aggregate _, .uint _, _, h | .aggregate _, .float _, _, h => by simp [beq] at h

/-- Equal lists of values equal the same lists. -/
theorem beqList_congr : (vs ws us : List ConstValue) → beqList vs ws = true →
    beqList vs us = beqList ws us
  | [], [], _, _ => rfl
  | [], _ :: _, _, h | _ :: _, [], _, h => by simp [beqList] at h
  | v :: vs, w :: ws, [], _ => by simp [beqList]
  | v :: vs, w :: ws, u :: us, h => by
      rw [beqList, Bool.and_eq_true] at h
      rw [beqList, beqList, beq_congr v w u h.1, beqList_congr vs ws us h.2]

end

/-- Equal values are the same integer, if they are one. -/
theorem toInt?_eq_of_beq {v w : ConstValue} (h : v.beq w = true) : v.toInt? = w.toInt? := by
  cases v <;> cases w <;> simp_all [beq, toInt?]

end ConstValue

/-! ## Equality of definitions -/

/-- A constant is the same as itself unless what is not a number occurs in its value. -/
theorem Constant.sameDefinition_self (c : Constant) : c.sameDefinition c = !c.value.hasNaN := by
  have hvalue : (c.value == c.value) = !c.value.hasNaN := c.value.beq_self
  simp [sameDefinition, hvalue]

/-- Two constants are the same in either order. -/
theorem Constant.sameDefinition_comm (c d : Constant) :
    c.sameDefinition d = d.sameDefinition c := by
  have hvalue : (c.value == d.value) = (d.value == c.value) := c.value.beq_comm d.value
  simp only [sameDefinition, hvalue, eq_comm]

/-- Constants that are the same are the same as the same constants. -/
theorem Constant.sameDefinition_congr {c d : Constant} (h : c.sameDefinition d = true)
    (e : Constant) : c.sameDefinition e = d.sameDefinition e := by
  simp only [sameDefinition, Bool.and_eq_true, decide_eq_true_eq] at h
  obtain ⟨⟨⟨hname, htype⟩, hqualifiers⟩, hvalue⟩ := h
  have hvalue : (c.value == e.value) = (d.value == e.value) :=
    ConstValue.beq_congr c.value d.value e.value hvalue
  simp only [sameDefinition, hname, htype, hqualifiers, hvalue]

/-- A variable is the same as itself. -/
theorem Variable.sameDefinition_self (v : Variable) : v.sameDefinition v = true := by
  simp [sameDefinition]

/-- Two variables are the same in either order. -/
theorem Variable.sameDefinition_comm (v w : Variable) :
    v.sameDefinition w = w.sameDefinition v := by
  simp only [sameDefinition, eq_comm]

/-- Variables that are the same are the same as the same variables. -/
theorem Variable.sameDefinition_congr {v w : Variable} (h : v.sameDefinition w = true)
    (u : Variable) : v.sameDefinition u = w.sameDefinition u := by
  simp only [sameDefinition, Bool.and_eq_true, decide_eq_true_eq] at h
  obtain ⟨⟨⟨hname, htype⟩, hqualifiers⟩, hblock⟩ := h
  simp only [sameDefinition, hname, htype, hqualifiers, hblock]

end GlslPrelude
