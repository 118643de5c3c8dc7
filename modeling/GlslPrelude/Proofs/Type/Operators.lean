import GlslPrelude.Proofs.Type.Widening
import GlslPrelude.Type.Operator

/-!
# Operators and conversions

Operators bring their operands to a common kind by the same widening chains that calls use. The
common kind does not depend on the order of the operands (`Ty.unify?_swap`), and neither do the
operators that work component by component (`Ty.binary?_comm`). The sum of types of one shape is the
one that the other converts to, and a scalar is added to every component (`Ty.add_sameShape`,
`Ty.add_scalar`).
-/

namespace GlslPrelude

namespace Scalar

variable {k l m : Scalar}

/-- Kinds do not convert to each other. -/
theorem convertsTo_asymm (h : k.convertsTo l = true) : l.convertsTo k = false := by
  rw [← Bool.not_eq_true]
  intro hback
  have hself := convertsTo_trans h hback
  rw [convertsTo_self] at hself
  contradiction

/-- The wider of two kinds does not depend on their order. -/
theorem join?_comm (k l : Scalar) : k.join? l = l.join? k := by
  unfold join?
  by_cases heq : k = l
  · rw [heq]
  · rw [if_neg heq, if_neg (Ne.symm heq)]
    cases hkl : k.convertsTo l with
    | true => rw [convertsTo_asymm hkl, if_pos rfl, if_neg (by decide), if_pos rfl]
    | false => rfl

/-- The wider of two kinds is of their family. -/
theorem family_of_join? (h : k.join? l = some m) : m.family = k.family ∧ m.family = l.family := by
  unfold join? at h
  split at h
  · rename_i heq
    cases h
    exact ⟨rfl, congrArg family heq⟩
  · split at h
    · rename_i hconverts
      cases h
      exact ⟨(convertsTo_iff.1 hconverts).1.symm, rfl⟩
    · split at h <;> cases h
      rename_i hconverts
      exact ⟨rfl, (convertsTo_iff.1 hconverts).1.symm⟩

/-- Exactly the floating-point kinds have matrices. -/
theorem isSome_matrixStem? (k : Scalar) : k.matrixStem?.isSome = k.isFloating := by
  cases k <;> rfl

end Scalar

/-! ## Shapes -/

/-- The shape of a type with components. -/
inductive Shape where
  | scalar
  | vector (dim : Dim)
  | matrix (dim : MatrixDim)
deriving DecidableEq

namespace Shape

/-- The type of a shape with components of a kind. -/
def type : Shape → Scalar → Ty
  | scalar, k => .scalar k
  | vector d, k => .vector k d
  | matrix d, k => .matrix k d

/-- Whether values of the shape can have components of a kind that are numbers: matrices have
floating-point components. -/
def Holds : Shape → Scalar → Prop
  | matrix _, k => k.isFloating = true
  | _, k => k.isNumeric = true

instance (s : Shape) (k : Scalar) : Decidable (s.Holds k) :=
  match s with
  | scalar | vector _ => inferInstanceAs (Decidable (k.isNumeric = true))
  | matrix _ => inferInstanceAs (Decidable (k.isFloating = true))

variable {s : Shape} {k l m : Scalar}

@[simp]
theorem scalar?_type (s : Shape) (k : Scalar) : (s.type k).scalar? = some k := by
  cases s <;> rfl

/-- What a shape can hold depends on the family of the kind. -/
theorem Holds.of_family_eq (h : s.Holds k) (hfamily : l.family = k.family) : s.Holds l := by
  cases s <;> simpa [Holds, Scalar.isFloating, Scalar.isNumeric, hfamily] using h

/-- Numbers are what shapes can hold. -/
theorem Holds.isNumeric (h : s.Holds k) : k.isNumeric = true := by
  cases s with
  | scalar | vector => exact h
  | matrix =>
      have hfloating : k.family = .floating := of_decide_eq_true h
      simp [Scalar.isNumeric, hfloating]

/-- A shape of numbers is a numeric type. -/
theorem isNumeric_type (h : s.Holds k) : (s.type k).isNumeric = true := by
  rw [Ty.isNumeric, scalar?_type]
  exact h.isNumeric

/-- A type takes a kind that its shape can hold. -/
theorem withScalar?_type (h : s.Holds m) (k : Scalar) :
    (s.type k).withScalar? m = some (s.type m) := by
  cases s with
  | scalar | vector => rfl
  | matrix d =>
      have hfloating : m.isFloating = true := h
      rw [type, Ty.withScalar?, Scalar.isSome_matrixStem?, if_pos hfloating]
      rfl

/-- Types of one shape convert as their kinds do. -/
theorem convertsTo_type_iff : (s.type k).ConvertsTo (s.type l) ↔ k = l ∨ k.convertsTo l = true := by
  have hshape : Ty.sameShape? (s.type k) (s.type l) = some (k, l) := by
    cases s <;> simp [type, Ty.sameShape?]
  have hinj : s.type k = s.type l ↔ k = l := by
    cases s <;> simp [type]
  rw [Ty.convertsTo_iff, Ty.widens_iff, hshape, hinj]
  refine or_congr_right ⟨?_, fun h => ⟨k, l, rfl, h⟩⟩
  rintro ⟨_, _, ⟨⟩, h⟩
  exact h

end Shape

namespace Ty

variable {a b a' b' : Ty} {op : BinaryOp}

/-! ## A common kind -/

/-- The operands can be brought to a common kind in either order. -/
theorem unify?_swap (a b : Ty) : unify? b a = (unify? a b).map Prod.swap := by
  unfold unify?
  cases a.scalar? with
  | none => cases b.scalar? <;> rfl
  | some k =>
      cases b.scalar? with
      | none => rfl
      | some l =>
          dsimp only
          rw [Bool.and_comm, Scalar.join?_comm]
          split
          · cases k.join? l with
            | none => rfl
            | some m => cases ha : a.withScalar? m <;> cases hb : b.withScalar? m <;> simp [ha, hb]
          · by_cases heq : k = l
            · simp [heq]
            · simp [heq, Ne.symm heq]

/-- Operands that are brought to a common kind take this kind, or have it already. -/
theorem cases_of_unify? (h : unify? a b = some (a', b')) :
    (∃ kind, a.withScalar? kind = some a' ∧ b.withScalar? kind = some b') ∨
      a' = a ∧ b' = b ∧ a.scalar? = b.scalar? := by
  unfold unify? at h
  split at h
  · rename_i k l hk hl
    split at h
    · simp only [Option.bind_eq_bind, Option.bind_eq_some_iff] at h
      obtain ⟨kind, -, x, hx, y, hy, h⟩ := h
      cases h
      exact .inl ⟨kind, hx, hy⟩
    · split at h <;> cases h
      rename_i heq
      exact .inr ⟨rfl, rfl, by rw [hk, hl, heq]⟩
  · cases h

/-- A type takes the kind that it is brought to. -/
theorem scalar?_of_withScalar? {kind : Scalar} (h : a.withScalar? kind = some a') :
    a'.scalar? = some kind := by
  cases a with
  | scalar | vector =>
      cases h
      rfl
  | matrix k d =>
      rw [withScalar?] at h
      split at h <;> cases h
      rfl
  | _ => cases h

/-- Operands have the same kind once it is common. -/
theorem scalar?_eq_of_unify? (h : unify? a b = some (a', b')) : a'.scalar? = b'.scalar? := by
  rcases cases_of_unify? h with ⟨kind, ha, hb⟩ | ⟨rfl, rfl, heq⟩
  · rw [scalar?_of_withScalar? ha, scalar?_of_withScalar? hb]
  · exact heq

/-- Operands of a common kind are combined in either order. -/
theorem broadcast?_comm (h : a.scalar? = b.scalar?) : broadcast? a b = broadcast? b a := by
  unfold broadcast?
  rw [Bool.and_comm]
  by_cases heq : a = b
  · rw [heq]
  · rw [if_neg heq, if_neg (Ne.symm heq)]
    cases a with
    | scalar k =>
        cases b with
        | scalar l => exact absurd (congrArg Ty.scalar (Option.some.inj h)) heq
        | _ => rfl
    | _ => cases b <;> rfl

/-- What is combined in either order once the kind is common can be combined in either order. -/
theorem bind_unify?_comm {f : Ty → Ty → Option Ty}
    (hf : ∀ a' b', unify? a b = some (a', b') → f a' b' = f b' a') :
    ((unify? a b).bind fun (a, b) => f a b) = (unify? b a).bind fun (a, b) => f a b := by
  rw [unify?_swap a b]
  cases hunify : unify? a b with
  | none => rfl
  | some operands => exact hf _ _ hunify

/-- Different types are compared if they can be brought to the same type. -/
theorem binary?_eq_of_ne (hne : a ≠ b) :
    binary? .eq a b =
      if (unify? a b).any (fun (a, b) => a = b) then some (.scalar .bool) else none := by
  cases a with
  -- what has no components cannot be brought to a common kind either
  | void | handle => rfl
  | _ => simp only [binary?, hne, decide_false, Bool.false_or]

/-- Types are compared in either order. -/
theorem binary?_eq_comm (a b : Ty) : binary? .eq a b = binary? .eq b a := by
  by_cases heq : a = b
  · rw [heq]
  · have hany : (unify? b a).any (fun (a, b) => a = b) =
        (unify? a b).any (fun (a, b) => a = b) := by
      rw [unify?_swap]
      cases unify? a b with
      | none => rfl
      | some operands => simp [eq_comm]
    rw [binary?_eq_of_ne heq, binary?_eq_of_ne (Ne.symm heq), hany]

/-- Except for shifts and products, operators can be applied in either order. -/
theorem binary?_comm (hop : op ∉ [.shl, .shr, .mul]) (a b : Ty) :
    binary? op a b = binary? op b a := by
  have hcombine : ((unify? a b).bind fun (a, b) => broadcast? a b) =
      (unify? b a).bind fun (a, b) => broadcast? a b :=
    bind_unify?_comm fun a' b' h => broadcast?_comm (scalar?_eq_of_unify? h)
  cases op with
  | add | sub | div => exact hcombine
  | rem | bitAnd | bitOr | bitXor =>
      simp only [binary?]
      rw [Bool.and_comm]
      split
      · exact hcombine
      · rfl
  | and | or | xor =>
      simp only [binary?]
      rw [Bool.and_comm]
  | lt | lte | gt | gte =>
      have hsome : (unify? b a).isSome = (unify? a b).isSome := by
        rw [unify?_swap, Option.isSome_map]
      simp only [binary?, hsome, Bool.and_comm, Bool.and_left_comm]
  | eq | neq => exact binary?_eq_comm a b
  | mul | shl | shr => exact absurd (by decide) hop

/-! ## Products without a matrix -/

/-- The type is a matrix. -/
def IsMatrix (t : Ty) : Prop :=
  ∃ k d, t = .matrix k d

/-- A type stays no matrix with another kind of components. -/
theorem not_isMatrix_of_withScalar? {kind : Scalar} (h : a.withScalar? kind = some a')
    (ha : ¬a.IsMatrix) : ¬a'.IsMatrix := by
  cases a with
  | scalar | vector =>
      cases h
      simp [IsMatrix]
  | matrix k d => exact absurd ⟨k, d, rfl⟩ ha
  | _ => cases h

/-- Without a matrix, a product is taken component by component. -/
theorem product?_of_not_isMatrix (ha : ¬a.IsMatrix) (hb : ¬b.IsMatrix) :
    product? a b = broadcast? a b := by
  unfold product?
  split
  · exact absurd ⟨_, _, rfl⟩ ha
  · exact absurd ⟨_, _, rfl⟩ hb
  · exact absurd ⟨_, _, rfl⟩ ha
  · rfl

/-- Without a matrix, products can be taken in either order. -/
theorem binary?_mul_comm (ha : ¬a.IsMatrix) (hb : ¬b.IsMatrix) :
    binary? .mul a b = binary? .mul b a := by
  refine bind_unify?_comm fun a' b' h => ?_
  have hnot : ¬a'.IsMatrix ∧ ¬b'.IsMatrix := by
    rcases cases_of_unify? h with ⟨kind, ha', hb'⟩ | ⟨rfl, rfl, -⟩
    · exact ⟨not_isMatrix_of_withScalar? ha' ha, not_isMatrix_of_withScalar? hb' hb⟩
    · exact ⟨ha, hb⟩
  rw [product?_of_not_isMatrix hnot.1 hnot.2, product?_of_not_isMatrix hnot.2 hnot.1,
    broadcast?_comm (scalar?_eq_of_unify? h)]

/-! ## Sums of shapes -/

variable {s t : Shape} {k l m : Scalar}

/-- Types with components are brought to the wider of their kinds. -/
theorem unify?_type (hk : s.Holds k) (hl : t.Holds l) :
    unify? (s.type k) (t.type l) = (k.join? l).map fun m => (s.type m, t.type m) := by
  unfold unify?
  rw [Shape.scalar?_type, Shape.scalar?_type]
  dsimp only
  rw [hk.isNumeric, hl.isNumeric, Bool.and_self, if_pos rfl]
  cases hjoin : k.join? l with
  | none => rfl
  | some m =>
      obtain ⟨hmk, hml⟩ := Scalar.family_of_join? hjoin
      rw [Option.bind_eq_bind, Option.bind_some, Shape.withScalar?_type (hk.of_family_eq hmk),
        Shape.withScalar?_type (hl.of_family_eq hml)]
      rfl

/-- Types with components are combined once their components are of the wider kind. -/
theorem bind_unify?_type (f : Ty → Ty → Option Ty) (hk : s.Holds k) (hl : t.Holds l) :
    ((unify? (s.type k) (t.type l)).bind fun (a, b) => f a b) =
      (k.join? l).bind fun m => f (s.type m) (t.type m) := by
  rw [unify?_type hk hl]
  cases k.join? l <;> rfl

/-- The sum of types with components has the wider of their kinds, if types of one kind are
combined. -/
theorem add_type {u : Shape} (hk : s.Holds k) (hl : t.Holds l)
    (hbroadcast : ∀ m, s.Holds m → t.Holds m →
      broadcast? (s.type m) (t.type m) = some (u.type m)) :
    binary? .add (s.type k) (t.type l) = (k.join? l).map u.type := by
  refine (bind_unify?_type broadcast? hk hl).trans ?_
  cases hjoin : k.join? l with
  | none => rfl
  | some m =>
      obtain ⟨hmk, hml⟩ := Scalar.family_of_join? hjoin
      exact hbroadcast m (hk.of_family_eq hmk) (hl.of_family_eq hml)

/-- The sum of types of one shape has this shape. -/
theorem add_sameShape (hk : s.Holds k) (hl : s.Holds l) :
    binary? .add (s.type k) (s.type l) = (k.join? l).map s.type := by
  refine add_type hk hl fun m hm _ => ?_
  simp [broadcast?, Shape.isNumeric_type hm]

/-- The sum of a scalar and a type with components has the shape of the type. -/
theorem add_scalar (hk : k.isNumeric = true) (hl : s.Holds l) :
    binary? .add (.scalar k) (s.type l) = (k.join? l).map s.type := by
  refine add_type (s := .scalar) hk hl fun m hm hm' => ?_
  unfold broadcast?
  rw [Shape.isNumeric_type hm, Shape.isNumeric_type hm', Bool.and_self, if_pos rfl]
  cases s with
  | scalar => exact if_pos rfl
  | vector d | matrix d => exact if_neg (by simp [Shape.type])

/-- The kind of the sum of two scalars. -/
def sumKind? (k l : Scalar) : Option Scalar :=
  (binary? .add (.scalar k) (.scalar l)).bind scalar?

/-- The kind of a sum of numbers is the wider of their kinds. -/
theorem sumKind?_eq (hk : k.isNumeric = true) (hl : l.isNumeric = true) :
    sumKind? k l = k.join? l := by
  have hadd : binary? .add (.scalar k) (.scalar l) = (k.join? l).map .scalar :=
    add_scalar (s := .scalar) hk hl
  rw [sumKind?, hadd]
  cases k.join? l <;> rfl

/-- Operators that work component by component do not depend on the order of their operands. The sum
of numbers of one shape is of the type that one of them converts to, and a number is added to every
component of a vector or matrix. -/
theorem operators_follow_conversions :
    (∀ op a b, op ∉ [.shl, .shr, .mul] → binary? op a b = binary? op b a) ∧
      (∀ a b, ¬IsMatrix a → ¬IsMatrix b → binary? .mul a b = binary? .mul b a) ∧
      (∀ s k l, Shape.Holds s k → Shape.Holds s l →
        binary? .add (s.type k) (s.type l) =
          if (s.type k).ConvertsTo (s.type l) then some (s.type l)
          else if (s.type l).ConvertsTo (s.type k) then some (s.type k)
          else none) ∧
      ∀ s k l, k.isNumeric = true → Shape.Holds s l →
        binary? .add (.scalar k) (s.type l) = (sumKind? k l).map s.type ∧
          binary? .add (s.type l) (.scalar k) = (sumKind? l k).map s.type := by
  refine ⟨fun op a b hop => binary?_comm hop a b, fun a b => binary?_mul_comm, ?_, ?_⟩
  · intro s k l hk hl
    -- both sides choose by the same two conversions of kinds
    rw [add_sameShape hk hl]
    simp only [Shape.convertsTo_type_iff]
    unfold Scalar.join?
    by_cases heq : k = l
    · simp [heq]
    · cases hkl : k.convertsTo l <;> cases hlk : l.convertsTo k <;> simp [heq, Ne.symm heq]
  · intro s k l hk hl
    rw [binary?_comm (by decide) (s.type l), add_scalar hk hl, sumKind?_eq hk hl.isNumeric,
      sumKind?_eq hl.isNumeric hk, Scalar.join?_comm l]
    exact ⟨rfl, rfl⟩

/-- The difference of an `ivec3` and an `i16vec3` and the product of a `uint` and an `ivec2` do not
depend on the order. The sum of a `mat2x3` and a `dmat2x3` is of the type that the first converts
to, and a `float16_t` is added to each component of a `dmat2x3`. -/
theorem operators_follow_conversions_of_mixed :
    (BinaryOp.sub ∉ [.shl, .shr, .mul] ∧
      binary? .sub (.vector .int .three) (.vector .int16 .three) =
        binary? .sub (.vector .int16 .three) (.vector .int .three)) ∧
    ((¬IsMatrix (.scalar .uint) ∧ ¬IsMatrix (.vector .int .two)) ∧
      binary? .mul (.scalar .uint) (.vector .int .two) =
        binary? .mul (.vector .int .two) (.scalar .uint)) ∧
    ((Shape.Holds (.matrix ⟨.two, .three⟩) .float ∧ Shape.Holds (.matrix ⟨.two, .three⟩) .double) ∧
      binary? .add (.matrix .float ⟨.two, .three⟩) (.matrix .double ⟨.two, .three⟩) =
        some (.matrix .double ⟨.two, .three⟩)) ∧
    Scalar.isNumeric .float16 = true ∧
      binary? .add (.scalar .float16) (.matrix .double ⟨.two, .three⟩) =
        (sumKind? .float16 .double).map fun k => .matrix k ⟨.two, .three⟩ := by
  obtain ⟨hcomm, hmul, hshape, hscalar⟩ := operators_follow_conversions
  have hop : BinaryOp.sub ∉ [.shl, .shr, .mul] := by decide
  have hmatrix : ¬IsMatrix (.scalar .uint) ∧ ¬IsMatrix (.vector .int .two) := by simp [IsMatrix]
  have hholds : Shape.Holds (.matrix ⟨.two, .three⟩) .float ∧
      Shape.Holds (.matrix ⟨.two, .three⟩) .double := by decide
  have hsum := hshape (.matrix ⟨.two, .three⟩) .float .double hholds.1 hholds.2
  exact ⟨⟨hop, hcomm _ _ _ hop⟩, ⟨hmatrix, hmul _ _ hmatrix.1 hmatrix.2⟩,
    ⟨hholds, hsum.trans (if_pos (by decide))⟩, by decide,
    (hscalar (.matrix ⟨.two, .three⟩) _ _ (by decide) hholds.2).1⟩

end Ty

end GlslPrelude
