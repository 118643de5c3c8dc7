import GlslPrelude.Proofs.Type.Operators

/-!
# Products and transposition

Transposing a product swaps its factors, and so do the types: a product has a type exactly if the
product of the transposed factors in the other order has the transposed type. A vector stands for
itself on either side, as a column behind a matrix and as a row in front of one.
-/

namespace GlslPrelude

namespace Ty

/-- The type of the transposed value: matrices have their columns and rows swapped. -/
def transpose : Ty → Ty
  | .matrix k d => .matrix k d.transpose
  | t => t

variable {a b : Ty}

@[simp]
theorem transpose_transpose (t : Ty) : t.transpose.transpose = t := by
  cases t <;> rfl

theorem transpose_injective : Function.Injective transpose :=
  Function.LeftInverse.injective transpose_transpose

/-- Transposing keeps the components. -/
@[simp]
theorem scalar?_transpose (t : Ty) : t.transpose.scalar? = t.scalar? := by
  cases t <;> rfl

/-- Transposing goes with changing the kind of the components. -/
theorem withScalar?_transpose (kind : Scalar) (t : Ty) :
    t.transpose.withScalar? kind = (t.withScalar? kind).map transpose := by
  cases t with
  | matrix k d =>
      change (if kind.matrixStem?.isSome then _ else _) =
        (if kind.matrixStem?.isSome then _ else _ : Option Ty).map transpose
      split <;> rfl
  | _ => rfl

/-- Transposed operands in the other order are brought to the same kind. -/
theorem unify?_transpose (a b : Ty) :
    unify? b.transpose a.transpose =
      (unify? a b).map fun (a', b') => (b'.transpose, a'.transpose) := by
  rw [unify?_swap a.transpose]
  unfold unify?
  rw [scalar?_transpose, scalar?_transpose]
  cases a.scalar? with
  | none => rfl
  | some k =>
      cases b.scalar? with
      | none => rfl
      | some l =>
          dsimp only
          split
          · cases k.join? l with
            | none => rfl
            | some kind =>
                simp only [withScalar?_transpose]
                cases ha : a.withScalar? kind <;> cases hb : b.withScalar? kind <;> simp [ha, hb]
          · split <;> rfl

/-- Transposing keeps numbers. -/
@[simp]
theorem isNumeric_transpose (t : Ty) : t.transpose.isNumeric = t.isNumeric := by
  rw [isNumeric, scalar?_transpose, isNumeric]

/-- What is combined component by component can be transposed before. -/
theorem broadcast?_transpose (a b : Ty) :
    broadcast? a.transpose b.transpose = (broadcast? a b).map transpose := by
  unfold broadcast?
  rw [isNumeric_transpose, isNumeric_transpose]
  by_cases hnumeric : a.isNumeric && b.isNumeric
  · rw [if_pos hnumeric, if_pos hnumeric]
    by_cases heq : a = b
    · rw [if_pos heq, if_pos (congrArg transpose heq)]
      rfl
    · rw [if_neg heq, if_neg (transpose_injective.ne heq)]
      cases a <;> cases b <;> rfl
  · rw [if_neg hnumeric, if_neg hnumeric]
    rfl

/-- The product of transposed factors of one kind in the other order is the transposed product. -/
theorem product?_transpose (h : a.scalar? = b.scalar?) :
    product? b.transpose a.transpose = (product? a b).map transpose := by
  have hbroadcast : broadcast? b.transpose a.transpose = (broadcast? a b).map transpose := by
    rw [broadcast?_transpose, broadcast?_comm h.symm]
  cases a with
  | matrix k m =>
      cases b with
      | matrix l n =>
          obtain rfl : k = l := Option.some.inj h
          -- the inner dimensions are the same two, in the other order
          change (if n.rows = m.cols then _ else _) =
            (if m.cols = n.rows then _ else _ : Option Ty).map transpose
          rw [apply_ite (Option.map transpose)]
          exact ite_congr (propext eq_comm) (fun _ => rfl) fun _ => rfl
      | vector l d =>
          obtain rfl : k = l := Option.some.inj h
          -- the columns of the matrix are the rows of its transpose
          change (if m.cols = d then _ else _) = (if m.cols = d then _ else _ : Option Ty).map _
          rw [apply_ite (Option.map transpose)]
          rfl
      | _ => exact hbroadcast
  | vector k d =>
      cases b with
      | matrix l n =>
          obtain rfl : k = l := Option.some.inj h
          change (if n.rows = d then _ else _) = (if n.rows = d then _ else _ : Option Ty).map _
          rw [apply_ite (Option.map transpose)]
          rfl
      | _ => exact hbroadcast
  | _ => cases b <;> exact hbroadcast

/-- The type of a product of transposed operands in the other order is the transposed type. -/
theorem binary?_mul_transpose (a b : Ty) :
    binary? .mul b.transpose a.transpose = (binary? .mul a b).map transpose := by
  change ((unify? b.transpose a.transpose).bind fun (a, b) => product? a b) =
    ((unify? a b).bind fun (a, b) => product? a b).map transpose
  rw [unify?_transpose]
  cases hunify : unify? a b with
  | none => rfl
  | some operands => exact product?_transpose (scalar?_eq_of_unify? hunify)

/-! ## Matrices and vectors -/

variable {k l : Scalar}

/-- A matrix times a vector takes the vector as a column: it has one component for each column of
the matrix, and the product one for each row. -/
theorem binary?_mul_column (hk : k.isFloating = true) (hl : l.isNumeric = true) (m : MatrixDim)
    (d : Dim) :
    binary? .mul (.matrix k m) (.vector l d) =
      if m.cols = d then (k.join? l).map (.vector · m.rows) else none := by
  have hmul : binary? .mul (.matrix k m) (.vector l d) =
      (k.join? l).bind fun kind => product? (.matrix kind m) (.vector kind d) :=
    bind_unify?_type (s := .matrix m) (t := .vector d) product? hk hl
  rw [hmul]
  cases k.join? l <;> simp [product?]

/-- A vector times a matrix takes the vector as a row: it has one component for each row of the
matrix, and the product one for each column. -/
theorem binary?_mul_row (hk : k.isFloating = true) (hl : l.isNumeric = true) (m : MatrixDim)
    (d : Dim) :
    binary? .mul (.vector l d) (.matrix k m) =
      if m.rows = d then (l.join? k).map (.vector · m.cols) else none := by
  -- transposed, this is the product of a matrix and a column
  have hcolumn := binary?_mul_column hk hl m.transpose d
  have htranspose := binary?_mul_transpose (.vector l d) (.matrix k m)
  apply Option.map_injective transpose_injective
  refine htranspose.symm.trans (hcolumn.trans ?_)
  rw [Scalar.join?_comm l, apply_ite (Option.map transpose), Option.map_map]
  rfl

/-- A type is that of a product exactly if the transposed type is that of the product of the
transposed operands in the other order. A vector is a column behind a matrix and a row in front of
one. -/
theorem product_respects_transposition :
    (∀ a b c, binary? .mul a b = some c ↔
      binary? .mul b.transpose a.transpose = some c.transpose) ∧
    ∀ k l m d, Scalar.isFloating k = true → Scalar.isNumeric l = true →
      binary? .mul (.matrix k m) (.vector l d) =
          (if m.cols = d then (k.join? l).map (.vector · m.rows) else none) ∧
        binary? .mul (.vector l d) (.matrix k m) =
          if m.rows = d then (l.join? k).map (.vector · m.cols) else none := by
  refine ⟨fun a b c => ?_, fun k l m d hk hl =>
    ⟨binary?_mul_column hk hl m d, binary?_mul_row hk hl m d⟩⟩
  rw [binary?_mul_transpose, Option.map_eq_some_iff]
  constructor
  · exact fun h => ⟨c, h, rfl⟩
  · rintro ⟨c', h, hc⟩
    rwa [← transpose_injective hc]

/-- A `vec3` times a `dmat2x3` is a `dvec2`, and so is the transposed `dmat3x2` times the `vec3`. -/
theorem product_respects_transposition_of_dmat2x3 :
    (binary? .mul (.vector .float .three) (.matrix .double ⟨.two, .three⟩) =
        some (.vector .double .two) ↔
      binary? .mul (.matrix .double ⟨.three, .two⟩) (.vector .float .three) =
        some (.vector .double .two)) ∧
    (Scalar.isFloating .double = true ∧ Scalar.isNumeric .float = true) ∧
      binary? .mul (.matrix .double ⟨.three, .two⟩) (.vector .float .three) =
        some (.vector .double .two) ∧
      binary? .mul (.vector .float .three) (.matrix .double ⟨.two, .three⟩) =
        some (.vector .double .two) := by
  obtain ⟨htranspose, hproducts⟩ := product_respects_transposition
  have hkinds : Scalar.isFloating .double = true ∧ Scalar.isNumeric .float = true := by decide
  have hcolumn := (hproducts .double .float ⟨.three, .two⟩ .three hkinds.1 hkinds.2).1
  have hrow := (hproducts .double .float ⟨.two, .three⟩ .three hkinds.1 hkinds.2).2
  exact ⟨htranspose _ _ _, hkinds, hcolumn.trans (by decide), hrow.trans (by decide)⟩

end Ty

end GlslPrelude
