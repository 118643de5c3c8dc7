import GlslPrelude.Proofs.Overload.ExactMatch

/-!
# The order of types by conversion

Component kinds widen along the chain of their family, and types widen with their components while
the shape stays (`Ty.Widens`). A type converts to itself and to the types that it widens to
(`Ty.convertsTo_iff`). Widening is transitive and never leads back, so convertibility is a partial
order: `Ty.ConvertsTo.refl`, `Ty.ConvertsTo.trans` and `Ty.ConvertsTo.antisymm`.
-/

namespace GlslPrelude

namespace Scalar

variable {k l m : Scalar}

/-- A kind converts to the kinds that stand higher in the same chain. -/
theorem convertsTo_iff : k.convertsTo l = true ↔
    k.family = l.family ∧ ∃ i j, k.rank? = some i ∧ l.rank? = some j ∧ i < j := by
  rw [convertsTo, Bool.and_eq_true, decide_eq_true_eq]
  refine and_congr_right fun _ => ?_
  cases k.rank? <;> cases l.rank? <;> simp

theorem convertsTo_trans (hkl : k.convertsTo l = true) (hlm : l.convertsTo m = true) :
    k.convertsTo m = true := by
  rw [convertsTo_iff] at *
  obtain ⟨hfamily, i, j, hi, hj, hij⟩ := hkl
  obtain ⟨hfamily', j', n, hj', hn, hjn⟩ := hlm
  obtain rfl : j = j' := Option.some.inj (hj.symm.trans hj')
  exact ⟨hfamily.trans hfamily', i, n, hi, hn, Nat.lt_trans hij hjn⟩

/-- No kind converts to itself. -/
theorem convertsTo_self (k : Scalar) : k.convertsTo k = false := by
  rw [← Bool.not_eq_true, convertsTo_iff]
  rintro ⟨-, i, j, hi, hj, hij⟩
  obtain rfl : i = j := Option.some.inj (hi.symm.trans hj)
  exact Nat.lt_irrefl i hij

/-- Promotions are conversions. -/
theorem convertsTo_of_promotesTo (h : k.promotesTo l = true) : k.convertsTo l = true := by
  unfold promotesTo at h
  split at h
  -- the last row of the table is that of all the other pairs
  case h_7 => cases h
  all_goals rfl

end Scalar

/-- Components of different kinds convert, at whatever cost, as their kinds do. -/
theorem Conversion.isSome_ofScalars? (k l : Scalar) :
    (ofScalars? k l).isSome = k.convertsTo l := by
  rw [ofScalars?]
  cases hpromotes : k.promotesTo l with
  | true => exact (Scalar.convertsTo_of_promotesTo hpromotes).symm
  | false => cases k.convertsTo l <;> rfl

namespace Ty

variable {a b c : Ty}

/-- The components of the first type convert to those of the second, which has the same shape. -/
inductive Widens : Ty → Ty → Prop
  | scalar {k l : Scalar} : k.convertsTo l = true → Widens (.scalar k) (.scalar l)
  | vector {k l : Scalar} (d : Dim) : k.convertsTo l = true → Widens (.vector k d) (.vector l d)
  | matrix {k l : Scalar} (d : MatrixDim) :
    k.convertsTo l = true → Widens (.matrix k d) (.matrix l d)

theorem Widens.trans (hab : a.Widens b) (hbc : b.Widens c) : a.Widens c := by
  cases hab with
  | scalar hkl =>
      cases hbc with
      | scalar hlm => exact .scalar (Scalar.convertsTo_trans hkl hlm)
  | vector d hkl =>
      cases hbc with
      | vector _ hlm => exact .vector d (Scalar.convertsTo_trans hkl hlm)
  | matrix d hkl =>
      cases hbc with
      | matrix _ hlm => exact .matrix d (Scalar.convertsTo_trans hkl hlm)

/-- No type widens to itself. -/
theorem Widens.irrefl : ¬a.Widens a := by
  rintro (h | ⟨-, h⟩ | ⟨-, h⟩) <;>
    (rw [Scalar.convertsTo_self] at h; cases h)

/-- A type widens to another if both have the same shape and their component kinds convert. -/
theorem widens_iff : a.Widens b ↔ ∃ k l, sameShape? a b = some (k, l) ∧ k.convertsTo l = true := by
  constructor
  · rintro (h | ⟨d, h⟩ | ⟨d, h⟩)
    · exact ⟨_, _, rfl, h⟩
    · exact ⟨_, _, if_pos rfl, h⟩
    · exact ⟨_, _, if_pos rfl, h⟩
  · rintro ⟨k, l, hshape, hconverts⟩
    unfold sameShape? at hshape
    split at hshape
    · cases hshape
      exact .scalar hconverts
    · split at hshape <;> cases hshape
      rename_i hdim
      exact hdim ▸ .vector _ hconverts
    · split at hshape <;> cases hshape
      rename_i hdim
      exact hdim ▸ .matrix _ hconverts
    · cases hshape

/-- A value of the first type may stand for one of the second. -/
def ConvertsTo (a b : Ty) : Prop :=
  (a.conversion? b).isSome

instance (a b : Ty) : Decidable (a.ConvertsTo b) :=
  inferInstanceAs (Decidable (_ = true))

/-- A type converts to itself and to the types that it widens to. -/
theorem convertsTo_iff : a.ConvertsTo b ↔ a = b ∨ a.Widens b := by
  rw [ConvertsTo, conversion?, widens_iff]
  by_cases hab : a = b
  · simp [hab]
  · rw [if_neg hab, or_iff_right hab]
    rcases sameShape? a b with _ | ⟨k, l⟩
    · simp
    · rw [Option.bind_some, Conversion.isSome_ofScalars?]
      exact ⟨fun h => ⟨k, l, rfl, h⟩, by rintro ⟨_, _, ⟨⟩, h⟩; exact h⟩

theorem ConvertsTo.refl (a : Ty) : a.ConvertsTo a :=
  convertsTo_iff.2 (.inl rfl)

theorem ConvertsTo.trans (hab : a.ConvertsTo b) (hbc : b.ConvertsTo c) : a.ConvertsTo c := by
  rw [convertsTo_iff] at *
  rcases hab with rfl | hab
  · exact hbc
  · rcases hbc with rfl | hbc
    · exact .inr hab
    · exact .inr (hab.trans hbc)

/-- Types that convert to each other are equal: widening never leads back. -/
theorem ConvertsTo.antisymm (hab : a.ConvertsTo b) (hba : b.ConvertsTo a) : a = b := by
  rw [convertsTo_iff] at hab hba
  rcases hab with hab | hab
  · exact hab
  · rcases hba with hba | hba
    · exact hba.symm
    · -- a type that widens to another and back would widen to itself
      exact absurd (hab.trans hba) Widens.irrefl

end Ty

end GlslPrelude
