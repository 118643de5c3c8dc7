import GlslPrelude.Declaration.Printer
import GlslPrelude.Proofs.Value.Integers
import Mathlib.Algebra.Group.Int.Defs

/-!
# Ranges of integers

An integer is brought to a kind of integers exactly if it fits 64 bits with the sign of the kind
(`isSome_coerceScalar?_iff`), also if the kind has fewer bits. So the integers of a value in the
form of a type are in the range of a narrow kind exactly if they were before
(`inRange_iff_of_coerce?`).
-/

namespace GlslPrelude

namespace Scalar

/-- Number of bits of the integers of the kind; other kinds have no integers. -/
def bits : Scalar → Nat
  | .int8 | .uint8 => 8
  | .int16 | .uint16 => 16
  | .int | .uint => 32
  | .int64 | .uint64 => 64
  | .bool | .float | .double | .float16 => 0

/-- The kind has the integer. -/
def InRange (k : Scalar) (n : Int) : Prop :=
  if k.isSigned then -2 ^ (k.bits - 1) ≤ n ∧ n ≤ 2 ^ (k.bits - 1) - 1
  else 0 ≤ n ∧ n ≤ 2 ^ k.bits - 1

instance (k : Scalar) (n : Int) : Decidable (k.InRange n) := by
  unfold InRange
  infer_instance

/-- The kind of the widest integers with the same sign. -/
def widest (k : Scalar) : Scalar :=
  if k.isSigned then .int64 else .uint64

end Scalar

namespace ConstValue

variable {kind : Scalar} {type : Ty} {v w : ConstValue} {n : Int}

/-- A literal is no list. -/
theorem IsLiteral.leaves_eq (h : v.IsLiteral kind) : v.leaves = [v] := by
  cases v with
  | aggregate => cases h
  | bool | int | uint | float => rfl

/-- A kind of integers has no floating-point numbers. -/
theorem not_isLiteral_float (h : kind.isIntegral = true) (x : Double) :
    ¬IsLiteral kind (.float x) := by
  intro hfloat
  cases kind <;> cases h <;> cases hfloat

/-- An integer that is a literal of a kind fits 64 bits with the sign of the kind. -/
theorem IsLiteral.inRange_widest (h : v.IsLiteral kind) (hn : v.integer? = some n) :
    kind.isIntegral = true ∧ kind.widest.InRange n := by
  cases v with
  | bool | float | aggregate => cases hn
  | int i =>
      obtain ⟨hintegral, hsigned⟩ := h
      cases hn
      have hle := i.le_toInt
      have hlt := i.toInt_lt
      refine ⟨hintegral, ?_⟩
      rw [Scalar.widest, if_pos hsigned]
      change -2 ^ 63 ≤ i.toInt ∧ i.toInt ≤ 2 ^ 63 - 1
      omega
  | uint u =>
      obtain ⟨hintegral, hsigned⟩ := h
      cases hn
      have hlt := u.toNat_lt
      refine ⟨hintegral, ?_⟩
      rw [Scalar.widest, if_neg (by simp [hsigned])]
      change 0 ≤ (u.toNat : Int) ∧ (u.toNat : Int) ≤ 2 ^ 64 - 1
      omega

/-- An integer is brought to a kind of integers exactly if it fits 64 bits with the sign of the
kind. -/
theorem isSome_coerceScalar?_iff (hv : v.integer? = some n) (hkind : kind.isIntegral = true) :
    (v.coerceScalar? kind).isSome ↔ kind.widest.InRange n := by
  simp only [Option.isSome_iff_exists, coerceScalar?_eq_some_iff]
  constructor
  · rintro ⟨w, hw, hsame⟩
    have hinteger : w.integer? = some n := by
      rw [hsame.integer?_eq, hv]
      rintro x rfl
      exact not_isLiteral_float hkind x hw
    exact (hw.inRange_widest hinteger).2
  · intro hrange
    by_cases hsigned : kind.isSigned = true
    · rw [Scalar.widest, if_pos hsigned] at hrange
      have hn : (Int64.ofInt n).toInt = n := by
        obtain ⟨hle, hlt⟩ : -2 ^ 63 ≤ n ∧ n ≤ 2 ^ 63 - 1 := hrange
        exact Int64.toInt_ofInt_of_le hle (by omega)
      exact ⟨.int (Int64.ofInt n), ⟨hkind, hsigned⟩, .integer hv (congrArg some hn)⟩
    · rw [Scalar.widest, if_neg hsigned] at hrange
      have hn : ((UInt64.ofNat n.toNat).toNat : Int) = n := by
        obtain ⟨hle, hlt⟩ : 0 ≤ n ∧ n ≤ 2 ^ 64 - 1 := hrange
        rw [UInt64.toNat_ofNat_of_lt', Int.toNat_of_nonneg hle]
        change n.toNat < 2 ^ 64
        omega
      exact ⟨.uint (UInt64.ofNat n.toNat), ⟨hkind, by simpa using hsigned⟩,
        .integer hv (congrArg some hn)⟩

/-- The literals in a value of the form of a type are of the kind of its elements. -/
theorem HasForm.isLiteral_of_mem (h : HasForm type w) (hkind : type.base.scalar? = some kind) :
    ∀ u ∈ w.leaves, u.IsLiteral kind := by
  induction h with
  | scalar hv =>
      obtain rfl := Option.some.inj hkind
      rw [hv.leaves_eq]
      exact List.forall_mem_singleton.2 hv
  | vector _ hvs =>
      obtain rfl := Option.some.inj hkind
      intro u hu
      obtain ⟨v, hv, hu⟩ := mem_leavesOf.1 hu
      rw [(hvs v hv).leaves_eq, List.mem_singleton] at hu
      exact hu ▸ hvs v hv
  | array _ ih =>
      intro u hu
      obtain ⟨v, hv, hu⟩ := mem_leavesOf.1 hu
      exact ih v hv hkind u hu

/-- The integers of a value in the form of a type fit 64 bits with the sign of its elements. They
are in the range of the kind of the elements exactly if the kind has no integers, or those of the
value that was given were in the range already. -/
theorem inRange_iff_of_coerce? (hkind : type.base.scalar? = some kind)
    (h : v.coerce? type = some w) :
    (∀ n ∈ w.integers, kind.widest.InRange n) ∧
      ((∀ n ∈ w.integers, kind.InRange n) ↔
        (kind.isIntegral = true → ∀ n ∈ v.integers, kind.InRange n)) := by
  obtain ⟨hform, hsame⟩ := coerce?_eq_some_iff.1 h
  have hliteral := hform.isLiteral_of_mem hkind
  have hinteger : ∀ n ∈ w.integers, kind.isIntegral = true ∧ kind.widest.InRange n := by
    intro n hn
    obtain ⟨u, hu, hn⟩ := mem_integers.1 hn
    exact (hliteral u hu).inRange_widest hn
  refine ⟨fun n hn => (hinteger n hn).2, ?_⟩
  by_cases hintegral : kind.isIntegral = true
  · -- no integer has become a floating-point number, so they are the ones that were given
    have hsame : w.integers = v.integers :=
      hsame.integers_eq fun x hx => not_isLiteral_float hintegral x (hliteral _ hx)
    rw [hsame]
    exact ⟨fun hrange _ => hrange, fun hrange => hrange hintegral⟩
  · exact ⟨fun _ hyes => absurd hyes hintegral, fun _ n hn => absurd (hinteger n hn).1 hintegral⟩

/-- In an array of vectors of bytes, one integer is below the range of bytes. -/
theorem inRange_iff_of_coerce?_of_bytes :
    let type := Ty.array (.vector .int8 .two) .implicit
    let value := aggregate [.aggregate [.int (-129), .uint 127], .aggregate [.int 0]]
    let result := aggregate [.aggregate [.int (-129), .int 127], .aggregate [.int 0]]
    type.base.scalar? = some .int8 ∧ value.coerce? type = some result ∧
      (∀ n ∈ result.integers, Scalar.int64.InRange n) ∧
      ¬∀ n ∈ result.integers, Scalar.int8.InRange n := by
  intro type value result
  have hcoerce : value.coerce? type = some result := by rfl
  have hkind : type.base.scalar? = some .int8 := rfl
  obtain ⟨hwidest, hiff⟩ := inRange_iff_of_coerce? hkind hcoerce
  refine ⟨hkind, hcoerce, hwidest, fun hrange => ?_⟩
  have hvalue := hiff.1 hrange rfl (-129) (by decide)
  exact absurd hvalue (by decide)

/-- Not every integer in a value of the form of a type is in the range of the kind of its elements:
a byte may be too large. -/
theorem not_forall_inRange_of_coerce? :
    ¬∀ (type : Ty) (kind : Scalar) (v w : ConstValue), type.base.scalar? = some kind →
      v.coerce? type = some w → ∀ n ∈ w.integers, kind.InRange n := by
  intro h
  have hbyte := h (.scalar .uint8) .uint8 (.int 300) (.uint 300) rfl rfl 300 (by decide)
  exact absurd hbyte (by decide)

end ConstValue

end GlslPrelude
