/-!
# Double-precision numbers

Double-precision numbers are kept as their bits, so that two numbers are the same value exactly when
all their bits are, and what is not a number keeps its bits too. `equals` compares the numbers that
the bits stand for: by `equals_self` a double equals itself unless it is not a number.
-/

namespace GlslPrelude

/-- A double-precision number. -/
structure Double where
  /-- Sign, exponent and fraction, from the highest bit down. -/
  bits : UInt64
deriving DecidableEq, Repr, Inhabited

namespace Double

/-- The bit of the sign. -/
def signBit : UInt64 :=
  0x8000000000000000

/-- The lowest bit of the exponent. The leading bit of a normal number's significand has the same
place, but the encoding leaves it out. -/
def leadingBit : Nat :=
  0x10000000000000

/-- The bits of positive infinity; only what is not a number has a larger magnitude. -/
def infinityBits : Nat :=
  0x7ff0000000000000

/-- Positive zero. -/
def zero : Double :=
  ⟨0⟩

/-- Positive infinity. -/
def infinity : Double :=
  ⟨UInt64.ofNat infinityBits⟩

/-- The bits without the sign. -/
def magnitude (x : Double) : Nat :=
  x.bits.toNat % signBit.toNat

/-- Whether the sign is set. -/
def isNegative (x : Double) : Bool :=
  signBit ≤ x.bits

/-- Whether the bits stand for no number. -/
def isNaN (x : Double) : Bool :=
  infinityBits < x.magnitude

/-- The double with the opposite sign. -/
def neg (x : Double) : Double :=
  ⟨x.bits ^^^ signBit⟩

instance : Neg Double := ⟨neg⟩

/-- Whether two doubles are the same number: zeros of either sign are, and what is not a number equals
nothing. -/
def equals (x y : Double) : Bool :=
  !x.isNaN && !y.isNaN && (x = y || (x.magnitude = 0 && y.magnitude = 0))

/-- A double equals itself unless it is not a number. -/
@[simp]
theorem equals_self (x : Double) : x.equals x = !x.isNaN := by
  simp [equals]

/-- The order of the operands does not matter. -/
theorem equals_comm (x y : Double) : x.equals y = y.equals x := by
  unfold equals
  rw [Bool.and_comm (!x.isNaN), Bool.and_comm (decide (x.magnitude = 0))]
  simp only [eq_comm]

/-- Changing the sign twice changes nothing. -/
@[simp]
theorem neg_neg (x : Double) : - -x = x := by
  change (⟨x.bits ^^^ signBit ^^^ signBit⟩ : Double) = x
  rw [UInt64.xor_assoc, UInt64.xor_self, UInt64.xor_zero]

end Double

end GlslPrelude
