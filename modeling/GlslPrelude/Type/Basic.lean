import GlslPrelude.Type.Dim
import GlslPrelude.Type.Handle
import GlslPrelude.Type.Qualifier

/-!
# Types

Every type that a prelude declaration mentions: scalars, vectors, matrices, handles, interface
blocks and arrays.
-/

namespace GlslPrelude

/-- Length of an array. -/
inductive ArraySize where
  /-- The length is given. -/
  | fixed (length : Nat)
  /-- The shader or the implementation sets the length. -/
  | implicit
deriving DecidableEq, Repr

/-- Member of a structure whose types are of type `τ`. -/
structure Field (τ : Type) where
  /-- Name of the member. -/
  name : String
  /-- Type of the member. -/
  type : τ
  /-- Qualifiers of the member. -/
  qualifiers : QualifierSet

/-- A type. -/
inductive Ty where
  /-- Return type of functions that return nothing. -/
  | void
  | scalar (kind : Scalar)
  | vector (kind : Scalar) (dim : Dim)
  | matrix (kind : Scalar) (dim : MatrixDim)
  | handle (handle : Handle)
  /-- Interface block, given by its name and members. -/
  | struct (name : String) (fields : List (Field Ty))
  | array (element : Ty) (size : ArraySize)

instance : Inhabited Ty := ⟨.void⟩

namespace Ty

mutual

/-- Types are compared as trees. -/
def decEq : (a b : Ty) → Decidable (a = b)
  | .void, .void => isTrue rfl
  | .scalar k, .scalar l => decidable_of_iff (k = l) (by simp)
  | .vector k d, .vector l e => decidable_of_iff (k = l ∧ d = e) (by simp)
  | .matrix k d, .matrix l e => decidable_of_iff (k = l ∧ d = e) (by simp)
  | .handle g, .handle h => decidable_of_iff (g = h) (by simp)
  | .struct n fs, .struct m gs =>
    if h : n = m then @decidable_of_iff _ _ (by simp [h]) (decEqFields fs gs)
    else isFalse (by simp [h])
  | .array a s, .array b t =>
    if h : s = t then @decidable_of_iff _ _ (by simp [h]) (decEq a b) else isFalse (by simp [h])
  | .void, .scalar _ | .void, .vector .. | .void, .matrix .. | .void, .handle _
  | .void, .struct .. | .void, .array .. => isFalse (by simp)
  | .scalar _, .void | .scalar _, .vector .. | .scalar _, .matrix .. | .scalar _, .handle _
  | .scalar _, .struct .. | .scalar _, .array .. => isFalse (by simp)
  | .vector .., .void | .vector .., .scalar _ | .vector .., .matrix .. | .vector .., .handle _
  | .vector .., .struct .. | .vector .., .array .. => isFalse (by simp)
  | .matrix .., .void | .matrix .., .scalar _ | .matrix .., .vector .. | .matrix .., .handle _
  | .matrix .., .struct .. | .matrix .., .array .. => isFalse (by simp)
  | .handle _, .void | .handle _, .scalar _ | .handle _, .vector .. | .handle _, .matrix ..
  | .handle _, .struct .. | .handle _, .array .. => isFalse (by simp)
  | .struct .., .void | .struct .., .scalar _ | .struct .., .vector .. | .struct .., .matrix ..
  | .struct .., .handle _ | .struct .., .array .. => isFalse (by simp)
  | .array .., .void | .array .., .scalar _ | .array .., .vector .. | .array .., .matrix ..
  | .array .., .handle _ | .array .., .struct .. => isFalse (by simp)

/-- Member lists are compared member by member. -/
def decEqFields : (fs gs : List (Field Ty)) → Decidable (fs = gs)
  | [], [] => isTrue rfl
  | ⟨n, a, p⟩ :: fs, ⟨m, b, q⟩ :: gs =>
    if h : n = m ∧ p = q then
      match decEq a b with
      | isTrue h' => @decidable_of_iff _ _ (by simp [h, h']) (decEqFields fs gs)
      | isFalse h' => isFalse (by simp [h'])
    else isFalse (by grind)
  | [], _ :: _ | _ :: _, [] => isFalse (by simp)

end

instance : DecidableEq Ty := decEq

instance : DecidableEq (Field Ty) := fun
  | ⟨n, a, p⟩, ⟨m, b, q⟩ => decidable_of_iff (n = m ∧ a = b ∧ p = q) (by simp)

/-- The vector with the given number of components; one component is a scalar. -/
def ofLength? (kind : Scalar) (length : Nat) : Option Ty :=
  if length = 1 then some (.scalar kind) else (Dim.ofNat? length).map (.vector kind)

/-- Kind of the components of a scalar, vector or matrix. -/
def scalar? : Ty → Option Scalar
  | .scalar k | .vector k _ | .matrix k _ => some k
  | _ => none

/-- The type of the same shape whose components are of another kind. -/
def withScalar? (kind : Scalar) : Ty → Option Ty
  | .scalar _ => some (.scalar kind)
  | .vector _ d => some (.vector kind d)
  | .matrix _ d => if kind.matrixStem?.isSome then some (.matrix kind d) else none
  | _ => none

/-- Whether the type is a scalar. -/
def isScalar : Ty → Bool
  | .scalar _ => true
  | _ => false

/-- Whether the type is `void`. -/
def isVoid : Ty → Bool
  | .void => true
  | _ => false

/-- Whether the components of the type are numbers. -/
def isNumeric (t : Ty) : Bool :=
  t.scalar?.any Scalar.isNumeric

mutual

/-- Whether a scalar kind occurs in the type, also inside members and elements. -/
def mentions (kind : Scalar) : Ty → Bool
  | .void => false
  | .scalar k | .vector k _ | .matrix k _ => k = kind
  | .handle h => h.scalar? = some kind
  | .struct _ fs => anyMentions kind fs
  | .array a _ => a.mentions kind

/-- Whether a scalar kind occurs in the type of a member. -/
def anyMentions (kind : Scalar) : List (Field Ty) → Bool
  | [] => false
  | ⟨_, t, _⟩ :: fs => t.mentions kind || anyMentions kind fs

end

/-- The component kind occurs in a list of members when it occurs in the type of one. -/
@[simp]
theorem anyMentions_eq (kind : Scalar) (fs : List (Field Ty)) :
    anyMentions kind fs = fs.any fun f => f.type.mentions kind := by
  induction fs with
  | nil => rfl
  | cons f fs ih => cases f; simp [anyMentions, ih]

end Ty

/-- An interface block. -/
structure Block where
  /-- Name of the block. -/
  name : String
  /-- Members in declaration order. -/
  fields : List (Field Ty)
deriving DecidableEq

namespace Block

/-- The type of the block. -/
def type (block : Block) : Ty :=
  .struct block.name block.fields

/-- The first member with a given name. -/
def field? (block : Block) (name : String) : Option (Field Ty) :=
  block.fields.find? (·.name == name)

end Block

end GlslPrelude
