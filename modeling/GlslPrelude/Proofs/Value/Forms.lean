import GlslPrelude.Value.Basic
import GlslPrelude.Proofs.Data.Traversal

/-!
# The form of a type

What `coerce?` makes of a value is told by two things alone (`coerce?_eq_some_iff`). The result has
the form of the type: literals of the right kind, in lists of the right lengths (`HasForm`). And it
is the tree that was given, with the same integers in it wherever they have not become
floating-point numbers (`SameTree`). A value that has the form of a type is therefore left as it is.
-/

namespace GlslPrelude

namespace ConstValue

/-- The integer that a literal stands for, whether signed or not. -/
def integer? : ConstValue → Option Int
  | .int i => some i.toInt
  | .uint u => some u.toNat
  | _ => none

/-- Whether a literal is one of a scalar kind. Integers are signed if their kind is. -/
def IsLiteral (kind : Scalar) : ConstValue → Prop
  | .bool _ => kind = .bool
  | .int _ => kind.isIntegral = true ∧ kind.isSigned = true
  | .uint _ => kind.isIntegral = true ∧ kind.isSigned = false
  | .float _ => kind.isFloating = true
  | .aggregate _ => False

/-- Values in the form of a type. A vector is given by its components or by a single one. -/
inductive HasForm : Ty → ConstValue → Prop
  | scalar {kind : Scalar} {v : ConstValue} (hv : v.IsLiteral kind) : HasForm (.scalar kind) v
  | vector {kind : Scalar} {dim : Dim} {vs : List ConstValue}
      (hlength : vs.length = dim.toNat ∨ vs.length = 1) (hvs : ∀ v ∈ vs, v.IsLiteral kind) :
      HasForm (.vector kind dim) (.aggregate vs)
  | array {element : Ty} {size : ArraySize} {vs : List ConstValue}
      (hvs : ∀ v ∈ vs, HasForm element v) : HasForm (.array element size) (.aggregate vs)

/-- One value is the same tree as another one: an integer stays the same integer, signed or not, or
becomes the double nearest to it. -/
inductive SameTree : ConstValue → ConstValue → Prop
  | bool (b : Bool) : SameTree (.bool b) (.bool b)
  | float (x : Double) : SameTree (.float x) (.float x)
  | integer {v w : ConstValue} {n : Int} (hv : v.integer? = some n) (hw : w.integer? = some n) :
      SameTree v w
  | rounded {v : ConstValue} {n : Int} (hv : v.integer? = some n) :
      SameTree v (.float (Double.ofInt n))
  | aggregate {vs ws : List ConstValue} (h : List.Forall₂ SameTree vs ws) :
      SameTree (.aggregate vs) (.aggregate ws)

variable {kind : Scalar} {type : Ty} {v w : ConstValue} {vs ws : List ConstValue} {n : Int}

/-! ## Trees -/

theorem SameTree.refl (v : ConstValue) : SameTree v v := by
  cases v with
  | bool b => exact .bool b
  | int i => exact .integer rfl rfl
  | uint u => exact .integer rfl rfl
  | float x => exact .float x
  | aggregate vs => exact .aggregate (List.forall₂_same.2 fun v hv => SameTree.refl v)

/-- A truth value is no other tree than itself. -/
theorem sameTree_bool_iff {b : Bool} : SameTree (.bool b) w ↔ w = .bool b := by
  constructor
  · rintro (_ | _ | ⟨hv, -⟩ | hv | _)
    · rfl
    · cases hv
    · cases hv
  · rintro rfl
    exact .bool b

/-- A floating-point number is no other tree than itself. -/
theorem sameTree_float_iff {x : Double} : SameTree (.float x) w ↔ w = .float x := by
  constructor
  · rintro (_ | _ | ⟨hv, -⟩ | hv | _)
    · rfl
    · cases hv
    · cases hv
  · rintro rfl
    exact .float x

/-- The trees that an integer is the same as. -/
theorem sameTree_iff_of_integer? (hv : v.integer? = some n) :
    SameTree v w ↔ w.integer? = some n ∨ w = .float (Double.ofInt n) := by
  constructor
  · rintro (_ | _ | ⟨hv', hw⟩ | hv' | _)
    · cases hv
    · cases hv
    · exact .inl (by rw [hw, ← hv, hv'])
    · rw [hv, Option.some_inj] at hv'
      exact .inr (by rw [hv'])
    · cases hv
  · rintro (hw | rfl)
    · exact .integer hv hw
    · exact .rounded hv

/-- Only a list is the same tree as a list. -/
theorem exists_of_sameTree_aggregate (h : SameTree v (.aggregate ws)) :
    ∃ vs, v = .aggregate vs ∧ List.Forall₂ SameTree vs ws := by
  rcases h with _ | _ | ⟨-, hw⟩ | _ | h
  · cases hw
  · exact ⟨_, rfl, h⟩

/-! ## Literals -/

/-- A signed integer becomes the word of the same number. -/
theorem unsigned?_eq_some_iff {i : Int64} {u : UInt64} :
    unsigned? i = some u ↔ i.toInt = u.toNat := by
  unfold unsigned?
  constructor
  · intro h
    split at h <;> cases h
    rename_i hle
    rw [Int64.toNat_toUInt64_of_le hle, Int64.toNatClampNeg, Int.toNat_of_nonneg]
    exact Int64.le_iff_toInt_le.1 hle
  · intro h
    have hle : 0 ≤ i := Int64.le_iff_toInt_le.2 (by rw [h]; exact Int.natCast_nonneg _)
    rw [if_pos hle, Option.some_inj, ← UInt64.toNat_inj, Int64.toNat_toUInt64_of_le hle,
      Int64.toNatClampNeg, h, Int.toNat_natCast]

/-- A word becomes the signed integer of the same number. -/
theorem signed?_eq_some_iff {u : UInt64} {i : Int64} :
    signed? u = some i ↔ i.toInt = u.toNat := by
  -- the words that stay the same number are those whose highest bit is not set
  have hle : u ≤ Int64.maxValue.toUInt64 ↔ u.toNat < 2 ^ 63 := by
    have hmax : Int64.maxValue.toUInt64.toNat = 2 ^ 63 - 1 := by decide
    rw [UInt64.le_iff_toNat_le, hmax]
    omega
  have hint : u.toInt64 = Int64.ofNat u.toNat := by
    rw [← UInt64.toInt64_ofNat', UInt64.ofNat_toNat]
  simp only [signed?, hle, hint]
  constructor
  · intro h
    split at h <;> cases h
    exact Int64.toInt_ofNat_of_lt ‹_›
  · intro h
    have hlt : u.toNat < 2 ^ 63 := by
      have := i.toInt_lt
      omega
    rw [if_pos hlt, Option.some_inj, ← Int64.toInt_inj, Int64.toInt_ofNat_of_lt hlt, h]

/-- A literal in the form of a scalar kind is a literal of that kind and the same tree. -/
theorem coerceScalar?_eq_some_iff :
    v.coerceScalar? kind = some w ↔ w.IsLiteral kind ∧ SameTree v w := by
  cases v with
  | bool b =>
    rw [sameTree_bool_iff]
    grind [coerceScalar?, IsLiteral]
  | float x =>
    rw [sameTree_float_iff]
    grind [coerceScalar?, IsLiteral]
  | aggregate vs =>
    -- no literal is a list
    constructor
    · intro h
      cases h
    · rintro ⟨hw, hsame⟩
      cases hsame with
      | integer hv => cases hv
      | rounded hv => cases hv
      | aggregate => cases hw
  -- which literal an integer becomes depends on the family of the kind and on its sign alone, and
  -- between signed and unsigned literals the number is kept
  | int i =>
    rw [sameTree_iff_of_integer? rfl]
    have hself {j : Int64} : i = j ↔ j.toInt = i.toInt := by rw [Int64.toInt_inj, eq_comm]
    cases hfamily : kind.family <;> cases hsigned : kind.isSigned <;> cases w <;>
      grind [coerceScalar?, IsLiteral, integer?, unsigned?_eq_some_iff, Option.map_eq_some_iff,
        Scalar.isIntegral, Scalar.isFloating, Scalar.family]
  | uint u =>
    have hrounded : Double.ofInt u.toNat = Double.ofNat u.toNat := by
      simp [Double.ofInt, Int.not_lt_of_ge]
    rw [sameTree_iff_of_integer? rfl, hrounded]
    have hself {j : UInt64} : u = j ↔ j.toNat = u.toNat := by rw [UInt64.toNat_inj, eq_comm]
    cases hfamily : kind.family <;> cases hsigned : kind.isSigned <;> cases w <;>
      grind [coerceScalar?, IsLiteral, integer?, signed?_eq_some_iff, Option.map_eq_some_iff,
        Scalar.isIntegral, Scalar.isFloating, Scalar.family]

/-! ## Values of a type -/

/-- The values of a list have a form if each has it. -/
theorem coerceAll?_eq (type : Ty) (vs : List ConstValue) :
    coerceAll? type vs = vs.mapM (coerce? type) := by
  induction vs with
  | nil => rfl
  | cons v vs ih =>
      rw [coerceAll?, ih, List.mapM_cons]
      cases coerce? type v <;> cases vs.mapM (coerce? type) <;> rfl

/-- What a value in the form of a type is: a literal in the form of a scalar, or a list whose values
have the form of the components of a vector or of the elements of an array. -/
theorem cases_of_coerce? (h : v.coerce? type = some w) :
    (∃ kind, type = .scalar kind ∧ v.coerceScalar? kind = some w) ∨
    (∃ kind dim vs ws, type = .vector kind dim ∧ v = .aggregate vs ∧ w = .aggregate ws ∧
      (vs.length = dim.toNat ∨ vs.length = 1) ∧ vs.mapM (coerceScalar? kind) = some ws) ∨
    (∃ element size vs ws, type = .array element size ∧ v = .aggregate vs ∧ w = .aggregate ws ∧
      vs.mapM (coerce? element) = some ws) := by
  unfold coerce? at h
  split at h
  · split at h
    · split at h
      · obtain ⟨ws, hws, rfl⟩ := Option.map_eq_some_iff.1 h
        exact .inr (.inl ⟨_, _, _, ws, rfl, rfl, rfl, ‹_›, hws⟩)
      · cases h
    · obtain ⟨ws, hws, rfl⟩ := Option.map_eq_some_iff.1 h
      rw [coerceAll?_eq] at hws
      exact .inr (.inr ⟨_, _, _, ws, rfl, rfl, rfl, hws⟩)
    · cases h
  · split at h
    · exact .inl ⟨_, rfl, h⟩
    · cases h

/-- A literal is brought to the form of a scalar type as to that of its kind. -/
theorem coerce?_scalar (v : ConstValue) (kind : Scalar) :
    v.coerce? (.scalar kind) = v.coerceScalar? kind := by
  cases v <;> rfl

/-- The elements of an array type are a smaller type. -/
theorem sizeOf_element_lt {element : Ty} {size : ArraySize} (h : type = .array element size) :
    sizeOf element < sizeOf type := by
  rw [h]
  simp
  omega

/-- A value in the form of a type is what has this form and is the same tree. -/
theorem coerce?_eq_some_iff {type : Ty} {v w : ConstValue} :
    v.coerce? type = some w ↔ HasForm type w ∧ SameTree v w := by
  -- by induction on the type: the values of a list are told by what is known for one value
  constructor
  · intro h
    rcases cases_of_coerce? h with ⟨kind, rfl, hliteral⟩ |
      ⟨kind, dim, vs, ws, rfl, rfl, rfl, hlength, hvalues⟩ |
      ⟨element, size, vs, ws, htype, rfl, rfl, hvalues⟩
    · obtain ⟨hw, hsame⟩ := coerceScalar?_eq_some_iff.1 hliteral
      exact ⟨.scalar hw, hsame⟩
    · rw [mapM_eq_some_iff_of_forall fun _ _ => coerceScalar?_eq_some_iff] at hvalues
      obtain ⟨hws, hsame⟩ := hvalues
      rw [hsame.length_eq] at hlength
      exact ⟨.vector hlength hws, .aggregate hsame⟩
    · -- the elements have a smaller type
      have hlt := sizeOf_element_lt htype
      rw [mapM_eq_some_iff_of_forall fun _ _ => coerce?_eq_some_iff] at hvalues
      obtain ⟨hws, hsame⟩ := hvalues
      rw [htype]
      exact ⟨.array hws, .aggregate hsame⟩
  · rintro ⟨hform, hsame⟩
    cases hform with
    | scalar hw =>
      rw [coerce?_scalar]
      exact coerceScalar?_eq_some_iff.2 ⟨hw, hsame⟩
    | vector hlength hws =>
      obtain ⟨vs, rfl, hvalues⟩ := exists_of_sameTree_aggregate hsame
      rw [← hvalues.length_eq] at hlength
      have hvalues := (mapM_eq_some_iff_of_forall fun _ _ => coerceScalar?_eq_some_iff).2
        ⟨hws, hvalues⟩
      simp [coerce?, hlength, hvalues]
    | array hws =>
      obtain ⟨vs, rfl, hvalues⟩ := exists_of_sameTree_aggregate hsame
      have hvalues := (mapM_eq_some_iff_of_forall fun _ _ => coerce?_eq_some_iff).2 ⟨hws, hvalues⟩
      rw [coerce?, coerceAll?_eq, hvalues]
      rfl
termination_by type

/-- A value in the form of a type stays as it is. -/
theorem coerce?_of_coerce? (h : v.coerce? type = some w) : w.coerce? type = some w := by
  obtain ⟨hform, -⟩ := coerce?_eq_some_iff.1 h
  exact coerce?_eq_some_iff.2 ⟨hform, SameTree.refl w⟩

/-- Bringing a value to the form of a type yields literals of the right kind in lists of the right
lengths, keeps the tree with its integers, and changes nothing when it is done again. -/
theorem form_and_tree_of_coerce? (h : v.coerce? type = some w) :
    HasForm type w ∧ SameTree v w ∧ w.coerce? type = some w := by
  obtain ⟨hform, hsame⟩ := coerce?_eq_some_iff.1 h
  exact ⟨hform, hsame, coerce?_of_coerce? h⟩

/-- Signed integers and words in an array of vectors, one of them given by a single component. -/
theorem form_and_tree_of_coerce?_of_words :
    let words := .aggregate [.aggregate [.int Int64.maxValue, .uint 0], .aggregate [.int 7]]
    let type := Ty.array (.vector .uint .two) .implicit
    let result := .aggregate [.aggregate [.uint 0x7fffffffffffffff, .uint 0], .aggregate [.uint 7]]
    HasForm type result ∧ SameTree words result ∧ result.coerce? type = some result :=
  form_and_tree_of_coerce? (by rfl)

end ConstValue

end GlslPrelude
