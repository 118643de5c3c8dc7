import GlslPrelude.Declaration.Printer
import GlslPrelude.Declaration.Scope
import GlslPrelude.Proofs.Token.Spelling
import GlslPrelude.Proofs.Type.Reading

/-!
# How types are written

The types that have names are written as one of them (`isNamed_of_ofName?`). The text of an array
has the lengths of its dimensions in the opposite order (`render_eq`), in which another type is
read.
-/

namespace GlslPrelude

/-- The size can be written: a length is positive and has 32 bits. -/
def ArraySize.IsValid : ArraySize → Prop
  | .fixed n => 0 < n ∧ n < UInt32.size
  | .implicit => True

instance (s : ArraySize) : Decidable s.IsValid :=
  match s with
  | .fixed n => inferInstanceAs (Decidable (0 < n ∧ n < UInt32.size))
  | .implicit => inferInstanceAs (Decidable True)

namespace Ty

open Lexeme (IsName)

variable {t : Ty} {ss : List ArraySize} {w : String}

/-- The elements inside an array of arrays are those of the arrays. -/
@[simp]
theorem base_arrayOf (t : Ty) (ss : List ArraySize) : (t.arrayOf ss).base = t.base := by
  induction ss with
  | nil => rfl
  | cons s ss ih => exact ih

/-- The dimensions of an array of arrays. -/
@[simp]
theorem sizes_arrayOf (t : Ty) (ss : List ArraySize) : (t.arrayOf ss).sizes = ss ++ t.sizes := by
  induction ss with
  | nil => rfl
  | cons s ss ih => rw [List.cons_append, ← ih]; rfl

/-- A type is the array with its dimensions of its elements. -/
@[simp]
theorem arrayOf_sizes (t : Ty) : t.base.arrayOf t.sizes = t := by
  fun_induction base t with
  | case1 a s ih => rw [sizes]; exact congrArg (array · s) ih
  | case2 t h =>
      rw [sizes]
      · rfl
      · exact h

/-- The elements inside all arrays are no arrays. -/
@[simp]
theorem sizes_base (t : Ty) : t.base.sizes = [] := by
  fun_induction base t with
  | case1 a s ih => exact ih
  | case2 t h =>
      rw [sizes]
      exact h

/-- A dimension without a length is one of the sizes. -/
theorem hasImplicitSize_iff : t.hasImplicitSize = true ↔ .implicit ∈ t.sizes := by
  fun_induction hasImplicitSize t with
  | case1 a s ih =>
      rw [sizes, List.mem_cons, ← ih, Bool.or_eq_true, decide_eq_true_eq, eq_comm]
  | case2 t h =>
      rw [sizes]
      · simp
      · exact h

/-- The array whose dimensions stand in the opposite order. -/
def reversed (t : Ty) : Ty :=
  t.base.arrayOf t.sizes.reverse

/-- The opposite order has the same sizes. -/
theorem sizes_reversed (t : Ty) : t.reversed.sizes = t.sizes.reverse := by
  rw [reversed, sizes_arrayOf, sizes_base, List.append_nil]

/-- The opposite order is the same if the sizes read the same from both ends. -/
theorem reversed_eq_iff : t.reversed = t ↔ t.sizes.reverse = t.sizes := by
  constructor
  · intro h
    rw [← sizes_reversed, h]
  · intro h
    rw [reversed, h, arrayOf_sizes]

/-- The opposite order has a length for every dimension if the order has. -/
theorem hasImplicitSize_reversed (t : Ty) : t.reversed.hasImplicitSize = t.hasImplicitSize := by
  rw [Bool.eq_iff_iff, hasImplicitSize_iff, hasImplicitSize_iff, sizes_reversed, List.mem_reverse]

/-- A type is written with the length of its innermost dimension first. -/
theorem render_eq (t : Ty) :
    t.render = t.base.render ++ String.join (t.sizes.reverse.map ArraySize.render) := by
  fun_induction base t with
  | case1 a s ih =>
      rw [render, ih, sizes, List.reverse_cons, List.map_append, String.join_append,
        String.append_assoc]
      simp
  | case2 t h =>
      rw [sizes]
      · simp
      · exact h

/-- The name of the interface block that the type is or has as elements. -/
def structName? (t : Ty) : Option String :=
  match t.base with
  | .struct name _ => some name
  | _ => none

/-- What holds of a type of the language. -/
structure IsNamed (t : Ty) : Prop where
  /-- The type is what its text names. -/
  ofName?_eq : ofName? t.render = some t
  /-- Its text is a word. -/
  isName : IsName t.render
  /-- Its text is no qualifier. -/
  notKeyword : Qualifier.ofKeyword? t.render = none
  /-- It is no array. -/
  base_eq : t.base = t

/-- Every type that has a name. -/
theorem isNamed_of_ofName? (h : ofName? w = some t) : t.IsNamed := by
  have hname := ofName?_eq_some_iff.1 h
  have hall : ∀ e ∈ names, IsName e.2.render ∧ Qualifier.ofKeyword? e.2.render = none := by
    decide +kernel
  obtain ⟨hword, hkeyword⟩ := hall _ hname.mem_names
  refine ⟨ofName?_eq_some_iff.2 hname.render, hword, hkeyword, ?_⟩
  cases hname <;> rfl

/-- Only one name refers to `void`. -/
theorem eq_void_of_ofName? (h : ofName? w = some .void) : w = "void" := by
  cases ofName?_eq_some_iff.1 h
  rfl

end Ty

end GlslPrelude
