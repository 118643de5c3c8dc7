import GlslPrelude.Proofs.Declaration.RoundTrip
import GlslPrelude.Proofs.Declaration.Statements

/-!
# Arrays without a length

Where arrays without a length can stand in what a fragment declares. The reader looks for them among
the dimensions of parameters and block members, but neither in result types nor inside blocks:
`unsized_arrays_of_parse` says exactly which signatures have none of them at any depth, and in which
blocks they come last.
-/

namespace GlslPrelude

/-! ## Arrays without a length at any depth -/

namespace Ty

mutual

/-- Whether an array without a length occurs in the type, also inside elements and members. -/
def hasUnsized : Ty → Bool
  | .array a s => s = .implicit || a.hasUnsized
  | .struct _ fs => anyUnsized fs
  | .void | .scalar _ | .vector .. | .matrix .. | .handle _ => false

/-- Whether one occurs in the type of a member. -/
def anyUnsized : List (Field Ty) → Bool
  | [] => false
  | ⟨_, t, _⟩ :: fs => t.hasUnsized || anyUnsized fs

end

/-- An array without a length is one of the dimensions, or it occurs in the elements. -/
theorem hasUnsized_eq (t : Ty) : t.hasUnsized = (t.hasImplicitSize || t.base.hasUnsized) := by
  fun_induction base t with
  | case1 a s ih => rw [hasUnsized, hasImplicitSize, ih, Bool.or_assoc]
  | case2 t h =>
      rw [hasImplicitSize]
      · rfl
      · exact h

end Ty

/-- No type of the signature contains an array without a length. -/
def Signature.IsSized (s : Signature) : Prop :=
  s.returnType.hasUnsized = false ∧ ∀ p ∈ s.parameters, p.type.hasUnsized = false

/-- No member whose type contains an array without a length is followed by one whose type contains
none. -/
def Block.UnsizedLast (b : Block) : Prop :=
  b.fields.Pairwise fun f g => f.type.hasUnsized = true → g.type.hasUnsized = true

instance (b : Block) : Decidable b.UnsizedLast :=
  inferInstanceAs (Decidable (List.Pairwise _ _))

/-- If all parameters have lengths for their dimensions, arrays without a length occur in the
signature only as the dimensions of the result, or inside blocks. -/
theorem Signature.isSized_iff {s : Signature}
    (h : ∀ p ∈ s.parameters, p.type.hasImplicitSize = false) :
    s.IsSized ↔ s.returnType.hasImplicitSize = false ∧
      ∀ t ∈ s.returnType :: s.parameterTypes, t.base.hasUnsized = false := by
  have hparameters : (∀ p ∈ s.parameters, p.type.hasUnsized = false) ↔
      ∀ t ∈ s.parameterTypes, t.base.hasUnsized = false := by
    rw [parameterTypes, List.forall_mem_map]
    refine forall₂_congr fun p hp => ?_
    rw [p.type.hasUnsized_eq, h p hp, Bool.false_or]
  rw [IsSized, hparameters, List.forall_mem_cons, s.returnType.hasUnsized_eq,
    Bool.or_eq_false_iff, and_assoc]

/-- If members with unsized dimensions come last, an array without a length that comes earlier is
inside a block. -/
theorem Block.unsizedLast_iff {b : Block}
    (h : b.fields.Pairwise fun f g =>
      f.type.hasImplicitSize = true → g.type.hasImplicitSize = true) :
    b.UnsizedLast ↔ b.fields.Pairwise fun f g =>
      f.type.base.hasUnsized = true → g.type.hasUnsized = true := by
  constructor
  · refine fun hlast => hlast.imp fun {f g} himp hf => himp ?_
    rw [f.type.hasUnsized_eq, hf, Bool.or_true]
  · refine fun hblocks => List.Pairwise.imp₂ (fun f g hdimensions hblock hf => ?_) h hblocks
    rw [f.type.hasUnsized_eq, Bool.or_eq_true] at hf
    rcases hf with hf | hf
    · rw [g.type.hasUnsized_eq, hdimensions hf, Bool.true_or]
    · exact hblock hf

/-! ## What the readers check -/

/-- The parameters of a function have lengths for all their dimensions, and the members of a block
that lack one come last. -/
def Entity.IsChecked : Entity → Prop
  | .function s => ∀ p ∈ s.parameters, p.type.hasImplicitSize = false
  | .block b => b.fields.Pairwise fun f g =>
      f.type.hasImplicitSize = true → g.type.hasImplicitSize = true
  | .const _ | .var _ => True

namespace Input

variable {scope : Scope} {ts rest : Input} {entities : List Entity}

/-- No member that lacks a length stands before one that has all of them. -/
theorem pairwise_of_hasUnsizedBeforeSized {fields : List (Field Ty)}
    (h : hasUnsizedBeforeSized fields = false) :
    fields.Pairwise fun f g => f.type.hasImplicitSize = true → g.type.hasImplicitSize = true := by
  induction fields with
  | nil => exact List.Pairwise.nil
  | cons f fields ih =>
      rw [hasUnsizedBeforeSized, List.dropWhile_cons] at h
      rw [List.pairwise_cons]
      by_cases hf : f.type.hasImplicitSize = true
      · -- from here on, all members lack a length
        have hall : ∀ g ∈ f :: fields, g.type.hasImplicitSize = true := by simpa [hf] using h
        rw [List.forall_mem_cons] at hall
        exact ⟨fun g hg _ => hall.2 g hg,
          List.pairwise_of_forall_mem_list fun _ _ g hg _ => hall.2 g hg⟩
      · exact ⟨fun g _ hunsized => absurd hunsized hf,
          ih (by simpa [hf, hasUnsizedBeforeSized] using h)⟩

/-- Parameters have lengths for all their dimensions. -/
theorem forall_hasImplicitSize_of_readParameters {ps : List Parameter}
    (h : readParameters scope ts = .ok (ps, rest)) :
    ∀ p ∈ ps, p.type.hasImplicitSize = false := by
  have hmore (ts : Input) (ps : List Parameter) (h : readMoreParameters scope ts = .ok (ps, rest)) :
      ∀ p ∈ ps, p.type.hasImplicitSize = false := by
    fun_induction readMoreParameters scope ts generalizing ps with
    | case1 | case2 | case4 => cases h
    | case3 ts p us hread vs hskip _ more ws hmore ih =>
        cases h
        exact List.forall_mem_cons.2 ⟨(readParameter_eq_ok_iff.1 hread).2.1, ih more hmore⟩
    | case5 ts p us hread =>
        cases h
        exact List.forall_mem_singleton.2 (readParameter_eq_ok_iff.1 hread).2.1
  obtain ⟨-, rfl⟩ | ⟨-, -, rfl⟩ | ⟨-, -, h⟩ := readParameters_eq_ok_iff.1 h
  · simp
  · simp
  · exact hmore ts ps h

/-- What is declared together has been checked. -/
theorem isChecked_of_readDeclaration {condition : Condition} {doc : Option String}
    (h : readDeclaration scope condition doc ts = (entities, .ok rest)) :
    ∀ e ∈ entities, e.IsChecked := by
  intro e he
  obtain ⟨c, rfl⟩ | ⟨v, rfl⟩ | ⟨b, rfl, hsized⟩ | ⟨s, us, vs, rfl, -, hread⟩ :=
    cases_of_readDeclaration h e he
  · trivial
  · trivial
  · exact pairwise_of_hasUnsizedBeforeSized hsized
  · exact forall_hasImplicitSize_of_readParameters hread

end Input

/-! ## Fragments -/

namespace Fragment

variable {scope scope' : Scope} {fragment : Fragment} {declarations : List Declaration}

/-- Where arrays without a length stand in what a fragment declares. The parameters of a function
have lengths for all their dimensions; so the whole signature has no array without a length, exactly
if neither the dimensions of the result lack one nor a block with such an array is mentioned. The
members of a block that lack a length come last; so do all those that contain an array without a
length, exactly if no other member follows one that consists of blocks with such an array. -/
theorem unsized_arrays_of_parse (h : parse scope fragment = (scope', .ok declarations)) :
    ∀ d ∈ declarations,
      (∀ s, d.entity = .function s →
        (∀ p ∈ s.parameters, p.type.hasImplicitSize = false) ∧
        (s.IsSized ↔ s.returnType.hasImplicitSize = false ∧
          ∀ t ∈ s.returnType :: s.parameterTypes, t.base.hasUnsized = false)) ∧
      ∀ b, d.entity = .block b →
        (b.fields.Pairwise fun f g =>
          f.type.hasImplicitSize = true → g.type.hasImplicitSize = true) ∧
        (b.UnsizedLast ↔ b.fields.Pairwise fun f g =>
          f.type.base.hasUnsized = true → g.type.hasUnsized = true) := by
  intro d hd
  have hchecked : d.entity.IsChecked :=
    forall_entity_of_parse Entity.IsChecked (fun _ _ _ _ _ => Input.isChecked_of_readDeclaration)
      h d hd
  refine ⟨fun s hs => ?_, fun b hb => ?_⟩
  · rw [hs] at hchecked
    exact ⟨hchecked, Signature.isSized_iff hchecked⟩
  · rw [hb] at hchecked
    exact ⟨hchecked, Block.unsizedLast_iff hchecked⟩

/-- In a block of a sized and an unsized member, the unsized one comes last. -/
theorem unsized_arrays_of_parse_of_block :
    let b : Block := { name := "B", fields := [⟨"n", .scalar .int, ∅⟩,
      ⟨"a", .array (.scalar .float) .implicit, ∅⟩] }
    ∃ scope' d more,
      parse .empty (.ofText "B {
    int n;
    float a[];
};".toList 1 .always) =
        (scope', .ok (d :: more)) ∧ d.entity = .block b ∧ b.UnsizedLast := by
  intro b
  have hrender : b.render = "B {
    int n;
    float a[];
};" := by decide
  have hwritten : b.IsWritten .empty := {
    isName := by decide
    notKeyword := by decide
    fields := List.forall_mem_cons.2 ⟨⟨by decide, {
        isName := by decide
        sizes := by decide
        notKeyword := by decide
        type?_eq := rfl }⟩, List.forall_mem_singleton.2 ⟨by decide, {
        isName := by decide
        sizes := by decide
        notKeyword := by decide
        type?_eq := rfl }⟩⟩
    isSized := by decide }
  obtain ⟨line, scope', more, hparse⟩ :=
    exists_parse_block hwritten (text_ofText b.render.toList 1 .always)
  rw [hrender] at hparse
  refine ⟨scope', _, more, hparse, rfl, ?_⟩
  rw [((unsized_arrays_of_parse hparse _ List.mem_cons_self).2 b rfl).2]
  decide

/-- Not everything that a fragment declares has arrays without a length only where they are
allowed: a function may return one. -/
theorem not_forall_unsized_arrays_of_parse :
    ¬∀ (scope scope' : Scope) (fragment : Fragment) (declarations : List Declaration),
      scope.Reachable → parse scope fragment = (scope', .ok declarations) →
      ∀ d ∈ declarations, (∀ s, d.entity = .function s → s.IsSized) ∧
        ∀ b, d.entity = .block b → b.UnsizedLast := by
  intro h
  let s : Signature :=
    { name := "f", returnType := .array (.scalar .float) .implicit, parameters := []
      condition := .always, doc := none }
  have hrender : s.render ++ ";" = "float[] f();" := by decide
  have hwritten : s.IsWritten .empty := {
    isName := show Lexeme.IsName "f" by decide
    returnType := {
      isName := show Lexeme.IsName (Ty.scalar .float).render by decide
      sizes := List.forall_mem_singleton.2 trivial
      notKeyword := rfl
      type?_eq := rfl }
    parameters := by simp [s]
    ne_void := by simp [s] }
  obtain ⟨line, hparse⟩ := exists_parse_signature hwritten (text_ofText _ 1 .always)
  have hsized := (h .empty _ _ _ .empty hparse _ List.mem_cons_self).1 _ rfl
  exact absurd hsized.1 (by decide)

end Fragment

end GlslPrelude
