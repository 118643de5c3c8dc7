import GlslPrelude.Proofs.Declaration.ConstantLine
import GlslPrelude.Proofs.Declaration.Equations
import GlslPrelude.Proofs.Declaration.RoundTrip
import Mathlib.Data.List.Basic

/-!
# The constants behind fragments

Fragments are read one after the other in the scope that the earlier ones leave, whether these could
be read or not. A constant that is declared is qualified as one, and its value has the form of its
type; and in scope are exactly the integer constants that were declared last under their names,
those in front of the place where a fragment failed included (`constants_of_parse`).
-/

namespace GlslPrelude

namespace Fragment

/-- What a fragment declares; if it cannot be read, what it declares in front of the place where it
fails. -/
def declared (scope : Scope) (fragment : Fragment) : List Entity :=
  match Token.tokenize fragment.text with
  | .error _ => []
  | .ok tokens =>
    let progress :=
      Input.readDeclarations fragment.condition fragment.line scope [] (Input.ofTokens tokens)
    progress.reversed.reverse.map Declaration.entity

/-- What fragments declare that are read one after the other. -/
def declaredAll (scope : Scope) : List Fragment → List Entity
  | [] => []
  | fragment :: fragments =>
    declared scope fragment ++ declaredAll (parse scope fragment).1 fragments

/-- The scope behind fragments that are read one after the other. -/
def scopeBehind (scope : Scope) (fragments : List Fragment) : Scope :=
  fragments.foldl (fun scope fragment => (parse scope fragment).1) scope

variable {scope scope' : Scope} {fragment : Fragment} {declarations : List Declaration}
  {name : String} {i : Int64}

/-- A fragment that can be read declares its declarations. -/
theorem declared_of_parse (h : parse scope fragment = (scope', .ok declarations)) :
    declared scope fragment = declarations.map Declaration.entity := by
  unfold parse at h
  unfold declared
  cases htokens : Token.tokenize fragment.text with
  | error e =>
      rw [htokens] at h
      cases h
  | ok tokens =>
      rw [htokens] at h
      dsimp only at h ⊢
      split at h <;> cases h
      rfl

/-- The scope behind a fragment records what the fragment declares. -/
theorem parse_fst (hscope : scope.HasNoLeast) (fragment : Fragment) :
    (parse scope fragment).1 = (declared scope fragment).foldl Scope.record scope := by
  unfold parse declared
  cases htokens : Token.tokenize fragment.text with
  | error e => rfl
  | ok tokens =>
      -- the reader keeps what it declares and records it, whether it gets stuck or not
      obtain ⟨read, hreversed, hbehind, -⟩ := Input.exists_allWritten_of_readDeclarations
        fragment.condition fragment.line [] (Input.isLexed_ofTokens htokens) hscope
      dsimp only
      rw [hreversed, List.append_nil, List.reverse_reverse, ← hbehind]
      split <;> rfl

/-- What a further fragment declares comes behind what the others do. -/
theorem declaredAll_concat (scope : Scope) (fragments : List Fragment) (fragment : Fragment) :
    declaredAll scope (fragments ++ [fragment]) =
      declaredAll scope fragments ++ declared (scopeBehind scope fragments) fragment := by
  induction fragments generalizing scope with
  | nil => simp [declaredAll, scopeBehind]
  | cons f fragments ih =>
      rw [List.cons_append, declaredAll, ih, declaredAll, List.append_assoc]
      rfl

/-- The scope behind several fragments records what they declare. -/
theorem scopeBehind_eq (hscope : scope.HasNoLeast) (fragments : List Fragment) :
    scopeBehind scope fragments = (declaredAll scope fragments).foldl Scope.record scope := by
  induction fragments generalizing scope with
  | nil => rfl
  | cons fragment fragments ih =>
      rw [declaredAll, List.foldl_append, ← parse_fst hscope]
      exact ih (hasNoLeast_of_parse hscope fragment)

/-- Such scopes are reached from the empty one. -/
theorem reachable_scopeBehind (hscope : scope.Reachable) (fragments : List Fragment) :
    (scopeBehind scope fragments).Reachable := by
  induction fragments generalizing scope with
  | nil => exact hscope
  | cons fragment fragments ih => exact ih (hscope.parse fragment)

/-- A name stands for an integer behind some fragments if the integer constant that they declare
last under the name has this value. -/
theorem constant?_scopeBehind_eq_some_iff (fragments : List Fragment) :
    (scopeBehind .empty fragments).constant? name = some i ↔
      Entity.IsLatestInteger (declaredAll .empty fragments) name i := by
  rw [scopeBehind_eq Scope.Reachable.empty.hasNoLeast, Scope.constant?_foldl_record_eq_some_iff]

/-- A constant of a fragment that can be read has the qualifier and a value in the form of its type.
-/
theorem form_of_parse (hscope : scope.Reachable)
    (h : parse scope fragment = (scope', .ok declarations)) {d : Declaration}
    (hd : d ∈ declarations) {c : Constant} (hc : d.entity = .const c) :
    c.qualifiers.contains .const = true ∧ c.value.coerce? c.type = some c.value := by
  obtain ⟨front, back, rfl⟩ := List.append_of_mem hd
  have hwritten := isWritten_of_parse hscope h
  rw [hc] at hwritten
  exact ⟨hwritten.isConst, hwritten.coerce?_eq⟩

/-- In a fragment that can be read behind others, every constant has the qualifier and a value in
the form of its type; and the scope behind it has exactly the integers that were declared last under
their names, in the fragment or, as far as they were read, in those before it. -/
theorem constants_of_parse (fragments : List Fragment)
    (h : parse (scopeBehind .empty fragments) fragment = (scope', .ok declarations)) :
    (∀ d ∈ declarations, ∀ c, d.entity = .const c →
      c.qualifiers.contains .const = true ∧ c.value.coerce? c.type = some c.value) ∧
    ∀ name i, scope'.constant? name = some i ↔
      Entity.IsLatestInteger
        (declaredAll .empty fragments ++ declarations.map Declaration.entity) name i := by
  have hscope := reachable_scopeBehind .empty fragments
  refine ⟨fun d hd c hc => form_of_parse hscope h hd hc, fun name i => ?_⟩
  -- the fragment is the last of those that were read
  have hbehind : scopeBehind .empty (fragments ++ [fragment]) = scope' := by
    rw [scopeBehind, List.foldl_append, List.foldl_cons, List.foldl_nil, ← scopeBehind, h]
  rw [← hbehind, constant?_scopeBehind_eq_some_iff, declaredAll_concat, declared_of_parse h]

/-- A constant in front of a failure stays in scope, also behind a constant of the same name that is
no integer. -/
theorem constants_of_parse_behind_failure :
    let failing := ofText "const int n = 3; n".toList 1 .always
    let fragment := ofText "const bool n = true;".toList 2 .always
    ∃ scope' d, parse (scopeBehind .empty [failing]) fragment = (scope', .ok [d]) ∧
      (∀ c, d.entity = .const c → c.value.coerce? c.type = some c.value) ∧
      Entity.IsLatestInteger (declaredAll .empty [failing] ++ [d.entity]) "n" 3 := by
  intro failing fragment
  let head : Input.Head := { doc := none, qualifiers := (∅ : QualifierSet).insert .const }
  let text : Input.ConstantLine "n" 3 :=
    { qualifier := .ofToken ⟨.word "const", 1⟩
      type := .ofToken ⟨.word "int", 1⟩
      constant := .ofToken ⟨.word "n", 1⟩
      equal := .ofToken ⟨.punct .equal, 1⟩
      literal := .ofToken ⟨.int 3 false, 1⟩
      close := .ofToken ⟨.punct .semicolon, 1⟩
      bits := 3
      qualifier_eq := rfl
      type_eq := rfl
      constant_eq := rfl
      equal_eq := rfl
      literal_eq := rfl
      close_eq := rfl
      signed_bits := rfl }
  let last : Documented := .ofToken ⟨.word "n", 1⟩
  -- the constant is read, then the reader gets stuck at its name, which is no type
  have hfirst : Input.readDeclaration .empty .always none (text.input [last]) =
      ([.const (Input.ConstantLine.declared "n" 3 head)], .ok [last]) :=
    Input.readDeclaration_eq_ok_iff.2 ⟨"int", text.atName [last], rfl,
      .inr ⟨rfl, .scalar .int, rfl, text.readNamed_atName head (by decide) .always⟩⟩
  have hstuck : Input.readDeclaration ⟨[("n", 3)], []⟩ .always last.doc [last] =
      ([], .error { cause := .unknownType "n", rest := [] }) := by
    rfl
  have htokens : Token.tokenize failing.text =
      .ok [⟨.word "const", 1⟩, ⟨.word "int", 1⟩, ⟨.word "n", 1⟩, ⟨.punct .equal, 1⟩,
        ⟨.int 3 false, 1⟩, ⟨.punct .semicolon, 1⟩, ⟨.word "n", 1⟩] := by
    with_unfolding_all exact rfl
  have hread : Input.readDeclarations failing.condition failing.line .empty []
        (text.qualifier :: text.atType [last]) =
      { reversed := [⟨.always, 1, .const (Input.ConstantLine.declared "n" 3 head)⟩]
        scope := ⟨[("n", 3)], []⟩
        stuck? := some { cause := .unknownType "n", rest := [] } } := by
    change Input.readDeclarations .always 1 .empty [] _ = _
    rw [Input.readDeclarations_of_ok hfirst]
    exact Input.readDeclarations_of_error hstuck
  have hscope : scopeBehind .empty [failing] = ⟨[("n", 3)], []⟩ := by
    change (parse .empty failing).1 = _
    rw [parse, htokens]
    dsimp only
    rw [show Input.ofTokens _ = text.qualifier :: text.atType [last] from rfl, hread]
  let c : Constant :=
    { name := "n", type := .scalar .bool, qualifiers := head.qualifiers, value := .bool true
      doc := none }
  have hc : c.IsWritten (scopeBehind .empty [failing]) := {
    isName := by decide
    type := {
      isName := by decide
      sizes := by decide
      notKeyword := by decide
      type?_eq := by rw [hscope]; rfl }
    isConst := by decide
    hasNoLeast := by simp [c, ConstValue.HasLeast, ConstValue.leaves]
    coerce?_eq := rfl }
  have hfloat : c.value.HasNoFloat := by simp [c, ConstValue.HasNoFloat, ConstValue.leaves]
  have hrender : c.render = "const bool n = true;" := by decide
  have htext : fragment.text = c.render.toList := by rw [text_ofText, hrender]
  obtain ⟨line, hparse⟩ := exists_parse_constant hc hfloat htext
  obtain ⟨hform, hlatest⟩ := constants_of_parse [failing] hparse
  refine ⟨_, _, hparse, fun d hd => (hform _ List.mem_cons_self d hd).2, (hlatest "n" 3).1 ?_⟩
  rw [hscope]
  rfl

end Fragment

end GlslPrelude
