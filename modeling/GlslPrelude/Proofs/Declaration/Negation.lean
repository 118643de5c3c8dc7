import GlslPrelude.Proofs.Declaration.Constants
import GlslPrelude.Proofs.Declaration.Statements
import Mathlib.Algebra.Group.Int.Defs

/-!
# Negated values

Signed integers have one number without an opposite, the least one. A literal is never that number,
and neither is the opposite of another number; so no value that is read is, as long as no constant
in scope is. The scopes in which values are read are those that declarations lead to
(`Fragment.ReadsValue`), in which by induction no constant is, and a minus in front of a value never
overflows (`Fragment.negation_never_overflows`).
-/

namespace GlslPrelude

/-- The integer and its opposite are signed integers. -/
def HasOpposite (i : Int64) : Prop :=
  -(2 ^ 63 - 1) ≤ i.toInt ∧ i.toInt ≤ 2 ^ 63 - 1

/-- All integers but the least one have an opposite. -/
theorem hasOpposite_of_ne_minValue {i : Int64} (h : i ≠ Int64.minValue) : HasOpposite i := by
  have hne : i.toInt ≠ Int64.minValue.toInt := mt Int64.toInt_inj.1 h
  have hleast : Int64.minValue.toInt = -2 ^ 63 := rfl
  have hle := i.minValue_le_toInt
  have hlt := i.toInt_lt
  constructor <;> omega

/-- What is computed as the opposite is the opposite. -/
theorem HasOpposite.toInt_neg {i : Int64} (h : HasOpposite i) : (-i).toInt = -i.toInt := by
  rw [Int64.toInt_neg, Int.bmod_eq_of_le] <;> unfold HasOpposite at h <;> omega

namespace Input

/-! ## Where values are read -/

/-- When declarators are read behind their type, the value of a constant is read: in which scope,
and where it begins. -/
inductive DeclaratorsReadValue (head : Head) (element : Ty) :
    Scope → String → Input → Scope → Input → Prop
  /-- It is the value of the first name. -/
  | here {scope : Scope} {name : String} {ts us vs : Input} {type : Ty} :
    readArray scope element ts = .ok (type, us) → head.qualifiers.contains .const = true →
    skip? .equal us = some vs → DeclaratorsReadValue head element scope name ts scope vs
  /-- It is the value of a later name, which is read in the scope behind the first. -/
  | later {scope scope' : Scope} {name next : String} {ts us vs ws xs : Input} {entity : Entity} :
    readDeclarator scope head element name ts = .ok (entity, us) → skip? .comma us = some vs →
    expectWord .missingName vs = .ok (next, ws) →
    DeclaratorsReadValue head element (scope.record entity) next ws scope' xs →
    DeclaratorsReadValue head element scope name ts scope' xs

/-- When declarations are read, the value of a constant is read: in which scope, and where it
begins. -/
inductive ReadsValue (condition : Condition) : Scope → Input → Scope → Input → Prop
  /-- It is the value of a name of the first declaration. -/
  | here {scope scope' : Scope} {t : Documented} {ts us vs ws xs ys : Input} {word name : String}
      {qualifiers : QualifierSet} {element type : Ty} :
    readQualifiers ∅ (t :: ts) = (qualifiers, us) → expectWord .missingType us = .ok (word, vs) →
    skip? .leftBrace vs = none → resolveType scope word vs = .ok element →
    readArray scope element vs = .ok (type, ws) → expectWord .missingName ws = .ok (name, xs) →
    skip? .leftParen xs = none →
    DeclaratorsReadValue { doc := t.doc, qualifiers } type scope name xs scope' ys →
    ReadsValue condition scope (t :: ts) scope' ys
  /-- It is in a later declaration, which is read in the scope behind the first. -/
  | later {scope scope' : Scope} {t : Documented} {ts rest ys : Input} {entities : List Entity} :
    readDeclaration scope condition t.doc (t :: ts) = (entities, .ok rest) →
    ReadsValue condition (entities.foldl Scope.record scope) rest scope' ys →
    ReadsValue condition scope (t :: ts) scope' ys

variable {scope scope' : Scope} {head : Head} {element : Ty} {name : String} {condition : Condition}
  {ts us : Input}

/-- No constant is the least integer where the value of a declarator is read. -/
theorem DeclaratorsReadValue.hasNoLeast
    (h : DeclaratorsReadValue head element scope name ts scope' us) (hscope : scope.HasNoLeast) :
    scope'.HasNoLeast := by
  induction h with
  | here => exact hscope
  | later hread _ _ _ ih => exact ih (hscope.record (not_hasLeast_of_readDeclarator hscope hread))

/-- No constant is the least integer where a value is read. -/
theorem ReadsValue.hasNoLeast (h : ReadsValue condition scope ts scope' us) (hlexed : ts.IsLexed)
    (hscope : scope.HasNoLeast) : scope'.HasNoLeast := by
  induction h with
  | here _ _ _ _ _ _ _ hvalue => exact hvalue.hasNoLeast hscope
  | @later scope scope' t ts rest ys entities hread _ ih =>
      have hentities := allWritten_of_readDeclaration condition t.doc hlexed hscope
      have hleads := leads_readDeclaration scope condition t.doc (t :: ts)
      rw [hread] at hentities hleads
      exact ih (hlexed.of_suffix hleads.suffix) (hscope.foldl_record hentities)

/-- All integers in a value that is read have an opposite. -/
theorem hasOpposite_of_readInitializer (hscope : scope.HasNoLeast) {v : ConstValue}
    {behind : Behind ts} (h : readInitializer scope ts = .ok (v, behind)) {i : Int64}
    (hi : .int i ∈ v.leaves) : HasOpposite i := by
  refine hasOpposite_of_ne_minValue ?_
  rintro rfl
  exact not_hasLeast_of_readInitializer hscope ts h hi

/-- An integer that is read without its sign has an opposite. -/
theorem hasOpposite_of_readLiteral (hscope : scope.HasNoLeast) {i : Int64} {behind : Behind ts}
    (h : readLiteral scope ts = .ok (.int i, behind)) : HasOpposite i := by
  refine hasOpposite_of_ne_minValue ?_
  rintro rfl
  exact not_hasLeast_of_readLiteral hscope ts h (List.mem_singleton_self _)

end Input

namespace Fragment

/-- When the fragment is read, the value of a constant is read: in which scope, and where it
begins. -/
def ReadsValue (scope : Scope) (fragment : Fragment) (scope' : Scope) (ts : Input) : Prop :=
  ∃ tokens, Token.tokenize fragment.text = .ok tokens ∧
    Input.ReadsValue fragment.condition scope (Input.ofTokens tokens) scope' ts

/-- Behind fragments, whether they could be read or not, all constants in scope are integers that
have an opposite. When another fragment is read, this also holds wherever a value is read, and of
all integers in what the reader of values returns there; and an integer that it negates, literal or
constant, at the beginning of the value or inside a list, is negated without overflow. -/
theorem negation_never_overflows (fragments : List Fragment) :
    (∀ c ∈ (scopeBehind .empty fragments).constants, HasOpposite c.2) ∧
    ∀ fragment scope ts, ReadsValue (scopeBehind .empty fragments) fragment scope ts →
      (∀ c ∈ scope.constants, HasOpposite c.2) ∧
      ∀ us,
        (∀ v behind, Input.readInitializer scope us = .ok (v, behind) →
          ∀ i, .int i ∈ v.leaves → HasOpposite i) ∧
        ∀ i behind, Input.readLiteral scope us = .ok (.int i, behind) →
          HasOpposite i ∧ (-i).toInt = -i.toInt := by
  have hscope := (reachable_scopeBehind .empty fragments).hasNoLeast
  refine ⟨fun c hc => hasOpposite_of_ne_minValue (hscope c hc), ?_⟩
  rintro fragment scope ts ⟨tokens, htokens, hvalue⟩
  have hinside := hvalue.hasNoLeast (Input.isLexed_ofTokens htokens) hscope
  refine ⟨fun c hc => hasOpposite_of_ne_minValue (hinside c hc), fun us => ⟨?_, ?_⟩⟩
  · exact fun v behind hread i hi => Input.hasOpposite_of_readInitializer hinside hread hi
  · intro i behind hread
    have hi := Input.hasOpposite_of_readLiteral hinside hread
    exact ⟨hi, hi.toInt_neg⟩

/-- Behind a fragment that cannot be read, the least integer that can be written is a constant, and
its name is negated to the greatest one. -/
theorem negation_never_overflows_of_least_literal :
    let failing := ofText "@".toList 1 .always
    let fragment := ofText "const int n = -9223372036854775807, m = -n;".toList 2 .always
    ∃ scope minus us behind,
      ReadsValue (scopeBehind .empty [failing]) fragment scope (minus :: us) ∧
      minus.lexeme = .punct .minus ∧
      Input.readLiteral scope us = .ok (.int (-9223372036854775807), behind) ∧
      (-(-9223372036854775807 : Int64)).toInt = 9223372036854775807 := by
  intro failing fragment
  have htokens : Token.tokenize fragment.text =
      .ok [⟨.word "const", 1⟩, ⟨.word "int", 1⟩, ⟨.word "n", 1⟩, ⟨.punct .equal, 1⟩,
        ⟨.punct .minus, 1⟩, ⟨.int 9223372036854775807 false, 1⟩, ⟨.punct .comma, 1⟩,
        ⟨.word "m", 1⟩, ⟨.punct .equal, 1⟩, ⟨.punct .minus, 1⟩, ⟨.word "n", 1⟩,
        ⟨.punct .semicolon, 1⟩] := by
    with_unfolding_all exact rfl
  have hscope : scopeBehind .empty [failing] = .empty := by
    have hfault : Token.tokenize failing.text = .error ⟨1, .unexpectedCharacter⟩ := by
      with_unfolding_all exact rfl
    rw [scopeBehind, List.foldl_cons, List.foldl_nil, parse, hfault]
  let head : Input.Head := { doc := none, qualifiers := (∅ : QualifierSet).insert .const }
  let behindFirst : Input :=
    [.ofToken ⟨.punct .comma, 1⟩, .ofToken ⟨.word "m", 1⟩, .ofToken ⟨.punct .equal, 1⟩,
      .ofToken ⟨.punct .minus, 1⟩, .ofToken ⟨.word "n", 1⟩, .ofToken ⟨.punct .semicolon, 1⟩]
  -- the value of the first name is a negated literal
  have hfirst : Input.readDeclarator .empty head (.scalar .int) "n"
      (.ofToken ⟨.punct .equal, 1⟩ :: .ofToken ⟨.punct .minus, 1⟩ ::
        .ofToken ⟨.int 9223372036854775807 false, 1⟩ :: behindFirst) =
      .ok (.const { name := "n", type := .scalar .int, qualifiers := head.qualifiers
                    value := .int (-9223372036854775807), doc := none }, behindFirst) := by
    refine Input.readDeclarator_eq_ok_iff.2 ⟨_, _, Input.readArray_of_ne _ (by decide),
      .inl ⟨by decide, _, .int (-9223372036854775807), _, rfl, ?_, rfl, rfl⟩⟩
    exact Input.withRest_readInitializer_eq_ok_iff.2 (.inr (.inl ⟨rfl, .int 9223372036854775807,
      Input.readLiteral_int rfl rfl, rfl⟩))
  have hsecond : Input.withRest (Input.readLiteral ⟨[("n", -9223372036854775807)], []⟩
      [.ofToken ⟨.word "n", 1⟩, .ofToken ⟨.punct .semicolon, 1⟩]) =
      .ok (.int (-9223372036854775807), [.ofToken ⟨.punct .semicolon, 1⟩]) :=
    Input.withRest_readLiteral_eq_ok_iff.2 (.inr ⟨fun _ _ _ => rfl, rfl, rfl⟩)
  obtain ⟨_, hread⟩ := Input.exists_of_withRest hsecond
  have hvalue : ReadsValue (scopeBehind .empty [failing]) fragment
      ⟨[("n", -9223372036854775807)], []⟩ [.ofToken ⟨.punct .minus, 1⟩, .ofToken ⟨.word "n", 1⟩,
        .ofToken ⟨.punct .semicolon, 1⟩] := by
    rw [hscope]
    exact ⟨_, htokens, .here rfl rfl rfl rfl (Input.readArray_of_ne _ (by decide)) rfl rfl
      (.later hfirst rfl rfl (.here (Input.readArray_of_ne _ (by decide)) (by decide) rfl))⟩
  obtain ⟨-, hnegation⟩ := negation_never_overflows [failing]
  refine ⟨_, _, _, _, hvalue, rfl, hread, ?_⟩
  exact (((hnegation _ _ _ hvalue).2 _).2 _ _ hread).2.trans rfl

end Fragment

end GlslPrelude
