import GlslPrelude.Proofs.Declaration.Statements
import GlslPrelude.Proofs.Declaration.Written

/-!
# Qualifiers of variables

A variable has the qualifiers that its statement begins with and, if it is a member of an anonymous
block, those of the member. Only where names stand behind a type does the reader look for `const`
among them: there it demands a value, and declares a constant. So the variables that are qualified
as constants are exactly those that a block with this qualifier, or with a member that has it,
declares (`const_variables_of_parse`).
-/

namespace GlslPrelude

/-- The qualifiers that the statement begins with. -/
def Statement.qualifiers (statement : Statement) : QualifierSet :=
  (Input.readQualifiers ∅ (statement.first :: statement.behind)).1

/-- The variable is a member of an anonymous block, with the qualifiers in front of the block added
to those of the member. -/
structure Variable.IsMember (v : Variable) (qualifiers : QualifierSet) (b : Block)
    (f : Field Ty) : Prop where
  /-- The variable belongs to the block. -/
  block_eq : v.block = some b.name
  /-- Its name is that of the member. -/
  name_eq : v.name = f.name
  /-- Its type is that of the member. -/
  type_eq : v.type = f.type
  /-- Its qualifiers are those of the block and those of the member. -/
  qualifiers_eq : v.qualifiers = qualifiers ∪ f.qualifiers

/-- The constant stands in the input: its name, the dimensions that its type has besides those of
some element, an equals sign and an initializer, whose value in the form of the type it has. -/
def Constant.IsInitializedIn (c : Constant) (ts : Input) : Prop :=
  ∃ scope element name us vs ws value rest, name :: us <:+ ts ∧ name.lexeme = .word c.name ∧
    Input.readArray scope element us = .ok (c.type, vs) ∧ Input.skip? .equal vs = some ws ∧
    Input.withRest (Input.readInitializer scope ws) = .ok (value, rest) ∧
    value.coerce? c.type = some c.value

/-- How the entities of a statement come by their qualifiers, if it begins with the given ones and
consists of tokens of the given input. -/
inductive Qualifies (qualifiers : QualifierSet) (ts : Input) : List Entity → Prop
  /-- Constants with initializers, which have the qualifiers of the statement. -/
  | initialized {entities : List Entity} : .const ∈ qualifiers →
      (∀ e ∈ entities, ∃ c, e = .const c ∧ c.qualifiers = qualifiers ∧ c.IsInitializedIn ts) →
      Qualifies qualifiers ts entities
  /-- Variables, which have them, too. -/
  | plain {entities : List Entity} : .const ∉ qualifiers →
      (∀ e ∈ entities, ∃ v, e = .var v ∧ v.qualifiers = qualifiers ∧ v.block = none) →
      Qualifies qualifiers ts entities
  /-- A function, which has no qualifiers. -/
  | function (s : Signature) : Qualifies qualifiers ts [.function s]
  /-- A block with a variable that has the qualifiers of the statement. -/
  | named (b : Block) {v : Variable} : v.qualifiers = qualifiers → v.block = none →
      Qualifies qualifiers ts [.block b, .var v]
  /-- A block whose members are variables. -/
  | anonymous {b : Block} {members : List Entity} :
      (∀ e ∈ members, ∃ v, e = .var v ∧ ∃ f ∈ b.fields, v.IsMember qualifiers b f) →
      Qualifies qualifiers ts (.block b :: members)

namespace Input

variable {scope : Scope} {head : Head} {element : Ty} {name : String} {ts us rest : Input}
  {entity : Entity} {entities : List Entity} {t : Documented}

/-! ## Constants -/

/-- How declarators behind the given qualifiers introduce an entity: behind `const` as a constant
with an initializer, and as a variable otherwise. -/
def IsDeclared (qualifiers : QualifierSet) (ts : Input) (e : Entity) : Prop :=
  (.const ∈ qualifiers ∧ ∃ c, e = .const c ∧ c.qualifiers = qualifiers ∧ c.IsInitializedIn ts) ∨
    .const ∉ qualifiers ∧ ∃ v, e = .var v ∧ v.qualifiers = qualifiers ∧ v.block = none

/-- So does a declarator behind its name. -/
theorem isDeclared_of_readDeclarator (hsuffix : t :: ts <:+ us) (ht : t.lexeme = .word name)
    (h : readDeclarator scope head element name ts = .ok (entity, rest)) :
    IsDeclared head.qualifiers us entity := by
  rw [IsDeclared, EnumSet.mem_iff_contains]
  obtain ⟨type, vs, harray, ⟨hconst, ws, read, value, hequal, hread, hvalue, rfl⟩ |
    ⟨hconst, -, -, rfl⟩⟩ := readDeclarator_eq_ok_iff.1 h
  · refine .inl ⟨hconst, _, rfl, rfl, ?_⟩
    exact ⟨scope, element, t, ts, vs, ws, read, rest, hsuffix, ht, harray, hequal, hread, hvalue⟩
  · exact .inr ⟨by simp [hconst], _, rfl, rfl, rfl⟩

/-- So do declarators one after the other. -/
theorem isDeclared_of_readDeclarators (hsuffix : t :: ts <:+ us) (ht : t.lexeme = .word name)
    (h : readDeclarators scope head element name ts = (entities, .ok rest)) :
    ∀ e ∈ entities, IsDeclared head.qualifiers us e := by
  fun_induction readDeclarators scope head element name ts generalizing entities t with
  | case1 | case3 => cases h
  | case2 scope name ts e vs hread =>
      obtain ⟨rfl, -⟩ := Prod.mk.inj h
      exact List.forall_mem_singleton.2 (isDeclared_of_readDeclarator hsuffix ht hread)
  | case4 scope name ts e vs hread ws hskip next xs hword _ more result heq ih =>
      cases h
      -- the next name stands behind the first declarator and the comma
      obtain ⟨t', rfl, ht'⟩ := expectWord_eq_ok_iff.1 hword
      have hvs := suffix_of_leads (leads_readDeclarator scope head element name ts) hread
      have hnext : t' :: xs <:+ us :=
        ((suffix_of_skip? hskip).trans hvs).trans ((List.suffix_cons t ts).trans hsuffix)
      rw [List.forall_mem_cons]
      exact ⟨isDeclared_of_readDeclarator hsuffix ht hread, ih hnext ht' heq⟩

/-- Declarators introduce only constants or only variables. -/
theorem qualifies_of_readDeclarators (hsuffix : t :: ts <:+ us) (ht : t.lexeme = .word name)
    (h : readDeclarators scope head element name ts = (entities, .ok rest)) :
    Qualifies head.qualifiers us entities := by
  have hall := isDeclared_of_readDeclarators hsuffix ht h
  by_cases hconst : .const ∈ head.qualifiers
  · exact .initialized hconst fun e he => ((hall e he).resolve_right fun hvar => hvar.1 hconst).2
  · exact .plain hconst fun e he => ((hall e he).resolve_left fun hc => hconst hc.1).2

/-! ## Statements -/

/-- The members of an anonymous block are variables with the qualifiers of both. -/
theorem exists_isMember_of_mem_memberVariables {b : Block} :
    ∀ e ∈ memberVariables head b, ∃ v, e = .var v ∧
      ∃ f ∈ b.fields, v.IsMember head.qualifiers b f := by
  intro e he
  obtain ⟨f, hf, rfl⟩ := List.mem_map.1 he
  exact ⟨_, rfl, f, hf, { block_eq := rfl, name_eq := rfl, type_eq := rfl, qualifiers_eq := rfl }⟩

/-- Entities that are declared together come by their qualifiers in one of these ways. -/
theorem qualifies_of_readDeclaration {condition : Condition} {doc : Option String}
    (h : readDeclaration scope condition doc ts = (entities, .ok rest)) :
    Qualifies (readQualifiers ∅ ts).1 ts entities := by
  obtain ⟨name, us, htype, ⟨vs, -, hblock⟩ | ⟨-, element, -, hnamed⟩⟩ :=
    readDeclaration_eq_ok_iff.1 h
  · obtain ⟨fields, ws, -, -, ⟨-, -, rfl⟩ | ⟨_, _, _, _, -, -, -, rfl⟩⟩ :=
      readBlock_eq_ok_iff.1 hblock
    · exact .anonymous exists_isMember_of_mem_memberVariables
    · exact .named _ rfl rfl
  · obtain ⟨type, vs, name, ws, harray, hname, ⟨xs, -, hfunction⟩ | ⟨-, hdeclarators⟩⟩ :=
      readNamed_eq_ok_iff.1 hnamed
    · obtain ⟨parameters, ys, -, -, rfl⟩ := readFunction_eq_ok_iff.1 hfunction
      exact .function _
    · -- the name stands behind the qualifiers, the type and its dimensions
      obtain ⟨t, rfl, ht⟩ := expectWord_eq_ok_iff.1 hname
      have hvs := suffix_of_leads (leads_readArray scope element us) harray
      have hus := (suffix_of_expectWord htype).trans (takes_readQualifiers ∅ ts).suffix
      exact qualifies_of_readDeclarators (hvs.trans hus) ht hdeclarators

/-- The entities of every statement come by their qualifiers in one of these ways. -/
theorem Statements.qualifies {condition : Condition} {statements : List Statement}
    (h : Statements condition scope ts statements) :
    ∀ st ∈ statements, Qualifies st.qualifiers (st.first :: st.behind) st.entities := by
  induction h with
  | done => simp
  | read hread _ ih => exact List.forall_mem_cons.2 ⟨qualifies_of_readDeclaration hread, ih⟩

end Input

namespace Qualifies

variable {qualifiers : QualifierSet} {ts : Input} {entities : List Entity} {v : Variable}

/-- Without a block, no variable is qualified as a constant. -/
theorem const_not_mem (h : Qualifies qualifiers ts entities) (hblock : ∀ b, .block b ∉ entities)
    (hv : .var v ∈ entities) : .const ∉ v.qualifiers := by
  cases h with
  | initialized _ hconstants =>
      obtain ⟨c, hc, -⟩ := hconstants _ hv
      cases hc
  | plain hconst hvariables =>
      obtain ⟨_, ⟨⟩, hqualifiers, -⟩ := hvariables _ hv
      rw [hqualifiers]
      exact hconst
  | function => simp at hv
  | named b | anonymous => exact absurd List.mem_cons_self (hblock _)

/-- Without a block, nothing but constants with initializers and functions is declared behind
`const`. -/
theorem isInitializedIn (h : Qualifies qualifiers ts entities)
    (hblock : ∀ b, .block b ∉ entities) (hconst : .const ∈ qualifiers) :
    ∀ e ∈ entities, (∃ c, e = .const c ∧ c.IsInitializedIn ts) ∨ ∃ s, e = .function s := by
  cases h with
  | initialized _ hconstants =>
      intro e he
      obtain ⟨c, rfl, -, hinitialized⟩ := hconstants e he
      exact .inl ⟨c, rfl, hinitialized⟩
  | plain hvar => exact absurd hconst hvar
  | function s => exact List.forall_mem_singleton.2 (.inr ⟨s, rfl⟩)
  | named b | anonymous => exact absurd List.mem_cons_self (hblock _)

/-- With a block, a variable is qualified as a constant if the block is, or if it is a member of the
block that is. -/
theorem const_mem_iff (h : Qualifies qualifiers ts entities) {b : Block}
    (hb : .block b ∈ entities) (hv : .var v ∈ entities) :
    .const ∈ v.qualifiers ↔ .const ∈ qualifiers ∨
      ∃ f ∈ b.fields, v.IsMember qualifiers b f ∧ .const ∈ f.qualifiers := by
  cases h with
  | initialized _ hconstants =>
      obtain ⟨c, hc, -⟩ := hconstants _ hv
      cases hc
  | plain _ hvariables =>
      obtain ⟨v, hblock, -⟩ := hvariables _ hb
      cases hblock
  | function => simp at hv
  | named _ hqualifiers hnone =>
      obtain rfl : v = _ := by simpa using hv
      rw [hqualifiers]
      refine ⟨.inl, ?_⟩
      rintro (hconst | ⟨f, -, hmember, -⟩)
      · exact hconst
      · -- the variable belongs to no block
        cases hnone.symm.trans hmember.block_eq
  | @anonymous b' members hmembers =>
      obtain rfl : b = b' := by
        rcases List.mem_cons.1 hb with heq | hmem
        · exact Entity.block.inj heq
        · obtain ⟨v, hvar, -⟩ := hmembers _ hmem
          cases hvar
      have hmem : .var v ∈ members := by simpa using hv
      obtain ⟨_, ⟨⟩, f, hf, hmember⟩ := hmembers _ hmem
      constructor
      · intro hconst
        rw [hmember.qualifiers_eq, EnumSet.mem_union] at hconst
        exact hconst.imp_right fun hconst => ⟨f, hf, hmember, hconst⟩
      · rintro (hconst | ⟨g, -, hmember, hconst⟩)
        · rw [hmember.qualifiers_eq]
          exact EnumSet.mem_union.2 (.inl hconst)
        · rw [hmember.qualifiers_eq]
          exact EnumSet.mem_union.2 (.inr hconst)

end Qualifies

namespace Fragment

variable {scope scope' : Scope} {fragment : Fragment} {declarations : List Declaration}

/-- Which variables of a fragment are qualified as constants. Without a block, a statement declares
none, and what it declares behind `const` are constants with initializers or a function. The
variables that are declared with a block are qualified as constants if the statement begins with
`const`, or if they are members with this qualifier; no value is demanded for them. -/
theorem const_variables_of_parse (h : parse scope fragment = (scope', .ok declarations)) :
    ∃ tokens statements, Token.tokenize fragment.text = .ok tokens ∧
      Input.Statements fragment.condition scope (Input.ofTokens tokens) statements ∧
      declarations = statements.flatMap (Statement.declarations fragment) ∧
      ∀ st ∈ statements,
        ((∀ b, .block b ∉ st.entities) →
          (∀ v, .var v ∈ st.entities → .const ∉ v.qualifiers) ∧
          (.const ∈ st.qualifiers → ∀ e ∈ st.entities,
            (∃ c, e = .const c ∧ c.IsInitializedIn (st.first :: st.behind)) ∨
              ∃ s, e = .function s)) ∧
        ∀ b v, .block b ∈ st.entities → .var v ∈ st.entities →
          (.const ∈ v.qualifiers ↔ .const ∈ st.qualifiers ∨
            ∃ f ∈ b.fields, v.IsMember st.qualifiers b f ∧ .const ∈ f.qualifiers) := by
  obtain ⟨tokens, statements, htokens, hstatements, heq⟩ := exists_statements_of_parse h
  refine ⟨tokens, statements, htokens, hstatements, heq, fun st hst => ?_⟩
  have hqualifies := hstatements.qualifies st hst
  refine ⟨fun hblock => ⟨fun v hv => hqualifies.const_not_mem hblock hv, ?_⟩, ?_⟩
  · exact fun hconst => hqualifies.isInitializedIn hblock hconst
  · exact fun b v hb hv => hqualifies.const_mem_iff hb hv

/-- A block that is qualified as a constant is read, with a variable that has no value. -/
theorem exists_parse_constBlock :
    ∃ scope' b v, parse .empty (ofText "const B { float x; } b;".toList 1 .always) =
      (scope', .ok [⟨.always, 1, .block b⟩, ⟨.always, 1, .var v⟩]) ∧ .const ∈ v.qualifiers := by
  let tokens : List Token := [⟨.word "const", 1⟩, ⟨.word "B", 1⟩, ⟨.punct .leftBrace, 1⟩,
    ⟨.word "float", 1⟩, ⟨.word "x", 1⟩, ⟨.punct .semicolon, 1⟩,
    ⟨.punct .rightBrace, 1⟩, ⟨.word "b", 1⟩, ⟨.punct .semicolon, 1⟩]
  let inside : Input := (tokens.drop 3).map .ofToken
  let behind : Input := (tokens.drop 7).map .ofToken
  let b : Block := { name := "B", fields := [⟨"x", .scalar .float, ∅⟩] }
  let v : Variable := ⟨"b", b.type, (∅ : QualifierSet).insert .const, none, none⟩
  have hgroup : Input.readFieldGroup .empty inside = .ok (b.fields, inside.drop 3) := by
    refine Input.readFieldGroup_eq_ok_iff.2 ⟨.scalar .float, _, rfl, ?_⟩
    refine Input.readFieldNames_eq_ok_iff.2 ⟨"x", _, .scalar .float, _, rfl, rfl, ?_⟩
    exact .inr ⟨rfl, rfl, rfl⟩
  have hfields : Input.readFields .empty inside = .ok (b.fields, behind) := by
    refine Input.readFields_eq_ok_iff.2 (.inr ⟨rfl, _, _, [], hgroup, ?_, rfl⟩)
    exact Input.readFields_eq_ok_iff.2 (.inl ⟨rfl, rfl⟩)
  have hread : Input.readDeclaration .empty .always none (tokens.map .ofToken) =
      ([.block b, .var v], .ok []) := by
    refine Input.readDeclaration_eq_ok_iff.2 ⟨"B", _, rfl, .inl ⟨inside, rfl, ?_⟩⟩
    refine Input.readBlock_eq_ok_iff.2 ⟨_, _, hfields, rfl, .inr ?_⟩
    refine ⟨"b", _, _, _, rfl, rfl, ?_⟩
    exact ⟨rfl, rfl⟩
  have hstatements : Input.Statements .always .empty (Input.ofTokens tokens) [_] :=
    .read hread (.done _)
  have htokens : Token.tokenize (ofText "const B { float x; } b;".toList 1 .always).text =
      .ok tokens := by
    rw [text_ofText]
    with_unfolding_all exact rfl
  exact ⟨_, b, v, parse_of_statements htokens hstatements, EnumSet.mem_insert.2 (.inl rfl)⟩

/-- The variable of a block behind `const` is one that has it from there. -/
theorem const_variables_of_parse_constBlock :
    ∃ scope' declarations v, parse .empty (ofText "const B { float x; } b;".toList 1 .always) =
        (scope', .ok declarations) ∧ .var v ∈ declarations.map Declaration.entity ∧
      ∃ (st : Statement) (b : Block), .var v ∈ st.entities ∧ .block b ∈ st.entities ∧
        (.const ∈ st.qualifiers ∨
          ∃ f ∈ b.fields, v.IsMember st.qualifiers b f ∧ .const ∈ f.qualifiers) := by
  obtain ⟨scope', b, v, hparse, hv⟩ := exists_parse_constBlock
  refine ⟨scope', _, v, hparse, by simp, ?_⟩
  obtain ⟨tokens, statements, -, -, hdeclarations, hall⟩ := const_variables_of_parse hparse
  -- the variable is declared by a statement, and not without a block
  have hmem : (⟨.always, 1, .var v⟩ : Declaration) ∈ statements.flatMap
      (Statement.declarations (ofText "const B { float x; } b;".toList 1 .always)) := by
    rw [← hdeclarations]
    simp
  obtain ⟨st, hst, hmem⟩ := List.mem_flatMap.1 hmem
  have hvar : .var v ∈ st.entities := by
    obtain ⟨e, he, heq⟩ := List.mem_map.1 hmem
    obtain rfl : e = .var v := congrArg Declaration.entity heq
    exact he
  obtain ⟨hplain, hblock⟩ := hall st hst
  by_cases hnone : ∀ b, .block b ∉ st.entities
  · exact absurd hv ((hplain hnone).1 v hvar)
  · obtain ⟨b, hb⟩ := not_forall_not.1 hnone
    exact ⟨st, b, hvar, hb, (hblock b v hb hvar).1 hv⟩

/-- Variables without values can be qualified as constants. -/
theorem not_forall_const_not_mem_of_parse :
    ¬∀ (scope : Scope) (fragment : Fragment) (scope' : Scope) (declarations : List Declaration),
      scope.Reachable → parse scope fragment = (scope', .ok declarations) →
        ∀ d ∈ declarations, ∀ v, d.entity = .var v → .const ∉ v.qualifiers := by
  intro h
  obtain ⟨scope', b, v, hparse, hv⟩ := exists_parse_constBlock
  exact h _ _ _ _ .empty hparse ⟨.always, 1, .var v⟩ (by simp) v rfl hv

end Fragment

end GlslPrelude
