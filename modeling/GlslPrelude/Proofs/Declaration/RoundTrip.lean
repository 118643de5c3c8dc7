import GlslPrelude.Proofs.Declaration.Written

/-!
# Written declarations are read back

The text of a constant, variable or block, read in the scope right behind its declaration, declares
the same (`exists_parse_render`). The text of a function has the lengths of a type without a name in
the opposite order, so it declares the same function exactly if that order is the same
(`parse_render_function`).
-/

namespace GlslPrelude

open Scanner (Spells)

/-! ## Texts of entities -/

namespace Entity

/-- Text that declares the entity. -/
def render : Entity → String
  | .const c => c.render
  | .var v => v.render
  | .block b => b.render
  | .function s => s.render ++ ";"

/-- The entity without its documentation. -/
def withoutDoc : Entity → Entity
  | .const c => .const { c with doc := none }
  | .var v => .var { v with doc := none }
  | .block b => .block b
  | .function s => .function { s with doc := none }

/-- The text of the entity shows all of it: a constant has no floating-point number in its value, a
variable is no member of a block, is not meant as a constant and mentions no block that is named
like a type of the language, and a block mentions no other. -/
def IsPlain : Entity → Prop
  | .const c => c.value.HasNoFloat
  | .var v =>
    v.block = none ∧ v.qualifiers.contains .const = false ∧
      ∀ name ∈ v.type.structName?, Ty.ofName? name = none
  | .block b => ∀ f ∈ b.fields, f.type.structName? = none
  | .function _ => False

end Entity

/-- Two signatures are one prototype: name, result and parameters are the same. -/
def Signature.SamePrototype (s t : Signature) : Prop :=
  s.name = t.name ∧ s.returnType = t.returnType ∧ s.parameters = t.parameters

/-- A parameter is read back as it is if it has a name or the lengths of its type read the same from
both ends. -/
theorem Parameter.readBack_eq_iff (p : Parameter) :
    p.readBack = p ↔ (p.name = none → p.type.sizes.reverse = p.type.sizes) := by
  obtain ⟨name, type, qualifiers⟩ := p
  cases name with
  | some name => simp [readBack]
  | none => simp [readBack, Ty.reversed_eq_iff]

/-- A function is read back as it is if the lengths of its types without a name read the same from
both ends. -/
theorem Signature.samePrototype_readBack_iff (s : Signature) (condition : Condition) :
    (s.readBack condition).SamePrototype s ↔
      s.returnType.sizes.reverse = s.returnType.sizes ∧
        ∀ p ∈ s.parameters, p.name = none → p.type.sizes.reverse = p.type.sizes := by
  have hparameters : s.parameters.map Parameter.readBack = s.parameters ↔
      ∀ p ∈ s.parameters, p.readBack = p := by
    simpa using List.map_eq_map_iff (l := s.parameters) (f := Parameter.readBack) (g := id)
  simp only [SamePrototype, readBack, Ty.reversed_eq_iff, hparameters, Parameter.readBack_eq_iff,
    true_and]

/-- A constant with two values, one of them negative; its text is `const int a[2] = {1, -2};`. -/
def Constant.signedPair : Constant :=
  { name := "a"
    type := .array (.scalar .int) (.fixed 2)
    qualifiers := .ofList [.const]
    value := .aggregate [.int 1, .int (-2)]
    doc := none }

/-- A function whose result has two dimensions; its text is `float[m][n] f()`. -/
def Signature.nestedResult (m n : Nat) : Signature :=
  { name := "f"
    returnType := .array (.array (.scalar .float) (.fixed m)) (.fixed n)
    parameters := []
    condition := .always
    doc := none }

/-! ## Reading one declaration -/

/-- The scope behind some declarations. -/
def Scope.behind (scope : Scope) (declarations : List Declaration) : Scope :=
  (declarations.map Declaration.entity).foldl Scope.record scope

namespace Fragment

open Signature (nestedResult)

variable {scope scope' : Scope} {fragment again : Fragment} {front back : List Declaration}
  {d : Declaration} {s : Signature} {ls : List Lexeme} {entities : List Entity}

/-- A text whose lexemes are read as one declaration is read as that declaration. -/
theorem exists_parse_of_spells (htext : Spells fragment.text ls []) (hne : ls ≠ [])
    (hread : ∀ ts : Input, ts.map Documented.lexeme = ls →
      Input.readDeclaration scope fragment.condition none ts = (entities, .ok [])) :
    ∃ line, parse scope fragment = (entities.foldl Scope.record scope,
      .ok (entities.map (Declaration.mk fragment.condition line))) := by
  obtain ⟨tokens, htokens, hlexemes, hdoc⟩ := htext.exists_ofTokens
  cases hinput : Input.ofTokens tokens with
  | nil =>
      rw [hinput] at hlexemes
      exact absurd hlexemes.symm hne
  | cons t ts =>
      rw [hinput] at hlexemes hdoc
      have hfirst := hread _ hlexemes
      -- the first token has no documentation to give to the declaration
      rw [← hdoc t List.mem_cons_self] at hfirst
      refine ⟨fragment.line + (t.line - 1), ?_⟩
      rw [parse, htokens]
      dsimp only
      rw [hinput, Input.readDeclarations_of_ok hfirst, Input.readDeclarations,
        List.foldl_flip_cons_eq_append, List.append_nil, List.reverse_reverse]

/-- The text of a constant declares the constant. -/
theorem exists_parse_constant {c : Constant} (hc : c.IsWritten scope) (hfloat : c.value.HasNoFloat)
    (htext : fragment.text = c.render.toList) :
    ∃ line, parse scope fragment = (scope.record (.const { c with doc := none }), .ok [
      { condition := fragment.condition, line, entity := .const { c with doc := none } }]) := by
  have hspells := Constant.spells_render hc.isName hc.type.toIsSpelled hfloat
  rw [← htext] at hspells
  exact exists_parse_of_spells hspells (by simp [Constant.lexemes])
    fun ts hts => Input.readDeclaration_constant hc hfloat hts

/-- The text of a variable declares the variable. -/
theorem exists_parse_variable {v : Variable} (hv : v.IsWritten scope)
    (hconst : v.qualifiers.contains .const = false) (hblock : v.block = none)
    (htext : fragment.text = v.render.toList) :
    ∃ line, parse scope fragment = (scope, .ok [
      { condition := fragment.condition, line, entity := .var { v with doc := none } }]) := by
  have hspells := Variable.spells_render hv.isName hv.type.toIsSpelled
  rw [← htext] at hspells
  exact exists_parse_of_spells hspells (by simp [Variable.lexemes])
    fun ts hts => Input.readDeclaration_variable hv hconst hblock hts

/-- The text of a block declares the block, and its members behind it. -/
theorem exists_parse_block {b : Block} (hb : b.IsWritten scope)
    (htext : fragment.text = b.render.toList) :
    ∃ line scope' more, parse scope fragment = (scope',
      .ok ({ condition := fragment.condition, line, entity := .block b } :: more)) := by
  have hspells := Block.spells_render hb.isName fun f hf =>
    ⟨(hb.fields f hf).1, (hb.fields f hf).2.toIsSpelled⟩
  rw [← htext] at hspells
  obtain ⟨line, hparse⟩ := exists_parse_of_spells hspells (by simp [Block.lexemes])
    fun ts hts => Input.readDeclaration_block hb hts
  exact ⟨line, _, _, hparse⟩

/-- The text of a function declares one function, whose types without a name have their lengths in
the opposite order. -/
theorem exists_parse_signature (hs : s.IsWritten scope)
    (htext : fragment.text = (s.render ++ ";").toList) :
    ∃ line, parse scope fragment = (scope, .ok [
      { condition := fragment.condition, line
        entity := .function (s.readBack fragment.condition) }]) := by
  have hspells := Signature.spells_render hs.isName hs.returnType.toIsSpelled fun p hp =>
    ⟨(hs.parameters p hp).isName, (hs.parameters p hp).type.toIsSpelled⟩
  rw [← htext] at hspells
  exact exists_parse_of_spells hspells (by simp [Signature.lexemes, Ty.lexemes])
    fun ts hts => Input.readDeclaration_signature hs hts

/-- The text of a function whose result has two dimensions swaps them. -/
theorem exists_parse_nestedResult {m n : Nat} (hm : (ArraySize.fixed m).IsValid)
    (hn : (ArraySize.fixed n).IsValid) :
    ∃ line, parse .empty (.ofText ((nestedResult m n).render ++ ";").toList 1 .always) =
      (.empty, .ok [{ condition := .always, line, entity := .function (nestedResult n m) }]) := by
  have hwritten : (nestedResult m n).IsWritten .empty := {
    isName := show Lexeme.IsName "f" by decide
    returnType := {
      isName := show Lexeme.IsName (Ty.scalar .float).render by decide
      sizes := List.forall_mem_cons.2 ⟨hn, List.forall_mem_singleton.2 hm⟩
      notKeyword := rfl
      type?_eq := rfl }
    parameters := by simp [nestedResult]
    ne_void := by simp [nestedResult] }
  exact exists_parse_signature hwritten (text_ofText _ 1 .always)

/-- What a fragment declares can be read back in the scope right behind it. -/
theorem isWritten_of_parse (hscope : scope.Reachable)
    (h : parse scope fragment = (scope', .ok (front ++ d :: back))) :
    d.entity.IsWritten (scope.behind (front ++ [d])) := by
  obtain ⟨-, hwritten⟩ := allWritten_of_parse hscope.hasNoLeast h
  rw [List.map_append, List.map_cons] at hwritten
  rw [Scope.behind, List.map_append]
  exact hwritten.isWritten

/-! ## Reading back -/

/-- A constant, variable or block whose text shows all of it is read back from its text in the scope
right behind its declaration. -/
theorem exists_parse_render (hscope : scope.Reachable)
    (h : parse scope fragment = (scope', .ok (front ++ d :: back))) (hplain : d.entity.IsPlain)
    (htext : again.text = d.entity.render.toList) :
    ∃ scope'' read more,
      parse (scope.behind (front ++ [d])) again = (scope'', .ok (read :: more)) ∧
        read.entity = d.entity.withoutDoc := by
  have hwritten := isWritten_of_parse hscope h
  cases hentity : d.entity with
  | const c =>
      rw [hentity] at hwritten hplain htext
      obtain ⟨line, hparse⟩ := exists_parse_constant hwritten hplain htext
      exact ⟨_, _, _, hparse, rfl⟩
  | var v =>
      rw [hentity] at hwritten hplain htext
      obtain ⟨hblock, hconst, hnames⟩ := hplain
      obtain ⟨line, hparse⟩ := exists_parse_variable (hwritten hblock hnames) hconst hblock htext
      exact ⟨_, _, _, hparse, rfl⟩
  | block b =>
      rw [hentity] at hwritten hplain htext
      obtain ⟨line, scope'', more, hparse⟩ := exists_parse_block (hwritten hplain) htext
      exact ⟨_, _, _, hparse, rfl⟩
  | function s =>
      rw [hentity] at hplain
      exact hplain.elim

/-- A constant with a list of values is read back. -/
theorem exists_parse_render_array :
    ∃ d : Declaration, d.entity = .const .signedPair ∧
      (parse .empty (.ofText "const int a[2] = \x7b1, -2\x7d;".toList 1 .always)).2 = .ok [d] ∧
      ∃ scope' read more, parse (Scope.empty.behind [d])
          (.ofText "const int a[2] = \x7b1, -2\x7d;".toList 1 .always) =
            (scope', .ok (read :: more)) ∧
        read.entity = d.entity.withoutDoc := by
  have hrender : Constant.signedPair.render = "const int a[2] = \x7b1, -2\x7d;" := by decide
  have hc : Constant.signedPair.IsWritten .empty := {
    isName := by decide
    type := {
      isName := by decide
      sizes := by decide
      notKeyword := by decide
      type?_eq := rfl }
    isConst := by decide
    hasNoLeast := by
      simp +decide [Constant.signedPair, ConstValue.HasLeast, ConstValue.leaves,
        ConstValue.leavesOf]
    coerce?_eq := rfl }
  have hfloat : Constant.signedPair.value.HasNoFloat := by
    simp [Constant.signedPair, ConstValue.HasNoFloat, ConstValue.leaves, ConstValue.leavesOf]
  rw [← hrender]
  have htext := text_ofText Constant.signedPair.render.toList 1 .always
  obtain ⟨line, hparse⟩ := exists_parse_constant hc hfloat htext
  let d : Declaration := { condition := .always, line, entity := .const .signedPair }
  have hfirst : parse .empty (.ofText Constant.signedPair.render.toList 1 .always) =
      (Scope.empty.record (.const .signedPair), .ok ([] ++ d :: [])) := hparse
  exact ⟨d, rfl, congrArg Prod.snd hfirst, exists_parse_render .empty hfirst hfloat htext⟩

/-- The text of a function, read in the scope right behind its declaration, declares one function.
It is the same prototype exactly if the lengths of the types without a name read the same from both
ends. -/
theorem parse_render_function (hscope : scope.Reachable)
    (h : parse scope fragment = (scope', .ok (front ++ d :: back))) (hd : d.entity = .function s)
    (htext : again.text = (s.render ++ ";").toList) :
    ∃ line t, parse (scope.behind (front ++ [d])) again = (scope.behind (front ++ [d]),
        .ok [{ condition := again.condition, line, entity := .function t }]) ∧
      t = s.readBack again.condition ∧
      (t.SamePrototype s ↔ s.returnType.sizes.reverse = s.returnType.sizes ∧
        ∀ p ∈ s.parameters, p.name = none → p.type.sizes.reverse = p.type.sizes) := by
  have hwritten := isWritten_of_parse hscope h
  rw [hd] at hwritten
  obtain ⟨line, hparse⟩ := exists_parse_signature hwritten htext
  exact ⟨line, _, hparse, rfl, s.samePrototype_readBack_iff again.condition⟩

/-- The text of a function whose result has two dimensions is read back with their lengths in the
opposite order. -/
theorem parse_render_function_nestedResult :
    ∃ d : Declaration, d.entity = .function (nestedResult 3 2) ∧
      (parse .empty (.ofText "float[2][3] f();".toList 1 .always)).2 = .ok [d] ∧
      ∃ line t, parse (Scope.empty.behind [d]) (.ofText "float[3][2] f();".toList 1 .always) =
          (Scope.empty.behind [d], .ok [{ condition := .always, line, entity := .function t }]) ∧
        t = nestedResult 2 3 ∧ ¬t.SamePrototype (nestedResult 3 2) := by
  have hrender : (nestedResult 2 3).render ++ ";" = "float[2][3] f();" := by decide
  have hrender' : (nestedResult 3 2).render ++ ";" = "float[3][2] f();" := by decide
  obtain ⟨line, hfirst⟩ := exists_parse_nestedResult (m := 2) (n := 3) (by decide) (by decide)
  let d : Declaration := { condition := .always, line, entity := .function (nestedResult 3 2) }
  have hparse : parse .empty (.ofText "float[2][3] f();".toList 1 .always) =
      (.empty, .ok ([] ++ d :: [])) := by
    rw [← hrender]
    exact hfirst
  have htext : (ofText "float[3][2] f();".toList 1 .always).text =
      ((nestedResult 3 2).render ++ ";").toList := by
    rw [hrender', text_ofText]
  obtain ⟨line, t, hread, ht, hsame⟩ := parse_render_function .empty hparse rfl htext
  refine ⟨d, rfl, congrArg Prod.snd hparse, line, t, hread, ht, ?_⟩
  rw [hsame]
  decide

/-- Not every function is read back from its text as the same prototype, even if it mentions no
block that is named like a type of the language. -/
theorem not_forall_parse_render_function :
    ¬∀ (scope scope' : Scope) (fragment again : Fragment) (front back : List Declaration)
      (d : Declaration) (s : Signature), scope.Reachable →
      parse scope fragment = (scope', .ok (front ++ d :: back)) → d.entity = .function s →
      (∀ t ∈ s.returnType :: s.parameterTypes, ∀ name ∈ t.structName?, Ty.ofName? name = none) →
      again.text = (s.render ++ ";").toList →
      ∃ scope'' read t, parse (scope.behind (front ++ [d])) again = (scope'', .ok [read]) ∧
        read.entity = .function t ∧ t.SamePrototype s := by
  intro h
  obtain ⟨line, hfirst⟩ := exists_parse_nestedResult (m := 2) (n := 3) (by decide) (by decide)
  obtain ⟨line', hagain⟩ := exists_parse_nestedResult (m := 3) (n := 2) (by decide) (by decide)
  obtain ⟨scope'', read, t, hread, ht, hsame⟩ := h .empty .empty _
    (.ofText ((nestedResult 3 2).render ++ ";").toList 1 .always) [] [] _ (nestedResult 3 2) .empty
    hfirst rfl (by decide) (text_ofText _ 1 .always)
  -- behind a function the scope is as in front of it
  rw [show Scope.empty.behind _ = Scope.empty from rfl, hagain] at hread
  cases hread
  cases ht
  exact absurd hsame.2.1 (by decide)

end Fragment

end GlslPrelude
