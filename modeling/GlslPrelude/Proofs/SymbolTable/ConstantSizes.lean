import GlslPrelude.Proofs.Declaration.Conditions
import GlslPrelude.Proofs.Declaration.ReadPhrases
import GlslPrelude.Proofs.Fragment.MentionedFlags
import GlslPrelude.Proofs.SymbolTable.Compatibility
import GlslPrelude.Proofs.SymbolTable.Visibility
import GlslPrelude.SymbolTable.Source

/-!
# Named array sizes and the constants of a table

Where a declaration names the length of an array, the reader takes the value of the constant that
was recorded last under the name, whatever its type and condition are. The table finds its constants
by the first visible definition of a name. Both are the same integer, because a table can be built
only if no two declarations of a name that are visible together differ (`ofSource_resolves_sizes`).
-/

namespace GlslPrelude

/-- The tokens of the fragment's text, comments left out; none if it cannot be cut into tokens. -/
def Fragment.lexemes (fragment : Fragment) : List Lexeme :=
  match Token.tokenize fragment.text with
  | .ok tokens => (Input.ofTokens tokens).map Documented.lexeme
  | .error _ => []

variable {IsConstant : String → Int64 → Prop} {scope scope' : Scope}

/-! ## Phrases of fragments -/

/-- Statements are read from phrases that declare their entities. -/
theorem Input.Statements.exists_phrases {condition : Condition} {ts : Input}
    {statements : List Statement} (h : Statements condition scope ts statements)
    (hscope : scope.Within IsConstant)
    (hentities : ∀ st ∈ statements, ∀ entity ∈ st.entities, entity.Within IsConstant) :
    ∃ ps : List Phrase, ts.map Documented.lexeme = ps.flatMap Phrase.lexemes ∧
      List.Forall₂ (Phrase.Declares IsConstant) ps (statements.map Statement.entities) := by
  induction h with
  | done => exact ⟨[], rfl, .nil⟩
  | @read scope t ts rest entities statements hread _ ih =>
      rw [List.forall_mem_cons] at hentities
      obtain ⟨p, hp, hdeclares⟩ := exists_phrase_of_readDeclaration hscope hentities.1 hread
      obtain ⟨ps, hps, hall⟩ := ih (hscope.foldl_record hentities.1) hentities.2
      refine ⟨p :: ps, ?_, .cons hdeclares hall⟩
      rw [List.flatMap_cons, ← hps]
      exact hp

namespace Fragment

/-- A fragment is read from phrases that declare its entities. -/
theorem exists_phrases_of_parse {fragment : Fragment} {declarations : List Declaration}
    (h : parse scope fragment = (scope', .ok declarations)) (hscope : scope.Within IsConstant)
    (hdeclarations : ∀ d ∈ declarations, d.entity.Within IsConstant) :
    scope'.Within IsConstant ∧
      ∃ (ps : List Phrase) (entities : List (List Entity)),
        fragment.lexemes = ps.flatMap Phrase.lexemes ∧
        declarations.map Declaration.entity = entities.flatten ∧
        List.Forall₂ (Phrase.Declares IsConstant) ps entities := by
  obtain ⟨tokens, statements, htokens, hstatements, rfl⟩ := exists_statements_of_parse h
  have hentity : (statements.flatMap (Statement.declarations fragment)).map Declaration.entity =
      (statements.map Statement.entities).flatten := by
    rw [List.map_flatMap, ← List.flatMap_def]
    simp only [Statement.map_entity_declarations]
  have hentities : ∀ entity ∈ (statements.map Statement.entities).flatten,
      entity.Within IsConstant := by
    rw [← hentity]
    exact List.forall_mem_map.2 hdeclarations
  obtain ⟨ps, hps, hall⟩ := hstatements.exists_phrases hscope fun st hst entity hmem =>
    hentities entity (List.mem_flatten.2 ⟨_, List.mem_map_of_mem hst, hmem⟩)
  have hlexemes : fragment.lexemes = ps.flatMap Phrase.lexemes := by
    rw [Fragment.lexemes, htokens]
    exact hps
  refine ⟨?_, ps, _, hlexemes, hentity, hall⟩
  rw [← (Prod.mk.inj ((parse_of_statements htokens hstatements).symm.trans h)).1]
  exact hscope.foldl_record hentities

/-- Fragments that are read one after the other are read from phrases that declare their entities.
-/
theorem exists_phrases_of_parseAll {fragments : List Fragment} {declarations : List Declaration}
    (h : parseAll scope fragments = .ok declarations) (hscope : scope.Within IsConstant)
    (hdeclarations : ∀ d ∈ declarations, d.entity.Within IsConstant) :
    ∃ (ps : List Phrase) (entities : List (List Entity)),
      fragments.flatMap Fragment.lexemes = ps.flatMap Phrase.lexemes ∧
      declarations.map Declaration.entity = entities.flatten ∧
      List.Forall₂ (Phrase.Declares IsConstant) ps entities := by
  induction fragments generalizing scope declarations with
  | nil =>
      cases h
      exact ⟨[], [], rfl, rfl, .nil⟩
  | cons fragment fragments ih =>
      rw [parseAll] at h
      split at h
      · cases h
      · rename_i hparse
        split at h
        · cases h
        · rename_i hmore
          cases h
          rw [List.forall_mem_append] at hdeclarations
          obtain ⟨hscope', ps, entities, hlexemes, hentities, hall⟩ :=
            exists_phrases_of_parse hparse hscope hdeclarations.1
          obtain ⟨qs, more, hlexemes', hentities', hall'⟩ := ih hmore hscope' hdeclarations.2
          refine ⟨ps ++ qs, entities ++ more, ?_, ?_, List.rel_append hall hall'⟩
          · rw [List.flatMap_cons, List.flatMap_append, hlexemes, hlexemes']
          · rw [List.map_append, List.flatten_append, hentities, hentities']

end Fragment

/-! ## Constants of a table -/

/-- Constants that are the same are the same integer, if they are one. -/
theorem Constant.toInt?_eq_of_sameDefinition {c d : Constant} (h : c.sameDefinition d = true) :
    c.value.toInt? = d.value.toInt? := by
  rw [sameDefinition, Bool.and_eq_true] at h
  exact ConstValue.toInt?_eq_of_beq h.2

namespace SymbolTable

variable {env : Environment} {ds : List Declaration} {t : SymbolTable} {source : String}

/-- The visible constant of a name is an integer. -/
def HasInteger (t : SymbolTable) (name : String) (i : Int64) : Prop :=
  ∃ c, t.constant? name = some c ∧ c.value.toInt? = some i

/-- The first visible definition of a name that has a visible declaration is a visible declaration
of the name. -/
theorem exists_head?_visibleDefinitions (hds : ∀ d ∈ ds, d.ConditionsAgree)
    (h : build env ds = .ok t) {d : Declaration} (hd : d ∈ ds)
    (hvisible : d.condition.eval env = true) :
    ∃ d' ∈ ds, d'.condition.eval env = true ∧ d'.entity.name = d.entity.name ∧
      (t.visibleDefinitions d.entity.name).head? = some d'.definition := by
  have hgather := gather?_declared_filter_visible hds h d.entity.name
  have hmem : d.definition ∈ declared (ds.filter (·.condition.eval env)) d.entity.name :=
    List.mem_map_of_mem (List.mem_filter.2
      ⟨List.mem_filter.2 ⟨hd, hvisible⟩, decide_eq_true rfl⟩)
  have hne := GatheringRule.ne_nil_of_gather?_eq_some hgather (List.ne_nil_of_mem hmem)
  rw [visibleDefinitions, (build_eq_ok_iff.1 h).1]
  -- what is kept first was declared
  have hfirst := (GatheringRule.sublist_of_gather? hgather).subset (List.head_mem hne)
  obtain ⟨d', hd', heq⟩ := List.mem_map.1 hfirst
  obtain ⟨hd', hname⟩ := List.mem_filter.1 hd'
  obtain ⟨hd', hvisible'⟩ := List.mem_filter.1 hd'
  exact ⟨d', hd', hvisible', of_decide_eq_true hname, by rw [heq, List.head?_eq_some_head hne]⟩

/-- A visible declaration of the name of a visible constant declares a constant with the same
integer, if they have one. -/
theorem exists_const_of_visible (hds : ∀ d ∈ ds, d.ConditionsAgree) (h : build env ds = .ok t)
    {d d' : Declaration} (hd : d ∈ ds) (hvisible : d.condition.eval env = true) (hd' : d' ∈ ds)
    (hvisible' : d'.condition.eval env = true) (hname : d'.entity.name = d.entity.name)
    {c : Constant} (hentity : d.entity = .const c) :
    ∃ c', d'.entity = .const c' ∧ c'.value.toInt? = c.value.toInt? := by
  by_cases heq : d' = d
  · exact ⟨c, heq ▸ hentity, rfl⟩
  · -- two declarations that are visible together are the same constant
    have hpairwise := (exists_build_iff_pairwise env hds).1 ⟨t, h⟩
    have hsymm : Std.Symm fun a b : Declaration => ¬a.Incompatible b :=
      ⟨fun a b hab hba => hab hba.symm⟩
    have hcompatible : ¬d'.Incompatible d := hpairwise.forall hd' hd heq
    rw [Declaration.Incompatible, hentity] at hcompatible
    rw [hentity] at hname
    cases hentity' : d'.entity with
    | const c' =>
        rw [hentity'] at hcompatible hname
        have hsame : c'.sameDefinition c = true := by
          by_contra hdiffer
          exact hcompatible ⟨hname, Bool.eq_false_iff.2 hdiffer, env, hvisible', hvisible⟩
        exact ⟨c', rfl, Constant.toInt?_eq_of_sameDefinition hsame⟩
    | var | block | function =>
        rw [hentity'] at hcompatible hname
        exact absurd ⟨hname, by simp [Entity.kind]⟩ hcompatible

/-- Every visible integer constant that is declared is the integer that the table finds under its
name. -/
theorem hasInteger_of_mem (hds : ∀ d ∈ ds, d.ConditionsAgree) (h : build env ds = .ok t)
    {d : Declaration} (hd : d ∈ ds) (hvisible : d.condition.eval env = true) :
    d.entity.Within t.HasInteger := by
  cases hentity : d.entity with
  | const c =>
      intro i hi
      obtain ⟨d', hd', hvisible', hname, hfirst⟩ :=
        exists_head?_visibleDefinitions hds h hd hvisible
      obtain ⟨c', hentity', hinteger⟩ :=
        exists_const_of_visible hds h hd hvisible hd' hvisible' hname hentity
      refine ⟨c', ?_, hinteger.trans hi⟩
      rw [constant?_eq, ← Entity.name, ← hentity, hfirst, Option.bind_some, Guarded.constant?,
        Declaration.definition, hentity']
  | var | block | function => trivial

/-- A source makes a table exactly if its active fragments can be selected and read, and the table
is built from their declarations. -/
theorem ofSource_eq_ok_iff :
    ofSource source env = .ok t ↔
      ∃ active, Fragment.evaluate source.toList env = .ok active ∧
        ∃ ds, Fragment.parseAll .empty active = .ok ds ∧ build env ds = .ok t := by
  constructor
  · intro h
    rw [ofSource] at h
    split at h
    · cases h
    · rename_i active hactive
      rw [ofFragments] at h
      split at h
      · cases h
      · rename_i ds hparse
        refine ⟨active, hactive, ds, hparse, ?_⟩
        cases hbuild : build env ds with
        | error e =>
            rw [hbuild] at h
            cases h
        | ok t' =>
            rw [hbuild] at h
            cases h
            rfl
  · rintro ⟨active, hactive, ds, hparse, hbuild⟩
    rw [ofSource, hactive]
    dsimp only
    rw [ofFragments, hparse]
    dsimp only
    rw [hbuild]
    rfl

/-- The reader and the table agree on constants: if a source makes a table, then its active text
consists of phrases that declare what the table is built from. Every dimension of the types of what
is declared is written in them; if it is written as a literal, then its length is the literal; if it
is written as a name, then its length is the integer that the table finds under the name. In both
cases the length is between 1 and the greatest number of 32 bits; only a dimension that is written
empty has no length. -/
theorem ofSource_resolves_sizes (h : ofSource source env = .ok t) :
    ∃ active declarations,
      Fragment.evaluate source.toList env = .ok active ∧
      Fragment.parseAll .empty active = .ok declarations ∧
      build env declarations = .ok t ∧
      ∃ (phrases : List Phrase) (entities : List (List Entity)),
        active.flatMap Fragment.lexemes = phrases.flatMap Phrase.lexemes ∧
        declarations.map Declaration.entity = entities.flatten ∧
        List.Forall₂ (Phrase.Declares t.HasInteger) phrases entities := by
  obtain ⟨active, hactive, declarations, hparse, hbuild⟩ := ofSource_eq_ok_iff.1 h
  refine ⟨active, declarations, hactive, hparse, hbuild, ?_⟩
  have hds : ∀ d ∈ declarations, d.ConditionsAgree :=
    fun d hd => (Fragment.conditionsAgree_of_parseAll hparse hd).2
  refine Fragment.exists_phrases_of_parseAll hparse Scope.within_empty fun d hd => ?_
  -- every declaration is visible, since its fragment is active
  obtain ⟨f, hf, hcondition⟩ := (Fragment.conditionsAgree_of_parseAll hparse hd).1
  obtain ⟨-, -, -, heval⟩ := Fragment.exists_split_of_mem_evaluate hactive hf
  exact hasInteger_of_mem hds hbuild hd (hcondition ▸ heval)

/-- Of three dimensions of an array one is written empty, one names a constant and one is a literal.
-/
theorem ofSource_resolves_sizes_of_three_dimensions :
    let n : Constant :=
      { name := "n", type := .scalar .int, qualifiers := (∅ : QualifierSet).insert .const
        value := .int 3, doc := none }
    let x : Variable :=
      { name := "x"
        type := .array (.array (.array (.scalar .float) (.fixed 2)) (.fixed 3)) .implicit
        qualifiers := (∅ : QualifierSet).insert .in, block := none, doc := none }
    ∃ t, ofSource "const int n = 3;\nin float x[][n][2];\n"
        { api := .vulkan, stage := .vertex, features := ∅ } = .ok t ∧
      t.HasInteger "n" 3 ∧
      ∃ (phrases : List Phrase) (entities : List (List Entity)),
        phrases.flatMap Phrase.lexemes =
          [.word "const", .word "int", .word "n", .punct .equal, .int 3 false, .punct .semicolon,
            .word "in", .word "float", .word "x", .punct .leftBracket, .punct .rightBracket,
            .punct .leftBracket, .word "n", .punct .rightBracket,
            .punct .leftBracket, .int 2 false, .punct .rightBracket, .punct .semicolon] ∧
        entities.flatten = [.const n, .var x] ∧
        List.Forall₂ (Phrase.Declares t.HasInteger) phrases entities := by
  intro n x
  let env : Environment := { api := .vulkan, stage := .vertex, features := ∅ }
  let fragment : Fragment :=
    { condition := .always, line := 1
      lines := ["const int n = 3;\n".toList, "in float x[][n][2];\n".toList] }
  let first : List Token := [⟨.word "const", 1⟩, ⟨.word "int", 1⟩, ⟨.word "n", 1⟩,
    ⟨.punct .equal, 1⟩, ⟨.int 3 false, 1⟩, ⟨.punct .semicolon, 1⟩]
  let last : List Token := [⟨.word "in", 2⟩, ⟨.word "float", 2⟩, ⟨.word "x", 2⟩,
    ⟨.punct .leftBracket, 2⟩, ⟨.punct .rightBracket, 2⟩,
    ⟨.punct .leftBracket, 2⟩, ⟨.word "n", 2⟩, ⟨.punct .rightBracket, 2⟩,
    ⟨.punct .leftBracket, 2⟩, ⟨.int 2 false, 2⟩, ⟨.punct .rightBracket, 2⟩,
    ⟨.punct .semicolon, 2⟩]
  have htokens : Token.tokenize fragment.text = .ok (first ++ last) := by
    with_unfolding_all exact rfl
  let text : Input.ConstantLine "n" 3 :=
    { qualifier := .ofToken ⟨.word "const", 1⟩
      type := .ofToken ⟨.word "int", 1⟩
      constant := .ofToken ⟨.word "n", 1⟩
      equal := .ofToken ⟨.punct .equal, 1⟩
      literal := .ofToken ⟨.int 3 false, 1⟩
      close := .ofToken ⟨.punct .semicolon, 1⟩
      bits := 3
      qualifier_eq := rfl
      type_eq := rfl
      constant_eq := rfl
      equal_eq := rfl
      literal_eq := rfl
      close_eq := rfl
      signed_bits := rfl }
  let head : Input.Head := { doc := none, qualifiers := (∅ : QualifierSet).insert .const }
  let rest : Input := last.map Documented.ofToken
  have hfirst : Input.readDeclaration .empty .always none
      ((first ++ last).map Documented.ofToken) = ([.const n], .ok rest) :=
    Input.readDeclaration_eq_ok_iff.2 ⟨"int", text.atName rest, rfl,
      .inr ⟨rfl, .scalar .int, rfl, text.readNamed_atName head (by decide) .always⟩⟩
  have hlast : Input.readDeclaration ⟨[("n", 3)], []⟩ .always none rest = ([.var x], .ok []) := by
    with_unfolding_all exact rfl
  have hstatements : Input.Statements .always .empty (Input.ofTokens (first ++ last)) [_, _] :=
    .read hfirst (.read hlast (.done _))
  have hparse : Fragment.parseAll .empty [fragment] =
      .ok [⟨.always, 1, .const n⟩, ⟨.always, 2, .var x⟩] := by
    rw [Fragment.parseAll, Fragment.parse_of_statements htokens hstatements]
    rfl
  have hsplit : Fragment.split "const int n = 3;\nin float x[][n][2];\n".toList =
      .ok [fragment] := by
    with_unfolding_all exact rfl
  have hactive : Fragment.evaluate "const int n = 3;\nin float x[][n][2];\n".toList env =
      .ok [fragment] := by
    rw [Fragment.evaluate, hsplit]
    rfl
  let t : SymbolTable :=
    { env, entries := [("n", .constants [⟨.always, n⟩]), ("x", .variables [⟨.always, x⟩])] }
  have hok : ofSource "const int n = 3;\nin float x[][n][2];\n" env = .ok t :=
    ofSource_eq_ok_iff.2 ⟨_, hactive, _, hparse, rfl⟩
  obtain ⟨active, declarations, hactive', hparse', -, phrases, entities, hlexemes, hentities,
    hall⟩ := ofSource_resolves_sizes hok
  obtain rfl := Except.ok.inj (hactive.symm.trans hactive')
  obtain rfl := Except.ok.inj (hparse.symm.trans hparse')
  refine ⟨t, hok, ⟨n, rfl, rfl⟩, phrases, entities, ?_, hentities.symm, hall⟩
  rw [← hlexemes, List.flatMap_singleton, Fragment.lexemes, htokens]
  rfl

end SymbolTable

end GlslPrelude
