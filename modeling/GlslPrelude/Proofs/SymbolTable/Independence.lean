import GlslPrelude.Proofs.Declaration.Conditions
import GlslPrelude.Proofs.Fragment.InactiveText
import GlslPrelude.Proofs.Fragment.MentionedFlags
import GlslPrelude.Proofs.SymbolTable.Visibility
import GlslPrelude.SymbolTable.Source

/-!
# What a table does not depend on

A table sees the lines of its source through the active fragments only, and its environment through
the conditions of the source. So text that is not active can be anything
(`ofSource_ignores_inactive_text`), and environments that agree on the flags that the source
mentions make the same table of it, or fail with the same error
(`ofSource_depends_on_mentioned_flags`).
-/

namespace GlslPrelude

namespace SymbolTable

open Fragment (split evaluate conditionAt AlikeIn Mentions)

variable {source source' : String} {env env' : Environment}

/-- Text that is not active does not influence a table: sources that differ only in content lines
whose conditions do not hold make the same table, or fail with the same error. -/
theorem ofSource_ignores_inactive_text (h : AlikeIn env source.toList source'.toList) :
    ofSource source env = ofSource source' env := by
  rw [ofSource, ofSource, h.evaluate_eq]

/-- A constant in an inactive block can be replaced by a character that no token starts with. -/
theorem ofSource_ignores_inactive_text_of_block :
    ofSource "#ifdef __GLSLD_TARGET_API_VULKAN\nconst int n = 3;\n#endif\nin float x[n];\n"
        { api := .openGl, stage := .vertex, features := ∅ } =
      ofSource "#ifdef __GLSLD_TARGET_API_VULKAN\n  @\n#endif\nin float x[n];\n"
        { api := .openGl, stage := .vertex, features := ∅ } := by
  apply ofSource_ignores_inactive_text
  have hlines :
      (Text.lines "#ifdef __GLSLD_TARGET_API_VULKAN\nconst int n = 3;\n#endif\nin float x[n];\n".toList
        ).zipIdx 1 =
      [("#ifdef __GLSLD_TARGET_API_VULKAN\n".toList, 1), ("const int n = 3;\n".toList, 2),
        ("#endif\n".toList, 3), ("in float x[n];\n".toList, 4)] := by
    decide
  have hlines' :
      (Text.lines "#ifdef __GLSLD_TARGET_API_VULKAN\n  @\n#endif\nin float x[n];\n".toList
        ).zipIdx 1 =
      [("#ifdef __GLSLD_TARGET_API_VULKAN\n".toList, 1), ("  @\n".toList, 2),
        ("#endif\n".toList, 3), ("in float x[n];\n".toList, 4)] := by
    decide
  refine ⟨by decide, ?_⟩
  intro n line line' hline hline'
  rw [Text.IsLine, hlines] at hline
  rw [Text.IsLine, hlines'] at hline'
  simp only [List.mem_cons, Prod.mk.injEq, List.not_mem_nil, or_false] at hline hline'
  rcases hline with ⟨rfl, rfl⟩ | ⟨rfl, rfl⟩ | ⟨rfl, rfl⟩ | ⟨rfl, rfl⟩ <;>
    obtain rfl : line' = _ := by simpa using hline'
  · exact .inl rfl
  · -- the block is for another interface
    have hcondition : conditionAt
        "#ifdef __GLSLD_TARGET_API_VULKAN\nconst int n = 3;\n#endif\nin float x[n];\n".toList 2 =
        .ok (.flag (.api .vulkan)) := by
      rfl
    have hcondition' : conditionAt
        "#ifdef __GLSLD_TARGET_API_VULKAN\n  @\n#endif\nin float x[n];\n".toList 2 =
        .ok (.flag (.api .vulkan)) := by
      rfl
    refine .inr ⟨by decide, by decide, ?_, ?_⟩
    · rintro ⟨p, hp, heval⟩
      cases hcondition.symm.trans hp
      cases heval
    · rintro ⟨p, hp, heval⟩
      cases hcondition'.symm.trans hp
      cases heval
  · exact .inl rfl
  · exact .inl rfl

/-- The definitions of a table that is built from fragments have conditions of the fragments. -/
theorem exists_condition_eq {fragments : List Fragment} {ds : List Declaration} {t : SymbolTable}
    (hparse : Fragment.parseAll .empty fragments = .ok ds) (h : build env ds = .ok t)
    {name : String} {d : Guarded Entity} (hd : d ∈ t.definitions name) :
    ∃ f ∈ fragments, d.condition = f.condition := by
  have hds : ∀ d ∈ ds, d.ConditionsAgree :=
    fun d hd => (Fragment.conditionsAgree_of_parseAll hparse hd).2
  -- what the table keeps was declared
  have hmem := (GatheringRule.sublist_of_gather? (gather?_declared_of_build hds h name)).subset hd
  obtain ⟨declaration, hdeclaration, rfl⟩ := List.mem_map.1 hmem
  exact (Fragment.conditionsAgree_of_parseAll hparse (List.mem_filter.1 hdeclaration).1).1

/-- Tables that have the same entries show the same definitions of a name, if their environments
agree on the conditions of these definitions. -/
theorem visibleDefinitions_congr {entries : List (String × Entry)} {name : String}
    (h : ∀ d ∈ definitionsIn entries name, d.condition.eval env = d.condition.eval env') :
    visibleDefinitions { env, entries } name = visibleDefinitions { env := env', entries } name :=
  List.filter_congr h

/-- A table depends only on the flags that its source mentions: for environments that agree on
these, either no table can be built, for the same reason, or the tables have the same entries, and
answer all queries alike. -/
theorem ofSource_depends_on_mentioned_flags
    (h : ∀ flag, Mentions source.toList flag → env.isSet flag = env'.isSet flag) :
    (∃ e, ofSource source env = .error e ∧ ofSource source env' = .error e) ∨
      ∃ t t', ofSource source env = .ok t ∧ ofSource source env' = .ok t' ∧
        t.env = env ∧ t'.env = env' ∧ t.entries = t'.entries ∧ SameAnswers t t' ∧
        t.symbols = t'.symbols := by
  rw [ofSource, ofSource, ← Fragment.evaluate_congr h]
  cases hactive : evaluate source.toList env with
  | error e => exact .inl ⟨_, rfl, rfl⟩
  | ok active =>
      dsimp only
      rw [ofFragments, ofFragments]
      cases hparse : Fragment.parseAll .empty active with
      | error e => exact .inl ⟨_, rfl, rfl⟩
      | ok ds =>
          dsimp only
          have hds : ∀ d ∈ ds, d.ConditionsAgree :=
            fun d hd => (Fragment.conditionsAgree_of_parseAll hparse hd).2
          cases hinsert : insertAll [] ds with
          | error e =>
              rw [build_eq_error_iff.2 hinsert, build_eq_error_iff.2 hinsert]
              exact .inl ⟨_, rfl, rfl⟩
          | ok entries =>
              have hbuild : build env ds = .ok { env, entries } :=
                build_eq_ok_iff.2 ⟨rfl, hinsert⟩
              have hbuild' : build env' ds = .ok { env := env', entries } :=
                build_eq_ok_iff.2 ⟨rfl, hinsert⟩
              have htidy := (holds_of_insertAll hds hinsert).toTidy
              -- the conditions of the definitions mention no other flags than the source
              have hvisible : ∀ name,
                  visibleDefinitions { env, entries } name =
                    visibleDefinitions { env := env', entries } name := by
                intro name
                apply visibleDefinitions_congr
                intro d hd
                obtain ⟨f, hf, hcondition⟩ := exists_condition_eq hparse hbuild hd
                rw [hcondition]
                apply Condition.eval_congr
                intro flag hflag
                exact h flag (Fragment.within_of_mem_evaluate hactive hf flag hflag)
              have hsame := sameAnswers_of_visibleDefinitions_eq htidy htidy hvisible
              rw [hbuild, hbuild']
              refine .inr ⟨_, _, rfl, rfl, rfl, rfl, rfl, hsame, ?_⟩
              rw [symbols_eq htidy, symbols_eq htidy, funext hsame.lookup?]

/-- A source that mentions one interface only makes the same table for all stages. -/
theorem ofSource_depends_on_mentioned_flags_of_stages :
    ∃ t t',
      ofSource "#ifdef __GLSLD_TARGET_API_VULKAN\nvoid f();\n#endif\n"
        { api := .vulkan, stage := .vertex, features := ∅ } = .ok t ∧
      ofSource "#ifdef __GLSLD_TARGET_API_VULKAN\nvoid f();\n#endif\n"
        { api := .vulkan, stage := .fragment, features := ∅ } = .ok t' ∧
      t.entries = t'.entries ∧ t.overloads "f" = t'.overloads "f" ∧
      t.symbols.map Symbol.name = ["f"] := by
  let source := "#ifdef __GLSLD_TARGET_API_VULKAN\nvoid f();\n#endif\n"
  let env : Environment := { api := .vulkan, stage := .vertex, features := ∅ }
  let env' : Environment := { api := .vulkan, stage := .fragment, features := ∅ }
  -- the stages differ, but no directive mentions a stage
  have hagree : ∀ flag, Mentions source.toList flag → env.isSet flag = env'.isSet flag := by
    rintro flag ⟨line, hline, d, hd, hflag⟩
    have hlines : Text.lines source.toList = ["#ifdef __GLSLD_TARGET_API_VULKAN\n".toList,
        "void f();\n".toList, "#endif\n".toList] := by
      decide
    have hfirst : Directive.ofLine? "#ifdef __GLSLD_TARGET_API_VULKAN\n".toList =
        some (.opening (.flag (.api .vulkan))) := by
      rfl
    have hsecond : Directive.ofLine? "void f();\n".toList = none := rfl
    have hthird : Directive.ofLine? "#endif\n".toList = some .closing := rfl
    rw [hlines] at hline
    simp only [List.mem_cons, List.not_mem_nil, or_false] at hline
    rcases hline with rfl | rfl | rfl
    · cases hfirst.symm.trans hd
      obtain rfl : .api .vulkan = flag := of_decide_eq_true hflag
      rfl
    · cases hsecond.symm.trans hd
    · cases hthird.symm.trans hd
      cases hflag
  let block : Fragment :=
    { condition := .flag (.api .vulkan), line := 2, lines := ["void f();\n".toList] }
  let f : Signature :=
    { name := "f", returnType := .void, parameters := [], condition := block.condition
      doc := none }
  have hparse : Fragment.parse .empty block =
      (.empty, .ok [{ condition := block.condition, line := 2, entity := .function f }]) := by
    let tokens : List Token := [⟨.word "void", 1⟩, ⟨.word "f", 1⟩, ⟨.punct .leftParen, 1⟩,
      ⟨.punct .rightParen, 1⟩, ⟨.punct .semicolon, 1⟩]
    have htokens : Token.tokenize block.text = .ok tokens := by with_unfolding_all exact rfl
    have hread : Input.readDeclaration .empty block.condition none
        (tokens.map Documented.ofToken) = ([.function f], .ok []) := by
      rfl
    have hstatements : Input.Statements block.condition .empty (Input.ofTokens tokens)
        [⟨.ofToken ⟨.word "void", 1⟩, (tokens.drop 1).map Documented.ofToken, [.function f]⟩] :=
      .read hread (.done _)
    rw [Fragment.parse_of_statements htokens hstatements]
    rfl
  have hsplit : split "#ifdef __GLSLD_TARGET_API_VULKAN\nvoid f();\n#endif\n".toList =
      .ok [block] := by
    with_unfolding_all exact rfl
  have hactive : evaluate source.toList env = .ok [block] := by
    rw [evaluate, hsplit]
    rfl
  have hok : ofSource source env =
      .ok { env, entries := [("f", .functions [f])] } := by
    rw [ofSource, hactive]
    dsimp only
    rw [ofFragments, Fragment.parseAll, hparse]
    rfl
  rcases ofSource_depends_on_mentioned_flags hagree with ⟨e, he, -⟩ |
    ⟨t, t', ht, ht', -, -, hentries, hsame, -⟩
  · cases hok.symm.trans he
  · refine ⟨t, t', ht, ht', hentries, hsame.overloads "f", ?_⟩
    obtain rfl := Except.ok.inj (hok.symm.trans ht)
    rfl

end SymbolTable

end GlslPrelude
