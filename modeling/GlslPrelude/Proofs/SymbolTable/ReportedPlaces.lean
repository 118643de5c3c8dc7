import GlslPrelude.Proofs.Declaration.Statements
import GlslPrelude.Proofs.Fragment.Selection
import GlslPrelude.Proofs.Fragment.SourceLines
import GlslPrelude.SymbolTable.Source

/-!
# Reported places are places of the source

Lines are counted three times: the splitter numbers the lines of the source, a fragment keeps the
number of its first line and fills up the lines that it does not show, and the scanner counts the
newlines of the fragment's text. A failure to read the active fragments is reported at the line of
the source that cannot be read, and a declaration at the line that it begins on, under the condition
in effect there (`reported_places_are_exact`).
-/

namespace GlslPrelude

/-- The first token of a statement stands on a line that the fragment shows at line `n` of the
source. -/
def Statement.BeginsOn (fragment : Fragment) (tokens : List Token) (statement : Statement) (n : Nat)
    (line : List Char) : Prop :=
  ∃ (before : List Token) (token : Token) (after : List Token)
    (position : Scanner.Position fragment.text before token),
    tokens = before ++ token :: after ∧ token.lexeme = statement.first.lexeme ∧
      Input.ofTokens after = statement.behind ∧ position.line = line ∧
      n = fragment.line + (position.number - 1)

namespace Fragment

variable {text : List Char} {fragments : List Fragment} {f : Fragment} {failed : ParseFailure}

/-- Fragments that cannot be read one after the other have one that cannot be read in some scope. -/
theorem exists_parse_of_parseAll {scope : Scope} {fs : List Fragment}
    (h : parseAll scope fs = .error failed) :
    ∃ f ∈ fs, ∃ scope scope', parse scope f = (scope', .error failed) := by
  induction fs generalizing scope with
  | nil => cases h
  | cons g fs ih =>
      rw [parseAll] at h
      split at h
      · rename_i hparse
        cases h
        exact ⟨g, List.mem_cons_self, _, _, hparse⟩
      · split at h
        · rename_i hmore
          cases h
          obtain ⟨f, hf, hparse⟩ := ih hmore
          exact ⟨f, List.mem_cons_of_mem _ hf, hparse⟩
        · cases h

/-- A fault on a line of a fragment that is not empty is reported with the number and the text of
that line in the source. -/
theorem isLine_inFragment (h : split text = .ok fragments) (hf : f ∈ fragments) {n : Nat}
    {line : List Char} (hline : Text.IsLine f.text n line) (hne : line ≠ ['\n'])
    (fault : ParseFault) :
    Text.IsLine text (ParseFailure.inFragment f n fault).line line ∧ Directive.body? line = none ∧
      conditionAt text (ParseFailure.inFragment f n fault).line = .ok f.condition ∧
      (ParseFailure.inFragment f n fault).text = String.ofList (Text.trim line) := by
  obtain ⟨hsource, hbody, hcond⟩ := isLine_of_shows h hf (shows_of_isLine hline) hne
  refine ⟨hsource, hbody, hcond, ?_⟩
  rw [Text.IsLine, lines_text_of_mem_split h hf, List.mk_mem_zipIdx_iff_le_and_getElem?_sub]
    at hline
  rw [ParseFailure.inFragment, hline.2]
  rfl

/-- A statement of a fragment begins on a line of the source that is no directive, and its
declarations have the number of that line and the condition in effect there. -/
theorem exists_beginsOn (h : split text = .ok fragments) (hf : f ∈ fragments) {tokens : List Token}
    (htokens : Token.tokenize f.text = .ok tokens) {scope : Scope} {statements : List Statement}
    (hstatements : Input.Statements f.condition scope (Input.ofTokens tokens) statements)
    {st : Statement} (hst : st ∈ statements) {d : Declaration} (hd : d ∈ st.declarations f) :
    ∃ line, st.BeginsOn f tokens d.line line ∧ Text.IsLine text d.line line ∧
      Directive.body? line = none ∧ conditionAt text d.line = .ok d.condition := by
  obtain ⟨before, token, after, rfl, hlexeme, hline, hafter⟩ :=
    Input.exists_token_of_suffix (hstatements.suffix hst)
  obtain ⟨position, hnumber⟩ := Scanner.exists_position htokens
  obtain ⟨entity, -, rfl⟩ := List.mem_map.1 hd
  have hshows : f.Shows (f.line + (st.first.line - 1)) position.line := by
    rw [← hline, ← hnumber]
    exact shows_of_isLine position.isLine
  obtain ⟨hsource, hbody, hcond⟩ := isLine_of_shows h hf hshows position.line_ne_newline
  refine ⟨position.line, ⟨before, token, after, position, rfl, hlexeme, hafter, rfl, ?_⟩, hsource,
    hbody, hcond⟩
  rw [hnumber, hline]

end Fragment

namespace SymbolTable

open Fragment (split evaluate conditionAt ActiveAt)

variable {source : String} {env : Environment} {fragments active : List Fragment}
  {failed : ParseFailure}

/-- Building the table of a source fails in reading only if the active fragments cannot be read. -/
theorem parseAll_of_ofSource (hactive : evaluate source.toList env = .ok active)
    (h : ofSource source env = .error (.parse failed)) :
    Fragment.parseAll .empty active = .error failed := by
  rw [ofSource, hactive] at h
  change ofFragments env active = _ at h
  unfold ofFragments at h
  split at h
  · rename_i hparse
    rw [hparse, BuildError.parse.inj (Except.error.inj h)]
  · rename_i declarations _
    cases hbuilt : build env declarations <;> rw [hbuilt] at h <;> cases h

/-- Reported places are exact: if the active part of a source cannot be read, then the failure names
a line of the source that is no directive and counts in the environment, and has that line without
blanks at its ends. In whatever scope an active fragment is read, it consists of statements; a
declaration has the number of the source line that its statement begins on, and the condition in
effect at that line. -/
theorem reported_places_are_exact (h : split source.toList = .ok fragments) (env : Environment) :
    ∃ active, evaluate source.toList env = .ok active ∧
      (∀ failed, ofSource source env = .error (.parse failed) →
        ∃ line, Text.IsLine source.toList failed.line line ∧ Directive.body? line = none ∧
          ActiveAt source.toList env failed.line ∧
          failed.text = String.ofList (Text.trim line)) ∧
      ∀ f ∈ active, ∀ scope scope' declarations,
        Fragment.parse scope f = (scope', .ok declarations) →
        ∃ tokens statements, Token.tokenize f.text = .ok tokens ∧
          Input.Statements f.condition scope (Input.ofTokens tokens) statements ∧
          declarations = statements.flatMap (Statement.declarations f) ∧
          ∀ st ∈ statements, ∀ d ∈ st.declarations f,
            ∃ line, st.BeginsOn f tokens d.line line ∧ Text.IsLine source.toList d.line line ∧
              Directive.body? line = none ∧
              conditionAt source.toList d.line = .ok d.condition := by
  have hactive : evaluate source.toList env = .ok (fragments.filter (·.isActive env)) := by
    rw [evaluate, h]
    rfl
  refine ⟨_, hactive, ?_, ?_⟩
  · intro failed hfailed
    obtain ⟨f, hf, scope, scope', hparse⟩ :=
      Fragment.exists_parse_of_parseAll (parseAll_of_ofSource hactive hfailed)
    obtain ⟨hmem, heval⟩ := List.mem_filter.1 hf
    obtain ⟨n, line, fault, hline, hne, rfl⟩ := Fragment.exists_isLine_of_parse_eq_error hparse
    obtain ⟨hsource, hbody, hcond, htext⟩ := Fragment.isLine_inFragment h hmem hline hne fault
    exact ⟨line, hsource, hbody, ⟨f.condition, hcond, heval⟩, htext⟩
  · intro f hf scope scope' declarations hparse
    obtain ⟨tokens, statements, htokens, hstatements, hdeclarations⟩ :=
      Fragment.exists_statements_of_parse hparse
    exact ⟨tokens, statements, htokens, hstatements, hdeclarations, fun st hst d hd =>
      Fragment.exists_beginsOn h (List.mem_filter.1 hf).1 htokens hstatements hst hd⟩

/-- A line behind a block cannot be read, which is reported at its own place in the source, and so
is a variable that the block declares below a blank line. -/
theorem reported_places_are_exact_of_block :
    (∃ line, Text.IsLine
        "void f();\n#ifdef __GLSLD_TARGET_API_VULKAN\n\n  in float x;\n#endif\n  @\n".toList
        6 line ∧ "@" = String.ofList (Text.trim line)) ∧
      ∃ (f : Fragment) (st : Statement) (tokens : List Token) (line : List Char),
        Token.tokenize f.text = .ok tokens ∧ st.BeginsOn f tokens 4 line ∧
        Text.IsLine
          "void f();\n#ifdef __GLSLD_TARGET_API_VULKAN\n\n  in float x;\n#endif\n  @\n".toList
          4 line ∧
        conditionAt
          "void f();\n#ifdef __GLSLD_TARGET_API_VULKAN\n\n  in float x;\n#endif\n  @\n".toList
          4 = .ok (.flag (.api .vulkan)) := by
  let env : Environment := { api := .vulkan, stage := .vertex, features := ∅ }
  let block : Fragment :=
    { condition := .flag (.api .vulkan), line := 4, lines := ["  in float x;\n".toList] }
  have hsplit : split (String.toList
      "void f();\n#ifdef __GLSLD_TARGET_API_VULKAN\n\n  in float x;\n#endif\n  @\n") =
      .ok [
        { condition := .always, line := 1
          lines := ["void f();\n".toList, ['\n'], ['\n'], ['\n'], ['\n'],
            "  @\n".toList] },
        block] :=
    Fragment.split_eq_of_perm_pieces (by with_unfolding_all exact rfl) (by rfl)
      (by with_unfolding_all decide) (by decide)
  have hfailed : ofSource
      "void f();\n#ifdef __GLSLD_TARGET_API_VULKAN\n\n  in float x;\n#endif\n  @\n" env =
      .error (.parse { line := 6, text := "@", fault := .lexical .unexpectedCharacter }) := by
    rw [ofSource, evaluate, hsplit]
    with_unfolding_all exact rfl
  -- the block is read on its own
  let tokens : List Token :=
    [⟨.word "in", 1⟩, ⟨.word "float", 1⟩, ⟨.word "x", 1⟩, ⟨.punct .semicolon, 1⟩]
  let x : Variable :=
    { name := "x", type := .scalar .float, qualifiers := (∅ : QualifierSet).insert .in
      block := none, doc := none }
  have htokens : Token.tokenize block.text = .ok tokens := by with_unfolding_all exact rfl
  have hread : Input.readDeclaration .empty (.flag (.api .vulkan)) none
      (tokens.map Documented.ofToken) = ([.var x], .ok []) := by
    with_unfolding_all exact rfl
  have hparse : Fragment.parse .empty block =
      (.empty, .ok [{ condition := .flag (.api .vulkan), line := 4, entity := .var x }]) := by
    have hall : Input.readDeclarations block.condition block.line .empty []
        (Input.ofTokens tokens) = _ :=
      Input.readDeclarations_of_ok hread
    rw [Fragment.parse, htokens]
    dsimp only
    rw [hall, Input.readDeclarations]
    rfl
  obtain ⟨active, hactive, hfailures, hdeclarations⟩ := reported_places_are_exact hsplit env
  have hblock : block ∈ active := by
    rw [evaluate, hsplit] at hactive
    cases hactive
    decide
  obtain ⟨line, hline, -, -, htext⟩ := hfailures _ hfailed
  refine ⟨⟨line, hline, htext⟩, ?_⟩
  obtain ⟨_, statements, htokens', -, hmake, hplaces⟩ := hdeclarations block hblock _ _ _ hparse
  obtain ⟨st, hst, hd⟩ := List.mem_flatMap.1 (hmake ▸ List.mem_singleton_self _)
  obtain ⟨line, hbegins, hline, -, hcond⟩ := hplaces st hst _ hd
  exact ⟨block, st, _, line, htokens', hbegins, hline, hcond⟩

end SymbolTable

end GlslPrelude
