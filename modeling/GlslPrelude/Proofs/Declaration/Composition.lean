import GlslPrelude.Proofs.Declaration.Relabelling
import GlslPrelude.Proofs.Declaration.Statements
import GlslPrelude.Proofs.Token.Concatenation

/-!
# One text above another

Reading a text and then, in the scope that it leaves, the lines below it is the same as reading both
as one text, if no comment at the end of the first text becomes documentation of what follows
(`Fragment.parse_append`).
-/

namespace GlslPrelude

variable {scope scope' : Scope} {condition : Condition} {line n : Nat}

/-! ## Input -/

/-- Tokens as many lines further down. -/
def Relabelling.down (n : Nat) : Relabelling where
  apply t := { t with line := t.line + n }
  lexeme_apply _ := rfl

namespace Input

variable {ts us : Input} {tokens more : List Token}

/-- The input has the lines of its tokens. -/
theorem ofTokens_map_down (n : Nat) (tokens : List Token) :
    ofTokens (tokens.map (Token.down n)) = (Relabelling.down n).input (ofTokens tokens) := by
  induction tokens with
  | nil => rfl
  | cons token tokens ih =>
      change cons (token.down n) (ofTokens (tokens.map (Token.down n))) =
        (Relabelling.down n).input (cons token (ofTokens tokens))
      rw [ih]
      obtain ⟨lexeme, line⟩ := token
      cases lexeme with
      | doc comment => cases ofTokens tokens <;> rfl
      | _ => rfl

/-- In front of a token, every token is put as in front of nothing else. -/
theorem foldr_cons_append (tokens : List Token) (hne : ts ≠ []) (us : Input) :
    tokens.foldr cons (ts ++ us) = tokens.foldr cons ts ++ us ∧ tokens.foldr cons ts ≠ [] := by
  induction tokens with
  | nil => exact ⟨rfl, hne⟩
  | cons token tokens ih =>
      obtain ⟨heq, hne⟩ := ih
      obtain ⟨t, rest, ht⟩ := List.exists_cons_of_ne_nil hne
      rw [List.foldr_cons, List.foldr_cons, heq, ht]
      obtain ⟨lexeme, line⟩ := token
      cases lexeme <;> exact ⟨rfl, List.cons_ne_nil _ _⟩

/-- Tokens that do not end with a comment make the same input in front of others. -/
theorem ofTokens_append (h : ∀ before token, tokens = before ++ [token] →
    ∀ comment, token.lexeme ≠ .doc comment) (more : List Token) :
    ofTokens (tokens ++ more) = ofTokens tokens ++ ofTokens more := by
  rcases tokens.eq_nil_or_concat' with rfl | ⟨before, token, rfl⟩
  · rfl
  · have htoken : ∀ rest, cons token rest = [⟨[], token.lexeme, token.line⟩] ++ rest := by
      intro rest
      have hdoc := h before token rfl
      obtain ⟨lexeme, line⟩ := token
      cases lexeme with
      | doc comment => exact absurd rfl (hdoc comment)
      | _ => rfl
    rw [ofTokens, ofTokens, List.foldr_append, List.foldr_append, List.foldr_append]
    change before.foldr cons (cons token (ofTokens more)) =
      before.foldr cons (cons token []) ++ ofTokens more
    rw [htoken, htoken, List.append_nil]
    exact (foldr_cons_append before (List.cons_ne_nil _ _) _).1

/-- Declarations further down are read as if the first line had a greater number; those that were
read before stay in front of them. -/
theorem readDeclarations_down (n : Nat) (reversed before : List Declaration)
    (hts : ∀ t ∈ ts, 1 ≤ t.line) :
    readDeclarations condition line scope (reversed ++ before) ((Relabelling.down n).input ts) =
      { reversed := (readDeclarations condition (line + n) scope reversed ts).reversed ++ before
        scope := (readDeclarations condition (line + n) scope reversed ts).scope
        stuck? := (readDeclarations condition (line + n) scope reversed ts).stuck?.map
          (Relabelling.down n).stop } := by
  -- a statement declares the same at the same line of the source
  have hdeclared : ∀ {t : Documented} {reversed : List Declaration} (entities : List Entity),
      1 ≤ t.line →
      entities.foldl (fun reversed entity =>
          { condition, line := line + (t.line + n - 1), entity } :: reversed) (reversed ++ before) =
        entities.foldl (fun reversed entity =>
          { condition, line := line + n + (t.line - 1), entity } :: reversed) reversed ++
            before := by
    intro t reversed entities ht
    have hline : line + (t.line + n - 1) = line + n + (t.line - 1) := by omega
    rw [hline, List.foldl_flip_cons_eq_append, List.foldl_flip_cons_eq_append, List.append_assoc]
  fun_induction readDeclarations condition (line + n) scope reversed ts with
  | case1 scope reversed =>
      rw [Relabelling.input_nil, readDeclarations]
      rfl
  | case2 scope reversed t ts entities declared next e hread =>
      have hread' := readDeclaration_input (Relabelling.down n) scope condition t.doc (t :: ts)
      rw [hread, Relabelling.input_cons] at hread'
      rw [Relabelling.input_cons, readDeclarations_of_error hread']
      congr 1
      exact hdeclared entities (hts t List.mem_cons_self)
  | case3 scope reversed t ts entities declared next rest hread _ _ ih =>
      have hread' := readDeclaration_input (Relabelling.down n) scope condition t.doc (t :: ts)
      rw [hread, Relabelling.input_cons] at hread'
      have hleads := leads_readDeclaration scope condition t.doc (t :: ts)
      rw [hread] at hleads
      rw [Relabelling.input_cons, readDeclarations_of_ok hread', ← ih fun u hu =>
        hts u (hleads.suffix.subset hu)]
      congr 1
      exact hdeclared entities (hts t List.mem_cons_self)

/-- Behind statements, declarations further down are read in the scope that the statements leave. -/
theorem Statements.readDeclarations_above {fragment : Fragment} {statements : List Statement}
    (h : Statements fragment.condition scope ts statements) (n : Nat)
    (hus : ∀ t ∈ us, 1 ≤ t.line) {p : Progress}
    (hp : readDeclarations fragment.condition (fragment.line + n)
      ((statements.flatMap Statement.entities).foldl Scope.record scope) [] us = p) :
    readDeclarations fragment.condition fragment.line scope []
        (ts ++ (Relabelling.down n).input us) =
      { reversed := p.reversed ++ (statements.flatMap (Statement.declarations fragment)).reverse
        scope := p.scope
        stuck? := p.stuck?.map (Relabelling.down n).stop } := by
  rw [h.readDeclarations_append, List.append_nil, ← hp]
  exact readDeclarations_down n [] _ hus

end Input

namespace Text

/-- The lines of a text stand above those below it. -/
theorem exists_lines_append_newline (text below : List Char) :
    ∃ above, lines (text ++ '\n' :: below) = above ++ lines below ∧
      above.length = text.count '\n' + 1 := by
  obtain ⟨above, last, rfl, hended, hlast⟩ := exists_append_of_ended text
  have hall : ∀ line ∈ above ++ [last ++ ['\n']], IsEnded line := by
    rw [List.forall_mem_append, List.forall_mem_singleton]
    exact ⟨hended, last, hlast, rfl⟩
  refine ⟨above ++ [last ++ ['\n']], ?_, ?_⟩
  · rw [← lines_flatten (.append hall (areLines_lines below))]
    simp
  · rw [List.length_append, List.count_append, count_flatten hended,
      List.count_eq_zero_of_not_mem hlast]
    rfl

end Text

namespace Token

/-- The last token of the text is a comment, which documents what follows. -/
def EndsInComment (text : List Char) : Prop :=
  ∃ before comment line, tokenize text = .ok (before ++ [{ lexeme := .doc comment, line }])

end Token

namespace Fragment

variable {above below : List Char}

/-- A fault on a line below is reported as it is in the text that begins there. -/
theorem inFragment_append (hn : 1 ≤ n) (fault : ParseFault) :
    ParseFailure.inFragment (ofText (above ++ '\n' :: below) line condition)
        (n + (above.count '\n' + 1)) fault =
      .inFragment (ofText below (line + (above.count '\n' + 1)) condition) n fault := by
  obtain ⟨lines, hlines, hlength⟩ := Text.exists_lines_append_newline above below
  have hnumber : n + (above.count '\n' + 1) - 1 = lines.length + (n - 1) := by omega
  have hplace : line + (lines.length + (n - 1)) = line + (above.count '\n' + 1) + (n - 1) := by
    omega
  simp only [ParseFailure.inFragment, ofText]
  rw [hlines, hnumber, hplace, List.getElem?_append_right (Nat.le_add_right _ _),
    Nat.add_sub_cancel_left]

/-- Where a reader gets stuck below is reported as it is in the text that begins there. -/
theorem failure_append {tokens more : List Token} {e : Stuck} (hne : more ≠ [])
    (hlines : ∀ token ∈ more, 1 ≤ token.line) (hrest : e.rest <:+ Input.ofTokens more) :
    failure (ofText (above ++ '\n' :: below) line condition)
        (tokens ++ more.map (Token.down (above.count '\n' + 1)))
        ((Relabelling.down (above.count '\n' + 1)).stop e) =
      failure (ofText below (line + (above.count '\n' + 1)) condition) more e := by
  obtain ⟨cause, rest⟩ := e
  unfold failure
  cases rest with
  | nil =>
      -- the end of the text counts as standing on the line of the last token
      obtain ⟨more, token, rfl⟩ := more.eq_nil_or_concat'.resolve_left hne
      have hline : lastLine (tokens ++ (more ++ [token]).map
          (Token.down (above.count '\n' + 1))) = token.line + (above.count '\n' + 1) := by
        simp [lastLine, Token.down]
      have hline' : lastLine (more ++ [token]) = token.line := by simp [lastLine]
      dsimp only [Relabelling.stop, Relabelling.input_nil]
      rw [hline, hline']
      exact inFragment_append (hlines token (by simp)) _
  | cons t rest =>
      obtain ⟨token, hmem, -, hline⟩ := Input.exists_token_of_mem_ofTokens
        (hrest.subset List.mem_cons_self)
      exact inFragment_append (hline ▸ hlines token hmem) _

/-- The tokens of a text have lines of the text. -/
theorem one_le_line {text : List Char} {tokens : List Token}
    (h : Token.tokenize text = .ok tokens) : ∀ token ∈ tokens, 1 ≤ token.line := by
  obtain ⟨s, hcuts, -⟩ := Scanner.tokenize_eq_ok_iff.1 h
  exact fun token htoken => (hcuts.line_bounds.2 token htoken).1

/-- Reading a text above another one and then, in the scope that it leaves, the other one gives the
declarations and the failure of reading both as one text, unless a comment at the end of the first
one would document what follows. If nothing fails, it leaves the same scope. -/
theorem parse_append {declarations : List Declaration}
    (h : parse scope (ofText above line condition) = (scope', .ok declarations))
    (hend : ¬Token.EndsInComment above) (below : List Char) :
    (parse scope (ofText (above ++ '\n' :: below) line condition)).2 =
        (parse scope' (ofText below (line + above.count '\n' + 1) condition)).2.map
          (declarations ++ ·) ∧
      ∀ more, (parse scope' (ofText below (line + above.count '\n' + 1) condition)).2 = .ok more →
        (parse scope (ofText (above ++ '\n' :: below) line condition)).1 =
          (parse scope' (ofText below (line + above.count '\n' + 1) condition)).1 := by
  obtain ⟨tokens, statements, htokens, hstatements, rfl⟩ := exists_statements_of_parse h
  obtain rfl := congrArg Prod.fst ((parse_of_statements htokens hstatements).symm.trans h)
  rw [text_ofText] at htokens
  have hboth := Token.tokenize_append htokens below
  rw [Nat.add_assoc, parse, parse, text_ofText, text_ofText, hboth]
  cases hbelow : Token.tokenize below with
  | error e =>
      -- the lines below cannot be cut into tokens, so neither can both texts
      obtain ⟨text, hline, -⟩ := Scanner.exists_isLine_of_tokenize_eq_error hbelow
      refine ⟨?_, by rintro more ⟨⟩⟩
      exact congrArg Except.error (inFragment_append (Text.IsLine.one_le hline) _)
  | ok more =>
      have hinput : Input.ofTokens (tokens ++ more.map (Token.down (above.count '\n' + 1))) =
          Input.ofTokens tokens ++
            (Relabelling.down (above.count '\n' + 1)).input (Input.ofTokens more) := by
        rw [Input.ofTokens_append, Input.ofTokens_map_down]
        rintro before ⟨lexeme, line⟩ rfl comment rfl
        exact hend ⟨before, comment, line, htokens⟩
      have hlines : ∀ t ∈ Input.ofTokens more, 1 ≤ t.line := by
        intro t ht
        obtain ⟨token, hmem, -, hline⟩ := Input.exists_token_of_mem_ofTokens ht
        exact hline ▸ one_le_line hbelow token hmem
      dsimp only
      rw [hinput]
      cases hread : Input.readDeclarations condition (line + (above.count '\n' + 1))
        ((statements.flatMap Statement.entities).foldl Scope.record scope) []
        (Input.ofTokens more) with
      | mk reversed scope' stuck? =>
          have hall := hstatements.readDeclarations_above (above.count '\n' + 1) hlines hread
          dsimp only [ofText] at hall ⊢
          rw [hall, hread]
          cases stuck? with
          | none =>
              refine ⟨?_, fun _ _ => rfl⟩
              dsimp only [Option.map, Except.map]
              rw [List.reverse_append, List.reverse_reverse]
          | some e =>
              refine ⟨?_, by rintro more ⟨⟩⟩
              have hstuck := congrArg Input.Progress.stuck? hread
              exact congrArg Except.error (failure_append (ne_nil_of_stuck hstuck)
                (one_le_line hbelow) (Input.stuck_readDeclarations hstuck).1)

/-- A constant is in scope for the lines below it, also if it is read on its own. -/
theorem parse_append_of_constant :
    ∃ constant,
      parse .empty (ofText "const int n = 3;".toList 1 .always) =
        (⟨[("n", 3)], []⟩, .ok [constant]) ∧
      (parse .empty (ofText "const int n = 3;\nin float x[n];".toList 1 .always)).2 =
        (parse ⟨[("n", 3)], []⟩ (ofText "in float x[n];".toList 2 .always)).2.map
          ([constant] ++ ·) := by
  let tokens : List Token := [⟨.word "const", 1⟩, ⟨.word "int", 1⟩, ⟨.word "n", 1⟩,
    ⟨.punct .equal, 1⟩, ⟨.int 3 false, 1⟩, ⟨.punct .semicolon, 1⟩]
  have htokens : Token.tokenize "const int n = 3;".toList = .ok tokens := by
    with_unfolding_all exact rfl
  -- the tokens are those of a line that declares an integer constant
  let text : Input.ConstantLine "n" 3 :=
    { qualifier := .ofToken ⟨.word "const", 1⟩
      type := .ofToken ⟨.word "int", 1⟩
      constant := .ofToken ⟨.word "n", 1⟩
      equal := .ofToken ⟨.punct .equal, 1⟩
      literal := .ofToken ⟨.int 3 false, 1⟩
      close := .ofToken ⟨.punct .semicolon, 1⟩
      bits := 3
      qualifier_eq := rfl
      type_eq := rfl
      constant_eq := rfl
      equal_eq := rfl
      literal_eq := rfl
      close_eq := rfl
      signed_bits := rfl }
  let head : Input.Head := { doc := none, qualifiers := (∅ : QualifierSet).insert .const }
  have hread : Input.readDeclaration .empty .always none (tokens.map Documented.ofToken) =
      ([.const (Input.ConstantLine.declared "n" 3 head)], .ok []) :=
    Input.readDeclaration_eq_ok_iff.2 ⟨"int", text.atName [], rfl,
      .inr ⟨rfl, .scalar .int, rfl, text.readNamed_atName head (by decide) .always⟩⟩
  have hstatements : Input.Statements .always .empty (Input.ofTokens tokens) [_] :=
    .read hread (.done _)
  have htext : Token.tokenize (ofText "const int n = 3;".toList 1 .always).text = .ok tokens := by
    rw [text_ofText, htokens]
  have hparse := parse_of_statements htext hstatements
  -- the text ends with a semicolon
  have hend : ¬Token.EndsInComment "const int n = 3;".toList := by
    rintro ⟨before, comment, line, hcomment⟩
    have hlast := congrArg List.getLast? (Except.ok.inj (htokens.symm.trans hcomment))
    rw [List.getLast?_concat] at hlast
    cases hlast
  exact ⟨_, hparse, (parse_append hparse hend "in float x[n];".toList).1⟩

end Fragment

end GlslPrelude
