import GlslPrelude.Proofs.Declaration.Continuation
import GlslPrelude.Proofs.Declaration.Failures
import GlslPrelude.Proofs.Token.Positions

/-!
# The statements of a fragment

A fragment that can be read is a sequence of statements, each of which begins where the one before
it ends and declares some entities (`exists_statements_of_parse`). The first token of a statement is
a token of the fragment's text (`exists_token_of_suffix`). A fragment that cannot be read fails at a
line of its text that is not empty (`exists_isLine_of_parse_eq_error`).
-/

namespace GlslPrelude

/-- What is read as one declaration, whichever number of names it declares. -/
structure Statement where
  /-- The token that it begins with. -/
  first : Documented
  /-- All the tokens behind that one, later statements included. -/
  behind : Input
  /-- What it declares. -/
  entities : List Entity

/-- The declarations that a statement of a fragment makes. -/
def Statement.declarations (fragment : Fragment) (statement : Statement) : List Declaration :=
  statement.entities.map fun entity =>
    { condition := fragment.condition
      line := fragment.line + (statement.first.line - 1)
      entity }

/-- The declarations introduce the entities of the statement. -/
theorem Statement.map_entity_declarations (fragment : Fragment) (statement : Statement) :
    (statement.declarations fragment).map Declaration.entity = statement.entities := by
  rw [declarations, List.map_map]
  exact List.map_id _

namespace Input

/-! ## What a statement declares -/

/-- Declarators introduce constants and variables. -/
theorem cases_of_readDeclarators {scope : Scope} {head : Head} {element : Ty} {name : String}
    {ts rest : Input} {entities : List Entity}
    (h : readDeclarators scope head element name ts = (entities, .ok rest)) :
    ∀ e ∈ entities, (∃ c, e = .const c) ∨ ∃ v, e = .var v := by
  have hfirst {scope : Scope} {name : String} {ts us : Input} {e : Entity}
      (h : readDeclarator scope head element name ts = .ok (e, us)) :
      (∃ c, e = .const c) ∨ ∃ v, e = .var v := by
    obtain ⟨type, vs, -, ⟨-, -, -, value, -, -, -, rfl⟩ | ⟨-, -, -, rfl⟩⟩ :=
      readDeclarator_eq_ok_iff.1 h
    · exact .inl ⟨_, rfl⟩
    · exact .inr ⟨_, rfl⟩
  fun_induction readDeclarators scope head element name ts generalizing entities with
  | case1 | case3 => cases h
  | case2 scope name ts e us hread =>
      obtain ⟨rfl, -⟩ := Prod.mk.inj h
      exact List.forall_mem_singleton.2 (hfirst hread)
  | case4 scope name ts e us hread vs _ next ws _ _ more result heq ih =>
      cases h
      exact List.forall_mem_cons.2 ⟨hfirst hread, ih heq⟩

/-- What is declared together: constants, variables, a block whose unsized members come last, or a
function under the condition, with the parameters that were read. -/
theorem cases_of_readDeclaration {condition : Condition} {scope : Scope} {doc : Option String}
    {ts rest : Input} {entities : List Entity}
    (h : readDeclaration scope condition doc ts = (entities, .ok rest)) :
    ∀ e ∈ entities, (∃ c, e = .const c) ∨ (∃ v, e = .var v) ∨
      (∃ b, e = .block b ∧ hasUnsizedBeforeSized b.fields = false) ∨
      ∃ s us vs, e = .function s ∧ s.condition = condition ∧
        readParameters scope us = .ok (s.parameters, vs) := by
  obtain ⟨name, us, -, ⟨vs, -, hblock⟩ | ⟨-, element, -, hnamed⟩⟩ := readDeclaration_eq_ok_iff.1 h
  · obtain ⟨fields, ws, -, hsized, ⟨-, -, rfl⟩ | ⟨_, _, _, _, -, -, -, rfl⟩⟩ :=
      readBlock_eq_ok_iff.1 hblock
    · refine List.forall_mem_cons.2 ⟨.inr (.inr (.inl ⟨_, rfl, hsized⟩)), ?_⟩
      rw [memberVariables, List.forall_mem_map]
      exact fun _ _ => .inr (.inl ⟨_, rfl⟩)
    · refine List.forall_mem_cons.2 ⟨.inr (.inr (.inl ⟨_, rfl, hsized⟩)), ?_⟩
      exact List.forall_mem_singleton.2 (.inr (.inl ⟨_, rfl⟩))
  · obtain ⟨type, vs, name, ws, -, -, ⟨xs, -, hfunction⟩ | ⟨-, hdeclarators⟩⟩ :=
      readNamed_eq_ok_iff.1 hnamed
    · obtain ⟨parameters, ys, hread, -, rfl⟩ := readFunction_eq_ok_iff.1 hfunction
      exact List.forall_mem_singleton.2 (.inr (.inr (.inr ⟨_, _, _, rfl, rfl, hread⟩)))
    · intro e he
      exact (cases_of_readDeclarators hdeclarators e he).imp_right .inl

/-! ## Statements one after the other -/

/-- The input consists of statements, which are read one after the other; each is read in the scope
that the earlier ones leave. -/
inductive Statements (condition : Condition) : Scope → Input → List Statement → Prop
  /-- Nothing is left. -/
  | done (scope : Scope) : Statements condition scope [] []
  /-- A statement comes next. -/
  | read {scope : Scope} {t : Documented} {ts rest : Input} {entities : List Entity}
      {statements : List Statement} :
      readDeclaration scope condition t.doc (t :: ts) = (entities, .ok rest) →
      Statements condition (entities.foldl Scope.record scope) rest statements →
      Statements condition scope (t :: ts) (⟨t, ts, entities⟩ :: statements)

variable {condition : Condition} {scope : Scope} {ts : Input} {statements : List Statement}

/-- A statement begins with some token of the input. -/
theorem Statements.suffix (h : Statements condition scope ts statements) {st : Statement}
    (hst : st ∈ statements) : st.first :: st.behind <:+ ts := by
  induction h with
  | done => cases hst
  | @read scope t ts rest entities statements hread _ ih =>
      rcases List.mem_cons.1 hst with rfl | hst
      · exact List.suffix_refl _
      · have hleads := leads_readDeclaration scope condition t.doc (t :: ts)
        rw [hread] at hleads
        exact (ih hst).trans hleads.suffix

/-- What holds of all that is read as one declaration holds of all that statements declare. -/
theorem Statements.forall_entities {P : Entity → Prop}
    (hP : ∀ scope doc ts rest entities,
      readDeclaration scope condition doc ts = (entities, .ok rest) → ∀ e ∈ entities, P e)
    (h : Statements condition scope ts statements) : ∀ st ∈ statements, ∀ e ∈ st.entities, P e := by
  induction h with
  | done => simp
  | read hread _ ih => exact List.forall_mem_cons.2 ⟨hP _ _ _ _ _ hread, ih⟩

/-- A reader of declarations that gets to the end of the input reads statements. -/
theorem exists_statements_of_readDeclarations {fragment : Fragment} {reversed : List Declaration}
    (h : (readDeclarations fragment.condition fragment.line scope reversed ts).stuck? = none) :
    ∃ statements, Statements fragment.condition scope ts statements ∧
      (readDeclarations fragment.condition fragment.line scope reversed ts).reversed.reverse =
        reversed.reverse ++ statements.flatMap (Statement.declarations fragment) := by
  fun_induction readDeclarations fragment.condition fragment.line scope reversed ts with
  | case1 scope reversed => exact ⟨[], .done scope, by simp⟩
  | case2 => cases h
  | case3 scope reversed t ts entities declared next rest hread _ _ ih =>
      obtain ⟨statements, hstatements, heq⟩ := ih h
      refine ⟨⟨t, ts, entities⟩ :: statements, .read hread hstatements, ?_⟩
      rw [heq, List.flatMap_cons, ← List.append_assoc]
      congr 1
      -- the entities were put in front of what was read before, the last one first
      change (entities.foldl (fun reversed entity => _ :: reversed) reversed).reverse = _
      rw [List.foldl_flip_cons_eq_append, List.reverse_append, List.reverse_reverse]
      rfl

/-- Behind statements, reading goes on in the scope that they leave. -/
theorem Statements.readDeclarations_append {fragment : Fragment}
    (h : Statements fragment.condition scope ts statements) (reversed : List Declaration)
    (us : Input) :
    readDeclarations fragment.condition fragment.line scope reversed (ts ++ us) =
      readDeclarations fragment.condition fragment.line
        ((statements.flatMap Statement.entities).foldl Scope.record scope)
        ((statements.flatMap (Statement.declarations fragment)).reverse ++ reversed) us := by
  generalize hcondition : fragment.condition = condition at h
  induction h generalizing reversed with
  | done => rfl
  | @read scope t ts rest entities statements hread _ ih =>
      have hread' := readDeclaration_append hread us
      rw [List.cons_append] at hread' ⊢
      rw [readDeclarations_of_ok hread', ih, List.foldl_flip_cons_eq_append, List.flatMap_cons,
        List.flatMap_cons, List.foldl_append, List.reverse_append, List.append_assoc]
      subst hcondition
      rfl

/-- Statements are read as declarations, and what they declare stays in scope. -/
theorem Statements.readDeclarations_eq {fragment : Fragment}
    (h : Statements fragment.condition scope ts statements) (reversed : List Declaration) :
    readDeclarations fragment.condition fragment.line scope reversed ts =
      { reversed := (statements.flatMap (Statement.declarations fragment)).reverse ++ reversed
        scope := (statements.flatMap Statement.entities).foldl Scope.record scope
        stuck? := none } := by
  have hall := h.readDeclarations_append reversed []
  rw [List.append_nil, readDeclarations] at hall
  exact hall

/-- A token of the input, with what follows it, comes from one of the text. -/
theorem exists_token_of_suffix {tokens : List Token} {t : Documented} {rest : Input}
    (h : t :: rest <:+ ofTokens tokens) :
    ∃ before token after, tokens = before ++ token :: after ∧ token.lexeme = t.lexeme ∧
      token.line = t.line ∧ ofTokens after = rest := by
  induction tokens generalizing t with
  | nil => simp [ofTokens] at h
  | cons first tokens ih =>
      change t :: rest <:+ cons first (ofTokens tokens) at h
      have htail : ∀ u, u :: rest <:+ ofTokens tokens → u.lexeme = t.lexeme → u.line = t.line →
          ∃ before token after, first :: tokens = before ++ token :: after ∧
            token.lexeme = t.lexeme ∧ token.line = t.line ∧ ofTokens after = rest := by
        intro u hu hlexeme hline
        obtain ⟨before, token, after, rfl, hlexeme', hline', hafter⟩ := ih hu
        exact ⟨first :: before, token, after, rfl, hlexeme'.trans hlexeme, hline'.trans hline,
          hafter⟩
      unfold cons at h
      split at h
      · -- a comment joins the token behind it
        rename_i next more _ heq
        rw [heq] at htail
        rcases List.suffix_cons_iff.1 h with h | h
        · obtain ⟨rfl, rfl⟩ := List.cons.inj h
          exact htail next (List.suffix_refl _) rfl rfl
        · exact htail t (h.trans (List.suffix_cons next more)) rfl rfl
      · simp at h
      · rcases List.suffix_cons_iff.1 h with h | h
        · obtain ⟨rfl, rfl⟩ := List.cons.inj h
          exact ⟨[], first, tokens, rfl, rfl, rfl, rfl⟩
        · exact htail t h rfl rfl

end Input

namespace Fragment

variable {fragment : Fragment} {scope scope' : Scope}

/-- A fragment that can be read consists of statements, which make its declarations. -/
theorem exists_statements_of_parse {declarations : List Declaration}
    (h : parse scope fragment = (scope', .ok declarations)) :
    ∃ tokens statements, Token.tokenize fragment.text = .ok tokens ∧
      Input.Statements fragment.condition scope (Input.ofTokens tokens) statements ∧
      declarations = statements.flatMap (Statement.declarations fragment) := by
  unfold parse at h
  split at h
  · cases h
  · rename_i tokens htokens
    dsimp only at h
    split at h
    · cases h
    · rename_i hstuck
      obtain ⟨statements, hstatements, heq⟩ := Input.exists_statements_of_readDeclarations hstuck
      exact ⟨tokens, statements, htokens, hstatements,
        (Except.ok.inj (Prod.mk.inj h).2).symm.trans heq⟩

/-- What holds of all that is read as one declaration holds of all that a fragment declares. -/
theorem forall_entity_of_parse {declarations : List Declaration} (P : Entity → Prop)
    (hP : ∀ scope doc ts rest entities,
      Input.readDeclaration scope fragment.condition doc ts = (entities, .ok rest) →
        ∀ e ∈ entities, P e)
    (h : parse scope fragment = (scope', .ok declarations)) : ∀ d ∈ declarations, P d.entity := by
  obtain ⟨tokens, statements, -, hstatements, rfl⟩ := exists_statements_of_parse h
  intro d hd
  obtain ⟨st, hst, hd⟩ := List.mem_flatMap.1 hd
  obtain ⟨entity, hentity, rfl⟩ := List.mem_map.1 hd
  exact hstatements.forall_entities hP st hst entity hentity

/-- A fragment that consists of statements can be read, and what they declare stays in scope. -/
theorem parse_of_statements {tokens : List Token} {statements : List Statement}
    (htokens : Token.tokenize fragment.text = .ok tokens)
    (h : Input.Statements fragment.condition scope (Input.ofTokens tokens) statements) :
    parse scope fragment = ((statements.flatMap Statement.entities).foldl Scope.record scope,
      .ok (statements.flatMap (Statement.declarations fragment))) := by
  rw [parse, htokens]
  dsimp only
  rw [h.readDeclarations_eq, List.append_nil]
  dsimp only
  rw [List.reverse_reverse]

/-- A fragment that cannot be read fails at a line of its text that is not empty. -/
theorem exists_isLine_of_parse_eq_error {failed : ParseFailure}
    (h : parse scope fragment = (scope', .error failed)) :
    ∃ n line fault, Text.IsLine fragment.text n line ∧ line ≠ ['\n'] ∧
      failed = .inFragment fragment n fault := by
  unfold parse at h
  split at h
  · rename_i e he
    obtain ⟨line, hline, hne⟩ := Scanner.exists_isLine_of_tokenize_eq_error he
    exact ⟨e.line, line, _, hline, hne, (Except.error.inj (Prod.mk.inj h).2).symm⟩
  · rename_i tokens htokens
    dsimp only at h
    split at h
    · rename_i e hstuck
      obtain ⟨n, line, fault, hline, hvisible, heq⟩ := exists_isLine_of_stuck htokens hstuck
      refine ⟨n, line, fault, hline, ?_, (Except.error.inj (Prod.mk.inj h).2).symm.trans heq⟩
      rintro rfl
      exact absurd hvisible (by decide)
    · cases h

end Fragment

end GlslPrelude
