import GlslPrelude.Token.Lexer

/-!
# Going through a text

`Step` lists what can come next in a text, and `Cuts` relates a place in a text to a later one by
the tokens in between. Cutting the whole text is the run from its start to its end
(`tokenize_eq_ok_iff`), and any part of that run is followed by the rest of it (`Cuts.exists_rest`).
-/

namespace GlslPrelude

namespace Scanner

/-- What a step takes off the text that is left: the token, if it is one, and the place behind
it. -/
inductive Step (s : Scanner) : List Char → Option Lexeme → Scanner → Prop
  /-- A newline. -/
  | newline {cs : List Char} :
    s.Step ('\n' :: cs) none { rest := cs, line := s.line + 1, isLineStart := true }
  /-- Another blank. -/
  | space {c : Char} {cs : List Char} : c ≠ '\n' → isSpace c = true →
    s.Step (c :: cs) none { s with rest := cs }
  /-- A comment up to the end of its line, which is a token at the start of the line. -/
  | lineComment {cs : List Char} {lexeme? : Option Lexeme} :
    lexeme? = (if s.isLineStart then some (.doc (docText (cs.takeWhile (· ≠ '\n')))) else none) →
      s.Step ('/' :: '/' :: cs) lexeme? { s with rest := cs.dropWhile (· ≠ '\n') }
  /-- A comment up to its end mark. -/
  | blockComment {cs rest : List Char} {newlines : Nat} :
    skipComment 0 cs = some (newlines, rest) →
      s.Step ('/' :: '*' :: cs) none { rest, line := s.line + newlines, isLineStart := false }
  /-- A mark, a name or a number. -/
  | lexeme {c : Char} {cs rest : List Char} {l : Lexeme} : c ≠ '\n' →
    readLexeme c cs = .ok (l, rest) →
      s.Step (c :: cs) (some l) { s with rest, isLineStart := false }

/-- A step that does not fail is one of these. -/
theorem step_of_eq_ok {s s' : Scanner} {c : Char} {cs : List Char} {lexeme? : Option Lexeme}
    (h : s.step c cs = .ok (lexeme?, s')) : s.Step (c :: cs) lexeme? s' := by
  unfold step at h
  split at h
  · rename_i hc
    cases h
    exact hc ▸ .newline
  · rename_i hc
    split at h
    · cases h
      exact .space hc ‹_›
    · split at h
      · cases h
        exact .lineComment rfl
      · split at h <;> cases h
        exact .blockComment ‹_›
      · split at h <;> cases h
        exact .lexeme hc ‹_›

/-- Cutting the text goes from one place to another and yields the tokens in between. -/
inductive Cuts : Scanner → List Token → Scanner → Prop
  /-- Nothing was taken. -/
  | done (s : Scanner) : Cuts s [] s
  /-- A token comes next. -/
  | token {s s' s'' : Scanner} {c : Char} {cs : List Char} {lexeme : Lexeme} {tokens : List Token} :
      s.rest = c :: cs → s.step c cs = .ok (some lexeme, s') → Cuts s' tokens s'' →
      Cuts s ({ lexeme, line := s.line } :: tokens) s''
  /-- A blank or a comment that is no token comes next. -/
  | skip {s s' s'' : Scanner} {c : Char} {cs : List Char} {tokens : List Token} :
      s.rest = c :: cs → s.step c cs = .ok (none, s') → Cuts s' tokens s'' → Cuts s tokens s''

variable {s s' s'' : Scanner} {tokens more : List Token}

/-- A token is cut off. -/
theorem Cuts.of_token {c : Char} {cs : List Char} {lexeme : Lexeme} (hrest : s.rest = c :: cs)
    (hstep : s.step c cs = .ok (some lexeme, s')) : s.Cuts [{ lexeme, line := s.line }] s' :=
  .token hrest hstep (.done s')

/-- Text without a token is cut off. -/
theorem Cuts.of_skip {c : Char} {cs : List Char} (hrest : s.rest = c :: cs)
    (hstep : s.step c cs = .ok (none, s')) : s.Cuts [] s' :=
  .skip hrest hstep (.done s')

/-- Cutting can be interrupted. -/
theorem Cuts.append (h : s.Cuts tokens s') (h' : s'.Cuts more s'') :
    s.Cuts (tokens ++ more) s'' := by
  induction h with
  | done => exact h'
  | token hrest hstep _ ih => exact .token hrest hstep (ih h')
  | skip hrest hstep _ ih => exact .skip hrest hstep (ih h')

/-- At the end of the text all tokens have been read. -/
theorem run_of_nil (hrest : s.rest = []) (reversed : List Token) :
    s.run reversed = (reversed.reverse, none) := by
  rw [run]
  split
  · rfl
  · rename_i h
    rw [hrest] at h
    contradiction

/-- A step of the run that does not fail. -/
theorem run_of_step {c : Char} {cs : List Char} {lexeme? : Option Lexeme} (hrest : s.rest = c :: cs)
    (hstep : s.step c cs = .ok (lexeme?, s')) (reversed : List Token) :
    s.run reversed =
      s'.run ((lexeme?.map fun lexeme => { lexeme, line := s.line }).toList ++ reversed) := by
  rw [run]
  split
  · rename_i h
    rw [hrest] at h
    contradiction
  · rename_i h
    obtain ⟨rfl, rfl⟩ := List.cons.inj (hrest.symm.trans h)
    split <;> rename_i h
    · cases hstep.symm.trans h
    · cases hstep.symm.trans h
      cases lexeme? <;> rfl

/-- At a fault the run ends, with the tokens that have been read. -/
theorem run_of_error {c : Char} {cs : List Char} {fault : LexFault} (hrest : s.rest = c :: cs)
    (hstep : s.step c cs = .error fault) (reversed : List Token) :
    s.run reversed = (reversed.reverse, some { line := s.line, fault }) := by
  rw [run]
  split
  · rename_i h
    rw [hrest] at h
    contradiction
  · rename_i h
    obtain ⟨rfl, rfl⟩ := List.cons.inj (hrest.symm.trans h)
    split <;> rename_i h
    · cases hstep.symm.trans h
      rfl
    · cases hstep.symm.trans h

/-- A run reads what is cut off and goes on behind it. -/
theorem Cuts.run_eq (h : s.Cuts tokens s') (reversed : List Token) :
    s.run reversed = s'.run (tokens.reverse ++ reversed) := by
  induction h generalizing reversed with
  | done => rfl
  | token hrest hstep _ ih =>
      rw [run_of_step hrest hstep, ih, List.reverse_cons, List.append_assoc]
      rfl
  | skip hrest hstep _ ih =>
      rw [run_of_step hrest hstep, ih]
      rfl

/-- A run without fault cuts the text up to its end. -/
theorem exists_cuts_of_run {reversed : List Token} (h : s.run reversed = (tokens, none)) :
    ∃ read s', s.Cuts read s' ∧ s'.rest = [] ∧ tokens = reversed.reverse ++ read := by
  fun_induction run s reversed with
  | case1 s reversed hrest => exact ⟨[], s, .done s, hrest, by simpa using h.symm⟩
  | case2 => cases h
  | case3 s reversed c cs hrest s' lexeme hstep _ _ ih =>
      obtain ⟨read, s'', hcuts, hend, heq⟩ := ih h
      refine ⟨_, s'', .token hrest hstep hcuts, hend, ?_⟩
      rw [heq, List.reverse_cons, List.append_assoc]
      rfl
  | case4 s reversed c cs hrest s' hstep _ _ ih =>
      obtain ⟨read, s'', hcuts, hend, heq⟩ := ih h
      exact ⟨read, s'', .skip hrest hstep hcuts, hend, heq⟩

/-- Cutting is unambiguous: to the end of the text it goes on from wherever it has come. -/
theorem Cuts.exists_rest (h : s.Cuts tokens s') {all : List Token} (hall : s.Cuts all s'')
    (hend : s''.rest = []) : ∃ more, all = tokens ++ more ∧ s'.Cuts more s'' := by
  -- both go through the same steps, because a step is a function of its place
  induction h generalizing all with
  | done => exact ⟨all, rfl, hall⟩
  | token hrest hstep _ ih =>
      cases hall with
      | done =>
          rw [hrest] at hend
          contradiction
      | token hrest' hstep' hcuts =>
          obtain ⟨rfl, rfl⟩ := List.cons.inj (hrest.symm.trans hrest')
          cases hstep.symm.trans hstep'
          obtain ⟨more, rfl, hmore⟩ := ih hcuts
          exact ⟨more, rfl, hmore⟩
      | skip hrest' hstep' =>
          obtain ⟨rfl, rfl⟩ := List.cons.inj (hrest.symm.trans hrest')
          cases hstep.symm.trans hstep'
  | skip hrest hstep _ ih =>
      cases hall with
      | done =>
          rw [hrest] at hend
          contradiction
      | token hrest' hstep' =>
          obtain ⟨rfl, rfl⟩ := List.cons.inj (hrest.symm.trans hrest')
          cases hstep.symm.trans hstep'
      | skip hrest' hstep' hcuts =>
          obtain ⟨rfl, rfl⟩ := List.cons.inj (hrest.symm.trans hrest')
          cases hstep.symm.trans hstep'
          exact ih hcuts

/-- The tokens of a text are those between its start and its end. -/
theorem tokenize_eq_ok_iff {text : List Char} :
    Token.tokenize text = .ok tokens ↔ ∃ s, (init text).Cuts tokens s ∧ s.rest = [] := by
  constructor
  · intro h
    unfold Token.tokenize Token.scan at h
    split at h
    · rename_i hrun
      cases h
      obtain ⟨read, s, hcuts, hend, rfl⟩ := exists_cuts_of_run hrun
      exact ⟨s, hcuts, hend⟩
    · cases h
  · rintro ⟨s, hcuts, hend⟩
    have hrun : (init text).run [] = (tokens, none) := by
      rw [hcuts.run_eq, run_of_nil hend, List.append_nil, List.reverse_reverse]
    rw [Token.tokenize, Token.scan, hrun]

end Scanner

end GlslPrelude
