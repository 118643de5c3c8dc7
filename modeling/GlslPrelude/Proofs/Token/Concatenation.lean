import GlslPrelude.Proofs.Token.Positions

/-!
# Text above text

No token goes on behind a newline. So a text that is cut into tokens is cut into the same tokens if
further lines stand below it (`Cuts.above`), and those lines are cut as if they stood alone, except
that they have other numbers (`run_down`).
-/

namespace GlslPrelude

variable {p : Char → Bool} {cs rest u : List Char}

/-- A span that excludes newlines ends above the lines that follow. -/
theorem takeWhile_append_newline (hp : p '\n' = false) (cs u : List Char) :
    (cs ++ '\n' :: u).takeWhile p = cs.takeWhile p := by
  induction cs with
  | nil => rw [List.nil_append, List.takeWhile_cons_of_neg (by simp [hp]), List.takeWhile_nil]
  | cons c cs ih => rw [List.cons_append, List.takeWhile_cons, List.takeWhile_cons, ih]

/-- Behind a span that excludes newlines, the lines that follow are still left. -/
theorem dropWhile_append_newline (hp : p '\n' = false) (cs u : List Char) :
    (cs ++ '\n' :: u).dropWhile p = cs.dropWhile p ++ '\n' :: u := by
  induction cs with
  | nil => rw [List.nil_append, List.dropWhile_cons_of_neg (by simp [hp]), List.dropWhile_nil,
      List.nil_append]
  | cons c cs ih =>
      rw [List.cons_append, List.dropWhile_cons, List.dropWhile_cons, ih]
      split <;> rfl

namespace Scanner

variable {s s' : Scanner} {c : Char} {l : Lexeme} {lexeme? : Option Lexeme} {tokens : List Token}

/-- The place in a text that goes on with further lines. -/
def above (s : Scanner) (u : List Char) : Scanner :=
  { s with rest := s.rest ++ '\n' :: u }

theorem skipComment_append {m n : Nat} (h : skipComment n cs = some (m, rest)) (u : List Char) :
    skipComment n (cs ++ u) = some (m, rest ++ u) := by
  obtain ⟨body, rfl, hbody, rfl⟩ := skipComment_eq_some_iff.1 h
  exact skipComment_eq_some_iff.2 ⟨body, by simp, hbody, rfl⟩

/-- A token ends above a newline. -/
theorem readLexeme_append (h : readLexeme c cs = .ok (l, rest)) (u : List Char) :
    readLexeme c (cs ++ '\n' :: u) = .ok (l, rest ++ '\n' :: u) := by
  obtain ⟨spelling, heq, hspelled⟩ := readLexeme_eq_ok_iff.1 h
  refine readLexeme_eq_ok_iff.2 ⟨spelling, ?_, hspelled.append_newline u⟩
  rw [← List.cons_append, heq, List.append_assoc]

/-- What can come next is taken off the text. -/
theorem Step.step_eq (h : s.Step (c :: cs) lexeme? s') : s.step c cs = .ok (lexeme?, s') := by
  cases h with
  | newline => rfl
  | space hc hspace =>
      unfold step
      rw [if_neg hc, if_pos hspace]
  | lineComment hdoc =>
      subst hdoc
      rfl
  | @blockComment cs rest newlines hskip =>
      unfold step
      rw [if_neg (by decide), if_neg (by decide)]
      simp only [hskip]
  | lexeme hc hread =>
      have hspace : isSpace c = false := by
        rw [← Bool.not_eq_true]
        intro hspace
        have hblank := isBlank_of_readLexeme hread
        simp only [isSpace, Bool.or_eq_true, decide_eq_true_eq] at hspace
        rcases hspace with ((rfl | rfl) | rfl) | rfl <;> cases hblank
      have hslash : c ≠ '/' := by
        rintro rfl
        cases hread
      unfold step
      rw [if_neg hc, if_neg (by simp [hspace])]
      split
      · contradiction
      · contradiction
      · rw [hread]

/-- A token comes next where it is written so. -/
theorem Step.of_isSpelled (s : Scanner) {spelling : List Char} (h : l.IsSpelled spelling rest) :
    s.Step (spelling ++ rest) (some l) { s with rest, isLineStart := false } := by
  obtain ⟨c, cs, rfl⟩ := List.exists_cons_of_ne_nil h.ne_nil
  exact .lexeme (List.ne_of_not_mem_cons h.newline_not_mem).symm
    (readLexeme_eq_ok_iff.2 ⟨_, rfl, h⟩)

/-- A token is cut off where it is written so. -/
theorem Cuts.of_isSpelled {spelling : List Char} (h : l.IsSpelled spelling rest)
    (hs : s.rest = spelling ++ rest) :
    s.Cuts [{ lexeme := l, line := s.line }] { s with rest, isLineStart := false } := by
  obtain ⟨c, cs, hspelling⟩ := List.exists_cons_of_ne_nil h.ne_nil
  have hstep := Step.of_isSpelled s h
  rw [hspelling] at hs hstep
  exact .of_token hs hstep.step_eq

/-- What comes next also comes next if further lines follow. -/
theorem Step.append (h : s.Step cs lexeme? s') (u : List Char) :
    (s.above u).Step (cs ++ '\n' :: u) lexeme? (s'.above u) := by
  cases h with
  | newline => exact .newline
  | space hc hspace => exact .space hc hspace
  | lineComment hdoc =>
      have hnewline : (fun c => decide (c ≠ '\n')) '\n' = false := by decide
      rw [← takeWhile_append_newline hnewline _ u] at hdoc
      have hstep := @lineComment (s.above u) _ _ hdoc
      rw [dropWhile_append_newline hnewline] at hstep
      exact hstep
  | blockComment hskip => exact .blockComment (skipComment_append hskip _)
  | lexeme hc hread => exact .lexeme hc (readLexeme_append hread u)

/-- The tokens that are cut off a text are also cut off if further lines follow. -/
theorem Cuts.above (h : s.Cuts tokens s') (u : List Char) :
    (s.above u).Cuts tokens (s'.above u) := by
  have hrest : ∀ {s : Scanner} {c cs}, s.rest = c :: cs →
      (s.above u).rest = c :: (cs ++ '\n' :: u) := fun hrest =>
    congrArg (· ++ '\n' :: u) hrest
  induction h with
  | done => exact .done _
  | token hcs hstep _ ih => exact .token (hrest hcs) ((step_of_eq_ok hstep).append u).step_eq ih
  | skip hcs hstep _ ih => exact .skip (hrest hcs) ((step_of_eq_ok hstep).append u).step_eq ih

end Scanner

/-! ## Lines further down -/

/-- The token as many lines further down. -/
def Token.down (n : Nat) (t : Token) : Token :=
  { t with line := t.line + n }

/-- The fault as many lines further down. -/
def LexError.down (n : Nat) (e : LexError) : LexError :=
  { e with line := e.line + n }

namespace Scanner

variable {s : Scanner} {c : Char}

/-- The place as many lines further down. -/
def down (n : Nat) (s : Scanner) : Scanner :=
  { s with line := s.line + n }

/-- A step does not depend on the number of its line. -/
theorem step_down (n : Nat) (s : Scanner) (c : Char) (cs : List Char) :
    (s.down n).step c cs = (s.step c cs).map fun result => (result.1, result.2.down n) := by
  unfold step
  split
  · simp only [down, Except.map, Nat.add_right_comm]
  · split
    · rfl
    · split
      · rfl
      · split
        · simp only [down, Except.map, Nat.add_right_comm]
        · rfl
      · split <;> rfl

/-- A run stops at a fault. -/
theorem run_of_fault {fault : LexFault} (hrest : s.rest = c :: cs)
    (hstep : s.step c cs = .error fault) (reversed : List Token) :
    s.run reversed = (reversed.reverse, some { line := s.line, fault }) := by
  rw [run]
  split
  · rename_i h
    cases hrest.symm.trans h
  · rename_i h
    obtain ⟨rfl, rfl⟩ := List.cons.inj (hrest.symm.trans h)
    split <;> rename_i h <;> cases hstep.symm.trans h
    rfl

/-- A run does not depend on the numbers of its lines. -/
theorem run_down (n : Nat) (s : Scanner) (reversed : List Token) :
    (s.down n).run (reversed.map (Token.down n)) =
      ((s.run reversed).1.map (Token.down n), (s.run reversed).2.map (LexError.down n)) := by
  have hdown : ∀ {s : Scanner} {c cs result}, s.step c cs = result →
      (s.down n).step c cs = result.map fun result => (result.1, result.2.down n) := by
    rintro s c cs _ rfl
    exact step_down n s c cs
  fun_induction run s reversed with
  | case1 s reversed hrest =>
      rw [run_of_nil (s := s.down n) hrest, ← List.map_reverse]
      rfl
  | case2 s reversed c cs hrest fault hstep =>
      rw [run_of_fault (s := s.down n) hrest (hdown hstep), ← List.map_reverse]
      rfl
  | case3 s reversed c cs hrest s' lexeme hstep _ _ ih =>
      rw [run_of_step (s := s.down n) hrest (hdown hstep)]
      exact ih
  | case4 s reversed c cs hrest s' hstep _ _ ih =>
      rw [run_of_step (s := s.down n) hrest (hdown hstep)]
      exact ih

/-- What was read before stands in front of what a run reads. -/
theorem run_eq_append (s : Scanner) (reversed : List Token) :
    s.run reversed = (reversed.reverse ++ (s.run []).1, (s.run []).2) := by
  -- both runs go through the same places
  rcases hrun : s.run [] with ⟨tokens, e?⟩
  cases e? with
  | none =>
      obtain ⟨read, s', hcuts, hend, rfl⟩ := exists_cuts_of_run hrun
      rw [hcuts.run_eq, run_of_nil hend, List.reverse_append, List.reverse_reverse]
  | some e =>
      obtain ⟨read, s', c, cs, hcuts, hrest, hstep, -⟩ := exists_cuts_of_run_fault hrun
      rw [hcuts.run_eq, run_of_fault hrest hstep] at hrun ⊢
      obtain ⟨rfl, he⟩ := Prod.mk.inj hrun
      rw [he, List.append_nil, List.reverse_append]

end Scanner

namespace Token

open Scanner

variable {text : List Char} {tokens : List Token}

/-- Behind the tokens of a text come those of the lines below it. -/
theorem scan_append (h : tokenize text = .ok tokens) (below : List Char) :
    scan (text ++ '\n' :: below) =
      (tokens ++ (scan below).1.map (down (text.count '\n' + 1)),
        (scan below).2.map (LexError.down (text.count '\n' + 1))) := by
  obtain ⟨s, hcuts, hend⟩ := tokenize_eq_ok_iff.1 h
  obtain ⟨taken, htaken, hline⟩ := hcuts.exists_append
  rw [hend, List.append_nil] at htaken
  change text = taken at htaken
  subst htaken
  -- behind the text, the newline is taken
  have hrest : (s.above below).rest = '\n' :: below := by
    rw [above, hend]
    rfl
  have hstep : (s.above below).step '\n' below =
      .ok (none, (init below).down (text.count '\n' + 1)) := by
    have hnumber : s.line + 1 = 1 + (text.count '\n' + 1) := by
      rw [hline, Nat.add_assoc]
      rfl
    change Except.ok (none, (⟨below, s.line + 1, true⟩ : Scanner)) = _
    rw [hnumber]
    rfl
  have habove : init (text ++ '\n' :: below) = (init text).above below := rfl
  have hdown := run_down (text.count '\n' + 1) (init below) []
  rw [scan, habove, (hcuts.above below).run_eq, run_of_step hrest hstep, run_eq_append]
  rw [List.map_nil] at hdown
  rw [hdown]
  simp [scan]

/-- A text above another one is cut into the tokens of both, or fails where the lower one does. -/
theorem tokenize_append (h : tokenize text = .ok tokens) (below : List Char) :
    tokenize (text ++ '\n' :: below) =
      match tokenize below with
      | .ok more => .ok (tokens ++ more.map (down (text.count '\n' + 1)))
      | .error e => .error (e.down (text.count '\n' + 1)) := by
  unfold tokenize
  rw [scan_append h]
  rcases scan below with ⟨more, _ | e⟩ <;> rfl

end Token

end GlslPrelude
