import GlslPrelude.Proofs.Token.Places
import Mathlib.Data.List.Induction

/-!
# Where each token stands

The text of a token has no newline, so it is a part of one line: of the line whose number the token
has (`exists_position`). Text that cannot be cut into tokens has a line with the number of the
fault, and on it a character that no token starts with (`exists_isLine_of_tokenize_eq_error`).
-/

namespace GlslPrelude

namespace Text

/-- A text consists of some lines that are ended and a last one that is not. -/
theorem exists_append_of_ended (cs : List Char) :
    ∃ (above : List (List Char)) (pre : List Char), cs = above.flatten ++ pre ∧
      (∀ line ∈ above, IsEnded line) ∧ '\n' ∉ pre := by
  induction cs using List.reverseRecOn with
  | nil => exact ⟨[], [], rfl, by simp, by simp⟩
  | append_singleton cs c ih =>
      obtain ⟨above, pre, rfl, hended, hnot⟩ := ih
      by_cases hc : c = '\n'
      · subst hc
        refine ⟨above ++ [pre ++ ['\n']], [], by simp, ?_, by simp⟩
        rw [List.forall_mem_append, List.forall_mem_singleton]
        exact ⟨hended, pre, hnot, rfl⟩
      · exact ⟨above, pre ++ [c], by simp, hended, by simp [hnot, Ne.symm hc]⟩

/-- What begins on a line goes on to the end of that line, and further lines follow. -/
theorem exists_append_of_begun (cs : List Char) :
    ∃ post below, cs = post ++ below.flatten ∧
      ∀ start, start ≠ [] → '\n' ∉ start → AreLines ((start ++ post) :: below) := by
  by_cases hmem : '\n' ∈ cs
  · obtain ⟨post, rest, rfl, hnot⟩ := List.eq_append_cons_of_mem hmem
    refine ⟨post ++ ['\n'], lines rest, by simp, fun start _ hstart => ?_⟩
    refine .ended ⟨start ++ post, ?_, (List.append_assoc ..).symm⟩ (areLines_lines rest)
    rw [List.mem_append, not_or]
    exact ⟨hstart, hnot⟩
  · refine ⟨cs, [], by simp, fun start hne hstart => .last ?_ ?_⟩
    · exact List.append_ne_nil_of_left_ne_nil hne cs
    · rw [List.mem_append, not_or]
      exact ⟨hstart, hmem⟩

/-- A part of a text without newlines is a part of one line. -/
theorem exists_lines_eq (front rest : List Char) {part : List Char} (hne : part ≠ [])
    (hnot : '\n' ∉ part) :
    ∃ above pre post below,
      lines (front ++ (part ++ rest)) = above ++ (pre ++ part ++ post) :: below ∧
        rest = post ++ below.flatten ∧ above.length = front.count '\n' := by
  obtain ⟨above, pre, rfl, hended, hpre⟩ := exists_append_of_ended front
  obtain ⟨post, below, rfl, hbegun⟩ := exists_append_of_begun rest
  have hlines : AreLines (above ++ (pre ++ part ++ post) :: below) := by
    refine .append hended (hbegun (pre ++ part) (List.append_ne_nil_of_right_ne_nil pre hne) ?_)
    rw [List.mem_append, not_or]
    exact ⟨hpre, hnot⟩
  refine ⟨above, pre, post, below, ?_, rfl, ?_⟩
  · rw [← lines_flatten hlines]
    simp
  · rw [List.count_append, count_flatten hended, List.count_eq_zero_of_not_mem hpre, Nat.add_zero]

end Text

namespace Scanner

variable {s s' : Scanner} {token : Token} {before after tokens : List Token} {text : List Char}

/-- At a place, the scanner reads a token that comes next. -/
def Reads (s : Scanner) (token : Token) (s' : Scanner) : Prop :=
  ∃ c cs, s.rest = c :: cs ∧ s.step c cs = .ok (some token.lexeme, s') ∧ token.line = s.line

/-- Each token is read at a place that the scanner comes to. -/
theorem Cuts.exists_reads (h : s.Cuts (before ++ token :: after) s') :
    ∃ place next, s.Cuts before place ∧ place.Reads token next ∧ next.Cuts after s' := by
  generalize htokens : before ++ token :: after = tokens at h
  induction h generalizing before with
  | done => simp at htokens
  | @token s next s' c cs lexeme more hrest hstep hcuts ih =>
      cases before with
      | nil =>
          obtain ⟨rfl, rfl⟩ := List.cons.inj htokens
          exact ⟨s, next, .done s, ⟨c, cs, hrest, hstep, rfl⟩, hcuts⟩
      | cons first before =>
          obtain ⟨rfl, hmore⟩ := List.cons.inj htokens
          obtain ⟨place, next, hbefore, hplace, hafter⟩ := ih hmore
          exact ⟨place, next, .token hrest hstep hbefore, hplace, hafter⟩
  | skip hrest hstep _ ih =>
      obtain ⟨place, next, hbefore, hplace, hafter⟩ := ih htokens
      exact ⟨place, next, .skip hrest hstep hbefore, hplace, hafter⟩

/-- The text of a token has no newline. -/
theorem Reads.exists_spelling (h : s.Reads token s') :
    ∃ spelling, s.rest = spelling ++ s'.rest ∧ spelling ≠ [] ∧ '\n' ∉ spelling := by
  obtain ⟨c, cs, hrest, hstep, -⟩ := h
  have honline : Text.OnLine (c :: cs) s'.rest := by
    cases step_of_eq_ok hstep with
    | lineComment =>
        exact ((Text.OnLine.dropWhile (by decide) _).cons (by decide)).cons (by decide)
    | lexeme _ hread => exact onLine_readLexeme hread
  obtain ⟨spelling, heq, hnot⟩ := honline
  refine ⟨spelling, hrest.trans heq, ?_, hnot⟩
  rintro rfl
  exact Nat.lt_irrefl _ (heq ▸ length_step_lt hstep)

/-- Where a token stands in a text, behind some other tokens. -/
structure Position (text : List Char) (before : List Token) (token : Token) where
  /-- The lines above. -/
  above : List (List Char)
  /-- The line in front of the token. -/
  pre : List Char
  /-- The text of the token. -/
  spelling : List Char
  /-- The line behind the token. -/
  post : List Char
  /-- The lines below. -/
  below : List (List Char)
  /-- The place where the scanner reads the token. -/
  start : Scanner
  /-- The place that it then comes to. -/
  stop : Scanner
  /-- The lines are those of the text. -/
  lines_eq : Text.lines text = above ++ (pre ++ spelling ++ post) :: below
  /-- The scanner reads the other tokens first. -/
  cuts : (init text).Cuts before start
  /-- The scanner reads the token. -/
  reads : start.Reads token stop
  /-- Reading the token takes its text. -/
  rest_start : start.rest = spelling ++ stop.rest
  /-- Behind the token, the rest of the line and the lines below are left. -/
  rest_stop : stop.rest = post ++ below.flatten

namespace Position

/-- The line that the token stands on. -/
def line (position : Position text before token) : List Char :=
  position.pre ++ position.spelling ++ position.post

/-- The number of that line. -/
def number (position : Position text before token) : Nat :=
  1 + position.above.length

/-- The line is the line of the text with its number. -/
theorem isLine (position : Position text before token) :
    Text.IsLine text position.number position.line := by
  rw [Text.IsLine, Text.mem_zipIdx_iff_exists_append]
  exact ⟨position.above, position.below, position.lines_eq, rfl⟩

/-- The line is not empty. -/
theorem line_ne_newline (position : Position text before token) : position.line ≠ ['\n'] := by
  obtain ⟨spelling, hrest, hne, hnot⟩ := position.reads.exists_spelling
  obtain rfl : position.spelling = spelling :=
    List.append_cancel_right (position.rest_start.symm.trans hrest)
  -- it has a character of the token
  intro hline
  obtain ⟨c, hc⟩ := List.exists_mem_of_ne_nil _ hne
  have hmem : c ∈ position.line := by simp [line, hc]
  rw [hline, List.mem_singleton] at hmem
  exact hnot (hmem ▸ hc)

end Position

/-- Each token of a text stands on the line whose number it has. -/
theorem exists_position (h : Token.tokenize text = .ok (before ++ token :: after)) :
    ∃ position : Position text before token, position.number = token.line := by
  obtain ⟨s, hcuts, -⟩ := tokenize_eq_ok_iff.1 h
  obtain ⟨start, stop, hbefore, hreads, -⟩ := hcuts.exists_reads
  obtain ⟨spelling, hstart, hne, hnot⟩ := hreads.exists_spelling
  obtain ⟨front, hfront, hline⟩ := hbefore.exists_append
  obtain ⟨above, pre, post, below, hlines, hstop, hcount⟩ :=
    Text.exists_lines_eq front stop.rest hne hnot
  obtain ⟨_, _, -, -, htoken⟩ := id hreads
  change text = front ++ start.rest at hfront
  rw [← hstart, ← hfront] at hlines
  refine ⟨⟨above, pre, spelling, post, below, start, stop, hlines, hbefore, hreads, hstart, hstop⟩,
    ?_⟩
  rw [Position.number, hcount, htoken, hline]
  rfl

/-! ## Faults -/

/-- A run with a fault cuts the text up to a character that no step takes. -/
theorem exists_cuts_of_run_fault {reversed : List Token} {e : LexError}
    (h : s.run reversed = (tokens, some e)) :
    ∃ read s' c cs, s.Cuts read s' ∧ s'.rest = c :: cs ∧ s'.step c cs = .error e.fault ∧
      e.line = s'.line := by
  fun_induction run s reversed with
  | case1 => cases h
  | case2 s reversed c cs hrest fault hstep =>
      cases h
      exact ⟨[], s, c, cs, .done s, hrest, hstep, rfl⟩
  | case3 s reversed c cs hrest s' lexeme hstep _ _ ih =>
      obtain ⟨read, place, d, ds, hcuts, hplace⟩ := ih h
      exact ⟨_, place, d, ds, .token hrest hstep hcuts, hplace⟩
  | case4 s reversed c cs hrest s' hstep _ _ ih =>
      obtain ⟨read, place, d, ds, hcuts, hplace⟩ := ih h
      exact ⟨read, place, d, ds, .skip hrest hstep hcuts, hplace⟩

/-- Text that cannot be cut into tokens has a line with the number of the fault, which is not empty.
-/
theorem exists_isLine_of_tokenize_eq_error {e : LexError} (h : Token.tokenize text = .error e) :
    ∃ line, Text.IsLine text e.line line ∧ line ≠ ['\n'] := by
  unfold Token.tokenize Token.scan at h
  split at h
  · cases h
  · rename_i hrun
    cases h
    obtain ⟨read, s, c, cs, hcuts, hrest, hstep, hline⟩ := exists_cuts_of_run_fault hrun
    obtain ⟨front, hfront, hcount⟩ := hcuts.exists_append
    obtain ⟨line, hisLine, hmem⟩ := Text.exists_isLine_of_append front c cs
    change text = front ++ s.rest at hfront
    rw [← hrest, ← hfront] at hisLine
    refine ⟨line, ?_, ?_⟩
    · rw [hline, hcount]
      exact hisLine
    · -- a newline is taken, so the character is another one
      rintro rfl
      obtain rfl := List.mem_singleton.1 hmem
      unfold step at hstep
      cases hstep

end Scanner

end GlslPrelude
