import GlslPrelude.Proofs.Token.Concatenation

/-!
# Text as a sequence of pieces

A text consists of newlines, other blanks, comments and tokens, up to its end or to a place where no
such piece begins. The tokens that are read are these, in their order and with their lines, and the
comments of one line that only blanks precede on their lines (`Token.scan_segments`).
-/

namespace GlslPrelude

namespace Scanner

/-- The text of a documentation comment is what stands in front of the carriage returns at its end.
-/
theorem exists_append_of_docText (body : List Char) :
    ∃ text returns, body = text ++ returns ∧ (∀ c ∈ returns, c = '\r') ∧
      (∀ c ∈ text.getLast?, c ≠ '\r') ∧ docText body = String.ofList text := by
  refine ⟨(body.reverse.dropWhile (· = '\r')).reverse, (body.reverse.takeWhile (· = '\r')).reverse,
    ?_, ?_, ?_, rfl⟩
  · rw [← List.reverse_append, List.takeWhile_append_dropWhile, List.reverse_reverse]
  · intro c hc
    simpa using List.all_eq_true.1 List.all_takeWhile c (List.mem_reverse.1 hc)
  · intro c hc
    rw [List.getLast?_reverse] at hc
    simpa using forall_mem_head?_dropWhile _ _ c hc

end Scanner

/-! ## Pieces -/

/-- A part of a text that is taken at once. -/
inductive Piece where
  /-- A newline outside of comments. -/
  | newline
  /-- Another blank. -/
  | space (c : Char)
  /-- A comment with an end mark, by the text in front of the mark. -/
  | blockComment (body : List Char)
  /-- A comment up to the end of its line, by the text behind the slashes. -/
  | lineComment (body : List Char)
  /-- A mark, a name or a number, and how it is written. -/
  | lexeme (l : Lexeme) (spelling : List Char)

namespace Piece

/-- The text of the piece. -/
def text : Piece → List Char
  | newline => ['\n']
  | space c => [c]
  | blockComment body => '/' :: '*' :: (body ++ ['*', '/'])
  | lineComment body => '/' :: '/' :: body
  | lexeme _ spelling => spelling

/-- The texts of pieces one after the other. -/
def texts (ps : List Piece) : List Char :=
  ps.flatMap text

/-- The piece can be taken in front of the rest of a text. -/
inductive Fits : Piece → List Char → Prop
  /-- A newline. -/
  | newline (rest : List Char) : Fits newline rest
  /-- Another blank of ASCII. -/
  | space {c : Char} (rest : List Char) : c ∈ [' ', '\t', '\x0c', '\r'] → Fits (space c) rest
  /-- A comment with its first end mark. -/
  | blockComment {body : List Char} (rest : List Char) : Scanner.IsCommentBody body →
      Fits (blockComment body) rest
  /-- A comment that ends with its line. -/
  | lineComment {body rest : List Char} : '\n' ∉ body → (∀ c ∈ rest.head?, c = '\n') →
      Fits (lineComment body) rest
  /-- A token as it is written. -/
  | lexeme {l : Lexeme} {spelling rest : List Char} : l.IsSpelled spelling rest →
      Fits (lexeme l spelling) rest

/-- Behind the pieces only blanks stand on the line: since the last newline outside of comments, or
since the start of the text. -/
def BeginsLine (before : List Piece) : Prop :=
  ∃ above spaces, before = above ++ spaces ∧ (∀ p ∈ spaces, ∃ c, p = space c) ∧
    ∀ p ∈ above.getLast?, p = newline

end Piece

/-- The text consists of the pieces, each of which fits in front of what follows it, and a rest. -/
structure IsSegmented (text : List Char) (ps : List Piece) (rest : List Char) : Prop where
  /-- Put together, the pieces and the rest are the text. -/
  eq : text = Piece.texts ps ++ rest
  /-- Each piece fits. -/
  fits : ∀ front p back, ps = front ++ p :: back → p.Fits (Piece.texts back ++ rest)

/-- The tokens that pieces are behind other pieces of a text, each with the number of its line. -/
inductive Yields : List Piece → List Piece → List Token → Prop
  /-- No piece. -/
  | done (before : List Piece) : Yields before [] []
  /-- A newline is no token. -/
  | newline {before ps : List Piece} {tokens : List Token} :
      Yields (before ++ [.newline]) ps tokens → Yields before (.newline :: ps) tokens
  /-- A blank is no token. -/
  | space {before ps : List Piece} {tokens : List Token} {c : Char} :
      Yields (before ++ [.space c]) ps tokens → Yields before (.space c :: ps) tokens
  /-- A block comment is no token. -/
  | blockComment {before ps : List Piece} {tokens : List Token} {body : List Char} :
      Yields (before ++ [.blockComment body]) ps tokens →
      Yields before (.blockComment body :: ps) tokens
  /-- A comment of one line that begins its line is documentation, without the carriage returns at
  its end. -/
  | documentation {before ps : List Piece} {tokens : List Token} {text returns : List Char} :
      Piece.BeginsLine before → (∀ c ∈ returns, c = '\r') → (∀ c ∈ text.getLast?, c ≠ '\r') →
      Yields (before ++ [.lineComment (text ++ returns)]) ps tokens →
      Yields before (.lineComment (text ++ returns) :: ps)
        (⟨.doc (String.ofList text), 1 + (Piece.texts before).count '\n'⟩ :: tokens)
  /-- Another comment of one line is no token. -/
  | lineComment {before ps : List Piece} {tokens : List Token} {body : List Char} :
      ¬Piece.BeginsLine before → Yields (before ++ [.lineComment body]) ps tokens →
      Yields before (.lineComment body :: ps) tokens
  /-- A mark, a name or a number is a token. -/
  | lexeme {before ps : List Piece} {tokens : List Token} {l : Lexeme} {spelling : List Char} :
      Yields (before ++ [.lexeme l spelling]) ps tokens →
      Yields before (.lexeme l spelling :: ps)
        (⟨l, 1 + (Piece.texts before).count '\n'⟩ :: tokens)

/-! ## Steps and pieces -/

namespace IsSegmented

variable {text rest : List Char} {ps : List Piece} {p : Piece}

/-- A text may be nothing but rest. -/
theorem nil (rest : List Char) : IsSegmented rest [] rest where
  eq := rfl
  fits := by simp

/-- One more piece stands in front of a text. -/
theorem cons (h : IsSegmented text ps rest) (hp : p.Fits text) :
    IsSegmented (p.text ++ text) (p :: ps) rest where
  eq := by
    rw [h.eq]
    simp [Piece.texts]
  fits front q back heq := by
    cases front with
    | nil =>
        obtain ⟨rfl, rfl⟩ := List.cons.inj heq
        rw [← h.eq]
        exact hp
    | cons r front => exact h.fits front q back (List.cons.inj heq).2

end IsSegmented

/-- A text begins with a line. -/
theorem Piece.beginsLine_nil : BeginsLine [] :=
  ⟨[], [], rfl, by simp, by simp⟩

/-- A piece is at the start of a line behind a newline, and behind blanks at the start of one. -/
theorem Piece.beginsLine_concat_iff {before : List Piece} {p : Piece} :
    BeginsLine (before ++ [p]) ↔ p = newline ∨ (∃ c, p = space c) ∧ BeginsLine before := by
  constructor
  · rintro ⟨above, spaces, heq, hspaces, habove⟩
    rcases spaces.eq_nil_or_concat' with rfl | ⟨spaces, q, rfl⟩
    · rw [List.append_nil] at heq
      subst heq
      exact .inl (habove p (by simp))
    · rw [← List.append_assoc] at heq
      obtain ⟨rfl, hq⟩ := List.append_inj' heq rfl
      obtain rfl := List.singleton_inj.1 hq
      rw [List.forall_mem_append, List.forall_mem_singleton] at hspaces
      exact .inr ⟨hspaces.2, above, spaces, rfl, hspaces.1, habove⟩
  · rintro (rfl | ⟨⟨c, rfl⟩, above, spaces, rfl, hspaces, habove⟩)
    · exact ⟨before ++ [newline], [], by simp, by simp, by simp⟩
    · refine ⟨above, spaces ++ [space c], by simp, ?_, habove⟩
      rw [List.forall_mem_append, List.forall_mem_singleton]
      exact ⟨hspaces, c, rfl⟩

namespace Scanner

variable {s s' : Scanner} {lexeme? : Option Lexeme} {before : List Piece} {tokens : List Token}

/-- The scanner stands behind the pieces: on the line that they end on, and it knows whether only
blanks stand in front of it on this line, unless the line ends here. -/
structure StandsBehind (s : Scanner) (before : List Piece) : Prop where
  /-- The line of the scanner. -/
  line : s.line = 1 + (Piece.texts before).count '\n'
  /-- Whether only blanks stand in front of it. -/
  isLineStart : ∀ c ∈ s.rest.head?, c ≠ '\n' → (s.isLineStart = true ↔ Piece.BeginsLine before)

/-- A step takes a piece. -/
theorem Step.exists_piece {cs : List Char} (h : s.Step cs lexeme? s') (hcs : s.rest = cs)
    (hs : s.StandsBehind before) :
    ∃ p : Piece, s.rest = p.text ++ s'.rest ∧ p.Fits s'.rest ∧ s'.StandsBehind (before ++ [p]) ∧
      ∀ ps tokens, Yields (before ++ [p]) ps tokens →
        Yields before (p :: ps)
          ((lexeme?.map fun lexeme => { lexeme, line := s.line }).toList ++ tokens) := by
  have htexts (p : Piece) : Piece.texts (before ++ [p]) = Piece.texts before ++ p.text := by
    simp [Piece.texts]
  cases h with
  | @newline cs =>
      -- it is counted, and a line begins behind it
      refine ⟨.newline, hcs, .newline cs, ⟨?_, ?_⟩, fun _ _ h => .newline h⟩
      · rw [hs.line, htexts, List.count_append]
        rfl
      · simp [Piece.beginsLine_concat_iff]
  | @space c cs hc hspace =>
      -- whether a line begins behind it depends on what stands in front of it
      refine ⟨.space c, hcs, .space cs ?_, ⟨?_, ?_⟩, fun _ _ h => .space h⟩
      · simpa [isSpace, or_assoc] using hspace
      · rw [hs.line, htexts, List.count_append]
        simp [Piece.text, hc]
      · intro d _ _
        rw [hs.isLineStart c (by rw [hcs]; rfl) hc]
        simp [Piece.beginsLine_concat_iff]
  | @lineComment cs _ hlexeme =>
      -- the newline that ends the comment is left, so that nothing has to be known of its line
      have hnot : '\n' ∉ cs.takeWhile (· ≠ '\n') := fun hmem => by
        simpa using List.all_eq_true.1 List.all_takeWhile _ hmem
      have hend : ∀ c ∈ (cs.dropWhile (· ≠ '\n')).head?, c = '\n' := by
        simpa using forall_mem_head?_dropWhile (· ≠ '\n') cs
      refine ⟨.lineComment (cs.takeWhile (· ≠ '\n')), ?_, .lineComment hnot hend, ⟨?_, ?_⟩, ?_⟩
      · rw [hcs, Piece.text, List.cons_append, List.cons_append, List.takeWhile_append_dropWhile]
      · rw [hs.line, htexts, List.count_append, Piece.text, List.count_cons_of_ne (by decide),
          List.count_cons_of_ne (by decide), List.count_eq_zero_of_not_mem hnot, Nat.add_zero]
      · exact fun c hc hne => absurd (hend c hc) hne
      · intro ps tokens hps
        have hstart := hs.isLineStart '/' (by rw [hcs]; rfl) (by decide)
        obtain ⟨text, returns, hbody, hreturns, htext, hdoc⟩ :=
          exists_append_of_docText (cs.takeWhile (· ≠ '\n'))
        rw [hlexeme]
        split
        · rename_i hlineStart
          rw [hdoc, hs.line]
          rw [hbody] at hps ⊢
          exact .documentation (hstart.1 hlineStart) hreturns htext hps
        · rename_i hlineStart
          exact .lineComment (fun hbegins => hlineStart (hstart.2 hbegins)) hps
  | @blockComment cs rest newlines hskip =>
      -- the newlines in it are counted, but none of them begins a line
      obtain ⟨body, rfl, hbody, rfl⟩ := skipComment_eq_some_iff.1 hskip
      refine ⟨.blockComment body, ?_, .blockComment rest hbody, ⟨?_, ?_⟩,
        fun _ _ h => .blockComment h⟩
      · rw [hcs]
        simp [Piece.text]
      · rw [hs.line, htexts, List.count_append]
        simp [Piece.text, Nat.add_assoc]
      · simp [Piece.beginsLine_concat_iff]
  | @lexeme c cs rest l _ hread =>
      obtain ⟨spelling, heq, hspelled⟩ := readLexeme_eq_ok_iff.1 hread
      have hnot := hspelled.newline_not_mem
      refine ⟨.lexeme l spelling, hcs.trans heq, .lexeme hspelled, ⟨?_, ?_⟩, fun ps tokens h => ?_⟩
      · rw [hs.line, htexts, List.count_append]
        simp [Piece.text, List.count_eq_zero_of_not_mem hnot]
      · simp [Piece.beginsLine_concat_iff]
      · rw [hs.line]
        exact .lexeme h

/-- Where a piece begins, a step can be taken. -/
theorem exists_step_of_fits (s : Scanner) {p : Piece} {rest : List Char} (h : p.Fits rest) :
    ∃ lexeme? s', s.Step (p.text ++ rest) lexeme? s' := by
  cases h with
  | newline => exact ⟨_, _, .newline⟩
  | space _ hspace =>
      simp only [List.mem_cons, List.not_mem_nil, or_false] at hspace
      rcases hspace with rfl | rfl | rfl | rfl <;> exact ⟨_, _, .space (by decide) rfl⟩
  | @blockComment body _ hbody =>
      have hskip : skipComment 0 (body ++ ['*', '/'] ++ rest) = some (0 + body.count '\n', rest) :=
        skipComment_eq_some_iff.2 ⟨body, by simp, hbody, rfl⟩
      exact ⟨_, _, .blockComment hskip⟩
  | lineComment => exact ⟨_, _, .lineComment rfl⟩
  | lexeme hspelled => exact ⟨_, _, .of_isSpelled s hspelled⟩

/-- What is cut off a text are pieces. -/
theorem Cuts.exists_pieces (h : s.Cuts tokens s') (hs : s.StandsBehind before) :
    ∃ ps, IsSegmented s.rest ps s'.rest ∧ s'.StandsBehind (before ++ ps) ∧
      Yields before ps tokens := by
  -- the piece of the first step stands in front of those of the others
  have hcons {s s' place : Scanner} {before : List Piece} {tokens : List Token} {c : Char}
      {cs : List Char} {lexeme? : Option Lexeme} (hrest : s.rest = c :: cs)
      (hstep : s.step c cs = .ok (lexeme?, s')) (hs : s.StandsBehind before)
      (ih : ∀ {before}, s'.StandsBehind before → ∃ ps, IsSegmented s'.rest ps place.rest ∧
        place.StandsBehind (before ++ ps) ∧ Yields before ps tokens) :
      ∃ ps, IsSegmented s.rest ps place.rest ∧ place.StandsBehind (before ++ ps) ∧
        Yields before ps
          ((lexeme?.map fun lexeme => { lexeme, line := s.line }).toList ++ tokens) := by
    obtain ⟨p, heq, hfits, hs', hyields⟩ := (step_of_eq_ok hstep).exists_piece hrest hs
    obtain ⟨ps, hsegmented, hplace, htokens⟩ := ih hs'
    refine ⟨p :: ps, ?_, by simpa using hplace, hyields ps tokens htokens⟩
    rw [heq]
    exact hsegmented.cons hfits
  induction h generalizing before with
  | done s => exact ⟨[], .nil s.rest, by simpa using hs, .done before⟩
  | token hrest hstep _ ih => exact hcons hrest hstep hs ih
  | skip hrest hstep _ ih => exact hcons hrest hstep hs ih

/-- A run cuts the text up to its end or to a place where no step can be taken. -/
theorem exists_cuts_run (s : Scanner) (reversed : List Token) :
    ∃ read place, s.Cuts read place ∧ (s.run reversed).1 = reversed.reverse ++ read ∧
      ((s.run reversed).2 = none ∧ place.rest = [] ∨
        ∃ c cs fault, (s.run reversed).2 = some { line := place.line, fault } ∧
          place.rest = c :: cs ∧ place.step c cs = .error fault) := by
  fun_induction run s reversed with
  | case1 s reversed hrest => exact ⟨[], s, .done s, by simp, .inl ⟨rfl, hrest⟩⟩
  | case2 s reversed c cs hrest fault hstep =>
      exact ⟨[], s, .done s, by simp, .inr ⟨c, cs, fault, rfl, hrest, hstep⟩⟩
  | case3 s reversed c cs hrest s' lexeme hstep _ _ ih =>
      obtain ⟨read, place, hcuts, htokens, hend⟩ := ih
      refine ⟨_, place, .token hrest hstep hcuts, ?_, hend⟩
      rw [htokens, List.reverse_cons, List.append_assoc]
      rfl
  | case4 s reversed c cs hrest s' hstep _ _ ih =>
      obtain ⟨read, place, hcuts, htokens, hend⟩ := ih
      exact ⟨read, place, .skip hrest hstep hcuts, htokens, hend⟩

end Scanner

namespace Token

/-- A text consists of pieces up to its end or to a place where no piece begins. The tokens that are
read are those of the pieces, and the line of the fault is that of the place. -/
theorem scan_segments (text : List Char) :
    ∃ ps rest, IsSegmented text ps rest ∧ Yields [] ps (scan text).1 ∧
      ((scan text).2 = none ∧ rest = [] ∨
        ∃ fault, (scan text).2 = some { line := 1 + (Piece.texts ps).count '\n', fault } ∧
          rest ≠ [] ∧ ∀ (p : Piece) (more : List Char), rest = p.text ++ more → ¬p.Fits more) := by
  obtain ⟨read, place, hcuts, htokens, hend⟩ := Scanner.exists_cuts_run (.init text) []
  have hinit : (Scanner.init text).StandsBehind [] :=
    { line := rfl
      isLineStart := fun _ _ _ => iff_of_true rfl Piece.beginsLine_nil }
  obtain ⟨ps, hsegmented, hplace, hyields⟩ := hcuts.exists_pieces hinit
  refine ⟨ps, place.rest, hsegmented, ?_, ?_⟩
  · rw [scan, htokens]
    exact hyields
  · rcases hend with hend | ⟨c, cs, fault, hfault, hrest, hstep⟩
    · exact .inl hend
    · refine .inr ⟨fault, ?_, by simp [hrest], ?_⟩
      · rw [scan, hfault, hplace.line]
        rfl
      · intro p more heq hfits
        -- a piece that begins here would be taken
        obtain ⟨lexeme?, next, hnext⟩ := place.exists_step_of_fits hfits
        rw [← heq, hrest] at hnext
        cases hstep.symm.trans hnext.step_eq

example : scan "// One\n /* a\n*/ // two\n0x1u".toList =
    ([⟨.doc " One", 1⟩, ⟨.int 1 true, 4⟩], none) := by decide +kernel

end Token

end GlslPrelude
