import GlslPrelude.Proofs.Text.Lines
import GlslPrelude.Proofs.Token.Lexemes
import GlslPrelude.Text.Blank

/-!
# Places in a text

The line of the scanner is the number of the line that the rest of the text begins in, and no token
contains a newline. So every token stands on a line of the text that is not blank
(`exists_isLine_of_mem`), and text without block comments is cut line by line
(`Cuts.exists_behind_newline`).
-/

namespace GlslPrelude

namespace Text

/-- `rest` is what is left of a text behind some characters of its first line. -/
def OnLine (cs rest : List Char) : Prop :=
  ∃ taken, cs = taken ++ rest ∧ '\n' ∉ taken

namespace OnLine

variable {cs ds rest : List Char}

/-- Nothing was taken. -/
theorem refl (cs : List Char) : OnLine cs cs :=
  ⟨[], rfl, by simp⟩

/-- One more character was taken. -/
theorem cons (h : OnLine cs rest) {c : Char} (hc : c ≠ '\n') : OnLine (c :: cs) rest := by
  obtain ⟨taken, rfl, hnot⟩ := h
  exact ⟨c :: taken, rfl, by simpa using ⟨hc.symm, hnot⟩⟩

/-- A span of characters other than newlines was taken. -/
theorem dropWhile {p : Char → Bool} (hp : p '\n' = false) (cs : List Char) :
    OnLine cs (cs.dropWhile p) := by
  refine ⟨cs.takeWhile p, List.takeWhile_append_dropWhile.symm, fun hmem => ?_⟩
  rw [List.all_eq_true.1 List.all_takeWhile _ hmem] at hp
  contradiction

end OnLine

/-- Blank characters are control characters, the space, or no ASCII characters. -/
theorem toNat_of_isBlank {c : Char} (h : isBlank c = true) : c.toNat ≤ 32 ∨ 133 ≤ c.toNat := by
  simp [isBlank, Char.le_def, UInt32.le_iff_toNat_le, ← Char.toNat_inj] at h
  omega

/-- The line of a character in a text. -/
theorem exists_isLine_of_append (front : List Char) (c : Char) (cs : List Char) :
    ∃ line, IsLine (front ++ c :: cs) (1 + front.count '\n') line ∧ c ∈ line := by
  simp only [IsLine, mem_zipIdx_iff_exists_append]
  suffices h : ∃ before line behind, lines (front ++ c :: cs) = before ++ line :: behind ∧
      before.length = front.count '\n' ∧ c ∈ line by
    obtain ⟨before, line, behind, hlines, hcount, hmem⟩ := h
    exact ⟨line, ⟨before, behind, hlines, by rw [hcount]⟩, hmem⟩
  induction front with
  | nil =>
      change ∃ before line behind, consLine c (lines cs) = _ ∧ _
      cases lines cs with
      | nil => exact ⟨[], [c], [], rfl, rfl, by simp⟩
      | cons line behind =>
          rw [consLine]
          split
          · exact ⟨[], [c], line :: behind, rfl, rfl, by simp⟩
          · exact ⟨[], c :: line, behind, rfl, rfl, by simp⟩
  | cons d front ih =>
      obtain ⟨before, line, behind, hlines, hcount, hmem⟩ := ih
      change ∃ before line behind, consLine d (lines (front ++ c :: cs)) = _ ∧ _
      rw [hlines]
      by_cases hd : d = '\n'
      · -- a newline is one more line in front
        subst hd
        refine ⟨['\n'] :: before, line, behind, ?_, ?_, hmem⟩
        · cases before <;> simp [consLine]
        · rw [List.length_cons, hcount, List.count_cons_self]
      · rw [List.count_cons_of_ne hd]
        cases before with
        | nil =>
            refine ⟨[], d :: line, behind, ?_, hcount, by simp [hmem]⟩
            rw [List.nil_append, consLine, if_neg hd, List.nil_append]
        | cons first before =>
            refine ⟨(d :: first) :: before, line, behind, ?_, hcount, hmem⟩
            rw [List.cons_append, consLine, if_neg hd, List.cons_append]

/-- Only the last line of a text can lack its newline. -/
theorem AreLines.isEnded_of_append {front : List (List Char)} {line : List Char}
    {back : List (List Char)} (h : AreLines (front ++ line :: back)) : ∀ l ∈ front, IsEnded l := by
  induction front with
  | nil => simp
  | cons l front ih =>
      rw [List.cons_append] at h
      rw [List.forall_mem_cons]
      generalize hrest : front ++ line :: back = rest at h ih
      cases h with
      | last => simp at hrest
      | ended hl hrest => exact ⟨hl, ih hrest⟩

/-- Ended lines put together have one newline each. -/
theorem count_flatten {ls : List (List Char)} (h : ∀ line ∈ ls, IsEnded line) :
    ls.flatten.count '\n' = ls.length := by
  induction ls with
  | nil => rfl
  | cons line ls ih =>
      rw [List.forall_mem_cons] at h
      obtain ⟨body, hbody, rfl⟩ := h.1
      rw [List.flatten_cons, List.count_append, List.count_append, ih h.2,
        List.count_eq_zero_of_not_mem hbody, List.length_cons]
      simp [Nat.add_comm]

end Text

namespace Scanner

open Text (OnLine)

variable {s s' : Scanner} {c : Char} {cs rest : List Char} {l : Lexeme} {lexeme? : Option Lexeme}
  {tokens : List Token}

/-- What starts a token is not blank. -/
theorem isBlank_of_readLexeme (h : readLexeme c cs = .ok (l, rest)) : Text.isBlank c = false := by
  rw [← Bool.not_eq_true]
  intro hblank
  have hblank := Text.toNat_of_isBlank hblank
  unfold readLexeme at h
  split at h
  · rename_i mark hmark
    rw [Punct.ofChar?_eq_some_iff.1 hmark] at hblank
    revert hblank
    cases mark <;> decide
  · split at h
    · rename_i hname
      have hletter := Text.toNat_of_startsName hname
      omega
    · split at h
      · rename_i hnumber
        rw [Bool.or_eq_true, Bool.and_eq_true, decide_eq_true_eq] at hnumber
        rcases hnumber with hdigit | ⟨rfl, -⟩
        · have hdigit := Text.isDigit_iff_toNat.1 hdigit
          omega
        · revert hblank
          decide
      · cases h

/-- A token ends on its line. -/
theorem onLine_readLexeme (h : readLexeme c cs = .ok (l, rest)) : OnLine (c :: cs) rest := by
  obtain ⟨spelling, heq, hspelled⟩ := readLexeme_eq_ok_iff.1 h
  exact ⟨spelling, heq, hspelled.newline_not_mem⟩

/-- The newlines in what a step takes are counted. -/
theorem exists_append_of_step (h : s.step c cs = .ok (lexeme?, s')) :
    ∃ taken, c :: cs = taken ++ s'.rest ∧ s'.line = s.line + taken.count '\n' := by
  have honline : ∀ {rest}, OnLine (c :: cs) rest →
      ∃ taken, c :: cs = taken ++ rest ∧ s.line = s.line + taken.count '\n' := by
    rintro rest ⟨taken, heq, hnot⟩
    exact ⟨taken, heq, by rw [List.count_eq_zero_of_not_mem hnot, Nat.add_zero]⟩
  cases step_of_eq_ok h with
  | newline => exact ⟨['\n'], rfl, rfl⟩
  | space hc => exact honline ((OnLine.refl cs).cons hc)
  | lineComment =>
      exact honline (((OnLine.dropWhile (by decide) _).cons (by decide)).cons (by decide))
  | blockComment hskip =>
      obtain ⟨body, rfl, -, rfl⟩ := skipComment_eq_some_iff.1 hskip
      refine ⟨'/' :: '*' :: (body ++ ['*', '/']), by simp, ?_⟩
      simp
  | lexeme _ hread => exact honline (onLine_readLexeme hread)

/-- What starts a token or a documentation comment is not blank. -/
theorem isBlank_of_step (h : s.step c cs = .ok (some l, s')) : Text.isBlank c = false := by
  cases step_of_eq_ok h with
  | lineComment => decide
  | lexeme _ hread => exact isBlank_of_readLexeme hread

/-- Between two places stands some text, whose newlines are counted. -/
theorem Cuts.exists_append (h : s.Cuts tokens s') :
    ∃ taken, s.rest = taken ++ s'.rest ∧ s'.line = s.line + taken.count '\n' := by
  induction h with
  | done => exact ⟨[], rfl, rfl⟩
  | token hrest hstep _ ih | skip hrest hstep _ ih =>
      obtain ⟨taken, heq, hline⟩ := exists_append_of_step hstep
      obtain ⟨taken', heq', hline'⟩ := ih
      refine ⟨taken ++ taken', ?_, ?_⟩
      · rw [hrest, heq, heq', List.append_assoc]
      · rw [hline', hline, List.count_append, Nat.add_assoc]

/-- The lines of tokens lie between those of the places before and behind them. -/
theorem Cuts.line_bounds (h : s.Cuts tokens s') :
    s.line ≤ s'.line ∧ ∀ t ∈ tokens, s.line ≤ t.line ∧ t.line ≤ s'.line := by
  induction h with
  | done => exact ⟨Nat.le_refl _, by simp⟩
  | token hrest hstep _ ih | skip hrest hstep _ ih =>
      obtain ⟨_, -, hline⟩ := exists_append_of_step hstep
      grind

/-- Each token starts with a character that is not blank, on the token's line. -/
theorem Cuts.exists_start (h : s.Cuts tokens s') {t : Token} (ht : t ∈ tokens) :
    ∃ front c cs, s.rest = front ++ c :: cs ∧ t.line = s.line + front.count '\n' ∧
      Text.isBlank c = false := by
  -- behind a step, the token has the characters of the step in front of it
  have hbehind : ∀ {s s' : Scanner} {c : Char} {cs : List Char} {lexeme? : Option Lexeme},
      s.rest = c :: cs → s.step c cs = .ok (lexeme?, s') →
      (∃ front d ds, s'.rest = front ++ d :: ds ∧ t.line = s'.line + front.count '\n' ∧
        Text.isBlank d = false) →
      ∃ front d ds, s.rest = front ++ d :: ds ∧ t.line = s.line + front.count '\n' ∧
        Text.isBlank d = false := by
    rintro s s' c cs lexeme? hrest hstep ⟨front, d, ds, heq, hline, hblank⟩
    obtain ⟨taken, htaken, hcount⟩ := exists_append_of_step hstep
    refine ⟨taken ++ front, d, ds, ?_, ?_, hblank⟩
    · rw [hrest, htaken, heq, List.append_assoc]
    · rw [hline, hcount, List.count_append, Nat.add_assoc]
  induction h with
  | done => contradiction
  | token hrest hstep _ ih =>
      rcases List.mem_cons.1 ht with rfl | ht
      · exact ⟨[], _, _, hrest, rfl, isBlank_of_step hstep⟩
      · exact hbehind hrest hstep (ih ht)
  | skip hrest hstep _ ih => exact hbehind hrest hstep (ih ht)

/-- Every token stands on a visible line of the text. -/
theorem exists_isLine_of_mem {text : List Char} (h : Token.tokenize text = .ok tokens) {t : Token}
    (ht : t ∈ tokens) : ∃ line, Text.IsLine text t.line line ∧ line.all Text.isBlank = false := by
  obtain ⟨s, hcuts, -⟩ := tokenize_eq_ok_iff.1 h
  obtain ⟨front, c, cs, heq, hline, hblank⟩ := hcuts.exists_start ht
  obtain ⟨line, hisLine, hmem⟩ := Text.exists_isLine_of_append front c cs
  change text = front ++ c :: cs at heq
  refine ⟨line, ?_, ?_⟩
  · rw [hline, heq]
    exact hisLine
  · rw [List.all_eq_false]
    exact ⟨c, hmem, by simp [hblank]⟩

/-! ## Text without comments -/

/-- Without a comment, a step ends on its line, unless it takes a newline. -/
theorem onLine_of_step (hc : c ≠ '\n') (hcomment : ¬['/', '*'] <+: c :: cs)
    (h : s.step c cs = .ok (lexeme?, s')) : OnLine (c :: cs) s'.rest := by
  cases step_of_eq_ok h with
  | newline => contradiction
  | space _ _ => exact (OnLine.refl cs).cons hc
  | lineComment => exact ((OnLine.dropWhile (by decide) _).cons (by decide)).cons (by decide)
  | blockComment _ => exact absurd ⟨_, rfl⟩ hcomment
  | lexeme _ hread => exact onLine_readLexeme hread

/-- A step that takes a documentation comment takes the slashes that it begins with. -/
theorem prefix_of_step_doc {text : String} (h : s.step c cs = .ok (some (.doc text), s')) :
    ['/', '/'] <+: c :: cs := by
  cases step_of_eq_ok h with
  | lineComment _ => exact ⟨_, rfl⟩
  | lexeme _ hread =>
      rcases cases_of_readLexeme hread with ⟨p, hl⟩ | ⟨w, hl, -⟩ | ⟨n, isUnsigned, hl⟩ | ⟨x, hl⟩ <;>
        cases hl

/-- A step leaves an end of the text. -/
theorem suffix_of_step (hcs : s.rest = c :: cs) (hstep : s.step c cs = .ok (lexeme?, s')) :
    s'.rest <:+ s.rest := by
  obtain ⟨taken, htaken, -⟩ := exists_append_of_step hstep
  exact ⟨taken, by rw [hcs, htaken]⟩

/-- A step does not go beyond the next newline: it takes part of what stands in front of the
newline, or the newline itself. -/
theorem rest_of_step {front : List Char} (hcs : s.rest = c :: cs)
    (hstep : s.step c cs = .ok (lexeme?, s')) (hcomment : ¬['/', '*'] <:+: s.rest)
    (hrest : s.rest = front ++ '\n' :: rest) :
    s'.rest = rest ∨ ∃ front', s'.rest = front' ++ '\n' :: rest := by
  by_cases hc : c = '\n'
  · subst hc
    have htaken : s'.rest = cs := by
      unfold step at hstep
      cases hstep
      rfl
    cases front with
    | nil => exact .inl (htaken.trans (List.cons.inj (hcs.symm.trans hrest)).2)
    | cons d front => exact .inr ⟨front, htaken.trans (List.cons.inj (hcs.symm.trans hrest)).2⟩
  · have hprefix : ¬['/', '*'] <+: c :: cs := fun hp => hcomment (hcs ▸ hp.isInfix)
    obtain ⟨taken, htaken, hnot⟩ := onLine_of_step hc hprefix hstep
    rw [← hcs, hrest, List.append_eq_append_iff] at htaken
    rcases htaken with ⟨more, rfl, hmore⟩ | ⟨more, rfl, hmore⟩
    · -- what was taken has no newline, so it goes no further than the front
      cases more with
      | nil => exact .inr ⟨[], hmore.symm⟩
      | cons d more =>
          obtain ⟨rfl, -⟩ := List.cons.inj hmore
          simp at hnot
    · exact .inr ⟨more, hmore⟩

/-- Text without block comments is cut up to each newline before what follows is cut. -/
theorem Cuts.exists_behind_newline (h : s.Cuts tokens s') (hend : s'.rest = [])
    (hcomment : ¬['/', '*'] <:+: s.rest) {front rest : List Char}
    (hrest : s.rest = front ++ '\n' :: rest) :
    ∃ before behind s'', tokens = before ++ behind ∧ s.Cuts before s'' ∧ s''.rest = rest ∧
      s''.Cuts behind s' := by
  induction h generalizing front with
  | done =>
      rw [hend] at hrest
      simp at hrest
  | @token s s' s'' c cs lexeme tokens hcs hstep hcuts ih =>
      rcases rest_of_step hcs hstep hcomment hrest with rfl | ⟨front', hfront'⟩
      · exact ⟨[_], tokens, s', rfl, .of_token hcs hstep, rfl, hcuts⟩
      · obtain ⟨before, behind, place, rfl, hbefore, hplace, hbehind⟩ :=
          ih hend (fun hi => hcomment (hi.trans (suffix_of_step hcs hstep).isInfix)) hfront'
        exact ⟨_ :: before, behind, place, rfl, .token hcs hstep hbefore, hplace, hbehind⟩
  | @skip s s' s'' c cs tokens hcs hstep hcuts ih =>
      rcases rest_of_step hcs hstep hcomment hrest with rfl | ⟨front', hfront'⟩
      · exact ⟨[], tokens, s', rfl, .of_skip hcs hstep, rfl, hcuts⟩
      · obtain ⟨before, behind, place, rfl, hbefore, hplace, hbehind⟩ :=
          ih hend (fun hi => hcomment (hi.trans (suffix_of_step hcs hstep).isInfix)) hfront'
        exact ⟨before, behind, place, rfl, .skip hcs hstep hbefore, hplace, hbehind⟩

/-- Text without two slashes side by side has no documentation. -/
theorem Cuts.lexeme_ne_doc (h : s.Cuts tokens s') (hcomment : ¬['/', '/'] <:+: s.rest) :
    ∀ t ∈ tokens, ∀ text, t.lexeme ≠ .doc text := by
  induction h with
  | done => simp
  | token hcs hstep _ ih =>
      rw [List.forall_mem_cons]
      refine ⟨?_, ih fun hi => hcomment (hi.trans (suffix_of_step hcs hstep).isInfix)⟩
      rintro text rfl
      exact hcomment (hcs ▸ (prefix_of_step_doc hstep).isInfix)
  | skip hcs hstep _ ih =>
      exact ih fun hi => hcomment (hi.trans (suffix_of_step hcs hstep).isInfix)

end Scanner

end GlslPrelude
