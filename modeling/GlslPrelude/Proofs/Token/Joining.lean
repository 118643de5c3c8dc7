import GlslPrelude.Proofs.Token.Concatenation

/-!
# Tokens with separators between them

Names, integers and marks are read back from their texts, with the lines that these begin on, if
blanks and block comments stand between them (`Token.tokenize_joined`). The text of such a lexeme is
one of its spellings (`Lexeme.IsPlain.isSpelled`), and a separator ends the token in front of it
(`Token.IsSeparator.endsToken`) and is cut off without a token (`Token.IsSeparator.exists_cuts`).
-/

namespace GlslPrelude

namespace Lexeme

variable {l : Lexeme} {rest : List Char}

/-- The lexeme is a name, an integer or a mark. -/
inductive IsPlain : Lexeme → Prop
  /-- A name. -/
  | word {w : String} : IsName w → IsPlain (.word w)
  /-- An integer. -/
  | int (n : UInt64) (isUnsigned : Bool) : IsPlain (.int n isUnsigned)
  /-- A mark. -/
  | punct (p : Punct) : IsPlain (.punct p)

/-- No name goes on where no token does. -/
theorem EndsToken.stops (h : EndsToken rest) : Stops rest :=
  fun c hc => (h c hc).1

/-- The digits of a number in base ten are a numeral. -/
theorem isNumeral_toDigits (n : Nat) : IsNumeral (Nat.toDigits 10 n) n := by
  have hvalue := IsNumeral.decimal (Nat.toDigits_ne_nil (b := 10) (n := n))
    (Digits.isDigit_of_mem_toDigits n) ?_
  · rwa [Digits.toNat_toDigits] at hvalue
  · intro hhead
    obtain ⟨digits, hdigits⟩ := List.head?_eq_some_iff.1 hhead
    rw [hdigits, Digits.eq_nil_of_toDigits_eq hdigits]

/-- The text of a lexeme is a spelling of it where the text behind does not run on. -/
theorem IsPlain.isSpelled (h : l.IsPlain) (hrest : EndsToken rest) :
    IsSpelled l l.render.toList rest := by
  cases h with
  | word hname =>
      obtain ⟨c, cs, rfl, hc, hcs⟩ := hname
      rw [render, String.toList_ofList]
      exact .word hc (List.all_eq_true.1 hcs) hrest.stops
  | int n isUnsigned =>
      have hsuffix : IsIntSuffix (if isUnsigned then "u" else "").toList isUnsigned := by
        cases isUnsigned
        · exact .absent
        · exact .small
      have hnumber := IsNumber.integer (isNumeral_toDigits n.toNat) n.toNat_lt hsuffix hrest.stops
        fun _ c hc => (hrest c hc).2
      rw [UInt64.ofNat_toNat] at hnumber
      rw [render, String.toList_append, Nat.toString_eq_ofList_toDigits, String.toList_ofList]
      exact .number hnumber
  | punct p =>
      rw [render, String.toList_singleton]
      exact .mark p rest

end Lexeme

namespace Token

open Lexeme (EndsToken IsPlain)
open Scanner (Cuts Step IsCommentBody)

variable {ls : List Lexeme} {sep rest : List Char} {seps : List (List Char)}

/-- At least one blank or block comment, and nothing else. -/
inductive IsSeparator : List Char → Prop
  /-- A blank of ASCII. -/
  | blank {c : Char} : c ∈ [' ', '\t', '\n', '\x0c', '\r'] → IsSeparator [c]
  /-- A comment with its first end mark. -/
  | comment {body : List Char} : IsCommentBody body →
      IsSeparator ('/' :: '*' :: (body ++ ['*', '/']))
  /-- Separators one after the other. -/
  | append {front back : List Char} : IsSeparator front → IsSeparator back →
      IsSeparator (front ++ back)

/-- The texts of lexemes, each with the separator behind it. -/
def terminated (ls : List Lexeme) (seps : List (List Char)) : List Char :=
  (ls.zipWith (fun l sep => l.render.toList ++ sep) seps).flatten

/-- The texts of lexemes with the separators between them. -/
def joined (ls : List Lexeme) (seps : List (List Char)) : List Char :=
  terminated ls (seps ++ [[]])

/-- No token goes on in a separator. -/
theorem IsSeparator.endsToken (h : IsSeparator sep) (rest : List Char) :
    EndsToken (sep ++ rest) := by
  induction h generalizing rest with
  | @blank c hc =>
      rintro d ⟨⟩
      simp only [List.mem_cons, List.not_mem_nil, or_false] at hc
      rcases hc with rfl | rfl | rfl | rfl | rfl <;> decide
  | comment =>
      rintro d ⟨⟩
      decide
  | append _ _ ihfront _ =>
      rw [List.append_assoc]
      exact ihfront _

/-- A separator is cut off, and there is no token in it. -/
theorem IsSeparator.exists_cuts (h : IsSeparator sep) {s : Scanner} (hs : s.rest = sep ++ rest) :
    ∃ s', s.Cuts [] s' ∧ s'.rest = rest := by
  induction h generalizing s rest with
  | @blank c hc =>
      by_cases hnewline : c = '\n'
      · subst hnewline
        exact ⟨_, .of_skip hs rfl, rfl⟩
      · have hspace : Scanner.isSpace c = true := by
          simpa [Scanner.isSpace, hnewline, or_assoc] using hc
        exact ⟨_, .of_skip hs (Step.space hnewline hspace).step_eq, rfl⟩
  | @comment body hbody =>
      have hs' : s.rest = '/' :: '*' :: (body ++ '*' :: '/' :: rest) := by simpa using hs
      have hskip : Scanner.skipComment 0 (body ++ '*' :: '/' :: rest) =
          some (0 + body.count '\n', rest) :=
        Scanner.skipComment_eq_some_iff.2 ⟨body, rfl, hbody, rfl⟩
      exact ⟨_, .of_skip hs' (Step.blockComment hskip).step_eq, rfl⟩
  | append _ _ ihfront ihback =>
      rw [List.append_assoc] at hs
      obtain ⟨place, hplace, hrest⟩ := ihfront hs
      obtain ⟨s', hs', hrest'⟩ := ihback hrest
      exact ⟨s', hplace.append hs', hrest'⟩

/-- The text of a lexeme is cut off where the text behind does not run on. -/
theorem exists_cuts_render {l : Lexeme} (hl : l.IsPlain) (hrest : EndsToken rest) {s : Scanner}
    (hs : s.rest = l.render.toList ++ rest) :
    ∃ s', s.Cuts [{ lexeme := l, line := s.line }] s' ∧ s'.rest = rest :=
  ⟨_, .of_isSpelled (hl.isSpelled hrest) hs, rfl⟩

/-- From any place on, the texts of lexemes with separators between them are cut into tokens with
the lexemes, each on the line that its text begins on. -/
theorem exists_cuts_joined (hls : ∀ l ∈ ls, l.IsPlain) (hseps : ∀ sep ∈ seps, IsSeparator sep)
    (hlength : seps.length = ls.length - 1) {s : Scanner} (hs : s.rest = joined ls seps) :
    ∃ s', s.Cuts (ls.mapIdx fun i l =>
      { lexeme := l, line := s.line + (terminated (ls.take i) seps).count '\n' }) s' ∧
        s'.rest = [] := by
  induction ls generalizing seps s with
  | nil => exact ⟨s, .done s, hs⟩
  | cons l ls ih =>
      rw [List.forall_mem_cons] at hls
      cases seps with
      | nil =>
          -- the last lexeme has the end of the text behind it
          obtain rfl : ls = [] := List.eq_nil_of_length_eq_zero hlength.symm
          have hs : s.rest = l.render.toList ++ [] := by simpa [joined, terminated] using hs
          exact exists_cuts_render hls.1 (by simp [EndsToken]) hs
      | cons sep seps =>
          rw [List.forall_mem_cons] at hseps
          have hs : s.rest = l.render.toList ++ (sep ++ joined ls seps) := by
            simpa [joined, terminated] using hs
          have hlength : seps.length = ls.length - 1 := by
            rw [List.length_cons, List.length_cons] at hlength
            omega
          obtain ⟨behind, hlexeme, hbehind⟩ := exists_cuts_render hls.1 (hseps.1.endsToken _) hs
          obtain ⟨place, hsep, hplace⟩ := hseps.1.exists_cuts hbehind
          obtain ⟨s', hcuts, hend⟩ := ih hls.2 hseps.2 hlength hplace
          -- what was taken so far are the text of the lexeme and the separator
          obtain ⟨taken, htaken, hline⟩ := (hlexeme.append hsep).exists_append
          rw [hs, hplace, ← List.append_assoc] at htaken
          obtain rfl := List.append_cancel_right htaken
          refine ⟨s', ?_, hend⟩
          simpa [List.mapIdx_cons, terminated, hline, Nat.add_assoc] using
            (hlexeme.append hsep).append hcuts

/-- Names, integers and marks are read back from their texts if each two of them have blanks or
block comments between them, each with the line that its text begins on. -/
theorem tokenize_joined (hls : ∀ l ∈ ls, l.IsPlain) (hseps : ∀ sep ∈ seps, IsSeparator sep)
    (hlength : seps.length = ls.length - 1) :
    tokenize (joined ls seps) = .ok (ls.mapIdx fun i l =>
      { lexeme := l, line := 1 + (terminated (ls.take i) seps).count '\n' }) := by
  obtain ⟨s, hcuts, hend⟩ := exists_cuts_joined hls hseps hlength (s := .init (joined ls seps)) rfl
  exact Scanner.tokenize_eq_ok_iff.2 ⟨s, hcuts, hend⟩

/-- Names and integers that only a comment or a newline keeps apart. -/
theorem tokenize_joined_of_comments :
    let ls : List Lexeme :=
      [.word "_a0", .int 0 true, .punct .minus, .int 18446744073709551615 false, .word "u"]
    let seps := ["/**/".toList, " ".toList, "/*/\n-*//*\n/**/".toList, "\r\n".toList]
    (∀ l ∈ ls, l.IsPlain) ∧ (∀ sep ∈ seps, IsSeparator sep) ∧ seps.length = ls.length - 1 ∧
      joined ls seps = "_a0/**/0u -/*/\n-*//*\n/**/18446744073709551615\r\nu".toList ∧
      tokenize (joined ls seps) = .ok
        [⟨.word "_a0", 1⟩, ⟨.int 0 true, 1⟩, ⟨.punct .minus, 1⟩,
          ⟨.int 18446744073709551615 false, 3⟩, ⟨.word "u", 4⟩] := by
  intro ls seps
  have hls : ∀ l ∈ ls, l.IsPlain := by
    simp only [ls, List.forall_mem_cons]
    exact ⟨.word (by decide), .int _ _, .punct _, .int _ _, .word (by decide), by simp⟩
  have hseps : ∀ sep ∈ seps, IsSeparator sep := by
    simp only [seps, List.forall_mem_cons]
    have hcomment {body : String} (h : IsCommentBody body.toList) :
        IsSeparator ("/*" ++ body ++ "*/").toList := by
      simpa using IsSeparator.comment h
    refine ⟨@hcomment "" (by decide), .blank (by decide), ?_, ?_, by simp⟩
    · exact .append (@hcomment "/\n-" (by decide)) (@hcomment "\n/*" (by decide))
    · exact .append (.blank (by decide)) (.blank (by decide))
  refine ⟨hls, hseps, rfl, rfl, (tokenize_joined hls hseps rfl).trans ?_⟩
  rfl

end Token

end GlslPrelude
