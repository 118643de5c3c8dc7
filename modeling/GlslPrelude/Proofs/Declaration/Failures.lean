import GlslPrelude.Proofs.Declaration.ConstantLine
import GlslPrelude.Proofs.Fragment.Placement
import GlslPrelude.Proofs.Token.Places
import GlslPrelude.Proofs.Token.Spelling
import Mathlib.Algebra.Group.Nat.Defs

/-!
# Where reading a fragment fails

A fragment fails at a line that it shows (`exists_shows_of_stuck`), and never for want of a constant
that was in scope before (`not_unknownSize_of_constant?`). A fragment without comments that shows a
line `const int n = k;` fails at that line at the latest, or for another cause than `n`, or it
leaves `n` in scope (`parse_of_shows_constantText`).
-/

namespace GlslPrelude

namespace Fragment

variable {fragment : Fragment} {scope scope' : Scope} {failed : ParseFailure} {cause : ParseCause}
  {found : Option Lexeme}

/-- Reading a fragment gets stuck where the reader of declarations does. -/
theorem exists_stuck_of_parse (h : parse scope fragment = (scope', .error failed))
    (hfault : failed.fault = .stuck cause found) :
    ∃ tokens e, Token.tokenize fragment.text = .ok tokens ∧ e.cause = cause ∧
      (Input.readDeclarations fragment.condition fragment.line scope []
        (Input.ofTokens tokens)).stuck? = some e ∧
      failed = failure fragment tokens e := by
  unfold parse at h
  split at h
  · obtain ⟨-, h⟩ := Prod.mk.inj h
    rw [← Except.error.inj h] at hfault
    cases hfault
  · rename_i tokens htokens
    dsimp only at h
    split at h
    · rename_i e hstuck
      obtain ⟨-, h⟩ := Prod.mk.inj h
      have heq := Except.error.inj h
      refine ⟨tokens, e, htokens, ?_, hstuck, heq.symm⟩
      rw [← heq] at hfault
      exact (ParseFault.stuck.inj hfault).1
    · cases (Prod.mk.inj h).2

/-- A failure to read a token or the end of the text is one at the line of a token. -/
theorem exists_failure_eq (fragment : Fragment) {tokens : List Token} {e : Stuck}
    (hne : tokens ≠ []) (hrest : e.rest <:+ Input.ofTokens tokens) :
    ∃ token ∈ tokens, failure fragment tokens e =
      .inFragment fragment token.line (.stuck e.cause (e.rest.head?.map Documented.lexeme)) := by
  unfold failure
  split
  · rename_i t rest heq
    obtain ⟨token, hmem, -, hline⟩ := Input.exists_token_of_mem_ofTokens
      (hrest.subset (by rw [heq]; exact List.mem_cons_self))
    exact ⟨token, hmem, by rw [hline]⟩
  · -- the end of the text counts as standing on the line of the last token
    refine ⟨tokens.getLast hne, List.getLast_mem hne, ?_⟩
    simp only [lastLine, List.getLast?_eq_some_getLast hne, Option.map_some, Option.getD_some]

/-- There is nothing to get stuck at without tokens. -/
theorem ne_nil_of_stuck {tokens : List Token} {condition : Condition} {line : Nat} {e : Stuck}
    (hstuck : (Input.readDeclarations condition line scope [] (Input.ofTokens tokens)).stuck? =
      some e) : tokens ≠ [] := by
  rintro rfl
  rw [show Input.ofTokens [] = [] from rfl, Input.readDeclarations] at hstuck
  cases hstuck

/-- A reader of a fragment's tokens that gets stuck fails at a visible line of the fragment's text.
-/
theorem exists_isLine_of_stuck {tokens : List Token}
    (htokens : Token.tokenize fragment.text = .ok tokens) {e : Stuck}
    (hstuck : (Input.readDeclarations fragment.condition fragment.line scope []
      (Input.ofTokens tokens)).stuck? = some e) :
    ∃ n line fault, Text.IsLine fragment.text n line ∧ line.all Text.isBlank = false ∧
      failure fragment tokens e = .inFragment fragment n fault := by
  obtain ⟨token, hmem, heq⟩ := exists_failure_eq fragment (ne_nil_of_stuck hstuck)
    (Input.stuck_readDeclarations hstuck).1
  obtain ⟨line, hline, hvisible⟩ := Scanner.exists_isLine_of_mem htokens hmem
  exact ⟨token.line, line, _, hline, hvisible, heq⟩

/-- A line of the fragment's text is shown as far below the first one as it stands in the text. -/
theorem shows_of_isLine {n : Nat} {line : List Char} (h : Text.IsLine fragment.text n line) :
    fragment.Shows (fragment.line + (n - 1)) line := by
  rw [Text.IsLine, Text.mem_zipIdx_iff_exists_append] at h
  obtain ⟨front, back, heq, hnumber⟩ := h
  rw [Shows, Text.mem_zipIdx_iff_exists_append]
  exact ⟨front, back, heq, by rw [hnumber, Nat.add_sub_cancel_left]⟩

/-- A fragment that cannot be read fails at a visible line that it shows. -/
theorem exists_shows_of_stuck (h : parse scope fragment = (scope', .error failed))
    (hfault : failed.fault = .stuck cause found) :
    ∃ line, fragment.Shows failed.line line ∧ line.all Text.isBlank = false := by
  obtain ⟨tokens, e, htokens, -, hstuck, rfl⟩ := exists_stuck_of_parse h hfault
  obtain ⟨n, line, fault, hline, hvisible, heq⟩ := exists_isLine_of_stuck htokens hstuck
  refine ⟨line, ?_, hvisible⟩
  rw [heq]
  exact shows_of_isLine hline

/-- A fragment is never stuck at an array size that names a constant of its scope. -/
theorem not_unknownSize_of_constant? {name : String} (hname : scope.constant? name ≠ none)
    (h : parse scope fragment = (scope', .error failed)) :
    failed.fault ≠ .stuck (.unknownSize name) found := by
  intro hfault
  obtain ⟨tokens, e, -, hcause, hstuck, -⟩ := exists_stuck_of_parse h hfault
  exact hname ((Input.stuck_readDeclarations hstuck).2 name hcause)

/-- Behind a fragment, all the constants are in scope that were before it. -/
theorem constant?_of_parse {name : String} (hname : scope.constant? name ≠ none)
    {result : Except ParseFailure (List Declaration)}
    (h : parse scope fragment = (scope', result)) :
    scope'.constant? name ≠ none := by
  intro hnone
  unfold parse at h
  split at h
  · cases h
    exact hname hnone
  · dsimp only at h
    split at h <;> cases h <;> exact hname (Input.constant?_of_readDeclarations hnone)

end Fragment

namespace Text

/-- The text has no comment: no two slashes and no slash and star stand side by side. -/
def WithoutComments (cs : List Char) : Prop :=
  ¬['/', '/'] <:+: cs ∧ ¬['/', '*'] <:+: cs

instance (cs : List Char) : Decidable (WithoutComments cs) :=
  inferInstanceAs (Decidable (_ ∧ _))

end Text

/-! ## A line that declares an integer constant -/

namespace Scanner

open Lexeme (IsName EndsToken)

/-- The text of a line that declares an integer constant. -/
def constantText (name : String) (k : Nat) : String :=
  "const int " ++ name ++ " = " ++ toString k ++ ";"

/-- The text of the line is cut into the tokens of the line. -/
theorem spells_constantText {name : String} (hname : IsName name) {k : Nat}
    (hk : k < Digits.wordLimit) (rest : List Char) :
    Spells ((constantText name k).toList ++ rest)
      [.word "const", .word "int", .word name, .punct .equal, .int (UInt64.ofNat k) false,
        .punct .semicolon] rest := by
  have hconst : IsName "const" := ⟨'c', ['o', 'n', 's', 't'], rfl, rfl, rfl⟩
  have hint : IsName "int" := ⟨'i', ['n', 't'], rfl, rfl, rfl⟩
  -- from the semicolon back to the qualifier
  have hend := (Spells.mark .semicolon (Spells.done rest)).int false hk
    (Lexeme.endsToken_mark .semicolon rest)
  have hequal := (Spells.mark .equal hend.space).space.word hname (Lexeme.endsToken_space _)
  have hall := (hequal.space.word hint (Lexeme.endsToken_space _)).space.word hconst
    (Lexeme.endsToken_space _)
  rw [constantText]
  simpa [Lexeme.intText, Punct.char] using hall

/-- The text of the line has no newline. -/
theorem newline_not_mem_constantText {name : String} (hname : IsName name) (k : Nat) :
    '\n' ∉ (constantText name k).toList := by
  have hword : '\n' ∉ name.toList := by
    obtain ⟨c, cs, rfl, hc, hcs⟩ := hname
    rw [String.toList_ofList, List.mem_cons, not_or]
    refine ⟨?_, fun hmem => absurd (List.all_eq_true.1 hcs _ hmem) (by decide)⟩
    rintro rfl
    exact absurd hc (by decide)
  have hdigits : '\n' ∉ Nat.toDigits 10 k := fun hmem =>
    absurd (Digits.isDigit_of_mem_toDigits k _ hmem) (by decide)
  simp [constantText, hword, hdigits]

/-- In text without comments, the line is cut off on its own: the tokens up to its end stand no
later than the line, and its own tokens are those of the line. -/
theorem exists_tokens_of_constantText {name : String} (hname : IsName name) {k : Nat}
    (hk : k < Digits.wordLimit) {front : List (List Char)} {text back : List Char}
    (hfront : ∀ line ∈ front, Text.IsEnded line)
    (htext : text = front.flatten ++ ((constantText name k).toList ++ '\n' :: back))
    (hcomments : Text.WithoutComments text) {tokens : List Token}
    (h : Token.tokenize text = .ok tokens) :
    ∃ before line behind, tokens = before ++ line ++ behind ∧
      (∀ t ∈ before ++ line, t.line ≤ 1 + front.length) ∧
      line.map Token.lexeme = [.word "const", .word "int", .word name, .punct .equal,
        .int (UInt64.ofNat k) false, .punct .semicolon] := by
  obtain ⟨s', hcuts, hend⟩ := tokenize_eq_ok_iff.1 h
  -- the place in front of the line
  obtain ⟨before, more, s, rfl, hbefore, hs, hmore⟩ : ∃ before more s, tokens = before ++ more ∧
      (init text).Cuts before s ∧ s.rest = (constantText name k).toList ++ '\n' :: back ∧
      s.Cuts more s' := by
    rcases front.eq_nil_or_concat' with rfl | ⟨front, last, rfl⟩
    · exact ⟨[], tokens, _, rfl, .done _, htext, hcuts⟩
    · obtain ⟨body, -, rfl⟩ := hfront last (by simp)
      have hrest : text = (front.flatten ++ body) ++
          '\n' :: ((constantText name k).toList ++ '\n' :: back) := by
        simp [htext]
      exact hcuts.exists_behind_newline hend hcomments.2 hrest
  -- the place behind its semicolon
  obtain ⟨line, s₂, hline, hs₂, hlexemes⟩ := (spells_constantText hname hk _).exists_cuts s hs
  obtain ⟨behind, rfl, -⟩ := hline.exists_rest hmore hend
  refine ⟨before, line, behind, by simp, fun t ht => ?_, hlexemes⟩
  have hcount : s₂.line = 1 + front.length := by
    obtain ⟨taken, htaken, hline⟩ := (hbefore.append hline).exists_append
    change text = taken ++ s₂.rest at htaken
    rw [htext, ← List.append_assoc, hs₂] at htaken
    rw [hline, ← List.append_cancel_right htaken, List.count_append, Text.count_flatten hfront,
      List.count_eq_zero_of_not_mem (newline_not_mem_constantText hname k)]
    rfl
  have hbounds := (hbefore.append hline).line_bounds.2 t ht
  omega

end Scanner

namespace Input

/-- Tokens with the lexemes of a line that declares an integer constant make such a line. -/
theorem exists_constantLine {name : String} {k : Nat} (hk : k < 2 ^ 32) {line : Input}
    (hline : line.map Documented.lexeme = [.word "const", .word "int", .word name,
      .punct .equal, .int (UInt64.ofNat k) false, .punct .semicolon]) :
    ∃ (value : Int64) (constant : ConstantLine name value), ∀ post,
      line ++ post = constant.input post := by
  have hbits : UInt64.ofNat k ≤ Int64.maxValue.toUInt64 := by
    rw [UInt64.le_iff_toNat_le, UInt64.toNat_ofNat_of_lt' (Nat.lt_trans hk (by decide))]
    exact Nat.le_trans (Nat.le_of_lt hk) (by decide)
  simp only [List.map_eq_cons_iff, List.map_eq_nil_iff] at hline
  obtain ⟨t₁, _, rfl, h₁, t₂, _, rfl, h₂, t₃, _, rfl, h₃, t₄, _, rfl, h₄, t₅, _, rfl, h₅, t₆, _,
    rfl, h₆, rfl⟩ := hline
  exact ⟨_, ⟨t₁, t₂, t₃, t₄, t₅, t₆, UInt64.ofNat k, h₁, h₂, h₃, h₄, h₅, h₆, if_pos hbits⟩,
    fun _ => rfl⟩

/-- An end of an input that is longer than the rest behind some tokens begins at one of them. -/
theorem exists_mem_of_suffix {pre post rest : Input} (h : rest <:+ pre ++ post)
    (hlength : post.length < rest.length) : ∃ t ∈ pre, ∃ more, rest = t :: more := by
  obtain ⟨taken, htaken⟩ := h
  rw [List.append_eq_append_iff] at htaken
  rcases htaken with ⟨more, rfl, rfl⟩ | ⟨more, -, rfl⟩
  · cases more with
    | nil => exact absurd hlength (Nat.lt_irrefl _)
    | cons t more => exact ⟨t, by simp, more ++ post, rfl⟩
  · rw [List.length_append] at hlength
    omega

end Input

namespace Fragment

open Lexeme (IsName)
open Scanner (constantText)

variable {fragment : Fragment} {scope scope' : Scope} {name : String} {k i : Nat}

/-- The tokens of a fragment without comments that shows a line `const int name = k;`: those up to
the end of the line stand no later than the line, and the last of them are the line. -/
theorem exists_constantLine_of_shows (hname : IsName name) (hk : k < 2 ^ 32)
    (hcomments : Text.WithoutComments fragment.text)
    (hshows : fragment.Shows i ((constantText name k).toList ++ ['\n'])) {tokens : List Token}
    (htokens : Token.tokenize fragment.text = .ok tokens) :
    ∃ (pre post : Input) (value : Int64) (constant : Input.ConstantLine name value),
      Input.ofTokens tokens = pre ++ post ∧ (∀ t ∈ pre, fragment.line + (t.line - 1) ≤ i) ∧
        constant.InFront post (Input.ofTokens tokens) := by
  rw [Shows, Text.mem_zipIdx_iff_exists_append] at hshows
  obtain ⟨front, back, hlines, hi⟩ := hshows
  have hfront : ∀ line ∈ front, Text.IsEnded line :=
    Text.AreLines.isEnded_of_append (hlines ▸ Text.areLines_lines fragment.text)
  have htext : fragment.text =
      front.flatten ++ ((constantText name k).toList ++ '\n' :: back.flatten) := by
    rw [← Text.flatten_lines fragment.text, hlines]
    simp
  obtain ⟨before, line, behind, rfl, hle, hlexemes⟩ :=
    Scanner.exists_tokens_of_constantText hname (Nat.lt_trans hk (by decide)) hfront htext hcomments
      htokens
  obtain ⟨s, hcuts, -⟩ := Scanner.tokenize_eq_ok_iff.1 htokens
  -- no comment joins a token, so the input has the tokens one by one
  have hinput := Input.ofTokens_eq_map (hcuts.lexeme_ne_doc hcomments.1)
  have hline : (line.map Documented.ofToken).map Documented.lexeme = _ :=
    (List.map_map ..).trans hlexemes
  obtain ⟨value, constant, hconstant⟩ := Input.exists_constantLine hk hline
  refine ⟨(before ++ line).map Documented.ofToken, behind.map Documented.ofToken, value, constant,
    ?_, ?_, ?_⟩
  · rw [hinput, List.map_append]
  · intro t ht
    obtain ⟨token, htoken, rfl⟩ := List.mem_map.1 ht
    have hbound := hle token htoken
    change fragment.line + (token.line - 1) ≤ i
    omega
  · rw [hinput, List.map_append, List.map_append, List.append_assoc, hconstant]
    exact List.suffix_append _ _

/-- A fragment without comments that shows a line `const int name = k;` fails no later than at that
line or for another cause than the constant, and if it does not fail, the constant is in scope. -/
theorem parse_of_shows_constantText (hname : IsName name) (hk : k < 2 ^ 32)
    (hcomments : Text.WithoutComments fragment.text)
    (hshows : fragment.Shows i ((constantText name k).toList ++ ['\n']))
    {result : Except ParseFailure (List Declaration)}
    (h : parse scope fragment = (scope', result)) :
    (∀ failed found, result = .error failed → i < failed.line →
        failed.fault ≠ .stuck (.unknownSize name) found) ∧
      ∀ declarations, result = .ok declarations → scope'.constant? name ≠ none := by
  unfold parse at h
  split at h
  · cases h
    refine ⟨?_, by simp⟩
    rintro _ found ⟨⟩ -
    exact ParseFault.noConfusion
  · rename_i tokens htokens
    obtain ⟨pre, post, value, constant, hinput, hle, hinFront⟩ :=
      exists_constantLine_of_shows hname hk hcomments hshows htokens
    obtain ⟨hstuck, hscope⟩ := hinFront.readDeclarations scope fragment.condition
      fragment.line [] rfl
    dsimp only at h
    split at h
    · rename_i e he
      cases h
      refine ⟨?_, by simp⟩
      rintro _ found ⟨⟩ hlt hfault
      rcases hstuck e he with hlength | hcause
      · -- the token at which the reader got stuck stands no later than the line
        have hsuffix := (Input.stuck_readDeclarations he).1
        rw [hinput] at hsuffix
        obtain ⟨t, ht, more, hrest⟩ := Input.exists_mem_of_suffix hsuffix hlength
        have hline := hle t ht
        rw [failure, hrest] at hlt
        exact absurd hlt (Nat.not_lt.2 hline)
      · exact hcause (ParseFault.stuck.inj hfault).1
    · rename_i hnone
      cases h
      exact ⟨by simp, fun _ _ => hscope hnone⟩

end Fragment

end GlslPrelude
