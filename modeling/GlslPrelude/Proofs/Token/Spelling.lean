import GlslPrelude.Proofs.Text.Digits
import GlslPrelude.Proofs.Text.Spans
import GlslPrelude.Proofs.Token.Cuts
import Mathlib.Data.List.Basic

/-!
# Texts of tokens

What is cut off a text that begins with a blank, a mark, a name or an integer. A name or an integer
is cut off as a whole if what follows does not run on.
-/

namespace GlslPrelude

namespace Lexeme

variable {cs rest digits : List Char}

/-- The text is a name. -/
def IsName (w : String) : Prop :=
  ∃ c cs, w = String.ofList (c :: cs) ∧ startsName c = true ∧ cs.all continuesName = true

/-- A name by its first character and the others. -/
theorem isName_iff {w : String} :
    IsName w ↔ w.toList.head?.any startsName = true ∧ w.toList.tail.all continuesName = true := by
  constructor
  · rintro ⟨c, cs, rfl, hc, hcs⟩
    rw [String.toList_ofList]
    exact ⟨hc, hcs⟩
  · rintro ⟨hc, hcs⟩
    cases htext : w.toList with
    | nil => simp [htext] at hc
    | cons c cs =>
        rw [htext] at hc hcs
        exact ⟨c, cs, by rw [← htext, String.ofList_toList], hc, hcs⟩

instance (w : String) : Decidable (IsName w) :=
  decidable_of_iff _ isName_iff.symm

/-- The text does not run on from a name or number in front of it. -/
def EndsToken (rest : List Char) : Prop :=
  ∀ c ∈ rest.head?, continuesName c = false ∧ c ≠ '.'

/-- A space does not run on. -/
theorem endsToken_space (cs : List Char) : EndsToken (' ' :: cs) := by
  rintro c ⟨⟩
  decide

/-- A mark does not run on. -/
theorem endsToken_mark (p : Punct) (cs : List Char) : EndsToken (p.char :: cs) := by
  rintro c ⟨⟩
  cases p <;> decide

/-- A digit continues a name. -/
theorem continuesName_of_isDigit {c : Char} (h : c.isDigit = true) : continuesName c = true := by
  simp [continuesName, Char.isAlphanum, h]

/-- What starts a name continues one. -/
theorem continuesName_of_startsName {c : Char} (h : startsName c = true) :
    continuesName c = true := by
  simp only [startsName, Bool.or_eq_true] at h
  simp only [continuesName, Char.isAlphanum, Bool.or_eq_true]
  tauto

/-- A digit starts no name. -/
theorem startsName_of_isDigit {c : Char} (h : c.isDigit = true) : startsName c = false := by
  rw [← Bool.not_eq_true]
  intro hname
  have hletter := Text.toNat_of_startsName hname
  have hdigit := Text.isDigit_iff_toNat.1 h
  omega

/-- Characters of names are other characters than those that occur in none. -/
theorem ne_of_continuesName {c d : Char} (hc : continuesName c = true)
    (hd : continuesName d = false) : c ≠ d := by
  rintro rfl
  rw [hc] at hd
  contradiction

/-- Characters of names are no marks. -/
theorem ofChar?_of_continuesName {c : Char} (h : continuesName c = true) :
    Punct.ofChar? c = none := by
  rw [Option.eq_none_iff_forall_not_mem]
  intro p hp
  exact ne_of_continuesName h (d := p.char) (by cases p <;> rfl) (Punct.ofChar?_eq_some_iff.1 hp)

/-- A literal ends where the text does not run on. -/
theorem finishNumber_of_endsToken (l : Lexeme) (h : EndsToken rest) :
    finishNumber l rest = .ok (l, rest) := by
  unfold finishNumber
  split
  · rw [if_neg (by simp [(h _ rfl).1])]
  · rfl

/-- The text of digits is read as an integer if no other part of a number follows. -/
theorem readNumber_digits (hne : digits ≠ []) (hdigits : ∀ d ∈ digits, d.isDigit = true)
    (hrest : ∀ c ∈ rest.head?, c.isDigit = false ∧ c ∉ ['.', 'e', 'E', 'x', 'X']) :
    readNumber (digits ++ rest) = readInt digits rest := by
  have hspan : ∀ c ∈ rest.head?, c.isDigit = false := fun c hc => (hrest c hc).1
  have hfraction : readFraction rest = (none, rest) := by
    unfold readFraction
    split
    · exact absurd (hrest '.' rfl).2 (by decide)
    · rfl
  have hexponent : readExponent rest = (none, rest) := by
    unfold readExponent
    split
    · exact absurd (hrest 'e' rfl).2 (by decide)
    · exact absurd (hrest 'E' rfl).2 (by decide)
    · rfl
  -- what stands behind a zero is a digit or follows the number
  have hhex : ∀ c cs, digits ++ rest = '0' :: c :: cs → c ≠ 'x' ∧ c ≠ 'X' := by
    intro c cs heq
    match digits, hne, hdigits, heq with
    | [d], _, _, heq =>
        rw [List.singleton_append] at heq
        have hc := (hrest c (by rw [(List.cons.inj heq).2]; rfl)).2
        simp only [List.mem_cons, not_or] at hc
        exact ⟨hc.2.2.2.1, hc.2.2.2.2.1⟩
    | d :: e :: _, _, hdigits, heq =>
        have hc : e = c := (List.cons.inj (List.cons.inj heq).2).1
        have hdigit := hdigits c (by simp [hc])
        constructor <;> rintro rfl <;> exact absurd hdigit (by decide)
  unfold readNumber
  split
  · rename_i heq
    exact absurd rfl (hhex _ _ heq).1
  · rename_i heq
    exact absurd rfl (hhex _ _ heq).2
  · rw [takeWhile_append_eq hdigits hspan, dropWhile_append_eq hdigits hspan]
    dsimp only
    rw [hfraction, hexponent]
    rfl

/-- The digits of a number are read as its value. -/
theorem readInt_toDigits {n : Nat} (hn : n < Digits.wordLimit) :
    readInt (Nat.toDigits 10 n) rest = finishInt n rest := by
  unfold readInt
  split
  · rename_i heq
    cases Digits.eq_nil_of_toDigits_eq heq
  · dsimp only
    rw [Digits.toNat_toDigits, if_pos hn]

/-- A number is an integer or a floating-point number. -/
theorem cases_of_readNumber {l : Lexeme} (h : readNumber cs = .ok (l, rest)) :
    (∃ n isUnsigned, l = .int n isUnsigned) ∨ ∃ x, l = .float x := by
  have hint : ∀ {n cs}, finishInt n cs = .ok (l, rest) → ∃ n isUnsigned, l = .int n isUnsigned := by
    intro n cs h
    unfold finishInt at h
    split at h <;> exact ⟨_, _, (finishNumber_eq_ok h).1⟩
  unfold readNumber readHex finishDecimal readInt at h
  grind [→ finishNumber_eq_ok]

/-- Text of an integer. -/
def intText (n : Nat) (isUnsigned : Bool) : List Char :=
  Nat.toDigits 10 n ++ if isUnsigned then ['u'] else []

/-- The text of an integer is read as the integer. -/
theorem readNumber_intText {n : Nat} (isUnsigned : Bool) (hn : n < Digits.wordLimit)
    (hrest : EndsToken rest) :
    readNumber (intText n isUnsigned ++ rest) = .ok (.int (UInt64.ofNat n) isUnsigned, rest) := by
  have hname : ∀ c ∈ rest.head?, c ∉ ['.', 'e', 'E', 'x', 'X', 'u', 'U'] := by
    intro c hc hmem
    obtain ⟨hcontinues, hpoint⟩ := hrest c hc
    simp only [List.mem_cons, List.not_mem_nil, or_false] at hmem
    rcases hmem with rfl | rfl | rfl | rfl | rfl | rfl | rfl
    · exact hpoint rfl
    all_goals exact absurd hcontinues (by decide)
  have hdigit : ∀ c ∈ rest.head?, c.isDigit = false := by
    intro c hc
    rw [← Bool.not_eq_true]
    intro hdigit
    exact absurd (continuesName_of_isDigit hdigit) (by simp [(hrest c hc).1])
  rw [intText, List.append_assoc,
    readNumber_digits Nat.toDigits_ne_nil (Digits.isDigit_of_mem_toDigits n), readInt_toDigits hn]
  · cases isUnsigned with
    | true => exact finishNumber_of_endsToken _ hrest
    | false =>
        change finishInt n rest = _
        unfold finishInt
        split
        · exact absurd (hname 'u' rfl) (by decide)
        · exact absurd (hname 'U' rfl) (by decide)
        · exact finishNumber_of_endsToken _ hrest
  · cases isUnsigned with
    | true =>
        intro c hc
        obtain rfl : 'u' = c := Option.some.inj hc
        decide
    | false =>
        intro c hc
        refine ⟨hdigit c hc, fun hmem => hname c hc ?_⟩
        simp only [List.mem_cons, List.not_mem_nil, or_false] at hmem ⊢
        grind

end Lexeme

namespace Scanner

open Lexeme (IsName EndsToken)

/-- A name or number is what comes next where one begins. -/
theorem step_of_continuesName (s : Scanner) {c : Char} {cs : List Char}
    (hc : Lexeme.continuesName c = true) :
    s.step c cs = (readLexeme c cs).map fun r =>
      (some r.1, { s with rest := r.2, isLineStart := false }) := by
  -- the earlier cases of a step begin with characters that occur in no name
  have hother := fun d => Lexeme.ne_of_continuesName (d := d) hc
  have hspace : isSpace c = false := by
    simp only [isSpace, Bool.or_eq_false_iff, decide_eq_false_iff_not]
    exact ⟨⟨⟨hother ' ' rfl, hother '\t' rfl⟩, hother '\x0c' rfl⟩, hother '\r' rfl⟩
  unfold step
  rw [if_neg (hother '\n' rfl), hspace, if_neg (by decide)]
  split
  · exact absurd rfl (hother '/' rfl)
  · exact absurd rfl (hother '/' rfl)
  · cases readLexeme c cs <;> rfl

/-- What begins with a digit is a number. -/
theorem readLexeme_of_isDigit {c : Char} {cs : List Char} (hc : c.isDigit = true) :
    readLexeme c cs = Lexeme.readNumber (c :: cs) := by
  rw [readLexeme, Lexeme.ofChar?_of_continuesName (Lexeme.continuesName_of_isDigit hc)]
  dsimp only
  rw [Lexeme.startsName_of_isDigit hc, if_neg (by decide), hc]
  rfl

/-- On whatever line, the lexemes are cut off the text up to the part that is left; none of them is
a comment. -/
structure Spells (text : List Char) (lexemes : List Lexeme) (rest : List Char) : Prop where
  /-- The text is cut into tokens with the lexemes. -/
  exists_cuts : ∀ s : Scanner, s.rest = text →
    ∃ tokens s', s.Cuts tokens s' ∧ s'.rest = rest ∧ tokens.map Token.lexeme = lexemes
  /-- No lexeme is a comment. -/
  doc_not_mem : ∀ comment, .doc comment ∉ lexemes

namespace Spells

variable {cs rest : List Char} {lexemes : List Lexeme}

/-- Nothing is cut off. -/
theorem done (rest : List Char) : Spells rest [] rest where
  exists_cuts s hrest := ⟨[], s, .done s, hrest, rfl⟩
  doc_not_mem := by simp

/-- A space is skipped. -/
theorem space (h : Spells cs lexemes rest) : Spells (' ' :: cs) lexemes rest where
  exists_cuts s hs := by
    obtain ⟨tokens, s', hcuts, hrest, rfl⟩ := h.exists_cuts { s with rest := cs } rfl
    exact ⟨tokens, s', .skip hs rfl hcuts, hrest, rfl⟩
  doc_not_mem := h.doc_not_mem

/-- A newline is skipped. -/
theorem newline (h : Spells cs lexemes rest) : Spells ('\n' :: cs) lexemes rest where
  exists_cuts s hs := by
    obtain ⟨tokens, s', hcuts, hrest, rfl⟩ :=
      h.exists_cuts { rest := cs, line := s.line + 1, isLineStart := true } rfl
    exact ⟨tokens, s', .skip hs rfl hcuts, hrest, rfl⟩
  doc_not_mem := h.doc_not_mem

/-- A name or number is cut off. -/
theorem lexeme {c : Char} {ds : List Char} {l : Lexeme} (hc : Lexeme.continuesName c = true)
    (hread : readLexeme c ds = .ok (l, cs)) (hl : ∀ comment, l ≠ .doc comment)
    (h : Spells cs lexemes rest) : Spells (c :: ds) (l :: lexemes) rest where
  exists_cuts s hs := by
    have hstep : s.step c ds = .ok (some l, { s with rest := cs, isLineStart := false }) := by
      rw [step_of_continuesName s hc, hread]
      rfl
    obtain ⟨tokens, s', hcuts, hrest, rfl⟩ :=
      h.exists_cuts { s with rest := cs, isLineStart := false } rfl
    exact ⟨_, s', .token hs hstep hcuts, hrest, rfl⟩
  doc_not_mem comment := by
    rw [List.mem_cons, not_or]
    exact ⟨(hl comment).symm, h.doc_not_mem comment⟩

/-- A mark is cut off. -/
theorem mark (p : Punct) (h : Spells cs lexemes rest) :
    Spells (p.char :: cs) (.punct p :: lexemes) rest where
  exists_cuts s hs := by
    have hstep : s.step p.char cs =
        .ok (some (.punct p), { s with rest := cs, isLineStart := false }) := by
      cases p <;> rfl
    obtain ⟨tokens, s', hcuts, hrest, rfl⟩ :=
      h.exists_cuts { s with rest := cs, isLineStart := false } rfl
    exact ⟨_, s', .token hs hstep hcuts, hrest, rfl⟩
  doc_not_mem comment := by simpa using h.doc_not_mem comment

/-- A name that the text does not continue is cut off. -/
theorem word {w : String} (hw : IsName w) (hcs : EndsToken cs) (h : Spells cs lexemes rest) :
    Spells (w.toList ++ cs) (.word w :: lexemes) rest := by
  obtain ⟨c, name, rfl, hc, hname⟩ := hw
  have hspan := List.all_eq_true.1 hname
  have hrest : ∀ d ∈ cs.head?, Lexeme.continuesName d = false := fun d hd => (hcs d hd).1
  have hcontinues := Lexeme.continuesName_of_startsName hc
  rw [String.toList_ofList, List.cons_append]
  refine lexeme hcontinues ?_ (by simp) h
  rw [readLexeme, Lexeme.ofChar?_of_continuesName hcontinues]
  dsimp only
  rw [if_pos hc, takeWhile_append_eq hspan hrest, dropWhile_append_eq hspan hrest]

/-- An integer that the text does not continue is cut off. -/
theorem int {n : Nat} (isUnsigned : Bool) (hn : n < Digits.wordLimit) (hcs : EndsToken cs)
    (h : Spells cs lexemes rest) :
    Spells (Lexeme.intText n isUnsigned ++ cs) (.int (UInt64.ofNat n) isUnsigned :: lexemes)
      rest := by
  have hread := Lexeme.readNumber_intText isUnsigned hn hcs
  cases htext : Lexeme.intText n isUnsigned ++ cs with
  | nil => simp [Lexeme.intText] at htext
  | cons c ds =>
      have hdigit : c.isDigit = true := by
        refine Digits.isDigit_of_mem_toDigits n c ?_
        rw [Lexeme.intText, List.append_assoc] at htext
        exact List.mem_of_mem_head? (by
          rw [← List.head?_append_of_ne_nil _ Nat.toDigits_ne_nil, htext]
          rfl)
      refine lexeme (Lexeme.continuesName_of_isDigit hdigit) ?_ (by simp) h
      rw [readLexeme_of_isDigit hdigit, ← htext, hread]

/-- A text that is cut to its end has the tokens with the lexemes. -/
theorem tokenize {text : List Char} (h : Spells text lexemes []) :
    ∃ tokens, Token.tokenize text = .ok tokens ∧ tokens.map Token.lexeme = lexemes := by
  obtain ⟨tokens, s, hcuts, hrest, hlexemes⟩ := h.exists_cuts (init text) rfl
  exact ⟨tokens, tokenize_eq_ok_iff.2 ⟨s, hcuts, hrest⟩, hlexemes⟩

end Spells

/-! ## Words of a text -/

/-- What is read from the text is a mark, a name or a number. -/
theorem cases_of_readLexeme {c : Char} {cs rest : List Char} {l : Lexeme}
    (h : readLexeme c cs = .ok (l, rest)) :
    (∃ p, l = .punct p) ∨ (∃ w, l = .word w ∧ IsName w) ∨ (∃ n isUnsigned, l = .int n isUnsigned) ∨
      ∃ x, l = .float x := by
  unfold readLexeme at h
  split at h
  · cases h
    exact .inl ⟨_, rfl⟩
  · split at h
    · rename_i hc
      cases h
      exact .inr (.inl ⟨_, rfl, c, _, rfl, hc, List.all_takeWhile⟩)
    · split at h
      · exact .inr (.inr (Lexeme.cases_of_readNumber h))
      · cases h

/-- Every word that is cut off is a name. -/
theorem Cuts.isName {s s' : Scanner} {tokens : List Token} (h : s.Cuts tokens s') :
    ∀ t ∈ tokens, ∀ w, t.lexeme = .word w → IsName w := by
  induction h with
  | done => simp
  | skip _ _ _ ih => exact ih
  | token _ hstep _ ih =>
      rw [List.forall_mem_cons]
      refine ⟨?_, ih⟩
      rintro w rfl
      cases step_of_eq_ok hstep with
      | lineComment hdoc => split at hdoc <;> cases hdoc
      | lexeme _ hread =>
          rcases cases_of_readLexeme hread with ⟨p, hl⟩ | ⟨w', hl, hname⟩ | ⟨n, isUnsigned, hl⟩ |
            ⟨x, hl⟩ <;> cases hl
          exact hname

/-- Every word of a text is a name. -/
theorem isName_of_tokenize {text : List Char} {tokens : List Token}
    (h : Token.tokenize text = .ok tokens) : ∀ t ∈ tokens, ∀ w, t.lexeme = .word w → IsName w := by
  obtain ⟨s, hcuts, -⟩ := tokenize_eq_ok_iff.1 h
  exact hcuts.isName

end Scanner

end GlslPrelude
