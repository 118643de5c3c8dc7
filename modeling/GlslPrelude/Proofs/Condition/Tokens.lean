import GlslPrelude.Proofs.Condition.RoundTrip

/-!
# The tokens of conditions

`IsCut` says how a text is cut into tokens, with numbers of any size. The reader of tokens yields
these tokens, and fails exactly if there are none or one of the numbers does not fit a word
(`tokenize_eq_ok_iff`).
-/

namespace GlslPrelude

namespace Condition

/-- The operators and parentheses as they are written. -/
inductive IsMark : List Char → Token → Prop
  | leftParen : IsMark ['('] .leftParen
  | rightParen : IsMark [')'] .rightParen
  | not : IsMark ['!'] .not
  | or : IsMark ['|', '|'] .or
  | and : IsMark ['&', '&'] .and

/-- A text is cut into tokens. Words and numbers are as long as possible; numbers have any size. -/
inductive IsCut : List Char → List Token → Prop
  | nil : IsCut [] []
  | separator {c : Char} {rest : List Char} {tokens : List Token} :
      isSeparator c = true → IsCut rest tokens → IsCut (c :: rest) tokens
  | mark {mark rest : List Char} {token : Token} {tokens : List Token} :
      IsMark mark token → IsCut rest tokens → IsCut (mark ++ rest) (token :: tokens)
  | number {c : Char} {digits rest : List Char} {tokens : List Token} :
      c.isDigit = true → (∀ d ∈ digits, d.isDigit = true) →
      (∀ d ∈ rest.head?, d.isDigit = false) → IsCut rest tokens →
      IsCut (c :: digits ++ rest) (.number (Digits.toNat 10 (c :: digits)) :: tokens)
  | word {c : Char} {word rest : List Char} {tokens : List Token} :
      startsWord c = true → (∀ d ∈ word, continuesWord d = true) → EndsWord rest →
      IsCut rest tokens →
      IsCut (c :: word ++ rest) (.word (String.ofList (c :: word)) :: tokens)

/-- All numbers among the tokens fit an unsigned 64-bit word. -/
def FitWords (tokens : List Token) : Prop :=
  ∀ n, .number n ∈ tokens → n < Digits.wordLimit

section Tokens

variable {text cs rest : List Char} {token : Token} {tokens : List Token} {n : Nat} {c : Char}

/-- A token that is no number does not matter. -/
theorem fitWords_cons_iff_of_ne (h : ∀ n, token ≠ .number n) :
    FitWords (token :: tokens) ↔ FitWords tokens := by
  refine forall_congr' fun n => ?_
  rw [List.mem_cons, or_iff_right (h n).symm]

/-- A number has to fit, and so have those behind it. -/
theorem fitWords_number_cons_iff :
    FitWords (.number n :: tokens) ↔ n < Digits.wordLimit ∧ FitWords tokens := by
  simp only [FitWords, List.mem_cons, Token.number.injEq, forall_eq_or_imp]

/-- The numbers behind some tokens fit if all do. -/
theorem FitWords.of_append {front : List Token} (h : FitWords (front ++ tokens)) :
    FitWords tokens := by
  intro n hn
  exact h n (List.mem_append_right front hn)

/-- The numbers behind a token fit if all do. -/
theorem FitWords.of_cons (h : FitWords (token :: tokens)) : FitWords tokens := by
  intro n hn
  exact h n (List.mem_cons_of_mem token hn)

/-- No number is written as a mark. -/
theorem IsMark.ne_number {mark : List Char} (h : IsMark mark token) (n : Nat) :
    token ≠ .number n := by
  cases h <;> simp

/-- A mark is a token. -/
theorem IsMark.tokenize {mark : List Char} (hmark : IsMark mark token)
    (h : Condition.tokenize rest = .ok tokens) :
    Condition.tokenize (mark ++ rest) = .ok (token :: tokens) := by
  cases hmark with
  | leftParen => exact tokenize_leftParen h
  | rightParen => exact tokenize_rightParen h
  | not => exact tokenize_not h
  | or => exact tokenize_or h
  | and => exact tokenize_and h

/-- What is read with a token in front is read without it. -/
theorem exists_of_cons_eq_ok {reading : Except Malformation (List Token)}
    (h : (do return token :: (← reading)) = .ok tokens) :
    ∃ more, reading = .ok more ∧ tokens = token :: more := by
  cases reading with
  | error e => cases h
  | ok more =>
      cases h
      exact ⟨more, rfl, rfl⟩

/-- A digit and the digits that follow it are a number. -/
theorem IsCut.number_of_dropWhile (hc : c.isDigit = true)
    (h : IsCut (cs.dropWhile Char.isDigit) tokens) :
    IsCut (c :: cs) (.number (Digits.toNat 10 (c :: cs.takeWhile Char.isDigit)) :: tokens) := by
  have hdigits : ∀ d ∈ cs.takeWhile Char.isDigit, d.isDigit = true :=
    List.all_eq_true.1 List.all_takeWhile
  -- the digits end where a character that is no digit follows
  have hcut := IsCut.number hc hdigits (forall_mem_head?_dropWhile Char.isDigit cs) h
  rwa [List.cons_append, List.takeWhile_append_dropWhile] at hcut

/-- A letter or underscore and the characters that continue it are a word. -/
theorem IsCut.word_of_dropWhile (hc : startsWord c = true)
    (h : IsCut (cs.dropWhile continuesWord) tokens) :
    IsCut (c :: cs) (.word (String.ofList (c :: cs.takeWhile continuesWord)) :: tokens) := by
  have hword : ∀ d ∈ cs.takeWhile continuesWord, continuesWord d = true :=
    List.all_eq_true.1 List.all_takeWhile
  have hcut := IsCut.word hc hword (forall_mem_head?_dropWhile continuesWord cs) h
  rwa [List.cons_append, List.takeWhile_append_dropWhile] at hcut

/-- If the tokens that are read behind a mark are those of the text behind it, so are those that are
read with the mark. -/
theorem IsMark.isCut_of_tokenize {mark : List Char} (hmark : IsMark mark token)
    (ih : ∀ more, Condition.tokenize rest = .ok more → IsCut rest more ∧ FitWords more)
    (h : (do return token :: (← Condition.tokenize rest)) = .ok tokens) :
    IsCut (mark ++ rest) tokens ∧ FitWords tokens := by
  obtain ⟨more, hmore, rfl⟩ := exists_of_cons_eq_ok h
  obtain ⟨hcut, hfit⟩ := ih more hmore
  exact ⟨.mark hmark hcut, (fitWords_cons_iff_of_ne hmark.ne_number).2 hfit⟩

/-- The tokens that are read are those the text is cut into. -/
theorem isCut_of_tokenize (h : tokenize text = .ok tokens) :
    IsCut text tokens ∧ FitWords tokens := by
  fun_induction tokenize text generalizing tokens with
  | case1 =>
      cases h
      exact ⟨.nil, by simp [FitWords]⟩
  | case2 cs ih => exact IsMark.leftParen.isCut_of_tokenize (fun _ => ih) h
  | case3 cs ih => exact IsMark.rightParen.isCut_of_tokenize (fun _ => ih) h
  | case4 cs ih => exact IsMark.not.isCut_of_tokenize (fun _ => ih) h
  | case5 cs ih => exact IsMark.or.isCut_of_tokenize (fun _ => ih) h
  | case6 cs ih => exact IsMark.and.isCut_of_tokenize (fun _ => ih) h
  | case7 c cs _ _ _ _ _ hc ih => exact ⟨.separator hc (ih h).1, (ih h).2⟩
  | case8 =>
      rename_i hc _ hvalue ih
      obtain ⟨more, hmore, rfl⟩ := exists_of_cons_eq_ok h
      exact ⟨.number_of_dropWhile hc (ih hmore).1,
        fitWords_number_cons_iff.2 ⟨hvalue, (ih hmore).2⟩⟩
  | case10 c cs _ _ _ _ _ _ _ hc ih =>
      obtain ⟨more, hmore, rfl⟩ := exists_of_cons_eq_ok h
      exact ⟨.word_of_dropWhile hc (ih hmore).1,
        (fitWords_cons_iff_of_ne (by simp)).2 (ih hmore).2⟩
  | case9 | case11 => cases h

/-- A text that is cut into tokens whose numbers fit is read as these tokens. -/
theorem IsCut.tokenize_eq_ok (h : IsCut text tokens) (hfit : FitWords tokens) :
    tokenize text = .ok tokens := by
  induction h with
  | nil => exact tokenize_nil
  | separator hc _ ih => exact tokenize_separator hc (ih hfit)
  | mark hmark _ ih => exact hmark.tokenize (ih ((fitWords_cons_iff_of_ne hmark.ne_number).1 hfit))
  | number hc hdigits hrest _ ih =>
      obtain ⟨hlimit, hfit⟩ := fitWords_number_cons_iff.1 hfit
      exact tokenize_number hc hdigits hlimit hrest (ih hfit)
  | word hc hword hrest _ ih =>
      exact tokenize_word hc hword hrest (ih ((fitWords_cons_iff_of_ne (by simp)).1 hfit))

/-- A text is read as the tokens that it is cut into, unless a number is too large. -/
theorem tokenize_eq_ok_iff : tokenize text = .ok tokens ↔ IsCut text tokens ∧ FitWords tokens :=
  ⟨isCut_of_tokenize, fun h => h.1.tokenize_eq_ok h.2⟩

end Tokens

end Condition

end GlslPrelude
