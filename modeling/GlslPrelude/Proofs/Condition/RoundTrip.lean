import GlslPrelude.Condition.Parser
import GlslPrelude.Condition.Printer
import GlslPrelude.Proofs.Condition.NormalForm
import GlslPrelude.Proofs.Text.Spans

/-!
# Conditions that are written and read again

The text of a condition is cut into its `spelling` (`tokenize_render`), and the spelling is read as
the simplified condition (`isRead`). So what is read means the same and is the same tree
for normal conditions alone (`parse_render`).
-/

namespace GlslPrelude

/-- A flag is found by its macro. -/
theorem Flag.ofMacroName?_macroName (f : Flag) : ofMacroName? f.macroName = some f := by
  have hall : ∀ g ∈ elements Flag, ofMacroName? g.macroName = some g := by decide +kernel
  exact hall f (mem_elements f)

/-- A macro refers to a flag exactly if it is the flag's macro. -/
theorem Flag.ofMacroName?_eq_some_iff {name : String} {f : Flag} :
    ofMacroName? name = some f ↔ name = f.macroName := by
  constructor
  · intro h
    have hname := List.find?_some (p := fun g : Flag => g.macroName == name) h
    exact (eq_of_beq hname).symm
  · rintro rfl
    exact ofMacroName?_macroName f

namespace Condition

/-! ## Spelling -/

/-- The tokens of an operand, in parentheses unless the operand is atomic. -/
def group (p : Condition) (tokens : List Token) : List Token :=
  if p.isAtomic then tokens else .leftParen :: (tokens ++ [.rightParen])

mutual

/-- The tokens that the text of the condition consists of. -/
def spelling : Condition → List Token
  | .always => [.number 1]
  | .flag f => [.word f.macroName]
  | .not p => .not :: p.group p.spelling
  | .all [] => [.number 1]
  | .any [] => [.number 0]
  | .all (p :: ps) => p.group p.spelling ++ spellTerms .and ps
  | .any (p :: ps) => p.group p.spelling ++ spellTerms .or ps

/-- The tokens of the terms that follow the first one, each behind the operator. -/
def spellTerms (operator : Token) : List Condition → List Token
  | [] => []
  | p :: ps => operator :: (p.group p.spelling ++ spellTerms operator ps)

end

/-! ## Cutting the text -/

section Tokenize

variable {rest : List Char} {tokens : List Token}

/-- The text does not continue a word or number. -/
def EndsWord (rest : List Char) : Prop :=
  ∀ c ∈ rest.head?, continuesWord c = false

/-- A character that starts a word is no digit. -/
theorem isDigit_of_startsWord {c : Char} (hc : startsWord c = true) : c.isDigit = false := by
  rw [← Bool.not_eq_true]
  intro hdigit
  have hletter := Text.toNat_of_startsName hc
  have hdigit := Text.isDigit_iff_toNat.1 hdigit
  omega

/-- A character that starts a word is no separator. -/
theorem isSeparator_of_startsWord {c : Char} (hc : startsWord c = true) :
    isSeparator c = false := by
  simp only [isSeparator, Bool.or_eq_false_iff, decide_eq_false_iff_not]
  refine ⟨⟨?_, ?_⟩, ?_⟩ <;> rintro rfl <;> exact absurd hc (by decide)

/-- A digit continues a word. -/
theorem continuesWord_of_isDigit {c : Char} (hc : c.isDigit = true) : continuesWord c = true := by
  simp [continuesWord, Char.isAlphanum, hc]

/-- A text that does not continue a word does not continue a number. -/
theorem EndsWord.isDigit (hrest : EndsWord rest) : ∀ d ∈ rest.head?, d.isDigit = false := by
  intro d hd
  cases hdigit : d.isDigit with
  | false => rfl
  | true =>
      have hword := hrest d hd
      rw [continuesWord_of_isDigit hdigit] at hword
      contradiction

/-- A separator is skipped. -/
theorem tokenize_separator {c : Char} (hc : isSeparator c = true) (h : tokenize rest = .ok tokens) :
    tokenize (c :: rest) = .ok tokens := by
  have hother : ∀ d, isSeparator d = false → c ≠ d := by
    rintro d hd rfl
    rw [hc] at hd
    contradiction
  rw [tokenize]
  · rw [hc]
    exact h
  · exact hother '(' (by decide)
  · exact hother ')' (by decide)
  · exact hother '!' (by decide)
  · exact fun _ hbar _ => hother '|' (by decide) hbar
  · exact fun _ hand _ => hother '&' (by decide) hand

/-- A space is skipped. -/
theorem tokenize_space (h : tokenize rest = .ok tokens) : tokenize (' ' :: rest) = .ok tokens :=
  tokenize_separator (by decide) h

/-- An opening parenthesis is a token. -/
theorem tokenize_leftParen (h : tokenize rest = .ok tokens) :
    tokenize ('(' :: rest) = .ok (.leftParen :: tokens) := by
  rw [tokenize, h]
  rfl

/-- A closing parenthesis is a token. -/
theorem tokenize_rightParen (h : tokenize rest = .ok tokens) :
    tokenize (')' :: rest) = .ok (.rightParen :: tokens) := by
  rw [tokenize, h]
  rfl

/-- An exclamation mark is a token. -/
theorem tokenize_not (h : tokenize rest = .ok tokens) :
    tokenize ('!' :: rest) = .ok (.not :: tokens) := by
  rw [tokenize, h]
  rfl

/-- Two ampersands are a token. -/
theorem tokenize_and (h : tokenize rest = .ok tokens) :
    tokenize ('&' :: '&' :: rest) = .ok (.and :: tokens) := by
  rw [tokenize, h]
  rfl

/-- Two bars are a token. -/
theorem tokenize_or (h : tokenize rest = .ok tokens) :
    tokenize ('|' :: '|' :: rest) = .ok (.or :: tokens) := by
  rw [tokenize, h]
  rfl

/-- A word is a token if what follows does not continue it. -/
theorem tokenize_word {word : List Char} {c : Char} (hc : startsWord c = true)
    (hword : ∀ d ∈ word, continuesWord d = true) (hrest : EndsWord rest)
    (h : tokenize rest = .ok tokens) :
    tokenize (c :: word ++ rest) = .ok (.word (String.ofList (c :: word)) :: tokens) := by
  have hother : ∀ d, startsWord d = false → c ≠ d := by
    rintro d hd rfl
    rw [hc] at hd
    contradiction
  -- the earlier cases of `tokenize` are those of the marks, which start no word
  rw [List.cons_append, tokenize]
  · rw [isSeparator_of_startsWord hc, isDigit_of_startsWord hc, hc,
      takeWhile_append_eq hword hrest, dropWhile_append_eq hword hrest, h]
    rfl
  · exact hother '(' (by decide)
  · exact hother ')' (by decide)
  · exact hother '!' (by decide)
  · exact fun _ hbar _ => hother '|' (by decide) hbar
  · exact fun _ hand _ => hother '&' (by decide) hand

/-- Digits are a number if what follows does not continue them. -/
theorem tokenize_number {digits : List Char} {c : Char} (hc : c.isDigit = true)
    (hdigits : ∀ d ∈ digits, d.isDigit = true)
    (hlimit : Digits.toNat 10 (c :: digits) < Digits.wordLimit)
    (hrest : ∀ d ∈ rest.head?, d.isDigit = false) (h : tokenize rest = .ok tokens) :
    tokenize (c :: digits ++ rest) = .ok (.number (Digits.toNat 10 (c :: digits)) :: tokens) := by
  have hother : ∀ d, d.isDigit = false → c ≠ d := by
    rintro d hd rfl
    rw [hc] at hd
    contradiction
  have hseparator : isSeparator c = false := by
    simp only [isSeparator, Bool.or_eq_false_iff, decide_eq_false_iff_not]
    exact ⟨⟨hother ' ' (by decide), hother '\t' (by decide)⟩, hother '\r' (by decide)⟩
  rw [List.cons_append, tokenize]
  · rw [hseparator, hc, takeWhile_append_eq hdigits hrest, dropWhile_append_eq hdigits hrest, h]
    dsimp only
    rw [if_pos hlimit]
    rfl
  · exact hother '(' (by decide)
  · exact hother ')' (by decide)
  · exact hother '!' (by decide)
  · exact fun _ hbar _ => hother '|' (by decide) hbar
  · exact fun _ hand _ => hother '&' (by decide) hand

/-- A macro is a word. -/
theorem exists_macroName (f : Flag) : ∃ c word, f.macroName = String.ofList (c :: word) ∧
    startsWord c = true ∧ word.all continuesWord = true := by
  rcases f with a | s | g
  · cases a <;> exact ⟨_, _, rfl, rfl, rfl⟩
  · cases s <;> exact ⟨_, _, rfl, rfl, rfl⟩
  · cases g <;> exact ⟨_, _, rfl, rfl, rfl⟩

/-- No macro is the word `defined`. -/
theorem macroName_ne_defined (f : Flag) : f.macroName ≠ "defined" := by
  have hall : ∀ g ∈ elements Flag, g.macroName ≠ "defined" := by decide +kernel
  exact hall f (mem_elements f)

/-- A macro is a token if what follows does not continue it. -/
theorem tokenize_macroName (f : Flag) (hrest : EndsWord rest) (h : tokenize rest = .ok tokens) :
    tokenize (f.macroName.toList ++ rest) = .ok (.word f.macroName :: tokens) := by
  obtain ⟨c, word, hname, hc, hword⟩ := exists_macroName f
  rw [hname, String.toList_ofList]
  exact tokenize_word hc (List.all_eq_true.1 hword) hrest h

/-- The separators of terms, with their tokens. -/
inductive IsSeparated : String → Token → Prop
  | and : IsSeparated " && " .and
  | or : IsSeparated " || " .or

/-- A separator is its token and ends a word. -/
theorem IsSeparated.tokenize {separator : String} {operator : Token}
    (hop : IsSeparated separator operator) (h : Condition.tokenize rest = .ok tokens) :
    Condition.tokenize (separator.toList ++ rest) = .ok (operator :: tokens) ∧
      EndsWord (separator.toList ++ rest) := by
  cases hop with
  | and =>
      exact ⟨tokenize_space (tokenize_and (tokenize_space h)), by simp [EndsWord, continuesWord]⟩
  | or => exact ⟨tokenize_space (tokenize_or (tokenize_space h)), by simp [EndsWord, continuesWord]⟩

/-- The text of a condition is cut into the condition's spelling, whatever text follows. -/
def IsSpelled (p : Condition) : Prop :=
  ∀ rest tokens, EndsWord rest → tokenize rest = .ok tokens →
    tokenize (p.render.toList ++ rest) = .ok (p.spelling ++ tokens)

/-- The text of an operand is cut into its tokens. -/
theorem IsSpelled.enclose {p : Condition} (hp : p.IsSpelled) (hrest : EndsWord rest)
    (h : tokenize rest = .ok tokens) :
    tokenize ((p.enclose p.render).toList ++ rest) = .ok (p.group p.spelling ++ tokens) := by
  unfold Condition.enclose group
  split
  · exact hp rest tokens hrest h
  · -- the closing parenthesis ends the word in front of it
    rw [String.toList_append, String.toList_append, List.append_assoc, List.append_assoc,
      List.cons_append, List.append_assoc]
    exact tokenize_leftParen (hp _ _ (by simp [EndsWord, continuesWord]) (tokenize_rightParen h))

end Tokenize

mutual

/-- The text of every condition is cut into its spelling. -/
theorem isSpelled (p : Condition) : p.IsSpelled := by
  match p with
  | .always | .all [] =>
      intro rest tokens hrest h
      exact tokenize_number (by decide) (List.forall_mem_nil _) (by decide) hrest.isDigit h
  | .any [] =>
      intro rest tokens hrest h
      exact tokenize_number (by decide) (List.forall_mem_nil _) (by decide) hrest.isDigit h
  | .flag f =>
      intro rest tokens hrest h
      exact tokenize_macroName f hrest h
  | .not p =>
      intro rest tokens hrest h
      rw [render, spelling, String.toList_append]
      exact tokenize_not ((isSpelled p).enclose hrest h)
  | .all (p :: ps) =>
      intro rest tokens hrest h
      obtain ⟨hterms, hends⟩ := tokenize_renderTerms .and ps hrest h
      rw [render, spelling, String.toList_append, List.append_assoc, List.append_assoc]
      exact (isSpelled p).enclose hends hterms
  | .any (p :: ps) =>
      intro rest tokens hrest h
      obtain ⟨hterms, hends⟩ := tokenize_renderTerms .or ps hrest h
      rw [render, spelling, String.toList_append, List.append_assoc, List.append_assoc]
      exact (isSpelled p).enclose hends hterms

/-- The text of terms behind a separator is cut into their tokens behind an operator. -/
theorem tokenize_renderTerms {rest : List Char} {tokens : List Token} {separator : String}
    {operator : Token} (hop : IsSeparated separator operator) (ps : List Condition)
    (hrest : EndsWord rest) (h : tokenize rest = .ok tokens) :
    tokenize ((renderTerms separator ps).toList ++ rest) = .ok (spellTerms operator ps ++ tokens) ∧
      EndsWord ((renderTerms separator ps).toList ++ rest) := by
  match ps with
  | [] => exact ⟨h, hrest⟩
  | p :: ps =>
      obtain ⟨hterms, hends⟩ := tokenize_renderTerms hop ps hrest h
      rw [renderTerms, spellTerms, String.toList_append, String.toList_append, List.append_assoc,
        List.append_assoc, List.cons_append, List.append_assoc]
      exact hop.tokenize ((isSpelled p).enclose hends hterms)

end

/-- The text of a condition is cut into its spelling. -/
theorem tokenize_render (p : Condition) : tokenize p.render.toList = .ok p.spelling := by
  have h := isSpelled p [] [] (by simp [EndsWord]) tokenize_nil
  rwa [List.append_nil, List.append_nil] at h

/-! ## Reading the tokens -/

/-- A reader of tokens reads a condition and leaves the given tokens. -/
def Reads {P : List Token → Prop} (reading : Except Fault (Condition × { rest // P rest }))
    (p : Condition) (rest : List Token) : Prop :=
  reading.map (fun result => (result.1, result.2.val)) = .ok (p, rest)

/-- What a reader reads and leaves is its result. -/
theorem Reads.eq_ok {P : List Token → Prop}
    {reading : Except Fault (Condition × { rest // P rest })} {p : Condition} {rest : List Token}
    (h : Reads reading p rest) : ∃ hrest, reading = .ok (p, ⟨rest, hrest⟩) := by
  match reading, h with
  | .ok (_, ⟨_, hrest⟩), h =>
      cases h
      exact ⟨hrest, rfl⟩

/-- The tokens do not join the condition in front of them to another one. -/
def EndsCondition (rest : List Token) : Prop :=
  ∀ t ∈ rest.head?, t ≠ .and ∧ t ≠ .or

/-- The tokens of a condition are read as the simplified condition, as a whole and as an operand. -/
structure IsRead (p : Condition) : Prop where
  /-- As a whole. -/
  whole (rest : List Token) : EndsCondition rest →
    Reads (readOr (p.spelling ++ rest)) p.simplify rest
  /-- As an operand. -/
  operand (rest : List Token) : Reads (readOperand (p.group p.spelling ++ rest)) p.simplify rest

section Readers

variable {p q : Condition} {ps : List Condition} {tokens rest rest' : List Token}

/-- A conjunction ends where no `&&` follows. -/
theorem readAndTail_of_ne (h : ∀ t ∈ tokens.head?, t ≠ .and) :
    Reads (readAndTail p tokens) p tokens := by
  rw [readAndTail]
  · rfl
  · rintro rest rfl
    exact h .and rfl rfl

/-- A disjunction ends where no `||` follows. -/
theorem readOrTail_of_ne (h : ∀ t ∈ tokens.head?, t ≠ .or) :
    Reads (readOrTail p tokens) p tokens := by
  rw [readOrTail]
  · rfl
  · rintro rest rfl
    exact h .or rfl rfl

/-- A conjunction is an operand and further terms. -/
theorem Reads.readAnd (h : Reads (readOperand tokens) p rest)
    (htail : Reads (readAndTail p rest) q rest') : Reads (readAnd tokens) q rest' := by
  obtain ⟨_, hread⟩ := h.eq_ok
  obtain ⟨_, hreadTail⟩ := htail.eq_ok
  rw [Condition.readAnd, hread]
  dsimp only
  rw [hreadTail]
  rfl

/-- A disjunction is a conjunction and further terms. -/
theorem Reads.readOr (h : Reads (Condition.readAnd tokens) p rest)
    (htail : Reads (readOrTail p rest) q rest') : Reads (readOr tokens) q rest' := by
  obtain ⟨_, hread⟩ := h.eq_ok
  obtain ⟨_, hreadTail⟩ := htail.eq_ok
  rw [Condition.readOr, hread]
  dsimp only
  rw [hreadTail]
  rfl

/-- A further term of a conjunction is an operand behind `&&`. -/
theorem Reads.readAndTail {left : Condition} (h : Reads (readOperand tokens) p rest)
    (htail : Reads (readAndTail (left.and p) rest) q rest') :
    Reads (readAndTail left (.and :: tokens)) q rest' := by
  obtain ⟨_, hread⟩ := h.eq_ok
  obtain ⟨_, hreadTail⟩ := htail.eq_ok
  rw [Condition.readAndTail, hread]
  dsimp only
  rw [hreadTail]
  rfl

/-- A further term of a disjunction is a conjunction behind `||`. -/
theorem Reads.readOrTail {left : Condition} (h : Reads (Condition.readAnd tokens) p rest)
    (htail : Reads (readOrTail (left.or p) rest) q rest') :
    Reads (readOrTail left (.or :: tokens)) q rest' := by
  obtain ⟨_, hread⟩ := h.eq_ok
  obtain ⟨_, hreadTail⟩ := htail.eq_ok
  rw [Condition.readOrTail, hread]
  dsimp only
  rw [hreadTail]
  rfl

/-- A condition in parentheses is an operand. -/
theorem Reads.parenthesized (h : Reads (Condition.readOr tokens) p (.rightParen :: rest)) :
    Reads (readOperand (.leftParen :: tokens)) p rest := by
  obtain ⟨_, hread⟩ := h.eq_ok
  rw [readOperand, hread]
  rfl

/-- An operand behind `!` is an operand. -/
theorem Reads.negated (h : Reads (readOperand tokens) p rest) :
    Reads (readOperand (.not :: tokens)) p.negate rest := by
  obtain ⟨_, hread⟩ := h.eq_ok
  rw [readOperand, hread]
  rfl

/-- A number is an operand. -/
theorem reads_number (n : Nat) (rest : List Token) :
    Reads (readOperand (.number n :: rest)) (if n = 0 then never else always) rest := by
  cases n with
  | zero =>
      rw [readOperand]
      rfl
  | succ n =>
      rw [readOperand]
      · rfl
      · simp

/-- A macro is an operand. -/
theorem reads_macroName (f : Flag) (rest : List Token) :
    Reads (readOperand (.word f.macroName :: rest)) (.flag f) rest := by
  rw [readOperand, ofMacro, Flag.ofMacroName?_macroName]
  · rfl
  · exact macroName_ne_defined f

/-- Terms behind `&&` are read into a conjunction. -/
theorem readAndTail_spellTerms (hps : ∀ q ∈ ps, q.IsRead) (left : Condition)
    (hrest : ∀ t ∈ rest.head?, t ≠ .and) :
    Reads (readAndTail left (spellTerms .and ps ++ rest)) (simplifyAll left ps) rest := by
  induction ps generalizing left with
  | nil => exact readAndTail_of_ne hrest
  | cons q qs ih =>
      rw [List.forall_mem_cons] at hps
      rw [spellTerms, List.cons_append, List.append_assoc]
      exact (hps.1.operand _).readAndTail (ih hps.2 _)

/-- Terms behind `||` do not join what stands in front of them to a conjunction. -/
theorem ne_and_of_mem_head?_spellTerms (hrest : EndsCondition rest) (ps : List Condition) :
    ∀ t ∈ (spellTerms .or ps ++ rest).head?, t ≠ .and := by
  cases ps with
  | nil => exact fun t ht => (hrest t ht).1
  | cons q qs => simp [spellTerms]

/-- Terms behind `||` are read into a disjunction. -/
theorem readOrTail_spellTerms (hps : ∀ q ∈ ps, q.IsRead) (left : Condition)
    (hrest : EndsCondition rest) :
    Reads (readOrTail left (spellTerms .or ps ++ rest)) (simplifyAny left ps) rest := by
  induction ps generalizing left with
  | nil => exact readOrTail_of_ne fun t ht => (hrest t ht).2
  | cons q qs ih =>
      rw [List.forall_mem_cons] at hps
      rw [spellTerms, List.cons_append, List.append_assoc]
      -- the tail of the conjunction that the term begins is empty
      have hand := readAndTail_of_ne (p := q.simplify) (ne_and_of_mem_head?_spellTerms hrest qs)
      exact ((hps.1.operand _).readAnd hand).readOrTail (ih hps.2 _)

/-- A condition that is an operand without parentheses is read as one. -/
theorem isRead_of_atomic (hatomic : p.isAtomic = true)
    (h : ∀ rest, Reads (readOperand (p.spelling ++ rest)) p.simplify rest) : p.IsRead where
  whole rest hrest := by
    have hand := (h rest).readAnd (readAndTail_of_ne fun t ht => (hrest t ht).1)
    exact hand.readOr (readOrTail_of_ne fun t ht => (hrest t ht).2)
  operand rest := by
    rw [group, if_pos hatomic]
    exact h rest

/-- Another condition is read as an operand in parentheses. -/
theorem isRead_of_not_atomic (hatomic : p.isAtomic = false)
    (h : ∀ rest, EndsCondition rest → Reads (readOr (p.spelling ++ rest)) p.simplify rest) :
    p.IsRead where
  whole := h
  operand rest := by
    rw [group, if_neg (by simp [hatomic]), List.cons_append, List.append_assoc,
      List.singleton_append]
    exact (h (.rightParen :: rest) (by simp [EndsCondition])).parenthesized

end Readers

mutual

/-- Every condition is read from its spelling. -/
theorem isRead (p : Condition) : p.IsRead := by
  match p with
  | .always | .all [] =>
      refine isRead_of_atomic rfl fun rest => ?_
      rw [spelling, List.cons_append, simplify]
      exact reads_number 1 rest
  | .any [] =>
      refine isRead_of_atomic rfl fun rest => ?_
      rw [spelling, List.cons_append, simplify]
      exact reads_number 0 rest
  | .flag f =>
      refine isRead_of_atomic rfl fun rest => ?_
      rw [spelling, List.cons_append, simplify]
      exact reads_macroName f rest
  | .not p =>
      refine isRead_of_atomic rfl fun rest => ?_
      rw [spelling, List.cons_append, simplify]
      exact ((isRead p).operand rest).negated
  | .all (p :: ps) =>
      refine isRead_of_not_atomic rfl fun rest hrest => ?_
      rw [spelling, List.append_assoc]
      -- the conjunction is read as the only term of a disjunction
      have hterms := readAndTail_spellTerms (forall_isRead ps) p.simplify fun t ht => (hrest t ht).1
      exact (((isRead p).operand _).readAnd hterms).readOr
        (readOrTail_of_ne fun t ht => (hrest t ht).2)
  | .any (p :: ps) =>
      refine isRead_of_not_atomic rfl fun rest hrest => ?_
      rw [spelling, List.append_assoc]
      -- the first term is read as a conjunction without further terms
      have hfirst := readAndTail_of_ne (p := p.simplify) (ne_and_of_mem_head?_spellTerms hrest ps)
      exact (((isRead p).operand _).readAnd hfirst).readOr
        (readOrTail_spellTerms (forall_isRead ps) p.simplify hrest)

/-- Every term is read from its spelling. -/
theorem forall_isRead (ps : List Condition) : ∀ p ∈ ps, p.IsRead := by
  match ps with
  | [] => simp
  | p :: ps =>
      rw [List.forall_mem_cons]
      exact ⟨isRead p, forall_isRead ps⟩

end

/-- A text is read if its tokens are read and none of them is left. -/
theorem parse_eq_ok_iff {text : String} {p : Condition} :
    parse text = .ok p ↔
      ∃ tokens, tokenize text.toList = .ok tokens ∧ Reads (readOr tokens) p [] := by
  constructor
  · intro h
    rw [parse] at h
    cases htokens : tokenize text.toList with
    | error e => rw [htokens] at h; cases h
    | ok tokens =>
        rw [htokens] at h
        dsimp only at h
        split at h
        · rename_i q hread
          cases h
          refine ⟨tokens, rfl, ?_⟩
          rw [ofTokens] at hread
          split at hread <;> cases hread
          rename_i hread
          rw [hread]
          rfl
        · cases h
        · cases h
  · rintro ⟨tokens, htokens, hread⟩
    obtain ⟨_, hread⟩ := hread.eq_ok
    rw [parse, htokens]
    dsimp only
    rw [ofTokens, hread]

/-- The text of a condition is read as the simplified condition. -/
theorem parse_render_eq (p : Condition) : parse p.render = .ok p.simplify := by
  have hread := (isRead p).whole [] (by simp [EndsCondition])
  rw [List.append_nil] at hread
  exact parse_eq_ok_iff.2 ⟨p.spelling, tokenize_render p, hread⟩

/-- What is written for a condition is read as a condition with the same meaning in every
environment, and as the same tree exactly when the condition is normal. -/
theorem parse_render (p : Condition) :
    ∃ q, parse p.render = .ok q ∧ (∀ env, q.eval env = p.eval env) ∧ (q = p ↔ p.IsNormal) :=
  ⟨p.simplify, parse_render_eq p, fun env => simplify_eval env p, simplify_eq_self_iff⟩

end Condition

end GlslPrelude
