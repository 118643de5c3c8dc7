import GlslPrelude.Proofs.Condition.Tokens

/-!
# The grammar of conditions

`Denotes` says which tokens are a condition, with the value that the condition has in each
environment. The reader accepts exactly the texts that are cut into a condition, and what it returns
has the value of the condition (`exists_parse_iff`). For one direction, each reader takes off its
tokens a part of a condition (`Takes`); for the other, each part of a condition is read whatever
tokens follow it (`IsReadAs`).
-/

namespace GlslPrelude

namespace Condition

/-! ## Conditions among lists of tokens -/

/-- The parts of a condition, from the operands that need no parentheses to the whole. -/
inductive Level where
  /-- A number, a flag or a condition in parentheses. -/
  | primary
  /-- One of these behind any number of negations. -/
  | unary
  /-- A conjunction of such operands. -/
  | and
  /-- A disjunction of conjunctions. -/
  | or

/-- The tokens are a part of a condition, which has the given value in each environment. -/
inductive Denotes : Level → List Token → (Environment → Bool) → Prop
  /-- Zero is false, and every other number that fits a word is true. -/
  | number {n : Nat} : n < Digits.wordLimit → Denotes .primary [.number n] fun _ => n ≠ 0
  /-- A macro is true if its flag is set. -/
  | flag (f : Flag) : Denotes .primary [.word f.macroName] fun env => env.isSet f
  | defined (f : Flag) :
      Denotes .primary [.word "defined", .word f.macroName] fun env => env.isSet f
  | definedParen (f : Flag) :
      Denotes .primary [.word "defined", .leftParen, .word f.macroName, .rightParen]
        fun env => env.isSet f
  | paren {tokens : List Token} {value : Environment → Bool} :
      Denotes .or tokens value → Denotes .primary (.leftParen :: (tokens ++ [.rightParen])) value
  | operand {tokens : List Token} {value : Environment → Bool} :
      Denotes .primary tokens value → Denotes .unary tokens value
  | not {tokens : List Token} {value : Environment → Bool} :
      Denotes .unary tokens value → Denotes .unary (.not :: tokens) fun env => !value env
  | conjunct {tokens : List Token} {value : Environment → Bool} :
      Denotes .unary tokens value → Denotes .and tokens value
  | and {front back : List Token} {value value' : Environment → Bool} :
      Denotes .and front value → Denotes .unary back value' →
      Denotes .and (front ++ .and :: back) fun env => value env && value' env
  | disjunct {tokens : List Token} {value : Environment → Bool} :
      Denotes .and tokens value → Denotes .or tokens value
  | or {front back : List Token} {value value' : Environment → Bool} :
      Denotes .or front value → Denotes .and back value' →
      Denotes .or (front ++ .or :: back) fun env => value env || value' env

/-- A number is true unless it is zero. -/
theorem number_eval (n : Nat) (env : Environment) :
    (if n = 0 then never else always).eval env = decide (n ≠ 0) := by
  by_cases hn : n = 0
  · rw [if_pos hn, decide_eq_false (not_not_intro hn)]
    rfl
  · rw [if_neg hn, decide_eq_true hn]
    rfl

/-- All numbers in a condition fit. -/
theorem Denotes.fitWords {level : Level} {tokens : List Token} {value : Environment → Bool}
    (h : Denotes level tokens value) : FitWords tokens := by
  induction h with
  | number hn => simpa [FitWords] using hn
  | flag | defined | definedParen => simp [FitWords]
  | paren _ ih => simpa [FitWords] using ih
  | operand _ ih | conjunct _ ih | disjunct _ ih => exact ih
  | not _ ih => simpa [FitWords] using ih
  | and _ _ ih ih' | or _ _ ih ih' =>
      intro n hn
      rw [List.mem_append, List.mem_cons] at hn
      rcases hn with hn | hn | hn
      · exact ih n hn
      · cases hn
      · exact ih' n hn

/-! ## What is read is a condition -/

/-- The reader takes tokens off the front which are a part of a condition with the value of what it
returns. -/
def Takes (level : Level) (tokens : List Token) (p : Condition) (rest : List Token) : Prop :=
  ∃ used, tokens = used ++ rest ∧ Denotes level used fun env => p.eval env

/-- The ways in which an operand of a conjunction is read. -/
inductive ReadsOperand : List Token → Condition → List Token → Prop
  | not {tokens rest : List Token} {p : Condition} :
      Reads (readOperand tokens) p rest → ReadsOperand (.not :: tokens) p.negate rest
  | paren {tokens rest : List Token} {p : Condition} :
      Reads (readOr tokens) p (.rightParen :: rest) → ReadsOperand (.leftParen :: tokens) p rest
  | number {rest : List Token} (n : Nat) :
      ReadsOperand (.number n :: rest) (if n = 0 then never else always) rest
  | flag {rest : List Token} (f : Flag) :
      ReadsOperand (.word f.macroName :: rest) (.flag f) rest
  | defined {rest : List Token} (f : Flag) :
      ReadsOperand (.word "defined" :: .word f.macroName :: rest) (.flag f) rest
  | definedParen {rest : List Token} (f : Flag) :
      ReadsOperand (.word "defined" :: .leftParen :: .word f.macroName :: .rightParen :: rest)
        (.flag f) rest

section Sound

variable {p q left : Condition} {tokens rest : List Token}

/-- A part of a condition is taken off what begins with it. -/
theorem Denotes.takes {level : Level} {used : List Token}
    (h : Denotes level used fun env => p.eval env) (rest : List Token) :
    Takes level (used ++ rest) p rest :=
  ⟨used, rfl, h⟩

/-- A macro name has the value of its flag. -/
theorem denotes_flag {f : Flag} (h : Denotes .primary tokens fun env => env.isSet f) :
    Denotes .unary tokens fun env => (Condition.flag f).eval env := by
  simpa only [eval] using h.operand

/-- What is read as a disjunction is a conjunction and further terms. -/
theorem Reads.of_readOr (h : Reads (Condition.readOr tokens) q rest) :
    ∃ p between, Reads (Condition.readAnd tokens) p between ∧
      Reads (Condition.readOrTail p between) q rest := by
  obtain ⟨_, h⟩ := h.eq_ok
  rw [Condition.readOr] at h
  split at h
  · cases h
  · rename_i p between _ hfirst
    split at h <;> cases h
    rename_i hmore
    exact ⟨p, between, by rw [hfirst]; rfl, by rw [hmore]; rfl⟩

/-- What is read behind a disjunction is nothing, or a conjunction behind `||` and further terms. -/
theorem Reads.of_readOrTail (h : Reads (Condition.readOrTail left tokens) q rest) :
    q = left ∧ rest = tokens ∨
      ∃ more p between, tokens = .or :: more ∧ Reads (Condition.readAnd more) p between ∧
        Reads (Condition.readOrTail (left.or p) between) q rest := by
  obtain ⟨_, h⟩ := h.eq_ok
  rw [Condition.readOrTail.eq_def] at h
  split at h
  · rename_i more _ _
    split at h
    · cases h
    · rename_i p between _ hterm
      split at h <;> cases h
      rename_i hmore
      exact .inr ⟨more, p, between, rfl, by rw [hterm]; rfl, by rw [hmore]; rfl⟩
  · cases h
    exact .inl ⟨rfl, rfl⟩

/-- What is read as a conjunction is an operand and further terms. -/
theorem Reads.of_readAnd (h : Reads (Condition.readAnd tokens) q rest) :
    ∃ p between, Reads (readOperand tokens) p between ∧
      Reads (Condition.readAndTail p between) q rest := by
  obtain ⟨_, h⟩ := h.eq_ok
  rw [Condition.readAnd] at h
  split at h
  · cases h
  · rename_i p between _ hfirst
    split at h <;> cases h
    rename_i hmore
    exact ⟨p, between, by rw [hfirst]; rfl, by rw [hmore]; rfl⟩

/-- What is read behind a conjunction is nothing, or an operand behind `&&` and further terms. -/
theorem Reads.of_readAndTail (h : Reads (Condition.readAndTail left tokens) q rest) :
    q = left ∧ rest = tokens ∨
      ∃ more p between, tokens = .and :: more ∧ Reads (readOperand more) p between ∧
        Reads (Condition.readAndTail (left.and p) between) q rest := by
  obtain ⟨_, h⟩ := h.eq_ok
  rw [Condition.readAndTail.eq_def] at h
  split at h
  · rename_i more _ _
    split at h
    · cases h
    · rename_i p between _ hterm
      split at h <;> cases h
      rename_i hmore
      exact .inr ⟨more, p, between, rfl, by rw [hterm]; rfl, by rw [hmore]; rfl⟩
  · cases h
    exact .inl ⟨rfl, rfl⟩

/-- A macro name is read as its flag. -/
theorem exists_of_map_ofMacro {α : Type} {name : String} {f : Condition → α} {a : α}
    (h : (ofMacro name).map f = .ok a) : ∃ g : Flag, name = g.macroName ∧ a = f (.flag g) := by
  rw [ofMacro] at h
  split at h
  · rename_i g hname
    cases h
    exact ⟨g, Flag.ofMacroName?_eq_some_iff.1 hname, rfl⟩
  · cases h

/-- What is read behind `defined` is a macro name, with or without parentheses. -/
theorem Reads.of_readDefined (h : Reads (readDefined tokens) q rest) :
    ∃ f : Flag, q = .flag f ∧ (tokens = .word f.macroName :: rest ∨
      tokens = .leftParen :: .word f.macroName :: .rightParen :: rest) := by
  obtain ⟨_, h⟩ := h.eq_ok
  rw [readDefined.eq_def] at h
  split at h
  · split at h
    · obtain ⟨f, rfl, hread⟩ := exists_of_map_ofMacro h
      cases hread
      exact ⟨f, rfl, .inr rfl⟩
    · cases h
  · obtain ⟨f, rfl, hread⟩ := exists_of_map_ofMacro h
    cases hread
    exact ⟨f, rfl, .inl rfl⟩
  · cases h

/-- What is read as an operand is read in one of these ways. -/
theorem Reads.of_readOperand (h : Reads (readOperand tokens) q rest) :
    ReadsOperand tokens q rest := by
  obtain ⟨_, h⟩ := h.eq_ok
  rw [readOperand.eq_def] at h
  split at h
  -- the cases are those of the reader, in its order
  · split at h <;> cases h
    rename_i hread
    exact .not (by rw [hread]; rfl)
  · split at h <;> cases h
    rename_i hread
    exact .paren (by rw [hread]; rfl)
  · cases h
    exact .number 0
  · rename_i n _ hn _ _
    cases h
    have hread : ReadsOperand (.number n :: rest) (if n = 0 then never else always) rest :=
      .number n
    rwa [if_neg hn] at hread
  · rename_i more _ _
    cases hdefined : readDefined more with
    | error e => rw [hdefined] at h; cases h
    | ok result =>
        obtain ⟨p, behind, _⟩ := result
        have hread : Reads (readDefined more) p behind := by rw [hdefined]; rfl
        rw [hdefined] at h
        cases h
        obtain ⟨f, rfl, rfl | rfl⟩ := hread.of_readDefined
        · exact .defined f
        · exact .definedParen f
  · obtain ⟨f, rfl, hread⟩ := exists_of_map_ofMacro h
    cases hread
    exact .flag f
  · cases h
  · cases h

end Sound

mutual

/-- What is read as a disjunction is one. -/
theorem takes_of_readOr {tokens rest : List Token} {p : Condition} (hfit : FitWords tokens)
    (h : Reads (readOr tokens) p rest) : Takes .or tokens p rest := by
  obtain ⟨q, between, hfirst, hmore⟩ := h.of_readOr
  -- the first term takes at least one token, so the tail has fewer of them to read
  obtain ⟨hlt, _⟩ := hfirst.eq_ok
  obtain ⟨used, htokens, hused⟩ := takes_of_readAnd hfit hfirst
  rw [htokens] at hfit ⊢
  exact takes_of_readOrTail hfit.of_append (.disjunct hused) hmore
termination_by (tokens.length, 3)

/-- What is read behind a disjunction continues it. -/
theorem takes_of_readOrTail {front tokens rest : List Token} {left p : Condition}
    (hfit : FitWords tokens) (hfront : Denotes .or front fun env => left.eval env)
    (h : Reads (readOrTail left tokens) p rest) : Takes .or (front ++ tokens) p rest := by
  obtain ⟨rfl, rfl⟩ | ⟨more, q, between, htokens, hterm, hmore⟩ := h.of_readOrTail
  · exact hfront.takes rest
  · obtain ⟨hlt, _⟩ := hterm.eq_ok
    rw [htokens] at hfit ⊢
    obtain ⟨used, hused, hdenotes⟩ := takes_of_readAnd hfit.of_cons hterm
    -- with this term, the tokens in front are a longer disjunction
    have hjoined : Denotes .or (front ++ .or :: used) fun env => (left.or q).eval env := by
      simpa only [or_eval] using hfront.or hdenotes
    rw [hused] at hfit ⊢
    have htakes := takes_of_readOrTail hfit.of_cons.of_append hjoined hmore
    rwa [List.append_assoc, List.cons_append] at htakes
termination_by (tokens.length, 3)

/-- What is read as a conjunction is one. -/
theorem takes_of_readAnd {tokens rest : List Token} {p : Condition} (hfit : FitWords tokens)
    (h : Reads (readAnd tokens) p rest) : Takes .and tokens p rest := by
  obtain ⟨q, between, hfirst, hmore⟩ := h.of_readAnd
  obtain ⟨hlt, _⟩ := hfirst.eq_ok
  obtain ⟨used, htokens, hused⟩ := takes_of_readOperand hfit hfirst
  rw [htokens] at hfit ⊢
  exact takes_of_readAndTail hfit.of_append (.conjunct hused) hmore
termination_by (tokens.length, 2)

/-- What is read behind a conjunction continues it. -/
theorem takes_of_readAndTail {front tokens rest : List Token} {left p : Condition}
    (hfit : FitWords tokens) (hfront : Denotes .and front fun env => left.eval env)
    (h : Reads (readAndTail left tokens) p rest) : Takes .and (front ++ tokens) p rest := by
  obtain ⟨rfl, rfl⟩ | ⟨more, q, between, htokens, hterm, hmore⟩ := h.of_readAndTail
  · exact hfront.takes rest
  · obtain ⟨hlt, _⟩ := hterm.eq_ok
    rw [htokens] at hfit ⊢
    obtain ⟨used, hused, hdenotes⟩ := takes_of_readOperand hfit.of_cons hterm
    -- with this term, the tokens in front are a longer conjunction
    have hjoined : Denotes .and (front ++ .and :: used) fun env => (left.and q).eval env := by
      simpa only [and_eval] using hfront.and hdenotes
    rw [hused] at hfit ⊢
    have htakes := takes_of_readAndTail hfit.of_cons.of_append hjoined hmore
    rwa [List.append_assoc, List.cons_append] at htakes
termination_by (tokens.length, 2)

/-- What is read as an operand is one. -/
theorem takes_of_readOperand {tokens rest : List Token} {p : Condition} (hfit : FitWords tokens)
    (h : Reads (readOperand tokens) p rest) : Takes .unary tokens p rest := by
  match h.of_readOperand with
  | @ReadsOperand.not _ _ q hread =>
      obtain ⟨used, rfl, hused⟩ := takes_of_readOperand hfit.of_cons hread
      have hnot : Denotes .unary (.not :: used) fun env => q.negate.eval env := by
        simpa only [negate_eval] using hused.not
      exact hnot.takes rest
  | .paren hread =>
      obtain ⟨used, rfl, hused⟩ := takes_of_readOr hfit.of_cons hread
      have htakes := hused.paren.operand.takes rest
      rwa [List.cons_append, List.append_assoc] at htakes
  | .number n =>
      have hnumber : Denotes .unary [.number n]
          fun env => (if n = 0 then never else always).eval env := by
        simpa only [number_eval] using (Denotes.number (hfit n List.mem_cons_self)).operand
      exact hnumber.takes rest
  | .flag f => exact (denotes_flag (.flag f)).takes rest
  | .defined f => exact (denotes_flag (.defined f)).takes rest
  | .definedParen f => exact (denotes_flag (.definedParen f)).takes rest
termination_by (tokens.length, 1)

end

/-! ## Conditions are read -/

/-- A condition is read from tokens of a level, whatever tokens follow that do not belong to it. -/
def IsReadAs : Level → List Token → Condition → Prop
  | .primary, tokens, p | .unary, tokens, p =>
      ∀ rest, Reads (readOperand (tokens ++ rest)) p rest
  | .and, tokens, p =>
      ∀ between q rest, Reads (readAndTail p between) q rest →
        Reads (readAnd (tokens ++ between)) q rest
  | .or, tokens, p =>
      ∀ between q rest, (∀ t ∈ between.head?, t ≠ .and) → Reads (readOrTail p between) q rest →
        Reads (readOr (tokens ++ between)) q rest

/-- What denotes a value is read as a condition with the value. -/
theorem Denotes.exists_isReadAs {level : Level} {tokens : List Token}
    {value : Environment → Bool} (h : Denotes level tokens value) :
    ∃ p, (∀ env, p.eval env = value env) ∧ IsReadAs level tokens p := by
  induction h with
  | @number n hn =>
      exact ⟨if n = 0 then never else always, number_eval n, reads_number n⟩
  | flag f => exact ⟨.flag f, fun env => rfl, reads_macroName f⟩
  | defined f | definedParen f =>
      refine ⟨.flag f, fun env => rfl, fun rest => ?_⟩
      have hname := Flag.ofMacroName?_macroName f
      simp only [List.cons_append, List.nil_append, readOperand, readDefined, ofMacro, hname]
      rfl
  | paren _ ih =>
      obtain ⟨p, hvalue, hread⟩ := ih
      refine ⟨p, hvalue, fun rest => ?_⟩
      rw [List.cons_append, List.append_assoc, List.singleton_append]
      -- the closing parenthesis continues neither a conjunction nor a disjunction
      exact (hread (.rightParen :: rest) p (.rightParen :: rest) (by simp)
        (readOrTail_of_ne (by simp))).parenthesized
  | operand _ ih => exact ih
  | not _ ih =>
      obtain ⟨p, hvalue, hread⟩ := ih
      exact ⟨p.negate, fun env => by rw [negate_eval, hvalue], fun rest => (hread rest).negated⟩
  | conjunct _ ih =>
      obtain ⟨p, hvalue, hread⟩ := ih
      exact ⟨p, hvalue, fun between q rest htail => (hread between).readAnd htail⟩
  | @and front back value value' _ _ ih ih' =>
      obtain ⟨p, hvalue, hread⟩ := ih
      obtain ⟨p', hvalue', hread'⟩ := ih'
      refine ⟨p.and p', fun env => by rw [and_eval, hvalue, hvalue'],
        fun between q rest htail => ?_⟩
      rw [List.append_assoc, List.cons_append]
      -- behind the first terms, the tail of the conjunction begins with the last one
      exact hread (.and :: (back ++ between)) q rest ((hread' between).readAndTail htail)
  | disjunct _ ih =>
      obtain ⟨p, hvalue, hread⟩ := ih
      exact ⟨p, hvalue, fun between q rest hand htail =>
        (hread between p between (readAndTail_of_ne hand)).readOr htail⟩
  | @or front back value value' _ _ ih ih' =>
      obtain ⟨p, hvalue, hread⟩ := ih
      obtain ⟨p', hvalue', hread'⟩ := ih'
      refine ⟨p.or p', fun env => by rw [or_eval, hvalue, hvalue'],
        fun between q rest hand htail => ?_⟩
      rw [List.append_assoc, List.cons_append]
      -- what follows does not continue the conjunction that is the last term
      have hterm := hread' between p' between (readAndTail_of_ne hand)
      exact hread (.or :: (back ++ between)) q rest (by simp) (hterm.readOrTail htail)

/-- A text is read as a condition with a given value exactly if it is cut into a condition that
denotes the value. -/
theorem exists_parse_iff {text : String} {value : Environment → Bool} :
    (∃ p, parse text = .ok p ∧ ∀ env, p.eval env = value env) ↔
      ∃ tokens, IsCut text.toList tokens ∧ Denotes .or tokens value := by
  constructor
  · rintro ⟨p, hparse, hvalue⟩
    obtain ⟨tokens, htokens, hread⟩ := parse_eq_ok_iff.1 hparse
    obtain ⟨hcut, hfit⟩ := tokenize_eq_ok_iff.1 htokens
    obtain ⟨used, hused, hdenotes⟩ := takes_of_readOr hfit hread
    rw [List.append_nil] at hused
    rw [hused] at hcut
    have heval : (fun env => p.eval env) = value := funext hvalue
    rw [heval] at hdenotes
    exact ⟨used, hcut, hdenotes⟩
  · rintro ⟨tokens, hcut, hdenotes⟩
    obtain ⟨p, hvalue, hread⟩ := hdenotes.exists_isReadAs
    have htokens := tokenize_eq_ok_iff.2 ⟨hcut, hdenotes.fitWords⟩
    refine ⟨p, parse_eq_ok_iff.2 ⟨tokens, htokens, ?_⟩, hvalue⟩
    have hwhole := hread [] p [] (by simp) (readOrTail_of_ne (by simp))
    rwa [List.append_nil] at hwhole

/-- A text is read as a condition exactly if it is cut into one; and then what is returned has the
value of the condition in every environment. -/
theorem parse_accepts_conditions (text : String) :
    ((∃ p, parse text = .ok p) ↔
      ∃ tokens value, IsCut text.toList tokens ∧ Denotes .or tokens value) ∧
    ∀ p tokens value, parse text = .ok p → IsCut text.toList tokens → Denotes .or tokens value →
      ∀ env, p.eval env = value env := by
  refine ⟨⟨?_, ?_⟩, ?_⟩
  · rintro ⟨p, hparse⟩
    obtain ⟨tokens, hcut, hdenotes⟩ := exists_parse_iff.1 ⟨p, hparse, fun env => rfl⟩
    exact ⟨tokens, _, hcut, hdenotes⟩
  · rintro ⟨tokens, value, hcut, hdenotes⟩
    obtain ⟨p, hparse, -⟩ := exists_parse_iff.2 ⟨tokens, hcut, hdenotes⟩
    exact ⟨p, hparse⟩
  · intro p tokens value hparse hcut hdenotes env
    obtain ⟨q, hparse', hvalue⟩ := exists_parse_iff.2 ⟨tokens, hcut, hdenotes⟩
    rw [hparse, Except.ok.injEq] at hparse'
    rw [hparse', hvalue]

end Condition

end GlslPrelude
