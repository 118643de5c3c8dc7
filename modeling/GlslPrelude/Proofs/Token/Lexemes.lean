import GlslPrelude.Proofs.Token.Numbers

/-!
# How tokens are written

A token other than documentation is read if it is written as a mark, a name or a number
(`Scanner.readLexeme_eq_ok_iff`). It has no newline, and a newline ends it as well as what followed
it did (`Lexeme.IsSpelled.newline_not_mem`, `Lexeme.IsSpelled.append_newline`). A block comment is
skipped with its first end mark (`Scanner.skipComment_eq_some_iff`).
-/

namespace GlslPrelude

namespace Lexeme

variable {l : Lexeme} {rest : List Char}

/-- How a mark, a name or a number is written in front of what follows it. -/
inductive IsSpelled : Lexeme → List Char → List Char → Prop
  /-- A mark is written as its character. -/
  | mark (p : Punct) (rest : List Char) : IsSpelled (.punct p) [p.char] rest
  /-- A name is written as it is and does not go on. -/
  | word {c : Char} {cs rest : List Char} : startsName c = true →
      (∀ d ∈ cs, continuesName d = true) → Stops rest →
      IsSpelled (.word (String.ofList (c :: cs))) (c :: cs) rest
  /-- A number. -/
  | number {l : Lexeme} {spelling rest : List Char} : IsNumber l spelling rest →
      IsSpelled l spelling rest

/-- A number is not empty. -/
theorem IsNumber.ne_nil {spelling : List Char} (h : IsNumber l spelling rest) : spelling ≠ [] := by
  cases h with
  | hexadecimal => exact List.cons_ne_nil _ _
  | integer hnumeral => exact List.append_ne_nil_of_left_ne_nil hnumeral.isDigit.1 _
  | float _ hfraction _ hdigit =>
      intro heq
      simp only [List.append_eq_nil_iff] at heq
      obtain ⟨⟨⟨rfl, rfl⟩, -⟩, -⟩ := heq
      cases hfraction
      simp at hdigit

/-- A mark, a name or a number is not empty. -/
theorem IsSpelled.ne_nil {spelling : List Char} (h : IsSpelled l spelling rest) :
    spelling ≠ [] := by
  cases h with
  | mark | word => exact List.cons_ne_nil _ _
  | number hnumber => exact hnumber.ne_nil

end Lexeme

namespace Scanner

open Lexeme (IsSpelled StartsNumber)

variable {l : Lexeme} {c : Char} {cs rest : List Char}

/-- What a number begins with shows in its first two characters. -/
theorem startsNumber_cons_iff :
    StartsNumber (c :: cs) ↔ (c.isDigit || (c = '.' && cs.head?.any Char.isDigit)) = true := by
  rw [Bool.or_eq_true, Bool.and_eq_true, decide_eq_true_eq]
  constructor
  · rintro (⟨d, ds, heq, hd⟩ | ⟨d, ds, heq, hd⟩)
    · obtain ⟨rfl, rfl⟩ := List.cons.inj heq
      exact .inl hd
    · obtain ⟨rfl, rfl⟩ := List.cons.inj heq
      exact .inr ⟨rfl, hd⟩
  · rintro (hc | ⟨rfl, hhead⟩)
    · exact .inl ⟨c, cs, rfl, hc⟩
    · cases cs with
      | nil => cases hhead
      | cons d ds => exact .inr ⟨d, ds, rfl, hhead⟩

/-- A token is read if it is written so. -/
theorem readLexeme_eq_ok_iff :
    readLexeme c cs = .ok (l, rest) ↔
      ∃ spelling, c :: cs = spelling ++ rest ∧ IsSpelled l spelling rest := by
  constructor
  · intro h
    unfold readLexeme at h
    split at h
    · rename_i p hp
      cases h
      rw [Punct.ofChar?_eq_some_iff.1 hp]
      exact ⟨[p.char], rfl, .mark p _⟩
    · split at h
      · rename_i hc
        cases h
        refine ⟨c :: cs.takeWhile Lexeme.continuesName, ?_, .word hc ?_ ?_⟩
        · rw [List.cons_append, List.takeWhile_append_dropWhile]
        · exact List.all_eq_true.1 List.all_takeWhile
        · exact forall_mem_head?_dropWhile _ cs
      · split at h
        · rename_i hstart
          obtain ⟨spelling, heq, hnumber⟩ :=
            Lexeme.isNumber_of_readNumber (startsNumber_cons_iff.2 hstart) h
          exact ⟨spelling, heq, .number hnumber⟩
        · cases h
  · rintro ⟨spelling, heq, hspelled⟩
    cases hspelled with
    | mark p =>
        obtain ⟨rfl, rfl⟩ := List.cons.inj heq
        rw [readLexeme, Punct.ofChar?_char]
    | word hc hall hstops =>
        -- what starts a name is no mark
        rw [List.cons_append] at heq
        obtain ⟨rfl, rfl⟩ := List.cons.inj heq
        have hmark := Lexeme.ofChar?_of_continuesName (Lexeme.continuesName_of_startsName hc)
        rw [readLexeme, hmark]
        dsimp only
        rw [if_pos hc, takeWhile_append_eq hall hstops, dropWhile_append_eq hall hstops]
    | number hnumber =>
        have hread := Lexeme.readNumber_of_isNumber hnumber
        have hstart := hnumber.startsNumber
        rw [← heq] at hread hstart
        rw [startsNumber_cons_iff] at hstart
        -- neither a digit nor a point is a mark or starts a name
        have hother : Punct.ofChar? c = none ∧ Lexeme.startsName c = false := by
          rw [Bool.or_eq_true, Bool.and_eq_true, decide_eq_true_eq] at hstart
          rcases hstart with hdigit | ⟨rfl, -⟩
          · exact ⟨Lexeme.ofChar?_of_continuesName (Lexeme.continuesName_of_isDigit hdigit),
              Lexeme.startsName_of_isDigit hdigit⟩
          · exact ⟨rfl, rfl⟩
        rw [readLexeme, hother.1]
        dsimp only
        rw [if_neg (by simp [hother.2]), if_pos hstart]
        exact hread

end Scanner

namespace Lexeme

variable {l : Lexeme} {rest : List Char}

/-! ## Newlines -/

/-- Characters of a kind that excludes newlines. -/
theorem newline_not_mem_of_forall {p : Char → Bool} {ds : List Char} (hp : p '\n' = false)
    (hds : ∀ d ∈ ds, p d = true) : '\n' ∉ ds := by
  intro hmem
  rw [hds _ hmem] at hp
  contradiction

/-- An integer has no newline in its suffix. -/
theorem IsIntSuffix.newline_not_mem {suffix : List Char} {isUnsigned : Bool}
    (h : IsIntSuffix suffix isUnsigned) : '\n' ∉ suffix := by
  cases h <;> decide

/-- A fraction has no newline. -/
theorem IsFraction.newline_not_mem {fraction? : Option (List Char)} {text : List Char}
    (h : IsFraction fraction? text) : '\n' ∉ text := by
  cases h with
  | absent => exact List.not_mem_nil
  | point hdigits =>
      rw [List.mem_cons, not_or]
      exact ⟨by decide, newline_not_mem_of_forall rfl hdigits⟩

/-- A sign is no newline. -/
theorem IsSign.newline_not_mem {isNegative : Bool} {sign : List Char} (h : IsSign isNegative sign) :
    '\n' ∉ sign := by
  cases h <;> decide

/-- An exponent has no newline. -/
theorem IsExponent.newline_not_mem {exponent? : Option Exponent} {text : List Char}
    (h : IsExponent exponent? text) : '\n' ∉ text := by
  cases h with
  | absent => exact List.not_mem_nil
  | @present letter sign e hletter hsign hdigits =>
      rw [List.mem_cons, List.mem_append, not_or, not_or]
      refine ⟨?_, hsign.newline_not_mem, newline_not_mem_of_forall rfl hdigits⟩
      rintro rfl
      exact absurd hletter (by decide)

/-- A number has no newline. -/
theorem IsNumber.newline_not_mem {spelling : List Char} (h : IsNumber l spelling rest) :
    '\n' ∉ spelling := by
  cases h with
  | hexadecimal hmark _ hdigits _ hsuffix =>
      rw [List.mem_cons, List.mem_cons, List.mem_append, not_or, not_or, not_or]
      refine ⟨by decide, ?_, newline_not_mem_of_forall rfl hdigits, hsuffix.newline_not_mem⟩
      rintro rfl
      exact absurd hmark (by decide)
  | integer hnumeral _ hsuffix =>
      rw [List.mem_append, not_or]
      exact ⟨newline_not_mem_of_forall rfl hnumeral.isDigit.2, hsuffix.newline_not_mem⟩
  | @float whole fraction exponent suffix _ _ _ hwhole hfraction hexponent _ _ _ hsuffix =>
      have hsuffixes : ∀ suffix ∈ floatSuffixes, '\n' ∉ suffix := by decide
      rw [List.mem_append, List.mem_append, List.mem_append, not_or, not_or, not_or]
      exact ⟨⟨⟨newline_not_mem_of_forall rfl hwhole, hfraction.newline_not_mem⟩,
        hexponent.newline_not_mem⟩, hsuffixes suffix hsuffix⟩

/-- A mark, a name or a number has no newline. -/
theorem IsSpelled.newline_not_mem {spelling : List Char} (h : IsSpelled l spelling rest) :
    '\n' ∉ spelling := by
  cases h with
  | mark p => cases p <;> decide
  | @word c cs _ hc hcs =>
      refine newline_not_mem_of_forall (p := continuesName) rfl ?_
      exact List.forall_mem_cons.2 ⟨continuesName_of_startsName hc, hcs⟩
  | number hnumber => exact hnumber.newline_not_mem

/-- What holds of a newline holds of what comes next above further lines. -/
theorem forall_mem_head?_append_newline {P : Char → Prop} (hP : P '\n')
    (h : ∀ c ∈ rest.head?, P c) (u : List Char) : ∀ c ∈ (rest ++ '\n' :: u).head?, P c := by
  cases rest with
  | nil =>
      rintro c ⟨⟩
      exact hP
  | cons d rest => exact h

/-- Neither does a name go on above a newline. -/
theorem Stops.append_newline (h : Stops rest) (u : List Char) : Stops (rest ++ '\n' :: u) :=
  forall_mem_head?_append_newline (P := (continuesName · = false)) rfl h u

/-- A number ends above a newline as it ends in front of what follows. -/
theorem IsNumber.append_newline {spelling : List Char} (h : IsNumber l spelling rest)
    (u : List Char) : IsNumber l spelling (rest ++ '\n' :: u) := by
  cases h with
  | hexadecimal hmark hne hdigits hvalue hsuffix hstops =>
      exact .hexadecimal hmark hne hdigits hvalue hsuffix (hstops.append_newline u)
  | integer hnumeral hn hsuffix hstops hpoint =>
      refine .integer hnumeral hn hsuffix (hstops.append_newline u) fun hnone => ?_
      exact forall_mem_head?_append_newline (by decide) (hpoint hnone) u
  | float hwhole hfraction hexponent hdigit hsome hdigits hsuffix hstops =>
      exact .float hwhole hfraction hexponent hdigit hsome hdigits hsuffix (hstops.append_newline u)

/-- A mark, a name or a number ends above a newline as it ends in front of what follows. -/
theorem IsSpelled.append_newline {spelling : List Char} (h : IsSpelled l spelling rest)
    (u : List Char) : IsSpelled l spelling (rest ++ '\n' :: u) := by
  cases h with
  | mark p => exact .mark p _
  | word hc hcs hstops => exact .word hc hcs (hstops.append_newline u)
  | number hnumber => exact .number (hnumber.append_newline u)

end Lexeme

namespace Scanner

variable {c : Char} {cs rest : List Char}

/-! ## Comments -/

/-- The text of a block comment has no end mark, also not together with the star of the one behind
it. -/
def IsCommentBody (body : List Char) : Prop :=
  ¬['*', '/'] <:+: body ++ ['*']

instance (body : List Char) : Decidable (IsCommentBody body) :=
  inferInstanceAs (Decidable (¬_))

theorem isCommentBody_nil : IsCommentBody [] := by
  intro h
  exact absurd h.length_le (by decide)

theorem isCommentBody_cons_iff {body : List Char} :
    IsCommentBody (c :: body) ↔ ¬(c = '*' ∧ body.head? = some '/') ∧ IsCommentBody body := by
  have hhead : ['/'] <+: body ++ ['*'] ↔ body.head? = some '/' := by
    cases body <;> simp [eq_comm]
  rw [IsCommentBody, IsCommentBody, List.cons_append, List.infix_cons_iff, List.cons_prefix_cons,
    hhead, not_or]
  simp only [eq_comm]

/-- The text of a block comment is skipped with the first end mark behind it, and its newlines are
counted. -/
theorem skipComment_eq_some_iff {n m : Nat} :
    skipComment n cs = some (m, rest) ↔ ∃ body, cs = body ++ '*' :: '/' :: rest ∧
      IsCommentBody body ∧ m = n + body.count '\n' := by
  -- one more character belongs to the text if it does not begin the end mark
  have hcons {n k : Nat} {c : Char} {cs : List Char}
      (hmark : ∀ ds, c = '*' → cs = '/' :: ds → False)
      (hk : ∀ body : List Char, n + (c :: body).count '\n' = k + body.count '\n') :
      (∃ body, cs = body ++ '*' :: '/' :: rest ∧ IsCommentBody body ∧ m = k + body.count '\n') ↔
        ∃ body, c :: cs = body ++ '*' :: '/' :: rest ∧ IsCommentBody body ∧
          m = n + body.count '\n' := by
    constructor
    · rintro ⟨body, rfl, hbody, rfl⟩
      refine ⟨c :: body, rfl, isCommentBody_cons_iff.2 ⟨?_, hbody⟩, (hk body).symm⟩
      rintro ⟨hstar, hhead⟩
      obtain ⟨ds, rfl⟩ := List.head?_eq_some_iff.1 hhead
      exact hmark _ hstar rfl
    · rintro ⟨body, heq, hbody, rfl⟩
      cases body with
      | nil =>
          obtain ⟨rfl, rfl⟩ := List.cons.inj heq
          exact (hmark _ rfl rfl).elim
      | cons d body =>
          obtain ⟨rfl, rfl⟩ := List.cons.inj heq
          exact ⟨body, rfl, (isCommentBody_cons_iff.1 hbody).2, hk body⟩
  fun_induction skipComment n cs with
  | case1 n cs =>
      constructor
      · rintro ⟨⟩
        exact ⟨[], rfl, isCommentBody_nil, rfl⟩
      · rintro ⟨body, heq, hbody, rfl⟩
        cases body with
        | nil =>
            cases heq
            rfl
        | cons c body =>
            obtain ⟨rfl, hbehind⟩ := List.cons.inj heq
            refine absurd ⟨rfl, ?_⟩ (isCommentBody_cons_iff.1 hbody).1
            cases body with
            | nil => cases hbehind
            | cons d body =>
                obtain ⟨rfl, -⟩ := List.cons.inj hbehind
                rfl
  | case2 n cs ih =>
      refine ih.trans (hcons (fun ds hstar => by cases hstar) fun body => ?_)
      rw [List.count_cons_self]
      omega
  | case3 n c cs hmark hnewline ih =>
      refine ih.trans (hcons (fun ds hstar hcs => hmark ds hstar hcs) fun body => ?_)
      rw [List.count_cons_of_ne hnewline]
  | case4 => simp

end Scanner

end GlslPrelude
