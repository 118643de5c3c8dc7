import GlslPrelude.Proofs.Text.Numerals
import GlslPrelude.Proofs.Token.Joining
import GlslPrelude.Proofs.Token.Segmentation

/-!
# Integer literals

Wherever an integer literal comes next in a text, it is read as the number that its digits stand
for, or the text is cut no further (`Token.scan_integerLiteral`). Any decimal digits make a literal
behind a zero, but it is read in base eight, so that only octal ones stand for a number.
-/

namespace GlslPrelude

/-- The base of an integer literal. -/
inductive Radix where
  | octal
  | decimal
  | hexadecimal

namespace Radix

variable {radix : Radix} {digits : List Char} {n : Nat}

/-- The base as a number. -/
def base : Radix → Nat
  | octal => 8
  | decimal => 10
  | hexadecimal => 16

/-- What is wrong with a literal in the base that is not read. -/
def fault : Radix → LexFault
  | octal => .octal
  | decimal => .outOfRange
  | hexadecimal => .hexadecimal

/-- The digits stand for a number in the base, and it fits 64 bits. -/
structure Encodes (radix : Radix) (digits : List Char) (n : Nat) : Prop where
  /-- There are digits. -/
  ne_nil : digits ≠ []
  /-- They stand for the number. -/
  standsFor : Digits.StandsFor radix.base digits n
  /-- The number fits. -/
  lt_size : n < UInt64.size

/-- Digits of the base stand for the value that is computed from them. -/
theorem encodes_iff :
    radix.Encodes digits n ↔ digits ≠ [] ∧
      (∀ c ∈ digits, Digits.isHex c = true ∧ Digits.value c < radix.base) ∧
      n = Digits.toNat radix.base digits ∧ n < Digits.wordLimit := by
  have hbase : radix.base ≤ 16 := by cases radix <;> decide
  constructor
  · rintro ⟨hne, hstands, hlt⟩
    obtain ⟨hdigits, hn⟩ := (Digits.standsFor_iff hbase).1 hstands
    exact ⟨hne, hdigits, hn, hlt⟩
  · rintro ⟨hne, hdigits, hn, hlt⟩
    exact ⟨hne, (Digits.standsFor_iff hbase).2 ⟨hdigits, hn⟩, hlt⟩

/-- Digits of the base that do not stand for a number of 64 bits stand for a greater one. -/
theorem wordLimit_le_of_not_encodes (hnone : ∀ n, ¬radix.Encodes digits n) (hne : digits ≠ [])
    (hdigits : ∀ c ∈ digits, Digits.isHex c = true ∧ Digits.value c < radix.base) :
    Digits.wordLimit ≤ Digits.toNat radix.base digits := by
  rw [← Nat.not_lt]
  intro hlt
  exact hnone _ (encodes_iff.2 ⟨hne, hdigits, rfl, hlt⟩)

end Radix

namespace Lexeme

variable {radix : Radix} {digits spelling suffix rest : List Char} {isUnsigned : Bool} {n : Nat}

/-- How an integer literal is written in front of its suffix, and the digits of its value. -/
inductive IsLiteral : Radix → List Char → List Char → Prop
  /-- Decimal digits, the first of which is zero only if it is the only one. -/
  | decimal {digits : List Char} : digits ≠ [] → (∀ d ∈ digits, d.isDigit = true) →
      (digits.head? = some '0' → digits = ['0']) → IsLiteral .decimal digits digits
  /-- Decimal digits behind a zero. -/
  | octal {digits : List Char} : digits ≠ [] → (∀ d ∈ digits, d.isDigit = true) →
      IsLiteral .octal digits ('0' :: digits)
  /-- Hexadecimal digits behind a zero and a letter; there may be none. -/
  | hexadecimal {mark : Char} {digits : List Char} : mark ∈ ['x', 'X'] →
      (∀ d ∈ digits, Digits.isHex d = true) →
      IsLiteral .hexadecimal digits ('0' :: mark :: digits)

namespace IsLiteral

/-- A literal begins with a digit. -/
theorem exists_cons (h : IsLiteral radix digits spelling) :
    ∃ c cs, spelling = c :: cs ∧ c.isDigit = true := by
  cases h with
  | decimal hne hdigits =>
      obtain ⟨c, cs, rfl⟩ := List.exists_cons_of_ne_nil hne
      exact ⟨c, cs, rfl, hdigits c List.mem_cons_self⟩
  | octal | hexadecimal => exact ⟨'0', _, rfl, by decide⟩

/-- A literal whose digits stand for a number is written as this number is. -/
theorem isNumber (h : IsLiteral radix digits spelling) (hn : radix.Encodes digits n)
    (hsuffix : IsIntSuffix suffix isUnsigned) (hends : EndsToken rest) :
    IsNumber (.int (UInt64.ofNat n) isUnsigned) (spelling ++ suffix) rest := by
  obtain ⟨hne, hbase, rfl, hlt⟩ := Radix.encodes_iff.1 hn
  have hpoint : ∀ c ∈ rest.head?, c ≠ '.' := fun c hc => (hends c hc).2
  cases h with
  | decimal _ hdigits hzero =>
      exact .integer (.decimal hne hdigits hzero) hlt hsuffix hends.stops fun _ => hpoint
  | octal =>
      have hoctal := fun d hd => Digits.isOctal_iff.2 (hbase d hd)
      exact .integer (.octal hne hoctal) hlt hsuffix hends.stops fun _ => hpoint
  | hexadecimal hmark hdigits =>
      exact .hexadecimal hmark hne hdigits hlt hsuffix hends.stops

/-- A literal whose digits do not stand for a number is not read. -/
theorem readNumber_eq_error (h : IsLiteral radix digits spelling)
    (hnone : ∀ n, ¬radix.Encodes digits n) (hsuffix : IsIntSuffix suffix isUnsigned)
    (hends : EndsToken rest) :
    readNumber (spelling ++ (suffix ++ rest)) = .error radix.fault := by
  have hlimit := Radix.wordLimit_le_of_not_encodes hnone
  have hbehind := hsuffix.not_mem_head? hends.stops fun _ c hc => (hends c hc).2
  cases h with
  | decimal hne hdigits hzero =>
      -- decimal digits stand for a number, so that it is too great
      have hvalue := hlimit hne fun d hd => Digits.isDigit_iff.1 (hdigits d hd)
      rw [readNumber_digits hne hdigits hbehind]
      unfold readInt
      split
      · cases hzero rfl
      · exact if_neg (Nat.not_lt.2 hvalue)
  | octal hne hdigits =>
      obtain ⟨d, ds, rfl⟩ := List.exists_cons_of_ne_nil hne
      have hall : ∀ c ∈ '0' :: d :: ds, c.isDigit = true :=
        List.forall_mem_cons.2 ⟨by decide, hdigits⟩
      rw [readNumber_digits (List.cons_ne_nil _ _) hall hbehind, readInt]
      refine if_neg fun hvalue => ?_
      rw [Bool.and_eq_true, List.all_eq_true, decide_eq_true_eq] at hvalue
      exact Nat.not_lt.2 (hlimit hne fun c hc => Digits.isOctal_iff.1 (hvalue.1 c hc)) hvalue.2
  | hexadecimal hmark hdigits =>
      -- the digits end where the suffix begins, or where no name goes on
      have hspan := hsuffix.forall_mem_head? hends.stops (fun _ => continuesName_of_isHex) rfl rfl
      rw [List.cons_append, List.cons_append, readNumber_of_mark hmark, readHex,
        takeWhile_append_eq hdigits hspan]
      refine if_pos ?_
      rw [Bool.or_eq_true, List.isEmpty_iff, decide_eq_true_eq, or_iff_not_imp_left]
      exact fun hne => hlimit hne fun d hd =>
        ⟨hdigits d hd, Digits.value_lt_of_isHex (hdigits d hd)⟩

end IsLiteral

end Lexeme

namespace Scanner

variable {text : List Char} {s : Scanner} {tokens : List Token}

/-- The tokens that are cut off a text are the first of its tokens. -/
theorem Cuts.isPrefix_scan (h : (init text).Cuts tokens s) : tokens <+: (Token.scan text).1 := by
  obtain ⟨more, -, -, htokens, -⟩ := s.exists_cuts_run tokens.reverse
  rw [Token.scan, h.run_eq, List.append_nil, htokens, List.reverse_reverse]
  exact List.prefix_append tokens more

/-- Where no piece can be taken, the text is cut no further. -/
theorem Cuts.scan_eq_of_error (h : (init text).Cuts tokens s) {c : Char} {cs : List Char}
    {fault : LexFault} (hrest : s.rest = c :: cs) (hstep : s.step c cs = .error fault) :
    Token.scan text = (tokens, some { line := s.line, fault }) := by
  rw [Token.scan, h.run_eq, run_of_error hrest hstep, List.append_nil, List.reverse_reverse]

end Scanner

namespace Token

open Lexeme (EndsToken IsIntSuffix IsLiteral)

variable {text digits spelling suffix rest : List Char} {radix : Radix} {isUnsigned : Bool}
  {before : List Token} {s : Scanner}

/-- If an integer literal comes next and the text does not run on behind it, the next token is the
number that the digits of the literal stand for in its base, unsigned if the literal has a suffix.
If there are no digits, if one of them is no digit of the base or if the number does not fit 64
bits, the text is cut no further. -/
theorem scan_integerLiteral (hcuts : (Scanner.init text).Cuts before s)
    (hliteral : IsLiteral radix digits spelling) (hsuffix : IsIntSuffix suffix isUnsigned)
    (hends : EndsToken rest) (hrest : s.rest = spelling ++ (suffix ++ rest)) :
    (∀ n, radix.Encodes digits n → ∃ (value : UInt64) (place : Scanner), value.toNat = n ∧
      (Scanner.init text).Cuts (before ++ [⟨.int value isUnsigned, s.line⟩]) place ∧
        place.rest = rest ∧ before ++ [⟨.int value isUnsigned, s.line⟩] <+: (scan text).1) ∧
      ((∀ n, ¬radix.Encodes digits n) → scan text = (before, some ⟨s.line, radix.fault⟩)) := by
  constructor
  · -- what stands for a number is one of the spellings of the number
    intro n hn
    have hnumber := hliteral.isNumber hn hsuffix hends
    rw [← List.append_assoc] at hrest
    have htoken := hcuts.append (.of_isSpelled (.number hnumber) hrest)
    exact ⟨_, _, UInt64.toNat_ofNat_of_lt hn.lt_size, htoken, rfl, htoken.isPrefix_scan⟩
  · -- only a number can begin with the digit, so that the text is cut no further where none is read
    intro hnone
    have hread := hliteral.readNumber_eq_error hnone hsuffix hends
    obtain ⟨c, cs, rfl, hc⟩ := hliteral.exists_cons
    rw [List.cons_append] at hrest hread
    refine hcuts.scan_eq_of_error hrest ?_
    rw [Scanner.step_of_continuesName s (Lexeme.continuesName_of_isDigit hc),
      Scanner.readLexeme_of_isDigit hc, hread]
    rfl

/-- The greatest number of 64 bits behind a mark, and a digit that is not octal behind a number. -/
theorem scan_integerLiteral_of_two_texts :
    let greatest : Scanner := ⟨"0xFFFFffffFFFFffffu;".toList, 2, true⟩
    let unread : Scanner := ⟨"08".toList, 1, false⟩
    ((Scanner.init "-\n0xFFFFffffFFFFffffu;".toList).Cuts [⟨.punct .minus, 1⟩] greatest ∧
      IsLiteral .hexadecimal "FFFFffffFFFFffff".toList "0xFFFFffffFFFFffff".toList ∧
      IsIntSuffix ['u'] true ∧ EndsToken [';'] ∧
      Radix.hexadecimal.Encodes "FFFFffffFFFFffff".toList 18446744073709551615 ∧
      ∃ (value : UInt64) (place : Scanner), value.toNat = 18446744073709551615 ∧
        (Scanner.init "-\n0xFFFFffffFFFFffffu;".toList).Cuts
          [⟨.punct .minus, 1⟩, ⟨.int value true, 2⟩] place ∧ place.rest = [';'] ∧
          [⟨.punct .minus, 1⟩, ⟨.int value true, 2⟩] <+:
            (scan "-\n0xFFFFffffFFFFffffu;".toList).1) ∧
      (Scanner.init "00U 08".toList).Cuts [⟨.int 0 true, 1⟩] unread ∧
        IsLiteral .octal ['8'] ['0', '8'] ∧ IsIntSuffix [] false ∧ EndsToken [] ∧
        (∀ n, ¬Radix.octal.Encodes ['8'] n) ∧
        scan "00U 08".toList = ([⟨.int 0 true, 1⟩], some ⟨1, .octal⟩) := by
  intro greatest unread
  have hgreatest : (Scanner.init "-\n0xFFFFffffFFFFffffu;".toList).Cuts [⟨.punct .minus, 1⟩]
      greatest := .token rfl rfl (.skip rfl rfl (.done _))
  have hdigits : ∀ d ∈ "FFFFffffFFFFffff".toList, Digits.isHex d = true :=
    List.all_eq_true.1 (by decide)
  have hhex : IsLiteral .hexadecimal "FFFFffffFFFFffff".toList "0xFFFFffffFFFFffff".toList :=
    .hexadecimal (by decide) hdigits
  have hmark : EndsToken [';'] := Lexeme.endsToken_mark .semicolon []
  have hencodes : Radix.hexadecimal.Encodes "FFFFffffFFFFffff".toList 18446744073709551615 :=
    Radix.encodes_iff.2 ⟨by decide,
      fun d hd => ⟨hdigits d hd, Digits.value_lt_of_isHex (hdigits d hd)⟩, by decide, by decide⟩
  have hunread : (Scanner.init "00U 08".toList).Cuts [⟨.int 0 true, 1⟩] unread :=
    .token rfl rfl (.skip rfl rfl (.done _))
  have hoctal : IsLiteral .octal ['8'] ['0', '8'] :=
    .octal (by decide) (List.all_eq_true.1 (by decide))
  have hend : EndsToken [] := by simp [EndsToken]
  have hnone : ∀ n, ¬Radix.octal.Encodes ['8'] n := by
    intro n hn
    have height := (Radix.encodes_iff.1 hn).2.1 '8' (by decide)
    exact absurd height (by decide)
  exact ⟨⟨hgreatest, hhex, .small, hmark, hencodes,
      (scan_integerLiteral hgreatest hhex .small hmark rfl).1 _ hencodes⟩,
    hunread, hoctal, .absent, hend, hnone,
    (scan_integerLiteral hunread hoctal .absent hend rfl).2 hnone⟩

end Token

end GlslPrelude
