import GlslPrelude.Proofs.Token.Spelling

/-!
# How numbers are written

A number is read if it is written as an integer in one of three bases or as a decimal number with a
point or an exponent, and if neither a letter, a digit nor an underscore follows it
(`isNumber_of_readNumber`, `readNumber_of_isNumber`).
-/

namespace GlslPrelude

namespace Lexeme

variable {l : Lexeme} {cs rest : List Char}

/-! ## Suffixes -/

/-- No letter, digit or underscore follows. -/
def Stops (rest : List Char) : Prop :=
  ∀ c ∈ rest.head?, continuesName c = false

/-- The suffix of an integer, and whether it makes the integer unsigned. -/
inductive IsIntSuffix : List Char → Bool → Prop
  /-- No suffix. -/
  | absent : IsIntSuffix [] false
  /-- A small letter. -/
  | small : IsIntSuffix ['u'] true
  /-- A capital letter. -/
  | capital : IsIntSuffix ['U'] true

/-- The suffixes of floating-point numbers. -/
def floatSuffixes : List (List Char) :=
  [[], ['f'], ['F'], ['l', 'f'], ['L', 'F']]

/-- No digit follows where no name goes on. -/
theorem Stops.isDigit_eq_false (h : Stops rest) : ∀ c ∈ rest.head?, c.isDigit = false := by
  intro c hc
  have hstops := h c hc
  rw [continuesName, Char.isAlphanum, Bool.or_eq_false_iff, Bool.or_eq_false_iff] at hstops
  exact hstops.2.2

/-- No character that occurs in names follows where no name goes on. -/
theorem Stops.not_mem (h : Stops rest) (ds : List Char) (hds : ds.all continuesName = true) :
    ∀ c ∈ rest.head?, c ∉ ds := by
  intro c hc hmem
  have hcontinues := List.all_eq_true.1 hds c hmem
  rw [h c hc] at hcontinues
  contradiction

theorem finishNumber_eq_ok_iff {m : Lexeme} :
    finishNumber l cs = .ok (m, rest) ↔ m = l ∧ rest = cs ∧ Stops cs := by
  constructor
  · intro h
    unfold finishNumber at h
    split at h
    · rename_i c cs
      split at h
      · cases h
      · rename_i hc
        cases h
        refine ⟨rfl, rfl, ?_⟩
        rintro d ⟨⟩
        exact Bool.not_eq_true _ ▸ hc
    · cases h
      exact ⟨rfl, rfl, by simp [Stops]⟩
  · rintro ⟨rfl, rfl, hstops⟩
    unfold finishNumber
    split
    · rw [if_neg (by simp [hstops _ rfl])]
    · rfl

theorem finishInt_eq_ok_iff {n : Nat} :
    finishInt n cs = .ok (l, rest) ↔ ∃ suffix isUnsigned, cs = suffix ++ rest ∧
      IsIntSuffix suffix isUnsigned ∧ Stops rest ∧ l = .int (UInt64.ofNat n) isUnsigned := by
  constructor
  · intro h
    unfold finishInt at h
    split at h <;> obtain ⟨rfl, rfl, hstops⟩ := finishNumber_eq_ok_iff.1 h
    · exact ⟨['u'], true, rfl, .small, hstops, rfl⟩
    · exact ⟨['U'], true, rfl, .capital, hstops, rfl⟩
    · exact ⟨[], false, rfl, .absent, hstops, rfl⟩
  · rintro ⟨suffix, isUnsigned, rfl, hsuffix, hstops, rfl⟩
    cases hsuffix with
    | absent =>
        rw [List.nil_append]
        unfold finishInt
        split
        · exact absurd List.mem_cons_self (hstops.not_mem ['u'] (by decide) 'u' rfl)
        · exact absurd List.mem_cons_self (hstops.not_mem ['U'] (by decide) 'U' rfl)
        · exact finishNumber_eq_ok_iff.2 ⟨rfl, rfl, hstops⟩
    | small => exact finishNumber_eq_ok_iff.2 ⟨rfl, rfl, hstops⟩
    | capital => exact finishNumber_eq_ok_iff.2 ⟨rfl, rfl, hstops⟩

/-- The suffix of a floating-point number is skipped. -/
theorem exists_append_of_skipFloatSuffix (cs : List Char) :
    ∃ suffix ∈ floatSuffixes, cs = suffix ++ skipFloatSuffix cs := by
  unfold skipFloatSuffix
  split
  · exact ⟨['l', 'f'], by decide, rfl⟩
  · exact ⟨['L', 'F'], by decide, rfl⟩
  · exact ⟨['f'], by decide, rfl⟩
  · exact ⟨['F'], by decide, rfl⟩
  · exact ⟨[], by decide, rfl⟩

/-- A suffix is skipped where no name goes on behind it. -/
theorem skipFloatSuffix_of_mem {suffix : List Char} (hsuffix : suffix ∈ floatSuffixes)
    (hstops : Stops rest) : skipFloatSuffix (suffix ++ rest) = rest := by
  simp only [floatSuffixes, List.mem_cons, List.not_mem_nil, or_false] at hsuffix
  rcases hsuffix with rfl | rfl | rfl | rfl | rfl
  · rw [List.nil_append]
    unfold skipFloatSuffix
    split
    · exact absurd List.mem_cons_self (hstops.not_mem ['l'] (by decide) 'l' rfl)
    · exact absurd List.mem_cons_self (hstops.not_mem ['L'] (by decide) 'L' rfl)
    · exact absurd List.mem_cons_self (hstops.not_mem ['f'] (by decide) 'f' rfl)
    · exact absurd List.mem_cons_self (hstops.not_mem ['F'] (by decide) 'F' rfl)
    · rfl
  all_goals rfl

/-- What follows a floating-point number in front of its suffix is neither a digit nor an exponent.
-/
theorem forall_mem_head?_of_mem {suffix : List Char} (hsuffix : suffix ∈ floatSuffixes)
    (hstops : Stops rest) :
    ∀ c ∈ (suffix ++ rest).head?, c.isDigit = false ∧ c ∉ ['e', 'E'] := by
  simp only [floatSuffixes, List.mem_cons, List.not_mem_nil, or_false] at hsuffix
  rcases hsuffix with rfl | rfl | rfl | rfl | rfl
  · intro c hc
    exact ⟨hstops.isDigit_eq_false c hc, hstops.not_mem _ (by decide) c hc⟩
  all_goals
    rintro c ⟨⟩
    decide

/-! ## Parts of a decimal number -/

/-- How the digits behind a point are written, if there is a point. -/
inductive IsFraction : Option (List Char) → List Char → Prop
  /-- There is no point. -/
  | absent : IsFraction none []
  /-- Digits behind a point. -/
  | point {digits : List Char} : (∀ d ∈ digits, d.isDigit = true) →
      IsFraction (some digits) ('.' :: digits)

/-- How the sign of an exponent is written. -/
inductive IsSign : Bool → List Char → Prop
  /-- Without a sign it is positive. -/
  | absent : IsSign false []
  /-- A plus. -/
  | plus : IsSign false ['+']
  /-- A minus. -/
  | minus : IsSign true ['-']

/-- How an exponent is written, if there is one. -/
inductive IsExponent : Option Exponent → List Char → Prop
  /-- There is none. -/
  | absent : IsExponent none []
  /-- A letter, a sign and digits. -/
  | present {letter : Char} {sign : List Char} {e : Exponent} : letter ∈ ['e', 'E'] →
      IsSign e.isNegative sign → (∀ d ∈ e.digits, d.isDigit = true) →
      IsExponent (some e) (letter :: (sign ++ e.digits))

/-- An exponent begins with a letter, and no digit follows where there is none. -/
theorem IsExponent.forall_mem_head? {exponent? : Option Exponent} {text : List Char}
    (h : IsExponent exponent? text) (hrest : ∀ c ∈ rest.head?, c.isDigit = false) :
    ∀ c ∈ (text ++ rest).head?, c.isDigit = false ∧ (exponent? ≠ none → c ∈ ['e', 'E']) := by
  cases h with
  | absent => exact fun c hc => ⟨hrest c hc, fun hne => absurd rfl hne⟩
  | present hletter =>
      rintro c ⟨⟩
      refine ⟨?_, fun _ => hletter⟩
      simp only [List.mem_cons, List.not_mem_nil, or_false] at hletter
      rcases hletter with rfl | rfl <;> decide

/-- A fraction begins with a point, and an exponent follows where there is none. -/
theorem IsFraction.forall_mem_head? {fraction? : Option (List Char)} {text : List Char}
    (h : IsFraction fraction? text)
    (hrest : ∀ c ∈ rest.head?, c.isDigit = false ∧ (fraction? = none → c ∈ ['e', 'E'])) :
    ∀ c ∈ (text ++ rest).head?, c.isDigit = false ∧ c ∉ ['x', 'X'] := by
  cases h with
  | absent =>
      intro c hc
      obtain ⟨hdigit, hletter⟩ := hrest c hc
      have hmem := hletter rfl
      simp only [List.mem_cons, List.not_mem_nil, or_false] at hmem ⊢
      refine ⟨hdigit, ?_⟩
      rcases hmem with rfl | rfl <;> decide
  | point =>
      rintro c ⟨⟩
      decide

/-- A fraction is read, unless no point comes next. -/
theorem exists_append_of_readFraction (cs : List Char) :
    ∃ text, cs = text ++ (readFraction cs).2 ∧ IsFraction (readFraction cs).1 text ∧
      ((readFraction cs).1 = none → ∀ c ∈ (readFraction cs).2.head?, c ≠ '.') := by
  unfold readFraction
  split
  · rename_i cs
    refine ⟨'.' :: cs.takeWhile Char.isDigit, ?_, .point ?_, by simp⟩
    · rw [List.cons_append, List.takeWhile_append_dropWhile]
    · exact List.all_eq_true.1 List.all_takeWhile
  · rename_i hpoint
    refine ⟨[], rfl, .absent, ?_⟩
    rintro _ c hc rfl
    obtain ⟨ds, rfl⟩ := List.head?_eq_some_iff.1 hc
    exact hpoint ds rfl

/-- A fraction is read if no digit follows it, nor a point if it has none. -/
theorem readFraction_of_isFraction {fraction? : Option (List Char)} {text : List Char}
    (h : IsFraction fraction? text) (hdigit : ∀ c ∈ rest.head?, c.isDigit = false)
    (hpoint : fraction? = none → ∀ c ∈ rest.head?, c ≠ '.') :
    readFraction (text ++ rest) = (fraction?, rest) := by
  cases h with
  | absent =>
      rw [List.nil_append]
      unfold readFraction
      split
      · exact absurd rfl (hpoint rfl '.' rfl)
      · rfl
  | point hdigits =>
      rw [List.cons_append, readFraction, takeWhile_append_eq hdigits hdigit,
        dropWhile_append_eq hdigits hdigit]

/-- An exponent is read, unless no letter comes next. -/
theorem exists_append_of_readExponent (cs : List Char) :
    ∃ text, cs = text ++ (readExponent cs).2 ∧ IsExponent (readExponent cs).1 text := by
  have hpresent : ∀ {letter : Char} {sign : List Char} {isNegative : Bool} (ds : List Char),
      letter ∈ ['e', 'E'] → IsSign isNegative sign →
      ∃ text, letter :: (sign ++ ds) = text ++ ds.dropWhile Char.isDigit ∧
        IsExponent (some ⟨isNegative, ds.takeWhile Char.isDigit⟩) text := by
    intro letter sign isNegative ds hletter hsign
    refine ⟨_, ?_, .present hletter hsign (List.all_eq_true.1 List.all_takeWhile)⟩
    simp
  unfold readExponent
  split
  · dsimp only
    split
    · exact hpresent _ (by decide) .minus
    · exact hpresent _ (by decide) .plus
    · exact hpresent _ (by decide) .absent
  · dsimp only
    split
    · exact hpresent _ (by decide) .minus
    · exact hpresent _ (by decide) .plus
    · exact hpresent _ (by decide) .absent
  · exact ⟨[], rfl, .absent⟩

/-- An exponent is read if neither a letter nor a digit follows it. -/
theorem readExponent_of_isExponent {exponent? : Option Exponent} {text : List Char}
    (h : IsExponent exponent? text) (hdigits : ∀ e ∈ exponent?, e.digits ≠ [])
    (hdigit : ∀ c ∈ rest.head?, c.isDigit = false)
    (hletter : exponent? = none → ∀ c ∈ rest.head?, c ∉ ['e', 'E']) :
    readExponent (text ++ rest) = (exponent?, rest) := by
  cases h with
  | absent =>
      rw [List.nil_append]
      unfold readExponent
      split
      · exact absurd (by decide) (hletter rfl 'e' rfl)
      · exact absurd (by decide) (hletter rfl 'E' rfl)
      · rfl
  | @present letter sign e hmem hsign hall =>
      obtain ⟨isNegative, digits⟩ := e
      have hread : readExponent (letter :: (sign ++ digits ++ rest)) =
          (some ⟨isNegative, (digits ++ rest).takeWhile Char.isDigit⟩,
            (digits ++ rest).dropWhile Char.isDigit) := by
        simp only [List.mem_cons, List.not_mem_nil, or_false] at hmem
        cases hsign with
        | plus => rcases hmem with rfl | rfl <;> rfl
        | minus => rcases hmem with rfl | rfl <;> rfl
        | absent =>
            -- where a sign could stand comes a digit
            obtain ⟨d, ds, rfl⟩ := List.exists_cons_of_ne_nil (hdigits _ rfl)
            have hne {c : Char} (hc : c.isDigit = false) :
                ∀ cs, d :: (ds ++ rest) = c :: cs → False := by
              intro cs heq
              rw [← (List.cons.inj heq).1, hall d List.mem_cons_self] at hc
              contradiction
            rcases hmem with rfl | rfl
            all_goals
              rw [List.nil_append, List.cons_append, readExponent]
              · exact hne rfl
              · exact hne rfl
      rw [List.cons_append, hread, takeWhile_append_eq hall hdigit, dropWhile_append_eq hall hdigit]

/-! ## Integers -/

/-- The value of the digits of an integer in base eight or ten. -/
inductive IsNumeral : List Char → Nat → Prop
  /-- Octal digits behind a zero. -/
  | octal {digits : List Char} : digits ≠ [] → (∀ d ∈ digits, Digits.isOctal d = true) →
      IsNumeral ('0' :: digits) (Digits.toNat 8 digits)
  /-- Decimal digits, the first of which is zero only if it is the only one. -/
  | decimal {digits : List Char} : digits ≠ [] → (∀ d ∈ digits, d.isDigit = true) →
      (digits.head? = some '0' → digits = ['0']) → IsNumeral digits (Digits.toNat 10 digits)

/-- Hexadecimal digits occur in names. -/
theorem continuesName_of_isHex {c : Char} (h : Digits.isHex c = true) : continuesName c = true := by
  have hletter (h : c.isUpper = true ∨ c.isLower = true) : continuesName c = true := by
    have halpha : c.isAlpha = true := Bool.or_eq_true_iff.2 h
    simp [continuesName, Char.isAlphanum, halpha]
  simp only [Digits.isHex, Bool.or_eq_true, Bool.and_eq_true, decide_eq_true_eq, Char.le_def] at h
  rcases h with (hdigit | ⟨hlow, hhigh⟩) | ⟨hlow, hhigh⟩
  · exact continuesName_of_isDigit hdigit
  · have hz : c.val ≤ 'z'.val := UInt32.le_trans hhigh (by decide)
    exact hletter (.inr (Bool.and_eq_true_iff.2 ⟨decide_eq_true hlow, decide_eq_true hz⟩))
  · have hz : c.val ≤ 'Z'.val := UInt32.le_trans hhigh (by decide)
    exact hletter (.inl (decide_eq_true ⟨hlow, hz⟩))

/-- Octal digits are decimal digits. -/
theorem isDigit_of_isOctal {c : Char} (h : Digits.isOctal c = true) : c.isDigit = true := by
  simp [Digits.isOctal, Char.isDigit, Char.le_def, UInt32.le_iff_toNat_le] at h ⊢
  omega

/-- What follows the digits of an integer is a suffix, or no name goes on there. -/
theorem IsIntSuffix.forall_mem_head? {p : Char → Bool} {suffix : List Char} {isUnsigned : Bool}
    (h : IsIntSuffix suffix isUnsigned) (hstops : Stops rest)
    (hp : ∀ c, p c = true → continuesName c = true) (hsmall : p 'u' = false)
    (hcapital : p 'U' = false) : ∀ c ∈ (suffix ++ rest).head?, p c = false := by
  cases h with
  | absent =>
      intro c hc
      rw [← Bool.not_eq_true]
      intro hpc
      exact absurd (hp c hpc) (by simp [hstops c hc])
  | small =>
      rintro c ⟨⟩
      exact hsmall
  | capital =>
      rintro c ⟨⟩
      exact hcapital

/-- Neither a digit nor another part of a number follows the digits of an integer. -/
theorem IsIntSuffix.not_mem_head? {suffix : List Char} {isUnsigned : Bool}
    (h : IsIntSuffix suffix isUnsigned) (hstops : Stops rest)
    (hpoint : suffix = [] → ∀ c ∈ rest.head?, c ≠ '.') :
    ∀ c ∈ (suffix ++ rest).head?, c.isDigit = false ∧ c ∉ ['.', 'e', 'E', 'x', 'X'] := by
  cases h with
  | absent =>
      intro c hc
      refine ⟨hstops.isDigit_eq_false c hc, fun hmem => ?_⟩
      rcases List.mem_cons.1 hmem with rfl | hmem
      · exact hpoint rfl '.' hc rfl
      · exact hstops.not_mem _ (by decide) c hc hmem
  | small | capital =>
      rintro c ⟨⟩
      decide

theorem readHex_eq_ok_iff :
    readHex cs = .ok (l, rest) ↔ ∃ digits suffix isUnsigned, cs = digits ++ (suffix ++ rest) ∧
      digits ≠ [] ∧ (∀ d ∈ digits, Digits.isHex d = true) ∧
      Digits.toNat 16 digits < Digits.wordLimit ∧ IsIntSuffix suffix isUnsigned ∧ Stops rest ∧
      l = .int (UInt64.ofNat (Digits.toNat 16 digits)) isUnsigned := by
  constructor
  · intro h
    unfold readHex at h
    dsimp only at h
    split at h
    · cases h
    · rename_i hvalue
      rw [Bool.or_eq_true, decide_eq_true_eq, not_or, Nat.not_le, List.isEmpty_iff] at hvalue
      obtain ⟨suffix, isUnsigned, heq, hsuffix, hstops, rfl⟩ := finishInt_eq_ok_iff.1 h
      refine ⟨_, suffix, isUnsigned, ?_, hvalue.1, ?_, hvalue.2, hsuffix, hstops, rfl⟩
      · rw [← heq, List.takeWhile_append_dropWhile]
      · exact List.all_eq_true.1 List.all_takeWhile
  · rintro ⟨digits, suffix, isUnsigned, rfl, hne, hdigits, hvalue, hsuffix, hstops, rfl⟩
    -- the digits end where the suffix begins, or where no name goes on
    have hbehind := hsuffix.forall_mem_head? hstops (fun _ => continuesName_of_isHex) rfl rfl
    unfold readHex
    rw [takeWhile_append_eq hdigits hbehind, dropWhile_append_eq hdigits hbehind]
    dsimp only
    rw [if_neg (by simpa [hne] using hvalue)]
    exact finishInt_eq_ok_iff.2 ⟨suffix, isUnsigned, rfl, hsuffix, hstops, rfl⟩

theorem readInt_eq_ok_iff {digits : List Char} (hne : digits ≠ [])
    (hdigits : ∀ d ∈ digits, d.isDigit = true) :
    readInt digits cs = .ok (l, rest) ↔ ∃ n suffix isUnsigned, cs = suffix ++ rest ∧
      IsNumeral digits n ∧ n < Digits.wordLimit ∧ IsIntSuffix suffix isUnsigned ∧ Stops rest ∧
      l = .int (UInt64.ofNat n) isUnsigned := by
  -- which base the digits are in shows in the first two of them
  have hread : readInt digits cs = .ok (l, rest) ↔
      ∃ n, IsNumeral digits n ∧ n < Digits.wordLimit ∧ finishInt n cs = .ok (l, rest) := by
    unfold readInt
    split
    · rename_i d ds
      dsimp only
      constructor
      · intro h
        split at h
        · rename_i hoctal
          rw [Bool.and_eq_true, List.all_eq_true, decide_eq_true_eq] at hoctal
          exact ⟨_, .octal (List.cons_ne_nil d ds) hoctal.1, hoctal.2, h⟩
        · cases h
      · rintro ⟨n, hnumeral, hn, h⟩
        cases hnumeral with
        | octal _ hoctal =>
            rw [if_pos (by simpa [List.all_eq_true] using ⟨by simpa using hoctal, hn⟩)]
            exact h
        | decimal _ _ hzero => cases hzero rfl
    · rename_i hother
      dsimp only
      have hzero : digits.head? = some '0' → digits = ['0'] := by
        intro hhead
        obtain ⟨ds, rfl⟩ := List.head?_eq_some_iff.1 hhead
        cases ds with
        | nil => rfl
        | cons d ds => exact absurd rfl (hother d ds)
      constructor
      · intro h
        split at h
        · exact ⟨_, .decimal hne hdigits hzero, ‹_›, h⟩
        · cases h
      · rintro ⟨n, hnumeral, hn, h⟩
        cases hnumeral with
        | octal hds _ => exact absurd (List.cons.inj (hzero rfl)).2 hds
        | decimal =>
            rw [if_pos hn]
            exact h
  simp only [hread, finishInt_eq_ok_iff]
  constructor
  · rintro ⟨n, hnumeral, hn, suffix, isUnsigned, heq, hsuffix, hstops, rfl⟩
    exact ⟨n, suffix, isUnsigned, heq, hnumeral, hn, hsuffix, hstops, rfl⟩
  · rintro ⟨n, suffix, isUnsigned, heq, hnumeral, hn, hsuffix, hstops, rfl⟩
    exact ⟨n, hnumeral, hn, suffix, isUnsigned, heq, hsuffix, hstops, rfl⟩

/-! ## Numbers -/

/-- The number that the digits in front of and behind a point and an exponent make. -/
def decimalValue (whole : List Char) (fraction? : Option (List Char))
    (exponent? : Option Exponent) : Double :=
  Decimal.toDouble (Digits.toNat 10 (whole ++ fraction?.getD []))
    ((exponent?.map Exponent.value).getD 0 - (fraction?.getD []).length)

/-- How a number is written in front of what follows it. -/
inductive IsNumber : Lexeme → List Char → List Char → Prop
  /-- An integer in base sixteen. -/
  | hexadecimal {mark : Char} {digits suffix rest : List Char} {isUnsigned : Bool} :
      mark ∈ ['x', 'X'] → digits ≠ [] → (∀ d ∈ digits, Digits.isHex d = true) →
      Digits.toNat 16 digits < Digits.wordLimit → IsIntSuffix suffix isUnsigned → Stops rest →
      IsNumber (.int (UInt64.ofNat (Digits.toNat 16 digits)) isUnsigned)
        ('0' :: mark :: (digits ++ suffix)) rest
  /-- An integer in base eight or ten, which no point follows. -/
  | integer {digits suffix rest : List Char} {n : Nat} {isUnsigned : Bool} :
      IsNumeral digits n → n < Digits.wordLimit → IsIntSuffix suffix isUnsigned → Stops rest →
      (suffix = [] → ∀ c ∈ rest.head?, c ≠ '.') →
      IsNumber (.int (UInt64.ofNat n) isUnsigned) (digits ++ suffix) rest
  /-- A decimal number with a digit, and with a point or an exponent. -/
  | float {whole fraction exponent suffix rest : List Char} {fraction? : Option (List Char)}
      {exponent? : Option Exponent} : (∀ d ∈ whole, d.isDigit = true) →
      IsFraction fraction? fraction → IsExponent exponent? exponent →
      (whole ≠ [] ∨ fraction?.getD [] ≠ []) → (fraction? ≠ none ∨ exponent? ≠ none) →
      (∀ e ∈ exponent?, e.digits ≠ []) → suffix ∈ floatSuffixes → Stops rest →
      IsNumber (.float (decimalValue whole fraction? exponent?))
        (whole ++ fraction ++ exponent ++ suffix) rest

/-- A number begins with a digit, or with a point and a digit. -/
def StartsNumber (cs : List Char) : Prop :=
  (∃ d ds, cs = d :: ds ∧ d.isDigit = true) ∨ ∃ d ds, cs = '.' :: d :: ds ∧ d.isDigit = true

theorem finishDecimal_eq_ok_iff {whole : List Char} {fraction? : Option (List Char)}
    {exponent? : Option Exponent} :
    finishDecimal whole fraction? exponent? cs = .ok (l, rest) ↔
      (fraction? = none ∧ exponent? = none ∧ readInt whole cs = .ok (l, rest)) ∨
        ((fraction? ≠ none ∨ exponent? ≠ none) ∧ (∀ e ∈ exponent?, e.digits ≠ []) ∧
          skipFloatSuffix cs = rest ∧ Stops rest ∧
          l = .float (decimalValue whole fraction? exponent?)) := by
  have hfloat : (if exponent?.any (·.digits.isEmpty) then .error .floating
      else finishNumber (.float (decimalValue whole fraction? exponent?)) (skipFloatSuffix cs)) =
        .ok (l, rest) ↔ (∀ e ∈ exponent?, e.digits ≠ []) ∧ skipFloatSuffix cs = rest ∧ Stops rest ∧
          l = .float (decimalValue whole fraction? exponent?) := by
    have hany : exponent?.any (·.digits.isEmpty) = true ↔ ¬∀ e ∈ exponent?, e.digits ≠ [] := by
      cases exponent? <;> simp
    by_cases hdigits : ∀ e ∈ exponent?, e.digits ≠ []
    · rw [if_neg (by simpa [hany] using hdigits), finishNumber_eq_ok_iff]
      constructor
      · rintro ⟨rfl, rfl, hstops⟩
        exact ⟨hdigits, rfl, hstops, rfl⟩
      · rintro ⟨-, rfl, hstops, rfl⟩
        exact ⟨rfl, rfl, hstops⟩
    · rw [if_pos (hany.2 hdigits)]
      exact ⟨by simp, fun h => absurd h.1 hdigits⟩
  rw [← hfloat, finishDecimal]
  cases fraction? <;> cases exponent? <;> simp [decimalValue]

/-- Behind a zero and one of two letters hexadecimal digits are read. -/
theorem readNumber_of_mark {mark : Char} (hmark : mark ∈ ['x', 'X']) (cs : List Char) :
    readNumber ('0' :: mark :: cs) = readHex cs := by
  simp only [List.mem_cons, List.not_mem_nil, or_false] at hmark
  rcases hmark with rfl | rfl
  · rfl
  · rfl

/-- What is no hexadecimal number is read part by part. -/
theorem readNumber_eq_finishDecimal (hhex : ∀ mark ∈ ['x', 'X'], ¬['0', mark] <+: cs) :
    readNumber cs = finishDecimal (cs.takeWhile Char.isDigit)
      (readFraction (cs.dropWhile Char.isDigit)).1
      (readExponent (readFraction (cs.dropWhile Char.isDigit)).2).1
      (readExponent (readFraction (cs.dropWhile Char.isDigit)).2).2 := by
  unfold readNumber
  split
  · exact absurd ⟨_, rfl⟩ (hhex 'x' (by decide))
  · exact absurd ⟨_, rfl⟩ (hhex 'X' (by decide))
  · rfl

/-- A number has a digit in front of its point or right behind it. -/
theorem StartsNumber.exists_digit (h : StartsNumber cs) :
    cs.takeWhile Char.isDigit ≠ [] ∨
      ∃ digits, digits ≠ [] ∧ (readFraction (cs.dropWhile Char.isDigit)).1 = some digits := by
  obtain ⟨d, ds, rfl, hd⟩ | ⟨d, ds, rfl, hd⟩ := h
  · rw [List.takeWhile_cons_of_pos hd]
    exact .inl (List.cons_ne_nil _ _)
  · refine .inr ⟨d :: ds.takeWhile Char.isDigit, List.cons_ne_nil _ _, ?_⟩
    rw [List.dropWhile_cons_of_neg (by decide), readFraction, List.takeWhile_cons_of_pos hd]

/-- What is read as a number is written as one. -/
theorem isNumber_of_readNumber (hstart : StartsNumber cs) (h : readNumber cs = .ok (l, rest)) :
    ∃ spelling, cs = spelling ++ rest ∧ IsNumber l spelling rest := by
  by_cases hhex : ∀ mark ∈ ['x', 'X'], ¬['0', mark] <+: cs
  · rw [readNumber_eq_finishDecimal hhex] at h
    -- the digits, the fraction and the exponent are written one behind the other
    have hdigit := hstart.exists_digit
    have hspan : cs = cs.takeWhile Char.isDigit ++ cs.dropWhile Char.isDigit :=
      List.takeWhile_append_dropWhile.symm
    have hwhole : ∀ d ∈ cs.takeWhile Char.isDigit, d.isDigit = true :=
      List.all_eq_true.1 List.all_takeWhile
    generalize cs.takeWhile Char.isDigit = whole at *
    generalize cs.dropWhile Char.isDigit = behind at *
    obtain ⟨fraction, hbehind, hfraction, hpoint⟩ := exists_append_of_readFraction behind
    generalize readFraction behind = parts at *
    obtain ⟨fraction?, tail⟩ := parts
    obtain ⟨exponent, htail, hexponent⟩ := exists_append_of_readExponent tail
    dsimp only at *
    generalize readExponent tail = parts at *
    obtain ⟨exponent?, last⟩ := parts
    subst hspan hbehind htail
    rcases finishDecimal_eq_ok_iff.1 h with ⟨rfl, rfl, hint⟩ |
      ⟨hsome, hdigits, hskip, hstops, rfl⟩
    · -- digits alone are an integer
      cases hfraction
      cases hexponent
      have hne : whole ≠ [] := by simpa using hdigit
      obtain ⟨n, suffix, isUnsigned, rfl, hnumeral, hn, hsuffix, hstops, rfl⟩ :=
        (readInt_eq_ok_iff hne hwhole).1 hint
      refine ⟨whole ++ suffix, by simp, .integer hnumeral hn hsuffix hstops ?_⟩
      rintro rfl
      exact hpoint rfl
    · -- with a fraction or an exponent they are a decimal number
      obtain ⟨suffix, hsuffix, heq⟩ := exists_append_of_skipFloatSuffix last
      rw [hskip] at heq
      subst heq
      refine ⟨whole ++ fraction ++ exponent ++ suffix, by simp, ?_⟩
      refine .float hwhole hfraction hexponent ?_ hsome hdigits hsuffix hstops
      refine hdigit.imp_right ?_
      rintro ⟨digits, hne, rfl⟩
      exact hne
  · simp only [not_forall, not_not] at hhex
    obtain ⟨mark, hmark, ds, rfl⟩ := hhex
    obtain ⟨digits, suffix, isUnsigned, rfl, hne, hdigits, hvalue, hsuffix, hstops, rfl⟩ :=
      readHex_eq_ok_iff.1 ((readNumber_of_mark hmark ds).symm.trans h)
    refine ⟨'0' :: mark :: (digits ++ suffix), by simp, ?_⟩
    exact .hexadecimal hmark hne hdigits hvalue hsuffix hstops

/-- Digits with something else behind them than a mark of base sixteen are no hexadecimal number. -/
theorem not_prefix_of_digits {digits : List Char} (hdigits : ∀ d ∈ digits, d.isDigit = true)
    (hrest : ∀ c ∈ rest.head?, c.isDigit = false ∧ c ∉ ['x', 'X']) :
    ∀ mark ∈ ['x', 'X'], ¬['0', mark] <+: digits ++ rest := by
  rintro mark hmark ⟨cs, hcs⟩
  rw [List.cons_append, List.singleton_append] at hcs
  match digits with
  | [] =>
      -- the zero is a digit
      exact absurd (hrest '0' (by rw [List.nil_append] at hcs; rw [← hcs]; rfl)).1 (by decide)
  | [d] =>
      have hhead : mark ∈ rest.head? := by
        rw [List.singleton_append] at hcs
        rw [← (List.cons.inj hcs).2]
        rfl
      exact (hrest mark hhead).2 hmark
  | d :: e :: ds =>
      obtain rfl : mark = e := (List.cons.inj (List.cons.inj hcs).2).1
      have hdigit := hdigits mark (by simp)
      simp only [List.mem_cons, List.not_mem_nil, or_false] at hmark
      rcases hmark with rfl | rfl <;> cases hdigit

/-- An integer in base eight or ten consists of digits. -/
theorem IsNumeral.isDigit {digits : List Char} {n : Nat} (h : IsNumeral digits n) :
    digits ≠ [] ∧ ∀ d ∈ digits, d.isDigit = true := by
  cases h with
  | octal hne hoctal =>
      refine ⟨List.cons_ne_nil _ _, List.forall_mem_cons.2 ⟨by decide, fun d hd => ?_⟩⟩
      exact isDigit_of_isOctal (hoctal d hd)
  | decimal hne hdigits => exact ⟨hne, hdigits⟩

/-- What is written as a number is read as one. -/
theorem readNumber_of_isNumber {spelling : List Char} (h : IsNumber l spelling rest) :
    readNumber (spelling ++ rest) = .ok (l, rest) := by
  cases h with
  | @hexadecimal mark digits suffix _ isUnsigned hmark hne hdigits hvalue hsuffix hstops =>
      rw [List.cons_append, List.cons_append, List.append_assoc, readNumber_of_mark hmark,
        readHex_eq_ok_iff]
      exact ⟨digits, suffix, isUnsigned, rfl, hne, hdigits, hvalue, hsuffix, hstops, rfl⟩
  | @integer digits suffix _ n isUnsigned hnumeral hn hsuffix hstops hpoint =>
      obtain ⟨hne, hdigits⟩ := hnumeral.isDigit
      rw [List.append_assoc, readNumber_digits hne hdigits (hsuffix.not_mem_head? hstops hpoint),
        readInt_eq_ok_iff hne hdigits]
      exact ⟨n, suffix, isUnsigned, rfl, hnumeral, hn, hsuffix, hstops, rfl⟩
  | @float whole fraction exponent suffix _ fraction? exponent? hwhole hfraction hexponent hdigit
      hsome hdigits hsuffix hstops =>
      -- what each of the parts is followed by
      have hlast := forall_mem_head?_of_mem hsuffix hstops
      have htail := hexponent.forall_mem_head? fun c hc => (hlast c hc).1
      have hbehind := hfraction.forall_mem_head? fun c hc =>
        ⟨(htail c hc).1, fun hnone => (htail c hc).2 (hsome.resolve_left fun hne => hne hnone)⟩
      have hdigit' : ∀ c ∈ (fraction ++ (exponent ++ (suffix ++ rest))).head?, c.isDigit = false :=
        fun c hc => (hbehind c hc).1
      rw [List.append_assoc, List.append_assoc, List.append_assoc,
        readNumber_eq_finishDecimal (not_prefix_of_digits hwhole hbehind),
        takeWhile_append_eq hwhole hdigit', dropWhile_append_eq hwhole hdigit',
        readFraction_of_isFraction hfraction (fun c hc => (htail c hc).1) ?_]
      · dsimp only
        rw [readExponent_of_isExponent hexponent hdigits (fun c hc => (hlast c hc).1)
          fun _ c hc => (hlast c hc).2]
        exact finishDecimal_eq_ok_iff.2
          (.inr ⟨hsome, hdigits, skipFloatSuffix_of_mem hsuffix hstops, hstops, rfl⟩)
      · rintro hnone c hc rfl
        have hmem := (htail '.' hc).2 (hsome.resolve_left fun hne => hne hnone)
        exact absurd hmem (by decide)

/-- A number begins with a digit, or with a point and a digit. -/
theorem IsNumber.startsNumber {spelling : List Char} (h : IsNumber l spelling rest) :
    StartsNumber (spelling ++ rest) := by
  have hdigits : ∀ {digits : List Char} (behind : List Char), digits ≠ [] →
      (∀ d ∈ digits, d.isDigit = true) → StartsNumber (digits ++ behind) := by
    intro digits behind hne hdigits
    obtain ⟨d, ds, rfl⟩ := List.exists_cons_of_ne_nil hne
    exact .inl ⟨d, ds ++ behind, rfl, hdigits d List.mem_cons_self⟩
  cases h with
  | hexadecimal => exact .inl ⟨'0', _, rfl, by decide⟩
  | integer hnumeral =>
      rw [List.append_assoc]
      exact hdigits _ hnumeral.isDigit.1 hnumeral.isDigit.2
  | @float whole fraction exponent suffix _ fraction? exponent? hwhole hfraction _ hdigit =>
      rw [List.append_assoc, List.append_assoc, List.append_assoc]
      by_cases hne : whole = []
      · subst hne
        cases hfraction with
        | absent => simp at hdigit
        | point hall =>
            obtain ⟨d, ds, rfl⟩ := List.exists_cons_of_ne_nil (by simpa using hdigit)
            exact .inr ⟨d, _, rfl, hall d List.mem_cons_self⟩
      · exact hdigits _ hne hwhole

end Lexeme

end GlslPrelude
