import GlslPrelude.Proofs.Data.EnumSets
import GlslPrelude.Proofs.Declaration.Lexemes
import GlslPrelude.Proofs.Declaration.Literals

/-!
# Reading lexemes back

What the readers make of the lexemes of a declaration. Types are found by the word that their
elements are written as, so a declaration is read back in a scope where the word still refers to the
type.
-/

namespace GlslPrelude

open Lexeme (IsName)

/-! ## Types in a scope -/

/-- The type is what its text refers to in the scope, and its text can be read. -/
structure Ty.IsWritten (scope : Scope) (t : Ty) : Prop extends t.IsSpelled where
  /-- The word is no qualifier. -/
  notKeyword : Qualifier.ofKeyword? t.base.render = none
  /-- The word refers to the type of the elements. -/
  type?_eq : scope.type? t.base.render = some t.base

namespace Input

/-- Whatever tokens have the lexemes, the reader reads the result from them and leaves tokens with
the rest of the lexemes. -/
def Reads {α : Type} (read : Input → Except Stuck (α × Input)) (ls : List Lexeme) (a : α)
    (rest : List Lexeme) : Prop :=
  ∀ ts : Input, ts.map Documented.lexeme = ls →
    ∃ us : Input, us.map Documented.lexeme = rest ∧ read ts = .ok (a, us)

variable {scope : Scope} {ts : Input} {l : Lexeme} {ls rest : List Lexeme} {mark : Punct}
  {w : String}

/-- A mark is skipped. -/
theorem exists_skip?_of_map (h : ts.map Documented.lexeme = .punct mark :: rest) :
    ∃ us : Input, us.map Documented.lexeme = rest ∧ skip? mark ts = some us := by
  obtain ⟨t, us, rfl, ht, hus⟩ := List.map_eq_cons_iff.1 h
  exact ⟨us, hus, skip?_eq_some_iff.2 ⟨t, rfl, ht⟩⟩

/-- No mark is skipped in front of other lexemes. -/
theorem skip?_of_map (h : ts.map Documented.lexeme = ls) (hls : ls.head? ≠ some (.punct mark)) :
    skip? mark ts = none := by
  subst h
  cases ts with
  | nil => rfl
  | cons t ts => exact skip?_of_ne fun ht => hls (congrArg some ht)

/-- A mark is read. -/
theorem exists_expect_of_map (h : ts.map Documented.lexeme = .punct mark :: rest) :
    ∃ us : Input, us.map Documented.lexeme = rest ∧ expect mark ts = .ok us := by
  obtain ⟨t, us, rfl, ht, hus⟩ := List.map_eq_cons_iff.1 h
  exact ⟨us, hus, expect_eq_ok_iff.2 ⟨t, rfl, ht⟩⟩

/-- A word is read. -/
theorem reads_expectWord (cause : ParseCause) :
    Reads (expectWord cause) (.word w :: rest) w rest := by
  intro ts h
  obtain ⟨t, us, rfl, ht, hus⟩ := List.map_eq_cons_iff.1 h
  exact ⟨us, hus, expectWord_eq_ok_iff.2 ⟨t, rfl, ht⟩⟩

/-- A word is found. -/
theorem exists_word?_of_map (h : ts.map Documented.lexeme = .word w :: rest) :
    ∃ us : Input, us.map Documented.lexeme = rest ∧ word? ts = some (w, us) := by
  obtain ⟨t, us, rfl, ht, hus⟩ := List.map_eq_cons_iff.1 h
  exact ⟨us, hus, word?_eq_some_iff.2 ⟨t, rfl, ht⟩⟩

/-- A mark is no word. -/
theorem word?_of_map (h : ts.map Documented.lexeme = .punct mark :: rest) : word? ts = none := by
  obtain ⟨t, us, rfl, ht, -⟩ := List.map_eq_cons_iff.1 h
  rw [word?, ht]

end Input

/-! ## Qualifiers and sizes -/

/-- The keyword of a qualifier names it. -/
theorem Qualifier.ofKeyword?_keyword (q : Qualifier) : ofKeyword? q.keyword = some q := by
  cases q <;> decide

namespace Input

variable {scope : Scope} {ts : Input} {ls rest : List Lexeme} {w : String} {ss : List ArraySize}

/-- Keywords are read as their qualifiers up to a word that is no qualifier. -/
theorem readQualifiers_of_map (qualifiers : QualifierSet) {qs : List Qualifier}
    (hw : Qualifier.ofKeyword? w = none)
    (h : ts.map Documented.lexeme = qs.map (fun q => .word q.keyword) ++ .word w :: rest) :
    ∃ us : Input, us.map Documented.lexeme = .word w :: rest ∧
      readQualifiers qualifiers ts = (qs.foldl EnumSet.insert qualifiers, us) := by
  induction qs generalizing qualifiers ts with
  | nil =>
      refine ⟨ts, h, ?_⟩
      obtain ⟨t, us, rfl, ht, -⟩ := List.map_eq_cons_iff.1 h
      rw [readQualifiers, ht]
      dsimp only
      rw [hw]
      rfl
  | cons q qs ih =>
      obtain ⟨t, us, rfl, ht, hus⟩ := List.map_eq_cons_iff.1 h
      obtain ⟨vs, hvs, hread⟩ := ih (qualifiers.insert q) hus
      refine ⟨vs, hvs, ?_⟩
      rw [readQualifiers, ht]
      dsimp only
      rw [Qualifier.ofKeyword?_keyword]
      exact hread

/-- The lexemes of qualifiers are read as the qualifiers up to a word that is none. -/
theorem readQualifiers_lexemes (qualifiers : QualifierSet) (hw : Qualifier.ofKeyword? w = none)
    (h : ts.map Documented.lexeme = qualifiers.lexemes ++ .word w :: rest) :
    ∃ us : Input, us.map Documented.lexeme = .word w :: rest ∧
      readQualifiers ∅ ts = (qualifiers, us) := by
  obtain ⟨us, hus, hread⟩ := readQualifiers_of_map ∅ hw h
  exact ⟨us, hus, hread.trans (congrArg (·, us) qualifiers.ofList_toList)⟩

/-- A length that can be read is read. -/
theorem size_ofNat {n : Nat} (hn : (ArraySize.fixed n).IsValid) :
    scope.size (.int (UInt64.ofNat n) false) = .ok n := by
  have htoNat : (UInt64.ofNat n).toNat = n :=
    UInt64.toNat_ofNat_of_lt' (Nat.lt_trans hn.2 (by decide))
  rw [Scope.size, Scope.sizeNumber]
  dsimp only
  rw [htoNat, if_pos (by simpa [ArraySize.IsValid] using hn)]

/-- The lexemes of sizes are read as the sizes. -/
theorem reads_readSizes (scope : Scope) (hss : ∀ s ∈ ss, s.IsValid)
    (hrest : rest.head? ≠ some (.punct .leftBracket)) :
    Reads (readSizes scope) (ss.flatMap ArraySize.lexemes ++ rest) ss rest := by
  intro ts hts
  induction ss generalizing ts with
  | nil =>
      refine ⟨ts, hts, ?_⟩
      cases ts with
      | nil => rw [readSizes]
      | cons t ts =>
          change t.lexeme :: _ = rest at hts
          subst hts
          exact readSizes_of_ne fun heq => hrest (congrArg some heq)
  | cons s ss ih =>
      rw [List.forall_mem_cons] at hss
      cases s with
      | fixed n =>
          simp only [List.flatMap_cons, ArraySize.lexemes, List.cons_append, List.nil_append,
            List.map_eq_cons_iff] at hts
          obtain ⟨t, _, rfl, ht, u, _, rfl, hu, v, vs, rfl, hv, hvs⟩ := hts
          obtain ⟨us, hus, hread⟩ := ih hss.2 vs hvs
          refine ⟨us, hus, ?_⟩
          have hbracket : u.isMark .rightBracket = false := by
            rw [← Bool.not_eq_true, Documented.isMark_iff, hu]
            simp
          rw [readSizes, if_pos (Documented.isMark_iff.2 ht)]
          dsimp only
          rw [hbracket, if_neg (by decide), hu, size_ofNat hss.1]
          dsimp only
          rw [if_pos (Documented.isMark_iff.2 hv), hread]
      | implicit =>
          simp only [List.flatMap_cons, ArraySize.lexemes, List.cons_append, List.nil_append,
            List.map_eq_cons_iff] at hts
          obtain ⟨t, _, rfl, ht, v, vs, rfl, hv, hvs⟩ := hts
          obtain ⟨us, hus, hread⟩ := ih hss.2 vs hvs
          refine ⟨us, hus, ?_⟩
          rw [readSizes, if_pos (Documented.isMark_iff.2 ht), if_pos (Documented.isMark_iff.2 hv),
            hread]

/-- The lexemes of sizes begin with a bracket unless there are none. -/
theorem head?_flatMap_lexemes (ss : List ArraySize) (rest : List Lexeme) :
    (ss.flatMap ArraySize.lexemes ++ rest).head? = some (.punct .leftBracket) ∨
      (ss.flatMap ArraySize.lexemes ++ rest).head? = rest.head? := by
  match ss with
  | [] => exact .inr rfl
  | .fixed n :: ss => exact .inl rfl
  | .implicit :: ss => exact .inl rfl

/-- The lexemes of sizes are read as the dimensions of an array. -/
theorem reads_readArray (element : Ty) (hss : ∀ s ∈ ss, s.IsValid)
    (hrest : rest.head? ≠ some (.punct .leftBracket)) :
    Reads (readArray scope element) (ss.flatMap ArraySize.lexemes ++ rest) (element.arrayOf ss)
      rest := by
  intro ts hts
  obtain ⟨us, hus, hread⟩ := reads_readSizes scope hss hrest ts hts
  exact ⟨us, hus, by rw [readArray, hread]⟩

/-- No dimensions are read from other lexemes. -/
theorem readArray_of_map (element : Ty) {l : Lexeme} (h : ts.map Documented.lexeme = l :: rest)
    (hl : l ≠ .punct .leftBracket) : readArray scope element ts = .ok (element, ts) := by
  obtain ⟨t, us, rfl, rfl, -⟩ := List.map_eq_cons_iff.1 h
  exact readArray_of_ne element hl

end Input

/-! ## Values -/

/-- The number behind the sign of an integer is read as the integer or its opposite. -/
theorem ConstValue.signed?_natAbs {i : Int64} (hi : i ≠ Int64.minValue) :
    signed? (UInt64.ofNat i.toInt.natAbs) = some (if i < 0 then -i else i) := by
  -- without the least integer, every opposite fits into 63 bits
  have hlower := i.le_toInt
  have hupper := i.toInt_lt
  have hne : i.toInt ≠ -2 ^ 63 := by rwa [← Int64.toInt_minValue, ne_eq, Int64.toInt_inj]
  have hle : UInt64.ofNat i.toInt.natAbs ≤ Int64.maxValue.toUInt64 := by
    rw [UInt64.le_iff_toNat_le, UInt64.toNat_ofNat_of_lt' (by change _ < 2 ^ 64; omega)]
    change _ ≤ 2 ^ 63 - 1
    omega
  have hsign : i < 0 ↔ i.toInt < 0 := by rw [Int64.lt_iff_toInt_lt, Int64.toInt_zero]
  rw [signed?, if_pos hle, UInt64.toInt64_ofNat', ← Int64.ofInt_eq_ofNat, Option.some_inj]
  split
  · rename_i hneg
    rw [Int.ofNat_natAbs_of_nonpos (Int.le_of_lt (hsign.1 hneg)), Int64.ofInt_neg,
      Int64.ofInt_toInt]
  · rename_i hpos
    rw [hsign, Int.not_lt] at hpos
    rw [Int.natAbs_of_nonneg hpos, Int64.ofInt_toInt]

namespace Input

/-- The number behind a sign is read. -/
theorem reads_int {i : Int64} (hi : i ≠ Int64.minValue) :
    Reads (fun ts => withRest (readInitializer scope ts)) ((ConstValue.int i).lexemes ++ rest)
      (.int i) rest := by
  intro ts hts
  have hsigned := ConstValue.signed?_natAbs hi
  rw [ConstValue.lexemes] at hts
  split at hts
  · rename_i hneg
    rw [if_pos hneg] at hsigned
    obtain ⟨t, ts, rfl, ht, hts⟩ := List.map_eq_cons_iff.1 hts
    obtain ⟨u, us, rfl, hu, hus⟩ := List.map_eq_cons_iff.1 hts
    refine ⟨us, hus, ?_⟩
    have hliteral : withRest (readLiteral scope (u :: us)) = _ := readLiteral_int hu hsigned
    obtain ⟨hlt, hread⟩ := exists_of_withRest hliteral
    have hbrace : t.isMark .leftBrace = false := by
      rw [← Bool.not_eq_true, Documented.isMark_iff, ht]
      decide
    change withRest (readInitializer scope (t :: u :: us)) = _
    rw [readInitializer, hbrace, if_neg (by decide), if_pos (Documented.isMark_iff.2 ht), hread]
    simp [negate, withRest, Except.map]
  · rename_i hpos
    rw [if_neg hpos] at hsigned
    obtain ⟨u, us, rfl, hu, hus⟩ := List.map_eq_cons_iff.1 hts
    refine ⟨us, hus, ?_⟩
    change withRest (readInitializer scope (u :: us)) = _
    rw [readInitializer_of_not_mark (by simp [hu])]
    exact readLiteral_int hu hsigned

/-- A value is read in front of the closing mark of a list, the last one of the list. -/
theorem withRest_readMoreValues_of_last {close : Punct} {v : ConstValue} {us vs : Input}
    (hread : withRest (readInitializer scope ts) = .ok (v, us)) (hcomma : skip? .comma us = none)
    (hclose : expect close us = .ok vs) :
    withRest (readMoreValues scope close ts) = .ok ([v], vs) := by
  obtain ⟨hlt, hread⟩ := exists_of_withRest hread
  rw [readMoreValues, hread]
  dsimp only
  split
  · rename_i heq
    cases hcomma.symm.trans heq
  · split <;> rename_i heq <;> cases hclose.symm.trans heq
    rfl

/-- A value is read in front of a comma and more values. -/
theorem withRest_readMoreValues_of_comma {close : Punct} {v : ConstValue} {values : List ConstValue}
    {us vs ws : Input} (hread : withRest (readInitializer scope ts) = .ok (v, us))
    (hcomma : skip? .comma us = some vs)
    (hmore : withRest (readMoreValues scope close vs) = .ok (values, ws)) :
    withRest (readMoreValues scope close ts) = .ok (v :: values, ws) := by
  obtain ⟨hlt, hread⟩ := exists_of_withRest hread
  obtain ⟨hlt', hmore⟩ := exists_of_withRest hmore
  rw [readMoreValues, hread]
  dsimp only
  split
  · rename_i heq
    cases hcomma.symm.trans heq
    rw [hmore]
    rfl
  · rename_i heq
    cases hcomma.symm.trans heq

/-- A list in braces is read. -/
theorem withRest_readInitializer_of_brace {t : Documented} {values : List ConstValue} {us : Input}
    (ht : t.lexeme = .punct .leftBrace)
    (hread : withRest (readValues scope .rightBrace ts) = .ok (values, us)) :
    withRest (readInitializer scope (t :: ts)) = .ok (.aggregate values, us) := by
  obtain ⟨hlt, hread⟩ := exists_of_withRest hread
  rw [readInitializer, if_pos (Documented.isMark_iff.2 ht), hread]
  rfl

/-- The lexemes of a value begin with no closing brace. -/
theorem exists_lexemes_eq_cons (v : ConstValue) :
    ∃ l ls, v.lexemes = l :: ls ∧ l ≠ .punct .rightBrace := by
  cases v with
  | bool b => exact ⟨_, _, rfl, by simp⟩
  | int i =>
      rw [ConstValue.lexemes]
      split <;> exact ⟨_, _, rfl, by simp⟩
  | uint u => exact ⟨_, _, rfl, by simp⟩
  | float x => exact ⟨_, _, rfl, by simp⟩
  | aggregate values => cases values <;> exact ⟨_, _, rfl, by simp⟩

mutual

/-- The lexemes of a value are read as the value. -/
theorem reads_readInitializer (scope : Scope) :
    (v : ConstValue) → v.HasNoFloat → ¬v.HasLeast → ∀ rest,
    Reads (fun ts => withRest (readInitializer scope ts)) (v.lexemes ++ rest) v rest
  | .bool b, _, _, _ => by
      intro ts hts
      obtain ⟨t, us, rfl, ht, hus⟩ := List.map_eq_cons_iff.1 hts
      refine ⟨us, hus, ?_⟩
      change withRest (readInitializer scope (t :: us)) = _
      rw [readInitializer_of_not_mark (by simp [ht])]
      exact readLiteral_bool ht
  | .int i, _, hleast, _ => reads_int fun h => hleast (h ▸ List.mem_singleton_self _)
  | .uint u, _, _, _ => by
      intro ts hts
      obtain ⟨t, us, rfl, ht, hus⟩ := List.map_eq_cons_iff.1 hts
      refine ⟨us, hus, ?_⟩
      change withRest (readInitializer scope (t :: us)) = _
      rw [readInitializer_of_not_mark (by simp [ht])]
      exact readLiteral_uint ht
  | .float x, hfloat, _, _ => absurd (List.mem_singleton_self _) (hfloat x)
  | .aggregate [], _, _, _ => by
      intro ts hts
      obtain ⟨t, us, rfl, ht, hus⟩ := List.map_eq_cons_iff.1 hts
      obtain ⟨vs, hvs, hskip⟩ := exists_skip?_of_map hus
      refine ⟨vs, hvs, withRest_readInitializer_of_brace ht ?_⟩
      rw [readValues]
      split <;> rename_i heq <;> cases hskip.symm.trans heq
      rfl
  | .aggregate (v :: vs), hfloat, hleast, rest => by
      intro ts hts
      obtain ⟨hfloat, hfloats⟩ := ConstValue.hasNoFloat_cons.1 hfloat
      obtain ⟨hleast, hleasts⟩ := ConstValue.not_hasLeast_cons.1 hleast
      have hv := reads_readInitializer scope v hfloat hleast
      simp only [ConstValue.lexemes, List.cons_append, List.append_assoc, List.nil_append] at hts
      obtain ⟨t, us, rfl, ht, hus⟩ := List.map_eq_cons_iff.1 hts
      obtain ⟨ws, hws, hread⟩ := reads_readMoreValues scope vs hfloats hleasts hv us hus
      refine ⟨ws, hws, withRest_readInitializer_of_brace ht ?_⟩
      obtain ⟨l, ls, hl, hne⟩ := exists_lexemes_eq_cons v
      rw [hl] at hus
      have hskip : skip? .rightBrace us = none := skip?_of_map hus (by simpa using hne)
      rw [readValues]
      split <;> rename_i heq
      · cases hskip.symm.trans heq
      · exact hread

/-- The lexemes of values in a list are read as the values. -/
theorem reads_readMoreValues (scope : Scope) :
    (vs : List ConstValue) → (ConstValue.aggregate vs).HasNoFloat →
    ¬(ConstValue.aggregate vs).HasLeast → ∀ {v : ConstValue} {rest},
    (∀ rest, Reads (fun ts => withRest (readInitializer scope ts)) (v.lexemes ++ rest) v rest) →
    Reads (fun ts => withRest (readMoreValues scope .rightBrace ts))
      (v.lexemes ++ (ConstValue.tailLexemes vs ++ .punct .rightBrace :: rest)) (v :: vs) rest
  | [], _, _, _, _, hv => by
      intro ts hts
      obtain ⟨us, hus, hread⟩ := hv _ ts hts
      obtain ⟨ws, hws, hclose⟩ := exists_expect_of_map hus
      have hcomma : skip? .comma us = none := skip?_of_map hus (by simp [ConstValue.tailLexemes])
      exact ⟨ws, hws, withRest_readMoreValues_of_last hread hcomma hclose⟩
  | w :: ws, hfloat, hleast, _, _, hv => by
      intro ts hts
      obtain ⟨hfloat, hfloats⟩ := ConstValue.hasNoFloat_cons.1 hfloat
      obtain ⟨hleast, hleasts⟩ := ConstValue.not_hasLeast_cons.1 hleast
      have hw := reads_readInitializer scope w hfloat hleast
      obtain ⟨us, hus, hread⟩ := hv _ ts hts
      simp only [ConstValue.tailLexemes, List.cons_append, List.append_assoc] at hus
      obtain ⟨vs, hvs, hcomma⟩ := exists_skip?_of_map hus
      obtain ⟨ys, hys, hmore⟩ := reads_readMoreValues scope ws hfloats hleasts hw vs hvs
      exact ⟨ys, hys, withRest_readMoreValues_of_comma hread hcomma hmore⟩

end

/-- A word that refers to a type is read with its dimensions as the type. -/
theorem reads_readType (cause : ParseCause) {t : Ty} (ht : scope.type? w = some t)
    (hss : ∀ s ∈ ss, s.IsValid) (hrest : rest.head? ≠ some (.punct .leftBracket)) :
    Reads (readType cause scope) (.word w :: (ss.flatMap ArraySize.lexemes ++ rest)) (t.arrayOf ss)
      rest := by
  intro ts hts
  obtain ⟨us, hus, hword⟩ := reads_expectWord cause ts hts
  obtain ⟨vs, hvs, harray⟩ := reads_readArray t hss hrest us hus
  refine ⟨vs, hvs, ?_⟩
  rw [readType, hword]
  dsimp only
  rw [resolveType, ht]
  exact harray

end Input

/-! ## Functions -/

/-- The parameter that the text of a parameter is read as: the lengths of a type without a name
stand in the opposite order. -/
def Parameter.readBack (p : Parameter) : Parameter :=
  match p.name with
  | some _ => p
  | none => { p with type := p.type.reversed }

/-- The signature that the text of a signature is read as under a condition. -/
def Signature.readBack (s : Signature) (condition : Condition) : Signature :=
  { name := s.name
    returnType := s.returnType.reversed
    parameters := s.parameters.map Parameter.readBack
    condition
    doc := none }

/-- The parameter can be read back in the scope. -/
structure Parameter.IsWritten (scope : Scope) (p : Parameter) : Prop where
  /-- Its name is a word. -/
  isName : ∀ name ∈ p.name, IsName name
  /-- Its type is what its text refers to. -/
  type : p.type.IsWritten scope
  /-- Every dimension has a length. -/
  isSized : p.type.hasImplicitSize = false

/-- The signature can be read back in the scope. -/
structure Signature.IsWritten (scope : Scope) (s : Signature) : Prop where
  /-- Its name is a word. -/
  isName : IsName s.name
  /-- The type of the result is what its text refers to. -/
  returnType : s.returnType.IsWritten scope
  /-- The parameters can be read back. -/
  parameters : ∀ p ∈ s.parameters, p.IsWritten scope
  /-- The parameters are not `void` alone, which stands for none. -/
  ne_void : s.parameters ≠ [{ name := none, type := .void, qualifiers := ∅ }]

namespace Input

variable {scope : Scope} {rest : List Lexeme} {p : Parameter} {mark : Punct}

/-- A parameter is read if its parts are, one after the other. -/
theorem readParameter_of_parts {ts us vs ws xs : Input} {element : Ty}
    (hqualifiers : readQualifiers ∅ ts = (p.qualifiers, us))
    (htype : readType .missingParameterType scope us = .ok (element, vs))
    (hname : p.name = none ∧ word? vs = none ∧ ws = vs ∨
      ∃ w, p.name = some w ∧ word? vs = some (w, ws))
    (harray : readArray scope element ws = .ok (p.type, xs))
    (hsized : p.type.hasImplicitSize = false) : readParameter scope ts = .ok (p, xs) := by
  obtain ⟨name, type, qualifiers⟩ := p
  have hsizes : readParameterSizes scope qualifiers element name ws =
      .ok ({ name, type, qualifiers }, xs) := by
    rw [readParameterSizes, harray]
    dsimp only
    rw [if_neg (by simp [hsized])]
  rw [readParameter, hqualifiers]
  dsimp only
  rw [htype]
  dsimp only
  rcases hname with ⟨rfl, hword, rfl⟩ | ⟨w, rfl, hword⟩
  · rw [hword]
    exact hsizes
  · rw [hword]
    exact hsizes

/-- The lexemes of a parameter are read in front of a mark. -/
theorem reads_readParameter (hp : p.IsWritten scope) (hmark : mark ≠ .leftBracket) :
    Reads (readParameter scope) (p.lexemes ++ .punct mark :: rest) p.readBack
      (.punct mark :: rest) := by
  have hhead : (Lexeme.punct mark :: rest).head? ≠ some (.punct .leftBracket) := by
    simpa using hmark
  intro ts hts
  obtain ⟨name, type, qualifiers⟩ := p
  rw [Parameter.lexemes, List.append_assoc] at hts
  cases name with
  | none =>
      -- the dimensions stand right behind the word
      obtain ⟨us, hus, hqualifiers⟩ := readQualifiers_lexemes qualifiers hp.type.notKeyword hts
      obtain ⟨vs, hvs, htype⟩ := reads_readType .missingParameterType hp.type.type?_eq
        hp.type.reverse hhead us hus
      have harray : readArray scope (type.base.arrayOf type.sizes.reverse) vs =
          .ok (type.reversed, vs) := readArray_of_map _ hvs (by simpa using hmark)
      exact ⟨vs, hvs, readParameter_of_parts hqualifiers htype (.inl ⟨rfl, word?_of_map hvs, rfl⟩)
        harray (type.hasImplicitSize_reversed.trans hp.isSized)⟩
  | some name =>
      -- the dimensions stand behind the name
      obtain ⟨us, hus, hqualifiers⟩ := readQualifiers_lexemes qualifiers hp.type.notKeyword hts
      obtain ⟨vs, hvs, htype⟩ := reads_readType .missingParameterType hp.type.type?_eq
        (List.forall_mem_nil _) (by simp) us hus
      obtain ⟨ws, hws, hname⟩ := exists_word?_of_map hvs
      obtain ⟨xs, hxs, harray⟩ := reads_readArray type.base hp.type.sizes hhead ws hws
      rw [type.arrayOf_sizes] at harray
      exact ⟨xs, hxs, readParameter_of_parts hqualifiers htype (.inr ⟨name, rfl, hname⟩) harray
        hp.isSized⟩

/-- Parameters are read one by one. -/
theorem readMoreParameters_of_last {ts us vs : Input} (hread : readParameter scope ts = .ok (p, us))
    (hcomma : skip? .comma us = none) (hclose : expect .rightParen us = .ok vs) :
    readMoreParameters scope ts = .ok ([p], vs) := by
  rw [readMoreParameters]
  split <;> rename_i heq <;> cases hread.symm.trans heq
  split
  · rename_i heq
    cases hcomma.symm.trans heq
  · rw [hclose]

/-- A parameter is read in front of a comma and more parameters. -/
theorem readMoreParameters_of_comma {ps : List Parameter} {ts us vs ws : Input}
    (hread : readParameter scope ts = .ok (p, us)) (hcomma : skip? .comma us = some vs)
    (hmore : readMoreParameters scope vs = .ok (ps, ws)) :
    readMoreParameters scope ts = .ok (p :: ps, ws) := by
  rw [readMoreParameters]
  split <;> rename_i heq <;> cases hread.symm.trans heq
  split <;> rename_i heq <;> cases hcomma.symm.trans heq
  rw [hmore]

/-- The lexemes of parameters are read in front of a closing parenthesis. -/
theorem reads_readMoreParameters {ps : List Parameter}
    (hps : ∀ q ∈ p :: ps, q.IsWritten scope) :
    Reads (readMoreParameters scope)
      ([.punct .comma].intercalate ((p :: ps).map Parameter.lexemes) ++ .punct .rightParen :: rest)
      ((p :: ps).map Parameter.readBack) rest := by
  intro ts hts
  rw [List.forall_mem_cons] at hps
  induction ps generalizing p ts with
  | nil =>
      simp only [List.map_cons, List.map_nil, List.intercalate_singleton] at hts
      obtain ⟨us, hus, hread⟩ := reads_readParameter hps.1 (by decide) ts hts
      obtain ⟨vs, hvs, hclose⟩ := exists_expect_of_map hus
      exact ⟨vs, hvs, readMoreParameters_of_last hread (skip?_of_map hus (by simp)) hclose⟩
  | cons q ps ih =>
      simp only [List.map_cons, List.intercalate_cons_cons, List.append_assoc, List.cons_append,
        List.nil_append] at hts
      obtain ⟨us, hus, hread⟩ := reads_readParameter hps.1 (by decide) ts hts
      obtain ⟨vs, hvs, hcomma⟩ := exists_skip?_of_map hus
      obtain ⟨ws, hws, hmore⟩ := ih (List.forall_mem_cons.1 hps.2) vs hvs
      exact ⟨ws, hws, readMoreParameters_of_comma hread hcomma hmore⟩

/-- The lexemes of a parameter begin with a word. -/
theorem exists_word_of_lexemes (p : Parameter) : ∃ w ls, p.lexemes = .word w :: ls := by
  obtain ⟨name, type, qualifiers⟩ := p
  rw [Parameter.lexemes, QualifierSet.lexemes]
  cases EnumSet.toList qualifiers with
  | nil => cases name <;> exact ⟨_, _, rfl⟩
  | cons q qs => exact ⟨_, _, rfl⟩

/-- Only a parameter without name, qualifiers and dimensions is written as `void` alone. -/
theorem eq_void_of_lexemes (hp : p.IsWritten scope) {ls : List Lexeme}
    (h : p.lexemes ++ ls = .word "void" :: .punct .rightParen :: rest) :
    p = { name := none, type := .void, qualifiers := ∅ } ∧ ls = .punct .rightParen :: rest := by
  obtain ⟨name, type, qualifiers⟩ := p
  have htype := hp.type
  dsimp only at htype
  rw [Parameter.lexemes, QualifierSet.lexemes] at h
  cases hqualifiers : EnumSet.toList qualifiers with
  | cons q qs =>
      simp only [hqualifiers, List.map_cons, List.cons_append, List.cons.injEq,
        Lexeme.word.injEq] at h
      exact absurd h.1 (by cases q <;> decide)
  | nil =>
      have hempty : qualifiers = ∅ := by
        rw [← EnumSet.ofList_toList qualifiers, hqualifiers]
        rfl
      rw [hqualifiers] at h
      cases name with
      | some name => simp [Ty.declaratorLexemes] at h
      | none =>
          simp only [List.map_nil, List.nil_append, Ty.lexemes, List.cons_append, List.cons.injEq,
            Lexeme.word.injEq] at h
          obtain ⟨hword, hrest⟩ := h
          -- the parenthesis leaves no room for a dimension
          have hsizes : type.sizes = [] := by
            rw [← List.reverse_eq_nil_iff]
            cases hreverse : type.sizes.reverse with
            | nil => rfl
            | cons s ss =>
                rw [hreverse] at hrest
                cases s <;> simp [ArraySize.lexemes] at hrest
          have hbase := htype.type?_eq
          rw [hword, Scope.type?, show Ty.ofName? "void" = some .void by decide] at hbase
          rw [hsizes] at hrest
          refine ⟨?_, hrest⟩
          rw [hempty, ← type.arrayOf_sizes, ← Option.some.inj hbase, hsizes]
          rfl

/-- The lexemes of parameters are read behind an opening parenthesis. -/
theorem reads_readParameters {ps : List Parameter} (hps : ∀ p ∈ ps, p.IsWritten scope)
    (hvoid : ps ≠ [{ name := none, type := .void, qualifiers := ∅ }]) :
    Reads (readParameters scope)
      ([.punct .comma].intercalate (ps.map Parameter.lexemes) ++ .punct .rightParen :: rest)
      (ps.map Parameter.readBack) rest := by
  intro ts hts
  cases ps with
  | nil =>
      obtain ⟨us, hus, hskip⟩ := exists_skip?_of_map hts
      exact ⟨us, hus, by rw [readParameters, hskip]; rfl⟩
  | cons p ps =>
      obtain ⟨us, hus, hread⟩ := reads_readMoreParameters hps ts hts
      obtain ⟨w, ls, hfirst⟩ : ∃ w ls, ts.map Documented.lexeme = .word w :: ls := by
        obtain ⟨w, ls, hp⟩ := exists_word_of_lexemes p
        rw [hts]
        cases ps <;> simp [hp]
      have hskip : skip? .rightParen ts = none := skip?_of_map hfirst (by simp)
      have hnotVoid : skipVoid? ts = none := by
        rw [Option.eq_none_iff_forall_ne_some]
        intro vs hvs
        obtain ⟨t, u, rfl, ht, hu⟩ := skipVoid?_eq_some_iff.1 hvs
        rw [List.forall_mem_cons] at hps
        rw [List.map_cons, List.map_cons, ht, hu] at hts
        -- `void` and the parenthesis behind it are all that the parameters are written as
        cases ps with
        | nil =>
            simp only [List.map_cons, List.map_nil, List.intercalate_singleton] at hts
            exact hvoid (congrArg (List.cons · []) (eq_void_of_lexemes hps.1 hts.symm).1)
        | cons q ps =>
            simp only [List.map_cons, List.intercalate_cons_cons, List.append_assoc,
              List.cons_append, List.nil_append] at hts
            cases (eq_void_of_lexemes hps.1 hts.symm).2
      exact ⟨us, hus, by rw [readParameters, hskip]; dsimp only; rw [hnotVoid]; exact hread⟩

end Input

/-! ## Declarations -/

/-- The constant can be read back in the scope. -/
structure Constant.IsWritten (scope : Scope) (c : Constant) : Prop where
  /-- Its name is a word. -/
  isName : IsName c.name
  /-- Its type is what its text refers to. -/
  type : c.type.IsWritten scope
  /-- It is read as a constant. -/
  isConst : c.qualifiers.contains .const = true
  /-- Every number in its value has an opposite. -/
  hasNoLeast : ¬c.value.HasLeast
  /-- Its value has the form of its type. -/
  coerce?_eq : c.value.coerce? c.type = some c.value

/-- The variable can be read back in the scope. -/
structure Variable.IsWritten (scope : Scope) (v : Variable) : Prop where
  /-- Its name is a word. -/
  isName : IsName v.name
  /-- Its type is what its text refers to. -/
  type : v.type.IsWritten scope

/-- The block can be read back in the scope. -/
structure Block.IsWritten (scope : Scope) (b : Block) : Prop where
  /-- Its name is a word. -/
  isName : IsName b.name
  /-- Its name is no qualifier. -/
  notKeyword : Qualifier.ofKeyword? b.name = none
  /-- The names of its members are words, and their types are what their texts refer to. -/
  fields : ∀ f ∈ b.fields, IsName f.name ∧ f.type.IsWritten scope
  /-- No unsized member stands before a sized one. -/
  isSized : Input.hasUnsizedBeforeSized b.fields = false

namespace Input

variable {scope : Scope} {condition : Condition} {doc : Option String} {ts : Input}
  {rest : List Lexeme}

/-- A declaration that begins with qualifiers and a type is read behind the word of the type. -/
theorem readDeclaration_of_type (condition : Condition) (doc : Option String)
    (qualifiers : QualifierSet) {t : Ty} (ht : t.IsWritten scope)
    (hrest : rest.head? ≠ some (.punct .leftBrace))
    (h : ts.map Documented.lexeme = qualifiers.lexemes ++ .word t.base.render :: rest) :
    ∃ us : Input, us.map Documented.lexeme = rest ∧
      readDeclaration scope condition doc ts =
        readNamed scope { doc, qualifiers } condition t.base us := by
  obtain ⟨us, hus, hqualifiers⟩ := readQualifiers_lexemes qualifiers ht.notKeyword h
  obtain ⟨vs, hvs, hword⟩ := reads_expectWord .missingType us hus
  refine ⟨vs, hvs, ?_⟩
  rw [readDeclaration, hqualifiers]
  dsimp only
  rw [hword]
  dsimp only
  rw [skip?_of_map hvs hrest]
  dsimp only
  rw [resolveType, ht.type?_eq]

/-- The lexemes of a function prototype are read as one function. -/
theorem readDeclaration_signature {s : Signature} (hs : s.IsWritten scope)
    (h : ts.map Documented.lexeme = s.lexemes) :
    readDeclaration scope condition doc ts =
      ([.function { s.readBack condition with doc }], .ok []) := by
  have hhead : ∀ rest : List Lexeme, (s.returnType.sizes.reverse.flatMap ArraySize.lexemes ++
      .word s.name :: rest).head? ≠ some (.punct .leftBrace) := by
    intro rest
    rcases head?_flatMap_lexemes s.returnType.sizes.reverse (.word s.name :: rest)
      with heq | heq <;> rw [heq] <;> simp
  rw [Signature.lexemes, Ty.lexemes] at h
  simp only [List.cons_append, List.append_assoc] at h
  -- the result and its dimensions, the name, and the parameters in parentheses
  obtain ⟨us, hus, hread⟩ := readDeclaration_of_type condition doc ∅ hs.returnType (hhead _) h
  obtain ⟨vs, hvs, harray⟩ :=
    reads_readArray s.returnType.base hs.returnType.reverse (by simp) us hus
  obtain ⟨ws, hws, hname⟩ := reads_expectWord .missingName vs hvs
  obtain ⟨xs, hxs, hparen⟩ := exists_skip?_of_map hws
  obtain ⟨ys, hys, hparameters⟩ := reads_readParameters hs.parameters hs.ne_void xs hxs
  obtain ⟨zs, hzs, hclose⟩ := exists_expect_of_map hys
  rw [List.map_eq_nil_iff] at hzs
  subst hzs
  rw [hread, readNamed, harray]
  dsimp only
  rw [hname]
  dsimp only
  rw [hparen]
  dsimp only
  rw [readFunction, hparameters]
  dsimp only
  rw [hclose]
  rfl

/-- The lexemes of a type around a name are read up to the dimensions behind the name. -/
theorem readDeclaration_declarator (condition : Condition) (doc : Option String)
    {qualifiers : QualifierSet} {t : Ty} (ht : t.IsWritten scope) {name : String}
    (hrest : rest.head? ≠ some (.punct .leftParen))
    (h : ts.map Documented.lexeme = qualifiers.lexemes ++ t.declaratorLexemes name ++ rest) :
    ∃ us : Input, us.map Documented.lexeme = t.sizes.flatMap ArraySize.lexemes ++ rest ∧
      readDeclaration scope condition doc ts =
        readDeclarators scope { doc, qualifiers } t.base name us := by
  have hhead : (t.sizes.flatMap ArraySize.lexemes ++ rest).head? ≠ some (.punct .leftParen) := by
    rcases head?_flatMap_lexemes t.sizes rest with heq | heq <;> rw [heq]
    · simp
    · exact hrest
  rw [Ty.declaratorLexemes] at h
  simp only [List.cons_append, List.append_assoc] at h
  obtain ⟨us, hus, hread⟩ := readDeclaration_of_type condition doc qualifiers ht (by simp) h
  obtain ⟨vs, hvs, hname⟩ := reads_expectWord .missingName us hus
  refine ⟨vs, hvs, ?_⟩
  rw [hread, readNamed, readArray_of_map _ hus (by simp)]
  dsimp only
  rw [hname]
  dsimp only
  rw [skip?_of_map hvs hhead]

/-- The lexemes of a constant are read as the constant. -/
theorem readDeclaration_constant {c : Constant} (hc : c.IsWritten scope)
    (hfloat : c.value.HasNoFloat) (h : ts.map Documented.lexeme = c.lexemes) :
    readDeclaration scope condition doc ts = ([.const { c with doc }], .ok []) := by
  rw [Constant.lexemes, List.append_assoc] at h
  obtain ⟨us, hus, hread⟩ := readDeclaration_declarator condition doc hc.type (by simp) h
  obtain ⟨vs, hvs, harray⟩ := reads_readArray c.type.base hc.type.sizes (by simp) us hus
  obtain ⟨ws, hws, hequal⟩ := exists_skip?_of_map hvs
  obtain ⟨xs, hxs, hinitializer⟩ :=
    reads_readInitializer scope c.value hfloat hc.hasNoLeast _ ws hws
  obtain ⟨hlt, hinitializer⟩ := exists_of_withRest hinitializer
  obtain ⟨ys, hys, hclose⟩ := exists_expect_of_map hxs
  rw [List.map_eq_nil_iff] at hys
  subst hys
  have hdeclarator :
      readDeclarator scope { doc, qualifiers := c.qualifiers } c.type.base c.name us =
      .ok (.const { c with doc }, xs) := by
    rw [readDeclarator, harray, c.type.arrayOf_sizes]
    dsimp only
    rw [hc.isConst, hequal]
    dsimp only
    rw [hinitializer]
    dsimp only
    rw [hc.coerce?_eq]
  rw [hread, readDeclarators_of_last hdeclarator (skip?_of_map hxs (by simp)), hclose]

/-- The lexemes of a variable are read as the variable. -/
theorem readDeclaration_variable {v : Variable} (hv : v.IsWritten scope)
    (hconst : v.qualifiers.contains .const = false) (hblock : v.block = none)
    (h : ts.map Documented.lexeme = v.lexemes) :
    readDeclaration scope condition doc ts = ([.var { v with doc }], .ok []) := by
  rw [Variable.lexemes] at h
  obtain ⟨us, hus, hread⟩ := readDeclaration_declarator condition doc hv.type (by simp) h
  obtain ⟨vs, hvs, harray⟩ := reads_readArray v.type.base hv.type.sizes (by simp) us hus
  obtain ⟨ws, hws, hclose⟩ := exists_expect_of_map hvs
  rw [List.map_eq_nil_iff] at hws
  subst hws
  have hdeclarator :
      readDeclarator scope { doc, qualifiers := v.qualifiers } v.type.base v.name us =
      .ok (.var { v with doc }, vs) := by
    rw [readDeclarator, harray, v.type.arrayOf_sizes]
    dsimp only
    rw [hconst, skip?_of_map hvs (by simp), ← hblock]
  rw [hread, readDeclarators_of_last hdeclarator (skip?_of_map hvs (by simp)), hclose]

/-- The lexemes of a member of a block are read as a group of one. -/
theorem reads_readFieldGroup {f : Field Ty} (hf : f.type.IsWritten scope) :
    Reads (readFieldGroup scope) (f.lexemes ++ rest) [f] rest := by
  intro ts hts
  rw [Field.lexemes, Ty.declaratorLexemes] at hts
  simp only [List.append_assoc, List.cons_append] at hts
  obtain ⟨us, hus, hqualifiers⟩ := readQualifiers_lexemes f.qualifiers hf.notKeyword hts
  obtain ⟨vs, hvs, htype⟩ := reads_readType .missingFieldType hf.type?_eq
    (List.forall_mem_nil _) (by simp) us hus
  obtain ⟨ws, hws, hname⟩ := reads_expectWord .missingFieldName vs hvs
  obtain ⟨xs, hxs, harray⟩ := reads_readArray f.type.base hf.sizes (by simp) ws hws
  obtain ⟨ys, hys, hclose⟩ := exists_expect_of_map hxs
  have hcomma : skip? .comma xs = none := skip?_of_map hxs (by simp)
  rw [f.type.arrayOf_sizes] at harray
  have hnames : readFieldNames scope f.qualifiers f.type.base vs = .ok ([f], ys) := by
    rw [readFieldNames]
    split <;> rename_i heq <;> cases hname.symm.trans heq
    split <;> rename_i heq <;> cases harray.symm.trans heq
    split
    · rename_i heq
      cases hcomma.symm.trans heq
    · rw [hclose]
  refine ⟨ys, hys, ?_⟩
  rw [readFieldGroup, hqualifiers]
  dsimp only
  rw [htype]
  exact hnames

/-- A group of members is read in front of more members. -/
theorem readFields_of_group {us vs : Input} {fields more : List (Field Ty)}
    (hbrace : skip? .rightBrace ts = none) (hread : readFieldGroup scope ts = .ok (fields, us))
    (hmore : readFields scope us = .ok (more, vs)) :
    readFields scope ts = .ok (fields ++ more, vs) := by
  have hne : ts.isEmpty = false := by
    cases ts with
    | nil => cases hread
    | cons t ts => rfl
  rw [readFields, hbrace]
  dsimp only
  rw [hne, if_neg (by decide)]
  split <;> rename_i heq <;> cases hread.symm.trans heq
  rw [hmore]

/-- The lexemes of the members of a block are read up to the closing brace. -/
theorem reads_readFields {fields : List (Field Ty)}
    (hfields : ∀ f ∈ fields, f.type.IsWritten scope) :
    Reads (readFields scope) (fields.flatMap Field.lexemes ++ .punct .rightBrace :: rest) fields
      rest := by
  intro ts hts
  induction fields generalizing ts with
  | nil =>
      obtain ⟨us, hus, hbrace⟩ := exists_skip?_of_map hts
      exact ⟨us, hus, by rw [readFields, hbrace]⟩
  | cons f fields ih =>
      rw [List.forall_mem_cons] at hfields
      rw [List.flatMap_cons, List.append_assoc] at hts
      obtain ⟨us, hus, hread⟩ := reads_readFieldGroup hfields.1 ts hts
      obtain ⟨vs, hvs, hmore⟩ := ih hfields.2 us hus
      -- a member begins with a word
      have hbrace : skip? .rightBrace ts = none := by
        refine skip?_of_map hts ?_
        rw [Field.lexemes, QualifierSet.lexemes, Ty.declaratorLexemes]
        cases EnumSet.toList f.qualifiers <;> simp
      exact ⟨vs, hvs, readFields_of_group hbrace hread hmore⟩

/-- The lexemes of a block are read as the block, behind which its members are declared. -/
theorem readDeclaration_block {b : Block} (hb : b.IsWritten scope)
    (h : ts.map Documented.lexeme = b.lexemes) :
    readDeclaration scope condition doc ts =
      (.block b :: memberVariables { doc, qualifiers := ∅ } b, .ok []) := by
  rw [Block.lexemes] at h
  simp only [List.cons_append] at h
  obtain ⟨us, hus, hqualifiers⟩ := readQualifiers_lexemes ∅ hb.notKeyword h
  obtain ⟨vs, hvs, hword⟩ := reads_expectWord .missingType us hus
  obtain ⟨ws, hws, hbrace⟩ := exists_skip?_of_map hvs
  obtain ⟨xs, hxs, hread⟩ := reads_readFields (fun f hf => (hb.fields f hf).2) ws hws
  obtain ⟨ys, hys, hclose⟩ := exists_expect_of_map hxs
  rw [List.map_eq_nil_iff] at hys
  subst hys
  rw [readDeclaration, hqualifiers]
  dsimp only
  rw [hword]
  dsimp only
  rw [hbrace]
  dsimp only
  rw [readBlock, hread]
  dsimp only
  rw [hb.isSized, if_neg (by decide), word?_of_map hxs, hclose]

end Input

end GlslPrelude
