import GlslPrelude.Proofs.Declaration.Equations

/-!
# Input that goes on

A reader looks at no more than one token behind what it reads, and not even at that one if it ends
with a mark. So what it reads is read as well if further tokens follow the input. Since a
declaration ends with a semicolon, nothing behind it matters (`readDeclaration_append`).
-/

namespace GlslPrelude

namespace Input

variable {scope : Scope} {mark : Punct} {cause : ParseCause} {w : String} {ts rest : Input}

/-- An input that is shortened is not empty. -/
theorem ne_nil_of_length_lt (h : rest.length < ts.length) : ts ≠ [] :=
  List.ne_nil_of_length_pos (Nat.zero_lt_of_lt h)

/-- An input from which something is left is not empty. -/
theorem ne_nil_of_length_le (h : rest.length ≤ ts.length) (hne : rest ≠ []) : ts ≠ [] := by
  rintro rfl
  exact hne (List.eq_nil_of_length_eq_zero (Nat.le_zero.1 h))

/-! ## Marks, words and types -/

theorem skip?_append (h : skip? mark ts = some rest) (us : Input) :
    skip? mark (ts ++ us) = some (rest ++ us) := by
  obtain ⟨t, rfl, ht⟩ := skip?_eq_some_iff.1 h
  exact skip?_eq_some_iff.2 ⟨t, rfl, ht⟩

theorem skip?_append_of_none (h : skip? mark ts = none) (hne : ts ≠ []) (us : Input) :
    skip? mark (ts ++ us) = none := by
  obtain ⟨t, ts, rfl⟩ := List.exists_cons_of_ne_nil hne
  exact skip?_of_ne fun ht => by simp [skip?_eq_some_iff.2 ⟨t, rfl, ht⟩] at h

theorem expect_append (h : expect mark ts = .ok rest) (us : Input) :
    expect mark (ts ++ us) = .ok (rest ++ us) := by
  obtain ⟨t, rfl, ht⟩ := expect_eq_ok_iff.1 h
  exact expect_eq_ok_iff.2 ⟨t, rfl, ht⟩

theorem word?_append (h : word? ts = some (w, rest)) (us : Input) :
    word? (ts ++ us) = some (w, rest ++ us) := by
  obtain ⟨t, rfl, ht⟩ := word?_eq_some_iff.1 h
  exact word?_eq_some_iff.2 ⟨t, rfl, ht⟩

theorem word?_append_of_none (h : word? ts = none) (hne : ts ≠ []) (us : Input) :
    word? (ts ++ us) = none := by
  obtain ⟨t, ts, rfl⟩ := List.exists_cons_of_ne_nil hne
  cases hword : word? (t :: ts ++ us) with
  | none => rfl
  | some result =>
      obtain ⟨t', heq, ht⟩ := word?_eq_some_iff.1 hword
      obtain ⟨rfl, -⟩ := List.cons.inj heq
      simp [word?_eq_some_iff.2 ⟨t, rfl, ht⟩] at h

theorem expectWord_append (h : expectWord cause ts = .ok (w, rest)) (us : Input) :
    expectWord cause (ts ++ us) = .ok (w, rest ++ us) := by
  obtain ⟨t, rfl, ht⟩ := expectWord_eq_ok_iff.1 h
  exact expectWord_eq_ok_iff.2 ⟨t, rfl, ht⟩

theorem readQualifiers_append (qs : QualifierSet) (hne : (readQualifiers qs ts).2 ≠ [])
    (us : Input) :
    readQualifiers qs (ts ++ us) = ((readQualifiers qs ts).1, (readQualifiers qs ts).2 ++ us) := by
  fun_induction readQualifiers qs ts <;> simp_all [readQualifiers]

theorem readSizes_append {sizes : List ArraySize} (h : readSizes scope ts = .ok (sizes, rest))
    (hne : rest ≠ []) (us : Input) : readSizes scope (ts ++ us) = .ok (sizes, rest ++ us) := by
  fun_induction readSizes scope ts generalizing sizes rest with
  | case10 t ts hmark =>
      cases h
      exact readSizes_of_ne fun ht => hmark (Documented.isMark_iff.2 ht)
  | _ => simp_all [readSizes, stuck]

theorem readArray_append {element type : Ty} (h : readArray scope element ts = .ok (type, rest))
    (hne : rest ≠ []) (us : Input) :
    readArray scope element (ts ++ us) = .ok (type, rest ++ us) := by
  obtain ⟨sizes, hsizes, rfl⟩ := readArray_eq_ok_iff.1 h
  exact readArray_eq_ok_iff.2 ⟨sizes, readSizes_append hsizes hne us, rfl⟩

theorem readType_append {type : Ty} (h : readType cause scope ts = .ok (type, rest))
    (hne : rest ≠ []) (us : Input) :
    readType cause scope (ts ++ us) = .ok (type, rest ++ us) := by
  obtain ⟨name, vs, element, hword, htype, harray⟩ := readType_eq_ok_iff.1 h
  exact readType_eq_ok_iff.2
    ⟨name, vs ++ us, element, expectWord_append hword us, htype, readArray_append harray hne us⟩

/-- Qualifiers in front of a type are read as well if further tokens follow. -/
theorem readQualifiers_append_of_readType {type : Ty}
    (h : readType cause scope (readQualifiers ∅ ts).2 = .ok (type, rest)) (us : Input) :
    readQualifiers ∅ (ts ++ us) = ((readQualifiers ∅ ts).1, (readQualifiers ∅ ts).2 ++ us) := by
  refine readQualifiers_append ∅ ?_ us
  exact ne_nil_of_length_lt (length_readType_lt h)

/-! ## Functions and blocks -/

theorem readParameter_append {p : Parameter} (h : readParameter scope ts = .ok (p, rest))
    (hne : rest ≠ []) (us : Input) : readParameter scope (ts ++ us) = .ok (p, rest ++ us) := by
  obtain ⟨hqualifiers, hsized, element, vs, htype, hname⟩ := readParameter_eq_ok_iff.1 h
  rw [readParameter_eq_ok_iff, readQualifiers_append_of_readType htype us]
  refine ⟨hqualifiers, hsized, element, vs ++ us, ?_⟩
  -- the dimensions follow the name, if there is one, and something is left behind them
  rcases hname with ⟨name, ws, hp, hword, harray⟩ | ⟨hp, hword, harray⟩
  · have hvs : vs ≠ [] := by
      rintro rfl
      cases hword
    exact ⟨readType_append htype hvs us,
      .inl ⟨name, ws ++ us, hp, word?_append hword us, readArray_append harray hne us⟩⟩
  · have hvs := ne_nil_of_length_le (length_readArray_le harray) hne
    exact ⟨readType_append htype hvs us,
      .inr ⟨hp, word?_append_of_none hword hvs us, readArray_append harray hne us⟩⟩

theorem readMoreParameters_append {ps : List Parameter}
    (h : readMoreParameters scope ts = .ok (ps, rest)) (us : Input) :
    readMoreParameters scope (ts ++ us) = .ok (ps, rest ++ us) := by
  fun_induction readMoreParameters scope ts generalizing ps rest with
  | case3 ts p vs hp ws hskip _ more behind hmore ih =>
      cases h
      have hvs := ne_nil_of_length_lt (length_skip?_lt hskip)
      exact readMoreParameters_eq_ok_iff.2
        ⟨p, vs ++ us, readParameter_append hp hvs us,
          .inl ⟨ws ++ us, more, skip?_append hskip us, ih hmore, rfl⟩⟩
  | case5 ts p vs hp hskip behind hexpect =>
      cases h
      have hvs := ne_nil_of_length_lt (length_expect_lt hexpect)
      exact readMoreParameters_eq_ok_iff.2 ⟨p, vs ++ us, readParameter_append hp hvs us,
        .inr ⟨skip?_append_of_none hskip hvs us, expect_append hexpect us, rfl⟩⟩
  | _ => cases h

/-- Two tokens say whether `void` is the end of the parameters. -/
theorem skipVoid?_append_of_none (h : skipVoid? ts = none) (hlength : 2 ≤ ts.length) (us : Input) :
    skipVoid? (ts ++ us) = none := by
  obtain ⟨t, u, ts, rfl⟩ : ∃ t u vs, ts = t :: u :: vs :=
    match ts, hlength with
    | t :: u :: vs, _ => ⟨t, u, vs, rfl⟩
  rw [Option.eq_none_iff_forall_ne_some] at h ⊢
  intro behind hfound
  obtain ⟨t', u', heq, ht, hu⟩ := skipVoid?_eq_some_iff.1 hfound
  rw [List.cons_append, List.cons_append, List.cons.injEq, List.cons.injEq] at heq
  obtain ⟨rfl, rfl, -⟩ := heq
  exact h ts (skipVoid?_eq_some_iff.2 ⟨t, u, rfl, ht, hu⟩)

theorem readParameters_append {ps : List Parameter}
    (h : readParameters scope ts = .ok (ps, rest)) (us : Input) :
    readParameters scope (ts ++ us) = .ok (ps, rest ++ us) := by
  rw [readParameters_eq_ok_iff] at h ⊢
  rcases h with ⟨hskip, rfl⟩ | ⟨hskip, hvoid, rfl⟩ | ⟨hskip, hvoid, hmore⟩
  · exact .inl ⟨skip?_append hskip us, rfl⟩
  · obtain ⟨t, u, rfl, ht, hu⟩ := skipVoid?_eq_some_iff.1 hvoid
    exact .inr (.inl ⟨skip?_append_of_none hskip (List.cons_ne_nil _ _) us,
      skipVoid?_eq_some_iff.2 ⟨t, u, rfl, ht, hu⟩, rfl⟩)
  · -- the input has a parameter and a mark behind it
    have hlength : 2 ≤ ts.length := by
      obtain ⟨p, vs, hp, hmore⟩ := readMoreParameters_eq_ok_iff.1 hmore
      have hlt := length_readParameter_lt hp
      have hvs : vs ≠ [] := by
        rcases hmore with ⟨ws, more, hcomma, -, -⟩ | ⟨-, hexpect, -⟩
        · exact ne_nil_of_length_lt (length_skip?_lt hcomma)
        · exact ne_nil_of_length_lt (length_expect_lt hexpect)
      have hpos := List.length_pos_iff.2 hvs
      omega
    have hts : ts ≠ [] := List.ne_nil_of_length_pos (Nat.zero_lt_of_lt hlength)
    exact .inr (.inr ⟨skip?_append_of_none hskip hts us, skipVoid?_append_of_none hvoid hlength us,
      readMoreParameters_append hmore us⟩)

theorem readFieldNames_append {qs : QualifierSet} {element : Ty} {fields : List (Field Ty)}
    (h : readFieldNames scope qs element ts = .ok (fields, rest)) (us : Input) :
    readFieldNames scope qs element (ts ++ us) = .ok (fields, rest ++ us) := by
  fun_induction readFieldNames scope qs element ts generalizing fields rest with
  | case4 ts name vs hname type ws harray xs hskip _ more behind hmore ih =>
      cases h
      have hws := ne_nil_of_length_lt (length_skip?_lt hskip)
      exact readFieldNames_eq_ok_iff.2 ⟨name, vs ++ us, type, ws ++ us, expectWord_append hname us,
        readArray_append harray hws us, .inl ⟨xs ++ us, more, skip?_append hskip us, ih hmore, rfl⟩⟩
  | case6 ts name vs hname type ws harray hskip behind hexpect =>
      cases h
      have hws := ne_nil_of_length_lt (length_expect_lt hexpect)
      exact readFieldNames_eq_ok_iff.2 ⟨name, vs ++ us, type, ws ++ us, expectWord_append hname us,
        readArray_append harray hws us,
        .inr ⟨skip?_append_of_none hskip hws us, expect_append hexpect us, rfl⟩⟩
  | _ => cases h

theorem readFieldGroup_append {fields : List (Field Ty)}
    (h : readFieldGroup scope ts = .ok (fields, rest)) (us : Input) :
    readFieldGroup scope (ts ++ us) = .ok (fields, rest ++ us) := by
  obtain ⟨element, vs, htype, hnames⟩ := readFieldGroup_eq_ok_iff.1 h
  have hvs : vs ≠ [] := ne_nil_of_length_lt (length_readFieldNames_lt hnames)
  rw [readFieldGroup_eq_ok_iff, readQualifiers_append_of_readType htype us]
  exact ⟨element, vs ++ us, readType_append htype hvs us, readFieldNames_append hnames us⟩

theorem readFields_append {fields : List (Field Ty)}
    (h : readFields scope ts = .ok (fields, rest)) (us : Input) :
    readFields scope (ts ++ us) = .ok (fields, rest ++ us) := by
  fun_induction readFields scope ts generalizing fields rest with
  | case1 ts behind hskip =>
      cases h
      exact readFields_eq_ok_iff.2 (.inl ⟨skip?_append hskip us, rfl⟩)
  | case5 ts hskip _ group vs hgroup _ more behind hmore ih =>
      cases h
      have hts : ts ≠ [] := ne_nil_of_length_lt (length_readFieldGroup_lt hgroup)
      exact readFields_eq_ok_iff.2 (.inr ⟨skip?_append_of_none hskip hts us, group, vs ++ us, more,
        readFieldGroup_append hgroup us, ih hmore, rfl⟩)
  | _ => cases h

/-! ## Values -/

theorem negate_append {value negated : ConstValue} (h : negate value rest = .ok negated)
    (us : Input) : negate value (rest ++ us) = .ok negated := by
  cases value <;> cases h <;> rfl

mutual

theorem readInitializer_append {value : ConstValue} (ts : Input) {rest : Input}
    (h : withRest (readInitializer scope ts) = .ok (value, rest)) (hne : rest ≠ []) (us : Input) :
    withRest (readInitializer scope (ts ++ us)) = .ok (value, rest ++ us) := by
  match ts with
  | [] =>
      rw [withRest_readInitializer_nil] at h
      cases h
  | t :: ts =>
      rw [List.cons_append, withRest_readInitializer_eq_ok_iff]
      rcases withRest_readInitializer_eq_ok_iff.1 h with ⟨ht, values, hvalues, rfl⟩ |
        ⟨ht, literal, hliteral, hnegate⟩ | ⟨ht, hliteral⟩ | ⟨hbrace, hminus, hplus, hliteral⟩
      · exact .inl ⟨ht, values, readValues_append .rightBrace ts hvalues us, rfl⟩
      · exact .inr (.inl ⟨ht, literal, readLiteral_append ts hliteral hne us,
          negate_append hnegate us⟩)
      · exact .inr (.inr (.inl ⟨ht, readLiteral_append ts hliteral hne us⟩))
      · exact .inr (.inr (.inr
          ⟨hbrace, hminus, hplus, readLiteral_append (t :: ts) hliteral hne us⟩))
termination_by (ts.length, 1)

theorem readLiteral_append {value : ConstValue} (ts : Input) {rest : Input}
    (h : withRest (readLiteral scope ts) = .ok (value, rest)) (hne : rest ≠ []) (us : Input) :
    withRest (readLiteral scope (ts ++ us)) = .ok (value, rest ++ us) := by
  match ts with
  | [] =>
      rw [withRest_readLiteral_nil] at h
      cases h
  | t :: ts =>
      rw [List.cons_append, withRest_readLiteral_eq_ok_iff]
      rcases withRest_readLiteral_eq_ok_iff.1 h with
        ⟨name, inside, values, hname, htype, hskip, hvalues, rfl⟩ | ⟨hnone, hliteral, rfl⟩
      · have := length_skip?_lt hskip
        exact .inl ⟨name, inside ++ us, values, hname, htype, skip?_append hskip us,
          readValues_append .rightParen inside hvalues us, rfl⟩
      · -- what follows the word is no parenthesis, because something follows it
        exact .inr ⟨fun name hname htype => skip?_append_of_none (hnone name hname htype) hne us,
          hliteral, rfl⟩
termination_by (ts.length, 0)

theorem readValues_append (close : Punct) {values : List ConstValue} (ts : Input) {rest : Input}
    (h : withRest (readValues scope close ts) = .ok (values, rest)) (us : Input) :
    withRest (readValues scope close (ts ++ us)) = .ok (values, rest ++ us) := by
  rw [withRest_readValues_eq_ok_iff] at h ⊢
  rcases h with ⟨hskip, rfl⟩ | ⟨hskip, hmore⟩
  · exact .inl ⟨skip?_append hskip us, rfl⟩
  · have hts : ts ≠ [] := by
      rintro rfl
      obtain ⟨value, vs, hvalue, -⟩ := withRest_readMoreValues_eq_ok_iff.1 hmore
      rw [withRest_readInitializer_nil] at hvalue
      cases hvalue
    exact .inr ⟨skip?_append_of_none hskip hts us, readMoreValues_append close ts hmore us⟩
termination_by (ts.length, 3)

theorem readMoreValues_append (close : Punct) {values : List ConstValue} (ts : Input) {rest : Input}
    (h : withRest (readMoreValues scope close ts) = .ok (values, rest)) (us : Input) :
    withRest (readMoreValues scope close (ts ++ us)) = .ok (values, rest ++ us) := by
  obtain ⟨value, vs, hvalue, hmore⟩ := withRest_readMoreValues_eq_ok_iff.1 h
  rw [withRest_readMoreValues_eq_ok_iff]
  obtain ⟨hlength, -⟩ := exists_of_withRest hvalue
  rcases hmore with ⟨ws, more, hskip, hmore, rfl⟩ | ⟨hskip, hexpect, rfl⟩
  · have hlt := length_skip?_lt hskip
    have hvs := ne_nil_of_length_lt hlt
    exact ⟨value, vs ++ us, readInitializer_append ts hvalue hvs us,
      .inl ⟨ws ++ us, more, skip?_append hskip us, readMoreValues_append close ws hmore us, rfl⟩⟩
  · have hvs := ne_nil_of_length_lt (length_expect_lt hexpect)
    exact ⟨value, vs ++ us, readInitializer_append ts hvalue hvs us,
      .inr ⟨skip?_append_of_none hskip hvs us, expect_append hexpect us, rfl⟩⟩
termination_by (ts.length, 2)

end

/-! ## Declarations -/

theorem readDeclarator_append {head : Head} {element : Ty} {name : String} {entity : Entity}
    (h : readDeclarator scope head element name ts = .ok (entity, rest)) (hne : rest ≠ [])
    (us : Input) :
    readDeclarator scope head element name (ts ++ us) = .ok (entity, rest ++ us) := by
  rw [readDeclarator_eq_ok_iff] at h ⊢
  obtain ⟨type, vs, harray, hentity⟩ := h
  rcases hentity with ⟨hconst, ws, read, value, hskip, hread, hcoerce, rfl⟩ |
    ⟨hconst, hskip, rfl, rfl⟩
  · have hvs := ne_nil_of_length_lt (length_skip?_lt hskip)
    exact ⟨type, vs ++ us, readArray_append harray hvs us,
      .inl ⟨hconst, ws ++ us, read, value, skip?_append hskip us,
        readInitializer_append ws hread hne us, hcoerce, rfl⟩⟩
  · exact ⟨type, vs ++ us, readArray_append harray hne us,
      .inr ⟨hconst, skip?_append_of_none hskip hne us, rfl, rfl⟩⟩

theorem readDeclarators_append {head : Head} {element : Ty} {name : String} {entities : List Entity}
    (h : readDeclarators scope head element name ts = (entities, .ok rest)) (us : Input) :
    readDeclarators scope head element name (ts ++ us) = (entities, .ok (rest ++ us)) := by
  fun_induction readDeclarators scope head element name ts generalizing entities rest with
  | case1 => cases h
  | case2 scope name ts entity vs hentity hskip =>
      obtain ⟨rfl, hexpect⟩ := Prod.mk.inj h
      have hvs := ne_nil_of_length_lt (length_expect_lt hexpect)
      exact readDeclarators_eq_ok_iff.2 ⟨entity, vs ++ us, readDeclarator_append hentity hvs us,
        .inl ⟨skip?_append_of_none hskip hvs us, expect_append hexpect us, rfl⟩⟩
  | case3 => cases h
  | case4 scope name ts entity vs hentity ws hskip next xs hnext _ more result hmore ih =>
      obtain ⟨rfl, rfl⟩ := Prod.mk.inj h
      have hvs := ne_nil_of_length_lt (length_skip?_lt hskip)
      exact readDeclarators_eq_ok_iff.2 ⟨entity, vs ++ us, readDeclarator_append hentity hvs us,
        .inr ⟨ws ++ us, next, xs ++ us, more, skip?_append hskip us, expectWord_append hnext us,
          ih hmore, rfl⟩⟩

theorem readBlock_append {head : Head} {name : String} {entities : List Entity}
    (h : readBlock scope head name ts = (entities, .ok rest)) (us : Input) :
    readBlock scope head name (ts ++ us) = (entities, .ok (rest ++ us)) := by
  rw [readBlock_eq_ok_iff] at h ⊢
  obtain ⟨fields, vs, hfields, hsized, hentities⟩ := h
  refine ⟨fields, vs ++ us, readFields_append hfields us, hsized, ?_⟩
  rcases hentities with ⟨hword, hexpect, rfl⟩ |
    ⟨instanceName, ws, type, xs, hword, harray, hexpect, rfl⟩
  · have hvs := ne_nil_of_length_lt (length_expect_lt hexpect)
    exact .inl ⟨word?_append_of_none hword hvs us, expect_append hexpect us, rfl⟩
  · have hxs := ne_nil_of_length_lt (length_expect_lt hexpect)
    exact .inr ⟨instanceName, ws ++ us, type, xs ++ us, word?_append hword us,
      readArray_append harray hxs us, expect_append hexpect us, rfl⟩

theorem readFunction_append {head : Head} {condition : Condition} {returnType : Ty} {name : String}
    {entities : List Entity}
    (h : readFunction scope head condition returnType name ts = (entities, .ok rest)) (us : Input) :
    readFunction scope head condition returnType name (ts ++ us) =
      (entities, .ok (rest ++ us)) := by
  rw [readFunction_eq_ok_iff] at h ⊢
  obtain ⟨parameters, vs, hparameters, hexpect, rfl⟩ := h
  exact ⟨parameters, vs ++ us, readParameters_append hparameters us, expect_append hexpect us, rfl⟩

theorem readNamed_append {head : Head} {condition : Condition} {element : Ty}
    {entities : List Entity}
    (h : readNamed scope head condition element ts = (entities, .ok rest)) (us : Input) :
    readNamed scope head condition element (ts ++ us) = (entities, .ok (rest ++ us)) := by
  rw [readNamed_eq_ok_iff] at h ⊢
  obtain ⟨type, vs, name, ws, harray, hword, hnamed⟩ := h
  refine ⟨type, vs ++ us, name, ws ++ us, ?_, expectWord_append hword us, ?_⟩
  · exact readArray_append harray (ne_nil_of_length_lt (length_expectWord_lt hword)) us
  · rcases hnamed with ⟨xs, hskip, hfunction⟩ | ⟨hskip, hdeclarators⟩
    · exact .inl ⟨xs ++ us, skip?_append hskip us, readFunction_append hfunction us⟩
    · have hlt := length_readDeclarators_lt (congrArg Prod.snd hdeclarators)
      have hws := ne_nil_of_length_lt hlt
      exact .inr ⟨skip?_append_of_none hskip hws us, readDeclarators_append hdeclarators us⟩

/-- A declaration that is read to its end is read as well if anything follows. -/
theorem readDeclaration_append {condition : Condition} {doc : Option String}
    {entities : List Entity}
    (h : readDeclaration scope condition doc ts = (entities, .ok rest)) (us : Input) :
    readDeclaration scope condition doc (ts ++ us) = (entities, .ok (rest ++ us)) := by
  obtain ⟨name, vs, hword, hnamed⟩ := readDeclaration_eq_ok_iff.1 h
  have hne := ne_nil_of_length_lt (length_expectWord_lt hword)
  have hqualifiers := readQualifiers_append ∅ hne us
  rw [readDeclaration_eq_ok_iff, hqualifiers]
  refine ⟨name, vs ++ us, expectWord_append hword us, ?_⟩
  rcases hnamed with ⟨ws, hskip, hblock⟩ | ⟨hskip, element, htype, hnamed⟩
  · exact .inl ⟨ws ++ us, skip?_append hskip us, readBlock_append hblock us⟩
  · have hlt := length_readNamed_lt (congrArg Prod.snd hnamed)
    have hvs := ne_nil_of_length_lt hlt
    exact .inr ⟨skip?_append_of_none hskip hvs us, element, htype, readNamed_append hnamed us⟩

end Input

end GlslPrelude
