import GlslPrelude.Proofs.Declaration.Equations
import GlslPrelude.Proofs.Declaration.Phrases
import GlslPrelude.Proofs.Type.Names

/-!
# Declarations are read from phrases

Whatever a declaration is read from is a phrase that declares it: its types have the dimensions that
are written, and every named length is the value of a constant that was in scope before or is
declared by the declaration itself (`exists_phrase_of_readDeclaration`).
-/

namespace GlslPrelude

/-! ## Recorded constants -/

/-- If the entity is an integer constant, `IsConstant` relates its name to its value. -/
def Entity.Within (IsConstant : String → Int64 → Prop) : Entity → Prop
  | .const c => ∀ i, c.value.toInt? = some i → IsConstant c.name i
  | .var _ | .block _ | .function _ => True

/-- `IsConstant` relates the name of each constant in scope to its value. -/
def Scope.Within (scope : Scope) (IsConstant : String → Int64 → Prop) : Prop :=
  ∀ name i, scope.constant? name = some i → IsConstant name i

section Within

variable {IsConstant : String → Int64 → Prop} {scope : Scope}

theorem Scope.within_empty : Scope.empty.Within IsConstant :=
  nofun

theorem Scope.Within.record (h : scope.Within IsConstant) {entity : Entity}
    (hentity : entity.Within IsConstant) : (scope.record entity).Within IsConstant := by
  intro name i hi
  rw [constant?_record, Option.or_eq_some_iff] at hi
  rcases hi with hi | ⟨-, hi⟩
  · obtain ⟨c, rfl, rfl, hvalue⟩ := Entity.integer?_eq_some_iff.1 hi
    exact hentity i hvalue
  · exact h name i hi

theorem Scope.Within.foldl_record (h : scope.Within IsConstant) {entities : List Entity}
    (hentities : ∀ entity ∈ entities, entity.Within IsConstant) :
    (entities.foldl Scope.record scope).Within IsConstant := by
  induction entities generalizing scope with
  | nil => exact h
  | cons entity entities ih =>
      rw [List.forall_mem_cons] at hentities
      exact ih (h.record hentities.1) hentities.2

end Within

/-! ## Reading phrases -/

namespace Input

/-- The input begins with some lexemes. -/
def Spells (ts : Input) (ls : List Lexeme) (rest : Input) : Prop :=
  ts.map Documented.lexeme = ls ++ rest.map Documented.lexeme

variable {IsConstant : String → Int64 → Prop} {scope : Scope} {mark : Punct} {cause : ParseCause}
  {w : String} {ls ls' : List Lexeme} {ts us rest : Input}

theorem Spells.refl (ts : Input) : ts.Spells [] ts :=
  rfl

theorem Spells.trans (h : ts.Spells ls us) (h' : us.Spells ls' rest) :
    ts.Spells (ls ++ ls') rest := by
  rw [Spells, h, h', List.append_assoc]

theorem Spells.cons {t : Documented} {l : Lexeme} (ht : t.lexeme = l) (h : ts.Spells ls rest) :
    Spells (t :: ts) (l :: ls) rest := by
  rw [Spells, List.map_cons, ht, h, List.cons_append]

theorem spells_skip? (h : skip? mark ts = some rest) : ts.Spells [.punct mark] rest := by
  obtain ⟨t, rfl, ht⟩ := skip?_eq_some_iff.1 h
  exact (Spells.refl rest).cons ht

theorem spells_expect (h : expect mark ts = .ok rest) : ts.Spells [.punct mark] rest := by
  obtain ⟨t, rfl, ht⟩ := expect_eq_ok_iff.1 h
  exact (Spells.refl rest).cons ht

theorem spells_word? (h : word? ts = some (w, rest)) : ts.Spells [.word w] rest := by
  obtain ⟨t, rfl, ht⟩ := word?_eq_some_iff.1 h
  exact (Spells.refl rest).cons ht

theorem spells_expectWord (h : expectWord cause ts = .ok (w, rest)) : ts.Spells [.word w] rest := by
  obtain ⟨t, rfl, ht⟩ := expectWord_eq_ok_iff.1 h
  exact (Spells.refl rest).cons ht

theorem exists_spells_readQualifiers (qs : QualifierSet) (ts : Input) :
    ∃ words : List String, ts.Spells (words.map .word) (readQualifiers qs ts).2 := by
  fun_induction readQualifiers qs ts with
  | case2 qs t ts w ht q hq ih =>
      obtain ⟨words, hwords⟩ := ih
      exact ⟨w :: words, hwords.cons ht⟩
  | _ => exact ⟨[], .refl _⟩

theorem size_eq_ok_iff {l : Lexeme} {n : Nat} :
    scope.size l = .ok n ↔ scope.sizeNumber l = .ok n ∧ 1 ≤ n ∧ n < UInt32.size := by
  rw [Scope.size]
  cases scope.sizeNumber l with
  | error e => simp
  | ok m =>
      dsimp only
      split
      · rename_i hvalid
        rw [Bool.and_eq_true, decide_eq_true_eq, decide_eq_true_eq] at hvalid
        constructor
        · rintro ⟨⟩
          exact ⟨rfl, hvalid⟩
        · exact And.left
      · rename_i hvalid
        refine iff_of_false nofun ?_
        rintro ⟨⟨⟩, hn⟩
        rw [Bool.and_eq_true, decide_eq_true_eq, decide_eq_true_eq] at hvalid
        exact hvalid hn

/-- The length of a dimension is the literal or the value of the constant. -/
theorem exists_denotes_of_size (hscope : scope.Within IsConstant) {l : Lexeme} {n : Nat}
    (h : scope.size l = .ok n) :
    ∃ p : SizePhrase, p.lexemes = [.punct .leftBracket, l, .punct .rightBracket] ∧
      p.Denotes IsConstant (.fixed n) := by
  obtain ⟨hnumber, hpos, hlt⟩ := size_eq_ok_iff.1 h
  cases l with
  | int value isUnsigned =>
      cases hnumber
      exact ⟨.literal value isUnsigned, rfl, .literal hpos hlt⟩
  | word name =>
      rw [Scope.sizeNumber] at hnumber
      split at hnumber
      · rename_i i hi
        split at hnumber <;> cases hnumber
        rename_i hsign
        have hi' : i.toInt = (i.toInt.toNat : Int) := by
          rw [Int64.lt_iff_toInt_lt] at hsign
          exact (Int.toNat_of_nonneg (Int.not_lt.1 hsign)).symm
        exact ⟨.constant name, rfl, .constant (hscope name i hi) hi' hpos hlt⟩
      · cases hnumber
  | _ => cases hnumber

/-- Dimensions are read from what they are written as. -/
theorem exists_phrases_of_readSizes (hscope : scope.Within IsConstant) {sizes : List ArraySize}
    (h : readSizes scope ts = .ok (sizes, rest)) :
    ∃ ps : List SizePhrase, ts.Spells (ps.flatMap SizePhrase.lexemes) rest ∧
      List.Forall₂ (SizePhrase.Denotes IsConstant) ps sizes := by
  fun_induction readSizes scope ts generalizing sizes rest with
  | case3 t ht u us hu sizes rest hread ih =>
      cases h
      obtain ⟨ps, hps, hsizes⟩ := ih hread
      have hspells := (hps.cons (Documented.isMark_iff.1 hu)).cons (Documented.isMark_iff.1 ht)
      exact ⟨.empty :: ps, hspells, .cons .empty hsizes⟩
  | case7 t ht u hu n hn v vs hv sizes rest hread ih =>
      cases h
      obtain ⟨ps, hps, hsizes⟩ := ih hread
      obtain ⟨p, hp, hdenotes⟩ := exists_denotes_of_size hscope hn
      refine ⟨p :: ps, ?_, .cons hdenotes hsizes⟩
      rw [List.flatMap_cons, hp]
      exact ((hps.cons (Documented.isMark_iff.1 hv)).cons rfl).cons (Documented.isMark_iff.1 ht)
  | case1 | case10 =>
      cases h
      exact ⟨[], .refl _, .nil⟩
  | _ => cases h

/-- Behind dimensions there are no further ones. -/
theorem readSizes_of_readSizes {sizes : List ArraySize}
    (h : readSizes scope ts = .ok (sizes, rest)) : readSizes scope rest = .ok ([], rest) := by
  fun_induction readSizes scope ts generalizing sizes rest with
  | case3 t ht u us hu sizes rest hread ih =>
      cases h
      exact ih hread
  | case7 t ht u hu n hn v vs hv sizes rest hread ih =>
      cases h
      exact ih hread
  | case1 =>
      cases h
      rw [readSizes]
  | case10 t ts ht =>
      cases h
      exact readSizes_of_ne fun hlexeme => ht (Documented.isMark_iff.2 hlexeme)
  | _ => cases h

/-- Dimensions of a type stand behind further ones in front of it. -/
theorem exists_phrases_of_readArray (hscope : scope.Within IsConstant) {element type : Ty}
    {typeSizes : List SizePhrase}
    (helement : List.Forall₂ (SizePhrase.Denotes IsConstant) typeSizes element.sizes)
    (h : readArray scope element ts = .ok (type, rest)) :
    ∃ ps : List SizePhrase, ts.Spells (ps.flatMap SizePhrase.lexemes) rest ∧
      List.Forall₂ (SizePhrase.Denotes IsConstant) (ps ++ typeSizes) type.sizes := by
  obtain ⟨sizes, hread, rfl⟩ := readArray_eq_ok_iff.1 h
  obtain ⟨ps, hps, hsizes⟩ := exists_phrases_of_readSizes hscope hread
  refine ⟨ps, hps, ?_⟩
  rw [Ty.sizes_arrayOf]
  exact List.rel_append hsizes helement

/-- What a word stands for is no array. -/
theorem sizes_of_type? {t : Ty} (h : scope.type? w = some t) : t.sizes = [] := by
  rw [Scope.type?] at h
  cases hword : Ty.ofName? w with
  | none =>
      rw [hword] at h
      obtain ⟨block, -, rfl⟩ := Option.map_eq_some_iff.1 h
      rfl
  | some t' =>
      rw [hword] at h
      cases h
      rw [← (Ty.isNamed_of_ofName? hword).base_eq, Ty.sizes_base]

/-- Qualifiers and a type are read from what they are written as. -/
theorem exists_phrase_of_readType (hscope : scope.Within IsConstant) {type : Ty}
    (h : readType cause scope (readQualifiers ∅ ts).2 = .ok (type, rest)) :
    ∃ p : TypePhrase, ts.Spells p.lexemes rest ∧
      List.Forall₂ (SizePhrase.Denotes IsConstant) p.sizes type.sizes := by
  obtain ⟨words, hwords⟩ := exists_spells_readQualifiers ∅ ts
  obtain ⟨word, us, element, hword, htype, harray⟩ := readType_eq_ok_iff.1 h
  have helement : List.Forall₂ (SizePhrase.Denotes IsConstant) [] element.sizes := by
    rw [sizes_of_type? htype]
    exact .nil
  obtain ⟨ps, hps, hsizes⟩ := exists_phrases_of_readArray hscope helement harray
  rw [List.append_nil] at hsizes
  exact ⟨⟨words, word, ps⟩, hwords.trans ((spells_expectWord hword).trans hps), hsizes⟩

/-- A declared name is read from what it is written as. -/
theorem exists_phrase_of_readArray (hscope : scope.Within IsConstant) {element type : Ty}
    {typeSizes : List SizePhrase}
    (helement : List.Forall₂ (SizePhrase.Denotes IsConstant) typeSizes element.sizes)
    (hname : ts.Spells [.word w] us) (h : readArray scope element us = .ok (type, rest)) :
    ∃ p : NamePhrase, ts.Spells p.lexemes rest ∧ p.Declares IsConstant typeSizes w type := by
  obtain ⟨ps, hps, hsizes⟩ := exists_phrases_of_readArray hscope helement h
  exact ⟨⟨w, ps⟩, hname.trans hps, rfl, hsizes⟩

/-! ### Lists -/

section CommaSeparated

variable {α : Type} {lexemes : α → List Lexeme} {p : α} {ps : List α}

/-- The last phrase of a list is followed by the closing mark. -/
theorem spells_commaSeparated_singleton (hp : ts.Spells (lexemes p) us)
    (hclose : expect mark us = .ok rest) :
    ts.Spells (commaSeparated lexemes [p] ++ [.punct mark]) rest := by
  rw [commaSeparated, List.map_singleton, List.intercalate_singleton]
  exact hp.trans (spells_expect hclose)

/-- The other phrases of a list are followed by commas. -/
theorem spells_commaSeparated_cons {vs : Input} (hp : ts.Spells (lexemes p) us)
    (hcomma : skip? .comma us = some vs) (hne : ps ≠ [])
    (hps : vs.Spells (commaSeparated lexemes ps ++ [.punct mark]) rest) :
    ts.Spells (commaSeparated lexemes (p :: ps) ++ [.punct mark]) rest := by
  obtain ⟨q, qs, rfl⟩ := List.exists_cons_of_ne_nil hne
  have hall := hp.trans ((spells_skip? hcomma).trans hps)
  rw [commaSeparated, List.map_cons, List.map_cons, List.intercalate_cons_cons,
    ← List.map_cons, List.append_assoc, List.append_assoc]
  exact hall

end CommaSeparated

/-! ### Functions -/

/-- A parameter is read from what it is written as. -/
theorem exists_phrase_of_readParameter (hscope : scope.Within IsConstant) {parameter : Parameter}
    (h : readParameter scope ts = .ok (parameter, rest)) :
    ∃ p : ParameterPhrase, ts.Spells p.lexemes rest ∧ p.Declares IsConstant parameter := by
  obtain ⟨-, -, element, us, htype, hname⟩ := readParameter_eq_ok_iff.1 h
  obtain ⟨type, hspells, hsizes⟩ := exists_phrase_of_readType hscope htype
  rcases hname with ⟨name, vs, hname, hword, harray⟩ | ⟨hname, -, harray⟩
  · obtain ⟨p, hp, hdeclares⟩ :=
      exists_phrase_of_readArray hscope hsizes (spells_word? hword) harray
    refine ⟨⟨type, some p⟩, hspells.trans hp, ?_, hdeclares.sizes⟩
    rw [hname, hdeclares.name_eq]
    rfl
  · -- all dimensions of an unnamed parameter stand behind the word for its type
    obtain ⟨-, vs, _, -, -, hbefore⟩ := readType_eq_ok_iff.1 htype
    obtain ⟨_, hbefore, -⟩ := readArray_eq_ok_iff.1 hbefore
    obtain ⟨sizes, hread, heq⟩ := readArray_eq_ok_iff.1 harray
    obtain ⟨rfl, rfl⟩ := Prod.mk.inj
      (Except.ok.inj ((readSizes_of_readSizes hbefore).symm.trans hread))
    refine ⟨⟨type, none⟩, ?_, hname, ?_⟩
    · rw [ParameterPhrase.lexemes, Option.map_none, Option.getD_none, List.append_nil]
      exact hspells
    · rw [heq]
      exact hsizes

/-- Parameters are read from what they are written as. -/
theorem exists_phrases_of_readMoreParameters (hscope : scope.Within IsConstant)
    {parameters : List Parameter} (h : readMoreParameters scope ts = .ok (parameters, rest)) :
    ∃ ps : List ParameterPhrase, ps ≠ [] ∧
      ts.Spells (commaSeparated ParameterPhrase.lexemes ps ++ [.punct .rightParen]) rest ∧
      List.Forall₂ (ParameterPhrase.Declares IsConstant) ps parameters := by
  fun_induction readMoreParameters scope ts generalizing parameters rest with
  | case3 ts parameter us hread vs hskip _ more behind hmore ih =>
      cases h
      obtain ⟨p, hp, hdeclares⟩ := exists_phrase_of_readParameter hscope hread
      obtain ⟨ps, hne, hps, hall⟩ := ih hmore
      exact ⟨p :: ps, List.cons_ne_nil _ _, spells_commaSeparated_cons hp hskip hne hps,
        .cons hdeclares hall⟩
  | case5 ts parameter us hread hskip behind hclose =>
      cases h
      obtain ⟨p, hp, hdeclares⟩ := exists_phrase_of_readParameter hscope hread
      exact ⟨[p], List.cons_ne_nil _ _, spells_commaSeparated_singleton hp hclose,
        .cons hdeclares .nil⟩
  | _ => cases h

/-- The parameters of a function, or `void` in their place, are read from what they are written as.
-/
theorem exists_phrases_of_readParameters (hscope : scope.Within IsConstant)
    {parameters : List Parameter} (h : readParameters scope ts = .ok (parameters, rest)) :
    (∃ ps : List ParameterPhrase,
        ts.Spells (commaSeparated ParameterPhrase.lexemes ps ++ [.punct .rightParen]) rest ∧
        List.Forall₂ (ParameterPhrase.Declares IsConstant) ps parameters) ∨
      ts.Spells [.word "void", .punct .rightParen] rest ∧ parameters = [] := by
  rcases readParameters_eq_ok_iff.1 h with ⟨hskip, rfl⟩ | ⟨-, hvoid, rfl⟩ | ⟨-, -, hmore⟩
  · exact .inl ⟨[], spells_skip? hskip, .nil⟩
  · obtain ⟨t, u, rfl, ht, hu⟩ := skipVoid?_eq_some_iff.1 hvoid
    exact .inr ⟨((Spells.refl rest).cons hu).cons ht, rfl⟩
  · obtain ⟨ps, -, hps, hall⟩ := exists_phrases_of_readMoreParameters hscope hmore
    exact .inl ⟨ps, hps, hall⟩

/-! ### Blocks -/

/-- Names of members are read from what they are written as. -/
theorem exists_phrases_of_readFieldNames (hscope : scope.Within IsConstant) {qs : QualifierSet}
    {element : Ty} {typeSizes : List SizePhrase}
    (helement : List.Forall₂ (SizePhrase.Denotes IsConstant) typeSizes element.sizes)
    {fields : List (Field Ty)} (h : readFieldNames scope qs element ts = .ok (fields, rest)) :
    ∃ ps : List NamePhrase, ps ≠ [] ∧
      ts.Spells (commaSeparated NamePhrase.lexemes ps ++ [.punct .semicolon]) rest ∧
      List.Forall₂ (fun p field => p.Declares IsConstant typeSizes field.name field.type) ps
        fields := by
  fun_induction readFieldNames scope qs element ts generalizing fields rest with
  | case4 ts name us hname type vs harray ws hskip _ more behind hmore ih =>
      cases h
      obtain ⟨p, hp, hdeclares⟩ :=
        exists_phrase_of_readArray hscope helement (spells_expectWord hname) harray
      obtain ⟨ps, hne, hps, hall⟩ := ih hmore
      exact ⟨p :: ps, List.cons_ne_nil _ _, spells_commaSeparated_cons hp hskip hne hps,
        .cons hdeclares hall⟩
  | case6 ts name us hname type vs harray hskip behind hclose =>
      cases h
      obtain ⟨p, hp, hdeclares⟩ :=
        exists_phrase_of_readArray hscope helement (spells_expectWord hname) harray
      exact ⟨[p], List.cons_ne_nil _ _, spells_commaSeparated_singleton hp hclose,
        .cons hdeclares .nil⟩
  | _ => cases h

/-- Members of one type are read from what they are written as. -/
theorem exists_phrase_of_readFieldGroup (hscope : scope.Within IsConstant)
    {fields : List (Field Ty)} (h : readFieldGroup scope ts = .ok (fields, rest)) :
    ∃ p : MemberPhrase, ts.Spells p.lexemes rest ∧ p.Declares IsConstant fields := by
  obtain ⟨element, us, htype, hnames⟩ := readFieldGroup_eq_ok_iff.1 h
  obtain ⟨type, hspells, hsizes⟩ := exists_phrase_of_readType hscope htype
  obtain ⟨ps, -, hps, hall⟩ := exists_phrases_of_readFieldNames hscope hsizes hnames
  refine ⟨⟨type, ps⟩, ?_, hall⟩
  rw [MemberPhrase.lexemes, List.append_assoc]
  exact hspells.trans hps

/-- The members of a block are read from what they are written as. -/
theorem exists_phrases_of_readFields (hscope : scope.Within IsConstant) {fields : List (Field Ty)}
    (h : readFields scope ts = .ok (fields, rest)) :
    ∃ (ps : List MemberPhrase) (groups : List (List (Field Ty))),
      ts.Spells (ps.flatMap MemberPhrase.lexemes ++ [.punct .rightBrace]) rest ∧
      fields = groups.flatten ∧ List.Forall₂ (MemberPhrase.Declares IsConstant) ps groups := by
  fun_induction readFields scope ts generalizing fields rest with
  | case1 ts behind hskip =>
      cases h
      exact ⟨[], [], spells_skip? hskip, rfl, .nil⟩
  | case5 ts hskip _ group us hgroup _ more behind hmore ih =>
      cases h
      obtain ⟨p, hp, hdeclares⟩ := exists_phrase_of_readFieldGroup hscope hgroup
      obtain ⟨ps, groups, hps, rfl, hall⟩ := ih hmore
      refine ⟨p :: ps, group :: groups, ?_, rfl, .cons hdeclares hall⟩
      rw [List.flatMap_cons, List.append_assoc]
      exact hp.trans hps
  | _ => cases h

/-- A block is read from what it is written as. -/
theorem exists_phrase_of_readBlock (hscope : scope.Within IsConstant) {head : Head}
    {entities : List Entity} {us : Input} {words : List String}
    (hhead : ts.Spells (words.map .word ++ [.word w, .punct .leftBrace]) us)
    (h : readBlock scope head w us = (entities, .ok rest)) :
    ∃ p : Phrase, ts.Spells p.lexemes rest ∧ p.Declares IsConstant entities := by
  obtain ⟨fields, vs, hfields, -, hentities⟩ := readBlock_eq_ok_iff.1 h
  obtain ⟨members, groups, hmembers, heq, hall⟩ := exists_phrases_of_readFields hscope hfields
  rcases hentities with ⟨-, hclose, rfl⟩ | ⟨name, ws, type, xs, hword, harray, hclose, rfl⟩
  · refine ⟨.block words w members none, ?_,
      @Phrase.Declares.anonymous IsConstant words members head ⟨w, fields⟩ groups hall heq⟩
    have hspells := hhead.trans (hmembers.trans (spells_expect hclose))
    simpa [Phrase.lexemes] using hspells
  · have hblock : List.Forall₂ (SizePhrase.Denotes IsConstant) [] (Block.type ⟨w, fields⟩).sizes :=
      .nil
    obtain ⟨p, hp, hdeclares⟩ :=
      exists_phrase_of_readArray hscope hblock (spells_word? hword) harray
    let v : Variable :=
      { name, type, qualifiers := head.qualifiers, block := none, doc := head.doc }
    refine ⟨.block words w members (some p), ?_,
      @Phrase.Declares.named IsConstant words members ⟨w, fields⟩ v groups p hall heq hdeclares⟩
    have hspells := hhead.trans (hmembers.trans (hp.trans (spells_expect hclose)))
    simpa [Phrase.lexemes] using hspells

/-! ### Values -/

mutual

/-- No dimensions are read in the value of a constant. -/
theorem takes_readInitializer {value : ConstValue} (ts : Input) {rest : Input}
    (h : withRest (readInitializer scope ts) = .ok (value, rest)) :
    Takes (fun t => t.lexeme ≠ .punct .leftBracket) ts rest := by
  match ts with
  | [] =>
      rw [withRest_readInitializer_nil] at h
      cases h
  | t :: ts =>
      have hmark {mark : Punct} (hne : mark ≠ .leftBracket) (ht : t.isMark mark = true)
          (hrest : Takes (fun t => t.lexeme ≠ .punct .leftBracket) ts rest) :
          Takes (fun t => t.lexeme ≠ .punct .leftBracket) (t :: ts) rest :=
        .cons (by simp [Documented.isMark_iff.1 ht, hne]) hrest
      rcases withRest_readInitializer_eq_ok_iff.1 h with ⟨ht, values, hvalues, -⟩ |
        ⟨ht, literal, hliteral, -⟩ | ⟨ht, hliteral⟩ | ⟨-, -, -, hliteral⟩
      · exact hmark (by decide) ht (takes_readValues .rightBrace (by decide) ts hvalues)
      · exact hmark (by decide) ht (takes_readLiteral ts hliteral)
      · exact hmark (by decide) ht (takes_readLiteral ts hliteral)
      · exact takes_readLiteral (t :: ts) hliteral
termination_by (ts.length, 1)

/-- No dimensions are read in a literal. -/
theorem takes_readLiteral {value : ConstValue} (ts : Input) {rest : Input}
    (h : withRest (readLiteral scope ts) = .ok (value, rest)) :
    Takes (fun t => t.lexeme ≠ .punct .leftBracket) ts rest := by
  match ts with
  | [] =>
      rw [withRest_readLiteral_nil] at h
      cases h
  | t :: ts =>
      rcases withRest_readLiteral_eq_ok_iff.1 h with
        ⟨name, inside, values, hname, -, hskip, hvalues, -⟩ | ⟨-, hliteral, rfl⟩
      · have := length_skip?_lt hskip
        obtain ⟨u, rfl, hu⟩ := skip?_eq_some_iff.1 hskip
        exact .cons (by simp [hname]) (.cons (by simp [hu])
          (takes_readValues .rightParen (by decide) inside hvalues))
      · refine .cons ?_ (.refl _)
        intro ht
        rw [ht] at hliteral
        cases hliteral
termination_by (ts.length, 0)

/-- No dimensions are read in values. -/
theorem takes_readValues (close : Punct) (hclose : close ≠ .leftBracket)
    {values : List ConstValue} (ts : Input) {rest : Input}
    (h : withRest (readValues scope close ts) = .ok (values, rest)) :
    Takes (fun t => t.lexeme ≠ .punct .leftBracket) ts rest := by
  rcases withRest_readValues_eq_ok_iff.1 h with ⟨hskip, -⟩ | ⟨-, hmore⟩
  · obtain ⟨t, rfl, ht⟩ := skip?_eq_some_iff.1 hskip
    exact .cons (by simp [ht, hclose]) (.refl _)
  · exact takes_readMoreValues close hclose ts hmore
termination_by (ts.length, 3)

/-- No dimensions are read in a list of values. -/
theorem takes_readMoreValues (close : Punct) (hclose : close ≠ .leftBracket)
    {values : List ConstValue} (ts : Input) {rest : Input}
    (h : withRest (readMoreValues scope close ts) = .ok (values, rest)) :
    Takes (fun t => t.lexeme ≠ .punct .leftBracket) ts rest := by
  obtain ⟨value, us, hvalue, hmore⟩ := withRest_readMoreValues_eq_ok_iff.1 h
  obtain ⟨hlength, -⟩ := exists_of_withRest hvalue
  refine (takes_readInitializer ts hvalue).trans ?_
  rcases hmore with ⟨vs, more, hskip, hmore, -⟩ | ⟨-, hexpect, -⟩
  · have := length_skip?_lt hskip
    obtain ⟨t, rfl, ht⟩ := skip?_eq_some_iff.1 hskip
    exact .cons (by simp [ht]) (takes_readMoreValues close hclose vs hmore)
  · obtain ⟨t, rfl, ht⟩ := expect_eq_ok_iff.1 hexpect
    exact .cons (by simp [ht, hclose]) (.refl _)
termination_by (ts.length, 2)

end

/-! ### Declarations -/

/-- A constant or variable is read from what it is written as. -/
theorem exists_phrase_of_readDeclarator (hscope : scope.Within IsConstant) {head : Head}
    {element : Ty} {typeSizes : List SizePhrase}
    (helement : List.Forall₂ (SizePhrase.Denotes IsConstant) typeSizes element.sizes)
    {entity : Entity} (hname : ts.Spells [.word w] us)
    (h : readDeclarator scope head element w us = .ok (entity, rest)) :
    ∃ p : DeclaratorPhrase, ts.Spells p.lexemes rest ∧ p.Declares IsConstant typeSizes entity := by
  obtain ⟨type, vs, harray, hentity⟩ := readDeclarator_eq_ok_iff.1 h
  obtain ⟨p, hp, hdeclares⟩ := exists_phrase_of_readArray hscope helement hname harray
  rcases hentity with ⟨-, ws, read, value, hskip, hread, -, rfl⟩ | ⟨-, -, rfl, rfl⟩
  · obtain ⟨taken, rfl, htaken⟩ := takes_readInitializer ws hread
    have hvalue : Lexeme.punct .leftBracket ∉
        .punct .equal :: taken.map Documented.lexeme := by
      simpa using htaken
    refine ⟨⟨p, _, hvalue⟩, hp.trans ((spells_skip? hskip).trans ?_), hdeclares⟩
    exact List.map_append
  · exact ⟨⟨p, [], List.not_mem_nil⟩, by simpa [DeclaratorPhrase.lexemes] using hp, hdeclares⟩

/-- Constants or variables are read from what they are written as. -/
theorem exists_phrases_of_readDeclarators (hscope : scope.Within IsConstant) {head : Head}
    {element : Ty} {typeSizes : List SizePhrase}
    (helement : List.Forall₂ (SizePhrase.Denotes IsConstant) typeSizes element.sizes)
    {entities : List Entity}
    (hentities : ∀ entity ∈ entities, entity.Within IsConstant) (hname : ts.Spells [.word w] us)
    (h : readDeclarators scope head element w us = (entities, .ok rest)) :
    ∃ ps : List DeclaratorPhrase, ps ≠ [] ∧
      ts.Spells (commaSeparated DeclaratorPhrase.lexemes ps ++ [.punct .semicolon]) rest ∧
      List.Forall₂ (DeclaratorPhrase.Declares IsConstant typeSizes) ps entities := by
  fun_induction readDeclarators scope head element w us generalizing ts entities rest with
  | case2 scope name us entity vs hentity hskip =>
      obtain ⟨rfl, hclose⟩ := Prod.mk.inj h
      obtain ⟨p, hp, hdeclares⟩ := exists_phrase_of_readDeclarator hscope helement hname hentity
      exact ⟨[p], List.cons_ne_nil _ _, spells_commaSeparated_singleton hp hclose,
        .cons hdeclares .nil⟩
  | case4 scope name us entity vs hentity ws hskip next xs hnext _ more result hmore ih =>
      obtain ⟨rfl, rfl⟩ := Prod.mk.inj h
      obtain ⟨p, hp, hdeclares⟩ := exists_phrase_of_readDeclarator hscope helement hname hentity
      -- the names behind this one are read in a scope that has it
      rw [List.forall_mem_cons] at hentities
      obtain ⟨ps, hne, hps, hall⟩ :=
        ih (hscope.record hentities.1) hentities.2 (spells_expectWord hnext) hmore
      exact ⟨p :: ps, List.cons_ne_nil _ _, spells_commaSeparated_cons hp hskip hne hps,
        .cons hdeclares hall⟩
  | _ => cases h

/-- A function is read from what it is written as. -/
theorem exists_phrase_of_readFunction (hscope : scope.Within IsConstant) {head : Head}
    {condition : Condition} {returnType : Ty} {type : TypePhrase} {entities : List Entity}
    (htype : List.Forall₂ (SizePhrase.Denotes IsConstant) type.sizes returnType.sizes)
    (hhead : ts.Spells (type.lexemes ++ [.word w, .punct .leftParen]) us)
    (h : readFunction scope head condition returnType w us = (entities, .ok rest)) :
    ∃ p : Phrase, ts.Spells p.lexemes rest ∧ p.Declares IsConstant entities := by
  obtain ⟨parameters, vs, hparameters, hclose, rfl⟩ := readFunction_eq_ok_iff.1 h
  let f : Signature := { name := w, returnType, parameters, condition, doc := head.doc }
  rcases exists_phrases_of_readParameters hscope hparameters with ⟨ps, hps, hall⟩ | ⟨hvoid, hnil⟩
  · refine ⟨.function type w ps, ?_, @Phrase.Declares.function IsConstant type ps f htype hall⟩
    have hspells := hhead.trans (hps.trans (spells_expect hclose))
    simpa [Phrase.lexemes] using hspells
  · refine ⟨.voidFunction type w, ?_, @Phrase.Declares.voidFunction IsConstant type f htype hnil⟩
    have hspells := hhead.trans (hvoid.trans (spells_expect hclose))
    simpa [Phrase.lexemes] using hspells

/-- **A declaration is read from a phrase that declares it**: the lengths of its dimensions are
those that are written, where every named length is the value of a constant of the scope or of one
that the declaration itself declares. -/
theorem exists_phrase_of_readDeclaration (hscope : scope.Within IsConstant) {condition : Condition}
    {doc : Option String} {entities : List Entity}
    (hentities : ∀ entity ∈ entities, entity.Within IsConstant)
    (h : readDeclaration scope condition doc ts = (entities, .ok rest)) :
    ∃ p : Phrase, ts.Spells p.lexemes rest ∧ p.Declares IsConstant entities := by
  obtain ⟨words, hwords⟩ := exists_spells_readQualifiers ∅ ts
  obtain ⟨word, us, hword, hblock | hnamed⟩ := readDeclaration_eq_ok_iff.1 h
  · obtain ⟨vs, hbrace, hblock⟩ := hblock
    exact exists_phrase_of_readBlock hscope
      (hwords.trans ((spells_expectWord hword).trans (spells_skip? hbrace))) hblock
  · obtain ⟨-, element, helement, hnamed⟩ := hnamed
    obtain ⟨type, vs, name, ws, harray, hname, hnames⟩ := readNamed_eq_ok_iff.1 hnamed
    obtain ⟨p, hp, hsizes⟩ := exists_phrase_of_readType hscope
      (readType_eq_ok_iff.2 ⟨word, us, element, hword, helement, harray⟩)
    rcases hnames with ⟨xs, hparen, hfunction⟩ | ⟨-, hdeclarators⟩
    · exact exists_phrase_of_readFunction hscope hsizes
        (hp.trans ((spells_expectWord hname).trans (spells_skip? hparen))) hfunction
    · obtain ⟨ps, -, hps, hall⟩ := exists_phrases_of_readDeclarators hscope hsizes hentities
        (spells_expectWord hname) hdeclarators
      refine ⟨.declarators p ps, ?_, .declarators hall⟩
      rw [Phrase.lexemes, List.append_assoc]
      exact hp.trans hps

end Input

end GlslPrelude
