import GlslPrelude.Proofs.Declaration.Equations
import GlslPrelude.Proofs.Declaration.ReadingBack

/-!
# What readers return can be written

Everything that is read refers to types by words that still refer to them behind the declaration.
The readers of values return no least integer as long as no constant in scope is one, and by
induction none ever is (`Scope.Reachable.hasNoLeast`).
-/

namespace GlslPrelude

open Lexeme (IsName)

namespace Input

/-- Every word of the input is a name. -/
def IsLexed (ts : Input) : Prop :=
  ∀ t ∈ ts, ∀ w, t.lexeme = .word w → IsName w

/-- No word that is a qualifier comes next. -/
def IsPastQualifiers (ts : Input) : Prop :=
  ∀ t ∈ ts.head?, ∀ w, t.lexeme = .word w → Qualifier.ofKeyword? w = none

variable {P : Documented → Prop} {scope : Scope} {ts us rest : Input} {cause : ParseCause}
  {t : Ty} {w : String}

/-- The tokens of a text are such an input. -/
theorem isLexed_ofTokens {text : List Char} {tokens : List Token}
    (h : Token.tokenize text = .ok tokens) : (ofTokens tokens).IsLexed := by
  intro t ht w hw
  obtain ⟨token, hmem, hlexeme, -⟩ := exists_token_of_mem_ofTokens ht
  exact Scanner.isName_of_tokenize h token hmem w (hlexeme.trans hw)

/-- What is left of the input has no other words. -/
theorem IsLexed.of_suffix (h : ts.IsLexed) (hrest : rest <:+ ts) : rest.IsLexed :=
  fun t ht => h t (hrest.subset ht)

/-- A reader that reads a result leaves an end of the input. -/
theorem suffix_of_leads {α : Type} {a : α} {reading : Except Stuck (α × Input)}
    (hleads : Leads P scope ts (reading.map Prod.snd)) (h : reading = .ok (a, rest)) :
    rest <:+ ts := by
  subst h
  exact Takes.suffix hleads

/-- A mark leaves an end of the input. -/
theorem suffix_of_skip? {mark : Punct} (h : skip? mark ts = some rest) : rest <:+ ts := by
  obtain ⟨t, rfl, -⟩ := skip?_eq_some_iff.1 h
  exact List.suffix_cons t rest

/-- A word leaves an end of the input. -/
theorem suffix_of_expectWord (h : expectWord cause ts = .ok (w, rest)) : rest <:+ ts := by
  obtain ⟨t, rfl, -⟩ := expectWord_eq_ok_iff.1 h
  exact List.suffix_cons t rest

/-- A word is a name. -/
theorem IsLexed.isName (hlexed : ts.IsLexed) (h : expectWord cause ts = .ok (w, rest)) :
    IsName w := by
  obtain ⟨t, rfl, ht⟩ := expectWord_eq_ok_iff.1 h
  exact hlexed t List.mem_cons_self w ht

/-- A word behind the qualifiers is none. -/
theorem IsPastQualifiers.notKeyword (hpast : ts.IsPastQualifiers)
    (h : expectWord cause ts = .ok (w, rest)) : Qualifier.ofKeyword? w = none := by
  obtain ⟨t, rfl, ht⟩ := expectWord_eq_ok_iff.1 h
  exact hpast t rfl w ht

/-- Qualifiers are read to their end. -/
theorem isPastQualifiers_of_readQualifiers (qs : QualifierSet) (ts : Input) :
    (readQualifiers qs ts).2.IsPastQualifiers := by
  fun_induction readQualifiers qs ts with
  | case1 => simp [IsPastQualifiers]
  | case2 qs t ts w hw q hq ih => exact ih
  | case3 qs t ts w hw hq =>
      intro u hu w' hw'
      cases hu
      rw [hw] at hw'
      cases hw'
      exact hq
  | case4 qs t ts hw =>
      intro u hu w' hw'
      cases hu
      exact absurd hw' (hw w')

/-! ## Types -/

/-- Every size that is read can be written. -/
theorem isValid_of_readSizes {ss : List ArraySize} (h : readSizes scope ts = .ok (ss, rest)) :
    ∀ s ∈ ss, s.IsValid := by
  fun_induction readSizes scope ts generalizing ss rest with
  | case1 | case10 =>
      cases h
      simp
  | case3 t ht v vs hv sizes rest' hread ih =>
      cases h
      rw [List.forall_mem_cons]
      exact ⟨trivial, ih hread⟩
  | case7 t ht v hv n hsize w vs hw sizes rest' hread ih =>
      cases h
      rw [List.forall_mem_cons]
      refine ⟨?_, ih hread⟩
      unfold Scope.size at hsize
      split at hsize
      · cases hsize
      · split at hsize <;> cases hsize
        rename_i hn
        simpa [ArraySize.IsValid] using hn
  | case2 | case4 | case5 | case6 | case8 | case9 => cases h

end Input

namespace Ty

variable {scope : Scope} {t : Ty} {w : String}

/-- A type that a word refers to can be written. -/
theorem isWritten_of_type? (hname : IsName w) (hword : Qualifier.ofKeyword? w = none)
    (h : scope.type? w = some t) : t.IsWritten scope := by
  have htype := h
  unfold Scope.type? at h
  split at h
  · -- a type of the language is named by its own text, whatever name it was found by
    rename_i heq
    cases h
    have hnamed := isNamed_of_ofName? heq
    have htype : scope.type? t.render = some t := by rw [Scope.type?, hnamed.ofName?_eq]
    have hsizes : t.sizes = [] := by rw [← hnamed.base_eq, sizes_base]
    exact {
      isName := by rw [hnamed.base_eq]; exact hnamed.isName
      sizes := by simp [hsizes]
      notKeyword := by rw [hnamed.base_eq]; exact hnamed.notKeyword
      type?_eq := by rw [hnamed.base_eq]; exact htype }
  · -- a block is found by its own name alone
    obtain ⟨block, hfind, rfl⟩ := Option.map_eq_some_iff.1 h
    have hblock : block.name = w := by simpa using List.find?_some hfind
    subst hblock
    exact {
      isName := hname
      sizes := by simp [Block.type, sizes]
      notKeyword := hword
      type?_eq := htype }

/-- An array whose sizes can be written can be written if its elements can be. -/
theorem IsWritten.arrayOf (ht : t.IsWritten scope) {ss : List ArraySize}
    (hss : ∀ s ∈ ss, s.IsValid) : (t.arrayOf ss).IsWritten scope where
  isName := by rw [base_arrayOf]; exact ht.isName
  sizes := by
    rw [sizes_arrayOf, List.forall_mem_append]
    exact ⟨hss, ht.sizes⟩
  notKeyword := by rw [base_arrayOf]; exact ht.notKeyword
  type?_eq := by rw [base_arrayOf]; exact ht.type?_eq

/-- Only blocks matter for how types are written. -/
theorem IsWritten.of_blocks (ht : t.IsWritten scope) {scope' : Scope}
    (h : scope'.blocks = scope.blocks) : t.IsWritten scope' :=
  { ht with type?_eq := by rw [← ht.type?_eq, Scope.type?, Scope.type?, h] }

/-- A type without interface blocks is written alike in every scope. -/
theorem IsWritten.of_structName? (ht : t.IsWritten scope) (h : t.structName? = none)
    (scope' : Scope) : t.IsWritten scope' := by
  refine { ht with type?_eq := ?_ }
  have htype := ht.type?_eq
  unfold Scope.type? at htype ⊢
  split at htype
  · exact htype
  · obtain ⟨block, -, hblock⟩ := Option.map_eq_some_iff.1 htype
    rw [structName?, ← hblock] at h
    cases h

end Ty

namespace Input

variable {scope : Scope} {ts us rest : Input} {cause : ParseCause} {t element : Ty} {w : String}

/-- An array that is read can be written if its elements can be. -/
theorem isWritten_of_readArray (helement : element.IsWritten scope)
    (h : readArray scope element ts = .ok (t, rest)) : t.IsWritten scope := by
  unfold readArray at h
  split at h <;> cases h
  exact helement.arrayOf (isValid_of_readSizes ‹_›)

/-- A type that is found can be written. -/
theorem isWritten_of_resolveType (hname : IsName w) (hword : Qualifier.ofKeyword? w = none)
    (h : resolveType scope w ts = .ok t) : t.IsWritten scope := by
  unfold resolveType at h
  split at h <;> cases h
  exact Ty.isWritten_of_type? hname hword ‹_›

/-- A type that is read behind the qualifiers can be written. -/
theorem isWritten_of_readType (hlexed : ts.IsLexed) (hpast : ts.IsPastQualifiers)
    (h : readType cause scope ts = .ok (t, rest)) : t.IsWritten scope := by
  unfold readType at h
  split at h
  · cases h
  · rename_i name us hword
    split at h
    · cases h
    · rename_i element htype
      exact isWritten_of_readArray
        (isWritten_of_resolveType (hlexed.isName hword) (hpast.notKeyword hword) htype) h

/-! ## Parameters -/

/-- A parameter that is read has the dimensions that stand behind its name, all with a length. -/
theorem cases_of_readParameterSizes {qualifiers : QualifierSet} {name : Option String}
    {p : Parameter} (h : readParameterSizes scope qualifiers element name ts = .ok (p, rest)) :
    p.name = name ∧ p.qualifiers = qualifiers ∧ readArray scope element ts = .ok (p.type, rest) ∧
      p.type.hasImplicitSize = false := by
  unfold readParameterSizes at h
  split at h
  · cases h
  · rename_i harray
    split at h <;> cases h
    rename_i hsized
    exact ⟨rfl, rfl, harray, by simpa using hsized⟩

/-- What the reader of a parameter reads one after the other. -/
theorem cases_of_readParameter {p : Parameter} (h : readParameter scope ts = .ok (p, rest)) :
    ∃ us vs ws element, readQualifiers ∅ ts = (p.qualifiers, us) ∧
      readType .missingParameterType scope us = .ok (element, vs) ∧
      (p.name = none ∧ ws = vs ∨ ∃ name, p.name = some name ∧ word? vs = some (name, ws)) ∧
      readArray scope element ws = .ok (p.type, rest) ∧ p.type.hasImplicitSize = false := by
  unfold readParameter at h
  cases hqualifiers : readQualifiers ∅ ts with
  | mk qualifiers us =>
  rw [hqualifiers] at h
  dsimp only at h
  split at h
  · cases h
  · rename_i element vs htype
    cases hword : word? vs with
    | none =>
        rw [hword] at h
        obtain ⟨hname, rfl, harray⟩ := cases_of_readParameterSizes h
        exact ⟨us, vs, vs, element, rfl, htype, .inl ⟨hname, rfl⟩, harray⟩
    | some result =>
        obtain ⟨name, ws⟩ := result
        rw [hword] at h
        obtain ⟨hname, rfl, harray⟩ := cases_of_readParameterSizes h
        exact ⟨us, vs, ws, element, rfl, htype, .inr ⟨name, hname, hword⟩, harray⟩

/-- A parameter that is read can be written. -/
theorem isWritten_of_readParameter {p : Parameter} (hlexed : ts.IsLexed)
    (h : readParameter scope ts = .ok (p, rest)) : p.IsWritten scope := by
  obtain ⟨us, vs, ws, element, hqualifiers, htype, hname, harray, hsized⟩ :=
    cases_of_readParameter h
  have hus : us <:+ ts := by simpa [hqualifiers] using (takes_readQualifiers ∅ ts).suffix
  have hpast : us.IsPastQualifiers := by
    simpa [hqualifiers] using isPastQualifiers_of_readQualifiers ∅ ts
  have hvs := suffix_of_leads (leads_readType scope _ (by simp) us) htype
  have hlexed := hlexed.of_suffix hus
  refine ⟨?_, isWritten_of_readArray (isWritten_of_readType hlexed hpast htype) harray, hsized⟩
  intro name hp
  rcases hname with ⟨hnone, -⟩ | ⟨name', hname, hword⟩
  · rw [hnone] at hp
    cases hp
  · obtain ⟨t, rfl, ht⟩ := word?_eq_some_iff.1 hword
    rw [hname] at hp
    cases hp
    exact hlexed.of_suffix hvs t List.mem_cons_self name ht

/-- Qualifiers that were read are kept. -/
theorem mem_readQualifiers {q : Qualifier} {qs : QualifierSet} (hq : q ∈ qs) (ts : Input) :
    q ∈ (readQualifiers qs ts).1 := by
  fun_induction readQualifiers qs ts with
  | case1 | case3 | case4 => exact hq
  | case2 qs t ts w hw q' hq' ih => exact ih (EnumSet.mem_insert.2 (.inr hq))

/-- No token is taken if there are no qualifiers. -/
theorem eq_of_readQualifiers (h : readQualifiers ∅ ts = (∅, us)) : us = ts := by
  unfold readQualifiers at h
  split at h
  · exact (Prod.mk.inj h).2.symm
  · split at h
    · split at h
      · rename_i t ts _ w _ _ q _
        -- a qualifier that is taken stays in the set
        have hinsert : q ∈ (∅ : QualifierSet).insert q := EnumSet.mem_insert.2 (.inl rfl)
        have hmem := mem_readQualifiers hinsert ts
        rw [h] at hmem
        exact absurd hmem (EnumSet.not_mem_empty q)
      · exact (Prod.mk.inj h).2.symm
    · exact (Prod.mk.inj h).2.symm

/-- No token is taken if there are no dimensions. -/
theorem eq_of_readSizes (h : readSizes scope ts = .ok ([], rest)) : rest = ts := by
  fun_induction readSizes scope ts generalizing rest <;> cases h <;> rfl

/-- What has no dimensions is no array. -/
theorem eq_of_readArray (h : readArray scope element ts = .ok (.void, rest)) :
    element = .void ∧ rest = ts := by
  unfold readArray at h
  split at h
  · rename_i sizes us hread
    obtain ⟨htype, rfl⟩ := Prod.mk.inj (Except.ok.inj h)
    cases sizes with
    | cons s ss => cases htype
    | nil => exact ⟨htype, eq_of_readSizes hread⟩
  · cases h

/-- A parameter that is `void` alone is read from the word alone. -/
theorem eq_void_of_readParameter
    (h : readParameter scope ts = .ok ({ name := none, type := .void, qualifiers := ∅ }, rest)) :
    ∃ t, ts = t :: rest ∧ t.lexeme = .word "void" := by
  obtain ⟨us, vs, ws, element, hqualifiers, htype, hname, harray, -⟩ := cases_of_readParameter h
  obtain rfl := eq_of_readQualifiers hqualifiers
  obtain ⟨rfl, rfl⟩ := eq_of_readArray harray
  obtain ⟨-, rfl⟩ | ⟨name, hname, -⟩ := hname
  · unfold readType at htype
    split at htype
    · cases htype
    · rename_i name xs hword
      split at htype
      · cases htype
      · rename_i element hresolve
        obtain ⟨rfl, rfl⟩ := eq_of_readArray htype
        obtain ⟨t, rfl, ht⟩ := expectWord_eq_ok_iff.1 hword
        refine ⟨t, rfl, ?_⟩
        -- a word that refers to `void` is not the name of a block
        unfold resolveType Scope.type? at hresolve
        split at hresolve <;> cases hresolve
        rename_i hvoid
        split at hvoid
        · rename_i hofName
          cases hvoid
          rw [ht, Ty.eq_void_of_ofName? hofName]
        · obtain ⟨block, -, hblock⟩ := Option.map_eq_some_iff.1 hvoid
          cases hblock
  · cases hname

/-- At least one parameter is read. -/
theorem ne_nil_of_readMoreParameters {ps : List Parameter}
    (h : readMoreParameters scope ts = .ok (ps, rest)) : ps ≠ [] := by
  rw [readMoreParameters] at h
  grind

/-- Parameters that are read can be written, and `void` alone is not read as one. -/
theorem isWritten_of_readMoreParameters {ps : List Parameter} (hlexed : ts.IsLexed)
    (h : readMoreParameters scope ts = .ok (ps, rest)) :
    (∀ p ∈ ps, p.IsWritten scope) ∧
      (ps = [{ name := none, type := .void, qualifiers := ∅ }] → skipVoid? ts = some rest) := by
  fun_induction readMoreParameters scope ts generalizing ps rest with
  | case1 | case2 | case4 => cases h
  | case3 ts p us hread vs hskip _ ps ws hmore ih =>
      cases h
      have hus := suffix_of_leads (leads_readParameter scope ts) hread
      have hlexed' := hlexed.of_suffix ((suffix_of_skip? hskip).trans hus)
      refine ⟨?_, fun heq => absurd (List.cons.inj heq).2 (ne_nil_of_readMoreParameters hmore)⟩
      rw [List.forall_mem_cons]
      exact ⟨isWritten_of_readParameter hlexed hread, (ih hlexed' hmore).1⟩
  | case5 ts p us hread hskip ws hclose =>
      cases h
      refine ⟨by simpa using isWritten_of_readParameter hlexed hread, fun heq => ?_⟩
      -- `void` and a closing parenthesis are what stands for no parameters
      obtain rfl := (List.cons.inj heq).1
      obtain ⟨t, rfl, ht⟩ := eq_void_of_readParameter hread
      obtain ⟨u, rfl, hu⟩ := expect_eq_ok_iff.1 hclose
      exact skipVoid?_eq_some_iff.2 ⟨t, u, rfl, ht, hu⟩

/-- Parameters that are read in parentheses can be written. -/
theorem isWritten_of_readParameters {ps : List Parameter} (hlexed : ts.IsLexed)
    (h : readParameters scope ts = .ok (ps, rest)) :
    (∀ p ∈ ps, p.IsWritten scope) ∧ ps ≠ [{ name := none, type := .void, qualifiers := ∅ }] := by
  unfold readParameters at h
  split at h
  · cases h
    simp
  · split at h
    · cases h
      simp
    · rename_i hvoid
      obtain ⟨hps, hnot⟩ := isWritten_of_readMoreParameters hlexed h
      refine ⟨hps, fun heq => ?_⟩
      cases hvoid.symm.trans (hnot heq)

/-! ## Members of blocks -/

/-- Members that are read in one group can be written. -/
theorem isWritten_of_readFieldNames {qs : QualifierSet} {fields : List (Field Ty)}
    (hlexed : ts.IsLexed) (helement : element.IsWritten scope)
    (h : readFieldNames scope qs element ts = .ok (fields, rest)) :
    ∀ f ∈ fields, IsName f.name ∧ f.type.IsWritten scope := by
  fun_induction readFieldNames scope qs element ts generalizing fields rest with
  | case1 | case2 | case3 | case5 => cases h
  | case4 ts name us hword type vs harray ws hskip _ fields rest' hmore ih =>
      cases h
      have hvs := suffix_of_leads (leads_readArray scope element us) harray
      have hws := ((suffix_of_skip? hskip).trans hvs).trans (suffix_of_expectWord hword)
      rw [List.forall_mem_cons]
      exact ⟨⟨hlexed.isName hword, isWritten_of_readArray helement harray⟩,
        ih (hlexed.of_suffix hws) hmore⟩
  | case6 ts name us hword type vs harray hskip rest' hclose =>
      cases h
      rw [List.forall_mem_singleton]
      exact ⟨hlexed.isName hword, isWritten_of_readArray helement harray⟩

/-- Members that are read in a group behind their type can be written. -/
theorem isWritten_of_readFieldGroup {fields : List (Field Ty)} (hlexed : ts.IsLexed)
    (h : readFieldGroup scope ts = .ok (fields, rest)) :
    ∀ f ∈ fields, IsName f.name ∧ f.type.IsWritten scope := by
  unfold readFieldGroup at h
  have hsuffix := (takes_readQualifiers ∅ ts).suffix
  have hpast := isPastQualifiers_of_readQualifiers ∅ ts
  cases hqualifiers : readQualifiers ∅ ts with
  | mk qualifiers us =>
  rw [hqualifiers] at h hsuffix hpast
  dsimp only at h hsuffix hpast
  split at h
  · cases h
  · rename_i element vs htype
    have hlexed := hlexed.of_suffix hsuffix
    have hvs := suffix_of_leads (leads_readType scope _ (by simp) us) htype
    exact isWritten_of_readFieldNames (hlexed.of_suffix hvs)
      (isWritten_of_readType hlexed hpast htype) h

/-- All the members that are read can be written. -/
theorem isWritten_of_readFields {fields : List (Field Ty)} (hlexed : ts.IsLexed)
    (h : readFields scope ts = .ok (fields, rest)) :
    ∀ f ∈ fields, IsName f.name ∧ f.type.IsWritten scope := by
  fun_induction readFields scope ts generalizing fields rest with
  | case1 => cases h; simp
  | case2 | case3 | case4 => cases h
  | case5 ts hbrace hne fields us hread _ more vs hmore ih =>
      cases h
      have hus := suffix_of_leads (leads_readFieldGroup scope ts) hread
      rw [List.forall_mem_append]
      exact ⟨isWritten_of_readFieldGroup hlexed hread, ih (hlexed.of_suffix hus) hmore⟩

end Input

/-! ## Values -/

/-- No constant in scope is the least integer. -/
def Scope.HasNoLeast (scope : Scope) : Prop :=
  ∀ c ∈ scope.constants, c.2 ≠ Int64.minValue

/-- A constant in scope is not the least integer. -/
theorem Scope.HasNoLeast.ne_minValue {scope : Scope} (h : scope.HasNoLeast) {name : String}
    {i : Int64} (hi : scope.constant? name = some i) : i ≠ Int64.minValue := by
  obtain ⟨front, back, hconstants, -⟩ := List.lookup_eq_some_iff.1 hi
  exact h (name, i) (by rw [hconstants]; simp)

namespace Input

variable {scope : Scope} {ts : Input}

/-- The opposite of a number is the least integer only if the number is. -/
theorem not_hasLeast_of_negate {v w : ConstValue} {rest : Input} (hv : ¬v.HasLeast)
    (h : negate v rest = .ok w) : ¬w.HasLeast := by
  unfold negate stuck at h
  split at h <;> cases h
  · rename_i i
    simp only [ConstValue.HasLeast, ConstValue.leaves, List.mem_singleton, ConstValue.int.injEq]
      at hv ⊢
    intro heq
    refine hv ?_
    rw [← @Int64.neg_neg i, ← heq]
    rfl
  · simp [ConstValue.HasLeast, ConstValue.leaves]

mutual

/-- No literal of a value is read as the least integer. -/
theorem not_hasLeast_of_readInitializer (hscope : scope.HasNoLeast) (ts : Input) {v : ConstValue}
    {behind : Behind ts} (h : readInitializer scope ts = .ok (v, behind)) : ¬v.HasLeast := by
  match ts with
  | [] =>
      rw [readInitializer] at h
      cases h
  | t :: rest =>
      rw [readInitializer] at h
      split at h
      · -- a list in braces
        split at h
        · cases h
        · rename_i values rest' hlt hread
          cases h
          exact not_hasLeast_of_readValues hscope .rightBrace rest hread
      · split at h
        · -- a literal behind a minus
          split at h
          · cases h
          · rename_i value rest' hlt hread
            split at h <;> cases h
            exact not_hasLeast_of_negate (not_hasLeast_of_readLiteral hscope rest hread) ‹_›
        · split at h
          · -- a literal behind a plus
            split at h
            · cases h
            · rename_i value rest' hlt hread
              cases h
              exact not_hasLeast_of_readLiteral hscope rest hread
          · exact not_hasLeast_of_readLiteral hscope (t :: rest) h
termination_by (ts.length, 1)

/-- A literal, the name of a constant, or a type name with values is not read as the least
integer. -/
theorem not_hasLeast_of_readLiteral (hscope : scope.HasNoLeast) (ts : Input) {v : ConstValue}
    {behind : Behind ts} (h : readLiteral scope ts = .ok (v, behind)) : ¬v.HasLeast := by
  match ts with
  | [] =>
      rw [readLiteral] at h
      cases h
  | t :: rest =>
      -- only the cases of integers say anything
      have hint : ∀ {i}, i ≠ Int64.minValue → ¬(ConstValue.int i).HasLeast := by
        intro i hi
        simpa [ConstValue.HasLeast, ConstValue.leaves] using hi.symm
      have hother : ∀ {u : ConstValue}, (∀ i, u ≠ .int i) → u.leaves = [u] → ¬u.HasLeast := by
        intro u hu hleaves hleast
        rw [ConstValue.HasLeast, hleaves, List.mem_singleton] at hleast
        exact hu _ hleast.symm
      rw [readLiteral] at h
      split at h
      · cases h
        exact hother (by simp) rfl
      · -- a signed literal has no sign of its own
        split at h <;> cases h
        exact hint (ConstValue.ne_minValue_of_signed? ‹_›)
      · cases h
        exact hother (by simp) rfl
      · cases h
        exact hother (by simp) rfl
      · cases h
        exact hother (by simp) rfl
      · split at h
        · -- the name of a type with values in parentheses
          rename_i inside hskip
          have hskip : skip? .leftParen rest = some inside := by
            split at hskip
            · exact hskip
            · contradiction
          have := length_skip?_lt hskip
          split at h <;> cases h
          exact not_hasLeast_of_readValues hscope .rightParen inside ‹_›
        · -- the name of a constant
          split at h <;> cases h
          exact hint (hscope.ne_minValue ‹_›)
      · cases h
termination_by (ts.length, 0)

/-- No literal in a list is read as the least integer. -/
theorem not_hasLeast_of_readValues (hscope : scope.HasNoLeast) (close : Punct) (ts : Input)
    {vs : List ConstValue} {behind : Behind ts}
    (h : readValues scope close ts = .ok (vs, behind)) : ¬(ConstValue.aggregate vs).HasLeast := by
  rw [readValues] at h
  split at h
  · cases h
    simp [ConstValue.HasLeast, ConstValue.leaves, ConstValue.leavesOf]
  · exact not_hasLeast_of_readMoreValues hscope close ts h
termination_by (ts.length, 3)

/-- No literal in a list of at least one value is read as the least integer. -/
theorem not_hasLeast_of_readMoreValues (hscope : scope.HasNoLeast) (close : Punct) (ts : Input)
    {vs : List ConstValue} {behind : Behind ts}
    (h : readMoreValues scope close ts = .ok (vs, behind)) :
    ¬(ConstValue.aggregate vs).HasLeast := by
  rw [readMoreValues] at h
  split at h
  · cases h
  · rename_i value rest hlt hread
    have hvalue := not_hasLeast_of_readInitializer hscope ts hread
    split at h
    · rename_i rest' hskip
      have := length_skip?_lt hskip
      split at h <;> cases h
      exact ConstValue.not_hasLeast_cons.2
        ⟨hvalue, not_hasLeast_of_readMoreValues hscope close rest' ‹_›⟩
    · split at h <;> cases h
      refine ConstValue.not_hasLeast_cons.2 ⟨hvalue, ?_⟩
      simp [ConstValue.HasLeast, ConstValue.leaves, ConstValue.leavesOf]
termination_by (ts.length, 2)

end

end Input

/-! ## Declarations -/

/-- The entity can be read back in the scope; a variable that is no member of a block only if no
block that it mentions is named like a type of the language, and a block only if it mentions no
other. -/
def Entity.IsWritten (scope : Scope) : Entity → Prop
  | .const c => c.IsWritten scope
  | .var v =>
    v.block = none → (∀ name ∈ v.type.structName?, Ty.ofName? name = none) → v.IsWritten scope
  | .block b => (∀ f ∈ b.fields, f.type.structName? = none) → b.IsWritten scope
  | .function s => s.IsWritten scope

/-- A constant that can be read back is not the least integer. -/
theorem Entity.IsWritten.not_hasLeast {scope : Scope} {e : Entity} (h : e.IsWritten scope) :
    ∀ c, e = .const c → ¬c.value.HasLeast := by
  rintro c rfl
  exact h.hasNoLeast

/-- Of entities that are declared one after the other, each can be read back in the scope behind it.
-/
def Scope.AllWritten : Scope → List Entity → Prop
  | _, [] => True
  | scope, e :: es => e.IsWritten (scope.record e) ∧ AllWritten (scope.record e) es

namespace Scope

variable {scope : Scope} {e : Entity} {es fs : List Entity}

/-- Entities can be declared in two parts. -/
theorem allWritten_append :
    scope.AllWritten (es ++ fs) ↔ scope.AllWritten es ∧ (es.foldl record scope).AllWritten fs := by
  induction es generalizing scope with
  | nil => simp [AllWritten]
  | cons e es ih => simp [AllWritten, ih, and_assoc]

/-- An entity can be read back in the scope right behind it. -/
theorem AllWritten.isWritten (h : scope.AllWritten (es ++ e :: fs)) :
    e.IsWritten ((es ++ [e]).foldl record scope) := by
  rw [allWritten_append] at h
  rw [List.foldl_append]
  exact h.2.1

/-- Only blocks change the blocks in scope. -/
theorem blocks_record (h : ∀ b, e ≠ .block b) : (scope.record e).blocks = scope.blocks := by
  unfold record
  split
  · split <;> rfl
  · exact absurd rfl (h _)
  · rfl
  · rfl

/-- Behind a constant that is not the least integer, no constant in scope is. -/
theorem HasNoLeast.record (hscope : scope.HasNoLeast)
    (he : ∀ c, e = .const c → ¬c.value.HasLeast) : (scope.record e).HasNoLeast := by
  unfold Scope.record
  split
  · -- a constant is kept in the scope if its value is an integer
    rename_i c
    split
    · rename_i i hi
      unfold HasNoLeast
      rw [List.forall_mem_cons]
      exact ⟨ConstValue.ne_minValue_of_toInt? (he c rfl) hi, hscope⟩
    · exact hscope
  · exact hscope
  · exact hscope
  · exact hscope

/-- No constant of several declarations is the least integer. -/
theorem HasNoLeast.foldl_record (hscope : scope.HasNoLeast) (hes : scope.AllWritten es) :
    (es.foldl Scope.record scope).HasNoLeast := by
  induction es generalizing scope with
  | nil => exact hscope
  | cons e es ih => exact ih (hscope.record hes.1.not_hasLeast) hes.2

end Scope

namespace Input

variable {scope : Scope} {ts rest : Input} {element : Ty} {name : String} {entity : Entity}

/-- No constant is declared as the least integer. -/
theorem not_hasLeast_of_readDeclarator {head : Head} (hscope : scope.HasNoLeast)
    (h : readDeclarator scope head element name ts = .ok (entity, rest)) :
    ∀ c, entity = .const c → ¬c.value.HasLeast := by
  obtain ⟨type, us, -, ⟨-, vs, read, value, -, hread, hcoerce, rfl⟩ | ⟨-, -, -, rfl⟩⟩ :=
    readDeclarator_eq_ok_iff.1 h
  · rintro _ ⟨⟩ hleast
    obtain ⟨_, hread⟩ := exists_of_withRest hread
    exact not_hasLeast_of_readInitializer hscope vs hread
      (ConstValue.hasLeast_of_coerce? hcoerce hleast)
  · exact fun c hc => nomatch hc

/-- What is declared behind a name is a constant or variable that can be read back. -/
theorem isWritten_of_readDeclarator {head : Head} (hscope : scope.HasNoLeast) (hname : IsName name)
    (helement : element.IsWritten scope)
    (h : readDeclarator scope head element name ts = .ok (entity, rest)) :
    entity.IsWritten scope ∧ ∀ b, entity ≠ .block b := by
  have hleast := not_hasLeast_of_readDeclarator hscope h
  unfold readDeclarator at h
  split at h
  · cases h
  · rename_i type us harray
    have htype := isWritten_of_readArray helement harray
    split at h
    · cases h
    · rename_i hconst hskip
      split at h
      · cases h
      · rename_i value xs hlt hread
        split at h <;> cases h
        rename_i value' hcoerce
        exact ⟨{
          isName := hname
          type := htype
          isConst := hconst
          hasNoLeast := hleast _ rfl
          coerce?_eq := ConstValue.coerce?_of_coerce? hcoerce }, by simp⟩
    · cases h
    · cases h
      exact ⟨fun _ _ => ⟨hname, htype⟩, by simp⟩

/-- An entity other than a block can be read back behind it as in front of it. -/
theorem isWritten_record (h : entity.IsWritten scope) (hblock : ∀ b, entity ≠ .block b) :
    entity.IsWritten (scope.record entity) := by
  have hblocks : (scope.record entity).blocks = scope.blocks := Scope.blocks_record hblock
  cases entity with
  | block b => exact absurd rfl (hblock b)
  | const c => exact { h with type := Ty.IsWritten.of_blocks h.type hblocks }
  | var v => exact fun hv hnames => { h hv hnames with
      type := Ty.IsWritten.of_blocks (h hv hnames).type hblocks }
  | function s => exact { h with
      returnType := Ty.IsWritten.of_blocks h.returnType hblocks
      parameters := fun p hp => { h.parameters p hp with
        type := Ty.IsWritten.of_blocks (h.parameters p hp).type hblocks } }

/-- The constants or variables that share a type can be read back, also if the reader gets stuck
behind one of them. -/
theorem allWritten_of_readDeclarators {head : Head} (hlexed : ts.IsLexed)
    (hscope : scope.HasNoLeast) (hname : IsName name) (helement : element.IsWritten scope) :
    scope.AllWritten (readDeclarators scope head element name ts).1 := by
  fun_induction readDeclarators scope head element name ts with
  | case1 => exact trivial
  | case2 scope name ts entity us hread hskip
  | case3 scope name ts entity us hread vs hskip e hword =>
      obtain ⟨hentity, hblock⟩ := isWritten_of_readDeclarator hscope hname helement hread
      exact ⟨isWritten_record hentity hblock, trivial⟩
  | case4 scope name ts entity us hread vs hskip next ws hword _ entities result hmore ih =>
      obtain ⟨hentity, hblock⟩ := isWritten_of_readDeclarator hscope hname helement hread
      have hrecord := isWritten_record hentity hblock
      have hus := suffix_of_leads (leads_readDeclarator scope head element name ts) hread
      have hvs := hlexed.of_suffix ((suffix_of_skip? hskip).trans hus)
      -- no block is declared, so the type that the declarators share stays what it is
      have helement := helement.of_blocks (Scope.blocks_record hblock)
      have ih := ih (hvs.of_suffix (suffix_of_expectWord hword))
        (hscope.record hrecord.not_hasLeast) (hvs.isName hword) helement
      rw [hmore] at ih
      exact ⟨hrecord, ih⟩

/-- The members of an anonymous block are no variables of their own. -/
theorem allWritten_memberVariables (head : Head) (block : Block) :
    scope.AllWritten (memberVariables head block) := by
  unfold memberVariables
  induction block.fields generalizing scope with
  | nil => exact trivial
  | cons f fields ih => exact ⟨fun hnone => absurd hnone (by simp), ih⟩

/-- The variable of a block can be read back as long as the block is found by its name. -/
theorem isWritten_type_of_block {block : Block} (hname : IsName block.name)
    (hword : Qualifier.ofKeyword? block.name = none) (hblocks : scope.blocks.head? = some block)
    (hnames : Ty.ofName? block.name = none) : block.type.IsWritten scope := by
  refine Ty.isWritten_of_type? hname hword ?_
  obtain ⟨blocks, hblocks⟩ := List.head?_eq_some_iff.1 hblocks
  rw [Scope.type?, hnames, hblocks, List.find?_cons_of_pos (by simp)]
  rfl

/-- A block and what is declared with it can be read back. -/
theorem allWritten_of_readBlock {head : Head} (hlexed : ts.IsLexed) (hname : IsName name)
    (hword : Qualifier.ofKeyword? name = none) :
    scope.AllWritten (readBlock scope head name ts).1 := by
  unfold readBlock
  split
  · exact trivial
  · rename_i fields us hread
    split
    · exact trivial
    · rename_i hsized
      have hfields := isWritten_of_readFields hlexed hread
      have hus := hlexed.of_suffix (suffix_of_leads (leads_readFields scope ts) hread)
      have hblock : (Entity.block { name, fields }).IsWritten
          (scope.record (.block { name, fields })) := fun hnames => {
        isName := hname
        notKeyword := hword
        fields := fun f hf => ⟨(hfields f hf).1, (hfields f hf).2.of_structName? (hnames f hf) _⟩
        isSized := by simpa using hsized }
      dsimp only
      split
      · exact ⟨hblock, allWritten_memberVariables head _⟩
      · rename_i instanceName vs hinstance
        split
        · exact ⟨hblock, trivial⟩
        · rename_i type ws harray
          refine ⟨hblock, fun _ hnames => ?_, trivial⟩
          obtain ⟨t, rfl, ht⟩ := word?_eq_some_iff.1 hinstance
          -- dimensions are read in the scope in front of the block
          have htype : type.IsWritten (scope.record (.block { name, fields })) := by
            unfold readArray at harray
            split at harray <;> cases harray
            refine (isWritten_type_of_block hname hword rfl ?_).arrayOf (isValid_of_readSizes ‹_›)
            refine hnames name ?_
            rw [Ty.structName?, Ty.base_arrayOf]
            rfl
          exact ⟨hus t List.mem_cons_self instanceName ht, htype⟩

/-- A function can be read back. -/
theorem allWritten_of_readFunction {head : Head} {condition : Condition} {returnType : Ty}
    (hlexed : ts.IsLexed) (hname : IsName name) (htype : returnType.IsWritten scope) :
    scope.AllWritten (readFunction scope head condition returnType name ts).1 := by
  unfold readFunction
  split
  · exact trivial
  · rename_i parameters us hread
    obtain ⟨hparameters, hvoid⟩ := isWritten_of_readParameters hlexed hread
    split
    · exact trivial
    · exact ⟨isWritten_record ⟨hname, htype, hparameters, hvoid⟩ (by simp), trivial⟩

/-- What is declared behind a type can be read back. -/
theorem allWritten_of_readNamed {head : Head} {condition : Condition} (hlexed : ts.IsLexed)
    (hscope : scope.HasNoLeast) (helement : element.IsWritten scope) :
    scope.AllWritten (readNamed scope head condition element ts).1 := by
  unfold readNamed
  split
  · exact trivial
  · rename_i type us harray
    have htype := isWritten_of_readArray helement harray
    have hus := hlexed.of_suffix (suffix_of_leads (leads_readArray scope element ts) harray)
    split
    · exact trivial
    · rename_i name vs hword
      have hvs := hus.of_suffix (suffix_of_expectWord hword)
      split
      · rename_i ws hskip
        exact allWritten_of_readFunction (hvs.of_suffix (suffix_of_skip? hskip)) (hus.isName hword)
          htype
      · exact allWritten_of_readDeclarators hvs hscope (hus.isName hword) htype

/-- What is declared together can be read back. -/
theorem allWritten_of_readDeclaration (condition : Condition) (doc : Option String)
    (hlexed : ts.IsLexed) (hscope : scope.HasNoLeast) :
    scope.AllWritten (readDeclaration scope condition doc ts).1 := by
  unfold readDeclaration
  have hsuffix := (takes_readQualifiers ∅ ts).suffix
  have hpast := isPastQualifiers_of_readQualifiers ∅ ts
  cases hqualifiers : readQualifiers ∅ ts with
  | mk qualifiers us =>
  rw [hqualifiers] at hsuffix hpast
  have hus := hlexed.of_suffix hsuffix
  dsimp only
  split
  · exact trivial
  · rename_i name vs hword
    have hname := hus.isName hword
    have hnotKeyword := hpast.notKeyword hword
    have hvs := hus.of_suffix (suffix_of_expectWord hword)
    split
    · rename_i ws hskip
      exact allWritten_of_readBlock (hvs.of_suffix (suffix_of_skip? hskip)) hname hnotKeyword
    · split
      · exact trivial
      · rename_i element htype
        exact allWritten_of_readNamed hvs hscope (isWritten_of_resolveType hname hnotKeyword htype)

/-- Reading declarations yields entities that can be read back, and the scope behind them. -/
theorem exists_allWritten_of_readDeclarations (condition : Condition) (line : Nat)
    (reversed : List Declaration) (hlexed : ts.IsLexed) (hscope : scope.HasNoLeast) :
    ∃ declarations : List Declaration,
      (readDeclarations condition line scope reversed ts).reversed =
        declarations.reverse ++ reversed ∧
      (readDeclarations condition line scope reversed ts).scope =
        (declarations.map Declaration.entity).foldl Scope.record scope ∧
      scope.AllWritten (declarations.map Declaration.entity) := by
  -- what is declared together shares its line
  have hentity : ∀ (line : Nat) (entities : List Entity),
      (entities.map (Declaration.mk condition line)).map Declaration.entity = entities := by
    simp [Function.comp_def]
  fun_induction readDeclarations condition line scope reversed ts with
  | case1 scope reversed => exact ⟨[], rfl, rfl, trivial⟩
  | case2 scope reversed t ts entities _ _ e hread =>
      have hentities := allWritten_of_readDeclaration condition t.doc hlexed hscope
      rw [hread] at hentities
      refine ⟨entities.map (Declaration.mk condition (line + (t.line - 1))), ?_, ?_, ?_⟩
      · exact List.foldl_flip_cons_eq_append
      · rw [hentity]
      · rwa [hentity]
  | case3 scope reversed t ts entities _ _ rest hread _ _ ih =>
      have hentities := allWritten_of_readDeclaration condition t.doc hlexed hscope
      have hrest := leads_readDeclaration scope condition t.doc (t :: ts)
      rw [hread] at hentities hrest
      obtain ⟨declarations, hreversed, hbehind, hmore⟩ :=
        ih (hlexed.of_suffix (Takes.suffix hrest)) (hscope.foldl_record hentities)
      refine ⟨entities.map (Declaration.mk condition (line + (t.line - 1))) ++ declarations,
        ?_, ?_, ?_⟩
      · rw [hreversed, List.reverse_append, List.append_assoc]
        exact congrArg (declarations.reverse ++ ·) List.foldl_flip_cons_eq_append
      · rw [hbehind, List.map_append, List.foldl_append, hentity]
      · rw [List.map_append, Scope.allWritten_append, hentity]
        exact ⟨hentities, hmore⟩

end Input

/-! ## Fragments -/

namespace Fragment

variable {scope scope' : Scope} {fragment : Fragment} {declarations : List Declaration}

/-- A fragment that is read declares entities that can be read back. -/
theorem allWritten_of_parse (hscope : scope.HasNoLeast)
    (h : parse scope fragment = (scope', .ok declarations)) :
    scope' = (declarations.map Declaration.entity).foldl Scope.record scope ∧
      scope.AllWritten (declarations.map Declaration.entity) := by
  unfold parse at h
  split at h
  · cases h
  · rename_i tokens htokens
    obtain ⟨read, hreversed, hbehind, hwritten⟩ := Input.exists_allWritten_of_readDeclarations
      fragment.condition fragment.line [] (Input.isLexed_ofTokens htokens) hscope
    dsimp only at h
    split at h <;> cases h
    rw [hreversed, List.append_nil, List.reverse_reverse]
    exact ⟨hbehind, hwritten⟩

/-- Reading a fragment declares no constant as the least integer, also if the reader gets stuck. -/
theorem hasNoLeast_of_parse (hscope : scope.HasNoLeast) (fragment : Fragment) :
    (parse scope fragment).1.HasNoLeast := by
  unfold parse
  split
  · exact hscope
  · rename_i tokens htokens
    obtain ⟨read, -, hbehind, hwritten⟩ := Input.exists_allWritten_of_readDeclarations
      fragment.condition fragment.line [] (Input.isLexed_ofTokens htokens) hscope
    dsimp only
    split <;> (rw [hbehind]; exact hscope.foldl_record hwritten)

end Fragment

/-- The scopes that reading fragments one after the other leads to, whether they can be read or
not. -/
inductive Scope.Reachable : Scope → Prop
  /-- Nothing was read. -/
  | empty : Reachable .empty
  /-- Another fragment is read. -/
  | parse {scope : Scope} (h : Reachable scope) (fragment : Fragment) :
    Reachable (Fragment.parse scope fragment).1

/-- No constant of a scope that reading leads to is the least integer. -/
theorem Scope.Reachable.hasNoLeast {scope : Scope} (h : scope.Reachable) : scope.HasNoLeast := by
  induction h with
  | empty => exact fun c hc => nomatch hc
  | parse _ fragment ih => exact Fragment.hasNoLeast_of_parse ih fragment

end GlslPrelude
