import GlslPrelude.Declaration.Parser
import GlslPrelude.Proofs.Declaration.Recording
import Mathlib.Data.List.Basic

/-!
# What readers leave

Every reader takes tokens off the front of its input, and so does one that gets stuck before it gets
stuck. All readers but those of constants stop at equals signs. A reader that gets stuck at an
unknown array size names a constant that its scope does not have.
-/

namespace GlslPrelude

namespace Documented

/-- A token is a mark if that is its lexeme. -/
theorem isMark_iff {t : Documented} {mark : Punct} :
    t.isMark mark = true ↔ t.lexeme = .punct mark := by
  unfold isMark
  split
  · rename_i h
    rw [h, decide_eq_true_eq, Lexeme.punct.injEq]
  · rename_i hne
    simp only [Bool.false_eq_true, false_iff]
    exact hne mark

/-- A token without comments before it. -/
def ofToken (t : Token) : Documented :=
  { comments := [], lexeme := t.lexeme, line := t.line }

/-- The token is no equals sign. -/
def IsInert (t : Documented) : Prop :=
  t.lexeme ≠ .punct .equal

end Documented

namespace Input

/-- Without documentation, the input has one token for each of the text. -/
theorem ofTokens_eq_map {tokens : List Token} (h : ∀ t ∈ tokens, ∀ text, t.lexeme ≠ .doc text) :
    ofTokens tokens = tokens.map Documented.ofToken := by
  induction tokens with
  | nil => rfl
  | cons token tokens ih =>
      rw [List.forall_mem_cons] at h
      change cons token (ofTokens tokens) = _
      rw [ih h.2]
      unfold cons
      split
      · exact absurd ‹_› (h.1 _)
      · exact absurd ‹_› (h.1 _)
      · rfl

/-- Every token of the input comes from one of the text. -/
theorem exists_token_of_mem_ofTokens {tokens : List Token} {t : Documented}
    (ht : t ∈ ofTokens tokens) :
    ∃ token ∈ tokens, token.lexeme = t.lexeme ∧ token.line = t.line := by
  induction tokens generalizing t with
  | nil => cases ht
  | cons token tokens ih =>
      change t ∈ cons token (ofTokens tokens) at ht
      have htail : ∀ u ∈ ofTokens tokens, u.lexeme = t.lexeme → u.line = t.line →
          ∃ token' ∈ token :: tokens, token'.lexeme = t.lexeme ∧ token'.line = t.line := by
        intro u hu hlexeme hline
        obtain ⟨token', hmem, hlexeme', hline'⟩ := ih hu
        exact ⟨token', List.mem_cons_of_mem _ hmem, hlexeme'.trans hlexeme, hline'.trans hline⟩
      unfold cons at ht
      split at ht
      · -- a comment joins the token behind it
        rename_i next rest _ heq
        rw [heq] at htail
        rcases List.mem_cons.1 ht with rfl | ht
        · exact htail next List.mem_cons_self rfl rfl
        · exact htail t (List.mem_cons_of_mem _ ht) rfl rfl
      · cases ht
      · rcases List.mem_cons.1 ht with rfl | ht
        · exact ⟨token, List.mem_cons_self, rfl, rfl⟩
        · exact htail t ht rfl rfl

/-- `rest` is what is left of an input behind some tokens of a class. -/
def Takes (P : Documented → Prop) (ts rest : Input) : Prop :=
  ∃ taken, ts = taken ++ rest ∧ ∀ t ∈ taken, P t

/-- A reader that took tokens of a class got stuck, at the next token or right behind it. -/
def StopsAt (P : Documented → Prop) (ts rest : Input) : Prop :=
  ∃ us, Takes P ts us ∧ (rest = us ∨ rest = us.tail)

/-- A reader takes tokens of a class and reads what it should or gets stuck; it does not miss a
constant for an array size that the scope has. -/
def Leads (P : Documented → Prop) (scope : Scope) (ts : Input) : Except Stuck Input → Prop
  | .ok rest => Takes P ts rest
  | .error e =>
    StopsAt P ts e.rest ∧ ∀ name, e.cause = .unknownSize name → scope.constant? name = none

section Basic

variable {P Q : Documented → Prop} {scope : Scope} {ts us vs rest : Input} {t : Documented}

/-- Nothing was taken. -/
theorem Takes.refl (ts : Input) : Takes P ts ts :=
  ⟨[], rfl, by simp⟩

/-- One more token was taken. -/
theorem Takes.cons (ht : P t) (h : Takes P ts rest) : Takes P (t :: ts) rest := by
  obtain ⟨taken, rfl, htaken⟩ := h
  refine ⟨t :: taken, rfl, ?_⟩
  rw [List.forall_mem_cons]
  exact ⟨ht, htaken⟩

/-- More tokens were taken. -/
theorem Takes.trans (h : Takes P ts us) (h' : Takes P us vs) : Takes P ts vs := by
  obtain ⟨taken, rfl, htaken⟩ := h
  obtain ⟨taken', rfl, htaken'⟩ := h'
  refine ⟨taken ++ taken', by simp, ?_⟩
  rw [List.forall_mem_append]
  exact ⟨htaken, htaken'⟩

/-- Tokens of a class are tokens of a wider class. -/
theorem Takes.mono (h : Takes P ts rest) (hPQ : ∀ t, P t → Q t) : Takes Q ts rest := by
  obtain ⟨taken, rfl, htaken⟩ := h
  exact ⟨taken, rfl, fun t ht => hPQ t (htaken t ht)⟩

/-- What is left is an end of the input. -/
theorem Takes.suffix (h : Takes P ts rest) : rest <:+ ts := by
  obtain ⟨taken, rfl, -⟩ := h
  exact List.suffix_append taken rest

/-- A reader that gets stuck leaves an end of the input. -/
theorem StopsAt.suffix (h : StopsAt P ts rest) : rest <:+ ts := by
  obtain ⟨us, htakes, rfl | rfl⟩ := h
  · exact htakes.suffix
  · exact (List.tail_suffix us).trans htakes.suffix

/-- A reader can get stuck behind more tokens. -/
theorem Takes.stopsAt (h : Takes P ts us) (h' : StopsAt P us rest) : StopsAt P ts rest := by
  obtain ⟨vs, htakes, hrest⟩ := h'
  exact ⟨vs, h.trans htakes, hrest⟩

/-- A reader goes on where another one stopped. -/
theorem Leads.of_takes {result : Except Stuck Input} (h : Takes P ts us)
    (h' : Leads P scope us result) : Leads P scope ts result := by
  cases result with
  | ok rest => exact h.trans h'
  | error e => exact ⟨h.stopsAt h'.1, h'.2⟩

/-- A reader goes on with what another one read. -/
theorem Leads.bind {α : Type} {behind : α → Input} {result : Except Stuck α}
    {next : Except Stuck Input} (h : Leads P scope ts (result.map behind))
    (herror : ∀ e, result = .error e → next = .error e)
    (hok : ∀ a, result = .ok a → Leads P scope (behind a) next) : Leads P scope ts next := by
  cases result with
  | error e =>
      rw [herror e rfl]
      exact h
  | ok a => exact .of_takes h (hok a rfl)

/-- What a reader leaves is also what is left behind tokens of a wider class. -/
theorem Leads.mono {result : Except Stuck Input} (h : Leads P scope ts result)
    (hPQ : ∀ t, P t → Q t) : Leads Q scope ts result := by
  cases result with
  | ok rest => exact Takes.mono h hPQ
  | error e =>
      obtain ⟨⟨us, htakes, hrest⟩, hunknown⟩ := h
      exact ⟨⟨us, htakes.mono hPQ, hrest⟩, hunknown⟩

/-- A reader that gets stuck at a token for another cause. -/
theorem Leads.stuck {α : Type} {behind : α → Input} {cause : ParseCause}
    (hcause : ∀ name, cause ≠ .unknownSize name) (h : Takes P ts rest) :
    Leads P scope ts ((Input.stuck cause rest).map behind) :=
  ⟨⟨rest, h, .inl rfl⟩, fun name hname => absurd hname (hcause name)⟩

/-- A reader that gets stuck right behind a token for another cause. -/
theorem Leads.stuck_tail {α : Type} {behind : α → Input} {cause : ParseCause}
    (hcause : ∀ name, cause ≠ .unknownSize name) (h : Takes P ts (t :: rest)) :
    Leads P scope ts ((Input.stuck cause rest).map behind) :=
  ⟨⟨t :: rest, h, .inr rfl⟩, fun name hname => absurd hname (hcause name)⟩

end Basic

section Marks

variable {P : Documented → Prop} {scope : Scope} {mark : Punct} {w : String} {cause : ParseCause}
  {ts rest : Input}

/-- A mark that comes next is skipped. -/
theorem skip?_eq_some_iff :
    skip? mark ts = some rest ↔ ∃ t, ts = t :: rest ∧ t.lexeme = .punct mark := by
  unfold skip?
  split
  · split
    · rename_i hmark
      rw [Documented.isMark_iff] at hmark
      grind
    · rename_i hmark
      rw [Documented.isMark_iff] at hmark
      grind
  · simp

/-- No mark is skipped if another token comes next. -/
theorem skip?_of_ne {t : Documented} (ht : t.lexeme ≠ .punct mark) :
    skip? mark (t :: ts) = none := by
  rw [skip?, if_neg (by rwa [Documented.isMark_iff])]

/-- A mark that comes next is read. -/
theorem expect_eq_ok_iff :
    expect mark ts = .ok rest ↔ ∃ t, ts = t :: rest ∧ t.lexeme = .punct mark := by
  rw [← skip?_eq_some_iff]
  unfold expect stuck
  split <;> simp_all

/-- A word that comes next is found. -/
theorem word?_eq_some_iff :
    word? ts = some (w, rest) ↔ ∃ t, ts = t :: rest ∧ t.lexeme = .word w := by
  unfold word?
  grind

/-- A word that comes next is read. -/
theorem expectWord_eq_ok_iff :
    expectWord cause ts = .ok (w, rest) ↔ ∃ t, ts = t :: rest ∧ t.lexeme = .word w := by
  rw [← word?_eq_some_iff]
  unfold expectWord stuck
  split <;> simp_all

/-- `void` and a closing parenthesis are skipped. -/
theorem skipVoid?_eq_some_iff :
    skipVoid? ts = some rest ↔
      ∃ t u, ts = t :: u :: rest ∧ t.lexeme = .word "void" ∧ u.lexeme = .punct .rightParen := by
  unfold skipVoid?
  constructor
  · intro h
    split at h
    · rename_i hword
      obtain ⟨t, rfl, ht⟩ := word?_eq_some_iff.1 hword
      obtain ⟨u, rfl, hu⟩ := skip?_eq_some_iff.1 h
      exact ⟨t, u, rfl, ht, hu⟩
    · cases h
  · rintro ⟨t, u, rfl, ht, hu⟩
    rw [word?_eq_some_iff.2 ⟨t, rfl, ht⟩]
    exact skip?_eq_some_iff.2 ⟨u, rfl, hu⟩

/-- Words are taken without equals signs. -/
theorem takes_word? (h : word? ts = some (w, rest)) : Takes Documented.IsInert ts rest := by
  obtain ⟨t, rfl, ht⟩ := word?_eq_some_iff.1 h
  exact .cons (by simp [Documented.IsInert, ht]) (.refl rest)

/-- Marks other than the equals sign are taken. -/
theorem takes_skip? (hmark : mark ≠ .equal) (h : skip? mark ts = some rest) :
    Takes Documented.IsInert ts rest := by
  obtain ⟨t, rfl, ht⟩ := skip?_eq_some_iff.1 h
  exact .cons (by simp [Documented.IsInert, ht, hmark]) (.refl rest)

/-- Reading a mark other than the equals sign. -/
theorem leads_expect (scope : Scope) (mark : Punct) (ts : Input) (hmark : mark ≠ .equal) :
    Leads Documented.IsInert scope ts (expect mark ts) := by
  unfold expect
  split
  · exact takes_skip? hmark ‹_›
  · exact ⟨⟨ts, .refl ts, .inl rfl⟩, by simp⟩

/-- Reading a word. -/
theorem leads_expectWord (scope : Scope) (cause : ParseCause) (ts : Input)
    (hcause : ∀ name, cause ≠ .unknownSize name) :
    Leads Documented.IsInert scope ts ((expectWord cause ts).map Prod.snd) := by
  unfold expectWord
  split
  · exact takes_word? ‹_›
  · exact .stuck hcause (.refl ts)

end Marks

variable {scope : Scope}

/-- Qualifiers are taken without equals signs. -/
theorem takes_readQualifiers (qs : QualifierSet) (ts : Input) :
    Takes Documented.IsInert ts (readQualifiers qs ts).2 := by
  fun_induction readQualifiers qs ts with
  | case1 | case3 | case4 => exact .refl _
  | case2 qs t ts w hw q _ ih => exact .cons (by simp [Documented.IsInert, hw]) ih

/-- A token that gives an array size is no mark. -/
theorem isInert_of_size {t : Documented} {n : Nat} (h : scope.size t.lexeme = .ok n) :
    t.IsInert := by
  intro hmark
  rw [hmark] at h
  cases h

/-- A constant that is missing for an array size is not in scope. -/
theorem constant?_of_size {lexeme : Lexeme} {cause : ParseCause}
    (h : scope.size lexeme = .error cause) :
    ∀ name, cause = .unknownSize name → scope.constant? name = none := by
  rintro name rfl
  unfold Scope.size Scope.sizeNumber at h
  grind

/-- Reading array dimensions. -/
theorem leads_readSizes (scope : Scope) (ts : Input) :
    Leads Documented.IsInert scope ts ((readSizes scope ts).map Prod.snd) := by
  have hinert : ∀ {t : Documented} {mark}, mark ≠ .equal → t.isMark mark = true → t.IsInert := by
    intro t mark hne hmark
    simp [Documented.IsInert, Documented.isMark_iff.1 hmark, hne]
  fun_induction readSizes scope ts with
  | case1 | case10 => exact .refl _
  -- nothing behind the bracket, or a dimension without a length
  | case2 t ht => exact .stuck (by simp) (.cons (hinert (by decide) ht) (.refl _))
  | case3 t ht v vs hv sizes rest hread ih | case4 t ht v vs hv e hread ih =>
      rw [hread] at ih
      exact .of_takes (.cons (hinert (by decide) ht) (.cons (hinert (by decide) hv) (.refl vs))) ih
  | case5 t ht v vs hv cause hsize =>
      -- the reader stops at the size, right behind the bracket
      have htakes : Takes Documented.IsInert (t :: v :: vs) (v :: vs) :=
        .cons (hinert (by decide) ht) (.refl _)
      exact ⟨⟨v :: vs, htakes, .inr rfl⟩, constant?_of_size hsize⟩
  -- nothing behind the size, or a dimension with a length, or no closing bracket
  | case6 t ht v hv n hsize =>
      exact .stuck (by simp)
        (.cons (hinert (by decide) ht) (.cons (isInert_of_size hsize) (.refl _)))
  | case7 t ht v hv n hsize w vs hw sizes rest hread ih
  | case8 t ht v hv n hsize w vs hw e hread ih =>
      rw [hread] at ih
      exact .of_takes (.cons (hinert (by decide) ht) (.cons (isInert_of_size hsize)
        (.cons (hinert (by decide) hw) (.refl vs)))) ih
  | case9 t ht v hv n hsize w vs hw =>
      exact .stuck (by simp)
        (.cons (hinert (by decide) ht) (.cons (isInert_of_size hsize) (.refl _)))

/-- Reading array dimensions of a type. -/
theorem leads_readArray (scope : Scope) (element : Ty) (ts : Input) :
    Leads Documented.IsInert scope ts ((readArray scope element ts).map Prod.snd) := by
  have h := leads_readSizes scope ts
  unfold readArray
  split <;> rename_i hread <;> rwa [hread] at h

/-- Reading a type. -/
theorem leads_readType (scope : Scope) (cause : ParseCause)
    (hcause : ∀ name, cause ≠ .unknownSize name) (ts : Input) :
    Leads Documented.IsInert scope ts ((readType cause scope ts).map Prod.snd) := by
  unfold readType
  refine (leads_expectWord scope cause ts hcause).bind (fun e he => by rw [he]; rfl) ?_
  rintro ⟨name, rest⟩ hread
  rw [hread]
  dsimp only
  split
  · rename_i e he
    unfold resolveType at he
    split at he
    · cases he
    · cases he
      exact .stuck (by simp) (.refl rest)
  · exact leads_readArray _ _ rest

/-- What is read of a parameter behind its name, or behind its type if it has none. -/
def readParameterSizes (scope : Scope) (qualifiers : QualifierSet) (element : Ty)
    (name : Option String) (ts : Input) : Except Stuck (Parameter × Input) :=
  match readArray scope element ts with
  | .error e => .error e
  | .ok (type, rest) =>
    if type.hasImplicitSize then stuck .unsizedParameter rest
    else .ok ({ name, type, qualifiers }, rest)

/-- Reading the dimensions of a parameter. -/
theorem leads_readParameterSizes (scope : Scope) (qualifiers : QualifierSet) (element : Ty)
    (name : Option String) (ts : Input) : Leads Documented.IsInert scope ts
      ((readParameterSizes scope qualifiers element name ts).map Prod.snd) := by
  unfold readParameterSizes
  refine (leads_readArray _ element ts).bind (fun e he => by rw [he]; rfl) ?_
  rintro ⟨type, rest⟩ harray
  rw [harray]
  dsimp only
  split
  · exact .stuck (by simp) (.refl rest)
  · exact .refl rest

/-- Reading a parameter. -/
theorem leads_readParameter (scope : Scope) (ts : Input) :
    Leads Documented.IsInert scope ts ((readParameter scope ts).map Prod.snd) := by
  unfold readParameter
  have hqualifiers := takes_readQualifiers ∅ ts
  cases hread : readQualifiers ∅ ts with
  | mk qualifiers us =>
  rw [hread] at hqualifiers
  refine .of_takes hqualifiers ?_
  dsimp only
  refine (leads_readType _ .missingParameterType (by simp) us).bind
    (fun e he => by rw [he]; rfl) ?_
  rintro ⟨element, vs⟩ htype
  rw [htype]
  dsimp only
  cases hword : word? vs with
  | none => exact leads_readParameterSizes scope qualifiers element none vs
  | some result =>
      obtain ⟨name, ws⟩ := result
      exact .of_takes (takes_word? hword)
        (leads_readParameterSizes scope qualifiers element (some name) ws)

/-- Reading at least one parameter. -/
theorem leads_readMoreParameters (scope : Scope) (ts : Input) :
    Leads Documented.IsInert scope ts ((readMoreParameters scope ts).map Prod.snd) := by
  have h := leads_readParameter scope ts
  fun_induction readMoreParameters scope ts with
  | case1 ts e hread =>
      rw [hread] at h
      exact h
  | case2 ts p rest hread us hskip _ e hmore ih | case3 ts p rest hread us hskip _ ps vs hmore ih =>
      rw [hread] at h
      refine .of_takes h (.of_takes (takes_skip? (by decide) hskip) ?_)
      have ih := ih (leads_readParameter _ us)
      rwa [hmore] at ih
  | case4 ts p rest hread hskip e hexpect | case5 ts p rest hread hskip us hexpect =>
      rw [hread] at h
      refine .of_takes h ?_
      have hclose := leads_expect scope .rightParen rest (by decide)
      rwa [hexpect] at hclose

/-- Reading the parameters of a function. -/
theorem leads_readParameters (scope : Scope) (ts : Input) :
    Leads Documented.IsInert scope ts ((readParameters scope ts).map Prod.snd) := by
  unfold readParameters
  split
  · rename_i hskip
    exact takes_skip? (by decide) hskip
  · split
    · rename_i rest hvoid
      unfold skipVoid? at hvoid
      split at hvoid
      · rename_i hword
        exact Takes.trans (takes_word? hword) (takes_skip? (by decide) hvoid)
      · cases hvoid
    · exact leads_readMoreParameters _ ts

/-- Reading the names of block members. -/
theorem leads_readFieldNames (scope : Scope) (qs : QualifierSet) (element : Ty) (ts : Input) :
    Leads Documented.IsInert scope ts ((readFieldNames scope qs element ts).map Prod.snd) := by
  have hname := leads_expectWord scope .missingFieldName ts (by simp)
  fun_induction readFieldNames scope qs element ts with
  | case1 ts e hword =>
      rw [hword] at hname
      exact hname
  | case2 ts name us hword e harray =>
      rw [hword] at hname
      have hdims := leads_readArray scope element us
      rw [harray] at hdims
      exact .of_takes hname hdims
  | case3 ts name us hword type vs harray ws hskip _ e hmore ih
  | case4 ts name us hword type vs harray ws hskip _ fields rest hmore ih =>
      rw [hword] at hname
      have hdims := leads_readArray scope element us
      rw [harray] at hdims
      refine .of_takes hname (.of_takes hdims (.of_takes (takes_skip? (by decide) hskip) ?_))
      have ih := ih (leads_expectWord _ _ _ (by simp))
      rwa [hmore] at ih
  | case5 ts name us hword type vs harray hskip e hexpect
  | case6 ts name us hword type vs harray hskip rest hexpect =>
      rw [hword] at hname
      have hdims := leads_readArray scope element us
      rw [harray] at hdims
      refine .of_takes hname (.of_takes hdims ?_)
      have hclose := leads_expect scope .semicolon vs (by decide)
      rwa [hexpect] at hclose

/-- Reading the members of a block that share their type. -/
theorem leads_readFieldGroup (scope : Scope) (ts : Input) :
    Leads Documented.IsInert scope ts ((readFieldGroup scope ts).map Prod.snd) := by
  unfold readFieldGroup
  have hqualifiers := takes_readQualifiers ∅ ts
  cases hread : readQualifiers ∅ ts with
  | mk qualifiers us =>
  rw [hread] at hqualifiers
  refine .of_takes hqualifiers ?_
  dsimp only
  refine (leads_readType _ .missingFieldType (by simp) us).bind
    (fun e he => by rw [he]; rfl) ?_
  rintro ⟨element, vs⟩ htype
  rw [htype]
  exact leads_readFieldNames _ qualifiers element vs

/-- Reading the members of a block. -/
theorem leads_readFields (scope : Scope) (ts : Input) :
    Leads Documented.IsInert scope ts ((readFields scope ts).map Prod.snd) := by
  fun_induction readFields scope ts with
  | case1 ts rest hskip => exact takes_skip? (by decide) hskip
  | case2 ts hskip hempty => exact .stuck (by simp) (.refl ts)
  | case3 ts hskip hne e hread =>
      have h := leads_readFieldGroup scope ts
      rwa [hread] at h
  | case4 ts hskip hne fields rest hread _ e hmore ih
  | case5 ts hskip hne fields rest hread _ more rest' hmore ih =>
      have h := leads_readFieldGroup scope ts
      rw [hread] at h
      refine .of_takes h ?_
      rwa [hmore] at ih

/-- Reading a block. -/
theorem leads_readBlock (scope : Scope) (head : Head) (name : String) (ts : Input) :
    Leads Documented.IsInert scope ts (readBlock scope head name ts).2 := by
  unfold readBlock
  have hfields := leads_readFields scope ts
  cases hread : readFields scope ts with
  | error e =>
      rw [hread] at hfields
      exact hfields
  | ok result =>
      obtain ⟨fields, us⟩ := result
      rw [hread] at hfields
      refine .of_takes hfields ?_
      dsimp only
      split
      · exact ⟨⟨us, .refl us, .inl rfl⟩, by simp⟩
      · split
        · exact leads_expect _ _ _ (by decide)
        · rename_i vs hword
          refine .of_takes (takes_word? hword) ?_
          have hdims := leads_readArray scope (Block.type { name, fields }) vs
          split <;> rename_i harray <;> rw [harray] at hdims
          · exact hdims
          · exact .of_takes hdims (leads_expect _ _ _ (by decide))

/-- Reading a function. -/
theorem leads_readFunction (scope : Scope) (head : Head) (condition : Condition) (returnType : Ty)
    (name : String) (ts : Input) :
    Leads Documented.IsInert scope ts (readFunction scope head condition returnType name ts).2 := by
  unfold readFunction
  have hparameters := leads_readParameters scope ts
  split <;> rename_i hread <;> rw [hread] at hparameters
  · exact hparameters
  · rename_i us
    refine .of_takes hparameters ?_
    have hclose := leads_expect scope .semicolon us (by decide)
    split <;> rename_i hexpect <;> rwa [hexpect] at hclose

mutual

/-- Reading the value of a constant. -/
theorem leads_readInitializer (scope : Scope) (ts : Input) :
    Leads Documented.IsInert scope ts ((readInitializer scope ts).map (·.2.val)) := by
  match ts with
  | [] =>
      rw [readInitializer]
      exact .stuck (by simp) (.refl [])
  | t :: rest =>
      -- a list, or a literal behind a sign or without one
      have hmark {mark : Punct} (hne : mark ≠ .equal) (h : t.isMark mark = true) :
          Takes Documented.IsInert (t :: rest) rest :=
        .cons (by simp [Documented.IsInert, Documented.isMark_iff.1 h, hne]) (.refl rest)
      have hliteral := leads_readLiteral scope rest
      rw [readInitializer]
      split
      · -- a list in braces
        rename_i hbrace
        refine .of_takes (hmark (by decide) hbrace) ?_
        refine (leads_readValues _ .rightBrace (by decide) rest).bind
          (fun e he => by rw [he]; rfl) ?_
        rintro ⟨values, rest', h⟩ hread
        rw [hread]
        exact .refl rest'
      · split
        · -- a literal behind a minus
          rename_i hminus
          refine .of_takes (hmark (by decide) hminus) ?_
          refine hliteral.bind (fun e he => by rw [he]; rfl) ?_
          rintro ⟨value, rest', h⟩ hread
          rw [hread]
          dsimp only
          unfold negate
          split <;> rename_i hnegate <;> split at hnegate <;> cases hnegate
          · exact .stuck (by simp) (.refl rest')
          · exact .refl rest'
          · exact .refl rest'
        · split
          · -- a literal behind a plus
            rename_i hplus
            refine .of_takes (hmark (by decide) hplus) ?_
            refine hliteral.bind (fun e he => by rw [he]; rfl) ?_
            rintro ⟨value, rest', h⟩ hread
            rw [hread]
            exact .refl rest'
          · exact leads_readLiteral _ (t :: rest)
termination_by (ts.length, 1)

/-- Reading a literal, the name of a constant, or a type name with values. -/
theorem leads_readLiteral (scope : Scope) (ts : Input) :
    Leads Documented.IsInert scope ts ((readLiteral scope ts).map (·.2.val)) := by
  match ts with
  | [] =>
      rw [readLiteral]
      exact .stuck (by simp) (.refl [])
  | t :: rest =>
      have hinert (h : ∀ mark, t.lexeme ≠ .punct mark) :
          Takes Documented.IsInert (t :: rest) rest :=
        .cons (h .equal) (.refl rest)
      rw [readLiteral]
      split
      · exact hinert (by simp [*])
      · split
        · exact hinert (by simp [*])
        · exact .stuck (by simp) (hinert (by simp [*]))
      · exact hinert (by simp [*])
      · exact hinert (by simp [*])
      · exact hinert (by simp [*])
      · -- a word names a type, if values follow in parentheses, or a constant
        rename_i hlexeme
        refine .of_takes (hinert (by simp [hlexeme])) ?_
        split
        · rename_i inside hskip
          have hskip : skip? .leftParen rest = some inside := by
            split at hskip
            · exact hskip
            · contradiction
          have := length_skip?_lt hskip
          refine .of_takes (takes_skip? (by decide) hskip) ?_
          refine (leads_readValues _ .rightParen (by decide) inside).bind
            (fun e he => by rw [he]; rfl) ?_
          rintro ⟨values, rest', h⟩ hread
          rw [hread]
          exact .refl rest'
        · split
          · exact .refl rest
          · exact .stuck (by simp) (.refl rest)
      · exact .stuck_tail (by simp) (.refl (t :: rest))
termination_by (ts.length, 0)

/-- Reading values separated by commas. -/
theorem leads_readValues (scope : Scope) (close : Punct) (hclose : close ≠ .equal) (ts : Input) :
    Leads Documented.IsInert scope ts ((readValues scope close ts).map (·.2.val)) := by
  rw [readValues]
  split
  · rename_i hskip
    exact takes_skip? hclose hskip
  · exact leads_readMoreValues _ close hclose ts
termination_by (ts.length, 3)

/-- Reading at least one value. -/
theorem leads_readMoreValues (scope : Scope) (close : Punct) (hclose : close ≠ .equal)
    (ts : Input) :
    Leads Documented.IsInert scope ts ((readMoreValues scope close ts).map (·.2.val)) := by
  rw [readMoreValues]
  refine (leads_readInitializer _ ts).bind (fun e he => by rw [he]; rfl) ?_
  rintro ⟨value, rest, h⟩ hread
  rw [hread]
  dsimp only
  split
  · rename_i rest' hskip
    have := length_skip?_lt hskip
    refine .of_takes (takes_skip? (by decide) hskip) ?_
    refine (leads_readMoreValues _ close hclose rest').bind (fun e he => by rw [he]; rfl) ?_
    rintro ⟨values, rest₂, h'⟩ hmore
    rw [hmore]
    exact .refl rest₂
  · have hexpect := leads_expect scope _ rest hclose
    split <;> rename_i heq <;> rwa [heq] at hexpect
termination_by (ts.length, 2)

end

/-! ## Declarations -/

/-- What is taken are some tokens. -/
theorem Takes.any {ts rest : Input} (h : Takes Documented.IsInert ts rest) :
    Takes (fun _ => True) ts rest :=
  h.mono fun _ _ => trivial

/-- A reader that stops at equals signs takes some tokens. -/
theorem Leads.any {ts : Input} {result : Except Stuck Input}
    (h : Leads Documented.IsInert scope ts result) : Leads (fun _ => True) scope ts result :=
  h.mono fun _ _ => trivial

/-- Reading what follows the name of a constant or variable. -/
theorem leads_readDeclarator (scope : Scope) (head : Head) (element : Ty) (name : String)
    (ts : Input) :
    Leads (fun _ => True) scope ts ((readDeclarator scope head element name ts).map Prod.snd) := by
  unfold readDeclarator
  refine (leads_readArray _ element ts).any.bind (fun e he => by rw [he]; rfl) ?_
  rintro ⟨type, us⟩ harray
  rw [harray]
  dsimp only
  -- a constant needs a value, and nothing else can have one
  split
  · exact .stuck (by simp) (.refl us)
  · rename_i vs _ hskip
    obtain ⟨t, rfl, -⟩ := skip?_eq_some_iff.1 hskip
    refine .of_takes (.cons trivial (.refl vs)) ?_
    refine (leads_readInitializer _ vs).any.bind (fun e he => by rw [he]; rfl) ?_
    rintro ⟨value, rest, h⟩ hread
    rw [hread]
    dsimp only
    split
    · exact .stuck (by simp) (.refl rest)
    · exact .refl rest
  · exact .stuck (by simp) (.refl us)
  · exact .refl us

/-- One entity is declared if no comma follows the first declarator. -/
theorem readDeclarators_of_last {head : Head} {element : Ty} {name : String} {entity : Entity}
    {ts rest : Input} (hread : readDeclarator scope head element name ts = .ok (entity, rest))
    (hcomma : skip? .comma rest = none) :
    readDeclarators scope head element name ts = ([entity], expect .semicolon rest) := by
  rw [readDeclarators]
  split <;> rename_i heq <;> cases hread.symm.trans heq
  split
  · rfl
  · rename_i heq
    cases hcomma.symm.trans heq

/-- Reading constants or variables. -/
theorem leads_readDeclarators (scope : Scope) (head : Head) (element : Ty) (name : String)
    (ts : Input) :
    Leads (fun _ => True) scope ts (readDeclarators scope head element name ts).2 := by
  have h := leads_readDeclarator scope head element name ts
  fun_induction readDeclarators scope head element name ts with
  | case1 scope name ts e hread =>
      rw [hread] at h
      exact h
  | case2 scope name ts entity us hread hskip =>
      rw [hread] at h
      exact .of_takes h (leads_expect _ _ _ (by decide)).any
  | case3 scope name ts entity us hread vs hskip e hword =>
      rw [hread] at h
      refine .of_takes h (.of_takes (takes_skip? (by decide) hskip).any ?_)
      have hname := leads_expectWord scope .missingName vs (by simp)
      rw [hword] at hname
      exact hname.any
  | case4 scope name ts entity us hread vs hskip next ws hword _ entities result hmore ih =>
      rw [hread] at h
      refine .of_takes h (.of_takes (takes_skip? (by decide) hskip).any ?_)
      have hname := leads_expectWord scope .missingName vs (by simp)
      rw [hword] at hname
      refine .of_takes hname.any ?_
      have ih := ih (leads_readDeclarator _ head element next ws)
      rw [hmore] at ih
      -- the other declarators are read with this one in scope, where no constant is lost
      cases result with
      | ok rest => exact ih
      | error e => exact ⟨ih.1, fun name hname => Scope.constant?_of_record (ih.2 name hname)⟩

/-- Reading a function, constant or variable. -/
theorem leads_readNamed (scope : Scope) (head : Head) (condition : Condition) (element : Ty)
    (ts : Input) :
    Leads (fun _ => True) scope ts (readNamed scope head condition element ts).2 := by
  unfold readNamed
  refine (leads_readArray _ element ts).any.bind (fun e he => by rw [he]) ?_
  rintro ⟨type, us⟩ harray
  rw [harray]
  dsimp only
  refine (leads_expectWord _ .missingName us (by simp)).any.bind (fun e he => by rw [he]) ?_
  rintro ⟨name, vs⟩ hword
  rw [hword]
  dsimp only
  split
  · rename_i ws hskip
    exact .of_takes (takes_skip? (by decide) hskip).any
      (leads_readFunction _ head condition type name ws).any
  · exact leads_readDeclarators _ head type name vs

/-- Reading a declaration. -/
theorem leads_readDeclaration (scope : Scope) (condition : Condition) (doc : Option String)
    (ts : Input) :
    Leads (fun _ => True) scope ts (readDeclaration scope condition doc ts).2 := by
  unfold readDeclaration
  have hqualifiers := takes_readQualifiers ∅ ts
  cases hread : readQualifiers ∅ ts with
  | mk qualifiers us =>
  rw [hread] at hqualifiers
  refine .of_takes hqualifiers.any ?_
  dsimp only
  refine (leads_expectWord _ .missingType us (by simp)).any.bind (fun e he => by rw [he]) ?_
  rintro ⟨name, vs⟩ hword
  rw [hword]
  dsimp only
  split
  · rename_i ws hskip
    exact .of_takes (takes_skip? (by decide) hskip).any
      (leads_readBlock _ _ name ws).any
  · split
    · rename_i e he
      unfold resolveType at he
      split at he
      · cases he
      · cases he
        exact ⟨⟨vs, .refl vs, .inl rfl⟩, by simp⟩
    · exact leads_readNamed _ _ condition _ vs

/-- Reading ends with a declaration that cannot be read to its end. -/
theorem readDeclarations_of_error {condition : Condition} {line : Nat} {reversed : List Declaration}
    {t : Documented} {ts : Input} {entities : List Entity} {e : Stuck}
    (hread : readDeclaration scope condition t.doc (t :: ts) = (entities, .error e)) :
    readDeclarations condition line scope reversed (t :: ts) =
      { reversed := entities.foldl (fun reversed entity =>
          { condition, line := line + (t.line - 1), entity } :: reversed) reversed
        scope := entities.foldl Scope.record scope
        stuck? := some e } := by
  rw [readDeclarations]
  split
  rename_i heq
  obtain ⟨rfl, rfl⟩ := Prod.mk.inj (hread.symm.trans heq)
  rfl

/-- Reading goes on behind a declaration. -/
theorem readDeclarations_of_ok {condition : Condition} {line : Nat} {reversed : List Declaration}
    {t : Documented} {ts rest : Input} {entities : List Entity}
    (hread : readDeclaration scope condition t.doc (t :: ts) = (entities, .ok rest)) :
    readDeclarations condition line scope reversed (t :: ts) =
      readDeclarations condition line (entities.foldl Scope.record scope)
        (entities.foldl (fun reversed entity =>
          { condition, line := line + (t.line - 1), entity } :: reversed) reversed) rest := by
  rw [readDeclarations]
  split
  rename_i heq
  obtain ⟨rfl, rfl⟩ := Prod.mk.inj (hread.symm.trans heq)
  rfl

/-- The scope that a reader of declarations leaves has all the constants that it had before. -/
theorem constant?_of_readDeclarations {condition : Condition} {line : Nat}
    {reversed : List Declaration} {ts : Input} {name : String}
    (h : (readDeclarations condition line scope reversed ts).scope.constant? name = none) :
    scope.constant? name = none := by
  fun_induction readDeclarations condition line scope reversed ts with
  | case1 => exact h
  | case2 => exact Scope.constant?_of_foldl_record h
  | case3 scope reversed t ts entities _ _ rest hread _ _ ih =>
      exact Scope.constant?_of_foldl_record (ih h)

/-- A reader of declarations that gets stuck leaves an end of its input, and does not miss a
constant that was in scope. -/
theorem stuck_readDeclarations {condition : Condition} {line : Nat} {reversed : List Declaration}
    {ts : Input} {e : Stuck}
    (h : (readDeclarations condition line scope reversed ts).stuck? = some e) :
    e.rest <:+ ts ∧ ∀ name, e.cause = .unknownSize name → scope.constant? name = none := by
  fun_induction readDeclarations condition line scope reversed ts with
  | case1 => cases h
  | case2 scope reversed t ts entities _ _ e' hread =>
      cases h
      have hleads := leads_readDeclaration scope condition t.doc (t :: ts)
      rw [hread] at hleads
      exact ⟨hleads.1.suffix, hleads.2⟩
  | case3 scope reversed t ts entities _ _ rest hread _ _ ih =>
      have hleads := leads_readDeclaration scope condition t.doc (t :: ts)
      rw [hread] at hleads
      obtain ⟨hsuffix, hunknown⟩ := ih h
      exact ⟨hsuffix.trans hleads.suffix,
        fun name hname => Scope.constant?_of_foldl_record (hunknown name hname)⟩

end Input

end GlslPrelude
