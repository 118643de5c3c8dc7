import GlslPrelude.Proofs.Declaration.Literals

/-!
# A line that declares an integer constant

Where readers stand relative to the tokens of a line such as `const int n = 3;`. Whatever stands in
front of the line, declarations are read up to the line, or up to its end with the constant in
scope, or the reader gets stuck before the end of the line (`ConstantLine.InFront.readDeclaration`,
`ConstantLine.InFront.readDeclarations`).
-/

namespace GlslPrelude

namespace Input

/-- The tokens of a line that declares an integer constant. -/
structure ConstantLine (name : String) (value : Int64) where
  /-- The qualifier. -/
  qualifier : Documented
  /-- The type. -/
  type : Documented
  /-- The name. -/
  constant : Documented
  /-- The equals sign. -/
  equal : Documented
  /-- The value. -/
  literal : Documented
  /-- The semicolon. -/
  close : Documented
  /-- The literal as a word of 64 bits. -/
  bits : UInt64
  qualifier_eq : qualifier.lexeme = .word "const"
  type_eq : type.lexeme = .word "int"
  constant_eq : constant.lexeme = .word name
  equal_eq : equal.lexeme = .punct .equal
  literal_eq : literal.lexeme = .int bits false
  close_eq : close.lexeme = .punct .semicolon
  signed_bits : ConstValue.signed? bits = some value

/-- A reader leaves an input with a property, or it gets stuck while more than the given input is
left. -/
def EndsBefore (post : Input) (Q : Input → Prop) : Except Stuck Input → Prop
  | .ok rest => Q rest
  | .error e => post.length < e.rest.length

/-- A reader goes on with what another one read. -/
theorem EndsBefore.bind {α : Type} {post : Input} {Q R : Input → Prop} {behind : α → Input}
    {result : Except Stuck α} {next : Except Stuck Input}
    (h : EndsBefore post Q (result.map behind)) (herror : ∀ e, result = .error e → next = .error e)
    (hok : ∀ a, result = .ok a → Q (behind a) → EndsBefore post R next) :
    EndsBefore post R next := by
  cases result with
  | error e =>
      rw [herror e rfl]
      exact h
  | ok a => exact hok a rfl h

/-- The property of what is left can be a weaker one. -/
theorem EndsBefore.imp {post : Input} {Q R : Input → Prop} {result : Except Stuck Input}
    (h : EndsBefore post Q result) (hQR : ∀ rest, Q rest → R rest) : EndsBefore post R result := by
  cases result with
  | ok rest => exact hQR rest h
  | error e => exact h

namespace ConstantLine

variable {name : String} {value : Int64} (line : ConstantLine name value) (post : Input)

/-- Input that begins at the equals sign of the line. -/
def atEqual : Input :=
  line.equal :: line.literal :: line.close :: post

/-- Input that begins at the name of the constant. -/
def atName : Input :=
  line.constant :: line.atEqual post

/-- Input that begins at the type of the constant. -/
def atType : Input :=
  line.type :: line.atName post

/-- Input that begins at the line. -/
def input : Input :=
  line.qualifier :: line.atType post

/-- The line is still to be read. -/
def InFront (ts : Input) : Prop :=
  line.input post <:+ ts

/-- The equals sign of the line is still to be read. -/
def Ahead (ts : Input) : Prop :=
  line.InFront post ts ∨ ts = line.atType post ∨ ts = line.atName post ∨ ts = line.atEqual post

variable {line post} {scope : Scope} {ts rest : Input} {t : Documented}

/-- In front of the equals sign, more is left than what follows the line. -/
theorem Ahead.length_lt (h : line.Ahead post ts) : post.length + 2 < ts.length := by
  have hlength : (line.atEqual post).length = post.length + 3 := rfl
  rcases h with h | rfl | rfl | rfl
  · have := h.length_le
    simp only [input, atType, atName, List.length_cons] at this
    omega
  · simp only [atType, atName, List.length_cons]
    omega
  · simp only [atName, List.length_cons]
    omega
  · omega

/-- A reader that gets stuck right here gets stuck before the end of the line. -/
theorem Ahead.stuck (h : line.Ahead post ts) {cause : ParseCause} {Q : Input → Prop} :
    EndsBefore post Q (.error { cause, rest := ts }) :=
  Nat.lt_of_le_of_lt (Nat.le_add_right _ 2) h.length_lt

/-- Without an equals sign, no reader gets beyond the one of the line. -/
theorem Ahead.of_takes (h : line.Ahead post ts) (htakes : Takes Documented.IsInert ts rest) :
    line.Ahead post rest := by
  have hequal : ¬line.equal.IsInert := fun hinert => hinert line.equal_eq
  obtain ⟨taken, rfl, hinert⟩ := htakes
  induction taken with
  | nil => exact h
  | cons t taken ih =>
      rw [List.forall_mem_cons] at hinert
      refine ih hinert.2 ?_
      rw [List.cons_append] at h
      -- the token stands in front of the line or is the next one of it, but not its equals sign
      rcases h with h | h | h | h
      · rcases List.suffix_cons_iff.1 h with h | h
        · exact .inr (.inl (List.cons.inj h).2.symm)
        · exact .inl h
      · exact .inr (.inr (.inl (List.cons.inj h).2))
      · exact .inr (.inr (.inr (List.cons.inj h).2))
      · rw [(List.cons.inj h).1] at hinert
        exact absurd hinert.1 hequal

/-- A reader that stops at equals signs stays in front of the one of the line. -/
theorem Ahead.of_leads (h : line.Ahead post ts) {result : Except Stuck Input}
    (hleads : Leads Documented.IsInert scope ts result) :
    EndsBefore post (line.Ahead post) result := by
  cases result with
  | ok rest => exact h.of_takes hleads
  | error e =>
      obtain ⟨⟨us, htakes, hrest⟩, -⟩ := hleads
      have hlt := (h.of_takes htakes).length_lt
      change post.length < e.rest.length
      rcases hrest with hrest | hrest <;> rw [hrest]
      · omega
      · rw [List.length_tail]
        omega

/-- Behind a token other than `const`, the line is still to be read. -/
theorem InFront.of_ne (h : line.InFront post (t :: rest)) (ht : t.lexeme ≠ .word "const") :
    line.InFront post rest := by
  rcases List.suffix_cons_iff.1 h with h | h
  · rw [← (List.cons.inj h).1] at ht
    exact absurd line.qualifier_eq ht
  · exact h

/-- Behind a mark other than the equals sign, the whole line is still to be read. -/
theorem Ahead.of_mark (h : line.Ahead post (t :: rest)) {mark : Punct}
    (ht : t.lexeme = .punct mark) (hmark : mark ≠ .equal) : line.InFront post rest := by
  rcases h with h | h | h | h
  · exact h.of_ne (by simp [ht])
  · rw [(List.cons.inj h).1, line.type_eq] at ht
    cases ht
  · rw [(List.cons.inj h).1, line.constant_eq] at ht
    cases ht
  · rw [(List.cons.inj h).1, line.equal_eq] at ht
    exact absurd (Lexeme.punct.inj ht).symm hmark

/-- Behind a mark other than the equals sign, the whole line is still to be read. -/
theorem Ahead.of_skip? (h : line.Ahead post ts) {mark : Punct} (hmark : mark ≠ .equal)
    (hskip : skip? mark ts = some rest) : line.InFront post rest := by
  obtain ⟨t, rfl, ht⟩ := skip?_eq_some_iff.1 hskip
  exact h.of_mark ht hmark

/-- Reading a mark other than the equals sign. -/
theorem Ahead.expect (h : line.Ahead post ts) (mark : Punct) (hmark : mark ≠ .equal) :
    EndsBefore post (line.InFront post) (expect mark ts) := by
  unfold Input.expect
  split
  · rename_i hskip
    exact h.of_skip? hmark hskip
  · exact h.stuck

/-! ## In front of the line -/

/-- The line is still to be read, at most without its `const`. -/
def AtFront (line : ConstantLine name value) (post ts : Input) : Prop :=
  line.InFront post ts ∨ ts = line.atType post

/-- What is left before the type of the line is left before its equals sign. -/
theorem AtFront.ahead (h : line.AtFront post ts) : line.Ahead post ts :=
  h.imp_right .inl

/-- Dimensions in front of the line end in front of the line. -/
theorem InFront.of_readSizes {sizes : List ArraySize} (h : line.InFront post ts)
    (hread : readSizes scope ts = .ok (sizes, rest)) : line.InFront post rest := by
  have hmark : ∀ {t us} {mark : Punct}, t.isMark mark = true → line.InFront post (t :: us) →
      line.InFront post us :=
    fun ht h => h.of_ne (by simp [Documented.isMark_iff.1 ht])
  fun_induction readSizes scope ts generalizing sizes rest with
  | case1 | case10 =>
      cases hread
      exact h
  | case3 t ht v vs hv sizes' rest' hread' ih =>
      cases hread
      exact ih (hmark hv (hmark ht h)) hread'
  | case7 t ht v hv n hsize w vs hw sizes' rest' hread' ih =>
      cases hread
      refine ih ?_ hread'
      -- the size is not the `const` of the line, because a bracket follows
      have hahead : line.Ahead post (w :: vs) :=
        Ahead.of_takes (.inl (hmark ht h)) (.cons (isInert_of_size hsize) (.refl _))
      exact hahead.of_mark (Documented.isMark_iff.1 hw) (by decide)
  | case2 | case4 | case5 | case6 | case8 | case9 => cases hread

/-- Dimensions in front of the line. -/
theorem InFront.readArray (h : line.InFront post ts) (element : Ty) :
    EndsBefore post (line.InFront post) ((readArray scope element ts).map Prod.snd) := by
  have hahead := Ahead.of_leads (.inl h) (leads_readArray scope element ts)
  cases hread : Input.readArray scope element ts with
  | error e =>
      rw [hread] at hahead
      exact hahead
  | ok result =>
      unfold Input.readArray at hread
      split at hread
      · rename_i hsizes
        cases hread
        exact h.of_readSizes hsizes
      · cases hread

/-- Dimensions behind a name in front of the line, which can be the `const` of the line. -/
theorem AtFront.readArray (h : line.AtFront post ts) (element : Ty) :
    EndsBefore post (line.AtFront post) ((readArray scope element ts).map Prod.snd) := by
  rcases h with h | rfl
  · exact (h.readArray element).imp fun _ => .inl
  · rw [atType, readArray_of_ne element (by simp [line.type_eq])]
    exact .inr rfl

/-- A name in front of the line, which can be the `const` of the line. -/
theorem InFront.expectWord (h : line.InFront post ts) (cause : ParseCause) :
    EndsBefore post (line.AtFront post) ((expectWord cause ts).map Prod.snd) := by
  cases hread : Input.expectWord cause ts with
  | error e =>
      unfold Input.expectWord Input.stuck at hread
      split at hread <;> cases hread
      exact Ahead.stuck (.inl h)
  | ok result =>
      obtain ⟨w, rest⟩ := result
      obtain ⟨t, rfl, -⟩ := expectWord_eq_ok_iff.1 hread
      -- the word is the `const` of the line or stands in front of it
      rcases List.suffix_cons_iff.1 h with h | h
      · exact .inr (List.cons.inj h).2.symm
      · exact .inl h

/-- Qualifiers in front of the line end in front of it and not at it, or with its `const`. -/
theorem InFront.readQualifiers (h : line.InFront post ts) (qs : QualifierSet) :
    (line.InFront post (readQualifiers qs ts).2 ∧
        ∀ t ∈ (readQualifiers qs ts).2.head?, t.lexeme ≠ .word "const") ∨
      (readQualifiers qs ts).2 = line.atType post ∧
        (readQualifiers qs ts).1.contains .const = true := by
  fun_induction Input.readQualifiers qs ts with
  | case1 => exact absurd h.length_le (by simp [input])
  | case2 qs t ts w hw q hq ih =>
      rcases List.suffix_cons_iff.1 h with h | h
      · obtain ⟨rfl, rfl⟩ := List.cons.inj h
        rw [line.qualifier_eq] at hw
        cases hw
        obtain rfl : Qualifier.const = q := Option.some.inj hq
        -- the type is no qualifier
        have hint : Qualifier.ofKeyword? "int" = none := by decide
        have hstop : ∀ qs, Input.readQualifiers qs (line.atType post) = (qs, line.atType post) := by
          intro qs
          unfold atType
          rw [Input.readQualifiers, line.type_eq]
          dsimp only
          rw [hint]
        rw [hstop]
        exact .inr ⟨rfl, EnumSet.mem_iff_contains.1 (EnumSet.mem_insert.2 (.inl rfl))⟩
      · exact ih h
  | case3 qs t ts w hw hq =>
      -- the word that ends the qualifiers is none, so it is not `const`
      refine .inl ⟨h, fun u hu => ?_⟩
      obtain rfl := Option.some.inj hu
      rw [hw]
      rintro ⟨⟩
      exact absurd hq (by decide)
  | case4 qs t ts hw =>
      refine .inl ⟨h, fun u hu => ?_⟩
      obtain rfl := Option.some.inj hu
      exact hw "const"

/-- A constant or variable in front of the line. -/
theorem AtFront.readDeclarator (h : line.AtFront post ts) (scope : Scope) (head : Head)
    (element : Ty) (name : String) :
    EndsBefore post (line.Ahead post)
      ((readDeclarator scope head element name ts).map Prod.snd) := by
  unfold Input.readDeclarator
  refine (h.readArray element).bind (fun e he => by rw [he]; rfl) ?_
  rintro ⟨type, us⟩ harray (hus : line.AtFront post us)
  rw [harray]
  dsimp only
  split
  · exact hus.ahead.stuck
  · rename_i vs _ hskip
    -- the equals sign is not the one of the line
    have hvs : line.InFront post vs := by
      obtain ⟨t, rfl, ht⟩ := skip?_eq_some_iff.1 hskip
      rcases hus with hus | hus
      · exact hus.of_ne (by simp [ht])
      · rw [(List.cons.inj hus).1, line.type_eq] at ht
        cases ht
    refine (Ahead.of_leads (.inl hvs) (leads_readInitializer scope vs)).bind
      (fun e he => by rw [he]; rfl) ?_
    rintro ⟨value, rest, _⟩ hread (hrest : line.Ahead post rest)
    rw [hread]
    dsimp only
    split
    · exact hrest.stuck
    · exact hrest
  · exact hus.ahead.stuck
  · exact hus.ahead

/-- Constants or variables in front of the line. -/
theorem AtFront.readDeclarators (h : line.AtFront post ts) (head : Head) (element : Ty)
    (name : String) :
    EndsBefore post (line.InFront post) (readDeclarators scope head element name ts).2 := by
  have hread := h.readDeclarator scope head element name
  fun_induction Input.readDeclarators scope head element name ts with
  | case1 scope name ts e heq =>
      rw [heq] at hread
      exact hread
  | case2 scope name ts entity us heq hskip =>
      rw [heq] at hread
      exact Ahead.expect hread .semicolon (by decide)
  | case3 scope name ts entity us heq vs hskip e hword =>
      rw [heq] at hread
      have hname := (Ahead.of_skip? hread (by decide) hskip).expectWord .missingName
      rw [hword] at hname
      exact hname
  | case4 scope name ts entity us heq vs hskip next ws hword _ entities result hmore ih =>
      rw [heq] at hread
      have hname := (Ahead.of_skip? hread (by decide) hskip).expectWord .missingName
      rw [hword] at hname
      have ih := ih hname (AtFront.readDeclarator hname _ head element next)
      rwa [hmore] at ih

/-- A function in front of the line. -/
theorem InFront.readFunction (h : line.InFront post ts) (head : Head) (condition : Condition)
    (returnType : Ty) (name : String) :
    EndsBefore post (line.InFront post)
      (readFunction scope head condition returnType name ts).2 := by
  unfold Input.readFunction
  refine (Ahead.of_leads (.inl h) (leads_readParameters scope ts)).bind
    (fun e he => by rw [he]) ?_
  rintro ⟨parameters, us⟩ hread (hus : line.Ahead post us)
  rw [hread]
  have hclose := hus.expect .semicolon (by decide)
  dsimp only
  split <;> rename_i hexpect <;> rwa [hexpect] at hclose

/-- A block in front of the line. -/
theorem InFront.readBlock (h : line.InFront post ts) (head : Head) (name : String) :
    EndsBefore post (line.InFront post) (readBlock scope head name ts).2 := by
  unfold Input.readBlock
  refine (Ahead.of_leads (.inl h) (leads_readFields scope ts)).bind
    (fun e he => by rw [he]) ?_
  rintro ⟨fields, us⟩ hread (hus : line.Ahead post us)
  rw [hread]
  dsimp only
  split
  · exact hus.stuck
  · split
    · exact hus.expect .semicolon (by decide)
    · rename_i vs hword
      have hvs := hus.of_takes (takes_word? hword)
      have hdims := hvs.of_leads
        (leads_readArray scope (Block.type { name, fields }) vs)
      split <;> rename_i harray <;> rw [harray] at hdims
      · exact hdims
      · exact Ahead.expect hdims .semicolon (by decide)

/-! ## At the line -/

/-- The constant that a line declares. -/
def declared (name : String) (value : Int64) (head : Head) : Constant where
  name := name
  type := .scalar .int
  qualifiers := head.qualifiers
  value := .int value
  doc := head.doc

/-- At the equals sign of the line, the constant is read. -/
theorem readDeclarators_atEqual {head : Head} (hconst : head.qualifiers.contains .const = true) :
    readDeclarators scope head (.scalar .int) name (line.atEqual post) =
      ([.const (declared name value head)], .ok post) := by
  have hvalue : withRest (readInitializer scope (line.literal :: line.close :: post)) =
      .ok (.int value, line.close :: post) := by
    rw [readInitializer_of_not_mark (by simp [line.literal_eq])]
    exact readLiteral_int line.literal_eq line.signed_bits
  obtain ⟨hlt, hvalue⟩ := exists_of_withRest hvalue
  have hequal : skip? .equal (line.atEqual post) = some (line.literal :: line.close :: post) :=
    skip?_eq_some_iff.2 ⟨line.equal, rfl, line.equal_eq⟩
  have hread : Input.readDeclarator scope head (.scalar .int) name (line.atEqual post) =
      .ok (.const (declared name value head), line.close :: post) := by
    unfold Input.readDeclarator
    rw [show Input.readArray scope (.scalar .int) (line.atEqual post) =
      .ok (.scalar .int, line.atEqual post) from readArray_of_ne _ (by simp [line.equal_eq])]
    dsimp only
    rw [hconst, hequal]
    dsimp only
    rw [hvalue]
    rfl
  have hcomma : skip? .comma (line.close :: post) = none := skip?_of_ne (by simp [line.close_eq])
  have hclose : Input.expect .semicolon (line.close :: post) = .ok post :=
    expect_eq_ok_iff.2 ⟨line.close, rfl, line.close_eq⟩
  rw [readDeclarators_of_last hread hcomma, hclose]

/-- What a declaration leaves that was read from in front of the line: the line is still to be read,
or it was read and the constant is in scope. -/
def Passed (line : ConstantLine name value) (post : Input) (scope : Scope) (entities : List Entity)
    (rest : Input) : Prop :=
  line.InFront post rest ∨
    rest = post ∧ (entities.foldl Scope.record scope).constant? name = some value

/-- Behind the line, the constant is in scope. -/
theorem passed_declared (line : ConstantLine name value) (post : Input) (head : Head) :
    line.Passed post scope [.const (declared name value head)] post := by
  refine .inr ⟨rfl, ?_⟩
  change List.lookup name ((name, value) :: scope.constants) = some value
  rw [List.lookup_cons_self]

/-- At the name of the constant, behind `int`, the constant is read. -/
theorem readNamed_atName (head : Head) (hconst : head.qualifiers.contains .const = true)
    (condition : Condition) :
    readNamed scope head condition (.scalar .int) (line.atName post) =
      ([.const (declared name value head)], .ok post) := by
  have hname : Input.expectWord .missingName (line.atName post) = .ok (name, line.atEqual post) :=
    expectWord_eq_ok_iff.2 ⟨line.constant, rfl, line.constant_eq⟩
  have hparen : skip? .leftParen (line.atEqual post) = none :=
    skip?_of_ne (by simp [line.equal_eq])
  unfold readNamed
  rw [show Input.readArray scope (.scalar .int) (line.atName post) =
    .ok (.scalar .int, line.atName post) from readArray_of_ne _ (by simp [line.constant_eq])]
  dsimp only
  rw [hname]
  dsimp only
  rw [hparen]
  exact readDeclarators_atEqual hconst

/-- A function, constant or variable in front of the line. -/
theorem InFront.readNamed (h : line.InFront post ts) (head : Head) (condition : Condition)
    (element : Ty) :
    EndsBefore post (line.InFront post) (readNamed scope head condition element ts).2 := by
  unfold Input.readNamed
  refine (h.readArray element).bind (fun e he => by rw [he]) ?_
  rintro ⟨type, us⟩ harray (hus : line.InFront post us)
  rw [harray]
  dsimp only
  refine (hus.expectWord .missingName).bind (fun e he => by rw [he]) ?_
  rintro ⟨name, vs⟩ hword (hvs : line.AtFront post vs)
  rw [hword]
  dsimp only
  split
  · rename_i ws hskip
    exact (hvs.ahead.of_skip? (by decide) hskip).readFunction head condition type name
  · exact hvs.readDeclarators head type name

/-- A declaration in front of the line. -/
theorem InFront.readDeclaration (h : line.InFront post ts) (scope : Scope) (condition : Condition)
    (doc : Option String) :
    EndsBefore post
      (line.Passed post scope (readDeclaration scope condition doc ts).1)
      (readDeclaration scope condition doc ts).2 := by
  have hqualifiers := h.readQualifiers ∅
  unfold Input.readDeclaration
  cases hread : Input.readQualifiers ∅ ts with
  | mk qualifiers us =>
  rw [hread] at hqualifiers
  dsimp only at hqualifiers ⊢
  rcases hqualifiers with ⟨hus, hne⟩ | ⟨rfl, hconst⟩
  · -- the declaration is another one, and it ends in front of the line
    refine EndsBefore.imp (Q := line.InFront post) ?_ fun rest hrest => .inl hrest
    cases hword : Input.expectWord .missingType us with
    | error e =>
        have hname := hus.expectWord .missingType
        rwa [hword] at hname
    | ok result =>
        obtain ⟨name, vs⟩ := result
        obtain ⟨t, rfl, -⟩ := expectWord_eq_ok_iff.1 hword
        have hvs : line.InFront post vs := hus.of_ne (hne t rfl)
        dsimp only
        split
        · rename_i ws hskip
          exact (Ahead.of_skip? (.inl hvs) (by decide) hskip).readBlock _ name
        · split
          · rename_i e he
            unfold resolveType Input.stuck at he
            split at he <;> cases he
            exact Ahead.stuck (.inl hvs)
          · exact hvs.readNamed _ condition _
  · -- the `const` of the line is the last qualifier, so the declaration is that of the line
    have hword : Input.expectWord .missingType (line.atType post) = .ok ("int", line.atName post) :=
      expectWord_eq_ok_iff.2 ⟨line.type, rfl, line.type_eq⟩
    have hbrace : skip? .leftBrace (line.atName post) = none :=
      skip?_of_ne (by simp [line.constant_eq])
    have hint : resolveType scope "int" (line.atName post) = .ok (.scalar .int) := by
      rw [resolveType, Scope.type?, show Ty.ofName? "int" = some (.scalar .int) by decide]
    rw [hword]
    dsimp only
    rw [hbrace, hint]
    dsimp only
    rw [readNamed_atName { doc, qualifiers } hconst]
    exact line.passed_declared post _

/-- Declarations that the line stands among. A reader that gets stuck does so before the end of the
line or for another cause than the constant, and one that does not leaves the constant in scope. -/
theorem InFront.readDeclarations (h : line.InFront post ts) (scope : Scope) (condition : Condition)
    (number : Nat) (reversed : List Declaration) {progress : Progress}
    (hread : readDeclarations condition number scope reversed ts = progress) :
    (∀ e, progress.stuck? = some e → post.length < e.rest.length ∨ e.cause ≠ .unknownSize name) ∧
      (progress.stuck? = none → progress.scope.constant? name ≠ none) := by
  fun_induction Input.readDeclarations condition number scope reversed ts with
  | case1 => exact absurd h.length_le (by simp [input])
  | case2 scope reversed t ts entities _ _ e heq =>
      have hends := h.readDeclaration scope condition t.doc
      rw [heq] at hends
      subst hread
      refine ⟨?_, by simp⟩
      rintro _ ⟨⟩
      exact .inl hends
  | case3 scope reversed t ts entities _ _ rest heq _ _ ih =>
      have hends := h.readDeclaration scope condition t.doc
      rw [heq] at hends
      rcases hends with hfront | ⟨rfl, hconstant⟩
      · exact ih hfront hread
      · -- the line was read: from here on the constant is in scope
        subst hread
        refine ⟨fun e hstuck => .inr fun hcause => ?_, fun _ hnone => ?_⟩
        · have hnone := (stuck_readDeclarations hstuck).2 name hcause
          exact absurd (hnone.symm.trans hconstant) (by simp)
        · have hnone := constant?_of_readDeclarations hnone
          exact absurd (hnone.symm.trans hconstant) (by simp)

end ConstantLine

end Input

end GlslPrelude
