import GlslPrelude.Proofs.Declaration.Equations

/-!
# Readers see lexemes only

A relabelling gives tokens other lines and comments. Every reader does the same to relabelled input
as to the input itself: it reads the same, and what it leaves is relabelled.
-/

namespace GlslPrelude

/-- New lines and comments for tokens. -/
structure Relabelling where
  /-- The token with its new line and comments. -/
  apply : Documented → Documented
  /-- The token is still the same. -/
  lexeme_apply : ∀ t, (apply t).lexeme = t.lexeme

namespace Relabelling

open Input (Declared)

attribute [simp] lexeme_apply

variable (r : Relabelling)

/-- The input with new lines and comments. -/
def input (ts : Input) : Input :=
  ts.map r.apply

/-- Where a reader of relabelled input gets stuck. -/
def stop (e : Stuck) : Stuck :=
  { e with rest := r.input e.rest }

/-- What a reader of relabelled input leaves. -/
def left : Except Stuck Input → Except Stuck Input
  | .ok rest => .ok (r.input rest)
  | .error e => .error (r.stop e)

/-- What a reader makes of relabelled input. -/
def reading {α : Type} : Except Stuck (α × Input) → Except Stuck (α × Input)
  | .ok (a, rest) => .ok (a, r.input rest)
  | .error e => .error (r.stop e)

/-- What a reader of declarations makes of relabelled input. -/
def declared (result : Declared) : Declared :=
  (result.1, r.left result.2)

@[simp]
theorem input_nil : r.input [] = [] :=
  rfl

@[simp]
theorem input_cons (t : Documented) (ts : Input) : r.input (t :: ts) = r.apply t :: r.input ts :=
  rfl

@[simp]
theorem isEmpty_input (ts : Input) : (r.input ts).isEmpty = ts.isEmpty :=
  List.isEmpty_map

@[simp]
theorem isMark_apply (t : Documented) (mark : Punct) : (r.apply t).isMark mark = t.isMark mark := by
  rw [Documented.isMark, Documented.isMark, lexeme_apply]

end Relabelling

namespace Input

open Relabelling

variable (r : Relabelling) (scope : Scope)

/-! ## Marks, words and types -/

theorem skip?_input (mark : Punct) (ts : Input) :
    skip? mark (r.input ts) = (skip? mark ts).map r.input := by
  cases ts with
  | nil => rfl
  | cons t ts =>
      rw [input_cons, skip?, skip?, isMark_apply]
      split <;> rfl

theorem expect_input (mark : Punct) (ts : Input) :
    expect mark (r.input ts) = r.left (expect mark ts) := by
  rw [expect, expect, skip?_input]
  cases skip? mark ts <;> rfl

theorem word?_input (ts : Input) :
    word? (r.input ts) = (word? ts).map fun found => (found.1, r.input found.2) := by
  cases ts with
  | nil => rfl
  | cons t ts =>
      rw [input_cons, word?, word?, lexeme_apply]
      split <;> rfl

theorem expectWord_input (cause : ParseCause) (ts : Input) :
    expectWord cause (r.input ts) = r.reading (expectWord cause ts) := by
  rw [expectWord, expectWord, word?_input]
  cases word? ts <;> rfl

theorem readQualifiers_input (qs : QualifierSet) (ts : Input) :
    readQualifiers qs (r.input ts) =
      ((readQualifiers qs ts).1, r.input (readQualifiers qs ts).2) := by
  fun_induction readQualifiers qs ts <;> simp_all [readQualifiers]

theorem readSizes_input (ts : Input) :
    readSizes scope (r.input ts) = r.reading (readSizes scope ts) := by
  fun_induction readSizes scope ts with
  | case10 t ts hmark =>
      rw [input_cons, readSizes.eq_def]
      dsimp only
      rw [isMark_apply, if_neg hmark]
      rfl
  | _ => simp_all [readSizes, reading, stop, stuck]

theorem readArray_input (element : Ty) (ts : Input) :
    readArray scope element (r.input ts) = r.reading (readArray scope element ts) := by
  rw [readArray, readArray, readSizes_input]
  rcases readSizes scope ts with e | ⟨sizes, rest⟩ <;> rfl

theorem readType_input (cause : ParseCause) (ts : Input) :
    readType cause scope (r.input ts) = r.reading (readType cause scope ts) := by
  rw [readType, readType, expectWord_input]
  rcases expectWord cause ts with e | ⟨name, rest⟩
  · rfl
  · dsimp only [reading]
    rw [resolveType, resolveType]
    cases scope.type? name with
    | none => rfl
    | some element => exact readArray_input r scope element rest

/-! ## Functions and blocks -/

theorem readParameter_input (ts : Input) :
    readParameter scope (r.input ts) = r.reading (readParameter scope ts) := by
  rw [readParameter, readParameter, readQualifiers_input]
  dsimp only
  rw [readType_input]
  rcases readType .missingParameterType scope (readQualifiers ∅ ts).2 with e | ⟨element, us⟩
  · rfl
  · dsimp only [reading]
    rw [word?_input]
    -- the dimensions follow the name, if there is one
    rcases word? us with _ | ⟨name, vs⟩ <;> dsimp only [Option.map] <;> rw [readArray_input]
    · rcases readArray scope element us with e | ⟨type, rest⟩
      · rfl
      · dsimp only [reading]
        split <;> rfl
    · rcases readArray scope element vs with e | ⟨type, rest⟩
      · rfl
      · dsimp only [reading]
        split <;> rfl

theorem readMoreParameters_input (ts : Input) :
    readMoreParameters scope (r.input ts) = r.reading (readMoreParameters scope ts) := by
  fun_induction readMoreParameters scope ts <;> rw [readMoreParameters_eq] <;>
    simp_all [reading, left, readParameter_input, skip?_input, expect_input]

theorem skipVoid?_input (ts : Input) : skipVoid? (r.input ts) = (skipVoid? ts).map r.input := by
  rw [skipVoid?, skipVoid?, word?_input]
  rcases word? ts with _ | ⟨w, us⟩
  · rfl
  · dsimp only [Option.map_some]
    split
    · rename_i heq
      cases heq
      exact skip?_input r .rightParen us
    · rename_i hne
      split
      · rename_i heq
        cases heq
        exact absurd rfl (hne _)
      · rfl

theorem readParameters_input (ts : Input) :
    readParameters scope (r.input ts) = r.reading (readParameters scope ts) := by
  rw [readParameters, readParameters, skip?_input, skipVoid?_input]
  rcases skip? .rightParen ts with _ | rest
  · rcases skipVoid? ts with _ | rest
    · exact readMoreParameters_input r scope ts
    · rfl
  · rfl

theorem readFieldNames_input (qs : QualifierSet) (element : Ty) (ts : Input) :
    readFieldNames scope qs element (r.input ts) =
      r.reading (readFieldNames scope qs element ts) := by
  fun_induction readFieldNames scope qs element ts <;> rw [readFieldNames_eq] <;>
    simp_all [reading, left, expectWord_input, readArray_input, skip?_input, expect_input]

theorem readFieldGroup_input (ts : Input) :
    readFieldGroup scope (r.input ts) = r.reading (readFieldGroup scope ts) := by
  rw [readFieldGroup, readFieldGroup, readQualifiers_input]
  dsimp only
  rw [readType_input]
  rcases readType .missingFieldType scope (readQualifiers ∅ ts).2 with e | ⟨element, us⟩
  · rfl
  · exact readFieldNames_input r scope _ element us

theorem readFields_input (ts : Input) :
    readFields scope (r.input ts) = r.reading (readFields scope ts) := by
  fun_induction readFields scope ts <;> rw [readFields_eq] <;>
    simp_all [reading, stop, stuck, skip?_input, readFieldGroup_input]

/-! ## Values -/

theorem negate_input (value : ConstValue) (rest : Input) :
    negate value (r.input rest) = (negate value rest).mapError r.stop := by
  cases value <;> rfl

mutual

theorem readInitializer_input (ts : Input) :
    withRest (readInitializer scope (r.input ts)) =
      r.reading (withRest (readInitializer scope ts)) := by
  match ts with
  | [] =>
      rw [input_nil, withRest_readInitializer_nil]
      rfl
  | t :: ts =>
      have hvalues := readValues_input .rightBrace ts
      have hliteral := readLiteral_input ts
      rw [input_cons, withRest_readInitializer_cons, withRest_readInitializer_cons, isMark_apply,
        isMark_apply, isMark_apply]
      split
      · -- a list in braces
        rw [hvalues]
        rcases withRest (readValues scope .rightBrace ts) with e | ⟨values, rest⟩ <;> rfl
      · split
        · -- a literal behind a minus
          rw [hliteral]
          rcases withRest (readLiteral scope ts) with e | ⟨value, rest⟩
          · rfl
          · dsimp only [reading]
            rw [negate_input]
            cases negate value rest <;> rfl
        · split
          · exact hliteral
          · exact readLiteral_input (t :: ts)
termination_by (ts.length, 1)

theorem readLiteral_input (ts : Input) :
    withRest (readLiteral scope (r.input ts)) = r.reading (withRest (readLiteral scope ts)) := by
  match ts with
  | [] =>
      rw [input_nil, withRest_readLiteral_nil]
      rfl
  | t :: ts =>
      rw [input_cons, withRest_readLiteral_cons, withRest_readLiteral_cons, lexeme_apply]
      split
      · rfl
      · split <;> rfl
      · rfl
      · rfl
      · rfl
      · -- a word names a type, if values follow in parentheses, or a constant
        rename_i name _ _ _
        have hskip : (if (Ty.ofName? name).isSome then skip? .leftParen (r.input ts) else none) =
            (if (Ty.ofName? name).isSome then skip? .leftParen ts else none).map r.input := by
          rw [skip?_input]
          split <;> rfl
        rw [hskip]
        cases hinside : if (Ty.ofName? name).isSome then skip? .leftParen ts else none with
        | none =>
            dsimp only [Option.map]
            split <;> rfl
        | some inside =>
            have : inside.length < ts.length := by
              split at hinside
              · exact length_skip?_lt hinside
              · cases hinside
            dsimp only [Option.map]
            rw [readValues_input .rightParen inside]
            rcases withRest (readValues scope .rightParen inside) with e | ⟨values, rest⟩ <;> rfl
      · rfl
termination_by (ts.length, 0)

theorem readValues_input (close : Punct) (ts : Input) :
    withRest (readValues scope close (r.input ts)) =
      r.reading (withRest (readValues scope close ts)) := by
  rw [withRest_readValues, withRest_readValues, skip?_input]
  cases skip? close ts with
  | none => exact readMoreValues_input close ts
  | some rest => rfl
termination_by (ts.length, 3)

theorem readMoreValues_input (close : Punct) (ts : Input) :
    withRest (readMoreValues scope close (r.input ts)) =
      r.reading (withRest (readMoreValues scope close ts)) := by
  rw [withRest_readMoreValues, withRest_readMoreValues, readInitializer_input ts]
  cases hread : withRest (readInitializer scope ts) with
  | error e => rfl
  | ok result =>
      obtain ⟨value, rest⟩ := result
      obtain ⟨hrest, -⟩ := exists_of_withRest hread
      dsimp only [reading]
      rw [skip?_input, expect_input]
      cases hskip : skip? .comma rest with
      | none => cases expect close rest <;> rfl
      | some rest' =>
          have := length_skip?_lt hskip
          dsimp only [Option.map]
          rw [readMoreValues_input close rest']
          rcases withRest (readMoreValues scope close rest') with e | ⟨values, rest₂⟩ <;> rfl
termination_by (ts.length, 2)

end

/-! ## Declarations -/

theorem readDeclarator_input (head : Head) (element : Ty) (name : String) (ts : Input) :
    readDeclarator scope head element name (r.input ts) =
      r.reading (readDeclarator scope head element name ts) := by
  rw [readDeclarator_eq, readDeclarator_eq, readArray_input]
  rcases readArray scope element ts with e | ⟨type, us⟩
  · rfl
  · dsimp only [reading]
    rw [skip?_input]
    cases head.qualifiers.contains .const with
    | false => cases skip? .equal us <;> rfl
    | true =>
        cases skip? .equal us with
        | none => rfl
        | some vs =>
            dsimp only [Option.map]
            rw [readInitializer_input]
            rcases withRest (readInitializer scope vs) with e | ⟨value, rest⟩
            · rfl
            · dsimp only [reading]
              cases value.coerce? type <;> rfl

theorem readDeclarators_input (head : Head) (element : Ty) (name : String) (ts : Input) :
    readDeclarators scope head element name (r.input ts) =
      r.declared (readDeclarators scope head element name ts) := by
  fun_induction readDeclarators scope head element name ts <;> rw [readDeclarators_eq] <;>
    simp_all [reading, left, declared, readDeclarator_input, skip?_input, expect_input,
      expectWord_input]

theorem readBlock_input (head : Head) (name : String) (ts : Input) :
    readBlock scope head name (r.input ts) = r.declared (readBlock scope head name ts) := by
  rw [readBlock, readBlock, readFields_input]
  rcases readFields scope ts with e | ⟨fields, us⟩
  · rfl
  · dsimp only [reading]
    split
    · rfl
    · rw [word?_input]
      rcases word? us with _ | ⟨instanceName, vs⟩
      · dsimp only [Option.map]
        rw [expect_input]
        rfl
      · dsimp only [Option.map]
        rw [readArray_input]
        rcases readArray scope _ vs with e | ⟨type, rest⟩
        · rfl
        · dsimp only [reading]
          rw [expect_input]
          rfl

theorem readFunction_input (head : Head) (condition : Condition) (returnType : Ty) (name : String)
    (ts : Input) :
    readFunction scope head condition returnType name (r.input ts) =
      r.declared (readFunction scope head condition returnType name ts) := by
  rw [readFunction, readFunction, readParameters_input]
  rcases readParameters scope ts with e | ⟨parameters, us⟩
  · rfl
  · dsimp only [reading]
    rw [expect_input]
    cases expect .semicolon us <;> rfl

theorem readNamed_input (head : Head) (condition : Condition) (element : Ty) (ts : Input) :
    readNamed scope head condition element (r.input ts) =
      r.declared (readNamed scope head condition element ts) := by
  rw [readNamed, readNamed, readArray_input]
  rcases readArray scope element ts with e | ⟨type, us⟩
  · rfl
  · dsimp only [reading]
    rw [expectWord_input]
    rcases expectWord .missingName us with e | ⟨name, vs⟩
    · rfl
    · dsimp only [reading]
      rw [skip?_input]
      cases skip? .leftParen vs with
      | none => exact readDeclarators_input r scope head type name vs
      | some rest => exact readFunction_input r scope head condition type name rest

/-- A declaration is read alike whatever the lines and comments of its tokens are. -/
theorem readDeclaration_input (condition : Condition) (doc : Option String) (ts : Input) :
    readDeclaration scope condition doc (r.input ts) =
      r.declared (readDeclaration scope condition doc ts) := by
  rw [readDeclaration, readDeclaration, readQualifiers_input]
  dsimp only
  rw [expectWord_input]
  rcases expectWord .missingType (readQualifiers ∅ ts).2 with e | ⟨name, us⟩
  · rfl
  · dsimp only [reading]
    rw [skip?_input]
    cases skip? .leftBrace us with
    | some rest => exact readBlock_input r scope _ name rest
    | none =>
        dsimp only [Option.map]
        rw [resolveType, resolveType]
        cases scope.type? name with
        | none => rfl
        | some element => exact readNamed_input r scope _ condition element us

end Input

end GlslPrelude
