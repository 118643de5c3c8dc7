import GlslPrelude.Proofs.Declaration.Literals

/-!
# Readers without lengths

The readers that call themselves remember how their results come about, so that they can be seen to
end. Here they are described by equations that do not, and the readers of values by equations
between results without the fact that something was read.
-/

namespace GlslPrelude

namespace Input

variable {scope : Scope} {qs : QualifierSet} {head : Head} {element : Ty} {name : String}
  {close : Punct} {t : Documented} {ts : Input}

/-! ## Lists -/

theorem readMoreParameters_eq :
    readMoreParameters scope ts =
      match readParameter scope ts with
      | .error e => .error e
      | .ok (p, rest) =>
        match skip? .comma rest with
        | some rest' =>
          match readMoreParameters scope rest' with
          | .error e => .error e
          | .ok (ps, rest₂) => .ok (p :: ps, rest₂)
        | none =>
          match expect .rightParen rest with
          | .error e => .error e
          | .ok rest' => .ok ([p], rest') := by
  rw [readMoreParameters]
  split
  · simp only [*]
  · simp only [*]
    split <;> grind

theorem readFieldNames_eq :
    readFieldNames scope qs element ts =
      match expectWord .missingFieldName ts with
      | .error e => .error e
      | .ok (name, ts₁) =>
        match readArray scope element ts₁ with
        | .error e => .error e
        | .ok (type, ts₂) =>
          match skip? .comma ts₂ with
          | some ts₃ =>
            match readFieldNames scope qs element ts₃ with
            | .error e => .error e
            | .ok (fields, rest) => .ok ({ name, type, qualifiers := qs } :: fields, rest)
          | none =>
            match expect .semicolon ts₂ with
            | .error e => .error e
            | .ok rest => .ok ([{ name, type, qualifiers := qs }], rest) := by
  rw [readFieldNames]
  split
  · simp only [*]
  · simp only [*]
    split
    · simp only [*]
    · simp only [*]
      split <;> grind

theorem readFields_eq :
    readFields scope ts =
      match skip? .rightBrace ts with
      | some rest => .ok ([], rest)
      | none =>
        if ts.isEmpty then stuck .unterminatedBlock ts
        else
          match readFieldGroup scope ts with
          | .error e => .error e
          | .ok (fields, rest) =>
            match readFields scope rest with
            | .error e => .error e
            | .ok (more, rest) => .ok (fields ++ more, rest) := by
  rw [readFields]
  split
  · simp only [*]
  · simp only [*]
    split
    · rfl
    · split <;> grind

theorem readDeclarators_eq :
    readDeclarators scope head element name ts =
      match readDeclarator scope head element name ts with
      | .error e => ([], .error e)
      | .ok (entity, ts₁) =>
        match skip? .comma ts₁ with
        | none => ([entity], expect .semicolon ts₁)
        | some ts₂ =>
          match expectWord .missingName ts₂ with
          | .error e => ([entity], .error e)
          | .ok (next, ts₃) =>
            (entity :: (readDeclarators (scope.record entity) head element next ts₃).1,
              (readDeclarators (scope.record entity) head element next ts₃).2) := by
  rw [readDeclarators]
  split
  · simp only [*]
  · simp only [*]
    split
    · simp only [*]
    · simp only [*]
      split <;> simp only [*]

/-! ## Values -/

theorem readDeclarator_eq :
    readDeclarator scope head element name ts =
      match readArray scope element ts with
      | .error e => .error e
      | .ok (type, ts₁) =>
        match head.qualifiers.contains .const, skip? .equal ts₁ with
        | true, none => stuck .missingInitializer ts₁
        | true, some ts₂ =>
          match withRest (readInitializer scope ts₂) with
          | .error e => .error e
          | .ok (value, rest) =>
            match value.coerce? type with
            | none => stuck .initializerMismatch rest
            | some value =>
              .ok (.const { name, type, qualifiers := head.qualifiers, value, doc := head.doc },
                rest)
        | false, some _ => stuck .initializerOfVariable ts₁
        | false, none =>
          .ok (.var { name, type, qualifiers := head.qualifiers, block := none, doc := head.doc },
            ts₁) := by
  rw [readDeclarator]
  rcases readArray scope element ts with e | ⟨type, ts₁⟩
  · rfl
  · dsimp only
    cases head.qualifiers.contains .const with
    | false => cases skip? .equal ts₁ <;> rfl
    | true =>
        rcases skip? .equal ts₁ with _ | ts₂
        · rfl
        · dsimp only
          rcases readInitializer scope ts₂ with e | ⟨value, rest, hrest⟩ <;> rfl

theorem withRest_readInitializer_nil :
    withRest (readInitializer scope []) = stuck .missingLiteral [] := by
  rw [readInitializer]
  rfl

theorem withRest_readInitializer_cons :
    withRest (readInitializer scope (t :: ts)) =
      if t.isMark .leftBrace then
        match withRest (readValues scope .rightBrace ts) with
        | .error e => .error e
        | .ok (values, rest) => .ok (.aggregate values, rest)
      else if t.isMark .minus then
        match withRest (readLiteral scope ts) with
        | .error e => .error e
        | .ok (value, rest) =>
          match negate value rest with
          | .error e => .error e
          | .ok value => .ok (value, rest)
      else if t.isMark .plus then withRest (readLiteral scope ts)
      else withRest (readLiteral scope (t :: ts)) := by
  rw [readInitializer]
  split
  · rcases readValues scope .rightBrace ts with e | ⟨values, rest, hrest⟩ <;> rfl
  · split
    · rcases readLiteral scope ts with e | ⟨value, rest, hrest⟩
      · rfl
      · change withRest (match negate value rest with | .error e => _ | .ok value => _) =
          match negate value rest with | .error e => _ | .ok value => _
        cases negate value rest <;> rfl
    · split
      · rcases readLiteral scope ts with e | ⟨value, rest, hrest⟩ <;> rfl
      · rfl

theorem withRest_readLiteral_nil :
    withRest (readLiteral scope []) = stuck .missingLiteral [] := by
  rw [readLiteral]
  rfl

theorem withRest_readLiteral_cons :
    withRest (readLiteral scope (t :: ts)) =
      match t.lexeme with
      | .int value true => .ok (.uint value, ts)
      | .int value false =>
        match ConstValue.signed? value with
        | some i => .ok (.int i, ts)
        | none => stuck .literalOutOfRange ts
      | .float value => .ok (.float value, ts)
      | .word "true" => .ok (.bool true, ts)
      | .word "false" => .ok (.bool false, ts)
      | .word name =>
        match if (Ty.ofName? name).isSome then skip? .leftParen ts else none with
        | some inside =>
          match withRest (readValues scope .rightParen inside) with
          | .error e => .error e
          | .ok (values, rest) => .ok (.aggregate values, rest)
        | none =>
          match scope.constant? name with
          | some i => .ok (.int i, ts)
          | none => stuck (.unknownConstant name) ts
      | _ => stuck .missingLiteral ts := by
  obtain ⟨comments, lexeme, line⟩ := t
  rw [readLiteral]
  dsimp only
  split
  · rfl
  · rename_i value
    change withRest (match ConstValue.signed? value with | some i => _ | none => _) =
      match ConstValue.signed? value with | some i => _ | none => _
    cases ConstValue.signed? value <;> rfl
  · rfl
  · rfl
  · rfl
  · -- a word that is no truth value
    rename_i name _ _
    split
    · rename_i inside hinside
      simp only [hinside]
      rcases readValues scope .rightParen inside with e | ⟨values, rest, hrest⟩ <;> rfl
    · rename_i hinside
      simp only [hinside]
      cases scope.constant? name <;> rfl
  · -- a mark or a comment
    rename_i hunsigned hsigned hfloat _ _ hword
    cases lexeme with
    | int value isUnsigned =>
        cases isUnsigned with
        | true => exact absurd rfl (hunsigned value)
        | false => exact absurd rfl (hsigned value)
    | float value => exact absurd rfl (hfloat value)
    | word name => exact absurd rfl (hword name)
    | _ => rfl

theorem withRest_readValues :
    withRest (readValues scope close ts) =
      match skip? close ts with
      | some rest => .ok ([], rest)
      | none => withRest (readMoreValues scope close ts) := by
  rw [readValues]
  split <;> simp only [*]
  rfl

theorem withRest_readMoreValues :
    withRest (readMoreValues scope close ts) =
      match withRest (readInitializer scope ts) with
      | .error e => .error e
      | .ok (value, rest) =>
        match skip? .comma rest with
        | some rest' =>
          match withRest (readMoreValues scope close rest') with
          | .error e => .error e
          | .ok (values, rest₂) => .ok (value :: values, rest₂)
        | none =>
          match expect close rest with
          | .error e => .error e
          | .ok rest' => .ok ([value], rest') := by
  rw [readMoreValues]
  rcases readInitializer scope ts with e | ⟨value, rest, hrest⟩
  · rfl
  · have hvalue : withRest (.ok (value, (⟨rest, hrest⟩ : Behind ts))) = .ok (value, rest) := rfl
    rw [hvalue]
    dsimp only
    split
    · rename_i rest' hskip
      simp only [hskip]
      rcases readMoreValues scope close rest' with e | ⟨values, rest₂, hrest₂⟩ <;> rfl
    · rename_i hskip
      simp only [hskip]
      split <;> rename_i hclose <;> simp only [hclose] <;> rfl

/-! ## Readers that succeed -/

variable {cause : ParseCause} {type : Ty} {rest : Input} {value : ConstValue}

theorem readArray_eq_ok_iff :
    readArray scope element ts = .ok (type, rest) ↔
      ∃ sizes, readSizes scope ts = .ok (sizes, rest) ∧ type = element.arrayOf sizes := by
  rw [readArray]
  rcases readSizes scope ts with e | ⟨sizes, us⟩ <;> grind

theorem readType_eq_ok_iff :
    readType cause scope ts = .ok (type, rest) ↔
      ∃ name us element, expectWord cause ts = .ok (name, us) ∧ scope.type? name = some element ∧
        readArray scope element us = .ok (type, rest) := by
  rw [readType]
  grind [resolveType, stuck]

theorem readParameter_eq_ok_iff {p : Parameter} :
    readParameter scope ts = .ok (p, rest) ↔
      p.qualifiers = (readQualifiers ∅ ts).1 ∧ p.type.hasImplicitSize = false ∧
      ∃ element us, readType .missingParameterType scope (readQualifiers ∅ ts).2 =
          .ok (element, us) ∧
        ((∃ name vs, p.name = some name ∧ word? us = some (name, vs) ∧
            readArray scope element vs = .ok (p.type, rest)) ∨
          p.name = none ∧ word? us = none ∧ readArray scope element us = .ok (p.type, rest)) := by
  obtain ⟨name, type, qualifiers⟩ := p
  rw [readParameter]
  dsimp only
  rcases readType .missingParameterType scope (readQualifiers ∅ ts).2 with e | ⟨element, us⟩
  · grind
  · rcases hword : word? us with _ | ⟨found, vs⟩ <;> grind [stuck]

theorem readMoreParameters_eq_ok_iff {ps : List Parameter} :
    readMoreParameters scope ts = .ok (ps, rest) ↔
      ∃ p us, readParameter scope ts = .ok (p, us) ∧
        ((∃ vs more, skip? .comma us = some vs ∧ readMoreParameters scope vs = .ok (more, rest) ∧
            ps = p :: more) ∨
          skip? .comma us = none ∧ expect .rightParen us = .ok rest ∧ ps = [p]) := by
  rw [readMoreParameters_eq]
  grind

theorem readFieldNames_eq_ok_iff {fields : List (Field Ty)} :
    readFieldNames scope qs element ts = .ok (fields, rest) ↔
      ∃ name us type vs, expectWord .missingFieldName ts = .ok (name, us) ∧
        readArray scope element us = .ok (type, vs) ∧
        ((∃ ws more, skip? .comma vs = some ws ∧
            readFieldNames scope qs element ws = .ok (more, rest) ∧
            fields = { name, type, qualifiers := qs } :: more) ∨
          skip? .comma vs = none ∧ expect .semicolon vs = .ok rest ∧
            fields = [{ name, type, qualifiers := qs }]) := by
  rw [readFieldNames_eq]
  grind

theorem readFieldGroup_eq_ok_iff {fields : List (Field Ty)} :
    readFieldGroup scope ts = .ok (fields, rest) ↔
      ∃ element us, readType .missingFieldType scope (readQualifiers ∅ ts).2 = .ok (element, us) ∧
        readFieldNames scope (readQualifiers ∅ ts).1 element us = .ok (fields, rest) := by
  rw [readFieldGroup]
  grind

theorem readFields_eq_ok_iff {fields : List (Field Ty)} :
    readFields scope ts = .ok (fields, rest) ↔
      (skip? .rightBrace ts = some rest ∧ fields = []) ∨
        skip? .rightBrace ts = none ∧ ∃ group us more, readFieldGroup scope ts = .ok (group, us) ∧
          readFields scope us = .ok (more, rest) ∧ fields = group ++ more := by
  rw [readFields_eq]
  cases ts with
  | nil => simp [skip?, stuck, readFieldGroup, readQualifiers, readType, expectWord, word?]
  | cons t ts => grind

theorem withRest_readInitializer_eq_ok_iff :
    withRest (readInitializer scope (t :: ts)) = .ok (value, rest) ↔
      (t.isMark .leftBrace = true ∧ ∃ values,
          withRest (readValues scope .rightBrace ts) = .ok (values, rest) ∧
          value = .aggregate values) ∨
        (t.isMark .minus = true ∧ ∃ literal,
          withRest (readLiteral scope ts) = .ok (literal, rest) ∧
          negate literal rest = .ok value) ∨
        (t.isMark .plus = true ∧ withRest (readLiteral scope ts) = .ok (value, rest)) ∨
        t.isMark .leftBrace = false ∧ t.isMark .minus = false ∧ t.isMark .plus = false ∧
          withRest (readLiteral scope (t :: ts)) = .ok (value, rest) := by
  rw [withRest_readInitializer_cons]
  grind [Documented.isMark_iff]

/-- The value of a literal that is a single token. -/
def literal? (scope : Scope) : Lexeme → Option ConstValue
  | .int value true => some (.uint value)
  | .int value false => (ConstValue.signed? value).map .int
  | .float value => some (.float value)
  | .word "true" => some (.bool true)
  | .word "false" => some (.bool false)
  | .word name => (scope.constant? name).map .int
  | _ => none

theorem withRest_readLiteral_eq_ok_iff :
    withRest (readLiteral scope (t :: ts)) = .ok (value, rest) ↔
      (∃ name inside values, t.lexeme = .word name ∧ (Ty.ofName? name).isSome = true ∧
          skip? .leftParen ts = some inside ∧
          withRest (readValues scope .rightParen inside) = .ok (values, rest) ∧
          value = .aggregate values) ∨
        (∀ name, t.lexeme = .word name → (Ty.ofName? name).isSome = true →
            skip? .leftParen ts = none) ∧
          literal? scope t.lexeme = some value ∧ rest = ts := by
  have htrue : Ty.ofName? "true" = none := rfl
  have hfalse : Ty.ofName? "false" = none := rfl
  rw [withRest_readLiteral_cons]
  cases ht : t.lexeme with
  | word name =>
      dsimp only [literal?]
      split <;> grind [stuck, literal?]
  | _ => grind [literal?, stuck]

theorem withRest_readMoreValues_eq_ok_iff {values : List ConstValue} :
    withRest (readMoreValues scope close ts) = .ok (values, rest) ↔
      ∃ value us, withRest (readInitializer scope ts) = .ok (value, us) ∧
        ((∃ vs more, skip? .comma us = some vs ∧
            withRest (readMoreValues scope close vs) = .ok (more, rest) ∧
            values = value :: more) ∨
          skip? .comma us = none ∧ expect close us = .ok rest ∧ values = [value]) := by
  rw [withRest_readMoreValues]
  grind

theorem withRest_readValues_eq_ok_iff {values : List ConstValue} :
    withRest (readValues scope close ts) = .ok (values, rest) ↔
      (skip? close ts = some rest ∧ values = []) ∨
        skip? close ts = none ∧ withRest (readMoreValues scope close ts) = .ok (values, rest) := by
  rw [withRest_readValues]
  grind

theorem readDeclarator_eq_ok_iff {entity : Entity} :
    readDeclarator scope head element name ts = .ok (entity, rest) ↔
      ∃ type us, readArray scope element ts = .ok (type, us) ∧
        ((head.qualifiers.contains .const = true ∧
            ∃ vs read value, skip? .equal us = some vs ∧
              withRest (readInitializer scope vs) = .ok (read, rest) ∧
              read.coerce? type = some value ∧
              entity = .const
                { name, type, qualifiers := head.qualifiers, value, doc := head.doc }) ∨
          head.qualifiers.contains .const = false ∧ skip? .equal us = none ∧ us = rest ∧
            entity = .var
              { name, type, qualifiers := head.qualifiers, block := none, doc := head.doc }) := by
  rw [readDeclarator_eq]
  grind [stuck]

theorem readDeclarators_eq_ok_iff {entities : List Entity} :
    readDeclarators scope head element name ts = (entities, .ok rest) ↔
      ∃ entity us, readDeclarator scope head element name ts = .ok (entity, us) ∧
        ((skip? .comma us = none ∧ expect .semicolon us = .ok rest ∧ entities = [entity]) ∨
          ∃ vs next ws more, skip? .comma us = some vs ∧
            expectWord .missingName vs = .ok (next, ws) ∧
            readDeclarators (scope.record entity) head element next ws = (more, .ok rest) ∧
            entities = entity :: more) := by
  rw [readDeclarators_eq]
  grind

theorem readBlock_eq_ok_iff {entities : List Entity} :
    readBlock scope head name ts = (entities, .ok rest) ↔
      ∃ fields us, readFields scope ts = .ok (fields, us) ∧ hasUnsizedBeforeSized fields = false ∧
        ((word? us = none ∧ expect .semicolon us = .ok rest ∧
            entities = .block ⟨name, fields⟩ :: memberVariables head ⟨name, fields⟩) ∨
          ∃ instanceName vs type ws, word? us = some (instanceName, vs) ∧
            readArray scope (Block.type ⟨name, fields⟩) vs = .ok (type, ws) ∧
            expect .semicolon ws = .ok rest ∧
            entities = [.block ⟨name, fields⟩, .var
              { name := instanceName, type, qualifiers := head.qualifiers, block := none
                doc := head.doc }]) := by
  rw [readBlock]
  grind [stuck]

theorem readParameters_eq_ok_iff {ps : List Parameter} :
    readParameters scope ts = .ok (ps, rest) ↔
      (skip? .rightParen ts = some rest ∧ ps = []) ∨
        (skip? .rightParen ts = none ∧ skipVoid? ts = some rest ∧ ps = []) ∨
          skip? .rightParen ts = none ∧ skipVoid? ts = none ∧
            readMoreParameters scope ts = .ok (ps, rest) := by
  rw [readParameters]
  grind

theorem readFunction_eq_ok_iff {condition : Condition} {returnType : Ty} {entities : List Entity} :
    readFunction scope head condition returnType name ts = (entities, .ok rest) ↔
      ∃ parameters us, readParameters scope ts = .ok (parameters, us) ∧
        expect .semicolon us = .ok rest ∧
        entities = [.function { name, returnType, parameters, condition, doc := head.doc }] := by
  rw [readFunction]
  grind

theorem readNamed_eq_ok_iff {condition : Condition} {entities : List Entity} :
    readNamed scope head condition element ts = (entities, .ok rest) ↔
      ∃ type us name vs, readArray scope element ts = .ok (type, us) ∧
        expectWord .missingName us = .ok (name, vs) ∧
        ((∃ ws, skip? .leftParen vs = some ws ∧
            readFunction scope head condition type name ws = (entities, .ok rest)) ∨
          skip? .leftParen vs = none ∧
            readDeclarators scope head type name vs = (entities, .ok rest)) := by
  rw [readNamed]
  grind

theorem readDeclaration_eq_ok_iff {condition : Condition} {doc : Option String}
    {entities : List Entity} :
    readDeclaration scope condition doc ts = (entities, .ok rest) ↔
      ∃ name us, expectWord .missingType (readQualifiers ∅ ts).2 = .ok (name, us) ∧
        ((∃ vs, skip? .leftBrace us = some vs ∧
            readBlock scope ⟨doc, (readQualifiers ∅ ts).1⟩ name vs = (entities, .ok rest)) ∨
          skip? .leftBrace us = none ∧ ∃ element, scope.type? name = some element ∧
            readNamed scope ⟨doc, (readQualifiers ∅ ts).1⟩ condition element us =
              (entities, .ok rest)) := by
  rw [readDeclaration]
  grind [resolveType, stuck]

end Input

end GlslPrelude
