import GlslPrelude.Declaration.Initializer

/-!
# Reading declarations

Prelude text consists of function prototypes, variables, constants with literal values and interface
blocks. Declarations are read one after the other; each is read in the scope that the earlier ones
leave, also those of other fragments. What was declared before a failure stays in scope.
-/

namespace GlslPrelude

namespace Input

/-- Read a parameter. -/
def readParameter (scope : Scope) (ts : Input) : Except Stuck (Parameter × Input) :=
  let (qualifiers, ts) := readQualifiers ∅ ts
  match readType .missingParameterType scope ts with
  | .error e => .error e
  | .ok (element, ts) =>
    let (name, ts) := match word? ts with
      | some (name, ts) => (some name, ts)
      | none => (none, ts)
    match readArray scope element ts with
    | .error e => .error e
    | .ok (type, ts) =>
      if type.hasImplicitSize then stuck .unsizedParameter ts
      else .ok ({ name, type, qualifiers }, ts)

/-- Reading a parameter shortens the input. -/
theorem length_readParameter_lt {scope : Scope} {p : Parameter} {ts rest : Input}
    (h : readParameter scope ts = .ok (p, rest)) : rest.length < ts.length := by
  unfold readParameter stuck at h
  have := length_readQualifiers_le ∅ ts
  grind [→ length_readType_lt, → length_word?_lt, → length_readArray_le]

/-- Read at least one parameter, separated by commas, and the closing parenthesis. -/
def readMoreParameters (scope : Scope) (ts : Input) : Except Stuck (List Parameter × Input) :=
  match hread : readParameter scope ts with
  | .error e => .error e
  | .ok (p, rest) =>
    match hskip : skip? .comma rest with
    | some rest' =>
      have : rest'.length < ts.length :=
        Nat.lt_trans (length_skip?_lt hskip) (length_readParameter_lt hread)
      match readMoreParameters scope rest' with
      | .error e => .error e
      | .ok (ps, rest₂) => .ok (p :: ps, rest₂)
    | none =>
      match expect .rightParen rest with
      | .error e => .error e
      | .ok rest' => .ok ([p], rest')
termination_by ts.length

/-- The input behind `void` and a closing parenthesis, if they come next. -/
def skipVoid? (ts : Input) : Option Input :=
  match word? ts with
  | some ("void", rest) => skip? .rightParen rest
  | _ => none

/-- Read the parameters of a function and the closing parenthesis; `void` alone stands for none. -/
def readParameters (scope : Scope) (ts : Input) : Except Stuck (List Parameter × Input) :=
  match skip? .rightParen ts with
  | some rest => .ok ([], rest)
  | none =>
    match skipVoid? ts with
    | some rest => .ok ([], rest)
    | none => readMoreParameters scope ts

/-- Read the names of block members of one type, separated by commas, and the semicolon. -/
def readFieldNames (scope : Scope) (qualifiers : QualifierSet) (element : Ty) (ts : Input) :
    Except Stuck (List (Field Ty) × Input) :=
  match hword : expectWord .missingFieldName ts with
  | .error e => .error e
  | .ok (name, ts₁) =>
    match harray : readArray scope element ts₁ with
    | .error e => .error e
    | .ok (type, ts₂) =>
      match hskip : skip? .comma ts₂ with
      | some ts₃ =>
        have : ts₃.length < ts.length := by
          have := length_expectWord_lt hword
          have := length_readArray_le harray
          have := length_skip?_lt hskip
          omega
        match readFieldNames scope qualifiers element ts₃ with
        | .error e => .error e
        | .ok (fields, rest) => .ok ({ name, type, qualifiers } :: fields, rest)
      | none =>
        match expect .semicolon ts₂ with
        | .error e => .error e
        | .ok rest => .ok ([{ name, type, qualifiers }], rest)
termination_by ts.length

/-- Read the members of a block that share their type and qualifiers. -/
def readFieldGroup (scope : Scope) (ts : Input) : Except Stuck (List (Field Ty) × Input) :=
  let (qualifiers, ts) := readQualifiers ∅ ts
  match readType .missingFieldType scope ts with
  | .error e => .error e
  | .ok (element, ts) => readFieldNames scope qualifiers element ts

/-- Reading the names of members shortens the input. -/
theorem length_readFieldNames_lt {scope : Scope} {qs : QualifierSet} {element : Ty}
    {fields : List (Field Ty)} {ts rest : Input}
    (h : readFieldNames scope qs element ts = .ok (fields, rest)) : rest.length < ts.length := by
  fun_induction readFieldNames scope qs element ts generalizing fields rest <;>
    grind [→ length_expectWord_lt, → length_readArray_le, → length_skip?_lt, → length_expect_lt]

/-- Reading members shortens the input. -/
theorem length_readFieldGroup_lt {scope : Scope} {fields : List (Field Ty)} {ts rest : Input}
    (h : readFieldGroup scope ts = .ok (fields, rest)) : rest.length < ts.length := by
  unfold readFieldGroup at h
  have := length_readQualifiers_le ∅ ts
  grind [→ length_readType_lt, → length_readFieldNames_lt]

/-- Read the members of a block and the closing brace. -/
def readFields (scope : Scope) (ts : Input) : Except Stuck (List (Field Ty) × Input) :=
  match skip? .rightBrace ts with
  | some rest => .ok ([], rest)
  | none =>
    if ts.isEmpty then stuck .unterminatedBlock ts
    else
      match hread : readFieldGroup scope ts with
      | .error e => .error e
      | .ok (fields, rest) =>
        have := length_readFieldGroup_lt hread
        match readFields scope rest with
        | .error e => .error e
        | .ok (more, rest) => .ok (fields ++ more, rest)
termination_by ts.length

/-- What the start of a declaration says about all the names that it declares. -/
structure Head where
  /-- Documentation. -/
  doc : Option String
  /-- Qualifiers. -/
  qualifiers : QualifierSet

/-- Entities that were declared, and what is left to read unless the reader got stuck behind it. -/
abbrev Declared := List Entity × Except Stuck Input

/-- Whether some unsized member stands before a sized one. -/
def hasUnsizedBeforeSized (fields : List (Field Ty)) : Bool :=
  (fields.dropWhile fun f => !f.type.hasImplicitSize).any fun f => !f.type.hasImplicitSize

/-- The variables that the members of an anonymous block are. -/
def memberVariables (head : Head) (block : Block) : List Entity :=
  block.fields.map fun f => .var
    { name := f.name
      type := f.type
      qualifiers := head.qualifiers ∪ f.qualifiers
      block := some block.name
      doc := head.doc }

/-- Read an interface block behind its opening brace. -/
def readBlock (scope : Scope) (head : Head) (name : String) (ts : Input) : Declared :=
  match readFields scope ts with
  | .error e => ([], .error e)
  | .ok (fields, ts) =>
    if hasUnsizedBeforeSized fields then ([], stuck .unsizedField ts)
    else
      let block : Block := { name, fields }
      match word? ts with
      | none => (.block block :: memberVariables head block, expect .semicolon ts)
      | some (instanceName, ts) =>
        match readArray scope block.type ts with
        -- the block itself is declared already when the name behind it turns out to be wrong
        | .error e => ([.block block], .error e)
        | .ok (type, ts) =>
          let var : Variable :=
            { name := instanceName
              type
              qualifiers := head.qualifiers
              block := none
              doc := head.doc }
          ([.block block, .var var], expect .semicolon ts)

/-- Read what follows the name of a constant or variable: its array dimensions and, of a constant,
its value. -/
def readDeclarator (scope : Scope) (head : Head) (element : Ty) (name : String) (ts : Input) :
    Except Stuck (Entity × Input) :=
  match readArray scope element ts with
  | .error e => .error e
  | .ok (type, ts) =>
    match head.qualifiers.contains .const, skip? .equal ts with
    | true, none => stuck .missingInitializer ts
    | true, some ts =>
      -- a value that cannot be read is reported before one that does not match the type
      match readInitializer scope ts with
      | .error e => .error e
      | .ok (value, ⟨rest, _⟩) =>
        match value.coerce? type with
        | none => stuck .initializerMismatch rest
        | some value =>
          .ok (.const { name, type, qualifiers := head.qualifiers, value, doc := head.doc }, rest)
    | false, some _ => stuck .initializerOfVariable ts
    | false, none =>
      .ok (.var { name, type, qualifiers := head.qualifiers, block := none, doc := head.doc }, ts)

/-- Reading a declarator does not lengthen the input. -/
theorem length_readDeclarator_le {scope : Scope} {head : Head} {element : Ty} {name : String}
    {entity : Entity} {ts rest : Input}
    (h : readDeclarator scope head element name ts = .ok (entity, rest)) :
    rest.length ≤ ts.length := by
  unfold readDeclarator stuck at h
  grind [→ length_readArray_le, → length_skip?_lt]

/-- Read the constants or variables that share a type, behind the first name, and the semicolon. -/
def readDeclarators (scope : Scope) (head : Head) (element : Ty) (name : String) (ts : Input) :
    Declared :=
  match hread : readDeclarator scope head element name ts with
  | .error e => ([], .error e)
  | .ok (entity, ts₁) =>
    match hskip : skip? .comma ts₁ with
    | none => ([entity], expect .semicolon ts₁)
    | some ts₂ =>
      match hword : expectWord .missingName ts₂ with
      | .error e => ([entity], .error e)
      | .ok (next, ts₃) =>
        have : ts₃.length < ts.length := by
          have := length_readDeclarator_le hread
          have := length_skip?_lt hskip
          have := length_expectWord_lt hword
          omega
        let (entities, result) := readDeclarators (scope.record entity) head element next ts₃
        (entity :: entities, result)
termination_by ts.length

/-- Read the parameters of a function and the semicolon. -/
def readFunction (scope : Scope) (head : Head) (condition : Condition) (returnType : Ty)
    (name : String) (ts : Input) : Declared :=
  match readParameters scope ts with
  | .error e => ([], .error e)
  | .ok (parameters, ts) =>
    match expect .semicolon ts with
    | .error e => ([], .error e)
    | .ok ts => ([.function { name, returnType, parameters, condition, doc := head.doc }], .ok ts)

/-- Read what follows the type name of a function, constant or variable. -/
def readNamed (scope : Scope) (head : Head) (condition : Condition) (element : Ty) (ts : Input) :
    Declared :=
  match readArray scope element ts with
  | .error e => ([], .error e)
  | .ok (type, ts) =>
    match expectWord .missingName ts with
    | .error e => ([], .error e)
    | .ok (name, ts) =>
      match skip? .leftParen ts with
      | some ts => readFunction scope head condition type name ts
      | none => readDeclarators scope head type name ts

/-- Read a declaration. -/
def readDeclaration (scope : Scope) (condition : Condition) (doc : Option String) (ts : Input) :
    Declared :=
  let (qualifiers, ts) := readQualifiers ∅ ts
  let head : Head := { doc, qualifiers }
  match expectWord .missingType ts with
  | .error e => ([], .error e)
  | .ok (name, ts) =>
    match skip? .leftBrace ts with
    | some ts => readBlock scope head name ts
    | none =>
      match resolveType scope name ts with
      | .error e => ([], .error e)
      | .ok element => readNamed scope head condition element ts

/-- Reading parameters shortens the input. -/
theorem length_readMoreParameters_lt {scope : Scope} {ps : List Parameter} {ts rest : Input}
    (h : readMoreParameters scope ts = .ok (ps, rest)) : rest.length < ts.length := by
  fun_induction readMoreParameters scope ts generalizing ps rest <;>
    grind [→ length_readParameter_lt, → length_skip?_lt, → length_expect_lt]

/-- Reading the parameters of a function shortens the input. -/
theorem length_readParameters_lt {scope : Scope} {ps : List Parameter} {ts rest : Input}
    (h : readParameters scope ts = .ok (ps, rest)) : rest.length < ts.length := by
  unfold readParameters skipVoid? at h
  grind [→ length_skip?_lt, → length_word?_lt, → length_readMoreParameters_lt]

/-- Reading the members of a block shortens the input. -/
theorem length_readFields_lt {scope : Scope} {fields : List (Field Ty)} {ts rest : Input}
    (h : readFields scope ts = .ok (fields, rest)) : rest.length < ts.length := by
  fun_induction readFields scope ts generalizing fields rest <;>
    grind [stuck, → length_skip?_lt, → length_readFieldGroup_lt]

/-- Reading a block shortens the input. -/
theorem length_readBlock_lt {scope : Scope} {head : Head} {name : String} {ts rest : Input}
    (h : (readBlock scope head name ts).2 = .ok rest) : rest.length < ts.length := by
  unfold readBlock stuck at h
  grind [→ length_readFields_lt, → length_word?_lt, → length_readArray_le, → length_expect_lt]

/-- Reading a function shortens the input. -/
theorem length_readFunction_lt {scope : Scope} {head : Head} {condition : Condition}
    {returnType : Ty} {name : String} {ts rest : Input}
    (h : (readFunction scope head condition returnType name ts).2 = .ok rest) :
    rest.length < ts.length := by
  unfold readFunction at h
  grind [→ length_readParameters_lt, → length_expect_lt]

/-- Reading constants or variables shortens the input. -/
theorem length_readDeclarators_lt {scope : Scope} {head : Head} {element : Ty} {name : String}
    {ts rest : Input} (h : (readDeclarators scope head element name ts).2 = .ok rest) :
    rest.length < ts.length := by
  fun_induction readDeclarators scope head element name ts generalizing rest <;>
    grind [→ length_readDeclarator_le, → length_skip?_lt, → length_expect_lt,
      → length_expectWord_lt]

/-- Reading a function, constant or variable shortens the input. -/
theorem length_readNamed_lt {scope : Scope} {head : Head} {condition : Condition} {element : Ty}
    {ts rest : Input} (h : (readNamed scope head condition element ts).2 = .ok rest) :
    rest.length < ts.length := by
  unfold readNamed at h
  grind [→ length_expectWord_lt, → length_skip?_lt, → length_readArray_le,
    → length_readFunction_lt, → length_readDeclarators_lt]

/-- Reading a declaration shortens the input. -/
theorem length_readDeclaration_lt {scope : Scope} {condition : Condition} {doc : Option String}
    {ts rest : Input} (h : (readDeclaration scope condition doc ts).2 = .ok rest) :
    rest.length < ts.length := by
  unfold readDeclaration at h
  have := length_readQualifiers_le ∅ ts
  grind [→ length_expectWord_lt, → length_skip?_lt, → length_readBlock_lt, → length_readNamed_lt]

/-- Declarations that were read, the last one first, the scope behind them, and what the reader got
stuck at, if it did. -/
structure Progress where
  /-- The declarations, the last one first. -/
  reversed : List Declaration
  /-- The scope behind them. -/
  scope : Scope
  /-- Where the reader got stuck. -/
  stuck? : Option Stuck

/-- Read declarations to the end of the input, behind those that are given last one first. The line
of the first line of the fragment is `line`. -/
def readDeclarations (condition : Condition) (line : Nat) (scope : Scope)
    (reversed : List Declaration) (ts : Input) : Progress :=
  match ts with
  | [] => { reversed, scope, stuck? := none }
  | t :: ts =>
    match hread : readDeclaration scope condition t.doc (t :: ts) with
    | (entities, result) =>
      let reversed := entities.foldl (fun reversed entity =>
        { condition, line := line + (t.line - 1), entity } :: reversed) reversed
      let scope := entities.foldl Scope.record scope
      match result with
      | .error e => { reversed, scope, stuck? := some e }
      | .ok rest =>
        have : rest.length < (t :: ts).length :=
          length_readDeclaration_lt (by rw [hread])
        readDeclarations condition line scope reversed rest
termination_by ts.length
decreasing_by exact this

end Input

namespace Fragment

/-- Line of the last token of a text, comments included. -/
def lastLine (tokens : List Token) : Nat :=
  (tokens.getLast?.map Token.line).getD 1

/-- The failure to read a fragment whose tokens are given. -/
def failure (fragment : Fragment) (tokens : List Token) (e : Stuck) : ParseFailure :=
  let line := match e.rest with
    | t :: _ => t.line
    | [] => lastLine tokens
  .inFragment fragment line (.stuck e.cause (e.rest.head?.map Documented.lexeme))

/-- Read all the declarations of a fragment in a scope. The scope behind them is also given when
that fails: it then holds what was declared before the failure. -/
def parse (scope : Scope) (fragment : Fragment) :
    Scope × Except ParseFailure (List Declaration) :=
  match Token.tokenize fragment.text with
  | .error e => (scope, .error (.inFragment fragment e.line (.lexical e.fault)))
  | .ok tokens =>
    let progress :=
      Input.readDeclarations fragment.condition fragment.line scope [] (Input.ofTokens tokens)
    match progress.stuck? with
    | some e => (progress.scope, .error (failure fragment tokens e))
    | none => (progress.scope, .ok progress.reversed.reverse)

/-- Read all the declarations of fragments one after the other, up to the first failure. -/
def parseAll (scope : Scope) : List Fragment → Except ParseFailure (List Declaration)
  | [] => .ok []
  | fragment :: fragments =>
    match parse scope fragment with
    | (_, .error e) => .error e
    | (scope, .ok declarations) =>
      match parseAll scope fragments with
      | .error e => .error e
      | .ok more => .ok (declarations ++ more)

end Fragment

end GlslPrelude
