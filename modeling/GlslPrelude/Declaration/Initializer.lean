import GlslPrelude.Declaration.Scope

/-!
# Initializers

The value of a constant: a literal with or without a sign, an earlier integer constant, or a list of
values in braces or behind the name of a type. Each reader returns what is left of its input
together with the fact that it used at least one token.
-/

namespace GlslPrelude

namespace Input

/-- What is left of an input behind a value. -/
abbrev Behind (ts : Input) : Type :=
  { rest : Input // rest.length < ts.length }

/-- The opposite of a number; only signed integers and floating-point numbers have one. -/
def negate (value : ConstValue) (rest : Input) : Except Stuck ConstValue :=
  match value with
  | .int i => .ok (.int (-i))
  | .float x => .ok (.float (-x))
  | _ => stuck .negation rest

mutual

/-- Read the value of a constant. -/
def readInitializer (scope : Scope) (ts : Input) : Except Stuck (ConstValue × Behind ts) :=
  match ts with
  | [] => stuck .missingLiteral []
  | t :: rest =>
    if t.isMark .leftBrace then
      match readValues scope .rightBrace rest with
      | .error e => .error e
      | .ok (values, ⟨rest', h⟩) => .ok (.aggregate values, ⟨rest', by simp; omega⟩)
    else if t.isMark .minus then
      match readLiteral scope rest with
      | .error e => .error e
      | .ok (value, ⟨rest', h⟩) =>
        match negate value rest' with
        | .error e => .error e
        | .ok value => .ok (value, ⟨rest', by simp; omega⟩)
    else if t.isMark .plus then
      match readLiteral scope rest with
      | .error e => .error e
      | .ok (value, ⟨rest', h⟩) => .ok (value, ⟨rest', by simp; omega⟩)
    else readLiteral scope (t :: rest)
termination_by (ts.length, 1)

/-- Read a literal, the name of a constant, or a type name with values in parentheses. -/
def readLiteral (scope : Scope) (ts : Input) : Except Stuck (ConstValue × Behind ts) :=
  match ts with
  | [] => stuck .missingLiteral []
  | t :: rest =>
    match t.lexeme with
    | .int value true => .ok (.uint value, ⟨rest, by simp⟩)
    | .int value false =>
      match ConstValue.signed? value with
      | some i => .ok (.int i, ⟨rest, by simp⟩)
      | none => stuck .literalOutOfRange rest
    | .float value => .ok (.float value, ⟨rest, by simp⟩)
    | .word "true" => .ok (.bool true, ⟨rest, by simp⟩)
    | .word "false" => .ok (.bool false, ⟨rest, by simp⟩)
    | .word name =>
      match hskip : if (Ty.ofName? name).isSome then skip? .leftParen rest else none with
      | some inside =>
        have : inside.length < rest.length := by
          split at hskip
          · exact length_skip?_lt hskip
          · contradiction
        match readValues scope .rightParen inside with
        | .error e => .error e
        | .ok (values, ⟨rest', h⟩) => .ok (.aggregate values, ⟨rest', by simp; omega⟩)
      | none =>
        match scope.constant? name with
        | some i => .ok (.int i, ⟨rest, by simp⟩)
        | none => stuck (.unknownConstant name) rest
    | _ => stuck .missingLiteral rest
termination_by (ts.length, 0)

/-- Read values separated by commas up to a closing mark; there may be none. -/
def readValues (scope : Scope) (close : Punct) (ts : Input) :
    Except Stuck (List ConstValue × Behind ts) :=
  match hskip : skip? close ts with
  | some rest => .ok ([], ⟨rest, length_skip?_lt hskip⟩)
  | none => readMoreValues scope close ts
termination_by (ts.length, 3)

/-- Read at least one value, separated by commas, up to a closing mark. -/
def readMoreValues (scope : Scope) (close : Punct) (ts : Input) :
    Except Stuck (List ConstValue × Behind ts) :=
  match readInitializer scope ts with
  | .error e => .error e
  | .ok (value, ⟨rest, h⟩) =>
    match hskip : skip? .comma rest with
    | some rest' =>
      have := length_skip?_lt hskip
      match readMoreValues scope close rest' with
      | .error e => .error e
      | .ok (values, ⟨rest₂, h'⟩) => .ok (value :: values, ⟨rest₂, by omega⟩)
    | none =>
      match hclose : expect close rest with
      | .error e => .error e
      | .ok rest' => .ok ([value], ⟨rest', by have := length_expect_lt hclose; omega⟩)
termination_by (ts.length, 2)

end

end Input

end GlslPrelude
