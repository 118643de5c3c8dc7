import GlslPrelude.Condition.Basic
import GlslPrelude.Condition.Token

/-!
# Reading conditions

A condition is a disjunction of conjunctions of operands: numbers, macro names, `defined` tests,
negations and conditions in parentheses. Every macro must name a flag. Each reader returns what is
left of its tokens together with the fact that it used at least one of them, so the readers end.
-/

namespace GlslPrelude

/-- Why a text is no condition. -/
inductive ConditionError where
  /-- A macro names no flag. -/
  | unknownMacro (name : String)
  /-- The text does not have the form of a condition. -/
  | malformed (condition : String) (reason : Condition.Malformation)
deriving DecidableEq, Repr

/-- Wording of the error. -/
def ConditionError.message : ConditionError → String
  | .unknownMacro name => "unknown predicate macro `" ++ name ++ "`"
  | .malformed condition reason =>
    "malformed condition `" ++ condition ++ "`: " ++ reason.reason

namespace Condition

/-- Why a list of tokens is no condition. -/
inductive Fault where
  /-- A macro names no flag. -/
  | unknownMacro (name : String)
  /-- The tokens do not have the form of a condition. -/
  | malformed (reason : Malformation)
deriving DecidableEq, Repr

/-- A condition read from the front of a list of tokens, with the tokens behind it. -/
abbrev Reading (tokens : List Token) : Type :=
  Except Fault (Condition × { rest : List Token // rest.length < tokens.length })

/-- The condition that a macro name stands for. -/
def ofMacro (name : String) : Except Fault Condition :=
  match Flag.ofMacroName? name with
  | some f => .ok (.flag f)
  | none => .error (.unknownMacro name)

/-- Read the operand of `defined`: a macro name, with or without parentheses. -/
def readDefined (tokens : List Token) : Reading tokens :=
  match tokens with
  | .leftParen :: .word name :: rest =>
    match rest with
    | .rightParen :: rest => (ofMacro name).map (·, ⟨rest, by simp; omega⟩)
    | _ => .error (.malformed .missingParenthesis)
  | .word name :: rest => (ofMacro name).map (·, ⟨rest, by simp⟩)
  | _ => .error (.malformed .missingName)

mutual

/-- Read a disjunction. -/
def readOr (tokens : List Token) : Reading tokens :=
  match readAnd tokens with
  | .error e => .error e
  | .ok (p, ⟨rest, h⟩) =>
    match readOrTail p rest with
    | .error e => .error e
    | .ok (q, ⟨rest', h'⟩) => .ok (q, ⟨rest', by omega⟩)
termination_by 4 * tokens.length + 3

/-- Read the terms of a disjunction that follow the terms read into `left`. -/
def readOrTail (left : Condition) (tokens : List Token) :
    Except Fault (Condition × { rest : List Token // rest.length ≤ tokens.length }) :=
  match tokens with
  | .or :: tokens =>
    match readAnd tokens with
    | .error e => .error e
    | .ok (p, ⟨rest, h⟩) =>
      match readOrTail (left.or p) rest with
      | .error e => .error e
      | .ok (q, ⟨rest', h'⟩) => .ok (q, ⟨rest', by simp; omega⟩)
  | tokens => .ok (left, ⟨tokens, Nat.le_refl _⟩)
termination_by 4 * tokens.length + 3

/-- Read a conjunction. -/
def readAnd (tokens : List Token) : Reading tokens :=
  match readOperand tokens with
  | .error e => .error e
  | .ok (p, ⟨rest, h⟩) =>
    match readAndTail p rest with
    | .error e => .error e
    | .ok (q, ⟨rest', h'⟩) => .ok (q, ⟨rest', by omega⟩)
termination_by 4 * tokens.length + 2

/-- Read the terms of a conjunction that follow the terms read into `left`. -/
def readAndTail (left : Condition) (tokens : List Token) :
    Except Fault (Condition × { rest : List Token // rest.length ≤ tokens.length }) :=
  match tokens with
  | .and :: tokens =>
    match readOperand tokens with
    | .error e => .error e
    | .ok (p, ⟨rest, h⟩) =>
      match readAndTail (left.and p) rest with
      | .error e => .error e
      | .ok (q, ⟨rest', h'⟩) => .ok (q, ⟨rest', by simp; omega⟩)
  | tokens => .ok (left, ⟨tokens, Nat.le_refl _⟩)
termination_by 4 * tokens.length + 2

/-- Read an operand of a conjunction. -/
def readOperand (tokens : List Token) : Reading tokens :=
  match tokens with
  | .not :: rest =>
    match readOperand rest with
    | .error e => .error e
    | .ok (p, ⟨rest', h⟩) => .ok (p.negate, ⟨rest', by simp; omega⟩)
  | .leftParen :: rest =>
    match readOr rest with
    -- a fault inside the parentheses is reported before a missing closing one
    | .error e => .error e
    | .ok (p, ⟨.rightParen :: rest', h⟩) => .ok (p, ⟨rest', by simp at h ⊢; omega⟩)
    | .ok _ => .error (.malformed .missingParenthesis)
  | .number 0 :: rest => .ok (never, ⟨rest, by simp⟩)
  | .number _ :: rest => .ok (always, ⟨rest, by simp⟩)
  | .word "defined" :: rest =>
    (readDefined rest).map fun (p, ⟨rest', h⟩) => (p, ⟨rest', by simp; omega⟩)
  | .word name :: rest => (ofMacro name).map (·, ⟨rest, by simp⟩)
  | _ :: _ => .error (.malformed .unexpectedOperator)
  | [] => .error (.malformed .unexpectedEnd)
termination_by 4 * tokens.length + 1

end

/-- The condition that a list of tokens spells. -/
def ofTokens (tokens : List Token) : Except Fault Condition :=
  match readOr tokens with
  | .error e => .error e
  | .ok (p, ⟨[], _⟩) => .ok p
  | .ok _ => .error (.malformed .trailingTokens)

/-- Read the text behind `#if`. -/
def parse (text : String) : Except ConditionError Condition :=
  match tokenize text.toList with
  | .error reason => .error (.malformed text reason)
  | .ok tokens =>
    match ofTokens tokens with
    | .ok p => .ok p
    | .error (.unknownMacro name) => .error (.unknownMacro name)
    | .error (.malformed reason) => .error (.malformed text reason)

end Condition

end GlslPrelude
