import GlslPrelude.Fragment.Basic
import GlslPrelude.Fragment.Directive

/-!
# Splitting a text into fragments

The text is read line by line. A stack of branches holds the open blocks and with them the condition
in effect; each line of text joins the run of lines that stand under its condition. A block nested
in a run does not end the run, and blocks with equal conditions that touch share one run.
-/

namespace GlslPrelude

/-- The branch of an open block that the current line stands in. -/
structure Branch where
  /-- Condition in effect around the block. -/
  parent : Condition
  /-- Disjunction of the conditions of the block's branches so far. -/
  taken : Condition
  /-- Condition in effect inside the branch. -/
  current : Condition
  /-- Whether this is the last branch of its block. -/
  isLast : Bool
  /-- Line of the directive that opened the block. -/
  line : Nat
deriving DecidableEq

namespace Branch

/-- The first branch of a block. -/
def first (parent condition : Condition) (line : Nat) : Branch :=
  { parent, taken := condition, current := parent.and condition, isLast := false, line }

/-- The branch of the same block that follows under a condition. -/
def next (branch : Branch) (condition : Condition) : Branch :=
  { branch with
    taken := branch.taken.or condition
    current := (branch.parent.and branch.taken.negate).and condition }

/-- The branch of the same block that holds when no other branch does. -/
def final (branch : Branch) : Branch :=
  { branch with current := branch.parent.and branch.taken.negate, isLast := true }

end Branch

/-- The open blocks, innermost first. -/
abbrev Blocks := List Branch

namespace Blocks

/-- The condition in effect. -/
def condition : Blocks → Condition
  | [] => .always
  | branch :: _ => branch.current

/-- The conditions in effect at each depth, from outside all blocks to the innermost one. -/
def contexts (blocks : Blocks) : List Condition :=
  .always :: (blocks.map Branch.current).reverse

/-- The open blocks behind a directive at a given line. -/
def step (blocks : Blocks) (line : Nat) : Directive → Except DirectiveFault Blocks
  | .opening p => .ok (Branch.first blocks.condition p line :: blocks)
  | .alternative p =>
    match blocks with
    | [] => .error (.unbalanced "elif")
    | branch :: rest =>
      if branch.isLast then .error (.afterElse "elif") else .ok (branch.next p :: rest)
  | .otherwise =>
    match blocks with
    | [] => .error (.unbalanced "else")
    | branch :: rest =>
      if branch.isLast then .error (.afterElse "else") else .ok (branch.final :: rest)
  | .closing =>
    match blocks with
    | [] => .error (.unbalanced "endif")
    | _ :: rest => .ok rest

end Blocks

/-- A fragment that still takes lines. -/
structure Run where
  /-- Condition of the lines. -/
  condition : Condition
  /-- Number of blocks that were open at the first line. -/
  depth : Nat
  /-- Number of the first line. -/
  line : Nat
  /-- Number of the line behind the last one. -/
  next : Nat
  /-- The lines so far, the last one first. -/
  reversed : List (List Char)

namespace Run

/-- A run that consists of one line. -/
def single (condition : Condition) (depth line : Nat) (text : List Char) : Run :=
  { condition, depth, line, next := line + 1, reversed := [text] }

/-- The run with a line added; the lines in between are left empty. -/
def extend (run : Run) (line : Nat) (text : List Char) : Run :=
  { run with
    next := line + 1
    reversed := text :: (List.replicate (line - run.next) ['\n'] ++ run.reversed) }

/-- The finished fragment. -/
def toFragment (run : Run) : Fragment :=
  { condition := run.condition, line := run.line, lines := run.reversed.reverse }

/-- Whether the run stays open at a line of text under `condition`: the line belongs to the run, or
to a block inside the block of the run. -/
def encloses (blocks : Blocks) (condition : Condition) (run : Run) : Bool :=
  run.condition = condition ||
    (run.depth < blocks.length && blocks.contexts[run.depth]? = some run.condition)

/-- Apply a function to the first run that passes a test; `none` if no run does. -/
def updateFirst? (p : Run → Bool) (f : Run → Run) : List Run → Option (List Run)
  | [] => none
  | run :: runs => if p run then some (f run :: runs) else (updateFirst? p f runs).map (run :: ·)

end Run

/-- State of the reading of a text. -/
structure Splitter where
  /-- The open blocks. -/
  blocks : Blocks
  /-- The open runs, outermost first. -/
  runs : List Run
  /-- The finished fragments. -/
  closed : List Fragment

namespace Splitter

/-- State before the first line. -/
def init : Splitter :=
  { blocks := [], runs := [], closed := [] }

/-- Add a blank line, which neither opens nor closes a run: it joins the run under its condition if
that run ends right before it. -/
def addBlank (s : Splitter) (line : Nat) (text : List Char) : Splitter :=
  let joins (run : Run) := run.next = line && run.condition = s.blocks.condition
  match Run.updateFirst? joins (·.extend line text) s.runs with
  | some runs => { s with runs }
  | none => s

/-- Add a line of text: the runs that do not enclose it are closed, and it joins the run under its
condition or opens one. -/
def addText (s : Splitter) (line : Nat) (text : List Char) : Splitter :=
  let condition := s.blocks.condition
  let (kept, ended) := s.runs.partition (Run.encloses s.blocks condition)
  -- runs never share a condition, so at most one of those kept can take the line
  let runs :=
    match Run.updateFirst? (·.condition = condition) (·.extend line text) kept with
    | some runs => runs
    | none => kept ++ [Run.single condition s.blocks.length line text]
  { s with runs, closed := ended.map Run.toFragment ++ s.closed }

/-- Read one line. -/
def step (s : Splitter) (line : Nat) (text : List Char) : Except DirectiveFault Splitter :=
  match Directive.body? text with
  | some body => do
    let blocks ← s.blocks.step line (← Directive.read body)
    return { s with blocks }
  | none =>
    if text.all Text.isBlank then .ok (s.addBlank line text) else .ok (s.addText line text)

/-- Read the lines from a given line number on. -/
def run (s : Splitter) (line : Nat) : List (List Char) → Except DirectiveError Splitter
  | [] => .ok s
  | text :: rest =>
    match s.step line text with
    | .ok s' => s'.run (line + 1) rest
    | .error fault => .error { line, fault }

/-- All the fragments, by their first lines. -/
def fragments (s : Splitter) : List Fragment :=
  (s.closed ++ s.runs.map Run.toFragment).mergeSort (·.line ≤ ·.line)

end Splitter

namespace Fragment

/-- The fragments of a text, whatever their conditions. -/
def split (text : List Char) : Except DirectiveError (List Fragment) :=
  match Splitter.init.run 1 (Text.lines text) with
  | .error e => .error e
  | .ok s =>
    match s.blocks with
    | [] => .ok s.fragments
    | branch :: _ => .error { line := branch.line, fault := .unterminated }

/-- The fragments of a text that are active in an environment. -/
def evaluate (text : List Char) (env : Environment) : Except DirectiveError (List Fragment) :=
  (split text).map (·.filter (·.isActive env))

end Fragment

end GlslPrelude
