import GlslPrelude.Fragment.Split
import GlslPrelude.Proofs.Text.Lines

/-!
# The open blocks at a line

Which blocks are open at a line depends only on the directives in front of it. `conditionAt` is the
condition that these blocks put in effect; by `run_blocks` it is the one that the splitter reads the
line under, whatever runs are open by then.
-/

namespace GlslPrelude

/-- Whether a line belongs in a fragment: it is no directive and has a visible character. -/
def Fragment.isContent (line : List Char) : Bool :=
  (Directive.body? line).isNone && !line.all Text.isBlank

/-- Content is no directive. -/
theorem Fragment.body?_eq_none_of_isContent {line : List Char} (h : isContent line = true) :
    Directive.body? line = none := by
  rw [isContent, Bool.and_eq_true] at h
  exact Option.isNone_iff_eq_none.1 h.1

/-- Content is visible. -/
theorem Fragment.not_all_isBlank_of_isContent {line : List Char} (h : isContent line = true) :
    line.all Text.isBlank = false := by
  rw [isContent, Bool.and_eq_true, Bool.not_eq_true'] at h
  exact h.2

namespace Blocks

/-- The open blocks behind a line; only directives change them. -/
def readLine (blocks : Blocks) (line : Nat) (text : List Char) : Except DirectiveFault Blocks :=
  match Directive.body? text with
  | some body => do blocks.step line (← Directive.read body)
  | none => .ok blocks

/-- The open blocks behind the lines that are numbered from a given number on. -/
def readLines (blocks : Blocks) (line : Nat) : List (List Char) → Except DirectiveError Blocks
  | [] => .ok blocks
  | text :: rest =>
    match blocks.readLine line text with
    | .ok blocks => blocks.readLines (line + 1) rest
    | .error fault => .error { line, fault }

/-- Lines that are not directives leave the blocks as they are. -/
theorem readLine_of_body?_eq_none {blocks : Blocks} {line : Nat} {text : List Char}
    (h : Directive.body? text = none) : blocks.readLine line text = .ok blocks := by
  rw [readLine, h]

/-- Reading two stretches of lines is reading the second one behind the first. -/
theorem readLines_append (front back : List (List Char)) (blocks : Blocks) (line : Nat) :
    blocks.readLines line (front ++ back) =
      (blocks.readLines line front).bind fun b => b.readLines (line + front.length) back := by
  induction front generalizing blocks line with
  | nil => rfl
  | cons text front ih =>
      rw [List.cons_append, readLines, readLines]
      cases blocks.readLine line text with
      | error fault => rfl
      | ok blocks' =>
          simp only [ih, List.length_cons]
          rw [Nat.add_assoc, Nat.add_comm 1]

/-- If all of some lines can be read, so can those in front. -/
theorem readLines_of_append {front back : List (List Char)} {blocks blocks' : Blocks} {line : Nat}
    (h : blocks.readLines line (front ++ back) = .ok blocks') :
    ∃ between, blocks.readLines line front = .ok between ∧
      between.readLines (line + front.length) back = .ok blocks' := by
  rw [readLines_append] at h
  cases hfront : blocks.readLines line front with
  | error e => rw [hfront] at h; cases h
  | ok between => rw [hfront] at h; exact ⟨between, rfl, h⟩

end Blocks

namespace Splitter

/-- A directive changes the open blocks and nothing else. -/
theorem step_of_body?_eq_some {s : Splitter} {line : Nat} {text body : List Char}
    (h : Directive.body? text = some body) :
    s.step line text = (s.blocks.readLine line text).map fun blocks => { s with blocks } := by
  rw [step, Blocks.readLine, h]
  dsimp only
  cases hread : Directive.read body with
  | error fault => rfl
  | ok d =>
      change (s.blocks.step line d).bind (fun b => .ok { s with blocks := b }) =
        (s.blocks.step line d).map fun b => { s with blocks := b }
      cases s.blocks.step line d <;> rfl

/-- Every other line is added to the runs. -/
theorem step_of_body?_eq_none {s : Splitter} {line : Nat} {text : List Char}
    (h : Directive.body? text = none) :
    s.step line text =
      .ok (if text.all Text.isBlank then s.addBlank line text else s.addText line text) := by
  rw [step, h]
  dsimp only
  split <;> rfl

/-- Adding a blank line keeps the blocks. -/
theorem addBlank_blocks (s : Splitter) (line : Nat) (text : List Char) :
    (s.addBlank line text).blocks = s.blocks := by
  rw [addBlank]
  cases Run.updateFirst? _ _ s.runs <;> rfl

/-- Reading a line, the splitter changes its blocks as the line alone does. -/
theorem step_blocks (s : Splitter) (line : Nat) (text : List Char) :
    (s.step line text).map blocks = s.blocks.readLine line text := by
  cases hbody : Directive.body? text with
  | some body =>
      rw [step_of_body?_eq_some hbody]
      cases s.blocks.readLine line text <;> rfl
  | none =>
      rw [step_of_body?_eq_none hbody, Blocks.readLine_of_body?_eq_none hbody]
      split
      · exact congrArg Except.ok (addBlank_blocks s line text)
      · rfl

/-- Reading lines, the splitter changes its blocks as the lines alone do. -/
theorem run_blocks (s : Splitter) (line : Nat) (ls : List (List Char)) :
    (s.run line ls).map blocks = s.blocks.readLines line ls := by
  induction ls generalizing s line with
  | nil => rfl
  | cons text rest ih =>
      rw [run, Blocks.readLines, ← step_blocks s line text]
      cases s.step line text with
      | error fault => rfl
      | ok s' => exact ih s' (line + 1)

/-- The blocks of a splitter that has read lines. -/
theorem readLines_of_run {s s' : Splitter} {line : Nat} {ls : List (List Char)}
    (h : s.run line ls = .ok s') : s.blocks.readLines line ls = .ok s'.blocks := by
  rw [← run_blocks, h]
  rfl

/-- Reading two stretches of lines is reading the second one behind the first. -/
theorem run_append (front back : List (List Char)) (s : Splitter) (line : Nat) :
    s.run line (front ++ back) =
      (s.run line front).bind fun next => next.run (line + front.length) back := by
  induction front generalizing s line with
  | nil => rfl
  | cons text front ih =>
      rw [List.cons_append, run, run]
      cases s.step line text with
      | error fault => rfl
      | ok next =>
          dsimp only
          rw [ih, List.length_cons, Nat.add_assoc, Nat.add_comm 1]

/-- If all of some lines can be read, so can those in front. -/
theorem run_of_append {front back : List (List Char)} {s s' : Splitter} {line : Nat}
    (h : s.run line (front ++ back) = .ok s') :
    ∃ between, s.run line front = .ok between ∧
      between.run (line + front.length) back = .ok s' := by
  rw [run_append] at h
  cases hfront : s.run line front with
  | error e => rw [hfront] at h; cases h
  | ok between => rw [hfront] at h; exact ⟨between, rfl, h⟩

/-- The first of the lines that a splitter has read. -/
theorem step_of_run_cons {s s' : Splitter} {line : Nat} {text : List Char}
    {rest : List (List Char)} (h : s.run line (text :: rest) = .ok s') :
    ∃ next, s.step line text = .ok next ∧ next.run (line + 1) rest = .ok s' := by
  rw [run] at h
  cases hstep : s.step line text with
  | error fault => rw [hstep] at h; cases h
  | ok next => rw [hstep] at h; exact ⟨next, rfl, h⟩

end Splitter

namespace Fragment

/-- The blocks that are open at a line of a text. -/
def blocksAt (text : List Char) (line : Nat) : Except DirectiveError Blocks :=
  Blocks.readLines [] 1 ((Text.lines text).take (line - 1))

/-- The condition in effect at a line of a text. -/
def conditionAt (text : List Char) (line : Nat) : Except DirectiveError Condition :=
  (blocksAt text line).map Blocks.condition

/-- The blocks at a line are those behind the lines in front of it. -/
theorem blocksAt_eq {text : List Char} {front back : List (List Char)}
    (h : Text.lines text = front ++ back) :
    blocksAt text (front.length + 1) = Blocks.readLines [] 1 front := by
  rw [blocksAt, h, Nat.add_sub_cancel, List.take_left]

/-- A text has fragments exactly when all of its lines can be read and no block is left open. -/
theorem split_eq_ok_iff {text : List Char} {fragments : List Fragment} :
    split text = .ok fragments ↔
      ∃ s, Splitter.init.run 1 (Text.lines text) = .ok s ∧ s.blocks = [] ∧
        s.fragments = fragments := by
  rw [split]
  cases Splitter.init.run 1 (Text.lines text) with
  | error e => simp
  | ok s => cases hblocks : s.blocks <;> simp [hblocks]

/-- The blocks behind all lines of a text that has fragments. -/
theorem readLines_of_split {text : List Char} {fragments : List Fragment}
    (h : split text = .ok fragments) : Blocks.readLines [] 1 (Text.lines text) = .ok [] := by
  obtain ⟨s, hrun, hblocks, -⟩ := split_eq_ok_iff.1 h
  have hread := Splitter.readLines_of_run hrun
  rwa [hblocks] at hread

/-- In a text that has fragments, the lines in front of any line can be read. -/
theorem exists_blocksAt {text : List Char} {fragments : List Fragment}
    (h : split text = .ok fragments) (n : Nat) : ∃ blocks, blocksAt text n = .ok blocks := by
  have hread := readLines_of_split h
  rw [← List.take_append_drop (n - 1) (Text.lines text)] at hread
  obtain ⟨blocks, hfront, -⟩ := Blocks.readLines_of_append hread
  exact ⟨blocks, hfront⟩

end Fragment

end GlslPrelude
