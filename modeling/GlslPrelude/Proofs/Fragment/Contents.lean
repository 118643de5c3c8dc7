import GlslPrelude.Proofs.Fragment.Moves
import Mathlib.Data.List.Count
import Mathlib.Data.List.Perm.Basic

/-!
# The content of a text and of its fragments

Reading a text only regroups its lines: by `contents_perm_of_run` the visible lines of all
fragments, each with its number and condition, are those of the text up to their order.
-/

namespace GlslPrelude

/-- A visible line with its number and the condition that governs it. -/
structure GovernedLine where
  /-- Number of the line. -/
  number : Nat
  /-- The line. -/
  text : List Char
  /-- Condition in effect at the line. -/
  condition : Condition
deriving DecidableEq

namespace GovernedLine

/-- The visible ones of some lines under a condition, the first of which has a given number. -/
def ofLines (condition : Condition) (first : Nat) (lines : List (List Char)) : List GovernedLine :=
  ((lines.zipIdx first).filter fun (text, _) => !text.all Text.isBlank).map
    fun (text, number) => { number, text, condition }

variable {condition : Condition} {first : Nat}

/-- The visible ones of two stretches of lines. -/
theorem ofLines_append (front back : List (List Char)) :
    ofLines condition first (front ++ back) =
      ofLines condition first front ++ ofLines condition (first + front.length) back := by
  simp [ofLines, List.zipIdx_append]

/-- Empty lines are not visible. -/
theorem ofLines_replicate (k : Nat) : ofLines condition first (List.replicate k ['\n']) = [] := by
  rw [ofLines, List.map_eq_nil_iff, List.filter_eq_nil_iff]
  rintro ⟨text, n⟩ hmem
  have htext : text ∈ List.replicate k ['\n'] := List.fst_mem_of_mem_zipIdx hmem
  rw [List.eq_of_mem_replicate htext]
  change ¬(! (['\n'] : List Char).all Text.isBlank) = true
  decide

/-- A single line. -/
theorem ofLines_singleton (text : List Char) :
    ofLines condition first [text] =
      if text.all Text.isBlank then [] else [{ number := first, text, condition }] := by
  cases h : text.all Text.isBlank <;> simp [ofLines, h]

/-- The visible lines keep their places. -/
theorem mem_ofLines {lines : List (List Char)} {l : GovernedLine} :
    l ∈ ofLines condition first lines ↔
      (l.text, l.number) ∈ lines.zipIdx first ∧ l.text.all Text.isBlank = false ∧
        l.condition = condition := by
  obtain ⟨number, text, p⟩ := l
  simp only [ofLines, List.mem_map, List.mem_filter, Prod.exists, Bool.not_eq_true', mk.injEq]
  constructor
  · rintro ⟨t, n, ⟨hmem, hblank⟩, rfl, rfl, rfl⟩
    exact ⟨hmem, hblank, rfl⟩
  · rintro ⟨hmem, hblank, rfl⟩
    exact ⟨text, number, ⟨hmem, hblank⟩, rfl, rfl, rfl⟩

end GovernedLine

/-- The visible lines of a fragment. -/
def Fragment.contents (fragment : Fragment) : List GovernedLine :=
  GovernedLine.ofLines fragment.condition fragment.line fragment.lines

/-! ## The content of a text -/

namespace Blocks

/-- What one line adds to the fragments. -/
def lineContents (blocks : Blocks) (line : Nat) (text : List Char) : List GovernedLine :=
  if Fragment.isContent text then [{ number := line, text, condition := blocks.condition }] else []

/-- The content of lines, each line with the condition in effect there. -/
def contents (blocks : Blocks) (line : Nat) : List (List Char) → List GovernedLine
  | [] => []
  | text :: rest =>
    blocks.lineContents line text ++
      match blocks.readLine line text with
      | .ok next => next.contents (line + 1) rest
      | .error _ => []

/-- What a line adds. -/
theorem mem_lineContents {blocks : Blocks} {line : Nat} {text : List Char} {l : GovernedLine} :
    l ∈ blocks.lineContents line text ↔
      Fragment.isContent text = true ∧
        l = { number := line, text, condition := blocks.condition } := by
  rw [lineContents]
  split <;> simp_all

/-- The content of lines consists of their content lines, each under the blocks behind the lines in
front of it. -/
theorem mem_contents {blocks blocks' : Blocks} {line : Nat} {ls : List (List Char)}
    (h : blocks.readLines line ls = .ok blocks') {l : GovernedLine} :
    l ∈ blocks.contents line ls ↔
      ∃ front back between, ls = front ++ l.text :: back ∧ l.number = line + front.length ∧
        Fragment.isContent l.text = true ∧ blocks.readLines line front = .ok between ∧
        l.condition = between.condition := by
  induction ls generalizing blocks line with
  | nil => simp [contents]
  | cons text rest ih =>
      rw [readLines] at h
      cases hread : blocks.readLine line text with
      | error fault => rw [hread] at h; cases h
      | ok next =>
          rw [hread] at h
          rw [contents, hread, List.mem_append, mem_lineContents, ih h]
          -- no line stands in front of the first one, and one more in front of each later one
          constructor
          · rintro (⟨hcontent, rfl⟩ | ⟨front, back, between, rfl, hnumber, hcontent, hfront, hcond⟩)
            · exact ⟨[], rest, blocks, rfl, rfl, hcontent, rfl, rfl⟩
            · refine ⟨text :: front, back, between, rfl, ?_, hcontent, ?_, hcond⟩
              · rw [hnumber, List.length_cons]
                omega
              · rw [readLines, hread]
                exact hfront
          · rintro ⟨front, back, between, hsplit, hnumber, hcontent, hfront, hcond⟩
            cases front with
            | nil =>
                cases hsplit
                cases hfront
                exact .inl ⟨hcontent, by cases l; simp_all⟩
            | cons first front =>
                obtain ⟨rfl, rfl⟩ := List.cons.inj hsplit
                rw [readLines, hread] at hfront
                refine .inr ⟨front, back, between, rfl, ?_, hcontent, hfront, hcond⟩
                rw [hnumber, List.length_cons]
                omega

/-- The numbers of the content start at that of the first line. -/
theorem le_number_of_mem_contents {blocks : Blocks} {line : Nat} {ls : List (List Char)}
    {l : GovernedLine} (h : l ∈ blocks.contents line ls) : line ≤ l.number := by
  induction ls generalizing blocks line with
  | nil => cases h
  | cons text rest ih =>
      rw [contents, List.mem_append, mem_lineContents] at h
      rcases h with ⟨-, rfl⟩ | h
      · exact Nat.le_refl _
      · cases hread : blocks.readLine line text with
        | error fault => rw [hread] at h; cases h
        | ok next =>
            rw [hread] at h
            exact Nat.le_of_succ_le (ih h)

/-- The content of lines is numbered in ascending order. -/
theorem pairwise_contents (blocks : Blocks) (line : Nat) (ls : List (List Char)) :
    (blocks.contents line ls).Pairwise (·.number < ·.number) := by
  induction ls generalizing blocks line with
  | nil => exact .nil
  | cons text rest ih =>
      rw [contents, List.pairwise_append]
      refine ⟨?_, ?_, ?_⟩
      · rw [lineContents]
        split <;> simp
      · split
        · exact ih _ _
        · exact .nil
      · intro l hl l' hl'
        rw [(mem_lineContents.1 hl).2]
        split at hl'
        · exact le_number_of_mem_contents hl'
        · cases hl'

end Blocks

/-! ## The content of the fragments -/

namespace Run

/-- The lines of the run are numbered without gaps and lie in front of a given line. -/
def IsCounted (run : Run) (line : Nat) : Prop :=
  run.next = run.line + run.reversed.length ∧ run.next ≤ line

/-- The lines of an extended run. -/
theorem lines_extend (run : Run) (line : Nat) (text : List Char) :
    (run.extend line text).toFragment.lines =
      run.toFragment.lines ++ (List.replicate (line - run.next) ['\n'] ++ [text]) := by
  simp [extend, toFragment]

/-- Behind the empty lines in between, the next line stands at its own place. -/
theorem IsCounted.place_eq {run : Run} {line : Nat} (h : run.IsCounted line) :
    run.line + run.toFragment.lines.length + (line - run.next) = line := by
  obtain ⟨hnext, hle⟩ := h
  rw [toFragment, List.length_reverse]
  omega

/-- An extended run has one visible line more, unless the line is blank. -/
theorem contents_extend {run : Run} {line : Nat} (h : run.IsCounted line) (text : List Char) :
    (run.extend line text).toFragment.contents =
      run.toFragment.contents ++
        if text.all Text.isBlank then [] else [{ number := line, text, condition := run.condition }]
    := by
  rw [Fragment.contents, lines_extend, GovernedLine.ofLines_append, GovernedLine.ofLines_append,
    GovernedLine.ofLines_replicate, GovernedLine.ofLines_singleton, List.nil_append,
    List.length_replicate]
  change GovernedLine.ofLines run.condition run.line _ ++
    (if _ then [] else [(⟨run.line + _ + _, _, run.condition⟩ : GovernedLine)]) = _
  rw [h.place_eq]
  rfl

/-- Extending a run keeps its lines counted. -/
theorem IsCounted.extend {run : Run} {line : Nat} (h : run.IsCounted line) (text : List Char) :
    (run.extend line text).IsCounted (line + 1) := by
  obtain ⟨hnext, hle⟩ := h
  refine ⟨?_, Nat.le_refl _⟩
  simp only [Run.extend, List.length_cons, List.length_append, List.length_replicate]
  omega

/-- Counted lines stay so as the reading goes on. -/
theorem IsCounted.succ {run : Run} {line : Nat} (h : run.IsCounted line) :
    run.IsCounted (line + 1) :=
  ⟨h.1, Nat.le_succ_of_le h.2⟩

end Run

namespace Splitter

variable {s s' : Splitter} {line : Nat} {text : List Char}

/-- The lines of the open runs are counted at every line. -/
theorem Move.isCounted (h : Move s line text s') (hs : ∀ run ∈ s.runs, run.IsCounted line) :
    ∀ run ∈ s'.runs, run.IsCounted (line + 1) := by
  intro run hrun
  rcases h.mem_runs hrun with hold | ⟨old, hold, rfl⟩ | ⟨-, rfl⟩
  · exact (hs run hold).succ
  · exact (hs old hold).extend text
  · exact ⟨rfl, Nat.le_refl _⟩

/-- What a move adds to the content of the fragments is what the line adds. -/
theorem Move.contents_perm (h : Move s line text s') (hs : ∀ run ∈ s.runs, run.IsCounted line) :
    (s'.pieces.flatMap Fragment.contents).Perm
      (s.pieces.flatMap Fragment.contents ++ s.blocks.lineContents line text) := by
  -- kept and ended runs together are all runs, which settles how often each line occurs
  have hsplit := (s.kept_append_ended_perm.map Run.toFragment).flatMap_right Fragment.contents
  simp only [List.perm_iff_count, pieces, List.map_append, List.flatMap_append, List.count_append]
    at hsplit ⊢
  cases h with
  | directive hcontent => simp [Blocks.lineContents, hcontent]
  | skip hcontent => simp [Blocks.lineContents, hcontent]
  | @pad front back run hbody hblank hruns =>
      have hcontent : Fragment.isContent text = false := by simp [Fragment.isContent, hblank]
      have hextend := Run.contents_extend (hs run (by rw [hruns]; simp)) text
      rw [if_pos hblank, List.append_nil] at hextend
      simp [Blocks.lineContents, hcontent, hruns, hextend]
  | @join front back run hcontent hkept hcond =>
      have hrun : run ∈ s.runs := mem_runs_of_mem_kept (by rw [hkept]; simp)
      have hextend := Run.contents_extend (hs run hrun) text
      rw [Fragment.not_all_isBlank_of_isContent hcontent, if_neg Bool.false_ne_true] at hextend
      intro l
      specialize hsplit l
      simp only [hkept, hextend, hcond, Blocks.lineContents, hcontent, if_true, List.map_append,
        List.map_cons, List.flatMap_append, List.flatMap_cons, List.count_append] at hsplit ⊢
      omega
  | start hcontent =>
      intro l
      specialize hsplit l
      have hsingle : (Run.single s.blocks.condition s.blocks.length line text).toFragment.contents =
          s.blocks.lineContents line text := by
        change GovernedLine.ofLines s.blocks.condition line [text] = _
        rw [GovernedLine.ofLines_singleton, Fragment.not_all_isBlank_of_isContent hcontent,
          Blocks.lineContents, if_pos hcontent]
        rfl
      simp only [List.map_append, List.map_cons, List.map_nil, List.flatMap_append,
        List.flatMap_cons, List.flatMap_nil, List.append_nil, List.count_append, hsingle]
        at hsplit ⊢
      omega

/-- Reading lines adds their content to the fragments and nothing else. -/
theorem contents_perm_of_run {ls : List (List Char)} (h : s.run line ls = .ok s')
    (hs : ∀ run ∈ s.runs, run.IsCounted line) :
    (s'.pieces.flatMap Fragment.contents).Perm
      (s.pieces.flatMap Fragment.contents ++ s.blocks.contents line ls) := by
  -- the counts of the open runs are what the induction carries along
  induction ls generalizing s line with
  | nil =>
      cases h
      rw [Blocks.contents, List.append_nil]
  | cons text rest ih =>
      obtain ⟨next, hstep, hrest⟩ := step_of_run_cons h
      have hmove := move_of_step hstep
      rw [Blocks.contents, hmove.readLine, ← List.append_assoc]
      exact (ih hrest (hmove.isCounted hs)).trans ((hmove.contents_perm hs).append_right _)

end Splitter

end GlslPrelude
