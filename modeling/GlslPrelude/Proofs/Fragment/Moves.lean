import GlslPrelude.Proofs.Fragment.Blocks
import Mathlib.Data.List.Perm.Basic

/-!
# What reading a line does

`Splitter.Move` lists what one line can do to the state of the splitter, so that an invariant of the
runs is one case analysis over five moves and never unfolds the splitter again. `move_of_step` says
that every step is such a move, and `run_induction` carries an invariant along all lines.
-/

namespace GlslPrelude

namespace Run

variable {p : Run → Bool} {f : Run → Run} {runs runs' : List Run}

/-- Without a run that passes the test there is nothing to update. -/
theorem updateFirst?_eq_none_iff : updateFirst? p f runs = none ↔ ∀ run ∈ runs, p run = false := by
  induction runs with
  | nil => simp [updateFirst?]
  | cons run runs ih =>
      rw [updateFirst?, List.forall_mem_cons, ← ih]
      cases p run <;> simp

/-- The updated run passes the test and its neighbours stay. -/
theorem exists_of_updateFirst?_eq_some (h : updateFirst? p f runs = some runs') :
    ∃ front run back, runs = front ++ run :: back ∧ p run = true ∧
      runs' = front ++ f run :: back := by
  induction runs generalizing runs' with
  | nil => cases h
  | cons run runs ih =>
      rw [updateFirst?] at h
      by_cases hp : p run = true
      · rw [if_pos hp] at h
        exact ⟨[], run, runs, rfl, hp, (Option.some.inj h).symm⟩
      · rw [if_neg hp] at h
        obtain ⟨rest, hrest, rfl⟩ := Option.map_eq_some_iff.1 h
        obtain ⟨front, r, back, rfl, hr, rfl⟩ := ih hrest
        exact ⟨run :: front, r, back, rfl, hr, rfl⟩

end Run

namespace Splitter

/-- The runs that stay open at a line of text. -/
def kept (s : Splitter) : List Run :=
  s.runs.filter (Run.encloses s.blocks s.blocks.condition)

/-- The runs that a line of text closes. -/
def ended (s : Splitter) : List Run :=
  s.runs.filter fun run => !Run.encloses s.blocks s.blocks.condition run

/-- All the fragments so far, those that still take lines included. -/
def pieces (s : Splitter) : List Fragment :=
  s.closed ++ s.runs.map Run.toFragment

/-- What reading one line does to the state of a splitter. -/
inductive Move (s : Splitter) (line : Nat) (text : List Char) : Splitter → Prop
  /-- A directive changes the open blocks and no run. -/
  | directive {blocks : Blocks} : Fragment.isContent text = false →
      s.blocks.readLine line text = .ok blocks → Move s line text { s with blocks }
  /-- A blank line is left out. -/
  | skip : Fragment.isContent text = false → Directive.body? text = none → Move s line text s
  /-- A blank line joins the run right in front of it. -/
  | pad {front back : List Run} {run : Run} : Directive.body? text = none →
      text.all Text.isBlank = true → s.runs = front ++ run :: back → run.next = line →
      Move s line text { s with runs := front ++ run.extend line text :: back }
  /-- A line of text joins the run under its condition. -/
  | join {front back : List Run} {run : Run} : Fragment.isContent text = true →
      s.kept = front ++ run :: back → run.condition = s.blocks.condition →
      Move s line text
        { s with
          runs := front ++ run.extend line text :: back
          closed := s.ended.map Run.toFragment ++ s.closed }
  /-- A line of text opens a run. -/
  | start : Fragment.isContent text = true →
      (∀ run ∈ s.kept, run.condition ≠ s.blocks.condition) →
      Move s line text
        { s with
          runs := s.kept ++ [Run.single s.blocks.condition s.blocks.length line text]
          closed := s.ended.map Run.toFragment ++ s.closed }

variable {s s' : Splitter} {line : Nat} {text : List Char}

/-- A directive is no content. -/
theorem isContent_of_body?_eq_some {body : List Char} (h : Directive.body? text = some body) :
    Fragment.isContent text = false := by
  simp [Fragment.isContent, h]

/-- A blank line moves the splitter. -/
theorem move_addBlank (hbody : Directive.body? text = none)
    (hblank : text.all Text.isBlank = true) : Move s line text (s.addBlank line text) := by
  have hcontent : Fragment.isContent text = false := by simp [Fragment.isContent, hblank]
  rw [addBlank]
  cases hupdate : Run.updateFirst? _ _ s.runs with
  | none => exact .skip hcontent hbody
  | some runs =>
      obtain ⟨front, run, back, hruns, hjoins, rfl⟩ := Run.exists_of_updateFirst?_eq_some hupdate
      rw [Bool.and_eq_true, decide_eq_true_eq] at hjoins
      exact .pad hbody hblank hruns hjoins.1

/-- A line of text moves the splitter. -/
theorem move_addText (hcontent : Fragment.isContent text = true) :
    Move s line text (s.addText line text) := by
  have hsplit : s.runs.partition (Run.encloses s.blocks s.blocks.condition) =
      (s.kept, s.ended) := by
    rw [List.partition_eq_filter_filter]
    rfl
  rw [addText]
  simp only [hsplit]
  cases hupdate : Run.updateFirst? _ _ s.kept with
  | none =>
      refine .start hcontent fun run hrun => ?_
      simpa using Run.updateFirst?_eq_none_iff.1 hupdate run hrun
  | some runs =>
      obtain ⟨front, run, back, hkept, hjoins, rfl⟩ := Run.exists_of_updateFirst?_eq_some hupdate
      exact .join hcontent hkept (by simpa using hjoins)

/-- Every step is a move. -/
theorem move_of_step (h : s.step line text = .ok s') : Move s line text s' := by
  cases hbody : Directive.body? text with
  | some body =>
      rw [step_of_body?_eq_some hbody] at h
      cases hblocks : s.blocks.readLine line text with
      | error fault => rw [hblocks] at h; cases h
      | ok blocks =>
          rw [hblocks] at h
          cases h
          exact .directive (isContent_of_body?_eq_some hbody) hblocks
  | none =>
      rw [step_of_body?_eq_none hbody] at h
      cases h
      by_cases hblank : text.all Text.isBlank = true
      · rw [if_pos hblank]
        exact move_addBlank hbody hblank
      · rw [if_neg hblank]
        exact move_addText (by simpa [Fragment.isContent, hbody] using hblank)

/-- A move changes the blocks as the line alone does. -/
theorem Move.readLine (h : Move s line text s') :
    s.blocks.readLine line text = .ok s'.blocks := by
  cases h with
  | directive _ hread => exact hread
  | skip _ hbody => exact Blocks.readLine_of_body?_eq_none hbody
  | pad hbody => exact Blocks.readLine_of_body?_eq_none hbody
  | join hcontent =>
      exact Blocks.readLine_of_body?_eq_none (Fragment.body?_eq_none_of_isContent hcontent)
  | start hcontent =>
      exact Blocks.readLine_of_body?_eq_none (Fragment.body?_eq_none_of_isContent hcontent)

/-- A line of text splits the runs into those kept and those ended. -/
theorem kept_append_ended_perm (s : Splitter) : (s.kept ++ s.ended).Perm s.runs :=
  List.filter_append_perm _ _

/-- A kept run was open. -/
theorem mem_runs_of_mem_kept {run : Run} (h : run ∈ s.kept) : run ∈ s.runs :=
  List.mem_of_mem_filter h

/-- What a move makes of the runs: each one was there before, or takes the line, or opens with it.
-/
theorem Move.mem_runs (h : Move s line text s') {run : Run} (hrun : run ∈ s'.runs) :
    run ∈ s.runs ∨ (∃ old ∈ s.runs, run = old.extend line text) ∨
      Fragment.isContent text = true ∧
        run = Run.single s.blocks.condition s.blocks.length line text := by
  cases h with
  | directive => exact .inl hrun
  | skip => exact .inl hrun
  | @pad front back old _ _ hruns =>
      rw [hruns]
      simp only [List.mem_append, List.mem_cons] at hrun ⊢
      grind
  | @join front back old _ hkept =>
      have hall : ∀ r ∈ front ++ old :: back, r ∈ s.runs := fun r hr =>
        mem_runs_of_mem_kept (hkept ▸ hr)
      simp only [List.mem_append, List.mem_cons] at hrun hall
      grind
  | start hcontent =>
      rw [List.mem_append, List.mem_singleton] at hrun
      rcases hrun with hrun | rfl
      · exact .inl (mem_runs_of_mem_kept hrun)
      · exact .inr (.inr ⟨hcontent, rfl⟩)

/-- What a move makes of the fragments: each one was there before, or is a run that takes the line,
or one that opens with it. -/
theorem Move.mem_pieces (h : Move s line text s') {f : Fragment} (hf : f ∈ s'.pieces) :
    f ∈ s.pieces ∨ (∃ old ∈ s.runs, f = (old.extend line text).toFragment) ∨
      Fragment.isContent text = true ∧
        f = (Run.single s.blocks.condition s.blocks.length line text).toFragment := by
  -- a fragment that is finished now was finished before or was an open run
  have hclosed : f ∈ s'.closed → f ∈ s.pieces := by
    have hended : ∀ g ∈ s.ended.map Run.toFragment ++ s.closed, g ∈ s.pieces := by
      intro g hg
      rw [pieces, List.mem_append, List.mem_map]
      rcases List.mem_append.1 hg with hg | hg
      · obtain ⟨run, hrun, rfl⟩ := List.mem_map.1 hg
        exact .inr ⟨run, List.mem_of_mem_filter hrun, rfl⟩
      · exact .inl hg
    intro hf
    cases h with
    | join => exact hended f hf
    | start => exact hended f hf
    | _ => exact List.mem_append_left _ hf
  rcases List.mem_append.1 hf with hf | hf
  · exact .inl (hclosed hf)
  · obtain ⟨run, hrun, rfl⟩ := List.mem_map.1 hf
    rcases h.mem_runs hrun with hold | ⟨old, hold, rfl⟩ | ⟨hcontent, rfl⟩
    · exact .inl (List.mem_append_right _ (List.mem_map_of_mem hold))
    · exact .inr (.inl ⟨old, hold, rfl⟩)
    · exact .inr (.inr ⟨hcontent, rfl⟩)

/-- What every move carries from one line to the next holds behind all lines. -/
theorem run_induction {P : Nat → Splitter → Prop} {ls : List (List Char)}
    (hmove : ∀ line text s s', text ∈ ls → Move s line text s' → P line s → P (line + 1) s')
    (h : s.run line ls = .ok s') (hs : P line s) : P (line + ls.length) s' := by
  induction ls generalizing s line with
  | nil => cases h; exact hs
  | cons text rest ih =>
      obtain ⟨next, hstep, hrest⟩ := step_of_run_cons h
      have hnext := hmove line text s next (by simp) (move_of_step hstep) hs
      rw [List.length_cons, Nat.add_comm rest.length, ← Nat.add_assoc]
      exact ih (fun l t u u' ht => hmove l t u u' (by simp [ht])) hrest hnext

end Splitter

end GlslPrelude
