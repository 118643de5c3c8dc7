import GlslPrelude.Proofs.Fragment.Placement
import Mathlib.Data.List.Induction

/-!
# The lines that a fragment shows

A fragment fills the lines between its own ones with empty lines. Every other line that it shows,
blank or not, is the line of the source with that number, and the condition of the fragment is in
effect there (`isLine_of_shows`).
-/

namespace GlslPrelude

/-- One of some lines that are read from the first one on, with its number: it is no directive, and
the condition is in effect there. -/
def Blocks.Governs (ls : List (List Char)) (condition : Condition) (line : List Char) (n : Nat) :
    Prop :=
  ∃ front back blocks, ls = front ++ line :: back ∧ n = front.length + 1 ∧
    Directive.body? line = none ∧ Blocks.readLines [] 1 front = .ok blocks ∧
    blocks.condition = condition

/-- Lines that are read later take nothing away. -/
theorem Blocks.Governs.append {ls : List (List Char)} {condition : Condition} {line : List Char}
    {n : Nat} (h : Governs ls condition line n) (more : List (List Char)) :
    Governs (ls ++ more) condition line n := by
  obtain ⟨front, back, blocks, rfl, hn, hbody, hread, hcond⟩ := h
  exact ⟨front, back ++ more, blocks, by simp, hn, hbody, hread, hcond⟩

namespace Fragment

/-- Each line of the fragment is empty or, with its number, one of some lines that are read, and the
fragment has the condition in effect there. -/
def IsFaithful (ls : List (List Char)) (fragment : Fragment) : Prop :=
  ∀ line n, (line, n) ∈ fragment.lines.zipIdx fragment.line →
    line = ['\n'] ∨ Blocks.Governs ls fragment.condition line n

/-- Lines that are read later change nothing in a fragment that is finished. -/
theorem IsFaithful.append {ls : List (List Char)} {fragment : Fragment} (h : fragment.IsFaithful ls)
    (more : List (List Char)) : fragment.IsFaithful (ls ++ more) := by
  intro line n hmem
  rcases h line n hmem with hempty | hgoverns
  · exact .inl hempty
  · exact .inr (hgoverns.append more)

end Fragment

namespace Run

variable {ls : List (List Char)} {text : List Char} {line : Nat}

/-- A run that begins with a line is faithful. -/
theorem isFaithful_single {condition : Condition} (depth : Nat)
    (h : Blocks.Governs ls condition text line) :
    (Run.single condition depth line text).toFragment.IsFaithful ls := by
  intro l n hmem
  obtain ⟨rfl, rfl⟩ : l = text ∧ n = line := by
    simpa [Run.single, Run.toFragment] using hmem
  exact .inr h

/-- A run that takes a line stays faithful, because the lines in between are left empty. -/
theorem isFaithful_extend {run : Run} (h : run.toFragment.IsFaithful ls) (hrun : run.IsCounted line)
    (htext : Blocks.Governs ls run.condition text line) :
    (run.extend line text).toFragment.IsFaithful ls := by
  intro l n hmem
  rw [Run.lines_extend, List.zipIdx_append, List.zipIdx_append, List.mem_append, List.mem_append]
    at hmem
  rcases hmem with hmem | hmem | hmem
  · exact h l n hmem
  · exact .inl (List.eq_of_mem_replicate (List.fst_mem_of_mem_zipIdx hmem))
  · rw [List.zipIdx_singleton, List.mem_singleton, Prod.mk.injEq, List.length_replicate] at hmem
    obtain ⟨rfl, rfl⟩ := hmem
    change _ ∨ Blocks.Governs ls run.condition _
      (run.line + run.toFragment.lines.length + (line - run.next))
    rw [hrun.place_eq]
    exact .inr htext

end Run

namespace Splitter

variable {s s' : Splitter} {line : Nat} {text : List Char}

/-- A blank line changes no fragment but at most one run under the condition in effect. -/
theorem mem_pieces_addBlank {f : Fragment} (hf : f ∈ (s.addBlank line text).pieces) :
    f ∈ s.pieces ∨ ∃ old ∈ s.runs, old.condition = s.blocks.condition ∧
      f = (old.extend line text).toFragment := by
  rw [addBlank] at hf
  cases hupdate : Run.updateFirst? _ _ s.runs with
  | none =>
      rw [hupdate] at hf
      exact .inl hf
  | some runs =>
      rw [hupdate] at hf
      obtain ⟨front, run, back, hruns, hjoins, rfl⟩ := Run.exists_of_updateFirst?_eq_some hupdate
      rw [Bool.and_eq_true, decide_eq_true_eq, decide_eq_true_eq] at hjoins
      simp only [pieces, hruns, List.map_append, List.map_cons, List.mem_append, List.mem_cons]
        at hf ⊢
      grind

/-- A content line changes no finished fragment. It joins a run under the condition in effect, or
opens one. -/
theorem Move.mem_pieces_of_isContent (h : Move s line text s')
    (hcontent : Fragment.isContent text = true) {f : Fragment} (hf : f ∈ s'.pieces) :
    f ∈ s.pieces ∨
      (∃ old ∈ s.runs, old.condition = s.blocks.condition ∧
        f = (old.extend line text).toFragment) ∨
      f = (Run.single s.blocks.condition s.blocks.length line text).toFragment := by
  -- the runs that are kept or ended were open
  have hkept : ∀ run ∈ s.kept, run.toFragment ∈ s.pieces := fun run hrun =>
    List.mem_append_right _ (List.mem_map_of_mem (mem_runs_of_mem_kept hrun))
  have hclosed : f ∈ s.ended.map Run.toFragment ++ s.closed → f ∈ s.pieces := by
    intro hf
    rcases List.mem_append.1 hf with hf | hf
    · obtain ⟨run, hrun, rfl⟩ := List.mem_map.1 hf
      exact List.mem_append_right _ (List.mem_map_of_mem (List.mem_of_mem_filter hrun))
    · exact List.mem_append_left _ hf
  cases h with
  | directive hnot => rw [hcontent] at hnot; cases hnot
  | skip hnot => rw [hcontent] at hnot; cases hnot
  | pad _ hall =>
      rw [Fragment.not_all_isBlank_of_isContent hcontent] at hall
      cases hall
  | @join front back run _ hruns hcond =>
      rw [hruns] at hkept
      rcases List.mem_append.1 hf with hf | hf
      · exact .inl (hclosed hf)
      · obtain ⟨r, hr, rfl⟩ := List.mem_map.1 hf
        rcases List.mem_append.1 hr with hr | hr
        · exact .inl (hkept r (List.mem_append_left _ hr))
        · rcases List.mem_cons.1 hr with rfl | hr
          · have hold : run ∈ s.runs := mem_runs_of_mem_kept (by rw [hruns]; simp)
            exact .inr (.inl ⟨run, hold, hcond, rfl⟩)
          · exact .inl (hkept r (by simp [hr]))
  | start =>
      rcases List.mem_append.1 hf with hf | hf
      · exact .inl (hclosed hf)
      · obtain ⟨r, hr, rfl⟩ := List.mem_map.1 hf
        rcases List.mem_append.1 hr with hr | hr
        · exact .inl (hkept r hr)
        · exact .inr (.inr (congrArg Run.toFragment (List.mem_singleton.1 hr)))

/-- A step changes no finished fragment. It adds a line that is no directive to a run under the
condition in effect, or opens a run under that condition. -/
theorem mem_pieces_of_step (h : s.step line text = .ok s') {f : Fragment} (hf : f ∈ s'.pieces) :
    f ∈ s.pieces ∨ Directive.body? text = none ∧
      ((∃ old ∈ s.runs, old.condition = s.blocks.condition ∧
          f = (old.extend line text).toFragment) ∨
        f = (Run.single s.blocks.condition s.blocks.length line text).toFragment) := by
  cases hbody : Directive.body? text with
  | some body =>
      rw [step_of_body?_eq_some hbody] at h
      cases hread : s.blocks.readLine line text with
      | error fault => rw [hread] at h; cases h
      | ok blocks =>
          rw [hread] at h
          cases h
          exact .inl hf
  | none =>
      by_cases hblank : text.all Text.isBlank = true
      · rw [step_of_body?_eq_none hbody, if_pos hblank] at h
        cases h
        rcases mem_pieces_addBlank hf with hold | hjoined
        · exact .inl hold
        · exact .inr ⟨rfl, .inl hjoined⟩
      · have hcontent : Fragment.isContent text = true := by
          simpa [Fragment.isContent, hbody] using hblank
        rcases (move_of_step h).mem_pieces_of_isContent hcontent hf with hold | hnew
        · exact .inl hold
        · exact .inr ⟨rfl, hnew⟩

/-- The fragments show the lines that were read. -/
theorem isFaithful_of_run {ls : List (List Char)} (h : init.run 1 ls = .ok s) :
    ∀ f ∈ s.pieces, f.IsFaithful ls := by
  induction ls using List.reverseRecOn generalizing s with
  | nil =>
      cases h
      simp [init, pieces]
  | append_singleton ls text ih =>
      obtain ⟨before, hfront, hlast⟩ := run_of_append h
      obtain ⟨next, hstep, hnext⟩ := step_of_run_cons hlast
      cases hnext
      have hcounted : ∀ run ∈ before.runs, run.IsCounted (1 + ls.length) :=
        run_induction (P := fun line s => ∀ run ∈ s.runs, run.IsCounted line)
          (fun _ _ _ _ _ hmove hs => hmove.isCounted hs) hfront (by simp [init])
      -- the line that was read last, under the condition in effect there
      have hlast : Directive.body? text = none →
          Blocks.Governs (ls ++ [text]) before.blocks.condition text (1 + ls.length) :=
        fun hbody => ⟨ls, [], before.blocks, rfl, Nat.add_comm .., hbody,
          readLines_of_run hfront, rfl⟩
      intro f hf
      rcases mem_pieces_of_step hstep hf with hold | ⟨hbody, ⟨old, hold, hcond, rfl⟩ | rfl⟩
      · exact (ih hfront f hold).append [text]
      · have hfaithful := ih hfront old.toFragment
          (List.mem_append_right _ (List.mem_map_of_mem hold))
        exact Run.isFaithful_extend (hfaithful.append [text]) (hcounted old hold)
          (hcond ▸ hlast hbody)
      · exact Run.isFaithful_single _ (hlast hbody)

end Splitter

namespace Fragment

variable {text : List Char} {fragments : List Fragment}

/-- A line that a fragment shows is empty or the line of the source with its number, which is no
directive and stands under the condition of the fragment. -/
theorem isLine_of_shows (h : split text = .ok fragments) {f : Fragment} (hf : f ∈ fragments)
    {n : Nat} {line : List Char} (hshows : f.Shows n line) (hne : line ≠ ['\n']) :
    Text.IsLine text n line ∧ Directive.body? line = none ∧
      conditionAt text n = .ok f.condition := by
  obtain ⟨s, hrun, hperm⟩ := perm_pieces_of_split h
  rw [Shows, lines_text_of_mem_split h hf] at hshows
  obtain ⟨front, back, blocks, hlines, rfl, hbody, hread, hcond⟩ :=
    (Splitter.isFaithful_of_run hrun f (hperm.mem_iff.1 hf) line n hshows).resolve_left hne
  refine ⟨?_, hbody, ?_⟩
  · rw [Text.IsLine, Text.mem_zipIdx_iff_exists_append]
    exact ⟨front, back, hlines, Nat.add_comm _ _⟩
  · rw [conditionAt, blocksAt_eq hlines, hread, ← hcond]
    rfl

end Fragment

end GlslPrelude
