import GlslPrelude.Proofs.Fragment.Contents
import Mathlib.Data.List.Nodup
import Mathlib.Data.List.Pairwise

/-!
# Where the lines of a text go

No line of a text is lost, doubled or moved when the text is split. Every fragment shows lines of
the text at their own places and empty lines in between, and each content line of the text is shown
by one fragment, whose condition is the one in effect at the line.
-/

namespace GlslPrelude

namespace Fragment

/-- `line` is the line of the fragment's text that stands at line `n` of the source. -/
def Shows (fragment : Fragment) (n : Nat) (line : List Char) : Prop :=
  (line, n) ∈ (Text.lines fragment.text).zipIdx fragment.line

instance (fragment : Fragment) (n : Nat) (line : List Char) : Decidable (fragment.Shows n line) :=
  inferInstanceAs (Decidable (_ ∈ _))

/-- The fragment begins with a visible line. -/
def StartsVisibly (fragment : Fragment) : Prop :=
  ∃ first rest, fragment.lines = first :: rest ∧ first.all Text.isBlank = false

/-- The first line of a fragment that begins with a visible line belongs to its content. -/
theorem StartsVisibly.exists_mem_contents {fragment : Fragment} (h : fragment.StartsVisibly) :
    ∃ l ∈ fragment.contents, l.number = fragment.line := by
  obtain ⟨first, rest, hlines, hfirst⟩ := h
  refine ⟨⟨fragment.line, first, fragment.condition⟩, ?_, rfl⟩
  rw [contents, GovernedLine.mem_ofLines, hlines]
  exact ⟨by simp, hfirst, rfl⟩

end Fragment

namespace Splitter

variable {s s' : Splitter} {line : Nat} {text : List Char}

/-- Every fragment begins with a visible line. -/
theorem Move.startsVisibly (h : Move s line text s') (hs : ∀ f ∈ s.pieces, f.StartsVisibly) :
    ∀ f ∈ s'.pieces, f.StartsVisibly := by
  intro f hf
  rcases h.mem_pieces hf with hold | ⟨old, hold, rfl⟩ | ⟨hcontent, rfl⟩
  · exact hs f hold
  · obtain ⟨first, rest, hlines, hfirst⟩ :=
      hs old.toFragment (List.mem_append_right _ (List.mem_map_of_mem hold))
    refine ⟨first, rest ++ (List.replicate (line - old.next) ['\n'] ++ [text]), ?_, hfirst⟩
    rw [Run.lines_extend, hlines, List.cons_append]
  · exact ⟨text, [], rfl, Fragment.not_all_isBlank_of_isContent hcontent⟩

/-- After a move, the last line read is the only one that can stand last in a fragment without the
others having been there before. -/
theorem Move.lines_eq_append (h : Move s line text s') {f : Fragment} (hf : f ∈ s'.pieces)
    (hs : ∀ f ∈ s.pieces, ∀ l ∈ f.lines, Text.IsEnded l) :
    (∀ l ∈ f.lines, Text.IsEnded l) ∨
      ∃ front, f.lines = front ++ [text] ∧ ∀ l ∈ front, Text.IsEnded l := by
  rcases h.mem_pieces hf with hold | ⟨old, hold, rfl⟩ | ⟨-, rfl⟩
  · exact .inl (hs f hold)
  · refine .inr ⟨old.toFragment.lines ++ List.replicate (line - old.next) ['\n'], ?_, ?_⟩
    · rw [Run.lines_extend, List.append_assoc]
    · intro l hl
      rcases List.mem_append.1 hl with hl | hl
      · exact hs _ (List.mem_append_right _ (List.mem_map_of_mem hold)) l hl
      · rw [List.eq_of_mem_replicate hl]
        exact Text.isEnded_newline
  · exact .inr ⟨[], rfl, by simp⟩

/-- The lines of every fragment are lines of a text. -/
theorem areLines_of_run {ls : List (List Char)} (hls : Text.AreLines ls)
    (h : s.run line ls = .ok s') (hs : ∀ f ∈ s.pieces, ∀ l ∈ f.lines, Text.IsEnded l) :
    ∀ f ∈ s'.pieces, Text.AreLines f.lines := by
  -- until the last line, all lines of the fragments are ended
  induction hls generalizing s line with
  | nil =>
      cases h
      intro f hf
      simpa using Text.AreLines.append (hs f hf) .nil
  | @last text hne hnot =>
      obtain ⟨next, hstep, hrest⟩ := step_of_run_cons h
      cases hrest
      intro f hf
      rcases (move_of_step hstep).lines_eq_append hf hs with hended | ⟨front, hlines, hended⟩
      · simpa using Text.AreLines.append hended .nil
      · rw [hlines]
        exact .append hended (.last hne hnot)
  | @ended text rest htext _ ih =>
      obtain ⟨next, hstep, hrest⟩ := step_of_run_cons h
      refine ih hrest fun f hf => ?_
      rcases (move_of_step hstep).lines_eq_append hf hs with hended | ⟨front, hlines, hended⟩
      · exact hended
      · rw [hlines, List.forall_mem_append]
        exact ⟨hended, by simpa using htext⟩

end Splitter

namespace Fragment

variable {text : List Char} {fragments : List Fragment}

/-- The fragments of a text, sorted, are those that the splitter has when all lines are read. -/
theorem perm_pieces_of_split (h : split text = .ok fragments) :
    ∃ s, Splitter.init.run 1 (Text.lines text) = .ok s ∧ fragments.Perm s.pieces := by
  obtain ⟨s, hrun, -, rfl⟩ := split_eq_ok_iff.1 h
  exact ⟨s, hrun, List.mergeSort_perm _ _⟩

/-- The fragments of a text stand in the order of their first lines. -/
theorem pairwise_line_le (h : split text = .ok fragments) :
    fragments.Pairwise (·.line ≤ ·.line) := by
  obtain ⟨s, -, -, rfl⟩ := split_eq_ok_iff.1 h
  have htrans : ∀ f g k : Fragment, decide (f.line ≤ g.line) = true →
      decide (g.line ≤ k.line) = true → decide (f.line ≤ k.line) = true := by
    intro f g k hfg hgk
    rw [decide_eq_true_eq] at hfg hgk ⊢
    exact Nat.le_trans hfg hgk
  have htotal : ∀ f g : Fragment,
      (decide (f.line ≤ g.line) || decide (g.line ≤ f.line)) = true := by
    intro f g
    simpa using Nat.le_total f.line g.line
  exact (List.pairwise_mergeSort htrans htotal _).imp of_decide_eq_true

/-- Splitting a text regroups its content: the visible lines of all fragments are the content lines
of the text. -/
theorem split_contents_perm (h : split text = .ok fragments) :
    (fragments.flatMap contents).Perm (Blocks.contents [] 1 (Text.lines text)) := by
  obtain ⟨s, hrun, hperm⟩ := perm_pieces_of_split h
  exact (hperm.flatMap_right contents).trans
    (Splitter.contents_perm_of_run hrun (by simp [Splitter.init]))

/-- The lines of a fragment are those of its text. -/
theorem lines_text_of_mem_split (h : split text = .ok fragments) {f : Fragment}
    (hf : f ∈ fragments) : Text.lines f.text = f.lines := by
  obtain ⟨s, hrun, hperm⟩ := perm_pieces_of_split h
  exact Text.lines_flatten (Splitter.areLines_of_run (Text.areLines_lines text) hrun
    (by simp [Splitter.init, Splitter.pieces]) f (hperm.mem_iff.1 hf))

/-- Every fragment of a text begins with a visible line. -/
theorem startsVisibly_of_mem_split (h : split text = .ok fragments) {f : Fragment}
    (hf : f ∈ fragments) : f.StartsVisibly := by
  obtain ⟨s, hrun, hperm⟩ := perm_pieces_of_split h
  have hall := Splitter.run_induction (P := fun _ s => ∀ f ∈ s.pieces, f.StartsVisibly)
    (fun _ _ _ _ _ hmove => hmove.startsVisibly) hrun (by simp [Splitter.init, Splitter.pieces])
  exact hall f (hperm.mem_iff.1 hf)

/-- The content of a fragment is what it shows beside blank lines. -/
theorem mem_contents_iff (h : split text = .ok fragments) {f : Fragment} (hf : f ∈ fragments)
    {l : GovernedLine} :
    l ∈ f.contents ↔
      f.Shows l.number l.text ∧ l.text.all Text.isBlank = false ∧ l.condition = f.condition := by
  rw [Shows, lines_text_of_mem_split h hf, contents, GovernedLine.mem_ofLines]

/-- The content of a text consists of its content lines, each under the condition in effect there.
-/
theorem mem_contents_lines_iff (h : split text = .ok fragments) {l : GovernedLine} :
    l ∈ Blocks.contents [] 1 (Text.lines text) ↔
      Text.IsLine text l.number l.text ∧ isContent l.text = true ∧
        conditionAt text l.number = .ok l.condition := by
  rw [Blocks.mem_contents (readLines_of_split h), Text.IsLine, Text.mem_zipIdx_iff_exists_append]
  constructor
  · rintro ⟨front, back, between, hsplit, hnumber, hcontent, hfront, hcond⟩
    refine ⟨⟨front, back, hsplit, hnumber⟩, hcontent, ?_⟩
    rw [conditionAt, hnumber, Nat.add_comm, blocksAt_eq hsplit, hfront, hcond]
    rfl
  · rintro ⟨⟨front, back, hsplit, hnumber⟩, hcontent, hcond⟩
    rw [conditionAt, hnumber, Nat.add_comm, blocksAt_eq hsplit] at hcond
    cases hfront : Blocks.readLines [] 1 front with
    | error e => rw [hfront] at hcond; cases hcond
    | ok between =>
        rw [hfront] at hcond
        exact ⟨front, back, between, hsplit, hnumber, hcontent, hfront, (Except.ok.inj hcond).symm⟩

/-- What fragments show beside blank lines are the content lines of the text under their conditions.
-/
theorem exists_shows_iff (h : split text = .ok fragments) {l : GovernedLine} :
    (∃ f ∈ fragments, f.Shows l.number l.text ∧ l.text.all Text.isBlank = false ∧
        l.condition = f.condition) ↔
      Text.IsLine text l.number l.text ∧ isContent l.text = true ∧
        conditionAt text l.number = .ok l.condition := by
  rw [← mem_contents_lines_iff h, ← (split_contents_perm h).mem_iff, List.mem_flatMap]
  exact exists_congr fun f => and_congr_right fun hf => (mem_contents_iff h hf).symm

/-- A visible line that a fragment shows stands under the condition of the fragment. -/
theorem conditionAt_of_shows (h : split text = .ok fragments) {f : Fragment} (hf : f ∈ fragments)
    {n : Nat} {line : List Char} (hshows : f.Shows n line)
    (hvisible : line.all Text.isBlank = false) : conditionAt text n = .ok f.condition :=
  ((exists_shows_iff h (l := ⟨n, line, f.condition⟩)).1 ⟨f, hf, hshows, hvisible, rfl⟩).2.2

/-- Different fragments have no line number of their contents in common. -/
theorem pairwise_contents (h : split text = .ok fragments) :
    fragments.Pairwise fun f g =>
      ∀ l ∈ f.contents, ∀ l' ∈ g.contents, l.number ≠ l'.number := by
  -- no number occurs twice among the content lines of the text
  have hnodup : (fragments.flatMap contents).Pairwise (fun l l' => l.number ≠ l'.number) :=
    ((split_contents_perm h).pairwise_iff fun hne => hne.symm).2
      ((Blocks.pairwise_contents _ _ _).imp Nat.ne_of_lt)
  exact (List.pairwise_flatMap.1 hnodup).2

/-- Fragments that show a visible line at the same place are the same. -/
theorem eq_of_shows (h : split text = .ok fragments) {f g : Fragment} (hf : f ∈ fragments)
    (hg : g ∈ fragments) {n : Nat} {line line' : List Char} (hline : f.Shows n line)
    (hline' : g.Shows n line') (hvisible : line.all Text.isBlank = false)
    (hvisible' : line'.all Text.isBlank = false) : f = g := by
  have hmem := (mem_contents_iff h hf (l := ⟨n, line, f.condition⟩)).2 ⟨hline, hvisible, rfl⟩
  have hmem' := (mem_contents_iff h hg (l := ⟨n, line', g.condition⟩)).2 ⟨hline', hvisible', rfl⟩
  have : Std.Symm fun f g : Fragment =>
      ∀ l ∈ f.contents, ∀ l' ∈ g.contents, l.number ≠ l'.number :=
    ⟨fun f g hfg l hl l' hl' heq => hfg l' hl' l hl heq.symm⟩
  by_contra hne
  exact (pairwise_contents h).forall hf hg hne _ hmem _ hmem' rfl

/-- The first lines of the fragments ascend. -/
theorem pairwise_line_lt (h : split text = .ok fragments) :
    fragments.Pairwise (·.line < ·.line) := by
  -- each fragment begins with content, and different fragments share no content line
  refine ((pairwise_line_le h).and (pairwise_contents h)).imp_of_mem fun {f g} hf hg hfg => ?_
  obtain ⟨l, hl, hline⟩ := (startsVisibly_of_mem_split h hf).exists_mem_contents
  obtain ⟨l', hl', hline'⟩ := (startsVisibly_of_mem_split h hg).exists_mem_contents
  refine Nat.lt_of_le_of_ne hfg.1 ?_
  rw [← hline, ← hline']
  exact hfg.2 l hl l' hl'

/-- Fragments with ascending first lines are those of a text if they are what the splitter has when
all lines are read, in whatever order. -/
theorem split_eq_of_perm_pieces {s : Splitter}
    (hrun : Splitter.init.run 1 (Text.lines text) = .ok s) (hblocks : s.blocks = [])
    (hperm : fragments.Perm s.pieces) (hlines : fragments.Pairwise (·.line < ·.line)) :
    split text = .ok fragments := by
  have hsplit : split text = .ok s.fragments := split_eq_ok_iff.2 ⟨s, hrun, hblocks, rfl⟩
  have hsorted : s.fragments.Perm fragments := (List.mergeSort_perm _ _).trans hperm.symm
  -- the sorted fragments begin at different lines too, so there is one order for them
  have hunique : s.fragments = fragments := by
    refine hsorted.eq_of_pairwise ?_ (pairwise_line_lt hsplit) hlines
    intro f g _ _ hfg hgf
    exact absurd hfg (Nat.lt_asymm hgf)
  rw [hsplit, hunique]

/-- Fragments with the same first line are the same. -/
theorem eq_of_line_eq (h : split text = .ok fragments) {f g : Fragment} (hf : f ∈ fragments)
    (hg : g ∈ fragments) (hline : f.line = g.line) : f = g := by
  have hnodup : (fragments.map (·.line)).Nodup :=
    List.pairwise_map.2 ((pairwise_line_lt h).imp Nat.ne_of_lt)
  exact List.inj_on_of_nodup_map hnodup hf hg hline

/-- No line is lost, doubled or moved: the fragments of a text ascend by their first lines; each
content line is shown at its own place by exactly one fragment, which has the condition in effect at
the line; and all other lines of the fragments are blank. -/
theorem split_places_lines (h : split text = .ok fragments) :
    fragments.Pairwise (·.line < ·.line) ∧
      (∀ n line, Text.IsLine text n line → isContent line = true →
        (∃! f, f ∈ fragments ∧ f.Shows n line) ∧
          ∀ f ∈ fragments, f.Shows n line → conditionAt text n = .ok f.condition) ∧
      ∀ f ∈ fragments, ∀ n line, f.Shows n line →
        (Text.IsLine text n line ∧ isContent line = true) ∨ line.all Text.isBlank = true := by
  refine ⟨pairwise_line_lt h, ?_, ?_⟩
  · intro n line hline hcontent
    have hvisible := not_all_isBlank_of_isContent hcontent
    obtain ⟨blocks, hblocks⟩ := exists_blocksAt h n
    have hp : conditionAt text n = .ok blocks.condition := by
      rw [conditionAt, hblocks]
      rfl
    obtain ⟨f, hf, hshows, -, hcond⟩ :=
      (exists_shows_iff h (l := ⟨n, line, blocks.condition⟩)).2 ⟨hline, hcontent, hp⟩
    have hunique : ∀ g ∈ fragments, g.Shows n line → g = f := fun g hg hg' =>
      eq_of_shows h hg hf hg' hshows hvisible hvisible
    refine ⟨⟨f, ⟨hf, hshows⟩, fun g hg => hunique g hg.1 hg.2⟩, fun g hg hg' => ?_⟩
    rw [hunique g hg hg', ← hcond]
    exact hp
  · intro f hf n line hshows
    cases hvisible : line.all Text.isBlank with
    | true => exact .inr rfl
    | false =>
        have hline := (exists_shows_iff h (l := ⟨n, line, f.condition⟩)).1
          ⟨f, hf, hshows, hvisible, rfl⟩
        exact .inl ⟨hline.1, hline.2.1⟩

/-- The lines of a text with a block of two branches, in their fragments. -/
theorem split_places_lines_of_branches :
    ∃ fragments, split "a\n#if 0\nb\n#else\n\tc\n#endif\n\nd".toList = .ok fragments ∧
      fragments.map (·.line) = [1, 3, 5] ∧
      (∃! f, f ∈ fragments ∧ f.Shows 5 "\tc\n".toList) ∧
      ∀ f ∈ fragments, ∀ n line, f.Shows n line →
        (Text.IsLine "a\n#if 0\nb\n#else\n\tc\n#endif\n\nd".toList n line ∧
          isContent line = true) ∨ line.all Text.isBlank = true := by
  have hsplit : split "a\n#if 0\nb\n#else\n\tc\n#endif\n\nd".toList = .ok [
      { condition := .always, line := 1,
        lines := [['a', '\n'], ['\n'], ['\n'], ['\n'], ['\n'], ['\n'], ['\n'], ['d']] },
      { condition := .never, line := 3, lines := [['b', '\n']] },
      { condition := Condition.never.negate, line := 5, lines := [['\t', 'c', '\n']] }] :=
    split_eq_of_perm_pieces (by with_unfolding_all exact rfl) (by rfl)
      (by with_unfolding_all decide) (by decide)
  obtain ⟨-, hplaces, hblank⟩ := split_places_lines hsplit
  exact ⟨_, hsplit, rfl, (hplaces 5 "\tc\n".toList (by decide) (by decide)).1, hblank⟩

end Fragment

end GlslPrelude
