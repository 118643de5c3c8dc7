import GlslPrelude.Proofs.Fragment.Placement

/-!
# The life of a run

A run keeps the head that it was opened with: its first line, the number of blocks around that line,
and its condition. Which heads are open behind a line depends only on those open at the line and on
the blocks (`Move.mem_heads_iff`), so a head that is open at some line is open at a later one
exactly when it spans all content lines from there on (`mem_heads_iff`).
-/

namespace GlslPrelude

namespace Run

/-- What never changes about a run. -/
structure Head where
  /-- Number of the first line. -/
  line : Nat
  /-- Number of blocks that were open at the first line. -/
  depth : Nat
  /-- Condition of the lines. -/
  condition : Condition
deriving DecidableEq

/-- Whether a run with this head stays open at a line of text inside the given blocks. -/
def Head.spans (head : Head) (blocks : Blocks) : Bool :=
  head.condition = blocks.condition ||
    (head.depth < blocks.length && blocks.contexts[head.depth]? = some head.condition)

/-- The head of a run. -/
def head (run : Run) : Head :=
  { line := run.line, depth := run.depth, condition := run.condition }

end Run

namespace Splitter

/-- The heads of the open runs. -/
def heads (s : Splitter) : List Run.Head :=
  s.runs.map Run.head

/-- The head of the run that a line opens. -/
def newHead (s : Splitter) (line : Nat) : Run.Head :=
  { line, depth := s.blocks.length, condition := s.blocks.condition }

variable {s s' : Splitter} {line : Nat} {text : List Char}

/-- The heads of the runs that stay open at a line of text. -/
theorem map_head_kept (s : Splitter) :
    s.kept.map Run.head = s.heads.filter (·.spans s.blocks) := by
  rw [heads, List.filter_map]
  rfl

/-- Only lines of text change which heads are open. -/
theorem Move.heads_of_not_isContent (h : Move s line text s')
    (hnot : Fragment.isContent text = false) : s'.heads = s.heads := by
  cases h with
  | directive => rfl
  | skip => rfl
  | pad _ _ hruns =>
      rw [heads, heads, hruns, List.map_append, List.map_append]
      rfl
  | join hcontent => rw [hnot] at hcontent; cases hcontent
  | start hcontent => rw [hnot] at hcontent; cases hcontent

/-- A line of text keeps the heads that span it, and opens a run if none of them has its
condition. -/
theorem Move.heads_of_isContent (h : Move s line text s')
    (hcontent : Fragment.isContent text = true) :
    (s'.heads = s.heads.filter (·.spans s.blocks) ∧
        ∃ head ∈ s'.heads, head.condition = s.blocks.condition) ∨
      s'.heads = s.heads.filter (·.spans s.blocks) ++ [s.newHead line] ∧
        ∀ head ∈ s.heads.filter (·.spans s.blocks), head.condition ≠ s.blocks.condition := by
  rw [← map_head_kept]
  cases h with
  | directive hnot => rw [hcontent] at hnot; cases hnot
  | skip hnot => rw [hcontent] at hnot; cases hnot
  | pad _ hblank =>
      rw [Fragment.not_all_isBlank_of_isContent hcontent] at hblank
      cases hblank
  | @join front back run _ hkept hcond =>
      refine .inl ⟨?_, run.head, ?_, hcond⟩
      · rw [heads, hkept, List.map_append, List.map_append]
        rfl
      · rw [heads, List.map_append]
        exact List.mem_append_right _ List.mem_cons_self
  | start _ hne =>
      refine .inr ⟨?_, ?_⟩
      · rw [heads, List.map_append]
        rfl
      · rw [List.forall_mem_map]
        exact hne

/-- Open runs have ascending first lines in front of a given line, and different conditions. -/
structure Ordered (s : Splitter) (line : Nat) : Prop where
  /-- First lines ascend. -/
  lines : s.heads.Pairwise (·.line < ·.line)
  /-- Conditions differ. -/
  conditions : s.heads.Pairwise (·.condition ≠ ·.condition)
  /-- First lines stand in front of the line. -/
  lt : ∀ head ∈ s.heads, head.line < line

/-- Open runs stay ordered as the reading goes on. -/
theorem Ordered.succ (h : s.Ordered line) : s.Ordered (line + 1) :=
  ⟨h.lines, h.conditions, fun head hhead => Nat.lt_succ_of_lt (h.lt head hhead)⟩

/-- Open runs with the same first line have the same head. -/
theorem Ordered.eq_of_line_eq (h : s.Ordered line) {head head' : Run.Head} (hhead : head ∈ s.heads)
    (hhead' : head' ∈ s.heads) (heq : head.line = head'.line) : head = head' :=
  List.inj_on_of_nodup_map (List.pairwise_map.2 (h.lines.imp Nat.ne_of_lt)) hhead hhead' heq

/-- Open runs with the same condition have the same head. -/
theorem Ordered.eq_of_condition_eq (h : s.Ordered line) {head head' : Run.Head}
    (hhead : head ∈ s.heads) (hhead' : head' ∈ s.heads) (heq : head.condition = head'.condition) :
    head = head' :=
  List.inj_on_of_nodup_map (List.pairwise_map.2 h.conditions) hhead hhead' heq

/-- A move keeps the open runs ordered. -/
theorem Move.ordered (h : Move s line text s') (hs : s.Ordered line) : s'.Ordered (line + 1) := by
  cases hcontent : Fragment.isContent text with
  | false =>
      obtain ⟨hlines, hconditions, hlt⟩ := hs.succ
      rw [← h.heads_of_not_isContent hcontent] at hlines hconditions hlt
      exact ⟨hlines, hconditions, hlt⟩
  | true =>
      have hlines := hs.lines.filter (·.spans s.blocks)
      have hconditions := hs.conditions.filter (·.spans s.blocks)
      have hlt : ∀ head ∈ s.heads.filter (·.spans s.blocks), head.line < line :=
        fun head hhead => hs.lt head (List.mem_of_mem_filter hhead)
      rcases h.heads_of_isContent hcontent with ⟨heads_eq, -⟩ | ⟨heads_eq, hne⟩
      · -- the line joined one of the runs
        rw [← heads_eq] at hlines hconditions hlt
        exact ⟨hlines, hconditions, fun head hhead => Nat.lt_succ_of_lt (hlt head hhead)⟩
      · -- the line opened a run behind the others, none of which has its condition
        refine ⟨?_, ?_, ?_⟩ <;> rw [heads_eq]
        · rw [List.pairwise_append]
          exact ⟨hlines, List.pairwise_singleton _ _, by simpa [newHead] using hlt⟩
        · rw [List.pairwise_append]
          exact ⟨hconditions, List.pairwise_singleton _ _, by simpa [newHead] using hne⟩
        · rw [List.forall_mem_append]
          exact ⟨fun head hhead => Nat.lt_succ_of_lt (hlt head hhead), by simp [newHead]⟩

/-- A head that was open in front of a line of text is open behind it exactly when it spans the
line. -/
theorem Move.mem_heads_iff (h : Move s line text s') (hcontent : Fragment.isContent text = true)
    {head : Run.Head} (hlt : head.line < line) :
    head ∈ s'.heads ↔ head ∈ s.heads ∧ head.spans s.blocks = true := by
  rcases h.heads_of_isContent hcontent with ⟨heads_eq, -⟩ | ⟨heads_eq, -⟩
  · rw [heads_eq, List.mem_filter]
  · -- the head of the run that the line opened stands at the line itself
    rw [heads_eq, List.mem_append, List.mem_filter, List.mem_singleton, or_iff_left]
    rintro rfl
    exact Nat.lt_irrefl _ hlt

/-- The heads of the runs are old ones or the one that the line opens. -/
theorem Move.mem_heads (h : Move s line text s') {head : Run.Head} (hhead : head ∈ s'.heads) :
    head ∈ s.heads ∨ head = s.newHead line := by
  cases hcontent : Fragment.isContent text with
  | false => exact .inl (h.heads_of_not_isContent hcontent ▸ hhead)
  | true =>
      rcases h.heads_of_isContent hcontent with ⟨heads_eq, -⟩ | ⟨heads_eq, -⟩ <;>
        rw [heads_eq] at hhead
      · exact .inl (List.mem_of_mem_filter hhead)
      · rcases List.mem_append.1 hhead with hhead | hhead
        · exact .inl (List.mem_of_mem_filter hhead)
        · exact .inr (List.mem_singleton.1 hhead)

/-- A move takes no finished fragment away. -/
theorem Move.closed_subset (h : Move s line text s') : s.closed ⊆ s'.closed := by
  cases h with
  | join => exact List.subset_append_right _ _
  | start => exact List.subset_append_right _ _
  | _ => exact List.Subset.refl _

/-- An open run stays as it is, takes the line, or is finished. -/
theorem Move.toFragment_mem_pieces (h : Move s line text s') {run : Run} (hrun : run ∈ s.runs) :
    run.toFragment ∈ s'.pieces ∨ (run.extend line text).toFragment ∈ s'.pieces := by
  rw [pieces, List.mem_append, List.mem_append]
  -- at a line of text, the run is kept or finished
  have hkept : run ∈ s.kept ∨ run ∈ s.ended := by
    rw [← List.mem_append]
    exact s.kept_append_ended_perm.mem_iff.2 hrun
  cases h with
  | directive => exact .inl (.inr (List.mem_map_of_mem hrun))
  | skip => exact .inl (.inr (List.mem_map_of_mem hrun))
  | @pad front back old _ _ hruns =>
      rw [hruns, List.mem_append, List.mem_cons] at hrun
      simp only [List.map_append, List.map_cons, List.mem_append, List.mem_cons]
      rcases hrun with hrun | rfl | hrun
      · exact .inl (.inr (.inl (List.mem_map_of_mem hrun)))
      · exact .inr (.inr (.inr (.inl rfl)))
      · exact .inl (.inr (.inr (.inr (List.mem_map_of_mem hrun))))
  | @join front back old _ hsplit =>
      simp only [List.map_append, List.map_cons, List.mem_append, List.mem_cons]
      rcases hkept with hkept | hended
      · rw [hsplit, List.mem_append, List.mem_cons] at hkept
        rcases hkept with hrun | rfl | hrun
        · exact .inl (.inr (.inl (List.mem_map_of_mem hrun)))
        · exact .inr (.inr (.inr (.inl rfl)))
        · exact .inl (.inr (.inr (.inr (List.mem_map_of_mem hrun))))
      · exact .inl (.inl (.inl (List.mem_map_of_mem hended)))
  | start =>
      simp only [List.map_append, List.mem_append]
      rcases hkept with hkept | hended
      · exact .inl (.inr (.inl (List.mem_map_of_mem hkept)))
      · exact .inl (.inl (.inl (List.mem_map_of_mem hended)))

/-- A move only adds lines to fragments. -/
theorem Move.exists_prefix (h : Move s line text s') {f : Fragment} (hf : f ∈ s.pieces) :
    ∃ g ∈ s'.pieces, g.line = f.line ∧ f.lines <+: g.lines := by
  rcases List.mem_append.1 hf with hf | hf
  · exact ⟨f, List.mem_append_left _ (h.closed_subset hf), rfl, List.prefix_refl _⟩
  · obtain ⟨run, hrun, rfl⟩ := List.mem_map.1 hf
    rcases h.toFragment_mem_pieces hrun with hmem | hmem
    · exact ⟨_, hmem, rfl, List.prefix_refl _⟩
    · refine ⟨_, hmem, rfl, ?_⟩
      rw [Run.lines_extend]
      exact List.prefix_append _ _

/-- Behind a line of text there is an open run under the condition of the line whose content
includes the line. -/
theorem Move.exists_run (h : Move s line text s') (hcontent : Fragment.isContent text = true)
    (hs : ∀ run ∈ s.runs, run.IsCounted line) :
    ∃ run ∈ s'.runs, run.condition = s.blocks.condition ∧
      { number := line, text, condition := run.condition } ∈ run.toFragment.contents := by
  have hvisible := Fragment.not_all_isBlank_of_isContent hcontent
  cases h with
  | directive hnot => rw [hcontent] at hnot; cases hnot
  | skip hnot => rw [hcontent] at hnot; cases hnot
  | pad _ hblank => rw [hvisible] at hblank; cases hblank
  | @join front back run _ hkept hcond =>
      refine ⟨run.extend line text, by simp, hcond, ?_⟩
      have hrun : run ∈ s.runs := mem_runs_of_mem_kept (by rw [hkept]; simp)
      rw [Run.contents_extend (hs run hrun), if_neg (by rw [hvisible]; exact Bool.false_ne_true)]
      exact List.mem_append_right _ (List.mem_singleton.2 rfl)
  | start =>
      refine ⟨Run.single s.blocks.condition s.blocks.length line text, by simp, rfl, ?_⟩
      rw [Fragment.contents, GovernedLine.mem_ofLines]
      exact ⟨by simp [Run.single, Run.toFragment], hvisible, rfl⟩

end Splitter

namespace Fragment

/-- The state of the splitter at a line of a text. -/
def stateAt (text : List Char) (line : Nat) : Except DirectiveError Splitter :=
  Splitter.init.run 1 ((Text.lines text).take (line - 1))

variable {text : List Char} {fragments : List Fragment} {n m : Nat} {s s' : Splitter}

/-- A text that has fragments can be read up to every line. -/
theorem exists_stateAt (h : split text = .ok fragments) (n : Nat) :
    ∃ s, stateAt text n = .ok s := by
  obtain ⟨_, hrun, -⟩ := split_eq_ok_iff.1 h
  rw [← List.take_append_drop (n - 1) (Text.lines text)] at hrun
  obtain ⟨s, hfront, -⟩ := Splitter.run_of_append hrun
  exact ⟨s, hfront⟩

/-- The blocks at a line are those of the splitter. -/
theorem blocksAt_of_stateAt (hs : stateAt text n = .ok s) : blocksAt text n = .ok s.blocks :=
  Splitter.readLines_of_run hs

/-- Reading goes on by one move for each line. -/
theorem stateAt_succ (hs' : stateAt text (n + 1) = .ok s') :
    (stateAt text n = .ok s' ∧ ∀ line, ¬Text.IsLine text n line) ∨
      ∃ s line, stateAt text n = .ok s ∧ Text.IsLine text n line ∧ s.Move n line s' := by
  -- numbers that no line has: zero and those behind the last line
  have hnone : (Text.lines text)[n - 1]? = none ∨ n = 0 → ∀ line, ¬Text.IsLine text n line := by
    intro hnone line hline
    rw [Text.IsLine, List.mk_mem_zipIdx_iff_le_and_getElem?_sub] at hline
    rcases hnone with hnone | rfl
    · rw [hnone] at hline
      cases hline.2
    · exact Nat.not_succ_le_zero 0 hline.1
  cases n with
  | zero => exact .inl ⟨hs', hnone (.inr rfl)⟩
  | succ n =>
      rw [stateAt, Nat.add_sub_cancel] at hs' ⊢
      rcases Nat.lt_or_ge n (Text.lines text).length with hlt | hge
      · rw [List.take_succ_eq_append_getElem hlt] at hs'
        obtain ⟨s, hfront, hlast⟩ := Splitter.run_of_append hs'
        rw [List.length_take, Nat.min_eq_left (Nat.le_of_lt hlt), Nat.add_comm 1 n] at hlast
        obtain ⟨next, hstep, hnext⟩ := Splitter.step_of_run_cons hlast
        cases hnext
        refine .inr ⟨s, (Text.lines text)[n], hfront, ?_, Splitter.move_of_step hstep⟩
        rw [Text.IsLine, List.mk_mem_zipIdx_iff_le_and_getElem?_sub]
        exact ⟨Nat.le_add_left 1 n, by simp⟩
      · refine .inl ⟨?_, hnone (.inl (by simpa using hge))⟩
        rwa [List.take_of_length_le (Nat.le_succ_of_le hge),
          ← List.take_of_length_le hge] at hs'

/-- What every move carries from one line to the next holds at all lines. -/
theorem stateAt_induction {P : Nat → Splitter → Prop} (hinit : P 0 .init)
    (hskip : ∀ n s, P n s → P (n + 1) s)
    (hmove : ∀ n line s s', stateAt text n = .ok s → s.Move n line s' → P n s → P (n + 1) s')
    (hs : stateAt text n = .ok s) : P n s := by
  induction n generalizing s with
  | zero => cases hs; exact hinit
  | succ n ih =>
      rcases stateAt_succ hs with ⟨heq, -⟩ | ⟨before, line, hbefore, -, hstep⟩
      · exact hskip n s (ih heq)
      · exact hmove n line before s hbefore hstep (ih hbefore)

/-- The open runs are ordered at every line. -/
theorem ordered_stateAt (hs : stateAt text n = .ok s) : s.Ordered n :=
  stateAt_induction ⟨.nil, .nil, by simp [Splitter.heads, Splitter.init]⟩
    (fun _ _ => Splitter.Ordered.succ) (fun _ _ _ _ _ hmove => hmove.ordered) hs

/-- The lines of the open runs are counted at every line. -/
theorem isCounted_stateAt (hs : stateAt text n = .ok s) : ∀ run ∈ s.runs, run.IsCounted n :=
  stateAt_induction (by simp [Splitter.init]) (fun _ _ h run hrun => (h run hrun).succ)
    (fun _ _ _ _ _ hmove => hmove.isCounted) hs

/-- The head of an open run tells the blocks around the first line of the run. -/
theorem blocksAt_head (hs : stateAt text n = .ok s) :
    ∀ head ∈ s.heads, ∃ blocks, blocksAt text head.line = .ok blocks ∧
      head.depth = blocks.length ∧ head.condition = blocks.condition := by
  refine stateAt_induction (P := fun _ s => ∀ head ∈ s.heads, ∃ blocks,
    blocksAt text head.line = .ok blocks ∧ head.depth = blocks.length ∧
      head.condition = blocks.condition) ?_ (fun _ _ => id) ?_ hs
  · simp [Splitter.heads, Splitter.init]
  · intro n line s s' hs hmove ih head hhead
    rcases hmove.mem_heads hhead with hhead | rfl
    · exact ih head hhead
    · exact ⟨s.blocks, blocksAt_of_stateAt hs, rfl, rfl⟩

/-- The fragments that there are at a line grow into fragments of the text. -/
theorem exists_prefix_of_stateAt (h : split text = .ok fragments) (hs : stateAt text n = .ok s)
    {f : Fragment} (hf : f ∈ s.pieces) :
    ∃ g ∈ fragments, g.line = f.line ∧ f.lines <+: g.lines := by
  obtain ⟨sEnd, hrun, hperm⟩ := perm_pieces_of_split h
  rw [← List.take_append_drop (n - 1) (Text.lines text)] at hrun
  obtain ⟨between, hfront, hback⟩ := Splitter.run_of_append hrun
  obtain rfl := Except.ok.inj (hs.symm.trans hfront)
  have hgrown := Splitter.run_induction
    (P := fun _ s => ∃ g ∈ s.pieces, g.line = f.line ∧ f.lines <+: g.lines)
    (fun _ _ _ _ _ hmove ⟨g, hg, hline, hprefix⟩ => by
      obtain ⟨k, hk, hline', hprefix'⟩ := hmove.exists_prefix hg
      exact ⟨k, hk, hline'.trans hline, hprefix.trans hprefix'⟩)
    hback ⟨f, hf, rfl, List.prefix_refl _⟩
  obtain ⟨g, hg, hline, hprefix⟩ := hgrown
  exact ⟨g, hperm.mem_iff.2 hg, hline, hprefix⟩

/-- Which heads are open behind a line, by the line. -/
theorem mem_heads_succ_iff (hs' : stateAt text (n + 1) = .ok s') :
    ∃ s, stateAt text n = .ok s ∧ ∀ head : Run.Head, head.line < n →
      (head ∈ s'.heads ↔ head ∈ s.heads ∧ ∀ line, Text.IsLine text n line →
        isContent line = true → head.spans s.blocks = true) := by
  rcases stateAt_succ hs' with ⟨hs, hnone⟩ | ⟨s, line, hs, hline, hmove⟩
  · refine ⟨s', hs, fun head _ => ?_⟩
    rw [and_iff_left]
    intro line hline
    exact absurd hline (hnone line)
  · refine ⟨s, hs, fun head hlt => ?_⟩
    cases hcontent : isContent line with
    | false =>
        rw [hmove.heads_of_not_isContent hcontent, and_iff_left]
        intro line' hline' hcontent'
        rw [hline'.unique hline, hcontent] at hcontent'
        cases hcontent'
    | true =>
        rw [hmove.mem_heads_iff hcontent hlt]
        refine and_congr_right fun _ => ⟨fun hspans _ _ _ => hspans, fun hall => ?_⟩
        exact hall line hline hcontent

/-- A head that is open in front of a line of text is open later exactly when it spans all lines of
text in between. -/
theorem mem_heads_iff (hs : stateAt text n = .ok s) (hnm : n ≤ m) (hs' : stateAt text m = .ok s')
    {head : Run.Head} (hlt : head.line < n) :
    head ∈ s'.heads ↔ head ∈ s.heads ∧ ∀ k line blocks, n ≤ k → k < m → Text.IsLine text k line →
      isContent line = true → blocksAt text k = .ok blocks → head.spans blocks = true := by
  -- induction on the later line: each line of text in between drops the heads that do not span it
  induction hnm generalizing s' with
  | refl =>
      obtain rfl := Except.ok.inj (hs.symm.trans hs')
      rw [and_iff_left]
      omega
  | @step m hnm ih =>
      obtain ⟨between, hbetween, hnext⟩ := mem_heads_succ_iff hs'
      have hblocks := blocksAt_of_stateAt hbetween
      rw [hnext head (Nat.lt_of_lt_of_le hlt hnm), ih hbetween, and_assoc]
      refine and_congr_right fun _ => ⟨?_, ?_⟩
      · rintro ⟨hall, hlast⟩ k line blocks hnk hkm hline hcontent hk
        rcases Nat.lt_or_eq_of_le (Nat.le_of_lt_succ hkm) with hkm | rfl
        · exact hall k line blocks hnk hkm hline hcontent hk
        · obtain rfl := Except.ok.inj (hblocks.symm.trans hk)
          exact hlast line hline hcontent
      · intro hall
        exact ⟨fun k line blocks hnk hkm => hall k line blocks hnk (Nat.lt_succ_of_lt hkm),
          fun line hline hcontent => hall m line _ hnm (Nat.lt_succ_self m) hline hcontent hblocks⟩

/-- Runs under one condition that are open at different lines have the same first line exactly when
the earlier one is still open at the later line. -/
theorem line_eq_iff_mem_heads (hs : stateAt text n = .ok s) (hnm : n ≤ m)
    (hs' : stateAt text m = .ok s') {head head' : Run.Head} (hhead : head ∈ s.heads)
    (hhead' : head' ∈ s'.heads) (hcond : head.condition = head'.condition) :
    head.line = head'.line ↔ head ∈ s'.heads := by
  constructor
  · intro heq
    have hlt : head'.line < n := heq ▸ (ordered_stateAt hs).lt head hhead
    have hold : head' ∈ s.heads := ((mem_heads_iff hs hnm hs' hlt).1 hhead').1
    rwa [(ordered_stateAt hs).eq_of_line_eq hhead hold heq]
  · intro hmem
    rw [(ordered_stateAt hs').eq_of_condition_eq hmem hhead' hcond]

/-- A content line belongs to one run, and its fragment is the one that grows from that run. -/
theorem exists_head_of_isLine (h : split text = .ok fragments) {line : List Char}
    (hline : Text.IsLine text n line) (hcontent : isContent line = true)
    (hs' : stateAt text (n + 1) = .ok s') :
    ∃ head ∈ s'.heads, conditionAt text n = .ok head.condition ∧
      ∀ f ∈ fragments, f.Shows n line ↔ f.line = head.line := by
  rcases stateAt_succ hs' with ⟨-, hnone⟩ | ⟨s, line', hs, hline', hmove⟩
  · exact absurd hline (hnone line)
  · obtain rfl := hline'.unique hline
    have hvisible := not_all_isBlank_of_isContent hcontent
    obtain ⟨run, hrun, hcond, hmem⟩ := hmove.exists_run hcontent (isCounted_stateAt hs)
    have hcondition : conditionAt text n = .ok run.condition := by
      rw [conditionAt, blocksAt_of_stateAt hs, hcond]
      rfl
    obtain ⟨g, hg, hgline, rest, hgrown⟩ :=
      exists_prefix_of_stateAt h hs' (List.mem_append_right _ (List.mem_map_of_mem hrun))
    -- the fragment that grows from the run still shows the line
    have hshows : g.Shows n line' := by
      rw [contents, GovernedLine.mem_ofLines] at hmem
      rw [Shows, lines_text_of_mem_split h hg, hgline, ← hgrown, List.zipIdx_append]
      exact List.mem_append_left _ hmem.1
    refine ⟨run.head, List.mem_map_of_mem hrun, hcondition, fun f hf => ⟨?_, ?_⟩⟩
    · intro hf'
      rw [eq_of_shows h hf hg hf' hshows hvisible hvisible]
      exact hgline
    · intro hf'
      rwa [eq_of_line_eq h hf hg (hf'.trans hgline.symm)]

end Fragment

end GlslPrelude
