import GlslPrelude.Proofs.Fragment.Enclosing
import GlslPrelude.Proofs.Fragment.Runs

/-!
# When lines of one branch share a fragment

Two lines of one branch stand under one condition, and the lines in between stand in it or in blocks
inside the branch. Still they share a fragment only if the run of the first one stays open all the
way, and that depends on how deep the run was when it was opened, which can be deeper than the
branch if a block in front of it had the same condition.
-/

namespace GlslPrelude

namespace Blocks

/-- The conditions around blocks that contain others begin with those around the others. -/
theorem contexts_append (inner outer : Blocks) :
    contexts (inner ++ outer) = contexts outer ++ (inner.map Branch.current).reverse := by
  rw [contexts, contexts, List.map_append, List.reverse_append, List.cons_append]

/-- The innermost one of the conditions is the one in effect. -/
theorem contexts_length (blocks : Blocks) :
    blocks.contexts[blocks.length]? = some blocks.condition := by
  cases blocks <;> simp [contexts, condition]

/-- Deeper blocks stand under each condition that the blocks around them stand under. -/
theorem condition_eq_or_of_suffix {blocks deeper : Blocks} (h : blocks <:+ deeper) {depth : Nat}
    {p : Condition} (hp : blocks.contexts[depth]? = some p) :
    p = deeper.condition ∨ depth < deeper.length ∧ deeper.contexts[depth]? = some p := by
  obtain ⟨inner, rfl⟩ := h
  obtain ⟨hlt, -⟩ := List.getElem?_eq_some_iff.1 hp
  have hdeeper : contexts (inner ++ blocks) = contexts blocks ++ _ := contexts_append inner blocks
  have hget : (contexts (inner ++ blocks))[depth]? = some p := by
    rwa [hdeeper, List.getElem?_append_left hlt]
  have hle : depth ≤ (inner ++ blocks).length := by
    rw [contexts, List.length_cons, List.length_reverse, List.length_map] at hlt
    rw [List.length_append]
    omega
  -- at the full depth there is no block in between, and the condition is the one in effect
  rcases Nat.lt_or_eq_of_le hle with hlt | rfl
  · exact .inr ⟨hlt, hget⟩
  · rw [contexts_length] at hget
    exact .inl (Option.some.inj hget).symm

end Blocks

namespace Fragment

variable {text : List Char} {fragments : List Fragment} {n m : Nat} {line line' : List Char}

/-- Two lines stand directly inside the same branch of the same chain, or both outside all chains:
every chain encloses both or neither, and in the same branch. -/
def SameBranch (text : List Char) (n m : Nat) : Prop :=
  ∀ chain ∈ chains text, (chain.Encloses n ↔ chain.Encloses m) ∧
    (chain.Encloses n → chain.branchAt? n = chain.branchAt? m)

instance (text : List Char) (n m : Nat) : Decidable (SameBranch text n m) :=
  inferInstanceAs (Decidable (∀ chain ∈ chains text, _))

/-- The fragment stays open at a line: the line has the fragment's condition, or it stands in a
block deeper than where the fragment began, and at that depth the fragment's condition is in effect.
-/
def Spans (text : List Char) (fragment : Fragment) (n : Nat) : Prop :=
  ∃ opening blocks, blocksAt text fragment.line = .ok opening ∧ blocksAt text n = .ok blocks ∧
    (fragment.condition = blocks.condition ∨
      opening.length < blocks.length ∧
        blocks.contexts[opening.length]? = some fragment.condition)

/-! ## Lines of one branch -/

/-- If the chains around a line enclose another one as well, with the same headers in front of it,
then those open at the line are open at the other one, and innermost ones may have been added. -/
theorem openChainsAt_suffix (h : split text = .ok fragments) (hline : Text.IsLine text n line)
    (hbody : Directive.body? line = none) (hline' : Text.IsLine text m line')
    (hbody' : Directive.body? line' = none)
    (henclosed : ∀ chain ∈ chains text, chain.Encloses n → chain.Encloses m ∧
      chain.headers.filter (·.line < n) = chain.headers.filter (·.line < m)) :
    openChainsAt text n <:+ openChainsAt text m := by
  have hpos : 1 ≤ n := (List.mk_mem_zipIdx_iff_le_and_getElem?_sub.1 hline).1
  have hdesc := descends_openChainsAt text hpos
  have hrecorded := recorded_openChainsAt text n
  cases hopened : openChainsAt text n with
  | nil => exact List.nil_suffix
  | cons headers outer =>
      have hmem : headers ∈ openChainsAt text n := by rw [hopened]; exact List.mem_cons_self
      obtain ⟨chain, hchain, hencloses, hheaders⟩ :=
        (mem_openChainsAt_iff h hline hbody).1 hmem
      obtain ⟨hencloses', heq⟩ := henclosed chain hchain hencloses
      have hmem' : headers ∈ openChainsAt text m :=
        (mem_openChainsAt_iff h hline' hbody').2 ⟨chain, hchain, hencloses', heq ▸ hheaders⟩
      cases headers with
      | nil => exact absurd rfl (hdesc.ne_nil [] hmem)
      | cons header older =>
          -- both lines have what the record has behind the latest header
          have hsuffix := (recorded_openChainsAt text m).suffix_of_mem hmem'
          rw [hopened] at hrecorded
          rwa [hrecorded.1.behind [] header older rfl] at hsuffix

/-- Open chains that contain others belong to blocks that contain those of the others. -/
theorem blocksAt_suffix (h : split text = .ok fragments)
    (hsuffix : openChainsAt text n <:+ openChainsAt text m) {blocks deeper : Blocks}
    (hblocks : blocksAt text n = .ok blocks) (hdeeper : blocksAt text m = .ok deeper) :
    blocks <:+ deeper := by
  obtain ⟨_, hn, hfollow⟩ := exists_follow h n
  obtain rfl := Except.ok.inj (hblocks.symm.trans hn)
  obtain ⟨_, hm, hfollow'⟩ := exists_follow h m
  obtain rfl := Except.ok.inj (hdeeper.symm.trans hm)
  obtain ⟨inner, hinner⟩ := hsuffix
  rw [← hinner] at hfollow'
  obtain ⟨front, back, rfl, hback⟩ := hfollow'.of_append
  rw [hback.unique hfollow]
  exact List.suffix_append front blocks

/-- In front of a line that stands in the same branch as an earlier one, no block around the earlier
line ends and no branch begins. -/
theorem SameBranch.suffix (hsame : SameBranch text n m) (h : split text = .ok fragments)
    (hline : Text.IsLine text n line) (hbody : Directive.body? line = none) {k : Nat}
    {between : List Char} (hbetween : Text.IsLine text k between)
    (hbody' : Directive.body? between = none) (hnk : n ≤ k) (hkm : k ≤ m) {blocks deeper : Blocks}
    (hblocks : blocksAt text n = .ok blocks) (hdeeper : blocksAt text k = .ok deeper) :
    blocks <:+ deeper := by
  refine blocksAt_suffix h (openChainsAt_suffix h hline hbody hbetween hbody' ?_) hblocks hdeeper
  intro chain hchain hencloses
  obtain ⟨hiff, hbranch⟩ := hsame chain hchain
  obtain ⟨header, hheader, hlt⟩ := hencloses.1
  refine ⟨⟨⟨header, hheader, Nat.lt_of_lt_of_le hlt hnk⟩, ?_⟩, ?_⟩
  · exact Nat.lt_of_le_of_lt hkm (hiff.1 hencloses).2
  · exact Chain.filter_lt_eq (pairwise_headers hchain) hencloses.1 (hbranch hencloses) hnk hkm

/-- Lines of one branch stand inside the same blocks. -/
theorem SameBranch.blocksAt_eq (hsame : SameBranch text n m) (h : split text = .ok fragments)
    (hline : Text.IsLine text n line) (hbody : Directive.body? line = none)
    (hline' : Text.IsLine text m line') (hbody' : Directive.body? line' = none) (hnm : n ≤ m) :
    blocksAt text n = blocksAt text m := by
  obtain ⟨blocks, hblocks⟩ := exists_blocksAt h n
  obtain ⟨blocks', hblocks'⟩ := exists_blocksAt h m
  have hsuffix := hsame.suffix h hline hbody hline' hbody' hnm (Nat.le_refl m) hblocks hblocks'
  have hsuffix' : blocks' <:+ blocks := by
    refine blocksAt_suffix h (openChainsAt_suffix h hline' hbody' hline hbody ?_) hblocks' hblocks
    intro chain hchain hencloses
    obtain ⟨hiff, hbranch⟩ := hsame chain hchain
    have hencloses' := hiff.2 hencloses
    exact ⟨hencloses', (Chain.filter_lt_eq (pairwise_headers hchain) hencloses'.1
      (hbranch hencloses') hnm (Nat.le_refl m)).symm⟩
  rw [hblocks, hblocks', hsuffix.eq_of_length_le hsuffix'.length_le]

/-! ## Sharing a fragment -/

/-- A fragment stays open at a line exactly when the head of its run spans the line. -/
theorem spans_iff_of_head {f : Fragment} {s : Splitter} (hs : stateAt text n = .ok s)
    {head : Run.Head} (hhead : head ∈ s.heads) (hline : f.line = head.line)
    (hcond : f.condition = head.condition) {blocks : Blocks}
    (hblocks : blocksAt text m = .ok blocks) : f.Spans text m ↔ head.spans blocks = true := by
  obtain ⟨opening, hopening, hdepth, -⟩ := blocksAt_head hs head hhead
  rw [Run.Head.spans, Bool.or_eq_true, Bool.and_eq_true, decide_eq_true_eq, decide_eq_true_eq,
    decide_eq_true_eq, hdepth, ← hcond]
  constructor
  · rintro ⟨opening', blocks', hopening', hblocks', hspans⟩
    rw [hline] at hopening'
    obtain rfl := Except.ok.inj (hopening.symm.trans hopening')
    obtain rfl := Except.ok.inj (hblocks.symm.trans hblocks')
    exact hspans
  · intro hspans
    exact ⟨opening, blocks, hline ▸ hopening, hblocks, hspans⟩

/-- The fragment of a content line shows a later line under the same condition exactly when it stays
open at all content lines in between. -/
theorem shows_iff_of_conditionAt_eq (h : split text = .ok fragments)
    (hline : Text.IsLine text n line) (hcontent : isContent line = true)
    (hline' : Text.IsLine text m line') (hcontent' : isContent line' = true) (hnm : n < m)
    (hcond : conditionAt text n = conditionAt text m) {f : Fragment} (hf : f ∈ fragments)
    (hshows : f.Shows n line) :
    f.Shows m line' ↔ ∀ k between, n < k → k < m → Text.IsLine text k between →
      isContent between = true → f.Spans text k := by
  obtain ⟨s, hs⟩ := exists_stateAt h (n + 1)
  obtain ⟨s', hs'⟩ := exists_stateAt h (m + 1)
  obtain ⟨head, hhead, hp, hfirst⟩ := exists_head_of_isLine h hline hcontent hs
  obtain ⟨head', hhead', hp', hfirst'⟩ := exists_head_of_isLine h hline' hcontent' hs'
  have hle : n + 1 ≤ m + 1 := Nat.succ_le_succ (Nat.le_of_lt hnm)
  have hlt : head.line < n + 1 := (ordered_stateAt hs).lt head hhead
  have hsame : head.condition = head'.condition := Except.ok.inj (hp.symm.trans (hcond.trans hp'))
  have hhead_line := (hfirst f hf).1 hshows
  have hf_cond : f.condition = head.condition := Except.ok.inj
    ((conditionAt_of_shows h hf hshows (not_all_isBlank_of_isContent hcontent)).symm.trans
      hp)
  -- the later line belongs to the run of the first one if that run is still open
  rw [hfirst' f hf, hhead_line, line_eq_iff_mem_heads hs hle hs' hhead hhead' hsame,
    mem_heads_iff hs hle hs' hlt, and_iff_right hhead]
  constructor
  · intro hall k between hnk hkm hbetween hcontent_k
    obtain ⟨blocks, hblocks⟩ := exists_blocksAt h k
    rw [spans_iff_of_head hs hhead hhead_line hf_cond hblocks]
    exact hall k between blocks hnk (Nat.lt_succ_of_lt hkm) hbetween hcontent_k hblocks
  · intro hall k between blocks hnk hkm hbetween hcontent_k hblocks
    rw [← spans_iff_of_head hs hhead hhead_line hf_cond hblocks]
    rcases Nat.lt_or_eq_of_le (Nat.le_of_lt_succ hkm) with hkm | rfl
    · exact hall k between hnk hkm hbetween hcontent_k
    · -- the later line itself has the condition of the run
      obtain ⟨opening, hopening⟩ := exists_blocksAt h f.line
      refine ⟨opening, blocks, hopening, hblocks, .inl ?_⟩
      rw [hp, conditionAt, hblocks] at hcond
      rw [hf_cond]
      exact Except.ok.inj hcond

/-- Two lines of one branch are shown by the same fragment exactly when it stays open at all content
lines in between. It does if it has the condition of one of the blocks around the first line, namely
at the depth at which the fragment began. -/
theorem shows_iff_of_sameBranch (h : split text = .ok fragments)
    (hline : Text.IsLine text n line) (hcontent : isContent line = true)
    (hline' : Text.IsLine text m line') (hcontent' : isContent line' = true) (hnm : n < m)
    (hsame : SameBranch text n m) {f : Fragment} (hf : f ∈ fragments) (hshows : f.Shows n line) :
    (f.Shows m line' ↔ ∀ k between, n < k → k < m → Text.IsLine text k between →
        isContent between = true → f.Spans text k) ∧
      ∀ opening blocks, blocksAt text f.line = .ok opening → blocksAt text n = .ok blocks →
        blocks.contexts[opening.length]? = some f.condition → f.Shows m line' := by
  have hbody := body?_eq_none_of_isContent hcontent
  have hbody' := body?_eq_none_of_isContent hcontent'
  have hcond : conditionAt text n = conditionAt text m := by
    rw [conditionAt, conditionAt, hsame.blocksAt_eq h hline hbody hline' hbody' (Nat.le_of_lt hnm)]
  have hiff := shows_iff_of_conditionAt_eq h hline hcontent hline' hcontent' hnm hcond hf hshows
  refine ⟨hiff, fun opening blocks hopening hblocks hcontext => hiff.2 ?_⟩
  intro k between hnk hkm hbetween hcontent_k
  obtain ⟨deeper, hdeeper⟩ := exists_blocksAt h k
  have hsuffix := hsame.suffix h hline hbody hbetween (body?_eq_none_of_isContent hcontent_k)
    (Nat.le_of_lt hnk) (Nat.le_of_lt hkm) hblocks hdeeper
  exact ⟨opening, deeper, hopening, hdeeper, Blocks.condition_eq_or_of_suffix hsuffix hcontext⟩

/-- Inside a block, the line behind a nested block joins the fragment of the line in front of it. -/
theorem shows_iff_of_sameBranch_of_nested :
    ∃ fragments, split "#if 1\na\n#if 0\nb\n#endif\nc\n#endif\n".toList = .ok fragments ∧
      SameBranch "#if 1\na\n#if 0\nb\n#endif\nc\n#endif\n".toList 2 6 ∧
      ∃ f ∈ fragments, f.Shows 2 "a\n".toList ∧ f.Shows 6 "c\n".toList := by
  have hsplit : split "#if 1\na\n#if 0\nb\n#endif\nc\n#endif\n".toList = .ok [
      { condition := .always, line := 2,
        lines := [['a', '\n'], ['\n'], ['\n'], ['\n'], ['c', '\n']] },
      { condition := .never, line := 4, lines := [['b', '\n']] }] :=
    split_eq_of_perm_pieces (by with_unfolding_all exact rfl) (by rfl)
      (by with_unfolding_all decide) (by decide)
  have hchains : chains "#if 1\na\n#if 0\nb\n#endif\nc\n#endif\n".toList = [
      { headers := [⟨3, some .never⟩], stop := 5 }, { headers := [⟨1, some .always⟩], stop := 7 }]
      := by
    with_unfolding_all exact rfl
  have hsame : SameBranch "#if 1\na\n#if 0\nb\n#endif\nc\n#endif\n".toList 2 6 := by
    rw [SameBranch, hchains]
    decide
  have hblocks : blocksAt "#if 1\na\n#if 0\nb\n#endif\nc\n#endif\n".toList 2 =
      .ok [Branch.first .always .always 1] := by
    with_unfolding_all exact rfl
  have hline : Text.IsLine "#if 1\na\n#if 0\nb\n#endif\nc\n#endif\n".toList 2 "a\n".toList := by
    decide
  have hline' : Text.IsLine "#if 1\na\n#if 0\nb\n#endif\nc\n#endif\n".toList 6 "c\n".toList := by
    decide
  refine ⟨_, hsplit, hsame, _, List.mem_cons_self, by decide, ?_⟩
  exact (shows_iff_of_sameBranch hsplit hline (by decide) hline' (by decide) (by decide) hsame
    List.mem_cons_self (by decide)).2 _ _ hblocks hblocks rfl

/-- A nested block can split the lines around it: a block with the condition of the text around it
opens a run at its own depth, and the next block at that depth ends the run. -/
theorem not_sameBranch_imp_shows :
    ¬∀ text fragments, split text = .ok fragments → ∀ n m line line', Text.IsLine text n line →
      isContent line = true → Text.IsLine text m line' → isContent line' = true →
      SameBranch text n m → ∃ f ∈ fragments, f.Shows n line ∧ f.Shows m line' := by
  intro hall
  have hsplit : split "#if 1\na\n#endif\nb\n#if 0\nc\n#endif\nd\n".toList = .ok [
      { condition := .always, line := 2, lines := [['a', '\n'], ['\n'], ['b', '\n']] },
      { condition := .never, line := 6, lines := [['c', '\n']] },
      { condition := .always, line := 8, lines := [['d', '\n']] }] :=
    split_eq_of_perm_pieces (by with_unfolding_all exact rfl) (by rfl)
      (by with_unfolding_all decide) (by decide)
  have hchains : chains "#if 1\na\n#endif\nb\n#if 0\nc\n#endif\nd\n".toList =
      [{ headers := [⟨1, some .always⟩], stop := 3 }, { headers := [⟨5, some .never⟩], stop := 7 }]
      := by
    with_unfolding_all exact rfl
  have hsame : SameBranch "#if 1\na\n#endif\nb\n#if 0\nc\n#endif\nd\n".toList 4 8 := by
    rw [SameBranch, hchains]
    decide
  -- the lines behind the first block and behind the second one are shown by different fragments
  have hshared := hall _ _ hsplit 4 8 "b\n".toList "d\n".toList (by decide) (by decide) (by decide)
    (by decide) hsame
  revert hshared
  decide

end Fragment

end GlslPrelude
