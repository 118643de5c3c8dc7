import GlslPrelude.Proofs.Condition.Relevance
import GlslPrelude.Proofs.Fragment.Chains
import GlslPrelude.Proofs.Fragment.Placement

/-!
# The flags that a text mentions

The condition in effect at a line is put together from the conditions of the directives in front of
the line, so it mentions no flags but theirs (`within_of_conditionAt`). Environments that agree on
the flags that a text mentions therefore select the same fragments of it (`evaluate_congr`).
-/

namespace GlslPrelude

namespace Condition

/-- The condition mentions only flags of a class. -/
def Within (P : Flag → Prop) (p : Condition) : Prop :=
  ∀ flag, p.mentions flag = true → P flag

variable {P : Flag → Prop} {p q : Condition}

/-- No flag is mentioned by what always holds. -/
theorem within_always : always.Within P := by
  intro flag hflag
  cases hflag

/-- A conjunction mentions the flags of its operands. -/
theorem Within.and (hp : p.Within P) (hq : q.Within P) : (p.and q).Within P := by
  intro flag hflag
  have hmentions : p.mentions flag = true ∨ q.mentions flag = true := by
    revert hflag
    fun_cases Condition.and p q <;> simp +contextual [mentions]
  exact hmentions.elim (hp flag) (hq flag)

/-- A disjunction mentions no other flags than its operands. -/
theorem Within.or (hp : p.Within P) (hq : q.Within P) : (p.or q).Within P := by
  intro flag hflag
  have hmentions : p.mentions flag = true ∨ q.mentions flag = true := by
    revert hflag
    fun_cases Condition.or p q <;> simp +contextual [mentions]
  exact hmentions.elim (hp flag) (hq flag)

/-- A negation mentions the flags of its operand. -/
theorem Within.negate (hp : p.Within P) : p.negate.Within P := by
  intro flag hflag
  apply hp flag
  revert hflag
  fun_cases Condition.negate p <;> simp [mentions]

end Condition

/-- Whether a flag occurs in the condition that the directive states. -/
def Directive.mentions (flag : Flag) : Directive → Bool
  | .opening p | .alternative p => p.mentions flag
  | .otherwise | .closing => false

/-- All the conditions of the branch mention only flags of a class. -/
structure Branch.Within (P : Flag → Prop) (branch : Branch) : Prop where
  /-- The condition around the block. -/
  parent : branch.parent.Within P
  /-- The disjunction of the block's branches so far. -/
  taken : branch.taken.Within P
  /-- The condition inside the branch. -/
  current : branch.current.Within P

namespace Blocks

variable {P : Flag → Prop} {blocks blocks' : Blocks} {line : Nat} {text : List Char}

/-- All the conditions of the open blocks mention only flags of a class. -/
def Within (P : Flag → Prop) (blocks : Blocks) : Prop :=
  ∀ branch ∈ blocks, branch.Within P

/-- So does the condition in effect. -/
theorem Within.condition (h : blocks.Within P) : blocks.condition.Within P := by
  cases blocks with
  | nil => exact Condition.within_always
  | cons branch rest => exact (h branch List.mem_cons_self).current

/-- A directive adds only its own flags. -/
theorem Within.step (h : blocks.Within P) {d : Directive}
    (hd : ∀ flag, d.mentions flag = true → P flag) (hstep : blocks.step line d = .ok blocks') :
    blocks'.Within P := by
  cases d with
  | opening p =>
      cases hstep
      have hp : p.Within P := hd
      rw [Within, List.forall_mem_cons]
      exact ⟨⟨h.condition, hp, h.condition.and hp⟩, h⟩
  | alternative p =>
      have hp : p.Within P := hd
      cases blocks with
      | nil => cases hstep
      | cons branch rest =>
          rw [Within, List.forall_mem_cons] at h
          simp only [Blocks.step] at hstep
          split at hstep
          · cases hstep
          · cases hstep
            have hrest := h.1.parent.and h.1.taken.negate
            rw [Within, List.forall_mem_cons]
            exact ⟨⟨h.1.parent, h.1.taken.or hp, hrest.and hp⟩, h.2⟩
  | otherwise =>
      cases blocks with
      | nil => cases hstep
      | cons branch rest =>
          rw [Within, List.forall_mem_cons] at h
          simp only [Blocks.step] at hstep
          split at hstep
          · cases hstep
          · cases hstep
            rw [Within, List.forall_mem_cons]
            exact ⟨⟨h.1.parent, h.1.taken, h.1.parent.and h.1.taken.negate⟩, h.2⟩
  | closing =>
      cases blocks with
      | nil => cases hstep
      | cons branch rest =>
          cases hstep
          exact fun b hb => h b (List.mem_cons_of_mem _ hb)

/-- A line adds only the flags of the directive that it holds. -/
theorem Within.readLine (h : blocks.Within P)
    (htext : ∀ d, Directive.ofLine? text = some d → ∀ flag, d.mentions flag = true → P flag)
    (hread : blocks.readLine line text = .ok blocks') : blocks'.Within P := by
  rw [Blocks.readLine] at hread
  rw [Directive.ofLine?] at htext
  cases hbody : Directive.body? text with
  | none =>
      rw [hbody] at hread
      cases hread
      exact h
  | some body =>
      rw [hbody] at hread htext
      dsimp only at hread
      cases hdirective : Directive.read body with
      | error fault =>
          rw [hdirective] at hread
          cases hread
      | ok d =>
          rw [hdirective] at hread
          exact h.step (htext d (by rw [Option.bind_some, hdirective]; rfl)) hread

/-- Lines add only the flags of the directives that they hold. -/
theorem Within.readLines {ls : List (List Char)} (h : blocks.Within P)
    (hls : ∀ text ∈ ls, ∀ d, Directive.ofLine? text = some d →
      ∀ flag, d.mentions flag = true → P flag)
    (hread : blocks.readLines line ls = .ok blocks') : blocks'.Within P := by
  induction ls generalizing blocks line with
  | nil =>
      cases hread
      exact h
  | cons text rest ih =>
      rw [List.forall_mem_cons] at hls
      rw [Blocks.readLines] at hread
      cases hline : blocks.readLine line text with
      | error fault =>
          rw [hline] at hread
          cases hread
      | ok next =>
          rw [hline] at hread
          exact ih (h.readLine hls.1 hline) hls.2 hread

end Blocks

namespace Fragment

/-- The flag occurs in the condition of one of the text's directives. A flag that is dropped when
the condition is read does not count, since the condition does not depend on it. -/
def Mentions (text : List Char) (flag : Flag) : Prop :=
  ∃ line ∈ Text.lines text, ∃ d, Directive.ofLine? line = some d ∧ d.mentions flag = true

variable {text : List Char} {fragments : List Fragment} {env env' : Environment}

/-- The condition in effect at a line mentions no flag that the text does not mention. -/
theorem within_of_conditionAt {n : Nat} {p : Condition} (h : conditionAt text n = .ok p) :
    p.Within (Mentions text) := by
  rw [conditionAt, blocksAt] at h
  cases hread : Blocks.readLines [] 1 ((Text.lines text).take (n - 1)) with
  | error e =>
      rw [hread] at h
      cases h
  | ok blocks =>
      rw [hread] at h
      cases h
      -- the blocks come from the lines in front, which are lines of the text
      have hwithin : blocks.Within (Mentions text) := by
        refine Blocks.Within.readLines (by simp [Blocks.Within]) ?_ hread
        intro line hline d hd flag hflag
        exact ⟨line, List.mem_of_mem_take hline, d, hd, hflag⟩
      exact hwithin.condition

/-- The condition of a fragment is in effect at some line of the text. -/
theorem exists_conditionAt_of_mem (h : split text = .ok fragments) {f : Fragment}
    (hf : f ∈ fragments) : ∃ n, conditionAt text n = .ok f.condition := by
  obtain ⟨l, hl, -⟩ := (startsVisibly_of_mem_split h hf).exists_mem_contents
  obtain ⟨hshows, hvisible, -⟩ := (mem_contents_iff h hf).1 hl
  exact ⟨l.number, conditionAt_of_shows h hf hshows hvisible⟩

/-- An active fragment of a text is a fragment of it whose condition holds. -/
theorem exists_split_of_mem_evaluate {active : List Fragment} (h : evaluate text env = .ok active)
    {f : Fragment} (hf : f ∈ active) :
    ∃ fragments, split text = .ok fragments ∧ f ∈ fragments ∧ f.condition.eval env = true := by
  rw [evaluate] at h
  cases hsplit : split text with
  | error e =>
      rw [hsplit] at h
      cases h
  | ok fragments =>
      rw [hsplit] at h
      cases h
      exact ⟨fragments, rfl, List.mem_filter.1 hf⟩

/-- The condition of a fragment mentions no flag that the text does not mention. -/
theorem within_of_mem_split (h : split text = .ok fragments) {f : Fragment} (hf : f ∈ fragments) :
    f.condition.Within (Mentions text) := by
  obtain ⟨n, hn⟩ := exists_conditionAt_of_mem h hf
  exact within_of_conditionAt hn

/-- So does the condition of an active fragment. -/
theorem within_of_mem_evaluate {active : List Fragment} (h : evaluate text env = .ok active)
    {f : Fragment} (hf : f ∈ active) : f.condition.Within (Mentions text) := by
  obtain ⟨fragments, hsplit, hmem, -⟩ := exists_split_of_mem_evaluate h hf
  exact within_of_mem_split hsplit hmem

/-- Environments that agree on the flags that a text mentions select the same fragments. -/
theorem evaluate_congr (h : ∀ flag, Mentions text flag → env.isSet flag = env'.isSet flag) :
    evaluate text env = evaluate text env' := by
  rw [evaluate, evaluate]
  cases hsplit : split text with
  | error e => rfl
  | ok fragments =>
      refine congrArg Except.ok (List.filter_congr fun f hf => ?_)
      refine Condition.eval_congr f.condition fun flag hflag => ?_
      exact h flag (within_of_mem_split hsplit hf flag hflag)

end Fragment

end GlslPrelude
