import GlslPrelude.Proofs.Fragment.Enclosing
import GlslPrelude.Proofs.Fragment.Placement

/-!
# Evaluation selects branches

The active fragments show what a preprocessor would keep that reads the text line by line and takes
one branch of each chain. Whether a line counts depends on the condition in effect there
(`activeAt_iff`), and that condition holds when a branch is taken in each of the open chains.
-/

namespace GlslPrelude

namespace Fragment

variable {text : List Char} {fragments : List Fragment} {env : Environment}

/-- The condition in effect at a line holds in an environment. -/
def ActiveAt (text : List Char) (env : Environment) (n : Nat) : Prop :=
  ∃ p, conditionAt text n = .ok p ∧ p.eval env = true

/-- The condition in effect at a line holds when a branch is taken in each chain open there. -/
theorem activeAt_iff (h : split text = .ok fragments) (n : Nat) :
    ActiveAt text env n ↔ (openChainsAt text n).all (Chain.isTaken env) = true := by
  obtain ⟨p, hp, heval⟩ := exists_conditionAt h n
  rw [ActiveAt, hp, ← heval env]
  constructor
  · rintro ⟨q, hq, htrue⟩
    rwa [Except.ok.inj hq]
  · intro htrue
    exact ⟨p, rfl, htrue⟩

/-- An active fragment shows a content line exactly when the condition in effect there holds. -/
theorem exists_active_shows_iff (h : split text = .ok fragments) {n : Nat} {line : List Char}
    (hline : Text.IsLine text n line) (hcontent : isContent line = true) :
    (∃ f ∈ fragments.filter (·.isActive env), f.Shows n line) ↔ ActiveAt text env n := by
  constructor
  · rintro ⟨f, hf, hshows⟩
    obtain ⟨hmem, hactive⟩ := List.mem_filter.1 hf
    have hvisible := not_all_isBlank_of_isContent hcontent
    exact ⟨f.condition, conditionAt_of_shows h hmem hshows hvisible, hactive⟩
  · rintro ⟨p, hp, htrue⟩
    obtain ⟨f, hmem, hshows, -, hcond⟩ :=
      (exists_shows_iff h (l := ⟨n, line, p⟩)).2 ⟨hline, hcontent, hp⟩
    refine ⟨f, List.mem_filter.2 ⟨hmem, ?_⟩, hshows⟩
    rwa [isActive, ← hcond]

/-- At a line that is no directive, a branch is taken in each open chain exactly when each chain
around the line selects the branch that the line stands in. -/
theorem all_isTaken_iff_selected (h : split text = .ok fragments) {n : Nat} {line : List Char}
    (hline : Text.IsLine text n line) (hbody : Directive.body? line = none) :
    (openChainsAt text n).all (Chain.isTaken env) = true ↔
      ∀ chain ∈ chains text, chain.Encloses n → chain.selected? env = chain.branchAt? n := by
  have hpos : 1 ≤ n := (List.mk_mem_zipIdx_iff_le_and_getElem?_sub.1 hline).1
  have hdesc := descends_openChainsAt text hpos
  have hlt : ∀ headers ∈ openChainsAt text n, ∀ h ∈ headers, h.line < n := fun headers hmem h hh =>
    hdesc.lt h (List.mem_flatten.2 ⟨headers, hmem, hh⟩)
  -- in a chain that continues an open one, the branch of the line starts with the latest header
  have hbranch : ∀ chain ∈ chains text, ∀ headers ∈ openChainsAt text n,
      chain.Continues headers (n + 1) →
      (chain.selected? env = chain.branchAt? n ↔ Chain.isTaken env headers = true) := by
    intro chain hchain headers hmem hcont
    rw [hcont.branchAt?_eq (hlt headers hmem) (Nat.le_succ n)]
    cases headers with
    | nil => exact absurd rfl (hdesc.ne_nil [] hmem)
    | cons header older =>
        obtain ⟨later, hheaders, -, -⟩ := hcont
        rw [List.reverse_cons, List.append_assoc, List.singleton_append] at hheaders
        exact Chain.selected?_eq_iff (isProper_of_mem_chains h hchain) (pairwise_headers hchain)
          hheaders env
  rw [List.all_eq_true]
  constructor
  · intro htaken chain hchain hencloses
    obtain ⟨headers, hmem, hcont⟩ := (encloses_iff hline hbody hchain).1 hencloses
    exact (hbranch chain hchain headers hmem hcont).2 (htaken headers hmem)
  · intro hselected headers hmem
    obtain ⟨chain, hchain, hcont⟩ := exists_continues_of_mem_openChainsAt h hline hbody hmem
    exact (hbranch chain hchain headers hmem hcont).1
      (hselected chain hchain ((encloses_iff hline hbody hchain).2 ⟨headers, hmem, hcont⟩))

/-- A branch of a chain is active exactly when the chain stands in active surroundings and selects
it. -/
theorem activeAt_header_iff (h : split text = .ok fragments) {chain : Chain}
    (hchain : chain ∈ chains text) {first header : Chain.Header}
    (hfirst : chain.headers.head? = some first) (hheader : header ∈ chain.headers) :
    ActiveAt text env (header.line + 1) ↔
      ActiveAt text env first.line ∧ chain.selected? env = some header := by
  obtain ⟨outer, houter, hbehind⟩ := openChainsAt_header hchain
  obtain ⟨earlier, later, hheaders⟩ := List.mem_iff_append.1 hheader
  rw [← List.reverse_reverse earlier] at hheaders
  rw [activeAt_iff h, activeAt_iff h, houter first hfirst, hbehind _ _ _ hheaders, List.all_cons,
    Bool.and_eq_true, and_comm]
  exact and_congr_right fun _ => (Chain.selected?_eq_iff (isProper_of_mem_chains h hchain)
    (pairwise_headers hchain) hheaders env).symm

/-- The active fragments show a content line exactly when each chain around the line selects the
branch that the line stands in. In every chain at most one branch is active, and one is if the chain
ends in `#else` and stands in active surroundings. -/
theorem evaluate_keeps_selected_branches (h : split text = .ok fragments) (env : Environment) :
    ∃ active, evaluate text env = .ok active ∧
      (∀ n line, Text.IsLine text n line → isContent line = true →
        ((∃ f ∈ active, f.Shows n line) ↔
          ∀ chain ∈ chains text, chain.Encloses n → chain.selected? env = chain.branchAt? n)) ∧
      ∀ chain ∈ chains text,
        (∀ header ∈ chain.headers, ∀ header' ∈ chain.headers,
          ActiveAt text env (header.line + 1) → ActiveAt text env (header'.line + 1) →
          header = header') ∧
        ∀ first last, chain.headers.head? = some first → chain.headers.getLast? = some last →
          last.condition? = none → ActiveAt text env first.line →
          ∃! header, header ∈ chain.headers ∧ ActiveAt text env (header.line + 1) := by
  refine ⟨fragments.filter (·.isActive env), by rw [evaluate, h]; rfl, ?_, ?_⟩
  · intro n line hline hcontent
    rw [exists_active_shows_iff h hline hcontent, activeAt_iff h,
      all_isTaken_iff_selected h hline (body?_eq_none_of_isContent hcontent)]
  · intro chain hchain
    have honce : ∀ header ∈ chain.headers, ∀ header' ∈ chain.headers,
        ActiveAt text env (header.line + 1) → ActiveAt text env (header'.line + 1) →
        header = header' := by
      intro header hheader header' hheader' hactive hactive'
      obtain ⟨first, hfirst⟩ : ∃ first, chain.headers.head? = some first :=
        Option.isSome_iff_exists.1 (List.isSome_head?.2 (List.ne_nil_of_mem hheader))
      rw [activeAt_header_iff h hchain hfirst hheader] at hactive
      rw [activeAt_header_iff h hchain hfirst hheader'] at hactive'
      exact Option.some.inj (hactive.2.symm.trans hactive'.2)
    refine ⟨honce, fun first last hfirst hlast hnone hactive => ?_⟩
    -- with an `#else` the chain selects some branch, and in active surroundings that one is active
    obtain ⟨header, hheader, hselected⟩ :=
      Chain.exists_selected?_eq_some (List.mem_of_getLast? hlast) hnone env
    have hheader_active := (activeAt_header_iff h hchain hfirst hheader).2 ⟨hactive, hselected⟩
    exact ⟨header, ⟨hheader, hheader_active⟩,
      fun other hother => honce other hother.1 header hheader hother.2 hheader_active⟩

/-- In a text with nested chains, the line behind the inner `#else` is kept and the one in front of
it is not. -/
theorem evaluate_keeps_selected_branches_of_nested :
    ∃ active, evaluate "#if 0\na\n#elif 1\n#if 0\nb\n#else\nc\n#endif\n#endif\n".toList default =
        .ok active ∧
      (∃ f ∈ active, f.Shows 7 "c\n".toList) ∧ (¬∃ f ∈ active, f.Shows 5 "b\n".toList) ∧
      ∃! header : Chain.Header, header ∈ [⟨4, some .never⟩, ⟨6, none⟩] ∧
        ActiveAt "#if 0\na\n#elif 1\n#if 0\nb\n#else\nc\n#endif\n#endif\n".toList default
          (header.line + 1) := by
  have hsplit : split "#if 0\na\n#elif 1\n#if 0\nb\n#else\nc\n#endif\n#endif\n".toList = .ok [
      { condition := .never, line := 2, lines := [['a', '\n']] },
      { condition := Condition.never.negate.and .never, line := 5, lines := [['b', '\n']] },
      { condition := Condition.never.negate.and Condition.never.negate, line := 7,
        lines := [['c', '\n']] }] :=
    split_eq_of_perm_pieces (by with_unfolding_all exact rfl) (by rfl)
      (by with_unfolding_all decide) (by decide)
  have hchains : chains "#if 0\na\n#elif 1\n#if 0\nb\n#else\nc\n#endif\n#endif\n".toList = [
      { headers := [⟨4, some .never⟩, ⟨6, none⟩], stop := 8 },
      { headers := [⟨1, some .never⟩, ⟨3, some .always⟩], stop := 9 }] := by
    with_unfolding_all exact rfl
  obtain ⟨active, hactive, hlines, hbranches⟩ := evaluate_keeps_selected_branches hsplit default
  have hinner := hbranches { headers := [⟨4, some .never⟩, ⟨6, none⟩], stop := 8 }
    (by rw [hchains]; exact List.mem_cons_self)
  rw [hchains] at hlines
  refine ⟨active, hactive, ?_, ?_, ?_⟩
  · exact (hlines 7 "c\n".toList (by decide) (by decide)).2 (by decide)
  · rw [hlines 5 "b\n".toList (by decide) (by decide)]
    decide
  · exact hinner.2 ⟨4, some .never⟩ ⟨6, none⟩ rfl rfl rfl
      ⟨Condition.never.negate, by with_unfolding_all exact rfl, by decide⟩

end Fragment

end GlslPrelude
