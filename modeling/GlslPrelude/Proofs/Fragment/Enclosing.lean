import GlslPrelude.Proofs.Fragment.Simulation

/-!
# The chains around a line

In a text that has fragments every open chain ends. The chains that enclose a line which is no
directive are then those that continue the chains open at it (`encloses_iff`), and each branch of a
chain begins right behind its header (`openChainsAt_header`).
-/

namespace GlslPrelude

namespace Chain

variable {chain : Chain} {headers : List Header} {line n : Nat}

/-- In a proper chain, the selected branch is the first one that may be taken. -/
theorem selected?_eq_find? (h : chain.IsProper) (env : Environment) :
    chain.selected? env = chain.headers.find? (Header.holds env) := by
  rw [IsProper] at h
  rw [selected?]
  -- a header with a condition is found by either search, and one without can only be the last
  generalize chain.headers = headers at h ⊢
  induction headers with
  | nil => rfl
  | cons header headers ih =>
      cases headers with
      | nil =>
          obtain ⟨line, _ | p⟩ := header
          · rfl
          · cases hp : p.eval env <;> simp [Header.holds, hp]
      | cons next rest =>
          rw [List.dropLast_cons_cons, List.forall_mem_cons] at h
          obtain ⟨p, hp⟩ := Option.isSome_iff_exists.1 h.1
          have hrest := ih h.2
          cases hholds : p.eval env
          · simpa [List.find?_cons, Header.holds, hp, hholds] using hrest
          · simp [Header.holds, hp, hholds]

/-- A chain with an `#else` selects one of its branches in every environment. -/
theorem exists_selected?_eq_some {last : Header} (hlast : last ∈ chain.headers)
    (hnone : last.condition? = none) (env : Environment) :
    ∃ header ∈ chain.headers, chain.selected? env = some header := by
  rw [selected?]
  cases hfirst : chain.headers.find? fun h => h.condition?.any (·.eval env) with
  | some header => exact ⟨header, List.mem_of_find?_eq_some hfirst, rfl⟩
  | none =>
      have hsome : (chain.headers.find? fun h => h.condition?.isNone).isSome = true := by
        rw [List.find?_isSome]
        exact ⟨last, hlast, Option.isNone_iff_eq_none.2 hnone⟩
      obtain ⟨header, hheader⟩ := Option.isSome_iff_exists.1 hsome
      exact ⟨header, List.mem_of_find?_eq_some hheader, by rw [hheader, Option.none_or]⟩

/-- What continues some of the headers of a chain has them in front of a line, if the line lies
behind them and not behind the headers that follow. -/
theorem Continues.filter_lt (h : chain.Continues headers n) (hlt : ∀ h ∈ headers, h.line < line)
    (hle : line ≤ n) : chain.headers.filter (·.line < line) = headers.reverse := by
  obtain ⟨later, hheaders, hlater, -⟩ := h
  rw [hheaders, List.filter_append, List.filter_eq_self.2, List.filter_eq_nil_iff.2,
    List.append_nil]
  · intro h hh
    simpa using Nat.le_trans hle (hlater h hh)
  · intro h hh
    simpa using hlt h (by simpa using hh)

/-- A line behind some of the headers of a chain, but not behind those that follow, stands in the
branch of the last one. -/
theorem Continues.branchAt?_eq (h : chain.Continues headers n)
    (hlt : ∀ h ∈ headers, h.line < line) (hle : line ≤ n) :
    chain.branchAt? line = headers.head? := by
  rw [branchAt?, h.filter_lt hlt hle, List.getLast?_reverse]

/-- If two lines stand in the same branch of a chain, no header stands between them. -/
theorem filter_lt_eq {k m : Nat} (hasc : chain.headers.Pairwise (·.line < ·.line))
    (hbefore : ∃ h ∈ chain.headers, h.line < n) (hbranch : chain.branchAt? n = chain.branchAt? m)
    (hnk : n ≤ k) (hkm : k ≤ m) :
    chain.headers.filter (·.line < n) = chain.headers.filter (·.line < k) := by
  obtain ⟨h, hh, hlt⟩ := hbefore
  obtain ⟨last, hlast⟩ : ∃ last, chain.branchAt? n = some last := by
    rw [branchAt?, ← Option.isSome_iff_exists, List.getLast?_isSome]
    exact List.ne_nil_of_mem (List.mem_filter.2 ⟨hh, by simpa using hlt⟩)
  have hlast_lt : last.line < n := by
    simpa using (List.mem_filter.1 (List.mem_of_getLast? hlast)).2
  rw [hbranch, branchAt?, List.getLast?_eq_some_iff] at hlast
  obtain ⟨earlier, hearlier⟩ := hlast
  have hasc' := hasc.filter (·.line < m)
  rw [hearlier, List.pairwise_append] at hasc'
  refine List.filter_congr fun header hheader => ?_
  rw [decide_eq_decide]
  refine ⟨fun hlt => Nat.lt_of_lt_of_le hlt hnk, fun hlt => ?_⟩
  -- a header in front of the second line is at most the last one there, which is that of the first
  have hmem : header ∈ earlier ++ [last] := by
    rw [← hearlier, List.mem_filter]
    exact ⟨hheader, by simpa using Nat.lt_of_lt_of_le hlt hkm⟩
  rcases List.mem_append.1 hmem with hmem | hmem
  · exact Nat.lt_trans (hasc'.2.2 header hmem last List.mem_cons_self) hlast_lt
  · rwa [List.mem_singleton.1 hmem]

/-- A chain whose headers ascend selects the branch of one of them exactly when that branch is
taken. -/
theorem selected?_eq_iff {older later : List Header} {header : Header} (hproper : chain.IsProper)
    (hasc : chain.headers.Pairwise (·.line < ·.line))
    (hheaders : chain.headers = older.reverse ++ header :: later) (env : Environment) :
    chain.selected? env = some header ↔ isTaken env (header :: older) = true := by
  rw [selected?_eq_find? hproper, hheaders, List.find?_append, isTaken]
  rw [hheaders, List.pairwise_append, List.pairwise_cons] at hasc
  obtain ⟨-, ⟨hlater, -⟩, holder⟩ := hasc
  cases hany : older.any (Header.holds env) with
  | true =>
      -- an earlier branch may be taken, and headers on different lines differ
      obtain ⟨first, hfirst⟩ : ∃ first, older.reverse.find? (Header.holds env) = some first := by
        rw [← Option.isSome_iff_exists, List.find?_isSome]
        simpa using hany
      rw [hfirst, Option.some_or, Bool.not_true, Bool.and_false]
      constructor
      · intro heq
        obtain rfl := Option.some.inj heq
        have := holder first (List.mem_of_find?_eq_some hfirst) first List.mem_cons_self
        omega
      · intro hfalse
        cases hfalse
  | false =>
      have hnone : older.reverse.find? (Header.holds env) = none := by
        rw [List.find?_eq_none]
        simpa using hany
      rw [hnone, Option.none_or, List.find?_cons, Bool.not_false, Bool.and_true]
      cases hholds : header.holds env with
      | true => simp
      | false =>
          refine ⟨fun heq => ?_, fun hfalse => by cases hfalse⟩
          have := hlater header (List.mem_of_find?_eq_some heq)
          omega

end Chain

namespace Fragment

variable {text : List Char} {fragments : List Fragment}

/-- The open chains at a line are those behind the lines in front of it. -/
theorem openChainsAt_eq {front back : List (List Char)} (h : Text.lines text = front ++ back) :
    openChainsAt text (front.length + 1) = OpenChains.readLines [] 1 front := by
  rw [openChainsAt, h, Nat.add_sub_cancel, List.take_left]

/-- The headers of the open chains at a line descend and stand in front of it. -/
theorem descends_openChainsAt (text : List Char) {n : Nat} (hn : 1 ≤ n) :
    (openChainsAt text n).Descends n := by
  have hnil : OpenChains.Descends [] 1 := ⟨by simp, by simp, by simp⟩
  have hdesc := hnil.readLines ((Text.lines text).take (n - 1))
  refine ⟨hdesc.ne_nil, hdesc.pairwise, fun h hh => ?_⟩
  have hlt := hdesc.lt h hh
  rw [List.length_take] at hlt
  omega

/-- No chain of a text that has fragments is left open. -/
theorem readLines_openChains_of_split (h : split text = .ok fragments) :
    OpenChains.readLines [] 1 (Text.lines text) = [] := by
  have hfollow := Blocks.Follow.nil.readLines (readLines_of_split h)
  cases hopened : OpenChains.readLines [] 1 (Text.lines text) with
  | nil => rfl
  | cons headers outer => rw [hopened] at hfollow; cases hfollow

/-- The open blocks at a line follow the open chains. -/
theorem exists_follow (h : split text = .ok fragments) (n : Nat) :
    ∃ blocks, blocksAt text n = .ok blocks ∧ Blocks.Follow blocks (openChainsAt text n) := by
  obtain ⟨blocks, hblocks⟩ := exists_blocksAt h n
  exact ⟨blocks, hblocks, Blocks.Follow.nil.readLines hblocks⟩

/-- The condition in effect at a line holds when a branch is taken in each chain open there. -/
theorem exists_conditionAt (h : split text = .ok fragments) (n : Nat) :
    ∃ p, conditionAt text n = .ok p ∧
      ∀ env, p.eval env = (openChainsAt text n).all (Chain.isTaken env) := by
  obtain ⟨blocks, hblocks, hfollow⟩ := exists_follow h n
  exact ⟨blocks.condition, by rw [conditionAt, hblocks]; rfl, hfollow.eval⟩

/-! ## Enclosing chains -/

/-- The chains around a line of text. -/
private theorem chains_around {front back : List (List Char)} {line : List Char}
    (hsplit : Text.lines text = front ++ line :: back) (hbody : Directive.body? line = none) :
    chains text = OpenChains.chains [] 1 front ++
      (openChainsAt text (front.length + 1)).chains (front.length + 2) back := by
  have hending : ∀ opened : OpenChains, opened.ending? (1 + front.length) line = none := by
    intro opened
    rw [OpenChains.ending?, Directive.ofLine?, hbody]
    rfl
  rw [chains, openChainsAt_eq hsplit, hsplit, OpenChains.chains_append, OpenChains.chains, hending,
    OpenChains.readLine_of_body?_eq_none hbody, Option.toList_none, List.nil_append,
    Nat.add_comm 1 front.length]

/-- A chain encloses a line that is no directive exactly when it continues a chain open there. -/
theorem encloses_iff {n : Nat} {line : List Char} (hline : Text.IsLine text n line)
    (hbody : Directive.body? line = none) {chain : Chain} (hchain : chain ∈ chains text) :
    chain.Encloses n ↔ ∃ headers ∈ openChainsAt text n, chain.Continues headers (n + 1) := by
  obtain ⟨front, back, hsplit, hn⟩ := Text.mem_zipIdx_iff_exists_append.1 hline
  rw [Nat.add_comm] at hn
  constructor
  · rintro ⟨⟨header, hheader, hlt⟩, hstop⟩
    rw [chains_around hsplit hbody, List.mem_append] at hchain
    rcases hchain with hchain | hchain
    · -- a chain that ends in front of the line does not enclose it
      obtain ⟨_, _, _, -, hstop', hlt', -⟩ := OpenChains.exists_of_mem_chains hchain
      omega
    · subst hn
      rcases OpenChains.continues_or_le hchain with hcont | hle
      · exact hcont
      · -- nor does one that begins behind the line
        have := hle header hheader
        omega
  · rintro ⟨headers, hmem, hcont⟩
    have hdesc := descends_openChainsAt text (n := n) (by omega)
    obtain ⟨later, hheaders, -, hstop⟩ := hcont
    obtain ⟨header, hheader⟩ := List.exists_mem_of_ne_nil headers (hdesc.ne_nil headers hmem)
    refine ⟨⟨header, ?_, hdesc.lt header (List.mem_flatten.2 ⟨headers, hmem, hheader⟩)⟩, hstop⟩
    rw [hheaders]
    exact List.mem_append_left _ (List.mem_reverse.2 hheader)

/-- Every chain that is open at a line which is no directive is continued by a chain of the text. -/
theorem exists_continues_of_mem_openChainsAt (h : split text = .ok fragments) {n : Nat}
    {line : List Char} (hline : Text.IsLine text n line) (hbody : Directive.body? line = none)
    {headers : List Chain.Header} (hmem : headers ∈ openChainsAt text n) :
    ∃ chain ∈ chains text, chain.Continues headers (n + 1) := by
  obtain ⟨front, back, hsplit, hn⟩ := Text.mem_zipIdx_iff_exists_append.1 hline
  rw [Nat.add_comm] at hn
  subst hn
  have hend := readLines_openChains_of_split h
  rw [hsplit, OpenChains.readLines_append, OpenChains.readLines,
    OpenChains.readLine_of_body?_eq_none hbody, ← openChainsAt_eq hsplit,
    Nat.add_comm 1 front.length] at hend
  obtain ⟨chain, hchain, hcont⟩ := OpenChains.exists_continues hend hmem
  refine ⟨chain, ?_, hcont⟩
  rw [chains_around hsplit hbody]
  exact List.mem_append_right _ hchain

/-- The chains that are open at a line which is no directive are those around it, each with its
headers in front of the line. -/
theorem mem_openChainsAt_iff (h : split text = .ok fragments) {n : Nat} {line : List Char}
    (hline : Text.IsLine text n line) (hbody : Directive.body? line = none)
    {headers : List Chain.Header} :
    headers ∈ openChainsAt text n ↔ ∃ chain ∈ chains text, chain.Encloses n ∧
      (chain.headers.filter (·.line < n)).reverse = headers := by
  have hpos : 1 ≤ n := (List.mk_mem_zipIdx_iff_le_and_getElem?_sub.1 hline).1
  have hfilter : ∀ chain : Chain, ∀ headers ∈ openChainsAt text n,
      chain.Continues headers (n + 1) →
      (chain.headers.filter (·.line < n)).reverse = headers := by
    intro chain headers hmem hcont
    rw [hcont.filter_lt (fun h hh => ?_) (Nat.le_succ n), List.reverse_reverse]
    exact (descends_openChainsAt text hpos).lt h (List.mem_flatten.2 ⟨headers, hmem, hh⟩)
  constructor
  · intro hmem
    obtain ⟨chain, hchain, hcont⟩ := exists_continues_of_mem_openChainsAt h hline hbody hmem
    exact ⟨chain, hchain, (encloses_iff hline hbody hchain).2 ⟨headers, hmem, hcont⟩,
      hfilter chain headers hmem hcont⟩
  · rintro ⟨chain, hchain, hencloses, rfl⟩
    obtain ⟨headers, hmem, hcont⟩ := (encloses_iff hline hbody hchain).1 hencloses
    rwa [hfilter chain headers hmem hcont]

/-! ## The branches of a chain -/

/-- The line behind a line that exists is behind what that line does; no other line does anything.
-/
theorem openChainsAt_succ (text : List Char) (n : Nat) :
    openChainsAt text (n + 1) = openChainsAt text n ∨
      ∃ line, openChainsAt text (n + 1) = (openChainsAt text n).readLine n line := by
  cases n with
  | zero => exact .inl rfl
  | succ n =>
      rw [openChainsAt, openChainsAt, Nat.add_sub_cancel, Nat.add_sub_cancel]
      rcases Nat.lt_or_ge n (Text.lines text).length with hlt | hge
      · refine .inr ⟨(Text.lines text)[n], ?_⟩
        rw [List.take_succ_eq_append_getElem hlt, OpenChains.readLines_append, List.length_take,
          Nat.min_eq_left (Nat.le_of_lt hlt), Nat.add_comm 1 n]
        rfl
      · rw [List.take_of_length_le hge, List.take_of_length_le (Nat.le_succ_of_le hge)]
        exact .inl rfl

/-- Every chain of a text is the innermost open one at its `#endif`. -/
theorem exists_openChainsAt_stop {chain : Chain} (hchain : chain ∈ chains text) :
    1 ≤ chain.stop ∧ ∃ outer, openChainsAt text chain.stop = chain.headers.reverse :: outer := by
  obtain ⟨front, back, outer, hsplit, hstop, -, hopened⟩ := OpenChains.exists_of_mem_chains hchain
  rw [hstop, Nat.add_comm]
  exact ⟨Nat.le_add_left _ _, outer, (openChainsAt_eq hsplit).trans hopened⟩

/-- The record of the open chains at every line explains those at each line. -/
theorem recorded_openChainsAt (text : List Char) (n : Nat) :
    (openChainsAt text n).Recorded (openChainsAt text) := by
  induction n with
  | zero => exact trivial
  | succ n ih =>
      rcases openChainsAt_succ text n with heq | ⟨line, heq⟩
      · rwa [heq]
      · rw [heq]
        exact ih.readLine rfl heq

/-- The headers of a chain ascend. -/
theorem pairwise_headers {chain : Chain} (hchain : chain ∈ chains text) :
    chain.headers.Pairwise (·.line < ·.line) := by
  obtain ⟨hle, outer, hopened⟩ := exists_openChainsAt_stop hchain
  have hdesc := descends_openChainsAt text hle
  rw [hopened] at hdesc
  exact List.pairwise_reverse.1 (hdesc.pairwise_of_mem List.mem_cons_self)

/-- In a text that has fragments, only the last branch of a chain may lack a condition. -/
theorem isProper_of_mem_chains (h : split text = .ok fragments) {chain : Chain}
    (hchain : chain ∈ chains text) : chain.IsProper := by
  obtain ⟨-, outer, hopened⟩ := exists_openChainsAt_stop hchain
  obtain ⟨blocks, -, hfollow⟩ := exists_follow h chain.stop
  rw [hopened] at hfollow
  intro header hheader
  refine hfollow.isSome_of_mem_tail List.mem_cons_self header ?_
  rw [List.tail_reverse]
  exact List.mem_reverse.2 hheader

/-- Where a branch of a chain begins, the chains around the chain are open, and within them the
chain with its headers so far. -/
theorem openChainsAt_header {chain : Chain} (hchain : chain ∈ chains text) :
    ∃ outer, (∀ first ∈ chain.headers.head?, openChainsAt text first.line = outer) ∧
      ∀ older header later, chain.headers = older.reverse ++ header :: later →
        openChainsAt text (header.line + 1) = (header :: older) :: outer := by
  obtain ⟨-, outer, hopened⟩ := exists_openChainsAt_stop hchain
  have hrecorded := recorded_openChainsAt text chain.stop
  rw [hopened] at hrecorded
  refine ⟨outer, fun first hfirst => hrecorded.1.first first ?_, ?_⟩
  · rwa [List.getLast?_reverse]
  · intro older header later hheaders
    refine hrecorded.1.behind later.reverse header older ?_
    rw [hheaders, List.reverse_append, List.reverse_cons, List.reverse_reverse, List.append_assoc]
    rfl

end Fragment

end GlslPrelude
