import GlslPrelude.Fragment.Split
import GlslPrelude.Proofs.Text.Lines
import Mathlib.Data.List.Basic

/-!
# Chains of branches

The directives of a text form chains, each a list of branches from an `#if` to its `#endif`. They
are read off the directives alone, without any condition being combined with another:
`Chain.Encloses` says which lines stand inside a chain, `Chain.branchAt?` in which of its branches,
and `Chain.selected?` which branch a preprocessor takes in an environment.
-/

namespace GlslPrelude

/-- The directive that a line holds, if it can be read. -/
def Directive.ofLine? (line : List Char) : Option Directive :=
  (body? line).bind fun body => (read body).toOption

namespace Chain

/-- The directive that starts a branch of a chain. -/
structure Header where
  /-- Line of the directive. -/
  line : Nat
  /-- The branch's own condition; `none` for the branch behind `#else`. -/
  condition? : Option Condition
deriving DecidableEq

/-- Whether nothing but the earlier branches can keep the branch from being taken: its own condition
holds, or it has none. -/
def Header.holds (env : Environment) (header : Header) : Bool :=
  header.condition?.all (·.eval env)

end Chain

/-- A chain of branches. -/
structure Chain where
  /-- Headers of the branches, in the order of the text. -/
  headers : List Chain.Header
  /-- Line of the `#endif`. -/
  stop : Nat
deriving DecidableEq

namespace Chain

/-- The line stands inside the chain: behind a header and in front of the `#endif`. -/
def Encloses (chain : Chain) (line : Nat) : Prop :=
  (∃ h ∈ chain.headers, h.line < line) ∧ line < chain.stop

instance (chain : Chain) (line : Nat) : Decidable (chain.Encloses line) :=
  inferInstanceAs (Decidable (_ ∧ _))

/-- Header of the branch that a line inside the chain stands in: the last one in front of it. -/
def branchAt? (chain : Chain) (line : Nat) : Option Header :=
  (chain.headers.filter (·.line < line)).getLast?

/-- Header of the branch that the chain selects: the first one whose condition holds, and if there
is none, the one behind `#else`. -/
def selected? (chain : Chain) (env : Environment) : Option Header :=
  (chain.headers.find? fun h => h.condition?.any (·.eval env)).or
    (chain.headers.find? fun h => h.condition?.isNone)

/-- Only the last branch of the chain may lack a condition. -/
def IsProper (chain : Chain) : Prop :=
  ∀ h ∈ chain.headers.dropLast, h.condition?.isSome = true

/-- The chain continues an open one, whose headers are given from the last one back, by headers and
an `#endif` that do not stand in front of a given line. -/
def Continues (chain : Chain) (headers : List Header) (line : Nat) : Prop :=
  ∃ later, chain.headers = headers.reverse ++ later ∧ (∀ h ∈ later, line ≤ h.line) ∧
    line ≤ chain.stop

variable {chain : Chain} {headers : List Header} {line : Nat}

/-- What continues headers behind a line continues them at the line. -/
theorem Continues.of_succ (h : chain.Continues headers (line + 1)) :
    chain.Continues headers line := by
  obtain ⟨later, hheaders, hle, hstop⟩ := h
  exact ⟨later, hheaders, fun h hh => Nat.le_of_succ_le (hle h hh), Nat.le_of_succ_le hstop⟩

/-- What continues headers, the last of which stands at a line, continues the others at that line.
-/
theorem Continues.of_cons {p? : Option Condition}
    (h : chain.Continues ({ line, condition? := p? } :: headers) (line + 1)) :
    chain.Continues headers line := by
  obtain ⟨later, hheaders, hle, hstop⟩ := h
  refine ⟨{ line, condition? := p? } :: later, ?_, ?_, Nat.le_of_succ_le hstop⟩
  · rw [hheaders, List.reverse_cons, List.append_assoc, List.singleton_append]
  · rw [List.forall_mem_cons]
    exact ⟨Nat.le_refl _, fun h hh => Nat.le_of_succ_le (hle h hh)⟩

/-- What continues a single header begins with it. -/
theorem Continues.le_of_singleton {p? : Option Condition}
    (h : chain.Continues [{ line, condition? := p? }] (line + 1)) :
    ∀ h ∈ chain.headers, line ≤ h.line := by
  obtain ⟨later, hheaders, hle, -⟩ := h.of_cons
  rwa [hheaders, List.reverse_nil, List.nil_append]

end Chain

/-- The chains that are open at a line, innermost first, each with its headers from the last one
back. -/
abbrev OpenChains := List (List Chain.Header)

namespace OpenChains

/-- The open chains behind a directive. -/
def step (opened : OpenChains) (line : Nat) : Directive → OpenChains
  | .opening p => [{ line, condition? := some p }] :: opened
  | .alternative p =>
    match opened with
    | [] => []
    | headers :: outer => ({ line, condition? := some p } :: headers) :: outer
  | .otherwise =>
    match opened with
    | [] => []
    | headers :: outer => ({ line, condition? := none } :: headers) :: outer
  | .closing => opened.tail

/-- The open chains behind a line. -/
def readLine (opened : OpenChains) (line : Nat) (text : List Char) : OpenChains :=
  match Directive.ofLine? text with
  | some d => opened.step line d
  | none => opened

/-- The open chains behind the lines that are numbered from a given number on. -/
def readLines (opened : OpenChains) (line : Nat) : List (List Char) → OpenChains
  | [] => opened
  | text :: rest => (opened.readLine line text).readLines (line + 1) rest

/-- The chain that ends with a line. -/
def ending? (opened : OpenChains) (line : Nat) (text : List Char) : Option Chain :=
  match Directive.ofLine? text with
  | some .closing => opened.head?.map fun headers => { headers := headers.reverse, stop := line }
  | _ => none

/-- The chains that end within the lines. -/
def chains (opened : OpenChains) (line : Nat) : List (List Char) → List Chain
  | [] => []
  | text :: rest =>
    (opened.ending? line text).toList ++ (opened.readLine line text).chains (line + 1) rest

end OpenChains

namespace Fragment

/-- The chains of a text. -/
def chains (text : List Char) : List Chain :=
  OpenChains.chains [] 1 (Text.lines text)

/-- The chains that are open at a line of a text. -/
def openChainsAt (text : List Char) (line : Nat) : OpenChains :=
  OpenChains.readLines [] 1 ((Text.lines text).take (line - 1))

end Fragment

namespace OpenChains

variable {opened : OpenChains} {line : Nat} {text : List Char}

/-! ## Reading lines -/

/-- Reading two stretches of lines is reading the second one behind the first. -/
theorem readLines_append (opened : OpenChains) (line : Nat) (front back : List (List Char)) :
    opened.readLines line (front ++ back) =
      (opened.readLines line front).readLines (line + front.length) back := by
  induction front generalizing opened line with
  | nil => rfl
  | cons text front ih =>
      rw [List.cons_append, readLines, readLines, ih, List.length_cons]
      congr 1
      omega

/-- The chains of two stretches of lines. -/
theorem chains_append (opened : OpenChains) (line : Nat) (front back : List (List Char)) :
    opened.chains line (front ++ back) =
      opened.chains line front ++
        (opened.readLines line front).chains (line + front.length) back := by
  induction front generalizing opened line with
  | nil => rfl
  | cons text front ih =>
      rw [List.cons_append, chains, chains, readLines, ih, List.append_assoc, List.length_cons]
      congr 3
      omega

/-- What a line does to the open chains, by its directive. -/
theorem readLine_cases (opened : OpenChains) (line : Nat) (text : List Char) :
    (opened.readLine line text = opened ∧ opened.ending? line text = none) ∨
      (∃ p, opened.readLine line text = [{ line, condition? := some p }] :: opened ∧
        opened.ending? line text = none) ∨
      (∃ p? headers outer, opened = headers :: outer ∧
        opened.readLine line text = ({ line, condition? := p? } :: headers) :: outer ∧
        opened.ending? line text = none) ∨
      ∃ headers outer, opened = headers :: outer ∧ opened.readLine line text = outer ∧
        opened.ending? line text = some { headers := headers.reverse, stop := line } := by
  rw [readLine, ending?]
  cases Directive.ofLine? text with
  | none => exact .inl ⟨rfl, rfl⟩
  | some d =>
      cases d with
      | opening p => exact .inr (.inl ⟨p, rfl, rfl⟩)
      | alternative p =>
          cases opened with
          | nil => exact .inl ⟨rfl, rfl⟩
          | cons headers outer => exact .inr (.inr (.inl ⟨some p, headers, outer, rfl, rfl, rfl⟩))
      | otherwise =>
          cases opened with
          | nil => exact .inl ⟨rfl, rfl⟩
          | cons headers outer => exact .inr (.inr (.inl ⟨none, headers, outer, rfl, rfl, rfl⟩))
      | closing =>
          cases opened with
          | nil => exact .inl ⟨rfl, rfl⟩
          | cons headers outer => exact .inr (.inr (.inr ⟨headers, outer, rfl, rfl, rfl⟩))

/-- A line that is no directive leaves the open chains as they are. -/
theorem readLine_of_body?_eq_none (h : Directive.body? text = none) :
    opened.readLine line text = opened := by
  rw [readLine, Directive.ofLine?, h]
  rfl

/-- A chain that ends within lines is the innermost open one at the line that ends it. -/
theorem exists_of_mem_chains {ls : List (List Char)} {chain : Chain}
    (h : chain ∈ opened.chains line ls) :
    ∃ front back outer, ls = front ++ back ∧ chain.stop = line + front.length ∧
      front.length < ls.length ∧ opened.readLines line front = chain.headers.reverse :: outer := by
  induction ls generalizing opened line with
  | nil => cases h
  | cons text rest ih =>
      rw [chains, List.mem_append, Option.mem_toList] at h
      rcases h with h | h
      · -- only a line that closes the innermost chain ends one
        rcases readLine_cases opened line text with ⟨-, hend⟩ | ⟨_, -, hend⟩ |
          ⟨_, _, _, -, -, hend⟩ | ⟨headers, outer, rfl, -, hend⟩ <;> rw [hend] at h <;> cases h
        refine ⟨[], text :: rest, outer, rfl, rfl, Nat.succ_pos _, ?_⟩
        rw [List.reverse_reverse]
        rfl
      · obtain ⟨front, back, outer, rfl, hstop, hlt, hopened⟩ := ih h
        refine ⟨text :: front, back, outer, rfl, ?_, Nat.succ_lt_succ hlt, hopened⟩
        rw [hstop, List.length_cons]
        omega

/-! ## The order of the headers -/

/-- From the innermost chain outwards and from the last header of each chain back, the headers of
the open chains descend, and all stand in front of a given line. -/
structure Descends (opened : OpenChains) (line : Nat) : Prop where
  /-- Every open chain has a header. -/
  ne_nil : ∀ headers ∈ opened, headers ≠ []
  /-- Headers descend. -/
  pairwise : opened.flatten.Pairwise fun h h' => h'.line < h.line
  /-- The headers stand in front of the line. -/
  lt : ∀ h ∈ opened.flatten, h.line < line

/-- A line keeps the order of the headers. -/
theorem Descends.readLine (h : opened.Descends line) (text : List Char) :
    (opened.readLine line text).Descends (line + 1) := by
  obtain ⟨hne, hpairwise, hlt⟩ := h
  -- a new header stands at the line, behind all the others
  rcases readLine_cases opened line text with ⟨heq, -⟩ | ⟨p, heq, -⟩ |
    ⟨p?, headers, outer, rfl, heq, -⟩ | ⟨headers, outer, rfl, heq, -⟩ <;> rw [heq]
  · exact ⟨hne, hpairwise, fun h hh => Nat.lt_succ_of_lt (hlt h hh)⟩
  · refine ⟨by simpa using hne, ?_, ?_⟩
    · simpa using ⟨fun h hs hhs hh => hlt h (List.mem_flatten.2 ⟨hs, hhs, hh⟩), hpairwise⟩
    · rw [List.flatten_cons, List.singleton_append, List.forall_mem_cons]
      exact ⟨Nat.lt_succ_self line, fun h hh => Nat.lt_succ_of_lt (hlt h hh)⟩
  · rw [List.flatten_cons] at hpairwise hlt
    refine ⟨?_, ?_, ?_⟩
    · simp only [List.forall_mem_cons] at hne ⊢
      exact ⟨by simp, hne.2⟩
    · rw [List.flatten_cons, List.cons_append, List.pairwise_cons]
      exact ⟨hlt, hpairwise⟩
    · rw [List.flatten_cons, List.cons_append, List.forall_mem_cons]
      exact ⟨Nat.lt_succ_self line, fun h hh => Nat.lt_succ_of_lt (hlt h hh)⟩
  · rw [List.flatten_cons] at hpairwise hlt
    exact ⟨fun hs hhs => hne hs (by simp [hhs]), (List.pairwise_append.1 hpairwise).2.1,
      fun h hh => Nat.lt_succ_of_lt (hlt h (by simp [hh]))⟩

/-- Lines keep the order of the headers. -/
theorem Descends.readLines (h : opened.Descends line) (ls : List (List Char)) :
    (opened.readLines line ls).Descends (line + ls.length) := by
  induction ls generalizing opened line with
  | nil => exact h
  | cons text rest ih =>
      rw [OpenChains.readLines, List.length_cons, Nat.add_comm rest.length, ← Nat.add_assoc]
      exact ih (h.readLine text)

/-- The headers of one open chain descend. -/
theorem Descends.pairwise_of_mem (h : opened.Descends line) {headers : List Chain.Header}
    (hmem : headers ∈ opened) : headers.Pairwise fun h h' => h'.line < h.line :=
  (List.pairwise_flatten.1 h.pairwise).1 headers hmem

/-! ## How open chains are continued -/

/-- If no chain is left open, every open chain is continued by a chain that ends. -/
theorem exists_continues {ls : List (List Char)} (hend : opened.readLines line ls = [])
    {headers : List Chain.Header} (hmem : headers ∈ opened) :
    ∃ chain ∈ opened.chains line ls, chain.Continues headers line := by
  induction ls generalizing opened line headers with
  | nil =>
      rw [readLines] at hend
      rw [hend] at hmem
      cases hmem
  | cons text rest ih =>
      rw [readLines] at hend
      -- a chain that continues the headers behind the line also continues them at the line
      have later : headers ∈ opened.readLine line text →
          ∃ chain ∈ opened.chains line (text :: rest), chain.Continues headers line := by
        intro hmem
        obtain ⟨chain, hchain, hcont⟩ := ih hend hmem
        refine ⟨chain, ?_, hcont.of_succ⟩
        rw [chains]
        exact List.mem_append_right _ hchain
      rcases readLine_cases opened line text with ⟨heq, -⟩ | ⟨p, heq, -⟩ |
        ⟨p?, top, outer, rfl, heq, -⟩ | ⟨top, outer, rfl, heq, hending⟩
      · exact later (by rwa [heq])
      · exact later (by rw [heq]; exact List.mem_cons_of_mem _ hmem)
      · rcases List.mem_cons.1 hmem with rfl | hmem
        · obtain ⟨chain, hchain, hcont⟩ := ih hend (by rw [heq]; exact List.mem_cons_self)
          refine ⟨chain, ?_, hcont.of_cons⟩
          rw [chains]
          exact List.mem_append_right _ hchain
        · exact later (by rw [heq]; exact List.mem_cons_of_mem _ hmem)
      · rcases List.mem_cons.1 hmem with rfl | hmem
        · -- the line ends the chain in question
          refine ⟨{ headers := headers.reverse, stop := line }, ?_, [], by simp, by simp,
            Nat.le_refl _⟩
          rw [chains, hending]
          exact List.mem_append_left _ (by simp)
        · exact later (by rwa [heq])

/-- A chain that ends continues an open one or begins behind it. -/
theorem continues_or_le {ls : List (List Char)} {chain : Chain}
    (h : chain ∈ opened.chains line ls) :
    (∃ headers ∈ opened, chain.Continues headers line) ∨ ∀ h ∈ chain.headers, line ≤ h.line := by
  induction ls generalizing opened line with
  | nil => cases h
  | cons text rest ih =>
      rw [chains, List.mem_append, Option.mem_toList] at h
      -- the chain ends with the first line, or the hypothesis applies to what the line leaves open
      rcases readLine_cases opened line text with ⟨heq, hending⟩ | ⟨p, heq, hending⟩ |
        ⟨p?, top, outer, rfl, heq, hending⟩ | ⟨top, outer, rfl, heq, hending⟩ <;>
        rw [heq, hending] at h
      · rcases h with h | h
        · cases h
        · rcases ih h with ⟨headers, hmem, hcont⟩ | hle
          · exact .inl ⟨headers, hmem, hcont.of_succ⟩
          · exact .inr fun h hh => Nat.le_of_succ_le (hle h hh)
      · rcases h with h | h
        · cases h
        · rcases ih h with ⟨headers, hmem, hcont⟩ | hle
          · rcases List.mem_cons.1 hmem with rfl | hmem
            · -- the chain begins with this line
              exact .inr hcont.le_of_singleton
            · exact .inl ⟨headers, hmem, hcont.of_succ⟩
          · exact .inr fun h hh => Nat.le_of_succ_le (hle h hh)
      · rcases h with h | h
        · cases h
        · rcases ih h with ⟨headers, hmem, hcont⟩ | hle
          · rcases List.mem_cons.1 hmem with rfl | hmem
            · exact .inl ⟨top, by simp, hcont.of_cons⟩
            · exact .inl ⟨headers, by simp [hmem], hcont.of_succ⟩
          · exact .inr fun h hh => Nat.le_of_succ_le (hle h hh)
      · rcases h with h | h
        · cases h
          exact .inl ⟨top, by simp, [], by simp, by simp, Nat.le_refl _⟩
        · rcases ih h with ⟨headers, hmem, hcont⟩ | hle
          · exact .inl ⟨headers, by simp [hmem], hcont.of_succ⟩
          · exact .inr fun h hh => Nat.le_of_succ_le (hle h hh)

end OpenChains

/-! ## Where headers come from -/

/-- A record of the open chains at every line explains the headers of one of them, given from the
last one back, within the chains around it. -/
structure Chain.Recorded (record : Nat → OpenChains) (outer : OpenChains)
    (headers : List Chain.Header) : Prop where
  /-- There is a header. -/
  ne_nil : headers ≠ []
  /-- The first header stands inside the chains around. -/
  first : ∀ h ∈ headers.getLast?, record h.line = outer
  /-- Behind each header the chain has the headers so far. -/
  behind : ∀ newer h older, headers = newer ++ h :: older →
    record (h.line + 1) = (h :: older) :: outer

namespace OpenChains

/-- A record of the open chains at every line explains all those that are open. -/
def Recorded (record : Nat → OpenChains) : OpenChains → Prop
  | [] => True
  | headers :: outer => Chain.Recorded record outer headers ∧ Recorded record outer

variable {record : Nat → OpenChains} {opened : OpenChains} {line : Nat} {text : List Char}

/-- A record that explains the open chains at a line explains those behind it. -/
theorem Recorded.readLine (h : opened.Recorded record) (hline : record line = opened)
    (hnext : record (line + 1) = opened.readLine line text) :
    (opened.readLine line text).Recorded record := by
  rcases readLine_cases opened line text with ⟨heq, -⟩ | ⟨p, heq, -⟩ |
    ⟨p?, headers, outer, rfl, heq, -⟩ | ⟨headers, outer, rfl, heq, -⟩ <;> rw [heq] at hnext ⊢
  · exact h
  · -- a chain begins inside those that the record has at the line
    refine ⟨⟨by simp, ?_, ?_⟩, h⟩
    · rintro first ⟨⟩
      exact hline
    · intro newer first older hheaders
      obtain ⟨rfl, rfl, rfl⟩ :
          newer = [] ∧ first = { line, condition? := some p } ∧ older = [] := by
        cases newer <;> simp_all
      exact hnext
  · -- the innermost chain gets another header and keeps its first one
    obtain ⟨⟨hne, hfirst, hbehind⟩, houter⟩ := h
    refine ⟨⟨by simp, ?_, ?_⟩, houter⟩
    · intro first hlast
      rw [List.getLast?_cons_of_ne_nil hne] at hlast
      exact hfirst first hlast
    · intro newer header older hheaders
      cases newer with
      | nil =>
          obtain ⟨rfl, rfl⟩ := List.cons.inj hheaders
          exact hnext
      | cons _ newer => exact hbehind newer header older (List.cons.inj hheaders).2
  · exact h.2

/-- What a record has behind the last header of an open chain is that chain and those around it. -/
theorem Recorded.suffix_of_mem (h : opened.Recorded record) {header : Chain.Header}
    {older : List Chain.Header} (hmem : header :: older ∈ opened) :
    record (header.line + 1) <:+ opened := by
  induction opened with
  | nil => cases hmem
  | cons headers outer ih =>
      rcases List.mem_cons.1 hmem with rfl | hmem
      · refine ⟨[], ?_⟩
        rw [List.nil_append, h.1.behind [] header older rfl]
      · exact (ih h.2 hmem).trans (List.suffix_cons headers outer)

end OpenChains

end GlslPrelude
