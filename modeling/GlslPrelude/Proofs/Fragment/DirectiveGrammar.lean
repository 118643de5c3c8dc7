import Mathlib.Data.List.Induction

/-!
# The grammar of directives

A text without errors is a sequence of chains: each opens with `#if`, `#ifdef` or `#ifndef`, may go
on with any number of `#elif` and with one `#else`, and ends with `#endif`, and between any two of
these stand whole chains again. `Derives` is this grammar, and `follow?` goes through directives
with nothing but a stack of the chains that are open. The two agree: what `followAll?` goes through
is what derivable sequences begin with (`exists_followAll?_iff`), and the chains that it leaves open
are those of the grammar (`followAll?_eq_some_iff`).
-/

namespace GlslPrelude

/-- A directive as it is written. -/
structure DirectiveLine where
  /-- The word that names the directive. -/
  name : String
  /-- What follows the name. -/
  operand : List Char
  /-- Number of the line, counted from 1. -/
  line : Nat
deriving DecidableEq

namespace DirectiveLine

/-! ## The grammar -/

/-- The directive opens a chain. -/
def IsOpening (name : String) : Prop :=
  name = "if" ∨ name = "ifdef" ∨ name = "ifndef"

instance (name : String) : Decidable (IsOpening name) :=
  inferInstanceAs (Decidable (_ ∨ _))

/-- The parts of a sequence of directives. -/
inductive Part where
  /-- Any number of chains. -/
  | body
  /-- What stands between the first and the last directive of a chain; `hasElse` if one of its
  branches begins with `#else`. -/
  | inside (hasElse : Bool)
  /-- One chain. -/
  | chain

/-- The names of directives that make up a part. -/
inductive Derives : Part → List String → Prop
  | empty : Derives .body []
  | more {front back : List String} :
      Derives .body front → Derives .chain back → Derives .body (front ++ back)
  /-- The first branch of a chain. -/
  | first {names : List String} : Derives .body names → Derives (.inside false) names
  /-- A further branch behind `#elif`. -/
  | alternative {front back : List String} :
      Derives (.inside false) front → Derives .body back →
      Derives (.inside false) (front ++ "elif" :: back)
  /-- The last branch behind `#else`. -/
  | otherwise {front back : List String} :
      Derives (.inside false) front → Derives .body back →
      Derives (.inside true) (front ++ "else" :: back)
  | chain {name : String} {names : List String} {hasElse : Bool} :
      IsOpening name → Derives (.inside hasElse) names →
      Derives .chain (name :: (names ++ ["endif"]))

/-- Behind the inside of a chain another chain may follow. -/
theorem Derives.inside_append {hasElse : Bool} {front back : List String}
    (h : Derives (.inside hasElse) front) (hback : Derives .chain back) :
    Derives (.inside hasElse) (front ++ back) := by
  cases h with
  | first hbody => exact .first (hbody.more hback)
  | alternative hinside hbody =>
      rw [List.append_assoc, List.cons_append]
      exact hinside.alternative (hbody.more hback)
  | otherwise hinside hbody =>
      rw [List.append_assoc, List.cons_append]
      exact hinside.otherwise (hbody.more hback)

/-- The names of some directives. -/
def names (ds : List DirectiveLine) : List String :=
  ds.map name

/-- The chain that the directive in line `n` opens is the innermost one that is open behind the
directives: those behind this one are the inside of a chain. -/
def IsInnermostOpen (ds : List DirectiveLine) (n : Nat) : Prop :=
  ∃ front d back hasElse, ds = front ++ d :: back ∧ d.line = n ∧ IsOpening d.name ∧
    Derives (.inside hasElse) (names back)

/-! ## Going through directives -/

/-- A chain whose last directive has not come yet. -/
structure OpenChain where
  /-- Whether its last branch has begun. -/
  hasElse : Bool
  /-- Line of its first directive. -/
  line : Nat

/-- The open chains behind a directive, innermost first; `none` if it cannot stand there. -/
def follow? (opened : List OpenChain) (d : DirectiveLine) : Option (List OpenChain) :=
  if IsOpening d.name then some ({ hasElse := false, line := d.line } :: opened)
  else
    match opened with
    | [] => none
    | chain :: outer =>
      if d.name = "endif" then some outer
      else if chain.hasElse then none
      else if d.name = "elif" then some (chain :: outer)
      else if d.name = "else" then some ({ chain with hasElse := true } :: outer)
      else none

/-- The open chains behind some directives. -/
def followAll? (opened : List OpenChain) (ds : List DirectiveLine) : Option (List OpenChain) :=
  ds.foldlM follow? opened

section Follow

variable {opened opened' outer : List OpenChain} {ds front back : List DirectiveLine}
  {d : DirectiveLine} {n : Nat} {hasElse : Bool}

/-- Going through two stretches is going through the second one behind the first. -/
theorem followAll?_append (opened : List OpenChain) (front back : List DirectiveLine) :
    followAll? opened (front ++ back) =
      (followAll? opened front).bind fun between => followAll? between back :=
  List.foldlM_append

/-- Going through directives begins with the first one. -/
theorem followAll?_cons (opened : List OpenChain) (d : DirectiveLine) (ds : List DirectiveLine) :
    followAll? opened (d :: ds) = (follow? opened d).bind fun between => followAll? between ds :=
  List.foldlM_cons

/-- A directive that opens a chain can stand everywhere. -/
theorem follow?_of_isOpening (h : IsOpening d.name) :
    follow? opened d = some ({ hasElse := false, line := d.line } :: opened) := by
  rw [follow?.eq_def, if_pos h]

/-- `#elif` begins another branch of a chain whose last branch has not begun. -/
theorem follow?_of_elif (h : d.name = "elif") :
    follow? ({ hasElse := false, line := n } :: outer) d =
      some ({ hasElse := false, line := n } :: outer) := by
  simp [follow?, IsOpening, h]

/-- `#else` begins the last branch of a chain. -/
theorem follow?_of_else (h : d.name = "else") :
    follow? ({ hasElse := false, line := n } :: outer) d =
      some ({ hasElse := true, line := n } :: outer) := by
  simp [follow?, IsOpening, h]

/-- `#endif` closes a chain. -/
theorem follow?_of_endif {chain : OpenChain} (h : d.name = "endif") :
    follow? (chain :: outer) d = some outer := by
  simp [follow?, IsOpening, h]

/-- The ways in which a directive can stand behind others. -/
theorem cases_of_follow? (h : follow? opened d = some opened') :
    (IsOpening d.name ∧ opened' = { hasElse := false, line := d.line } :: opened) ∨
      ∃ chain outer, opened = chain :: outer ∧
        (d.name = "endif" ∧ opened' = outer ∨
          chain.hasElse = false ∧ (d.name = "elif" ∧ opened' = chain :: outer ∨
            d.name = "else" ∧ opened' = { chain with hasElse := true } :: outer)) := by
  rw [follow?.eq_def] at h
  split at h
  · rename_i hopening
    cases h
    exact .inl ⟨hopening, rfl⟩
  · split at h
    · cases h
    · rename_i chain outer
      refine .inr ⟨chain, outer, rfl, ?_⟩
      -- the name is not that of an opening directive, so one of the other tests has passed
      grind

/-! ## What was gone through is derivable -/

/-- The directives leave open the given chains, innermost first: in front of and between the
directives that open them, and behind the last one, stand parts of the grammar. -/
def LeavesOpen : List OpenChain → List DirectiveLine → Prop
  | [], ds => Derives .body (names ds)
  | chain :: outer, ds => ∃ front d back, ds = front ++ d :: back ∧ d.line = chain.line ∧
      IsOpening d.name ∧ LeavesOpen outer front ∧ Derives (.inside chain.hasElse) (names back)

/-- A whole chain changes nothing about the chains that are open. -/
theorem LeavesOpen.append_chain (h : LeavesOpen opened ds) (hback : Derives .chain (names back)) :
    LeavesOpen opened (ds ++ back) := by
  cases opened with
  | nil =>
      rw [LeavesOpen, names, List.map_append]
      exact Derives.more h hback
  | cons chain outer =>
      obtain ⟨front, d, inner, rfl, hline, hopening, houter, hinside⟩ := h
      refine ⟨front, d, inner ++ back, ?_, hline, hopening, houter, ?_⟩
      · rw [List.append_assoc, List.cons_append]
      · rw [names, List.map_append]
        exact hinside.inside_append hback

/-- A directive that can stand behind others leaves open what the stack says. -/
theorem LeavesOpen.concat (h : LeavesOpen opened ds) (hfollow : follow? opened d = some opened') :
    LeavesOpen opened' (ds ++ [d]) := by
  obtain ⟨hopening, rfl⟩ | ⟨chain, outer, rfl, hcases⟩ := cases_of_follow? hfollow
  · exact ⟨ds, d, [], rfl, rfl, hopening, h, .first .empty⟩
  · obtain ⟨front, e, inner, rfl, hline, hopening, houter, hinside⟩ := h
    rw [List.append_assoc, List.cons_append]
    obtain ⟨hname, rfl⟩ | ⟨hfirst, ⟨hname, rfl⟩ | ⟨hname, rfl⟩⟩ := hcases
    · -- the innermost chain is complete now
      refine houter.append_chain ?_
      have hchain := Derives.chain hopening hinside
      simpa [names, hname] using hchain
    · refine ⟨front, e, inner ++ [d], rfl, hline, hopening, houter, ?_⟩
      rw [hfirst] at hinside ⊢
      have hnext := hinside.alternative .empty
      simpa [names, hname] using hnext
    · refine ⟨front, e, inner ++ [d], rfl, hline, hopening, houter, ?_⟩
      rw [hfirst] at hinside
      have hlast := hinside.otherwise .empty
      simpa [names, hname] using hlast

/-- The chains that are left open are those of the grammar. -/
theorem leavesOpen_of_followAll? (h : followAll? [] ds = some opened) : LeavesOpen opened ds := by
  induction ds using List.reverseRecOn generalizing opened with
  | nil =>
      cases h
      exact .empty
  | append_singleton ds d ih =>
      rw [followAll?_append] at h
      obtain ⟨between, hfront, hlast⟩ := Option.bind_eq_some_iff.1 h
      rw [followAll?_cons] at hlast
      obtain ⟨_, hfollow, hnil⟩ := Option.bind_eq_some_iff.1 hlast
      cases hnil
      exact (ih hfront).concat hfollow

/-! ## What is derivable can be gone through -/

/-- Going through the directives of a part keeps the chains that are open; inside a chain, that
chain may go over to its last branch. -/
def Part.Keeps (part : Part) (ds : List DirectiveLine) : Prop :=
  match part with
  | .body | .chain => ∀ opened, followAll? opened ds = some opened
  | .inside hasElse => ∀ outer n, followAll? ({ hasElse := false, line := n } :: outer) ds =
      some ({ hasElse, line := n } :: outer)

/-- The parts of the grammar can be gone through. -/
theorem Derives.keeps {part : Part} {ws : List String} (h : Derives part ws) (hds : names ds = ws) :
    part.Keeps ds := by
  induction h generalizing ds with
  | empty =>
      intro opened
      rw [List.map_eq_nil_iff.1 hds]
      rfl
  | more _ _ ih ih' =>
      obtain ⟨front, back, rfl, hfront, hback⟩ := List.map_eq_append_iff.1 hds
      intro opened
      rw [followAll?_append, ih hfront opened]
      exact ih' hback opened
  | first _ ih => exact fun outer n => ih hds _
  | alternative _ _ ih ih' =>
      obtain ⟨front, rest, rfl, hfront, hrest⟩ := List.map_eq_append_iff.1 hds
      obtain ⟨d, back, rfl, hname, hback⟩ := List.map_eq_cons_iff.1 hrest
      intro outer n
      rw [followAll?_append, ih hfront outer n, Option.bind_some, followAll?_cons,
        follow?_of_elif hname]
      exact ih' hback _
  | otherwise _ _ ih ih' =>
      obtain ⟨front, rest, rfl, hfront, hrest⟩ := List.map_eq_append_iff.1 hds
      obtain ⟨d, back, rfl, hname, hback⟩ := List.map_eq_cons_iff.1 hrest
      intro outer n
      rw [followAll?_append, ih hfront outer n, Option.bind_some, followAll?_cons,
        follow?_of_else hname]
      exact ih' hback _
  | chain hopening _ ih =>
      obtain ⟨d, rest, rfl, hname, hrest⟩ := List.map_eq_cons_iff.1 hds
      obtain ⟨inner, last, rfl, hinner, hlast⟩ := List.map_eq_append_iff.1 hrest
      obtain ⟨e, rfl, hend⟩ := List.map_eq_singleton_iff.1 hlast
      intro opened
      rw [← hname] at hopening
      -- the chain is put on the stack, kept there by its inside, and taken off
      rw [followAll?_cons, follow?_of_isOpening hopening, Option.bind_some, followAll?_append,
        ih hinner opened d.line, Option.bind_some, followAll?_cons, follow?_of_endif hend]
      rfl

/-- Going through directives succeeds and leaves some chains open exactly if these are the chains
that the grammar leaves open. -/
theorem followAll?_eq_some_iff : followAll? [] ds = some opened ↔ LeavesOpen opened ds := by
  refine ⟨leavesOpen_of_followAll?, fun h => ?_⟩
  induction opened generalizing ds with
  | nil => exact h.keeps rfl []
  | cons chain outer ih =>
      obtain ⟨front, d, back, rfl, hline, hopening, houter, hinside⟩ := h
      rw [followAll?_append, ih houter, Option.bind_some, followAll?_cons,
        follow?_of_isOpening hopening, Option.bind_some, hinside.keeps rfl outer d.line, hline]

/-- Directives `#endif`, as many as chains are open, close all of them. -/
theorem followAll?_replicate_endif (opened : List OpenChain) :
    followAll? opened
      (List.replicate opened.length { name := "endif", operand := [], line := 0 }) = some [] := by
  induction opened with
  | nil => rfl
  | cons chain outer ih =>
      rw [List.length_cons, List.replicate_succ, followAll?_cons, follow?_of_endif rfl]
      exact ih

/-- Directives can be gone through exactly if a derivable sequence begins with them. -/
theorem exists_followAll?_iff :
    (∃ opened, followAll? [] ds = some opened) ↔ ∃ more, Derives .body (names ds ++ more) := by
  constructor
  · rintro ⟨opened, hopened⟩
    have hclosed := followAll?_replicate_endif opened
    -- the sequence is completed by closing the open chains
    generalize List.replicate opened.length _ = closing at hclosed
    have hall : followAll? [] (ds ++ closing) = some [] := by
      rw [followAll?_append, hopened]
      exact hclosed
    have hbody : Derives .body (names (ds ++ closing)) := leavesOpen_of_followAll? hall
    rw [names, List.map_append] at hbody
    exact ⟨names closing, hbody⟩
  · rintro ⟨more, hmore⟩
    let back : List DirectiveLine := more.map fun name => { name, operand := [], line := 0 }
    have hnames : names (ds ++ back) = names ds ++ more := by
      simp [names, back, Function.comp_def]
    have hall := hmore.keeps hnames []
    rw [followAll?_append] at hall
    obtain ⟨opened, hopened, -⟩ := Option.bind_eq_some_iff.1 hall
    exact ⟨opened, hopened⟩

/-- If chains are left open, the innermost one is the first on the stack. -/
theorem isInnermostOpen_iff {chain : OpenChain} (h : followAll? [] ds = some (chain :: outer)) :
    IsInnermostOpen ds n ↔ n = chain.line := by
  constructor
  · rintro ⟨front, d, back, hasElse, rfl, rfl, hopening, hinside⟩
    rw [followAll?_append] at h
    obtain ⟨between, -, hrest⟩ := Option.bind_eq_some_iff.1 h
    rw [followAll?_cons, follow?_of_isOpening hopening, Option.bind_some,
      hinside.keeps rfl between d.line] at hrest
    cases hrest
    rfl
  · rintro rfl
    obtain ⟨front, d, back, hds, hline, hopening, -, hinside⟩ := leavesOpen_of_followAll? h
    exact ⟨front, d, back, chain.hasElse, hds, hline, hopening, hinside⟩

end Follow

end DirectiveLine

end GlslPrelude
