import GlslPrelude.Proofs.Condition.Conjunction
import GlslPrelude.Proofs.Fragment.Placement
import GlslPrelude.Proofs.Fragment.WellFormed
import Mathlib.Data.List.Basic

/-!
# Blocks in blocks

The lines in a block never reach the blocks around it, and of these only the condition in effect
matters to them (`Blocks.exists_readLines_append`). So lines stand under the same condition in two
texts that group the conditions of nested blocks differently, `a && b` around `c` in one of them and
`a` around `b && c` in the other (`Fragment.combinators_regroup`).
-/

namespace GlslPrelude

namespace DirectiveLine

/-! ## Directives among lines -/

section Lines

variable {ls : List (List Char)} {text : List Char} {n : Nat}

/-- The directives on a line and on further lines. -/
theorem ofLines_cons (n : Nat) (text : List Char) (ls : List (List Char)) :
    ofLines n (text :: ls) = (ofText? text n).toList ++ ofLines (n + 1) ls := by
  cases hd : ofText? text n <;> simp [ofLines, hd]

/-- The directives on two stretches of lines. -/
theorem ofLines_append (n : Nat) (front back : List (List Char)) :
    ofLines n (front ++ back) = ofLines n front ++ ofLines (n + front.length) back := by
  rw [ofLines, List.zipIdx_append, List.filterMap_append]
  rfl

/-- The names of the directives on the lines. -/
def lineNames (ls : List (List Char)) : List String :=
  ls.filterMap fun text => (ofText? text 1).map name

/-- The names do not depend on the numbers of the lines. -/
theorem names_ofLines (n : Nat) (ls : List (List Char)) : names (ofLines n ls) = lineNames ls := by
  induction ls generalizing n with
  | nil => rfl
  | cons text ls ih =>
      rw [ofLines_cons, names, List.map_append]
      change _ ++ names _ = _
      rw [ih, lineNames, lineNames, List.filterMap_cons, ofText?, ofText?]
      cases Directive.body? text <;> rfl

/-- Every block that begins on the lines ends on them, and no other one does. -/
def AreWholeBlocks (ls : List (List Char)) : Prop :=
  Derives .body (lineNames ls)

/-- No directive on the lines belongs to a block that begins in front of them. -/
def StayInside (ls : List (List Char)) : Prop :=
  ∃ more, Derives .body (lineNames ls ++ more)

/-- Behind whole blocks the same chains are open as in front of them. -/
theorem AreWholeBlocks.followAll? (h : AreWholeBlocks ls) (n : Nat) (opened : List OpenChain) :
    followAll? opened (ofLines n ls) = some opened :=
  Derives.keeps h (names_ofLines n ls) opened

/-- The directives on lines that stay inside can be gone through without the chains around them. -/
theorem StayInside.exists_followAll? (h : StayInside ls) (n : Nat) :
    ∃ opened, followAll? [] (ofLines n ls) = some opened := by
  obtain ⟨more, hmore⟩ := h
  rw [← names_ofLines n] at hmore
  exact exists_followAll?_iff.2 ⟨more, hmore⟩

/-- The line is `#if` with the tokens of a condition behind it. -/
def IsIf (text : List Char) (tokens : List Condition.Token) : Prop :=
  ∃ operand, Condition.IsCut operand tokens ∧
    ∀ n, ofText? text n = some { name := "if", operand, line := n }

end Lines

end DirectiveLine

open DirectiveLine

namespace Blocks

/-! ## Reading lines on top of other blocks -/

variable {inner inner' outer outer' blocks blocks' : Blocks} {n : Nat} {text : List Char}
  {ls : List (List Char)} {opened' : List OpenChain}

/-- Of the blocks below others only the condition counts. -/
theorem condition_append (inner : Blocks) (h : outer'.condition = outer.condition) :
    Blocks.condition (inner ++ outer') = Blocks.condition (inner ++ outer) := by
  cases inner with
  | nil => exact h
  | cons branch rest => rfl

/-- A directive that opens no block changes blocks in the same way on top of any others. -/
theorem step_append {directive : Directive} (hne : ∀ p, directive ≠ .opening p)
    (h : inner.step n directive = .ok inner') (outer : Blocks) :
    Blocks.step (inner ++ outer) n directive = .ok (inner' ++ outer) := by
  fun_cases Blocks.step inner n directive <;> simp_all [Blocks.step] <;> grind

/-- A directive is read and followed. -/
theorem readLine_eq_step {body : List Char} {directive : Directive}
    (hbody : Directive.body? text = some body) (hread : Directive.read body = .ok directive) :
    blocks.readLine n text = blocks.step n directive := by
  rw [readLine, hbody]
  dsimp only
  rw [hread]
  rfl

/-- A line of directives that can stand behind some blocks changes them in the same way on top of
any others with the same condition. -/
theorem exists_readLine_append {d : DirectiveLine} (hd : ofText? text n = some d)
    (hfollow : follow? inner.opened d = some opened')
    (h : Blocks.readLine (inner ++ outer) n text = .ok blocks) :
    ∃ inner' : Blocks, inner'.opened = opened' ∧
      ∀ outer' : Blocks, outer'.condition = outer.condition →
        Blocks.readLine (inner ++ outer') n text = .ok (inner' ++ outer') := by
  obtain ⟨body, hbody, hline⟩ := exists_body_of_ofText? hd
  obtain ⟨-, directive, hread, hnamed⟩ | ⟨-, fault, hread, -⟩ := Directive.cases_of_read hbody hd
  · simp only [readLine_eq_step hbody hread]
    by_cases hopening : ∃ p, directive = .opening p
    · -- the new block takes up the condition in effect below it
      obtain ⟨p, rfl⟩ := hopening
      rw [follow?_of_isOpening hnamed] at hfollow
      cases hfollow
      refine ⟨Branch.first (Blocks.condition (inner ++ outer)) p n :: inner, ?_, ?_⟩
      · rw [hline]
        rfl
      · intro outer' hcond
        rw [← condition_append inner hcond]
        rfl
    · have hstep : (inner.step d.line directive).toOption.map opened = follow? inner.opened d :=
        toOption_step hnamed
      rw [hline, hfollow] at hstep
      cases hinner : inner.step n directive with
      | error fault => rw [hinner] at hstep; cases hstep
      | ok inner' =>
          rw [hinner] at hstep
          exact ⟨inner', Option.some.inj hstep,
            fun outer' _ => step_append (not_exists.1 hopening) hinner outer'⟩
  · rw [readLine, hbody] at h
    dsimp only at h
    rw [hread] at h
    cases h

/-- Lines whose directives can stand behind some blocks change them in the same way on top of any
others with the same condition. -/
theorem exists_readLines_append (hfollow : followAll? inner.opened (ofLines n ls) = some opened')
    (h : Blocks.readLines (inner ++ outer) n ls = .ok blocks) :
    ∃ inner' : Blocks, inner'.opened = opened' ∧
      ∀ outer' : Blocks, outer'.condition = outer.condition →
        Blocks.readLines (inner ++ outer') n ls = .ok (inner' ++ outer') := by
  -- the chains that the lines have opened so far decide which directive may come next
  induction ls generalizing inner n with
  | nil => exact ⟨inner, Option.some.inj hfollow, fun _ _ => rfl⟩
  | cons text ls ih =>
      simp only [readLines] at h ⊢
      rw [ofLines_cons] at hfollow
      cases hd : ofText? text n with
      | none =>
          have hbody : Directive.body? text = none := Option.map_eq_none_iff.1 hd
          simp only [readLine_of_body?_eq_none hbody] at h ⊢
          rw [hd] at hfollow
          exact ih hfollow h
      | some d =>
          rw [hd, Option.toList_some, List.singleton_append, followAll?_cons] at hfollow
          obtain ⟨between, hfirst, hmore⟩ := Option.bind_eq_some_iff.1 hfollow
          cases hread : Blocks.readLine (inner ++ outer) n text with
          | error fault => rw [hread] at h; cases h
          | ok next =>
              obtain ⟨inner', rfl, hinner'⟩ := exists_readLine_append hd hfirst hread
              rw [hinner' outer rfl] at h
              obtain ⟨last, hlast, hall⟩ := ih hmore h
              refine ⟨last, hlast, fun outer' hcond => ?_⟩
              rw [hinner' outer' hcond]
              exact hall outer' hcond

/-- Whole blocks leave the blocks as they are. -/
theorem readLines_of_areWholeBlocks (hls : AreWholeBlocks ls)
    (h : blocks.readLines n ls = .ok blocks') : blocks' = blocks := by
  have hread : Blocks.readLines ([] ++ blocks) n ls = .ok blocks' := h
  obtain ⟨inner, hopened, hinner⟩ := exists_readLines_append (hls.followAll? n _) hread
  obtain rfl : inner = [] := List.map_eq_nil_iff.1 hopened
  rw [← List.nil_append blocks, hinner blocks rfl] at h
  exact (Except.ok.inj h).symm

/-- Lines that stay inside put the same blocks on top of any others with the same condition. -/
theorem exists_readLines_of_stayInside (hls : StayInside ls)
    (h : outer.readLines n ls = .ok blocks) :
    ∃ inner : Blocks, ∀ outer' : Blocks, outer'.condition = outer.condition →
      outer'.readLines n ls = .ok (inner ++ outer') := by
  have hread : Blocks.readLines ([] ++ outer) n ls = .ok blocks := h
  obtain ⟨opened, hopened⟩ : ∃ opened, followAll? (Blocks.opened []) (ofLines n ls) = some opened :=
    hls.exists_followAll? n
  obtain ⟨inner, -, hinner⟩ := exists_readLines_append hopened hread
  exact ⟨inner, hinner⟩

/-! ## Nested blocks -/

section Nested

variable {p r : Condition} {a c : List Condition.Token} {first second : List Char}
  {between : List (List Char)}

/-- A line `#if` opens a block under the condition behind it. -/
theorem readLine_of_isIf (hif : IsIf text a) (ha : Condition.IsJoinable a p) (blocks : Blocks)
    (n : Nat) : blocks.readLine n text = .ok (Branch.first blocks.condition p n :: blocks) := by
  obtain ⟨operand, hcut, hd⟩ := hif
  obtain ⟨body, hbody, hline⟩ := Option.map_eq_some_iff.1 (hd n)
  simp only [DirectiveLine.mk.injEq] at hline
  obtain ⟨hname, rfl, -⟩ := hline
  have hcondition := ha.parse_eq hcut
  have hdirective : Directive.read body = .ok (.opening p) := by
    rw [Directive.read, hname]
    change (Directive.readCondition _).map Directive.opening = _
    rw [Directive.readCondition, hcondition]
    rfl
  rw [readLine_eq_step hbody hdirective]
  rfl

/-- The condition in effect in a block that whole blocks precede in another block. -/
theorem condition_of_readLines_nested (hfirst : IsIf first a) (ha : Condition.IsJoinable a p)
    (hsecond : IsIf second c) (hc : Condition.IsJoinable c r) (hbetween : AreWholeBlocks between)
    (h : blocks.readLines n (first :: (between ++ [second])) = .ok blocks') :
    blocks'.condition = (blocks.condition.and p).and r := by
  rw [readLines, readLine_of_isIf hfirst ha] at h
  obtain ⟨behind, hbehind, hlast⟩ := readLines_of_append h
  obtain rfl := readLines_of_areWholeBlocks hbetween hbehind
  rw [readLines, readLine_of_isIf hsecond hc] at hlast
  cases hlast
  rfl

end Nested

end Blocks

namespace Fragment

open Condition (IsConjunction IsJoinable)

variable {text text' : List Char} {a b c : List Condition.Token} {n : Nat}

/-- Two texts differ in the conditions of a block and of another block in its first branch: `a && b`
and `c` in the one, `a` and `b && c` in the other. Line `n` stands in the first branch of the inner
block, perhaps in further blocks. -/
def Regroups (a b c : List Condition.Token) (text text' : List Char) (n : Nat) : Prop :=
  ∃ (above between inside below : List (List Char)) (first second first' second' : List Char),
    Text.lines text = above ++ first :: (between ++ second :: (inside ++ below)) ∧
    Text.lines text' = above ++ first' :: (between ++ second' :: (inside ++ below)) ∧
    n = above.length + between.length + inside.length + 3 ∧
    IsIf first (a ++ .and :: b) ∧ IsIf second c ∧ IsIf first' a ∧ IsIf second' (b ++ .and :: c) ∧
    AreWholeBlocks between ∧ StayInside inside

/-- A text has fragments exactly if its directives break no rule and leave no chain open. -/
theorem exists_split_iff (text : List Char) :
    (∃ fragments, split text = .ok fragments) ↔ Reaches (ofLines 1 (Text.lines text)) [] := by
  obtain ⟨fragments, hsplit, hreaches⟩ | ⟨chain, outer, hsplit, hreaches⟩ |
    ⟨e, hsplit, hne, hbreak⟩ := outcomes_of_split text
  · exact iff_of_true ⟨fragments, hsplit⟩ hreaches
  · refine iff_of_false (by simp [hsplit]) fun hclosed => ?_
    cases hreaches.unique hclosed
  · refine iff_of_false (by simp [hsplit]) fun hclosed => ?_
    exact hbreak.not_obeyRules (obeyRules_iff.2 ⟨_, hclosed⟩)

/-- Which condition stands behind `#if` decides nothing about the other directives. -/
theorem reaches_replace {line line' : List Char} {p p' : Condition} (hline : IsIf line a)
    (ha : IsJoinable a p) (hline' : IsIf line' c) (hc : IsJoinable c p')
    (front back : List (List Char)) :
    Reaches (ofLines 1 (front ++ line :: back)) [] ↔
      Reaches (ofLines 1 (front ++ line' :: back)) [] := by
  obtain ⟨operand, hcut, hd⟩ := hline
  obtain ⟨operand', hcut', hd'⟩ := hline'
  have hlegible : ∀ n, IsLegible { name := "if", operand, line := n } := fun n =>
    .condition (.inl rfl) (ha.parse_eq hcut)
  have hlegible' : ∀ n, IsLegible { name := "if", operand := operand', line := n } := fun n =>
    .condition (.inl rfl) (hc.parse_eq hcut')
  simp only [reaches_nil_iff, ofLines_append, ofLines_cons, hd, hd', names, Option.toList_some,
    List.singleton_append, List.map_append, List.map_cons, List.forall_mem_append,
    List.forall_mem_cons, hlegible, hlegible', true_and]

/-- A place in nested blocks is reached from behind the first line of the inner one, where the
conditions of both blocks are in effect. -/
theorem exists_readLines_nested {fragments : List Fragment} (hsplit : split text = .ok fragments)
    {above between inside below : List (List Char)} {first second : List Char} {p r : Condition}
    (hlines : Text.lines text = above ++ first :: (between ++ second :: (inside ++ below)))
    (hfirst : IsIf first a) (ha : IsJoinable a p) (hsecond : IsIf second c) (hc : IsJoinable c r)
    (hbetween : AreWholeBlocks between) :
    ∃ blocks nested last : Blocks, Blocks.readLines [] 1 above = .ok blocks ∧
      nested.condition = (blocks.condition.and p).and r ∧
      nested.readLines (above.length + between.length + 3) inside = .ok last ∧
      blocksAt text (above.length + between.length + inside.length + 3) = .ok last := by
  have hfront : Text.lines text =
      (above ++ (first :: (between ++ [second]) ++ inside)) ++ below := by
    simp [hlines]
  obtain ⟨last, hlast⟩ :=
    exists_blocksAt hsplit (above.length + between.length + inside.length + 3)
  have hread := hlast
  rw [show above.length + between.length + inside.length + 3 =
      (above ++ (first :: (between ++ [second]) ++ inside)).length + 1 by simp; omega,
    blocksAt_eq hfront] at hread
  obtain ⟨blocks, habove, hread⟩ := Blocks.readLines_of_append hread
  obtain ⟨nested, hnested, hread⟩ := Blocks.readLines_of_append hread
  refine ⟨blocks, nested, last, habove,
    Blocks.condition_of_readLines_nested hfirst ha hsecond hc hbetween hnested, ?_, hlast⟩
  rwa [show 1 + above.length + (first :: (between ++ [second])).length =
    above.length + between.length + 3 by simp; omega] at hread

/-- Texts that group the conditions of nested blocks differently have fragments both or neither. -/
theorem exists_split_iff_of_regroups (ha : IsConjunction a) (hb : IsConjunction b)
    (hc : IsConjunction c) (h : Regroups a b c text text' n) :
    (∃ fragments, split text = .ok fragments) ↔ ∃ fragments, split text' = .ok fragments := by
  obtain ⟨above, between, inside, below, first, second, first', second', hlines, hlines', -,
    hfirst, hsecond, hfirst', hsecond', -, -⟩ := h
  obtain ⟨p, hp⟩ := IsJoinable.exists_of_isConjunction ha
  obtain ⟨q, hq⟩ := IsJoinable.exists_of_isConjunction hb
  obtain ⟨r, hr⟩ := IsJoinable.exists_of_isConjunction hc
  -- the first lines of the two blocks are replaced one after the other
  have houter := reaches_replace hfirst (hp.join hq) hfirst' hp above
    (between ++ second :: (inside ++ below))
  have hinner := reaches_replace hsecond hr hsecond' (hq.join hr) (above ++ first' :: between)
    (inside ++ below)
  rw [List.append_assoc, List.append_assoc, List.cons_append, List.cons_append] at hinner
  rw [exists_split_iff, exists_split_iff, hlines, hlines', houter, hinner]

/-- Lines in nested blocks stand under the same condition however the conditions of the blocks are
grouped. -/
theorem conditionAt_of_regroups (ha : IsConjunction a) (hb : IsConjunction b)
    (hc : IsConjunction c) (h : Regroups a b c text text' n) {fragments : List Fragment}
    (hsplit : split text = .ok fragments) :
    ∃ p, conditionAt text n = .ok p ∧ conditionAt text' n = .ok p := by
  obtain ⟨fragments', hsplit'⟩ := (exists_split_iff_of_regroups ha hb hc h).1 ⟨fragments, hsplit⟩
  obtain ⟨above, between, inside, below, first, second, first', second', hlines, hlines', rfl,
    hfirst, hsecond, hfirst', hsecond', hbetween, hinside⟩ := h
  obtain ⟨p, hp⟩ := IsJoinable.exists_of_isConjunction ha
  obtain ⟨q, hq⟩ := IsJoinable.exists_of_isConjunction hb
  obtain ⟨r, hr⟩ := IsJoinable.exists_of_isConjunction hc
  obtain ⟨blocks, nested, last, habove, hcond, hinner, hlast⟩ :=
    exists_readLines_nested hsplit hlines hfirst (hp.join hq) hsecond hr hbetween
  obtain ⟨blocks', nested', last', habove', hcond', hinner', hlast'⟩ :=
    exists_readLines_nested hsplit' hlines' hfirst' hp hsecond' (hq.join hr) hbetween
  cases habove.symm.trans habove'
  -- behind the first line of the inner block both texts have the same condition in effect
  have hsame : nested'.condition = nested.condition := by
    rw [hcond, hcond', ← Condition.and_assoc, ← Condition.and_assoc]
  obtain ⟨top, htop⟩ := Blocks.exists_readLines_of_stayInside hinside hinner
  rw [htop nested rfl] at hinner
  rw [htop nested' hsame] at hinner'
  cases hinner
  cases hinner'
  refine ⟨Blocks.condition (top ++ nested), ?_, ?_⟩
  · rw [conditionAt, hlast]
    rfl
  · rw [conditionAt, hlast', ← Blocks.condition_append top hsame]
    rfl

/-- Conjunctions and disjunctions are the same trees however they are grouped, `always` is neutral
in the ones and absorbs the others, and the combinators mean what they are named for. So nested
blocks govern their lines under the same condition, as a tree, however the terms of their conditions
are distributed. -/
theorem combinators_regroup :
    (∀ p q r : Condition, (p.and q).and r = p.and (q.and r)) ∧
    (∀ p : Condition, Condition.always.and p = p ∧ p.and .always = p) ∧
    (∀ p q r : Condition, (p.or q).or r = p.or (q.or r)) ∧
    (∀ p : Condition, Condition.always.or p = .always ∧ p.or .always = .always) ∧
    (∀ (env : Environment) (p q : Condition), (p.and q).eval env = (p.eval env && q.eval env) ∧
      (p.or q).eval env = (p.eval env || q.eval env) ∧ p.negate.eval env = !p.eval env) ∧
    ∀ a b c text text' n, IsConjunction a → IsConjunction b → IsConjunction c →
      Regroups a b c text text' n →
      ((∃ fragments, split text = .ok fragments) ↔ ∃ fragments, split text' = .ok fragments) ∧
        ∀ fragments, split text = .ok fragments →
          ∃ p, conditionAt text n = .ok p ∧ conditionAt text' n = .ok p :=
  ⟨Condition.and_assoc, fun p => ⟨p.always_and, p.and_always⟩, Condition.or_assoc,
    fun p => ⟨p.always_or, p.or_always⟩,
    fun env p q => ⟨Condition.and_eval env p q, Condition.or_eval env p q,
      Condition.negate_eval env p⟩,
    fun _ _ _ _ _ _ ha hb hc h =>
      ⟨exists_split_iff_of_regroups ha hb hc h, fun _ => conditionAt_of_regroups ha hb hc h⟩⟩

/-- A line in a third block, behind another line of the outer one; the innermost term is a
disjunction in parentheses. -/
theorem combinators_regroup_of_three_blocks :
    let text := "#if 0&&!0\nu\n#if (0||!1)\n#if 1\nv\n#endif\n#endif\n#endif\n".toList
    let text' := "#if 0\nu\n#if ! 0 && (0 || !1)\n#if 1\nv\n#endif\n#endif\n#endif\n".toList
    let a := [.number 0]
    let b := [.not, .number 0]
    let c := [.leftParen, .number 0, .or, .not, .number 1, .rightParen]
    let p : Condition := .all [.never, .not .never, .any [.not .always]]
    IsConjunction a ∧ IsConjunction b ∧ IsConjunction c ∧ Regroups a b c text text' 5 ∧
      (∃ fragments, split text = .ok fragments) ∧
      conditionAt text 5 = .ok p ∧ conditionAt text' 5 = .ok p := by
  have hsplit : split "#if 0&&!0\nu\n#if (0||!1)\n#if 1\nv\n#endif\n#endif\n#endif\n".toList = .ok [
      { condition := .all [.never, .not .never], line := 2, lines := ["u\n".toList] },
      { condition := .all [.never, .not .never, .any [.not .always]], line := 5,
        lines := ["v\n".toList] }] :=
    split_eq_of_perm_pieces (by with_unfolding_all exact rfl) (by rfl)
      (by with_unfolding_all decide) (by decide)
  have hcondition : conditionAt
      "#if 0&&!0\nu\n#if (0||!1)\n#if 1\nv\n#endif\n#endif\n#endif\n".toList 5 =
        .ok (.all [.never, .not .never, .any [.not .always]]) := by
    with_unfolding_all exact rfl
  intro text text' a b c p
  have hnumber {n : Nat} (hn : n < Digits.wordLimit) :
      Condition.Denotes .unary [.number n] fun _ => n ≠ 0 := .operand (.number hn)
  have ha : IsConjunction a := ⟨_, .conjunct (hnumber (by decide))⟩
  have hb : IsConjunction b := ⟨_, .conjunct (.not (hnumber (by decide)))⟩
  have hc : IsConjunction c :=
    ⟨_, .conjunct (.operand (.paren (.or (.disjunct (.conjunct (hnumber (by decide))))
      (.conjunct (.not (hnumber (by decide)))))))⟩
  -- the four lines `#if`, each by the text behind the name
  have hif {line : List Char} {tokens : List Condition.Token} (operand : List Char)
      (hline : ∀ n, ofText? line n = some { name := "if", operand, line := n })
      (htokens : Condition.tokenize operand = .ok tokens) : IsIf line tokens :=
    ⟨operand, (Condition.tokenize_eq_ok_iff.1 htokens).1, hline⟩
  have hfirst : IsIf "#if 0&&!0\n".toList (a ++ .and :: b) :=
    hif " 0&&!0".toList (fun n => rfl) (by with_unfolding_all exact rfl)
  have hsecond : IsIf "#if (0||!1)\n".toList c :=
    hif " (0||!1)".toList (fun n => rfl) (by with_unfolding_all exact rfl)
  have hfirst' : IsIf "#if 0\n".toList a :=
    hif " 0".toList (fun n => rfl) (by with_unfolding_all exact rfl)
  have hsecond' : IsIf "#if ! 0 && (0 || !1)\n".toList (b ++ .and :: c) :=
    hif " ! 0 && (0 || !1)".toList (fun n => rfl) (by with_unfolding_all exact rfl)
  have hinside : StayInside ["#if 1\n".toList] := by
    have hnames : lineNames ["#if 1\n".toList] = ["if"] := rfl
    have hchain : Derives .body ([] ++ "if" :: ([] ++ ["endif"])) :=
      .more .empty (.chain (.inl rfl) (.first .empty))
    rw [StayInside, hnames]
    exact ⟨["endif"], hchain⟩
  have hregroups : Regroups a b c text text' 5 :=
    ⟨[], ["u\n".toList], ["#if 1\n".toList], ["v\n".toList, "#endif\n".toList,
      "#endif\n".toList, "#endif\n".toList], _, _, _, _, by decide, by decide, rfl, hfirst,
      hsecond, hfirst', hsecond', .empty, hinside⟩
  obtain ⟨-, hsame⟩ := combinators_regroup.2.2.2.2.2 a b c text text' 5 ha hb hc hregroups
  obtain ⟨q, hq, hq'⟩ := hsame _ hsplit
  rw [hcondition, Except.ok.injEq] at hq
  rw [← hq] at hq'
  exact ⟨ha, hb, hc, hregroups, ⟨_, hsplit⟩, hcondition, hq'⟩

end Fragment

end GlslPrelude
