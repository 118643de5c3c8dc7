import GlslPrelude.Proofs.Condition.Algebra
import GlslPrelude.Proofs.Condition.Grammar

/-!
# Reading conjunctions

Terms are joined from left to right while they are read. Because conjunctions do not depend on their
grouping, what is read from two conditions with `&&` between them is the conjunction of what is read
from each of them (`Condition.IsReadAs.join`).
-/

namespace GlslPrelude

namespace Condition

variable {p q : Condition} {tokens front back : List Token}

/-- The tokens are a condition without `||` outside of parentheses. -/
def IsConjunction (tokens : List Token) : Prop :=
  ∃ value, Denotes .and tokens value

/-- A condition in front of all the terms that are read is joined to what they are read as. -/
theorem readAndTail_and (left p : Condition) (tokens : List Token) :
    readAndTail (left.and p) tokens =
      (readAndTail p tokens).map fun result => (left.and result.1, result.2) := by
  rw [readAndTail.eq_def, readAndTail.eq_def]
  split
  · rename_i tokens
    cases readOperand tokens with
    | error e => rfl
    | ok result =>
        obtain ⟨term, rest, hrest⟩ := result
        dsimp only
        rw [Condition.and_assoc, readAndTail_and left (p.and term) rest]
        cases readAndTail (p.and term) rest <;> rfl
  · rfl
termination_by tokens.length
decreasing_by simp_all; omega

/-- What is read with a condition in front is the condition joined to what is read without it. -/
theorem reads_readAndTail_and_iff {left r : Condition} {rest : List Token} :
    Reads (readAndTail (left.and p) tokens) r rest ↔
      ∃ q, r = left.and q ∧ Reads (readAndTail p tokens) q rest := by
  rw [Reads, readAndTail_and]
  cases hread : readAndTail p tokens with
  | error e => simp [Reads, Except.map]
  | ok result =>
      obtain ⟨s, behind⟩ := result
      simp only [Reads, Except.map, Except.ok.injEq, Prod.mk.injEq]
      constructor
      · rintro ⟨rfl, rfl⟩
        exact ⟨s, rfl, rfl, rfl⟩
      · rintro ⟨_, rfl, rfl, rfl⟩
        exact ⟨rfl, rfl⟩

/-- Two conditions with `&&` between them are read as their conjunction. -/
theorem IsReadAs.join (hfront : IsReadAs .and front p) (hback : IsReadAs .and back q) :
    IsReadAs .and (front ++ .and :: back) (p.and q) := by
  intro between r rest htail
  obtain ⟨s, rfl, hs⟩ := reads_readAndTail_and_iff.1 htail
  -- the first operand of the second condition is joined to the first condition, and then the others
  obtain ⟨first, behind, hfirst, hmore⟩ := (hback between s rest hs).of_readAnd
  have hjoined : Reads (readAndTail p (.and :: (back ++ between))) (p.and s) rest :=
    hfirst.readAndTail (reads_readAndTail_and_iff.2 ⟨s, rfl, hmore⟩)
  rw [List.append_assoc]
  exact hfront _ _ rest hjoined

/-- The tokens are read as the condition wherever they stand among the terms of a conjunction. -/
structure IsJoinable (tokens : List Token) (p : Condition) : Prop where
  /-- The numbers among them can be read. -/
  fitWords : FitWords tokens
  /-- They are read as the condition. -/
  isReadAs : IsReadAs .and tokens p

namespace IsJoinable

/-- A condition without `||` outside of parentheses is read wherever it stands. -/
theorem exists_of_isConjunction (h : IsConjunction tokens) : ∃ p, IsJoinable tokens p := by
  obtain ⟨value, hdenotes⟩ := h
  obtain ⟨p, -, hread⟩ := hdenotes.exists_isReadAs
  exact ⟨p, hdenotes.fitWords, hread⟩

/-- Two conditions with `&&` between them are read wherever they stand. -/
theorem join (hfront : IsJoinable front p) (hback : IsJoinable back q) :
    IsJoinable (front ++ .and :: back) (p.and q) where
  fitWords n hn := by
    rw [List.mem_append, List.mem_cons] at hn
    rcases hn with hn | hn | hn
    · exact hfront.fitWords n hn
    · cases hn
    · exact hback.fitWords n hn
  isReadAs := hfront.isReadAs.join hback.isReadAs

/-- A text that is cut into the tokens is read as the condition. -/
theorem parse_eq {cs : List Char} (h : IsJoinable tokens p) (hcut : IsCut cs tokens) :
    parse (String.ofList cs) = .ok p := by
  have hand := h.isReadAs [] p [] (readAndTail_of_ne (by simp))
  rw [List.append_nil] at hand
  rw [← String.toList_ofList (l := cs)] at hcut
  have htokens := tokenize_eq_ok_iff.2 ⟨hcut, h.fitWords⟩
  exact parse_eq_ok_iff.2 ⟨tokens, htokens, hand.readOr (readOrTail_of_ne (by simp))⟩

end IsJoinable

end Condition

end GlslPrelude
