import GlslPrelude.Proofs.Fragment.Blocks
import GlslPrelude.Proofs.Fragment.Chains

/-!
# Open blocks follow open chains

The splitter keeps one condition for each open block and joins the conditions of its branches as it
goes. `Blocks.Follow` relates its blocks to the open chains, which join nothing; by `Follow.eval`
the condition in effect holds in an environment exactly when a branch is taken in each open chain.
-/

namespace GlslPrelude

namespace Chain

/-- Whether the last one of some headers, given from the last one back, starts the branch that is
taken: it may be taken, and no earlier one may. -/
def isTaken (env : Environment) : List Header → Bool
  | [] => false
  | h :: older => h.holds env && !older.any (Header.holds env)

end Chain

/-- The branch of the splitter that the headers of a chain lead to, given from the last one back. -/
inductive Branch.Follows (parent : Condition) : Branch → List Chain.Header → Prop
  | first {p : Condition} {line : Nat} :
      Follows parent (Branch.first parent p line) [{ line, condition? := some p }]
  | next {branch : Branch} {headers : List Chain.Header} {p : Condition} {line : Nat} :
      Follows parent branch headers → branch.isLast = false →
      Follows parent (branch.next p) ({ line, condition? := some p } :: headers)
  | final {branch : Branch} {headers : List Chain.Header} {line : Nat} :
      Follows parent branch headers → branch.isLast = false →
      Follows parent branch.final ({ line, condition? := none } :: headers)

namespace Branch.Follows

variable {parent : Condition} {branch : Branch} {headers : List Chain.Header}

/-- The condition around the chain stays the same. -/
theorem parent_eq (h : Follows parent branch headers) : branch.parent = parent := by
  induction h with
  | first => rfl
  | next _ _ ih => exact ih
  | final _ _ ih => exact ih

/-- Until `#else`, every header has a condition. -/
theorem isSome_of_not_isLast (h : Follows parent branch headers) (hlast : branch.isLast = false) :
    ∀ header ∈ headers, header.condition?.isSome = true := by
  induction h with
  | first => simp
  | next _ hnot ih =>
      rw [List.forall_mem_cons]
      exact ⟨rfl, ih hnot⟩
  | final => cases hlast

/-- Every header but the last one has a condition. -/
theorem isSome_of_mem_tail (h : Follows parent branch headers) :
    ∀ header ∈ headers.tail, header.condition?.isSome = true := by
  cases h with
  | first => simp
  | next hbranch hnot => exact hbranch.isSome_of_not_isLast hnot
  | final hbranch hnot => exact hbranch.isSome_of_not_isLast hnot

/-- Until `#else`, the splitter's disjunction holds when some branch so far may be taken. -/
theorem eval_taken (h : Follows parent branch headers) (hlast : branch.isLast = false)
    (env : Environment) : branch.taken.eval env = headers.any (Chain.Header.holds env) := by
  induction h with
  | first => simp [Branch.first, Chain.Header.holds]
  | next _ hnot ih =>
      rw [Branch.next, Condition.or_eval, ih hnot, List.any_cons, Bool.or_comm]
      rfl
  | final => cases hlast

/-- The condition inside a branch holds when the one around the chain does and the branch is taken.
-/
theorem eval_current (h : Follows parent branch headers) (env : Environment) :
    branch.current.eval env = (parent.eval env && Chain.isTaken env headers) := by
  cases h with
  | first => simp [Branch.first, Chain.isTaken, Chain.Header.holds]
  | next hbranch hnot =>
      rw [Branch.next, Condition.and_eval, Condition.and_eval, Condition.negate_eval,
        hbranch.parent_eq, hbranch.eval_taken hnot, Bool.and_assoc, Chain.isTaken,
        Bool.and_comm (!_)]
      rfl
  | final hbranch hnot =>
      rw [Branch.final, Condition.and_eval, Condition.negate_eval, hbranch.parent_eq,
        hbranch.eval_taken hnot, Chain.isTaken]
      rfl

/-- The headers and the condition around the chain determine the branch. -/
theorem unique {branch' : Branch} (h : Follows parent branch headers)
    (h' : Follows parent branch' headers) : branch = branch' := by
  induction h generalizing branch' with
  | first =>
      cases h' with
      | first => rfl
      | next hbranch => cases hbranch
  | next hbranch _ ih =>
      cases h' with
      | first => cases hbranch
      | next hbranch' => rw [ih hbranch']
  | final _ _ ih =>
      cases h' with
      | final hbranch' => rw [ih hbranch']

end Branch.Follows

namespace Blocks

/-- The blocks that the splitter has open follow the open chains. -/
inductive Follow : Blocks → OpenChains → Prop
  | nil : Follow [] []
  | cons {branch : Branch} {blocks : Blocks} {headers : List Chain.Header} {outer : OpenChains} :
      Branch.Follows blocks.condition branch headers → Follow blocks outer →
      Follow (branch :: blocks) (headers :: outer)

namespace Follow

variable {blocks blocks' : Blocks} {opened : OpenChains} {line : Nat}

/-- A directive changes blocks and chains alike. -/
theorem step (h : Follow blocks opened) {d : Directive} (hstep : blocks.step line d = .ok blocks') :
    Follow blocks' (opened.step line d) := by
  cases d with
  | opening p =>
      cases hstep
      exact .cons .first h
  | alternative p =>
      cases h with
      | nil => cases hstep
      | @cons branch blocks headers outer hbranch hrest =>
          simp only [Blocks.step] at hstep
          cases hlast : branch.isLast with
          | true => rw [hlast] at hstep; cases hstep
          | false =>
              rw [hlast] at hstep
              cases hstep
              exact .cons (.next hbranch hlast) hrest
  | otherwise =>
      cases h with
      | nil => cases hstep
      | @cons branch blocks headers outer hbranch hrest =>
          simp only [Blocks.step] at hstep
          cases hlast : branch.isLast with
          | true => rw [hlast] at hstep; cases hstep
          | false =>
              rw [hlast] at hstep
              cases hstep
              exact .cons (.final hbranch hlast) hrest
  | closing =>
      cases h with
      | nil => cases hstep
      | cons hbranch hrest => cases hstep; exact hrest

/-- A line changes blocks and chains alike. -/
theorem readLine (h : Follow blocks opened) {text : List Char}
    (hread : blocks.readLine line text = .ok blocks') :
    Follow blocks' (opened.readLine line text) := by
  rw [Blocks.readLine] at hread
  rw [OpenChains.readLine, Directive.ofLine?]
  cases hbody : Directive.body? text with
  | none =>
      rw [hbody] at hread
      cases hread
      exact h
  | some body =>
      rw [hbody] at hread
      rw [Option.bind_some]
      dsimp only at hread
      cases hdirective : Directive.read body with
      | error fault => rw [hdirective] at hread; cases hread
      | ok d => rw [hdirective] at hread; exact h.step hread

/-- Lines change blocks and chains alike. -/
theorem readLines (h : Follow blocks opened) {ls : List (List Char)}
    (hread : blocks.readLines line ls = .ok blocks') :
    Follow blocks' (opened.readLines line ls) := by
  induction ls generalizing blocks opened line with
  | nil => cases hread; exact h
  | cons text rest ih =>
      rw [Blocks.readLines] at hread
      cases hline : blocks.readLine line text with
      | error fault => rw [hline] at hread; cases hread
      | ok next =>
          rw [hline] at hread
          exact ih (h.readLine hline) hread

/-- The condition in effect holds when a branch is taken in each of the open chains. -/
theorem eval (h : Follow blocks opened) (env : Environment) :
    blocks.condition.eval env = opened.all (Chain.isTaken env) := by
  induction h with
  | nil => rfl
  | cons hbranch _ ih =>
      rw [Blocks.condition, hbranch.eval_current, ih, List.all_cons, Bool.and_comm]

/-- The open chains determine the blocks. -/
theorem unique (h : Follow blocks opened) (h' : Follow blocks' opened) : blocks = blocks' := by
  induction h generalizing blocks' with
  | nil => cases h'; rfl
  | cons hbranch _ ih =>
      cases h' with
      | cons hbranch' hrest' =>
          obtain rfl := ih hrest'
          rw [hbranch.unique hbranch']

/-- What the outer ones of the open chains are followed by. -/
theorem of_append {inner outer : OpenChains} (h : Follow blocks (inner ++ outer)) :
    ∃ front back, blocks = front ++ back ∧ Follow back outer := by
  induction inner generalizing blocks with
  | nil => exact ⟨[], blocks, rfl, h⟩
  | cons headers inner ih =>
      rw [List.cons_append] at h
      cases h with
      | cons _ hrest =>
          obtain ⟨front, back, rfl, hback⟩ := ih hrest
          exact ⟨_ :: front, back, rfl, hback⟩

/-- In every open chain, every header but the last one has a condition. -/
theorem isSome_of_mem_tail (h : Follow blocks opened) {headers : List Chain.Header}
    (hmem : headers ∈ opened) : ∀ header ∈ headers.tail, header.condition?.isSome = true := by
  induction h with
  | nil => cases hmem
  | cons hbranch _ ih =>
      rcases List.mem_cons.1 hmem with rfl | hmem
      · exact hbranch.isSome_of_mem_tail
      · exact ih hmem

end Follow

end Blocks

end GlslPrelude
