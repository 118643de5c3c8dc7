import GlslPrelude.Condition.Basic

/-!
# Normal forms of conditions

`simplify` builds a condition again with the combinators in place of the operators. It keeps the
meaning (`simplify_eval`), and by `simplify_eq_self_iff` it keeps the tree exactly when no node of
it is one that the combinators would remove. The proof compares sizes: `isNormal_or_size_lt` says
that a condition which is not normal becomes smaller.
-/

namespace GlslPrelude

namespace Condition

mutual

/-- The condition built again with the combinators, the terms of an operator from left to right. -/
def simplify : Condition → Condition
  | .always => .always
  | .flag f => .flag f
  | .not p => p.simplify.negate
  | .all [] => .always
  | .any [] => .never
  | .all (p :: ps) => simplifyAll p.simplify ps
  | .any (p :: ps) => simplifyAny p.simplify ps

/-- The conjunction of a condition and further terms. -/
def simplifyAll (left : Condition) : List Condition → Condition
  | [] => left
  | p :: ps => simplifyAll (left.and p.simplify) ps

/-- The disjunction of a condition and further terms. -/
def simplifyAny (left : Condition) : List Condition → Condition
  | [] => left
  | p :: ps => simplifyAny (left.or p.simplify) ps

end

/-- The condition stays a term of its own under an operator: it does not always hold and is not that
operator itself. -/
def StaysIn (operator : List Condition → Condition) (p : Condition) : Prop :=
  p ≠ .always ∧ ∀ qs, p ≠ operator qs

/-- No negation stands under a negation; each conjunction has at least two terms, none of which
always holds or is a conjunction; each disjunction has no or at least two terms, none of which
always holds or is a disjunction. -/
inductive IsNormal : Condition → Prop
  | always : IsNormal .always
  | flag (f : Flag) : IsNormal (.flag f)
  | not {p : Condition} : IsNormal p → (∀ q, p ≠ .not q) → IsNormal (.not p)
  | all {ps : List Condition} :
    2 ≤ ps.length → (∀ p ∈ ps, IsNormal p) → (∀ p ∈ ps, StaysIn .all p) →
      IsNormal (.all ps)
  | any {ps : List Condition} : ps = [] ∨ 2 ≤ ps.length → (∀ p ∈ ps, IsNormal p) →
      (∀ p ∈ ps, StaysIn .any p) → IsNormal (.any ps)

/-! ## Meaning -/

/-- Terms are joined from left to right. -/
theorem simplifyAll_eq_foldl (left : Condition) (ps : List Condition) :
    simplifyAll left ps = (ps.map simplify).foldl and left := by
  induction ps generalizing left with
  | nil => rfl
  | cons p ps ih => rw [simplifyAll, ih, List.map_cons, List.foldl_cons]

/-- Terms are joined from left to right. -/
theorem simplifyAny_eq_foldl (left : Condition) (ps : List Condition) :
    simplifyAny left ps = (ps.map simplify).foldl or left := by
  induction ps generalizing left with
  | nil => rfl
  | cons p ps ih => rw [simplifyAny, ih, List.map_cons, List.foldl_cons]

mutual

/-- Simplifying keeps the meaning. -/
theorem simplify_eval (env : Environment) (p : Condition) :
    p.simplify.eval env = p.eval env := by
  match p with
  | .always | .flag f | .all [] | .any [] => rfl
  | .not p => rw [simplify, negate_eval, simplify_eval env p, eval]
  | .all (p :: ps) => rw [simplify, simplifyAll_eval env, simplify_eval env p, eval, evalAll]
  | .any (p :: ps) => rw [simplify, simplifyAny_eval env, simplify_eval env p, eval, evalAny]

/-- A conjunction built term by term has the meaning of its terms. -/
theorem simplifyAll_eval (env : Environment) (left : Condition) (ps : List Condition) :
    (simplifyAll left ps).eval env = (left.eval env && evalAll env ps) := by
  match ps with
  | [] => rw [simplifyAll, evalAll, Bool.and_true]
  | p :: ps =>
      rw [simplifyAll, simplifyAll_eval env, and_eval, simplify_eval env p, evalAll,
        Bool.and_assoc]

/-- A disjunction built term by term has the meaning of its terms. -/
theorem simplifyAny_eval (env : Environment) (left : Condition) (ps : List Condition) :
    (simplifyAny left ps).eval env = (left.eval env || evalAny env ps) := by
  match ps with
  | [] => rw [simplifyAny, evalAny, Bool.or_false]
  | p :: ps =>
      rw [simplifyAny, simplifyAny_eval env, or_eval, simplify_eval env p, evalAny,
        Bool.or_assoc]

end

/-! ## Size -/

mutual

/-- Size of a condition. An empty conjunction is larger than the condition that always holds, so
that it shrinks. -/
def size : Condition → Nat
  | .always => 2
  | .flag _ => 1
  | .not p => p.size + 1
  | .all ps | .any ps => sizeTerms ps + 3

/-- Size of all terms together. -/
def sizeTerms : List Condition → Nat
  | [] => 0
  | p :: ps => p.size + sizeTerms ps

end

/-- Whether the condition is a conjunction. -/
def isConjunction : Condition → Bool
  | .all _ => true
  | _ => false

/-- Whether the condition is a disjunction. -/
def isDisjunction : Condition → Bool
  | .any _ => true
  | _ => false

/-- Size of a condition that further terms are joined to: it becomes the first term of an operator,
unless it is that operator already. -/
def sizeInside (isJoined : Condition → Bool) (p : Condition) : Nat :=
  if isJoined p then p.size else if p = .always then 4 else p.size + 3

/-- A combinator joins terms under an operator: a term that stays goes behind the others, and a
condition grows by the size of the term at most, and by less if the term does not stay. -/
structure Joins (combine : Condition → Condition → Condition)
    (operator : List Condition → Condition) (isJoined : Condition → Bool) : Prop where
  /-- The test tells the operator. -/
  isJoined_iff (p : Condition) : isJoined p = true ↔ ∃ ps, p = operator ps
  /-- Size of the operator. -/
  size_operator (ps : List Condition) : (operator ps).size = sizeTerms ps + 3
  /-- Two terms that stay. -/
  pair (p q : Condition) : StaysIn operator p → StaysIn operator q → combine p q = operator [p, q]
  /-- A further term that stays. -/
  concat (ps : List Condition) (q : Condition) : StaysIn operator q →
    combine (operator ps) q = operator (ps ++ [q])
  /-- A term counts once. -/
  le (p q : Condition) : sizeInside isJoined (combine p q) ≤ sizeInside isJoined p + q.size
  /-- A term that does not stay counts less. -/
  lt (p q : Condition) : q = .always ∨ isJoined q = true →
    sizeInside isJoined (combine p q) < sizeInside isJoined p + q.size

/-- The terms of two lists count together. -/
theorem sizeTerms_append (ps qs : List Condition) :
    sizeTerms (ps ++ qs) = sizeTerms ps + sizeTerms qs := by
  induction ps with
  | nil => simp [sizeTerms]
  | cons p ps ih => simp [sizeTerms, ih, Nat.add_assoc]

/-- Conjunction joins terms. -/
theorem joins_and : Joins and .all isConjunction where
  isJoined_iff p := by cases p <;> simp [isConjunction]
  size_operator ps := rfl
  pair p q hp hq := by
    cases p <;> cases q <;> simp_all [and, StaysIn]
  concat ps q hq := by
    cases q <;> simp_all [and, StaysIn]
  le p q := by
    fun_cases and p q <;>
      simp_all [sizeInside, isConjunction, size, sizeTerms, sizeTerms_append] <;> grind [size]
  lt p q hq := by
    fun_cases and p q <;>
      simp_all [sizeInside, isConjunction, size, sizeTerms, sizeTerms_append] <;> grind [size]

/-- Disjunction joins terms. -/
theorem joins_or : Joins or .any isDisjunction where
  isJoined_iff p := by cases p <;> simp [isDisjunction]
  size_operator ps := rfl
  pair p q hp hq := by
    cases p <;> cases q <;> simp_all [or, StaysIn]
  concat ps q hq := by
    cases q <;> simp_all [or, StaysIn]
  le p q := by
    fun_cases or p q <;>
      simp_all [sizeInside, isDisjunction, size, sizeTerms, sizeTerms_append] <;> grind [size]
  lt p q hq := by
    fun_cases or p q <;>
      simp_all [sizeInside, isDisjunction, size, sizeTerms, sizeTerms_append] <;> grind [size]

/-- A condition is no larger than the operator that it becomes a term of. -/
theorem size_le_sizeInside (isJoined : Condition → Bool) (p : Condition) :
    p.size ≤ sizeInside isJoined p := by
  unfold sizeInside
  grind [size]

/-- An operator with one term is as large as the term and the operator. -/
theorem sizeInside_le (isJoined : Condition → Bool) (p : Condition) :
    sizeInside isJoined p ≤ p.size + 3 := by
  unfold sizeInside
  grind [size]

/-- A term that does not stay makes no operator. -/
theorem sizeInside_lt {isJoined : Condition → Bool} {p : Condition}
    (hp : p = .always ∨ isJoined p = true) : sizeInside isJoined p < p.size + 3 := by
  unfold sizeInside
  grind [size]

namespace Joins

variable {combine : Condition → Condition → Condition} {operator : List Condition → Condition}
  {isJoined : Condition → Bool}

/-- Two or more terms that stay are the terms of their operator. -/
theorem foldl_eq (h : Joins combine operator isJoined) {p q : Condition} {ps : List Condition}
    (hstay : ∀ r ∈ p :: q :: ps, StaysIn operator r) :
    (q :: ps).foldl combine p = operator (p :: q :: ps) := by
  -- once there is an operator, each further term goes to its end
  have hfold : ∀ ts rs : List Condition, (∀ r ∈ rs, StaysIn operator r) →
      rs.foldl combine (operator ts) = operator (ts ++ rs) := by
    intro ts rs hrs
    induction rs generalizing ts with
    | nil => rw [List.foldl_nil, List.append_nil]
    | cons r rs ih =>
        rw [List.forall_mem_cons] at hrs
        rw [List.foldl_cons, h.concat ts r hrs.1, ih _ hrs.2, List.append_assoc,
          List.singleton_append]
  rw [List.forall_mem_cons, List.forall_mem_cons] at hstay
  obtain ⟨hp, hq, hps⟩ := hstay
  rw [List.foldl_cons, h.pair p q hp hq, hfold [p, q] ps hps]
  rfl

/-- Joining terms one after the other adds their sizes at most. -/
theorem sizeInside_foldl_le (h : Joins combine operator isJoined) (p : Condition)
    (qs : List Condition) :
    sizeInside isJoined (qs.foldl combine p) ≤ sizeInside isJoined p + sizeTerms qs := by
  induction qs generalizing p with
  | nil => exact Nat.le_refl _
  | cons q qs ih =>
      have hstep := h.le p q
      have hrest := ih (combine p q)
      rw [List.foldl_cons, sizeTerms]
      omega

/-- Joining terms one after the other adds less than their sizes if one of them does not stay. -/
theorem sizeInside_foldl_lt (h : Joins combine operator isJoined) (p : Condition)
    {qs : List Condition} (hqs : ∃ q ∈ qs, q = .always ∨ isJoined q = true) :
    sizeInside isJoined (qs.foldl combine p) < sizeInside isJoined p + sizeTerms qs := by
  induction qs generalizing p with
  | nil => simp at hqs
  | cons q qs ih =>
      rw [List.foldl_cons, sizeTerms]
      obtain ⟨r, hr, hdrop⟩ := hqs
      -- the term that does not stay is the first one or one of the others
      rcases List.mem_cons.1 hr with rfl | hr
      · have hstep := h.lt p r hdrop
        have hle := h.sizeInside_foldl_le (combine p r) qs
        omega
      · have hstep := h.le p q
        have hlt := ih (combine p q) ⟨r, hr, hdrop⟩
        omega

/-- Joined terms are no larger than the operator with these terms. -/
theorem size_foldl_le (h : Joins combine operator isJoined) (p : Condition)
    (ps : List Condition) : (ps.foldl combine p).size ≤ sizeTerms (p :: ps) + 3 := by
  have hle := size_le_sizeInside isJoined (ps.foldl combine p)
  have hfold := h.sizeInside_foldl_le p ps
  have hfirst := sizeInside_le isJoined p
  rw [sizeTerms]
  omega

/-- Joined terms are smaller than the operator with these terms if one of them does not stay. -/
theorem size_foldl_lt (h : Joins combine operator isJoined) {p : Condition}
    {ps : List Condition} (hps : ∃ q ∈ p :: ps, q = .always ∨ isJoined q = true) :
    (ps.foldl combine p).size < sizeTerms (p :: ps) + 3 := by
  have hle := size_le_sizeInside isJoined (ps.foldl combine p)
  rw [sizeTerms]
  obtain ⟨q, hq, hdrop⟩ := hps
  rcases List.mem_cons.1 hq with rfl | hq
  · have hfold := h.sizeInside_foldl_le q ps
    have hfirst := sizeInside_lt hdrop
    omega
  · have hfold := h.sizeInside_foldl_lt p ⟨q, hq, hdrop⟩
    have hfirst := sizeInside_le isJoined p
    omega

/-- Terms that are joined all stay and are at least two, or their operator shrinks. -/
theorem stays_or_size_lt (h : Joins combine operator isJoined) (p : Condition)
    (ps : List Condition) :
    (ps ≠ [] ∧ ∀ q ∈ p :: ps, StaysIn operator q) ∨
      (ps.foldl combine p).size < (operator (p :: ps)).size := by
  rw [h.size_operator]
  by_cases hstay : ∀ q ∈ p :: ps, StaysIn operator q
  · cases ps with
    | nil =>
        right
        rw [List.foldl_nil, sizeTerms, sizeTerms]
        omega
    | cons q qs => exact .inl ⟨List.cons_ne_nil q qs, hstay⟩
  · right
    simp only [Classical.not_forall] at hstay
    obtain ⟨q, hq, hnot⟩ := hstay
    refine h.size_foldl_lt ⟨q, hq, ?_⟩
    by_cases halways : q = .always
    · exact .inl halways
    · right
      rw [h.isJoined_iff]
      exact Classical.not_forall_not.1 fun hne => hnot ⟨halways, hne⟩

end Joins

/-! ## Normal conditions stay and others become smaller -/

/-- Terms that are their own simplifications. -/
theorem map_simplify_eq {ps : List Condition} (h : ∀ p ∈ ps, p.simplify = p) :
    ps.map simplify = ps := by
  rw [List.map_congr_left h, List.map_id'']
  exact fun _ => rfl

/-- A normal condition is its own simplification. -/
theorem IsNormal.simplify_eq {p : Condition} (h : p.IsNormal) : p.simplify = p := by
  induction h with
  | always => rfl
  | flag f => rfl
  | @not p _ hne ih =>
      rw [simplify, ih]
      cases p <;> simp_all [negate]
  | @all ps hlen _ hstay ih =>
      -- with two terms or more, the first combination makes the operator
      match ps, hlen with
      | p :: q :: rest, _ =>
          obtain ⟨hp, hrest⟩ := List.cons.inj (map_simplify_eq ih)
          rw [simplify, simplifyAll_eq_foldl, hp, hrest, joins_and.foldl_eq hstay]
  | @any ps hlen _ hstay ih =>
      match ps, hlen with
      | [], _ => rfl
      | p :: q :: rest, _ =>
          obtain ⟨hp, hrest⟩ := List.cons.inj (map_simplify_eq ih)
          rw [simplify, simplifyAny_eq_foldl, hp, hrest, joins_or.foldl_eq hstay]

mutual

/-- A condition that is not normal shrinks when it is simplified. -/
theorem isNormal_or_size_lt (p : Condition) : p.IsNormal ∨ p.simplify.size < p.size := by
  match p with
  | .always => exact .inl .always
  | .flag f => exact .inl (.flag f)
  | .not p =>
      rw [simplify, size]
      rcases isNormal_or_size_lt p with hnormal | hlt
      · rw [hnormal.simplify_eq]
        cases p with
        | not q =>
            -- both negations are gone
            right
            rw [negate, size]
            omega
        | _ => exact .inl (.not hnormal (by simp))
      · right
        -- a negation adds at most one to what has become smaller
        refine Nat.lt_of_le_of_lt ?_ (Nat.succ_lt_succ hlt)
        cases p.simplify <;> simp [negate, size]; omega
  | .all [] => exact .inr (by decide)
  | .any [] => exact .inl (.any (.inl rfl) (by simp) (by simp))
  | .all (p :: ps) =>
      rw [simplify, simplifyAll_eq_foldl]
      -- joining the terms does not make up for a term that became smaller
      rcases forall_isNormal_or_sizeTerms_lt (p :: ps) with hnormal | hlt
      · obtain ⟨hp, hps⟩ := List.cons.inj (map_simplify_eq fun q hq => (hnormal q hq).simplify_eq)
        rw [hp, hps]
        refine (joins_and.stays_or_size_lt p ps).imp_left fun ⟨hne, hstay⟩ => ?_
        exact .all (Nat.succ_le_succ (List.length_pos_iff.2 hne)) hnormal hstay
      · right
        exact Nat.lt_of_le_of_lt (joins_and.size_foldl_le _ _) (Nat.add_lt_add_right hlt 3)
  | .any (p :: ps) =>
      rw [simplify, simplifyAny_eq_foldl]
      rcases forall_isNormal_or_sizeTerms_lt (p :: ps) with hnormal | hlt
      · obtain ⟨hp, hps⟩ := List.cons.inj (map_simplify_eq fun q hq => (hnormal q hq).simplify_eq)
        rw [hp, hps]
        refine (joins_or.stays_or_size_lt p ps).imp_left fun ⟨hne, hstay⟩ => ?_
        exact .any (.inr (Nat.succ_le_succ (List.length_pos_iff.2 hne))) hnormal hstay
      · right
        exact Nat.lt_of_le_of_lt (joins_or.size_foldl_le _ _) (Nat.add_lt_add_right hlt 3)

/-- If one of some terms is not normal, the terms shrink when they are simplified. -/
theorem forall_isNormal_or_sizeTerms_lt (ps : List Condition) :
    (∀ p ∈ ps, p.IsNormal) ∨ sizeTerms (ps.map simplify) < sizeTerms ps := by
  match ps with
  | [] => exact .inl (by simp)
  | p :: ps =>
      rw [List.map_cons, sizeTerms, sizeTerms, List.forall_mem_cons]
      have hp := isNormal_or_size_lt p
      have hps := forall_isNormal_or_sizeTerms_lt ps
      -- terms that are normal keep their size
      have hle : p.IsNormal → p.simplify.size = p.size := fun h => by rw [h.simplify_eq]
      have hle' : (∀ q ∈ ps, q.IsNormal) → sizeTerms (ps.map simplify) = sizeTerms ps :=
        fun h => by rw [map_simplify_eq fun q hq => (h q hq).simplify_eq]
      grind

end

/-- Simplifying keeps exactly the normal conditions. -/
theorem simplify_eq_self_iff {p : Condition} : p.simplify = p ↔ p.IsNormal := by
  constructor
  · intro h
    rcases isNormal_or_size_lt p with hnormal | hlt
    · exact hnormal
    · rw [h] at hlt
      exact absurd hlt (Nat.lt_irrefl _)
  · exact IsNormal.simplify_eq

end Condition

end GlslPrelude
