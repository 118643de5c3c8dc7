import GlslPrelude.Proofs.Overload.ExactMatch
import GlslPrelude.Proofs.Overload.Ranking
import Mathlib.Data.List.Zip

/-!
# What the outcome of a call depends on

The order of the signatures does not matter for a call, and two kinds of signatures may as well be
left out: those that are not viable, and those that another viable one beats (`resolve_is_stable`).
A winner is described without places, as a candidate that beats the others in whatever order these
stand (`winner?_eq_some_iff`). Whoever is behind a beaten candidate is also behind the one that
beats it, so nothing changes without it.
-/

namespace GlslPrelude

namespace Overload

variable {candidates candidates' front back : List Candidate} {a b c : Candidate}
  {signatures : List Signature} {arguments : List Ty} {i : Fin signatures.length}

/-! ## Beating -/

/-- Of two lists of costs at most one beats the other. -/
theorem beats_asymm {a b : List Conversion} (h : beats a b = true) : beats b a = false := by
  rw [beats, Bool.and_eq_true, List.any_eq_true] at h
  obtain ⟨-, ⟨x, y⟩, hmem, hlt⟩ := h
  rw [beats, ← List.zip_swap, Bool.and_eq_false_iff]
  -- where the first list is better, the second one is worse
  refine .inl (List.all_eq_false.2 ⟨(y, x), List.mem_map_of_mem hmem, ?_⟩)
  simpa using hlt

/-- Viable candidates are compared as their signatures are. -/
theorem beats_iff_of_mem_viable (ha : a ∈ viable signatures arguments)
    (hb : b ∈ viable signatures arguments) :
    beats a.costs b.costs = true ↔ a.signature.Beats b.signature arguments :=
  Signature.beats_iff (mem_viable ha).2 (mem_viable hb).2

/-- Beating is transitive among some candidates. -/
def IsTransitive (candidates : List Candidate) : Prop :=
  ∀ a ∈ candidates, ∀ b ∈ candidates, ∀ c ∈ candidates,
    beats a.costs b.costs = true → beats b.costs c.costs = true → beats a.costs c.costs = true

/-- Beating is transitive among viable candidates, which have equally many costs. -/
theorem isTransitive_viable (signatures : List Signature) (arguments : List Ty) :
    IsTransitive (viable signatures arguments) := by
  intro a ha b hb c hc hab hbc
  rw [beats_iff_of_mem_viable ha hb] at hab
  rw [beats_iff_of_mem_viable hb hc] at hbc
  rw [beats_iff_of_mem_viable ha hc]
  have hviable {d : Candidate} (hd : d ∈ viable signatures arguments) :
      d.signature.IsViable arguments :=
    Signature.isViable_iff_exists_costs?.2 ⟨d.costs, (mem_viable hd).2⟩
  exact hab.trans hbc (hviable hb) (hviable hc)

/-! ## The order of the candidates -/

/-- The winner beats all the others. -/
theorem winner?_eq_some_iff : winner? [] candidates = some c ↔
    ∃ others, candidates.Perm (c :: others) ∧
      ∀ d ∈ others, beats c.costs d.costs = true := by
  constructor
  · intro h
    -- what is known about the search is about places, so the candidates are told apart by these
    have hplaces : (List.finRange candidates.length).map (candidates[·]) = candidates :=
      List.map_getElem_finRange candidates
    rw [← hplaces, ← List.map_nil (f := fun i : Fin candidates.length => candidates[i])] at h
    obtain ⟨i, -, rfl, hbeats⟩ := exists_of_winner?_eq_some h
    refine ⟨candidates.eraseIdx i, (List.getElem_cons_eraseIdx_perm i.2).symm, fun d hd => ?_⟩
    obtain ⟨j, hj, hne, rfl⟩ := List.mem_eraseIdx_iff_getElem.1 hd
    exact hbeats ⟨j, hj⟩ (List.mem_finRange _) fun h => hne (congrArg Fin.val h)
  · rintro ⟨others, hperm, hbeats⟩
    obtain ⟨front, back, rfl⟩ := List.mem_iff_append.1 (hperm.mem_iff.2 List.mem_cons_self)
    have hothers : (front ++ back).Perm others := (List.perm_middle.symm.trans hperm).cons_inv
    refine winner?_eq_some (fun d hd => hbeats d (hothers.mem_iff.1 hd)) fun d hd => ?_
    exact beats_asymm (hbeats d (hothers.mem_iff.1 (List.mem_append_left _ hd)))

/-- The winner does not depend on the order of the candidates. -/
theorem winner?_congr (h : candidates.Perm candidates') :
    winner? [] candidates = winner? [] candidates' := by
  ext c
  rw [winner?_eq_some_iff, winner?_eq_some_iff]
  exact exists_congr fun others => and_congr_left fun _ => ⟨h.symm.trans, h.trans⟩

/-- The unbeaten candidates do not depend on the order of the candidates, only their order does. -/
theorem unbeaten_perm (h : candidates.Perm candidates') :
    (unbeaten candidates).Perm (unbeaten candidates') := by
  have hany (c : Candidate) : candidates.any (fun d => beats d.costs c.costs) =
      candidates'.any (fun d => beats d.costs c.costs) := h.any_eq
  simp only [unbeaten, hany]
  exact h.filter _

/-! ## Beaten candidates -/

/-- A beaten candidate is not the winner, and the winner beats it as soon as it beats the others. -/
theorem winner?_of_beaten (htrans : IsTransitive (front ++ c :: back))
    (hbeaten : ∃ d ∈ front ++ back, beats d.costs c.costs = true) :
    winner? [] (front ++ back) = winner? [] (front ++ c :: back) := by
  obtain ⟨d, hd, hdc⟩ := hbeaten
  have hperm : (front ++ c :: back).Perm (c :: (front ++ back)) := List.perm_middle
  ext w
  rw [winner?_eq_some_iff, winner?_eq_some_iff]
  constructor
  · rintro ⟨others, hothers, hbeats⟩
    -- the winner is the one that beats the candidate, or beats it through that one
    have hc : beats w.costs c.costs = true := by
      rcases List.mem_cons.1 (hothers.mem_iff.1 hd) with rfl | hd'
      · exact hdc
      · have hw : w ∈ front ++ back := hothers.mem_iff.2 List.mem_cons_self
        exact htrans w (hperm.mem_iff.2 (List.mem_cons_of_mem _ hw)) d
          (hperm.mem_iff.2 (List.mem_cons_of_mem _ hd)) c (hperm.mem_iff.2 List.mem_cons_self)
          (hbeats d hd') hdc
    refine ⟨c :: others, ?_, List.forall_mem_cons.2 ⟨hc, hbeats⟩⟩
    exact hperm.trans ((hothers.cons c).trans (.swap w c others))
  · rintro ⟨others, hothers, hbeats⟩
    have hall : (c :: (front ++ back)).Perm (w :: others) := hperm.symm.trans hothers
    rcases List.mem_cons.1 (hall.mem_iff.1 List.mem_cons_self) with rfl | hc
    · -- the winner would be beaten by one that it beats
      have hcd := hbeats d (hall.cons_inv.mem_iff.1 hd)
      rw [beats_asymm hcd] at hdc
      cases hdc
    · -- the candidate is one of the others, which are left as they are without it
      obtain ⟨before, after, rfl⟩ := List.mem_iff_append.1 hc
      refine ⟨before ++ after, ?_, fun e he => hbeats e ?_⟩
      · have hmiddle : (w :: (before ++ c :: after)).Perm (c :: w :: (before ++ after)) :=
          (List.perm_middle.cons w).trans (.swap c w _)
        exact (hall.trans hmiddle).cons_inv
      · exact List.perm_middle.mem_iff.2 (List.mem_cons_of_mem _ he)

/-- A beaten candidate is not among the unbeaten ones, and what it beats is beaten without it. -/
theorem unbeaten_of_beaten (htrans : IsTransitive (front ++ c :: back))
    (hbeaten : ∃ d ∈ front ++ back, beats d.costs c.costs = true) :
    unbeaten (front ++ back) = unbeaten (front ++ c :: back) := by
  obtain ⟨d, hd, hdc⟩ := hbeaten
  have hsubset {e : Candidate} (he : e ∈ front ++ back) : e ∈ front ++ c :: back :=
    List.perm_middle.mem_iff.2 (List.mem_cons_of_mem _ he)
  have hany : ∀ e ∈ front ++ c :: back,
      (front ++ c :: back).any (fun other => beats other.costs e.costs) =
        (front ++ back).any (fun other => beats other.costs e.costs) := by
    intro e he
    rw [List.perm_middle.any_eq, List.any_cons]
    cases hce : beats c.costs e.costs with
    | false => exact Bool.false_or _
    | true =>
        -- whom the candidate beats is beaten by the one that beats it, which stays
        have hde := htrans d (hsubset hd) c (by simp) e he hdc hce
        exact (List.any_eq_true.2 ⟨d, hd, hde⟩).symm
  have hc : (front ++ back).any (fun other => beats other.costs c.costs) = true :=
    List.any_eq_true.2 ⟨d, hd, hdc⟩
  have hfilter : unbeaten (front ++ c :: back) = (front ++ c :: back).filter fun e =>
      !(front ++ back).any fun other => beats other.costs e.costs :=
    List.filter_congr fun e he => by rw [hany e he]
  rw [hfilter, unbeaten, List.filter_append, List.filter_append, List.filter_cons, hc]
  rfl

/-! ## Signatures -/

/-- The signature at a place, between those in front of it and those behind it. -/
theorem exists_eraseIdx_eq (i : Fin signatures.length) :
    ∃ front back, signatures = front ++ signatures.get i :: back ∧
      signatures.eraseIdx i = front ++ back :=
  ⟨signatures.take i, signatures.drop (i + 1), by simp, List.eraseIdx_eq_take_drop_succ _ _⟩

/-- Without a signature that is not viable, the candidates are the same. -/
theorem viable_eraseIdx_of_not_isViable (h : ¬(signatures.get i).IsViable arguments) :
    viable (signatures.eraseIdx i) arguments = viable signatures arguments := by
  have hnone : (signatures.get i).costs? arguments = none := by
    rw [Option.eq_none_iff_forall_ne_some]
    exact fun costs hcosts => h (Signature.isViable_iff_exists_costs?.2 ⟨costs, hcosts⟩)
  obtain ⟨front, back, heq, herase⟩ := exists_eraseIdx_eq i
  rw [herase]
  conv_rhs => rw [heq]
  simp only [viable, List.filterMap_append, List.filterMap_cons, hnone, Option.map_none]

/-- A viable signature makes a candidate between those of the signatures around it. -/
theorem exists_viable_eraseIdx_eq (h : (signatures.get i).IsViable arguments) :
    ∃ front c back, viable signatures arguments = front ++ c :: back ∧
      viable (signatures.eraseIdx i) arguments = front ++ back ∧
      c.signature = signatures.get i := by
  obtain ⟨costs, hcosts⟩ := Signature.isViable_iff_exists_costs?.1 h
  obtain ⟨front, back, heq, herase⟩ := exists_eraseIdx_eq i
  refine ⟨viable front arguments, ⟨signatures.get i, costs⟩, viable back arguments, ?_, ?_, rfl⟩
  · conv_lhs => rw [heq]
    simp only [viable, List.filterMap_append, List.filterMap_cons, hcosts, Option.map_some]
  · rw [herase, viable, List.filterMap_append]
    rfl

/-- A viable signature other than that at a place is a candidate without it. -/
theorem exists_mem_viable_eraseIdx {j : Fin signatures.length} (hne : j ≠ i)
    (h : (signatures.get j).IsViable arguments) :
    ∃ c ∈ viable (signatures.eraseIdx i) arguments, c.signature = signatures.get j := by
  obtain ⟨costs, hcosts⟩ := Signature.isViable_iff_exists_costs?.1 h
  refine ⟨⟨signatures.get j, costs⟩, List.mem_filterMap.2 ⟨signatures.get j, ?_, ?_⟩, rfl⟩
  · exact List.mem_eraseIdx_iff_getElem.2 ⟨j, j.2, fun h => hne (Fin.ext h), rfl⟩
  · rw [hcosts]
    rfl

/-! ## Outcomes -/

/-- Outcomes are the same, but for the order in which signatures are given that tie. -/
inductive SameOutcome : Except ResolveError Signature → Except ResolveError Signature → Prop
  /-- The outcomes are equal. -/
  | refl (outcome : Except ResolveError Signature) : SameOutcome outcome outcome
  /-- The same signatures tie. -/
  | ambiguous (name : String) (arguments : List Ty) {tied tied' : List Signature} :
    tied.Perm tied' →
    SameOutcome (.error (.ambiguous name arguments tied)) (.error (.ambiguous name arguments tied'))

/-- Signatures in another order have the same outcome. -/
theorem sameOutcome_of_perm {permuted : List Signature} (h : permuted.Perm signatures)
    (name : String) (arguments : List Ty) :
    SameOutcome (resolve permuted name arguments) (resolve signatures name arguments) := by
  by_cases hnil : signatures = []
  · subst hnil
    rw [h.eq_nil]
    exact .refl _
  · have hnil' : permuted ≠ [] := fun hnil' => hnil (List.perm_nil.1 (hnil' ▸ h).symm)
    have hviable : (viable permuted arguments).Perm (viable signatures arguments) := h.filterMap _
    rw [resolve_of_ne_nil hnil, resolve_of_ne_nil hnil', winner?_congr hviable, hviable.isEmpty_eq]
    cases winner? [] (viable signatures arguments) with
    | some c => exact .refl _
    | none =>
        cases (viable signatures arguments).isEmpty with
        | true => exact .refl _
        | false => exact .ambiguous name arguments ((unbeaten_perm hviable).map _)

/-- Without a signature that is not viable, the outcome is the same unless no signature is left. -/
theorem resolve_eraseIdx_of_not_isViable (h : ¬(signatures.get i).IsViable arguments)
    (hne : signatures.eraseIdx i ≠ []) (name : String) :
    resolve (signatures.eraseIdx i) name arguments = resolve signatures name arguments := by
  rw [resolve_of_ne_nil hne, resolve_of_ne_nil (List.ne_nil_of_length_pos i.pos),
    viable_eraseIdx_of_not_isViable h]

/-- Without a viable signature that another one beats, the outcome is the same. -/
theorem resolve_eraseIdx_of_beats {j : Fin signatures.length} (hne : j ≠ i)
    (hi : (signatures.get i).IsViable arguments) (hj : (signatures.get j).IsViable arguments)
    (hbeats : (signatures.get j).Beats (signatures.get i) arguments) (name : String) :
    resolve (signatures.eraseIdx i) name arguments = resolve signatures name arguments := by
  obtain ⟨front, c, back, hviable, herase, hc⟩ := exists_viable_eraseIdx_eq hi
  obtain ⟨d, hd, hdj⟩ := exists_mem_viable_eraseIdx hne hj
  have htrans := isTransitive_viable signatures arguments
  have hmem : c ∈ viable signatures arguments := by simp [hviable]
  have hmem' : d ∈ viable signatures arguments := by
    rw [hviable, List.perm_middle.mem_iff, ← herase]
    exact List.mem_cons_of_mem _ hd
  -- what is said about signatures is said about the candidates that they make
  rw [← hdj, ← hc, ← beats_iff_of_mem_viable hmem' hmem] at hbeats
  rw [hviable] at htrans
  rw [herase] at hd
  have hsome : signatures.eraseIdx i ≠ [] := by
    intro hnil
    rw [hnil] at herase
    rw [← herase] at hd
    cases hd
  -- the candidate that beats the other one is left, so there is no failure for want of candidates
  have hempty : (front ++ back).isEmpty = (front ++ c :: back).isEmpty := by
    rw [List.isEmpty_eq_false_iff.2 (List.ne_nil_of_mem hd)]
    exact (List.isEmpty_eq_false_iff.2 (by simp)).symm
  rw [resolve_of_ne_nil hsome, resolve_of_ne_nil (List.ne_nil_of_length_pos i.pos), herase, hviable,
    winner?_of_beaten htrans ⟨d, hd, hbeats⟩, unbeaten_of_beaten htrans ⟨d, hd, hbeats⟩, hempty]

/-- The outcome of a call depends neither on the order of the signatures, except for the order in
which tied ones are given, nor on a signature that is not viable or that another viable one beats.
-/
theorem resolve_is_stable (signatures : List Signature) (name : String) (arguments : List Ty) :
    (∀ permuted : List Signature, permuted.Perm signatures →
      SameOutcome (resolve permuted name arguments) (resolve signatures name arguments)) ∧
    (∀ i : Fin signatures.length,
      ¬(signatures.get i).IsViable arguments → signatures.eraseIdx i ≠ [] →
        resolve (signatures.eraseIdx i) name arguments = resolve signatures name arguments) ∧
    ∀ i : Fin signatures.length, (signatures.get i).IsViable arguments →
      (∃ j, j ≠ i ∧ (signatures.get j).IsViable arguments ∧
        (signatures.get j).Beats (signatures.get i) arguments) →
        resolve (signatures.eraseIdx i) name arguments = resolve signatures name arguments := by
  refine ⟨fun permuted hperm => ?_, fun i hi hne => ?_, fun i hi hbeaten => ?_⟩
  · exact sameOutcome_of_perm hperm name arguments
  · exact resolve_eraseIdx_of_not_isViable hi hne name
  · obtain ⟨j, hne, hj, hbeats⟩ := hbeaten
    exact resolve_eraseIdx_of_beats hne hi hj hbeats name

/-- Of three signatures for two integers, two tie and both beat the third, which may be left out.
-/
theorem resolve_is_stable_of_tie :
    let signature (k l : Scalar) : Signature :=
      { name := "f", returnType := .void, condition := .always, doc := none
        parameters := [⟨none, .scalar k, ∅⟩, ⟨none, .scalar l, ∅⟩] }
    let tied : List Signature := [signature .uint .int, signature .int .uint]
    let arguments : List Ty := [.scalar .int, .scalar .int]
    resolve tied "f" arguments = resolve (tied ++ [signature .uint .uint]) "f" arguments ∧
      resolve tied "f" arguments = .error (.ambiguous "f" arguments tied) := by
  intro signature tied arguments
  have hlast : (signature .uint .uint).costs? arguments = some [.widening, .widening] := by decide
  have hfirst : (signature .uint .int).costs? arguments = some [.widening, .exact] := by decide
  refine ⟨?_, by decide⟩
  refine (resolve_is_stable (tied ++ [signature .uint .uint]) "f" arguments).2.2
    ⟨2, by decide⟩ ?_ ⟨⟨0, by decide⟩, by decide, ?_, ?_⟩
  · exact Signature.isViable_iff_exists_costs?.2 ⟨_, hlast⟩
  · exact Signature.isViable_iff_exists_costs?.2 ⟨_, hfirst⟩
  · exact (Signature.beats_iff hfirst hlast).1 (by decide)

end Overload

end GlslPrelude
