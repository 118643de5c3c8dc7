import GlslPrelude.Overload

/-!
# Calls with the types of a signature

Passing an argument costs nothing exactly when it has the type of the parameter, whichever way data
flows. So a call with the parameter types of a signature costs nothing there and something at every
other signature, and `resolve` goes to that signature if it is the only one with these types.
-/

namespace GlslPrelude

/-- Only the exact conversion has the lowest rank. -/
theorem Conversion.rank_eq_zero_iff {c : Conversion} : c.rank = 0 ↔ c = .exact := by
  cases c <;> simp [rank]

/-- Converting between different component kinds is never exact. -/
theorem Conversion.ofScalars?_ne_exact (k l : Scalar) : ofScalars? k l ≠ some .exact := by
  rw [ofScalars?]
  split
  · simp
  · split <;> simp

/-- A type converts exactly to itself and to no other type. -/
theorem Ty.conversion?_eq_exact_iff {a b : Ty} : a.conversion? b = some .exact ↔ a = b := by
  rw [conversion?]
  by_cases hab : a = b
  · simp [hab]
  · rw [if_neg hab]
    refine ⟨fun h => ?_, fun h => absurd h hab⟩
    obtain ⟨⟨k, l⟩, -, hexact⟩ := Option.bind_eq_some_iff.1 h
    exact absurd hexact (Conversion.ofScalars?_ne_exact k l)

/-- Whichever way data flows, only an argument of the parameter's type is passed exactly. -/
theorem Parameter.classify?_eq_exact_iff {p : Parameter} {argument : Ty} :
    p.classify? argument = some .exact ↔ p.type = argument := by
  rw [classify?]
  match p.direction with
  | .in => rw [Ty.conversion?_eq_exact_iff, eq_comm]
  | .out => exact Ty.conversion?_eq_exact_iff
  | .inout => simp

namespace Signature

variable {s : Signature} {arguments : List Ty} {costs : List Conversion}

/-- Arguments of the parameters' types are passed exactly. -/
theorem costs?_parameterTypes (s : Signature) :
    s.costs? s.parameterTypes = some (List.replicate s.parameterTypes.length .exact) := by
  rw [costs?, parameterTypes, List.length_map, if_pos rfl]
  generalize s.parameters = ps
  induction ps with
  | nil => rfl
  | cons p ps ih =>
      have hp : p.classify? p.type = some .exact := Parameter.classify?_eq_exact_iff.2 rfl
      rw [List.map_cons, List.zip_cons_cons, List.mapM_cons, ih]
      dsimp only
      rw [hp]
      rfl

/-- There is one cost for each argument, and all are exact only if the arguments have the
parameters' types. -/
theorem costs?_eq_some (h : s.costs? arguments = some costs) :
    costs.length = arguments.length ∧
      (costs = List.replicate arguments.length .exact → s.parameterTypes = arguments) := by
  rw [costs?] at h
  split at h
  case isFalse => cases h
  case isTrue hlength =>
    rw [parameterTypes]
    generalize s.parameters = ps at h hlength
    induction ps generalizing arguments costs with
    | nil =>
        cases h
        cases arguments with
        | nil => simp
        | cons => cases hlength
    | cons p ps ih =>
        cases arguments with
        | nil => cases hlength
        | cons argument arguments =>
            rw [List.zip_cons_cons, List.mapM_cons] at h
            obtain ⟨cost, hcost, h⟩ := Option.bind_eq_some_iff.1 h
            obtain ⟨rest, hrest, h⟩ := Option.bind_eq_some_iff.1 h
            cases h
            obtain ⟨hlength', hexact⟩ := ih hrest (Nat.succ.inj hlength)
            refine ⟨congrArg Nat.succ hlength', fun h => ?_⟩
            rw [List.length_cons, List.replicate_succ, List.cons.injEq] at h
            obtain ⟨rfl, hrest_exact⟩ := h
            rw [List.map_cons, hexact hrest_exact, Parameter.classify?_eq_exact_iff.1 hcost]

end Signature

namespace Overload

/-- Exact costs are nowhere worse than others. -/
theorem all_rank_le_of_exact (costs : List Conversion) (n : Nat) :
    ((List.replicate n Conversion.exact).zip costs).all
      (fun (x, y) => x.rank ≤ y.rank) = true := by
  rw [List.all_eq_true]
  rintro ⟨x, y⟩ hmem
  rw [List.eq_of_mem_replicate (List.of_mem_zip hmem).1]
  exact decide_eq_true (Nat.zero_le _)

/-- Exact costs beat all others. -/
theorem exact_beats {costs : List Conversion} {n : Nat} (hlength : costs.length = n)
    (hne : costs ≠ List.replicate n .exact) : beats (List.replicate n .exact) costs = true := by
  rw [beats, all_rank_le_of_exact, Bool.true_and]
  induction costs generalizing n with
  | nil =>
      subst hlength
      exact absurd rfl hne
  | cons cost costs ih =>
      subst hlength
      rw [List.length_cons, List.replicate_succ, List.zip_cons_cons, List.any_cons, Bool.or_eq_true]
      by_cases hcost : cost = .exact
      · -- an exact cost wins nothing, so another one must be worse
        refine .inr (ih rfl fun h => hne ?_)
        rw [List.length_cons, List.replicate_succ, ← h, hcost]
      · refine .inl (decide_eq_true (Nat.pos_of_ne_zero fun h => hcost ?_))
        exact Conversion.rank_eq_zero_iff.1 h

/-- Nothing beats exact costs. -/
theorem not_beats_exact (costs : List Conversion) (n : Nat) :
    beats costs (List.replicate n .exact) = false := by
  rw [beats, Bool.and_eq_false_iff]
  refine .inr (List.any_eq_false.2 ?_)
  rintro ⟨x, y⟩ hmem
  rw [List.eq_of_mem_replicate (List.of_mem_zip hmem).2]
  simp [Conversion.rank]

/-- A candidate that beats all the others is the winner, if those in front of it do not beat it. -/
theorem winner?_eq_some {before front back : List Candidate} {c : Candidate}
    (hbeats : ∀ other ∈ before ++ front ++ back, beats c.costs other.costs = true)
    (hnot : ∀ other ∈ front, beats other.costs c.costs = false) :
    winner? before (front ++ c :: back) = some c := by
  induction front generalizing before with
  | nil =>
      rw [List.append_nil, List.forall_mem_append] at hbeats
      rw [List.nil_append, winner?, List.all_eq_true.2 hbeats.1, List.all_eq_true.2 hbeats.2]
      rfl
  | cons first front ih =>
      -- the first candidate does not win, as it does not beat the one in question
      have hfirst :
          (front ++ c :: back).all (fun other => beats first.costs other.costs) = false := by
        rw [List.all_eq_false]
        exact ⟨c, by simp, by simp [hnot first]⟩
      rw [List.cons_append, winner?, hfirst, Bool.and_false]
      refine ih (fun other hother => hbeats other ?_)
        fun other hother => hnot other (by simp [hother])
      simpa using hother

/-- A viable candidate comes from a signature and has its costs. -/
theorem mem_viable {signatures : List Signature} {arguments : List Ty} {c : Candidate}
    (h : c ∈ viable signatures arguments) :
    c.signature ∈ signatures ∧ c.signature.costs? arguments = some c.costs := by
  obtain ⟨s, hs, hc⟩ := List.mem_filterMap.1 h
  obtain ⟨costs, hcosts, rfl⟩ := Option.map_eq_some_iff.1 hc
  exact ⟨hs, hcosts⟩

/-- A call with the parameter types of a signature goes there if all signatures have different
parameter types. -/
theorem resolve_parameterTypes {signatures : List Signature}
    (hdiffer : signatures.Pairwise (·.parameterTypes ≠ ·.parameterTypes)) {s : Signature}
    (hs : s ∈ signatures) (name : String) : resolve signatures name s.parameterTypes = .ok s := by
  obtain ⟨front, back, rfl⟩ := List.mem_iff_append.1 hs
  rw [List.pairwise_append, List.pairwise_cons] at hdiffer
  obtain ⟨-, ⟨hback, -⟩, hfront⟩ := hdiffer
  have hothers : ∀ other ∈ front ++ back, other.parameterTypes ≠ s.parameterTypes := by
    rw [List.forall_mem_append]
    exact ⟨fun other hother => hfront other hother s List.mem_cons_self,
      fun other hother => (hback other hother).symm⟩
  have hviable : viable (front ++ s :: back) s.parameterTypes =
      viable front s.parameterTypes ++
        { signature := s, costs := List.replicate s.parameterTypes.length .exact } ::
          viable back s.parameterTypes := by
    simp only [viable, List.filterMap_append, List.filterMap_cons, s.costs?_parameterTypes,
      Option.map_some]
  -- every other viable signature has some cost that is not exact
  have hbeats : ∀ other ∈ viable front s.parameterTypes ++ viable back s.parameterTypes,
      beats (List.replicate s.parameterTypes.length .exact) other.costs = true := by
    intro other hother
    rw [viable, viable, ← List.filterMap_append] at hother
    obtain ⟨hmem, hcosts⟩ := mem_viable hother
    obtain ⟨hlength, hexact⟩ := Signature.costs?_eq_some hcosts
    exact exact_beats hlength fun h => hothers _ hmem (hexact h)
  rw [resolve, if_neg (by simp), hviable]
  dsimp only
  rw [winner?_eq_some hbeats fun other _ => not_beats_exact other.costs _]

end Overload

end GlslPrelude
