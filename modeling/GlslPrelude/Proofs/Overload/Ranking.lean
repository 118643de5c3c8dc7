import GlslPrelude.Overload
import GlslPrelude.Proofs.Data.Traversal
import Mathlib.Data.Fintype.EquivFin
import Mathlib.Data.List.FinRange
import Mathlib.Order.WellFounded

/-!
# The ranking of signatures

What a call goes to, said about the places of a list of signatures. A signature is viable if every
argument converts, and beats another if its costs are nowhere worse and somewhere better. `resolve`
goes to the viable signature that beats all the other viable ones (`resolve_ranks`). If there is
none, the call is ambiguous between the unbeaten ones (`exists_unbeatenAt` finds one behind every
viable signature, since beating is transitive and nothing beats itself), and these are at least two.
-/

namespace GlslPrelude

namespace Signature

/-- Cost of passing the argument at a place of a call to the parameter at that place. -/
def costAt? (s : Signature) (arguments : List Ty) (i : Nat) : Option Conversion := do
  let p ← s.parameters[i]?
  let argument ← arguments[i]?
  p.classify? argument

/-- A call has as many arguments as the signature has parameters, and each can be passed. -/
def IsViable (s : Signature) (arguments : List Ty) : Prop :=
  s.parameters.length = arguments.length ∧
    ∀ i < arguments.length, ∃ cost, s.costAt? arguments i = some cost

/-- Passing the arguments of a call costs nowhere more than with another signature, and somewhere
less. -/
def Beats (s t : Signature) (arguments : List Ty) : Prop :=
  (∀ i < arguments.length, ∀ x ∈ s.costAt? arguments i, ∀ y ∈ t.costAt? arguments i,
      x.rank ≤ y.rank) ∧
    ∃ i < arguments.length, ∃ x ∈ s.costAt? arguments i, ∃ y ∈ t.costAt? arguments i,
      x.rank < y.rank

variable {s t u : Signature} {arguments : List Ty}

/-- Of two signatures at most one beats the other, so no signature beats itself. -/
theorem Beats.asymm (hst : s.Beats t arguments) : ¬ t.Beats s arguments := by
  rintro ⟨hle, -⟩
  obtain ⟨-, i, hi, x, hx, y, hy, hlt⟩ := hst
  exact Nat.not_le.2 hlt (hle i hi y hy x hx)

theorem Beats.trans (hst : s.Beats t arguments) (htu : t.Beats u arguments)
    (ht : t.IsViable arguments) (hu : u.IsViable arguments) : s.Beats u arguments := by
  constructor
  · intro i hi x hx z hz
    -- the costs are compared through those of the signature in the middle
    obtain ⟨y, hy⟩ := ht.2 i hi
    exact (hst.1 i hi x hx y hy).trans (htu.1 i hi y hy z hz)
  · obtain ⟨i, hi, x, hx, y, hy, hlt⟩ := hst.2
    obtain ⟨z, hz⟩ := hu.2 i hi
    exact ⟨i, hi, x, hx, z, hz, hlt.trans_le (htu.1 i hi y hy z hz)⟩

/-! ## Costs place by place -/

theorem costAt?_of_lt {i : Nat} (hs : i < s.parameters.length) (hi : i < arguments.length) :
    s.costAt? arguments i = s.parameters[i].classify? arguments[i] := by
  simp [costAt?, hs, hi]

/-- The costs of a call are those of its places. -/
theorem costs?_eq_some_iff {costs : List Conversion} :
    s.costs? arguments = some costs ↔
      s.parameters.length = arguments.length ∧ costs.length = arguments.length ∧
        ∀ i < arguments.length, s.costAt? arguments i = costs[i]? := by
  rw [costs?]
  by_cases hlength : s.parameters.length = arguments.length
  · rw [if_pos hlength, mapM_eq_some_iff, List.ext_getElem_iff]
    simp only [List.length_map, List.length_zip, hlength, Nat.min_self, true_and,
      eq_comm (a := arguments.length)]
    refine and_congr_right fun hcosts => forall_congr' fun i => ?_
    constructor
    · intro h hi
      rw [costAt?_of_lt (hlength ▸ hi) hi, List.getElem?_eq_getElem (hcosts ▸ hi)]
      simpa using h hi (hcosts ▸ hi)
    · intro h hi hi'
      rw [costAt?_of_lt (hlength ▸ hi) hi, List.getElem?_eq_getElem hi'] at h
      simpa using h hi
  · rw [if_neg hlength]
    simp [hlength]

/-- The viable signatures are those that have costs. -/
theorem isViable_iff_exists_costs? :
    s.IsViable arguments ↔ ∃ costs, s.costs? arguments = some costs := by
  constructor
  · rintro ⟨hlength, hcosts⟩
    choose cost hcost using hcosts
    refine ⟨List.ofFn fun i : Fin arguments.length => cost i i.2, ?_⟩
    rw [costs?_eq_some_iff]
    exact ⟨hlength, List.length_ofFn, fun i hi => by simp [hcost, hi]⟩
  · rintro ⟨costs, hcosts⟩
    obtain ⟨hlength, hcosts, hplaces⟩ := costs?_eq_some_iff.1 hcosts
    refine ⟨hlength, fun i hi => ⟨costs[i], ?_⟩⟩
    rw [hplaces i hi, List.getElem?_eq_getElem]

/-- The lists of costs are compared as the signatures are, place by place. -/
theorem beats_iff {a b : List Conversion} (ha : s.costs? arguments = some a)
    (hb : t.costs? arguments = some b) :
    Overload.beats a b = true ↔ s.Beats t arguments := by
  obtain ⟨-, hlength, ha⟩ := costs?_eq_some_iff.1 ha
  obtain ⟨-, -, hb⟩ := costs?_eq_some_iff.1 hb
  have hzip (x y : Conversion) : (x, y) ∈ a.zip b ↔
      ∃ i < arguments.length, s.costAt? arguments i = some x ∧ t.costAt? arguments i = some y := by
    simp only [List.mem_iff_getElem?, List.getElem?_zip_eq_some]
    constructor
    · rintro ⟨i, hx, hy⟩
      have hi : i < arguments.length := hlength ▸ (List.getElem?_eq_some_iff.1 hx).1
      exact ⟨i, hi, (ha i hi).trans hx, (hb i hi).trans hy⟩
    · rintro ⟨i, hi, hx, hy⟩
      exact ⟨i, (ha i hi).symm.trans hx, (hb i hi).symm.trans hy⟩
  simp only [Overload.beats, Bool.and_eq_true, List.all_eq_true, List.any_eq_true, Prod.forall,
    Prod.exists, hzip, decide_eq_true_eq, Beats, Option.mem_def]
  constructor
  · rintro ⟨hle, x, y, ⟨i, hi, hx, hy⟩, hlt⟩
    exact ⟨fun j hj x hx y hy => hle x y ⟨j, hj, hx, hy⟩, i, hi, x, hx, y, hy, hlt⟩
  · rintro ⟨hle, i, hi, x, hx, y, hy, hlt⟩
    exact ⟨fun x y ⟨j, hj, hx, hy⟩ => hle j hj x hx y hy, x, y, ⟨i, hi, hx, hy⟩, hlt⟩

end Signature

namespace Overload

variable {signatures : List Signature} {arguments : List Ty}

/-- The signature at a place of a list is viable and beats every other viable one of the list. -/
def WinsAt (signatures : List Signature) (arguments : List Ty) (i : Fin signatures.length) : Prop :=
  signatures[i].IsViable arguments ∧
    ∀ j, j ≠ i → signatures[j].IsViable arguments → signatures[i].Beats signatures[j] arguments

/-- The signature at a place of a list is viable and no other viable one of the list beats it. -/
def UnbeatenAt (signatures : List Signature) (arguments : List Ty) (i : Fin signatures.length) :
    Prop :=
  signatures[i].IsViable arguments ∧
    ∀ j, j ≠ i → signatures[j].IsViable arguments → ¬ signatures[j].Beats signatures[i] arguments

/-- There is at most one winner. -/
theorem WinsAt.unique {i j : Fin signatures.length} (hi : WinsAt signatures arguments i)
    (hj : WinsAt signatures arguments j) : i = j := by
  by_contra hne
  exact (hi.2 j (Ne.symm hne) hj.1).asymm (hj.2 i hne hi.1)

/-- Behind every viable signature stands an unbeaten one: itself, or one that beats it. -/
theorem exists_unbeatenAt {i : Fin signatures.length} (hi : signatures[i].IsViable arguments) :
    ∃ u, UnbeatenAt signatures arguments u ∧
      (u = i ∨ signatures[u].Beats signatures[i] arguments) := by
  let better (j k : Fin signatures.length) : Prop :=
    signatures[j].IsViable arguments ∧ signatures[k].IsViable arguments ∧
      signatures[j].Beats signatures[k] arguments
  have : IsTrans _ better :=
    ⟨fun _ _ _ hjk hkl => ⟨hjk.1, hkl.2.1, hjk.2.2.trans hkl.2.2 hjk.2.1 hkl.2.1⟩⟩
  have : Std.Irrefl better := ⟨fun _ h => h.2.2.asymm h.2.2⟩
  have hwf : WellFounded better := Finite.wellFounded_of_trans_of_irrefl better
  -- among the signature itself and those that beat it, take one that none of them beats
  obtain ⟨u, hu, hmin⟩ := hwf.has_min {j | j = i ∨ better j i} ⟨i, .inl rfl⟩
  have hviable : signatures[u].IsViable arguments := by
    rcases hu with rfl | hu
    · exact hi
    · exact hu.1
  refine ⟨u, ⟨hviable, fun j _ hj hbeats => hmin j (.inr ?_) ⟨hj, hviable, hbeats⟩⟩, ?_⟩
  · rcases hu with rfl | hu
    · exact ⟨hj, hi, hbeats⟩
    · exact ⟨hj, hi, hbeats.trans hu.2.2 hviable hi⟩
  · exact hu.imp_right fun hu => hu.2.2

/-! ## Candidates and their places -/

/-- The candidate that the signature at a place of a list is. -/
def candidateAt (signatures : List Signature) (arguments : List Ty) (i : Fin signatures.length) :
    Candidate :=
  { signature := signatures[i], costs := (signatures[i].costs? arguments).getD [] }

/-- The places of the viable signatures, in order. -/
def viablePlaces (signatures : List Signature) (arguments : List Ty) :
    List (Fin signatures.length) :=
  (List.finRange signatures.length).filter fun i => (signatures[i].costs? arguments).isSome

theorem mem_viablePlaces {i : Fin signatures.length} :
    i ∈ viablePlaces signatures arguments ↔ signatures[i].IsViable arguments := by
  rw [viablePlaces, List.mem_filter, Option.isSome_iff_exists,
    Signature.isViable_iff_exists_costs?]
  exact and_iff_right (List.mem_finRange i)

/-- The candidates are those of the viable places. -/
theorem viable_eq_map (signatures : List Signature) (arguments : List Ty) :
    viable signatures arguments =
      (viablePlaces signatures arguments).map (candidateAt signatures arguments) := by
  have hplaces : viable signatures arguments =
      viable ((List.finRange signatures.length).map (signatures[·])) arguments :=
    congrArg (viable · arguments) (List.map_getElem_finRange signatures).symm
  rw [hplaces, viable, viablePlaces]
  induction List.finRange signatures.length with
  | nil => rfl
  | cons i places ih =>
      rw [List.map_cons, List.filterMap_cons, List.filter_cons, ih]
      cases hcosts : signatures[i].costs? arguments with
      | none => rfl
      | some costs => simp only [candidateAt, hcosts, Option.map_some, Option.isSome_some,
          if_true, List.map_cons, Option.getD_some]

/-- The lists of costs of two viable signatures are compared as these are. -/
theorem beats_candidateAt {i j : Fin signatures.length}
    (hi : signatures[i].IsViable arguments) (hj : signatures[j].IsViable arguments) :
    beats (candidateAt signatures arguments i).costs (candidateAt signatures arguments j).costs =
      true ↔ signatures[i].Beats signatures[j] arguments := by
  obtain ⟨a, ha⟩ := Signature.isViable_iff_exists_costs?.1 hi
  obtain ⟨b, hb⟩ := Signature.isViable_iff_exists_costs?.1 hj
  rw [candidateAt, candidateAt, ha, hb]
  exact Signature.beats_iff ha hb

/-! ## Comparing in one pass -/

/-- The order of two lists of costs, found in one pass: that of the first places at which they
differ, if no later places differ the other way round. `ordering` is what the places in front have
shown. -/
def compareCosts (ordering : Ordering) : List Conversion → List Conversion → Option Ordering
  | x :: a, y :: b =>
    match compare x.rank y.rank with
    | .eq => compareCosts ordering a b
    | o => if ordering = .eq ∨ ordering = o then compareCosts o a b else none
  | _, _ => some ordering

/-- Costs that are found less are nowhere worse, neither in front nor behind, and better at one of
these places. -/
theorem compareCosts_eq_lt_iff (ordering : Ordering) (a b : List Conversion) :
    compareCosts ordering a b = some .lt ↔
      ordering ≠ .gt ∧ (∀ e ∈ a.zip b, e.1.rank ≤ e.2.rank) ∧
        (ordering = .lt ∨ ∃ e ∈ a.zip b, e.1.rank < e.2.rank) := by
  induction a generalizing ordering b with
  | nil => cases ordering <;> simp [compareCosts]
  | cons x a ih =>
      cases b with
      | nil => cases ordering <;> simp [compareCosts]
      | cons y b =>
          rw [compareCosts, List.zip_cons_cons]
          simp only [List.forall_mem_cons, List.exists_mem_cons_iff]
          rcases hxy : compare x.rank y.rank
          · have hlt : x.rank < y.rank := Nat.compare_eq_lt.1 hxy
            cases ordering <;> simp [ih, hlt, hlt.le]
          · have heq : x.rank = y.rank := Nat.compare_eq_eq.1 hxy
            simp [ih, heq]
          · -- no costs get better than others after a place at which they are worse
            have hgt : y.rank < x.rank := Nat.compare_eq_gt.1 hxy
            cases ordering <;> simp [ih, hgt]

/-- One pass over the costs decides which of two lists beats the other. -/
theorem beats_iff_compareCosts (a b : List Conversion) :
    beats a b = true ↔ compareCosts .eq a b = some .lt := by
  rw [compareCosts_eq_lt_iff, beats, Bool.and_eq_true, List.all_eq_true, List.any_eq_true]
  simp

/-! ## Winner and unbeaten candidates -/

section Winner

variable {ι : Type} {candidate : ι → Candidate} {before after : List ι}

/-- A winner stands at one of the places and beats the candidates at all the other places. -/
theorem exists_of_winner?_eq_some {c : Candidate}
    (h : winner? (before.map candidate) (after.map candidate) = some c) :
    ∃ i ∈ after, candidate i = c ∧
      ∀ j ∈ before ++ after, j ≠ i → beats (candidate i).costs (candidate j).costs = true := by
  induction after generalizing before with
  | nil => cases h
  | cons first after ih =>
      rw [List.map_cons, winner?] at h
      split at h
      case isTrue hbeats =>
        rw [Bool.and_eq_true, List.all_map, List.all_map, List.all_eq_true, List.all_eq_true]
          at hbeats
        refine ⟨first, List.mem_cons_self, Option.some.inj h, fun j hj hne => ?_⟩
        rcases List.mem_append.1 hj with hj | hj
        · exact hbeats.1 j hj
        · exact hbeats.2 j ((List.mem_cons.1 hj).resolve_left hne)
      case isFalse =>
        -- the first place joins those in front
        have h : winner? ((before ++ [first]).map candidate) (after.map candidate) = some c := by
          simpa using h
        obtain ⟨i, hi, hc, hbeats⟩ := ih h
        exact ⟨i, List.mem_cons_of_mem _ hi, hc, by simpa using hbeats⟩

/-- If there is no winner among candidates at different places, each of them fails to beat one at
another place. -/
theorem exists_not_beats_of_winner?_eq_none (hnodup : (before ++ after).Nodup)
    (h : winner? (before.map candidate) (after.map candidate) = none) :
    ∀ i ∈ after, ∃ j ∈ before ++ after,
      j ≠ i ∧ beats (candidate i).costs (candidate j).costs = false := by
  induction after generalizing before with
  | nil => simp
  | cons first after ih =>
      rw [List.map_cons, winner?] at h
      split at h
      case isTrue => cases h
      case isFalse hbeats =>
        have h : winner? ((before ++ [first]).map candidate) (after.map candidate) = none := by
          simpa using h
        intro i hi
        rcases List.mem_cons.1 hi with rfl | hi
        · have hnot : ∃ j ∈ before ++ after,
              beats (candidate i).costs (candidate j).costs = false := by
            by_contra hall
            refine hbeats ?_
            rw [Bool.and_eq_true, List.all_map, List.all_map, List.all_eq_true, List.all_eq_true,
              ← List.forall_mem_append]
            exact fun j hj => by simpa using fun hnot => hall ⟨j, hj, hnot⟩
          obtain ⟨j, hj, hnot⟩ := hnot
          have hne : j ≠ i := by
            rintro rfl
            exact (List.nodup_cons.1 (List.nodup_middle.1 hnodup)).1 hj
          exact ⟨j, by simpa [or_left_comm] using Or.inr hj, hne, hnot⟩
        · obtain ⟨j, hj, hne, hnot⟩ := ih (by simpa using hnodup) h i hi
          exact ⟨j, by simpa using hj, hne, hnot⟩

end Winner

/-- The winning candidate is that of a winning place. -/
theorem exists_winsAt_of_winner?_eq_some {c : Candidate}
    (h : winner? [] (viable signatures arguments) = some c) :
    ∃ i, WinsAt signatures arguments i ∧ c.signature = signatures[i] := by
  rw [viable_eq_map, ← List.map_nil (f := candidateAt signatures arguments)] at h
  obtain ⟨i, hi, rfl, hbeats⟩ := exists_of_winner?_eq_some h
  have hi := mem_viablePlaces.1 hi
  refine ⟨i, ⟨hi, fun j hne hj => ?_⟩, rfl⟩
  exact (beats_candidateAt hi hj).1 (hbeats j (mem_viablePlaces.2 hj) hne)

/-- Without a winning candidate no place wins. -/
theorem not_winsAt_of_winner?_eq_none (h : winner? [] (viable signatures arguments) = none)
    (i : Fin signatures.length) : ¬ WinsAt signatures arguments i := by
  rintro ⟨hi, hwins⟩
  rw [viable_eq_map, ← List.map_nil (f := candidateAt signatures arguments)] at h
  have hnodup : (viablePlaces signatures arguments).Nodup :=
    (List.nodup_finRange _).filter _
  obtain ⟨j, hj, hne, hnot⟩ :=
    exists_not_beats_of_winner?_eq_none hnodup h i (mem_viablePlaces.2 hi)
  have hj := mem_viablePlaces.1 hj
  rw [(beats_candidateAt hi hj).2 (hwins j hne hj)] at hnot
  cases hnot

/-- The unbeaten candidates are those of the unbeaten places, in order. -/
theorem exists_unbeaten_eq_map (signatures : List Signature) (arguments : List Ty) :
    ∃ places : List (Fin signatures.length),
      (unbeaten (viable signatures arguments)).map Candidate.signature =
          places.map (signatures[·]) ∧
        places.Pairwise (· < ·) ∧ ∀ i, i ∈ places ↔ UnbeatenAt signatures arguments i := by
  refine ⟨(viablePlaces signatures arguments).filter fun i =>
    !(viablePlaces signatures arguments).any fun j =>
      beats (candidateAt signatures arguments j).costs (candidateAt signatures arguments i).costs,
    ?_, ?_, fun i => ?_⟩
  · rw [viable_eq_map, unbeaten, List.filter_map, List.map_map]
    simp only [List.any_map, Function.comp_def]
    rfl
  · exact ((List.pairwise_lt_finRange _).filter _).filter _
  · rw [List.mem_filter, mem_viablePlaces, UnbeatenAt]
    refine and_congr_right fun hi => ?_
    rw [Bool.not_eq_true', List.any_eq_false]
    constructor
    · intro h j _ hj hbeats
      exact h j (mem_viablePlaces.2 hj) ((beats_candidateAt hj hi).2 hbeats)
    · intro h j hj hbeats
      have hj := mem_viablePlaces.1 hj
      have hbeats := (beats_candidateAt hj hi).1 hbeats
      -- nothing beats itself
      have hne : j ≠ i := by
        rintro rfl
        exact hbeats.asymm hbeats
      exact h j hne hj hbeats

/-! ## Outcomes -/

/-- A place that alone is unbeaten wins: whatever is viable beside it stands behind an unbeaten
one. -/
theorem winsAt_of_unbeatenAt_unique {i : Fin signatures.length}
    (hi : UnbeatenAt signatures arguments i)
    (honly : ∀ j, UnbeatenAt signatures arguments j → j = i) : WinsAt signatures arguments i := by
  refine ⟨hi.1, fun j hne hj => ?_⟩
  obtain ⟨u, hu, hbehind⟩ := exists_unbeatenAt hj
  obtain rfl := honly u hu
  exact hbehind.resolve_left fun h => hne h.symm

/-- If a signature is viable but none wins, at least two are unbeaten. -/
theorem two_le_length_of_not_winsAt {places : List (Fin signatures.length)}
    (hplaces : ∀ i, i ∈ places ↔ UnbeatenAt signatures arguments i)
    {i : Fin signatures.length} (hi : signatures[i].IsViable arguments)
    (hnone : ∀ i, ¬ WinsAt signatures arguments i) : 2 ≤ places.length := by
  obtain ⟨u, hu, -⟩ := exists_unbeatenAt hi
  match places, hplaces with
  | [], hplaces => cases (hplaces u).2 hu
  | [v], hplaces =>
      -- the only unbeaten place would win
      have hv := (hplaces v).1 List.mem_cons_self
      refine absurd (winsAt_of_unbeatenAt_unique hv fun j hj => ?_) (hnone v)
      simpa using (hplaces j).2 hj
  | _ :: _ :: _, _ => simp

/-- Among some signatures the viable ones decide. -/
theorem resolve_of_ne_nil (hne : signatures ≠ []) (name : String) (arguments : List Ty) :
    resolve signatures name arguments =
      match winner? [] (viable signatures arguments) with
      | some c => .ok c.signature
      | none =>
        if (viable signatures arguments).isEmpty then .error (.notApplicable name arguments)
        else .error (.ambiguous name arguments
          ((unbeaten (viable signatures arguments)).map Candidate.signature)) := by
  rw [resolve]
  exact if_neg (by simpa using hne)

/-- The outcomes of a call: there is no signature, none is viable, one wins, or the viable ones that
are unbeaten are given. -/
theorem resolve_cases (signatures : List Signature) (name : String) (arguments : List Ty) :
    (signatures = [] ∧ resolve signatures name arguments = .error (.unknownFunction name)) ∨
    (signatures ≠ [] ∧ (∀ i : Fin signatures.length, ¬ signatures[i].IsViable arguments) ∧
      resolve signatures name arguments = .error (.notApplicable name arguments)) ∨
    (∃ i, WinsAt signatures arguments i ∧
      resolve signatures name arguments = .ok signatures[i]) ∨
    ((∃ i : Fin signatures.length, signatures[i].IsViable arguments) ∧
      (∀ i, ¬ WinsAt signatures arguments i) ∧
      ∃ places : List (Fin signatures.length),
        resolve signatures name arguments =
            .error (.ambiguous name arguments (places.map (signatures[·]))) ∧
          places.Pairwise (· < ·) ∧ ∀ i, i ∈ places ↔ UnbeatenAt signatures arguments i) := by
  by_cases hempty : signatures = []
  · exact .inl ⟨hempty, by simp [resolve, hempty]⟩
  refine .inr ?_
  have hresolve := resolve_of_ne_nil hempty name arguments
  cases hwinner : winner? [] (viable signatures arguments) with
  | some c =>
      obtain ⟨i, hi, hc⟩ := exists_winsAt_of_winner?_eq_some hwinner
      exact .inr (.inl ⟨i, hi, by rw [hresolve, hwinner, ← hc]⟩)
  | none =>
      rw [hwinner] at hresolve
      by_cases hviable : ∃ i : Fin signatures.length, signatures[i].IsViable arguments
      · obtain ⟨i, hi⟩ := hviable
        obtain ⟨places, hplaces, hsorted, hmem⟩ := exists_unbeaten_eq_map signatures arguments
        have hsome : ¬ (viable signatures arguments).isEmpty = true := by
          rw [viable_eq_map, List.isEmpty_iff, List.map_eq_nil_iff]
          exact List.ne_nil_of_mem (mem_viablePlaces.2 hi)
        refine .inr (.inr ⟨⟨i, hi⟩, not_winsAt_of_winner?_eq_none hwinner, places, ?_, hsorted,
          hmem⟩)
        rw [hresolve, ← hplaces]
        exact if_neg hsome
      · have hnone (i : Fin signatures.length) : ¬ signatures[i].IsViable arguments :=
          fun hi => hviable ⟨i, hi⟩
        have hempty_viable : (viable signatures arguments).isEmpty = true := by
          rw [viable_eq_map, List.isEmpty_iff, List.map_eq_nil_iff,
            List.eq_nil_iff_forall_not_mem]
          exact fun i hi => hnone i (mem_viablePlaces.1 hi)
        refine .inl ⟨hempty, hnone, ?_⟩
        rw [hresolve]
        exact if_pos hempty_viable

/-- The outcome of a call, by the places of the given signatures: no signature at all, none viable,
one that wins, or several that are unbeaten. -/
theorem resolve_ranks (signatures : List Signature) (name : String) (arguments : List Ty) :
    (resolve signatures name arguments = .error (.unknownFunction name) ↔ signatures = []) ∧
    (resolve signatures name arguments = .error (.notApplicable name arguments) ↔
      signatures ≠ [] ∧ ∀ i : Fin signatures.length, ¬ signatures[i].IsViable arguments) ∧
    (∀ s, resolve signatures name arguments = .ok s ↔
      ∃ i, signatures[i] = s ∧ WinsAt signatures arguments i) ∧
    ((∃ i : Fin signatures.length, signatures[i].IsViable arguments) ∧
        (¬ ∃ i, WinsAt signatures arguments i) ↔
      ∃ places : List (Fin signatures.length),
        resolve signatures name arguments =
            .error (.ambiguous name arguments (places.map (signatures[·]))) ∧
          places.Pairwise (· < ·) ∧ (∀ i, i ∈ places ↔ UnbeatenAt signatures arguments i) ∧
          2 ≤ places.length ∧
          ∀ i ∈ places, ∀ j ∈ places, ¬ signatures[i].Beats signatures[j] arguments) := by
  have nonempty_of_place (i : Fin signatures.length) : signatures ≠ [] :=
    List.ne_nil_of_length_pos i.pos
  rcases resolve_cases signatures name arguments with ⟨hempty, h⟩ | ⟨hne, hnone, h⟩ | ⟨w, hw, h⟩ |
    ⟨⟨i, hi⟩, hnone, places, h, hsorted, hplaces⟩ <;> rw [h]
  · -- without signatures there are no places
    have hplace (i : Fin signatures.length) : False := nonempty_of_place i hempty
    refine ⟨iff_of_true rfl hempty, iff_of_false (by simp) fun hne => hne.1 hempty,
      fun s => iff_of_false (by simp) fun ⟨i, _⟩ => hplace i,
      iff_of_false (fun ⟨⟨i, _⟩, _⟩ => hplace i) (by simp)⟩
  · refine ⟨iff_of_false (by simp) hne, iff_of_true rfl ⟨hne, hnone⟩,
      fun s => iff_of_false (by simp) fun ⟨i, _, hi⟩ => hnone i hi.1,
      iff_of_false (fun ⟨⟨i, hi⟩, _⟩ => hnone i hi) (by simp)⟩
  · refine ⟨iff_of_false (by simp) (nonempty_of_place w),
      iff_of_false (by simp) fun hnone => hnone.2 w hw.1, fun s => ?_,
      iff_of_false (fun hnone => hnone.2 ⟨w, hw⟩) (by simp)⟩
    rw [Except.ok.injEq]
    constructor
    · rintro rfl
      exact ⟨w, rfl, hw⟩
    · rintro ⟨i, rfl, hi⟩
      rw [hi.unique hw]
  · refine ⟨iff_of_false (by simp) (nonempty_of_place i),
      iff_of_false (by simp) fun hnone => hnone.2 i hi,
      fun s => iff_of_false (by simp) fun ⟨i, _, hi⟩ => hnone i hi,
      iff_of_true ⟨⟨i, hi⟩, fun ⟨i, hi⟩ => hnone i hi⟩ ⟨places, rfl, hsorted, hplaces,
        two_le_length_of_not_winsAt hplaces hi hnone, fun j hj k hk hbeats => ?_⟩⟩
    have hk := (hplaces k).1 hk
    have hne : j ≠ k := by
      rintro rfl
      exact hbeats.asymm hbeats
    exact hk.2 j hne ((hplaces j).1 hj).1 hbeats

/-- Equal signatures at different places do not beat each other, not even without arguments. -/
example (name : String) :
    let s : Signature := ⟨name, .void, [], .always, none⟩
    resolve [s, s] name [] = .error (.ambiguous name [] [s, s]) :=
  rfl

end Overload

end GlslPrelude
