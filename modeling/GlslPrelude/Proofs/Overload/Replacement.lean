import GlslPrelude.Proofs.Overload.Ranking
import GlslPrelude.Proofs.Type.Widening

/-!
# Replacing an argument

Convertibility is a partial order on types, and viability follows it: a signature stays viable if an
argument is replaced by one that converts to it where data flows in, or by one that it converts to
where data flows out (`convertibility_is_partial_order`).
-/

namespace GlslPrelude

/-- Where data flows in, what converts to an argument may take its place. -/
theorem Parameter.isSome_classify?_of_in {p : Parameter} {a t : Ty} (hp : p.direction = .in)
    (ht : t.ConvertsTo a) (ha : (p.classify? a).isSome) : (p.classify? t).isSome := by
  rw [classify?, hp] at *
  exact ht.trans ha

/-- Where data flows out, what an argument converts to may take its place. -/
theorem Parameter.isSome_classify?_of_out {p : Parameter} {a t : Ty} (hp : p.direction = .out)
    (ht : a.ConvertsTo t) (ha : (p.classify? a).isSome) : (p.classify? t).isSome := by
  rw [classify?, hp] at *
  exact Ty.ConvertsTo.trans ha ht

namespace Signature

variable {s : Signature} {arguments : List Ty} {i : Nat} {p : Parameter} {a t : Ty}

/-- A signature has costs for the arguments of a call exactly if it is viable. -/
theorem isSome_costs?_iff : (s.costs? arguments).isSome ↔ s.IsViable arguments := by
  rw [Option.isSome_iff_exists, isViable_iff_exists_costs?]

/-- An argument may be replaced by one that its parameter takes as well. -/
theorem IsViable.set (h : s.IsViable arguments) (hp : s.parameters[i]? = some p)
    (ht : (p.classify? t).isSome) : s.IsViable (arguments.set i t) := by
  obtain ⟨hlength, hcosts⟩ := h
  refine ⟨by rw [List.length_set, hlength], fun j hj => ?_⟩
  rw [List.length_set] at hj
  by_cases hij : i = j
  · subst hij
    obtain ⟨cost, hcost⟩ := Option.isSome_iff_exists.1 ht
    refine ⟨cost, ?_⟩
    rw [costAt?, hp, List.getElem?_set_self hj]
    exact hcost
  · -- the other arguments stay
    rw [costAt?, List.getElem?_set_ne hij]
    exact hcosts j hj

/-- A parameter of a viable signature takes the argument at its place. -/
theorem IsViable.isSome_classify? (h : s.IsViable arguments) (hp : s.parameters[i]? = some p)
    (ha : arguments[i]? = some a) : (p.classify? a).isSome := by
  obtain ⟨cost, hcost⟩ := h.2 i (List.getElem?_eq_some_iff.1 ha).1
  rw [costAt?, hp, ha] at hcost
  exact Option.isSome_iff_exists.2 ⟨cost, hcost⟩

end Signature

/-- Convertibility is a partial order on types, with exact conversions only between equal ones. So a
viable signature stays viable if an argument is replaced by one that converts to it at a parameter
that data flows in through, or by one that it converts to where data flows out. -/
theorem convertibility_is_partial_order :
    (∀ a : Ty, a.conversion? a = some .exact) ∧
    (∀ a b : Ty, a.conversion? b = some .exact → a = b) ∧
    (∀ a b : Ty, (a.conversion? b).isSome → (b.conversion? a).isSome → a = b) ∧
    (∀ a b c : Ty, (a.conversion? b).isSome → (b.conversion? c).isSome →
      (a.conversion? c).isSome) ∧
    ∀ (s : Signature) (arguments : List Ty) (i : Nat) (p : Parameter) (a t : Ty),
      (s.costs? arguments).isSome → s.parameters[i]? = some p → arguments[i]? = some a →
      (p.direction = .in ∧ (t.conversion? a).isSome) ∨
        (p.direction = .out ∧ (a.conversion? t).isSome) →
      (s.costs? (arguments.set i t)).isSome := by
  refine ⟨fun a => Ty.conversion?_eq_exact_iff.2 rfl, fun a b => Ty.conversion?_eq_exact_iff.1,
    fun a b => Ty.ConvertsTo.antisymm, fun a b c => Ty.ConvertsTo.trans, ?_⟩
  intro s arguments i p a t hviable hp ha hreplaced
  -- only the cost at the place of the argument can be lost
  rw [Signature.isSome_costs?_iff] at hviable ⊢
  have htakes := hviable.isSome_classify? hp ha
  refine hviable.set hp ?_
  rcases hreplaced with ⟨hin, hconverts⟩ | ⟨hout, hconverts⟩
  · exact Parameter.isSome_classify?_of_in hin hconverts htakes
  · exact Parameter.isSome_classify?_of_out hout hconverts htakes

/-- A signature with an `in` and an `out` parameter takes a smaller argument for the one and a
larger argument for the other. -/
theorem convertibility_is_partial_order_of_carry :
    let s : Signature :=
      { name := "f", returnType := .void, condition := .always, doc := none
        parameters := [⟨none, .scalar .uint, ∅⟩, ⟨none, .scalar .int, EnumSet.ofList [.out]⟩] }
    (s.costs? [.scalar .int, .scalar .int64]).isSome ∧
      (s.costs? [.scalar .int8, .scalar .int64]).isSome ∧
      (s.costs? [.scalar .int8, .scalar .uint64]).isSome := by
  intro s
  have hviable : (s.costs? [.scalar .int, .scalar .int64]).isSome := by decide
  have hsmaller := convertibility_is_partial_order.2.2.2.2 s _ 0 _ (.scalar .int) (.scalar .int8)
    hviable rfl rfl (.inl (by decide))
  have hlarger := convertibility_is_partial_order.2.2.2.2 s _ 1 _ (.scalar .int64) (.scalar .uint64)
    hsmaller rfl rfl (.inr (by decide))
  exact ⟨hviable, hsmaller, hlarger⟩

end GlslPrelude
