import GlslPrelude.Data.EnumSet

/-!
# Sets and lists of their elements

A set is told by the list of its elements (`EnumSet.ofList_toList`). The list of the elements of a
set that was made of a list has the elements of that list, each once and in canonical order
(`EnumSet.toList_ofList`).
-/

namespace GlslPrelude

namespace EnumSet

variable {α : Type} [DecidableEq α] [Enumeration α]

/-- A set is made of its elements. -/
theorem ofList_toList (s : EnumSet α) : ofList s.toList = s := by
  rw [← bits_inj]
  refine BitVec.eq_of_getLsbD_eq fun i hi => ?_
  -- the bit tells whether the element at its position is in the set
  have hposition : position ((elements α).get ⟨i, hi⟩) = i :=
    List.Nodup.idxOf_getElem Enumeration.nodup_all i hi
  have hmem : _ ↔ (elements α).get ⟨i, hi⟩ ∈ s.toList := mem_ofList
  rw [mem_toList, mem_iff_contains, mem_iff_contains, contains, contains, hposition] at hmem
  exact Bool.eq_iff_iff.2 hmem

/-- The elements of a set that is made of a list are those of the list. -/
theorem toList_ofList (as : List α) :
    (ofList as).toList = (elements α).filter fun a => decide (a ∈ as) := by
  refine List.filter_congr fun a _ => Bool.eq_iff_iff.2 ?_
  rw [decide_eq_true_eq, ← mem_iff_contains, mem_ofList]

/-- No element of a set is listed twice. -/
theorem nodup_toList (s : EnumSet α) : s.toList.Nodup :=
  Enumeration.nodup_all.filter _

end EnumSet

end GlslPrelude
