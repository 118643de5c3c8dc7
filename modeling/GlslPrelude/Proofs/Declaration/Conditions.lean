import GlslPrelude.Proofs.Declaration.Statements
import GlslPrelude.Proofs.SymbolTable.Entries

/-!
# The conditions of declarations

Whatever a fragment declares stands under the condition of the fragment: each declaration has it,
and a function that is declared carries it too (`conditionsAgree_of_parse`). So the declarations of
fragments that are read one after the other can be gathered by name (`conditionsAgree_of_parseAll`).
-/

namespace GlslPrelude

namespace Fragment

variable {scope scope' : Scope} {declarations : List Declaration} {d : Declaration}

/-- A declaration of a fragment has the condition of the fragment, and so has a function that it
introduces. -/
theorem conditionsAgree_of_parse {f : Fragment}
    (h : parse scope f = (scope', .ok declarations)) (hd : d ∈ declarations) :
    d.condition = f.condition ∧ d.ConditionsAgree := by
  have hall : ∀ d ∈ declarations, ∀ s, d.entity = .function s → s.condition = f.condition := by
    refine forall_entity_of_parse (fun e => ∀ s, e = .function s → s.condition = f.condition)
      (fun scope doc ts rest entities hread e he => ?_) h
    obtain ⟨c, rfl⟩ | ⟨v, rfl⟩ | ⟨b, rfl, -⟩ | ⟨s, -, -, rfl, hs, -⟩ :=
      Input.cases_of_readDeclaration hread e he
    · simp
    · simp
    · simp
    · rintro _ ⟨⟩
      exact hs
  have hfunction := hall d hd
  obtain ⟨tokens, statements, -, -, rfl⟩ := exists_statements_of_parse h
  obtain ⟨st, -, hd⟩ := List.mem_flatMap.1 hd
  obtain ⟨entity, -, rfl⟩ := List.mem_map.1 hd
  refine ⟨rfl, ?_⟩
  cases entity with
  | function s => exact hfunction s rfl
  | const | var | block => trivial

/-- A declaration of some fragments has the condition of one of them, and so has a function that it
introduces. -/
theorem conditionsAgree_of_parseAll {fragments : List Fragment}
    (h : parseAll scope fragments = .ok declarations) (hd : d ∈ declarations) :
    (∃ f ∈ fragments, d.condition = f.condition) ∧ d.ConditionsAgree := by
  induction fragments generalizing scope declarations with
  | nil =>
      cases h
      cases hd
  | cons f fragments ih =>
      rw [parseAll] at h
      split at h
      · cases h
      · rename_i hparse
        split at h
        · cases h
        · rename_i hmore
          cases h
          rcases List.mem_append.1 hd with hd | hd
          · obtain ⟨hcondition, hagree⟩ := conditionsAgree_of_parse hparse hd
            exact ⟨⟨f, List.mem_cons_self, hcondition⟩, hagree⟩
          · obtain ⟨⟨g, hg, hcondition⟩, hagree⟩ := ih hmore hd
            exact ⟨⟨g, List.mem_cons_of_mem _ hg, hcondition⟩, hagree⟩

end Fragment

end GlslPrelude
