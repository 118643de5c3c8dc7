import GlslPrelude.Proofs.SymbolTable.Consistency
import GlslPrelude.Proofs.SymbolTable.Definitions
import Mathlib.Data.List.Basic

/-!
# Declarations that are repeated

A declaration that repeats an earlier one changes nothing in a table, whatever was declared under
its name in between: what is kept of the earlier one is met before anything that clashes
(`Holds.insertEntry_eq_self`). So a list of declarations may be followed by any repetitions of its
elements (`build_append_of_repeats`).
-/

namespace GlslPrelude

/-! ## Repeated declarations -/

/-- What repeats a definition repeats what the definition repeats. -/
theorem definitionRule_repeats_trans {a b c : Guarded Entity}
    (hab : definitionRule.repeats a b = true) (hbc : definitionRule.repeats b c = true) :
    definitionRule.repeats a c = true := by
  simp only [definitionRule, Bool.and_eq_true, decide_eq_true_eq] at hab hbc ⊢
  exact ⟨(Entity.same_congr hab.1 c.value).trans hbc.1, hab.2.trans hbc.2⟩

namespace Declaration

/-- The declaration repeats another one under the same condition: it introduces the same constant,
variable or block, or a function of the same name, parameter types and condition. Lines and
documentation may differ, and so may the values `0.0` and `-0.0`, while no value that is not a
number is repeated. -/
def Repeats (e d : Declaration) : Prop :=
  e.condition = d.condition ∧
    match e.entity, d.entity with
    | .const a, .const b => b.sameDefinition a = true
    | .var a, .var b => b.sameDefinition a = true
    | .block a, .block b => b = a
    | .function a, .function b =>
      b.name = a.name ∧ b.sameParameters a = true ∧ b.condition = a.condition
    | _, _ => False

instance : (e d : Declaration) → Decidable (e.Repeats d)
  | ⟨_, _, x⟩, ⟨_, _, y⟩ => by
    unfold Repeats
    cases x <;> cases y <;> infer_instance

/-- The declaration under the condition that a table keeps it with: a function has its own. -/
def stored (d : Declaration) : Declaration :=
  match d.entity with
  | .function s => { d with condition := s.condition }
  | .const _ | .var _ | .block _ => d

@[simp]
theorem stored_entity (d : Declaration) : d.stored.entity = d.entity := by
  unfold stored
  split <;> rfl

theorem stored_conditionsAgree (d : Declaration) : d.stored.ConditionsAgree := by
  obtain ⟨condition, line, entity⟩ := d
  cases entity <;> first | rfl | trivial

/-- A repeated declaration has the name of the other one. -/
theorem Repeats.name_eq {e d : Declaration} (h : e.Repeats d) : d.entity.name = e.entity.name := by
  obtain ⟨-, h⟩ := h
  split at h
  · rename_i hx hy
    rw [hx, hy]
    simp only [Constant.sameDefinition, Bool.and_eq_true, decide_eq_true_eq] at h
    exact h.1.1.1
  · rename_i hx hy
    rw [hx, hy]
    simp only [Variable.sameDefinition, Bool.and_eq_true, decide_eq_true_eq] at h
    exact h.1.1.1
  · rename_i hx hy
    rw [hx, hy, h]
  · rename_i hx hy
    rw [hx, hy]
    exact h.1
  · exact h.elim

/-- What a repeated declaration defines repeats the definition of the other one. -/
theorem Repeats.repeats_definition {e d : Declaration} (h : e.Repeats d) :
    definitionRule.repeats d.stored.definition e.stored.definition = true := by
  obtain ⟨p, k, x⟩ := e
  obtain ⟨q, l, y⟩ := d
  obtain ⟨hcondition, h⟩ := h
  cases x <;> cases y <;>
    simp_all [stored, definition, definitionRule, Entity.same]

end Declaration

/-! ## Tables -/

/-- Definitions are told apart by their images if their values are. -/
theorem Guarded.map_injective {α β : Type} {f : α → β} (hf : Function.Injective f) :
    Function.Injective (Guarded.map f) := by
  rintro ⟨p, a⟩ ⟨q, b⟩ hab
  obtain ⟨rfl, hvalue⟩ : p = q ∧ f a = f b := by simpa [Guarded.map] using hab
  rw [hf hvalue]

/-- Entries with the same definitions are the same. -/
theorem Entry.eq_of_definitions_eq {entry next : Entry} (hne : entry.definitions ≠ [])
    (h : next.definitions = entry.definitions) : next = entry := by
  have hkind : next.kind = entry.kind := by
    obtain ⟨d, hd⟩ := List.exists_mem_of_ne_nil _ hne
    rw [← kind_of_mem_definitions hd, kind_of_mem_definitions (h ▸ hd)]
  cases next <;> cases entry <;> try contradiction
  · have hf : Function.Injective Entity.const := fun _ _ => Entity.const.inj
    exact congrArg Entry.constants ((Guarded.map_injective hf).list_map h)
  · have hf : Function.Injective Entity.var := fun _ _ => Entity.var.inj
    exact congrArg Entry.variables ((Guarded.map_injective hf).list_map h)
  · have hf : Function.Injective Entity.block := fun _ _ => Entity.block.inj
    exact congrArg Entry.blocks ((Guarded.map_injective hf).list_map h)
  · have hf : Function.Injective Signature.definition := fun s t hst =>
      Entity.function.inj (Guarded.mk.inj hst).2
    exact congrArg Entry.functions (hf.list_map h)

namespace SymbolTable

variable {entries : List (String × Entry)} {ds es : List Declaration} {d e : Declaration}

/-- Entries keep a declaration under its own condition. -/
theorem insertEntry_stored (d : Declaration) (entries : List (String × Entry)) :
    insertEntry d.stored entries = insertEntry d entries := by
  obtain ⟨condition, line, entity⟩ := d
  cases entity with
  | function s =>
      -- a signature is added by its own condition alone
      have hinsert (entry : Entry) :
          entry.insert s.condition (.function s) = entry.insert condition (.function s) := by
        cases entry <;> rfl
      induction entries with
      | nil => rfl
      | cons first rest ih =>
          rw [insertEntry, insertEntry, ih]
          simp only [Declaration.stored, hinsert]
  | _ => rfl

theorem insertAll_map_stored (ds : List Declaration) (entries : List (String × Entry)) :
    insertAll entries (ds.map Declaration.stored) = insertAll entries ds := by
  induction ds generalizing entries with
  | nil => rfl
  | cons d ds ih =>
      rw [List.map_cons, insertAll, insertAll, insertEntry_stored]
      cases insertEntry d entries with
      | ok next => exact ih next
      | error e => rfl

/-- Entries stay as they are when a declaration comes that repeats one of those that they hold. -/
theorem Holds.insertEntry_eq_self (h : Holds entries ds) (hd : d ∈ ds)
    (he : e.ConditionsAgree) (hname : d.entity.name = e.entity.name)
    (hrepeats : definitionRule.repeats d.definition e.definition = true) :
    insertEntry e entries = .ok entries := by
  have hmem : d.definition ∈ declared ds e.entity.name := by
    rw [← hname]
    exact List.mem_map_of_mem (List.mem_filter.2 ⟨hd, by simp⟩)
  have hkept := h.gather?_declared e.entity.name
  have henter := GatheringRule.enter?_eq_self_of_gather? hkept hmem hrepeats
    fun _ hold => definitionRule_repeats_trans hold hrepeats
  rcases insertEntry_cases e entries with ⟨hne, -⟩ | ⟨front, entry, back, rfl, hne, hinsert⟩
  · -- the repeated declaration has left an entry
    rw [definitionsIn_eq_nil hne] at hkept
    exact absurd rfl (GatheringRule.ne_nil_of_gather?_eq_some hkept (List.ne_nil_of_mem hmem))
  · have hentry : entry.definitions ≠ [] := h.definitions_ne_nil (e.entity.name, entry) (by simp)
    have hafter := Entry.toOption_insert hentry he
    rw [definitionsIn_append_self hne] at henter
    rw [henter] at hafter
    rw [hinsert]
    cases hnext : entry.insert e.condition e.entity with
    | error fault => rw [hnext] at hafter; cases hafter
    | ok next =>
        rw [hnext] at hafter
        rw [Entry.eq_of_definitions_eq hentry (Option.some.inj hafter)]

/-- Entries stay as they are when declarations come that repeat some of those that led to them. -/
theorem insertAll_append_of_repeats (h : insertAll [] ds = .ok entries)
    (hes : ∀ e ∈ es, ∃ d ∈ ds, e.Repeats d) : insertAll [] (ds ++ es) = .ok entries := by
  have hholds : Holds entries (ds.map Declaration.stored) :=
    holds_of_insertAll (by simpa using fun d _ => d.stored_conditionsAgree)
      ((insertAll_map_stored ds []).trans h)
  induction es using List.reverseRecOn with
  | nil => rwa [List.append_nil]
  | append_singleton es e ih =>
      rw [List.forall_mem_append, List.forall_mem_singleton] at hes
      obtain ⟨d, hd, hrepeats⟩ := hes.2
      rw [← List.append_assoc, insertAll_concat, ih hes.1]
      dsimp only
      rw [← insertEntry_stored]
      exact hholds.insertEntry_eq_self (List.mem_map_of_mem hd) e.stored_conditionsAgree
        (by simpa using hrepeats.name_eq) hrepeats.repeats_definition

/-- Declarations that are followed by repetitions of some of them make the same table as before,
with the same names in the same order, the same definitions and the same documentation. -/
theorem build_append_of_repeats {env : Environment} {t : SymbolTable} (h : build env ds = .ok t)
    (hes : ∀ e ∈ es, ∃ d ∈ ds, e.Repeats d) : build env (ds ++ es) = .ok t := by
  rw [build_eq_ok_iff] at h ⊢
  exact ⟨h.1, insertAll_append_of_repeats h.2 hes⟩

/-- A function that was dropped because it is declared twice, and a constant behind its value for
another stage, are repeated elsewhere and with other documentation. -/
theorem build_append_of_repeats_of_stage_values :
    let vertex : Declaration :=
      { condition := .flag (.stage .vertex), line := 1,
        entity := .const ⟨"n", .scalar .int, ∅, .int 1, some "first"⟩ }
    let fragment : Declaration :=
      { condition := .flag (.stage .fragment), line := 2,
        entity := .const ⟨"n", .scalar .int, ∅, .int 2, none⟩ }
    let f : Declaration :=
      { condition := .always, line := 3,
        entity := .function ⟨"f", .void, [⟨none, .scalar .float, ∅⟩], .always, none⟩ }
    let g : Declaration :=
      { condition := .always, line := 4,
        entity := .function ⟨"f", .void, [⟨some "x", .scalar .float, ∅⟩], .always, some "second"⟩ }
    let again : Declaration :=
      { condition := .flag (.stage .fragment), line := 9,
        entity := .const ⟨"n", .scalar .int, ∅, .int 2, some "again"⟩ }
    ∃ t, build default [vertex, fragment, f, g] = .ok t ∧
      build default ([vertex, fragment, f, g] ++ [g, again]) = .ok t := by
  intro vertex fragment f g again
  obtain ⟨t, ht⟩ : ∃ t, build default [vertex, fragment, f, g] = .ok t := ⟨_, rfl⟩
  exact ⟨t, ht, build_append_of_repeats ht (by decide)⟩

end SymbolTable

end GlslPrelude
