import GlslPrelude.Proofs.Condition.Overlap
import GlslPrelude.Proofs.SymbolTable.Gathering
import GlslPrelude.Proofs.Value.Equality
import GlslPrelude.SymbolTable.Basic

/-!
# The definitions of one name

The four kinds of entries described alike: an entry holds definitions, which are entities under
conditions, and another declaration of its name gathers what it defines by one `definitionRule`
(`Entry.toOption_insert`), whatever the kinds of the entry and of the declaration are.
-/

namespace GlslPrelude

/-! ## How definitions of one name go together -/

namespace Entity

/-- Whether two entities are the same definition, or functions with the same parameter types. -/
def same : Entity → Entity → Bool
  | .const c, .const d => c.sameDefinition d
  | .var v, .var w => v.sameDefinition w
  | .block b, .block c => b = c
  | .function s, .function t => s.sameParameters t
  | _, _ => false

theorem kind_eq_of_same {x y : Entity} (h : x.same y = true) : x.kind = y.kind := by
  cases x <;> cases y <;> first | rfl | simp [same] at h

theorem same_comm (x y : Entity) : x.same y = y.same x := by
  cases x <;> cases y <;>
    simp [same, Constant.sameDefinition_comm, Variable.sameDefinition_comm,
      Signature.sameParameters, eq_comm]

theorem same_congr {x y : Entity} (h : x.same y = true) (z : Entity) : x.same z = y.same z := by
  cases x with
  | const c =>
      cases y with
      | const d =>
          cases z with
          | const e => exact Constant.sameDefinition_congr h e
          | _ => rfl
      | _ => cases h
  | var v =>
      cases y with
      | var w =>
          cases z with
          | var u => exact Variable.sameDefinition_congr h u
          | _ => rfl
      | _ => cases h
  | block b =>
      cases y with
      | block c =>
          obtain rfl := of_decide_eq_true h
          rfl
      | _ => cases h
  | function s =>
      cases y with
      | function t =>
          have hst : s.parameterTypes = t.parameterTypes := of_decide_eq_true h
          cases z with
          | function u => simp only [same, Signature.sameParameters, hst]
          | _ => rfl
      | _ => cases h

end Entity

/-- Definitions of one name. One repeats another if it defines the same under the same condition.
Definitions of different kinds clash; others do if they overlap and are different, and functions if
they overlap and have the same parameter types under different conditions. -/
def definitionRule : GatheringRule (Guarded Entity) where
  repeats a b := a.value.same b.value && a.condition = b.condition
  clashes a b :=
    a.value.kind ≠ b.value.kind ||
      (a.condition.overlaps b.condition &&
        if a.value.kind = .function then a.value.same b.value && a.condition ≠ b.condition
        else !a.value.same b.value)
  clashes_comm a b := by
    by_cases hkind : a.value.kind = b.value.kind
    · rw [a.condition.overlaps_comm, a.value.same_comm, hkind]
      simp only [ne_comm, ne_eq]
    · simp [hkind, Ne.symm hkind]
  clashes_congr {a b} h c := by
    rw [Bool.and_eq_true, decide_eq_true_eq] at h
    rw [Entity.kind_eq_of_same h.1, Entity.same_congr h.1, h.2]
  not_clashes {a b} h := by
    rw [Bool.and_eq_true, decide_eq_true_eq] at h
    simp [Entity.kind_eq_of_same h.1, h.1, h.2]

/-- What a declaration defines. -/
def Declaration.definition (d : Declaration) : Guarded Entity :=
  { condition := d.condition, value := d.entity }

/-- A declared function carries the condition of its declaration. -/
def Declaration.ConditionsAgree (d : Declaration) : Prop :=
  match d.entity with
  | .function s => s.condition = d.condition
  | .const _ | .var _ | .block _ => True

instance : (d : Declaration) → Decidable d.ConditionsAgree
  | ⟨p, _, .function s⟩ => inferInstanceAs (Decidable (s.condition = p))
  | ⟨_, _, .const _⟩ | ⟨_, _, .var _⟩ | ⟨_, _, .block _⟩ => inferInstanceAs (Decidable True)

/-! ## The definitions of an entry -/

/-- The definition with its value mapped. -/
def Guarded.map {α β : Type} (f : α → β) (d : Guarded α) : Guarded β :=
  { condition := d.condition, value := f d.value }

/-- To add a definition that is no function is to gather it. -/
theorem map_addDefinition? {α : Type} (f : α → Entity) (same : α → α → Bool)
    (hsame : ∀ a b, (f a).same (f b) = same a b) (hkind : ∀ a b, (f a).kind = (f b).kind)
    (hfunction : ∀ a, (f a).kind ≠ .function) (new : Guarded α) (olds : List (Guarded α)) :
    (addDefinition? same new olds).map (List.map (Guarded.map f)) =
      definitionRule.enter? (new.map f) (olds.map (Guarded.map f)) := by
  refine GatheringRule.map_eq_enter? rfl (fun old olds => ?_) olds
  have hrepeats : definitionRule.repeats (old.map f) (new.map f) =
      (same old.value new.value && old.condition = new.condition) := by
    simp [definitionRule, Guarded.map, hsame]
  have hclashes : definitionRule.clashes (old.map f) (new.map f) =
      (old.condition.overlaps new.condition && !same old.value new.value) := by
    simp [definitionRule, Guarded.map, hsame, hkind old.value new.value, hfunction]
  rw [addDefinition?, hrepeats, hclashes]
  by_cases hold : same old.value new.value = true
  · by_cases hcondition : old.condition = new.condition <;> simp [hold, hcondition]
  · by_cases hoverlaps : old.condition.overlaps new.condition = true <;> simp [hold, hoverlaps]

/-- A signature with its condition as a definition. -/
def Signature.definition (s : Signature) : Guarded Entity :=
  { condition := s.condition, value := .function s }

/-- To add a signature is to gather it. -/
theorem map_addSignature? (new : Signature) (olds : List Signature) :
    (addSignature? new olds).map (List.map Signature.definition) =
      definitionRule.enter? new.definition (olds.map Signature.definition) := by
  refine GatheringRule.map_eq_enter? rfl (fun old olds => ?_) olds
  have hrepeats : definitionRule.repeats old.definition new.definition =
      (old.sameParameters new && old.condition = new.condition) := rfl
  have hclashes : definitionRule.clashes old.definition new.definition =
      (old.condition.overlaps new.condition &&
        (old.sameParameters new && old.condition ≠ new.condition)) := by
    simp [definitionRule, Signature.definition, Entity.kind, Entity.same]
  rw [addSignature?, hrepeats, hclashes]
  by_cases hold : old.sameParameters new = true
  · by_cases hcondition : old.condition = new.condition
    · simp [hold, hcondition]
    · by_cases hoverlaps : old.condition.overlaps new.condition = true <;>
        simp [hold, hcondition, hoverlaps]
  · simp [hold]

namespace Entry

/-- The definitions of an entry, in order. -/
def definitions : Entry → List (Guarded Entity)
  | .constants ds => ds.map (Guarded.map .const)
  | .variables ds => ds.map (Guarded.map .var)
  | .blocks ds => ds.map (Guarded.map .block)
  | .functions ss => ss.map Signature.definition

theorem kind_of_mem_definitions {entry : Entry} {d : Guarded Entity} (h : d ∈ entry.definitions) :
    d.value.kind = entry.kind := by
  rcases entry with ds | ds | ds | ss <;> obtain ⟨_, -, rfl⟩ := List.mem_map.1 h <;> rfl

/-- The first declaration of a name gathers what it defines. -/
theorem definitions_single {d : Declaration} (hd : d.ConditionsAgree) :
    (single d.condition d.entity).definitions = [d.definition] := by
  obtain ⟨condition, line, entity⟩ := d
  cases entity with
  | function signature =>
      obtain rfl : signature.condition = condition := hd
      rfl
  | _ => rfl

theorem insert_of_kind_ne {entry : Entry} {condition : Condition} {entity : Entity}
    (h : entry.kind ≠ entity.kind) :
    entry.insert condition entity = .error (.kindMismatch entry.kind entity.kind) := by
  cases entry <;> cases entity <;> first | rfl | exact absurd rfl h

/-- Another declaration of a name gathers what it defines. -/
theorem toOption_insert {entry : Entry} {d : Declaration} (hne : entry.definitions ≠ [])
    (hd : d.ConditionsAgree) :
    (entry.insert d.condition d.entity).toOption.map definitions =
      definitionRule.enter? d.definition entry.definitions := by
  by_cases hkind : entry.kind = d.entity.kind
  · -- each kind has its own addition, and all of them gather
    obtain ⟨condition, line, entity⟩ := d
    rcases entry with olds | olds | olds | olds
    · cases entity with
      | const value =>
          refine Eq.trans ?_ (map_addDefinition? .const Constant.sameDefinition
            (fun _ _ => rfl) (fun _ _ => rfl) (fun _ => by simp [Entity.kind])
            { condition, value } olds)
          rw [insert]
          cases addDefinition? Constant.sameDefinition { condition, value } olds <;> rfl
      | _ => cases hkind
    · cases entity with
      | var value =>
          refine Eq.trans ?_ (map_addDefinition? .var Variable.sameDefinition
            (fun _ _ => rfl) (fun _ _ => rfl) (fun _ => by simp [Entity.kind])
            { condition, value } olds)
          rw [insert]
          cases addDefinition? Variable.sameDefinition { condition, value } olds <;> rfl
      | _ => cases hkind
    · cases entity with
      | block value =>
          refine Eq.trans ?_ (map_addDefinition? .block (fun b c => b = c)
            (fun _ _ => rfl) (fun _ _ => rfl) (fun _ => by simp [Entity.kind])
            { condition, value } olds)
          rw [insert]
          cases addDefinition? (fun a b => a = b) { condition, value } olds <;> rfl
      | _ => cases hkind
    · cases entity with
      | function signature =>
          obtain rfl : signature.condition = condition := hd
          refine Eq.trans ?_ (map_addSignature? signature olds)
          rw [insert]
          cases addSignature? signature olds <;> rfl
      | _ => cases hkind
  · -- a definition of another kind clashes with the first one
    rw [insert_of_kind_ne hkind]
    obtain ⟨first, rest, hfirst⟩ := List.exists_cons_of_ne_nil hne
    have hfirst_kind : first.value.kind ≠ d.entity.kind := by
      rw [kind_of_mem_definitions (hfirst ▸ List.mem_cons_self)]
      exact hkind
    have hclashes : definitionRule.clashes first d.definition = true := by
      simp [definitionRule, Declaration.definition, hfirst_kind]
    have hrepeats : ¬ definitionRule.repeats first d.definition = true := by
      intro h
      rw [definitionRule.not_clashes h] at hclashes
      cases hclashes
    rw [hfirst, GatheringRule.enter?, if_neg hrepeats, if_pos hclashes]
    rfl

end Entry

end GlslPrelude
