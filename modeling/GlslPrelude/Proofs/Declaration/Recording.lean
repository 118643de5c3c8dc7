import GlslPrelude.Declaration.Scope

/-!
# Integer constants of a scope

A declaration adds at most one integer constant to the scope, and takes none away
(`constant?_record`). Behind several declarations, a name stands for the integer constant that was
declared last under it (`constant?_foldl_record_eq_some_iff`). Constants that are no integers do not
count, whatever their names are.
-/

namespace GlslPrelude

variable {scope : Scope} {entity : Entity} {entities : List Entity} {name : String} {i : Int64}

namespace Entity

/-- The integer that a constant of the given name is, if the entity is one. -/
def integer? (name : String) : Entity → Option Int64
  | .const c => if c.name = name then c.value.toInt? else none
  | .var _ | .block _ | .function _ => none

theorem integer?_eq_some_iff :
    entity.integer? name = some i ↔
      ∃ c, entity = .const c ∧ c.name = name ∧ c.value.toInt? = some i := by
  cases entity <;> simp [integer?]

theorem integer?_eq_none_iff :
    entity.integer? name = none ↔
      ∀ c, entity = .const c → c.name = name → c.value.toInt? = none := by
  cases entity <;> simp [integer?]

/-- The last of the entities that is an integer constant of the name has the value. -/
def IsLatestInteger (entities : List Entity) (name : String) (i : Int64) : Prop :=
  ∃ (earlier : List Entity) (c : Constant) (later : List Entity),
    entities = earlier ++ .const c :: later ∧ c.name = name ∧ c.value.toInt? = some i ∧
      ∀ d, .const d ∈ later → d.name = name → d.value.toInt? = none

/-- The last integer constant of a name is the first one from the end. -/
theorem findSome?_reverse_eq_some_iff :
    entities.reverse.findSome? (integer? name) = some i ↔ IsLatestInteger entities name i := by
  simp only [List.findSome?_eq_some_iff, integer?_eq_some_iff, integer?_eq_none_iff]
  constructor
  · rintro ⟨later, _, earlier, hreverse, ⟨c, rfl, hname, hvalue⟩, hlater⟩
    have hentities : entities = earlier.reverse ++ .const c :: later.reverse := by
      rw [← List.reverse_reverse entities, hreverse]
      simp
    exact ⟨_, c, _, hentities, hname, hvalue,
      fun d hd => hlater _ (List.mem_reverse.1 hd) d rfl⟩
  · rintro ⟨earlier, c, later, rfl, hname, hvalue, hlater⟩
    refine ⟨later.reverse, _, earlier.reverse, by simp, ⟨c, rfl, hname, hvalue⟩, ?_⟩
    rintro _ he d rfl
    exact hlater d (List.mem_reverse.1 he)

end Entity

namespace Scope

/-- Behind an entity, a name stands for the integer constant that the entity is, else for what it
stood for before. -/
theorem constant?_record (scope : Scope) (entity : Entity) (name : String) :
    (scope.record entity).constant? name = (entity.integer? name).or (scope.constant? name) := by
  cases entity with
  | const c =>
      rw [record, Entity.integer?]
      cases hvalue : c.value.toInt? with
      | none => simp
      | some i =>
          -- the constant is entered in front of those that are there
          rw [constant?, List.lookup_cons]
          by_cases hname : c.name = name
          · simp [hname]
          · have hne : (name == c.name) = false := beq_false_of_ne (Ne.symm hname)
            rw [hne, if_neg hname]
            rfl
  | var | block | function => rfl

/-- Behind several entities, a name stands for the last integer constant of that name, else for what
it stood for before. -/
theorem constant?_foldl_record (scope : Scope) (entities : List Entity) (name : String) :
    (entities.foldl record scope).constant? name =
      (entities.reverse.findSome? (Entity.integer? name)).or (scope.constant? name) := by
  induction entities generalizing scope with
  | nil => rfl
  | cons entity entities ih =>
      rw [List.foldl_cons, ih, constant?_record, List.reverse_cons, List.findSome?_append,
        Option.or_assoc, List.findSome?_singleton]

/-- With nothing before them, the constants of several entities are the last of each name. -/
theorem constant?_foldl_record_eq_some_iff :
    (entities.foldl record empty).constant? name = some i ↔
      Entity.IsLatestInteger entities name i := by
  have hempty : empty.constant? name = none := rfl
  rw [constant?_foldl_record, hempty, Option.or_none, Entity.findSome?_reverse_eq_some_iff]

/-- A declaration takes no constant out of scope. -/
theorem constant?_of_record (h : (scope.record entity).constant? name = none) :
    scope.constant? name = none := by
  rw [constant?_record, Option.or_eq_none_iff] at h
  exact h.2

/-- Declarations take no constant out of scope. -/
theorem constant?_of_foldl_record (h : (entities.foldl record scope).constant? name = none) :
    scope.constant? name = none := by
  rw [constant?_foldl_record, Option.or_eq_none_iff] at h
  exact h.2

end Scope

end GlslPrelude
