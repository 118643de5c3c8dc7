import GlslPrelude.Proofs.SymbolTable.Definitions

/-!
# Compatible declarations

Which declarations can stand in one table, said about the declarations alone: no two of one name may
be incompatible. What a table keeps of the declarations decides the same, although repeated ones are
dropped and a new one is compared with kept ones only.
-/

namespace GlslPrelude

namespace Declaration

/-- Two declarations are visible together in some environment. -/
def VisibleTogether (a b : Declaration) : Prop :=
  ∃ env : Environment, a.condition.eval env = true ∧ b.condition.eval env = true

/-- Two declarations of one name cannot stand in one table: they introduce different kinds of
entities; or different definitions of one kind that are visible together in some environment; or
functions with the same parameter types that are, under different conditions. -/
def Incompatible (a b : Declaration) : Prop :=
  a.entity.name = b.entity.name ∧
    match a.entity, b.entity with
    | .const c, .const d => c.sameDefinition d = false ∧ a.VisibleTogether b
    | .var v, .var w => v.sameDefinition w = false ∧ a.VisibleTogether b
    | .block c, .block d => c ≠ d ∧ a.VisibleTogether b
    | .function s, .function t =>
      s.parameterTypes = t.parameterTypes ∧ a.condition ≠ b.condition ∧ a.VisibleTogether b
    | x, y => x.kind ≠ y.kind

theorem visibleTogether_iff {a b : Declaration} :
    a.VisibleTogether b ↔ a.condition.overlaps b.condition = true :=
  ⟨fun ⟨_, ha, hb⟩ => Condition.overlaps_of_eval ha hb, Condition.exists_eval_of_overlaps⟩

/-- Declarations of one name are incompatible exactly if their definitions clash. -/
theorem incompatible_iff {a b : Declaration} :
    a.Incompatible b ↔
      a.entity.name = b.entity.name ∧
        definitionRule.clashes a.definition b.definition = true := by
  obtain ⟨p, k, x⟩ := a
  obtain ⟨q, l, y⟩ := b
  rw [Incompatible]
  refine and_congr_right fun _ => ?_
  cases x <;> cases y <;>
    simp [definitionRule, definition, visibleTogether_iff, Entity.kind, Entity.same,
      Signature.sameParameters, and_comm, and_left_comm, and_assoc]

theorem Incompatible.symm {a b : Declaration} (h : a.Incompatible b) : b.Incompatible a := by
  rw [incompatible_iff] at h ⊢
  exact ⟨h.1.symm, (definitionRule.clashes_comm _ _).trans h.2⟩

end Declaration

/-- The declarations of every name are free of clashes exactly when no two declarations are
incompatible. -/
theorem pairwise_declared_iff {ds : List Declaration} :
    (∀ name, (declared ds name).Pairwise (definitionRule.clashes · · = false)) ↔
      ds.Pairwise (¬ ·.Incompatible ·) := by
  -- of one name: pairs of the list that both bear it
  have pairwise_name (name : String) :
      (declared ds name).Pairwise (definitionRule.clashes · · = false) ↔
        ds.Pairwise fun a b => a.entity.name = name → b.entity.name = name →
          definitionRule.clashes a.definition b.definition = false := by
    simp only [declared, List.pairwise_map, List.pairwise_filter, decide_eq_true_eq]
  simp only [pairwise_name, List.pairwise_iff_forall_sublist, Declaration.incompatible_iff]
  constructor
  · rintro h a b hsub ⟨hname, hclashes⟩
    rw [h b.entity.name hsub hname rfl] at hclashes
    cases hclashes
  · rintro h name a b hsub ha hb
    exact Bool.eq_false_iff.2 fun hclashes => h hsub ⟨ha.trans hb.symm, hclashes⟩

namespace SymbolTable

variable {ds : List Declaration}

/-- Declarations make a table for an environment exactly when no two of them are incompatible. -/
theorem exists_build_iff_pairwise (env : Environment) (hds : ∀ d ∈ ds, d.ConditionsAgree) :
    (∃ t, build env ds = .ok t) ↔ ds.Pairwise (¬ ·.Incompatible ·) := by
  rw [exists_build_iff env hds, ← pairwise_declared_iff]
  exact forall_congr' fun name => GatheringRule.exists_gather?_iff

/-- If declarations make no table, one of them is the first that is incompatible with an earlier
one, and the error gives its name and line. -/
theorem exists_incompatible_of_build_eq_error {env : Environment} {e : TableError}
    (hds : ∀ d ∈ ds, d.ConditionsAgree) (h : build env ds = .error e) :
    ∃ front d back, ds = front ++ d :: back ∧ front.Pairwise (¬ ·.Incompatible ·) ∧
      (∃ c ∈ front, c.Incompatible d) ∧ e.name = d.entity.name ∧ e.line = d.line := by
  obtain ⟨front, d, back, rfl, hfront, hnone, herror⟩ :=
    exists_of_insertAll_eq_error hds (build_eq_error_iff.1 h)
  obtain ⟨kept, hkept⟩ := hfront d.entity.name
  -- the definition of `d` clashes with one declared in front under its name
  rw [declared_concat_self, GatheringRule.gather?_concat, hkept, Option.bind_some,
    (GatheringRule.represents_of_gather? hkept).enter?_eq_none_iff] at hnone
  obtain ⟨_, hmem, hclashes⟩ := hnone
  obtain ⟨c, hc, rfl⟩ := List.mem_map.1 hmem
  obtain ⟨hc, hname⟩ := List.mem_filter.1 hc
  refine ⟨front, d, back, rfl, ?_, ⟨c, hc, ?_⟩, herror⟩
  · rw [← pairwise_declared_iff]
    exact fun name => GatheringRule.exists_gather?_iff.1 (hfront name)
  · exact Declaration.incompatible_iff.2 ⟨of_decide_eq_true hname, hclashes⟩

/-- Declarations whose functions carry their conditions make a table exactly when no two of them are
incompatible. This depends neither on the environment nor on the order of the declarations; and if
they make none, the error gives the name and the line of the first declaration that is incompatible
with an earlier one. -/
theorem build_iff_compatible (hds : ∀ d ∈ ds, d.ConditionsAgree) :
    (∀ env, (∃ t, build env ds = .ok t) ↔ ds.Pairwise (¬ ·.Incompatible ·)) ∧
    (∀ env env' ds', ds'.Perm ds →
      ((∃ t, build env' ds' = .ok t) ↔ ∃ t, build env ds = .ok t)) ∧
    ∀ env e, build env ds = .error e →
      ∃ front d back, ds = front ++ d :: back ∧ front.Pairwise (¬ ·.Incompatible ·) ∧
        (∃ c ∈ front, c.Incompatible d) ∧ e.name = d.entity.name ∧ e.line = d.line := by
  refine ⟨fun env => exists_build_iff_pairwise env hds, fun env env' ds' hperm => ?_,
    fun env e h => exists_incompatible_of_build_eq_error hds h⟩
  have hds' : ∀ d ∈ ds', d.ConditionsAgree := fun d hd => hds d (hperm.mem_iff.1 hd)
  rw [exists_build_iff_pairwise env' hds', exists_build_iff_pairwise env hds]
  exact hperm.pairwise_iff fun hab hba => hab hba.symm

/-- A constant with a value for each of two stages and a function that is declared twice make a
table in any order; with a value for all stages beside them they make none. -/
theorem build_iff_compatible_of_stage_values :
    let ds : List Declaration := [
      { condition := .flag (.stage .vertex), line := 1,
        entity := .const ⟨"n", .scalar .int, ∅, .int 1, none⟩ },
      { condition := .always, line := 2,
        entity := .function ⟨"f", .void, [⟨none, .scalar .float, ∅⟩], .always, none⟩ },
      { condition := .flag (.stage .fragment), line := 4,
        entity := .const ⟨"n", .scalar .int, ∅, .int 2, none⟩ },
      { condition := .always, line := 6,
        entity := .function ⟨"f", .scalar .int, [⟨some "x", .scalar .float, ∅⟩], .always, none⟩ }]
    let d : Declaration :=
      { condition := .always, line := 7,
        entity := .const ⟨"n", .scalar .int, ∅, .int 2, none⟩ }
    ds.Pairwise (¬ ·.Incompatible ·) ∧
      (∀ env ds', ds'.Perm ds → ∃ t, build env ds' = .ok t) ∧
      ¬ (ds ++ [d]).Pairwise (¬ ·.Incompatible ·) := by
  intro ds d
  have hok : ∃ t, build default ds = .ok t := ⟨_, rfl⟩
  have hds := @build_iff_compatible ds (by decide)
  have hds_d := @build_iff_compatible (ds ++ [d]) (by decide)
  refine ⟨(hds.1 default).1 hok, fun env ds' hperm => (hds.2.1 default env ds' hperm).2 hok, ?_⟩
  rw [← hds_d.1 default]
  rintro ⟨t, ht⟩
  cases ht

end SymbolTable

end GlslPrelude
