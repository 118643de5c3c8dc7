import GlslPrelude.Proofs.SymbolTable.Entries

/-!
# The definitions of a table

The view by which tables are described: the definitions of a name, in the order in which they are
kept. Names do not influence each other. A table can be built exactly when the declarations of every
name can be gathered (`exists_build_iff`), its definitions of a name are what is kept of these
(`gather?_declared_of_build`), and if it cannot be built, the error stands at the first declaration
that cannot be gathered (`exists_of_insertAll_eq_error`).
-/

namespace GlslPrelude

/-- What the declarations of a name define, in order. -/
def declared (ds : List Declaration) (name : String) : List (Guarded Entity) :=
  (ds.filter (·.entity.name = name)).map Declaration.definition

theorem declared_append (ds es : List Declaration) (name : String) :
    declared (ds ++ es) name = declared ds name ++ declared es name := by
  simp [declared]

theorem declared_concat_self (ds : List Declaration) (d : Declaration) :
    declared (ds ++ [d]) d.entity.name = declared ds d.entity.name ++ [d.definition] := by
  simp [declared]

theorem declared_concat_of_ne {ds : List Declaration} {d : Declaration} {name : String}
    (h : d.entity.name ≠ name) : declared (ds ++ [d]) name = declared ds name := by
  simp [declared, h]

/-- To leave out declarations by what they define is to leave out definitions. -/
theorem declared_filter (keep : Guarded Entity → Bool) (ds : List Declaration) (name : String) :
    declared (ds.filter fun d => keep d.definition) name = (declared ds name).filter keep := by
  simp only [declared, List.filter_map, List.filter_filter, Function.comp_apply, Bool.and_comm]

namespace SymbolTable

/-! ## The definitions of a table -/

/-- The definitions that entries hold for a name, in order. -/
def definitionsIn (entries : List (String × Entry)) (name : String) : List (Guarded Entity) :=
  ((entries.lookup name).map Entry.definitions).getD []

/-- Every name has one entry, which holds a definition. -/
structure Tidy (entries : List (String × Entry)) : Prop where
  /-- No name has two entries. -/
  nodup : (entries.map Prod.fst).Nodup
  /-- No entry is without definition. -/
  definitions_ne_nil : ∀ e ∈ entries, e.2.definitions ≠ []

/-- Where a declaration goes: to the entry of its name, or behind all the others if there is
none. -/
theorem insertEntry_cases (d : Declaration) (entries : List (String × Entry)) :
    ((∀ e ∈ entries, e.1 ≠ d.entity.name) ∧
      insertEntry d entries =
        .ok (entries ++ [(d.entity.name, .single d.condition d.entity)])) ∨
    ∃ front entry back, entries = front ++ (d.entity.name, entry) :: back ∧
      (∀ e ∈ front, e.1 ≠ d.entity.name) ∧
      insertEntry d entries =
        match entry.insert d.condition d.entity with
        | .ok next => .ok (front ++ (d.entity.name, next) :: back)
        | .error fault => .error { name := d.entity.name, line := d.line, fault } := by
  induction entries with
  | nil => exact .inl ⟨by simp, rfl⟩
  | cons first rest ih =>
      obtain ⟨name, entry⟩ := first
      rw [insertEntry]
      by_cases hname : name = d.entity.name
      · subst hname
        rw [if_pos rfl]
        exact .inr ⟨[], entry, rest, rfl, by simp, rfl⟩
      · rw [if_neg hname]
        rcases ih with ⟨hne, h⟩ | ⟨front, found, back, rfl, hne, h⟩
        · rw [h]
          exact .inl ⟨List.forall_mem_cons.2 ⟨hname, hne⟩, rfl⟩
        · rw [h]
          refine .inr ⟨(name, entry) :: front, found, back, rfl,
            List.forall_mem_cons.2 ⟨hname, hne⟩, ?_⟩
          cases found.insert d.condition d.entity <;> rfl

theorem definitionsIn_eq_nil {entries : List (String × Entry)} {name : String}
    (h : ∀ e ∈ entries, e.1 ≠ name) : definitionsIn entries name = [] := by
  have hlookup : entries.lookup name = none :=
    List.lookup_eq_none_iff.2 fun e he => by simpa using (h e he).symm
  rw [definitionsIn, hlookup]
  rfl

/-- The definitions of the first entry of a name are the name's. -/
theorem definitionsIn_append_self {front back : List (String × Entry)} {name : String}
    {entry : Entry} (h : ∀ e ∈ front, e.1 ≠ name) :
    definitionsIn (front ++ (name, entry) :: back) name = entry.definitions := by
  have hlookup : front.lookup name = none :=
    List.lookup_eq_none_iff.2 fun e he => by simpa using (h e he).symm
  simp [definitionsIn, List.lookup_append, hlookup]

/-- Entries of other names do not matter. -/
theorem definitionsIn_append_of_ne {front back : List (String × Entry)} {name other : String}
    {entry : Entry} (h : other ≠ name) :
    definitionsIn (front ++ (other, entry) :: back) name = definitionsIn (front ++ back) name := by
  simp [definitionsIn, List.lookup_append, List.lookup_cons, beq_eq_false_iff_ne.2 h.symm]

/-- Tidy entries that hold for every name what is kept of its declarations. -/
structure Holds (entries : List (String × Entry)) (ds : List Declaration) : Prop
    extends Tidy entries where
  /-- The definitions of a name are gathered from its declarations. -/
  gather?_declared : ∀ name,
    definitionRule.gather? (declared ds name) = some (definitionsIn entries name)

variable {entries next : List (String × Entry)} {ds : List Declaration} {d : Declaration}

theorem holds_nil : Holds [] [] :=
  { nodup := List.nodup_nil, definitions_ne_nil := by simp, gather?_declared := fun _ => rfl }

/-- A declaration that can be inserted is gathered under its name. -/
theorem Holds.of_insertEntry_eq_ok (h : Holds entries ds) (hd : d.ConditionsAgree)
    (hnext : insertEntry d entries = .ok next) : Holds next (ds ++ [d]) := by
  rcases insertEntry_cases d entries with ⟨hne, hinsert⟩ | ⟨front, entry, back, rfl, hne, hinsert⟩
  · -- the first declaration of its name: the definitions of other names stay as they are
    obtain rfl := Except.ok.inj (hinsert.symm.trans hnext)
    refine ⟨⟨?_, ?_⟩, fun name => ?_⟩
    · simpa [List.nodup_append, h.nodup] using fun name entry hmem => hne (name, entry) hmem
    · rw [List.forall_mem_append]
      refine ⟨h.definitions_ne_nil, List.forall_mem_singleton.2 ?_⟩
      rw [Entry.definitions_single hd]
      exact List.cons_ne_nil _ _
    · by_cases hname : d.entity.name = name
      · subst hname
        rw [declared_concat_self, GatheringRule.gather?_concat, h.gather?_declared,
          definitionsIn_eq_nil hne, definitionsIn_append_self hne, Entry.definitions_single hd]
        rfl
      · rw [declared_concat_of_ne hname, h.gather?_declared, definitionsIn_append_of_ne hname,
          List.append_nil]
  · -- another declaration of its name: what the entry keeps is what is gathered
    have hmem : (d.entity.name, entry) ∈ front ++ (d.entity.name, entry) :: back := by simp
    have hkept := Entry.toOption_insert (h.definitions_ne_nil _ hmem) hd
    cases hentry : entry.insert d.condition d.entity with
    | error fault =>
        rw [hentry] at hinsert
        cases hinsert.symm.trans hnext
    | ok after =>
        rw [hentry] at hinsert hkept
        obtain rfl := Except.ok.inj (hinsert.symm.trans hnext)
        have hkept : definitionRule.enter? d.definition entry.definitions =
            some after.definitions := hkept.symm
        refine ⟨⟨by simpa using h.nodup, ?_⟩, fun name => ?_⟩
        · have hothers := h.definitions_ne_nil
          rw [List.forall_mem_append, List.forall_mem_cons] at hothers ⊢
          exact ⟨hothers.1, GatheringRule.ne_nil_of_enter?_eq_some hkept, hothers.2.2⟩
        · by_cases hname : d.entity.name = name
          · subst hname
            rw [declared_concat_self, GatheringRule.gather?_concat, h.gather?_declared,
              definitionsIn_append_self hne, definitionsIn_append_self hne]
            exact hkept
          · rw [declared_concat_of_ne hname, h.gather?_declared,
              definitionsIn_append_of_ne hname, definitionsIn_append_of_ne hname]

/-- A declaration that cannot be inserted cannot be gathered under its name, and the error gives its
name and line. -/
theorem Holds.of_insertEntry_eq_error (h : Holds entries ds) (hd : d.ConditionsAgree)
    {e : TableError} (he : insertEntry d entries = .error e) :
    definitionRule.gather? (declared (ds ++ [d]) d.entity.name) = none ∧
      e.name = d.entity.name ∧ e.line = d.line := by
  rcases insertEntry_cases d entries with ⟨hne, hinsert⟩ | ⟨front, entry, back, rfl, hne, hinsert⟩
  · cases hinsert.symm.trans he
  · have hmem : (d.entity.name, entry) ∈ front ++ (d.entity.name, entry) :: back := by simp
    have hkept := Entry.toOption_insert (h.definitions_ne_nil _ hmem) hd
    cases hentry : entry.insert d.condition d.entity with
    | ok after =>
        rw [hentry] at hinsert
        cases hinsert.symm.trans he
    | error fault =>
        rw [hentry] at hinsert hkept
        obtain rfl := Except.error.inj (hinsert.symm.trans he)
        refine ⟨?_, rfl, rfl⟩
        rw [declared_concat_self, GatheringRule.gather?_concat, h.gather?_declared,
          definitionsIn_append_self hne]
        exact hkept.symm

theorem insertAll_concat (entries : List (String × Entry)) (ds : List Declaration)
    (d : Declaration) :
    insertAll entries (ds ++ [d]) =
      match insertAll entries ds with
      | .ok between => insertEntry d between
      | .error e => .error e := by
  induction ds generalizing entries with
  | nil =>
      simp only [List.nil_append, insertAll]
      cases insertEntry d entries <;> rfl
  | cons first ds ih =>
      rw [List.cons_append, insertAll, insertAll]
      cases insertEntry first entries with
      | ok between => exact ih between
      | error e => rfl

/-- Inserted declarations are gathered name by name. -/
theorem holds_of_insertAll (hds : ∀ d ∈ ds, d.ConditionsAgree)
    (h : insertAll [] ds = .ok entries) : Holds entries ds := by
  induction ds using List.reverseRecOn generalizing entries with
  | nil =>
      cases h
      exact holds_nil
  | append_singleton ds d ih =>
      rw [List.forall_mem_append, List.forall_mem_singleton] at hds
      rw [insertAll_concat] at h
      cases hbefore : insertAll [] ds with
      | error e => rw [hbefore] at h; cases h
      | ok before =>
          rw [hbefore] at h
          exact (ih hds.1 hbefore).of_insertEntry_eq_ok hds.2 h

/-- If declarations cannot be inserted, one of them is the first that cannot be gathered under its
name, and the error gives its name and line. -/
theorem exists_of_insertAll_eq_error (hds : ∀ d ∈ ds, d.ConditionsAgree) {e : TableError}
    (h : insertAll [] ds = .error e) :
    ∃ front d back, ds = front ++ d :: back ∧
      (∀ name, ∃ kept, definitionRule.gather? (declared front name) = some kept) ∧
      definitionRule.gather? (declared (front ++ [d]) d.entity.name) = none ∧
      e.name = d.entity.name ∧ e.line = d.line := by
  induction ds using List.reverseRecOn with
  | nil => cases h
  | append_singleton ds d ih =>
      rw [List.forall_mem_append, List.forall_mem_singleton] at hds
      rw [insertAll_concat] at h
      cases hbefore : insertAll [] ds with
      | error e' =>
          rw [hbefore] at h
          cases h
          obtain ⟨front, d', back, rfl, hfront⟩ := ih hds.1 hbefore
          exact ⟨front, d', back ++ [d], by simp, hfront⟩
      | ok before =>
          rw [hbefore] at h
          have hholds := holds_of_insertAll hds.1 hbefore
          exact ⟨ds, d, [], rfl, fun name => ⟨_, hholds.gather?_declared name⟩,
            hholds.of_insertEntry_eq_error hds.2 h⟩

/-! ## Building -/

variable {env : Environment} {t : SymbolTable}

theorem build_eq_ok_iff :
    build env ds = .ok t ↔ t.env = env ∧ insertAll [] ds = .ok t.entries := by
  rw [build]
  cases insertAll [] ds with
  | ok entries =>
      obtain ⟨tenv, tentries⟩ := t
      simp [eq_comm]
  | error e => simp

theorem build_eq_error_iff {e : TableError} :
    build env ds = .error e ↔ insertAll [] ds = .error e := by
  rw [build]
  cases insertAll [] ds <;> simp

/-- The definitions that a table holds for a name, in order. -/
def definitions (t : SymbolTable) (name : String) : List (Guarded Entity) :=
  definitionsIn t.entries name

/-- A table holds of each name what is kept of its declarations. -/
theorem gather?_declared_of_build (hds : ∀ d ∈ ds, d.ConditionsAgree) (h : build env ds = .ok t)
    (name : String) : definitionRule.gather? (declared ds name) = some (t.definitions name) :=
  (holds_of_insertAll hds (build_eq_ok_iff.1 h).2).gather?_declared name

/-- A table can be built exactly when the declarations of every name can be gathered, whatever its
environment is. -/
theorem exists_build_iff (env : Environment) (hds : ∀ d ∈ ds, d.ConditionsAgree) :
    (∃ t, build env ds = .ok t) ↔
      ∀ name, ∃ kept, definitionRule.gather? (declared ds name) = some kept := by
  constructor
  · rintro ⟨t, h⟩ name
    exact ⟨_, gather?_declared_of_build hds h name⟩
  · intro h
    cases hbuild : build env ds with
    | ok t => exact ⟨t, rfl⟩
    | error e =>
        obtain ⟨front, d, back, rfl, -, hnone, -⟩ :=
          exists_of_insertAll_eq_error hds (build_eq_error_iff.1 hbuild)
        -- already the declarations up to `d` cannot be gathered under its name
        obtain ⟨kept, hkept⟩ := h d.entity.name
        rw [List.append_cons, declared_append] at hkept
        obtain ⟨before, hbefore⟩ := GatheringRule.exists_gather?_of_append hkept
        cases hnone.symm.trans hbefore

end SymbolTable

end GlslPrelude
