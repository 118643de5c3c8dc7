import GlslPrelude.Proofs.SymbolTable.Definitions
import GlslPrelude.SymbolTable.Query
import Mathlib.Data.List.Perm.Basic

/-!
# What is visible

Every query of a table is a function of the definitions of a name that are visible in the table's
environment. These are the same whether invisible declarations are left out before the table is
built or stay unseen in it, and so are all answers.
-/

namespace GlslPrelude

/-! ## Answers from definitions -/

namespace Entity

/-- The signature that is introduced, of a function. -/
def signature? : Entity → Option Signature
  | .function s => some s
  | _ => none

/-- The symbol of a name whose first definition is the entity; of a function all overloads belong to
it. -/
def symbol (name : String) (overloads : List Signature) : Entity → Symbol
  | .const c => .const c
  | .var v => .var v
  | .block b => .block b
  | .function _ => .function name overloads

end Entity

namespace Guarded

/-- The constant that is defined. -/
def constant? (d : Guarded Entity) : Option Constant :=
  match d.value with
  | .const c => some c
  | _ => none

/-- What can be read under the name of the definition. -/
def readable? (d : Guarded Entity) : Option Readable :=
  match d.value with
  | .const c => some (.const c d.condition)
  | .var v => some (.var v d.condition)
  | _ => none

/-- The interface block that is defined. -/
def block? (d : Guarded Entity) : Option Block :=
  match d.value with
  | .block b => some b
  | _ => none

end Guarded

namespace SymbolTable

variable (t : SymbolTable) (name : String)

/-- The visible definitions of a name, in order. -/
def visibleDefinitions : List (Guarded Entity) :=
  (t.definitions name).filter (·.condition.eval t.env)

/-- What is visible of the definitions of an entry is what queries find in it. -/
theorem visibleDefinitions_eq :
    t.visibleDefinitions name =
      match t.entry? name with
      | none => []
      | some (.constants ds) => (ds.filter (·.condition.eval t.env)).map (Guarded.map .const)
      | some (.variables ds) => (ds.filter (·.condition.eval t.env)).map (Guarded.map .var)
      | some (.blocks ds) => (ds.filter (·.condition.eval t.env)).map (Guarded.map .block)
      | some (.functions ss) => (t.visibleSignatures ss).map Signature.definition := by
  rw [visibleDefinitions, definitions, definitionsIn, entry?]
  rcases t.entries.lookup name with _ | ds | ds | ds | ss
  · rfl
  all_goals exact List.filter_map

theorem head?_visibleDefinitions :
    (t.visibleDefinitions name).head? =
      match t.entry? name with
      | none => none
      | some (.constants ds) => (t.firstVisible? ds).map (Guarded.map .const)
      | some (.variables ds) => (t.firstVisible? ds).map (Guarded.map .var)
      | some (.blocks ds) => (t.firstVisible? ds).map (Guarded.map .block)
      | some (.functions ss) => (t.visibleSignatures ss).head?.map Signature.definition := by
  rw [visibleDefinitions_eq]
  rcases t.entry? name with _ | ds | ds | ds | ss
  · rfl
  all_goals simp [firstVisible?]

theorem constant?_eq : t.constant? name = (t.visibleDefinitions name).head?.bind (·.constant?) := by
  rw [head?_visibleDefinitions, constant?]
  rcases t.entry? name with _ | ds | ds | ds | ss
  · rfl
  all_goals dsimp only
  iterate 3 cases t.firstVisible? ds <;> rfl
  cases t.visibleSignatures ss <;> rfl

theorem readable?_eq : t.readable? name = (t.visibleDefinitions name).head?.bind (·.readable?) := by
  rw [head?_visibleDefinitions, readable?]
  rcases t.entry? name with _ | ds | ds | ds | ss
  · rfl
  all_goals dsimp only
  iterate 3 cases t.firstVisible? ds <;> rfl
  cases t.visibleSignatures ss <;> rfl

theorem block?_eq : t.block? name = (t.visibleDefinitions name).head?.bind (·.block?) := by
  rw [head?_visibleDefinitions, block?]
  rcases t.entry? name with _ | ds | ds | ds | ss
  · rfl
  all_goals dsimp only
  iterate 3 cases t.firstVisible? ds <;> rfl
  cases t.visibleSignatures ss <;> rfl

theorem filterMap_signature?_definition (ss : List Signature) :
    (ss.map Signature.definition).filterMap (·.value.signature?) = ss := by
  rw [List.filterMap_map]
  exact List.filterMap_some

theorem overloads_eq :
    t.overloads name = (t.visibleDefinitions name).filterMap (·.value.signature?) := by
  rw [visibleDefinitions_eq, overloads]
  rcases t.entry? name with _ | ds | ds | ds | ss
  · rfl
  · simp [Guarded.map, Entity.signature?]
  · simp [Guarded.map, Entity.signature?]
  · simp [Guarded.map, Entity.signature?]
  · exact (filterMap_signature?_definition _).symm

theorem lookup?_eq :
    t.lookup? name =
      (t.visibleDefinitions name).head?.map (·.value.symbol name (t.overloads name)) := by
  rw [head?_visibleDefinitions, lookup?, overloads]
  rcases t.entry? name with _ | ds | ds | ds | ss
  · rfl
  all_goals dsimp only [Option.bind_some, visible?]
  iterate 3 cases t.firstVisible? ds <;> rfl
  cases t.visibleSignatures ss <;> rfl

/-! ## Symbols -/

section Symbols

variable {t t' : SymbolTable} {name : String}

/-- The one entry of a name is found under it. -/
theorem Tidy.lookup_eq_some {entries : List (String × Entry)} {entry : Entry} (h : Tidy entries)
    (hmem : (name, entry) ∈ entries) : entries.lookup name = some entry := by
  obtain ⟨front, back, rfl⟩ := List.append_of_mem hmem
  have hnodup := h.nodup
  rw [List.map_append, List.nodup_append] at hnodup
  refine List.lookup_eq_some_iff.2 ⟨front, back, rfl, fun e he => bne_iff_ne.2 ?_⟩
  exact (hnodup.2.2 e.1 (List.mem_map_of_mem he) name (by simp)).symm

/-- The symbols of a table are what its names stand for. -/
theorem symbols_eq (h : Tidy t.entries) :
    t.symbols = (t.entries.map Prod.fst).filterMap t.lookup? := by
  rw [symbols, List.filterMap_map]
  refine List.filterMap_congr fun ⟨name, entry⟩ hmem => ?_
  rw [Function.comp_apply, lookup?, entry?, h.lookup_eq_some hmem]
  rfl

/-- What can be looked up has a name of the table. -/
theorem mem_names_of_isSome_lookup? (h : (t.lookup? name).isSome = true) :
    name ∈ t.entries.map Prod.fst := by
  obtain ⟨symbol, hsymbol⟩ := Option.isSome_iff_exists.1 h
  obtain ⟨entry, hentry, -⟩ := Option.bind_eq_some_iff.1 hsymbol
  obtain ⟨front, back, happend, -⟩ := List.lookup_eq_some_iff.1 hentry
  rw [happend]
  simp

/-- Tables in which names stand for the same have the same symbols, each as often. -/
theorem symbols_perm (h : Tidy t.entries) (h' : Tidy t'.entries)
    (hlookup : t.lookup? = t'.lookup?) : t.symbols.Perm t'.symbols := by
  -- only names that stand for something matter, and both tables have all of these
  have restrict (names : List String) :
      names.filterMap t.lookup? =
        (names.filter fun name => (t.lookup? name).isSome).filterMap t.lookup? := by
    rw [List.filterMap_filter]
    refine List.filterMap_congr fun name _ => ?_
    cases t.lookup? name <;> rfl
  rw [symbols_eq h, symbols_eq h', ← hlookup, restrict, restrict (t'.entries.map _)]
  refine List.Perm.filterMap _ ((List.perm_ext_iff_of_nodup (h.nodup.filter _)
    (h'.nodup.filter _)).2 fun name => ?_)
  rw [List.mem_filter, List.mem_filter]
  exact and_congr_left fun hsome =>
    iff_of_true (mem_names_of_isSome_lookup? hsome) (mem_names_of_isSome_lookup? (hlookup ▸ hsome))

end Symbols

/-! ## Leaving out what is invisible -/

/-- Two tables answer all queries alike. Their symbols may come in another order. -/
structure SameAnswers (t t' : SymbolTable) : Prop where
  /-- Names stand for the same symbols. -/
  lookup? : ∀ name, t.lookup? name = t'.lookup? name
  /-- Names stand for the same constants. -/
  constant? : ∀ name, t.constant? name = t'.constant? name
  /-- The same is read under a name, under the same condition. -/
  readable? : ∀ name, t.readable? name = t'.readable? name
  /-- Names stand for the same interface blocks. -/
  block? : ∀ name, t.block? name = t'.block? name
  /-- Names have the same signatures in the same order. -/
  overloads : ∀ name, t.overloads name = t'.overloads name
  /-- Calls go to the same signatures, or fail alike. -/
  resolveCall : ∀ name arguments, t.resolveCall name arguments = t'.resolveCall name arguments
  /-- The visible symbols are the same. -/
  symbols : t.symbols.Perm t'.symbols
  /-- There are as many visible symbols. -/
  size : t.size = t'.size

/-- Tables with the same visible definitions answer alike. -/
theorem sameAnswers_of_visibleDefinitions_eq {t t' : SymbolTable} (h : Tidy t.entries)
    (h' : Tidy t'.entries)
    (hvisible : ∀ name, t.visibleDefinitions name = t'.visibleDefinitions name) :
    SameAnswers t t' := by
  have hoverloads : ∀ name, t.overloads name = t'.overloads name := fun name => by
    rw [overloads_eq, overloads_eq, hvisible]
  have hlookup : ∀ name, t.lookup? name = t'.lookup? name := fun name => by
    rw [lookup?_eq, lookup?_eq, hvisible, hoverloads]
  have hsymbols : t.symbols.Perm t'.symbols := symbols_perm h h' (funext hlookup)
  exact {
    lookup? := hlookup
    constant? := fun name => by rw [constant?_eq, constant?_eq, hvisible]
    readable? := fun name => by rw [readable?_eq, readable?_eq, hvisible]
    block? := fun name => by rw [block?_eq, block?_eq, hvisible]
    overloads := hoverloads
    resolveCall := fun name arguments => by rw [resolveCall, resolveCall, hoverloads]
    symbols := hsymbols
    size := hsymbols.length_eq }

variable {ds : List Declaration} {env : Environment} {t : SymbolTable}

/-- What is kept of the visible declarations of a name is what is visible of its definitions. -/
theorem gather?_declared_filter_visible (hds : ∀ d ∈ ds, d.ConditionsAgree)
    (h : build env ds = .ok t) (name : String) :
    definitionRule.gather? (declared (ds.filter (·.condition.eval env)) name) =
      some ((t.definitions name).filter (·.condition.eval env)) := by
  -- repeated definitions have equal conditions, so they are visible together
  have hkeep : ∀ a b, definitionRule.repeats a b = true →
      a.condition.eval env = b.condition.eval env := by
    intro a b hrepeats
    rw [(of_decide_eq_true (Bool.and_eq_true_iff.1 hrepeats).2 : a.condition = b.condition)]
  exact (congrArg _ (declared_filter (·.condition.eval env) ds name)).trans
    (GatheringRule.gather?_filter hkeep (gather?_declared_of_build hds h name))

/-- If declarations whose functions carry their conditions make a table, so do those among them that
hold in its environment, and both tables answer all queries alike. -/
theorem exists_build_filter_visible (hds : ∀ d ∈ ds, d.ConditionsAgree)
    (h : build env ds = .ok t) :
    ∃ t', build env (ds.filter (·.condition.eval env)) = .ok t' ∧ SameAnswers t t' := by
  have hds' : ∀ d ∈ ds.filter (·.condition.eval env), d.ConditionsAgree :=
    fun d hd => hds d (List.mem_of_mem_filter hd)
  have hgather := gather?_declared_filter_visible hds h
  obtain ⟨t', h'⟩ := (exists_build_iff env hds').2 fun name => ⟨_, hgather name⟩
  obtain ⟨henv, hinsert⟩ := build_eq_ok_iff.1 h
  obtain ⟨henv', hinsert'⟩ := build_eq_ok_iff.1 h'
  refine ⟨t', h', sameAnswers_of_visibleDefinitions_eq (holds_of_insertAll hds hinsert).toTidy
    (holds_of_insertAll hds' hinsert').toTidy fun name => ?_⟩
  have hdefinitions : t'.definitions name = (t.definitions name).filter (·.condition.eval env) :=
    Option.some.inj ((gather?_declared_of_build hds' h' name).symm.trans (hgather name))
  rw [visibleDefinitions, visibleDefinitions, hdefinitions, henv, henv', List.filter_filter]
  simp only [Bool.and_self]

/-- A constant with a value for each of two stages and a function before the second of them: without
the value for the other stage the function comes first, and all answers are the same. -/
theorem exists_build_filter_visible_of_stage_values :
    let env : Environment := { api := .openGl, stage := .fragment, features := ∅ }
    let ds : List Declaration := [
      { condition := .flag (.stage .vertex), line := 1,
        entity := .const ⟨"n", .scalar .int, ∅, .int 1, none⟩ },
      { condition := .always, line := 2,
        entity := .function ⟨"f", .void, [⟨none, .scalar .float, ∅⟩], .always, none⟩ },
      { condition := .flag (.stage .fragment), line := 4,
        entity := .const ⟨"n", .scalar .int, ∅, .int 2, none⟩ }]
    ∃ t t', build env ds = .ok t ∧ build env (ds.filter (·.condition.eval env)) = .ok t' ∧
      SameAnswers t t' ∧
      t.symbols.map Symbol.name = ["n", "f"] ∧ t'.symbols.map Symbol.name = ["f", "n"] := by
  intro env ds
  refine Exists.imp (fun t h => ?_) (⟨_, rfl⟩ : ∃ t, build env ds = .ok t)
  obtain ⟨t', h', hsame⟩ := exists_build_filter_visible (by decide) h
  refine ⟨t', h, h', hsame, ?_⟩
  cases h
  cases h'
  exact ⟨rfl, rfl⟩

end SymbolTable

end GlslPrelude
