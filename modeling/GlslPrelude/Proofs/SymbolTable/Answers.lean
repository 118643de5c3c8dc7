import GlslPrelude.Proofs.SymbolTable.Visibility

/-!
# Agreement of the queries

Each query looks for visible definitions on its own. Together they give one answer for each name
(`answers`): a name stands for nothing, or for a constant, a variable, an interface block or the
visible signatures of a function, and every query says so as far as it knows the kind. A name stands
for nothing exactly if none of its declarations holds (`lookup?_eq_none_iff`), and the symbols are
what the other names stand for, in the order of their first declarations
(`map_some_symbols`).
-/

namespace GlslPrelude

/-- The declared names, in the order of their first declarations. -/
def declaredNames (ds : List Declaration) : List String :=
  (ds.map (·.entity.name)).eraseDups

/-- The names of which a declaration holds in the environment, in the order of their first
declarations, those that do not hold included. -/
def visibleNames (env : Environment) (ds : List Declaration) : List String :=
  (declaredNames ds).filter fun name => ds.any fun d => d.entity.name = name && d.condition.eval env

/-- A name that is declared again stays where it is, and a new one comes behind the others. -/
theorem declaredNames_concat (ds : List Declaration) (d : Declaration) :
    declaredNames (ds ++ [d]) =
      if d.entity.name ∈ declaredNames ds then declaredNames ds
      else declaredNames ds ++ [d.entity.name] := by
  have hmem : d.entity.name ∈ declaredNames ds ↔ d.entity.name ∈ ds.map (·.entity.name) :=
    List.mem_eraseDups
  rw [declaredNames, List.map_append, List.eraseDups_append, ← declaredNames]
  by_cases h : d.entity.name ∈ ds.map (·.entity.name)
  · have hremoved : [d.entity.name].removeAll (ds.map (·.entity.name)) = [] := by
      simpa [List.removeAll] using h
    rw [if_pos (hmem.2 h), List.map_singleton, hremoved, List.eraseDups_nil, List.append_nil]
  · have hkept : [d.entity.name].removeAll (ds.map (·.entity.name)) = [d.entity.name] := by
      simpa [List.removeAll] using h
    rw [if_neg (mt hmem.1 h), List.map_singleton, hkept]
    rfl

namespace SymbolTable

variable {env : Environment} {ds : List Declaration} {d : Declaration} {t : SymbolTable}
  {entries next : List (String × Entry)} {name : String}

/-! ## Names -/

/-- An inserted declaration leaves the names as they are, unless its own is new. -/
theorem names_of_insertEntry (h : insertEntry d entries = .ok next) :
    next.map Prod.fst =
      if d.entity.name ∈ entries.map Prod.fst then entries.map Prod.fst
      else entries.map Prod.fst ++ [d.entity.name] := by
  rcases insertEntry_cases d entries with ⟨hne, hinsert⟩ | ⟨front, entry, back, rfl, hne, hinsert⟩
  · obtain rfl := Except.ok.inj (hinsert.symm.trans h)
    have hnot : d.entity.name ∉ entries.map Prod.fst := by
      intro hmem
      obtain ⟨e, he, hname⟩ := List.mem_map.1 hmem
      exact hne e he hname
    rw [if_neg hnot]
    simp
  · rw [if_pos (by simp)]
    cases hentry : entry.insert d.condition d.entity with
    | error fault =>
        rw [hentry] at hinsert
        cases hinsert.symm.trans h
    | ok after =>
        rw [hentry] at hinsert
        obtain rfl := Except.ok.inj (hinsert.symm.trans h)
        simp

/-- The names of inserted declarations come in the order of their first declarations. -/
theorem names_of_insertAll (h : insertAll [] ds = .ok entries) :
    entries.map Prod.fst = declaredNames ds := by
  induction ds using List.reverseRecOn generalizing entries with
  | nil =>
      cases h
      rfl
  | append_singleton ds d ih =>
      rw [insertAll_concat] at h
      cases hbefore : insertAll [] ds with
      | error e =>
          rw [hbefore] at h
          cases h
      | ok before =>
          rw [hbefore] at h
          rw [names_of_insertEntry h, ih hbefore, declaredNames_concat]

/-! ## Answers -/

/-- What the queries answer for a name: the symbol, the constant, what can be read, the interface
block and the signatures. -/
inductive Answers (t : SymbolTable) (name : String) :
    Option Symbol → Option Constant → Option Readable → Option Block → List Signature → Prop
  /-- The name stands for nothing. -/
  | nothing : Answers t name none none none none []
  /-- It stands for a constant, which can be read. -/
  | const {c : Constant} {condition : Condition} :
    condition.eval t.env = true →
    Answers t name (some (.const c)) (some c) (some (.const c condition)) none []
  /-- It stands for a variable, which can be read. -/
  | var {v : Variable} {condition : Condition} :
    condition.eval t.env = true →
    Answers t name (some (.var v)) none (some (.var v condition)) none []
  /-- It stands for an interface block. -/
  | block {b : Block} : Answers t name (some (.block b)) none none (some b) []
  /-- It stands for a function with at least one signature. -/
  | function {s : Signature} {ss : List Signature} :
    Answers t name (some (.function name (s :: ss))) none none none (s :: ss)

/-- The queries answer alike. -/
theorem answers (t : SymbolTable) (name : String) :
    Answers t name (t.lookup? name) (t.constant? name) (t.readable? name) (t.block? name)
      (t.overloads name) := by
  have hvisible {α : Type} {ds : List (Guarded α)} {d : Guarded α}
      (h : t.firstVisible? ds = some d) : d.condition.eval t.env = true := by
    simpa using List.find?_some (p := fun d : Guarded α => d.condition.eval t.env) h
  unfold lookup? constant? readable? block? overloads
  rcases t.entry? name with _ | ds | ds | ds | ss
  · exact .nothing
  · dsimp only [Option.bind_some, visible?]
    cases h : t.firstVisible? ds with
    | none => exact .nothing
    | some d => exact .const (hvisible h)
  · dsimp only [Option.bind_some, visible?]
    cases h : t.firstVisible? ds with
    | none => exact .nothing
    | some d => exact .var (hvisible h)
  · dsimp only [Option.bind_some, visible?]
    cases t.firstVisible? ds with
    | none => exact .nothing
    | some d => exact .block
  · dsimp only [Option.bind_some, visible?]
    cases t.visibleSignatures ss with
    | nil => exact .nothing
    | cons s ss => exact .function

/-- What the queries of one kind find under a name is what the name stands for. -/
structure QueriesAgree (t : SymbolTable) (name : String) : Prop where
  /-- A constant is what is found as a constant. -/
  constant?_iff : ∀ c, t.lookup? name = some (.const c) ↔ t.constant? name = some c
  /-- Constants can be read. -/
  readable?_const_iff : ∀ c, t.constant? name = some c ↔
    ∃ condition, t.readable? name = some (.const c condition)
  /-- A variable is what can be read as a variable. -/
  readable?_var_iff : ∀ v, t.lookup? name = some (.var v) ↔
    ∃ condition, t.readable? name = some (.var v condition)
  /-- What can be read is visible. -/
  readable?_visible : ∀ r, t.readable? name = some r → r.condition.eval t.env = true
  /-- An interface block is what is found as a block. -/
  block?_iff : ∀ b, t.lookup? name = some (.block b) ↔ t.block? name = some b
  /-- A function is what has signatures, which are found in the same order. -/
  overloads_iff : ∀ other overloads, t.lookup? name = some (.function other overloads) ↔
    other = name ∧ t.overloads name = overloads ∧ overloads ≠ []

/-- The queries of a table agree. -/
theorem queriesAgree (t : SymbolTable) (name : String) : t.QueriesAgree name := by
  have h := t.answers name
  constructor
  all_goals
    generalize t.lookup? name = symbol, t.constant? name = constant, t.readable? name = readable,
      t.block? name = block, t.overloads name = signatures at h ⊢
    cases h
  case overloads_iff.function => grind
  all_goals simp [Readable.condition, *]

/-! ## Visible names -/

/-- Nothing is visible of a name exactly if none of its declarations holds. -/
theorem visibleDefinitions_eq_nil_iff (hds : ∀ d ∈ ds, d.ConditionsAgree)
    (h : build env ds = .ok t) :
    t.visibleDefinitions name = [] ↔
      ∀ d ∈ ds, d.entity.name = name → d.condition.eval env = false := by
  have hgather := gather?_declared_filter_visible hds h name
  rw [← (build_eq_ok_iff.1 h).1, ← visibleDefinitions] at hgather
  -- something is kept of declarations exactly if there are any
  have hkept : t.visibleDefinitions name = [] ↔
      declared (ds.filter (·.condition.eval t.env)) name = [] := by
    constructor
    · exact fun hnil => by_contra fun hne =>
        GatheringRule.ne_nil_of_gather?_eq_some hgather hne hnil
    · intro hnil
      rw [hnil, GatheringRule.gather?_nil] at hgather
      exact (Option.some.inj hgather).symm
  rw [hkept, (build_eq_ok_iff.1 h).1]
  simp [declared, List.filter_eq_nil_iff]

/-- A name stands for nothing exactly if none of its declarations holds. -/
theorem lookup?_eq_none_iff (hds : ∀ d ∈ ds, d.ConditionsAgree) (h : build env ds = .ok t) :
    t.lookup? name = none ↔ ∀ d ∈ ds, d.entity.name = name → d.condition.eval env = false := by
  rw [lookup?_eq, Option.map_eq_none_iff, List.head?_eq_none_iff,
    visibleDefinitions_eq_nil_iff hds h]

/-- What a name stands for has this name. -/
theorem name_of_lookup? (hds : ∀ d ∈ ds, d.ConditionsAgree) (h : build env ds = .ok t)
    {symbol : Symbol} (hsymbol : t.lookup? name = some symbol) : symbol.name = name := by
  rw [lookup?_eq] at hsymbol
  obtain ⟨d, hd, rfl⟩ := Option.map_eq_some_iff.1 hsymbol
  -- the definition is kept of a declaration of the name
  have hmem : d ∈ t.definitions name := List.mem_of_mem_filter (List.mem_of_head? hd)
  have hgather := gather?_declared_of_build hds h name
  have hdeclared := (GatheringRule.sublist_of_gather? hgather).mem hmem
  obtain ⟨declaration, hdeclaration, rfl⟩ := List.mem_map.1 hdeclared
  have hname : declaration.entity.name = name := by simpa using (List.mem_filter.1 hdeclaration).2
  rw [Declaration.definition]
  cases hentity : declaration.entity <;> rw [hentity] at hname <;> first | exact hname | rfl

/-- The names of the symbols are the visible ones, in the order of their first declarations, and
each symbol is what its name stands for. -/
theorem map_some_symbols (hds : ∀ d ∈ ds, d.ConditionsAgree) (h : build env ds = .ok t) :
    t.symbols.map some = (visibleNames env ds).map t.lookup? := by
  have hinsert := (build_eq_ok_iff.1 h).2
  have hvisible : visibleNames env ds =
      (declaredNames ds).filter fun name => (t.lookup? name).isSome := by
    refine List.filter_congr fun name _ => Bool.eq_iff_iff.2 ?_
    rw [← Option.ne_none_iff_isSome, ne_eq, lookup?_eq_none_iff hds h]
    simp
  rw [hvisible, symbols_eq (holds_of_insertAll hds hinsert).toTidy, names_of_insertAll hinsert]
  induction declaredNames ds with
  | nil => rfl
  | cons name names ih => cases hlookup : t.lookup? name <;> simp [hlookup, ih]

/-- Each visible name is that of one symbol. -/
theorem map_name_symbols (hds : ∀ d ∈ ds, d.ConditionsAgree) (h : build env ds = .ok t) :
    t.symbols.map Symbol.name = visibleNames env ds := by
  refine List.ext_getElem? fun i => ?_
  have hi := congrArg (·[i]?) (map_some_symbols hds h)
  simp only [List.getElem?_map] at hi ⊢
  cases hname : (visibleNames env ds)[i]? with
  | none => simpa [hname] using hi
  | some name =>
      rw [hname] at hi
      obtain ⟨symbol, hsymbol, hlookup⟩ := Option.map_eq_some_iff.1 hi
      rw [hsymbol, Option.map_some, name_of_lookup? hds h hlookup.symm]

/-- The queries of a table agree under every name. A name stands for nothing exactly if none of its
declarations holds, and the symbols are what the other names stand for, each once, in the order of
their first declarations. -/
theorem queries_agree (hds : ∀ d ∈ ds, d.ConditionsAgree) (h : build env ds = .ok t) :
    (∀ name, t.QueriesAgree name ∧
      (t.lookup? name = none ↔
        ∀ d ∈ ds, d.entity.name = name → d.condition.eval env = false)) ∧
    t.symbols.map some = (visibleNames env ds).map t.lookup? ∧
    t.symbols.map Symbol.name = visibleNames env ds ∧ (visibleNames env ds).Nodup ∧
    t.size = (visibleNames env ds).length := by
  have hsymbols := map_some_symbols hds h
  have hinsert := (build_eq_ok_iff.1 h).2
  refine ⟨fun name => ⟨t.queriesAgree name, lookup?_eq_none_iff hds h⟩, hsymbols, ?_, ?_, ?_⟩
  · exact map_name_symbols hds h
  · rw [visibleNames, ← names_of_insertAll hinsert]
    exact (holds_of_insertAll hds hinsert).nodup.filter _
  · rw [size, ← List.length_map some, hsymbols, List.length_map]

/-- A constant with a value for each of two stages, the second of which is declared twice, around a
function that is not visible and a variable: the constant comes first, with its second value. -/
theorem queries_agree_of_stage_values :
    let env : Environment := { api := .openGl, stage := .fragment, features := ∅ }
    let ds : List Declaration := [
      { condition := .flag (.stage .vertex), line := 1,
        entity := .const ⟨"n", .scalar .int, ∅, .int 1, none⟩ },
      { condition := .flag (.stage .vertex), line := 2,
        entity := .function ⟨"f", .void, [], .flag (.stage .vertex), none⟩ },
      { condition := .always, line := 4,
        entity := .var ⟨"v", .scalar .float, .ofList [.in], none, none⟩ },
      { condition := .flag (.stage .fragment), line := 6,
        entity := .const ⟨"n", .scalar .int, ∅, .int 2, none⟩ },
      { condition := .flag (.stage .fragment), line := 7,
        entity := .const ⟨"n", .scalar .int, ∅, .int 2, none⟩ }]
    (∀ d ∈ ds, d.ConditionsAgree) ∧ ∃ t, build env ds = .ok t ∧ t.QueriesAgree "n" ∧
      t.lookup? "n" = some (.const ⟨"n", .scalar .int, ∅, .int 2, none⟩) ∧ t.lookup? "f" = none ∧
      t.symbols.map Symbol.name = ["n", "v"] ∧ t.size = 2 := by
  intro env ds
  have hds : ∀ d ∈ ds, d.ConditionsAgree := by decide
  refine ⟨hds, Exists.imp (fun t h => ⟨h, ?_⟩) (⟨_, rfl⟩ : ∃ t, build env ds = .ok t)⟩
  obtain ⟨hnames, -, hsymbols, -, hsize⟩ := queries_agree hds h
  have hvisible : visibleNames env ds = ["n", "v"] := by decide
  rw [hvisible] at hsymbols hsize
  refine ⟨(hnames "n").1, ?_, (hnames "f").2.2 (by decide), hsymbols, hsize⟩
  cases h
  rfl

end SymbolTable

end GlslPrelude
