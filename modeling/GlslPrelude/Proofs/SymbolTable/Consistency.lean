import GlslPrelude.Proofs.Condition.Relevance
import GlslPrelude.Proofs.Overload.ExactMatch
import GlslPrelude.Proofs.Value.Equality
import GlslPrelude.SymbolTable.Query
import Mathlib.Data.List.Pairwise

/-!
# Definitions that are visible together

Two definitions of a name that can be visible together are the same, and two signatures have
different parameters: `Entry.Consistent` says so of all stored definitions with the search for an
overlap, and insertion keeps it. In every environment the visible definitions then agree, and in
that of the table every visible signature is reached by a call with its own parameter types.
-/

namespace GlslPrelude

/-- Whether what is not a number occurs in the value of an introduced constant. -/
def Entity.hasNaN : Entity → Bool
  | .const c => c.value.hasNaN
  | .var _ | .block _ | .function _ => false

/-- Two definitions are the same, or cannot be visible together. -/
def Guarded.Agree {α : Type} (same : α → α → Bool) (a b : Guarded α) : Prop :=
  same a.value b.value = true ∨ a.condition.overlaps b.condition = false

/-- Two signatures have different parameter types, or cannot be visible together. -/
def Signature.Differ (s t : Signature) : Prop :=
  s.parameterTypes ≠ t.parameterTypes ∨ s.condition.overlaps t.condition = false

namespace Entry

/-- The definitions of a name go together in every environment. Constants are also free of what is
not a number, which would not even be the same as itself, and signatures have the name. -/
def Consistent (name : String) : Entry → Prop
  | .constants definitions =>
    (∀ d ∈ definitions, d.value.value.hasNaN = false) ∧
      definitions.Pairwise (Guarded.Agree Constant.sameDefinition)
  | .variables definitions => definitions.Pairwise (Guarded.Agree Variable.sameDefinition)
  | .blocks definitions => definitions.Pairwise (Guarded.Agree fun a b => a = b)
  | .functions signatures =>
    (∀ s ∈ signatures, s.name = name) ∧ signatures.Pairwise Signature.Differ

/-- In one environment, all visible definitions are the same, and visible signatures have different
parameter types. -/
def AgreesIn (env : Environment) : Entry → Prop
  | .constants definitions =>
    ∀ a ∈ definitions, ∀ b ∈ definitions, a.condition.eval env = true →
      b.condition.eval env = true → a.value.sameDefinition b.value = true
  | .variables definitions =>
    ∀ a ∈ definitions, ∀ b ∈ definitions, a.condition.eval env = true →
      b.condition.eval env = true → a.value.sameDefinition b.value = true
  | .blocks definitions =>
    ∀ a ∈ definitions, ∀ b ∈ definitions, a.condition.eval env = true →
      b.condition.eval env = true → a.value = b.value
  | .functions signatures =>
    (signatures.filter (·.condition.eval env)).Pairwise (·.parameterTypes ≠ ·.parameterTypes)

end Entry

/-! ## Adding a definition -/

/-- A list behind the attempt to add an element to others: it is as it was, or the element stands
behind the others and each of them has a relation to it. -/
def AddsTo {α : Type} (R : α → α → Prop) (olds : List α) (new : α) (result : List α) : Prop :=
  result = olds ∨ result = olds ++ [new] ∧ ∀ old ∈ olds, R old new

section AddsTo

variable {α : Type} {R : α → α → Prop} {olds result : List α} {old new : α}

/-- An element in front that has the relation changes nothing about the attempt. -/
theorem AddsTo.cons (h : AddsTo R olds new result) (hold : R old new) :
    AddsTo R (old :: olds) new (old :: result) := by
  rcases h with rfl | ⟨rfl, hall⟩
  · exact .inl rfl
  · exact .inr ⟨rfl, List.forall_mem_cons.2 ⟨hold, hall⟩⟩

/-- The attempt keeps the relation pairwise. -/
theorem AddsTo.pairwise (h : AddsTo R olds new result) (holds : olds.Pairwise R) :
    result.Pairwise R := by
  rcases h with rfl | ⟨rfl, hall⟩
  · exact holds
  · rw [List.pairwise_append]
    exact ⟨holds, List.pairwise_singleton R new, by simpa using hall⟩

/-- The attempt keeps a property that the element has. -/
theorem AddsTo.forall_mem {P : α → Prop} (h : AddsTo R olds new result)
    (holds : ∀ old ∈ olds, P old) (hnew : P new) : ∀ a ∈ result, P a := by
  rcases h with rfl | ⟨rfl, -⟩
  · exact holds
  · exact List.forall_mem_append.2 ⟨holds, List.forall_mem_singleton.2 hnew⟩

end AddsTo

/-- A definition that is added agrees with all the earlier ones. -/
theorem addDefinition?_addsTo {α : Type} {same : α → α → Bool} {new : Guarded α}
    {olds definitions : List (Guarded α)} (h : addDefinition? same new olds = some definitions) :
    AddsTo (Guarded.Agree same) olds new definitions := by
  induction olds generalizing definitions with
  | nil =>
      cases h
      exact .inr ⟨rfl, by simp⟩
  | cons old olds ih =>
      have behind : (addDefinition? same new olds).map (old :: ·) = some definitions →
          old.Agree same new → AddsTo (Guarded.Agree same) (old :: olds) new definitions := by
        intro h hagree
        obtain ⟨rest, hrest, rfl⟩ := Option.map_eq_some_iff.1 h
        exact (ih hrest).cons hagree
      rw [addDefinition?] at h
      by_cases hsame : same old.value new.value = true
      · rw [if_pos hsame] at h
        by_cases hcond : old.condition = new.condition
        · -- the definition is there already
          rw [if_pos hcond] at h
          exact .inl (Option.some.inj h).symm
        · rw [if_neg hcond] at h
          exact behind h (.inl hsame)
      · rw [if_neg hsame] at h
        by_cases hoverlaps : old.condition.overlaps new.condition = true
        · rw [if_pos hoverlaps] at h
          cases h
        · rw [if_neg hoverlaps] at h
          exact behind h (.inr (Bool.eq_false_iff.2 hoverlaps))

/-- A signature that is added differs from all the earlier ones. -/
theorem addSignature?_addsTo {new : Signature} {olds signatures : List Signature}
    (h : addSignature? new olds = some signatures) :
    AddsTo Signature.Differ olds new signatures := by
  induction olds generalizing signatures with
  | nil =>
      cases h
      exact .inr ⟨rfl, by simp⟩
  | cons old olds ih =>
      have behind : (addSignature? new olds).map (old :: ·) = some signatures →
          old.Differ new → AddsTo Signature.Differ (old :: olds) new signatures := by
        intro h hdiffer
        obtain ⟨rest, hrest, rfl⟩ := Option.map_eq_some_iff.1 h
        exact (ih hrest).cons hdiffer
      rw [addSignature?] at h
      by_cases hsame : old.sameParameters new = true
      · rw [if_pos hsame] at h
        by_cases hcond : old.condition = new.condition
        · -- a signature with these parameters is there already
          rw [if_pos hcond] at h
          exact .inl (Option.some.inj h).symm
        · rw [if_neg hcond] at h
          by_cases hoverlaps : old.condition.overlaps new.condition = true
          · rw [if_pos hoverlaps] at h
            cases h
          · rw [if_neg hoverlaps] at h
            exact behind h (.inr (Bool.eq_false_iff.2 hoverlaps))
      · rw [if_neg hsame] at h
        exact behind h (.inl (by simpa [Signature.sameParameters] using hsame))

/-! ## Inserting declarations -/

namespace Entry

/-- The first declaration of a name is consistent. -/
theorem consistent_single (condition : Condition) {entity : Entity} (hnan : entity.hasNaN = false) :
    (single condition entity).Consistent entity.name := by
  cases entity with
  | const c => exact ⟨List.forall_mem_singleton.2 hnan, List.pairwise_singleton _ _⟩
  | var v => exact List.pairwise_singleton _ _
  | block b => exact List.pairwise_singleton _ _
  | function s => exact ⟨List.forall_mem_singleton.2 rfl, List.pairwise_singleton _ _⟩

/-- What another declaration of a name can do to the entry: the entry is of its kind, and the
definition goes with the earlier ones. -/
theorem insert_cases {entry next : Entry} {condition : Condition} {entity : Entity}
    (h : entry.insert condition entity = .ok next) :
    (∃ value olds definitions, entity = .const value ∧ entry = .constants olds ∧
        next = .constants definitions ∧
        addDefinition? Constant.sameDefinition { condition, value } olds = some definitions) ∨
      (∃ value olds definitions, entity = .var value ∧ entry = .variables olds ∧
        next = .variables definitions ∧
        addDefinition? Variable.sameDefinition { condition, value } olds = some definitions) ∨
      (∃ value olds definitions, entity = .block value ∧ entry = .blocks olds ∧
        next = .blocks definitions ∧
        addDefinition? (fun a b => a = b) { condition, value } olds = some definitions) ∨
      ∃ signature olds signatures, entity = .function signature ∧ entry = .functions olds ∧
        next = .functions signatures ∧ addSignature? signature olds = some signatures := by
  -- each kind of entry takes definitions of its own kind only
  rcases entry with olds | olds | olds | olds
  · cases entity with
    | const value =>
        rw [Entry.insert] at h
        split at h
        case h_1 definitions hadd =>
          exact .inl ⟨value, olds, definitions, rfl, rfl, (Except.ok.inj h).symm, hadd⟩
        case h_2 => cases h
    | _ => cases h
  · cases entity with
    | var value =>
        rw [Entry.insert] at h
        split at h
        case h_1 definitions hadd =>
          exact .inr (.inl ⟨value, olds, definitions, rfl, rfl, (Except.ok.inj h).symm, hadd⟩)
        case h_2 => cases h
    | _ => cases h
  · cases entity with
    | block value =>
        rw [Entry.insert] at h
        split at h
        case h_1 definitions hadd =>
          exact .inr (.inr (.inl
            ⟨value, olds, definitions, rfl, rfl, (Except.ok.inj h).symm, hadd⟩))
        case h_2 => cases h
    | _ => cases h
  · cases entity with
    | function signature =>
        rw [Entry.insert] at h
        split at h
        case h_1 signatures hadd =>
          exact .inr (.inr (.inr
            ⟨signature, olds, signatures, rfl, rfl, (Except.ok.inj h).symm, hadd⟩))
        case h_2 => cases h
    | _ => cases h

/-- Another declaration of a name keeps the entry consistent. -/
theorem Consistent.insert {entry next : Entry} {condition : Condition} {entity : Entity}
    (hentry : entry.Consistent entity.name) (hnan : entity.hasNaN = false)
    (h : entry.insert condition entity = .ok next) : next.Consistent entity.name := by
  rcases insert_cases h with ⟨c, olds, definitions, rfl, rfl, rfl, hadd⟩ |
    ⟨v, olds, definitions, rfl, rfl, rfl, hadd⟩ | ⟨b, olds, definitions, rfl, rfl, rfl, hadd⟩ |
    ⟨s, olds, signatures, rfl, rfl, rfl, hadd⟩
  · have hadds := addDefinition?_addsTo hadd
    exact ⟨hadds.forall_mem hentry.1 hnan, hadds.pairwise hentry.2⟩
  · exact (addDefinition?_addsTo hadd).pairwise hentry
  · exact (addDefinition?_addsTo hadd).pairwise hentry
  · have hadds := addSignature?_addsTo hadd
    exact ⟨hadds.forall_mem hentry.1 rfl, hadds.pairwise hentry.2⟩

end Entry

namespace SymbolTable

variable {d : Declaration} {ds : List Declaration} {entries next : List (String × Entry)}

/-- A declaration keeps all entries consistent. -/
theorem insertEntry_consistent (h : insertEntry d entries = .ok next)
    (hentries : ∀ e ∈ entries, e.2.Consistent e.1) (hnan : d.entity.hasNaN = false) :
    ∀ e ∈ next, e.2.Consistent e.1 := by
  induction entries generalizing next with
  | nil =>
      cases h
      exact List.forall_mem_singleton.2 (Entry.consistent_single d.condition hnan)
  | cons first rest ih =>
      obtain ⟨name, entry⟩ := first
      rw [List.forall_mem_cons] at hentries
      rw [insertEntry] at h
      by_cases hname : name = d.entity.name
      · -- the declaration joins the definitions of its name
        subst hname
        rw [if_pos rfl] at h
        cases hinsert : entry.insert d.condition d.entity with
        | error fault => rw [hinsert] at h; cases h
        | ok entry' =>
            rw [hinsert] at h
            cases h
            exact List.forall_mem_cons.2 ⟨hentries.1.insert hnan hinsert, hentries.2⟩
      · rw [if_neg hname] at h
        cases hinsert : insertEntry d rest with
        | error e => rw [hinsert] at h; cases h
        | ok rest' =>
            rw [hinsert] at h
            cases h
            exact List.forall_mem_cons.2 ⟨hentries.1, ih hinsert hentries.2⟩

/-- Declarations keep all entries consistent. -/
theorem insertAll_consistent (h : insertAll entries ds = .ok next)
    (hentries : ∀ e ∈ entries, e.2.Consistent e.1)
    (hnan : ∀ d ∈ ds, d.entity.hasNaN = false) : ∀ e ∈ next, e.2.Consistent e.1 := by
  induction ds generalizing entries with
  | nil =>
      cases h
      exact hentries
  | cons d ds ih =>
      rw [List.forall_mem_cons] at hnan
      rw [insertAll] at h
      cases hinsert : insertEntry d entries with
      | error e => rw [hinsert] at h; cases h
      | ok between =>
          rw [hinsert] at h
          exact ih h (insertEntry_consistent hinsert hentries hnan.1) hnan.2

/-- All entries of a table are consistent. -/
theorem consistent_of_build {env : Environment} {t : SymbolTable} (h : build env ds = .ok t)
    (hnan : ∀ d ∈ ds, d.entity.hasNaN = false) {name : String} {entry : Entry}
    (hentry : t.entry? name = some entry) : entry.Consistent name := by
  rw [build] at h
  cases hinsert : insertAll [] ds with
  | error e => rw [hinsert] at h; cases h
  | ok entries =>
      rw [hinsert] at h
      cases h
      obtain ⟨front, back, rfl, -⟩ := List.lookup_eq_some_iff.1 hentry
      have hmem : (name, entry) ∈ front ++ (name, entry) :: back :=
        List.mem_append_right _ List.mem_cons_self
      exact insertAll_consistent hinsert (by simp) hnan (name, entry) hmem

end SymbolTable

/-! ## What is visible together -/

/-- Pairwise agreeing definitions are the same in every environment in which they are visible. -/
theorem Guarded.same_of_visible {α : Type} {same : α → α → Bool} {definitions : List (Guarded α)}
    (h : definitions.Pairwise (Guarded.Agree same)) (hcomm : ∀ a b, same a b = same b a)
    (hself : ∀ d ∈ definitions, same d.value d.value = true) (env : Environment) :
    ∀ a ∈ definitions, ∀ b ∈ definitions, a.condition.eval env = true →
      b.condition.eval env = true → same a.value b.value = true := by
  have hsymm : Std.Symm fun a b : Guarded α => a.condition.eval env = true →
      b.condition.eval env = true → same a.value b.value = true :=
    ⟨fun a b hab hb ha => (hcomm b.value a.value).trans (hab ha hb)⟩
  -- definitions that are both visible overlap, so they can only agree by being the same
  have hvisible : definitions.Pairwise fun a b => a.condition.eval env = true →
      b.condition.eval env = true → same a.value b.value = true := by
    refine h.imp fun {a b} hagree ha hb => ?_
    rcases hagree with hsame | hoverlaps
    · exact hsame
    · rw [Condition.overlaps_of_eval ha hb] at hoverlaps
      cases hoverlaps
  intro a ha b hb
  exact hvisible.forall_of_forall (fun d hd _ _ => hself d hd) ha hb

/-- Visible ones among pairwise differing signatures have different parameter types. -/
theorem Signature.pairwise_visible {signatures : List Signature}
    (h : signatures.Pairwise Signature.Differ) (env : Environment) :
    (signatures.filter (·.condition.eval env)).Pairwise (·.parameterTypes ≠ ·.parameterTypes) := by
  rw [List.pairwise_filter]
  refine h.imp fun {s t} hdiffer hs ht => ?_
  rcases hdiffer with hne | hoverlaps
  · exact hne
  · rw [Condition.overlaps_of_eval hs ht] at hoverlaps
    cases hoverlaps

/-- The visible definitions of a consistent entry agree in every environment. -/
theorem Entry.Consistent.agreesIn {name : String} {entry : Entry} (h : entry.Consistent name)
    (env : Environment) : entry.AgreesIn env := by
  rcases entry with definitions | definitions | definitions | signatures
  · refine Guarded.same_of_visible h.2 Constant.sameDefinition_comm (fun d hd => ?_) env
    rw [Constant.sameDefinition_self, h.1 d hd, Bool.not_false]
  · exact Guarded.same_of_visible h Variable.sameDefinition_comm
      (fun d _ => d.value.sameDefinition_self) env
  · have hsame := Guarded.same_of_visible h (fun a b => by simp only [eq_comm])
      (fun d _ => decide_eq_true rfl) env
    intro a ha b hb hvisible hvisible'
    exact of_decide_eq_true (hsame a ha b hb hvisible hvisible')
  · exact Signature.pairwise_visible h.2 env

namespace SymbolTable

/-- In a table of constants that are numbers, the visible definitions of every name agree in every
environment; and a call with the parameter types of a signature that is visible in the table's own
environment goes to that signature. -/
theorem build_consistent {env : Environment} {ds : List Declaration} {t : SymbolTable}
    (h : build env ds = .ok t) (hnan : ∀ d ∈ ds, d.entity.hasNaN = false) :
    (∀ env' name entry, t.entry? name = some entry → entry.AgreesIn env') ∧
      ∀ name, ∀ s ∈ t.overloads name, t.resolveCall s.name s.parameterTypes = .ok s := by
  refine ⟨fun env' name entry hentry => (consistent_of_build h hnan hentry).agreesIn env', ?_⟩
  intro name s hs
  cases hentry : t.entry? name with
  | none =>
      rw [overloads, hentry] at hs
      cases hs
  | some entry =>
      have hconsistent := consistent_of_build h hnan hentry
      cases entry with
      | functions signatures =>
          rw [overloads, hentry] at hs
          obtain ⟨hnames, hdiffer⟩ := hconsistent
          -- a signature is stored under its own name
          obtain rfl := hnames s (List.mem_filter.1 hs).1
          rw [resolveCall, overloads, hentry]
          exact Overload.resolve_parameterTypes (Signature.pairwise_visible hdiffer t.env) hs s.name
      | _ =>
          rw [overloads, hentry] at hs
          cases hs

/-- A constant with a value for each of two stages, and two signatures one of which takes data both
ways. -/
theorem build_consistent_of_overloads :
    ∃ t, build default [
        { condition := .flag (.stage .vertex), line := 1,
          entity := .const ⟨"n", .scalar .int, ∅, .int 1, none⟩ },
        { condition := .flag (.stage .fragment), line := 3,
          entity := .const ⟨"n", .scalar .int, ∅, .int 2, none⟩ },
        { condition := .always, line := 5,
          entity := .function ⟨"f", .void, [⟨none, .scalar .float, ∅⟩], .always, none⟩ },
        { condition := .always, line := 6,
          entity := .function
            ⟨"f", .void, [⟨none, .scalar .int, .ofList [.inout]⟩], .always, none⟩ }] = .ok t ∧
      (∀ entry, t.entry? "n" = some entry → entry.AgreesIn default) ∧
      (t.overloads "f").length = 2 ∧
      ∀ s ∈ t.overloads "f", t.resolveCall s.name s.parameterTypes = .ok s := by
  refine Exists.imp (fun t h => ⟨h, ?_, ?_, ?_⟩) ⟨_, rfl⟩
  · exact (build_consistent h (by decide)).1 default "n"
  · cases h
    rfl
  · exact (build_consistent h (by decide)).2 "f"

end SymbolTable

end GlslPrelude
