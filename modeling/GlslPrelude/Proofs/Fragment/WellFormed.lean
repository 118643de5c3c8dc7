import GlslPrelude.Proofs.Condition.RoundTrip
import GlslPrelude.Proofs.Fragment.Blocks
import GlslPrelude.Proofs.Fragment.DirectiveGrammar

/-!
# Texts whose directives are well formed

A text has fragments exactly if each of its directives can be read on its own (`IsLegible`) and
their names are derivable; otherwise the error is reported where the directives first break these
rules, or for the innermost chain that is never closed (`split_accepts_wellFormed`). The blocks that
are open at a line are the chains that are open behind the directives in front of it (`Reaches`).
-/

namespace GlslPrelude

namespace DirectiveLine

/-! ## The directives of a text -/

/-- The directive that a line holds. -/
def ofText? (text : List Char) (line : Nat) : Option DirectiveLine :=
  (Directive.body? text).map fun body =>
    let content := Text.trimStart (Text.trimEnd body)
    { name := String.ofList (content.takeWhile Condition.continuesWord)
      operand := content.dropWhile Condition.continuesWord
      line }

/-- A line that holds a directive has it behind a `#`. -/
theorem exists_body_of_ofText? {text : List Char} {n : Nat} {d : DirectiveLine}
    (h : ofText? text n = some d) : ∃ body, Directive.body? text = some body ∧ d.line = n := by
  obtain ⟨body, hbody, rfl⟩ := Option.map_eq_some_iff.1 h
  exact ⟨body, hbody, rfl⟩

/-- The directives among lines that are numbered from a given number on. -/
def ofLines (line : Nat) (ls : List (List Char)) : List DirectiveLine :=
  (ls.zipIdx line).filterMap fun (text, n) => ofText? text n

/-- The directive has one of six names, and what it needs follows the name. -/
inductive IsLegible (d : DirectiveLine) : Prop
  /-- A condition, that can be read. -/
  | condition {p : Condition} : d.name = "if" ∨ d.name = "elif" →
      Condition.parse (String.ofList d.operand) = .ok p → IsLegible d
  /-- A macro name, perhaps between blanks. -/
  | flag (f : Flag) : d.name = "ifdef" ∨ d.name = "ifndef" →
      String.ofList (Text.trim d.operand) = f.macroName → IsLegible d
  /-- Nothing. -/
  | bare : d.name = "else" ∨ d.name = "endif" → IsLegible d

/-- The directives break no rule: each of them can be read, and a derivable sequence begins with
their names. -/
def ObeyRules (ds : List DirectiveLine) : Prop :=
  (∀ d ∈ ds, d.IsLegible) ∧ ∃ more, Derives .body (names ds ++ more)

/-- The directive in line `n` is the first one that breaks the rules. -/
def IsFirstBreak (ds : List DirectiveLine) (n : Nat) : Prop :=
  ∃ front d back, ds = front ++ d :: back ∧ d.line = n ∧ ObeyRules front ∧
    ¬ObeyRules (front ++ [d])

/-- The directives break no rule and leave open the given chains. -/
def Reaches (ds : List DirectiveLine) (opened : List OpenChain) : Prop :=
  (∀ d ∈ ds, d.IsLegible) ∧ followAll? [] ds = some opened

section Reaches

variable {ds front back : List DirectiveLine} {d : DirectiveLine} {opened opened' : List OpenChain}

/-- Directives break no rule exactly if some chains are those that they leave open. -/
theorem obeyRules_iff : ObeyRules ds ↔ ∃ opened, Reaches ds opened := by
  rw [ObeyRules, ← exists_followAll?_iff]
  exact exists_and_left.symm

/-- Directives leave no chain open exactly if their names are derivable. -/
theorem reaches_nil_iff :
    Reaches ds [] ↔ (∀ d ∈ ds, d.IsLegible) ∧ Derives .body (names ds) := by
  rw [Reaches, followAll?_eq_some_iff]
  rfl

/-- Directives leave open one list of chains only. -/
theorem Reaches.unique (h : Reaches ds opened) (h' : Reaches ds opened') : opened = opened' :=
  Option.some.inj (h.2.symm.trans h'.2)

/-- One more directive has to be readable and to stand in the right place. -/
theorem reaches_concat_iff (h : Reaches ds opened) :
    Reaches (ds ++ [d]) opened' ↔ d.IsLegible ∧ follow? opened d = some opened' := by
  have hfollow : followAll? [] (ds ++ [d]) = follow? opened d := by
    rw [followAll?_append, h.2, Option.bind_some, followAll?_cons]
    exact Option.bind_fun_some (follow? opened d)
  rw [Reaches, hfollow, List.forall_mem_append, List.forall_mem_singleton]
  exact and_congr_left' (and_iff_right h.1)

/-- What begins with a break of the rules breaks them. -/
theorem ObeyRules.of_append (h : ObeyRules (front ++ back)) : ObeyRules front := by
  obtain ⟨hlegible, more, hmore⟩ := h
  rw [names, List.map_append, List.append_assoc] at hmore
  exact ⟨(List.forall_mem_append.1 hlegible).1, names back ++ more, hmore⟩

/-- Directives among which one breaks the rules do not obey them. -/
theorem IsFirstBreak.not_obeyRules {n : Nat} (h : IsFirstBreak ds n) : ¬ObeyRules ds := by
  obtain ⟨front, d, back, rfl, -, -, hnot⟩ := h
  intro hobey
  rw [List.append_cons] at hobey
  exact hnot hobey.of_append

end Reaches

end DirectiveLine

open DirectiveLine

/-! ## Reading a directive -/

/-- The directive has the given name. -/
def Directive.IsNamed (name : String) : Directive → Prop
  | .opening _ => IsOpening name
  | .alternative _ => name = "elif"
  | .otherwise => name = "else"
  | .closing => name = "endif"

/-- What is put around a condition that is read keeps whether it is read. -/
theorem Directive.cases_of_map {reading : Except DirectiveFault Condition}
    {f : Condition → Directive} {name : String} {d : DirectiveLine}
    (hlegible : d.IsLegible ↔ ∃ p, reading = .ok p) (hne : reading ≠ .error .unterminated)
    (hnamed : ∀ p, (f p).IsNamed name) :
    (d.IsLegible ∧ ∃ directive, reading.map f = .ok directive ∧ directive.IsNamed name) ∨
      ¬d.IsLegible ∧ ∃ fault, reading.map f = .error fault ∧ fault ≠ .unterminated := by
  cases reading with
  | ok p => exact .inl ⟨hlegible.2 ⟨p, rfl⟩, f p, rfl, hnamed p⟩
  | error fault =>
      refine .inr ⟨fun h => ?_, fault, rfl, fun h => hne (congrArg Except.error h)⟩
      obtain ⟨p, hp⟩ := hlegible.1 h
      cases hp

/-- A condition that cannot be read is no chain that is never closed. -/
theorem Directive.readCondition_ne (text : List Char) :
    readCondition text ≠ .error .unterminated := by
  rw [readCondition]
  cases Condition.parse (String.ofList text) <;> simp [Except.mapError]

/-- A macro name that cannot be read is no chain that is never closed. -/
theorem Directive.readMacro_ne (text : List Char) : readMacro text ≠ .error .unterminated := by
  rw [readMacro]
  split <;> simp

/-- The condition behind `#if` or `#elif` is read if it is one. -/
theorem Directive.isLegible_iff_readCondition {d : DirectiveLine}
    (hname : d.name = "if" ∨ d.name = "elif") :
    d.IsLegible ↔ ∃ p, readCondition d.operand = .ok p := by
  rw [readCondition]
  constructor
  · rintro (⟨-, hparse⟩ | ⟨f, hother, -⟩ | hother)
    · rw [hparse]
      exact ⟨_, rfl⟩
    -- the other directives have other names
    · rcases hname with hname | hname <;> simp [hname] at hother
    · rcases hname with hname | hname <;> simp [hname] at hother
  · rintro ⟨p, hp⟩
    cases hparse : Condition.parse (String.ofList d.operand) with
    | ok q => exact .condition hname hparse
    | error e => rw [hparse] at hp; cases hp

/-- The operand of `#ifdef` or `#ifndef` is read if it is a macro name. -/
theorem Directive.isLegible_iff_readMacro {d : DirectiveLine}
    (hname : d.name = "ifdef" ∨ d.name = "ifndef") :
    d.IsLegible ↔ ∃ p, readMacro d.operand = .ok p := by
  rw [readMacro]
  constructor
  · rintro (⟨hother, -⟩ | ⟨f, -, hflag⟩ | hother)
    · rcases hname with hname | hname <;> simp [hname] at hother
    · rw [hflag, Flag.ofMacroName?_macroName]
      exact ⟨_, rfl⟩
    · rcases hname with hname | hname <;> simp [hname] at hother
  · rintro ⟨p, hp⟩
    split at hp <;> cases hp
    rename_i f hflag
    exact .flag f hname (Flag.ofMacroName?_eq_some_iff.1 hflag)

/-- A directive is read if it is legible, and if it is not, the fault is not that of a chain that is
never closed. -/
theorem Directive.cases_of_read {text body : List Char} {d : DirectiveLine} {n : Nat}
    (hbody : body? text = some body) (hd : ofText? text n = some d) :
    (d.IsLegible ∧ ∃ directive, read body = .ok directive ∧ directive.IsNamed d.name) ∨
      ¬d.IsLegible ∧ ∃ fault, read body = .error fault ∧ fault ≠ .unterminated := by
  rw [ofText?, hbody] at hd
  cases hd
  rw [read]
  -- the six names in the order of the reader, and every other name
  split
  · rename_i hname
    exact cases_of_map (isLegible_iff_readCondition (.inl hname)) (readCondition_ne _)
      fun _ => .inl hname
  · rename_i hname
    exact cases_of_map (isLegible_iff_readMacro (.inl hname)) (readMacro_ne _)
      fun _ => .inr (.inl hname)
  · rename_i hname
    exact cases_of_map (isLegible_iff_readMacro (.inr hname)) (readMacro_ne _)
      fun _ => .inr (.inr hname)
  · rename_i hname
    exact cases_of_map (isLegible_iff_readCondition (.inr hname)) (readCondition_ne _)
      fun _ => hname
  · rename_i hname
    exact .inl ⟨.bare (.inl hname), .otherwise, rfl, hname⟩
  · rename_i hname
    exact .inl ⟨.bare (.inr hname), .closing, rfl, hname⟩
  · rename_i hother
    refine .inr ⟨?_, _, rfl, by simp⟩
    rintro (⟨hname | hname, -⟩ | ⟨-, hname | hname, -⟩ | hname | hname) <;> simp_all

namespace Blocks

/-! ## Reading a text -/

/-- The chains that the blocks belong to. -/
def opened (blocks : Blocks) : List OpenChain :=
  blocks.map fun branch => { hasElse := branch.isLast, line := branch.line }

section Reads

variable {blocks : Blocks} {ds : List DirectiveLine} {d : DirectiveLine} {text : List Char}
  {n : Nat}

/-- A directive can stand behind others exactly if it does not fail behind their blocks, and then it
leaves open the blocks of its chains. -/
theorem toOption_step {directive : Directive} (h : directive.IsNamed d.name) :
    (blocks.step d.line directive).toOption.map opened = follow? blocks.opened d := by
  cases directive with
  | opening p =>
      rw [follow?_of_isOpening h]
      rfl
  | alternative p =>
      have hname : d.name = "elif" := h
      cases blocks with
      | nil => simp [step, opened, follow?, IsOpening, hname, Except.toOption]
      | cons branch rest =>
          rw [step]
          cases hlast : branch.isLast <;>
            simp [opened, follow?, IsOpening, hname, hlast, Branch.next, Except.toOption]
  | otherwise =>
      have hname : d.name = "else" := h
      cases blocks with
      | nil => simp [step, opened, follow?, IsOpening, hname, Except.toOption]
      | cons branch rest =>
          rw [step]
          cases hlast : branch.isLast <;>
            simp [opened, follow?, IsOpening, hname, hlast, Branch.final, Except.toOption]
  | closing =>
      have hname : d.name = "endif" := h
      cases blocks with
      | nil => simp [step, opened, follow?, IsOpening, hname, Except.toOption]
      | cons branch rest => exact (follow?_of_endif hname).symm

/-- No directive fails as a chain that is never closed. -/
theorem step_ne_unterminated (directive : Directive) :
    blocks.step n directive ≠ .error .unterminated := by
  fun_cases step blocks n directive <;> simp

/-- Behind directives that break no rule, another one is read exactly if it breaks none. -/
theorem reaches_of_readLine (h : Reaches ds blocks.opened) (hd : ofText? text n = some d) :
    (∃ blocks', blocks.readLine n text = .ok blocks' ∧ Reaches (ds ++ [d]) blocks'.opened) ∨
      ∃ fault, blocks.readLine n text = .error fault ∧ fault ≠ .unterminated ∧
        ¬ObeyRules (ds ++ [d]) := by
  obtain ⟨body, hbody, hline⟩ := exists_body_of_ofText? hd
  obtain ⟨hlegible, directive, hread, hnamed⟩ | ⟨hnot, fault, hread, hne⟩ :=
    Directive.cases_of_read hbody hd
  · have hstep : (blocks.step d.line directive).toOption.map opened = follow? blocks.opened d :=
      toOption_step hnamed
    rw [hline] at hstep
    have hdirective : blocks.readLine n text = blocks.step n directive := by
      rw [readLine, hbody]
      dsimp only
      rw [hread]
      rfl
    rw [hdirective]
    cases hresult : blocks.step n directive with
    | ok blocks' =>
        rw [hresult] at hstep
        exact .inl ⟨blocks', rfl, (reaches_concat_iff h).2 ⟨hlegible, hstep.symm⟩⟩
    | error fault =>
        rw [hresult] at hstep
        refine .inr ⟨fault, rfl, ?_, fun hobey => ?_⟩
        · rintro rfl
          exact step_ne_unterminated directive hresult
        · -- it would leave some chains open
          obtain ⟨opened', hreaches⟩ := obeyRules_iff.1 hobey
          have hfollow := ((reaches_concat_iff h).1 hreaches).2
          rw [← hstep] at hfollow
          cases hfollow
  · have hfault : blocks.readLine n text = .error fault := by
      rw [readLine, hbody]
      dsimp only
      rw [hread]
      rfl
    refine .inr ⟨fault, hfault, hne, fun hobey => hnot (hobey.1 d ?_)⟩
    exact List.mem_append_right ds (List.mem_singleton_self d)

/-- Lines are read as long as their directives break no rule, and the error is that of the first one
that does. -/
theorem reaches_of_readLines (h : Reaches ds blocks.opened) (ls : List (List Char)) :
    (∃ blocks', blocks.readLines n ls = .ok blocks' ∧ Reaches (ds ++ ofLines n ls) blocks'.opened) ∨
      ∃ e, blocks.readLines n ls = .error e ∧ e.fault ≠ .unterminated ∧
        ∃ front d back, ofLines n ls = front ++ d :: back ∧ d.line = e.line ∧
          ObeyRules (ds ++ front) ∧ ¬ObeyRules (ds ++ front ++ [d]) := by
  induction ls generalizing blocks ds n with
  | nil => exact .inl ⟨blocks, rfl, by simpa [ofLines] using h⟩
  | cons text ls ih =>
      rw [readLines]
      cases hd : ofText? text n with
      | none =>
          -- the line holds no directive
          have hbody : Directive.body? text = none := Option.map_eq_none_iff.1 hd
          rw [readLine_of_body?_eq_none hbody]
          have hlines : ofLines n (text :: ls) = ofLines (n + 1) ls := by
            simp [ofLines, hd]
          rw [hlines]
          exact ih h
      | some d =>
          have hlines : ofLines n (text :: ls) = d :: ofLines (n + 1) ls := by
            simp [ofLines, hd]
          rw [hlines]
          obtain ⟨blocks', hread, hreaches⟩ | ⟨fault, hread, hne, hnot⟩ := reaches_of_readLine h hd
          · rw [hread]
            dsimp only
            obtain ⟨final, hfinal, hall⟩ |
              ⟨e, he, hne, front, d', back, hrest, hline, hobey, hnot⟩ := ih hreaches (n := n + 1)
            · rw [List.append_assoc] at hall
              exact .inl ⟨final, hfinal, hall⟩
            · -- the first break behind the line is the first one of all
              refine .inr ⟨e, he, hne, d :: front, d', back, ?_, hline, ?_, ?_⟩
              · rw [hrest, List.cons_append]
              · rwa [List.append_assoc] at hobey
              · rwa [List.append_assoc ds [d] front] at hnot
          · -- the line itself breaks the rules
            rw [hread]
            obtain ⟨body, -, hline⟩ := exists_body_of_ofText? hd
            refine .inr ⟨_, rfl, hne, [], d, _, rfl, hline, ?_, ?_⟩
            · rw [List.append_nil]
              exact obeyRules_iff.2 ⟨_, h⟩
            · rwa [List.append_nil]

end Reads

end Blocks

namespace Fragment

/-- The directives of a text. -/
def directives (text : List Char) : List DirectiveLine :=
  ofLines 1 (Text.lines text)

/-- The outcomes of splitting a text: there are fragments and no chain is left open, the innermost
of those that are left open is reported, or the first directive that breaks the rules is. -/
theorem outcomes_of_split (text : List Char) :
    (∃ fragments, split text = .ok fragments ∧ Reaches (directives text) []) ∨
      (∃ chain outer, split text = .error { line := chain.line, fault := .unterminated } ∧
        Reaches (directives text) (chain :: outer)) ∨
      ∃ e, split text = .error e ∧ e.fault ≠ .unterminated ∧
        IsFirstBreak (directives text) e.line := by
  have hblocks := Splitter.run_blocks Splitter.init 1 (Text.lines text)
  have hstart : Reaches [] (Blocks.opened []) := ⟨List.forall_mem_nil _, rfl⟩
  rw [split]
  obtain ⟨blocks, hread, hreaches⟩ | ⟨e, hread, hne, front, d, back, hds, hline, hobey, hnot⟩ :=
    Blocks.reaches_of_readLines (n := 1) hstart (Text.lines text)
  · rw [show Splitter.init.blocks = [] from rfl, hread] at hblocks
    -- the splitter has read all lines and has these blocks
    cases hrun : Splitter.init.run 1 (Text.lines text) with
    | error e => rw [hrun] at hblocks; cases hblocks
    | ok s =>
        rw [hrun] at hblocks
        cases hblocks
        dsimp only
        cases hopen : s.blocks with
        | nil =>
            rw [hopen] at hreaches
            exact .inl ⟨s.fragments, rfl, hreaches⟩
        | cons branch outer =>
            rw [hopen] at hreaches
            exact .inr (.inl ⟨_, _, rfl, hreaches⟩)
  · rw [show Splitter.init.blocks = [] from rfl, hread] at hblocks
    -- the splitter has failed with the same error
    cases hrun : Splitter.init.run 1 (Text.lines text) with
    | error e' =>
        rw [hrun] at hblocks
        cases hblocks
        exact .inr (.inr ⟨e, rfl, hne, front, d, back, hds, hline, hobey, hnot⟩)
    | ok s => rw [hrun] at hblocks; cases hblocks

/-- A text has fragments exactly if each of its directives can be read and their names are
derivable. If it has none, the error stands at the first directive that breaks these rules; or no
directive breaks them, and the error stands where the innermost chain opens that is open at the end.
-/
theorem split_accepts_wellFormed (text : List Char) :
    ((∃ fragments, split text = .ok fragments) ↔
      (∀ d ∈ directives text, d.IsLegible) ∧ Derives .body (names (directives text))) ∧
    ∀ e, split text = .error e →
      (e.fault ≠ .unterminated ∧ IsFirstBreak (directives text) e.line) ∨
      (e.fault = .unterminated ∧ ObeyRules (directives text) ∧
        ∀ n, IsInnermostOpen (directives text) n ↔ n = e.line) := by
  rw [← reaches_nil_iff]
  obtain ⟨fragments, hsplit, hreaches⟩ | ⟨chain, outer, hsplit, hreaches⟩ |
    ⟨e, hsplit, hne, hbreak⟩ := outcomes_of_split text
  · refine ⟨⟨fun _ => hreaches, fun _ => ⟨fragments, hsplit⟩⟩, fun e he => ?_⟩
    rw [hsplit] at he
    cases he
  · refine ⟨⟨fun ⟨fragments, hok⟩ => ?_, fun hclosed => ?_⟩, fun e he => .inr ?_⟩
    · rw [hsplit] at hok
      cases hok
    · cases hreaches.unique hclosed
    · rw [hsplit] at he
      cases he
      exact ⟨rfl, obeyRules_iff.2 ⟨_, hreaches⟩, fun n => isInnermostOpen_iff hreaches.2⟩
  · refine ⟨⟨fun ⟨fragments, hok⟩ => ?_, fun hclosed => ?_⟩, fun e' he => .inl ?_⟩
    · rw [hsplit] at hok
      cases hok
    · exact absurd (obeyRules_iff.2 ⟨_, hclosed⟩) hbreak.not_obeyRules
    · rw [hsplit] at he
      cases he
      exact ⟨hne, hbreak⟩

end Fragment

end GlslPrelude
