import GlslPrelude.Proofs.Declaration.Failures
import GlslPrelude.Proofs.Fragment.Merging
import GlslPrelude.Proofs.Fragment.Selection
import GlslPrelude.SymbolTable.Source

/-!
# Array sizes that name earlier constants

Fragments are read in the order of their first lines, so a constant can size the arrays of all lines
whose fragments begin behind the constant's own fragment, or are that fragment. A later line can
belong to a fragment that begins before: then the constant is not known there.
-/

namespace GlslPrelude

namespace Text

variable {cs : List Char} {a b : Char}

/-- Two characters that stand side by side in a text stand side by side in one of its lines, unless
the first one is a newline. -/
theorem exists_line_of_isInfix (ha : a ≠ '\n') (h : [a, b] <:+: cs) :
    ∃ line ∈ lines cs, [a, b] <:+: line := by
  induction cs with
  | nil => simp at h
  | cons c cs ih =>
      change ∃ line ∈ consLine c (lines cs), [a, b] <:+: line
      rcases List.infix_cons_iff.1 h with h | h
      · -- the characters begin the text
        obtain ⟨rest, hrest⟩ := h
        obtain ⟨rfl, rfl⟩ := List.cons.inj hrest
        change ∃ line ∈ consLine a (consLine b (lines rest)), [a, b] <:+: line
        obtain ⟨first, more, hfirst⟩ :
            ∃ first more, consLine b (lines rest) = (b :: first) :: more := by
          cases lines rest with
          | nil => exact ⟨[], [], rfl⟩
          | cons line more =>
              rw [consLine]
              split
              · exact ⟨[], line :: more, rfl⟩
              · exact ⟨line, more, rfl⟩
        rw [hfirst, consLine, if_neg ha]
        exact ⟨_, List.mem_cons_self, (List.prefix_append [a, b] first).isInfix⟩
      · obtain ⟨line, hline, hpart⟩ := ih h
        cases hlines : lines cs with
        | nil =>
            rw [hlines] at hline
            contradiction
        | cons first more =>
            rw [hlines] at hline
            rw [consLine]
            split
            · exact ⟨line, List.mem_cons_of_mem _ hline, hpart⟩
            · rcases List.mem_cons.1 hline with rfl | hline
              · exact ⟨_, List.mem_cons_self, hpart.trans (List.suffix_cons c line).isInfix⟩
              · exact ⟨line, List.mem_cons_of_mem _ hline, hpart⟩

/-- A line of a text is part of the text. -/
theorem isInfix_of_mem_lines {line : List Char} (h : line ∈ lines cs) : line <:+: cs := by
  obtain ⟨front, back, hlines⟩ := List.append_of_mem h
  refine ⟨front.flatten, back.flatten, ?_⟩
  rw [← flatten_lines cs, hlines]
  simp

end Text

namespace Fragment

variable {text : List Char} {fragments : List Fragment} {f g : Fragment} {i j n : Nat}
  {line line' : List Char} {env : Environment}

/-- The fragments of a text without comments have no comments. -/
theorem withoutComments_of_mem_split (h : split text = .ok fragments)
    (hcomments : Text.WithoutComments text) (hf : f ∈ fragments) :
    Text.WithoutComments f.text := by
  have hpart : ∀ b, ['/', b] <:+: f.text → ['/', b] <:+: text := by
    intro b hb
    obtain ⟨line, hline, hpart⟩ := Text.exists_line_of_isInfix (by decide) hb
    obtain ⟨front, back, hlines⟩ := List.append_of_mem hline
    have hshows : f.Shows (f.line + front.length) line :=
      Text.mem_zipIdx_iff_exists_append.2 ⟨front, back, hlines, rfl⟩
    rcases (split_places_lines h).2.2 f hf _ line hshows with ⟨hisLine, -⟩ | hblank
    · exact hpart.trans (Text.isInfix_of_mem_lines (List.fst_mem_of_mem_zipIdx hisLine))
    · exact absurd (List.all_eq_true.1 hblank '/' (hpart.subset List.mem_cons_self)) (by decide)
  exact ⟨fun hf => hcomments.1 (hpart _ hf), fun hf => hcomments.2 (hpart _ hf)⟩

/-- A line does not join a fragment from before an earlier line under the same condition. -/
theorem line_le_of_conditionAt_eq (h : split text = .ok fragments) (hf : f ∈ fragments)
    (hg : g ∈ fragments) (hline : Text.IsLine text i line) (hcontent : isContent line = true)
    (hline' : Text.IsLine text j line') (hcontent' : isContent line' = true) (hij : i < j)
    (hshows : f.Shows i line) (hshows' : g.Shows j line')
    (hcond : conditionAt text i = conditionAt text j) : f.line ≤ g.line := by
  obtain ⟨s, hs⟩ := exists_stateAt h (i + 1)
  obtain ⟨s', hs'⟩ := exists_stateAt h (j + 1)
  obtain ⟨head, hhead, hp, hfirst⟩ := exists_head_of_isLine h hline hcontent hs
  obtain ⟨head', hhead', hp', hfirst'⟩ := exists_head_of_isLine h hline' hcontent' hs'
  have hle : i + 1 ≤ j + 1 := Nat.succ_le_succ (Nat.le_of_lt hij)
  have hlt : head.line < i + 1 := (ordered_stateAt hs).lt head hhead
  rw [(hfirst f hf).1 hshows, (hfirst' g hg).1 hshows']
  by_contra hnot
  -- the run of the later line would have been open at the earlier one, with the same condition
  have hlt' : head'.line < i + 1 := by omega
  have hmem := ((mem_heads_iff hs hle hs' hlt').1 hhead').1
  have hsame : head'.condition = head.condition :=
    Except.ok.inj (hp'.symm.trans (hcond.symm.trans hp))
  rw [(ordered_stateAt hs).eq_of_condition_eq hmem hhead hsame] at hnot
  exact hnot (Nat.le_refl _)

/-! ## Reading fragments in order -/

/-- No fragment is stuck at an array size that names a constant from before. -/
theorem parseAll_of_constant? {scope : Scope} {name : String} (hname : scope.constant? name ≠ none)
    {fs : List Fragment} {failed : ParseFailure} (h : parseAll scope fs = .error failed)
    (found : Option Lexeme) : failed.fault ≠ .stuck (.unknownSize name) found := by
  induction fs generalizing scope with
  | nil => cases h
  | cons f fs ih =>
      rw [parseAll] at h
      split at h
      · rename_i hparse
        cases h
        exact not_unknownSize_of_constant? hname hparse
      · rename_i hparse
        split at h
        · rename_i hmore
          cases h
          exact ih (constant?_of_parse hname hparse) hmore
        · cases h

/-- Fragments are read one after the other: if one of them leaves a constant in scope or fails at an
earlier line, and none before it fails at the given line, then reading does not fail there for want
of the constant. -/
theorem parseAll_of_mem {name : String} {fs : List Fragment} (hf : f ∈ fs)
    (hconstant : ∀ scope scope' result, parse scope f = (scope', result) →
      (∀ failed found, result = .error failed → i < failed.line →
        failed.fault ≠ .stuck (.unknownSize name) found) ∧
      ∀ declarations, result = .ok declarations → scope'.constant? name ≠ none)
    (hother : ∀ g ∈ fs, ∀ scope scope' failed cause found,
      parse scope g = (scope', .error failed) → failed.fault = .stuck cause found →
      failed.line = j → f.line ≤ g.line)
    (hlines : fs.Pairwise (·.line < ·.line)) (hij : i < j) {scope : Scope} {failed : ParseFailure}
    (h : parseAll scope fs = .error failed) (hline : failed.line = j) (found : Option Lexeme) :
    failed.fault ≠ .stuck (.unknownSize name) found := by
  induction fs generalizing scope with
  | nil => cases h
  | cons g fs ih =>
      rw [List.pairwise_cons] at hlines
      rw [parseAll] at h
      split at h
      · rename_i hparse
        cases h
        rcases List.mem_cons.1 hf with rfl | hf
        · exact (hconstant _ _ _ hparse).1 failed found rfl (hline ▸ hij)
        · -- a fragment that comes before the constant's one does not fail at the given line
          intro hfault
          have hle := hother g List.mem_cons_self _ _ _ _ _ hparse hfault hline
          exact absurd (hlines.1 f hf) (Nat.not_lt.2 hle)
      · rename_i declarations hparse
        split at h
        · rename_i hmore
          cases h
          rcases List.mem_cons.1 hf with rfl | hf
          · exact parseAll_of_constant? ((hconstant _ _ _ hparse).2 _ rfl) hmore found
          · exact ih hf (fun g hg => hother g (List.mem_cons_of_mem _ hg)) hlines.2 hmore
        · cases h

end Fragment

namespace SymbolTable

open Fragment (split conditionAt ActiveAt)
open Lexeme (IsName)
open Scanner (constantText)

/-- The text of a line that declares an input array. -/
def arrayText (name size : String) : String :=
  "in float " ++ name ++ "[" ++ size ++ "];"

/-- The line is the text, with a newline behind it unless the source ends there. -/
def IsExactly (line : List Char) (text : String) : Prop :=
  line = text.toList ∨ line = text.toList ++ ['\n']

instance (line : List Char) (text : String) : Decidable (IsExactly line text) :=
  inferInstanceAs (Decidable (_ ∨ _))

/-- Building the table of a source fails at a line, for an array size that names an unknown
constant. -/
def FailsAtSize (source : String) (env : Environment) (name : String) (line : Nat) : Prop :=
  ∃ failed found, ofSource source env = .error (.parse failed) ∧ failed.line = line ∧
    failed.fault = .stuck (.unknownSize name) found

variable {source : String} {env : Environment} {fragments : List Fragment} {f g : Fragment}
  {name array : String} {k i j : Nat} {line line' : List Char}

/-- A line that begins with a visible character other than `#` is content. -/
theorem isContent_cons {c : Char} {cs : List Char} (hblank : Text.isBlank c = false)
    (hhash : c ≠ '#') : Fragment.isContent (c :: cs) = true := by
  have htrim : Text.trimStart (c :: cs) = c :: cs := by
    rw [Text.trimStart, List.dropWhile_cons_of_neg (by simp [hblank])]
  have hbody : Directive.body? (c :: cs) = none := by
    unfold Directive.body?
    rw [htrim]
    split
    · rename_i heq
      exact absurd (List.cons.inj heq).1 hhash
    · rfl
  rw [Fragment.isContent, hbody, List.all_cons, hblank]
  rfl

/-- A line that is not the last one has its newline. -/
theorem eq_append_newline_of_isExactly {text : List Char} {s : String}
    (hline : Text.IsLine text i line) (hline' : Text.IsLine text j line') (hij : i < j)
    (hexact : IsExactly line s) (hs : '\n' ∉ s.toList) : line = s.toList ++ ['\n'] := by
  refine hexact.resolve_left ?_
  rintro rfl
  obtain ⟨front, back, hlines, hi⟩ := Text.mem_zipIdx_iff_exists_append.1 hline
  obtain ⟨front', back', hlines', hj⟩ := Text.mem_zipIdx_iff_exists_append.1 hline'
  -- the line stands in front of the later one, so it ends with a newline
  have hended := Text.AreLines.isEnded_of_append (hlines' ▸ Text.areLines_lines text)
  have hmem : s.toList ∈ front' := by
    have hlt : front.length < front'.length := by omega
    have hget : front'[front.length]? = some s.toList := by
      rw [← List.getElem?_append_left hlt, ← hlines', hlines]
      simp
    exact List.mem_of_getElem? hget
  obtain ⟨body, -, heq⟩ := hended _ hmem
  exact hs (by rw [heq]; simp)

/-- An array at a later line can be sized by a constant: if the fragment of the constant's line does
not begin behind that of the array's line, as it never does when the same condition is in effect at
both lines, then building the table does not fail at the array's line for want of the constant. -/
theorem not_failsAtSize (h : split source.toList = .ok fragments)
    (hcomments : Text.WithoutComments source.toList) (hname : IsName name)
    (hk : 1 ≤ k ∧ k < 2 ^ 32) (hij : i < j)
    (hline : Text.IsLine source.toList i line) (hconstant : IsExactly line (constantText name k))
    (hline' : Text.IsLine source.toList j line') (harray : IsExactly line' (arrayText array name))
    (hactive : ActiveAt source.toList env i) (hf : f ∈ fragments) (hshows : f.Shows i line)
    (hg : g ∈ fragments) (hshows' : g.Shows j line') :
    (conditionAt source.toList i = conditionAt source.toList j → f.line ≤ g.line) ∧
      (f.line ≤ g.line → ¬FailsAtSize source env name j) := by
  have hcontent : Fragment.isContent line = true := by
    rcases hconstant with rfl | rfl <;> rw [constantText] <;>
      simp only [String.toList_append] <;> exact isContent_cons (c := 'c') (by decide) (by decide)
  have hcontent' : Fragment.isContent line' = true := by
    rcases harray with rfl | rfl <;> rw [arrayText] <;>
      simp only [String.toList_append] <;> exact isContent_cons (c := 'i') (by decide) (by decide)
  refine ⟨Fragment.line_le_of_conditionAt_eq h hf hg hline hcontent hline' hcontent' hij hshows
    hshows', ?_⟩
  rintro hle ⟨failed, found, hbuild, hfailed, hfault⟩
  -- a fault in an array size is one of reading the active fragments, and `f` is one of these
  have hparse : Fragment.parseAll .empty (fragments.filter (·.isActive env)) = .error failed := by
    rw [ofSource, Fragment.evaluate, h] at hbuild
    change ofFragments env (fragments.filter (·.isActive env)) = _ at hbuild
    unfold ofFragments at hbuild
    split at hbuild
    · rename_i hparse
      rw [hparse, BuildError.parse.inj (Except.error.inj hbuild)]
    · rename_i declarations _
      cases hbuilt : build env declarations <;> rw [hbuilt] at hbuild <;> cases hbuild
  have hmem : f ∈ fragments.filter (·.isActive env) := by
    obtain ⟨p, hp, heval⟩ := hactive
    have hcond := Fragment.conditionAt_of_shows h hf hshows
      (Fragment.not_all_isBlank_of_isContent hcontent)
    rw [List.mem_filter, Fragment.isActive, ← Except.ok.inj (hp.symm.trans hcond)]
    exact ⟨hf, heval⟩
  obtain rfl := eq_append_newline_of_isExactly hline hline' hij hconstant
    (Scanner.newline_not_mem_constantText hname k)
  refine Fragment.parseAll_of_mem hmem ?_ ?_ ((Fragment.pairwise_line_lt h).filter _) hij hparse
    hfailed found hfault
  · intro scope scope' result hread
    exact Fragment.parse_of_shows_constantText hname hk.2
      (Fragment.withoutComments_of_mem_split h hcomments hf) hshows hread
  · -- only the fragment that shows the later line can fail there
    intro f' hf' scope scope' failed' cause found' hread hstuck hat
    obtain ⟨shown, hshown, hvisible⟩ := Fragment.exists_shows_of_stuck hread hstuck
    rw [hat] at hshown
    rw [Fragment.eq_of_shows h (List.mem_filter.1 hf').1 hg hshown hshows' hvisible
      (Fragment.not_all_isBlank_of_isContent hcontent')]
    exact hle

/-- An array inside a block can be sized by a constant in front of the block, whose fragment begins
before that of the block. -/
theorem not_failsAtSize_inside_block :
    ¬FailsAtSize
      "const int n = 3;\n#ifdef __GLSLD_TARGET_API_VULKAN\nin float x[n];\n#endif\n"
      { api := .vulkan, stage := .vertex, features := ∅ } "n" 3 := by
  have hsplit : split
      "const int n = 3;\n#ifdef __GLSLD_TARGET_API_VULKAN\nin float x[n];\n#endif\n".toList =
      .ok [{ condition := .always, line := 1, lines := ["const int n = 3;\n".toList] },
        { condition := .flag (.api .vulkan), line := 3
          lines := ["in float x[n];\n".toList] }] :=
    Fragment.split_eq_of_perm_pieces (by with_unfolding_all exact rfl) (by rfl)
      (by with_unfolding_all decide) (by decide)
  have hname : IsName "n" := ⟨'n', [], rfl, rfl, rfl⟩
  have hactive : ActiveAt
      "const int n = 3;\n#ifdef __GLSLD_TARGET_API_VULKAN\nin float x[n];\n#endif\n".toList
      { api := .vulkan, stage := .vertex, features := ∅ } 1 := ⟨.always, rfl, by decide⟩
  have hconstant : IsExactly "const int n = 3;\n".toList (constantText "n" 3) := by decide
  have harray : IsExactly "in float x[n];\n".toList (arrayText "x" "n") := by decide
  exact (not_failsAtSize hsplit (by decide +kernel) hname (by decide) (by decide) (by decide)
    hconstant (by decide) harray hactive List.mem_cons_self (by decide)
    (List.mem_cons_of_mem _ List.mem_cons_self) (by decide)).2 (by decide)

/-- The fragment of the lines outside of every block is read before that of a block between them,
so the constant of the block is missing for an array behind the block. -/
theorem failsAtSize_behind_block :
    FailsAtSize
      "void f();\n#ifdef __GLSLD_TARGET_API_VULKAN\nconst int n = 3;\n#endif\nin float x[n];\n"
      { api := .vulkan, stage := .vertex, features := ∅ } "n" 5 := by
  let outer : Fragment := {
    condition := .always, line := 1
    lines := ["void f();\n".toList, ['\n'], ['\n'], ['\n'], "in float x[n];\n".toList] }
  have hsplit : split (String.toList
      "void f();\n#ifdef __GLSLD_TARGET_API_VULKAN\nconst int n = 3;\n#endif\nin float x[n];\n") =
      .ok [outer,
        { condition := .flag (.api .vulkan), line := 3
          lines := ["const int n = 3;\n".toList] }] :=
    Fragment.split_eq_of_perm_pieces (by with_unfolding_all exact rfl) (by rfl)
      (by with_unfolding_all decide) (by decide)
  let first : List Token := [⟨.word "void", 1⟩, ⟨.word "f", 1⟩, ⟨.punct .leftParen, 1⟩,
    ⟨.punct .rightParen, 1⟩, ⟨.punct .semicolon, 1⟩]
  let last : List Token := [⟨.word "in", 5⟩, ⟨.word "float", 5⟩, ⟨.word "x", 5⟩,
    ⟨.punct .leftBracket, 5⟩, ⟨.word "n", 5⟩, ⟨.punct .rightBracket, 5⟩, ⟨.punct .semicolon, 5⟩]
  have htokens : Token.tokenize outer.text = .ok (first ++ last) := by with_unfolding_all exact rfl
  let f : Signature :=
    { name := "f", returnType := .void, parameters := [], condition := .always, doc := none }
  let stuck : Stuck :=
    { cause := .unknownSize "n", rest := (last.drop 5).map Documented.ofToken }
  -- the prototype is read, then the reader gets stuck at the size
  have hfirst : Input.readDeclaration .empty .always none ((first ++ last).map Documented.ofToken) =
      ([.function f], .ok (last.map Documented.ofToken)) := by
    rfl
  have hlast : Input.readDeclaration .empty .always none (last.map Documented.ofToken) =
      ([], .error stuck) := by
    with_unfolding_all exact rfl
  have hread : Input.readDeclarations .always 1 .empty [] (Input.ofTokens (first ++ last)) =
      { reversed := [{ condition := .always, line := 1, entity := .function f }]
        scope := .empty
        stuck? := some stuck } := by
    change Input.readDeclarations .always 1 .empty []
      (.ofToken ⟨.word "void", 1⟩ :: ((first ++ last).drop 1).map Documented.ofToken) = _
    rw [Input.readDeclarations_of_ok hfirst]
    change Input.readDeclarations .always 1 .empty _
      (.ofToken ⟨.word "in", 5⟩ :: (last.drop 1).map Documented.ofToken) = _
    rw [Input.readDeclarations_of_error hlast]
    rfl
  let failed : ParseFailure := {
    line := 5, text := "in float x[n];"
    fault := .stuck (.unknownSize "n") (some (.punct .rightBracket)) }
  have hparse : Fragment.parse .empty outer = (.empty, .error failed) := by
    rw [Fragment.parse, htokens]
    dsimp only
    rw [show outer.condition = .always from rfl, show outer.line = 1 from rfl, hread]
    rfl
  refine ⟨failed, _, ?_, rfl, rfl⟩
  rw [ofSource, Fragment.evaluate, hsplit]
  change ofFragments _ [outer, _] = _
  rw [ofFragments, Fragment.parseAll, hparse]

/-- It is not enough for a constant to stand on an earlier active line than the array that it sizes.
-/
theorem not_forall_not_failsAtSize :
    ¬∀ (source : String) (env : Environment) (fragments : List Fragment) (name array : String)
      (k i j : Nat) (line line' : List Char), split source.toList = .ok fragments →
      Text.WithoutComments source.toList → IsName name → IsName array → 1 ≤ k ∧ k < 2 ^ 32 → i < j →
      Text.IsLine source.toList i line → IsExactly line (constantText name k) →
      Text.IsLine source.toList j line' → IsExactly line' (arrayText array name) →
      ActiveAt source.toList env i → ActiveAt source.toList env j →
      ¬FailsAtSize source env name j := by
  intro h
  have hsplit : ∃ fragments, split (String.toList
      "void f();\n#ifdef __GLSLD_TARGET_API_VULKAN\nconst int n = 3;\n#endif\nin float x[n];\n") =
      .ok fragments := ⟨_, rfl⟩
  obtain ⟨fragments, hsplit⟩ := hsplit
  exact h _ _ fragments "n" "x" 3 3 5 "const int n = 3;\n".toList "in float x[n];\n".toList hsplit
    (by decide +kernel) ⟨'n', [], rfl, rfl, rfl⟩ ⟨'x', [], rfl, rfl, rfl⟩ (by decide) (by decide)
    (by decide) (by decide) (by decide) (by decide) ⟨.flag (.api .vulkan), rfl, by decide⟩
    ⟨.always, rfl, by decide⟩ failsAtSize_behind_block

end SymbolTable

end GlslPrelude
