import GlslPrelude.Proofs.Fragment.Runs
import GlslPrelude.Proofs.Fragment.Selection

/-!
# Text that is not active

Of a line whose condition does not hold, the splitter uses only that it is content. To mask a state
is to forget the lines of all runs and fragments that are not active; reading goes on alike from a
state and from the masked one, also if another content line is read where the condition does not
hold (`mask_step`). So texts that differ only in such lines have the same active fragments
(`evaluate_eq_of_alikeIn`).
-/

namespace GlslPrelude

variable {env : Environment}

/-- Results that are mapped to the same are the same errors, or values that are mapped to the same.
-/
theorem exists_of_map_eq {α β ε : Type} {f : α → β} {x y : Except ε α} (h : x.map f = y.map f) :
    (∃ e, x = .error e ∧ y = .error e) ∨ ∃ a b, x = .ok a ∧ y = .ok b ∧ f a = f b := by
  cases x with
  | error e =>
      cases y with
      | error e' =>
          cases h
          exact .inl ⟨e, rfl, rfl⟩
      | ok b => cases h
  | ok a =>
      cases y with
      | error e' => cases h
      | ok b => exact .inr ⟨a, b, rfl, rfl, Except.ok.inj h⟩

namespace Fragment

/-- The fragment without its lines, if it is not active. -/
def mask (env : Environment) (fragment : Fragment) : Fragment :=
  { fragment with lines := if fragment.isActive env then fragment.lines else [] }

theorem mask_of_isActive {fragment : Fragment} (h : fragment.isActive env = true) :
    fragment.mask env = fragment := by
  rw [mask, if_pos h]

/-- Masking twice is masking once. -/
@[simp]
theorem mask_mask (env : Environment) (fragment : Fragment) :
    (fragment.mask env).mask env = fragment.mask env := by
  cases h : fragment.isActive env with
  | true => rw [mask_of_isActive h, mask_of_isActive h]
  | false => simp [mask, h]

@[simp]
theorem mask_comp_mask (env : Environment) : mask env ∘ mask env = mask env :=
  funext (mask_mask env)

/-- Masking leaves active fragments as they are, and the others inactive. -/
theorem filter_isActive_map_mask (fragments : List Fragment) :
    (fragments.map (mask env)).filter (·.isActive env) = fragments.filter (·.isActive env) := by
  rw [List.filter_map]
  refine (List.map_congr_left fun fragment hfragment => ?_).trans (List.map_id _)
  exact mask_of_isActive (List.mem_filter.1 hfragment).2

end Fragment

namespace Run

/-- The run without its lines, if it is not active. -/
def mask (env : Environment) (run : Run) : Run :=
  { run with reversed := if run.condition.eval env then run.reversed else [] }

/-- Masking twice is masking once. -/
@[simp]
theorem mask_mask (env : Environment) (run : Run) : (run.mask env).mask env = run.mask env := by
  cases h : run.condition.eval env <;> simp [mask, h]

@[simp]
theorem mask_comp_mask (env : Environment) : mask env ∘ mask env = mask env :=
  funext (mask_mask env)

variable {text text' : List Char}

/-- A run that is not active can take another line instead. -/
theorem mask_extend {run : Run} (h : text = text' ∨ run.condition.eval env = false) (line : Nat) :
    ((run.mask env).extend line text').mask env = (run.extend line text).mask env := by
  rcases h with rfl | h
  · cases h : run.condition.eval env <;> simp [mask, extend, h]
  · simp [mask, extend, h]

/-- A run that is not active can begin with another line instead. -/
theorem mask_single {condition : Condition} (h : text = text' ∨ condition.eval env = false)
    (depth line : Nat) :
    (single condition depth line text').mask env = (single condition depth line text).mask env := by
  rcases h with rfl | h
  · rfl
  · simp [mask, single, h]

/-- A masked run becomes a masked fragment. -/
theorem toFragment_comp_mask (env : Environment) :
    toFragment ∘ mask env = Fragment.mask env ∘ toFragment := by
  funext run
  cases h : run.condition.eval env <;>
    simp [mask, toFragment, Fragment.mask, Fragment.isActive, h]

/-- The first run that passes a test is found among masked runs as among the others. -/
theorem updateFirst?_mask {p : Run → Bool} {f f' : Run → Run}
    (hp : ∀ run, p (run.mask env) = p run)
    (hf : ∀ run, p run = true → (f' (run.mask env)).mask env = (f run).mask env)
    (runs : List Run) :
    (updateFirst? p f' (runs.map (mask env))).map (List.map (mask env)) =
      (updateFirst? p f runs).map (List.map (mask env)) := by
  induction runs with
  | nil => rfl
  | cons run runs ih =>
      rw [List.map_cons, updateFirst?, updateFirst?, hp]
      by_cases hrun : p run = true
      · rw [if_pos hrun, if_pos hrun]
        simp [hf run hrun]
      · rw [if_neg hrun, if_neg hrun]
        -- the run in front is masked on either side
        have hfront : ∀ (first : Run) (result : Option (List Run)),
            (result.map (first :: ·)).map (List.map (mask env)) =
              (result.map (List.map (mask env))).map (first.mask env :: ·) := by
          intro first result
          rw [Option.map_map, Option.map_map]
          rfl
        rw [hfront, hfront, mask_mask, ih]

/-- Masked runs stay open at the lines at which the runs do. -/
theorem filter_map_mask {p : Run → Bool} (hp : ∀ run, p (run.mask env) = p run) (runs : List Run) :
    (runs.map (mask env)).filter p = (runs.filter p).map (mask env) := by
  rw [List.filter_map]
  exact congrArg (List.map (mask env)) (List.filter_congr fun run _ => hp run)

end Run

namespace Splitter

/-- The state without the lines of runs and fragments that are not active. -/
def mask (env : Environment) (s : Splitter) : Splitter :=
  { s with runs := s.runs.map (Run.mask env), closed := s.closed.map (Fragment.mask env) }

variable {s s' : Splitter} {line : Nat} {text text' : List Char}

/-- Masking twice is masking once. -/
@[simp]
theorem mask_mask (env : Environment) (s : Splitter) : (s.mask env).mask env = s.mask env := by
  simp [mask]

/-- What a blank line does to the runs. -/
theorem addBlank_eq (s : Splitter) (line : Nat) (text : List Char) :
    s.addBlank line text =
      { s with
        runs := (Run.updateFirst? (fun run => run.next = line && run.condition = s.blocks.condition)
          (·.extend line text) s.runs).getD s.runs } := by
  rw [addBlank]
  cases Run.updateFirst? _ _ s.runs <;> rfl

/-- What a line of text does to the runs and to the finished fragments. -/
theorem addText_eq (s : Splitter) (line : Nat) (text : List Char) :
    s.addText line text =
      { s with
        runs := (Run.updateFirst? (·.condition = s.blocks.condition) (·.extend line text)
          s.kept).getD (s.kept ++ [Run.single s.blocks.condition s.blocks.length line text])
        closed := s.ended.map Run.toFragment ++ s.closed } := by
  rw [addText, List.partition_eq_filter_filter]
  dsimp only
  rw [← kept]
  cases Run.updateFirst? _ _ s.kept <;> rfl

/-- A masked state takes a blank line as the state does. -/
theorem mask_addBlank (s : Splitter) (line : Nat) (text : List Char) :
    ((s.mask env).addBlank line text).mask env = (s.addBlank line text).mask env := by
  have hupdate := @Run.updateFirst?_mask env
    (fun run => run.next = line && run.condition = s.blocks.condition) (·.extend line text)
    (·.extend line text) (fun _ => rfl) (fun _ _ => Run.mask_extend (.inl rfl) line) s.runs
  rw [addBlank_eq, addBlank_eq, mask, mask, mask]
  dsimp only
  rw [← Option.getD_map (List.map (Run.mask env)), ← Option.getD_map (List.map (Run.mask env)),
    hupdate, List.map_map, List.map_map, Run.mask_comp_mask, Fragment.mask_comp_mask]

/-- A masked state takes a line of text as the state does, and if the condition at the line does not
hold, it can take another line instead. -/
theorem mask_addText (h : text = text' ∨ s.blocks.condition.eval env = false) :
    ((s.mask env).addText line text').mask env = (s.addText line text).mask env := by
  have hkept : (s.mask env).kept = s.kept.map (Run.mask env) :=
    Run.filter_map_mask (fun _ => rfl) s.runs
  have hended : (s.mask env).ended = s.ended.map (Run.mask env) :=
    Run.filter_map_mask (fun _ => rfl) s.runs
  have hupdate := @Run.updateFirst?_mask env (·.condition = s.blocks.condition)
    (·.extend line text) (·.extend line text') (fun _ => rfl)
    (fun run hrun => Run.mask_extend (by rwa [of_decide_eq_true hrun]) line) s.kept
  have hsingle := Run.mask_single h s.blocks.length line
  rw [addText_eq, addText_eq, hkept, hended, mask, mask, mask]
  dsimp only
  rw [← Option.getD_map (List.map (Run.mask env)), ← Option.getD_map (List.map (Run.mask env)),
    hupdate]
  simp [hsingle, Run.toFragment_comp_mask, ← Function.comp_assoc]

/-- A masked state reads a line as the state does, and if the condition at a content line does not
hold, it can read another content line instead. -/
theorem mask_step (h : text = text' ∨ Fragment.isContent text = true ∧
      Fragment.isContent text' = true ∧ s.blocks.condition.eval env = false) :
    ((s.mask env).step line text').map (mask env) = (s.step line text).map (mask env) := by
  cases hbody : Directive.body? text with
  | some body =>
      -- a directive stands in both texts, and changes only the blocks
      obtain rfl : text = text' := by
        rcases h with rfl | ⟨hcontent, -⟩
        · rfl
        · rw [Fragment.body?_eq_none_of_isContent hcontent] at hbody
          cases hbody
      rw [step_of_body?_eq_some hbody, step_of_body?_eq_some hbody]
      change ((s.blocks.readLine line text).map _).map _ = _
      cases s.blocks.readLine line text with
      | error fault => rfl
      | ok blocks => exact congrArg Except.ok (mask_mask env { s with blocks })
  | none =>
      have hbody' : Directive.body? text' = none := by
        rcases h with rfl | ⟨-, hcontent', -⟩
        · exact hbody
        · exact Fragment.body?_eq_none_of_isContent hcontent'
      have hblank : text.all Text.isBlank = text'.all Text.isBlank := by
        rcases h with rfl | ⟨hcontent, hcontent', -⟩
        · rfl
        · rw [Fragment.not_all_isBlank_of_isContent hcontent,
            Fragment.not_all_isBlank_of_isContent hcontent']
      rw [step_of_body?_eq_none hbody, step_of_body?_eq_none hbody', ← hblank]
      apply congrArg Except.ok
      by_cases hall : text.all Text.isBlank = true
      · -- a blank line stands in both texts
        obtain rfl : text = text' := by
          rcases h with rfl | ⟨hcontent, -⟩
          · rfl
          · rw [Fragment.not_all_isBlank_of_isContent hcontent] at hall
            cases hall
        rw [if_pos hall, if_pos hall]
        exact mask_addBlank s line text
      · rw [if_neg hall, if_neg hall]
        exact mask_addText (h.imp_right fun hidden => hidden.2.2)

/-- States with the same mask still have it behind a line that they read, also if one of them reads
another content line where the condition does not hold. -/
theorem map_mask_run_singleton (hmask : s.mask env = s'.mask env)
    (h : text = text' ∨ Fragment.isContent text = true ∧
      Fragment.isContent text' = true ∧ s.blocks.condition.eval env = false) :
    (s.run line [text]).map (mask env) = (s'.run line [text']).map (mask env) := by
  have hstep : (s.step line text).map (mask env) = (s'.step line text').map (mask env) := by
    rw [← mask_step h, hmask, mask_step (.inl rfl)]
  rw [run, run]
  rcases exists_of_map_eq hstep with ⟨fault, hs, hs'⟩ | ⟨next, next', hs, hs', hnext⟩
  · rw [hs, hs']
  · rw [hs, hs']
    exact congrArg Except.ok hnext

/-- States with the same mask make the same active fragments. -/
theorem filter_isActive_fragments (h : s.mask env = s'.mask env) :
    s.fragments.filter (·.isActive env) = s'.fragments.filter (·.isActive env) := by
  -- the fragments of a masked state are masked, and sorted as before
  have hmasked : ∀ s : Splitter,
      s.fragments.map (Fragment.mask env) = (s.mask env).fragments := by
    intro s
    have hsort : ∀ fs : List Fragment,
        (fs.mergeSort (·.line ≤ ·.line)).map (Fragment.mask env) =
          (fs.map (Fragment.mask env)).mergeSort (·.line ≤ ·.line) :=
      fun fs => List.map_mergeSort fun _ _ _ _ => rfl
    rw [fragments, fragments, hsort]
    simp [mask, Run.toFragment_comp_mask]
  rw [← Fragment.filter_isActive_map_mask s.fragments,
    ← Fragment.filter_isActive_map_mask s'.fragments, hmasked, hmasked, h]

end Splitter

namespace Fragment

variable {text text' : List Char}

/-- Texts that have as many lines and differ only in lines that are content in both of them and
active in neither. -/
structure AlikeIn (env : Environment) (text text' : List Char) : Prop where
  /-- There are as many lines. -/
  length_lines : (Text.lines text).length = (Text.lines text').length
  /-- Lines of one number are the same, or content that is not active. -/
  eq_or_hidden : ∀ n line line', Text.IsLine text n line → Text.IsLine text' n line' →
    line = line' ∨ isContent line = true ∧ isContent line' = true ∧
      ¬ActiveAt text env n ∧ ¬ActiveAt text' env n

/-- Numbers from 1 to the number of lines are those that some line has. -/
theorem exists_isLine_iff {n : Nat} :
    (∃ line, Text.IsLine text n line) ↔ 1 ≤ n ∧ n ≤ (Text.lines text).length := by
  simp only [Text.IsLine, List.mk_mem_zipIdx_iff_le_and_getElem?_sub, exists_and_left,
    ← Option.isSome_iff_exists, isSome_getElem?]
  omega

/-- Behind a line, the state is the one that reading the line leads to. -/
theorem stateAt_succ_of_isLine {n : Nat} {line : List Char} (h : Text.IsLine text n line) :
    stateAt text (n + 1) = (stateAt text n).bind fun s => s.run n [line] := by
  rw [Text.IsLine, Text.mem_zipIdx_iff_exists_append] at h
  obtain ⟨front, back, hlines, rfl⟩ := h
  have htake : (front ++ line :: back).take (1 + front.length) = front ++ [line] := by
    rw [Nat.add_comm, List.take_length_add_append]
    rfl
  rw [stateAt, stateAt, hlines, Nat.add_sub_cancel, Nat.add_sub_cancel_left, htake, List.take_left,
    Splitter.run_append]

/-- Behind the last line, the state stays as it is. -/
theorem stateAt_succ_of_not_isLine {n : Nat} (h : ¬∃ line, Text.IsLine text n line) :
    stateAt text (n + 1) = stateAt text n := by
  rw [exists_isLine_iff] at h
  rw [stateAt, stateAt, Nat.add_sub_cancel]
  cases n with
  | zero => rfl
  | succ n =>
      rw [Nat.add_sub_cancel, List.take_of_length_le (by omega), List.take_of_length_le (by omega)]

/-- Texts that are alike lead to states with the same mask. -/
theorem AlikeIn.map_mask_stateAt (h : AlikeIn env text text') (n : Nat) :
    (stateAt text n).map (Splitter.mask env) = (stateAt text' n).map (Splitter.mask env) := by
  induction n with
  | zero => rfl
  | succ n ih =>
      by_cases hexists : ∃ line, Text.IsLine text n line
      · obtain ⟨line', hline'⟩ : ∃ line, Text.IsLine text' n line := by
          rwa [exists_isLine_iff, ← h.length_lines, ← exists_isLine_iff]
        obtain ⟨line, hline⟩ := hexists
        have halike := h.eq_or_hidden n line line' hline hline'
        rw [stateAt_succ_of_isLine hline, stateAt_succ_of_isLine hline']
        rcases exists_of_map_eq ih with ⟨e, hs, hs'⟩ | ⟨s, s', hs, hs', hmask⟩
        · rw [hs, hs']
          rfl
        · rw [hs, hs']
          refine Splitter.map_mask_run_singleton hmask (halike.imp_right ?_)
          rintro ⟨hcontent, hcontent', hhidden, -⟩
          refine ⟨hcontent, hcontent', Bool.eq_false_iff.2 fun heval => hhidden ?_⟩
          -- the condition at the line is that of the state
          refine ⟨s.blocks.condition, ?_, heval⟩
          rw [conditionAt, blocksAt_of_stateAt hs]
          rfl
      · have hexists' : ¬∃ line, Text.IsLine text' n line := by
          rwa [exists_isLine_iff, ← h.length_lines, ← exists_isLine_iff]
        rw [stateAt_succ_of_not_isLine hexists, stateAt_succ_of_not_isLine hexists', ih]

/-- Texts that are alike have the same active fragments. -/
theorem AlikeIn.evaluate_eq (h : AlikeIn env text text') :
    evaluate text env = evaluate text' env := by
  have hall : ∀ text : List Char, stateAt text ((Text.lines text).length + 1) =
      Splitter.init.run 1 (Text.lines text) := by
    intro text
    rw [stateAt, Nat.add_sub_cancel, List.take_length]
  have hmap := h.map_mask_stateAt ((Text.lines text).length + 1)
  rw [hall, h.length_lines, hall] at hmap
  rw [evaluate, evaluate, split, split]
  rcases exists_of_map_eq hmap with ⟨e, hs, hs'⟩ | ⟨s, s', hs, hs', hmask⟩
  · rw [hs, hs']
  · rw [hs, hs']
    have hblocks : s.blocks = s'.blocks := congrArg (·.blocks) hmask
    dsimp only
    rw [hblocks]
    cases s'.blocks with
    | nil => exact congrArg Except.ok (Splitter.filter_isActive_fragments hmask)
    | cons branch rest => rfl

end Fragment

end GlslPrelude
