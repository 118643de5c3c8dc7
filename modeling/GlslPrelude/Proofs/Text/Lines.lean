import GlslPrelude.Text.Line
import Mathlib.Data.List.Basic

/-!
# The lines of a text

`Text.lines` is the only way to cut a text behind its newlines: `areLines_lines` says that it yields
lines, and `lines_flatten` that lines put together are cut into the same lines again.
-/

namespace GlslPrelude

namespace Text

/-- A line with the newline that ends it. -/
def IsEnded (line : List Char) : Prop :=
  ∃ body, '\n' ∉ body ∧ line = body ++ ['\n']

/-- Lines of a text: each ends with its only newline, but the last one may lack it. -/
inductive AreLines : List (List Char) → Prop
  | nil : AreLines []
  | last {line : List Char} : line ≠ [] → '\n' ∉ line → AreLines [line]
  | ended {line : List Char} {rest : List (List Char)} :
      IsEnded line → AreLines rest → AreLines (line :: rest)

/-- The newline alone is an ended line. -/
theorem isEnded_newline : IsEnded ['\n'] :=
  ⟨[], by simp, rfl⟩

/-- A character before an ended line gives an ended line, unless it is a newline itself. -/
theorem IsEnded.cons {line : List Char} (h : IsEnded line) {c : Char} (hc : c ≠ '\n') :
    IsEnded (c :: line) := by
  obtain ⟨body, hbody, rfl⟩ := h
  refine ⟨c :: body, ?_, rfl⟩
  rw [List.mem_cons, not_or]
  exact ⟨hc.symm, hbody⟩

/-- Ended lines in front of lines are lines again. -/
theorem AreLines.append {front back : List (List Char)} (hfront : ∀ line ∈ front, IsEnded line)
    (hback : AreLines back) : AreLines (front ++ back) := by
  induction front with
  | nil => exact hback
  | cons line front ih =>
      rw [List.cons_append]
      exact .ended (hfront line (by simp)) (ih fun l hl => hfront l (by simp [hl]))

/-- The lines of a text are lines. -/
theorem areLines_lines (cs : List Char) : AreLines (lines cs) := by
  induction cs with
  | nil => exact .nil
  | cons c cs ih =>
      change AreLines (consLine c (lines cs))
      -- a newline is a line of its own, and any other character goes into the first line
      generalize lines cs = ls at ih
      by_cases hc : c = '\n'
      · subst hc
        cases ls with
        | nil => exact .ended isEnded_newline .nil
        | cons line rest => simpa [consLine] using AreLines.ended isEnded_newline ih
      · cases ih with
        | nil => exact .last (by simp) (by simpa using Ne.symm hc)
        | last hne hnot =>
            rw [consLine, if_neg hc]
            refine .last (by simp) ?_
            rw [List.mem_cons, not_or]
            exact ⟨Ne.symm hc, hnot⟩
        | ended hline hrest =>
            rw [consLine, if_neg hc]
            exact .ended (hline.cons hc) hrest

/-- A text without newline is one line. -/
theorem lines_of_not_mem {cs : List Char} (hne : cs ≠ []) (hnot : '\n' ∉ cs) : lines cs = [cs] := by
  induction cs with
  | nil => exact absurd rfl hne
  | cons c cs ih =>
      rw [List.mem_cons, not_or] at hnot
      change consLine c (lines cs) = [c :: cs]
      cases cs with
      | nil => rfl
      | cons d cs =>
          rw [ih (by simp) hnot.2, consLine, if_neg (Ne.symm hnot.1)]

/-- An ended line in front of a text is its first line. -/
theorem lines_append_of_isEnded {line : List Char} (h : IsEnded line) (cs : List Char) :
    lines (line ++ cs) = line :: lines cs := by
  obtain ⟨body, hbody, rfl⟩ := h
  induction body with
  | nil =>
      change consLine '\n' (lines cs) = ['\n'] :: lines cs
      cases lines cs <;> simp [consLine]
  | cons c body ih =>
      rw [List.mem_cons, not_or] at hbody
      change consLine c (lines (body ++ ['\n'] ++ cs)) = (c :: (body ++ ['\n'])) :: lines cs
      rw [ih hbody.2, consLine, if_neg (Ne.symm hbody.1)]

/-- Lines put together are cut into the same lines again. -/
theorem lines_flatten {ls : List (List Char)} (h : AreLines ls) : lines ls.flatten = ls := by
  induction h with
  | nil => rfl
  | last hne hnot => simpa using lines_of_not_mem hne hnot
  | ended hline _ ih => rw [List.flatten_cons, lines_append_of_isEnded hline, ih]

/-! ## Numbered lines -/

/-- `line` is the line of a text with number `n`, counted from 1. -/
def IsLine (cs : List Char) (n : Nat) (line : List Char) : Prop :=
  (line, n) ∈ (lines cs).zipIdx 1

instance (cs : List Char) (n : Nat) (line : List Char) : Decidable (IsLine cs n line) :=
  inferInstanceAs (Decidable (_ ∈ _))

/-- An element of a numbered list stands behind as many others as its number says. -/
theorem mem_zipIdx_iff_exists_append {α : Type} {as : List α} {k n : Nat} {a : α} :
    (a, n) ∈ as.zipIdx k ↔ ∃ front back, as = front ++ a :: back ∧ n = k + front.length := by
  rw [List.mk_mem_zipIdx_iff_le_and_getElem?_sub]
  constructor
  · rintro ⟨hle, hget⟩
    obtain ⟨hlt, rfl⟩ := List.getElem?_eq_some_iff.1 hget
    refine ⟨as.take (n - k), as.drop (n - k + 1), ?_, ?_⟩
    · rw [List.getElem_cons_drop, List.take_append_drop]
    · rw [List.length_take]
      omega
  · rintro ⟨front, back, rfl, rfl⟩
    simp

/-- A text has at most one line of a number. -/
theorem IsLine.unique {cs : List Char} {n : Nat} {line line' : List Char} (h : IsLine cs n line)
    (h' : IsLine cs n line') : line = line' := by
  rw [IsLine, List.mk_mem_zipIdx_iff_le_and_getElem?_sub] at h h'
  exact Option.some.inj (h.2.symm.trans h'.2)

/-- Lines are counted from 1. -/
theorem IsLine.one_le {cs : List Char} {n : Nat} {line : List Char} (h : IsLine cs n line) :
    1 ≤ n :=
  (List.mk_mem_zipIdx_iff_le_and_getElem?_sub.1 h).1

end Text

end GlslPrelude
