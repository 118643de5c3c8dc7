import GlslPrelude.Text.Span

/-!
# Spans that a text begins with

Readers take the longest span of characters of a class off a text. If all characters of a span are
of the class and the text behind it begins with none, they take exactly the span. Names begin with
other characters than numbers, since the codes of letters lie above those of digits
(`toNat_of_startsName`, `isDigit_iff_toNat`).
-/

namespace GlslPrelude

variable {α : Type} {p : α → Bool} {span rest : List α}

/-- The longest initial span of a class is a span of the class that nothing of the class follows. -/
theorem takeWhile_append_eq (hspan : ∀ a ∈ span, p a = true)
    (hrest : ∀ a ∈ rest.head?, p a = false) :
    (span ++ rest).takeWhile p = span := by
  rw [List.takeWhile_append_of_pos hspan]
  cases rest with
  | nil => exact List.append_nil span
  | cons a rest => rw [List.takeWhile_cons_of_neg (by simp [hrest a rfl]), List.append_nil]

/-- Behind the longest initial span of a class stands what follows the span. -/
theorem dropWhile_append_eq (hspan : ∀ a ∈ span, p a = true)
    (hrest : ∀ a ∈ rest.head?, p a = false) :
    (span ++ rest).dropWhile p = rest := by
  rw [List.dropWhile_append_of_pos hspan]
  cases rest with
  | nil => rfl
  | cons a rest => rw [List.dropWhile_cons_of_neg (by simp [hrest a rfl])]

/-- What follows the longest initial span of a class begins with nothing of the class. -/
theorem forall_mem_head?_dropWhile (p : α → Bool) (as : List α) :
    ∀ a ∈ (as.dropWhile p).head?, p a = false := by
  intro a ha
  have hnot := List.head?_dropWhile_not p as
  rwa [ha] at hnot

namespace Text

variable {c : Char}

/-- The codes of digits lie in one range. -/
theorem isDigit_iff_toNat : c.isDigit = true ↔ 48 ≤ c.toNat ∧ c.toNat ≤ 57 := by
  simp [Char.isDigit, UInt32.le_iff_toNat_le]

/-- The codes of letters and of the underscore lie above those of digits. -/
theorem toNat_of_startsName (h : (c = '_' || c.isAlpha) = true) :
    65 ≤ c.toNat ∧ c.toNat ≤ 122 := by
  rw [Bool.or_eq_true, decide_eq_true_eq] at h
  rcases h with rfl | h
  · decide
  · have hcodes : (decide (c.val ≥ 'A'.val ∧ c.val ≤ 'Z'.val) ||
        decide (c.val ≥ 'a'.val) && decide (c.val ≤ 'z'.val)) = true := h
    have hletter : 65 ≤ c.toNat ∧ c.toNat ≤ 90 ∨ 97 ≤ c.toNat ∧ c.toNat ≤ 122 := by
      simpa [UInt32.le_iff_toNat_le] using hcodes
    omega

end Text

end GlslPrelude
