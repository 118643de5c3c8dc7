import GlslPrelude.Proofs.Declaration.Remainder

/-!
# Literals

What is read when the next token is a literal. The readers of values return what is left together
with the fact that it is shorter than their input; `withRest` forgets the fact. No dimensions are
read unless the next token is a bracket.
-/

namespace GlslPrelude

namespace Input

variable {scope : Scope} {t : Documented} {ts rest : Input} {value : ConstValue}

/-- A value and what is left behind it. -/
def withRest {α : Type} (reading : Except Stuck (α × Behind ts)) : Except Stuck (α × Input) :=
  reading.map fun result => (result.1, result.2.val)

/-- A reader that reads a value leaves less than its input. -/
theorem exists_of_withRest {α : Type} {reading : Except Stuck (α × Behind ts)} {a : α}
    (h : withRest reading = .ok (a, rest)) : ∃ hrest, reading = .ok (a, ⟨rest, hrest⟩) := by
  match reading, h with
  | .ok (_, ⟨_, hrest⟩), h =>
      cases h
      exact ⟨hrest, rfl⟩

/-- A signed integer literal is read. -/
theorem readLiteral_int {word : UInt64} {i : Int64} (ht : t.lexeme = .int word false)
    (hword : ConstValue.signed? word = some i) :
    withRest (readLiteral scope (t :: ts)) = .ok (.int i, ts) := by
  obtain ⟨comments, lexeme, line⟩ := t
  subst ht
  rw [readLiteral]
  dsimp only
  split <;> rename_i hsigned <;> cases hword.symm.trans hsigned
  rfl

/-- An unsigned integer literal is read. -/
theorem readLiteral_uint {word : UInt64} (ht : t.lexeme = .int word true) :
    withRest (readLiteral scope (t :: ts)) = .ok (.uint word, ts) := by
  obtain ⟨comments, lexeme, line⟩ := t
  subst ht
  rw [readLiteral]
  rfl

/-- A truth value is read. -/
theorem readLiteral_bool {b : Bool} (ht : t.lexeme = .word (if b then "true" else "false")) :
    withRest (readLiteral scope (t :: ts)) = .ok (.bool b, ts) := by
  obtain ⟨comments, lexeme, line⟩ := t
  subst ht
  cases b <;> rw [readLiteral] <;> rfl

/-- A token that is no mark begins a literal without a sign. -/
theorem readInitializer_of_not_mark (ht : ∀ mark, t.lexeme ≠ .punct mark) :
    readInitializer scope (t :: ts) = readLiteral scope (t :: ts) := by
  have hmark : ∀ mark, t.isMark mark = false := by
    intro mark
    rw [← Bool.not_eq_true, Documented.isMark_iff]
    exact ht mark
  rw [readInitializer, hmark, hmark, hmark]
  rfl

/-- No dimensions come next unless a bracket does. -/
theorem readSizes_of_ne (ht : t.lexeme ≠ .punct .leftBracket) :
    readSizes scope (t :: ts) = .ok ([], t :: ts) := by
  have hmark : t.isMark .leftBracket = false := by
    rw [← Bool.not_eq_true, Documented.isMark_iff]
    exact ht
  unfold readSizes
  rw [hmark]
  rfl

/-- A type has no dimensions unless a bracket comes next. -/
theorem readArray_of_ne (element : Ty) (ht : t.lexeme ≠ .punct .leftBracket) :
    readArray scope element (t :: ts) = .ok (element, t :: ts) := by
  rw [readArray, readSizes_of_ne ht]
  rfl

end Input

end GlslPrelude
