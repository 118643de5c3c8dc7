import GlslPrelude.Proofs.Declaration.Remainder
import GlslPrelude.Proofs.Type.Names
import GlslPrelude.Proofs.Value.Coercion

/-!
# Lexemes of written declarations

The text of a declaration is cut into the lexemes that it was put together from. Every text is cut
wherever it stands, provided that what stands behind it does not run on.
-/

namespace GlslPrelude

open Lexeme (IsName EndsToken)
open Scanner (Spells)

variable {cs rest : List Char} {ls : List Lexeme}

/-! ## Qualifiers and types -/

namespace QualifierSet

/-- The keywords of the qualifiers. -/
def lexemes (qs : QualifierSet) : List Lexeme :=
  qs.toList.map fun q => .word q.keyword

/-- Every keyword is a word. -/
theorem isName_keyword (q : Qualifier) : IsName q.keyword := by
  cases q <;> decide

/-- The text of qualifiers is cut into their keywords. -/
theorem spells_render (qs : QualifierSet) (h : Spells cs ls rest) :
    Spells (qs.render.toList ++ cs) (qs.lexemes ++ ls) rest := by
  rw [render, QualifierSet.lexemes]
  induction qs.toList with
  | nil => simpa using h
  | cons q qs ih =>
      have hword := ih.space.word (isName_keyword q) (Lexeme.endsToken_space _)
      simpa [String.toList_join] using hword

end QualifierSet

namespace ArraySize

/-- The lexemes of a size. -/
def lexemes : ArraySize → List Lexeme
  | .fixed n => [.punct .leftBracket, .int (UInt64.ofNat n) false, .punct .rightBracket]
  | .implicit => [.punct .leftBracket, .punct .rightBracket]

/-- The text of sizes. -/
def renderAll (ss : List ArraySize) : List Char :=
  (String.join (ss.map render)).toList

/-- The text of sizes does not run on. -/
theorem endsToken_renderAll (ss : List ArraySize) (h : EndsToken cs) :
    EndsToken (renderAll ss ++ cs) := by
  cases ss with
  | nil => simpa [renderAll] using h
  | cons s ss =>
      have hbracket := Lexeme.endsToken_mark .leftBracket
      cases s <;> simpa [renderAll, render, Punct.char] using hbracket _

/-- The text of sizes is cut into their lexemes. -/
theorem spells_renderAll {ss : List ArraySize} (hss : ∀ s ∈ ss, s.IsValid)
    (h : Spells cs ls rest) :
    Spells (renderAll ss ++ cs) (ss.flatMap ArraySize.lexemes ++ ls) rest := by
  induction ss with
  | nil => simpa [renderAll] using h
  | cons s ss ih =>
      rw [List.forall_mem_cons] at hss
      have hmore := Spells.mark .rightBracket (ih hss.2)
      cases s with
      | fixed n =>
          have hlength := hmore.int false (Nat.lt_trans hss.1.2 (by decide))
            (Lexeme.endsToken_mark .rightBracket _)
          simpa [renderAll, render, ArraySize.lexemes, Lexeme.intText, Punct.char] using
            Spells.mark .leftBracket hlength
      | implicit =>
          simpa [renderAll, render, ArraySize.lexemes, Punct.char] using
            Spells.mark .leftBracket hmore

end ArraySize

namespace Ty

variable {t : Ty} {name : String}

/-- The text of the type consists of a word and of sizes that can be read. -/
structure IsSpelled (t : Ty) : Prop where
  /-- The elements are written as a word. -/
  isName : IsName t.base.render
  /-- The sizes can be read. -/
  sizes : ∀ s ∈ t.sizes, s.IsValid

/-- The sizes can be read also in the opposite order. -/
theorem IsSpelled.reverse (ht : t.IsSpelled) : ∀ s ∈ t.sizes.reverse, s.IsValid :=
  fun s hs => ht.sizes s (List.mem_reverse.1 hs)

/-- The lexemes of a type that is written on its own. -/
def lexemes (t : Ty) : List Lexeme :=
  .word t.base.render :: t.sizes.reverse.flatMap ArraySize.lexemes

/-- The lexemes of a type that is written around a name. -/
def declaratorLexemes (t : Ty) (name : String) : List Lexeme :=
  .word t.base.render :: .word name :: t.sizes.flatMap ArraySize.lexemes

/-- The text of a type is cut into its lexemes. -/
theorem IsSpelled.spells_render (ht : t.IsSpelled) (hcs : EndsToken cs)
    (h : Spells cs ls rest) :
    Spells (t.render.toList ++ cs) (t.lexemes ++ ls) rest := by
  have hsizes := ArraySize.spells_renderAll ht.reverse h
  have hword := hsizes.word ht.isName (ArraySize.endsToken_renderAll _ hcs)
  rw [render_eq]
  simpa [ArraySize.renderAll, Ty.lexemes] using hword

/-- The text of a type around a name is cut into its lexemes. -/
theorem IsSpelled.spells_renderDeclarator (ht : t.IsSpelled) (hname : IsName name)
    (hcs : EndsToken cs) (h : Spells cs ls rest) :
    Spells ((t.renderDeclarator name).toList ++ cs) (t.declaratorLexemes name ++ ls) rest := by
  have hsizes := ArraySize.spells_renderAll ht.sizes h
  have hword := (hsizes.word hname (ArraySize.endsToken_renderAll _ hcs)).space.word ht.isName
    (Lexeme.endsToken_space _)
  simpa [renderDeclarator, ArraySize.renderAll, declaratorLexemes] using hword

end Ty

/-! ## Values -/

namespace ConstValue

mutual

/-- The lexemes of a value; a number with a sign is written as one without it behind a minus. -/
def lexemes : ConstValue → List Lexeme
  | .bool b => [.word (if b then "true" else "false")]
  | .int i =>
    if i < 0 then [.punct .minus, .int (UInt64.ofNat i.toInt.natAbs) false]
    else [.int (UInt64.ofNat i.toInt.natAbs) false]
  | .uint u => [.int u true]
  | .float x => [.float x]
  | .aggregate [] => [.punct .leftBrace, .punct .rightBrace]
  | .aggregate (v :: vs) => .punct .leftBrace :: v.lexemes ++ tailLexemes vs ++ [.punct .rightBrace]

/-- The lexemes of the values that follow the first one. -/
def tailLexemes : List ConstValue → List Lexeme
  | [] => []
  | v :: vs => .punct .comma :: v.lexemes ++ tailLexemes vs

end

/-- No literal of the value is a floating-point number. -/
def HasNoFloat (v : ConstValue) : Prop :=
  ∀ x, .float x ∉ v.leaves

/-- A list has no floating-point numbers if its values have none. -/
theorem hasNoFloat_cons {v : ConstValue} {vs : List ConstValue} :
    (aggregate (v :: vs)).HasNoFloat ↔ v.HasNoFloat ∧ (aggregate vs).HasNoFloat := by
  simp [HasNoFloat, leaves, leavesOf, forall_and]

/-- A number with a sign is written behind a minus if it is negative. -/
theorem toList_render_int (i : Int64) :
    (render (.int i)).toList = (if i < 0 then [Punct.minus.char] else []) ++
      Lexeme.intText i.toInt.natAbs false := by
  have hsign : i < 0 ↔ i.toInt < 0 := by rw [Int64.lt_iff_toInt_lt, Int64.toInt_zero]
  rw [render]
  cases hi : i.toInt with
  | ofNat n =>
      rw [if_neg (by rw [hsign, hi]; simp)]
      simp [ToString.toString, Int.repr, Lexeme.intText]
  | negSucc n =>
      rw [if_pos (by rw [hsign, hi]; exact Int.negSucc_lt_zero n)]
      simp [ToString.toString, Int.repr, Lexeme.intText, Punct.char]

/-- The text of a number with a sign is cut into the sign and the number. -/
theorem spells_render_int (i : Int64) (hcs : EndsToken cs) (h : Spells cs ls rest) :
    Spells ((render (.int i)).toList ++ cs) ((ConstValue.int i).lexemes ++ ls) rest := by
  have hlimit : i.toInt.natAbs < Digits.wordLimit := by
    have hlower := i.le_toInt
    have hupper := i.toInt_lt
    change _ < 2 ^ 64
    omega
  have hnumber := h.int false hlimit hcs
  rw [toList_render_int, ConstValue.lexemes]
  split
  · exact .mark .minus hnumber
  · exact hnumber

mutual

/-- The text of a value is cut into its lexemes. -/
theorem spells_render : (v : ConstValue) → v.HasNoFloat → ∀ {cs ls}, EndsToken cs →
    Spells cs ls rest → Spells (v.render.toList ++ cs) (v.lexemes ++ ls) rest
  | .bool b, _, _, _, hcs, h => by
      cases b <;> exact h.word (by decide) hcs
  | .int i, _, _, _, hcs, h => spells_render_int i hcs h
  | .uint u, _, _, _, hcs, h => by
      have hword := h.int true u.toNat_lt hcs
      simpa [render, ConstValue.lexemes, Lexeme.intText] using hword
  | .float x, hfloat, _, _, _, _ => absurd (List.mem_singleton_self _) (hfloat x)
  | .aggregate [], _, _, _, _, h => .mark .leftBrace (.mark .rightBrace h)
  | .aggregate (v :: vs), hfloat, _, _, _, h => by
      obtain ⟨hv, hvs⟩ := hasNoFloat_cons.1 hfloat
      have htail := spells_renderTail vs hvs (.mark .rightBrace h)
      have hvalue := Spells.mark .leftBrace (spells_render v hv htail.1 htail.2)
      simpa [render, ConstValue.lexemes, Punct.char] using hvalue

/-- The text of the values behind the first one in a list is cut into their lexemes. -/
theorem spells_renderTail : (vs : List ConstValue) → (aggregate vs).HasNoFloat → ∀ {cs ls},
    Spells (Punct.rightBrace.char :: cs) ls rest →
    EndsToken ((renderTail vs).toList ++ Punct.rightBrace.char :: cs) ∧
    Spells ((renderTail vs).toList ++ Punct.rightBrace.char :: cs) (tailLexemes vs ++ ls) rest
  | [], _, _, _, h => ⟨Lexeme.endsToken_mark .rightBrace _, h⟩
  | v :: vs, hfloat, _, _, h => by
      obtain ⟨hv, hvs⟩ := hasNoFloat_cons.1 hfloat
      have htail := spells_renderTail vs hvs h
      have hvalue := Spells.mark .comma (spells_render v hv htail.1 htail.2).space
      constructor
      · simpa [renderTail, Punct.char] using Lexeme.endsToken_mark .comma _
      · simpa [renderTail, tailLexemes, Punct.char] using hvalue

end

end ConstValue

/-! ## Declarations -/

/-- The lexemes of a constant's declaration. -/
def Constant.lexemes (c : Constant) : List Lexeme :=
  c.qualifiers.lexemes ++ c.type.declaratorLexemes c.name ++ .punct .equal :: c.value.lexemes ++
    [.punct .semicolon]

/-- The lexemes of a variable's declaration. -/
def Variable.lexemes (v : Variable) : List Lexeme :=
  v.qualifiers.lexemes ++ v.type.declaratorLexemes v.name ++ [.punct .semicolon]

/-- The lexemes of a member of a block. -/
def Field.lexemes (f : Field Ty) : List Lexeme :=
  f.qualifiers.lexemes ++ f.type.declaratorLexemes f.name ++ [.punct .semicolon]

/-- The lexemes of a block. -/
def Block.lexemes (b : Block) : List Lexeme :=
  .word b.name :: .punct .leftBrace :: b.fields.flatMap Field.lexemes ++
    [.punct .rightBrace, .punct .semicolon]

/-- The lexemes of a parameter. -/
def Parameter.lexemes (p : Parameter) : List Lexeme :=
  p.qualifiers.lexemes ++
    match p.name with
    | some name => p.type.declaratorLexemes name
    | none => p.type.lexemes

/-- The lexemes of a function prototype, the semicolon included. -/
def Signature.lexemes (s : Signature) : List Lexeme :=
  s.returnType.lexemes ++ .word s.name :: .punct .leftParen ::
    [.punct .comma].intercalate (s.parameters.map Parameter.lexemes) ++
    [.punct .rightParen, .punct .semicolon]

/-- The text of a constant is cut into its lexemes. -/
theorem Constant.spells_render {c : Constant} (hname : IsName c.name) (htype : c.type.IsSpelled)
    (hvalue : c.value.HasNoFloat) : Spells c.render.toList c.lexemes [] := by
  have hend := c.value.spells_render hvalue (Lexeme.endsToken_mark .semicolon [])
    (.mark .semicolon (.done []))
  have hdeclarator := htype.spells_renderDeclarator hname (Lexeme.endsToken_space _)
    (Spells.mark .equal hend.space).space
  have hall := c.qualifiers.spells_render hdeclarator
  simpa [render, Constant.lexemes, Punct.char] using hall

/-- The text of a variable is cut into its lexemes. -/
theorem Variable.spells_render {v : Variable} (hname : IsName v.name) (htype : v.type.IsSpelled) :
    Spells v.render.toList v.lexemes [] := by
  have hdeclarator := htype.spells_renderDeclarator hname (Lexeme.endsToken_mark .semicolon [])
    (.mark .semicolon (.done []))
  have hall := v.qualifiers.spells_render hdeclarator
  simpa [render, Variable.lexemes, Punct.char] using hall

/-- The text of a member of a block is cut into its lexemes. -/
theorem Field.spells_render {f : Field Ty} (hname : IsName f.name) (htype : f.type.IsSpelled)
    (h : Spells cs ls rest) : Spells (f.render.toList ++ cs) (f.lexemes ++ ls) rest := by
  have hdeclarator := htype.spells_renderDeclarator hname (Lexeme.endsToken_mark .semicolon _)
    (Spells.mark .semicolon h.newline)
  have hall := (f.qualifiers.spells_render hdeclarator).space.space.space.space
  simpa [render, Field.lexemes, Punct.char] using hall

/-- The text of members of a block is cut into their lexemes. -/
theorem Field.spells_join {fields : List (Field Ty)}
    (hfields : ∀ f ∈ fields, IsName f.name ∧ f.type.IsSpelled) (h : Spells cs ls rest) :
    Spells ((String.join (fields.map Field.render)).toList ++ cs)
      (fields.flatMap Field.lexemes ++ ls) rest := by
  induction fields with
  | nil => simpa using h
  | cons f fields ih =>
      rw [List.forall_mem_cons] at hfields
      simpa using Field.spells_render hfields.1.1 hfields.1.2 (ih hfields.2)

/-- The text of a block is cut into its lexemes. -/
theorem Block.spells_render {b : Block} (hname : IsName b.name)
    (hfields : ∀ f ∈ b.fields, IsName f.name ∧ f.type.IsSpelled) :
    Spells b.render.toList b.lexemes [] := by
  have hlist := Field.spells_join hfields (.mark .rightBrace (.mark .semicolon (.done [])))
  have hall := (Spells.mark .leftBrace hlist.newline).space.word hname (Lexeme.endsToken_space _)
  simpa [render, Block.lexemes, Punct.char] using hall

/-- The text of a parameter is cut into its lexemes. -/
theorem Parameter.spells_render {p : Parameter} (hname : ∀ name ∈ p.name, IsName name)
    (htype : p.type.IsSpelled) (hcs : EndsToken cs) (h : Spells cs ls rest) :
    Spells (p.render.toList ++ cs) (p.lexemes ++ ls) rest := by
  rw [render, Parameter.lexemes]
  cases hp : p.name with
  | none =>
      have hall := p.qualifiers.spells_render (htype.spells_render hcs h)
      simpa using hall
  | some name =>
      have hall := p.qualifiers.spells_render (htype.spells_renderDeclarator (hname name hp) hcs h)
      simpa using hall

/-- The text of parameters is cut into their lexemes. -/
theorem Parameter.spells_intercalate {ps : List Parameter}
    (hps : ∀ p ∈ ps, (∀ name ∈ p.name, IsName name) ∧ p.type.IsSpelled) (hcs : EndsToken cs)
    (h : Spells cs ls rest) :
    Spells ((", ".intercalate (ps.map Parameter.render)).toList ++ cs)
      ([.punct .comma].intercalate (ps.map Parameter.lexemes) ++ ls) rest := by
  induction ps with
  | nil => simpa using h
  | cons p ps ih =>
      rw [List.forall_mem_cons] at hps
      cases ps with
      | nil => simpa using Parameter.spells_render hps.1.1 hps.1.2 hcs h
      | cons q qs =>
          have hcomma := Spells.mark .comma (ih hps.2).space
          have hall :=
            Parameter.spells_render hps.1.1 hps.1.2 (Lexeme.endsToken_mark .comma _) hcomma
          simpa [List.intercalate_cons_cons, Punct.char] using hall

/-- The text of a function prototype is cut into its lexemes. -/
theorem Signature.spells_render {s : Signature} (hname : IsName s.name)
    (hreturn : s.returnType.IsSpelled)
    (hparameters : ∀ p ∈ s.parameters, (∀ name ∈ p.name, IsName name) ∧ p.type.IsSpelled) :
    Spells (s.render ++ ";").toList s.lexemes [] := by
  have hend := Spells.mark .rightParen (.mark .semicolon (.done []))
  have hlist := Parameter.spells_intercalate hparameters (Lexeme.endsToken_mark .rightParen _) hend
  have hall := hreturn.spells_render (Lexeme.endsToken_space _)
    ((Spells.mark .leftParen hlist).word hname (Lexeme.endsToken_mark .leftParen _)).space
  simpa [render, Signature.lexemes, Punct.char] using hall

/-- A text that is cut into lexemes is an input with the lexemes and without documentation. -/
theorem Scanner.Spells.exists_ofTokens {text : List Char} (h : Spells text ls []) :
    ∃ tokens, Token.tokenize text = .ok tokens ∧
      (Input.ofTokens tokens).map Documented.lexeme = ls ∧
      ∀ t ∈ Input.ofTokens tokens, t.doc = none := by
  obtain ⟨tokens, htokens, hlexemes⟩ := h.tokenize
  have hinput : Input.ofTokens tokens = tokens.map Documented.ofToken := by
    refine Input.ofTokens_eq_map fun t ht comment hcomment => ?_
    exact h.doc_not_mem comment (hlexemes ▸ hcomment ▸ List.mem_map_of_mem ht)
  refine ⟨tokens, htokens, ?_, ?_⟩
  · rw [hinput, List.map_map, ← hlexemes]
    rfl
  · rw [hinput, List.forall_mem_map]
    exact fun t _ => rfl

end GlslPrelude
