import GlslPrelude.Type.Name
import Mathlib.Data.List.Basic

/-!
# Reading the names of types

A name is taken apart by what its type can be: the stem in front of `vec` or `mat` and the
dimensions behind it, or the letter of a handle type, its base and the words that describe a
texture. What is read in this way is one of the names of a type (`Ty.isNameOf_of_ofName?`), and
every such name is read (`Ty.ofName?_eq_some_iff`). The text of a type is among its names
(`Ty.IsNameOf.render`), and the other ones spell out more than the text
(`Ty.IsNameOf.eq_render_or`).
-/

namespace GlslPrelude

namespace Text

variable {word : String} {cs front behind : List Char}

/-- A text is the word, if it begins with it, and the text without it. -/
theorem takeWord_append (word : String) (cs : List Char) :
    cs = (if (takeWord word cs).1 then word else "").toList ++ (takeWord word cs).2 := by
  unfold takeWord
  split
  · rename_i heq
    exact (List.isPrefixOf?_eq_some_iff_append_eq.1 heq).symm
  · rfl

/-- A text is what stands in front of the word, the word and what stands behind it. -/
theorem eq_append_of_partAt? (h : partAt? word cs = some (front, behind)) :
    cs = front ++ (word.toList ++ behind) := by
  fun_induction partAt? word cs generalizing front behind with
  | case1 => cases h
  | case2 c cs behind' heq =>
      cases h
      exact (List.isPrefixOf?_eq_some_iff_append_eq.1 heq).symm
  | case3 c cs _ ih =>
      obtain ⟨⟨front', behind'⟩, hparts, hcons⟩ := Option.map_eq_some_iff.1 h
      cases hcons
      rw [List.cons_append, ← ih hparts]

end Text

/-- What is read as a dimension is its digit. -/
theorem Dim.eq_digit_of_ofDigit? {text : List Char} {d : Dim} (h : ofDigit? text = some d) :
    text = d.digit.toList := by
  have hfound := List.find?_some h
  exact (eq_of_beq hfound).symm

/-- What is read as the size of a matrix are the digits of its dimensions, or the one of both. -/
theorem MatrixDim.eq_digits_of_ofDigits? {text : List Char} {d : MatrixDim}
    (h : ofDigits? text = some d) :
    text = (d.cols.digit ++ "x" ++ d.rows.digit).toList ∨
      d.rows = d.cols ∧ text = d.cols.digit.toList := by
  unfold ofDigits? at h
  split at h
  · rename_i hparts
    obtain ⟨cols, hcols, h⟩ := Option.bind_eq_some_iff.1 h
    obtain ⟨rows, hrows, h⟩ := Option.bind_eq_some_iff.1 h
    cases h
    rw [Text.eq_append_of_partAt? hparts, Dim.eq_digit_of_ofDigit? hcols,
      Dim.eq_digit_of_ofDigit? hrows, String.toList_append, String.toList_append,
      List.append_assoc]
    exact .inl rfl
  · obtain ⟨d, hd, h⟩ := Option.bind_eq_some_iff.1 h
    cases h
    exact .inr ⟨rfl, Dim.eq_digit_of_ofDigit? hd⟩

namespace Scalar

variable {k : Scalar} {text : List Char}

theorem mem_names_of_ofName? {w : String} (h : ofName? w = some k) :
    w ∈ k.name :: k.widthNames := by
  have hfound := List.find?_some h
  exact List.contains_iff_mem.1 hfound

theorem exists_stem_of_ofVectorStem? (h : ofVectorStem? text = some k) :
    ∃ stem ∈ k.vectorStem :: k.widthStems, text = stem.toList := by
  have hfound := List.find?_some h
  obtain ⟨stem, hmem, hstem⟩ := List.any_eq_true.1 hfound
  exact ⟨stem, hmem, (eq_of_beq hstem).symm⟩

theorem exists_stem_of_ofMatrixStem? (h : ofMatrixStem? text = some k) :
    ∃ short ∈ k.matrixStem?, ∃ stem ∈ short :: k.widthStems, text = stem.toList := by
  have hfound := List.find?_some h
  cases hshort : k.matrixStem? with
  | none => simp [hshort] at hfound
  | some short =>
      rw [hshort, Option.any_some] at hfound
      obtain ⟨stem, hmem, hstem⟩ := List.any_eq_true.1 hfound
      exact ⟨short, rfl, stem, hmem, (eq_of_beq hstem).symm⟩

end Scalar

/-! ## Handle types -/

/-- A name is the letter for a kind of components and what stands behind it. -/
theorem Texel.takeLetter_append (name : List Char) :
    name = (takeLetter name).1.scalar.vectorStem.toList ++ (takeLetter name).2 := by
  unfold takeLetter
  split
  · split <;> simp [scalar, Scalar.vectorStem]
  · simp [scalar, Scalar.vectorStem]
  · simp [scalar, Scalar.vectorStem]

theorem TextureDim.eq_append_of_take? {cs rest : List Char} {dim : TextureDim}
    (h : take? cs = some (dim, rest)) : cs = dim.name.toList ++ rest := by
  obtain ⟨dim', -, hfound⟩ := List.exists_of_findSome?_eq_some h
  obtain ⟨rest', hprefix, heq⟩ := Option.map_eq_some_iff.1 hfound
  cases heq
  exact (List.isPrefixOf?_eq_some_iff_append_eq.1 hprefix).symm

namespace Texture

variable {sampled : Texel} {cs : List Char} {t : Texture}

/-- What is read as a texture describes it, and the language has the texture. -/
theorem eq_name_of_ofName? (h : ofName? sampled cs = some t) :
    t.isValid = true ∧ t.sampled = sampled ∧ cs = (t.dim.name ++
      (if t.isMultisample then "MS" else "") ++ (if t.isArray then "Array" else "") ++
        (if t.isShadow then "Shadow" else "")).toList := by
  obtain ⟨⟨dim, rest⟩, hdim, h⟩ := Option.bind_eq_some_iff.1 h
  dsimp only at h
  split at h
  · rename_i hvalid
    rw [Bool.and_eq_true, List.isEmpty_iff] at hvalid
    have ht := Option.some.inj h
    refine ⟨ht ▸ hvalid.2, ht ▸ rfl, ?_⟩
    -- the words stand one behind the other, and nothing behind them
    rw [TextureDim.eq_append_of_take? hdim, Text.takeWord_append "MS" rest,
      Text.takeWord_append "Array" (Text.takeWord "MS" rest).2,
      Text.takeWord_append "Shadow" (Text.takeWord "Array" (Text.takeWord "MS" rest).2).2,
      hvalid.1, ← ht]
    simp
  · cases h

/-- The list has the textures of the language. -/
theorem mem_all_iff : t ∈ all ↔ t.isValid = true := by
  have hsampled : t.sampled ∈ Texel.all := by cases t.sampled <;> decide
  have hdim : t.dim ∈ TextureDim.all := by cases t.dim <;> decide
  have hflag (b : Bool) : b ∈ [false, true] := by cases b <;> decide
  rw [all, List.mem_filter, and_iff_right_iff_imp]
  intro _
  simp only [List.mem_flatMap, List.mem_map]
  exact ⟨t.sampled, hsampled, t.dim, hdim, t.isMultisample, hflag _, t.isArray, hflag _, t.isShadow,
    hflag _, rfl⟩

end Texture

namespace Handle

variable {sampled : Texel} {cs : List Char} {h : Handle} {w : String}

/-- What is read behind the letter for the kind of components is the rest of a name. -/
theorem eq_name_of_ofBase? (hread : ofBase? sampled cs = some h) :
    h ∈ all ∧ sampled.scalar.vectorStem.toList ++ cs = h.name.toList := by
  have hsampled : sampled ∈ Texel.all := by cases sampled <;> decide
  have htexture {base : String} {suffix : List Char} {t : Texture}
      (hbase : base.toList.isPrefixOf? cs = some suffix)
      (ht : Texture.ofName? sampled suffix = some t) :
      t ∈ Texture.all ∧ sampled.scalar.vectorStem.toList ++ cs = (t.name base).toList := by
    obtain ⟨hvalid, rfl, rfl⟩ := Texture.eq_name_of_ofName? ht
    rw [← List.isPrefixOf?_eq_some_iff_append_eq.1 hbase]
    exact ⟨Texture.mem_all_iff.2 hvalid, by simp [Texture.name]⟩
  unfold ofBase? at hread
  split at hread
  · rename_i suffix hbase
    rw [← List.isPrefixOf?_eq_some_iff_append_eq.1 hbase]
    split at hread
    · rename_i hsuffix
      cases hread
      exact ⟨by simp [all, hsampled], by simp [name, hsuffix]⟩
    · split at hread <;> cases hread
      rename_i hsuffix
      exact ⟨by simp [all, hsampled], by simp [name, hsuffix]⟩
  · split at hread
    · rename_i hbase
      obtain ⟨t, ht, rfl⟩ := Option.map_eq_some_iff.1 hread
      obtain ⟨hmem, hname⟩ := htexture hbase ht
      exact ⟨by simp [all, hmem], hname⟩
    · obtain ⟨suffix, hbase, hread⟩ := Option.bind_eq_some_iff.1 hread
      obtain ⟨t, ht, rfl⟩ := Option.map_eq_some_iff.1 hread
      obtain ⟨ht, hshadow⟩ := Option.filter_eq_some_iff.1 ht
      obtain ⟨hmem, hname⟩ := htexture hbase ht
      exact ⟨by simpa [all, hmem] using hshadow, hname⟩

/-- What is read as a handle type is its name. -/
theorem eq_name_of_ofName? (hread : ofName? w = some h) : h ∈ all ∧ w = h.name := by
  unfold ofName? at hread
  split at hread
  · rename_i hfound
    cases hread
    have hname := List.find?_some hfound
    have hmem := List.mem_of_find?_eq_some hfound
    have hall : h ∈ all := by
      rw [all, List.append_assoc, List.append_assoc]
      exact List.mem_append_left _ hmem
    exact ⟨hall, (eq_of_beq hname).symm⟩
  · obtain ⟨hmem, hname⟩ := eq_name_of_ofBase? hread
    rw [← Texel.takeLetter_append] at hname
    exact ⟨hmem, String.toList_injective hname⟩

end Handle

namespace Ty

variable {w : String} {t : Ty}

/-! ## Names of types -/

/-- The names of the types that have names. -/
inductive IsNameOf : String → Ty → Prop
  /-- The name of `void`. -/
  | void : IsNameOf "void" .void
  /-- The name of a scalar type, or one that spells out its width. -/
  | scalar {k : Scalar} {w : String} : w ∈ k.name :: k.widthNames → IsNameOf w (.scalar k)
  /-- A stem and the dimension of a vector. -/
  | vector {k : Scalar} {stem : String} (d : Dim) : stem ∈ k.vectorStem :: k.widthStems →
      IsNameOf (stem ++ "vec" ++ d.digit) (.vector k d)
  /-- A stem and both dimensions of a matrix. -/
  | matrix {k : Scalar} {short stem : String} (d : MatrixDim) : short ∈ k.matrixStem? →
      stem ∈ short :: k.widthStems →
      IsNameOf (stem ++ "mat" ++ d.cols.digit ++ "x" ++ d.rows.digit) (.matrix k d)
  /-- A stem and the dimension of a square matrix. -/
  | square {k : Scalar} {short stem : String} (d : Dim) : short ∈ k.matrixStem? →
      stem ∈ short :: k.widthStems → IsNameOf (stem ++ "mat" ++ d.digit) (.matrix k ⟨d, d⟩)
  /-- The name of a handle type of the language. -/
  | handle {h : Handle} : h ∈ Handle.all → IsNameOf h.name (.handle h)

/-- A matrix type is written with one dimension if it is square. -/
theorem render_matrix {k : Scalar} {short : String} (hshort : short ∈ k.matrixStem?)
    (d : MatrixDim) : render (.matrix k d) =
      if d.cols = d.rows then short ++ "mat" ++ d.cols.digit
      else short ++ "mat" ++ d.cols.digit ++ "x" ++ d.rows.digit := by
  rw [render, hshort, Option.getD_some, MatrixDim.name, MatrixDim.isSquare]
  by_cases hsquare : d.cols = d.rows <;> simp [hsquare, String.append_assoc]

/-- The text of a matrix type is a name of it. -/
theorem isNameOf_render_matrix {k : Scalar} {short : String} (hshort : short ∈ k.matrixStem?)
    (d : MatrixDim) : IsNameOf (render (.matrix k d)) (.matrix k d) := by
  obtain ⟨cols, rows⟩ := d
  rw [render_matrix hshort]
  split
  · rename_i hsquare
    obtain rfl : cols = rows := hsquare
    exact .square cols hshort List.mem_cons_self
  · exact .matrix ⟨cols, rows⟩ hshort List.mem_cons_self

/-- The text of a type that has names is one of them. -/
theorem IsNameOf.render (h : IsNameOf w t) : IsNameOf t.render t := by
  cases h with
  | void => exact .void
  | scalar => exact .scalar List.mem_cons_self
  | vector d => exact .vector d List.mem_cons_self
  | matrix d hshort => exact isNameOf_render_matrix hshort d
  | square d hshort => exact isNameOf_render_matrix hshort ⟨d, d⟩
  | handle hmem => exact .handle hmem

/-- The names of the matrix types with a stem and a number of columns are in the table. -/
theorem mem_matrixNames {k : Scalar} {short stem : String} {e : String × Ty}
    (hshort : short ∈ k.matrixStem?) (hstem : stem ∈ short :: k.widthStems) (cols : Dim)
    (he : e ∈ (stem ++ "mat" ++ cols.digit, .matrix k ⟨cols, cols⟩) ::
      Dim.all.map fun rows =>
        (stem ++ "mat" ++ cols.digit ++ "x" ++ rows.digit, .matrix k ⟨cols, rows⟩)) :
    e ∈ matrixNames := by
  have hcols : cols ∈ Dim.all := by cases cols <;> decide
  rw [matrixNames, List.mem_flatMap]
  refine ⟨k, mem_elements k, ?_⟩
  rw [hshort]
  simp only [List.mem_flatMap]
  exact ⟨stem, hstem, cols, hcols, he⟩

/-- The names of types are those of the table. -/
theorem IsNameOf.mem_names (h : IsNameOf w t) : (w, t) ∈ names := by
  have hdim (d : Dim) : d ∈ Dim.all := by cases d <;> decide
  simp only [names, List.mem_cons, List.mem_append]
  cases h with
  | void => exact .inl rfl
  | @scalar k _ hw =>
      refine .inr (.inl (.inl (.inl ?_)))
      rw [scalarNames, List.mem_flatMap]
      exact ⟨k, mem_elements k, List.mem_map_of_mem hw⟩
  | @vector k stem d hstem =>
      refine .inr (.inl (.inl (.inr ?_)))
      simp only [vectorNames, List.mem_flatMap]
      exact ⟨k, mem_elements k, stem, hstem, List.mem_map_of_mem (hdim d)⟩
  | matrix d hshort hstem =>
      exact .inr (.inl (.inr (mem_matrixNames hshort hstem d.cols
        (List.mem_cons_of_mem _ (List.mem_map_of_mem (hdim d.rows))))))
  | square d hshort hstem =>
      exact .inr (.inl (.inr (mem_matrixNames hshort hstem d List.mem_cons_self)))
  | handle hmem => exact .inr (.inr (List.mem_map_of_mem hmem))

/-- The stem of matrix types is taken off a name together with the word behind it. -/
theorem exists_stem_of_takeMatrixStem? {k : Scalar} {name dims : List Char}
    (h : takeMatrixStem? name = some (k, dims)) :
    ∃ short ∈ k.matrixStem?, ∃ stem ∈ short :: k.widthStems,
      name = (stem ++ "mat").toList ++ dims := by
  obtain ⟨⟨front, behind⟩, hparts, h⟩ := Option.bind_eq_some_iff.1 h
  obtain ⟨_, hk, heq⟩ := Option.map_eq_some_iff.1 h
  obtain ⟨rfl, rfl⟩ := Prod.mk.inj heq
  obtain ⟨short, hshort, stem, hstem, rfl⟩ := Scalar.exists_stem_of_ofMatrixStem? hk
  refine ⟨short, hshort, stem, hstem, ?_⟩
  rw [Text.eq_append_of_partAt? hparts, String.toList_append, List.append_assoc]

/-- What is read as the size behind a stem makes a name of a matrix type. -/
theorem isNameOf_of_ofDigits? {k : Scalar} {short stem : String} {dims : List Char} {d : MatrixDim}
    (hshort : short ∈ k.matrixStem?) (hstem : stem ∈ short :: k.widthStems)
    (hd : MatrixDim.ofDigits? dims = some d) (hw : w.toList = (stem ++ "mat").toList ++ dims) :
    IsNameOf w (.matrix k d) := by
  obtain ⟨cols, rows⟩ := d
  rcases MatrixDim.eq_digits_of_ofDigits? hd with rfl | ⟨hsquare, rfl⟩
  · have hname : w = stem ++ "mat" ++ cols.digit ++ "x" ++ rows.digit := by
      rw [← String.toList_inj, hw]
      simp
    exact hname ▸ .matrix ⟨cols, rows⟩ hshort hstem
  · have hname : w = stem ++ "mat" ++ cols.digit := by
      rw [← String.toList_inj, hw]
      simp
    obtain rfl : rows = cols := hsquare
    exact hname ▸ .square rows hshort hstem

/-- What is read as a type is a name of it. -/
theorem isNameOf_of_ofName? (h : ofName? w = some t) : IsNameOf w t := by
  unfold ofName? at h
  split at h
  · rename_i hvoid
    cases h
    exact hvoid ▸ .void
  · split at h
    · rename_i hscalar
      cases h
      exact .scalar (Scalar.mem_names_of_ofName? hscalar)
    · split at h
      · rename_i hparts
        obtain ⟨k, hk, h⟩ := Option.bind_eq_some_iff.1 h
        obtain ⟨d, hd, h⟩ := Option.bind_eq_some_iff.1 h
        cases h
        obtain ⟨stem, hstem, rfl⟩ := Scalar.exists_stem_of_ofVectorStem? hk
        have hw : w = stem ++ "vec" ++ d.digit := by
          rw [← String.toList_inj, Text.eq_append_of_partAt? hparts, Dim.eq_digit_of_ofDigit? hd]
          simp
        exact hw ▸ .vector d hstem
      · split at h
        · rename_i hmatrix
          obtain ⟨d, hd, rfl⟩ := Option.map_eq_some_iff.1 h
          obtain ⟨short, hshort, stem, hstem, hw⟩ := exists_stem_of_takeMatrixStem? hmatrix
          exact isNameOf_of_ofDigits? hshort hstem hd hw
        · obtain ⟨h, hread, rfl⟩ := Option.map_eq_some_iff.1 h
          obtain ⟨hmem, rfl⟩ := Handle.eq_name_of_ofName? hread
          exact .handle hmem

/-- The names that are read are those of types. -/
theorem ofName?_eq_some_iff : ofName? w = some t ↔ IsNameOf w t := by
  constructor
  · exact isNameOf_of_ofName?
  · intro h
    -- there are only as many names as the table has, and each of them is read
    have hall : ∀ e ∈ names, ofName? e.1 = some e.2 := by decide +kernel
    exact hall _ h.mem_names

/-! ## Several names of a type -/

/-- The name spells out a width that the text of its type leaves out. -/
def SpellsWidth (w : String) : Prop :=
  w ∈ ["int32_t", "uint32_t", "float32_t", "float64_t"] ∨
    ∃ stem ∈ ["i32", "u32", "f32", "f64"], ∃ word ∈ ["vec", "mat"],
      (stem ++ word).toList <+: w.toList

/-- The name ends in both dimensions of a square matrix. -/
def SpellsSquare (w : String) : Prop :=
  ∃ d ∈ Dim.all, ("mat" ++ d.digit ++ "x" ++ d.digit).toList <:+ w.toList

instance (w : String) : Decidable (SpellsWidth w) :=
  inferInstanceAs (Decidable (_ ∨ _))

instance (w : String) : Decidable (SpellsSquare w) :=
  inferInstanceAs (Decidable (∃ d ∈ Dim.all, _))

/-- A stem that spells out a width does so in front of `vec` and `mat`. -/
theorem spellsWidth_of_mem_widthStems {k : Scalar} {stem word : String}
    (hstem : stem ∈ k.widthStems) (hword : word ∈ ["vec", "mat"]) (dims : String) :
    SpellsWidth (stem ++ word ++ dims) := by
  have hstems : stem ∈ ["i32", "u32", "f32", "f64"] := by
    cases k <;> simp_all [Scalar.widthStems]
  refine .inr ⟨stem, hstems, word, hword, ?_⟩
  exact ⟨dims.toList, String.toList_append.symm⟩

/-- A name of a type is the text of the type, or spells out a width or a square. -/
theorem IsNameOf.eq_render_or (h : IsNameOf w t) :
    w = t.render ∨ SpellsWidth w ∨ SpellsSquare w := by
  cases h with
  | void => exact .inl rfl
  | @scalar k w hw =>
      rcases List.mem_cons.1 hw with rfl | hwidth
      · exact .inl rfl
      · refine .inr (.inl (.inl ?_))
        cases k <;> simp_all [Scalar.widthNames]
  | @vector k stem d hstem =>
      rcases List.mem_cons.1 hstem with rfl | hwidth
      · exact .inl rfl
      · exact .inr (.inl (spellsWidth_of_mem_widthStems hwidth (by decide) _))
  | @matrix k short stem d hshort hstem =>
      rcases List.mem_cons.1 hstem with rfl | hwidth
      · by_cases hsquare : d.cols = d.rows
        · have hdim : d.rows ∈ Dim.all := by cases d.rows <;> decide
          refine .inr (.inr ⟨d.rows, hdim, stem.toList, ?_⟩)
          simp [hsquare]
        · exact .inl (by rw [render_matrix hshort, if_neg hsquare])
      · have hwidth' := spellsWidth_of_mem_widthStems hwidth
          (show "mat" ∈ ["vec", "mat"] by decide) (d.cols.digit ++ "x" ++ d.rows.digit)
        rw [← String.append_assoc, ← String.append_assoc] at hwidth'
        exact .inr (.inl hwidth')
  | @square k short stem d hshort hstem =>
      rcases List.mem_cons.1 hstem with rfl | hwidth
      · exact .inl (by rw [render_matrix hshort, if_pos rfl])
      · exact .inr (.inl (spellsWidth_of_mem_widthStems hwidth (by decide) _))
  | handle => exact .inl rfl

/-- A name of a type is another one than its text exactly if it spells out a width or a square. -/
theorem IsNameOf.ne_render_iff (h : IsNameOf w t) :
    w ≠ t.render ↔ SpellsWidth w ∨ SpellsSquare w := by
  constructor
  · exact fun hne => h.eq_render_or.resolve_left hne
  · have hall : ∀ e ∈ names, SpellsWidth e.1 ∨ SpellsSquare e.1 → e.1 ≠ e.2.render := by
      decide +kernel
    exact hall _ h.mem_names

/-- Types that have names are told apart by their texts. -/
theorem IsNameOf.eq_of_render_eq {v : String} {u : Ty} (ht : IsNameOf w t) (hu : IsNameOf v u)
    (heq : u.render = t.render) : u = t := by
  have ht' := ofName?_eq_some_iff.2 ht.render
  have hu' := ofName?_eq_some_iff.2 hu.render
  rw [heq, ht'] at hu'
  exact (Option.some.inj hu').symm

/-- Exactly the names of types are read. A name refers to a type that is no interface block and no
array, and the text of the type refers to it as well, so that the types which names refer to have
different texts. The name is another one than the text exactly if it spells out a width, or a square
in both dimensions. -/
theorem names_are_read_back :
    (∀ w t, ofName? w = some t ↔ IsNameOf w t) ∧
      ∀ w t, ofName? w = some t →
        ((∀ name fields, t ≠ .struct name fields) ∧ ∀ element size, t ≠ .array element size) ∧
          ofName? t.render = some t ∧
          (∀ v u, ofName? v = some u → u ≠ t → u.render ≠ t.render) ∧
          (w ≠ t.render ↔ SpellsWidth w ∨ SpellsSquare w) := by
  refine ⟨fun w t => ofName?_eq_some_iff, fun w t h => ?_⟩
  have hname := ofName?_eq_some_iff.1 h
  refine ⟨?_, ofName?_eq_some_iff.2 hname.render, ?_, hname.ne_render_iff⟩
  · cases hname <;> exact ⟨by simp, by simp⟩
  · exact fun v u hu hne heq => hne (hname.eq_of_render_eq (ofName?_eq_some_iff.1 hu) heq)

/-- Both dimensions of a square matrix behind a stem that spells out the width. -/
theorem names_are_read_back_of_f32mat3x3 :
    ofName? "f32mat3x3" = some (.matrix .float ⟨.three, .three⟩) ∧
      ofName? "mat3" = some (.matrix .float ⟨.three, .three⟩) ∧
      (∀ v u, ofName? v = some u → u ≠ .matrix .float ⟨.three, .three⟩ → u.render ≠ "mat3") ∧
      (SpellsWidth "f32mat3x3" ∨ SpellsSquare "f32mat3x3") := by
  have h : ofName? "f32mat3x3" = some (.matrix .float ⟨.three, .three⟩) := by decide +kernel
  obtain ⟨-, hrender, hothers, hiff⟩ := names_are_read_back.2 _ _ h
  exact ⟨h, hrender, hothers, hiff.1 (by decide)⟩

end Ty

end GlslPrelude
