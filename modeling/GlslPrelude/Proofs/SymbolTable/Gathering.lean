import Mathlib.Data.List.Induction
import Mathlib.Data.List.Pairwise

/-!
# Gathering elements

Elements are gathered one after the other. One that repeats a kept element is dropped, one that
clashes with a kept element ends the gathering, and every other one is kept behind the earlier ones.
A new element is only compared with kept ones, and only until the first of them decides.

Dropped elements are not forgotten: by the laws of a `GatheringRule`, repeated elements clash with
the same elements, so the kept elements stand for all the gathered ones (`Represents`). Hence
elements can be gathered exactly when no two of them clash (`exists_gather?_iff`), in any order,
repeating them changes nothing (`enter?_eq_self_of_gather?`), and leaving out elements before or
after the gathering makes no difference (`gather?_filter`).
-/

namespace GlslPrelude

/-- When elements repeat each other and when they clash. -/
structure GatheringRule (α : Type) where
  /-- The second element adds nothing to the first. -/
  repeats : α → α → Bool
  /-- The elements cannot be gathered together. -/
  clashes : α → α → Bool
  /-- It does not matter which of two clashing elements comes first. -/
  clashes_comm : ∀ a b, clashes a b = clashes b a
  /-- Repeated elements clash with the same elements. -/
  clashes_congr : ∀ {a b}, repeats a b = true → ∀ c, clashes a c = clashes b c
  /-- Repeated elements do not clash with each other. -/
  not_clashes : ∀ {a b}, repeats a b = true → clashes a b = false

namespace GatheringRule

variable {α : Type} (rule : GatheringRule α)

/-- The kept elements after a new one has come, or `none` if it clashes. -/
def enter? (new : α) : List α → Option (List α)
  | [] => some [new]
  | old :: olds =>
    if rule.repeats old new then some (old :: olds)
    else if rule.clashes old new then none
    else (enter? new olds).map (old :: ·)

/-- The kept elements of a list, or `none` if an element clashes with an earlier one. -/
def gather? (as : List α) : Option (List α) :=
  as.foldlM (fun kept a => rule.enter? a kept) []

variable {rule} {new : α} {olds kept as bs : List α}

@[simp]
theorem gather?_nil : rule.gather? [] = some [] :=
  rfl

@[simp]
theorem gather?_concat (as : List α) (a : α) :
    rule.gather? (as ++ [a]) = (rule.gather? as).bind (rule.enter? a) := by
  simp [gather?, List.foldlM_append]

/-- What can be gathered can be gathered up to any place. -/
theorem exists_gather?_of_append (h : rule.gather? (as ++ bs) = some kept) :
    ∃ before, rule.gather? as = some before := by
  rw [gather?, List.foldlM_append] at h
  obtain ⟨before, hbefore, -⟩ := Option.bind_eq_some_iff.1 h
  exact ⟨before, hbefore⟩

/-- The first kept element that is repeated or clashes decides about a new one. -/
theorem enter?_cases (rule : GatheringRule α) (new : α) (olds : List α) :
    (rule.enter? new olds = some (olds ++ [new]) ∧ ∀ old ∈ olds, rule.clashes old new = false) ∨
    (rule.enter? new olds = some olds ∧ ∃ old ∈ olds, rule.repeats old new = true) ∨
    (rule.enter? new olds = none ∧ ∃ old ∈ olds, rule.clashes old new = true) := by
  induction olds with
  | nil => simp [enter?]
  | cons old olds ih =>
      rw [enter?]
      by_cases hrepeats : rule.repeats old new = true
      · exact .inr (.inl ⟨if_pos hrepeats, old, List.mem_cons_self, hrepeats⟩)
      · rw [if_neg hrepeats]
        by_cases hclashes : rule.clashes old new = true
        · exact .inr (.inr ⟨if_pos hclashes, old, List.mem_cons_self, hclashes⟩)
        · rw [if_neg hclashes]
          rcases ih with ⟨h, hnone⟩ | ⟨h, hsome⟩ | ⟨h, hsome⟩ <;> rw [h]
          · exact .inl ⟨rfl, List.forall_mem_cons.2 ⟨Bool.eq_false_iff.2 hclashes, hnone⟩⟩
          · exact .inr (.inl ⟨rfl, by simpa using .inr hsome⟩)
          · exact .inr (.inr ⟨rfl, by simpa using .inr hsome⟩)

theorem ne_nil_of_enter?_eq_some (h : rule.enter? new olds = some kept) : kept ≠ [] := by
  rcases rule.enter?_cases new olds with ⟨hsome, -⟩ | ⟨hsome, old, hold, -⟩ | ⟨hnone, -⟩
  · obtain rfl := Option.some.inj (hsome.symm.trans h)
    simp
  · obtain rfl := Option.some.inj (hsome.symm.trans h)
    exact List.ne_nil_of_mem hold
  · cases hnone.symm.trans h

theorem ne_nil_of_gather?_eq_some (h : rule.gather? as = some kept) (has : as ≠ []) :
    kept ≠ [] := by
  rw [← List.dropLast_concat_getLast has, gather?_concat] at h
  obtain ⟨before, -, hnext⟩ := Option.bind_eq_some_iff.1 h
  exact ne_nil_of_enter?_eq_some hnext

/-- What decides by the rule about elements that it sees through `view` enters them. -/
theorem map_eq_enter? {β : Type} {view : β → α} {b : β} {add : List β → Option (List β)}
    (hnil : add [] = some [b])
    (hcons : ∀ old olds, add (old :: olds) =
      if rule.repeats (view old) (view b) then some (old :: olds)
      else if rule.clashes (view old) (view b) then none
      else (add olds).map (old :: ·)) (olds : List β) :
    (add olds).map (List.map view) = rule.enter? (view b) (olds.map view) := by
  induction olds with
  | nil =>
      rw [hnil]
      rfl
  | cons old olds ih =>
      rw [hcons, List.map_cons, enter?, ← ih]
      by_cases hrepeats : rule.repeats (view old) (view b) = true
      · rw [if_pos hrepeats, if_pos hrepeats]
        rfl
      · rw [if_neg hrepeats, if_neg hrepeats]
        by_cases hclashes : rule.clashes (view old) (view b) = true
        · rw [if_pos hclashes, if_pos hclashes]
          rfl
        · rw [if_neg hclashes, if_neg hclashes, Option.map_map, Option.map_map]
          rfl

/-- What is kept is taken from what is gathered, in the same order. -/
theorem sublist_of_gather? (h : rule.gather? as = some kept) : kept.Sublist as := by
  induction as using List.reverseRecOn generalizing kept with
  | nil =>
      cases h
      exact List.Sublist.refl _
  | append_singleton as a ih =>
      rw [gather?_concat] at h
      obtain ⟨before, hbefore, hnext⟩ := Option.bind_eq_some_iff.1 h
      rcases rule.enter?_cases a before with ⟨hsome, -⟩ | ⟨hsome, -⟩ | ⟨hnone, -⟩
      · obtain rfl := Option.some.inj (hsome.symm.trans hnext)
        exact (ih hbefore).append (List.Sublist.refl [a])
      · obtain rfl := Option.some.inj (hsome.symm.trans hnext)
        exact (ih hbefore).trans (List.sublist_append_left as [a])
      · cases hnone.symm.trans hnext

/-! ## Kept elements stand for all -/

variable (rule) in
/-- The kept elements do not clash with each other, and they clash with the same elements as all the
gathered ones do. -/
structure Represents (kept all : List α) : Prop where
  /-- No two kept elements clash. -/
  pairwise : kept.Pairwise (rule.clashes · · = false)
  /-- What clashes with a gathered element clashes with a kept one. -/
  exists_clashes_iff : ∀ b,
    (∃ a ∈ kept, rule.clashes a b = true) ↔ ∃ a ∈ all, rule.clashes a b = true

variable {all : List α}

/-- What repeats a kept element clashes with no kept one. -/
theorem Represents.not_clashes_of_repeats (h : rule.Represents kept all) {old : α}
    (hold : old ∈ kept) (hrepeats : rule.repeats old new = true) :
    ∀ a ∈ kept, rule.clashes a new = false := by
  intro a ha
  rw [rule.clashes_comm, ← rule.clashes_congr hrepeats]
  by_cases hne : old = a
  · rw [← hne, rule.clashes_comm, rule.clashes_congr hrepeats, rule.clashes_comm,
      rule.not_clashes hrepeats]
  · have hsymm : Std.Symm (rule.clashes · · = false) :=
      ⟨fun x y hxy => (rule.clashes_comm y x).trans hxy⟩
    exact h.pairwise.forall hold ha hne

/-- A new element cannot be gathered exactly if it clashes with one of those gathered before. -/
theorem Represents.enter?_eq_none_iff (h : rule.Represents kept all) :
    rule.enter? new kept = none ↔ ∃ a ∈ all, rule.clashes a new = true := by
  rw [← h.exists_clashes_iff]
  rcases rule.enter?_cases new kept with ⟨hsome, hnone⟩ | ⟨hsome, old, hold, hrepeats⟩ |
    ⟨hnone, hclash⟩
  · simpa [hsome] using hnone
  · simpa [hsome] using h.not_clashes_of_repeats hold hrepeats
  · simp [hnone, hclash]

/-- When a new element has come, the kept elements stand for it too. -/
theorem Represents.of_enter?_eq_some (h : rule.Represents kept all) {next : List α}
    (hnext : rule.enter? new kept = some next) : rule.Represents next (all ++ [new]) := by
  rcases rule.enter?_cases new kept with ⟨hsome, hnone⟩ | ⟨hsome, old, hold, hrepeats⟩ |
    ⟨hnone, -⟩
  · obtain rfl := Option.some.inj (hsome.symm.trans hnext)
    refine ⟨?_, fun b => ?_⟩
    · rw [List.pairwise_append]
      exact ⟨h.pairwise, List.pairwise_singleton _ _, by simpa using hnone⟩
    · simp only [List.mem_append, List.mem_singleton, or_and_right, exists_or,
        h.exists_clashes_iff b]
  · obtain rfl := Option.some.inj (hsome.symm.trans hnext)
    refine ⟨h.pairwise, fun b => ?_⟩
    rw [h.exists_clashes_iff b]
    constructor
    · rintro ⟨a, ha, hclashes⟩
      exact ⟨a, List.mem_append_left _ ha, hclashes⟩
    · rintro ⟨a, ha, hclashes⟩
      rcases List.mem_append.1 ha with ha | ha
      · exact ⟨a, ha, hclashes⟩
      · -- a dropped element clashes with what the repeated one clashes with
        obtain rfl := List.mem_singleton.1 ha
        rw [← rule.clashes_congr hrepeats] at hclashes
        exact (h.exists_clashes_iff b).1 ⟨old, hold, hclashes⟩
  · cases hnone.symm.trans hnext

/-- The kept elements stand for all the gathered ones. -/
theorem represents_of_gather? (h : rule.gather? as = some kept) : rule.Represents kept as := by
  induction as using List.reverseRecOn generalizing kept with
  | nil =>
      cases h
      exact ⟨List.Pairwise.nil, fun b => Iff.rfl⟩
  | append_singleton as a ih =>
      rw [gather?_concat] at h
      obtain ⟨before, hbefore, hnext⟩ := Option.bind_eq_some_iff.1 h
      exact (ih hbefore).of_enter?_eq_some hnext

/-- Elements can be gathered exactly when no two of them clash. -/
theorem exists_gather?_iff :
    (∃ kept, rule.gather? as = some kept) ↔ as.Pairwise (rule.clashes · · = false) := by
  induction as using List.reverseRecOn with
  | nil => simp
  | append_singleton as a ih =>
      rw [gather?_concat, List.pairwise_append, ← ih]
      cases hbefore : rule.gather? as with
      | none => simp
      | some before =>
          -- the last element is refused exactly if it clashes with one of those in front
          have hnone : rule.enter? a before = none ↔ ∃ b ∈ as, rule.clashes b a = true :=
            (represents_of_gather? hbefore).enter?_eq_none_iff
          rw [Option.bind_some, ← Option.isSome_iff_exists, ← Option.ne_none_iff_isSome, ne_eq,
            hnone]
          simp

/-! ## Repeating elements -/

/-- What repeats a kept element and clashes with none leaves the kept elements as they are. -/
theorem enter?_eq_self (hrepeats : ∃ old ∈ olds, rule.repeats old new = true)
    (hclashes : ∀ old ∈ olds, rule.clashes old new = false) : rule.enter? new olds = some olds := by
  induction olds with
  | nil => simp at hrepeats
  | cons old olds ih =>
      rw [List.forall_mem_cons] at hclashes
      rw [enter?]
      by_cases hold : rule.repeats old new = true
      · exact if_pos hold
      · rw [if_neg hold, if_neg (by simp [hclashes.1]),
          ih (by simpa [hold] using hrepeats) hclashes.2]
        rfl

/-- A gathered element is kept, or it was dropped because it repeats a kept one. -/
theorem mem_or_exists_repeats_of_gather? (h : rule.gather? as = some kept) {a : α} (ha : a ∈ as) :
    a ∈ kept ∨ ∃ old ∈ kept, rule.repeats old a = true := by
  induction as using List.reverseRecOn generalizing kept with
  | nil => cases ha
  | append_singleton as b ih =>
      rw [gather?_concat] at h
      obtain ⟨before, hbefore, hnext⟩ := Option.bind_eq_some_iff.1 h
      -- later elements take nothing away from what is kept
      have hsubset : before ⊆ kept ∧ (b ∈ kept ∨ ∃ old ∈ kept, rule.repeats old b = true) := by
        rcases rule.enter?_cases b before with ⟨hsome, -⟩ | ⟨hsome, hrepeats⟩ | ⟨hnone, -⟩
        · obtain rfl := Option.some.inj (hsome.symm.trans hnext)
          exact ⟨List.subset_append_left before [b], .inl (by simp)⟩
        · obtain rfl := Option.some.inj (hsome.symm.trans hnext)
          exact ⟨List.Subset.refl before, .inr hrepeats⟩
        · cases hnone.symm.trans hnext
      rcases List.mem_append.1 ha with ha | ha
      · exact (ih hbefore ha).imp (hsubset.1 ·) fun ⟨old, hold, hrepeats⟩ =>
          ⟨old, hsubset.1 hold, hrepeats⟩
      · obtain rfl := List.mem_singleton.1 ha
        exact hsubset.2

/-- What repeats a gathered element adds nothing, also if that element was dropped itself. It has
to repeat what the gathered element repeats. -/
theorem enter?_eq_self_of_gather? (h : rule.gather? as = some kept) {a : α} (ha : a ∈ as)
    (hrepeats : rule.repeats a new = true)
    (htrans : ∀ old, rule.repeats old a = true → rule.repeats old new = true) :
    rule.enter? new kept = some kept := by
  obtain ⟨old, hold, hnew⟩ : ∃ old ∈ kept, rule.repeats old new = true := by
    rcases mem_or_exists_repeats_of_gather? h ha with hkept | ⟨old, hold, hdropped⟩
    · exact ⟨a, hkept, hrepeats⟩
    · exact ⟨old, hold, htrans old hdropped⟩
  exact enter?_eq_self ⟨old, hold, hnew⟩
    ((represents_of_gather? h).not_clashes_of_repeats hold hnew)

/-! ## Leaving elements out -/

section Filter

variable {keep : α → Bool}

/-- A new element that stays is entered alike when others are left out before. -/
theorem enter?_filter (hkeep : ∀ a b, rule.repeats a b = true → keep a = keep b)
    (hnew : keep new = true) (h : rule.enter? new olds = some kept) :
    rule.enter? new (olds.filter keep) = some (kept.filter keep) := by
  induction olds generalizing kept with
  | nil =>
      cases h
      simp [enter?, hnew]
  | cons old olds ih =>
      rw [enter?] at h
      by_cases hrepeats : rule.repeats old new = true
      · -- the repeated element stays as the new one does
        rw [if_pos hrepeats] at h
        cases h
        rw [List.filter_cons_of_pos ((hkeep old new hrepeats).trans hnew), enter?,
          if_pos hrepeats]
      · rw [if_neg hrepeats] at h
        by_cases hclashes : rule.clashes old new = true
        · rw [if_pos hclashes] at h
          cases h
        · rw [if_neg hclashes] at h
          obtain ⟨rest, hrest, rfl⟩ := Option.map_eq_some_iff.1 h
          by_cases hold : keep old = true
          · rw [List.filter_cons_of_pos hold, List.filter_cons_of_pos hold, enter?,
              if_neg hrepeats, if_neg hclashes, ih hrest, Option.map_some]
          · rw [List.filter_cons_of_neg hold, List.filter_cons_of_neg hold, ih hrest]

/-- If repeated elements stay or go together, it makes no difference whether elements are left out
before or after the gathering. -/
theorem gather?_filter (hkeep : ∀ a b, rule.repeats a b = true → keep a = keep b)
    (h : rule.gather? as = some kept) :
    rule.gather? (as.filter keep) = some (kept.filter keep) := by
  induction as using List.reverseRecOn generalizing kept with
  | nil =>
      cases h
      rfl
  | append_singleton as a ih =>
      rw [gather?_concat] at h
      obtain ⟨before, hbefore, hnext⟩ := Option.bind_eq_some_iff.1 h
      by_cases ha : keep a = true
      · have hfilter : (as ++ [a]).filter keep = as.filter keep ++ [a] := by simp [ha]
        rw [hfilter, gather?_concat, ih hbefore]
        exact enter?_filter hkeep ha hnext
      · -- an element that goes leaves nothing behind that stays
        have hdropped : kept.filter keep = before.filter keep := by
          rcases rule.enter?_cases a before with ⟨hsome, -⟩ | ⟨hsome, -⟩ | ⟨hnone, -⟩
          · obtain rfl := Option.some.inj (hsome.symm.trans hnext)
            simp [ha]
          · rw [Option.some.inj (hsome.symm.trans hnext)]
          · cases hnone.symm.trans hnext
        simpa [ha, hdropped] using ih hbefore

end Filter

end GatheringRule

end GlslPrelude
