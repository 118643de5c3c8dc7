/-!
# Sets over enumerated types

An `Enumeration` lists all the elements of a type, each once. An `EnumSet` is a set of such elements
held as a bit vector: bit `i` stands for the `i`-th element of the list, so equal sets are equal
values and sets are ordered by their bits. Membership is the view of a set that its operations are
described by.
-/

namespace GlslPrelude

/-- A type given by the list of all its elements. -/
class Enumeration (α : Type) [DecidableEq α] where
  /-- All the elements, in canonical order. -/
  all : List α
  /-- No element is listed twice. -/
  nodup_all : all.Nodup
  /-- No element is missing. -/
  mem_all : ∀ a : α, a ∈ all

/-- All the elements of an enumerated type, in canonical order. -/
def elements (α : Type) [DecidableEq α] [Enumeration α] : List α :=
  Enumeration.all

/-- Position of an element in the canonical order. -/
def position {α : Type} [DecidableEq α] [Enumeration α] (a : α) : Nat :=
  (elements α).idxOf a

section Enumeration

variable {α : Type} [DecidableEq α] [Enumeration α]

/-- Every element is listed. -/
@[simp]
theorem mem_elements (a : α) : a ∈ elements α :=
  Enumeration.mem_all a

/-- Positions lie below the number of elements. -/
theorem position_lt (a : α) : position a < (elements α).length :=
  List.idxOf_lt_length_of_mem (mem_elements a)

/-- The element at the position of `a` is `a`. -/
theorem getElem_position (a : α) : (elements α).get ⟨position a, position_lt a⟩ = a := by
  exact List.getElem_idxOf _

/-- Different elements have different positions. -/
theorem position_inj {a b : α} : position a = position b ↔ a = b := by
  constructor
  · intro h
    rw [← getElem_position a, ← getElem_position b]
    simp [h]
  · rintro rfl
    rfl

end Enumeration

/-- A set of elements of an enumerated type. -/
structure EnumSet (α : Type) [DecidableEq α] [Enumeration α] where
  /-- Bit `i` tells whether the `i`-th element is in the set. -/
  bits : BitVec (elements α).length

namespace EnumSet

variable {α : Type} [DecidableEq α] [Enumeration α]

/-- The set without elements. -/
def empty : EnumSet α :=
  ⟨0#_⟩

instance : EmptyCollection (EnumSet α) := ⟨empty⟩

instance : Inhabited (EnumSet α) := ⟨empty⟩

/-- Sets are equal when their bits are. -/
theorem bits_inj {s t : EnumSet α} : s.bits = t.bits ↔ s = t := by
  cases s; cases t; simp

instance : DecidableEq (EnumSet α) := fun _ _ =>
  decidable_of_iff _ bits_inj

/-- Whether `a` is in the set. -/
def contains (s : EnumSet α) (a : α) : Bool :=
  s.bits.getLsbD (position a)

instance : Membership α (EnumSet α) := ⟨fun s a => s.contains a = true⟩

instance (a : α) (s : EnumSet α) : Decidable (a ∈ s) :=
  inferInstanceAs (Decidable (s.contains a = true))

/-- The set with `a` added. -/
def insert (s : EnumSet α) (a : α) : EnumSet α :=
  ⟨s.bits ||| BitVec.twoPow _ (position a)⟩

/-- The set with `a` removed. -/
def erase (s : EnumSet α) (a : α) : EnumSet α :=
  ⟨s.bits &&& ~~~(BitVec.twoPow _ (position a))⟩

/-- The set of the elements of either set. -/
def union (s t : EnumSet α) : EnumSet α :=
  ⟨s.bits ||| t.bits⟩

instance : Union (EnumSet α) := ⟨union⟩

/-- The set of the elements of a list; repetitions and order do not matter. -/
def ofList (as : List α) : EnumSet α :=
  as.foldl insert ∅

/-- The elements of the set, in canonical order. -/
def toList (s : EnumSet α) : List α :=
  (elements α).filter s.contains

/-- Number of elements. -/
def size (s : EnumSet α) : Nat :=
  s.toList.length

/-- Whether the set has no element. -/
def isEmpty (s : EnumSet α) : Bool :=
  s.toList.isEmpty

/-- Membership is what `contains` computes. -/
theorem mem_iff_contains {s : EnumSet α} {a : α} : a ∈ s ↔ s.contains a = true :=
  Iff.rfl

/-- Nothing is in the empty set. -/
@[simp]
theorem not_mem_empty (a : α) : a ∉ (∅ : EnumSet α) := by
  simp [mem_iff_contains, contains, EmptyCollection.emptyCollection, empty]

/-- After `insert`, the new element and the old ones are in the set. -/
@[simp]
theorem mem_insert {s : EnumSet α} {a b : α} : b ∈ s.insert a ↔ b = a ∨ b ∈ s := by
  simp [mem_iff_contains, contains, insert, position_lt, position_inj]
  grind

/-- After `erase`, the old elements other than the removed one are in the set. -/
@[simp]
theorem mem_erase {s : EnumSet α} {a b : α} : b ∈ s.erase a ↔ b ≠ a ∧ b ∈ s := by
  simp [mem_iff_contains, contains, erase, position_lt, position_inj]
  grind

/-- The union has the elements of both sets. -/
@[simp]
theorem mem_union {s t : EnumSet α} {a : α} : a ∈ s ∪ t ↔ a ∈ s ∨ a ∈ t := by
  simp [mem_iff_contains, contains, Union.union, union]

/-- The listed elements are those of the set. -/
@[simp]
theorem mem_toList {s : EnumSet α} {a : α} : a ∈ s.toList ↔ a ∈ s := by
  simp [toList, mem_iff_contains]

/-- A set built from a list has the elements of the list. -/
@[simp]
theorem mem_ofList {as : List α} {a : α} : a ∈ ofList as ↔ a ∈ as := by
  have foldl_insert : ∀ (as : List α) (s : EnumSet α),
      a ∈ as.foldl insert s ↔ a ∈ as ∨ a ∈ s := by
    intro as
    induction as with
    | nil => simp
    | cons b bs ih => intro s; simp [ih]; grind
  simp [ofList, foldl_insert]

end EnumSet

end GlslPrelude
