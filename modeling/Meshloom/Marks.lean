import Mathlib.Order.Lattice

/-! Marks that may be missing, such as the time at which something was last seen. A mark is
carried along a relation when it stays there and only moves along it, and the extremum of two
marks, a missing one saying nothing, carries both. -/
namespace Meshloom.Marks
variable {α : Type} {r : α → α → Prop}

/-- A mark that is there stays there, and moves along `r` only. -/
def Carried (r : α → α → Prop) (a b : Option α) : Prop := ∀ x, a = some x → ∃ y, b = some y ∧ r x y

theorem Carried.refl (reflexive : ∀ x, r x x) (a : Option α) : Carried r a a :=
  fun x found => ⟨x, found, reflexive x⟩

theorem Carried.trans (transitive : ∀ {x y z}, r x y → r y z → r x z) (first : Carried r a b)
    (second : Carried r b c) : Carried r a c := by
  intro x found
  obtain ⟨y, found, before⟩ := first x found
  obtain ⟨z, found, after⟩ := second y found
  exact ⟨z, found, transitive before after⟩

/-- No later mark has become an earlier one, or none. -/
abbrev NotEarlier [LE α] : Option α → Option α → Prop := Carried (· ≤ ·)

/-- No earlier mark has become a later one, or none. -/
abbrev NotLater [LE α] : Option α → Option α → Prop := Carried (· ≥ ·)

/-- A merge carries its first mark if what it makes of two does. -/
theorem carried_merge (f : α → α → α) (reflexive : ∀ x, r x x) (extends_ : ∀ x y, r x (f x y))
    (a b : Option α) : Carried r a (Option.merge f a b) := by
  rintro x rfl
  cases b with
  | none => exact ⟨x, rfl, reflexive x⟩
  | some y => exact ⟨f x y, rfl, extends_ x y⟩

theorem NotEarlier.refl [Preorder α] (a : Option α) : NotEarlier a a :=
  Carried.refl (r := (· ≤ ·)) le_refl a

theorem NotLater.refl [Preorder α] (a : Option α) : NotLater a a :=
  Carried.refl (r := (· ≥ ·)) le_refl a

theorem NotEarlier.trans [Preorder α] {a b c : Option α} (first : NotEarlier a b)
    (second : NotEarlier b c) : NotEarlier a c :=
  Carried.trans le_trans first second

theorem NotLater.trans [Preorder α] {a b c : Option α} (first : NotLater a b)
    (second : NotLater b c) : NotLater a c :=
  Carried.trans ge_trans first second

variable [LinearOrder α]

theorem notEarlier_latest (a b : Option α) : NotEarlier a (Option.merge max a b) :=
  carried_merge max le_refl le_max_left a b

theorem notLater_earliest (a b : Option α) : NotLater a (Option.merge min a b) :=
  carried_merge (r := (· ≥ ·)) min le_refl min_le_left a b

end Meshloom.Marks
