import Mathlib.Order.Lattice
import Mathlib.Order.SetNotation

/-! A window on a store whose elements have places in a linear order. The window grows by pages
that start at a cursor in it, and by elements at its end. What is missing is kept apart: it is
stored, but the window need not have it yet. -/
namespace Meshloom.Window
variable {κ : Type} [LinearOrder κ] {shown stored missing page : Set κ} {cursor : κ}

/-- The places at or after one of the set. -/
def above (s : Set κ) : Set κ := {p | ∃ q ∈ s, q ≤ p}

/-- The places at or before one of the set. -/
def below (s : Set κ) : Set κ := {p | ∃ q ∈ s, p ≤ q}

/-- The window has no gap between its first and its last place. -/
def Between (shown stored missing : Set κ) : Prop :=
  ∀ p ∈ stored, p ∈ above shown → p ∈ below shown → p ∈ shown ∨ p ∈ missing

/-- The window has no gap from its first place on. -/
def Whole (shown stored missing : Set κ) : Prop :=
  ∀ p ∈ stored, p ∈ above shown → p ∈ shown ∨ p ∈ missing

/-- A page of what follows the cursor, up to its own last place or, if it is the last page, up to
the end. -/
def PageAfter (page stored missing : Set κ) (cursor : κ) (last : Prop) : Prop :=
  ∀ p ∈ stored, cursor < p → last ∨ p ∈ below page → p ∈ page ∨ p ∈ missing

/-- A page of what precedes the cursor, down to its own first place. -/
def PageBefore (page stored missing : Set κ) (cursor : κ) : Prop :=
  ∀ p ∈ stored, p < cursor → p ∈ above page → p ∈ page ∨ p ∈ missing

theorem above_union (s t : Set κ) : above (s ∪ t) = above s ∪ above t := by
  ext p
  constructor
  · rintro ⟨q, left | right, le⟩
    · exact .inl ⟨q, left, le⟩
    · exact .inr ⟨q, right, le⟩
  · rintro (⟨q, member, le⟩ | ⟨q, member, le⟩)
    · exact ⟨q, .inl member, le⟩
    · exact ⟨q, .inr member, le⟩

theorem below_union (s t : Set κ) : below (s ∪ t) = below s ∪ below t := by
  ext p
  constructor
  · rintro ⟨q, left | right, le⟩
    · exact .inl ⟨q, left, le⟩
    · exact .inr ⟨q, right, le⟩
  · rintro (⟨q, member, le⟩ | ⟨q, member, le⟩)
    · exact ⟨q, .inl member, le⟩
    · exact ⟨q, .inr member, le⟩

/-- A page after a cursor of the window starts no lower than the window. -/
theorem above_pageAfter (inside : cursor ∈ shown) (after : ∀ q ∈ page, cursor < q)
    (member : p ∈ above (shown ∪ page)) : p ∈ above shown := by
  rw [above_union] at member
  obtain lower | ⟨q, listed, le⟩ := member
  · exact lower
  · exact ⟨cursor, inside, (after q listed).le.trans le⟩

/-- The page after a cursor of the window joins it without a gap. -/
theorem Between.pageAfter (between : Between shown stored missing) (inside : cursor ∈ shown)
    (after : ∀ q ∈ page, cursor < q) (covers : PageAfter page stored missing cursor last) :
    Between (shown ∪ page) stored missing := by
  intro p member lower upper
  have lower := above_pageAfter inside after lower
  rw [below_union] at upper
  obtain later | earlier := lt_or_ge cursor p
  · obtain upper | upper := upper
    · exact (between p member lower upper).imp_left .inl
    · exact (covers p member later (.inr upper)).imp_left .inr
  · exact (between p member lower ⟨cursor, inside, earlier⟩).imp_left .inl

/-- The last page after a cursor of the window completes it. -/
theorem Between.lastPage (between : Between shown stored missing) (inside : cursor ∈ shown)
    (after : ∀ q ∈ page, cursor < q) (covers : PageAfter page stored missing cursor True) :
    Whole (shown ∪ page) stored missing := by
  intro p member lower
  have lower := above_pageAfter inside after lower
  obtain later | earlier := lt_or_ge cursor p
  · exact (covers p member later (.inl trivial)).imp_left .inr
  · exact (between p member lower ⟨cursor, inside, earlier⟩).imp_left .inl

theorem Between.pageBefore (between : Between shown stored missing) (inside : cursor ∈ shown)
    (before : ∀ q ∈ page, q < cursor) (covers : PageBefore page stored (shown ∪ missing) cursor) :
    Between (shown ∪ page) stored missing := by
  intro p member lower upper
  have upper : p ∈ below shown := by
    rw [below_union] at upper
    obtain upper | ⟨q, listed, le⟩ := upper
    · exact upper
    · exact ⟨cursor, inside, le.trans (before q listed).le⟩
  rw [above_union] at lower
  obtain lower | lower := lower
  · exact (between p member lower upper).imp_left .inl
  obtain earlier | later := lt_or_ge p cursor
  · obtain listed | old | lost := covers p member earlier lower
    · exact .inl (.inr listed)
    · exact .inl (.inl old)
    · exact .inr lost
  · exact (between p member ⟨cursor, inside, later⟩ upper).imp_left .inl

theorem Whole.pageBefore (whole : Whole shown stored missing) (inside : cursor ∈ shown)
    (covers : PageBefore page stored (shown ∪ missing) cursor) :
    Whole (shown ∪ page) stored missing := by
  intro p member lower
  rw [above_union] at lower
  obtain lower | lower := lower
  · exact (whole p member lower).imp_left .inl
  obtain earlier | later := lt_or_ge p cursor
  · obtain listed | old | lost := covers p member earlier lower
    · exact .inl (.inr listed)
    · exact .inl (.inl old)
    · exact .inr lost
  · exact (whole p member ⟨cursor, inside, later⟩).imp_left .inl

/-- Any other set that covers what follows it, the latest page say, joins a whole window. -/
theorem Whole.union (whole : Whole shown stored missing)
    (covers : Whole page stored (shown ∪ missing)) : Whole (shown ∪ page) stored missing := by
  intro p member lower
  rw [above_union] at lower
  obtain lower | lower := lower
  · exact (whole p member lower).imp_left .inl
  · obtain listed | old | lost := covers p member lower
    · exact .inl (.inr listed)
    · exact .inl (.inl old)
    · exact .inr lost

section Grow
variable {stored' missing' : Set κ} (grows : ∀ p ∈ stored', p ∈ stored ∨ p ∈ missing')
  (keeps : ∀ p ∈ missing, p ∈ missing')
include grows keeps

/-- What is stored later is missing at first, and does not count against a window or a page. -/
theorem Whole.grow (whole : Whole shown stored missing) : Whole shown stored' missing' := by
  intro p member lower
  obtain old | new := grows p member
  · exact (whole p old lower).imp_right (keeps p)
  · exact .inr new

theorem Between.grow (between : Between shown stored missing) : Between shown stored' missing' := by
  intro p member lower upper
  obtain old | new := grows p member
  · exact (between p old lower upper).imp_right (keeps p)
  · exact .inr new

theorem PageAfter.grow (covers : PageAfter page stored missing cursor last) :
    PageAfter page stored' missing' cursor last := by
  intro p member later reached
  obtain old | new := grows p member
  · exact (covers p old later reached).imp_right (keeps p)
  · exact .inr new

theorem PageBefore.grow (covers : PageBefore page stored missing cursor) :
    PageBefore page stored' missing' cursor := by
  intro p member earlier reached
  obtain old | new := grows p member
  · exact (covers p old earlier reached).imp_right (keeps p)
  · exact .inr new

end Grow

/-- Nothing is dropped for good when all that is missing in reach is shown after all. -/
theorem Whole.settle {dropped : Set κ} (whole : Whole shown stored (missing ∪ dropped))
    (shows : ∀ p ∈ dropped, p ∈ above shown → p ∈ shown) : Whole shown stored missing := by
  intro p member lower
  obtain listed | lost | lost := whole p member lower
  · exact .inl listed
  · exact .inr lost
  · exact .inl (shows p lost lower)

end Meshloom.Window
