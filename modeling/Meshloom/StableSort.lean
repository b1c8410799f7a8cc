import Mathlib

/-! Sorting a list by falling key, elements of equal key in the order they had, and
the longest part of the result that fits a limit. -/
namespace Meshloom.StableSort
variable {α κ : Type} [LinearOrder κ] (key : α → κ)

def sortFalling (items : List α) : List α := items.insertionSort fun a b => key b ≤ key a

/-- The elements with a key, in order. -/
def ties (items : List α) (k : κ) : List α := items.filter fun item => key item = k

/-- How many of the elements with a key fit a limit behind those with a greater one. -/
def room (limit : Nat) (items : List α) (k : κ) : Nat :=
  limit - (items.filter fun item => k < key item).length

theorem sortFalling_perm (items : List α) : (sortFalling key items).Perm items :=
  List.perm_insertionSort _ items

theorem sortFalling_pairwise (items : List α) :
    (sortFalling key items).Pairwise fun a b => key b ≤ key a := by
  have : Std.Total fun a b : α => key b ≤ key a := ⟨fun a b => le_total (key b) (key a)⟩
  have : IsTrans α fun a b => key b ≤ key a := ⟨fun _ _ _ first second => second.trans first⟩
  exact List.pairwise_insertionSort _ items

/-- Sorting keeps the order of the elements with one key. -/
theorem ties_sortFalling (items : List α) (k : κ) :
    ties key (sortFalling key items) k = ties key items k := by
  have sorted : (ties key items k).Pairwise fun a b => key b ≤ key a := by
    refine List.pairwise_of_forall_mem_list ?_
    intro a left b right
    simp only [ties, List.mem_filter, decide_eq_true_eq] at left right
    rw [left.2, right.2]
  have sub : (ties key items k).Sublist (sortFalling key items) :=
    List.sublist_insertionSort sorted List.filter_sublist
  have sub' := sub.filter fun item => decide (key item = k)
  rw [ties, List.filter_filter] at sub'
  simp only [Bool.and_self] at sub'
  exact (sub'.eq_of_length ((sortFalling_perm key items).filter _).length_eq.symm).symm

/-- A falling list is its greater elements, then the ties, then its smaller elements. -/
theorem falling_split {items : List α} (falling : items.Pairwise fun a b => key b ≤ key a) (k : κ) :
    items = (items.filter fun item => k < key item) ++ ties key items k ++
      items.filter fun item => key item < k := by
  induction items with
  | nil => rfl
  | cons item rest ih =>
      obtain ⟨head, tail⟩ := List.pairwise_cons.mp falling
      have split := ih tail
      obtain less | same | greater := lt_trichotomy (key item) k
      · have none : (rest.filter fun other => k < key other) = [] := by
          rw [List.filter_eq_nil_iff]
          intro other member
          simpa using (head other member).trans less.le
        have none' : ties key rest k = [] := by
          rw [ties, List.filter_eq_nil_iff]
          intro other member
          simpa using ((head other member).trans_lt less).ne
        rw [none, none', List.nil_append, List.nil_append] at split
        simp only [ties] at none'
        simp [ties, less, less.le, less.ne, none, none', ← split]
      · have none : (rest.filter fun other => k < key other) = [] := by
          rw [List.filter_eq_nil_iff]
          intro other member
          simpa using (head other member).trans same.le
        rw [none, List.nil_append] at split
        simp only [ties] at split
        simp [ties, same, none, ← split]
      · simp only [ties] at split
        simp [ties, greater, greater.ne', greater.le, ← split]

theorem sortFalling_split (items : List α) (k : κ) :
    sortFalling key items = ((sortFalling key items).filter fun item => k < key item) ++
      ties key items k ++ (sortFalling key items).filter fun item => key item < k := by
  rw [← ties_sortFalling]
  exact falling_split key (sortFalling_pairwise key items) k

theorem length_greater (items : List α) (k : κ) :
    ((sortFalling key items).filter fun item => k < key item).length =
      (items.filter fun item => k < key item).length :=
  ((sortFalling_perm key items).filter _).length_eq

theorem mem_take_iff {items : List α} {item : α} :
    item ∈ (sortFalling key items).take limit ↔
      item ∈ (ties key items (key item)).take (room key limit items (key item)) := by
  rw [sortFalling_split key items (key item), List.append_assoc, List.take_append, List.take_append,
    length_greater, List.mem_append, List.mem_append]
  constructor
  · rintro (greater | tie | smaller)
    · have := List.mem_of_mem_take greater
      simp at this
    · exact tie
    · have := List.mem_of_mem_take smaller
      simp at this
  · exact fun tie => .inr (.inl tie)

theorem mem_drop_iff {items : List α} {item : α} :
    item ∈ (sortFalling key items).drop limit ↔
      item ∈ (ties key items (key item)).drop (room key limit items (key item)) := by
  rw [sortFalling_split key items (key item), List.append_assoc, List.drop_append, List.drop_append,
    length_greater, List.mem_append, List.mem_append]
  constructor
  · rintro (greater | tie | smaller)
    · have := List.mem_of_mem_drop greater
      simp at this
    · exact tie
    · have := List.mem_of_mem_drop smaller
      simp at this
  · exact fun tie => .inr (.inl tie)

/-- What is cut off has no greater key than what stays. -/
theorem key_le_of_cut (items : List α) (kept : a ∈ (sortFalling key items).take limit)
    (dropped : b ∈ (sortFalling key items).drop limit) : key b ≤ key a := by
  have pairwise := sortFalling_pairwise key items
  rw [← List.take_append_drop limit (sortFalling key items), List.pairwise_append] at pairwise
  exact pairwise.2.2 a kept b dropped

/-- What stays has every element down to its last key, and all of them when it is not full. -/
theorem mem_take_of_reached {items : List α} (injective : ∀ a ∈ items, ∀ b ∈ items, key a = key b → a = b)
    (member : a ∈ items)
    (reached : ((sortFalling key items).take limit).length < limit ∨
      ∃ b ∈ (sortFalling key items).take limit, key b ≤ key a) :
    a ∈ (sortFalling key items).take limit := by
  have perm := sortFalling_perm key items
  have split := perm.mem_iff.mpr member
  rw [← List.take_append_drop limit (sortFalling key items), List.mem_append] at split
  obtain kept | dropped := split
  · exact kept
  obtain short | ⟨b, kept, le⟩ := reached
  · have none : (sortFalling key items).drop limit = [] := by
      rw [List.length_take] at short
      exact List.drop_eq_nil_of_le (by omega)
    rw [none] at dropped
    contradiction
  · have ge := key_le_of_cut key items kept dropped
    have same := injective a member b (perm.mem_iff.mp (List.mem_of_mem_take kept)) (ge.antisymm le)
    exact same ▸ kept

/-- The first element has the greatest key. -/
theorem head?_sortFalling {items : List α} (first : (sortFalling key items).head? = some a) :
    a ∈ items ∧ ∀ b ∈ items, key b ≤ key a := by
  have perm := sortFalling_perm key items
  refine ⟨perm.mem_iff.mp (List.mem_of_mem_head? first), ?_⟩
  intro b member
  obtain ⟨rest, eq⟩ := List.head?_eq_some_iff.mp first
  have pairwise := sortFalling_pairwise key items
  rw [eq, List.pairwise_cons] at pairwise
  have listed := perm.mem_iff.mpr member
  rw [eq, List.mem_cons] at listed
  obtain rfl | later := listed
  · exact le_rfl
  · exact pairwise.1 b later

theorem head?_sortFalling_none {items : List α} :
    (sortFalling key items).head? = none ↔ items = [] := by
  rw [List.head?_eq_none_iff, ← List.length_eq_zero_iff, (sortFalling_perm key items).length_eq,
    List.length_eq_zero_iff]

end Meshloom.StableSort
