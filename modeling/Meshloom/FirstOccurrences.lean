import Mathlib.Data.List.Nodup
import Mathlib.Data.List.Infix
import Mathlib.Data.Finset.Card

/-! Lists without the elements whose key came before, and filling a list up to a bound from lists
that are themselves cut. -/
namespace Meshloom.FirstOccurrences
variable {α κ : Type} [DecidableEq κ] (key : α → κ)

/-- The elements whose key does not come before. -/
def firstOccurrences : List α → List α
  | [] => []
  | a :: rest => a :: (firstOccurrences rest).filter fun b => key b ≠ key a

/-- Puts an element behind those taken unless one of them has its key. -/
def addNew (taken : List α) (a : α) : List α :=
  if key a ∈ taken.map key then taken else taken ++ [a]

/-- Puts in elements until there are as many as the bound. -/
def fillTo (bound : Nat) : List α → List α → List α
  | taken, [] => taken
  | taken, a :: rest =>
    if key a ∈ taken.map key then fillTo bound taken rest
    else if bound ≤ (taken ++ [a]).length then taken ++ [a]
    else fillTo bound (taken ++ [a]) rest

variable {key} {taken items others : List α} {bound limit : Nat}

theorem prefix_addNew (a : α) : taken <+: addNew key taken a := by
  unfold addNew
  split
  · exact List.prefix_refl taken
  · exact List.prefix_append taken [a]

theorem prefix_foldl (key : α → κ) (items taken : List α) : taken <+: items.foldl (addNew key) taken := by
  induction items generalizing taken with
  | nil => exact List.prefix_refl taken
  | cons a rest ih => exact (prefix_addNew a).trans (ih (addNew key taken a))

theorem addNew_nodup (distinct : (taken.map key).Nodup) (a : α) :
    ((addNew key taken a).map key).Nodup := by
  unfold addNew
  split
  · exact distinct
  · rename_i fresh
    rw [List.map_append, List.map_singleton]
    exact List.nodup_append.mpr ⟨distinct, List.nodup_singleton _, by
      intro k known k' is_a same
      rw [List.mem_singleton.mp is_a] at same
      exact fresh (same ▸ known)⟩

theorem foldl_nodup (items : List α) (distinct : (taken.map key).Nodup) :
    ((items.foldl (addNew key) taken).map key).Nodup := by
  induction items generalizing taken with
  | nil => exact distinct
  | cons a rest ih => exact ih (addNew_nodup distinct a)

theorem mem_addNew {k : κ} (a : α) :
    k ∈ (addNew key taken a).map key ↔ k ∈ taken.map key ∨ k = key a := by
  unfold addNew
  split
  · rename_i known
    constructor
    · exact .inl
    · rintro (before | rfl)
      · exact before
      · exact known
  · rw [List.map_append, List.mem_append, List.map_singleton, List.mem_singleton]

theorem mem_foldl {k : κ} (items : List α) :
    k ∈ (items.foldl (addNew key) taken).map key ↔ k ∈ taken.map key ∨ k ∈ items.map key := by
  induction items generalizing taken with
  | nil => simp
  | cons a rest ih =>
      rw [List.foldl_cons, ih, mem_addNew, List.map_cons, List.mem_cons, or_assoc]

/-- As many elements as have distinct keys are there afterwards. -/
theorem length_foldl (taken : List α) (distinct : (items.map key).Nodup) :
    items.length ≤ (items.foldl (addNew key) taken).length := by
  have all : (items.map key).toFinset ⊆ ((items.foldl (addNew key) taken).map key).toFinset := by
    intro k member
    rw [List.mem_toFinset] at member ⊢
    exact (mem_foldl items).mpr (.inr member)
  calc items.length = (items.map key).toFinset.card := by
        rw [List.toFinset_card_of_nodup distinct, List.length_map]
    _ ≤ ((items.foldl (addNew key) taken).map key).toFinset.card := Finset.card_le_card all
    _ ≤ ((items.foldl (addNew key) taken).map key).length := List.toFinset_card_le _
    _ = (items.foldl (addNew key) taken).length := List.length_map ..

/-- Elements with distinct keys that are not there are all put in. -/
theorem foldl_new (distinct : ((taken ++ items).map key).Nodup) :
    items.foldl (addNew key) taken = taken ++ items := by
  induction items generalizing taken with
  | nil => rw [List.append_nil, List.foldl_nil]
  | cons a rest ih =>
      have fresh : key a ∉ taken.map key := by
        rw [List.map_append, List.nodup_append] at distinct
        exact fun known => distinct.2.2 _ known _ (by simp) rfl
      rw [List.foldl_cons, addNew, if_neg fresh, ih (by simpa using distinct)]
      simp

theorem foldl_firstOccurrences (items taken : List α) :
    items.foldl (addNew key) taken =
      taken ++ (firstOccurrences key items).filter fun b => key b ∉ taken.map key := by
  induction items generalizing taken with
  | nil => simp [firstOccurrences]
  | cons a rest ih =>
      rw [List.foldl_cons, ih, addNew, firstOccurrences, List.filter_cons]
      split
      · rename_i known
        have absent : decide (key a ∉ taken.map key) = false := by simpa using known
        rw [absent, List.filter_filter]
        refine congrArg (taken ++ ·) (List.filter_congr fun b _ => ?_)
        by_cases same : key b = key a
        · simp [same, known]
        · simp [same]
      · rename_i fresh
        have present : decide (key a ∉ taken.map key) = true := by simpa using fresh
        rw [present, if_pos rfl, List.filter_filter, List.append_assoc, List.singleton_append]
        refine congrArg (fun l => taken ++ a :: l) (List.filter_congr fun b _ => ?_)
        rw [← Bool.decide_and, decide_eq_decide, List.map_append, List.mem_append,
          List.map_singleton, List.mem_singleton, not_or]

theorem foldl_nil_firstOccurrences (items : List α) :
    items.foldl (addNew key) [] = firstOccurrences key items := by
  simp [foldl_firstOccurrences]

/-- Filling up stops where the list of all would be cut. -/
theorem fillTo_eq (room : taken.length < bound) :
    fillTo key bound taken items = (items.foldl (addNew key) taken).take bound := by
  induction items generalizing taken with
  | nil => rw [fillTo, List.foldl_nil, List.take_of_length_le room.le]
  | cons a rest ih =>
      rw [fillTo, List.foldl_cons, addNew]
      split
      · exact ih room
      · split
        · rename_i full
          have exact_length : (taken ++ [a]).length = bound := by
            rw [List.length_append, List.length_singleton] at full ⊢
            omega
          obtain ⟨more, extends_⟩ := prefix_foldl key rest (taken ++ [a])
          rw [← extends_, ← exact_length, List.take_left']
          rfl
        · rename_i space
          exact ih (Nat.lt_of_not_le space)

/-- Elements that come later do not matter once the bound is reached. -/
theorem take_foldl (others : List α) (reached : bound ≤ (items.foldl (addNew key) taken).length) :
    ((items ++ others).foldl (addNew key) taken).take bound =
      (items.foldl (addNew key) taken).take bound := by
  obtain ⟨more, extends_⟩ := prefix_foldl key others (items.foldl (addNew key) taken)
  rw [List.foldl_append, ← extends_, List.take_append_of_le_length reached]

/-- A list that is cut at no less than the bound fills up as the whole list does. -/
theorem fillTo_take (room : taken.length < bound) (within : bound ≤ limit)
    (distinct : (items.map key).Nodup) :
    fillTo key bound taken (items.take limit) = fillTo key bound taken items := by
  rw [fillTo_eq room, fillTo_eq room]
  obtain short | long := Nat.le_total items.length limit
  · rw [List.take_of_length_le short]
  · have part : ((items.take limit).map key).Nodup :=
      ((List.take_sublist limit items).map key).nodup distinct
    have reached : bound ≤ ((items.take limit).foldl (addNew key) taken).length := by
      have all := length_foldl taken part
      rw [List.length_take_of_le long] at all
      exact within.trans all
    have cut := take_foldl (items.drop limit) reached
    rw [List.take_append_drop] at cut
    exact cut.symm

end Meshloom.FirstOccurrences
