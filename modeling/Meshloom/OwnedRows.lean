import Meshloom.Dict
import Mathlib.Algebra.BigOperators.Group.List.Basic
import Mathlib.Algebra.Order.Group.Nat
import Mathlib.Order.Bounds.Basic

/-! Tables whose rows belong to an owner. A row that is inserted under a key in use is merged
with the stored one, and the rows of one owner move to another. -/
namespace Meshloom.OwnedRows
variable {O N R : Type} [DecidableEq O] [DecidableEq N]

section Operations
variable (merge : R → R → R)

/-- A row is stored, or merged into the one that is there. -/
def insertRow (table : Dict (O × N) R) (key : O × N) (row : R) : Dict (O × N) R :=
  match table.get? key with
  | none => table.set key row
  | some stored => table.set key (merge stored row)

/-- The rows of `old` are inserted for `new` as well. -/
def copyRows (table : Dict (O × N) R) (old new : O) : Dict (O × N) R :=
  (table.filter fun key _ => key.1 = old).entries.foldl
    (fun table entry => insertRow merge table (new, entry.1.2) entry.2) table

def deleteRows (table : Dict (O × N) R) (owner : O) : Dict (O × N) R :=
  table.filter fun key _ => key.1 ≠ owner

def moveRows (table : Dict (O × N) R) (old new : O) : Dict (O × N) R :=
  deleteRows (copyRows merge table old new) old

def moveAll (table : Dict (O × N) R) (olds : List O) (new : O) : Dict (O × N) R :=
  olds.foldl (fun table old => moveRows merge table old new) table

/-- The rows in order, merged into the first. -/
def mergeAll : List R → Option R
  | [] => none
  | first :: rest => some (rest.foldl merge first)

end Operations

/-- What the owners have under a name. -/
def gathered (table : Dict (O × N) R) (owners : List O) (name : N) : List R :=
  owners.filterMap fun owner => table.get? (owner, name)

section Moving
variable {merge : R → R → R} {table : Dict (O × N) R} {old new : O}

theorem get?_insertRow (key other : O × N) (row : R) :
    (insertRow merge table key row).get? other =
      if other = key then (table.get? key).merge merge (some row) else table.get? other := by
  unfold insertRow
  split
  · rename_i absent
    simp [absent]
  · rename_i stored found
    simp [found]

theorem get?_deleteRows (owner o : O) (n : N) :
    (deleteRows table owner).get? (o, n) = if o = owner then none else table.get? (o, n) := by
  ext row
  rw [deleteRows, Dict.get?_filter]
  by_cases same : o = owner <;> simp [same]

theorem deleteRows_moveRows :
    deleteRows (moveRows merge table old new) old = moveRows merge table old new := by
  simp only [moveRows, deleteRows, Dict.filter, List.filter_filter, Bool.and_self]

/-- Each row that is inserted for the new owner is merged with what the new owner has under its
name. -/
theorem get?_inserted {entries : List ((O × N) × R)} (distinct : (entries.map Prod.fst).Nodup)
    (owned : ∀ entry ∈ entries, entry.1.1 = old) (o : O) (n : N) :
    (entries.foldl (fun table entry => insertRow merge table (new, entry.1.2) entry.2) table).get?
        (o, n) =
      if o = new then
        (table.get? (new, n)).merge merge ((⟨entries, distinct⟩ : Dict (O × N) R).get? (old, n))
      else table.get? (o, n) := by
  induction entries generalizing table with
  | nil =>
      by_cases target : o = new
      · simp [target, Dict.get?]
      · simp [target]
  | cons entry rest ih =>
      obtain ⟨fresh, later⟩ := List.nodup_cons.mp distinct
      obtain ⟨⟨owner, name⟩, row⟩ := entry
      obtain rfl : owner = old := owned _ List.mem_cons_self
      rw [List.foldl_cons, ih later fun entry member => owned entry (List.mem_cons_of_mem _ member),
        get?_insertRow, get?_insertRow]
      by_cases same : n = name
      · subst same
        have absent : (⟨rest, later⟩ : Dict (O × N) R).get? (owner, n) = none :=
          Dict.notMem_keys_iff.mp fresh
        have here : (⟨_, distinct⟩ : Dict (O × N) R).get? (owner, n) = some row :=
          (Dict.mem_iff_get? _).mp List.mem_cons_self
        by_cases target : o = new
        · simp [target, absent, here]
        · simp [target]
      · have other : (owner, n) ≠ (owner, name) := fun key => same (congrArg Prod.snd key)
        by_cases target : o = new
        · simp [target, same, Dict.get?, Dict.lookup_cons_ne other]
        · simp [target]

theorem get?_copyRows (o : O) (n : N) : (copyRows merge table old new).get? (o, n) =
    if o = new then (table.get? (new, n)).merge merge (table.get? (old, n))
    else table.get? (o, n) := by
  have chosen : (table.filter fun key _ => key.1 = old).get? (old, n) = table.get? (old, n) := by
    ext row
    rw [Dict.get?_filter]
    simp
  have owned : ∀ entry ∈ (table.filter fun key _ => key.1 = old).entries, entry.1.1 = old := by
    intro entry member
    simpa using (List.mem_filter.mp member).2
  rw [copyRows, get?_inserted (table.filter fun key _ => key.1 = old).nodup owned, chosen]

theorem get?_moveRows (o : O) (n : N) :
    (moveRows merge table old new).get? (o, n) =
      if o = old then none
      else if o = new then (table.get? (new, n)).merge merge (table.get? (old, n))
      else table.get? (o, n) := by
  rw [moveRows, get?_deleteRows, get?_copyRows]

/-- The owners that moved have no rows, and the new one has theirs merged into its own. -/
theorem get?_moveAll {olds : List O} (distinct : olds.Nodup) (apart : new ∉ olds) (o : O) (n : N) :
    (moveAll merge table olds new).get? (o, n) =
      if o ∈ olds then none
      else if o = new then olds.foldl
        (fun found old => found.merge merge (table.get? (old, n))) (table.get? (new, n))
      else table.get? (o, n) := by
  induction olds generalizing table with
  | nil => split <;> simp_all [moveAll]
  | cons old rest ih =>
      obtain ⟨fresh, distinct⟩ := List.nodup_cons.mp distinct
      obtain ⟨first, apart⟩ := not_or.mp (mt List.mem_cons.mpr apart)
      have step : (moveAll merge (moveRows merge table old new) rest new).get? (o, n) = _ :=
        ih distinct apart
      rw [moveAll, List.foldl_cons]
      change (moveAll merge (moveRows merge table old new) rest new).get? (o, n) = _
      have later (found : Option R) : rest.foldl (fun found old' =>
            found.merge merge ((moveRows merge table old new).get? (old', n))) found =
          rest.foldl (fun found old' => found.merge merge (table.get? (old', n))) found := by
        refine List.foldl_ext _ _ _ fun found old' member => ?_
        have moved : old' ≠ old := fun same => fresh (same ▸ member)
        have kept : old' ≠ new := fun same => apart (same ▸ member)
        rw [get?_moveRows, if_neg moved, if_neg kept]
      rw [step, later, get?_moveRows, get?_moveRows]
      by_cases gone : o ∈ rest
      · simp [gone]
      · by_cases here : o = old
        · subst here
          simp [gone, Ne.symm first]
        · by_cases target : o = new
          · subst target
            simp [gone, first]
          · simp [gone, here, target]

theorem foldl_merge (merge : R → R → R) (values : List (Option R)) (found : Option R) :
    values.foldl (fun found value => found.merge merge value) found =
      mergeAll merge (found.toList ++ values.filterMap id) := by
  induction values generalizing found with
  | nil => cases found <;> rfl
  | cons value rest ih =>
      rw [List.foldl_cons, ih]
      cases found <;> cases value <;> rfl

/-- What the new owner has in the end is what all of them had, merged. -/
theorem get?_moveAll_new {olds : List O} (distinct : olds.Nodup) (apart : new ∉ olds) (n : N) :
    (moveAll merge table olds new).get? (new, n) = mergeAll merge (gathered table (new :: olds) n) := by
  rw [get?_moveAll distinct apart, if_neg apart, if_pos rfl]
  have folded := foldl_merge merge (olds.map fun old => table.get? (old, n))
    (table.get? (new, n))
  rw [List.foldl_map] at folded
  rw [folded, gathered, List.filterMap_cons, List.filterMap_map]
  cases table.get? (new, n) <;> rfl

end Moving

section Merging
variable {merge : R → R → R} {rows : List R} {row : R}

theorem mergeAll_sum {M : Type} [AddMonoid M] (f : R → M)
    (additive : ∀ a b, f (merge a b) = f a + f b) (merged : mergeAll merge rows = some row) :
    f row = (rows.map f).sum := by
  obtain _ | ⟨first, rest⟩ := rows
  · contradiction
  cases merged
  rw [List.map_cons, List.sum_cons]
  induction rest generalizing first with
  | nil => simp
  | cons next rest ih => rw [List.foldl_cons, ih, additive, List.map_cons, List.sum_cons, add_assoc]

theorem mergeAll_least {M : Type} [LinearOrder M] (f : R → M)
    (least : ∀ a b, f (merge a b) = min (f a) (f b)) (merged : mergeAll merge rows = some row) :
    IsLeast {v | ∃ row ∈ rows, f row = v} (f row) := by
  obtain _ | ⟨first, rest⟩ := rows
  · contradiction
  cases merged
  induction rest generalizing first with
  | nil =>
      refine ⟨⟨first, List.mem_cons_self, rfl⟩, ?_⟩
      rintro v ⟨row, member, rfl⟩
      rw [List.mem_singleton.mp member]
      exact le_refl _
  | cons next rest ih =>
      obtain ⟨⟨row, member, attained⟩, bound⟩ := ih (merge first next)
      have below : f (rest.foldl merge (merge first next)) ≤ min (f first) (f next) :=
        least first next ▸ bound ⟨_, List.mem_cons_self, rfl⟩
      rw [List.foldl_cons]
      refine ⟨?_, ?_⟩
      · rcases List.mem_cons.mp member with rfl | later
        · rw [least] at attained
          rcases min_choice (f first) (f next) with choice | choice
          · exact ⟨first, by simp, choice ▸ attained⟩
          · exact ⟨next, by simp, choice ▸ attained⟩
        · exact ⟨row, by simp [later], attained⟩
      · rintro v ⟨row, member, rfl⟩
        simp only [List.mem_cons] at member
        rcases member with rfl | rfl | later
        · exact below.trans (min_le_left _ _)
        · exact below.trans (min_le_right _ _)
        · exact bound ⟨row, List.mem_cons_of_mem _ later, rfl⟩

theorem mergeAll_greatest {M : Type} [LinearOrder M] (f : R → M)
    (greatest : ∀ a b, f (merge a b) = max (f a) (f b)) (merged : mergeAll merge rows = some row) :
    IsGreatest {v | ∃ row ∈ rows, f row = v} (f row) :=
  mergeAll_least (M := Mᵒᵈ) f greatest merged

theorem mergeAll_ne_nil (merge : R → R → R) (some_in : rows ≠ []) : ∃ row, mergeAll merge rows = some row := by
  obtain ⟨first, rest, rfl⟩ := List.exists_cons_of_ne_nil some_in
  exact ⟨_, rfl⟩

/-- The maximum is there for each value but of none. -/
theorem mergeAll_max_iff {M : Type} [LinearOrder M] {values : List M} {v : M} :
    mergeAll max values = some v ↔ IsGreatest {v | v ∈ values} v := by
  have found {w : M} (merged : mergeAll max values = some w) : IsGreatest {v | v ∈ values} w := by
    simpa using mergeAll_greatest id (fun _ _ => rfl) merged
  refine ⟨found, fun greatest => ?_⟩
  obtain ⟨w, merged⟩ := mergeAll_ne_nil max (List.ne_nil_of_mem greatest.1)
  rw [merged, (found merged).unique greatest]

theorem mergeAll_min_iff {M : Type} [LinearOrder M] {values : List M} {v : M} :
    mergeAll min values = some v ↔ IsLeast {v | v ∈ values} v :=
  mergeAll_max_iff (M := Mᵒᵈ)

end Merging

end Meshloom.OwnedRows
