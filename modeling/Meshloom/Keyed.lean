import Mathlib.Data.List.Perm.Basic
import Mathlib.Data.List.Nodup

/-! Lists whose elements have distinct keys, as key-value maps. -/
namespace Meshloom.Keyed
variable {α κ : Type} [DecidableEq κ] (keyOf : α → κ)

def lookup (items : List α) (k : κ) : Option α := items.find? fun item => keyOf item = k

/-- Replaces the element with this key, or adds the new one at the end. -/
def upsert (item : α) : List α → List α
  | [] => [item]
  | other :: rest => if keyOf other = keyOf item then item :: rest else other :: upsert item rest

def remove (items : List α) (k : κ) : List α := items.filter fun item => keyOf item ≠ k

variable {keyOf}

theorem lookup_key {items : List α} (found : lookup keyOf items k = some item) :
    item ∈ items ∧ keyOf item = k := by
  rw [lookup] at found
  exact ⟨List.mem_of_find?_eq_some found, by simpa using List.find?_some found⟩

theorem lookup_eq_none {items : List α} : lookup keyOf items k = none ↔ k ∉ items.map keyOf := by
  simp [lookup]

theorem lookup_of_mem {items : List α} (distinct : (items.map keyOf).Nodup) (member : item ∈ items) :
    lookup keyOf items (keyOf item) = some item := by
  cases found : lookup keyOf items (keyOf item) with
  | none => exact (lookup_eq_none.mp found (List.mem_map.mpr ⟨item, member, rfl⟩)).elim
  | some other =>
      obtain ⟨there, same⟩ := lookup_key found
      rw [List.inj_on_of_nodup_map distinct there member same]

theorem mem_iff_lookup {items : List α} (distinct : (items.map keyOf).Nodup) :
    item ∈ items ↔ lookup keyOf items (keyOf item) = some item :=
  ⟨lookup_of_mem distinct, fun found => (lookup_key found).1⟩

/-- Two lists with the same values under the same keys have the same elements. -/
theorem perm_of_lookup {left right : List α} (distinct : (left.map keyOf).Nodup)
    (distinct' : (right.map keyOf).Nodup) (same : ∀ k, lookup keyOf left k = lookup keyOf right k) :
    left.Perm right := by
  refine (List.perm_ext_iff_of_nodup (.of_map _ distinct) (.of_map _ distinct')).mpr ?_
  intro item
  rw [mem_iff_lookup distinct, mem_iff_lookup distinct', same]

theorem lookup_perm {left right : List α} (perm : left.Perm right) (distinct : (left.map keyOf).Nodup)
    (k : κ) : lookup keyOf left k = lookup keyOf right k := by
  have distinct' := (perm.map keyOf).nodup_iff.mp distinct
  rw [Option.ext_iff]
  intro item
  constructor
  · intro found
    obtain ⟨member, rfl⟩ := lookup_key found
    exact lookup_of_mem distinct' (perm.mem_iff.mp member)
  · intro found
    obtain ⟨member, rfl⟩ := lookup_key found
    exact lookup_of_mem distinct (perm.mem_iff.mpr member)

theorem lookup_cons (item : α) (rest : List α) (k : κ) :
    lookup keyOf (item :: rest) k = if keyOf item = k then some item else lookup keyOf rest k := by
  rw [lookup, List.find?_cons]
  by_cases same : keyOf item = k
  · simp [same]
  · simp [same, lookup]

theorem lookup_upsert (items : List α) (item : α) (k : κ) :
    lookup keyOf (upsert keyOf item items) k =
      if keyOf item = k then some item else lookup keyOf items k := by
  induction items with
  | nil => exact lookup_cons item [] k
  | cons other rest ih =>
      rw [upsert]
      split
      · rename_i same
        rw [lookup_cons, lookup_cons, same]
        split <;> rfl
      · rename_i different
        rw [lookup_cons, lookup_cons, ih]
        by_cases here : keyOf other = k
        · rw [if_pos here, if_pos here, if_neg]
          exact fun same => different (here.trans same.symm)
        · rw [if_neg here, if_neg here]

theorem lookup_remove (items : List α) (removed k : κ) :
    lookup keyOf (remove keyOf items removed) k = if removed = k then none else lookup keyOf items k := by
  rw [lookup, remove, List.find?_filter]
  split
  · rename_i same
    simp [same]
  · rename_i different
    refine congrArg (List.find? · items) ?_
    funext item
    by_cases here : keyOf item = k
    · simp [here, Ne.symm different]
    · simp [here]

theorem upsert_absent {item : α} {items : List α} (absent : keyOf item ∉ items.map keyOf) :
    upsert keyOf item items = items ++ [item] := by
  induction items with
  | nil => rfl
  | cons other rest ih =>
      rw [List.map_cons, List.mem_cons, not_or] at absent
      rw [upsert, if_neg (Ne.symm absent.1), ih absent.2, List.cons_append]

theorem mem_keys_upsert (item : α) (items : List α) :
    k ∈ (upsert keyOf item items).map keyOf ↔ k = keyOf item ∨ k ∈ items.map keyOf := by
  induction items with
  | nil => simp [upsert]
  | cons other rest ih =>
      rw [upsert]
      split
      · rename_i same
        simp [same]
      · rw [List.map_cons, List.map_cons, List.mem_cons, List.mem_cons, ih]
        tauto

theorem nodup_upsert {items : List α} (item : α) (distinct : (items.map keyOf).Nodup) :
    ((upsert keyOf item items).map keyOf).Nodup := by
  induction items with
  | nil => exact List.nodup_singleton _
  | cons other rest ih =>
      rw [upsert]
      obtain ⟨fresh, distinct⟩ := List.nodup_cons.mp distinct
      split
      · rename_i same
        exact List.nodup_cons.mpr ⟨same ▸ fresh, distinct⟩
      · rename_i different
        refine List.nodup_cons.mpr ⟨?_, ih distinct⟩
        rw [mem_keys_upsert]
        rintro (same | listed)
        · exact different same
        · exact fresh listed

theorem nodup_remove {items : List α} (removed : κ) (distinct : (items.map keyOf).Nodup) :
    ((remove keyOf items removed).map keyOf).Nodup :=
  (List.filter_sublist.map _).nodup distinct

end Meshloom.Keyed
