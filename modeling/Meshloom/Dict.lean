import Mathlib.Data.List.Nodup
import Mathlib.Data.List.Perm.Subperm

/-! Insertion-ordered dictionaries. Assigning to a present key keeps its
position and assigning to an absent one appends, so iteration order is the
order in which the present keys were first assigned. -/
namespace Meshloom

structure Dict (κ ν : Type) where
  entries : List (κ × ν)
  nodup : (entries.map Prod.fst).Nodup
  deriving DecidableEq

namespace Dict
variable {κ ν : Type} [DecidableEq κ]

/-- Assignment on the raw entries, in place when the key is present. -/
def assign (k : κ) (v : ν) : List (κ × ν) → List (κ × ν)
  | [] => [(k, v)]
  | (other, old) :: rest =>
    if other = k then (k, v) :: rest else (other, old) :: assign k v rest

theorem mem_keys_assign {entries : List (κ × ν)} :
    a ∈ (assign k v entries).map Prod.fst ↔ a = k ∨ a ∈ entries.map Prod.fst := by
  induction entries with
  | nil => simp [assign]
  | cons entry rest ih =>
      obtain ⟨other, old⟩ := entry
      by_cases same : other = k
      · simp [assign, same]
      · simp only [assign, if_neg same, List.map_cons, List.mem_cons, ih]
        tauto

theorem nodup_assign {entries : List (κ × ν)} (nodup : (entries.map Prod.fst).Nodup) :
    ((assign k v entries).map Prod.fst).Nodup := by
  induction entries with
  | nil => simp [assign]
  | cons entry rest ih =>
      obtain ⟨other, old⟩ := entry
      obtain ⟨fresh, nodup⟩ := List.nodup_cons.mp nodup
      by_cases same : other = k
      · subst same
        simpa [assign] using ⟨by simpa using fresh, nodup⟩
      · simp only [assign, if_neg same, List.map_cons]
        refine List.nodup_cons.mpr ⟨?_, ih nodup⟩
        rw [mem_keys_assign]
        rintro (rfl | member)
        · exact same rfl
        · exact fresh member

def empty : Dict κ ν := ⟨[], List.nodup_nil⟩

def get? (d : Dict κ ν) (k : κ) : Option ν := d.entries.lookup k

def set (d : Dict κ ν) (k : κ) (v : ν) : Dict κ ν :=
  ⟨assign k v d.entries, nodup_assign d.nodup⟩

def pop (d : Dict κ ν) (k : κ) : Dict κ ν :=
  ⟨d.entries.filter (fun entry => !decide (entry.1 = k)),
    (List.filter_sublist.map Prod.fst).nodup d.nodup⟩

/-- Keeps the entries that satisfy `p`. -/
def filter (d : Dict κ ν) (p : κ → ν → Bool) : Dict κ ν :=
  ⟨d.entries.filter (fun entry => p entry.1 entry.2), (List.filter_sublist.map Prod.fst).nodup d.nodup⟩

omit [DecidableEq κ] in
theorem keys_mapValues (entries : List (κ × ν)) (f : κ → ν → ν) :
    (entries.map fun entry => (entry.1, f entry.1 entry.2)).map Prod.fst = entries.map Prod.fst := by
  rw [List.map_map]
  rfl

/-- The same keys with new values. -/
def mapValues (d : Dict κ ν) (f : κ → ν → ν) : Dict κ ν :=
  ⟨d.entries.map fun entry => (entry.1, f entry.1 entry.2), (keys_mapValues d.entries f).symm ▸ d.nodup⟩

def size (d : Dict κ ν) : Nat := d.entries.length

theorem nodup_snoc {d : Dict κ ν} {k : κ} {v : ν} :
    (((d.pop k).entries ++ [(k, v)]).map Prod.fst).Nodup := by
  rw [List.map_append, List.nodup_append]
  refine ⟨(d.pop k).nodup, by simp, ?_⟩
  simp only [pop, List.mem_map, List.mem_filter, Bool.not_eq_eq_eq_not, Bool.not_true,
    decide_eq_false_iff_not, List.map_cons, List.map_nil, List.mem_singleton]
  rintro a ⟨entry, ⟨_, different⟩, rfl⟩ b rfl
  exact different

/-- Moves a present key to the end of the iteration order. -/
def moveToEnd (d : Dict κ ν) (k : κ) : Dict κ ν :=
  match d.get? k with
  | none => d
  | some v => ⟨(d.pop k).entries ++ [(k, v)], nodup_snoc⟩

/-- The first key of the iteration order, with its value. -/
def first? (d : Dict κ ν) : Option (κ × ν) := d.entries.head?

@[simp] theorem get?_empty (k : κ) : (empty : Dict κ ν).get? k = none := rfl

theorem lookup_cons_ne {entries : List (κ × ν)} (different : other ≠ head) :
    ((head, value) :: entries).lookup other = entries.lookup other := by
  rw [List.lookup_cons, beq_false_of_ne different]

theorem lookup_filter_ne (entries : List (κ × ν)) (k other : κ) :
    (entries.filter (fun entry => !decide (entry.1 = k))).lookup other =
      if other = k then none else entries.lookup other := by
  induction entries with
  | nil => simp
  | cons entry rest ih =>
      obtain ⟨head, value⟩ := entry
      by_cases removed : head = k
      · subst removed
        by_cases same : other = head
        · simpa [same] using ih
        · simpa [same, lookup_cons_ne same] using ih
      · by_cases same : other = head
        · subst same
          simp [removed]
        · simpa [removed, lookup_cons_ne same] using ih

theorem lookup_assign (entries : List (κ × ν)) (k other : κ) (v : ν) :
    (assign k v entries).lookup other = if other = k then some v else entries.lookup other := by
  induction entries with
  | nil =>
      by_cases same : other = k
      · simp [assign, same]
      · simp [assign, same, lookup_cons_ne same]
  | cons entry rest ih =>
      obtain ⟨head, value⟩ := entry
      by_cases found : head = k
      · subst found
        by_cases same : other = head
        · simp [assign, same]
        · simp [assign, same, lookup_cons_ne same]
      · by_cases same : other = head
        · subst same
          simp [assign, found]
        · simpa [assign, found, lookup_cons_ne same] using ih

@[simp] theorem get?_set (d : Dict κ ν) (k other : κ) (v : ν) :
    (d.set k v).get? other = if other = k then some v else d.get? other :=
  lookup_assign d.entries k other v

@[simp] theorem get?_pop (d : Dict κ ν) (k other : κ) :
    (d.pop k).get? other = if other = k then none else d.get? other :=
  lookup_filter_ne d.entries k other

@[simp] theorem get?_moveToEnd (d : Dict κ ν) (k other : κ) :
    (d.moveToEnd k).get? other = d.get? other := by
  unfold moveToEnd
  split
  · rfl
  · rename_i v found
    have moved : ((d.pop k).entries ++ [(k, v)]).lookup other =
        ((d.pop k).get? other).or (if other = k then some v else none) := by
      rw [List.lookup_append]
      by_cases same : other = k
      · simp [same, get?]
      · simp [same, get?, lookup_cons_ne same]
    change ((d.pop k).entries ++ [(k, v)]).lookup other = d.get? other
    rw [moved, get?_pop]
    by_cases same : other = k
    · simp [same, found]
    · simp [same]

@[simp] theorem get?_mapValues (d : Dict κ ν) (f : κ → ν → ν) (k : κ) :
    (d.mapValues f).get? k = (d.get? k).map (f k) := by
  obtain ⟨entries, nodup⟩ := d
  simp only [get?, mapValues]
  clear nodup
  induction entries with
  | nil => rfl
  | cons entry rest ih =>
      obtain ⟨other, value⟩ := entry
      by_cases same : k = other
      · subst same
        simp
      · rw [List.map_cons, lookup_cons_ne same, lookup_cons_ne same, ih]

theorem mem_iff_get? (d : Dict κ ν) : (k, v) ∈ d.entries ↔ d.get? k = some v := by
  obtain ⟨entries, nodup⟩ := d
  change (k, v) ∈ entries ↔ entries.lookup k = some v
  induction entries with
  | nil => simp
  | cons entry rest ih =>
      obtain ⟨head, value⟩ := entry
      obtain ⟨fresh, nodup⟩ := List.nodup_cons.mp nodup
      by_cases same : k = head
      · subst same
        have absent : (k, v) ∉ rest := fun member =>
          fresh (List.mem_map.mpr ⟨_, member, rfl⟩)
        simp [absent, eq_comm]
      · simpa [same, lookup_cons_ne same] using ih nodup

theorem get?_filter (d : Dict κ ν) (p : κ → ν → Bool) :
    (d.filter p).get? k = some v ↔ d.get? k = some v ∧ p k v = true := by
  rw [← mem_iff_get?, ← mem_iff_get?]
  exact List.mem_filter

theorem eq_empty {d : Dict κ ν} (absent : ∀ k, d.get? k = none) : d = empty := by
  obtain ⟨entries, nodup⟩ := d
  cases entries with
  | nil => rfl
  | cons entry rest =>
      have found : (⟨entry :: rest, nodup⟩ : Dict κ ν).get? entry.1 = some entry.2 :=
        (mem_iff_get? _).mp List.mem_cons_self
      rw [absent] at found
      contradiction

theorem first?_get? {d : Dict κ ν} (first : d.first? = some (k, v)) : d.get? k = some v :=
  (mem_iff_get? d).mp (List.mem_of_head? first)

/-- The keys in iteration order. -/
def keys (d : Dict κ ν) : List κ := d.entries.map Prod.fst

theorem mem_keys_iff {d : Dict κ ν} : k ∈ d.keys ↔ ∃ v, d.get? k = some v := by
  simp only [keys, List.mem_map, Prod.exists, exists_and_right, exists_eq_right, mem_iff_get?]

theorem notMem_keys_iff {d : Dict κ ν} : k ∉ d.keys ↔ d.get? k = none := by
  rw [mem_keys_iff, ← Option.isSome_iff_exists, Bool.not_eq_true, Option.isSome_eq_false_iff,
    Option.isNone_iff_eq_none]

/-- Assigning to an absent key appends it. -/
theorem keys_set_absent {d : Dict κ ν} (absent : d.get? k = none) :
    (d.set k v).keys = d.keys ++ [k] := by
  have fresh := notMem_keys_iff.mpr absent
  obtain ⟨entries, nodup⟩ := d
  change (assign k v entries).map Prod.fst = entries.map Prod.fst ++ [k]
  change k ∉ entries.map Prod.fst at fresh
  clear nodup absent
  induction entries with
  | nil => rfl
  | cons entry rest ih =>
      rw [List.map_cons, List.mem_cons, not_or] at fresh
      simp only [assign, if_neg (Ne.symm fresh.1), List.map_cons, ih fresh.2, List.cons_append]

/-- Assigning to a present key keeps its place. -/
theorem keys_set_present {d : Dict κ ν} (present : k ∈ d.keys) : (d.set k v).keys = d.keys := by
  obtain ⟨entries, nodup⟩ := d
  change (assign k v entries).map Prod.fst = entries.map Prod.fst
  change k ∈ entries.map Prod.fst at present
  clear nodup
  induction entries with
  | nil => contradiction
  | cons entry rest ih =>
      by_cases same : entry.1 = k
      · simp only [assign, same, if_true, List.map_cons]
      · rw [List.map_cons, List.mem_cons] at present
        simp only [assign, if_neg same, List.map_cons, ih (present.resolve_left (Ne.symm same))]

theorem assign_present {entries : List (κ × ν)} (present : entries.lookup k = some v) :
    assign k v entries = entries := by
  induction entries with
  | nil => simp at present
  | cons entry rest ih =>
      obtain ⟨other, old⟩ := entry
      by_cases head : other = k
      · subst head
        simp only [List.lookup_cons_self, Option.some.injEq] at present
        simp [assign, present]
      · rw [lookup_cons_ne (Ne.symm head)] at present
        rw [assign, if_neg head, ih present]

/-- Assigning what is there changes nothing. -/
theorem set_eq_self {d : Dict κ ν} (present : d.get? k = some v) : d.set k v = d := by
  obtain ⟨entries, nodup⟩ := d
  simp only [set, assign_present present]

theorem keys_pop (d : Dict κ ν) (k : κ) : (d.pop k).keys = d.keys.filter fun other => other ≠ k := by
  simp only [keys, pop, List.filter_map, Function.comp_def, decide_not]

omit [DecidableEq κ] in
theorem length_keys (d : Dict κ ν) : d.keys.length = d.size := List.length_map _

theorem size_set_le (d : Dict κ ν) (k : κ) (v : ν) : (d.set k v).size ≤ d.size + 1 := by
  simp only [← length_keys]
  by_cases present : k ∈ d.keys
  · rw [keys_set_present present]
    omega
  · rw [keys_set_absent (notMem_keys_iff.mp present), List.length_append]
    exact Nat.le_refl _

theorem size_pop_le (d : Dict κ ν) (k : κ) : (d.pop k).size ≤ d.size :=
  List.length_filter_le _ _

theorem size_pop {d : Dict κ ν} (present : d.get? k = some v) : (d.pop k).size + 1 = d.size := by
  have member : k ∈ d.keys := mem_keys_iff.mpr ⟨v, present⟩
  have nodup : d.keys.Nodup := d.nodup
  have erased : (d.pop k).keys = d.keys.erase k := by
    rw [keys_pop, nodup.erase_eq_filter]
    exact List.filter_congr fun other _ => by simp [bne, Bool.beq_eq_decide_eq]
  rw [← length_keys, ← length_keys, erased, List.length_erase_add_one member]

theorem entries_moveToEnd {d : Dict κ ν} (present : d.get? k = some v) :
    (d.moveToEnd k).entries = (d.pop k).entries ++ [(k, v)] := by
  unfold moveToEnd
  split
  · simp_all
  · simp_all

theorem size_moveToEnd {d : Dict κ ν} (present : d.get? k = some v) :
    (d.moveToEnd k).size = d.size := by
  rw [← size_pop present, size, entries_moveToEnd present, List.length_append, List.length_singleton, size]

/-- Popping a key leaves no trace of its last assignment. -/
theorem pop_set (d : Dict κ ν) (k : κ) (v : ν) : (d.set k v).pop k = d.pop k := by
  obtain ⟨entries, nodup⟩ := d
  simp only [pop, set, mk.injEq]
  clear nodup
  induction entries with
  | nil => simp [assign]
  | cons entry rest ih =>
      by_cases same : entry.1 = k
      · simp [assign, same]
      · simp [assign, same, ih]

omit [DecidableEq κ] in
theorem head?_keys (d : Dict κ ν) : d.keys.head? = d.first?.map Prod.fst := List.head?_map

/-- The dictionary that assignments in order leave. -/
def ofList (pairs : List (κ × ν)) : Dict κ ν := pairs.foldl (fun d pair => d.set pair.1 pair.2) empty

/-- Of distinct keys each has the value that was assigned to it. -/
theorem get?_ofList {pairs : List (κ × ν)} (distinct : (pairs.map Prod.fst).Nodup) :
    (ofList pairs).get? k = some v ↔ (k, v) ∈ pairs := by
  have scan : ∀ d : Dict κ ν, (∀ pair ∈ pairs, d.get? pair.1 = none) →
      ((pairs.foldl (fun d pair => d.set pair.1 pair.2) d).get? k = some v ↔
        (k, v) ∈ pairs ∨ d.get? k = some v) := by
    induction pairs with
    | nil => simp
    | cons pair rest ih =>
        obtain ⟨fresh, distinct⟩ := List.nodup_cons.mp distinct
        intro d free
        have free' : ∀ other ∈ rest, (d.set pair.1 pair.2).get? other.1 = none := by
          intro other member
          rw [get?_set, if_neg, free other (List.mem_cons_of_mem _ member)]
          intro same
          exact fresh (List.mem_map.mpr ⟨other, member, same⟩)
        rw [List.foldl_cons, ih distinct _ free', get?_set, List.mem_cons]
        have first := free pair List.mem_cons_self
        by_cases same : k = pair.1
        · subst same
          have later : (pair.1, v) ∉ rest := fun member => fresh (List.mem_map.mpr ⟨_, member, rfl⟩)
          simp [later, first, Prod.ext_iff, eq_comm]
        · have different : (k, v) ≠ pair := fun eq => same (eq ▸ rfl)
          simp [same, different]
  rw [ofList, scan empty (fun _ _ => rfl)]
  simp

theorem mem_of_get?_ofList {pairs : List (κ × ν)} (found : (ofList pairs).get? k = some v) :
    (k, v) ∈ pairs := by
  have scan : ∀ d : Dict κ ν, (pairs.foldl (fun d pair => d.set pair.1 pair.2) d).get? k = some v →
      (k, v) ∈ pairs ∨ d.get? k = some v := by
    clear found
    induction pairs with
    | nil => exact fun d found => .inr found
    | cons pair rest ih =>
        intro d found
        obtain later | before := ih (d.set pair.1 pair.2) found
        · exact .inl (List.mem_cons_of_mem _ later)
        · rw [get?_set] at before
          split at before
          · rename_i same
            cases before
            exact .inl (same ▸ List.mem_cons_self)
          · exact .inr before
  obtain member | absent := scan empty found
  · exact member
  · cases absent

/-- Assigns the entries of another dictionary that are taken. -/
def overlay (taken : κ → ν → Bool) (d other : Dict κ ν) : Dict κ ν :=
  other.entries.foldl (fun d entry =>
    if taken entry.1 entry.2 then d.set entry.1 entry.2 else d) d

/-- A key has what was taken for it, and else what it had. -/
theorem get?_overlay (taken : κ → ν → Bool) (d other : Dict κ ν) (k : κ) :
    (overlay taken d other).get? k = ((other.get? k).filter (taken k)).or (d.get? k) := by
  obtain ⟨entries, nodup⟩ := other
  simp only [overlay, get?]
  induction entries generalizing d with
  | nil => rfl
  | cons entry rest ih =>
      obtain ⟨fresh, nodup⟩ := List.nodup_cons.mp nodup
      rw [List.foldl_cons, ih _ nodup]
      by_cases same : k = entry.1
      · subst same
        have absent : rest.lookup entry.1 = none := by
          rw [List.lookup_eq_none_iff]
          intro pair member
          have different : entry.1 ≠ pair.1 := fun eq =>
            fresh (List.mem_map.mpr ⟨pair, member, eq.symm⟩)
          simp [different]
        have found : (entry :: rest).lookup entry.1 = some entry.2 := by
          rw [List.lookup_cons, beq_self_eq_true]
        rw [absent, found, Option.filter_none, Option.none_or]
        by_cases is_taken : taken entry.1 entry.2 = true
        · have now_there : (d.set entry.1 entry.2).get? entry.1 = some entry.2 := by simp
          rw [if_pos is_taken, Option.filter_some_pos is_taken, Option.some_or]
          exact now_there
        · rw [if_neg is_taken, Option.filter_some_neg (Bool.eq_false_iff.mpr is_taken),
            Option.none_or]
      · have kept : (if taken entry.1 entry.2 then d.set entry.1 entry.2 else d).get? k =
            d.get? k := by
          split
          · rw [get?_set, if_neg same]
          · rfl
        rw [lookup_cons_ne same]
        exact congrArg _ kept

end Dict
end Meshloom
