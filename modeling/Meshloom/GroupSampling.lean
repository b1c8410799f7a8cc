import Meshloom.Dict
import Meshloom.FirstOccurrences

/-! Samples of a list by groups: from each of the first groups, the first elements with
fingerprints of their own. A scan that remembers the fingerprints of each group collects
them in the order of the list, and may stop once every group it keeps is full. -/
namespace Meshloom.GroupSampling
open FirstOccurrences
variable {α κ β γ : Type} [DecidableEq α] [DecidableEq κ] [DecidableEq β]
variable (group : α → κ) (print : α → β) (emit : α → γ) (maxGroups perGroup : Nat)

/-- The groups in the order in which they appear. -/
def groups (items : List α) : List κ := (firstOccurrences group items).map group

def kept (items : List α) : List κ := (groups group items).take maxGroups

/-- The first elements of a group with distinct fingerprints. -/
def chosen (items : List α) (k : κ) : List α :=
  (firstOccurrences print (items.filter fun a => group a = k)).take perGroup

/-- The samples of a list, in its order. -/
def sample (items : List α) : List α :=
  items.filter fun a => group a ∈ kept group maxGroups items ∧
    a ∈ chosen group print perGroup items (group a)

/-- The fingerprints of each group kept so far, and the samples. -/
structure State (κ β γ : Type) where
  seen : Dict κ (List β)
  samples : List γ

/-- An element of a group whose fingerprints are known. -/
def State.add (s : State κ β γ) (prints : List β) (a : α) : State κ β γ :=
  if prints.length < perGroup ∧ print a ∉ prints then
    ⟨s.seen.set (group a) (prints ++ [print a]), s.samples ++ [emit a]⟩
  else ⟨s.seen.set (group a) prints, s.samples⟩

def State.put (s : State κ β γ) (a : α) : State κ β γ :=
  match s.seen.get? (group a) with
  | some prints => s.add group print emit perGroup prints a
  | none => if maxGroups ≤ s.seen.size then s else s.add group print emit perGroup [] a

/-- No element can add a sample. -/
def State.Full (s : State κ β γ) : Prop :=
  maxGroups ≤ s.seen.size ∧ ∀ k prints, s.seen.get? k = some prints → perGroup ≤ prints.length

variable {group print emit maxGroups perGroup} {items : List α} {s : State κ β γ}

omit [DecidableEq α] in
theorem put_full (full : s.Full maxGroups perGroup) (a : α) :
    s.put group print emit maxGroups perGroup a = s := by
  unfold State.put
  split
  · rename_i prints found
    have many := full.2 _ _ found
    rw [State.add, if_neg (fun fits => absurd fits.1 (Nat.not_lt.mpr many)),
      Dict.set_eq_self found]
  · rw [if_pos full.1]

omit [DecidableEq α] in
/-- What follows a full state is not needed. -/
theorem foldl_full (full : s.Full maxGroups perGroup) (items : List α) :
    items.foldl (State.put group print emit maxGroups perGroup) s = s := by
  induction items with
  | nil => rfl
  | cons a rest ih => rw [List.foldl_cons, put_full full, ih]

omit [DecidableEq α] in
theorem firstOccurrences_snoc (items : List α) (a : α) :
    firstOccurrences group (items ++ [a]) =
      if group a ∈ items.map group then firstOccurrences group items
      else firstOccurrences group items ++ [a] := by
  have keys : group a ∈ (firstOccurrences group items).map group ↔ group a ∈ items.map group := by
    rw [← foldl_nil_firstOccurrences, mem_foldl]
    simp
  rw [← foldl_nil_firstOccurrences, List.foldl_append, foldl_nil_firstOccurrences, List.foldl_cons,
    List.foldl_nil, addNew]
  simp only [keys]

omit [DecidableEq α] in
theorem mem_groups {k : κ} : k ∈ groups group items ↔ k ∈ items.map group := by
  rw [groups, ← foldl_nil_firstOccurrences, mem_foldl]
  simp

omit [DecidableEq α] in
theorem groups_snoc (items : List α) (a : α) : groups group (items ++ [a]) =
    if group a ∈ groups group items then groups group items
    else groups group items ++ [group a] := by
  simp only [mem_groups]
  simp only [groups, firstOccurrences_snoc]
  split
  · rfl
  · rw [List.map_append, List.map_singleton]

omit [DecidableEq α] in
theorem take_snoc (n : Nat) (l : List α) (a : α) :
    (l ++ [a]).take n = if (l.take n).length < n then l.take n ++ [a] else l.take n := by
  rw [List.length_take]
  split
  · rename_i short
    have fits : l.length < n := by omega
    rw [List.take_of_length_le (by rw [List.length_append, List.length_singleton]; omega),
      List.take_of_length_le fits.le]
  · rename_i long
    rw [List.take_append_of_le_length (by omega)]

omit [DecidableEq α] in
theorem kept_snoc (items : List α) (a : α) : kept group maxGroups (items ++ [a]) =
    if group a ∈ kept group maxGroups items then kept group maxGroups items
    else if maxGroups ≤ (kept group maxGroups items).length then kept group maxGroups items
    else kept group maxGroups items ++ [group a] := by
  by_cases known : group a ∈ groups group items
  · rw [kept, groups_snoc, if_pos known, ← kept]
    split
    · rfl
    · rename_i cut
      rw [if_pos]
      rw [kept, List.length_take, Nat.le_min]
      refine ⟨Nat.le_refl _, ?_⟩
      by_contra short
      exact cut (by rwa [kept, List.take_of_length_le (by omega)])
  · have fresh : group a ∉ kept group maxGroups items := fun member =>
      known (List.mem_of_mem_take member)
    rw [if_neg fresh, kept, groups_snoc, if_neg known, take_snoc, ← kept]
    by_cases full : maxGroups ≤ (kept group maxGroups items).length
    · rw [if_pos full, if_neg (Nat.not_lt.mpr full)]
    · rw [if_neg full, if_pos (Nat.lt_of_not_le full)]

/-- The next element is one that its group takes. -/
def Fits (group : α → κ) (print : α → β) (perGroup : Nat) (items : List α) (a : α) : Prop :=
  (chosen group print perGroup items (group a)).length < perGroup ∧
    print a ∉ (chosen group print perGroup items (group a)).map print

omit [DecidableEq α] in
theorem chosen_snoc_other (items : List α) (a : α) {k : κ} (other : group a ≠ k) :
    chosen group print perGroup (items ++ [a]) k = chosen group print perGroup items k := by
  rw [chosen, List.filter_append, List.filter_cons_of_neg (by simpa using other), List.filter_nil,
    List.append_nil, ← chosen]

omit [DecidableEq α] in
theorem chosen_snoc_same (items : List α) (a : α) :
    chosen group print perGroup (items ++ [a]) (group a) =
      (if print a ∈ (items.filter fun b => group b = group a).map print then
        firstOccurrences print (items.filter fun b => group b = group a)
      else firstOccurrences print (items.filter fun b => group b = group a) ++ [a]).take perGroup := by
  rw [chosen, List.filter_append, List.filter_cons_of_pos (by simp), List.filter_nil,
    firstOccurrences_snoc]

omit [DecidableEq α] in
theorem chosen_snoc_fits {a : α} (fits : Fits group print perGroup items a) :
    chosen group print perGroup (items ++ [a]) (group a) =
      chosen group print perGroup items (group a) ++ [a] := by
  obtain ⟨room, fresh⟩ := fits
  have whole : chosen group print perGroup items (group a) =
      firstOccurrences print (items.filter fun b => group b = group a) := by
    rw [chosen, List.length_take] at room
    exact List.take_of_length_le (by omega)
  rw [whole] at fresh
  rw [chosen_snoc_same, if_neg (mem_groups.not.mp fresh), take_snoc, ← chosen, if_pos room]

omit [DecidableEq α] in
theorem chosen_snoc_not {a : α} (full : ¬Fits group print perGroup items a) :
    chosen group print perGroup (items ++ [a]) (group a) =
      chosen group print perGroup items (group a) := by
  rw [chosen_snoc_same]
  split
  · rfl
  · rename_i fresh
    rw [take_snoc, ← chosen, if_neg]
    intro room
    refine full ⟨room, fun seen => fresh (mem_groups.mp ?_)⟩
    obtain ⟨b, member, same⟩ := List.mem_map.mp seen
    exact List.mem_map.mpr ⟨b, List.mem_of_mem_take member, same⟩

omit [DecidableEq α] in
theorem mem_chosen_snoc {a b : α} (other : b ≠ a) (k : κ) :
    b ∈ chosen group print perGroup (items ++ [a]) k ↔ b ∈ chosen group print perGroup items k := by
  by_cases same : group a = k
  · subst same
    by_cases fits : Fits group print perGroup items a
    · rw [chosen_snoc_fits fits, List.mem_append, List.mem_singleton]
      exact or_iff_left other
    · rw [chosen_snoc_not fits]
  · rw [chosen_snoc_other items a same]

omit [DecidableEq α] in
theorem mem_chosen {b : α} {k : κ} (member : b ∈ chosen group print perGroup items k) :
    b ∈ items := by
  have first := List.mem_of_mem_take member
  have sub : ∀ l : List α, ∀ b ∈ firstOccurrences print l, b ∈ l := by
    intro l
    induction l with
    | nil => exact fun _ none => none
    | cons c rest ih =>
        intro b found
        rcases List.mem_cons.mp found with rfl | later
        · exact List.mem_cons_self
        · exact List.mem_cons_of_mem _ (ih b (List.mem_filter.mp later).1)
  exact (List.mem_filter.mp (sub _ b first)).1

omit [DecidableEq α] in
theorem mem_kept_snoc {a b : α} (before : b ∈ items) :
    group b ∈ kept group maxGroups (items ++ [a]) ↔ group b ∈ kept group maxGroups items := by
  rw [kept_snoc]
  split
  · rfl
  · split
    · rfl
    · rename_i fresh room
      rw [List.mem_append, List.mem_singleton, or_iff_left_iff_imp]
      intro same
      have whole : kept group maxGroups items = groups group items := by
        rw [kept, List.length_take] at room
        exact List.take_of_length_le (by omega)
      rw [whole]
      exact mem_groups.mpr (List.mem_map_of_mem before)

/-- What one more element adds to the samples. -/
theorem sample_snoc {a : α} (fresh : a ∉ items) :
    sample group print maxGroups perGroup (items ++ [a]) =
      sample group print maxGroups perGroup items ++
        [a].filter fun a => group a ∈ kept group maxGroups (items ++ [a]) ∧
          a ∈ chosen group print perGroup (items ++ [a]) (group a) := by
  have before : ∀ b ∈ items,
      decide (group b ∈ kept group maxGroups (items ++ [a]) ∧
        b ∈ chosen group print perGroup (items ++ [a]) (group b)) =
      decide (group b ∈ kept group maxGroups items ∧
        b ∈ chosen group print perGroup items (group b)) := by
    intro b member
    have other : b ≠ a := fun same => fresh (same ▸ member)
    rw [decide_eq_decide, mem_kept_snoc member, mem_chosen_snoc other]
  rw [sample, List.filter_append, List.filter_congr before, ← sample]
  rfl

omit [DecidableEq α] in
theorem mem_chosen_self {a : α} (fresh : a ∉ items) :
    a ∈ chosen group print perGroup (items ++ [a]) (group a) ↔ Fits group print perGroup items a := by
  constructor
  · intro member
    by_contra full
    rw [chosen_snoc_not full] at member
    exact fresh (mem_chosen member)
  · intro fits
    rw [chosen_snoc_fits fits]
    exact List.mem_append_right _ List.mem_cons_self

/-- The state after a list. -/
structure Sampled (group : α → κ) (print : α → β) (emit : α → γ) (maxGroups perGroup : Nat)
    (s : State κ β γ) (items : List α) : Prop where
  keys : s.seen.keys = kept group maxGroups items
  prints : ∀ k ∈ kept group maxGroups items,
    s.seen.get? k = some ((chosen group print perGroup items k).map print)
  samples : s.samples = (sample group print maxGroups perGroup items).map emit

namespace Sampled

/-- An element of a group that is kept. -/
theorem add (sampled : Sampled group print emit maxGroups perGroup s items) {a : α}
    (fresh : a ∉ items) {prints : List β}
    (known : prints = (chosen group print perGroup items (group a)).map print)
    (keys : ∀ prints', (s.seen.set (group a) prints').keys = kept group maxGroups (items ++ [a])) :
    Sampled group print emit maxGroups perGroup (s.add group print emit perGroup prints a)
      (items ++ [a]) := by
  have member : group a ∈ kept group maxGroups (items ++ [a]) := by
    rw [← keys []]
    exact Dict.mem_keys_iff.mpr ⟨[], by simp⟩
  have others : ∀ prints', ∀ k ∈ kept group maxGroups (items ++ [a]), k ≠ group a →
      (s.seen.set (group a) prints').get? k =
        some ((chosen group print perGroup (items ++ [a]) k).map print) := by
    intro prints' k keptKey other
    rw [← keys prints', Dict.mem_keys_iff] at keptKey
    obtain ⟨_, found⟩ := keptKey
    rw [Dict.get?_set, if_neg other] at found
    have before : k ∈ kept group maxGroups items := sampled.keys ▸ Dict.mem_keys_iff.mpr ⟨_, found⟩
    rw [Dict.get?_set, if_neg other, sampled.prints k before, chosen_snoc_other items a (Ne.symm other)]
  have fits_iff : (prints.length < perGroup ∧ print a ∉ prints) ↔
      Fits group print perGroup items a := by
    rw [known, List.length_map, Fits]
  unfold State.add
  by_cases fits : Fits group print perGroup items a
  · rw [if_pos (fits_iff.mpr fits)]
    refine ⟨keys _, ?_, ?_⟩
    · intro k keptKey
      by_cases same : k = group a
      · subst same
        simp [known, chosen_snoc_fits fits]
      · exact others _ k keptKey same
    · rw [sample_snoc fresh, List.filter_singleton, List.map_append, ← sampled.samples]
      simp [member, (mem_chosen_self fresh).mpr fits]
  · rw [if_neg (fits_iff.not.mpr fits)]
    refine ⟨keys _, ?_, ?_⟩
    · intro k keptKey
      by_cases same : k = group a
      · subst same
        simp [known, chosen_snoc_not fits]
      · exact others _ k keptKey same
    · rw [sample_snoc fresh, List.filter_singleton, List.map_append, ← sampled.samples]
      simp [(mem_chosen_self fresh).not.mpr fits]

/-- What one more element does. -/
theorem put (sampled : Sampled group print emit maxGroups perGroup s items) {a : α}
    (fresh : a ∉ items) :
    Sampled group print emit maxGroups perGroup (s.put group print emit maxGroups perGroup a)
      (items ++ [a]) := by
  have size : s.seen.size = (kept group maxGroups items).length := by
    rw [← Dict.length_keys, sampled.keys]
  unfold State.put
  by_cases known : group a ∈ kept group maxGroups items
  · rw [sampled.prints _ known]
    refine sampled.add fresh rfl ?_
    intro prints'
    rw [Dict.keys_set_present (sampled.keys ▸ known), sampled.keys, kept_snoc, if_pos known]
  · have absent : s.seen.get? (group a) = none := by
      rw [← Dict.notMem_keys_iff, sampled.keys]
      exact known
    rw [absent]
    by_cases full : maxGroups ≤ s.seen.size
    · have same : kept group maxGroups (items ++ [a]) = kept group maxGroups items := by
        rw [kept_snoc, if_neg known, if_pos (size ▸ full)]
      refine (if_pos full).symm ▸ ⟨?_, ?_, ?_⟩
      · rw [same]
        exact sampled.keys
      · intro k keptKey
        rw [same] at keptKey
        have other : group a ≠ k := fun eq => known (eq ▸ keptKey)
        rw [chosen_snoc_other items a other]
        exact sampled.prints k keptKey
      · rw [sample_snoc fresh, List.filter_singleton, same, sampled.samples]
        simp [known]
    · have whole : kept group maxGroups items = groups group items := by
        rw [size, kept, List.length_take] at full
        exact List.take_of_length_le (by omega)
      have empty : chosen group print perGroup items (group a) = [] := by
        have none_ : items.filter (fun b => group b = group a) = [] := by
          rw [List.filter_eq_nil_iff]
          intro b member same
          rw [whole, mem_groups] at known
          exact known (List.mem_map.mpr ⟨b, member, by simpa using same⟩)
        rw [chosen, none_, firstOccurrences, List.take_nil]
      refine (if_neg full).symm ▸ sampled.add fresh (by rw [empty, List.map_nil]) ?_
      intro prints'
      rw [Dict.keys_set_absent absent, sampled.keys, kept_snoc, if_neg known, if_neg (size ▸ full)]

end Sampled

/-- The scan of a list without repetitions collects its samples. -/
theorem foldl_put (distinct : items.Nodup) :
    Sampled group print emit maxGroups perGroup
      (items.foldl (State.put group print emit maxGroups perGroup) ⟨Dict.empty, []⟩) items := by
  induction items using List.reverseRecOn with
  | nil =>
      refine ⟨?_, ?_, ?_⟩
      · simp [kept, groups, firstOccurrences, Dict.keys, Dict.empty]
      · simp [kept, groups, firstOccurrences]
      · simp [sample]
  | append_singleton items a ih =>
      obtain ⟨distinct, _, apart⟩ := List.nodup_append.mp distinct
      have fresh : a ∉ items := fun member => apart a member a List.mem_cons_self rfl
      rw [List.foldl_append, List.foldl_cons, List.foldl_nil]
      exact (ih distinct).put fresh

/-- The samples do not depend on how a group is named. -/
theorem sample_naming {δ : Type} [DecidableEq δ] {name : κ → δ} (injective : Function.Injective name)
    (items : List α) :
    sample (fun a => name (group a)) print maxGroups perGroup items =
      sample group print maxGroups perGroup items := by
  have first : ∀ l : List α, firstOccurrences (fun a => name (group a)) l = firstOccurrences group l := by
    intro l
    induction l with
    | nil => rfl
    | cons a rest ih => simp only [firstOccurrences, ih, ne_eq, injective.eq_iff]
  refine List.filter_congr fun a _ => ?_
  have keptIff : name (group a) ∈ kept (fun a => name (group a)) maxGroups items ↔
      group a ∈ kept group maxGroups items := by
    rw [kept, groups, first, kept, groups, ← Function.comp_def, ← List.map_map, ← List.map_take,
      List.mem_map_of_injective injective]
  rw [decide_eq_decide, keptIff]
  simp only [chosen, injective.eq_iff]

/-- One sample of one group is the first element. -/
theorem sample_one {a : α} (distinct : (a :: items).Nodup) :
    sample group print 1 1 (a :: items) = [a] := by
  have group_ : kept group 1 (a :: items) = [group a] := by
    simp [kept, groups, firstOccurrences]
  have first : chosen group print 1 (a :: items) (group a) = [a] := by
    simp [chosen, firstOccurrences]
  rw [sample, List.filter_cons_of_pos (by simp [group_, first])]
  have others : items.filter (fun b => group b ∈ kept group 1 (a :: items) ∧
      b ∈ chosen group print 1 (a :: items) (group b)) = [] := by
    rw [List.filter_eq_nil_iff]
    intro b member taken
    simp only [group_, List.mem_singleton, decide_eq_true_eq] at taken
    obtain ⟨same, taken⟩ := taken
    rw [same, first, List.mem_singleton] at taken
    exact (List.nodup_cons.mp distinct).1 (taken ▸ member)
  rw [others]

end Meshloom.GroupSampling
