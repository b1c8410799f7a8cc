import Meshloom.StableSort

/-! Paging through a table by key: what lies behind a row of a sorted query is again a query,
and a scan that stops at a number of wanted rows or of rows walked is cut from its list. -/
namespace Meshloom.KeysetScan
open StableSort
variable {α κ : Type} [LinearOrder κ] {key : α → κ} {wanted : α → Bool}

/-- The rows of a table have keys of their own. -/
def Keyed (key : α → κ) (table : List α) : Prop :=
  table.Nodup ∧ ∀ a ∈ table, ∀ b ∈ table, key a = key b → a = b

/-- A query in the order of falling keys. -/
def select (key : α → κ) (table : List α) (chosen : α → Bool) : List α :=
  sortFalling key (table.filter chosen)

theorem mem_select {table : List α} {chosen : α → Bool} {row : α} :
    row ∈ select key table chosen ↔ row ∈ table ∧ chosen row = true := by
  rw [select, (sortFalling_perm key _).mem_iff, List.mem_filter]

/-- Keys fall strictly along a query. -/
theorem select_falling {table : List α} (keyed : Keyed key table) (chosen : α → Bool) :
    (select key table chosen).Pairwise fun a b => key b < key a := by
  have nodup : (select key table chosen).Nodup :=
    (sortFalling_perm key _).nodup_iff.mpr (keyed.1.filter _)
  refine ((sortFalling_pairwise key _).and nodup).imp_of_mem ?_
  rintro a b left right ⟨le, other⟩
  refine lt_of_le_of_ne le fun same => other ?_
  exact (keyed.2 b (mem_select.mp right).1 a (mem_select.mp left).1 same).symm

/-- A stronger condition picks its rows out of the query. -/
theorem select_filter {table : List α} (keyed : Keyed key table) (chosen more : α → Bool) :
    select key table (fun row => chosen row && more row) =
      (select key table chosen).filter more := by
  refine List.Perm.eq_of_pairwise ?_ (sortFalling_pairwise key _)
    ((sortFalling_pairwise key _).filter _) ?_
  · intro a b left right first second
    exact keyed.2 a (mem_select.mp left).1 b
      (mem_select.mp (List.mem_of_mem_filter right)).1 (le_antisymm second first)
  · have same : table.filter (fun row => chosen row && more row) =
        (table.filter chosen).filter more := by
      rw [List.filter_filter]
      exact List.filter_congr fun row _ => Bool.and_comm _ _
    rw [select, same]
    exact (sortFalling_perm key _).trans ((sortFalling_perm key _).filter more).symm

theorem length_select (key : α → κ) (table : List α) (chosen : α → Bool) :
    (select key table chosen).length = (table.filter chosen).length :=
  (sortFalling_perm key _).length_eq

/-- The keys below the last one of a beginning are those of the rest. -/
theorem filter_behind {before rest : List α} {last : α}
    (falling : (before ++ last :: rest).Pairwise fun a b => key b < key a) :
    (before ++ last :: rest).filter (fun row => decide (key row < key last)) = rest := by
  obtain ⟨_, tail, across⟩ := List.pairwise_append.mp falling
  have above : before.filter (fun row => decide (key row < key last)) = [] := by
    rw [List.filter_eq_nil_iff]
    intro row member
    simpa using (across row member last List.mem_cons_self).le
  have below : rest.filter (fun row => decide (key row < key last)) = rest := by
    rw [List.filter_eq_self]
    intro row member
    simpa using (List.pairwise_cons.mp tail).1 row member
  rw [List.filter_append, above, List.filter_cons_of_neg (by simp), below, List.nil_append]

/-- Along falling keys those at or above a bound come first. -/
theorem above_append_below {rows : List α} (falling : rows.Pairwise fun a b => key b < key a) (bound : κ) :
    rows = rows.filter (fun row => decide (bound ≤ key row)) ++
      rows.filter fun row => decide (key row < bound) := by
  induction rows with
  | nil => rfl
  | cons row rest ih =>
      obtain ⟨first, falling⟩ := List.pairwise_cons.mp falling
      by_cases below : key row < bound
      · have all : ∀ other ∈ rest, key other < bound := fun other member =>
          (first other member).trans below
        have above : rest.filter (fun row => decide (bound ≤ key row)) = [] := by
          rw [List.filter_eq_nil_iff]
          intro other member
          simpa using all other member
        have same : rest.filter (fun row => decide (key row < bound)) = rest := by
          rw [List.filter_eq_self]
          intro other member
          simpa using all other member
        rw [List.filter_cons_of_neg (by simpa using below), above,
          List.filter_cons_of_pos (by simpa using below), same, List.nil_append]
      · rw [List.filter_cons_of_pos (by simpa using below),
          List.filter_cons_of_neg (by simpa using below), List.cons_append, ← ih falling]

/-- The rows that are walked until a number of wanted ones is found. -/
def walked (wanted : α → Bool) : Nat → List α → List α
  | _, [] => []
  | 0, _ => []
  | limit + 1, row :: rest =>
    row :: walked wanted (if wanted row then limit else limit + 1) rest

/-- The wanted rows of a page, and whether it ends because `maxScan` rows were walked and
more are left. -/
def page (limit maxScan : Nat) (wanted : α → Bool) (rows : List α) : List α × Bool :=
  (((rows.take maxScan).filter wanted).take limit,
    decide ((walked wanted limit (rows.take maxScan)).length = maxScan ∧ maxScan < rows.length))

@[simp]
theorem walked_nil (limit : Nat) : walked wanted limit [] = [] := by
  cases limit <;> rfl

@[simp]
theorem walked_zero (rows : List α) : walked wanted 0 rows = [] := by
  cases rows <;> rfl

theorem walked_prefix (wanted : α → Bool) (limit : Nat) (rows : List α) : walked wanted limit rows <+: rows := by
  induction rows generalizing limit with
  | nil => simp
  | cons row rest ih =>
      cases limit with
      | zero => simp
      | succ limit =>
          rw [walked]
          exact List.cons_prefix_cons.mpr ⟨rfl, ih _⟩

theorem filter_walked (wanted : α → Bool) (limit : Nat) (rows : List α) :
    (walked wanted limit rows).filter wanted = (rows.filter wanted).take limit := by
  induction rows generalizing limit with
  | nil => simp
  | cons row rest ih =>
      cases limit with
      | zero => simp
      | succ limit =>
          rw [walked]
          by_cases found : wanted row = true
          · rw [if_pos found, List.filter_cons_of_pos found, List.filter_cons_of_pos found,
              List.take_succ_cons, ih]
          · rw [if_neg found, List.filter_cons_of_neg found, List.filter_cons_of_neg found, ih]

/-- A walk goes on in what follows with the number that it still wants. -/
theorem walked_append (wanted : α → Bool) (limit : Nat) (first second : List α) :
    walked wanted limit (first ++ second) = walked wanted limit first ++
      walked wanted (limit - ((first.filter wanted).take limit).length) second := by
  induction first generalizing limit with
  | nil => simp
  | cons row rest ih =>
      cases limit with
      | zero => simp
      | succ limit =>
          rw [List.cons_append, walked, walked, List.cons_append, ih]
          by_cases found : wanted row = true
          · rw [if_pos found, List.filter_cons_of_pos found, List.take_succ_cons, List.length_cons,
              Nat.add_sub_add_right]
          · rw [if_neg found, List.filter_cons_of_neg found]

/-- A walk that finds fewer than it wants walks everything. -/
theorem walked_whole {limit : Nat} {rows : List α} (few : (rows.filter wanted).length < limit) :
    walked wanted limit rows = rows := by
  induction rows generalizing limit with
  | nil => simp
  | cons row rest ih =>
      cases limit with
      | zero => contradiction
      | succ limit =>
          rw [walked]
          by_cases found : wanted row = true
          · rw [List.filter_cons_of_pos found, List.length_cons] at few
            rw [if_pos found, ih (Nat.lt_of_succ_lt_succ few)]
          · rw [List.filter_cons_of_neg found] at few
            rw [if_neg found, ih few]

end Meshloom.KeysetScan
