import Mathlib

/-! Enumerating the distinct values of a column by a recursive query that asks, again and
again, for the least value above the last one. -/
namespace Meshloom.SkipScan
variable {α : Type} [LinearOrder α]

/-- `SELECT MIN(x) ... WHERE x > current`. -/
def next (values : List α) (current : α) : Option α := (values.filter (current < ·)).min?

/-- The rows of the recursive query from a first one on, up to the null that ends it. -/
def rows (values : List α) : Nat → Option α → List α
  | _, none => []
  | 0, some _ => []
  | fuel + 1, some current => current :: rows values fuel (next values current)

def skipScan (values : List α) : List α := rows values values.length values.min?

theorem next_none {values : List α} (last : next values current = none) (member : x ∈ values) :
    x ≤ current := by
  by_contra above
  have found : x ∈ values.filter (current < ·) :=
    List.mem_filter.mpr ⟨member, by simpa using above⟩
  rw [List.min?_eq_none_iff.mp last] at found
  contradiction

theorem next_some {values : List α} (found : next values current = some following) :
    following ∈ values ∧ current < following ∧ ∀ x ∈ values, current < x → following ≤ x := by
  obtain ⟨member, least⟩ := List.min?_eq_some_iff.mp found
  obtain ⟨listed, above⟩ := List.mem_filter.mp member
  refine ⟨listed, by simpa using above, ?_⟩
  intro x other greater
  exact least x (List.mem_filter.mpr ⟨other, by simpa using greater⟩)

/-- How many values there are from a value on. -/
def left (values : List α) (current : α) : Nat := (values.filter (current ≤ ·)).length

theorem left_next {values : List α} (member : current ∈ values)
    (found : next values current = some following) : left values following < left values current := by
  obtain ⟨_, above, _⟩ := next_some found
  have fewer : values.filter (following ≤ ·) =
      (values.filter (current ≤ ·)).filter (following ≤ ·) := by
    rw [List.filter_filter]
    apply List.filter_congr
    intro x _
    by_cases later : following ≤ x
    · simp [later, above.le.trans later]
    · simp [later]
  rw [left, left, fewer]
  apply List.length_filter_lt_length_iff_exists.mpr
  exact ⟨current, List.mem_filter.mpr ⟨member, by simp⟩, by simpa using above⟩

/-- With as many rounds as there are values, the rows from a value on are the values from
it on, in order. -/
theorem rows_spec {values : List α} {fuel : Nat} (member : current ∈ values)
    (enough : left values current ≤ fuel) :
    (rows values fuel (some current)).Pairwise (· < ·) ∧
      ∀ x, x ∈ rows values fuel (some current) ↔ x ∈ values ∧ current ≤ x := by
  induction fuel generalizing current with
  | zero =>
      have self : current ∈ values.filter (current ≤ ·) := List.mem_filter.mpr ⟨member, by simp⟩
      have positive := List.length_pos_of_mem self
      exact absurd enough (Nat.not_le.mpr positive)
  | succ fuel ih =>
      rw [rows]
      cases following : next values current with
      | none =>
          refine ⟨by simp [rows], ?_⟩
          intro x
          have only (listed : x ∈ values) (above : current ≤ x) : x = current :=
            le_antisymm (next_none following listed) above
          simp only [rows, List.mem_singleton]
          constructor
          · rintro rfl
            exact ⟨member, le_rfl⟩
          · rintro ⟨listed, above⟩
            exact only listed above
      | some later =>
          obtain ⟨listed, above, least⟩ := next_some following
          have shorter := left_next member following
          obtain ⟨sorted, members⟩ := ih listed (by omega)
          refine ⟨List.pairwise_cons.mpr ⟨?_, sorted⟩, ?_⟩
          · intro x found
            exact above.trans_le ((members x).mp found).2
          · intro x
            rw [List.mem_cons, members]
            constructor
            · rintro (rfl | ⟨there, beyond⟩)
              · exact ⟨member, le_rfl⟩
              · exact ⟨there, above.le.trans beyond⟩
            · rintro ⟨there, beyond⟩
              obtain same | greater := eq_or_lt_of_le beyond
              · exact .inl same.symm
              · exact .inr ⟨there, least x there greater⟩

theorem rows_first (values : List α) {fuel : Nat} (enough : values.length ≤ fuel) :
    (rows values fuel values.min?).Pairwise (· < ·) ∧
      ∀ x, x ∈ rows values fuel values.min? ↔ x ∈ values := by
  cases first : values.min? with
  | none =>
      rw [List.min?_eq_none_iff] at first
      subst first
      simp [rows]
  | some least =>
      obtain ⟨member, lower⟩ := List.min?_eq_some_iff.mp first
      obtain ⟨sorted, members⟩ := rows_spec member ((List.length_filter_le _ _).trans enough)
      refine ⟨sorted, ?_⟩
      intro x
      rw [members]
      exact ⟨fun found => found.1, fun found => ⟨found, lower x found⟩⟩

/-- The query ends by itself: more rounds add no row. -/
theorem rows_ends (values : List α) {fuel : Nat} (enough : values.length ≤ fuel) :
    rows values fuel values.min? = skipScan values := by
  obtain ⟨sorted, members⟩ := rows_first values enough
  obtain ⟨sorted', members'⟩ := rows_first values le_rfl
  refine List.Perm.eq_of_pairwise (fun _ _ _ _ less greater => (less.asymm greater).elim) sorted sorted' ?_
  apply (List.perm_ext_iff_of_nodup (sorted.imp ne_of_lt) (sorted'.imp ne_of_lt)).mpr
  intro x
  rw [members, members']

end Meshloom.SkipScan
