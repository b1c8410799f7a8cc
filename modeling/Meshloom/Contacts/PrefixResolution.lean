import Meshloom.Contacts.ContactRepository

/-! Several key prefixes resolved by one query (`ContactRepository.resolve_prefixes`): the rows
that any prefix matches, grouped by prefix, and the prefixes with one row in their group. -/
namespace Meshloom.Contacts
open Messages (Key)
open Packet Sql Text

abbrev Row := Key × Contact

/-- `_row_to_contact`: the routes are normalised again, and a column without a value is off. -/
def rowToContact (row : Row) : Row :=
  let (directPath, directPathLen, directPathHashMode) :=
    normalizeContactRoute row.2.directPath row.2.directPathLen row.2.directPathHashMode
  let (routeOverridePath, routeOverrideLen, routeOverrideHashMode) :=
    normalizeRouteOverride row.2.routeOverridePath row.2.routeOverrideLen
      row.2.routeOverrideHashMode
  (row.1, { row.2 with
    directPath := some directPath
    directPathLen := some directPathLen
    directPathHashMode := some directPathHashMode
    routeOverridePath
    routeOverrideLen
    routeOverrideHashMode
    onRadio := some (row.2.onRadio.getD false) })

/-- The rows of the groups, by prefix. -/
abbrev Groups := Dict Key (List Row)

def group (groups : Groups) (p : Key) : List Row := (groups.get? p).getD []

/-- The inner loop: a row joins the group of every prefix it starts with. -/
def joinGroups (normalized : List Key) (groups : Groups) (row : Row) : Groups :=
  normalized.foldl (fun groups p =>
    if p.isPrefixOf row.1 then groups.set p (group groups p ++ [row]) else groups) groups

/-- `{p: [] for p in normalized}`. -/
def emptyGroups (normalized : List Key) : Groups :=
  normalized.foldl (fun groups p => groups.set p []) .empty

def selectRows (contacts : Table) (normalized : List Key) : List Row :=
  contacts.entries.filter fun row => normalized.any fun p => likeStart p row.1

/-- The row of a group of one. -/
def sole : List Row → Option Row
  | [row] => some row
  | _ => none

/-- The answer for a prefix, when its group has one row. -/
def addAnswer (groups : Groups) (result : Dict Key Row) (p : Key) : Dict Key Row :=
  match sole (group groups p) with
  | some row => result.set p (rowToContact row)
  | none => result

def resolvePrefixes (lower : LowerCase) (contacts : Table) (prefixes : List (List Char)) :
    Dict Key Row :=
  let normalized := prefixes.map lower.apply
  let prefixToRows := (selectRows contacts normalized).foldl (joinGroups normalized)
    (emptyGroups normalized)
  normalized.foldl (addAnswer prefixToRows) .empty

/-- The row is the only one whose key starts with the prefix. -/
def OnlyMatch (contacts : Table) (p : Key) (row : Row) : Prop :=
  row ∈ contacts.entries ∧ p <+: row.1 ∧ ∀ other ∈ contacts.entries, p <+: other.1 → other = row

/-- A lower-cased prefix has the contact whose key alone starts with it, and no other answer. -/
def ResolvesExactly (lower : LowerCase) (contacts : Table) (prefixes : List (List Char)) : Prop :=
  ∀ p contact, (resolvePrefixes lower contacts prefixes).get? p = some contact ↔
    p ∈ prefixes.map lower.apply ∧ ∃ row, OnlyMatch contacts p row ∧ contact = rowToContact row

/-- No lower-cased prefix with a single match is asked for twice. -/
def AskedOnce (lower : LowerCase) (contacts : Table) (prefixes : List (List Char)) : Prop :=
  ∀ p ∈ prefixes.map lower.apply, (∃ row, OnlyMatch contacts p row) →
    (prefixes.map lower.apply).countP (· = p) = 1

variable {lower : LowerCase} {contacts : Table} {prefixes : List (List Char)} {p : Key}
  {normalized : List Key} {row : Row}

theorem group_set (groups : Groups) (q : Key) (rows : List Row) :
    group (groups.set q rows) p = if p = q then rows else group groups p := by
  rw [group, Dict.get?_set]
  split <;> rfl

/-- A row joins a group once for every time that the prefix occurs. -/
theorem group_joinGroups (groups : Groups) (row : Row) :
    group (joinGroups normalized groups row) p = group groups p ++
      if p.isPrefixOf row.1 then List.replicate (normalized.countP (· = p)) row else [] := by
  rw [joinGroups]
  induction normalized generalizing groups with
  | nil => simp
  | cons q rest ih =>
      rw [List.foldl_cons, ih]
      by_cases same : q = p
      · subst same
        rw [List.countP_cons_of_pos (by simp), List.replicate_succ]
        split
        · rw [group_set, if_pos rfl, List.append_assoc]
          rfl
        · rfl
      · rw [List.countP_cons_of_neg (by simpa using same)]
        congr 1
        split
        · rw [group_set, if_neg (Ne.symm same)]
        · rfl

theorem group_rows (rows : List Row) (groups : Groups) :
    group (rows.foldl (joinGroups normalized) groups) p = group groups p ++
      (rows.filter fun row => p.isPrefixOf row.1).flatMap
        (List.replicate (normalized.countP (· = p))) := by
  induction rows generalizing groups with
  | nil => simp
  | cons row rest ih =>
      rw [List.foldl_cons, ih, group_joinGroups, List.append_assoc]
      congr 1
      by_cases starts : p.isPrefixOf row.1 = true
      · simp [starts]
      · simp [starts]

theorem group_emptyGroups (normalized : List Key) : group (emptyGroups normalized) p = [] := by
  have keeps : ∀ groups : Groups, group groups p = [] →
      group (normalized.foldl (fun groups q => groups.set q []) groups) p = [] := by
    induction normalized with
    | nil => exact fun _ none => none
    | cons q rest ih =>
        intro groups none
        refine ih _ ?_
        rw [group_set]
        split
        · rfl
        · exact none
  exact keeps .empty rfl

/-- The query misses no row that a prefix asks for. -/
theorem filter_selectRows (asked : p ∈ normalized) :
    (selectRows contacts normalized).filter (fun row => p.isPrefixOf row.1) =
      contacts.entries.filter fun row => p.isPrefixOf row.1 := by
  rw [selectRows, List.filter_filter]
  refine List.filter_congr fun row _ => ?_
  by_cases starts : p.isPrefixOf row.1 = true
  · obtain ⟨rest, same⟩ := List.isPrefixOf_iff_prefix.mp starts
    have like : likeStart p row.1 = true := same ▸ likeStart_append p rest
    have any : (normalized.any fun p => likeStart p row.1) = true :=
      List.any_eq_true.mpr ⟨p, asked, like⟩
    rw [any, Bool.and_true]
  · rw [Bool.not_eq_true] at starts
    rw [starts, Bool.false_and]

theorem get?_addAnswer (groups : Groups) (result : Dict Key Row) (q : Key) :
    (addAnswer groups result q).get? p =
      if p = q then ((sole (group groups q)).map rowToContact).or (result.get? p)
      else result.get? p := by
  rw [addAnswer]
  cases found : sole (group groups q) with
  | none => simp
  | some row =>
      rw [Dict.get?_set]
      by_cases same : p = q <;> simp [same]

/-- The loop over the prefixes keeps the answers of the groups with one row. -/
theorem get?_answers (groups : Groups) (result : Dict Key Row) :
    (normalized.foldl (addAnswer groups) result).get? p =
      if p ∈ normalized then ((sole (group groups p)).map rowToContact).or (result.get? p)
      else result.get? p := by
  induction normalized generalizing result with
  | nil => simp
  | cons q rest ih =>
      rw [List.foldl_cons, ih, get?_addAnswer]
      by_cases same : p = q
      · subst same
        cases sole (group groups p) <;> simp
      · simp [same]

theorem sole_eq_some {rows : List Row} : sole rows = some row ↔ rows = [row] := by
  cases rows with
  | nil => simp [sole]
  | cons first rest =>
      cases rest with
      | nil => simp [sole]
      | cons _ _ => simp [sole]

/-- A group has one row when the prefix occurs once and one row starts with it. -/
theorem flatMap_replicate_eq_singleton {rows : List Row} {n : Nat} :
    rows.flatMap (List.replicate n) = [row] ↔ rows = [row] ∧ n = 1 := by
  constructor
  · intro one
    have total := congrArg List.length one
    simp only [List.length_flatMap, List.length_replicate, List.map_const', List.sum_replicate,
      smul_eq_mul, List.length_singleton] at total
    obtain ⟨length, rfl⟩ := mul_eq_one.mp total
    obtain ⟨first, rfl⟩ := List.length_eq_one_iff.mp length
    simp only [List.flatMap_singleton, List.replicate_one] at one
    exact ⟨one, rfl⟩
  · rintro ⟨rfl, rfl⟩
    simp

/-- The rows that start with the prefix are one row exactly when it is the only match. -/
theorem filter_eq_singleton_iff (contacts : Table) (p : Key) (row : Row) :
    contacts.entries.filter (fun row => p.isPrefixOf row.1) = [row] ↔ OnlyMatch contacts p row := by
  have nodup : (contacts.entries.filter fun row => p.isPrefixOf row.1).Nodup :=
    contacts.nodup.of_map.filter _
  constructor
  · intro one
    have listed : ∀ other, other ∈ contacts.entries ∧ p <+: other.1 ↔ other = row := by
      intro other
      have member : other ∈ contacts.entries.filter (fun row => p.isPrefixOf row.1) ↔ _ :=
        List.mem_filter
      rw [one, List.mem_singleton, List.isPrefixOf_iff_prefix] at member
      exact member.symm
    obtain ⟨member, starts⟩ := (listed row).mpr rfl
    exact ⟨member, starts, fun other present begins => (listed other).mp ⟨present, begins⟩⟩
  · rintro ⟨member, starts, only⟩
    have perm : (contacts.entries.filter fun row => p.isPrefixOf row.1).Perm [row] := by
      refine (List.perm_ext_iff_of_nodup nodup (List.nodup_singleton row)).mpr fun other => ?_
      rw [List.mem_filter, List.isPrefixOf_iff_prefix, List.mem_singleton]
      constructor
      · rintro ⟨present, begins⟩
        exact only other present begins
      · rintro rfl
        exact ⟨member, starts⟩
    exact List.perm_singleton.mp perm

/-- What the code answers for a prefix. -/
theorem resolvePrefixes_eq_some {contact : Row} :
    (resolvePrefixes lower contacts prefixes).get? p = some contact ↔
      p ∈ prefixes.map lower.apply ∧ (∃ row, OnlyMatch contacts p row ∧ contact = rowToContact row) ∧
        (prefixes.map lower.apply).countP (· = p) = 1 := by
  rw [resolvePrefixes, get?_answers]
  by_cases asked : p ∈ prefixes.map lower.apply
  · rw [if_pos asked, Dict.get?_empty, Option.or_none, Option.map_eq_some_iff, group_rows,
      group_emptyGroups, List.nil_append, filter_selectRows asked]
    simp only [sole_eq_some, flatMap_replicate_eq_singleton, filter_eq_singleton_iff, asked,
      true_and]
    constructor
    · rintro ⟨row, ⟨only, once⟩, rfl⟩
      exact ⟨⟨row, only, rfl⟩, once⟩
    · rintro ⟨⟨row, only, rfl⟩, once⟩
      exact ⟨row, ⟨only, once⟩, rfl⟩
  · simp [asked]

/-- The answers are exact exactly when no prefix with a single match is asked for twice. -/
theorem resolvePrefixes_exact_iff (lower : LowerCase) (contacts : Table)
    (prefixes : List (List Char)) :
    ResolvesExactly lower contacts prefixes ↔ AskedOnce lower contacts prefixes := by
  constructor
  · rintro exactly p asked ⟨row, only⟩
    exact (resolvePrefixes_eq_some.mp ((exactly p _).mpr ⟨asked, row, only, rfl⟩)).2.2
  · intro once p contact
    rw [resolvePrefixes_eq_some]
    constructor
    · rintro ⟨asked, found, _⟩
      exact ⟨asked, found⟩
    · rintro ⟨asked, row, only, same⟩
      exact ⟨asked, ⟨row, only, same⟩, once p asked ⟨row, only⟩⟩

/-- A contact of which nothing but the key is known. -/
def bareContact : Contact :=
  ⟨none, 0, 0, none, none, none, none, none, none, none, none, none, none, none, none, none, none,
    none, false, false⟩

/-- One contact, and its prefix asked for in two cases. -/
theorem repeated_prefix_omitted :
    ¬ ResolvesExactly .asciiOnly (Dict.empty.set "abcd".toList bareContact)
      ["ab".toList, "AB".toList] := by
  intro exactly
  have only : OnlyMatch (Dict.empty.set "abcd".toList bareContact) "ab".toList
      ("abcd".toList, bareContact) :=
    ⟨List.mem_singleton_self _, ⟨"cd".toList, rfl⟩,
      fun other present _ => List.mem_singleton.mp present⟩
  have answered := (exactly "ab".toList _).mpr ⟨by decide, _, only, rfl⟩
  exact absurd (resolvePrefixes_eq_some.mp answered).2.2 (by decide)

end Meshloom.Contacts
