import Meshloom.Contacts.PlaceholderPromotion

/-! What the promotion of placeholders conserves. The rounds that are skipped change nothing, and
the others move the rows of their placeholder one after the other; no round changes how many full
keys a placeholder begins. -/
namespace Meshloom.PlaceholderPromotion
open Contacts OwnedRows Sql
open Messages (Key lower)

section Round
variable {fullKey : Key} {state : Tables × List Key} {row : Key × Contact} {contacts : Table}

theorem takeOver_names : (takeOver fullKey state row).1.names =
    moveRows mergeNames state.1.names row.1 fullKey := deleteRows_moveRows

theorem takeOver_paths : (takeOver fullKey state row).1.paths =
    moveRows mergePaths state.1.paths row.1 fullKey := deleteRows_moveRows

theorem keys_update (key : Key) (change : Contact → Contact) :
    (update contacts key change).keys = contacts.keys := by
  unfold update
  split
  · rfl
  · rename_i contact found
    exact Dict.keys_set_present (Dict.mem_keys_iff.mpr ⟨contact, found⟩)

theorem matchCount_keys (contacts : Table) (key : Key) : matchCount contacts key =
    contacts.keys.countP fun other => decide (other.length = 64) && likeStart key other := by
  rw [Dict.keys, List.countP_map]
  rfl

/-- No full key goes away. -/
theorem matchCount_takeOver (short : row.1.length < 64) (key : Key) :
    matchCount (takeOver fullKey state row).1.contacts key = matchCount state.1.contacts key := by
  have keys : (takeOver fullKey state row).1.contacts.keys =
      state.1.contacts.keys.filter fun other => other ≠ row.1 := by
    change ((update state.1.contacts fullKey (absorb · row.2)).pop row.1).keys = _
    rw [Dict.keys_pop, keys_update]
  rw [matchCount_keys, matchCount_keys, keys, List.countP_filter]
  refine List.countP_congr fun other _ => ?_
  by_cases same : other = row.1
  · subst same
    simp [short.ne]
  · simp [same]

/-- The loop takes over the rows of which the first tables have one full key only. -/
theorem foldl_promoteRow {rows : List (Key × Contact)} (full : fullKey.length = 64)
    (short : ∀ row ∈ rows, row.1.length < 64) : rows.foldl (promoteRow fullKey) state =
      (rows.filter fun row => matchCount state.1.contacts row.1 = 1).foldl (takeOver fullKey) state := by
  induction rows generalizing state with
  | nil => rfl
  | cons row rest ih =>
      have first := short row List.mem_cons_self
      have later : ∀ row ∈ rest, row.1.length < 64 :=
        fun row member => short row (List.mem_cons_of_mem _ member)
      have apart : row.1 ≠ fullKey := by
        intro same
        rw [same] at first
        omega
      rw [List.foldl_cons, ih later, promoteRow]
      by_cases single : matchCount state.1.contacts row.1 = 1
      · rw [if_neg (by simp [apart, single]), List.filter_cons_of_pos (by simpa using single),
          List.foldl_cons]
        simp only [matchCount_takeOver first]
      · rw [if_pos (.inr single), List.filter_cons_of_neg (by simpa using single)]

end Round

section Taken
variable {fullKey : Key} {state : Tables × List Key} {taken : List (Key × Contact)}

theorem taken_names : (taken.foldl (takeOver fullKey) state).1.names =
    moveAll mergeNames state.1.names (taken.map Prod.fst) fullKey := by
  induction taken generalizing state with
  | nil => rfl
  | cons row rest ih =>
      rw [List.foldl_cons, ih, takeOver_names]
      rfl

theorem taken_paths : (taken.foldl (takeOver fullKey) state).1.paths =
    moveAll mergePaths state.1.paths (taken.map Prod.fst) fullKey := by
  induction taken generalizing state with
  | nil => rfl
  | cons row rest ih =>
      rw [List.foldl_cons, ih, takeOver_paths]
      rfl

theorem taken_keys : (taken.foldl (takeOver fullKey) state).2 = state.2 ++ taken.map Prod.fst := by
  induction taken generalizing state with
  | nil => simp
  | cons row rest ih =>
      rw [List.foldl_cons, ih]
      simp [takeOver]

theorem get?_update (contacts : Table) (key other : Key) (change : Contact → Contact) :
    (update contacts key change).get? other =
      if other = key then (contacts.get? key).map change else contacts.get? other := by
  unfold update
  split
  · rename_i absent
    by_cases same : other = key <;> simp [same, absent]
  · rename_i contact found
    simp [found]

theorem taken_contacts (state : Tables × List Key) (apart : fullKey ∉ taken.map Prod.fst) (key : Key) :
    (taken.foldl (takeOver fullKey) state).1.contacts.get? key =
      if key ∈ taken.map Prod.fst then none
      else if key = fullKey then (state.1.contacts.get? fullKey).map fun contact =>
        (taken.map Prod.snd).foldl absorb contact
      else state.1.contacts.get? key := by
  induction taken generalizing state with
  | nil =>
      by_cases same : key = fullKey <;> simp [same]
  | cons row rest ih =>
      obtain ⟨first, apart⟩ := not_or.mp (mt List.mem_cons.mpr apart)
      have step (other : Key) : (takeOver fullKey state row).1.contacts.get? other =
          if other = row.1 then none
          else if other = fullKey then (state.1.contacts.get? fullKey).map (absorb · row.2)
          else state.1.contacts.get? other := by
        change ((update state.1.contacts fullKey (absorb · row.2)).pop row.1).get? other = _
        rw [Dict.get?_pop, get?_update]
      rw [List.foldl_cons, ih _ apart, step, step, if_neg first, if_pos rfl]
      by_cases gone : key ∈ rest.map Prod.fst
      · rw [if_pos gone, List.map_cons, if_pos (List.mem_cons_of_mem _ gone)]
      · rw [if_neg gone]
        by_cases here : key = row.1
        · subst here
          simp [Ne.symm first]
        · have stays : key ∉ (row :: rest).map Prod.fst := by simpa [here] using gone
          rw [if_neg stays, if_neg here]
          by_cases target : key = fullKey
          · simp [target, Function.comp_def]
          · simp [target]

/-- A mark of the row that took over others. -/
theorem mark_absorbed {mark : Contact → Option Int} {op : Int → Int → Int}
    (absorbs : ∀ a b, mark (absorb a b) = Option.merge op (mark a) (mark b))
    (rows : List Contact) (contact : Contact) :
    mark (rows.foldl absorb contact) = mergeAll op ((contact :: rows).filterMap mark) := by
  have folded : mark (rows.foldl absorb contact) =
      (rows.map mark).foldl (fun found value => found.merge op value) (mark contact) := by
    induction rows generalizing contact with
    | nil => rfl
    | cons row rest ih => rw [List.foldl_cons, ih, absorbs, List.map_cons, List.foldl_cons]
  rw [folded, foldl_merge, List.filterMap_map, List.filterMap_cons]
  cases mark contact <;> rfl

theorem isLatest_absorbed {mark : Contact → Option Int}
    (absorbs : ∀ a b, mark (absorb a b) = Option.merge max (mark a) (mark b))
    (rows : List Contact) (contact : Contact) :
    IsLatest (contact :: rows) mark (mark (rows.foldl absorb contact)) := by
  intro v
  rw [mark_absorbed absorbs, mergeAll_max_iff]
  simp only [List.mem_filterMap]

theorem isEarliest_absorbed {mark : Contact → Option Int}
    (absorbs : ∀ a b, mark (absorb a b) = Option.merge min (mark a) (mark b))
    (rows : List Contact) (contact : Contact) :
    IsEarliest (contact :: rows) mark (mark (rows.foldl absorb contact)) := by
  intro v
  rw [mark_absorbed absorbs, mergeAll_min_iff]
  simp only [List.mem_filterMap]

/-- Only the marks of the row change. -/
theorem absorbed_eq (rows : List Contact) (contact : Contact) : rows.foldl absorb contact =
    let last := rows.foldl absorb contact
    { contact with
      lastSeen := last.lastSeen
      lastContacted := last.lastContacted
      firstSeen := last.firstSeen
      lastReadAt := last.lastReadAt } := by
  induction rows generalizing contact with
  | nil => rfl
  | cons row rest ih =>
      rw [List.foldl_cons, ih]
      rfl

/-- The row has the marks of all. -/
theorem absorbed_marks (rows : List Contact) (contact : Contact) :
    ∃ lastSeen lastContacted firstSeen lastReadAt,
      rows.foldl absorb contact =
        { contact with lastSeen, lastContacted, firstSeen, lastReadAt } ∧
      IsLatest (contact :: rows) (·.lastSeen) lastSeen ∧
      IsLatest (contact :: rows) (·.lastContacted) lastContacted ∧
      IsEarliest (contact :: rows) (·.firstSeen) firstSeen ∧
      IsLatest (contact :: rows) (·.lastReadAt) lastReadAt := by
  let last := rows.foldl absorb contact
  refine ⟨last.lastSeen, last.lastContacted, last.firstSeen, last.lastReadAt,
    absorbed_eq rows contact, isLatest_absorbed (fun a b => ?_) _ _,
    isLatest_absorbed (fun a b => ?_) _ _, isEarliest_absorbed (fun a b => ?_) _ _,
    isLatest_absorbed (fun a b => ?_) _ _⟩
  · exact mergeLatest_eq _ _
  · exact mergeLatest_eq _ _
  · exact mergeEarliest_eq _ _
  · exact mergeLatest_eq _ _

end Taken

section Chosen
variable {contacts : Table} {fullKey key : Key} {row : Key × Contact}

/-- One member only meets the condition. -/
theorem countP_eq_one_iff {α : Type} [DecidableEq α] {list : List α} {p : α → Bool} {a : α}
    (distinct : list.Nodup) (member : a ∈ list) (holds : p a = true) :
    list.countP p = 1 ↔ ∀ b ∈ list, p b = true → b = a := by
  constructor
  · intro one b inside meets
    rw [List.countP_eq_length_filter, List.length_eq_one_iff] at one
    obtain ⟨c, only⟩ := one
    have alone : ∀ d ∈ list, p d = true → d = c := by
      intro d inside meets
      have := List.mem_filter.mpr ⟨inside, meets⟩
      rwa [only, List.mem_singleton] at this
    rw [alone b inside meets, alone a member holds]
  · intro alone
    rw [← List.count_eq_one_of_mem distinct member, List.count]
    refine List.countP_congr fun b inside => ⟨fun meets => ?_, fun same => ?_⟩
    · exact beq_iff_eq.mpr (alone b inside meets)
    · rw [beq_iff_eq.mp same]
      exact holds

theorem likeStart_hex {text : Key} (hexKey : LowerHex key) (hexText : LowerHex text) :
    likeStart key text = true ↔ key <+: text := by
  refine likeStart_iff (fun c member => ?_) fun c member => (hexText c member).2
  obtain ⟨digit, low⟩ := hexKey c member
  refine ⟨?_, ?_, low⟩
  · rintro rfl
    contradiction
  · rintro rfl
    contradiction

theorem mem_placeholders : row ∈ placeholders contacts fullKey ↔
    contacts.get? row.1 = some row.2 ∧ row.1.length < 64 ∧ likeStart row.1 fullKey = true := by
  rw [placeholders, List.mem_mergeSort, List.mem_filter, Bool.and_eq_true, decide_eq_true_eq,
    ← Dict.mem_iff_get?]

theorem unambiguous_iff (hex : ∀ key ∈ contacts.keys, LowerHex key) (present : fullKey ∈ contacts.keys)
    (full : fullKey.length = 64) : Unambiguous contacts fullKey key ↔
      (∃ contact, (key, contact) ∈ placeholders contacts fullKey) ∧ matchCount contacts key = 1 := by
  have distinct : contacts.keys.Nodup := contacts.nodup
  have begins (other : Key) (stored : key ∈ contacts.keys) (listed : other ∈ contacts.keys) :
      likeStart key other = true ↔ key <+: other :=
    likeStart_hex (hex key stored) (hex other listed)
  constructor
  · rintro ⟨stored, short, starts, alone⟩
    obtain ⟨contact, found⟩ := Dict.mem_keys_iff.mp stored
    refine ⟨⟨contact, mem_placeholders.mpr ⟨found, short, (begins _ stored present).mpr starts⟩⟩, ?_⟩
    rw [matchCount_keys, countP_eq_one_iff distinct present
      (by simp [full, (begins _ stored present).mpr starts])]
    intro other listed meets
    rw [Bool.and_eq_true, decide_eq_true_eq, begins other stored listed] at meets
    exact alone other listed meets.1 meets.2
  · rintro ⟨⟨contact, listed⟩, single⟩
    obtain ⟨found, short, like⟩ := mem_placeholders.mp listed
    have stored : key ∈ contacts.keys := Dict.mem_keys_iff.mpr ⟨contact, found⟩
    refine ⟨stored, short, (begins _ stored present).mp like, fun other listed long starts => ?_⟩
    rw [matchCount_keys, countP_eq_one_iff distinct present (by simp [full, like])] at single
    exact single other listed (by simp [long, (begins other stored listed).mpr starts])

end Chosen

section Merged
variable {N R : Type} [DecidableEq N] {table : Dict (Key × N) R} {merge : R → R → R}
  {fullKey : Key} {promoted : List Key} {name : N}

/-- What the moved rows become, when one row at most merges the given ones. -/
theorem merged_iff {P : List R → R → Prop} {row : R} (distinct : promoted.Nodup)
    (apart : fullKey ∉ promoted)
    (meets : ∀ rows row, mergeAll merge rows = some row → P rows row)
    (some_in : ∀ rows row, P rows row → rows ≠ [])
    (unique : ∀ rows a b, P rows a → P rows b → a = b) :
    (moveAll merge table promoted fullKey).get? (fullKey, name) = some row ↔
      P (gathered table (fullKey :: promoted) name) row := by
  rw [get?_moveAll_new distinct apart]
  refine ⟨meets _ row, fun property => ?_⟩
  obtain ⟨other, merged⟩ := mergeAll_ne_nil merge (some_in _ row property)
  rw [merged, unique _ _ _ (meets _ other merged) property]

theorem nameRow_merges {rows : List NameRow} {row : NameRow}
    (merged : mergeAll mergeNames rows = some row) : NameRow.Merges rows row :=
  ⟨mergeAll_least _ (fun _ _ => rfl) merged, mergeAll_greatest _ (fun _ _ => rfl) merged⟩

theorem NameRow.Merges.some_in {rows : List NameRow} {row : NameRow} (merges : Merges rows row) :
    rows ≠ [] := by
  obtain ⟨⟨⟨other, member, _⟩, _⟩, _⟩ := merges
  exact List.ne_nil_of_mem member

theorem NameRow.Merges.unique {rows : List NameRow} {a b : NameRow} (first : Merges rows a)
    (second : Merges rows b) : a = b := by
  cases a
  cases b
  rw [NameRow.mk.injEq]
  exact ⟨first.1.unique second.1, first.2.unique second.2⟩

theorem advertPath_merges {rows : List AdvertPath} {row : AdvertPath}
    (merged : mergeAll mergePaths rows = some row) : AdvertPath.Merges rows row :=
  ⟨mergeAll_sum _ (fun _ _ => rfl) merged, mergeAll_least _ (fun _ _ => rfl) merged,
    mergeAll_greatest _ (fun _ _ => rfl) merged⟩

theorem AdvertPath.Merges.some_in {rows : List AdvertPath} {row : AdvertPath}
    (merges : Merges rows row) : rows ≠ [] := by
  obtain ⟨_, ⟨⟨other, member, _⟩, _⟩, _⟩ := merges
  exact List.ne_nil_of_mem member

theorem AdvertPath.Merges.unique {rows : List AdvertPath} {a b : AdvertPath}
    (first : Merges rows a) (second : Merges rows b) : a = b := by
  cases a
  cases b
  rw [AdvertPath.mk.injEq]
  exact ⟨first.2.1.unique second.2.1, first.2.2.unique second.2.2, first.1.trans second.1.symm⟩

end Merged

section Conservation
variable {db : Tables} {fullKey : Key} {contact : Contact} {order : List (Key × Contact)}

/-- The rows that the loop takes over. -/
def takenRows (db : Tables) (order : List (Key × Contact)) : List (Key × Contact) :=
  order.filter fun row => matchCount db.contacts row.1 = 1

theorem promoted_nodup (any : order.Perm (placeholders db.contacts fullKey)) :
    ((takenRows db order).map Prod.fst).Nodup := by
  refine (List.filter_sublist.map Prod.fst).nodup ((any.map Prod.fst).nodup_iff.mpr ?_)
  rw [placeholders, ((List.mergeSort_perm _ _).map Prod.fst).nodup_iff]
  exact (List.filter_sublist.map Prod.fst).nodup db.contacts.nodup

/-- The promotion conserves what was learned, in whatever order the placeholders are merged. -/
theorem promoteRows_conserves (hex : ∀ key ∈ db.contacts.keys, LowerHex key)
    (found : db.contacts.get? fullKey = some contact) (full : fullKey.length = 64)
    (any : order.Perm (placeholders db.contacts fullKey)) :
    Conserved db fullKey contact (promoteRows fullKey db order).1 (promoteRows fullKey db order).2 := by
  have listed {row : Key × Contact} (member : row ∈ order) :
      db.contacts.get? row.1 = some row.2 ∧ row.1.length < 64 ∧ likeStart row.1 fullKey = true :=
    mem_placeholders.mp (any.mem_iff.mp member)
  have short : ∀ row ∈ order, row.1.length < 64 := fun row member => (listed member).2.1
  have ran : promoteRows fullKey db order = (takenRows db order).foldl (takeOver fullKey) (db, []) :=
    foldl_promoteRow full short
  have distinct := promoted_nodup any
  have apart : fullKey ∉ (takenRows db order).map Prod.fst := by
    intro member
    obtain ⟨row, inside, same⟩ := List.mem_map.mp member
    have := short row (List.mem_filter.mp inside).1
    rw [same] at this
    omega
  have keys : (promoteRows fullKey db order).2 = (takenRows db order).map Prod.fst := by
    rw [ran, taken_keys, List.nil_append]
  have contacts := fun key => taken_contacts (db, []) apart key
  have rows : (fullKey :: (takenRows db order).map Prod.fst).filterMap db.contacts.get? =
      contact :: (takenRows db order).map Prod.snd := by
    rw [List.filterMap_cons_some found, List.filterMap_map, ← List.filterMap_eq_map]
    refine congrArg _ (List.filterMap_congr fun row inside => ?_)
    exact (listed (List.mem_filter.mp inside).1).1
  rw [keys]
  rw [← ran] at contacts
  have names : (promoteRows fullKey db order).1.names = moveAll mergeNames db.names
      ((takenRows db order).map Prod.fst) fullKey := by rw [ran, taken_names]
  have paths : (promoteRows fullKey db order).1.paths = moveAll mergePaths db.paths
      ((takenRows db order).map Prod.fst) fullKey := by rw [ran, taken_paths]
  refine ⟨distinct, fun key => ?_, fun key gone => ?_, fun key stays other => ?_, ?_,
    fun name row => ?_, fun path row => ?_⟩
  · rw [unambiguous_iff hex (Dict.mem_keys_iff.mpr ⟨contact, found⟩) full]
    constructor
    · intro member
      obtain ⟨row, inside, rfl⟩ := List.mem_map.mp member
      obtain ⟨inside, single⟩ := List.mem_filter.mp inside
      exact ⟨⟨row.2, any.mem_iff.mp inside⟩, of_decide_eq_true single⟩
    · rintro ⟨⟨row, inside⟩, single⟩
      refine List.mem_map.mpr ⟨(key, row), List.mem_filter.mpr ⟨any.mem_iff.mpr inside, ?_⟩, rfl⟩
      exact decide_eq_true single
  · refine ⟨?_, fun name => ?_, fun path => ?_⟩
    · rw [contacts, if_pos gone]
    · rw [names, get?_moveAll distinct apart, if_pos gone]
    · rw [paths, get?_moveAll distinct apart, if_pos gone]
  · refine ⟨?_, fun name => ?_, fun path => ?_⟩
    · rw [contacts, if_neg stays, if_neg other]
    · rw [names, get?_moveAll distinct apart, if_neg stays, if_neg other]
    · rw [paths, get?_moveAll distinct apart, if_neg stays, if_neg other]
  · rw [rows, contacts, if_neg apart, if_pos rfl, found, Option.map_some]
    obtain ⟨lastSeen, lastContacted, firstSeen, lastReadAt, same, marks⟩ :=
      absorbed_marks ((takenRows db order).map Prod.snd) contact
    exact ⟨lastSeen, lastContacted, firstSeen, lastReadAt, congrArg some same, marks⟩
  · rw [names]
    exact merged_iff distinct apart (fun _ _ => nameRow_merges) (fun _ _ => NameRow.Merges.some_in)
      fun _ _ _ => NameRow.Merges.unique
  · rw [paths]
    exact merged_iff distinct apart (fun _ _ => advertPath_merges)
      (fun _ _ => AdvertPath.Merges.some_in) fun _ _ _ => AdvertPath.Merges.unique

/-- Two results that conserve the same have the same rows. -/
theorem Conserved.unique {a b : Tables} {keys others : List Key}
    (first : Conserved db fullKey contact a keys) (second : Conserved db fullKey contact b others) :
    keys.Perm others ∧ SameRows a b := by
  have same : keys.Perm others := by
    rw [List.perm_ext_iff_of_nodup first.distinct second.distinct]
    exact fun key => (first.chosen key).trans (second.chosen key).symm
  have owners : (fullKey :: keys).Perm (fullKey :: others) := same.cons fullKey
  have contactRows (key : Key) : a.contacts.get? key = b.contacts.get? key := by
    by_cases gone : key ∈ keys
    · rw [(first.deleted key gone).1, (second.deleted key (same.mem_iff.mp gone)).1]
    have stays := mt same.mem_iff.mpr gone
    by_cases target : key = fullKey
    · subst target
      obtain ⟨_, _, _, _, stored, seen, contacted, earliest, read⟩ := first.merged
      obtain ⟨_, _, _, _, stored', seen', contacted', earliest', read'⟩ := second.merged
      have rows (row : Contact) := (owners.filterMap db.contacts.get?).mem_iff (a := row)
      rw [stored, stored', Option.some.injEq, Contact.mk.injEq]
      simp only [IsLatest, IsEarliest, rows] at seen contacted earliest read
      simp only [true_and, and_true]
      refine ⟨Option.ext fun v => ?_, Option.ext fun v => ?_, Option.ext fun v => ?_,
        Option.ext fun v => ?_⟩
      · exact (seen v).trans (seen' v).symm
      · exact (contacted v).trans (contacted' v).symm
      · exact (earliest v).trans (earliest' v).symm
      · exact (read v).trans (read' v).symm
    · rw [(first.others key gone target).1, (second.others key stays target).1]
  refine ⟨same, contactRows, fun owned => ?_, fun owned => ?_⟩
  · obtain ⟨key, name⟩ := owned
    by_cases gone : key ∈ keys
    · rw [(first.deleted key gone).2.1, (second.deleted key (same.mem_iff.mp gone)).2.1]
    by_cases target : key = fullKey
    · subst target
      have rows : (gathered db.names (key :: keys) name).Perm
          (gathered db.names (key :: others) name) := owners.filterMap _
      refine Option.ext fun row => (first.names name row).trans ?_
      refine Iff.trans ?_ (second.names name row).symm
      simp only [NameRow.Merges, rows.mem_iff]
    · rw [(first.others key gone target).2.1,
        (second.others key (mt same.mem_iff.mpr gone) target).2.1]
  · obtain ⟨key, path⟩ := owned
    by_cases gone : key ∈ keys
    · rw [(first.deleted key gone).2.2, (second.deleted key (same.mem_iff.mp gone)).2.2]
    by_cases target : key = fullKey
    · subst target
      have rows : (gathered db.paths (key :: keys) path).Perm
          (gathered db.paths (key :: others) path) := owners.filterMap _
      refine Option.ext fun row => (first.paths path row).trans ?_
      refine Iff.trans ?_ (second.paths path row).symm
      simp only [AdvertPath.Merges, rows.mem_iff, (rows.map _).sum_eq]
    · rw [(first.others key gone target).2.2,
        (second.others key (mt same.mem_iff.mpr gone) target).2.2]

/-- The promotion deletes the placeholders of the full key alone, and returns their keys. The full
key has what was learned about all of them, everyone else has the same rows as before, and another
order of the placeholders leaves the same. -/
theorem promotion_conserves {fullKey : Key} (hex : ∀ key ∈ db.contacts.keys, LowerHex key)
    (found : db.contacts.get? (lower fullKey) = some contact) (full : (lower fullKey).length = 64) :
    Conserved db (lower fullKey) contact (promotePrefixPlaceholders db fullKey).1
        (promotePrefixPlaceholders db fullKey).2 ∧
      ∀ order, order.Perm (placeholders db.contacts (lower fullKey)) →
        (promoteRows (lower fullKey) db order).2.Perm (promotePrefixPlaceholders db fullKey).2 ∧
        SameRows (promoteRows (lower fullKey) db order).1 (promotePrefixPlaceholders db fullKey).1 := by
  have conserved := promoteRows_conserves hex found full (List.Perm.refl _)
  refine ⟨conserved, fun order any => ?_⟩
  exact (promoteRows_conserves hex found full any).unique conserved

def shortKey : Key := List.replicate 8 'a'

def seenRow : Contact := upsertRow (heard Contacts.fullKey none (some 9))

/-- A full key with two placeholders, one inside the other, and a path that all of them have. -/
def nested : Tables where
  contacts := Dict.ofList
    [(Contacts.fullKey, seenRow), (placeholderKey, seenRow), (shortKey, seenRow)]
  names := .empty
  paths := Dict.ofList [((shortKey, ['0', '1'], 1), ⟨5, 6, 5⟩),
    ((Contacts.fullKey, ['0', '1'], 1), ⟨7, 8, 3⟩), ((placeholderKey, ['0', '1'], 1), ⟨1, 2, 4⟩)]

theorem nested_keys : nested.contacts.keys = [Contacts.fullKey, placeholderKey, shortKey] := by
  decide +kernel

theorem nested_hex : ∀ key ∈ nested.contacts.keys, LowerHex key := by
  have digit : (Bytes.hexValue 'a').isSome = true ∧ 'a'.toLower = 'a' := by decide
  rw [nested_keys]
  intro key member c inside
  simp only [List.mem_cons, List.not_mem_nil, or_false] at member
  rcases member with rfl | rfl | rfl <;> exact List.eq_of_mem_replicate inside ▸ digit

theorem nested_unambiguous (key : Key) : Unambiguous nested.contacts Contacts.fullKey key ↔
    key ∈ [placeholderKey, shortKey] := by
  rw [Unambiguous, nested_keys]
  constructor
  · rintro ⟨stored, short, _⟩
    rcases List.mem_cons.mp stored with rfl | other
    · exact absurd short (by decide)
    · exact other
  · intro member
    refine ⟨List.mem_cons_of_mem _ member, ?_, ?_, fun other listed long _ => ?_⟩
    · simp only [List.mem_cons, List.not_mem_nil, or_false] at member
      rcases member with rfl | rfl <;> decide
    · simp only [List.mem_cons, List.not_mem_nil, or_false] at member
      rcases member with rfl | rfl <;> decide
    · simp only [List.mem_cons, List.not_mem_nil, or_false] at listed
      rcases listed with rfl | rfl | rfl
      · rfl
      · exact absurd long (by decide)
      · exact absurd long (by decide)

/-- Both placeholders go, and the path has been heard as often as all three have heard it. -/
theorem promotion_conserves_nested :
    (promotePrefixPlaceholders nested Contacts.fullKey).2.Perm [placeholderKey, shortKey] ∧
    ∀ row, (promotePrefixPlaceholders nested Contacts.fullKey).1.paths.get?
      (Contacts.fullKey, ['0', '1'], 1) = some row → row.heardCount = 12 := by
  have low : lower Contacts.fullKey = Contacts.fullKey := by decide
  have found : nested.contacts.get? (lower Contacts.fullKey) = some seenRow := by
    rw [low]
    rfl
  obtain ⟨conserved, _⟩ := promotion_conserves nested_hex found (by rw [low]; rfl)
  rw [low] at conserved
  have promoted : (promotePrefixPlaceholders nested Contacts.fullKey).2.Perm
      [placeholderKey, shortKey] := by
    refine (List.perm_ext_iff_of_nodup conserved.distinct (by decide)).mpr fun key => ?_
    exact (conserved.chosen key).trans (nested_unambiguous key)
  refine ⟨promoted, fun row stored => ?_⟩
  obtain ⟨heard, _⟩ := (conserved.paths _ row).mp stored
  have rows : (gathered nested.paths (Contacts.fullKey :: _) (['0', '1'], 1)).Perm
      (gathered nested.paths (Contacts.fullKey :: _) _) := (promoted.cons _).filterMap _
  rw [heard, (rows.map _).sum_eq]
  decide +kernel

end Conservation

end Meshloom.PlaceholderPromotion
