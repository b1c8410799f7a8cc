import Meshloom.Messages.UnreadCounts

/-! The summary is what its plain definition says, for every content of the tables. -/
namespace Meshloom.Messages.Unread
open Sql SkipScan StableSort
variable {tables : Tables} {name : Option String} {blockedKeys : List Key} {blockedNames : List String}

/-- An incoming message of a blocked key or a blocked name. -/
def blocked (blockedKeys : List Key) (blockedNames : List String) (m : Message) : Bool :=
  !m.outgoing && (m.type = .priv && m.conversationKey ∈ blockedKeys ||
    m.type = .chan && m.senderKey.any (· ∈ blockedKeys) || m.senderName.any (· ∈ blockedNames))

/-- The read boundary of a conversation, 0 when there is none. -/
def readBoundary (tables : Tables) : MessageType → Key → Int
  | .chan, ck => ((tables.channels.get? ck).bind ChannelRow.lastReadAt).getD 0
  | .priv, ck => ((tables.contacts.get? ck).bind ContactRow.lastReadAt).getD 0

/-- A message of a conversation. -/
def belongs (t : MessageType) (ck : Key) (m : Message) : Bool := m.type = t && m.conversationKey = ck

/-- An unread message of a conversation. -/
def unread (tables : Tables) (blockedKeys : List Key) (blockedNames : List String)
    (t : MessageType) (ck : Key) (m : Message) : Bool :=
  belongs t ck m && !m.outgoing && !blocked blockedKeys blockedNames m &&
    decide (readBoundary tables t ck < m.receivedAt)

/-- A channel that is muted. -/
def muted (tables : Tables) : MessageType → Key → Bool
  | .chan, ck => (tables.channels.get? ck).any fun row => row.muted.getD 0 ≠ 0
  | .priv, _ => false

/-- A channel without a row. -/
def orphan (tables : Tables) : MessageType → Key → Bool
  | .chan, ck => (tables.channels.get? ck).isNone
  | .priv, _ => false

/-- The conversations are those that have a message, each once. -/
theorem conversationsWithin_spec (tables : Tables) {rounds : Nat}
    (enough : tables.messages.length ≤ rounds) : (conversationsWithin tables rounds).Nodup ∧
    ∀ t ck, (t, ck) ∈ conversationsWithin tables rounds ↔
      ∃ m ∈ tables.messages, belongs t ck m = true := by
  have typeBound : (tables.messages.map Message.type).length ≤ rounds := by rwa [List.length_map]
  have keyBound (t : MessageType) :
      ((tables.messages.filter fun m => m.type = t).map Message.conversationKey).length ≤ rounds := by
    rw [List.length_map]
    exact (List.length_filter_le _ _).trans enough
  obtain ⟨types, listed⟩ := rows_first _ typeBound
  have keys (t : MessageType) := rows_first _ (keyBound t)
  constructor
  · rw [conversationsWithin, List.nodup_flatMap]
    constructor
    · intro t _
      exact List.Nodup.map (fun a b same => (Prod.mk.inj same).2) ((keys t).1.imp ne_of_lt)
    · refine types.imp ?_
      intro t u less pair left right
      obtain ⟨_, _, rfl⟩ := List.mem_map.mp left
      obtain ⟨_, _, eq⟩ := List.mem_map.mp right
      exact less.ne (Prod.mk.inj eq).1.symm
  · intro t ck
    simp only [conversationsWithin, List.mem_flatMap, List.mem_map, listed, (keys _).2,
      List.mem_filter, decide_eq_true_eq, Prod.mk.injEq, belongs, Bool.and_eq_true]
    constructor
    · rintro ⟨_, _, _, ⟨m, ⟨member, type⟩, key⟩, rfl, rfl⟩
      exact ⟨m, member, type, key⟩
    · rintro ⟨m, member, type, key⟩
      exact ⟨t, ⟨m, member, type⟩, ck, ⟨m, ⟨member, type⟩, key⟩, rfl, rfl⟩

/-- The recursion has ended by then: more rounds add no row. -/
theorem conversationsWithin_ends (tables : Tables) {rounds : Nat}
    (enough : tables.messages.length ≤ rounds) :
    conversationsWithin tables rounds = conversations tables := by
  have types := @rows_ends _ _ (tables.messages.map Message.type)
  have keys (t : MessageType) := @rows_ends _ _
    ((tables.messages.filter fun m => m.type = t).map Message.conversationKey)
  have fewer (t : MessageType) :
      ((tables.messages.filter fun m => m.type = t).map Message.conversationKey).length ≤
        tables.messages.length := by
    rw [List.length_map]
    exact List.length_filter_le _ _
  simp only [conversations, conversationsWithin]
  rw [types (by rwa [List.length_map]), types (by rw [List.length_map])]
  congr 1
  funext t
  rw [keys t ((fewer t).trans enough), keys t (fewer t)]

theorem conversations_spec (tables : Tables) : (conversations tables).Nodup ∧
    ∀ t ck, (t, ck) ∈ conversations tables ↔ ∃ m ∈ tables.messages, belongs t ck m = true :=
  conversationsWithin_spec tables le_rfl

/-- The clause with its nulls says what the plain definition says. -/
theorem holds_blockedSql (m : Message) :
    holds (blockedSql blockedKeys blockedNames m) = !blocked blockedKeys blockedNames m := by
  have keyMatch : in3 (some m.conversationKey) blockedKeys =
    some (decide (m.conversationKey ∈ blockedKeys)) := by simp [in3]
  rw [Bool.eq_iff_iff]
  simp only [blockedSql, blockedMatchers, notNull_in3, keyMatch, and3_some, blocked]
  by_cases keys : blockedKeys = []
  · by_cases names : blockedNames = []
    · subst keys names
      cases m.senderKey <;> cases m.senderName <;> simp [holds]
    · subst keys
      cases m.senderKey <;> cases m.outgoing <;> simp [holds, names, not3]
  · by_cases names : blockedNames = []
    · subst names
      cases m.senderKey <;> cases m.senderName <;> cases m.outgoing <;> simp [holds, keys, not3]
    · cases m.senderKey <;> cases m.senderName <;> cases m.outgoing <;>
        simp [holds, keys, names, not3]

theorem convOf_spec (tables : Tables) (t : MessageType) (ck : Key) :
    (convOf tables (t, ck)).t = t ∧ (convOf tables (t, ck)).ck = ck ∧
      (convOf tables (t, ck)).readAt = readBoundary tables t ck ∧
      ((t ≠ .chan ∨ (convOf tables (t, ck)).muted = 0) ↔ muted tables t ck = false) ∧
      ((t = .chan ∧ (convOf tables (t, ck)).hasChannel = true) ∨ t = .priv ↔
        orphan tables t ck = false) := by
  cases t with
  | chan =>
      refine ⟨rfl, rfl, rfl, ?_, ?_⟩
      · cases found : tables.channels.get? ck with
        | none => simp [convOf, muted, found]
        | some row => simp [convOf, muted, found]
      · cases found : tables.channels.get? ck with
        | none => simp [convOf, orphan, found]
        | some row => simp [convOf, orphan, found]
  | priv => simp [convOf, readBoundary, muted, orphan]

theorem unreadRows_eq (t : MessageType) (ck : Key) :
    unreadRows tables blockedKeys blockedNames (convOf tables (t, ck)) =
      tables.messages.filter (unread tables blockedKeys blockedNames t ck) := by
  obtain ⟨type, key, readAt, _⟩ := convOf_spec tables t ck
  rw [unreadRows, type, key, readAt]
  apply List.filter_congr
  intro m _
  rw [Bool.eq_iff_iff]
  simp only [decide_eq_true_eq, holds_blockedSql, unread, belongs, Bool.and_eq_true,
    Bool.not_eq_true', gt_iff_lt]
  tauto

theorem stateKey_injective {t u : MessageType} {a b : Key} (same : stateKey t a = stateKey u b) :
    t = u ∧ a = b := by
  cases t <;> cases u <;> simp_all [stateKey]

/-- Values stored under the state keys of distinct conversations. -/
theorem get?_stateKeys {ρ ν : Type} {rows : List ρ} {place : ρ → MessageType × Key}
    (distinct : (rows.map place).Nodup) (value : ρ → ν) (t : MessageType) (ck : Key) (v : ν) :
    (Dict.ofList (rows.map fun row => (stateKey (place row).1 (place row).2, value row))).get?
        (stateKey t ck) = some v ↔ ∃ row ∈ rows, place row = (t, ck) ∧ value row = v := by
  rw [Dict.get?_ofList]
  · simp only [List.mem_map, Prod.mk.injEq]
    constructor
    · rintro ⟨row, member, same, eq⟩
      exact ⟨row, member, Prod.ext (stateKey_injective same).1 (stateKey_injective same).2, eq⟩
    · rintro ⟨row, member, same, eq⟩
      exact ⟨row, member, by rw [same], eq⟩
  · rw [List.map_map]
    have pairs : (rows.map (Prod.fst ∘ fun row => (stateKey (place row).1 (place row).2, value row))) =
        (rows.map place).map fun p => stateKey p.1 p.2 := by
      rw [List.map_map]
      rfl
    rw [pairs]
    refine distinct.map ?_
    intro p q same
    exact Prod.ext (stateKey_injective same).1 (stateKey_injective same).2

/-- Rows made from distinct places, at most one from each, are at distinct places. -/
theorem nodup_places {α β : Type} {places : List α} {row : α → Option β} {place : β → α}
    (back : ∀ a b, row a = some b → place b = a) (distinct : places.Nodup) :
    ((places.filterMap row).map place).Nodup := by
  refine distinct.sublist ?_
  clear distinct
  induction places with
  | nil => simp
  | cons a places ih =>
      cases made : row a with
      | none =>
          rw [List.filterMap_cons_none made]
          exact ih.cons a
      | some b =>
          rw [List.filterMap_cons_some made, List.map_cons, back a b made]
          exact ih.cons_cons a

/-- An element of least order key among the unread messages of a conversation. -/
def FirstUnread (tables : Tables) (blockedKeys : List Key) (blockedNames : List String)
    (t : MessageType) (ck : Key) (m : Message) : Prop :=
  m ∈ tables.messages.filter (unread tables blockedKeys blockedNames t ck) ∧
    ∀ other ∈ tables.messages.filter (unread tables blockedKeys blockedNames t ck),
      orderKey m ≤ orderKey other

/-- An element of greatest order key among the messages of a conversation that are not blocked. -/
def Newest (tables : Tables) (blockedKeys : List Key) (blockedNames : List String)
    (t : MessageType) (ck : Key) (m : Message) : Prop :=
  (m ∈ tables.messages ∧ belongs t ck m = true ∧ blocked blockedKeys blockedNames m = false) ∧
    ∀ other ∈ tables.messages, belongs t ck other = true →
      blocked blockedKeys blockedNames other = false → orderKey other ≤ orderKey m

/-- The primary key tells messages apart. -/
theorem eq_of_id {m other : Message} (member : m ∈ tables.messages) (member' : other ∈ tables.messages)
    (same : m.id = other.id) : m = other :=
  List.inj_on_of_nodup_map tables.distinct member member' same

theorem eq_of_orderKey {m other : Message} (member : m ∈ tables.messages)
    (member' : other ∈ tables.messages) (same : orderKey m = orderKey other) : m = other := by
  apply eq_of_id member member'
  have pairs := toLex.injective same
  exact (Prod.mk.inj pairs).2

/-- The row of the first query for a conversation. -/
theorem unreadRow_spec {t : MessageType} {ck : Key} {row : UnreadRow} :
    unreadRow tables name blockedKeys blockedNames (convOf tables (t, ck)) = some row →
      row.t = t ∧ row.ck = ck := by
  obtain ⟨type, key, _⟩ := convOf_spec tables t ck
  intro made
  simp only [unreadRow, Option.ite_none_right_eq_some, Option.some.injEq] at made
  obtain ⟨_, rfl⟩ := made
  exact ⟨type, key⟩

theorem mem_unreadQuery (row : UnreadRow) : row ∈ unreadQuery tables name blockedKeys blockedNames ↔
    (∃ m ∈ tables.messages, belongs row.t row.ck m = true) ∧
      unreadRow tables name blockedKeys blockedNames (convOf tables (row.t, row.ck)) = some row := by
  rw [unreadQuery, List.filterMap_map, List.mem_filterMap]
  constructor
  · rintro ⟨⟨t, ck⟩, member, made⟩
    obtain ⟨rfl, rfl⟩ := unreadRow_spec made
    exact ⟨((conversations_spec tables).2 _ _).mp member, made⟩
  · rintro ⟨some_message, made⟩
    exact ⟨(row.t, row.ck), ((conversations_spec tables).2 _ _).mpr some_message, made⟩

theorem unreadQuery_places :
    ((unreadQuery tables name blockedKeys blockedNames).map fun row => (row.t, row.ck)).Nodup := by
  rw [unreadQuery, List.filterMap_map]
  apply nodup_places _ (conversations_spec tables).1
  rintro ⟨t, ck⟩ row made
  obtain ⟨rfl, rfl⟩ := unreadRow_spec made
  rfl

/-- The least unread message is the first one of the ordered subquery. -/
theorem firstUnreadId_spec {t : MessageType} {ck : Key}
    (some_unread : tables.messages.filter (unread tables blockedKeys blockedNames t ck) ≠ [])
    (first : Option Nat) :
    firstUnreadId tables blockedKeys blockedNames (convOf tables (t, ck)) = first ↔
      ∃ m, FirstUnread tables blockedKeys blockedNames t ck m ∧ first = some m.id := by
  rw [firstUnreadId, unreadRows_eq]
  cases head : (sortFalling (fun m => OrderDual.toDual (orderKey m))
      (tables.messages.filter (unread tables blockedKeys blockedNames t ck))).head? with
  | none => exact absurd ((head?_sortFalling_none _).mp head) some_unread
  | some m =>
      have least := head?_sortFalling _ head
      rw [Option.map_some]
      constructor
      · rintro rfl
        exact ⟨m, least, rfl⟩
      · rintro ⟨other, ⟨member, least'⟩, rfl⟩
        have same : orderKey m = orderKey other :=
          le_antisymm (least.2 other member) (least' m least.1)
        rw [eq_of_orderKey (List.mem_of_mem_filter least.1) (List.mem_of_mem_filter member) same]

/-- The row of the second query for a conversation. -/
theorem lastRow_spec {t : MessageType} {ck : Key} {row : Conv × Message} :
    lastRow tables blockedKeys blockedNames (convOf tables (t, ck)) = some row ↔
      row.1 = convOf tables (t, ck) ∧ Newest tables blockedKeys blockedNames t ck row.2 := by
  obtain ⟨type, key, _⟩ := convOf_spec tables t ck
  have candidates : (tables.messages.filter fun m => m.type = t ∧ m.conversationKey = ck ∧
      holds (blockedSql blockedKeys blockedNames m)) =
      tables.messages.filter fun m => belongs t ck m && !blocked blockedKeys blockedNames m := by
    apply List.filter_congr
    intro m _
    rw [Bool.eq_iff_iff]
    simp only [decide_eq_true_eq, holds_blockedSql, belongs, Bool.and_eq_true, and_assoc]
  have found {m : Message} (member : m ∈ tables.messages) :
      (tables.messages.find? fun other => other.id = m.id) = some m := by
    obtain ⟨other, eq⟩ : ∃ other, (tables.messages.find? fun other => other.id = m.id) = some other := by
      rw [← Option.isSome_iff_exists, List.find?_isSome]
      exact ⟨m, member, by simp⟩
    have same := List.find?_some eq
    rw [eq, eq_of_id (List.mem_of_find?_eq_some eq) member (by simpa using same)]
  simp only [lastRow, lastId, type, key, candidates]
  obtain ⟨c, newest⟩ := row
  cases head : (sortFalling orderKey (tables.messages.filter fun m =>
      belongs t ck m && !blocked blockedKeys blockedNames m)).head? with
  | none =>
      have empty := (head?_sortFalling_none _).mp head
      simp only [List.filter_eq_nil_iff, Bool.and_eq_true, Bool.not_eq_true'] at empty
      simp only [Option.map_none, Option.bind_eq_bind, Option.bind_none, reduceCtorEq, false_iff]
      rintro ⟨_, ⟨member, place, free⟩, _⟩
      exact empty newest member ⟨place, free⟩
  | some m =>
      obtain ⟨listed, greatest⟩ := head?_sortFalling _ head
      simp only [List.mem_filter, Bool.and_eq_true, Bool.not_eq_true'] at listed greatest
      simp only [Option.map_some, Option.bind_eq_bind, Option.bind_some, found listed.1,
        Option.pure_def, Option.some.injEq, Prod.mk.injEq]
      constructor
      · rintro ⟨rfl, rfl⟩
        exact ⟨rfl, listed, fun other member place free => greatest other ⟨member, place, free⟩⟩
      · rintro ⟨rfl, ⟨member, place, free⟩, greatest'⟩
        refine ⟨rfl, eq_of_orderKey listed.1 member ?_⟩
        exact le_antisymm (greatest' m listed.1 listed.2.1 listed.2.2)
          (greatest newest ⟨member, place, free⟩)

theorem mem_lastQuery (t : MessageType) (ck : Key) (m : Message) :
    (∃ c, (c, m) ∈ lastQuery tables blockedKeys blockedNames ∧ (c.t, c.ck) = (t, ck)) ↔
      Newest tables blockedKeys blockedNames t ck m := by
  simp only [lastQuery, List.filterMap_map, List.mem_filterMap, Prod.exists, Function.comp_apply,
    lastRow_spec]
  constructor
  · rintro ⟨c, ⟨t', ck', _, rfl, newest⟩, place⟩
    obtain ⟨type, key, _⟩ := convOf_spec tables t' ck'
    rw [type, key, Prod.mk.injEq] at place
    obtain ⟨rfl, rfl⟩ := place
    exact newest
  · intro newest
    obtain ⟨type, key, _⟩ := convOf_spec tables t ck
    refine ⟨_, ⟨t, ck, ?_, rfl, newest⟩, by rw [type, key]⟩
    exact ((conversations_spec tables).2 t ck).mpr ⟨m, newest.1.1, newest.1.2.1⟩

theorem lastQuery_places :
    ((lastQuery tables blockedKeys blockedNames).map fun row => (row.1.t, row.1.ck)).Nodup := by
  rw [lastQuery, List.filterMap_map]
  apply nodup_places _ (conversations_spec tables).1
  rintro ⟨t, ck⟩ row made
  obtain ⟨type, key, _⟩ := convOf_spec tables t ck
  rw [(lastRow_spec.mp made).1, type, key]

/-- A dictionary filled from the second query. -/
theorem get?_last {ν : Type} (value : Message → ν) (t : MessageType) (ck : Key) (v : ν) :
    (Dict.ofList ((lastQuery tables blockedKeys blockedNames).map fun row =>
        (stateKey row.1.t row.1.ck, value row.2))).get? (stateKey t ck) = some v ↔
      ∃ m, Newest tables blockedKeys blockedNames t ck m ∧ value m = v := by
  refine (get?_stateKeys lastQuery_places (fun row => value row.2) t ck v).trans ?_
  simp only [← mem_lastQuery]
  constructor
  · rintro ⟨row, member, place, rfl⟩
    exact ⟨row.2, ⟨row.1, member, place⟩, rfl⟩
  · rintro ⟨m, ⟨c, member, place⟩, rfl⟩
    exact ⟨(c, m), member, place, rfl⟩

/-- What stands in the first query's row of a conversation. -/
theorem mem_unreadQuery_at {t : MessageType} {ck : Key} {row : UnreadRow} :
    (row ∈ unreadQuery tables name blockedKeys blockedNames ∧ (row.t, row.ck) = (t, ck)) ↔
      unreadRow tables name blockedKeys blockedNames (convOf tables (t, ck)) = some row := by
  rw [mem_unreadQuery]
  constructor
  · rintro ⟨⟨_, made⟩, place⟩
    obtain ⟨rfl, rfl⟩ := Prod.mk.inj place
    exact made
  · intro made
    obtain ⟨rfl, rfl⟩ := unreadRow_spec made
    refine ⟨⟨?_, made⟩, rfl⟩
    simp only [unreadRow, Option.ite_none_right_eq_some, unreadRows_eq] at made
    obtain ⟨m, member⟩ := List.exists_mem_of_ne_nil _ made.1.2
    obtain ⟨listed, isUnread⟩ := List.mem_filter.mp member
    simp only [unread, Bool.and_eq_true] at isUnread
    exact ⟨m, listed, isUnread.1.1.1⟩

/-- The first query has a row for a conversation just when it is not muted and has unread
messages; the row says how many and which is the first. -/
theorem unreadRow_some {t : MessageType} {ck : Key} {row : UnreadRow}
    (made : unreadRow tables name blockedKeys blockedNames (convOf tables (t, ck)) = some row) :
    muted tables t ck = false ∧
      tables.messages.filter (unread tables blockedKeys blockedNames t ck) ≠ [] ∧
      row.counted = !orphan tables t ck ∧
      row.unreadCount = (tables.messages.filter (unread tables blockedKeys blockedNames t ck)).length ∧
      row.firstUnreadId = firstUnreadId tables blockedKeys blockedNames (convOf tables (t, ck)) := by
  obtain ⟨type, _, _, isMuted, isOrphan⟩ := convOf_spec tables t ck
  simp only [unreadRow, Option.ite_none_right_eq_some, unreadRows_eq, type, isMuted,
    Option.some.injEq] at made
  obtain ⟨⟨loud, nonempty⟩, rfl⟩ := made
  refine ⟨loud, nonempty, ?_, rfl, rfl⟩
  rw [Bool.eq_iff_iff, UnreadRow.counted, decide_eq_true_eq, isOrphan, Bool.not_eq_true']

theorem unreadRow_exists {t : MessageType} {ck : Key} (loud : muted tables t ck = false)
    (nonempty : tables.messages.filter (unread tables blockedKeys blockedNames t ck) ≠ []) :
    ∃ row, unreadRow tables name blockedKeys blockedNames (convOf tables (t, ck)) = some row := by
  obtain ⟨type, _, _, isMuted, _⟩ := convOf_spec tables t ck
  rw [← Option.isSome_iff_exists, unreadRow, if_pos]
  · rfl
  · rw [type, unreadRows_eq]
    exact ⟨isMuted.mpr loud, nonempty⟩

theorem counts_iff (t : MessageType) (ck : Key) (count : Nat) :
    (getUnreadCounts tables name blockedKeys blockedNames).counts.get? (stateKey t ck) = some count ↔
      (muted tables t ck = false ∧ orphan tables t ck = false) ∧
        tables.messages.filter (unread tables blockedKeys blockedNames t ck) ≠ [] ∧
        (tables.messages.filter (unread tables blockedKeys blockedNames t ck)).length = count := by
  have places : ((((unreadQuery tables name blockedKeys blockedNames).filter UnreadRow.counted).map
      fun row => (row.t, row.ck)).Nodup) := unreadQuery_places.sublist (List.filter_sublist.map _)
  refine (get?_stateKeys places UnreadRow.unreadCount t ck count).trans ?_
  constructor
  · rintro ⟨row, member, place, rfl⟩
    obtain ⟨member, counted⟩ := List.mem_filter.mp member
    obtain ⟨loud, nonempty, known, count, _⟩ := unreadRow_some (mem_unreadQuery_at.mp ⟨member, place⟩)
    rw [counted] at known
    exact ⟨⟨loud, by simpa using known⟩, nonempty, count.symm⟩
  · rintro ⟨⟨loud, known⟩, nonempty, rfl⟩
    obtain ⟨row, made⟩ := unreadRow_exists loud nonempty
    obtain ⟨member, place⟩ := mem_unreadQuery_at.mpr made
    obtain ⟨_, _, counted, count, _⟩ := unreadRow_some made
    exact ⟨row, List.mem_filter.mpr ⟨member, by rw [counted, known]; rfl⟩, place, count⟩

theorem firstUnreadIds_iff (t : MessageType) (ck : Key) (first : Option Nat) :
    (getUnreadCounts tables name blockedKeys blockedNames).firstUnreadIds.get? (stateKey t ck) =
        some first ↔
      muted tables t ck = false ∧
        ∃ m, FirstUnread tables blockedKeys blockedNames t ck m ∧ first = some m.id := by
  refine (get?_stateKeys unreadQuery_places UnreadRow.firstUnreadId t ck first).trans ?_
  constructor
  · rintro ⟨row, member, place, rfl⟩
    obtain ⟨loud, nonempty, _, _, same⟩ := unreadRow_some (mem_unreadQuery_at.mp ⟨member, place⟩)
    exact ⟨loud, (firstUnreadId_spec nonempty _).mp same.symm⟩
  · rintro ⟨loud, m, least, rfl⟩
    have nonempty := List.ne_nil_of_mem least.1
    obtain ⟨row, made⟩ := unreadRow_exists loud nonempty
    obtain ⟨member, place⟩ := mem_unreadQuery_at.mpr made
    obtain ⟨_, _, _, _, same⟩ := unreadRow_some made
    exact ⟨row, member, place, same.trans ((firstUnreadId_spec nonempty _).mpr ⟨m, least, rfl⟩)⟩

/-- What the summary says of each conversation, and the conversations it goes through. -/
theorem unread_summary (tables : Tables) (name : Option String) (blockedKeys : List Key)
    (blockedNames : List String) :
    (∀ t ck, let summary := getUnreadCounts tables name blockedKeys blockedNames
      let unreadOnes := tables.messages.filter (unread tables blockedKeys blockedNames t ck)
      summary.counts.get? (stateKey t ck) =
          (if unreadOnes = [] ∨ muted tables t ck ∨ orphan tables t ck then none
            else some unreadOnes.length) ∧
        (∀ first, summary.firstUnreadIds.get? (stateKey t ck) = some first ↔
          muted tables t ck = false ∧
            ∃ m, FirstUnread tables blockedKeys blockedNames t ck m ∧ first = some m.id) ∧
        (∀ time, summary.lastMessageTimes.get? (stateKey t ck) = some time ↔
          ∃ m, Newest tables blockedKeys blockedNames t ck m ∧ m.receivedAt = time) ∧
        (∀ preview, summary.lastMessagePreviews.get? (stateKey t ck) = some preview ↔
          ∃ m, Newest tables blockedKeys blockedNames t ck m ∧ m.text.toList.take 120 = preview) ∧
        ∀ outgoing, summary.lastMessageOutgoing.get? (stateKey t ck) = some outgoing ↔
          ∃ m, Newest tables blockedKeys blockedNames t ck m ∧ m.outgoing = outgoing) ∧
      ((conversations tables).Nodup ∧
        ∀ t ck, (t, ck) ∈ conversations tables ↔ ∃ m ∈ tables.messages, belongs t ck m = true) ∧
      ∀ more, conversationsWithin tables (tables.messages.length + more) = conversations tables := by
  refine ⟨?_, conversations_spec tables,
    fun more => conversationsWithin_ends tables (Nat.le_add_right _ more)⟩
  intro t ck
  refine ⟨?_, firstUnreadIds_iff t ck, get?_last Message.receivedAt t ck,
    get?_last (fun m => m.text.toList.take 120) t ck, get?_last Message.outgoing t ck⟩
  rw [Option.ext_iff]
  intro count
  rw [counts_iff]
  split
  · rename_i left_out
    simp only [reduceCtorEq, iff_false]
    rintro ⟨⟨loud, known⟩, nonempty, _⟩
    obtain none_unread | isMuted | isOrphan := left_out
    · exact nonempty none_unread
    · rw [loud] at isMuted
      contradiction
    · rw [known] at isOrphan
      contradiction
  · rename_i counted
    simp only [not_or, Bool.not_eq_true] at counted
    simp [counted]

end Meshloom.Messages.Unread
