import Meshloom.Frontend.UnreadBadges

/-! The badges follow the server: they count what is unread there, announced and not cleared, as
long as each answer is applied when nothing else was announced than it has. -/
namespace Meshloom.Frontend.UnreadBadges
open Messages (MessageType Key)
open Messages.Unread Transition
variable {name : Option String}

/-- A count as the summary has it, which leaves out what is 0. -/
def tally (rows : List Messages.Message) : Option Nat := if rows = [] then none else some rows.length

def Least (rows : List Messages.Message) (m : Messages.Message) : Prop :=
  m ∈ rows ∧ ∀ other ∈ rows, orderKey m ≤ orderKey other

theorem tally_perm {rows others : List Messages.Message} (perm : rows.Perm others) : tally rows = tally others := by
  simp only [tally, perm.length_eq, ← List.length_eq_zero_iff]

theorem least_congr {rows others : List Messages.Message} (same : ∀ m, m ∈ rows ↔ m ∈ others) :
    Least rows m ↔ Least others m := by
  simp only [Least, same]

theorem tally_cons {rows : List Messages.Message} (m : Messages.Message) :
    tally (m :: rows) = some ((tally rows).getD 0 + 1) := by
  simp only [tally, reduceCtorEq, if_false, List.length_cons]
  split
  · rename_i none
    rw [none]
    rfl
  · rfl

/-- A message that comes after all others is the least one only where it is alone. -/
theorem least_cons {rows : List Messages.Message} (last : ∀ other ∈ rows, orderKey other ≤ orderKey m)
    (new : m ∉ rows) (apart : ∀ other ∈ rows, orderKey other = orderKey m → other = m) :
    Least (m :: rows) found ↔ if rows = [] then found = m else Least rows found := by
  split
  · rename_i none
    subst none
    simp only [Least, List.mem_singleton, forall_eq]
    exact ⟨fun found => found.1, fun same => ⟨same, same ▸ le_rfl⟩⟩
  · rename_i some
    constructor
    · rintro ⟨listed, least⟩
      obtain rfl | listed := List.mem_cons.mp listed
      · obtain ⟨other, there⟩ := List.exists_mem_of_ne_nil rows some
        have le := least other (List.mem_cons_of_mem _ there)
        exact (new (apart other there ((last other there).antisymm le) ▸ there)).elim
      · exact ⟨listed, fun other there => least other (List.mem_cons_of_mem _ there)⟩
    · rintro ⟨listed, least⟩
      refine ⟨List.mem_cons_of_mem _ listed, ?_⟩
      intro other there
      obtain rfl | there := List.mem_cons.mp there
      · exact last found listed
      · exact least other there

theorem exists_least {rows : List Messages.Message} (some : rows ≠ []) : ∃ least, Least rows least := by
  obtain ⟨least, listed, lowest⟩ :=
    Finset.exists_min_image rows.toFinset orderKey ((List.toFinset_nonempty_iff _).mpr some)
  simp only [List.mem_toFinset] at listed lowest
  exact ⟨least, listed, lowest⟩

/-- The unread messages of a conversation on the server. -/
def unreadOf (tables : Tables) (t : MessageType) (ck : Key) : List Messages.Message :=
  tables.messages.filter (unread tables [] [] t ck)

/-- Those of them whose event has come and whose badge was not cleared. -/
def counted (s : State) (t : MessageType) (ck : Key) : List Messages.Message :=
  (unreadOf s.tables t ck).filter fun m => m ∉ s.unannounced ∧ m ∉ s.cleared

theorem unread_iff {tables : Tables} : unread tables [] [] t ck m = true ↔
    m.type = t ∧ m.conversationKey = ck ∧ m.outgoing = false ∧
      readBoundary tables t ck < m.receivedAt := by
  simp [unread, belongs, blocked, and_assoc]

theorem mem_of_isUnread {tables : Tables} (isUnread : isUnread tables m = true) : m ∈ tables.messages := by
  simp only [UnreadBadges.isUnread, Bool.and_eq_true, decide_eq_true_eq] at isUnread
  exact isUnread.1

theorem mem_unreadOf {tables : Tables} : m ∈ unreadOf tables t ck ↔
    isUnread tables m = true ∧ m.type = t ∧ m.conversationKey = ck := by
  simp only [unreadOf, List.mem_filter, isUnread, Bool.and_eq_true, decide_eq_true_eq]
  constructor
  · rintro ⟨listed, isUnread⟩
    obtain ⟨rfl, rfl, _⟩ := unread_iff.mp isUnread
    exact ⟨⟨listed, isUnread⟩, rfl, rfl⟩
  · rintro ⟨⟨listed, isUnread⟩, rfl, rfl⟩
    exact ⟨listed, isUnread⟩

theorem mem_counted {s : State} : m ∈ counted s t ck ↔
    (isUnread s.tables m = true ∧ m ∉ s.unannounced ∧ m ∉ s.cleared) ∧
      m.type = t ∧ m.conversationKey = ck := by
  rw [counted, List.mem_filter, mem_unreadOf, decide_eq_true_eq]
  tauto

theorem nodup_unreadOf (tables : Tables) (t : MessageType) (ck : Key) : (unreadOf tables t ck).Nodup :=
  (List.Nodup.of_map _ tables.distinct).filter _

theorem nodup_counted (s : State) (t : MessageType) (ck : Key) : (counted s t ck).Nodup :=
  (nodup_unreadOf _ t ck).filter _

section Summary
variable {tables : Tables} (unmuted : ∀ t ck, muted tables t ck = false)
include unmuted

theorem summary_counts (t : MessageType) (ck : Key) :
    (getUnreadCounts tables name [] []).counts.get? (stateKey t ck) =
      if orphan tables t ck then none else tally (unreadOf tables t ck) := by
  rw [Option.ext_iff]
  intro count
  rw [counts_iff, tally]
  change _ ∧ unreadOf tables t ck ≠ [] ∧ (unreadOf tables t ck).length = count ↔ _
  constructor
  · rintro ⟨⟨_, known⟩, nonempty, length⟩
    rw [if_neg (by rw [known]; exact Bool.false_ne_true), if_neg nonempty, length]
  · intro found
    split at found
    · contradiction
    rename_i known
    split at found
    · contradiction
    rename_i nonempty
    exact ⟨⟨unmuted t ck, eq_false_of_ne_true known⟩, nonempty, Option.some.inj found⟩

theorem summary_first (t : MessageType) (ck : Key) (first : Option Nat) :
    (getUnreadCounts tables name [] []).firstUnreadIds.get? (stateKey t ck) = some first ↔
      ∃ m, Least (unreadOf tables t ck) m ∧ first = some m.id := by
  rw [firstUnreadIds_iff]
  exact and_iff_right (unmuted t ck)

end Summary

/-- The badges of a conversation are those of some of its messages; a channel without a row is not
counted. -/
structure Shows (b : Badges) (orphan : MessageType → Key → Bool)
    (rows : MessageType → Key → List Messages.Message) : Prop where
  counts : ∀ t ck, b.unreadCounts.get? (stateKey t ck) = if orphan t ck then none else tally (rows t ck)
  first : ∀ t ck first, b.firstUnreadIds.get? (stateKey t ck) = some first ↔
    ∃ m, Least (rows t ck) m ∧ first = some m.id

section Shows
variable {orphan : MessageType → Key → Bool}

theorem Shows.congr {rows others : MessageType → Key → List Messages.Message} (shows : Shows b orphan rows)
    (distinct : ∀ t ck, (rows t ck).Nodup) (distinct' : ∀ t ck, (others t ck).Nodup)
    (same : ∀ t ck m, m ∈ rows t ck ↔ m ∈ others t ck) : Shows b orphan others := by
  refine ⟨?_, ?_⟩
  · intro t ck
    have perm := (List.perm_ext_iff_of_nodup (distinct t ck) (distinct' t ck)).mpr (same t ck)
    rw [shows.counts, tally_perm perm]
  · intro t ck first
    rw [shows.first]
    simp only [least_congr (same t ck)]

/-- Two views of the same messages agree. -/
theorem Shows.agree {rows : MessageType → Key → List Messages.Message} (shows : Shows b orphan rows)
    (shows' : Shows c orphan rows) (t : MessageType) (ck : Key) :
    b.unreadCounts.get? (stateKey t ck) = c.unreadCounts.get? (stateKey t ck) ∧
      b.firstUnreadIds.get? (stateKey t ck) = c.firstUnreadIds.get? (stateKey t ck) := by
  refine ⟨(shows.counts t ck).trans (shows'.counts t ck).symm, ?_⟩
  rw [Option.ext_iff]
  intro first
  rw [shows.first, shows'.first]

theorem noBadges_shows {rows : MessageType → Key → List Messages.Message} (none : ∀ t ck, rows t ck = []) :
    Shows noBadges orphan rows := by
  refine ⟨?_, ?_⟩
  · intro t ck
    rw [none]
    exact (ite_self _).symm
  · intro t ck found
    rw [none]
    simp [noBadges, Least]

/-- An event adds its message to those of its conversation. -/
theorem incrementUnread_shows {rows others : MessageType → Key → List Messages.Message} (shows : Shows b orphan rows)
    (known : orphan m.type m.conversationKey = false)
    (distinct : ∀ t ck, (rows t ck).Nodup) (distinct' : ∀ t ck, (others t ck).Nodup)
    (new : m ∉ rows m.type m.conversationKey)
    (last : ∀ other ∈ rows m.type m.conversationKey, orderKey other ≤ orderKey m)
    (apart : ∀ other ∈ rows m.type m.conversationKey, orderKey other = orderKey m → other = m)
    (added : ∀ t ck other, other ∈ others t ck ↔
      other ∈ rows t ck ∨ other = m ∧ m.type = t ∧ m.conversationKey = ck) (hasMention : Bool) :
    Shows (incrementUnread b (stateKey m.type m.conversationKey) m.id hasMention) orphan others := by
  have here : (others m.type m.conversationKey).Perm (m :: rows m.type m.conversationKey) := by
    refine (List.perm_ext_iff_of_nodup (distinct' _ _)
      (List.nodup_cons.mpr ⟨new, distinct _ _⟩)).mpr ?_
    intro other
    rw [added, List.mem_cons]
    tauto
  have elsewhere (t ck) (away : stateKey t ck ≠ stateKey m.type m.conversationKey) :
      ∀ other, other ∈ others t ck ↔ other ∈ rows t ck := by
    intro other
    rw [added]
    constructor
    · rintro (listed | ⟨_, rfl, rfl⟩)
      · exact listed
      · exact (away rfl).elim
    · exact .inl
  refine ⟨?_, ?_⟩
  · intro t ck
    simp only [incrementUnread, Dict.get?_set]
    split
    · rename_i same
      obtain ⟨rfl, rfl⟩ := stateKey_injective same
      simp only [shows.counts, known, Bool.false_eq_true, if_false]
      rw [tally_perm here, tally_cons]
    · rename_i away
      have perm := (List.perm_ext_iff_of_nodup (distinct' t ck) (distinct t ck)).mpr
        (elsewhere t ck away)
      rw [tally_perm perm, shows.counts]
  · intro t ck first
    by_cases same : stateKey t ck = stateKey m.type m.conversationKey
    · obtain ⟨rfl, rfl⟩ := stateKey_injective same
      simp only [least_congr fun other => here.mem_iff, least_cons last new apart]
      by_cases none : rows m.type m.conversationKey = []
      · have absent : b.firstUnreadIds.get? (stateKey m.type m.conversationKey) = Option.none := by
          rw [Option.eq_none_iff_forall_ne_some]
          intro found known
          obtain ⟨other, least, _⟩ := (shows.first _ _ _).mp known
          rw [none] at least
          exact List.not_mem_nil least.1
        simp [incrementUnread, absent, none, eq_comm]
      · obtain ⟨least, isLeast⟩ := exists_least none
        have present := (shows.first _ _ _).mpr ⟨least, isLeast, rfl⟩
        simp only [incrementUnread, present, Option.join_some, Option.isSome_some, if_true, none,
          if_false]
        exact present ▸ shows.first m.type m.conversationKey first
    · simp only [least_congr (elsewhere t ck same)]
      rw [← shows.first]
      simp only [incrementUnread]
      split
      · rfl
      · rw [Dict.get?_set, if_neg same]

end Shows

theorem applyUnreads_shows {tables : Tables} (unmuted : ∀ t ck, muted tables t ck = false) :
    Shows (applyUnreads none (getUnreadCounts tables name [] [])) (orphan tables) (unreadOf tables) :=
  ⟨summary_counts unmuted, summary_first unmuted⟩

structure Invariant (s : State) : Prop where
  unmuted : ∀ t ck, muted s.tables t ck = false
  /-- What is still to be announced is unread. -/
  waiting : ∀ m ∈ s.unannounced, isUnread s.tables m = true ∧ Known s.tables m
  once : s.unannounced.Nodup
  cleared : ∀ m ∈ s.cleared, isUnread s.tables m = true ∧ m ∉ s.unannounced
  settled : s.marks = [] → s.cleared = []
  read : ∀ request ∈ s.requests, ∀ tables, request.answer = some tables →
    (∀ m ∈ tables.messages, m ∈ s.tables.messages) ∧
      ∀ t ck, muted tables t ck = false ∧ orphan tables t ck = orphan s.tables t ck
  shows : Shows s.badges (orphan s.tables) (counted s)

/-- What is unread once a message is stored that is newer than the read mark. -/
theorem isUnread_insert {tables : Tables} {other : Messages.Message}
    (fresh : m.id ∉ tables.messages.map Messages.Message.id) (incoming : m.outgoing = false)
    (later : readBoundary tables m.type m.conversationKey < m.receivedAt) :
    isUnread (tables.insert m fresh) other = true ↔ isUnread tables other = true ∨ other = m := by
  simp only [isUnread, Bool.and_eq_true, decide_eq_true_eq, unread_iff, true_and]
  change (other ∈ tables.messages ++ [m] ∧ other.outgoing = false ∧
    readBoundary tables other.type other.conversationKey < other.receivedAt) ↔ _
  rw [List.mem_append, List.mem_singleton]
  constructor
  · rintro ⟨listed | same, incoming, later⟩
    · exact .inl ⟨listed, incoming, later⟩
    · exact .inr same
  · rintro (⟨listed, incoming, later⟩ | rfl)
    · exact ⟨.inl listed, incoming, later⟩
    · exact ⟨.inr rfl, incoming, later⟩

theorem stored_step (inv : Invariant s) (fresh : m.id ∉ s.tables.messages.map Messages.Message.id)
    (incoming : m.outgoing = false) (exact : Exact s (.stored m)) :
    Invariant { s with tables := s.tables.insert m fresh, unannounced := s.unannounced ++ [m] } := by
  obtain ⟨known, later⟩ := exact
  have new : m ∉ s.tables.messages := fun member => fresh (List.mem_map.mpr ⟨m, member, rfl⟩)
  have unread_insert (other : Messages.Message) : isUnread (s.tables.insert m fresh) other = true ↔
      isUnread s.tables other = true ∨ other = m := isUnread_insert fresh incoming later
  refine ⟨inv.unmuted, ?_, ?_, ?_, inv.settled, ?_, ?_⟩
  · intro other waits
    rw [unread_insert]
    obtain old | last := List.mem_append.mp waits
    · exact ⟨.inl (inv.waiting other old).1, (inv.waiting other old).2⟩
    · cases List.mem_singleton.mp last
      exact ⟨.inr rfl, known⟩
  · rw [List.nodup_append]
    refine ⟨inv.once, List.nodup_singleton _, ?_⟩
    intro a left b right same
    rw [List.mem_singleton.mp right] at same
    exact new (same ▸ mem_of_isUnread (inv.waiting a left).1)
  · intro other hidden
    obtain ⟨isUnread, announced⟩ := inv.cleared other hidden
    refine ⟨(unread_insert other).mpr (.inl isUnread), fun waits => ?_⟩
    obtain old | last := List.mem_append.mp waits
    · exact announced old
    · exact new (List.mem_singleton.mp last ▸ mem_of_isUnread isUnread)
  · intro request listed tables answered
    obtain ⟨old, same⟩ := inv.read request listed tables answered
    exact ⟨fun other member => List.mem_append_left _ (old other member), same⟩
  · refine inv.shows.congr (nodup_counted s) (nodup_counted _) ?_
    intro t ck other
    rw [mem_counted, mem_counted, unread_insert, List.mem_append, List.mem_singleton]
    constructor
    · rintro ⟨⟨isUnread, announced, kept⟩, place⟩
      refine ⟨⟨.inl isUnread, ?_, kept⟩, place⟩
      rintro (waits | rfl)
      · exact announced waits
      · exact new (mem_of_isUnread isUnread)
    · rintro ⟨⟨isUnread | rfl, announced, kept⟩, place⟩
      · exact ⟨⟨isUnread, fun waits => announced (.inl waits), kept⟩, place⟩
      · exact (announced (.inr rfl)).elim

theorem announced_step (inv : Invariant s) (waits : m ∈ s.unannounced) (hasMention : Bool)
    (exact : Exact s (.announced m hasMention)) :
    Invariant { s with
      badges := recordMessageEvent s.badges m false true hasMention
      unannounced := s.unannounced.erase m } := by
  obtain ⟨isUnread, named, known⟩ := inv.waiting m waits
  have incoming : m.outgoing = false := (unread_iff.mp (Bool.and_eq_true_iff.mp isUnread).2).2.2.1
  have kept : m ∉ s.cleared := fun hidden => (inv.cleared m hidden).2 waits
  refine ⟨inv.unmuted, fun other listed => inv.waiting other (List.mem_of_mem_erase listed),
    inv.once.erase m, fun other hidden => ?_, inv.settled, inv.read, ?_⟩
  · obtain ⟨isUnread, announced⟩ := inv.cleared other hidden
    exact ⟨isUnread, fun listed => announced (List.mem_of_mem_erase listed)⟩
  simp only [recordMessageEvent, if_neg named, incoming, Bool.not_false, Bool.and_true, if_true]
  refine incrementUnread_shows inv.shows known (nodup_counted s) (nodup_counted _) ?_ ?_ ?_ ?_ hasMention
  · exact fun listed => (mem_counted.mp listed).1.2.1 waits
  · intro other listed
    obtain ⟨⟨isUnread, announced, shown⟩, type, key⟩ := mem_counted.mp listed
    exact exact other (mem_of_isUnread isUnread) isUnread (by simp [belongs, type, key]) announced shown
  · intro other listed same
    obtain ⟨⟨otherUnread, _⟩, _⟩ := mem_counted.mp listed
    exact eq_of_orderKey (mem_of_isUnread otherUnread) (mem_of_isUnread isUnread) same
  · intro t ck other
    rw [mem_counted, mem_counted]
    change (UnreadBadges.isUnread s.tables other = true ∧ other ∉ s.unannounced.erase m ∧
      other ∉ s.cleared) ∧ _ ↔ _
    rw [inv.once.mem_erase_iff]
    constructor
    · rintro ⟨⟨isUnread, announced, shown⟩, type, key⟩
      by_cases same : other = m
      · subst same
        exact .inr ⟨rfl, type, key⟩
      · exact .inl ⟨⟨isUnread, fun listed => announced ⟨same, listed⟩, shown⟩, type, key⟩
    · rintro (⟨⟨isUnread, announced, shown⟩, place⟩ | ⟨rfl, place⟩)
      · exact ⟨⟨isUnread, fun listed => announced listed.2, shown⟩, place⟩
      · exact ⟨⟨isUnread, fun listed => listed.1 rfl, kept⟩, place⟩

theorem answered_step (inv : Invariant s) {i : Nat} {tables : Tables}
    (request : s.requests[i]? = some ⟨some tables⟩) (exact : Exact s (.unreadsAnswered i)) :
    Invariant { s with
      badges := applyUnreads none (getUnreadCounts tables name [] [])
      requests := s.requests.eraseIdx i
      cleared := [] } := by
  obtain ⟨read, same⟩ := inv.read _ (List.mem_of_getElem? request) tables rfl
  have current := exact tables request
  refine ⟨inv.unmuted, inv.waiting, inv.once, fun _ hidden => (List.not_mem_nil hidden).elim,
    fun _ => rfl, fun request listed => inv.read request (List.mem_of_mem_eraseIdx listed), ?_⟩
  have shows : Shows (applyUnreads none (getUnreadCounts tables name [] [])) (orphan s.tables)
      (unreadOf tables) := by
    have orphans : orphan s.tables = orphan tables := by
      funext t ck
      exact (same t ck).2.symm
    rw [orphans]
    exact applyUnreads_shows fun t ck => (same t ck).1
  refine shows.congr (nodup_unreadOf tables) (nodup_counted _) ?_
  intro t ck m
  rw [mem_unreadOf, mem_counted]
  refine and_congr_left fun _ => ?_
  constructor
  · intro isUnread
    obtain ⟨isUnread, announced⟩ := (current m (read m (mem_of_isUnread isUnread))).mp isUnread
    exact ⟨isUnread, announced, List.not_mem_nil⟩
  · rintro ⟨isUnread, announced, _⟩
    exact (current m (mem_of_isUnread isUnread)).mpr ⟨isUnread, announced⟩

theorem contactsMarkAllRead_rows (tables : Tables) (now : Int) (t : MessageType) (ck : Key) :
    muted (tables.contactsMarkAllRead now) t ck = muted tables t ck ∧
      orphan (tables.contactsMarkAllRead now) t ck = orphan tables t ck := by
  cases t <;> exact ⟨rfl, rfl⟩

theorem channelsMarkAllRead_rows (tables : Tables) (adopted : Key → Bool) (now : Int)
    (t : MessageType) (ck : Key) :
    muted (tables.channelsMarkAllRead adopted now) t ck = muted tables t ck ∧
      orphan (tables.channelsMarkAllRead adopted now) t ck = orphan tables t ck := by
  cases t with
  | priv => exact ⟨rfl, rfl⟩
  | chan =>
      simp only [muted, orphan, Tables.channelsMarkAllRead, Dict.get?_mapValues]
      cases tables.channels.get? ck with
      | none => exact ⟨rfl, rfl⟩
      | some row =>
          simp only [Option.map_some, Option.any_some]
          split
          · exact ⟨rfl, rfl⟩
          · exact ⟨rfl, rfl⟩

/-- An update of the read marks that spares the other messages. -/
theorem updated_step (inv : Invariant s) {tables : Tables} {marks : List MarkRequest}
    (messages : tables.messages = s.tables.messages)
    (rows : ∀ t ck, muted tables t ck = muted s.tables t ck ∧ orphan tables t ck = orphan s.tables t ck)
    (spares : Spares s tables)
    (settled : marks = [] → ∀ m ∈ s.cleared, isUnread tables m = false) :
    Invariant (updated s tables marks) := by
  have orphans : orphan tables = orphan s.tables := by
    funext t ck
    exact (rows t ck).2
  refine ⟨fun t ck => (rows t ck).1.trans (inv.unmuted t ck), fun m waits => ?_, inv.once,
    fun m hidden => ?_, fun last => ?_, fun request listed tables' answered => ?_, ?_⟩
  · obtain ⟨isUnread, named, known⟩ := inv.waiting m waits
    have kept : m ∉ s.cleared := fun hidden => (inv.cleared m hidden).2 waits
    refine ⟨(spares m (mem_of_isUnread isUnread) kept).mpr isUnread, named, ?_⟩
    exact (rows _ _).2.trans known
  · obtain ⟨hidden, isUnread⟩ := List.mem_filter.mp hidden
    exact ⟨isUnread, (inv.cleared m hidden).2⟩
  · refine List.filter_eq_nil_iff.mpr fun m hidden => ?_
    rw [settled last m hidden]
    exact Bool.false_ne_true
  · obtain ⟨old, same⟩ := inv.read request listed tables' answered
    refine ⟨fun m member => ?_, fun t ck => ⟨(same t ck).1, (same t ck).2.trans (rows t ck).2.symm⟩⟩
    show m ∈ tables.messages
    rw [messages]
    exact old m member
  · show Shows s.badges (orphan tables) _
    rw [orphans]
    refine inv.shows.congr (nodup_counted s) (nodup_counted _) fun t ck m => ?_
    rw [mem_counted, mem_counted]
    refine and_congr_left fun _ => ?_
    change _ ↔ isUnread tables m = true ∧ m ∉ s.unannounced ∧ m ∉ s.cleared.filter (isUnread tables)
    constructor
    · rintro ⟨isUnread, announced, shown⟩
      exact ⟨(spares m (mem_of_isUnread isUnread) shown).mpr isUnread, announced,
        fun hidden => shown (List.mem_of_mem_filter hidden)⟩
    · rintro ⟨isUnread, announced, shown⟩
      have kept : m ∉ s.cleared := fun hidden => shown (List.mem_filter.mpr ⟨hidden, isUnread⟩)
      have member : m ∈ s.tables.messages := messages ▸ mem_of_isUnread isUnread
      exact ⟨(spares m member kept).mp isUnread, announced, kept⟩

theorem markAllRead_step (inv : Invariant s) : Invariant (markAllRead s) := by
  refine ⟨inv.unmuted, inv.waiting, inv.once, fun m hidden => ?_, fun last => ?_, inv.read,
    noBadges_shows fun t ck => ?_⟩
  · obtain ⟨_, hidden⟩ := List.mem_filter.mp hidden
    obtain ⟨isUnread, announced⟩ := Bool.and_eq_true_iff.mp hidden
    exact ⟨isUnread, of_decide_eq_true announced⟩
  · exact (List.append_ne_nil_of_right_ne_nil _ (List.cons_ne_nil _ _) last).elim
  · rw [List.eq_nil_iff_forall_not_mem]
    intro m listed
    obtain ⟨⟨isUnread, announced, shown⟩, _⟩ := mem_counted.mp listed
    refine shown (List.mem_filter.mpr ⟨mem_of_isUnread isUnread, ?_⟩)
    exact Bool.and_eq_true_iff.mpr ⟨isUnread, decide_eq_true announced⟩

/-- A request that goes on or fails does not touch the badges. -/
theorem Invariant.marking (inv : Invariant s) {marks : List MarkRequest}
    (settled : marks = [] → s.cleared = []) : Invariant { s with marks } :=
  ⟨inv.unmuted, inv.waiting, inv.once, inv.cleared, settled, inv.read, ⟨inv.shows.counts, inv.shows.first⟩⟩

theorem Invariant.asking (inv : Invariant s) {requests : List UnreadsRequest}
    (read : ∀ request ∈ requests, ∀ tables, request.answer = some tables →
      (∀ m ∈ tables.messages, m ∈ s.tables.messages) ∧
        ∀ t ck, muted tables t ck = false ∧ orphan tables t ck = orphan s.tables t ck) :
    Invariant { s with requests } :=
  ⟨inv.unmuted, inv.waiting, inv.once, inv.cleared, inv.settled, read,
    ⟨inv.shows.counts, inv.shows.first⟩⟩

/-- What is left of the requests without one of them. -/
theorem erased_nil {marks : List MarkRequest} {i : Nat} {mark : MarkRequest}
    (found : marks[i]? = some mark) (last : marks.eraseIdx i = []) : marks.length = 1 := by
  have within := (List.getElem?_eq_some_iff.mp found).1
  have length := List.length_eraseIdx_of_lt within
  rw [last, List.length_nil] at length
  omega

theorem step_spec (inv : Invariant s) (exact : Exact s event) (stepped : step name s event = some t) :
    Invariant t := by
  cases event with
  | stored m =>
      simp only [step] at stepped
      split at stepped
      · rename_i fresh
        obtain ⟨incoming, ⟨⟩⟩ := Option.ite_none_right_eq_some.mp stepped
        exact stored_step inv fresh incoming exact
      · contradiction
  | announced m hasMention =>
      obtain ⟨waits, ⟨⟩⟩ := Option.ite_none_right_eq_some.mp stepped
      exact announced_step inv waits hasMention exact
  | fetchUnreads =>
      cases stepped
      refine inv.asking ?_
      intro request listed tables answered
      obtain old | new := List.mem_append.mp listed
      · exact inv.read request old tables answered
      · rw [List.mem_singleton.mp new] at answered
        contradiction
  | unreadsRead i =>
      simp only [step] at stepped
      split at stepped
      · cases stepped
        refine inv.asking ?_
        intro request listed tables answered
        obtain old | rfl := List.mem_or_eq_of_mem_set listed
        · exact inv.read request old tables answered
        · cases answered
          exact ⟨fun m member => member, fun t ck => ⟨inv.unmuted t ck, rfl⟩⟩
      · contradiction
  | unreadsAnswered i =>
      simp only [step] at stepped
      split at stepped
      · rename_i tables request
        cases stepped
        exact answered_step inv request exact
      · contradiction
  | unreadsFailed i =>
      obtain ⟨_, ⟨⟩⟩ := Option.ite_none_right_eq_some.mp stepped
      refine inv.asking ?_
      exact fun request listed => inv.read request (List.mem_of_mem_eraseIdx listed)
  | markAllRead =>
      cases stepped
      exact markAllRead_step inv
  | markBegun i now =>
      simp only [step] at stepped
      split at stepped
      · cases stepped
        refine inv.marking fun none => ?_
        exact inv.settled ((List.set_eq_nil_iff ..).mp none)
      · contradiction
  | contactsMarked i =>
      simp only [step] at stepped
      split at stepped
      · rename_i now begun
        cases stepped
        refine updated_step inv rfl (contactsMarkAllRead_rows s.tables now) (exact now begun) ?_
        intro none m hidden
        rw [inv.settled ((List.set_eq_nil_iff ..).mp none)] at hidden
        cases hidden
      · contradiction
  | channelsMarked i =>
      simp only [step] at stepped
      split at stepped
      · rename_i now marked
        cases stepped
        obtain ⟨spares, last⟩ := exact now marked
        exact updated_step inv rfl (channelsMarkAllRead_rows s.tables s.adopted now) spares
          fun none => last (erased_nil marked none)
      · contradiction
  | markFailed i =>
      obtain ⟨within, ⟨⟩⟩ := Option.ite_none_right_eq_some.mp stepped
      exact inv.marking fun none => exact (erased_nil (List.getElem?_eq_getElem within) none)

/-- With every event delivered and no badge cleared, what is counted is what is unread. -/
theorem counted_announced (silent : s.unannounced = []) (uncleared : s.cleared = []) :
    counted s = unreadOf s.tables := by
  funext t ck
  rw [counted, silent, uncleared]
  exact List.filter_eq_self.mpr (by simp)

theorem loaded_invariant (loaded : Loaded name s) : Invariant s := by
  obtain ⟨requests, _, silent⟩ := loaded.quiet
  have unmuted : ∀ t ck, muted s.tables t ck = false := by
    intro t ck
    cases t with
    | priv => rfl
    | chan =>
        rw [muted, Option.any_eq_false]
        intro row found
        simp [loaded.unmuted ck row found]
  refine ⟨unmuted, ?_, ?_, ?_, fun _ => loaded.uncleared, ?_, ?_⟩
  · rw [silent]
    exact fun _ listed => (List.not_mem_nil listed).elim
  · rw [silent]
    exact List.nodup_nil
  · rw [loaded.uncleared]
    exact fun _ listed => (List.not_mem_nil listed).elim
  · rw [requests]
    exact fun _ listed => (List.not_mem_nil listed).elim
  rw [counted_announced silent loaded.uncleared]
  refine ⟨?_, ?_⟩
  · intro t ck
    rw [(loaded.agrees t ck).1, summary_counts unmuted]
  · intro t ck first
    rw [(loaded.agrees t ck).2, summary_first unmuted]

/-- At rest, the badges of every conversation are the server's. -/
theorem badges_agree (loaded : Loaded name first) (run : Reaches (step name) Exact first s)
    (quiet : Quiet s) : Agrees name s := by
  have inv : Invariant s := run.invariant step_spec (loaded_invariant loaded)
  obtain ⟨_, marks, silent⟩ := quiet
  have shows := inv.shows
  rw [counted_announced silent (inv.settled marks)] at shows
  exact shows.agree (applyUnreads_shows inv.unmuted)

section Examples

instance decidableKnown (tables : Tables) (m : Messages.Message) : Decidable (Known tables m) :=
  inferInstanceAs (Decidable (_ ∧ _))

instance decidableSpares (s : State) (tables : Tables) : Decidable (Spares s tables) :=
  inferInstanceAs (Decidable (∀ m ∈ s.tables.messages, _ → (_ ↔ _)))

instance decidableExact (s : State) : (event : Event) → Decidable (Exact s event)
  | .stored _ => inferInstanceAs (Decidable (_ ∧ _))
  | .announced _ _ => inferInstanceAs (Decidable (∀ other ∈ s.tables.messages, _ → _ → _ → _ → _))
  | .unreadsAnswered i =>
    match request : s.requests[i]? with
    | some ⟨some tables⟩ => decidable_of_iff (∀ m ∈ s.tables.messages,
        (isUnread tables m = true ↔ isUnread s.tables m = true ∧ m ∉ s.unannounced))
        (by simp [Exact, request])
    | some ⟨none⟩ => .isTrue (by simp [Exact, request])
    | none => .isTrue (by simp [Exact, request])
  | .contactsMarked i =>
    match mark : s.marks[i]? with
    | some (.begun now) => decidable_of_iff (Spares s (s.tables.contactsMarkAllRead now))
        (by simp [Exact, mark])
    | some .sent | some (.contactsMarked _) | none => .isTrue (by simp [Exact, mark])
  | .channelsMarked i =>
    match mark : s.marks[i]? with
    | some (.contactsMarked now) => decidable_of_iff
        (Spares s (s.tables.channelsMarkAllRead s.adopted now) ∧ (s.marks.length = 1 →
          ∀ m ∈ s.cleared, isUnread (s.tables.channelsMarkAllRead s.adopted now) m = false))
        (by simp [Exact, mark])
    | some .sent | some (.begun _) | none => .isTrue (by simp [Exact, mark])
  | .markFailed _ => inferInstanceAs (Decidable (_ → _))
  | .fetchUnreads | .unreadsRead _ | .unreadsFailed _ | .markAllRead | .markBegun _ _ => .isTrue trivial

def annaKey : Key := List.replicate 64 'a'

/-- A client with one contact and no message so far. -/
def newClient : State where
  badges := noBadges
  requests := []
  marks := []
  tables := ⟨[], List.nodup_nil, .empty, Dict.empty.set annaKey ⟨none⟩⟩
  adopted := fun _ => true
  unannounced := []
  cleared := []

theorem newClient_loaded : Loaded none newClient where
  quiet := ⟨rfl, rfl, rfl⟩
  uncleared := rfl
  unmuted := by rintro _ _ ⟨⟩
  agrees := fun _ _ => ⟨rfl, rfl⟩

def firstMessage : Messages.Message :=
  ⟨1, .priv, annaKey, "hello", some 1700000000, 1700000000, [], 0, none, false, none, some annaKey⟩

def secondMessage : Messages.Message :=
  ⟨2, .priv, annaKey, "there?", some 1700000009, 1700000009, [], 0, none, false, none, some annaKey⟩

/-- The second message comes while the server marks the first one as read. -/
theorem badges_agree_newClient :
    ∃ s, Loaded none newClient ∧ Reaches (step none) Exact newClient s ∧ Quiet s ∧ Agrees none s ∧
      s.badges.unreadCounts.get? (stateKey .priv annaKey) = some 1 ∧
      s.badges.firstUnreadIds.get? (stateKey .priv annaKey) = some (some 2) := by
  have ran : (executeWhere (step none) Exact newClient
      [.stored firstMessage, .fetchUnreads, .announced firstMessage false, .unreadsRead 0,
        .unreadsAnswered 0, .markAllRead, .markBegun 0 1700000005, .stored secondMessage,
        .contactsMarked 0, .announced secondMessage false, .channelsMarked 0]).any (fun s =>
      s.requests.isEmpty && s.marks.isEmpty && s.unannounced.isEmpty &&
        decide (s.badges.unreadCounts.get? (stateKey .priv annaKey) = some 1 ∧
          s.badges.firstUnreadIds.get? (stateKey .priv annaKey) = some (some 2))) = true := by
    decide +kernel
  obtain ⟨s, executed, holds⟩ := (Option.any_eq_true _ _).mp ran
  simp only [Bool.and_eq_true, List.isEmpty_iff, decide_eq_true_eq] at holds
  obtain ⟨⟨⟨requests, marks⟩, silent⟩, counted⟩ := holds
  have run := executeWhere_reaches executed
  exact ⟨s, newClient_loaded, run, ⟨requests, marks, silent⟩,
    badges_agree newClient_loaded run ⟨requests, marks, silent⟩, counted⟩

/-- The answer has the message already when its event raises the count. -/
theorem refreshed_message_counted_twice :
    ¬ ∀ name first s, Loaded name first → Reaches (step name) Any first s → Quiet s →
      Agrees name s := by
  intro claim
  have ran : (execute (step none) newClient
      [.stored firstMessage, .fetchUnreads, .unreadsRead 0, .unreadsAnswered 0,
        .announced firstMessage false]).any (fun s =>
      s.requests.isEmpty && s.marks.isEmpty && s.unannounced.isEmpty &&
        decide (s.badges.unreadCounts.get? (stateKey .priv annaKey) ≠
          (getUnreadCounts s.tables none [] []).counts.get? (stateKey .priv annaKey))) = true := by
    decide +kernel
  obtain ⟨s, executed, holds⟩ := (Option.any_eq_true _ _).mp ran
  simp only [Bool.and_eq_true, List.isEmpty_iff, decide_eq_true_eq] at holds
  obtain ⟨⟨⟨requests, marks⟩, silent⟩, differs⟩ := holds
  have agrees := claim none newClient s newClient_loaded (execute_reaches executed)
    ⟨requests, marks, silent⟩
  exact differs (agrees .priv annaKey).1

end Examples

end Meshloom.Frontend.UnreadBadges
