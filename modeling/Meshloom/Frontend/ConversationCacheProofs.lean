import Meshloom.Frontend.ConversationCache

/-! The cache stays small and consistent, evicts the conversation that was used longest
ago, and cuts an entry at the right place, along every run without ties at a cut and
without a merge into an entry that is not the last one used. -/
namespace Meshloom.Frontend.ConversationCache
open StableSort Transition
variable {s : State} {cache : Cache}

structure Wellformed (entry : InternalEntry) : Prop where
  short : entry.messages.length ≤ maxMessagesPerEntry
  distinct : (entry.messages.map Message.id).Nodup
  keys : entry.contentKeys = contentKeysOf entry.messages

/-- The kept messages are the greatest of all, and the cursor for the older page lies
behind each one that was left out. -/
structure Greatest (kept all : List Message) : Prop where
  count : kept.length = maxMessagesPerEntry
  members : ∀ message ∈ kept, message ∈ all
  above : ∀ message ∈ kept, ∀ dropped ∈ all, dropped ∉ kept → dropped.Before message
  cursor : ∃ oldest ∈ kept, oldestMessage kept = some oldest ∧
    ∀ dropped ∈ all, dropped ∉ kept → dropped.Before oldest

/-- Of the messages that arrived in one second, those that do not fit behind the newer
ones have smaller ids than those that do. -/
def TieSafe (all : List Message) : Prop :=
  ∀ second,
    ∀ kept ∈ (ties Message.receivedAt all second).take
      (room Message.receivedAt maxMessagesPerEntry all second),
    ∀ dropped ∈ (ties Message.receivedAt all second).drop
      (room Message.receivedAt maxMessagesPerEntry all second), dropped.id < kept.id

/-- The lists that are set have distinct ids. -/
def Distinct : Op → Prop
  | .set _ entry => (entry.messages.map Message.id).Nodup
  | _ => True

/-- No tie at a cut, and an entry that another one is merged into was the last one used. -/
def Sound (cache : Cache) (op : Op) : Prop :=
  (∀ id all, normalized cache op = some (id, all) → maxMessagesPerEntry < all.length → TieSafe all) ∧
    match op with
    | .rename oldId newId => oldId ≠ newId → oldId ∈ cache.keys → newId ∈ cache.keys →
        (cache.pop oldId).keys.getLast? = some newId
    | _ => True

/-- A step of the runs that are covered. -/
def Allowed (s : State) (op : Op) : Prop := Distinct op ∧ Sound s.cache op

structure Invariant (s : State) : Prop where
  few : s.cache.size ≤ maxCachedConversations
  wellformed : ∀ id entry, s.cache.get? id = some entry → Wellformed entry
  ordered : s.cache.keys.Pairwise fun a b => s.used a < s.used b
  past : ∀ id, s.used id ≤ s.clock

theorem oldestMessage_mem {messages : List Message} (nonempty : messages ≠ []) :
    ∃ oldest ∈ messages, oldestMessage messages = some oldest := by
  have scan : ∀ (older : Option Message → Message → Option Message),
      (∀ oldest msg, older (some oldest) msg =
        if msg.Before oldest then some msg else some oldest) →
      ∀ (rest : List Message) (oldest : Message), ∃ found, (found = oldest ∨ found ∈ rest) ∧
        rest.foldl older (some oldest) = some found := by
    intro older keeps rest
    induction rest with
    | nil => exact fun oldest => ⟨oldest, .inl rfl, rfl⟩
    | cons msg rest ih =>
        intro oldest
        by_cases earlier : msg.Before oldest
        · obtain ⟨found, place, eq⟩ := ih msg
          refine ⟨found, .inr ?_, by simpa [keeps, earlier] using eq⟩
          obtain rfl | member := place
          · exact List.mem_cons_self
          · exact List.mem_cons_of_mem _ member
        · obtain ⟨found, place, eq⟩ := ih oldest
          refine ⟨found, place.imp_right (List.mem_cons_of_mem _), by simpa [keeps, earlier] using eq⟩
  cases messages with
  | nil => contradiction
  | cons first rest =>
      have seen : ∃ found, (found = first ∨ found ∈ rest) ∧
          oldestMessage (first :: rest) = some found := by
        refine scan _ ?_ rest first
        exact fun _ _ => rfl
      obtain ⟨found, place, eq⟩ := seen
      refine ⟨found, ?_, eq⟩
      obtain rfl | member := place
      · exact List.mem_cons_self
      · exact List.mem_cons_of_mem _ member

theorem normalizeEntry_wellformed (hasOlder : Bool)
    (distinct : (messages.map Message.id).Nodup) : Wellformed (normalizeEntry ⟨messages, hasOlder⟩) := by
  unfold normalizeEntry
  split
  · refine ⟨?_, ?_, rfl⟩
    · exact (List.length_take_le _ _)
    · have sorted := (sortFalling_perm Message.receivedAt messages).map Message.id
      exact ((List.take_sublist _ _).map _).nodup (sorted.nodup_iff.mpr distinct)
  · rename_i short
    exact ⟨Nat.not_lt.mp short, distinct, rfl⟩

/-- The cut is at the right place exactly when no tie is cut the wrong way. -/
theorem greatest_iff {all : List Message} (hasOlder : Bool)
    (distinct : (all.map Message.id).Nodup) (long : maxMessagesPerEntry < all.length) :
    Greatest (normalizeEntry ⟨all, hasOlder⟩).messages all ↔ TieSafe all := by
  set kept := (sortFalling Message.receivedAt all).take maxMessagesPerEntry with keptEq
  set cut := (sortFalling Message.receivedAt all).drop maxMessagesPerEntry with cutEq
  have entry : (normalizeEntry ⟨all, hasOlder⟩).messages = kept := by
    simp only [normalizeEntry, if_pos (show all.length > maxMessagesPerEntry from long)]
    rfl
  have perm := sortFalling_perm Message.receivedAt all
  have whole : kept ++ cut = sortFalling Message.receivedAt all := List.take_append_drop _ _
  have apart : ((kept ++ cut).map Message.id).Nodup := by
    rw [whole]
    exact (perm.map _).nodup_iff.mpr distinct
  rw [List.map_append, List.nodup_append] at apart
  have different (message dropped : Message) (inside : message ∈ kept) (outside : dropped ∈ cut) :
      message.id ≠ dropped.id :=
    apart.2.2 _ (List.mem_map.mpr ⟨_, inside, rfl⟩) _ (List.mem_map.mpr ⟨_, outside, rfl⟩)
  have left_out (dropped : Message) : dropped ∈ all ∧ dropped ∉ kept ↔ dropped ∈ cut := by
    rw [← perm.mem_iff, ← whole, List.mem_append]
    constructor
    · rintro ⟨inside | outside, absent⟩
      · exact (absent inside).elim
      · exact outside
    · intro outside
      exact ⟨.inr outside, fun inside => different _ _ inside outside rfl⟩
  rw [entry]
  constructor
  · intro greatest second message inside dropped outside
    have time := List.mem_of_mem_take inside
    have time' := List.mem_of_mem_drop outside
    simp only [ties, List.mem_filter, decide_eq_true_eq] at time time'
    obtain ⟨_, rfl⟩ := time
    have stays : message ∈ kept := (mem_take_iff Message.receivedAt).mpr inside
    rw [← time'.2] at outside
    have goes : dropped ∈ cut := (mem_drop_iff Message.receivedAt).mpr outside
    obtain ⟨listed, absent⟩ := (left_out dropped).mpr goes
    have before := greatest.above message stays dropped listed absent
    simp only [Message.Before] at before
    omega
  · intro safe
    have above (message : Message) (inside : message ∈ kept) (dropped : Message)
        (listed : dropped ∈ all) (absent : dropped ∉ kept) : dropped.Before message := by
      have outside := (left_out dropped).mp ⟨listed, absent⟩
      have le := key_le_of_cut Message.receivedAt all inside outside
      obtain earlier | tie := lt_or_eq_of_le le
      · exact .inl earlier
      · refine .inr ⟨tie, ?_⟩
        have outside' := (mem_drop_iff Message.receivedAt).mp outside
        rw [tie] at outside'
        exact safe _ message ((mem_take_iff Message.receivedAt).mp inside) dropped outside'
    have count : kept.length = maxMessagesPerEntry := by
      rw [keptEq, List.length_take, perm.length_eq]
      omega
    have nonempty : kept ≠ [] := by
      intro empty
      rw [empty] at count
      contradiction
    obtain ⟨oldest, member, found⟩ := oldestMessage_mem nonempty
    refine ⟨count, ?_, above, oldest, member, found, above oldest member⟩
    intro message inside
    exact perm.mem_iff.mp (List.mem_of_mem_take inside)

section Keys
variable {id : String} {entry : InternalEntry}

theorem keys_refresh : (cache.refresh id entry).keys = (cache.pop id).keys ++ [id] :=
  Dict.keys_set_absent (by simp)

theorem get?_refresh (other : String) :
    (cache.refresh id entry).get? other = if other = id then some entry else cache.get? other := by
  simp only [Cache.refresh, Dict.get?_set, Dict.get?_pop]
  split <;> rfl

theorem keys_pop_sublist (cache : Cache) (id : String) : (cache.pop id).keys.Sublist cache.keys := by
  rw [Dict.keys_pop]
  exact List.filter_sublist

theorem notMem_keys_pop (cache : Cache) (id : String) : id ∉ (cache.pop id).keys := by
  simp [Dict.keys_pop]

theorem evict_cases (cache : Cache) : cache.evict = cache ∧ cache.size ≤ maxCachedConversations ∨
    ∃ oldest rest, cache.keys = oldest :: rest ∧ cache.evict = cache.pop oldest ∧
      maxCachedConversations < cache.size := by
  unfold Cache.evict
  split
  · rename_i many
    right
    cases found : cache.first? with
    | none =>
        have empty := Dict.head?_keys cache
        rw [found, Option.map_none, List.head?_eq_none_iff] at empty
        rw [← Dict.length_keys, empty] at many
        contradiction
    | some first =>
        have head := Dict.head?_keys cache
        rw [found, Option.map_some] at head
        obtain ⟨rest, eq⟩ := List.head?_eq_some_iff.mp head
        exact ⟨first.1, rest, eq, rfl, many⟩
  · exact .inl ⟨rfl, Nat.not_lt.mp ‹_›⟩

theorem keys_evict_sublist (cache : Cache) : cache.evict.keys.Sublist cache.keys := by
  obtain ⟨same, _⟩ | ⟨oldest, rest, _, popped, _⟩ := evict_cases cache
  · rw [same]
  · rw [popped]
    exact keys_pop_sublist _ _

theorem size_evict (bound : cache.size ≤ maxCachedConversations + 1) :
    cache.evict.size ≤ maxCachedConversations := by
  obtain ⟨same, few⟩ | ⟨oldest, rest, eq, popped, many⟩ := evict_cases cache
  · rwa [same]
  · have fewer : ((oldest :: rest).filter fun other => other ≠ oldest).length ≤ rest.length := by
      simpa using List.length_filter_le _ rest
    rw [popped, ← Dict.length_keys, Dict.keys_pop, eq]
    rw [← Dict.length_keys, eq, List.length_cons] at bound
    omega

/-- The last entry is not the one that goes. -/
theorem get?_evict_last {keys : List String} (last : cache.keys = keys ++ [id])
    (fresh : id ∉ keys) : cache.evict.get? id = cache.get? id := by
  obtain ⟨same, _⟩ | ⟨oldest, rest, eq, popped, many⟩ := evict_cases cache
  · rw [same]
  · have different : id ≠ oldest := by
      rintro rfl
      cases keys with
      | nil =>
          rw [← Dict.length_keys, last] at many
          simp [maxCachedConversations] at many
      | cons key keys =>
          rw [last, List.cons_append, List.cons.injEq] at eq
          exact fresh (eq.1 ▸ List.mem_cons_self)
    rw [popped, Dict.get?_pop, if_neg different]

theorem get?_evict (kept : cache.evict.get? id = some entry) : cache.get? id = some entry := by
  obtain ⟨same, _⟩ | ⟨oldest, rest, _, popped, _⟩ := evict_cases cache
  · rwa [same] at kept
  · rw [popped, Dict.get?_pop] at kept
    split at kept
    · contradiction
    · exact kept

/-- What goes was used before all that stay. -/
theorem evicted_oldest {used : String → Nat} (ordered : cache.keys.Pairwise fun a b => used a < used b)
    (listed : id ∈ cache.keys) (gone : id ∉ cache.evict.keys) (other : String)
    (stays : other ∈ cache.evict.keys) : used id < used other := by
  obtain ⟨same, _⟩ | ⟨oldest, rest, eq, popped, _⟩ := evict_cases cache
  · rw [same] at gone
    exact (gone listed).elim
  · have first : id = oldest := by
      by_contra different
      rw [popped, Dict.keys_pop] at gone
      exact gone (List.mem_filter.mpr ⟨listed, by simpa using different⟩)
    subst first
    rw [popped, Dict.keys_pop, eq] at stays
    rw [eq] at ordered
    obtain ⟨member, different⟩ := List.mem_filter.mp stays
    obtain rfl | later := List.mem_cons.mp member
    · simp at different
    · exact (List.pairwise_cons.mp ordered).1 other later

end Keys

section Messages
variable (messages : List Message)

theorem map_contentKey_acknowledgeFirst (messageId : Int) (update : AckUpdate) :
    (acknowledgeFirst messageId update messages).map getMessageContentKey =
      messages.map getMessageContentKey := by
  induction messages with
  | nil => rfl
  | cons message rest ih =>
      simp only [acknowledgeFirst]
      split
      · rfl
      · rw [List.map_cons, List.map_cons, ih]

theorem Wellformed.acknowledge {entry : InternalEntry} (wellformed : Wellformed entry)
    (messageId : Int) (update : AckUpdate) : Wellformed { entry with
      messages := acknowledgeFirst messageId update entry.messages } := by
  obtain ⟨short, distinct, keys⟩ := wellformed
  have length := congrArg List.length (map_id_acknowledgeFirst entry.messages messageId update)
  rw [List.length_map, List.length_map] at length
  refine ⟨length ▸ short, ?_, ?_⟩
  · rw [map_id_acknowledgeFirst]
    exact distinct
  · rw [contentKeysOf, map_contentKey_acknowledgeFirst]
    exact keys

theorem mergeMessages_distinct (distinct : (merged.map Message.id).Nodup) (other : List Message) :
    ((Cache.mergeMessages merged other).map Message.id).Nodup := by
  induction other generalizing merged with
  | nil => exact distinct
  | cons message rest ih =>
      rw [Cache.mergeMessages, List.foldl_cons]
      split
      · exact ih distinct
      · rename_i fresh
        refine ih ?_
        rw [List.map_append, List.nodup_append]
        exact ⟨distinct, by simp, by rintro a member b single rfl; simp at single; exact fresh (single ▸ member)⟩

theorem append_distinct {messages : List Message} (distinct : (messages.map Message.id).Nodup) {msg : Message}
    (fresh : ¬ messages.any (·.id = msg.id) = true) : ((messages ++ [msg]).map Message.id).Nodup := by
  rw [List.map_append, List.nodup_append]
  refine ⟨distinct, by simp, ?_⟩
  rintro a member b single rfl
  obtain ⟨other, listed, rfl⟩ := List.mem_map.mp member
  simp only [List.map_cons, List.map_nil, List.mem_singleton] at single
  exact fresh (List.any_eq_true.mpr ⟨other, listed, by simpa using single⟩)

end Messages

section Moves
variable {id : String} {entry : InternalEntry}

/-- How an operation moves keys: it drops some, and the one it uses becomes the last. -/
inductive Moves (cache next : Cache) : Option String → Prop where
  | keeps (within : next.keys.Sublist cache.keys) : Moves cache next none
  | uses {id : String} {k : List String} (sub : k.Sublist cache.keys) (fresh : id ∉ k)
      (within : next.keys.Sublist (k ++ [id])) : Moves cache next (some id)

theorem moves_refresh (id : String) (entry : InternalEntry) :
    Moves cache (cache.refresh id entry) (some id) :=
  .uses (keys_pop_sublist cache id) (notMem_keys_pop cache id) (by rw [keys_refresh])

theorem Moves.evict {next : Cache} (moves : Moves cache next used) : Moves cache next.evict used := by
  cases moves with
  | keeps within => exact .keeps ((keys_evict_sublist _).trans within)
  | uses sub fresh within => exact .uses sub fresh ((keys_evict_sublist _).trans within)

theorem holder_get? {messageId : Int} (found : cache.holder messageId = some (id, entry)) :
    cache.get? id = some entry :=
  (Dict.mem_iff_get? cache).mp (List.mem_of_find?_eq_some found)

theorem keys_set_held {messageId : Int} (found : cache.holder messageId = some (id, entry))
    (next : InternalEntry) : (cache.set id next).keys = cache.keys :=
  Dict.keys_set_present (Dict.mem_keys_iff.mpr ⟨entry, holder_get? found⟩)

/-- A message starts an entry, is refused, or is appended to an entry. -/
theorem addMessage_cases (cache : Cache) (id : String) (msg : Message) :
    (cache.get? id = none ∧ cache.addMessage id msg =
      (Cache.evict (cache.set id ⟨⟨[msg], true⟩, {getMessageContentKey msg}⟩), true)) ∨
    ∃ entry, cache.get? id = some entry ∧ (cache.addMessage id msg = (cache, false) ∨
      ¬ entry.messages.any (·.id = msg.id) = true ∧ cache.addMessage id msg =
        (cache.refresh id (normalizeEntry ⟨entry.messages ++ [msg], entry.hasOlderMessages⟩), true)) := by
  unfold Cache.addMessage
  split
  · rename_i absent
    exact .inl ⟨absent, rfl⟩
  · rename_i entry found
    refine .inr ⟨entry, found, ?_⟩
    split
    · exact .inl rfl
    split
    · exact .inl rfl
    · rename_i fresh
      exact .inr ⟨fresh, rfl⟩

theorem moves_addMessage (id : String) (msg : Message) :
    Moves cache (cache.addMessage id msg).1 (uses cache (.addMessage id msg)) := by
  obtain ⟨absent, eq⟩ | ⟨entry, _, eq | ⟨_, eq⟩⟩ := addMessage_cases cache id msg
  · simp only [uses, eq, if_true]
    refine Moves.evict (.uses (List.Sublist.refl _) (Dict.notMem_keys_iff.mpr absent) ?_)
    rw [Dict.keys_set_absent absent]
  · simp only [uses, eq, Bool.false_eq_true, if_false]
    exact .keeps (List.Sublist.refl _)
  · simp only [uses, eq, if_true]
    exact moves_refresh _ _

theorem moves_rename (sound : Sound cache (.rename oldId newId)) :
    Moves cache (cache.rename oldId newId) (uses cache (.rename oldId newId)) := by
  have last := sound.2
  simp only [uses, Cache.rename]
  by_cases same : oldId = newId
  · rw [if_pos same, if_neg (by simp [same])]
    exact .keeps (List.Sublist.refl _)
  rw [if_neg same]
  cases found : cache.get? oldId with
  | none =>
      simp only [Option.isSome_none, Bool.false_eq_true, and_false, if_false]
      exact .keeps (List.Sublist.refl _)
  | some oldEntry =>
      have oldKey := Dict.mem_keys_iff.mpr ⟨oldEntry, found⟩
      rw [if_pos ⟨same, rfl⟩]
      cases target : cache.get? newId with
      | none =>
          have absent : (cache.pop oldId).get? newId = none := by
            rw [Dict.get?_pop, target, ite_self]
          refine .uses (keys_pop_sublist cache oldId) (Dict.notMem_keys_iff.mpr absent) ?_
          rw [Dict.keys_set_absent absent]
      | some newEntry =>
          have newKey := Dict.mem_keys_iff.mpr ⟨newEntry, target⟩
          have final := last same oldKey newKey
          have present : newId ∈ (cache.pop oldId).keys := List.mem_of_mem_getLast? final
          obtain ⟨ks, eq⟩ := List.getLast?_eq_some_iff.mp final
          have nodup : ((cache.pop oldId).keys).Nodup := (cache.pop oldId).nodup
          rw [eq, List.nodup_append] at nodup
          refine Moves.uses (k := ks) ?_ ?_ ?_
          · exact (eq ▸ List.sublist_append_left ks [newId]).trans (keys_pop_sublist cache oldId)
          · intro member
            exact nodup.2.2 _ member _ List.mem_cons_self rfl
          · rw [Dict.keys_set_present present, eq]

theorem apply_moves (sound : Sound cache op) : Moves cache (apply cache op) (uses cache op) := by
  cases op with
  | get id =>
      simp only [apply, Cache.get, uses]
      cases found : cache.get? id with
      | none => exact .keeps (List.Sublist.refl _)
      | some entry => exact moves_refresh id entry
  | peek id => exact .keeps (List.Sublist.refl _)
  | set id entry => exact (moves_refresh id _).evict
  | addMessage id msg => exact moves_addMessage id msg
  | updateAck messageId update =>
      simp only [apply, Cache.updateAck, uses]
      split
      · exact .keeps (List.Sublist.refl _)
      · rename_i found
        exact .keeps (by rw [keys_set_held found])
  | remove id => exact .keeps (keys_pop_sublist cache id)
  | rename oldId newId => exact moves_rename sound
  | removeMessage messageId =>
      simp only [apply, Cache.removeMessage, uses]
      split
      · exact .keeps (List.Sublist.refl _)
      · rename_i found
        exact .keeps (by rw [keys_set_held found])
  | clear => exact .keeps (List.nil_sublist _)

end Moves

theorem size_rename_le : (cache.rename oldId newId).size ≤ cache.size := by
  simp only [Cache.rename]
  split
  · exact le_rfl
  split
  · exact le_rfl
  rename_i different _ oldEntry found
  have oldKey := Dict.mem_keys_iff.mpr ⟨oldEntry, found⟩
  have smaller : (cache.pop oldId).keys.length < cache.keys.length := by
    rw [Dict.keys_pop]
    exact List.length_filter_lt_length_iff_exists.mpr ⟨oldId, oldKey, by simp⟩
  simp only [← Dict.length_keys]
  split
  · rename_i absent
    rw [Dict.keys_set_absent (by rw [Dict.get?_pop, absent, ite_self]), List.length_append]
    simp only [List.length_cons, List.length_nil]
    omega
  · rename_i newEntry present
    rw [Dict.keys_set_present]
    · omega
    · rw [Dict.mem_keys_iff]
      exact ⟨newEntry, by rw [Dict.get?_pop, if_neg (Ne.symm different), present]⟩

/-- The times of use after an operation at a time. -/
def usedAfter (used : String → Nat) (clock : Nat) (use : Option String) (id : String) : Nat :=
  if use = some id then clock + 1 else used id

/-- The order of the keys stays the order of use. -/
theorem Moves.ordered {used : String → Nat} {clock : Nat} {next : Cache}
    (moves : Moves cache next use) (ordered : cache.keys.Pairwise fun a b => used a < used b)
    (past : ∀ id, used id ≤ clock) :
    next.keys.Pairwise fun a b => usedAfter used clock use a < usedAfter used clock use b := by
  cases moves with
  | keeps within => exact List.Pairwise.sublist within (by simpa [usedAfter] using ordered)
  | @uses id k sub fresh within =>
      refine List.Pairwise.sublist within (List.pairwise_append.mpr ⟨?_, by simp, ?_⟩)
      · refine (ordered.sublist sub).imp_of_mem ?_
        intro a b left right less
        have first : id ≠ a := fun same => fresh (same ▸ left)
        have second : id ≠ b := fun same => fresh (same ▸ right)
        simpa [usedAfter, first, second] using less
      · intro a left b right
        obtain rfl := List.mem_singleton.mp right
        have first : b ≠ a := fun same => fresh (same ▸ left)
        simpa [usedAfter, first] using Nat.lt_succ_of_le (past a)

theorem size_refresh_le (cache : Cache) (id : String) (entry : InternalEntry) :
    (cache.refresh id entry).size ≤ cache.size + 1 := by
  have popped := cache.size_pop_le id
  exact (Dict.size_set_le _ id entry).trans (by omega)

theorem size_refresh_present {id : String} (present : cache.get? id = some old) (entry : InternalEntry) :
    (cache.refresh id entry).size ≤ cache.size := by
  have key := Dict.mem_keys_iff.mpr ⟨old, present⟩
  have popped : (cache.pop id).keys.length < cache.keys.length := by
    rw [Dict.keys_pop]
    exact List.length_filter_lt_length_iff_exists.mpr ⟨id, key, by simp⟩
  have grown := Dict.size_set_le (cache.pop id) id entry
  rw [← Dict.length_keys (cache.pop id)] at grown
  rw [← Dict.length_keys cache]
  exact grown.trans popped

theorem size_apply_le (few : cache.size ≤ maxCachedConversations) (op : Op) :
    (apply cache op).size ≤ maxCachedConversations := by
  cases op with
  | get id =>
      simp only [apply, Cache.get]
      cases found : cache.get? id with
      | none => exact few
      | some entry => exact (size_refresh_present found entry).trans few
  | peek id => exact few
  | set id entry => exact size_evict ((size_refresh_le cache id _).trans (by omega))
  | addMessage id msg =>
      simp only [apply]
      obtain ⟨absent, eq⟩ | ⟨entry, found, eq | ⟨_, eq⟩⟩ := addMessage_cases cache id msg
      · rw [eq]
        exact size_evict ((Dict.size_set_le cache id _).trans (by omega))
      · rw [eq]
        exact few
      · rw [eq]
        exact (size_refresh_present found _).trans few
  | updateAck messageId update =>
      simp only [apply, Cache.updateAck]
      split
      · exact few
      · rename_i found
        rwa [← Dict.length_keys, keys_set_held found, Dict.length_keys]
  | remove id => exact (cache.size_pop_le id).trans few
  | rename oldId newId => exact size_rename_le.trans few
  | removeMessage messageId =>
      simp only [apply, Cache.removeMessage]
      split
      · exact few
      · rename_i found
        rwa [← Dict.length_keys, keys_set_held found, Dict.length_keys]
  | clear => exact Nat.zero_le _

/-- Every entry of a cache is well formed. -/
def AllWellformed (cache : Cache) : Prop := ∀ id entry, cache.get? id = some entry → Wellformed entry

theorem AllWellformed.pop (all : AllWellformed cache) (id : String) : AllWellformed (cache.pop id) := by
  intro other entry found
  rw [Dict.get?_pop] at found
  split at found
  · contradiction
  · exact all other entry found

theorem AllWellformed.set (all : AllWellformed cache) (wellformed : Wellformed next) (id : String) :
    AllWellformed (cache.set id next) := by
  intro other entry found
  rw [Dict.get?_set] at found
  split at found
  · cases found
    exact wellformed
  · exact all other entry found

theorem AllWellformed.evict (all : AllWellformed cache) : AllWellformed cache.evict :=
  fun id entry found => all id entry (get?_evict found)

theorem wellformed_apply (all : AllWellformed cache) (distinct : Distinct op) :
    AllWellformed (apply cache op) := by
  cases op with
  | get id =>
      simp only [apply, Cache.get]
      cases found : cache.get? id with
      | none => exact all
      | some entry => exact (all.pop id).set (all id entry found) id
  | peek id => exact all
  | set id entry => exact ((all.pop id).set (normalizeEntry_wellformed _ distinct) id).evict
  | addMessage id msg =>
      simp only [apply]
      obtain ⟨absent, eq⟩ | ⟨entry, found, eq | ⟨fresh, eq⟩⟩ := addMessage_cases cache id msg
      · rw [eq]
        refine (all.set ⟨by simp [maxMessagesPerEntry], by simp, ?_⟩ id).evict
        simp [contentKeysOf]
      · rw [eq]
        exact all
      · rw [eq]
        exact (all.pop id).set
          (normalizeEntry_wellformed _ (append_distinct (all id entry found).distinct fresh)) id
  | updateAck messageId update =>
      simp only [apply, Cache.updateAck]
      split
      · exact all
      · rename_i id entry found
        exact all.set ((all id entry (holder_get? found)).acknowledge messageId update) id
  | remove id => exact all.pop id
  | rename oldId newId =>
      simp only [apply, Cache.rename]
      split
      · exact all
      split
      · exact all
      rename_i oldEntry found
      split
      · exact (all.pop oldId).set (all oldId oldEntry found) newId
      · rename_i newEntry target
        exact (all.pop oldId).set (normalizeEntry_wellformed _
          (mergeMessages_distinct (all newId newEntry target).distinct _)) newId
  | removeMessage messageId =>
      simp only [apply, Cache.removeMessage]
      split
      · exact all
      · rename_i id entry found
        refine all.set (normalizeEntry_wellformed _ ?_) id
        exact (List.filter_sublist.map _).nodup (all id entry (holder_get? found)).distinct
  | clear =>
      intro id entry found
      contradiction

theorem step_invariant (inv : Invariant s) (allowed : Allowed s op) (stepped : step s op = some t) :
    Invariant t := by
  cases stepped
  refine ⟨size_apply_le inv.few op, wellformed_apply inv.wellformed allowed.1,
    (apply_moves allowed.2).ordered inv.ordered inv.past, ?_⟩
  intro id
  simp only
  split
  · exact le_rfl
  · exact (inv.past id).trans (Nat.le_succ _)

theorem initial_invariant : Invariant initial :=
  ⟨Nat.zero_le _, fun _ _ found => by contradiction, List.Pairwise.nil, fun _ => le_rfl⟩

/-- What a conversation that a step evicts and an entry that a step cuts must satisfy. -/
structure StepOk (s : State) (op : Op) (t : State) : Prop where
  evicts : (∃ id, (∃ entry, op = .set id entry) ∨ ∃ msg, op = .addMessage id msg) →
    ∀ gone ∈ s.cache.keys, gone ∉ t.cache.keys → ∀ other ∈ t.cache.keys, t.used gone < t.used other
  truncates : ∀ id all, normalized s.cache op = some (id, all) → maxMessagesPerEntry < all.length →
    ∃ entry, t.cache.get? id = some entry ∧ Greatest entry.messages all

theorem evicts_of_invariant (inv : Invariant s) (stepped : step s op = some t)
    (evicting : ∃ id, (∃ entry, op = .set id entry) ∨ ∃ msg, op = .addMessage id msg) :
    ∀ gone ∈ s.cache.keys, gone ∉ t.cache.keys → ∀ other ∈ t.cache.keys, t.used gone < t.used other := by
  cases stepped
  intro gone before after other stays
  have grown {full : Cache} {id : String} (moves : Moves s.cache full (some id))
      (applied : apply s.cache op = full.evict) (use : uses s.cache op = some id)
      (kept : gone ∈ full.keys) : usedAfter s.used s.clock (uses s.cache op) gone <
        usedAfter s.used s.clock (uses s.cache op) other := by
    rw [use]
    rw [applied] at after stays
    exact evicted_oldest (moves.ordered inv.ordered inv.past) kept after other stays
  have unevicted (kept : ∀ key ∈ s.cache.keys, key ∈ (apply s.cache op).keys) : False :=
    after (kept gone before)
  obtain ⟨id, ⟨entry, rfl⟩ | ⟨msg, rfl⟩⟩ := evicting
  · refine grown (moves_refresh id (normalizeEntry entry)) rfl rfl ?_
    rw [keys_refresh, Dict.keys_pop, List.mem_append, List.mem_filter, List.mem_singleton]
    by_cases same : gone = id
    · exact .inr same
    · exact .inl ⟨before, by simpa using same⟩
  · obtain ⟨absent, eq⟩ | ⟨entry, found, eq | ⟨_, eq⟩⟩ := addMessage_cases s.cache id msg
    · have keys := Dict.keys_set_absent absent
        (v := (⟨⟨[msg], true⟩, {getMessageContentKey msg}⟩ : InternalEntry))
      refine grown (.uses (List.Sublist.refl _) (Dict.notMem_keys_iff.mpr absent) (by rw [keys]))
        (by rw [apply, eq]) (by simp only [uses, eq, if_true]) ?_
      rw [keys]
      exact List.mem_append_left _ before
    · exact (unevicted (by rw [apply, eq]; exact fun _ member => member)).elim
    · refine (unevicted ?_).elim
      intro key member
      rw [apply, eq, keys_refresh, Dict.keys_pop, List.mem_append, List.mem_filter, List.mem_singleton]
      by_cases same : key = id
      · exact .inr same
      · exact .inl ⟨member, by simpa using same⟩

/-- What is handed to `normalizeEntry` has distinct ids, and the result is cached. -/
theorem normalized_cached {id : String} (all : AllWellformed cache) (distinct : Distinct op)
    (handed : normalized cache op = some (id, messages)) :
    (messages.map Message.id).Nodup ∧
      ∃ hasOlder, (apply cache op).get? id = some (normalizeEntry ⟨messages, hasOlder⟩) := by
  cases op with
  | set id entry =>
      cases handed
      refine ⟨distinct, entry.hasOlderMessages, ?_⟩
      rw [apply, Cache.setEntry, get?_evict_last keys_refresh (notMem_keys_pop _ _), get?_refresh,
        if_pos rfl]
  | addMessage id msg =>
      simp only [normalized] at handed
      obtain ⟨absent, eq⟩ | ⟨entry, found, eq | ⟨fresh, eq⟩⟩ := addMessage_cases cache id msg
      · rw [absent] at handed
        contradiction
      · simp only [found, eq, Bool.false_eq_true, if_false] at handed
        contradiction
      · simp only [found, eq, if_true, Option.some.injEq, Prod.mk.injEq] at handed
        obtain ⟨rfl, rfl⟩ := handed
        refine ⟨append_distinct (all _ entry found).distinct fresh, entry.hasOlderMessages, ?_⟩
        rw [apply, eq, get?_refresh, if_pos rfl]
  | rename oldId newId =>
      simp only [normalized] at handed
      split at handed
      · rename_i oldEntry newEntry found target
        split at handed
        · rename_i different
          cases handed
          refine ⟨mergeMessages_distinct (all _ newEntry target).distinct _,
            newEntry.hasOlderMessages || oldEntry.hasOlderMessages, ?_⟩
          simp only [apply, Cache.rename, if_neg different, found, target, Dict.get?_set, if_true]
        · contradiction
      · contradiction
  | removeMessage messageId =>
      simp only [normalized, Option.map_eq_some_iff] at handed
      obtain ⟨⟨holderId, entry⟩, found, eq⟩ := handed
      cases eq
      refine ⟨(List.filter_sublist.map _).nodup (all _ entry (holder_get? found)).distinct,
        entry.hasOlderMessages, ?_⟩
      simp only [apply, Cache.removeMessage, found, Dict.get?_set, if_true]
  | get | peek | updateAck | remove | clear => contradiction

theorem step_ok (inv : Invariant s) (allowed : Allowed s op) (stepped : step s op = some t) :
    StepOk s op t := by
  refine ⟨evicts_of_invariant inv stepped, ?_⟩
  intro id all handed long
  obtain ⟨distinct, hasOlder, cached⟩ := normalized_cached inv.wellformed allowed.1 handed
  cases stepped
  refine ⟨_, cached, (greatest_iff hasOlder distinct long).mpr ?_⟩
  exact allowed.2.1 id all handed long

/-- Along every run of the cache whose steps neither cut a tie the wrong way nor merge
into an entry that was not the last one used, the cache is small and consistent, what is
evicted was used longest ago, and what is cut off is older than what stays. -/
theorem cache_runs_sound (run : Reaches step Allowed initial s) :
    s.cache.size ≤ maxCachedConversations ∧
      (∀ id entry, s.cache.get? id = some entry → Wellformed entry) ∧
      ∀ op t, Allowed s op → step s op = some t → StepOk s op t := by
  have inv : Invariant s := run.invariant step_invariant initial_invariant
  exact ⟨inv.few, inv.wellformed, fun _ _ allowed stepped => step_ok inv allowed stepped⟩

/-- A list that cannot be cut right is not cut right. -/
theorem unsafe_cut {id : String} (all : AllWellformed s.cache) (distinct : Distinct (.set id entry))
    (long : maxMessagesPerEntry < entry.messages.length) (wrong : ¬ TieSafe entry.messages)
    (stepped : step s (.set id entry) = some t) : ¬ StepOk s (.set id entry) t := by
  intro ok
  obtain ⟨cachedEntry, found, greatest⟩ := ok.truncates id entry.messages rfl long
  obtain ⟨_, hasOlder, cached⟩ := normalized_cached all distinct rfl
  cases stepped
  cases found.symm.trans cached
  exact wrong ((greatest_iff hasOlder distinct long).mp greatest)

theorem late_eviction {id gone other : String} (before : gone ∈ s.cache.keys)
    (after : gone ∉ (apply s.cache (.addMessage id msg)).keys)
    (stays : other ∈ (apply s.cache (.addMessage id msg)).keys)
    (later : ¬ usedAfter s.used s.clock (uses s.cache (.addMessage id msg)) gone <
      usedAfter s.used s.clock (uses s.cache (.addMessage id msg)) other)
    (stepped : step s (.addMessage id msg) = some t) : ¬ StepOk s (.addMessage id msg) t := by
  intro ok
  cases stepped
  exact later (ok.evicts ⟨id, .inr ⟨msg, rfl⟩⟩ gone before after other stays)

/-- A channel message with a number for its id and its text. -/
def sampleMessage (id : Nat) : Message :=
  ⟨id, .chan, "C0FFEE", toString id, some 0, 0, none, none, 0, none, none, none⟩

/-- More messages of one second than an entry holds, in the order of their ids. -/
def burst : List Message := (List.range 201).map sampleMessage

/-- A list that falls by id, as the pages of the server do, is cut at the right place. -/
theorem tieSafe_of_falling {all : List Message} (falling : all.Pairwise fun a b => b.id < a.id) :
    TieSafe all := by
  intro second kept inside dropped outside
  have tied : (ties Message.receivedAt all second).Pairwise fun a b => b.id < a.id :=
    falling.sublist List.filter_sublist
  rw [← List.take_append_drop (room Message.receivedAt maxMessagesPerEntry all second)
    (ties Message.receivedAt all second), List.pairwise_append] at tied
  exact tied.2.2 kept inside dropped outside

theorem burst_falling : burst.reverse.Pairwise fun a b => b.id < a.id := by
  rw [List.pairwise_reverse, burst, List.pairwise_map]
  exact List.pairwise_lt_range.imp fun less => Int.ofNat_lt.mpr less

/-- A page that is set is cut right when it falls by id. -/
theorem setPage_allowed (s : State) (id : String) : Allowed s (.set id ⟨burst.reverse, false⟩) := by
  refine ⟨?_, ?_, trivial⟩
  · change (burst.reverse.map Message.id).Nodup
    rw [List.nodup_iff_pairwise_ne, List.pairwise_map]
    exact burst_falling.imp fun less => (Int.ne_of_lt less).symm
  · rintro _ _ ⟨⟩ _
    exact tieSafe_of_falling burst_falling

/-- A step that hands no long list to `normalizeEntry`, and merges into the entry that was used last. -/
def Short (s : State) (op : Op) : Prop :=
  (∀ handed ∈ normalized s.cache op, handed.2.length ≤ maxMessagesPerEntry) ∧
    match op with
    | .set _ _ => False
    | .rename oldId newId => (s.cache.pop oldId).keys.getLast? = some newId
    | _ => True

instance decidableShort (s : State) (op : Op) : Decidable (Short s op) :=
  @instDecidableAnd _ _ _ (match op with
    | .set _ _ => .isFalse id
    | .rename oldId newId => inferInstanceAs (Decidable ((s.cache.pop oldId).keys.getLast? = some newId))
    | .get _ | .peek _ | .addMessage _ _ | .updateAck _ _ | .remove _ | .removeMessage _ | .clear =>
      .isTrue trivial)

theorem Short.allowed (short : Short s op) : Allowed s op := by
  obtain ⟨fits, merges⟩ := short
  refine ⟨?_, fun id all handed long => absurd (fits (id, all) handed) (Nat.not_le.mpr long), ?_⟩
  · cases op with
    | set => exact merges.elim
    | get | peek | addMessage | updateAck | remove | rename | removeMessage | clear => trivial
  · cases op with
    | rename => exact fun _ _ _ => merges
    | get | peek | set | addMessage | updateAck | remove | removeMessage | clear => trivial

/-- A page that is cut, then nineteen conversations, the last of which takes over another one, and one
more. -/
def pageRun : List Op :=
  (List.range 19).map (fun n => .addMessage (toString n) (sampleMessage n)) ++
    [.rename "17" "18", .addMessage "19" (sampleMessage 19)]

/-- The page that was cut goes when the next one, which is cut too, comes in. -/
theorem cut_pages_sound :
    ∃ r s t, step initial (.set "C0FFEE" ⟨burst.reverse, false⟩) = some r ∧
      executeWhere step Short r pageRun = some s ∧
      step s (.set "BEEF" ⟨burst.reverse, false⟩) = some t ∧
      maxMessagesPerEntry < burst.reverse.length ∧
      "C0FFEE" ∈ s.cache.keys ∧ "C0FFEE" ∉ t.cache.keys ∧
      t.cache.size ≤ maxCachedConversations ∧
      (∀ id entry, t.cache.get? id = some entry → Wellformed entry) ∧
      StepOk initial (.set "C0FFEE" ⟨burst.reverse, false⟩) r ∧
      StepOk s (.set "BEEF" ⟨burst.reverse, false⟩) t := by
  have ran : ((step initial (.set "C0FFEE" ⟨burst.reverse, false⟩)).bind fun r =>
      (executeWhere step Short r pageRun).bind fun s =>
        (step s (.set "BEEF" ⟨burst.reverse, false⟩)).map fun t =>
          (decide ("C0FFEE" ∈ s.cache.keys), decide ("C0FFEE" ∈ t.cache.keys))) =
      some (true, false) := by
    decide +kernel
  obtain ⟨r, opened, ran⟩ := Option.bind_eq_some_iff.mp ran
  obtain ⟨s, run, ran⟩ := Option.bind_eq_some_iff.mp ran
  obtain ⟨t, replaced, facts⟩ := Option.map_eq_some_iff.mp ran
  simp only [Prod.mk.injEq, decide_eq_true_eq, decide_eq_false_iff_not] at facts
  have first : Reaches step Allowed initial r := .next (.refl _) (setPage_allowed _ _) opened
  have second : Reaches step Allowed initial s :=
    first.trans ((executeWhere_reaches run).weaken fun _ _ => Short.allowed)
  have third : Reaches step Allowed initial t := .next second (setPage_allowed _ _) replaced
  have long : maxMessagesPerEntry < burst.reverse.length := by
    simp [burst, maxMessagesPerEntry]
  exact ⟨r, s, t, opened, run, replaced, long, facts.1, facts.2, (cache_runs_sound third).1,
    (cache_runs_sound third).2.1,
    (cache_runs_sound (.refl _)).2.2 _ _ (setPage_allowed _ _) opened,
    (cache_runs_sound second).2.2 _ _ (setPage_allowed _ _) replaced⟩

theorem burst_unsafe : ¬ TieSafe burst := by
  have tied : ties Message.receivedAt burst 0 = burst := by
    rw [ties, List.filter_eq_self]
    intro message member
    obtain ⟨n, _, rfl⟩ := List.mem_map.mp member
    rfl
  have newest : (burst.filter fun message => 0 < message.receivedAt) = [] := by
    rw [List.filter_eq_nil_iff]
    intro message member
    obtain ⟨n, _, rfl⟩ := List.mem_map.mp member
    simp [sampleMessage]
  have whole : burst = (List.range maxMessagesPerEntry).map sampleMessage ++ [sampleMessage 200] := by
    rw [burst, maxMessagesPerEntry, List.range_succ, List.map_append]
    rfl
  have length : ((List.range maxMessagesPerEntry).map sampleMessage).length = maxMessagesPerEntry := by
    rw [List.length_map, List.length_range]
  intro safe
  have order := safe 0 (sampleMessage 0)
  rw [room, tied, newest, List.length_nil, Nat.sub_zero, whole, List.take_left' length,
    List.drop_left' length] at order
  have wrong := order (List.mem_map.mpr ⟨0, by simp [maxMessagesPerEntry], rfl⟩) (sampleMessage 200)
    (List.mem_singleton.mpr rfl)
  simp [sampleMessage] at wrong

/-- Twenty conversations, the last of which is merged into the first, and one more. -/
def mergeRun : List Op :=
  (List.range 20).map (fun n => .addMessage (toString n) (sampleMessage n)) ++
    [.rename "19" "0", .addMessage "20" (sampleMessage 20)]

/-- The state that it leads to. -/
def mergedState : State := mergeRun.foldl (fun s op => (step s op).getD s) initial

theorem mergedState_reached : Reaches step (fun _ op => Distinct op) initial mergedState := by
  have ran : ∀ (ops : List Op) (s : State),
      execute step s ops = some (ops.foldl (fun s op => (step s op).getD s) s) := by
    intro ops
    induction ops with
    | nil => exact fun _ => rfl
    | cons op rest ih => exact fun s => ih _
  refine execute_reaches_where ?_ (ran mergeRun initial)
  intro _ op member
  simp only [mergeRun, List.mem_append, List.mem_map, List.mem_cons, List.not_mem_nil, or_false] at member
  obtain ⟨n, _, rfl⟩ | rfl | rfl := member <;> trivial

theorem merged_evicted :
    "0" ∈ mergedState.cache.keys ∧
      "0" ∉ (apply mergedState.cache (.addMessage "21" (sampleMessage 21))).keys ∧
      "1" ∈ (apply mergedState.cache (.addMessage "21" (sampleMessage 21))).keys ∧
      ¬ usedAfter mergedState.used mergedState.clock
          (uses mergedState.cache (.addMessage "21" (sampleMessage 21))) "0" <
        usedAfter mergedState.used mergedState.clock
          (uses mergedState.cache (.addMessage "21" (sampleMessage 21))) "1" := by
  decide +kernel

/-- A cut through one second keeps the smaller ids, and a conversation that another one
was just merged into is evicted before those that were used before it. -/
theorem cut_and_eviction_wrong :
    (∃ t, step initial (.set "C0FFEE" ⟨burst, false⟩) = some t ∧
      Distinct (.set "C0FFEE" ⟨burst, false⟩) ∧
      ¬ StepOk initial (.set "C0FFEE" ⟨burst, false⟩) t) ∧
    ∃ s t, Reaches step (fun _ op => Distinct op) initial s ∧
      step s (.addMessage "21" (sampleMessage 21)) = some t ∧
      ¬ StepOk s (.addMessage "21" (sampleMessage 21)) t := by
  constructor
  · have distinct : Distinct (.set "C0FFEE" ⟨burst, false⟩) := by
      change (burst.map Message.id).Nodup
      rw [burst, List.map_map]
      exact List.nodup_range.map fun _ _ same => Int.ofNat.inj same
    have long : maxMessagesPerEntry < burst.length := by simp [burst, maxMessagesPerEntry]
    exact ⟨_, rfl, distinct,
      unsafe_cut initial_invariant.wellformed distinct long burst_unsafe rfl⟩
  · obtain ⟨before, after, other, later⟩ := merged_evicted
    exact ⟨mergedState, _, mergedState_reached, rfl, late_eviction before after other later rfl⟩

end Meshloom.Frontend.ConversationCache
