import Meshloom.Frontend.ReconnectRecovery

/-! The lists after a reconnect. Both follow the server by the queued changes; a snapshot puts right
what did not change, and for the contacts that takes pages without gap and overlap. -/
namespace Meshloom.Frontend.ReconnectRecovery
open StableSort Replica Keyed Transition
variable {C D : Type} {localeCompare : Key → Key → Ordering}

section Merge
variable {α : Type} {keyOf : α → Key} {snapshot live : List α} {touched : List Key}

theorem liveByKey_eq (distinct : (live.map keyOf).Nodup) (k : Key) :
    liveByKey keyOf live k = lookup keyOf live k :=
  (lookup_perm (List.reverse_perm live).symm distinct k).symm

theorem liveByKey_key (found : liveByKey keyOf live k = some item) : keyOf item = k := by
  rw [liveByKey] at found
  simpa using List.find?_some found

variable (keyOf) in
/-- The two parts of the merged list, with nothing touched as well. -/
theorem mergeSnapshot_eq (snapshot live : List α) (touched : List Key) :
    mergeSnapshot keyOf snapshot live touched =
      (snapshot.filterMap fun item =>
        if keyOf item ∉ touched then some item else liveByKey keyOf live (keyOf item)) ++
      touched.filterMap fun key =>
        if key ∈ snapshot.map keyOf then none else liveByKey keyOf live key := by
  rw [mergeSnapshot]
  split
  · rename_i none
    simp [none]
  · rfl

theorem keys_filterMap (items : List β) (place : β → Key) {f : β → Option α}
    (back : ∀ a b, f a = some b → keyOf b = place a) :
    ((items.filterMap f).map keyOf).Sublist (items.map place) := by
  induction items with
  | nil => exact .slnil
  | cons item rest ih =>
      rw [List.filterMap_cons]
      split
      · exact ih.cons _
      · rename_i b made
        rw [List.map_cons, List.map_cons, back item b made]
        exact ih.cons_cons _

theorem nodup_mergeSnapshot (distinct : (snapshot.map keyOf).Nodup) (once : touched.Nodup) :
    ((mergeSnapshot keyOf snapshot live touched).map keyOf).Nodup := by
  have first (a b) (made : (if keyOf a ∉ touched then some a else liveByKey keyOf live (keyOf a)) = some b) :
      keyOf b = keyOf a := by
    split at made
    · cases made
      rfl
    · exact liveByKey_key made
  have second (a b) (made : (if a ∈ snapshot.map keyOf then none else liveByKey keyOf live a) = some b) :
      keyOf b = a := by
    split at made
    · contradiction
    · exact liveByKey_key made
  rw [mergeSnapshot_eq, List.map_append, List.nodup_append]
  refine ⟨distinct.sublist (keys_filterMap _ _ first), ?_, ?_⟩
  · refine once.sublist ?_
    have sub := keys_filterMap touched (fun key => key) second
    rwa [List.map_id'] at sub
  · intro k left other right same
    have snapped := (keys_filterMap _ _ first).subset left
    obtain ⟨item, made, rfl⟩ := List.mem_map.mp right
    obtain ⟨key, _, made⟩ := List.mem_filterMap.mp made
    have isKey := second key item made
    split at made
    · contradiction
    · rename_i absent
      exact absent (isKey ▸ same ▸ snapped)

theorem mem_mergeSnapshot : item ∈ mergeSnapshot keyOf snapshot live touched ↔
    (keyOf item ∉ touched ∧ item ∈ snapshot) ∨
      keyOf item ∈ touched ∧ liveByKey keyOf live (keyOf item) = some item := by
  rw [mergeSnapshot_eq, List.mem_append, List.mem_filterMap, List.mem_filterMap]
  constructor
  · rintro (⟨other, listed, made⟩ | ⟨key, listed, made⟩)
    · split at made
      · rename_i untouched
        cases made
        exact .inl ⟨untouched, listed⟩
      · rename_i touches
        rw [not_not] at touches
        have same := liveByKey_key made
        exact .inr ⟨same ▸ touches, same ▸ made⟩
    · split at made
      · contradiction
      · have same := liveByKey_key made
        subst same
        exact .inr ⟨listed, made⟩
  · rintro (⟨untouched, listed⟩ | ⟨touches, found⟩)
    · exact .inl ⟨item, listed, if_pos untouched⟩
    · by_cases snapped : keyOf item ∈ snapshot.map keyOf
      · obtain ⟨other, listed, same⟩ := List.mem_map.mp snapped
        refine .inl ⟨other, listed, ?_⟩
        rw [same, if_neg (not_not.mpr touches), found]
      · exact .inr ⟨keyOf item, touches, by rw [if_neg snapped, found]⟩

theorem lookup_mergeSnapshot (distinct : (snapshot.map keyOf).Nodup) (distinct' : (live.map keyOf).Nodup)
    (once : touched.Nodup) (k : Key) : lookup keyOf (mergeSnapshot keyOf snapshot live touched) k =
      if k ∈ touched then lookup keyOf live k else lookup keyOf snapshot k := by
  rw [Option.ext_iff]
  intro item
  constructor
  · intro found
    obtain ⟨member, rfl⟩ := lookup_key found
    obtain ⟨untouched, listed⟩ | ⟨touches, found⟩ := mem_mergeSnapshot.mp member
    · rw [if_neg untouched]
      exact lookup_of_mem distinct listed
    · rw [if_pos touches, ← liveByKey_eq distinct']
      exact found
  · intro found
    split at found
    · rename_i touches
      obtain ⟨_, rfl⟩ := lookup_key found
      refine lookup_of_mem (nodup_mergeSnapshot distinct once) (mem_mergeSnapshot.mpr (.inr ⟨touches, ?_⟩))
      rw [liveByKey_eq distinct', found]
    · rename_i untouched
      obtain ⟨listed, rfl⟩ := lookup_key found
      exact lookup_of_mem (nodup_mergeSnapshot distinct once) (mem_mergeSnapshot.mpr (.inl ⟨untouched, listed⟩))

end Merge

section Feeds

theorem mem_contactKeys {delta : Delta C D} : k ∈ delta.contactKeys ↔
    match delta with
    | .contact c => c.publicKey = k
    | .contactResolved previousPublicKey c => previousPublicKey = k ∨ c.publicKey = k
    | .contactDeleted publicKey => publicKey = k
    | .channel _ | .channelDeleted _ => False := by
  cases delta <;> simp [Delta.contactKeys, eq_comm]

theorem mem_channelKeys {delta : Delta C D} : k ∈ delta.channelKeys ↔
    match delta with
    | .channel c => c.key = k
    | .channelDeleted key => key = k
    | .contact _ | .contactResolved _ _ | .contactDeleted _ => False := by
  cases delta <;> simp [Delta.channelKeys, eq_comm]

def contactEffect (delta : Delta C D) (f : Key → Option (Contact C)) (k : Key) : Option (Contact C) :=
  match delta with
  | .contact c => if c.publicKey = k then some c else f k
  | .contactResolved previousPublicKey c =>
    if c.publicKey = k then some c else if previousPublicKey = k then none else f k
  | .contactDeleted publicKey => if publicKey = k then none else f k
  | .channel _ | .channelDeleted _ => f k

def channelEffect (delta : Delta C D) (f : Key → Option (Channel D)) (k : Key) : Option (Channel D) :=
  match delta with
  | .channel c => if c.key = k then some c else f k
  | .channelDeleted key => if key = k then none else f k
  | .contact _ | .contactResolved _ _ | .contactDeleted _ => f k

/-- What changes say about the contacts. -/
def contactFeed : Feed Key (Contact C) (Delta C D) where
  keys := Delta.contactKeys
  effect := contactEffect
  frame := by
    intro delta f k absent
    rw [mem_contactKeys] at absent
    cases delta with
    | contact c => exact if_neg absent
    | contactResolved previousPublicKey c =>
        rw [not_or] at absent
        exact (if_neg absent.2).trans (if_neg absent.1)
    | contactDeleted publicKey => exact if_neg absent
    | channel c => rfl
    | channelDeleted key => rfl
  overwrites := by
    intro delta f g k about
    rw [mem_contactKeys] at about
    cases delta with
    | contact c => exact (if_pos about).trans (if_pos about).symm
    | contactResolved previousPublicKey c =>
        simp only [contactEffect]
        split
        · rfl
        · rename_i other
          obtain previous | same := about
          · rw [if_pos previous, if_pos previous]
          · exact (other same).elim
    | contactDeleted publicKey => exact (if_pos about).trans (if_pos about).symm
    | channel c => contradiction
    | channelDeleted key => contradiction

/-- What changes say about the channels. -/
def channelFeed : Feed Key (Channel D) (Delta C D) where
  keys := Delta.channelKeys
  effect := channelEffect
  frame := by
    intro delta f k absent
    rw [mem_channelKeys] at absent
    cases delta with
    | channel c => exact if_neg absent
    | channelDeleted key => exact if_neg absent
    | contact c => rfl
    | contactResolved previousPublicKey c => rfl
    | contactDeleted publicKey => rfl
  overwrites := by
    intro delta f g k about
    rw [mem_channelKeys] at about
    cases delta with
    | channel c => exact (if_pos about).trans (if_pos about).symm
    | channelDeleted key => exact (if_pos about).trans (if_pos about).symm
    | contact c => contradiction
    | contactResolved previousPublicKey c => contradiction
    | contactDeleted publicKey => contradiction

end Feeds

/-- Both sides' lists as maps. -/
abbrev contactMap (contacts : List (Contact C)) : Key → Option (Contact C) := lookup Contact.publicKey contacts

abbrev channelMap (channels : List (Channel D)) : Key → Option (Channel D) := lookup Channel.key channels

/-- Each key once. -/
structure Distinct (s : State C D) : Prop where
  contacts : (s.contacts.map Contact.publicKey).Nodup
  channels : (s.channels.map Channel.key).Nodup
  serverContacts : (s.serverContacts.map Contact.publicKey).Nodup
  serverChannels : (s.serverChannels.map Channel.key).Nodup

theorem change_distinct (distinct : Distinct s) (delta : Delta C D) : Distinct (change s delta) := by
  obtain ⟨contacts, channels, serverContacts, serverChannels⟩ := distinct
  cases delta with
  | contact c => exact ⟨contacts, channels, nodup_upsert c serverContacts, serverChannels⟩
  | contactResolved previousPublicKey c =>
      exact ⟨contacts, channels, nodup_upsert c (nodup_remove _ serverContacts), serverChannels⟩
  | contactDeleted publicKey => exact ⟨contacts, channels, nodup_remove _ serverContacts, serverChannels⟩
  | channel c => exact ⟨contacts, channels, serverContacts, nodup_upsert c serverChannels⟩
  | channelDeleted key => exact ⟨contacts, channels, serverContacts, nodup_remove _ serverChannels⟩

theorem change_contacts (s : State C D) (delta : Delta C D) : contactMap (change s delta).serverContacts =
    contactFeed.effect delta (contactMap s.serverContacts) := by
  funext k
  cases delta with
  | contact c => exact lookup_upsert _ _ _
  | contactResolved previousPublicKey c =>
      exact (lookup_upsert _ _ _).trans (by rw [lookup_remove]; rfl)
  | contactDeleted publicKey => exact lookup_remove _ _ _
  | channel c => rfl
  | channelDeleted key => rfl

theorem change_channels (s : State C D) (delta : Delta C D) : channelMap (change s delta).serverChannels =
    channelFeed.effect delta (channelMap s.serverChannels) := by
  funext k
  cases delta with
  | channel c => exact lookup_upsert _ _ _
  | channelDeleted key => exact lookup_remove _ _ _
  | contact c => rfl
  | contactResolved previousPublicKey c => rfl
  | contactDeleted publicKey => rfl

/-- Appending and sorting a new channel does what replacing does for one that is there. -/
theorem mergeChannelIntoList_perm (localeCompare : Key → Key → Ordering) (channels : List (Channel D))
    (c : Channel D) : (mergeChannelIntoList localeCompare channels c).Perm (Keyed.upsert Channel.key c channels) := by
  rw [mergeChannelIntoList]
  split
  · exact .refl _
  · rename_i absent
    rw [upsert_absent absent]
    exact List.perm_insertionSort _ _

theorem receive_distinct (localeCompare : Key → Key → Ordering) (distinct : Distinct s)
    (delta : Delta C D) :
    Distinct (receive localeCompare s delta) := by
  obtain ⟨contacts, channels, serverContacts, serverChannels⟩ := distinct
  cases delta with
  | contact c => exact ⟨nodup_upsert c contacts, channels, serverContacts, serverChannels⟩
  | contactResolved previousPublicKey c =>
      exact ⟨nodup_upsert c (nodup_remove _ contacts), channels, serverContacts, serverChannels⟩
  | contactDeleted publicKey => exact ⟨nodup_remove _ contacts, channels, serverContacts, serverChannels⟩
  | channel c =>
      refine ⟨contacts, ?_, serverContacts, serverChannels⟩
      exact ((mergeChannelIntoList_perm localeCompare _ c).map _).nodup_iff.mpr (nodup_upsert c channels)
  | channelDeleted key => exact ⟨contacts, nodup_remove _ channels, serverContacts, serverChannels⟩

theorem receive_contacts (s : State C D) (delta : Delta C D) :
    contactMap (receive localeCompare s delta).contacts =
      contactFeed.effect delta (contactMap s.contacts) := by
  funext k
  cases delta with
  | contact c => exact lookup_upsert _ _ _
  | contactResolved previousPublicKey c =>
      exact (lookup_upsert _ _ _).trans (by rw [lookup_remove]; rfl)
  | contactDeleted publicKey => exact lookup_remove _ _ _
  | channel c => rfl
  | channelDeleted key => rfl

theorem receive_channels (distinct : Distinct s) (delta : Delta C D) :
    channelMap (receive localeCompare s delta).channels =
      channelFeed.effect delta (channelMap s.channels) := by
  funext k
  cases delta with
  | channel c =>
      have perm := mergeChannelIntoList_perm localeCompare s.channels c
      have once := (perm.map Channel.key).nodup_iff.mpr (nodup_upsert c distinct.channels)
      exact (lookup_perm perm once k).trans (lookup_upsert _ _ _)
  | channelDeleted key => exact lookup_remove _ _ _
  | contact c => rfl
  | contactResolved previousPublicKey c => rfl
  | contactDeleted publicKey => rfl

/-- Rows that the server had are right where nothing changed. -/
def RowsAt (rows : List (Contact C)) (k : Key) (value : Option (Contact C)) : Prop :=
  ∀ c ∈ rows, c.publicKey = k → value = some c

/-- What is known of the newest reconnect's fetch of the contacts. -/
def ContactsReady (s : State C D) (attempt : Attempt C D) : Prop :=
  Ready contactFeed (fun pages : Pages C => RowsAt pages.all) RowsAt (contactMap s.serverContacts)
    (contactMap s.contacts) s.queue attempt.tracker.contacts attempt.contacts

def ChannelsReady (s : State C D) (attempt : Attempt C D) : Prop :=
  Ready channelFeed (fun _ _ _ => True) (fun data k value => channelMap data k = value)
    (channelMap s.serverChannels) (channelMap s.channels) s.queue attempt.tracker.channels
    attempt.channels

/-- What holds of an attempt by itself. -/
structure Sound (attempt : Attempt C D) : Prop where
  contacts : attempt.tracker.contacts.Nodup
  channels : attempt.tracker.channels.Nodup
  data : ∀ data, attempt.channels = .arrived data → (data.map Channel.key).Nodup

structure Invariant (s : State C D) : Prop where
  distinct : Distinct s
  down : s.connected = false → s.queue = []
  past : ∀ attempt ∈ s.attempts, attempt.generation ≤ s.reconnectGeneration
  once : (s.attempts.map Attempt.generation).Nodup
  sound : ∀ attempt ∈ s.attempts, Sound attempt
  ready : s.connected = true → ∀ attempt ∈ s.attempts, attempt.generation = s.reconnectGeneration →
    ContactsReady s attempt ∧ ChannelsReady s attempt

theorem mem_addAll (set keys : List Key) : k ∈ addAll set keys ↔ k ∈ set ∨ k ∈ keys := by
  induction keys generalizing set with
  | nil => simp [addAll]
  | cons key rest ih =>
      rw [addAll, List.foldl_cons]
      refine (ih _).trans ?_
      split
      · rename_i listed
        rw [List.mem_cons]
        constructor
        · exact fun member => member.imp_right .inr
        · rintro (member | rfl | member)
          · exact .inl member
          · exact .inl listed
          · exact .inr member
      · rw [List.mem_append, List.mem_singleton, List.mem_cons, or_assoc]

theorem nodup_addAll {set : List Key} (keys : List Key) (once : set.Nodup) : (addAll set keys).Nodup := by
  induction keys generalizing set with
  | nil => exact once
  | cons key rest ih =>
      rw [addAll, List.foldl_cons]
      refine ih ?_
      split
      · exact once
      · rename_i absent
        rw [List.nodup_append]
        refine ⟨once, List.nodup_singleton _, ?_⟩
        intro a left b right same
        rw [List.mem_singleton.mp right] at same
        exact absent (same ▸ left)

theorem noteDelta_sound {attempt : Attempt C D} (sound : Sound attempt) (delta : Delta C D) :
    Sound (noteDelta attempt delta) := by
  rw [noteDelta]
  split
  · exact ⟨nodup_addAll _ sound.contacts, nodup_addAll _ sound.channels, sound.data⟩
  · exact sound

theorem noteDelta_generation (attempt : Attempt C D) (delta : Delta C D) :
    (noteDelta attempt delta).generation = attempt.generation := by
  rw [noteDelta]
  split <;> rfl

theorem noteDelta_contacts (attempt : Attempt C D) (delta : Delta C D) :
    (noteDelta attempt delta).contacts = attempt.contacts := by
  rw [noteDelta]
  split <;> rfl

theorem noteDelta_channels (attempt : Attempt C D) (delta : Delta C D) :
    (noteDelta attempt delta).channels = attempt.channels := by
  rw [noteDelta]
  split <;> rfl

/-- A tracker takes the keys while one of its fetches goes on. -/
theorem noteDelta_notes {attempt : Attempt C D} (delta : Delta C D)
    (going : attempt.contacts.isOver = false ∨ attempt.channels.isOver = false) :
    (∀ k, k ∈ (noteDelta attempt delta).tracker.contacts ↔
      k ∈ attempt.tracker.contacts ∨ k ∈ delta.contactKeys) ∧
    ∀ k, k ∈ (noteDelta attempt delta).tracker.channels ↔
      k ∈ attempt.tracker.channels ∨ k ∈ delta.channelKeys := by
  have active : attempt.active = true := by
    obtain going | going := going
    · simp [Attempt.active, going]
    · simp [Attempt.active, going]
  rw [noteDelta, if_pos active]
  exact ⟨fun k => mem_addAll _ _, fun k => mem_addAll _ _⟩

theorem changed_step (inv : Invariant s) (delta : Delta C D) :
    Invariant { change s delta with queue := if s.connected then s.queue ++ [delta] else s.queue } := by
  have same : (change s delta).connected = s.connected ∧ (change s delta).attempts = s.attempts ∧
      (change s delta).reconnectGeneration = s.reconnectGeneration ∧
      (change s delta).contacts = s.contacts ∧ (change s delta).channels = s.channels := by
    cases delta <;> exact ⟨rfl, rfl, rfl, rfl, rfl⟩
  obtain ⟨connected, attempts, generation, contacts, channels⟩ := same
  refine ⟨?_, ?_, ?_, ?_, ?_, ?_⟩
  · obtain ⟨contacts, channels, serverContacts, serverChannels⟩ := change_distinct inv.distinct delta
    exact ⟨contacts, channels, serverContacts, serverChannels⟩
  · intro down
    simp only [connected] at down
    simp only [down, Bool.false_eq_true, if_false]
    exact inv.down down
  · simp only [attempts, generation]
    exact inv.past
  · simp only [attempts]
    exact inv.once
  · simp only [attempts]
    exact inv.sound
  · intro up attempt listed newest
    simp only [connected] at up
    simp only [attempts] at listed
    simp only [generation] at newest
    obtain ⟨contactsReady, channelsReady⟩ := inv.ready up attempt listed newest
    constructor
    · have moved := contactsReady.change delta
      rw [← change_contacts] at moved
      simp only [ContactsReady, contacts, up, if_true]
      exact moved
    · have moved := channelsReady.change delta
      rw [← change_channels] at moved
      simp only [ChannelsReady, channels, up, if_true]
      exact moved

theorem delivered_step (inv : Invariant s) {delta : Delta C D} (queue : s.queue = delta :: rest) :
    Invariant { receive localeCompare s delta with
      attempts := s.attempts.map (noteDelta · delta)
      queue := rest } := by
  have same : (receive localeCompare s delta).connected = s.connected ∧
      (receive localeCompare s delta).reconnectGeneration = s.reconnectGeneration ∧
      (receive localeCompare s delta).serverContacts = s.serverContacts ∧
      (receive localeCompare s delta).serverChannels = s.serverChannels := by
    cases delta <;> exact ⟨rfl, rfl, rfl, rfl⟩
  obtain ⟨connected, generation, serverContacts, serverChannels⟩ := same
  refine ⟨?_, ?_, ?_, ?_, ?_, ?_⟩
  · obtain ⟨contacts, channels, serverContacts, serverChannels⟩ :=
      receive_distinct localeCompare inv.distinct delta
    exact ⟨contacts, channels, serverContacts, serverChannels⟩
  · intro down
    simp only [connected] at down
    rw [inv.down down] at queue
    contradiction
  · intro attempt listed
    obtain ⟨before, old, rfl⟩ := List.mem_map.mp listed
    simp only [generation, noteDelta_generation]
    exact inv.past before old
  · rw [List.map_map]
    have same : Attempt.generation ∘ (noteDelta · delta) = Attempt.generation (C := C) (D := D) :=
      funext fun attempt => noteDelta_generation attempt delta
    rw [same]
    exact inv.once
  · intro attempt listed
    obtain ⟨before, old, rfl⟩ := List.mem_map.mp listed
    exact noteDelta_sound (inv.sound before old) delta
  · intro up attempt listed newest
    obtain ⟨before, old, rfl⟩ := List.mem_map.mp listed
    simp only [connected] at up
    simp only [generation, noteDelta_generation] at newest
    obtain ⟨contactsReady, channelsReady⟩ := inv.ready up before old newest
    constructor
    · rw [ContactsReady, queue] at contactsReady
      have moved := contactsReady.deliver fun going => (noteDelta_notes delta (.inl going)).1
      rw [← receive_contacts] at moved
      simp only [ContactsReady, serverContacts, noteDelta_contacts]
      exact moved
    · rw [ChannelsReady, queue] at channelsReady
      have moved := channelsReady.deliver fun going => (noteDelta_notes delta (.inr going)).2
      rw [← receive_channels inv.distinct] at moved
      simp only [ChannelsReady, serverChannels, noteDelta_channels]
      exact moved

theorem mem_set_apart {attempts : List (Attempt C D)} (once : (attempts.map Attempt.generation).Nodup)
    (found : attempts[i]? = some attempt) (listed : other ∈ attempts.set i replaced) :
    other = replaced ∨ other ∈ attempts ∧ other.generation ≠ attempt.generation := by
  obtain ⟨j, there⟩ := List.mem_iff_getElem?.mp listed
  rw [List.getElem?_set] at there
  split at there
  · rename_i same
    obtain ⟨_, same⟩ := Option.ite_none_right_eq_some.mp there
    exact .inl (Option.some.inj same).symm
  · rename_i different
    refine .inr ⟨List.mem_of_getElem? there, ?_⟩
    intro same
    have left : (attempts.map Attempt.generation)[i]? = some attempt.generation := by
      rw [List.getElem?_map, found]
      rfl
    have right : (attempts.map Attempt.generation)[j]? = some attempt.generation := by
      rw [List.getElem?_map, there, ← same]
      rfl
    obtain ⟨within, _⟩ := List.getElem?_eq_some_iff.mp left
    exact different ((List.getElem?_inj within once).mp (left.trans right.symm))

/-- A fetch of one reconnect goes on, and may change the lists if it is the newest. -/
theorem Invariant.advance (inv : Invariant s) (found : s.attempts[i]? = some attempt)
    {replaced : Attempt C D} (sound : Sound replaced)
    (generation : replaced.generation = attempt.generation) {contacts : List (Contact C)} {channels : List (Channel D)}
    (distinct : (contacts.map Contact.publicKey).Nodup ∧ (channels.map Channel.key).Nodup)
    (superseded : attempt.generation ≠ s.reconnectGeneration →
      contacts = s.contacts ∧ channels = s.channels)
    (ready : s.connected = true → attempt.generation = s.reconnectGeneration →
      ContactsReady { s with contacts } replaced ∧ ChannelsReady { s with channels } replaced) :
    Invariant { s with contacts, channels, attempts := s.attempts.set i replaced } := by
  have member := List.mem_of_getElem? found
  have pick (other) (listed : other ∈ s.attempts.set i replaced) :=
    mem_set_apart inv.once found listed
  refine ⟨⟨distinct.1, distinct.2, inv.distinct.serverContacts, inv.distinct.serverChannels⟩, inv.down,
    ?_, ?_, ?_, ?_⟩
  · intro other listed
    obtain rfl | ⟨old, _⟩ := pick other listed
    · exact generation ▸ inv.past attempt member
    · exact inv.past other old
  · rw [List.map_set, generation]
    have same : (s.attempts.map Attempt.generation)[i]? = some attempt.generation := by
      rw [List.getElem?_map, found]
      rfl
    obtain ⟨within, here⟩ := List.getElem?_eq_some_iff.mp same
    rw [← here, List.set_getElem_self]
    exact inv.once
  · intro other listed
    obtain rfl | ⟨old, _⟩ := pick other listed
    · exact sound
    · exact inv.sound other old
  · intro up other listed newest
    obtain rfl | ⟨old, apart⟩ := pick other listed
    · exact ready up (generation ▸ newest)
    · have past : attempt.generation ≠ s.reconnectGeneration := fun same => apart (newest.trans same.symm)
      obtain ⟨rfl, rfl⟩ := superseded past
      exact inv.ready up other old newest

theorem channelsRead_step {s : State C D} (inv : Invariant s)
    (found : s.attempts[i]? = some ⟨generation, tracker, contacts, .running ()⟩) :
    Invariant { s with
      attempts :=
        s.attempts.set i ⟨generation, tracker, contacts, .arrived (getChannels s.serverChannels)⟩ } := by
  have sound := inv.sound _ (List.mem_of_getElem? found)
  have perm : (getChannels s.serverChannels).Perm s.serverChannels := sortFalling_perm _ _
  have once := (perm.map Channel.key).nodup_iff.mpr inv.distinct.serverChannels
  have sound' : Sound (⟨generation, tracker, contacts, .arrived (getChannels s.serverChannels)⟩ :
      Attempt C D) := by
    refine ⟨sound.contacts, sound.channels, ?_⟩
    rintro _ ⟨⟩
    exact once
  refine inv.advance found sound' rfl ⟨inv.distinct.contacts, inv.distinct.channels⟩
    (fun _ => ⟨rfl, rfl⟩) ?_
  · intro up newest
    obtain ⟨contactsReady, channelsReady⟩ := inv.ready up _ (List.mem_of_getElem? found) newest
    exact ⟨contactsReady, channelsReady.1, fun k _ => lookup_perm perm once k⟩

theorem contactsPageRead_step {s : State C D} (inv : Invariant s)
    (found : s.attempts[i]? = some ⟨generation, tracker, .running pages, channels⟩) :
    Invariant { s with
      attempts :=
        s.attempts.set i ⟨generation, tracker, fetchPage s.serverContacts pages, channels⟩ } := by
  have sound := inv.sound _ (List.mem_of_getElem? found)
  have sound' : Sound (⟨generation, tracker, fetchPage s.serverContacts pages, channels⟩ : Attempt C D) :=
    ⟨sound.contacts, sound.channels, sound.data⟩
  refine inv.advance found sound' rfl ⟨inv.distinct.contacts, inv.distinct.channels⟩
    (fun _ => ⟨rfl, rfl⟩) ?_
  intro up newest
  obtain ⟨contactsReady, channelsReady⟩ := inv.ready up _ (List.mem_of_getElem? found) newest
  refine ⟨?_, channelsReady⟩
  obtain ⟨follows, rows⟩ := contactsReady
  have rows' : Settled contactFeed (contactMap s.serverContacts) s.queue tracker.contacts
      (RowsAt (pages.all ++ getContacts s.serverContacts pageSize pages.offset)) := by
    rintro k unchanged c listed rfl
    obtain old | new := List.mem_append.mp listed
    · exact rows _ unchanged c old rfl
    · have sorted := List.mem_of_mem_drop (List.mem_of_mem_take new)
      exact lookup_of_mem inv.distinct.serverContacts ((sortFalling_perm _ _).mem_iff.mp sorted)
  simp only [ContactsReady, fetchPage]
  split
  · exact ⟨follows, rows'⟩
  · exact ⟨follows, rows'⟩

theorem channelsAnswered_step {s : State C D} (inv : Invariant s)
    (found : s.attempts[i]? = some ⟨generation, tracker, contacts, .arrived data⟩) :
    Invariant (channelsAnswered s i ⟨generation, tracker, contacts, .arrived data⟩ data) := by
  have sound := inv.sound _ (List.mem_of_getElem? found)
  have sound' : Sound (⟨generation, tracker, contacts, .succeeded⟩ : Attempt C D) :=
    ⟨sound.contacts, sound.channels, by intros; contradiction⟩
  simp only [channelsAnswered]
  split
  · rename_i newest
    refine inv.advance found sound' rfl ⟨inv.distinct.contacts,
      nodup_mergeSnapshot (sound.data data rfl) sound.channels⟩ (fun past => (past newest).elim) ?_
    intro up newest
    obtain ⟨contactsReady, follows, current⟩ := inv.ready up _ (List.mem_of_getElem? found) newest
    have merged := lookup_mergeSnapshot (sound.data data rfl) inv.distinct.channels sound.channels
    refine ⟨contactsReady, follows.recover current ?_ ?_⟩
    · exact fun k listed => (merged k).trans (if_pos listed)
    · exact fun k untouched => (merged k).trans (if_neg untouched)
  · rename_i past
    exact inv.advance found sound' rfl ⟨inv.distinct.contacts, inv.distinct.channels⟩
      (fun _ => ⟨rfl, rfl⟩) fun _ newest => (past newest).elim

/-- Pages without gap and overlap are a snapshot of what did not change. -/
theorem gapless_current {tracker : SnapshotTracker} (gapless : Gapless s tracker data)
    (rows : Settled contactFeed (contactMap s.serverContacts) s.queue tracker.contacts (RowsAt data)) :
    Settled contactFeed (contactMap s.serverContacts) s.queue tracker.contacts
      fun k value => contactMap data k = value := by
  intro k unchanged
  cases found : contactMap data k with
  | some c =>
      obtain ⟨listed, same⟩ := lookup_key found
      exact (rows k unchanged c listed same).symm
  | none =>
      cases there : contactMap s.serverContacts k with
      | none => rfl
      | some c =>
          obtain ⟨member, rfl⟩ := lookup_key there
          refine (lookup_eq_none.mp found (gapless.2 c member ?_ ?_)).elim
          · exact fun listed => unchanged (.inl listed)
          · exact fun delta queued about => unchanged (.inr ⟨delta, queued, about⟩)

theorem contactsAnswered_step {s : State C D} (inv : Invariant s)
    (found : s.attempts[i]? = some ⟨generation, tracker, .arrived data, channels⟩)
    (paged : Paged s (.contactsAnswered i)) :
    Invariant (contactsAnswered s i ⟨generation, tracker, .arrived data, channels⟩ data) := by
  have sound := inv.sound _ (List.mem_of_getElem? found)
  have sound' : Sound (⟨generation, tracker, .succeeded, channels⟩ : Attempt C D) :=
    ⟨sound.contacts, sound.channels, sound.data⟩
  simp only [contactsAnswered]
  split
  · rename_i newest
    have gapless := paged _ _ _ _ found newest
    refine inv.advance found sound' rfl ⟨nodup_mergeSnapshot gapless.1 sound.contacts,
      inv.distinct.channels⟩ (fun past => (past newest).elim) ?_
    intro up newest
    obtain ⟨⟨follows, rows⟩, channelsReady⟩ := inv.ready up _ (List.mem_of_getElem? found) newest
    have merged := lookup_mergeSnapshot gapless.1 inv.distinct.contacts sound.contacts
    refine ⟨follows.recover (gapless_current gapless rows) ?_ ?_, channelsReady⟩
    · exact fun k listed => (merged k).trans (if_pos listed)
    · exact fun k untouched => (merged k).trans (if_neg untouched)
  · rename_i past
    exact inv.advance found sound' rfl ⟨inv.distinct.contacts, inv.distinct.channels⟩
      (fun _ => ⟨rfl, rfl⟩) fun _ newest => (past newest).elim

/-- A new attempt knows of no change yet, and no older one is the newest any more. -/
theorem reconnected_step {s : State C D} (inv : Invariant s) (down : s.connected = false) :
    Invariant { onReconnect s with connected := true } := by
  have older (attempt) (listed : attempt ∈ s.attempts) :
      attempt.generation ≠ s.reconnectGeneration + 1 := by
    have past := inv.past attempt listed
    omega
  refine ⟨?_, fun up => by contradiction, ?_, ?_, ?_, ?_⟩
  · obtain ⟨contacts, channels, serverContacts, serverChannels⟩ := inv.distinct
    exact ⟨contacts, channels, serverContacts, serverChannels⟩
  · intro attempt listed
    obtain old | new := List.mem_append.mp listed
    · exact (inv.past attempt old).trans (Nat.le_succ _)
    · rw [List.mem_singleton.mp new]
      exact le_rfl
  · rw [onReconnect, List.map_append, List.nodup_append]
    refine ⟨inv.once, List.nodup_singleton _, ?_⟩
    intro generation old other new same
    obtain ⟨attempt, listed, rfl⟩ := List.mem_map.mp old
    rw [List.map_singleton, List.mem_singleton] at new
    exact older attempt listed (same.trans new)
  · intro attempt listed
    obtain old | new := List.mem_append.mp listed
    · exact inv.sound attempt old
    · rw [List.mem_singleton.mp new]
      exact ⟨List.nodup_nil, List.nodup_nil, by intros; contradiction⟩
  · intro _ attempt listed newest
    obtain old | new := List.mem_append.mp listed
    · exact (older attempt old newest).elim
    · rw [List.mem_singleton.mp new]
      have idle (feedKeys : Delta C D → List Key) (k : Key) :
          ¬ (k ∈ ([] : List Key) ∨ ∃ d ∈ s.queue, k ∈ feedKeys d) := by
        rw [inv.down down]
        simp
      refine ⟨⟨fun k changed => (idle _ k changed).elim, ?_⟩,
        ⟨fun k changed => (idle _ k changed).elim, fun _ _ => trivial⟩⟩
      exact fun k _ c listed => (List.not_mem_nil listed).elim

theorem channelsFailed_step {s : State C D} (inv : Invariant s)
    (found : s.attempts[i]? = some ⟨generation, tracker, contacts, .running ()⟩) :
    Invariant { s with attempts := s.attempts.set i ⟨generation, tracker, contacts, .failed⟩ } := by
  have sound := inv.sound _ (List.mem_of_getElem? found)
  have sound' : Sound (⟨generation, tracker, contacts, .failed⟩ : Attempt C D) :=
    ⟨sound.contacts, sound.channels, by intros; contradiction⟩
  refine inv.advance found sound' rfl ⟨inv.distinct.contacts, inv.distinct.channels⟩
    (fun _ => ⟨rfl, rfl⟩) ?_
  intro up newest
  exact ⟨(inv.ready up _ (List.mem_of_getElem? found) newest).1, trivial⟩

theorem contactsFailed_step {s : State C D} (inv : Invariant s)
    (found : s.attempts[i]? = some ⟨generation, tracker, .running pages, channels⟩) :
    Invariant { s with attempts := s.attempts.set i ⟨generation, tracker, .failed, channels⟩ } := by
  have sound := inv.sound _ (List.mem_of_getElem? found)
  have sound' : Sound (⟨generation, tracker, .failed, channels⟩ : Attempt C D) :=
    ⟨sound.contacts, sound.channels, sound.data⟩
  refine inv.advance found sound' rfl ⟨inv.distinct.contacts, inv.distinct.channels⟩
    (fun _ => ⟨rfl, rfl⟩) ?_
  intro up newest
  exact ⟨trivial, (inv.ready up _ (List.mem_of_getElem? found) newest).2⟩

theorem step_spec (inv : Invariant s) (paged : Paged s event)
    (stepped : step localeCompare s event = some t) : Invariant t := by
  cases event with
  | changed delta =>
      cases stepped
      exact changed_step inv delta
  | disconnected =>
      cases stepped
      obtain ⟨contacts, channels, serverContacts, serverChannels⟩ := inv.distinct
      exact ⟨⟨contacts, channels, serverContacts, serverChannels⟩, fun _ => rfl, inv.past, inv.once,
        inv.sound, fun up => by contradiction⟩
  | reconnected =>
      obtain ⟨down, ⟨⟩⟩ := Option.ite_none_left_eq_some.mp stepped
      exact reconnected_step inv (Bool.not_eq_true _ ▸ down)
  | delivered =>
      simp only [step] at stepped
      split at stepped
      · rename_i delta rest queue
        cases stepped
        exact delivered_step inv queue
      · contradiction
  | channelsRead i =>
      simp only [step] at stepped
      split at stepped
      · rename_i found
        cases stepped
        exact channelsRead_step inv found
      · contradiction
  | channelsAnswered i =>
      simp only [step] at stepped
      split at stepped
      · rename_i found
        cases stepped
        exact channelsAnswered_step inv found
      · contradiction
  | channelsFailed i =>
      simp only [step] at stepped
      split at stepped
      · rename_i found
        cases stepped
        exact channelsFailed_step inv found
      · contradiction
  | contactsPageRead i =>
      simp only [step] at stepped
      split at stepped
      · rename_i found
        cases stepped
        exact contactsPageRead_step inv found
      · contradiction
  | contactsAnswered i =>
      simp only [step] at stepped
      split at stepped
      · rename_i found
        cases stepped
        exact contactsAnswered_step inv found paged
      · contradiction
  | contactsFailed i =>
      simp only [step] at stepped
      split at stepped
      · rename_i found
        cases stepped
        exact contactsFailed_step inv found
      · contradiction

theorem started_invariant {s : State C D} (started : Started s) : Invariant s := by
  obtain ⟨down, queue, attempts⟩ := started.down
  refine ⟨⟨started.contacts, started.channels, started.serverContacts, started.serverChannels⟩,
    fun _ => queue, ?_, ?_, ?_, ?_⟩
  · rw [attempts]
    exact fun _ listed => (List.not_mem_nil listed).elim
  · rw [attempts]
    exact List.nodup_nil
  · rw [attempts]
    exact fun _ listed => (List.not_mem_nil listed).elim
  · rw [attempts]
    exact fun _ _ listed => (List.not_mem_nil listed).elim

/-- After a reconnect that succeeded, with no change on its way, the lists are the server's. -/
theorem recovered (started : Started first) (run : Reaches (step localeCompare) Paged first s)
    (quiet : Quiet s) : Recovered s := by
  have inv : Invariant s := run.invariant step_spec (started_invariant started)
  obtain ⟨up, queue, attempt, listed, newest, contacts, channels⟩ := quiet
  obtain ⟨contactsReady, channelsReady⟩ := inv.ready up attempt listed newest
  rw [ContactsReady, contacts, queue] at contactsReady
  rw [ChannelsReady, channels, queue] at channelsReady
  obtain ⟨distinct, distinct', server, server'⟩ := inv.distinct
  exact ⟨⟨perm_of_lookup distinct server fun k => contactsReady k trivial, distinct⟩,
    perm_of_lookup distinct' server' fun k => channelsReady k trivial, distinct'⟩

section Examples

def isSucceeded : Fetch ρ α → Bool
  | .succeeded => true
  | .running _ | .arrived _ | .failed => false

theorem eq_succeeded {fetch : Fetch ρ α} (done : isSucceeded fetch = true) : fetch = .succeeded := by
  cases fetch with
  | succeeded => rfl
  | running _ => contradiction
  | arrived _ => contradiction
  | failed => contradiction

/-- `Quiet`, computed. -/
def isQuiet (s : State C D) : Bool :=
  s.connected && s.queue.isEmpty && s.attempts.any fun attempt =>
    attempt.generation = s.reconnectGeneration && isSucceeded attempt.contacts &&
      isSucceeded attempt.channels

theorem quiet_of_isQuiet {s : State C D} (quiet : isQuiet s = true) : Quiet s := by
  simp only [isQuiet, Bool.and_eq_true, List.isEmpty_iff, List.any_eq_true, decide_eq_true_eq] at quiet
  obtain ⟨⟨up, queue⟩, attempt, listed, ⟨newest, contacts⟩, channels⟩ := quiet
  exact ⟨up, queue, attempt, listed, newest, eq_succeeded contacts, eq_succeeded channels⟩

instance decidableGapless (s : State C D) (tracker : SnapshotTracker) (data : List (Contact C)) :
    Decidable (Gapless s tracker data) :=
  inferInstanceAs (Decidable (_ ∧ ∀ contact ∈ s.serverContacts, _ → _ → _))

instance decidablePaged (s : State C D) : (event : Event C D) → Decidable (Paged s event)
  | .contactsAnswered i =>
    match found : s.attempts[i]? with
    | some ⟨generation, tracker, .arrived data, channels⟩ =>
      decidable_of_iff (generation = s.reconnectGeneration → Gapless s tracker data) (by
        constructor
        · intro paged generation tracker data channels same
          cases found.symm.trans same
          exact paged
        · exact fun paged => paged _ _ _ _ found)
    | some ⟨generation, tracker, .running pages, channels⟩ => .isTrue (by simp [Paged, found])
    | some ⟨generation, tracker, .succeeded, channels⟩ => .isTrue (by simp [Paged, found])
    | some ⟨generation, tracker, .failed, channels⟩ => .isTrue (by simp [Paged, found])
    | none => .isTrue (by simp [Paged, found])
  | .changed _ | .disconnected | .reconnected | .delivered | .channelsRead _ | .channelsAnswered _
  | .channelsFailed _ | .contactsPageRead _ | .contactsFailed _ => .isTrue trivial

def comparePlain (a b : Key) : Ordering := if a < b then .lt else if a = b then .eq else .gt

/-- Contacts without a name, in the order of their keys. -/
def plainContact (i : Nat) : Contact Unit where
  publicKey := [i / 1000, i / 100 % 10, i / 10 % 10, i % 10].map (fun d => Char.ofNat ('0'.toNat + d)) ++
    List.replicate 60 '0'
  name := none
  fields := ()

theorem digit_injective : ∀ a < 10, ∀ b < 10,
    Char.ofNat ('0'.toNat + a) = Char.ofNat ('0'.toNat + b) → a = b := by decide

theorem plainContact_injective (below : i < 1001) (below' : j < 1001)
    (same : (plainContact i).publicKey = (plainContact j).publicKey) : i = j := by
  have digits := List.append_cancel_right same
  simp only [List.map_cons, List.map_nil, List.cons.injEq, and_true] at digits
  have thousands := digit_injective (i / 1000) (by omega) (j / 1000) (by omega) digits.1
  have hundreds := digit_injective (i / 100 % 10) (by omega) (j / 100 % 10) (by omega) digits.2.1
  have tens := digit_injective (i / 10 % 10) (by omega) (j / 10 % 10) (by omega) digits.2.2.1
  have ones := digit_injective (i % 10) (by omega) (j % 10) (by omega) digits.2.2.2
  omega

/-- An empty client, and a server with so many contacts. -/
def offline (contacts : Nat) : State Unit Unit where
  contacts := []
  channels := []
  reconnectGeneration := 0
  attempts := []
  serverContacts := (List.range contacts).map plainContact
  serverChannels := []
  connected := false
  queue := []

theorem recovered_offline :
    ∃ s, Started (offline 3) ∧ Reaches (step comparePlain) Paged (offline 3) s ∧ Quiet s ∧ Recovered s := by
  have started : Started (offline 3) :=
    ⟨⟨rfl, rfl, rfl⟩, List.nodup_nil, List.nodup_nil, by decide +kernel, List.nodup_nil⟩
  have ran : (executeWhere (step comparePlain) Paged (offline 3)
      [.reconnected, .contactsPageRead 0, .changed (.contactDeleted (plainContact 0).publicKey),
        .changed (.contact (plainContact 7)), .delivered, .contactsAnswered 0, .delivered,
        .channelsRead 0, .channelsAnswered 0]).any isQuiet = true := by decide +kernel
  obtain ⟨s, executed, holds⟩ := (Option.any_eq_true _ _).mp ran
  have run := executeWhere_reaches executed
  exact ⟨s, started, run, quiet_of_isQuiet holds, recovered started run (quiet_of_isQuiet holds)⟩

theorem digit_lt : ∀ a < 10, ∀ b < 10, a < b →
    Char.ofNat ('0'.toNat + a) < Char.ofNat ('0'.toNat + b) := by decide

theorem plainContact_rising (below : j < 1001) (less : i < j) :
    (plainContact i).publicKey < (plainContact j).publicKey := by
  -- The first digit in which the numbers differ decides.
  have digit {a b : Nat} {P : Prop} (small : b < 10) (order : a < b ∨ a = b ∧ P) :
      Char.ofNat ('0'.toNat + a) < Char.ofNat ('0'.toNat + b) ∨
        Char.ofNat ('0'.toNat + a) = Char.ofNat ('0'.toNat + b) ∧ P := by
    rcases order with before | ⟨rfl, rest⟩
    · exact .inl (digit_lt a (before.trans small) b small before)
    · exact .inr ⟨rfl, rest⟩
  simp only [plainContact, List.map_cons, List.map_nil, List.cons_append, List.nil_append,
    List.cons_lt_cons_iff]
  refine digit (b := j / 1000) (by omega) ?_
  by_cases thousands : i / 1000 < j / 1000
  · exact .inl thousands
  refine .inr ⟨by omega, digit (by omega) ?_⟩
  by_cases hundreds : i / 100 % 10 < j / 100 % 10
  · exact .inl hundreds
  refine .inr ⟨by omega, digit (by omega) ?_⟩
  by_cases tens : i / 10 % 10 < j / 10 % 10
  · exact .inl tens
  exact .inr ⟨by omega, digit (by omega) (.inl (by omega))⟩

/-- The contacts are in the order of the server's query. -/
theorem getContacts_plain (below : start + n ≤ 1001) (limit offset : Nat) :
    getContacts ((List.range' start n).map plainContact) limit offset =
      (((List.range' start n).map plainContact).drop offset).take limit := by
  have rising : ((List.range' start n).map plainContact).Pairwise fun a b =>
      OrderDual.toDual (b.name.getD b.publicKey) ≤ OrderDual.toDual (a.name.getD a.publicKey) := by
    rw [List.pairwise_map]
    refine (List.pairwise_lt_range').imp_of_mem ?_
    intro i j _ listed less
    have last := (List.mem_range'_1.mp listed).2
    exact OrderDual.toDual_le_toDual.mpr (plainContact_rising (by omega) less).le
  rw [getContacts, sortFalling, rising.insertionSort_eq]

/-- A contact of the first page is deleted before the second page is read, which then starts one
contact later. -/
theorem paged_contact_lost :
    ¬ ∀ first s : State Unit Unit, Started first → Reaches (step comparePlain) Any first s → Quiet s →
      Recovered s := by
  intro claim
  have started : Started (offline 1001) := by
    refine ⟨⟨rfl, rfl, rfl⟩, List.nodup_nil, List.nodup_nil, ?_, List.nodup_nil⟩
    rw [offline, List.map_map]
    refine List.Nodup.map_on ?_ List.nodup_range
    intro i listed j listed' same
    exact plainContact_injective (List.mem_range.mp listed) (List.mem_range.mp listed') same
  let kept := (List.range' 1 1000).map plainContact
  let first := (List.range' 0 1000).map plainContact
  have shape : offline 1001 = ⟨[], [], 0, [], plainContact 0 :: kept, [], false, []⟩ := by
    rw [offline, List.range_eq_range', List.range'_succ, List.map_cons]
  have full : fetchPage (plainContact 0 :: kept) ⟨[], 0⟩ = .running ⟨first, 1000⟩ := by
    have page : getContacts (plainContact 0 :: kept) pageSize 0 = first := by
      have whole : plainContact 0 :: kept = (List.range' 0 1001).map plainContact := by
        rw [List.range'_succ, List.map_cons]
      rw [whole, getContacts_plain (by omega), List.drop_zero, ← List.map_take,
        List.take_range'_of_length_ge (by decide)]
      rfl
    have length : first.length = 1000 := by rw [List.length_map, List.length_range']
    rw [fetchPage, page, if_neg (by rw [length, pageSize]; omega)]
    rfl
  have short : fetchPage kept ⟨first, 1000⟩ = .arrived first := by
    have page : getContacts kept pageSize 1000 = [] := by
      rw [getContacts_plain (by omega), List.drop_eq_nil_of_le, List.take_nil]
      rw [List.length_map, List.length_range']
    rw [fetchPage, page, if_pos (by decide), List.append_nil]
  have removed : Keyed.remove Contact.publicKey (plainContact 0 :: kept) (plainContact 0).publicKey =
      kept := by
    have others : ∀ contact ∈ kept, contact.publicKey ≠ (plainContact 0).publicKey := by
      intro contact listed
      obtain ⟨i, inside, rfl⟩ := List.mem_map.mp listed
      have bounds := List.mem_range'_1.mp inside
      exact (plainContact_rising (by omega) (by omega)).ne'
    simp only [Keyed.remove, List.filter_cons, ne_eq, not_true_eq_false, decide_false,
      Bool.false_eq_true, if_false]
    exact List.filter_eq_self.mpr fun contact listed => decide_eq_true (others contact listed)
  have last : plainContact 1000 ∈ kept := List.mem_map_of_mem (List.mem_range'_1.mpr (by omega))
  have missing : plainContact 1000 ∉ first := by
    intro listed
    obtain ⟨i, inside, same⟩ := List.mem_map.mp listed
    have bounds := List.mem_range'_1.mp inside
    have equal := plainContact_injective (by omega) (by omega) (congrArg Contact.publicKey same)
    omega
  clear_value kept first
  have ran : ∃ s, Reaches (step comparePlain) Any (offline 1001) s ∧ isQuiet s = true ∧
      s.serverContacts = kept ∧
      s.contacts = mergeSnapshot Contact.publicKey first [] [(plainContact 0).publicKey] := by
    rw [shape]
    generalize (plainContact 0).publicKey = key at removed ⊢
    generalize plainContact 0 = gone at full removed ⊢
    let fetching (touched : List Key) (contacts : Fetch (Pages Unit) (List (Contact Unit)))
        (channels : Fetch Unit (List (Channel Unit))) : Attempt Unit Unit := ⟨1, ⟨touched, []⟩, contacts, channels⟩
    let state (attempt : Attempt Unit Unit) (server : List (Contact Unit)) (queue : List (Delta Unit Unit)) :
        State Unit Unit := ⟨[], [], 1, [attempt], server, [], true, queue⟩
    let merged (channels : Fetch Unit (List (Channel Unit))) : State Unit Unit :=
      ⟨mergeSnapshot Contact.publicKey first [] [key], [], 1, [fetching [key] .succeeded channels], kept, [],
        true, []⟩
    have up : step comparePlain ⟨[], [], 0, [], gone :: kept, [], false, []⟩ .reconnected =
        some (state (fetching [] (.running ⟨[], 0⟩) (.running ())) (gone :: kept) []) := rfl
    have firstPage : step comparePlain (state (fetching [] (.running ⟨[], 0⟩) (.running ())) (gone :: kept) [])
        (.contactsPageRead 0) =
          some (state (fetching [] (.running ⟨first, 1000⟩) (.running ())) (gone :: kept) []) := by
      rw [← full]
      rfl
    have deleted : step comparePlain
        (state (fetching [] (.running ⟨first, 1000⟩) (.running ())) (gone :: kept) [])
        (.changed (.contactDeleted key)) =
          some (state (fetching [] (.running ⟨first, 1000⟩) (.running ())) kept [.contactDeleted key]) :=
      congrArg (fun rest => some (state _ rest _)) removed
    have secondPage : step comparePlain
        (state (fetching [] (.running ⟨first, 1000⟩) (.running ())) kept [.contactDeleted key])
        (.contactsPageRead 0) =
          some (state (fetching [] (.arrived first) (.running ())) kept [.contactDeleted key]) := by
      rw [← short]
      rfl
    have delivered : step comparePlain
        (state (fetching [] (.arrived first) (.running ())) kept [.contactDeleted key]) .delivered =
          some (state (fetching [key] (.arrived first) (.running ())) kept []) := rfl
    have answered : step comparePlain (state (fetching [key] (.arrived first) (.running ())) kept [])
        (.contactsAnswered 0) = some (merged (.running ())) := rfl
    have read : step comparePlain (merged (.running ())) (.channelsRead 0) = some (merged (.arrived [])) := rfl
    have finished : step comparePlain (merged (.arrived [])) (.channelsAnswered 0) =
        some (merged .succeeded) := rfl
    exact ⟨merged .succeeded, .next (.next (.next (.next (.next (.next (.next (.next (.refl _) trivial up)
      trivial firstPage) trivial deleted) trivial secondPage) trivial delivered) trivial answered) trivial read)
      trivial finished, rfl, rfl, rfl⟩
  obtain ⟨s, run, quiet, server, merged⟩ := ran
  have recovers := claim _ s started run (quiet_of_isQuiet quiet)
  have fetched : plainContact 1000 ∈ s.contacts := by
    rw [recovers.1.1.mem_iff, server]
    exact last
  rw [merged] at fetched
  rcases mem_mergeSnapshot.mp fetched with ⟨_, listed⟩ | ⟨_, found⟩
  · exact missing listed
  · exact Option.some_ne_none _ found.symm

end Examples

end Meshloom.Frontend.ReconnectRecovery
