import Meshloom.Proxy.ChannelSession

/-! Slots, messages and sends of a proxy session name the right channel, along every run
that neither pins a channel a second time nor reads a slot whose channel is gone. -/
namespace Meshloom.ChannelSession
open Transition
variable {s t : State}

/-- A slot that is read has its channel at the host, or it takes a channel that no other
slot has; a slot that is set takes a channel that no other slot was given by the host, and
the host keeps the channel while it is adopted. -/
def Allowed (s : State) : Event → Prop
  | .getChannel idx =>
    match s.session.slots.get? idx with
    | some key => (getByKey s.host key).isSome
    | none => idx ∈ s.session.cleared ∨ ∀ channel, (projectHostChannels s.host)[idx]? = some channel →
        ∀ other, s.session.slots.get? other ≠ some channel.key
  | .setChannel idx name secret deleted => setChannelEmpty name secret = true ∨
      deleted = false ∧ ∀ other, other ≠ idx → s.session.slots.get? other = some secret →
        other ∈ s.setByClient
  | _ => True

/-- What a session has to satisfy between two commands. -/
structure Invariant (s : State) : Prop where
  keyed : ∀ key channel, s.host.get? key = some channel → channel.key = key
  disjoint : ∀ idx ∈ s.session.cleared, s.session.slots.get? idx = none
  single : ∀ i j key, s.session.slots.get? i = some key → s.session.slots.get? j = some key → i ≠ j →
    i ∈ s.setByClient ∧ j ∈ s.setByClient
  answered : ∀ idx key, s.session.slots.get? idx = some key → s.answered idx = some key

theorem slotOf_get? {slots : Dict Nat Secret} (found : slotOf slots key = some idx) :
    slots.get? idx = some key := by
  obtain ⟨⟨slot, value⟩, entry, rfl⟩ := Option.map_eq_some_iff.mp found
  have same : value = key := by simpa using List.find?_some entry
  rw [← same]
  exact (Dict.mem_iff_get? slots).mp (List.mem_of_find?_eq_some entry)

/-- A channel message comes out under the slot that has its channel now. -/
theorem dequeue_slot {slots : Dict Nat Secret} {queue rest : List QueuedMessage}
    (taken : dequeue slots queue = (some (.chan key idx text timestamp), rest)) :
    slots.get? idx = some key := by
  induction queue with
  | nil => cases taken
  | cons item later ih =>
      cases item with
      | dm frame => cases taken
      | chan channelKey old message time =>
          simp only [dequeue] at taken
          split at taken
          · exact ih taken
          · rename_i slot found
            cases taken
            exact slotOf_get? found

/-- A slot takes a channel: the part that reading and setting have in common. -/
theorem fill_slot (inv : Invariant s) {slots : Dict Nat Secret} {setByClient : Finset Nat}
    (eq : slots = s.session.slots.set idx secret) (kept : ∀ other, other ≠ idx →
      (other ∈ s.setByClient ↔ other ∈ setByClient))
    (fresh : ∀ other, other ≠ idx → s.session.slots.get? other = some secret →
      other ∈ setByClient ∧ idx ∈ setByClient) :
    ∀ i j key, slots.get? i = some key → slots.get? j = some key → i ≠ j →
      i ∈ setByClient ∧ j ∈ setByClient := by
  subst eq
  intro i j key left right different
  rw [Dict.get?_set] at left right
  by_cases first : i = idx
  · subst first
    rw [if_pos rfl] at left
    rw [if_neg (Ne.symm different)] at right
    cases left
    exact (fresh j (Ne.symm different) right).symm
  · rw [if_neg first] at left
    by_cases second : j = idx
    · subst second
      rw [if_pos rfl] at right
      cases right
      exact fresh i first left
    · rw [if_neg second] at right
      obtain ⟨one, two⟩ := inv.single i j key left right different
      exact ⟨(kept i first).mp one, (kept j second).mp two⟩

theorem get_invariant (inv : Invariant s) (allowed : Allowed s (.getChannel idx)) :
    Invariant (getStep s idx) := by
  simp only [getStep, channelInfo]
  simp only [Allowed] at allowed
  split
  · rename_i cleared
    refine ⟨inv.keyed, inv.disjoint, inv.single, ?_⟩
    intro other key held
    have different : other ≠ idx := by
      rintro rfl
      rw [inv.disjoint _ cleared] at held
      contradiction
    simp only [answer, if_neg different]
    exact inv.answered other key held
  rename_i uncleared
  split
  · rename_i key held
    rw [held] at allowed
    obtain ⟨channel, found⟩ := Option.isSome_iff_exists.mp allowed
    simp only [found]
    refine ⟨inv.keyed, inv.disjoint, inv.single, ?_⟩
    intro other otherKey holds
    simp only [answer]
    split
    · rename_i same
      subst same
      rw [held] at holds
      cases holds
      rw [ChannelInfo.secret?, inv.keyed _ _ found]
    · exact inv.answered other otherKey holds
  · rename_i unpinned
    rw [unpinned] at allowed
    have fresh := allowed.resolve_left uncleared
    split
    · rename_i channel listed
      refine ⟨inv.keyed, ?_, ?_, ?_⟩
      · intro other cleared
        rw [Dict.get?_set, if_neg, inv.disjoint other cleared]
        rintro rfl
        exact uncleared cleared
      · refine fill_slot inv rfl (fun _ _ => Iff.rfl) ?_
        intro other _ holds
        exact (fresh channel listed other holds).elim
      · intro other key holds
        simp only [Dict.get?_set] at holds
        simp only [answer]
        split
        · rename_i same
          rw [if_pos same] at holds
          exact holds
        · rename_i different
          rw [if_neg different] at holds
          exact inv.answered other key holds
    · refine ⟨inv.keyed, inv.disjoint, inv.single, ?_⟩
      intro other key holds
      have different : other ≠ idx := by
        rintro rfl
        rw [unpinned] at holds
        contradiction
      simp only [answer, if_neg different]
      exact inv.answered other key holds

theorem set_invariant (inv : Invariant s) (allowed : Allowed s (.setChannel idx name secret deleted)) :
    Invariant (setStep s idx name secret deleted) := by
  simp only [setStep]
  split
  · refine ⟨inv.keyed, ?_, ?_, ?_⟩
    · intro other cleared
      rw [Dict.get?_pop]
      split
      · rfl
      · rename_i different
        exact inv.disjoint other ((Finset.mem_insert.mp cleared).resolve_left different)
    · intro i j key left right different
      simp only [Dict.get?_pop] at left right
      split at left
      · contradiction
      split at right
      · contradiction
      rename_i first second
      obtain ⟨one, two⟩ := inv.single i j key left right different
      exact ⟨Finset.mem_erase.mpr ⟨first, one⟩, Finset.mem_erase.mpr ⟨second, two⟩⟩
    · intro other key holds
      simp only [Dict.get?_pop] at holds
      split at holds
      · contradiction
      · rename_i different
        simp only [answer, if_neg different]
        exact inv.answered other key holds
  · rename_i filled
    obtain ⟨rfl, single⟩ := allowed.resolve_left filled
    simp only [Bool.false_eq_true, if_false]
    refine ⟨?_, ?_, ?_, ?_⟩
    · intro key channel found
      rw [Dict.get?_set] at found
      split at found
      · rename_i same
        cases found
        exact same.symm
      · exact inv.keyed key channel found
    · intro other cleared
      obtain ⟨different, cleared⟩ := Finset.mem_erase.mp cleared
      rw [Dict.get?_set, if_neg different, inv.disjoint other cleared]
    · refine fill_slot inv rfl ?_ ?_
      · intro other different
        rw [Finset.mem_insert]
        exact ⟨.inr, fun member => member.resolve_left different⟩
      · intro other different holds
        exact ⟨Finset.mem_insert_of_mem (single other different holds), Finset.mem_insert_self _ _⟩
    · intro other key holds
      simp only [Dict.get?_set] at holds
      simp only [answer]
      split
      · rename_i same
        rw [if_pos same] at holds
        exact holds
      · rename_i different
        rw [if_neg different] at holds
        exact inv.answered other key holds

theorem enqueueMessage_keeps (session : Session) (item : QueuedMessage) :
    (enqueueMessage session item).slots = session.slots ∧
      (enqueueMessage session item).cleared = session.cleared := by
  unfold enqueueMessage
  split <;> exact ⟨rfl, rfl⟩

theorem Invariant.queue (inv : Invariant s) {session : Session}
    (same : session.slots = s.session.slots ∧ session.cleared = s.session.cleared) :
    Invariant { s with session } := by
  obtain ⟨keyed, disjoint, single, answered⟩ := inv
  rw [← same.1] at disjoint single answered
  rw [← same.2] at disjoint
  exact ⟨keyed, disjoint, single, answered⟩

theorem step_invariant (inv : Invariant s) (allowed : Allowed s event) (stepped : step s event = some t) :
    Invariant t := by
  cases event with
  | getChannel idx =>
      cases stepped
      exact get_invariant inv allowed
  | setChannel idx name secret deleted =>
      cases stepped
      exact set_invariant inv allowed
  | syncNextMessage =>
      cases stepped
      exact inv.queue ⟨rfl, rfl⟩
  | sendChannelTxtMsg idx =>
      cases stepped
      exact inv
  | hostCreate channel =>
      cases stepped
      refine ⟨?_, inv.disjoint, inv.single, inv.answered⟩
      intro key stored found
      rw [Dict.get?_set] at found
      split at found
      · rename_i same
        cases found
        exact same.symm
      · exact inv.keyed key stored found
  | hostDelete key =>
      cases stepped
      refine ⟨?_, inv.disjoint, inv.single, inv.answered⟩
      intro other stored found
      rw [Dict.get?_pop] at found
      split at found
      · contradiction
      · exact inv.keyed other stored found
  | broadcast channelKey text timestamp =>
      cases stepped
      apply inv.queue
      unfold fanoutMessage
      split
      · exact ⟨rfl, rfl⟩
      · exact enqueueMessage_keeps _ _
  | directMessage frame =>
      cases stepped
      exact inv.queue (enqueueMessage_keeps _ _)

theorem initial_invariant (initial : Initial s) : Invariant s := by
  obtain ⟨slots, cleared, keyed⟩ := initial
  refine ⟨keyed, ?_, ?_, ?_⟩
  · rw [cleared]
    intro idx member
    exact (Finset.notMem_empty idx member).elim
  · rw [slots]
    intro i j key held
    contradiction
  · rw [slots]
    intro idx key held
    contradiction

theorem sent_key (inv : Invariant s) (sent : sendChannel s.host s.session idx = .sent key) :
    s.session.slots.get? idx = some key := by
  unfold sendChannel at sent
  split at sent
  · contradiction
  · rename_i slotKey held
    split at sent
    · contradiction
    · rename_i channel found
      cases sent
      rw [held, inv.keyed _ _ found]

/-- Along every allowed run a slot that is cleared holds no channel, no channel is in two
slots unless the client set both, a channel message comes with the slot of its channel, and
a text goes out on the channel that the last answer gave for its slot. -/
theorem slots_faithful (initial : Initial first) (run : Reaches step Allowed first s) :
    (∀ idx ∈ s.session.cleared, s.session.slots.get? idx = none) ∧
      (∀ i j key, s.session.slots.get? i = some key → s.session.slots.get? j = some key → i ≠ j →
        i ∈ s.setByClient ∧ j ∈ s.setByClient) ∧
      (∀ key idx text timestamp rest, dequeue s.session.slots s.session.messageQueue =
        (some (.chan key idx text timestamp), rest) → s.session.slots.get? idx = some key) ∧
      ∀ idx key, sendChannel s.host s.session idx = .sent key → s.answered idx = some key := by
  have inv : Invariant s := run.invariant step_invariant (initial_invariant initial)
  refine ⟨inv.disjoint, inv.single, fun _ _ _ _ _ taken => dequeue_slot taken, ?_⟩
  intro idx key sent
  exact inv.answered idx key (sent_key inv sent)

/-- A host channel with a number for its key. -/
def numbered (key : Secret) : Channel := ⟨key, ['c', 'h'], .adopted⟩

/-- A session over the channels 2 and 3. -/
def twoChannels : State where
  host := ((Dict.empty : Host).set 2 (numbered 2)).set 3 (numbered 3)
  session := ⟨.empty, ∅, [], 0⟩
  setByClient := ∅
  answered _ := none

theorem twoChannels_initial : Initial twoChannels := by
  refine ⟨rfl, rfl, ?_⟩
  intro key channel found
  simp only [twoChannels, Dict.get?_set, Dict.get?_empty] at found
  split at found
  · rename_i same
    cases found
    exact same.symm
  split at found
  · rename_i same
    cases found
    exact same.symm
  · contradiction

/-- The channel that was read is the one that a text goes out on. -/
theorem read_slot_faithful :
    ∃ s, step twoChannels (.getChannel 1) = some s ∧ sendChannel s.host s.session 1 = .sent 3 ∧
      s.answered 1 = some 3 := by
  have allowed : Allowed twoChannels (.getChannel 1) := by
    refine .inr ?_
    intro channel _ other held
    contradiction
  have sent : sendChannel (getStep twoChannels 1).host (getStep twoChannels 1).session 1 = .sent 3 := rfl
  have run : Reaches step Allowed twoChannels (getStep twoChannels 1) := .next (.refl _) allowed rfl
  exact ⟨_, rfl, sent, (slots_faithful twoChannels_initial run).2.2.2 1 3 sent⟩

/-- A new channel of the host moves the others, so that two reads pin one channel in two
slots; and a slot that was last read as empty sends on a channel that came back. -/
theorem slots_unfaithful :
    (∃ s, execute step twoChannels [.getChannel 0, .hostCreate (numbered 1), .getChannel 1] = some s ∧
      s.session.slots.get? 0 = some 2 ∧ s.session.slots.get? 1 = some 2 ∧ s.setByClient = ∅) ∧
    ∃ s, execute step twoChannels [.getChannel 0, .hostDelete 2, .getChannel 0,
        .hostCreate (numbered 2)] = some s ∧
      sendChannel s.host s.session 0 = .sent 2 ∧ s.answered 0 = none := by
  constructor
  · exact ⟨_, rfl, rfl, rfl, rfl⟩
  · exact ⟨_, rfl, rfl, rfl⟩

end Meshloom.ChannelSession
