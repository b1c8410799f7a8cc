import Meshloom.Radio.ChannelSlotProofs
import Meshloom.Radio.PendingMessages

/-! A message that waits is stored under the key that its slot holds when it is drained. That is
the key it came under as long as no other channel is loaded over a message that waits, and no
lookup fails while an outdated key is on record for the slot. -/
namespace Meshloom.PendingMessages
open Text Transition ChannelSlots
variable {adopts : String → Bool} {s t : State}

/-- No channel is loaded into a slot under which messages of another channel wait, and a lookup
that names no channel finds the slot empty, or on record with its own key or none. -/
def Undisturbed (adopts : String → Bool) (s : State) : Event → Prop
  | .channels (.configured reply) =>
      match s.channels.phase with
      | .configuring channelKey slot _ => reply.applied = true → ∀ message ∈ s.queue,
          message.slot = slot → upper message.key = upper channelKey
      | _ => True
  | .lookedUp reply =>
      match s.task with
      | .resolving message => answer adopts s message.slot reply = none →
          ∀ key, s.channels.radio message.slot = some key →
            ∀ recorded, record s message.slot = some recorded → recorded = upper key
      | _ => True
  | _ => True

/-- A message agrees with the device, or with what is remembered of a slot that is empty now. -/
def Agrees (radio : Nat → Option String) (pending : Dict Nat String) (message : Received) : Prop :=
  match radio message.slot with
  | some key => upper key = upper message.key
  | none => ∀ key, pending.get? message.slot = some key → key = upper message.key

theorem Agrees.keep (agrees : Agrees radio pending message)
    (kept : ∀ slot key, next.get? slot = some key → pending.get? slot = some key) :
    Agrees radio next message := by
  unfold Agrees at agrees ⊢
  split
  · rename_i found
    rw [found] at agrees
    exact agrees
  · rename_i empty
    rw [empty] at agrees
    exact fun key remembered => agrees key (kept _ _ remembered)

theorem Agrees.remember (agrees : Agrees radio pending message) (held : radio slot = some key)
    (value : String) : Agrees radio (pending.set slot value) message := by
  unfold Agrees at agrees ⊢
  split
  · rename_i found
    rw [found] at agrees
    exact agrees
  · rename_i empty
    rw [empty] at agrees
    intro key' remembered
    rw [Dict.get?_set] at remembered
    split at remembered
    · rename_i same
      rw [← same, empty] at held
      contradiction
    · exact agrees key' remembered

def State.Agrees (s : State) (message : Received) : Prop :=
  PendingMessages.Agrees s.channels.radio s.pendingMessageChannelKeyBySlot message

/-- The sync has forgotten the send cache. -/
def Forgotten (s : State) : Prop := ∀ slot, s.channels.manager.channelKeyBySlot.get? slot = none

/-- What a task has found out so far. -/
def Task.Sound (s : State) : Task → Prop
  | .free | .fetching => True
  | .syncing _ _ => Forgotten s
  | .adopting key idx _ => Forgotten s ∧ ∃ held, s.channels.radio idx = some held ∧ key = upper held
  | .clearing idx _ => Forgotten s ∧ ∃ held, s.channels.radio idx = some held ∧
      ∀ key, s.pendingMessageChannelKeyBySlot.get? idx = some key → key = upper held
  | .resolving message => s.Agrees message
  | .adoptingFor message key => key = upper message.key ∧
      ∃ held, s.channels.radio message.slot = some held
  | .storing message key => key = upper message.key

structure Invariant (s : State) : Prop where
  paired : Paired s.channels.manager
  /-- A slot that the send cache knows is not empty. -/
  loaded : ∀ slot key, s.channels.manager.channelKeyBySlot.get? slot = some key →
    s.channels.radio slot ≠ none
  agree : ∀ message ∈ s.queue, s.Agrees message
  sound : s.task.Sound s
  exclusive : s.task = .free ∨ s.channels.phase = .idle
  stored : ∀ entry ∈ s.stored, entry.2 = upper entry.1.key

theorem initial_invariant (initial : Initial s) : Invariant s := by
  obtain ⟨slotByKey, keyBySlot, idle⟩ := initial.channels
  refine ⟨⟨?_, ?_, ?_⟩, ?_, fun message member => ?_, ?_, .inl initial.task, ?_⟩
  · intro k slot
    rw [slotByKey, keyBySlot]
    exact ⟨nofun, nofun⟩
  · rw [slotByKey]
    nofun
  · rw [slotByKey]
    nofun
  · rw [keyBySlot]
    nofun
  · rw [State.Agrees, PendingMessages.Agrees, initial.queue message member]
  · rw [initial.task]
    trivial
  · rw [initial.stored]
    nofun

theorem Forgotten.of_reset (s : State) :
    Forgotten { s with channels :=
      { s.channels with manager := s.channels.manager.resetChannelSendCache } } := fun _ => rfl

/-- What the rest of the state keeps, a task keeps. -/
theorem Task.Sound.keep (sound : s.task.Sound s)
    (forgotten : Forgotten s → Forgotten t) (radio : t.channels.radio = s.channels.radio)
    (pending : ∀ slot key, t.pendingMessageChannelKeyBySlot.get? slot = some key →
      s.pendingMessageChannelKeyBySlot.get? slot = some key) : s.task.Sound t := by
  cases task : s.task with
  | free => trivial
  | fetching => trivial
  | syncing idx limit =>
      rw [task] at sound
      exact forgotten sound
  | adopting key idx limit =>
      rw [task] at sound
      rw [Task.Sound, radio]
      exact sound.imp_left forgotten
  | clearing idx limit =>
      rw [task] at sound
      obtain ⟨cleared, held, found, same⟩ := sound
      rw [Task.Sound, radio]
      exact ⟨forgotten cleared, held, found, fun key remembered => same key (pending _ _ remembered)⟩
  | resolving message =>
      rw [task] at sound
      have agrees : s.Agrees message := sound
      rw [Task.Sound, State.Agrees, radio]
      exact agrees.keep pending
  | adoptingFor message key =>
      rw [task] at sound
      rw [Task.Sound, radio]
      exact sound
  | storing message key =>
      rw [task] at sound
      exact sound

theorem arrive_invariant (invariant : Invariant s) (found : s.channels.radio slot = some key) :
    Invariant { s with queue := s.queue ++ [⟨slot, key⟩] } := by
  refine ⟨invariant.paired, invariant.loaded, fun message member => ?_,
    invariant.sound.keep id rfl fun _ _ same => same, invariant.exclusive, invariant.stored⟩
  obtain old | new := List.mem_append.mp member
  · exact invariant.agree message old
  · obtain rfl := List.mem_singleton.mp new
    simp only [State.Agrees, PendingMessages.Agrees, found]

theorem clearPending_invariant (invariant : Invariant s) :
    Invariant { s with pendingMessageChannelKeyBySlot := .empty } :=
  ⟨invariant.paired, invariant.loaded,
    fun message member => (invariant.agree message member).keep nofun,
    invariant.sound.keep (fun forgotten => forgotten) rfl nofun, invariant.exclusive,
    invariant.stored⟩

/-- A step of the send cache that leaves the device. -/
theorem manager_invariant (invariant : Invariant s) {channels : ChannelSlots.State}
    (radio : channels.radio = s.channels.radio) (paired : Paired channels.manager)
    (shrinks : ∀ slot key, channels.manager.channelKeyBySlot.get? slot = some key →
      s.channels.manager.channelKeyBySlot.get? slot = some key)
    (exclusive : s.task = .free ∨ channels.phase = .idle) : Invariant { s with channels } := by
  refine ⟨paired, fun slot key found => ?_, fun message member => ?_,
    invariant.sound.keep (fun forgotten slot => ?_) radio fun _ _ same => same, exclusive,
    invariant.stored⟩
  · rw [radio]
    exact invariant.loaded slot key (shrinks slot key found)
  · rw [State.Agrees, radio]
    exact invariant.agree message member
  · cases found : channels.manager.channelKeyBySlot.get? slot with
    | none => rfl
    | some key =>
        have cached := shrinks slot key found
        rw [forgotten slot] at cached
        contradiction

theorem invalidate_shrinks (m : Manager) (channelKey : String) (slot : Nat) (key : String)
    (found : (m.invalidateCachedChannelSlot channelKey).channelKeyBySlot.get? slot = some key) :
    m.channelKeyBySlot.get? slot = some key := by
  rw [Manager.invalidateCachedChannelSlot_key] at found
  split at found
  · contradiction
  · exact found

/-- A channel is loaded into a slot: what waits there came under that channel. -/
theorem loaded_invariant (invariant : Invariant s) (free : s.task = .free)
    (same : ∀ message ∈ s.queue, message.slot = slot → upper message.key = upper channelKey)
    {manager : Manager} {phase : Phase} (paired : Paired manager)
    (cached : ∀ other key, manager.channelKeyBySlot.get? other = some key →
      other = slot ∨ s.channels.manager.channelKeyBySlot.get? other = some key) :
    Invariant { s with channels :=
      ⟨manager, setSlot s.channels.radio slot (some (upper channelKey)), phase⟩ } := by
  refine ⟨paired, fun other key found => ?_, fun message member => ?_, ?_, .inl free,
    invariant.stored⟩
  · simp only [setSlot]
    split
    · exact Option.some_ne_none _
    · rename_i different
      exact invariant.loaded other key ((cached other key found).resolve_left different)
  · have agrees := invariant.agree message member
    simp only [State.Agrees, PendingMessages.Agrees, setSlot]
    split
    · rename_i found
      split at found
      · rename_i here
        cases found
        rw [same message member here, upper_upper]
      · simp only [State.Agrees, PendingMessages.Agrees, found] at agrees
        exact agrees
    · rename_i empty
      split at empty
      · contradiction
      · simp only [State.Agrees, PendingMessages.Agrees, empty] at agrees
        exact agrees
  · rw [free]
    trivial

/-- Whether the device took the channel or not, the cache may know the slot only if it did. -/
theorem device_invariant (invariant : Invariant s) (free : s.task = .free)
    (undisturbed : reply.applied = true → ∀ message ∈ s.queue, message.slot = slot →
      upper message.key = upper channelKey)
    {manager : Manager} {phase : Phase} (paired : Paired manager)
    (cached : ∀ other key, manager.channelKeyBySlot.get? other = some key →
      (reply.applied = true ∧ other = slot) ∨
        s.channels.manager.channelKeyBySlot.get? other = some key) :
    Invariant { s with channels :=
      ⟨manager, deviceAfter s.channels channelKey slot reply, phase⟩ } := by
  cases applied : reply.applied with
  | false =>
      have radio : deviceAfter s.channels channelKey slot reply = s.channels.radio := by
        rw [deviceAfter, applied]
        rfl
      refine manager_invariant invariant radio paired (fun other key found => ?_) (.inl free)
      obtain ⟨took, _⟩ | kept := cached other key found
      · rw [applied] at took
        contradiction
      · exact kept
  | true =>
      rw [deviceAfter_applied applied]
      exact loaded_invariant invariant free (undisturbed applied) paired
        fun other key found => (cached other key found).imp_left And.right

theorem evicted_shrinks (m : Manager) (evicted : Option String) (slot : Nat) (key : String)
    (found : (m.invalidateEvicted evicted).channelKeyBySlot.get? slot = some key) :
    m.channelKeyBySlot.get? slot = some key := by
  cases evicted with
  | none => exact found
  | some channelKey => exact invalidate_shrinks m channelKey slot key found

theorem configured_invariant (invariant : Invariant s)
    (phase : s.channels.phase = .configuring channelKey slot evicted)
    (undisturbed : reply.applied = true → ∀ message ∈ s.queue, message.slot = slot →
      upper message.key = upper channelKey) :
    Invariant { s with channels := configuredStep s.channels channelKey slot evicted reply } := by
  have free : s.task = .free := invariant.exclusive.resolve_right (by rw [phase]; nofun)
  have paired := invariant.paired
  cases reply with
  | ok =>
      refine device_invariant invariant free undisturbed (paired_loaded paired _ _)
        fun other key found => ?_
      cases enabled : s.channels.manager.channelSlotReuseEnabled with
      | false =>
          rw [Manager.noteChannelSlotLoaded_disabled enabled] at found
          exact .inr found
      | true =>
          rw [Manager.noteChannelSlotLoaded_key enabled] at found
          split at found
          · rename_i here
            exact .inl ⟨rfl, here⟩
          split at found
          · contradiction
          · exact .inr found
  | error applied =>
      exact device_invariant invariant free undisturbed (paired_evicted paired _)
        fun other key found => .inr (evicted_shrinks _ _ other key found)
  | raised applied =>
      exact device_invariant invariant free undisturbed (paired_evicted paired _)
        fun other key found => .inr (evicted_shrinks _ _ other key found)
  | none applied =>
      exact device_invariant invariant free undisturbed paired fun _ _ found => .inr found

theorem sent_invariant (invariant : Invariant s) (free : s.task = .free)
    (reply : SendReply) :
    Invariant { s with channels := sentStep s.channels channelKey reply } := by
  have paired := invariant.paired
  cases reply with
  | ok =>
      refine manager_invariant invariant rfl (paired_used paired _) (fun slot key found => ?_)
        (.inl free)
      rwa [sentStep, Manager.noteChannelSlotUsed_key paired.key] at found
  | error =>
      exact manager_invariant invariant rfl (paired_invalidate paired _)
        (invalidate_shrinks _ _) (.inl free)
  | raised => exact manager_invariant invariant rfl paired (fun _ _ found => found) (.inl free)
  | none => exact manager_invariant invariant rfl paired (fun _ _ found => found) (.inl free)

theorem lockFree_task (free : lockFree s = true) : s.task = .free ∧ s.channels.phase = .idle := by
  unfold lockFree at free
  split at free
  · rename_i task phase
    exact ⟨task, phase⟩
  · contradiction

theorem channels_invariant (invariant : Invariant s)
    (undisturbed : Undisturbed adopts s (.channels event))
    (stepped : channelsStep s event = some t) : Invariant t := by
  cases event with
  | send channelKey preferredSlot =>
      simp only [channelsStep] at stepped
      split at stepped
      · rename_i free
        obtain ⟨task, idle⟩ := lockFree_task free
        obtain ⟨channels, planning, rfl⟩ := Option.map_eq_some_iff.mp stepped
        rw [ChannelSlots.step, idle] at planning
        obtain ⟨plan, _, rfl⟩ := Option.map_eq_some_iff.mp planning
        unfold planned
        split
        · exact manager_invariant invariant rfl invariant.paired (fun _ _ found => found) (.inl task)
        · exact manager_invariant invariant rfl invariant.paired (fun _ _ found => found) (.inl task)
      · contradiction
  | configured reply =>
      simp only [channelsStep, ChannelSlots.step] at stepped
      obtain ⟨channels, stepped, rfl⟩ := Option.map_eq_some_iff.mp stepped
      split at stepped
      · rename_i channelKey slot evicted phase
        cases stepped
        rw [Undisturbed, phase] at undisturbed
        exact configured_invariant invariant phase undisturbed
      · contradiction
  | sent reply =>
      simp only [channelsStep, ChannelSlots.step] at stepped
      obtain ⟨channels, stepped, rfl⟩ := Option.map_eq_some_iff.mp stepped
      split at stepped
      · rename_i channelKey slot phase
        cases stepped
        exact sent_invariant invariant (invariant.exclusive.resolve_right (by rw [phase]; intro; contradiction)) _
      · contradiction
  | resetCache =>
      cases stepped
      exact manager_invariant invariant rfl (paired_reset _) (by intros; contradiction) invariant.exclusive
  | emptied slot applied => contradiction
  | setForceReconfigure on =>
      cases stepped
      exact manager_invariant invariant rfl (paired_force invariant.paired on)
        (fun _ _ found => found) invariant.exclusive

/-- A task goes on, and nothing else changes. -/
theorem task_invariant (invariant : Invariant s) (idle : s.channels.phase = .idle) {task : Task}
    (sound : task.Sound { s with task }) : Invariant { s with task } :=
  ⟨invariant.paired, invariant.loaded, invariant.agree, sound, .inr idle, invariant.stored⟩

theorem nextSlot_invariant (invariant : Invariant s) (idle : s.channels.phase = .idle)
    (forgotten : Forgotten s) (idx limit : Nat) : Invariant (nextSlot s idx limit) := by
  refine task_invariant invariant idle ?_
  split
  · exact forgotten
  · trivial

theorem named_held (found : named adopts content = some key) :
    ∃ held, content = some held ∧ key = upper held := by
  obtain ⟨held, kept, rfl⟩ := Option.map_eq_some_iff.mp found
  exact ⟨held, (Option.filter_eq_some_iff.mp kept).1, rfl⟩

theorem answer_held (found : answer adopts s slot reply = some key) :
    ∃ held, s.channels.radio slot = some held ∧ key = upper held := by
  unfold answer at found
  split at found
  · exact named_held found
  · contradiction

/-- The record of a slot is the key of a message that waits for it. -/
theorem record_agrees (invariant : Invariant s) (agrees : s.Agrees message)
    (undisturbed : ∀ key, s.channels.radio message.slot = some key →
      ∀ recorded, record s message.slot = some recorded → recorded = upper key)
    (found : record s message.slot = some key) : key = upper message.key := by
  unfold State.Agrees PendingMessages.Agrees at agrees
  cases held : s.channels.radio message.slot with
  | some holds =>
      rw [held] at agrees
      exact (undisturbed holds held key found).trans agrees
  | none =>
      rw [held] at agrees
      have uncached : s.channels.manager.channelKeyBySlot.get? message.slot = none := by
        cases cached : s.channels.manager.channelKeyBySlot.get? message.slot with
        | none => rfl
        | some other => exact absurd held (invariant.loaded _ other cached)
      rw [record, uncached, Option.none_or] at found
      exact agrees key found

theorem lookedUp_invariant (invariant : Invariant s)
    (undisturbed : Undisturbed adopts s (.lookedUp reply))
    (stepped : lookedUpStep adopts s reply = some t) : Invariant t := by
  have sound := invariant.sound
  unfold lookedUpStep at stepped
  split at stepped
  · rename_i idx limit task
    have idle := invariant.exclusive.resolve_left (by rw [task]; nofun)
    rw [task] at sound
    split at stepped
    · cases stepped
      exact task_invariant invariant idle trivial
    · rename_i key _ found
      cases stepped
      exact task_invariant invariant idle ⟨sound, answer_held found⟩
    · cases stepped
      exact nextSlot_invariant invariant idle sound _ _
  · rename_i message task
    have idle := invariant.exclusive.resolve_left (by rw [task]; nofun)
    rw [task] at sound
    rw [Undisturbed, task] at undisturbed
    split at stepped
    · rename_i key found
      cases stepped
      obtain ⟨held, holds, rfl⟩ := answer_held found
      have agrees : s.Agrees message := sound
      rw [State.Agrees, PendingMessages.Agrees, holds] at agrees
      exact task_invariant invariant idle ⟨agrees, held, holds⟩
    · rename_i unnamed
      cases stepped
      unfold resolveByRecord
      split
      · rename_i key found
        exact task_invariant invariant idle
          (record_agrees invariant sound (undisturbed unnamed) found)
      · exact task_invariant invariant idle trivial
  · contradiction

/-- A key is remembered for a slot that holds it. -/
theorem remember_invariant (invariant : Invariant s) (idle : s.channels.phase = .idle)
    (held : s.channels.radio slot = some holds) (key : String) {task : Task}
    (sound : task.Sound { rememberPendingMessageChannelSlot s key slot with task }) :
    Invariant { rememberPendingMessageChannelSlot s key slot with task } :=
  ⟨invariant.paired, invariant.loaded,
    fun message member => (invariant.agree message member).remember held (upper key), sound,
    .inr idle, invariant.stored⟩

theorem adopted_invariant (invariant : Invariant s) (stepped : adoptedStep s ok = some t) :
    Invariant t := by
  have sound := invariant.sound
  unfold adoptedStep at stepped
  split at stepped
  · rename_i key idx limit task
    have idle := invariant.exclusive.resolve_left (by rw [task]; intro; contradiction)
    rw [task] at sound
    obtain ⟨forgotten, held, holds, rfl⟩ := sound
    split at stepped
    · cases stepped
      refine remember_invariant invariant idle holds (upper held) ⟨forgotten, held, holds, ?_⟩
      intro key remembered
      simp only [rememberPendingMessageChannelSlot, Dict.get?_set, if_pos] at remembered
      rw [← Option.some.inj remembered, upper_upper]
    · cases stepped
      exact task_invariant invariant idle trivial
  · rename_i message key task
    have idle := invariant.exclusive.resolve_left (by rw [task]; intro; contradiction)
    rw [task] at sound
    obtain ⟨same, held, holds⟩ := sound
    split at stepped
    · cases stepped
      exact remember_invariant invariant idle holds key same
    · cases stepped
      exact task_invariant invariant idle trivial
  · contradiction

/-- What waits under a slot that is emptied came under the key remembered for it. -/
theorem cleared_agrees (agrees : s.Agrees message) (holds : s.channels.radio idx = some held)
    (remembered : ∀ key, s.pendingMessageChannelKeyBySlot.get? idx = some key → key = upper held) :
    Agrees (setSlot s.channels.radio idx none) s.pendingMessageChannelKeyBySlot message := by
  unfold State.Agrees PendingMessages.Agrees at agrees
  unfold Agrees setSlot
  by_cases here : message.slot = idx
  · rw [here, holds] at agrees
    rw [if_pos here, here]
    exact fun key found => (remembered key found).trans agrees
  · rw [if_neg here]
    exact agrees

theorem cleared_invariant (invariant : Invariant s) (stepped : clearedStep s reply = some t) :
    Invariant t := by
  have sound := invariant.sound
  unfold clearedStep at stepped
  split at stepped
  · rename_i idx limit task
    have idle := invariant.exclusive.resolve_left (by rw [task]; nofun)
    rw [task] at sound
    obtain ⟨forgotten, held, holds, remembered⟩ := sound
    cases stepped
    split
    · have agree : ∀ message ∈ s.queue, Agrees (setSlot s.channels.radio idx none)
          s.pendingMessageChannelKeyBySlot message := fun message member =>
        cleared_agrees (invariant.agree message member) holds remembered
      refine ⟨invariant.paired, fun slot key cached => ?_, agree, ?_, .inr idle, invariant.stored⟩
      · have absent := forgotten slot
        exact absurd (absent.symm.trans cached) nofun
      · simp only [nextSlot]
        split
        · exact forgotten
        · trivial
    · exact nextSlot_invariant invariant idle forgotten _ _
  · contradiction

theorem fetched_invariant (invariant : Invariant s) (stepped : fetchedStep s reply = some t) :
    Invariant t := by
  unfold fetchedStep at stepped
  split at stepped
  · rename_i task
    have idle := invariant.exclusive.resolve_left (by rw [task]; nofun)
    split at stepped
    · cases stepped
      exact task_invariant invariant idle trivial
    · contradiction
    · rename_i message rest waits
      cases stepped
      have agree : ∀ other ∈ message :: rest, s.Agrees other := waits ▸ invariant.agree
      exact ⟨invariant.paired, invariant.loaded,
        fun other member => agree other (List.mem_cons_of_mem _ member),
        agree message List.mem_cons_self, .inr idle, invariant.stored⟩
    · rename_i message rest waits
      cases stepped
      have agree : ∀ other ∈ message :: rest, s.Agrees other := waits ▸ invariant.agree
      exact ⟨invariant.paired, invariant.loaded,
        fun other member => agree other (List.mem_cons_of_mem _ member), trivial, .inr idle,
        invariant.stored⟩
  · contradiction

theorem stored_invariant (invariant : Invariant s) (stepped : storedStep s ok = some t) :
    Invariant t := by
  have sound := invariant.sound
  unfold storedStep at stepped
  split at stepped
  · rename_i message key task
    have idle := invariant.exclusive.resolve_left (by rw [task]; nofun)
    rw [task] at sound
    split at stepped
    · cases stepped
      refine ⟨invariant.paired, invariant.loaded, invariant.agree, trivial, .inr idle, ?_⟩
      intro entry member
      obtain rfl | old := List.mem_cons.mp member
      · exact sound
      · exact invariant.stored entry old
    · cases stepped
      exact task_invariant invariant idle trivial
  · contradiction

theorem step_invariant (invariant : Invariant s) (undisturbed : Undisturbed adopts s e)
    (stepped : step adopts s e = some t) : Invariant t := by
  cases e with
  | arrive slot =>
      obtain ⟨key, found, rfl⟩ := Option.map_eq_some_iff.mp stepped
      exact arrive_invariant invariant found
  | channels event => exact channels_invariant invariant undisturbed stepped
  | clearPending =>
      cases stepped
      exact clearPending_invariant invariant
  | sync limit =>
      simp only [step] at stepped
      split at stepped
      · rename_i free
        obtain ⟨task, idle⟩ := lockFree_task free
        cases stepped
        let channels :=
          { s.channels with manager := s.channels.manager.resetChannelSendCache }
        have reset : Invariant { s with channels } :=
          manager_invariant invariant rfl (paired_reset _) nofun (.inl task)
        exact nextSlot_invariant reset idle (Forgotten.of_reset s) 0 limit
      · contradiction
  | drain =>
      simp only [step] at stepped
      split at stepped
      · rename_i free
        cases stepped
        exact task_invariant invariant (lockFree_task free).2 trivial
      · contradiction
  | lookedUp reply => exact lookedUp_invariant invariant undisturbed stepped
  | adopted ok => exact adopted_invariant invariant stepped
  | cleared reply => exact cleared_invariant invariant stepped
  | fetched reply => exact fetched_invariant invariant stepped
  | stored ok => exact stored_invariant invariant stepped

/-- Every message that is stored is stored under the key its slot held when it came. -/
theorem queued_messages_kept (initial : Initial s)
    (run : Reaches (step adopts) (Undisturbed adopts) s t) :
    ∀ entry ∈ t.stored, entry.2 = upper entry.1.key :=
  (run.invariant step_invariant (initial_invariant initial)).stored

/-- A serial session; the device holds one channel, under which a message waits. -/
def waiting : State where
  channels := ⟨⟨.empty, .empty, false, some "Serial: /dev/ttyUSB0", false, some 1⟩,
    setSlot (fun _ => none) 0 (some "A1"), .idle⟩
  pendingMessageChannelKeyBySlot := .empty
  queue := [⟨0, "A1"⟩]
  task := .free
  stored := []

theorem waiting_initial : Initial waiting :=
  ⟨⟨rfl, rfl, rfl⟩, rfl, by simp [waiting, setSlot], rfl, rfl⟩

theorem answered_undisturbed (t : State) :
    Undisturbed (fun _ => true) t (.lookedUp .channelInfo) := by
  simp only [Undisturbed]
  split
  · intro unnamed key held
    simp [answer, named, held] at unnamed
  · trivial

/-- A sync remembers the channel before it empties the slot; the message is stored under it. -/
theorem waiting_kept : ∃ t, Reaches (step fun _ => true) (Undisturbed fun _ => true) waiting t ∧
    t.stored = [(⟨0, "A1"⟩, "A1")] ∧ ∀ entry ∈ t.stored, entry.2 = upper entry.1.key := by
  have ran : ∃ t, execute (step fun _ => true) waiting
      [.sync 1, .lookedUp .channelInfo, .adopted true, .cleared .ok, .drain, .fetched .message,
        .lookedUp .channelInfo, .stored true] = some t ∧ t.stored = [(⟨0, "A1"⟩, "A1")] := by
    refine ⟨_, rfl, ?_⟩
    rfl
  obtain ⟨t, ran, stored⟩ := ran
  have run : Reaches (step fun _ => true) (Undisturbed fun _ => true) waiting t := by
    refine execute_reaches_where (fun u e member => ?_) ran
    simp only [List.mem_cons, List.not_mem_nil, or_false] at member
    obtain rfl | rfl | rfl | rfl | rfl | rfl | rfl | rfl := member
    all_goals first | exact answered_undisturbed u | trivial
  exact ⟨t, run, stored, queued_messages_kept waiting_initial run⟩

/-- A channel is loaded over the one under which a message waits; the message is stored under
the channel that was loaded. -/
theorem overwritten_misfiled :
    ¬ ∀ (adopts : String → Bool) (s t : State), Initial s → Reaches (step adopts) Any s t →
      ∀ entry ∈ t.stored, entry.2 = upper entry.1.key := by
  intro kept
  have ran : ∃ t, execute (step fun _ => true) waiting
      [.channels (.send "b2" 0), .channels (.configured .ok), .channels (.sent .ok), .drain,
        .fetched .message, .lookedUp .channelInfo, .adopted true, .stored true] = some t ∧
      t.stored = [(⟨0, "A1"⟩, "B2")] := by
    refine ⟨_, rfl, ?_⟩
    rfl
  obtain ⟨t, ran, stored⟩ := ran
  have same := kept _ _ t waiting_initial (execute_reaches ran) (⟨0, "A1"⟩, "B2")
    (by rw [stored]; exact List.mem_cons_self)
  exact absurd same (by decide)

end Meshloom.PendingMessages
