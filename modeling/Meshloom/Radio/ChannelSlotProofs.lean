import Meshloom.Radio.ChannelSlots

/-! Coherence of the channel-slot cache with the device. The two maps of the
cache stay inverse to each other whatever happens. The cached owner of a slot is
the channel that the device holds there as long as no applied `set_channel` is
left unrecorded, and that condition on the single step is exact. -/
namespace Meshloom.ChannelSlots
open Text Transition
variable {m : Manager} {radio : Nat → Option String}

namespace Manager

theorem noteChannelSlotLoaded_disabled (disabled : m.channelSlotReuseEnabled = false) :
    m.noteChannelSlotLoaded channelKey slot = m := by
  simp [noteChannelSlotLoaded, disabled]

theorem noteChannelSlotLoaded_slot (enabled : m.channelSlotReuseEnabled = true)
    (channelKey : String) (slot : Nat) (k : String) :
    (m.noteChannelSlotLoaded channelKey slot).channelSlotByKey.get? k =
      if k = upper channelKey then some slot
      else if m.channelKeyBySlot.get? slot = some k then none
      else m.channelSlotByKey.get? k := by
  simp only [noteChannelSlotLoaded, enabled]
  grind [Dict.get?_set, Dict.get?_pop]

theorem noteChannelSlotLoaded_key (enabled : m.channelSlotReuseEnabled = true)
    (channelKey : String) (slot s : Nat) :
    (m.noteChannelSlotLoaded channelKey slot).channelKeyBySlot.get? s =
      if s = slot then some (upper channelKey)
      else if m.channelSlotByKey.get? (upper channelKey) = some s then none
      else m.channelKeyBySlot.get? s := by
  simp only [noteChannelSlotLoaded, enabled]
  grind [Dict.get?_set, Dict.get?_pop]

theorem noteChannelSlotUsed_slot (m : Manager) (channelKey k : String) :
    (m.noteChannelSlotUsed channelKey).channelSlotByKey.get? k = m.channelSlotByKey.get? k := by
  simp only [noteChannelSlotUsed]
  grind [Dict.get?_moveToEnd]

theorem noteChannelSlotUsed_key (paired : ∀ k s, m.channelSlotByKey.get? k = some s →
      m.channelKeyBySlot.get? s = some k) (channelKey : String) (s : Nat) :
    (m.noteChannelSlotUsed channelKey).channelKeyBySlot.get? s = m.channelKeyBySlot.get? s := by
  simp only [noteChannelSlotUsed]
  grind [Dict.get?_set]

theorem forgetChannelSlot_slot (m : Manager) (slot : Nat) (k : String) :
    (m.forgetChannelSlot slot).channelSlotByKey.get? k =
      if m.channelKeyBySlot.get? slot = some k ∧ m.channelSlotByKey.get? k = some slot then none
      else m.channelSlotByKey.get? k := by
  simp only [forgetChannelSlot]
  grind [Dict.get?_pop]

theorem forgetChannelSlot_key (m : Manager) (slot s : Nat) :
    (m.forgetChannelSlot slot).channelKeyBySlot.get? s =
      if s = slot then none else m.channelKeyBySlot.get? s := by
  simp only [forgetChannelSlot]
  grind [Dict.get?_pop]

theorem invalidateCachedChannelSlot_slot (m : Manager) (channelKey k : String) :
    (m.invalidateCachedChannelSlot channelKey).channelSlotByKey.get? k =
      if k = upper channelKey then none else m.channelSlotByKey.get? k := by
  simp only [invalidateCachedChannelSlot]
  grind [Dict.get?_pop]

theorem invalidateCachedChannelSlot_key (m : Manager) (channelKey : String) (s : Nat) :
    (m.invalidateCachedChannelSlot channelKey).channelKeyBySlot.get? s =
      if m.channelSlotByKey.get? (upper channelKey) = some s ∧
        m.channelKeyBySlot.get? s = some (upper channelKey) then none
      else m.channelKeyBySlot.get? s := by
  simp only [invalidateCachedChannelSlot]
  grind [Dict.get?_pop]

theorem linkReusesSlots_of_enabled (enabled : m.channelSlotReuseEnabled = true) :
    m.linkReusesSlots = true := by
  unfold channelSlotReuseEnabled at enabled
  split at enabled
  · contradiction
  · exact enabled

@[simp] theorem linkReusesSlots_loaded (m : Manager) (channelKey : String) (slot : Nat) :
    (m.noteChannelSlotLoaded channelKey slot).linkReusesSlots = m.linkReusesSlots := by
  unfold noteChannelSlotLoaded
  split <;> rfl

@[simp] theorem linkReusesSlots_used (m : Manager) (channelKey : String) :
    (m.noteChannelSlotUsed channelKey).linkReusesSlots = m.linkReusesSlots := by
  unfold noteChannelSlotUsed
  split
  · rfl
  · dsimp only
    split <;> rfl

@[simp] theorem linkReusesSlots_forget (m : Manager) (slot : Nat) :
    (m.forgetChannelSlot slot).linkReusesSlots = m.linkReusesSlots := by
  unfold forgetChannelSlot
  dsimp only
  split
  · rfl
  · split <;> rfl

@[simp] theorem linkReusesSlots_invalidate (m : Manager) (channelKey : String) :
    (m.invalidateCachedChannelSlot channelKey).linkReusesSlots = m.linkReusesSlots := by
  unfold invalidateCachedChannelSlot
  dsimp only
  split
  · rfl
  · split <;> rfl

end Manager

/-- The two maps of the cache are inverse, hold normalized keys only, and are
filled only on a link that can reuse slots. -/
structure Paired (m : Manager) : Prop where
  inverse : ∀ k s, m.channelSlotByKey.get? k = some s ↔ m.channelKeyBySlot.get? s = some k
  normal : ∀ k s, m.channelSlotByKey.get? k = some s → upper k = k
  reusable : ∀ k s, m.channelSlotByKey.get? k = some s → m.linkReusesSlots = true

/-- What the cache says of a slot is what the device holds there. -/
def Held (m : Manager) (radio : Nat → Option String) : Prop :=
  ∀ s k, m.channelKeyBySlot.get? s = some k → radio s = some k

theorem Paired.key (paired : Paired m) (k s) :
    m.channelSlotByKey.get? k = some s → m.channelKeyBySlot.get? s = some k :=
  (paired.inverse k s).mp

theorem Paired.slot (paired : Paired m) (k s) :
    m.channelKeyBySlot.get? s = some k → m.channelSlotByKey.get? k = some s :=
  (paired.inverse k s).mpr

/-- An operation that only drops entries, from both maps at once. -/
theorem Paired.shrink {n : Manager} (paired : Paired m)
    (link : n.linkReusesSlots = m.linkReusesSlots)
    (inverse : ∀ k s, n.channelSlotByKey.get? k = some s ↔ n.channelKeyBySlot.get? s = some k)
    (shrinks : ∀ k s, n.channelSlotByKey.get? k = some s → m.channelSlotByKey.get? k = some s) :
    Paired n where
  inverse := inverse
  normal k s found := paired.normal k s (shrinks k s found)
  reusable k s found := link.trans (paired.reusable k s (shrinks k s found))

theorem paired_reset (m : Manager) : Paired m.resetChannelSendCache := by
  constructor <;> simp [Manager.resetChannelSendCache]

theorem paired_force (paired : Paired m) (on : Bool) :
    Paired { m with forceChannelSlotReconfigure := on } :=
  paired.shrink rfl paired.inverse (fun _ _ found => found)

theorem paired_loaded (paired : Paired m) (channelKey : String) (slot : Nat) :
    Paired (m.noteChannelSlotLoaded channelKey slot) := by
  cases enabled : m.channelSlotReuseEnabled with
  | false => simpa only [Manager.noteChannelSlotLoaded_disabled enabled] using paired
  | true =>
      refine ⟨fun k s => ?_, fun k s found => ?_, fun _ _ _ => ?_⟩
      · rw [Manager.noteChannelSlotLoaded_slot enabled, Manager.noteChannelSlotLoaded_key enabled]
        grind [paired.key, paired.slot]
      · rw [Manager.noteChannelSlotLoaded_slot enabled] at found
        split at found
        · subst k
          exact upper_upper channelKey
        · split at found
          · contradiction
          · exact paired.normal k s found
      · rw [Manager.linkReusesSlots_loaded]
        exact Manager.linkReusesSlots_of_enabled enabled

theorem paired_used (paired : Paired m) (channelKey : String) :
    Paired (m.noteChannelSlotUsed channelKey) := by
  refine paired.shrink (m.linkReusesSlots_used channelKey) (fun k s => ?_) (fun k s found => ?_)
  · rw [Manager.noteChannelSlotUsed_slot, Manager.noteChannelSlotUsed_key paired.key]
    exact paired.inverse k s
  · rwa [Manager.noteChannelSlotUsed_slot] at found

theorem paired_forget (paired : Paired m) (slot : Nat) : Paired (m.forgetChannelSlot slot) := by
  refine paired.shrink (m.linkReusesSlots_forget slot) (fun k s => ?_) (fun k s found => ?_)
  · rw [Manager.forgetChannelSlot_slot, Manager.forgetChannelSlot_key]
    grind [paired.key, paired.slot]
  · rw [Manager.forgetChannelSlot_slot] at found
    grind

theorem paired_invalidate (paired : Paired m) (channelKey : String) :
    Paired (m.invalidateCachedChannelSlot channelKey) := by
  refine paired.shrink (m.linkReusesSlots_invalidate channelKey) (fun k s => ?_)
    (fun k s found => ?_)
  · rw [Manager.invalidateCachedChannelSlot_slot, Manager.invalidateCachedChannelSlot_key]
    grind [paired.key, paired.slot]
  · rw [Manager.invalidateCachedChannelSlot_slot] at found
    grind

theorem paired_evicted (paired : Paired m) (evicted : Option String) :
    Paired (m.invalidateEvicted evicted) := by
  cases evicted with
  | none => exact paired
  | some key => exact paired_invalidate paired key

/-! ### One step -/

structure Invariant (s : State) : Prop where
  paired : Paired s.manager
  held : Held s.manager s.radio
  evicting : ∀ channelKey slot evicted, s.phase = .configuring channelKey slot (some evicted) →
    upper evicted = evicted
  sending : ∀ channelKey slot, s.phase = .sending channelKey slot →
    s.radio slot = some (upper channelKey)

theorem initial_invariant (initial : Initial s) : Invariant s := by
  obtain ⟨slots, keys, idle⟩ := initial
  refine ⟨⟨?_, ?_, ?_⟩, ?_, ?_, ?_⟩ <;> simp [slots, keys, idle, Held]

/-- The condition on a step: a `set_channel` that the device applies over a
slot cached for another channel is recorded. A success is recorded when slots
are reused at that moment, an ERROR or an exception when the plan evicted that
very channel; an absent reply never is. -/
def Recorded (s : State) : Event → Prop
  | .configured reply =>
    match s.phase with
    | .configuring channelKey slot evicted =>
      ∀ owner, s.manager.channelKeyBySlot.get? slot = some owner → owner ≠ upper channelKey →
        reply.applied = true →
        match reply with
        | .ok => s.manager.channelSlotReuseEnabled = true
        | .error _ | .raised _ => evicted = some owner
        | .none _ => False
    | _ => True
  | _ => True

/-- A plan that needs no configuration is a cache hit. -/
theorem Manager.plan_reuses
    (plan : m.planChannelSendSlot channelKey preferredSlot = some ⟨slot, false, evicted⟩) :
    m.channelSlotByKey.get? (upper channelKey) = some slot := by
  unfold Manager.planChannelSendSlot at plan
  split at plan
  · simp at plan
  · split at plan
    · simp_all
    · dsimp only at plan
      split at plan
      · simp at plan
      · simp at plan

/-- A plan evicts a cached channel, from its own slot. -/
theorem Manager.plan_evicts
    (plan : m.planChannelSendSlot channelKey preferredSlot = some ⟨slot, configure, some evicted⟩) :
    m.channelSlotByKey.get? evicted = some slot := by
  unfold Manager.planChannelSendSlot at plan
  split at plan
  · simp at plan
  · split at plan
    · simp at plan
    · dsimp only at plan
      split at plan
      · simp at plan
      · obtain ⟨⟨key, first⟩, found, same⟩ := Option.map_eq_some_iff.mp plan
        simp only [Manager.Plan.mk.injEq, Option.some.injEq] at same
        obtain ⟨rfl, _, rfl⟩ := same
        exact Dict.first?_get? found

theorem planned_invariant (invariant : Invariant s)
    (plan : s.manager.planChannelSendSlot channelKey preferredSlot = some p) :
    Invariant (planned s channelKey p) := by
  obtain ⟨slot, needsConfigure, evicted⟩ := p
  cases needsConfigure with
  | true =>
      refine ⟨invariant.paired, invariant.held, ?_, by simp [planned]⟩
      simp only [planned, if_true, Phase.configuring.injEq]
      rintro _ _ key ⟨rfl, rfl, rfl⟩
      exact invariant.paired.normal _ _ (Manager.plan_evicts plan)
  | false =>
      refine ⟨invariant.paired, invariant.held, by simp [planned], ?_⟩
      simp only [planned, Bool.false_eq_true, if_false, Phase.sending.injEq]
      rintro _ _ ⟨rfl, rfl⟩
      exact invariant.held _ _ (invariant.paired.key _ _ (Manager.plan_reuses plan))

theorem deviceAfter_applied (applied : reply.applied = true) :
    deviceAfter s channelKey slot reply = setSlot s.radio slot (some (upper channelKey)) :=
  if_pos applied

theorem held_deviceAfter (held : Held m s.radio)
    (other : ∀ owner, m.channelKeyBySlot.get? slot = some owner →
      reply.applied = true → owner = upper channelKey) :
    Held m (deviceAfter s channelKey slot reply) := by
  intro t k found
  unfold deviceAfter
  split
  · unfold setSlot
    split
    · subst t
      rw [other k found ‹_›]
    · exact held t k found
  · exact held t k found

theorem held_loaded (held : Held m s.radio)
    (enabled : m.channelSlotReuseEnabled = true) :
    Held (m.noteChannelSlotLoaded channelKey slot) (deviceAfter s channelKey slot .ok) := by
  intro t k found
  rw [Manager.noteChannelSlotLoaded_key enabled] at found
  rw [deviceAfter_applied rfl, setSlot]
  split at found
  · rw [if_pos ‹_›, found]
  · rw [if_neg ‹_›]
    split at found
    · contradiction
    · exact held t k found

theorem held_evicted (paired : Paired m) (held : Held m s.radio)
    (recorded : ∀ owner, m.channelKeyBySlot.get? slot = some owner → owner ≠ upper channelKey →
      reply.applied = true → evicted = some owner) :
    Held (m.invalidateEvicted evicted) (deviceAfter s channelKey slot reply) := by
  have shrinks : ∀ t k, (m.invalidateEvicted evicted).channelKeyBySlot.get? t = some k →
      m.channelKeyBySlot.get? t = some k ∧ evicted ≠ some k := by
    intro t k found
    cases evicted with
    | none => exact ⟨found, by simp⟩
    | some key =>
        simp only [Manager.invalidateEvicted] at found
        rw [Manager.invalidateCachedChannelSlot_key] at found
        split at found
        · contradiction
        · refine ⟨found, ?_⟩
          rintro ⟨⟩
          have cached := paired.slot _ _ found
          have normal := paired.normal _ _ cached
          simp_all
  refine held_deviceAfter (fun t k found => held t k (shrinks t k found).1) ?_
  intro owner found applied
  obtain ⟨cached, kept⟩ := shrinks slot owner found
  by_contra different
  exact kept (recorded owner cached different applied)

theorem configured_invariant (invariant : Invariant s)
    (phase : s.phase = .configuring channelKey slot evicted)
    (recorded : Recorded s (.configured reply)) :
    Invariant (configuredStep s channelKey slot evicted reply) := by
  simp only [Recorded, phase] at recorded
  obtain ⟨paired, held, _, _⟩ := invariant
  cases reply with
  | ok =>
      refine ⟨paired_loaded paired channelKey slot, ?_, by simp [configuredStep], ?_⟩
      · cases enabled : s.manager.channelSlotReuseEnabled with
        | true => exact held_loaded held enabled
        | false =>
            rw [configuredStep, Manager.noteChannelSlotLoaded_disabled enabled]
            show Held s.manager (deviceAfter s channelKey slot .ok)
            apply held_deviceAfter held
            intro owner cached _
            by_contra different
            simpa [enabled] using recorded owner cached different rfl
      · simp only [configuredStep, Phase.sending.injEq]
        rintro _ _ ⟨rfl, rfl⟩
        rw [deviceAfter_applied rfl, setSlot, if_pos rfl]
  | error applied =>
      exact ⟨paired_evicted paired evicted, held_evicted paired held recorded,
        by simp [configuredStep], by simp [configuredStep]⟩
  | raised applied =>
      exact ⟨paired_evicted paired evicted, held_evicted paired held recorded,
        by simp [configuredStep], by simp [configuredStep]⟩
  | none applied =>
      refine ⟨paired, held_deviceAfter held fun owner cached applied => ?_,
        by simp [configuredStep], by simp [configuredStep]⟩
      by_contra different
      exact recorded owner cached different applied

/-- Invalidating one channel leaves the slots of the others. -/
theorem evicted_kept (cached : m.channelKeyBySlot.get? slot = some owner)
    (normal : ∀ key, evicted = some key → upper key = key) (kept : evicted ≠ some owner) :
    (m.invalidateEvicted evicted).channelKeyBySlot.get? slot = some owner := by
  cases evicted with
  | none => exact cached
  | some key =>
      rw [Manager.invalidateEvicted, Manager.invalidateCachedChannelSlot_key, if_neg]
      · exact cached
      · rintro ⟨_, found⟩
        rw [normal key rfl] at found
        exact kept (found.symm.trans cached)

theorem sent_invariant (invariant : Invariant s) : Invariant (sentStep s channelKey reply) := by
  obtain ⟨paired, held, _, _⟩ := invariant
  cases reply with
  | ok =>
      refine ⟨paired_used paired channelKey, fun t k found => held t k ?_,
        by simp [sentStep], by simp [sentStep]⟩
      rwa [sentStep, Manager.noteChannelSlotUsed_key paired.key] at found
  | error =>
      refine ⟨paired_invalidate paired channelKey, fun t k found => held t k ?_,
        by simp [sentStep], by simp [sentStep]⟩
      rw [sentStep, Manager.invalidateCachedChannelSlot_key] at found
      split at found
      · contradiction
      · exact found
  | raised => exact ⟨paired, held, by simp [sentStep], by simp [sentStep]⟩
  | none => exact ⟨paired, held, by simp [sentStep], by simp [sentStep]⟩

theorem held_emptied (held : Held m radio) (slot : Nat) (applied : Bool) :
    Held (m.forgetChannelSlot slot) (if applied then setSlot radio slot none else radio) := by
  intro t k found
  rw [Manager.forgetChannelSlot_key] at found
  split at found
  · contradiction
  · split
    · simpa only [setSlot, if_neg ‹¬ t = slot›] using held t k found
    · exact held t k found

theorem step_invariant (invariant : Invariant s) (recorded : Recorded s e)
    (stepped : step s e = some t) : Invariant t := by
  cases e with
  | send channelKey preferredSlot =>
      simp only [step] at stepped
      split at stepped
      · obtain ⟨p, plan, rfl⟩ := Option.map_eq_some_iff.mp stepped
        exact planned_invariant invariant plan
      · contradiction
  | configured reply =>
      simp only [step] at stepped
      split at stepped
      · cases stepped
        exact configured_invariant invariant ‹_› recorded
      · contradiction
  | sent reply =>
      simp only [step] at stepped
      split at stepped
      · cases stepped
        exact sent_invariant invariant
      · contradiction
  | resetCache =>
      cases stepped
      refine ⟨paired_reset s.manager, ?_, invariant.evicting, invariant.sending⟩
      simp [Held, Manager.resetChannelSendCache]
  | emptied slot applied =>
      simp only [step] at stepped
      split at stepped
      · rename_i idle
        cases stepped
        exact ⟨paired_forget invariant.paired slot, held_emptied invariant.held slot applied,
          by simp [idle], by simp [idle]⟩
      · contradiction
  | setForceReconfigure on =>
      cases stepped
      exact ⟨paired_force invariant.paired on, invariant.held, invariant.evicting, invariant.sending⟩

/-! ### Whole runs -/

/-- Every `send_chan_msg` that is issued, and every plan that reuses a slot,
finds the channel it is for in that slot of the device. -/
def Faithful (s : State) : Prop :=
  (∀ channelKey slot, s.phase = .sending channelKey slot →
    s.radio slot = some (upper channelKey)) ∧
  ∀ channelKey preferredSlot slot evicted,
    s.manager.planChannelSendSlot channelKey preferredSlot = some ⟨slot, false, evicted⟩ →
    s.radio slot = some (upper channelKey)

theorem invariant_faithful (invariant : Invariant s) : Faithful s := by
  refine ⟨invariant.sending, fun channelKey preferredSlot slot evicted plan => ?_⟩
  exact invariant.held _ _ (invariant.paired.key _ _ (Manager.plan_reuses plan))

theorem recorded_invariant (initial : Initial s) (run : Reaches step Recorded s t) : Invariant t :=
  run.invariant step_invariant (initial_invariant initial)

/-- A message is on its way from a slot that holds another channel. -/
def Misrouted (s : State) : Prop :=
  ∃ channelKey slot, s.phase = .sending channelKey slot ∧ s.radio slot ≠ some (upper channelKey)

/-- A cached owner that the device no longer holds is enough to misroute: the
pending send ends, the workaround is switched off, and the owner is sent to. -/
theorem stale_misroutes (paired : Paired s.manager)
    (cached : s.manager.channelKeyBySlot.get? slot = some owner)
    (stale : s.radio slot ≠ some owner)
    (settled : s.phase = .idle ∨ ∃ channelKey, s.phase = .sending channelKey slot) :
    ∃ t, Reaches step Any s t ∧ Misrouted t := by
  have hit := paired.slot _ _ cached
  have normal := paired.normal _ _ hit
  have idle : Reaches step Any s { s with phase := .idle } := by
    rcases settled with idle | ⟨channelKey, sending⟩
    · rw [← idle]
      exact .refl s
    · exact .next (.refl s) trivial (e := .sent .none) (by simp [step, sending, sentStep])
  let reusing : State :=
    { s with phase := .idle, manager := { s.manager with forceChannelSlotReconfigure := false } }
  have enabled : reusing.manager.channelSlotReuseEnabled = true := paired.reusable _ _ hit
  have plan : reusing.manager.planChannelSendSlot owner 0 = some ⟨slot, false, none⟩ := by
    have found : reusing.manager.channelSlotByKey.get? (upper owner) = some slot := by
      rw [normal]
      exact hit
    simp [Manager.planChannelSendSlot, enabled, found]
  refine ⟨{ reusing with phase := .sending owner slot }, ?_, owner, slot, rfl, ?_⟩
  · refine .next (t := reusing) (.next idle trivial (e := .setForceReconfigure false) rfl) trivial
      (e := .send owner 0) ?_
    change (reusing.manager.planChannelSendSlot owner 0).map (planned reusing owner) = _
    rw [plan]
    rfl
  · rw [normal]
    exact stale

/-- The condition cannot be weakened: one step that does not meet it, taken
anywhere in a run that met it so far, leads on to a misrouted message. -/
theorem unrecorded_misroutes (invariant : Invariant s) (stepped : step s e = some t)
    (unrecorded : ¬ Recorded s e) : ∃ u, Reaches step Any t u ∧ Misrouted u := by
  cases e with
  | configured reply =>
      simp only [step] at stepped
      split at stepped
      · rename_i channelKey slot evicted phase
        cases stepped
        simp only [Recorded, phase, not_forall] at unrecorded
        obtain ⟨owner, cached, different, applied, unrecorded⟩ := unrecorded
        have taken : deviceAfter s channelKey slot reply slot = some (upper channelKey) := by
          rw [deviceAfter_applied applied, setSlot, if_pos rfl]
        have stale : deviceAfter s channelKey slot reply slot ≠ some owner := by
          rw [taken]
          exact fun same => different (Option.some.inj same).symm
        have paired := invariant.paired
        have normal : ∀ key, evicted = some key → upper key = key := by
          rintro key rfl
          exact invariant.evicting _ _ _ phase
        cases reply with
        | ok =>
            have disabled : s.manager.channelSlotReuseEnabled = false := by simpa using unrecorded
            have same : s.manager.noteChannelSlotLoaded channelKey slot = s.manager :=
              Manager.noteChannelSlotLoaded_disabled disabled
            apply stale_misroutes ?_ ?_ stale (.inr ⟨_, rfl⟩)
            · rw [configuredStep, same]
              exact paired
            · rw [configuredStep, same]
              exact cached
        | error applied =>
            apply stale_misroutes (paired_evicted paired evicted) ?_ stale (.inl rfl)
            exact evicted_kept cached normal unrecorded
        | raised applied =>
            apply stale_misroutes (paired_evicted paired evicted) ?_ stale (.inl rfl)
            exact evicted_kept cached normal unrecorded
        | none applied => exact stale_misroutes paired cached stale (.inl rfl)
      · contradiction
  | _ => exact absurd trivial unrecorded

/-- Runs from a fresh session are faithful while every step is recorded, and
the first unrecorded step is one from which a message can go astray. -/
theorem recorded_runs_faithful (initial : Initial s) :
    (∀ t, Reaches step Recorded s t → Faithful t) ∧
    ∀ t e u, Reaches step Recorded s t → step t e = some u → ¬ Recorded t e →
      ∃ v, Reaches step Any u v ∧ Misrouted v :=
  ⟨fun _ run => invariant_faithful (recorded_invariant initial run),
    fun _ _ _ run => unrecorded_misroutes (recorded_invariant initial run)⟩

/-- A serial session of one channel slot, with the workaround off. -/
def serialSession : State where
  manager := ⟨.empty, .empty, false, some "Serial: /dev/ttyUSB0", false, some 1⟩
  radio _ := none
  phase := .idle

theorem serialSession_faithful :
    ∃ t, Reaches step Recorded serialSession t ∧ t.phase = .sending "a1" 0 ∧ Faithful t := by
  let asked : State := { serialSession with phase := .configuring "a1" 0 none }
  have sent : Reaches step Recorded serialSession asked :=
    .next (e := Event.send "a1" 0) (.refl _) trivial rfl
  have loaded : Reaches step Recorded serialSession (configuredStep asked "a1" 0 none .ok) :=
    .next (e := .configured .ok) sent (by simp [Recorded, asked, serialSession]) rfl
  exact ⟨_, loaded, rfl, (recorded_runs_faithful ⟨rfl, rfl, rfl⟩).1 _ loaded⟩

/-- The reply to the `set_channel` of an eviction is lost although the device
applied it. The evicted channel stays cached, and its next message leaves from
the slot that now holds the other channel. -/
theorem lost_reply_misroutes :
    ¬ ∀ s t, Initial s → Reaches step Any s t → Faithful t := by
  intro faithful
  have ran : ∃ t, execute step serialSession
      [.send "a1" 0, .configured .ok, .sent .ok, .send "b2" 0, .configured (.none true),
        .send "a1" 0] = some t ∧ t.phase = .sending "a1" 0 ∧ t.radio 0 = some "B2" := by
    refine ⟨_, rfl, ?_, ?_⟩ <;> rfl
  obtain ⟨t, ran, sending, other⟩ := ran
  have held := (faithful _ t ⟨rfl, rfl, rfl⟩ (execute_reaches ran)).1 "a1" 0 sending
  rw [other] at held
  exact absurd held (by decide)

end Meshloom.ChannelSlots
