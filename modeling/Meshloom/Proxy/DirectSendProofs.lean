import Meshloom.Proxy.DirectSend
import Meshloom.Send.DmAckDelivery

/-! Every ACK frame goes to the session that sent the message, once: the proxy's entry is
made with the registration in the tracker and is consumed by the increment that makes the
stored count positive. -/
namespace Meshloom.DirectSend
open Bytes DmAck Text Transition
variable {s t : State} {dm : Dm} {expectedAck : List UInt8}

theorem ackCode_inj {other : List UInt8} (same : ackCode expectedAck = ackCode other) :
    expectedAck = other := by
  have texts : toHex expectedAck = toHex other := String.ofList_injective same
  simpa [fromHex_toHex] using congrArg fromHex texts

@[simp]
theorem lower_ackCode (expectedAck : List UInt8) : lower (ackCode expectedAck) = ackCode expectedAck := by
  simp [lower, ackCode, toLower_toHex]

@[simp]
theorem get?_expireAcks (pendingAcks : Dict String ProxyAck) (now : Int) :
    (expireAcks pendingAcks now).get? code = some item ↔
      pendingAcks.get? code = some item ∧ now < item.expires := by
  rw [expireAcks, Dict.get?_filter]
  simp

/-- What becomes of the entries when the ACK of a code is notified. -/
theorem notifyAck_pendingAcks : (notifyAck s (ackCode expectedAck) now).pendingAcks.get? code = some item ↔
    code ≠ ackCode expectedAck ∧ s.pendingAcks.get? code = some item ∧ now < item.expires := by
  have popped : ((expireAcks s.pendingAcks now).pop (ackCode expectedAck)).get? code = some item ↔
      code ≠ ackCode expectedAck ∧ s.pendingAcks.get? code = some item ∧ now < item.expires := by
    rw [Dict.get?_pop]
    split
    · rename_i same
      simp [same]
    · rename_i different
      simp [different]
  unfold notifyAck
  simp only [lower_ackCode]
  split
  · rename_i absent
    constructor
    · intro found
      refine ⟨?_, (get?_expireAcks _ _).mp found⟩
      rintro rfl
      rw [show (expireAcks s.pendingAcks now).get? (ackCode expectedAck) = some item from found] at absent
      contradiction
    · exact fun found => (get?_expireAcks _ _).mpr found.2
  · split
    · exact popped
    · split
      · exact popped
      · exact popped

theorem notifyAck_frame (s : State) (code : String) (now : Int) :
    (notifyAck s code now).tracker = s.tracker ∧ (notifyAck s code now).dms = s.dms ∧
      (notifyAck s code now).underWay = s.underWay ∧ (notifyAck s code now).closed = s.closed ∧
      (notifyAck s code now).clock = s.clock := by
  unfold notifyAck
  grind

/-- The frame is pushed if the entry is alive and its session is open, and else nothing is. -/
theorem notifyAck_pushed (s : State) (expectedAck : List UInt8) (now : Int) :
    (∃ item, s.pendingAcks.get? (ackCode expectedAck) = some item ∧
      (notifyAck s (ackCode expectedAck) now).pushed = s.pushed ++ [(item.session, expectedAck)]) ∨
    (notifyAck s (ackCode expectedAck) now).pushed = s.pushed ∧
      ∀ item, s.pendingAcks.get? (ackCode expectedAck) = some item → now < item.expires →
        item.session ∈ s.closed := by
  have hex : fromHex (ackCode expectedAck).toList = some expectedAck := by
    simp [ackCode, fromHex_toHex]
  unfold notifyAck
  simp only [lower_ackCode, hex]
  cases found : (expireAcks s.pendingAcks now).get? (ackCode expectedAck) with
  | none =>
      refine .inr ⟨rfl, ?_⟩
      intro item present live
      rw [(get?_expireAcks _ _).mpr ⟨present, live⟩] at found
      contradiction
  | some item =>
      obtain ⟨present, live⟩ := (get?_expireAcks _ _).mp found
      by_cases closed : item.session ∈ s.closed
      · refine .inr ⟨by simp [closed], ?_⟩
        intro other present' _
        rw [present] at present'
        cases present'
        exact closed
      · exact .inl ⟨item, present, by simp [closed]⟩

/-- The message that has this code was sent, and no ACK of it has been counted. -/
def Awaits (s : State) (messageId : Nat) (code : String) : Prop :=
  ∃ dm expectedAck, s.dms.get? messageId = some dm ∧ dm.expectedAck = some expectedAck ∧
    code = ackCode expectedAck ∧ dm.phase = .returned ∧ dm.acked = 0

structure Invariant (s : State) : Prop where
  distinct : ∀ i j di dj expectedAck, s.dms.get? i = some di → s.dms.get? j = some dj →
    di.expectedAck = some expectedAck → dj.expectedAck = some expectedAck → i = j
  past : ∀ i dm, s.dms.get? i = some dm → dm.sentAt ≤ s.clock
  early : ∀ i dm, s.dms.get? i = some dm → dm.phase ≠ .returned → dm.acked = 0
  tracked : ∀ code entry, s.tracker.pending.get? code = some entry → Awaits s entry.messageId code
  counting : ∀ i code, (i, code) ∈ s.underWay → Awaits s i code ∧ s.tracker.pending.get? code = none
  single : s.underWay.Nodup
  entry : ∀ code item, s.pendingAcks.get? code = some item →
    ∃ i dm, s.dms.get? i = some dm ∧ Awaits s i code ∧ item.session = dm.session
  registered : ∀ i dm expectedAck, s.dms.get? i = some dm → dm.expectedAck = some expectedAck →
    Awaits s i (ackCode expectedAck) → s.clock < dm.sentAt + ackTtlMs →
    ∃ item, s.pendingAcks.get? (ackCode expectedAck) = some item ∧ dm.sentAt + ackTtlMs ≤ item.expires
  addressed : ∀ session expectedAck, (session, expectedAck) ∈ s.pushed →
    ∃ i dm, s.dms.get? i = some dm ∧ dm.expectedAck = some expectedAck ∧ dm.session = session ∧
      0 < dm.acked
  pushedOnce : (s.pushed.map Prod.snd).Nodup

theorem initial_invariant (initial : Initial s) : Invariant s := by
  obtain ⟨pending, pendingAcks, dms, underWay, pushed⟩ := initial
  constructor
  all_goals simp [pending, pendingAcks, dms, underWay, pushed]

/-- What a step that counts an ACK of a message does. -/
structure Counts (s t : State) (messageId : Nat) (dm : Dm) (expectedAck : List UInt8) : Prop where
  dms : ∀ i, t.dms.get? i =
    if i = messageId then some { dm with phase := .returned, acked := dm.acked + 1 } else s.dms.get? i
  tracker : t.tracker = s.tracker
  underWay : t.underWay = s.underWay.erase (messageId, ackCode expectedAck)
  clock : t.clock = s.clock
  pendingAcks : ∀ code item, t.pendingAcks.get? code = some item ↔
    code ≠ ackCode expectedAck ∧ s.pendingAcks.get? code = some item ∧ s.clock < item.expires
  pushed : t.pushed = s.pushed ∨ t.pushed = s.pushed ++ [(dm.session, expectedAck)]

theorem counts_awaits (counts : Counts s t messageId dm expectedAck)
    (found : s.dms.get? messageId = some dm) (own : dm.expectedAck = some expectedAck)
    (awaits : Awaits s i code) (different : code ≠ ackCode expectedAck) : Awaits t i code := by
  obtain ⟨other, bytes, present, coded, rfl, returned, unacked⟩ := awaits
  have apart : i ≠ messageId := by
    rintro rfl
    rw [found] at present
    cases present
    rw [own] at coded
    cases coded
    exact different rfl
  exact ⟨other, bytes, by rw [counts.dms, if_neg apart, present], coded, rfl, returned, unacked⟩

theorem counts_invariant (invariant : Invariant s) (counts : Counts s t messageId dm expectedAck)
    (found : s.dms.get? messageId = some dm) (own : dm.expectedAck = some expectedAck)
    (unacked : dm.acked = 0) (absent : s.tracker.pending.get? (ackCode expectedAck) = none) :
    Invariant t := by
  -- a message of the state after the step has its code, session and time from the one before
  have before (i : Nat) (later : Dm) (present : t.dms.get? i = some later) :
      ∃ earlier, s.dms.get? i = some earlier ∧ later.expectedAck = earlier.expectedAck ∧
        later.session = earlier.session ∧ later.sentAt = earlier.sentAt ∧
        (later.phase ≠ .returned → later = earlier) ∧ earlier.acked ≤ later.acked := by
    rw [counts.dms] at present
    split at present
    · rename_i same
      cases present
      exact ⟨dm, same ▸ found, rfl, rfl, rfl, fun moving => absurd rfl moving, Nat.le_succ _⟩
    · exact ⟨later, present, rfl, rfl, rfl, fun _ => rfl, le_rfl⟩
  have after (i : Nat) (earlier : Dm) (present : s.dms.get? i = some earlier) :
      ∃ later, t.dms.get? i = some later ∧ later.expectedAck = earlier.expectedAck ∧
        later.session = earlier.session ∧ earlier.acked ≤ later.acked := by
    by_cases same : i = messageId
    · subst same
      rw [found] at present
      cases present
      exact ⟨{ dm with phase := .returned, acked := dm.acked + 1 },
        by rw [counts.dms, if_pos rfl], rfl, rfl, Nat.le_succ _⟩
    · exact ⟨earlier, by rw [counts.dms, if_neg same, present], rfl, rfl, le_rfl⟩
  have elsewhere (i : Nat) (code : String) (awaits : Awaits t i code) : Awaits s i code := by
    obtain ⟨later, bytes, present, coded, rfl, returned, none⟩ := awaits
    rw [counts.dms] at present
    split at present
    · cases present
      contradiction
    · exact ⟨later, bytes, present, coded, rfl, returned, none⟩
  constructor
  · intro i j di dj bytes hi hj ci cj
    obtain ⟨di', hi', ei, _⟩ := before i di hi
    obtain ⟨dj', hj', ej, _⟩ := before j dj hj
    exact invariant.distinct i j di' dj' bytes hi' hj' (ei ▸ ci) (ej ▸ cj)
  · intro i later present
    obtain ⟨earlier, present', _, _, same, _⟩ := before i later present
    rw [counts.clock, same]
    exact invariant.past i earlier present'
  · intro i later present moving
    obtain ⟨earlier, present', _, _, _, equal, _⟩ := before i later present
    obtain rfl := equal moving
    exact invariant.early i later present' moving
  · intro code entry pending
    rw [counts.tracker] at pending
    refine counts_awaits counts found own (invariant.tracked code entry pending) ?_
    rintro rfl
    rw [absent] at pending
    contradiction
  · intro i code member
    rw [counts.underWay] at member
    obtain ⟨different, member⟩ := invariant.single.mem_erase_iff.mp member
    obtain ⟨awaits, unpending⟩ := invariant.counting i code member
    refine ⟨counts_awaits counts found own awaits ?_, counts.tracker ▸ unpending⟩
    rintro rfl
    obtain ⟨other, bytes, present, coded, same, _⟩ := awaits
    have equal := invariant.distinct i messageId other dm expectedAck present found
      (ackCode_inj same ▸ coded) own
    exact different (by rw [equal])
  · rw [counts.underWay]
    exact invariant.single.erase _
  · intro code item present
    obtain ⟨different, present, _⟩ := (counts.pendingAcks code item).mp present
    obtain ⟨i, earlier, there, awaits, session⟩ := invariant.entry code item present
    obtain ⟨later, there', _, sessions, _⟩ := after i earlier there
    exact ⟨i, later, there', counts_awaits counts found own awaits different,
      session.trans sessions.symm⟩
  · intro i later bytes present coded awaits early
    obtain ⟨earlier, present', codes, _, times, _⟩ := before i later present
    rw [counts.clock] at early
    obtain ⟨item, entry, long⟩ := invariant.registered i earlier bytes present' (codes ▸ coded)
      (elsewhere i _ awaits) (times ▸ early)
    refine ⟨item, (counts.pendingAcks _ item).mpr ⟨?_, entry, by omega⟩, times ▸ long⟩
    intro same
    obtain ⟨again, other, present'', coded'', same'', returned, none⟩ := awaits
    have equal := invariant.distinct i messageId earlier dm expectedAck present' found
      (codes ▸ ackCode_inj same ▸ coded) own
    subst equal
    rw [counts.dms, if_pos rfl] at present''
    cases present''
    contradiction
  · intro session bytes member
    have old (member : (session, bytes) ∈ s.pushed) : ∃ i dm, t.dms.get? i = some dm ∧
        dm.expectedAck = some bytes ∧ dm.session = session ∧ 0 < dm.acked := by
      obtain ⟨i, earlier, there, coded, sessions, positive⟩ := invariant.addressed session bytes member
      obtain ⟨later, there', codes, same, more⟩ := after i earlier there
      exact ⟨i, later, there', codes.trans coded, same.trans sessions, positive.trans_le more⟩
    obtain same | added := counts.pushed
    · exact old (same ▸ member)
    · rw [added] at member
      obtain member | last := List.mem_append.mp member
      · exact old member
      · cases List.mem_singleton.mp last
        exact ⟨messageId, { dm with phase := .returned, acked := dm.acked + 1 },
          by rw [counts.dms, if_pos rfl], own, rfl, Nat.succ_pos _⟩
  · obtain same | added := counts.pushed
    · exact same ▸ invariant.pushedOnce
    · rw [added, List.map_append, List.nodup_append]
      refine ⟨invariant.pushedOnce, by simp, ?_⟩
      intro bytes member other last equal
      simp only [List.map_cons, List.map_nil, List.mem_singleton] at last
      subst last
      subst equal
      obtain ⟨⟨session, bytes⟩, listed, rfl⟩ := List.mem_map.mp member
      obtain ⟨i, earlier, there, coded, _, positive⟩ := invariant.addressed session bytes listed
      obtain rfl := invariant.distinct i messageId earlier dm _ there found coded own
      rw [found] at there
      cases there
      omega

/-- A code that awaits its ACK is the code of one message. -/
theorem awaits_own (invariant : Invariant s) (found : s.dms.get? messageId = some dm)
    (own : dm.expectedAck = some expectedAck) (awaits : Awaits s i (ackCode expectedAck)) :
    i = messageId ∧ dm.phase = .returned ∧ dm.acked = 0 := by
  obtain ⟨other, bytes, present, coded, same, returned, unacked⟩ := awaits
  obtain rfl := invariant.distinct i messageId other dm expectedAck present found
    (ackCode_inj same ▸ coded) own
  rw [found] at present
  cases present
  exact ⟨rfl, returned, unacked⟩

theorem moving_absent (invariant : Invariant s) (found : s.dms.get? messageId = some dm)
    (own : dm.expectedAck = some expectedAck) (moving : dm.phase ≠ .returned) :
    s.tracker.pending.get? (ackCode expectedAck) = none ∧ (i, ackCode expectedAck) ∉ s.underWay ∧
      s.pendingAcks.get? (ackCode expectedAck) = none := by
  have quiet (i : Nat) (awaits : Awaits s i (ackCode expectedAck)) : False :=
    moving (awaits_own invariant found own awaits).2.1
  refine ⟨?_, fun member => quiet i (invariant.counting i _ member).1, ?_⟩
  · cases pending : s.tracker.pending.get? (ackCode expectedAck) with
    | none => rfl
    | some entry => exact (quiet _ (invariant.tracked _ entry pending)).elim
  · cases present : s.pendingAcks.get? (ackCode expectedAck) with
    | none => rfl
    | some item =>
        obtain ⟨i, _, _, awaits, _⟩ := invariant.entry _ item present
        exact (quiet i awaits).elim

/-- The frame goes out when the session is open and its entry is alive. -/
def Delivers (s t : State) (dm : Dm) (expectedAck : List UInt8) : Prop :=
  dm.session ∉ s.closed → s.clock < dm.sentAt + ackTtlMs → (dm.session, expectedAck) ∈ t.pushed

/-- The count and the entry of a message are in place; what is left is to notify. -/
structure Ready (s u : State) (messageId : Nat) (dm : Dm) (expectedAck : List UInt8) : Prop where
  dms : ∀ i, u.dms.get? i =
    if i = messageId then some { dm with phase := .returned, acked := dm.acked + 1 } else s.dms.get? i
  tracker : u.tracker = s.tracker
  underWay : u.underWay = s.underWay.erase (messageId, ackCode expectedAck)
  clock : u.clock = s.clock
  closed : u.closed = s.closed
  pushed : u.pushed = s.pushed
  others : ∀ code, code ≠ ackCode expectedAck → u.pendingAcks.get? code = s.pendingAcks.get? code
  ours : ∀ item, u.pendingAcks.get? (ackCode expectedAck) = some item → item.session = dm.session
  alive : s.clock < dm.sentAt + ackTtlMs →
    ∃ item, u.pendingAcks.get? (ackCode expectedAck) = some item ∧ s.clock < item.expires

theorem ready_counts (ready : Ready s u messageId dm expectedAck) :
    Counts s (notifyAck u (ackCode expectedAck) s.clock) messageId dm expectedAck ∧
      Delivers s (notifyAck u (ackCode expectedAck) s.clock) dm expectedAck := by
  obtain ⟨tracker, dms, underWay, _, clock⟩ := notifyAck_frame u (ackCode expectedAck) s.clock
  have pushes := notifyAck_pushed u expectedAck s.clock
  rw [ready.pushed, ready.closed] at pushes
  constructor
  · constructor
    · intro i
      rw [dms, ready.dms]
    · exact tracker.trans ready.tracker
    · exact underWay.trans ready.underWay
    · exact clock.trans ready.clock
    · intro code item
      rw [notifyAck_pendingAcks]
      refine and_congr_right fun different => ?_
      rw [ready.others code different]
    · obtain ⟨item, present, pushed⟩ | ⟨pushed, _⟩ := pushes
      · rw [← ready.ours item present]
        exact .inr pushed
      · exact .inl pushed
  · intro opened early
    obtain ⟨item, present, live⟩ := ready.alive early
    obtain ⟨other, present', pushed⟩ | ⟨_, silent⟩ := pushes
    · rw [pushed, ← ready.ours other present']
      exact List.mem_append_right _ List.mem_cons_self
    · exact absurd (ready.ours item present ▸ silent item present live) opened

theorem commit_counts (invariant : Invariant s) (stepped : step s (.commit messageId code) = some t) :
    ∃ dm expectedAck, s.dms.get? messageId = some dm ∧ dm.expectedAck = some expectedAck ∧
      dm.acked = 0 ∧ s.tracker.pending.get? (ackCode expectedAck) = none ∧
      Counts s t messageId dm expectedAck ∧ Delivers s t dm expectedAck := by
  simp only [step] at stepped
  split at stepped
  · rename_i member
    obtain ⟨⟨dm, expectedAck, found, own, rfl, returned, unacked⟩, absent⟩ :=
      invariant.counting messageId code member
    have awaits : Awaits s messageId (ackCode expectedAck) :=
      ⟨dm, expectedAck, found, own, rfl, returned, unacked⟩
    simp only [found, Option.some.injEq] at stepped
    subst stepped
    refine ⟨dm, expectedAck, found, own, unacked, absent, ready_counts ?_⟩
    constructor
    · intro i
      simp only [setDm, Dict.get?_set, ← returned]
    · rfl
    · rfl
    · rfl
    · rfl
    · rfl
    · exact fun _ _ => rfl
    · intro item present
      obtain ⟨i, other, there, awaits, same⟩ := invariant.entry _ item present
      obtain ⟨rfl, _⟩ := awaits_own invariant found own awaits
      rw [found] at there
      cases there
      exact same
    · intro early
      obtain ⟨item, present, long⟩ := invariant.registered messageId dm expectedAck found own awaits early
      exact ⟨item, present, by omega⟩
  · contradiction

theorem incremented_counts (invariant : Invariant s) (stepped : step s (.incremented messageId) = some t) :
    ∃ dm expectedAck, s.dms.get? messageId = some dm ∧ dm.expectedAck = some expectedAck ∧
      dm.acked = 0 ∧ s.tracker.pending.get? (ackCode expectedAck) = none ∧
      Counts s t messageId dm expectedAck ∧ Delivers s t dm expectedAck := by
  simp only [step] at stepped
  split at stepped
  · rename_i dm found
    split at stepped
    · rename_i expectedAck incrementing own
      simp only [Option.some.injEq] at stepped
      subst stepped
      have moving : dm.phase ≠ .returned := by simp [incrementing]
      obtain ⟨absent, idle, _⟩ := @moving_absent _ _ _ messageId messageId invariant found own moving
      refine ⟨dm, expectedAck, found, own, invariant.early _ dm found moving, absent,
        @ready_counts _ _ _ (registerAck (setDm s messageId _) _ _ _) _ ?_⟩
      constructor
      · intro i
        simp only [registerAck, setDm, Dict.get?_set]
      · rfl
      · exact (List.erase_of_not_mem idle).symm
      · rfl
      · rfl
      · rfl
      · intro code different
        simp [registerAck, setDm, different]
      · intro item present
        simp only [registerAck, lower_ackCode, Dict.get?_set, if_true] at present
        cases present
        rfl
      · intro early
        exact ⟨⟨dm.session, s.clock + ackTtlMs⟩, by simp [registerAck, setDm], by simp [ackTtlMs]⟩
    · contradiction
  · contradiction

/-- What a step does that stores a message or moves it on, before any ACK of it is counted. -/
structure Places (s t : State) (messageId : Nat) (dm : Dm) : Prop where
  quiet : ∀ code, ¬ Awaits s messageId code
  dms : ∀ i, t.dms.get? i = if i = messageId then some dm else s.dms.get? i
  unacked : dm.acked = 0
  was : ∀ old, s.dms.get? messageId = some old → old.acked = 0
  apart : ∀ i other bytes, i ≠ messageId → s.dms.get? i = some other →
    other.expectedAck = some bytes → dm.expectedAck ≠ some bytes
  past : dm.sentAt ≤ s.clock
  clock : t.clock = s.clock
  pushed : t.pushed = s.pushed
  underWay : t.underWay = s.underWay
  tracked : ∀ code entry, t.tracker.pending.get? code = some entry →
    s.tracker.pending.get? code = some entry ∨ entry.messageId = messageId ∧ Awaits t messageId code
  entries : ∀ code item, t.pendingAcks.get? code = some item →
    s.pendingAcks.get? code = some item ∨ Awaits t messageId code ∧ item.session = dm.session
  kept : ∀ code item, s.pendingAcks.get? code = some item → t.pendingAcks.get? code = some item
  registered : ∀ bytes, dm.expectedAck = some bytes → dm.phase = .returned →
    ∃ item, t.pendingAcks.get? (ackCode bytes) = some item ∧ dm.sentAt + ackTtlMs ≤ item.expires

theorem Places.same (places : Places s t messageId dm) (other : i ≠ messageId) :
    t.dms.get? i = s.dms.get? i := by
  rw [places.dms, if_neg other]

theorem Places.awaits (places : Places s t messageId dm) (awaits : Awaits s i code) :
    i ≠ messageId ∧ Awaits t i code := by
  have other : i ≠ messageId := by
    rintro rfl
    exact places.quiet code awaits
  obtain ⟨old, bytes, found, own⟩ := awaits
  exact ⟨other, old, bytes, (places.same other).trans found, own⟩

theorem placed_invariant (invariant : Invariant s) (places : Places s t messageId dm) : Invariant t := by
  have old (i : Nat) (later : Dm) (present : t.dms.get? i = some later) :
      i = messageId ∧ later = dm ∨ i ≠ messageId ∧ s.dms.get? i = some later := by
    rw [places.dms] at present
    split at present
    · rename_i same
      cases present
      exact .inl ⟨same, rfl⟩
    · rename_i other
      exact .inr ⟨other, present⟩
  have distinct : ∀ i j di dj bytes, t.dms.get? i = some di → t.dms.get? j = some dj →
      di.expectedAck = some bytes → dj.expectedAck = some bytes → i = j := by
    intro i j di dj bytes hi hj ci cj
    obtain ⟨rfl, rfl⟩ | ⟨oi, hi⟩ := old i di hi
    · obtain ⟨rfl, rfl⟩ | ⟨oj, hj⟩ := old j dj hj
      · rfl
      · exact absurd ci (places.apart j dj bytes oj hj cj)
    · obtain ⟨rfl, rfl⟩ | ⟨oj, hj⟩ := old j dj hj
      · exact absurd cj (places.apart i di bytes oi hi ci)
      · exact invariant.distinct i j di dj bytes hi hj ci cj
  constructor
  · exact distinct
  · intro i later present
    rw [places.clock]
    obtain ⟨rfl, rfl⟩ | ⟨_, present⟩ := old i later present
    · exact places.past
    · exact invariant.past i later present
  · intro i later present moving
    obtain ⟨rfl, rfl⟩ | ⟨_, present⟩ := old i later present
    · exact places.unacked
    · exact invariant.early i later present moving
  · intro code entry pending
    obtain pending | ⟨rfl, awaits⟩ := places.tracked code entry pending
    · exact (places.awaits (invariant.tracked code entry pending)).2
    · exact awaits
  · intro i code member
    rw [places.underWay] at member
    obtain ⟨awaits, absent⟩ := invariant.counting i code member
    obtain ⟨other, awaits⟩ := places.awaits awaits
    refine ⟨awaits, ?_⟩
    cases pending : t.tracker.pending.get? code with
    | none => rfl
    | some entry =>
        obtain pending | ⟨_, mine⟩ := places.tracked code entry pending
        · rw [absent] at pending
          contradiction
        · obtain ⟨first, bytes, found, own, rfl, _⟩ := awaits
          obtain ⟨second, bytes', found', own', equal, _⟩ := mine
          exact absurd (distinct _ _ _ _ _ found found' own (ackCode_inj equal ▸ own')) other
  · rw [places.underWay]
    exact invariant.single
  · intro code item present
    obtain present | ⟨awaits, session⟩ := places.entries code item present
    · obtain ⟨i, other, there, awaits, session⟩ := invariant.entry code item present
      obtain ⟨different, awaits⟩ := places.awaits awaits
      exact ⟨i, other, (places.same different).trans there, awaits, session⟩
    · exact ⟨messageId, dm, by rw [places.dms, if_pos rfl], awaits, session⟩
  · intro i later bytes present coded awaits early
    rw [places.clock] at early
    obtain ⟨rfl, rfl⟩ | ⟨other, present'⟩ := old i later present
    · obtain ⟨again, _, found, _, _, returned, _⟩ := awaits
      rw [present] at found
      cases found
      exact places.registered bytes coded returned
    · obtain ⟨again, bytes', found, own⟩ := awaits
      rw [places.same other] at found
      obtain ⟨item, entry, long⟩ := invariant.registered i later bytes present' coded
        ⟨again, bytes', found, own⟩ early
      exact ⟨item, places.kept _ item entry, long⟩
  · intro session bytes member
    rw [places.pushed] at member
    obtain ⟨i, earlier, there, coded, same, positive⟩ := invariant.addressed session bytes member
    have other : i ≠ messageId := by
      rintro rfl
      have := places.was earlier there
      omega
    exact ⟨i, earlier, (places.same other).trans there, coded, same, positive⟩
  · rw [places.pushed]
    exact invariant.pushedOnce

theorem send_invariant (invariant : Invariant s)
    (distinct : Distinct s (.send messageId session expectedAck' timeoutMs))
    (stepped : step s (.send messageId session expectedAck' timeoutMs) = some t) : Invariant t := by
  simp only [step] at stepped
  split at stepped
  · contradiction
  · rename_i fresh
    cases stepped
    let dm : Dm := ⟨session, extractExpectedAck expectedAck', timeoutMs, s.clock, .sent, 0⟩
    have placed : Places s (setDm s messageId dm) messageId dm := by
      constructor
      · rintro code ⟨dm, bytes, found, _⟩
        rw [fresh] at found
        contradiction
      · intro i
        simp only [setDm, Dict.get?_set]
      · rfl
      · intro old found
        rw [fresh] at found
        contradiction
      · intro i other bytes _ found coded same
        exact distinct bytes same i other found coded
      · exact le_rfl
      · rfl
      · rfl
      · rfl
      · exact fun _ _ pending => .inl pending
      · exact fun _ _ present => .inl present
      · exact fun _ _ present => present
      · intros
        contradiction
    exact placed_invariant invariant placed

/-- A message that was sent and is not tracked yet moves on. -/
theorem moved_places (invariant : Invariant s) (found : s.dms.get? messageId = some dm)
    (sent : dm.phase = .sent)
    (dms : ∀ i, t.dms.get? i = if i = messageId then some { dm with phase := q } else s.dms.get? i)
    (clock : t.clock = s.clock) (pushed : t.pushed = s.pushed) (underWay : t.underWay = s.underWay)
    (tracked : ∀ code entry, t.tracker.pending.get? code = some entry →
      s.tracker.pending.get? code = some entry ∨
        entry.messageId = messageId ∧ Awaits t messageId code)
    (entries : ∀ code item, t.pendingAcks.get? code = some item →
      s.pendingAcks.get? code = some item ∨ Awaits t messageId code ∧ item.session = dm.session)
    (kept : ∀ code item, s.pendingAcks.get? code = some item → t.pendingAcks.get? code = some item)
    (registered : ∀ bytes, dm.expectedAck = some bytes → q = .returned →
      ∃ item, t.pendingAcks.get? (ackCode bytes) = some item ∧ dm.sentAt + ackTtlMs ≤ item.expires) :
    Invariant t := by
  have moving : dm.phase ≠ .returned := by simp [sent]
  have placed : Places s t messageId { dm with phase := q } := by
    constructor
    · rintro code ⟨other, bytes, present, _, _, returned, _⟩
      rw [found] at present
      cases present
      exact moving returned
    · exact dms
    · exact invariant.early messageId dm found moving
    · intro old present
      rw [found] at present
      cases present
      exact invariant.early messageId dm found moving
    · intro i other bytes different present coded same
      exact different (invariant.distinct i messageId other dm bytes present found coded same)
    · exact invariant.past messageId dm found
    · exact clock
    · exact pushed
    · exact underWay
    · exact tracked
    · exact entries
    · exact kept
    · exact registered
  exact placed_invariant invariant placed

theorem track_invariant (invariant : Invariant s) (stepped : step s (.track messageId wall) = some t) :
    Invariant t := by
  simp only [step] at stepped
  split at stepped
  · rename_i dm found
    split at stepped
    · rename_i sent uncoded
      cases stepped
      refine moved_places invariant found sent (fun i => Dict.get?_set ..) rfl rfl rfl
        (fun _ _ pending => .inl pending) (fun _ _ present => .inl present)
        (fun _ _ present => present) ?_
      intro bytes coded
      rw [uncoded] at coded
      contradiction
    · rename_i expectedAck sent own
      have moving : dm.phase ≠ .returned := by simp [sent]
      obtain ⟨_, _, unregistered⟩ := @moving_absent _ _ _ messageId messageId invariant found own moving
      split at stepped
      · rename_i tracker matched
        cases stepped
        have within : Tracker.Within (tracker.clearPendingAcksForMessage messageId) s.tracker := by
          obtain ⟨u, tracked, within⟩ | ⟨u, tracked, _⟩ := Tracker.track_cases s.tracker
            (ackCode expectedAck) messageId dm.timeoutMs wall
          · rw [matched] at tracked
            cases tracked
            exact fun code entry pending => within code entry (Tracker.clear_within _ _ code entry pending)
          · rw [matched] at tracked
            cases tracked
        exact moved_places invariant found sent (fun i => Dict.get?_set ..) rfl rfl rfl
          (fun code entry pending => .inl (within code entry pending))
          (fun _ _ present => .inl present) (fun _ _ present => present) (by intros; contradiction)
      · rename_i tracker matched
        cases stepped
        have awaits : Awaits (registerAck (setDm { s with tracker } messageId
            { dm with phase := .returned }) dm.session (ackCode expectedAck) s.clock) messageId
            (ackCode expectedAck) := by
          refine ⟨{ dm with phase := .returned }, expectedAck, ?_, own, rfl, rfl,
            invariant.early _ dm found moving⟩
          simp [registerAck, setDm]
        refine moved_places invariant found sent (fun i => Dict.get?_set ..) rfl rfl rfl ?_ ?_ ?_ ?_
        · intro code entry pending
          obtain ⟨u, tracked, _⟩ | ⟨u, tracked, mine, others⟩ := Tracker.track_cases s.tracker
            (ackCode expectedAck) messageId dm.timeoutMs wall
          · rw [matched] at tracked
            cases tracked
          · rw [matched] at tracked
            cases tracked
            by_cases same : code = ackCode expectedAck
            · subst same
              rw [show tracker.pending.get? (ackCode expectedAck) = some entry from pending] at mine
              cases mine
              exact .inr ⟨rfl, awaits⟩
            · exact .inl (others code entry pending same)
        · intro code item present
          simp only [registerAck, setDm, lower_ackCode, Dict.get?_set] at present
          split at present
          · rename_i same
            cases present
            exact .inr ⟨same ▸ awaits, rfl⟩
          · exact .inl present
        · intro code item present
          simp only [registerAck, setDm, lower_ackCode, Dict.get?_set]
          rw [if_neg, present]
          rintro rfl
          rw [unregistered] at present
          contradiction
        · intro bytes coded _
          rw [own] at coded
          cases coded
          have past := invariant.past messageId dm found
          exact ⟨⟨dm.session, s.clock + ackTtlMs⟩, by simp [registerAck, setDm], by simpa using past⟩
    · contradiction
  · contradiction

/-- Only the tracker and the increments under way change when an ACK comes. -/
theorem ack_invariant (invariant : Invariant s) (stepped : step s (.ack code wall) = some t) :
    Invariant t := by
  obtain ⟨distinct, past, early, tracked, counting, single, entry, registered, addressed, once⟩ := invariant
  simp only [step] at stepped
  split at stepped
  · rename_i tracker applied
    cases stepped
    have within := Tracker.apply_none applied
    refine ⟨distinct, past, early, fun code entry pending => tracked code entry (within code entry pending),
      fun i code member => ?_, single, entry, registered, addressed, once⟩
    obtain ⟨awaits, absent⟩ := counting i code member
    exact ⟨awaits, within.absent absent⟩
  · rename_i tracker messageId applied
    cases stepped
    obtain ⟨entry', found, rfl⟩ := Tracker.apply_matched applied
    obtain ⟨_, cleared, within⟩ := Tracker.apply_some applied
    have awaits := tracked code entry' found
    have gone : tracker.pending.get? code = none := by
      cases pending : tracker.pending.get? code with
      | none => rfl
      | some other =>
          have same := within code other pending
          rw [found] at same
          cases same
          exact absurd ⟨code, entry', pending, rfl⟩ cleared
    refine ⟨distinct, past, early, fun code entry pending => tracked code entry (within code entry pending),
      fun i other member => ?_, ?_, entry, registered, addressed, once⟩
    · obtain member | last := List.mem_append.mp member
      · obtain ⟨awaits, absent⟩ := counting i other member
        exact ⟨awaits, within.absent absent⟩
      · cases List.mem_singleton.mp last
        exact ⟨awaits, gone⟩
    · rw [List.nodup_append]
      refine ⟨single, by simp, ?_⟩
      rintro ⟨i, other⟩ member pair last rfl
      cases List.mem_singleton.mp last
      rw [(counting _ _ member).2] at found
      contradiction

theorem step_invariant (invariant : Invariant s) (distinct : Distinct s e)
    (stepped : step s e = some t) : Invariant t := by
  cases e with
  | send messageId session expectedAck timeoutMs => exact send_invariant invariant distinct stepped
  | track messageId wall => exact track_invariant invariant stepped
  | incremented messageId =>
      obtain ⟨dm, expectedAck, found, own, unacked, absent, counts, _⟩ :=
        incremented_counts invariant stepped
      exact counts_invariant invariant counts found own unacked absent
  | ack code wall => exact ack_invariant invariant stepped
  | commit messageId code =>
      obtain ⟨dm, expectedAck, found, own, unacked, absent, counts, _⟩ := commit_counts invariant stepped
      exact counts_invariant invariant counts found own unacked absent
  | close session =>
      cases stepped
      exact ⟨invariant.1, invariant.2, invariant.3, invariant.4, invariant.5, invariant.6, invariant.7,
        invariant.8, invariant.9, invariant.10⟩
  | tick now =>
      simp only [step] at stepped
      split at stepped
      · rename_i later
        cases stepped
        obtain ⟨distinct, past, early, tracked, counting, single, entry, registered, addressed, once⟩ :=
          invariant
        refine ⟨distinct, fun i dm found => (past i dm found).trans later, early, tracked, counting,
          single, entry, fun i dm bytes found coded awaits soon => ?_, addressed, once⟩
        exact registered i dm bytes found coded awaits (later.trans_lt soon)
      · contradiction

theorem notifyAck_grows (s : State) (code : String) (now : Int) :
    s.pushed ⊆ (notifyAck s code now).pushed := by
  unfold notifyAck
  grind

theorem step_grows (stepped : step s e = some t) : s.pushed ⊆ t.pushed := by
  cases e with
  | incremented messageId =>
      simp only [step] at stepped
      split at stepped
      · split at stepped
        · cases stepped
          exact notifyAck_grows (registerAck (setDm s messageId _) _ _ _) _ _
        · contradiction
      · contradiction
  | commit messageId code =>
      simp only [step] at stepped
      split at stepped
      · split at stepped
        · cases stepped
          exact notifyAck_grows { s with underWay := s.underWay.erase (messageId, code) } _ _
        · cases stepped
          exact notifyAck_grows (setDm { s with underWay := s.underWay.erase (messageId, code) } messageId _) _ _
      · contradiction
  | _ =>
      simp only [step] at stepped
      have same : t.pushed = s.pushed := by
        grind [setDm, registerAck]
      exact same ▸ List.Subset.refl _

/-- The stored count of a message becomes positive in two steps only, and the frame goes out there. -/
theorem step_counts (invariant : Invariant s) (stepped : step s e = some t)
    (found : s.dms.get? i = some dm) (present : t.dms.get? i = some after) (unacked : dm.acked = 0)
    (acked : 0 < after.acked) (own : dm.expectedAck = some expectedAck) :
    Delivers s t dm expectedAck := by
  have counted (messageId : Nat) (other : Dm) (bytes : List UInt8)
      (there : s.dms.get? messageId = some other) (coded : other.expectedAck = some bytes)
      (counts : Counts s t messageId other bytes) (delivers : Delivers s t other bytes) :
      Delivers s t dm expectedAck := by
    rw [counts.dms] at present
    split at present
    · rename_i same
      subst same
      rw [found] at there
      cases there
      rw [own] at coded
      cases coded
      exact delivers
    · rw [found] at present
      cases present
      omega
  cases e with
  | incremented messageId =>
      obtain ⟨other, bytes, there, coded, _, _, counts, delivers⟩ := incremented_counts invariant stepped
      exact counted messageId other bytes there coded counts delivers
  | commit messageId code =>
      obtain ⟨other, bytes, there, coded, _, _, counts, delivers⟩ := commit_counts invariant stepped
      exact counted messageId other bytes there coded counts delivers
  | _ =>
      simp only [step] at stepped
      have same : after.acked = dm.acked := by
        grind [setDm, registerAck, Dict.get?_set]
      omega

/-- In a run of proxy sessions whose messages have codes of their own, an ACK frame goes to the
session that sent the message with this code and no second one follows; when the stored count
becomes positive while the session is open and the window since the send lasts, exactly one
frame is pushed. -/
theorem ack_frames (initial : Initial s) (run : Reaches step Distinct s t) :
    (∀ session bytes, (session, bytes) ∈ t.pushed →
      ∃ i dm, t.dms.get? i = some dm ∧ dm.expectedAck = some bytes ∧ dm.session = session ∧
        ∀ j other, t.dms.get? j = some other → other.expectedAck = some bytes → j = i) ∧
    (t.pushed.map Prod.snd).Nodup ∧
    ∀ e u i dm after bytes, Distinct t e → step t e = some u → t.dms.get? i = some dm →
      u.dms.get? i = some after → dm.acked = 0 → 0 < after.acked → dm.expectedAck = some bytes →
      dm.session ∉ t.closed → t.clock < dm.sentAt + ackTtlMs →
      ∀ v, Reaches step Distinct u v → v.pushed.count (dm.session, bytes) = 1 := by
  have reached (v : State) (run : Reaches step Distinct s v) : Invariant v :=
    run.invariant step_invariant (initial_invariant initial)
  have invariant := reached t run
  refine ⟨?_, invariant.pushedOnce, ?_⟩
  · intro session bytes member
    obtain ⟨i, dm, found, own, same, _⟩ := invariant.addressed session bytes member
    exact ⟨i, dm, found, own, same, fun j other there coded =>
      invariant.distinct j i other dm bytes there found coded own⟩
  · intro e u i dm after bytes distinct stepped found present unacked acked own opened early v onward
    have delivered := step_counts invariant stepped found present unacked acked own opened early
    have kept : (dm.session, bytes) ∈ v.pushed :=
      onward.invariant (P := fun w => (dm.session, bytes) ∈ w.pushed)
        (fun member _ stepped => step_grows stepped member) delivered
    have single := (reached v ((run.next distinct stepped).trans onward)).pushedOnce.of_map
    exact List.count_eq_one_of_mem single kept

/-- A proxy that has sent nothing. -/
def idle : State := ⟨⟨.empty, .empty⟩, .empty, .empty, [], ∅, 0, []⟩

/-- The message that session 5 sends. -/
def hello : Dm := ⟨5, some [0xC0, 0xFF, 0xEE, 0x42], 4000, 0, .sent, 0⟩

theorem hello_frames : ∃ t u, Reaches step Distinct idle t ∧ step t (.commit 1 "c0ffee42") = some u ∧
    u.pushed.count (5, [0xC0, 0xFF, 0xEE, 0x42]) = 1 := by
  have sent : Reaches step Distinct idle (setDm idle 1 hello) :=
    .next (.refl _) (e := .send 1 5 hello.expectedAck 4000) (fun _ _ _ _ found => nomatch found) rfl
  have ran : ((execute step (setDm idle 1 hello) [.track 1 0, .ack "c0ffee42" 900]).map fun t =>
      (t.dms.get? 1, t.closed, t.clock, (step t (.commit 1 "c0ffee42")).map fun u => u.dms.get? 1)) =
      some (some { hello with phase := .returned }, ∅, 0,
        some (some { hello with phase := .returned, acked := 1 })) := by
    decide +kernel
  obtain ⟨t, ran, state⟩ := Option.map_eq_some_iff.mp ran
  simp only [Prod.mk.injEq, Option.map_eq_some_iff] at state
  obtain ⟨found, opened, clock, u, stepped, present⟩ := state
  have run : Reaches step Distinct idle t := by
    refine sent.trans (execute_reaches_where (fun s e member => ?_) ran)
    simp only [List.mem_cons, List.not_mem_nil, or_false] at member
    obtain rfl | rfl := member
    · trivial
    · trivial
  refine ⟨t, u, run, stepped, ?_⟩
  exact (ack_frames ⟨rfl, rfl, rfl, rfl, rfl⟩ run).2.2 (.commit 1 "c0ffee42") u 1 _ _ _ trivial stepped
    found present rfl (by decide) rfl (by simp [opened]) (by simp [clock, hello, ackTtlMs]) u (.refl _)

end Meshloom.DirectSend
