import Meshloom.Send.DmAckProofs

/-! No ACK of a direct message is lost. One that comes after its code was registered
finds the pending entry, unless another code of the message won before and took the
entry away; one that comes earlier waits in the buffer for the registration. -/
namespace Meshloom.DmAck
open Transition
variable {t u : Tracker} {s r : State} {entry : PendingAck}

namespace Tracker

theorem cleanup_pending (found : t.pending.get? code = some entry)
    (live : now ≤ entry.createdAt + entry.timeoutMs * 2) :
    (t.cleanupExpiredAcks now).pending.get? code = some entry := by
  refine (Dict.get?_filter _ _).mpr ⟨found, ?_⟩
  rw [Bool.not_eq_true', decide_eq_false_iff_not]
  omega

theorem cleanup_buffered (found : t.buffered.get? code = some bufferedAt)
    (live : now ≤ bufferedAt + bufferedAckTtlMs) :
    (t.cleanupExpiredAcks now).buffered.get? code = some bufferedAt := by
  refine (Dict.get?_filter _ _).mpr ⟨found, ?_⟩
  rw [Bool.not_eq_true', decide_eq_false_iff_not]
  omega

theorem clear_pending (found : t.pending.get? code = some entry) (other : entry.messageId ≠ messageId) :
    (t.clearPendingAcksForMessage messageId).pending.get? code = some entry := by
  refine (Dict.get?_filter _ _).mpr ⟨found, ?_⟩
  simpa using other

theorem Within.absent (within : Within u t) (absent : t.pending.get? code = none) :
    u.pending.get? code = none := by
  cases found : u.pending.get? code with
  | none => rfl
  | some entry =>
      rw [within code entry found] at absent
      contradiction

/-- The ACK of a pending code wins. -/
theorem apply_pending (found : t.pending.get? code = some entry)
    (live : now ≤ entry.createdAt + entry.timeoutMs * 2) :
    (t.applyDmAckCode code now).2 = some entry.messageId := by
  simp [applyDmAckCode, popPendingAck, cleanup_pending found live]

/-- A pending code outlives the ACK of another message. -/
theorem apply_keeps (found : t.pending.get? code = some entry)
    (live : now ≤ entry.createdAt + entry.timeoutMs * 2)
    (applied : t.applyDmAckCode other now = (u, won)) (foreign : won ≠ some entry.messageId) :
    u.pending.get? code = some entry := by
  have kept := cleanup_pending found live
  unfold applyDmAckCode popPendingAck at applied
  cases matched : (t.cleanupExpiredAcks now).pending.get? other with
  | none =>
      simp only [matched] at applied
      cases applied
      exact kept
  | some claimed =>
      simp only [matched] at applied
      cases applied
      have different : code ≠ other := by
        rintro rfl
        rw [kept] at matched
        cases matched
        exact foreign rfl
      refine clear_pending ?_ fun same => foreign (congrArg some same.symm)
      rw [Dict.get?_pop, if_neg different]
      exact kept

/-- The ACK of a code wins for the message that is pending under it. -/
theorem apply_matched (applied : t.applyDmAckCode code now = (u, some messageId)) :
    ∃ entry, t.pending.get? code = some entry ∧ entry.messageId = messageId := by
  unfold applyDmAckCode popPendingAck at applied
  cases found : (t.cleanupExpiredAcks now).pending.get? code with
  | none =>
      simp only [found] at applied
      cases applied
  | some entry =>
      simp only [found] at applied
      cases applied
      exact ⟨entry, cleanup_within t now code entry found, rfl⟩

/-- The ACK of a code that is not pending is buffered. -/
theorem apply_unmatched (applied : t.applyDmAckCode code now = (u, none)) :
    u.pending.get? code = none ∧ u.buffered.get? code = some now := by
  unfold applyDmAckCode popPendingAck at applied
  cases found : (t.cleanupExpiredAcks now).pending.get? code with
  | none =>
      simp only [found] at applied
      cases applied
      simpa [bufferUnmatchedAck] using found
  | some entry =>
      simp only [found] at applied
      cases applied

/-- No ACK takes a code out of the buffer before its time is over. -/
theorem apply_keeps_buffered (found : t.buffered.get? code = some bufferedAt)
    (live : now ≤ bufferedAt + bufferedAckTtlMs) (different : code ≠ other) :
    (t.applyDmAckCode other now).1.buffered.get? code = some bufferedAt := by
  have kept := cleanup_buffered found live
  unfold applyDmAckCode popPendingAck
  cases (t.cleanupExpiredAcks now).pending.get? other with
  | none => simpa [bufferUnmatchedAck, different] using kept
  | some entry => exact kept

theorem track_buffered (found : t.buffered.get? code = some bufferedAt) (messageId timeoutMs : Nat)
    (now : Int) : ∃ u, t.trackPendingAck code messageId timeoutMs now = (u, true) := by
  simp [trackPendingAck, found]

/-- A registration of another code leaves the entries of this one. -/
theorem track_other (different : code ≠ other) :
    (t.trackPendingAck other messageId timeoutMs now).1.pending.get? code = t.pending.get? code ∧
      (t.trackPendingAck other messageId timeoutMs now).1.buffered.get? code =
        t.buffered.get? code := by
  unfold trackPendingAck
  cases t.buffered.get? other with
  | none => simp [different]
  | some bufferedAt => simp [different]

end Tracker

/-- The code that a step registers for the message, with its timeout and the time. -/
def registers (s : State) : Event → Option (String × Nat × Int)
  | .track now =>
    match s.phase with
    | .sent (some code) timeoutMs _ => some (code, timeoutMs, now)
    | _ => none
  | .retrack now =>
    match s.phase with
    | .reread _ (some code) timeoutMs false => some (code, timeoutMs, now)
    | _ => none
  | _ => none

/-- The clock reading of a step that takes one. -/
def Event.now? : Event → Option Int
  | .ack _ now | .track now | .retrack now | .other _ _ _ now => some now
  | _ => none

/-- Increments are committed, and the code belongs to no other message. -/
def Lossless (code : String) (s : State) : Event → Prop
  | .lose => False
  | .abort => s.phase ≠ .incrementing
  | .other other _ _ _ => other ≠ code
  | _ => True

/-- Every clock reading lies between two times. -/
def Between (first last : Int) (e : Event) : Prop := ∀ now, e.now? = some now → first ≤ now ∧ now ≤ last

theorem registers_lossless (registered : registers s e = some (code, timeoutMs, now)) :
    Lossless code s e := by
  cases e with
  | track now => trivial
  | retrack now => trivial
  | _ => contradiction

theorem step_registers (registered : registers s e = some (code, timeoutMs, now))
    (stepped : step s e = some r) :
    e.now? = some now ∧ ∃ q, q.plain = true ∧ r = register s code timeoutMs now q := by
  unfold registers at registered
  split at registered
  · split at registered
    · rename_i armRetries phase
      cases registered
      simp only [step, phase, Option.some.injEq] at stepped
      refine ⟨rfl, _, ?_, stepped.symm⟩
      split
      · exact nextAttempt_plain 1
      · rfl
    · contradiction
  · split at registered
    · rename_i attempt _ _ phase
      cases registered
      simp only [step, phase, Option.some.injEq] at stepped
      exact ⟨rfl, _, nextAttempt_plain _, stepped.symm⟩
    · contradiction
  · contradiction

/-- What a step does to the tracker. -/
inductive Tracked (s r : State) : Event → Prop where
  | ack : r.tracker = (s.tracker.applyDmAckCode code now).1 → Tracked s r (.ack code now)
  | registered (code : String) (timeoutMs : Nat) (now : Int) :
      registers s e = some (code, timeoutMs, now) → Tracked s r e
  | other : r.tracker = (s.tracker.trackPendingAck code messageId timeoutMs now).1 →
      Tracked s r (.other code messageId timeoutMs now)
  | same : r.tracker = s.tracker → Tracked s r e

theorem step_tracked (stepped : step s e = some r) : Tracked s r e ∧ r.messageId = s.messageId := by
  cases e with
  | ack code now =>
      refine ⟨.ack ?_, ?_⟩
      · simp only [step] at stepped
        grind
      · simp only [step] at stepped
        grind
  | track now =>
      simp only [step] at stepped
      split at stepped
      · cases stepped
        exact ⟨.same rfl, rfl⟩
      · rename_i code timeoutMs armRetries phase
        have registered : registers s (.track now) = some (code, timeoutMs, now) := by
          simp only [registers, phase]
        refine ⟨.registered _ _ _ registered, ?_⟩
        cases stepped
        unfold register
        split
        · rfl
        · rfl
      · contradiction
  | retrack now =>
      simp only [step] at stepped
      split at stepped
      · cases stepped
        exact ⟨.same rfl, rfl⟩
      · cases stepped
        exact ⟨.same rfl, rfl⟩
      · rename_i attempt code timeoutMs phase
        have registered : registers s (.retrack now) = some (code, timeoutMs, now) := by
          simp only [registers, phase]
        refine ⟨.registered _ _ _ registered, ?_⟩
        cases stepped
        unfold register
        split
        · rfl
        · rfl
      · contradiction
  | other code messageId timeoutMs now =>
      simp only [step] at stepped
      split at stepped
      · contradiction
      · cases stepped
        exact ⟨.other rfl, rfl⟩
  | _ =>
      simp only [step] at stepped
      refine ⟨.same ?_, ?_⟩
      · grind
      · grind

theorem register_counts (s : State) (code : String) (timeoutMs : Nat) (now : Int) (q : Phase) :
    (register s code timeoutMs now q).acked = s.acked ∧
      (register s code timeoutMs now q).underWay = s.underWay := by
  unfold register
  split
  · exact ⟨rfl, rfl⟩
  · exact ⟨rfl, rfl⟩

/-- An ACK that has won stays counted. -/
theorem step_claims (lossless : Lossless code s e) (stepped : step s e = some r) :
    s.claims ≤ r.claims := by
  have moved (quiet : s.phase ≠ .incrementing) (acked : r.acked = s.acked)
      (underWay : r.underWay = s.underWay) : s.claims ≤ r.claims := by
    simp only [State.claims, if_neg quiet, acked, underWay]
    omega
  cases e with
  | ack code now =>
      simp only [step] at stepped
      unfold State.claims
      grind
  | commit =>
      simp only [step] at stepped
      unfold State.claims
      grind
  | lose => exact lossless.elim
  | incremented =>
      simp only [step] at stepped
      unfold State.claims
      grind
  | other code messageId timeoutMs now =>
      simp only [step] at stepped
      unfold State.claims
      grind
  | abort =>
      simp only [step] at stepped
      exact moved lossless (by grind) (by grind)
  | track now =>
      simp only [step] at stepped
      apply moved
      · grind
      · grind [register_counts]
      · grind [register_counts]
  | retrack now =>
      simp only [step] at stepped
      apply moved
      · grind
      · grind [register_counts]
      · grind [register_counts]
  | _ =>
      simp only [step] at stepped
      apply moved
      · grind
      · grind
      · grind

theorem register_cases (s : State) (code : String) (timeoutMs : Nat) (now : Int) (q : Phase) :
    0 < (register s code timeoutMs now q).claims ∨
      (register s code timeoutMs now q).tracker =
        (s.tracker.trackPendingAck code s.messageId timeoutMs now).1 ∧
      (register s code timeoutMs now q).tracker.pending.get? code =
        some ⟨s.messageId, now, timeoutMs⟩ := by
  obtain ⟨u, tracked, _⟩ | ⟨u, tracked, own, _⟩ :=
    Tracker.track_cases s.tracker code s.messageId timeoutMs now
  · left
    rw [register, tracked]
    simp [State.claims]
  · right
    rw [register, tracked]
    exact ⟨rfl, own⟩

/-- The ACK of the code has won, or it will find its entry. -/
def Armed (code : String) (entry : PendingAck) (s : State) : Prop :=
  0 < s.claims ∨ s.tracker.pending.get? code = some entry

theorem armed_step (armed : Armed code entry s) (own : entry.messageId = s.messageId)
    (live : last ≤ entry.createdAt + entry.timeoutMs * 2) (lossless : Lossless code s e)
    (between : Between first last e)
    (unregistered : ∀ timeoutMs now, registers s e ≠ some (code, timeoutMs, now))
    (stepped : step s e = some r) : Armed code entry r := by
  obtain won | found := armed
  · exact .inl (won.trans_le (step_claims lossless stepped))
  obtain ⟨tracked, _⟩ := step_tracked stepped
  cases tracked with
  | @ack other now tracked =>
      have early : now ≤ entry.createdAt + entry.timeoutMs * 2 := (between now rfl).2.trans live
      simp only [step] at stepped
      split at stepped
      · rename_i u messageId applied
        split at stepped
        · cases stepped
          left
          simp only [State.claims]
          omega
        · rename_i foreign
          cases stepped
          right
          refine Tracker.apply_keeps found early applied ?_
          rw [own]
          exact fun same => foreign (Option.some.inj same)
      · rename_i u applied
        cases stepped
        exact .inr (Tracker.apply_keeps found early applied (Option.some_ne_none _).symm)
  | registered other timeoutMs now registered =>
      obtain ⟨_, q, _, rfl⟩ := step_registers registered stepped
      have different : code ≠ other := by
        rintro rfl
        exact unregistered _ _ registered
      obtain won | ⟨tracker, _⟩ := register_cases s other timeoutMs now q
      · exact .inl won
      · right
        rw [tracker, (Tracker.track_other different).1, found]
  | other tracker =>
      right
      rw [tracker, (Tracker.track_other (Ne.symm lossless)).1, found]
  | same tracker => exact .inr (tracker ▸ found)

/-- The code is pending for this message only. -/
def Own (code : String) (s : State) : Prop :=
  ∀ entry, s.tracker.pending.get? code = some entry → entry.messageId = s.messageId

theorem own_step (own : Own code s) (lossless : Lossless code s e) (stepped : step s e = some r) :
    Own code r := by
  obtain ⟨tracked, same⟩ := step_tracked stepped
  intro entry found
  rw [same]
  cases tracked with
  | @ack other now tracker =>
      rw [tracker] at found
      cases applied : s.tracker.applyDmAckCode other now with
      | mk u won =>
          rw [applied] at found
          cases won with
          | none => exact own entry (Tracker.apply_none applied code entry found)
          | some messageId => exact own entry ((Tracker.apply_some applied).2.2 code entry found)
  | registered other timeoutMs now registered =>
      obtain ⟨_, q, _, rfl⟩ := step_registers registered stepped
      unfold register at found
      obtain ⟨u, tracked, within⟩ | ⟨u, tracked, mine, others⟩ :=
        Tracker.track_cases s.tracker other s.messageId timeoutMs now
      · rw [tracked] at found
        exact own entry (within code entry (Tracker.clear_within _ _ code entry found))
      · rw [tracked] at found
        by_cases equal : code = other
        · subst equal
          rw [show u.pending.get? code = some entry from found] at mine
          cases mine
          rfl
        · exact own entry (others code entry found equal)
  | other tracker =>
      rw [tracker, (Tracker.track_other (Ne.symm lossless)).1] at found
      exact own entry found
  | same tracker =>
      rw [tracker] at found
      exact own entry found

/-- The ACK of the code has won, or it waits in the buffer since some time. -/
def Waiting (code : String) (first : Int) (s : State) : Prop :=
  0 < s.claims ∨ s.tracker.pending.get? code = none ∧
    ∃ bufferedAt, first ≤ bufferedAt ∧ s.tracker.buffered.get? code = some bufferedAt

theorem waiting_step (waiting : Waiting code first s) (near : last ≤ first + bufferedAckTtlMs)
    (lossless : Lossless code s e) (between : Between first last e) (stepped : step s e = some r) :
    Waiting code first r := by
  obtain won | ⟨absent, bufferedAt, since, found⟩ := waiting
  · exact .inl (won.trans_le (step_claims lossless stepped))
  obtain ⟨tracked, _⟩ := step_tracked stepped
  cases tracked with
  | @ack other now tracker =>
      obtain ⟨after, before⟩ := between now rfl
      right
      rw [tracker]
      constructor
      · cases applied : s.tracker.applyDmAckCode other now with
        | mk u won =>
            cases won with
            | none => exact (Tracker.apply_none applied).absent absent
            | some messageId => exact (Tracker.apply_some applied).2.2.absent absent
      · by_cases same : code = other
        · subst same
          cases applied : s.tracker.applyDmAckCode code now with
          | mk u won =>
              cases won with
              | none => exact ⟨now, after, (Tracker.apply_unmatched applied).2⟩
              | some messageId =>
                  obtain ⟨entry, found, _⟩ := Tracker.apply_matched applied
                  rw [absent] at found
                  contradiction
        · exact ⟨bufferedAt, since, Tracker.apply_keeps_buffered found (by omega) same⟩
  | registered other timeoutMs now registered =>
      obtain ⟨_, q, _, rfl⟩ := step_registers registered stepped
      obtain won | ⟨tracker, _⟩ := register_cases s other timeoutMs now q
      · exact .inl won
      · by_cases same : code = other
        · subst same
          obtain ⟨u, tracked⟩ := Tracker.track_buffered found s.messageId timeoutMs now
          left
          rw [register, tracked]
          simp [State.claims]
        · right
          rw [tracker, (Tracker.track_other same).1, (Tracker.track_other same).2]
          exact ⟨absent, bufferedAt, since, found⟩
  | other tracker =>
      right
      rw [tracker, (Tracker.track_other (Ne.symm lossless)).1,
        (Tracker.track_other (Ne.symm lossless)).2]
      exact ⟨absent, bufferedAt, since, found⟩
  | same tracker =>
      right
      rw [tracker]
      exact ⟨absent, bufferedAt, since, found⟩

/-- The send and its retry task are over, and so is every ACK call. -/
def Finished (s : State) : Prop := s.phase = .done ∧ s.underWay = 0

/-- A run in which the ACK of a code came for an attempt that was given this code: after the
registration and before the pending entry expired, or before the registration by at most the
time for which an ACK is buffered. The pending entry is the one of the last registration. -/
inductive Heard (code : String) (s f : State) : Prop where
  | after : Reaches step (Lossless code) s a →
      registers a e = some (code, timeoutMs, registeredAt) → step a e = some b →
      Reaches step (fun t e => Lossless code t e ∧ Between registeredAt now e ∧
        ∀ timeoutMs at', registers t e ≠ some (code, timeoutMs, at')) b c →
      now ≤ registeredAt + timeoutMs * 2 → step c (.ack code now) = some d →
      Reaches step (Lossless code) d f → Heard code s f
  | before : Reaches step (Lossless code) s a → step a (.ack code now) = some b →
      Reaches step (fun t e => Lossless code t e ∧ Between now registeredAt e) b c →
      registers c e = some (code, timeoutMs, registeredAt) → step c e = some d →
      registeredAt ≤ now + bufferedAckTtlMs → Reaches step (Lossless code) d f → Heard code s f

theorem won_run (won : 0 < s.claims) (run : Reaches step (Lossless code) s f) : 0 < f.claims := by
  refine run.invariant (P := fun t => 0 < t.claims) (fun won lossless stepped => ?_) won
  exact won.trans_le (step_claims lossless stepped)

theorem armed_registered (registered : registers s e = some (code, timeoutMs, now))
    (stepped : step s e = some r) :
    Armed code ⟨s.messageId, now, timeoutMs⟩ r ∧ r.messageId = s.messageId := by
  obtain ⟨_, same⟩ := step_tracked stepped
  obtain ⟨_, q, _, rfl⟩ := step_registers registered stepped
  exact ⟨(register_cases s code timeoutMs now q).imp_right And.right, same⟩

theorem armed_acked (armed : Armed code entry s) (own : entry.messageId = s.messageId)
    (live : now ≤ entry.createdAt + entry.timeoutMs * 2) (acked : step s (.ack code now) = some r) :
    0 < r.claims := by
  obtain won | found := armed
  · have lossless : Lossless code s (.ack code now) := trivial
    exact won.trans_le (step_claims lossless acked)
  · have wins := Tracker.apply_pending found live
    rw [own] at wins
    simp only [step] at acked
    split at acked
    · rename_i u messageId applied
      rw [applied] at wins
      cases wins
      rw [if_pos rfl] at acked
      cases acked
      simp only [State.claims]
      omega
    · rename_i u applied
      rw [applied] at wins
      contradiction

theorem waiting_acked (own : Own code s) (acked : step s (.ack code now) = some r) :
    Waiting code now r := by
  simp only [step] at acked
  split at acked
  · rename_i u messageId applied
    obtain ⟨entry, found, same⟩ := Tracker.apply_matched applied
    rw [if_pos (same.symm.trans (own entry found))] at acked
    cases acked
    left
    simp only [State.claims]
    omega
  · rename_i u applied
    cases acked
    obtain ⟨absent, buffered⟩ := Tracker.apply_unmatched applied
    exact .inr ⟨absent, now, le_rfl, buffered⟩

theorem waiting_registered (waiting : Waiting code first s)
    (registered : registers s e = some (code, timeoutMs, now)) (stepped : step s e = some r) :
    0 < r.claims := by
  obtain won | ⟨_, bufferedAt, _, found⟩ := waiting
  · exact won.trans_le (step_claims (registers_lossless registered) stepped)
  · obtain ⟨_, q, _, rfl⟩ := step_registers registered stepped
    obtain ⟨u, tracked⟩ := Tracker.track_buffered found s.messageId timeoutMs now
    rw [register, tracked]
    simp [State.claims]

theorem finished_acked (won : 0 < s.claims) (finished : Finished s) : 1 ≤ s.acked := by
  have counted : s.claims = s.acked := by simp [State.claims, finished.1, finished.2]
  omega

/-- Once the send, the retry task and the ACK calls have finished, a message whose ACK was
heard is counted as acknowledged. -/
theorem heard_acked (unused : s.tracker.pending.get? code = none)
    (heard : Heard code s f) (finished : Finished f) : 1 ≤ f.acked := by
  apply finished_acked ?_ finished
  cases heard with
  | @after a e timeoutMs registeredAt b now c d _ registered stepped waited live acked rest =>
      obtain ⟨armed, same⟩ := armed_registered registered stepped
      have kept : Armed code ⟨a.messageId, registeredAt, timeoutMs⟩ c ∧ c.messageId = a.messageId := by
        refine Reaches.invariant (P := fun t => Armed code _ t ∧ t.messageId = a.messageId) ?_
          waited ⟨armed, same⟩
        rintro t e u ⟨armed, same⟩ ⟨lossless, between, unregistered⟩ stepped
        constructor
        · exact armed_step armed same.symm live lossless between (unregistered · ·) stepped
        · exact (step_tracked stepped).2.trans same
      exact won_run (armed_acked kept.1 kept.2.symm live acked) rest
  | @before a now b registeredAt c e timeoutMs d start acked waited registered stepped near rest =>
      have own : Own code a := by
        refine start.invariant own_step ?_
        intro entry found
        rw [unused] at found
        contradiction
      have waiting : Waiting code now c := by
        refine waited.invariant ?_ (waiting_acked own acked)
        rintro t e u waiting ⟨lossless, between⟩ stepped
        exact waiting_step waiting near lossless between stepped
      exact won_run (waiting_registered waiting registered stepped) rest

/-- The ACK of the first attempt arrives before its code is registered. -/
theorem earlyAck_acked : ∃ f, Heard "c0" firstAttempt f ∧ Finished f ∧ 1 ≤ f.acked := by
  have last : Reaches step (Lossless "c0") ⟨7, ⟨.empty, .empty⟩, 0, 0, .incrementing⟩
      ⟨7, ⟨.empty, .empty⟩, 1, 0, .done⟩ :=
    .next (.refl _) (by trivial) (e := .incremented) rfl
  have heard : Heard "c0" firstAttempt ⟨7, ⟨.empty, .empty⟩, 1, 0, .done⟩ :=
    .before (.refl _) (e := .track 900) (show step _ (.ack "c0" 0) = _ from rfl) (.refl _) rfl rfl
      (by decide) last
  exact ⟨_, heard, ⟨rfl, rfl⟩, heard_acked rfl heard ⟨rfl, rfl⟩⟩

end Meshloom.DmAck
