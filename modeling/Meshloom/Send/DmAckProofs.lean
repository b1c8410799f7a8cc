import Meshloom.Send.DmAck

/-! How often a direct message is counted as acknowledged. An ACK that wins
clears every other code of the message, so it is the only one to count unless the
retry task registers a further code afterwards. It checks the stored count before
it registers, but the count lags behind the win. -/
namespace Meshloom.DmAck
open Transition
variable {t u : Tracker} {s : State}

namespace Tracker

/-- Some code of the message is pending. -/
def Registered (t : Tracker) (messageId : Nat) : Prop :=
  ∃ code ack, t.pending.get? code = some ack ∧ ack.messageId = messageId

/-- No operation but a registration adds a pending code. -/
def Within (u t : Tracker) : Prop :=
  ∀ code ack, u.pending.get? code = some ack → t.pending.get? code = some ack

theorem Within.registered (within : Within u t) (registered : u.Registered messageId) :
    t.Registered messageId := by
  obtain ⟨code, ack, found, same⟩ := registered
  exact ⟨code, ack, within code ack found, same⟩

theorem cleanup_within (t : Tracker) (now : Int) : Within (t.cleanupExpiredAcks now) t := by
  intro code ack found
  exact ((Dict.get?_filter _ _).mp found).1

theorem clear_within (t : Tracker) (messageId : Nat) :
    Within (t.clearPendingAcksForMessage messageId) t := by
  intro code ack found
  exact ((Dict.get?_filter _ _).mp found).1

theorem clear_not_registered (t : Tracker) (messageId : Nat) :
    ¬ (t.clearPendingAcksForMessage messageId).Registered messageId := by
  rintro ⟨code, ack, found, same⟩
  have kept := ((Dict.get?_filter _ _).mp found).2
  simp [same] at kept

/-- A code that is claimed was registered for its message, and no code of that
message stays behind. -/
theorem apply_some (applied : t.applyDmAckCode code now = (u, some messageId)) :
    t.Registered messageId ∧ ¬ u.Registered messageId ∧ Within u t := by
  unfold applyDmAckCode popPendingAck at applied
  cases found : (t.cleanupExpiredAcks now).pending.get? code with
  | none =>
      simp only [found] at applied
      cases applied
  | some ack =>
      simp only [found] at applied
      cases applied
      refine ⟨(cleanup_within t now).registered ⟨code, ack, found, rfl⟩,
        clear_not_registered _ _, ?_⟩
      intro other kept same
      have popped := clear_within _ _ other kept same
      simp only [Dict.get?_pop] at popped
      split at popped
      · contradiction
      · exact cleanup_within t now other kept popped

theorem apply_none (applied : t.applyDmAckCode code now = (u, none)) : Within u t := by
  unfold applyDmAckCode popPendingAck at applied
  cases found : (t.cleanupExpiredAcks now).pending.get? code with
  | none =>
      simp only [found] at applied
      cases applied
      exact cleanup_within t now
  | some ack =>
      simp only [found] at applied
      cases applied

theorem track_cases (t : Tracker) (code : String) (messageId timeoutMs : Nat) (now : Int) :
    (∃ u, t.trackPendingAck code messageId timeoutMs now = (u, true) ∧ Within u t) ∨
    ∃ u, t.trackPendingAck code messageId timeoutMs now = (u, false) ∧
      u.pending.get? code = some ⟨messageId, now, timeoutMs⟩ ∧
      ∀ other ack, u.pending.get? other = some ack → other ≠ code →
        t.pending.get? other = some ack := by
  unfold trackPendingAck
  cases t.buffered.get? code with
  | some bufferedAt => exact .inl ⟨_, rfl, fun _ _ => id⟩
  | none =>
      refine .inr ⟨_, rfl, by simp, ?_⟩
      intro other ack found different
      simpa [different] using found

end Tracker

/-- The ACKs that won: counted, or with the increment under way. -/
def State.claims (s : State) : Nat :=
  s.acked + s.underWay + if s.phase = .incrementing then 1 else 0

structure Invariant (s : State) : Prop where
  once : s.claims ≤ 1
  cleared : s.claims = 0 ∨ ¬ s.tracker.Registered s.messageId
  unsent : ∀ expectedAck timeoutMs armRetries, s.phase = .sent expectedAck timeoutMs armRetries →
    ¬ s.tracker.Registered s.messageId ∧ s.claims = 0

theorem initial_invariant (initial : Initial s) : Invariant s := by
  obtain ⟨acked, underWay, fresh, code, timeoutMs, armRetries, sent⟩ := initial
  have none : s.claims = 0 := by simp [State.claims, acked, underWay, sent]
  refine ⟨by omega, .inl none, fun _ _ _ _ => ⟨?_, none⟩⟩
  rintro ⟨code, ack, found, same⟩
  exact fresh code ack found same

/-- The retry task registers a code only while no ACK of the message has won. -/
def Unclaimed (s : State) : Event → Prop
  | .retrack _ =>
    match s.phase with
    | .reread _ (some _) _ false => s.acked = 0 ∧ s.underWay = 0
    | _ => True
  | _ => True

/-- A phase of the retry task, or its end. -/
def Phase.plain : Phase → Bool
  | .sent _ _ _ | .incrementing => false
  | _ => true

theorem nextAttempt_plain (attempt : Nat) : (nextAttempt attempt).plain = true := by
  unfold nextAttempt
  split
  · rfl
  · rfl

theorem State.claims_plain (plain : s.phase.plain = true) : s.claims = s.acked + s.underWay := by
  have moving : s.phase ≠ .incrementing := by
    intro incrementing
    rw [incrementing] at plain
    contradiction
  rw [claims, if_neg moving, Nat.add_zero]

theorem plain_unsent {q : Phase} (plain : q.plain = true) (expectedAck timeoutMs armRetries) :
    q ≠ .sent expectedAck timeoutMs armRetries := by
  rintro rfl
  contradiction

/-- The task moves on without touching the tracker or the count. -/
theorem moved_invariant (invariant : Invariant s) (plain : q.plain = true) :
    Invariant { s with phase := q } := by
  have claims : State.claims { s with phase := q } = s.acked + s.underWay := State.claims_plain plain
  have fewer : s.acked + s.underWay ≤ s.claims := by
    unfold State.claims
    omega
  have once := invariant.once
  refine ⟨by omega, ?_, fun _ _ _ sent => absurd sent (plain_unsent plain _ _ _)⟩
  rcases invariant.cleared with none | cleared
  · exact .inl (by omega)
  · exact .inr cleared

theorem register_invariant (none : s.acked = 0 ∧ s.underWay = 0) (plain : q.plain = true) :
    Invariant (register s code timeoutMs now q) := by
  unfold register
  rcases Tracker.track_cases s.tracker code s.messageId timeoutMs now with
    ⟨u, tracked, _⟩ | ⟨u, tracked, _⟩
  · rw [tracked]
    refine ⟨?_, .inr (Tracker.clear_not_registered _ _), nofun⟩
    simp [State.claims, none]
  · rw [tracked]
    have claims : State.claims { s with tracker := u, phase := q } = 0 := by
      rw [State.claims_plain plain, none.1, none.2]
    exact ⟨claims.le.trans (by decide), .inl claims,
      fun _ _ _ sent => absurd sent (plain_unsent plain _ _ _)⟩

theorem ack_invariant (invariant : Invariant s) (stepped : step s (.ack code now) = some r) :
    Invariant r := by
  simp only [step] at stepped
  split at stepped
  · rename_i u messageId applied
    obtain ⟨registered, cleared, within⟩ := Tracker.apply_some applied
    split at stepped
    · rename_i own
      subst own
      cases stepped
      have none : s.claims = 0 := by
        rcases invariant.cleared with none | absent
        · exact none
        · exact absurd registered absent
      refine ⟨?_, .inr cleared, ?_⟩
      · unfold State.claims at none ⊢
        simp only
        omega
      · intro expectedAck timeoutMs armRetries sent
        exact absurd registered (invariant.unsent _ _ _ sent).1
    · cases stepped
      refine ⟨invariant.once, invariant.cleared.imp_right (mt within.registered), ?_⟩
      intro expectedAck timeoutMs armRetries sent
      exact (invariant.unsent _ _ _ sent).imp_left (mt within.registered)
  · rename_i u applied
    have within := Tracker.apply_none applied
    cases stepped
    refine ⟨invariant.once, invariant.cleared.imp_right (mt within.registered), ?_⟩
    intro expectedAck timeoutMs armRetries sent
    exact (invariant.unsent _ _ _ sent).imp_left (mt within.registered)

theorem step_invariant (invariant : Invariant s) (unclaimed : Unclaimed s e)
    (stepped : step s e = some r) : Invariant r := by
  cases e with
  | ack code now => exact ack_invariant invariant stepped
  | commit =>
      simp only [step] at stepped
      split at stepped
      · contradiction
      · cases stepped
        obtain ⟨once, cleared, unsent⟩ := invariant
        unfold State.claims at once cleared unsent
        refine ⟨?_, cleared.imp_left fun none => ?_, fun _ _ _ sent => ?_⟩
        · unfold State.claims
          simp only
          omega
        · omega
        · have none := (unsent _ _ _ sent).2
          omega
  | lose =>
      simp only [step] at stepped
      split at stepped
      · contradiction
      · cases stepped
        obtain ⟨once, cleared, unsent⟩ := invariant
        unfold State.claims at once cleared unsent
        refine ⟨?_, cleared.imp_left fun none => ?_, fun _ _ _ sent => ?_⟩
        · unfold State.claims
          simp only
          omega
        · omega
        · have none := (unsent _ _ _ sent).2
          omega
  | track now =>
      simp only [step] at stepped
      split at stepped
      · cases stepped
        exact moved_invariant invariant rfl
      · rename_i code timeoutMs armRetries sent
        cases stepped
        have none := (invariant.unsent _ _ _ sent).2
        unfold State.claims at none
        refine register_invariant ⟨by omega, by omega⟩ ?_
        split
        · exact nextAttempt_plain 1
        · rfl
      · contradiction
  | wake =>
      simp only [step] at stepped
      split at stepped
      · cases stepped
        exact moved_invariant invariant rfl
      · contradiction
  | read =>
      simp only [step] at stepped
      split at stepped
      · cases stepped
        apply moved_invariant invariant
        split
        · rfl
        · rfl
      · contradiction
  | radio outcome =>
      simp only [step] at stepped
      split at stepped
      · cases stepped
        exact moved_invariant invariant rfl
      · cases stepped
        exact moved_invariant invariant (nextAttempt_plain _)
      · cases stepped
        exact moved_invariant invariant rfl
      · contradiction
  | reread =>
      simp only [step] at stepped
      split at stepped
      · cases stepped
        exact moved_invariant invariant rfl
      · contradiction
  | retrack now =>
      simp only [step] at stepped
      split at stepped
      · cases stepped
        exact moved_invariant invariant rfl
      · cases stepped
        exact moved_invariant invariant (nextAttempt_plain _)
      · rename_i attempt code timeoutMs phase
        cases stepped
        simp only [Unclaimed, phase] at unclaimed
        exact register_invariant unclaimed (nextAttempt_plain _)
      · contradiction
  | incremented =>
      simp only [step] at stepped
      split at stepped
      · rename_i phase
        cases stepped
        obtain ⟨once, cleared, _⟩ := invariant
        simp only [State.claims, phase, if_true] at once cleared
        refine ⟨?_, cleared.imp_left fun none => ?_, nofun⟩
        · simp only [State.claims, reduceCtorEq, if_false]
          omega
        · omega
      · contradiction
  | abort =>
      simp only [step] at stepped
      split at stepped
      · contradiction
      · cases stepped
        exact moved_invariant invariant rfl
  | other code messageId timeoutMs now =>
      simp only [step] at stepped
      split at stepped
      · contradiction
      · rename_i foreign
        cases stepped
        have absent (registered : (s.tracker.trackPendingAck code messageId timeoutMs now).1.Registered
            s.messageId) : s.tracker.Registered s.messageId := by
          obtain ⟨other, ack, found, same⟩ := registered
          rcases Tracker.track_cases s.tracker code messageId timeoutMs now with
            ⟨u, tracked, within⟩ | ⟨u, tracked, own, others⟩
          · rw [tracked] at found
            exact ⟨other, ack, within other ack found, same⟩
          · rw [tracked] at found
            have different : other ≠ code := by
              rintro rfl
              rw [own] at found
              cases found
              exact foreign same
            exact ⟨other, ack, others other ack found different, same⟩
        refine ⟨invariant.once, invariant.cleared.imp_right (mt absent), ?_⟩
        intro expectedAck timeoutMs armRetries sent
        exact (invariant.unsent _ _ _ sent).imp_left (mt absent)

/-- Increments under way can all be committed. -/
theorem commits (s : State) : ∃ r, Reaches step Any s r ∧ r.acked = s.claims := by
  have applied : ∃ r, Reaches step Any s r ∧ r.acked = s.acked + s.underWay ∧ r.phase = s.phase := by
    induction pending : s.underWay generalizing s with
    | zero => exact ⟨s, .refl s, rfl, rfl⟩
    | succ n ih =>
        obtain ⟨r, run, count, phase⟩ :=
          ih { s with underWay := n, acked := s.acked + 1 } rfl
        refine ⟨r, Reaches.trans (.next (.refl s) trivial (e := .commit) ?_) run, ?_, phase⟩
        · simp [step, pending]
        · simp only at count
          omega
  obtain ⟨r, run, count, phase⟩ := applied
  rcases eq_or_ne s.phase .incrementing with incrementing | other
  · refine ⟨{ r with acked := r.acked + 1, phase := .done },
      .next run trivial (e := .incremented) ?_, ?_⟩
    · simp [step, phase, incrementing]
    · simp [State.claims, incrementing, count]
  · exact ⟨r, run, by simp [State.claims, other, count]⟩

/-- The ACK of a code that has just been registered wins. -/
theorem ack_registered (found : s.tracker.pending.get? code = some ⟨s.messageId, now, timeoutMs⟩) :
    ∃ u, step s (.ack code now) = some { s with tracker := u, underWay := s.underWay + 1 } := by
  have kept : (s.tracker.cleanupExpiredAcks now).pending.get? code =
      some ⟨s.messageId, now, timeoutMs⟩ := by
    apply (Dict.get?_filter _ _).mpr
    refine ⟨found, ?_⟩
    simp
  simp [step, Tracker.applyDmAckCode, Tracker.popPendingAck, kept]

/-- A code that is registered after an ACK has won is a second one to win. -/
theorem late_registration_counts (claimed : 0 < s.acked + s.underWay) (plain : q.plain = true)
    (code : String) (timeoutMs : Nat) (now : Int) :
    ∃ r, Reaches step Any (register s code timeoutMs now q) r ∧ 2 ≤ r.acked := by
  rcases Tracker.track_cases s.tracker code s.messageId timeoutMs now with
    ⟨u, tracked, _⟩ | ⟨u, tracked, own, _⟩
  · obtain ⟨r, run, count⟩ := commits (register s code timeoutMs now q)
    refine ⟨r, run, ?_⟩
    rw [count, register, tracked]
    simp only [State.claims, if_true]
    omega
  · have registered : register s code timeoutMs now q = { s with tracker := u, phase := q } := by
      rw [register, tracked]
    rw [registered]
    obtain ⟨v, won⟩ := @ack_registered { s with tracker := u, phase := q } code now timeoutMs own
    obtain ⟨r, run, count⟩ := commits { s with tracker := v, phase := q, underWay := s.underWay + 1 }
    refine ⟨r, Reaches.trans (.next (.refl _) trivial won) run, ?_⟩
    rw [count, State.claims_plain plain]
    simp only
    omega

theorem claimed_registration_counts (stepped : step s e = some r) (claimed : ¬ Unclaimed s e) :
    ∃ w, Reaches step Any r w ∧ 2 ≤ w.acked := by
  cases e with
  | retrack now =>
      simp only [step] at stepped
      split at stepped
      · rename_i phase
        simp [Unclaimed, phase] at claimed
      · rename_i phase
        simp [Unclaimed, phase] at claimed
      · rename_i phase
        cases stepped
        simp only [Unclaimed, phase] at claimed
        exact late_registration_counts (by omega) (nextAttempt_plain _) _ _ _
      · contradiction
  | _ => exact absurd trivial claimed

/-- The count stays at one while the retry task registers its codes before any
ACK has won; a code that it registers afterwards can bring the count to two. -/
theorem acked_once_while_unclaimed (initial : Initial s) :
    (∀ r, Reaches step Unclaimed s r → r.acked ≤ 1) ∧
    ∀ r e w, Reaches step Unclaimed s r → step r e = some w → ¬ Unclaimed r e →
      ∃ v, Reaches step Any w v ∧ 2 ≤ v.acked := by
  refine ⟨?_, fun r e w _ stepped claimed => claimed_registration_counts stepped claimed⟩
  intro r run
  have invariant : Invariant r := run.invariant step_invariant (initial_invariant initial)
  have once := invariant.once
  unfold State.claims at once
  omega

/-- A message that the radio took with the code `c0`. -/
def firstAttempt : State where
  messageId := 7
  tracker := ⟨.empty, .empty⟩
  acked := 0
  underWay := 0
  phase := .sent (some "c0") 4000 true

theorem firstAttempt_initial : Initial firstAttempt := by
  refine ⟨rfl, rfl, ?_, _, _, _, rfl⟩
  intro code ack found
  contradiction

theorem firstAttempt_acked : ∃ r, Reaches step Unclaimed firstAttempt r ∧ r.acked = 1 ∧ r.acked ≤ 1 := by
  have ran : (execute step firstAttempt
      [.track 0, .wake, .ack "c0" 4900, .ack "c0" 4950, .commit]).map (·.acked) = some 1 := by
    decide +kernel
  obtain ⟨r, ran, counted⟩ := Option.map_eq_some_iff.mp ran
  have run : Reaches step Unclaimed firstAttempt r := by
    refine execute_reaches_where (fun s e member => ?_) ran
    simp only [List.mem_cons, List.not_mem_nil, or_false] at member
    rcases member with rfl | rfl | rfl | rfl | rfl <;> trivial
  exact ⟨r, run, counted, (acked_once_while_unclaimed firstAttempt_initial).1 r run⟩

/-- The ACK of the first code arrives after the retry task has read the count
and before it registers the second code; the ACK of the second code counts again. -/
theorem late_registration_counts_twice :
    ¬ ∀ s r, Initial s → Reaches step Any s r → r.acked ≤ 1 := by
  intro once
  have ran : (execute step firstAttempt
      [.track 0, .wake, .read, .radio (.accepted (some "c1") 4000), .reread, .ack "c0" 4900,
        .retrack 4910, .commit, .ack "c1" 5000, .commit]).map (·.acked) = some 2 := by
    decide +kernel
  obtain ⟨r, ran, twice⟩ := Option.map_eq_some_iff.mp ran
  have count := once _ r firstAttempt_initial (execute_reaches ran)
  omega

end Meshloom.DmAck
