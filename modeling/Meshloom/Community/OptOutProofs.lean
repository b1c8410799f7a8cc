import Meshloom.Community.OptOut

/-! How an opt-out ends, from how its last call does. -/
namespace Meshloom.OptOut
open Exchange Program StatusClear
variable {before : Community} {reason : Option OptOutReason} {attempt : Attempt} {s : State}

/-- The record that is written ahead. -/
def entry (before : Community) (reason : Option OptOutReason) (attempt : Attempt) : PendingEntry :=
  ⟨pendingPubkey attempt.radio, reason, attempt.requestedAt, before.iata⟩

/-- How the last call ends for `_announce_opt_out`. -/
def answer (ending : Ending) : Except Exc Unit :=
  match ending with
  | .refused => .error (.http none)
  | .answered _ => if ending.isSuccess then .ok () else .error (.http none)
  | .failed error => .error (.http (some error))
  | .timedOut => .error .timeout
  | .cancelled => .error .cancelled

def writeResult (onError : Except Exc Unit) : WriteEnd → Except Exc Unit
  | .done => .ok ()
  | .raises => onError
  | .cut _ => .error .cancelled

theorem write_ends (attempt : Attempt) (pick : Attempt → WriteEnd) (change : State → State) (onError : Except Exc Unit)
    (s : State) (n : Nat) : write pick change onError ⟨s, fun _ => attempt, n⟩ =
      (writeResult onError (pick attempt),
        ⟨if (pick attempt).applied then change s else s, fun _ => attempt, n + 1⟩) := by
  simp only [write, run_exchange]
  cases pick attempt <;> rfl

theorem postOptOut_ends (attempt : Attempt) (s : State) (n : Nat) : postOptOut ⟨s, fun _ => attempt, n⟩ =
    (answer attempt.post.ending,
      ⟨{ s with recorded := attempt.post.recorded, success := attempt.post.ending.isSuccess },
        fun _ => attempt, n + 1⟩) := by
  simp only [postOptOut, run_exchange, answer]
  cases attempt.post.ending <;> rfl

/-- What `_announce_opt_out` makes of an answer to the last call. -/
def heard : Except Exc Unit → Except Exc (Option Verdict)
  | .ok () => .ok none
  | .error exc =>
      if exc = .cancelled then .error .cancelled
      else .ok (some (if mayHaveReached exc then .maybe else .failed))

/-- The state after the last call, before its record is cleared. -/
def called (before : Community) (reason : Option OptOutReason) (attempt : Attempt) (s : State) :
    State :=
  { s with
    pending :=
      if !attempt.entryCut && attempt.save.applied then some (entry before reason attempt)
      else s.pending
    recorded := if attempt.calls then attempt.post.recorded else s.recorded
    success := if attempt.calls then attempt.post.ending.isSuccess else s.success }

theorem pendingEntry_ends (before : Community) (reason : Option OptOutReason) (attempt : Attempt)
    (s : State) (n : Nat) : pendingEntry before reason ⟨s, fun _ => attempt, n⟩ =
    (if attempt.entryCut then .error .cancelled else .ok (entry before reason attempt),
      ⟨s, fun _ => attempt, n + 1⟩) := by
  simp only [pendingEntry, run_exchange]
  split <;> rfl

/-- A call that is not made leaves what was written ahead. -/
theorem lastCall_uncalled (before : Community) (reason : Option OptOutReason) 
    (uncalled : attempt.calls = false) (s : State) (n : Nat) : ∃ m,
    lastCall before reason ⟨s, fun _ => attempt, n⟩ =
      (.error .cancelled, ⟨called before reason attempt s, fun _ => attempt, m⟩) := by
  have first := pendingEntry_ends before reason attempt s n
  cases cut : attempt.entryCut with
  | true =>
      rw [cut] at first
      refine ⟨n + 1, (run_recover_error (run_bind_error first)).trans ?_⟩
      simp only [called, uncalled, cut]
      rfl
  | false =>
      rw [cut] at first
      have second := write_ends attempt Attempt.save
        (fun s => { s with pending := some (entry before reason attempt) }) (.ok ()) s (n + 1)
      cases saved : attempt.save with
      | cut effect =>
          rw [saved] at second
          refine ⟨n + 2, (run_recover_error ((run_bind_ok first).trans (run_bind_error second))).trans ?_⟩
          simp only [called, uncalled, cut, saved]
          cases effect <;> rfl
      | done | raises => simp [Attempt.calls, cut, saved, WriteEnd.isCut] at uncalled

theorem saved_of_calls (before : Community) (reason : Option OptOutReason) 
    (calls : attempt.calls = true) (s : State) (n : Nat) :
    setOptOutPending Attempt.save (some (entry before reason attempt)) ⟨s, fun _ => attempt, n⟩ =
      (.ok (), ⟨{ s with
        pending := if attempt.save.applied then some (entry before reason attempt) else s.pending },
        fun _ => attempt, n + 1⟩) := by
  rw [setOptOutPending, write_ends]
  cases saved : attempt.save with
  | cut effect => simp [Attempt.calls, saved, WriteEnd.isCut] at calls
  | done | raises => rfl

theorem lastCall_called (before : Community) (reason : Option OptOutReason) 
    (calls : attempt.calls = true) (s : State) (n : Nat) : ∃ m,
    lastCall before reason ⟨s, fun _ => attempt, n⟩ =
      (heard (answer attempt.post.ending),
        ⟨called before reason attempt s, fun _ => attempt, m⟩) := by
  have uncut : attempt.entryCut = false := by
    simp only [Attempt.calls, Bool.and_eq_true, Bool.not_eq_true'] at calls
    exact calls.1
  have first := pendingEntry_ends before reason attempt s n
  rw [uncut] at first
  have second := saved_of_calls before reason calls s (n + 1)
  have third := postOptOut_ends attempt { s with
    pending := if attempt.save.applied then some (entry before reason attempt) else s.pending } (n + 2)
  refine ⟨n + 3, ?_⟩
  have state : called before reason attempt s = { s with
      pending := if attempt.save.applied then some (entry before reason attempt) else s.pending
      recorded := attempt.post.recorded
      success := attempt.post.ending.isSuccess } := by
    simp only [called, calls, uncut, Bool.not_false, Bool.true_and, if_true]
  rw [state]
  cases answered : answer attempt.post.ending with
  | ok =>
      rw [answered] at third
      exact run_recover_ok
        ((run_bind_ok first).trans ((run_bind_ok second).trans ((run_bind_ok third).trans rfl)))
  | error exc =>
      rw [answered] at third
      refine (run_recover_error
        ((run_bind_ok first).trans ((run_bind_ok second).trans (run_bind_error third)))).trans ?_
      simp only [heard]
      by_cases cancelled : exc = .cancelled
      · rw [if_pos cancelled, if_pos cancelled, cancelled]
        rfl
      · rw [if_neg cancelled, if_neg cancelled]
        rfl

theorem answer_success (success : ending.isSuccess = true) : answer ending = .ok () := by
  cases ending with
  | answered status => simp only [answer, success, if_true]
  | refused | failed | timedOut | cancelled => simp [Ending.isSuccess] at success

/-- The verdict on a last call that did not end in a 2xx, none for a cancellation. -/
def failureVerdict : Ending → Option Verdict
  | .refused | .answered _ => some .failed
  | .failed error => some (if error.isTimeout && error != .connectTimeout then .maybe else .failed)
  | .timedOut => some .maybe
  | .cancelled => none

theorem heard_failure (failure : ending.isSuccess = false) : heard (answer ending) =
    (failureVerdict ending).elim (.error .cancelled) fun verdict => .ok (some verdict) := by
  cases ending with
  | answered status => simp [answer, failure, heard, mayHaveReached, failureVerdict]
  | refused | failed | timedOut | cancelled => rfl

/-- What the last call comes to: its verdict, none for a cancellation. -/
def verdict (attempt : Attempt) : Option Verdict :=
  if attempt.calls then
    if attempt.post.ending.isSuccess then if attempt.clear.isCut then none else some .confirmed
    else failureVerdict attempt.post.ending
  else none

def finished (before : Community) (reason : Option OptOutReason) (attempt : Attempt) (s : State) :
    State :=
  { called before reason attempt s with
    pending :=
      if attempt.calls && attempt.post.ending.isSuccess && attempt.clear.applied then none
      else (called before reason attempt s).pending }

theorem announceOptOut_ends (before : Community) (reason : Option OptOutReason) (attempt : Attempt)
    (s : State) (n : Nat) : ∃ m,
    announceOptOut before reason ⟨s, fun _ => attempt, n⟩ =
      ((verdict attempt).elim (.error .cancelled) .ok,
        ⟨finished before reason attempt s, fun _ => attempt, m⟩) := by
  cases calls : attempt.calls with
  | false =>
      obtain ⟨m, ran⟩ := lastCall_uncalled before reason calls s n
      refine ⟨m, (run_bind_error ran).trans ?_⟩
      simp [verdict, finished, calls]
  | true =>
      obtain ⟨m, ran⟩ := lastCall_called before reason calls s n
      cases success : attempt.post.ending.isSuccess with
      | true =>
          rw [answer_success success] at ran
          have clears := write_ends attempt Attempt.clear
            (fun s => { s with pending := none }) (.ok ()) (called before reason attempt s) m
          refine ⟨m + 1, (run_bind_ok ran).trans ?_⟩
          simp only [verdict, finished, calls, success, if_true, Bool.true_and]
          cases cleared : attempt.clear with
          | cut effect =>
              rw [cleared] at clears
              refine (run_bind_error clears).trans ?_
              cases effect <;> rfl
          | done | raises =>
              rw [cleared] at clears
              exact (run_bind_ok clears).trans rfl
      | false =>
          rw [heard_failure success] at ran
          refine ⟨m, ?_⟩
          simp only [verdict, finished, calls, success, if_true, Bool.true_and, Bool.false_and,
            Bool.false_eq_true, if_false]
          cases judged : failureVerdict attempt.post.ending with
          | none =>
              rw [judged] at ran
              exact (run_bind_error ran).trans rfl
          | some verdict =>
              rw [judged] at ran
              exact (run_bind_ok ran).trans rfl

/-- The teardown and what follows it. -/
theorem teardown_ends (before : Community) (attempt : Attempt) (s : State) (n : Nat) :
    ensure (communityTeardown before) (fun _ => update fun s => { s with leaving := false })
      ⟨s, fun _ => attempt, n⟩ =
      (if attempt.teardownCut then .error .cancelled else .ok (),
        ⟨{ s with
          leaving := false
          armed :=
            if s.announced = .failed then retireTarget before attempt.teardownRadio else none },
          fun _ => attempt, n + 1⟩) := by
  refine (run_ensure (run_exchange _ _) rfl).trans ?_
  rfl

/-- The state when the teardown begins. -/
def settled (before : Community) (reason : Option OptOutReason) (attempt : Attempt) (s : State) :
    State :=
  { finished before reason attempt { s with leaving := true } with
    announced := (verdict attempt).getD s.announced
    enabled := if (verdict attempt).isSome && attempt.optIn.applied then false else s.enabled }

/-- The last call and the write, up to the teardown. -/
def leave (before : Community) (reason : Option OptOutReason) : Action Unit := do
  update fun s => { s with leaving := true }
  let verdict ← announceOptOut before reason
  update fun s => { s with announced := verdict }
  write Attempt.optIn (fun s => { s with enabled := false }) (.error .database)

theorem leave_ends (before : Community) (reason : Option OptOutReason) (attempt : Attempt) (s : State) (n : Nat) : ∃ m result,
    leave before reason ⟨s, fun _ => attempt, n⟩ =
      (result, ⟨settled before reason attempt s, fun _ => attempt, m⟩) ∧
    (result = .ok () → (verdict attempt).isSome = true ∧ attempt.optIn.applied = true) := by
  have entered : (update fun s => { s with leaving := true } : Action Unit) ⟨s, fun _ => attempt, n⟩ =
      (.ok (), ⟨{ s with leaving := true }, fun _ => attempt, n⟩) := rfl
  obtain ⟨m, announced⟩ := announceOptOut_ends before reason attempt
    { s with leaving := true } n
  cases judged : verdict attempt with
  | none =>
      rw [judged] at announced
      refine ⟨m, .error .cancelled, ?_, by simp⟩
      refine (run_bind_ok entered).trans ((run_bind_error announced).trans ?_)
      simp [settled, judged, finished, called]
  | some verdict =>
      rw [judged] at announced
      have wrote := write_ends attempt Attempt.optIn
        (fun s => { s with enabled := false }) (.error .database)
        { finished before reason attempt { s with leaving := true } with announced := verdict } m
      refine ⟨m + 1, writeResult (.error .database) attempt.optIn, ?_, ?_⟩
      · refine (run_bind_ok entered).trans ((run_bind_ok announced).trans
          ((run_bind_ok rfl).trans (wrote.trans ?_)))
        simp only [settled, judged, Option.isSome_some, Bool.true_and, Option.getD_some]
        split <;> rfl
      · intro wrote
        cases write : attempt.optIn with
        | done => exact ⟨rfl, rfl⟩
        | raises | cut => simp [write, writeResult] at wrote

/-- The state after an opt-out. -/
def ended (before : Community) (reason : Option OptOutReason) (attempt : Attempt) (s : State) : State :=
  { settled before reason attempt s with
    leaving := false
    armed :=
      if (settled before reason attempt s).announced = .failed then
        retireTarget before attempt.teardownRadio
      else none }

theorem updateCommunity_ends (before : Community) (reason : Option OptOutReason) (attempt : Attempt)
    (s : State) (n : Nat) : ∃ m result,
    updateCommunity before reason ⟨s, fun _ => attempt, n⟩ =
      (result, ⟨ended before reason attempt s, fun _ => attempt, m⟩) ∧
    ∀ enabled, result = .ok enabled → enabled = (ended before reason attempt s).enabled ∧
      (verdict attempt).isSome = true ∧ attempt.optIn.applied = true := by
  obtain ⟨m, left, ran, wrote⟩ := leave_ends before reason attempt s n
  have torn : ensure (leave before reason) (fun _ => ensure (communityTeardown before) fun _ =>
      update fun s => { s with leaving := false }) ⟨s, fun _ => attempt, n⟩ = _ :=
    run_ensure ran (teardown_ends before attempt _ m)
  cases result : (if attempt.teardownCut then .error .cancelled else .ok () : Except Exc Unit).bind
      fun _ => left with
  | error exc =>
      rw [result] at torn
      exact ⟨_, _, run_bind_error torn, by simp⟩
  | ok =>
      rw [result] at torn
      refine ⟨_, _, (run_bind_ok torn).trans (run_exchange _ _), ?_⟩
      intro enabled returned
      have through : left = .ok () := by
        cases cut : attempt.teardownCut with
        | true => simp [cut, Except.bind] at result
        | false => simpa [cut, Except.bind] using result
      refine ⟨?_, wrote through⟩
      dsimp only at returned
      split at returned
      · contradiction
      · exact (Except.ok.inj returned).symm

theorem run_ends (before : Community) (reason : Option OptOutReason) (pending : Option PendingEntry)
    (attempt : Attempt) : (run before reason pending attempt).2 =
      ended before reason attempt (start pending) ∧
    ∀ enabled, (run before reason pending attempt).1 = .ok enabled →
      enabled = (ended before reason attempt (start pending)).enabled ∧
        (verdict attempt).isSome = true ∧ attempt.optIn.applied = true := by
  obtain ⟨m, result, ran, returned⟩ := updateCommunity_ends before reason attempt (start pending) 0
  simp only [run, ran, true_and]
  exact returned

/-- A clear is armed where the verdict is that the call failed, which it is by default. -/
theorem verdict_failed : (verdict attempt).getD .failed = .failed ↔
    attempt.calls = true → attempt.learns = false := by
  unfold verdict
  cases calls : attempt.calls with
  | false => simp
  | true =>
      simp only [if_true, true_imp_iff, Attempt.learns]
      cases ending : attempt.post.ending with
      | answered status =>
          cases success : (Ending.answered status).isSuccess with
          | true => cases cut : attempt.clear.isCut <;> simp
          | false => simp [failureVerdict]
      | failed error =>
          simp only [Ending.isSuccess, Bool.false_eq_true, if_false, failureVerdict]
          split
          · rename_i learned
            simp [learned]
          · rename_i missed
            simpa using missed
      | refused | timedOut | cancelled => simp [Ending.isSuccess, failureVerdict]

theorem armed_iff : (ended before reason attempt (start pending)).armed ≠ none ↔
    retireTarget before attempt.teardownRadio ≠ none ∧
      (attempt.calls = true → attempt.learns = false) := by
  rw [← verdict_failed]
  change (if (verdict attempt).getD .failed = .failed then _ else none) ≠ none ↔ _
  split <;> simp [*]

theorem recorded_iff : (ended before reason attempt (start pending)).recorded = true ↔
    attempt.calls = true ∧ attempt.post.recorded = true := by
  change (if attempt.calls then attempt.post.recorded else false) = true ↔ _
  split <;> simp [*]

/-- Community's bookkeeping is right exactly where the client learns what Community recorded. -/
theorem optOut_truthful (before : Community) (reason : Option OptOutReason)
    (pending : Option PendingEntry) (attempt : Attempt) :
    Truthful reason before attempt (run before reason pending attempt) ↔ Learned before attempt := by
  obtain ⟨state, returned⟩ := run_ends before reason pending attempt
  constructor
  · intro truthful calls recorded
    have unarmed := truthful.armed
    rw [state, armed_iff] at unarmed
    by_contra missed
    push Not at missed
    have none := unarmed ⟨missed.1, fun _ => eq_false_of_ne_true missed.2⟩
    exact Bool.false_ne_true (none.symm.trans (recorded_iff.mpr ⟨calls, recorded⟩))
  · intro learned
    refine ⟨?_, ?_, ?_⟩
    · rw [state, armed_iff]
      rintro ⟨target, missed⟩
      refine eq_false_of_ne_true fun recorded => ?_
      obtain ⟨calls, recorded⟩ := recorded_iff.mp recorded
      obtain none | learns := learned calls recorded
      · exact target none
      · exact Bool.false_ne_true ((missed calls).symm.trans learns)
    · rw [state]
      intro uncut saved failure
      have unanswered : (attempt.calls && attempt.post.ending.isSuccess) = false := by
        change (if attempt.calls then attempt.post.ending.isSuccess else false) = false at failure
        cases calls : attempt.calls with
        | false => rfl
        | true => simpa [calls] using failure
      change (if attempt.calls && attempt.post.ending.isSuccess && attempt.clear.applied then none
        else if !attempt.entryCut && attempt.save.applied then some (entry before reason attempt)
        else pending) = some (entry before reason attempt)
      simp [unanswered, uncut, saved]
    · intro enabled ok
      obtain ⟨same, announced, wrote⟩ := returned enabled ok
      have off : (ended before reason attempt (start pending)).enabled = false := by
        change (if (verdict attempt).isSome && attempt.optIn.applied then false else true) = false
        rw [announced, wrote]
        rfl
      exact ⟨same.trans off, state ▸ off⟩

/-- Community's answer to the last call is lost with its connection. -/
def lost : Attempt where
  radio := ⟨⟨some "AB12", true⟩, none⟩
  requestedAt := "2026-01-01T00:00:00+00:00"
  entryCut := false
  save := .done
  post := ⟨.failed .readError, true, by decide⟩
  clear := .done
  optIn := .done
  teardownRadio := ⟨⟨some "AB12", true⟩, none⟩
  teardownCut := false
  readCut := false

/-- Community recorded the opt-out, and a clear of the status is armed all the same. -/
theorem lost_untruthful : ¬ Truthful none ⟨true, "VIE", "mqtt.meshloom.app", ""⟩ lost
    (run ⟨true, "VIE", "mqtt.meshloom.app", ""⟩ none none lost) := by
  intro truthful
  have recorded := truthful.armed (by decide +kernel)
  exact absurd recorded (by decide +kernel)

end Meshloom.OptOut
