import Meshloom.Update.UpdateJob

/-! An applying job that carries its start expires, and one that does not stays for good. A request
sees the status of another one's run only when that run started less than the clock skew before it. -/
namespace Meshloom.UpdateJob
open Transition

/-- The three files can be read, and the record that is shown carries its start while it applies. -/
def Dated (files : Files) : Prop :=
  ∃ attempt helper, readAttempt files = .ok attempt ∧ readHelperStatus files = .ok helper ∧
    ∀ record, attempt.or helper = some record → record.state = .applying → record.startedAt ≠ none

/-- From some time on the job is not shown as applying, and a request is admitted once the record of
the expired job is written. -/
def ComesFree (files : Files) : Prop :=
  ∃ time, ∀ now, time ≤ now → (∀ writes, ∃ job after,
      expireStaleApplyingJob files now writes = .ok (job, after) ∧ job.state ≠ .applying) ∧
    ∃ after, admission files now true = .ok (some after)

section Payload

theorem memberOf_phase (phase : Option Phase) :
    memberOf phases ((phase.map fun phase => PyValue.string phase.text).getD .null) = .ok phase := by
  cases phase with
  | none => rfl
  | some phase => cases phase <;> rfl

theorem memberOf_state {state : RecordState} (known : state ≠ .cooldown) :
    memberOf (allowed false) (.string state.text) = .ok (some state) := by
  cases state with
  | idle | applying | succeeded | failed => rfl
  | cooldown => exact absurd rfl known

/-- A record is one when its state and its phase can be looked up. -/
theorem normalizeRecord_known {allowCooldown : Bool} {entries : Entries} {state : RecordState}
    {phase : Option Phase}
    (known : memberOf (allowed allowCooldown) (PyValue.get entries "state".toList) = .ok (some state))
    (phased : memberOf phases (PyValue.get entries "phase".toList) = .ok phase) :
    normalizeRecord allowCooldown (some entries) = .ok (some (recordOf state phase entries)) := by
  rw [normalizeRecord, known]
  dsimp only [Bind.bind, Except.bind]
  rw [phased]
  rfl

/-- A record of the app is read back. -/
theorem readRecord_payload {record : Record} (known : record.state ≠ .cooldown) :
    ∃ read, readRecord false (.value (payload record)) = .ok (some read) ∧ read.state = record.state ∧
      read.startedAt = record.startedAt := by
  have state : memberOf (allowed false) (PyValue.get (payloadEntries record) "state".toList) =
      .ok (some record.state) := by
    rw [← memberOf_state known]
    simp [payloadEntries, PyValue.get]
  have phase : memberOf phases (PyValue.get (payloadEntries record) "phase".toList) = .ok record.phase := by
    rw [← memberOf_phase record.phase]
    simp [payloadEntries, PyValue.get]
  have started : intOrNone (PyValue.get (payloadEntries record) "started_at".toList) =
      record.startedAt := by
    cases given : record.startedAt with
    | none => simp [payloadEntries, PyValue.get, given, intOrNone]
    | some started => simp [payloadEntries, PyValue.get, given, intOrNone]
  exact ⟨_, normalizeRecord_known state phase, rfl, started⟩

end Payload

section Merge
variable {files : Files} {attempt helper : Option Record} {current : Record} {now : Int} {writes : Bool}

theorem readJob_of (tried : readAttempt files = .ok attempt) (helped : readHelperStatus files = .ok helper) :
    readJob files = .ok (mergedJob attempt helper) := by
  rw [readJob, tried, helped]
  rfl

theorem readJob_ok (read : readJob files = .ok current) : ∃ attempt helper,
    readAttempt files = .ok attempt ∧ readHelperStatus files = .ok helper ∧
      current = mergedJob attempt helper := by
  rw [readJob] at read
  cases tried : readAttempt files with
  | error failure =>
      rw [tried] at read
      cases read
  | ok attempt =>
      cases helped : readHelperStatus files with
      | error failure =>
          rw [tried, helped] at read
          cases read
      | ok helper =>
          rw [tried, helped] at read
          exact ⟨attempt, helper, rfl, rfl, (Except.ok.inj read).symm⟩

theorem supersedes_iff {attempt helper : Record} : supersedes attempt helper = true ↔
    attempt.state = .applying ∧ ∃ requested started, attempt.startedAt = some requested ∧
      helper.startedAt = some started ∧ requested - statusClockSkewSeconds ≤ started := by
  rw [supersedes, Bool.and_eq_true, decide_eq_true_iff]
  refine and_congr_right fun _ => ?_
  cases attempt.startedAt with
  | none => simp
  | some requested =>
      cases helper.startedAt with
      | none => simp
      | some started => simp

/-- A record of the app that is not applying is the job. -/
theorem readJob_settled {attempt : Record} (tried : readAttempt files = .ok (some attempt))
    (settled : attempt.state ≠ .applying) (helped : readHelperStatus files = .ok helper) :
    readJob files = .ok attempt := by
  rw [readJob_of tried helped]
  cases helper with
  | none => rfl
  | some helper =>
      have stays : ¬ supersedes attempt helper = true := fun wins => settled (supersedes_iff.mp wins).1
      rw [mergedJob, if_neg stays]

/-- A job that is shown as applying carries its start if the record that it comes from does. -/
theorem mergedJob_dated (dated : ∀ record, attempt.or helper = some record → record.state = .applying →
    record.startedAt ≠ none) (applying : (mergedJob attempt helper).state = .applying) :
    (mergedJob attempt helper).startedAt ≠ none := by
  cases attempt with
  | none =>
      cases helper with
      | none => cases applying
      | some helper =>
          rw [mergedJob] at applying ⊢
          split at applying
          · cases applying
          · rename_i helped
            rw [if_neg helped]
            exact dated helper rfl applying
  | some attempt =>
      cases helper with
      | none => exact dated attempt rfl applying
      | some helper =>
          rw [mergedJob] at applying ⊢
          split at applying
          · rename_i wins
            obtain ⟨-, -, started, -, start, -⟩ := supersedes_iff.mp wins
            rw [if_pos wins, overlay]
            dsimp only
            rw [start]
            exact Option.some_ne_none started
          · rename_i stays
            rw [if_neg stays]
            exact dated attempt rfl applying

/-- A record that applies without a start is shown so. -/
theorem mergedJob_undated {record : Record} (from_ : attempt.or helper = some record)
    (applying : record.state = .applying) (undated : record.startedAt = none) :
    (mergedJob attempt helper).state = .applying ∧ (mergedJob attempt helper).startedAt = none := by
  cases attempt with
  | none =>
      obtain rfl : helper = some record := from_
      have helped : ¬ record.state = .cooldown := by
        rw [applying]
        decide
      rw [mergedJob, if_neg helped]
      exact ⟨applying, undated⟩
  | some attempt =>
      obtain rfl : attempt = record := Option.some.inj from_
      cases helper with
      | none => exact ⟨applying, undated⟩
      | some helper =>
          have stays : ¬ supersedes attempt helper = true := by
            intro wins
            obtain ⟨-, requested, -, given, -⟩ := supersedes_iff.mp wins
            rw [undated] at given
            cases given
          rw [mergedJob, if_neg stays]
          exact ⟨applying, undated⟩

end Merge

section Expiry
variable {files : Files} {current : Record} {now stamp : Int}

theorem expired_state (current : Record) (stamp : Int) : (expired current stamp).state = .failed := rfl

theorem expire_same (read : readJob files = .ok current)
    (stays : current.state ≠ .applying ∨ current.startedAt = none) (now : Int) (writes : Bool) :
    expireStaleApplyingJob files now writes = .ok (current, files) := by
  rw [expireStaleApplyingJob, read]
  dsimp only [Bind.bind, Except.bind]
  split
  · rfl
  · rename_i applying
    rw [stays.resolve_left applying]
    rfl

theorem expire_stale (read : readJob files = .ok current) (applying : current.state = .applying)
    (started : current.startedAt = some stamp) (late : stamp + applyingTtlSeconds ≤ now) (writes : Bool) :
    expireStaleApplyingJob files now writes = .ok (expired current stamp,
      if writes then { files with attempt := .value (payload (expired current stamp)) } else files) := by
  have passed : ¬ now - stamp < applyingTtlSeconds := by omega
  rw [expireStaleApplyingJob, read]
  dsimp only [Bind.bind, Except.bind]
  rw [if_neg (not_not_intro applying), started]
  dsimp only
  rw [if_neg passed]
  rfl

theorem admission_of {after : Files} {job : Record} (expires : expireStaleApplyingJob files now true =
    .ok (current, after)) (read : readJob after = .ok job) (free : job.state ≠ .applying) :
    admission files now true = .ok (some after) := by
  rw [admission, expires]
  dsimp only [Bind.bind, Except.bind]
  rw [read]
  dsimp only [Pure.pure, Except.pure]
  rw [if_neg free]

theorem comesFree_iff (files : Files) : ComesFree files ↔ Dated files := by
  constructor
  · rintro ⟨time, free⟩
    obtain ⟨job, after, expires, not_applying⟩ := (free time (Int.le_refl _)).1 true
    cases read : readJob files with
    | error failure =>
        rw [expireStaleApplyingJob, read] at expires
        cases expires
    | ok current =>
        obtain ⟨attempt, helper, tried, helped, rfl⟩ := readJob_ok read
        refine ⟨attempt, helper, tried, helped, fun record from_ applying undated => ?_⟩
        obtain ⟨shown, start⟩ := mergedJob_undated from_ applying undated
        rw [expire_same read (.inr start)] at expires
        cases expires
        exact not_applying shown
  · rintro ⟨attempt, helper, tried, helped, dated⟩
    have read := readJob_of tried helped
    by_cases applying : (mergedJob attempt helper).state = .applying
    · obtain ⟨stamp, started⟩ := Option.ne_none_iff_exists'.mp (mergedJob_dated dated applying)
      refine ⟨stamp + applyingTtlSeconds, fun now late => ⟨fun writes => ?_, ?_⟩⟩
      · refine ⟨_, _, expire_stale read applying started late writes, ?_⟩
        rw [expired_state]
        decide
      · have failed : (expired (mergedJob attempt helper) stamp).state ≠ .cooldown := by
          rw [expired_state]
          decide
        -- The record of the expired job is the app's own from then on.
        obtain ⟨own, written, state, -⟩ := readRecord_payload failed
        have settled : own.state ≠ .applying := by
          rw [state, expired_state]
          decide
        have expires := expire_stale read applying started late true
        exact ⟨_, admission_of expires (readJob_settled written settled helped) settled⟩
    · refine ⟨0, fun now _ => ⟨fun writes => ?_, ?_⟩⟩
      · exact ⟨_, _, expire_same read (.inl applying) now writes, applying⟩
      · exact ⟨files, admission_of (expire_same read (.inl applying) now true) read applying⟩

/-- Expiring leaves the files alone, or writes a failed record of the app. -/
theorem expire_cases {after : Files} {writes : Bool} (expires : expireStaleApplyingJob files now writes =
    .ok (current, after)) : after = files ∨
      ∃ shown stamp, after = { files with attempt := .value (payload (expired shown stamp)) } := by
  cases read : readJob files with
  | error failure =>
      rw [expireStaleApplyingJob, read] at expires
      cases expires
  | ok shown =>
      by_cases stays : shown.state ≠ .applying ∨ shown.startedAt = none
      · rw [expire_same read stays] at expires
        cases expires
        exact .inl rfl
      · obtain ⟨applying, dated⟩ := not_or.mp stays
        obtain ⟨stamp, started⟩ := Option.ne_none_iff_exists'.mp dated
        by_cases late : stamp + applyingTtlSeconds ≤ now
        · rw [expire_stale read (not_not.mp applying) started late] at expires
          cases expires
          cases writes with
          | true => exact .inr ⟨shown, stamp, rfl⟩
          | false => exact .inl rfl
        · have early : now - stamp < applyingTtlSeconds := by omega
          rw [expireStaleApplyingJob, read] at expires
          dsimp only [Bind.bind, Except.bind] at expires
          rw [if_neg applying, started] at expires
          dsimp only at expires
          rw [if_pos early] at expires
          cases expires
          exact .inl rfl

theorem admission_cases {after : Files} {writes : Bool} (admitted : admission files now writes =
    .ok (some after)) : after.status = files.status ∧ after.job = files.job := by
  rw [admission] at admitted
  cases expires : expireStaleApplyingJob files now writes with
  | error failure =>
      rw [expires] at admitted
      cases admitted
  | ok result =>
      obtain ⟨shown, left⟩ := result
      rw [expires] at admitted
      dsimp only [Bind.bind, Except.bind] at admitted
      cases read : readJob left with
      | error failure =>
          rw [read] at admitted
          cases admitted
      | ok job =>
          rw [read] at admitted
          dsimp only [Pure.pure, Except.pure] at admitted
          split at admitted
          · cases admitted
          · cases admitted
            obtain rfl | ⟨_, _, rfl⟩ := expire_cases expires
            · exact ⟨rfl, rfl⟩
            · exact ⟨rfl, rfl⟩

end Expiry

/-- A request comes when no helper's status is younger than the clock skew, and while the latest request
applies no run of another request that started so late publishes. What the app writes of its own is
read back. -/
def Clear (s : State) : Event → Prop
  | .request _ now _ _ fits =>
    fits = true ∧ ∀ helper started, readHelperStatus s.files = .ok (some helper) →
      helper.startedAt = some started → started < now - statusClockSkewSeconds
  | .refused _ fits => fits = true
  | .publish run legacy _ =>
    ∀ r attempt requested, s.runs[run]? = some r → readAttempt s.files = .ok (some attempt) →
      attempt.state = .applying → s.requests.getLast? = some requested →
      (legacy = true → ∀ status, readRecord true s.files.status ≠ .ok (some status)) →
      r.trigger = s.requests.length - 1 ∨ r.startedAt < requested - statusClockSkewSeconds
  | .helperStarted | .expire _ _ | .unlinkJob | .run _ _ => True

/-- The app's record is that of the latest request, and while it applies only a run that this request
triggered can supersede it. -/
structure Own (s : State) (attempt : Record) : Prop where
  read : readAttempt s.files = .ok (some attempt)
  started : attempt.state = .applying → attempt.startedAt = s.requests.getLast?
  latest : attempt.state = .applying → ∀ helper, readHelperStatus s.files = .ok (some helper) →
    supersedes attempt helper = true → s.helperFrom = some (s.requests.length - 1)

section Run
variable {s t : State} {attempt : Record}

theorem Own.of_settled (read : readAttempt s.files = .ok (some attempt))
    (settled : attempt.state ≠ .applying) : Own s attempt :=
  ⟨read, fun applying => absurd applying settled, fun applying => absurd applying settled⟩

/-- A record of the app that has failed is read back as one. -/
theorem own_failed {record : Record} (failed : record.state = .failed)
    (written : s.files.attempt = .value (payload record)) : ∃ attempt, Own s attempt := by
  have known : record.state ≠ .cooldown := by
    rw [failed]
    decide
  obtain ⟨own, read, state, -⟩ := readRecord_payload known
  rw [← written] at read
  refine ⟨own, .of_settled read ?_⟩
  rw [state, failed]
  decide

theorem readHelperStatus_some {files : Files} {helper : Record}
    (read : readHelperStatus files = .ok (some helper)) :
    readRecord true files.status = .ok (some helper) ∨
      readRecord true files.status = .ok none ∧ readRecord false files.job = .ok (some helper) := by
  rw [readHelperStatus] at read
  cases status : readRecord true files.status with
  | error failure =>
      rw [status] at read
      cases read
  | ok record =>
      rw [status] at read
      dsimp only [Bind.bind, Except.bind] at read
      cases record with
      | none => exact .inr ⟨rfl, read⟩
      | some record =>
          cases read
          exact .inl rfl

theorem helperFrom_status {helper : Record} (read : readRecord true s.files.status = .ok (some helper)) :
    s.helperFrom = s.statusFrom := by
  rw [State.helperFrom, read]

theorem helperFrom_job (read : readRecord true s.files.status = .ok none) : s.helperFrom = s.jobFrom := by
  rw [State.helperFrom, read]

theorem readHelperStatus_of_status {files : Files} {helper : Record}
    (read : readRecord true files.status = .ok (some helper)) :
    readHelperStatus files = .ok (some helper) := by
  rw [readHelperStatus, read]
  rfl

theorem shows_of_own (own : s.requests ≠ [] → ∃ attempt, Own s attempt) : ShowsLatest s := by
  intro some_request
  obtain ⟨attempt, read, -, latest⟩ := own some_request
  refine ⟨attempt, read, fun job shown => ?_⟩
  obtain ⟨tried, helper, at_, helped, rfl⟩ := readJob_ok shown
  rw [read] at at_
  obtain rfl := Except.ok.inj at_
  cases helper with
  | none => exact .inl rfl
  | some helper =>
      rw [mergedJob]
      split
      · rename_i wins
        exact .inr ⟨helper, helped, latest (supersedes_iff.mp wins).1 helper helped wins, rfl⟩
      · exact .inl rfl

/-- A request's own record is superseded by nothing that was there before. -/
theorem own_request {files : Files} {now : Int} {target : Option Text} {starting : Option (Int × Option Text)}
    (same : files.status = s.files.status ∧ files.job = s.files.job)
    (clear : ∀ helper started, readHelperStatus s.files = .ok (some helper) →
      helper.startedAt = some started → started < now - statusClockSkewSeconds) :
    ∃ attempt, Own { s with
      files := { files with attempt := .value (payload (requested now target)) }
      starting
      requests := s.requests ++ [now] } attempt := by
  have known : (requested now target).state ≠ .cooldown := fun same => by cases same
  obtain ⟨own, read, -, start⟩ := readRecord_payload known
  refine ⟨own, read, fun _ => ?_, fun _ helper helped wins => ?_⟩
  · rw [start, List.getLast?_concat]
    rfl
  · obtain ⟨-, time, started, given, begun, near⟩ := supersedes_iff.mp wins
    obtain rfl : now = time := Option.some.inj (start.symm.trans given)
    have before : readHelperStatus s.files = .ok (some helper) := by
      rw [readHelperStatus, ← same.1, ← same.2]
      exact helped
    have early := clear helper started before begun
    omega

/-- The app's record stays; which record a helper shows changes only to that of a run that may
supersede it. -/
theorem Own.keep (own : Own s attempt) (same : t.files.attempt = s.files.attempt)
    (requests : t.requests = s.requests)
    (shown : attempt.state = .applying → ∀ helper, readHelperStatus t.files = .ok (some helper) →
      supersedes attempt helper = true →
        (readHelperStatus s.files = .ok (some helper) ∧ t.helperFrom = s.helperFrom) ∨
          t.helperFrom = some (s.requests.length - 1)) : Own t attempt where
  read := by
    rw [readAttempt, same]
    exact own.read
  started := requests ▸ own.started
  latest applying helper helped wins := by
    rw [requests]
    rcases shown applying helper helped wins with ⟨before, from_⟩ | latest
    · rw [from_]
      exact own.latest applying helper before wins
    · exact latest

/-- A run that publishes is of the latest request, or started before the clock skew. -/
theorem publish_wins (own : Own s attempt) {r : Run} {helper : Record} (wins : supersedes attempt helper = true)
    (begun : helper.startedAt = some r.startedAt)
    (clear : ∀ time, s.requests.getLast? = some time →
      r.trigger = s.requests.length - 1 ∨ r.startedAt < time - statusClockSkewSeconds) :
    r.trigger = s.requests.length - 1 := by
  obtain ⟨applying, time, started, given, start, near⟩ := supersedes_iff.mp wins
  obtain rfl : r.startedAt = started := Option.some.inj (begun.symm.trans start)
  refine (clear time ((own.started applying).symm.trans given)).resolve_right fun early => ?_
  omega

theorem step_own (own : s.requests ≠ [] → ∃ attempt, Own s attempt) {e : Event} (clear : Clear s e)
    (stepped : step s e = some t) : t.requests ≠ [] → ∃ attempt, Own t attempt := by
  intro some_request
  cases e with
  | request checkedAt now target writes fits =>
      obtain ⟨rfl, early⟩ := clear
      rw [step] at stepped
      split at stepped
      · cases stepped
      · split at stepped
        · cases stepped
        · cases stepped
        · rename_i files admitted
          cases stepped
          exact own_request (admission_cases admitted) early
  | refused error fits =>
      obtain rfl := clear
      obtain ⟨⟨now, target⟩, -, rfl⟩ := Option.map_eq_some_iff.mp stepped
      have failed : (refused now target error).state = .failed := rfl
      exact own_failed failed rfl
  | helperStarted =>
      rw [step] at stepped
      split at stepped
      · cases stepped
        obtain ⟨attempt, own⟩ := own some_request
        exact ⟨attempt, own.keep rfl rfl fun _ _ helped _ => .inl ⟨helped, rfl⟩⟩
      · cases stepped
  | expire now writes =>
      rw [step] at stepped
      split at stepped
      · cases stepped
      · rename_i shown files expires
        cases stepped
        obtain rfl | ⟨shown, stamp, rfl⟩ := expire_cases expires
        · obtain ⟨attempt, own⟩ := own some_request
          exact ⟨attempt, own.keep rfl rfl fun _ _ helped _ => .inl ⟨helped, rfl⟩⟩
        · exact own_failed (expired_state shown stamp) rfl
  | unlinkJob =>
      cases stepped
      obtain ⟨attempt, own⟩ := own some_request
      refine ⟨attempt, own.keep rfl rfl fun _ helper helped _ => .inl ?_⟩
      rcases readHelperStatus_some helped with status | ⟨-, job⟩
      · have before : readRecord true s.files.status = .ok (some helper) := status
        exact ⟨readHelperStatus_of_status before,
          (helperFrom_status status).trans (helperFrom_status before).symm⟩
      · cases job
  | run trigger startedAt =>
      rw [step] at stepped
      split at stepped
      · cases stepped
        obtain ⟨attempt, own⟩ := own some_request
        exact ⟨attempt, own.keep rfl rfl fun _ _ helped _ => .inl ⟨helped, rfl⟩⟩
      · cases stepped
  | publish run legacy entries =>
      obtain ⟨r, ran, published⟩ := Option.bind_eq_some_iff.mp stepped
      split at published
      · rename_i record normal
        split at published
        · rename_i begun
          split at published
          · rename_i old
            subst old
            cases published
            obtain ⟨attempt, own⟩ := own some_request
            refine ⟨attempt, own.keep rfl rfl fun applying helper helped wins => ?_⟩
            rcases readHelperStatus_some helped with status | ⟨unread, job⟩
            · have before : readRecord true s.files.status = .ok (some helper) := status
              exact .inl ⟨readHelperStatus_of_status before,
                (helperFrom_status status).trans (helperFrom_status before).symm⟩
            · have same : helper = record := Option.some.inj (Except.ok.inj (job.symm.trans normal))
              subst same
              refine .inr ((helperFrom_job unread).trans ?_)
              have hidden : ∀ status, readRecord true s.files.status ≠ .ok (some status) := by
                intro status read
                have unread_ : readRecord true s.files.status = .ok none := unread
                rw [unread_] at read
                cases read
              exact congrArg some (publish_wins own wins begun fun time last =>
                clear r attempt time ran own.read applying last fun _ => hidden)
          · rename_i new
            cases published
            obtain ⟨attempt, own⟩ := own some_request
            refine ⟨attempt, own.keep rfl rfl fun applying helper helped wins => ?_⟩
            have known : legacy = false := Bool.eq_false_iff.mpr new
            subst known
            have status : readRecord true (.value (.object entries)) = .ok (some record) := normal
            have same : helper = record := Option.some.inj (Except.ok.inj
              (helped.symm.trans (readHelperStatus_of_status status)))
            subst same
            refine .inr ((helperFrom_status status).trans ?_)
            exact congrArg some (publish_wins own wins begun fun time last =>
              clear r attempt time ran own.read applying last fun old => by cases old)
        · cases published
      · cases published

/-- An update job comes free exactly when the record that is shown while it applies carries its start,
and in a clear run no request sees the status of another one's run. -/
theorem update_job (files : Files) : (ComesFree files ↔ Dated files) ∧
    ∀ s, Reaches step Clear (start files) s → ShowsLatest s := by
  refine ⟨comesFree_iff files, fun s run => ?_⟩
  refine shows_of_own (run.invariant (P := fun s => s.requests ≠ [] → ∃ attempt, Own s attempt)
    (fun own clear stepped => step_own own clear stepped) ?_)
  exact fun some_request => absurd rfl some_request

end Run

section Example

private def noFiles : Files := ⟨.absent, .absent, .absent⟩

private def statusOf (state : String) (startedAt : PyValue) : Entries :=
  [("state".toList, .string state.toList), ("started_at".toList, startedAt)]

theorem update_job_first : Dated noFiles ∧ ComesFree noFiles ∧ ∃ s, s.requests = [100] ∧
    readJob s.files = .ok ⟨.applying, none, none, none, some 101, some 100, none⟩ ∧ ShowsLatest s := by
  have sound := update_job noFiles
  have dated : Dated noFiles := ⟨none, none, rfl, rfl, fun record none_ => by cases none_⟩
  let asked := (step (start noFiles) (.request 100 100 none true true)).getD (start noFiles)
  let ran := (step asked (.run 0 101)).getD asked
  let published := (step ran (.publish 0 false (statusOf "applying" (.int 101)))).getD ran
  have clear : Clear (start noFiles) (.request 100 100 none true true) :=
    ⟨rfl, fun helper started helped => by cases helped⟩
  have latest : Clear ran (.publish 0 false (statusOf "applying" (.int 101))) := by
    intro r attempt time found _ _ _ _
    have same : (⟨0, 101⟩ : Run) = r := Option.some.inj found
    exact .inl (same ▸ rfl)
  have first : Reaches step Clear (start noFiles) asked := .next (.refl _) clear rfl
  have runs : Clear asked (.run 0 101) := trivial
  have second : Reaches step Clear (start noFiles) ran := .next first runs rfl
  have third : Reaches step Clear (start noFiles) published := .next second latest rfl
  exact ⟨dated, sound.1.mpr dated, _, rfl, rfl, sound.2 _ third⟩

/-- A status that applies without a start stays; one whose state is a list cannot be read; and a second
request, a second after the first, sees how the run of the first one ended. -/
theorem update_job_misled :
    ¬ ComesFree ⟨.value (.object (statusOf "applying" .null)), .absent, .absent⟩ ∧
    (¬ ComesFree ⟨.value (.object [("state".toList, .array [])]), .absent, .absent⟩) ∧
    ∃ s, Reaches step Any (start noFiles) s ∧ s.requests = [100, 101] ∧ ¬ ShowsLatest s := by
  refine ⟨fun free => ?_, fun free => ?_, ?_⟩
  · obtain ⟨attempt, helper, tried, helped, dated⟩ := (comesFree_iff _).mp free
    cases tried
    cases helped
    exact dated _ rfl rfl rfl
  · obtain ⟨attempt, helper, -, helped, -⟩ := (comesFree_iff _).mp free
    cases helped
  · have ran : (execute step (start noFiles) [.request 100 100 none true true, .helperStarted,
        .run 0 100, .publish 0 false (statusOf "failed" (.int 100)), .request 101 101 none true true]).any
        (fun s => decide (s.requests = [100, 101] ∧ s.helperFrom = some 0 ∧
          (readJob s.files).toOption.map (·.state) = some .failed ∧
          (readAttempt s.files).toOption.map (Option.map (·.state)) = some (some .applying))) = true := by
      decide +kernel
    obtain ⟨s, executed, holds⟩ := (Option.any_eq_true _ _).mp ran
    obtain ⟨requests, from_, shown, own⟩ := of_decide_eq_true holds
    refine ⟨s, execute_reaches executed, requests, fun shows => ?_⟩
    obtain ⟨attempt, read, jobs⟩ := shows (by simp [requests])
    rw [read] at own
    cases job : readJob s.files with
    | error failure =>
        rw [job] at shown
        cases shown
    | ok job_ =>
        rw [job] at shown
        rcases jobs job_ job with same | ⟨helper, -, latest, -⟩
        · subst same
          have failed : job_.state = .failed := Option.some.inj shown
          have applying : job_.state = .applying := Option.some.inj (Option.some.inj own)
          rw [failed] at applying
          cases applying
        · rw [from_, requests] at latest
          cases latest

end Example

end Meshloom.UpdateJob
