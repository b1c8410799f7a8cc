import Meshloom.Dict
import Meshloom.Transition
import Meshloom.Update.OssUpdates

/-! Automatic updates (`_maybe_auto_apply`): the poll loop, the timer of the next window, the
checks after a settings change and the refreshes on request, as tasks that run from one await
to the next. The database answers a settings read under the lock that every write takes, and
the reader goes on before it is released, so that it sees the settings as they are stored. -/
namespace Meshloom.AutoApply
open OssUpdates

/-- The local time of day: the weekday with Monday 0, the minute, and whether any of it has
passed, with the time stamp. -/
structure Moment where
  weekday : Nat
  minute : Nat
  within : Bool
  time : Int
  deriving DecidableEq, Repr

/-- The settings of automatic updates, the window in minutes. -/
structure Settings where
  autoUpdate : Bool
  windowStart : Nat
  windowEnd : Nat
  weekdays : List Nat
  deriving DecidableEq, Repr

def inWindow (now : Moment) (settings : Settings) : Bool :=
  let { windowStart, windowEnd, weekdays, .. } := settings
  if weekdays = [] then false
  else if windowStart = windowEnd then now.weekday ∈ weekdays
  else if windowStart < windowEnd then
    now.weekday ∈ weekdays && decide (windowStart ≤ now.minute) && decide (now.minute < windowEnd)
  -- A window over midnight belongs to the weekday on which it opened.
  else if windowStart ≤ now.minute then now.weekday ∈ weekdays
  else decide (now.minute < windowEnd) && decide ((now.weekday + 6) % 7 ∈ weekdays)

/-- The days until the window opens next and the minute at which it does. -/
def nextWindowStart (now : Moment) (settings : Settings) : Option (Nat × Nat) :=
  if settings.weekdays = [] then none
  else
    let opening := if settings.windowStart = settings.windowEnd then 0 else settings.windowStart
    let ahead := opening > now.minute || (opening = now.minute && !now.within)
    (List.range 8).findSome? fun offset =>
      if (now.weekday + offset) % 7 ∈ settings.weekdays ∧ (offset > 0 ∨ ahead) then
        some (offset, opening)
      else none

inductive JobState where
  | idle | applying | succeeded | failed
  deriving DecidableEq, Repr

/-- The job record that `read_job` merges from the files. -/
structure Job where
  state : JobState
  startedAt : Option Int
  lastAttempt : Option Int
  target : Option (List Char)
  deriving DecidableEq, Repr

def applyingTtlSeconds : Int := 20 * 60
def autoUpdateBackoffSeconds : Int := 6 * 3600
def settingsRecheckMaxAgeSeconds : Int := 300

def expireStaleApplyingJob (job : Job) (now : Int) : Job :=
  if job.state = .applying then
    match job.startedAt with
    | none => job
    | some stamp =>
      if now - stamp < applyingTtlSeconds then job
      else { job with state := .failed, lastAttempt := some (job.lastAttempt.getD stamp) }
  else job

def lastAttemptRecent (job : Job) (now : Int) : Bool :=
  match job.lastAttempt.or job.startedAt with
  | none => false
  | some stamp => now - stamp < autoUpdateBackoffSeconds

/-- What the job record says against another attempt. -/
def jobForbids (job : Job) (now : Int) (latest : Option (List Char)) : Bool :=
  match job.state with
  | .idle => false
  | .applying => true
  | .succeeded => (job.target = latest) || lastAttemptRecent job now
  | .failed => lastAttemptRecent job now

/-- What a task was started for. -/
inductive Kind where
  | refresh
  | poll
  | timer
  | recheck
  deriving DecidableEq, Repr

/-- The await at which a task stands. -/
inductive Await where
  /-- It has not begun yet, or sleeps. -/
  | waiting
  | fetching
  /-- `_maybe_notify_oss_update` -/
  | notifying
  /-- `AppSettingsRepository.get` in `_maybe_auto_apply` -/
  | readingSettings (status : Status)
  | applying
  deriving DecidableEq, Repr

structure Task where
  kind : Kind
  await : Await
  cancelled : Bool
  deriving DecidableEq, Repr

structure State where
  cache : Cache
  windowTimerTask : Option Nat
  tasks : Dict Nat Task
  nextTask : Nat
  /-- As they are stored. -/
  settings : Settings
  job : Job
  /-- Whether `detect_install_kind` supports updates. -/
  applySupported : Bool
  /-- Every answer of Community that a refresh got, the last one first. -/
  answers : List (Option Payload)

namespace State
variable (s : State)

def spawn (kind : Kind) (await : Await) : State :=
  { s with tasks := s.tasks.set s.nextTask ⟨kind, await, false⟩, nextTask := s.nextTask + 1 }

def goOn (t : Nat) (kind : Kind) (await : Await) : State :=
  { s with tasks := s.tasks.set t ⟨kind, await, false⟩ }

/-- The poll loop sleeps until its next round, and every other task is done. -/
def finish (t : Nat) (kind : Kind) : State :=
  match kind with
  | .poll => s.goOn t kind .waiting
  | _ => { s with tasks := s.tasks.pop t }

def cancel (t : Nat) : State :=
  match s.tasks.get? t with
  | none => s
  | some task => { s with tasks := s.tasks.set t { task with cancelled := true } }

end State

/-- `_cancel_window_timer`, called by the task `t`. -/
def cancelWindowTimer (s : State) (t : Nat) : State :=
  match s.windowTimerTask with
  | none => s
  | some timer =>
    let s := { s with windowTimerTask := none }
    if timer = t then s else s.cancel timer

def scheduleWindowApply (s : State) (t : Nat) : State :=
  let s := cancelWindowTimer s t
  { s.spawn .timer .waiting with windowTimerTask := some s.nextTask }

section
variable {V : Type} (v : Versions V) (build : Build)

/-- `_maybe_auto_apply` up to the settings read, if it comes to that. -/
def maybeAutoApply (s : State) (t : Nat) (kind : Kind) : State :=
  let current := getUpdateStatus v build s.cache
  if !current.updateAvailable then s.finish t kind
  else if current.autoUpdateHeld then (cancelWindowTimer s t).finish t kind
  else if current.checkStale || !s.applySupported then s.finish t kind
  else s.goOn t kind (.readingSettings current)

/-- What `refresh_oss_update_cache` returns to. -/
def afterRefresh (s : State) (t : Nat) (kind : Kind) : State :=
  match kind with
  | .refresh => s.finish t kind
  | _ => maybeAutoApply v build s t kind

/-- The answer is cached; only an update that is available is notified. -/
def answered (s : State) (t : Nat) (kind : Kind) (answer : Option Payload) (now : Int) : State :=
  let received := fetchLatestRelease v answer
  let s := { s with cache := answerCached v s.cache now answer, answers := received :: s.answers }
  if received.isSome && (getUpdateStatus v build s.cache).updateAvailable then
    s.goOn t kind .notifying
  else afterRefresh v build s t kind

/-- A task begins, or its sleep is over. -/
def wake (s : State) (t : Nat) (kind : Kind) (now : Int) : State :=
  match kind with
  | .recheck =>
    let current := getUpdateStatus v build s.cache
    if current.updateAvailable ∧ now - current.checkedAt.getD 0 > settingsRecheckMaxAgeSeconds then
      s.goOn t kind .fetching
    else maybeAutoApply v build s t kind
  | _ => s.goOn t kind .fetching

end

/-- The rest of `_maybe_auto_apply`, up to `start_apply`; the settings read may have failed. -/
def settingsRead (s : State) (t : Nat) (kind : Kind) (status : Status) (ok : Bool)
    (now : Moment) : State :=
  if !ok then s.finish t kind
  else if !s.settings.autoUpdate then (cancelWindowTimer s t).finish t kind
  else if !inWindow now s.settings then
    match nextWindowStart now s.settings with
    | some _ => (scheduleWindowApply s t).finish t kind
    | none => (cancelWindowTimer s t).finish t kind
  else
    let job := expireStaleApplyingJob s.job now.time
    let s := { cancelWindowTimer s t with job }
    if jobForbids job now.time status.latest then s.finish t kind else s.goOn t kind .applying

inductive Event where
  /-- `POST /updates/refresh` -/
  | refresh
  /-- A settings change spawns `recheck_auto_apply`. -/
  | recheck
  | store (settings : Settings)
  | wake (t : Nat) (now : Int)
  | answered (t : Nat) (answer : Option Payload) (now : Int)
  | notified (t : Nat)
  | settingsRead (t : Nat) (ok : Bool) (now : Moment)
  /-- `start_apply` returns or raises. -/
  | applied (t : Nat)
  /-- A cancelled task ends. -/
  | cancelled (t : Nat)
  /-- The job files change. -/
  | jobChanged (job : Job)
  | installChanged (supported : Bool)
  deriving DecidableEq, Repr

/-- The task that goes on; a cancelled one only ends. -/
def running (s : State) (t : Nat) : Option Task := (s.tasks.get? t).filter (!·.cancelled)

section
variable {V : Type} (v : Versions V) (build : Build)

def step (s : State) : Event → Option State
  | .refresh => some (s.spawn .refresh .fetching)
  | .recheck => some (s.spawn .recheck .waiting)
  | .store settings => some { s with settings }
  | .wake t now =>
    match running s t with
    | some ⟨kind, .waiting, _⟩ => some (wake v build s t kind now)
    | _ => none
  | .answered t answer now =>
    match running s t with
    | some ⟨kind, .fetching, _⟩ => some (answered v build s t kind answer now)
    | _ => none
  | .notified t =>
    match running s t with
    | some ⟨kind, .notifying, _⟩ => some (afterRefresh v build s t kind)
    | _ => none
  | .settingsRead t ok now =>
    match running s t with
    | some ⟨kind, .readingSettings status, _⟩ => some (settingsRead s t kind status ok now)
    | _ => none
  | .applied t =>
    match running s t with
    | some ⟨kind, .applying, _⟩ => some (s.finish t kind)
    | _ => none
  | .cancelled t =>
    match s.tasks.get? t with
    | some ⟨_, _, true⟩ => some { s with tasks := s.tasks.pop t }
    | _ => none
  | .jobChanged job => some { s with job }
  | .installChanged supported => some { s with applySupported := supported }

end

/-- The server starts: nothing is cached, and the poll loop has not begun. -/
structure Initial (s : State) : Prop where
  cache : s.cache = ⟨none, none, false⟩
  answers : s.answers = []
  windowTimerTask : s.windowTimerTask = none
  polling : ∀ t task, s.tasks.get? t = some task → task = ⟨.poll, .waiting, false⟩
  below : ∀ t task, s.tasks.get? t = some task → t < s.nextTask

end Meshloom.AutoApply
