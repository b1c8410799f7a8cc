import Meshloom.PyValue
import Meshloom.Text
import Meshloom.Transition

/-! The job of an update (`app/services/update_apply.py`): the app's record of its last request and
the status that the root helper publishes, merged by their times. A file is what `json.loads` makes of
it. -/
namespace Meshloom.UpdateJob
open Transition

abbrev Text := List Char
abbrev Entries := List (List Char × PyValue)

inductive RecordState where
  | idle
  | applying
  | succeeded
  | failed
  /-- Only in the helper's status. -/
  | cooldown
  deriving DecidableEq

inductive Phase where
  | preparing
  | downloading
  | installing
  | restarting
  | done
  deriving DecidableEq

def recordStates : List (String × RecordState) :=
  [("idle", .idle), ("applying", .applying), ("succeeded", .succeeded), ("failed", .failed),
    ("cooldown", .cooldown)]

/-- `_PHASES` -/
def phases : List (String × Phase) :=
  [("preparing", .preparing), ("downloading", .downloading), ("installing", .installing),
    ("restarting", .restarting), ("done", .done)]

def RecordState.text : RecordState → Text
  | .idle => "idle".toList
  | .applying => "applying".toList
  | .succeeded => "succeeded".toList
  | .failed => "failed".toList
  | .cooldown => "cooldown".toList

def Phase.text : Phase → Text
  | .preparing => "preparing".toList
  | .downloading => "downloading".toList
  | .installing => "installing".toList
  | .restarting => "restarting".toList
  | .done => "done".toList

def statusClockSkewSeconds : Int := 2
def applyingTtlSeconds : Int := 20 * 60
def applyTimeoutError : Text := "apply timed out".toList
def cooldownError : Text := "update requested too soon; try again in a few minutes".toList

/-- What reading a record may raise. -/
inductive ReadError where
  /-- `ValueError`: a number of more digits than Python converts. -/
  | digits
  /-- `RecursionError` of `json.loads` -/
  | nesting
  /-- `TypeError`: a list or a dict is looked up in a set. -/
  | unhashable
  deriving DecidableEq

/-- A file: absent or unreadable, of more than `STATUS_MAX_BYTES`, no JSON, or what its text stands
for, if `json.loads` does not raise. -/
inductive Content where
  | absent
  | oversized
  | malformed
  | raises (error : ReadError)
  | value (value : PyValue)

structure Files where
  status : Content
  /-- `update-job.json` of an old helper -/
  job : Content
  attempt : Content

structure Record where
  state : RecordState
  phase : Option Phase
  percent : Option Int
  error : Option Text
  startedAt : Option Int
  lastAttempt : Option Int
  target : Option Text
  deriving DecidableEq

def idleJob : Record := ⟨.idle, none, none, none, none, none, none⟩

section Read

def readJsonObject : Content → Except ReadError (Option Entries)
  | .raises error => .error error
  | .value (.object entries) => .ok (some entries)
  | .value _ | .absent | .oversized | .malformed => .ok none

/-- The member of a set of texts that a value is. -/
def memberOf (texts : List (String × α)) : PyValue → Except ReadError (Option α)
  | .array _ | .object _ => .error .unhashable
  | .string s => .ok (texts.lookup (String.ofList s))
  | _ => .ok none

def intOrNone : PyValue → Option Int
  | .int n => some n
  | _ => none

def textOrNone : PyValue → Option Text
  | .string s => some s
  | _ => none

/-- The states that a record may have. -/
def allowed (allowCooldown : Bool) : List (String × RecordState) :=
  recordStates.filter fun state => allowCooldown || state.2 ≠ .cooldown

/-- The other fields of a record; bad types are dropped. -/
def recordOf (state : RecordState) (phase : Option Phase) (entries : Entries) : Record :=
  let read := fun (name : String) => PyValue.get entries name.toList
  { state
    phase
    percent := (intOrNone (read "percent")).filter fun percent => 0 ≤ percent ∧ percent ≤ 100
    error := (textOrNone (read "error")).map (·.take 500)
    startedAt := intOrNone (read "started_at")
    lastAttempt := intOrNone (read "last_attempt")
    target := (textOrNone (read "target")).filter fun target => target.length ≤ 64 }

def normalizeRecord (allowCooldown : Bool) : Option Entries → Except ReadError (Option Record)
  | none => .ok none
  | some entries => do
    match ← memberOf (allowed allowCooldown) (PyValue.get entries "state".toList) with
    | none => return none
    | some state =>
      let phase ← memberOf phases (PyValue.get entries "phase".toList)
      return some (recordOf state phase entries)

def readRecord (allowCooldown : Bool) (content : Content) : Except ReadError (Option Record) :=
  (readJsonObject content).bind (normalizeRecord allowCooldown)

def readHelperStatus (files : Files) : Except ReadError (Option Record) := do
  match ← readRecord true files.status with
  | some status => return some status
  | none => readRecord false files.job

def readAttempt (files : Files) : Except ReadError (Option Record) := readRecord false files.attempt

/-- The helper's record started after the request. -/
def supersedes (attempt helper : Record) : Bool :=
  attempt.state = .applying &&
    match attempt.startedAt, helper.startedAt with
    | some requested, some started => decide (requested - statusClockSkewSeconds ≤ started)
    | _, _ => false

/-- The attempt with the public keys of the helper's record. -/
def overlay (attempt helper : Record) : Record :=
  { attempt with
    state := if helper.state = .cooldown then .failed else helper.state
    phase := helper.phase
    percent := helper.percent
    error :=
      if helper.state = .cooldown then some ((helper.error.filter (· ≠ [])).getD cooldownError)
      else helper.error
    startedAt := helper.startedAt }

def mergedJob (attempt helper : Option Record) : Record :=
  match attempt, helper with
  | none, none => idleJob
  | none, some helper =>
    if helper.state = .cooldown then idleJob
    else { helper with lastAttempt := helper.startedAt.or helper.lastAttempt }
  | some attempt, none => attempt
  | some attempt, some helper => if supersedes attempt helper then overlay attempt helper else attempt

def readJob (files : Files) : Except ReadError Record := do
  let attempt ← readAttempt files
  let helper ← readHelperStatus files
  return mergedJob attempt helper

end Read

section Write

/-- The object that `write_job` writes. -/
def payloadEntries (record : Record) : Entries :=
  let orNull := fun (value : Option PyValue) => some (value.getD .null)
  PyValue.present
    [("state", some (.string record.state.text)), ("phase", orNull (record.phase.map (.string ·.text))),
      ("percent", orNull (record.percent.map .int)), ("error", orNull (record.error.map .string)),
      ("started_at", orNull (record.startedAt.map .int)),
      ("last_attempt", orNull (record.lastAttempt.map .int)), ("target", record.target.map .string)]

def payload (record : Record) : PyValue := .object (payloadEntries record)

/-- The record that an applying one becomes when its time is over. -/
def expired (current : Record) (stamp : Int) : Record :=
  { state := .failed
    phase := current.phase
    percent := current.percent
    error := some applyTimeoutError
    startedAt := some stamp
    lastAttempt := some (current.lastAttempt.getD stamp)
    target := current.target }

/-- `expire_stale_applying_job`, whose write may fail. -/
def expireStaleApplyingJob (files : Files) (now : Int) (writes : Bool) :
    Except ReadError (Record × Files) := do
  let current ← readJob files
  if current.state ≠ .applying then return (current, files)
  else
    match current.startedAt with
    | none => return (current, files)
    | some stamp =>
      if now - stamp < applyingTtlSeconds then return (current, files)
      else
        let failed := expired current stamp
        return (failed, if writes then { files with attempt := .value (payload failed) } else files)

/-- What `start_apply` does up to its own record: the files that it goes on with; none when it is busy. -/
def admission (files : Files) (now : Int) (writes : Bool) : Except ReadError (Option Files) := do
  let (_, files) ← expireStaleApplyingJob files now writes
  let job ← readJob files
  return if job.state = .applying then none else some files

end Write

/-- A run of the helper, with the number of the request that triggered it. -/
structure Run where
  trigger : Nat
  startedAt : Int
  deriving DecidableEq

/-- The files with the requests so far, by their times, and the runs of the helper. Nothing reads
which request the run that wrote a file was triggered by. -/
structure State where
  files : Files
  /-- The request whose helper is being started. -/
  starting : Option (Int × Option Text)
  requests : List Int
  runs : List Run
  statusFrom : Option Nat
  jobFrom : Option Nat

def start (files : Files) : State := ⟨files, none, [], [], none, none⟩

inductive Event where
  /-- `start_apply`; the record may be larger than what is read back. -/
  | request (checkedAt now : Int) (target : Option Text) (writes fits : Bool)
  /-- The helper cannot be started. -/
  | refused (error : Text) (fits : Bool)
  | helperStarted
  | expire (now : Int) (writes : Bool)
  /-- `start_compose_helper` removes the file of an old helper. -/
  | unlinkJob
  | run (trigger : Nat) (startedAt : Int)
  | publish (run : Nat) (legacy : Bool) (entries : Entries)

/-- The content of a file that was written. -/
def stored (fits : Bool) (record : Record) : Content :=
  if fits then .value (payload record) else .oversized

/-- What `start_apply` writes before it starts the helper. -/
def requested (now : Int) (target : Option Text) : Record :=
  ⟨.applying, some .preparing, none, none, some now, some now, target⟩

/-- What it writes when that fails. -/
def refused (now : Int) (target : Option Text) (error : Text) : Record :=
  ⟨.failed, some .preparing, none, some error, some now, some now, target⟩

def step (s : State) : Event → Option State
  | .request checkedAt now target writes fits =>
    if s.starting.isSome then none
    else
      match admission s.files checkedAt writes with
      | .error _ | .ok none => none
      | .ok (some files) =>
        some { s with
          files := { files with attempt := stored fits (requested now target) }
          starting := some (now, target)
          requests := s.requests ++ [now] }
  | .refused error fits =>
    s.starting.map fun (now, target) =>
      { s with
        files := { s.files with attempt := stored fits (refused now target error) }
        starting := none }
  | .helperStarted => if s.starting.isSome then some { s with starting := none } else none
  | .expire now writes =>
    match expireStaleApplyingJob s.files now writes with
    | .error _ => none
    | .ok (_, files) => some { s with files }
  | .unlinkJob => some { s with
      files := { s.files with job := .absent }
      jobFrom := none }
  | .run trigger startedAt =>
    if s.requests[trigger]?.any (· ≤ startedAt) then
      some { s with runs := s.runs ++ [⟨trigger, startedAt⟩] }
    else none
  | .publish run legacy entries =>
    s.runs[run]?.bind fun run =>
      match normalizeRecord (!legacy) (some entries) with
      | .ok (some record) =>
        if record.startedAt = some run.startedAt then
          if legacy then
            some { s with
              files := { s.files with job := .value (.object entries) }
              jobFrom := some run.trigger }
          else
            some { s with
              files := { s.files with status := .value (.object entries) }
              statusFrom := some run.trigger }
        else none
      | _ => none

/-- The request that triggered the run whose record `read_helper_status` returns. -/
def State.helperFrom (s : State) : Option Nat :=
  match readRecord true s.files.status with
  | .ok (some _) => s.statusFrom
  | _ => s.jobFrom

/-- `read_job` shows the app's own record or the status of a run that the latest request triggered. -/
def ShowsLatest (s : State) : Prop :=
  s.requests ≠ [] → ∃ attempt, readAttempt s.files = .ok (some attempt) ∧
    ∀ job, readJob s.files = .ok job → job = attempt ∨ ∃ helper,
      readHelperStatus s.files = .ok (some helper) ∧ s.helperFrom = some (s.requests.length - 1) ∧
        job = overlay attempt helper

end Meshloom.UpdateJob
