import Meshloom.Community.StatusClear
import Meshloom.Exchange

/-! An opt-out of Community (`_update_community_locked` and what it calls, in
`app/services/meshloom_community.py`): the last call, the write that turns Community off, and the
teardown, of which the pending status clear matters here. Each await ends as the attempt says, in
a cancellation of the caller too. -/
namespace Meshloom.OptOut
open Exchange Program StatusClear

inductive OptOutReason where
  | privacy
  | notUseful
  | technicalIssue
  | other
  deriving DecidableEq

/-- The request errors of `httpx`. -/
inductive RequestError where
  | connectTimeout
  | readTimeout
  | writeTimeout
  | poolTimeout
  | connectError
  | readError
  | writeError
  | closeError
  | proxyError
  | unsupportedProtocol
  | localProtocolError
  | remoteProtocolError
  | decodingError
  | tooManyRedirects
  deriving DecidableEq

/-- `httpx.TimeoutException` -/
def RequestError.isTimeout : RequestError → Bool
  | .connectTimeout | .readTimeout | .writeTimeout | .poolTimeout => true
  | _ => false

/-- How the `POST /v1/me/opt-out` ends for the client. -/
inductive Ending where
  /-- Before anything left: the egress guard, the breaker, a ban, no radio key. -/
  | refused
  | answered (status : Nat)
  | failed (error : RequestError)
  /-- The `wait_for` around it. -/
  | timedOut
  | cancelled
  deriving DecidableEq

def Ending.isSuccess : Ending → Bool
  | .answered status => 200 ≤ status && status < 300
  | _ => false

/-- It surely never left. -/
def Ending.unsent : Ending → Bool
  | .refused | .failed .connectTimeout | .failed .connectError => true
  | _ => false

/-- The last call, and whether Community recorded it. -/
structure Post where
  ending : Ending
  recorded : Bool
  left : ending.unsent = true → recorded = false

inductive WriteEnd where
  | done
  | raises
  /-- The caller is cancelled meanwhile, after the write took effect or before. -/
  | cut (effect : Bool)
  deriving DecidableEq

def WriteEnd.applied : WriteEnd → Bool
  | .done => true
  | .raises => false
  | .cut effect => effect

def WriteEnd.isCut : WriteEnd → Bool
  | .cut _ => true
  | _ => false

/-- What the keystore and the record of the last published status say at one time. -/
structure Radio where
  keystore : Keystore
  /-- None also where it cannot be read. -/
  lastPublished : Option StatusClearTarget

/-- How each await of an opt-out ends. -/
structure Attempt where
  radio : Radio
  requestedAt : String
  /-- The caller is cancelled while the last published status is read. -/
  entryCut : Bool
  save : WriteEnd
  post : Post
  clear : WriteEnd
  optIn : WriteEnd
  /-- The radio when the teardown comes to the status. -/
  teardownRadio : Radio
  /-- A cancellation during the teardown, which `_run_to_completion` holds. -/
  teardownCut : Bool
  /-- The settings are read again at the end; the caller may be cancelled there. -/
  readCut : Bool

structure PendingEntry where
  pubkey : String
  reason : Option OptOutReason
  requestedAt : String
  iata : String
  deriving DecidableEq

/-- `OptOutResult` -/
inductive Verdict where
  | confirmed
  | maybe
  | failed
  deriving DecidableEq

structure State where
  enabled : Bool
  pending : Option PendingEntry
  leaving : Bool
  /-- The local of `_update_community_locked`. -/
  announced : Verdict
  /-- The target that was marked as "clear pending". -/
  armed : Option StatusClearTarget
  /-- Whether Community recorded the opt-out, and whether it answered 2xx: ghosts. -/
  recorded : Bool
  success : Bool

inductive Exc where
  /-- `HTTPException`, with the request error that caused it. -/
  | http (cause : Option RequestError)
  | timeout
  | database
  | cancelled
  deriving DecidableEq

abbrev Action := Program State Attempt Exc

/-- A database write, with what becomes of its error. -/
def write (pick : Attempt → WriteEnd) (change : State → State) (onError : Except Exc Unit) :
    Action Unit :=
  exchange fun attempt s =>
    match pick attempt with
    | .done => (.ok (), change s)
    | .raises => (onError, s)
    | .cut effect => (.error .cancelled, if effect then change s else s)

/-- `_set_opt_out_pending`, which only logs an error. -/
def setOptOutPending (pick : Attempt → WriteEnd) (entry : Option PendingEntry) : Action Unit :=
  write pick (fun s => { s with pending := entry }) (.ok ())

/-- The radio away: the key the publisher last published with stands in. -/
def pendingPubkey (radio : Radio) : String :=
  match radio.keystore.publicKey with
  | some key => key
  | none => (radio.lastPublished.map fun last => Text.upper last.pubkey).getD ""

def pendingEntry (state : Community) (reason : Option OptOutReason) : Action PendingEntry :=
  exchange fun attempt s =>
    if attempt.entryCut then (.error .cancelled, s)
    else (.ok ⟨pendingPubkey attempt.radio, reason, attempt.requestedAt, state.iata⟩, s)

/-- `_post_opt_out` under `wait_for`: what `stats_request` and `_json_or_http_error` make of each
ending. -/
def postOptOut : Action Unit :=
  exchange fun attempt s =>
    let post := attempt.post
    let s := { s with recorded := post.recorded, success := post.ending.isSuccess }
    match post.ending with
    | .refused => (.error (.http none), s)
    | .answered _ => (if post.ending.isSuccess then .ok () else .error (.http none), s)
    | .failed error => (.error (.http (some error)), s)
    | .timedOut => (.error .timeout, s)
    | .cancelled => (.error .cancelled, s)

def mayHaveReached : Exc → Bool
  | .timeout => true
  | .http (some cause) => cause.isTimeout && cause != .connectTimeout
  | _ => false

/-- The verdict where the last call raised, none where it did not. -/
def lastCall (state : Community) (reason : Option OptOutReason) : Action (Option Verdict) :=
  recover
    (do
      let entry ← pendingEntry state reason
      setOptOutPending Attempt.save (some entry)
      postOptOut
      return none)
    fun exc =>
      if exc = .cancelled then raise exc
      else return some (if mayHaveReached exc then .maybe else .failed)

def announceOptOut (state : Community) (reason : Option OptOutReason) : Action Verdict := do
  match ← lastCall state reason with
  | some verdict => return verdict
  | none =>
      setOptOutPending Attempt.clear none
      return .confirmed

/-- The topic to clear: this radio's, or the last published one where it is the same. -/
def retireTarget (before : Community) (radio : Radio) : Option StatusClearTarget :=
  match targetFor before radio.keystore with
  | some target => some target
  | none =>
      radio.lastPublished.filter fun last =>
        last.iata = before.iata && last.brokerHost = before.brokerHost

/-- `community_teardown`, run to completion. -/
def communityTeardown (before : Community) : Action Unit :=
  exchange fun attempt s =>
    let target := retireTarget before attempt.teardownRadio
    (if attempt.teardownCut then .error .cancelled else .ok (),
      { s with armed := if s.announced = .failed then target else none })

def readEnabled : Action Bool :=
  exchange fun attempt s => (if attempt.readCut then .error .cancelled else .ok s.enabled, s)

/-- `_update_community_locked`, for an opt-out. -/
def updateCommunity (before : Community) (reason : Option OptOutReason) : Action Bool := do
  ensure
    (do
      update fun s => { s with leaving := true }
      let verdict ← announceOptOut before reason
      update fun s => { s with announced := verdict }
      write Attempt.optIn (fun s => { s with enabled := false }) (.error .database))
    fun _ => ensure (communityTeardown before) fun _ => update fun s => { s with leaving := false }
  readEnabled

/-- Community is on; an earlier opt-out may be pending. -/
def start (pending : Option PendingEntry) : State where
  enabled := true
  pending
  leaving := false
  announced := .failed
  armed := none
  recorded := false
  success := false

def run (before : Community) (reason : Option OptOutReason) (pending : Option PendingEntry)
    (attempt : Attempt) : Except Exc Bool × State :=
  let (result, world) := updateCommunity before reason ⟨start pending, fun _ => attempt, 0⟩
  (result, world.state)

/-- What the bookkeeping says of Community is so. -/
structure Truthful (reason : Option OptOutReason) (before : Community) (attempt : Attempt)
    (ended : Except Exc Bool × State) : Prop where
  /-- A clear is armed only if Community did not record the opt-out. -/
  armed : ended.2.armed ≠ none → ended.2.recorded = false
  /-- The pending record, once written, stays unless Community answered 2xx. -/
  pending : attempt.entryCut = false → attempt.save.applied = true → ended.2.success = false →
    ended.2.pending = some ⟨pendingPubkey attempt.radio, reason, attempt.requestedAt, before.iata⟩
  /-- Where the update returns Community is off. -/
  off : ∀ enabled, ended.1 = .ok enabled → enabled = false ∧ ended.2.enabled = false

/-- The last call is made. -/
def Attempt.calls (attempt : Attempt) : Bool := !attempt.entryCut && !attempt.save.isCut

/-- The client learns that Community may have recorded the call: a 2xx, unless the caller is
cancelled before its record is cleared, or a timeout, unless that was the connection's. -/
def Attempt.learns (attempt : Attempt) : Bool :=
  match attempt.post.ending with
  | .answered _ => attempt.post.ending.isSuccess && !attempt.clear.isCut
  | .failed error => error.isTimeout && error != .connectTimeout
  | .timedOut => true
  | .refused | .cancelled => false

/-- What Community recorded the client learns of, where there is a topic to clear. -/
def Learned (before : Community) (attempt : Attempt) : Prop :=
  attempt.calls = true → attempt.post.recorded = true →
    retireTarget before attempt.teardownRadio = none ∨ attempt.learns = true

end Meshloom.OptOut
