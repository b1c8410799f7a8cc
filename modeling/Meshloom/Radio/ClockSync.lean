import Meshloom.Exchange
import Meshloom.Text

/-! The sync of the radio's clock, with its corrective reboot and its wraparound
(`app/radio_sync.py`). Every command may be answered, refused, raise, or be cancelled, with or
without effect; the radio may read anything. The log texts are left out. -/
namespace Meshloom.ClockSync
open Exchange Program

def hostClockMin : Int := 1767225600
def clockSkewThreshold : Int := 30
def clockWrapMinAhead : Int := 365 * 86400
def clockWrapTarget : Int := 0xFFFFFFFF
def clockWrapEdge : Int := clockWrapTarget - 3600
def clockWrapVerifyTolerance : Int := 5
def clockWrapMinAheadOfBuild : Int := 10 * 365 * 86400

def radioKeyUnknown : String := "unknown"

/-- A reading of the host clock, below the value that wraps the radio's. -/
abbrev HostClock := Fin 0xFFFFFFFF

inductive TimeSyncOutcome where
  | synced
  | rejected
  | rebooted
  deriving DecidableEq, Repr

/-- One call of `sync_radio_time_outcome`. -/
structure Call where
  /-- `id(mc)` -/
  connection : Nat
  allowWraparound : Bool
  deriving DecidableEq

/-- The guards of the module. -/
structure Guards where
  rebootAttempted : List String
  wrapAttemptedConn : Option Nat
  wrapDone : List String

/-- What a call does and learns. -/
inductive Event where
  | called (call : Call)
  | clock (now : Int)
  | setTime (value : Int) (accepted : Bool)
  | read (time : Option Int)
  | key (key : String)
  /-- The reboot command returned. -/
  | rebooted (key : String)
  /-- `auto_clock_wraparound` -/
  | setting (on : Bool)
  | wrapAttempt (key : String)
  | returned (outcome : TimeSyncOutcome)
  deriving DecidableEq

structure State where
  guards : Guards
  /-- The latest first. -/
  log : List Event

inductive Raised where
  | other
  /-- `asyncio.CancelledError` -/
  | cancelled
  deriving DecidableEq, Repr

/-- How a command ends. -/
inductive Reply where
  | ok
  | error
  /-- No result, or an exception; the radio may have taken the command. -/
  | raised
  | cancelled
  deriving DecidableEq, Repr

structure Outcome where
  reply : Reply
  /-- What `get_time` answers, if it answers an integer. -/
  time : Option Int
  clock : HostClock
  /-- The public key in SELF_INFO. -/
  publicKey : Option String
  autoClockWraparound : Bool
  /-- How many polls the deadline of the wraparound leaves time for. -/
  polls : Nat

abbrev Clock := Program State Outcome Raised

def State.note (event : Event) (s : State) : State := { s with log := event :: s.log }

/-- `int(time.time())` -/
def hostClock : Clock Int :=
  exchange fun outcome s => (.ok outcome.clock, s.note (.clock outcome.clock))

/-- `set_time`, and whether the radio took the value. -/
def setTime (value : Int) : Clock Bool :=
  exchange fun outcome s =>
    match outcome.reply with
    | .ok => (.ok true, s.note (.setTime value true))
    | .error => (.ok false, s.note (.setTime value false))
    | .raised => (.error .other, s.note (.setTime value false))
    | .cancelled => (.error .cancelled, s.note (.setTime value false))

def queryRadioTime : Clock (Option Int) :=
  exchange fun outcome s =>
    match outcome.reply with
    | .cancelled => (.error .cancelled, s.note (.read none))
    | .raised => (.ok none, s.note (.read none))
    | _ => (.ok outcome.time, s.note (.read outcome.time))

def keyOf (publicKey : Option String) : String :=
  match publicKey with
  | some key => if key = "" then radioKeyUnknown else Text.lower key
  | none => radioKeyUnknown

def radioKey : Clock String :=
  exchange fun outcome s => (.ok (keyOf outcome.publicKey), s.note (.key (keyOf outcome.publicKey)))

/-- `radio_workarounds.current().auto_clock_wraparound` -/
def autoClockWraparound : Clock Bool :=
  exchange fun outcome s =>
    (.ok outcome.autoClockWraparound, s.note (.setting outcome.autoClockWraparound))

/-- `reboot()`, that is recorded when it returns, whatever it returns. -/
def reboot (key : String) : Clock Bool :=
  exchange fun outcome s =>
    match outcome.reply with
    | .ok | .error =>
        (.ok true,
          { s with guards.rebootAttempted := key :: s.guards.rebootAttempted }.note (.rebooted key))
    | .raised => (.ok false, s)
    | .cancelled => (.error .cancelled, s)

def pollClockWrap : Nat → Clock (Option Int)
  | 0 => pure none
  | polls + 1 => do
    match ← queryRadioTime with
    | some wrapped => if wrapped < 60 then pure (some wrapped) else pollClockWrap polls
    | none => pollClockWrap polls

def waitForClockWrap : Clock (Option Int) := do
  let polls ← exchange fun outcome s => (.ok outcome.polls, s)
  pollClockWrap polls

/-- What is done once the radio is near the edge. -/
def setAfterWrap : Clock Bool := do
  match ← waitForClockWrap with
  | none => do
    let _ ← queryRadioTime
    pure false
  | some _ => do
    let target ← hostClock
    if ← setTime target then do
      match ← queryRadioTime with
      | none => pure false
      | some verified => do
        let now ← hostClock
        pure (decide (|verified - now| ≤ clockWrapVerifyTolerance))
    else pure false

def attemptClockWraparound (radioTime : Int) : Clock Bool := do
  if radioTime < clockWrapEdge then do
    if ← setTime clockWrapTarget then setAfterWrap else pure false
  else setAfterWrap

/-- Latches both guards of the wraparound. -/
def latchWraparound (call : Call) (key : String) : Clock Unit :=
  update fun s =>
    { s with guards :=
      { s.guards with
        wrapAttemptedConn := some call.connection, wrapDone := key :: s.guards.wrapDone } }.note
      (.wrapAttempt key)

section Build
-- The modification time of the module, when it can be read.
variable (buildTime : Option Int)

def hostClockFloor : Int :=
  match buildTime with
  | some time => max hostClockMin time
  | none => hostClockMin

def wraparound (call : Call) (key : String) (now radioTime : Int) : Clock TimeSyncOutcome := do
  let on ← autoClockWraparound
  let guards ← inspect State.guards
  if on = false ∨ guards.wrapAttemptedConn = some call.connection ∨ key ∈ guards.wrapDone then
    pure .rejected
  else if key = radioKeyUnknown then pure .rejected
  else if radioTime - now ≤ clockWrapMinAhead then pure .rejected
  else if radioTime - hostClockFloor buildTime ≤ clockWrapMinAheadOfBuild then pure .rejected
  else do
    latchWraparound call key
    let fixed ← attemptClockWraparound radioTime
    pure (if fixed then .synced else .rejected)

/-- The reboot for the first time, else the wraparound. -/
def recoverClock (call : Call) (now : Int) (radioTime : Option Int) : Clock TimeSyncOutcome := do
  let key ← radioKey
  let guards ← inspect State.guards
  if key ∉ guards.rebootAttempted then do
    let sent ← reboot key
    pure (if sent then .rebooted else .rejected)
  else
    match radioTime with
    | none => pure .rejected
    | some radioTime =>
        if call.allowWraparound then wraparound buildTime call key now radioTime
        else pure .rejected

/-- The radio is not known to be within the threshold. -/
def skewed (now : Int) (radioTime : Option Int) : Bool :=
  match radioTime with
  | some radioTime => decide (clockSkewThreshold < radioTime - now)
  | none => true

/-- The `try` block. -/
def syncClock (call : Call) : Clock TimeSyncOutcome := do
  let now ← hostClock
  if ← setTime now then pure .synced
  else do
    let radioTime ← queryRadioTime
    if skewed now radioTime = false then pure .rejected
    else if now < hostClockFloor buildTime then pure .rejected
    else recoverClock buildTime call now radioTime

def syncRadioTimeOutcome (call : Call) : Clock TimeSyncOutcome :=
  recover (syncClock buildTime call) fun raised =>
    if raised = .cancelled then raise raised else pure .rejected

/-- A call, noted with what it returns. -/
def serve (call : Call) : Clock Unit := do
  update (State.note (.called call))
  let outcome ← syncRadioTimeOutcome buildTime call
  update (State.note (.returned outcome))

/-- Calls one after the other; one that is cancelled ends without a result. -/
def serveAll : List Call → Clock Unit
  | [] => pure ()
  | call :: rest => do
    recover (serve buildTime call) fun _ => pure ()
    serveAll rest

/-- What a process has noted after these calls. -/
def process (calls : List Call) (outcomes : Nat → Outcome) : State :=
  (serveAll buildTime calls ⟨⟨⟨[], none, []⟩, []⟩, outcomes, 0⟩).2.state

end Build

end Meshloom.ClockSync
