import Meshloom.Transition
import Mathlib.Data.List.Basic

/-! The life of one `BaseMqttPublisher` (`app/fanout/mqtt_base.py`): `start`, `stop`, `publish` and
the connection loops, one await at a time and in any order. `restart`, and `_restart_module` of
`app/fanout/manager.py`, are a stop and then a start. The version event may be seen at any time, and
the hooks of a subclass may return, raise or take long; what they send and show is left out. -/
namespace Meshloom.PublisherLoop
open Transition
variable {σ : Type}

/-- How a loop left the connection it closes. -/
inductive Exit where
  | normal
  | failed
  | cancelled
  deriving DecidableEq

/-- What a connection loop awaits. -/
inductive Phase (σ : Type) where
  /-- The task has not run yet. -/
  | created
  /-- The version event, while not configured. -/
  | unconfigured
  /-- `_pre_connect` -/
  | preparing (settings : σ) (version : Nat)
  /-- The client's `__aenter__`. -/
  | opening (settings : σ) (version : Nat)
  /-- `_on_connected_async` -/
  | greeting (client : Nat) (version : Nat)
  /-- The version event, for up to a minute. -/
  | waiting (client : Nat) (version : Nat)
  /-- `_on_periodic_wake` -/
  | waking (client : Nat) (version : Nat)
  /-- The client's `__aexit__`. -/
  | closing (client : Nat) (exit : Exit)
  /-- `_on_connection_error` -/
  | reporting
  | sleeping
  | ended

def Phase.done : Phase σ → Bool
  | .ended => true
  | _ => false

/-- A connection loop. How many stops had returned when it was started is a ghost. -/
structure Loop (σ : Type) where
  phase : Phase σ
  /-- `cancel` was called and has not reached the loop yet. -/
  cancelRequested : Bool
  started : Nat

/-- A client that was opened. The loop that opened it and how many stops had returned then are
ghosts. -/
structure Client (σ : Type) where
  settings : σ
  version : Nat
  isOpen : Bool
  loop : Nat
  stops : Nat

/-- Where a call of `stop` is. -/
inductive Stop where
  /-- `_before_disconnect` -/
  | farewell
  /-- It has cancelled the loop and waits for it. -/
  | waiting (loop : Nat)
  | returned
  deriving DecidableEq

def Stop.waits : Stop → Bool
  | .waiting _ => true
  | _ => false

structure State (σ : Type) where
  settings : Option σ
  settingsVersion : Nat
  client : Option Nat
  connected : Bool
  task : Option Nat
  loops : List (Loop σ)
  clients : List (Client σ)
  stops : List Stop
  /-- How many calls of `publish` await their client. -/
  publishing : Nat
  /-- The event loop is Windows' Proactor. -/
  proactor : Bool
  /-- How many stops have returned, a ghost. -/
  stopsReturned : Nat

/-- How what a loop awaits ends. -/
inductive Signal where
  | returns
  /-- `_pre_connect` returns False, or `_should_break_wait` True. -/
  | declines
  | raises
  | timesOut
  | cancelled
  deriving DecidableEq

inductive Event (σ : Type) where
  | start (settings : σ)
  | stop
  /-- `_before_disconnect` of a stop returns, raises or takes too long. -/
  | farewellEnds (stop : Nat)
  /-- The loop has ended, or STOP_TIMEOUT_S have passed. -/
  | stopResumes (stop : Nat)
  | publish
  | published
  | publishFails
  /-- A loop goes on; what `_is_configured` says where it asks. -/
  | loop (loop : Nat) (signal : Signal) (configured : Bool)

def put (s : State σ) (i : Nat) (loop : Loop σ) : State σ := { s with loops := s.loops.set i loop }

def drop (s : State σ) : State σ := { s with connected := false, client := none }

def closeClient (s : State σ) (c : Nat) : State σ :=
  { s with clients := s.clients.modify c fun client => { client with isOpen := false } }

/-- The top of the loop. -/
def iterate (s : State σ) (i : Nat) (loop : Loop σ) (configured : Bool) : State σ :=
  match configured, s.settings with
  | true, some settings => put s i { loop with phase := .preparing settings s.settingsVersion }
  | _, _ => put (drop s) i { loop with phase := .unconfigured }

/-- The handler of a failure. -/
def fail (s : State σ) (i : Nat) (loop : Loop σ) : State σ :=
  put (drop s) i { loop with phase := if s.proactor then .ended else .reporting }

def connect (s : State σ) (i : Nat) (loop : Loop σ) (settings : σ) (version : Nat) : State σ :=
  put
    { s with
      client := some s.clients.length
      connected := true
      clients := s.clients ++ [⟨settings, version, true, i, s.stopsReturned⟩] }
    i { loop with phase := .greeting s.clients.length version }

/-- The condition of the inner wait. -/
def awaitVersion (s : State σ) (i : Nat) (loop : Loop σ) (c version : Nat) : State σ :=
  put s i { loop with
    phase := if s.settingsVersion = version then .waiting c version else .closing c .normal }

/-- The client is closed. -/
def closed (s : State σ) (i : Nat) (loop : Loop σ) (c : Nat) (exit : Exit) (configured : Bool) :
    State σ :=
  match exit with
  | .normal => iterate (drop (closeClient s c)) i loop configured
  | .failed => fail (closeClient s c) i loop
  | .cancelled => put (drop (closeClient s c)) i { loop with phase := .ended }

/-- The cancellation reaches the loop. -/
def cancelled (s : State σ) (i : Nat) (loop : Loop σ) : Option (State σ) :=
  match loop.phase with
  | .created | .unconfigured | .reporting | .sleeping =>
      some (put s i { loop with phase := .ended, cancelRequested := false })
  | .preparing _ _ | .opening _ _ =>
      some (put (drop s) i { loop with phase := .ended, cancelRequested := false })
  | .greeting c _ | .waiting c _ | .waking c _ =>
      some (put s i { loop with phase := .closing c .cancelled, cancelRequested := false })
  | .closing c _ =>
      some (put (drop (closeClient s c)) i { loop with phase := .ended, cancelRequested := false })
  | .ended => none

/-- `_connection_loop`, from one await to the next. -/
def resume (s : State σ) (i : Nat) (loop : Loop σ) (signal : Signal) (configured : Bool) :
    Option (State σ) :=
  match loop.phase, signal with
  | .created, .returns => some (iterate s i loop configured)
  | .unconfigured, .returns | .unconfigured, .timesOut => some (iterate s i loop configured)
  | .preparing settings version, .returns =>
      some (put s i { loop with phase := .opening settings version })
  | .preparing _ _, .declines => some (iterate s i loop configured)
  | .preparing _ _, .raises => some (fail s i loop)
  | .opening settings version, .returns => some (connect s i loop settings version)
  | .opening _ _, .raises => some (fail s i loop)
  | .greeting c version, .returns => some (awaitVersion s i loop c version)
  | .greeting c _, .raises => some (put s i { loop with phase := .closing c .failed })
  | .waiting c version, .returns => some (awaitVersion s i loop c version)
  | .waiting c version, .timesOut => some (put s i { loop with phase := .waking c version })
  | .waking c version, .returns => some (awaitVersion s i loop c version)
  | .waking c _, .declines => some (put s i { loop with phase := .closing c .normal })
  | .waking c _, .raises => some (put s i { loop with phase := .closing c .failed })
  | .closing c exit, .returns => some (closed s i loop c exit configured)
  -- What `__aexit__` raises takes the place of what it was called for, a cancellation too.
  | .closing c _, .raises => some (fail (closeClient s c) i loop)
  | .reporting, .returns | .reporting, .raises => some (put s i { loop with phase := .sleeping })
  | .sleeping, .returns => some (iterate s i loop configured)
  | _, _ => none

/-- Whether `_task` is there and not done. -/
def running (s : State σ) : Bool :=
  ((s.task.bind (s.loops[·]?)).map fun loop => !loop.phase.done).getD false

def startLoop (s : State σ) (settings : σ) : State σ :=
  if running s then
    { s with settings := some settings, settingsVersion := s.settingsVersion + 1 }
  else
    { s with
      settings := some settings
      settingsVersion := s.settingsVersion + 1
      task := some s.loops.length
      loops := s.loops ++ [⟨.created, false, s.stopsReturned⟩] }

/-- `_reset_after_stop`, and the stop returns. -/
def returnStop (s : State σ) (j : Nat) : State σ :=
  { s with
    task := none
    client := none
    connected := false
    stops := s.stops.set j .returned
    stopsReturned := s.stopsReturned + 1 }

/-- The rest of `stop`. -/
def cancelTask (s : State σ) (j : Nat) : State σ :=
  match s.task with
  | none => returnStop s j
  | some i =>
      match s.loops[i]? with
      | none => returnStop s j
      | some loop =>
          if loop.phase.done then returnStop s j
          else { put s i { loop with cancelRequested := true } with stops := s.stops.set j (.waiting i) }

def beginStop (s : State σ) : State σ :=
  let stopping := { s with stops := s.stops ++ [.farewell] }
  if s.client.isSome && s.connected then stopping else cancelTask stopping s.stops.length

def step (s : State σ) : Event σ → Option (State σ)
  | .start settings => some (startLoop s settings)
  | .stop => some (beginStop s)
  | .farewellEnds j =>
      match s.stops[j]? with
      | some .farewell => some (cancelTask s j)
      | _ => none
  | .stopResumes j =>
      match s.stops[j]? with
      | some (.waiting i) =>
          match s.loops[i]? with
          -- A cancellation reaches the loop at once, long before the time is up.
          | some loop => if loop.cancelRequested then none else some (returnStop s j)
          | none => none
      | _ => none
  | .publish =>
      if s.client.isSome && s.connected then some { s with publishing := s.publishing + 1 } else some s
  | .published => if s.publishing = 0 then none else some { s with publishing := s.publishing - 1 }
  | .publishFails =>
      if s.publishing = 0 then none
      else
        some { s with
          publishing := s.publishing - 1
          connected := false
          settingsVersion := s.settingsVersion + 1 }
  | .loop i signal configured =>
      match s.loops[i]? with
      | none => none
      | some loop =>
          if loop.cancelRequested then
            if signal = .cancelled then cancelled s i loop else none
          else resume s i loop signal configured

def start (proactor : Bool) : State σ where
  settings := none
  settingsVersion := 0
  client := none
  connected := false
  task := none
  loops := []
  clients := []
  stops := []
  publishing := 0
  proactor
  stopsReturned := 0

/-- A loop runs that was started before the last stop returned. -/
def Abandoned (s : State σ) (i : Nat) : Prop :=
  ∃ loop, s.loops[i]? = some loop ∧ loop.phase.done = false ∧ loop.started < s.stopsReturned

/-- What holds of a publisher's loops and connections. -/
structure Orderly (s : State σ) : Prop where
  /-- Each client was opened before any stop returned since its loop was started. -/
  sealed : ∀ client ∈ s.clients,
    ∃ loop, s.loops[client.loop]? = some loop ∧ client.stops = loop.started
  /-- At most one loop runs that was started since the last stop returned. -/
  single : ∀ (i j : Nat) (first second : Loop σ), s.loops[i]? = some first → s.loops[j]? = some second →
    first.phase.done = false → second.phase.done = false →
    first.started = s.stopsReturned → second.started = s.stopsReturned → i = j
  /-- A connected publisher has a client that is open, with the last settings unless it is about to
  be replaced. -/
  live : s.connected = true → ∃ c client, s.client = some c ∧ s.clients[c]? = some client ∧
    client.isOpen = true ∧ (s.settings = some client.settings ∨ client.version ≠ s.settingsVersion)

/-- A step of a loop that a stop has abandoned does not touch what a later loop has set. -/
def Harmless (s : State σ) (e : Event σ) (t : State σ) : Prop :=
  ∀ i signal configured, e = .loop i signal configured → Abandoned s i →
    t.client = s.client ∧ t.connected = s.connected

/-- No loop is made while a stop waits for one; a loop that was cancelled closes its client without
an error, and one that is no longer the task closes its client only while no later one has set
`_client`. -/
def Separate (s : State σ) : Event σ → Prop
  | .start _ => running s = true ∨ ∀ stop ∈ s.stops, stop.waits = false
  | .loop i signal _ =>
      match s.loops[i]? with
      | none => True
      | some loop =>
          match loop.phase with
          | .closing _ exit =>
              (exit = .cancelled → signal ≠ .raises) ∧ (s.task ≠ some i → s.client = none)
          | _ => True
  | _ => True

instance (s : State σ) (e : Event σ) : Decidable (Separate s e) := by
  unfold Separate
  split
  · infer_instance
  · split
    · infer_instance
    · split <;> infer_instance
  · infer_instance

end Meshloom.PublisherLoop
