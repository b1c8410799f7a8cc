import Meshloom.WebSocket.Delivery

/-! Health frames (`broadcast_health`, `app/websocket.py`, and `build_health_data`,
`app/routers/health.py`). Every call spawns a task that reads the database two to four times and then
queues its frame. The reads and the writes of the database come one after another: its lock serves
its waiters in order, and a task that resumes from one read asks for the next behind the others. A
frame is tagged with its call, which nothing reads. -/
namespace Meshloom.WebSocket
open Transition
namespace Health
variable {W T R : Type} [DecidableEq W] [DecidableEq T] [DecidableEq R]

/-- `identity_state`s that the frame shows instead of the radio's state. -/
def shownIdentityStates : List String := ["identity_mismatch", "identity_unbound_legacy"]

/-- What `build_health_data` finds in the runtime behind its first suspension. `rest` is what it
only passes on: the statuses of the fanout modules and the like. -/
structure Runtime (R : Type) where
  setupInProgress : Bool
  setupComplete : Bool
  connectionDesired : Bool
  isReconnecting : Bool
  expectedReboot : Option String
  rest : List R

/-- The local variables behind the first suspension. -/
structure Draft (R : Type) where
  oldestTs : Option Int
  radioInitializing : Bool
  radioState : String
  rebootReason : Option String
  rest : List R
  deriving DecidableEq

structure HealthData (R : Type) where
  status : String
  radioConnected : Bool
  radioInitializing : Bool
  radioState : String
  rebootReason : Option String
  connectionInfo : Option String
  oldestUndecryptedTimestamp : Option Int
  transportConfigured : Bool
  identity : Option R
  rest : List R
  deriving DecidableEq

/-- The part of `build_health_data` between the first and the second suspension. -/
def draft (radioConnected : Bool) (oldestTs : Option Int) (runtime : Runtime R) : Draft R :=
  let setupComplete := radioConnected && runtime.setupComplete
  let radioInitializing := radioConnected && (runtime.setupInProgress || !setupComplete)
  let shown := fun state reason => ⟨oldestTs, radioInitializing, state, reason, runtime.rest⟩
  if !runtime.connectionDesired then shown "paused" none
  else
    match runtime.expectedReboot with
    | some reason => shown "rebooting" (some reason)
    | none =>
      if radioInitializing then shown "initializing" none
      else if radioConnected then shown "connected" none
      else if runtime.isReconnecting then shown "connecting" none
      else shown "disconnected" none

/-- Where a task is suspended: before its start, or at one of its reads. The last two are those of
`identity_health_info`. -/
inductive Phase (R : Type) where
  | called
  | oldest
  | transport (draft : Draft R)
  | identity (draft : Draft R) (transportConfigured : Bool)
  | counts (draft : Draft R) (transportConfigured : Bool)

def Phase.isCalled : Phase R → Bool
  | .called => true
  | _ => false

/-- The stored transport, as far as `build_health_data` reads it. -/
structure TransportRow where
  configured : Bool
  identityState : Option String
  deriving DecidableEq

/-- What waits for the lock of the database; the first one has it. -/
inductive Job where
  | read (call : Nat)
  | write (row : TransportRow)
  deriving DecidableEq

structure Task (R : Type) where
  call : Nat
  radioConnected : Bool
  connectionInfo : Option String
  phase : Phase R

/-- The end of `build_health_data`; `rest` is what it reads there and passes on. -/
def Task.data (task : Task R) (draft : Draft R) (transportConfigured : Bool) (identity : Option R)
    (rest : List R) : HealthData R where
  status := if task.radioConnected && !draft.radioInitializing then "ok" else "degraded"
  radioConnected := task.radioConnected
  radioInitializing := draft.radioInitializing
  radioState := draft.radioState
  rebootReason := draft.rebootReason
  connectionInfo := task.connectionInfo
  oldestUndecryptedTimestamp := draft.oldestTs
  transportConfigured
  identity
  rest := draft.rest ++ rest

inductive Message (T R : Type) where
  | health (call : Nat) (data : HealthData R)
  | other (message : T)
  deriving DecidableEq

/-- The frame of a call. -/
structure Frame (R : Type) where
  call : Nat
  data : HealthData R
  deriving DecidableEq

def Message.frame? : Message T R → Option (Frame R)
  | .health call data => some ⟨call, data⟩
  | .other _ => none

/-- The health frames among some messages. -/
def frames (messages : List (Message T R)) : List (Frame R) := messages.filterMap Message.frame?

/-- The sockets, the tasks that run and the database with its stored transport. Nothing reads the
last three fields: what the calls were made with, the calls whose tasks came to
`ws_manager.broadcast`, the latest first, and each of them with the clients connected by then. -/
structure State (W T R : Type) where
  sockets : WebSocketManager W (Message T R)
  tasks : List (Task R)
  database : List Job
  row : TransportRow
  calls : List Bool
  queued : List Nat
  addressed : List (Nat × Nat)

def start (row : TransportRow) : State W T R := ⟨.empty, [], [], row, [], [], []⟩

inductive Event (W T R : Type) where
  | call (radioConnected : Bool) (connectionInfo : Option String)
  /-- The first task that was spawned starts. -/
  | begin_
  /-- The first read ends; `none` stands for the `RuntimeError` of a closed database. -/
  | oldest (oldestTs : Option Int) (runtime : Runtime R)
  /-- The transport is read, or its read raises. -/
  | transport (raises : Bool) (rest : List R) (now : Nat → ℚ)
  /-- It is read again. -/
  | identity (raises : Bool) (rest : List R) (now : Nat → ℚ)
  /-- The mesh history is counted; `none` when that raises. -/
  | counts (identity : Option R) (rest : List R) (now : Nat → ℚ)
  /-- The task ends without a frame: another error of the first read, or a cancellation. -/
  | raised (call : Nat)
  /-- Another task asks for a write of the stored transport. -/
  | write (row : TransportRow)
  /-- The write is made, or fails. -/
  | written (succeeds : Bool)
  /-- Anything else that happens to the sockets. -/
  | socket (e : WebSocketManager.Event W T T)

/-- What other code hands to the sockets is no health frame of a call. -/
def lift : WebSocketManager.Event W T T → WebSocketManager.Event W (Message T R) (Message T R)
  | .connect websocket => .connect websocket
  | .disconnect websocket now => .disconnect websocket now
  | .broadcastNowait eventType data now => .broadcastNowait eventType (.other data) now
  | .sendRaw websocket message now => .sendRaw websocket (.other message) now
  | .writer client step => .writer client step

/-- Messages stand for their serialised texts. -/
def dump (_ : String) (message : Message T R) : Option (Message T R) := some message

namespace State

def task? (s : State W T R) (call : Nat) : Option (Task R) := s.tasks.find? (·.call = call)

/-- The task whose read the database serves. -/
def reader (s : State W T R) : Option (Task R) :=
  match s.database with
  | .read call :: _ => s.task? call
  | _ => none

/-- The task is gone, and what it waits for. -/
def without (s : State W T R) (call : Nat) : State W T R :=
  { s with
    tasks := s.tasks.filter (·.call ≠ call)
    database := s.database.filter (· ≠ .read call) }

/-- The task moves on to its next read. -/
def ask (s : State W T R) (task : Task R) (phase : Phase R) : State W T R :=
  { s with
    tasks := s.tasks.map fun other => if other.call = task.call then { other with phase } else other
    database := s.database.filter (· ≠ .read task.call) ++ [.read task.call] }

/-- The task has its data and queues the frame. -/
def finish (s : State W T R) (task : Task R) (data : HealthData R) (now : Nat → ℚ) : State W T R :=
  { s.without task.call with
    sockets := s.sockets.broadcastNowait dump "health" (.health task.call data) now
    queued := task.call :: s.queued
    addressed := s.sockets.activeConnections.entries.map (fun entry => (task.call, entry.2)) ++
      s.addressed }

/-- The stored identity state, if it is one that the frame shows. -/
def shown (s : State W T R) : Option String :=
  s.row.identityState.filter fun state => decide (state ∈ shownIdentityStates)

/-- Behind the read of the transport. -/
def transportRead (s : State W T R) (task : Task R) (draft : Draft R) (raises : Bool)
    (rest : List R) (now : Nat → ℚ) : State W T R :=
  if raises then s.finish task (task.data draft false none rest) now
  else
    match s.shown with
    | none => s.finish task (task.data draft s.row.configured none rest) now
    | some radioState =>
      s.ask task (.identity { draft with
        radioState
        rebootReason := none } s.row.configured)

/-- Behind the second read of the transport. -/
def identityRead (s : State W T R) (task : Task R) (draft : Draft R) (configured raises : Bool)
    (rest : List R) (now : Nat → ℚ) : State W T R :=
  if raises || s.shown.isNone then s.finish task (task.data draft configured none rest) now
  else s.ask task (.counts draft configured)

end State

def step (s : State W T R) : Event W T R → Option (State W T R)
  | .call radioConnected connectionInfo =>
    some { s with
      tasks := s.tasks ++ [⟨s.calls.length, radioConnected, connectionInfo, .called⟩]
      calls := s.calls ++ [radioConnected] }
  | .begin_ => (s.tasks.find? (·.phase.isCalled)).map fun task => s.ask task .oldest
  | .oldest oldestTs runtime =>
    s.reader.bind fun task =>
      match task.phase with
      | .oldest => some (s.ask task (.transport (draft task.radioConnected oldestTs runtime)))
      | _ => none
  | .transport raises rest now =>
    s.reader.bind fun task =>
      match task.phase with
      | .transport draft => some (s.transportRead task draft raises rest now)
      | _ => none
  | .identity raises rest now =>
    s.reader.bind fun task =>
      match task.phase with
      | .identity draft configured => some (s.identityRead task draft configured raises rest now)
      | _ => none
  | .counts identity rest now =>
    s.reader.bind fun task =>
      match task.phase with
      | .counts draft configured => some (s.finish task (task.data draft configured identity rest) now)
      | _ => none
  | .raised call => (s.task? call).map fun task => s.without task.call
  | .write row => some { s with database := s.database ++ [.write row] }
  | .written succeeds =>
    match s.database with
    | .write row :: rest =>
      some { s with
        row := if succeeds then row else s.row
        database := rest }
    | _ => none
  | .socket e => (WebSocketManager.step dump s.sockets (lift e)).map fun sockets => { s with sockets }

/-- An event makes the task whose read ends queue its frame. -/
def queues (s : State W T R) : Event W T R → Bool
  | .transport raises _ _ | .identity raises _ _ => raises || s.shown.isNone
  | .counts _ _ _ => true
  | .call _ _ | .begin_ | .oldest _ _ | .raised _ | .write _ | .written _ | .socket _ => false

/-- No task queues its frame while the task of an earlier call runs. -/
def Orderly (s : State W T R) (e : Event W T R) : Prop :=
  queues s e = true → ∀ task ∈ s.reader, ∀ other ∈ s.tasks, task.call ≤ other.call

end Health
end Meshloom.WebSocket
