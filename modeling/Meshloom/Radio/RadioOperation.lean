import Mathlib.Logic.Function.Basic
import Meshloom.AsyncLock
import Meshloom.Transition

/-! The lock of the radio's operations (`app/radio.py`). A task runs from one await to the next;
each await inside may raise or be cancelled. Rebinding the lock to another event loop, the pause of
the polling, and what `disconnect` does to anything but the lock and the connection are left out. -/
namespace Meshloom.RadioOperation

inductive Call where
  | radioOperation (suspendAutoFetch blocking : Bool)
  | disconnect
  deriving DecidableEq, Repr

def Call.blocking : Call → Bool
  | .radioOperation _ blocking => blocking
  | .disconnect => true

inductive Outcome where
  /-- `RadioOperationBusyError` -/
  | busy
  /-- `RadioDisconnectedError`; `disconnect` only returns. -/
  | disconnected
  /-- Cancelled before it had the lock. -/
  | cancelled
  /-- Returned or raised, after it had the lock. -/
  | left
  deriving DecidableEq, Repr

/-- The await at which a task stands. -/
inductive Phase where
  | idle
  /-- `stop_background_contact_reconciliation` in `disconnect` -/
  | preparing
  /-- In the lock's queue; the task may have been cancelled since it was woken. -/
  | waiting (call : Call) (mustCancel : Bool)
  /-- `mc.stop_auto_message_fetching` -/
  | stoppingFetch
  | body (autoFetchPaused : Bool)
  /-- `mc.start_auto_message_fetching` -/
  | startingFetch
  /-- `mc.disconnect` and what is around it. -/
  | disconnecting (mc : Nat)
  | ended (outcome : Outcome)
  deriving DecidableEq, Repr

inductive Entry where
  | acquired (task : Nat)
  | released (task : Nat)
  /-- "Attempted to release unlocked radio operation lock" -/
  | notLocked (task : Nat)
  deriving DecidableEq, Repr

structure State where
  lock : AsyncLock Nat
  meshcore : Option Nat
  phases : Nat → Phase
  /-- The latest first. -/
  log : List Entry

inductive Event where
  | call (task : Nat) (call : Call)
  /-- The task goes on after an await, which may have raised. -/
  | goOn (task : Nat) (raised : Bool)
  /-- A waiter is scheduled. -/
  | resume (task : Nat)
  /-- A waiter is cancelled. -/
  | cancel (task : Nat)
  /-- The connection is made, lost or replaced. -/
  | transport (meshcore : Option Nat)
  deriving DecidableEq, Repr

def start (meshcore : Option Nat) : State := ⟨.free, meshcore, fun _ => .idle, []⟩

namespace State
variable (s : State)

def move (t : Nat) (phase : Phase) : State := { s with phases := Function.update s.phases t phase }

/-- `_release_operation_lock` -/
def releaseOperationLock (t : Nat) : State :=
  match s.lock.release with
  | some lock => { s with lock, log := .released t :: s.log }
  | none => { s with log := .notLocked t :: s.log }

/-- The end of a task that had the lock. -/
def exit (t : Nat) (outcome : Outcome) : State := (s.releaseOperationLock t).move t (.ended outcome)

/-- What a task does once it has the lock. -/
def held (t : Nat) (call : Call) : State :=
  let s := { s with log := .acquired t :: s.log }
  match s.meshcore, call with
  | none, _ => s.exit t .disconnected
  | some _, .radioOperation suspendAutoFetch _ =>
      s.move t (if suspendAutoFetch then .stoppingFetch else .body false)
  | some mc, .disconnect => s.move t (.disconnecting mc)

/-- `_acquire_operation_lock`, up to the await if the lock is not had at once. -/
def acquireOperationLock (t : Nat) (call : Call) : State :=
  if call.blocking = false ∧ s.lock.locked = true then s.move t (.ended .busy)
  else if s.lock.Open then { s with lock := s.lock.acquire t }.held t call
  else { s with lock := s.lock.acquire t }.move t (.waiting call false)

/-- The part of a call up to its first await. -/
def begin_ (t : Nat) : Call → State
  | .radioOperation suspendAutoFetch blocking =>
      s.acquireOperationLock t (.radioOperation suspendAutoFetch blocking)
  | .disconnect =>
      match s.meshcore with
      | none => s.move t (.ended .disconnected)
      | some _ => s.move t .preparing

def resume (t : Nat) (call : Call) (mustCancel : Bool) : Future → Option State
  | .pending => none
  | .cancelled => some ({ s with lock := s.lock.giveUp t }.move t (.ended .cancelled))
  | .done =>
      if mustCancel then some ({ s with lock := s.lock.giveUp t }.move t (.ended .cancelled))
      else some ({ s with lock := s.lock.take t }.held t call)

def goOn (t : Nat) (raised : Bool) : Phase → Option State
  | .preparing =>
      if raised then some (s.move t (.ended .cancelled))
      else some (s.acquireOperationLock t .disconnect)
  | .stoppingFetch => if raised then some (s.exit t .left) else some (s.move t (.body true))
  | .body true => some (s.move t .startingFetch)
  | .body false => some (s.exit t .left)
  | .startingFetch => some (s.exit t .left)
  | .disconnecting mc =>
      if raised = false ∧ s.meshcore = some mc then some ({ s with meshcore := none }.exit t .left)
      else some (s.exit t .left)
  | _ => none

end State

def step (s : State) : Event → Option State
  | .call t call =>
      match s.phases t with
      | .idle => some (s.begin_ t call)
      | _ => none
  | .goOn t raised => s.goOn t raised (s.phases t)
  | .resume t =>
      match s.phases t with
      | .waiting call mustCancel => (s.lock.waiters.lookup t).bind (s.resume t call mustCancel)
      | _ => none
  | .cancel t =>
      match s.phases t with
      | .waiting call _ =>
          match s.lock.waiters.lookup t with
          | some .done => some (s.move t (.waiting call true))
          | _ => some { s with lock := s.lock.cancel t }
      | _ => none
  | .transport meshcore => some { s with meshcore }

end Meshloom.RadioOperation
