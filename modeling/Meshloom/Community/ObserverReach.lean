import Mathlib.Logic.Function.Basic
import Meshloom.Dict
import Meshloom.Transition

/-! Requests for the observers of packets (`app/services/observer_reach.py`): one fetch a hash,
which overlapping calls share through a future. The lock of the map is never held across an await,
so that a task that acquires it goes on at once; a call suspends at its fetch and at each future it
waits for. What a cached entry is, and for how long, is left open. -/
namespace Meshloom.ObserverReach

abbrev Hash := String

section Types
variable (R E : Type)

/-- How a call or a fetch ends, or what is set on a future. -/
inductive Outcome (α : Type) where
  | returned (value : α)
  | raised (error : E)
  /-- `asyncio.CancelledError` -/
  | cancelled

structure Future where
  hash : Hash
  /-- The call that created it. -/
  owner : Nat
  /-- Its result or exception once it is done. -/
  state : Option (Outcome E R)
  /-- What the fetch came to for the hash, once it is over. -/
  answer : Option (Outcome E R)

inductive Phase where
  | idle
  /-- `_load_uncached_community_reaches` -/
  | fetching (toFetch : List Hash) (waiting : List (Hash × Nat)) (result : Dict Hash R)
  | awaiting (first : Hash × Nat) (rest : List (Hash × Nat)) (result : Dict Hash R)
  | ended (outcome : Outcome E (Dict Hash R))

structure State where
  inflight : Hash → Option Nat
  futures : Nat → Future R E
  nextFuture : Nat
  phases : Nat → Phase R E
  nextCall : Nat
  /-- The calls that were cancelled. -/
  cancelled : Nat → Bool

inductive Event where
  | call (hashes : List Hash) (cached : Hash → Option R)
  | fetched (call : Nat) (answers : Hash → Option R)
  | fetchRaised (call : Nat) (error : E)
  /-- A call is cancelled while it fetches. -/
  | fetchCancelled (call : Nat)
  /-- A future that a call waits for is done. -/
  | resume (call : Nat)
  /-- A call is cancelled while it waits: so is the future. -/
  | waitCancelled (call : Nat)

end Types

section Machine
variable {R E : Type}

def start : State R E :=
  ⟨fun _ => none, fun _ => ⟨"", 0, none, none⟩, 0, fun _ => .idle, 0, fun _ => false⟩

def Phase.waiting : Phase R E → List (Hash × Nat)
  | .fetching _ waiting _ => waiting
  | .awaiting first rest _ => first :: rest
  | _ => []

def Phase.Running : Phase R E → Prop
  | .fetching _ _ _ => True
  | .awaiting _ _ _ => True
  | _ => False

def State.move (s : State R E) (i : Nat) (phase : Phase R E) : State R E :=
  { s with phases := Function.update s.phases i phase }

/-- A call is cancelled. -/
def State.cancel (s : State R E) (i : Nat) : State R E :=
  { s with cancelled := Function.update s.cancelled i true }

def State.create (s : State R E) (i : Nat) (hash : Hash) : State R E :=
  { s with
    inflight := Function.update s.inflight hash (some s.nextFuture)
    futures := Function.update s.futures s.nextFuture ⟨hash, i, none, none⟩
    nextFuture := s.nextFuture + 1 }

/-- Cancels a future unless it is done. -/
def State.cancelFuture (s : State R E) (f : Nat) : State R E :=
  { s with
    futures := Function.update s.futures f
      { s.futures f with state := (s.futures f).state.or (some .cancelled) } }

/-- Goes on with the next of the futures that a call waits for. -/
def awaitNext (s : State R E) (i : Nat) (result : Dict Hash R) : List (Hash × Nat) → State R E
  | [] => s.move i (.ended (.returned result))
  | first :: rest => s.move i (.awaiting first rest result)

/-- `_claim_reach_inflight`, and the first await that follows it. -/
def claimReachInflight (i : Nat) (result : Dict Hash R) :
    State R E → List Hash → List (Hash × Nat) → List Hash → State R E
  | s, toFetch, waiting, [] =>
      if toFetch ≠ [] then s.move i (.fetching toFetch waiting result)
      else awaitNext s i result waiting
  | s, toFetch, waiting, hash :: rest =>
      match s.inflight hash with
      | some existing =>
          claimReachInflight i result s toFetch (waiting ++ [(hash, existing)]) rest
      | none =>
          claimReachInflight i result (s.create i hash) (toFetch ++ [hash]) waiting rest

/-- The result or the error is set unless the future is done. -/
def Future.finish (future : Future R E) (outcome : Outcome E R) : Future R E :=
  { future with state := future.state.or (some outcome), answer := some outcome }

/-- `_finish_reach_inflight` -/
def finishReachInflight (s : State R E) (hash : Hash) (outcome : Outcome E R) : State R E :=
  match s.inflight hash with
  | none => s
  | some f =>
      { s with
        inflight := Function.update s.inflight hash none
        futures := Function.update s.futures f ((s.futures f).finish outcome) }

/-- The loop over what was fetched, and the first await that follows it. -/
def finishFetched (empty : R) (i : Nat) (answers : Hash → Option R) (waiting : List (Hash × Nat)) :
    State R E → Dict Hash R → List Hash → State R E
  | s, result, [] => awaitNext s i result waiting
  | s, result, hash :: rest =>
      let reach := (answers hash).getD empty
      finishFetched empty i answers waiting (finishReachInflight s hash (.returned reach))
        (result.set hash reach) rest

/-- The `except` of the fetch. -/
def finishFailed (outcome : Outcome E R) (s : State R E) (toFetch : List Hash) : State R E :=
  toFetch.foldl (fun s hash => finishReachInflight s hash outcome) s

/-- The hashes without a cached entry. -/
def missing (cached : Hash → Option R) (hashes : List Hash) : List Hash :=
  hashes.filter fun hash => (cached hash).isNone

def fromCache (cached : Hash → Option R) (hashes : List Hash) : Dict Hash R :=
  hashes.foldl (fun result hash =>
    match cached hash with
    | some reach => result.set hash reach
    | none => result) Dict.empty

section Step
-- `ParsedReach(observations=[])`
variable (empty : R)

/-- `_community_batch_or_fallback` and its caller's cancellation. -/
def step (s : State R E) : Event R E → Option (State R E)
  | .call hashes cached =>
      some (claimReachInflight s.nextCall (fromCache cached hashes)
        { s with nextCall := s.nextCall + 1 } [] [] (missing cached hashes))
  | .fetched i answers =>
      match s.phases i with
      | .fetching toFetch waiting result =>
          some (finishFetched empty i answers waiting s result toFetch)
      | _ => none
  | .fetchRaised i error =>
      match s.phases i with
      | .fetching toFetch _ _ =>
          some ((finishFailed (.raised error) s toFetch).move i (.ended (.raised error)))
      | _ => none
  | .fetchCancelled i =>
      match s.phases i with
      | .fetching toFetch _ _ =>
          some (((finishFailed .cancelled s toFetch).cancel i).move i (.ended .cancelled))
      | _ => none
  | .resume i =>
      match s.phases i with
      | .awaiting (hash, f) rest result =>
          match (s.futures f).state with
          | some (.returned reach) => some (awaitNext s i (result.set hash reach) rest)
          | some (.raised error) => some (s.move i (.ended (.raised error)))
          | some .cancelled => some (s.move i (.ended .cancelled))
          | none => none
      | _ => none
  | .waitCancelled i =>
      match s.phases i with
      | .awaiting (_, f) _ _ =>
          some (((s.cancelFuture f).cancel i).move i (.ended .cancelled))
      | _ => none

end Step

end Machine

end Meshloom.ObserverReach
