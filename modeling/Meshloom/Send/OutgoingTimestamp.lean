import Mathlib
import Meshloom.Dict
import Meshloom.Transition

/-! Sender timestamps of outgoing messages: the reservation table, the search of
`allocate_outgoing_sender_timestamp`, and the concurrent sends that use them. A
step of the machine is what one task does between two awaits. -/
namespace Meshloom.OutgoingTimestamp

inductive MsgType where
  | priv | chan
  deriving DecidableEq, Repr

/-- `OutgoingReservationKey`. -/
structure Key where
  msgType : MsgType
  conversationKey : String
  text : String
  deriving DecidableEq, Repr

abbrev Reservations := Dict Key (Finset Int)

namespace Reservations

def contains (r : Reservations) (key : Key) (timestamp : Int) : Bool :=
  timestamp ∈ (r.get? key).getD ∅

/-- `setdefault(reservation_key, set()).add(candidate)`. -/
def add (r : Reservations) (key : Key) (timestamp : Int) : Reservations :=
  r.set key (insert timestamp ((r.get? key).getD ∅))

/-- `release_outgoing_sender_timestamp`. -/
def release (r : Reservations) (key : Key) (senderTimestamp : Int) : Reservations :=
  match r.get? key with
  | none => r
  | some reserved =>
    if reserved = ∅ then r
    else if reserved.erase senderTimestamp = ∅ then r.pop key
    else r.set key (reserved.erase senderTimestamp)

end Reservations

/-- A stored message, as far as content lookups see it. -/
structure Row where
  id : Nat
  key : Key
  senderTimestamp : Option Int
  outgoing : Bool
  deriving DecidableEq, Repr

structure Store where
  rows : List Row
  nextId : Nat

namespace Store

/-- `get_by_content` of a timestamp, in either direction. -/
def getByContent (store : Store) (key : Key) (senderTimestamp : Int) : Option Row :=
  store.rows.find? fun row => row.key = key ∧ row.senderTimestamp = some senderTimestamp

/-- `get_by_content` with `outgoing=True`. -/
def getOutgoingByContent (store : Store) (key : Key) (senderTimestamp : Int) : Option Row :=
  store.rows.find? fun row =>
    row.key = key ∧ row.senderTimestamp = some senderTimestamp ∧ row.outgoing = true

/-- `INSERT OR IGNORE`: a channel row is ignored when its content is stored. -/
def create (store : Store) (key : Key) (senderTimestamp : Option Int) (outgoing : Bool) :
    Option (Nat × Store) :=
  if key.msgType = .chan ∧
      ∃ row ∈ store.rows, row.key = key ∧ row.senderTimestamp.getD 0 = senderTimestamp.getD 0 then
    none
  else
    some (store.nextId,
      ⟨store.rows ++ [⟨store.nextId, key, senderTimestamp, outgoing⟩], store.nextId + 1⟩)

def deleteById (store : Store) (id : Nat) : Store :=
  { store with rows := store.rows.filter (·.id ≠ id) }

end Store

/-- Where a send stands. The timestamp is reserved from `allocated` to
`releasing`; a row number says which row the send has stored. -/
inductive Phase where
  | idle
  | waiting
  | entered
  | checking (candidate : Int)
  | querying (candidate : Int)
  | answered (candidate : Int) (existing : Bool)
  | allocated (senderTimestamp : Int)
  | written (senderTimestamp : Int) (row : Nat)
  | unlocked (senderTimestamp : Int)
  | failing (senderTimestamp : Int) (row : Nat)
  | releasing (senderTimestamp : Int) (row : Option Nat)
  | finished (stored : Option (Int × Nat))
  deriving DecidableEq, Repr

/-- A send, with the content it will send and the clock reading it will find. -/
structure Send where
  key : Key
  requestedTimestamp : Int
  phase : Phase
  deriving DecidableEq, Repr

structure State where
  radioLock : Option Nat
  reservations : Reservations
  store : Store
  sends : Nat → Send

def State.move (s : State) (i : Nat) (phase : Phase) : State :=
  { s with sends := Function.update s.sends i { s.sends i with phase } }

def State.unlock (s : State) : State := { s with radioLock := none }

inductive Event where
  | begin (i : Nat)
  | acquire (i : Nat)
  | allocate (i : Nat)
  | check (i : Nat)
  | query (i : Nat)
  | reserve (i : Nat)
  | store (i : Nat)
  | sent (i : Nat) (accepted : Bool)
  | delete (i : Nat)
  | release (i : Nat)
  /-- An exception or a cancellation at the await where the send stands. -/
  | fail (i : Nat) (cancelled : Bool)
  /-- The same, after the row of an insertion under way was committed. -/
  | orphan (i : Nat)
  /-- Another part of the program stores a message. -/
  | receive (key : Key) (senderTimestamp : Option Int) (outgoing : Bool)

/-- The store of a send: a channel send stores under the radio lock and fails on
an ignored insertion, a direct send stores after the lock and takes over a row
that its own echo may have stored. -/
def storeStep (s : State) (i : Nat) : Option State :=
  let send := s.sends i
  match send.key.msgType, send.phase with
  | .chan, .allocated senderTimestamp =>
    match s.store.create send.key (some senderTimestamp) true with
    | some (id, store) => some ({ s with store }.move i (.written senderTimestamp id))
    | none => some (s.unlock.move i (.releasing senderTimestamp none))
  | .priv, .unlocked senderTimestamp =>
    match s.store.getOutgoingByContent send.key senderTimestamp with
    | some existing => some (s.move i (.releasing senderTimestamp (some existing.id)))
    | none =>
      match s.store.create send.key (some senderTimestamp) true with
      | some (id, store) => some ({ s with store }.move i (.releasing senderTimestamp (some id)))
      | none => some (s.move i (.releasing senderTimestamp none))
  | _, _ => none

/-- The radio's reply; leaving the `async with` block gives the lock back. -/
def sentStep (s : State) (i : Nat) (accepted : Bool) : Option State :=
  let send := s.sends i
  match send.key.msgType, send.phase with
  | .priv, .allocated senderTimestamp =>
    if accepted then some (s.unlock.move i (.unlocked senderTimestamp))
    else some (s.unlock.move i (.releasing senderTimestamp none))
  | .chan, .written senderTimestamp row =>
    if accepted then some (s.unlock.move i (.releasing senderTimestamp (some row)))
    else some (s.unlock.move i (.failing senderTimestamp row))
  | _, _ => none

def failStep (s : State) (i : Nat) (cancelled : Bool) : Option State :=
  match (s.sends i).phase with
  | .waiting => some (s.move i (.finished none))
  | .entered | .checking _ | .querying _ | .answered _ _ => some (s.unlock.move i (.finished none))
  | .allocated senderTimestamp => some (s.unlock.move i (.releasing senderTimestamp none))
  -- only an `Exception` deletes the row, a cancellation keeps it
  | .written senderTimestamp row =>
    if cancelled then some (s.unlock.move i (.releasing senderTimestamp (some row)))
    else some (s.unlock.move i (.failing senderTimestamp row))
  | .unlocked senderTimestamp => some (s.move i (.releasing senderTimestamp none))
  | .failing senderTimestamp row => some (s.move i (.releasing senderTimestamp (some row)))
  | .idle | .releasing _ _ | .finished _ => none

def orphanStep (s : State) (i : Nat) : Option State :=
  let send := s.sends i
  match send.key.msgType, send.phase with
  | .chan, .allocated senderTimestamp =>
    (s.store.create send.key (some senderTimestamp) true).map fun (id, store) =>
      { s with store }.unlock.move i (.releasing senderTimestamp (some id))
  | .priv, .unlocked senderTimestamp =>
    (s.store.create send.key (some senderTimestamp) true).map fun (id, store) =>
      { s with store }.move i (.releasing senderTimestamp (some id))
  | _, _ => none

def step (s : State) : Event → Option State
  | .begin i =>
    match (s.sends i).phase with
    | .idle => some (s.move i .waiting)
    | _ => none
  | .acquire i =>
    match (s.sends i).phase, s.radioLock with
    | .waiting, none => some ({ s with radioLock := some i }.move i .entered)
    | _, _ => none
  | .allocate i =>
    match (s.sends i).phase with
    | .entered => some (s.move i (.checking (s.sends i).requestedTimestamp))
    | _ => none
  | .check i =>
    match (s.sends i).phase with
    | .checking candidate =>
      if s.reservations.contains (s.sends i).key candidate then
        some (s.move i (.checking (candidate + 1)))
      else some (s.move i (.querying candidate))
    | _ => none
  | .query i =>
    match (s.sends i).phase with
    | .querying candidate =>
      some (s.move i (.answered candidate (s.store.getByContent (s.sends i).key candidate).isSome))
    | _ => none
  | .reserve i =>
    match (s.sends i).phase with
    | .answered candidate existing =>
      if existing || s.reservations.contains (s.sends i).key candidate then
        some (s.move i (.checking (candidate + 1)))
      else
        some ({ s with reservations := s.reservations.add (s.sends i).key candidate }.move i
          (.allocated candidate))
    | _ => none
  | .store i => storeStep s i
  | .sent i accepted => sentStep s i accepted
  | .delete i =>
    match (s.sends i).phase with
    | .failing senderTimestamp row =>
      some ({ s with store := s.store.deleteById row }.move i (.releasing senderTimestamp none))
    | _ => none
  | .release i =>
    match (s.sends i).phase with
    | .releasing senderTimestamp row =>
      some ({ s with reservations := s.reservations.release (s.sends i).key senderTimestamp }.move i
        (.finished (row.map (senderTimestamp, ·))))
    | _ => none
  | .fail i cancelled => failStep s i cancelled
  | .orphan i => orphanStep s i
  | .receive key senderTimestamp outgoing =>
    (s.store.create key senderTimestamp outgoing).map fun (_, store) => { s with store }

/-- No send under way, whatever is stored already. -/
structure Initial (s : State) : Prop where
  radioLock : s.radioLock = none
  reservations : s.reservations = .empty
  ids : ∀ row ∈ s.store.rows, row.id < s.store.nextId
  nodup : (s.store.rows.map (·.id)).Nodup
  sends : ∀ i, (s.sends i).phase = .idle

end Meshloom.OutgoingTimestamp
