import Meshloom.Bytes
import Meshloom.Send.DmAck
import Meshloom.Text

/-! Direct messages that proxy clients send, and the ACK frames they get back: the host's
tracker of expected ACKs, and beside it the proxy's own map from a code to the session that
sent the message (`app/radio_proxy/manager.py`).

A step runs from one await to the next. Registering a code with the tracker and with the
proxy is one step when the ACK was not there yet; otherwise the increment of the stored
count lies in between. The tracker reads the wall clock, the proxy the monotonic one. -/
namespace Meshloom.DirectSend
open Bytes DmAck Text

/-- `ACK_TTL_SECONDS`, in milliseconds. -/
def ackTtlMs : Int := 300000

/-- `expected_ack.hex()`. -/
def ackCode (expectedAck : List UInt8) : String := String.ofList (toHex expectedAck)

/-- `_extract_expected_ack_code`: an empty code counts as none. -/
def extractExpectedAck (expectedAck : Option (List UInt8)) : Option (List UInt8) :=
  expectedAck.filter fun bytes => !bytes.isEmpty

/-- Where `_send_direct` stands. -/
inductive Phase where
  /-- The message is stored and its code is not tracked yet. -/
  | sent
  /-- The ACK was buffered; the increment is under way. -/
  | incrementing
  | returned
  deriving DecidableEq, Repr

/-- A message sent by `_send_direct`, with its stored count. -/
structure Dm where
  session : Nat
  expectedAck : Option (List UInt8)
  timeoutMs : Nat
  sentAt : Int
  phase : Phase
  acked : Nat
  deriving DecidableEq, Repr

/-- An entry of the proxy's `_pending_acks`. -/
structure ProxyAck where
  session : Nat
  expires : Int
  deriving DecidableEq, Repr

structure State where
  tracker : Tracker
  pendingAcks : Dict String ProxyAck
  /-- The messages by their row ids. -/
  dms : Dict Nat Dm
  /-- The increments that `apply_dm_ack_code` calls have under way. -/
  underWay : List (Nat × String)
  closed : Finset Nat
  /-- The monotonic clock. -/
  clock : Int
  /-- The ACK frames that were pushed: the session and the code in the frame. -/
  pushed : List (Nat × List UInt8)

def expireAcks (pendingAcks : Dict String ProxyAck) (now : Int) : Dict String ProxyAck :=
  pendingAcks.filter fun _ item => !decide (item.expires ≤ now)

def notifyAck (s : State) (code : String) (now : Int) : State :=
  let live := expireAcks s.pendingAcks now
  match live.get? (lower code) with
  | none => { s with pendingAcks := live }
  | some item =>
    let s := { s with pendingAcks := live.pop (lower code) }
    if item.session ∈ s.closed then s
    else
      match fromHex code.toList with
      | none => s
      | some bytes => { s with pushed := s.pushed ++ [(item.session, bytes)] }

/-- The entry that `_send_direct` makes once the send has returned. -/
def registerAck (s : State) (session : Nat) (code : String) (now : Int) : State :=
  { s with pendingAcks := s.pendingAcks.set (lower code) ⟨session, now + ackTtlMs⟩ }

def setDm (s : State) (messageId : Nat) (dm : Dm) : State := { s with dms := s.dms.set messageId dm }

inductive Event where
  /-- The radio takes a message of a session, and its row is stored. -/
  | send (messageId session : Nat) (expectedAck : Option (List UInt8)) (timeoutMs : Nat)
  /-- `_apply_direct_message_ack_tracking` up to its await, and the rest of `_send_direct` when
  there is none. -/
  | track (messageId : Nat) (wall : Int)
  /-- The count of a message whose ACK was buffered is incremented, and `_send_direct` goes on. -/
  | incremented (messageId : Nat)
  /-- `apply_dm_ack_code` up to its await. -/
  | ack (code : String) (wall : Int)
  /-- An increment of an `apply_dm_ack_code` call is committed, and the call goes on. -/
  | commit (messageId : Nat) (code : String)
  | close (session : Nat)
  /-- Time passes. -/
  | tick (now : Int)
  deriving DecidableEq, Repr

def step (s : State) : Event → Option State
  | .send messageId session expectedAck timeoutMs =>
    match s.dms.get? messageId with
    | some _ => none
    | none =>
      some (setDm s messageId
        ⟨session, extractExpectedAck expectedAck, timeoutMs, s.clock, .sent, 0⟩)
  | .track messageId wall =>
    match s.dms.get? messageId with
    | some dm =>
      match dm.phase, dm.expectedAck with
      | .sent, none => some (setDm s messageId { dm with phase := .returned })
      | .sent, some expectedAck =>
        match s.tracker.trackPendingAck (ackCode expectedAck) messageId dm.timeoutMs wall with
        | (tracker, true) =>
          some (setDm { s with tracker := tracker.clearPendingAcksForMessage messageId } messageId
            { dm with phase := .incrementing })
        | (tracker, false) =>
          some (registerAck (setDm { s with tracker } messageId { dm with phase := .returned })
            dm.session (ackCode expectedAck) s.clock)
      | _, _ => none
    | none => none
  | .incremented messageId =>
    match s.dms.get? messageId with
    | some dm =>
      match dm.phase, dm.expectedAck with
      | .incrementing, some expectedAck =>
        let s := setDm s messageId { dm with phase := .returned, acked := dm.acked + 1 }
        some (notifyAck (registerAck s dm.session (ackCode expectedAck) s.clock)
          (ackCode expectedAck) s.clock)
      | _, _ => none
    | none => none
  | .ack code wall =>
    match s.tracker.applyDmAckCode code wall with
    | (tracker, none) => some { s with tracker }
    | (tracker, some messageId) =>
      some { s with tracker, underWay := s.underWay ++ [(messageId, code)] }
  | .commit messageId code =>
    if (messageId, code) ∈ s.underWay then
      let s := { s with underWay := s.underWay.erase (messageId, code) }
      match s.dms.get? messageId with
      | none => some (notifyAck s code s.clock)
      | some dm => some (notifyAck (setDm s messageId { dm with acked := dm.acked + 1 }) code s.clock)
    else none
  | .close session => some { s with closed := insert session s.closed }
  | .tick now => if s.clock ≤ now then some { s with clock := now } else none

/-- No message was sent; codes may be buffered. -/
structure Initial (s : State) : Prop where
  pending : s.tracker.pending = .empty
  pendingAcks : s.pendingAcks = .empty
  dms : s.dms = .empty
  underWay : s.underWay = []
  pushed : s.pushed = []

/-- The radio gives every message a code of its own. -/
def Distinct (s : State) : Event → Prop
  | .send _ _ expectedAck _ => ∀ bytes, extractExpectedAck expectedAck = some bytes →
    ∀ messageId dm, s.dms.get? messageId = some dm → dm.expectedAck ≠ some bytes
  | _ => True

end Meshloom.DirectSend
