import Mathlib
import Meshloom.Dict
import Meshloom.Transition

/-! Acknowledgements of one outgoing direct message: the tracker of pending and
buffered ACK codes, `apply_dm_ack_code`, and the send with its retry task. The
tracker changes synchronously, while reading and incrementing the stored count
are awaits of their own. -/
namespace Meshloom.DmAck

/-- The message, the time of registration and the timeout, in milliseconds. -/
structure PendingAck where
  messageId : Nat
  createdAt : Int
  timeoutMs : Nat
  deriving DecidableEq, Repr

def bufferedAckTtlMs : Int := 30000

structure Tracker where
  pending : Dict String PendingAck
  buffered : Dict String Int

namespace Tracker

/-- `track_pending_ack`; the flag tells that the ACK was buffered already. -/
def trackPendingAck (t : Tracker) (expectedAck : String) (messageId timeoutMs : Nat) (now : Int) :
    Tracker × Bool :=
  match t.buffered.get? expectedAck with
  | some _ => ({ t with buffered := t.buffered.pop expectedAck }, true)
  | none => ({ t with pending := t.pending.set expectedAck ⟨messageId, now, timeoutMs⟩ }, false)

def bufferUnmatchedAck (t : Tracker) (ackCode : String) (now : Int) : Tracker :=
  { t with buffered := t.buffered.set ackCode now }

def cleanupExpiredAcks (t : Tracker) (now : Int) : Tracker where
  pending := t.pending.filter fun _ ack => !decide (now - ack.createdAt > ack.timeoutMs * 2)
  buffered := t.buffered.filter fun _ bufferedAt => !decide (now - bufferedAt > bufferedAckTtlMs)

def popPendingAck (t : Tracker) (ackCode : String) : Tracker × Option Nat :=
  match t.pending.get? ackCode with
  | none => (t, none)
  | some ack => ({ t with pending := t.pending.pop ackCode }, some ack.messageId)

def clearPendingAcksForMessage (t : Tracker) (messageId : Nat) : Tracker :=
  { t with pending := t.pending.filter fun _ ack => !decide (ack.messageId = messageId) }

/-- The synchronous part of `apply_dm_ack_code`, with the message whose count is
to be incremented. -/
def applyDmAckCode (t : Tracker) (ackCode : String) (now : Int) : Tracker × Option Nat :=
  match (t.cleanupExpiredAcks now).popPendingAck ackCode with
  | (t, none) => (t.bufferUnmatchedAck ackCode now, none)
  | (t, some messageId) => (t.clearPendingAcksForMessage messageId, some messageId)

end Tracker

def dmSendMaxAttempts : Nat := 3

/-- Where the send and its retry task stand. -/
inductive Phase where
  /-- The radio took the message; its code, if it gave one, is not tracked yet. -/
  | sent (expectedAck : Option String) (timeoutMs : Nat) (armRetries : Bool)
  | sleeping (attempt : Nat)
  /-- `_is_message_acked` before an attempt. -/
  | reading (attempt : Nat)
  | sending (attempt : Nat)
  /-- `_is_message_acked` after an attempt that the radio took, and its answer. -/
  | rereading (attempt : Nat) (expectedAck : Option String) (timeoutMs : Nat)
  | reread (attempt : Nat) (expectedAck : Option String) (timeoutMs : Nat) (acked : Bool)
  /-- The code was buffered; the increment is under way. -/
  | incrementing
  | done
  deriving DecidableEq, Repr

/-- The stored count of the message, with the increments that `apply_dm_ack_code`
calls have under way for it. -/
structure State where
  messageId : Nat
  tracker : Tracker
  acked : Nat
  underWay : Nat
  phase : Phase

/-- The head of the retry loop. -/
def nextAttempt (attempt : Nat) : Phase :=
  if attempt < dmSendMaxAttempts then .sleeping attempt else .done

/-- The outcome of the radio operation of a retry. -/
inductive SendOutcome where
  | busy
  | failed
  | accepted (expectedAck : Option String) (timeoutMs : Nat)
  deriving DecidableEq, Repr

/-- `_apply_direct_message_ack_tracking` up to its await. -/
def register (s : State) (expectedAck : String) (timeoutMs : Nat) (now : Int) (unmatched : Phase) : State :=
  match s.tracker.trackPendingAck expectedAck s.messageId timeoutMs now with
  | (tracker, true) =>
    { s with
      tracker := tracker.clearPendingAcksForMessage s.messageId
      phase := .incrementing }
  | (tracker, false) => { s with tracker, phase := unmatched }

inductive Event where
  /-- `apply_dm_ack_code`, from whichever source. -/
  | ack (code : String) (now : Int)
  /-- An increment of an `apply_dm_ack_code` call is committed, or fails. -/
  | commit
  | lose
  /-- The send, and later its retry task, goes on from the await where it stands. -/
  | track (now : Int)
  | wake
  | read
  | radio (outcome : SendOutcome)
  | reread
  | retrack (now : Int)
  | incremented
  /-- The task ends with an exception. -/
  | abort
  /-- Another message registers a code of its own. -/
  | other (code : String) (messageId timeoutMs : Nat) (now : Int)

def step (s : State) : Event → Option State
  | .ack code now =>
    match s.tracker.applyDmAckCode code now with
    | (tracker, some messageId) =>
      if messageId = s.messageId then some { s with tracker, underWay := s.underWay + 1 }
      else some { s with tracker }
    | (tracker, none) => some { s with tracker }
  | .commit =>
    if s.underWay = 0 then none
    else some { s with underWay := s.underWay - 1, acked := s.acked + 1 }
  | .lose => if s.underWay = 0 then none else some { s with underWay := s.underWay - 1 }
  | .track now =>
    match s.phase with
    | .sent none _ _ => some { s with phase := .done }
    | .sent (some code) timeoutMs armRetries =>
      some (register s code timeoutMs now (if armRetries then nextAttempt 1 else .done))
    | _ => none
  | .wake =>
    match s.phase with
    | .sleeping attempt => some { s with phase := .reading attempt }
    | _ => none
  | .read =>
    match s.phase with
    | .reading attempt => some { s with phase := if s.acked > 0 then .done else .sending attempt }
    | _ => none
  | .radio outcome =>
    match s.phase, outcome with
    | .sending attempt, .busy => some { s with phase := .sleeping attempt }
    | .sending attempt, .failed => some { s with phase := nextAttempt (attempt + 1) }
    | .sending attempt, .accepted code timeoutMs =>
      some { s with phase := .rereading attempt code timeoutMs }
    | _, _ => none
  | .reread =>
    match s.phase with
    | .rereading attempt code timeoutMs =>
      some { s with phase := .reread attempt code timeoutMs (s.acked > 0) }
    | _ => none
  | .retrack now =>
    match s.phase with
    | .reread _ _ _ true => some { s with phase := .done }
    | .reread attempt none _ false => some { s with phase := nextAttempt (attempt + 1) }
    | .reread attempt (some code) timeoutMs false =>
      some (register s code timeoutMs now (nextAttempt (attempt + 1)))
    | _ => none
  | .incremented =>
    match s.phase with
    | .incrementing => some { s with acked := s.acked + 1, phase := .done }
    | _ => none
  | .abort =>
    match s.phase with
    | .done => none
    | _ => some { s with phase := .done }
  | .other code messageId timeoutMs now =>
    if messageId = s.messageId then none
    else some { s with tracker := (s.tracker.trackPendingAck code messageId timeoutMs now).1 }

/-- The row is new: no count, and no code registered for it. -/
structure Initial (s : State) : Prop where
  acked : s.acked = 0
  underWay : s.underWay = 0
  fresh : ∀ code ack, s.tracker.pending.get? code = some ack → ack.messageId ≠ s.messageId
  sent : ∃ expectedAck timeoutMs armRetries, s.phase = .sent expectedAck timeoutMs armRetries

end Meshloom.DmAck
