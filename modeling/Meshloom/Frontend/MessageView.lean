import Meshloom.Dict
import Meshloom.Transition
import Meshloom.Frontend.Message

/-! The displayed messages of one conversation (`useConversationMessages` of the frontend)
and the acknowledgements that wait for their message. Acknowledgements, message events and
fetched pages arrive in any order; a page was read from the server before it arrives. -/
namespace Meshloom.Frontend.MessageView

def maxPendingAcks : Nat := 500

/-- `existing` when the update adds nothing to it, else what the two say together. -/
def mergePendingAck (existing : Option AckUpdate) (update : AckUpdate) : AckUpdate :=
  match existing with
  | none => update
  | some existing =>
    if update.ackCount > existing.ackCount then
      { ackCount := update.ackCount
        paths := update.paths.or existing.paths
        packetId := update.packetId.or existing.packetId
        packetHash := update.packetHash.or existing.packetHash
        observerReachEligible := update.observerReachEligible.or existing.observerReachEligible }
    else if update.ackCount < existing.ackCount then existing
    else
      let packetIdChanged := update.packetId ≠ none ∧ update.packetId ≠ existing.packetId
      match update.paths with
      | none =>
        if ¬ packetIdChanged ∧ update.packetHash = none ∧ update.observerReachEligible = none then
          existing
        else
          { existing with
            packetId := if packetIdChanged then update.packetId else existing.packetId
            packetHash := update.packetHash.or existing.packetHash
            observerReachEligible := update.observerReachEligible.or existing.observerReachEligible }
      | some paths =>
        -- `existing.paths?.length ?? -1`
        if existing.paths.all fun old => old.length ≤ paths.length then
          { ackCount := update.ackCount
            paths := some paths
            packetId := update.packetId
            packetHash := update.packetHash.or existing.packetHash
            observerReachEligible := update.observerReachEligible.or existing.observerReachEligible }
        else if ¬ packetIdChanged then existing
        else { existing with packetId := update.packetId }

abbrev Pending := Dict Int AckUpdate

def setPendingAck (pending : Pending) (messageId : Int) (update : AckUpdate) : Pending :=
  let merged := mergePendingAck (pending.get? messageId) update
  let pending := (pending.pop messageId).set messageId merged
  if pending.size > maxPendingAcks then
    match pending.first? with
    | some (oldestMessageId, _) => pending.pop oldestMessageId
    | none => pending
  else pending

/-- A message with what was buffered for it. -/
def withPending (msg : Message) (pending : AckUpdate) : Message :=
  { msg.patch pending with
    acked := max msg.acked pending.ackCount
    paths := pending.paths.or msg.paths }

def applyPendingAck (pending : Pending) (msg : Message) : Message × Pending :=
  match pending.get? msg.id with
  | none => (msg, pending)
  | some update => (withPending msg update, pending.pop msg.id)

/-- `data.map((msg) => applyPendingAck(msg))`. -/
def applyPendingAcks (pending : Pending) : List Message → List Message × Pending
  | [] => ([], pending)
  | msg :: rest =>
    let (msg, pending) := applyPendingAck pending msg
    let (rest, pending) := applyPendingAcks pending rest
    (msg :: rest, pending)

/-- A row that differs from the displayed one in what the reconciliation compares. -/
def rowChanged (current : List Message) (message : Message) : Bool :=
  -- the map by id keeps the last of several rows with one id
  match current.reverse.find? (·.id = message.id) with
  | none => true
  | some currentMessage =>
    currentMessage.acked ≠ message.acked || currentMessage.pathCount ≠ message.pathCount ||
      currentMessage.text ≠ message.text || currentMessage.packetId ≠ message.packetId

def reconcileConversationMessages (current fetched : List Message) : Option (List Message) :=
  if fetched.any (rowChanged current) then
    some (fetched ++ current.filter fun message => message.id ∉ fetched.map Message.id)
  else none

structure State where
  messages : List Message
  pending : Pending
  seenMessageContent : Finset String
  /-- Newer messages than the displayed ones are not loaded. -/
  hasNewerMessages : Bool
  /-- The acknowledgements received so far, by message. -/
  received : List (Int × Nat)

inductive Event where
  | ack (messageId : Int) (update : AckUpdate)
  /-- a message event of the displayed conversation -/
  | message (msg : Message)
  /-- a page, for `fetchLatestMessages` or else for `reconcileFromBackend` -/
  | fetched (latest : Bool) (data : List Message)

def contentKeysOf (messages : List Message) : Finset String :=
  (messages.map getMessageContentKey).toFinset

def updateMessageAck (s : State) (messageId : Int) (update : AckUpdate) : State :=
  if s.messages.any (·.id = messageId) then
    { s with
      pending := s.pending.pop messageId
      messages := acknowledgeFirst messageId update s.messages }
  else { s with pending := setPendingAck s.pending messageId update }

def appendActiveMessageIfNew (s : State) (msg : Message) : State :=
  let (msg, pending) := applyPendingAck s.pending msg
  let s := { s with pending }
  let contentKey := getMessageContentKey msg
  if contentKey ∈ s.seenMessageContent then s
  else
    let seen := insert contentKey s.seenMessageContent
    let seen := if seen.card > 1000 then insert contentKey (contentKeysOf s.messages) else seen
    { s with
      seenMessageContent := seen
      messages := if s.messages.any (·.id = msg.id) then s.messages else s.messages ++ [msg] }

def observeMessage (s : State) (msg : Message) : State :=
  let (msg, pending) := applyPendingAck s.pending msg
  let s := { s with pending }
  if s.hasNewerMessages then s else appendActiveMessageIfNew s msg

def handleFetched (s : State) (latest : Bool) (data : List Message) : State :=
  let (dataWithPendingAck, pending) := applyPendingAcks s.pending data
  match reconcileConversationMessages s.messages dataWithPendingAck with
  | some merged => { s with pending, messages := merged, seenMessageContent := contentKeysOf merged }
  | none =>
    { s with
      pending
      seenMessageContent := if latest then contentKeysOf s.messages else s.seenMessageContent }

def step (s : State) : Event → Option State
  | .ack messageId update =>
    some { updateMessageAck s messageId update with
      received := (messageId, update.ackCount) :: s.received }
  | .message msg => some (observeMessage s msg)
  | .fetched latest data => some (handleFetched s latest data)

/-- Nothing received and nothing waiting yet. -/
def Initial (s : State) : Prop :=
  (s.messages.map Message.id).Nodup ∧ s.pending = .empty ∧ s.received = []

end Meshloom.Frontend.MessageView
