import Meshloom.Messages.Database

/-! A message as the frontend holds it, its content key, and the update that an
acknowledgement carries. -/
namespace Meshloom.Frontend
open Messages (MessageType MessagePath)

structure Message where
  id : Int
  type : MessageType
  conversationKey : String
  text : String
  senderTimestamp : Option Int
  receivedAt : Int
  paths : Option (List MessagePath)
  senderKey : Option String
  acked : Nat
  packetId : Option Int
  packetHash : Option String
  observerReachEligible : Option Bool
  deriving DecidableEq

def typeName : MessageType → String
  | .priv => "PRIV"
  | .chan => "CHAN"

def getMessageContentKey (msg : Message) : String :=
  let ts := match msg.senderTimestamp with
    | some timestamp => toString timestamp
    | none => "r" ++ toString msg.receivedAt ++ "-" ++ toString msg.id
  let senderSuffix := match msg.type, msg.senderKey with
    | .priv, some senderKey => if senderKey ≠ "" then "-" ++ senderKey else ""
    | _, _ => ""
  typeName msg.type ++ "-" ++ msg.conversationKey ++ "-" ++ msg.text ++ "-" ++ ts ++ senderSuffix

/-- What an acknowledgement event brings for a message. An outer `none` is `undefined`. -/
structure AckUpdate where
  ackCount : Nat
  paths : Option (List MessagePath)
  packetId : Option (Option Int)
  packetHash : Option (Option String)
  observerReachEligible : Option (Option Bool)
  deriving DecidableEq

/-- `message.paths?.length ?? 0`. -/
def Message.pathCount (message : Message) : Nat := (message.paths.getD []).length

/-- The fields behind `acked` and `paths` that an update replaces when it carries them. -/
def Message.patch (current : Message) (update : AckUpdate) : Message :=
  { current with
    packetId := update.packetId.getD current.packetId
    packetHash := update.packetHash.getD current.packetHash
    observerReachEligible := update.observerReachEligible.getD current.observerReachEligible }

/-- A displayed or cached message after an acknowledgement for it. -/
def Message.acknowledge (current : Message) (update : AckUpdate) : Message :=
  let paths := match update.paths with
    | some paths => if paths.length ≥ current.pathCount then some paths else current.paths
    | none => current.paths
  { current.patch update with acked := max current.acked update.ackCount, paths }

/-- `updated[index] = ...` at the first index of the message. -/
def acknowledgeFirst (messageId : Int) (update : AckUpdate) : List Message → List Message
  | [] => []
  | message :: rest =>
    if message.id = messageId then message.acknowledge update :: rest
    else message :: acknowledgeFirst messageId update rest

theorem map_id_acknowledgeFirst (messages : List Message) (messageId : Int) (update : AckUpdate) :
    (acknowledgeFirst messageId update messages).map Message.id = messages.map Message.id := by
  induction messages with
  | nil => rfl
  | cons message rest ih =>
      simp only [acknowledgeFirst]
      split
      · rfl
      · rw [List.map_cons, List.map_cons, ih]

/-- The order of the history: by time of arrival, then by id. -/
def Message.Before (a b : Message) : Prop :=
  a.receivedAt < b.receivedAt ∨ a.receivedAt = b.receivedAt ∧ a.id < b.id

instance (a b : Message) : Decidable (a.Before b) := inferInstanceAs (Decidable (_ ∨ _))

/-- The message that the request for an older page starts from. -/
def oldestMessage : List Message → Option Message :=
  List.foldl (fun oldest msg =>
    match oldest with
    | none => some msg
    | some oldest => if msg.Before oldest then some msg else some oldest) none

end Meshloom.Frontend
