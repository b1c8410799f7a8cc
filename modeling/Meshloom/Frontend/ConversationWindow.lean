import Meshloom.StableSort
import Meshloom.Frontend.MessageView

/-! The open conversation between the server, which stores its messages, and the view, which
learns of each one by an event and loads pages of the history (`useConversationMessages` of the
frontend, the page queries of the message repository). An answer is what the server had at some
time between the request and its arrival. -/
namespace Meshloom.Frontend

/-- The place in the history: the time of arrival, then the id. -/
def Message.position (m : Message) : Int ×ₗ Int := toLex (m.receivedAt, m.id)

namespace ConversationWindow
open StableSort

def messagePageSize : Nat := 200

/-- `received_at > ? OR (received_at = ? AND id > ?)`, ascending. -/
def getMessagesAfter (server : List Message) (after : Message) : List Message :=
  (sortFalling (fun m => OrderDual.toDual m.position) (server.filter (after.Before ·))).take
    messagePageSize

/-- `received_at < ? OR (received_at = ? AND id < ?)`, descending. -/
def getMessagesBefore (server : List Message) (before : Message) : List Message :=
  (sortFalling Message.position (server.filter (·.Before before))).take messagePageSize

def getLatestMessages (server : List Message) : List Message :=
  (sortFalling Message.position server).take messagePageSize

/-- The message that the request for a newer page starts from. -/
def newestMessage : List Message → Option Message :=
  List.foldl (fun newest msg =>
    match newest with
    | none => some msg
    | some newest => if newest.Before msg then some msg else some newest) none

/-- A request for the page at a message, with its answer once the server has read it. -/
structure PageRequest where
  cursor : Message
  answer : Option (List Message)
  deriving DecidableEq

/-- A request for the latest page. -/
structure ReconcileRequest where
  requestId : Nat
  answer : Option (List Message)
  deriving DecidableEq

structure State where
  view : MessageView.State
  hasOlderMessages : Bool
  older : Option PageRequest
  newer : Option PageRequest
  reconciles : List ReconcileRequest
  latestReconcileRequestId : Nat
  pendingReconnectReconcile : Bool
  /-- The conversation as the server stores it. -/
  server : List Message
  /-- Stored, with the event still to come. -/
  unannounced : List Message
  /-- Announced while newer messages were missing. -/
  ignored : List Message

inductive Event where
  | stored (m : Message)
  | announced (m : Message)
  | fetchNewerMessages
  | newerRead
  | newerAnswered
  | newerFailed
  | fetchOlderMessages
  | olderRead
  | olderAnswered
  | olderFailed
  | reconcileOnReconnect
  | reconcileRead (requestId : Nat)
  | reconcileAnswered (requestId : Nat)
  | reconcileFailed (requestId : Nat)

def observe (s : State) (m : Message) : State :=
  { s with
    view := MessageView.observeMessage s.view m
    unannounced := s.unannounced.erase m
    ignored := if s.view.hasNewerMessages then m :: s.ignored else s.ignored }

def reconcileFromBackend (s : State) : State :=
  { s with
    pendingReconnectReconcile := false
    latestReconcileRequestId := s.latestReconcileRequestId + 1
    reconciles := s.reconciles ++ [⟨s.latestReconcileRequestId + 1, none⟩] }

def reconcileOnReconnect (s : State) : State :=
  if s.view.hasNewerMessages then { s with pendingReconnectReconcile := true }
  else reconcileFromBackend s

def fetchNewerMessages (s : State) : State :=
  if s.newer.isSome || ! s.view.hasNewerMessages then s
  else
    match newestMessage s.view.messages with
    | none => s
    | some newest => { s with newer := some ⟨newest, none⟩ }

def appendNewer (view : MessageView.State) (data : List Message) : MessageView.State :=
  let (dataWithPendingAck, pending) := MessageView.applyPendingAcks view.pending data
  let newMessages := dataWithPendingAck.filter fun msg =>
    getMessageContentKey msg ∉ view.seenMessageContent
  { view with
    pending
    messages := view.messages ++ newMessages
    seenMessageContent := view.seenMessageContent ∪ MessageView.contentKeysOf newMessages
    hasNewerMessages := decide (data.length ≥ messagePageSize) }

def newerAnswered (s : State) (data : List Message) : State :=
  let s := { s with newer := none, view := appendNewer s.view data }
  if ! s.view.hasNewerMessages && s.pendingReconnectReconcile then reconcileFromBackend s else s

/-- The additions of `appendUniqueMessages`. -/
def additions (seenIds : List Int) (seenContent : Finset String) : List Message → List Message
  | [] => []
  | msg :: rest =>
    if msg.id ∈ seenIds ∨ getMessageContentKey msg ∈ seenContent then
      additions seenIds seenContent rest
    else
      msg :: additions (msg.id :: seenIds) (insert (getMessageContentKey msg) seenContent) rest

def appendOlder (view : MessageView.State) (data : List Message) : MessageView.State :=
  let (dataWithPendingAck, pending) := MessageView.applyPendingAcks view.pending data
  match additions (view.messages.map Message.id) (MessageView.contentKeysOf view.messages)
      dataWithPendingAck with
  | [] => { view with pending }
  | added =>
    { view with
      pending
      messages := view.messages ++ added
      seenMessageContent := MessageView.contentKeysOf (view.messages ++ added) }

def fetchOlderMessages (s : State) : State :=
  if s.older.isSome || ! s.hasOlderMessages then s
  else
    match oldestMessage s.view.messages with
    | none => s
    | some oldest => { s with older := some ⟨oldest, none⟩ }

def olderAnswered (s : State) (data : List Message) : State :=
  { s with
    older := none
    view := appendOlder s.view data
    hasOlderMessages := decide (data.length ≥ messagePageSize) }

/-- Only the answer to the latest of these requests counts. -/
def reconcileAnswered (s : State) (requestId : Nat) (data : List Message) : State :=
  if requestId = s.latestReconcileRequestId then
    { s with
      view := MessageView.handleFetched s.view false data
      hasOlderMessages := decide (data.length ≥ messagePageSize) }
  else s

def step (s : State) : Event → Option State
  | .stored m =>
    if m.id ∈ s.server.map Message.id then none
    else some { s with server := s.server ++ [m], unannounced := s.unannounced ++ [m] }
  | .announced m => if m ∈ s.unannounced then some (observe s m) else none
  | .fetchNewerMessages => some (fetchNewerMessages s)
  | .newerRead =>
    match s.newer with
    | some ⟨cursor, none⟩ =>
      some { s with newer := some ⟨cursor, some (getMessagesAfter s.server cursor)⟩ }
    | _ => none
  | .newerAnswered =>
    match s.newer with
    | some ⟨_, some data⟩ => some (newerAnswered s data)
    | _ => none
  | .newerFailed => if s.newer.isSome then some { s with newer := none } else none
  | .fetchOlderMessages => some (fetchOlderMessages s)
  | .olderRead =>
    match s.older with
    | some ⟨cursor, none⟩ =>
      some { s with older := some ⟨cursor, some (getMessagesBefore s.server cursor)⟩ }
    | _ => none
  | .olderAnswered =>
    match s.older with
    | some ⟨_, some data⟩ => some (olderAnswered s data)
    | _ => none
  | .olderFailed => if s.older.isSome then some { s with older := none } else none
  | .reconcileOnReconnect => some (reconcileOnReconnect s)
  | .reconcileRead requestId =>
    if ⟨requestId, none⟩ ∈ s.reconciles then
      some { s with
        reconciles := ⟨requestId, some (getLatestMessages s.server)⟩ ::
          s.reconciles.erase ⟨requestId, none⟩ }
    else none
  | .reconcileAnswered requestId =>
    match s.reconciles.find? fun request => request.requestId = requestId && request.answer.isSome with
    | some ⟨_, some data⟩ =>
      some { reconcileAnswered s requestId data with
        reconciles := s.reconciles.erase ⟨requestId, some data⟩ }
    | _ => none
  | .reconcileFailed requestId =>
    match s.reconciles.find? (·.requestId = requestId) with
    | some request => some { s with reconciles := s.reconciles.erase request }
    | none => none

/-- No request in flight and no event to come. -/
def Quiet (s : State) : Prop :=
  s.older = none ∧ s.newer = none ∧ s.reconciles = [] ∧ s.unannounced = []

/-- The message is at or after one of the list. -/
def From (messages : List Message) (m : Message) : Prop :=
  ∃ shown ∈ messages, shown.position ≤ m.position

/-- The message is at or before one of the list. -/
def UpTo (messages : List Message) (m : Message) : Prop :=
  ∃ shown ∈ messages, m.position ≤ shown.position

/-- Every server message at or after the oldest of the list is in the list once. -/
def ShowsAll (s : State) : Prop :=
  ∀ m ∈ s.server, From s.view.messages m → (s.view.messages.map Message.id).count m.id = 1

/-- A view just opened, on messages that the server has. What it lacks between its messages, or
after them if none are missing there, is still to be announced. -/
structure Opened (s : State) : Prop where
  idle : s.older = none ∧ s.newer = none ∧ s.reconciles = [] ∧ s.ignored = []
  distinct : (s.server.map Message.id).Nodup
  unannounced : ∀ m ∈ s.unannounced, m ∈ s.server
  once : (s.view.messages.map Message.id).Nodup
  loaded : ∀ shown ∈ s.view.messages, ∃ m ∈ s.server,
    shown.position = m.position ∧ getMessageContentKey shown = getMessageContentKey m
  seen : s.view.seenMessageContent = MessageView.contentKeysOf s.view.messages
  gapless : ∀ m ∈ s.server, From s.view.messages m →
    (s.view.hasNewerMessages → UpTo s.view.messages m) →
    m.id ∈ s.view.messages.map Message.id ∨ m ∈ s.unannounced

/-- The same content is that of the same message. -/
def Unmistaken (messages data : List Message) : Prop :=
  ∀ m ∈ data, ∀ shown ∈ messages, getMessageContentKey shown = getMessageContentKey m →
    shown.id = m.id

/-- No message ignored so far is missing from the list with the page. -/
def NoneLost (s : State) (data : List Message) : Prop :=
  ∀ m ∈ s.ignored, From (s.view.messages ++ data) m →
    m.id ∈ (s.view.messages ++ data).map Message.id

/-- Nothing that was announced lies between the message and the oldest of the list. -/
def Adjoins (s : State) (m : Message) : Prop :=
  ∀ other ∈ s.server, m.position < other.position → ¬ From s.view.messages other →
    other ∈ s.unannounced

/-- The steps that lose nothing. -/
def Lossless (s : State) : Event → Prop
  | .announced m => s.view.hasNewerMessages = false →
      Unmistaken s.view.messages [m] ∧ Adjoins s m
  | .newerAnswered => ∀ cursor data, s.newer = some ⟨cursor, some data⟩ →
      Unmistaken s.view.messages data ∧ (data.length < messagePageSize → NoneLost s data)
  | .olderAnswered => ∀ cursor data, s.older = some ⟨cursor, some data⟩ →
      Unmistaken (s.view.messages ++ data) data ∧
        (s.view.hasNewerMessages = false → NoneLost s data)
  | _ => True

end ConversationWindow
end Meshloom.Frontend
