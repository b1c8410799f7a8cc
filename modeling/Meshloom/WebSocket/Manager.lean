import Mathlib.Data.Rat.Defs
import Mathlib.Algebra.Order.Ring.Rat
import Meshloom.Dict
import Meshloom.Outbox
import Meshloom.Transition

/-! The sockets of the browser (`app/websocket.py`): a bounded queue for each client that one
writer task drains. Code between two suspensions of the event loop is one step. The lock of the
manager is never held at a suspension, so taking it never waits. -/
namespace Meshloom.WebSocket

/-- Maximum number of frames buffered for a client. -/
def CLIENT_QUEUE_MAX : Nat := 2048

def CLIENT_RAW_PACKET_BACKLOG_MAX : Nat := 1024

def CLIENT_COMMUNITY_PACKET_BACKLOG_MAX : Nat := 256

/-- `_DROPPABLE_EVENTS`. -/
def droppableEvents : List String := ["raw_packet", "community_packet"]

/-- `DROP_LOG_INTERVAL_SECONDS`. -/
def dropLogIntervalSeconds : ℚ := 60

def backlogLimit (eventType : String) : Nat :=
  if eventType = "community_packet" then CLIENT_COMMUNITY_PACKET_BACKLOG_MAX
  else CLIENT_RAW_PACKET_BACKLOG_MAX

/-- A writer task: at `queue.get`, in `send_text`, or done. -/
inductive Writer (M : Type) where
  | getting
  | sending (message : M)
  | done
  deriving DecidableEq, Repr

/-- `_Client`, with the history of what was asked of its queue and handed to its socket, which
nothing reads. `lastDropLog` has no value for minus infinity. -/
structure Client (W M : Type) where
  websocket : W
  queue : List M
  writer : Writer M
  /-- The writer's task has been cancelled and has not run since. -/
  cancelled : Bool
  unreported : Dict String Nat
  lastDropLog : Option ℚ
  history : List (Outbox.Happening (Option String) M)

/-- `WebSocketManager`. A client is named by its position in `clients`, where it stays after it
was removed from the active connections. -/
structure WebSocketManager (W M : Type) where
  clients : List (Client W M)
  activeConnections : Dict W Nat
  droppedFrames : Dict String Nat
  /-- The sockets that were accepted. -/
  accepted : List W
  /-- The sockets that an eviction closes. -/
  closing : List W

/-- One more of a `Counter`. -/
def count (counter : Dict String Nat) (eventType : String) : Dict String Nat :=
  counter.set eventType ((counter.get? eventType).getD 0 + 1)

/-- `_log_drops`, without the text. -/
def Client.logDrops {W M : Type} (client : Client W M) (now : ℚ) (final : Bool) : Client W M :=
  let early := match client.lastDropLog with
    | none => false
    | some last => decide (now - last < dropLogIntervalSeconds)
  if client.unreported.size = 0 then client
  else if !final && early then client
  else { client with
    unreported := Dict.empty
    lastDropLog := some now }

/-- `_stop_writer`, called in the task of the writer of `current` or in another task. -/
def Client.stopWriter {W M : Type} [DecidableEq M] (client : Client W M) (self : Nat)
    (current : Option Nat) : Client W M :=
  if client.writer ≠ .done ∧ current ≠ some self then { client with cancelled := true } else client

namespace WebSocketManager
variable {W D M : Type} [DecidableEq W] [DecidableEq M]

def empty : WebSocketManager W M := ⟨[], Dict.empty, Dict.empty, [], []⟩

/-- The client is an active connection. -/
def Registered (s : WebSocketManager W M) (i : Nat) (client : Client W M) : Prop :=
  s.activeConnections.get? client.websocket = some i

def modify (s : WebSocketManager W M) (i : Nat) (f : Client W M → Client W M) :
    WebSocketManager W M :=
  { s with clients := s.clients.modify i f }

/-- `connect`, when the socket has been accepted. A socket is accepted only once: on a second
time `accept` raises. -/
def connect (s : WebSocketManager W M) (websocket : W) : WebSocketManager W M :=
  if websocket ∈ s.accepted then s
  else { s with
    clients := s.clients ++ [⟨websocket, [], .getting, false, Dict.empty, none, []⟩]
    activeConnections := s.activeConnections.set websocket s.clients.length
    accepted := websocket :: s.accepted }

def disconnect (s : WebSocketManager W M) (websocket : W) (now : ℚ) : WebSocketManager W M :=
  match s.activeConnections.get? websocket with
  | none => s
  | some i =>
    { s with activeConnections := s.activeConnections.pop websocket }.modify i fun client =>
      (client.stopWriter i none).logDrops now true

/-- `_evict`, called in the task of the writer of `current` or in another task. -/
def evict (s : WebSocketManager W M) (i : Nat) (current : Option Nat) (now : ℚ) :
    WebSocketManager W M :=
  match s.clients[i]? with
  | none => s
  | some client =>
    if s.activeConnections.get? client.websocket ≠ some i then s
    else { s with
        activeConnections := s.activeConnections.pop client.websocket
        closing := client.websocket :: s.closing }.modify i fun client =>
      (client.stopWriter i current).logDrops now true

/-- The frame is shed when its type is droppable and the backlog reached the limit. -/
def sheds (eventType : Option String) (backlog : Nat) : Option String :=
  match eventType with
  | none => none
  | some eventType =>
    if eventType ∈ droppableEvents ∧ backlogLimit eventType ≤ backlog then some eventType else none

def enqueue (s : WebSocketManager W M) (i : Nat) (message : M) (eventType : Option String)
    (now : ℚ) : WebSocketManager W M :=
  match s.clients[i]? with
  | none => s
  | some client =>
    let s := s.modify i fun client =>
      { client with history := .asked eventType message :: client.history }
    match sheds eventType client.queue.length with
    | some eventType =>
      { s with droppedFrames := count s.droppedFrames eventType }.modify i fun client =>
        { client with unreported := count client.unreported eventType }.logDrops now false
    | none =>
      if client.queue.length < CLIENT_QUEUE_MAX then
        s.modify i fun client =>
          { client with queue := client.queue ++ [message] }.logDrops now false
      else s.evict i none now

/-- The loop of `broadcast_nowait` over the clients that were connected at its start. The clock
may be read for each of them. -/
def enqueueAll (s : WebSocketManager W M) (clients : List Nat) (message : M)
    (eventType : Option String) (now : Nat → ℚ) : WebSocketManager W M :=
  clients.foldl (fun s i => s.enqueue i message eventType (now i)) s

/-- `broadcast_nowait`; an event that cannot be serialised raises before anything is queued. -/
def broadcastNowait (dump : String → D → Option M) (s : WebSocketManager W M) (eventType : String)
    (data : D) (now : Nat → ℚ) : WebSocketManager W M :=
  if s.activeConnections.size = 0 then s
  else
    match dump eventType data with
    | none => s
    | some message =>
      s.enqueueAll (s.activeConnections.entries.map Prod.snd) message (some eventType) now

def sendRaw (s : WebSocketManager W M) (websocket : W) (message : M) (now : ℚ) :
    WebSocketManager W M :=
  match s.activeConnections.get? websocket with
  | none => s
  | some i => s.enqueue i message none now

/-- What makes a writer task run: a frame in the queue, the end of its send, or a cancellation. -/
inductive WriterStep where
  | take
  | sent
  | timedOut (now : ℚ)
  | failed (now : ℚ)
  | stop
  deriving DecidableEq

/-- A send that times out or raises: the writer evicts its client and returns. -/
def sendFailed (s : WebSocketManager W M) (i : Nat) (now : ℚ) : WebSocketManager W M :=
  ((s.modify i fun client => { client with history := .failed :: client.history }).evict i (some i)
    now).modify i fun client => { client with writer := .done }

/-- `_writer` from one suspension to the next, where a cancellation is taken as from Python 3.12 on: a
cancelled task does not resume where it waits; a time-out or an error of a send that ended before is let
through. -/
def writerStep (s : WebSocketManager W M) (i : Nat) (client : Client W M) :
    WriterStep → Option (WebSocketManager W M)
  | .take =>
    match client.writer, client.queue with
    | .getting, message :: rest =>
      if client.cancelled then none
      else some (s.modify i fun client => { client with
        queue := rest
        writer := .sending message
        history := .handed message :: client.history })
    | _, _ => none
  | .sent =>
    match client.writer with
    | .sending _ =>
      if client.cancelled then none
      else some (s.modify i fun client => { client with writer := .getting })
    | _ => none
  | .timedOut now | .failed now =>
    match client.writer with
    | .sending _ => some (s.sendFailed i now)
    | _ => none
  | .stop =>
    if client.cancelled && client.writer ≠ .done then
      some (s.modify i fun client => { client with writer := .done })
    else none

inductive Event (W D M : Type) where
  | connect (websocket : W)
  | disconnect (websocket : W) (now : ℚ)
  | broadcastNowait (eventType : String) (data : D) (now : Nat → ℚ)
  | sendRaw (websocket : W) (message : M) (now : ℚ)
  | writer (client : Nat) (step : WriterStep)

def step (dump : String → D → Option M) (s : WebSocketManager W M) :
    Event W D M → Option (WebSocketManager W M)
  | .connect websocket => some (s.connect websocket)
  | .disconnect websocket now => some (s.disconnect websocket now)
  | .broadcastNowait eventType data now => some (s.broadcastNowait dump eventType data now)
  | .sendRaw websocket message now => some (s.sendRaw websocket message now)
  | .writer i w => s.clients[i]?.bind fun client => s.writerStep i client w

end WebSocketManager
end Meshloom.WebSocket
