import Meshloom.Transition
import Meshloom.Text
import Mathlib.Logic.Function.Basic

/-! The retained status of a `CommunityMqttPublisher` (`app/fanout/community_mqtt.py`, with `stop`
of `app/fanout/mqtt_base.py`). The broker takes every message in the order in which `publish` is
called and closes a connection when asked to. The connection loop, calls of `republish_status` and
`stop` go on from one await to the next in any order. -/
namespace Meshloom.RetainedStatus
open Text Transition

/-- What a status takes of `CommunityMqttSettings`. -/
structure Settings where
  iata : String

abbrev Topic := String

/-- The device's name and the public key in uppercase hex, as the radio and the keystore have them
when a status is built. -/
structure Identity where
  deviceName : String
  pubkey : String
  deriving DecidableEq

inductive Payload where
  | online (origin originId : String)
  | offline (origin originId : String)
  deriving DecidableEq

def buildStatusTopic (settings : Settings) (pubkey : String) : Topic :=
  "meshcore/" ++ String.ofList (strip (upper settings.iata).toList) ++ "/" ++ pubkey ++ "/status"

def origin (identity : Identity) : String :=
  if identity.deviceName = "" then "MeshCore Device" else identity.deviceName

def onlineStatusPayload (identity : Identity) : Payload := .online (origin identity) identity.pubkey

def offlineStatusPayload (identity : Identity) : Payload := .offline (origin identity) identity.pubkey

/-- What `_publish_status` awaits. -/
inductive Writing where
  /-- `_fetch_device_info`, `_fetch_stats` -/
  | gathering (settings : Settings) (identity : Identity)
  /-- `publish` -/
  | publishing (topic : Topic) (identity : Identity)
  /-- `_on_status_retained` -/
  | noting

/-- Where the connection loop is. -/
inductive Loop where
  | ended
  /-- Outside its connection: not configured, before it connects, or after a failure. -/
  | connecting (settings : Settings)
  /-- `_on_connected_async`, `_on_periodic_wake` -/
  | status (writing : Writing)
  | waiting
  /-- It leaves the connection itself: the settings moved, or the token is about to expire. -/
  | leaving
  | cancelled

/-- Where `stop` is. -/
inductive Stop where
  | none
  /-- `_before_disconnect` awaits the offline status. -/
  | sayingOffline (topic : Topic) (retire : Bool)
  /-- It awaits the empty payload. -/
  | clearing (topic : Topic)
  /-- The loop is cancelled. Whether `retire_status` was called before is a ghost from here on. -/
  | cancelling (retire : Bool)

/-- What the last stop ended: the topics its connection had published an online status on. -/
structure Stopped where
  topics : List Topic
  retire : Bool

structure State where
  broker : Topic → Option Payload
  settings : Settings
  loop : Loop
  /-- `connected`, with a client. -/
  connected : Bool
  /-- The calls of `republish_status`, none for one that has returned. -/
  calls : List (Option Writing)
  stop : Stop
  lastStatusTopic : Option Topic
  lastStatusIdentity : Identity
  retireStatusOnStop : Bool
  retiredStatusTopic : Option Topic
  /-- The topics this connection has published an online status on, and the last stop since the
  last start: ghosts. -/
  topics : List Topic
  stopped : Option Stopped

/-- Who publishes a status: the loop, or a call. -/
abbrev Writer := Option Nat

inductive Event where
  | start (settings : Settings)
  | retireStatus
  /-- Another attempt of the loop to connect. -/
  | retries
  /-- The connection is there; without a public key there is no status. -/
  | connects (identity : Option Identity)
  /-- The periodic wake that publishes a status. -/
  | wakes (identity : Identity)
  | republish (identity : Identity)
  /-- The status is built and `publish` is called. -/
  | sends (writer : Writer)
  /-- `publish` has returned. -/
  | sent (writer : Writer)
  | noted (writer : Writer)
  | leaves
  /-- The client is closed. -/
  | left
  | stop
  /-- What `_before_disconnect` awaits is acknowledged. -/
  | acknowledged
  | stopReturns

def State.writing? (s : State) : Writer → Option Writing
  | none =>
      match s.loop with
      | .status writing => some writing
      | _ => none
  | some i => s.calls[i]?.join

def goOn (s : State) (writer : Writer) (writing : Writing) : State :=
  match writer with
  | none => { s with loop := .status writing }
  | some i => { s with calls := s.calls.set i (some writing) }

/-- `_publish_status` returns. -/
def finish (s : State) (writer : Writer) : State :=
  match writer with
  | none => { s with loop := .waiting }
  | some i => { s with calls := s.calls.set i none }

/-- `start`, which makes a loop only where none runs. -/
def begin (s : State) (settings : Settings) : State :=
  { s with
    settings
    retireStatusOnStop := false
    retiredStatusTopic := none
    stopped := none
    loop :=
      match s.loop with
      | .ended => .connecting settings
      | loop => loop }

def connect (s : State) (settings : Settings) (identity : Option Identity) : State :=
  { s with
    connected := true
    topics := []
    loop :=
      match identity with
      | some identity => .status (.gathering settings identity)
      | none => .waiting }

def sendStatus (s : State) (writer : Writer) (settings : Settings) (identity : Identity) : State :=
  if s.connected then
    let topic := buildStatusTopic settings identity.pubkey
    goOn
      { s with
        broker := Function.update s.broker topic (some (onlineStatusPayload identity))
        topics := topic :: s.topics }
      writer (.publishing topic identity)
  else finish s writer

def recordStatus (s : State) (writer : Writer) (topic : Topic) (identity : Identity) : State :=
  if s.connected then
    goOn { s with lastStatusTopic := some topic, lastStatusIdentity := identity } writer .noting
  else finish s writer

/-- `stop` cancels the loop and waits for it. -/
def cancelLoop (s : State) (retire : Bool) : State :=
  { s with
    stop := .cancelling retire
    loop :=
      match s.loop with
      | .ended => .ended
      | _ => .cancelled }

/-- `stop`, up to its first await. -/
def beginStop (s : State) : State :=
  if s.connected then
    match s.lastStatusTopic with
    | none => cancelLoop { s with retireStatusOnStop := false } s.retireStatusOnStop
    | some topic =>
        { s with
          retireStatusOnStop := false
          broker :=
            Function.update s.broker topic (some (offlineStatusPayload s.lastStatusIdentity))
          stop := .sayingOffline topic s.retireStatusOnStop }
  else cancelLoop s s.retireStatusOnStop

/-- `_before_disconnect` goes on. -/
def acknowledge (s : State) : Option State :=
  match s.stop with
  | .sayingOffline topic true =>
      some { s with broker := Function.update s.broker topic none, stop := .clearing topic }
  | .sayingOffline _ false => some (cancelLoop { s with lastStatusTopic := none } false)
  | .clearing topic =>
      some (cancelLoop { s with retiredStatusTopic := some topic, lastStatusTopic := none } true)
  | _ => none

/-- The loop's client is closed: the loop connects again, or it was cancelled and ends. -/
def leave (s : State) : Option State :=
  match s.loop with
  | .leaving => some { s with connected := false, loop := .connecting s.settings }
  | .cancelled => some { s with connected := false, loop := .ended }
  | _ => none

def step (s : State) : Event → Option State
  | .start settings =>
      match s.stop with
      | .none => some (begin s settings)
      | _ => none
  | .retireStatus => some { s with retireStatusOnStop := true }
  | .retries =>
      match s.loop with
      | .connecting _ => some { s with loop := .connecting s.settings }
      | _ => none
  | .connects identity =>
      match s.loop with
      | .connecting settings => some (connect s settings identity)
      | _ => none
  | .wakes identity =>
      match s.loop with
      | .waiting => some { s with loop := .status (.gathering s.settings identity) }
      | _ => none
  | .republish identity =>
      if s.connected then
        some { s with calls := s.calls ++ [some (.gathering s.settings identity)] }
      else none
  | .sends writer =>
      match s.writing? writer with
      | some (.gathering settings identity) => some (sendStatus s writer settings identity)
      | _ => none
  | .sent writer =>
      match s.writing? writer with
      | some (.publishing topic identity) => some (recordStatus s writer topic identity)
      | _ => none
  | .noted writer =>
      match s.writing? writer with
      | some .noting => some (finish s writer)
      | _ => none
  | .leaves =>
      match s.loop with
      | .waiting => some { s with loop := .leaving }
      | _ => none
  | .left => leave s
  | .stop =>
      match s.stop with
      | .none => some (beginStop s)
      | _ => none
  | .acknowledged => acknowledge s
  | .stopReturns =>
      match s.stop, s.loop with
      | .cancelling retire, .ended =>
          some { s with
            connected := false
            stop := .none
            stopped := some ⟨s.topics, retire⟩
            topics := [] }
      | _, _ => none

/-- A publisher that was never started, and what the broker holds then. -/
def start (broker : Topic → Option Payload) : State where
  broker
  settings := ⟨""⟩
  loop := .ended
  connected := false
  calls := []
  stop := .none
  lastStatusTopic := none
  lastStatusIdentity := ⟨"", ""⟩
  retireStatusOnStop := false
  retiredStatusTopic := none
  topics := []
  stopped := none

/-- A status that was sent on the topic is not recorded yet. -/
def Unrecorded (s : State) (topic : Topic) : Prop :=
  ∃ writer identity, s.writing? writer = some (.publishing topic identity)

/-- A status goes out on the topic on which the connection and those not recorded went out. -/
def OneTopic (s : State) : Event → Prop
  | .sends writer =>
      ∀ settings identity, s.writing? writer = some (.gathering settings identity) →
        ∀ topic, topic ∈ s.topics ∨ Unrecorded s topic →
          topic = buildStatusTopic settings identity.pubkey
  | _ => True

/-- What a topic holds after a stop. -/
def Left (retire : Bool) (held : Option Payload) : Prop :=
  if retire then held = none else ∃ identity, held = some (offlineStatusPayload identity)

/-- No topic on which the connection published an online status holds one after the stop, but the
offline payload, or nothing when the status was retired; a topic named as retired holds nothing. -/
structure Quiet (s : State) : Prop where
  stopped : ∀ ended ∈ s.stopped, ∀ topic ∈ ended.topics, Left ended.retire (s.broker topic)
  retired : ∀ topic ∈ s.retiredStatusTopic, s.broker topic = none

/-- `stop` is called while connected and with the one topic of the connection remembered, or when
the last connection has published no status; no status goes out while `stop` is under way. -/
def Clear (s : State) : Event → Prop
  | .stop => ∀ topic ∈ s.topics, s.connected = true ∧ s.lastStatusTopic = some topic
  | .sends _ =>
      match s.stop with
      | .none => True
      | _ => s.connected = false
  | _ => True

instance (s : State) (e : Event) : Decidable (Clear s e) := by
  unfold Clear
  split
  · infer_instance
  · split <;> infer_instance
  · infer_instance

end Meshloom.RetainedStatus
