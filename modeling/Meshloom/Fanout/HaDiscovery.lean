import Meshloom.Fanout.HaEntities
import Meshloom.Transition
import Mathlib.Data.List.Sort
import Mathlib.Logic.Function.Basic

/-! The retained discovery configs of one `MqttHaModule` (`app/fanout/mqtt_ha.py`), from its start.
The calls of `on_health` and `on_telemetry` that the fanout manager makes, the callback of each
connection and the stops go on from one await to the next in any order. A publish is taken by the
broker when it is called, and succeeds while the publisher is connected. -/
namespace Meshloom.HaDiscovery
open Transition

/-- What the module reads of its `config`. -/
structure Settings where
  topicPrefix : String
  trackedContacts : List String
  trackedRepeaters : List String

inductive Kind where
  | repeater
  | contact
  deriving DecidableEq

structure Tracked where
  kind : Kind
  pubKey : String
  deriving DecidableEq

/-- The latest telemetry of a node, where its `data` is not empty. -/
structure Snapshot where
  lppSensors : List Sensor

/-- What `_publish_discovery` has gathered. -/
structure Draft where
  radioName : String
  configs : List (Topic × Config) := []
  cachedStates : List Topic := []
  legacyGeoTopics : List Topic := []

/-- Who is at work, with the states `on_telemetry` publishes at its end. -/
inductive Handler where
  | health
  | telemetry (states : List Topic)
  | reconnect
  | stop

/-- What a handler awaits, and what it has left to do in that loop. -/
inductive Phase where
  /-- The topics of the old identity that `on_health` clears, before it takes on the new one. -/
  | clearingOld (left : List Topic) (key : String) (name : Option String)
  /-- The radio's topics under its old key. -/
  | clearingRadio (left : List Topic)
  /-- `_resolve_contact_name` -/
  | naming (draft : Draft) (node : Tracked) (left : List Tracked)
  /-- `_resolve_latest_telemetry`, `_resolve_latest_contact_telemetry` -/
  | sampling (draft : Draft) (node : Tracked) (name : String) (left : List Tracked)
  | clearingStale (left : List Topic) (draft : Draft)
  | publishing (left : List (Topic × Config)) (cachedStates : List Topic)
  /-- The cached states, which are not retained. -/
  | replaying (left : List Topic)
  /-- What the handler itself publishes at its end, not retained either. -/
  | reporting (left : List Topic)
  /-- `_remove_discovery` goes through a list, by its index among those that were
  `_discovery_topics`. -/
  | removing (list next : Nat)
  /-- The publisher's `stop` waits for the cancelled loop. -/
  | disconnecting
  | ended

/-- Whether the handler is in the middle of a change of what is retained. -/
def Phase.changes : Phase → Bool
  | .replaying _ | .reporting _ | .ended => false
  | _ => true

def Phase.done : Phase → Bool
  | .ended => true
  | _ => false

structure Task where
  handler : Handler
  phase : Phase

/-- The connection loop of the publisher. -/
inductive Loop where
  | connecting
  /-- Connected: the callback, or the wait. -/
  | serving
  /-- Cancelled, with its client not closed yet. -/
  | closing
  | down
  deriving DecidableEq

structure State where
  /-- The discovery configs that this module has published and not cleared. -/
  retained : Topic → Option Config
  loop : Loop
  discoveryTopics : List Topic
  /-- The lists that `_discovery_topics` was bound to before. -/
  earlierTopics : List (List Topic)
  radioKey : Option String
  radioName : Option String
  tasks : List Task
  /-- A stop has returned. -/
  stopped : Bool

inductive Event where
  /-- The loop has a client: `_on_connected_async`. -/
  | connects
  | disconnects
  | health (publicKey name : Option String)
  /-- The readings of a node, and whether `_extract_gps_reading` finds one among them. -/
  | telemetry (publicKey : String) (lppSensors : List Sensor) (located : Bool)
  | stop
  | named (task : Nat) (name : Option String)
  | sampled (task : Nat) (latest : Option Snapshot)
  /-- What a task publishes is acknowledged, or the publisher's `stop` has waited. -/
  | resumes (task : Nat)
  /-- The cancelled loop has closed its client. -/
  | closes
  /-- `_run_handler` gives up on a handler. -/
  | timesOut (task : Nat)

/-- The module after its `start`, with the identity that `_seed_radio_identity_from_runtime` finds. -/
def start (key name : Option String) : State where
  retained _ := none
  loop := .connecting
  discoveryTopics := []
  earlierTopics := []
  radioKey := key
  radioName := name
  tasks := []
  stopped := false

/-- `_publisher.connected`, and that there is a client. -/
def State.connected (s : State) : Bool :=
  match s.loop with
  | .serving | .closing => true
  | .connecting | .down => false

def State.put (s : State) (i : Nat) (handler : Handler) (phase : Phase) : State :=
  { s with tasks := s.tasks.set i ⟨handler, phase⟩ }

def State.retain (s : State) (topic : Topic) (config : Config) : State :=
  { s with retained := Function.update s.retained topic (some config) }

def State.clear (s : State) (topic : Topic) : State :=
  { s with retained := Function.update s.retained topic none }

section Handlers
variable (settings : Settings)

def tracked : List Tracked :=
  settings.trackedRepeaters.map (Tracked.mk .repeater) ++
    settings.trackedContacts.map (Tracked.mk .contact)

def telemetryTopic (pubKey : String) : Topic :=
  settings.topicPrefix ++ "/" ++ nodeId pubKey ++ "/telemetry"

/-- The states that a handler publishes last. Without a connection `publish` returns at once. -/
def report (s : State) (i : Nat) (handler : Handler) : List Topic → State
  | _ :: rest => if s.connected then s.put i handler (.reporting rest) else s.put i handler .ended
  | [] => s.put i handler .ended

/-- The end of `on_health`. -/
def reportHealth (s : State) (i : Nat) : State :=
  match truthy s.radioKey with
  | some key => report s i .health [settings.topicPrefix ++ "/" ++ nodeId key ++ "/health"]
  | none => report s i .health []

/-- `_publish_discovery` has returned to the handler. -/
def finish (s : State) (i : Nat) (handler : Handler) : State :=
  match handler with
  | .health => reportHealth settings s i
  | .telemetry states => report s i handler states
  | .reconnect | .stop => s.put i handler .ended

def replay (s : State) (i : Nat) (handler : Handler) : List Topic → State
  | _ :: rest =>
      if s.connected then s.put i handler (.replaying rest) else finish settings s i handler
  | [] => finish settings s i handler

def publishConfigs (s : State) (i : Nat) (handler : Handler) (cachedStates : List Topic) :
    List (Topic × Config) → State
  | (topic, config) :: rest =>
      if s.connected then (s.retain topic config).put i handler (.publishing rest cachedStates)
      else replay settings s i handler cachedStates
  | [] => replay settings s i handler cachedStates

/-- `_discovery_topics` is bound to a new list. -/
def State.rebind (s : State) (topics : List Topic) : State :=
  { s with
    discoveryTopics := topics
    earlierTopics := s.earlierTopics ++ [s.discoveryTopics] }

def clearStale (s : State) (i : Nat) (handler : Handler) (draft : Draft) : List Topic → State
  | topic :: rest =>
      if s.connected then (s.clear topic).put i handler (.clearingStale rest draft)
      else publishConfigs settings (s.rebind (draft.configs.map Prod.fst)) i handler
        draft.cachedStates draft.configs
  | [] =>
      publishConfigs settings (s.rebind (draft.configs.map Prod.fst)) i handler
        draft.cachedStates draft.configs

/-- `stale`: sorted, without duplicates. -/
def staleTopics (s : State) (draft : Draft) : List Topic :=
  (((s.discoveryTopics ++ draft.legacyGeoTopics).filter
    fun topic => topic ∉ draft.configs.map Prod.fst).dedup).insertionSort (· ≤ ·)

/-- The message entity of the radio there is by now. -/
def Draft.withMessages (draft : Draft) (radioKey : Option String) : Draft :=
  { draft with
    configs := draft.configs ++
      [messageEventDiscoveryConfig settings.topicPrefix (radioKey.getD "") draft.radioName] }

/-- The loops over the tracked nodes. -/
def gather (s : State) (i : Nat) (handler : Handler) (draft : Draft) : List Tracked → State
  | node :: rest => s.put i handler (.naming draft node rest)
  | [] =>
      let whole := draft.withMessages settings s.radioKey
      clearStale settings s i handler whole (staleTopics s whole)

def publishDiscovery (s : State) (i : Nat) (handler : Handler) : State :=
  match truthy s.radioKey with
  | some key =>
      let radioName := (truthy s.radioName).getD "MeshCore Radio"
      gather settings s i handler
        { radioName, configs := radioDiscoveryConfigs settings.topicPrefix key radioName }
        (tracked settings)
  | none => finish settings s i handler

/-- The entities a node has by itself. -/
def Draft.withNode (draft : Draft) (radioKey : Option String) (node : Tracked) (name : String) :
    Draft :=
  { draft with
    configs := draft.configs ++
      match node.kind with
      | .repeater => repeaterDiscoveryConfigs settings.topicPrefix node.pubKey name radioKey
      | .contact => [contactTrackerDiscoveryConfig settings.topicPrefix node.pubKey name radioKey] }

def Kind.model : Kind → String
  | .repeater => "Repeater"
  | .contact => "Node"

/-- The entities of its sensors. -/
def Draft.withSensors (draft : Draft) (radioKey : Option String) (node : Tracked) (name : String)
    (latest : Option Snapshot) : Draft :=
  match latest with
  | none => draft
  | some snapshot =>
      let device := devicePayload node.pubKey name node.kind.model radioKey
      { draft with
        configs := draft.configs ++ lppDiscoveryConfigs node.pubKey device snapshot.lppSensors
          (telemetryTopic settings node.pubKey)
        cachedStates := draft.cachedStates ++ [telemetryTopic settings node.pubKey]
        legacyGeoTopics := draft.legacyGeoTopics ++
          legacyGeoSensorTopics (nodeId node.pubKey) snapshot.lppSensors }

/-- `on_health` clears the old identity's topics and takes on the new identity. -/
def clearOld (s : State) (i : Nat) (key : String) (name : Option String) : List Topic → State
  | topic :: rest =>
      if s.connected then (s.clear topic).put i .health (.clearingOld rest key name)
      else publishDiscovery settings
        { s with discoveryTopics := [], radioKey := some key, radioName := name } i .health
  | [] =>
      publishDiscovery settings
        { s with discoveryTopics := [], radioKey := some key, radioName := name } i .health

def clearRadio (s : State) (i : Nat) : List Topic → State
  | topic :: rest =>
      if s.connected then (s.clear topic).put i .health (.clearingRadio rest)
      else publishDiscovery settings s i .health
  | [] => publishDiscovery settings s i .health

def changeKey (s : State) (i : Nat) (key : String) (name : Option String) : State :=
  match s.discoveryTopics, s.radioKey with
  | [], none => publishDiscovery settings { s with radioKey := some key, radioName := name } i .health
  | [], some old =>
      clearRadio settings { s with radioKey := some key, radioName := name } i
        ((radioDiscoveryConfigs settings.topicPrefix old "").map Prod.fst)
  | topics, _ => clearOld settings s i key name topics

/-- Whether a health snapshot names the radio anew. -/
def renames (s : State) (name : Option String) : Bool :=
  (truthy name).isSome && decide (name ≠ s.radioName)

/-- `on_health` of a connected module. -/
def onHealth (s : State) (i : Nat) (publicKey name : Option String) : State :=
  match truthy publicKey with
  | some key =>
      if s.radioKey ≠ some key then changeKey settings s i key name
      else if renames s name then publishDiscovery settings { s with radioName := name } i .health
      else reportHealth settings s i
  | none => reportHealth settings s i

/-- Whether readings have a sensor that has no entity yet. -/
def rediscovers (s : State) (publicKey : String) (lppSensors : List Sensor) : Bool :=
  (assignLppKeys lppSensors).any fun key =>
    decide (sensorTopic (nodeId publicKey) key ∉ s.discoveryTopics)

def telemetryStates (publicKey : String) (located : Bool) : List Topic :=
  telemetryTopic settings publicKey ::
    if publicKey ∉ settings.trackedRepeaters ∧ located then
      [settings.topicPrefix ++ "/" ++ nodeId publicKey ++ "/gps"]
    else []

/-- `on_telemetry` of a connected module, about a node it tracks. -/
def onTelemetry (s : State) (i : Nat) (publicKey : String) (lppSensors : List Sensor)
    (located : Bool) : State :=
  let states := telemetryStates settings publicKey located
  if rediscovers s publicKey lppSensors then publishDiscovery settings s i (.telemetry states)
  else report s i (.telemetry states) states

end Handlers

/-- A call in progress that has done nothing yet. -/
def State.call (s : State) (handler : Handler) : State :=
  { s with tasks := s.tasks ++ [⟨handler, .ended⟩] }

/-- The end of a stop. -/
def State.shut (s : State) : State :=
  { s with
    loop := .down
    discoveryTopics := []
    stopped := true }

/-- The task of the loop is cancelled, and the callback with it. -/
def State.cancelLoop (s : State) : State :=
  { s with
    loop := if s.connected then .closing else .down
    tasks := s.tasks.map fun task =>
      match task.handler with
      | .reconnect => ⟨.reconnect, .ended⟩
      | _ => task }

/-- The publisher's `stop`. -/
def disconnect (s : State) (i : Nat) : State :=
  if s.loop = .down then s.shut.put i .stop .ended else s.cancelLoop.put i .stop .disconnecting

/-- `_remove_discovery` goes on in the list it began with, whatever has become of it. -/
def removeNext (s : State) (i list next : Nat) : State :=
  match (s.earlierTopics ++ [s.discoveryTopics])[list]?.bind (·[next]?) with
  | some topic =>
      if s.connected then (s.clear topic).put i .stop (.removing list (next + 1))
      else disconnect s i
  | none => disconnect s i

def onStop (s : State) (i : Nat) : State :=
  if s.connected ∧ s.discoveryTopics ≠ [] then removeNext s i s.earlierTopics.length 0
  else disconnect s i

/-- A task goes on after an await that gives nothing. -/
def resume (settings : Settings) (s : State) (i : Nat) (task : Task) : Option State :=
  match task.phase with
  | .clearingOld left key name => some (clearOld settings s i key name left)
  | .clearingRadio left => some (clearRadio settings s i left)
  | .clearingStale left draft => some (clearStale settings s i task.handler draft left)
  | .publishing left cachedStates =>
      some (publishConfigs settings s i task.handler cachedStates left)
  | .replaying left => some (replay settings s i task.handler left)
  | .reporting left => some (report s i task.handler left)
  | .removing list next => some (removeNext s i list next)
  | .disconnecting => some (s.shut.put i .stop .ended)
  | .naming _ _ _ | .sampling _ _ _ _ | .ended => none

/-- Whether the loop is in its callback. -/
def State.callback (s : State) : Bool :=
  s.tasks.any fun task =>
    match task.handler with
    | .reconnect => !task.phase.done
    | _ => false

def step (settings : Settings) (s : State) : Event → Option State
  | .connects =>
      if s.loop = .connecting then
        some (publishDiscovery settings ({ s with loop := .serving }.call .reconnect) s.tasks.length
          .reconnect)
      else none
  | .disconnects =>
      if s.loop = .serving ∧ ¬ s.callback then some { s with loop := .connecting } else none
  | .health publicKey name =>
      if s.connected then some (onHealth settings (s.call .health) s.tasks.length publicKey name)
      else some s
  | .telemetry publicKey lppSensors located =>
      if s.connected ∧ publicKey ∈ settings.trackedRepeaters ++ settings.trackedContacts then
        some (onTelemetry settings
          (s.call (.telemetry (telemetryStates settings publicKey located))) s.tasks.length
          publicKey lppSensors located)
      else some s
  | .stop => some (onStop (s.call .stop) s.tasks.length)
  | .named i name =>
      match s.tasks[i]? with
      | some ⟨handler, .naming draft node left⟩ =>
          let shown := (truthy name).getD (shortKey node.pubKey)
          some (s.put i handler
            (.sampling (draft.withNode settings s.radioKey node shown) node shown left))
      | _ => none
  | .sampled i latest =>
      match s.tasks[i]? with
      | some ⟨handler, .sampling draft node name left⟩ =>
          some (gather settings s i handler
            (draft.withSensors settings s.radioKey node name latest) left)
      | _ => none
  | .resumes i => s.tasks[i]?.bind (resume settings s i)
  | .closes => if s.loop = .closing then some { s with loop := .down } else none
  | .timesOut i =>
      match s.tasks[i]? with
      | some ⟨.health, phase⟩ => if phase.done then none else some (s.put i .health .ended)
      | some ⟨.telemetry states, phase⟩ =>
          if phase.done then none else some (s.put i (.telemetry states) .ended)
      | _ => none

end Meshloom.HaDiscovery
