import Meshloom.Text

/-! The discovery configs of the Home Assistant module (`app/fanout/mqtt_ha.py`): the topic of each,
and of its payload what says whose entity it is. The texts, units and classes it is shown with are
left out. -/
namespace Meshloom.HaDiscovery

abbrev Topic := String

def nodeId (publicKey : String) : String :=
  String.ofList ((publicKey.toList.take 12).map Char.toLower)

def shortKey (publicKey : String) : String := String.ofList (publicKey.toList.take 12)

/-- What `or` and `if` make of an optional text: the empty one does not count. -/
def truthy (text : Option String) : Option String := text.filter (· ≠ "")

structure Device where
  identifiers : List String
  name : String
  model : String
  viaDevice : Option String
  deriving DecidableEq

def devicePayload (publicKey name model : String) (viaDeviceKey : Option String) : Device where
  identifiers := ["meshcore_" ++ nodeId publicKey]
  name := if name = "" then shortKey publicKey else name
  model
  viaDevice := (truthy viaDeviceKey).map fun key => "meshcore_" ++ nodeId key

structure Config where
  uniqueId : String
  device : Device
  /-- `state_topic`, or the `json_attributes_topic` of a tracker. -/
  stateTopic : Topic
  deriving DecidableEq

def sensorTopic (nid objectId : String) : Topic :=
  "homeassistant/sensor/meshcore_" ++ nid ++ "/" ++ objectId ++ "/config"

/-- A sensor of a device, of whatever kind. -/
def sensorConfig (nid : String) (device : Device) (stateTopic : Topic) (objectId : String) :
    Topic × Config :=
  (sensorTopic nid objectId, ⟨"meshcore_" ++ nid ++ "_" ++ objectId, device, stateTopic⟩)

/-- The `object_id`s of `_RADIO_SENSORS`. -/
def radioSensors : List String :=
  ["noise_floor", "battery", "uptime", "last_rssi", "last_snr", "tx_airtime", "rx_airtime",
    "packets_received", "packets_sent", "recv_errors"]

/-- The `object_id`s of `_REPEATER_SENSORS`. -/
def repeaterSensors : List String :=
  ["battery_voltage", "noise_floor", "last_rssi", "last_snr", "packets_received", "packets_sent",
    "recv_errors", "uptime"]

/-- An element of `lpp_sensors`, with the defaults of what is missing. -/
structure Sensor where
  typeName : String := "unknown"
  channel : Int := 0
  /-- Its value is a dict with a latitude and a longitude. -/
  coordinates : Bool := false

def lppSensorKey (typeName : String) (channel : Int) : String :=
  "lpp_" ++ typeName ++ "_ch" ++ toString channel

def isGeoSensor (sensor : Sensor) : Bool := sensor.typeName == "gps" || sensor.coordinates

/-- Keys for sensors, the bases of those before them given: the second of a base is its `_2`. -/
def numberedKeys (seen : List String) : List Sensor → List String
  | [] => []
  | sensor :: rest =>
      let base := lppSensorKey sensor.typeName sensor.channel
      let n := seen.count base + 1
      (if n = 1 then base else base ++ "_" ++ toString n) :: numberedKeys (base :: seen) rest

/-- `_assign_lpp_keys`, its keys. -/
def assignLppKeys (sensors : List Sensor) : List String :=
  numberedKeys [] (sensors.filter fun sensor => !isGeoSensor sensor)

def legacyGeoSensorTopics (nid : String) (sensors : List Sensor) : List Topic :=
  (numberedKeys [] (sensors.filter isGeoSensor)).map (sensorTopic nid)

def lppDiscoveryConfigs (pubKey : String) (device : Device) (sensors : List Sensor)
    (stateTopic : Topic) : List (Topic × Config) :=
  (assignLppKeys sensors).map (sensorConfig (nodeId pubKey) device stateTopic)

def radioDiscoveryConfigs (topicPrefix radioKey radioName : String) : List (Topic × Config) :=
  let nid := nodeId radioKey
  let device := devicePayload radioKey radioName "Radio" none
  let stateTopic := topicPrefix ++ "/" ++ nid ++ "/health"
  ("homeassistant/binary_sensor/meshcore_" ++ nid ++ "/connected/config",
      ⟨"meshcore_" ++ nid ++ "_connected", device, stateTopic⟩) ::
    radioSensors.map (sensorConfig nid device stateTopic)

def repeaterDiscoveryConfigs (topicPrefix pubKey name : String) (radioKey : Option String) :
    List (Topic × Config) :=
  let nid := nodeId pubKey
  repeaterSensors.map (sensorConfig nid (devicePayload pubKey name "Repeater" radioKey)
    (topicPrefix ++ "/" ++ nid ++ "/telemetry"))

def contactTrackerDiscoveryConfig (topicPrefix pubKey name : String) (radioKey : Option String) :
    Topic × Config :=
  let nid := nodeId pubKey
  ("homeassistant/device_tracker/meshcore_" ++ nid ++ "/config",
    ⟨"meshcore_" ++ nid ++ "_tracker", devicePayload pubKey name "Node" radioKey,
      topicPrefix ++ "/" ++ nid ++ "/gps"⟩)

def messageEventDiscoveryConfig (topicPrefix radioKey radioName : String) : Topic × Config :=
  let nid := nodeId radioKey
  ("homeassistant/event/meshcore_" ++ nid ++ "/messages/config",
    ⟨"meshcore_" ++ nid ++ "_messages", devicePayload radioKey radioName "Radio" none,
      topicPrefix ++ "/" ++ nid ++ "/events/message"⟩)

/-- A config of a radio is one of the radio with this key. -/
def OfRadio (radioKey : Option String) (config : Config) : Prop :=
  config.device.model = "Radio" →
    ∃ key, radioKey = some key ∧ config.device.identifiers = ["meshcore_" ++ nodeId key]

theorem devicePayload_model :
    (devicePayload publicKey name model viaDeviceKey).model = model := rfl

/-- The config of a node that is no radio says nothing about the radio's. -/
theorem ofRadio_other (other : config.device.model ≠ "Radio") : OfRadio radioKey config :=
  fun radio => (other radio).elim

theorem radioDiscoveryConfigs_ofRadio (topicPrefix key radioName : String) :
    ∀ entry ∈ radioDiscoveryConfigs topicPrefix key radioName, OfRadio (some key) entry.2 := by
  intro entry member _
  simp only [radioDiscoveryConfigs, List.mem_cons, List.mem_map] at member
  obtain rfl | ⟨objectId, _, rfl⟩ := member
  · exact ⟨key, rfl, rfl⟩
  · exact ⟨key, rfl, rfl⟩

theorem messageEventDiscoveryConfig_ofRadio (topicPrefix key radioName : String) :
    OfRadio (some key) (messageEventDiscoveryConfig topicPrefix key radioName).2 :=
  fun _ => ⟨key, rfl, rfl⟩

theorem lppDiscoveryConfigs_ofRadio (other : device.model ≠ "Radio") :
    ∀ entry ∈ lppDiscoveryConfigs pubKey device sensors stateTopic, OfRadio radioKey entry.2 := by
  intro entry member
  obtain ⟨objectId, _, rfl⟩ := List.mem_map.mp member
  exact ofRadio_other other

theorem repeaterDiscoveryConfigs_ofRadio (radioKey : Option String) :
    ∀ entry ∈ repeaterDiscoveryConfigs topicPrefix pubKey name radioKey,
      OfRadio radioKey entry.2 := by
  intro entry member
  obtain ⟨objectId, _, rfl⟩ := List.mem_map.mp member
  have node : (devicePayload pubKey name "Repeater" radioKey).model ≠ "Radio" := by
    rw [devicePayload_model]
    decide
  exact ofRadio_other node

theorem contactTrackerDiscoveryConfig_ofRadio (topicPrefix pubKey name : String)
    (radioKey : Option String) :
    OfRadio radioKey (contactTrackerDiscoveryConfig topicPrefix pubKey name radioKey).2 := by
  have node : (devicePayload pubKey name "Node" radioKey).model ≠ "Radio" := by
    rw [devicePayload_model]
    decide
  exact ofRadio_other node

end Meshloom.HaDiscovery
