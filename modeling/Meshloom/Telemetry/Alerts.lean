import Meshloom.Dict
import Meshloom.Text
import Meshloom.Messages.Database

/-! The evaluation of telemetry alerts after each poll (`app/telemetry_alerts.py`): the
rules of a node, the rows that keep their latches, and the alerts that are dispatched. -/
namespace Meshloom.Telemetry
open Messages

/-- What a conversion with `int` or `float` comes to: `refused` is a `TypeError` or a
`ValueError`, `overflow` an `OverflowError`. -/
inductive Converted (α : Type) where
  | value (x : α)
  | refused
  | overflow

/-- The floating point numbers and what the rules do with them. The comparisons are false
for a number that is not one. -/
class Floats (F : Type) where
  lt : F → F → Bool
  le : F → F → Bool
  add : F → F → F
  sub : F → F → F
  zero : F
  one : F
  /-- `float(n)`, nothing when the number is too large. -/
  ofInt : Int → Option F
  /-- `int(x)`. -/
  trunc : F → Converted Int

/-- A value of a snapshot. A text comes with what `float` and `int` make of it. -/
inductive Raw (F : Type) where
  | null
  | int (n : Int)
  | float (x : F)
  | text (asFloat : Option F) (asInt : Option Int)
  | other

inductive SensorValue (F : Type) where
  | scalar (raw : Raw F)
  /-- with the values under `latitude` or `lat`, and `longitude` or `lon` -/
  | dict (latitude longitude : Option (Raw F))

structure Sensor (F : Type) where
  typeName : String
  channel : Raw F
  value : SensorValue F

/-- The fields of a snapshot that the rules read; one that is missing is null. -/
structure Snapshot (F : Type) where
  batteryVolts : Raw F
  noiseFloorDbm : Raw F
  lastRssiDbm : Raw F
  lastSnrDb : Raw F
  txQueueLen : Raw F
  lppSensors : Option (List (Sensor F))

inductive Op where
  | lt | gt
  deriving DecidableEq

/-- `TelemetryRuleSpec`. -/
structure RuleSpec (F : Type) where
  enabled : Option Bool
  op : Option Op
  threshold : Option F
  hysteresis : Option F

inductive RuleId where
  | battery | noise | rssi | snr | txQueue | silence | gpsLost
  /-- `lpp:type` -/
  | lppType (typeName : String)
  /-- `lpp:type:channel` -/
  | lpp (typeName : String) (channel : Int)
  deriving DecidableEq

structure RuleOverride (F : Type) where
  alerting : Option Bool
  rules : RuleId → Option (RuleSpec F)

/-- The settings that the evaluation reads. -/
structure Settings (F : Type) where
  trackedRepeaters : List Key
  trackedContacts : List Key
  rules : RuleId → Option (RuleSpec F)
  overrides : Key → Option (RuleOverride F)

/-- `ResolvedNodeRules`. -/
structure NodeRules (F : Type) where
  alerting : Bool
  rules : RuleId → Option (RuleSpec F)

/-- A row of `telemetry_alert_state`. A value that is not a number is stored as null. -/
structure Row (F : Type) where
  consecutiveMisses : Int
  lastFiredAt : Option Int
  lastValue : Option F

abbrev Rows (F : Type) := Dict (Key × RuleId) (Row F)

/-- What `_dispatch` hands on. -/
structure Alert (F : Type) where
  publicKey : Key
  name : List Char
  ruleId : RuleId
  value : Option F
  threshold : Option F
  op : Option Op

inductive Outcome where
  | success | miss | busy
  deriving DecidableEq

structure Poll (F : Type) where
  publicKey : Key
  name : List Char
  outcome : Outcome
  snapshot : Option (Snapshot F)
  allowGpsLost : Bool
  /-- `int(time.time())` -/
  now : Int
  /-- what `_history_had_lpp_fix` returns, nothing when it raises -/
  historyHadFix : Option Bool

/-- The rows that an evaluation leaves, its alerts, and whether it raised. -/
structure Result (F : Type) where
  rows : Rows F
  alerts : List (Alert F)
  raised : Bool

namespace Result
variable {F : Type}

def done (rows : Rows F) : Result F := ⟨rows, [], false⟩

/-- What was written before an exception stays. -/
def andThen (first : Result F) (next : Rows F → Result F) : Result F :=
  if first.raised then first
  else
    let second := next first.rows
    { second with alerts := first.alerts ++ second.alerts }

/-- A loop over a list. -/
def each {α : Type} (body : α → Rows F → Result F) : List α → Rows F → Result F
  | [], rows => done rows
  | item :: rest, rows => (body item rows).andThen (each body rest)

end Result

section Conversion
variable {F : Type} [Floats F]

/-- `float(raw)`. -/
def Raw.toFloat : Raw F → Converted F
  | .null | .other => .refused
  | .int n => match Floats.ofInt n with
    | some x => .value x
    | none => .overflow
  | .float x => .value x
  | .text asFloat _ => match asFloat with
    | some x => .value x
    | none => .refused

/-- `int(raw)`. -/
def Raw.toInt : Raw F → Converted Int
  | .null | .other => .refused
  | .int n => .value n
  | .float x => Floats.trunc x
  | .text _ asInt => match asInt with
    | some n => .value n
    | none => .refused

def defaultMissesBeforeAlert : Int := 2
def missesMin : Int := 1
def missesMax : Int := 4

/-- `_clamp_misses`; nothing when it raises. -/
def clampMisses (raw : F) : Option Int :=
  match Floats.trunc raw with
  | .value n => some (max missesMin (min missesMax n))
  | .refused => some defaultMissesBeforeAlert
  | .overflow => none

end Conversion

section Rules
variable {F : Type}

/-- `TelemetryRuleSpec()`. -/
def RuleSpec.unset : RuleSpec F := ⟨none, none, none, none⟩

/-- `_merge_spec`. -/
def mergeSpec (base patch : RuleSpec F) : RuleSpec F where
  enabled := patch.enabled.or base.enabled
  op := patch.op.or base.op
  threshold := patch.threshold.or base.threshold
  hysteresis := patch.hysteresis.or base.hysteresis

def resolveNodeRules (settings : Settings F) (publicKey : Key) : NodeRules F :=
  match settings.overrides (lower publicKey) with
  | none => { alerting := true, rules := settings.rules }
  | some override =>
    { alerting := override.alerting.getD true
      rules := fun ruleId => match override.rules ruleId with
        | none => settings.rules ruleId
        | some patch => some (mergeSpec ((settings.rules ruleId).getD .unset) patch) }

/-- The flag `enabled` of `DEFAULT_RULE_DICTS`. -/
def defaultEnabled : RuleId → Option Bool
  | .battery | .noise | .silence | .gpsLost => some true
  | .rssi | .snr | .txQueue => some false
  | .lppType typeName => if typeName = "temperature" then some false else none
  | .lpp _ _ => none

/-- `rule_is_enabled`, with the flag of the fallback. -/
def ruleIsEnabled (spec : RuleSpec F) (fallback : Option Bool) : Bool :=
  (spec.enabled.or fallback).getD false

end Rules

section Evaluation
variable {F : Type} [Floats F]

/-- `bool(state and state.get("last_fired_at"))`. -/
def latched (state : Option (Row F)) : Bool :=
  match state with
  | some row => row.lastFiredAt.any (· ≠ 0)
  | none => false

def applySilence (publicKey : Key) (name : List Char) (node : NodeRules F) (now : Int)
    (increment : Bool) (rows : Rows F) : Result F :=
  let spec := (node.rules .silence).getD .unset
  match spec.threshold.elim (some defaultMissesBeforeAlert) clampMisses with
  | none => { rows, alerts := [], raised := true }
  | some threshold =>
    let enabled := spec.enabled.getD true
    let state := rows.get? (publicKey, .silence)
    if increment then
      let misses := (state.elim 0 Row.consecutiveMisses) + 1
      let shouldFire := enabled ∧ threshold ≤ misses ∧ latched state = false
      let firedAt := if latched state then state.bind Row.lastFiredAt
        else if shouldFire then some now else none
      { rows := rows.set (publicKey, .silence)
          { consecutiveMisses := misses, lastFiredAt := firedAt, lastValue := Floats.ofInt misses }
        alerts := if shouldFire then
            [{ publicKey, name, ruleId := .silence, value := Floats.ofInt misses
               threshold := Floats.ofInt threshold, op := none }]
          else []
        raised := false }
    else
      .done (rows.set (publicKey, .silence)
        { consecutiveMisses := 0, lastFiredAt := none, lastValue := some Floats.zero })

def inAlarm (op : Op) (threshold value : F) : Bool :=
  match op with
  | .lt => Floats.lt value threshold
  | .gt => Floats.lt threshold value

def rearmed (op : Op) (threshold hysteresis value : F) : Bool :=
  match op with
  | .lt => Floats.le (Floats.add threshold hysteresis) value
  | .gt => Floats.le value (Floats.sub threshold hysteresis)

def applyGauge (publicKey : Key) (name : List Char) (ruleId : RuleId) (value : F) (spec : RuleSpec F)
    (now : Int) (rows : Rows F) : Result F :=
  match spec.threshold, spec.op with
  | some threshold, some op =>
    let hysteresis := spec.hysteresis.getD Floats.zero
    let state := rows.get? (publicKey, ruleId)
    let store (firedAt : Option Int) : Rows F := rows.set (publicKey, ruleId)
      { consecutiveMisses := 0, lastFiredAt := firedAt, lastValue := some value }
    if latched state then
      .done (store (if rearmed op threshold hysteresis value then none
        else state.bind Row.lastFiredAt))
    else if inAlarm op threshold value then
      { rows := store (some now)
        alerts := [{ publicKey, name, ruleId, value := some value, threshold := some threshold
                     op := some op }]
        raised := false }
    else .done (store none)
  | _, _ => .done rows

/-- `GAUGE_SNAPSHOT_FIELDS`. -/
def gaugeSnapshotFields : List (RuleId × (Snapshot F → Raw F)) :=
  [(.battery, Snapshot.batteryVolts), (.noise, Snapshot.noiseFloorDbm), (.rssi, Snapshot.lastRssiDbm),
    (.snr, Snapshot.lastSnrDb), (.txQueue, Snapshot.txQueueLen)]

/-- The body of the loop of `_apply_status_gauges`. -/
def applyStatusGauge (publicKey : Key) (name : List Char) (snapshot : Snapshot F) (node : NodeRules F)
    (now : Int) (gauge : RuleId × (Snapshot F → Raw F)) (rows : Rows F) : Result F :=
  match node.rules gauge.1 with
  | none => .done rows
  | some spec =>
    if ruleIsEnabled spec (defaultEnabled gauge.1) then
      match (gauge.2 snapshot).toFloat with
      | .refused => .done rows
      | .overflow => { rows, alerts := [], raised := true }
      | .value value =>
        if gauge.1 = .battery ∧ Floats.le value Floats.zero then .done rows
        else applyGauge publicKey name gauge.1 value spec now rows
    else .done rows

def applyStatusGauges (publicKey : Key) (name : List Char) (snapshot : Option (Snapshot F))
    (node : NodeRules F) (now : Int) (rows : Rows F) : Result F :=
  match snapshot with
  | none => .done rows
  | some snapshot =>
    Result.each (applyStatusGauge publicKey name snapshot node now) gaugeSnapshotFields rows

/-- `LPP_SCALAR_TYPES`. -/
def lppScalarTypes : List String :=
  ["temperature", "humidity", "barometer", "voltage", "current", "luminosity", "altitude", "power",
    "distance", "energy", "direction", "concentration"]

/-- `_lpp_type_name`. -/
def lppTypeName (sensor : Sensor F) : String := String.ofList (sensor.typeName.toList.map Char.toLower)

/-- `_lpp_scalar_value`. -/
def lppScalarValue (sensor : Sensor F) : Converted F :=
  if lppTypeName sensor ∈ lppScalarTypes then
    match sensor.value with
    | .scalar raw => raw.toFloat
    | .dict _ _ => .refused
  else .refused

/-- `_lpp_channel`. -/
def lppChannel (sensor : Sensor F) : Converted Int :=
  match sensor.channel.toInt with
  | .refused => .value 0
  | channel => channel

/-- What the first loop of `_apply_lpp_gauges` adds for a sensor to `present`. -/
def addPresent (present : Option (Dict (String × Int) F)) (sensor : Sensor F) :
    Option (Dict (String × Int) F) := do
  let present ← present
  match lppScalarValue sensor with
  | .refused => some present
  | .overflow => none
  | .value value => match lppChannel sensor with
    | .value channel => some (present.set (lppTypeName sensor, channel) value)
    | _ => none

/-- The rule for a type and channel: that of the channel over that of the type. -/
def lppSpec (node : NodeRules F) (typeName : String) (channel : Int) : Option (RuleSpec F) :=
  match node.rules (.lpp typeName channel) with
  | some channelRule => some (mergeSpec ((node.rules (.lppType typeName)).getD .unset) channelRule)
  | none => node.rules (.lppType typeName)

/-- The body of the second loop of `_apply_lpp_gauges`. -/
def applyLppGauge (publicKey : Key) (name : List Char) (node : NodeRules F) (now : Int)
    (entry : (String × Int) × F) (rows : Rows F) : Result F :=
  match lppSpec node entry.1.1 entry.1.2 with
  | none => .done rows
  | some spec =>
    if ruleIsEnabled spec none ∧ spec.threshold.isSome ∧ spec.op.isSome then
      applyGauge publicKey name (.lpp entry.1.1 entry.1.2) entry.2 spec now rows
    else .done rows

def applyLppGauges (publicKey : Key) (name : List Char) (snapshot : Option (Snapshot F))
    (node : NodeRules F) (now : Int) (rows : Rows F) : Result F :=
  match snapshot.bind Snapshot.lppSensors with
  | none => .done rows
  | some sensors => match sensors.foldl addPresent (some Dict.empty) with
    | none => { rows, alerts := [], raised := true }
    | some present => Result.each (applyLppGauge publicKey name node now) present.entries rows

/-- `float` of a part of a position that may be missing. -/
def positionPart (raw : Option (Raw F)) : Converted F := (raw.getD .null).toFloat

/-- `lpp_has_fix`; nothing when it raises. -/
def lppHasFix : List (Sensor F) → Option Bool
  | [] => some false
  | sensor :: rest => match sensor.value with
    | .scalar _ => lppHasFix rest
    | .dict latitude longitude =>
      if lppTypeName sensor ∈ ["gps", "gps_location", "location"] ∨ latitude.isSome then
        match positionPart latitude, positionPart longitude with
        | .overflow, _ => none
        | .refused, _ => lppHasFix rest
        | .value _, .overflow => none
        | .value _, .refused => lppHasFix rest
        | .value lat, .value lon =>
          if (Floats.le lat Floats.zero ∧ Floats.le Floats.zero lat) ∧
              Floats.le lon Floats.zero ∧ Floats.le Floats.zero lon then lppHasFix rest
          else some true
      else lppHasFix rest

def applyGpsLost (publicKey : Key) (name : List Char) (snapshot : Option (Snapshot F))
    (node : NodeRules F) (now : Int) (historyHadFix : Option Bool) (rows : Rows F) : Result F :=
  let spec := (node.rules .gpsLost).getD .unset
  if ruleIsEnabled spec (some true) then
    let state := rows.get? (publicKey, .gpsLost)
    let store (firedAt : Option Int) (value : F) : Rows F := rows.set (publicKey, .gpsLost)
      { consecutiveMisses := 0, lastFiredAt := firedAt, lastValue := some value }
    match ((snapshot.bind Snapshot.lppSensors).elim (some false) lppHasFix) with
    | none => { rows, alerts := [], raised := true }
    | some currentFix =>
      match (state.bind Row.lastValue).elim historyHadFix fun last => some (Floats.le Floats.one last) with
      | none => { rows, alerts := [], raised := true }
      | some previously =>
        if currentFix then .done (store none Floats.one)
        else if previously ∧ latched state = false then
          { rows := store (some now) Floats.zero
            alerts := [{ publicKey, name, ruleId := .gpsLost, value := some Floats.zero
                         threshold := some Floats.one, op := none }]
            raised := false }
        else .done (store (if latched state then state.bind Row.lastFiredAt else none) Floats.zero)
  else .done rows

/-- `(name or "").strip() or public_key[:12]`. -/
def label (name : List Char) (publicKey : Key) : List Char :=
  let stripped := Text.strip name
  if stripped = [] then publicKey.take 12 else stripped

/-- The end of `_note_telemetry_poll`, for a poll that was answered. -/
def applySuccess (publicKey : Key) (name : List Char) (node : NodeRules F) (poll : Poll F)
    (rows : Rows F) : Result F :=
  let gauges := (applySilence publicKey name node poll.now false rows).andThen
    (applyStatusGauges publicKey name poll.snapshot node poll.now)
  if poll.allowGpsLost then
    (gauges.andThen (applyLppGauges publicKey name poll.snapshot node poll.now)).andThen
      (applyGpsLost publicKey name poll.snapshot node poll.now poll.historyHadFix)
  else gauges

/-- `note_telemetry_poll`: an exception ends the evaluation and goes no further. -/
def noteTelemetryPoll (settings : Settings F) (rows : Rows F) (poll : Poll F) : Result F :=
  let key := poll.publicKey
  if poll.outcome = .busy ∨ key = [] then .done rows
  else if key ∉ settings.trackedRepeaters ∧ key ∉ settings.trackedContacts then .done rows
  else
    let node := resolveNodeRules settings key
    if node.alerting = false then .done rows
    else
      let name := label poll.name key
      if poll.outcome = .miss then applySilence key name node poll.now true rows
      else applySuccess key name node poll rows

/-- The rows after a run of polls, from none. -/
def rowsAfter (settings : Settings F) (polls : List (Poll F)) : Rows F :=
  polls.foldl (fun rows poll => (noteTelemetryPoll settings rows poll).rows) Dict.empty

/-- The alerts of a rule of a node that a poll dispatches after others. -/
def alertsAt (settings : Settings F) (publicKey : Key) (ruleId : RuleId) (before : List (Poll F))
    (poll : Poll F) : List (Alert F) :=
  (noteTelemetryPoll settings (rowsAfter settings before) poll).alerts.filter fun alert =>
    alert.publicKey = publicKey ∧ alert.ruleId = ruleId

end Evaluation

end Meshloom.Telemetry
