import Meshloom.Latch
import Meshloom.Telemetry.Alerts

/-! Each gauge rule of a node is an alarm with a latch over the readings of the node, and
the silence rule counts the misses since the last answer: what an evaluation does to the row
of one rule, and from it what whole runs of polls dispatch. -/
namespace Meshloom.Telemetry
open Messages
variable {F : Type} {rows : Rows F} {k : Key} {r : RuleId}

/-- The alerts of a rule of a node. -/
def ofRule (alerts : List (Alert F)) (k : Key) (r : RuleId) : List (Alert F) :=
  alerts.filter fun alert => alert.publicKey = k ∧ alert.ruleId = r

theorem ofRule_append (first second : List (Alert F)) :
    ofRule (first ++ second) k r = ofRule first k r ++ ofRule second k r := List.filter_append ..

/-- An alert of another rule. -/
theorem ofRule_other {alert : Alert F} (other : (k, r) ≠ (alert.publicKey, alert.ruleId)) :
    ofRule [alert] k r = [] := by
  simp only [ofRule, List.filter_eq_nil_iff, List.mem_singleton, forall_eq, decide_eq_true_eq]
  rintro ⟨rfl, rfl⟩
  exact other rfl

namespace Result

/-- The evaluation leaves a rule alone. -/
def Keeps (result : Result F) (rows : Rows F) (k : Key) (r : RuleId) : Prop :=
  result.rows.get? (k, r) = rows.get? (k, r) ∧ ofRule result.alerts k r = []

/-- The evaluation moves the latch of a rule by a reading in alarm or on the side that rearms,
and dispatches one alert when it fires. -/
def Moves (result : Result F) (rows : Rows F) (k : Key) (r : RuleId) (alarm rearm : Bool) : Prop :=
  latched (result.rows.get? (k, r)) =
      (if latched (rows.get? (k, r)) then !rearm else alarm) ∧
    (ofRule result.alerts k r).length =
      if latched (rows.get? (k, r)) = false ∧ alarm = true then 1 else 0

theorem keeps_done : (done rows).Keeps rows k r := ⟨rfl, rfl⟩

theorem keeps_raised : (⟨rows, [], true⟩ : Result F).Keeps rows k r := ⟨rfl, rfl⟩

/-- Without a reading the latch stays as it is. -/
theorem Keeps.moves {result : Result F} (keeps : result.Keeps rows k r) :
    result.Moves rows k r false false := by
  obtain ⟨row, alerts⟩ := keeps
  rw [Moves, row, alerts]
  cases latched (rows.get? (k, r)) <;> simp

/-- What comes after and leaves the rule alone does not matter, even when it raises. -/
theorem andThen_keeps {first : Result F} {next : Rows F → Result F}
    (later : ∀ rows, (next rows).Keeps rows k r) :
    (first.andThen next).rows.get? (k, r) = first.rows.get? (k, r) ∧
      ofRule (first.andThen next).alerts k r = ofRule first.alerts k r := by
  rw [Result.andThen]
  split
  · exact ⟨rfl, rfl⟩
  · obtain ⟨row, alerts⟩ := later first.rows
    exact ⟨row, by rw [ofRule_append, alerts, List.append_nil]⟩

theorem Keeps.andThen {first : Result F} {next : Rows F → Result F} (keeps : first.Keeps rows k r)
    (later : ∀ rows, (next rows).Keeps rows k r) : (first.andThen next).Keeps rows k r :=
  ⟨(andThen_keeps later).1.trans keeps.1, (andThen_keeps later).2.trans keeps.2⟩

theorem Moves.andThen {first : Result F} {next : Rows F → Result F} {alarm rearm : Bool}
    (moves : first.Moves rows k r alarm rearm) (later : ∀ rows, (next rows).Keeps rows k r) :
    (first.andThen next).Moves rows k r alarm rearm := by
  rw [Moves, (andThen_keeps later).1, (andThen_keeps later).2]
  exact moves

/-- What comes before and leaves the rule alone does not matter unless it raises. -/
theorem Moves.after {first : Result F} {next : Rows F → Result F} {alarm rearm : Bool}
    (keeps : first.Keeps rows k r) (sound : first.raised = false)
    (moves : ∀ rows, (next rows).Moves rows k r alarm rearm) :
    (first.andThen next).Moves rows k r alarm rearm := by
  obtain ⟨row, alerts⟩ := moves first.rows
  rw [keeps.1] at row alerts
  rw [Result.andThen, if_neg (by simp [sound])]
  refine ⟨row, ?_⟩
  rw [ofRule_append, keeps.2, List.nil_append]
  exact alerts

section Each
variable {α : Type} {body : α → Rows F → Result F} {items : List α}

theorem each_keeps (keeps : ∀ item ∈ items, ∀ rows, (body item rows).Keeps rows k r) (rows : Rows F) :
    (each body items rows).Keeps rows k r := by
  induction items generalizing rows with
  | nil => exact keeps_done
  | cons item rest ih =>
      exact (keeps item List.mem_cons_self rows).andThen
        fun rows => ih (fun other member => keeps other (List.mem_cons_of_mem _ member)) rows

theorem andThen_raised {first : Result F} {next : Rows F → Result F} (sound : first.raised = false)
    (later : ∀ rows, (next rows).raised = false) : (first.andThen next).raised = false := by
  rw [Result.andThen, if_neg (by simp [sound])]
  exact later first.rows

theorem each_raised (sound : ∀ item ∈ items, ∀ rows, (body item rows).raised = false) (rows : Rows F) :
    (each body items rows).raised = false := by
  induction items generalizing rows with
  | nil => rfl
  | cons item rest ih =>
      exact andThen_raised (sound item List.mem_cons_self rows)
        fun rows => ih (fun other member => sound other (List.mem_cons_of_mem _ member)) rows

/-- In a loop over distinct rules, the item of a rule alone moves its latch. -/
theorem each_moves (name : α → RuleId) {item : α} {alarm rearm : Bool} (member : item ∈ items)
    (distinct : (items.map name).Nodup)
    (sound : ∀ item ∈ items, ∀ rows, (body item rows).raised = false)
    (others : ∀ other ∈ items, name other ≠ name item → ∀ rows, (body other rows).Keeps rows k r)
    (moves : ∀ rows, (body item rows).Moves rows k r alarm rearm) (rows : Rows F) :
    (each body items rows).Moves rows k r alarm rearm := by
  induction items generalizing rows with
  | nil => contradiction
  | cons first rest ih =>
      obtain ⟨fresh, distinct⟩ := List.nodup_cons.mp distinct
      obtain rfl | later := List.mem_cons.mp member
      · refine (moves rows).andThen fun rows => each_keeps ?_ rows
        intro other found
        refine others other (List.mem_cons_of_mem _ found) ?_
        intro same
        exact fresh (List.mem_map.mpr ⟨other, found, same⟩)
      · refine Moves.after (others first List.mem_cons_self ?_ rows) (sound first List.mem_cons_self rows)
          (fun rows => ih later distinct (fun other found => sound other (List.mem_cons_of_mem _ found))
            (fun other found => others other (List.mem_cons_of_mem _ found)) rows)
        intro same
        exact fresh (List.mem_map.mpr ⟨item, later, same.symm⟩)

end Each
end Result

section Frames
variable [Floats F] {key : Key} {name : List Char} {node : NodeRules F} {now : Int}

omit [Floats F] in
/-- Storing the row of another rule. -/
theorem get?_set_other {id : RuleId} {row : Row F} (other : (k, r) ≠ (key, id)) :
    (rows.set (key, id) row).get? (k, r) = rows.get? (k, r) := by
  rw [Dict.get?_set, if_neg other]

theorem applySilence_keeps {increment : Bool} (other : (k, r) ≠ (key, .silence)) :
    (applySilence key name node now increment rows).Keeps rows k r := by
  rw [applySilence]
  split
  · exact Result.keeps_raised
  · split
    · refine ⟨get?_set_other other, ?_⟩
      dsimp only
      split
      · exact ofRule_other other
      · rfl
    · exact ⟨get?_set_other other, rfl⟩

theorem applyGauge_keeps {id : RuleId} {value : F} {spec : RuleSpec F} (other : (k, r) ≠ (key, id)) :
    (applyGauge key name id value spec now rows).Keeps rows k r := by
  rw [applyGauge]
  split
  · dsimp only
    split
    · exact ⟨get?_set_other other, rfl⟩
    · split
      · exact ⟨get?_set_other other, ofRule_other other⟩
      · exact ⟨get?_set_other other, rfl⟩
  · exact Result.keeps_done

theorem applyStatusGauge_keeps {snapshot : Snapshot F} {gauge : RuleId × (Snapshot F → Raw F)}
    (other : (k, r) ≠ (key, gauge.1)) :
    (applyStatusGauge key name snapshot node now gauge rows).Keeps rows k r := by
  rw [applyStatusGauge]
  split
  · exact Result.keeps_done
  · split
    · split
      · exact Result.keeps_done
      · exact Result.keeps_raised
      · split
        · exact Result.keeps_done
        · exact applyGauge_keeps other
    · exact Result.keeps_done

theorem applyStatusGauges_keeps {snapshot : Option (Snapshot F)}
    (other : k = key →
      ∀ gauge ∈ (gaugeSnapshotFields : List (RuleId × (Snapshot F → Raw F))), r ≠ gauge.1) :
    (applyStatusGauges key name snapshot node now rows).Keeps rows k r := by
  cases snapshot with
  | none => exact Result.keeps_done
  | some snapshot =>
    refine Result.each_keeps ?_ rows
    intro gauge member rows
    apply applyStatusGauge_keeps
    intro same
    obtain ⟨rfl, rfl⟩ := Prod.mk.inj same
    exact other rfl gauge member rfl

theorem applyLppGauge_keeps {entry : (String × Int) × F}
    (other : (k, r) ≠ (key, .lpp entry.1.1 entry.1.2)) :
    (applyLppGauge key name node now entry rows).Keeps rows k r := by
  rw [applyLppGauge]
  split
  · exact Result.keeps_done
  · split
    · exact applyGauge_keeps other
    · exact Result.keeps_done

theorem applyLppGauges_keeps {snapshot : Option (Snapshot F)}
    (other : k = key → ∀ typeName channel, r ≠ .lpp typeName channel) :
    (applyLppGauges key name snapshot node now rows).Keeps rows k r := by
  rw [applyLppGauges]
  split
  · exact Result.keeps_done
  · split
    · exact Result.keeps_raised
    · refine Result.each_keeps ?_ rows
      intro entry _ rows
      apply applyLppGauge_keeps
      intro same
      obtain ⟨rfl, rfl⟩ := Prod.mk.inj same
      exact other rfl _ _ rfl

theorem applyGpsLost_keeps {snapshot : Option (Snapshot F)} {history : Option Bool}
    (other : (k, r) ≠ (key, .gpsLost)) :
    (applyGpsLost key name snapshot node now history rows).Keeps rows k r := by
  rw [applyGpsLost]
  dsimp only
  split
  · split
    · exact Result.keeps_raised
    · split
      · exact Result.keeps_raised
      · split
        · exact ⟨get?_set_other other, rfl⟩
        · split
          · exact ⟨get?_set_other other, ofRule_other other⟩
          · exact ⟨get?_set_other other, rfl⟩
  · exact Result.keeps_done

/-- A poll touches the rules of its own node only. -/
theorem noteTelemetryPoll_keeps {settings : Settings F} {poll : Poll F} (other : k ≠ poll.publicKey) :
    (noteTelemetryPoll settings rows poll).Keeps rows k r := by
  have apart (id : RuleId) : (k, r) ≠ (poll.publicKey, id) := fun same => other (Prod.mk.inj same).1
  rw [noteTelemetryPoll]
  dsimp only
  split
  · exact Result.keeps_done
  · split
    · exact Result.keeps_done
    · split
      · exact Result.keeps_done
      · split
        · exact applySilence_keeps (apart _)
        · rw [applySuccess]
          split
          · refine ((Result.Keeps.andThen (applySilence_keeps (apart _)) ?_).andThen ?_).andThen ?_
            · exact fun rows => applyStatusGauges_keeps fun same => (other same).elim
            · exact fun rows => applyLppGauges_keeps fun same => (other same).elim
            · exact fun rows => applyGpsLost_keeps (apart _)
          · exact Result.Keeps.andThen (applySilence_keeps (apart _))
              fun rows => applyStatusGauges_keeps fun same => (other same).elim

end Frames

section Readings
variable [Floats F]

def Converted.value? {α : Type} : Converted α → Option α
  | .value x => some x
  | _ => none

def Converted.overflows {α : Type} : Converted α → Bool
  | .overflow => true
  | _ => false

/-- The reading of a status rule: the number in its field, but for a battery that is not
above zero. -/
def statusReading (snapshot : Snapshot F) (r : RuleId) : Option F := do
  let field ← gaugeSnapshotFields.lookup r
  let x ← (field snapshot).toFloat.value?
  if r = .battery ∧ Floats.le x Floats.zero then none else some x

/-- The reading of a sensor for a type and channel. -/
def sensorReading (typeName : String) (channel : Int) (sensor : Sensor F) : Option F :=
  if lppTypeName sensor = typeName ∧ (lppChannel sensor).value? = some channel then
    (lppScalarValue sensor).value?
  else none

/-- The reading of a sensor rule: that of the last sensor of its type and channel. -/
def lppReading (snapshot : Snapshot F) : RuleId → Option F
  | .lpp typeName channel =>
    (snapshot.lppSensors.getD []).reverse.findSome? (sensorReading typeName channel)
  | _ => none

/-- The reading of a rule in a poll that was answered. -/
def answered (poll : Poll F) (r : RuleId) : Option F :=
  poll.snapshot.bind fun snapshot =>
    (statusReading snapshot r).or (if poll.allowGpsLost then lppReading snapshot r else none)

/-- The reading that a poll has for a rule of a node. -/
def reading (k : Key) (r : RuleId) (poll : Poll F) : Option F :=
  if poll.publicKey = k ∧ poll.outcome = .success then answered poll r else none

/-- A rule that compares readings. -/
structure Gauge (F : Type) where
  op : Op
  threshold : F
  hysteresis : F

def activeGauge (spec : RuleSpec F) (fallback : Option Bool) : Option (Gauge F) :=
  if ruleIsEnabled spec fallback then do
    let threshold ← spec.threshold
    let op ← spec.op
    return { op, threshold, hysteresis := spec.hysteresis.getD Floats.zero }
  else none

/-- The gauge rules of a node that are enabled and complete. -/
def gaugeOf (node : NodeRules F) : RuleId → Option (Gauge F)
  | .lpp typeName channel => (lppSpec node typeName channel).bind (activeGauge · none)
  | .silence | .gpsLost | .lppType _ => none
  | r => (node.rules r).bind (activeGauge · (defaultEnabled r))

def Gauge.alarms (gauge : Gauge F) (value : F) : Bool := inAlarm gauge.op gauge.threshold value

def Gauge.rearms (gauge : Gauge F) (value : F) : Bool :=
  rearmed gauge.op gauge.threshold gauge.hysteresis value

/-- Something of a reading, if there is a rule and a reading. -/
def judge (test : Gauge F → F → Bool) (gauge : Option (Gauge F)) (reading : Option F) : Bool :=
  match gauge, reading with
  | some gauge, some value => test gauge value
  | _, _ => false

end Readings

section Gauges
variable [Floats F] {key : Key} {name : List Char} {node : NodeRules F} {now : Int}

omit [Floats F] in
theorem latched_some (row : Row F) : latched (some row) = row.lastFiredAt.any (· ≠ 0) := rfl

/-- Without a rule or without a reading nothing happens. -/
theorem Result.Keeps.judged {result : Result F} {gauge : Option (Gauge F)} {reading : Option F}
    (keeps : result.Keeps rows k r) (idle : gauge = none ∨ reading = none) :
    result.Moves rows k r (judge Gauge.alarms gauge reading) (judge Gauge.rearms gauge reading) := by
  have nothing (test : Gauge F → F → Bool) : judge test gauge reading = false := by
    obtain rfl | rfl := idle
    · rfl
    · cases gauge <;> rfl
  rw [nothing, nothing]
  exact keeps.moves

theorem applyGauge_moves {id : RuleId} {value : F} {spec : RuleSpec F} {fallback : Option Bool}
    (running : now ≠ 0) (enabled : ruleIsEnabled spec fallback = true) :
    (applyGauge key name id value spec now rows).Moves rows key id
      (judge Gauge.alarms (activeGauge spec fallback) (some value))
      (judge Gauge.rearms (activeGauge spec fallback) (some value)) := by
  rw [applyGauge]
  split
  · rename_i threshold op hasThreshold hasOp
    simp only [activeGauge, enabled, hasThreshold, hasOp, if_true, judge, Option.bind_eq_bind,
      Option.bind_some, Option.pure_def, Gauge.alarms, Gauge.rearms]
    have stored (row : Row F) : (rows.set (key, id) row).get? (key, id) = some row := by
      rw [Dict.get?_set, if_pos rfl]
    split
    · rename_i set
      refine ⟨?_, by simp [Result.done, ofRule, set]⟩
      simp only [Result.done, stored, set, if_true]
      cases state : rows.get? (key, id) with
      | none => simp [state, latched] at set
      | some row =>
          rw [state] at set
          cases rearmed op threshold (spec.hysteresis.getD Floats.zero) value
          · simpa [latched_some] using set
          · simp [latched_some]
    · rename_i free
      have free : latched (rows.get? (key, id)) = false := by simpa using free
      split
      · rename_i alarm
        constructor
        · simp [stored, free, alarm, latched_some, running]
        · simp [free, alarm, ofRule]
      · rename_i quiet
        have quiet : inAlarm op threshold value = false := by simpa using quiet
        constructor
        · simp [Result.done, stored, free, quiet, latched_some]
        · simp [Result.done, quiet, ofRule]
  · rename_i incomplete
    have inactive : activeGauge spec fallback = none := by
      rw [activeGauge, if_pos enabled]
      cases hasThreshold : spec.threshold with
      | none => rfl
      | some threshold =>
          cases hasOp : spec.op with
          | none => rfl
          | some op => exact (incomplete threshold op hasThreshold hasOp).elim
    exact Result.keeps_done.judged (.inl inactive)

theorem applyGauge_raised {id : RuleId} {value : F} {spec : RuleSpec F} :
    (applyGauge key name id value spec now rows).raised = false := by
  rw [applyGauge]
  split
  · dsimp only
    split
    · rfl
    · split
      · rfl
      · rfl
  · rfl

/-- The table of the status rules: the field of each, and their gauges. -/
theorem gaugeSnapshotFields_spec (node : NodeRules F) {gauge : RuleId × (Snapshot F → Raw F)}
    (member : gauge ∈ gaugeSnapshotFields) :
    gaugeSnapshotFields.lookup gauge.1 = some gauge.2 ∧
      gaugeOf node gauge.1 = (node.rules gauge.1).bind (activeGauge · (defaultEnabled gauge.1)) := by
  simp only [gaugeSnapshotFields, List.mem_cons, List.not_mem_nil, or_false] at member
  obtain rfl | rfl | rfl | rfl | rfl := member <;> exact ⟨rfl, rfl⟩

omit [Floats F] in
/-- The table has neither the silence rule nor a sensor rule. -/
theorem gaugeSnapshotFields_kind {gauge : RuleId × (Snapshot F → Raw F)}
    (member : gauge ∈ gaugeSnapshotFields) :
    gauge.1 ≠ .silence ∧ ∀ typeName channel, gauge.1 ≠ .lpp typeName channel := by
  simp only [gaugeSnapshotFields, List.mem_cons, List.not_mem_nil, or_false] at member
  obtain rfl | rfl | rfl | rfl | rfl := member <;> simp

theorem applyStatusGauge_moves {snapshot : Snapshot F} {gauge : RuleId × (Snapshot F → Raw F)}
    (running : now ≠ 0) (member : gauge ∈ gaugeSnapshotFields)
    (fits : (gauge.2 snapshot).toFloat.overflows = false) (rows : Rows F) :
    (applyStatusGauge key name snapshot node now gauge rows).Moves rows key gauge.1
        (judge Gauge.alarms (gaugeOf node gauge.1) (statusReading snapshot gauge.1))
        (judge Gauge.rearms (gaugeOf node gauge.1) (statusReading snapshot gauge.1)) ∧
      (applyStatusGauge key name snapshot node now gauge rows).raised = false := by
  obtain ⟨field, gaugeEq⟩ := gaugeSnapshotFields_spec node member
  have value : statusReading snapshot gauge.1 = (gauge.2 snapshot).toFloat.value?.bind fun x =>
      if gauge.1 = .battery ∧ Floats.le x Floats.zero then none else some x := by
    rw [statusReading, field]
    rfl
  have idle (nothing : gaugeOf node gauge.1 = none ∨ statusReading snapshot gauge.1 = none) :
      (Result.done rows).Moves rows key gauge.1
        (judge Gauge.alarms (gaugeOf node gauge.1) (statusReading snapshot gauge.1))
        (judge Gauge.rearms (gaugeOf node gauge.1) (statusReading snapshot gauge.1)) ∧
      (Result.done rows).raised = false := ⟨Result.keeps_done.judged nothing, rfl⟩
  rw [applyStatusGauge]
  cases rule : node.rules gauge.1 with
  | none =>
      exact idle (.inl (by rw [gaugeEq, rule]; rfl))
  | some spec =>
      rw [rule, Option.bind_some] at gaugeEq
      dsimp only
      split
      · rename_i enabled
        cases converted : (gauge.2 snapshot).toFloat with
        | refused => exact idle (.inr (by rw [value, converted]; rfl))
        | overflow =>
            rw [converted] at fits
            contradiction
        | value x =>
            dsimp only
            split
            · rename_i flat
              refine idle (.inr ?_)
              rw [value, converted]
              exact if_pos flat
            · rename_i usable
              have read : statusReading snapshot gauge.1 = some x := by
                rw [value, converted]
                exact if_neg usable
              rw [read, gaugeEq]
              exact ⟨applyGauge_moves running enabled, applyGauge_raised⟩
      · rename_i disabled
        refine idle (.inl ?_)
        rw [gaugeEq, activeGauge, if_neg disabled]

/-- No number in the snapshot is too large for its conversion. -/
structure Snapshot.Fits (snapshot : Snapshot F) : Prop where
  status : ∀ gauge ∈ gaugeSnapshotFields, (gauge.2 snapshot).toFloat.overflows = false
  sensors : ∀ sensors, snapshot.lppSensors = some sensors → ∀ sensor ∈ sensors,
    (lppScalarValue sensor).overflows = false ∧ (lppChannel sensor).overflows = false

theorem applyStatusGauges_moves {snapshot : Snapshot F} (running : now ≠ 0) (fits : snapshot.Fits)
    (rows : Rows F) :
    (applyStatusGauges key name (some snapshot) node now rows).Moves rows key r
        (judge Gauge.alarms (gaugeOf node r) (statusReading snapshot r))
        (judge Gauge.rearms (gaugeOf node r) (statusReading snapshot r)) ∧
      (applyStatusGauges key name (some snapshot) node now rows).raised = false := by
  have sound : ∀ gauge ∈ gaugeSnapshotFields, ∀ rows,
      (applyStatusGauge key name snapshot node now gauge rows).raised = false :=
    fun gauge member rows => (applyStatusGauge_moves running member (fits.status gauge member) rows).2
  refine ⟨?_, Result.each_raised sound rows⟩
  by_cases listed : r ∈ (gaugeSnapshotFields : List (RuleId × (Snapshot F → Raw F))).map Prod.fst
  · obtain ⟨gauge, member, rfl⟩ := List.mem_map.mp listed
    refine Result.each_moves Prod.fst member ?_ sound ?_ ?_ rows
    · simp [gaugeSnapshotFields]
    · intro other _ different rows
      apply applyStatusGauge_keeps
      intro same
      exact different (Prod.mk.inj same).2.symm
    · exact fun rows => (applyStatusGauge_moves running member (fits.status gauge member) rows).1
  · have absent : statusReading snapshot r = none := by
      have nowhere : (gaugeSnapshotFields : List (RuleId × (Snapshot F → Raw F))).lookup r = none := by
        rw [List.lookup_eq_none_iff]
        intro gauge member
        rw [bne_iff_ne]
        rintro rfl
        exact listed (List.mem_map.mpr ⟨gauge, member, rfl⟩)
      rw [statusReading, nowhere]
      rfl
    refine (applyStatusGauges_keeps ?_).judged (.inr absent)
    rintro _ gauge member rfl
    exact listed (List.mem_map.mpr ⟨gauge, member, rfl⟩)

theorem lppChannel_ne_refused (sensor : Sensor F) : lppChannel sensor ≠ .refused := by
  rw [lppChannel]
  split
  · simp
  · assumption

/-- The readings that the first loop over the sensors collects. -/
theorem present_spec {sensors : List (Sensor F)} (fits : ∀ sensor ∈ sensors,
    (lppScalarValue sensor).overflows = false ∧ (lppChannel sensor).overflows = false) :
    ∃ present, sensors.foldl addPresent (some Dict.empty) = some present ∧
      ∀ typeName channel, present.get? (typeName, channel) =
        sensors.reverse.findSome? (sensorReading typeName channel) := by
  induction sensors using List.reverseRecOn with
  | nil => exact ⟨Dict.empty, rfl, fun _ _ => rfl⟩
  | append_singleton sensors sensor ih =>
      obtain ⟨present, collected, same⟩ := ih fun other member => fits other (List.mem_append_left _ member)
      obtain ⟨scalarFits, channelFits⟩ := fits sensor (by simp)
      rw [List.foldl_append, collected, List.foldl_cons, List.foldl_nil]
      cases scalar : lppScalarValue sensor with
      | refused =>
          refine ⟨present, by simp [addPresent, scalar], ?_⟩
          intro typeName channel
          simp [same, sensorReading, scalar, Converted.value?]
      | overflow => simp [scalar, Converted.overflows] at scalarFits
      | value x =>
          cases place : lppChannel sensor with
          | refused => exact absurd place (lppChannel_ne_refused sensor)
          | overflow => simp [place, Converted.overflows] at channelFits
          | value n =>
              refine ⟨present.set (lppTypeName sensor, n) x, by simp [addPresent, scalar, place], ?_⟩
              intro typeName channel
              rw [Dict.get?_set, same, List.reverse_append, List.reverse_singleton,
                List.singleton_append, List.findSome?_cons]
              by_cases same : (typeName, channel) = (lppTypeName sensor, n)
              · obtain ⟨rfl, rfl⟩ := Prod.mk.inj same
                simp [sensorReading, scalar, place, Converted.value?]
              · have elsewhere : sensorReading typeName channel sensor = none := by
                  rw [sensorReading, if_neg]
                  rintro ⟨rfl, found⟩
                  rw [place] at found
                  exact same (by rw [Option.some.inj found])
                rw [if_neg same, elsewhere]

theorem applyLppGauge_moves {entry : (String × Int) × F} (running : now ≠ 0) (rows : Rows F) :
    (applyLppGauge key name node now entry rows).Moves rows key (.lpp entry.1.1 entry.1.2)
        (judge Gauge.alarms (gaugeOf node (.lpp entry.1.1 entry.1.2)) (some entry.2))
        (judge Gauge.rearms (gaugeOf node (.lpp entry.1.1 entry.1.2)) (some entry.2)) ∧
      (applyLppGauge key name node now entry rows).raised = false := by
  rw [applyLppGauge, gaugeOf]
  cases rule : lppSpec node entry.1.1 entry.1.2 with
  | none => exact ⟨Result.keeps_done.judged (.inl rfl), rfl⟩
  | some spec =>
      rw [Option.bind_some]
      dsimp only
      split
      · rename_i active
        exact ⟨applyGauge_moves running active.1, applyGauge_raised⟩
      · rename_i inactive
        refine ⟨Result.keeps_done.judged (.inl ?_), rfl⟩
        rw [activeGauge]
        split
        · rename_i enabled
          cases hasThreshold : spec.threshold with
          | none => rfl
          | some threshold =>
              cases hasOp : spec.op with
              | none => rfl
              | some op => exact (inactive ⟨enabled, by simp [hasThreshold], by simp [hasOp]⟩).elim
        · rfl

theorem applyLppGauges_moves {snapshot : Snapshot F} (running : now ≠ 0) (fits : snapshot.Fits)
    (rows : Rows F) :
    (applyLppGauges key name (some snapshot) node now rows).Moves rows key r
        (judge Gauge.alarms (gaugeOf node r) (lppReading snapshot r))
        (judge Gauge.rearms (gaugeOf node r) (lppReading snapshot r)) := by
  by_cases sensor : ∃ typeName channel, r = .lpp typeName channel
  · obtain ⟨typeName, channel, rfl⟩ := sensor
    rw [applyLppGauges, Option.bind_some]
    cases listed : snapshot.lppSensors with
    | none => exact Result.keeps_done.judged (.inr (by simp [lppReading, listed]))
    | some sensors =>
        obtain ⟨present, collected, readings⟩ := present_spec (fits.sensors sensors listed)
        have read : lppReading snapshot (.lpp typeName channel) = present.get? (typeName, channel) := by
          rw [lppReading, listed, Option.getD_some, readings]
        dsimp only
        rw [collected, read]
        have keeps (entry : (String × Int) × F) (other : entry.1 ≠ (typeName, channel)) (rows : Rows F) :
            (applyLppGauge key name node now entry rows).Keeps rows key (.lpp typeName channel) := by
          apply applyLppGauge_keeps
          intro same
          obtain ⟨rfl, rfl⟩ := RuleId.lpp.inj (Prod.mk.inj same).2
          exact other rfl
        cases found : present.get? (typeName, channel) with
        | none =>
            refine (Result.each_keeps ?_ rows).judged (.inr rfl)
            intro entry member
            refine keeps entry ?_
            intro same
            have stored := (Dict.mem_iff_get? present).mp member
            rw [same, found] at stored
            contradiction
        | some x =>
            have member := (Dict.mem_iff_get? present).mpr found
            refine Result.each_moves (fun entry => .lpp entry.1.1 entry.1.2) member ?_
              (fun entry _ rows => (applyLppGauge_moves running rows).2) ?_
              (fun rows => (applyLppGauge_moves running rows).1) rows
            · have ids : present.entries.map (fun entry => RuleId.lpp entry.1.1 entry.1.2) =
                  (present.entries.map Prod.fst).map fun place => .lpp place.1 place.2 := by
                rw [List.map_map]
                rfl
              rw [ids]
              refine present.nodup.map ?_
              intro a b same
              exact Prod.ext (RuleId.lpp.inj same).1 (RuleId.lpp.inj same).2
            · intro other _ different
              refine keeps other ?_
              intro same
              exact different (by rw [same])
  · refine (applyLppGauges_keeps ?_).judged (.inr ?_)
    · rintro _ typeName channel rfl
      exact sensor ⟨typeName, channel, rfl⟩
    · rw [lppReading]
      rintro typeName channel rfl
      exact sensor ⟨typeName, channel, rfl⟩

end Gauges

section Polls
variable [Floats F] {settings : Settings F} {poll : Poll F}

/-- A node that is tracked and whose alerts are on. -/
structure Settings.Alerts (settings : Settings F) (k : Key) : Prop where
  named : k ≠ []
  tracked : k ∈ settings.trackedRepeaters ∨ k ∈ settings.trackedContacts
  alerting : (resolveNodeRules settings k).alerting = true

/-- How many misses make a node silent, nothing for a threshold without a bound. -/
def silenceThreshold (node : NodeRules F) : Option Int :=
  ((node.rules .silence).getD .unset).threshold.elim (some defaultMissesBeforeAlert) clampMisses

/-- A poll with a clock that runs and without a number too large. -/
structure Poll.Regular (poll : Poll F) : Prop where
  running : poll.now ≠ 0
  fits : ∀ snapshot, poll.snapshot = some snapshot → snapshot.Fits

/-- The evaluation of a poll of such a node. -/
theorem noteTelemetryPoll_eq (alerts : settings.Alerts poll.publicKey) :
    noteTelemetryPoll settings rows poll =
      let node := resolveNodeRules settings poll.publicKey
      let name := label poll.name poll.publicKey
      match poll.outcome with
      | .busy => .done rows
      | .miss => applySilence poll.publicKey name node poll.now true rows
      | .success => applySuccess poll.publicKey name node poll rows := by
  have tracked : ¬ (poll.publicKey ∉ settings.trackedRepeaters ∧
      poll.publicKey ∉ settings.trackedContacts) := by
    have := alerts.tracked
    tauto
  rw [noteTelemetryPoll]
  cases poll.outcome <;> simp [alerts.named, tracked, alerts.alerting]

variable {key : Key} {name : List Char} {node : NodeRules F} {now n : Int}

theorem applySilence_raised {increment : Bool} (threshold : silenceThreshold node = some n) :
    (applySilence key name node now increment rows).raised = false := by
  rw [silenceThreshold] at threshold
  rw [applySilence, threshold]
  cases increment <;> rfl

/-- An answer moves the latch of a gauge rule by the reading it has. -/
theorem applySuccess_moves (threshold : silenceThreshold node = some n) (regular : poll.Regular)
    (gauge : r ≠ .silence ∧ r ≠ .gpsLost) :
    (applySuccess key name node poll rows).Moves rows key r
      (judge Gauge.alarms (gaugeOf node r) (answered poll r))
      (judge Gauge.rearms (gaugeOf node r) (answered poll r)) := by
  have silence : (applySilence key name node poll.now false rows).Keeps rows key r :=
    applySilence_keeps fun same => gauge.1 (Prod.mk.inj same).2
  have sound : (applySilence key name node poll.now false rows).raised = false :=
    applySilence_raised threshold
  have position (rows : Rows F) :
      (applyGpsLost key name poll.snapshot node poll.now poll.historyHadFix rows).Keeps rows key r :=
    applyGpsLost_keeps fun same => gauge.2 (Prod.mk.inj same).2
  rw [applySuccess, answered]
  cases given : poll.snapshot with
  | none =>
      rw [given] at position
      have status (rows : Rows F) :
          (applyStatusGauges key name none node poll.now rows).Keeps rows key r := Result.keeps_done
      have sensors (rows : Rows F) :
          (applyLppGauges key name none node poll.now rows).Keeps rows key r := Result.keeps_done
      split
      · exact (((silence.andThen status).andThen sensors).andThen position).judged (.inr rfl)
      · exact (silence.andThen status).judged (.inr rfl)
  | some snapshot =>
      rw [given] at position
      have fits := regular.fits snapshot given
      rw [Option.bind_some]
      by_cases sensor : ∃ typeName channel, r = .lpp typeName channel
      · obtain ⟨typeName, channel, rfl⟩ := sensor
        have status (rows : Rows F) : (applyStatusGauges key name (some snapshot) node poll.now rows).Keeps
            rows key (.lpp typeName channel) := by
          apply applyStatusGauges_keeps
          intro _ other member same
          exact (gaugeSnapshotFields_kind member).2 typeName channel same.symm
        have unlisted : statusReading snapshot (.lpp typeName channel) = none := rfl
        rw [unlisted, Option.none_or]
        split
        · refine Result.Moves.andThen (Result.Moves.after (silence.andThen status) ?_ ?_) position
          · exact Result.andThen_raised sound
              fun rows => (applyStatusGauges_moves (r := .battery) regular.running fits rows).2
          · exact applyLppGauges_moves regular.running fits
        · exact (silence.andThen status).judged (.inr rfl)
      · have unlisted : lppReading snapshot r = none := by
          rw [lppReading]
          rintro typeName channel rfl
          exact sensor ⟨typeName, channel, rfl⟩
        have sensors (rows : Rows F) :
            (applyLppGauges key name (some snapshot) node poll.now rows).Keeps rows key r := by
          apply applyLppGauges_keeps
          rintro _ typeName channel rfl
          exact sensor ⟨typeName, channel, rfl⟩
        have status (rows : Rows F) : (applyStatusGauges key name (some snapshot) node poll.now rows).Moves
            rows key r (judge Gauge.alarms (gaugeOf node r) (statusReading snapshot r))
            (judge Gauge.rearms (gaugeOf node r) (statusReading snapshot r)) :=
          (applyStatusGauges_moves regular.running fits rows).1
        rw [unlisted, ite_self, Option.or_none]
        split
        · exact ((Result.Moves.after silence sound status).andThen sensors).andThen position
        · exact Result.Moves.after silence sound status

/-- A poll moves the latch of a gauge rule by the reading it has for the rule. -/
theorem noteTelemetryPoll_moves (rows : Rows F) (alerts : settings.Alerts k)
    (threshold : silenceThreshold (resolveNodeRules settings k) = some n)
    (regular : poll.publicKey = k → poll.Regular) (gauge : r ≠ .silence ∧ r ≠ .gpsLost) :
    (noteTelemetryPoll settings rows poll).Moves rows k r
      (judge Gauge.alarms (gaugeOf (resolveNodeRules settings k) r) (reading k r poll))
      (judge Gauge.rearms (gaugeOf (resolveNodeRules settings k) r) (reading k r poll)) := by
  by_cases own : poll.publicKey = k
  · subst own
    rw [noteTelemetryPoll_eq alerts, reading]
    cases poll.outcome with
    | busy => exact Result.keeps_done.judged (.inr (by simp))
    | miss =>
        refine (applySilence_keeps ?_).judged (.inr (by simp))
        exact fun same => gauge.1 (Prod.mk.inj same).2
    | success =>
        rw [if_pos ⟨rfl, rfl⟩]
        exact applySuccess_moves threshold (regular rfl) gauge
  · refine (noteTelemetryPoll_keeps fun same => own same.symm).judged (.inr ?_)
    rw [reading, if_neg fun both => own both.1]

theorem silenceThreshold_pos (threshold : silenceThreshold node = some n) : 1 ≤ n := by
  rw [silenceThreshold] at threshold
  cases given : ((node.rules .silence).getD .unset).threshold with
  | none =>
      rw [given, Option.elim_none] at threshold
      obtain rfl := Option.some.inj threshold
      decide
  | some raw =>
      rw [given, Option.elim_some, clampMisses] at threshold
      split at threshold
      · obtain rfl := Option.some.inj threshold
        exact le_max_left _ _
      · obtain rfl := Option.some.inj threshold
        decide
      · contradiction

/-- Whether the silence of a node is reported; it is unless that is turned off. -/
def silenceEnabled (node : NodeRules F) : Bool := ((node.rules .silence).getD .unset).enabled.getD true

/-- The misses that a row has counted. -/
def misses (state : Option (Row F)) : Int := state.elim 0 Row.consecutiveMisses

omit [Floats F] in
theorem latched_eq (state : Option (Row F)) :
    latched state = (state.bind Row.lastFiredAt).any (· ≠ 0) := by
  cases state <;> rfl

/-- A miss counts one more, and is reported when it is the one that reaches the threshold. -/
theorem applySilence_miss (rows : Rows F) (threshold : silenceThreshold node = some n) (running : now ≠ 0)
    (counted : latched (rows.get? (key, .silence)) =
      (silenceEnabled node && decide (n ≤ misses (rows.get? (key, .silence))))) :
    let result := applySilence key name node now true rows
    misses (result.rows.get? (key, .silence)) = misses (rows.get? (key, .silence)) + 1 ∧
      latched (result.rows.get? (key, .silence)) =
        (silenceEnabled node && decide (n ≤ misses (rows.get? (key, .silence)) + 1)) ∧
      (ofRule result.alerts key .silence).length =
        if silenceEnabled node = true ∧ misses (rows.get? (key, .silence)) + 1 = n then 1 else 0 := by
  rw [silenceThreshold] at threshold
  have stored (row : Row F) : (rows.set (key, .silence) row).get? (key, .silence) = some row := by
    rw [Dict.get?_set, if_pos rfl]
  have enabled : ((node.rules .silence).getD .unset).enabled.getD true = silenceEnabled node := rfl
  have count : (rows.get? (key, .silence)).elim 0 Row.consecutiveMisses =
    misses (rows.get? (key, .silence)) := rfl
  simp only [applySilence, threshold, if_true, stored, enabled, count]
  refine ⟨rfl, ?_, ?_⟩
  · rw [latched_some]
    cases set : latched (rows.get? (key, .silence)) with
    | true =>
        rw [counted, Bool.and_eq_true, decide_eq_true_eq] at set
        rw [if_pos rfl, ← latched_eq, counted, set.1, Bool.true_and, Bool.true_and,
          decide_eq_true set.2, decide_eq_true (by omega)]
    | false =>
        rw [if_neg Bool.false_ne_true]
        by_cases fires : silenceEnabled node = true ∧ n ≤ misses (rows.get? (key, .silence)) + 1
        · rw [if_pos ⟨fires.1, fires.2, rfl⟩, fires.1, decide_eq_true fires.2]
          simp [running]
        · rw [if_neg fun both => fires ⟨both.1, both.2.1⟩]
          simpa using fires
  · rw [counted]
    have fires : (silenceEnabled node = true ∧ n ≤ misses (rows.get? (key, .silence)) + 1 ∧
        (silenceEnabled node && decide (n ≤ misses (rows.get? (key, .silence)))) = false) ↔
        silenceEnabled node = true ∧ misses (rows.get? (key, .silence)) + 1 = n := by
      cases silenceEnabled node
      · simp
      · simp only [Bool.true_and, decide_eq_false_iff_not, true_and]
        omega
    simp only [fires]
    split
    · simp [ofRule]
    · rfl

/-- An answer ends the silence. -/
theorem applySuccess_silence (threshold : silenceThreshold node = some n) :
    let result := applySuccess key name node poll rows
    misses (result.rows.get? (key, .silence)) = 0 ∧
      latched (result.rows.get? (key, .silence)) = false ∧ ofRule result.alerts key .silence = [] := by
  have ended : let result := applySilence key name node poll.now false rows
      misses (result.rows.get? (key, .silence)) = 0 ∧
        latched (result.rows.get? (key, .silence)) = false ∧ ofRule result.alerts key .silence = [] := by
    rw [silenceThreshold] at threshold
    simp [applySilence, threshold, Result.done, misses, latched_some, ofRule]
  have status (rows : Rows F) :
      (applyStatusGauges key name poll.snapshot node poll.now rows).Keeps rows key .silence := by
    apply applyStatusGauges_keeps
    intro _ other member same
    exact (gaugeSnapshotFields_kind member).1 same.symm
  have sensors (rows : Rows F) :
      (applyLppGauges key name poll.snapshot node poll.now rows).Keeps rows key .silence :=
    applyLppGauges_keeps fun _ _ _ => RuleId.noConfusion
  have position (rows : Rows F) :
      (applyGpsLost key name poll.snapshot node poll.now poll.historyHadFix rows).Keeps rows key .silence :=
    applyGpsLost_keeps fun same => RuleId.noConfusion (Prod.mk.inj same).2
  rw [applySuccess]
  dsimp only
  split
  · rw [(Result.andThen_keeps position).1, (Result.andThen_keeps position).2,
      (Result.andThen_keeps sensors).1, (Result.andThen_keeps sensors).2,
      (Result.andThen_keeps status).1, (Result.andThen_keeps status).2]
    exact ended
  · rw [(Result.andThen_keeps status).1, (Result.andThen_keeps status).2]
    exact ended

/-- The row of the silence rule counts a number of misses, and is latched from the threshold on. -/
def Counts (node : NodeRules F) (n : Int) (state : Option (Row F)) (count : Int) : Prop :=
  misses state = count ∧ latched state = (silenceEnabled node && decide (n ≤ count))

/-- How a poll changes the count of misses of a node. -/
def nextCount (k : Key) (poll : Poll F) (count : Int) : Int :=
  if poll.publicKey = k then
    match poll.outcome with
    | .busy => count
    | .miss => count + 1
    | .success => 0
  else count

/-- A poll moves the count, and is reported when it is the miss that reaches the threshold. -/
theorem noteTelemetryPoll_counts {count : Int} (alerts : settings.Alerts k)
    (threshold : silenceThreshold (resolveNodeRules settings k) = some n)
    (running : poll.publicKey = k → poll.now ≠ 0)
    (counts : Counts (resolveNodeRules settings k) n (rows.get? (k, .silence)) count) :
    Counts (resolveNodeRules settings k) n
        ((noteTelemetryPoll settings rows poll).rows.get? (k, .silence)) (nextCount k poll count) ∧
      (ofRule (noteTelemetryPoll settings rows poll).alerts k .silence).length =
        if silenceEnabled (resolveNodeRules settings k) = true ∧
          (poll.publicKey = k ∧ poll.outcome = .miss) ∧ count + 1 = n then 1 else 0 := by
  by_cases own : poll.publicKey = k
  · subst own
    rw [noteTelemetryPoll_eq alerts, nextCount, if_pos rfl]
    cases poll.outcome with
    | busy => exact ⟨counts, by simp [Result.done, ofRule]⟩
    | miss =>
        obtain ⟨rfl, set⟩ := counts
        obtain ⟨next, latch, alert⟩ := applySilence_miss rows threshold (running rfl) set
        exact ⟨⟨next, latch⟩, by simpa using alert⟩
    | success =>
        obtain ⟨zero, free, quiet⟩ := applySuccess_silence threshold
        have below : ¬ n ≤ 0 := by
          have := silenceThreshold_pos threshold
          omega
        refine ⟨⟨zero, ?_⟩, ?_⟩
        · rw [free, decide_eq_false below, Bool.and_false]
        · rw [quiet]
          simp
  · obtain ⟨row, quiet⟩ := noteTelemetryPoll_keeps fun same => own same.symm
    rw [nextCount, if_neg own, row, quiet]
    exact ⟨counts, by simp [own]⟩

end Polls

end Meshloom.Telemetry
