import Meshloom.Telemetry.AlertProofs

/-! What whole runs of polls dispatch, said by the readings and the misses alone. -/
namespace Meshloom.Telemetry
open Messages
variable {F : Type} [Floats F] {settings : Settings F} {k : Key} {r : RuleId} {n : Int}

/-- A poll dispatches an alert of a rule of a node, after other polls. -/
def Dispatched (settings : Settings F) (k : Key) (r : RuleId) (before : List (Poll F)) (poll : Poll F) :
    Prop := alertsAt settings k r before poll ≠ []

/-- How many misses of a node there are since its last answer; busy polls do not count. -/
def missRun (k : Key) (polls : List (Poll F)) : Nat :=
  ((polls.filter fun poll => poll.publicKey = k ∧ poll.outcome ≠ .busy).reverse.takeWhile
    fun poll => poll.outcome = .miss).length

theorem rowsAfter_append (before : List (Poll F)) (poll : Poll F) :
    rowsAfter settings (before ++ [poll]) =
      (noteTelemetryPoll settings (rowsAfter settings before) poll).rows := by
  rw [rowsAfter, List.foldl_append]
  rfl

/-- The readings of a rule that are in alarm. -/
def alarming (settings : Settings F) (k : Key) (r : RuleId) (poll : Poll F) : Bool :=
  judge Gauge.alarms (gaugeOf (resolveNodeRules settings k) r) (reading k r poll)

/-- The readings of a rule on the side that rearms it. -/
def rearming (settings : Settings F) (k : Key) (r : RuleId) (poll : Poll F) : Bool :=
  judge Gauge.rearms (gaugeOf (resolveNodeRules settings k) r) (reading k r poll)

omit [Floats F] in
theorem missRun_append (before : List (Poll F)) (poll : Poll F) :
    (missRun k (before ++ [poll]) : Int) = nextCount k poll (missRun k before) := by
  rw [missRun, missRun, nextCount, List.filter_append, List.reverse_append]
  by_cases own : poll.publicKey = k
  · cases outcome : poll.outcome <;> simp [own, outcome]
  · simp [own]

section Node
variable (alerts : settings.Alerts k)
  (threshold : silenceThreshold (resolveNodeRules settings k) = some n) {polls : List (Poll F)}
include alerts threshold

/-- The row of a gauge rule is the latch of its readings. -/
theorem latched_rowsAfter (gauge : r ≠ .silence ∧ r ≠ .gpsLost)
    (regular : ∀ poll ∈ polls, poll.publicKey = k → poll.Regular) :
    latched ((rowsAfter settings polls).get? (k, r)) =
      Latch.after (alarming settings k r) (rearming settings k r) polls := by
  induction polls using List.reverseRecOn with
  | nil => rfl
  | append_singleton before poll ih =>
      rw [rowsAfter_append, Latch.after_append,
        ← ih fun other member => regular other (List.mem_append_left _ member)]
      exact (noteTelemetryPoll_moves _ alerts threshold (regular poll (by simp)) gauge).1

/-- A gauge rule dispatches when its latch fires. -/
theorem length_gauge_alerts {poll : Poll F} (gauge : r ≠ .silence ∧ r ≠ .gpsLost)
    (regular : ∀ other ∈ polls ++ [poll], other.publicKey = k → other.Regular) :
    (alertsAt settings k r polls poll).length =
      if Latch.after (alarming settings k r) (rearming settings k r) polls = false ∧
        alarming settings k r poll = true then 1 else 0 := by
  rw [← latched_rowsAfter alerts threshold gauge
    fun other member => regular other (List.mem_append_left _ member)]
  exact (noteTelemetryPoll_moves _ alerts threshold (regular poll (by simp)) gauge).2

theorem dispatched_iff_fires {poll : Poll F} (gauge : r ≠ .silence ∧ r ≠ .gpsLost)
    (regular : ∀ other ∈ polls ++ [poll], other.publicKey = k → other.Regular) :
    Dispatched settings k r polls poll ↔
      Latch.Fires (alarming settings k r) (rearming settings k r) polls poll := by
  rw [Dispatched, ← List.length_pos_iff, length_gauge_alerts alerts threshold gauge regular, Latch.Fires]
  split
  · rename_i fires
    exact iff_of_true (by decide) fires
  · rename_i still
    exact iff_of_false (by decide) still

/-- The row of the silence rule counts the misses since the last answer. -/
theorem silence_rowsAfter (regular : ∀ poll ∈ polls, poll.publicKey = k → poll.Regular) :
    Counts (resolveNodeRules settings k) n ((rowsAfter settings polls).get? (k, .silence))
      (missRun k polls) := by
  induction polls using List.reverseRecOn with
  | nil =>
      have below : ¬ n ≤ 0 := by
        have := silenceThreshold_pos threshold
        omega
      refine ⟨rfl, ?_⟩
      rw [missRun, List.filter_nil, List.reverse_nil, List.takeWhile_nil, List.length_nil, Nat.cast_zero,
        decide_eq_false below, Bool.and_false]
      rfl
  | append_singleton before poll ih =>
      have counts := ih fun other member => regular other (List.mem_append_left _ member)
      rw [rowsAfter_append, missRun_append]
      exact (noteTelemetryPoll_counts alerts threshold
        (fun own => (regular poll (by simp) own).running) counts).1

theorem length_silence_alerts {poll : Poll F}
    (regular : ∀ other ∈ polls ++ [poll], other.publicKey = k → other.Regular) :
    (alertsAt settings k .silence polls poll).length =
      if silenceEnabled (resolveNodeRules settings k) = true ∧
        (poll.publicKey = k ∧ poll.outcome = .miss) ∧ (missRun k polls : Int) + 1 = n then 1 else 0 :=
  (noteTelemetryPoll_counts alerts threshold (fun own => (regular poll (by simp) own).running)
    (silence_rowsAfter alerts threshold
      fun other member => regular other (List.mem_append_left _ member))).2

end Node

/-- A rule was not dispatched before, or some reading since it last was is on the side that
rearms it. -/
def Armed (settings : Settings F) (k : Key) (r : RuleId) (gauge : Gauge F) (before : List (Poll F)) :
    Prop :=
  ∀ earlier last since, before = earlier ++ last :: since → Dispatched settings k r earlier last →
    (∀ quiet later rest, since = quiet ++ later :: rest →
      ¬ Dispatched settings k r (earlier ++ last :: quiet) later) →
    ∃ later ∈ since, ∃ value, reading k r later = some value ∧ gauge.rearms value = true

/-- In every run of polls of tracked nodes, a gauge rule is dispatched at the readings in
alarm for which it is armed, and silence at the miss that reaches the threshold. -/
theorem alerts_of_run (settings : Settings F) (k : Key) (n : Int) (before : List (Poll F))
    (poll : Poll F) (alerts : settings.Alerts k)
    (threshold : silenceThreshold (resolveNodeRules settings k) = some n)
    (regular : ∀ other ∈ before ++ [poll], other.publicKey = k → other.Regular) :
    (∀ r gauge, gaugeOf (resolveNodeRules settings k) r = some gauge →
      (alertsAt settings k r before poll).length ≤ 1 ∧
      (Dispatched settings k r before poll ↔
        (∃ value, reading k r poll = some value ∧ gauge.alarms value = true) ∧
          Armed settings k r gauge before)) ∧
    (alertsAt settings k .silence before poll).length ≤ 1 ∧
    (Dispatched settings k .silence before poll ↔
      silenceEnabled (resolveNodeRules settings k) = true ∧
        (poll.publicKey = k ∧ poll.outcome = .miss) ∧ (missRun k before : Int) + 1 = n) := by
  constructor
  · intro r gauge rule
    have kind : r ≠ .silence ∧ r ≠ .gpsLost := by
      constructor
      · rintro rfl
        contradiction
      · rintro rfl
        contradiction
    have judged (test : Gauge F → F → Bool) (other : Poll F) :
        judge test (gaugeOf (resolveNodeRules settings k) r) (reading k r other) = true ↔
          ∃ value, reading k r other = some value ∧ test gauge value = true := by
      rw [rule]
      cases reading k r other <;> simp [judge]
    have within {earlier rest : List (Poll F)} {other : Poll F} (split : before = earlier ++ other :: rest) :
        ∀ member ∈ earlier ++ [other], member.publicKey = k → member.Regular := by
      intro member found
      apply regular
      rw [split]
      simp only [List.mem_append, List.mem_cons] at found ⊢
      tauto
    constructor
    · rw [length_gauge_alerts alerts threshold kind regular]
      split
      · exact le_rfl
      · exact Nat.zero_le _
    · rw [dispatched_iff_fires alerts threshold kind regular, Latch.fires_iff, alarming, judged]
      refine and_congr_right fun _ => ?_
      have fires {earlier rest : List (Poll F)} {other : Poll F}
          (split : before = earlier ++ other :: rest) :=
        dispatched_iff_fires alerts threshold kind (within split)
      refine forall₃_congr fun earlier last since => forall_congr' fun split => ?_
      rw [fires split]
      refine forall_congr' fun _ => imp_congr ?_ ?_
      · refine forall₃_congr fun quiet later rest => forall_congr' fun inner => ?_
        have further : before = (earlier ++ last :: quiet) ++ later :: rest := by
          rw [split, inner, List.append_assoc, List.cons_append]
        rw [fires further]
      · simp only [rearming, judged]
  · rw [Dispatched, ← List.length_pos_iff, length_silence_alerts alerts threshold regular]
    split
    · rename_i reported
      exact ⟨le_rfl, iff_of_true (by decide) reported⟩
    · rename_i quiet
      exact ⟨Nat.zero_le _, iff_of_false (by decide) quiet⟩

section Sample

/-- Whole numbers, the infinities and what is not a number: as much of the floating point
numbers as the sample needs. -/
inductive Whole where
  | nan
  | infinite (negative : Bool)
  | whole (n : Int)
  deriving DecidableEq

namespace Whole

def le : Whole → Whole → Bool
  | .nan, _ | _, .nan => false
  | .infinite true, _ | _, .infinite false => true
  | .infinite false, _ | _, .infinite true => false
  | .whole a, .whole b => a ≤ b

def add : Whole → Whole → Whole
  | .nan, _ | _, .nan => .nan
  | .infinite a, .infinite b => if a = b then .infinite a else .nan
  | .infinite a, .whole _ | .whole _, .infinite a => .infinite a
  | .whole a, .whole b => .whole (a + b)

def neg : Whole → Whole
  | .nan => .nan
  | .infinite a => .infinite !a
  | .whole a => .whole (-a)

instance : Floats Whole where
  lt a b := le a b && !le b a
  le := le
  add := add
  sub a b := add a (neg b)
  zero := .whole 0
  one := .whole 1
  ofInt n := some (.whole n)
  trunc
    | .nan => .refused
    | .infinite _ => .overflow
    | .whole n => .value n

end Whole

def sampleKey : Key := ['a', 'b']

/-- A node with a battery rule and a threshold for its silence. -/
def sampleSettings (silence : Whole) : Settings Whole where
  trackedRepeaters := [sampleKey]
  trackedContacts := []
  rules
    | .battery => some ⟨some true, some .lt, some (.whole 4), some (.whole 1)⟩
    | .silence => some ⟨some true, none, some silence, none⟩
    | _ => none
  overrides _ := none

def sampleMiss : Poll Whole := ⟨sampleKey, [], .miss, none, false, 100, some false⟩

def sampleAnswer (volts : Int) : Poll Whole :=
  ⟨sampleKey, [], .success, some ⟨.float (.whole volts), .null, .null, .null, .null, none⟩, false, 100,
    some false⟩

theorem sampleSettings_alerts (silence : Whole) : (sampleSettings silence).Alerts sampleKey where
  named := by decide
  tracked := .inl List.mem_cons_self
  alerting := rfl

theorem sampleMiss_regular : sampleMiss.Regular where
  running := by decide
  fits _ given := by contradiction

theorem sampleAnswer_regular (volts : Int) : (sampleAnswer volts).Regular where
  running := by simp [sampleAnswer]
  fits := by
    rintro _ ⟨rfl⟩
    constructor
    · intro gauge member
      simp only [gaugeSnapshotFields, List.mem_cons, List.not_mem_nil, or_false] at member
      obtain rfl | rfl | rfl | rfl | rfl := member <;> rfl
    · intro sensors given
      contradiction

theorem sample_regular {polls : List (Poll Whole)}
    (sampled : ∀ poll ∈ polls, poll = sampleMiss ∨ ∃ volts, poll = sampleAnswer volts) :
    ∀ poll ∈ polls, poll.publicKey = sampleKey → poll.Regular := by
  intro poll member _
  obtain rfl | ⟨volts, rfl⟩ := sampled poll member
  · exact sampleMiss_regular
  · exact sampleAnswer_regular volts

/-- A battery at three volts is reported, not reported again before it was at six, and then reported
again; silence is reported at the second miss after an answer. -/
theorem low_battery_and_silence_alerted :
    Dispatched (sampleSettings (.whole 2)) sampleKey .battery [] (sampleAnswer 3) ∧
      ¬ Dispatched (sampleSettings (.whole 2)) sampleKey .battery [sampleAnswer 3] (sampleAnswer 3) ∧
      Dispatched (sampleSettings (.whole 2)) sampleKey .battery
        [sampleAnswer 3, sampleAnswer 3, sampleAnswer 6] (sampleAnswer 3) ∧
      ¬ Dispatched (sampleSettings (.whole 2)) sampleKey .silence [sampleMiss, sampleAnswer 6] sampleMiss ∧
      Dispatched (sampleSettings (.whole 2)) sampleKey .silence [sampleMiss, sampleAnswer 6, sampleMiss]
        sampleMiss := by
  have battery (before : List (Poll Whole)) (volts : Int)
      (sampled : ∀ poll ∈ before ++ [sampleAnswer volts], poll = sampleMiss ∨ ∃ volts, poll = sampleAnswer volts) :=
    ((alerts_of_run _ sampleKey 2 before (sampleAnswer volts) (sampleSettings_alerts (.whole 2)) rfl
      (sample_regular sampled)).1 .battery ⟨.lt, .whole 4, .whole 1⟩ rfl).2
  have silence (before : List (Poll Whole))
      (sampled : ∀ poll ∈ before ++ [sampleMiss], poll = sampleMiss ∨ ∃ volts, poll = sampleAnswer volts) :=
    (alerts_of_run _ sampleKey 2 before sampleMiss (sampleSettings_alerts (.whole 2)) rfl
      (sample_regular sampled)).2.2
  have first : Dispatched (sampleSettings (.whole 2)) sampleKey .battery [] (sampleAnswer 3) := by
    refine (battery [] 3 (by simp)).mpr ⟨⟨.whole 3, rfl, rfl⟩, ?_⟩
    intro earlier last since split
    simp at split
  have charged (before : List (Poll Whole))
      (sampled : ∀ poll ∈ before ++ [sampleAnswer 6], poll = sampleMiss ∨ ∃ volts, poll = sampleAnswer volts) :
      ¬ Dispatched (sampleSettings (.whole 2)) sampleKey .battery before (sampleAnswer 6) := by
    intro dispatched
    obtain ⟨⟨value, read, alarms⟩, -⟩ := (battery before 6 sampled).mp dispatched
    cases read
    contradiction
  refine ⟨first, fun again => ?_, (battery _ 3 (by simp)).mpr ⟨⟨.whole 3, rfl, rfl⟩, ?_⟩, fun missed => ?_,
    (silence _ (by simp)).mpr ⟨rfl, ⟨rfl, rfl⟩, rfl⟩⟩
  · obtain ⟨later, member, _⟩ := ((battery _ 3 (by simp)).mp again).2 [] _ [] rfl first
      fun quiet later rest none_ => by simp at none_
    exact absurd member List.not_mem_nil
  · intro earlier last since split dispatched _
    have rearmed : ∃ value, reading sampleKey .battery (sampleAnswer 6) = some value ∧
        Gauge.rearms ⟨.lt, .whole 4, .whole 1⟩ value = true := ⟨.whole 6, rfl, rfl⟩
    rcases earlier with _ | ⟨one, _ | ⟨two, _ | ⟨three, earlier⟩⟩⟩
    · cases split
      exact ⟨sampleAnswer 6, by simp, rearmed⟩
    · cases split
      exact ⟨sampleAnswer 6, by simp, rearmed⟩
    · cases split
      exact absurd dispatched (charged _ (by simp))
    · simp at split
  · obtain ⟨-, -, count⟩ := (silence _ (by simp)).mp missed
    contradiction

/-- A battery at no volts is below the threshold and not reported. And with a silence
threshold that is infinite no number of misses is ever reported. -/
theorem flat_battery_not_alerted :
    (gaugeOf (resolveNodeRules (sampleSettings (.whole 2)) sampleKey) .battery =
        some ⟨.lt, .whole 4, .whole 1⟩ ∧
      (sampleAnswer 0).snapshot.map Snapshot.batteryVolts = some (.float (.whole 0)) ∧
      Gauge.alarms ⟨.lt, .whole 4, .whole 1⟩ (Whole.whole 0) = true ∧
      ¬ Dispatched (sampleSettings (.whole 2)) sampleKey .battery [] (sampleAnswer 0)) ∧
    ∀ count, ¬ Dispatched (sampleSettings (.infinite false)) sampleKey .silence
      (List.replicate count sampleMiss) sampleMiss := by
  have silent (rows : Rows Whole) : noteTelemetryPoll (sampleSettings (.infinite false)) rows sampleMiss =
      ⟨rows, [], true⟩ := rfl
  refine ⟨⟨rfl, rfl, rfl, ?_⟩, ?_⟩
  · simp only [Dispatched, ne_eq, Decidable.not_not]
    rfl
  · intro count
    simp only [Dispatched, alertsAt, silent, List.filter_nil, ne_eq, not_true_eq_false, not_false_eq_true]

end Sample

end Meshloom.Telemetry
