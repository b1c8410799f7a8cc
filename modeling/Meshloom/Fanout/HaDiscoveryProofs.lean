import Meshloom.Fanout.HaDiscovery
import Meshloom.SoleTask

/-! What the module has retained while no handler is in the middle of a change of it, in every run in
which no change begins during another one and none is cut short. -/
namespace Meshloom.HaDiscovery
open Transition SoleTask
variable {settings : Settings} {s t : State} {i : Nat} {handler : Handler}

/-- What is retained is what `_discovery_topics` says, for the radio there is. -/
structure Settled (s : State) : Prop where
  topics : ∀ topic, (s.retained topic).isSome ↔ topic ∈ s.discoveryTopics
  radio : ∀ topic config, s.retained topic = some config → OfRadio s.radioKey config

/-- Configs for the radio with this key. -/
def Fits (radioKey : Option String) (configs : List (Topic × Config)) : Prop :=
  ∀ entry ∈ configs, OfRadio radioKey entry.2

/-- What a handler in the middle of a change has brought the broker to. -/
def Held (s : State) : Phase → Prop
  | .clearingOld left _ _ =>
      s.loop = .serving ∧ ∀ topic, (s.retained topic).isSome → topic ∈ left
  | .clearingRadio _ =>
      s.loop = .serving ∧ (∀ topic, s.retained topic = none) ∧ s.discoveryTopics = []
  | .naming draft _ _ | .sampling draft _ _ _ =>
      s.loop = .serving ∧ Settled s ∧ s.radioKey.isSome ∧ Fits s.radioKey draft.configs
  | .clearingStale left draft =>
      s.loop = .serving ∧ Fits s.radioKey draft.configs ∧
        (∀ topic config, s.retained topic = some config → OfRadio s.radioKey config) ∧
        ∀ topic, (s.retained topic).isSome → topic ∈ left ∨ topic ∈ draft.configs.map Prod.fst
  | .publishing left _ =>
      s.loop = .serving ∧ (∀ entry ∈ left, OfRadio s.radioKey entry.2 ∧ entry.1 ∈ s.discoveryTopics) ∧
        (∀ topic config, s.retained topic = some config → OfRadio s.radioKey config) ∧
        (∀ topic, (s.retained topic).isSome → topic ∈ s.discoveryTopics) ∧
        ∀ topic ∈ s.discoveryTopics, (s.retained topic).isSome ∨ topic ∈ left.map Prod.fst
  | .removing list next =>
      s.loop = .serving ∧ list = s.earlierTopics.length ∧
        ∀ topic, (s.retained topic).isSome → topic ∈ s.discoveryTopics.drop next
  | .disconnecting =>
      (s.loop = .closing ∨ s.loop = .down) ∧ ∀ topic, s.retained topic = none
  | .replaying _ | .reporting _ | .ended => True

def pool : Pool State Task where
  tasks := State.tasks
  busy task := task.phase.changes
  rest := Settled
  held s task := Held s task.phase

/-- No handler is in the middle of a change. -/
abbrev Quiet (s : State) : Prop := ∀ task ∈ s.tasks, ¬ task.phase.changes

/-- The steps that leave one change at a time: none begins during another one, none is cut short by
a lost connection or the dispatch timeout, and a stop can reach the broker if there is anything to
clear. -/
def Apart (settings : Settings) (s : State) : Event → Prop
  | .health publicKey name =>
      s.connected → (∃ key ∈ truthy publicKey, s.radioKey ≠ some key ∨ renames s name) → Quiet s
  | .telemetry publicKey lppSensors _ =>
      s.connected → publicKey ∈ settings.trackedRepeaters ++ settings.trackedContacts →
        rediscovers s publicKey lppSensors → Quiet s
  | .stop => Quiet s ∧ (s.connected ∨ s.discoveryTopics = [])
  | .disconnects => Quiet s
  | .timesOut i => ∀ task ∈ s.tasks[i]?, ¬ task.phase.changes
  | _ => True

theorem retained_clear {topic other : Topic} (kept : ((s.clear topic).retained other).isSome) :
    other ≠ topic ∧ (s.retained other).isSome := by
  by_cases same : other = topic
  · subst same
    simp [State.clear] at kept
  · refine ⟨same, ?_⟩
    simpa [State.clear, Function.update_of_ne same] using kept

theorem retained_clear_some {topic other : Topic}
    (kept : (s.clear topic).retained other = some config) : s.retained other = some config := by
  by_cases same : other = topic
  · subst same
    simp [State.clear] at kept
  · simpa [State.clear, Function.update_of_ne same] using kept

theorem retained_retain (topic other : Topic) (config : Config) :
    (s.retain topic config).retained other =
      if other = topic then some config else s.retained other := by
  simp [State.retain, Function.update_apply]

theorem connected_of_serving (serving : s.loop = .serving) : s.connected = true := by
  simp [State.connected, serving]

/-- A handler stops next where it changes nothing that is retained. -/
def Rests (s t : State) (i : Nat) (handler : Handler) : Prop :=
  ∃ phase : Phase, phase.changes = false ∧ t = s.put i handler phase

theorem report_rests (states : List Topic) : Rests s (report s i handler states) i handler := by
  cases states with
  | nil => exact ⟨.ended, rfl, rfl⟩
  | cons state rest =>
      simp only [report]
      split
      · exact ⟨.reporting rest, rfl, rfl⟩
      · exact ⟨.ended, rfl, rfl⟩

theorem reportHealth_rests : Rests s (reportHealth settings s i) i .health := by
  unfold reportHealth
  split
  · exact report_rests _
  · exact report_rests _

theorem finish_rests : Rests s (finish settings s i handler) i handler := by
  cases handler with
  | health => exact reportHealth_rests
  | telemetry states => exact report_rests states
  | reconnect => exact ⟨.ended, rfl, rfl⟩
  | stop => exact ⟨.ended, rfl, rfl⟩

theorem replay_rests (states : List Topic) :
    Rests s (replay settings s i handler states) i handler := by
  cases states with
  | nil => exact finish_rests
  | cons state rest =>
      simp only [replay]
      split
      · exact ⟨.replaying rest, rfl, rfl⟩
      · exact finish_rests

/-- Where a handler stops next, with the other tasks and the loop as they were. -/
structure Stops (s t : State) (i : Nat) (handler : Handler) (phase : Phase) : Prop where
  tasks : t.tasks = s.tasks.set i ⟨handler, phase⟩
  loop : t.loop = s.loop
  stopped : t.stopped = s.stopped
  busy : phase.changes = true → Held t phase
  free : phase.changes = false → Settled t

def Goes (s t : State) (i : Nat) (handler : Handler) : Prop := ∃ phase, Stops s t i handler phase

theorem Rests.goes (rests : Rests s t i handler) (settled : Settled s) : Goes s t i handler := by
  obtain ⟨phase, free, rfl⟩ := rests
  refine ⟨phase, rfl, rfl, rfl, ?_, fun _ => ⟨settled.topics, settled.radio⟩⟩
  intro busy
  rw [free] at busy
  contradiction

theorem goes_busy (phase : Phase) (held : Held (s.put i handler phase) phase)
    (busy : phase.changes = true) : Goes s (s.put i handler phase) i handler := by
  refine ⟨phase, rfl, rfl, rfl, fun _ => held, ?_⟩
  intro free
  rw [busy] at free
  contradiction

/-- Of the state before only the tasks, the loop and the stops matter. -/
theorem Goes.before (goes : Goes t u i handler) (tasks : t.tasks = s.tasks) (loop : t.loop = s.loop)
    (stopped : t.stopped = s.stopped) : Goes s u i handler := by
  obtain ⟨phase, set, same, still, busy, free⟩ := goes
  exact ⟨phase, tasks ▸ set, same.trans loop, still.trans stopped, busy, free⟩

theorem publishConfigs_goes {left : List (Topic × Config)} {cachedStates : List Topic}
    (held : Held s (.publishing left cachedStates)) :
    Goes s (publishConfigs settings s i handler cachedStates left) i handler := by
  obtain ⟨serving, fits, radio, listed, due⟩ := held
  cases left with
  | nil =>
      refine (replay_rests cachedStates).goes ⟨fun topic => ⟨listed topic, fun member => ?_⟩, radio⟩
      exact (due topic member).resolve_right List.not_mem_nil
  | cons entry rest =>
      obtain ⟨topic, config⟩ := entry
      simp only [publishConfigs, connected_of_serving serving, if_true]
      refine (goes_busy _ ?_ rfl).before rfl rfl rfl
      have published : topic ∈ s.discoveryTopics := (fits _ List.mem_cons_self).2
      refine ⟨serving, fun entry member => fits entry (List.mem_cons_of_mem _ member), ?_, ?_, ?_⟩
      · intro other found kept
        change (s.retain topic config).retained other = some found at kept
        rw [retained_retain] at kept
        split at kept
        · cases kept
          exact (fits _ List.mem_cons_self).1
        · exact radio other found kept
      · intro other kept
        change ((s.retain topic config).retained other).isSome at kept
        rw [retained_retain] at kept
        split at kept
        · rename_i same
          exact same ▸ published
        · exact listed other kept
      · intro other member
        change ((s.retain topic config).retained other).isSome ∨ _
        rw [retained_retain]
        split
        · exact .inl rfl
        · rename_i different
          refine (due other member).imp_right fun found => ?_
          exact (List.mem_cons.mp found).resolve_left different

/-- `_discovery_topics` is bound to the new list once the stale topics are cleared. -/
theorem announce_goes {draft : Draft} (serving : s.loop = .serving)
    (fits : Fits s.radioKey draft.configs)
    (radio : ∀ topic config, s.retained topic = some config → OfRadio s.radioKey config)
    (listed : ∀ topic, (s.retained topic).isSome → topic ∈ draft.configs.map Prod.fst) :
    Goes s (publishConfigs settings (s.rebind (draft.configs.map Prod.fst)) i handler
      draft.cachedStates draft.configs) i handler := by
  have held : Held (s.rebind (draft.configs.map Prod.fst))
      (.publishing draft.configs draft.cachedStates) :=
    ⟨serving, fun entry member => ⟨fits entry member, List.mem_map_of_mem member⟩, radio, listed,
      fun topic member => .inr member⟩
  exact (publishConfigs_goes held).before rfl rfl rfl

theorem clearStale_goes {draft : Draft} {left : List Topic}
    (held : Held s (.clearingStale left draft)) :
    Goes s (clearStale settings s i handler draft left) i handler := by
  obtain ⟨serving, fits, radio, listed⟩ := held
  cases left with
  | nil =>
      exact announce_goes serving fits radio fun topic kept =>
        (listed topic kept).resolve_left List.not_mem_nil
  | cons topic rest =>
      simp only [clearStale, connected_of_serving serving, if_true]
      refine (goes_busy _ ?_ rfl).before rfl rfl rfl
      refine ⟨serving, fits, fun other config kept => radio other config (retained_clear_some kept), ?_⟩
      intro other kept
      obtain ⟨different, kept⟩ := retained_clear kept
      exact (listed other kept).imp_left fun found => (List.mem_cons.mp found).resolve_left different

theorem mem_staleTopics {draft : Draft} {topic : Topic} : topic ∈ staleTopics s draft ↔
    (topic ∈ s.discoveryTopics ∨ topic ∈ draft.legacyGeoTopics) ∧
      topic ∉ draft.configs.map Prod.fst := by
  simp only [staleTopics, List.mem_insertionSort, List.mem_dedup, List.mem_filter, List.mem_append,
    decide_eq_true_eq]

theorem gather_goes {draft : Draft} (serving : s.loop = .serving) (settled : Settled s)
    (known : s.radioKey.isSome) (fits : Fits s.radioKey draft.configs) (left : List Tracked) :
    Goes s (gather settings s i handler draft left) i handler := by
  cases left with
  | cons node rest =>
      have still : Settled (s.put i handler (.naming draft node rest)) :=
        ⟨settled.topics, settled.radio⟩
      exact goes_busy (.naming draft node rest) ⟨serving, still, known, fits⟩ rfl
  | nil =>
      obtain ⟨key, known⟩ := Option.isSome_iff_exists.mp known
      refine clearStale_goes ⟨serving, ?_, settled.radio, ?_⟩
      · intro entry member
        obtain member | member := List.mem_append.mp member
        · exact fits entry member
        · rw [List.mem_singleton.mp member, known]
          exact messageEventDiscoveryConfig_ofRadio _ _ _
      · intro topic kept
        rw [mem_staleTopics]
        by_cases renewed : topic ∈ (draft.withMessages settings s.radioKey).configs.map Prod.fst
        · exact .inr renewed
        · exact .inl ⟨.inl ((settled.topics topic).mp kept), renewed⟩

theorem publishDiscovery_goes (serving : s.loop = .serving) (settled : Settled s) :
    Goes s (publishDiscovery settings s i handler) i handler := by
  unfold publishDiscovery
  split
  · rename_i key found
    have known : s.radioKey = some key := (Option.filter_eq_some_iff.mp found).1
    refine gather_goes serving settled (known ▸ rfl) ?_ _
    rw [known]
    exact radioDiscoveryConfigs_ofRadio _ _ _
  · exact finish_rests.goes settled

/-- With nothing retained and nothing listed, any identity will do. -/
theorem settled_empty (none : ∀ topic, s.retained topic = none) (empty : s.discoveryTopics = []) :
    Settled s := by
  constructor <;> simp [none, empty]

theorem clearOld_goes {left : List Topic} {key : String} {name : Option String}
    (held : Held s (.clearingOld left key name)) :
    Goes s (clearOld settings s i key name left) i .health := by
  obtain ⟨serving, listed⟩ := held
  cases left with
  | nil =>
      have cleared : ∀ topic, s.retained topic = none := fun topic =>
        Option.not_isSome_iff_eq_none.mp fun kept => List.not_mem_nil (listed topic kept)
      let fresh := { s with discoveryTopics := [], radioKey := some key, radioName := name }
      refine Goes.before (t := fresh) (publishDiscovery_goes serving ?_) rfl rfl rfl
      exact settled_empty cleared rfl
  | cons topic rest =>
      simp only [clearOld, connected_of_serving serving, if_true]
      refine (goes_busy _ ?_ rfl).before rfl rfl rfl
      refine ⟨serving, ?_⟩
      intro other kept
      obtain ⟨different, kept⟩ := retained_clear kept
      exact (List.mem_cons.mp (listed other kept)).resolve_left different

theorem clearRadio_goes {left : List Topic} (held : Held s (.clearingRadio left)) :
    Goes s (clearRadio settings s i left) i .health := by
  obtain ⟨serving, none, empty⟩ := held
  cases left with
  | nil => exact publishDiscovery_goes serving (settled_empty none empty)
  | cons topic rest =>
      simp only [clearRadio, connected_of_serving serving, if_true]
      refine (goes_busy _ ?_ rfl).before rfl rfl rfl
      refine ⟨serving, fun other => ?_, empty⟩
      refine Option.not_isSome_iff_eq_none.mp fun kept => ?_
      have before := (retained_clear kept).2
      rw [none other] at before
      contradiction

theorem changeKey_goes (serving : s.loop = .serving) (settled : Settled s) (key : String)
    (name : Option String) : Goes s (changeKey settings s i key name) i .health := by
  have none : s.discoveryTopics = [] → ∀ topic, s.retained topic = none := by
    intro empty topic
    refine Option.not_isSome_iff_eq_none.mp fun kept => ?_
    have listed := (settled.topics topic).mp kept
    simp [empty] at listed
  unfold changeKey
  split
  · rename_i empty _
    let fresh := { s with radioKey := some key, radioName := name }
    refine Goes.before (t := fresh) (publishDiscovery_goes serving ?_) rfl rfl rfl
    exact settled_empty (none empty) empty
  · rename_i empty _
    let fresh := { s with radioKey := some key, radioName := name }
    refine Goes.before (t := fresh) (clearRadio_goes ?_) rfl rfl rfl
    exact ⟨serving, none empty, empty⟩
  · exact clearOld_goes ⟨serving, fun topic => (settled.topics topic).mp⟩

theorem withNode_fits {draft : Draft} (fits : Fits radioKey draft.configs) (node : Tracked)
    (name : String) : Fits radioKey (draft.withNode settings radioKey node name).configs := by
  intro entry member
  obtain member | member := List.mem_append.mp member
  · exact fits entry member
  · obtain ⟨kind, pubKey⟩ := node
    cases kind with
    | repeater => exact repeaterDiscoveryConfigs_ofRadio radioKey entry member
    | contact =>
        rw [List.mem_singleton.mp member]
        exact contactTrackerDiscoveryConfig_ofRadio _ _ _ _

theorem withSensors_fits {draft : Draft} (fits : Fits radioKey draft.configs) (node : Tracked)
    (name : String) (latest : Option Snapshot) :
    Fits radioKey (draft.withSensors settings radioKey node name latest).configs := by
  cases latest with
  | none => exact fits
  | some snapshot =>
      intro entry member
      obtain member | member := List.mem_append.mp member
      · exact fits entry member
      · refine lppDiscoveryConfigs_ofRadio ?_ entry member
        rw [devicePayload_model]
        cases node.kind <;> decide

theorem Settled.congr (settled : Settled s) (retained : t.retained = s.retained)
    (topics : t.discoveryTopics = s.discoveryTopics) (key : t.radioKey = s.radioKey) :
    Settled t := by
  obtain ⟨listed, radio⟩ := settled
  constructor
  · simpa only [retained, topics] using listed
  · simpa only [retained, key] using radio

theorem Held.congr {phase : Phase} (held : Held s phase) (retained : t.retained = s.retained)
    (loop : t.loop = s.loop) (topics : t.discoveryTopics = s.discoveryTopics)
    (earlier : t.earlierTopics = s.earlierTopics) (key : t.radioKey = s.radioKey) :
    Held t phase := by
  cases phase with
  | naming draft node left =>
      obtain ⟨serving, settled, known, fits⟩ := held
      exact ⟨loop ▸ serving, settled.congr retained topics key, key ▸ known, key ▸ fits⟩
  | sampling draft node name left =>
      obtain ⟨serving, settled, known, fits⟩ := held
      exact ⟨loop ▸ serving, settled.congr retained topics key, key ▸ known, key ▸ fits⟩
  | replaying | reporting | ended => trivial
  | _ => simpa only [Held, retained, loop, topics, earlier, key] using held

/-- What every run keeps. -/
structure Inv (s : State) : Prop where
  guarded : Guarded pool s
  connecting : s.loop = .connecting → Quiet s
  closing : s.loop = .closing → ¬ Quiet s
  stopped : s.stopped = true → s.loop = .down ∧ s.discoveryTopics = [] ∧ Quiet s

theorem Inv.running (inv : Inv s) (up : s.loop ≠ .down) : s.stopped = false := by
  cases stopped : s.stopped with
  | false => rfl
  | true => exact (up (inv.stopped stopped).1).elim

theorem Inv.serving (inv : Inv s) (connected : s.connected = true) (quiet : Quiet s) :
    s.loop = .serving := by
  cases loop : s.loop with
  | serving => rfl
  | closing => exact (inv.closing loop quiet).elim
  | connecting => simp [State.connected, loop] at connected
  | down => simp [State.connected, loop] at connected

/-- The rule for a task in the middle of a change, where it stops next. -/
theorem Goes.inv (goes : Goes s t i handler) (sole : Sole pool s i) (inside : i < s.tasks.length)
    (serving : s.loop = .serving) (running : s.stopped = false) : Inv t := by
  obtain ⟨phase, tasks, loop, stopped, busy, free⟩ := goes
  have found : t.tasks[i]? = some ⟨handler, phase⟩ := by
    rw [tasks, List.getElem?_set_self inside]
  have owes : Owes pool t ⟨handler, phase⟩ := ⟨busy, fun changes => free (eq_false_of_ne_true changes)⟩
  refine ⟨(sole.set tasks).guarded found owes, ?_, ?_, ?_⟩
  · simp [loop, serving]
  · simp [loop, serving]
  · simp [stopped, running]

/-- The rule for a step of a task that changes nothing. -/
theorem Inv.frame (inv : Inv s) (guarded : Guarded pool t) (quiet : Quiet t ↔ Quiet s)
    (loop : t.loop = s.loop) (topics : t.discoveryTopics = s.discoveryTopics)
    (stopped : t.stopped = s.stopped) : Inv t := by
  refine ⟨guarded, ?_, ?_, ?_⟩
  · rw [loop, quiet]
    exact inv.connecting
  · rw [loop, quiet]
    exact inv.closing
  · rw [stopped, loop, topics, quiet]
    exact inv.stopped

theorem Inv.aside {phase : Phase} (inv : Inv s) (found : s.tasks[i]? = some task)
    (wasFree : task.phase.changes = false) (free : phase.changes = false) :
    Inv (s.put i handler phase) := by
  have keep : ∀ u, pool.held s u → pool.held (s.put i handler phase) u :=
    fun u held => Held.congr held rfl rfl rfl rfl rfl
  have old : ¬ pool.busy task := ne_true_of_eq_false wasFree
  have new : ¬ pool.busy ⟨handler, phase⟩ := ne_true_of_eq_false free
  have quiet : Idle pool (s.put i handler phase) ↔ Idle pool s := idle_aside found old rfl new
  refine inv.frame ?_ quiet rfl rfl rfl
  exact inv.guarded.aside found old rfl new (fun settled => settled.congr rfl rfl rfl) keep

theorem Rests.inv (inv : Inv s) (found : s.tasks[i]? = some task)
    (wasFree : task.phase.changes = false) (rests : Rests s t i handler) : Inv t := by
  obtain ⟨phase, free, rfl⟩ := rests
  exact inv.aside found wasFree free

theorem set_call (task : Task) : (s.call handler).tasks.set s.tasks.length task = s.tasks ++ [task] := by
  simp [State.call]

/-- A call that changes nothing. -/
theorem Rests.call_inv (inv : Inv s) (rests : Rests (s.call handler) t s.tasks.length handler) :
    Inv t := by
  obtain ⟨phase, free, rfl⟩ := rests
  have keep : ∀ u, pool.held s u →
      pool.held ((s.call handler).put s.tasks.length handler phase) u :=
    fun u held => Held.congr held rfl rfl rfl rfl rfl
  have new : ¬ pool.busy ⟨handler, phase⟩ := ne_true_of_eq_false free
  set t := (s.call handler).put s.tasks.length handler phase
  have tasks : pool.tasks t = pool.tasks s ++ [⟨handler, phase⟩] := set_call _
  have quiet : Idle pool t ↔ Idle pool s := idle_joined tasks new
  refine inv.frame ?_ quiet rfl rfl rfl
  exact inv.guarded.joined tasks new (fun settled => settled.congr rfl rfl rfl) keep

theorem call_sole (quiet : Quiet s) : Sole pool (s.call handler) s.tasks.length := by
  have idle : Idle pool s := quiet
  exact idle.append rfl

theorem call_inside : s.tasks.length < (s.call handler).tasks.length := by
  simp [State.call]

/-- A call that begins a change. -/
theorem Goes.call_inv (handler : Handler) (inv : Inv s) (quiet : Quiet s) (connected : s.connected = true)
    (goes : (s.call handler).loop = .serving → Settled (s.call handler) →
      Goes (s.call handler) t s.tasks.length handler) : Inv t := by
  have serving := inv.serving connected quiet
  have settled : Settled s := inv.guarded.rest quiet
  have running := inv.running (by simp [serving])
  exact (goes serving (settled.congr rfl rfl rfl)).inv (call_sole quiet) call_inside serving running

theorem onHealth_inv {publicKey name : Option String} (inv : Inv s) (connected : s.connected = true)
    (apart : Apart settings s (.health publicKey name)) :
    Inv (onHealth settings (s.call .health) s.tasks.length publicKey name) := by
  unfold onHealth
  split
  · rename_i key found
    split
    · rename_i changed
      have quiet := apart connected ⟨key, found, .inl changed⟩
      refine Goes.call_inv .health inv quiet connected fun serving settled => ?_
      exact changeKey_goes serving settled key name
    · split
      · rename_i renamed
        have quiet := apart connected ⟨key, found, .inr renamed⟩
        refine Goes.call_inv .health inv quiet connected fun serving settled => ?_
        refine Goes.before (t := { s.call .health with radioName := name })
          (publishDiscovery_goes serving ?_) rfl rfl rfl
        exact settled.congr rfl rfl rfl
      · exact Rests.call_inv inv reportHealth_rests
  · exact Rests.call_inv inv reportHealth_rests

theorem onTelemetry_inv (inv : Inv s) (connected : s.connected = true)
    (listed : publicKey ∈ settings.trackedRepeaters ++ settings.trackedContacts)
    (apart : Apart settings s (.telemetry publicKey lppSensors located)) :
    Inv (onTelemetry settings
      (s.call (.telemetry (telemetryStates settings publicKey located))) s.tasks.length
      publicKey lppSensors located) := by
  simp only [onTelemetry]
  split
  · rename_i missing
    have quiet := apart connected listed missing
    refine Goes.call_inv (.telemetry (telemetryStates settings publicKey located)) inv quiet connected fun serving settled => ?_
    exact publishDiscovery_goes serving settled
  · exact Rests.call_inv inv (report_rests _)

/-- The end of a stop that has left nothing. -/
theorem shut_inv (sole : Sole pool s i) (inside : i < s.tasks.length)
    (none : ∀ topic, s.retained topic = none) : Inv (s.shut.put i .stop .ended) := by
  set t := s.shut.put i .stop .ended
  have alone : Sole pool t i := sole.set rfl
  have found : (pool.tasks t)[i]? = some ⟨.stop, .ended⟩ := List.getElem?_set_self inside
  have quiet : Idle pool t := alone.idle found (ne_true_of_eq_false rfl)
  have settled : Settled t := settled_empty none rfl
  refine ⟨quiet.guarded settled, fun _ => quiet, ?_, fun _ => ⟨rfl, rfl, quiet⟩⟩
  intro loop
  cases loop

theorem getElem?_cancelLoop (j : Nat) (task : Task) (found : s.cancelLoop.tasks[j]? = some task)
    (changes : task.phase.changes = true) : s.tasks[j]? = some task := by
  simp only [State.cancelLoop, List.getElem?_map, Option.map_eq_some_iff] at found
  obtain ⟨⟨handler, phase⟩, there, rfl⟩ := found
  cases handler with
  | reconnect => contradiction
  | _ => exact there

theorem cancelLoop_sole (sole : Sole pool s i) : Sole pool s.cancelLoop i :=
  fun j task found changes => sole j task (getElem?_cancelLoop j task found changes) changes

theorem disconnect_inv (running : s.loop ≠ .down → s.stopped = false) (sole : Sole pool s i) (inside : i < s.tasks.length)
    (none : ∀ topic, s.retained topic = none) : Inv (disconnect s i) := by
  unfold disconnect
  split
  · exact shut_inv sole inside none
  · rename_i up
    set t := s.cancelLoop.put i .stop .disconnecting
    have alone : Sole pool t i := (cancelLoop_sole sole).set rfl
    have length : i < s.cancelLoop.tasks.length := by simpa [State.cancelLoop] using inside
    have found : (pool.tasks t)[i]? = some ⟨.stop, .disconnecting⟩ := List.getElem?_set_self length
    have loop : t.loop = .closing ∨ t.loop = .down :=
      ite_eq_or_eq (s.connected = true) Loop.closing Loop.down
    have busy : pool.busy ⟨.stop, .disconnecting⟩ := rfl
    refine ⟨alone.guarded found (owes_busy ⟨loop, none⟩ busy), ?_, ?_, ?_⟩
    · intro connecting
      obtain loop | loop := loop
      · cases connecting.symm.trans loop
      · cases connecting.symm.trans loop
    · intro _ quiet
      exact quiet _ (List.mem_of_getElem? found) busy
    · intro stopped
      cases (running up).symm.trans stopped

theorem removeNext_inv (running : s.loop ≠ .down → s.stopped = false) (sole : Sole pool s i)
    (inside : i < s.tasks.length) (held : Held s (.removing list next)) :
    Inv (removeNext s i list next) := by
  obtain ⟨serving, rfl, listed⟩ := held
  have current : (s.earlierTopics ++ [s.discoveryTopics])[s.earlierTopics.length]? =
      some s.discoveryTopics := by
    simp
  unfold removeNext
  rw [current, Option.bind_some]
  split
  · rename_i topic found
    rw [if_pos (connected_of_serving serving)]
    have goes : Goes (s.clear topic)
        ((s.clear topic).put i .stop (.removing s.earlierTopics.length (next + 1))) i .stop := by
      refine goes_busy _ ⟨serving, rfl, fun other kept => ?_⟩ rfl
      obtain ⟨different, kept⟩ := retained_clear kept
      have member := listed other kept
      rw [List.drop_eq_getElem?_toList_append, found] at member
      exact (List.mem_cons.mp member).resolve_left different
    have alone : Sole pool (s.clear topic) i := sole
    exact goes.inv alone inside serving (running (by simp [serving]))
  · rename_i missing
    refine disconnect_inv running sole inside fun topic => ?_
    refine Option.not_isSome_iff_eq_none.mp fun kept => ?_
    have member := listed topic kept
    rw [List.drop_eq_nil_of_le (List.getElem?_eq_none_iff.mp missing)] at member
    exact List.not_mem_nil member

theorem onStop_inv (inv : Inv s) (apart : Apart settings s .stop) :
    Inv (onStop (s.call .stop) s.tasks.length) := by
  obtain ⟨quiet, reachable⟩ := apart
  have settled : Settled s := inv.guarded.rest quiet
  have running : (s.call .stop).loop ≠ .down → (s.call .stop).stopped = false := inv.running
  unfold onStop
  split
  · rename_i connected
    have serving : s.loop = .serving := inv.serving connected.1 quiet
    refine removeNext_inv running (call_sole quiet) call_inside ⟨serving, rfl, ?_⟩
    exact fun topic => (settled.topics topic).mp
  · rename_i silent
    have empty : s.discoveryTopics = [] := by
      by_contra listed
      exact silent ⟨reachable.resolve_right listed, listed⟩
    refine disconnect_inv running (call_sole quiet) call_inside fun topic => ?_
    refine Option.not_isSome_iff_eq_none.mp fun kept => ?_
    have member := (settled.topics topic).mp kept
    simp [empty] at member

/-- A task in the middle of a change goes on. -/
theorem Inv.goes_on (inv : Inv s) (found : s.tasks[i]? = some task) (changes : task.phase.changes = true)
    (serving : Held s task.phase → s.loop = .serving) (goes : Held s task.phase → Goes s t i handler) :
    Inv t := by
  obtain ⟨sole, held⟩ := inv.guarded.held i task found changes
  have loop := serving held
  have inside := (List.getElem?_eq_some_iff.mp found).1
  exact (goes held).inv sole inside loop (inv.running (by simp [loop]))

theorem resume_inv (inv : Inv s) (found : s.tasks[i]? = some task)
    (resumed : resume settings s i task = some t) : Inv t := by
  obtain ⟨handler, phase⟩ := task
  have inside := (List.getElem?_eq_some_iff.mp found).1
  cases phase with
  | clearingOld left key name =>
      cases resumed
      exact inv.goes_on found rfl And.left clearOld_goes
  | clearingRadio left =>
      cases resumed
      exact inv.goes_on found rfl And.left clearRadio_goes
  | clearingStale left draft =>
      cases resumed
      exact inv.goes_on found rfl And.left clearStale_goes
  | publishing left cachedStates =>
      cases resumed
      exact inv.goes_on found rfl And.left publishConfigs_goes
  | replaying left =>
      cases resumed
      exact Rests.inv inv found rfl (replay_rests left)
  | reporting left =>
      cases resumed
      exact Rests.inv inv found rfl (report_rests left)
  | removing list next =>
      cases resumed
      obtain ⟨sole, held⟩ := inv.guarded.held i _ found rfl
      exact removeNext_inv inv.running sole inside held
  | disconnecting =>
      cases resumed
      obtain ⟨sole, _, none⟩ := inv.guarded.held i _ found rfl
      exact shut_inv sole inside none
  | naming | sampling | ended => contradiction

theorem connects_inv (inv : Inv s) (connecting : s.loop = .connecting) :
    Inv (publishDiscovery settings ({ s with loop := .serving }.call .reconnect) s.tasks.length
      .reconnect) := by
  have quiet := inv.connecting connecting
  have settled : Settled s := inv.guarded.rest quiet
  have running := inv.running (by simp [connecting])
  set t : State := { s with loop := .serving }
  have calm : Quiet t := quiet
  have goes : Goes (t.call .reconnect) (publishDiscovery settings (t.call .reconnect)
      s.tasks.length .reconnect) s.tasks.length .reconnect :=
    publishDiscovery_goes rfl (settled.congr rfl rfl rfl)
  exact goes.inv (call_sole calm) call_inside rfl running

theorem disconnects_inv (inv : Inv s) (quiet : Quiet s) (serving : s.loop = .serving) :
    Inv { s with loop := .connecting } := by
  set t : State := { s with loop := .connecting }
  have settled : Settled s := inv.guarded.rest quiet
  have calm : Idle pool t := quiet
  refine ⟨calm.guarded (settled.congr rfl rfl rfl), fun _ => quiet, ?_, ?_⟩
  · intro closing
    cases closing
  · intro stopped
    cases (inv.running (by simp [serving])).symm.trans stopped

theorem closes_inv (inv : Inv s) (closing : s.loop = .closing) : Inv { s with loop := .down } := by
  set t : State := { s with loop := .down }
  have keep : ∀ task, pool.held s task → pool.held t task := by
    rintro ⟨handler, phase⟩ held
    have apart : s.loop ≠ .serving := by simp [closing]
    cases phase with
    | disconnecting => exact ⟨.inr rfl, held.2⟩
    | replaying | reporting | ended => trivial
    | _ => exact (apart held.1).elim
  have guarded : Guarded pool t :=
    inv.guarded.frame (fun there _ => there) id (fun settled => settled.congr rfl rfl rfl) keep
  refine ⟨guarded, ?_, ?_, ?_⟩
  · intro connecting
    cases connecting
  · intro still
    cases still
  · intro stopped
    cases (inv.running (by simp [closing])).symm.trans stopped

theorem named_inv {draft : Draft} {node : Tracked} {left : List Tracked} (inv : Inv s)
    (found : s.tasks[i]? = some ⟨handler, .naming draft node left⟩) (name : String) :
    Inv (s.put i handler
      (.sampling (draft.withNode settings s.radioKey node name) node name left)) := by
  have goes : Held s (.naming draft node left) → Goes s (s.put i handler
      (.sampling (draft.withNode settings s.radioKey node name) node name left)) i handler := by
    rintro ⟨serving, settled, known, fits⟩
    refine goes_busy _ ⟨serving, settled.congr rfl rfl rfl, known, ?_⟩ rfl
    exact withNode_fits fits node name
  exact inv.goes_on found rfl And.left goes

theorem sampled_inv {draft : Draft} {node : Tracked} {left : List Tracked} (inv : Inv s)
    (found : s.tasks[i]? = some ⟨handler, .sampling draft node name left⟩)
    (latest : Option Snapshot) :
    Inv (gather settings s i handler (draft.withSensors settings s.radioKey node name latest)
      left) := by
  have goes : Held s (.sampling draft node name left) → Goes s (gather settings s i handler
      (draft.withSensors settings s.radioKey node name latest) left) i handler := by
    rintro ⟨serving, settled, known, fits⟩
    exact gather_goes serving settled known (withSensors_fits fits node name latest) left
  exact inv.goes_on found rfl And.left goes

theorem step_inv (inv : Inv s) (apart : Apart settings s event)
    (stepped : step settings s event = some t) : Inv t := by
  cases event with
  | connects =>
      simp only [step] at stepped
      split at stepped
      · rename_i connecting
        cases stepped
        exact connects_inv inv connecting
      · contradiction
  | disconnects =>
      simp only [step] at stepped
      split at stepped
      · rename_i free
        cases stepped
        exact disconnects_inv inv apart free.1
      · contradiction
  | health publicKey name =>
      simp only [step] at stepped
      split at stepped
      · rename_i connected
        cases stepped
        exact onHealth_inv inv connected apart
      · cases stepped
        exact inv
  | telemetry publicKey lppSensors located =>
      simp only [step] at stepped
      split at stepped
      · rename_i wanted
        cases stepped
        exact onTelemetry_inv inv wanted.1 wanted.2 apart
      · cases stepped
        exact inv
  | stop =>
      cases stepped
      exact onStop_inv inv apart
  | named i name =>
      simp only [step] at stepped
      split at stepped
      · rename_i found
        cases stepped
        exact named_inv inv found _
      · contradiction
  | sampled i latest =>
      simp only [step] at stepped
      split at stepped
      · rename_i found
        cases stepped
        exact sampled_inv inv found latest
      · contradiction
  | resumes i =>
      obtain ⟨task, found, resumed⟩ := Option.bind_eq_some_iff.mp stepped
      exact resume_inv inv found resumed
  | closes =>
      simp only [step] at stepped
      split at stepped
      · rename_i closing
        cases stepped
        exact closes_inv inv closing
      · contradiction
  | timesOut i =>
      -- A handler that is given up on was in the middle of no change.
      simp only [step] at stepped
      split at stepped
      · rename_i phase found
        split at stepped
        · contradiction
        · cases stepped
          exact inv.aside found (eq_false_of_ne_true (apart _ found)) rfl
      · rename_i states phase found
        split at stepped
        · contradiction
        · cases stepped
          exact inv.aside found (eq_false_of_ne_true (apart _ found)) rfl
      · contradiction

theorem start_inv (key name : Option String) : Inv (start key name) := by
  have idle : Idle pool (start key name) := fun task member => (List.not_mem_nil member).elim
  refine ⟨idle.guarded (settled_empty (fun _ => rfl) rfl), fun _ => idle, ?_, ?_⟩
  · intro closing
    cases closing
  · intro stopped
    cases stopped

/-- No dead entity: while no handler is in progress what is retained is what `_discovery_topics`
lists, and of radios only the present one; after a stop nothing is. -/
structure Clean (s : State) : Prop where
  topics : (∀ task ∈ s.tasks, task.phase.done) →
    ∀ topic, (s.retained topic).isSome ↔ topic ∈ s.discoveryTopics
  radio : (∀ task ∈ s.tasks, task.phase.done) →
    ∀ topic config, s.retained topic = some config → OfRadio s.radioKey config
  gone : s.stopped = true → ∀ topic, s.retained topic = none

theorem quiet_of_done (done : ∀ task ∈ s.tasks, task.phase.done) : Quiet s := by
  intro task member changes
  have ended := done task member
  cases phase : task.phase with
  | ended => simp [phase, Phase.changes] at changes
  | _ => simp [phase, Phase.done] at ended

theorem Inv.clean (inv : Inv s) : Clean s := by
  refine ⟨?_, ?_, ?_⟩
  · intro done
    have settled : Settled s := inv.guarded.rest (quiet_of_done done)
    exact settled.topics
  · intro done
    have settled : Settled s := inv.guarded.rest (quiet_of_done done)
    exact settled.radio
  · intro stopped topic
    obtain ⟨_, empty, quiet⟩ := inv.stopped stopped
    have settled : Settled s := inv.guarded.rest quiet
    refine Option.not_isSome_iff_eq_none.mp fun kept => ?_
    have listed := (settled.topics topic).mp kept
    simp [empty] at listed

theorem discovery_clean (settings : Settings) (key name : Option String)
    (run : Reaches (step settings) (Apart settings) (start key name) s) : Clean s :=
  (run.invariant step_inv (start_inv key name)).clean

instance decidableApart (settings : Settings) (s : State) :
    ∀ event, Decidable (Apart settings s event)
  | .health publicKey name => inferInstanceAs (Decidable (s.connected →
      (∃ key ∈ truthy publicKey, s.radioKey ≠ some key ∨ renames s name) → Quiet s))
  | .telemetry publicKey lppSensors _ => inferInstanceAs (Decidable (s.connected →
      publicKey ∈ settings.trackedRepeaters ++ settings.trackedContacts →
        rediscovers s publicKey lppSensors → Quiet s))
  | .stop => inferInstanceAs (Decidable (Quiet s ∧ (s.connected ∨ s.discoveryTopics = [])))
  | .disconnects => inferInstanceAs (Decidable (Quiet s))
  | .timesOut i => inferInstanceAs (Decidable (∀ task ∈ s.tasks[i]?, ¬ task.phase.changes))
  | .connects | .named _ _ | .sampled _ _ | .resumes _ | .closes => inferInstanceAs (Decidable True)

/-- A module that tracks no node. -/
def bare : Settings := ⟨"meshcore", [], []⟩

/-- The first health snapshot of a radio is announced, entity by entity. -/
theorem announced_clean : ∃ s : State, s.discoveryTopics.length = 12 ∧
    (∀ task ∈ s.tasks, task.phase.done) ∧ Clean s := by
  have ran : (executeWhere (step bare) (Apart bare) (start none none)
      ([.connects, .health (some "AB12") (some "Roof")] ++ List.replicate 13 (.resumes 1))).any
      (fun s => decide (s.discoveryTopics.length = 12 ∧ ∀ task ∈ s.tasks, task.phase.done)) =
        true := by
    decide +kernel
  obtain ⟨s, executed, holds⟩ := (Option.any_eq_true _ _).mp ran
  obtain ⟨listed, done⟩ := of_decide_eq_true holds
  exact ⟨s, listed, done, discovery_clean bare none none (executeWhere_reaches executed)⟩

/-- A stop that comes while the callback of the connection publishes clears a topic first, which is
published after that and stays. -/
theorem stopped_while_publishing : ∃ s : State,
    Reaches (step bare) Any (start (some "ab12") none) s ∧ ¬ Clean s := by
  have ran : (execute (step bare) (start (some "ab12") none)
      ([.connects, .stop, .resumes 1, .resumes 0] ++ List.replicate 11 (.resumes 1) ++
        [.closes, .resumes 1])).any
      (fun s => decide (s.stopped = true ∧
        s.retained (sensorTopic "ab12" "noise_floor") ≠ none)) = true := by
    decide +kernel
  obtain ⟨s, executed, holds⟩ := (Option.any_eq_true _ _).mp ran
  obtain ⟨stopped, kept⟩ := of_decide_eq_true holds
  exact ⟨s, execute_reaches executed, fun clean => kept (clean.gone stopped _)⟩

end Meshloom.HaDiscovery
