import Meshloom.Fanout.ManagerInvariant

/-! No module runs without being registered, as long as no running module raises in `stop` and
no restart brings back a module that was removed meanwhile: `remove_config` takes no lock. -/
namespace Meshloom.FanoutManager
open Transition
variable {s r : State} {t : Nat} {m : Module} {id : String}

/-- The operations besides `load_from_db`, which runs when the server starts. -/
def Listed : Event → Prop
  | .spawn _ .loadFromDb => False
  | _ => True

/-- No running module raises in `stop`, and a module whose restart succeeds is registered. -/
def Orderly (s : State) : Event → Prop
  | .stopped t ok => ok = true ∨ ∀ k m, s.tasks.get? t = some k → k.stops? = some m → m ∉ s.running
  | .started t ok => ok = false ∨
    ∀ id m, s.tasks.get? t = some (.restartStarting id m) → s.modules.get? id = some m
  | _ => True

theorem spawn_invariant (invariant : Invariant s) (listed : Listed (.spawn t operation))
    (stepped : step s (.spawn t operation) = some r) : Invariant r := by
  simp only [step] at stepped
  split at stepped
  · contradiction
  · rename_i absent
    cases stepped
    have fine := invariant.fine t
    rw [absent] at fine
    have acquiring (id : String) (job : Job) (expected : (Task.acquiring id job).Expected) :
        Sound s t (.acquiring id job) :=
      ⟨(by intros; contradiction), (by intros; contradiction), (by intros; contradiction), (by intros; contradiction), expected⟩
    apply Fine.invariant
    cases operation with
    | loadFromDb => exact listed.elim
    | reloadConfig id => exact fine.at (acquiring _ _ trivial)
    | removeConfig id => exact removeConfig_fine fine (by intros; contradiction)
    | restartModule id m => exact fine.at (acquiring _ _ trivial)
    | syncSystemModules => exact fine.at (acquiring _ _ rfl)
    | stopSystemModule => exact fine.at (acquiring _ _ trivial)
    | disableBotsUntilRestart =>
        simp only [begin]
        split
        · exact fine
        · refine disableRest_fine ?_ _
          obtain ⟨rows, stored, bounded, others, _, covered⟩ := fine
          refine ⟨rows, stored, bounded, fun u k other found => ?_, (by intros; contradiction), covered⟩
          obtain ⟨locked, vacant, idle, restarted, expected⟩ := others u k other found
          exact ⟨locked, vacant, idle, restarted, expected⟩

/-- A task gets a lock that is free. -/
theorem Fine.acquire (fine : Fine s t none) (free : s.restartLocks.get? id = none) :
    Fine { s with restartLocks := s.restartLocks.set id t } t none := by
  have keeps : Keeps t s { s with restartLocks := s.restartLocks.set id t } := by
    refine ⟨rfl, rfl, le_rfl, fun other u different locked => ?_, fun _ => .inl rfl, fun _ => .inl⟩
    rw [Dict.get?_set, if_neg, locked]
    rintro rfl
    rw [free] at locked
    contradiction
  exact ⟨fine.rows, fine.stored, fine.bounded,
    fun u k other found => (fine.others u k other found).keeps keeps other, (by intros; contradiction), fine.covered⟩

theorem locked_fine (fine : Fine s t none) (held : s.restartLocks.get? id = some t)
    (system : job = .sync → id = systemMeshloomStatsId) :
    Fine (locked s id job).1 t (locked s id job).2 := by
  cases job with
  | reload =>
      refine removeConfig_fine fine ?_
      rintro id' ⟨⟩
      exact ⟨held, rfl⟩
  | restart m =>
      simp only [locked]
      split
      · rename_i registered
        obtain ⟨same, known⟩ := fine.stored id m registered
        refine fine.at ⟨?_, (by intros; contradiction), (by intros; contradiction), ?_, trivial⟩
        · rintro id' ⟨⟩
          exact held
        · rintro id' m' ⟨⟩
          exact ⟨same, known, .inl registered⟩
      · exact fine.release held
  | sync =>
      refine fine.at ⟨?_, (by intros; contradiction), (by intros; contradiction), (by intros; contradiction), trivial⟩
      rintro id' ⟨⟩
      exact system rfl ▸ held
  | stopSystem =>
      refine removeConfig_fine fine ?_
      rintro id' ⟨⟩
      exact ⟨held, rfl⟩

theorem acquired_invariant (invariant : Invariant s) (stepped : step s (.acquired t) = some r) :
    Invariant r := by
  simp only [step] at stepped
  split at stepped
  · rename_i id job standing
    have fine := invariant.fine t
    rw [standing] at fine
    have expected := (fine.own _ rfl).expected
    split at stepped
    · contradiction
    · rename_i free
      cases stepped
      refine (locked_fine ((fine.idle rfl).acquire free) (by simp) ?_).invariant
      rintro rfl
      exact expected
  · contradiction

/-- The module that a task stops has stopped, or was not running. -/
theorem Fine.stopped (fine : Fine s t (some k)) (stops : k.stops? = some m)
    (idle : ok = true ∨ m ∉ s.running) : Fine (s.stopped m ok) t none ∧ m ∉ (s.stopped m ok).running := by
  have fewer : (s.stopped m ok).running ⊆ s.running ∧ m ∉ (s.stopped m ok).running := by
    unfold State.stopped
    split
    · exact ⟨Finset.erase_subset _ _, Finset.notMem_erase _ _⟩
    · rename_i raised
      exact ⟨Finset.Subset.refl _, idle.resolve_left raised⟩
  have same : (s.stopped m ok).rows = s.rows ∧ (s.stopped m ok).modules = s.modules ∧
      (s.stopped m ok).restartLocks = s.restartLocks ∧ (s.stopped m ok).tasks = s.tasks ∧
      (s.stopped m ok).nextInstance = s.nextInstance := by
    unfold State.stopped
    split
    · exact ⟨rfl, rfl, rfl, rfl, rfl⟩
    · exact ⟨rfl, rfl, rfl, rfl, rfl⟩
  obtain ⟨rows, modules, locks, tasks, next⟩ := same
  have keeps : Keeps t s (s.stopped m ok) := by
    refine ⟨rows, tasks, next.ge, fun id u _ found => locks ▸ found, fun _ => .inl (by rw [modules]),
      fun other running => .inl (fewer.1 running)⟩
  refine ⟨⟨?_, ?_, ?_, fun u k other found => ?_, (by intros; contradiction), ?_⟩, fewer.2⟩
  · rw [rows]
    exact fine.rows
  · rw [modules, next]
    exact fine.stored
  · rw [next]
    exact fun other running => fine.bounded other (fewer.1 running)
  · rw [tasks] at found
    exact (fine.others u k other found).keeps keeps other
  · rw [modules, tasks]
    intro other running
    obtain registered | stopping | ⟨k, ⟨⟩, stops'⟩ := fine.covered other (fewer.1 running)
    · exact .inl registered
    · exact .inr (.inl stopping)
    · rw [stops] at stops'
      cases stops'
      exact absurd running fewer.2

theorem stopped_invariant (invariant : Invariant s) (orderly : Orderly s (.stopped t ok))
    (stepped : step s (.stopped t ok) = some r) : Invariant r := by
  have fine := invariant.fine t
  simp only [step] at stepped
  split at stepped
  · rename_i m after standing
    cases stepped
    rw [standing] at fine
    have sound := fine.own _ rfl
    have idle : ok = true ∨ m ∉ s.running := orderly.imp_right fun calm => calm _ m standing rfl
    refine (afterStop_fine (fine.stopped rfl idle).1 fun id held => ?_).invariant
    have same : (s.stopped m ok).restartLocks = s.restartLocks ∧ (s.stopped m ok).modules = s.modules := by
      unfold State.stopped
      split
      · exact ⟨rfl, rfl⟩
      · exact ⟨rfl, rfl⟩
    rw [same.1, same.2]
    exact ⟨sound.locked id held, sound.vacant id held⟩
  · rename_i id m standing
    rw [standing] at fine
    have sound := fine.own _ rfl
    have held := sound.locked id rfl
    obtain ⟨same, known, stored⟩ := sound.restarted id m rfl
    split at stepped
    · rename_i returned
      cases stepped
      subst returned
      obtain ⟨calm, idle⟩ := @Fine.stopped _ _ _ _ true fine rfl (.inl rfl)
      refine Fine.invariant (calm.at ⟨?_, (by intros; contradiction), ?_, ?_, trivial⟩)
      · rintro id' ⟨⟩
        exact held
      · rintro m' ⟨⟩
        exact ⟨idle, known, congrArg some same.symm⟩
      · rintro id' m' ⟨⟩
        exact ⟨same, known, stored⟩
    · rename_i raised
      cases stepped
      have idle : m ∉ s.running := (orderly.resolve_left raised) _ m standing rfl
      have calm : Fine s t none := by
        refine fine.leave fun other running stops => ?_
        cases stops
        exact idle running
      refine Fine.invariant (Fine.release (calm.forget fun other registered => ?_) held)
      obtain equal | gone := stored
      · rw [equal] at registered
        cases registered
        exact idle
      · rw [gone] at registered
        contradiction
  · contradiction

theorem started_invariant (invariant : Invariant s) (orderly : Orderly s (.started t ok))
    (stepped : step s (.started t ok) = some r) : Invariant r := by
  have fine := invariant.fine t
  simp only [step] at stepped
  split at stepped
  · rename_i m after standing
    cases stepped
    rw [standing] at fine
    have sound := fine.own _ rfl
    obtain ⟨idle, known, lock⟩ := sound.idle m rfl
    have calm : Fine s t none := fine.idle rfl
    cases after with
    | load rest => contradiction
    | release id =>
        cases lock
        have held := sound.locked _ rfl
        cases ok with
        | true => exact Fine.invariant ((calm.register held (sound.vacant _ rfl) known).release held)
        | false => exact Fine.invariant (calm.release held)
  · rename_i id m standing
    rw [standing] at fine
    have sound := fine.own _ rfl
    have held := sound.locked id rfl
    obtain ⟨idle, known, _⟩ := sound.idle m rfl
    obtain ⟨same, _, stored⟩ := sound.restarted id m rfl
    have calm : Fine s t none := fine.idle rfl
    cases ok with
    | true =>
        cases stepped
        have registered := (orderly.resolve_left (by decide)) id m standing
        have keeps : Keeps t s (s.started m true) := by
          refine ⟨rfl, rfl, le_rfl, fun _ _ _ found => found, fun _ => .inl rfl, fun other running => ?_⟩
          obtain rfl | old := Finset.mem_insert.mp running
          · exact .inr (same ▸ held)
          · exact .inl old
        have back : Fine (s.started m true) t none := by
          refine ⟨calm.rows, calm.stored, ?_,
            fun u k other found => (calm.others u k other found).keeps keeps other, (by intros; contradiction), ?_⟩
          · intro other running
            obtain rfl | old := Finset.mem_insert.mp running
            · exact known
            · exact calm.bounded other old
          · intro other running
            obtain rfl | old := Finset.mem_insert.mp running
            · exact .inl (same ▸ registered)
            · exact calm.covered other old
        exact Fine.invariant (back.release held)
    | false =>
        cases stepped
        refine Fine.invariant (Fine.release (calm.forget fun other registered => ?_) held)
        obtain equal | gone := stored
        · rw [equal] at registered
          cases registered
          exact idle
        · rw [gone] at registered
          contradiction
  · contradiction

/-- The cache has no part in the invariant. -/
theorem Fine.cache (fine : Fine s t none) (cfg : Config) : Fine (cacheRow s cfg) t none := by
  obtain ⟨rows, stored, bounded, others, _, covered⟩ := fine
  refine ⟨rows, stored, bounded, fun u k other found => ?_, (by intros; contradiction), covered⟩
  obtain ⟨locked, vacant, idle, restarted, expected⟩ := others u k other found
  exact ⟨locked, vacant, idle, restarted, expected⟩

theorem read_invariant (invariant : Invariant s) (stepped : step s (.read t) = some r) : Invariant r := by
  have fine := invariant.fine t
  simp only [step] at stepped
  split at stepped
  · rename_i id standing
    rw [standing] at fine
    have sound := fine.own _ rfl
    have held := sound.locked id rfl
    have calm : Fine s t none := fine.idle rfl
    split at stepped
    · cases stepped
      exact Fine.invariant (calm.release held)
    · rename_i cfg found
      obtain rfl := calm.rows id cfg found
      have cached := calm.cache cfg
      split at stepped
      · obtain ⟨skipped, starting⟩ := startModule_fine cached held (sound.vacant _ rfl)
        split at stepped
        · rename_i q started
          cases stepped
          obtain ⟨fine, held⟩ := skipped (by rw [started])
          rw [started] at fine held
          exact Fine.invariant (fine.release held)
        · rename_i q m started
          cases stepped
          have fine := starting m (by rw [started])
          rw [started] at fine
          exact fine.invariant
      · cases stepped
        exact Fine.invariant (cached.release held)
  · rename_i standing
    rw [standing] at fine
    exact (fine.own _ rfl).expected.elim
  · contradiction

theorem enrolled_invariant (invariant : Invariant s) (stepped : step s (.enrolled t state) = some r) :
    Invariant r := by
  have fine := invariant.fine t
  simp only [step] at stepped
  split at stepped
  · rename_i standing
    cases stepped
    rw [standing] at fine
    have held := (fine.own _ rfl).locked _ rfl
    refine (removeConfig_fine (fine.idle rfl) fun id lock => ?_).invariant
    cases state with
    | true =>
        cases lock
        exact ⟨held, rfl⟩
    | false =>
        cases lock
        exact ⟨held, rfl⟩
  · contradiction

theorem save_invariant (invariant : Invariant s) (stepped : step s (.save cfg) = some r) :
    Invariant r := by
  have saved : Invariant (cacheRow { s with rows := s.rows.set cfg.id cfg } cfg) := by
    obtain ⟨rows, stored, bounded, sound, covered⟩ := invariant
    refine ⟨?_, stored, bounded, fun t k found => ?_, covered⟩
    · intro id other found
      simp only [cacheRow, Dict.get?_set] at found
      split at found
      · rename_i same
        cases found
        exact same.symm
      · exact rows id other found
    · obtain ⟨locked, vacant, idle, restarted, expected⟩ := sound t k found
      exact ⟨locked, vacant, idle, restarted, expected⟩
  simp only [step] at stepped
  split at stepped
  · split at stepped
    · cases stepped
      exact saved
    · contradiction
  · cases stepped
    exact saved

theorem delete_invariant (invariant : Invariant s) (stepped : step s (.delete id) = some r) :
    Invariant r := by
  cases stepped
  obtain ⟨rows, stored, bounded, sound, covered⟩ := invariant
  refine ⟨?_, stored, bounded, fun t k found => ?_, covered⟩
  · intro other cfg found
    simp only [Dict.get?_pop] at found
    split at found
    · contradiction
    · exact rows other cfg found
  · obtain ⟨locked, vacant, idle, restarted, expected⟩ := sound t k found
    exact ⟨locked, vacant, idle, restarted, expected⟩

theorem step_invariant (invariant : Invariant s) (listed : Listed e) (orderly : Orderly s e)
    (stepped : step s e = some r) : Invariant r := by
  cases e with
  | spawn t operation => exact spawn_invariant invariant listed stepped
  | acquired t => exact acquired_invariant invariant stepped
  | stopped t ok => exact stopped_invariant invariant orderly stepped
  | started t ok => exact started_invariant invariant orderly stepped
  | read t => exact read_invariant invariant stepped
  | enrolled t state => exact enrolled_invariant invariant stepped
  | save cfg => exact save_invariant invariant stepped
  | delete id => exact delete_invariant invariant stepped

/-- No operation is in progress. -/
def Quiescent (s : State) : Prop := ∀ t, s.tasks.get? t = none

/-- Every module that runs is registered under its id, so that no two run for one id. -/
def NoOrphan (s : State) : Prop := ∀ m ∈ s.running, s.modules.get? m.configId = some m

/-- As long as every step is orderly, no module is orphaned once the operations have finished. -/
theorem no_orphan (initial : Initial s)
    (run : Reaches step (fun s e => Listed e ∧ Orderly s e) s r) (quiescent : Quiescent r) : NoOrphan r := by
  have invariant : Invariant r := run.invariant
    (fun invariant permitted stepped => step_invariant invariant permitted.1 permitted.2 stepped)
    (initial_invariant initial)
  intro m running
  obtain registered | ⟨t, k, found, _⟩ := invariant.covered m running
  · exact registered
  · rw [quiescent t] at found
    contradiction

/-- A server that starts with one broker. -/
def oneBroker : State where
  disableBots := false
  botsDisabledUntilRestart := false
  rows := Dict.empty.set "broker" ⟨"broker", some .mqttPrivate, true⟩
  configsCache := .empty
  modules := .empty
  restartLocks := .empty
  running := ∅
  nextInstance := 0
  tasks := .empty

/-- The module of the broker. -/
def broker : Module := ⟨"broker", some .mqttPrivate, 0⟩

theorem oneBroker_initial : Initial oneBroker := by
  refine ⟨rfl, rfl, rfl, rfl, fun id cfg found => ?_, fun _ _ found => nomatch found⟩
  simp only [oneBroker, Dict.get?_set, Dict.get?_empty] at found
  split at found
  · rename_i same
    cases found
    exact same.symm
  · contradiction

theorem oneBroker_no_orphan :
    ∃ r, Reaches step (fun s e => Listed e ∧ Orderly s e) oneBroker r ∧ r.running = {broker} ∧ NoOrphan r := by
  have ran : (execute step oneBroker [.spawn 0 (.reloadConfig "broker"), .acquired 0, .read 0]).map
      (fun s => (s.tasks.get? 0, (step s (.started 0 true)).map fun r => (r.running, r.tasks.entries))) =
      some (some (.starting broker (.release "broker")), some ({broker}, [])) := by
    decide +kernel
  obtain ⟨s, ran, facts⟩ := Option.map_eq_some_iff.mp ran
  simp only [Prod.mk.injEq, Option.map_eq_some_iff] at facts
  obtain ⟨standing, r, stepped, running, tasks⟩ := facts
  have first : Reaches step (fun s e => Listed e ∧ Orderly s e) oneBroker s := by
    refine execute_reaches_where (fun s e member => ?_) ran
    simp only [List.mem_cons, List.not_mem_nil, or_false] at member
    obtain rfl | rfl | rfl := member
    all_goals exact ⟨trivial, trivial⟩
  have orderly : Listed (.started 0 true) ∧ Orderly s (.started 0 true) := by
    refine ⟨trivial, .inr fun id m restarting => ?_⟩
    simp [standing] at restarting
  have run := first.next orderly stepped
  refine ⟨r, run, running, no_orphan oneBroker_initial run fun t => ?_⟩
  rw [Dict.get?, tasks]
  rfl

/-- The broker is removed while it is being restarted, and every call succeeds. -/
theorem removed_while_restarting :
    ¬ ∀ s r, Initial s → Reaches step (fun _ e => Listed e) s r → Quiescent r → NoOrphan r := by
  intro every
  have ran : (execute step oneBroker [.spawn 0 (.reloadConfig "broker"), .acquired 0, .read 0,
      .started 0 true, .spawn 1 (.restartModule "broker" broker), .acquired 1,
      .spawn 2 (.removeConfig "broker"), .stopped 2 true, .stopped 1 true, .started 1 true]).map
      (fun s => (s.modules.get? "broker", s.running, s.tasks.entries)) = some (none, {broker}, []) := by
    decide +kernel
  obtain ⟨r, ran, facts⟩ := Option.map_eq_some_iff.mp ran
  simp only [Prod.mk.injEq] at facts
  obtain ⟨gone, running, tasks⟩ := facts
  have run : Reaches step (fun _ e => Listed e) oneBroker r := by
    refine execute_reaches_where (fun s e member => ?_) ran
    simp only [List.mem_cons, List.not_mem_nil, or_false] at member
    obtain rfl | rfl | rfl | rfl | rfl | rfl | rfl | rfl | rfl | rfl := member
    all_goals trivial
  have quiescent : Quiescent r := by
    intro t
    rw [Dict.get?, tasks]
    rfl
  have registered := every oneBroker r oneBroker_initial run quiescent broker (by simp [running])
  rw [show broker.configId = "broker" from rfl, gone] at registered
  contradiction

end Meshloom.FanoutManager
