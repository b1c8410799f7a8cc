import Meshloom.Fanout.Manager

/-! What keeps track of the running modules. The restart lock of an id keeps all registrations
under it apart, and a module that is taken out is stopped next. A task is looked at while it
is between two awaits: it has changed nothing that the other tasks rely on. -/
namespace Meshloom.FanoutManager
open Transition
variable {s r : State} {t u : Nat} {m : Module} {id : String}

/-- The restart lock that a task holds. -/
def AfterStop.lock? : AfterStop → Option String
  | .release id | .reload id => some id
  | .startSystem => some systemMeshloomStatsId
  | .finish | .disable _ => none

def AfterStart.lock? : AfterStart → Option String
  | .release id => some id
  | .load _ => none

def Task.lock? : Task → Option String
  | .stopping _ after => after.lock?
  | .starting _ after => after.lock?
  | .readingConfig id | .restartStopping id _ | .restartStarting id _ => some id
  | .readingState => some systemMeshloomStatsId
  | .acquiring _ _ | .readingConfigs => none

/-- The id under which a task has seen to it that nothing is registered. -/
def Task.vacant? : Task → Option String
  | .stopping _ after => after.lock?
  | .starting _ after => after.lock?
  | .readingConfig id => some id
  | _ => none

/-- The module whose `stop` a task awaits. -/
def Task.stops? : Task → Option Module
  | .stopping m _ | .restartStopping _ m => some m
  | _ => none

/-- The module that a task is starting. -/
def Task.starts? : Task → Option Module
  | .starting m _ | .restartStarting _ m => some m
  | _ => none

/-- The id and the module of a restart. -/
def Task.restarts? : Task → Option (String × Module)
  | .restartStopping id m | .restartStarting id m => some (id, m)
  | _ => none

/-- No operation of a run loads the rows, and `sync` runs under its own id. -/
def Task.Expected : Task → Prop
  | .readingConfigs => False
  | .acquiring id .sync => id = systemMeshloomStatsId
  | _ => True

/-- What holds of a task that stands at an await. -/
structure Sound (s : State) (t : Nat) (task : Task) : Prop where
  locked : ∀ id, task.lock? = some id → s.restartLocks.get? id = some t
  vacant : ∀ id, task.vacant? = some id → s.modules.get? id = none
  idle : ∀ m, task.starts? = some m →
    m ∉ s.running ∧ m.instanceId < s.nextInstance ∧ task.lock? = some m.configId
  restarted : ∀ id m, task.restarts? = some (id, m) → m.configId = id ∧
    m.instanceId < s.nextInstance ∧ (s.modules.get? id = some m ∨ s.modules.get? id = none)
  expected : task.Expected

/-- The invariant while one task is between two awaits, or about to stand at one. -/
structure Fine (s : State) (t : Nat) (task : Option Task) : Prop where
  rows : ∀ id cfg, s.rows.get? id = some cfg → cfg.id = id
  stored : ∀ id m, s.modules.get? id = some m → m.configId = id ∧ m.instanceId < s.nextInstance
  bounded : ∀ m ∈ s.running, m.instanceId < s.nextInstance
  others : ∀ u k, u ≠ t → s.tasks.get? u = some k → Sound s u k
  own : ∀ k, task = some k → Sound s t k
  covered : ∀ m ∈ s.running, s.modules.get? m.configId = some m ∨
    (∃ u k, u ≠ t ∧ s.tasks.get? u = some k ∧ k.stops? = some m) ∨ ∃ k, task = some k ∧ k.stops? = some m

structure Invariant (s : State) : Prop where
  rows : ∀ id cfg, s.rows.get? id = some cfg → cfg.id = id
  stored : ∀ id m, s.modules.get? id = some m → m.configId = id ∧ m.instanceId < s.nextInstance
  bounded : ∀ m ∈ s.running, m.instanceId < s.nextInstance
  sound : ∀ t k, s.tasks.get? t = some k → Sound s t k
  covered : ∀ m ∈ s.running, s.modules.get? m.configId = some m ∨
    ∃ t k, s.tasks.get? t = some k ∧ k.stops? = some m

theorem initial_invariant (initial : Initial s) : Invariant s := by
  obtain ⟨modules, _, running, tasks, rows, _⟩ := initial
  constructor
  · exact rows
  all_goals simp [modules, running, tasks]

theorem Invariant.fine (invariant : Invariant s) (t : Nat) : Fine s t (s.tasks.get? t) := by
  obtain ⟨rows, stored, bounded, sound, covered⟩ := invariant
  refine ⟨rows, stored, bounded, fun u k _ found => sound u k found, fun k found => sound t k found, ?_⟩
  intro m running
  refine (covered m running).imp_right ?_
  rintro ⟨u, k, found, stops⟩
  by_cases same : u = t
  · subst same
    exact .inr ⟨k, found, stops⟩
  · exact .inl ⟨u, k, same, found, stops⟩

/-- What holds of a task does not depend on where the tasks stand. -/
theorem Sound.goOn (sound : Sound s u k) (task : Option Task) : Sound (s.goOn t task) u k := by
  obtain ⟨locked, vacant, idle, restarted, expected⟩ := sound
  cases task with
  | none => exact ⟨locked, vacant, idle, restarted, expected⟩
  | some task => exact ⟨locked, vacant, idle, restarted, expected⟩

theorem Fine.invariant (fine : Fine s t task) : Invariant (s.goOn t task) := by
  obtain ⟨rows, stored, bounded, others, own, covered⟩ := fine
  have same : (s.goOn t task).rows = s.rows ∧ (s.goOn t task).modules = s.modules ∧
      (s.goOn t task).running = s.running ∧ (s.goOn t task).nextInstance = s.nextInstance := by
    cases task with
    | none => exact ⟨rfl, rfl, rfl, rfl⟩
    | some task => exact ⟨rfl, rfl, rfl, rfl⟩
  obtain ⟨rows', modules, running, next⟩ := same
  constructor
  · rw [rows']
    exact rows
  · rw [modules, next]
    exact stored
  · rw [running, next]
    exact bounded
  · intro u k found
    rw [State.get?_goOn] at found
    split at found
    · rename_i equal
      subst equal
      exact (own k found).goOn task
    · rename_i other
      exact (others u k other found).goOn task
  · rw [running, modules]
    intro m member
    refine (covered m member).imp_right ?_
    rintro (⟨u, k, other, found, stops⟩ | ⟨k, found, stops⟩)
    · exact ⟨u, k, by rw [State.get?_goOn, if_neg other, found], stops⟩
    · exact ⟨t, k, by rw [State.get?_goOn, if_pos rfl, found], stops⟩

/-- What one task does to the state that other tasks rely on: it moves in its own locks only. -/
structure Keeps (t : Nat) (s r : State) : Prop where
  rows : r.rows = s.rows
  tasks : r.tasks = s.tasks
  next : s.nextInstance ≤ r.nextInstance
  locks : ∀ id u, u ≠ t → s.restartLocks.get? id = some u → r.restartLocks.get? id = some u
  modules : ∀ id, r.modules.get? id = s.modules.get? id ∨ r.modules.get? id = none ∨
    s.restartLocks.get? id = some t
  running : ∀ m ∈ r.running, m ∈ s.running ∨ s.restartLocks.get? m.configId = some t

theorem Sound.keeps (sound : Sound s u k) (keeps : Keeps t s r) (other : u ≠ t) : Sound r u k := by
  have apart (id : String) (held : k.lock? = some id) (mine : s.restartLocks.get? id = some t) : False := by
    rw [sound.locked id held] at mine
    exact other (Option.some.inj mine)
  have vacates (id : String) (vacant : k.vacant? = some id) : k.lock? = some id := by
    unfold Task.vacant? at vacant
    split at vacant
    · exact vacant
    · exact vacant
    · exact vacant
    · contradiction
  constructor
  · exact fun id held => keeps.locks id u other (sound.locked id held)
  · intro id vacant
    obtain same | gone | mine := keeps.modules id
    · rw [same, sound.vacant id vacant]
    · exact gone
    · exact (apart id (vacates id vacant) mine).elim
  · intro m starts
    obtain ⟨idle, known, held⟩ := sound.idle m starts
    refine ⟨fun member => ?_, known.trans_le keeps.next, held⟩
    obtain old | mine := keeps.running m member
    · exact idle old
    · exact apart _ held mine
  · intro id m restarts
    obtain ⟨same, known, stored⟩ := sound.restarted id m restarts
    refine ⟨same, known.trans_le keeps.next, ?_⟩
    have held : k.lock? = some id := by
      unfold Task.restarts? at restarts
      split at restarts
      · cases restarts
        rfl
      · cases restarts
        rfl
      · contradiction
    obtain equal | gone | mine := keeps.modules id
    · rw [equal]
      exact stored
    · exact .inr gone
    · exact (apart id held mine).elim
  · exact sound.expected

theorem Fine.release (fine : Fine s t none) (held : s.restartLocks.get? id = some t) :
    Fine (s.release id) t none := by
  have keeps : Keeps t s (s.release id) := by
    refine ⟨rfl, rfl, le_rfl, fun other u different locked => ?_, fun _ => .inl rfl, fun _ => .inl⟩
    simp only [State.release, Dict.get?_pop]
    rw [if_neg, locked]
    rintro rfl
    rw [held] at locked
    exact different (Option.some.inj locked).symm
  exact ⟨fine.rows, fine.stored, fine.bounded,
    fun u k other found => (fine.others u k other found).keeps keeps other, (by intros; contradiction), fine.covered⟩

theorem unregister_keeps (s : State) (id : String) (t : Nat) : Keeps t s (s.unregister id) := by
  refine ⟨rfl, rfl, le_rfl, fun _ _ _ found => found, fun other => ?_, fun _ => .inl⟩
  simp only [State.unregister, Dict.get?_pop]
  split
  · exact .inr (.inl rfl)
  · exact .inl rfl

theorem unregister_stored (stored : ∀ id m, s.modules.get? id = some m →
      m.configId = id ∧ m.instanceId < s.nextInstance) (gone : String) :
    ∀ id m, (s.unregister gone).modules.get? id = some m →
      m.configId = id ∧ m.instanceId < (s.unregister gone).nextInstance := by
  intro id m found
  simp only [State.unregister, Dict.get?_pop] at found
  split at found
  · contradiction
  · exact stored id m found

/-- A module that is taken out is stopped next. -/
theorem Fine.unregister (fine : Fine s t none) (found : s.modules.get? id = some m)
    (held : ∀ id', after.lock? = some id' → s.restartLocks.get? id' = some t ∧ id' = id) :
    Fine (s.unregister id) t (some (.stopping m after)) := by
  refine ⟨fine.rows, unregister_stored fine.stored id, fine.bounded,
    fun u k other found => (fine.others u k other found).keeps (unregister_keeps s id t) other, ?_, ?_⟩
  · rintro k ⟨⟩
    constructor
    · exact fun id' locked => (held id' locked).1
    · intro id' vacant
      rw [(held id' vacant).2]
      simp [State.unregister]
    · intros
      contradiction
    · intros
      contradiction
    · trivial
  · intro m' running
    obtain registered | stopping | ⟨_, ⟨⟩, _⟩ := fine.covered m' running
    · by_cases same : m'.configId = id
      · rw [same, found] at registered
        cases registered
        exact .inr (.inr ⟨_, rfl, rfl⟩)
      · exact .inl (by simpa [State.unregister, same] using registered)
    · exact .inr (.inl stopping)

theorem disableRest_fine (fine : Fine s t none) (rest : List String) :
    Fine (disableRest s rest).1 t (disableRest s rest).2 := by
  induction rest with
  | nil => exact fine
  | cons id rest ih =>
      unfold disableRest
      split
      · exact ih
      · rename_i m found
        exact fine.unregister found (by intros; contradiction)

theorem create_keeps (s : State) (configId : String) (type : Option ModuleType) (t : Nat) :
    Keeps t s (s.create configId type).1 :=
  ⟨rfl, rfl, Nat.le_succ _, fun _ _ _ found => found, fun _ => .inl rfl, fun _ => .inl⟩

/-- A new instance is about to start under an id that is locked and free. -/
theorem Fine.create (fine : Fine s t none) (held : s.restartLocks.get? id = some t)
    (vacant : s.modules.get? id = none) (type : Option ModuleType) :
    Fine (s.create id type).1 t (some (.starting (s.create id type).2 (.release id))) := by
  have next : (s.create id type).1.nextInstance = s.nextInstance + 1 := rfl
  refine ⟨fine.rows, ?_, ?_,
    fun u k other found => (fine.others u k other found).keeps (create_keeps s id type t) other, ?_, ?_⟩
  · intro id' m found
    obtain ⟨same, known⟩ := fine.stored id' m found
    exact ⟨same, by omega⟩
  · intro m running
    have known := fine.bounded m running
    omega
  · rintro k ⟨⟩
    constructor
    · rintro id' ⟨⟩
      exact held
    · rintro id' ⟨⟩
      exact vacant
    · rintro m ⟨⟩
      refine ⟨fun running => ?_, Nat.lt_succ_self _, rfl⟩
      have known := fine.bounded _ running
      exact absurd known (Nat.lt_irrefl _)
    · intros
      contradiction
    · trivial
  · intro m running
    obtain registered | stopping | ⟨_, ⟨⟩, _⟩ := fine.covered m running
    · exact .inl registered
    · exact .inr (.inl stopping)

theorem Fine.at (fine : Fine s t none) (sound : Sound s t k) : Fine s t (some k) := by
  obtain ⟨rows, stored, bounded, others, _, covered⟩ := fine
  refine ⟨rows, stored, bounded, others, ?_, ?_⟩
  · rintro k' ⟨⟩
    exact sound
  · intro m running
    obtain registered | stopping | ⟨_, ⟨⟩, _⟩ := covered m running
    · exact .inl registered
    · exact .inr (.inl stopping)

theorem afterStop_fine (fine : Fine s t none)
    (held : ∀ id, after.lock? = some id → s.restartLocks.get? id = some t ∧ s.modules.get? id = none) :
    Fine (afterStop s after).1 t (afterStop s after).2 := by
  cases after with
  | finish => exact fine
  | release id => exact fine.release (held id rfl).1
  | reload id =>
      refine fine.at ⟨?_, ?_, (by intros; contradiction), (by intros; contradiction), trivial⟩
      · rintro id' ⟨⟩
        exact (held id rfl).1
      · rintro id' ⟨⟩
        exact (held id rfl).2
  | startSystem => exact fine.create (held _ rfl).1 (held _ rfl).2 none
  | disable rest => exact disableRest_fine fine rest

theorem removeConfig_fine (fine : Fine s t none)
    (held : ∀ id', after.lock? = some id' → s.restartLocks.get? id' = some t ∧ id' = id) :
    Fine (removeConfig s id after).1 t (removeConfig s id after).2 := by
  unfold removeConfig
  split
  · rename_i m found
    exact fine.unregister found held
  · rename_i absent
    refine afterStop_fine fine fun id' locked => ?_
    obtain ⟨mine, rfl⟩ := held id' locked
    exact ⟨mine, absent⟩

theorem Fine.leave (fine : Fine s t (some k)) (calm : ∀ m ∈ s.running, k.stops? ≠ some m) :
    Fine s t none := by
  obtain ⟨rows, stored, bounded, others, _, covered⟩ := fine
  refine ⟨rows, stored, bounded, others, (by intros; contradiction), ?_⟩
  intro m running
  obtain registered | stopping | ⟨_, ⟨⟩, stops⟩ := covered m running
  · exact .inl registered
  · exact .inr (.inl stopping)
  · exact absurd stops (calm m running)

/-- A task that stops no module is left as it is. -/
theorem Fine.idle (fine : Fine s t (some k)) (calm : k.stops? = none) : Fine s t none := by
  refine fine.leave fun m _ => ?_
  rw [calm]
  exact (Option.some_ne_none m).symm

/-- A module that a task holds the lock for, and that the id is free for, starts and is registered. -/
theorem Fine.register (fine : Fine s t none) (held : s.restartLocks.get? m.configId = some t)
    (vacant : s.modules.get? m.configId = none) (known : m.instanceId < s.nextInstance) :
    Fine ((s.started m true).register m) t none := by
  have keeps : Keeps t s ((s.started m true).register m) := by
    refine ⟨rfl, rfl, le_rfl, fun _ _ _ found => found, fun id => ?_, fun other running => ?_⟩
    · by_cases same : id = m.configId
      · exact .inr (.inr (same ▸ held))
      · exact .inl (by simp [State.register, State.started, same])
    · obtain rfl | old := Finset.mem_insert.mp running
      · exact .inr held
      · exact .inl old
  refine ⟨fine.rows, ?_, ?_, fun u k other found => (fine.others u k other found).keeps keeps other,
    (by intros; contradiction), ?_⟩
  · intro id other found
    simp only [State.register, State.started, if_true, Dict.get?_set] at found
    split at found
    · rename_i same
      cases found
      exact ⟨same.symm, known⟩
    · exact fine.stored id other found
  · intro other running
    obtain rfl | old := Finset.mem_insert.mp running
    · exact known
    · exact fine.bounded other old
  · intro other running
    obtain rfl | old := Finset.mem_insert.mp running
    · exact .inl (by simp [State.register])
    · obtain registered | stopping | ⟨_, ⟨⟩, _⟩ := fine.covered other old
      · have different : other.configId ≠ m.configId := by
          intro same
          rw [same, vacant] at registered
          contradiction
        exact .inl (by simpa [State.register, State.started, different] using registered)
      · exact .inr (.inl stopping)

theorem startModule_fine (fine : Fine s t none) (held : s.restartLocks.get? cfg.id = some t)
    (vacant : s.modules.get? cfg.id = none) :
    ((startModule s cfg).2 = none → Fine (startModule s cfg).1 t none ∧
      (startModule s cfg).1.restartLocks.get? cfg.id = some t) ∧
    ∀ m, (startModule s cfg).2 = some m →
      Fine (startModule s cfg).1 t (some (.starting m (.release cfg.id))) := by
  unfold startModule
  split
  · exact ⟨fun _ => ⟨fine, held⟩, (by intros; contradiction)⟩
  · rename_i type typed
    split
    · exact ⟨fun _ => ⟨fine, held⟩, (by intros; contradiction)⟩
    · have created := fine.create held vacant type
      by_cases suspends : startSuspends type = true
      · simp only [suspends, if_true]
        refine ⟨(by intros; contradiction), ?_⟩
        rintro m ⟨⟩
        exact created
      · simp only [if_neg suspends]
        refine ⟨fun _ => ?_, (by intros; contradiction)⟩
        have ready := created.idle rfl
        exact ⟨ready.register held vacant (Nat.lt_succ_self _), held⟩

/-- A module that is not running leaves its id. -/
theorem Fine.forget (fine : Fine s t none) (idle : ∀ m, s.modules.get? id = some m → m ∉ s.running) :
    Fine (s.unregister id) t none := by
  refine ⟨fine.rows, unregister_stored fine.stored id, fine.bounded,
    fun u k other found => (fine.others u k other found).keeps (unregister_keeps s id t) other, (by intros; contradiction), ?_⟩
  intro m running
  obtain registered | stopping | ⟨_, ⟨⟩, _⟩ := fine.covered m running
  · have different : m.configId ≠ id := by
      intro same
      exact idle m (same ▸ registered) running
    exact .inl (by simpa [State.unregister, different] using registered)
  · exact .inr (.inl stopping)

end Meshloom.FanoutManager
