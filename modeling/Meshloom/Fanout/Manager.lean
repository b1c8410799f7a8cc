import Mathlib.Data.Finset.Basic
import Meshloom.Dict
import Meshloom.Transition

/-! The fanout manager (`app/fanout/manager.py`): the modules it has registered, the locks
under which it restarts them, and its operations as tasks that run from one await to the
next. The errors that it keeps for the status page and the scopes of the modules have no
part in starting and stopping, and are left out. -/
namespace Meshloom.FanoutManager

/-- The types that `_MODULE_TYPES` maps to a class. -/
inductive ModuleType where
  | mqttPrivate | mqttCommunity | mqttHa | bot | webhook | apprise | sqs | mapUpload
  deriving DecidableEq, Repr

/-- `SYSTEM_MESHLOOM_STATS_ID`. -/
def systemMeshloomStatsId : String := "system:meshloom-stats"

/-- A row of `fanout_configs`; no type when it is not one of `_MODULE_TYPES`. -/
structure Config where
  id : String
  type : Option ModuleType
  enabled : Bool
  deriving DecidableEq, Repr

/-- A module instance; no type for the Stats publisher, which has no row. -/
structure Module where
  configId : String
  type : Option ModuleType
  instanceId : Nat
  deriving DecidableEq, Repr

/-- What an operation does once it has the restart lock of an id. -/
inductive Job where
  | reload
  | restart (m : Module)
  | sync
  | stopSystem
  deriving DecidableEq, Repr

/-- What a task does once the module that it removes has stopped. -/
inductive AfterStop where
  | finish
  | release (id : String)
  | reload (id : String)
  | startSystem
  /-- `disable_bots_until_restart`, with the ids it has not come to yet. -/
  | disable (rest : List String)
  deriving DecidableEq, Repr

/-- What a task does once the module that it starts has started or failed. -/
inductive AfterStart where
  | release (id : String)
  /-- `load_from_db`, with the rows it has not come to yet. -/
  | load (rest : List Config)
  deriving DecidableEq, Repr

/-- The await at which a task stands. -/
inductive Task where
  | acquiring (id : String) (job : Job)
  /-- `module.stop()` in `remove_config` -/
  | stopping (m : Module) (after : AfterStop)
  /-- `FanoutConfigRepository.get` in `reload_config` -/
  | readingConfig (id : String)
  /-- `FanoutConfigRepository.get_enabled` in `load_from_db` -/
  | readingConfigs
  /-- `community_enrolled_state` in `_sync_system_modules_locked` -/
  | readingState
  /-- `module.start()` in `_start_module` and `_sync_system_modules_locked` -/
  | starting (m : Module) (after : AfterStart)
  | restartStopping (id : String) (m : Module)
  | restartStarting (id : String) (m : Module)
  deriving DecidableEq, Repr

structure State where
  /-- The server setting `disable_bots`. -/
  disableBots : Bool
  botsDisabledUntilRestart : Bool
  rows : Dict String Config
  configsCache : Dict String Config
  modules : Dict String Module
  /-- The task that holds the restart lock of an id. -/
  restartLocks : Dict String Nat
  /-- The instances whose last successful lifecycle call was `start`. -/
  running : Finset Module
  nextInstance : Nat
  tasks : Dict Nat Task

namespace State
variable (s : State)

def botsDisabledEffective : Bool := s.disableBots || s.botsDisabledUntilRestart

/-- A task goes on to its next await, or ends. -/
def goOn (t : Nat) : Option Task → State
  | none => { s with tasks := s.tasks.pop t }
  | some task => { s with tasks := s.tasks.set t task }

theorem get?_goOn (t u : Nat) (task : Option Task) :
    (s.goOn t task).tasks.get? u = if u = t then task else s.tasks.get? u := by
  cases task with
  | none => simp [goOn]
  | some task => simp [goOn]

def release (id : String) : State := { s with restartLocks := s.restartLocks.pop id }

def register (m : Module) : State := { s with modules := s.modules.set m.configId m }

def unregister (id : String) : State := { s with modules := s.modules.pop id }

/-- A lifecycle call of an instance returns, or raises. -/
def started (m : Module) (ok : Bool) : State :=
  if ok then { s with running := insert m s.running } else s

def stopped (m : Module) (ok : Bool) : State :=
  if ok then { s with running := s.running.erase m } else s

/-- A new instance. -/
def create (configId : String) (type : Option ModuleType) : State × Module :=
  ({ s with nextInstance := s.nextInstance + 1 }, ⟨configId, type, s.nextInstance⟩)

end State

/-- `BotModule` has no `start` of its own and the one it inherits is empty, so that awaiting it
does not suspend the task. -/
def startSuspends (type : ModuleType) : Bool := type ≠ .bot

/-- `_start_module` up to its await, if it comes to one. -/
def startModule (s : State) (cfg : Config) : State × Option Module :=
  match cfg.type with
  | none => (s, none)
  | some type =>
    if type = .bot ∧ s.botsDisabledEffective then (s, none)
    else
      let (s, m) := s.create cfg.id type
      if startSuspends type then (s, some m)
      else ((s.started m true).register m, none)

/-- The loop of `load_from_db`. -/
def loadRest (s : State) : List Config → State × Option Task
  | [] => (s, some (.acquiring systemMeshloomStatsId .sync))
  | cfg :: rest =>
    match startModule s cfg with
    | (s, none) => loadRest s rest
    | (s, some m) => (s, some (.starting m (.load rest)))

/-- The loop of `disable_bots_until_restart`. -/
def disableRest (s : State) : List String → State × Option Task
  | [] => (s, none)
  | id :: rest =>
    match s.modules.get? id with
    | none => disableRest s rest
    | some m => (s.unregister id, some (.stopping m (.disable rest)))

/-- A new Stats publisher. -/
def startSystem (s : State) : State × Option Task :=
  let (s, m) := s.create systemMeshloomStatsId none
  (s, some (.starting m (.release systemMeshloomStatsId)))

def afterStop (s : State) : AfterStop → State × Option Task
  | .finish => (s, none)
  | .release id => (s.release id, none)
  | .reload id => (s, some (.readingConfig id))
  | .startSystem => startSystem s
  | .disable rest => disableRest s rest

def afterStart (s : State) : AfterStart → State × Option Task
  | .release id => (s.release id, none)
  | .load rest => loadRest s rest

/-- `remove_config`, and what the caller does when there is nothing to stop. -/
def removeConfig (s : State) (id : String) (after : AfterStop) : State × Option Task :=
  match s.modules.get? id with
  | some m => (s.unregister id, some (.stopping m after))
  | none => afterStop s after

/-- What a task does when it gets the lock. -/
def locked (s : State) (id : String) : Job → State × Option Task
  | .reload => removeConfig s id (.reload id)
  | .restart m =>
    if s.modules.get? id = some m then (s, some (.restartStopping id m)) else (s.release id, none)
  | .sync => (s, some .readingState)
  | .stopSystem => removeConfig s id (.release id)

/-- `_row_to_dict`: every row that is read goes into the cache. -/
def cacheRow (s : State) (cfg : Config) : State :=
  { s with configsCache := s.configsCache.set cfg.id cfg }

def enabledRows (s : State) : List Config := (s.rows.entries.map Prod.snd).filter (·.enabled)

/-- The registered modules that are bots according to the cache. -/
def botIds (s : State) : List String :=
  s.modules.keys.filter fun id => (s.configsCache.get? id).bind (·.type) = some .bot

inductive Operation where
  | loadFromDb
  | reloadConfig (id : String)
  | removeConfig (id : String)
  /-- A handler timed out. -/
  | restartModule (id : String) (m : Module)
  | syncSystemModules
  | stopSystemModule
  | disableBotsUntilRestart
  deriving DecidableEq, Repr

/-- An operation up to its first await. -/
def begin (s : State) : Operation → State × Option Task
  | .loadFromDb => (s, some .readingConfigs)
  | .reloadConfig id => (s, some (.acquiring id .reload))
  | .removeConfig id => removeConfig s id .finish
  | .restartModule id m => (s, some (.acquiring id (.restart m)))
  | .syncSystemModules => (s, some (.acquiring systemMeshloomStatsId .sync))
  | .stopSystemModule => (s, some (.acquiring systemMeshloomStatsId .stopSystem))
  | .disableBotsUntilRestart =>
    if s.disableBots then (s, none)
    else disableRest { s with botsDisabledUntilRestart := true } (botIds s)

/-- A read of the database that raises ends its task and is left out. -/
inductive Event where
  | spawn (t : Nat) (operation : Operation)
  | acquired (t : Nat)
  | stopped (t : Nat) (ok : Bool)
  | started (t : Nat) (ok : Bool)
  /-- Rows are read. -/
  | read (t : Nat)
  | enrolled (t : Nat) (state : Bool)
  /-- A row is created or updated; an update never changes the type. -/
  | save (cfg : Config)
  /-- A row is deleted, which takes it out of the cache, too. -/
  | delete (id : String)
  deriving DecidableEq, Repr

def step (s : State) : Event → Option State
  | .spawn t operation =>
    match s.tasks.get? t with
    | some _ => none
    | none => let (s, task) := begin s operation; some (s.goOn t task)
  | .acquired t =>
    match s.tasks.get? t with
    | some (.acquiring id job) =>
      match s.restartLocks.get? id with
      | some _ => none
      | none =>
        let (s, task) := locked { s with restartLocks := s.restartLocks.set id t } id job
        some (s.goOn t task)
    | _ => none
  | .stopped t ok =>
    match s.tasks.get? t with
    | some (.stopping m after) =>
      let (s, task) := afterStop (s.stopped m ok) after
      some (s.goOn t task)
    | some (.restartStopping id m) =>
      if ok then some ((s.stopped m ok).goOn t (some (.restartStarting id m)))
      else some (((s.unregister id).release id).goOn t none)
    | _ => none
  | .started t ok =>
    match s.tasks.get? t with
    | some (.starting m after) =>
      let started := if ok then (s.started m ok).register m else s
      let (s, task) := afterStart started after
      some (s.goOn t task)
    | some (.restartStarting id m) =>
      if ok then some (((s.started m ok).release id).goOn t none)
      else some (((s.unregister id).release id).goOn t none)
    | _ => none
  | .read t =>
    match s.tasks.get? t with
    | some (.readingConfig id) =>
      match s.rows.get? id with
      | none => some ((s.release id).goOn t none)
      | some cfg =>
        if cfg.enabled then
          match startModule (cacheRow s cfg) cfg with
          | (s, none) => some ((s.release id).goOn t none)
          | (s, some m) => some (s.goOn t (some (.starting m (.release id))))
        else some (((cacheRow s cfg).release id).goOn t none)
    | some .readingConfigs =>
      let rows := enabledRows s
      let (s, task) := loadRest (rows.foldl cacheRow s) rows
      some (s.goOn t task)
    | _ => none
  | .enrolled t state =>
    match s.tasks.get? t with
    | some .readingState =>
      let after := if state then .startSystem else .release systemMeshloomStatsId
      let (s, task) := removeConfig s systemMeshloomStatsId after
      some (s.goOn t task)
    | _ => none
  | .save cfg =>
    match s.rows.get? cfg.id with
    | some old =>
      if old.type = cfg.type then some (cacheRow { s with rows := s.rows.set cfg.id cfg } cfg)
      else none
    | none => some (cacheRow { s with rows := s.rows.set cfg.id cfg } cfg)
  | .delete id =>
    some { s with
      rows := s.rows.pop id
      configsCache := s.configsCache.pop id }

/-- The server starts: nothing is registered, and the cache holds nothing but rows. -/
structure Initial (s : State) : Prop where
  modules : s.modules = .empty
  restartLocks : s.restartLocks = .empty
  running : s.running = ∅
  tasks : s.tasks = .empty
  rows : ∀ id cfg, s.rows.get? id = some cfg → cfg.id = id
  cached : ∀ id cfg, s.configsCache.get? id = some cfg → s.rows.get? id = some cfg

end Meshloom.FanoutManager
