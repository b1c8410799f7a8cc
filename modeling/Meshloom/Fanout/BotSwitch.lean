import Meshloom.Fanout.Manager

/-! The bot kill switch. A bot is registered in the step that tests the flag, since starting one
does not suspend, and its type stands in the cache as long as its row exists. So the switch
finds every bot that is registered, and none is registered after it, unless the row of a bot is
deleted while the bot is registered or about to be. -/
namespace Meshloom.FanoutManager
open Transition
variable {s r q : State} {id : String}

/-- The row of a bot, which was read into the cache. -/
def BotRow (s : State) (id : String) : Prop :=
  (∃ cfg, s.rows.get? id = some cfg ∧ cfg.type = some .bot) ∧
    ∃ cfg, s.configsCache.get? id = some cfg ∧ cfg.type = some .bot

/-- A bot is registered under an id. -/
def BotAt (s : State) (id : String) : Prop :=
  ∃ m, s.modules.get? id = some m ∧ m.type = some .bot

/-- A config that is a bot has its row, unless bots are disabled. -/
def Backed (s : State) (cfg : Config) : Prop :=
  s.botsDisabledEffective = false → cfg.type = some .bot → BotRow s cfg.id

/-- What holds of a task with regard to the bots. -/
def Proper (s : State) : Task → Prop
  | .starting m (.load rest) => m.type ≠ some .bot ∧ ∀ cfg ∈ rest, Backed s cfg
  | .starting m (.release _) => m.type ≠ some .bot
  | .stopping _ (.disable rest) => s.botsDisabledUntilRestart = true ∧ ∀ id, BotAt s id → id ∈ rest
  | _ => True

/-- No step registers a bot while bots are disabled, and rows of bots stay. -/
structure Calms (s r : State) : Prop where
  rows : ∀ id, BotRow s id → BotRow r id
  env : r.disableBots = s.disableBots
  flag : s.botsDisabledUntilRestart = true → r.botsDisabledUntilRestart = true
  bots : ∀ id, BotAt r id → BotAt s id ∨ s.botsDisabledEffective = false ∧ BotRow r id

theorem Calms.refl (s : State) : Calms s s := ⟨fun _ => id, rfl, id, fun _ => .inl⟩

theorem Calms.enabled (calms : Calms s r) (enabled : r.botsDisabledEffective = false) :
    s.botsDisabledEffective = false := by
  obtain ⟨_, env, flag, _⟩ := calms
  unfold State.botsDisabledEffective at enabled ⊢
  rw [env] at enabled
  cases set : s.botsDisabledUntilRestart with
  | false => simpa using And.left (by simpa using enabled)
  | true => simp [flag set] at enabled

theorem Calms.trans (first : Calms s r) (second : Calms r q) : Calms s q := by
  refine ⟨fun id row => second.rows id (first.rows id row), second.env.trans first.env,
    fun set => second.flag (first.flag set), fun id bot => ?_⟩
  obtain old | ⟨enabled, row⟩ := second.bots id bot
  · exact (first.bots id old).imp_right fun ⟨enabled, row⟩ => ⟨enabled, second.rows id row⟩
  · exact .inr ⟨first.enabled enabled, row⟩

theorem Backed.calms (backed : Backed s cfg) (calms : Calms s r) : Backed r cfg :=
  fun enabled bot => calms.rows _ (backed (calms.enabled enabled) bot)

theorem Proper.calms (proper : Proper s k) (calms : Calms s r) : Proper r k := by
  unfold Proper at proper ⊢
  split at proper
  · exact ⟨proper.1, fun cfg member => (proper.2 cfg member).calms calms⟩
  · exact proper
  · refine ⟨calms.flag proper.1, fun id bot => ?_⟩
    obtain old | ⟨enabled, _⟩ := calms.bots id bot
    · exact proper.2 id old
    · simp [State.botsDisabledEffective, proper.1] at enabled
  · trivial

/-- Only modules are taken out, or other fields change. -/
theorem calms_of_fewer (rows : r.rows = s.rows) (cache : r.configsCache = s.configsCache)
    (env : r.disableBots = s.disableBots) (flag : r.botsDisabledUntilRestart = s.botsDisabledUntilRestart)
    (fewer : ∀ id m, r.modules.get? id = some m → s.modules.get? id = some m) : Calms s r := by
  refine ⟨fun id row => ?_, env, fun set => flag.trans set, fun id bot => .inl ?_⟩
  · rw [BotRow, rows, cache]
    exact row
  · obtain ⟨m, found, bot⟩ := bot
    exact ⟨m, fewer id m found, bot⟩

theorem unregister_calms (s : State) (id : String) : Calms s (s.unregister id) := by
  refine calms_of_fewer rfl rfl rfl rfl fun other m found => ?_
  simp only [State.unregister, Dict.get?_pop] at found
  split at found
  · contradiction
  · exact found

theorem disableRest_calms (s : State) (rest : List String) : Calms s (disableRest s rest).1 := by
  induction rest with
  | nil => exact .refl s
  | cons id rest ih =>
      unfold disableRest
      split
      · exact ih
      · exact unregister_calms s id

/-- The loop of the switch comes to every bot in its list. -/
theorem disableRest_proper (flag : s.botsDisabledUntilRestart = true)
    (covers : ∀ id, BotAt s id → id ∈ rest) :
    (∀ k, (disableRest s rest).2 = some k → Proper (disableRest s rest).1 k) ∧
    ((disableRest s rest).2 = none → ∀ id, ¬ BotAt (disableRest s rest).1 id) := by
  induction rest with
  | nil => exact ⟨(by intros; contradiction), fun _ id bot => List.not_mem_nil (covers id bot)⟩
  | cons head rest ih =>
      unfold disableRest
      split
      · rename_i absent
        refine ih fun id bot => ?_
        obtain rfl | member := List.mem_cons.mp (covers id bot)
        · obtain ⟨m, found, _⟩ := bot
          rw [absent] at found
          contradiction
        · exact member
      · rename_i m found
        refine ⟨?_, (by intros; contradiction)⟩
        rintro k ⟨⟩
        refine ⟨flag, fun id bot => ?_⟩
        obtain ⟨other, registered, bot⟩ := bot
        simp only [State.unregister, Dict.get?_pop] at registered
        split at registered
        · contradiction
        · rename_i different
          exact (List.mem_cons.mp (covers id ⟨other, registered, bot⟩)).resolve_left different

theorem startModule_calms (backed : Backed s cfg) :
    Calms s (startModule s cfg).1 ∧ ∀ m, (startModule s cfg).2 = some m → m.type ≠ some .bot := by
  cases typed : cfg.type with
  | none =>
      have skipped : startModule s cfg = (s, none) := by simp [startModule, typed]
      rw [skipped]
      exact ⟨.refl s, (by intros; contradiction)⟩
  | some type =>
      by_cases bot : type = .bot
      · subst bot
        by_cases disabled : s.botsDisabledEffective = true
        · have skipped : startModule s cfg = (s, none) := by simp [startModule, typed, disabled]
          rw [skipped]
          exact ⟨.refl s, (by intros; contradiction)⟩
        · have enabled : s.botsDisabledEffective = false := by simpa using disabled
          have registered : startModule s cfg =
              ((((s.create cfg.id (some .bot)).1.started (s.create cfg.id (some .bot)).2 true).register
                (s.create cfg.id (some .bot)).2), none) := by
            simp [startModule, typed, enabled, startSuspends]
          rw [registered]
          refine ⟨⟨fun _ row => row, rfl, fun set => set, fun id bot => ?_⟩, (by intros; contradiction)⟩
          obtain ⟨m, found, bot⟩ := bot
          simp only [State.register, State.started, State.create, if_true, Dict.get?_set] at found
          split at found
          · rename_i same
            exact .inr ⟨enabled, same ▸ backed enabled typed⟩
          · exact .inl ⟨m, found, bot⟩
      · have starting : startModule s cfg =
            ((s.create cfg.id (some type)).1, some (s.create cfg.id (some type)).2) := by
          simp [startModule, typed, bot, startSuspends]
        rw [starting]
        refine ⟨calms_of_fewer rfl rfl rfl rfl fun _ _ found => found, ?_⟩
        rintro m ⟨⟩ same
        exact bot (Option.some.inj same)

/-- What becomes of the state when a task goes on, and what holds where it stands next. -/
structure Leads (s : State) (next : State × Option Task) : Prop where
  calms : Calms s next.1
  tasks : next.1.tasks = s.tasks
  keys : next.1.rows = s.rows
  proper : ∀ k, next.2 = some k → Proper next.1 k

theorem Leads.stays (s : State) (proper : ∀ k, task = some k → Proper s k) : Leads s (s, task) :=
  ⟨.refl s, rfl, rfl, proper⟩

theorem Leads.stands (proper : Proper s k) : Leads s (s, some k) := by
  refine .stays s ?_
  rintro k ⟨⟩
  exact proper

theorem Leads.after (first : Calms s r) (tasks : r.tasks = s.tasks) (keys : r.rows = s.rows)
    (leads : Leads r next) : Leads s next :=
  ⟨first.trans leads.calms, leads.tasks.trans tasks, leads.keys.trans keys, leads.proper⟩

theorem startModule_keeps (s : State) (cfg : Config) :
    (startModule s cfg).1.tasks = s.tasks ∧ (startModule s cfg).1.rows = s.rows := by
  unfold startModule State.create State.started State.register
  grind

theorem loadRest_leads (backed : ∀ cfg ∈ rest, Backed s cfg) :
    Leads s (loadRest s rest) := by
  induction rest generalizing s with
  | nil => exact .stands trivial
  | cons cfg rest ih =>
      obtain ⟨calms, waits⟩ := startModule_calms (backed cfg List.mem_cons_self)
      obtain ⟨tasks, keys⟩ := startModule_keeps s cfg
      have later : ∀ cfg' ∈ rest, Backed (startModule s cfg).1 cfg' :=
        fun cfg' member => (backed cfg' (List.mem_cons_of_mem _ member)).calms calms
      unfold loadRest
      split
      · rename_i q started
        rw [started] at calms tasks keys later
        exact (ih later).after calms tasks keys
      · rename_i q m started
        rw [started] at calms tasks keys later waits
        refine ⟨calms, tasks, keys, ?_⟩
        rintro k ⟨⟩
        exact ⟨waits m rfl, later⟩

theorem disableRest_leads (flag : s.botsDisabledUntilRestart = true)
    (covers : ∀ id, BotAt s id → id ∈ rest) : Leads s (disableRest s rest) := by
  have keeps : (disableRest s rest).1.tasks = s.tasks ∧ (disableRest s rest).1.rows = s.rows := by
    clear covers
    induction rest with
    | nil => exact ⟨rfl, rfl⟩
    | cons id rest ih =>
        unfold disableRest
        split
        · exact ih
        · exact ⟨rfl, rfl⟩
  exact ⟨disableRest_calms s rest, keeps.1, keeps.2, (disableRest_proper flag covers).1⟩

theorem release_calms (s : State) (id : String) : Calms s (s.release id) :=
  calms_of_fewer rfl rfl rfl rfl fun _ _ found => found

theorem afterStop_leads (proper : Proper s (.stopping m after)) : Leads s (afterStop s after) := by
  cases after with
  | finish => exact .stays s (by intros; contradiction)
  | release id => exact ⟨release_calms s id, rfl, rfl, (by intros; contradiction)⟩
  | reload id => exact .stands trivial
  | startSystem =>
      refine ⟨calms_of_fewer rfl rfl rfl rfl fun _ _ found => found, rfl, rfl, ?_⟩
      rintro k ⟨⟩
      exact nofun
  | disable rest => exact disableRest_leads proper.1 proper.2

theorem removeConfig_leads (proper : ∀ m, Proper (s.unregister id) (.stopping m after))
    (free : ∀ m, Proper s (.stopping m after)) : Leads s (removeConfig s id after) := by
  unfold removeConfig
  split
  · refine ⟨unregister_calms s id, rfl, rfl, ?_⟩
    rintro k ⟨⟩
    exact proper _
  · exact afterStop_leads (free ⟨id, none, 0⟩)

theorem started_calms (s : State) (m : Module) (ok : Bool) : Calms s (s.started m ok) := by
  unfold State.started
  split
  · exact calms_of_fewer rfl rfl rfl rfl fun _ _ found => found
  · exact .refl s

theorem stopped_calms (s : State) (m : Module) (ok : Bool) : Calms s (s.stopped m ok) := by
  unfold State.stopped
  split
  · exact calms_of_fewer rfl rfl rfl rfl fun _ _ found => found
  · exact .refl s

/-- A module that is no bot is registered. -/
theorem register_calms (s : State) (other : m.type ≠ some .bot) : Calms s (s.register m) := by
  refine ⟨fun _ row => row, rfl, fun set => set, fun id bot => .inl ?_⟩
  obtain ⟨m', found, bot⟩ := bot
  simp only [State.register, Dict.get?_set] at found
  split at found
  · cases found
    exact absurd bot other
  · exact ⟨m', found, bot⟩

/-- A row that is read goes into the cache. -/
theorem cacheRow_calms (found : s.rows.get? cfg.id = some cfg) : Calms s (cacheRow s cfg) := by
  refine ⟨fun id row => ?_, rfl, fun set => set, fun _ => .inl⟩
  obtain ⟨⟨old, present, bot⟩, cached⟩ := row
  refine ⟨⟨old, present, bot⟩, ?_⟩
  simp only [cacheRow, Dict.get?_set]
  split
  · rename_i same
    rw [same, found] at present
    cases present
    exact ⟨cfg, rfl, bot⟩
  · exact cached

theorem cacheRow_botRow (found : s.rows.get? cfg.id = some cfg) (bot : cfg.type = some .bot) :
    BotRow (cacheRow s cfg) cfg.id :=
  ⟨⟨cfg, found, bot⟩, cfg, by simp [cacheRow], bot⟩

/-- All rows of a list are read. -/
theorem cacheRows_calms {rest : List Config} (found : ∀ cfg ∈ rest, s.rows.get? cfg.id = some cfg) :
    Calms s (rest.foldl cacheRow s) ∧ (rest.foldl cacheRow s).tasks = s.tasks ∧
      (rest.foldl cacheRow s).rows = s.rows ∧
      ∀ cfg ∈ rest, cfg.type = some .bot → BotRow (rest.foldl cacheRow s) cfg.id := by
  induction rest generalizing s with
  | nil => exact ⟨.refl s, rfl, rfl, (by intros; contradiction)⟩
  | cons cfg rest ih =>
      have here := found cfg List.mem_cons_self
      obtain ⟨calms, tasks, rows, bots⟩ :=
        @ih (cacheRow s cfg) fun other member => found other (List.mem_cons_of_mem _ member)
      refine ⟨(cacheRow_calms here).trans calms, tasks, rows, fun other member bot => ?_⟩
      obtain rfl | member := List.mem_cons.mp member
      · exact calms.rows _ (cacheRow_botRow here bot)
      · exact bots other member bot

structure Switch (s : State) : Prop where
  keys : ∀ id cfg, s.rows.get? id = some cfg → cfg.id = id
  backed : ∀ id, BotAt s id → BotRow s id
  proper : ∀ t k, s.tasks.get? t = some k → Proper s k
  env : s.disableBots = true → ∀ id, ¬ BotAt s id

theorem initial_switch (initial : Initial s) : Switch s := by
  obtain ⟨modules, _, _, tasks, rows, _⟩ := initial
  have none : ∀ id, ¬ BotAt s id := by simp [BotAt, modules]
  exact ⟨rows, fun id bot => absurd bot (none id), by simp [tasks], fun _ => none⟩

theorem Switch.calms (switch : Switch s) (calms : Calms s r) (rows : ∀ id cfg, r.rows.get? id = some cfg → cfg.id = id)
    (proper : ∀ t k, r.tasks.get? t = some k → Proper r k) : Switch r := by
  refine ⟨rows, fun id bot => ?_, proper, fun env id bot => ?_⟩
  · obtain old | ⟨_, row⟩ := calms.bots id bot
    · exact calms.rows id (switch.backed id old)
    · exact row
  · rw [calms.env] at env
    obtain old | ⟨enabled, _⟩ := calms.bots id bot
    · exact switch.env env id old
    · simp [State.botsDisabledEffective, env] at enabled

theorem goOn_calms (s : State) (t : Nat) (task : Option Task) : Calms s (s.goOn t task) := by
  cases task with
  | none => exact calms_of_fewer rfl rfl rfl rfl fun _ _ found => found
  | some k => exact calms_of_fewer rfl rfl rfl rfl fun _ _ found => found

theorem Switch.goOn (switch : Switch s) (next : State × Option Task) (leads : Leads s next) :
    Switch (next.1.goOn t next.2) ∧ Calms s (next.1.goOn t next.2) := by
  have calms := leads.calms.trans (goOn_calms next.1 t next.2)
  have rows : (next.1.goOn t next.2).rows = s.rows := by
    rw [← leads.keys]
    cases next.2 with
    | none => rfl
    | some k => rfl
  refine ⟨switch.calms calms (rows ▸ switch.keys) fun u k found => ?_, calms⟩
  have standing : (next.1.goOn t next.2).tasks.get? u = if u = t then next.2 else s.tasks.get? u := by
    rw [State.get?_goOn, leads.tasks]
  rw [standing] at found
  split at found
  · exact (leads.proper k found).calms (goOn_calms next.1 t next.2)
  · exact (switch.proper u k found).calms calms

theorem locked_leads (s : State) (id : String) (job : Job) : Leads s (locked s id job) := by
  cases job with
  | reload => exact removeConfig_leads (fun _ => trivial) fun _ => trivial
  | restart m =>
      simp only [locked]
      split
      · exact .stands trivial
      · exact ⟨release_calms s id, rfl, rfl, (by intros; contradiction)⟩
  | sync => exact .stands trivial
  | stopSystem => exact removeConfig_leads (fun _ => trivial) fun _ => trivial

/-- The switch finds every bot. -/
theorem Switch.botIds (switch : Switch s) (bot : BotAt s id) : id ∈ botIds s := by
  obtain ⟨_, cfg, cached, type⟩ := switch.backed id bot
  obtain ⟨m, found, _⟩ := bot
  refine List.mem_filter.mpr ⟨Dict.mem_keys_iff.mpr ⟨m, found⟩, ?_⟩
  simp [cached, type]

theorem begin_leads (switch : Switch s) (operation : Operation) : Leads s (begin s operation) := by
  cases operation with
  | removeConfig id => exact removeConfig_leads (fun _ => trivial) fun _ => trivial
  | disableBotsUntilRestart =>
      simp only [begin]
      split
      · exact .stays s (by intros; contradiction)
      · have flagged : Calms s { s with botsDisabledUntilRestart := true } :=
          ⟨fun _ row => row, rfl, fun _ => rfl, fun _ => .inl⟩
        exact Leads.after flagged rfl rfl (disableRest_leads rfl fun id bot => switch.botIds bot)
  | _ => exact .stands trivial

theorem save_calms (kept : ∀ old, s.rows.get? cfg.id = some old → old.type = cfg.type) :
    Calms s (cacheRow { s with rows := s.rows.set cfg.id cfg } cfg) := by
  refine ⟨fun id row => ?_, rfl, fun set => set, fun _ => .inl⟩
  obtain ⟨⟨old, present, bot⟩, cached⟩ := row
  by_cases same : id = cfg.id
  · subst same
    have bot : cfg.type = some .bot := (kept old present).symm.trans bot
    exact ⟨⟨cfg, by simp [cacheRow], bot⟩, cfg, by simp [cacheRow], bot⟩
  · exact ⟨⟨old, by simpa [cacheRow, same] using present, bot⟩, by simpa [cacheRow, same] using cached⟩

theorem save_switch (switch : Switch s) (stepped : step s (.save cfg) = some r) : Switch r ∧ Calms s r := by
  have saved (kept : ∀ old, s.rows.get? cfg.id = some old → old.type = cfg.type)
      (equal : r = cacheRow { s with rows := s.rows.set cfg.id cfg } cfg) : Switch r ∧ Calms s r := by
    subst equal
    have calms := save_calms kept
    refine ⟨switch.calms calms (fun id other found => ?_) fun t k found =>
      (switch.proper t k found).calms calms, calms⟩
    simp only [cacheRow, Dict.get?_set] at found
    split at found
    · rename_i same
      cases found
      exact same.symm
    · exact switch.keys id other found
  simp only [step] at stepped
  split at stepped
  · rename_i old present
    split at stepped
    · rename_i same
      refine saved (fun other present' => ?_) (by simpa using stepped.symm)
      rw [present] at present'
      cases present'
      exact same
    · contradiction
  · rename_i absent
    refine saved (fun other present => ?_) (by simpa using stepped.symm)
    rw [absent] at present
    contradiction

theorem read_switch (switch : Switch s) (stepped : step s (.read t) = some r) : Switch r ∧ Calms s r := by
  simp only [step] at stepped
  split at stepped
  · rename_i id standing
    split at stepped
    · cases stepped
      exact switch.goOn ((s.release id, none)) ⟨release_calms s id, rfl, rfl, (by intros; contradiction)⟩
    · rename_i cfg found
      obtain rfl := switch.keys id cfg found
      have cached := cacheRow_calms found
      split at stepped
      · obtain ⟨calms, waits⟩ := startModule_calms fun _ => cacheRow_botRow found
        obtain ⟨tasks, keys⟩ := startModule_keeps (cacheRow s cfg) cfg
        split at stepped
        · rename_i q started
          cases stepped
          rw [started] at calms tasks keys
          exact switch.goOn ((q.release cfg.id, none))
            ⟨(cached.trans calms).trans (release_calms q cfg.id), tasks, keys, (by intros; contradiction)⟩
        · rename_i q m started
          cases stepped
          rw [started] at calms tasks keys waits
          refine switch.goOn ((q, some _)) ⟨cached.trans calms, tasks, keys, ?_⟩
          rintro k ⟨⟩
          exact waits m rfl
      · cases stepped
        exact switch.goOn (((cacheRow s cfg).release cfg.id, none))
          ⟨cached.trans (release_calms _ cfg.id), rfl, rfl, (by intros; contradiction)⟩
  · cases stepped
    have found : ∀ cfg ∈ enabledRows s, s.rows.get? cfg.id = some cfg := by
      intro cfg member
      obtain ⟨⟨id, other⟩, entry, rfl⟩ := List.mem_map.mp (List.mem_of_mem_filter member)
      have present := (Dict.mem_iff_get? s.rows).mp entry
      rw [switch.keys id other present]
      exact present
    obtain ⟨calms, tasks, rows, bots⟩ := cacheRows_calms found
    have backed : ∀ cfg ∈ enabledRows s, Backed ((enabledRows s).foldl cacheRow s) cfg :=
      fun cfg member _ => bots cfg member
    exact switch.goOn _ ((loadRest_leads backed).after calms tasks rows)
  · contradiction

theorem stopped_switch (switch : Switch s) (stepped : step s (.stopped t ok) = some r) :
    Switch r ∧ Calms s r := by
  have frame (m : Module) (ok : Bool) : (s.stopped m ok).tasks = s.tasks ∧ (s.stopped m ok).rows = s.rows := by
    unfold State.stopped
    grind
  simp only [step] at stepped
  split at stepped
  · rename_i m after standing
    cases stepped
    have calms := stopped_calms s m ok
    exact switch.goOn _ ((afterStop_leads ((switch.proper t _ standing).calms calms)).after calms
      (frame m ok).1 (frame m ok).2)
  · rename_i id m standing
    split at stepped
    · cases stepped
      refine switch.goOn ((s.stopped m ok, some _))
        ⟨stopped_calms s m ok, (frame m ok).1, (frame m ok).2, ?_⟩
      rintro k ⟨⟩
      trivial
    · cases stepped
      exact switch.goOn (((s.unregister id).release id, none))
        ⟨(unregister_calms s id).trans (release_calms _ id), rfl, rfl, (by intros; contradiction)⟩
  · contradiction

theorem started_switch (switch : Switch s) (stepped : step s (.started t ok) = some r) :
    Switch r ∧ Calms s r := by
  simp only [step] at stepped
  split at stepped
  · rename_i m after standing
    cases stepped
    have proper := switch.proper t _ standing
    have other : m.type ≠ some .bot := by
      cases after with
      | release id => exact proper
      | load rest => exact proper.1
    have calms : Calms s (if ok then (s.started m ok).register m else s) := by
      split
      · exact (started_calms s m ok).trans (register_calms _ other)
      · exact .refl s
    have tasks : (if ok then (s.started m ok).register m else s).tasks = s.tasks ∧
        (if ok then (s.started m ok).register m else s).rows = s.rows := by
      cases ok with
      | true => exact ⟨rfl, rfl⟩
      | false => exact ⟨rfl, rfl⟩
    refine switch.goOn _ (Leads.after calms tasks.1 tasks.2 ?_)
    cases after with
    | release id => exact ⟨release_calms _ id, rfl, rfl, (by intros; contradiction)⟩
    | load rest => exact loadRest_leads (proper.calms calms).2
  · rename_i id m standing
    split at stepped
    · rename_i succeeded
      cases stepped
      subst succeeded
      exact switch.goOn (((s.started m true).release id, none))
        ⟨(started_calms s m true).trans (release_calms _ id), rfl, rfl, (by intros; contradiction)⟩
    · cases stepped
      exact switch.goOn (((s.unregister id).release id, none))
        ⟨(unregister_calms s id).trans (release_calms _ id), rfl, rfl, (by intros; contradiction)⟩
  · contradiction

/-- The task has the bot of an id still to start. -/
def Task.loads (id : String) : Task → Bool
  | .starting _ (.load rest) => rest.any fun cfg => decide (cfg.id = id ∧ cfg.type = some .bot)
  | _ => false

/-- No row is deleted while a bot is registered under its id, nor, as long as bots are not disabled,
while `load_from_db` has that bot still to start. -/
def KeepsBots (s : State) : Event → Prop
  | .delete id => ¬ BotAt s id ∧
      (s.botsDisabledEffective = false → ∀ t k, s.tasks.get? t = some k → k.loads id = false)
  | _ => True

/-- The row of another id stays. -/
theorem BotRow.delete {other : String} (row : BotRow s id) (different : id ≠ other) :
    BotRow { s with
      rows := s.rows.pop other
      configsCache := s.configsCache.pop other } id := by
  obtain ⟨⟨cfg, found, bot⟩, old, cached, type⟩ := row
  refine ⟨⟨cfg, ?_, bot⟩, old, ?_, type⟩
  · rw [Dict.get?_pop, if_neg different]
    exact found
  · rw [Dict.get?_pop, if_neg different]
    exact cached

theorem delete_switch (switch : Switch s) (keeps : KeepsBots s (.delete id))
    (stepped : step s (.delete id) = some r) : Switch r := by
  cases stepped
  obtain ⟨unregistered, unloaded⟩ := keeps
  refine ⟨fun other cfg found => ?_, fun other bot => ?_, fun t k found => ?_, switch.env⟩
  · simp only [Dict.get?_pop] at found
    split at found
    · contradiction
    · exact switch.keys other cfg found
  · refine (switch.backed other bot).delete ?_
    rintro rfl
    exact unregistered bot
  · have proper := switch.proper t k found
    unfold Proper at proper ⊢
    split at proper
    · refine ⟨proper.1, fun cfg member enabled bot => (proper.2 cfg member enabled bot).delete ?_⟩
      rintro rfl
      have loads := List.any_eq_false.mp (unloaded enabled t _ found) cfg member
      exact loads (decide_eq_true ⟨rfl, bot⟩)
    · exact proper
    · exact proper
    · trivial

/-- Bots are disabled, and none is registered. -/
def BotsOff (s : State) : Prop := s.botsDisabledEffective = true ∧ ∀ id, ¬ BotAt s id

theorem BotsOff.calms (off : BotsOff s) (calms : Calms s r) : BotsOff r := by
  constructor
  · by_contra enabled
    have before := calms.enabled (by simpa using enabled)
    rw [off.1] at before
    contradiction
  · intro id bot
    obtain old | ⟨enabled, _⟩ := calms.bots id bot
    · exact off.2 id old
    · rw [off.1] at enabled
      contradiction

theorem step_switch (switch : Switch s) (keeps : KeepsBots s e) (stepped : step s e = some r) :
    Switch r ∧ (BotsOff s → BotsOff r) := by
  have calm : Switch r ∧ Calms s r → Switch r ∧ (BotsOff s → BotsOff r) :=
    fun ⟨switch, calms⟩ => ⟨switch, fun off => off.calms calms⟩
  cases e with
  | spawn t operation =>
      simp only [step] at stepped
      split at stepped
      · contradiction
      · cases stepped
        exact calm (switch.goOn _ (begin_leads switch operation))
  | acquired t =>
      simp only [step] at stepped
      split at stepped
      · split at stepped
        · contradiction
        · rename_i id job _ _ _
          cases stepped
          have calms : Calms s { s with restartLocks := s.restartLocks.set id t } :=
            calms_of_fewer rfl rfl rfl rfl fun _ _ found => found
          exact calm (switch.goOn _ ((locked_leads _ id job).after calms rfl rfl))
      · contradiction
  | stopped t ok => exact calm (stopped_switch switch stepped)
  | started t ok => exact calm (started_switch switch stepped)
  | read t => exact calm (read_switch switch stepped)
  | enrolled t state =>
      simp only [step] at stepped
      split at stepped
      · cases stepped
        refine calm (switch.goOn _ (removeConfig_leads (fun _ => ?_) fun _ => ?_))
        · cases state with
          | true => trivial
          | false => trivial
        · cases state with
          | true => trivial
          | false => trivial
      · contradiction
  | save cfg => exact calm (save_switch switch stepped)
  | delete id =>
      refine ⟨delete_switch switch keeps stepped, fun off => ?_⟩
      cases stepped
      exact off

/-- A step in which `disable_bots_until_restart` returns. -/
def Returns (s : State) (e : Event) (r : State) : Prop :=
  ∃ t, r.tasks.get? t = none ∧ (e = .spawn t .disableBotsUntilRestart ∨
    ∃ m rest ok, s.tasks.get? t = some (.stopping m (.disable rest)) ∧ e = .stopped t ok)

theorem disableRest_off (flag : s.botsDisabledUntilRestart = true)
    (covers : ∀ id, BotAt s id → id ∈ rest) (ended : (disableRest s rest).2 = none) :
    BotsOff (disableRest s rest).1 := by
  refine ⟨?_, (disableRest_proper flag covers).2 ended⟩
  simp only [State.botsDisabledEffective, (disableRest_calms s rest).flag flag, Bool.or_true]

theorem returns_off (switch : Switch s) (stepped : step s e = some r) (returns : Returns s e r) :
    BotsOff r := by
  obtain ⟨t, ended, rfl | ⟨m, rest, ok, standing, rfl⟩⟩ := returns
  · simp only [step] at stepped
    split at stepped
    · contradiction
    · simp only [begin] at stepped
      split at stepped
      · rename_i env
        cases stepped
        have off : BotsOff s := ⟨by simp [State.botsDisabledEffective, env], switch.env env⟩
        exact off.calms (goOn_calms s t none)
      · cases stepped
        rw [State.get?_goOn, if_pos rfl] at ended
        have off := @disableRest_off { s with botsDisabledUntilRestart := true } (botIds s) rfl
          (fun id bot => switch.botIds bot) ended
        exact off.calms (goOn_calms _ t _)
  · simp only [step, standing] at stepped
    cases stepped
    rw [State.get?_goOn, if_pos rfl] at ended
    have proper := (switch.proper t _ standing).calms (stopped_calms s m ok)
    exact BotsOff.calms (disableRest_off proper.1 proper.2 ended) (goOn_calms _ t _)

/-- From the moment at which `disable_bots_until_restart` returns, no bot is registered, in every run
that keeps the rows of the bots. -/
theorem bots_stay_off (initial : Initial s) (run : Reaches step KeepsBots s r) (stepped : step r e = some q)
    (returns : Returns r e q) :
    ∀ u, Reaches step KeepsBots q u → ∀ id m, u.modules.get? id = some m → m.type ≠ some .bot := by
  have switch : Switch r :=
    run.invariant (fun switch keeps stepped => (step_switch switch keeps stepped).1)
      (initial_switch initial)
  have keeps : KeepsBots r e := by
    obtain ⟨t, -, rfl | ⟨m, rest, ok, -, rfl⟩⟩ := returns
    · trivial
    · trivial
  intro u onward
  have off : Switch u ∧ BotsOff u := by
    refine Reaches.invariant (P := fun u => Switch u ∧ BotsOff u) (fun before keeps stepped => ?_)
      onward ⟨(step_switch switch keeps stepped).1, returns_off switch stepped returns⟩
    obtain ⟨switch, off⟩ := step_switch before.1 keeps stepped
    exact ⟨switch, off before.2⟩
  intro id m found bot
  exact off.2.2 id ⟨m, found, bot⟩

instance decidableBotAt (s : State) (id : String) : Decidable (BotAt s id) :=
  decidable_of_iff ((s.modules.get? id).any (fun m => decide (m.type = some .bot)) = true) (by
    simp [BotAt, Option.any_eq_true])

instance decidableKeepsBots (s : State) (e : Event) : Decidable (KeepsBots s e) :=
  match e with
  | .delete id => decidable_of_iff (¬ BotAt s id ∧
      (s.botsDisabledEffective = false → ∀ entry ∈ s.tasks.entries, entry.2.loads id = false)) (by
    simp only [KeepsBots, Prod.forall, Dict.mem_iff_get?])
  | .spawn _ _ | .acquired _ | .stopped _ _ | .started _ _ | .read _ | .enrolled _ _ | .save _ =>
    .isTrue trivial

/-- A server that starts with one bot. -/
def oneBot : State where
  disableBots := false
  botsDisabledUntilRestart := false
  rows := Dict.empty.set "bot" ⟨"bot", some .bot, true⟩
  configsCache := .empty
  modules := .empty
  restartLocks := .empty
  running := ∅
  nextInstance := 0
  tasks := .empty

theorem oneBot_initial : Initial oneBot := by
  refine ⟨rfl, rfl, rfl, rfl, fun id cfg found => ?_, fun _ _ found => nomatch found⟩
  simp only [oneBot, Dict.get?_set, Dict.get?_empty] at found
  split at found
  · rename_i same
    cases found
    exact same.symm
  · contradiction

/-- The switch stops the bot, which is then reloaded in vain and deleted. -/
theorem oneBot_off : ∃ r q u, Reaches step KeepsBots oneBot r ∧ Returns r (.stopped 1 true) q ∧
    Reaches step KeepsBots q u ∧ u.rows.get? "bot" = none ∧
    ∀ id m, u.modules.get? id = some m → m.type ≠ some .bot := by
  have ran : (executeWhere step KeepsBots oneBot [.spawn 0 (.reloadConfig "bot"), .acquired 0, .read 0,
      .spawn 1 .disableBotsUntilRestart]).bind (fun r => (step r (.stopped 1 true)).bind fun q =>
      (executeWhere step KeepsBots q [.spawn 2 (.reloadConfig "bot"), .acquired 2, .read 2,
        .delete "bot"]).map fun u =>
        (r.tasks.get? 1, q.tasks.get? 1, u.rows.get? "bot")) =
      some (some (.stopping ⟨"bot", some .bot, 0⟩ (.disable [])), none, none) := by
    decide +kernel
  obtain ⟨r, first, ran⟩ := Option.bind_eq_some_iff.mp ran
  obtain ⟨q, stepped, ran⟩ := Option.bind_eq_some_iff.mp ran
  obtain ⟨u, onward, facts⟩ := Option.map_eq_some_iff.mp ran
  simp only [Prod.mk.injEq] at facts
  obtain ⟨standing, ended, deleted⟩ := facts
  have returns : Returns r (.stopped 1 true) q := ⟨1, ended, .inr ⟨_, _, _, standing, rfl⟩⟩
  exact ⟨r, q, u, executeWhere_reaches first, returns, executeWhere_reaches onward, deleted,
    bots_stay_off oneBot_initial (executeWhere_reaches first) stepped returns u
      (executeWhere_reaches onward)⟩

/-- A reload registers the bot while the bot's removal waits, and then its row is deleted: the switch
does not know the type of what is registered. -/
theorem deleted_bot_missed : ∃ r q m, Initial oneBot ∧ Reaches step Any oneBot r ∧
    step r (.spawn 3 .disableBotsUntilRestart) = some q ∧
    Returns r (.spawn 3 .disableBotsUntilRestart) q ∧ q.tasks.size = 0 ∧
    q.modules.get? "bot" = some m ∧ m.type = some .bot := by
  have ran : (execute step oneBot [.spawn 0 (.reloadConfig "bot"), .acquired 0, .read 0,
      .spawn 1 (.removeConfig "bot"), .spawn 2 (.reloadConfig "bot"), .acquired 2, .read 2,
      .stopped 1 true, .delete "bot"]).bind (fun r =>
      (step r (.spawn 3 .disableBotsUntilRestart)).map fun q =>
        (q.tasks.get? 3, q.tasks.size, q.modules.get? "bot")) =
      some (none, 0, some ⟨"bot", some .bot, 1⟩) := by
    decide +kernel
  obtain ⟨r, run, ran⟩ := Option.bind_eq_some_iff.mp ran
  obtain ⟨q, stepped, facts⟩ := Option.map_eq_some_iff.mp ran
  simp only [Prod.mk.injEq] at facts
  obtain ⟨ended, finished, registered⟩ := facts
  exact ⟨r, q, _, oneBot_initial, execute_reaches run, stepped, ⟨3, ended, .inl rfl⟩, finished,
    registered, rfl⟩

end Meshloom.FanoutManager
