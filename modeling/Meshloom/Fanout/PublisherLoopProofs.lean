import Meshloom.Fanout.PublisherLoop

/-! What one await of a connection loop can do, and from it the invariants of a publisher's whole
life. -/
namespace Meshloom.PublisherLoop
open Transition
variable {σ : Type} {s t : State σ} {loop next : Loop σ} {client : Client σ} {settings : σ}

/-- The loop was cancelled and is on its way out. -/
def Dying (loop : Loop σ) : Prop := ∃ c, loop.phase = .closing c .cancelled

def Doomed (loop : Loop σ) : Prop :=
  loop.phase.done = true ∨ loop.cancelRequested = true ∨ Dying loop

/-- What the next state of a loop takes over. -/
structure Follows (s : State σ) (loop next : Loop σ) : Prop where
  started : next.started = loop.started
  doomed : Doomed loop → next.phase.done = true ∨ Dying next ∧ next.cancelRequested = false
  preparing : ∀ settings version, next.phase = .preparing settings version →
    s.settings = some settings ∧ s.settingsVersion = version
  opening : ∀ settings version, next.phase = .opening settings version →
    loop.phase = .preparing settings version

/-- What a step of a loop does beside moving the loop on. -/
inductive Moves (s : State σ) (i : Nat) (loop next : Loop σ) : State σ → Prop where
  | kept : (∀ c exit, loop.phase ≠ .closing c exit) → Moves s i loop next (put s i next)
  | dropped : (∀ c exit, loop.phase ≠ .closing c exit) → Moves s i loop next (put (drop s) i next)
  | closed (c exit) : loop.phase = .closing c exit →
      Moves s i loop next (put (drop (closeClient s c)) i next)
  | opened (settings version) : loop.phase = .opening settings version →
      loop.cancelRequested = false → next = { loop with phase := .greeting s.clients.length version } →
      Moves s i loop next (connect s i loop settings version)

def Resumes (s : State σ) (i : Nat) (loop : Loop σ) (t : State σ) : Prop :=
  ∃ next, Follows s loop next ∧ Moves s i loop next t

/-- A loop that goes on where it can neither prepare nor open a connection. -/
theorem follows_phase (phase : Phase σ) (healthy : ¬ Doomed loop)
    (preparing : ∀ settings version, phase ≠ .preparing settings version)
    (opening : ∀ settings version, phase ≠ .opening settings version) :
    Follows s loop { loop with phase } where
  started := rfl
  doomed doomed := (healthy doomed).elim
  preparing settings version same := (preparing settings version same).elim
  opening settings version same := (opening settings version same).elim

theorem follows_iterate (healthy : ¬ Doomed loop) (given : s.settings = some settings) :
    Follows s loop { loop with phase := .preparing settings s.settingsVersion } where
  started := rfl
  doomed doomed := (healthy doomed).elim
  preparing := by
    rintro _ _ ⟨⟩
    exact ⟨given, rfl⟩
  opening := by simp

/-- A cancelled loop ends, or closes its client first. -/
theorem follows_cancelled {phase : Phase σ}
    (out : phase = .ended ∨ ∃ c, phase = .closing c .cancelled) :
    Follows s loop { loop with phase, cancelRequested := false } where
  started := rfl
  doomed _ := by
    obtain rfl | out := out
    · exact .inl rfl
    · exact .inr ⟨out, rfl⟩
  preparing := by
    rintro settings version rfl
    simp at out
  opening := by
    rintro settings version rfl
    simp at out

theorem healthy (calm : loop.cancelRequested = false) (running : loop.phase.done = false)
    (alive : ∀ c, loop.phase ≠ .closing c .cancelled) : ¬ Doomed loop := by
  rintro (done | requested | ⟨c, closing⟩)
  · exact Bool.false_ne_true (running.symm.trans done)
  · exact Bool.false_ne_true (calm.symm.trans requested)
  · exact alive c closing

theorem iterate_resumes (healthy : ¬ Doomed loop) (out : ∀ c exit, loop.phase ≠ .closing c exit)
    (configured : Bool) : Resumes s i loop (iterate s i loop configured) := by
  unfold iterate
  split
  · rename_i given
    exact ⟨_, follows_iterate healthy given, .kept out⟩
  · exact ⟨_, follows_phase _ healthy (by simp) (by simp), .dropped out⟩

theorem fail_resumes (healthy : ¬ Doomed loop) (out : ∀ c exit, loop.phase ≠ .closing c exit) :
    Resumes s i loop (fail s i loop) := by
  refine ⟨_, follows_phase _ healthy ?_ ?_, .dropped out⟩ <;> intros <;> split <;> simp

theorem put_resumes (phase : Phase σ) (healthy : ¬ Doomed loop)
    (out : ∀ c exit, loop.phase ≠ .closing c exit)
    (preparing : ∀ settings version, phase ≠ .preparing settings version)
    (opening : ∀ settings version, phase ≠ .opening settings version) :
    Resumes s i loop (put s i { loop with phase }) :=
  ⟨_, follows_phase phase healthy preparing opening, .kept out⟩

theorem awaitVersion_resumes (healthy : ¬ Doomed loop)
    (out : ∀ c exit, loop.phase ≠ .closing c exit) :
    Resumes s i loop (awaitVersion s i loop c version) := by
  refine put_resumes _ healthy out ?_ ?_ <;> intros <;> split <;> simp

theorem closed_resumes (closing : loop.phase = .closing c exit) (calm : loop.cancelRequested = false)
    (configured : Bool) : Resumes s i loop (closed s i loop c exit configured) := by
  have running : loop.phase.done = false := by
    rw [closing]
    rfl
  unfold closed
  cases exit with
  | normal =>
      have healthy : ¬ Doomed loop := healthy calm running (by simp [closing])
      simp only [iterate]
      split
      · rename_i given
        exact ⟨_, follows_iterate healthy given, .closed c _ closing⟩
      · exact ⟨_, follows_phase _ healthy (by simp) (by simp), .closed c _ closing⟩
  | failed =>
      have healthy : ¬ Doomed loop := healthy calm running (by simp [closing])
      refine ⟨_, follows_phase _ healthy ?_ ?_, .closed c _ closing⟩ <;> intros <;> split <;> simp
  | cancelled =>
      refine ⟨{ loop with phase := .ended }, ⟨rfl, fun _ => .inl rfl, ?_, ?_⟩, .closed c _ closing⟩
      · simp
      · simp

theorem cancelled_resumes (stepped : cancelled s i loop = some t) : Resumes s i loop t := by
  cases phase : loop.phase with
  | created | unconfigured | reporting | sleeping =>
      simp only [cancelled, phase, Option.some.injEq] at stepped
      subst t
      exact ⟨_, follows_cancelled (.inl rfl), .kept (by simp [phase])⟩
  | preparing | opening =>
      simp only [cancelled, phase, Option.some.injEq] at stepped
      subst t
      exact ⟨_, follows_cancelled (.inl rfl), .dropped (by simp [phase])⟩
  | greeting | waiting | waking =>
      simp only [cancelled, phase, Option.some.injEq] at stepped
      subst t
      exact ⟨_, follows_cancelled (.inr ⟨_, rfl⟩), .kept (by simp [phase])⟩
  | closing c exit =>
      simp only [cancelled, phase, Option.some.injEq] at stepped
      subst t
      exact ⟨_, follows_cancelled (.inl rfl), .closed c exit phase⟩
  | ended => simp [cancelled, phase] at stepped

theorem closing_resumes (phase : loop.phase = .closing c exit) (calm : loop.cancelRequested = false)
    (clean : exit = .cancelled → signal ≠ .raises)
    (stepped : resume s i loop signal configured = some t) : Resumes s i loop t := by
  cases signal <;> simp only [resume, phase, Option.some.injEq, reduceCtorEq] at stepped
  case returns =>
    subst t
    exact closed_resumes phase calm configured
  case raises =>
    subst t
    have uncancelled : exit ≠ .cancelled := fun same => clean same rfl
    have healthy : ¬ Doomed loop :=
      healthy calm (by simp [phase, Phase.done]) (by simpa [phase] using uncancelled)
    refine ⟨_, follows_phase _ healthy ?_ ?_, .closed c exit phase⟩ <;> intros <;> split <;> simp

/-- A loop that no cancellation awaits goes on; a closing raises only where it was not cancelled. -/
theorem resume_resumes (calm : loop.cancelRequested = false)
    (clean : ∀ c exit, loop.phase = .closing c exit → exit = .cancelled → signal ≠ .raises)
    (stepped : resume s i loop signal configured = some t) : Resumes s i loop t := by
  by_cases out : ∀ c exit, loop.phase ≠ .closing c exit
  swap
  · push Not at out
    obtain ⟨c, exit, phase⟩ := out
    exact closing_resumes phase calm (clean c exit phase) stepped
  have healthy : loop.phase.done = false → ¬ Doomed loop :=
    fun running => healthy calm running fun c => out c _
  cases phase : loop.phase with
  | created | unconfigured | sleeping =>
      cases signal <;> simp only [resume, phase, Option.some.injEq, reduceCtorEq] at stepped
      all_goals
        subst t
        exact iterate_resumes (healthy (by simp [phase, Phase.done])) out configured
  | preparing settings version =>
      have healthy := healthy (by simp [phase, Phase.done])
      cases signal <;> simp only [resume, phase, Option.some.injEq, reduceCtorEq] at stepped
      case returns =>
        subst t
        refine ⟨{ loop with phase := .opening settings version },
          ⟨rfl, fun doomed => (healthy doomed).elim, ?_, ?_⟩, .kept out⟩
        · simp
        · rintro _ _ ⟨⟩
          exact phase
      case declines =>
        subst t
        exact iterate_resumes healthy out configured
      case raises =>
        subst t
        exact fail_resumes healthy out
  | opening settings version =>
      have healthy := healthy (by simp [phase, Phase.done])
      cases signal <;> simp only [resume, phase, Option.some.injEq, reduceCtorEq] at stepped
      case returns =>
        subst t
        exact ⟨_, follows_phase _ healthy (by simp) (by simp), .opened _ _ phase calm rfl⟩
      case raises =>
        subst t
        exact fail_resumes healthy out
  | greeting c version | waiting c version | waking c version =>
      have healthy := healthy (by simp [phase, Phase.done])
      cases signal <;> simp only [resume, phase, Option.some.injEq, reduceCtorEq] at stepped
      case returns =>
        subst t
        exact awaitVersion_resumes healthy out
      all_goals
        subst t
        exact put_resumes _ healthy out (by simp) (by simp)
  | reporting =>
      have healthy := healthy (by simp [phase, Phase.done])
      cases signal <;> simp only [resume, phase, Option.some.injEq, reduceCtorEq] at stepped
      all_goals
        subst t
        exact put_resumes _ healthy out (by simp) (by simp)
  | closing c exit => exact (out c exit phase).elim
  | ended => cases signal <;> simp [resume, phase] at stepped

theorem ended_stuck (done : loop.phase.done = true) :
    cancelled s i loop = none ∧ resume s i loop signal configured = none := by
  cases phase : loop.phase <;> simp only [phase, Phase.done, Bool.false_eq_true] at done
  constructor
  · simp only [cancelled, phase]
  · cases signal <;> simp only [resume, phase]

/-- What a step of a loop can do. -/
theorem loop_resumes (separate : Separate s (.loop i signal configured))
    (stepped : step s (.loop i signal configured) = some t) :
    ∃ loop, s.loops[i]? = some loop ∧ loop.phase.done = false ∧ Resumes s i loop t := by
  simp only [step] at stepped
  split at stepped
  · contradiction
  rename_i loop found
  have running : loop.phase.done = false := by
    refine eq_false_of_ne_true fun done => ?_
    obtain ⟨left, right⟩ := ended_stuck (s := s) (i := i) done
    rw [left, right] at stepped
    simp at stepped
  refine ⟨loop, found, running, ?_⟩
  simp only [Separate, found] at separate
  split at stepped
  · split at stepped
    · exact cancelled_resumes stepped
    · contradiction
  · rename_i calm
    refine resume_resumes (eq_false_of_ne_true calm) ?_ stepped
    intro c exit phase
    simp only [phase] at separate
    exact separate.1

/-- The settings and their version were read together. -/
def Current (s : State σ) (settings : σ) (version : Nat) : Prop :=
  version ≤ s.settingsVersion ∧ (version = s.settingsVersion → s.settings = some settings)

/-- What a loop and a client take from the settings, and what `connected` says, in every run. -/
structure Served (s : State σ) : Prop where
  loops : ∀ loop ∈ s.loops, ∀ settings version,
    loop.phase = .preparing settings version ∨ loop.phase = .opening settings version →
      Current s settings version
  clients : ∀ client ∈ s.clients, Current s client.settings client.version
  live : s.connected = true → ∃ c client, s.client = some c ∧ s.clients[c]? = some client ∧
    client.isOpen = true

/-- What connects no one and leaves settings and clients as they are. -/
theorem Served.frame (served : Served s) (settings : t.settings = s.settings)
    (version : t.settingsVersion = s.settingsVersion) (clients : t.clients = s.clients)
    (loops : ∀ loop ∈ t.loops, ∀ settings version,
      loop.phase = .preparing settings version ∨ loop.phase = .opening settings version →
        Current s settings version)
    (off : t.connected = true → s.connected = true ∧ t.client = s.client) : Served t := by
  have current : ∀ value number, Current s value number → Current t value number := by
    intro value number
    unfold Current
    rw [settings, version]
    exact id
  refine ⟨fun loop listed value number phase => current _ _ (loops loop listed value number phase),
    ?_, ?_⟩
  · rw [clients]
    exact fun client listed => current _ _ (served.clients client listed)
  · intro connected
    obtain ⟨before, same⟩ := off connected
    rw [same, clients]
    exact served.live before

/-- The settings move on: nothing read before is current any more. -/
theorem Served.move (served : Served s) (version : s.settingsVersion < t.settingsVersion)
    (clients : t.clients = s.clients)
    (loops : ∀ loop ∈ t.loops, loop ∈ s.loops ∨ loop.phase = .created)
    (off : t.connected = true → s.connected = true ∧ t.client = s.client) : Served t := by
  have current : ∀ value number, Current s value number → Current t value number := by
    rintro value number ⟨bound, _⟩
    exact ⟨by omega, by omega⟩
  refine ⟨?_, ?_, ?_⟩
  · intro loop listed value number phase
    obtain old | new := loops loop listed
    · exact current _ _ (served.loops loop old value number phase)
    · simp [new] at phase
  · rw [clients]
    exact fun client listed => current _ _ (served.clients client listed)
  · intro connected
    obtain ⟨before, same⟩ := off connected
    rw [same, clients]
    exact served.live before

theorem Follows.current (served : Served s) (listed : loop ∈ s.loops) (follows : Follows s loop next)
    (settings : σ) (version : Nat)
    (phase : next.phase = .preparing settings version ∨ next.phase = .opening settings version) :
    Current s settings version := by
  obtain preparing | opening := phase
  · obtain ⟨given, same⟩ := follows.preparing settings version preparing
    exact ⟨Nat.le_of_eq same.symm, fun _ => given⟩
  · exact served.loops loop listed settings version (.inl (follows.opening settings version opening))

theorem Moves.served (served : Served s) (listed : loop ∈ s.loops) (follows : Follows s loop next)
    (moves : Moves s i loop next t) : Served t := by
  have loops : ∀ other ∈ s.loops.set i next, ∀ settings version,
      other.phase = .preparing settings version ∨ other.phase = .opening settings version →
        Current s settings version := by
    intro other member
    obtain old | rfl := List.mem_or_eq_of_mem_set member
    · exact served.loops other old
    · exact follows.current served listed
  cases moves with
  | kept => exact served.frame rfl rfl rfl loops fun connected => ⟨connected, rfl⟩
  | dropped =>
      exact served.frame rfl rfl rfl loops fun connected => (Bool.false_ne_true connected).elim
  | closed c exit =>
      refine ⟨loops, ?_, fun connected => (Bool.false_ne_true connected).elim⟩
      intro client member
      obtain ⟨k, found⟩ := List.getElem?_of_mem member
      change (s.clients.modify c _)[k]? = some client at found
      rw [List.getElem?_modify, Option.map_eq_map, Option.map_eq_some_iff] at found
      obtain ⟨old, found, rfl⟩ := found
      have current := served.clients old (List.mem_of_getElem? found)
      split <;> exact current
  | opened settings version phase calm same =>
      have current : Current s settings version := served.loops loop listed settings version (.inr phase)
      subst same
      refine ⟨loops, ?_, fun _ => ⟨s.clients.length, _, rfl, List.getElem?_concat_length, rfl⟩⟩
      intro client member
      obtain old | new := List.mem_append.mp member
      · exact served.clients client old
      · cases List.mem_singleton.mp new
        exact current

theorem returnStop_served (served : Served s) (j : Nat) : Served (returnStop s j) :=
  served.frame rfl rfl rfl served.loops fun connected => (Bool.false_ne_true connected).elim

theorem cancelTask_served (served : Served s) (j : Nat) : Served (cancelTask s j) := by
  unfold cancelTask
  split
  · exact returnStop_served served j
  · split
    · exact returnStop_served served j
    · rename_i loop found
      split
      · exact returnStop_served served j
      · refine served.frame rfl rfl rfl ?_ fun connected => ⟨connected, rfl⟩
        intro other member
        obtain old | rfl := List.mem_or_eq_of_mem_set member
        · exact served.loops other old
        · exact served.loops loop (List.mem_of_getElem? found)

theorem startLoop_served (served : Served s) (settings : σ) : Served (startLoop s settings) := by
  have later : s.settingsVersion < s.settingsVersion + 1 := Nat.lt_succ_self _
  unfold startLoop
  split
  · exact served.move later rfl (fun _ => .inl) fun connected => ⟨connected, rfl⟩
  · refine served.move later rfl ?_ fun connected => ⟨connected, rfl⟩
    intro loop member
    refine (List.mem_append.mp member).imp_right fun new => ?_
    rw [List.mem_singleton.mp new]

theorem step_served (served : Served s) (separate : Separate s e) (stepped : step s e = some t) :
    Served t := by
  cases e <;> simp only [step] at stepped
  case start settings =>
    cases stepped
    exact startLoop_served served settings
  case stop =>
    cases stepped
    have stopping : Served { s with stops := s.stops ++ [.farewell] } :=
      served.frame rfl rfl rfl served.loops fun connected => ⟨connected, rfl⟩
    simp only [beginStop]
    split
    · exact stopping
    · exact cancelTask_served stopping _
  case farewellEnds j =>
    split at stepped
    · cases stepped
      exact cancelTask_served served j
    · contradiction
  case stopResumes j =>
    split at stepped
    · split at stepped
      · split at stepped
        · contradiction
        · cases stepped
          exact returnStop_served served j
      · contradiction
    · contradiction
  case publish =>
    split at stepped
    · cases stepped
      exact served.frame rfl rfl rfl served.loops fun connected => ⟨connected, rfl⟩
    · cases stepped
      exact served
  case published =>
    split at stepped
    · contradiction
    · cases stepped
      exact served.frame rfl rfl rfl served.loops fun connected => ⟨connected, rfl⟩
  case publishFails =>
    split at stepped
    · contradiction
    · cases stepped
      refine served.move (Nat.lt_succ_self _) rfl (fun _ => .inl) ?_
      exact fun connected => (Bool.false_ne_true connected).elim
  case loop i signal configured =>
    obtain ⟨loop, found, _, next, follows, moves⟩ := loop_resumes separate stepped
    exact moves.served served (List.mem_of_getElem? found) follows

/-- The loops of a publisher: the task's, and those that a stop gave up on. -/
structure Sound (s : State σ) : Prop where
  current : ∀ i, s.task = some i →
    ∃ loop, s.loops[i]? = some loop ∧ loop.started = s.stopsReturned
  abandoned : ∀ i loop, s.loops[i]? = some loop → loop.phase.done = false → s.task ≠ some i →
    loop.started < s.stopsReturned ∧ Dying loop ∧ loop.cancelRequested = false
  waiting : ∀ i, .waiting i ∈ s.stops →
    (∀ k, s.task = some k → k = i) ∧ ∀ loop, s.loops[i]? = some loop → Doomed loop
  sealed : ∀ client ∈ s.clients,
    ∃ loop, s.loops[client.loop]? = some loop ∧ client.stops = loop.started

theorem Sound.frame (sound : Sound s) (task : t.task = s.task) (loops : t.loops = s.loops)
    (stops : ∀ i, .waiting i ∈ t.stops → .waiting i ∈ s.stops) (clients : t.clients = s.clients)
    (returned : t.stopsReturned = s.stopsReturned) : Sound t := by
  obtain ⟨current, abandoned, waiting, sealed⟩ := sound
  refine ⟨?_, ?_, ?_, ?_⟩
  · rwa [task, loops, returned]
  · rwa [task, loops, returned]
  · rw [task, loops]
    exact fun i member => waiting i (stops i member)
  · rwa [clients, loops]

/-- A loop that is replaced by one started with it. -/
theorem started_set {k n : Nat} (next : Loop σ) (found : s.loops[i]? = some loop) (started : next.started = loop.started)
    (there : ∃ other, s.loops[k]? = some other ∧ n = other.started) :
    ∃ other, (s.loops.set i next)[k]? = some other ∧ n = other.started := by
  obtain ⟨other, listed, same⟩ := there
  rw [List.getElem?_set]
  split
  · rename_i index
    subst index
    cases Option.some.inj (listed.symm.trans found)
    obtain ⟨bound, _⟩ := List.getElem?_eq_some_iff.mp found
    exact ⟨next, by rw [if_pos bound], same.trans started.symm⟩
  · exact ⟨other, listed, same⟩

theorem getElem?_set_cases (found : (s.loops.set i next)[k]? = some loop) :
    i = k ∧ loop = next ∨ i ≠ k ∧ s.loops[k]? = some loop := by
  rw [List.getElem?_set] at found
  split at found
  · rename_i index
    split at found
    · exact .inl ⟨index, (Option.some.inj found).symm⟩
    · contradiction
  · rename_i index
    exact .inr ⟨index, found⟩

/-- A loop goes on; the clients are those there were, or one more of a loop of now. -/
theorem Sound.advance (sound : Sound s) (found : s.loops[i]? = some loop)
    (running : loop.phase.done = false) (follows : Follows s loop next)
    (loops : t.loops = s.loops.set i next) (task : t.task = s.task) (stops : t.stops = s.stops)
    (returned : t.stopsReturned = s.stopsReturned)
    (clients : ∀ client ∈ t.clients, (∃ old ∈ s.clients,
      client.loop = old.loop ∧ client.stops = old.stops) ∨
        client.loop = i ∧ client.stops = loop.started) : Sound t := by
  refine ⟨?_, ?_, ?_, ?_⟩
  · intro k current
    obtain ⟨other, listed, same⟩ := sound.current k (task.symm.trans current)
    obtain ⟨other, listed, same⟩ := started_set next found follows.started ⟨other, listed, same.symm⟩
    exact ⟨other, loops ▸ listed, same.symm.trans returned.symm⟩
  · rw [loops, task, returned]
    intro k other listed alive away
    obtain ⟨rfl, rfl⟩ | ⟨_, listed⟩ := getElem?_set_cases listed
    · obtain ⟨earlier, dying, _⟩ := sound.abandoned i loop found running away
      obtain done | still := follows.doomed (.inr (.inr dying))
      · exact (Bool.false_ne_true (alive.symm.trans done)).elim
      · exact ⟨follows.started.trans_lt earlier, still⟩
    · exact sound.abandoned k other listed alive away
  · rw [stops, task, loops]
    intro k member
    obtain ⟨only, doomed⟩ := sound.waiting k member
    refine ⟨only, ?_⟩
    intro other listed
    obtain ⟨rfl, rfl⟩ | ⟨_, listed⟩ := getElem?_set_cases listed
    · exact (follows.doomed (doomed loop found)).imp_right fun still => .inr still.1
    · exact doomed other listed
  · rw [loops]
    intro client member
    obtain ⟨old, listed, sameLoop, sameStops⟩ | ⟨here, now⟩ := clients client member
    · rw [sameLoop, sameStops]
      exact started_set next found follows.started (sound.sealed old listed)
    · rw [here]
      exact started_set next found follows.started ⟨loop, found, now⟩

theorem Moves.sound (sound : Sound s) (found : s.loops[i]? = some loop)
    (running : loop.phase.done = false) (follows : Follows s loop next)
    (moves : Moves s i loop next t) : Sound t := by
  cases moves with
  | kept | dropped =>
      exact sound.advance found running follows rfl rfl rfl rfl fun client member =>
        .inl ⟨client, member, rfl, rfl⟩
  | closed c exit =>
      refine sound.advance found running follows rfl rfl rfl rfl fun client member => .inl ?_
      obtain ⟨k, listed⟩ := List.getElem?_of_mem member
      change (s.clients.modify c _)[k]? = some client at listed
      rw [List.getElem?_modify, Option.map_eq_map, Option.map_eq_some_iff] at listed
      obtain ⟨old, listed, rfl⟩ := listed
      refine ⟨old, List.mem_of_getElem? listed, ?_⟩
      split <;> exact ⟨rfl, rfl⟩
  | opened settings version phase calm same =>
      have current : s.task = some i := by
        by_contra away
        obtain ⟨_, ⟨c, closing⟩, _⟩ := sound.abandoned i loop found running away
        simp [phase] at closing
      obtain ⟨other, listed, now⟩ := sound.current i current
      cases Option.some.inj (listed.symm.trans found)
      subst same
      refine sound.advance found running follows rfl rfl rfl rfl fun client member => ?_
      obtain old | new := List.mem_append.mp member
      · exact .inl ⟨client, old, rfl, rfl⟩
      · cases List.mem_singleton.mp new
        exact .inr ⟨rfl, now.symm⟩

/-- A stop returns once the task's loop is on its way out. -/
theorem returnStop_sound (sound : Sound s) (j : Nat)
    (leaving : ∀ i loop, s.task = some i → s.loops[i]? = some loop → loop.phase.done = false →
      Dying loop ∧ loop.cancelRequested = false) : Sound (returnStop s j) := by
  refine ⟨?_, ?_, ?_, sound.sealed⟩
  · intro i current
    contradiction
  · intro i loop found running _
    by_cases current : s.task = some i
    · obtain ⟨other, listed, now⟩ := sound.current i current
      cases Option.some.inj (listed.symm.trans found)
      exact ⟨now ▸ Nat.lt_succ_self _, leaving i loop current found running⟩
    · obtain ⟨earlier, still⟩ := sound.abandoned i loop found running current
      exact ⟨Nat.lt_succ_of_lt earlier, still⟩
  · intro i member
    refine ⟨fun k current => by contradiction, ?_⟩
    obtain old | new := List.mem_or_eq_of_mem_set member
    · exact (sound.waiting i old).2
    · contradiction

theorem cancelTask_sound (sound : Sound s) (j : Nat) : Sound (cancelTask s j) := by
  unfold cancelTask
  split
  · rename_i idle
    refine returnStop_sound sound j fun i loop current => ?_
    exact (Option.some_ne_none _ (current.symm.trans idle)).elim
  rename_i i current
  obtain ⟨loop, found, now⟩ := sound.current i current
  rw [found]
  dsimp only
  split
  · rename_i done
    refine returnStop_sound sound j fun k other task listed running => ?_
    cases Option.some.inj (task.symm.trans current)
    cases Option.some.inj (listed.symm.trans found)
    exact (Bool.false_ne_true (running.symm.trans done)).elim
  rename_i running
  refine ⟨?_, ?_, ?_, ?_⟩
  · intro k task
    obtain ⟨other, listed, same⟩ := sound.current k task
    obtain ⟨other, listed, same⟩ :=
      started_set { loop with cancelRequested := true } found rfl ⟨other, listed, same.symm⟩
    exact ⟨other, listed, same.symm⟩
  · intro k other listed alive away
    obtain ⟨rfl, _⟩ | ⟨_, listed⟩ := getElem?_set_cases listed
    · exact (away current).elim
    · exact sound.abandoned k other listed alive away
  · intro k member
    have same : k = i ∨ .waiting k ∈ s.stops := by
      obtain old | new := List.mem_or_eq_of_mem_set member
      · exact .inr old
      · exact .inl (Stop.waiting.inj new)
    have here : k = i := same.elim id fun old => ((sound.waiting k old).1 i current).symm
    subst here
    refine ⟨fun other task => Option.some.inj (task.symm.trans current), ?_⟩
    intro other listed
    obtain ⟨_, rfl⟩ | ⟨different, _⟩ := getElem?_set_cases listed
    · exact .inr (.inl rfl)
    · exact (different rfl).elim
  · intro client member
    exact started_set { loop with cancelRequested := true } found rfl
      (sound.sealed client member)

/-- A new loop follows a task that is done, and no stop waits for that. -/
theorem startLoop_sound (sound : Sound s)
    (free : running s = true ∨ ∀ stop ∈ s.stops, stop.waits = false) (settings : σ) :
    Sound (startLoop s settings) := by
  unfold startLoop
  split
  · exact sound.frame rfl rfl (fun _ => id) rfl rfl
  rename_i idle
  refine ⟨?_, ?_, ?_, ?_⟩
  · rintro i ⟨⟩
    exact ⟨_, List.getElem?_concat_length, rfl⟩
  · intro i loop found alive away
    have bound : i < s.loops.length := by
      obtain ⟨small, _⟩ := List.getElem?_eq_some_iff.mp found
      have distinct : i ≠ s.loops.length := fun same => away (congrArg some same.symm)
      simp only [List.length_append, List.length_singleton] at small
      omega
    have found : s.loops[i]? = some loop := by rwa [List.getElem?_append_left bound] at found
    refine sound.abandoned i loop found alive fun current => idle ?_
    simp [running, current, found, alive]
  · intro i member
    exact (Bool.false_ne_true (free.resolve_left idle _ member).symm).elim
  · intro client member
    obtain ⟨loop, found, same⟩ := sound.sealed client member
    obtain ⟨bound, _⟩ := List.getElem?_eq_some_iff.mp found
    exact ⟨loop, by rw [List.getElem?_append_left bound, found], same⟩

theorem step_sound (sound : Sound s) (separate : Separate s e) (stepped : step s e = some t) :
    Sound t := by
  cases e <;> simp only [step] at stepped
  case start settings =>
    cases stepped
    exact startLoop_sound sound separate settings
  case stop =>
    cases stepped
    have stopping : Sound { s with stops := s.stops ++ [.farewell] } := by
      refine sound.frame rfl rfl (fun i member => ?_) rfl rfl
      exact (List.mem_append.mp member).resolve_right (by simp)
    simp only [beginStop]
    split
    · exact stopping
    · exact cancelTask_sound stopping _
  case farewellEnds j =>
    split at stepped
    · cases stepped
      exact cancelTask_sound sound j
    · contradiction
  case stopResumes j =>
    split at stepped
    · rename_i i waiting
      split at stepped
      · rename_i loop found
        split at stepped
        · contradiction
        rename_i calm
        cases stepped
        obtain ⟨only, doomed⟩ := sound.waiting i (List.mem_of_getElem? waiting)
        refine returnStop_sound sound j ?_
        intro k other current listed running
        cases only k current
        cases Option.some.inj (listed.symm.trans found)
        obtain done | requested | dying := doomed loop found
        · exact (Bool.false_ne_true (running.symm.trans done)).elim
        · exact (calm requested).elim
        · exact ⟨dying, eq_false_of_ne_true calm⟩
      · contradiction
    · contradiction
  case publish =>
    split at stepped
    · cases stepped
      exact sound.frame rfl rfl (fun _ => id) rfl rfl
    · cases stepped
      exact sound
  case published | publishFails =>
    split at stepped
    · contradiction
    · cases stepped
      exact sound.frame rfl rfl (fun _ => id) rfl rfl
  case loop i signal configured =>
    obtain ⟨loop, found, running, next, follows, moves⟩ := loop_resumes separate stepped
    exact moves.sound sound found running follows

theorem orderly_of_sound (sound : Sound s) (served : Served s) : Orderly s := by
  refine ⟨sound.sealed, ?_, ?_⟩
  · intro i j first second foundFirst foundSecond aliveFirst aliveSecond now also
    have task : ∀ {k loop}, s.loops[k]? = some loop → loop.phase.done = false →
        loop.started = s.stopsReturned → s.task = some k := by
      intro k loop found alive now
      by_contra away
      exact Nat.ne_of_lt (sound.abandoned k loop found alive away).1 now
    have same := (task foundFirst aliveFirst now).symm.trans (task foundSecond aliveSecond also)
    exact Option.some.inj same
  · intro connected
    obtain ⟨c, client, current, found, isOpen⟩ := served.live connected
    refine ⟨c, client, current, found, isOpen, ?_⟩
    obtain ⟨_, same⟩ := served.clients client (List.mem_of_getElem? found)
    exact or_iff_not_imp_right.mpr fun here => same (not_not.mp here)

theorem harmless (sound : Sound s) (served : Served s) (separate : Separate s e)
    (stepped : step s e = some t) : Harmless s e t := by
  rintro i signal configured rfl ⟨other, listed, alive, earlier⟩
  have away : s.task ≠ some i := by
    intro current
    obtain ⟨loop, found, now⟩ := sound.current i current
    cases Option.some.inj (found.symm.trans listed)
    exact Nat.ne_of_lt earlier now
  obtain ⟨_, ⟨c, phase⟩, _⟩ := sound.abandoned i other listed alive away
  obtain ⟨loop, found, _, next, _, moves⟩ := loop_resumes separate stepped
  cases Option.some.inj (found.symm.trans listed)
  simp only [Separate, found, phase] at separate
  have none : s.client = none := separate.2 away
  have disconnected : s.connected = false := by
    refine eq_false_of_ne_true fun connected => ?_
    obtain ⟨c, _, some, _⟩ := served.live connected
    exact Option.some_ne_none _ (some.symm.trans none)
  cases moves with
  | kept out | dropped out => exact (out c .cancelled phase).elim
  | closed => exact ⟨none.symm, disconnected.symm⟩
  | opened settings version opening =>
      rw [phase] at opening
      contradiction

theorem start_served (proactor : Bool) : Served (start proactor : State σ) := by
  constructor <;> simp [start]

theorem start_sound (proactor : Bool) : Sound (start proactor : State σ) := by
  constructor <;> simp [start]

theorem publisher_orderly {proactor : Bool} (run : Reaches step Separate (start proactor) s) :
    Orderly s ∧ ∀ e t, Separate s e → step s e = some t → Harmless s e t := by
  have served : Served s := run.invariant step_served (start_served proactor)
  have sound : Sound s := run.invariant step_sound (start_sound proactor)
  exact ⟨orderly_of_sound sound served, fun e t => harmless sound served⟩

/-- A start, and its loop up to the connection. -/
def connecting (settings : String) (i : Nat) : List (Event String) :=
  [.start settings, .loop i .returns true, .loop i .returns true, .loop i .returns true]

/-- A stop that gives up on a loop, which closes its client later, and another start. -/
theorem restarted_orderly : ∃ s : State String,
    (s.connected = true ∧ s.client = some 1 ∧ s.stopsReturned = 1) ∧ Orderly s ∧
      ∀ e t, Separate s e → step s e = some t → Harmless s e t := by
  have ran : (executeWhere step Separate (start false) (connecting "a" 0 ++
      [.stop, .farewellEnds 0, .loop 0 .cancelled true, .stopResumes 0, .loop 0 .returns true] ++
      connecting "b" 1)).any (fun s =>
        decide (s.connected = true ∧ s.client = some 1 ∧ s.stopsReturned = 1)) = true := by
    decide +kernel
  obtain ⟨s, executed, holds⟩ := (Option.any_eq_true _ _).mp ran
  exact ⟨s, of_decide_eq_true holds, publisher_orderly (executeWhere_reaches executed)⟩

/-- A client whose closing raises takes the cancellation from its loop, which sleeps, opens another
connection after the stop has given up on it, and still runs beside the next loop. -/
theorem cancelled_reconnects : ∃ s : State String, Reaches step Any (start false) s ∧ ¬ Orderly s ∧
    s.clients.map (fun client => (client.loop, client.stops)) = [(0, 0), (0, 1)] := by
  have ran : (execute step (start false) (connecting "a" 0 ++
      [.stop, .farewellEnds 0, .loop 0 .cancelled true, .loop 0 .raises true,
        .loop 0 .returns true, .loop 0 .returns true, .loop 0 .returns true, .stopResumes 0,
        .loop 0 .returns true])).any (fun s =>
        decide (s.clients.map (fun client => (client.loop, client.stops)) = [(0, 0), (0, 1)] ∧
          s.loops.map Loop.started = [0])) = true := by
    decide +kernel
  obtain ⟨s, executed, holds⟩ := (Option.any_eq_true _ _).mp ran
  obtain ⟨clients, loops⟩ := of_decide_eq_true holds
  refine ⟨s, execute_reaches executed, ?_, clients⟩
  intro orderly
  have listed : (0, 1) ∈ s.clients.map fun client => (client.loop, client.stops) := by simp [clients]
  obtain ⟨client, member, same⟩ := List.mem_map.mp listed
  obtain ⟨loop, found, stops⟩ := orderly.sealed client member
  have started : loop.started ∈ s.loops.map Loop.started :=
    List.mem_map_of_mem (List.mem_of_getElem? found)
  rw [loops, List.mem_singleton] at started
  exact Nat.one_ne_zero ((congrArg Prod.snd same).symm.trans (stops.trans started))

end Meshloom.PublisherLoop
