import Meshloom.Update.AutoApply

/-! No two window timers are pending at a time, and what an automatic update that starts
knows of holds and failed checks: what the cache said before the settings were read. -/
namespace Meshloom.AutoApply
open OssUpdates Transition
variable {V : Type} {v : Versions V} {build : Build} {s : State}

/-- A window timer that has neither been cancelled nor come to its update. -/
def Pending (s : State) (t : Nat) : Prop :=
  ∃ await, s.tasks.get? t = some ⟨.timer, await, false⟩ ∧ await ≠ .applying

/-- Every pending timer but `t` is the one that the server knows of. -/
def KnownBut (s : State) (t : Nat) : Prop :=
  ∀ u, u ≠ t → Pending s u → s.windowTimerTask = some u

/-- Every pending timer is the one that the server knows of. -/
def Known (s : State) : Prop := ∀ u, Pending s u → s.windowTimerTask = some u

theorem Known.but (known : Known s) (t : Nat) : KnownBut s t := fun u _ pending => known u pending

theorem KnownBut.finish (known : KnownBut s t) : Known (s.finish t kind) := by
  rintro u ⟨await, found, early⟩
  by_cases same : u = t
  · subst same
    cases kind <;> simp [State.finish, State.goOn] at found
  · have before : Pending s u := by
      refine ⟨await, ?_, early⟩
      cases kind <;> simpa [State.finish, State.goOn, same] using found
    have kept := known u same before
    cases kind <;> exact kept

theorem KnownBut.applying (known : KnownBut s t) : Known (s.goOn t kind .applying) := by
  rintro u ⟨await, found, early⟩
  by_cases same : u = t
  · subst same
    simp only [State.goOn, Dict.get?_set, if_true, Option.some.injEq, Task.mk.injEq] at found
    exact absurd found.2.1.symm early
  · exact known u same ⟨await, by simpa [State.goOn, same] using found, early⟩

theorem Known.goOn (known : Known s) (found : s.tasks.get? t = some ⟨kind, before, false⟩)
    (early : before ≠ .applying) : Known (s.goOn t kind await) := by
  rintro u ⟨await', found', early'⟩
  by_cases same : u = t
  · subst same
    simp only [State.goOn, Dict.get?_set, if_true, Option.some.injEq, Task.mk.injEq] at found'
    obtain ⟨rfl, _⟩ := found'
    exact known u ⟨before, found, early⟩
  · exact known u ⟨await', by simpa [State.goOn, same] using found', early'⟩

theorem Known.spawn (known : Known s) (other : kind ≠ .timer) : Known (s.spawn kind await) := by
  rintro u ⟨await', found, early⟩
  by_cases same : u = s.nextTask
  · subst same
    simp only [State.spawn, Dict.get?_set, if_true, Option.some.injEq, Task.mk.injEq] at found
    exact absurd found.1 other
  · exact known u ⟨await', by simpa [State.spawn, same] using found, early⟩

/-- Once the timer that the server knows of is cancelled, only the caller can be one. -/
theorem not_pending_cancelWindowTimer (known : KnownBut s t) (other : u ≠ t) :
    ¬ Pending (cancelWindowTimer s t) u := by
  rintro ⟨await, found, early⟩
  cases timer : s.windowTimerTask with
  | none =>
      simp only [cancelWindowTimer, timer] at found
      have := known u other ⟨await, found, early⟩
      rw [timer] at this
      contradiction
  | some w =>
      have different : u ≠ w ∨ w = t := by
        by_contra both
        obtain ⟨rfl, apart⟩ : u = w ∧ w ≠ t := by tauto
        simp only [cancelWindowTimer, timer, if_neg apart, State.cancel] at found
        split at found
        · rename_i gone
          rw [gone] at found
          contradiction
        · simp at found
      have before : Pending s u := by
        refine ⟨await, ?_, early⟩
        simp only [cancelWindowTimer, timer] at found
        split at found
        · exact found
        · rename_i apart
          have unlike : u ≠ w := different.resolve_right apart
          simp only [State.cancel] at found
          split at found
          · exact found
          · simpa [unlike] using found
      have eq := known u other before
      rw [timer] at eq
      have := Option.some.inj eq
      grind

theorem KnownBut.cancelWindowTimer (known : KnownBut s t) : KnownBut (cancelWindowTimer s t) t :=
  fun _ other pending => absurd pending (not_pending_cancelWindowTimer known other)

theorem KnownBut.scheduleWindowApply (known : KnownBut s t) :
    KnownBut (scheduleWindowApply s t) t := by
  rintro u other ⟨await, found, early⟩
  by_cases same : u = (AutoApply.cancelWindowTimer s t).nextTask
  · rw [same]
    rfl
  · have before : Pending (AutoApply.cancelWindowTimer s t) u :=
      ⟨await, by simpa [AutoApply.scheduleWindowApply, State.spawn, same] using found, early⟩
    exact absurd before (not_pending_cancelWindowTimer known other)

theorem running_eq (found : running s t = some task) :
    s.tasks.get? t = some task ∧ task.cancelled = false := by
  simpa [running, Option.filter_eq_some_iff] using found

/-- The task `t` stands at an await. -/
def Stands (s : State) (t : Nat) (await : Await) : Prop :=
  ∃ kind cancelled, s.tasks.get? t = some ⟨kind, await, cancelled⟩

theorem Stands.of_goOn (stands : Stands (s.goOn t kind await) u target) :
    Stands s u target ∨ target = await := by
  obtain ⟨kind', cancelled, found⟩ := stands
  by_cases same : u = t
  · subst same
    simp only [State.goOn, Dict.get?_set, if_true, Option.some.injEq, Task.mk.injEq] at found
    exact .inr found.2.1.symm
  · exact .inl ⟨kind', cancelled, by simpa [State.goOn, same] using found⟩

theorem Stands.of_finish (stands : Stands (s.finish t kind) u target) :
    Stands s u target ∨ target = .waiting := by
  have popped (stands : Stands { s with tasks := s.tasks.pop t } u target) :
      Stands s u target := by
    obtain ⟨kind', cancelled, found⟩ := stands
    simp only [Dict.get?_pop] at found
    split at found
    · contradiction
    · exact ⟨kind', cancelled, found⟩
  cases kind with
  | poll => exact stands.of_goOn
  | refresh | timer | recheck => exact .inl (popped stands)

theorem Stands.of_spawn (stands : Stands (s.spawn kind await) u target) :
    Stands s u target ∨ target = await := by
  obtain ⟨kind', cancelled, found⟩ := stands
  simp only [State.spawn, Dict.get?_set] at found
  split at found
  · simp only [Option.some.injEq, Task.mk.injEq] at found
    exact .inr found.2.1.symm
  · exact .inl ⟨kind', cancelled, found⟩

theorem Stands.of_cancel (stands : Stands (s.cancel t) u target) : Stands s u target := by
  obtain ⟨kind, cancelled, found⟩ := stands
  simp only [State.cancel] at found
  split at found
  · exact ⟨kind, cancelled, found⟩
  · rename_i task standing
    simp only [Dict.get?_set] at found
    split at found
    · rename_i same
      simp only [Option.some.injEq, Task.mk.injEq] at found
      refine ⟨task.kind, task.cancelled, ?_⟩
      rw [same, standing, ← found.2.1]
    · exact ⟨kind, cancelled, found⟩

theorem Stands.of_cancelWindowTimer (stands : Stands (cancelWindowTimer s t) u target) :
    Stands s u target := by
  simp only [cancelWindowTimer] at stands
  split at stands
  · exact stands
  · split at stands
    · exact stands
    · exact stands.of_cancel

theorem Stands.of_scheduleWindowApply (stands : Stands (scheduleWindowApply s t) u target) :
    Stands s u target ∨ target = .waiting := by
  have spawned : Stands ((cancelWindowTimer s t).spawn .timer .waiting) u target := stands
  exact spawned.of_spawn.imp_left of_cancelWindowTimer

/-- The same answers came, and the cache holds the same. -/
def SameCache (s u : State) : Prop := u.cache = s.cache ∧ u.answers = s.answers

theorem sameCache_finish : SameCache s (s.finish t kind) := by
  cases kind <;> exact ⟨rfl, rfl⟩

theorem sameCache_cancelWindowTimer : SameCache s (cancelWindowTimer s t) := by
  simp only [cancelWindowTimer, State.cancel]
  split
  · exact ⟨rfl, rfl⟩
  · split
    · exact ⟨rfl, rfl⟩
    · split <;> exact ⟨rfl, rfl⟩

theorem settings_cancelWindowTimer : (cancelWindowTimer s t).settings = s.settings := by
  simp only [cancelWindowTimer, State.cancel]
  split
  · rfl
  · split
    · rfl
    · split <;> rfl

/-- A status that the hold and the last check leave free to be applied. -/
def Clear (build : Build) (s : State) (status : Status) : Prop :=
  status.autoUpdateHeld = false ∧ status.checkStale = false ∧
    (build.envLatest ≠ none ∨ s.answers ≠ [])

/-- The cache holds what the answers said, and a task that waits for the settings has read a
clear status. -/
structure Fresh (build : Build) (s : State) : Prop where
  failed : s.cache.lastCheckFailed = true ↔ s.answers.head? = some none
  payload : s.cache.latestPayload = s.answers.findSome? (fun answer => answer)
  clear : Stands s t (.readingSettings status) → Clear build s status

theorem Fresh.keep {u : State} (fresh : Fresh build s) (same : SameCache s u)
    (stands : ∀ t status, Stands u t (.readingSettings status) →
      Stands s t (.readingSettings status) ∨ Clear build s status) : Fresh build u := by
  obtain ⟨cache, answers⟩ := same
  refine ⟨by rw [cache, answers]; exact fresh.failed, by rw [cache, answers]; exact fresh.payload,
    fun reading => ?_⟩
  have clear := (stands _ _ reading).elim fresh.clear (fun clear => clear)
  rwa [Clear, answers]

theorem Fresh.goOn (fresh : Fresh build s) (other : ∀ status, await ≠ .readingSettings status) :
    Fresh build (s.goOn t kind await) :=
  fresh.keep ⟨rfl, rfl⟩ fun _ status stands =>
    .inl (stands.of_goOn.resolve_right fun eq => other status eq.symm)

theorem Fresh.finish (fresh : Fresh build s) : Fresh build (s.finish t kind) :=
  fresh.keep sameCache_finish fun _ _ stands => .inl (stands.of_finish.resolve_right nofun)

theorem Fresh.spawn (fresh : Fresh build s) (other : ∀ status, await ≠ .readingSettings status) :
    Fresh build (s.spawn kind await) :=
  fresh.keep ⟨rfl, rfl⟩ fun _ status stands =>
    .inl (stands.of_spawn.resolve_right fun eq => other status eq.symm)

theorem Fresh.cancelWindowTimer (fresh : Fresh build s) : Fresh build (cancelWindowTimer s t) :=
  fresh.keep sameCache_cancelWindowTimer fun _ _ stands => .inl stands.of_cancelWindowTimer

theorem Fresh.scheduleWindowApply (fresh : Fresh build s) :
    Fresh build (scheduleWindowApply s t) :=
  fresh.keep sameCache_cancelWindowTimer fun _ _ stands =>
    .inl (stands.of_scheduleWindowApply.resolve_right nofun)

structure Sound (build : Build) (s : State) : Prop where
  known : Known s
  fresh : Fresh build s

/-- The task `t` goes on, and has not come to an update. -/
def Active (s : State) (t : Nat) (kind : Kind) : Prop :=
  ∃ await, s.tasks.get? t = some ⟨kind, await, false⟩ ∧ await ≠ .applying

theorem Sound.finish (sound : Sound build s) : Sound build (s.finish t kind) :=
  ⟨(sound.known.but t).finish, sound.fresh.finish⟩

theorem Sound.goOn (sound : Sound build s) (active : Active s t kind)
    (other : ∀ status, await ≠ .readingSettings status) : Sound build (s.goOn t kind await) := by
  obtain ⟨before, found, early⟩ := active
  exact ⟨sound.known.goOn found early, sound.fresh.goOn other⟩

theorem Sound.cancel_finish (sound : Sound build s) :
    Sound build ((cancelWindowTimer s t).finish t kind) :=
  ⟨(sound.known.but t).cancelWindowTimer.finish, sound.fresh.cancelWindowTimer.finish⟩

/-- An update that is available is the pin or one that Community answered. -/
theorem Fresh.answered (fresh : Fresh build s)
    (available : (getUpdateStatus v build s.cache).updateAvailable = true) :
    build.envLatest ≠ none ∨ s.answers ≠ [] := by
  by_contra both
  obtain ⟨unpinned, empty⟩ : build.envLatest = none ∧ s.answers = [] := by tauto
  have payload : s.cache.latestPayload = none := by rw [fresh.payload, empty]; rfl
  simp [getUpdateStatus, updateAvailable, latest, payloadVersion, unpinned, payload] at available

theorem Sound.maybeAutoApply (sound : Sound build s) (active : Active s t kind) :
    Sound build (maybeAutoApply v build s t kind) := by
  simp only [AutoApply.maybeAutoApply]
  split
  · exact sound.finish
  · rename_i available
    split
    · exact sound.cancel_finish
    · rename_i unheld
      split
      · exact sound.finish
      · rename_i unstale
        obtain ⟨before, found, early⟩ := active
        refine ⟨sound.known.goOn found early, sound.fresh.keep ⟨rfl, rfl⟩ fun _ status stands => ?_⟩
        refine stands.of_goOn.imp_right fun eq => ?_
        cases eq
        simp only [Bool.not_eq_eq_eq_not, Bool.not_true, Bool.not_eq_false] at available
        simp only [Bool.or_eq_true, not_or, Bool.not_eq_true] at unstale
        exact ⟨by simpa using unheld, unstale.1, sound.fresh.answered available⟩

theorem Sound.afterRefresh (sound : Sound build s) (active : Active s t kind) :
    Sound build (afterRefresh v build s t kind) := by
  cases kind with
  | refresh =>
      have done : Sound build (s.finish t .refresh) := sound.finish
      exact done
  | poll | timer | recheck => exact sound.maybeAutoApply active

/-- What `answered` goes on with. -/
theorem Sound.cached (sound : Sound build s) (answer : Option Payload) (now : Int) :
    Sound build { s with
      cache := answerCached v s.cache now answer
      answers := fetchLatestRelease v answer :: s.answers } := by
  refine ⟨sound.known, ?_, ?_, fun stands => ?_⟩
  · cases received : fetchLatestRelease v answer <;> simp [answerCached, received]
  · cases received : fetchLatestRelease v answer with
    | none => simpa [answerCached, received] using sound.fresh.payload
    | some payload => simp [answerCached, received]
  · obtain ⟨unheld, unstale, _⟩ := sound.fresh.clear stands
    exact ⟨unheld, unstale, .inr (List.cons_ne_nil _ _)⟩

theorem Sound.answered (sound : Sound build s) (active : Active s t kind) :
    Sound build (answered v build s t kind answer now) := by
  have cached := sound.cached (v := v) answer now
  simp only [AutoApply.answered]
  split
  · exact cached.goOn active nofun
  · exact cached.afterRefresh active

theorem Sound.wake (sound : Sound build s) (active : Active s t kind) :
    Sound build (wake v build s t kind now) := by
  have fetching : Sound build (s.goOn t kind .fetching) := sound.goOn active nofun
  cases kind with
  | recheck =>
      simp only [AutoApply.wake]
      split
      · exact fetching
      · exact sound.maybeAutoApply active
  | refresh | poll | timer => exact fetching

theorem Sound.settingsRead (sound : Sound build s) :
    Sound build (settingsRead s t kind status ok now) := by
  have but := sound.known.but t
  simp only [AutoApply.settingsRead]
  split
  · exact sound.finish
  · split
    · exact sound.cancel_finish
    · split
      · split
        · exact ⟨but.scheduleWindowApply.finish, sound.fresh.scheduleWindowApply.finish⟩
        · exact sound.cancel_finish
      · have judged : ∀ job, KnownBut { cancelWindowTimer s t with job } t ∧
            Fresh build { cancelWindowTimer s t with job } := fun job =>
          ⟨but.cancelWindowTimer, sound.fresh.cancelWindowTimer.keep ⟨rfl, rfl⟩
            fun _ _ stands => .inl stands⟩
        split
        · exact ⟨(judged _).1.finish, (judged _).2.finish⟩
        · exact ⟨(judged _).1.applying, (judged _).2.goOn nofun⟩

/-- A cancelled task ends. -/
theorem Sound.pop (sound : Sound build s) : Sound build { s with tasks := s.tasks.pop t } := by
  have done : Sound build (s.finish t .refresh) := sound.finish
  exact done

theorem step_sound (sound : Sound build s) (stepped : step v build s e = some u) :
    Sound build u := by
  have sameTasks (same : SameCache s u) (tasks : u.tasks = s.tasks)
      (timer : u.windowTimerTask = s.windowTimerTask) : Sound build u := by
    refine ⟨fun t pending => ?_, sound.fresh.keep same fun t status stands => .inl ?_⟩
    · rw [timer]
      exact sound.known t (by rwa [Pending, tasks] at pending)
    · rwa [Stands, tasks] at stands
  cases e with
  | refresh =>
      cases stepped
      exact ⟨sound.known.spawn nofun, sound.fresh.spawn nofun⟩
  | recheck =>
      cases stepped
      exact ⟨sound.known.spawn nofun, sound.fresh.spawn nofun⟩
  | store settings =>
      cases stepped
      exact sameTasks ⟨rfl, rfl⟩ rfl rfl
  | jobChanged job =>
      cases stepped
      exact sameTasks ⟨rfl, rfl⟩ rfl rfl
  | installChanged supported =>
      cases stepped
      exact sameTasks ⟨rfl, rfl⟩ rfl rfl
  | wake t now =>
      simp only [step] at stepped
      split at stepped <;> cases stepped
      rename_i going
      obtain ⟨found, rfl⟩ := running_eq going
      exact sound.wake ⟨_, found, nofun⟩
  | answered t answer now =>
      simp only [step] at stepped
      split at stepped <;> cases stepped
      rename_i going
      obtain ⟨found, rfl⟩ := running_eq going
      exact sound.answered ⟨_, found, nofun⟩
  | notified t =>
      simp only [step] at stepped
      split at stepped <;> cases stepped
      rename_i going
      obtain ⟨found, rfl⟩ := running_eq going
      exact sound.afterRefresh ⟨_, found, nofun⟩
  | settingsRead t ok now =>
      simp only [step] at stepped
      split at stepped <;> cases stepped
      exact sound.settingsRead
  | applied t =>
      simp only [step] at stepped
      split at stepped <;> cases stepped
      exact sound.finish
  | cancelled t =>
      simp only [step] at stepped
      split at stepped <;> cases stepped
      exact sound.pop

theorem Initial.sound (initial : Initial s) : Sound build s where
  known := by
    rintro t ⟨await, found, _⟩
    cases initial.polling _ _ found
  fresh := by
    refine ⟨?_, ?_, ?_⟩
    · simp [initial.cache, initial.answers]
    · simp [initial.cache, initial.answers]
    · rintro t status ⟨kind, cancelled, found⟩
      cases initial.polling _ _ found

theorem reaches_sound (initial : Initial s) (run : Reaches (step v build) allowed s u) :
    Sound build u :=
  run.invariant (fun sound _ stepped => step_sound sound stepped) initial.sound

/-- The settings allow the update now, and the job record does not forbid it. -/
def proceeds (s : State) (status : Status) (ok : Bool) (now : Moment) : Prop :=
  ok = true ∧ s.settings.autoUpdate = true ∧ inWindow now s.settings = true ∧
    jobForbids (expireStaleApplyingJob s.job now.time) now.time status.latest = false

theorem Stands.of_maybeAutoApply (stands : Stands (maybeAutoApply v build s t kind) u .applying) :
    Stands s u .applying := by
  simp only [AutoApply.maybeAutoApply] at stands
  split at stands
  · exact stands.of_finish.resolve_right nofun
  · split at stands
    · exact (stands.of_finish.resolve_right nofun).of_cancelWindowTimer
    · split at stands
      · exact stands.of_finish.resolve_right nofun
      · exact stands.of_goOn.resolve_right nofun

theorem Stands.of_afterRefresh (stands : Stands (afterRefresh v build s t kind) u .applying) :
    Stands s u .applying := by
  cases kind with
  | refresh =>
      have done : Stands (s.finish t .refresh) u .applying := stands
      exact done.of_finish.resolve_right nofun
  | poll | timer | recheck => exact stands.of_maybeAutoApply

theorem Stands.of_answered (stands : Stands (answered v build s t kind answer now) u .applying) :
    Stands s u .applying := by
  simp only [AutoApply.answered] at stands
  split at stands
  · exact stands.of_goOn.resolve_right nofun
  · exact stands.of_afterRefresh

theorem Stands.of_wake (stands : Stands (wake v build s t kind now) u .applying) :
    Stands s u .applying := by
  have fetching (stands : Stands (s.goOn t kind .fetching) u .applying) : Stands s u .applying :=
    stands.of_goOn.resolve_right nofun
  cases kind with
  | recheck =>
      simp only [AutoApply.wake] at stands
      split at stands
      · exact fetching stands
      · exact stands.of_maybeAutoApply
  | refresh | poll | timer => exact fetching stands

theorem get?_goOn_other (other : u ≠ t) :
    (s.goOn t kind await).tasks.get? u = s.tasks.get? u := by
  simp [State.goOn, other]

/-- A settings read lets no task but its own come to an update, and only if it may. -/
theorem Stands.of_settingsRead
    (stands : Stands (settingsRead s t kind status ok now) u .applying) :
    Stands s u .applying ∨ (u = t ∧ proceeds s status ok now ∧
      settingsRead s t kind status ok now = { (cancelWindowTimer s t).goOn t kind .applying with
        job := expireStaleApplyingJob s.job now.time }) := by
  simp only [AutoApply.settingsRead] at stands ⊢
  split at stands
  · exact .inl (stands.of_finish.resolve_right nofun)
  · rename_i read
    split at stands
    · exact .inl (stands.of_finish.resolve_right nofun).of_cancelWindowTimer
    · rename_i on
      split at stands
      · split at stands
        · have kept := stands.of_finish.resolve_right nofun
          exact .inl (kept.of_scheduleWindowApply.resolve_right nofun)
        · exact .inl (stands.of_finish.resolve_right nofun).of_cancelWindowTimer
      · rename_i opened
        split at stands
        · have kept := stands.of_finish.resolve_right nofun
          exact .inl (of_cancelWindowTimer (s := s) (t := t) kept)
        · rename_i free
          by_cases same : u = t
          · refine .inr ⟨same, ⟨by simpa using read, by simpa using on, by simpa using opened,
              by simpa using free⟩, ?_⟩
            rw [if_neg read, if_neg on, if_neg opened, if_neg free]
            rfl
          · obtain ⟨kind', cancelled, found⟩ := stands
            rw [get?_goOn_other same] at found
            exact .inl (of_cancelWindowTimer (s := s) (t := t) ⟨kind', cancelled, found⟩)

/-- `start_apply` is called for the task `t`. -/
def Starts (s u : State) (t : Nat) : Prop := ¬ Stands s t .applying ∧ Stands u t .applying

theorem starts_inversion (stepped : step v build s e = some u) (starts : Starts s u t) :
    ∃ ok now status, e = .settingsRead t ok now ∧ Stands s t (.readingSettings status) ∧
      proceeds s status ok now ∧ SameCache s u ∧ u.settings = s.settings := by
  obtain ⟨before, after⟩ := starts
  have sameTasks (tasks : u.tasks = s.tasks) : False :=
    before (by rwa [Stands, tasks] at after)
  cases e with
  | refresh =>
      cases stepped
      exact absurd (after.of_spawn.resolve_right nofun) before
  | recheck =>
      cases stepped
      exact absurd (after.of_spawn.resolve_right nofun) before
  | store settings =>
      cases stepped
      exact (sameTasks rfl).elim
  | jobChanged job =>
      cases stepped
      exact (sameTasks rfl).elim
  | installChanged supported =>
      cases stepped
      exact (sameTasks rfl).elim
  | wake t' now =>
      simp only [step] at stepped
      split at stepped <;> cases stepped
      exact absurd after.of_wake before
  | answered t' answer now =>
      simp only [step] at stepped
      split at stepped <;> cases stepped
      exact absurd after.of_answered before
  | notified t' =>
      simp only [step] at stepped
      split at stepped <;> cases stepped
      exact absurd after.of_afterRefresh before
  | applied t' =>
      simp only [step] at stepped
      split at stepped <;> cases stepped
      exact absurd (after.of_finish.resolve_right nofun) before
  | cancelled t' =>
      simp only [step] at stepped
      split at stepped <;> cases stepped
      have done : Stands (s.finish t' .refresh) t .applying := after
      exact absurd (done.of_finish.resolve_right nofun) before
  | settingsRead t' ok now =>
      simp only [step] at stepped
      split at stepped <;> cases stepped
      rename_i kind status _ going
      obtain ⟨found, _⟩ := running_eq going
      obtain ⟨rfl, allowed, result⟩ := after.of_settingsRead.resolve_left before
      rw [result]
      have same := sameCache_cancelWindowTimer (s := s) (t := t)
      exact ⟨ok, now, status, rfl, ⟨_, _, found⟩, allowed, same, settings_cancelWindowTimer⟩

end Meshloom.AutoApply
