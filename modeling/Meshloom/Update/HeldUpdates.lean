import Meshloom.Update.AutoApplyProofs

/-! Held and stale updates. An automatic update starts on the status that was read before the
settings were, and an answer that comes in between is not looked at again: exactly then can an
update start that Community holds, or after a check that failed. -/
namespace Meshloom.AutoApply
open OssUpdates Transition
variable {V : Type} (v : Versions V) (build : Build)

/-- The last release that Community answered. -/
def lastRelease (s : State) : Option Payload := s.answers.findSome? (fun answer => answer)

/-- An update may start: the last refresh got a release unless the operator pinned one, the
last release holds no update to the one that is known as the latest, and automatic updates are
on in the stored settings. -/
structure Safe (s : State) : Prop where
  current : build.envLatest ≠ none ∨ ∃ payload, s.answers.head? = some (some payload)
  unheld : ∀ latest, build.envLatest.or (payloadVersion v (lastRelease s)) = some latest →
    resolveHold v (lastRelease s) build.current latest = false
  on : s.settings.autoUpdate = true

/-- No answer that came while a task read the settings has changed whether the update is held
or the last check failed, unless the task does not go on to the update anyway. -/
def Steady (s : State) : Event → Prop
  | .settingsRead t ok now => ∀ status, Stands s t (.readingSettings status) →
      proceeds s status ok now →
        held v build s.cache = status.autoUpdateHeld ∧
        checkStale build s.cache = status.checkStale
  | _ => True

def OneTimer (s : State) : Prop := ∀ t u, Pending s t → Pending s u → t = u

variable {v build}

theorem Known.oneTimer (known : Known s) : OneTimer s := by
  intro t u first second
  have same := (known t first).symm.trans (known u second)
  exact Option.some.inj same

theorem unheld_iff (fresh : Fresh build s) : held v build s.cache = false ↔
    ∀ latest, build.envLatest.or (payloadVersion v (lastRelease s)) = some latest →
      resolveHold v (lastRelease s) build.current latest = false := by
  have payload : s.cache.latestPayload = lastRelease s := fresh.payload
  rw [held, latest, payload]
  split
  · rename_i unknown
    simp [unknown]
  · rename_i latest known
    simp [known]

theorem current_iff (fresh : Fresh build s) (answered : build.envLatest ≠ none ∨ s.answers ≠ []) :
    checkStale build s.cache = false ↔
      build.envLatest ≠ none ∨ ∃ payload, s.answers.head? = some (some payload) := by
  have failed := fresh.failed
  cases pin : build.envLatest with
  | some latest => simp [checkStale, pin]
  | none =>
      have some_answer := answered.resolve_left (fun pinned => pinned pin)
      cases answers : s.answers with
      | nil => exact absurd answers some_answer
      | cons answer rest =>
          rw [answers, List.head?_cons, Option.some.injEq] at failed
          cases answer with
          | none => simp [checkStale, pin, failed]
          | some payload =>
              have succeeded : s.cache.lastCheckFailed = false := by simpa using failed
              simp [checkStale, pin, succeeded]

theorem safe_iff_steady (sound : Sound build s) (stepped : step v build s e = some u)
    (starts : Starts s u t) : Safe v build u ↔ Steady v build s e := by
  obtain ⟨ok, now, status, rfl, reading, allowed, ⟨cache, answers⟩, settings⟩ :=
    starts_inversion stepped starts
  obtain ⟨unheld, unstale, answered⟩ := sound.fresh.clear reading
  have holds := unheld_iff (v := v) sound.fresh
  have checks := current_iff sound.fresh answered
  have release : lastRelease u = lastRelease s := by rw [lastRelease, answers, lastRelease]
  constructor
  · rintro ⟨current, clear, _⟩ other standing _
    obtain ⟨otherUnheld, otherUnstale, _⟩ := sound.fresh.clear standing
    rw [release] at clear
    rw [answers] at current
    exact ⟨(holds.mpr clear).trans otherUnheld.symm, (checks.mpr current).trans otherUnstale.symm⟩
  · intro steady
    obtain ⟨sameHold, sameCheck⟩ := steady status reading allowed
    refine ⟨?_, ?_, settings ▸ allowed.2.1⟩
    · rw [answers]
      exact checks.mp (sameCheck.trans unstale)
    · rw [release]
      exact holds.mp (sameHold.trans unheld)

/-- No two window timers are ever pending together. In a run whose steps are all steady an
automatic update only starts when it may, and a step that is not steady and starts one does so
when it may not. -/
theorem held_never_applied (initial : Initial s) :
    (∀ u, Reaches (step v build) Any s u → OneTimer u) ∧
    (∀ e u w t, Reaches (step v build) (Steady v build) s u → Steady v build u e →
      step v build u e = some w → Starts u w t → Safe v build w) ∧
    (∀ e u w t, Reaches (step v build) Any s u → ¬ Steady v build u e →
      step v build u e = some w → Starts u w t → ¬ Safe v build w) := by
  refine ⟨fun u run => (reaches_sound initial run).known.oneTimer, ?_, ?_⟩
  · intro e u w t run steady stepped starts
    exact (safe_iff_steady (reaches_sound initial run) stepped starts).mpr steady
  · intro e u w t run unsteady stepped starts safe
    exact unsteady ((safe_iff_steady (reaches_sound initial run) stepped starts).mp safe)

/-- Versions `X.Y.Z` and `X.Y.Z-rc.N`, which is all that is read below. -/
def plainVersions : Versions ReleaseVersion where
  version := releaseVersion
  lt a b :=
    let key (a : ReleaseVersion) := [a.major, a.minor, a.patch, if a.rc = none then 1 else 0,
      a.rc.getD 0]
    decide (key a < key b)
  release a := { a with rc := none }
  major := ReleaseVersion.major
  isDigit := Char.isDigit

def release410 : Build := ⟨['4', '.', '1', '.', '0'], none⟩

/-- 4.2.0, as Community answers it first. -/
def offered : Payload := ⟨some ['4', '.', '2', '.', '0'], none⟩

/-- 4.2.0, with a hold for everything below it. -/
def withdrawn : Payload := ⟨some ['4', '.', '2', '.', '0'], some ⟨some ['4', '.', '2', '.', '0']⟩⟩

/-- Automatic updates are on, at any time of any day. -/
def always : Settings := ⟨true, 0, 0, [0, 1, 2, 3, 4, 5, 6]⟩

def monday (time : Int) : Moment := ⟨0, 600, false, time⟩

/-- The server starts with the poll loop. -/
def polling : State :=
  { cache := ⟨none, none, false⟩
    windowTimerTask := none
    tasks := Dict.empty.set 0 ⟨.poll, .waiting, false⟩
    nextTask := 1
    settings := always
    job := ⟨.idle, none, none, none⟩
    applySupported := true
    answers := [] }

theorem polling_initial : Initial polling where
  cache := rfl
  answers := rfl
  windowTimerTask := rfl
  polling t task found := by
    simp only [polling, Dict.get?_set, Dict.get?_empty] at found
    split at found <;> cases found
    rfl
  below t task found := by
    simp only [polling, Dict.get?_set, Dict.get?_empty] at found
    split at found <;> cases found
    rename_i first
    rw [first]
    decide

/-- What the next step of task 0 depends on. -/
structure View where
  task : Option Task
  cache : Cache
  settings : Settings
  job : Job
  answers : List (Option Payload)
  deriving DecidableEq

def view (s : State) : View := ⟨s.tasks.get? 0, s.cache, s.settings, s.job, s.answers⟩

def clearStatus : Status := ⟨some ['4', '.', '2', '.', '0'], true, some 1000, false, false⟩

/-- The loop is answered and asks for the settings. -/
def asked : List Event :=
  [.wake 0 1000, .answered 0 (some offered) 1000, .notified 0]

/-- While it waits, the operator refreshes, and Community has put a hold on the release. -/
def heldMeanwhile : List Event :=
  asked ++ [.refresh, .answered 1 (some withdrawn) 1001]

theorem asked_view : (execute (step plainVersions release410) polling asked).map view =
    some ⟨some ⟨.poll, .readingSettings clearStatus, false⟩, ⟨some offered, some 1000, false⟩,
      always, ⟨.idle, none, none, none⟩, [some offered]⟩ := by
  decide +kernel

theorem heldMeanwhile_view :
    (execute (step plainVersions release410) polling heldMeanwhile).map view =
      some ⟨some ⟨.poll, .readingSettings clearStatus, false⟩, ⟨some withdrawn, some 1001, false⟩,
        always, ⟨.idle, none, none, none⟩, [some withdrawn, some offered]⟩ := by
  decide +kernel

/-- In the window of `always` the loop goes on to the update. -/
theorem starts_polling
    (found : s.tasks.get? 0 = some ⟨.poll, .readingSettings clearStatus, false⟩)
    (settings : s.settings = always) (job : s.job = ⟨.idle, none, none, none⟩) :
    ∃ w, step plainVersions release410 s (.settingsRead 0 true (monday 1002)) = some w ∧
      Starts s w 0 := by
  have going : running s 0 = some ⟨.poll, .readingSettings clearStatus, false⟩ := by
    simp [running, found]
  refine ⟨settingsRead s 0 .poll clearStatus true (monday 1002), by simp only [step, going], ?_, ?_⟩
  · rintro ⟨kind, cancelled, other⟩
    rw [found] at other
    cases other
  · have opened : inWindow (monday 1002) always = true := by decide
    have on : always.autoUpdate = true := rfl
    simp [settingsRead, settings, job, opened, on, expireStaleApplyingJob, jobForbids, Stands,
      State.goOn]

/-- The release is put on hold while the loop waits for the settings, and is applied. -/
theorem held_applied : Initial polling ∧ ∃ u e w t,
    Reaches (step plainVersions release410) Any polling u ∧
    step plainVersions release410 u e = some w ∧ Starts u w t ∧
    ¬ Safe plainVersions release410 w := by
  refine ⟨polling_initial, ?_⟩
  obtain ⟨u, ran, seen⟩ := Option.map_eq_some_iff.mp heldMeanwhile_view
  simp only [view, View.mk.injEq] at seen
  obtain ⟨found, cache, settings, job, answers⟩ := seen
  obtain ⟨w, stepped, starts⟩ := starts_polling found settings job
  refine ⟨u, _, w, 0, execute_reaches ran, stepped, starts, fun safe => ?_⟩
  obtain ⟨_, _, _, _, _, _, ⟨_, sameAnswers⟩, _⟩ := starts_inversion stepped starts
  have release : lastRelease w = some withdrawn := by rw [lastRelease, sameAnswers, answers]; rfl
  have unheld := safe.unheld ['4', '.', '2', '.', '0']
  rw [release] at unheld
  have holds : resolveHold plainVersions (some withdrawn) release410.current
      ['4', '.', '2', '.', '0'] = true := by decide +kernel
  have known : release410.envLatest.or (payloadVersion plainVersions (some withdrawn)) =
      some ['4', '.', '2', '.', '0'] := by decide +kernel
  rw [unheld known] at holds
  contradiction

/-- Left alone, the loop applies the release that it was offered. -/
theorem offered_applied : ∃ u w, Reaches (step plainVersions release410)
      (Steady plainVersions release410) polling u ∧ OneTimer u ∧ Starts u w 0 ∧
      Safe plainVersions release410 w := by
  obtain ⟨u, ran, seen⟩ := Option.map_eq_some_iff.mp asked_view
  simp only [view, View.mk.injEq] at seen
  obtain ⟨found, cache, settings, job, answers⟩ := seen
  obtain ⟨w, stepped, starts⟩ := starts_polling found settings job
  have run : Reaches (step plainVersions release410) (Steady plainVersions release410)
      polling u := by
    refine execute_reaches_where (fun t e member => ?_) ran
    simp only [asked, List.mem_cons, List.not_mem_nil, or_false] at member
    obtain rfl | rfl | rfl := member <;> trivial
  have steady : Steady plainVersions release410 u (.settingsRead 0 true (monday 1002)) := by
    rintro status ⟨kind, cancelled, standing⟩ _
    rw [found] at standing
    cases standing
    rw [cache]
    decide +kernel
  obtain ⟨oneTimer, applies, _⟩ :=
    @held_never_applied _ plainVersions release410 _ polling_initial
  exact ⟨u, w, run, oneTimer u run.any, starts, applies _ u w 0 run steady stepped starts⟩

end Meshloom.AutoApply
