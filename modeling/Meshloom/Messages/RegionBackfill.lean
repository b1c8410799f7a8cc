import Meshloom.Dict
import Meshloom.Transition

/-! The single flight of `schedule_region_backfill` (`app/services/messages.py`): its task, the
list that is recorded while the task lives, and the passes that the task makes one after the
other. What a pass writes has no part in it. -/
namespace Meshloom.RegionBackfill
open Transition

/-- Where a task of `_run` stands: not begun, or in a pass, with the list of regions. -/
inductive Task where
  | waiting (regions : List String)
  | passing (regions : List String)
  deriving DecidableEq, Repr

inductive Entry where
  | requested (regions : List String)
  | started (regions : List String)
  deriving DecidableEq, Repr

structure State where
  regionBackfillTask : Option Nat
  regionBackfillPending : Option (List String)
  /-- The tasks that are not done. -/
  tasks : Dict Nat Task
  nextTask : Nat
  /-- The requests and the passes, the last one first. -/
  log : List Entry

/-- The task that a call of `schedule_region_backfill` finds running. -/
def alive (s : State) : Option Task := s.regionBackfillTask.bind s.tasks.get?

def schedule (s : State) (regions : List String) : State :=
  match alive s with
  | some _ =>
    { s with regionBackfillPending := some regions, log := .requested regions :: s.log }
  | none =>
    { regionBackfillTask := some s.nextTask
      regionBackfillPending := none
      tasks := s.tasks.set s.nextTask (.waiting regions)
      nextTask := s.nextTask + 1
      log := .requested regions :: s.log }

/-- The loop of `_run`: another pass, or the end of the task. -/
def next (s : State) (t : Nat) (regions : Option (List String)) : State :=
  match regions with
  | some regions =>
    { s with tasks := s.tasks.set t (.passing regions), log := .started regions :: s.log }
  | none => { s with tasks := s.tasks.pop t }

inductive Event where
  | schedule (regions : List String)
  /-- A new task begins. -/
  | begin (t : Nat)
  | finished (t : Nat)
  /-- The pass raises, and the task with it. -/
  | raised (t : Nat)
  deriving DecidableEq, Repr

def step (s : State) : Event → Option State
  | .schedule regions => some (schedule s regions)
  | .begin t =>
    match s.tasks.get? t with
    | some (.waiting regions) => some (next s t (some regions))
    | _ => none
  | .finished t =>
    match s.tasks.get? t with
    | some (.passing _) =>
      some (next { s with regionBackfillPending := none } t s.regionBackfillPending)
    | _ => none
  | .raised t =>
    match s.tasks.get? t with
    | some (.passing _) => some (next s t none)
    | _ => none

structure Initial (s : State) : Prop where
  regionBackfillTask : s.regionBackfillTask = none
  regionBackfillPending : s.regionBackfillPending = none
  tasks : s.tasks = .empty
  log : s.log = []

def Entry.request? : Entry → Option (List String)
  | .requested regions => some regions
  | .started _ => none

/-- The list that was requested last. -/
def lastRequest (log : List Entry) : Option (List String) := log.findSome? Entry.request?

/-- What came after the last request. -/
def sinceRequest (log : List Entry) : List Entry := log.takeWhile (·.request? = none)

@[simp] theorem lastRequest_requested :
    lastRequest (.requested regions :: log) = some regions := rfl

@[simp] theorem lastRequest_started :
    lastRequest (.started regions :: log) = lastRequest log := rfl

@[simp] theorem sinceRequest_requested : sinceRequest (.requested regions :: log) = [] := by
  simp [sinceRequest, Entry.request?]

@[simp] theorem sinceRequest_started :
    sinceRequest (.started regions :: log) = .started regions :: sinceRequest log := by
  simp [sinceRequest, Entry.request?]

/-- The list that was requested last is that of a pass started since. -/
def Served (log : List Entry) : Prop :=
  ∀ regions, lastRequest log = some regions → .started regions ∈ sinceRequest log

theorem Served.of_started (requested : lastRequest log = some regions) :
    Served (.started regions :: log) := by
  intro other last
  rw [lastRequest_started, requested] at last
  cases last
  simp

/-- At most one task is not done. -/
def SingleFlight (s : State) : Prop :=
  ∀ t u p q, s.tasks.get? t = some p → s.tasks.get? u = some q → t = u

def Idle (s : State) : Prop := ∀ t, s.tasks.get? t = none

/-- What holds in every run: the task is known, and the pending list is the last request, which
at most the pass that runs was started after. -/
structure Sound (s : State) : Prop where
  known : s.tasks.get? t = some task → s.regionBackfillTask = some t
  waiting : s.tasks.get? t = some (.waiting regions) → sinceRequest s.log = [] ∧
    lastRequest s.log = some (s.regionBackfillPending.getD regions)
  pending : s.regionBackfillPending = some regions → lastRequest s.log = some regions ∧
    (sinceRequest s.log = [] ∨ ∃ first, sinceRequest s.log = [.started first])
  served : s.tasks.get? t = some (.passing regions) → s.regionBackfillPending = none →
    Served s.log

theorem Sound.singleFlight (sound : Sound s) : SingleFlight s := by
  intro t u p q first second
  have same := (sound.known first).symm.trans (sound.known second)
  exact Option.some.inj same

theorem Sound.alive_none (sound : Sound s) (dead : alive s = none) : Idle s := by
  intro t
  cases found : s.tasks.get? t with
  | none => rfl
  | some task =>
      rw [alive, sound.known found, Option.bind_some, found] at dead
      contradiction

theorem schedule_sound (sound : Sound s) : Sound (schedule s regions) := by
  cases lives : alive s with
  | none =>
      have idle := sound.alive_none lives
      have only {t task} (found : (s.tasks.set s.nextTask (.waiting regions)).get? t = some task) :
          t = s.nextTask ∧ task = .waiting regions := by
        simp only [Dict.get?_set] at found
        split at found
        · rename_i same
          exact ⟨same, (Option.some.inj found).symm⟩
        · rw [idle t] at found
          contradiction
      rw [schedule, lives]
      refine ⟨fun found => ?_, fun found => ?_, (by intros; contradiction), fun found => ?_⟩
      · rw [(only found).1]
      · cases (only found).2
        simp
      · cases (only found).2
  | some task =>
      rw [schedule, lives]
      refine ⟨sound.known, fun found => by simp, fun pending => ?_, fun _ none => by cases none⟩
      cases pending
      simp

/-- The task ends, so that none is left. -/
theorem next_none_idle (sound : Sound s) (found : s.tasks.get? t = some task) :
    Idle (next s t none) := by
  intro u
  simp only [next, Dict.get?_pop]
  split
  · rfl
  · rename_i other
    cases standing : s.tasks.get? u with
    | none => rfl
    | some task => exact absurd (sound.singleFlight u t _ _ standing found) other

theorem next_none_sound (sound : Sound s) (found : s.tasks.get? t = some task) :
    Sound (next s t none) := by
  have idle := next_none_idle sound found
  refine ⟨fun standing => ?_, fun standing => ?_, sound.pending, fun standing => ?_⟩
  all_goals
    rw [idle] at standing
    contradiction

/-- The task goes on to a pass, and the only one in that state is its own. -/
theorem get?_next_some (sound : Sound s) (found : s.tasks.get? t = some task)
    (standing : (next s t (some regions)).tasks.get? u = some other) :
    u = t ∧ other = .passing regions := by
  simp only [next, Dict.get?_set] at standing
  split at standing
  · rename_i same
    exact ⟨same, (Option.some.inj standing).symm⟩
  · rename_i apart
    exact absurd (sound.singleFlight u t _ _ standing found) apart

theorem step_sound (sound : Sound s) (stepped : step s e = some u) : Sound u := by
  cases e with
  | schedule regions =>
      cases stepped
      exact schedule_sound sound
  | begin t =>
      simp only [step] at stepped
      split at stepped <;> cases stepped
      rename_i regions found
      obtain ⟨fresh, requested⟩ := sound.waiting found
      refine ⟨fun standing => ?_, fun standing => ?_, fun pending => ?_, fun _ none => ?_⟩
      · rw [(get?_next_some sound found standing).1]
        exact sound.known found
      · cases (get?_next_some sound found standing).2
      · refine ⟨(sound.pending pending).1, .inr ⟨regions, ?_⟩⟩
        simp [next, fresh]
      · have unchanged : s.regionBackfillPending = Option.none := none
        rw [unchanged] at requested
        exact .of_started requested
  | finished t =>
      simp only [step] at stepped
      split at stepped <;> cases stepped
      rename_i regions found
      cases recorded : s.regionBackfillPending with
      | none =>
          have same : { s with regionBackfillPending := none } = s := by rw [← recorded]
          rw [same]
          exact next_none_sound sound found
      | some regions =>
          have requested := (sound.pending recorded).1
          have others {u other} (standing : (next { s with regionBackfillPending := none } t
              (some regions)).tasks.get? u = some other) : u = t ∧ other = .passing regions :=
            get?_next_some sound found standing
          refine ⟨fun standing => ?_, fun standing => ?_, (by intros; contradiction), fun _ _ => .of_started requested⟩
          · rw [(others standing).1]
            exact sound.known found
          · cases (others standing).2
  | raised t =>
      simp only [step] at stepped
      split at stepped <;> cases stepped
      rename_i regions found
      exact next_none_sound sound found

theorem Initial.idle (initial : Initial s) : Idle s := by
  intro t
  rw [initial.tasks, Dict.get?_empty]

theorem Initial.sound (initial : Initial s) : Sound s where
  known found := by
    rw [initial.idle] at found
    contradiction
  waiting found := by
    rw [initial.idle] at found
    contradiction
  pending recorded := by
    rw [initial.regionBackfillPending] at recorded
    contradiction
  served found := by
    rw [initial.idle] at found
    contradiction

theorem reaches_sound (initial : Initial s) (run : Reaches step allowed s u) : Sound u :=
  run.invariant (fun sound _ stepped => step_sound sound stepped) initial.sound

/-- No pass raises while a list is recorded, unless the pass was started after the request and
for that very list. -/
def Careful (s : State) : Event → Prop
  | .raised _ => ∀ regions, s.regionBackfillPending = some regions →
      s.log.head? = some (.started regions)
  | _ => True

theorem mem_sinceRequest_iff (pending : sinceRequest log = [] ∨
      ∃ first, sinceRequest log = [.started first]) :
    .started regions ∈ sinceRequest log ↔ log.head? = some (.started regions) := by
  cases log with
  | nil => simp [sinceRequest]
  | cons entry rest =>
      cases entry with
      | requested other => simp
      | started other =>
          obtain none | ⟨first, only⟩ := pending
          · simp at none
          · rw [sinceRequest_started] at only ⊢
            obtain ⟨rfl, empty⟩ : other = first ∧ sinceRequest rest = [] := by simpa using only
            simp [empty, eq_comm]

/-- What a pass that raises leaves behind. -/
theorem raised_served_iff (sound : Sound s) (stepped : step s (.raised t) = some u) :
    Served u.log ↔ Careful s (.raised t) := by
  simp only [step] at stepped
  split at stepped <;> cases stepped
  rename_i regions found
  have same : (next s t none).log = s.log := rfl
  rw [same]
  cases recorded : s.regionBackfillPending with
  | none => exact ⟨fun _ regions some => (by rw [recorded] at some; contradiction),
      fun _ => sound.served found recorded⟩
  | some regions =>
      obtain ⟨requested, few⟩ := sound.pending recorded
      constructor
      · rintro served other some
        rw [recorded] at some
        cases some
        exact (mem_sinceRequest_iff few).mp (served _ requested)
      · intro careful other last
        rw [requested] at last
        cases last
        exact (mem_sinceRequest_iff few).mpr (careful _ recorded)

/-- Whenever no task is left, the last request has been served. -/
def Settled (s : State) : Prop := Sound s ∧ (Idle s → Served s.log)

theorem step_settled (settled : Settled s) (careful : Careful s e) (stepped : step s e = some u) :
    Settled u := by
  obtain ⟨sound, _⟩ := settled
  refine ⟨step_sound sound stepped, fun idle => ?_⟩
  cases e with
  | schedule regions =>
      cases stepped
      cases lives : alive s with
      | none =>
          have spawned := idle s.nextTask
          simp [schedule, lives] at spawned
      | some task =>
          obtain ⟨t, _, found⟩ := Option.bind_eq_some_iff.mp lives
          have standing := idle t
          simp only [schedule, lives] at standing
          rw [found] at standing
          contradiction
  | begin t =>
      simp only [step] at stepped
      split at stepped <;> cases stepped
      have standing := idle t
      simp [next] at standing
  | finished t =>
      simp only [step] at stepped
      split at stepped <;> cases stepped
      rename_i regions found
      cases recorded : s.regionBackfillPending with
      | none => exact sound.served found recorded
      | some regions =>
          have standing := idle t
          simp [next, recorded] at standing
  | raised t => exact (raised_served_iff sound stepped).mpr careful

/-- There are never two passes at a time. In a run in which passes raise carefully, the last
request has been served whenever no task is left; a pass that raises otherwise leaves no task,
and the last request unserved. -/
theorem single_flight (initial : Initial s) :
    (∀ u, Reaches step Any s u → SingleFlight u) ∧
    (∀ u, Reaches step Careful s u → Idle u → Served u.log) ∧
    (∀ t u w, Reaches step Any s u → step u (.raised t) = some w → ¬ Careful u (.raised t) →
      Idle w ∧ ¬ Served w.log) := by
  refine ⟨fun u run => (reaches_sound initial run).singleFlight, fun u run => ?_, ?_⟩
  · have settled : Settled s := ⟨initial.sound, fun _ => by simp [Served, initial.log, lastRequest]⟩
    exact (run.invariant step_settled settled).2
  · intro t u w run stepped careless
    have sound := reaches_sound initial run
    refine ⟨?_, fun served => careless ((raised_served_iff sound stepped).mp served)⟩
    simp only [step] at stepped
    split at stepped <;> cases stepped
    rename_i regions found
    exact next_none_idle sound found

def unstarted : State := ⟨none, none, .empty, 0, []⟩

theorem unstarted_initial : Initial unstarted := ⟨rfl, rfl, rfl, rfl⟩

/-- A pass finishes, with a request for another list while it ran. -/
def twoLists : List Event :=
  [.schedule ["fr"], .begin 0, .schedule ["fr", "be"], .finished 0, .finished 0]

theorem twoLists_served : ∃ u, Reaches step Careful unstarted u ∧
    lastRequest u.log = some ["fr", "be"] ∧ Idle u ∧ Served u.log := by
  have view : (execute step unstarted twoLists).map (fun u => (u.tasks, lastRequest u.log)) =
      some (.empty, some ["fr", "be"]) := by decide +kernel
  obtain ⟨u, ran, seen⟩ := Option.map_eq_some_iff.mp view
  obtain ⟨tasks, last⟩ := Prod.mk.inj seen
  have run : Reaches step Careful unstarted u := by
    refine execute_reaches_where (fun t e member => ?_) ran
    simp only [twoLists, List.mem_cons, List.not_mem_nil, or_false] at member
    obtain rfl | rfl | rfl | rfl | rfl := member <;> trivial
  have idle : Idle u := fun t => by rw [tasks, Dict.get?_empty]
  exact ⟨u, run, last, idle, (single_flight unstarted_initial).2.1 u run idle⟩

/-- The pass raises, and the list that was requested while it ran is dropped. -/
theorem request_dropped : Initial unstarted ∧ ∃ u, Reaches step Any unstarted u ∧ Idle u ∧
    ¬ Served u.log := by
  refine ⟨unstarted_initial, ?_⟩
  have view : (execute step unstarted
      [.schedule ["fr"], .begin 0, .schedule ["fr", "be"], .raised 0]).map
        (fun u => (u.tasks, u.log)) =
      some (.empty, [.requested ["fr", "be"], .started ["fr"], .requested ["fr"]]) := by
    decide +kernel
  obtain ⟨u, ran, seen⟩ := Option.map_eq_some_iff.mp view
  obtain ⟨tasks, log⟩ := Prod.mk.inj seen
  refine ⟨u, execute_reaches ran, fun t => by rw [tasks, Dict.get?_empty], fun served => ?_⟩
  rw [log] at served
  simpa using served ["fr", "be"] rfl

end Meshloom.RegionBackfill
