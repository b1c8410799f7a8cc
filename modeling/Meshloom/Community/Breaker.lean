import Mathlib.Data.List.Basic
import Mathlib.Algebra.Order.Ring.Rat
import Meshloom.Transition

/-! The circuit breaker of the Community requests (`CommunityBreaker` and the part of
`stats_request` around it, `app/services/meshloom_community.py`): requests that overlap, each
with the breaker as it was when the request left. -/
namespace Meshloom.Breaker
open Transition

def breakerFailureThreshold : Nat := 3
def breakerOpenSeconds : ℚ := 30

structure CommunityBreaker where
  threshold : Nat
  openSeconds : ℚ
  failures : Nat
  openUntil : ℚ
  trialInFlight : Bool
  deriving DecidableEq

namespace CommunityBreaker

def new (threshold : Nat) (openSeconds : ℚ) : CommunityBreaker :=
  ⟨threshold, openSeconds, 0, 0, false⟩

def IsOpen (b : CommunityBreaker) : Prop := b.threshold ≤ b.failures

instance (b : CommunityBreaker) : Decidable b.IsOpen :=
  inferInstanceAs (Decidable (b.threshold ≤ b.failures))

/-- Whether a call may go out, and the breaker after it was asked. -/
def allow (b : CommunityBreaker) (now : ℚ) : Bool × CommunityBreaker :=
  if b.failures < b.threshold then (true, b)
  else if now < b.openUntil ∨ b.trialInFlight then (false, b)
  else (true, { b with trialInFlight := true })

def recordSuccess (b : CommunityBreaker) : CommunityBreaker :=
  { b with failures := 0, openUntil := 0, trialInFlight := false }

def recordFailure (b : CommunityBreaker) (now : ℚ) : CommunityBreaker :=
  let failures := b.failures + 1
  { b with
    failures
    trialInFlight := false
    openUntil := if b.threshold ≤ failures then now + b.openSeconds else b.openUntil }

end CommunityBreaker

/-- How a request that left comes back. -/
inductive Ending where
  | response (statusCode : Nat)
  | requestError
  /-- Cancellation or a local bug. -/
  | raised
  deriving DecidableEq

/-- What `stats_request` does with the breaker when its request is over. -/
def CommunityBreaker.finish (b : CommunityBreaker) (now : ℚ) : Ending → CommunityBreaker
  | .requestError => b.recordFailure now
  | .raised => { b with trialInFlight := false }
  | .response statusCode => if 500 ≤ statusCode then b.recordFailure now else b.recordSuccess

/-- A request in flight, with when it left and the breaker that let it. -/
structure Request where
  id : Nat
  leftAt : ℚ
  admittedBy : CommunityBreaker
  deriving DecidableEq

/-- It was admitted while the breaker was not closed. -/
def Request.Trial (r : Request) : Prop := r.admittedBy.IsOpen

instance (r : Request) : Decidable r.Trial := inferInstanceAs (Decidable r.admittedBy.IsOpen)

structure State where
  breaker : CommunityBreaker
  clock : ℚ
  nextRequest : Nat
  inFlight : List Request
  deriving DecidableEq

inductive Event where
  | request (now : ℚ)
  | ended (id : Nat) (ending : Ending) (now : ℚ)

def start (threshold : Nat) (openSeconds clock : ℚ) : State :=
  ⟨.new threshold openSeconds, clock, 0, []⟩

/-- A call that comes to the breaker: its request leaves, or 503 is raised. -/
def State.ask (s : State) (now : ℚ) : State :=
  if (s.breaker.allow now).1 then
    { breaker := (s.breaker.allow now).2
      clock := now
      nextRequest := s.nextRequest + 1
      inFlight := s.inFlight ++ [⟨s.nextRequest, now, s.breaker⟩] }
  else { s with clock := now }

def State.finish (s : State) (id : Nat) (ending : Ending) (now : ℚ) : State :=
  { s with
    breaker := s.breaker.finish now ending
    clock := now
    inFlight := s.inFlight.filter (·.id ≠ id) }

/-- Time does not go back, and what ends is in flight. -/
def step (s : State) : Event → Option State
  | .request now => if s.clock ≤ now then some (s.ask now) else none
  | .ended id ending now =>
    if s.clock ≤ now ∧ s.inFlight.any (·.id = id) then some (s.finish id ending now) else none

def State.trials (s : State) : List Request := s.inFlight.filter (·.Trial)

/-- No request that was admitted while the breaker was closed ends while a trial is in flight. -/
def Orderly (s : State) : Event → Prop
  | .request _ => True
  | .ended id _ _ => s.trials ≠ [] → ∀ r ∈ s.inFlight, r.id = id → r.Trial

/-- No request left before its breaker's time was over, and the flag is not left behind: without a
request in flight a trial is admitted as soon as that time is over. -/
structure Guarded (s : State) : Prop where
  leaves : ∀ r ∈ s.inFlight, ¬ (r.admittedBy.IsOpen ∧ r.leftAt < r.admittedBy.openUntil)
  released : s.inFlight = [] → s.breaker.trialInFlight = false
  admits : ∀ now, s.inFlight = [] → s.breaker.openUntil ≤ now → (s.breaker.allow now).1 = true

section Breaker
variable {b : CommunityBreaker} {now : ℚ}

theorem allow_open (opened : b.IsOpen) (allowed : (b.allow now).1 = true) :
    ¬ now < b.openUntil ∧ b.trialInFlight = false ∧ (b.allow now).2.trialInFlight = true := by
  have not_closed : ¬ b.failures < b.threshold := Nat.not_lt.mpr opened
  rw [CommunityBreaker.allow, if_neg not_closed] at allowed ⊢
  split at allowed
  · cases allowed
  · rename_i granted
    rw [not_or, Bool.not_eq_true] at granted
    exact ⟨granted.1, granted.2, by rw [if_neg (by simp [granted])]⟩

theorem allow_closed (closed : ¬ b.IsOpen) : b.allow now = (true, b) :=
  if_pos (Nat.lt_of_not_le closed)

/-- A breaker whose flag is not set admits a call once its time is over. -/
theorem allow_after (free : b.trialInFlight = false) (past : b.openUntil ≤ now) :
    (b.allow now).1 = true := by
  by_cases opened : b.IsOpen
  · have not_closed : ¬ b.failures < b.threshold := Nat.not_lt.mpr opened
    have granted : ¬ (now < b.openUntil ∨ b.trialInFlight = true) := by
      simp [free, not_lt.mpr past]
    rw [CommunityBreaker.allow, if_neg not_closed, if_neg granted]
  · rw [allow_closed opened]

/-- However a request ends, no trial is in flight for the breaker afterwards. -/
theorem finish_releases (ending : Ending) : (b.finish now ending).trialInFlight = false := by
  cases ending with
  | response statusCode =>
      rw [CommunityBreaker.finish]
      split <;> rfl
  | requestError => rfl
  | raised => rfl

end Breaker

section Runs
variable {s t : State} {e : Event}

/-- What a step does: a call is refused, one is admitted, or one in flight ends. -/
theorem step_cases (stepped : step s e = some t) :
    (∃ now, e = .request now ∧ (s.breaker.allow now).1 = false ∧ t = { s with clock := now }) ∨
    (∃ now, e = .request now ∧ (s.breaker.allow now).1 = true ∧
      t.breaker = (s.breaker.allow now).2 ∧
      t.inFlight = s.inFlight ++ [⟨s.nextRequest, now, s.breaker⟩]) ∨
    (∃ id ending now, e = .ended id ending now ∧ (∃ r ∈ s.inFlight, r.id = id) ∧
      t.breaker.trialInFlight = false ∧ t.inFlight = s.inFlight.filter (·.id ≠ id)) := by
  cases e with
  | request now =>
      obtain ⟨-, same⟩ := Option.ite_none_right_eq_some.mp stepped
      obtain rfl := Option.some.inj same
      cases allowed : (s.breaker.allow now).1 with
      | false => exact .inl ⟨now, rfl, allowed, by simp [State.ask, allowed]⟩
      | true => exact .inr (.inl ⟨now, rfl, allowed, by simp [State.ask, allowed]⟩)
  | ended id ending now =>
      obtain ⟨⟨-, flying⟩, same⟩ := Option.ite_none_right_eq_some.mp stepped
      obtain rfl := Option.some.inj same
      have member : ∃ r ∈ s.inFlight, r.id = id := by simpa using flying
      exact .inr (.inr ⟨id, ending, now, rfl, member, finish_releases ending, rfl⟩)

/-- The flag is set only while a trial is in flight. -/
def Held (s : State) : Prop := s.breaker.trialInFlight = true → s.trials ≠ []

theorem step_held (held : Held s) (stepped : step s e = some t) : Held t := by
  obtain ⟨now, -, -, rfl⟩ | ⟨now, -, allowed, breaker, flights⟩ |
    ⟨id, ending, now, -, -, released, -⟩ := step_cases stepped
  · exact held
  · intro flag
    rw [State.trials, flights, List.filter_append]
    by_cases opened : s.breaker.IsOpen
    · simp [Request.Trial, opened]
    · rw [breaker, allow_closed opened] at flag
      exact List.append_ne_nil_of_left_ne_nil (held flag) _
  · intro flag
    rw [released] at flag
    cases flag

def Left (s : State) : Prop :=
  ∀ r ∈ s.inFlight, ¬ (r.admittedBy.IsOpen ∧ r.leftAt < r.admittedBy.openUntil)

theorem step_left (left : Left s) (stepped : step s e = some t) : Left t := by
  obtain ⟨now, -, -, rfl⟩ | ⟨now, -, allowed, -, flights⟩ | ⟨id, ending, now, -, -, -, flights⟩ :=
    step_cases stepped
  · exact left
  · intro r member
    rw [flights, List.mem_append, List.mem_singleton] at member
    obtain before | rfl := member
    · exact left r before
    · rintro ⟨opened, early⟩
      exact (allow_open opened allowed).1 early
  · intro r member
    rw [flights] at member
    exact left r (List.mem_of_mem_filter member)

theorem guarded_of (held : Held s) (left : Left s) : Guarded s := by
  have released : s.inFlight = [] → s.breaker.trialInFlight = false := by
    intro nothing
    have no_trial : s.trials = [] := by rw [State.trials, nothing, List.filter_nil]
    exact Bool.eq_false_iff.mpr fun flag => held flag no_trial
  exact ⟨left, released, fun now nothing past => allow_after (released nothing) past⟩

/-- The trials in flight are those that the flag stands for. -/
structure OneTrial (s : State) : Prop where
  atMost : s.trials.length ≤ 1
  flagged : s.trials ≠ [] → s.breaker.trialInFlight = true

theorem step_oneTrial (one : OneTrial s) (orderly : Orderly s e) (stepped : step s e = some t) :
    OneTrial t := by
  obtain ⟨now, -, -, rfl⟩ | ⟨now, -, allowed, breaker, flights⟩ |
    ⟨id, ending, now, rfl, ⟨r, flying, same⟩, -, flights⟩ := step_cases stepped
  · exact ⟨one.atMost, one.flagged⟩
  · by_cases opened : s.breaker.IsOpen
    · obtain ⟨-, free, flag⟩ := allow_open opened allowed
      have nothing : s.trials = [] := by
        by_contra some_trial
        rw [one.flagged some_trial] at free
        cases free
      have trials : t.trials = [⟨s.nextRequest, now, s.breaker⟩] := by
        rw [State.trials, flights, List.filter_append, ← State.trials, nothing]
        simp [Request.Trial, opened]
      exact ⟨by rw [trials, List.length_singleton], fun _ => breaker ▸ flag⟩
    · have trials : t.trials = s.trials := by
        rw [State.trials, flights, List.filter_append, ← State.trials]
        simp [Request.Trial, opened]
      rw [allow_closed opened] at breaker
      exact ⟨trials ▸ one.atMost, fun some_trial => breaker ▸ one.flagged (trials ▸ some_trial)⟩
  · -- The request that ends is the trial in flight, if there is one.
    have nothing : t.trials = [] := by
      rw [State.trials, flights, List.filter_filter, List.filter_eq_nil_iff]
      intro other member both
      obtain ⟨trial, different⟩ : other.Trial ∧ other.id ≠ id := by simpa using both
      have other_trial : other ∈ s.trials := by simp [State.trials, member, trial]
      have r_trial : r ∈ s.trials := by
        have is_trial := orderly (List.ne_nil_of_mem other_trial) r flying same
        simp [State.trials, flying, is_trial]
      obtain ⟨only, is_only⟩ :=
        List.length_eq_one_iff.mp (le_antisymm one.atMost (List.length_pos_of_mem r_trial))
      rw [is_only, List.mem_singleton] at other_trial r_trial
      exact different (by rw [other_trial, ← r_trial, same])
    exact ⟨by rw [nothing]; exact Nat.zero_le 1, fun some_trial => absurd nothing some_trial⟩

/-- Whatever overlaps, no request leaves early and the flag is not left behind. While no request
from before the opening ends during a trial, there is one trial at a time. -/
theorem breaker_one_trial (threshold : Nat) (openSeconds clock : ℚ) (s : State) :
    (Reaches step Any (start threshold openSeconds clock) s → Guarded s) ∧
    (Reaches step Orderly (start threshold openSeconds clock) s → s.trials.length ≤ 1) := by
  constructor
  · intro run
    have held : Held s := run.invariant (fun held _ => step_held held) (by rintro ⟨⟩)
    have left : Left s := run.invariant (fun left _ => step_left left) (by rintro r ⟨⟩)
    exact guarded_of held left
  · intro run
    have initial : OneTrial (start threshold openSeconds clock) :=
      ⟨Nat.zero_le 1, fun some_trial => absurd rfl some_trial⟩
    exact (run.invariant (fun one => step_oneTrial one) initial).atMost

instance (s : State) (e : Event) : Decidable (Orderly s e) := by
  cases e <;> unfold Orderly <;> infer_instance

/-- The breaker opens, a trial fails and another is let out. -/
def retried : List Event :=
  [.request 0, .ended 0 .requestError 1, .request 1, .ended 1 .requestError 2, .request 2,
    .ended 2 (.response 503) 3, .request 33, .ended 3 .requestError 34, .request 64]

theorem breaker_one_trial_retried :
    ∃ s, Guarded s ∧ s.trials.length ≤ 1 ∧ s.breaker.trialInFlight = true := by
  have ran : (executeWhere step Orderly (start breakerFailureThreshold breakerOpenSeconds 0)
      retried).any (fun s => s.breaker.trialInFlight) = true := by
    decide +kernel
  obtain ⟨s, reached, flag⟩ := (Option.any_eq_true _ _).mp ran
  have run := executeWhere_reaches reached
  have sound := breaker_one_trial breakerFailureThreshold breakerOpenSeconds 0 s
  exact ⟨s, sound.1 run.any, sound.2 run, flag⟩

/-- A request from before the opening is cancelled during a trial. -/
def cancelledDuringTrial : List Event :=
  [.request 0, .request 0, .request 0, .request 0, .ended 1 .requestError 1,
    .ended 2 .requestError 1, .ended 3 (.response 502) 1, .request 31, .ended 0 .raised 32,
    .request 33]

theorem two_trials : ∃ s, Reaches step Any (start breakerFailureThreshold breakerOpenSeconds 0) s ∧
    s.trials.length = 2 := by
  have ran : (execute step (start breakerFailureThreshold breakerOpenSeconds 0)
      cancelledDuringTrial).any (fun s => decide (s.trials.length = 2)) = true := by
    decide +kernel
  obtain ⟨s, reached, two⟩ := (Option.any_eq_true _ _).mp ran
  exact ⟨s, execute_reaches reached, of_decide_eq_true two⟩

end Runs

end Meshloom.Breaker
