import Mathlib.Data.List.Basic

/-! The lock of an event loop. A release clears the flag and wakes the first waiter; that one
takes the lock when it is scheduled next, and until then the lock is free but promised. -/
namespace Meshloom

/-- What a waiter waits for. -/
inductive Future where
  | pending
  /-- Woken, and to be scheduled. -/
  | done
  | cancelled
  deriving DecidableEq, Repr

structure AsyncLock (T : Type) where
  locked : Bool
  /-- In the order in which they came. -/
  waiters : List (T × Future)
  deriving DecidableEq, Repr

namespace AsyncLock
variable {T : Type}

def free : AsyncLock T := ⟨false, []⟩

/-- Whether a task that acquires the lock gets it without waiting. -/
def Open (lock : AsyncLock T) : Prop :=
  lock.locked = false ∧ ∀ waiter ∈ lock.waiters, waiter.2 = .cancelled

instance (lock : AsyncLock T) : Decidable lock.Open := inferInstanceAs (Decidable (_ ∧ _))

/-- The first part of `acquire`: takes the lock, or queues. -/
def acquire (lock : AsyncLock T) (t : T) : AsyncLock T :=
  if lock.Open then { lock with locked := true }
  else { lock with waiters := lock.waiters ++ [(t, .pending)] }

def wakeUpFirst (lock : AsyncLock T) : AsyncLock T :=
  match lock.waiters with
  | (t, .pending) :: rest => { lock with waiters := (t, .done) :: rest }
  | _ => lock

/-- `none` is its `RuntimeError`. -/
def release (lock : AsyncLock T) : Option (AsyncLock T) :=
  if lock.locked then some { lock with locked := false }.wakeUpFirst else none

section Tasks
variable [DecidableEq T]

/-- A task that waits is cancelled: so is its future, unless it is done. -/
def cancel (lock : AsyncLock T) (t : T) : AsyncLock T :=
  { lock with
    waiters := lock.waiters.map fun waiter =>
      if waiter = (t, .pending) then (t, .cancelled) else waiter }

def leave (lock : AsyncLock T) (t : T) : AsyncLock T :=
  { lock with waiters := lock.waiters.filter fun waiter => waiter.1 ≠ t }

/-- A waiter that is scheduled takes the lock. -/
def take (lock : AsyncLock T) (t : T) : AsyncLock T := { lock.leave t with locked := true }

/-- A waiter that is scheduled raises instead, and sees to it that another one runs. -/
def giveUp (lock : AsyncLock T) (t : T) : AsyncLock T :=
  if lock.locked then lock.leave t else (lock.leave t).wakeUpFirst

end Tasks

/-- Only the first waiter is ever woken, and only while the lock is free. -/
structure Sane (lock : AsyncLock T) : Prop where
  free : ∀ waiter ∈ lock.waiters, waiter.2 = .done → lock.locked = false
  first : ∀ waiter ∈ lock.waiters.tail, waiter.2 ≠ .done

variable {lock : AsyncLock T}

theorem Sane.acquire (sane : lock.Sane) (t : T) : (lock.acquire t).Sane := by
  unfold AsyncLock.acquire
  split
  · rename_i open_
    refine ⟨fun waiter member done => ?_, sane.first⟩
    rw [open_.2 waiter member] at done
    cases done
  · refine ⟨fun waiter member done => ?_, fun waiter member => ?_⟩
    · obtain old | new := List.mem_append.mp member
      · exact sane.free waiter old done
      · cases List.mem_singleton.mp new
        cases done
    · cases waiters : lock.waiters with
      | nil => simp [waiters] at member
      | cons head rest =>
          simp only [waiters, List.cons_append, List.tail_cons] at member
          obtain old | new := List.mem_append.mp member
          · exact sane.first waiter (by rwa [waiters, List.tail_cons])
          · cases List.mem_singleton.mp new
            nofun

theorem Sane.wakeUpFirst (sane : lock.Sane) (unlocked : lock.locked = false) :
    lock.wakeUpFirst.Sane := by
  unfold AsyncLock.wakeUpFirst
  split
  · rename_i t rest waiters
    refine ⟨fun _ _ _ => unlocked, fun waiter member => sane.first waiter ?_⟩
    rwa [waiters]
  · exact sane

theorem wakeUpFirst_locked : lock.wakeUpFirst.locked = lock.locked := by
  unfold AsyncLock.wakeUpFirst
  split <;> rfl

theorem Sane.release {after : AsyncLock T} (sane : lock.Sane)
    (released : lock.release = some after) : after.Sane ∧ after.locked = false := by
  obtain ⟨_, released⟩ := Option.ite_none_right_eq_some.mp released
  cases released
  have unlocked : ({ lock with locked := false } : AsyncLock T).Sane :=
    ⟨fun _ _ _ => rfl, sane.first⟩
  exact ⟨unlocked.wakeUpFirst rfl, wakeUpFirst_locked⟩

section Tasks
variable [DecidableEq T]

theorem Sane.cancel (sane : lock.Sane) (t : T) : (lock.cancel t).Sane := by
  have kept : ∀ waiter : T × Future,
      (if waiter = (t, .pending) then (t, .cancelled) else waiter).2 = .done → waiter.2 = .done := by
    intro waiter done
    split at done
    · cases done
    · exact done
  refine ⟨fun waiter member done => ?_, fun waiter member done => ?_⟩
  · obtain ⟨old, inside, rfl⟩ := List.mem_map.mp member
    exact sane.free old inside (kept old done)
  · simp only [AsyncLock.cancel, ← List.map_tail] at member
    obtain ⟨old, inside, rfl⟩ := List.mem_map.mp member
    exact sane.first old inside (kept old done)

theorem Sane.leave (sane : lock.Sane) (t : T) : (lock.leave t).Sane := by
  refine ⟨fun waiter member => sane.free waiter (List.mem_filter.mp member).1,
    fun waiter member => sane.first waiter ?_⟩
  simp only [AsyncLock.leave] at member
  cases waiters : lock.waiters with
  | nil => simp [waiters] at member
  | cons head rest =>
      rw [waiters, List.filter_cons] at member
      rw [List.tail_cons]
      split at member
      · exact (List.mem_filter.mp member).1
      · exact (List.mem_filter.mp (List.mem_of_mem_tail member)).1

theorem Sane.giveUp (sane : lock.Sane) (t : T) : (lock.giveUp t).Sane := by
  unfold AsyncLock.giveUp
  split
  · exact sane.leave t
  · rename_i unlocked
    exact (sane.leave t).wakeUpFirst (eq_false_of_ne_true unlocked)

theorem giveUp_locked (t : T) : (lock.giveUp t).locked = lock.locked := by
  unfold AsyncLock.giveUp
  split
  · rfl
  · exact wakeUpFirst_locked

/-- The first waiter, woken, takes the lock: the others have not been woken. -/
theorem Sane.take (sane : lock.Sane) (woken : (t, .done) ∈ lock.waiters) : (lock.take t).Sane := by
  have left := sane.leave t
  refine ⟨fun waiter member done => ?_, left.first⟩
  have member : waiter ∈ lock.waiters ∧ waiter.1 ≠ t := by
    simpa [AsyncLock.take, AsyncLock.leave] using member
  cases waiters : lock.waiters with
  | nil => simp [waiters] at woken
  | cons head rest =>
      have first : ∀ other ∈ rest, other.2 ≠ .done := fun other inside =>
        sane.first other (by rwa [waiters, List.tail_cons])
      rw [waiters] at woken member
      obtain same | later := List.mem_cons.mp woken
      · obtain head_ | later := List.mem_cons.mp member.1
        · exact absurd (by rw [head_, ← same]) member.2
        · exact absurd done (first waiter later)
      · exact absurd rfl (first _ later)

end Tasks

/-- At most one task is inside, and the lock is locked while one is. -/
structure Exclusive (lock : AsyncLock T) (inside : T → Prop) : Prop where
  sane : lock.Sane
  locked : ∀ t, inside t → lock.locked = true
  only : ∀ t u, inside t → inside u → t = u

section Exclusive
variable {after : AsyncLock T} {inside inside' : T → Prop}

theorem Exclusive.nobody (exclusive : lock.Exclusive inside) (free : lock.locked = false) (t : T) :
    ¬ inside t := fun holds => by
  rw [exclusive.locked t holds] at free
  cases free

/-- One that takes a free lock goes inside. -/
theorem Exclusive.enter (exclusive : lock.Exclusive inside) (free : lock.locked = false)
    (sane : after.Sane) (locked : after.locked = true)
    (entered : ∀ u, inside' u → inside u ∨ u = t) : after.Exclusive inside' := by
  have alone : ∀ u, inside' u → u = t := fun u holds =>
    (entered u holds).resolve_left (exclusive.nobody free u)
  exact ⟨sane, fun _ _ => locked, fun u v first second => (alone u first).trans (alone v second).symm⟩

/-- The one inside leaves; nobody is. -/
theorem Exclusive.exit (exclusive : lock.Exclusive inside) (holds : inside t) (sane : after.Sane)
    (left : ∀ u, inside' u → inside u ∧ u ≠ t) : after.Exclusive inside' := by
  have nobody : ∀ u, ¬ inside' u := fun u again =>
    (left u again).2 (exclusive.only u t (left u again).1 holds)
  exact ⟨sane, fun u again => absurd again (nobody u), fun u _ again => absurd again (nobody u)⟩

theorem Exclusive.keep (exclusive : lock.Exclusive inside) (sane : after.Sane)
    (same : after.locked = lock.locked) (fewer : ∀ u, inside' u → inside u) :
    after.Exclusive inside' :=
  ⟨sane, fun u holds => same.trans (exclusive.locked u (fewer u holds)),
    fun u v first second => exclusive.only u v (fewer u first) (fewer v second)⟩

end Exclusive

end AsyncLock

end Meshloom
