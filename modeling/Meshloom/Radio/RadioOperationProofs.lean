import Meshloom.Radio.RadioOperation

/-! The radio's operations exclude each other, and a call that must not block queues in one case
only: the lock is free, but another waiter has been or will be woken. -/
namespace Meshloom.RadioOperation
open Transition
variable {s t : State} {i : Nat}

/-- The task is between the acquisition and the release. -/
def Phase.Inside : Phase → Prop
  | .stoppingFetch | .body _ | .startingFetch | .disconnecting _ => True
  | _ => False

/-- The task has not had the lock yet. -/
def Phase.Before : Phase → Prop
  | .idle | .preparing | .waiting _ _ => True
  | _ => False

/-- How often a task has had the lock and has released it. -/
def Phase.Balance : Phase → Nat → Nat → Prop
  | .stoppingFetch | .body _ | .startingFetch | .disconnecting _ => fun had released =>
      had = 1 ∧ released = 0
  | .ended _ => fun had released => had = released ∧ had ≤ 1
  | _ => fun had released => had = 0 ∧ released = 0

def Balanced (s : State) (i : Nat) : Prop :=
  (s.phases i).Balance (s.log.count (.acquired i)) (s.log.count (.released i))

section Counts
variable (log : List Entry) (i j : Nat)

theorem count_acquired_released :
    (Entry.released i :: log).count (.acquired j) = log.count (.acquired j) :=
  List.count_cons_of_ne (show Entry.released i ≠ .acquired j from nofun)

theorem count_released_acquired :
    (Entry.acquired i :: log).count (.released j) = log.count (.released j) :=
  List.count_cons_of_ne (show Entry.acquired i ≠ .released j from nofun)

theorem count_acquired_ne (other : j ≠ i) :
    (Entry.acquired i :: log).count (.acquired j) = log.count (.acquired j) :=
  List.count_cons_of_ne fun same => other (Entry.acquired.inj same).symm

theorem count_released_ne (other : j ≠ i) :
    (Entry.released i :: log).count (.released j) = log.count (.released j) :=
  List.count_cons_of_ne fun same => other (Entry.released.inj same).symm

end Counts

structure Invariant (s : State) : Prop where
  exclusive : s.lock.Exclusive fun i => (s.phases i).Inside
  balanced : ∀ i, Balanced s i
  locked : ∀ i, .notLocked i ∉ s.log

/-- The task has the lock, and has noted it. -/
structure Held (s : State) (i : Nat) : Prop where
  exclusive : s.lock.Exclusive (· = i)
  alone : ∀ j, (s.phases j).Inside → j = i
  had : s.log.count (.acquired i) = 1
  unreleased : s.log.count (.released i) = 0
  others : ∀ j, j ≠ i → Balanced s j
  locked : ∀ j, .notLocked j ∉ s.log

theorem Phase.Balance.before {phase : Phase} (balance : phase.Balance had released)
    (before : phase.Before) : had = 0 ∧ released = 0 := by
  cases phase with
  | idle => exact balance
  | preparing => exact balance
  | waiting call mustCancel => exact balance
  | _ => exact before.elim

theorem Phase.Balance.inside {phase : Phase} (inside : phase.Inside) :
    phase.Balance had released ↔ had = 1 ∧ released = 0 := by
  cases phase with
  | stoppingFetch => rfl
  | body autoFetchPaused => rfl
  | startingFetch => rfl
  | disconnecting mc => rfl
  | _ => exact inside.elim

theorem Invariant.held (invariant : Invariant s) (inside : (s.phases i).Inside) : Held s i := by
  obtain ⟨had, unreleased⟩ := (Phase.Balance.inside inside).mp (invariant.balanced i)
  refine ⟨invariant.exclusive.keep invariant.exclusive.sane rfl fun j same => same ▸ inside,
    fun j other => invariant.exclusive.only j i other inside, had, unreleased,
    fun j _ => invariant.balanced j, invariant.locked⟩

theorem Held.move (held : Held s i) {phase : Phase} (inside : phase.Inside) :
    Invariant (s.move i phase) := by
  refine ⟨held.exclusive.keep held.exclusive.sane rfl fun j inside => ?_, fun j => ?_, held.locked⟩
  · by_contra other
    simp only [State.move, Function.update_of_ne other] at inside
    exact other (held.alone j inside)
  · obtain rfl | other := eq_or_ne j i
    · simp only [Balanced, State.move, Function.update_self]
      exact (Phase.Balance.inside inside).mpr ⟨held.had, held.unreleased⟩
    · simpa only [Balanced, State.move, Function.update_of_ne other] using held.others j other

/-- A task that has the lock releases it, once. -/
theorem Held.exit (held : Held s i) (outcome : Outcome) : Invariant (s.exit i outcome) := by
  have locked := held.exclusive.locked i rfl
  have released : s.lock.release = some { s.lock with locked := false }.wakeUpFirst :=
    if_pos locked
  obtain ⟨sane, -⟩ := held.exclusive.sane.release released
  simp only [State.exit, State.releaseOperationLock, released]
  refine ⟨held.exclusive.exit rfl sane fun j inside => ?_, fun j => ?_, fun j member => ?_⟩
  · obtain rfl | other := eq_or_ne j i
    · simp only [State.move, Function.update_self] at inside
      exact inside.elim
    · simp only [State.move, Function.update_of_ne other] at inside
      exact ⟨held.alone j inside, other⟩
  · obtain rfl | other := eq_or_ne j i
    · simp only [Balanced, State.move, Function.update_self, Phase.Balance, count_acquired_released,
        List.count_cons_self, held.had, held.unreleased]
      exact ⟨trivial, Nat.le_refl 1⟩
    · simpa only [Balanced, State.move, Function.update_of_ne other, count_acquired_released,
        count_released_ne _ _ _ other] using held.others j other
  · obtain same | old := List.mem_cons.mp member
    · cases same
    · exact held.locked j old

/-- A task that takes a free lock. -/
theorem Invariant.acquire (invariant : Invariant s) (free : s.lock.locked = false)
    (before : (s.phases i).Before) {lock : AsyncLock Nat} (sane : lock.Sane)
    (locked : lock.locked = true) :
    Held { s with lock, log := .acquired i :: s.log } i := by
  obtain ⟨had, released⟩ := (invariant.balanced i).before before
  refine ⟨invariant.exclusive.enter free sane locked fun j same => .inr same,
    fun j inside => absurd inside (invariant.exclusive.nobody free j), ?_, ?_, fun j other => ?_,
    fun j member => ?_⟩
  · rw [List.count_cons_self, had]
  · rw [count_released_acquired, released]
  · simpa only [Balanced, count_acquired_ne _ _ _ other, count_released_acquired]
      using invariant.balanced j
  · obtain same | old := List.mem_cons.mp member
    · cases same
    · exact invariant.locked j old

theorem Invariant.enter (invariant : Invariant s) (free : s.lock.locked = false)
    (before : (s.phases i).Before) {lock : AsyncLock Nat} (sane : lock.Sane)
    (locked : lock.locked = true) (call : Call) : Invariant ({ s with lock }.held i call) := by
  have held := invariant.acquire free before sane locked
  unfold State.held
  dsimp only
  split
  · exact held.exit _
  · split
    · exact held.move trivial
    · exact held.move trivial
  · exact held.move trivial

/-- A task that has not had the lock goes on without it. -/
theorem Invariant.pass (invariant : Invariant s) (before : (s.phases i).Before)
    {lock : AsyncLock Nat} (sane : lock.Sane) (same : lock.locked = s.lock.locked) {phase : Phase}
    (outside : ¬ phase.Inside) : Invariant ({ s with lock }.move i phase) := by
  obtain ⟨had, released⟩ := (invariant.balanced i).before before
  refine ⟨invariant.exclusive.keep sane same fun j inside => ?_, fun j => ?_, invariant.locked⟩
  · obtain rfl | other := eq_or_ne j i
    · simp only [State.move, Function.update_self] at inside
      exact absurd inside outside
    · simpa only [State.move, Function.update_of_ne other] using inside
  · obtain rfl | other := eq_or_ne j i
    · simp only [Balanced, State.move, Function.update_self, had, released]
      cases phase with
      | ended outcome => exact ⟨rfl, Nat.zero_le 1⟩
      | idle => exact ⟨rfl, rfl⟩
      | preparing => exact ⟨rfl, rfl⟩
      | waiting call mustCancel => exact ⟨rfl, rfl⟩
      | _ => exact absurd trivial outside
    · simpa only [Balanced, State.move, Function.update_of_ne other] using invariant.balanced j

theorem acquireOperationLock_invariant (invariant : Invariant s) (before : (s.phases i).Before)
    (call : Call) : Invariant (s.acquireOperationLock i call) := by
  have sane := invariant.exclusive.sane
  unfold State.acquireOperationLock
  split
  · exact invariant.pass before sane rfl nofun
  · split
    · rename_i open_
      have taken : s.lock.acquire i = { s.lock with locked := true } := if_pos open_
      exact invariant.enter open_.1 before (sane.acquire i) (by rw [taken]) call
    · rename_i closed
      have queued : s.lock.acquire i = { s.lock with waiters := s.lock.waiters ++ [(i, .pending)] } :=
        if_neg closed
      exact invariant.pass before (sane.acquire i) (by rw [queued]) nofun

theorem step_invariant (invariant : Invariant s) (event : Event) (stepped : step s event = some t) :
    Invariant t := by
  have sane := invariant.exclusive.sane
  cases event with
  | call i call =>
      simp only [step] at stepped
      split at stepped
      · rename_i idle
        cases stepped
        have before : (s.phases i).Before := idle ▸ trivial
        cases call with
        | radioOperation suspendAutoFetch blocking =>
            exact acquireOperationLock_invariant invariant before _
        | disconnect =>
            simp only [State.begin_]
            split
            · exact invariant.pass before sane rfl nofun
            · exact invariant.pass before sane rfl nofun
      · cases stepped
  | goOn i raised =>
      simp only [step] at stepped
      cases phase : s.phases i with
      | idle => simp [phase, State.goOn] at stepped
      | waiting call mustCancel => simp [phase, State.goOn] at stepped
      | ended outcome => simp [phase, State.goOn] at stepped
      | preparing =>
          have before : (s.phases i).Before := phase ▸ trivial
          simp only [phase, State.goOn] at stepped
          split at stepped
          · cases stepped
            exact invariant.pass before sane rfl nofun
          · cases stepped
            exact acquireOperationLock_invariant invariant before _
      | stoppingFetch =>
          have held := invariant.held (i := i) (phase ▸ trivial)
          simp only [phase, State.goOn] at stepped
          split at stepped
          · cases stepped
            exact held.exit _
          · cases stepped
            exact held.move trivial
      | body autoFetchPaused =>
          have held := invariant.held (i := i) (phase ▸ trivial)
          cases autoFetchPaused with
          | true =>
              simp only [phase, State.goOn, Option.some.injEq] at stepped
              exact stepped ▸ held.move trivial
          | false =>
              simp only [phase, State.goOn, Option.some.injEq] at stepped
              exact stepped ▸ held.exit _
      | startingFetch =>
          have held := invariant.held (i := i) (phase ▸ trivial)
          simp only [phase, State.goOn, Option.some.injEq] at stepped
          exact stepped ▸ held.exit _
      | disconnecting mc =>
          have held := invariant.held (i := i) (phase ▸ trivial)
          simp only [phase, State.goOn] at stepped
          split at stepped
          · cases stepped
            have held : Held { s with meshcore := none } i :=
              ⟨held.exclusive, held.alone, held.had, held.unreleased, held.others, held.locked⟩
            exact held.exit _
          · cases stepped
            exact held.exit _
  | resume i =>
      simp only [step] at stepped
      split at stepped
      · rename_i call mustCancel waiting
        have before : (s.phases i).Before := waiting ▸ trivial
        have givesUp : Invariant ({ s with lock := s.lock.giveUp i }.move i (.ended .cancelled)) :=
          invariant.pass before (sane.giveUp i) (AsyncLock.giveUp_locked i) nofun
        obtain ⟨future, found, resumed⟩ := Option.bind_eq_some_iff.mp stepped
        cases future with
        | pending => cases resumed
        | cancelled =>
            cases resumed
            exact givesUp
        | done =>
            simp only [State.resume] at resumed
            split at resumed
            · cases resumed
              exact givesUp
            · cases resumed
              obtain ⟨ahead, behind, waiters, -⟩ := List.lookup_eq_some_iff.mp found
              have woken : (i, .done) ∈ s.lock.waiters := by
                rw [waiters]
                exact List.mem_append_right _ List.mem_cons_self
              exact invariant.enter (sane.free _ woken rfl) before (sane.take woken) rfl call
      · cases stepped
  | cancel i =>
      simp only [step] at stepped
      split at stepped
      · rename_i call mustCancel waiting
        have before : (s.phases i).Before := waiting ▸ trivial
        split at stepped
        · cases stepped
          exact invariant.pass before sane rfl nofun
        · cases stepped
          exact ⟨invariant.exclusive.keep (sane.cancel i) rfl fun _ inside => inside,
            invariant.balanced, invariant.locked⟩
      · cases stepped
  | transport meshcore =>
      cases stepped
      exact ⟨invariant.exclusive, invariant.balanced, invariant.locked⟩

theorem reaches_invariant (run : Reaches step allowed (start meshcore) s) : Invariant s := by
  refine run.invariant (fun invariant _ stepped => step_invariant invariant _ stepped) ?_
  exact ⟨⟨⟨nofun, nofun⟩, nofun, nofun⟩, fun _ => ⟨rfl, rfl⟩, nofun⟩

/-! ### Calls that must not block -/

/-- A call that must not block does not come between a release and the next waiter. -/
def NotPromised (s : State) : Event → Prop
  | .call _ call => call.blocking = false → s.lock.locked = true ∨ s.lock.Open
  | _ => True

instance (event : Event) : Decidable (NotPromised s event) := by
  unfold NotPromised
  split <;> infer_instance

/-- Every call in the queue is one that may block. -/
def OnlyBlockingWait (s : State) : Prop :=
  ∀ i call mustCancel, s.phases i = .waiting call mustCancel → call.blocking = true

theorem OnlyBlockingWait.move (only : OnlyBlockingWait s) {phase : Phase}
    (may : ∀ call mustCancel, phase = .waiting call mustCancel → call.blocking = true) :
    OnlyBlockingWait (s.move i phase) := by
  intro j call mustCancel waiting
  obtain rfl | other := eq_or_ne j i
  · simp only [State.move, Function.update_self] at waiting
    exact may call mustCancel waiting
  · simp only [State.move, Function.update_of_ne other] at waiting
    exact only j call mustCancel waiting

theorem OnlyBlockingWait.exit (only : OnlyBlockingWait s) (outcome : Outcome) :
    OnlyBlockingWait (s.exit i outcome) := by
  refine OnlyBlockingWait.move ?_ nofun
  unfold State.releaseOperationLock
  split
  · exact only
  · exact only

theorem OnlyBlockingWait.held (only : OnlyBlockingWait s) (call : Call) :
    OnlyBlockingWait (s.held i call) := by
  unfold State.held
  dsimp only
  split
  · refine OnlyBlockingWait.exit ?_ _
    exact only
  · refine OnlyBlockingWait.move only fun call mustCancel waiting => ?_
    split at waiting <;> cases waiting
  · exact OnlyBlockingWait.move only nofun

theorem OnlyBlockingWait.acquire (only : OnlyBlockingWait s) {call : Call}
    (permitted : call.blocking = false → s.lock.locked = true ∨ s.lock.Open) :
    OnlyBlockingWait (s.acquireOperationLock i call) := by
  unfold State.acquireOperationLock
  split
  · exact OnlyBlockingWait.move only nofun
  · rename_i mayWait
    split
    · refine OnlyBlockingWait.held ?_ call
      exact only
    · rename_i closed
      refine OnlyBlockingWait.move only ?_
      rintro _ _ ⟨⟩
      by_contra nonblocking
      have nonblocking := eq_false_of_ne_true nonblocking
      exact (permitted nonblocking).elim (fun locked => mayWait ⟨nonblocking, locked⟩) closed

theorem step_onlyBlockingWait (only : OnlyBlockingWait s) (permitted : NotPromised s event)
    (stepped : step s event = some t) : OnlyBlockingWait t := by
  cases event with
  | call i call =>
      simp only [step] at stepped
      split at stepped
      · cases stepped
        cases call with
        | radioOperation suspendAutoFetch blocking => exact only.acquire permitted
        | disconnect =>
            simp only [State.begin_]
            split
            · exact OnlyBlockingWait.move only nofun
            · exact OnlyBlockingWait.move only nofun
      · cases stepped
  | goOn i raised =>
      simp only [step] at stepped
      unfold State.goOn at stepped
      split at stepped
      · split at stepped
        · cases stepped
          exact OnlyBlockingWait.move only nofun
        · cases stepped
          exact only.acquire nofun
      · split at stepped
        · cases stepped
          refine OnlyBlockingWait.exit ?_ _
          exact only
        · cases stepped
          exact OnlyBlockingWait.move only nofun
      · cases stepped
        exact OnlyBlockingWait.move only nofun
      · cases stepped
        refine OnlyBlockingWait.exit ?_ _
        exact only
      · cases stepped
        refine OnlyBlockingWait.exit ?_ _
        exact only
      · split at stepped
        · cases stepped
          refine OnlyBlockingWait.exit ?_ _
          exact only
        · cases stepped
          refine OnlyBlockingWait.exit ?_ _
          exact only
      · cases stepped
  | resume i =>
      simp only [step] at stepped
      split at stepped
      · obtain ⟨future, found, resumed⟩ := Option.bind_eq_some_iff.mp stepped
        cases future with
        | pending => cases resumed
        | cancelled =>
            cases resumed
            exact OnlyBlockingWait.move only nofun
        | done =>
            simp only [State.resume] at resumed
            split at resumed
            · cases resumed
              exact OnlyBlockingWait.move only nofun
            · cases resumed
              refine OnlyBlockingWait.held ?_ _
              exact only
      · cases stepped
  | cancel i =>
      simp only [step] at stepped
      split at stepped
      · rename_i call mustCancel waiting
        split at stepped
        · cases stepped
          refine OnlyBlockingWait.move only ?_
          rintro _ _ ⟨⟩
          exact only i _ _ waiting
        · cases stepped
          exact only
      · cases stepped
  | transport meshcore =>
      cases stepped
      exact only

theorem held_not_waiting (s : State) (i : Nat) (call call' : Call) (mustCancel : Bool) :
    (s.held i call).phases i ≠ .waiting call' mustCancel := by
  unfold State.held
  dsimp only
  split
  · simp [State.exit, State.move]
  · split <;> simp [State.move]
  · simp [State.move]

/-- The condition is exact: otherwise the call waits. -/
theorem nonblocking_waits_iff {call : Call} (nonblocking : call.blocking = false) :
    (s.acquireOperationLock i call).phases i = .waiting call false ↔
      ¬ (s.lock.locked = true ∨ s.lock.Open) := by
  unfold State.acquireOperationLock
  split
  · rename_i busy
    simp [State.move, busy.2]
  · rename_i unlocked
    have unlocked : s.lock.locked ≠ true := fun locked => unlocked ⟨nonblocking, locked⟩
    split
    · rename_i open_
      exact iff_of_false (held_not_waiting _ _ _ _ _) fun none => none (.inr open_)
    · rename_i closed
      exact iff_of_true (by simp [State.move]) fun either => either.elim unlocked closed

/-- The radio's operations: one at a time, each that had the lock releases it once, and one that
must not block never waits. -/
structure Proper (s : State) : Prop where
  one : ∀ i j, (s.phases i).Inside → (s.phases j).Inside → i = j
  released : ∀ i outcome, s.phases i = .ended outcome →
    s.log.count (.released i) = s.log.count (.acquired i) ∧ s.log.count (.acquired i) ≤ 1
  locked : ∀ i, .notLocked i ∉ s.log
  nonblocking : ∀ i call mustCancel, s.phases i = .waiting call mustCancel → call.blocking = true

/-- When no call that must not block comes while the lock is free but promised to a waiter, the
operations are proper. -/
theorem operations_proper (meshcore : Option Nat)
    (run : Reaches step NotPromised (start meshcore) s) : Proper s := by
  have invariant := reaches_invariant run
  refine ⟨invariant.exclusive.only, fun i outcome ended => ?_, invariant.locked, ?_⟩
  · have balanced := invariant.balanced i
    simp only [Balanced, ended] at balanced
    exact ⟨balanced.1.symm, balanced.2⟩
  · exact run.invariant (P := OnlyBlockingWait)
      (fun only permitted stepped => step_onlyBlockingWait only permitted stepped) nofun

section Examples

/-- Two operations; the second waits for the first. -/
def handedOver : List Event :=
  [.call 0 (.radioOperation false true), .call 1 (.radioOperation true true), .goOn 0 false]

theorem handedOver_proper : ∃ s, (s.phases 1) = .body true ∧ Proper s := by
  have ran : (executeWhere step NotPromised (start (some 0))
      (handedOver ++ [.resume 1, .goOn 1 false, .call 2 (.radioOperation false false)])).any
        (fun s => decide (s.phases 1 = .body true)) := by
    decide
  obtain ⟨s, executed, holds⟩ := (Option.any_eq_true _ _).mp ran
  exact ⟨s, of_decide_eq_true holds, operations_proper (some 0) (executeWhere_reaches executed)⟩

/-- Right after the release the lock is free, and the call queues behind the second operation. -/
theorem nonblocking_waits : ∃ s, Reaches step Any (start (some 0)) s ∧
    s.phases 1 = .body true ∧ s.phases 2 = .waiting (.radioOperation false false) false ∧
    ¬ Proper s := by
  have ran : (execute step (start (some 0))
      (handedOver ++ [.call 2 (.radioOperation false false), .resume 1, .goOn 1 false])).any
        (fun s => decide (s.phases 1 = .body true ∧
          s.phases 2 = .waiting (.radioOperation false false) false)) := by
    decide
  obtain ⟨s, executed, holds⟩ := (Option.any_eq_true _ _).mp ran
  obtain ⟨inside, waits⟩ := of_decide_eq_true holds
  refine ⟨s, execute_reaches executed, inside, waits, fun proper => ?_⟩
  have blocking := proper.nonblocking 2 _ _ waits
  cases blocking

end Examples

end Meshloom.RadioOperation
