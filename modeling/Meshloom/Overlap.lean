import Meshloom.Transition
import Mathlib.Data.List.Perm.Basic

/-! Overlapping calls on one store. A call reads the store once and commits once, and what it read
may be old by then; the commits are the only writes. A commit is timely when it does what the whole
call would do now, and a run of timely commits is serial. -/
namespace Meshloom.Overlap
open Transition
variable {Store Call View : Type}

/-- A call in progress, with what it has read. -/
structure Task (Call View : Type) where
  call : Call
  view : Option View

structure State (Store Call View : Type) where
  store : Store
  running : List (Task Call View)
  /-- Every call so far. -/
  started : List Call

inductive Event (Call : Type) where
  | start (call : Call)
  | read (i : Nat)
  | commit (i : Nat)

def start (store : Store) : State Store Call View := ⟨store, [], []⟩

section Step
variable (reads : Call → Store → View) (commits : Call → View → Store → Store)

def step (s : State Store Call View) : Event Call → Option (State Store Call View)
  | .start call =>
      some { s with running := s.running ++ [⟨call, none⟩], started := s.started ++ [call] }
  | .read i =>
      match s.running[i]? with
      | some ⟨call, none⟩ =>
          some { s with running := s.running.set i ⟨call, some (reads call s.store)⟩ }
      | _ => none
  | .commit i =>
      match s.running[i]? with
      | some ⟨call, some view⟩ =>
          some { s with store := commits call view s.store, running := s.running.eraseIdx i }
      | _ => none

/-- The call with nothing between its read and its commit. -/
def perform (store : Store) (call : Call) : Store := commits call (reads call store) store

/-- Where a call commits, it does what the whole call would do now. -/
def Timely (s : State Store Call View) : Event Call → Prop
  | .commit i => ∀ call view, s.running[i]? = some ⟨call, some view⟩ →
      commits call view s.store = perform reads commits s.store call
  | _ => True

/-- The store is what the calls that are done leave, one after the other. -/
def Serial (first : Store) (s : State Store Call View) : Prop :=
  ∃ order, (order ++ s.running.map Task.call).Perm s.started ∧
    s.store = order.foldl (perform reads commits) first

variable {reads commits}

theorem step_serial {s t : State Store Call View} {e : Event Call}
    (serial : Serial reads commits first s) (timely : Timely reads commits s e)
    (stepped : step reads commits s e = some t) : Serial reads commits first t := by
  obtain ⟨order, permuted, stored⟩ := serial
  cases e with
  | start call =>
      cases stepped
      refine ⟨order, ?_, stored⟩
      rw [List.map_append, ← List.append_assoc]
      exact permuted.append_right [call]
  | read i =>
      simp only [step] at stepped
      split at stepped
      · rename_i call found
        cases stepped
        refine ⟨order, ?_, stored⟩
        obtain ⟨inside, found⟩ := List.getElem?_eq_some_iff.mp found
        have mapped : i < (s.running.map Task.call).length := by simpa using inside
        have named : call = (s.running.map Task.call)[i] := by simp [found]
        rw [List.map_set, named, List.set_getElem_self]
        exact permuted
      · contradiction
  | commit i =>
      simp only [step] at stepped
      split at stepped
      · rename_i call view found
        cases stepped
        refine ⟨order ++ [call], ?_, ?_⟩
        · obtain ⟨inside, same⟩ := List.getElem?_eq_some_iff.mp found
          have left : (call :: (s.running.eraseIdx i).map Task.call).Perm
              (s.running.map Task.call) := by
            simpa [same] using (List.getElem_cons_eraseIdx_perm inside).map Task.call
          rw [List.append_assoc]
          exact (left.append_left order).trans permuted
        · rw [List.foldl_append, ← stored]
          exact timely call view found
      · contradiction

/-- A run of timely commits is serial. -/
theorem serial_of_run {s : State Store Call View}
    (run : Reaches (step reads commits) (Timely reads commits) (start first) s) :
    Serial reads commits first s :=
  run.invariant step_serial ⟨[], .refl _, rfl⟩

/-- What every commit keeps holds of the store all along, timely or not. -/
theorem store_invariant {P : Store → Prop} {s : State Store Call View}
    (keeps : ∀ call view store, P store → P (commits call view store))
    (run : Reaches (step reads commits) allowed (start first) s) (initial : P first) :
    P s.store := by
  refine run.invariant (P := fun s => P s.store) ?_ initial
  intro t e u held _ stepped
  cases e with
  | start call =>
      cases stepped
      exact held
  | read i =>
      simp only [step] at stepped
      split at stepped
      · cases stepped
        exact held
      · contradiction
  | commit i =>
      simp only [step] at stepped
      split at stepped
      · cases stepped
        exact keeps _ _ _ held
      · contradiction

end Step
end Meshloom.Overlap
