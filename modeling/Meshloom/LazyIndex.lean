import Mathlib.Data.Nat.Basic
import Meshloom.Transition

/-! An index that is built from a read when it is asked for, and dropped by every write. A read
takes time, so that a write may come between it and the index it is built into; a generation
number, which each write raises, tells. Calls are tasks that stand at their awaits. -/
namespace Meshloom.LazyIndex
open Transition

structure Scheme (Content Write Index Query Answer : Type) where
  apply : Content → Write → Content
  build : Content → Index
  find : Index → Query → Answer

section Machine
variable {Content Write Index Query Answer : Type}

/-- Where a call stands. The numbers count the writes that have taken effect. -/
inductive Task (Content Write Query Answer : Type) where
  | idle
  /-- Waits for the read; the first `since` writes had returned, or were older than one that had. -/
  | reading (query : Query) (generation since : Nat)
  | read (query : Query) (generation since count : Nat) (content : Content)
  | answered (query : Query) (since : Nat) (answer : Answer)
  | writing (write : Write)
  /-- The write is over; if it took effect, it was the last of so many. -/
  | written (write : Write) (count : Option Nat)
  | returned (write : Write) (count : Option Nat)
  | failed

structure State (Content Write Index Query Answer : Type) where
  content : Content
  /-- The writes that have taken effect, in this order. -/
  writes : List Write
  /-- How many of them had taken effect with the last one that has returned. -/
  landed : Nat
  index : Option Index
  generation : Nat
  tasks : Nat → Task Content Write Query Answer

inductive Event (Write Query : Type) where
  | query (task : Nat) (query : Query)
  | read (task : Nat)
  | readFailed (task : Nat)
  | resume (task : Nat)
  | write (task : Nat) (write : Write)
  | commit (task : Nat)
  | rollback (task : Nat)
  /-- A write returns, or raises. -/
  | settle (task : Nat)

variable (σ : Scheme Content Write Index Query Answer)

/-- A content and nothing that runs. -/
def start (content : Content) : State Content Write Index Query Answer :=
  ⟨content, [], 0, none, 0, fun _ => .idle⟩

namespace State

/-- A task goes on to its next await, or ends. -/
def goOn (s : State Content Write Index Query Answer) (t : Nat)
    (task : Task Content Write Query Answer) : State Content Write Index Query Answer :=
  { s with tasks := Function.update s.tasks t task }

/-- The first part of a query. -/
def ask (s : State Content Write Index Query Answer) (t : Nat) (query : Query) :
    State Content Write Index Query Answer :=
  match s.index with
  | some index => s.goOn t (.answered query s.landed (σ.find index query))
  | none => s.goOn t (.reading query s.generation s.landed)

/-- The part after the read: the index is kept unless a write came in between. -/
def publish (s : State Content Write Index Query Answer) (t : Nat) (query : Query)
    (generation since : Nat) (content : Content) : State Content Write Index Query Answer :=
  let s := if generation = s.generation then { s with index := some (σ.build content) } else s
  s.goOn t (.answered query since (σ.find (σ.build content) query))

/-- A write takes effect. -/
def commit (s : State Content Write Index Query Answer) (t : Nat) (write : Write) :
    State Content Write Index Query Answer :=
  { s with content := σ.apply s.content write, writes := s.writes ++ [write] }.goOn t
    (.written write (some (s.writes.length + 1)))

def invalidate (s : State Content Write Index Query Answer) :
    State Content Write Index Query Answer :=
  { s with index := none, generation := s.generation + 1 }

def settle (s : State Content Write Index Query Answer) (t : Nat) (write : Write)
    (count : Option Nat) : State Content Write Index Query Answer :=
  { s.invalidate with landed := max s.landed (count.getD 0) }.goOn t (.returned write count)

end State

def step (s : State Content Write Index Query Answer) :
    Event Write Query → Option (State Content Write Index Query Answer)
  | .query t query =>
      match s.tasks t with
      | .idle => some (s.ask σ t query)
      | _ => none
  | .read t =>
      match s.tasks t with
      | .reading query generation since =>
          some (s.goOn t (.read query generation since s.writes.length s.content))
      | _ => none
  | .readFailed t =>
      match s.tasks t with
      | .reading _ _ _ => some (s.goOn t .failed)
      | _ => none
  | .resume t =>
      match s.tasks t with
      | .read query generation since _ content => some (s.publish σ t query generation since content)
      | _ => none
  | .write t write =>
      match s.tasks t with
      | .idle => some (s.goOn t (.writing write))
      | _ => none
  | .commit t =>
      match s.tasks t with
      | .writing write => some (s.commit σ t write)
      | _ => none
  | .rollback t =>
      match s.tasks t with
      | .writing write => some (s.goOn t (.written write none))
      | _ => none
  | .settle t =>
      match s.tasks t with
      | .written write count => some (s.settle t write count)
      | _ => none

/-- The content after the first `count` writes. -/
def contentAfter (initial : Content) (writes : List Write) (count : Nat) : Content :=
  (writes.take count).foldl σ.apply initial

end Machine

section Proofs
variable {Content Write Index Query Answer : Type} {σ : Scheme Content Write Index Query Answer}
  {s u : State Content Write Index Query Answer} {task : Task Content Write Query Answer}
  {initial : Content} {writes more : List Write}

theorem contentAfter_extends (extends_ : writes <+: more) (within : count ≤ writes.length) :
    contentAfter σ initial more count = contentAfter σ initial writes count := by
  obtain ⟨rest, rfl⟩ := extends_
  rw [contentAfter, List.take_append_of_le_length within, contentAfter]

/-- What is known of a call, whatever the others do. -/
def Sound (σ : Scheme Content Write Index Query Answer) (initial : Content)
    (s : State Content Write Index Query Answer) : Task Content Write Query Answer → Prop
  | .reading _ generation since =>
      generation ≤ s.generation ∧ since ≤ s.landed ∧ (generation = s.generation → since = s.landed)
  | .read _ generation since count content =>
      generation ≤ s.generation ∧ (generation = s.generation → since = s.landed) ∧
        since ≤ count ∧ count ≤ s.writes.length ∧
        content = contentAfter σ initial s.writes count
  | .answered query since answer =>
      ∃ count, since ≤ count ∧ count ≤ s.writes.length ∧
        answer = σ.find (σ.build (contentAfter σ initial s.writes count)) query
  | .written write count =>
      ∀ n ∈ count, n ≤ s.writes.length ∧ write ∈ s.writes.take n
  | .returned write count =>
      ∀ n ∈ count, n ≤ s.landed ∧ n ≤ s.writes.length ∧ write ∈ s.writes.take n
  | .idle => True
  | .writing _ => True
  | .failed => True

structure Invariant (σ : Scheme Content Write Index Query Answer) (initial : Content)
    (s : State Content Write Index Query Answer) : Prop where
  content : s.content = contentAfter σ initial s.writes s.writes.length
  landed : s.landed ≤ s.writes.length
  /-- An index that is kept has every write that has returned. -/
  index : ∀ index, s.index = some index → ∃ count, s.landed ≤ count ∧ count ≤ s.writes.length ∧
    index = σ.build (contentAfter σ initial s.writes count)
  tasks : ∀ t, Sound σ initial s (s.tasks t)

/-- What a step leaves of the other calls: the writes stay, and a write that returns raises the
generation. -/
structure Later (s u : State Content Write Index Query Answer) : Prop where
  writes : s.writes <+: u.writes
  landed : s.landed ≤ u.landed
  generation : s.generation ≤ u.generation
  same : s.generation = u.generation → s.landed = u.landed

namespace Later

theorem current {generation since : Nat} (later : Later s u) (old : generation ≤ s.generation)
    (current : generation = s.generation → since = s.landed) (same : generation = u.generation) :
    since = u.landed := by
  have unchanged : s.generation = u.generation := Nat.le_antisymm later.generation (same ▸ old)
  rw [← later.same unchanged]
  exact current (same.trans unchanged.symm)

theorem mem_take {write : Write} (later : Later s u) (within : n ≤ s.writes.length)
    (member : write ∈ s.writes.take n) : write ∈ u.writes.take n := by
  obtain ⟨rest, extended⟩ := later.writes
  rwa [← extended, List.take_append_of_le_length within]

end Later

theorem Sound.later (sound : Sound σ initial s task) (later : Later s u) :
    Sound σ initial u task := by
  have length := later.writes.length_le
  cases task with
  | reading query generation since =>
      obtain ⟨old, landed, current⟩ := sound
      exact ⟨old.trans later.generation, landed.trans later.landed, later.current old current⟩
  | read query generation since count content =>
      obtain ⟨old, current, from_, upTo, same⟩ := sound
      exact ⟨old.trans later.generation, later.current old current, from_, upTo.trans length,
        same.trans (contentAfter_extends later.writes upTo).symm⟩
  | answered query since answer =>
      obtain ⟨count, from_, upTo, same⟩ := sound
      exact ⟨count, from_, upTo.trans length, by rw [contentAfter_extends later.writes upTo, same]⟩
  | written write count =>
      intro n member
      obtain ⟨upTo, member⟩ := sound n member
      exact ⟨upTo.trans length, later.mem_take upTo member⟩
  | returned write count =>
      intro n member
      obtain ⟨landed, upTo, member⟩ := sound n member
      exact ⟨landed.trans later.landed, upTo.trans length, later.mem_take upTo member⟩
  | idle => trivial
  | writing write => trivial
  | failed => trivial

/-- The tasks after a step of one of them. -/
theorem tasks_later (invariant : Invariant σ initial s) (later : Later s u)
    (moved : u.tasks = Function.update s.tasks t task) (sound : Sound σ initial u task) (i : Nat) :
    Sound σ initial u (u.tasks i) := by
  rw [moved]
  obtain rfl | other := eq_or_ne i t
  · rwa [Function.update_self]
  · rw [Function.update_of_ne other]
    exact (invariant.tasks i).later later

theorem Invariant.goOn (invariant : Invariant σ initial s) (t : Nat)
    (sound : Sound σ initial s task) : Invariant σ initial (s.goOn t task) := by
  have later : Later s (s.goOn t task) := ⟨List.prefix_rfl, le_rfl, le_rfl, fun _ => rfl⟩
  exact ⟨invariant.content, invariant.landed, invariant.index,
    tasks_later invariant later rfl (sound.later later)⟩

theorem ask_invariant (invariant : Invariant σ initial s) (t : Nat) (query : Query) :
    Invariant σ initial (s.ask σ t query) := by
  unfold State.ask
  split
  · rename_i index kept
    obtain ⟨count, from_, upTo, same⟩ := invariant.index index kept
    exact invariant.goOn t ⟨count, from_, upTo, by rw [same]⟩
  · exact invariant.goOn t ⟨le_rfl, le_rfl, fun _ => rfl⟩

theorem publish_invariant (invariant : Invariant σ initial s)
    (at_ : s.tasks t = .read query generation since count content) :
    Invariant σ initial (s.publish σ t query generation since content) := by
  have sound := invariant.tasks t
  rw [at_] at sound
  obtain ⟨old, current, from_, upTo, same⟩ := sound
  have answered : Sound σ initial s (.answered query since (σ.find (σ.build content) query)) :=
    ⟨count, from_, upTo, by rw [same]⟩
  unfold State.publish
  split
  · rename_i fresh
    have kept : ∀ index, some (σ.build content) = some index → ∃ count, s.landed ≤ count ∧
        count ≤ s.writes.length ∧
        index = σ.build (contentAfter σ initial s.writes count) := by
      rintro _ ⟨⟩
      exact ⟨count, current fresh ▸ from_, upTo, by rw [same]⟩
    have later : Later s { s with index := some (σ.build content) } :=
      ⟨List.prefix_rfl, le_rfl, le_rfl, fun _ => rfl⟩
    have published : Invariant σ initial { s with index := some (σ.build content) } :=
      ⟨invariant.content, invariant.landed, kept, fun i => (invariant.tasks i).later later⟩
    exact published.goOn t (answered.later later)
  · exact invariant.goOn t answered

theorem commit_invariant (invariant : Invariant σ initial s) (t : Nat) (write : Write) :
    Invariant σ initial (s.commit σ t write) := by
  have length : (s.commit σ t write).writes.length = s.writes.length + 1 := List.length_append
  have later : Later s (s.commit σ t write) :=
    ⟨List.prefix_append _ _, le_rfl, le_rfl, fun _ => rfl⟩
  have content : σ.apply s.content write =
      contentAfter σ initial (s.writes ++ [write]) (s.writes ++ [write]).length := by
    rw [invariant.content, contentAfter, contentAfter, List.take_length, List.take_length,
      List.foldl_append, List.foldl_cons, List.foldl_nil]
  refine ⟨content, invariant.landed.trans later.writes.length_le, fun index kept => ?_,
    tasks_later invariant later rfl ?_⟩
  · obtain ⟨count, from_, upTo, same⟩ := invariant.index index kept
    exact ⟨count, from_, upTo.trans later.writes.length_le,
      by rw [contentAfter_extends later.writes upTo, same]⟩
  · rintro n ⟨⟩
    refine ⟨length.ge, ?_⟩
    rw [← length, List.take_length]
    exact List.mem_append_right _ List.mem_cons_self

/-- A write that returns raises the generation, so that no read from before it is published. -/
theorem settle_invariant (invariant : Invariant σ initial s)
    (at_ : s.tasks t = .written write count) : Invariant σ initial (s.settle t write count) := by
  have sound := invariant.tasks t
  rw [at_] at sound
  have later : Later s (s.settle t write count) :=
    ⟨List.prefix_rfl, le_max_left _ _, Nat.le_succ _,
      fun same => absurd same (Nat.ne_of_lt (Nat.lt_succ_self _))⟩
  have within : count.getD 0 ≤ s.writes.length := by
    cases count with
    | none => exact Nat.zero_le _
    | some n => exact (sound n rfl).1
  refine ⟨invariant.content, max_le invariant.landed within, nofun,
    tasks_later invariant later rfl ?_⟩
  rintro n ⟨⟩
  exact ⟨le_max_right _ _, sound n rfl⟩

theorem step_invariant (invariant : Invariant σ initial s) (event : Event Write Query)
    (stepped : step σ s event = some u) : Invariant σ initial u := by
  cases event with
  | query t query =>
      simp only [step] at stepped
      split at stepped
      · cases stepped
        exact ask_invariant invariant t query
      · cases stepped
  | read t =>
      simp only [step] at stepped
      split at stepped
      · rename_i query generation since at_
        cases stepped
        have sound := invariant.tasks t
        rw [at_] at sound
        obtain ⟨old, landed, current⟩ := sound
        exact invariant.goOn t
          ⟨old, current, landed.trans invariant.landed, le_rfl, invariant.content⟩
      · cases stepped
  | readFailed t =>
      simp only [step] at stepped
      split at stepped
      · cases stepped
        exact invariant.goOn t trivial
      · cases stepped
  | resume t =>
      simp only [step] at stepped
      split at stepped
      · cases stepped
        exact publish_invariant invariant ‹_›
      · cases stepped
  | write t write =>
      simp only [step] at stepped
      split at stepped
      · cases stepped
        exact invariant.goOn t trivial
      · cases stepped
  | commit t =>
      simp only [step] at stepped
      split at stepped
      · cases stepped
        exact commit_invariant invariant t _
      · cases stepped
  | rollback t =>
      simp only [step] at stepped
      split at stepped
      · cases stepped
        exact invariant.goOn t nofun
      · cases stepped
  | settle t =>
      simp only [step] at stepped
      split at stepped
      · cases stepped
        exact settle_invariant invariant ‹_›
      · cases stepped

theorem reaches_invariant (run : Reaches (step σ) Any (start initial) s) :
    Invariant σ initial s :=
  run.invariant (fun invariant _ stepped => step_invariant invariant _ stepped)
    ⟨rfl, le_rfl, nofun, fun _ => trivial⟩

/-- A call of this query, that began when `since` writes had landed. -/
def Asked (query : Query) (since : Nat) : Task Content Write Query Answer → Prop
  | .reading query' _ since' => query' = query ∧ since' = since
  | .read query' _ since' _ _ => query' = query ∧ since' = since
  | .answered query' since' _ => query' = query ∧ since' = since
  | .failed => True
  | _ => False

theorem Asked.goOn (asked : Asked query since (s.tasks t))
    (own : Asked query since (s.tasks i) → Asked query since task) :
    Asked query since ((s.goOn i task).tasks t) := by
  obtain rfl | other := eq_or_ne t i
  · simpa only [State.goOn, Function.update_self] using own asked
  · simpa only [State.goOn, Function.update_of_ne other] using asked

theorem Asked.step (asked : Asked query since (s.tasks t)) (event : Event Write Query)
    (stepped : step σ s event = some u) : Asked query since (u.tasks t) := by
  cases event with
  | query i query =>
      simp only [LazyIndex.step] at stepped
      split at stepped
      · rename_i at_
        cases stepped
        unfold State.ask
        split
        · exact asked.goOn fun own => by simp only [at_, Asked] at own
        · exact asked.goOn fun own => by simp only [at_, Asked] at own
      · cases stepped
  | read i =>
      simp only [LazyIndex.step] at stepped
      split at stepped
      · rename_i at_
        cases stepped
        exact asked.goOn fun own => by simpa only [at_, Asked] using own
      · cases stepped
  | readFailed i =>
      simp only [LazyIndex.step] at stepped
      split at stepped
      · cases stepped
        exact asked.goOn fun _ => trivial
      · cases stepped
  | resume i =>
      simp only [LazyIndex.step] at stepped
      split at stepped
      · rename_i at_
        cases stepped
        unfold State.publish
        split
        · exact Asked.goOn asked fun own => by simpa only [at_, Asked] using own
        · exact asked.goOn fun own => by simpa only [at_, Asked] using own
      · cases stepped
  | write i write =>
      simp only [LazyIndex.step] at stepped
      split at stepped
      · rename_i at_
        cases stepped
        exact asked.goOn fun own => by simp only [at_, Asked] at own
      · cases stepped
  | commit i =>
      simp only [LazyIndex.step] at stepped
      split at stepped
      · rename_i at_
        cases stepped
        exact Asked.goOn asked fun own => by simp only [at_, Asked] at own
      · cases stepped
  | rollback i =>
      simp only [LazyIndex.step] at stepped
      split at stepped
      · rename_i at_
        cases stepped
        exact asked.goOn fun own => by simp only [at_, Asked] at own
      · cases stepped
  | settle i =>
      simp only [LazyIndex.step] at stepped
      split at stepped
      · rename_i at_
        cases stepped
        refine Asked.goOn asked fun own => ?_
        have own : Asked query since (s.tasks i) := own
        simp only [at_, Asked] at own
      · cases stepped

/-- Writes are not forgotten. -/
theorem writes_step (event : Event Write Query) (stepped : step σ s event = some u) :
    s.writes <+: u.writes := by
  have same : ∀ {t : State Content Write Index Query Answer}, t.writes = s.writes →
      s.writes <+: t.writes := fun eq => eq ▸ List.prefix_rfl
  cases event with
  | query i query =>
      simp only [step] at stepped
      split at stepped
      · cases stepped
        unfold State.ask
        split <;> exact same rfl
      · cases stepped
  | resume i =>
      simp only [step] at stepped
      split at stepped
      · cases stepped
        unfold State.publish
        split <;> exact same rfl
      · cases stepped
  | commit i =>
      simp only [step] at stepped
      split at stepped
      · cases stepped
        exact List.prefix_append _ _
      · cases stepped
  | _ =>
      simp only [step] at stepped
      split at stepped
      · cases stepped
        exact same rfl
      · cases stepped

/-- A query is answered from a content that has every write that had returned before it began. -/
theorem answered_after {s s' u : State Content Write Index Query Answer}
    (before : Reaches (step σ) Any (start initial) s) (asked : step σ s (.query t query) = some s')
    (after : Reaches (step σ) Any s' u) (answered : u.tasks t = .answered query' since answer) :
    query' = query ∧ ∃ count, s.landed ≤ count ∧ count ≤ u.writes.length ∧
      (∀ i write n, s.tasks i = .returned write (some n) → write ∈ u.writes.take count) ∧
      answer = σ.find (σ.build (contentAfter σ initial u.writes count)) query := by
  have asks : Asked query s.landed (s'.tasks t) := by
    simp only [step] at asked
    split at asked
    · cases asked
      unfold State.ask
      split
      · simp only [State.goOn, Function.update_self]
        exact ⟨rfl, rfl⟩
      · simp only [State.goOn, Function.update_self]
        exact ⟨rfl, rfl⟩
    · cases asked
  have asks := after.invariant (P := fun v => Asked query s.landed (v.tasks t))
    (fun asked _ stepped => asked.step _ stepped) asks
  have extended : s.writes <+: u.writes :=
    after.invariant (P := fun v => s.writes <+: v.writes)
      (fun extended _ stepped => extended.trans (writes_step _ stepped)) (writes_step _ asked)
  rw [answered] at asks
  obtain ⟨rfl, rfl⟩ := asks
  have answers := (reaches_invariant ((before.next trivial asked).trans after)).tasks t
  rw [answered] at answers
  obtain ⟨count, from_, upTo, same⟩ := answers
  refine ⟨rfl, count, from_, upTo, fun i write n returned => ?_, same⟩
  have landed := (reaches_invariant before).tasks i
  rw [returned] at landed
  obtain ⟨landed, within, member⟩ := landed n rfl
  obtain ⟨rest, extended⟩ := extended
  have early : write ∈ u.writes.take n := by
    rwa [← extended, List.take_append_of_le_length within]
  exact (List.take_prefix_take_left (landed.trans from_)).subset early

end Proofs

end Meshloom.LazyIndex
