import Mathlib.Data.List.Basic

/-! A copy of a key-value map that follows its source by a queue of changes, and that is recovered
from a snapshot. A change says the new values of its keys, whatever the old ones were. The keys that
changes touched while the snapshot was under way keep their value in the copy. -/
namespace Meshloom.Replica
variable {κ ν δ : Type}

/-- Changes of a map from keys to values. -/
structure Feed (κ ν δ : Type) where
  keys : δ → List κ
  effect : δ → (κ → Option ν) → κ → Option ν
  frame : ∀ d f k, k ∉ keys d → effect d f k = f k
  overwrites : ∀ d f g k, k ∈ keys d → effect d f k = effect d g k

variable (feed : Feed κ ν δ)

def replay (queue : List δ) (f : κ → Option ν) : κ → Option ν :=
  queue.foldl (fun f d => feed.effect d f) f

/-- A key that changes of the queue are about. -/
def Queued (queue : List δ) (k : κ) : Prop := ∃ d ∈ queue, k ∈ feed.keys d

variable {feed}

theorem effect_congr (d : δ) {f g : κ → Option ν} (same : f k = g k) :
    feed.effect d f k = feed.effect d g k := by
  by_cases listed : k ∈ feed.keys d
  · exact feed.overwrites d f g k listed
  · rw [feed.frame d f k listed, feed.frame d g k listed, same]

theorem replay_congr (queue : List δ) {f g : κ → Option ν} (same : f k = g k) :
    replay feed queue f k = replay feed queue g k := by
  induction queue generalizing f g with
  | nil => exact same
  | cons d rest ih => exact ih (effect_congr d same)

theorem replay_unqueued {queue : List δ} (f : κ → Option ν) (unqueued : ¬ Queued feed queue k) :
    replay feed queue f k = f k := by
  induction queue generalizing f with
  | nil => rfl
  | cons d rest ih =>
      have later : ¬ Queued feed rest k := fun ⟨other, listed, about⟩ =>
        unqueued ⟨other, List.mem_cons_of_mem _ listed, about⟩
      have first : k ∉ feed.keys d := fun about => unqueued ⟨d, List.mem_cons_self, about⟩
      exact (ih (feed.effect d f) later).trans (feed.frame d f k first)

/-- The last change of a key decides, not what was there before. -/
theorem replay_queued {queue : List δ} (f g : κ → Option ν) (queued : Queued feed queue k) :
    replay feed queue f k = replay feed queue g k := by
  induction queue generalizing f g with
  | nil =>
      obtain ⟨_, listed, _⟩ := queued
      contradiction
  | cons d rest ih =>
      by_cases later : Queued feed rest k
      · exact ih _ _ later
      · obtain ⟨other, listed, about⟩ := queued
        obtain rfl | listed := List.mem_cons.mp listed
        · exact replay_congr rest (feed.overwrites other f g k about)
        · exact (later ⟨other, listed, about⟩).elim

theorem replay_append (queue : List δ) (d : δ) (f : κ → Option ν) :
    replay feed (queue ++ [d]) f = feed.effect d (replay feed queue f) := by
  rw [replay, replay, List.foldl_append]
  rfl

/-- The copy has, once the queue is replayed, what the source has under each of the keys. -/
def Follows (feed : Feed κ ν δ) (source copy : κ → Option ν) (queue : List δ) (about : κ → Prop) :
    Prop :=
  ∀ k, about k → replay feed queue copy k = source k

/-- The keys that changes since the start of a recovery are about. -/
def Changed (feed : Feed κ ν δ) (queue : List δ) (touched : List κ) (k : κ) : Prop :=
  k ∈ touched ∨ Queued feed queue k

/-- What holds of the source's values under the keys that did not change. -/
def Settled (feed : Feed κ ν δ) (source : κ → Option ν) (queue : List δ) (touched : List κ)
    (holds : κ → Option ν → Prop) : Prop :=
  ∀ k, ¬ Changed feed queue touched k → holds k (source k)

/-- A fetch that goes on, one whose answer is there, and one that is over. -/
inductive Fetch (ρ α : Type) where
  | running (progress : ρ)
  | arrived (data : α)
  | succeeded
  | failed

def Fetch.isOver : Fetch ρ α → Bool
  | .running _ | .arrived _ => false
  | .succeeded | .failed => true

section Ready
variable (feed) (progress : ρ → κ → Option ν → Prop) (answer : α → κ → Option ν → Prop)

/-- The copy follows the source under the changed keys, and what was fetched is right under the
others; after the fetch the copy follows under every key. -/
def Ready (source copy : κ → Option ν) (queue : List δ) (touched : List κ) : Fetch ρ α → Prop
  | .running fetched =>
      Follows feed source copy queue (Changed feed queue touched) ∧
        Settled feed source queue touched (progress fetched)
  | .arrived data =>
      Follows feed source copy queue (Changed feed queue touched) ∧
        Settled feed source queue touched (answer data)
  | .succeeded => Follows feed source copy queue fun _ => True
  | .failed => True

end Ready

section Source
variable {source copy snapshot : κ → Option ν} {queue : List δ} {touched : List κ} {about : κ → Prop}

/-- The source changes, and the change is queued. -/
theorem Follows.change (follows : Follows feed source copy queue about) (d : δ) :
    Follows feed (feed.effect d source) copy (queue ++ [d]) fun k => about k ∨ k ∈ feed.keys d := by
  intro k concerned
  rw [replay_append]
  obtain old | new := concerned
  · exact effect_congr d (follows k old)
  · exact feed.overwrites d _ _ k new

theorem changed_append {d : δ} : Changed feed (queue ++ [d]) touched k ↔
    Changed feed queue touched k ∨ k ∈ feed.keys d := by
  simp only [Changed, Queued, List.mem_append, List.mem_singleton]
  constructor
  · rintro (listed | ⟨other, queued | rfl, about⟩)
    · exact .inl (.inl listed)
    · exact .inl (.inr ⟨other, queued, about⟩)
    · exact .inr about
  · rintro ((listed | ⟨other, queued, about⟩) | about)
    · exact .inl listed
    · exact .inr ⟨other, .inl queued, about⟩
    · exact .inr ⟨d, .inr rfl, about⟩

theorem changed_deliver {d : δ} {touched' : List κ}
    (noted : ∀ k, k ∈ touched' ↔ k ∈ touched ∨ k ∈ feed.keys d) :
    Changed feed queue touched' k ↔ Changed feed (d :: queue) touched k := by
  simp only [Changed, Queued, List.mem_cons, noted]
  constructor
  · rintro ((listed | about) | ⟨other, queued, about⟩)
    · exact .inl listed
    · exact .inr ⟨d, .inl rfl, about⟩
    · exact .inr ⟨other, .inr queued, about⟩
  · rintro (listed | ⟨other, rfl | queued, about⟩)
    · exact .inl (.inl listed)
    · exact .inl (.inr about)
    · exact .inr ⟨other, queued, about⟩

theorem Settled.change {holds : κ → Option ν → Prop} (settled : Settled feed source queue touched holds)
    (d : δ) : Settled feed (feed.effect d source) (queue ++ [d]) touched holds := by
  intro k unchanged
  rw [changed_append] at unchanged
  rw [feed.frame d source k fun about => unchanged (.inr about)]
  exact settled k fun changed => unchanged (.inl changed)

/-- The copy with the snapshot in place of everything that was not touched follows the source under
every key. -/
theorem Follows.recover (follows : Follows feed source copy queue (Changed feed queue touched))
    (current : Settled feed source queue touched fun k value => snapshot k = value) {merged : κ → Option ν}
    (keeps : ∀ k ∈ touched, merged k = copy k) (takes : ∀ k, k ∉ touched → merged k = snapshot k) :
    Follows feed source merged queue fun _ => True := by
  intro k _
  by_cases changed : Changed feed queue touched k
  · rw [← follows k changed]
    obtain listed | queued := changed
    · exact replay_congr queue (keeps k listed)
    · exact replay_queued _ _ queued
  · have untouched : k ∉ touched := fun listed => changed (.inl listed)
    have unqueued : ¬ Queued feed queue k := fun queued => changed (.inr queued)
    rw [replay_unqueued _ unqueued, takes k untouched, current k changed]

section Steps
variable {progress : ρ → κ → Option ν → Prop} {answer : α → κ → Option ν → Prop} {fetch : Fetch ρ α}

theorem Ready.change (ready : Ready feed progress answer source copy queue touched fetch) (d : δ) :
    Ready feed progress answer (feed.effect d source) copy (queue ++ [d]) touched fetch := by
  have follows (old : Follows feed source copy queue (Changed feed queue touched)) :
      Follows feed (feed.effect d source) copy (queue ++ [d]) (Changed feed (queue ++ [d]) touched) :=
    fun k changed => old.change d k (changed_append.mp changed)
  cases fetch with
  | running fetched => exact ⟨follows ready.1, ready.2.change d⟩
  | arrived data => exact ⟨follows ready.1, ready.2.change d⟩
  | succeeded => exact fun k _ => Follows.change ready d k (.inl trivial)
  | failed => trivial

/-- The first change of the queue reaches the copy, and its keys are noted while the fetch is not
over. -/
theorem Ready.deliver {d : δ} (ready : Ready feed progress answer source copy (d :: queue) touched fetch)
    {touched' : List κ}
    (noted : fetch.isOver = false → ∀ k, k ∈ touched' ↔ k ∈ touched ∨ k ∈ feed.keys d) :
    Ready feed progress answer source (feed.effect d copy) queue touched' fetch := by
  have same (going : fetch.isOver = false) (k : κ) :
      Changed feed queue touched' k ↔ Changed feed (d :: queue) touched k :=
    changed_deliver (noted going)
  cases fetch with
  | running fetched =>
      exact ⟨fun k changed => ready.1 k ((same rfl k).mp changed),
        fun k unchanged => ready.2 k fun changed => unchanged ((same rfl k).mpr changed)⟩
  | arrived data =>
      exact ⟨fun k changed => ready.1 k ((same rfl k).mp changed),
        fun k unchanged => ready.2 k fun changed => unchanged ((same rfl k).mpr changed)⟩
  | succeeded => exact ready
  | failed => trivial

end Steps

end Source

end Meshloom.Replica
