import Mathlib.Data.Rat.Defs
import Mathlib.Algebra.Order.Ring.Rat
import Meshloom.Community.DirectoryMapNodes
import Meshloom.Transition

/-! The cache of the directory's nodes (`_nodes_cache`, `app/services/directory.py`) under calls that
are suspended at each page, with resets between them. A node is kept with the number of resets that
there were when its page came, and a list with what became of its pages; nothing reads these. -/
namespace Meshloom.DirectoryMapNodes
open Transition

def nodesCacheTtlSeconds : ℚ := 600

section Grows
variable {merged page : List DirectoryMapNode}

/-- A page is put behind the nodes that there are. -/
theorem mergePage_before (merged page : List DirectoryMapNode) : merged <+: (mergePage merged page).1 := by
  have each : ∀ nodes : List DirectoryMapNode × Nat, merged <+: nodes.1 →
      merged <+: (page.foldl mergeNode nodes).1 := by
    induction page with
    | nil => exact fun nodes before => before
    | cons node rest ih =>
        intro nodes before
        refine ih _ ?_
        rw [mergeNode]
        split
        · exact before
        · exact before.trans (List.prefix_append _ _)
  exact each _ (List.prefix_refl _)

theorem takePage_before (p : Progress) (page : List DirectoryMapNode) (total : Option Nat) :
    p.merged <+: (takePage p page total).1.merged := by
  rw [takePage]
  dsimp only
  split
  · exact List.prefix_refl _
  · exact mergePage_before _ _

end Grows

/-- `_list_remote_directory_map_nodes` at a page: the rounds that are left with this one, where the
search is, and what is known of its nodes and pages. -/
structure Fetching where
  call : Nat
  now : ℚ
  /-- The resets before the call. -/
  startedAt : Nat
  left : Nat
  progress : Progress
  origins : List Nat
  answered : List Bool
  aligned : origins.length = progress.merged.length

/-- `_nodes_cache`. -/
structure Cached where
  expires : ℚ
  nodes : List DirectoryMapNode
  total : Option Nat
  origins : List Nat
  answered : List Bool
  aligned : origins.length = nodes.length

/-- A `DirectoryMapNodesResponse`. -/
structure Response where
  startedAt : Nat
  nodes : List DirectoryMapNode
  total : Option Nat
  origins : List Nat
  aligned : origins.length = nodes.length

structure State where
  cache : Option Cached
  fetching : List Fetching
  returned : List Response
  calls : Nat
  resets : Nat

def start : State := ⟨none, [], [], 0, 0⟩

inductive Event where
  | call (now : ℚ)
  /-- The page of a call comes, which may raise as it is parsed; `none` when Community went off. -/
  | page (call : Nat) (payload : Option PyValue)
  | raised (call : Nat)
  /-- `reset_directory_nodes_cache`. -/
  | reset

/-- The nodes that a page brought came behind as many resets as there are. -/
def Fetching.marked (task : Fetching) (progress : Progress) (resets : Nat) : List Nat :=
  task.origins ++ List.replicate (progress.merged.length - task.progress.merged.length) resets

theorem marked_aligned (task : Fetching) {progress : Progress} (resets : Nat)
    (grows : task.progress.merged <+: progress.merged) :
    (task.marked progress resets).length = progress.merged.length := by
  have longer := grows.length_le
  rw [Fetching.marked, List.length_append, List.length_replicate, task.aligned]
  exact Nat.add_sub_cancel' longer

/-- One round of `_collect_map_node_pages`, with whether the loop ends. -/
def Fetching.take (task : Fetching) (page : Page) (answered : Bool) (resets : Nat) : Fetching × Bool :=
  let round := takePage task.progress page.1 page.2
  ({ task with
      left := task.left - 1
      progress := round.1
      origins := task.marked round.1 resets
      answered := task.answered ++ [answered]
      aligned := marked_aligned task resets (takePage_before task.progress page.1 page.2) },
    round.2 || decide (task.left ≤ 1))

namespace State

def task? (s : State) (call : Nat) : Option Fetching := s.fetching.find? (·.call = call)

def without (s : State) (call : Nat) : State :=
  { s with fetching := s.fetching.filter (·.call ≠ call) }

/-- `_cached_map_response`. -/
def cached? (s : State) (now : ℚ) : Option Cached := s.cache.filter fun cached => now < cached.expires

def respond (s : State) (response : Response) : State :=
  { s with returned := response :: s.returned }

/-- The end of the call: the list is put into the cache and returned. -/
def store (s : State) (task : Fetching) : State :=
  { (s.without task.call).respond
      ⟨task.startedAt, task.progress.merged, task.progress.totalOut, task.origins, task.aligned⟩ with
    cache := some ⟨task.now + nodesCacheTtlSeconds, task.progress.merged, task.progress.totalOut,
      task.origins, task.answered, task.aligned⟩ }

/-- A page that came, which may raise, and an empty one for a page that did not come. -/
def pageOf (py : Conversions) : Option PyValue → Except PyError Page
  | some payload => parseDirectoryMapNodes py payload .communityDb
  | none => .ok ([], none)

/-- The first page that does not come ends the call, and so does one that raises. -/
def arrived (py : Conversions) (s : State) (task : Fetching) (payload : Option PyValue) : State :=
  if payload.isNone ∧ task.progress.offset = 0 then
    (s.without task.call).respond ⟨task.startedAt, [], none, [], rfl⟩
  else
    match pageOf py payload with
    | .error _ => s.without task.call
    | .ok page =>
      let (task, done) := task.take page payload.isSome s.resets
      if done then s.store task
      else { s.without task.call with fetching := task :: (s.without task.call).fetching }

end State

def step (py : Conversions) (s : State) : Event → Option State
  | .call now =>
    match s.cached? now with
    | some cached =>
      some ({ s with calls := s.calls + 1 }.respond
        ⟨s.resets, cached.nodes, cached.total, cached.origins, cached.aligned⟩)
    | none =>
      some { s with
        fetching := ⟨s.calls, now, s.resets, nodesMaxPages, ⟨[], 0, none⟩, [], [], rfl⟩ :: s.fetching
        calls := s.calls + 1 }
  | .page call payload => (s.task? call).map fun task => s.arrived py task payload
  | .raised call => (s.task? call).map fun task => s.without task.call
  | .reset => some { s with cache := none, resets := s.resets + 1 }

/-- The cache was filled since the last reset by a run whose pages were all answered, and no call
returned a node that was fetched before a reset before the call. -/
structure Lawful (s : State) : Prop where
  survives : ∀ cached, s.cache = some cached → ∀ origin ∈ cached.origins, s.resets ≤ origin
  whole : ∀ cached, s.cache = some cached → ∀ answered ∈ cached.answered, answered = true
  returned : ∀ response ∈ s.returned, ∀ origin ∈ response.origins, response.startedAt ≤ origin

/-- The page ends the call with a list. -/
def ends (py : Conversions) (s : State) (task : Fetching) (payload : Option PyValue) : Bool :=
  !(payload.isNone && decide (task.progress.offset = 0)) &&
    match State.pageOf py payload with
    | .error _ => false
    | .ok page => (task.take page payload.isSome s.resets).2

/-- A call that ends with a list got all of its pages, and those that brought nodes since the last
reset. -/
def EndsWhole (py : Conversions) (s : State) : Event → Prop
  | .page call payload => ∀ task, s.task? call = some task → ends py s task payload = true →
      payload.isSome = true ∧ (∀ answered ∈ task.answered, answered = true) ∧
        ∀ origin ∈ task.origins, s.resets ≤ origin
  | .call _ | .raised _ | .reset => True

/-- The nodes of a call came since it started. -/
structure Sound (s : State) : Prop where
  started : ∀ task ∈ s.fetching, task.startedAt ≤ s.resets
  since : ∀ task ∈ s.fetching, ∀ origin ∈ task.origins, task.startedAt ≤ origin

section Run
variable {py : Conversions} {s t : State}

theorem task?_mem {call : Nat} {task : Fetching} (found : s.task? call = some task) :
    task ∈ s.fetching := by
  rw [State.task?] at found
  exact List.mem_of_find?_eq_some found

theorem take_origins {task : Fetching} {page : Page} {answered : Bool} {resets origin : Nat}
    (member : origin ∈ (task.take page answered resets).1.origins) :
    origin ∈ task.origins ∨ origin = resets := by
  rcases List.mem_append.mp member with old | new
  · exact .inl old
  · exact .inr (List.eq_of_mem_replicate new)

/-- What a page does: the call ends without a list, raises, ends with a list, or goes on. -/
theorem arrived_cases (py : Conversions) (s : State) (task : Fetching) (payload : Option PyValue) :
    (ends py s task payload = false ∧ s.arrived py task payload =
      (s.without task.call).respond ⟨task.startedAt, [], none, [], rfl⟩) ∨
    (ends py s task payload = false ∧ s.arrived py task payload = s.without task.call) ∨
    ∃ page, (ends py s task payload = true ∧
        s.arrived py task payload = s.store (task.take page payload.isSome s.resets).1) ∨
      (ends py s task payload = false ∧ s.arrived py task payload = { s.without task.call with
        fetching := (task.take page payload.isSome s.resets).1 :: (s.without task.call).fetching }) := by
  unfold ends State.arrived
  by_cases first : payload.isNone = true ∧ task.progress.offset = 0
  · rw [if_pos first, first.1, decide_eq_true first.2]
    exact .inl ⟨rfl, rfl⟩
  · have goes_on : (payload.isNone && decide (task.progress.offset = 0)) = false := by
      rw [← Bool.not_eq_true, Bool.and_eq_true, decide_eq_true_iff]
      exact first
    rw [if_neg first, goes_on]
    cases State.pageOf py payload with
    | error error => exact .inr (.inl ⟨rfl, rfl⟩)
    | ok page =>
        refine .inr (.inr ⟨page, ?_⟩)
        dsimp only
        split
        · rename_i done
          exact .inl ⟨done, rfl⟩
        · rename_i more
          exact .inr ⟨Bool.eq_false_iff.mpr more, rfl⟩

theorem sound_without (sound : Sound s) (call : Nat) : Sound (s.without call) where
  started task member := sound.started task (List.mem_of_mem_filter member)
  since task member := sound.since task (List.mem_of_mem_filter member)

theorem step_kept (sound : Sound s) {e : Event} (stepped : step py s e = some t) : Sound t := by
  cases e with
  | call now =>
      rw [step] at stepped
      split at stepped
      · cases stepped
        exact ⟨sound.started, sound.since⟩
      · cases stepped
        refine ⟨fun task member => ?_, fun task member => ?_⟩
        · rcases List.mem_cons.mp member with rfl | member
          · exact Nat.le_refl _
          · exact sound.started task member
        · rcases List.mem_cons.mp member with rfl | member
          · exact fun origin none_ => absurd none_ List.not_mem_nil
          · exact sound.since task member
  | page call payload =>
      obtain ⟨task, found, rfl⟩ := Option.map_eq_some_iff.mp stepped
      have member := task?_mem found
      have less := sound_without sound task.call
      obtain ⟨-, same⟩ | ⟨-, same⟩ | ⟨page, ⟨-, same⟩ | ⟨-, same⟩⟩ := arrived_cases py s task payload
      · rw [same]
        exact ⟨less.started, less.since⟩
      · rw [same]
        exact less
      · rw [same]
        exact ⟨less.started, less.since⟩
      · rw [same]
        refine ⟨fun other member' => ?_, fun other member' => ?_⟩
        · rcases List.mem_cons.mp member' with rfl | member'
          · exact sound.started task member
          · exact less.started other member'
        · rcases List.mem_cons.mp member' with rfl | member'
          · intro origin origin_
            rcases take_origins origin_ with old | rfl
            · exact sound.since task member origin old
            · exact sound.started task member
          · exact less.since other member'
  | raised call =>
      obtain ⟨task, -, rfl⟩ := Option.map_eq_some_iff.mp stepped
      exact sound_without sound task.call
  | reset =>
      cases stepped
      exact ⟨fun task member => Nat.le_succ_of_le (sound.started task member), sound.since⟩

/-- A list that is put into the cache is lawful there exactly when it is whole and fresh. -/
theorem lawful_store_iff (lawful : Lawful s) {task : Fetching}
    (since : ∀ origin ∈ task.origins, task.startedAt ≤ origin) :
    Lawful (s.store task) ↔ (∀ answered ∈ task.answered, answered = true) ∧
      ∀ origin ∈ task.origins, s.resets ≤ origin := by
  constructor
  · intro stored
    exact ⟨stored.whole _ rfl, stored.survives _ rfl⟩
  · rintro ⟨whole, fresh⟩
    refine ⟨fun cached same => ?_, fun cached same => ?_, fun response member => ?_⟩
    · cases same
      exact fresh
    · cases same
      exact whole
    · rcases List.mem_cons.mp member with rfl | member
      · exact since
      · exact lawful.returned response member

theorem step_lawful_iff (sound : Sound s) (lawful : Lawful s) {e : Event}
    (stepped : step py s e = some t) : Lawful t ↔ EndsWhole py s e := by
  cases e with
  | call now =>
      refine iff_of_true ?_ trivial
      rw [step] at stepped
      split at stepped
      · rename_i cached found
        cases stepped
        have held : s.cache = some cached := (Option.filter_eq_some_iff.mp found).1
        refine ⟨lawful.survives, lawful.whole, fun response member => ?_⟩
        rcases List.mem_cons.mp member with rfl | member
        · exact lawful.survives cached held
        · exact lawful.returned response member
      · cases stepped
        exact ⟨lawful.survives, lawful.whole, lawful.returned⟩
  | page call payload =>
      obtain ⟨task, found, rfl⟩ := Option.map_eq_some_iff.mp stepped
      have only : EndsWhole py s (.page call payload) ↔ (ends py s task payload = true →
          payload.isSome = true ∧ (∀ answered ∈ task.answered, answered = true) ∧
            ∀ origin ∈ task.origins, s.resets ≤ origin) := by
        rw [EndsWhole, found]
        exact ⟨fun each => each task rfl, fun one other same => Option.some.inj same ▸ one⟩
      rw [only]
      obtain ⟨goes, same⟩ | ⟨goes, same⟩ | ⟨page, ⟨done, same⟩ | ⟨goes, same⟩⟩ :=
        arrived_cases py s task payload
      · rw [same, goes]
        refine iff_of_true ⟨lawful.survives, lawful.whole, fun response member => ?_⟩
          fun ended => absurd ended Bool.false_ne_true
        rcases List.mem_cons.mp member with rfl | member
        · exact fun origin none_ => absurd none_ List.not_mem_nil
        · exact lawful.returned response member
      · rw [same, goes]
        exact iff_of_true ⟨lawful.survives, lawful.whole, lawful.returned⟩
          fun ended => absurd ended Bool.false_ne_true
      · have member := task?_mem found
        have since : ∀ origin ∈ (task.take page payload.isSome s.resets).1.origins,
            task.startedAt ≤ origin := by
          intro origin origin_
          rcases take_origins origin_ with old | rfl
          · exact sound.since task member origin old
          · exact sound.started task member
        rw [same, lawful_store_iff lawful since]
        constructor
        · rintro ⟨whole, fresh⟩ -
          refine ⟨whole _ (List.mem_append_right _ (List.mem_singleton_self _)), ?_, ?_⟩
          · exact fun answered answered_ => whole answered (List.mem_append_left _ answered_)
          · exact fun origin origin_ => fresh origin (List.mem_append_left _ origin_)
        · intro each
          obtain ⟨arrived, whole, fresh⟩ := each done
          refine ⟨fun answered answered_ => ?_, fun origin origin_ => ?_⟩
          · rcases List.mem_append.mp answered_ with old | new
            · exact whole answered old
            · rw [List.mem_singleton.mp new]
              exact arrived
          · rcases take_origins origin_ with old | rfl
            · exact fresh origin old
            · exact Nat.le_refl _
      · rw [same, goes]
        exact iff_of_true ⟨lawful.survives, lawful.whole, lawful.returned⟩
          fun ended => absurd ended Bool.false_ne_true
  | raised call =>
      obtain ⟨task, -, rfl⟩ := Option.map_eq_some_iff.mp stepped
      exact iff_of_true ⟨lawful.survives, lawful.whole, lawful.returned⟩ trivial
  | reset =>
      cases stepped
      have empty : ∀ cached : Cached, none ≠ some cached := fun cached => (Option.some_ne_none cached).symm
      exact iff_of_true ⟨fun cached same => absurd same (empty cached),
        fun cached same => absurd same (empty cached), lawful.returned⟩ trivial

/-- The cache is lawful all along a run exactly when every call that ends with a list got all of its
pages, and those that brought nodes since the last reset. -/
theorem nodesCache_lawful_iff (py : Conversions) (events : List Event) :
    Always (step py) Lawful start events ↔ EachStep (step py) (EndsWhole py) start events := by
  refine always_iff_of (I := Sound) (fun sound lawful stepped => step_lawful_iff sound lawful stepped)
    (fun sound stepped => step_kept sound stepped) ?_ ?_ events
  · exact ⟨by simp [start], by simp [start]⟩
  · exact ⟨by simp [start], by simp [start], by simp [start]⟩

end Run

section Example

private def ascii : Conversions where
  lower := .asciiOnly
  nearest := exactDouble
  overflows := exactDouble_none
  round := id
  ofText _ := none
  fromIsoformat _ := none

/-- A page of a directory of 501 nodes. -/
private def onePin (c : Char) : PyValue :=
  .object [("nodes".toList, .array [.object [("public_key".toList, .string (List.replicate 64 c)),
    ("lat".toList, .int 48), ("lon".toList, .int 11)]]), ("total".toList, .int 501)]

/-- A reset between the two pages of a call: the next call returns the first page's node from the
cache. A page that does not come: half of the directory is in the cache. -/
theorem nodesCache_outlives_reset :
    (∃ s, Reaches (step ascii) Any start s ∧ ¬ Lawful s ∧ ∃ response ∈ s.returned,
      response.startedAt = 1 ∧ response.origins = [0, 1]) ∧
    ∃ s cached, Reaches (step ascii) Any start s ∧ ¬ Lawful s ∧ s.cache = some cached ∧
      cached.answered = [true, false] ∧ cached.nodes.length = 1 := by
  constructor
  · have ran : (execute (step ascii) start [.call 0, .page 0 (some (onePin 'a')), .reset,
        .page 0 (some (onePin 'b')), .call 1]).any (fun s => s.returned.any fun response =>
          decide (response.startedAt = 1 ∧ response.origins = [0, 1])) = true := by
      decide +kernel
    obtain ⟨s, executed, found⟩ := (Option.any_eq_true _ _).mp ran
    obtain ⟨response, member, holds⟩ := List.any_eq_true.mp found
    obtain ⟨later, origins⟩ := of_decide_eq_true holds
    refine ⟨s, execute_reaches executed, fun lawful => ?_, response, member, later, origins⟩
    have since := lawful.returned response member 0 (origins ▸ List.mem_cons_self)
    omega
  · have ran : (execute (step ascii) start [.call 0, .page 0 (some (onePin 'a')),
        .page 0 none]).any (fun s => s.cache.any fun cached =>
          decide (cached.answered = [true, false] ∧ cached.nodes.length = 1)) = true := by
      decide +kernel
    obtain ⟨s, executed, found⟩ := (Option.any_eq_true _ _).mp ran
    obtain ⟨cached, held, holds⟩ := (Option.any_eq_true _ _).mp found
    obtain ⟨answered, one⟩ := of_decide_eq_true holds
    refine ⟨s, cached, execute_reaches executed, fun lawful => ?_, held, answered, one⟩
    have whole := lawful.whole cached held false (by rw [answered]; simp)
    exact Bool.false_ne_true whole

end Example

end Meshloom.DirectoryMapNodes
