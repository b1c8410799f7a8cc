import Mathlib.Data.List.Basic

/-! Tasks of which at most one is busy at a time. What holds while none is busy is given up by the
one that becomes busy, which holds something else instead. -/
namespace Meshloom.SoleTask
variable {S T : Type}

structure Pool (S T : Type) where
  tasks : S → List T
  busy : T → Prop
  /-- What holds while no task is busy, and what a busy one holds. -/
  rest : S → Prop
  held : S → T → Prop

variable {pool : Pool S T}

def Idle (pool : Pool S T) (s : S) : Prop := ∀ t ∈ pool.tasks s, ¬ pool.busy t

/-- No other task is busy. -/
def Sole (pool : Pool S T) (s : S) (i : Nat) : Prop :=
  ∀ (j : Nat) (t : T), (pool.tasks s)[j]? = some t → pool.busy t → j = i

structure Guarded (pool : Pool S T) (s : S) : Prop where
  rest : Idle pool s → pool.rest s
  held : ∀ (i : Nat) (t : T), (pool.tasks s)[i]? = some t → pool.busy t →
    Sole pool s i ∧ pool.held s t

/-- What a task owes to the others where it stops. -/
structure Owes (pool : Pool S T) (s : S) (t : T) : Prop where
  busy : pool.busy t → pool.held s t
  free : ¬ pool.busy t → pool.rest s

theorem owes_busy (held : pool.held s t) (busy : pool.busy t) : Owes pool s t :=
  ⟨fun _ => held, fun free => (free busy).elim⟩

theorem Idle.sole (idle : Idle pool s) (i : Nat) : Sole pool s i :=
  fun _ t found busy => (idle t (List.mem_of_getElem? found) busy).elim

theorem Idle.guarded (idle : Idle pool s) (rest : pool.rest s) : Guarded pool s :=
  ⟨fun _ => rest, fun _ t found busy => (idle t (List.mem_of_getElem? found) busy).elim⟩

theorem Sole.idle (sole : Sole pool s i) (found : (pool.tasks s)[i]? = some t)
    (free : ¬ pool.busy t) : Idle pool s := by
  intro u member busy
  obtain ⟨j, there⟩ := List.mem_iff_getElem?.mp member
  obtain rfl := sole j u there busy
  cases Option.some.inj (found.symm.trans there)
  exact free busy

/-- The rule for the task that is or becomes busy: it pays what it owes. -/
theorem Sole.guarded (sole : Sole pool s i) (found : (pool.tasks s)[i]? = some t)
    (owes : Owes pool s t) : Guarded pool s := by
  refine ⟨?_, ?_⟩
  · intro idle
    exact owes.free (idle t (List.mem_of_getElem? found))
  · intro j u member busy
    obtain rfl := sole j u member busy
    cases Option.some.inj (found.symm.trans member)
    exact ⟨sole, owes.busy busy⟩

theorem Sole.set {s' : S} (sole : Sole pool s i)
    (tasks : pool.tasks s' = (pool.tasks s).set i t) : Sole pool s' i := by
  intro j u found busy
  by_cases same : j = i
  · exact same
  · rw [tasks, List.getElem?_set_ne (Ne.symm same)] at found
    exact sole j u found busy

theorem Idle.append {s' : S} (idle : Idle pool s) (tasks : pool.tasks s' = pool.tasks s ++ [t]) :
    Sole pool s' (pool.tasks s).length := by
  intro j u found busy
  rw [tasks, List.getElem?_append] at found
  split at found
  · exact (idle u (List.mem_of_getElem? found) busy).elim
  · have last := List.getElem?_eq_some_iff.mp found
    obtain ⟨inside, _⟩ := last
    simp only [List.length_cons, List.length_nil] at inside
    omega

/-- Where the busy task, if any, is the one before. -/
theorem Guarded.frame {s' : S} (guarded : Guarded pool s)
    (same : ∀ {j : Nat} {u : T}, (pool.tasks s')[j]? = some u → pool.busy u →
      (pool.tasks s)[j]? = some u)
    (idle : Idle pool s' → Idle pool s) (rest : pool.rest s → pool.rest s')
    (held : ∀ u, pool.held s u → pool.held s' u) : Guarded pool s' := by
  refine ⟨fun now => rest (guarded.rest (idle now)), ?_⟩
  intro j u there busy
  obtain ⟨sole, kept⟩ := guarded.held j u (same there busy) busy
  exact ⟨fun k v also works => sole k v (same also works) works, held u kept⟩

/-- A task that is not busy and does not become so is of no account. -/
theorem idle_aside {s' : S} (found : (pool.tasks s)[i]? = some old) (wasFree : ¬ pool.busy old)
    (tasks : pool.tasks s' = (pool.tasks s).set i t) (free : ¬ pool.busy t) :
    Idle pool s' ↔ Idle pool s := by
  constructor
  · intro idle u member busy
    obtain ⟨j, there⟩ := List.mem_iff_getElem?.mp member
    by_cases same : j = i
    · rw [same, found] at there
      cases there
      exact wasFree busy
    · refine idle u (List.mem_of_getElem? (i := j) ?_) busy
      rw [tasks, List.getElem?_set_ne (Ne.symm same)]
      exact there
  · intro idle u member busy
    rw [tasks] at member
    obtain member | rfl := List.mem_or_eq_of_mem_set member
    · exact idle u member busy
    · exact free busy

theorem idle_joined {s' : S} (tasks : pool.tasks s' = pool.tasks s ++ [t]) (free : ¬ pool.busy t) :
    Idle pool s' ↔ Idle pool s := by
  simp only [Idle, tasks, List.forall_mem_append, List.forall_mem_singleton]
  exact and_iff_left free

theorem Guarded.aside {s' : S} (guarded : Guarded pool s) (found : (pool.tasks s)[i]? = some old)
    (wasFree : ¬ pool.busy old) (tasks : pool.tasks s' = (pool.tasks s).set i t)
    (free : ¬ pool.busy t) (rest : pool.rest s → pool.rest s')
    (held : ∀ u, pool.held s u → pool.held s' u) : Guarded pool s' := by
  have inside : i < (pool.tasks s).length := (List.getElem?_eq_some_iff.mp found).1
  refine guarded.frame ?_ (idle_aside found wasFree tasks free).mp rest held
  intro j u there busy
  by_cases same : i = j
  · rw [tasks, ← same, List.getElem?_set_self inside] at there
    cases there
    exact (free busy).elim
  · rwa [tasks, List.getElem?_set_ne same] at there

theorem Guarded.joined {s' : S} (guarded : Guarded pool s)
    (tasks : pool.tasks s' = pool.tasks s ++ [t]) (free : ¬ pool.busy t)
    (rest : pool.rest s → pool.rest s') (held : ∀ u, pool.held s u → pool.held s' u) :
    Guarded pool s' := by
  refine guarded.frame ?_ (idle_joined tasks free).mp rest held
  intro j u there busy
  rw [tasks, List.getElem?_append] at there
  split at there
  · exact there
  · cases List.mem_singleton.mp (List.mem_of_getElem? there)
    exact (free busy).elim

end Meshloom.SoleTask
