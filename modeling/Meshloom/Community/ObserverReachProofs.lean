import Mathlib.Algebra.Order.BigOperators.Group.Finset
import Meshloom.Community.ObserverReach

/-! Calls that share their fetches. A call that is cancelled cancels or fails the future that
others wait for; when it has none in common with another call, the calls do not notice it. -/
namespace Meshloom.ObserverReach
open Transition
variable {R E : Type} {empty : R} {s t : State R E} {i : Nat} {hash : Hash} {f : Nat}

def Outcome.isCancelled {α : Type} : Outcome E α → Bool
  | .cancelled => true
  | _ => false

/-- A future that has been cancelled, or failed with a cancellation. -/
def Future.isCancelled (future : Future R E) : Bool := future.state.any Outcome.isCancelled

def Future.pending (future : Future R E) : Bool := future.state.isNone

/-- The condition on a step: a call comes to no future that is cancelled, and one that is cancelled
fetches nothing that another call waits for, and waits for nothing that another call does. -/
def Guarded (s : State R E) : Event R E → Prop
  | .call hashes cached =>
      ∀ hash ∈ missing cached hashes, (s.inflight hash).all (fun f => !(s.futures f).isCancelled)
  | .fetchCancelled i =>
      ∀ j < s.nextCall, j ≠ i → ∀ waited ∈ (s.phases j).waiting,
        (s.futures waited.2).pending = true → (s.futures waited.2).owner ≠ i
  | .waitCancelled i =>
      ∀ own ∈ (s.phases i).waiting.head?, (s.futures own.2).pending = true →
        ∀ j < s.nextCall, j ≠ i → ∀ waited ∈ (s.phases j).waiting, waited.2 ≠ own.2
  | _ => True

/-- What a call that waits for a future relies on. -/
structure Waits (s : State R E) (hash : Hash) (f : Nat) : Prop where
  old : f < s.nextFuture
  state : (s.futures f).state = (s.futures f).answer
  live : (s.futures f).isCancelled = false
  inflight : (s.futures f).answer = none → s.inflight hash = some f

structure Inflight (s : State R E) (hash : Hash) (f : Nat) : Prop where
  old : f < s.nextFuture
  named : (s.futures f).hash = hash
  unanswered : (s.futures f).answer = none
  state : (s.futures f).state = none ∨ (s.futures f).state = some .cancelled
  fetched : ∃ toFetch waiting result,
    s.phases (s.futures f).owner = .fetching toFetch waiting result ∧ hash ∈ toFetch

/-- What holds of a call at this phase. -/
structure Good (s : State R E) (i : Nat) (phase : Phase R E) : Prop where
  nodup : ∀ toFetch waiting result, phase = .fetching toFetch waiting result → toFetch.Nodup
  fetching : ∀ toFetch waiting result, phase = .fetching toFetch waiting result →
    ∀ hash ∈ toFetch, ∃ f, s.inflight hash = some f ∧ (s.futures f).owner = i
  waits : ∀ waited ∈ phase.waiting, Waits s waited.1 waited.2
  calls : phase.Running → i < s.nextCall
  cancelled : phase = .ended .cancelled → s.cancelled i = true

structure Invariant (s : State R E) : Prop where
  good : ∀ i, Good s i (s.phases i)
  inflight : ∀ hash f, s.inflight hash = some f → Inflight s hash f

theorem move_self (s : State R E) (i : Nat) (phase : Phase R E) :
    (s.move i phase).phases i = phase := Function.update_self _ _ _

theorem move_ne (s : State R E) (phase : Phase R E) {j : Nat} (other : j ≠ i) :
    (s.move i phase).phases j = s.phases j := Function.update_of_ne other _ _

theorem move_move (s : State R E) (i : Nat) (first second : Phase R E) :
    (s.move i first).move i second = s.move i second := by
  simp only [State.move, Function.update_idem]

theorem Waits.move (waits : Waits s hash f) (i : Nat) (phase : Phase R E) :
    Waits (s.move i phase) hash f := ⟨waits.old, waits.state, waits.live, waits.inflight⟩

theorem Good.move {phase : Phase R E} {j : Nat} (good : Good s j phase) (i : Nat)
    (other : Phase R E) : Good (s.move i other) j phase :=
  ⟨good.nodup, good.fetching, fun waited member => (good.waits waited member).move i other,
    good.calls, good.cancelled⟩

/-- The call keeps what it fetches. -/
def Owns (s : State R E) (i : Nat) (phase : Phase R E) : Prop :=
  ∀ hash f, s.inflight hash = some f → (s.futures f).owner = i →
    ∃ toFetch waiting result, phase = .fetching toFetch waiting result ∧ hash ∈ toFetch

theorem Invariant.owns (invariant : Invariant s) (i : Nat) : Owns s i (s.phases i) := by
  rintro hash f inflight rfl
  exact (invariant.inflight hash f inflight).fetched

/-- A step that changes the phase of one call only. -/
theorem Invariant.move (invariant : Invariant s) {phase : Phase R E} (good : Good s i phase)
    (owns : Owns s i phase) : Invariant (s.move i phase) := by
  refine ⟨fun j => ?_, fun hash f at_ => ?_⟩
  · obtain rfl | other := eq_or_ne j i
    · rw [move_self]
      exact good.move j phase
    · rw [move_ne s phase other]
      exact (invariant.good j).move i phase
  · have inflight := invariant.inflight hash f at_
    refine ⟨inflight.old, inflight.named, inflight.unanswered, inflight.state, ?_⟩
    change ∃ toFetch waiting result,
      (s.move i phase).phases (s.futures f).owner = .fetching toFetch waiting result ∧
        hash ∈ toFetch
    by_cases own : (s.futures f).owner = i
    · rw [own, move_self]
      exact owns hash f at_ own
    · rw [move_ne s phase own]
      exact inflight.fetched

/-- A call whose hashes are all finished, or that has fetched none, goes on. -/
theorem Invariant.leave (invariant : Invariant s) {waiting : List (Hash × Nat)}
    {result : Dict Hash R} (at_ : s.phases i = .fetching [] waiting result ∨
      ∃ first, s.phases i = .awaiting first waiting result)
    (phase : Phase R E) (sub : ∀ waited ∈ phase.waiting, waited ∈ waiting)
    (notFetching : ∀ toFetch waiting result, phase ≠ .fetching toFetch waiting result)
    (flag : phase = .ended .cancelled → s.cancelled i = true) : Invariant (s.move i phase) := by
  have good := invariant.good i
  have known : (∀ waited ∈ waiting, waited ∈ (s.phases i).waiting) ∧ (s.phases i).Running := by
    obtain done | ⟨first, awaits⟩ := at_
    · rw [done]
      exact ⟨fun _ member => member, trivial⟩
    · rw [awaits]
      exact ⟨fun _ member => List.mem_cons_of_mem _ member, trivial⟩
  refine invariant.move ⟨fun _ _ _ same => absurd same (notFetching _ _ _),
    fun _ _ _ same => absurd same (notFetching _ _ _),
    fun waited member => good.waits waited (known.1 waited (sub waited member)),
    fun _ => good.calls known.2, flag⟩ fun hash f inflight own => ?_
  obtain ⟨toFetch, waiting', result', fetches, member⟩ := invariant.owns i hash f inflight own
  obtain done | ⟨first, awaits⟩ := at_
  · cases done.symm.trans fetches
    cases member
  · cases awaits.symm.trans fetches

theorem awaitNext_invariant (invariant : Invariant s) {waiting : List (Hash × Nat)}
    {result : Dict Hash R} (at_ : s.phases i = .fetching [] waiting result ∨
      ∃ first, s.phases i = .awaiting first waiting result) (result' : Dict Hash R) :
    Invariant (awaitNext s i result' waiting) := by
  cases waiting with
  | nil => exact invariant.leave at_ _ nofun nofun nofun
  | cons head rest => exact invariant.leave at_ _ (fun _ member => member) nofun nofun

/-! ### The claim -/

theorem create_futures_ne (s : State R E) (i : Nat) (hash : Hash) (other : f ≠ s.nextFuture) :
    (s.create i hash).futures f = s.futures f := Function.update_of_ne other _ _

theorem create_futures_self (s : State R E) (i : Nat) (hash : Hash) :
    (s.create i hash).futures s.nextFuture = ⟨hash, i, none, none⟩ := Function.update_self _ _ _

theorem create_inflight_ne (s : State R E) (i : Nat) {hash other : Hash} (different : other ≠ hash) :
    (s.create i hash).inflight other = s.inflight other := Function.update_of_ne different _ _

theorem create_inflight_self (s : State R E) (i : Nat) (hash : Hash) :
    (s.create i hash).inflight hash = some s.nextFuture := Function.update_self _ _ _

theorem Waits.create (waits : Waits s other f) (absent : s.inflight hash = none) :
    Waits (s.create i hash) other f := by
  have same := create_futures_ne s i hash (Nat.ne_of_lt waits.old)
  refine ⟨waits.old.trans (Nat.lt_succ_self _), same ▸ waits.state, same ▸ waits.live,
    fun unanswered => ?_⟩
  have at_ := waits.inflight (same ▸ unanswered)
  have different : other ≠ hash := fun eq => by simp [eq ▸ at_] at absent
  rw [create_inflight_ne s i different]
  exact at_

/-- The future of a hash that none is fetching. -/
theorem Invariant.create (invariant : Invariant s)
    (at_ : s.phases i = .fetching toFetch waiting result) (absent : s.inflight hash = none) :
    Invariant ((s.create i hash).move i (.fetching (toFetch ++ [hash]) waiting result)) := by
  have mine := invariant.good i
  have owned := invariant.owns i
  rw [at_] at mine owned
  have old : ∀ {other : Hash} {f : Nat}, s.inflight other = some f →
      other ≠ hash ∧ f ≠ s.nextFuture := fun {other f} found =>
    ⟨fun eq => by simp [eq ▸ found] at absent, Nat.ne_of_lt (invariant.inflight other f found).old⟩
  have keeps : ∀ {j : Nat} {others : List Hash}, (∀ other ∈ others, ∃ f, s.inflight other = some f ∧
      (s.futures f).owner = j) → ∀ other ∈ others, ∃ f, (s.create i hash).inflight other = some f ∧
        ((s.create i hash).futures f).owner = j := by
    intro j others has other member
    obtain ⟨f, found, own⟩ := has other member
    refine ⟨f, ?_, ?_⟩
    · rw [create_inflight_ne s i (old found).1, found]
    · rw [create_futures_ne s i hash (old found).2, own]
  have good : Good (s.create i hash) i (.fetching (toFetch ++ [hash]) waiting result) := by
    refine ⟨?_, ?_, fun waited member => (mine.waits waited member).create absent,
      fun _ => mine.calls trivial, nofun⟩
    · rintro _ _ _ ⟨⟩
      refine List.nodup_append.mpr ⟨mine.nodup _ _ _ rfl, List.nodup_singleton _,
        fun a member b single eq => ?_⟩
      obtain ⟨f, found, -⟩ := mine.fetching _ _ _ rfl a member
      exact (old found).1 (eq.trans (List.mem_singleton.mp single))
    · rintro _ _ _ ⟨⟩ other member
      obtain before | new := List.mem_append.mp member
      · exact keeps (mine.fetching _ _ _ rfl) other before
      · cases List.mem_singleton.mp new
        exact ⟨s.nextFuture, create_inflight_self s i hash, by rw [create_futures_self]⟩
  refine ⟨fun j => ?_, fun other f inflight => ?_⟩
  · obtain rfl | different := eq_or_ne j i
    · rw [move_self]
      exact good.move j _
    · rw [move_ne _ _ different]
      have theirs := invariant.good j
      exact Good.move ⟨theirs.nodup, fun _ _ _ phase => keeps (theirs.fetching _ _ _ phase),
        fun waited member => (theirs.waits waited member).create absent, theirs.calls,
        theirs.cancelled⟩ i _
  · change (s.create i hash).inflight other = some f at inflight
    obtain rfl | different := eq_or_ne other hash
    · cases (create_inflight_self s i other).symm.trans inflight
      have new := create_futures_self s i other
      refine ⟨Nat.lt_succ_self _, congrArg Future.hash new, congrArg Future.answer new,
        .inl (congrArg Future.state new), toFetch ++ [other], waiting, result, ?_,
        List.mem_append_right _ List.mem_cons_self⟩
      change ((s.create i other).move i _).phases ((s.create i other).futures s.nextFuture).owner = _
      rw [new, move_self]
    · rw [create_inflight_ne s i different] at inflight
      have before := invariant.inflight other f inflight
      have same := create_futures_ne s i hash (old inflight).2
      refine ⟨before.old.trans (Nat.lt_succ_self _), same ▸ before.named, same ▸ before.unanswered,
        same ▸ before.state, ?_⟩
      change ∃ toFetch' waiting' result', ((s.create i hash).move i _).phases
        ((s.create i hash).futures f).owner = .fetching toFetch' waiting' result' ∧ other ∈ toFetch'
      rw [same]
      by_cases own : (s.futures f).owner = i
      · obtain ⟨_, _, _, ⟨⟩, member⟩ := owned other f inflight own
        rw [own]
        exact ⟨_, _, _, move_self _ _ _, List.mem_append_left _ member⟩
      · rw [move_ne _ _ own]
        exact before.fetched

/-- A call comes to a hash that another one fetches. -/
theorem Invariant.join (invariant : Invariant s)
    (at_ : s.phases i = .fetching toFetch waiting result) (inflight : s.inflight hash = some f)
    (live : (s.futures f).isCancelled = false) :
    Invariant (s.move i (.fetching toFetch (waiting ++ [(hash, f)]) result)) := by
  have known := invariant.inflight hash f inflight
  have unset : (s.futures f).state = none := by
    obtain unset | cancelled := known.state
    · exact unset
    · simp [Future.isCancelled, cancelled, Outcome.isCancelled] at live
  have waits : Waits s hash f :=
    ⟨known.old, unset.trans known.unanswered.symm, live, fun _ => inflight⟩
  have mine := invariant.good i
  have owned := invariant.owns i
  rw [at_] at mine owned
  refine invariant.move ⟨?_, ?_, fun waited member => ?_, fun _ => mine.calls trivial, nofun⟩
    fun other g found own => ?_
  · rintro _ _ _ ⟨⟩
    exact mine.nodup _ _ _ rfl
  · rintro _ _ _ ⟨⟩
    exact mine.fetching _ _ _ rfl
  · obtain old | new := List.mem_append.mp member
    · exact mine.waits waited old
    · cases List.mem_singleton.mp new
      exact waits
  · obtain ⟨_, _, _, ⟨⟩, member⟩ := owned other g found own
    exact ⟨_, _, _, rfl, member⟩

/-- No future of these hashes is cancelled. -/
def Joinable (s : State R E) (hashes : List Hash) : Prop :=
  ∀ hash ∈ hashes, ∀ f, s.inflight hash = some f → (s.futures f).isCancelled = false

theorem Joinable.create {hashes : List Hash} (joinable : Joinable s hashes) (i : Nat)
    (hash : Hash) : Joinable (s.create i hash) hashes := by
  intro other member f inflight
  obtain rfl | fresh := eq_or_ne f s.nextFuture
  · rw [create_futures_self]
    rfl
  · obtain rfl | different := eq_or_ne other hash
    · rw [create_inflight_self] at inflight
      exact absurd (Option.some.inj inflight).symm fresh
    · rw [create_inflight_ne s i different] at inflight
      rw [create_futures_ne s i hash fresh]
      exact joinable other member f inflight

theorem claimReachInflight_invariant {result : Dict Hash R} (hashes : List Hash)
    (toFetch : List Hash) (waiting : List (Hash × Nat))
    (invariant : Invariant (s.move i (.fetching toFetch waiting result)))
    (joinable : Joinable s hashes) :
    Invariant (claimReachInflight i result s toFetch waiting hashes) := by
  induction hashes generalizing s toFetch waiting with
  | nil =>
      unfold claimReachInflight
      split
      · exact invariant
      · rename_i none_
        have none_ : toFetch = [] := not_not.mp none_
        subst none_
        have next := awaitNext_invariant invariant
          (.inl (move_self s i (.fetching [] waiting result))) result
        cases waiting with
        | nil => simpa only [awaitNext, move_move] using next
        | cons first rest => simpa only [awaitNext, move_move] using next
  | cons hash rest ih =>
      have later : Joinable s rest := fun other member => joinable other (List.mem_cons_of_mem _ member)
      unfold claimReachInflight
      split
      · rename_i existing inflight
        have live := joinable hash List.mem_cons_self existing inflight
        have joined := invariant.join (move_self s i _) inflight live
        rw [move_move] at joined
        exact ih _ _ joined later
      · rename_i absent
        have created := invariant.create (move_self s i _) absent
        have same : (s.move i (.fetching toFetch waiting result)).create i hash =
            (s.create i hash).move i (.fetching toFetch waiting result) := rfl
        rw [same, move_move] at created
        exact ih _ _ created (later.create i hash)

/-! ### The end of a fetch -/

theorem finish_owner (s : State R E) (hash : Hash) (outcome : Outcome E R) (g : Nat) :
    ((finishReachInflight s hash outcome).futures g).owner = (s.futures g).owner ∧
      ((finishReachInflight s hash outcome).futures g).hash = (s.futures g).hash := by
  unfold finishReachInflight
  split
  · exact ⟨rfl, rfl⟩
  · rename_i f _
    obtain rfl | other := eq_or_ne g f
    · simp only [Function.update_self, Future.finish, and_self]
    · simp only [Function.update_of_ne other, and_self]

theorem finish_phases (s : State R E) (hash : Hash) (outcome : Outcome E R) :
    (finishReachInflight s hash outcome).phases = s.phases := by
  unfold finishReachInflight
  split <;> rfl

theorem finish_move (s : State R E) (hash : Hash) (outcome : Outcome E R) (i : Nat)
    (phase : Phase R E) : finishReachInflight (s.move i phase) hash outcome =
      (finishReachInflight s hash outcome).move i phase := by
  simp only [finishReachInflight, State.move]
  split <;> rfl

/-- One hash of a fetch is finished: its future gets what the fetch came to. -/
theorem Invariant.finish (invariant : Invariant s)
    (at_ : s.phases i = .fetching (hash :: rest) waiting result) (outcome : Outcome E R)
    (waiting' : List (Hash × Nat)) (sub : ∀ waited ∈ waiting', waited ∈ waiting)
    (result' : Dict Hash R)
    (clean : outcome.isCancelled = true → ∀ j, ∀ waited ∈
      ((s.move i (.fetching rest waiting' result')).phases j).waiting,
        (s.futures waited.2).answer = none → (s.futures waited.2).owner ≠ i) :
    Invariant ((finishReachInflight s hash outcome).move i (.fetching rest waiting' result')) := by
  have mine := invariant.good i
  have owned := invariant.owns i
  rw [at_] at mine owned
  obtain ⟨f, inflight, own⟩ := mine.fetching _ _ _ rfl hash List.mem_cons_self
  have known := invariant.inflight hash f inflight
  obtain ⟨absent, nodup⟩ := List.nodup_cons.mp (mine.nodup _ _ _ rfl)
  have finished : finishReachInflight s hash outcome =
      { s with
        inflight := Function.update s.inflight hash none
        futures := Function.update s.futures f ((s.futures f).finish outcome) } := by
    simp only [finishReachInflight, inflight]
  have inflight_ne : ∀ {other : Hash}, other ≠ hash →
      (finishReachInflight s hash outcome).inflight other = s.inflight other := fun different => by
    rw [finished]
    exact Function.update_of_ne different _ _
  have futures_ne : ∀ {g : Nat}, g ≠ f →
      (finishReachInflight s hash outcome).futures g = s.futures g := fun different => by
    rw [finished]
    exact Function.update_of_ne different _ _
  have nextFuture : (finishReachInflight s hash outcome).nextFuture = s.nextFuture := by
    rw [finished]
  have nextCall : (finishReachInflight s hash outcome).nextCall = s.nextCall := by rw [finished]
  have flags : (finishReachInflight s hash outcome).cancelled = s.cancelled := by rw [finished]
  have fetches : ∀ {j : Nat} {others : List Hash}, (∀ other ∈ others, other ≠ hash) →
      (∀ other ∈ others, ∃ g, s.inflight other = some g ∧ (s.futures g).owner = j) →
      ∀ other ∈ others, ∃ g, (finishReachInflight s hash outcome).inflight other = some g ∧
        ((finishReachInflight s hash outcome).futures g).owner = j := by
    intro j others different has other member
    obtain ⟨g, found, owner⟩ := has other member
    exact ⟨g, (inflight_ne (different other member)).trans found,
      (finish_owner s hash outcome g).1.trans owner⟩
  -- What a call relies on stays, unless this is the future, which it then gets its answer from.
  have waits : ∀ {waited : Hash × Nat}, Waits s waited.1 waited.2 →
      (outcome.isCancelled = true → (s.futures waited.2).answer = none →
        (s.futures waited.2).owner ≠ i) →
      Waits (finishReachInflight s hash outcome) waited.1 waited.2 := by
    intro waited before clean
    by_cases same : waited.2 = f
    · have unset : (s.futures f).state = none := by
        rw [← same, before.state, same, known.unanswered]
      have live : outcome.isCancelled = false := by
        by_contra cancelled
        refine clean (eq_true_of_ne_false cancelled) ?_ (same ▸ own)
        rw [same, known.unanswered]
      have set : (finishReachInflight s hash outcome).futures waited.2 =
          (s.futures f).finish outcome := by
        rw [finished, same]
        exact Function.update_self _ _ _
      refine ⟨nextFuture ▸ before.old, ?_, ?_, fun unanswered => ?_⟩
      · rw [set]
        simp only [Future.finish, unset, Option.none_or]
      · rw [set]
        simpa only [Future.isCancelled, Future.finish, unset, Option.none_or, Option.any_some] using live
      · rw [set] at unanswered
        cases unanswered
    · refine ⟨nextFuture ▸ before.old, ?_, ?_, fun unanswered => ?_⟩
      · rw [futures_ne same]
        exact before.state
      · rw [futures_ne same]
        exact before.live
      · rw [futures_ne same] at unanswered
        have found := before.inflight unanswered
        have different : waited.1 ≠ hash := fun eq => by
          rw [eq, inflight] at found
          exact same (Option.some.inj found).symm
        exact (inflight_ne different).trans found
  refine ⟨fun j => ?_, fun other g found => ?_⟩
  · obtain rfl | different := eq_or_ne j i
    · rw [move_self]
      have good : Good (finishReachInflight s hash outcome) j (.fetching rest waiting' result') := by
        refine ⟨?_, ?_, fun waited member => ?_, fun _ => nextCall ▸ mine.calls trivial, nofun⟩
        · rintro _ _ _ ⟨⟩
          exact nodup
        · rintro _ _ _ ⟨⟩
          exact fetches (fun other member eq => absent (eq ▸ member)) fun other member =>
            mine.fetching _ _ _ rfl other (List.mem_cons_of_mem _ member)
        · refine waits (mine.waits waited (sub waited member)) fun cancelled => ?_
          exact clean cancelled j waited (by rwa [move_self])
      exact good.move j _
    · rw [move_ne _ _ different, finish_phases]
      have theirs := invariant.good j
      refine Good.move ⟨theirs.nodup, fun others waiting₀ result₀ phase => ?_, fun waited member => ?_,
        nextCall ▸ theirs.calls, flags ▸ theirs.cancelled⟩ i _
      · have has := theirs.fetching others waiting₀ result₀ phase
        refine fetches (fun other member eq => ?_) has
        obtain ⟨g, found, owner⟩ := has other member
        rw [eq, inflight] at found
        cases found
        exact different (owner.symm.trans own)
      · refine waits (theirs.waits waited member) fun cancelled => ?_
        exact clean cancelled j waited (by rwa [move_ne _ _ different])
  · change (finishReachInflight s hash outcome).inflight other = some g at found
    have different : other ≠ hash := fun eq => by
      rw [eq, finished] at found
      simp at found
    rw [inflight_ne different] at found
    have before := invariant.inflight other g found
    have distinct : g ≠ f := fun eq => by
      subst eq
      exact different (before.named.symm.trans known.named)
    have same := futures_ne distinct
    refine ⟨nextFuture ▸ before.old, same ▸ before.named, same ▸ before.unanswered,
      same ▸ before.state, ?_⟩
    change ∃ toFetch' waiting₁ result₁, ((finishReachInflight s hash outcome).move i _).phases
      ((finishReachInflight s hash outcome).futures g).owner = .fetching toFetch' waiting₁ result₁ ∧
        other ∈ toFetch'
    rw [same]
    by_cases theirs : (s.futures g).owner = i
    · obtain ⟨_, _, _, ⟨⟩, member⟩ := owned other g found theirs
      rw [theirs]
      exact ⟨_, _, _, move_self _ _ _, (List.mem_cons.mp member).resolve_left different⟩
    · rw [move_ne _ _ theirs, finish_phases]
      exact before.fetched

theorem finishFetched_invariant (answers : Hash → Option R) (toFetch : List Hash)
    (result : Dict Hash R) (invariant : Invariant (s.move i (.fetching toFetch waiting result))) :
    Invariant (finishFetched empty i answers waiting s result toFetch) := by
  induction toFetch generalizing s result with
  | nil =>
      have next := awaitNext_invariant invariant
        (.inl (move_self s i (.fetching [] waiting result))) result
      unfold finishFetched
      cases waiting with
      | nil => simpa only [awaitNext, move_move] using next
      | cons first rest => simpa only [awaitNext, move_move] using next
  | cons hash rest ih =>
      have finished := invariant.finish (move_self s i _)
        (.returned ((answers hash).getD empty)) waiting (fun _ member => member)
        (result.set hash ((answers hash).getD empty)) nofun
      rw [finish_move, move_move] at finished
      unfold finishFetched
      exact ih _ finished

/-- No other call waits for an answer from this one. -/
def Alone (s : State R E) (i : Nat) : Prop :=
  ∀ j, j ≠ i → ∀ waited ∈ (s.phases j).waiting,
    (s.futures waited.2).answer = none → (s.futures waited.2).owner ≠ i

theorem Alone.finish (alone : Alone s i) (hash : Hash) (outcome : Outcome E R) :
    Alone (finishReachInflight s hash outcome) i := by
  intro j other waited member unanswered
  rw [finish_phases] at member
  rw [(finish_owner s hash outcome waited.2).1]
  refine alone j other waited member ?_
  unfold finishReachInflight at unanswered
  split at unanswered
  · exact unanswered
  · rename_i f _
    by_cases same : waited.2 = f
    · simp [same, Future.finish] at unanswered
    · simpa only [Function.update_of_ne same] using unanswered

theorem finishFailed_phases (outcome : Outcome E R) (s : State R E) (toFetch : List Hash) :
    (finishFailed outcome s toFetch).phases = s.phases := by
  induction toFetch generalizing s with
  | nil => rfl
  | cons hash rest ih => exact (ih _).trans (finish_phases s hash outcome)

theorem finishFailed_invariant (outcome : Outcome E R) {result : Dict Hash R}
    (toFetch : List Hash) (invariant : Invariant (s.move i (.fetching toFetch [] result)))
    (alone : outcome.isCancelled = true → Alone s i) :
    Invariant ((finishFailed outcome s toFetch).move i (.fetching [] [] result)) := by
  induction toFetch generalizing s with
  | nil => exact invariant
  | cons hash rest ih =>
      have finished := invariant.finish (move_self s i _) outcome [] (fun _ member => member)
        result fun cancelled j waited member => by
          rw [move_move] at member
          obtain rfl | other := eq_or_ne j i
          · rw [move_self] at member
            cases member
          · rw [move_ne _ _ other] at member
            exact alone cancelled j other waited member
      rw [finish_move, move_move] at finished
      exact ih finished fun cancelled => (alone cancelled).finish hash outcome

/-! ### Steps -/

theorem move_same {phase : Phase R E} (at_ : s.phases i = phase) : s.move i phase = s := by
  simp only [State.move, ← at_, Function.update_eq_self]

theorem Invariant.cancel (invariant : Invariant s) (i : Nat) : Invariant (s.cancel i) := by
  refine ⟨fun j => ?_, fun hash f found => ?_⟩
  · have good := invariant.good j
    refine ⟨good.nodup, good.fetching, fun waited member => ?_, good.calls, fun ended => ?_⟩
    · have waits := good.waits waited member
      exact ⟨waits.old, waits.state, waits.live, waits.inflight⟩
    · obtain rfl | other := eq_or_ne j i
      · exact Function.update_self _ _ _
      · exact (Function.update_of_ne other _ _).trans (good.cancelled ended)
  · have inflight := invariant.inflight hash f found
    exact ⟨inflight.old, inflight.named, inflight.unanswered, inflight.state, inflight.fetched⟩

theorem cancelFuture_ne (s : State R E) {f g : Nat} (other : g ≠ f) :
    (s.cancelFuture f).futures g = s.futures g := Function.update_of_ne other _ _

theorem cancelFuture_self (s : State R E) (f : Nat) : (s.cancelFuture f).futures f =
    { s.futures f with state := (s.futures f).state.or (some .cancelled) } :=
  Function.update_self _ _ _

theorem cancelFuture_owner (s : State R E) (f g : Nat) :
    ((s.cancelFuture f).futures g).owner = (s.futures g).owner := by
  obtain rfl | different := eq_or_ne g f
  · rw [cancelFuture_self]
  · rw [cancelFuture_ne s different]

/-- A future that no call waits for, or that is done, may be cancelled. -/
theorem Invariant.cancelFuture (invariant : Invariant s)
    (alone : (s.futures f).state = none → ∀ j, ∀ waited ∈ (s.phases j).waiting, waited.2 ≠ f) :
    Invariant (s.cancelFuture f) := by
  refine ⟨fun j => ?_, fun hash g found => ?_⟩
  · have good := invariant.good j
    refine ⟨good.nodup, fun toFetch waiting result phase hash member => ?_,
      fun waited member => ?_, good.calls, good.cancelled⟩
    · obtain ⟨g, found, own⟩ := good.fetching toFetch waiting result phase hash member
      exact ⟨g, found, (cancelFuture_owner s f g).trans own⟩
    · have waits := good.waits waited member
      have same : (s.cancelFuture f).futures waited.2 = s.futures waited.2 := by
        by_cases eq : waited.2 = f
        · rw [eq, cancelFuture_self]
          cases set : (s.futures f).state with
          | none => exact absurd eq (alone set j waited member)
          | some outcome => rw [Option.some_or, ← set]
        · exact cancelFuture_ne s eq
      exact ⟨waits.old, same ▸ waits.state, same ▸ waits.live, same ▸ waits.inflight⟩
  · have inflight := invariant.inflight hash g found
    have fetched : ∃ toFetch waiting result, s.phases ((s.cancelFuture f).futures g).owner =
        .fetching toFetch waiting result ∧ hash ∈ toFetch := by
      rw [cancelFuture_owner]
      exact inflight.fetched
    by_cases eq : g = f
    · subst eq
      have now := cancelFuture_self s g
      refine ⟨inflight.old, (congrArg Future.hash now).trans inflight.named,
        (congrArg Future.answer now).trans inflight.unanswered,
        .inr ((congrArg Future.state now).trans ?_), fetched⟩
      obtain unset | set := inflight.state
      · simp only [unset, Option.none_or]
      · simp only [set, Option.some_or]
    · have same := cancelFuture_ne s eq
      exact ⟨inflight.old, same ▸ inflight.named, same ▸ inflight.unanswered,
        same ▸ inflight.state, fetched⟩

/-- A call whose fetch fails waits for nothing any more. -/
theorem Invariant.drop (invariant : Invariant s)
    (at_ : s.phases i = .fetching toFetch waiting result) :
    Invariant (s.move i (.fetching toFetch [] result)) := by
  have mine := invariant.good i
  have owned := invariant.owns i
  rw [at_] at mine owned
  refine invariant.move ⟨?_, ?_, nofun, fun _ => mine.calls trivial, nofun⟩
    fun other g found own => ?_
  · rintro _ _ _ ⟨⟩
    exact mine.nodup _ _ _ rfl
  · rintro _ _ _ ⟨⟩
    exact mine.fetching _ _ _ rfl
  · obtain ⟨_, _, _, ⟨⟩, member⟩ := owned other g found own
    exact ⟨_, _, _, rfl, member⟩

theorem Phase.running_of_waiting {phase : Phase R E} {waited : Hash × Nat}
    (member : waited ∈ phase.waiting) : phase.Running := by
  cases phase with
  | idle => cases member
  | fetching => trivial
  | awaiting => trivial
  | ended => cases member

theorem Invariant.begin_ (invariant : Invariant s) (result : Dict Hash R) :
    Invariant ({ s with nextCall := s.nextCall + 1 }.move s.nextCall (.fetching [] [] result)) := by
  have later : Invariant { s with nextCall := s.nextCall + 1 } := by
    refine ⟨fun j => ?_, fun hash f found => ?_⟩
    · have good := invariant.good j
      refine ⟨good.nodup, good.fetching, fun waited member => ?_,
        fun running => (good.calls running).trans (Nat.lt_succ_self _), good.cancelled⟩
      have waits := good.waits waited member
      exact ⟨waits.old, waits.state, waits.live, waits.inflight⟩
    · have inflight := invariant.inflight hash f found
      exact ⟨inflight.old, inflight.named, inflight.unanswered, inflight.state, inflight.fetched⟩
  refine later.move ⟨?_, ?_, nofun, fun _ => Nat.lt_succ_self _, nofun⟩ fun hash f found own => ?_
  · rintro _ _ _ ⟨⟩
    exact List.nodup_nil
  · rintro _ _ _ ⟨⟩
    nofun
  · obtain ⟨toFetch, waiting, result', phase, -⟩ := invariant.owns s.nextCall hash f found own
    have running : (s.phases s.nextCall).Running := phase ▸ trivial
    exact absurd ((invariant.good _).calls running) (Nat.lt_irrefl _)

theorem step_invariant (invariant : Invariant s) {event : Event R E} (guarded : Guarded s event)
    (stepped : step empty s event = some t) : Invariant t := by
  cases event with
  | call hashes cached =>
      cases stepped
      refine claimReachInflight_invariant _ _ _ (invariant.begin_ _) fun hash member f found => ?_
      have live := guarded hash member
      have found : s.inflight hash = some f := found
      simpa only [found, Option.all_some, Bool.not_eq_true'] using live
  | fetched i answers =>
      simp only [step] at stepped
      split at stepped
      · rename_i toFetch waiting result at_
        cases stepped
        exact finishFetched_invariant answers toFetch result (by rwa [move_same at_])
      · cases stepped
  | fetchRaised i error =>
      simp only [step] at stepped
      split at stepped
      · rename_i toFetch waiting result at_
        cases stepped
        have finished := finishFailed_invariant (.raised error) toFetch (invariant.drop at_) nofun
        have left := finished.leave (.inl (move_self _ i _)) (.ended (.raised error)) nofun nofun nofun
        rwa [move_move] at left
      · cases stepped
  | fetchCancelled i =>
      simp only [step] at stepped
      split at stepped
      · rename_i toFetch waiting result at_
        cases stepped
        have alone : Alone s i := by
          intro j other waited member unanswered
          have waits := (invariant.good j).waits waited member
          have running := (invariant.good j).calls (Phase.running_of_waiting member)
          refine guarded j running other waited member ?_
          rw [Future.pending, waits.state, unanswered]
          rfl
        have finished := (finishFailed_invariant .cancelled toFetch (invariant.drop at_)
          fun _ => alone).cancel i
        have left := finished.leave (.inl (move_self _ i _)) (.ended .cancelled) nofun nofun
          fun _ => Function.update_self _ _ _
        have same : ∀ (u : State R E) (phase : Phase R E),
            (u.move i phase).cancel i = (u.cancel i).move i phase := fun _ _ => rfl
        rwa [same, move_move] at left
      · cases stepped
  | resume i =>
      simp only [step] at stepped
      split at stepped
      · rename_i hash f rest result at_
        have live := ((invariant.good i).waits (hash, f) (by rw [at_]; exact List.mem_cons_self)).live
        split at stepped
        · cases stepped
          exact awaitNext_invariant invariant (.inr ⟨_, at_⟩) _
        · cases stepped
          exact invariant.leave (.inr ⟨_, at_⟩) _ nofun nofun nofun
        · rename_i cancelled
          simp [Future.isCancelled, cancelled, Outcome.isCancelled] at live
        · cases stepped
      · cases stepped
  | waitCancelled i =>
      simp only [step] at stepped
      split at stepped
      · rename_i hash f rest result at_
        cases stepped
        have left := (invariant.cancel i).leave (.inr ⟨_, at_⟩) (.ended .cancelled) nofun nofun
          fun _ => Function.update_self _ _ _
        refine left.cancelFuture fun unset j waited member => ?_
        obtain rfl | other := eq_or_ne j i
        · rw [move_self] at member
          cases member
        · rw [move_ne _ _ other] at member
          have running := (invariant.good j).calls (Phase.running_of_waiting member)
          have pending : (s.futures f).pending = true := by
            rw [Future.pending, show (s.futures f).state = none from unset]
            rfl
          simp only [Guarded, at_, Phase.waiting, List.head?_cons] at guarded
          exact guarded (hash, f) rfl pending j running other waited member
      · cases stepped

/-! ### Every call ends -/

/-- The awaits that are left of a call. -/
def Phase.left : Phase R E → Nat
  | .fetching _ waiting _ => waiting.length + 1
  | .awaiting _ rest _ => rest.length + 1
  | _ => 0

def work (s : State R E) : Nat := ∑ i ∈ Finset.range s.nextCall, (s.phases i).left

theorem work_lt {phase : Phase R E} (invariant : Invariant s) (running : (s.phases i).Running)
    (phases : t.phases = Function.update s.phases i phase) (calls : t.nextCall = s.nextCall)
    (less : phase.left < (s.phases i).left) : work t < work s := by
  have known := (invariant.good i).calls running
  unfold work
  rw [calls, phases]
  refine Finset.sum_lt_sum (fun j _ => ?_) ⟨i, Finset.mem_range.mpr known, ?_⟩
  · obtain rfl | other := eq_or_ne j i
    · rw [Function.update_self]
      exact less.le
    · rw [Function.update_of_ne other]
  · rwa [Function.update_self]

theorem awaitNext_phases (s : State R E) (i : Nat) (result : Dict Hash R)
    (waiting : List (Hash × Nat)) : ∃ phase, awaitNext s i result waiting = s.move i phase ∧
      phase.left = waiting.length := by
  cases waiting with
  | nil => exact ⟨_, rfl, rfl⟩
  | cons first rest => exact ⟨_, rfl, rfl⟩

theorem finish_nextCall (s : State R E) (hash : Hash) (outcome : Outcome E R) :
    (finishReachInflight s hash outcome).nextCall = s.nextCall := by
  unfold finishReachInflight
  split <;> rfl

theorem finishFetched_phases (answers : Hash → Option R) (waiting : List (Hash × Nat))
    (toFetch : List Hash) (result : Dict Hash R) :
    ∃ phase, (finishFetched empty i answers waiting s result toFetch).phases =
      Function.update s.phases i phase ∧ phase.left = waiting.length ∧
        (finishFetched empty i answers waiting s result toFetch).nextCall = s.nextCall := by
  induction toFetch generalizing s result with
  | nil =>
      obtain ⟨phase, moved, left⟩ := awaitNext_phases s i result waiting
      unfold finishFetched
      rw [moved]
      exact ⟨phase, rfl, left, rfl⟩
  | cons hash rest ih =>
      obtain ⟨phase, phases, left, calls⟩ := ih _
      unfold finishFetched
      exact ⟨phase, phases.trans (by rw [finish_phases]), left, calls.trans (finish_nextCall _ _ _)⟩

theorem finishFailed_nextCall (outcome : Outcome E R) (s : State R E) (toFetch : List Hash) :
    (finishFailed outcome s toFetch).nextCall = s.nextCall := by
  induction toFetch generalizing s with
  | nil => rfl
  | cons hash rest ih => exact (ih _).trans (finish_nextCall s hash outcome)

def Event.isCall : Event R E → Bool
  | .call _ _ => true
  | _ => false

/-- Every step but a new call takes an await off a call. -/
theorem step_work (invariant : Invariant s) {event : Event R E} (old : event.isCall = false)
    (stepped : step empty s event = some t) : work t < work s := by
  cases event with
  | call => cases old
  | fetched i answers =>
      simp only [step] at stepped
      split at stepped
      · rename_i toFetch waiting result at_
        cases stepped
        obtain ⟨phase, phases, left, calls⟩ := finishFetched_phases answers waiting toFetch result
        refine work_lt invariant (at_ ▸ trivial) phases calls ?_
        rw [at_, left]
        exact Nat.lt_succ_self _
      · cases stepped
  | fetchRaised i error =>
      simp only [step] at stepped
      split at stepped
      · rename_i toFetch waiting result at_
        cases stepped
        have phases := congrArg (Function.update · i (.ended (.raised error)))
          (finishFailed_phases (.raised error) s toFetch)
        refine work_lt invariant (at_ ▸ trivial) phases (finishFailed_nextCall _ _ _) ?_
        rw [at_]
        exact Nat.succ_pos _
      · cases stepped
  | fetchCancelled i =>
      simp only [step] at stepped
      split at stepped
      · rename_i toFetch waiting result at_
        cases stepped
        have phases := congrArg (Function.update · i (.ended .cancelled))
          (finishFailed_phases .cancelled s toFetch)
        refine work_lt invariant (at_ ▸ trivial) phases (finishFailed_nextCall _ _ _) ?_
        rw [at_]
        exact Nat.succ_pos _
      · cases stepped
  | resume i =>
      simp only [step] at stepped
      split at stepped
      · rename_i hash f rest result at_
        have ends : ∀ phase : Phase R E, phase.left ≤ rest.length → work (s.move i phase) < work s := by
          intro phase less
          refine work_lt invariant (at_ ▸ trivial) rfl rfl ?_
          rw [at_]
          exact Nat.lt_succ_of_le less
        split at stepped
        · rename_i reach _
          cases stepped
          obtain ⟨phase, moved, left⟩ := awaitNext_phases s i (result.set hash reach) rest
          rw [moved]
          exact ends phase left.le
        · cases stepped
          exact ends _ (Nat.zero_le _)
        · cases stepped
          exact ends _ (Nat.zero_le _)
        · cases stepped
      · cases stepped
  | waitCancelled i =>
      simp only [step] at stepped
      split at stepped
      · rename_i hash f rest result at_
        cases stepped
        refine work_lt invariant (at_ ▸ trivial) rfl rfl ?_
        rw [at_]
        exact Nat.succ_pos _
      · cases stepped

/-- When no step is left, no call runs: one that waits for a future that is not done waits for a
fetch. -/
theorem stuck_ended (invariant : Invariant s)
    (stuck : ∀ event : Event R E, event.isCall = false → step empty s event = none) (i : Nat) :
    ¬ (s.phases i).Running := by
  have notFetching : ∀ j toFetch waiting result,
      s.phases j ≠ .fetching toFetch waiting result := by
    intro j toFetch waiting result at_
    have none_ := stuck (.fetched j fun _ => none) rfl
    simp [step, at_] at none_
  intro running
  cases at_ : s.phases i with
  | idle => simp [at_, Phase.Running] at running
  | ended outcome => simp [at_, Phase.Running] at running
  | fetching toFetch waiting result => exact notFetching i toFetch waiting result at_
  | awaiting first rest result =>
      obtain ⟨hash, f⟩ := first
      have waits := (invariant.good i).waits (hash, f) (by rw [at_]; exact List.mem_cons_self)
      have none_ := stuck (.resume i) rfl
      cases set : (s.futures f).state with
      | some outcome => cases outcome <;> simp [step, at_, set] at none_
      | none =>
          have inflight := waits.inflight (waits.state.symm.trans set)
          obtain ⟨toFetch, waiting', result', fetches, -⟩ :=
            (invariant.inflight hash f inflight).fetched
          exact notFetching _ _ _ _ fetches

/-- The hashes that a call fetches. -/
def Phase.fetches : Phase R E → List Hash
  | .fetching toFetch _ _ => toFetch
  | _ => []

structure Safe (empty : R) (s : State R E) : Prop where
  oneFetch : ∀ i j, ∀ hash ∈ (s.phases i).fetches, hash ∈ (s.phases j).fetches → i = j
  /-- What a call waits for is what the fetch comes to, and no cancellation. -/
  unaffected : ∀ i, ∀ waited ∈ (s.phases i).waiting,
    (s.futures waited.2).state = (s.futures waited.2).answer ∧
      (s.futures waited.2).isCancelled = false
  notCancelled : ∀ i, s.phases i = .ended .cancelled → s.cancelled i = true
  cleared : (∀ i, ¬ (s.phases i).Running) → ∀ hash, s.inflight hash = none
  /-- Without new calls there are so many steps at most, and there is one while a call runs. -/
  bounded : ∀ event t, event.isCall = false → step empty s event = some t → work t < work s
  ends : (∀ event : Event R E, event.isCall = false → step empty s event = none) →
    ∀ i, ¬ (s.phases i).Running

theorem Invariant.safe (invariant : Invariant s) : Safe empty s := by
  have fetching : ∀ i, ∀ hash ∈ (s.phases i).fetches, ∃ f, s.inflight hash = some f ∧
      (s.futures f).owner = i := by
    intro i hash member
    have good := invariant.good i
    cases at_ : s.phases i with
    | fetching toFetch waiting result =>
        rw [at_] at member
        exact good.fetching _ _ _ at_ hash member
    | _ => simp [at_, Phase.fetches] at member
  refine ⟨fun i j hash first second => ?_, fun i waited member => ?_,
    fun i => (invariant.good i).cancelled, fun none_ hash => ?_,
    fun event t => step_work invariant, stuck_ended invariant⟩
  · obtain ⟨f, found, owner⟩ := fetching i hash first
    obtain ⟨g, again, owner'⟩ := fetching j hash second
    cases found.symm.trans again
    exact owner.symm.trans owner'
  · have waits := (invariant.good i).waits waited member
    exact ⟨waits.state, waits.live⟩
  · by_contra present
    obtain ⟨f, found⟩ := Option.ne_none_iff_exists'.mp present
    obtain ⟨toFetch, waiting, result, at_, -⟩ := (invariant.inflight hash f found).fetched
    refine none_ (s.futures f).owner ?_
    rw [at_]
    trivial

/-- Calls that are only cancelled while they have no fetch and no future in common with another
call are coalesced safely. -/
theorem requests_coalesced (run : Reaches (step empty) Guarded (start : State R E) s) :
    Safe empty s := by
  refine (run.invariant (P := Invariant)
    (fun invariant guarded stepped => step_invariant invariant guarded stepped) ?_).safe
  exact ⟨fun _ => ⟨nofun, nofun, nofun, False.elim, nofun⟩, nofun⟩

instance (event : Event R E) : Decidable (Guarded s event) := by
  unfold Guarded
  split <;> infer_instance

section Examples

/-- Two calls for one hash; a third one is cancelled. -/
def sharedFetch : List (Event Nat Unit) :=
  [.call ["h"] fun _ => none, .call ["h", "h"] fun _ => none, .call ["k"] fun _ => none,
    .fetchCancelled 2, .fetched 0 fun _ => some 7, .resume 1]

theorem sharedFetch_safe : ∃ s : State Nat Unit, s.cancelled 2 = true ∧ Safe 0 s := by
  have ran : (executeWhere (step 0) Guarded (start : State Nat Unit) sharedFetch).any
      (fun s => s.cancelled 2) = true := by
    decide +kernel
  obtain ⟨s, executed, cancelled⟩ := (Option.any_eq_true _ _).mp ran
  exact ⟨s, cancelled, requests_coalesced (executeWhere_reaches executed)⟩

def Phase.endedCancelled : Phase R E → Bool
  | .ended .cancelled => true
  | _ => false

/-- Three calls for one hash. -/
def threeCalls : List (Event Nat Unit) :=
  [.call ["h"] fun _ => none, .call ["h"] fun _ => none, .call ["h"] fun _ => none]

/-- A call that shares a fetch is cancelled, be it the one that fetches or one that waits, and
another one ends with a cancellation. -/
theorem cancellation_spreads :
    (∃ s : State Nat Unit, execute (step 0) start (threeCalls ++ [.fetchCancelled 0, .resume 2]) =
      some s ∧ ¬ Safe 0 s) ∧
    ∃ s : State Nat Unit, execute (step 0) start (threeCalls ++ [.waitCancelled 1, .resume 2]) =
      some s ∧ ¬ Safe 0 s := by
  have spreads : ∀ events : List (Event Nat Unit), (execute (step 0) start events).any
      (fun s => (s.phases 2).endedCancelled && !s.cancelled 2) = true →
      ∃ s : State Nat Unit, execute (step 0) start events = some s ∧ ¬ Safe 0 s := by
    intro events ran
    obtain ⟨s, executed, holds⟩ := (Option.any_eq_true _ _).mp ran
    refine ⟨s, executed, fun safe => ?_⟩
    obtain ⟨ended, notCancelled⟩ := Bool.and_eq_true_iff.mp holds
    have cancelled : s.cancelled 2 = true := by
      refine safe.notCancelled 2 ?_
      unfold Phase.endedCancelled at ended
      split at ended
      · assumption
      · cases ended
    simp [cancelled] at notCancelled
  exact ⟨spreads _ (by decide +kernel), spreads _ (by decide +kernel)⟩

end Examples

end Meshloom.ObserverReach
