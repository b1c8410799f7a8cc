import Meshloom.Send.OutgoingTimestamp

/-! Sends that store a message carry different timestamps. Allocation runs under
the radio lock, so while one send searches no other becomes a holder of a
timestamp; and a holder gives its reservation back only when its row is stored,
so the search meets either the reservation or the row. -/
namespace Meshloom.OutgoingTimestamp
open Transition
variable {s t : State} {store : Store} {r : Reservations}

namespace Reservations

theorem contains_add (r : Reservations) (key other : Key) (timestamp time : Int) :
    (r.add key timestamp).contains other time = true ↔
      (other = key ∧ time = timestamp) ∨ r.contains other time = true := by
  unfold contains add
  rcases eq_or_ne other key with rfl | different
  · simp
  · simp [different]

theorem contains_release (r : Reservations) (key other : Key) (timestamp time : Int) :
    (r.release key timestamp).contains other time = true ↔
      ¬ (other = key ∧ time = timestamp) ∧ r.contains other time = true := by
  unfold contains release
  by_cases same : other = key
  · subst same
    cases found : r.get? other with
    | none => simp [found]
    | some reserved =>
        simp only
        split
        · rename_i empty
          simp [found, empty]
        split
        · rename_i last
          have only : ∀ time ∈ reserved, time = timestamp := by
            intro time member
            by_contra another
            have left : time ∈ reserved.erase timestamp := Finset.mem_erase.mpr ⟨another, member⟩
            rw [last] at left
            exact Finset.notMem_empty _ left
          simp only [Dict.get?_pop, found]
          simpa using mt (only time)
        · simp
  · cases r.get? key with
    | none => simp [same]
    | some reserved =>
        simp only
        split_ifs <;> simp [same]

/-- The table keeps no empty set. -/
def Tidy (r : Reservations) : Prop := ∀ key reserved, r.get? key = some reserved → reserved ≠ ∅

theorem tidy_add (tidy : r.Tidy) (key : Key) (timestamp : Int) : (r.add key timestamp).Tidy := by
  intro other reserved found
  simp only [add, Dict.get?_set] at found
  split at found
  · cases found
    exact Finset.insert_ne_empty _ _
  · exact tidy other reserved found

theorem tidy_release (tidy : r.Tidy) (key : Key) (timestamp : Int) :
    (r.release key timestamp).Tidy := by
  unfold release
  split
  · exact tidy
  split
  · exact tidy
  split
  · intro other reserved found
    rw [Dict.get?_pop] at found
    split at found
    · contradiction
    · exact tidy other reserved found
  · rename_i left
    intro other reserved found
    rw [Dict.get?_set] at found
    split at found
    · cases found
      exact left
    · exact tidy other reserved found

end Reservations

namespace Phase

/-- The phases under the radio lock. -/
def locked : Phase → Bool
  | entered | checking _ | querying _ | answered _ _ | allocated _ | written _ _ => true
  | _ => false

/-- The timestamp a send has reserved. -/
def holding : Phase → Option Int
  | allocated time | written time _ | unlocked time | failing time _ | releasing time _ => some time
  | _ => none

/-- The row a send has stored, with its timestamp. -/
def stored : Phase → Option (Int × Nat)
  | written time row | failing time row | releasing time (some row) => some (time, row)
  | finished stored => stored
  | _ => none

/-- The timestamp that no other send may take: reserved, or stored for good. -/
def claim : Phase → Option Int
  | finished stored => stored.map Prod.fst
  | phase => phase.holding

def candidate : Phase → Option Int
  | checking time | querying time | answered time _ => some time
  | _ => none

/-- The candidate that passed the first look at the reservations. -/
def unreserved : Phase → Option Int
  | querying time | answered time _ => some time
  | _ => none

/-- The candidate that the store does not know either. -/
def free : Phase → Option Int
  | answered time false => some time
  | _ => none

theorem claim_of_holding {phase : Phase} (holds : phase.holding = some time) :
    phase.claim = some time := by
  cases phase <;> first | exact holds | contradiction

theorem claim_cases {phase : Phase} (claims : phase.claim = some time) :
    phase.holding = some time ∨ ∃ row, phase.stored = some (time, row) := by
  cases phase with
  | finished stored =>
      obtain ⟨⟨_, row⟩, same, rfl⟩ := Option.map_eq_some_iff.mp claims
      exact .inr ⟨row, same⟩
  | _ => exact .inl claims

theorem claim_of_stored {phase : Phase} (keeps : phase.stored = some (time, row)) :
    phase.claim = some time := by
  cases phase with
  | releasing _ other => cases other <;> simp_all [stored, claim, holding]
  | _ => simp_all [stored, claim, holding]

theorem locked_of_unreserved {phase : Phase} (looked : phase.unreserved = some time) :
    phase.locked = true := by
  cases phase <;> first | rfl | contradiction

theorem unreserved_of_free {phase : Phase} (unknown : phase.free = some time) :
    phase.unreserved = some time := by
  cases phase with
  | answered _ existing => cases existing <;> simp_all [free, unreserved]
  | _ => contradiction

end Phase

/-- A row of the store with a send's content and the given timestamp. -/
def Store.Has (store : Store) (key : Key) (time : Int) (row : Nat) : Prop :=
  ∃ found ∈ store.rows, found.id = row ∧ found.key = key ∧ found.senderTimestamp = some time

structure Store.Valid (store : Store) : Prop where
  ids : ∀ row ∈ store.rows, row.id < store.nextId
  nodup : (store.rows.map (·.id)).Nodup

structure Invariant (s : State) : Prop where
  valid : s.store.Valid
  tidy : s.reservations.Tidy
  lock : ∀ i, (s.sends i).phase.locked = true → s.radioLock = some i
  reserved : ∀ key time, s.reservations.contains key time = true ↔
    ∃ i, (s.sends i).key = key ∧ (s.sends i).phase.holding = some time
  distinct : ∀ i j time, (s.sends i).key = (s.sends j).key →
    (s.sends i).phase.claim = some time → (s.sends j).phase.claim = some time → i = j
  rows : ∀ i time row, (s.sends i).phase.stored = some (time, row) →
    s.store.Has (s.sends i).key time row
  later : ∀ i time, (s.sends i).phase.candidate = some time ∨ (s.sends i).phase.claim = some time →
    (s.sends i).requestedTimestamp ≤ time
  unreserved : ∀ i time, (s.sends i).phase.unreserved = some time →
    ∀ j, (s.sends j).key = (s.sends i).key → (s.sends j).phase.holding ≠ some time
  free : ∀ i time, (s.sends i).phase.free = some time →
    ∀ j, (s.sends j).key = (s.sends i).key → (s.sends j).phase.claim ≠ some time

theorem initial_invariant (initial : Initial s) : Invariant s := by
  obtain ⟨_, empty, ids, nodup, idle⟩ := initial
  constructor
  · exact ⟨ids, nodup⟩
  · simp [empty, Reservations.Tidy]
  all_goals simp [idle, empty, Reservations.contains, Phase.locked, Phase.holding, Phase.claim,
    Phase.stored, Phase.candidate, Phase.unreserved, Phase.free]

namespace State

@[simp]
theorem move_key (s : State) (i j : Nat) (q : Phase) : ((s.move i q).sends j).key = (s.sends j).key := by
  rcases eq_or_ne j i with rfl | different
  · simp [move]
  · simp [move, different]

@[simp]
theorem move_requested (s : State) (i j : Nat) (q : Phase) :
    ((s.move i q).sends j).requestedTimestamp = (s.sends j).requestedTimestamp := by
  rcases eq_or_ne j i with rfl | different
  · simp [move]
  · simp [move, different]

@[simp]
theorem move_self (s : State) (i : Nat) (q : Phase) : ((s.move i q).sends i).phase = q := by
  simp [move]

theorem move_other (s : State) (q : Phase) (different : j ≠ i) :
    ((s.move i q).sends j).phase = (s.sends j).phase := by
  simp [move, different]

/-- A view of the phase that the move keeps is kept for every send. -/
theorem move_view (s : State) {q : Phase} (view : Phase → α) (same : view q = view (s.sends i).phase)
    (j : Nat) : view ((s.move i q).sends j).phase = view (s.sends j).phase := by
  rcases eq_or_ne j i with rfl | different
  · rw [move_self, same]
  · rw [move_other s q different]

end State

/-- What a step may do that neither makes nor drops a claim: one send moves on,
the lock changes hands, and the store changes but keeps the rows of the others. -/
structure Moves (s : State) (i : Nat) (q : Phase) (lock : Option Nat) (store : Store) : Prop where
  valid : store.Valid
  kept : ∀ j, j ≠ i → ∀ time row, (s.sends j).phase.stored = some (time, row) →
    store.Has (s.sends j).key time row
  lockSelf : q.locked = true → lock = some i
  lockOthers : ∀ j, j ≠ i → (s.sends j).phase.locked = true → lock = some j
  holding : q.holding = (s.sends i).phase.holding
  claim : q.claim = (s.sends i).phase.claim
  stored : ∀ time row, q.stored = some (time, row) → store.Has (s.sends i).key time row
  later : ∀ time, q.candidate = some time → (s.sends i).requestedTimestamp ≤ time
  unreserved : ∀ time, q.unreserved = some time →
    ∀ j, (s.sends j).key = (s.sends i).key → (s.sends j).phase.holding ≠ some time
  free : ∀ time, q.free = some time →
    ∀ j, (s.sends j).key = (s.sends i).key → (s.sends j).phase.claim ≠ some time

theorem moves_invariant (invariant : Invariant s) (moves : Moves s i q lock store) :
    Invariant ({ s with radioLock := lock, store }.move i q) := by
  have holding := State.move_view { s with radioLock := lock, store } Phase.holding moves.holding
  have claim := State.move_view { s with radioLock := lock, store } Phase.claim moves.claim
  constructor
  · exact moves.valid
  · exact invariant.tidy
  · intro j locked
    rcases eq_or_ne j i with rfl | different
    · exact moves.lockSelf (by simpa using locked)
    · rw [State.move_other _ _ different] at locked
      exact moves.lockOthers j different locked
  · intro key time
    simp only [State.move_key, holding]
    exact invariant.reserved key time
  · intro j k time
    simp only [State.move_key, claim]
    exact invariant.distinct j k time
  · intro j time row stored
    rw [State.move_key]
    rcases eq_or_ne j i with rfl | different
    · exact moves.stored time row (by simpa using stored)
    · rw [State.move_other _ _ different] at stored
      exact moves.kept j different time row stored
  · intro j time
    rw [State.move_requested, claim]
    rcases eq_or_ne j i with rfl | different
    · rw [State.move_self]
      rintro (candidate | claimed)
      · exact moves.later time candidate
      · exact invariant.later j time (.inr claimed)
    · rw [State.move_other _ _ different]
      exact invariant.later j time
  · intro j time looked k
    rw [State.move_key, State.move_key, holding]
    rcases eq_or_ne j i with rfl | different
    · exact moves.unreserved time (by simpa using looked) k
    · rw [State.move_other _ _ different] at looked
      exact invariant.unreserved j time looked k
  · intro j time unknown k
    rw [State.move_key, State.move_key, claim]
    rcases eq_or_ne j i with rfl | different
    · exact moves.free time (by simpa using unknown) k
    · rw [State.move_other _ _ different] at unknown
      exact invariant.free j time unknown k

theorem Phase.plain {q : Phase} (plain : q.candidate = none) : q.unreserved = none ∧ q.free = none := by
  cases q <;> first | exact ⟨rfl, rfl⟩ | contradiction

/-- The move to a phase that carries no candidate. -/
theorem plain_invariant (invariant : Invariant s) (valid : store.Valid)
    (kept : ∀ j, j ≠ i → ∀ time row, (s.sends j).phase.stored = some (time, row) →
      store.Has (s.sends j).key time row)
    (lockSelf : q.locked = true → lock = some i)
    (lockOthers : ∀ j, j ≠ i → (s.sends j).phase.locked = true → lock = some j)
    (phase : (s.sends i).phase = p) (plain : q.candidate = none) (holding : q.holding = p.holding)
    (claim : q.claim = p.claim)
    (stored : ∀ time row, q.stored = some (time, row) → store.Has (s.sends i).key time row) :
    Invariant ({ s with radioLock := lock, store }.move i q) := by
  have none := Phase.plain plain
  apply moves_invariant invariant
  exact ⟨valid, kept, lockSelf, lockOthers, by rw [phase, holding], by rw [phase, claim], stored,
    by simp [plain], by simp [none.1], by simp [none.2]⟩

/-- The radio lock is exclusive: its holder may do with it as it likes. -/
theorem lock_exclusive (invariant : Invariant s) (held : (s.sends i).phase.locked = true)
    {lock : Option Nat} : ∀ j, j ≠ i → (s.sends j).phase.locked = true → lock = some j := by
  intro j different locked
  have mine := invariant.lock i held
  rw [invariant.lock j locked] at mine
  exact absurd (Option.some.inj mine) different

/-- A send under the lock gives the lock back. -/
theorem unlock_invariant (invariant : Invariant s) (phase : (s.sends i).phase = p)
    (held : p.locked = true) (plain : q.candidate = none) (left : q.locked = false)
    (holding : q.holding = p.holding) (claim : q.claim = p.claim)
    (stored : ∀ time row, q.stored = some (time, row) → p.stored = some (time, row)) :
    Invariant (s.unlock.move i q) := by
  have held : (s.sends i).phase.locked = true := by rwa [phase]
  apply plain_invariant invariant invariant.valid (fun j _ => invariant.rows j) (by simp [left])
    (lock_exclusive invariant held) phase plain holding claim
  intro time row keeps
  apply invariant.rows i time row
  rw [phase]
  exact stored time row keeps

/-- A send without the lock moves on. -/
theorem unlocked_invariant (invariant : Invariant s) (phase : (s.sends i).phase = p)
    (plain : q.candidate = none) (lockSelf : q.locked = false) (holding : q.holding = p.holding)
    (claim : q.claim = p.claim)
    (stored : ∀ time row, q.stored = some (time, row) → s.store.Has (s.sends i).key time row) :
    Invariant (s.move i q) := by
  exact plain_invariant invariant invariant.valid (fun j _ => invariant.rows j) (by simp [lockSelf])
    (fun j _ => invariant.lock j) phase plain holding claim stored

theorem create_spec {after : Store} (valid : store.Valid)
    (created : store.create key senderTimestamp outgoing = some (number, after)) :
    after.Valid ∧ (∀ key time row, store.Has key time row → after.Has key time row) ∧
      ∀ time, senderTimestamp = some time → after.Has key time number := by
  unfold Store.create at created
  split at created
  · contradiction
  cases created
  refine ⟨⟨?_, ?_⟩, ?_, ?_⟩
  · intro row member
    rcases List.mem_append.mp member with old | new
    · exact Nat.lt_succ_of_lt (valid.ids row old)
    · rw [List.mem_singleton.mp new]
      exact Nat.lt_succ_self _
  · rw [List.map_append, List.nodup_append]
    refine ⟨valid.nodup, List.nodup_singleton _, ?_⟩
    intro a old b new
    obtain ⟨row, member, rfl⟩ := List.mem_map.mp old
    have fresh : b = store.nextId := by simpa using new
    rw [fresh]
    exact Nat.ne_of_lt (valid.ids row member)
  · rintro key time row ⟨found, member, same⟩
    exact ⟨found, List.mem_append_left _ member, same⟩
  · rintro time rfl
    exact ⟨_, List.mem_append_right _ List.mem_cons_self, rfl, rfl, rfl⟩

theorem failStep_invariant (invariant : Invariant s) (stepped : failStep s i cancelled = some t) :
    Invariant t := by
  unfold failStep at stepped
  split at stepped
  case h_1 phase =>
    cases stepped
    exact unlocked_invariant invariant phase rfl rfl rfl rfl (by simp [Phase.stored])
  case h_2 phase | h_3 phase | h_4 phase | h_5 phase | h_6 phase =>
    cases stepped
    exact unlock_invariant invariant phase rfl rfl rfl rfl rfl (by simp [Phase.stored])
  case h_7 phase =>
    split at stepped
    · cases stepped
      exact unlock_invariant invariant phase rfl rfl rfl rfl rfl (by simp [Phase.stored])
    · cases stepped
      exact unlock_invariant invariant phase rfl rfl rfl rfl rfl (by simp [Phase.stored])
  case h_8 phase =>
    cases stepped
    exact unlocked_invariant invariant phase rfl rfl rfl rfl (by simp [Phase.stored])
  case h_9 phase =>
    cases stepped
    refine unlocked_invariant invariant phase rfl rfl rfl rfl ?_
    intro time row stored
    apply invariant.rows i time row
    rw [phase]
    exact stored
  all_goals contradiction

theorem sentStep_invariant (invariant : Invariant s) (stepped : sentStep s i accepted = some t) :
    Invariant t := by
  simp only [sentStep] at stepped
  split at stepped
  case h_1 _ phase =>
    split at stepped
    · cases stepped
      exact unlock_invariant invariant phase rfl rfl rfl rfl rfl (by simp [Phase.stored])
    · cases stepped
      exact unlock_invariant invariant phase rfl rfl rfl rfl rfl (by simp [Phase.stored])
  case h_2 _ phase =>
    split at stepped
    · cases stepped
      exact unlock_invariant invariant phase rfl rfl rfl rfl rfl (by simp [Phase.stored])
    · cases stepped
      exact unlock_invariant invariant phase rfl rfl rfl rfl rfl (by simp [Phase.stored])
  case h_3 => contradiction

/-- A send stores its own row and moves on with it. -/
theorem created_invariant (invariant : Invariant s) (phase : (s.sends i).phase = p)
    (plain : q.candidate = none) (holding : q.holding = p.holding) (claim : q.claim = p.claim)
    (stored : q.stored = some (time, number))
    (created : s.store.create (s.sends i).key (some time) true = some (number, store))
    (lockSelf : q.locked = true → lock = some i)
    (lockOthers : ∀ j, j ≠ i → (s.sends j).phase.locked = true → lock = some j) :
    Invariant ({ s with radioLock := lock, store }.move i q) := by
  obtain ⟨valid, kept, has⟩ := create_spec invariant.valid created
  refine plain_invariant invariant valid (fun j _ time row keeps =>
    kept _ _ _ (invariant.rows j time row keeps)) lockSelf lockOthers phase plain holding claim ?_
  intro other row keeps
  rw [stored] at keeps
  cases keeps
  exact has time rfl

theorem storeStep_invariant (invariant : Invariant s) (stepped : storeStep s i = some t) :
    Invariant t := by
  simp only [storeStep] at stepped
  split at stepped
  case h_1 _ phase =>
    have held : (s.sends i).phase.locked = true := by rw [phase]; rfl
    split at stepped
    · rename_i created
      cases stepped
      exact created_invariant (s := s) invariant phase rfl rfl rfl rfl created
        (fun _ => invariant.lock i held) (lock_exclusive invariant held)
    · cases stepped
      exact unlock_invariant invariant phase rfl rfl rfl rfl rfl (by simp [Phase.stored])
  case h_2 _ phase =>
    split at stepped
    · rename_i existing found
      cases stepped
      refine unlocked_invariant invariant phase rfl rfl rfl rfl ?_
      rintro time row ⟨rfl⟩
      have content := List.find?_some found
      simp only [decide_eq_true_eq] at content
      exact ⟨existing, List.mem_of_find?_eq_some found, rfl, content.1, content.2.1⟩
    split at stepped
    · rename_i created
      cases stepped
      exact created_invariant (s := s) invariant phase rfl rfl rfl rfl created
        (by simp [Phase.locked]) (fun j _ => invariant.lock j)
    · cases stepped
      exact unlocked_invariant invariant phase rfl rfl rfl rfl (by simp [Phase.stored])
  case h_3 => contradiction

theorem orphanStep_invariant (invariant : Invariant s) (stepped : orphanStep s i = some t) :
    Invariant t := by
  simp only [orphanStep] at stepped
  split at stepped
  case h_1 _ phase =>
    have held : (s.sends i).phase.locked = true := by rw [phase]; rfl
    obtain ⟨⟨number, store⟩, created, rfl⟩ := Option.map_eq_some_iff.mp stepped
    exact created_invariant (s := s) invariant phase rfl rfl rfl rfl created
      (by simp [Phase.locked]) (lock_exclusive invariant held)
  case h_2 _ phase =>
    obtain ⟨⟨number, store⟩, created, rfl⟩ := Option.map_eq_some_iff.mp stepped
    exact created_invariant (s := s) invariant phase rfl rfl rfl rfl created
      (by simp [Phase.locked]) (fun j _ => invariant.lock j)
  case h_3 => contradiction

/-- The search for a candidate goes on under the lock. -/
theorem search_invariant (invariant : Invariant s) (held : (s.sends i).phase.locked = true)
    (holding : (s.sends i).phase.holding = none) (claim : (s.sends i).phase.claim = none)
    (searching : q.holding = none ∧ q.claim = none ∧ q.stored = none)
    (later : ∀ time, q.candidate = some time → (s.sends i).requestedTimestamp ≤ time)
    (unreserved : ∀ time, q.unreserved = some time →
      ∀ j, (s.sends j).key = (s.sends i).key → (s.sends j).phase.holding ≠ some time)
    (free : ∀ time, q.free = some time →
      ∀ j, (s.sends j).key = (s.sends i).key → (s.sends j).phase.claim ≠ some time) :
    Invariant (s.move i q) := by
  obtain ⟨noHolding, noClaim, noRow⟩ := searching
  exact moves_invariant invariant ⟨invariant.valid, fun j _ => invariant.rows j,
    fun _ => invariant.lock i held, lock_exclusive invariant held, by rw [holding, noHolding],
    by rw [claim, noClaim], by simp [noRow], later, unreserved, free⟩

theorem reserve_invariant (invariant : Invariant s) (phase : (s.sends i).phase = .answered time false) :
    Invariant ({ s with reservations := s.reservations.add (s.sends i).key time }.move i
      (.allocated time)) := by
  have held : (s.sends i).phase.locked = true := by rw [phase]; rfl
  have unclaimed := invariant.free i time (by rw [phase]; rfl)
  have alone (j : Nat) (other : Int) (looked : (s.sends j).phase.unreserved = some other) :
      j = i := by
    have mine := invariant.lock i held
    rw [invariant.lock j (Phase.locked_of_unreserved looked)] at mine
    exact Option.some.inj mine
  constructor
  · exact invariant.valid
  · exact Reservations.tidy_add invariant.tidy _ _
  · intro j locked
    rcases eq_or_ne j i with rfl | different
    · exact invariant.lock j held
    · rw [State.move_other _ _ different] at locked
      exact invariant.lock j locked
  · intro key other
    simp only [State.move_key]
    rw [show (State.move _ i (.allocated time)).reservations =
      s.reservations.add (s.sends i).key time from rfl, Reservations.contains_add,
      invariant.reserved]
    constructor
    · rintro (⟨rfl, rfl⟩ | ⟨j, same, holds⟩)
      · exact ⟨i, rfl, by rw [State.move_self]; rfl⟩
      · have different : j ≠ i := by
          rintro rfl
          rw [phase] at holds
          contradiction
        exact ⟨j, same, by rwa [State.move_other _ _ different]⟩
    · rintro ⟨j, same, holds⟩
      rcases eq_or_ne j i with rfl | different
      · rw [State.move_self] at holds
        cases holds
        exact .inl ⟨same.symm, rfl⟩
      · rw [State.move_other _ _ different] at holds
        exact .inr ⟨j, same, holds⟩
  · intro j k other same first second
    simp only [State.move_key] at same
    rcases eq_or_ne j i with rfl | left
    · rcases eq_or_ne k j with rfl | right
      · rfl
      · rw [State.move_self] at first
        rw [State.move_other _ _ right] at second
        cases first
        exact absurd second (unclaimed k same.symm)
    · rcases eq_or_ne k i with rfl | right
      · rw [State.move_self] at second
        rw [State.move_other _ _ left] at first
        cases second
        exact absurd first (unclaimed j same)
      · rw [State.move_other _ _ left] at first
        rw [State.move_other _ _ right] at second
        exact invariant.distinct j k other same first second
  · intro j other row stored
    rw [State.move_key]
    rcases eq_or_ne j i with rfl | different
    · rw [State.move_self] at stored
      contradiction
    · rw [State.move_other _ _ different] at stored
      exact invariant.rows j other row stored
  · intro j other
    rw [State.move_requested]
    rcases eq_or_ne j i with rfl | different
    · rw [State.move_self]
      rintro (candidate | claimed)
      · contradiction
      · cases claimed
        exact invariant.later j time (.inl (by rw [phase]; rfl))
    · rw [State.move_other _ _ different]
      exact invariant.later j other
  · intro j other looked
    rcases eq_or_ne j i with rfl | different
    · rw [State.move_self] at looked
      contradiction
    · rw [State.move_other _ _ different] at looked
      exact absurd (alone j other looked) different
  · intro j other unknown
    rcases eq_or_ne j i with rfl | different
    · rw [State.move_self] at unknown
      contradiction
    · rw [State.move_other _ _ different] at unknown
      exact absurd (alone j other (Phase.unreserved_of_free unknown)) different

/-- The reservation ends with the send; the claim stays only if a row does. -/
theorem release_invariant (invariant : Invariant s) (phase : (s.sends i).phase = .releasing time row) :
    Invariant ({ s with reservations := s.reservations.release (s.sends i).key time }.move i
      (.finished (row.map (time, ·)))) := by
  have holds : (s.sends i).phase.holding = some time := by rw [phase]; rfl
  have claims (other : Int) (claimed : (Phase.finished (row.map (time, ·))).claim = some other) :
      (s.sends i).phase.claim = some other := by
    rw [phase]
    cases row with
    | none => contradiction
    | some number => exact claimed
  have keeps (j : Nat) (other : Int)
      (claimed : ((State.move { s with reservations := s.reservations.release (s.sends i).key time }
        i (.finished (row.map (time, ·)))).sends j).phase.claim = some other) :
      (s.sends j).phase.claim = some other := by
    rcases eq_or_ne j i with rfl | different
    · rw [State.move_self] at claimed
      exact claims other claimed
    · rwa [State.move_other _ _ different] at claimed
  constructor
  · exact invariant.valid
  · exact Reservations.tidy_release invariant.tidy _ _
  · intro j locked
    rcases eq_or_ne j i with rfl | different
    · rw [State.move_self] at locked
      contradiction
    · rw [State.move_other _ _ different] at locked
      exact invariant.lock j locked
  · intro key other
    simp only [State.move_key]
    rw [show (State.move _ i (.finished (row.map (time, ·)))).reservations =
      s.reservations.release (s.sends i).key time from rfl, Reservations.contains_release,
      invariant.reserved]
    constructor
    · rintro ⟨another, j, same, kept⟩
      have different : j ≠ i := by
        rintro rfl
        rw [holds] at kept
        cases kept
        exact another ⟨same.symm, rfl⟩
      exact ⟨j, same, by rwa [State.move_other _ _ different]⟩
    · rintro ⟨j, same, kept⟩
      have different : j ≠ i := by
        rintro rfl
        rw [State.move_self] at kept
        contradiction
      rw [State.move_other _ _ different] at kept
      refine ⟨?_, j, same, kept⟩
      rintro ⟨rfl, rfl⟩
      exact different (invariant.distinct j i other same (Phase.claim_of_holding kept)
        (Phase.claim_of_holding holds))
  · intro j k other same first second
    simp only [State.move_key] at same
    exact invariant.distinct j k other same (keeps j other first) (keeps k other second)
  · intro j other number stored
    rw [State.move_key]
    apply invariant.rows j other number
    rcases eq_or_ne j i with rfl | different
    · rw [State.move_self] at stored
      rw [phase]
      cases row with
      | none => contradiction
      | some own => exact stored
    · rwa [State.move_other _ _ different] at stored
  · intro j other
    rw [State.move_requested]
    rintro (candidate | claimed)
    · rcases eq_or_ne j i with rfl | different
      · rw [State.move_self] at candidate
        contradiction
      · rw [State.move_other _ _ different] at candidate
        exact invariant.later j other (.inl candidate)
    · exact invariant.later j other (.inr (keeps j other claimed))
  · intro j other looked k same
    have different : j ≠ i := by
      rintro rfl
      rw [State.move_self] at looked
      contradiction
    rw [State.move_other _ _ different] at looked
    simp only [State.move_key] at same
    rcases eq_or_ne k i with rfl | another
    · rw [State.move_self]
      exact nofun
    · rw [State.move_other _ _ another]
      exact invariant.unreserved j other looked k same
  · intro j other unknown k same claimed
    have different : j ≠ i := by
      rintro rfl
      rw [State.move_self] at unknown
      contradiction
    rw [State.move_other _ _ different] at unknown
    simp only [State.move_key] at same
    exact invariant.free j other unknown k same (keeps k other claimed)

/-- A failed channel send deletes its own row and no other send's. -/
theorem delete_invariant (invariant : Invariant s) (phase : (s.sends i).phase = .failing time row) :
    Invariant ({ s with store := s.store.deleteById row }.move i (.releasing time none)) := by
  have stored : (s.sends i).phase.stored = some (time, row) := by rw [phase]; rfl
  have claimed : (s.sends i).phase.claim = some time := by rw [phase]; rfl
  refine plain_invariant invariant ⟨?_, ?_⟩ ?_ nofun (fun j _ => invariant.lock j) phase rfl rfl rfl
    (by simp [Phase.stored])
  · intro found kept
    exact invariant.valid.ids found (List.mem_filter.mp kept).1
  · exact invariant.valid.nodup.sublist (List.filter_sublist.map _)
  · -- the row with this number is the one of this send, and its claim is unique
    intro j different other number keeps
    obtain ⟨found, member, rfl, key, content⟩ := invariant.rows j other number keeps
    refine ⟨found, List.mem_filter.mpr ⟨member, ?_⟩, rfl, key, content⟩
    simp only [decide_not, Bool.not_eq_true', decide_eq_false_iff_not]
    rintro rfl
    obtain ⟨own, listed, same, ownKey, ownContent⟩ := invariant.rows i time _ stored
    obtain rfl := List.inj_on_of_nodup_map invariant.valid.nodup listed member same
    rw [ownContent] at content
    cases content
    exact different (invariant.distinct j i time (key.symm.trans ownKey)
      (Phase.claim_of_stored keeps) claimed)

theorem check_invariant (invariant : Invariant s) (phase : (s.sends i).phase = .checking candidate)
    (unreserved : s.reservations.contains (s.sends i).key candidate = false) :
    Invariant (s.move i (.querying candidate)) := by
  apply search_invariant invariant (by rw [phase]; rfl) (by rw [phase]; rfl) (by rw [phase]; rfl)
    ⟨rfl, rfl, rfl⟩
  · rintro time ⟨rfl⟩
    exact invariant.later i candidate (.inl (by rw [phase]; rfl))
  · rintro time ⟨rfl⟩ j same holds
    have reserved := (invariant.reserved (s.sends i).key candidate).mpr ⟨j, same, holds⟩
    rw [unreserved] at reserved
    contradiction
  · simp [Phase.free]

/-- A candidate that was not reserved and is not stored is nobody's. -/
theorem query_invariant (invariant : Invariant s) (phase : (s.sends i).phase = .querying candidate) :
    Invariant (s.move i
      (.answered candidate (s.store.getByContent (s.sends i).key candidate).isSome)) := by
  have looked : (s.sends i).phase.unreserved = some candidate := by rw [phase]; rfl
  apply search_invariant invariant (by rw [phase]; rfl) (by rw [phase]; rfl) (by rw [phase]; rfl)
    ⟨rfl, rfl, rfl⟩
  · rintro time ⟨rfl⟩
    exact invariant.later i candidate (.inl (by rw [phase]; rfl))
  · rintro time ⟨rfl⟩
    exact invariant.unreserved i candidate looked
  · intro time unknown j same claimed
    cases existing : s.store.getByContent (s.sends i).key candidate with
    | some row =>
        rw [existing] at unknown
        contradiction
    | none =>
        rw [existing] at unknown
        cases unknown
        rcases Phase.claim_cases claimed with holds | ⟨number, stored⟩
        · exact invariant.unreserved i candidate looked j same holds
        · obtain ⟨row, member, _, key, content⟩ := invariant.rows j candidate number stored
          have absent := List.find?_eq_none.mp existing row member
          simp [key, same, content] at absent

/-- The next candidate, still under the lock. -/
theorem retry_invariant (invariant : Invariant s) (held : (s.sends i).phase.locked = true)
    (holding : (s.sends i).phase.holding = none) (claim : (s.sends i).phase.claim = none)
    (searched : (s.sends i).phase.candidate = some candidate) :
    Invariant (s.move i (.checking (candidate + 1))) := by
  apply search_invariant invariant held holding claim ⟨rfl, rfl, rfl⟩
  · rintro time ⟨rfl⟩
    have later := invariant.later i candidate (.inl searched)
    omega
  · simp [Phase.unreserved]
  · simp [Phase.free]

theorem step_invariant (invariant : Invariant s) (stepped : step s e = some t) : Invariant t := by
  cases e with
  | begin i =>
      simp only [step] at stepped
      split at stepped
      · rename_i phase
        cases stepped
        exact unlocked_invariant invariant phase rfl rfl rfl rfl (by simp [Phase.stored])
      · contradiction
  | acquire i =>
      simp only [step] at stepped
      split at stepped
      · rename_i phase vacant
        cases stepped
        refine plain_invariant invariant invariant.valid (fun j _ => invariant.rows j) (fun _ => rfl)
          ?_ phase rfl rfl rfl (by simp [Phase.stored])
        intro j _ locked
        rw [invariant.lock j locked] at vacant
        contradiction
      · contradiction
  | allocate i =>
      simp only [step] at stepped
      split at stepped
      · rename_i phase
        cases stepped
        exact search_invariant invariant (by rw [phase]; rfl) (by rw [phase]; rfl) (by rw [phase]; rfl)
          ⟨rfl, rfl, rfl⟩ (by simp [Phase.candidate]) (by simp [Phase.unreserved])
          (by simp [Phase.free])
      · contradiction
  | check i =>
      simp only [step] at stepped
      split at stepped
      · rename_i candidate phase
        split at stepped
        · cases stepped
          exact retry_invariant invariant (by rw [phase]; rfl) (by rw [phase]; rfl)
            (by rw [phase]; rfl) (by rw [phase]; rfl)
        · rename_i vacant
          cases stepped
          exact check_invariant invariant phase (by simpa using vacant)
      · contradiction
  | query i =>
      simp only [step] at stepped
      split at stepped
      · cases stepped
        exact query_invariant invariant ‹_›
      · contradiction
  | reserve i =>
      simp only [step] at stepped
      split at stepped
      · rename_i candidate existing phase
        split at stepped
        · cases stepped
          exact retry_invariant invariant (by rw [phase]; rfl) (by rw [phase]; rfl)
            (by rw [phase]; rfl) (by rw [phase]; rfl)
        · rename_i vacant
          cases stepped
          obtain rfl : existing = false := by
            cases existing <;> simp_all
          exact reserve_invariant invariant phase
      · contradiction
  | store i => exact storeStep_invariant invariant stepped
  | sent i accepted => exact sentStep_invariant invariant stepped
  | delete i =>
      simp only [step] at stepped
      split at stepped
      · cases stepped
        exact delete_invariant invariant ‹_›
      · contradiction
  | release i =>
      simp only [step] at stepped
      split at stepped
      · cases stepped
        exact release_invariant invariant ‹_›
      · contradiction
  | fail i cancelled => exact failStep_invariant invariant stepped
  | orphan i => exact orphanStep_invariant invariant stepped
  | receive key senderTimestamp outgoing =>
      obtain ⟨⟨number, store⟩, created, rfl⟩ := Option.map_eq_some_iff.mp stepped
      obtain ⟨valid, kept, _⟩ := create_spec invariant.valid created
      exact ⟨valid, invariant.tidy, invariant.lock, invariant.reserved, invariant.distinct,
        fun i time row stored => kept _ _ _ (invariant.rows i time row stored), invariant.later,
        invariant.unreserved, invariant.free⟩

/-- All sends are over, or were never begun. -/
def State.Settled (s : State) : Prop :=
  ∀ i, (s.sends i).phase = .idle ∨ ∃ stored, (s.sends i).phase = .finished stored

theorem settled_reservations (invariant : Invariant s) (settled : s.Settled) :
    s.reservations = .empty := by
  apply Dict.eq_empty
  intro key
  by_contra found
  obtain ⟨reserved, found⟩ := Option.ne_none_iff_exists'.mp found
  obtain ⟨time, member⟩ := Finset.nonempty_iff_ne_empty.mpr (invariant.tidy key reserved found)
  have contained : s.reservations.contains key time = true := by
    simpa [Reservations.contains, found] using member
  obtain ⟨i, _, holds⟩ := (invariant.reserved key time).mp contained
  rcases settled i with idle | ⟨stored, finished⟩
  · rw [idle] at holds
    contradiction
  · rw [finished] at holds
    contradiction

/-- Whatever the interleaving, sends of one content that have a row stored carry
different timestamps, each at least the requested one, and after the last send
no reservation is left. -/
theorem outgoing_timestamps_distinct (initial : Initial s) (run : Reaches step Any s t) :
    (∀ i j time row time' row', i ≠ j → (t.sends i).key = (t.sends j).key →
      (t.sends i).phase.stored = some (time, row) → (t.sends j).phase.stored = some (time', row') →
      time ≠ time') ∧
    (∀ i time, (t.sends i).phase.claim = some time → (t.sends i).requestedTimestamp ≤ time) ∧
    (t.Settled → t.reservations = .empty) := by
  have invariant : Invariant t :=
    run.invariant (fun kept _ stepped => step_invariant kept stepped) (initial_invariant initial)
  refine ⟨?_, fun i time claimed => invariant.later i time (.inr claimed),
    settled_reservations invariant⟩
  rintro i j time row _ row' different same first second rfl
  exact different (invariant.distinct i j time same (Phase.claim_of_stored first)
    (Phase.claim_of_stored second))

/-- Sends of one direct message that all find the clock at 100. -/
def sameSecond : State where
  radioLock := none
  reservations := .empty
  store := ⟨[], 0⟩
  sends _ := ⟨⟨.priv, "a1", "hello"⟩, 100, .idle⟩

theorem sameSecond_distinct :
    ∃ t, Reaches step Any sameSecond t ∧ (t.sends 0).phase = .releasing 100 (some 0) ∧
      (t.sends 1).phase = .releasing 101 (some 1) ∧ (100 : Int) ≠ 101 := by
  have ran : (execute step sameSecond
      [.begin 0, .begin 1, .acquire 0, .allocate 0, .check 0, .query 0, .reserve 0, .sent 0 true,
        .acquire 1, .allocate 1, .check 1, .check 1, .query 1, .reserve 1, .sent 1 true, .store 0,
        .store 1]).map (fun t => (t.sends 0, t.sends 1)) =
      some (⟨⟨.priv, "a1", "hello"⟩, 100, .releasing 100 (some 0)⟩,
        ⟨⟨.priv, "a1", "hello"⟩, 100, .releasing 101 (some 1)⟩) := by
    decide +kernel
  obtain ⟨t, ran, reached⟩ := Option.map_eq_some_iff.mp ran
  obtain ⟨first, second⟩ := Prod.mk.inj reached
  have run := execute_reaches ran
  have initial : Initial sameSecond := ⟨rfl, rfl, nofun, List.nodup_nil, fun _ => rfl⟩
  have distinct := (outgoing_timestamps_distinct initial run).1 0 1 100 0 101 1 (by decide)
    (by rw [first, second]) (by rw [first]; rfl) (by rw [second]; rfl)
  exact ⟨t, run, by rw [first], by rw [second], distinct⟩

end Meshloom.OutgoingTimestamp
