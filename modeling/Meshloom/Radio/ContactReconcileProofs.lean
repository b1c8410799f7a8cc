import Meshloom.Radio.ContactReconcile

/-! What a reconcile that leaves through its complete exit has reached. The prefix lookups must
not find another contact, and a blind fill may fail in the last batch of a pass only: whether the
pass failed is forgotten from batch to batch. -/
namespace Meshloom.ContactReconcile
open Transition
variable {config : Config} {s t : State}

/-- Whether the batch is followed by another one of the pass. -/
def MoreBatches (config : Config) (s : State) : Prop :=
  s.nextIndex + contactReconcileBatchSize < config.desiredFillContacts.length

/-- The add is acknowledged, or refused because the table is full, which ends the task. -/
def Fate.conclusive : Fate → Bool
  | .answered => true
  | .error code _ => code = some errorTableFull
  | .raised _ => false

/-- The condition on a step. -/
def Guarded (config : Config) (s : State) (event : Event) : Prop :=
  match s.phase, event with
  | .removing (key :: _) (_ + 1), .command _ => removePayload config s key = key
  | .adding (key :: _) (_ + 1), .next =>
      key ∉ s.radioContacts → config.getContactByKeyPrefix s.cache (keyPrefix key) = none
  | .filling _ _ _, .command fate => MoreBatches config s → fate.conclusive = true
  | _, _ => True

instance : Decidable (MoreBatches config s) := inferInstanceAs (Decidable (_ < _))

instance (event : Event) : Decidable (Guarded config s event) := by
  unfold Guarded
  split <;> infer_instance

/-! ### Without autoevict -/

/-- Without what may be pending, the table and what the task keeps of it differ in desired
contacts only. -/
structure Converging (config : Config) (s : State) : Prop where
  kept : ∀ key ∈ s.table, key ∉ config.desiredContacts → key ∈ s.radioContacts
  loaded : ∀ key ∈ s.radioContacts, key ∈ config.desiredContacts → key ∈ s.table
  safe : ∀ key reply, .remove key reply ∈ s.log → key ∉ config.desiredContacts

def ConvergingPhase (config : Config) (s : State) : Prop :=
  match s.phase with
  | .adding pending _ => ∀ key ∈ pending, key ∈ config.desiredContacts
  | .filling _ _ _ => False
  | .ended .complete => Settled config s
  | _ => True

def ConvergingInvariant (config : Config) (s : State) : Prop :=
  Converging config s ∧ ConvergingPhase config s

theorem Converging.to (converging : Converging config s) {phase : Phase}
    (at_ : ConvergingPhase config { s with phase }) :
    ConvergingInvariant config { s with phase } :=
  ⟨⟨converging.kept, converging.loaded, converging.safe⟩, at_⟩

theorem attempt_converging (off : config.autoevict = false) (converging : Converging config s)
    (atTop : s.phase = .top) (lock : Lock) : ConvergingInvariant config (attempt config s lock) := by
  have same : ConvergingInvariant config s :=
    ⟨converging, by simp only [ConvergingPhase, atTop]⟩
  cases lock with
  | disconnected => exact converging.to trivial
  | busy =>
      simp only [attempt, off]
      split
      · contradiction
      · split
        · exact converging.to ‹_›
        · exact same
  | acquired sameRadio =>
      simp only [attempt, off, true_and, Bool.false_eq_true, false_and, if_false]
      split
      · exact converging.to ‹_›
      · split
        · simp only [beginBatch, off]
          exact converging.to trivial
        · exact converging.to trivial

/-- The table lost this key, or nothing. -/
structure Loses (key : Key) (table after : List Key) : Prop where
  sub : ∀ other ∈ after, other ∈ table
  others : ∀ other ∈ table, other ≠ key → other ∈ after

theorem loses_perhaps (key : Key) (table : List Key) (applied : Bool) :
    Loses key table (if applied then pop table key else table) := by
  cases applied with
  | false => exact ⟨fun _ member => member, fun _ member _ => member⟩
  | true =>
      exact ⟨fun _ member => (mem_pop.mp member).1, fun _ member other => mem_pop.mpr ⟨member, other⟩⟩

/-- A contact of which the radio says that it is gone is gone. -/
theorem removeContact_some (removed : removeContact table key fate = some (reply, after)) :
    Loses key table after ∧ (reply = .ok ∨ reply = .error (some errorNotFound) → key ∉ after) := by
  cases fate with
  | answered =>
      simp only [removeContact] at removed
      split at removed
      · cases removed
        exact ⟨loses_perhaps key table true, fun _ member => (mem_pop.mp member).2 rfl⟩
      · rename_i absent
        cases removed
        exact ⟨loses_perhaps key table false, fun _ => absent⟩
  | error code applied =>
      simp only [removeContact] at removed
      split at removed
      · cases removed
      · rename_i different
        cases removed
        exact ⟨loses_perhaps key table applied, fun said => absurd said (by simpa using different)⟩
  | raised applied =>
      cases removed
      exact ⟨loses_perhaps key table applied, fun said => absurd said (by simp)⟩

theorem removeRadioContact_converging (converging : Converging config s)
    (extra : key ∉ config.desiredContacts) (itself : removePayload config s key = key)
    (removed : removeRadioContact config s key fate = some t) : Converging config t := by
  simp only [removeRadioContact, itself, Option.map_eq_some_iff] at removed
  obtain ⟨⟨reply, after⟩, removed, rfl⟩ := removed
  obtain ⟨loses, gone⟩ := removeContact_some removed
  have safe : ∀ other said, Entry.remove other said ∈ Entry.remove key reply :: s.log →
      other ∉ config.desiredContacts := by
    intro other said member
    obtain same | old := List.mem_cons.mp member
    · cases same
      exact extra
    · exact converging.safe other said old
  have desired : ∀ other ∈ s.radioContacts, other ∈ config.desiredContacts → other ∈ after :=
    fun other member wanted =>
      loses.others other (converging.loaded other member wanted) fun same => extra (same ▸ wanted)
  dsimp only
  split
  · rename_i said
    refine ⟨fun other member unwanted => mem_pop.mpr ⟨?_, ?_⟩,
      fun other member => desired other (mem_pop.mp member).1, safe⟩
    · exact converging.kept other (loses.sub other member) unwanted
    · exact fun same => gone said (same ▸ member)
  · exact ⟨fun other member => converging.kept other (loses.sub other member), desired, safe⟩

/-- The table gained this key, or nothing; it has it when the radio says so. -/
structure Gains (key : Key) (table after : List Key) (reply : Reply) : Prop where
  sub : ∀ other ∈ table, other ∈ after
  others : ∀ other ∈ after, other ≠ key → other ∈ table
  added : reply = .ok → key ∈ after

theorem addContact_gains (table : List Key) (key : Key) (fate : Fate) :
    Gains key table (addContact table key fate).2 (addContact table key fate).1 := by
  have perhaps : ∀ applied : Bool,
      (∀ other ∈ table, other ∈ if applied then assign table key else table) ∧
        ∀ other ∈ (if applied then assign table key else table), other ≠ key → other ∈ table := by
    intro applied
    cases applied with
    | false => exact ⟨fun _ member => member, fun _ member _ => member⟩
    | true =>
        exact ⟨fun _ member => mem_assign.mpr (.inr member),
          fun _ member other => (mem_assign.mp member).resolve_left other⟩
  cases fate with
  | answered => exact ⟨(perhaps true).1, (perhaps true).2, fun _ => mem_assign.mpr (.inl rfl)⟩
  | error code applied => exact ⟨(perhaps applied).1, (perhaps applied).2, nofun⟩
  | raised applied => exact ⟨(perhaps applied).1, (perhaps applied).2, nofun⟩

theorem addRadioContact_converging (converging : Converging config s)
    (wanted : key ∈ config.desiredContacts) (fate : Fate) :
    Converging config (addRadioContact s key fate).2 := by
  have gains := addContact_gains s.table key fate
  have safe : ∀ other said,
      Entry.remove other said ∈ Entry.add key (addContact s.table key fate).1 :: s.log →
        other ∉ config.desiredContacts := by
    intro other said member
    obtain same | old := List.mem_cons.mp member
    · cases same
    · exact converging.safe other said old
  have kept : ∀ other ∈ (addContact s.table key fate).2, other ∉ config.desiredContacts →
      other ∈ s.radioContacts := fun other member unwanted =>
    converging.kept other (gains.others other member fun same => unwanted (same ▸ wanted)) unwanted
  have loaded : ∀ other ∈ s.radioContacts, other ∈ config.desiredContacts →
      other ∈ (addContact s.table key fate).2 := fun other member desired =>
    gains.sub other (converging.loaded other member desired)
  dsimp only [addRadioContact]
  split
  · rename_i said
    refine ⟨fun other member unwanted => mem_assign.mpr (.inr (kept other member unwanted)),
      fun other member desired => ?_, safe⟩
    obtain rfl | old := mem_assign.mp member
    · exact gains.added said
    · exact loaded other old desired
  · exact ⟨kept, loaded, safe⟩

theorem goOn_converging (invariant : ConvergingInvariant config s)
    (guarded : Guarded config s .next) (went : goOn config s = some t) :
    ConvergingInvariant config t := by
  obtain ⟨converging, at_⟩ := invariant
  have start : ∀ key ∈ config.desiredContacts, key ∈ config.desiredContacts := fun _ member => member
  unfold goOn at went
  cases phase : s.phase with
  | top => simp [phase] at went
  | ended exit => simp [phase] at went
  | filling => simp [ConvergingPhase, phase] at at_
  | removing pending budget =>
      cases pending with
      | nil =>
          simp only [phase, Option.some.injEq] at went
          exact went ▸ converging.to start
      | cons key pending =>
          cases budget with
          | zero =>
              simp only [phase, Option.some.injEq] at went
              exact went ▸ converging.to start
          | succ budget =>
              simp only [phase, Option.ite_none_right_eq_some, Option.some.injEq] at went
              exact went.2 ▸ converging.to trivial
  | adding pending budget =>
      cases pending with
      | nil =>
          simp only [phase, Option.some.injEq] at went
          exact went ▸ converging.to trivial
      | cons key pending =>
          cases budget with
          | zero =>
              simp only [phase, Option.some.injEq] at went
              exact went ▸ converging.to trivial
          | succ budget =>
              simp only [ConvergingPhase, phase] at at_
              have rest : ∀ other ∈ pending, other ∈ config.desiredContacts :=
                fun other member => at_ other (List.mem_cons_of_mem _ member)
              simp only [phase] at went
              split at went
              · cases went
                exact converging.to rest
              · rename_i missing
                simp only [Guarded, phase] at guarded
                rw [guarded missing] at went
                cases went

theorem send_converging (invariant : ConvergingInvariant config s)
    (guarded : Guarded config s (.command fate)) (sent : send config s fate = some t) :
    ConvergingInvariant config t := by
  obtain ⟨converging, at_⟩ := invariant
  unfold send at sent
  split at sent
  · rename_i key pending budget phase
    simp only [Guarded, phase] at guarded
    split at sent
    · cases sent
    · rename_i extra
      obtain ⟨u, removed, rfl⟩ := Option.map_eq_some_iff.mp sent
      exact (removeRadioContact_converging converging extra guarded removed).to trivial
  · rename_i key pending budget phase
    simp only [ConvergingPhase, phase] at at_
    have added := addRadioContact_converging converging (at_ key List.mem_cons_self) fate
    split at sent
    · cases sent
    split at sent
    · cases sent
    dsimp only at sent
    split at sent
    · cases sent
      exact added.to trivial
    · cases sent
      exact added.to fun other member => at_ other (List.mem_cons_of_mem _ member)
  · rename_i phase
    simp only [ConvergingPhase, phase] at at_
  · cases sent

theorem step_converging (off : config.autoevict = false) (invariant : ConvergingInvariant config s)
    (guarded : Guarded config s event) (stepped : step config s event = some t) :
    ConvergingInvariant config t := by
  cases event with
  | lock lock =>
      simp only [step, Option.ite_none_right_eq_some, Option.some.injEq] at stepped
      exact stepped.2 ▸ attempt_converging off invariant.1 stepped.1 lock
  | next => exact goOn_converging invariant guarded stepped
  | command fate => exact send_converging invariant guarded stepped
  | stopped =>
      simp only [step] at stepped
      split at stepped
      · cases stepped
      · cases stepped
        exact invariant.1.to trivial

/-! ### With autoevict -/

/-- What was sent since the last pass over the list began. -/
def lastPass (log : List Entry) : List Entry := log.takeWhile (· ≠ .batch 0)

/-- The passes that were begun. -/
def passes (log : List Entry) : Nat := log.count (.batch 0)

/-- In the last pass the first `n` contacts of the list were acknowledged. -/
def Acknowledged (config : Config) (s : State) (n : Nat) : Prop :=
  ∀ key ∈ config.desiredFillContacts.take n, .add key .ok ∈ lastPass s.log

def NoRemoval (s : State) : Prop := ∀ key reply, .remove key reply ∉ s.log

def FillingPhase (config : Config) (s : State) : Prop :=
  match s.phase with
  | .top =>
      (s.nextIndex = 0 ∨ s.nextIndex < config.desiredFillContacts.length) ∧
        Acknowledged config s s.nextIndex ∧ s.retries < maxAutoevictRetries ∧
        passes s.log = s.retries + if s.nextIndex = 0 then 0 else 1
  | .filling pending processed passFailed =>
      processed ≤ contactReconcileBatchSize ∧
        pending = (config.desiredFillContacts.drop (s.nextIndex + processed)).take
          (contactReconcileBatchSize - processed) ∧
        (passFailed = false → Acknowledged config s (s.nextIndex + processed)) ∧
        (passFailed = true → ¬ MoreBatches config s) ∧
        s.retries < maxAutoevictRetries ∧ passes s.log = s.retries + 1
  | .removing _ _ => False
  | .adding _ _ => False
  | .ended .complete =>
      Acknowledged config s config.desiredFillContacts.length ∧ passes s.log ≤ maxAutoevictRetries
  | .ended _ => True

def FillingInvariant (config : Config) (s : State) : Prop :=
  NoRemoval s ∧ FillingPhase config s

theorem Acknowledged.zero : Acknowledged config s 0 := by simp [Acknowledged]

theorem batchIndex_eq (within : s.nextIndex = 0 ∨ s.nextIndex < config.desiredFillContacts.length) :
    batchIndex config s = s.nextIndex := by
  unfold batchIndex
  split
  · rfl
  · exact (within.resolve_right ‹_›).symm

theorem beginBatch_filling (on : config.autoevict = true) (noRemoval : NoRemoval s)
    (atTop : s.phase = .top) (at_ : FillingPhase config s) :
    FillingInvariant config (beginBatch config s) := by
  simp only [FillingPhase, atTop] at at_
  obtain ⟨within, acknowledged, retries, count⟩ := at_
  simp only [beginBatch, on, if_true, batchIndex_eq within]
  refine ⟨fun key reply member => ?_, Nat.zero_le _, rfl, fun _ => ?_, nofun, retries, ?_⟩
  · obtain same | old := List.mem_cons.mp member
    · cases same
    · exact noRemoval key reply old
  · by_cases first : s.nextIndex = 0
    · simp only [first]
      exact .zero
    · intro key member
      have later : Entry.batch s.nextIndex ≠ .batch 0 := fun same => first (Entry.batch.inj same)
      have acked := acknowledged key member
      simp only [lastPass, List.takeWhile_cons, decide_eq_true later]
      exact List.mem_cons_of_mem _ acked
  · by_cases first : s.nextIndex = 0
    · simp only [passes, first, List.count_cons_self, if_true] at count ⊢
      omega
    · have later : Entry.batch s.nextIndex ≠ .batch 0 := fun same => first (Entry.batch.inj same)
      simp only [passes, List.count_cons_of_ne later, if_neg first] at count ⊢
      exact count

theorem attempt_filling (on : config.autoevict = true) (noRemoval : NoRemoval s)
    (atTop : s.phase = .top) (at_ : FillingPhase config s) (lock : Lock) :
    FillingInvariant config (attempt config s lock) := by
  have begun := beginBatch_filling on noRemoval atTop at_
  have same : FillingInvariant config s := ⟨noRemoval, at_⟩
  simp only [FillingPhase, atTop] at at_
  obtain ⟨within, acknowledged, retries, count⟩ := at_
  have nothing (empty : config.desiredFillContacts = []) :
      FillingInvariant config { s with phase := .ended .complete } := by
    refine ⟨noRemoval, fun key member => ?_, ?_⟩
    · rw [empty] at member
      cases member
    · have first : s.nextIndex = 0 :=
        within.elim (fun first => first) fun less => by simp [empty] at less
      simp only [first, if_true] at count
      exact Nat.le_of_lt (count.trans_lt retries)
  cases lock with
  | disconnected => exact ⟨noRemoval, trivial⟩
  | busy =>
      simp only [attempt, on, if_true]
      split
      · exact nothing ‹_›
      · rw [batchIndex_eq within]
        exact same
  | acquired sameRadio =>
      simp only [attempt, on, true_and, Bool.true_eq_false, false_and, if_false]
      split
      · exact nothing ‹_›
      · split
        · exact begun
        · exact ⟨noRemoval, trivial⟩

theorem take_drop_cons {l : List Key} (taken : (l.drop n).take m = key :: rest) :
    0 < m ∧ l.take (n + 1) = l.take n ++ [key] ∧ rest = (l.drop (n + 1)).take (m - 1) := by
  cases m with
  | zero => cases taken
  | succ m =>
      cases dropped : l.drop n with
      | nil => simp [dropped] at taken
      | cons head tail =>
          simp only [dropped, List.take_succ_cons, List.cons.injEq] at taken
          obtain ⟨rfl, rfl⟩ := taken
          have at_ : l[n]? = some head := by
            have first := congrArg List.head? dropped
            rwa [List.head?_drop] at first
          have after : l.drop (n + 1) = tail := by
            rw [← List.tail_drop, dropped, List.tail_cons]
          exact ⟨Nat.succ_pos m, by rw [List.take_add_one, at_]; rfl, by rw [after]; rfl⟩

theorem endBatch_filling (noRemoval : NoRemoval s) (at_ : s.phase = .filling [] processed passFailed)
    (filling : FillingPhase config s) :
    FillingInvariant config (endBatch config s processed passFailed) := by
  simp only [FillingPhase, at_] at filling
  obtain ⟨bound, pending, acknowledged, failed, retries, count⟩ := filling
  have ended : processed = contactReconcileBatchSize ∨
      config.desiredFillContacts.length ≤ s.nextIndex + processed := by
    obtain none_left | dropped := List.take_eq_nil_iff.mp pending.symm
    · exact .inl (by omega)
    · exact .inr (List.drop_eq_nil_iff.mp dropped)
  simp only [endBatch]
  split
  · rename_i whole
    cases passFailed with
    | true =>
        simp only [if_true]
        split
        · exact ⟨noRemoval, trivial⟩
        · rename_i again
          exact ⟨noRemoval, .inl rfl, .zero, Nat.lt_of_not_le again, count⟩
    | false =>
        simp only [Bool.false_eq_true, if_false]
        refine ⟨noRemoval, fun key member => ?_, ?_⟩
        · rw [List.take_length] at member
          refine acknowledged rfl key ?_
          rwa [List.take_of_length_le whole]
        · simp only [count]
          omega
  · rename_i part
    cases passFailed with
    | true =>
        have last := failed rfl
        unfold MoreBatches at last
        omega
    | false =>
        have size : contactReconcileBatchSize = 2 := rfl
        have later : s.nextIndex + processed ≠ 0 := by omega
        refine ⟨noRemoval, .inr (Nat.lt_of_not_le part), acknowledged rfl, retries, ?_⟩
        rw [if_neg later]
        exact count

theorem goOn_filling (invariant : FillingInvariant config s) (went : goOn config s = some t) :
    FillingInvariant config t := by
  obtain ⟨noRemoval, at_⟩ := invariant
  unfold goOn at went
  cases phase : s.phase with
  | top => simp [phase] at went
  | ended exit => simp [phase] at went
  | removing => simp [FillingPhase, phase] at at_
  | adding => simp [FillingPhase, phase] at at_
  | filling pending processed passFailed =>
      cases pending with
      | nil =>
          simp only [phase, Option.some.injEq] at went
          exact went ▸ endBatch_filling noRemoval phase at_
      | cons key pending => simp [phase] at went

/-- Only an add that the radio acknowledges is kept from failing the pass. -/
theorem addContact_answered (conclusive : Fate.conclusive fate = true)
    (room : (addContact table key fate).1 ≠ .error (some errorTableFull)) :
    (addContact table key fate).1 = .ok := by
  cases fate with
  | answered => rfl
  | error code applied =>
      have full : code = some errorTableFull := of_decide_eq_true conclusive
      exact absurd (congrArg Reply.error full) room
  | raised applied => cases conclusive

theorem send_filling (invariant : FillingInvariant config s)
    (guarded : Guarded config s (.command fate)) (sent : send config s fate = some t) :
    FillingInvariant config t := by
  obtain ⟨noRemoval, at_⟩ := invariant
  unfold send at sent
  split at sent
  · rename_i phase
    simp only [FillingPhase, phase] at at_
  · rename_i phase
    simp only [FillingPhase, phase] at at_
  · rename_i key pending processed passFailed phase
    simp only [Guarded, phase] at guarded
    simp only [FillingPhase, phase] at at_
    obtain ⟨bound, here, acknowledged, failed, retries, count⟩ := at_
    obtain ⟨left, next, rest⟩ := take_drop_cons here.symm
    have noRemoval : ∀ other reply,
        Entry.remove other reply ∉ Entry.add key (addContact s.table key fate).1 :: s.log := by
      intro other reply member
      obtain same | old := List.mem_cons.mp member
      · cases same
      · exact noRemoval other reply old
    have log : (addRadioContact s key fate).2.log =
        .add key (addContact s.table key fate).1 :: s.log := by
      simp only [addRadioContact]
      split <;> rfl
    have index : (addRadioContact s key fate).2.nextIndex = s.nextIndex := by
      simp only [addRadioContact]
      split <;> rfl
    have tries : (addRadioContact s key fate).2.retries = s.retries := by
      simp only [addRadioContact]
      split <;> rfl
    have reply : (addRadioContact s key fate).1 = (addContact s.table key fate).1 := rfl
    simp only [reply] at sent
    split at sent
    · cases sent
      refine ⟨?_, trivial⟩
      simpa only [NoRemoval, log] using noRemoval
    · rename_i room
      cases sent
      refine ⟨by simpa only [NoRemoval, log] using noRemoval, by omega, ?_, fun allOk => ?_,
        fun someFailed => ?_, tries.symm ▸ retries, ?_⟩
      · simp only [index]
        rw [rest]
        rfl
      · obtain ⟨before, ok⟩ := Bool.or_eq_false_iff.mp allOk
        have ok : (addContact s.table key fate).1 = .ok := by simpa using ok
        intro other member
        simp only [log, index, lastPass, List.takeWhile_cons, ok] at member ⊢
        rw [← Nat.add_assoc, next] at member
        obtain old | same := List.mem_append.mp member
        · exact List.mem_cons_of_mem _ (acknowledged before other old)
        · cases List.mem_singleton.mp same
          exact List.mem_cons_self
      · intro more
        have more : MoreBatches config s := by simpa only [MoreBatches, index] using more
        have ok := addContact_answered (guarded more) room
        have before : passFailed = true := by simpa [ok] using someFailed
        exact failed before more
      · simp only [log, tries, passes]
        rw [List.count_cons_of_ne (by simp)]
        exact count
  · cases sent

theorem step_filling (on : config.autoevict = true) (invariant : FillingInvariant config s)
    (guarded : Guarded config s event) (stepped : step config s event = some t) :
    FillingInvariant config t := by
  cases event with
  | lock lock =>
      simp only [step, Option.ite_none_right_eq_some, Option.some.injEq] at stepped
      exact stepped.2 ▸ attempt_filling on invariant.1 stepped.1 invariant.2 lock
  | next => exact goOn_filling invariant stepped
  | command fate => exact send_filling invariant guarded stepped
  | stopped =>
      simp only [step] at stepped
      split at stepped
      · cases stepped
      · cases stepped
        exact ⟨invariant.1, trivial⟩

/-! ### The complete exit -/

/-- What a run that is said to be complete has reached. -/
def Converged (config : Config) (s : State) : Prop :=
  if config.autoevict then
    (∀ key ∈ config.desiredFillContacts, .add key .ok ∈ lastPass s.log) ∧
      passes s.log ≤ maxAutoevictRetries ∧ ∀ key reply, .remove key reply ∉ s.log
  else
    (∀ key, key ∈ s.table ↔ key ∈ config.desiredContacts) ∧
      ∀ key reply, .remove key reply ∈ s.log → key ∉ config.desiredContacts

/-- When no lookup finds another contact and an add fails in the last batch of a pass only, a
reconcile is complete only when it has converged. -/
theorem complete_converged (config : Config) (table : List Key)
    (run : Reaches (step config) (Guarded config) (start table) s)
    (complete : s.phase = .ended .complete) : Converged config s := by
  unfold Converged
  split
  · rename_i on
    have initial : FillingInvariant config (start table) :=
      ⟨nofun, .inl rfl, .zero, Nat.succ_pos 2, rfl⟩
    have invariant := run.invariant (step_filling on) initial
    obtain ⟨noRemoval, at_⟩ := invariant
    simp only [FillingPhase, complete, Acknowledged, List.take_length] at at_
    exact ⟨at_.1, at_.2, noRemoval⟩
  · rename_i off
    have off : config.autoevict = false := eq_false_of_ne_true off
    have initial : ConvergingInvariant config (start table) :=
      ⟨⟨fun _ member _ => member, fun _ member _ => member, nofun⟩, trivial⟩
    have invariant := run.invariant (step_converging off) initial
    obtain ⟨converging, at_⟩ := invariant
    simp only [ConvergingPhase, complete] at at_
    obtain ⟨none_extra, none_missing⟩ := at_
    refine ⟨fun key => ⟨fun member => ?_, fun wanted => ?_⟩, converging.safe⟩
    · by_contra unwanted
      exact unwanted (none_extra key (converging.kept key member unwanted))
    · exact converging.loaded key (none_missing key wanted) wanted

section Examples

/-- `get_contact_by_key_prefix` finds the first key of the cache with this prefix. -/
def firstWithPrefix (keys : List Key) (text : Key) : Option Key :=
  keys.find? fun key => text.isPrefixOf key

def fillKey (c : Char) : Key := c :: List.replicate 63 '0'

/-- Shares its first 12 characters with `fillKey 'a'`. -/
def twinKey : Key := ('a' :: List.replicate 62 '0') ++ ['1']

def filled : Config := ⟨[fillKey 'a', fillKey 'b', fillKey 'c'], true, firstWithPrefix⟩

def twins : Config := ⟨[fillKey 'a', twinKey], false, firstWithPrefix⟩

/-- The first of three contacts fails in the first of two batches. -/
def forgottenFailure : List Event :=
  [.lock (.acquired true), .command (.raised false), .command .answered, .next,
    .lock (.acquired true), .command .answered, .next]

/-- One of two contacts that share a prefix is on the radio. -/
def foundTwin : List Event :=
  [.lock (.acquired true), .next, .next, .next, .next, .next, .lock (.acquired true)]

/-- A pass with a busy radio between its batches; the last contact fails at first. -/
def acknowledgedFill : List Event :=
  [.lock (.acquired true), .command .answered, .command .answered, .next, .lock .busy,
    .lock (.acquired true), .command (.raised true), .next,
    .lock (.acquired true), .command .answered, .command .answered, .next,
    .lock (.acquired true), .command .answered, .next]

/-- The pass that ends the run has every contact acknowledged. -/
theorem acknowledgedFill_converged : ∃ s, s.phase = .ended .complete ∧ Converged filled s := by
  have ran : (executeWhere (step filled) (Guarded filled) (start []) acknowledgedFill).any (fun s =>
      decide (s.phase = .ended .complete)) := by decide +kernel
  obtain ⟨s, executed, holds⟩ := (Option.any_eq_true _ _).mp ran
  have complete := of_decide_eq_true holds
  exact ⟨s, complete, complete_converged filled [] (executeWhere_reaches executed) complete⟩

/-- Both a blind fill and a fill of what is missing end as complete without a contact. -/
theorem complete_not_converged :
    (∃ s, Reaches (step filled) Any (start []) s ∧ s.phase = .ended .complete ∧
      ¬ Converged filled s) ∧
    ∃ s, Reaches (step twins) Any (start [fillKey 'a']) s ∧ s.phase = .ended .complete ∧
      ¬ Converged twins s := by
  constructor
  · have ran : (execute (step filled) (start []) forgottenFailure).any (fun s =>
        decide (s.phase = .ended .complete ∧ .add (fillKey 'a') .ok ∉ s.log)) := by decide +kernel
    obtain ⟨s, executed, holds⟩ := (Option.any_eq_true _ _).mp ran
    obtain ⟨complete, missing⟩ := of_decide_eq_true holds
    refine ⟨s, execute_reaches executed, complete, fun converged => missing ?_⟩
    have wanted : fillKey 'a' ∈ filled.desiredFillContacts := by decide +kernel
    exact List.takeWhile_subset _ (converged.1 _ wanted)
  · have ran : (execute (step twins) (start [fillKey 'a']) foundTwin).any (fun s =>
        decide (s.phase = .ended .complete ∧ twinKey ∉ s.table)) := by decide +kernel
    obtain ⟨s, executed, holds⟩ := (Option.any_eq_true _ _).mp ran
    obtain ⟨complete, missing⟩ := of_decide_eq_true holds
    have wanted : twinKey ∈ twins.desiredContacts := by decide +kernel
    exact ⟨s, execute_reaches executed, complete, fun converged =>
      missing ((converged.1 twinKey).mpr wanted)⟩

end Examples

end Meshloom.ContactReconcile
