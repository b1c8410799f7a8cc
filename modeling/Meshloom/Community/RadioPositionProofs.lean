import Meshloom.Community.RadioPosition

/-! The waiting state is raised by every `self_info` without a position, so only an answer can take
it from such a radio; and whoever changes it saves it after. -/
namespace Meshloom.RadioPosition
open Transition
variable {round : Rat → Nat → Rat} {s t : State}

/-- The waiting state, whether Community is on or not. -/
def Waits (round : Rat → Nat → Rat) (s : State) : Prop :=
  ∀ info, s.info = some info → publishablePosition round info = none → s.positionMissing = true

/-- The stored state is the one that counts, or is about to be. -/
def Saved (s : State) : Prop := .spawned ∈ s.applies ∨ s.storedWaiting = s.positionMissing

theorem Waits.frame (waits : Waits round s) (info : t.info = s.info)
    (missing : t.positionMissing = s.positionMissing) : Waits round t := by
  unfold Waits
  rwa [info, missing]

theorem Saved.frame (saved : Saved s) (applies : t.applies = s.applies)
    (stored : t.storedWaiting = s.storedWaiting) (missing : t.positionMissing = s.positionMissing) :
    Saved t := by
  unfold Saved
  rwa [applies, stored, missing]

@[simp]
theorem setPositionMissing_positionMissing (s : State) (missing : Bool) :
    (setPositionMissing s missing).positionMissing = missing := by
  unfold setPositionMissing
  split
  · rename_i same
    exact same.symm
  · rfl

@[simp]
theorem setPositionMissing_info (s : State) (missing : Bool) :
    (setPositionMissing s missing).info = s.info := by
  unfold setPositionMissing
  split <;> rfl

theorem Saved.setPositionMissing (saved : Saved s) (missing : Bool) :
    Saved (setPositionMissing s missing) := by
  unfold RadioPosition.setPositionMissing
  split
  · exact saved
  · exact .inl (List.mem_append_right _ (List.mem_singleton_self _))

theorem noteRadioPosition_waits (here : s.info = some info) :
    Waits round (noteRadioPosition round s info) := by
  intro other current nowhere
  unfold noteRadioPosition at current ⊢
  split
  · exact setPositionMissing_positionMissing s true
  rename_i placed
  have same : (some info : Option SelfInfo) = some other := by
    rw [if_neg placed] at current
    split at current
    · rwa [setPositionMissing_info, here] at current
    · rwa [here] at current
  cases same
  exact (placed nowhere).elim

theorem Saved.noteRadioPosition (saved : Saved s) (info : SelfInfo) :
    Saved (noteRadioPosition round s info) := by
  unfold RadioPosition.noteRadioPosition
  split
  · exact saved.setPositionMissing true
  · split
    · exact saved.setPositionMissing false
    · exact saved

/-- What the worker does on a `self_info` leaves the waiting state alone. -/
theorem noteRadioSelfInfo_worker (round : Rat → Nat → Rat) (s : State) (info : SelfInfo) : ∃ worker,
    noteRadioSelfInfo round s info =
      { noteRadioPosition round { s with info := some info } info with worker } := by
  simp only [noteRadioSelfInfo]
  split
  · exact ⟨_, rfl⟩
  · split
    · exact ⟨_, rfl⟩
    · exact ⟨_, rfl⟩
    · exact ⟨_, rfl⟩
    · exact ⟨_, rfl⟩

theorem endBind_worker (s : State) (kind : Kind) (outcome : RebindOutcome) :
    ∃ worker, endBind s kind outcome = { s with bind := none, worker } := by
  unfold endBind
  split
  · exact ⟨_, rfl⟩
  · exact ⟨_, rfl⟩

theorem noteBound_waits (waits : Waits round s)
    (placed : (info.bind (publishablePosition round)).isSome = true →
      ∀ current ∈ s.info, publishablePosition round current ≠ none) :
    Waits round (noteBound round s info) := by
  simp only [noteBound]
  split
  · rename_i carried
    intro current here nowhere
    rw [setPositionMissing_info] at here
    exact (placed carried current here nowhere).elim
  · exact waits.frame rfl rfl

theorem Saved.noteBound (saved : Saved s) (info : Option SelfInfo) :
    Saved (noteBound round s info) := by
  have bound : Saved { s with lastBound := some ((info.map (boundKey round)).getD ("", none)) } :=
    saved.frame rfl rfl rfl
  simp only [RadioPosition.noteBound]
  split
  · exact bound.setPositionMissing false
  · exact bound

theorem answer_keeps (waits : Waits round s) (placed : StillPlaced round s (.answered iata))
    (answered : answer round s iata = some t) : Waits round t := by
  simp only [answer] at answered
  split at answered
  · rename_i kind _ info asking
    simp only [StillPlaced, asking] at placed
    have noted := noteBound_waits waits placed
    split at answered
    · cases answered
      obtain ⟨worker, same⟩ := endBind_worker (noteBound round s info) .rebind .sent
      exact noted.frame (by rw [same]) (by rw [same])
    · cases answered
      exact noted.frame rfl rfl
    · cases answered
      exact noted.frame rfl rfl
  · contradiction

theorem answer_saved (saved : Saved s) (answered : answer round s iata = some t) : Saved t := by
  simp only [answer] at answered
  split at answered
  · rename_i kind _ info asking
    have noted : Saved (noteBound round s info) := saved.noteBound info
    split at answered
    · cases answered
      obtain ⟨worker, same⟩ := endBind_worker (noteBound round s info) .rebind .sent
      exact noted.frame (by rw [same]) (by rw [same]) (by rw [same])
    · cases answered
      exact noted.frame rfl rfl rfl
    · cases answered
      exact noted.frame rfl rfl rfl
  · contradiction

/-- A task that saves or has saved goes on. -/
theorem Saved.advance {i : Nat} {stage : Apply} {applies : List Apply} (saved : Saved s)
    (found : s.applies[i]? = some stage) (later : stage ≠ .spawned)
    (kept : ∀ k, k ≠ i → s.applies[k]? = some .spawned → .spawned ∈ applies) :
    Saved { s with applies } := by
  refine saved.imp_left fun spawned => ?_
  obtain ⟨k, listed⟩ := List.getElem?_of_mem spawned
  refine kept k ?_ listed
  rintro rfl
  exact later (Option.some.inj (found.symm.trans listed))

theorem step_waits (waits : Waits round s) (placed : StillPlaced round s e)
    (stepped : step round s e = some t) : Waits round t := by
  cases e <;> simp only [step] at stepped
  case selfInfo info =>
    cases stepped
    obtain ⟨worker, same⟩ := noteRadioSelfInfo_worker round s info
    have noted : Waits round (noteRadioPosition round { s with info := some info } info) :=
      noteRadioPosition_waits rfl
    rw [same]
    exact noted.frame rfl rfl
  case answered iata => exact answer_keeps waits placed stepped
  case bindFails refused =>
    split at stepped
    · cases stepped
      obtain ⟨worker, same⟩ := endBind_worker s _ (if refused then .skipped else .failed)
      rw [same]
      exact waits.frame rfl rfl
    · contradiction
  case saved ok =>
    split at stepped
    · cases stepped
      split <;> exact waits.frame rfl rfl
    · contradiction
  case rebindStarts =>
    split at stepped
    · split at stepped <;>
      · cases stepped
        exact waits.frame rfl rfl
    · contradiction
  case bindStarts | workerWakes | optOut | saves | saveDone | aligned =>
    split at stepped
    all_goals first | contradiction | (cases stepped; exact waits.frame rfl rfl)

theorem step_saved (saved : Saved s) (stepped : step round s e = some t) : Saved t := by
  cases e <;> simp only [step] at stepped
  case selfInfo info =>
    cases stepped
    obtain ⟨worker, same⟩ := noteRadioSelfInfo_worker round s info
    have informed : Saved { s with info := some info } := saved.frame rfl rfl rfl
    rw [same]
    exact (informed.noteRadioPosition info).frame rfl rfl rfl
  case answered iata => exact answer_saved saved stepped
  case bindFails refused =>
    split at stepped
    · cases stepped
      obtain ⟨worker, same⟩ := endBind_worker s _ (if refused then .skipped else .failed)
      rw [same]
      exact saved.frame rfl rfl rfl
    · contradiction
  case saved ok =>
    split at stepped
    · cases stepped
      split <;> exact saved.frame rfl rfl rfl
    · contradiction
  case rebindStarts =>
    split at stepped
    · split at stepped <;>
      · cases stepped
        exact saved.frame rfl rfl rfl
    · contradiction
  case bindStarts | workerWakes | optOut =>
    split at stepped
    all_goals first | contradiction | (cases stepped; exact saved.frame rfl rfl rfl)
  case saves i =>
    split at stepped
    · cases stepped
      exact .inr rfl
    · contradiction
  case saveDone i =>
    split at stepped
    · rename_i found
      cases stepped
      refine saved.advance found (by simp) fun k different listed => ?_
      exact List.mem_of_getElem? ((List.getElem?_set_ne different.symm).trans listed)
    · contradiction
  case aligned i =>
    split at stepped
    · rename_i found
      cases stepped
      refine saved.advance found (by simp) fun k different listed => ?_
      exact List.mem_eraseIdx_iff_getElem?.mpr ⟨k, different, listed⟩
    · contradiction

theorem waiting_follows {enabled waiting : Bool} {iata : String}
    (run : Reaches (step round) (StillPlaced round) (start enabled iata waiting) s) :
    FollowsRadio round s := by
  have waits : Waits round s := run.invariant step_waits fun info here => by contradiction
  have saved : Saved s := run.invariant (fun saved _ => step_saved saved) (.inr rfl)
  refine ⟨fun _ _ => waits, fun none => saved.resolve_left ?_⟩
  simp [none]

/-- A radio in Vienna, and one without a position. -/
def placed : SelfInfo := ⟨.int 48, .int 16, .int 1, .text "AB12"⟩

def unplaced : SelfInfo := ⟨.int 0, .int 0, .int 1, .text "AB12"⟩

/-- Rounding of whole numbers. -/
def whole (x : Rat) (_ : Nat) : Rat := x

theorem moved_follows : ∃ s : State,
    (s.enabled = true ∧ s.info = some unplaced ∧ s.applies = [.saving]) ∧ FollowsRadio whole s := by
  have ran : (executeWhere (step whole) (StillPlaced whole) (start false "" false)
      [.selfInfo placed, .bindStarts .join "VIE", .answered "VIE", .saved true, .selfInfo unplaced,
        .saves 0]).any (fun s =>
      decide (s.enabled = true ∧ s.info = some unplaced ∧ s.applies = [.saving])) = true := by
    decide +kernel
  obtain ⟨s, executed, holds⟩ := (Option.any_eq_true _ _).mp ran
  exact ⟨s, of_decide_eq_true holds, waiting_follows (executeWhere_reaches executed)⟩

/-- The answer to a bind with the old position ends the wait that the new `self_info` began. -/
theorem late_answer_resumes : ∃ s : State,
    Reaches (step whole) Any (start true "VIE" false) s ∧ ¬ FollowsRadio whole s ∧
      s.enabled = true ∧ s.bindInFlight = false ∧ s.info = some unplaced ∧ s.positionMissing = false := by
  have ran : (execute (step whole) (start true "VIE" false)
      [.selfInfo placed, .workerWakes, .rebindStarts, .selfInfo unplaced, .answered "VIE"]).any
      (fun s => decide (s.enabled = true ∧ s.bindInFlight = false ∧ s.info = some unplaced ∧
        s.positionMissing = false)) = true := by
    decide +kernel
  obtain ⟨s, executed, holds⟩ := (Option.any_eq_true _ _).mp ran
  have wrong := of_decide_eq_true holds
  refine ⟨s, execute_reaches executed, ?_, wrong⟩
  obtain ⟨on, free, info, missing⟩ := wrong
  intro follows
  have waits := follows.waits on free unplaced info (by decide +kernel)
  exact Bool.false_ne_true (missing.symm.trans waits)

end Meshloom.RadioPosition
