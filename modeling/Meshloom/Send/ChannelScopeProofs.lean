import Meshloom.Send.ChannelScope

/-! Overrides of a channel send are undone, and the message goes out in the scope that
was asked for. -/
namespace Meshloom.ChannelScope
open Text ChannelSlots
variable {pyRepr : List Char → String} {request : Request} {replies : Replies}

theorem normalizeRegionScope_fixed {scope : List Char} (stripped : strip scope = scope)
    (named : scope.head? = some '#') : normalizeRegionScope (some scope) = scope := by
  have proper : scope ∉ unscopedSentinels := by
    intro sentinel
    simp only [unscopedSentinels, List.mem_cons, List.not_mem_nil, or_false] at sentinel
    obtain rfl | rfl | rfl := sentinel <;> simp at named
  simp only [normalizeRegionScope, Option.getD_some, stripped, if_neg proper, if_pos named]

/-- A normalized name is normalized to itself. -/
theorem normalizeRegionScope_idem (scope : Option (List Char)) :
    normalizeRegionScope (some (normalizeRegionScope scope)) = normalizeRegionScope scope := by
  have trimmed := strip_fixed (head_strip (scope.getD [])) (last_strip _)
  generalize target : normalizeRegionScope scope = name
  simp only [normalizeRegionScope] at target
  split at target
  · subst target
    decide
  split at target
  · rename_i named
    subst target
    exact normalizeRegionScope_fixed trimmed named
  · rename_i proper _
    subst target
    refine normalizeRegionScope_fixed (strip_fixed ?_ ?_) rfl
    · intro c first
      cases first
      decide
    · intro c last
      apply last_strip (scope.getD [])
      generalize strip (scope.getD []) = rest at *
      cases rest with
      | nil => simp [unscopedSentinels] at proper
      | cons d rest => simpa using last

/-- The scope that the radio has in force after it was told to use a scope. Firmware
without the unscoped mode falls back to the default scope of the radio. -/
def scopeFor (fwVer : Option Nat) (defaultScope scope : List Char) : List Char :=
  if scope = [] ∧ firmwareSupportsUnscopedMode fwVer = false then defaultScope else scope

/-- The scope that a send asks for: the one of the send, else the one of the channel,
else the global one. -/
def requestedScope (request : Request) : List Char :=
  match request.floodScopeOverride with
  | some override => normalizeRegionScope (some override)
  | none =>
    match request.channel.floodScopeOverride with
    | some channelOverride => normalizeRegionScope (some channelOverride)
    | none => normalizeRegionScope (some request.globalScope)

section Command
variable (fwVer : Option Nat) (scope : List Char) (radio : Radio)

@[simp]
theorem setRadioFloodScope_defaultScope :
    (setRadioFloodScope fwVer scope radio).defaultScope = radio.defaultScope := by
  simp only [setRadioFloodScope]
  split_ifs <;> rfl

@[simp]
theorem setRadioFloodScope_pathHashMode :
    (setRadioFloodScope fwVer scope radio).pathHashMode = radio.pathHashMode := by
  simp only [setRadioFloodScope]
  split_ifs <;> rfl

theorem setRadioFloodScope_floodScope {scope : List Char}
    (normal : normalizeRegionScope (some scope) = scope) :
    (setRadioFloodScope fwVer scope radio).floodScope = scopeFor fwVer radio.defaultScope scope := by
  simp only [setRadioFloodScope, normal, scopeFor]
  by_cases plain : scope = []
  · subst plain
    cases firmwareSupportsUnscopedMode fwVer <;>
      simp [Radio.floodScope, Radio.setFloodScope, Radio.forceUnscoped]
  · simp [plain, Radio.floodScope, Radio.setFloodScope]

end Command

/-- Either the send and the channel leave the scope open, or the desired scope is the
requested one. -/
theorem desiredScope_cases (request : Request) :
    desiredScope request = (requestedScope request, true) ∨ desiredScope request = ([], false) ∧
      requestedScope request = normalizeRegionScope (some request.globalScope) := by
  unfold desiredScope requestedScope
  cases override : request.floodScopeOverride with
  | some name => exact .inl rfl
  | none =>
      cases channelOverride : request.channel.floodScopeOverride with
      | none => exact .inr ⟨rfl, rfl⟩
      | some name =>
          left
          simp only [isUnscoped, Option.getD_some, decide_eq_true_eq]
          split
          · rename_i sentinel
            simp only [normalizeRegionScope, Option.getD_some, if_pos sentinel]
          · rfl

/-- An override that is applied is the requested scope, over the global one. -/
theorem appliesScope_true (applies : appliesScope request = true) :
    (desiredScope request).1 = requestedScope request ∧
      baselineScope request = normalizeRegionScope (some request.globalScope) := by
  obtain explicit | ⟨implicit, _⟩ := desiredScope_cases request
  · simp [baselineScope, explicit]
  · simp [appliesScope, implicit] at applies

/-- Where no override is applied, the requested scope is the global one. -/
theorem appliesScope_false (applies : appliesScope request = false) :
    requestedScope request = normalizeRegionScope (some request.globalScope) := by
  obtain explicit | ⟨_, inherited⟩ := desiredScope_cases request
  · simpa [appliesScope, baselineScope, explicit] using applies
  · exact inherited

theorem requestedScope_normal (request : Request) :
    normalizeRegionScope (some (requestedScope request)) = requestedScope request := by
  unfold requestedScope
  split
  · exact normalizeRegionScope_idem _
  split <;> exact normalizeRegionScope_idem _

/-- The radio succeeded, refused or raised. -/
def Reply.Answered : Reply → Prop
  | .ok | .error _ _ | .raised _ => True
  | .silent _ => False

structure Replies.Answered (replies : Replies) : Prop where
  applyScope : replies.applyScope.Answered
  applyPhm : replies.applyPhm.Answered
  restoreScope : ∀ attempt < 3, (replies.restoreScope attempt).Answered
  restorePhm : ∀ attempt < 3, (replies.restorePhm attempt).Answered

/-- Nothing but the slots and what was sent differs. -/
structure SameRoute (s t : State) : Prop where
  scopeMode : t.radio.scopeMode = s.radio.scopeMode
  defaultScope : t.radio.defaultScope = s.radio.defaultScope
  pathHashMode : t.radio.pathHashMode = s.radio.pathHashMode
  firmware : t.manager.firmwareVerCode = s.manager.firmwareVerCode

theorem SameRoute.refl (s : State) : SameRoute s s := ⟨rfl, rfl, rfl, rfl⟩

theorem SameRoute.trans (first : SameRoute s t) (second : SameRoute t u) : SameRoute s u :=
  ⟨second.scopeMode.trans first.scopeMode, second.defaultScope.trans first.defaultScope,
    second.pathHashMode.trans first.pathHashMode, second.firmware.trans first.firmware⟩

theorem SameRoute.floodScope (same : SameRoute s t) : t.radio.floodScope = s.radio.floodScope := by
  simp only [Radio.floodScope, same.scopeMode, same.defaultScope]

theorem perform_keeps {Q : Radio → Prop} {command : Radio → Radio}
    (keeps : ∀ radio, Q radio → Q (command radio)) (reply : Reply) (before : Q radio) :
    Q (reply.perform command radio) := by
  unfold Reply.perform
  split
  · exact keeps _ before
  · exact before

section Restore
variable (command : Radio → Radio)

theorem restore_keeps {Q : Radio → Prop} (keeps : ∀ radio, Q radio → Q (command radio))
    (attempts : List Reply) (before : Q radio) : Q (restore command attempts radio).1 := by
  induction attempts generalizing radio with
  | nil => exact before
  | cons reply later ih =>
      have after := perform_keeps keeps reply before
      cases reply with
      | ok | silent => exact after
      | error | raised => exact ih after

/-- One success among the attempts is enough, whatever the others did. -/
theorem restore_establishes {P : Radio → Prop} {command : Radio → Radio} (establishes : ∀ radio, P (command radio))
    {attempts : List Reply} (answered : ∀ reply ∈ attempts, reply.Answered)
    (success : Reply.ok ∈ attempts) (radio : Radio) : P (restore command attempts radio).1 := by
  induction attempts generalizing radio with
  | nil => contradiction
  | cons reply later ih =>
      cases reply with
      | ok => exact establishes _
      | silent => exact (answered _ List.mem_cons_self).elim
      | error | raised =>
          refine ih (fun other member => answered other (List.mem_cons_of_mem _ member)) ?_ _
          simpa using success

end Restore

section Stages
variable (pyRepr request replies) (s : State)

theorem applyScope_frame :
    (applyScope pyRepr request replies s).1.radio.defaultScope = s.radio.defaultScope ∧
      (applyScope pyRepr request replies s).1.radio.pathHashMode = s.radio.pathHashMode ∧
      (applyScope pyRepr request replies s).1.manager = s.manager ∧
      (applyScope pyRepr request replies s).1.issued = s.issued := by
  unfold applyScope
  split
  · cases replies.applyScope with
    | ok => simp [Reply.perform, Reply.applied]
    | error payload applied => cases applied <;> simp [Reply.perform, Reply.applied]
    | raised applied => cases applied <;> simp [Reply.perform, Reply.applied]
    | silent applied => cases applied <;> simp [Reply.perform, Reply.applied]
  · exact ⟨rfl, rfl, rfl, rfl⟩

theorem applyScope_skipped (skipped : appliesScope request = false) :
    applyScope pyRepr request replies s = (s, none) := by
  simp [applyScope, skipped]

/-- An override that was answered and did not fail is in force. -/
theorem applyScope_applied (applies : appliesScope request = true)
    (answered : replies.applyScope.Answered)
    (passed : (applyScope pyRepr request replies s).2 = none) :
    replies.applyScope = .ok ∧ (applyScope pyRepr request replies s).1.radio.floodScope =
      scopeFor s.manager.firmwareVerCode s.radio.defaultScope (requestedScope request) := by
  have normal := requestedScope_normal request
  rw [← (appliesScope_true applies).1] at normal ⊢
  simp only [applyScope, applies, if_true] at passed ⊢
  cases reply : replies.applyScope with
  | ok => exact ⟨rfl, setRadioFloodScope_floodScope _ _ normal⟩
  | error => simp [reply] at passed
  | raised => simp [reply] at passed
  | silent =>
      rw [reply] at answered
      exact answered.elim

theorem applyPhm_frame :
    (applyPhm request replies s).1.radio.scopeMode = s.radio.scopeMode ∧
      (applyPhm request replies s).1.radio.defaultScope = s.radio.defaultScope ∧
      (applyPhm request replies s).1.manager = s.manager ∧
      (applyPhm request replies s).1.issued = s.issued := by
  unfold applyPhm
  split
  · split
    · cases replies.applyPhm with
      | ok => exact ⟨rfl, rfl, rfl, rfl⟩
      | error payload applied => cases applied <;> exact ⟨rfl, rfl, rfl, rfl⟩
      | raised applied => cases applied <;> exact ⟨rfl, rfl, rfl, rfl⟩
      | silent applied => cases applied <;> exact ⟨rfl, rfl, rfl, rfl⟩
    · exact ⟨rfl, rfl, rfl, rfl⟩
  · exact ⟨rfl, rfl, rfl, rfl⟩

theorem applyPhm_skipped (skipped : appliesPhm request s.manager = false) :
    applyPhm request replies s = (s, none) := by
  unfold applyPhm
  split
  · simp [skipped]
  · rfl

theorem configureSlot_same (plan : Manager.Plan) :
    SameRoute s (configureSlot request replies plan s).1 ∧
      (configureSlot request replies plan s).1.issued = s.issued := by
  unfold configureSlot
  split
  · cases replies.setChannel with
    | ok =>
        simp only [SetReply.applied, if_true]
        split <;> exact ⟨⟨rfl, rfl, rfl, rfl⟩, rfl⟩
    | error applied => cases applied <;> exact ⟨⟨rfl, rfl, rfl, rfl⟩, rfl⟩
    | raised applied => cases applied <;> exact ⟨⟨rfl, rfl, rfl, rfl⟩, rfl⟩
    | none applied => cases applied <;> exact ⟨⟨rfl, rfl, rfl, rfl⟩, rfl⟩
  · exact ⟨.refl s, rfl⟩

theorem transmit_same :
    SameRoute s (transmit request replies s).1 ∧
      (transmit request replies s).1.issued = some s.radio := by
  simp only [transmit]
  cases replies.send with
  | raised | none => exact ⟨⟨rfl, rfl, rfl, rfl⟩, rfl⟩
  | ok | error => cases request.registerSlot <;> exact ⟨⟨rfl, rfl, rfl, rfl⟩, rfl⟩

theorem sendGuarded_failed (failed : (applyScope pyRepr request replies s).2 ≠ none) :
    (sendGuarded pyRepr request replies s).1 = (applyScope pyRepr request replies s).1 := by
  unfold sendGuarded
  split
  · rename_i eq
    rw [eq]
  · rename_i eq
    rw [eq] at failed
    contradiction

/-- Past the two overrides nothing touches the route, and what is sent is sent over it. -/
theorem sendGuarded_passed {ranged : State}
    (passed : applyScope pyRepr request replies s = (ranged, none)) :
    SameRoute (applyPhm request replies ranged).1 (sendGuarded pyRepr request replies s).1 ∧
      ∀ radio, (sendGuarded pyRepr request replies s).1.issued = some radio →
        ranged.issued = some radio ∨
          radio.floodScope = (applyPhm request replies ranged).1.radio.floodScope := by
  have unsent := (applyPhm_frame request replies ranged).2.2.2
  simp only [sendGuarded, passed]
  generalize applyPhm request replies ranged = hashed at *
  obtain ⟨hashed, _ | failure⟩ := hashed
  · simp only
    cases planSlot request hashed with
    | none => exact ⟨.refl _, fun radio sent => .inl (unsent ▸ sent)⟩
    | some plan =>
        have configured := configureSlot_same request replies hashed plan
        simp only
        generalize configureSlot request replies plan hashed = slotted at *
        obtain ⟨slotted, _ | failure⟩ := slotted
        · have sent := transmit_same request replies slotted
          refine ⟨configured.1.trans sent.1, ?_⟩
          intro radio issued
          rw [sent.2] at issued
          cases issued
          exact .inr configured.1.floodScope
        · exact ⟨configured.1, fun radio sent => .inl (unsent ▸ configured.2 ▸ sent)⟩
  · exact ⟨.refl _, fun radio sent => .inl (unsent ▸ sent)⟩

end Stages

/-- The hash-mode override was attempted: it applies, and the scope override before it
did not fail. -/
def PhmAttempted (request : Request) (replies : Replies) (manager : RadioManager) : Prop :=
  appliesPhm request manager = true ∧ (appliesScope request = true → replies.applyScope = .ok)

section Run
variable (pyRepr request replies)

theorem restoreScope_frame (s : State) :
    (restoreScope request replies s).radio.defaultScope = s.radio.defaultScope ∧
      (restoreScope request replies s).radio.pathHashMode = s.radio.pathHashMode ∧
      (restoreScope request replies s).issued = s.issued := by
  unfold restoreScope
  split
  · have kept := restore_keeps (setRadioFloodScope s.manager.firmwareVerCode (baselineScope request))
      (Q := fun radio => radio.defaultScope = s.radio.defaultScope ∧
        radio.pathHashMode = s.radio.pathHashMode)
      (fun radio before => by simpa using before)
      ((List.range 3).map replies.restoreScope) ⟨rfl, rfl⟩
    exact ⟨kept.1, kept.2, rfl⟩
  · exact ⟨rfl, rfl, rfl⟩

theorem restorePhm_frame (mode : Nat) (applies : Bool) (s : State) :
    (restorePhm request replies mode applies s).radio.floodScope = s.radio.floodScope ∧
      (restorePhm request replies mode applies s).issued = s.issued := by
  unfold restorePhm
  split
  · exact ⟨restore_keeps (·.setPathHashMode mode)
      (Q := fun radio => radio.floodScope = s.radio.floodScope) (fun _ before => before) _ rfl, rfl⟩
  · exact ⟨rfl, rfl⟩

theorem ok_mem_attempts {attempts : Nat → Reply} (success : ∃ attempt < 3, attempts attempt = .ok) :
    Reply.ok ∈ (List.range 3).map attempts := by
  obtain ⟨attempt, bound, ok⟩ := success
  exact List.mem_map.mpr ⟨attempt, List.mem_range.mpr bound, ok⟩

theorem answered_attempts {attempts : Nat → Reply} (answered : ∀ i < 3, (attempts i).Answered) :
    ∀ reply ∈ (List.range 3).map attempts, reply.Answered := by
  intro reply member
  obtain ⟨attempt, bound, rfl⟩ := List.mem_map.mp member
  exact answered attempt (List.mem_range.mp bound)

theorem restoreScope_restores (s : State) (applies : appliesScope request = true)
    (answered : replies.Answered) (success : ∃ attempt < 3, replies.restoreScope attempt = .ok) :
    (restoreScope request replies s).radio.floodScope = scopeFor s.manager.firmwareVerCode
      s.radio.defaultScope (normalizeRegionScope (some request.globalScope)) := by
  have normal := normalizeRegionScope_idem (some request.globalScope)
  simp only [restoreScope, applies, if_true, (appliesScope_true applies).2]
  refine (restore_establishes (P := fun radio => radio.defaultScope = s.radio.defaultScope →
    radio.floodScope = scopeFor s.manager.firmwareVerCode s.radio.defaultScope
      (normalizeRegionScope (some request.globalScope))) ?_
    (answered_attempts answered.restoreScope) (ok_mem_attempts success) s.radio) ?_
  · intro radio same
    rw [setRadioFloodScope_floodScope _ _ normal, ← same, setRadioFloodScope_defaultScope]
  · exact restore_keeps _ (Q := fun radio => radio.defaultScope = s.radio.defaultScope)
      (fun radio before => by simpa using before) _ rfl

theorem restorePhm_restores (s : State) (answered : replies.Answered)
    (success : s.radio.pathHashMode = mode ∨ applies = true ∧
      ∃ attempt < 3, replies.restorePhm attempt = .ok) :
    (restorePhm request replies mode applies s).radio.pathHashMode = mode := by
  obtain already | ⟨rfl, success⟩ := success
  · unfold restorePhm
    split
    · exact restore_keeps _ (Q := fun radio => radio.pathHashMode = mode) (fun _ _ => rfl) _ already
    · exact already
  · exact restore_establishes (P := fun radio => radio.pathHashMode = mode) (fun _ => rfl)
      (answered_attempts answered.restorePhm) (ok_mem_attempts success) s.radio

/-- What holds of the radio where the guarded block ends. -/
structure Guarded (request : Request) (replies : Replies) (s after : State) : Prop where
  defaultScope : after.radio.defaultScope = s.radio.defaultScope
  firmware : after.manager.firmwareVerCode = s.manager.firmwareVerCode
  untouched : appliesScope request = false → after.radio.floodScope = s.radio.floodScope
  hashed : after.radio.pathHashMode = s.radio.pathHashMode ∨ PhmAttempted request replies s.manager
  sent : ∀ radio, after.issued = some radio → appliesScope request = false ∧
    radio.floodScope = s.radio.floodScope ∨ radio.floodScope =
      scopeFor s.manager.firmwareVerCode s.radio.defaultScope (requestedScope request)

theorem sendGuarded_spec (s : State) (answered : replies.Answered) (unsent : s.issued = none) :
    Guarded request replies s (sendGuarded pyRepr request replies s).1 := by
  obtain ⟨sameDefault, sameMode, sameManager, sameIssued⟩ :=
    applyScope_frame pyRepr request replies s
  by_cases passed : (applyScope pyRepr request replies s).2 = none
  · obtain ⟨ranged, eq⟩ : ∃ ranged, applyScope pyRepr request replies s = (ranged, none) :=
      ⟨_, Prod.ext rfl passed⟩
    obtain ⟨same, sent⟩ := sendGuarded_passed pyRepr request replies s eq
    obtain ⟨scopeMode, default', manager, _⟩ := applyPhm_frame request replies ranged
    have applied := applyScope_applied pyRepr request replies s
    rw [eq] at sameDefault sameMode sameManager sameIssued applied
    have scope : (applyPhm request replies ranged).1.radio.floodScope = ranged.radio.floodScope := by
      simp only [Radio.floodScope, scopeMode, default']
    have skipped (inherits : appliesScope request = false) : ranged = s := by
      rw [applyScope_skipped pyRepr request replies s inherits] at eq
      exact (Prod.mk.inj eq).1.symm
    refine ⟨?_, ?_, ?_, ?_, ?_⟩
    · rw [same.defaultScope, default', sameDefault]
    · rw [same.firmware, manager, sameManager]
    · intro inherits
      rw [same.floodScope, scope, skipped inherits]
    · cases attempted : appliesPhm request s.manager with
      | true => exact .inr ⟨attempted, fun applies => (applied applies answered.applyScope rfl).1⟩
      | false =>
          left
          rw [same.pathHashMode, applyPhm_skipped request replies ranged (by rw [sameManager, attempted]),
            sameMode]
    · intro radio issued
      obtain before | routed := sent radio issued
      · rw [sameIssued, unsent] at before
        contradiction
      · rw [routed, scope]
        cases inherits : appliesScope request with
        | true => exact .inr (applied inherits answered.applyScope rfl).2
        | false => exact .inl ⟨rfl, by rw [skipped inherits]⟩
  · rw [sendGuarded_failed pyRepr request replies s passed]
    refine ⟨sameDefault, congrArg _ sameManager, ?_, .inl sameMode, ?_⟩
    · intro inherits
      rw [applyScope_skipped pyRepr request replies s inherits]
    · intro radio issued
      rw [sameIssued, unsent] at issued
      contradiction

end Run

/-- However the radio answers, a send leaves its scope and its path hash mode as they were,
as long as one attempt to restore each of the overrides it tried succeeds, and a message
goes out in the scope that was asked for. Where the firmware has no unscoped mode, the
unscoped state of the radio is its default scope. -/
theorem overrides_undone (pyRepr : List Char → String) (request : Request) (replies : Replies)
    (s : State) (answered : replies.Answered) (unsent : s.issued = none)
    (standing : s.radio.floodScope = scopeFor s.manager.firmwareVerCode s.radio.defaultScope
      (normalizeRegionScope (some request.globalScope)))
    (hashing : s.radio.pathHashMode = s.manager.pathHashMode)
    (scopeRestored : appliesScope request = true → ∃ attempt < 3, replies.restoreScope attempt = .ok)
    (phmRestored : PhmAttempted request replies s.manager →
      ∃ attempt < 3, replies.restorePhm attempt = .ok) :
    let after := (sendChannelMessageWithEffectiveScope pyRepr request replies s).1
    after.radio.floodScope = scopeFor s.manager.firmwareVerCode s.radio.defaultScope
        (normalizeRegionScope (some request.globalScope)) ∧
      after.radio.pathHashMode = s.manager.pathHashMode ∧
      ∀ radio, after.issued = some radio → radio.floodScope =
        scopeFor s.manager.firmwareVerCode s.radio.defaultScope (requestedScope request) := by
  intro after
  obtain ⟨default', firmware, untouched, hashed, sent⟩ :=
    sendGuarded_spec pyRepr request replies s answered unsent
  set guarded := (sendGuarded pyRepr request replies s).1
  have restoredFrame := restoreScope_frame request replies guarded
  have afterEq : after = restorePhm request replies s.manager.pathHashMode
      (appliesPhm request s.manager) (restoreScope request replies guarded) := rfl
  have finalFrame := restorePhm_frame request replies s.manager.pathHashMode
    (appliesPhm request s.manager) (restoreScope request replies guarded)
  rw [afterEq]
  refine ⟨?_, ?_, ?_⟩
  · rw [finalFrame.1]
    cases applies : appliesScope request with
    | true =>
        rw [restoreScope_restores request replies guarded applies answered (scopeRestored applies), firmware, default']
    | false =>
        rw [restoreScope, applies, if_neg Bool.false_ne_true, untouched applies, standing]
  · refine restorePhm_restores request replies _ answered ?_
    rw [restoredFrame.2.1]
    obtain kept | attempted := hashed
    · exact .inl (kept.trans hashing)
    · exact .inr ⟨attempted.1, phmRestored attempted⟩
  · intro radio issued
    rw [finalFrame.2, restoredFrame.2.2] at issued
    obtain ⟨inherits, same⟩ | asked := sent radio issued
    · rw [same, standing, appliesScope_false inherits]
    · exact asked

/-- A send without a scope, over the global scope `#home`, on a channel with a hash mode
of its own. -/
def plainSend : Request where
  channel := ⟨"test", none, some 1⟩
  channelKey := "AB"
  actionLabel := "sending message"
  tempRadioSlot := 0
  floodScopeOverride := some []
  registerSlot := false
  globalScope := ['h', 'o', 'm', 'e']

/-- The hash mode is refused and every restore takes more than one attempt. -/
def flakyReplies : Replies where
  applyScope := .ok
  applyPhm := .error "timeout" true
  setChannel := .ok
  send := .ok
  restoreScope attempt := if attempt = 2 then .ok else .error "busy" false
  restorePhm attempt := if attempt = 1 then .ok else .raised false

/-- Every command succeeds. -/
def smoothReplies : Replies where
  applyScope := .ok
  applyPhm := .ok
  setChannel := .ok
  send := .ok
  restoreScope _ := .ok
  restorePhm _ := .ok

/-- A radio in the scope `#home` whose own default scope is `#city`. -/
def homeState (firmwareVerCode : Option Nat) : State where
  radio := ⟨.region ['#', 'h', 'o', 'm', 'e'], ['#', 'c', 'i', 't', 'y'], 0, fun _ => none⟩
  manager := ⟨⟨.empty, .empty, false, none, false, some 8⟩, firmwareVerCode, 0, true⟩
  notices := []
  issued := none

theorem flaky_send_undone :
    (sendChannelMessageWithEffectiveScope (fun _ => "''") plainSend flakyReplies
      (homeState (some 12))).1.radio.floodScope = ['#', 'h', 'o', 'm', 'e'] := by
  have answered : flakyReplies.Answered := by
    refine ⟨trivial, trivial, ?_, ?_⟩ <;> intro attempt _ <;>
      simp only [flakyReplies] <;> split <;> trivial
  exact (overrides_undone (fun _ => "''") plainSend flakyReplies (homeState (some 12)) answered rfl
    (by decide) rfl (fun _ => ⟨2, by decide, rfl⟩) fun _ => ⟨1, by decide, rfl⟩).1

/-- Without the unscoped mode a plain flood that was asked for goes out in the default
scope of the radio, although every command succeeds. -/
theorem plain_send_scoped :
    (homeState none).radio.floodScope = normalizeRegionScope (some plainSend.globalScope) ∧
      (homeState none).radio.pathHashMode = (homeState none).manager.pathHashMode ∧
      smoothReplies.Answered ∧ (∀ attempt, smoothReplies.restoreScope attempt = .ok) ∧
      (∀ attempt, smoothReplies.restorePhm attempt = .ok) ∧
      ∃ radio, (sendChannelMessageWithEffectiveScope (fun _ => "''") plainSend smoothReplies
        (homeState none)).1.issued = some radio ∧ radio.floodScope ≠ requestedScope plainSend := by
  have answered : smoothReplies.Answered :=
    ⟨trivial, trivial, fun _ _ => trivial, fun _ _ => trivial⟩
  refine ⟨by decide, rfl, answered, fun _ => rfl, fun _ => rfl, _, rfl, by decide⟩

end Meshloom.ChannelScope
