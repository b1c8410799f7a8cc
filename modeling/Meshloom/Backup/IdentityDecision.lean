import Meshloom.Text

/-! What a restore may do with the radio identity, and the confirmations it needs
(`app/services/backup_restore.py`). -/
namespace Meshloom.BackupRestore
open Text

abbrev Text := List Char

/-- `RadioIdentityState` -/
inductive Gate where
  | identityMismatch
  | identityUnboundLegacy
  deriving DecidableEq, Repr

inductive Code where
  | backupIdentityNeedsRadio
  | backupIdentityConflict
  | backupIdentityReplacesLive
  | backupIdentityWipeRequired
  | v1Backup
  | noIdentity
  | stepOff
  | identityGateOpen
  | alreadyThisIdentity
  | radioNotConnected
  | radioBusy
  | liveIdentityChanged
  | privateKeyImportDisabled
  | privateKeyImportRejected
  | privateKeyImportUnverified
  | restored
  | bound
  deriving DecidableEq, Repr

/-- `BackupIdentityRelation` -/
inductive Relation where
  | noIdentity
  | same
  | newDatabase
  | replacesLive
  | restoresBound
  | replacesHistory
  | conflict
  | needsRadio
  deriving DecidableEq, Repr

structure IdentityDecision where
  relation : Relation
  importKey : Bool := false
  wipe : Bool := false
  wipeOptional : Bool := false
  bind : Bool := false
  deferred : Bool := false
  requiresReplaceLive : Bool := false
  requiresWipe : Bool := false
  refusal : Option Code := none
  deriving DecidableEq, Repr

/-- `key.strip().lower()` -/
def normal (key : Text) : Text := (strip key).map Char.toLower

/-- `_norm` -/
def norm (key : Option Text) : Option Text :=
  key.bind fun key => if strip key = [] then none else some (normal key)

def replaceLive (wipe : Bool) (relation : Relation) : IdentityDecision :=
  { relation, wipe, importKey := true, bind := true, requiresReplaceLive := true, requiresWipe := wipe }

def decideIdentityRestore (gate : Option Gate) (bound live backup : Option Text)
    (hasHistory : Bool) : IdentityDecision :=
  let bound := norm bound
  let live := norm live
  match norm backup with
  | none => { relation := .noIdentity }
  | some backup =>
      match gate with
      | some .identityMismatch =>
          if live = none then
            { relation := .needsRadio, refusal := some .backupIdentityNeedsRadio }
          else if bound = some backup then
            -- There is nothing to import when the radio holds the key already.
            if live = some backup then { relation := .same, bind := true }
            else replaceLive false .restoresBound
          else if live = some backup then
            { relation := .replacesHistory, wipe := true, bind := true, requiresWipe := true }
          else { relation := .conflict, refusal := some .backupIdentityConflict }
      | some .identityUnboundLegacy =>
          if live = none then
            { relation := .needsRadio, refusal := some .backupIdentityNeedsRadio }
          else if live = some backup then { relation := .same, bind := true }
          else { replaceLive false .replacesLive with wipeOptional := true }
      | none =>
          if live = none then
            if bound = some backup then { relation := .same, deferred := true }
            else if bound = none then { relation := .newDatabase, deferred := true }
            else { relation := .needsRadio, refusal := some .backupIdentityNeedsRadio }
          else if live = some backup then
            if bound = none ∨ bound = some backup then
              { relation := .same, bind := decide (bound = none) }
            else { relation := .replacesHistory, wipe := true, bind := true, requiresWipe := true }
          else if bound = live then replaceLive hasHistory .replacesLive
          else if bound = none then
            { replaceLive false .replacesLive with wipeOptional := hasHistory }
          else if bound = some backup then replaceLive false .restoresBound
          else { relation := .conflict, refusal := some .backupIdentityConflict }

structure BackupError where
  code : Code
  message : String
  livePublicKey : Option Text := none
  deriving DecidableEq, Repr

/-- What of the options concerns the identity. -/
structure RestoreOptions where
  identity : Bool
  replaceLiveIdentity : Bool
  wipeHistory : Bool
  expectedLivePublicKey : Option Text
  deriving DecidableEq, Repr

/-- The confirmation that is missing, if any. -/
def checkIdentityConfirmations (decision : IdentityDecision) (live : Option Text)
    (options : RestoreOptions) : Option BackupError :=
  match decision.refusal with
  | some refusal => some
      { code := refusal
        message :=
          if refusal = .backupIdentityNeedsRadio then "Connect the radio, then restore"
          else "The bound key, the live key and the backup key all differ" }
  | none =>
      if decision.requiresReplaceLive = true ∧
          (options.replaceLiveIdentity = false ∨ norm options.expectedLivePublicKey ≠ norm live) then
        some
          { code := .backupIdentityReplacesLive
            message := "The restore replaces the identity of the connected radio"
            livePublicKey := live }
      else if decision.requiresWipe = true ∧ options.wipeHistory = false then
        some
          { code := .backupIdentityWipeRequired
            message := "The history recorded under another key must be erased" }
      else none

/-- What is asked of the user is what the decision needs. -/
structure Confirmed (decision : IdentityDecision) (live : Option Text) (options : RestoreOptions) :
    Prop where
  accepted : decision.refusal = none
  replaces : decision.requiresReplaceLive = true →
    options.replaceLiveIdentity = true ∧ norm options.expectedLivePublicKey = norm live
  wipes : decision.requiresWipe = true → options.wipeHistory = true

theorem check_confirmed (passed : checkIdentityConfirmations decision live options = none) :
    Confirmed decision live options := by
  unfold checkIdentityConfirmations at passed
  split at passed
  · contradiction
  rename_i accepted
  split at passed
  · contradiction
  rename_i replaces
  split at passed
  · contradiction
  rename_i wipes
  refine ⟨accepted, fun required => ?_, fun required => ?_⟩
  · simpa [required] using replaces
  · simpa [required] using wipes

theorem strip_normal (key : Text) : strip (normal key) = normal key := by
  rw [normal, strip_map_toLower, strip_strip]

theorem normal_normal (key : Text) : normal (normal key) = normal key := by
  rw [normal, strip_normal, normal, List.map_map]
  congr 1
  exact funext fun c => by simp

theorem norm_some {key : Text} (present : strip key ≠ []) : norm (some key) = some (normal key) :=
  if_neg present

theorem norm_normal {key : Text} (present : strip key ≠ []) :
    norm (some (normal key)) = norm (some key) := by
  have kept : strip (normal key) ≠ [] := by
    rw [strip_normal, normal]
    exact fun empty => present (List.map_eq_nil_iff.mp empty)
  rw [norm_some kept, norm_some present, normal_normal]

theorem norm_norm (key : Option Text) : norm (norm key) = norm key := by
  cases key with
  | none => rfl
  | some key =>
      by_cases present : strip key = []
      · have blank : norm (some key) = none := if_pos present
        rw [blank]
        rfl
      · rw [norm_some present, norm_normal present, norm_some present]

/-- What makes a decision safe to carry out. The bound key is the owner of the history. -/
structure Sound (gate : Option Gate) (bound live : Option Text) (backup : Text) (hasHistory : Bool)
    (decision : IdentityDecision) : Prop where
  imports : decision.importKey = true → decision.requiresReplaceLive = true ∧ live ≠ none
  wipes : decision.wipe = true → decision.requiresWipe = true
  /-- Without a refusal there is something to do, or it is put off, or nothing is left to do. -/
  settled : decision.refusal = none → decision.deferred = false → decision.importKey = false →
    decision.wipe = false → decision.bind = false →
      gate = none ∧ bound = some backup ∧ live = some backup
  seen : gate = none → live = none → decision.refusal = none → decision.deferred = true
  kept : decision.refusal = none → decision.deferred = false → decision.wipe = false →
    hasHistory = true → bound = none ∨ bound = some backup ∨ gate = some .identityUnboundLegacy

section Rows
variable {gate : Option Gate} {bound live : Option Text} {backup : Text} {hasHistory : Bool}

theorem Sound.refuse (relation : Relation) (code : Code) :
    Sound gate bound live backup hasHistory { relation, refusal := some code } :=
  ⟨nofun, nofun, nofun, nofun, nofun⟩

theorem Sound.defer (relation : Relation) :
    Sound gate bound live backup hasHistory { relation, deferred := true } :=
  ⟨nofun, nofun, nofun, fun _ _ _ => rfl, nofun⟩

theorem Sound.same {binds : Bool} (connected : live ≠ none)
    (left : binds = false → gate = none ∧ bound = some backup ∧ live = some backup)
    (owned : bound = none ∨ bound = some backup ∨ gate = some .identityUnboundLegacy) :
    Sound gate bound live backup hasHistory { relation := .same, bind := binds } :=
  ⟨nofun, nofun, fun _ _ _ _ => left, fun _ absent => absurd absent connected,
    fun _ _ _ _ => owned⟩

theorem Sound.replacesHistory (connected : live ≠ none) :
    Sound gate bound live backup hasHistory
      { relation := .replacesHistory, wipe := true, bind := true, requiresWipe := true } :=
  ⟨nofun, fun _ => rfl, nofun, fun _ absent => absurd absent connected, nofun⟩

theorem Sound.replaces {wipe optional : Bool} (relation : Relation) (connected : live ≠ none)
    (owned : wipe = false → hasHistory = true →
      bound = none ∨ bound = some backup ∨ gate = some .identityUnboundLegacy) :
    Sound gate bound live backup hasHistory
      { replaceLive wipe relation with wipeOptional := optional } :=
  ⟨fun _ => ⟨rfl, connected⟩, fun wiped => wiped, nofun, fun _ absent => absurd absent connected,
    fun _ _ => owned⟩

end Rows

theorem decide_sound (gate : Option Gate) (bound live : Option Text) {backup : Option Text}
    (hasHistory : Bool) (present : norm backup = some key) :
    Sound gate (norm bound) (norm live) key hasHistory
      (decideIdentityRestore gate bound live backup hasHistory) := by
  unfold decideIdentityRestore
  rw [present]
  cases gate with
  | none =>
      dsimp only
      split
      · split
        · exact .defer _
        split
        · exact .defer _
        · exact .refuse _ _
      rename_i connected
      split
      · rename_i same
        split
        · rename_i owned
          refine .same connected (fun unowned => ?_) (owned.imp_right .inl)
          exact ⟨rfl, owned.resolve_left (of_decide_eq_false unowned), same⟩
        · exact .replacesHistory connected
      split
      · exact .replaces _ connected fun kept some => absurd (kept.symm.trans some) nofun
      split
      · rename_i unowned
        exact .replaces _ connected fun _ _ => .inl unowned
      split
      · rename_i owned
        exact .replaces _ connected fun _ _ => .inr (.inl owned)
      · exact .refuse _ _
  | some gate =>
      cases gate with
      | identityMismatch =>
          dsimp only
          split
          · exact .refuse _ _
          rename_i connected
          split
          · rename_i owned
            split
            · exact .same connected nofun (.inr (.inl owned))
            · exact .replaces _ connected fun _ _ => .inr (.inl owned)
          split
          · exact .replacesHistory connected
          · exact .refuse _ _
      | identityUnboundLegacy =>
          dsimp only
          split
          · exact .refuse _ _
          rename_i connected
          split
          · exact .same connected nofun (.inr (.inr rfl))
          · exact .replaces _ connected fun _ _ => .inr (.inr rfl)

end Meshloom.BackupRestore
