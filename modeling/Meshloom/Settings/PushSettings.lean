import Meshloom.Overlap
import Meshloom.Dict
import Meshloom.Text

/-! The notification settings and the block lists of `AppSettingsRepository`
(`app/repository/settings.py`, with the channels of `app/telemetry_alerts.py`), and what patches
that overlap leave of them. A transaction is exclusive and so is one step, and so is what
`set_push_defaults` reads before its own. The rules and overrides of `telemetry_alert_rules` are
any data with any merge: no writer of the media reads them. -/
namespace Meshloom.PushSettings
open Overlap Transition

/-- `PUSH_DEFAULT_KEYS` -/
inductive PushKey where
  | newContact
  | newDm
  | advertRepeater
  | advertCompanion
  | advertSensor
  | channelFound
  | telemetryAlert
  | ossUpdate
  deriving DecidableEq

/-- `NOTIFICATION_MEDIA_KEYS` -/
inductive Medium where
  | push
  | email
  | webhook
  deriving DecidableEq

def notificationMediaKeys : List Medium := [.push, .email, .webhook]

abbrev NotificationMediaFlags := Medium → Bool

abbrev PushDefaults := PushKey → NotificationMediaFlags

/-- A value under a key of a JSON object. Of a mapping it holds the truth of each medium that is
given and not null. -/
inductive Raw where
  | flag (on : Bool)
  | mapping (given : Medium → Option Bool)
  | other

/-- The known keys of an object; every reader drops the others. -/
abbrev Mapping := PushKey → Option Raw

def defaultMedia : NotificationMediaFlags
  | .push => true
  | .email | .webhook => false

def coerceNotificationMedia (raw : Raw) (fallback : NotificationMediaFlags) :
    NotificationMediaFlags :=
  match raw with
  | .flag on => fun
      | .push => on
      | medium => fallback medium
  | .mapping given => fun medium => (given medium).getD (fallback medium)
  | .other => fallback

def knownPushDefaults (parsed : Mapping) : PushDefaults := fun key =>
  match parsed key with
  | some raw => coerceNotificationMedia raw defaultMedia
  | none => defaultMedia

/-- What flags are as a JSON object. -/
def dumped (defaults : PushDefaults) : Mapping :=
  fun key => some (.mapping fun medium => some (defaults key medium))

def coercePushDefaults (defaults : Mapping) (current : PushDefaults) : PushDefaults :=
  let base := knownPushDefaults (dumped current)
  fun key =>
    match defaults key with
    | some raw => coerceNotificationMedia raw (base key)
    | none => base key

/-- The explicit media of one conversation; one that names no medium is not stored. -/
structure ConversationOverride where
  given : Medium → Option Bool
  nonempty : (notificationMediaKeys.any fun medium => (given medium).isSome) = true

/-- The argument of `set_push_conversation_override`. -/
inductive OverrideValue where
  | remove
  | flag (on : Bool)
  | mapping (given : Medium → Option Bool)

structure Store (Rest : Type) where
  pushDefaults : Mapping
  /-- The channels of `telemetry_alert_rules`: none when they are no mapping, and of a mapping the
  truth of what each present key holds. -/
  channels : Option (Medium → Option Bool)
  /-- The rest of `telemetry_alert_rules`. -/
  rest : Rest
  /-- The overrides as `_parse_push_overrides` reads them. -/
  pushConversationOverrides : Dict String ConversationOverride
  blockedKeys : List String
  blockedNames : List String

/-- A `TelemetryAlertRules` patch. The channels it sets are those in its fields. -/
structure RulesPatch (Patch : Type) where
  channels : Option (Medium → Option Bool)
  rest : Patch

inductive Call (Patch : Type) where
  | setPushDefaults (defaults : Mapping)
  | update (telemetryAlertRules : RulesPatch Patch)
  | setPushConversationOverride (key : String) (value : OverrideValue)
  | toggleBlockedKey (key : String)
  | toggleBlockedName (name : String)

variable {Rest Patch : Type}

/-- The channels of `coerce_telemetry_alert_rules`. -/
def coerceChannels (raw : Option (Medium → Option Bool)) : NotificationMediaFlags := fun medium =>
  match raw with
  | some given => (given medium).getD (defaultMedia medium)
  | none => defaultMedia medium

def getPushDefaults (store : Store Rest) : PushDefaults :=
  let defaults := knownPushDefaults store.pushDefaults
  fun key =>
    match key, store.pushDefaults .telemetryAlert with
    | .telemetryAlert, some (.mapping _) => defaults .telemetryAlert
    | .telemetryAlert, _ => coerceChannels store.channels
    | key, _ => defaults key

/-- The channels of `merge_telemetry_alert_rules`. -/
def mergeChannels (stored : Option (Medium → Option Bool)) (incoming : Medium → Option Bool) :
    NotificationMediaFlags :=
  fun medium => (incoming medium).getD (coerceChannels stored medium)

def toggle (item : String) (items : List String) : List String :=
  if item ∈ items then items.filter (· ≠ item) else items ++ [item]

def emptyMedia : Medium → Option Bool := fun _ => none

/-- An override is stored when it names a medium, else the key is dropped. -/
def storeOverride (overrides : Dict String ConversationOverride) (key : String)
    (given : Medium → Option Bool) : Dict String ConversationOverride :=
  if nonempty : (notificationMediaKeys.any fun medium => (given medium).isSome) = true then
    overrides.set key ⟨given, nonempty⟩
  else overrides.pop key

def setPushConversationOverride (current : Dict String ConversationOverride) (key : String) :
    OverrideValue → Dict String ConversationOverride
  | .remove => current.pop key
  | .flag on => current.set key ⟨fun medium => if medium = .push then some on else none, rfl⟩
  | .mapping given =>
      let existing := ((current.get? key).map ConversationOverride.given).getD emptyMedia
      storeOverride current key fun medium => (given medium).or (existing medium)

section Transactions
variable (normalise : Rest → Rest) (merge : RulesPatch Patch → Rest → Rest)

/-- The transaction of a call. `view` is what `get_push_defaults` gave before it; the other calls
read in their transaction only. -/
def transaction (call : Call Patch) (view : PushDefaults) (s : Store Rest) : Store Rest :=
  match call with
  | .setPushDefaults defaults =>
      let merged := coercePushDefaults defaults view
      { s with
        pushDefaults := dumped merged
        channels := some fun medium => some (merged .telemetryAlert medium)
        rest := normalise s.rest }
  | .update incoming =>
      match incoming.channels with
      | none =>
          { s with
            channels := some fun medium => some (coerceChannels s.channels medium)
            rest := merge incoming s.rest }
      | some given =>
          let merged := mergeChannels s.channels given
          let current := knownPushDefaults s.pushDefaults
          let alert := coerceNotificationMedia (.mapping fun medium => some (merged medium))
            (current .telemetryAlert)
          { s with
            channels := some fun medium => some (merged medium)
            rest := merge incoming s.rest
            pushDefaults := dumped fun key => if key = .telemetryAlert then alert else current key }
  | .setPushConversationOverride key value =>
      { s with
        pushConversationOverrides :=
          setPushConversationOverride s.pushConversationOverrides key value }
  | .toggleBlockedKey key => { s with blockedKeys := toggle (Text.lower key) s.blockedKeys }
  | .toggleBlockedName name => { s with blockedNames := toggle name s.blockedNames }

def reads (_ : Call Patch) (s : Store Rest) : PushDefaults := getPushDefaults s

/-- The stored media of a telemetry alert, once present, read as the channels of the rules. -/
def Mirrored (s : Store Rest) : Prop :=
  ∀ raw, s.pushDefaults .telemetryAlert = some raw →
    coerceNotificationMedia raw defaultMedia = coerceChannels s.channels

/-- The patch gives a value for the medium of the event. -/
def Gives (patch : Mapping) (key : PushKey) (medium : Medium) : Prop :=
  match patch key with
  | some (.flag _) => medium = .push
  | some (.mapping given) => (given medium).isSome
  | some .other | none => False

/-- Where `set_push_defaults` commits, what its patch does not give is still as it read it. -/
def Undisturbed (s : State (Store Rest) (Call Patch) PushDefaults) : Event (Call Patch) → Prop
  | .commit i => ∀ patch view, s.running[i]? = some ⟨.setPushDefaults patch, some view⟩ →
      ∀ key medium, ¬ Gives patch key medium →
        view key medium = getPushDefaults s.store key medium
  | _ => True

variable {normalise merge}

theorem knownPushDefaults_dumped (defaults : PushDefaults) :
    knownPushDefaults (dumped defaults) = defaults := rfl

/-- A coerced value depends on the fallback where the value gives nothing. -/
theorem coerce_congr_iff (patch : Mapping) (view now : PushDefaults) :
    coercePushDefaults patch view = coercePushDefaults patch now ↔
      ∀ key medium, ¬ Gives patch key medium → view key medium = now key medium := by
  have entry : ∀ key medium, coercePushDefaults patch view key medium =
      coercePushDefaults patch now key medium ↔
        (¬ Gives patch key medium → view key medium = now key medium) := by
    intro key medium
    simp only [coercePushDefaults, knownPushDefaults_dumped, Gives]
    cases patch key with
    | none => simp
    | some raw =>
        cases raw with
        | flag on => cases medium <;> simp [coerceNotificationMedia]
        | mapping given => cases found : given medium <;> simp [coerceNotificationMedia, found]
        | other => simp [coerceNotificationMedia]
  constructor
  · intro same key medium
    exact (entry key medium).mp (congrFun (congrFun same key) medium)
  · intro same
    funext key medium
    exact (entry key medium).mpr (same key medium)

/-- A call commits what the whole call would exactly when it is undisturbed. -/
theorem timely_iff_undisturbed {s : State (Store Rest) (Call Patch) PushDefaults}
    {e : Event (Call Patch)} :
    Timely reads (transaction normalise merge) s e ↔ Undisturbed s e := by
  cases e with
  | start call => exact Iff.rfl
  | read i => exact Iff.rfl
  | commit i =>
      constructor
      · intro timely patch view found
        have same := timely _ _ found
        refine (coerce_congr_iff patch view _).mp ?_
        have dumps := congrArg (fun store => knownPushDefaults store.pushDefaults) same
        exact dumps
      · intro undisturbed call view found
        cases call with
        | setPushDefaults patch =>
            have same := (coerce_congr_iff patch view _).mpr (undisturbed patch view found)
            simp only [perform, reads, transaction, same]
        | update incoming => rfl
        | setPushConversationOverride key value => rfl
        | toggleBlockedKey key => rfl
        | toggleBlockedName name => rfl

theorem transaction_mirrored (call : Call Patch) (view : PushDefaults) (s : Store Rest)
    (mirrored : Mirrored s) : Mirrored (transaction normalise merge call view s) := by
  cases call with
  | setPushDefaults patch =>
      rintro raw ⟨⟩
      rfl
  | update incoming =>
      simp only [transaction]
      split
      · intro raw present
        rw [mirrored raw present]
        rfl
      · rintro raw ⟨⟩
        rfl
  | setPushConversationOverride key value => exact mirrored
  | toggleBlockedKey key => exact mirrored
  | toggleBlockedName name => exact mirrored

/-- Patches none of which commits over a change to what it left alone lose nothing, and the mirror
holds all along. -/
theorem patches_serial {first : Store Rest} {s : State (Store Rest) (Call Patch) PushDefaults}
    (mirrored : Mirrored first)
    (run : Reaches (step reads (transaction normalise merge)) Undisturbed (start first) s) :
    Serial reads (transaction normalise merge) first s ∧ Mirrored s.store :=
  ⟨serial_of_run (run.weaken fun _ _ undisturbed => timely_iff_undisturbed.mpr undisturbed),
    store_invariant transaction_mirrored run mirrored⟩

end Transactions

/-- The settings of a new database, without rules. -/
def fresh : Store Unit where
  pushDefaults
    | .newContact | .newDm | .advertRepeater | .advertCompanion | .advertSensor => some (.flag true)
    | .channelFound | .telemetryAlert | .ossUpdate => none
  channels := none
  rest := ()
  pushConversationOverrides := .empty
  blockedKeys := []
  blockedNames := []

/-- Turns the notifications of one event off. -/
def off (key : PushKey) : Call Unit :=
  .setPushDefaults fun other => if other = key then some (.flag false) else none

abbrev freshStep : State (Store Unit) (Call Unit) PushDefaults → Event (Call Unit) →
    Option (State (Store Unit) (Call Unit) PushDefaults) :=
  step reads (transaction id fun _ rest => rest)

/-- A patch keeps what a block of a key that overlaps it stores. -/
theorem blockedMeanwhile_kept : ∃ s : State (Store Unit) (Call Unit) PushDefaults,
    s.running = [] ∧ s.store.blockedKeys = ["ab"] ∧
      getPushDefaults s.store .newContact .push = false ∧
      Serial reads (transaction id fun _ rest => rest) fresh s ∧ Mirrored s.store := by
  have mirrored : Mirrored fresh := by
    rintro raw ⟨⟩
  have idle : Reaches freshStep Undisturbed (start fresh) (start fresh) := .refl _
  have one := idle.next (e := .start (off .newContact)) (by trivial) rfl
  have both := one.next (e := .start (.toggleBlockedKey "AB")) (by trivial) rfl
  have readFirst := both.next (e := .read 0) (by trivial) rfl
  have overlapping := readFirst.next (e := .read 1) (by trivial) rfl
  have blocked := overlapping.next (e := .commit 1) (by rintro patch view ⟨⟩) rfl
  have patched := blocked.next (e := .commit 0) (by rintro patch view ⟨⟩ key medium _; rfl) rfl
  exact ⟨_, rfl, by decide, rfl, patches_serial mirrored patched⟩

/-- Of two overlapping patches of different events one is lost. -/
theorem patches_not_serial : ∃ s : State (Store Unit) (Call Unit) PushDefaults,
    Reaches freshStep Any (start fresh) s ∧ s.running = [] ∧
      s.started = [off .newContact, off .newDm] ∧
      ¬ Serial reads (transaction id fun _ rest => rest) fresh s := by
  let schedule : List (Event (Call Unit)) :=
    [.start (off .newContact), .start (off .newDm), .read 0, .read 1, .commit 0, .commit 0]
  have ran : execute freshStep (start fresh) schedule = some _ := rfl
  refine ⟨_, execute_reaches ran, rfl, rfl, ?_⟩
  rintro ⟨order, permuted, stored⟩
  have permuted : (order ++ []).Perm [off .newContact, off .newDm] := permuted
  rw [List.append_nil] at permuted
  have notified := congrArg (fun store => getPushDefaults store .newContact .push) stored
  have apart : off .newDm ≠ off .newContact :=
    fun same => nomatch congrFun (Call.setPushDefaults.inj same) .newContact
  match order, permuted.length_eq with
  | [first, second], _ =>
      have known : ∀ call ∈ [first, second], call = off .newContact ∨ call = off .newDm := by
        intro call member
        simpa using permuted.subset member
      have included := permuted.symm.subset List.mem_cons_self
      obtain rfl | rfl := known first List.mem_cons_self
      · obtain rfl | rfl := known second (by simp)
        · exact absurd notified (by decide)
        · exact absurd notified (by decide)
      · obtain rfl | rfl := known second (by simp)
        · exact absurd notified (by decide)
        · simp [apart.symm] at included

end Meshloom.PushSettings
