import Meshloom.Radio.ChannelSlots

/-! Flood scopes (`app/region_scope.py`, `app/services/flood_scope.py`) and the channel send
that overrides the scope and the path hash mode of the radio for the length of the send
(`send_channel_message_with_effective_scope` in `app/services/message_send.py`).

The send holds the radio operation lock from beginning to end. How the radio answers each
command is an input, and so is whether a command that failed took effect all the same. -/
namespace Meshloom.ChannelScope
open Text ChannelSlots

/-- `_UNSCOPED_SENTINELS`. -/
def unscopedSentinels : List (List Char) := [[], ['0'], ['*']]

def isUnscoped (scope : Option (List Char)) : Bool := strip (scope.getD []) ∈ unscopedSentinels

def normalizeRegionScope (scope : Option (List Char)) : List Char :=
  let stripped := strip (scope.getD [])
  if stripped ∈ unscopedSentinels then []
  else if stripped.head? = some '#' then stripped
  else '#' :: stripped

/-- The standing scope of the radio. -/
inductive ScopeMode where
  /-- mode 0 with the key of a region -/
  | region (name : List Char)
  /-- mode 1 -/
  | unscoped
  /-- mode 0 with the zero key: the radio uses its configured default scope -/
  | reset

structure Radio where
  scopeMode : ScopeMode
  defaultScope : List Char
  pathHashMode : Nat
  /-- The channel whose secret each slot holds, by normalized key. -/
  slots : Nat → Option String

/-- The scope in force; the empty name is the plain flood. -/
def Radio.floodScope (radio : Radio) : List Char :=
  match radio.scopeMode with
  | .region name => name
  | .unscoped => []
  | .reset => radio.defaultScope

def firmwareVerUnscopedMode : Nat := 12

def firmwareSupportsUnscopedMode : Option Nat → Bool
  | some fwVer => firmwareVerUnscopedMode ≤ fwVer
  | none => false

/-- The commands of the radio: `set_flood_scope`, `force_radio_unscoped`,
`set_path_hash_mode` and `set_channel`, each as far as it takes effect. -/
def Radio.setFloodScope (radio : Radio) (scope : List Char) : Radio :=
  { radio with scopeMode := if scope = [] then .reset else .region scope }

def Radio.forceUnscoped (radio : Radio) : Radio := { radio with scopeMode := .unscoped }

def Radio.setPathHashMode (radio : Radio) (mode : Nat) : Radio := { radio with pathHashMode := mode }

def Radio.setChannel (radio : Radio) (slot : Nat) (channelKey : String) : Radio :=
  { radio with slots := setSlot radio.slots slot (some (upper channelKey)) }

def setRadioFloodScope (fwVer : Option Nat) (scope : List Char) (radio : Radio) : Radio :=
  let normalizedScope := normalizeRegionScope (some scope)
  if normalizedScope ≠ [] then radio.setFloodScope normalizedScope
  else if firmwareSupportsUnscopedMode fwVer then radio.forceUnscoped
  else radio.setFloodScope []

/-- How a scope or hash-mode command ends. Only a success tells that the radio took the
new value; in the other cases it may have done so or not. -/
inductive Reply where
  | ok
  | error (payload : String) (applied : Bool)
  | raised (applied : Bool)
  /-- `None`, which is taken for a success -/
  | silent (applied : Bool)

def Reply.applied : Reply → Bool
  | .ok => true
  | .error _ applied | .raised applied | .silent applied => applied

def Reply.perform (reply : Reply) (command : Radio → Radio) (radio : Radio) : Radio :=
  if reply.applied then command radio else radio

/-- The fields of `RadioManager` that a channel send reads. -/
structure RadioManager extends Manager where
  firmwareVerCode : Option Nat
  pathHashMode : Nat
  pathHashModeSupported : Bool

structure Channel where
  name : String
  /-- `None` inherits the global scope. -/
  floodScopeOverride : Option (List Char)
  pathHashModeOverride : Option Nat

structure Request where
  channel : Channel
  channelKey : String
  actionLabel : String
  tempRadioSlot : Nat
  /-- `none` is `SCOPE_UNSET`. -/
  floodScopeOverride : Option (List Char)
  registerSlot : Bool
  /-- The `flood_scope` of the settings. -/
  globalScope : List Char

/-- The answers of the radio to the commands of one send, in order. -/
structure Replies where
  applyScope : Reply
  applyPhm : Reply
  setChannel : SetReply
  send : SendReply
  restoreScope : Nat → Reply
  restorePhm : Nat → Reply

inductive Failure where
  | http (statusCode : Nat) (detail : String)
  /-- a command raised -/
  | radio
  /-- `next(iter(...))` on an empty cache -/
  | stopIteration
  /-- `set_result.type` on `None` -/
  | attributeError

structure State where
  radio : Radio
  manager : RadioManager
  /-- What `error_broadcast_fn` was called with. -/
  notices : List (String × String)
  /-- The radio at the moment `send_chan_msg` was issued. -/
  issued : Option Radio

section Send
variable (pyRepr : List Char → String) (request : Request) (replies : Replies)

/-- `desired_scope` and `scope_explicit`. -/
def desiredScope : List Char × Bool :=
  match request.floodScopeOverride with
  | none =>
    match request.channel.floodScopeOverride with
    | none => ([], false)
    | some channelOverride =>
      if isUnscoped (some channelOverride) then ([], true)
      else (normalizeRegionScope (some channelOverride), true)
  | some override => (normalizeRegionScope (some override), true)

def baselineScope : List Char :=
  let (desired, explicit) := desiredScope request
  if desired ≠ [] ∨ explicit then normalizeRegionScope (some request.globalScope) else []

def appliesScope : Bool :=
  let (desired, explicit) := desiredScope request
  desired ≠ baselineScope request ∧ (desired ≠ [] ∨ explicit)

def appliesPhm (manager : RadioManager) : Bool :=
  match request.channel.pathHashModeOverride with
  | none => false
  | some override => manager.pathHashModeSupported ∧ override ≠ manager.pathHashMode

def applyScope (s : State) : State × Option Failure :=
  if appliesScope request then
    let desired := (desiredScope request).1
    let command := setRadioFloodScope s.manager.firmwareVerCode desired
    let s := { s with radio := replies.applyScope.perform command s.radio }
    match replies.applyScope with
    | .ok | .silent _ => (s, none)
    | .error payload _ =>
      (s, some (.http 422 ("Failed to apply regional override " ++ pyRepr desired ++ " before " ++
        request.actionLabel ++ ": " ++ payload)))
    | .raised _ => (s, some .radio)
  else (s, none)

def applyPhm (s : State) : State × Option Failure :=
  match request.channel.pathHashModeOverride with
  | some override =>
    if appliesPhm request s.manager then
      let s := { s with radio := replies.applyPhm.perform (·.setPathHashMode override) s.radio }
      match replies.applyPhm with
      | .ok | .silent _ => (s, none)
      | .error payload _ =>
        (s, some (.http 422 ("Failed to apply path hash mode override before " ++
          request.actionLabel ++ ": " ++ payload)))
      | .raised _ => (s, some .radio)
    else (s, none)
  | none => (s, none)

def State.withSlots (s : State) (manager : Manager) : State :=
  { s with manager := { s.manager with toManager := manager } }

/-- Loads the channel into its slot. -/
def configureSlot (plan : Manager.Plan) (s : State) : State × Option Failure :=
  if plan.needsConfigure then
    let s := { s with radio :=
      if replies.setChannel.applied then s.radio.setChannel plan.slot request.channelKey else s.radio }
    match replies.setChannel with
    | .raised _ =>
      (s.withSlots (s.manager.invalidateEvicted plan.evictedChannelKey), some .radio)
    | .error _ =>
      (s.withSlots (s.manager.invalidateEvicted plan.evictedChannelKey), some
        (.http 422 ("Failed to configure channel on radio before " ++ request.actionLabel)))
    | .none _ => (s, some .attributeError)
    | .ok =>
      if request.registerSlot then
        (s.withSlots (s.manager.noteChannelSlotLoaded request.channelKey plan.slot), none)
      else (s, none)
  else (s, none)

/-- `NO_RADIO_RESPONSE_AFTER_SEND_DETAIL`, the message of it. -/
def noRadioResponseAfterSendMessage : String :=
  "Send command was issued to the radio, but no response was heard back. " ++
    "The message may or may not have sent successfully."

/-- Issues `send_chan_msg`. -/
def transmit (s : State) : State × Except Failure SendReply :=
  let s := { s with issued := some s.radio }
  match replies.send with
  | .raised => (s, .error .radio)
  | .none => (s, .error (.http 422 noRadioResponseAfterSendMessage))
  | .error =>
    (if request.registerSlot then
      s.withSlots (s.manager.invalidateCachedChannelSlot request.channelKey) else s, .ok .error)
  | .ok =>
    (if request.registerSlot then
      s.withSlots (s.manager.noteChannelSlotUsed request.channelKey) else s, .ok .ok)

def planSlot (s : State) : Option Manager.Plan :=
  if request.registerSlot then
    s.manager.planChannelSendSlot request.channelKey request.tempRadioSlot
  else some ⟨request.tempRadioSlot, true, none⟩

/-- The block that the `finally` guards. -/
def sendGuarded (s : State) : State × Except Failure SendReply :=
  match applyScope pyRepr request replies s with
  | (s, some failure) => (s, .error failure)
  | (s, none) =>
    match applyPhm request replies s with
    | (s, some failure) => (s, .error failure)
    | (s, none) =>
      match planSlot request s with
      | none => (s, .error .stopIteration)
      | some plan =>
        match configureSlot request replies plan s with
        | (s, some failure) => (s, .error failure)
        | (s, none) => transmit request replies s

/-- The restore loop: stops at the first attempt that is not refused. -/
def restore (command : Radio → Radio) : List Reply → Radio → Radio × Bool
  | [], radio => (radio, false)
  | reply :: later, radio =>
    let radio := reply.perform command radio
    match reply with
    | .ok | .silent _ => (radio, true)
    | .error _ _ | .raised _ => restore command later radio

def restoreScope (s : State) : State :=
  if appliesScope request then
    let (radio, restored) := restore
      (setRadioFloodScope s.manager.firmwareVerCode (baselineScope request))
      ((List.range 3).map replies.restoreScope) s.radio
    { s with
      radio
      notices := if restored then s.notices else s.notices ++ [("Regional override restore failed",
        "Sent to " ++ request.channel.name ++ ", but restoring flood scope failed " ++
        "after 3 attempts. The radio may still be region-scoped. " ++
        "Consider rebooting the radio.")] }
  else s

def restorePhm (baselinePhm : Nat) (applies : Bool) (s : State) : State :=
  if applies then
    let (radio, restored) := restore (·.setPathHashMode baselinePhm)
      ((List.range 3).map replies.restorePhm) s.radio
    { s with
      radio
      manager := if restored then { s.manager with pathHashMode := baselinePhm } else s.manager
      notices := if restored then s.notices else s.notices ++ [("Path hash mode restore failed",
        "Sent to " ++ request.channel.name ++ ", but restoring path hash mode failed " ++
        "after 3 attempts. The radio is still using a non-default hop " ++
        "width. Set it back manually in Radio settings.")] }
  else s

def sendChannelMessageWithEffectiveScope (s : State) : State × Except Failure SendReply :=
  let (after, outcome) := sendGuarded pyRepr request replies s
  let after := restoreScope request replies after
  (restorePhm request replies s.manager.pathHashMode (appliesPhm request s.manager) after, outcome)

end Send

end Meshloom.ChannelScope
