import Meshloom.Dict
import Meshloom.Text
import Meshloom.Transition

/-! The channel-slot cache of `RadioManager` (`app/radio.py`) and the part of
`send_channel_message_with_effective_scope` (`app/services/message_send.py`)
that plans, configures and uses a slot, with `register_slot=True`.

A send runs under the radio operation lock, so two sends never overlap and a
slot is only emptied between sends. The workaround flag and the cache reset are
not under that lock: they may change while a send awaits the radio. Applying
and restoring the scope and hash-mode overrides touches no slot; a send that
fails while applying them never reaches the plan and is no event here. -/
namespace Meshloom.ChannelSlots
open Text

/-- The fields of `RadioManager` that the channel-slot methods read. -/
structure Manager where
  channelSlotByKey : Dict String Nat
  channelKeyBySlot : Dict Nat String
  /-- `radio_workarounds.current().force_channel_slot_reconfigure` -/
  forceChannelSlotReconfigure : Bool
  connectionInfo : Option String
  /-- `is_tcp(self._transport_snapshot)` -/
  transportIsTcp : Bool
  /-- `none` stands for a value that `int()` rejects. -/
  maxChannels : Option Int

namespace Manager

def resetChannelSendCache (m : Manager) : Manager :=
  { m with channelSlotByKey := .empty, channelKeyBySlot := .empty }

/-- The transport's part of `channel_slot_reuse_enabled`. -/
def linkReusesSlots (m : Manager) : Bool :=
  match m.connectionInfo with
  | some info => if info ≠ "" then !startsWith info "TCP:" else !m.transportIsTcp
  | none => !m.transportIsTcp

def channelSlotReuseEnabled (m : Manager) : Bool :=
  if m.forceChannelSlotReconfigure then false else m.linkReusesSlots

def getChannelSendCacheCapacity (m : Manager) : Nat :=
  match m.maxChannels with
  | some n => (max 1 n).toNat
  | none => 1

def findFirstFreeChannelSlot (m : Manager) (capacity preferredSlot : Nat) : Nat :=
  if preferredSlot < capacity ∧ m.channelKeyBySlot.get? preferredSlot = none then preferredSlot
  else ((List.range capacity).find? (fun slot => m.channelKeyBySlot.get? slot = none)).getD
    preferredSlot

/-- The result of `plan_channel_send_slot`. -/
structure Plan where
  slot : Nat
  needsConfigure : Bool
  evictedChannelKey : Option String
  deriving DecidableEq

/-- `none` is the `StopIteration` of `next(iter(...))` on an empty cache. -/
def planChannelSendSlot (m : Manager) (channelKey : String) (preferredSlot : Nat) : Option Plan :=
  if !m.channelSlotReuseEnabled then some ⟨preferredSlot, true, none⟩
  else
    match m.channelSlotByKey.get? (upper channelKey) with
    | some cachedSlot => some ⟨cachedSlot, false, none⟩
    | none =>
      let capacity := m.getChannelSendCacheCapacity
      if m.channelSlotByKey.size < capacity then
        some ⟨m.findFirstFreeChannelSlot capacity preferredSlot, true, none⟩
      else m.channelSlotByKey.first?.map fun (evictedKey, slot) => ⟨slot, true, some evictedKey⟩

def noteChannelSlotLoaded (m : Manager) (channelKey : String) (slot : Nat) : Manager :=
  if !m.channelSlotReuseEnabled then m
  else
    let key := upper channelKey
    let keyBySlot := match m.channelSlotByKey.get? key with
      | some previousSlot =>
        if previousSlot ≠ slot then m.channelKeyBySlot.pop previousSlot else m.channelKeyBySlot
      | none => m.channelKeyBySlot
    let slotByKey := m.channelSlotByKey.pop key
    let slotByKey := match keyBySlot.get? slot with
      | some displacedKey => if displacedKey ≠ key then slotByKey.pop displacedKey else slotByKey
      | none => slotByKey
    { m with channelKeyBySlot := keyBySlot.set slot key, channelSlotByKey := slotByKey.set key slot }

def noteChannelSlotUsed (m : Manager) (channelKey : String) : Manager :=
  if !m.channelSlotReuseEnabled then m
  else
    let key := upper channelKey
    match m.channelSlotByKey.get? key with
    | none => m
    | some slot =>
      { m with
        channelSlotByKey := m.channelSlotByKey.moveToEnd key
        channelKeyBySlot := m.channelKeyBySlot.set slot key }

def forgetChannelSlot (m : Manager) (slot : Nat) : Manager :=
  let keyBySlot := m.channelKeyBySlot.pop slot
  match m.channelKeyBySlot.get? slot with
  | none => { m with channelKeyBySlot := keyBySlot }
  | some key =>
    if m.channelSlotByKey.get? key = some slot then
      { m with channelKeyBySlot := keyBySlot, channelSlotByKey := m.channelSlotByKey.pop key }
    else { m with channelKeyBySlot := keyBySlot }

def invalidateCachedChannelSlot (m : Manager) (channelKey : String) : Manager :=
  let key := upper channelKey
  match m.channelSlotByKey.get? key with
  | none => m
  | some slot =>
    let slotByKey := m.channelSlotByKey.pop key
    if m.channelKeyBySlot.get? slot = some key then
      { m with channelSlotByKey := slotByKey, channelKeyBySlot := m.channelKeyBySlot.pop slot }
    else { m with channelSlotByKey := slotByKey }

/-- `if evicted_channel_key is not None: invalidate_cached_channel_slot(evicted_channel_key)` -/
def invalidateEvicted (m : Manager) : Option String → Manager
  | some evictedChannelKey => m.invalidateCachedChannelSlot evictedChannelKey
  | none => m

end Manager

/-- How a `set_channel` command ends. Only a success tells that the radio took
the new content; in the other three cases it may have done so or not. -/
inductive SetReply where
  | ok
  | error (applied : Bool)
  | raised (applied : Bool)
  | none (applied : Bool)

def SetReply.applied : SetReply → Bool
  | .ok => true
  | .error applied | .raised applied | .none applied => applied

inductive SendReply where
  | ok
  | error
  | raised
  | none

/-- Where the send that holds the radio lock is suspended. -/
inductive Phase where
  | idle
  /-- awaiting `set_channel` -/
  | configuring (channelKey : String) (slot : Nat) (evictedChannelKey : Option String)
  /-- `send_chan_msg(chan=slot)` is issued, its reply awaited -/
  | sending (channelKey : String) (slot : Nat)

structure State where
  manager : Manager
  /-- The channel whose secret each slot of the device holds, by normalized key. -/
  radio : Nat → Option String
  phase : Phase

inductive Event where
  | send (channelKey : String) (preferredSlot : Nat)
  | configured (reply : SetReply)
  | sent (reply : SendReply)
  | resetCache
  /-- A slot is emptied (the device may refuse) and then forgotten. -/
  | emptied (slot : Nat) (applied : Bool)
  | setForceReconfigure (on : Bool)

def planned (s : State) (channelKey : String) (plan : Manager.Plan) : State :=
  if plan.needsConfigure then
    { s with phase := .configuring channelKey plan.slot plan.evictedChannelKey }
  else { s with phase := .sending channelKey plan.slot }

def setSlot (radio : Nat → Option String) (slot : Nat) (content : Option String) :
    Nat → Option String :=
  fun other => if other = slot then content else radio other

/-- The device side of `set_channel`. -/
def deviceAfter (s : State) (channelKey : String) (slot : Nat) (reply : SetReply) :
    Nat → Option String :=
  if reply.applied then setSlot s.radio slot (some (upper channelKey)) else s.radio

def configuredStep (s : State) (channelKey : String) (slot : Nat) (evicted : Option String)
    (reply : SetReply) : State :=
  let radio := deviceAfter s channelKey slot reply
  match reply with
  | .ok =>
    { manager := s.manager.noteChannelSlotLoaded channelKey slot, radio,
      phase := .sending channelKey slot }
  | .error _ | .raised _ => { manager := s.manager.invalidateEvicted evicted, radio, phase := .idle }
  -- `set_result.type` on `None` is an `AttributeError` outside the inner `try`
  | .none _ => { s with radio, phase := .idle }

def sentStep (s : State) (channelKey : String) (reply : SendReply) : State :=
  match reply with
  | .ok => { s with manager := s.manager.noteChannelSlotUsed channelKey, phase := .idle }
  | .error => { s with manager := s.manager.invalidateCachedChannelSlot channelKey, phase := .idle }
  | .raised | .none => { s with phase := .idle }

def step (s : State) : Event → Option State
  | .send channelKey preferredSlot =>
    match s.phase with
    | .idle => (s.manager.planChannelSendSlot channelKey preferredSlot).map (planned s channelKey)
    | _ => none
  | .configured reply =>
    match s.phase with
    | .configuring channelKey slot evicted => some (configuredStep s channelKey slot evicted reply)
    | _ => none
  | .sent reply =>
    match s.phase with
    | .sending channelKey _ => some (sentStep s channelKey reply)
    | _ => none
  | .resetCache => some { s with manager := s.manager.resetChannelSendCache }
  | .emptied slot applied =>
    match s.phase with
    | .idle =>
      some { s with
        manager := s.manager.forgetChannelSlot slot
        radio := if applied then setSlot s.radio slot none else s.radio }
    | _ => none
  | .setForceReconfigure on =>
    some { s with manager := { s.manager with forceChannelSlotReconfigure := on } }

/-- A fresh session: nothing cached, anything in the device. -/
def Initial (s : State) : Prop :=
  s.manager.channelSlotByKey = .empty ∧ s.manager.channelKeyBySlot = .empty ∧ s.phase = .idle

end Meshloom.ChannelSlots
