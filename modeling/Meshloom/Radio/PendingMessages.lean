import Meshloom.Radio.ChannelSlots

/-! Channel messages that wait in the radio, and the channels they are stored under
(`sync_and_offload_channels`, `drain_pending_messages` and
`_store_pending_channel_message` of `app/radio_sync.py`). A sync, a drain and a channel send each
hold the radio operation lock, so they never overlap; messages arrive at any time. What is read
of a channel is its key; its name, and the text of a message, are left out. -/
namespace Meshloom.PendingMessages
open Text ChannelSlots

/-- A message that waits in the radio. The key is a ghost: what its slot held when it came. -/
structure Received where
  slot : Nat
  key : String
  deriving DecidableEq

/-- What holds the radio for a sync or a drain, and what it awaits. -/
inductive Task where
  | free
  /-- `get_channel(idx)` of a sync -/
  | syncing (idx limit : Nat)
  /-- `upsert_channel_from_radio_slot` of a sync -/
  | adopting (key : String) (idx limit : Nat)
  /-- `set_channel` that empties a slot -/
  | clearing (idx limit : Nat)
  /-- `get_msg` -/
  | fetching
  /-- `get_channel` for a message -/
  | resolving (message : Received)
  /-- `upsert_channel_from_radio_slot` for a message -/
  | adoptingFor (message : Received) (key : String)
  /-- `create_fallback_channel_message` -/
  | storing (message : Received) (key : String)

structure State where
  /-- The send cache, the slots of the device and the send that holds the radio. -/
  channels : ChannelSlots.State
  pendingMessageChannelKeyBySlot : Dict Nat String
  queue : List Received
  task : Task
  /-- Each message that was stored, with the key it is stored under. -/
  stored : List (Received × String)

/-- How `get_channel` ends. -/
inductive Lookup where
  | channelInfo
  | other
  | raised
  deriving DecidableEq

inductive Fetch where
  | message
  /-- The radio has handed over a message that is not received. -/
  | lost
  | noMoreMessages
  deriving DecidableEq

inductive Event where
  | arrive (slot : Nat)
  /-- One of the channel sends, and what else touches its cache. -/
  | channels (event : ChannelSlots.Event)
  | clearPending
  | sync (limit : Nat)
  | drain
  | lookedUp (reply : Lookup)
  | adopted (ok : Bool)
  | cleared (reply : SetReply)
  | fetched (reply : Fetch)
  | stored (ok : Bool)

def rememberPendingMessageChannelSlot (s : State) (channelKey : String) (slot : Nat) : State :=
  { s with
    pendingMessageChannelKeyBySlot :=
      s.pendingMessageChannelKeyBySlot.set slot (upper channelKey) }

/-- The sync goes on with the next slot. -/
def nextSlot (s : State) (idx limit : Nat) : State :=
  { s with task := if idx < limit then .syncing idx limit else .free }

section Step
variable (adopts : String → Bool)

/-- The key that `upsert_channel_from_radio_slot` reads in a slot; none when the slot is empty or
holds the channel of the mesh test. -/
def named (content : Option String) : Option String := (content.filter adopts).map upper

/-- The key on record for a slot: the send cache's, else the one remembered. -/
def record (s : State) (slot : Nat) : Option String :=
  (s.channels.manager.channelKeyBySlot.get? slot).or (s.pendingMessageChannelKeyBySlot.get? slot)

/-- What `get_channel` tells. -/
def answer (s : State) (slot : Nat) (reply : Lookup) : Option String :=
  if reply = .channelInfo then named adopts (s.channels.radio slot) else none

/-- The rest of `_resolve_channel_for_pending_message` once the radio names no channel. -/
def resolveByRecord (s : State) (message : Received) : State :=
  match record s message.slot with
  | some key => { s with task := .storing message key }
  | none => { s with task := .fetching }

def lookedUpStep (s : State) (reply : Lookup) : Option State :=
  match s.task with
  | .syncing idx limit =>
      match reply, answer adopts s idx reply with
      | .raised, _ => some { s with task := .free }
      | _, some key => some { s with task := .adopting key idx limit }
      | _, none => some (nextSlot s (idx + 1) limit)
  | .resolving message =>
      match answer adopts s message.slot reply with
      | some key => some { s with task := .adoptingFor message key }
      | none => some (resolveByRecord s message)
  | _ => none

def adoptedStep (s : State) (ok : Bool) : Option State :=
  match s.task with
  | .adopting key idx limit =>
      if ok then
        some { rememberPendingMessageChannelSlot s key idx with task := .clearing idx limit }
      else some { s with task := .free }
  | .adoptingFor message key =>
      if ok then
        some
          { rememberPendingMessageChannelSlot s key message.slot with task := .storing message key }
      else some { s with task := .free }
  | _ => none

def clearedStep (s : State) (reply : SetReply) : Option State :=
  match s.task with
  | .clearing idx limit =>
      let radio :=
        if reply.applied then setSlot s.channels.radio idx none else s.channels.radio
      some (nextSlot { s with channels := { s.channels with radio } } (idx + 1) limit)
  | _ => none

def fetchedStep (s : State) (reply : Fetch) : Option State :=
  match s.task with
  | .fetching =>
      match reply, s.queue with
      | .noMoreMessages, _ => some { s with task := .free }
      | _, [] => none
      | .message, message :: rest => some { s with task := .resolving message, queue := rest }
      | .lost, _ :: rest => some { s with task := .free, queue := rest }
  | _ => none

def storedStep (s : State) (ok : Bool) : Option State :=
  match s.task with
  | .storing message key =>
      if ok then some { s with task := .fetching, stored := (message, key) :: s.stored }
      else some { s with task := .free }
  | _ => none

/-- Neither a send nor another task holds the radio. -/
def lockFree (s : State) : Bool :=
  match s.task, s.channels.phase with
  | .free, .idle => true
  | _, _ => false

def channelsStep (s : State) (event : ChannelSlots.Event) : Option State :=
  let next := (ChannelSlots.step s.channels event).map fun channels => { s with channels }
  match event with
  | .send _ _ => if lockFree s then next else none
  | .emptied _ _ => none
  | _ => next

def step (s : State) : Event → Option State
  | .arrive slot =>
      (s.channels.radio slot).map fun key => { s with queue := s.queue ++ [⟨slot, key⟩] }
  | .channels event => channelsStep s event
  | .clearPending => some { s with pendingMessageChannelKeyBySlot := .empty }
  | .sync limit =>
      if lockFree s then
        let channels := { s.channels with manager := s.channels.manager.resetChannelSendCache }
        some (nextSlot { s with channels } 0 limit)
      else none
  | .drain => if lockFree s then some { s with task := .fetching } else none
  | .lookedUp reply => lookedUpStep adopts s reply
  | .adopted ok => adoptedStep s ok
  | .cleared reply => clearedStep s reply
  | .fetched reply => fetchedStep s reply
  | .stored ok => storedStep s ok

end Step

/-- A fresh session: nothing cached or remembered; a message that waits came from what its slot
still holds. -/
structure Initial (s : State) : Prop where
  channels : ChannelSlots.Initial s.channels
  pending : s.pendingMessageChannelKeyBySlot = .empty
  queue : ∀ message ∈ s.queue, s.channels.radio message.slot = some message.key
  task : s.task = .free
  stored : s.stored = []

end Meshloom.PendingMessages
