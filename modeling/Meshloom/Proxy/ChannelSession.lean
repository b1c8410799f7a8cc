import Meshloom.Dict
import Meshloom.Text
import Meshloom.Transition

/-! The channel slots of one radio-proxy session (`app/radio_proxy/manager.py`): the slots
that a client reads and writes by index, the messages that wait for it, and the channels
of the host, which come and go while the session lasts.

The commands of a session are handled one after the other, and each reads the host's
channels at one moment. -/
namespace Meshloom.ChannelSession
open Text

/-- The sixteen bytes of a channel secret, as a big-endian number. A channel is stored under
the hexadecimal text of its secret in upper case, so keys are equal and ordered like these
numbers. -/
abbrev Secret := Fin (2 ^ 128)

instance secretNeZero : NeZero (2 ^ 128) := ⟨by decide⟩

/-- `PUBLIC_CHANNEL_KEY`. -/
def publicChannelKey : Secret := 0x8B3387E9C5CDEA6AC9E5EDBAA115CD72

inductive Membership where
  | adopted | pending
  deriving DecidableEq

/-- A row of the host's channels. -/
structure Channel where
  key : Secret
  name : List Char
  membership : Membership
  deriving DecidableEq

/-- The rows by key, which is their primary key. -/
abbrev Host := Dict Secret Channel

/-- `get_by_key`. -/
def getByKey (host : Host) (key : Secret) : Option Channel := host.get? key

/-- The order in which the rows are read does not matter: they are sorted by their key. -/
def projectHostChannels (host : Host) : List Channel :=
  let visible := (host.entries.map Prod.snd).filter fun ch => ch.membership ≠ .pending
  let shared := visible.filter fun ch => ch.key = publicChannelKey
  let rest := (visible.filter fun ch => ch.key ≠ publicChannelKey).insertionSort fun a b => a.key ≤ b.key
  match shared with
  | first :: _ => first :: rest
  | [] => rest

def messageQueueMax : Nat := 64

inductive QueuedMessage where
  | dm (frame : List UInt8)
  /-- with the index of the slot at the time of the broadcast -/
  | chan (channelKey : Secret) (channelIdx : Nat) (text : String) (senderTimestamp : Int)

structure Session where
  slots : Dict Nat Secret
  cleared : Finset Nat
  messageQueue : List QueuedMessage
  droppedMessages : Nat

/-- The slots that hold a key, first the one that was filled first. -/
def slotOf (slots : Dict Nat Secret) (key : Secret) : Option Nat :=
  (slots.entries.find? fun entry => entry.2 = key).map Prod.fst

def enqueueMessage (session : Session) (item : QueuedMessage) : Session :=
  if session.messageQueue.length < messageQueueMax then
    { session with messageQueue := session.messageQueue ++ [item] }
  else
    { session with
      messageQueue := session.messageQueue.tail ++ [item]
      droppedMessages := session.droppedMessages + 1 }

/-- `dequeue_message` on the queue: channel messages take the index that their channel has
now, and are skipped when it has none. -/
def dequeue (slots : Dict Nat Secret) : List QueuedMessage → Option QueuedMessage × List QueuedMessage
  | [] => (none, [])
  | .dm frame :: rest => (some (.dm frame), rest)
  | .chan channelKey _ text senderTimestamp :: rest =>
    match slotOf slots channelKey with
    | none => dequeue slots rest
    | some idx => (some (.chan channelKey idx text senderTimestamp), rest)

/-- What a client is told about a slot: nothing, or a name and a secret. -/
inductive ChannelInfo where
  | empty
  | channel (name : List Char) (secret : Secret)

def ChannelInfo.secret? : ChannelInfo → Option Secret
  | .empty => none
  | .channel _ secret => some secret

def channelInfo (host : Host) (session : Session) (idx : Nat) : Session × ChannelInfo :=
  if idx ∈ session.cleared then (session, .empty)
  else
    match session.slots.get? idx with
    | some key =>
      match getByKey host key with
      | none => (session, .empty)
      | some channel => (session, .channel channel.name channel.key)
    | none =>
      match (projectHostChannels host)[idx]? with
      | some channel =>
        ({ session with slots := session.slots.set idx channel.key }, .channel channel.name channel.key)
      | none => (session, .empty)

def isEmptyChannelSecret (secret : Secret) : Bool := secret = 0

def setChannelEmpty (name : List Char) (secret : Secret) : Bool :=
  strip name = [] || isEmptyChannelSecret secret

/-- `_fanout_message` of a channel message that is not outgoing. -/
def fanoutMessage (session : Session) (channelKey : Secret) (text : String) (timestamp : Int) :
    Session :=
  match slotOf session.slots channelKey with
  | none => session
  | some idx => enqueueMessage session (.chan channelKey idx text timestamp)

inductive SendResult where
  | error
  | sent (channelKey : Secret)

/-- `_send_channel` up to the radio: the channel that the text goes out on. -/
def sendChannel (host : Host) (session : Session) (idx : Nat) : SendResult :=
  match session.slots.get? idx with
  | none => .error
  | some key =>
    match getByKey host key with
    | none => .error
    | some channel => .sent channel.key

structure State where
  host : Host
  session : Session
  /-- The slots whose present content the client set itself. -/
  setByClient : Finset Nat
  /-- The secret of each slot as its last answer gave it. -/
  answered : Nat → Option Secret

inductive Event where
  | getChannel (idx : Nat)
  /-- `deleted`: the host deletes the channel while it is being adopted, so that it cannot
  be reloaded and the client gets an error -/
  | setChannel (idx : Nat) (name : List Char) (secret : Secret) (deleted : Bool)
  | syncNextMessage
  | sendChannelTxtMsg (idx : Nat)
  | hostCreate (channel : Channel)
  | hostDelete (key : Secret)
  | broadcast (channelKey : Secret) (text : String) (timestamp : Int)
  | directMessage (frame : List UInt8)

def answer (answered : Nat → Option Secret) (idx : Nat) (secret : Option Secret) : Nat → Option Secret :=
  fun other => if other = idx then secret else answered other

def getStep (s : State) (idx : Nat) : State :=
  let (session, info) := channelInfo s.host s.session idx
  { s with session, answered := answer s.answered idx info.secret? }

def setStep (s : State) (idx : Nat) (name : List Char) (secret : Secret) (deleted : Bool) : State :=
  if setChannelEmpty name secret then
    { s with
      session := { s.session with
        slots := s.session.slots.pop idx
        cleared := insert idx s.session.cleared }
      setByClient := s.setByClient.erase idx
      answered := answer s.answered idx none }
  else
    let session := { s.session with
      cleared := s.session.cleared.erase idx
      slots := s.session.slots.set idx secret }
    let setByClient := insert idx s.setByClient
    if deleted then { s with session, setByClient, host := s.host.pop secret }
    else
      { host := s.host.set secret ⟨secret, name, .adopted⟩
        session, setByClient
        answered := answer s.answered idx (some secret) }

def step (s : State) : Event → Option State
  | .getChannel idx => some (getStep s idx)
  | .setChannel idx name secret deleted => some (setStep s idx name secret deleted)
  | .syncNextMessage =>
    some { s with session := { s.session with
      messageQueue := (dequeue s.session.slots s.session.messageQueue).2 } }
  | .sendChannelTxtMsg _ => some s
  | .hostCreate channel => some { s with host := s.host.set channel.key channel }
  | .hostDelete key => some { s with host := s.host.pop key }
  | .broadcast channelKey text timestamp =>
    some { s with session := fanoutMessage s.session channelKey text timestamp }
  | .directMessage frame => some { s with session := enqueueMessage s.session (.dm frame) }

/-- A new session over any channels of the host, stored under their keys. -/
def Initial (s : State) : Prop :=
  s.session.slots = .empty ∧ s.session.cleared = ∅ ∧
    ∀ key channel, s.host.get? key = some channel → channel.key = key

end Meshloom.ChannelSession
