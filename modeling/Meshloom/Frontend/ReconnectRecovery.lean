import Meshloom.Keyed
import Meshloom.Replica
import Meshloom.StableSort
import Meshloom.Text
import Meshloom.Transition

/-! The contact and channel lists of the frontend (`useRealtimeAppState`) beside the server's. While
the socket is up, each change of the server is queued for the client; a reconnect fetches the lists
anew, the contacts in pages, and keeps what changes said in the meantime. -/
namespace Meshloom.Frontend.ReconnectRecovery
open StableSort Replica
variable {C D : Type}

abbrev Key := List Char

/-- A contact, with its fields that the recovery does not look at. -/
structure Contact (C : Type) where
  publicKey : Key
  name : Option Key
  fields : C
  deriving DecidableEq

structure Channel (D : Type) where
  key : Key
  name : Key
  fields : D
  deriving DecidableEq

def pageSize : Nat := 1000

/-- `ORDER BY COALESCE(name, public_key) LIMIT ? OFFSET ?`. -/
def getContacts (contacts : List (Contact C)) (limit offset : Nat) : List (Contact C) :=
  ((sortFalling (fun c => OrderDual.toDual (c.name.getD c.publicKey)) contacts).drop offset).take limit

/-- `ORDER BY name`. -/
def getChannels (channels : List (Channel D)) : List (Channel D) :=
  sortFalling (fun c => OrderDual.toDual c.name) channels

section Merge
variable {α : Type} (keyOf : α → Key)

/-- `liveByKey.get(key)`; of several items with one key the map has the last. -/
def liveByKey (live : List α) (key : Key) : Option α := live.reverse.find? fun item => keyOf item = key

def mergeSnapshot (snapshot live : List α) (touched : List Key) : List α :=
  if touched = [] then snapshot
  else
    (snapshot.filterMap fun item =>
      if keyOf item ∉ touched then some item else liveByKey keyOf live (keyOf item)) ++
    touched.filterMap fun key =>
      if key ∈ snapshot.map keyOf then none else liveByKey keyOf live key

end Merge

/-- A contact event has all fields, so the merged contact is the incoming one. -/
def mergeContactIntoList (contacts : List (Contact C)) (incoming : Contact C) : List (Contact C) :=
  Keyed.upsert Contact.publicKey incoming contacts

/-- `localeCompare` puts a new channel at its place. -/
def mergeChannelIntoList (localeCompare : Key → Key → Ordering) (channels : List (Channel D))
    (updated : Channel D) : List (Channel D) :=
  if updated.key ∈ channels.map Channel.key then Keyed.upsert Channel.key updated channels
  else (channels ++ [updated]).insertionSort fun a b => localeCompare a.name b.name ≠ .gt

inductive Delta (C D : Type) where
  | contact (contact : Contact C)
  | contactResolved (previousPublicKey : Key) (contact : Contact C)
  | contactDeleted (publicKey : Key)
  | channel (channel : Channel D)
  | channelDeleted (key : Key)

namespace Delta

/-- The keys that `noteDelta` is called with. -/
def contactKeys : Delta C D → List Key
  | .contact c => [c.publicKey]
  | .contactResolved previousPublicKey c => [previousPublicKey, c.publicKey]
  | .contactDeleted publicKey => [publicKey]
  | .channel _ | .channelDeleted _ => []

def channelKeys : Delta C D → List Key
  | .channel c => [c.key]
  | .channelDeleted key => [key]
  | .contact _ | .contactResolved _ _ | .contactDeleted _ => []

end Delta

structure SnapshotTracker where
  contacts : List Key
  channels : List Key

/-- `Set.add` for each key. -/
def addAll (set keys : List Key) : List Key :=
  keys.foldl (fun set key => if key ∈ set then set else set ++ [key]) set

/-- The pages fetched so far, and the offset of the next one. -/
structure Pages (C : Type) where
  all : List (Contact C)
  offset : Nat

/-- What one `onReconnect` has under way. -/
structure Attempt (C D : Type) where
  generation : Nat
  tracker : SnapshotTracker
  contacts : Fetch (Pages C) (List (Contact C))
  channels : Fetch Unit (List (Channel D))

/-- The tracker is in `activeSnapshotsRef` until both fetches are over. -/
def Attempt.active (attempt : Attempt C D) : Bool := ! (attempt.contacts.isOver && attempt.channels.isOver)

structure State (C D : Type) where
  contacts : List (Contact C)
  channels : List (Channel D)
  reconnectGeneration : Nat
  attempts : List (Attempt C D)
  serverContacts : List (Contact C)
  serverChannels : List (Channel D)
  /-- The socket is up, and the changes that are on their way. -/
  connected : Bool
  queue : List (Delta C D)

inductive Event (C D : Type) where
  | changed (delta : Delta C D)
  | disconnected
  | reconnected
  | delivered
  | channelsRead (i : Nat)
  | channelsAnswered (i : Nat)
  | channelsFailed (i : Nat)
  | contactsPageRead (i : Nat)
  | contactsAnswered (i : Nat)
  | contactsFailed (i : Nat)

/-- A change of the server's tables. -/
def change (s : State C D) : Delta C D → State C D
  | .contact contact =>
    { s with serverContacts := Keyed.upsert Contact.publicKey contact s.serverContacts }
  | .contactResolved previousPublicKey contact =>
    { s with
      serverContacts := Keyed.upsert Contact.publicKey contact
        (Keyed.remove Contact.publicKey s.serverContacts previousPublicKey) }
  | .contactDeleted publicKey =>
    { s with serverContacts := Keyed.remove Contact.publicKey s.serverContacts publicKey }
  | .channel channel => { s with serverChannels := Keyed.upsert Channel.key channel s.serverChannels }
  | .channelDeleted key => { s with serverChannels := Keyed.remove Channel.key s.serverChannels key }

def noteDelta (attempt : Attempt C D) (delta : Delta C D) : Attempt C D :=
  if attempt.active then
    { attempt with tracker :=
      { contacts := addAll attempt.tracker.contacts delta.contactKeys
        channels := addAll attempt.tracker.channels delta.channelKeys } }
  else attempt

/-- `setContacts` and `setChannels` of the handlers. -/
def receive (localeCompare : Key → Key → Ordering) (s : State C D) : Delta C D → State C D
  | .contact contact => { s with contacts := mergeContactIntoList s.contacts contact }
  | .contactResolved previousPublicKey contact =>
    { s with
      contacts := mergeContactIntoList
        (Keyed.remove Contact.publicKey s.contacts previousPublicKey) contact }
  | .contactDeleted publicKey =>
    { s with contacts := Keyed.remove Contact.publicKey s.contacts publicKey }
  | .channel channel => { s with channels := mergeChannelIntoList localeCompare s.channels channel }
  | .channelDeleted key => { s with channels := Keyed.remove Channel.key s.channels key }

def onReconnect (s : State C D) : State C D :=
  { s with
    reconnectGeneration := s.reconnectGeneration + 1
    attempts := s.attempts ++
      [⟨s.reconnectGeneration + 1, ⟨[], []⟩, .running ⟨[], 0⟩, .running ()⟩] }

/-- The next page of `fetchAllContacts`; a short one is the last. -/
def fetchPage (server : List (Contact C)) (pages : Pages C) : Fetch (Pages C) (List (Contact C)) :=
  let page := getContacts server pageSize pages.offset
  if page.length < pageSize then .arrived (pages.all ++ page)
  else .running ⟨pages.all ++ page, pages.offset + pageSize⟩

def contactsAnswered (s : State C D) (i : Nat) (attempt : Attempt C D) (data : List (Contact C)) :
    State C D :=
  let s := { s with attempts := s.attempts.set i { attempt with contacts := .succeeded } }
  if attempt.generation = s.reconnectGeneration then
    { s with contacts := mergeSnapshot Contact.publicKey data s.contacts attempt.tracker.contacts }
  else s

def channelsAnswered (s : State C D) (i : Nat) (attempt : Attempt C D) (data : List (Channel D)) :
    State C D :=
  let s := { s with attempts := s.attempts.set i { attempt with channels := .succeeded } }
  if attempt.generation = s.reconnectGeneration then
    { s with channels := mergeSnapshot Channel.key data s.channels attempt.tracker.channels }
  else s

def step (localeCompare : Key → Key → Ordering) (s : State C D) : Event C D → Option (State C D)
  | .changed delta =>
    some { change s delta with queue := if s.connected then s.queue ++ [delta] else s.queue }
  | .disconnected => some { s with connected := false, queue := [] }
  | .reconnected => if s.connected then none else some { onReconnect s with connected := true }
  | .delivered =>
    match s.queue with
    | delta :: rest =>
      some { receive localeCompare s delta with
        attempts := s.attempts.map (noteDelta · delta)
        queue := rest }
    | [] => none
  | .channelsRead i =>
    match s.attempts[i]? with
    | some ⟨generation, tracker, contacts, .running ()⟩ =>
      some { s with attempts :=
        s.attempts.set i ⟨generation, tracker, contacts, .arrived (getChannels s.serverChannels)⟩ }
    | _ => none
  | .channelsAnswered i =>
    match s.attempts[i]? with
    | some ⟨generation, tracker, contacts, .arrived data⟩ =>
      some (channelsAnswered s i ⟨generation, tracker, contacts, .arrived data⟩ data)
    | _ => none
  | .channelsFailed i =>
    match s.attempts[i]? with
    | some ⟨generation, tracker, contacts, .running ()⟩ =>
      some { s with attempts := s.attempts.set i ⟨generation, tracker, contacts, .failed⟩ }
    | _ => none
  | .contactsPageRead i =>
    match s.attempts[i]? with
    | some ⟨generation, tracker, .running pages, channels⟩ =>
      some { s with attempts :=
        s.attempts.set i ⟨generation, tracker, fetchPage s.serverContacts pages, channels⟩ }
    | _ => none
  | .contactsAnswered i =>
    match s.attempts[i]? with
    | some ⟨generation, tracker, .arrived data, channels⟩ =>
      some (contactsAnswered s i ⟨generation, tracker, .arrived data, channels⟩ data)
    | _ => none
  | .contactsFailed i =>
    match s.attempts[i]? with
    | some ⟨generation, tracker, .running _, channels⟩ =>
      some { s with attempts := s.attempts.set i ⟨generation, tracker, .failed, channels⟩ }
    | _ => none

/-- The newest reconnect succeeded, the socket is still up and no change is on its way. -/
def Quiet (s : State C D) : Prop :=
  s.connected = true ∧ s.queue = [] ∧
    ∃ attempt ∈ s.attempts, attempt.generation = s.reconnectGeneration ∧
      attempt.contacts = .succeeded ∧ attempt.channels = .succeeded

/-- The lists are the server's, each key once. -/
def Recovered (s : State C D) : Prop :=
  (s.contacts.Perm s.serverContacts ∧ (s.contacts.map Contact.publicKey).Nodup) ∧
    s.channels.Perm s.serverChannels ∧ (s.channels.map Channel.key).Nodup

/-- Whatever the client has before the first reconnect, each key once. -/
structure Started (s : State C D) : Prop where
  down : s.connected = false ∧ s.queue = [] ∧ s.attempts = []
  contacts : (s.contacts.map Contact.publicKey).Nodup
  channels : (s.channels.map Channel.key).Nodup
  serverContacts : (s.serverContacts.map Contact.publicKey).Nodup
  serverChannels : (s.serverChannels.map Channel.key).Nodup

/-- The pages have no contact twice, and none of those that did not change since the reconnect is
missing. -/
def Gapless (s : State C D) (tracker : SnapshotTracker) (data : List (Contact C)) : Prop :=
  (data.map Contact.publicKey).Nodup ∧
    ∀ contact ∈ s.serverContacts, contact.publicKey ∉ tracker.contacts →
      (∀ delta ∈ s.queue, contact.publicKey ∉ delta.contactKeys) →
      contact.publicKey ∈ data.map Contact.publicKey

def Paged (s : State C D) : Event C D → Prop
  | .contactsAnswered i => ∀ generation tracker data channels,
      s.attempts[i]? = some ⟨generation, tracker, .arrived data, channels⟩ →
      generation = s.reconnectGeneration → Gapless s tracker data
  | _ => True

end Meshloom.Frontend.ReconnectRecovery
