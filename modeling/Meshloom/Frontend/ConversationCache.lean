import Meshloom.Dict
import Meshloom.StableSort
import Meshloom.Transition
import Meshloom.Frontend.Message

/-! `ConversationMessageCache` of the frontend: the last conversations that were open, in
an insertion-ordered map whose first key is the next one to go. -/
namespace Meshloom.Frontend.ConversationCache
open StableSort

def maxCachedConversations : Nat := 20
def maxMessagesPerEntry : Nat := 200

structure CachedEntry where
  messages : List Message
  hasOlderMessages : Bool

structure InternalEntry extends CachedEntry where
  contentKeys : Finset String

/-- `new Set(messages.map((message) => getMessageContentKey(message)))`. -/
def contentKeysOf (messages : List Message) : Finset String :=
  (messages.map getMessageContentKey).toFinset

def normalizeEntry (entry : CachedEntry) : InternalEntry :=
  if entry.messages.length > maxMessagesPerEntry then
    let messages := (sortFalling Message.receivedAt entry.messages).take maxMessagesPerEntry
    { messages, hasOlderMessages := true, contentKeys := contentKeysOf messages }
  else { toCachedEntry := entry, contentKeys := contentKeysOf entry.messages }

abbrev Cache := Dict String InternalEntry

namespace Cache

/-- `delete` and `set`: the entry becomes the last one. -/
def refresh (cache : Cache) (id : String) (entry : InternalEntry) : Cache := (cache.pop id).set id entry

/-- Deletes the first key when there are too many. -/
def evict (cache : Cache) : Cache :=
  if cache.size > maxCachedConversations then
    match cache.first? with
    | some (lruKey, _) => cache.pop lruKey
    | none => cache
  else cache

def get (cache : Cache) (id : String) : Cache × Option CachedEntry :=
  match cache.get? id with
  | none => (cache, none)
  | some entry => (refresh cache id entry, some entry.toCachedEntry)

def peek (cache : Cache) (id : String) : Option CachedEntry :=
  (cache.get? id).map InternalEntry.toCachedEntry

def setEntry (cache : Cache) (id : String) (entry : CachedEntry) : Cache :=
  evict (refresh cache id (normalizeEntry entry))

def addMessage (cache : Cache) (id : String) (msg : Message) : Cache × Bool :=
  match cache.get? id with
  | none =>
    let entry : InternalEntry := ⟨⟨[msg], true⟩, {getMessageContentKey msg}⟩
    (evict (cache.set id entry), true)
  | some entry =>
    if getMessageContentKey msg ∈ entry.contentKeys then (cache, false)
    else if entry.messages.any (·.id = msg.id) then (cache, false)
    else
      (refresh cache id (normalizeEntry ⟨entry.messages ++ [msg], entry.hasOlderMessages⟩), true)

/-- The first entry that holds a message. -/
def holder (cache : Cache) (messageId : Int) : Option (String × InternalEntry) :=
  cache.entries.find? fun entry => entry.2.messages.any (·.id = messageId)

def updateAck (cache : Cache) (messageId : Int) (update : AckUpdate) : Cache :=
  match holder cache messageId with
  | none => cache
  | some (id, entry) =>
    cache.set id { entry with messages := acknowledgeFirst messageId update entry.messages }

/-- The messages of `merged`, then those of the other list that are not among them. -/
def mergeMessages (merged other : List Message) : List Message :=
  other.foldl (fun merged message =>
    if message.id ∈ merged.map Message.id then merged else merged ++ [message]) merged

def rename (cache : Cache) (oldId newId : String) : Cache :=
  if oldId = newId then cache
  else
    match cache.get? oldId with
    | none => cache
    | some oldEntry =>
      match cache.get? newId with
      | none => (cache.pop oldId).set newId oldEntry
      | some newEntry =>
        (cache.pop oldId).set newId (normalizeEntry
          ⟨mergeMessages newEntry.messages oldEntry.messages,
            newEntry.hasOlderMessages || oldEntry.hasOlderMessages⟩)

def removeMessage (cache : Cache) (messageId : Int) : Cache :=
  match holder cache messageId with
  | none => cache
  | some (id, entry) =>
    cache.set id (normalizeEntry
      ⟨entry.messages.filter (·.id ≠ messageId), entry.hasOlderMessages⟩)

end Cache

/-- The cache with the time at which each conversation was last used. -/
structure State where
  cache : Cache
  clock : Nat
  used : String → Nat

inductive Op where
  | get (id : String)
  | peek (id : String)
  | set (id : String) (entry : CachedEntry)
  | addMessage (id : String) (msg : Message)
  | updateAck (messageId : Int) (update : AckUpdate)
  | remove (id : String)
  | rename (oldId newId : String)
  | removeMessage (messageId : Int)
  | clear

def apply (cache : Cache) : Op → Cache
  | .get id => (cache.get id).1
  | .peek _ => cache
  | .set id entry => cache.setEntry id entry
  | .addMessage id msg => (cache.addMessage id msg).1
  | .updateAck messageId update => cache.updateAck messageId update
  | .remove id => cache.pop id
  | .rename oldId newId => cache.rename oldId newId
  | .removeMessage messageId => cache.removeMessage messageId
  | .clear => .empty

/-- The conversation that an operation counts as a use of. -/
def uses (cache : Cache) : Op → Option String
  | .get id => if (cache.get? id).isSome then some id else none
  | .set id _ => some id
  | .addMessage id msg => if (cache.addMessage id msg).2 then some id else none
  | .rename oldId newId =>
    if oldId ≠ newId ∧ (cache.get? oldId).isSome then some newId else none
  | _ => none

def step (s : State) (op : Op) : Option State :=
  some
    { cache := apply s.cache op
      clock := s.clock + 1
      used := fun id => if uses s.cache op = some id then s.clock + 1 else s.used id }

def initial : State := ⟨.empty, 0, fun _ => 0⟩

/-- The conversation and the messages that an operation hands to `normalizeEntry`. -/
def normalized (cache : Cache) : Op → Option (String × List Message)
  | .set id entry => some (id, entry.messages)
  | .addMessage id msg =>
    match cache.get? id with
    | some entry =>
      if (cache.addMessage id msg).2 then some (id, entry.messages ++ [msg]) else none
    | none => none
  | .rename oldId newId =>
    match cache.get? oldId, cache.get? newId with
    | some oldEntry, some newEntry =>
      if oldId ≠ newId then some (newId, Cache.mergeMessages newEntry.messages oldEntry.messages)
      else none
    | _, _ => none
  | .removeMessage messageId =>
    (cache.holder messageId).map fun (id, entry) => (id, entry.messages.filter (·.id ≠ messageId))
  | _ => none

end Meshloom.Frontend.ConversationCache
