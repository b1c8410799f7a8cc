import Meshloom.Sql
import Meshloom.Text

/-! The tables behind direct messages: messages with their two unique indexes,
contacts, and the links of raw packets to messages. -/
namespace Meshloom.Messages
open Sql

/-- Public keys and their prefixes, as hexadecimal text. -/
abbrev Key := List Char

/-- `str.lower()` of a key. -/
def lower (key : Key) : Key := key.map Char.toLower

def upper (key : Key) : Key := key.map Char.toUpper

inductive MessageType where
  | priv | chan
  deriving DecidableEq, Repr

structure MessagePath where
  path : String
  receivedAt : Int
  pathLen : Option Int
  deriving DecidableEq, Repr

/-- A row of `messages`. -/
structure Message where
  id : Nat
  type : MessageType
  conversationKey : Key
  text : String
  senderTimestamp : Option Int
  receivedAt : Int
  paths : List MessagePath
  txtType : Nat
  signature : Option Key
  outgoing : Bool
  senderName : Option String
  senderKey : Option Key
  deriving DecidableEq, Repr

/-- The columns of `idx_messages_incoming_priv_dedup`. -/
structure IncomingKey where
  conversationKey : Key
  text : String
  senderTimestamp : Int
  senderKey : Key
  deriving DecidableEq, Repr

namespace Message

/-- Whether the row is in the partial index of incoming direct messages. -/
def incoming (m : Message) : Bool := m.type = .priv && !m.outgoing

def incomingKey (m : Message) : IncomingKey where
  conversationKey := m.conversationKey
  text := m.text
  senderTimestamp := m.senderTimestamp.getD 0
  senderKey := m.senderKey.getD []

/-- The columns of `idx_messages_dedup_null_safe`. -/
def channelKey (m : Message) : Key × String × Int :=
  (m.conversationKey, m.text, m.senderTimestamp.getD 0)

/-- Two rows that one of the unique indexes does not allow beside each other. -/
def conflicts (m other : Message) : Bool :=
  (m.incoming && other.incoming && m.incomingKey = other.incomingKey) ||
  (m.type = .chan && other.type = .chan && m.channelKey = other.channelKey)

end Message

/-- A row of `contacts`. -/
structure Contact where
  publicKey : Key
  name : Option String
  type : Nat
  deriving DecidableEq, Repr

def contactTypeRepeater : Nat := 2
def contactTypeRoom : Nat := 3

/-- The tables; `messages` in the order of their ids, `links` the `message_id`
of each raw packet. -/
structure Database where
  messages : List Message
  nextId : Nat
  contacts : List Contact
  links : Nat → Option Nat

namespace Database

/-- `MessageRepository.create`: `INSERT OR IGNORE`, with the sender key in lower
case. The id of the argument is not used. -/
def create (db : Database) (m : Message) : Option (Nat × Database) :=
  let row := { m with id := db.nextId, senderKey := m.senderKey.map lower }
  if db.messages.any row.conflicts then none
  else some (db.nextId, { db with messages := db.messages ++ [row], nextId := db.nextId + 1 })

def getById (db : Database) (id : Nat) : Option Message := db.messages.find? (·.id = id)

/-- `MessageRepository.get_by_content`: the oldest row of this content and direction. -/
def getByContent (db : Database) (type : MessageType) (conversationKey : Key) (text : String)
    (senderTimestamp : Option Int) (outgoing : Bool) : Option Message :=
  db.messages.find? fun m =>
    m.type = type ∧ m.conversationKey = conversationKey ∧ m.text = text ∧
      m.senderTimestamp = senderTimestamp ∧ m.outgoing = outgoing

def addPath (db : Database) (messageId : Nat) (path : MessagePath) : Database :=
  { db with messages := db.messages.map fun m =>
      if m.id = messageId then { m with paths := m.paths ++ [path] } else m }

def getLinkedMessageId (db : Database) (packetId : Nat) : Option Nat := db.links packetId

def markDecrypted (db : Database) (packetId messageId : Nat) : Database :=
  { db with links := Function.update db.links packetId (some messageId) }

def getByKey (db : Database) (publicKey : Key) : Option Contact :=
  db.contacts.find? (·.publicKey = lower publicKey)

def prefixMatches (db : Database) (start : Key) : List Contact :=
  db.contacts.filter fun contact => likeStart (lower start) contact.publicKey

/-- `get_by_key_or_prefix`. An ambiguous prefix raises in the source; every caller
modelled here catches that and goes on without a contact. -/
def getByKeyOrPrefix (db : Database) (keyOrPrefix : Key) : Option Contact :=
  match db.getByKey keyOrPrefix with
  | some contact => some contact
  | none =>
    match db.prefixMatches keyOrPrefix with
    | [contact] => some contact
    | _ => none

def getByPubkeyFirstByte (db : Database) (hexByte : Key) : List Contact :=
  db.contacts.filter fun contact => contact.publicKey.take 2 = lower hexByte

/-- `ContactRepository.upsert`, for the columns that message handling reads. -/
def upsert (db : Database) (contact : Contact) : Database :=
  let key := lower contact.publicKey
  match db.contacts.find? (·.publicKey = key) with
  | none => { db with contacts := db.contacts ++ [{ contact with publicKey := key }] }
  | some _ =>
    { db with contacts := db.contacts.map fun old =>
        if old.publicKey = key then
          { old with
            name := contact.name.orElse fun _ => old.name
            type := if contact.type = 0 then old.type else contact.type }
        else old }

def deleteContact (db : Database) (publicKey : Key) : Database :=
  { db with contacts := db.contacts.filter (·.publicKey ≠ lower publicKey) }

/-- The 64-character contacts that a key is the beginning of. -/
def fullMatches (db : Database) (key : Key) : List Contact :=
  db.contacts.filter fun contact => contact.publicKey.length = 64 ∧ likeStart key contact.publicKey

/-- `promote_prefix_placeholders`: the placeholders of one full key only are
merged into it, which deletes them. -/
def promotePrefixPlaceholders (db : Database) (fullKey : Key) : Database :=
  let key := lower fullKey
  { db with contacts := db.contacts.filter fun contact =>
      ¬ (contact.publicKey.length < 64 ∧ likeStart contact.publicKey key ∧
        contact.publicKey ≠ key ∧ (db.fullMatches contact.publicKey).length = 1) }

/-- The candidate prefixes of `claim_prefix_messages`, in both cases. -/
def claimPrefixes (lowerKey : Key) : List Key :=
  ((List.range lowerKey.length).filter (0 < ·)).flatMap fun n =>
    [lowerKey.take n, upper (lowerKey.take n)]

/-- The `WHERE` clause of the claiming update. -/
def claimed (db : Database) (lowerKey : Key) (m : Message) : Bool :=
  m.type = .priv && decide (m.conversationKey ∈ claimPrefixes lowerKey) &&
    (db.fullMatches m.conversationKey).length == 1

/-- The `SET` clause of the claiming update. -/
def rekey (lowerKey : Key) (m : Message) : Message :=
  { m with
    conversationKey := lowerKey
    senderKey := m.senderKey.map fun sender =>
      if sender.length < 64 ∧ likeStart sender lowerKey then lowerKey else sender }

/-- No two rows that a unique index forbids. -/
def Indexed (messages : List Message) : Prop := messages.Pairwise fun m other => ¬ m.conflicts other

instance (messages : List Message) : Decidable (Indexed messages) :=
  inferInstanceAs (Decidable (List.Pairwise _ _))

/-- `claim_prefix_messages`; `none` is the `IntegrityError` of a unique index, upon
which the transaction is rolled back. Rows only move onto `lowerKey`, where none
of those still to be updated stands, so checking the result is checking each row
in turn. -/
def claimPrefixMessages (db : Database) (fullKey : Key) : Option Database :=
  let lowerKey := lower fullKey
  let messages := db.messages.map fun m => if db.claimed lowerKey m then rekey lowerKey m else m
  if Indexed messages then some { db with messages } else none

end Database
end Meshloom.Messages
