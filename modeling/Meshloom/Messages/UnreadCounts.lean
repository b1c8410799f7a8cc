import Meshloom.Dict
import Meshloom.SkipScan
import Meshloom.StableSort
import Meshloom.Messages.Database

/-! The unread summary of all conversations (`MessageRepository.get_unread_counts` in
`app/repository/messages.py`): a recursive query that finds the conversations, and
subqueries for the unread messages and the newest message of each. -/
namespace Meshloom.Messages.Unread
open Sql SkipScan StableSort

/-- The order of the texts `'CHAN'` and `'PRIV'`. -/
def typeRank : MessageType → Nat
  | .chan => 0
  | .priv => 1

instance (priority := low) : LinearOrder MessageType :=
  LinearOrder.lift' typeRank fun a b => by cases a <;> cases b <;> simp [typeRank]

/-- The columns of `channels` that the summary reads. -/
structure ChannelRow where
  lastReadAt : Option Int
  muted : Option Int

/-- The columns of `contacts` that the summary reads. -/
structure ContactRow where
  lastReadAt : Option Int

structure Tables where
  messages : List Message
  /-- The primary key of `messages`. -/
  distinct : (messages.map Message.id).Nodup
  channels : Dict Key ChannelRow
  contacts : Dict Key ContactRow

/-- The rows of the two recursive parts `types` and `conv` of `conversations_cte`, without
the nulls that end them, after a number of rounds. The order of rows does not matter: they
are stored under keys. -/
def conversationsWithin (tables : Tables) (rounds : Nat) : List (MessageType × Key) :=
  let types := tables.messages.map Message.type
  (rows types rounds types.min?).flatMap fun t =>
    let keys := (tables.messages.filter fun m => m.type = t).map Message.conversationKey
    (rows keys rounds keys.min?).map (t, ·)

/-- A conversation takes a round, so there are no more rounds than messages. -/
def conversations (tables : Tables) : List (MessageType × Key) :=
  conversationsWithin tables tables.messages.length

/-- A row of `convs`. -/
structure Conv where
  t : MessageType
  ck : Key
  hasChannel : Bool
  muted : Int
  readAt : Int

def convOf (tables : Tables) (conversation : MessageType × Key) : Conv :=
  let (t, ck) := conversation
  let ch := if t = .chan then tables.channels.get? ck else none
  let ct := if t = .priv then tables.contacts.get? ck else none
  { t, ck
    hasChannel := ch.isSome
    muted := (ch.bind ChannelRow.muted).getD 0
    readAt := (match t with
      | .chan => ch.bind ChannelRow.lastReadAt
      | .priv => ct.bind ContactRow.lastReadAt).getD 0 }

section Query
variable (tables : Tables) (name : Option String) (blockedKeys : List Key) (blockedNames : List String)

/-- The matchers of `_build_blocked_incoming_clause` on a row. -/
def blockedMatchers (m : Message) : List (Option Bool) :=
  (if blockedKeys ≠ [] then
    [and3 (some (m.type = .priv)) (in3 (some m.conversationKey) blockedKeys),
      and3 (some (m.type = .chan)) (and3 (isNotNull m.senderKey) (in3 m.senderKey blockedKeys))]
  else []) ++
  (if blockedNames ≠ [] then [and3 (isNotNull m.senderName) (in3 m.senderName blockedNames)] else [])

/-- `blocked_sql`; without matchers there is no clause. -/
def blockedSql (m : Message) : Option Bool :=
  match blockedMatchers blockedKeys blockedNames m with
  | [] => some true
  | first :: rest => not3 (and3 (some (m.outgoing = false)) (rest.foldl or3 first))

/-- The rows of the join with `messages` that the counts are taken over. -/
def unreadRows (c : Conv) : List Message :=
  tables.messages.filter fun m =>
    m.type = c.t ∧ m.conversationKey = c.ck ∧ m.outgoing = false ∧ m.receivedAt > c.readAt ∧
      holds (blockedSql blockedKeys blockedNames m)

/-- The time of arrival and the id. -/
def orderKey (m : Message) : Int ×ₗ Nat := toLex (m.receivedAt, m.id)

/-- `ORDER BY m.received_at ASC, m.id ASC LIMIT 1`. -/
def firstUnreadId (c : Conv) : Option Nat :=
  (sortFalling (fun m => OrderDual.toDual (orderKey m))
    (unreadRows tables blockedKeys blockedNames c)).head?.map Message.id

/-- `mention_token`. -/
def mentionToken : Option String :=
  match name with
  | some name => if name ≠ "" then some ("@[" ++ name ++ "]") else none
  | none => none

/-- `INSTR(LOWER(text), LOWER(token)) > 0`; `LOWER` knows the ASCII letters. -/
def mentions (token text : String) : Bool :=
  (text.toList.map Char.toLower).tails.any (token.toList.map Char.toLower).isPrefixOf

/-- A row of the first query. -/
structure UnreadRow where
  t : MessageType
  ck : Key
  hasChannel : Bool
  unreadCount : Nat
  hasMention : Bool
  firstUnreadId : Option Nat

/-- What the first query makes of a conversation: nothing for a muted channel, and no group
without a row to count. -/
def unreadRow (c : Conv) : Option UnreadRow :=
  let rows := unreadRows tables blockedKeys blockedNames c
  if (c.t ≠ .chan ∨ c.muted = 0) ∧ rows ≠ [] then
    some
      { t := c.t
        ck := c.ck
        hasChannel := c.hasChannel
        unreadCount := rows.length
        hasMention := match mentionToken name with
          | some token => rows.any fun m => mentions token m.text
          | none => false
        firstUnreadId := firstUnreadId tables blockedKeys blockedNames c }
  else none

def unreadQuery : List UnreadRow :=
  ((conversations tables).map (convOf tables)).filterMap
    (unreadRow tables name blockedKeys blockedNames)

/-- `last_id`. -/
def lastId (c : Conv) : Option Nat :=
  (sortFalling orderKey (tables.messages.filter fun m =>
    m.type = c.t ∧ m.conversationKey = c.ck ∧ holds (blockedSql blockedKeys blockedNames m))).head?.map
    Message.id

/-- What the second query makes of a conversation: the conversation and its newest message. -/
def lastRow (c : Conv) : Option (Conv × Message) := do
  let last ← lastId tables blockedKeys blockedNames c
  let lm ← tables.messages.find? fun m => m.id = last
  return (c, lm)

def lastQuery : List (Conv × Message) :=
  ((conversations tables).map (convOf tables)).filterMap (lastRow tables blockedKeys blockedNames)

/-- `state_key`. -/
def stateKey (t : MessageType) (ck : Key) : List Char :=
  (match t with
    | .chan => ['c', 'h', 'a', 'n', 'n', 'e', 'l', '-']
    | .priv => ['c', 'o', 'n', 't', 'a', 'c', 't', '-']) ++ ck

structure Summary where
  counts : Dict (List Char) Nat
  mentions : Dict (List Char) Bool
  lastMessageTimes : Dict (List Char) Int
  lastMessagePreviews : Dict (List Char) (List Char)
  lastMessageOutgoing : Dict (List Char) Bool
  lastReadAts : Dict (List Char) (Option Int)
  firstUnreadIds : Dict (List Char) (Option Nat)

/-- `(is_channel and row["has_channel"]) or row["t"] == "PRIV"`. -/
def UnreadRow.counted (row : UnreadRow) : Bool :=
  (row.t = .chan ∧ row.hasChannel = true) ∨ row.t = .priv

def getUnreadCounts : Summary :=
  let unread := unreadQuery tables name blockedKeys blockedNames
  let last := lastQuery tables blockedKeys blockedNames
  let lastMessageTimes := Dict.ofList (last.map fun (c, lm) => (stateKey c.t c.ck, lm.receivedAt))
  let lastReadAts := Dict.ofList
    ((tables.channels.entries.map fun (key, row) => (stateKey .chan key, row.lastReadAt)) ++
      tables.contacts.entries.map fun (key, row) => (stateKey .priv key, row.lastReadAt))
  { counts := Dict.ofList ((unread.filter UnreadRow.counted).map fun row =>
      (stateKey row.t row.ck, row.unreadCount))
    mentions := Dict.ofList ((unread.filter fun row => row.counted && row.hasMention).map fun row =>
      (stateKey row.t row.ck, true))
    lastMessageTimes
    lastMessagePreviews := Dict.ofList (last.map fun (c, lm) =>
      (stateKey c.t c.ck, lm.text.toList.take 120))
    lastMessageOutgoing := Dict.ofList (last.map fun (c, lm) => (stateKey c.t c.ck, lm.outgoing))
    lastReadAts := lastReadAts.filter fun key _ => (lastMessageTimes.get? key).isSome
    firstUnreadIds := Dict.ofList (unread.map fun row => (stateKey row.t row.ck, row.firstUnreadId)) }

end Query

end Meshloom.Messages.Unread
