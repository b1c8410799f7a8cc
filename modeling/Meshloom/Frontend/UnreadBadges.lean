import Meshloom.Transition
import Meshloom.Messages.UnreadCountsProofs

/-! The unread badges (`useUnreadCounts` of the frontend) beside the server's summary. Message events
raise a count one by one, and an answer replaces all counts by what the server had when it read
them. -/
namespace Meshloom.Messages.Unread

/-- The tables after an incoming message. -/
def Tables.insert (tables : Tables) (m : Message) (fresh : m.id ∉ tables.messages.map Message.id) :
    Tables :=
  { tables with
    messages := tables.messages ++ [m]
    distinct := by
      rw [List.map_append, List.nodup_append]
      refine ⟨tables.distinct, List.nodup_singleton _, ?_⟩
      intro a left b right same
      rw [List.mem_singleton.mp right] at same
      exact fresh (same ▸ left) }

/-- `ContactRepository.mark_all_read` -/
def Tables.contactsMarkAllRead (tables : Tables) (now : Int) : Tables :=
  { tables with contacts := tables.contacts.mapValues fun _ _ => ⟨some now⟩ }

/-- `ChannelRepository.mark_all_read`: the channels that are adopted. -/
def Tables.channelsMarkAllRead (tables : Tables) (adopted : Key → Bool) (now : Int) : Tables :=
  { tables with
    channels := tables.channels.mapValues fun key row =>
      if adopted key then { row with lastReadAt := some now } else row }

end Meshloom.Messages.Unread

namespace Meshloom.Frontend.UnreadBadges
open Messages (MessageType Key)
open Messages.Unread

structure Badges where
  unreadCounts : Dict (List Char) Nat
  mentions : Dict (List Char) Bool
  unreadLastReadAts : Dict (List Char) (Option Int)
  firstUnreadIds : Dict (List Char) (Option Nat)

/-- The conversation that is open is read already. -/
def withoutActive (activeKey : Option (List Char)) (data : Dict (List Char) α) : Dict (List Char) α :=
  match activeKey with
  | some key => data.pop key
  | none => data

def applyUnreads (activeKey : Option (List Char)) (data : Summary) : Badges where
  unreadCounts := withoutActive activeKey data.counts
  mentions := withoutActive activeKey data.mentions
  unreadLastReadAts := data.lastReadAts
  firstUnreadIds := data.firstUnreadIds

def incrementUnread (b : Badges) (stateKey : List Char) (messageId : Nat) (hasMention : Bool) : Badges :=
  { b with
    unreadCounts := b.unreadCounts.set stateKey ((b.unreadCounts.get? stateKey).getD 0 + 1)
    firstUnreadIds :=
      if (b.firstUnreadIds.get? stateKey).join.isSome then b.firstUnreadIds
      else b.firstUnreadIds.set stateKey (some messageId)
    mentions := if hasMention then b.mentions.set stateKey true else b.mentions }

def recordMessageEvent (b : Badges) (msg : Messages.Message)
    (isActiveConversation isNewMessage hasMention : Bool) : Badges :=
  if msg.conversationKey = [] then b
  else if ! isActiveConversation && ! msg.outgoing && isNewMessage then
    incrementUnread b (stateKey msg.type msg.conversationKey) msg.id hasMention
  else b

def noBadges : Badges := ⟨.empty, .empty, .empty, .empty⟩

/-- A `/unreads` request, with the tables as the server read them. -/
structure UnreadsRequest where
  answer : Option Tables

/-- A `/mark-all-read` request: on its way, and behind each suspension of its handler. -/
inductive MarkRequest where
  | sent
  | begun (now : Int)
  | contactsMarked (now : Int)
  deriving DecidableEq

structure State where
  badges : Badges
  requests : List UnreadsRequest
  marks : List MarkRequest
  tables : Tables
  adopted : Key → Bool
  /-- Stored, with the event still to come. -/
  unannounced : List Messages.Message
  /-- Unread on the server, with a badge that was cleared. Nothing reads it. -/
  cleared : List Messages.Message

inductive Event where
  | stored (m : Messages.Message)
  | announced (m : Messages.Message) (hasMention : Bool)
  | fetchUnreads
  | unreadsRead (i : Nat)
  | unreadsAnswered (i : Nat)
  | unreadsFailed (i : Nat)
  | markAllRead
  | markBegun (i : Nat) (now : Int)
  | contactsMarked (i : Nat)
  | channelsMarked (i : Nat)
  | markFailed (i : Nat)

/-- What is unread on the server. -/
def isUnread (tables : Tables) (m : Messages.Message) : Bool :=
  m ∈ tables.messages && unread tables [] [] m.type m.conversationKey m

/-- The badges are cleared at once. -/
def markAllRead (s : State) : State :=
  { s with
    badges := noBadges
    marks := s.marks ++ [.sent]
    cleared := s.tables.messages.filter fun m => isUnread s.tables m && decide (m ∉ s.unannounced) }

/-- An update of the read marks. -/
def updated (s : State) (tables : Tables) (marks : List MarkRequest) : State :=
  { s with
    tables
    marks
    cleared := s.cleared.filter (isUnread tables) }

variable (name : Option String)

def step (s : State) : Event → Option State
  | .stored m =>
    if fresh : m.id ∉ s.tables.messages.map Messages.Message.id then
      if m.outgoing = false then
        some { s with tables := s.tables.insert m fresh, unannounced := s.unannounced ++ [m] }
      else none
    else none
  | .announced m hasMention =>
    if m ∈ s.unannounced then
      some { s with
        badges := recordMessageEvent s.badges m false true hasMention
        unannounced := s.unannounced.erase m }
    else none
  | .fetchUnreads => some { s with requests := s.requests ++ [⟨none⟩] }
  | .unreadsRead i =>
    match s.requests[i]? with
    | some ⟨none⟩ => some { s with requests := s.requests.set i ⟨some s.tables⟩ }
    | _ => none
  | .unreadsAnswered i =>
    match s.requests[i]? with
    | some ⟨some tables⟩ =>
      some { s with
        badges := applyUnreads none (getUnreadCounts tables name [] [])
        requests := s.requests.eraseIdx i
        cleared := [] }
    | _ => none
  | .unreadsFailed i =>
    if i < s.requests.length then some { s with requests := s.requests.eraseIdx i } else none
  | .markAllRead => some (markAllRead s)
  | .markBegun i now =>
    match s.marks[i]? with
    | some .sent => some { s with marks := s.marks.set i (.begun now) }
    | _ => none
  | .contactsMarked i =>
    match s.marks[i]? with
    | some (.begun now) =>
      some (updated s (s.tables.contactsMarkAllRead now) (s.marks.set i (.contactsMarked now)))
    | _ => none
  | .channelsMarked i =>
    match s.marks[i]? with
    | some (.contactsMarked now) =>
      some (updated s (s.tables.channelsMarkAllRead s.adopted now) (s.marks.eraseIdx i))
    | _ => none
  | .markFailed i => if i < s.marks.length then some { s with marks := s.marks.eraseIdx i } else none

/-- No request in flight and no event to come. -/
def Quiet (s : State) : Prop := s.requests = [] ∧ s.marks = [] ∧ s.unannounced = []

/-- The badges are the server's. -/
def Agrees (s : State) : Prop :=
  let summary := getUnreadCounts s.tables name [] []
  ∀ t ck, s.badges.unreadCounts.get? (stateKey t ck) = summary.counts.get? (stateKey t ck) ∧
    s.badges.firstUnreadIds.get? (stateKey t ck) = summary.firstUnreadIds.get? (stateKey t ck)

/-- A client just loaded: nothing is in flight, no channel is muted, and it has the server's
summary. -/
structure Loaded (s : State) : Prop where
  quiet : Quiet s
  uncleared : s.cleared = []
  unmuted : ∀ key row, s.tables.channels.get? key = some row → row.muted.getD 0 = 0
  agrees : Agrees name s

/-- The message has a conversation, with a row if that is a channel. -/
def Known (tables : Tables) (m : Messages.Message) : Prop :=
  m.conversationKey ≠ [] ∧ orphan tables m.type m.conversationKey = false

/-- An update leaves the unread messages as they are, apart from those whose badge was cleared. -/
def Spares (s : State) (tables : Tables) : Prop :=
  ∀ m ∈ s.tables.messages, m ∉ s.cleared → (isUnread tables m = true ↔ isUnread s.tables m = true)

/-- The steps at which no message is counted twice or dropped. -/
def Exact (s : State) : Event → Prop
  | .stored m => Known s.tables m ∧ readBoundary s.tables m.type m.conversationKey < m.receivedAt
  | .announced m _ => ∀ other ∈ s.tables.messages, isUnread s.tables other = true →
      belongs m.type m.conversationKey other = true → other ∉ s.unannounced → other ∉ s.cleared →
      orderKey other ≤ orderKey m
  | .unreadsAnswered i => ∀ tables, s.requests[i]? = some ⟨some tables⟩ →
      ∀ m ∈ s.tables.messages,
        (isUnread tables m = true ↔ isUnread s.tables m = true ∧ m ∉ s.unannounced)
  | .contactsMarked i => ∀ now, s.marks[i]? = some (.begun now) →
      Spares s (s.tables.contactsMarkAllRead now)
  | .channelsMarked i => ∀ now, s.marks[i]? = some (.contactsMarked now) →
      Spares s (s.tables.channelsMarkAllRead s.adopted now) ∧
      (s.marks.length = 1 →
        ∀ m ∈ s.cleared, isUnread (s.tables.channelsMarkAllRead s.adopted now) m = false)
  | .markFailed _ => s.marks.length = 1 → s.cleared = []
  | _ => True

end Meshloom.Frontend.UnreadBadges
