import Meshloom.Messages.DmRunProofs

/-! Which row an incoming observation is attached to, and when the messages of two
senders are kept apart. The content lookup does not know the sender, so it answers
with the oldest row of the content; the index does, so it asks for the sender's own. -/
namespace Meshloom.Messages
open Transition
variable {db : Database} {r : StoreRequest} {m : Message} {o : Observation}

/-- The place in the index of the row that the request asks for. -/
def StoreRequest.incomingKey (r : StoreRequest) : IncomingKey :=
  ⟨r.conversationKey, r.text, r.senderTimestamp, (r.senderKey.map lower).getD []⟩

def StoreResult.row? : StoreResult → Option Nat
  | .stored id => some id
  | .duplicate id => some id
  | .lost => none

namespace Observation

/-- The path and the packet of the observation went to this row and to no other, and
the row has the observation's own place in the index. -/
structure AttachedTo (o : Observation) (row : Message) : Prop where
  member : row ∈ o.after.messages
  result : o.result.row? = some row.id
  incoming : row.incoming = true
  key : row.incomingKey = o.request.incomingKey
  path : ∀ path ∈ o.request.messagePath, path ∈ row.paths
  link : ∀ packetId ∈ o.request.packetId, o.after.getLinkedMessageId packetId = some row.id
  others : ∀ other ∈ o.before.messages, other.id ≠ row.id → other ∈ o.after.messages

def OwnRow (o : Observation) : Prop := ∃ row, o.AttachedTo row

/-- The row is of the sender of the observation, and has its content. -/
def Own (o : Observation) (row : Message) : Prop :=
  row.incoming = true ∧ row.incomingKey = o.request.incomingKey

/-- The row has the content of the observation, whoever its sender. -/
def SameContent (o : Observation) (row : Message) : Prop :=
  row.incoming = true ∧ row.conversationKey = o.request.conversationKey ∧
    row.text = o.request.text ∧ row.senderTimestamp = some o.request.senderTimestamp

instance (o : Observation) (row : Message) : Decidable (o.Own row) :=
  inferInstanceAs (Decidable (_ ∧ _))

instance (o : Observation) (row : Message) : Decidable (o.SameContent row) :=
  inferInstanceAs (Decidable (_ ∧ _ ∧ _ ∧ _))

/-- Every row with the content of the observation is its sender's or comes after one
that is. -/
def Preceded (o : Observation) : Prop :=
  ∀ other ∈ o.before.messages, o.SameContent other →
    ∃ own ∈ o.before.messages, o.Own own ∧ own.id ≤ other.id

instance (o : Observation) : Decidable o.Preceded :=
  inferInstanceAs (Decidable (∀ other ∈ o.before.messages, o.SameContent other →
    ∃ own ∈ o.before.messages, o.Own own ∧ own.id ≤ other.id))

/-- A packet that is linked already is linked to a row of the sender's own. Else, on
the best-effort path and when the sender's own row is stored, no row with the same
content is older than the sender's. -/
def OldestIsOwn (o : Observation) : Prop :=
  (∀ row ∈ o.before.linkedMessage o.request, o.Own row) ∧
    (o.before.linkedMessage o.request = none →
      (o.request.bestEffortContentDedup = true ∨ ∃ own ∈ o.before.messages, o.Own own) → o.Preceded)

instance (o : Observation) : Decidable o.OldestIsOwn :=
  inferInstanceAs (Decidable (_ ∧ (_ → _ → _)))

end Observation

/-- Every observation is attached to a row of its own sender, and two senders' messages
of one content are two stored rows. -/
structure Separated (s : State) : Prop where
  own : ∀ o ∈ s.observations, o.OwnRow
  distinct : ∀ a ∈ s.observations, ∀ b ∈ s.observations,
    a.request.conversationKey = b.request.conversationKey → a.request.text = b.request.text →
    a.request.senderTimestamp = b.request.senderTimestamp →
    a.request.incomingKey.senderKey ≠ b.request.incomingKey.senderKey →
    ∃ row ∈ s.db.messages, ∃ row' ∈ s.db.messages,
      a.result.row? = some row.id ∧ b.result.row? = some row'.id ∧ row.id ≠ row'.id

namespace Database

theorem oldest_of_find? {rows : List Message} {p : Message → Bool} {oldest : Message}
    (ordered : rows.Pairwise fun m other => m.id < other.id) (found : rows.find? p = some oldest)
    (member : m ∈ rows) (fits : p m = true) : oldest.id ≤ m.id := by
  induction rows with
  | nil => contradiction
  | cons first rest ih =>
      obtain ⟨head, tail⟩ := List.pairwise_cons.mp ordered
      cases here : p first with
      | true =>
          rw [List.find?_cons_of_pos here] at found
          cases found
          rcases List.mem_cons.mp member with rfl | member
          · exact le_rfl
          · exact (head m member).le
      | false =>
          rw [List.find?_cons_of_neg (by simp [here])] at found
          rcases List.mem_cons.mp member with rfl | member
          · rw [fits] at here
            contradiction
          · exact ih tail found member

end Database

namespace Observation

/-- The content lookup looks for the same content. -/
theorem sameContent_iff (incoming : o.request.outgoing = false) (m : Message) :
    o.SameContent m ↔
      (m.type = .priv ∧ m.conversationKey = o.request.conversationKey ∧ m.text = o.request.text ∧
        m.senderTimestamp = some o.request.senderTimestamp ∧ m.outgoing = o.request.outgoing) := by
  simp only [SameContent, Message.incoming, Bool.and_eq_true, decide_eq_true_eq, Bool.not_eq_true',
    incoming]
  constructor
  · rintro ⟨⟨direct, received⟩, conversation, text, timestamp⟩
    exact ⟨direct, conversation, text, timestamp, received⟩
  · rintro ⟨direct, conversation, text, timestamp, received⟩
    exact ⟨⟨direct, received⟩, conversation, text, timestamp⟩

theorem sameContent_of_own (consistent : o.before.Consistent) (member : m ∈ o.before.messages)
    (own : o.Own m) : o.SameContent m := by
  obtain ⟨incoming, key⟩ := own
  have direct : m.type = .priv := by
    simp only [Message.incoming, Bool.and_eq_true, decide_eq_true_eq] at incoming
    exact incoming.1
  obtain ⟨sent, isSome⟩ := Option.ne_none_iff_exists'.mp (consistent.timestamped m member direct)
  simp only [Message.incomingKey, StoreRequest.incomingKey, IncomingKey.mk.injEq, isSome,
    Option.getD_some] at key
  obtain ⟨conversation, text, timestamp, -⟩ := key
  exact ⟨incoming, conversation, text, by rw [isSome, timestamp]⟩

/-- The index refuses the row exactly when the sender's own row is stored. -/
theorem refused_iff (incoming : o.request.outgoing = false) :
    o.before.messages.any (o.before.newRow o.request.message).conflicts = true ↔
      ∃ own ∈ o.before.messages, o.Own own := by
  have conflicts_iff (m : Message) :
      (o.before.newRow o.request.message).conflicts m = true ↔ o.Own m := by
    have place : (o.before.newRow o.request.message).incomingKey = o.request.incomingKey := rfl
    have listed : (o.before.newRow o.request.message).incoming = true := by
      simp [Message.incoming, Database.newRow, StoreRequest.message, incoming]
    have direct : (o.before.newRow o.request.message).type = .priv := rfl
    simp only [Message.conflicts, listed, place, direct, Bool.true_and, reduceCtorEq, decide_false,
      Bool.false_and, Bool.or_false, Bool.and_eq_true, decide_eq_true_eq]
    exact and_congr_right fun _ => eq_comm
  simp only [List.any_eq_true, conflicts_iff]

/-- The oldest row with the content, where it is looked up. -/
theorem oldest_own_iff (consistent : o.before.Consistent) (incoming : o.request.outgoing = false) :
    (∀ existing, o.before.contentMessage o.request = some existing → o.Own existing) ↔
      o.Preceded := by
  constructor
  · intro ownFirst other member same
    have fits := (sameContent_iff incoming other).mp same
    have looked : (o.before.contentMessage o.request).isSome = true :=
      List.find?_isSome.mpr ⟨other, member, by simpa using fits⟩
    obtain ⟨existing, found⟩ := Option.isSome_iff_exists.mp looked
    refine ⟨existing, List.mem_of_find?_eq_some found, ownFirst existing found, ?_⟩
    exact Database.oldest_of_find? consistent.ordered found member (by simpa using fits)
  · intro preceded existing found
    have member := List.mem_of_find?_eq_some found
    have fits : o.SameContent existing :=
      (sameContent_iff incoming existing).mpr (by simpa using List.find?_some found)
    obtain ⟨own, present, isOwn, before⟩ := preceded existing member fits
    have ownFits :=
      (sameContent_iff incoming own).mp (sameContent_of_own consistent present isOwn)
    have after : existing.id ≤ own.id :=
      Database.oldest_of_find? consistent.ordered found present (by simpa using ownFits)
    rw [Database.eq_of_id consistent member present (le_antisymm after before)]
    exact isOwn

theorem oldestIsOwn_iff (consistent : o.before.Consistent) (incoming : o.request.outgoing = false) :
    o.OldestIsOwn ↔
      ∀ existing, o.before.duplicateOf o.request = some existing → o.Own existing := by
  simp only [OldestIsOwn, Database.duplicateOf]
  cases o.before.linkedMessage o.request with
  | some row => simp
  | none =>
      simp only [Option.not_mem_none, false_implies, implies_true, true_and, true_implies]
      rw [← oldest_own_iff consistent incoming, ← refused_iff incoming]
      split
      · rename_i looked
        exact ⟨fun own => own looked, fun own _ => own⟩
      · rename_i unlooked
        exact ⟨fun _ => by simp, fun _ looked => absurd looked unlooked⟩

theorem ownRow_iff (consistent : o.before.Consistent) (incoming : o.request.outgoing = false)
    (normalized : lower o.request.conversationKey = o.request.conversationKey) :
    o.OwnRow ↔ ∀ existing, o.before.duplicateOf o.request = some existing → o.Own existing := by
  have afterConsistent : o.after.Consistent :=
    Database.storeDirectMessage_consistent consistent normalized
  rcases Database.storeDirectMessage_cases (r := o.request) consistent with
    ⟨existing, found, stored⟩ | ⟨created, absent, inserted, stored⟩
  · have member := Database.mem_of_duplicateOf found
    have result : o.result.row? = some existing.id := by rw [result, stored]; rfl
    obtain ⟨row, present, follows, key, path, link, others⟩ :=
      Database.reconcileDuplicateMessage_row member o.request
    have after : o.after = o.before.reconcileDuplicateMessage existing o.request := by
      rw [Observation.after, stored]
    rw [← after] at present link others
    rw [found]
    constructor
    · rintro ⟨attached, isAttached⟩ other same
      cases same
      have sameRow : attached = row := by
        apply Database.eq_of_id afterConsistent isAttached.member present
        rw [follows.id]
        exact Option.some.inj (isAttached.result.symm.trans result)
      constructor
      · rw [← follows.incoming, ← sameRow]
        exact isAttached.incoming
      · rw [← key, ← sameRow]
        exact isAttached.key
    · intro own
      obtain ⟨listed, ownKey⟩ := own existing rfl
      refine ⟨row, present, ?_, ?_, ?_, path, ?_, ?_⟩
      · rw [follows.id]
        exact result
      · rw [follows.incoming]
        exact listed
      · rw [key, ownKey]
      · rw [follows.id]
        exact link
      · rw [follows.id]
        exact others
  · rw [absent]
    obtain ⟨-, rows, -, -, -, -⟩ := Database.create_eq_some inserted
    have after : o.after = created.linkPacket o.request.packetId o.before.nextId := by
      rw [Observation.after, stored]
    refine ⟨fun _ => by simp, fun _ => ⟨o.before.newRow o.request.message, ?_, ?_, ?_, rfl, ?_, ?_, ?_⟩⟩
    · rw [after, Database.linkPacket_messages, rows]
      exact List.mem_append_right _ (List.mem_singleton.mpr rfl)
    · rw [Observation.result, stored]
      rfl
    · simp [Message.incoming, Database.newRow, StoreRequest.message, incoming]
    · intro path heard
      simp [Database.newRow, StoreRequest.message, Option.mem_def.mp heard]
    · intro packetId present
      rw [after, Option.mem_def.mp present]
      simp [Database.linkPacket, Database.markDecrypted, Database.getLinkedMessageId, Database.newRow]
    · intro other member _
      rw [after, Database.linkPacket_messages, rows]
      exact List.mem_append_left _ member

/-- An observation that goes to the row of an earlier one is either of the same
sender or under a longer conversation key, to which the row has moved since. -/
theorem key_of_same_row {older newer : Observation} {row row' : Message}
    (consistent : newer.before.Consistent) (evolves : Database.Evolves older.after newer.before)
    (earlier : older.AttachedTo row) (later : newer.AttachedTo row') (same : row.id = row'.id)
    (normalized : lower newer.request.conversationKey = newer.request.conversationKey) :
    newer.request.incomingKey = older.request.incomingKey ∨
      older.request.conversationKey.length < newer.request.conversationKey.length := by
  obtain ⟨kept, member, follows⟩ := evolves row earlier.member
  obtain ⟨found, present, follows'⟩ :=
    Database.storeDirectMessage_evolves consistent newer.request kept member
  have afterConsistent : newer.after.Consistent :=
    Database.storeDirectMessage_consistent consistent normalized
  have isRow : found = row' := by
    apply Database.eq_of_id afterConsistent present later.member
    rw [follows'.id, follows.id, same]
  subst isRow
  have chain := follows.trans follows'
  have conversation : found.conversationKey = newer.request.conversationKey :=
    congrArg IncomingKey.conversationKey later.key
  have conversation' : row.conversationKey = older.request.conversationKey :=
    congrArg IncomingKey.conversationKey earlier.key
  rcases chain.key with unchanged | longer
  · left
    rw [← later.key, unchanged, earlier.key]
  · right
    rw [← conversation, ← conversation']
    exact longer

/-- Observations of one conversation key in one row have one sender. -/
def Agree (a b : Observation) : Prop :=
  ∀ row row', a.AttachedTo row → b.AttachedTo row' → row.id = row'.id →
    a.request.conversationKey = b.request.conversationKey →
    a.request.incomingKey = b.request.incomingKey

instance : Std.Symm Agree where
  symm _ _ agree row row' attached attached' same conversation :=
    (agree row' row attached' attached same.symm conversation.symm).symm

end Observation

/-- Attached to rows of their own, the observations of two senders are apart. -/
theorem separated_of_own {s : State} (recorded : Recorded s)
    (own : ∀ o ∈ s.observations, o.OwnRow) : Separated s := by
  have inOrder : s.observations.Pairwise Observation.Agree := by
    refine recorded.chronological.imp_of_mem ?_
    intro newer older member _ evolves row' row later earlier same conversation
    obtain ⟨consistent, -, normalized⟩ := recorded.found newer member
    rcases Observation.key_of_same_row consistent evolves earlier later same.symm normalized with
      agree | longer
    · exact agree
    · rw [conversation] at longer
      exact absurd longer (lt_irrefl _)
  have agree : ∀ a ∈ s.observations, ∀ b ∈ s.observations, a.Agree b :=
    inOrder.forall_of_forall fun _ _ _ _ _ _ _ _ => rfl
  refine ⟨own, ?_⟩
  intro a member b member' conversation text timestamp sender
  obtain ⟨row, attached⟩ := own a member
  obtain ⟨row', attached'⟩ := own b member'
  obtain ⟨kept, present, follows⟩ := recorded.kept a member row attached.member
  obtain ⟨kept', present', follows'⟩ := recorded.kept b member' row' attached'.member
  refine ⟨kept, present, kept', present', ?_, ?_, ?_⟩
  · rw [follows.id]
    exact attached.result
  · rw [follows'.id]
    exact attached'.result
  · rw [follows.id, follows'.id]
    intro same
    apply sender
    rw [agree a member b member' row row' attached attached' same conversation]

/-- In every run the messages of all senders are kept apart exactly when every
observation finds its sender's own row the oldest of its content, wherever that
is looked up. -/
theorem separated_iff {s t : State} (run : Reaches step Any s t) (start : s.observations = [])
    (consistent : s.db.Consistent) :
    Separated t ↔ ∀ o ∈ t.observations, o.OldestIsOwn := by
  have initial : Recorded s := by
    constructor
    · exact consistent
    all_goals simp [start]
  have recorded : Recorded t := run.invariant (fun before _ stepped => step_recorded before stepped) initial
  have same : ∀ o ∈ t.observations, (o.OwnRow ↔ o.OldestIsOwn) := by
    intro o member
    obtain ⟨found, incoming, normalized⟩ := recorded.found o member
    rw [Observation.ownRow_iff found incoming normalized, Observation.oldestIsOwn_iff found incoming]
  constructor
  · intro separated o member
    exact (same o member).mp (separated.own o member)
  · intro oldest
    exact separated_of_own recorded fun o member => (same o member).mpr (oldest o member)

def roomKey : Key := List.replicate 64 'a'

/-- A post in the room, heard as a packet. -/
def post (packetId : Nat) (signer : Key) : Event :=
  .decrypted ⟨packetId, 100, some "", none⟩ ⟨50, 8, "hi", "ff".toList, "aa".toList, some signer⟩
    roomKey false

/-- The same post, heard from the radio's own message queue. -/
def queuedPost (signer : Key) : Event :=
  .contactMessage ⟨roomKey, "hi", some 50, 2, some signer, none, none⟩ 100

def roomRun (posts : List Event) : Option State :=
  execute step ⟨Database.empty, []⟩ (.upsertContact ⟨roomKey, some "room", contactTypeRoom⟩ :: posts)

def firstAuthor : Key := "11111111".toList
def secondAuthor : Key := "22222222".toList

theorem first_author_repeats_separated :
    ∃ t, roomRun [post 1 firstAuthor, post 2 secondAuthor, post 3 firstAuthor] = some t ∧ t.observations.length = 3 ∧
      t.db.messages.length = 2 ∧ Separated t := by
  have checked : (roomRun [post 1 firstAuthor, post 2 secondAuthor, post 3 firstAuthor]).any (fun t =>
      decide (t.observations.length = 3 ∧ t.db.messages.length = 2 ∧
        ∀ o ∈ t.observations, o.OldestIsOwn)) = true := by
    decide +kernel
  obtain ⟨t, ran, checked⟩ := (Option.any_eq_true _ _).mp checked
  obtain ⟨observed, stored, oldest⟩ := of_decide_eq_true checked
  exact ⟨t, ran, observed, stored, (separated_iff (execute_reaches ran) rfl empty_consistent).mpr oldest⟩

/-- What a row of its own requires, as far as it can be computed. -/
theorem not_separated {t : State}
    (misplaced : ∃ o ∈ t.observations, ¬ ∃ row ∈ o.after.messages, o.result.row? = some row.id ∧
      row.incomingKey = o.request.incomingKey) : ¬ Separated t := by
  intro separated
  obtain ⟨o, member, misplaced⟩ := misplaced
  obtain ⟨row, attached⟩ := separated.own o member
  exact misplaced ⟨row, attached.member, attached.result, attached.key⟩

/-- The second author's repeated packet goes to the first author's row, and what the
second author posts is not stored when it comes over the fallback path. -/
theorem second_author_merged :
    (∃ t, roomRun [post 1 firstAuthor, post 2 secondAuthor, post 3 secondAuthor] = some t ∧
      t.db.messages.length = 2 ∧ t.db.links 3 = some 1 ∧ ¬ Separated t) ∧
    (∃ t, roomRun [post 1 firstAuthor, queuedPost secondAuthor] = some t ∧ t.observations.length = 2 ∧
      t.db.messages.length = 1 ∧ ¬ Separated t) := by
  have packets : (roomRun [post 1 firstAuthor, post 2 secondAuthor, post 3 secondAuthor]).any (fun t =>
      decide (t.db.messages.length = 2 ∧ t.db.links 3 = some 1 ∧ ∃ o ∈ t.observations,
        ¬ ∃ row ∈ o.after.messages, o.result.row? = some row.id ∧
          row.incomingKey = o.request.incomingKey)) = true := by
    decide +kernel
  have queued : (roomRun [post 1 firstAuthor, queuedPost secondAuthor]).any (fun t =>
      decide (t.observations.length = 2 ∧ t.db.messages.length = 1 ∧ ∃ o ∈ t.observations,
        ¬ ∃ row ∈ o.after.messages, o.result.row? = some row.id ∧
          row.incomingKey = o.request.incomingKey)) = true := by
    decide +kernel
  constructor
  · obtain ⟨t, ran, checked⟩ := (Option.any_eq_true _ _).mp packets
    obtain ⟨stored, linked, misplaced⟩ := of_decide_eq_true checked
    exact ⟨t, ran, stored, linked, not_separated misplaced⟩
  · obtain ⟨t, ran, checked⟩ := (Option.any_eq_true _ _).mp queued
    obtain ⟨observed, stored, misplaced⟩ := of_decide_eq_true checked
    exact ⟨t, ran, observed, stored, not_separated misplaced⟩

end Meshloom.Messages
