import Meshloom.Messages.DmRunProofs

/-! The claiming of messages that are stored under the beginning of a key. It moves
rows within the index of incoming messages, so it needs that no full key brings two
of them to one place. -/
namespace Meshloom.Messages
open Sql Transition
variable {db after : Database} {m other : Message} {key fullKey : Key}

namespace Message

/-- The place of the row in the index once it is under a key that its own
conversation key begins. -/
def under (fullKey : Key) (m : Message) : IncomingKey :=
  (if m.conversationKey = fullKey then m else Database.rekey fullKey m).incomingKey

/-- Some full key brings both rows to one place in the index. -/
def Collides (m other : Message) : Prop :=
  m.incoming = true ∧ other.incoming = true ∧
    ∃ fullKey, fullKey.length = 64 ∧ lower fullKey = fullKey ∧ m.conversationKey <+: fullKey ∧
      other.conversationKey <+: fullKey ∧ m.under fullKey = other.under fullKey

end Message

/-- No two rows collide. -/
def Apart (messages : List Message) : Prop := messages.Pairwise fun m other => ¬ m.Collides other

/-- When the event stores a row of its own, the row has a conversation key, and there is
none that it collides with. -/
def Collisionless (s : State) (e : Event) : Prop :=
  match s.db.prepare e with
  | (db, .request r) =>
    db.duplicateOf r = none →
      r.conversationKey ≠ [] ∧ ∀ m ∈ db.messages, ¬ m.Collides (db.newRow r.message)
  | _ => True

/-- What a claiming is to achieve: of the direct messages under a proper beginning of
the key that no other full key has, all are moved under the key, every other row
stays as it is, and the index holds. -/
structure Database.Claimed (db : Database) (fullKey : Key) (after : Database) : Prop where
  indexed : Indexed after.messages
  ids : after.messages.map (·.id) = db.messages.map (·.id)
  moved : ∀ m ∈ db.messages, m.type = .priv → m.conversationKey <+: fullKey →
    m.conversationKey ≠ fullKey → (db.fullMatches m.conversationKey).length = 1 →
    rekey fullKey m ∈ after.messages
  kept : ∀ m ∈ db.messages, ¬ (m.type = .priv ∧ m.conversationKey <+: fullKey ∧
    m.conversationKey ≠ fullKey ∧ (db.fullMatches m.conversationKey).length = 1) →
    m ∈ after.messages

namespace Message

theorem length_lt_of_prefix (begins : key <+: fullKey) (proper : key ≠ fullKey) :
    key.length < fullKey.length := by
  rcases Nat.lt_or_ge key.length fullKey.length with shorter | most
  · exact shorter
  · exact absurd (begins.eq_of_length_le most) proper

/-- Moving a row in two steps is moving it in one. -/
theorem rekey_rekey (full : fullKey.length = 64) (begins : key <+: fullKey) (proper : key ≠ fullKey)
    (m : Message) : (Database.rekey fullKey (Database.rekey key m)).incomingKey =
      (Database.rekey fullKey m).incomingKey := by
  have short : key.length < 64 := full ▸ length_lt_of_prefix begins proper
  obtain ⟨rest, rfl⟩ := begins
  cases sender : m.senderKey with
  | none => simp [Database.rekey, incomingKey, sender]
  | some sender' =>
      simp only [Database.rekey, incomingKey, sender, Option.map_some, Option.getD_some,
        IncomingKey.mk.injEq, true_and]
      split
      · rename_i starts
        rw [if_pos ⟨short, likeStart_append key rest⟩,
          if_pos ⟨starts.1, likeStart_of_append starts.2 rest⟩]
      · rfl

theorem under_rekey (full : fullKey.length = 64) (begins : key <+: fullKey)
    (shorter : m.conversationKey.length < key.length) :
    (Database.rekey key m).under fullKey = m.under fullKey := by
  have elsewhere : m.conversationKey ≠ fullKey := by
    rintro rfl
    exact absurd begins.length_le (by omega)
  simp only [under, if_neg elsewhere]
  split
  · rename_i arrived
    have same : key = fullKey := arrived
    rw [same]
  · rename_i proper
    exact rekey_rekey full begins proper m

/-- `Collides` reads nothing but the conversation, the sender and the content. -/
theorem collides_congr {m' other' : Message} (incoming : m'.incoming = m.incoming)
    (incoming' : other'.incoming = other.incoming)
    (place : ∀ fullKey, fullKey.length = 64 → m'.conversationKey <+: fullKey →
      m.conversationKey <+: fullKey ∧ m'.under fullKey = m.under fullKey)
    (place' : ∀ fullKey, fullKey.length = 64 → other'.conversationKey <+: fullKey →
      other.conversationKey <+: fullKey ∧ other'.under fullKey = other.under fullKey)
    (collides : m'.Collides other') : m.Collides other := by
  obtain ⟨listed, listed', fullKey, full, normalized, begins, begins', same⟩ := collides
  obtain ⟨first, firstPlace⟩ := place fullKey full begins
  obtain ⟨second, secondPlace⟩ := place' fullKey full begins'
  exact ⟨incoming ▸ listed, incoming' ▸ listed', fullKey, full, normalized, first, second,
    by rw [← firstPlace, same, secondPlace]⟩

end Message
namespace Database

/-- The claiming on one row. -/
def claimRow (db : Database) (key : Key) (m : Message) : Message :=
  if db.claimed key m then rekey key m else m

/-- The rows a claiming selects. Direct messages are under keys in lower case. -/
theorem claimed_iff (consistent : db.Consistent) (normalized : lower key = key)
    (member : m ∈ db.messages) : db.claimed key m = true ↔
      m.type = .priv ∧ m.conversationKey ≠ [] ∧ m.conversationKey <+: key ∧
        m.conversationKey ≠ key ∧ (db.fullMatches m.conversationKey).length = 1 := by
  simp only [claimed, Bool.and_eq_true, decide_eq_true_eq, beq_iff_eq, and_assoc]
  refine and_congr_right fun direct => ?_
  rw [mem_claimPrefixes normalized (consistent.conversations m member direct)]
  simp only [and_assoc]

/-- A claiming brings no row under a full key that its own key did not begin, and
leaves its place there as it was. -/
theorem claimRow_place (consistent : db.Consistent) (normalized : lower key = key)
    (member : m ∈ db.messages) (full : fullKey.length = 64)
    (begins : (db.claimRow key m).conversationKey <+: fullKey) :
    m.conversationKey <+: fullKey ∧ (db.claimRow key m).under fullKey = m.under fullKey := by
  simp only [claimRow] at begins ⊢
  split at begins
  · rename_i moved
    obtain ⟨-, -, start, proper, -⟩ := (claimed_iff consistent normalized member).mp moved
    refine ⟨start.trans begins, ?_⟩
    rw [if_pos moved]
    exact Message.under_rekey full begins (Message.length_lt_of_prefix start proper)
  · rename_i unmoved
    rw [if_neg unmoved]
    exact ⟨begins, rfl⟩

theorem claimRow_follows (db : Database) (key : Key) (m : Message) :
    m.Follows (db.claimRow key m) := follows_claim db m

theorem apart_claim (consistent : db.Consistent) (apart : Apart db.messages)
    (claimed : db.claimPrefixMessages key = some after) : Apart after.messages := by
  obtain ⟨rfl, -⟩ := claimPrefixMessages_eq_some claimed
  refine List.pairwise_map.mpr (apart.imp_of_mem ?_)
  intro m other member member' free collides
  refine free (Message.collides_congr (claimRow_follows db _ m).incoming
    (claimRow_follows db _ other).incoming ?_ ?_ collides)
  · intro fullKey full begins
    exact claimRow_place consistent (lower_lower key) member full begins
  · intro fullKey full begins
    exact claimRow_place consistent (lower_lower key) member' full begins

/-- Direct messages have a conversation key, and no full key brings two incoming ones
to one place. -/
structure Claimable (db : Database) : Prop where
  consistent : db.Consistent
  named : ∀ m ∈ db.messages, m.type = .priv → m.conversationKey ≠ []
  apart : Apart db.messages

theorem named_evolves (named : ∀ m ∈ db.messages, m.type = .priv → m.conversationKey ≠ [])
    {f : Message → Message} (follows : ∀ m ∈ db.messages, m.Follows (f m)) :
    ∀ m ∈ db.messages.map f, m.type = .priv → m.conversationKey ≠ [] := by
  intro m' member' direct
  obtain ⟨m, member, rfl⟩ := List.mem_map.mp member'
  have start := named m member ((follows m member).type ▸ direct)
  exact List.length_pos_iff.mp
    (lt_of_lt_of_le (List.length_pos_iff.mpr start) (follows m member).conversation_length)

theorem Prepares.claimable (prepares : Prepares db after) (claimable : db.Claimable) :
    after.Claimable := by
  induction prepares with
  | refl => exact claimable
  | contacts _ _ normalized ih =>
      exact ⟨consistent_contacts ih.consistent normalized, ih.named, ih.apart⟩
  | claim _ claimed ih =>
      refine ⟨consistent_claim ih.consistent claimed, ?_, apart_claim ih.consistent ih.apart claimed⟩
      obtain ⟨rfl, -⟩ := claimPrefixMessages_eq_some claimed
      exact named_evolves ih.named fun m _ => follows_claim _ m

/-- A row is at the full key afterwards only in the place that it has under it. -/
theorem claimRow_arrived (consistent : db.Consistent) (normalized : lower fullKey = fullKey)
    (full : fullKey.length = 64) (member : m ∈ db.messages)
    (here : (db.claimRow fullKey m).conversationKey = fullKey) :
    m.conversationKey <+: fullKey ∧ (db.claimRow fullKey m).incomingKey = m.under fullKey := by
  have begins : (db.claimRow fullKey m).conversationKey <+: fullKey := by
    rw [here]
  have place := claimRow_place consistent normalized member full begins
  refine ⟨place.1, ?_⟩
  rw [← place.2, Message.under, if_pos here]

theorem claimRow_elsewhere (away : (db.claimRow fullKey m).conversationKey ≠ fullKey) :
    db.claimRow fullKey m = m := by
  simp only [claimRow] at away ⊢
  split at away
  · exact absurd rfl away
  · rename_i unmoved
    exact if_neg unmoved

theorem claimRow_channel (channel : m.type = .chan) : db.claimRow key m = m := by
  simp [claimRow, claimed, channel]

theorem conflict_claimRow (consistent : db.Consistent) (normalized : lower fullKey = fullKey)
    (full : fullKey.length = 64) (member : m ∈ db.messages) (member' : other ∈ db.messages)
    (conflict : (db.claimRow fullKey m).conflicts (db.claimRow fullKey other) = true) :
    m.conflicts other = true ∨ m.Collides other := by
  have meaning := conflict
  simp only [Message.conflicts, Bool.or_eq_true, Bool.and_eq_true, decide_eq_true_eq] at meaning
  rcases meaning with ⟨⟨listed, listed'⟩, same⟩ | ⟨⟨channel, channel'⟩, -⟩
  · have conversation : (db.claimRow fullKey m).conversationKey =
        (db.claimRow fullKey other).conversationKey := congrArg IncomingKey.conversationKey same
    rcases eq_or_ne (db.claimRow fullKey m).conversationKey fullKey with here | away
    · right
      obtain ⟨begins, place⟩ := claimRow_arrived consistent normalized full member here
      obtain ⟨begins', place'⟩ :=
        claimRow_arrived consistent normalized full member' (conversation.symm.trans here)
      rw [(claimRow_follows db fullKey m).incoming] at listed
      rw [(claimRow_follows db fullKey other).incoming] at listed'
      exact ⟨listed, listed', fullKey, full, normalized, begins, begins',
        by rw [← place, same, place']⟩
    · left
      rwa [claimRow_elsewhere away, claimRow_elsewhere (conversation ▸ away)] at conflict
  · left
    rw [(claimRow_follows db fullKey m).type] at channel
    rw [(claimRow_follows db fullKey other).type] at channel'
    rwa [claimRow_channel channel, claimRow_channel channel'] at conflict

/-- The full key's claiming goes through on rows that are apart. -/
theorem claimPrefixMessages_claimed (claimable : db.Claimable) (normalized : lower fullKey = fullKey)
    (full : fullKey.length = 64) :
    ∃ after, db.claimPrefixMessages fullKey = some after ∧ db.Claimed fullKey after := by
  have consistent := claimable.consistent
  have selected {m : Message} (member : m ∈ db.messages) : db.claimed fullKey m = true ↔
      m.type = .priv ∧ m.conversationKey <+: fullKey ∧ m.conversationKey ≠ fullKey ∧
        (db.fullMatches m.conversationKey).length = 1 := by
    rw [claimed_iff consistent normalized member]
    refine and_congr_right fun direct => ?_
    simp only [ne_eq, claimable.named m member direct, not_false_eq_true, true_and]
  have indexed : Indexed (db.messages.map (db.claimRow fullKey)) := by
    refine List.pairwise_map.mpr ((consistent.indexed.and claimable.apart).imp_of_mem ?_)
    intro m other member member' free conflict
    rcases conflict_claimRow consistent normalized full member member' conflict with before | collides
    · exact free.1 before
    · exact free.2 collides
  have completes : db.claimPrefixMessages fullKey =
      some { db with messages := db.messages.map (db.claimRow fullKey) } := by
    simp only [claimPrefixMessages, normalized]
    exact if_pos indexed
  refine ⟨_, completes, indexed, ?_, ?_, ?_⟩
  · rw [List.map_map]
    exact List.map_congr_left fun m _ => (claimRow_follows db fullKey m).id
  · intro m member direct begins proper alone
    refine List.mem_map.mpr ⟨m, member, ?_⟩
    exact if_pos ((selected member).mpr ⟨direct, begins, proper, alone⟩)
  · intro m member unselected
    refine List.mem_map.mpr ⟨m, member, ?_⟩
    exact if_neg fun chosen => unselected ((selected member).mp chosen)

/-- With the full key as the only contact, every row that begins it goes to its place
under it. -/
theorem claimRow_only (consistent : db.Consistent) (normalized : lower fullKey = fullKey)
    (full : fullKey.length = 64) (only : db.contacts = [contact])
    (isFull : contact.publicKey = fullKey) (member : m ∈ db.messages) (direct : m.type = .priv)
    (named : m.conversationKey ≠ []) (begins : m.conversationKey <+: fullKey) :
    (db.claimRow fullKey m).incomingKey = m.under fullKey := by
  have alone : (db.fullMatches m.conversationKey).length = 1 := by
    obtain ⟨rest, same⟩ := begins
    have starts : likeStart m.conversationKey fullKey = true := by
      rw [← same]
      exact likeStart_append _ _
    rw [fullMatches, only, List.filter_cons_of_pos]
    · rfl
    · simp [starts, isFull, full]
  rcases eq_or_ne m.conversationKey fullKey with here | proper
  · have unmoved : db.claimRow fullKey m = m := by
      refine if_neg fun chosen => ?_
      obtain ⟨-, -, -, proper, -⟩ := (claimed_iff consistent normalized member).mp chosen
      exact proper here
    rw [unmoved, Message.under, if_pos here]
  · have moved : db.claimRow fullKey m = rekey fullKey m :=
      if_pos ((claimed_iff consistent normalized member).mpr ⟨direct, named, begins, proper, alone⟩)
    rw [moved, Message.under, if_neg proper]

theorem priv_of_incoming (incoming : m.incoming = true) : m.type = .priv := by
  simp only [Message.incoming, Bool.and_eq_true, decide_eq_true_eq] at incoming
  exact incoming.1

/-- Rows that collide do block a claiming: of the full key that brings them together,
once it is the only contact. -/
theorem collision_blocks (consistent : db.Consistent)
    (named : ∀ m ∈ db.messages, m.type = .priv → m.conversationKey ≠ [])
    (member : m ∈ db.messages) (member' : other ∈ db.messages) (different : m ≠ other)
    (collides : m.Collides other) :
    ∃ fullKey, fullKey.length = 64 ∧
      ({ db with contacts := [⟨fullKey, none, 0⟩] } : Database).claimPrefixMessages fullKey = none := by
  obtain ⟨listed, listed', fullKey, full, normalized, begins, begins', same⟩ := collides
  refine ⟨fullKey, full, ?_⟩
  set only : Database := { db with contacts := [⟨fullKey, none, 0⟩] } with isOnly
  have consistent' : only.Consistent := consistent_contacts consistent (by simpa using normalized)
  have place {m : Message} (member : m ∈ db.messages) (listed : m.incoming = true)
      (begins : m.conversationKey <+: fullKey) :
      (only.claimRow fullKey m).incomingKey = m.under fullKey :=
    claimRow_only consistent' normalized full rfl rfl member (priv_of_incoming listed)
      (named m member (priv_of_incoming listed)) begins
  have conflict : (only.claimRow fullKey m).conflicts (only.claimRow fullKey other) = true := by
    have keys : (only.claimRow fullKey m).incomingKey = (only.claimRow fullKey other).incomingKey := by
      rw [place member listed begins, same, place member' listed' begins']
    simp [Message.conflicts, (claimRow_follows only fullKey m).incoming, listed,
      (claimRow_follows only fullKey other).incoming, listed', keys]
  simp only [claimPrefixMessages, normalized]
  refine if_neg fun indexed => ?_
  have apart : db.messages.Pairwise fun m other =>
      ¬ (only.claimRow fullKey m).conflicts (only.claimRow fullKey other) = true :=
    List.pairwise_map.mp indexed
  have symmetric : Std.Symm fun m other : Message =>
      ¬ (only.claimRow fullKey m).conflicts (only.claimRow fullKey other) = true :=
    ⟨fun m other free => by rwa [Message.conflicts_comm]⟩
  exact apart.forall member member' different conflict

theorem under_paths (m : Message) (paths : List MessagePath) (fullKey : Key) :
    Message.under fullKey { m with paths } = m.under fullKey := by
  simp only [Message.under]
  split <;> rfl

theorem claimable_addPath (claimable : db.Claimable) (id : Nat) (path : MessagePath) :
    (db.addPath id path).Claimable := by
  refine ⟨consistent_addPath claimable.consistent id path,
    named_evolves claimable.named fun m _ => follows_addPath m id path, ?_⟩
  refine List.pairwise_map.mpr (claimable.apart.imp ?_)
  intro m other free collides
  refine free (Message.collides_congr (follows_addPath m id path).incoming
    (follows_addPath other id path).incoming ?_ ?_ collides)
  all_goals
    intro fullKey _
    split
    · exact fun begins => ⟨begins, under_paths _ _ fullKey⟩
    · exact fun begins => ⟨begins, rfl⟩

theorem claimable_linkPacket (claimable : db.Claimable) (packetId : Option Nat) (id : Nat) :
    (db.linkPacket packetId id).Claimable := by
  refine ⟨linkPacket_consistent claimable.consistent packetId id, ?_, ?_⟩
  · rw [linkPacket_messages]
    exact claimable.named
  · rw [linkPacket_messages]
    exact claimable.apart

theorem claimable_create {r : StoreRequest} {id : Nat} (claimable : db.Claimable)
    (created : db.create r.message = some (id, after))
    (normalized : lower r.conversationKey = r.conversationKey) (named : r.conversationKey ≠ [])
    (free : ∀ m ∈ db.messages, ¬ m.Collides (db.newRow r.message)) : after.Claimable := by
  obtain ⟨-, rows, -⟩ := create_eq_some created
  refine ⟨consistent_create claimable.consistent created (Option.some_ne_none _) normalized, ?_, ?_⟩
  · rw [rows]
    intro m member direct
    rcases List.mem_append.mp member with member | isNew
    · exact claimable.named m member direct
    · rw [List.mem_singleton.mp isNew]
      exact named
  · rw [rows, Apart, List.pairwise_append]
    refine ⟨claimable.apart, List.pairwise_singleton _ _, ?_⟩
    intro m member new isNew
    rw [List.mem_singleton.mp isNew]
    exact free m member

theorem claimable_store {r : StoreRequest} (claimable : db.Claimable)
    (normalized : lower r.conversationKey = r.conversationKey)
    (free : db.duplicateOf r = none →
      r.conversationKey ≠ [] ∧ ∀ m ∈ db.messages, ¬ m.Collides (db.newRow r.message)) :
    (db.storeDirectMessage r).1.Claimable := by
  rcases storeDirectMessage_cases (r := r) claimable.consistent with
    ⟨existing, -, same⟩ | ⟨after, absent, created, same⟩
  · rw [same]
    apply claimable_linkPacket
    cases r.messagePath with
    | none => exact claimable
    | some path => exact claimable_addPath claimable existing.id path
  · rw [same]
    apply claimable_linkPacket
    exact claimable_create claimable created normalized (free absent).1 (free absent).2

end Database

theorem step_claimable {s t : State} {e : Event} (claimable : s.db.Claimable)
    (permitted : Collisionless s e) (stepped : step s e = some t) : t.db.Claimable := by
  obtain ⟨middle, prepares, stepped⟩ := step_cases claimable.consistent stepped
  have prepared := prepares.claimable claimable
  rcases stepped with rfl | ⟨r, request, normalized, rfl⟩
  · exact prepared
  · simp only [Collisionless, request] at permitted
    exact Database.claimable_store prepared normalized permitted

theorem empty_claimable : Database.empty.Claimable :=
  ⟨empty_consistent, by simp [Database.empty], List.Pairwise.nil⟩

/-- In every run whose messages do not collide, the claiming for a full contact
goes through and does what it is for. -/
theorem claiming_completes {t : State} (run : Reaches step Collisionless ⟨Database.empty, []⟩ t)
    {contact : Contact} (known : contact ∈ t.db.contacts) (full : contact.publicKey.length = 64) :
    ∃ after, t.db.claimPrefixMessages contact.publicKey = some after ∧
      t.db.Claimed contact.publicKey after := by
  have claimable : t.db.Claimable :=
    run.invariant (P := fun s => s.db.Claimable) step_claimable empty_claimable
  exact Database.claimPrefixMessages_claimed claimable
    (claimable.consistent.contacts contact known) full

def senderKey : Key := List.replicate 64 'b'

/-- A message that the radio delivers with the beginning of the sender's key only. -/
def prefixMessage : Event :=
  .contactMessage ⟨senderKey.take 12, "hi", some 50, 0, none, none, none⟩ 100

def addSender : Event := .upsertContact ⟨senderKey, some "sender", 1⟩

theorem prefix_message_claimed :
    ∃ t, execute step ⟨Database.empty, []⟩ [prefixMessage, addSender] = some t ∧
      t.db.messages.map (·.conversationKey) = [senderKey.take 12] ∧
      ∃ after, t.db.claimPrefixMessages senderKey = some after ∧ t.db.Claimed senderKey after := by
  have first : Collisionless ⟨Database.empty, []⟩ prefixMessage := by
    intro _
    refine ⟨by decide, ?_⟩
    intro m member
    contradiction
  have checked : (execute step ⟨Database.empty, []⟩ [prefixMessage, addSender]).any (fun t =>
      decide (t.db.messages.map (·.conversationKey) = [senderKey.take 12] ∧
        ⟨senderKey, some "sender", 1⟩ ∈ t.db.contacts)) = true := by
    decide +kernel
  obtain ⟨t, ran, checked⟩ := (Option.any_eq_true _ _).mp checked
  obtain ⟨stored, known⟩ := of_decide_eq_true checked
  refine ⟨t, ran, stored, ?_⟩
  obtain ⟨middle, received, ran⟩ := Option.bind_eq_some_iff.mp ran
  obtain ⟨last, added, ran⟩ := Option.bind_eq_some_iff.mp ran
  cases ran
  have second : Collisionless middle addSender := trivial
  have completes := claiming_completes (.next (.next (.refl _) first received) second added) known rfl
  exact completes

/-- The sender is deleted and its message comes again by prefix; added anew, the sender's
claiming fails, and with it every further message of the sender. -/
theorem readded_contact_blocked :
    ∃ t, execute step ⟨Database.empty, []⟩
      [addSender, .decrypted ⟨1, 100, none, none⟩ ⟨50, 0, "hi", "ff".toList, "bb".toList, none⟩
        senderKey false, .deleteContact senderKey, prefixMessage, addSender] = some t ∧
      (∃ contact ∈ t.db.contacts, contact.publicKey = senderKey) ∧ senderKey.length = 64 ∧
      (t.db.claimPrefixMessages senderKey).isNone = true ∧
      (t.db.prepare (.decrypted ⟨2, 200, none, none⟩
        ⟨60, 0, "new", "ff".toList, "bb".toList, none⟩ senderKey false)).2 = .failed := by
  have checked : (execute step ⟨Database.empty, []⟩
      [addSender, .decrypted ⟨1, 100, none, none⟩ ⟨50, 0, "hi", "ff".toList, "bb".toList, none⟩
        senderKey false, .deleteContact senderKey, prefixMessage, addSender]).any (fun t =>
      decide ((∃ contact ∈ t.db.contacts, contact.publicKey = senderKey) ∧ senderKey.length = 64 ∧
        (t.db.claimPrefixMessages senderKey).isNone = true ∧
        (t.db.prepare (.decrypted ⟨2, 200, none, none⟩
          ⟨60, 0, "new", "ff".toList, "bb".toList, none⟩ senderKey false)).2 = .failed)) = true := by
    decide +kernel
  obtain ⟨t, ran, checked⟩ := (Option.any_eq_true _ _).mp checked
  exact ⟨t, ran, of_decide_eq_true checked⟩

end Meshloom.Messages
