import Meshloom.Messages.DmRunProofs

/-! Ingest of decrypted messages when one full contact is known: which messages are
stored, and as what. -/
namespace Meshloom.Messages
variable {db : Database} {contact : Contact} {r : StoreRequest} {m : Message} {packetId : Nat}

/-- A message by its direction, text, timestamp and conversation key. -/
structure Content where
  outgoing : Bool
  text : String
  senderTimestamp : Option Int
  conversationKey : Key
  deriving DecidableEq, Repr

def Message.content (m : Message) : Content :=
  ⟨m.outgoing, m.text, m.senderTimestamp, m.conversationKey⟩

/-- The stored message that a packet is linked to. -/
def Database.linkedContent (db : Database) (packetId : Nat) : Option Content :=
  ((db.getLinkedMessageId packetId).bind db.getById).map Message.content

/-- Consistent tables in which the contact is the only one. -/
structure SoleContact (db : Database) (contact : Contact) : Prop where
  consistent : db.Consistent
  only : db.contacts = [contact]

/-- What makes a decrypted message worth storing: the contact is no repeater, it is no
command reply, and the contact's claiming does not collide. -/
def Storable (db : Database) (contact : Contact) (message : DecryptedDirectMessage)
    (outgoing : Bool) : Prop :=
  contact.type ≠ contactTypeRepeater ∧ (outgoing = true ∨ message.txtType ≠ 1) ∧
    (db.claimPrefixMessages contact.publicKey).isSome = true

namespace Database

/-- After a claiming, the same claiming finds nothing to move. -/
theorem claimPrefixMessages_idem {after : Database} {key : Key}
    (claimed : db.claimPrefixMessages key = some after) :
    after.claimPrefixMessages key = some after := by
  obtain ⟨rfl, indexed⟩ := claimPrefixMessages_eq_some claimed
  set rows := db.messages.map fun m => if db.claimed (lower key) m then rekey (lower key) m else m
    with moved
  have settled : ∀ m ∈ rows, ¬ ({ db with messages := rows } : Database).claimed (lower key) m := by
    intro m member again
    obtain ⟨old, -, rfl⟩ := List.mem_map.mp member
    split at again
    · -- The key is no proper beginning of itself.
      simp only [Database.claimed, Bool.and_eq_true, decide_eq_true_eq] at again
      have inside := (mem_claimPrefixes (lower_lower key) (lower_lower key)).mp again.1.2
      exact inside.2.2 rfl
    · rename_i unmoved
      exact unmoved again
  have unchanged : rows.map (fun m =>
      if ({ db with messages := rows } : Database).claimed (lower key) m then rekey (lower key) m
      else m) = rows := by
    calc _ = rows.map id := List.map_congr_left fun m member => if_neg (settled m member)
      _ = rows := List.map_id rows
  simp only [claimPrefixMessages, unchanged]
  exact if_pos indexed

theorem claimPrefixMessages_frame {after : Database} {key : Key}
    (claimed : db.claimPrefixMessages key = some after) :
    after.contacts = db.contacts ∧ after.links = db.links := by
  obtain ⟨rfl, -⟩ := claimPrefixMessages_eq_some claimed
  exact ⟨rfl, rfl⟩

/-- A row that is at the key already stays as it is. -/
theorem claimPrefixMessages_keeps {after : Database} {key : Key}
    (claimed : db.claimPrefixMessages key = some after) (member : m ∈ db.messages)
    (here : m.conversationKey = lower key) : m ∈ after.messages := by
  obtain ⟨rfl, -⟩ := claimPrefixMessages_eq_some claimed
  refine List.mem_map.mpr ⟨m, member, if_neg fun moved => ?_⟩
  simp only [Database.claimed, Bool.and_eq_true, decide_eq_true_eq, here] at moved
  have inside := (mem_claimPrefixes (lower_lower key) (lower_lower key)).mp moved.1.2
  exact inside.2.2 rfl

end Database

namespace SoleContact

theorem normalized (sole : SoleContact db contact) : lower contact.publicKey = contact.publicKey := by
  apply sole.consistent.contacts
  rw [sole.only]
  exact List.mem_singleton.mpr rfl

theorem getByKey (sole : SoleContact db contact) : db.getByKey contact.publicKey = some contact := by
  simp [Database.getByKey, sole.only, sole.normalized]

theorem claim {after : Database} {key : Key} (sole : SoleContact db contact)
    (claimed : db.claimPrefixMessages key = some after) : SoleContact after contact :=
  ⟨Database.consistent_claim sole.consistent claimed,
    (Database.claimPrefixMessages_frame claimed).1.trans sole.only⟩

/-- A prefix resolves to the contact or to nobody. -/
theorem getByKeyOrPrefix (sole : SoleContact db contact) (sender : Key) :
    db.getByKeyOrPrefix sender = some contact ∨ db.getByKeyOrPrefix sender = none := by
  have known {other : Contact} (member : other ∈ db.contacts) : other = contact := by
    rw [sole.only] at member
    exact List.mem_singleton.mp member
  simp only [Database.getByKeyOrPrefix]
  split
  · rename_i other found
    rw [known (List.mem_of_find?_eq_some found)]
    exact .inl rfl
  split
  · rename_i other only
    have member : other ∈ db.prefixMatches sender := by
      rw [only]
      exact List.mem_singleton.mpr rfl
    rw [known (List.mem_filter.mp member).1]
    exact .inl rfl
  · exact .inr rfl

/-- Resolving the author of a post claims nothing that its room has not claimed. -/
theorem resolveSender (sole : SoleContact db contact)
    (claimed : db.claimPrefixMessages contact.publicKey = some db) (sender : Key) :
    ∃ name key, db.resolveDirectMessageSenderMetadata sender = some (db, name, key) := by
  simp only [Database.resolveDirectMessageSenderMetadata]
  rcases sole.getByKeyOrPrefix (lower sender) with found | nobody
  · rw [found]
    simp only [sole.normalized, claimed, Option.map_some]
    exact ⟨_, _, rfl⟩
  · rw [nobody]
    exact ⟨_, _, rfl⟩

end SoleContact

/-- The arguments of the store for a message of the contact. -/
structure Requests (contact : Contact) (heard : Database.Reception) (message : DecryptedDirectMessage)
    (outgoing : Bool) (r : StoreRequest) : Prop where
  packetId : r.packetId = some heard.packetId
  conversationKey : r.conversationKey = contact.publicKey
  text : r.text = message.message
  senderTimestamp : r.senderTimestamp = message.timestamp
  outgoing : r.outgoing = outgoing

theorem resolveDecrypted_blocked (sole : SoleContact db contact) (heard : Database.Reception)
    (message : DecryptedDirectMessage) (outgoing : Bool)
    (blocked : db.claimPrefixMessages contact.publicKey = none) :
    (db.resolveDecrypted heard message contact.publicKey outgoing).1 = db ∧
      ∀ r, (db.resolveDecrypted heard message contact.publicKey outgoing).2 ≠ .request r := by
  simp only [Database.resolveDecrypted, sole.normalized, sole.getByKey, blocked]
  split
  · exact ⟨rfl, by simp⟩
  · exact ⟨rfl, by simp⟩

theorem resolveDecrypted_claimed {middle : Database} (sole : SoleContact db contact)
    (heard : Database.Reception) (message : DecryptedDirectMessage) (outgoing : Bool)
    (claimed : db.claimPrefixMessages contact.publicKey = some middle) :
    (Storable db contact message outgoing ∧ ∃ r, Requests contact heard message outgoing r ∧
      db.resolveDecrypted heard message contact.publicKey outgoing = (middle, .request r)) ∨
    (¬ Storable db contact message outgoing ∧
      ((db.resolveDecrypted heard message contact.publicKey outgoing) = (db, .skipped) ∨
        (db.resolveDecrypted heard message contact.publicKey outgoing) = (middle, .skipped))) := by
  simp only [Database.resolveDecrypted, sole.normalized, sole.getByKey, claimed, Storable,
    Option.isSome_some, and_true]
  split
  · rename_i reply
    simp only [Bool.and_eq_true, Bool.not_eq_true', beq_iff_eq] at reply
    right
    refine ⟨?_, .inl rfl⟩
    rintro ⟨-, sent | plain⟩
    · rw [reply.1] at sent
      contradiction
    · exact plain reply.2
  rename_i reply
  have worth : outgoing = true ∨ message.txtType ≠ 1 := by
    simp only [Bool.and_eq_true, Bool.not_eq_true', beq_iff_eq, not_and] at reply
    cases outgoing with
    | true => exact .inl rfl
    | false => exact .inr (reply rfl)
  split
  · rename_i repeater
    exact .inr ⟨fun storable => storable.1 repeater, .inr rfl⟩
  rename_i person
  refine .inl ⟨⟨person, worth⟩, ?_⟩
  split
  · rename_i sent
    refine ⟨_, ?_, rfl⟩
    exact ⟨rfl, rfl, rfl, rfl, rfl⟩
  split
  · rename_i signer
    obtain ⟨name, key, resolved⟩ := (sole.claim claimed).resolveSender
      (Database.claimPrefixMessages_idem claimed) _
    rw [resolved]
    exact ⟨_, ⟨rfl, rfl, rfl, rfl, rfl⟩, rfl⟩
  · exact ⟨_, ⟨rfl, rfl, rfl, rfl, rfl⟩, rfl⟩

namespace Database

theorem linkedContent_eq (consistent : db.Consistent) (member : m ∈ db.messages)
    (linked : db.links packetId = some m.id) : db.linkedContent packetId = some m.content := by
  simp only [linkedContent, getLinkedMessageId, linked, Option.bind_some,
    getById_eq consistent member, Option.map_some]

theorem linkedContent_none (unlinked : db.links packetId = none) :
    db.linkedContent packetId = none := by
  simp only [linkedContent, getLinkedMessageId, unlinked, Option.bind_none, Option.map_none]

/-- A packet that is not linked yet is afterwards linked to its message. -/
theorem storeDirectMessage_linked (consistent : db.Consistent)
    (request : r.packetId = some packetId) (unlinked : db.links packetId = none) :
    ∃ m ∈ (db.storeDirectMessage r).1.messages, (db.storeDirectMessage r).1.links packetId = some m.id ∧
      m.content = ⟨r.outgoing, r.text, some r.senderTimestamp, r.conversationKey⟩ := by
  have new : db.linkedMessage r = none := by
    simp [linkedMessage, request, getLinkedMessageId, unlinked]
  rcases storeDirectMessage_cases (r := r) consistent with
    ⟨existing, found, stored⟩ | ⟨created, -, inserted, stored⟩
  · obtain ⟨row, present, follows, key, -, link, -⟩ :=
      reconcileDuplicateMessage_row (mem_of_duplicateOf found) r
    have alike : db.contentMessage r = some existing := by
      simp only [duplicateOf, new] at found
      split at found
      · exact found
      · contradiction
    have fits := List.find?_some alike
    simp only [decide_eq_true_eq] at fits
    obtain ⟨-, conversation, text, timestamp, direction⟩ := fits
    have same : row.conversationKey = existing.conversationKey :=
      congrArg IncomingKey.conversationKey key
    rw [stored]
    refine ⟨row, present, ?_, ?_⟩
    · rw [follows.id]
      exact link packetId request
    · simp only [Message.content, follows.outgoing, follows.text, follows.senderTimestamp, same,
        conversation, text, timestamp, direction]
  · obtain ⟨-, rows, -⟩ := create_eq_some inserted
    rw [stored]
    refine ⟨db.newRow r.message, ?_, ?_, rfl⟩
    · rw [linkPacket_messages, rows]
      exact List.mem_append_right _ (List.mem_singleton.mpr rfl)
    · simp [linkPacket, request, markDecrypted, newRow]

/-- Every row keeps its content. -/
theorem storeDirectMessage_keeps (consistent : db.Consistent) (member : m ∈ db.messages)
    (r : StoreRequest) :
    ∃ m' ∈ (db.storeDirectMessage r).1.messages, m'.id = m.id ∧ m'.content = m.content := by
  rcases storeDirectMessage_cases (r := r) consistent with
    ⟨existing, -, stored⟩ | ⟨created, -, inserted, stored⟩
  · rw [stored]
    simp only [reconcileDuplicateMessage, linkPacket_messages]
    cases r.messagePath with
    | none => exact ⟨m, member, rfl, rfl⟩
    | some path =>
        refine ⟨_, List.mem_map_of_mem member, ?_⟩
        split
        · exact ⟨rfl, rfl⟩
        · exact ⟨rfl, rfl⟩
  · obtain ⟨-, rows, -⟩ := create_eq_some inserted
    rw [stored, linkPacket_messages, rows]
    exact ⟨m, List.mem_append_left _ member, rfl, rfl⟩

theorem linkPacket_contacts (db : Database) (packetId : Option Nat) (id : Nat) :
    (db.linkPacket packetId id).contacts = db.contacts := by
  cases packetId <;> rfl

theorem linkPacket_links {other : Nat} (different : other ≠ packetId) (id : Nat) :
    (db.linkPacket (some packetId) id).links other = db.links other :=
  Function.update_of_ne different _ _

/-- The store changes no contact and no link of another packet. -/
theorem storeDirectMessage_frame (consistent : db.Consistent) (request : r.packetId = some packetId) :
    (db.storeDirectMessage r).1.contacts = db.contacts ∧
      ∀ other ≠ packetId, (db.storeDirectMessage r).1.links other = db.links other := by
  rcases storeDirectMessage_cases (r := r) consistent with
    ⟨existing, -, stored⟩ | ⟨created, -, inserted, stored⟩
  · rw [stored]
    simp only [reconcileDuplicateMessage, linkPacket_contacts, request]
    cases r.messagePath with
    | none => exact ⟨rfl, fun other different => linkPacket_links different _⟩
    | some path => exact ⟨rfl, fun other different => linkPacket_links different _⟩
  · obtain ⟨-, -, -, contacts, links, -⟩ := create_eq_some inserted
    rw [stored]
    simp only [linkPacket_contacts, request]
    refine ⟨contacts, fun other different => ?_⟩
    rw [linkPacket_links different, links]

end Database

/-- What the ingest of a message of the contact comes to. -/
inductive Outcome (db : Database) (contact : Contact) (heard : Database.Reception)
    (message : DecryptedDirectMessage) (outgoing : Bool) : Database × Ingested → Prop where
  | blocked {ending : Ingested} : db.claimPrefixMessages contact.publicKey = none →
      Outcome db contact heard message outgoing (db, ending)
  | passed {after : Database} : ¬ Storable db contact message outgoing →
      (after = db ∨ db.claimPrefixMessages contact.publicKey = some after) →
      Outcome db contact heard message outgoing (after, .skipped)
  | stored {middle : Database} {r : StoreRequest} : Storable db contact message outgoing →
      db.claimPrefixMessages contact.publicKey = some middle →
      Requests contact heard message outgoing r →
      Outcome db contact heard message outgoing
        ((middle.storeDirectMessage r).1, .stored (middle.storeDirectMessage r).2)

namespace SoleContact

theorem outcome (sole : SoleContact db contact) (heard : Database.Reception)
    (message : DecryptedDirectMessage) (outgoing : Bool) :
    Outcome db contact heard message outgoing
      (db.ingestDecryptedDirectMessage heard message contact.publicKey outgoing) := by
  simp only [Database.ingestDecryptedDirectMessage]
  cases claimed : db.claimPrefixMessages contact.publicKey with
  | none =>
      obtain ⟨same, unstored⟩ := resolveDecrypted_blocked sole heard message outgoing claimed
      generalize db.resolveDecrypted heard message contact.publicKey outgoing = resolved at same unstored
      obtain ⟨after, resolution⟩ := resolved
      cases same
      cases resolution with
      | failed => exact .blocked claimed
      | skipped => exact .blocked claimed
      | request r => exact absurd rfl (unstored r)
  | some middle =>
      rcases resolveDecrypted_claimed sole heard message outgoing claimed with
        ⟨storable, r, requests, resolved⟩ | ⟨unstorable, resolved | resolved⟩
      · rw [resolved]
        exact .stored storable claimed requests
      · rw [resolved]
        exact .passed unstorable (.inl rfl)
      · rw [resolved]
        exact .passed unstorable (.inr claimed)

end SoleContact

theorem not_storable_of_blocked {message : DecryptedDirectMessage} {outgoing : Bool}
    (blocked : db.claimPrefixMessages contact.publicKey = none) :
    ¬ Storable db contact message outgoing := by
  rintro ⟨-, -, claimed⟩
  rw [blocked] at claimed
  contradiction

/-- The packet is not linked, or linked to a stored message of the contact. -/
def Settled (db : Database) (contact : Contact) (packetId : Nat) : Prop :=
  db.links packetId = none ∨
    ∃ m ∈ db.messages, db.links packetId = some m.id ∧ m.conversationKey = contact.publicKey

namespace Outcome
variable {heard : Database.Reception} {message : DecryptedDirectMessage} {outgoing : Bool}
  {ending : Database × Ingested}

theorem sole (outcome : Outcome db contact heard message outgoing ending)
    (sole : SoleContact db contact) : SoleContact ending.1 contact := by
  cases outcome with
  | blocked => exact sole
  | passed _ moved =>
      rcases moved with rfl | claimed
      · exact sole
      · exact sole.claim claimed
  | stored _ claimed requests =>
      have middle := sole.claim claimed
      refine ⟨Database.storeDirectMessage_consistent middle.consistent ?_, ?_⟩
      · rw [requests.conversationKey]
        exact sole.normalized
      · rw [(Database.storeDirectMessage_frame middle.consistent requests.packetId).1]
        exact middle.only

/-- What is stored is linked to the packet. -/
theorem linkedContent (outcome : Outcome db contact heard message outgoing ending)
    (sole : SoleContact db contact) (unlinked : db.links heard.packetId = none)
    (storable : Storable db contact message outgoing) :
    ending.1.linkedContent heard.packetId =
      some ⟨outgoing, message.message, some message.timestamp, contact.publicKey⟩ := by
  have after := outcome.sole sole
  cases outcome with
  | blocked blocked => exact absurd storable (not_storable_of_blocked blocked)
  | passed unstorable => exact absurd storable unstorable
  | stored _ claimed requests =>
      have middle := (sole.claim claimed).consistent
      rw [← (Database.claimPrefixMessages_frame claimed).2] at unlinked
      obtain ⟨m, member, linked, content⟩ :=
        Database.storeDirectMessage_linked middle requests.packetId unlinked
      rw [Database.linkedContent_eq after.consistent member linked, content, requests.outgoing,
        requests.text, requests.senderTimestamp, requests.conversationKey]

theorem linkedContent_none (outcome : Outcome db contact heard message outgoing ending)
    (unlinked : db.links heard.packetId = none)
    (unstorable : ¬ Storable db contact message outgoing) :
    ending.1.linkedContent heard.packetId = none := by
  apply Database.linkedContent_none
  cases outcome with
  | blocked => exact unlinked
  | passed _ moved =>
      rcases moved with rfl | claimed
      · exact unlinked
      · rw [(Database.claimPrefixMessages_frame claimed).2]
        exact unlinked
  | stored storable => exact absurd storable unstorable

theorem links (outcome : Outcome db contact heard message outgoing ending)
    (sole : SoleContact db contact) (different : packetId ≠ heard.packetId) :
    ending.1.links packetId = db.links packetId := by
  cases outcome with
  | blocked => rfl
  | passed _ moved =>
      rcases moved with rfl | claimed
      · rfl
      · rw [(Database.claimPrefixMessages_frame claimed).2]
  | stored _ claimed requests =>
      have frame := Database.storeDirectMessage_frame (sole.claim claimed).consistent requests.packetId
      rw [frame.2 packetId different, (Database.claimPrefixMessages_frame claimed).2]

/-- Nothing changes for another packet. -/
theorem settled (outcome : Outcome db contact heard message outgoing ending)
    (sole : SoleContact db contact) (settled : Settled db contact packetId)
    (different : packetId ≠ heard.packetId) :
    Settled ending.1 contact packetId ∧
      ending.1.linkedContent packetId = db.linkedContent packetId := by
  have after := outcome.sole sole
  have links := outcome.links sole different
  rcases settled with unlinked | ⟨m, member, linked, conversation⟩
  · rw [Database.linkedContent_none unlinked, Database.linkedContent_none (links.trans unlinked)]
    exact ⟨.inl (links.trans unlinked), rfl⟩
  have here : m.conversationKey = lower contact.publicKey := conversation.trans sole.normalized.symm
  have kept : ∃ m' ∈ ending.1.messages, m'.id = m.id ∧ m'.content = m.content := by
    cases outcome with
    | blocked => exact ⟨m, member, rfl, rfl⟩
    | passed _ moved =>
        rcases moved with rfl | claimed
        · exact ⟨m, member, rfl, rfl⟩
        · exact ⟨m, Database.claimPrefixMessages_keeps claimed member here, rfl, rfl⟩
    | stored _ claimed requests =>
        exact Database.storeDirectMessage_keeps (sole.claim claimed).consistent
          (Database.claimPrefixMessages_keeps claimed member here) _
  obtain ⟨m', member', id, content⟩ := kept
  have linked' : ending.1.links packetId = some m'.id := by rw [links, linked, id]
  constructor
  · have same : m'.conversationKey = m.conversationKey := congrArg Content.conversationKey content
    exact .inr ⟨m', member', linked', same.trans conversation⟩
  · rw [Database.linkedContent_eq sole.consistent member linked,
      Database.linkedContent_eq after.consistent member' linked', content]

/-- The packet itself is settled afterwards. -/
theorem settled_own (outcome : Outcome db contact heard message outgoing ending)
    (sole : SoleContact db contact) (unlinked : db.links heard.packetId = none) :
    Settled ending.1 contact heard.packetId := by
  cases outcome with
  | blocked => exact .inl unlinked
  | passed _ moved =>
      rcases moved with rfl | claimed
      · exact .inl unlinked
      · exact .inl ((congrFun (Database.claimPrefixMessages_frame claimed).2 _).trans unlinked)
  | stored _ claimed requests =>
      rw [← (Database.claimPrefixMessages_frame claimed).2] at unlinked
      obtain ⟨m, member, linked, content⟩ :=
        Database.storeDirectMessage_linked (sole.claim claimed).consistent requests.packetId unlinked
      refine .inr ⟨m, member, linked, ?_⟩
      rw [← requests.conversationKey]
      exact congrArg Content.conversationKey content

end Outcome
end Meshloom.Messages
