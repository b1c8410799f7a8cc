import Meshloom.Messages.DatabaseProofs
import Meshloom.Messages.DmRun

/-! What one event can do to the tables: it prepares, by changes of the contacts
and claimings, and then it may store one message. -/
namespace Meshloom.Messages

namespace Database

/-- The changes that precede a store. -/
inductive Prepares (db : Database) : Database → Prop where
  | refl : Prepares db db
  | contacts {middle : Database} (contacts : List Contact) : Prepares db middle →
      (∀ contact ∈ contacts, lower contact.publicKey = contact.publicKey) →
      Prepares db { middle with contacts }
  | claim {middle after : Database} {key : Key} : Prepares db middle →
      middle.claimPrefixMessages key = some after → Prepares db after

variable {db middle after : Database} {r : StoreRequest} {m : Message}

namespace Prepares

theorem consistent (prepares : Prepares db after) (consistent : db.Consistent) :
    after.Consistent := by
  induction prepares with
  | refl => exact consistent
  | contacts _ _ normalized ih => exact consistent_contacts ih normalized
  | claim _ claimed ih => exact consistent_claim ih claimed

theorem evolves (prepares : Prepares db after) : Evolves db after := by
  induction prepares with
  | refl => exact .refl db
  | contacts _ _ _ ih => exact ih
  | claim _ claimed ih => exact ih.trans (evolves_claim claimed)

theorem upsert (prepares : Prepares db middle) (consistent : db.Consistent) (contact : Contact) :
    Prepares db (middle.upsert contact) := by
  obtain ⟨contacts, same, normalized⟩ :=
    upsert_contacts middle contact (prepares.consistent consistent).contacts
  rw [same]
  exact .contacts contacts prepares normalized

theorem filter (keep : Contact → Bool) (consistent : db.Consistent) :
    Prepares db { db with contacts := db.contacts.filter keep } :=
  .contacts _ .refl fun contact member => consistent.contacts contact (List.mem_filter.mp member).1

end Prepares

theorem resolveSender_prepares {name : Option String} {sender : Key} {key : Option Key}
    (resolved : middle.resolveDirectMessageSenderMetadata sender = some (after, name, key))
    (prepares : Prepares db middle) : Prepares db after := by
  simp only [resolveDirectMessageSenderMetadata] at resolved
  split at resolved
  · obtain ⟨claimed, done, same⟩ := Option.map_eq_some_iff.mp resolved
    cases same
    exact .claim prepares done
  · cases resolved
    exact prepares

theorem resolveDecrypted_prepares (db : Database) (heard : Reception)
    (message : DecryptedDirectMessage) (theirPublicKey : Key) (outgoing : Bool) :
    Prepares db (db.resolveDecrypted heard message theirPublicKey outgoing).1 := by
  simp only [resolveDecrypted]
  split
  · exact .refl
  split
  · exact .refl
  split
  · exact .refl
  rename_i claimed done
  have first : Prepares db claimed := .claim .refl done
  split
  · exact first
  split
  · exact first
  split
  · split
    · exact first
    · exact resolveSender_prepares ‹_› first
  · exact first

theorem resolveContactMessage_prepares (consistent : db.Consistent) (payload : ContactMessage)
    (receivedAt : Int) : Prepares db (db.resolveContactMessage payload receivedAt).1 := by
  simp only [resolveContactMessage]
  split
  · exact .refl
  split
  · exact .refl
  rename_i resolved context found
  have first : Prepares db resolved := by
    simp only [resolveFallbackDirectMessageContext] at found
    split at found
    · obtain ⟨claimed, done, same⟩ := Option.map_eq_some_iff.mp found
      cases same
      exact .claim .refl done
    split at found
    · cases found
      exact .refl
    · cases found
      exact Prepares.refl.upsert consistent _
  split
  · exact first
  split
  · split
    · exact first
    · exact resolveSender_prepares ‹_› first
  · exact first

theorem prepare_prepares (consistent : db.Consistent) (e : Event) :
    Prepares db (db.prepare e).1 := by
  cases e with
  | decrypted heard message theirPublicKey outgoing =>
      exact resolveDecrypted_prepares db heard message theirPublicKey outgoing
  | contactMessage payload receivedAt =>
      exact resolveContactMessage_prepares consistent payload receivedAt
  | upsertContact contact => exact Prepares.refl.upsert consistent contact
  | deleteContact publicKey => exact .filter _ consistent
  | promotePrefixContacts publicKey => exact .filter _ consistent
  | claimPrefixMessages publicKey =>
      simp only [prepare]
      split
      · exact .claim .refl ‹_›
      · exact .refl

theorem prepare_request {e : Event} (prepared : (db.prepare e).2 = .request r) :
    lower r.conversationKey = r.conversationKey := by
  cases e with
  | decrypted heard message theirPublicKey outgoing =>
      simp only [prepare, resolveDecrypted] at prepared
      repeat' split at prepared
      all_goals first | contradiction | skip
      all_goals
        cases prepared
        exact lower_lower _
  | contactMessage payload receivedAt =>
      simp only [prepare, resolveContactMessage] at prepared
      split at prepared
      · contradiction
      split at prepared
      · contradiction
      rename_i resolved context found
      have normalized : lower context.conversationKey = context.conversationKey := by
        simp only [resolveFallbackDirectMessageContext] at found
        split at found
        · obtain ⟨claimed, done, same⟩ := Option.map_eq_some_iff.mp found
          cases same
          exact lower_lower _
        split at found
        · cases found
          rfl
        · cases found
          exact lower_lower _
      repeat' split at prepared
      all_goals first | contradiction | skip
      all_goals
        cases prepared
        exact normalized
  | claimPrefixMessages publicKey =>
      simp only [prepare] at prepared
      split at prepared
      · contradiction
      · contradiction
  | _ => contradiction

/-- The row that the store takes the message for a duplicate of: the one its
packet is linked to, else the oldest with its content. The latter is looked up
first on the best-effort path, and otherwise after the index refused the row. -/
def duplicateOf (db : Database) (r : StoreRequest) : Option Message :=
  match db.linkedMessage r with
  | some existing => some existing
  | none =>
    if r.bestEffortContentDedup ∨ db.messages.any (db.newRow r.message).conflicts then
      db.contentMessage r
    else none

theorem mem_of_linkedMessage (found : db.linkedMessage r = some m) : m ∈ db.messages := by
  simp only [linkedMessage] at found
  split at found
  · obtain ⟨packetId, -, found⟩ := Option.bind_eq_some_iff.mp found
    obtain ⟨id, -, found⟩ := Option.bind_eq_some_iff.mp found
    exact (mem_of_getById found).1
  · contradiction

theorem mem_of_duplicateOf (found : db.duplicateOf r = some m) : m ∈ db.messages := by
  simp only [duplicateOf] at found
  split at found
  · cases found
    exact mem_of_linkedMessage ‹_›
  split at found
  · exact List.mem_of_find?_eq_some found
  · contradiction

/-- Direct messages have a timestamp, so the content lookup finds the row that the
index protects. -/
theorem contentMessage_of_conflict (consistent : db.Consistent) (member : m ∈ db.messages)
    (conflict : (db.newRow r.message).conflicts m = true) : (db.contentMessage r).isSome = true := by
  simp only [Message.conflicts, Message.incoming, Message.incomingKey, newRow, StoreRequest.message,
    Option.getD_some, IncomingKey.mk.injEq, reduceCtorEq, decide_false, Bool.false_and,
    Bool.or_false, Bool.and_eq_true, decide_eq_true_eq, decide_true, Bool.true_and,
    Bool.not_eq_true'] at conflict
  obtain ⟨⟨fresh, direct, received⟩, conversation, text, timestamp, -⟩ := conflict
  obtain ⟨sent, isSome⟩ := Option.ne_none_iff_exists'.mp (consistent.timestamped m member direct)
  rw [isSome, Option.getD_some] at timestamp
  refine List.find?_isSome.mpr ⟨m, member, ?_⟩
  simp [direct, received, conversation, text, isSome, timestamp, fresh]

theorem storeDirectMessage_cases (consistent : db.Consistent) :
    (∃ existing, db.duplicateOf r = some existing ∧ db.storeDirectMessage r =
      (db.reconcileDuplicateMessage existing r, .duplicate existing.id)) ∨
    (∃ after, db.duplicateOf r = none ∧ db.create r.message = some (db.nextId, after) ∧
      db.storeDirectMessage r = (after.linkPacket r.packetId db.nextId, .stored db.nextId)) := by
  cases linked : db.linkedMessage r with
  | some existing =>
      left
      exact ⟨existing, by simp only [duplicateOf, linked], by simp only [storeDirectMessage, linked]⟩
  | none =>
  cases created : db.create r.message with
  | some entry =>
      obtain ⟨id, after⟩ := entry
      obtain ⟨rfl, -, -, -, -, free⟩ := create_eq_some created
      have untaken : db.messages.any (db.newRow r.message).conflicts = false := by
        rw [List.any_eq_false]
        intro row member
        rw [free row member]
        exact Bool.false_ne_true
      simp only [duplicateOf, storeDirectMessage, linked, created, untaken, or_false,
        Bool.false_eq_true]
      cases (if r.bestEffortContentDedup = true then db.contentMessage r else none) with
      | some existing => exact .inl ⟨existing, rfl, rfl⟩
      | none => exact .inr ⟨after, rfl, rfl, rfl⟩
  | none =>
      obtain ⟨row, member, conflict⟩ := create_eq_none created
      have taken : db.messages.any (db.newRow r.message).conflicts = true :=
        List.any_eq_true.mpr ⟨row, member, conflict⟩
      obtain ⟨existing, found⟩ :=
        Option.isSome_iff_exists.mp (contentMessage_of_conflict consistent member conflict)
      left
      refine ⟨existing, ?_, ?_⟩
      · simp only [duplicateOf, linked, taken, or_true, if_true, found]
      · simp only [storeDirectMessage, handleDuplicateMessage, linked, created, found]
        cases r.bestEffortContentDedup <;> rfl

@[simp]
theorem linkPacket_messages (db : Database) (packetId : Option Nat) (id : Nat) :
    (db.linkPacket packetId id).messages = db.messages := by
  cases packetId <;> rfl

theorem linkPacket_consistent (consistent : db.Consistent) (packetId : Option Nat) (id : Nat) :
    (db.linkPacket packetId id).Consistent := by
  cases packetId with
  | none => exact consistent
  | some packetId => exact consistent_links consistent

theorem linkPacket_evolves (evolves : Evolves db after) (packetId : Option Nat) (id : Nat) :
    Evolves db (after.linkPacket packetId id) := by
  intro m member
  rw [linkPacket_messages]
  exact evolves m member

theorem reconcileDuplicateMessage_consistent (consistent : db.Consistent) (existing : Message)
    (r : StoreRequest) : (db.reconcileDuplicateMessage existing r).Consistent := by
  apply linkPacket_consistent
  cases r.messagePath with
  | none => exact consistent
  | some path => exact consistent_addPath consistent existing.id path

theorem reconcileDuplicateMessage_evolves (db : Database) (existing : Message) (r : StoreRequest) :
    Evolves db (db.reconcileDuplicateMessage existing r) := by
  apply linkPacket_evolves
  cases r.messagePath with
  | none => exact .refl db
  | some path => exact evolves_addPath db existing.id path

/-- The row that a duplicate is reconciled with, afterwards. -/
theorem reconcileDuplicateMessage_row (member : m ∈ db.messages) (r : StoreRequest) :
    ∃ row ∈ (db.reconcileDuplicateMessage m r).messages,
      m.Follows row ∧ row.incomingKey = m.incomingKey ∧
      (∀ path ∈ r.messagePath, path ∈ row.paths) ∧
      (∀ packetId ∈ r.packetId,
        (db.reconcileDuplicateMessage m r).getLinkedMessageId packetId = some m.id) ∧
      ∀ other ∈ db.messages, other.id ≠ m.id →
        other ∈ (db.reconcileDuplicateMessage m r).messages := by
  have linked (base : Database) : ∀ packetId ∈ r.packetId,
      (base.linkPacket r.packetId m.id).getLinkedMessageId packetId = some m.id := by
    intro packetId present
    rw [Option.mem_def.mp present]
    simp [linkPacket, markDecrypted, getLinkedMessageId]
  simp only [reconcileDuplicateMessage, linkPacket_messages]
  cases heard : r.messagePath with
  | none => exact ⟨m, member, .refl m, rfl, by simp, linked db, fun other present _ => present⟩
  | some path =>
      refine ⟨{ m with paths := m.paths ++ [path] }, ?_, ?_, rfl, ?_, linked _, ?_⟩
      · exact List.mem_map.mpr ⟨m, member, by rw [if_pos rfl]⟩
      · exact ⟨rfl, rfl, rfl, rfl, rfl, List.prefix_append _ _, .inl rfl⟩
      · simp
      · intro other present different
        exact List.mem_map.mpr ⟨other, present, by rw [if_neg different]⟩

theorem storeDirectMessage_consistent (consistent : db.Consistent)
    (normalized : lower r.conversationKey = r.conversationKey) :
    (db.storeDirectMessage r).1.Consistent := by
  rcases storeDirectMessage_cases (r := r) consistent with ⟨existing, -, same⟩ | ⟨after, -, created, same⟩
  · rw [same]
    exact reconcileDuplicateMessage_consistent consistent existing r
  · rw [same]
    apply linkPacket_consistent
    exact consistent_create consistent created (Option.some_ne_none _) normalized

theorem storeDirectMessage_evolves (consistent : db.Consistent) (r : StoreRequest) :
    Evolves db (db.storeDirectMessage r).1 := by
  rcases storeDirectMessage_cases (r := r) consistent with ⟨existing, -, same⟩ | ⟨after, -, created, same⟩
  · rw [same]
    exact reconcileDuplicateMessage_evolves db existing r
  · rw [same]
    obtain ⟨-, rows, -⟩ := create_eq_some created
    exact linkPacket_evolves (.of_append rows) _ _

end Database

/-- One event: it prepares, and then stores a message or not. -/
theorem step_cases {s t : State} {e : Event} (consistent : s.db.Consistent)
    (stepped : step s e = some t) :
    ∃ middle, Database.Prepares s.db middle ∧
      (t = ⟨middle, s.observations⟩ ∨
        ∃ r, s.db.prepare e = (middle, .request r) ∧
          lower r.conversationKey = r.conversationKey ∧
          t = ⟨(middle.storeDirectMessage r).1,
            (if r.outgoing then [] else [⟨middle, r⟩]) ++ s.observations⟩) := by
  have prepares := Database.prepare_prepares consistent e
  have request := fun r => @Database.prepare_request s.db r e
  cases prepared : s.db.prepare e with
  | mk middle resolution =>
  rw [prepared] at prepares request
  refine ⟨middle, prepares, ?_⟩
  simp only [step, prepared] at stepped
  cases stepped
  cases resolution with
  | failed => exact .inl rfl
  | skipped => exact .inl rfl
  | request r => exact .inr ⟨r, rfl, request r rfl, rfl⟩

/-- The tables are consistent, and the observations found them so and in the order
of the run. -/
structure Recorded (s : State) : Prop where
  consistent : s.db.Consistent
  found : ∀ o ∈ s.observations, o.before.Consistent ∧ o.request.outgoing = false ∧
    lower o.request.conversationKey = o.request.conversationKey
  kept : ∀ o ∈ s.observations, Database.Evolves o.after s.db
  chronological : s.observations.Pairwise fun newer older => Database.Evolves older.after newer.before

theorem recorded_moved {s : State} {next : Database} (recorded : Recorded s)
    (consistent : next.Consistent) (evolves : Database.Evolves s.db next) :
    Recorded ⟨next, s.observations⟩ where
  consistent := consistent
  found := recorded.found
  kept o member := (recorded.kept o member).trans evolves
  chronological := recorded.chronological

theorem recorded_observed {s : State} {r : StoreRequest} (recorded : Recorded s)
    (normalized : lower r.conversationKey = r.conversationKey) (incoming : r.outgoing = false) :
    Recorded ⟨(s.db.storeDirectMessage r).1, ⟨s.db, r⟩ :: s.observations⟩ where
  consistent := Database.storeDirectMessage_consistent recorded.consistent normalized
  found := by
    intro o member
    rcases List.mem_cons.mp member with rfl | member
    · exact ⟨recorded.consistent, incoming, normalized⟩
    · exact recorded.found o member
  kept := by
    intro o member
    rcases List.mem_cons.mp member with rfl | member
    · exact .refl _
    · exact (recorded.kept o member).trans
        (Database.storeDirectMessage_evolves recorded.consistent r)
  chronological := List.pairwise_cons.mpr ⟨recorded.kept, recorded.chronological⟩

theorem step_recorded {s t : State} {e : Event} (recorded : Recorded s)
    (stepped : step s e = some t) : Recorded t := by
  obtain ⟨middle, prepares, stepped⟩ := step_cases recorded.consistent stepped
  have moved : Recorded ⟨middle, s.observations⟩ :=
    recorded_moved recorded (prepares.consistent recorded.consistent) prepares.evolves
  rcases stepped with rfl | ⟨r, -, normalized, rfl⟩
  · exact moved
  cases direction : r.outgoing with
  | true =>
      exact recorded_moved (s := ⟨middle, s.observations⟩) moved
        (Database.storeDirectMessage_consistent moved.consistent normalized)
        (Database.storeDirectMessage_evolves moved.consistent r)
  | false => exact recorded_observed moved normalized direction

theorem empty_consistent : Database.empty.Consistent := by
  constructor <;> simp [Database.empty, Database.Indexed]

end Meshloom.Messages
