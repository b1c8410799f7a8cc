import Meshloom.Messages.Database

/-! What every operation on the tables keeps: the consistency of the tables, and
for each row its identity and content while its conversation key may only grow. -/
namespace Meshloom.Messages
open Sql

@[simp]
theorem lower_lower (key : Key) : lower (lower key) = lower key := by
  simp [lower, Function.comp_def]

theorem lower_upper (key : Key) : lower (upper key) = lower key := by
  simp [lower, upper, Function.comp_def]

theorem lower_take (key : Key) (n : Nat) : lower (key.take n) = (lower key).take n := List.map_take

/-- A claiming looks at the proper beginnings of the key. The upper-case ones
among them matter only where they are lower-case too. -/
theorem mem_claimPrefixes {key conversation : Key} (normalized : lower key = key)
    (lowerCase : lower conversation = conversation) :
    conversation ∈ Database.claimPrefixes key ↔
      conversation ≠ [] ∧ conversation <+: key ∧ conversation ≠ key := by
  simp only [Database.claimPrefixes, List.mem_flatMap, List.mem_filter, List.mem_range,
    decide_eq_true_eq, List.mem_cons, List.not_mem_nil, or_false]
  constructor
  · rintro ⟨n, ⟨small, positive⟩, chosen⟩
    have taken : conversation = key.take n := by
      rcases chosen with plain | shouted
      · exact plain
      · rw [← lowerCase, shouted, lower_upper, lower_take, normalized]
    have size : conversation.length = n := by
      rw [taken, List.length_take]
      omega
    refine ⟨?_, taken ▸ List.take_prefix n key, ?_⟩
    · rintro rfl
      simp at size
      omega
    · rintro rfl
      omega
  · rintro ⟨nonempty, begins, proper⟩
    have shorter : conversation.length < key.length := by
      rcases Nat.lt_or_ge conversation.length key.length with less | most
      · exact less
      · exact absurd (begins.eq_of_length_le most) proper
    refine ⟨conversation.length, ⟨shorter, List.length_pos_iff.mpr nonempty⟩, .inl ?_⟩
    exact List.prefix_iff_eq_take.mp begins

namespace Message

/-- What a row may become: its content stays, its paths are added to, and only a
row that moves to a longer conversation key changes its place in the index. -/
structure Follows (m later : Message) : Prop where
  id : later.id = m.id
  type : later.type = m.type
  outgoing : later.outgoing = m.outgoing
  text : later.text = m.text
  senderTimestamp : later.senderTimestamp = m.senderTimestamp
  paths : m.paths <+: later.paths
  key : later.incomingKey = m.incomingKey ∨
    m.conversationKey.length < later.conversationKey.length

namespace Follows

theorem refl (m : Message) : Follows m m :=
  ⟨rfl, rfl, rfl, rfl, rfl, List.prefix_rfl, .inl rfl⟩

theorem conversation_length (follows : Follows m later) :
    m.conversationKey.length ≤ later.conversationKey.length := by
  rcases follows.key with same | longer
  · have conversation : later.conversationKey = m.conversationKey :=
      congrArg IncomingKey.conversationKey same
    rw [conversation]
  · exact longer.le

theorem trans (first : Follows m middle) (second : Follows middle later) : Follows m later where
  id := second.id.trans first.id
  type := second.type.trans first.type
  outgoing := second.outgoing.trans first.outgoing
  text := second.text.trans first.text
  senderTimestamp := second.senderTimestamp.trans first.senderTimestamp
  paths := first.paths.trans second.paths
  key := by
    rcases second.key with same | longer
    · rcases first.key with before | before
      · exact .inl (same.trans before)
      · exact .inr (lt_of_lt_of_le before second.conversation_length)
    · exact .inr (lt_of_le_of_lt first.conversation_length longer)

theorem incoming (follows : Follows m later) : later.incoming = m.incoming := by
  simp only [Message.incoming, follows.type, follows.outgoing]

end Follows

theorem conflicts_congr {m other m' other' : Message} (type : m'.type = m.type)
    (incoming : m'.incoming = m.incoming) (key : m'.incomingKey = m.incomingKey)
    (type' : other'.type = other.type) (incoming' : other'.incoming = other.incoming)
    (key' : other'.incomingKey = other.incomingKey) : m'.conflicts other' = m.conflicts other := by
  -- The channel index has the columns of the other one without the sender.
  have channel {a b : Message} (same : a.incomingKey = b.incomingKey) :
      a.channelKey = b.channelKey := by
    simp only [incomingKey, IncomingKey.mk.injEq] at same
    simp only [channelKey, same]
  simp only [conflicts, type, incoming, key, type', incoming', key', channel key, channel key']

theorem conflicts_comm (m other : Message) : m.conflicts other = other.conflicts m := by
  simp only [conflicts, eq_comm, Bool.and_comm]

end Message

/-- What holds of the tables whenever no operation is under way. -/
structure Database.Consistent (db : Database) : Prop where
  indexed : Indexed db.messages
  ordered : db.messages.Pairwise fun m other => m.id < other.id
  fresh : ∀ m ∈ db.messages, m.id < db.nextId
  timestamped : ∀ m ∈ db.messages, m.type = .priv → m.senderTimestamp ≠ none
  conversations : ∀ m ∈ db.messages, m.type = .priv → lower m.conversationKey = m.conversationKey
  contacts : ∀ contact ∈ db.contacts, lower contact.publicKey = contact.publicKey

namespace Database
variable {db middle later after : Database} {m m' : Message} {id : Nat}

/-- Every row is still there in a later state of the tables. -/
def Evolves (db later : Database) : Prop :=
  ∀ m ∈ db.messages, ∃ m' ∈ later.messages, m.Follows m'

namespace Evolves

theorem refl (db : Database) : Evolves db db := fun m member => ⟨m, member, .refl m⟩

theorem trans (first : Evolves db middle) (second : Evolves middle later) : Evolves db later := by
  intro m member
  obtain ⟨m', member', follows⟩ := first m member
  obtain ⟨m'', member'', follows'⟩ := second m' member'
  exact ⟨m'', member'', follows.trans follows'⟩

theorem of_map {f : Message → Message} (follows : ∀ m ∈ db.messages, m.Follows (f m))
    (rows : later.messages = db.messages.map f) : Evolves db later := by
  intro m member
  exact ⟨f m, rows ▸ List.mem_map_of_mem member, follows m member⟩

theorem of_append {rows : List Message} (appended : later.messages = db.messages ++ rows) :
    Evolves db later := by
  intro m member
  exact ⟨m, appended ▸ List.mem_append_left _ member, .refl m⟩

end Evolves

theorem find?_id {rows : List Message} (ordered : rows.Pairwise fun m other => m.id < other.id)
    (member : m ∈ rows) : rows.find? (·.id = m.id) = some m := by
  induction rows with
  | nil => contradiction
  | cons first rest ih =>
      obtain ⟨head, tail⟩ := List.pairwise_cons.mp ordered
      rcases List.mem_cons.mp member with rfl | member
      · simp
      · have below := head m member
        rw [List.find?_cons_of_neg (by simp; omega)]
        exact ih tail member

theorem getById_eq (consistent : db.Consistent) (member : m ∈ db.messages) :
    db.getById m.id = some m :=
  find?_id consistent.ordered member

theorem mem_of_getById (found : db.getById id = some m) : m ∈ db.messages ∧ m.id = id := by
  refine ⟨List.mem_of_find?_eq_some found, ?_⟩
  simpa using List.find?_some found

theorem eq_of_id (consistent : db.Consistent) (member : m ∈ db.messages)
    (member' : m' ∈ db.messages) (same : m.id = m'.id) : m = m' := by
  have first := getById_eq consistent member
  have second := getById_eq consistent member'
  rw [same, second] at first
  exact (Option.some.inj first).symm

/-- The result of changing rows in place, with the index checked. -/
theorem consistent_map {f : Message → Message} (consistent : db.Consistent)
    (follows : ∀ m ∈ db.messages, m.Follows (f m)) (indexed : Indexed (db.messages.map f))
    (conversations : ∀ m ∈ db.messages, m.type = .priv →
      lower (f m).conversationKey = (f m).conversationKey) :
    Consistent { db with messages := db.messages.map f } where
  indexed := indexed
  ordered := by
    refine List.pairwise_map.mpr (consistent.ordered.imp_of_mem ?_)
    intro m other member member' before
    rw [(follows m member).id, (follows other member').id]
    exact before
  fresh := by
    intro m' member'
    obtain ⟨m, member, rfl⟩ := List.mem_map.mp member'
    rw [(follows m member).id]
    exact consistent.fresh m member
  timestamped := by
    intro m' member' direct
    obtain ⟨m, member, rfl⟩ := List.mem_map.mp member'
    rw [(follows m member).senderTimestamp]
    exact consistent.timestamped m member ((follows m member).type ▸ direct)
  conversations := by
    intro m' member' direct
    obtain ⟨m, member, rfl⟩ := List.mem_map.mp member'
    exact conversations m member ((follows m member).type ▸ direct)
  contacts := consistent.contacts

theorem consistent_contacts {contacts : List Contact} (consistent : db.Consistent)
    (normalized : ∀ contact ∈ contacts, lower contact.publicKey = contact.publicKey) :
    Consistent { db with contacts } :=
  { consistent with contacts := normalized }

theorem consistent_links {links : Nat → Option Nat} (consistent : db.Consistent) :
    Consistent { db with links } :=
  { consistent with }

/-- The row of an insertion; see `create`. -/
def newRow (db : Database) (m : Message) : Message :=
  { m with id := db.nextId, senderKey := m.senderKey.map lower }

theorem create_eq_some (created : db.create m = some (id, after)) :
    id = db.nextId ∧ after.messages = db.messages ++ [db.newRow m] ∧
      after.nextId = db.nextId + 1 ∧ after.contacts = db.contacts ∧ after.links = db.links ∧
      ∀ row ∈ db.messages, (db.newRow m).conflicts row = false := by
  simp only [create] at created
  split at created
  · contradiction
  · rename_i free
    cases created
    refine ⟨rfl, rfl, rfl, rfl, rfl, ?_⟩
    simpa [newRow] using free

theorem create_eq_none (refused : db.create m = none) :
    ∃ row ∈ db.messages, (db.newRow m).conflicts row = true := by
  simp only [create] at refused
  split at refused
  · rename_i taken
    exact List.any_eq_true.mp taken
  · contradiction

theorem consistent_create (consistent : db.Consistent) (created : db.create m = some (id, after))
    (timestamped : m.senderTimestamp ≠ none) (normalized : lower m.conversationKey = m.conversationKey) :
    after.Consistent := by
  obtain ⟨-, rows, next, contacts, -, free⟩ := create_eq_some created
  constructor
  · rw [rows, Indexed, List.pairwise_append]
    refine ⟨consistent.indexed, List.pairwise_singleton _ _, ?_⟩
    intro row member new isNew
    rw [List.mem_singleton.mp isNew, Message.conflicts_comm, free row member]
    exact Bool.false_ne_true
  · rw [rows, List.pairwise_append]
    refine ⟨consistent.ordered, List.pairwise_singleton _ _, ?_⟩
    intro row member new isNew
    rw [List.mem_singleton.mp isNew]
    exact consistent.fresh row member
  · rw [rows, next]
    intro row member
    rcases List.mem_append.mp member with member | isNew
    · exact (consistent.fresh row member).trans (Nat.lt_succ_self _)
    · rw [List.mem_singleton.mp isNew]
      exact Nat.lt_succ_self _
  · rw [rows]
    intro row member direct
    rcases List.mem_append.mp member with member | isNew
    · exact consistent.timestamped row member direct
    · rw [List.mem_singleton.mp isNew]
      exact timestamped
  · rw [rows]
    intro row member direct
    rcases List.mem_append.mp member with member | isNew
    · exact consistent.conversations row member direct
    · rw [List.mem_singleton.mp isNew]
      exact normalized
  · rw [contacts]
    exact consistent.contacts

/-- The update of `addPath` on one row. -/
theorem follows_addPath (m : Message) (id : Nat) (path : MessagePath) :
    m.Follows (if m.id = id then { m with paths := m.paths ++ [path] } else m) := by
  split
  · exact ⟨rfl, rfl, rfl, rfl, rfl, List.prefix_append _ _, .inl rfl⟩
  · exact .refl m

theorem consistent_addPath (consistent : db.Consistent) (id : Nat) (path : MessagePath) :
    (db.addPath id path).Consistent := by
  apply consistent_map consistent
  · intro m _
    exact follows_addPath m id path
  · refine List.pairwise_map.mpr (consistent.indexed.imp ?_)
    intro m other apart
    rw [Message.conflicts_congr]
    · exact apart
    all_goals split <;> rfl
  · intro m member direct
    split
    · exact consistent.conversations m member direct
    · exact consistent.conversations m member direct

theorem evolves_addPath (db : Database) (id : Nat) (path : MessagePath) :
    Evolves db (db.addPath id path) :=
  .of_map (fun m _ => follows_addPath m id path) rfl

/-- A claimed row moves to a longer key. -/
theorem follows_claim {key : Key} (db : Database) (m : Message) :
    m.Follows (if db.claimed key m then rekey key m else m) := by
  split
  · rename_i moved
    refine ⟨rfl, rfl, rfl, rfl, rfl, List.prefix_rfl, .inr ?_⟩
    simp only [claimed, Bool.and_eq_true, decide_eq_true_eq] at moved
    obtain ⟨⟨-, moved⟩, -⟩ := moved
    simp only [claimPrefixes, List.mem_flatMap, List.mem_filter, List.mem_range, decide_eq_true_eq,
      List.mem_cons, List.not_mem_nil, or_false] at moved
    obtain ⟨n, ⟨small, -⟩, chosen⟩ := moved
    have size : m.conversationKey.length = min n key.length := by
      rcases chosen with plain | shouted
      · rw [plain, List.length_take]
      · rw [shouted, upper, List.length_map, List.length_take]
    simp only [rekey, size]
    omega
  · exact .refl m

theorem claimPrefixMessages_eq_some {key : Key} (claimed : db.claimPrefixMessages key = some after) :
    after = { db with
      messages := db.messages.map fun m => if db.claimed (lower key) m then rekey (lower key) m else m } ∧
    Indexed after.messages := by
  simp only [claimPrefixMessages] at claimed
  split at claimed
  · cases claimed
    exact ⟨rfl, ‹_›⟩
  · contradiction

theorem evolves_claim {key : Key} (claimed : db.claimPrefixMessages key = some after) :
    Evolves db after := by
  obtain ⟨rfl, -⟩ := claimPrefixMessages_eq_some claimed
  exact .of_map (fun m _ => follows_claim db m) rfl

theorem consistent_claim {key : Key} (consistent : db.Consistent)
    (claimed : db.claimPrefixMessages key = some after) : after.Consistent := by
  obtain ⟨rfl, indexed⟩ := claimPrefixMessages_eq_some claimed
  apply consistent_map consistent (fun m _ => follows_claim db m) indexed
  intro m member direct
  split
  · exact lower_lower key
  · exact consistent.conversations m member direct

theorem upsert_contacts (db : Database) (contact : Contact)
    (normalized : ∀ contact ∈ db.contacts, lower contact.publicKey = contact.publicKey) :
    ∃ contacts, db.upsert contact = { db with contacts } ∧
      ∀ contact ∈ contacts, lower contact.publicKey = contact.publicKey := by
  simp only [upsert]
  split
  · refine ⟨_, rfl, ?_⟩
    intro other member
    rcases List.mem_append.mp member with member | isNew
    · exact normalized other member
    · rw [List.mem_singleton.mp isNew]
      exact lower_lower _
  · refine ⟨_, rfl, ?_⟩
    intro other member
    obtain ⟨old, present, rfl⟩ := List.mem_map.mp member
    split
    · exact normalized old present
    · exact normalized old present

end Database
end Meshloom.Messages
