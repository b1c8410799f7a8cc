import Meshloom.Messages.DmIngest
import Meshloom.Transition

/-! Runs of direct-message handling: messages come in on both paths while contacts
are added, deleted, promoted and reconciled. The store of every incoming message
is recorded as an observation. -/
namespace Meshloom.Messages

inductive Event where
  | decrypted (heard : Database.Reception) (message : DecryptedDirectMessage) (theirPublicKey : Key)
      (outgoing : Bool)
  | contactMessage (payload : Database.ContactMessage) (receivedAt : Int)
  | upsertContact (contact : Contact)
  | deleteContact (publicKey : Key)
  | promotePrefixContacts (publicKey : Key)
  | claimPrefixMessages (publicKey : Key)

/-- What an event does before it stores a message, if it stores one. -/
def Database.prepare (db : Database) : Event → Database × Resolution
  | .decrypted heard message theirPublicKey outgoing =>
    db.resolveDecrypted heard message theirPublicKey outgoing
  | .contactMessage payload receivedAt => db.resolveContactMessage payload receivedAt
  | .upsertContact contact => (db.upsert contact, .skipped)
  | .deleteContact publicKey => (db.deleteContact publicKey, .skipped)
  | .promotePrefixContacts publicKey => (db.promotePrefixPlaceholders publicKey, .skipped)
  | .claimPrefixMessages publicKey =>
    match db.claimPrefixMessages publicKey with
    | some db => (db, .skipped)
    | none => (db, .failed)

/-- A call of `_store_direct_message` for an incoming message: the tables it finds
and its arguments. -/
structure Observation where
  before : Database
  request : StoreRequest

def Observation.after (o : Observation) : Database := (o.before.storeDirectMessage o.request).1
def Observation.result (o : Observation) : StoreResult := (o.before.storeDirectMessage o.request).2

/-- The tables, with the observations so far, newest first. -/
structure State where
  db : Database
  observations : List Observation

/-- The observation that an event makes after its preparation. -/
def observed : Database × Resolution → List Observation
  | (db, .request r) => if r.outgoing then [] else [⟨db, r⟩]
  | _ => []

/-- Every event is enabled; one that raises leaves what was committed before. -/
def step (s : State) (e : Event) : Option State :=
  some ⟨(Database.finish (s.db.prepare e)).1, observed (s.db.prepare e) ++ s.observations⟩

def Database.empty : Database := ⟨[], 1, [], fun _ => none⟩

end Meshloom.Messages
