import Meshloom.Messages.Database

/-! Direct-message ingest: the store with its three ways of recognising a
duplicate, and the decrypted and fallback paths that lead to it. -/
namespace Meshloom.Messages

/-- The arguments of `_store_direct_message`. -/
structure StoreRequest where
  packetId : Option Nat
  conversationKey : Key
  text : String
  senderTimestamp : Int
  receivedAt : Int
  path : Option String
  pathLen : Option Int
  outgoing : Bool
  txtType : Nat
  signature : Option Key
  senderName : Option String
  senderKey : Option Key
  bestEffortContentDedup : Bool
  linkedPacketDedup : Bool
  deriving DecidableEq, Repr

namespace StoreRequest

def messagePath (r : StoreRequest) : Option MessagePath :=
  r.path.map fun path => ⟨path, r.receivedAt, r.pathLen⟩

/-- The row that `create` is asked for. -/
def message (r : StoreRequest) : Message where
  id := 0
  type := .priv
  conversationKey := r.conversationKey
  text := r.text
  senderTimestamp := some r.senderTimestamp
  receivedAt := r.receivedAt
  paths := r.messagePath.toList
  txtType := r.txtType
  signature := r.signature
  outgoing := r.outgoing
  senderName := r.senderName
  senderKey := r.senderKey

end StoreRequest

/-- What became of an observation: a row of its own, a row it was added to, or
nothing when the row it duplicates is not found. -/
inductive StoreResult where
  | stored (id : Nat)
  | duplicate (id : Nat)
  | lost
  deriving DecidableEq, Repr

namespace Database

def linkPacket (db : Database) (packetId : Option Nat) (messageId : Nat) : Database :=
  match packetId with
  | some packetId => db.markDecrypted packetId messageId
  | none => db

/-- `reconcile_duplicate_message`: the path and the packet go to the existing row. -/
def reconcileDuplicateMessage (db : Database) (existing : Message) (r : StoreRequest) : Database :=
  let db := match r.messagePath with
    | some path => db.addPath existing.id path
    | none => db
  db.linkPacket r.packetId existing.id

/-- The row that the packet of the request is linked to already. -/
def linkedMessage (db : Database) (r : StoreRequest) : Option Message :=
  if r.linkedPacketDedup then
    r.packetId.bind fun packetId => (db.getLinkedMessageId packetId).bind db.getById
  else none

/-- The oldest row with the content of the request, whoever its sender. -/
def contentMessage (db : Database) (r : StoreRequest) : Option Message :=
  db.getByContent .priv r.conversationKey r.text (some r.senderTimestamp) r.outgoing

/-- `handle_duplicate_message`. -/
def handleDuplicateMessage (db : Database) (r : StoreRequest) : Database × StoreResult :=
  match db.contentMessage r with
  | some existing => (db.reconcileDuplicateMessage existing r, .duplicate existing.id)
  | none => (db, .lost)

/-- `_store_direct_message`. -/
def storeDirectMessage (db : Database) (r : StoreRequest) : Database × StoreResult :=
  match db.linkedMessage r with
  | some existing => (db.reconcileDuplicateMessage existing r, .duplicate existing.id)
  | none =>
    match if r.bestEffortContentDedup then db.contentMessage r else none with
    | some existing => (db.reconcileDuplicateMessage existing r, .duplicate existing.id)
    | none =>
      match db.create r.message with
      | some (id, db) => (db.linkPacket r.packetId id, .stored id)
      | none => db.handleDuplicateMessage r

end Database

structure DecryptedDirectMessage where
  timestamp : Nat
  flags : Nat
  message : String
  destHash : Key
  srcHash : Key
  signedSenderPrefix : Option Key
  deriving DecidableEq, Repr

def DecryptedDirectMessage.txtType (decrypted : DecryptedDirectMessage) : Nat := decrypted.flags >>> 2

/-- How far an ingest gets before the store: an `IntegrityError` of the claiming,
a message that is not to be stored, or the arguments of the store. -/
inductive Resolution where
  | failed
  | skipped
  | request (r : StoreRequest)
  deriving DecidableEq, Repr

/-- How an ingest ends. -/
inductive Ingested where
  | failed
  | skipped
  | stored (result : StoreResult)
  deriving DecidableEq, Repr

namespace Database

/-- The store, for an ingest that gets that far. -/
def finish : Database × Resolution → Database × Ingested
  | (db, .failed) => (db, .failed)
  | (db, .skipped) => (db, .skipped)
  | (db, .request r) => ((db.storeDirectMessage r).1, .stored (db.storeDirectMessage r).2)

/-- `resolve_direct_message_sender_metadata`; `none` when the claiming fails. -/
def resolveDirectMessageSenderMetadata (db : Database) (senderPublicKey : Key) :
    Option (Database × Option String × Option Key) :=
  let normalizedSender := lower senderPublicKey
  match db.getByKeyOrPrefix normalizedSender with
  | some contact =>
    (db.claimPrefixMessages (lower contact.publicKey)).map fun db =>
      (db, contact.name, some (lower contact.publicKey))
  | none => some (db, none, if normalizedSender = [] then none else some normalizedSender)

/-- Where a packet was heard. -/
structure Reception where
  packetId : Nat
  receivedAt : Int
  path : Option String
  pathLen : Option Int
  deriving DecidableEq, Repr

/-- `ingest_decrypted_direct_message` up to its store. -/
def resolveDecrypted (db : Database) (heard : Reception) (decrypted : DecryptedDirectMessage)
    (theirPublicKey : Key) (outgoing : Bool) : Database × Resolution :=
  let conversationKey := lower theirPublicKey
  let request (conversationKey : Key) (senderName : Option String) (senderKey signature : Option Key) :
      Resolution :=
    .request ⟨some heard.packetId, conversationKey, decrypted.message, decrypted.timestamp,
      heard.receivedAt, heard.path, heard.pathLen, outgoing, decrypted.txtType, signature,
      senderName, senderKey, outgoing, true⟩
  if !outgoing && decrypted.txtType == 1 then (db, .skipped)
  else
    let senderKey := if outgoing then none else some conversationKey
    match db.getByKey conversationKey with
    | none => (db, request conversationKey none senderKey none)
    | some contact =>
      match db.claimPrefixMessages (lower contact.publicKey) with
      | none => (db, .failed)
      | some db =>
        let conversationKey := lower contact.publicKey
        if contact.type = contactTypeRepeater then (db, .skipped)
        else if outgoing then (db, request conversationKey none senderKey none)
        else
          match decide (contact.type = contactTypeRoom), decrypted.signedSenderPrefix with
          | true, some (c :: signer) =>
            match db.resolveDirectMessageSenderMetadata (c :: signer) with
            | none => (db, .failed)
            | some (db, senderName, senderKey) =>
              (db, request conversationKey senderName senderKey (some (c :: signer)))
          | _, _ => (db, request conversationKey contact.name senderKey none)

/-- `ingest_decrypted_direct_message`. -/
def ingestDecryptedDirectMessage (db : Database) (heard : Reception)
    (decrypted : DecryptedDirectMessage) (theirPublicKey : Key) (outgoing : Bool) :
    Database × Ingested :=
  finish (db.resolveDecrypted heard decrypted theirPublicKey outgoing)

/-- The payload of a `CONTACT_MSG_RECV` event. -/
structure ContactMessage where
  senderPublicKey : Key
  text : String
  senderTimestamp : Option Int
  txtType : Nat
  signature : Option Key
  path : Option String
  pathLen : Option Int
  deriving DecidableEq, Repr

structure FallbackContext where
  conversationKey : Key
  contact : Option Contact
  senderName : Option String
  senderKey : Option Key
  skipStorage : Bool
  deriving DecidableEq, Repr

/-- `resolve_fallback_direct_message_context`; `none` when the claiming fails. An
unknown sender gets a placeholder contact. -/
def resolveFallbackDirectMessageContext (db : Database) (senderPublicKey : Key) :
    Option (Database × FallbackContext) :=
  let normalizedSender := lower senderPublicKey
  match db.getByKeyOrPrefix normalizedSender with
  | some contact =>
    (db.claimPrefixMessages (lower contact.publicKey)).map fun db =>
      (db, ⟨lower contact.publicKey, some contact, contact.name, some (lower contact.publicKey),
        contact.type = contactTypeRepeater⟩)
  | none =>
    if normalizedSender = [] then some (db, ⟨[], none, none, none, false⟩)
    else
      let db := db.upsert ⟨normalizedSender, none, 0⟩
      let contact := db.getByKey normalizedSender
      some (db, ⟨normalizedSender, contact, contact.bind (·.name), some normalizedSender, false⟩)

/-- The arguments that `ingest_fallback_direct_message` gives to the store. -/
def fallbackRequest (payload : ContactMessage) (receivedAt : Int) (conversationKey : Key)
    (senderName : Option String) (senderKey : Option Key) : StoreRequest :=
  ⟨none, conversationKey, payload.text, payload.senderTimestamp.getD receivedAt, receivedAt,
    payload.path, payload.pathLen, false, payload.txtType, payload.signature, senderName, senderKey,
    true, false⟩

/-- `on_contact_message` up to the store. -/
def resolveContactMessage (db : Database) (payload : ContactMessage) (receivedAt : Int) :
    Database × Resolution :=
  if payload.txtType = 1 then (db, .skipped)
  else
    match db.resolveFallbackDirectMessageContext payload.senderPublicKey with
    | none => (db, .failed)
    | some (db, context) =>
      if context.skipStorage then (db, .skipped)
      else
        let room := context.contact.any fun contact => contact.type == contactTypeRoom
        match room && payload.txtType == 2, payload.signature with
        | true, some (c :: signer) =>
          match db.resolveDirectMessageSenderMetadata (c :: signer) with
          | none => (db, .failed)
          | some (db, senderName, senderKey) =>
            (db, .request (fallbackRequest payload receivedAt context.conversationKey senderName
              senderKey))
        | _, _ =>
          (db, .request (fallbackRequest payload receivedAt context.conversationKey
            context.senderName context.senderKey))

end Database
end Meshloom.Messages
