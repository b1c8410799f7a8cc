import Meshloom.Messages.DmIngest
import Meshloom.Packet.Envelope

/-! Text-message packets: their decryption with a contact's key, and the two ways
to it, live when a packet is heard and later in a scan of the stored packets. -/
namespace Meshloom.Packet
open Bytes Messages

/-- A key of the size that the curve operations return. -/
structure PublicKey where
  bytes : List UInt8
  size : bytes.length = 32

def PublicKey.first (key : PublicKey) : UInt8 := key.bytes.headD 0

/-- The cryptographic primitives. The Diffie-Hellman and the cipher may raise, which
is `none`. -/
structure Crypto where
  scalarmultBase : List UInt8 → PublicKey
  scalarmult : List UInt8 → List UInt8 → Option (List UInt8)
  hmacSha256 : List UInt8 → List UInt8 → List UInt8
  aesEcbDecrypt : List UInt8 → List UInt8 → Option (List UInt8)

def Crypto.derivePublicKey (crypto : Crypto) (privateKey : List UInt8) : PublicKey :=
  crypto.scalarmultBase (privateKey.take 32)

def Crypto.deriveSharedSecret (crypto : Crypto) (ourPrivateKey theirPublicKey : List UInt8) :
    Option (List UInt8) :=
  crypto.scalarmult (ourPrivateKey.take 32) theirPublicKey

/-- The members of `PayloadType`. -/
def payloadTypes : List Nat := [0x00, 0x01, 0x02, 0x03, 0x04, 0x05, 0x06, 0x07, 0x08, 0x09, 0x0A, 0x0B, 0x0F]

def textMessage : Nat := 0x02

/-- `parse_packet`: an envelope with a payload type that there is. -/
def parsePacket (rawPacket : List UInt8) : Option ParsedPacketEnvelope :=
  (parsePacketEnvelope rawPacket).filter (·.payloadType ∈ payloadTypes)

def getPacketPayloadType (rawPacket : List UInt8) : Option Nat := do
  let header ← rawPacket.head?
  let type := (header.toNat >>> 2) &&& 0x0F
  guard (type ∈ payloadTypes)
  return type

/-- `bytes.decode("utf-8")`, with `none` for its `UnicodeDecodeError`. -/
def decodeUtf8 (bytes : List UInt8) : Option String := String.fromUTF8? ⟨bytes.toArray⟩

/-- The text up to its first null character. -/
def untilNull (text : String) : String := String.ofList (text.toList.takeWhile (· ≠ '\x00'))

/-- The content of a decrypted text message. -/
def parseDirectMessage (destHash srcHash : Key) (decrypted : List UInt8) :
    Option DecryptedDirectMessage := do
  guard (5 ≤ decrypted.length)
  let timestamp := fromLittleEndian (decrypted.take 4)
  let flags := (← decrypted[4]?).toNat
  let messageBytes := decrypted.drop 5
  if flags >>> 2 = 2 then
    guard (4 ≤ messageBytes.length)
    let text ← decodeUtf8 (messageBytes.drop 4)
    return ⟨timestamp, flags, untilNull text, destHash, srcHash, some (toHex (messageBytes.take 4))⟩
  else
    let text ← decodeUtf8 messageBytes
    return ⟨timestamp, flags, untilNull text, destHash, srcHash, none⟩

section
variable (crypto : Crypto)

/-- `decrypt_direct_message`. -/
def decryptDirectMessage (payload sharedSecret : List UInt8) : Option DecryptedDirectMessage := do
  guard (4 ≤ payload.length)
  let destHash := toHex (payload.take 1)
  let srcHash := toHex ((payload.drop 1).take 1)
  let mac := (payload.drop 2).take 2
  let ciphertext := payload.drop 4
  guard (ciphertext.length ≠ 0 ∧ ciphertext.length % 16 = 0)
  guard ((crypto.hmacSha256 sharedSecret ciphertext).take 2 = mac)
  let decrypted ← crypto.aesEcbDecrypt (sharedSecret.take 16) ciphertext
  parseDirectMessage destHash srcHash decrypted

/-- `try_decrypt_dm`. A key without a first byte would raise; no contact has one. -/
def tryDecryptDm (rawPacket ourPrivateKey theirPublicKey : List UInt8) (ourPublicKey : PublicKey) :
    Option DecryptedDirectMessage := do
  let info ← parsePacket rawPacket
  guard (info.payloadType = textMessage)
  guard (4 ≤ info.payload.length)
  let destHash ← info.payload[0]?
  let srcHash ← info.payload[1]?
  let theirFirstByte ← theirPublicKey.head?
  -- The destination is compared on the way out only.
  let isInbound := srcHash = theirFirstByte
  let isOutbound := srcHash = ourPublicKey.first ∧ destHash = theirFirstByte
  guard (isInbound ∨ isOutbound)
  let sharedSecret ← crypto.deriveSharedSecret ourPrivateKey theirPublicKey
  decryptDirectMessage crypto info.payload sharedSecret

/-- A row of `raw_packets`. -/
structure RawPacket where
  id : Nat
  data : List UInt8
  timestamp : Int

def RawPacket.heard (packet : RawPacket) (info : Option ParsedPacketEnvelope) : Database.Reception :=
  ⟨packet.id, packet.timestamp, info.map fun info => String.ofList (toHex info.path),
    info.map fun info => (info.hopCount : Int)⟩

/-- Whether the message is one that we sent, as far as the store knows. -/
def sentBefore (db : Database) (conversationKey : Key) (message : DecryptedDirectMessage) : Bool :=
  (db.getByContent .priv conversationKey message.message (some message.timestamp) true).isSome

/-- The direction of a packet by its address bytes: `none` when it does not involve
us, and incoming when both are ours. -/
def isOutgoing (destHash srcHash ourFirstByte : Key) : Option Bool :=
  if destHash = ourFirstByte ∧ srcHash ≠ ourFirstByte then some false
  else if srcHash = ourFirstByte ∧ destHash ≠ ourFirstByte then some true
  else if destHash = ourFirstByte ∧ srcHash = ourFirstByte then some false
  else none

/-- `_process_direct_message`, with the private key of the keystore. -/
def processDirectMessage (privateKey : List UInt8) (db : Database) (packet : RawPacket) :
    Database × Ingested :=
  let ourPublicKey := crypto.derivePublicKey privateKey
  match parsePacket packet.data with
  | none => (db, .skipped)
  | some info =>
    if info.payload.length < 4 then (db, .skipped)
    else
      let destHash := lower (toHex (info.payload.take 1))
      let srcHash := lower (toHex ((info.payload.drop 1).take 1))
      let ourFirstByte := lower (toHex [ourPublicKey.first])
      match isOutgoing destHash srcHash ourFirstByte with
      | none => (db, .skipped)
      | some outgoing =>
        let matchHash := if outgoing then destHash else srcHash
        let decryption := (db.getByPubkeyFirstByte matchHash).findSome? fun contact => do
          let contactPublicKey ← fromHex contact.publicKey
          let message ← tryDecryptDm crypto packet.data privateKey contactPublicKey ourPublicKey
          return (contact, message)
        match decryption with
        | none => (db, .skipped)
        | some (contact, message) =>
          let effectiveOutgoing := outgoing ||
            (destHash = srcHash && sentBefore db (lower contact.publicKey) message)
          db.ingestDecryptedDirectMessage (packet.heard (some info)) message contact.publicKey
            effectiveOutgoing

/-- One packet of `run_historical_dm_decryption`. -/
def decryptHistorical (privateKey contactPublicKey : List UInt8) (contactPublicKeyHex : Key)
    (db : Database) (packet : RawPacket) : Database × Ingested :=
  let ourPublicKey := crypto.derivePublicKey privateKey
  match tryDecryptDm crypto packet.data privateKey contactPublicKey ourPublicKey with
  | none => (db, .skipped)
  | some message =>
    let srcHash := lower message.srcHash
    let destHash := lower message.destHash
    let ourFirstByte := lower (toHex [ourPublicKey.first])
    let outgoing :=
      if srcHash = ourFirstByte ∧ destHash ≠ ourFirstByte then true
      else if destHash = ourFirstByte ∧ srcHash = ourFirstByte then
        sentBefore db (lower contactPublicKeyHex) message
      else false
    db.ingestDecryptedDirectMessage (packet.heard (parsePacket packet.data)) message
      contactPublicKeyHex outgoing

/-- The loop of the scan; an ingest that raises ends it. -/
def scan (privateKey contactPublicKey : List UInt8) (contactPublicKeyHex : Key) :
    Database → List RawPacket → Database
  | db, [] => db
  | db, packet :: rest =>
    match decryptHistorical crypto privateKey contactPublicKey contactPublicKeyHex db packet with
    | (db, .failed) => db
    | (db, _) => scan privateKey contactPublicKey contactPublicKeyHex db rest

/-- `stream_undecrypted_text_messages` over the stored packets. Ingesting a packet links
no other one, so the packets of the later batches can be picked at the start. -/
def streamUndecryptedTextMessages (db : Database) (packets : List RawPacket) : List RawPacket :=
  packets.filter fun packet => (db.getLinkedMessageId packet.id).isNone &&
    getPacketPayloadType packet.data = some textMessage

def runHistoricalDmDecryption (privateKey contactPublicKey : List UInt8) (contactPublicKeyHex : Key)
    (db : Database) (packets : List RawPacket) : Database :=
  scan crypto privateKey contactPublicKey contactPublicKeyHex db
    (streamUndecryptedTextMessages db packets)

end
end Meshloom.Packet
