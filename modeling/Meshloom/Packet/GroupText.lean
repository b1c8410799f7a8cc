import Meshloom.BlockCipher
import Meshloom.Packet.GroupData
import Meshloom.Text
import Meshloom.TextSearch
import Meshloom.Utf8Text

/-! Text messages on a channel: the datagram that is built for an outgoing message, the
decryption of a heard one, the text that is stored for it, and the two computations of the
packet hash. -/
namespace Meshloom.Packet
open Bytes Text TextSearch Utf8

def groupText : Nat := 0x05

/-- `GROUP_TEXT_MAX_UTF8`. -/
def groupTextMaxUtf8 : Nat := 160

/-- The primitives of both directions. AES is a permutation of the blocks for every key. -/
structure GroupCrypto where
  sha256 : List UInt8 → List UInt8
  sha256_length : ∀ data, (sha256 data).length = 32
  hmacSha256 : List UInt8 → List UInt8 → List UInt8
  hmacSha256_length : ∀ key data, (hmacSha256 key data).length = 32
  aes : BlockCipher 16 (List UInt8) UInt8

/-- The side that decrypts. -/
def GroupCrypto.channel (crypto : GroupCrypto) : ChannelCrypto where
  sha256 := crypto.sha256
  sha256_length := crypto.sha256_length
  hmacSha256 := crypto.hmacSha256
  hmacSha256_length := crypto.hmacSha256_length
  aesEcbDecrypt := crypto.aes.decryptEcb

structure DecryptedGroupText where
  timestamp : Nat
  flags : Nat
  sender : Option (List Char)
  message : List Char
  channelHash : List Char
  deriving DecidableEq, Repr

/-- `message_text[:message_text.find("\x00")]`, or the whole text without a null character. -/
def cutNull (text : List Char) : List Char := text.takeWhile (· ≠ '\x00')

/-- The characters that no sender's name has. -/
def senderForbidden : List Char := [':', '[', ']', '\x00']

/-- The format `sender: message`, split at the first `": "`. -/
def splitSender (messageText : List Char) : Option (List Char) × List Char :=
  match search (literal [':', ' ']) messageText with
  | some stop =>
    let colonIdx := stop - 2
    let potentialSender := messageText.take colonIdx
    if 0 < colonIdx ∧ colonIdx < 50 ∧ ¬ potentialSender.any (· ∈ senderForbidden) then
      (some potentialSender, messageText.drop (colonIdx + 2))
    else (none, messageText)
  | none => (none, messageText)

/-- The text that `create_message_from_decrypted` stores; an empty sender is none. -/
def storedText (sender : Option (List Char)) (messageText : List Char) : List Char :=
  match sender with
  | some (c :: name) => c :: name ++ [':', ' '] ++ messageText
  | _ => messageText

/-- The zero bytes behind the terminator. -/
def padLen (length : Nat) : Nat :=
  let padLen := (16 - length % 16) % 16
  if padLen = 0 then 16 else padLen

/-- The fields of a datagram in front of the zero bytes. -/
def groupTextFields (timestamp : UInt32) (text : List Char) (flags : UInt8) : List UInt8 :=
  toLittleEndian 4 timestamp.toNat ++ [flags] ++ encode text

def groupTextPlaintext (timestamp : UInt32) (text : List Char) (flags : UInt8) : List UInt8 :=
  let plaintext := groupTextFields timestamp text flags ++ [0]
  plaintext ++ List.replicate (padLen plaintext.length) 0

/-- The first 16 digits of a digest, in upper case. -/
def hashDigits (digest : List UInt8) : List Char := ((toHex digest).take 16).map Char.toUpper

/-- `_ZERO_PACKET_HASH`. -/
def zeroPacketHash : List Char := List.replicate 16 '0'

/-- `canonical_packet_hash`. -/
def canonicalPacketHash (value : List Char) : Option (List Char) :=
  let text := strip value
  if text.length = 16 ∧ text.all (fun c => (hexValue c).isSome) then
    let digest := text.map Char.toUpper
    if digest = zeroPacketHash then none else some digest
  else none

section
variable (crypto : GroupCrypto)

def decryptGroupText (payload : List UInt8) (channelKey : ChannelKey) :
    Option DecryptedGroupText := do
  let decrypted ← decryptChannelBlob crypto.channel payload channelKey
  let channelHash := toHex (payload.take 1)
  guard (5 ≤ decrypted.length)
  let timestamp := fromLittleEndian (decrypted.take 4)
  let flags := (← decrypted[4]?).toNat
  let messageText := cutNull (← decodeUtf8 (decrypted.drop 5)).toList
  let (sender, content) := splitSender messageText
  return ⟨timestamp, flags, sender, content, channelHash⟩

/-- The timestamp and the flags are of the width that Python's `to_bytes` and `bytes` ask for. -/
def encryptGroupText (channelKey : ChannelKey) (timestamp : UInt32) (text : List Char)
    (flags : UInt8) : List UInt8 :=
  let ciphertext := crypto.aes.encryptEcb channelKey.bytes (groupTextPlaintext timestamp text flags)
  let channelSecret := channelKey.bytes ++ List.replicate 16 0
  let mac := (crypto.hmacSha256 channelSecret ciphertext).take 2
  let channelHash := (crypto.sha256 channelKey.bytes).take 1
  channelHash ++ mac ++ ciphertext

/-- `calculate_payload_packet_hash`. -/
def calculatePayloadPacketHash (payloadType : Nat) (payload : List UInt8) : List Char :=
  hashDigits (crypto.sha256 (UInt8.ofNat payloadType :: payload))

/-- `PAYLOAD_TYPE_TRACE`. -/
def payloadTypeTrace : Nat := 9

def calculatePacketHash (rawBytes : List UInt8) : List Char :=
  if rawBytes = [] then zeroPacketHash
  else match parsePacketEnvelope rawBytes with
    | none => zeroPacketHash
    | some envelope =>
      let path := if envelope.payloadType = payloadTypeTrace then toLittleEndian 2 envelope.pathByte
        else []
      hashDigits (crypto.sha256 (UInt8.ofNat envelope.payloadType :: (path ++ envelope.payload)))

def outgoingGroupTextPacketHash (channelKeyHex : List Char) (timestamp : UInt32)
    (text : List Char) (flags : UInt8) : Option (List Char) :=
  if (encode text).length > groupTextMaxUtf8 then none
  else match fromHex channelKeyHex with
    | none => none
    | some key =>
      if size : key.length = 16 then
        canonicalPacketHash (calculatePayloadPacketHash crypto groupText
          (encryptGroupText crypto ⟨key, size⟩ timestamp text flags))
      else none

end
end Meshloom.Packet
