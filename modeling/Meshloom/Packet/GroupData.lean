import Meshloom.Packet.DirectMessage

/-! Group data on a channel: the backend's decryption of a packet, and the frontend's
decryption of a packet or of the envelope alone, which it tells apart by looking. -/
namespace Meshloom.Packet
open Bytes

structure ChannelKey where
  bytes : List UInt8
  size : bytes.length = 16

/-- The primitives that both sides use. -/
structure ChannelCrypto where
  sha256 : List UInt8 → List UInt8
  sha256_length : ∀ data, (sha256 data).length = 32
  hmacSha256 : List UInt8 → List UInt8 → List UInt8
  hmacSha256_length : ∀ key data, (hmacSha256 key data).length = 32
  aesEcbDecrypt : List UInt8 → List UInt8 → List UInt8

namespace ChannelCrypto

/-- The first byte of the hash of a channel key. -/
def channelHash (crypto : ChannelCrypto) (key : List UInt8) : UInt8 := (crypto.sha256 key).headD 0

/-- The first two bytes of the MAC under a channel key. -/
def channelMac (crypto : ChannelCrypto) (key ciphertext : List UInt8) : List UInt8 :=
  (crypto.hmacSha256 (key ++ List.replicate 16 0) ciphertext).take 2

/-- The envelope of a ciphertext. -/
def envelope (crypto : ChannelCrypto) (key : ChannelKey) (ciphertext : List UInt8) : List UInt8 :=
  crypto.channelHash key.bytes :: (crypto.channelMac key.bytes ciphertext ++ ciphertext)

end ChannelCrypto

def groupData : Nat := 0x06

structure ParsedGroupData where
  dataType : Nat
  dataLen : Nat
  data : List UInt8
  deriving DecidableEq, Repr

def parseGroupData (plaintext : List UInt8) : Option ParsedGroupData := do
  guard (3 ≤ plaintext.length)
  let dataType := fromLittleEndian (plaintext.take 2)
  let dataLen := (← plaintext[2]?).toNat
  guard (3 + dataLen ≤ plaintext.length)
  return ⟨dataType, dataLen, (plaintext.drop 3).take dataLen⟩

section
variable (crypto : ChannelCrypto)

def decryptChannelBlob (payload : List UInt8) (channelKey : ChannelKey) : Option (List UInt8) := do
  guard (3 ≤ payload.length)
  let cipherMac := (payload.drop 1).take 2
  let ciphertext := payload.drop 3
  guard (ciphertext.length ≠ 0 ∧ ciphertext.length % 16 = 0)
  guard (crypto.channelMac channelKey.bytes ciphertext = cipherMac)
  return crypto.aesEcbDecrypt channelKey.bytes ciphertext

/-- What `try_decrypt_group_data` does with the payload of a packet. -/
def openGroupData (payload : List UInt8) (channelKey : ChannelKey) : Option ParsedGroupData := do
  let first ← payload.head?
  guard (first = crypto.channelHash channelKey.bytes)
  let plaintext ← decryptChannelBlob crypto payload channelKey
  parseGroupData plaintext

def tryDecryptGroupData (rawPacket : List UInt8) (channelKey : ChannelKey) :
    Option ParsedGroupData := do
  let info ← parsePacket rawPacket
  guard (info.payloadType = groupData)
  guard (info.payloadVersion = 0)
  openGroupData crypto info.payload channelKey

end

namespace Frontend

structure GroupDataPlaintext where
  dataType : Nat
  dataLen : Nat
  dataHex : List Char
  dataText : Option String
  deriving DecidableEq, Repr

/-- `text.trim()`. -/
def trim (text : List Char) : List Char :=
  (text.dropWhile isStrWhiteSpace).rdropWhile isStrWhiteSpace

/-- `text.replace(/[\s:]+/g, '')`. -/
def squeeze (text : List Char) : List Char := text.filter fun c => !(isStrWhiteSpace c || c = ':')

/-- `text.replace(/^0x/i, '')`. -/
def unmark : List Char → List Char
  | '0' :: 'x' :: rest => rest
  | '0' :: 'X' :: rest => rest
  | text => text

def hexToBytes (hex : List Char) : Option (List UInt8) :=
  let normalized := squeeze (unmark (trim hex))
  if normalized.length = 0 ∨ normalized.length % 2 ≠ 0 ∨
      ¬ normalized.all (fun c => (hexValue c).isSome) then none
  else fromHex normalized

def normalizeChannelKey (key : List Char) : Option (List Char) :=
  let normalized := squeeze (unmark ((trim key).map Char.toLower))
  if normalized.length ≠ 32 ∨ ¬ normalized.all (fun c => (hexValue c).isSome && c.toLower = c) then none
  else some normalized

/-- The fatal `TextDecoder`, which leaves out a byte order mark. -/
def decodeText (data : List UInt8) : Option String :=
  (decodeUtf8 data).map fun text => match text.toList with
    | '\uFEFF' :: rest => String.ofList rest
    | _ => text

def parseGroupDataPlaintext (plaintext : List UInt8) : Option GroupDataPlaintext :=
  match plaintext with
  | first :: second :: third :: rest =>
    let dataType := first.toNat ||| (second.toNat <<< 8)
    let dataLen := third.toNat
    if plaintext.length < 3 + dataLen then none
    else
      let data := rest.take dataLen
      some ⟨dataType, dataLen, toHex data, decodeText data⟩
  | _ => none

/-- The two functions of the cracker library that are used, on hexadecimal texts. -/
structure Cracker (crypto : ChannelCrypto) where
  getChannelHash : List Char → List Char
  hash : ∀ key, getChannelHash (toHex key) = toHex [crypto.channelHash key]
  /-- from a ciphertext, a MAC and a key -/
  verifyMac : List Char → List Char → List Char → Bool
  mac : ∀ ciphertext mac key,
    verifyMac (toHex ciphertext) (toHex mac) (toHex key) = true ↔ crypto.channelMac key ciphertext = mac

section
variable (crypto : ChannelCrypto) (library : Cracker crypto)

def decryptEnvelope (payload : List UInt8) (keys : List (List Char)) : Option GroupDataPlaintext :=
  match payload with
  | first :: second :: third :: ciphertext =>
    if ciphertext.length = 0 ∨ ciphertext.length % 16 ≠ 0 then none
    else keys.findSome? fun key => do
      let normalized ← normalizeChannelKey key
      guard (library.getChannelHash normalized = toHex [first])
      guard (library.verifyMac (toHex ciphertext) (toHex [second, third]) normalized)
      let keyBytes ← hexToBytes normalized
      parseGroupDataPlaintext (crypto.aesEcbDecrypt keyBytes ciphertext)
  | _ => none

/-- The answers of `extractGroupDataPayload`. -/
inductive Extracted where
  | null
  | skip
  | payload (bytes : List UInt8)

def payloadTypeBits (header : UInt8) : Nat := (header.toNat >>> 2) &&& 0x0f
def versionBits (header : UInt8) : Nat := (header.toNat >>> 6) &&& 0x03

def extractGroupDataPayload (bytes : List UInt8) : Extracted :=
  match bytes with
  | header :: _ :: _ =>
    if payloadTypeBits header ≠ groupData then .null
    else if versionBits header ≠ 0 then .skip
    else match (extractPacketPayloadHex (toHex bytes)).bind hexToBytes with
      | none => .null
      | some payload =>
        if payload.length < 3 ∨ (payload.length - 3) % 16 ≠ 0 then .null else .payload payload
  | _ => .null

def isNonGroupDataMeshPacket (bytes : List UInt8) : Bool :=
  match bytes with
  | header :: _ :: _ =>
    if payloadTypeBits header = groupData then false
    else match (extractPacketPayloadHex (toHex bytes)).bind hexToBytes with
      | none => false
      | some payload => payload.length ≤ bytes.length - 2
  | _ => false

def parseGroupData (payloadOrPacket : List UInt8) (keys : List (List Char)) :
    Option GroupDataPlaintext :=
  if keys.length = 0 then none
  else match extractGroupDataPayload payloadOrPacket with
    | .skip => none
    | .payload payload => decryptEnvelope crypto library payload keys
    | .null =>
      if isNonGroupDataMeshPacket payloadOrPacket then none
      else decryptEnvelope crypto library payloadOrPacket keys

end
end Frontend
end Meshloom.Packet
