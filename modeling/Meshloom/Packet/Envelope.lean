import Meshloom.Bytes

/-! The packet framing: `parse_packet_envelope` and `extract_payload` on bytes,
and the frontend's `extractPacketPayloadHex` on the hexadecimal text of a packet. -/
namespace Meshloom.Packet
open Bytes

def maxPathSize : Nat := 64

structure ParsedPacketEnvelope where
  header : Nat
  routeType : Nat
  payloadType : Nat
  payloadVersion : Nat
  pathByte : Nat
  hopCount : Nat
  hashSize : Nat
  pathByteLen : Nat
  path : List UInt8
  payload : List UInt8
  payloadOffset : Nat
  transportCodes : Option (Nat × Nat)
  deriving DecidableEq, Repr

/-- The format `02X`. -/
def formatByte (value : Nat) : String :=
  String.ofList (((Nat.toDigits 16 value).map Char.toUpper).leftpad 2 '0')

def decodePathByte (pathByte : Nat) : Except String (Nat × Nat) :=
  let hashMode := (pathByte >>> 6) &&& 0x03
  if hashMode = 3 then
    .error ("Reserved path hash mode 3 (path_byte=0x" ++ formatByte pathByte ++ ")")
  else .ok (pathByte &&& 0x3F, hashMode + 1)

def pathWireLen (hopCount hashSize : Nat) : Nat := hopCount * hashSize

def validatePathByte (pathByte : Nat) : Except String (Nat × Nat × Nat) := do
  let (hopCount, hashSize) ← decodePathByte pathByte
  let byteLen := pathWireLen hopCount hashSize
  if byteLen > maxPathSize then
    .error ("Invalid path length " ++ toString byteLen ++ " bytes exceeds MAX_PATH_SIZE=" ++
      toString maxPathSize)
  else .ok (hopCount, hashSize, byteLen)

/-- `route_type in (0x00, 0x03)`: the routes that carry transport codes. -/
def hasTransportCodes (routeType : Nat) : Bool := routeType == 0x00 || routeType == 0x03

/-- The optional transport-code block behind the header, with the offset of the
path byte. -/
def parseTransportCodes (rawPacket : List UInt8) (routeType : Nat) :
    Option (Nat × Option (Nat × Nat)) :=
  let offset := 1
  if hasTransportCodes routeType then
    if rawPacket.length < offset + 4 then none
    else some (offset + 4,
      some (fromLittleEndian ((rawPacket.drop offset).take 2),
        fromLittleEndian ((rawPacket.drop (offset + 2)).take 2)))
  else some (offset, none)

/-- `parse_packet_envelope`. The `IndexError` and `ValueError` that it catches
are the missing elements and the errors that end the computation here. -/
def parsePacketEnvelope (rawPacket : List UInt8) : Option ParsedPacketEnvelope := do
  guard (2 ≤ rawPacket.length)
  let header := (← rawPacket[0]?).toNat
  let routeType := header &&& 0x03
  let (offset, transportCodes) ← parseTransportCodes rawPacket routeType
  guard (offset + 1 ≤ rawPacket.length)
  let pathByte := (← rawPacket[offset]?).toNat
  let offset := offset + 1
  let (hopCount, hashSize, pathByteLen) ← (validatePathByte pathByte).toOption
  guard (offset + pathByteLen ≤ rawPacket.length)
  let path := (rawPacket.drop offset).take pathByteLen
  let offset := offset + pathByteLen
  guard (offset < rawPacket.length)
  return {
    header, routeType
    payloadType := (header >>> 2) &&& 0x0F
    payloadVersion := (header >>> 6) &&& 0x03
    pathByte, hopCount, hashSize, pathByteLen, path
    payload := rawPacket.drop offset
    payloadOffset := offset
    transportCodes }

def extractPayload (rawPacket : List UInt8) : Option (List UInt8) :=
  (parsePacketEnvelope rawPacket).map (·.payload)

/-- The characters that `parseInt` skips before the number. -/
def isStrWhiteSpace (c : Char) : Bool :=
  c.toNat ∈ [0x09, 0x0A, 0x0B, 0x0C, 0x0D, 0x20, 0xA0, 0x1680, 0x2028, 0x2029, 0x202F, 0x205F,
    0x3000, 0xFEFF] || (0x2000 ≤ c.toNat && c.toNat ≤ 0x200A)

/-- `parseInt(text, 16)`, where `none` stands for `NaN`. -/
def parseInt16 (text : List Char) : Option Int :=
  let text := text.dropWhile isStrWhiteSpace
  let (sign, text) : Int × List Char := match text with
    | '-' :: rest => (-1, rest)
    | '+' :: rest => (1, rest)
    | _ => (1, text)
  let text := match text with
    | '0' :: 'x' :: rest => rest
    | '0' :: 'X' :: rest => rest
    | _ => text
  match (text.takeWhile fun c => (hexValue c).isSome).filterMap hexValue with
  | [] => none
  | digits => some (sign * Nat.ofDigits 16 digits.reverse)

/-- The operand that a bitwise operator makes of a number; `NaN` becomes zero. -/
def toInt32 (number : Option Int) : BitVec 32 := BitVec.ofInt 32 (number.getD 0)

def maxPathBytes : Nat := 64

/-- The offset of the path byte's two characters. -/
def skipTransportCodes (normalized : List Char) (routeType : BitVec 32) : Option Nat :=
  let offset := 2
  if routeType = 0x00 ∨ routeType = 0x03 then
    if normalized.length < offset + 8 then none else some (offset + 8)
  else some offset

/-- `extractPacketPayloadHex`, with `none` for `null`. -/
def extractPacketPayloadHex (packetHex : List Char) : Option (List Char) := do
  guard (4 ≤ packetHex.length)
  let normalized := packetHex.map Char.toUpper
  let header := toInt32 (parseInt16 (normalized.take 2))
  let routeType := header &&& 0x03
  let offset ← skipTransportCodes normalized routeType
  guard (offset + 2 ≤ normalized.length)
  let pathByte := toInt32 (parseInt16 ((normalized.drop offset).take 2))
  let offset := offset + 2
  let hashMode := pathByte.sshiftRight 6 &&& 0x03
  guard (hashMode ≠ 0x03)
  let hopCount := (pathByte &&& 0x3f).toNat
  let hashSize := hashMode.toNat + 1
  let pathByteLen := hopCount * hashSize
  guard (pathByteLen ≤ maxPathBytes)
  let pathHexChars := pathByteLen * 2
  guard (offset + pathHexChars ≤ normalized.length)
  let offset := offset + pathHexChars
  guard (offset < normalized.length)
  return normalized.drop offset

end Meshloom.Packet
