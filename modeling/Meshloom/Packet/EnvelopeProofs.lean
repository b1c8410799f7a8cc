import Meshloom.Packet.Envelope

/-! The grammar of a packet, its parser, and the agreement of the two parsers. -/
namespace Meshloom.Packet
open Bytes

theorem hashMode_byte (byte : UInt8) : (byte.toNat >>> 6) &&& 0x03 = byte.toNat >>> 6 := by
  have bound := byte.toNat_lt
  rw [Nat.and_two_pow_sub_one_eq_mod _ 2, Nat.shiftRight_eq_div_pow]
  omega

theorem validatePathByte_ok (usable : (pathByte >>> 6) &&& 0x03 ≠ 3)
    (short : (pathByte &&& 0x3F) * (((pathByte >>> 6) &&& 0x03) + 1) ≤ maxPathSize) :
    validatePathByte pathByte =
      .ok (pathByte &&& 0x3F, ((pathByte >>> 6) &&& 0x03) + 1,
        (pathByte &&& 0x3F) * (((pathByte >>> 6) &&& 0x03) + 1)) := by
  simp only [validatePathByte, decodePathByte, if_neg usable, pathWireLen]
  exact if_neg (Nat.not_lt.mpr short)

theorem validatePathByte_cases (valid : validatePathByte pathByte = .ok (hopCount, hashSize, len)) :
    (pathByte >>> 6) &&& 0x03 ≠ 3 ∧ hopCount = pathByte &&& 0x3F ∧
      hashSize = ((pathByte >>> 6) &&& 0x03) + 1 ∧ len = hopCount * hashSize ∧
      len ≤ maxPathSize := by
  rcases eq_or_ne ((pathByte >>> 6) &&& 0x03) 3 with reserved | usable
  · simp [validatePathByte, decodePathByte, reserved, bind, Except.bind] at valid
  · rcases Nat.lt_or_ge maxPathSize ((pathByte &&& 0x3F) * (((pathByte >>> 6) &&& 0x03) + 1))
      with long | short
    · simp [validatePathByte, decodePathByte, usable, bind, Except.bind, pathWireLen, long] at valid
    · rw [validatePathByte_ok usable short] at valid
      cases valid
      exact ⟨usable, rfl, rfl, rfl, short⟩

/-- A packet taken apart: header, transport codes, path byte, path and payload,
each of the length that the ones before it call for. -/
@[ext]
structure Framing where
  header : UInt8
  transport : List UInt8
  pathByte : UInt8
  path : List UInt8
  payload : List UInt8
  transport_length : transport.length = if hasTransportCodes (header.toNat &&& 3) then 4 else 0
  usable : pathByte.toNat >>> 6 ≠ 3
  path_length : path.length = (pathByte.toNat &&& 63) * ((pathByte.toNat >>> 6) + 1)
  path_short : path.length ≤ 64
  payload_nonempty : payload ≠ []

namespace Framing

def bytes (f : Framing) : List UInt8 :=
  f.header :: f.transport ++ f.pathByte :: f.path ++ f.payload

/-- The fields that the parser reports. -/
def envelope (f : Framing) : ParsedPacketEnvelope where
  header := f.header.toNat
  routeType := f.header.toNat &&& 0x03
  payloadType := (f.header.toNat >>> 2) &&& 0x0F
  payloadVersion := (f.header.toNat >>> 6) &&& 0x03
  pathByte := f.pathByte.toNat
  hopCount := f.pathByte.toNat &&& 63
  hashSize := (f.pathByte.toNat >>> 6) + 1
  pathByteLen := f.path.length
  path := f.path
  payload := f.payload
  payloadOffset := 2 + f.transport.length + f.path.length
  transportCodes :=
    if hasTransportCodes (f.header.toNat &&& 3) then
      some (fromLittleEndian (f.transport.take 2), fromLittleEndian (f.transport.drop 2))
    else none

theorem validatePathByte_pathByte (f : Framing) :
    validatePathByte f.pathByte.toNat =
      .ok (f.pathByte.toNat &&& 63, (f.pathByte.toNat >>> 6) + 1, f.path.length) := by
  have mode := hashMode_byte f.pathByte
  have usable := f.usable
  have short := f.path_short
  rw [f.path_length] at short ⊢
  rw [← mode] at usable short
  rw [validatePathByte_ok usable short, mode]

theorem parseTransportCodes_bytes (f : Framing) :
    parseTransportCodes f.bytes (f.header.toNat &&& 3) =
      some (1 + f.transport.length, f.envelope.transportCodes) := by
  have length := f.transport_length
  cases codes : hasTransportCodes (f.header.toNat &&& 3) with
  | false =>
      rw [codes] at length
      simp_all [parseTransportCodes, envelope]
  | true =>
      rw [codes] at length
      match shape : f.transport, length with
      | [a, b, c, d], _ => simp [parseTransportCodes, envelope, codes, bytes, shape]

theorem parse_bytes (f : Framing) : parsePacketEnvelope f.bytes = some f.envelope := by
  have nonempty : 0 < f.payload.length := List.length_pos_iff.mpr f.payload_nonempty
  have length : f.bytes.length = 2 + f.transport.length + f.path.length + f.payload.length := by
    simp only [bytes, List.length_append, List.length_cons]
    omega
  have header : f.bytes[0]? = some f.header := rfl
  have behind : f.bytes.drop (1 + f.transport.length) = f.pathByte :: (f.path ++ f.payload) := by
    simp [bytes, Nat.add_comm 1]
  have pathByte : f.bytes[1 + f.transport.length]? = some f.pathByte := by
    rw [← List.head?_drop, behind]
    rfl
  have pathAndPayload : f.bytes.drop (1 + f.transport.length + 1) = f.path ++ f.payload := by
    rw [← List.drop_drop, behind]
    rfl
  have payload : f.bytes.drop (1 + f.transport.length + 1 + f.path.length) = f.payload := by
    rw [← List.drop_drop, pathAndPayload, List.drop_left]
  have long : 2 ≤ f.bytes.length := by omega
  have complete : 1 + f.transport.length + 1 + f.path.length < f.bytes.length := by omega
  simp only [parsePacketEnvelope, guard, if_pos long, header, Option.pure_def, Option.bind_eq_bind,
    Option.bind_some, parseTransportCodes_bytes, pathByte, validatePathByte_pathByte,
    Except.toOption, pathAndPayload, payload, List.take_left, if_pos complete,
    if_pos (Nat.le_of_lt complete),
    if_pos (show 1 + f.transport.length + 1 ≤ f.bytes.length by omega)]
  rw [envelope]
  congr 2
  omega

/-- The header decides where the path byte stands, and so on to the payload. -/
theorem bytes_injective : Function.Injective bytes := by
  intro f g same
  simp only [bytes, List.cons_append, List.append_assoc, List.cons.injEq] at same
  obtain ⟨header, rest⟩ := same
  have transports : f.transport.length = g.transport.length := by
    rw [f.transport_length, g.transport_length, header]
  obtain ⟨transport, rest⟩ := List.append_inj rest transports
  obtain ⟨pathByte, rest⟩ := List.cons.inj rest
  have paths : f.path.length = g.path.length := by
    rw [f.path_length, g.path_length, pathByte]
  obtain ⟨path, payload⟩ := List.append_inj rest paths
  exact Framing.ext header transport pathByte path payload

end Framing

theorem guard_some [Decidable p] (passed : (guard p : Option Unit) = some u) : p := by
  by_contra failed
  simp [guard, failed] at passed

theorem parseTransportCodes_offset
    (located : parseTransportCodes raw routeType = some (offset, codes)) :
    offset = 1 + if hasTransportCodes routeType then 4 else 0 := by
  simp only [parseTransportCodes] at located
  split at located
  · rename_i coded
    split at located
    · contradiction
    · cases located
      rw [if_pos coded]
  · rename_i plain
    cases located
    rw [if_neg plain]

/-- Whatever the parser accepts has a framing. -/
theorem framing_of_parse (parsed : parsePacketEnvelope raw = some envelope) :
    ∃ f : Framing, f.bytes = raw := by
  simp only [parsePacketEnvelope, Option.bind_eq_bind, Option.bind_eq_some_iff] at parsed
  obtain ⟨_, _, header, headed, ⟨offset, codes⟩, located, _, _, pathByte, found,
    ⟨hopCount, hashSize, len⟩, valid, _, fits, _, remains, _⟩ := parsed
  have place := parseTransportCodes_offset located
  have remains := guard_some remains
  simp only at place found remains
  have valid : validatePathByte pathByte.toNat = .ok (hopCount, hashSize, len) := by
    cases checked : validatePathByte pathByte.toNat with
    | error text => simp [checked, Except.toOption] at valid
    | ok fields => simpa [checked, Except.toOption] using valid
  obtain ⟨usable, hops, size, wire, short⟩ := validatePathByte_cases valid
  rw [hashMode_byte] at usable size
  have inside := (List.getElem?_eq_some_iff.mp found).1
  have split : raw = header :: (raw.drop 1).take (offset - 1) ++
      pathByte :: (raw.drop (offset + 1)).take len ++ raw.drop (offset + 1 + len) := by
    have front : raw = header :: raw.drop 1 := by
      cases raw with
      | nil => contradiction
      | cons byte rest => simpa using headed
    have middle : raw.drop offset = pathByte :: raw.drop (offset + 1) := by
      rw [List.drop_eq_getElem_cons inside, (List.getElem?_eq_some_iff.mp found).2]
    have back : (raw.drop 1).drop (offset - 1) = raw.drop offset := by
      rw [List.drop_drop]
      congr 1
      omega
    calc raw = header :: ((raw.drop 1).take (offset - 1) ++ (raw.drop 1).drop (offset - 1)) := by
          rw [List.take_append_drop]
          exact front
      _ = header :: ((raw.drop 1).take (offset - 1) ++
          pathByte :: ((raw.drop (offset + 1)).take len ++ (raw.drop (offset + 1)).drop len)) := by
          rw [back, middle, List.take_append_drop]
      _ = _ := by simp only [List.drop_drop, List.cons_append, List.append_assoc]
  have pathLength : ((raw.drop (offset + 1)).take len).length = len := by
    rw [List.length_take, List.length_drop]
    omega
  refine ⟨⟨header, (raw.drop 1).take (offset - 1), pathByte, (raw.drop (offset + 1)).take len,
    raw.drop (offset + 1 + len), ?_, usable, ?_, ?_, ?_⟩, split.symm⟩
  · rw [List.length_take, List.length_drop]
    omega
  · rw [pathLength, wire, hops, size]
  · rw [pathLength]
    exact short
  · intro empty
    rw [List.drop_eq_nil_iff] at empty
    omega

/-- The bytes that the fields of an envelope stand for. -/
def ParsedPacketEnvelope.bytes (envelope : ParsedPacketEnvelope) : List UInt8 :=
  let transport := match envelope.transportCodes with
    | none => []
    | some (code1, code2) => toLittleEndian 2 code1 ++ toLittleEndian 2 code2
  UInt8.ofNat envelope.header :: transport ++ UInt8.ofNat envelope.pathByte ::
    envelope.path ++ envelope.payload

theorem Framing.envelope_bytes (f : Framing) : f.envelope.bytes = f.bytes := by
  have length := f.transport_length
  cases codes : hasTransportCodes (f.header.toNat &&& 3) with
  | false =>
      rw [codes] at length
      have empty : f.transport = [] := by simpa using length
      simp [ParsedPacketEnvelope.bytes, envelope, codes, bytes, empty]
  | true =>
      rw [codes] at length
      match shape : f.transport, length with
      | [a, b, c, d], _ =>
          have first : toLittleEndian 2 (fromLittleEndian [a, b]) = [a, b] :=
            toLittleEndian_fromLittleEndian [a, b]
          have second : toLittleEndian 2 (fromLittleEndian [c, d]) = [c, d] :=
            toLittleEndian_fromLittleEndian [c, d]
          simp [ParsedPacketEnvelope.bytes, envelope, codes, bytes, shape, first, second]

/-- `hex()` in upper case. -/
def upperHex (bytes : List UInt8) : List Char := (toHex bytes).map Char.toUpper

@[simp]
theorem length_upperHex (bytes : List UInt8) : (upperHex bytes).length = 2 * bytes.length := by
  rw [upperHex, List.length_map, length_toHex]

theorem drop_upperHex (n : Nat) (bytes : List UInt8) :
    (upperHex bytes).drop (2 * n) = upperHex (bytes.drop n) := by
  rw [upperHex, ← List.map_drop, drop_toHex, upperHex]

theorem parseInt16_digits : ∀ high < 16, ∀ low < 16,
    parseInt16 [(hexDigit high).toUpper, (hexDigit low).toUpper] = some (16 * high + low : Nat) := by
  decide +kernel

/-- Two characters at an even offset are the byte at half of it. -/
theorem parseInt16_upperHex (bytes : List UInt8) (index : Nat) (found : bytes[index]? = some byte) :
    parseInt16 (((upperHex bytes).drop (2 * index)).take 2) = some (byte.toNat : Int) := by
  have bound := byte.toNat_lt
  obtain ⟨inside, value⟩ := List.getElem?_eq_some_iff.mp found
  have digits := parseInt16_digits (byte.toNat / 16) (by omega) (byte.toNat % 16) (by omega)
  rw [Nat.div_add_mod] at digits
  rw [drop_upperHex, List.drop_eq_getElem_cons inside, value, upperHex, toHex_cons]
  exact digits

theorem toInt32_routeType : ∀ byte < 256,
    (toInt32 (some (byte : Nat)) &&& 0x03 = 0x00 ∨ toInt32 (some (byte : Nat)) &&& 0x03 = 0x03) ↔
      hasTransportCodes (byte &&& 0x03) = true := by
  decide +kernel

theorem toInt32_hashMode : ∀ byte < 256,
    ((toInt32 (some (byte : Nat))).sshiftRight 6 &&& (0x03 : BitVec 32)).toNat =
      (byte >>> 6) &&& 0x03 := by
  decide +kernel

theorem toInt32_hopCount : ∀ byte < 256,
    (toInt32 (some (byte : Nat)) &&& 0x3f).toNat = byte &&& 0x3F := by
  decide +kernel

/-- The two parsers step over the same transport codes. -/
theorem skipTransportCodes_upperHex (header : UInt8) (raw : List UInt8) :
    skipTransportCodes (upperHex raw) (toInt32 (some (header.toNat : Int)) &&& 0x03) =
      (parseTransportCodes raw (header.toNat &&& 0x03)).map fun located => 2 * located.1 := by
  have routed := toInt32_routeType header.toNat header.toNat_lt
  simp only [skipTransportCodes, parseTransportCodes, length_upperHex]
  cases codes : hasTransportCodes (header.toNat &&& 0x03) with
  | false =>
      rw [if_neg (by rw [routed, codes]; decide), if_neg (by decide)]
      rfl
  | true =>
      rw [if_pos (routed.mpr codes), if_pos rfl]
      rcases Nat.lt_or_ge raw.length 5 with short | long
      · rw [if_pos (by omega), if_pos short]
        rfl
      · rw [if_neg (by omega), if_neg (by omega)]
        rfl

theorem extractPacketPayloadHex_eq (normal : packetHex.map Char.toUpper = upperHex raw) :
    extractPacketPayloadHex packetHex = (extractPayload raw).map upperHex := by
  have length : packetHex.length = 2 * raw.length := by
    rw [← List.length_map Char.toUpper, normal, length_upperHex]
  rcases Nat.lt_or_ge raw.length 2 with tiny | long
  · simp [extractPacketPayloadHex, extractPayload, parsePacketEnvelope, guard, length,
      show ¬ 2 ≤ raw.length by omega, show ¬ 4 ≤ 2 * raw.length by omega]
  obtain ⟨header, headed⟩ : ∃ header, raw[0]? = some header := by
    exact ⟨raw[0], List.getElem?_eq_getElem _⟩
  have first := parseInt16_upperHex raw 0 headed
  simp only [Nat.mul_zero, List.drop_zero] at first
  simp only [extractPacketPayloadHex, extractPayload, parsePacketEnvelope, guard, length, normal,
    first, headed, if_pos long, if_pos (show 4 ≤ 2 * raw.length by omega), Option.bind_eq_bind,
    Option.pure_def, Option.bind_some, length_upperHex,
    skipTransportCodes_upperHex]
  rcases parseTransportCodes raw (header.toNat &&& 0x03) with _ | ⟨offset, codes⟩
  · rfl
  simp only [Option.map_some, Option.bind_some]
  rcases Nat.lt_or_ge raw.length (offset + 1) with short | inside
  · simp [show ¬ offset + 1 ≤ raw.length by omega, show ¬ 2 * offset + 2 ≤ 2 * raw.length by omega]
  obtain ⟨pathByte, found⟩ : ∃ pathByte, raw[offset]? = some pathByte :=
    ⟨raw[offset], List.getElem?_eq_getElem _⟩
  have bound := pathByte.toNat_lt
  simp only [if_pos inside, if_pos (show 2 * offset + 2 ≤ 2 * raw.length by omega), found,
    Option.bind_some, parseInt16_upperHex raw offset found, toInt32_hashMode _ bound,
    toInt32_hopCount _ bound, ne_eq, ← BitVec.toNat_inj]
  rcases eq_or_ne ((pathByte.toNat >>> 6) &&& 0x03) 3 with reserved | usable
  · simp [validatePathByte, decodePathByte, reserved, bind, Except.bind, Except.toOption]
  rcases Nat.lt_or_ge maxPathSize
    ((pathByte.toNat &&& 0x3F) * (((pathByte.toNat >>> 6) &&& 0x03) + 1)) with oversized | fits
  · simp [validatePathByte, decodePathByte, usable, bind, Except.bind, Except.toOption, pathWireLen,
      oversized, show ¬ _ ≤ maxPathBytes from Nat.not_le.mpr oversized]
  rw [validatePathByte_ok usable fits]
  generalize (pathByte.toNat &&& 0x3F) * (((pathByte.toNat >>> 6) &&& 0x03) + 1) = len at fits
  have payload : (upperHex raw).drop (2 * offset + 2 + len * 2) =
      upperHex (raw.drop (offset + 1 + len)) := by
    rw [← drop_upperHex]
    congr 1
    omega
  rcases Nat.lt_or_ge (offset + 1 + len) raw.length with remains | exhausted
  · simp [Except.toOption, usable, show len ≤ maxPathBytes from fits, remains, payload,
      Nat.le_of_lt remains, show 2 * offset + 2 + len * 2 < 2 * raw.length by omega,
      show 2 * offset + 2 + len * 2 ≤ 2 * raw.length by omega]
  · simp [Except.toOption, usable, show ¬ offset + 1 + len < raw.length by omega,
      show ¬ 2 * offset + 2 + len * 2 < 2 * raw.length by omega]

/-- The parser accepts the packets that have a framing and reports the fields of
the only one; the frontend cuts the payload out of the packet's text at the same
place. -/
theorem packet_grammar (raw : List UInt8) :
    ((parsePacketEnvelope raw).isSome ↔ ∃ f : Framing, f.bytes = raw) ∧
    (∀ envelope, parsePacketEnvelope raw = some envelope →
      (∃ f : Framing, f.bytes = raw ∧ envelope = f.envelope ∧ ∀ g : Framing, g.bytes = raw → g = f) ∧
      envelope.bytes = raw ∧ envelope.hopCount * envelope.hashSize = envelope.path.length) ∧
    (extractPacketPayloadHex (toHex raw) = none ↔ extractPayload raw = none) ∧
    ∀ payload, extractPayload raw = some payload →
      extractPacketPayloadHex (toHex raw) = some (upperHex payload) := by
  have text : extractPacketPayloadHex (toHex raw) = (extractPayload raw).map upperHex :=
    extractPacketPayloadHex_eq rfl
  refine ⟨⟨?_, ?_⟩, ?_, ?_, ?_⟩
  · intro accepted
    obtain ⟨envelope, parsed⟩ := Option.isSome_iff_exists.mp accepted
    exact framing_of_parse parsed
  · rintro ⟨f, rfl⟩
    rw [f.parse_bytes]
    rfl
  · intro envelope parsed
    obtain ⟨f, rfl⟩ := framing_of_parse parsed
    rw [f.parse_bytes, Option.some.injEq] at parsed
    subst parsed
    exact ⟨⟨f, rfl, rfl, fun g same => Framing.bytes_injective same⟩, f.envelope_bytes,
      f.path_length.symm⟩
  · rw [text, Option.map_eq_none_iff]
  · intro payload found
    rw [text, found, Option.map_some]

end Meshloom.Packet
