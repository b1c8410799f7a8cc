import Meshloom.Packet.EnvelopeProofs
import Meshloom.Packet.GroupData

/-! The two decryptions of group data agree on what both take for a packet. The
frontend differs where the bytes it is given read as a packet and as an envelope. -/
namespace Meshloom.Packet
open Bytes
variable {crypto : ChannelCrypto} {library : Frontend.Cracker crypto} {key : ChannelKey} {keyText : List Char}

theorem toHex_digits (bytes : List UInt8) : ∀ c ∈ toHex bytes, ∃ n < 16, c = hexDigit n := by
  induction bytes with
  | nil => simp
  | cons byte rest ih =>
      have bound := byte.toNat_lt
      intro c member
      simp only [toHex_cons, List.mem_cons] at member
      obtain rfl | rfl | member := member
      · exact ⟨_, by omega, rfl⟩
      · exact ⟨_, by omega, rfl⟩
      · exact ih c member

namespace Frontend

/-- A character that normalization leaves where it is. -/
def plainChar (c : Char) : Bool := !isStrWhiteSpace c && c ≠ ':' && c ≠ 'x' && c ≠ 'X'

def Plain (text : List Char) : Prop := ∀ c ∈ text, plainChar c = true

theorem hexDigit_plainChar : ∀ n < 16, plainChar (hexDigit n) = true ∧
    plainChar (hexDigit n).toUpper = true ∧ hexValue (hexDigit n).toUpper = some n := by
  decide

theorem Plain.solid {text : List Char} (plain : Plain text) :
    ∀ c ∈ text, isStrWhiteSpace c = false ∧ c ≠ ':' ∧ c ≠ 'x' ∧ c ≠ 'X' := by
  intro c member
  simpa [plainChar, and_assoc] using plain c member

theorem Plain.trim {text : List Char} (plain : Plain text) : trim text = text := by
  have front : text.dropWhile isStrWhiteSpace = text := by
    cases text with
    | nil => rfl
    | cons c rest => simp [(plain.solid c List.mem_cons_self).1]
  rw [Frontend.trim, front, List.rdropWhile_eq_self_iff]
  intro nonempty
  simp [(plain.solid _ (List.getLast_mem nonempty)).1]

theorem Plain.squeeze {text : List Char} (plain : Plain text) : squeeze text = text := by
  rw [Frontend.squeeze, List.filter_eq_self]
  intro c member
  obtain ⟨solid, other, -⟩ := plain.solid c member
  simp [solid, other]

theorem Plain.unmark {text : List Char} (plain : Plain text) : unmark text = text := by
  unfold Frontend.unmark
  split
  · exact absurd rfl (plain.solid 'x' (by simp)).2.2.1
  · exact absurd rfl (plain.solid 'X' (by simp)).2.2.2
  · rfl

theorem plain_toHex (bytes : List UInt8) : Plain (toHex bytes) := by
  intro c member
  obtain ⟨n, small, rfl⟩ := toHex_digits bytes c member
  exact (hexDigit_plainChar n small).1

theorem plain_upperHex (bytes : List UInt8) : Plain (upperHex bytes) := by
  intro c member
  obtain ⟨d, listed, rfl⟩ := List.mem_map.mp member
  obtain ⟨n, small, rfl⟩ := toHex_digits bytes d listed
  exact (hexDigit_plainChar n small).2.1

/-- Hexadecimal text that needs no normalization. -/
theorem hexToBytes_plain {text : List Char} (plain : Plain text) (nonempty : text ≠ [])
    (digits : ∀ c ∈ text, (hexValue c).isSome = true) (even : text.length % 2 = 0) :
    hexToBytes text = fromHex text := by
  have filled : text.length ≠ 0 := fun zero => nonempty (List.length_eq_zero_iff.mp zero)
  have accepted : ¬ (text.length = 0 ∨ text.length % 2 ≠ 0 ∨
      ¬ text.all (fun c => (hexValue c).isSome) = true) := by
    rintro (zero | odd | stray)
    · exact filled zero
    · exact odd even
    · exact stray (List.all_eq_true.mpr digits)
  simp only [hexToBytes, plain.trim, plain.unmark, plain.squeeze, if_neg accepted]

theorem toHex_valued (bytes : List UInt8) : ∀ c ∈ toHex bytes, (hexValue c).isSome = true := by
  intro c member
  obtain ⟨n, small, rfl⟩ := toHex_digits bytes c member
  rw [hexValue_hexDigit n small]
  rfl

theorem hexToBytes_toHex {bytes : List UInt8} (nonempty : bytes ≠ []) :
    hexToBytes (toHex bytes) = some bytes := by
  have filled : toHex bytes ≠ [] := by
    intro empty
    exact nonempty (toHex_injective (empty.trans toHex_nil.symm))
  rw [hexToBytes_plain (plain_toHex bytes) filled (toHex_valued bytes) (by simp), fromHex_toHex]

theorem fromHex_upperHex (bytes : List UInt8) : fromHex (upperHex bytes) = some bytes := by
  induction bytes with
  | nil => rfl
  | cons byte rest ih =>
      have bound := byte.toNat_lt
      have top : byte.toNat / 16 < 16 := by omega
      have bottom : byte.toNat % 16 < 16 := by omega
      have solid : ∀ n < 16, isAsciiSpace (hexDigit n).toUpper = false := by decide
      have value : UInt8.ofNat (16 * (byte.toNat / 16) + byte.toNat % 16) = byte := by
        rw [Nat.div_add_mod, UInt8.ofNat_toNat]
      simp only [upperHex] at ih
      simp only [upperHex, toHex_cons, List.map_cons, fromHex, solid _ top, Bool.false_eq_true, if_false,
        (hexDigit_plainChar _ top).2.2, (hexDigit_plainChar _ bottom).2.2, ih, Option.bind_eq_bind,
        Option.bind_some, value, Option.pure_def]

theorem hexToBytes_upperHex {bytes : List UInt8} (nonempty : bytes ≠ []) :
    hexToBytes (upperHex bytes) = some bytes := by
  have filled : upperHex bytes ≠ [] := by
    intro empty
    have length := congrArg List.length empty
    rw [length_upperHex, List.length_nil] at length
    exact nonempty (List.length_eq_zero_iff.mp (by omega))
  have digits : ∀ c ∈ upperHex bytes, (hexValue c).isSome = true := by
    intro c member
    obtain ⟨d, listed, rfl⟩ := List.mem_map.mp member
    obtain ⟨n, small, rfl⟩ := toHex_digits bytes d listed
    rw [(hexDigit_plainChar n small).2.2]
    rfl
  rw [hexToBytes_plain (plain_upperHex bytes) filled digits (by rw [length_upperHex]; omega),
    fromHex_upperHex]

/-- What both sides return of the plaintext. -/
def GroupDataPlaintext.content (p : GroupDataPlaintext) : Nat × Nat × List Char :=
  (p.dataType, p.dataLen, p.dataHex)

end Frontend

def ParsedGroupData.content (p : ParsedGroupData) : Nat × Nat × List Char :=
  (p.dataType, p.dataLen, toHex p.data)

theorem ParsedGroupData.content_injective : Function.Injective ParsedGroupData.content := by
  intro p q same
  obtain ⟨dataType, dataLen, data⟩ := p
  obtain ⟨dataType', dataLen', data'⟩ := q
  simp only [content, Prod.mk.injEq] at same
  obtain ⟨rfl, rfl, hex⟩ := same
  rw [toHex_injective hex]

namespace Frontend

theorem parseGroupDataPlaintext_content (plaintext : List UInt8) :
    (parseGroupDataPlaintext plaintext).map GroupDataPlaintext.content =
      (Packet.parseGroupData plaintext).map ParsedGroupData.content := by
  match plaintext with
  | [] | [_] | [_, _] => simp [parseGroupDataPlaintext, Packet.parseGroupData, guard]
  | first :: second :: third :: rest =>
      have bound := first.toNat_lt
      have dataType : first.toNat ||| (second.toNat <<< 8) = fromLittleEndian [first, second] := by
        rw [Nat.or_comm, ← Nat.shiftLeft_add_eq_or_of_lt bound, Nat.shiftLeft_eq]
        simp [fromLittleEndian, Nat.ofDigits_cons]
        omega
      by_cases short : (first :: second :: third :: rest).length < 3 + third.toNat
      · simp [parseGroupDataPlaintext, Packet.parseGroupData, guard,
          show ¬ 3 + third.toNat ≤ rest.length + 1 + 1 + 1 by simpa using short]
      · simp [parseGroupDataPlaintext, Packet.parseGroupData, guard, dataType,
          show 3 + third.toNat ≤ rest.length + 1 + 1 + 1 by simpa using short,
          GroupDataPlaintext.content, ParsedGroupData.content]

end Frontend

theorem length_channelMac (crypto : ChannelCrypto) (key ciphertext : List UInt8) :
    (crypto.channelMac key ciphertext).length = 2 := by
  rw [ChannelCrypto.channelMac, List.length_take, crypto.hmacSha256_length]
  rfl

/-- The payload is the envelope of a ciphertext under the key, and the plaintext
parses as given. -/
def EnvelopeOf (crypto : ChannelCrypto) (key : ChannelKey) (payload : List UInt8)
    (parsed : ParsedGroupData) : Prop :=
  ∃ ciphertext, ciphertext ≠ [] ∧ ciphertext.length % 16 = 0 ∧
    payload = crypto.envelope key ciphertext ∧
    parseGroupData (crypto.aesEcbDecrypt key.bytes ciphertext) = some parsed

/-- The checks of an envelope: hash, whole blocks, MAC. -/
def Sealed (crypto : ChannelCrypto) (key : ChannelKey) (first second third : UInt8)
    (ciphertext : List UInt8) : Prop :=
  first = crypto.channelHash key.bytes ∧ (ciphertext ≠ [] ∧ ciphertext.length % 16 = 0) ∧
    crypto.channelMac key.bytes ciphertext = [second, third]

theorem openGroupData_sealed {first second third : UInt8} {ciphertext : List UInt8}
    (valid : Sealed crypto key first second third ciphertext) :
    openGroupData crypto (first :: second :: third :: ciphertext) key =
      parseGroupData (crypto.aesEcbDecrypt key.bytes ciphertext) := by
  obtain ⟨rfl, blocks, mac⟩ := valid
  simp [openGroupData, decryptChannelBlob, guard, blocks, mac]

theorem openGroupData_unsealed {first second third : UInt8} {ciphertext : List UInt8}
    (invalid : ¬ Sealed crypto key first second third ciphertext) :
    openGroupData crypto (first :: second :: third :: ciphertext) key = none := by
  by_cases hash : first = crypto.channelHash key.bytes
  · by_cases blocks : ciphertext ≠ [] ∧ ciphertext.length % 16 = 0
    · have mac : crypto.channelMac key.bytes ciphertext ≠ [second, third] :=
        fun same => invalid ⟨hash, blocks, same⟩
      simp [openGroupData, decryptChannelBlob, guard, mac]
    · simp [openGroupData, decryptChannelBlob, guard, if_neg blocks]
  · simp [openGroupData, guard, hash]

theorem openGroupData_short {payload : List UInt8} (short : payload.length < 3) :
    openGroupData crypto payload key = none := by
  cases head : payload.head? with
  | none => simp [openGroupData, head]
  | some first => simp [openGroupData, decryptChannelBlob, head, guard, Nat.not_le.mpr short]

theorem openGroupData_eq_some {payload : List UInt8} {parsed : ParsedGroupData} :
    openGroupData crypto payload key = some parsed ↔ EnvelopeOf crypto key payload parsed := by
  constructor
  · intro opened
    match payload with
    | [] | [_] | [_, _] =>
        rw [openGroupData_short (by simp)] at opened
        contradiction
    | first :: second :: third :: ciphertext =>
        by_cases valid : Sealed crypto key first second third ciphertext
        · rw [openGroupData_sealed valid] at opened
          obtain ⟨rfl, blocks, mac⟩ := valid
          refine ⟨ciphertext, blocks.1, blocks.2, ?_, opened⟩
          rw [ChannelCrypto.envelope, mac]
          rfl
        · rw [openGroupData_unsealed valid] at opened
          contradiction
  · rintro ⟨ciphertext, nonempty, blocks, rfl, parses⟩
    have two := length_channelMac crypto key.bytes ciphertext
    obtain ⟨second, third, mac⟩ := List.length_eq_two.mp two
    rw [ChannelCrypto.envelope, mac, List.cons_append, List.cons_append, List.nil_append,
      openGroupData_sealed ⟨rfl, ⟨nonempty, blocks⟩, mac⟩, parses]

namespace Frontend

/-- With one key, the frontend opens an envelope as the backend does. -/
theorem decryptEnvelope_content (named : normalizeChannelKey keyText = some (toHex key.bytes))
    (payload : List UInt8) :
    (decryptEnvelope crypto library payload [keyText]).map GroupDataPlaintext.content =
      (openGroupData crypto payload key).map ParsedGroupData.content := by
  have bytes : key.bytes ≠ [] := by
    intro empty
    have size := key.size
    rw [empty] at size
    contradiction
  match payload with
  | [] | [_] | [_, _] =>
      rw [openGroupData_short (by simp)]
      rfl
  | first :: second :: third :: ciphertext =>
      have hash : library.getChannelHash (toHex key.bytes) = toHex [first] ↔
          first = crypto.channelHash key.bytes := by
        rw [library.hash]
        exact toHex_injective.eq_iff.trans (by simp [eq_comm])
      have mac := library.mac ciphertext [second, third] key.bytes
      by_cases blocks : ciphertext ≠ [] ∧ ciphertext.length % 16 = 0
      · have whole : ¬ (ciphertext.length = 0 ∨ ciphertext.length % 16 ≠ 0) := by
          simpa [List.length_eq_zero_iff] using blocks
        simp only [decryptEnvelope, if_neg whole, List.findSome?_cons, List.findSome?_nil, named,
          Option.bind_eq_bind, Option.bind_some, hexToBytes_toHex bytes, guard, hash, mac]
        by_cases valid : Sealed crypto key first second third ciphertext
        · rw [openGroupData_sealed valid, ← parseGroupDataPlaintext_content]
          simp only [valid.1, valid.2.2, if_true, Option.pure_def, Option.bind_some]
          cases parseGroupDataPlaintext (crypto.aesEcbDecrypt key.bytes ciphertext) <;> rfl
        · rw [openGroupData_unsealed valid]
          by_cases same : first = crypto.channelHash key.bytes
          · have other : ¬ crypto.channelMac key.bytes ciphertext = [second, third] :=
              fun equal => valid ⟨same, blocks, equal⟩
            simp [same, other]
          · simp [same]
      · have ragged : ciphertext.length = 0 ∨ ciphertext.length % 16 ≠ 0 := by
          rw [List.length_eq_zero_iff]
          by_contra neither
          exact blocks (by simpa using neither)
        rw [openGroupData_unsealed (fun valid => blocks valid.2.1), decryptEnvelope, if_pos ragged]
        rfl

/-- The payload of a packet is not empty and leaves room for header and path byte. -/
theorem extractPayload_room {raw payload : List UInt8} (extracted : extractPayload raw = some payload) :
    payload ≠ [] ∧ payload.length ≤ raw.length - 2 := by
  obtain ⟨envelope, parsed, rfl⟩ := Option.map_eq_some_iff.mp extracted
  obtain ⟨f, rfl⟩ := framing_of_parse parsed
  rw [f.parse_bytes, Option.some.injEq] at parsed
  subst parsed
  refine ⟨f.payload_nonempty, ?_⟩
  simp only [Framing.bytes, Framing.envelope, List.length_cons, List.length_append]
  omega

theorem extracted_bytes (bytes : List UInt8) :
    (extractPacketPayloadHex (toHex bytes)).bind hexToBytes = extractPayload bytes := by
  rw [extractPacketPayloadHex_eq rfl]
  cases extracted : extractPayload bytes with
  | none => rfl
  | some payload =>
      rw [Option.map_some, Option.bind_some, hexToBytes_upperHex (extractPayload_room extracted).1]

/-- The bytes read as a group-data packet of a later version. -/
def NewerGroupData (bytes : List UInt8) : Prop :=
  ∃ header second rest, bytes = header :: second :: rest ∧ payloadTypeBits header = groupData ∧
    versionBits header ≠ 0

/-- The bytes read as a packet of another type. -/
def OtherPacket (bytes : List UInt8) : Prop :=
  ∃ header rest, bytes = header :: rest ∧ payloadTypeBits header ≠ groupData ∧
    (extractPayload bytes).isSome = true

/-- The bytes read as a group-data packet whose payload has the size of an envelope. -/
def GroupDataPacket (bytes payload : List UInt8) : Prop :=
  ∃ header rest, bytes = header :: rest ∧ payloadTypeBits header = groupData ∧
    versionBits header = 0 ∧ extractPayload bytes = some payload ∧ 3 ≤ payload.length ∧
    (payload.length - 3) % 16 = 0

theorem long_of_extractPayload {raw payload : List UInt8}
    (extracted : extractPayload raw = some payload) :
    ∃ header second rest, raw = header :: second :: rest := by
  obtain ⟨nonempty, room⟩ := extractPayload_room extracted
  have filled := List.length_pos_iff.mpr nonempty
  match raw with
  | [] | [_] =>
      simp only [List.length_cons, List.length_nil] at room
      omega
  | header :: second :: rest => exact ⟨header, second, rest, rfl⟩

section
variable {keys : List (List Char)} {bytes payload : List UInt8}

theorem parseGroupData_newer (newer : NewerGroupData bytes) :
    parseGroupData crypto library bytes keys = none := by
  obtain ⟨header, second, rest, rfl, type, version⟩ := newer
  simp [parseGroupData, extractGroupDataPayload, type, version]

theorem parseGroupData_packet (asked : keys ≠ []) (packet : GroupDataPacket bytes payload) :
    parseGroupData crypto library bytes keys = decryptEnvelope crypto library payload keys := by
  obtain ⟨_, _, rfl, type, version, extracted, long, blocks⟩ := packet
  obtain ⟨header, second, rest, same⟩ := long_of_extractPayload extracted
  cases same
  simp [parseGroupData, extractGroupDataPayload, type, version, extracted_bytes, extracted, blocks,
    Nat.not_lt.mpr long, asked]

theorem parseGroupData_other (other : OtherPacket bytes) :
    parseGroupData crypto library bytes keys = none := by
  obtain ⟨header, _, rfl, type, found⟩ := other
  obtain ⟨payload, extracted⟩ := Option.isSome_iff_exists.mp found
  obtain ⟨_, second, rest, same⟩ := long_of_extractPayload extracted
  cases same
  have room := (extractPayload_room extracted).2
  have rejected : isNonGroupDataMeshPacket (header :: second :: rest) = true := by
    simpa [isNonGroupDataMeshPacket, type, extracted_bytes, extracted] using room
  simp [parseGroupData, extractGroupDataPayload, type, rejected]

theorem parseGroupData_envelope (asked : keys ≠ []) (current : ¬ NewerGroupData bytes)
    (unframed : ∀ payload, ¬ GroupDataPacket bytes payload) (alone : ¬ OtherPacket bytes) :
    parseGroupData crypto library bytes keys = decryptEnvelope crypto library bytes keys := by
  match bytes with
  | [] | [_] =>
      simp [parseGroupData, extractGroupDataPayload, isNonGroupDataMeshPacket, asked]
  | header :: second :: rest =>
      by_cases type : payloadTypeBits header = groupData
      · have version : versionBits header = 0 := by
          by_contra later
          exact current ⟨header, second, rest, rfl, type, later⟩
        have null : extractGroupDataPayload (header :: second :: rest) = .null := by
          simp only [extractGroupDataPayload, type, version, ne_eq, not_true, if_false,
            extracted_bytes]
          cases extracted : extractPayload (header :: second :: rest) with
          | none => rfl
          | some payload =>
              by_cases sized : payload.length < 3 ∨ (payload.length - 3) % 16 ≠ 0
              · simp only [if_pos sized]
              · simp only [not_or, Nat.not_lt, not_not] at sized
                exact absurd ⟨header, second :: rest, rfl, type, version, extracted, sized⟩
                  (unframed payload)
        simp [parseGroupData, null, isNonGroupDataMeshPacket, type, asked]
      · have none : extractPayload (header :: second :: rest) = none := by
          by_contra found
          exact alone ⟨header, second :: rest, rfl, type, Option.isSome_iff_ne_none.mpr found⟩
        simp [parseGroupData, extractGroupDataPayload, isNonGroupDataMeshPacket, type,
          extracted_bytes, none, asked]

end

end Frontend
open Packet.Frontend (payloadTypeBits versionBits NewerGroupData OtherPacket GroupDataPacket)

/-- The backend on a packet of the group-data type. -/
theorem tryDecryptGroupData_eq {header : UInt8} {rest : List UInt8}
    (type : payloadTypeBits header = groupData) :
    tryDecryptGroupData crypto (header :: rest) key =
      if versionBits header = 0 then
        (extractPayload (header :: rest)).bind (openGroupData crypto · key) else none := by
  unfold tryDecryptGroupData parsePacket extractPayload
  cases parsed : parsePacketEnvelope (header :: rest) with
  | none => simp
  | some envelope =>
      obtain ⟨f, same⟩ := framing_of_parse parsed
      rw [← same, f.parse_bytes, Option.some.injEq] at parsed
      subst parsed
      obtain ⟨rfl, -⟩ := List.cons_eq_cons.mp same
      have typed : f.envelope.payloadType = groupData := type
      have known : groupData ∈ payloadTypes := by decide
      have version : f.envelope.payloadVersion = versionBits f.header := rfl
      simp only [Option.filter_some, typed, known, decide_true, if_true, Option.bind_eq_bind,
        Option.bind_some, guard, version, Option.map_some]
      split
      · rfl
      · rfl

theorem openGroupData_ragged {payload : List UInt8}
    (ragged : payload.length < 3 ∨ (payload.length - 3) % 16 ≠ 0) :
    openGroupData crypto payload key = none := by
  match payload with
  | [] | [_] | [_, _] => exact openGroupData_short (by simp)
  | first :: second :: third :: ciphertext =>
      apply openGroupData_unsealed
      rintro ⟨-, blocks, -⟩
      simp only [List.length_cons] at ragged
      omega

/-- With one key, the frontend opens an envelope unless it reads as a packet: of
another type, of a later version, or with a payload that does not open to the same. -/
theorem envelope_opens_iff (named : Frontend.normalizeChannelKey keyText = some (toHex key.bytes))
    {bytes : List UInt8} {parsed : ParsedGroupData} (sealed : EnvelopeOf crypto key bytes parsed) :
    (Frontend.parseGroupData crypto library bytes [keyText]).map Frontend.GroupDataPlaintext.content =
        some parsed.content ↔
      ¬ NewerGroupData bytes ∧ ¬ OtherPacket bytes ∧
        ∀ payload, GroupDataPacket bytes payload → EnvelopeOf crypto key payload parsed := by
  have asked : [keyText] ≠ [] := List.cons_ne_nil _ _
  constructor
  · intro returned
    refine ⟨?_, ?_, ?_⟩
    · intro newer
      rw [Frontend.parseGroupData_newer newer] at returned
      contradiction
    · intro other
      rw [Frontend.parseGroupData_other other] at returned
      contradiction
    · intro payload packet
      rw [Frontend.parseGroupData_packet asked packet, Frontend.decryptEnvelope_content named]
        at returned
      obtain ⟨inner, opened, same⟩ := Option.map_eq_some_iff.mp returned
      rw [ParsedGroupData.content_injective same] at opened
      exact openGroupData_eq_some.mp opened
  · rintro ⟨current, alone, inside⟩
    by_cases framed : ∃ payload, GroupDataPacket bytes payload
    · obtain ⟨payload, packet⟩ := framed
      rw [Frontend.parseGroupData_packet asked packet, Frontend.decryptEnvelope_content named,
        openGroupData_eq_some.mpr (inside payload packet), Option.map_some]
    · rw [Frontend.parseGroupData_envelope asked current (not_exists.mp framed) alone,
        Frontend.decryptEnvelope_content named, openGroupData_eq_some.mpr sealed, Option.map_some]

theorem tryDecryptGroupData_unframed {header : UInt8} {rest : List UInt8}
    (type : payloadTypeBits header = groupData)
    (unframed : ∀ payload, ¬ GroupDataPacket (header :: rest) payload) :
    tryDecryptGroupData crypto (header :: rest) key = none := by
  rw [tryDecryptGroupData_eq type]
  split
  · rename_i version
    cases extracted : extractPayload (header :: rest) with
    | none => rfl
    | some payload =>
        rw [Option.bind_some]
        apply openGroupData_ragged
        by_contra sized
        simp only [not_or, Nat.not_lt, not_not] at sized
        exact unframed payload ⟨header, rest, rfl, type, version, extracted, sized⟩
  · rfl

/-- On a group-data packet the two agree unless it has no payload of whole blocks and
is itself an envelope. -/
theorem packet_agrees_iff (named : Frontend.normalizeChannelKey keyText = some (toHex key.bytes))
    {header : UInt8} {rest : List UInt8} (type : payloadTypeBits header = groupData) :
    (Frontend.parseGroupData crypto library (header :: rest) [keyText]).map
        Frontend.GroupDataPlaintext.content =
        (tryDecryptGroupData crypto (header :: rest) key).map ParsedGroupData.content ↔
      NewerGroupData (header :: rest) ∨ (∃ payload, GroupDataPacket (header :: rest) payload) ∨
        ∀ parsed, ¬ EnvelopeOf crypto key (header :: rest) parsed := by
  have asked : [keyText] ≠ [] := List.cons_ne_nil _ _
  by_cases newer : NewerGroupData (header :: rest)
  · have refused : tryDecryptGroupData crypto (header :: rest) key = none := by
      obtain ⟨_, _, _, same, -, version⟩ := newer
      cases same
      rw [tryDecryptGroupData_eq type, if_neg version]
    rw [Frontend.parseGroupData_newer newer, refused]
    exact iff_of_true rfl (.inl newer)
  by_cases framed : ∃ payload, GroupDataPacket (header :: rest) payload
  · obtain ⟨payload, packet⟩ := framed
    rw [Frontend.parseGroupData_packet asked packet, Frontend.decryptEnvelope_content named]
    obtain ⟨_, _, same, -, version, extracted, -⟩ := id packet
    cases same
    rw [tryDecryptGroupData_eq type, if_pos version, extracted, Option.bind_some]
    exact iff_of_true rfl (.inr (.inl ⟨payload, packet⟩))
  · have alone : ¬ OtherPacket (header :: rest) := by
      rintro ⟨_, _, same, other, -⟩
      cases same
      exact other type
    rw [Frontend.parseGroupData_envelope asked newer (not_exists.mp framed) alone,
      Frontend.decryptEnvelope_content named, tryDecryptGroupData_unframed type (not_exists.mp framed),
      Option.map_none, Option.map_eq_none_iff]
    constructor
    · intro unopened
      refine .inr (.inr fun parsed sealed => ?_)
      rw [openGroupData_eq_some.mpr sealed] at unopened
      contradiction
    · rintro (later | packet | unsealed)
      · exact absurd later newer
      · exact absurd packet framed
      · rw [Option.eq_none_iff_forall_ne_some]
        intro parsed opened
        exact unsealed parsed (openGroupData_eq_some.mp opened)

/-- When the frontend opens the envelopes of a key, and when it agrees with the
backend on the packets. -/
theorem group_data_agrees_iff (crypto : ChannelCrypto) (library : Frontend.Cracker crypto)
    (named : Frontend.normalizeChannelKey keyText = some (toHex key.bytes)) :
    (∀ bytes parsed, EnvelopeOf crypto key bytes parsed →
      ((Frontend.parseGroupData crypto library bytes [keyText]).map Frontend.GroupDataPlaintext.content =
          some parsed.content ↔
        ¬ NewerGroupData bytes ∧ ¬ OtherPacket bytes ∧
          ∀ payload, GroupDataPacket bytes payload → EnvelopeOf crypto key payload parsed)) ∧
    ∀ header rest, payloadTypeBits header = groupData →
      ((Frontend.parseGroupData crypto library (header :: rest) [keyText]).map
          Frontend.GroupDataPlaintext.content =
          (tryDecryptGroupData crypto (header :: rest) key).map ParsedGroupData.content ↔
        NewerGroupData (header :: rest) ∨ (∃ payload, GroupDataPacket (header :: rest) payload) ∨
          ∀ parsed, ¬ EnvelopeOf crypto key (header :: rest) parsed) :=
  ⟨fun _ _ sealed => envelope_opens_iff named sealed, fun _ _ type => packet_agrees_iff named type⟩

/-- The library as it is documented. -/
def Frontend.cracker (crypto : ChannelCrypto) : Frontend.Cracker crypto where
  getChannelHash keyHex := toHex [crypto.channelHash ((fromHex keyHex).getD [])]
  hash key := by rw [fromHex_toHex, Option.getD_some]
  verifyMac ciphertextHex macHex keyHex :=
    toHex (crypto.channelMac ((fromHex keyHex).getD []) ((fromHex ciphertextHex).getD [])) = macHex
  mac ciphertext mac key := by
    simp only [fromHex_toHex, Option.getD_some, decide_eq_true_eq]
    exact toHex_injective.eq_iff

/-- A row of the sample: a key with its hash, a ciphertext with its MAC and plaintext. -/
structure Sample where
  key : List UInt8
  sha256 : List UInt8
  ciphertext : List UInt8
  hmac : List UInt8
  plaintext : List UInt8
  sha256_length : sha256.length = 32
  hmac_length : hmac.length = 32

def hexBytes (text : String) : List UInt8 := (fromHex text.toList).getD []

/-- The primitives, with their values on the sample. -/
def Sample.primitives (sample : Sample) : ChannelCrypto where
  sha256 data := if data = sample.key then sample.sha256 else List.replicate 32 0
  sha256_length data := by
    split
    · exact sample.sha256_length
    · simp
  hmacSha256 key data :=
    if key = sample.key ++ List.replicate 16 0 ∧ data = sample.ciphertext then sample.hmac
    else List.replicate 32 0
  hmacSha256_length key data := by
    split
    · exact sample.hmac_length
    · simp
  aesEcbDecrypt key data :=
    if key = sample.key ∧ data = sample.ciphertext then sample.plaintext
    else List.replicate data.length 0

def sensorKey : ChannelKey := ⟨hexBytes "aabbccddeeff00112233445566778899", by decide +kernel⟩

def sensorSample : Sample where
  key := sensorKey.bytes
  sha256 := hexBytes "6ea7457ea08fa6904b3ec5afbcd851b5b1d279c3bb097c919bf65df6334a4308"
  ciphertext := hexBytes "e5b542d4bceab6dc9bc995d8225492b0"
  hmac := hexBytes "d3569e15d609267e9471faae6c8ab913058d12a36e72b576ddb8f1a45f17353f"
  plaintext := hexBytes "ab000973656e736f722d6f6b00000000"
  sha256_length := by decide +kernel
  hmac_length := by decide +kernel

/-- A packet that both sides open. -/
theorem sensor_packet_agrees :
    (tryDecryptGroupData sensorSample.primitives
        (hexBytes "19006ed356e5b542d4bceab6dc9bc995d8225492b0") sensorKey).map ParsedGroupData.content =
      some (0x00ab, 9, "73656e736f722d6f6b".toList) ∧
    (Frontend.parseGroupData sensorSample.primitives (Frontend.cracker _)
        (hexBytes "19006ed356e5b542d4bceab6dc9bc995d8225492b0")
        ["AABBCCDDEEFF00112233445566778899".toList]).map Frontend.GroupDataPlaintext.content =
      (tryDecryptGroupData sensorSample.primitives
        (hexBytes "19006ed356e5b542d4bceab6dc9bc995d8225492b0") sensorKey).map
          ParsedGroupData.content := by
  have named : Frontend.normalizeChannelKey "AABBCCDDEEFF00112233445566778899".toList =
      some (toHex sensorKey.bytes) := by decide +kernel
  have agrees := (group_data_agrees_iff sensorSample.primitives (Frontend.cracker _) named).2 0x19
    (hexBytes "006ed356e5b542d4bceab6dc9bc995d8225492b0") (by decide)
  refine ⟨by decide +kernel, agrees.mpr (.inr (.inl ⟨hexBytes "6ed356e5b542d4bceab6dc9bc995d8225492b0",
    0x19, hexBytes "006ed356e5b542d4bceab6dc9bc995d8225492b0", rfl, ?_⟩))⟩
  decide +kernel

def refusedKey : ChannelKey := ⟨List.replicate 15 0 ++ [0x06], by decide⟩

def refusedSample : Sample where
  key := refusedKey.bytes
  sha256 := hexBytes "9b65b044264bd07cae9001dfe2c7b240b7bfcf39b4ce111d5e178bd7e9412a88"
  ciphertext := hexBytes "8e85d6b7ba7ac1b19ffada3e23ea1341"
  hmac := hexBytes "45a9aadb4b0d87cf618328e522ac272ea42fbdb7630625e7a8b8b00002573ffa"
  plaintext := hexBytes "ab000268690000000000000000000000"
  sha256_length := by decide +kernel
  hmac_length := by decide +kernel

def strayKey : ChannelKey := ⟨List.replicate 15 0 ++ [0x32], by decide⟩

def straySample : Sample where
  key := strayKey.bytes
  sha256 := hexBytes "1ab698c3825f622a6738c3bfcbf3cfeb0cdccdd0d63c3836da99641316875de8"
  ciphertext := hexBytes "3f9e1cc2e3803a489713f98db501fba1"
  hmac := hexBytes "fa1addeedcf4a6f08541f04bdd3178830297da9b439557f84e3cc5ef3c2870a4"
  plaintext := hexBytes "07000268690000000000000000000000"
  sha256_length := by decide +kernel
  hmac_length := by decide +kernel

/-- An envelope whose hash byte reads as a later packet version is refused, and a
packet that cannot be framed is opened as an envelope. -/
theorem group_data_disagrees :
    (EnvelopeOf refusedSample.primitives refusedKey
        (refusedSample.primitives.envelope refusedKey refusedSample.ciphertext)
        ⟨0x00ab, 2, [0x68, 0x69]⟩ ∧
      Frontend.parseGroupData refusedSample.primitives (Frontend.cracker _)
        (refusedSample.primitives.envelope refusedKey refusedSample.ciphertext)
        [toHex refusedKey.bytes] = none) ∧
    payloadTypeBits 0x1a = groupData ∧
    tryDecryptGroupData straySample.primitives (0x1a :: hexBytes "fa1a3f9e1cc2e3803a489713f98db501fba1")
        strayKey = none ∧
    (Frontend.parseGroupData straySample.primitives (Frontend.cracker _)
        (0x1a :: hexBytes "fa1a3f9e1cc2e3803a489713f98db501fba1") [toHex strayKey.bytes]).map
        Frontend.GroupDataPlaintext.content = some (7, 2, "6869".toList) := by
  refine ⟨⟨⟨refusedSample.ciphertext, ?_⟩, ?_⟩, ?_⟩
  · decide +kernel
  · decide +kernel
  · decide +kernel

end Meshloom.Packet
