import Meshloom.Packet.GroupTextProofs

/-! The packet hash that is computed for an outgoing message against the hash of the packet
that the firmware sends for it. -/
namespace Meshloom.Packet
open Bytes Text Utf8
variable {crypto : GroupCrypto} {key : ChannelKey} {timestamp : UInt32} {text : List Char}
  {flags : UInt8} {payload : List UInt8}

/-- The payload that the firmware builds: it opens under the key, and its plaintext is the
fields and the fewest zero bytes that fill a block. -/
structure FirmwareDatagram (crypto : GroupCrypto) (key : ChannelKey) (payload : List UInt8)
    (timestamp : UInt32) (text : List Char) (flags : UInt8) : Prop where
  accepted : (decryptGroupText crypto payload key).isSome
  plaintext : decryptChannelBlob crypto.channel payload key =
    some (groupTextFields timestamp text flags ++ List.replicate
      ((16 - (groupTextFields timestamp text flags).length % 16) % 16) 0)
  free : '\x00' ∉ text
  short : (encode text).length ≤ groupTextMaxUtf8

/-- A raw packet of a channel message with the payload. -/
def Carries (raw payload : List UInt8) : Prop :=
  ∃ envelope, parsePacketEnvelope raw = some envelope ∧ envelope.payloadType = groupText ∧
    envelope.payload = payload

/-- The payload is built again from its fields, and the outgoing hash is the hash of every
packet that carries it. -/
def HashMatches (crypto : GroupCrypto) (key : ChannelKey) (payload : List UInt8)
    (timestamp : UInt32) (text : List Char) (flags : UInt8) : Prop :=
  encryptGroupText crypto key timestamp text flags = payload ∧
    ∀ channelKeyHex, fromHex channelKeyHex = some key.bytes → ∀ raw, Carries raw payload →
      outgoingGroupTextPacketHash crypto channelKeyHex timestamp text flags =
        some (calculatePacketHash crypto raw)

/-- The payload has the channel's hash in front, the text leaves room for a terminator and one
more byte in the last block, and the digest is not taken for a missing one. -/
structure Reproducible (crypto : GroupCrypto) (key : ChannelKey) (payload : List UInt8)
    (text : List Char) : Prop where
  hash : payload.head? = some (crypto.channel.channelHash key.bytes)
  unaligned : (5 + (encode text).length) % 16 ≠ 0
  room : (5 + (encode text).length) % 16 ≠ 15
  digest : (crypto.sha256 (UInt8.ofNat groupText :: payload)).take 8 ≠ List.replicate 8 0

theorem encryptEcb_inj {a b : List UInt8} (first : a.length % 16 = 0) (second : b.length % 16 = 0) :
    crypto.aes.encryptEcb key.bytes a = crypto.aes.encryptEcb key.bytes b ↔ a = b := by
  constructor
  · intro same
    have back := congrArg (crypto.aes.decryptEcb key.bytes) same
    rwa [crypto.aes.decryptEcb_encryptEcb (by decide) _ first,
      crypto.aes.decryptEcb_encryptEcb (by decide) _ second] at back
  · exact congrArg _

/-- The terminator and the padding are the fewest zero bytes unless the fields end at the end
of a block or one byte before it. -/
theorem zeros_iff (length : Nat) : 1 + padLen (6 + length) = (16 - (5 + length) % 16) % 16 ↔
    (5 + length) % 16 ≠ 0 ∧ (5 + length) % 16 ≠ 15 := by
  simp only [padLen]
  split <;> omega

theorem encryptGroupText_eq_iff
    (datagram : FirmwareDatagram crypto key payload timestamp text flags) :
    encryptGroupText crypto key timestamp text flags = payload ↔
      payload.head? = some (crypto.channel.channelHash key.bytes) ∧
        (5 + (encode text).length) % 16 ≠ 0 ∧ (5 + (encode text).length) % 16 ≠ 15 := by
  have plaintext := datagram.plaintext
  rw [length_groupTextFields] at plaintext
  obtain ⟨first, aligned, rfl⟩ := decryptChannelBlob_some plaintext
  have macs : ∀ ciphertext, (crypto.channel.channelMac key.bytes ciphertext).length = 2 :=
    length_channelMac crypto.channel key.bytes
  rw [encryptGroupText_eq, ChannelCrypto.envelope, List.cons.injEq, List.head?_cons,
    Option.some.injEq]
  refine and_congr ⟨Eq.symm, Eq.symm⟩ ?_
  rw [← zeros_iff]
  constructor
  · intro same
    have ciphertexts := List.append_inj_right same ((macs _).trans (macs _).symm)
    rw [encryptEcb_inj (groupTextPlaintext_aligned timestamp text flags) aligned,
      groupTextPlaintext_eq] at ciphertexts
    have lengths := congrArg List.length (List.append_cancel_left ciphertexts)
    rwa [List.length_replicate, List.length_replicate] at lengths
  · intro zeros
    rw [groupTextPlaintext_eq, zeros]

theorem toHex_take (n : Nat) (bytes : List UInt8) :
    (toHex bytes).take (2 * n) = toHex (bytes.take n) := by
  induction n generalizing bytes with
  | zero => rfl
  | succ n ih =>
      cases bytes with
      | nil => simp
      | cons byte rest =>
          rw [toHex_cons, show 2 * (n + 1) = 2 * n + 1 + 1 by omega, List.take_succ_cons,
            List.take_succ_cons, ih]
          rfl

theorem hashDigits_eq (digest : List UInt8) : hashDigits digest = upperHex (digest.take 8) := by
  rw [hashDigits, show 16 = 2 * 8 from rfl, toHex_take]
  rfl

theorem hexDigit_canonical : ∀ n < 16, isSpace (hexDigit n).toUpper = false ∧
    (hexValue (hexDigit n).toUpper).isSome = true ∧
    (hexDigit n).toUpper.toUpper = (hexDigit n).toUpper := by
  decide

theorem upperHex_canonical (bytes : List UInt8) : ∀ c ∈ upperHex bytes,
    isSpace c = false ∧ (hexValue c).isSome = true ∧ c.toUpper = c := by
  intro c member
  obtain ⟨d, listed, rfl⟩ := List.mem_map.mp member
  obtain ⟨n, small, rfl⟩ := toHex_digits bytes d listed
  exact hexDigit_canonical n small

/-- A digest of digits is stored as it is unless it is all zeros. -/
theorem canonicalPacketHash_hashDigits {digest : List UInt8} (long : 8 ≤ digest.length)
    (nonzero : digest.take 8 ≠ List.replicate 8 0) :
    canonicalPacketHash (hashDigits digest) = some (hashDigits digest) := by
  have canonical := upperHex_canonical (digest.take 8)
  have length : (upperHex (digest.take 8)).length = 16 := by
    rw [length_upperHex, List.length_take_of_le long]
  have stripped : strip (upperHex (digest.take 8)) = upperHex (digest.take 8) :=
    strip_fixed (fun c found => (canonical c (List.mem_of_mem_head? found)).1)
      (fun c found => (canonical c (List.mem_of_mem_getLast? found)).1)
  have digits : ((upperHex (digest.take 8)).all fun c => (hexValue c).isSome) = true :=
    List.all_eq_true.mpr fun c member => (canonical c member).2.1
  have upper : (upperHex (digest.take 8)).map Char.toUpper = upperHex (digest.take 8) := by
    rw [List.map_congr_left fun c member => (canonical c member).2.2, List.map_id']
  have filled : upperHex (digest.take 8) ≠ zeroPacketHash := by
    intro zero
    have bytes := congrArg fromHex zero
    rw [Frontend.fromHex_upperHex] at bytes
    exact nonzero (Option.some.inj (bytes.trans (by decide)))
  rw [hashDigits_eq, canonicalPacketHash, stripped, if_pos ⟨length, digits⟩, upper, if_neg filled]

theorem canonicalPacketHash_zero {digest : List UInt8}
    (zero : digest.take 8 = List.replicate 8 0) : canonicalPacketHash (hashDigits digest) = none := by
  rw [hashDigits_eq, zero]
  decide

theorem calculatePacketHash_carries {raw : List UInt8} (carries : Carries raw payload) :
    calculatePacketHash crypto raw = calculatePayloadPacketHash crypto groupText payload := by
  obtain ⟨envelope, parsed, type, rfl⟩ := carries
  have nonempty : raw ≠ [] := by
    rintro rfl
    contradiction
  have untraced : ¬ groupText = payloadTypeTrace := by decide
  rw [calculatePacketHash, if_neg nonempty, parsed]
  simp only [type, if_neg untraced, List.nil_append]
  rfl

/-- The payload behind a flood header and an empty path. -/
theorem carries_flood (nonempty : payload ≠ []) : Carries (0x15 :: 0x00 :: payload) payload := by
  have parsed := Framing.parse_bytes
    ⟨0x15, [], 0x00, [], payload, by decide, by decide, by decide, by decide, nonempty⟩
  have type : ((0x15 : UInt8).toNat >>> 2) &&& 0x0F = groupText := by decide
  exact ⟨_, parsed, type, rfl⟩

theorem outgoingGroupTextPacketHash_eq (short : (encode text).length ≤ groupTextMaxUtf8)
    {channelKeyHex : List Char} (named : fromHex channelKeyHex = some key.bytes) :
    outgoingGroupTextPacketHash crypto channelKeyHex timestamp text flags =
      canonicalPacketHash (calculatePayloadPacketHash crypto groupText
        (encryptGroupText crypto key timestamp text flags)) := by
  rw [outgoingGroupTextPacketHash, if_neg (Nat.not_lt.mpr short), named]
  simp only [dif_pos key.size]

/-- The outgoing payload and its hash are the firmware's exactly when the channel's hash is in
front, the fields end neither at the end of a block nor one byte before it, and the digest does
not start with eight zero bytes. -/
theorem outgoing_hash_matches_iff
    (datagram : FirmwareDatagram crypto key payload timestamp text flags) :
    HashMatches crypto key payload timestamp text flags ↔ Reproducible crypto key payload text := by
  have size := crypto.sha256_length (UInt8.ofNat groupText :: payload)
  constructor
  · rintro ⟨same, hashes⟩
    obtain ⟨hash, unaligned, room⟩ := (encryptGroupText_eq_iff datagram).mp same
    refine ⟨hash, unaligned, room, fun zero => ?_⟩
    have nonempty : payload ≠ [] := by
      rintro rfl
      contradiction
    have outgoing := hashes (toHex key.bytes) (fromHex_toHex _) _ (carries_flood nonempty)
    rw [outgoingGroupTextPacketHash_eq datagram.short (fromHex_toHex _), same,
      calculatePayloadPacketHash, canonicalPacketHash_zero zero] at outgoing
    contradiction
  · rintro ⟨hash, unaligned, room, digest⟩
    have same := (encryptGroupText_eq_iff datagram).mpr ⟨hash, unaligned, room⟩
    refine ⟨same, fun channelKeyHex named raw carries => ?_⟩
    rw [outgoingGroupTextPacketHash_eq datagram.short named, same,
      calculatePacketHash_carries carries, calculatePayloadPacketHash,
      canonicalPacketHash_hashDigits (by omega) digest]

theorem greeting_hash_matches : HashMatches greetingSample.primitives publicChannel greetingPayload
    1700000000 "Al: hi".toList 0 := by
  refine (outgoing_hash_matches_iff ⟨?_, ?_, ?_, ?_⟩).mpr ⟨?_, ?_, ?_, ?_⟩
  all_goals decide +kernel

/-- A text whose fields fill a block: the firmware sends one block, and the payload that is
built for it has two. -/
theorem aligned_text_differs :
    FirmwareDatagram alignedSample.primitives publicChannel alignedPayload 1700000000
        "Al: hi you!".toList 0 ∧
      ¬ HashMatches alignedSample.primitives publicChannel alignedPayload 1700000000
        "Al: hi you!".toList 0 := by
  constructor
  · constructor
    all_goals decide +kernel
  · rintro ⟨same, _⟩
    exact absurd (congrArg List.length same) (by decide +kernel)

end Meshloom.Packet
