import Meshloom.Packet.EnvelopeProofs
import Meshloom.Packet.GroupDataProofs
import Meshloom.Packet.GroupText

/-! A text message that is encrypted is decrypted again to what was stored, and an outgoing
datagram is the one that the firmware sends unless the text ends at or just before the end
of a block. -/
namespace Meshloom.Packet
open Bytes Text TextSearch Utf8
variable {crypto : GroupCrypto} {key : ChannelKey} {timestamp : UInt32} {text : List Char}
  {flags : UInt8} {payload : List UInt8}

theorem decodeUtf8_encode (text : List Char) :
    decodeUtf8 (encode text) = some (String.ofList text) := by
  have bytes : (⟨(encode text).toArray⟩ : ByteArray) = text.utf8Encode := by
    rw [List.utf8Encode]
    apply ByteArray.ext
    simp [encode]
  have valid : text.utf8Encode.IsValidUTF8 := ⟨text, rfl⟩
  rw [decodeUtf8, bytes, String.fromUTF8?, dif_pos valid]
  rfl

/-- Zero bytes behind a text are null characters behind it. -/
theorem encode_zeros (text : List Char) (n : Nat) :
    encode text ++ List.replicate n 0 = encode (text ++ List.replicate n '\x00') := by
  have zeros : encode (List.replicate n '\x00') = List.replicate n 0 := by
    induction n with
    | zero => rfl
    | succ n ih =>
        rw [List.replicate_succ, encode, List.flatMap_cons]
        exact congrArg (0 :: ·) ih
  rw [← zeros]
  exact List.flatMap_append.symm

theorem cutNull_zeros (free : '\x00' ∉ text) (n : Nat) :
    cutNull (text ++ List.replicate n '\x00') = text := by
  have plain : ∀ c ∈ text, (decide (c ≠ '\x00')) = true := by
    intro c member
    rw [decide_eq_true_iff]
    rintro rfl
    exact free member
  rw [cutNull, List.takeWhile_append_of_pos plain]
  cases n with
  | zero => simp
  | succ n => simp [List.replicate_succ]

/-- The parts of a text that was split make the text again. -/
theorem storedText_splitSender (text : List Char) :
    storedText (splitSender text).1 (splitSender text).2 = text := by
  unfold splitSender
  cases found : search (literal [':', ' ']) text with
  | none => rfl
  | some stop =>
      dsimp only
      split
      · rename_i named
        obtain ⟨before, rest, m, rfl, here, rfl⟩ := search_eq_some found
        obtain ⟨⟨tail, rfl⟩, rfl⟩ := literal_eq_some_iff.mp here
        have colonIdx : before.length + [':', ' '].length - 2 = before.length := rfl
        rw [colonIdx] at named ⊢
        rw [List.take_left, ← List.append_assoc,
          List.drop_left' (by rw [List.length_append]; rfl)]
        cases before with
        | nil => exact absurd rfl (Nat.ne_of_gt named.1)
        | cons c name => rfl
      · rfl

theorem length_groupTextFields (timestamp : UInt32) (text : List Char) (flags : UInt8) :
    (groupTextFields timestamp text flags).length = 5 + (encode text).length := by
  simp only [groupTextFields, List.length_append, length_toLittleEndian, List.length_cons,
    List.length_nil]

/-- The plaintext is the fields and the zero bytes of the terminator and the padding. -/
theorem groupTextPlaintext_eq (timestamp : UInt32) (text : List Char) (flags : UInt8) :
    groupTextPlaintext timestamp text flags = groupTextFields timestamp text flags ++
      List.replicate (1 + padLen (6 + (encode text).length)) 0 := by
  have length : (groupTextFields timestamp text flags ++ [0]).length =
      6 + (encode text).length := by
    rw [List.length_append, length_groupTextFields, List.length_singleton]
    omega
  rw [groupTextPlaintext, length, List.append_assoc, Nat.add_comm 1, List.replicate_succ]
  rfl

theorem padLen_aligned (length : Nat) : (length + padLen length) % 16 = 0 := by
  simp only [padLen]
  split <;> omega

theorem groupTextPlaintext_aligned (timestamp : UInt32) (text : List Char) (flags : UInt8) :
    (groupTextPlaintext timestamp text flags).length % 16 = 0 := by
  have aligned := padLen_aligned (6 + (encode text).length)
  rw [groupTextPlaintext_eq, List.length_append, length_groupTextFields, List.length_replicate,
    show 5 + (encode text).length + (1 + padLen (6 + (encode text).length)) =
      6 + (encode text).length + padLen (6 + (encode text).length) by omega]
  exact aligned

/-- The envelope of a ciphertext of whole blocks opens to its plaintext. -/
theorem decryptChannelBlob_envelope {data : List UInt8} (aligned : data.length % 16 = 0)
    (nonempty : data ≠ []) (first : UInt8) :
    decryptChannelBlob crypto.channel (first ::
      (crypto.channel.channelMac key.bytes (crypto.aes.encryptEcb key.bytes data) ++
        crypto.aes.encryptEcb key.bytes data)) key = some data := by
  have length := crypto.aes.length_encryptEcb (by decide) key.bytes aligned
  have filled : data.length ≠ 0 := fun empty => nonempty (List.length_eq_zero_iff.mp empty)
  have back : crypto.channel.aesEcbDecrypt key.bytes (crypto.aes.encryptEcb key.bytes data) = data :=
    crypto.aes.decryptEcb_encryptEcb (by decide) key.bytes aligned
  have mac := length_channelMac crypto.channel key.bytes (crypto.aes.encryptEcb key.bytes data)
  generalize crypto.aes.encryptEcb key.bytes data = ciphertext at length back mac ⊢
  generalize tag : crypto.channel.channelMac key.bytes ciphertext = cipherMac at mac ⊢
  obtain ⟨second, third, rfl⟩ := List.length_eq_two.mp mac
  have blocks : ciphertext.length ≠ 0 ∧ ciphertext.length % 16 = 0 := by omega
  simp [decryptChannelBlob, guard, tag, blocks, back]

/-- What an accepted envelope is made of. -/
theorem decryptChannelBlob_some {data : List UInt8}
    (opened : decryptChannelBlob crypto.channel payload key = some data) :
    ∃ first, data.length % 16 = 0 ∧ payload = first ::
      (crypto.channel.channelMac key.bytes (crypto.aes.encryptEcb key.bytes data) ++
        crypto.aes.encryptEcb key.bytes data) := by
  simp only [decryptChannelBlob, Option.bind_eq_bind, Option.bind_eq_some_iff, Option.pure_def,
    Option.some.injEq] at opened
  obtain ⟨_, long, _, blocks, _, mac, rfl⟩ := opened
  have long := guard_some long
  have blocks := guard_some blocks
  have mac := guard_some mac
  have aligned : (crypto.aes.decryptEcb key.bytes (payload.drop 3)).length % 16 = 0 := by
    rw [show (crypto.aes.decryptEcb key.bytes (payload.drop 3)).length = (payload.drop 3).length from
      BlockCipher.length_codebook (by decide) (crypto.aes.length_decrypt key.bytes)
        (BlockCipher.whole_of_mod blocks.2)]
    exact blocks.2
  have again : crypto.aes.encryptEcb key.bytes
      (crypto.aes.decryptEcb key.bytes (payload.drop 3)) = payload.drop 3 :=
    crypto.aes.encryptEcb_decryptEcb (by decide) key.bytes blocks.2
  obtain ⟨first, rest, rfl⟩ := List.exists_cons_of_length_pos (by omega : 0 < payload.length)
  refine ⟨first, aligned, ?_⟩
  rw [show crypto.channel.aesEcbDecrypt = crypto.aes.decryptEcb from rfl, again, mac]
  exact congrArg (first :: ·) (List.take_append_drop 2 rest).symm

/-- The datagram is an envelope with the channel's hash. -/
theorem encryptGroupText_eq (crypto : GroupCrypto) (key : ChannelKey) (timestamp : UInt32)
    (text : List Char) (flags : UInt8) :
    encryptGroupText crypto key timestamp text flags =
      crypto.channel.envelope key
        (crypto.aes.encryptEcb key.bytes (groupTextPlaintext timestamp text flags)) := by
  have head : ∀ digest : List UInt8, digest.length = 32 → digest.take 1 = [digest.headD 0] := by
    intro digest length
    obtain ⟨first, rest, rfl⟩ := List.exists_cons_of_length_pos (by omega : 0 < digest.length)
    rfl
  simp only [encryptGroupText, head _ (crypto.sha256_length _)]
  rfl

/-- A message comes back with its timestamp and flags, and is stored as the text it was. -/
def GroupTextReturns (crypto : GroupCrypto) (key : ChannelKey) (timestamp : UInt32)
    (text : List Char) (flags : UInt8) : Prop :=
  ∃ decrypted, decryptGroupText crypto (encryptGroupText crypto key timestamp text flags) key =
      some decrypted ∧
    decrypted.timestamp = timestamp.toNat ∧ decrypted.flags = flags.toNat ∧
    storedText decrypted.sender decrypted.message = text

theorem groupText_roundTrip (crypto : GroupCrypto) (key : ChannelKey) (timestamp : UInt32)
    (flags : UInt8) (free : '\x00' ∉ text) :
    GroupTextReturns crypto key timestamp text flags := by
  have stamp := length_toLittleEndian 4 timestamp.toNat
  have plain := groupTextPlaintext_eq timestamp text flags
  have aligned := groupTextPlaintext_aligned timestamp text flags
  have opened : decryptChannelBlob crypto.channel
      (encryptGroupText crypto key timestamp text flags) key =
        some (groupTextPlaintext timestamp text flags) := by
    rw [encryptGroupText_eq]
    refine decryptChannelBlob_envelope aligned (fun empty => ?_) _
    have length := congrArg List.length (plain.symm.trans empty)
    rw [List.length_append, length_groupTextFields, List.length_nil] at length
    omega
  generalize padLen (6 + (encode text).length) = pad at plain
  rw [groupTextFields, List.append_assoc, List.append_assoc] at plain
  have long : 5 ≤ (groupTextPlaintext timestamp text flags).length := by
    rw [plain]
    simp only [List.length_append, stamp, List.length_singleton]
    omega
  have first : (groupTextPlaintext timestamp text flags).take 4 =
      toLittleEndian 4 timestamp.toNat := by
    rw [plain, List.take_left' stamp]
  have fifth : (groupTextPlaintext timestamp text flags)[4]? = some flags := by
    rw [plain, List.getElem?_append_right (by omega), stamp]
    rfl
  have rest : (groupTextPlaintext timestamp text flags).drop 5 =
      encode (text ++ List.replicate (1 + pad) '\x00') := by
    rw [plain, ← List.append_assoc, List.drop_left' (by rw [List.length_append, stamp]; rfl),
      encode_zeros]
  have number : fromLittleEndian (toLittleEndian 4 timestamp.toNat) = timestamp.toNat :=
    fromLittleEndian_toLittleEndian 4 timestamp.toNat_lt
  refine ⟨⟨timestamp.toNat, flags.toNat, (splitSender text).1, (splitSender text).2,
    toHex ((encryptGroupText crypto key timestamp text flags).take 1)⟩, ?_, rfl, rfl,
    storedText_splitSender text⟩
  simp [decryptGroupText, opened, guard, long, first, fifth, rest, number, decodeUtf8_encode,
    cutNull_zeros free]

/-- A block with its encryption, and the digests that a payload of this block asks for. -/
structure BlockSample where
  key : List UInt8
  sha256 : List UInt8
  plain : List UInt8
  cipher : List UInt8
  hmac : List UInt8
  plain_length : plain.length = 16
  cipher_length : cipher.length = 16
  /-- the digest of the type and the payload -/
  digest : List UInt8
  sha256_length : sha256.length = 32
  hmac_length : hmac.length = 32
  digest_length : digest.length = 32

/-- The permutation that exchanges the two blocks. -/
def BlockSample.aes (sample : BlockSample) : BlockCipher 16 (List UInt8) UInt8 :=
  let exchange : List UInt8 → List UInt8 := Equiv.swap sample.plain sample.cipher
  have keeps : ∀ block, block.length = 16 → (exchange block).length = 16 := by
    intro block length
    simp only [exchange, Equiv.swap_apply_def]
    split
    · exact sample.cipher_length
    · split
      · exact sample.plain_length
      · exact length
  have undone : ∀ block, exchange (exchange block) = block :=
    Equiv.swap_apply_self sample.plain sample.cipher
  ⟨fun _ => exchange, fun _ => exchange, fun _ => keeps, fun _ => keeps,
    fun _ block _ => undone block, fun _ block _ => undone block⟩

def BlockSample.primitives (sample : BlockSample) : GroupCrypto where
  sha256 data := if data = sample.key then sample.sha256 else sample.digest
  sha256_length data := by
    split
    · exact sample.sha256_length
    · exact sample.digest_length
  hmacSha256 _ _ := sample.hmac
  hmacSha256_length _ _ := sample.hmac_length
  aes := sample.aes

/-- The key of the public channel. -/
def publicChannel : ChannelKey := ⟨hexBytes "8b3387e9c5cdea6ac9e5edbaa115cd72", by decide⟩

/-- The block of `Al: hi`. -/
def greetingSample : BlockSample where
  key := publicChannel.bytes
  sha256 := hexBytes "1155f1870f91778646972b7bde747d989cf9f95416b50829666036563365424d"
  plain := hexBytes "00f1536500416c3a2068690000000000"
  cipher := hexBytes "d3f7b275bb3b8b22b6a1a3f71c940d60"
  hmac := hexBytes "56a46f4e9582cfa3e2773b882a98690c54b8a55778588acaa3734959fa4731a4"
  digest := hexBytes "89127a873470cbc2efa09a6e6f0c1ae735a3045e6376d2629e90af3031e29255"
  plain_length := by decide
  cipher_length := by decide
  sha256_length := by decide
  hmac_length := by decide
  digest_length := by decide

def greetingPayload : List UInt8 := hexBytes "1156a4d3f7b275bb3b8b22b6a1a3f71c940d60"

/-- The block of `Al: hi you!`. -/
def alignedSample : BlockSample where
  key := publicChannel.bytes
  sha256 := hexBytes "1155f1870f91778646972b7bde747d989cf9f95416b50829666036563365424d"
  plain := hexBytes "00f1536500416c3a20686920796f7521"
  cipher := hexBytes "db77a54f6e4a83eef43a62e241599d62"
  hmac := hexBytes "3c675bb02f1dc7af52362f4b91301ccfdf7779f1a4644dbccc7ca63faae8f75b"
  digest := hexBytes "12a213f74ecd0d7808486b4473af195883f28e96b4a83f7d53320783d151f105"
  plain_length := by decide
  cipher_length := by decide
  sha256_length := by decide
  hmac_length := by decide
  digest_length := by decide

def alignedPayload : List UInt8 := hexBytes "113c67db77a54f6e4a83eef43a62e241599d62"

theorem greeting_roundTrip :
    GroupTextReturns greetingSample.primitives publicChannel 1700000000 "Al: hi".toList 0 :=
  groupText_roundTrip greetingSample.primitives publicChannel 1700000000 0 (by decide)

end Meshloom.Packet
