import Meshloom.Backup.BackupCrypto

/-! A backup that was encrypted is decrypted again, and the tag covers each field of the
header: what the associated data say, the envelope that is written against the bounds that
are checked, and what a change of the envelope does. -/
namespace Meshloom.Backup
open Json

theorem encodeUtf8_injective {a b : List Char} (same : encodeUtf8 a = encodeUtf8 b) : a = b := by
  have encoded : a.utf8Encode = b.utf8Encode := by
    rw [List.utf8Encode, List.utf8Encode]
    exact congrArg List.toByteArray same
  have decoded := congrArg ByteArray.utf8Decode? encoded
  rw [List.utf8Decode?_utf8Encode, List.utf8Decode?_utf8Encode, Option.some.injEq] at decoded
  exact congrArg Array.toList decoded

theorem dumps_kdfJson (header : Header) (rest : List Char) : dumps (kdfJson header) ++ rest =
    Char.ofNat 123 :: (quote (text "n") ++ ':' :: (header.n.repr.toList ++ ',' ::
      (quote (text "name") ++ ':' :: (quote kdfName ++ ',' ::
      (quote (text "p") ++ ':' :: (header.p.repr.toList ++ ',' ::
      (quote (text "r") ++ ':' :: (header.r.repr.toList ++ ',' ::
      (quote (text "salt") ++ ':' :: (quote header.saltB64 ++ Char.ofNat 125 :: rest)))))))))) := by
  have sorted : (text "p" ≤ text "salt" ∧ ¬ text "r" ≤ text "p" ∧ text "r" ≤ text "salt") ∧
      text "n" ≤ text "p" ∧ ¬ text "name" ≤ text "n" ∧ text "name" ≤ text "p" := by decide
  simp [kdfJson, dumps, dumpsEntries, List.insertionSort_cons, List.insertionSort_nil,
    List.orderedInsert_cons, List.orderedInsert_nil, sorted, List.intercalate]

theorem dumps_cipherJson (header : Header) (rest : List Char) : dumps (cipherJson header) ++ rest =
    Char.ofNat 123 :: (quote (text "name") ++ ':' :: (quote cipherName ++ ',' ::
      (quote (text "nonce") ++ ':' :: (quote header.nonceB64 ++ Char.ofNat 125 :: rest)))) := by
  have sorted : text "name" ≤ text "nonce" := by decide
  simp [cipherJson, dumps, dumpsEntries, List.insertionSort_cons, List.insertionSort_nil,
    List.orderedInsert_cons, List.orderedInsert_nil, sorted, List.intercalate]

theorem dumps_header (header : Header) :
    dumps (.array [.string encryptedFormat, .int header.exportedAt, publicKeyJson header,
      kdfJson header, cipherJson header]) =
    '[' :: (quote encryptedFormat ++ ',' :: (header.exportedAt.repr.toList ++ ',' ::
      (dumps (publicKeyJson header) ++ ',' :: (dumps (kdfJson header) ++ ',' ::
      (dumps (cipherJson header) ++ [']']))))) := by
  simp [dumps, dumpsItems, List.intercalate]

/-- A key or its absence says what it is. -/
theorem publicKeyJson_append_inj {header header' : Header} {rest rest' : List Char}
    (same : dumps (publicKeyJson header) ++ rest = dumps (publicKeyJson header') ++ rest') :
    header.publicKey = header'.publicKey ∧ rest = rest' := by
  rw [publicKeyJson, publicKeyJson] at same
  cases left : header.publicKey with
  | none =>
      cases right : header'.publicKey with
      | none =>
          rw [left, right] at same
          exact ⟨rfl, List.append_cancel_left same⟩
      | some s =>
          rw [left, right, Option.elim_none, Option.elim_some, dumps, dumps, quote] at same
          exact absurd (List.cons.inj same).1 (by decide)
  | some s =>
      cases right : header'.publicKey with
      | none =>
          rw [left, right, Option.elim_none, Option.elim_some, dumps, dumps, quote] at same
          exact absurd (List.cons.inj same).1 (by decide)
      | some t =>
          rw [left, right, Option.elim_some, Option.elim_some, dumps, dumps] at same
          obtain ⟨rfl, tail⟩ := quote_append_inj same
          exact ⟨rfl, tail⟩

/-- The associated data say each field of the header. -/
theorem aad_injective {header header' : Header} (same : aad header = aad header') : header = header' := by
  have written := encodeUtf8_injective same
  rw [dumps_header, dumps_header] at written
  simp only [List.cons.injEq, true_and, List.append_cancel_left_eq] at written
  obtain ⟨exportedAt, written⟩ := int_append_inj (by decide) written
  obtain ⟨publicKey, written⟩ := publicKeyJson_append_inj written
  simp only [List.cons.injEq, true_and] at written
  rw [dumps_kdfJson, dumps_kdfJson] at written
  simp only [List.cons.injEq, true_and, List.append_cancel_left_eq] at written
  obtain ⟨n, written⟩ := int_append_inj (by decide) written
  simp only [List.cons.injEq, true_and, List.append_cancel_left_eq] at written
  obtain ⟨p, written⟩ := int_append_inj (by decide) written
  simp only [List.cons.injEq, true_and, List.append_cancel_left_eq] at written
  obtain ⟨r, written⟩ := int_append_inj (by decide) written
  simp only [List.cons.injEq, true_and, List.append_cancel_left_eq] at written
  obtain ⟨saltB64, written⟩ := quote_append_inj written
  simp only [List.cons.injEq, true_and] at written
  rw [dumps_cipherJson, dumps_cipherJson] at written
  simp only [List.cons.injEq, true_and, List.append_cancel_left_eq] at written
  obtain ⟨nonceB64, _⟩ := quote_append_inj written
  cases header
  cases header'
  simp_all

/-- The envelope of a header and a ciphertext with its tag. -/
def envelopeOf (header : Header) (blob : Bytes) : Json :=
  .object [(text "format", .string encryptedFormat), (text "exported_at", .int header.exportedAt),
    (text "public_key", publicKeyJson header), (text "kdf", kdfJson header),
    (text "cipher", cipherJson header), (text "ciphertext", .string (Base64.encode blob))]

theorem b64decode_expected {raw : Bytes} {expected : Nat} (length : raw.length = expected) :
    b64decode (some (.string (Base64.encode raw))) (some expected) none = .ok raw := by
  simp [b64decode, Base64.decode_encode, length]

/-- The bound on the text lets through every text of as many bytes as the bound on these. -/
theorem b64decode_maximum {raw : Bytes} {maximum : Nat} (fits : raw.length ≤ maximum) :
    b64decode (some (.string (Base64.encode raw))) none (some maximum) = .ok raw := by
  have short : ¬ (maximum / 3 + 1) * 4 + 4 < (Base64.encode raw).length := by
    rw [Base64.length_encode]
    omega
  simp [b64decode, Base64.decode_encode, short, fits]

/-- The bounds that a header meets when it is written. -/
structure Header.Written (header : Header) (salt nonce : Bytes) : Prop where
  n : header.n = scryptN
  r : header.r = scryptR
  p : header.p = scryptP
  saltB64 : header.saltB64 = Base64.encode salt
  nonceB64 : header.nonceB64 = Base64.encode nonce

theorem writtenHeader_written (document : Json) (publicKey : Option (List Char)) (salt nonce : Bytes) :
    (writtenHeader document publicKey salt nonce).Written salt nonce := ⟨rfl, rfl, rfl, rfl, rfl⟩

theorem asOptionalString_publicKeyJson (header : Header) :
    asOptionalString (some (publicKeyJson header)) = .ok header.publicKey := by
  rw [publicKeyJson]
  cases header.publicKey <;> rfl

theorem checkedParams_envelopeOf {header : Header} {salt nonce blob : Bytes}
    (written : header.Written salt nonce) (saltLength : salt.length = saltBytes)
    (nonceLength : nonce.length = nonceBytes)
    (fits : tagBytes ≤ blob.length ∧ blob.length ≤ maxCiphertextBytes + tagBytes) :
    checkedParams (envelopeOf header blob) = .ok (header, blob) := by
  have lookups : (envelopeOf header blob).get (text "format") = some (.string encryptedFormat) ∧
    (envelopeOf header blob).get (text "exported_at") = some (.int header.exportedAt) ∧
    (envelopeOf header blob).get (text "public_key") = some (publicKeyJson header) ∧
    (envelopeOf header blob).get (text "kdf") = some (kdfJson header) ∧
    (envelopeOf header blob).get (text "cipher") = some (cipherJson header) ∧
    (envelopeOf header blob).get (text "ciphertext") = some (.string (Base64.encode blob)) :=
    ⟨rfl, rfl, rfl, rfl, rfl, rfl⟩
  have kdf : (kdfJson header).get (text "name") = some (.string kdfName) ∧
    (kdfJson header).get (text "n") = some (.int header.n) ∧
    (kdfJson header).get (text "r") = some (.int header.r) ∧
    (kdfJson header).get (text "p") = some (.int header.p) ∧
    (kdfJson header).get (text "salt") = some (.string header.saltB64) := ⟨rfl, rfl, rfl, rfl, rfl⟩
  have cipher : (cipherJson header).get (text "name") = some (.string cipherName) ∧
    (cipherJson header).get (text "nonce") = some (.string header.nonceB64) := ⟨rfl, rfl⟩
  have dicts : asDict (some (kdfJson header)) = .ok (kdfJson header) ∧
    asDict (some (cipherJson header)) = .ok (cipherJson header) := ⟨rfl, rfl⟩
  have power : (isPowerOfTwo header.n && decide (scryptMinN ≤ header.n) &&
      decide (header.n ≤ scryptMaxN)) = true := by
    rw [written.n]
    decide
  have sizes : (decide (header.r = scryptR) && decide (header.p = scryptP)) = true := by
    rw [written.r, written.p]
    decide
  have salted : b64decode (some (.string header.saltB64)) (some saltBytes) none = .ok salt := by
    rw [written.saltB64]
    exact b64decode_expected saltLength
  have nonced : b64decode (some (.string header.nonceB64)) (some nonceBytes) none = .ok nonce := by
    rw [written.nonceB64]
    exact b64decode_expected nonceLength
  simp only [checkedParams, lookups, dicts, kdf, cipher, asString, asInt, asOptionalString_publicKeyJson,
    require, decide_true, if_true, power, sizes, salted, nonced, b64decode_maximum fits.2,
    decide_eq_true fits.1, bind, Except.bind, pure, Except.pure]

/-- What a poor passphrase or a long document is refused for does not arise: the envelope. -/
theorem encryptBackup_ok {P : Primitives} {document : Json} {passphrase : List Char}
    {publicKey : Option (List Char)} {salt nonce : Bytes} (long : passphraseMinChars ≤ passphrase.length)
    (fits : (P.dump document).length ≤ maxCiphertextBytes) :
    encryptBackup P document passphrase publicKey salt nonce =
      .ok (envelopeOf (writtenHeader document publicKey salt nonce)
        ((sealed P document passphrase publicKey salt nonce).1 ++
          (sealed P document passphrase publicKey salt nonce).2)) := by
  rw [encryptBackup, if_neg (by omega), if_neg (by omega)]
  rfl

theorem length_sealed (P : Primitives) (document : Json) (passphrase : List Char)
    (publicKey : Option (List Char)) (salt nonce : Bytes) :
    (sealed P document passphrase publicKey salt nonce).1.length = (P.dump document).length ∧
      (sealed P document passphrase publicKey salt nonce).2.length = tagBytes :=
  P.length_encrypt _ _ _ _

/-- The tag is cut off where it was appended. -/
theorem openChecked_append (P : Primitives) (header : Header) {ciphertext tag : Bytes}
    (length : tag.length = tagBytes) (passphrase : List Char) :
    openChecked P header (ciphertext ++ tag) passphrase =
      if passphrase = [] then .error .badPassphrase
      else match P.decryptAndVerify (deriveKey P passphrase ((Base64.decode header.saltB64).getD [])
            header.n header.r header.p) ((Base64.decode header.nonceB64).getD []) (aad header)
            ciphertext tag with
        | none => .error .badPassphrase
        | some plaintext => match P.load plaintext with
          | some (.object entries) => .ok (.object entries)
          | _ => .error .badEnvelope := by
  have cut : (ciphertext ++ tag).length - tagBytes = ciphertext.length := by
    rw [List.length_append, length, Nat.add_sub_cancel]
  have opened := openChecked.eq_1 P header (ciphertext ++ tag) passphrase
  simp only [cut, List.take_left, List.drop_left] at opened
  exact opened

/-- Opening what was sealed under the same header, with a passphrase of the same normal form. -/
theorem openChecked_sealed {P : Primitives} {document : Json} {passphrase other : List Char}
    {publicKey : Option (List Char)} {salt nonce : Bytes} (same : P.nfc other = P.nfc passphrase)
    (nonempty : passphrase ≠ []) (object : ∃ entries, document = .object entries)
    (restored : P.load (P.dump document) = some document) :
    openChecked P (writtenHeader document publicKey salt nonce)
      ((sealed P document passphrase publicKey salt nonce).1 ++
        (sealed P document passphrase publicKey salt nonce).2) other = .ok document := by
  have given : other ≠ [] := by
    rw [Ne, ← P.nfc_nil, same, P.nfc_nil]
    exact nonempty
  have key : deriveKey P other salt scryptN scryptR scryptP =
      deriveKey P passphrase salt scryptN scryptR scryptP := by
    rw [deriveKey, deriveKey, same]
  obtain ⟨entries, rfl⟩ := object
  rw [openChecked_append P _ (length_sealed P _ _ _ _ _).2, if_neg given]
  simp only [writtenHeader, Base64.decode_encode, Option.getD_some, key]
  rw [sealed, writtenHeader, P.decrypt_encrypt]
  simp only [restored]

/-- The sealed text opens under no other associated data. -/
def Authentic (P : Primitives) (header : Header) (sealed : Bytes × Bytes) : Prop :=
  ∀ key nonce other, (P.decryptAndVerify key nonce other sealed.1 sealed.2).isSome → other = aad header

/-- Under another header the tag does not fit. -/
theorem openChecked_tampered {P : Primitives} {header header' : Header} {sealed : Bytes × Bytes}
    (authentic : Authentic P header sealed) (length : sealed.2.length = tagBytes)
    (changed : header' ≠ header) (passphrase : List Char) :
    openChecked P header' (sealed.1 ++ sealed.2) passphrase = .error .badPassphrase := by
  rw [openChecked_append P _ length]
  split
  · rfl
  · split
    · rfl
    · rename_i plaintext opened
      have same := authentic _ _ _ (by rw [opened]; rfl)
      exact absurd (aad_injective same) changed

/-- Two envelopes that differ only in keys that are not read. -/
structure OtherKeys (envelope envelope' : Json) : Prop where
  top : ∀ key ∈ [text "format", text "exported_at", text "public_key", text "ciphertext"],
    envelope.get key = envelope'.get key
  kdf : ∃ entries entries', envelope.get (text "kdf") = some (.object entries) ∧
    envelope'.get (text "kdf") = some (.object entries') ∧
    ∀ key ∈ [text "name", text "n", text "r", text "p", text "salt"],
      entries.lookup key = entries'.lookup key
  cipher : ∃ entries entries', envelope.get (text "cipher") = some (.object entries) ∧
    envelope'.get (text "cipher") = some (.object entries') ∧
    ∀ key ∈ [text "name", text "nonce"], entries.lookup key = entries'.lookup key

theorem checkedParams_otherKeys {envelope envelope' : Json} (same : OtherKeys envelope envelope') :
    checkedParams envelope = checkedParams envelope' := by
  have top := same.top
  obtain ⟨kdf, kdf', isKdf, isKdf', kdfSame⟩ := same.kdf
  obtain ⟨cipher, cipher', isCipher, isCipher', cipherSame⟩ := same.cipher
  simp only [List.forall_mem_cons, List.not_mem_nil, false_imp_iff, implies_true, and_true]
    at top kdfSame cipherSame
  have get_object (entries : List (List Char × Json)) (key : List Char) :
      (Json.object entries).get key = entries.lookup key := rfl
  simp only [checkedParams, top, isKdf, isKdf', isCipher, isCipher', asDict, bind, Except.bind, get_object,
    kdfSame, cipherSame]

/-- What is encrypted is within the bounds and decrypted again; a header that differs in any
field opens it with no passphrase, and a key that is not read changes nothing. -/
theorem backup_round_trip (P : Primitives) (document : Json) (passphrase : List Char)
    (publicKey : Option (List Char)) (salt nonce : Bytes) (object : ∃ entries, document = .object entries)
    (fits : (P.dump document).length ≤ maxCiphertextBytes)
    (restored : P.load (P.dump document) = some document)
    (long : passphraseMinChars ≤ passphrase.length) (saltLength : salt.length = saltBytes)
    (nonceLength : nonce.length = nonceBytes)
    (authentic : Authentic P (writtenHeader document publicKey salt nonce)
      (sealed P document passphrase publicKey salt nonce)) :
    ∃ envelope blob, encryptBackup P document passphrase publicKey salt nonce = .ok envelope ∧
      checkEnvelope envelope = .ok () ∧
      (∀ other, P.nfc other = P.nfc passphrase → decryptBackup P envelope other = .ok document) ∧
      checkedParams envelope = .ok (writtenHeader document publicKey salt nonce, blob) ∧
      (∀ header header' : Header, aad header = aad header' → header = header') ∧
      (∀ envelope' header', checkedParams envelope' = .ok (header', blob) →
        header' ≠ writtenHeader document publicKey salt nonce →
        ∀ other, decryptBackup P envelope' other = .error .badPassphrase) ∧
      ∀ envelope', OtherKeys envelope envelope' →
        ∀ other, decryptBackup P envelope' other = decryptBackup P envelope other := by
  obtain ⟨textLength, tagLength⟩ := length_sealed P document passphrase publicKey salt nonce
  have bounds : tagBytes ≤ ((sealed P document passphrase publicKey salt nonce).1 ++
        (sealed P document passphrase publicKey salt nonce).2).length ∧
      ((sealed P document passphrase publicKey salt nonce).1 ++
        (sealed P document passphrase publicKey salt nonce).2).length ≤ maxCiphertextBytes + tagBytes := by
    rw [List.length_append]
    omega
  have nonempty : passphrase ≠ [] := by
    rintro rfl
    contradiction
  have checked := checkedParams_envelopeOf (writtenHeader_written document publicKey salt nonce)
    saltLength nonceLength bounds
  refine ⟨_, _, encryptBackup_ok long fits, ?_, ?_, checked, fun _ _ => aad_injective, ?_, ?_⟩
  · rw [checkEnvelope, checked]
    rfl
  · intro other same
    rw [decryptBackup, checked]
    exact openChecked_sealed same nonempty object restored
  · intro envelope' header' accepted changed other
    rw [decryptBackup, accepted]
    exact openChecked_tampered authentic tagLength changed other
  · intro envelope' same other
    rw [decryptBackup, decryptBackup, checkedParams_otherKeys same]

section Sample

/-- A tag of its own for one input of the cipher, and one for all others. -/
def sampleTag (marked input : Bytes × Bytes × Bytes × Bytes) : Bytes :=
  List.replicate tagBytes (if input = marked then 1 else 0)

def sampleSalt : Bytes := (List.range saltBytes).map UInt8.ofNat
def sampleNonce : Bytes := (List.range' 100 nonceBytes).map UInt8.ofNat

/-- The salt behind the passphrase, which stands for the key that is derived from them. -/
def sampleKey : Bytes := encodeUtf8 (text "passphrase") ++ sampleSalt

def samplePublicKey : List Char := List.replicate 64 'a'

/-- A backup of one channel. -/
def sampleDocument : Json :=
  .object [(text "channels", .array [.object [(text "hops", .null), (text "name", .string (text "Public"))]]),
    (text "exported_at", .int 1760000000), (text "version", .int 2)]

def sampleText : Bytes := encodeUtf8 (Json.dumps sampleDocument)

def sampleHeader : Header := writtenHeader sampleDocument (some samplePublicKey) sampleSalt sampleNonce

def sampleMark : Bytes × Bytes × Bytes × Bytes := (sampleKey, sampleNonce, aad sampleHeader, sampleText)

/-- A cipher that tells its input by the tag alone. The keys of the document are in order. -/
def samplePrimitives : Primitives where
  nfc text := text
  nfc_nil _ := Iff.rfl
  scrypt passphrase salt _ _ _ := passphrase ++ salt
  encryptAndDigest key nonce aad plaintext := (plaintext, sampleTag sampleMark (key, nonce, aad, plaintext))
  decryptAndVerify key nonce aad ciphertext tag :=
    if sampleTag sampleMark (key, nonce, aad, ciphertext) = tag then some ciphertext else none
  length_encrypt _ _ _ _ := ⟨rfl, List.length_replicate⟩
  decrypt_encrypt _ _ _ _ := if_pos rfl
  dump document := encodeUtf8 (Json.dumps document)
  load bytes := if bytes = sampleText then some sampleDocument else none

theorem sample_sealed :
    sealed samplePrimitives sampleDocument (text "passphrase") (some samplePublicKey) sampleSalt sampleNonce =
      (sampleText, sampleTag sampleMark sampleMark) := rfl

theorem sample_decrypt (key nonce aad ciphertext tag : Bytes) :
    samplePrimitives.decryptAndVerify key nonce aad ciphertext tag =
      if sampleTag sampleMark (key, nonce, aad, ciphertext) = tag then some ciphertext else none := rfl

theorem sample_authentic : Authentic samplePrimitives sampleHeader
    (sealed samplePrimitives sampleDocument (text "passphrase") (some samplePublicKey) sampleSalt
      sampleNonce) := by
  intro key nonce other opened
  rw [sample_sealed, sample_decrypt] at opened
  have marked : sampleTag sampleMark (key, nonce, other, sampleText) = sampleTag sampleMark sampleMark := by
    by_contra different
    rw [if_neg different] at opened
    contradiction
  have same : (key, nonce, other, sampleText) = sampleMark := by
    by_contra different
    rw [sampleTag, sampleTag, if_neg different, if_pos rfl] at marked
    exact absurd marked (by decide)
  exact congrArg (fun input : Bytes × Bytes × Bytes × Bytes => input.2.2.1) same

/-- A backup comes back, and not with another date in its header. -/
theorem channel_backup_round_trip : ∃ envelope blob,
    decryptBackup samplePrimitives envelope (text "passphrase") = .ok sampleDocument ∧
      checkedParams envelope = .ok (sampleHeader, blob) ∧ sampleHeader.exportedAt = 1760000000 ∧
      ∀ envelope', checkedParams envelope' = .ok ({ sampleHeader with exportedAt := 1 }, blob) →
        decryptBackup samplePrimitives envelope' (text "passphrase") = .error .badPassphrase := by
  have fits : (samplePrimitives.dump sampleDocument).length ≤ maxCiphertextBytes := by decide +kernel
  have dated : sampleHeader.exportedAt = 1760000000 := by decide +kernel
  have restored : samplePrimitives.load (samplePrimitives.dump sampleDocument) = some sampleDocument := by
    change (if sampleText = sampleText then some sampleDocument else none) = some sampleDocument
    exact if_pos rfl
  obtain ⟨envelope, blob, _, _, opened, checked, _, tampered, _⟩ :=
    backup_round_trip samplePrimitives sampleDocument (text "passphrase") (some samplePublicKey) sampleSalt
      sampleNonce ⟨_, rfl⟩ fits restored (by decide) rfl rfl sample_authentic
  refine ⟨envelope, blob, opened _ rfl, checked, dated, ?_⟩
  intro envelope' accepted
  refine tampered envelope' _ accepted ?_ _
  intro same
  have date : 1 = sampleHeader.exportedAt := congrArg Header.exportedAt same
  rw [dated] at date
  contradiction

end Sample

end Meshloom.Backup
