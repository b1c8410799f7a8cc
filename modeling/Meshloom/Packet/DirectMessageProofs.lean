import Meshloom.Packet.DirectMessage
import Meshloom.Packet.EnvelopeProofs

/-! The two ways to a decrypted message on one packet. They differ on packets from
the contact's address byte that are not addressed to ours. -/
namespace Meshloom.Packet
open Bytes Messages
variable {crypto : Crypto} {privateKey : List UInt8} {contactKey : PublicKey} {contact : Contact}
  {db : Database} {packet : RawPacket} {info : ParsedPacketEnvelope} {dest src : UInt8}
  {rest : List UInt8}

theorem PublicKey.head?_eq (key : PublicKey) : key.bytes.head? = some key.first := by
  have size := key.size
  unfold first
  cases bytes : key.bytes with
  | nil => simp [bytes] at size
  | cons byte rest => rfl

/-- The hash of a key in the address of a packet. -/
theorem lower_toHex (bytes : List UInt8) : lower (toHex bytes) = toHex bytes := toLower_toHex bytes

theorem toHex_byte_inj (a b : UInt8) : toHex [a] = toHex [b] ↔ a = b := by
  constructor
  · intro same
    have decoded := congrArg fromHex same
    rw [fromHex_toHex, fromHex_toHex] at decoded
    simpa using decoded
  · rintro rfl
    rfl

theorem take_toHex (key : PublicKey) : (toHex key.bytes).take 2 = toHex [key.first] := by
  have head := key.head?_eq
  cases bytes : key.bytes with
  | nil => simp [bytes] at head
  | cons byte rest =>
      rw [bytes] at head
      cases head
      rfl

/-- With one contact known, the candidates for a hash. -/
theorem getByPubkeyFirstByte_only (only : db.contacts = [contact])
    (hex : contact.publicKey = toHex contactKey.bytes) (byte : UInt8) :
    db.getByPubkeyFirstByte (toHex [byte]) = if byte = contactKey.first then [contact] else [] := by
  have matching : contact.publicKey.take 2 = lower (toHex [byte]) ↔ byte = contactKey.first := by
    rw [hex, take_toHex, lower_toHex, toHex_byte_inj]
    exact eq_comm
  rw [Database.getByPubkeyFirstByte, only]
  split
  · rename_i same
    simp [matching.mpr same]
  · rename_i different
    simp [mt matching.mp different]

/-- What the contact's key makes of a payload, whatever its addresses. -/
def Crypto.open? (crypto : Crypto) (privateKey contactPublicKey payload : List UInt8) :
    Option DecryptedDirectMessage :=
  (crypto.deriveSharedSecret privateKey contactPublicKey).bind (decryptDirectMessage crypto payload)

theorem decryptDirectMessage_hashes {payload secret : List UInt8} {message : DecryptedDirectMessage}
    (decrypted : decryptDirectMessage crypto payload secret = some message) :
    message.destHash = toHex (payload.take 1) ∧ message.srcHash = toHex ((payload.drop 1).take 1) := by
  simp only [decryptDirectMessage, Option.bind_eq_bind, Option.bind_eq_some_iff] at decrypted
  obtain ⟨-, -, -, -, -, -, plain, -, parsed⟩ := decrypted
  simp only [parseDirectMessage, Option.bind_eq_bind, Option.bind_eq_some_iff] at parsed
  obtain ⟨-, -, flags, -, parsed⟩ := parsed
  split at parsed
  · simp only [Option.bind_eq_some_iff] at parsed
    obtain ⟨-, -, text, -, same⟩ := parsed
    cases same
    exact ⟨rfl, rfl⟩
  · simp only [Option.bind_eq_some_iff] at parsed
    obtain ⟨text, -, same⟩ := parsed
    cases same
    exact ⟨rfl, rfl⟩

/-- A text-message packet with its two address bytes. -/
structure Addressed (packet : RawPacket) (info : ParsedPacketEnvelope) (dest src : UInt8)
    (rest : List UInt8) : Prop where
  parsed : parsePacket packet.data = some info
  text : info.payloadType = textMessage
  payload : info.payload = dest :: src :: rest
  size : 2 ≤ rest.length

theorem tryDecryptDm_addressed (addressed : Addressed packet info dest src rest)
    (ourPublicKey : PublicKey) :
    tryDecryptDm crypto packet.data privateKey contactKey.bytes ourPublicKey =
      if src = contactKey.first ∨ src = ourPublicKey.first ∧ dest = contactKey.first then
        crypto.open? privateKey contactKey.bytes info.payload
      else none := by
  have size := addressed.size
  have long : 4 ≤ (dest :: src :: rest).length := by
    simp only [List.length_cons]
    omega
  simp only [tryDecryptDm, addressed.parsed, addressed.text, addressed.payload, long,
    contactKey.head?_eq, Option.bind_eq_bind, Option.bind_some, Crypto.open?, guard, if_true,
    Option.pure_def, List.getElem?_cons_zero, List.getElem?_cons_succ]
  split
  · rfl
  · rfl

/-- Packets that are not text messages with an address and a MAC are passed over. -/
theorem tryDecryptDm_unaddressed (unaddressed : ∀ info dest src rest, ¬ Addressed packet info dest src rest)
    (key : List UInt8) (ourPublicKey : PublicKey) :
    tryDecryptDm crypto packet.data privateKey key ourPublicKey = none := by
  by_contra decrypted
  obtain ⟨message, decrypted⟩ := Option.ne_none_iff_exists'.mp decrypted
  simp only [tryDecryptDm, Option.bind_eq_bind, Option.bind_eq_some_iff] at decrypted
  obtain ⟨info, parsed, _, text, _, long, -⟩ := decrypted
  have text := guard_some text
  have long := guard_some long
  match payload : info.payload with
  | [] => simp [payload] at long
  | [_] => simp [payload] at long
  | dest :: src :: rest =>
      refine unaddressed info dest src rest ⟨parsed, text, payload, ?_⟩
      rw [payload, List.length_cons, List.length_cons] at long
      omega

theorem decryptHistorical_unaddressed
    (unaddressed : ∀ info dest src rest, ¬ Addressed packet info dest src rest) :
    decryptHistorical crypto privateKey contactKey.bytes contact.publicKey db packet =
      (db, .skipped) := by
  simp only [decryptHistorical, tryDecryptDm_unaddressed unaddressed]

theorem processDirectMessage_unaddressed
    (unaddressed : ∀ info dest src rest, ¬ Addressed packet info dest src rest) :
    processDirectMessage crypto privateKey db packet = (db, .skipped) := by
  have nobody (contacts : List Contact) : (contacts.findSome? fun contact => do
      let contactPublicKey ← fromHex contact.publicKey
      let message ← tryDecryptDm crypto packet.data privateKey contactPublicKey
        (crypto.derivePublicKey privateKey)
      return (contact, message)) = none := by
    rw [List.findSome?_eq_none_iff]
    intro contact _
    cases fromHex contact.publicKey with
    | none => rfl
    | some key => simp [tryDecryptDm_unaddressed unaddressed]
  simp only [processDirectMessage, nobody]
  split
  · rfl
  split
  · rfl
  split
  · rfl
  · rfl

theorem isOutgoing_bytes (dest src our : UInt8) :
    isOutgoing (toHex [dest]) (toHex [src]) (toHex [our]) =
      if dest = our then some false else if src = our then some true else none := by
  simp only [isOutgoing, toHex_byte_inj, ne_eq]
  split_ifs <;> simp_all

/-- The candidates of the live path: the contact, when its hash is the one looked for
and its key opens the packet. -/
theorem candidate_only (only : db.contacts = [contact])
    (hex : contact.publicKey = toHex contactKey.bytes) (byte : UInt8) (ourPublicKey : PublicKey) :
    ((db.getByPubkeyFirstByte (toHex [byte])).findSome? fun contact => do
      let contactPublicKey ← fromHex contact.publicKey
      let message ← tryDecryptDm crypto packet.data privateKey contactPublicKey ourPublicKey
      return (contact, message)) =
    if byte = contactKey.first then
      (tryDecryptDm crypto packet.data privateKey contactKey.bytes ourPublicKey).map (contact, ·)
    else none := by
  rw [getByPubkeyFirstByte_only only hex]
  split
  · simp only [List.findSome?_cons, hex, fromHex_toHex, Option.bind_eq_bind, Option.bind_some,
      List.findSome?_nil]
    cases tryDecryptDm crypto packet.data privateKey contactKey.bytes ourPublicKey with
    | none => rfl
    | some message => rfl
  · rfl

/-- The live path on an addressed packet. -/
theorem processDirectMessage_addressed (addressed : Addressed packet info dest src rest)
    (only : db.contacts = [contact]) (hex : contact.publicKey = toHex contactKey.bytes) :
    processDirectMessage crypto privateKey db packet =
      let our := (crypto.derivePublicKey privateKey).first
      match crypto.open? privateKey contactKey.bytes info.payload with
      | none => (db, .skipped)
      | some message =>
        if dest = our ∧ src = contactKey.first then
          db.ingestDecryptedDirectMessage (packet.heard (some info)) message contact.publicKey
            (decide (dest = src) && sentBefore db (lower contact.publicKey) message)
        else if src = our ∧ dest ≠ our ∧ dest = contactKey.first then
          db.ingestDecryptedDirectMessage (packet.heard (some info)) message contact.publicKey true
        else (db, .skipped) := by
  have size := addressed.size
  have long : ¬ info.payload.length < 4 := by
    simp only [addressed.payload, List.length_cons]
    omega
  have first : info.payload.take 1 = [dest] := by rw [addressed.payload]; rfl
  have second : (info.payload.drop 1).take 1 = [src] := by rw [addressed.payload]; rfl
  simp only [processDirectMessage, addressed.parsed, if_neg long, first, second, lower_toHex,
    isOutgoing_bytes]
  generalize ours : crypto.derivePublicKey privateKey = ourPublicKey
  by_cases toUs : dest = ourPublicKey.first
  · simp only [if_pos toUs, Bool.false_eq_true, if_false, candidate_only only hex,
      tryDecryptDm_addressed addressed]
    by_cases fromThem : src = contactKey.first
    · simp only [toUs, fromThem, true_or, true_and, if_true]
      cases crypto.open? privateKey contactKey.bytes info.payload with
      | none => rfl
      | some message => simp [toHex_byte_inj]
    · simp only [toUs, fromThem, and_false, ne_eq, not_true_eq_false, false_and, if_false]
      cases crypto.open? privateKey contactKey.bytes info.payload <;> rfl
  · by_cases fromUs : src = ourPublicKey.first
    · simp only [if_neg toUs, if_pos fromUs, if_true, candidate_only only hex,
        tryDecryptDm_addressed addressed]
      by_cases toThem : dest = contactKey.first
      · have opens : src = contactKey.first ∨ src = ourPublicKey.first ∧ dest = contactKey.first :=
          .inr ⟨fromUs, toThem⟩
        have away : ¬ (dest = ourPublicKey.first ∧ src = contactKey.first) := fun both => toUs both.1
        have outbound : src = ourPublicKey.first ∧ dest ≠ ourPublicKey.first ∧
            dest = contactKey.first := ⟨fromUs, toUs, toThem⟩
        simp only [if_pos toThem, if_pos opens, if_neg away, if_pos outbound]
        cases crypto.open? privateKey contactKey.bytes info.payload with
        | none => rfl
        | some message => rfl
      · simp only [toUs, false_and, if_false, toThem, and_false]
        cases crypto.open? privateKey contactKey.bytes info.payload <;> rfl
    · simp only [toUs, false_and, if_false, fromUs]
      cases crypto.open? privateKey contactKey.bytes info.payload <;> rfl

/-- The scan on an addressed packet. -/
theorem decryptHistorical_addressed (addressed : Addressed packet info dest src rest) :
    decryptHistorical crypto privateKey contactKey.bytes contact.publicKey db packet =
      let our := (crypto.derivePublicKey privateKey).first
      match crypto.open? privateKey contactKey.bytes info.payload with
      | none => (db, .skipped)
      | some message =>
        if src = contactKey.first ∨ src = our ∧ dest = contactKey.first then
          db.ingestDecryptedDirectMessage (packet.heard (some info)) message contact.publicKey
            (if src = our ∧ dest ≠ our then true
            else if dest = our ∧ src = our then sentBefore db (lower contact.publicKey) message
            else false)
        else (db, .skipped) := by
  have first : info.payload.take 1 = [dest] := by rw [addressed.payload]; rfl
  have second : (info.payload.drop 1).take 1 = [src] := by rw [addressed.payload]; rfl
  simp only [decryptHistorical, tryDecryptDm_addressed addressed, addressed.parsed]
  generalize crypto.derivePublicKey privateKey = ourPublicKey
  cases opened : crypto.open? privateKey contactKey.bytes info.payload with
  | none =>
      simp only [ite_self]
  | some message =>
      obtain ⟨secret, -, decrypted⟩ := Option.bind_eq_some_iff.mp opened
      obtain ⟨destHash, srcHash⟩ := decryptDirectMessage_hashes decrypted
      rw [first] at destHash
      rw [second] at srcHash
      by_cases opens : src = contactKey.first ∨ src = ourPublicKey.first ∧ dest = contactKey.first
      · simp only [if_pos opens, destHash, srcHash, lower_toHex, toHex_byte_inj, ne_eq]
      · simp only [if_neg opens]

/-- A packet from the contact's address byte to an address byte that is not ours. -/
def FromContactPastUs (crypto : Crypto) (privateKey : List UInt8) (contactKey : PublicKey)
    (dest src : UInt8) : Prop :=
  src = contactKey.first ∧ dest ≠ (crypto.derivePublicKey privateKey).first

theorem processDirectMessage_past (addressed : Addressed packet info dest src rest)
    (only : db.contacts = [contact]) (hex : contact.publicKey = toHex contactKey.bytes)
    (past : FromContactPastUs crypto privateKey contactKey dest src) :
    processDirectMessage crypto privateKey db packet = (db, .skipped) := by
  obtain ⟨fromThem, away⟩ := past
  rw [processDirectMessage_addressed addressed only hex]
  simp only [away, false_and, if_false]
  cases crypto.open? privateKey contactKey.bytes info.payload with
  | none => rfl
  | some message =>
      refine if_neg ?_
      rintro ⟨fromUs, -, toThem⟩
      exact away (toThem.trans (fromThem.symm.trans fromUs))

/-- On every other packet the scan does what the live path does. -/
theorem decryptHistorical_eq (only : db.contacts = [contact])
    (hex : contact.publicKey = toHex contactKey.bytes)
    (clear : ∀ info dest src rest, Addressed packet info dest src rest →
      ¬ FromContactPastUs crypto privateKey contactKey dest src) :
    decryptHistorical crypto privateKey contactKey.bytes contact.publicKey db packet =
      processDirectMessage crypto privateKey db packet := by
  by_cases shape : ∃ info dest src rest, Addressed packet info dest src rest
  · obtain ⟨info, dest, src, rest, addressed⟩ := shape
    have clear := clear info dest src rest addressed
    rw [processDirectMessage_addressed addressed only hex, decryptHistorical_addressed addressed]
    simp only [FromContactPastUs] at clear
    generalize (crypto.derivePublicKey privateKey).first = our at clear ⊢
    cases crypto.open? privateKey contactKey.bytes info.payload with
    | none => rfl
    | some message =>
    by_cases fromThem : src = contactKey.first
    · have toUs : dest = our := by
        by_contra away
        exact clear ⟨fromThem, away⟩
      simp only [fromThem, true_or, if_true, toUs, ne_eq, not_true_eq_false, and_false, if_false,
        true_and, and_true]
      by_cases same : contactKey.first = our
      · simp only [same, if_true, decide_true, Bool.true_and]
      · simp only [same, if_false, Ne.symm same, decide_false, Bool.false_and]
    · by_cases outbound : src = our ∧ dest = contactKey.first
      · obtain ⟨fromUs, toThem⟩ := outbound
        have away : dest ≠ our := by
          rintro toUs
          exact fromThem (fromUs.trans (toUs.symm.trans toThem))
        simp only [fromThem, and_false, if_false, false_or, if_pos (And.intro fromUs toThem),
          if_pos (And.intro fromUs away), if_pos (And.intro fromUs (And.intro away toThem))]
      · have unmatched : ¬ (src = our ∧ dest ≠ our ∧ dest = contactKey.first) :=
          fun both => outbound ⟨both.1, both.2.2⟩
        simp only [fromThem, and_false, if_false, false_or, if_neg outbound, if_neg unmatched]
  · have unaddressed : ∀ info dest src rest, ¬ Addressed packet info dest src rest :=
      fun info dest src rest addressed => shape ⟨info, dest, src, rest, addressed⟩
    rw [decryptHistorical_unaddressed unaddressed, processDirectMessage_unaddressed unaddressed]

end Meshloom.Packet
