import Meshloom.Messages.SoleContact
import Meshloom.Packet.DirectMessageProofs

/-! The scan of the stored packets for one contact against the live path with that
contact as the only one. -/
namespace Meshloom.Packet
open Bytes Messages
variable {crypto : Crypto} {privateKey : List UInt8} {contactKey : PublicKey} {contact : Contact}
  {db : Database} {packet : RawPacket} {info : ParsedPacketEnvelope} {dest src : UInt8}
  {rest : List UInt8}

/-- A packet from the contact's address byte, not addressed to ours, that the contact's
key opens to a message worth storing. -/
def Misaddressed (crypto : Crypto) (privateKey : List UInt8) (contactKey : PublicKey)
    (contact : Contact) (db : Database) (packet : RawPacket) : Prop :=
  ∃ info dest src rest message, Addressed packet info dest src rest ∧
    FromContactPastUs crypto privateKey contactKey dest src ∧
    crypto.open? privateKey contactKey.bytes info.payload = some message ∧
    Storable db contact message (decide (src = (crypto.derivePublicKey privateKey).first))

/-- The address bytes of a packet are its own. -/
theorem Addressed.unique {info' : ParsedPacketEnvelope} {dest' src' : UInt8} {rest' : List UInt8}
    (addressed : Addressed packet info dest src rest)
    (addressed' : Addressed packet info' dest' src' rest') :
    info' = info ∧ dest' = dest ∧ src' = src := by
  have same : info' = info := Option.some.inj (addressed'.parsed.symm.trans addressed.parsed)
  subst same
  have payloads := addressed'.payload.symm.trans addressed.payload
  simp only [List.cons.injEq] at payloads
  exact ⟨rfl, payloads.1, payloads.2.1⟩

/-- The scan picks every packet that it can decrypt. -/
theorem Addressed.picked (addressed : Addressed packet info dest src rest) :
    getPacketPayloadType packet.data = some textMessage := by
  obtain ⟨parsed, known⟩ := Option.filter_eq_some_iff.mp addressed.parsed
  simp only [parsePacketEnvelope, Option.bind_eq_bind, Option.bind_eq_some_iff] at parsed
  obtain ⟨_, _, header, headed, ⟨offset, codes⟩, _, _, _, _, _, ⟨_, _, _⟩, _, _, _, _, _, same⟩ := parsed
  have text := addressed.text
  rw [← Option.some.inj same] at text
  have head : packet.data.head? = some header := by
    rw [List.head?_eq_getElem?]
    exact headed
  have type : (header.toNat >>> 2) &&& 0x0F = textMessage := text
  simp only [getPacketPayloadType, head, Option.bind_eq_bind, Option.bind_some, type]
  rfl

/-- What the scan does with a packet is the ingest of a message, or nothing. -/
theorem decryptHistorical_cases (crypto : Crypto) (privateKey contactPublicKey : List UInt8)
    (contact : Contact) (db : Database) (packet : RawPacket) :
    decryptHistorical crypto privateKey contactPublicKey contact.publicKey db packet = (db, .skipped) ∨
    ∃ heard message outgoing, heard.packetId = packet.id ∧
      decryptHistorical crypto privateKey contactPublicKey contact.publicKey db packet =
        db.ingestDecryptedDirectMessage heard message contact.publicKey outgoing := by
  simp only [decryptHistorical]
  split
  · exact .inl rfl
  · exact .inr ⟨packet.heard (parsePacket packet.data), _, _, rfl, rfl⟩

section
variable (crypto : Crypto) (privateKey contactPublicKey : List UInt8)

theorem decryptHistorical_sole (sole : SoleContact db contact) (packet : RawPacket) :
    SoleContact (decryptHistorical crypto privateKey contactPublicKey contact.publicKey db packet).1
      contact := by
  rcases decryptHistorical_cases crypto privateKey contactPublicKey contact db packet with
    same | ⟨heard, message, outgoing, -, same⟩
  · rw [same]
    exact sole
  · rw [same]
    exact (sole.outcome heard message outgoing).sole sole

theorem decryptHistorical_other (sole : SoleContact db contact) {packetId : Nat}
    (settled : Settled db contact packetId) (different : packet.id ≠ packetId) :
    let after := (decryptHistorical crypto privateKey contactPublicKey contact.publicKey db packet).1
    Settled after contact packetId ∧ after.linkedContent packetId = db.linkedContent packetId ∧
      after.links packetId = db.links packetId := by
  rcases decryptHistorical_cases crypto privateKey contactPublicKey contact db packet with
    same | ⟨heard, message, outgoing, own, same⟩
  · rw [same]
    exact ⟨settled, rfl, rfl⟩
  · rw [same]
    have outcome := sole.outcome heard message outgoing
    have different : packetId ≠ heard.packetId := own ▸ different.symm
    obtain ⟨kept, content⟩ := outcome.settled sole settled different
    exact ⟨kept, content, outcome.links sole different⟩

theorem decryptHistorical_own (sole : SoleContact db contact) (unlinked : db.links packet.id = none) :
    Settled (decryptHistorical crypto privateKey contactPublicKey contact.publicKey db packet).1
      contact packet.id := by
  rcases decryptHistorical_cases crypto privateKey contactPublicKey contact db packet with
    same | ⟨heard, message, outgoing, own, same⟩
  · rw [same]
    exact .inl unlinked
  · rw [same]
    rw [← own] at unlinked ⊢
    exact (sole.outcome heard message outgoing).settled_own sole unlinked

/-- A claiming that fails once fails for every packet of the contact. -/
theorem decryptHistorical_blocked (sole : SoleContact db contact)
    (blocked : db.claimPrefixMessages contact.publicKey = none) (packet : RawPacket) :
    (decryptHistorical crypto privateKey contactPublicKey contact.publicKey db packet).1 = db := by
  rcases decryptHistorical_cases crypto privateKey contactPublicKey contact db packet with
    same | ⟨heard, message, outgoing, -, same⟩
  · rw [same]
  · rw [same]
    generalize ended : db.ingestDecryptedDirectMessage heard message contact.publicKey outgoing = ending
    have outcome := sole.outcome heard message outgoing
    rw [ended] at outcome
    cases outcome with
    | blocked => rfl
    | passed _ moved =>
        rcases moved with same | claimed
        · exact same
        · rw [blocked] at claimed
          contradiction
    | stored _ claimed =>
        rw [blocked] at claimed
        contradiction

theorem decryptHistorical_failed (sole : SoleContact db contact) {after : Database}
    (failed : decryptHistorical crypto privateKey contactPublicKey contact.publicKey db packet =
      (after, .failed)) :
    after = db ∧ db.claimPrefixMessages contact.publicKey = none := by
  rcases decryptHistorical_cases crypto privateKey contactPublicKey contact db packet with
    same | ⟨heard, message, outgoing, -, same⟩
  · rw [failed] at same
    simp at same
  · have outcome := sole.outcome heard message outgoing
    rw [← same, failed] at outcome
    cases outcome with
    | blocked blocked => exact ⟨rfl, blocked⟩

theorem scan_blocked (sole : SoleContact db contact)
    (blocked : db.claimPrefixMessages contact.publicKey = none) (packets : List RawPacket) :
    scan crypto privateKey contactPublicKey contact.publicKey db packets = db := by
  induction packets with
  | nil => rfl
  | cons packet packets ih =>
      have same := decryptHistorical_blocked crypto privateKey contactPublicKey sole blocked packet
      simp only [scan]
      split
      · rename_i after failed
        rw [failed] at same
        exact same
      · rename_i after ending _ done
        rw [done] at same
        cases same
        exact ih

/-- A scan goes on where its first part ended, also when that raised: a later packet
would raise again. -/
theorem scan_cons (sole : SoleContact db contact) (packet : RawPacket) (packets : List RawPacket) :
    scan crypto privateKey contactPublicKey contact.publicKey db (packet :: packets) =
      scan crypto privateKey contactPublicKey contact.publicKey
        (decryptHistorical crypto privateKey contactPublicKey contact.publicKey db packet).1 packets := by
  simp only [scan]
  split
  · rename_i after failed
    obtain ⟨rfl, blocked⟩ := decryptHistorical_failed crypto privateKey contactPublicKey sole failed
    rw [failed, scan_blocked crypto privateKey contactPublicKey sole blocked]
  · rename_i after ending _ done
    rw [done]

theorem scan_append (sole : SoleContact db contact) (first second : List RawPacket) :
    scan crypto privateKey contactPublicKey contact.publicKey db (first ++ second) =
      scan crypto privateKey contactPublicKey contact.publicKey
        (scan crypto privateKey contactPublicKey contact.publicKey db first) second := by
  induction first generalizing db with
  | nil => rfl
  | cons packet first ih =>
      rw [List.cons_append, scan_cons crypto privateKey contactPublicKey sole,
        scan_cons crypto privateKey contactPublicKey sole]
      exact ih (decryptHistorical_sole crypto privateKey contactPublicKey sole packet)

theorem scan_sole (sole : SoleContact db contact) (packets : List RawPacket) :
    SoleContact (scan crypto privateKey contactPublicKey contact.publicKey db packets) contact := by
  induction packets generalizing db with
  | nil => exact sole
  | cons packet packets ih =>
      rw [scan_cons crypto privateKey contactPublicKey sole]
      exact ih (decryptHistorical_sole crypto privateKey contactPublicKey sole packet)

theorem scan_other (sole : SoleContact db contact) {packetId : Nat}
    (settled : Settled db contact packetId) (packets : List RawPacket)
    (different : ∀ packet ∈ packets, packet.id ≠ packetId) :
    let after := scan crypto privateKey contactPublicKey contact.publicKey db packets
    after.linkedContent packetId = db.linkedContent packetId ∧
      after.links packetId = db.links packetId := by
  induction packets generalizing db with
  | nil => exact ⟨rfl, rfl⟩
  | cons packet packets ih =>
      obtain ⟨kept, content, links⟩ := decryptHistorical_other crypto privateKey contactPublicKey
        sole settled (different packet List.mem_cons_self)
      have after := decryptHistorical_sole crypto privateKey contactPublicKey sole packet
      obtain ⟨content', links'⟩ :=
        ih after kept fun other member => different other (List.mem_cons_of_mem _ member)
      rw [scan_cons crypto privateKey contactPublicKey sole]
      exact ⟨content'.trans content, links'.trans links⟩

end

theorem decryptHistorical_past {message : DecryptedDirectMessage}
    (addressed : Addressed packet info dest src rest)
    (past : FromContactPastUs crypto privateKey contactKey dest src)
    (opened : crypto.open? privateKey contactKey.bytes info.payload = some message) :
    decryptHistorical crypto privateKey contactKey.bytes contact.publicKey db packet =
      db.ingestDecryptedDirectMessage (packet.heard (some info)) message contact.publicKey
        (decide (src = (crypto.derivePublicKey privateKey).first)) := by
  obtain ⟨fromThem, away⟩ := past
  rw [decryptHistorical_addressed addressed, opened]
  simp only [if_pos (Or.inl fromThem), away, ne_eq, not_false_eq_true, and_true, false_and, if_false]
  by_cases fromUs : src = (crypto.derivePublicKey privateKey).first
  · simp only [fromUs, if_true, decide_true]
  · simp only [fromUs, if_false, decide_false]

/-- The two ways agree on a packet that is not decrypted yet, exactly when it is not
one that the scan decrypts past its address. -/
theorem decryptHistorical_agrees_iff (hex : contact.publicKey = toHex contactKey.bytes)
    (sole : SoleContact db contact) (unlinked : db.links packet.id = none) :
    (decryptHistorical crypto privateKey contactKey.bytes contact.publicKey db packet).1.linkedContent
        packet.id =
      (processDirectMessage crypto privateKey db packet).1.linkedContent packet.id ↔
    ¬ Misaddressed crypto privateKey contactKey contact db packet := by
  by_cases past : ∃ info dest src rest, Addressed packet info dest src rest ∧
      FromContactPastUs crypto privateKey contactKey dest src
  · obtain ⟨info, dest, src, rest, addressed, past⟩ := past
    have live := processDirectMessage_past addressed sole.only hex past
    rw [live, Database.linkedContent_none unlinked]
    cases opened : crypto.open? privateKey contactKey.bytes info.payload with
    | none =>
        rw [decryptHistorical_addressed addressed, opened]
        refine iff_of_true (Database.linkedContent_none unlinked) ?_
        rintro ⟨info', dest', src', rest', message, addressed', -, opened', -⟩
        obtain ⟨rfl, -, -⟩ := addressed.unique addressed'
        rw [opened] at opened'
        contradiction
    | some message =>
        rw [decryptHistorical_past addressed past opened]
        generalize direction : decide (src = (crypto.derivePublicKey privateKey).first) = outgoing
        have outcome := sole.outcome (packet.heard (some info)) message outgoing
        by_cases storable : Storable db contact message outgoing
        · have stored := outcome.linkedContent sole unlinked storable
          refine iff_of_false ?_ ?_
          · intro nothing
            exact Option.some_ne_none _ (stored.symm.trans nothing)
          · intro clear
            exact clear ⟨info, dest, src, rest, message, addressed, past, opened, direction ▸ storable⟩
        · refine iff_of_true (outcome.linkedContent_none unlinked storable) ?_
          rintro ⟨info', dest', src', rest', message', addressed', -, opened', storable'⟩
          obtain ⟨rfl, -, rfl⟩ := addressed.unique addressed'
          rw [opened] at opened'
          cases opened'
          rw [direction] at storable'
          exact storable storable'
  · have clear : ∀ info dest src rest, Addressed packet info dest src rest →
        ¬ FromContactPastUs crypto privateKey contactKey dest src :=
      fun info dest src rest addressed isPast => past ⟨info, dest, src, rest, addressed, isPast⟩
    rw [decryptHistorical_eq sole.only hex clear]
    refine iff_of_true rfl ?_
    rintro ⟨info, dest, src, rest, message, addressed, isPast, -⟩
    exact clear info dest src rest addressed isPast

/-- For every packet of the store, whatever the scan did before and does afterwards:
the scan stores the packet's message as the live path would, with the store as the
scan finds it, exactly when the packet is not misaddressed. -/
theorem historical_agrees_iff (hex : contact.publicKey = toHex contactKey.bytes)
    (sole : SoleContact db contact) (earlier : List RawPacket) (packet : RawPacket)
    (later : List RawPacket) (distinct : ∀ other ∈ earlier ++ later, other.id ≠ packet.id)
    (unlinked : db.links packet.id = none) :
    let run := runHistoricalDmDecryption crypto privateKey contactKey.bytes contact.publicKey db
    (run (earlier ++ packet :: later)).linkedContent packet.id =
      (processDirectMessage crypto privateKey (run earlier) packet).1.linkedContent packet.id ↔
    ¬ Misaddressed crypto privateKey contactKey contact (run earlier) packet := by
  intro run
  have others {packets : List RawPacket} (part : packets ⊆ earlier ++ later) :
      ∀ other ∈ streamUndecryptedTextMessages db packets, other.id ≠ packet.id :=
    fun other member => distinct other (part (List.mem_of_mem_filter member))
  have found : SoleContact (run earlier) contact := scan_sole crypto privateKey _ sole _
  have still : (run earlier).links packet.id = none := by
    have kept := scan_other crypto privateKey contactKey.bytes sole (.inl unlinked) _
      (others (List.subset_append_left _ _))
    exact kept.2.trans unlinked
  have new : (db.getLinkedMessageId packet.id).isNone = true := by
    simp only [Database.getLinkedMessageId, unlinked, Option.isNone_none]
  by_cases text : getPacketPayloadType packet.data = some textMessage
  · have whole : run (earlier ++ packet :: later) = scan crypto privateKey contactKey.bytes
        contact.publicKey (decryptHistorical crypto privateKey contactKey.bytes contact.publicKey
          (run earlier) packet).1 (streamUndecryptedTextMessages db later) := by
      simp only [run, runHistoricalDmDecryption, streamUndecryptedTextMessages]
      rw [List.filter_append, List.filter_cons_of_pos (by simp [new, text]),
        scan_append crypto privateKey _ sole]
      exact scan_cons crypto privateKey _ found packet _
    have kept := scan_other crypto privateKey contactKey.bytes
      (decryptHistorical_sole crypto privateKey contactKey.bytes found packet)
      (decryptHistorical_own crypto privateKey contactKey.bytes found still) _
      (others (List.subset_append_right _ _))
    rw [whole, kept.1]
    exact decryptHistorical_agrees_iff hex found still
  · have whole : run (earlier ++ packet :: later) = scan crypto privateKey contactKey.bytes
        contact.publicKey (run earlier) (streamUndecryptedTextMessages db later) := by
      simp only [run, runHistoricalDmDecryption, streamUndecryptedTextMessages]
      rw [List.filter_append, List.filter_cons_of_neg (by simp [text]),
        scan_append crypto privateKey _ sole]
    have kept := scan_other crypto privateKey contactKey.bytes found (.inl still) _
      (others (List.subset_append_right _ _))
    have unaddressed : ∀ info dest src rest, ¬ Addressed packet info dest src rest :=
      fun info dest src rest addressed => text addressed.picked
    rw [whole, kept.1, processDirectMessage_unaddressed unaddressed]
    refine iff_of_true rfl ?_
    rintro ⟨info, dest, src, rest, message, addressed, -⟩
    exact unaddressed info dest src rest addressed

/-- Primitives under which a packet carries its plain text. -/
def plainCrypto : Crypto where
  scalarmultBase _ := ⟨List.replicate 32 0x11, rfl⟩
  scalarmult _ _ := some (List.replicate 32 0)
  hmacSha256 _ _ := List.replicate 32 0
  aesEcbDecrypt _ ciphertext := some ciphertext

def peerKey : PublicKey := ⟨List.replicate 32 0x22, rfl⟩

def peer : Contact := ⟨toHex peerKey.bytes, some "peer", 1⟩

/-- The text "hi" from the peer's address byte. -/
def greeting (dest : UInt8) : RawPacket :=
  ⟨7, [0x09, 0x00, dest, 0x22, 0, 0, 50, 0, 0, 0, 0, 104, 105, 0, 0, 0, 0, 0, 0, 0, 0, 0], 100⟩

def peerOnly : Database := { Database.empty with contacts := [peer] }

theorem greeting_to_us_agrees :
    (runHistoricalDmDecryption plainCrypto [] peerKey.bytes peer.publicKey peerOnly
        [greeting 0x11]).linkedContent 7 = some ⟨false, "hi", some 50, peer.publicKey⟩ ∧
      (processDirectMessage plainCrypto [] peerOnly (greeting 0x11)).1.linkedContent 7 =
        some ⟨false, "hi", some 50, peer.publicKey⟩ := by
  have sole : SoleContact peerOnly peer :=
    ⟨Database.consistent_contacts empty_consistent (by simp [peer, lower_toHex]), rfl⟩
  have clear : ¬ Misaddressed plainCrypto [] peerKey peer peerOnly (greeting 0x11) := by
    rintro ⟨info, dest, src, rest, message, addressed, past, -⟩
    have first : (parsePacket (greeting 0x11).data).bind (·.payload.head?) = some 0x11 := by
      decide +kernel
    rw [addressed.parsed, Option.bind_some, addressed.payload] at first
    exact past.2 (Option.some.inj first)
  have agree := (historical_agrees_iff rfl sole [] (greeting 0x11) [] (by simp) rfl).mpr clear
  have stored : (runHistoricalDmDecryption plainCrypto [] peerKey.bytes peer.publicKey peerOnly
      [greeting 0x11]).linkedContent 7 = some ⟨false, "hi", some 50, peer.publicKey⟩ := by
    decide +kernel
  exact ⟨stored, agree.symm.trans stored⟩

/-- The same text to somebody else is stored as a message of the peer to us by the scan,
and passed over when it is heard. -/
theorem greeting_to_another_stored :
    (runHistoricalDmDecryption plainCrypto [] peerKey.bytes peer.publicKey peerOnly
        [greeting 0x33]).linkedContent 7 = some ⟨false, "hi", some 50, peer.publicKey⟩ ∧
      (processDirectMessage plainCrypto [] peerOnly (greeting 0x33)).1.linkedContent 7 = none := by
  constructor
  · decide +kernel
  · decide +kernel

end Meshloom.Packet
