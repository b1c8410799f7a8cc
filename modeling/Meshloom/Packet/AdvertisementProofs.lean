import Meshloom.Packet.Advertisement

/-! What of an advertisement its signature covers. The signature check reads the
first 132 bytes of a payload, the parser reads the name to the end. -/
namespace Meshloom.Packet
open Bytes Text Utf8 Advertisement
variable {alnum : Alnum} {p q : List UInt8}

/-- The part of a payload that the verifier sees. -/
def signedPart (payload : List UInt8) : List UInt8 :=
  payload.take (advertHeaderSize + advertMaxAppDataSize)

theorem signedPart_eq (payload : List UInt8) :
    signedPart payload = payload.take 36 ++ ((payload.drop 36).take 64 ++
      (payload.drop advertHeaderSize).take advertMaxAppDataSize) := by
  have cut : signedPart payload = payload.take (36 + (64 + 32)) := rfl
  rw [cut, List.take_add, List.take_add, List.drop_drop]
  rfl

theorem verifierInput_eq (long : 101 ≤ p.length) :
    verifierInput p = some {
      publicKey := p.take 32
      message := p.take 36 ++ (p.drop advertHeaderSize).take advertMaxAppDataSize
      signature := (p.drop 36).take 64 } := by
  have whole : (p.drop advertHeaderSize).take (min (p.length - advertHeaderSize) advertMaxAppDataSize) =
      (p.drop advertHeaderSize).take advertMaxAppDataSize := by
    rw [Nat.min_comm, ← List.length_drop, ← List.take_take, List.take_length]
  rw [verifierInput, if_neg (by simp only [advertHeaderSize]; omega)]
  simp only [whole]

/-- The verifier is given the first 132 bytes, and nothing else. -/
theorem verifierInput_eq_iff (long : 101 ≤ p.length) (long' : 101 ≤ q.length) :
    verifierInput q = verifierInput p ↔ signedPart q = signedPart p := by
  rw [verifierInput_eq long, verifierInput_eq long', signedPart_eq, signedPart_eq]
  have starts : (q.take 36).length = (p.take 36).length := by
    rw [List.length_take, List.length_take]
    omega
  have middles : ((q.drop 36).take 64).length = ((p.drop 36).take 64).length := by
    simp only [List.length_take, List.length_drop]
    omega
  constructor
  · intro same
    simp only [Option.some.injEq, VerifierInput.mk.injEq] at same
    obtain ⟨start, appData⟩ := List.append_inj same.2.1 starts
    rw [start, same.2.2, appData]
  · intro same
    obtain ⟨start, rest⟩ := List.append_inj same starts
    obtain ⟨signature, appData⟩ := List.append_inj rest middles
    have key : q.take 32 = p.take 32 := by
      have shorter := congrArg (List.take 32) start
      rwa [List.take_take, List.take_take] at shorter
    rw [key, start, signature, appData]

theorem nameOffset_le (flags : Nat) : nameOffset flags ≤ 113 := by
  unfold nameOffset
  split_ifs <;> omega

def flagsOf (payload : List UInt8) : Nat := (payload.getD 100 0).toNat

/-- The parser on a payload that is longer than what is signed: the name is all that
the rest can touch. -/
theorem parseAdvertisement_append (alnum : Alnum) {signed : List UInt8}
    (length : signed.length = 132) :
    ∃ advert : ParsedAdvertisement, ∀ rest, parseAdvertisement alnum (signed ++ rest) =
      some { advert with
        name := if hasName (flagsOf signed) then
          cleanName alnum (signed.drop (nameOffset (flagsOf signed)) ++ rest) else none } := by
  refine ⟨⟨toHex (signed.take 32), fromLittleEndian ((signed.drop 32).take 4), none,
    (if hasLocation (flagsOf signed) then location signed else none).map Prod.fst,
    (if hasLocation (flagsOf signed) then location signed else none).map Prod.snd,
    deviceRole (flagsOf signed)⟩, fun rest => ?_⟩
  have field (skip width : Nat) (inside : skip + width ≤ 132) :
      ((signed ++ rest).drop skip).take width = (signed.drop skip).take width := by
    rw [List.drop_append_of_le_length (by omega),
      List.take_append_of_le_length (by rw [List.length_drop]; omega)]
  have flags : ((signed ++ rest).getD 100 0).toNat = flagsOf signed := by
    rw [List.getD_append _ _ _ _ (by omega)]
    rfl
  have place : location (signed ++ rest) = location signed := by
    simp only [location, field 101 4 (by decide), field 105 4 (by decide)]
  have offset := nameOffset_le (flagsOf signed)
  have total : (signed ++ rest).length = 132 + rest.length := by rw [List.length_append, length]
  have tooShort : ¬ (hasLocation (flagsOf signed) = true ∧ (signed ++ rest).length < 101 + 8) := by
    rw [total]
    omega
  have within : (signed ++ rest).length > nameOffset (flagsOf signed) := by
    rw [total]
    omega
  have key : (signed ++ rest).take 32 = signed.take 32 :=
    List.take_append_of_le_length (by omega)
  have name : (signed ++ rest).drop (nameOffset (flagsOf signed)) =
      signed.drop (nameOffset (flagsOf signed)) ++ rest :=
    List.drop_append_of_le_length (by omega)
  simp only [parseAdvertisement, flags, if_neg tooShort, if_neg (show ¬ (signed ++ rest).length < 101 by
    rw [total]; omega), key, field 32 4 (by decide), place, name, within, and_true]

theorem cleanName_null (alnum : Alnum) {start : List UInt8} (ended : 0 ∈ start)
    (rest other : List UInt8) : cleanName alnum (start ++ rest) = cleanName alnum (start ++ other) := by
  obtain ⟨front, back, rfl⟩ := List.append_of_mem ended
  have cut (rest : List UInt8) :
      (decodeIgnore (front ++ 0 :: back ++ rest)).takeWhile (· ≠ Char.ofNat 0) =
        (decodeIgnore front).takeWhile (· ≠ Char.ofNat 0) := by
    rw [List.append_assoc, List.cons_append, decodeIgnore_ascii _ _ (by decide),
      List.takeWhile_append]
    split
    · rename_i whole
      have all := (List.takeWhile_prefix _).eq_of_length whole
      simpa using all.symm
    · rfl
  simp only [cleanName, cut]

/-- A letter that is appended to an unfinished name becomes the end of the name. -/
theorem cleanName_letter (alnum : Alnum) {start : List UInt8} (unended : 0 ∉ start) (letter : UInt8)
    (ascii : letter.toNat < 0x80) (solid : isSpace (Char.ofNat letter.toNat) = false)
    (printable : ' ' ≤ Char.ofNat letter.toNat)
    (known : (Char.ofNat letter.toNat).isAlphanum = true) :
    ∃ front, cleanName alnum (start ++ [letter]) = some (front ++ [Char.ofNat letter.toNat]) := by
  set c := Char.ofNat letter.toNat
  have small : c.toNat < 128 := by
    have valid : letter.toNat.isValidChar := .inl (by omega)
    rw [Char.toNat_ofNat, if_pos valid]
    exact ascii
  have decoded : decodeIgnore (start ++ [letter]) = decodeIgnore start ++ [c] :=
    decodeIgnore_ascii _ _ ascii
  have unfinished : (decodeIgnore start ++ [c]).takeWhile (· ≠ Char.ofNat 0) = decodeIgnore start ++ [c] := by
    rw [List.takeWhile_eq_self_iff]
    intro d member
    rw [List.mem_append, List.mem_singleton] at member
    rw [decide_eq_true_eq]
    rintro rfl
    obtain found | null := member
    · exact decodeIgnore_null unended found
    · rw [← null] at known
      contradiction
  refine ⟨((decodeIgnore start).filter fun d => ' ' ≤ d || d = '\t').dropWhile isSpace, ?_⟩
  have kept : (decodeIgnore start ++ [c]).filter (fun d => ' ' ≤ d || d = '\t') =
      (decodeIgnore start).filter (fun d => ' ' ≤ d || d = '\t') ++ [c] := by
    rw [List.filter_append]
    simp [printable]
  simp only [cleanName, decoded, unfinished, kept, strip_concat _ solid]
  simp [alnum.ascii c small, known]

/-- The name of a payload cannot be changed behind the signature: there is no room
for it, there is no name, or a null byte ends it in the signed part. -/
def NameSigned (payload : List UInt8) : Prop :=
  payload.length < advertHeaderSize + advertMaxAppDataSize ∨ hasName (flagsOf payload) = false ∨
    0 ∈ (signedPart payload).drop (nameOffset (flagsOf payload))

/-- What is taken from the payload is the same for every payload that gives the
verifier the same input. -/
def CoveredBySignature (alnum : Alnum) (p : List UInt8) : Prop :=
  ∀ q, 101 ≤ q.length → verifierInput q = verifierInput p →
    parseAdvertisement alnum q = parseAdvertisement alnum p ∧
      ∀ verify, acceptAdvertisement alnum verify q = acceptAdvertisement alnum verify p

theorem acceptAdvertisement_congr (same : verifierInput q = verifierInput p)
    (parsed : parseAdvertisement alnum q = parseAdvertisement alnum p)
    (verify : VerifierInput → Bool) :
    acceptAdvertisement alnum verify q = acceptAdvertisement alnum verify p := by
  rw [acceptAdvertisement, acceptAdvertisement, verifyAdvertSignature, verifyAdvertSignature, same,
    parsed]

theorem eq_of_short (short : p.length < 132) (same : signedPart q = signedPart p) : q = p := by
  have whole : signedPart p = p := List.take_of_length_le (by
    simp only [advertHeaderSize, advertMaxAppDataSize]
    omega)
  have length := congrArg List.length same
  rw [whole] at length
  simp only [signedPart, List.length_take, advertHeaderSize, advertMaxAppDataSize] at length
  have whole' : signedPart q = q := List.take_of_length_le (by
    simp only [advertHeaderSize, advertMaxAppDataSize]
    omega)
  rw [← whole', same, whole]

theorem flagsOf_append {signed : List UInt8} (length : signed.length = 132) (rest : List UInt8) :
    flagsOf (signed ++ rest) = flagsOf signed := by
  rw [flagsOf, List.getD_append _ _ _ _ (by omega)]
  rfl

/-- An advertisement is covered by its signature unless its name runs on behind the
signed part. -/
theorem advert_covered_iff (long : 101 ≤ p.length) :
    CoveredBySignature alnum p ↔ NameSigned p := by
  by_cases short : p.length < 132
  · refine ⟨fun _ => .inl short, fun _ q long' given => ?_⟩
    obtain rfl := eq_of_short short ((verifierInput_eq_iff long long').mp given)
    exact ⟨rfl, fun _ => rfl⟩
  set signed := signedPart p with isSigned
  have length : signed.length = 132 := by
    simp only [isSigned, signedPart, List.length_take, advertHeaderSize, advertMaxAppDataSize]
    omega
  have whole : p = signed ++ p.drop 132 := (List.take_append_drop 132 p).symm
  have flags : flagsOf p = flagsOf signed := by rw [whole, flagsOf_append length]
  obtain ⟨advert, parsed⟩ := parseAdvertisement_append alnum length
  constructor
  · intro covered
    by_contra unsigned
    simp only [NameSigned, not_or, Bool.not_eq_false, flags] at unsigned
    obtain ⟨-, named, unended⟩ := unsigned
    -- two letters behind the signed part give two names
    have forged (letter : UInt8) : parseAdvertisement alnum (signed ++ [letter]) =
        parseAdvertisement alnum p := by
      have long' : 101 ≤ (signed ++ [letter]).length := by
        rw [List.length_append, length]
        omega
      refine (covered _ long' ((verifierInput_eq_iff long long').mpr ?_)).1
      exact List.take_left' length
    obtain ⟨front, first⟩ := cleanName_letter alnum unended 97 (by decide) (by decide)
      (by decide) (by decide)
    obtain ⟨front', second⟩ := cleanName_letter alnum unended 98 (by decide) (by decide)
      (by decide) (by decide)
    have same := (forged 97).trans (forged 98).symm
    rw [parsed, parsed, if_pos named, if_pos named, first, second] at same
    simp only [Option.some.injEq, ParsedAdvertisement.mk.injEq, true_and, and_true] at same
    exact absurd (List.append_inj_right' same rfl) (by decide)
  · intro condition q long' given
    have same := (verifierInput_eq_iff long long').mp given
    have whole' : q = signed ++ q.drop 132 := by
      rw [isSigned, ← same]
      exact (List.take_append_drop 132 q).symm
    have agree : parseAdvertisement alnum q = parseAdvertisement alnum p := by
      rw [whole, whole', parsed, parsed]
      split
      · rename_i named
        have ended : 0 ∈ signed.drop (nameOffset (flagsOf signed)) := by
          simpa [NameSigned, flags, named, short, advertHeaderSize, advertMaxAppDataSize] using condition
        rw [cleanName_null alnum ended _ (p.drop 132)]
      · rfl
    exact ⟨agree, acceptAdvertisement_congr given agree⟩

/-- A payload of the given flags and application data, with a zero key, timestamp
and signature. -/
def advertOf (flags : UInt8) (appData : List UInt8) : List UInt8 :=
  List.replicate 100 0 ++ flags :: appData

/-- The name of a short advertisement is covered. -/
theorem short_advert_covered :
    parseAdvertisement .asciiOnly (advertOf 0x81 [0x62, 0x6F, 0x62]) =
        some ⟨List.replicate 64 '0', 0, some ['b', 'o', 'b'], none, none, 1⟩ ∧
      CoveredBySignature .asciiOnly (advertOf 0x81 [0x62, 0x6F, 0x62]) := by
  refine ⟨by decide +kernel, (advert_covered_iff (by decide)).mpr (.inl (by decide))⟩

/-- A relay lengthens the name of an advertisement that fills the signed part. -/
theorem relay_renames :
    verifierInput (advertOf 0x81 (List.replicate 31 0x61)) =
        verifierInput (advertOf 0x81 (List.replicate 31 0x61 ++ [0x62])) ∧
      parseAdvertisement .asciiOnly (advertOf 0x81 (List.replicate 31 0x61)) ≠
        parseAdvertisement .asciiOnly (advertOf 0x81 (List.replicate 31 0x61 ++ [0x62])) ∧
      ¬ CoveredBySignature .asciiOnly (advertOf 0x81 (List.replicate 31 0x61)) := by
  have same : verifierInput (advertOf 0x81 (List.replicate 31 0x61 ++ [0x62])) =
      verifierInput (advertOf 0x81 (List.replicate 31 0x61)) := by decide +kernel
  have different : parseAdvertisement .asciiOnly (advertOf 0x81 (List.replicate 31 0x61)) ≠
      parseAdvertisement .asciiOnly (advertOf 0x81 (List.replicate 31 0x61 ++ [0x62])) := by
    decide +kernel
  exact ⟨same.symm, different, fun covered => different (covered _ (by simp [advertOf]) same).1.symm⟩

end Meshloom.Packet
