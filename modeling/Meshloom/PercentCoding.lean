import Meshloom.Bytes
import Meshloom.Utf16
import Meshloom.Utf8Text

/-! `encodeURIComponent` and `decodeURIComponent` of ECMAScript, over strings of code units. A
character that is escaped is written as its octets of UTF-8; the octets that follow one another
are read together, and a string that cannot be read or written is a `URIError`. -/
namespace Meshloom.PercentCoding
open Utf16

/-- A unit that stands for itself, or an escaped octet. -/
inductive Piece where
  | unit (u : UInt16)
  | octet (byte : UInt8)

def percent : UInt16 := ascii '%'

def hexUnit (nibble : Nat) : UInt16 := ascii (Bytes.hexDigit nibble).toUpper

def unitHex (u : UInt16) : Option Nat :=
  if u.toNat < 128 then Bytes.hexValue (Char.ofNat u.toNat) else none

/-- The pieces of a string, unless an escape lacks its two digits. -/
def pieces : Units → Option (List Piece)
  | [] => some []
  | u :: rest =>
    if u ≠ percent then (pieces rest).map (.unit u :: ·)
    else match rest with
      | high :: low :: rest =>
        match unitHex high, unitHex low with
        | some a, some b => (pieces rest).map (.octet (UInt8.ofNat (a * 16 + b)) :: ·)
        | _, _ => none
      | _ => none

/-- Octets are read when they are UTF-8. -/
def readOctets (octets : List UInt8) : Option Units :=
  if Utf8.encode (Utf8.decodeReplace octets) = octets then
    some (Utf16.encode (Utf8.decodeReplace octets))
  else none

/-- The units of the pieces, behind octets that are not read yet. -/
def join : List UInt8 → List Piece → Option Units
  | octets, [] => readOctets octets
  | octets, .octet byte :: rest => join (octets ++ [byte]) rest
  | octets, .unit u :: rest => do return (← readOctets octets) ++ u :: (← join [] rest)

def decodeURIComponent (s : Units) : Option Units := (pieces s).bind (join [])

/-- The characters of a string without lone surrogates. -/
def codePoints : Units → Option (List Char)
  | [] => some []
  | u :: rest =>
    if IsLow u then none
    else if IsHigh u then
      match rest with
      | low :: rest =>
        if IsLow low then
          (codePoints rest).map (Char.ofNat
            (0x10000 + (u.toNat - 0xD800) * 0x400 + (low.toNat - 0xDC00)) :: ·)
        else none
      | [] => none
    else (codePoints rest).map (Char.ofNat u.toNat :: ·)

/-- The characters that are not escaped. -/
def unreserved (c : Char) : Bool :=
  c.isAlphanum || c ∈ ['-', '_', '.', '!', '~', '*', '\'', '(', ')']

def escapeByte (byte : UInt8) : Units :=
  [percent, hexUnit (byte.toNat / 16), hexUnit (byte.toNat % 16)]

def escapeChar (c : Char) : Units :=
  if unreserved c then [ascii c] else (String.utf8EncodeChar c).flatMap escapeByte

def escape (text : List Char) : Units := text.flatMap escapeChar

def encodeURIComponent (s : Units) : Option Units := (codePoints s).map escape

section Characters
variable {c : Char} {text : List Char}

theorem codePoints_unit {u : UInt16} (noHigh : ¬ IsHigh u) (noLow : ¬ IsLow u) (rest : Units) :
    codePoints (u :: rest) = (codePoints rest).map (Char.ofNat u.toNat :: ·) := by
  rw [codePoints.eq_def]
  simp only [noLow, noHigh, if_false]

theorem not_isLow_of_isHigh {u : UInt16} (high : IsHigh u) : ¬ IsLow u := by
  have := high.2
  rintro ⟨low, _⟩
  omega

theorem codePoints_pair {high low : UInt16} (isHigh : IsHigh high) (isLow : IsLow low)
    (rest : Units) : codePoints (high :: low :: rest) = (codePoints rest).map
      (Char.ofNat (0x10000 + (high.toNat - 0xD800) * 0x400 + (low.toNat - 0xDC00)) :: ·) := by
  rw [codePoints.eq_def]
  simp only [not_isLow_of_isHigh isHigh, isHigh, isLow, if_true, if_false]

theorem codePoints_encode (text : List Char) : codePoints (encode text) = some text := by
  induction text with
  | nil => rfl
  | cons c rest ih =>
      rw [encode_cons]
      obtain ⟨u, single, value, noHigh, noLow⟩ | ⟨high, low, pair, isHigh, isLow, value⟩ :=
        units_cases c
      · rw [single, List.singleton_append, codePoints_unit noHigh noLow, ih, value, Char.ofNat_toNat]
        rfl
      · rw [pair, List.cons_append, List.singleton_append, codePoints_pair isHigh isLow, ih, ← value,
          Char.ofNat_toNat]
        rfl

/-- The first character of a string that is read is written with its first unit or two. -/
theorem codePoints_cons {u : UInt16} {rest : Units} (read : codePoints (u :: rest) = some text) :
    ∃ c tail after, text = c :: tail ∧ u :: rest = units c ++ after ∧
      codePoints after = some tail := by
  by_cases low : IsLow u
  · rw [codePoints.eq_def] at read
    simp [low] at read
  by_cases high : IsHigh u
  · cases rest with
    | nil =>
        rw [codePoints.eq_def] at read
        simp [low, high] at read
    | cons v rest =>
        by_cases isLow : IsLow v
        · rw [codePoints_pair high isLow] at read
          obtain ⟨tail, later, rfl⟩ := Option.map_eq_some_iff.mp read
          refine ⟨_, tail, rest, rfl, ?_, later⟩
          obtain ⟨least, most⟩ := high
          obtain ⟨least', most'⟩ := isLow
          have valid : Nat.isValidChar
              (0x10000 + (u.toNat - 0xD800) * 0x400 + (v.toNat - 0xDC00)) := by
            simp only [Nat.isValidChar]
            omega
          rw [units, Char.toNat_ofNat, if_pos valid, if_neg (by omega)]
          have first : 0xD800 + (0x10000 + (u.toNat - 0xD800) * 0x400 + (v.toNat - 0xDC00) -
              0x10000) / 0x400 = u.toNat := by omega
          have second : 0xDC00 + (0x10000 + (u.toNat - 0xD800) * 0x400 + (v.toNat - 0xDC00) -
              0x10000) % 0x400 = v.toNat := by omega
          rw [first, second, UInt16.ofNat_toNat, UInt16.ofNat_toNat]
          rfl
        · rw [codePoints.eq_def] at read
          simp [low, high, isLow] at read
  · rw [codePoints_unit high low] at read
    obtain ⟨tail, later, rfl⟩ := Option.map_eq_some_iff.mp read
    refine ⟨_, tail, rest, rfl, ?_, later⟩
    have bound := u.toNat_lt
    have valid : Nat.isValidChar u.toNat := by
      simp only [Nat.isValidChar]
      simp only [IsHigh, IsLow] at high low
      omega
    rw [units, Char.toNat_ofNat, if_pos valid, if_pos (by omega), UInt16.ofNat_toNat]
    rfl

/-- A string without lone surrogates is that of its characters. -/
theorem encode_of_codePoints {s : Units} (read : codePoints s = some text) : encode text = s := by
  induction text generalizing s with
  | nil =>
      cases s with
      | nil => rfl
      | cons u rest =>
          obtain ⟨_, _, _, same, _⟩ := codePoints_cons read
          contradiction
  | cons c tail ih =>
      cases s with
      | nil => simp [codePoints] at read
      | cons u rest =>
          obtain ⟨_, _, after, same, parts, later⟩ := codePoints_cons read
          obtain ⟨rfl, rfl⟩ := List.cons.inj same
          rw [encode_cons, ih later, parts]

end Characters

section RoundTrip
variable {c : Char} {text : List Char}

theorem unitHex_hexUnit : ∀ n < 16, unitHex (hexUnit n) = some n := by
  decide +kernel

theorem hexUnit_plain : ∀ n < 16, hexUnit n ≠ ascii '/' := by
  decide +kernel

theorem isAlphanum_ascii (letter : c.isAlphanum = true) : c.toNat < 128 := by
  simp only [Char.isAlphanum, Char.isAlpha, Char.isUpper, Char.isLower, Char.isDigit,
    Bool.or_eq_true, Bool.and_eq_true, decide_eq_true_eq, ge_iff_le, UInt32.le_iff_toNat_le] at letter
  change c.val.toNat < 128
  have upper : 'Z'.val.toNat < 128 := by decide
  have lower : 'z'.val.toNat < 128 := by decide
  have digit : '9'.val.toNat < 128 := by decide
  omega

theorem unreserved_plain (plain : unreserved c = true) : c.toNat < 128 ∧ c ≠ '%' ∧ c ≠ '/' := by
  refine ⟨?_, ?_, ?_⟩
  · rw [unreserved, Bool.or_eq_true, decide_eq_true_eq] at plain
    rcases plain with letter | mark
    · exact isAlphanum_ascii letter
    · simp only [List.mem_cons, List.not_mem_nil, or_false] at mark
      rcases mark with rfl | rfl | rfl | rfl | rfl | rfl | rfl | rfl | rfl <;> decide
  · rintro rfl
    exact absurd plain (by decide)
  · rintro rfl
    exact absurd plain (by decide)

/-- The pieces that a character is written with. -/
def piecesOf (c : Char) : List Piece :=
  if unreserved c then [.unit (ascii c)] else (String.utf8EncodeChar c).map .octet

theorem pieces_escapeByte (byte : UInt8) (rest : Units) :
    pieces (escapeByte byte ++ rest) = (pieces rest).map (.octet byte :: ·) := by
  have bound := byte.toNat_lt
  have same : byte.toNat / 16 * 16 + byte.toNat % 16 = byte.toNat := by omega
  rw [escapeByte, List.cons_append, List.cons_append, List.cons_append, List.nil_append,
    pieces.eq_def]
  simp only [unitHex_hexUnit _ (show byte.toNat / 16 < 16 by omega),
    unitHex_hexUnit _ (show byte.toNat % 16 < 16 by omega), same, UInt8.ofNat_toNat, ne_eq,
    not_true, if_false]

theorem pieces_unit {u : UInt16} (plain : u ≠ percent) (rest : Units) :
    pieces (u :: rest) = (pieces rest).map (.unit u :: ·) := by
  rw [pieces.eq_def]
  simp [plain]

theorem pieces_escapeBytes (bytes : List UInt8) (rest : Units) :
    pieces (bytes.flatMap escapeByte ++ rest) = (pieces rest).map (bytes.map .octet ++ ·) := by
  induction bytes with
  | nil => simp
  | cons byte bytes ih =>
      rw [List.flatMap_cons, List.append_assoc, pieces_escapeByte, ih, Option.map_map]
      rfl

theorem ascii_injective {a b : Char} (first : a.toNat < 128) (second : b.toNat < 128)
    (same : ascii a = ascii b) : a = b :=
  eq_of_ascii second (toNat_ascii first) same

theorem pieces_escapeChar (c : Char) (rest : Units) :
    pieces (escapeChar c ++ rest) = (pieces rest).map (piecesOf c ++ ·) := by
  unfold escapeChar piecesOf
  split
  · rename_i plain
    obtain ⟨small, notPercent, _⟩ := unreserved_plain plain
    have other : ascii c ≠ percent := fun same =>
      notPercent (ascii_injective small (by decide) same)
    rw [List.singleton_append, pieces_unit other]
    rfl
  · exact pieces_escapeBytes _ rest

theorem pieces_escape (text : List Char) : pieces (escape text) = some (text.flatMap piecesOf) := by
  induction text with
  | nil => rfl
  | cons c rest ih =>
      rw [escape, List.flatMap_cons, pieces_escapeChar]
      change (pieces (escape rest)).map _ = _
      rw [ih]
      rfl

theorem readOctets_encode (text : List Char) :
    readOctets (Utf8.encode text) = some (encode text) := by
  rw [readOctets, Utf8.decodeReplace_encode, if_pos rfl]

theorem join_octets (octets bytes : List UInt8) (rest : List Piece) :
    join octets (bytes.map .octet ++ rest) = join (octets ++ bytes) rest := by
  induction bytes generalizing octets with
  | nil => simp
  | cons byte bytes ih =>
      rw [List.map_cons, List.cons_append, join, ih, List.append_assoc, List.singleton_append]

/-- The octets that wait are those of the characters before. -/
theorem join_piecesOf (before text : List Char) :
    join (Utf8.encode before) (text.flatMap piecesOf) = some (encode (before ++ text)) := by
  induction text generalizing before with
  | nil => simp [join, readOctets_encode]
  | cons c rest ih =>
      rw [List.flatMap_cons, piecesOf]
      split
      · rename_i plain
        have later := ih []
        rw [List.nil_append] at later
        have start : join [] (rest.flatMap piecesOf) = some (encode rest) := later
        rw [List.singleton_append, join, readOctets_encode, start, encode_append, encode_cons,
          units_ascii (unreserved_plain plain).1]
        rfl
      · have grown : Utf8.encode before ++ String.utf8EncodeChar c = Utf8.encode (before ++ [c]) := by
          simp [Utf8.encode]
        rw [join_octets, grown, ih, List.append_assoc, List.singleton_append]

/-- What was encoded is decoded again. -/
theorem decode_escape (text : List Char) : decodeURIComponent (escape text) = some (encode text) := by
  rw [decodeURIComponent, pieces_escape, Option.bind_some]
  exact join_piecesOf [] text

/-- No slash is left in a component. -/
theorem slash_not_mem_escape (text : List Char) : ascii '/' ∉ escape text := by
  rw [escape, List.mem_flatMap]
  rintro ⟨c, _, member⟩
  unfold escapeChar at member
  split at member
  · rename_i plain
    obtain ⟨small, _, notSlash⟩ := unreserved_plain plain
    exact notSlash (ascii_injective small (by decide) (List.mem_singleton.mp member).symm)
  · obtain ⟨byte, _, member⟩ := List.mem_flatMap.mp member
    have bound := byte.toNat_lt
    have high := hexUnit_plain (byte.toNat / 16) (by omega)
    have low := hexUnit_plain (byte.toNat % 16) (by omega)
    simp only [escapeByte, List.mem_cons, List.not_mem_nil, or_false] at member
    rcases member with first | second | third
    · exact absurd first (by decide)
    · exact high second.symm
    · exact low third.symm

theorem escapeChar_ne_nil (c : Char) : escapeChar c ≠ [] := by
  unfold escapeChar
  split
  · exact List.cons_ne_nil _ _
  · intro empty
    rw [List.flatMap_eq_nil_iff] at empty
    obtain ⟨byte, bytes, some_byte⟩ := List.exists_cons_of_ne_nil (String.utf8EncodeChar_ne_nil (c := c))
    exact absurd (empty byte (by rw [some_byte]; exact List.mem_cons_self)) (List.cons_ne_nil _ _)

theorem escape_eq_nil_iff : escape text = [] ↔ text = [] := by
  cases text with
  | nil => simp [escape]
  | cons c rest => simp [escape, escapeChar_ne_nil]

theorem join_eq_nil {octets : List UInt8} {rest : List Piece} (read : join octets rest = some []) :
    octets = [] ∧ rest = [] := by
  induction rest generalizing octets with
  | nil =>
      rw [join, readOctets, Option.ite_none_right_eq_some, Option.some.injEq] at read
      obtain ⟨same, empty⟩ := read
      rw [encode_eq_nil_iff.mp empty] at same
      exact ⟨same.symm, rfl⟩
  | cons piece rest ih =>
      cases piece with
      | octet byte => simpa using (ih read).1
      | unit u =>
          simp only [join, Option.bind_eq_bind, Option.bind_eq_some_iff, Option.pure_def,
            Option.some.injEq, List.append_eq_nil_iff] at read
          obtain ⟨_, _, _, _, _, empty⟩ := read
          contradiction

/-- Only the empty string is decoded to the empty one. -/
theorem decode_eq_nil {s : Units} (decoded : decodeURIComponent s = some []) : s = [] := by
  obtain ⟨read, found, joined⟩ := Option.bind_eq_some_iff.mp decoded
  obtain ⟨_, rfl⟩ := join_eq_nil joined
  cases s with
  | nil => rfl
  | cons u rest =>
      rw [pieces.eq_def] at found
      dsimp only at found
      repeat' split at found
      all_goals simp at found

end RoundTrip

end Meshloom.PercentCoding
