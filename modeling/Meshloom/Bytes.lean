import Mathlib

/-! Byte strings: little-endian integers and hexadecimal text. -/
namespace Meshloom.Bytes

def fromLittleEndian (bytes : List UInt8) : Nat := Nat.ofDigits 256 (bytes.map UInt8.toNat)

def toLittleEndian : Nat → Nat → List UInt8
  | 0, _ => []
  | width + 1, value => UInt8.ofNat value :: toLittleEndian width (value / 256)

@[simp]
theorem length_toLittleEndian (width value : Nat) : (toLittleEndian width value).length = width := by
  induction width generalizing value with
  | zero => rfl
  | succ width ih => simp only [toLittleEndian, List.length_cons, ih]

theorem fromLittleEndian_toLittleEndian (width : Nat) {value : Nat} (fits : value < 256 ^ width) :
    fromLittleEndian (toLittleEndian width value) = value := by
  induction width generalizing value with
  | zero =>
      have zero : value = 0 := by simpa using fits
      rw [zero]
      rfl
  | succ width ih =>
      have quotient : value / 256 < 256 ^ width := by
        rw [pow_succ] at fits
        exact Nat.div_lt_of_lt_mul (by omega)
      have tail := ih quotient
      simp only [fromLittleEndian] at tail
      simp only [toLittleEndian, fromLittleEndian, List.map_cons, Nat.ofDigits_cons, tail,
        UInt8.toNat_ofNat']
      omega

theorem toLittleEndian_fromLittleEndian (bytes : List UInt8) :
    toLittleEndian bytes.length (fromLittleEndian bytes) = bytes := by
  induction bytes with
  | nil => rfl
  | cons byte rest ih =>
      have bound := byte.toNat_lt
      have split : fromLittleEndian (byte :: rest) = byte.toNat + 256 * fromLittleEndian rest := by
        simp only [fromLittleEndian, List.map_cons, Nat.ofDigits_cons]
      have high : fromLittleEndian (byte :: rest) / 256 = fromLittleEndian rest := by omega
      have low : UInt8.ofNat (fromLittleEndian (byte :: rest)) = byte := by
        apply UInt8.toNat_inj.mp
        rw [UInt8.toNat_ofNat', split]
        omega
      rw [List.length_cons, toLittleEndian, high, low, ih]

/-- The sixteen digits of a hexadecimal text, lower case. -/
def hexDigit (nibble : Nat) : Char :=
  Char.ofNat (if nibble < 10 then 0x30 + nibble else 0x57 + nibble)

/-- The value of a hexadecimal digit of either case. -/
def hexValue (c : Char) : Option Nat :=
  if '0' ≤ c ∧ c ≤ '9' then some (c.toNat - 0x30)
  else if 'a' ≤ c ∧ c ≤ 'f' then some (c.toNat - 0x57)
  else if 'A' ≤ c ∧ c ≤ 'F' then some (c.toNat - 0x37)
  else none

/-- `bytes.hex()`. -/
def toHex (bytes : List UInt8) : List Char :=
  bytes.flatMap fun byte => [hexDigit (byte.toNat / 16), hexDigit (byte.toNat % 16)]

@[simp]
theorem toHex_nil : toHex [] = [] := rfl

theorem toHex_cons (byte : UInt8) (rest : List UInt8) :
    toHex (byte :: rest) =
      hexDigit (byte.toNat / 16) :: hexDigit (byte.toNat % 16) :: toHex rest := rfl

@[simp]
theorem length_toHex (bytes : List UInt8) : (toHex bytes).length = 2 * bytes.length := by
  induction bytes with
  | nil => rfl
  | cons byte rest ih =>
      simp only [toHex_cons, List.length_cons, ih]
      omega

/-- Every byte takes two digits, so a cut between bytes is a cut of the text. -/
theorem drop_toHex (n : Nat) (bytes : List UInt8) :
    (toHex bytes).drop (2 * n) = toHex (bytes.drop n) := by
  induction n generalizing bytes with
  | zero => rfl
  | succ n ih =>
      cases bytes with
      | nil => simp only [toHex_nil, List.drop_nil]
      | cons byte rest =>
          rw [toHex_cons, show 2 * (n + 1) = 2 * n + 1 + 1 by omega]
          simpa only [List.drop_succ_cons] using ih rest

theorem hexValue_hexDigit : ∀ n < 16, hexValue (hexDigit n) = some n := by decide

/-- The whitespace that `bytes.fromhex` skips between two bytes. -/
def isAsciiSpace (c : Char) : Bool := (9 ≤ c.toNat && c.toNat ≤ 13) || c.toNat == 32

theorem isAsciiSpace_toLower {c : Char} (ascii : c.toNat < 128) :
    isAsciiSpace c.toLower = isAsciiSpace c := by
  have table : ∀ n < 128, isAsciiSpace (Char.ofNat n).toLower = isAsciiSpace (Char.ofNat n) := by
    decide
  simpa only [Char.ofNat_toNat] using table c.toNat ascii

theorem hexValue_ascii {c : Char} (digit : (hexValue c).isSome = true) :
    c.toNat < 128 ∧ c ≠ 'k' ∧ isAsciiSpace c = false := by
  have ascii : c.toNat < 128 := by
    have below (d : Char) (small : d.toNat < 128) (le : c ≤ d) : c.toNat < 128 :=
      lt_of_le_of_lt (UInt32.le_iff_toNat_le.mp le) small
    unfold hexValue at digit
    split at digit
    · exact below '9' (by decide) ‹_ ∧ _›.2
    split at digit
    · exact below 'f' (by decide) ‹_ ∧ _›.2
    split at digit
    · exact below 'F' (by decide) ‹_ ∧ _›.2
    · contradiction
  have table : ∀ n < 128, (hexValue (Char.ofNat n)).isSome = true →
      Char.ofNat n ≠ 'k' ∧ isAsciiSpace (Char.ofNat n) = false := by
    decide
  exact ⟨ascii, by simpa only [Char.ofNat_toNat, digit, true_implies] using table c.toNat ascii⟩

theorem isAsciiSpace_ascii {c : Char} (space : isAsciiSpace c = true) :
    c.toNat < 128 ∧ c ≠ 'k' := by
  have ascii : c.toNat < 128 := by
    simp only [isAsciiSpace, Bool.or_eq_true, Bool.and_eq_true, decide_eq_true_eq, beq_iff_eq] at space
    omega
  refine ⟨ascii, ?_⟩
  rintro rfl
  contradiction

/-- `bytes.fromhex`, with `none` for its `ValueError`. -/
def fromHex : List Char → Option (List UInt8)
  | [] => some []
  | [c] => if isAsciiSpace c then some [] else none
  | c :: d :: rest =>
    if isAsciiSpace c then fromHex (d :: rest)
    else do
      let top ← hexValue c
      let bottom ← hexValue d
      return UInt8.ofNat (16 * top + bottom) :: (← fromHex rest)

theorem hexDigit_plain : ∀ n < 16, isAsciiSpace (hexDigit n) = false ∧ (hexDigit n).toLower = hexDigit n := by
  decide

theorem fromHex_toHex (bytes : List UInt8) : fromHex (toHex bytes) = some bytes := by
  induction bytes with
  | nil => rfl
  | cons byte rest ih =>
      have bound := byte.toNat_lt
      have top : byte.toNat / 16 < 16 := by omega
      have bottom : byte.toNat % 16 < 16 := by omega
      have value : UInt8.ofNat (16 * (byte.toNat / 16) + byte.toNat % 16) = byte := by
        rw [Nat.div_add_mod, UInt8.ofNat_toNat]
      simp only [toHex_cons, fromHex, (hexDigit_plain _ top).1, Bool.false_eq_true, if_false,
        hexValue_hexDigit _ top, hexValue_hexDigit _ bottom, ih, Option.bind_eq_bind,
        Option.bind_some, value, Option.pure_def]

theorem toHex_injective : Function.Injective toHex := by
  intro bytes other same
  have back := congrArg fromHex same
  rw [fromHex_toHex, fromHex_toHex] at back
  exact Option.some.inj back

theorem toLower_toHex (bytes : List UInt8) : (toHex bytes).map Char.toLower = toHex bytes := by
  induction bytes with
  | nil => rfl
  | cons byte rest ih =>
      have bound := byte.toNat_lt
      simp only [toHex_cons, List.map_cons, ih, (hexDigit_plain (byte.toNat / 16) (by omega)).2,
        (hexDigit_plain (byte.toNat % 16) (by omega)).2]

/-- `fromHex` accepts nothing but hexadecimal digits and spaces. -/
theorem fromHex_chars (valid : fromHex text = some bytes) :
    ∀ c ∈ text, isAsciiSpace c = true ∨ (hexValue c).isSome = true := by
  fun_induction fromHex text generalizing bytes with
  | case1 => simp
  | case2 c space => simp [space]
  | case3 c plain => contradiction
  | case4 c d rest space ih =>
      intro other member
      rcases List.mem_cons.mp member with rfl | member
      · exact .inl space
      · exact ih valid other member
  | case5 c d rest plain ih =>
      simp only [Option.bind_eq_bind, Option.bind_eq_some_iff] at valid
      obtain ⟨top, high, bottom, low, tail, decoded, _⟩ := valid
      intro other member
      simp only [List.mem_cons] at member
      rcases member with rfl | rfl | member
      · exact .inr (by rw [high]; rfl)
      · exact .inr (by rw [low]; rfl)
      · exact ih decoded other member

end Meshloom.Bytes
