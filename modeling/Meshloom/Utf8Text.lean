import Meshloom.Utf8

/-! Text as UTF-8, and the decoding that puts a replacement character in the place
of what is not UTF-8. A truncated character is replaced once, and the byte that cuts
it off is looked at again. -/
namespace Meshloom.Utf8

/-- `text.encode("utf-8")`. -/
def encode (text : List Char) : List UInt8 := text.flatMap String.utf8EncodeChar

def replacement : Char := '\uFFFD'

/-- The first byte of a character; a byte that starts none is replaced. -/
def startReplace (byte : Nat) : Option Pending × List Char :=
  match start byte with
  | (none, []) => (none, [replacement])
  | begun => begun

def stepReplace : Option Pending → Nat → Option Pending × List Char
  | none, byte => startReplace byte
  | some p, byte =>
    if p.low ≤ byte ∧ byte ≤ p.high then step (some p) byte
    else ((startReplace byte).1, replacement :: (startReplace byte).2)

def decodeReplaceFrom : Option Pending → List UInt8 → List Char
  | none, [] => []
  | some _, [] => [replacement]
  | p, byte :: rest =>
    (stepReplace p byte.toNat).2 ++ decodeReplaceFrom (stepReplace p byte.toNat).1 rest

/-- `bytes.decode("utf-8", errors="replace")`. -/
def decodeReplace (bytes : List UInt8) : List Char := decodeReplaceFrom none bytes

theorem decodeReplaceFrom_cons (p : Option Pending) (byte : UInt8) (rest : List UInt8) :
    decodeReplaceFrom p (byte :: rest) =
      (stepReplace p byte.toNat).2 ++ decodeReplaceFrom (stepReplace p byte.toNat).1 rest := by
  cases p <;> rfl

theorem startReplace_ascii {byte : Nat} (ascii : byte < 0x80) :
    startReplace byte = (none, [Char.ofNat byte]) := by
  rw [startReplace, start_ascii ascii]

theorem startReplace_two : ∀ high < 0x20, 2 ≤ high →
    startReplace (high + 0xC0) = (some ⟨0, 0x80, 0xBF, high⟩, []) := by
  decide

theorem startReplace_three : ∀ high < 0x10, startReplace (high + 0xE0) =
    (some ⟨1, if high = 0 then 0xA0 else 0x80, if high = 0xD then 0x9F else 0xBF, high⟩, []) := by
  decide

theorem startReplace_four : ∀ high < 5, startReplace (high + 0xF0) =
    (some ⟨2, if high = 0 then 0x90 else 0x80, if high = 4 then 0x8F else 0xBF, high⟩, []) := by
  decide

/-- A byte that goes on with the character begun. -/
theorem stepReplace_more {low high : Nat} (least : low ≤ bits + 0x80) (greatest : bits + 0x80 ≤ high)
    (few : bits < 0x40) (missing value : Nat) :
    stepReplace (some ⟨missing + 1, low, high, value⟩) (bits + 0x80) =
      (some ⟨missing, 0x80, 0xBF, 0x40 * value + bits⟩, []) := by
  have low : (bits + 0x80) % 0x40 = bits := by omega
  simp only [stepReplace, if_pos (And.intro least greatest), step, low]

/-- The last byte of a character. -/
theorem stepReplace_last {low high : Nat} (least : low ≤ bits + 0x80) (greatest : bits + 0x80 ≤ high)
    (few : bits < 0x40) (value : Nat) :
    stepReplace (some ⟨0, low, high, value⟩) (bits + 0x80) =
      (none, [Char.ofNat (0x40 * value + bits)]) := by
  have low : (bits + 0x80) % 0x40 = bits := by omega
  simp only [stepReplace, if_pos (And.intro least greatest), step, low]

theorem ofNat_byte {value : Nat} (small : value < 256) : (UInt8.ofNat value).toNat = value := by
  rw [UInt8.toNat_ofNat']
  omega

/-- One character is read back, whatever follows. -/
theorem decodeReplaceFrom_char (c : Char) (rest : List UInt8) :
    decodeReplaceFrom none (String.utf8EncodeChar c ++ rest) = c :: decodeReplaceFrom none rest := by
  have valid : c.val.toNat < 0xD800 ∨ 0xDFFF < c.val.toNat ∧ c.val.toNat < 0x110000 := c.valid
  have same : Char.ofNat c.val.toNat = c := Char.ofNat_toNat c
  unfold String.utf8EncodeChar
  dsimp only
  generalize c.val.toNat = v at valid same ⊢
  split
  · rw [List.singleton_append, decodeReplaceFrom_cons, ofNat_byte (by omega), stepReplace,
      startReplace_ascii (by omega), same]
    rfl
  split
  · have value : 0x40 * (v / 64 % 0x20) + v % 0x40 = v := by omega
    simp only [List.cons_append, List.nil_append, decodeReplaceFrom_cons]
    rw [ofNat_byte (by omega), ofNat_byte (by omega), stepReplace,
      startReplace_two _ (by omega) (by omega), stepReplace_last (by omega) (by omega) (by omega),
      value, same]
    rfl
  split
  · have value : 0x40 * (0x40 * (v / 4096 % 0x10) + v / 64 % 0x40) + v % 0x40 = v := by omega
    simp only [List.cons_append, List.nil_append, decodeReplaceFrom_cons]
    rw [ofNat_byte (by omega), ofNat_byte (by omega), ofNat_byte (by omega), stepReplace,
      startReplace_three _ (by omega), stepReplace_more (by split <;> omega) (by split <;> omega)
        (by omega), stepReplace_last (by omega) (by omega) (by omega), value, same]
    rfl
  · have value : 0x40 * (0x40 * (0x40 * (v / 262144 % 0x08) + v / 4096 % 0x40) + v / 64 % 0x40) +
        v % 0x40 = v := by omega
    simp only [List.cons_append, List.nil_append, decodeReplaceFrom_cons]
    rw [ofNat_byte (by omega), ofNat_byte (by omega), ofNat_byte (by omega), ofNat_byte (by omega),
      stepReplace, startReplace_four _ (by omega), stepReplace_more (by split <;> omega)
        (by split <;> omega) (by omega), stepReplace_more (by omega) (by omega) (by omega),
      stepReplace_last (by omega) (by omega) (by omega), value, same]
    rfl

theorem decodeReplace_encode (text : List Char) : decodeReplace (encode text) = text := by
  induction text with
  | nil => rfl
  | cons c rest ih =>
      rw [encode, List.flatMap_cons, decodeReplace, decodeReplaceFrom_char]
      exact congrArg (c :: ·) ih

end Meshloom.Utf8
