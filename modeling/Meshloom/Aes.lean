import Mathlib.Data.BitVec
import Mathlib.Data.Finite.Prod
import Mathlib.Data.List.GetD
import Mathlib.Logic.Function.Iterate
import Mathlib.Tactic.FinCases
import Meshloom.BlockCipher

/-! AES with keys of 128 bits, as its standard FIPS 197 defines it: bytes are the elements of
GF(2^8), the state is a matrix of them, and a round substitutes its bytes, shifts its rows, mixes
its columns and adds four words of the key schedule. -/
namespace Meshloom.Aes

abbrev Byte := BitVec 8

/-- Rows and columns. -/
abbrev State := Fin 4 → Fin 4 → Byte

/-- Four bytes, the first in front. -/
abbrev Word := BitVec 32

def Word.byte (w : Word) (r : Fin 4) : Byte := w.extractLsb' (24 - 8 * r) 8

def Word.ofBytes (bytes : Fin 4 → Byte) : Word := bytes 0 ++ bytes 1 ++ bytes 2 ++ bytes 3

section Field

/-- The product with x, modulo x^8 + x^4 + x^3 + x + 1. -/
def xTimes (b : Byte) : Byte := (b <<< 1) ^^^ (if b.msb then 0x1b else 0)

/-- The first bits of the second factor choose what of the multiples by the powers of x is added. -/
def mulBits : Nat → Byte → Byte → Byte
  | 0, _, _ => 0
  | bits + 1, b, c => (if c.getLsbD 0 then b else 0) ^^^ mulBits bits (xTimes b) (c >>> 1)

def mul (b c : Byte) : Byte := mulBits 8 b c

/-- The inverses for the product, by the upper and the lower four bits. Zero has zero. -/
def inverses : List (List Byte) := [
  [0x00, 0x01, 0x8d, 0xf6, 0xcb, 0x52, 0x7b, 0xd1, 0xe8, 0x4f, 0x29, 0xc0, 0xb0, 0xe1, 0xe5, 0xc7],
  [0x74, 0xb4, 0xaa, 0x4b, 0x99, 0x2b, 0x60, 0x5f, 0x58, 0x3f, 0xfd, 0xcc, 0xff, 0x40, 0xee, 0xb2],
  [0x3a, 0x6e, 0x5a, 0xf1, 0x55, 0x4d, 0xa8, 0xc9, 0xc1, 0x0a, 0x98, 0x15, 0x30, 0x44, 0xa2, 0xc2],
  [0x2c, 0x45, 0x92, 0x6c, 0xf3, 0x39, 0x66, 0x42, 0xf2, 0x35, 0x20, 0x6f, 0x77, 0xbb, 0x59, 0x19],
  [0x1d, 0xfe, 0x37, 0x67, 0x2d, 0x31, 0xf5, 0x69, 0xa7, 0x64, 0xab, 0x13, 0x54, 0x25, 0xe9, 0x09],
  [0xed, 0x5c, 0x05, 0xca, 0x4c, 0x24, 0x87, 0xbf, 0x18, 0x3e, 0x22, 0xf0, 0x51, 0xec, 0x61, 0x17],
  [0x16, 0x5e, 0xaf, 0xd3, 0x49, 0xa6, 0x36, 0x43, 0xf4, 0x47, 0x91, 0xdf, 0x33, 0x93, 0x21, 0x3b],
  [0x79, 0xb7, 0x97, 0x85, 0x10, 0xb5, 0xba, 0x3c, 0xb6, 0x70, 0xd0, 0x06, 0xa1, 0xfa, 0x81, 0x82],
  [0x83, 0x7e, 0x7f, 0x80, 0x96, 0x73, 0xbe, 0x56, 0x9b, 0x9e, 0x95, 0xd9, 0xf7, 0x02, 0xb9, 0xa4],
  [0xde, 0x6a, 0x32, 0x6d, 0xd8, 0x8a, 0x84, 0x72, 0x2a, 0x14, 0x9f, 0x88, 0xf9, 0xdc, 0x89, 0x9a],
  [0xfb, 0x7c, 0x2e, 0xc3, 0x8f, 0xb8, 0x65, 0x48, 0x26, 0xc8, 0x12, 0x4a, 0xce, 0xe7, 0xd2, 0x62],
  [0x0c, 0xe0, 0x1f, 0xef, 0x11, 0x75, 0x78, 0x71, 0xa5, 0x8e, 0x76, 0x3d, 0xbd, 0xbc, 0x86, 0x57],
  [0x0b, 0x28, 0x2f, 0xa3, 0xda, 0xd4, 0xe4, 0x0f, 0xa9, 0x27, 0x53, 0x04, 0x1b, 0xfc, 0xac, 0xe6],
  [0x7a, 0x07, 0xae, 0x63, 0xc5, 0xdb, 0xe2, 0xea, 0x94, 0x8b, 0xc4, 0xd5, 0x9d, 0xf8, 0x90, 0x6b],
  [0xb1, 0x0d, 0xd6, 0xeb, 0xc6, 0x0e, 0xcf, 0xad, 0x08, 0x4e, 0xd7, 0xe3, 0x5d, 0x50, 0x1e, 0xb3],
  [0x5b, 0x23, 0x38, 0x34, 0x68, 0x46, 0x03, 0x8c, 0xdd, 0x9c, 0x7d, 0xa0, 0xcd, 0x1a, 0x41, 0x1c]]

def inverse (b : Byte) : Byte := (inverses.getD (b.toNat / 16) []).getD (b.toNat % 16) 0

example : ∀ b : Byte, b ≠ 0 → mul b (inverse b) = 1 := by decide +kernel

theorem xTimes_xor (a b : Byte) : xTimes (a ^^^ b) = xTimes a ^^^ xTimes b := by
  have carry (c d e : Byte) : c ^^^ d ^^^ e = c ^^^ e ^^^ d := by
    rw [BitVec.xor_assoc, BitVec.xor_comm d e, BitVec.xor_assoc]
  rw [xTimes, xTimes, xTimes, BitVec.shiftLeft_xor_distrib, BitVec.msb_xor]
  cases a.msb <;> cases b.msb
  · simp
  · simp [BitVec.xor_assoc]
  · simp [carry]
  · calc
      _ = a <<< 1 ^^^ b <<< 1 ^^^ (0x1b ^^^ 0x1b) := by simp
      _ = _ := by simp only [if_true]; ac_rfl

/-- The product is linear in its first factor. -/
theorem mul_xor (a b c : Byte) : mul (a ^^^ b) c = mul a c ^^^ mul b c := by
  have split (bits : Nat) (a b c : Byte) :
      mulBits bits (a ^^^ b) c = mulBits bits a c ^^^ mulBits bits b c := by
    induction bits generalizing a b c with
    | zero => simp [mulBits]
    | succ bits ih =>
        rw [mulBits, mulBits, mulBits, xTimes_xor, ih]
        cases c.getLsbD 0
        · simp
        · simp only [if_true]
          ac_rfl
  exact split 8 a b c

/-- The substitution box: the inverse, then an affine map over the bits. -/
def subByte (b : Byte) : Byte :=
  let b := inverse b
  b ^^^ b.rotateLeft 1 ^^^ b.rotateLeft 2 ^^^ b.rotateLeft 3 ^^^ b.rotateLeft 4 ^^^ 0x63

def invSubByte (b : Byte) : Byte :=
  inverse (b.rotateLeft 1 ^^^ b.rotateLeft 3 ^^^ b.rotateLeft 6 ^^^ 0x05)

theorem invSubByte_subByte : ∀ b, invSubByte (subByte b) = b := by decide +kernel

instance finiteByte : Finite Byte := Finite.of_equiv (Fin (2 ^ 8)) BitVec.equivFin.symm.toEquiv

theorem subByte_invSubByte (b : Byte) : subByte (invSubByte b) = b := by
  have left : Function.LeftInverse invSubByte subByte := invSubByte_subByte
  exact left.rightInverse_of_surjective (Finite.surjective_of_injective left.injective) b

end Field

section Rounds
variable (s : State)

def subBytes : State := fun r c => subByte (s r c)

def shiftRows : State := fun r c => s r (c + r)

def mixColumns : State := fun r c =>
  mul (s r c) 0x02 ^^^ mul (s (r + 1) c) 0x03 ^^^ s (r + 2) c ^^^ s (r + 3) c

/-- Adds one word to each column. -/
def addRoundKey (words : Fin 4 → Word) : State := fun r c => s r c ^^^ (words c).byte r

def invSubBytes : State := fun r c => invSubByte (s r c)

def invShiftRows : State := fun r c => s r (c - r)

def invMixColumns : State := fun r c =>
  mul (s r c) 0x0e ^^^ mul (s (r + 1) c) 0x0b ^^^ mul (s (r + 2) c) 0x0d ^^^ mul (s (r + 3) c) 0x09

@[simp]
theorem invSubBytes_subBytes : invSubBytes (subBytes s) = s := by
  funext r c
  exact invSubByte_subByte (s r c)

@[simp]
theorem invShiftRows_shiftRows : invShiftRows (shiftRows s) = s := by
  funext r c
  exact congrArg (s r) (sub_add_cancel c r)

@[simp]
theorem addRoundKey_addRoundKey (words : Fin 4 → Word) :
    addRoundKey (addRoundKey s words) words = s := by
  funext r c
  simp only [addRoundKey]
  rw [BitVec.xor_assoc, BitVec.xor_self, BitVec.xor_zero]

/-- What the byte of one row has in the product of the two matrices. -/
def Unmixes (b : Byte) : Prop :=
  mul (mul b 0x02) 0x0e ^^^ mul b 0x0b ^^^ mul b 0x0d ^^^ mul (mul b 0x03) 0x09 = b ∧
    mul (mul b 0x03) 0x0e ^^^ mul (mul b 0x02) 0x0b ^^^ mul b 0x0d ^^^ mul b 0x09 = 0 ∧
    mul b 0x0e ^^^ mul (mul b 0x03) 0x0b ^^^ mul (mul b 0x02) 0x0d ^^^ mul b 0x09 = 0 ∧
    mul b 0x0e ^^^ mul b 0x0b ^^^ mul (mul b 0x03) 0x0d ^^^ mul (mul b 0x02) 0x09 = 0

instance decidableUnmixes (b : Byte) : Decidable (Unmixes b) := inferInstanceAs (Decidable (_ ∧ _))

theorem xor_cross (a b c d e f g h : Byte) :
    (a ^^^ b) ^^^ (c ^^^ d) ^^^ (e ^^^ f) ^^^ (g ^^^ h) =
      (a ^^^ c ^^^ e ^^^ g) ^^^ (b ^^^ d ^^^ f ^^^ h) := by
  ac_rfl

theorem Unmixes.xor (first : Unmixes a) (second : Unmixes b) : Unmixes (a ^^^ b) := by
  obtain ⟨own, one, two, three⟩ := first
  obtain ⟨own', one', two', three'⟩ := second
  have nothing : (0 : Byte) ^^^ 0 = 0 := BitVec.xor_self
  simp only [Unmixes, mul_xor, xor_cross, own, own', one, one', two, two', three, three', nothing,
    and_self]

theorem byte_nibbles : ∀ b : Byte,
    BitVec.ofNat 8 (16 * (b.toNat / 16)) ^^^ BitVec.ofNat 8 (b.toNat % 16) = b := by
  decide +kernel

/-- Everything is linear in the byte, so that its halves can be tried by themselves. -/
theorem mul_mul (b : Byte) : Unmixes b := by
  have halves : ∀ n < 16, Unmixes (BitVec.ofNat 8 (16 * n)) ∧ Unmixes (BitVec.ofNat 8 n) := by
    decide +kernel
  have high : b.toNat / 16 < 16 := by
    have bound := b.isLt
    omega
  rw [← byte_nibbles b]
  exact (halves _ high).1.xor (halves _ (Nat.mod_lt _ (by decide))).2

theorem unmix (a b c d : Byte) :
    mul (mul a 0x02 ^^^ mul b 0x03 ^^^ c ^^^ d) 0x0e ^^^
      mul (mul b 0x02 ^^^ mul c 0x03 ^^^ d ^^^ a) 0x0b ^^^
      mul (mul c 0x02 ^^^ mul d 0x03 ^^^ a ^^^ b) 0x0d ^^^
      mul (mul d 0x02 ^^^ mul a 0x03 ^^^ b ^^^ c) 0x09 = a := by
  obtain ⟨own, _, _, _⟩ := mul_mul a
  obtain ⟨_, first, _, _⟩ := mul_mul b
  obtain ⟨_, _, second, _⟩ := mul_mul c
  obtain ⟨_, _, _, third⟩ := mul_mul d
  rw [mul_xor, mul_xor, mul_xor, mul_xor, mul_xor, mul_xor, mul_xor, mul_xor, mul_xor, mul_xor,
    mul_xor, mul_xor]
  calc
    _ = (mul (mul a 0x02) 0x0e ^^^ mul a 0x0b ^^^ mul a 0x0d ^^^ mul (mul a 0x03) 0x09) ^^^
        (mul (mul b 0x03) 0x0e ^^^ mul (mul b 0x02) 0x0b ^^^ mul b 0x0d ^^^ mul b 0x09) ^^^
        (mul c 0x0e ^^^ mul (mul c 0x03) 0x0b ^^^ mul (mul c 0x02) 0x0d ^^^ mul c 0x09) ^^^
        (mul d 0x0e ^^^ mul d 0x0b ^^^ mul (mul d 0x03) 0x0d ^^^ mul (mul d 0x02) 0x09) := by
      ac_rfl
    _ = a := by
      rw [own, first, second, third]
      simp

@[simp]
theorem invMixColumns_mixColumns : invMixColumns (mixColumns s) = s := by
  have turn : ∀ r : Fin 4, r + 1 + 1 = r + 2 ∧ r + 1 + 2 = r + 3 ∧ r + 1 + 3 = r ∧
      r + 2 + 1 = r + 3 ∧ r + 2 + 2 = r ∧ r + 2 + 3 = r + 1 ∧
      r + 3 + 1 = r ∧ r + 3 + 2 = r + 1 ∧ r + 3 + 3 = r + 2 := by decide
  funext r c
  obtain ⟨t11, t12, t13, t21, t22, t23, t31, t32, t33⟩ := turn r
  have column := unmix (s r c) (s (r + 1) c) (s (r + 2) c) (s (r + 3) c)
  simpa only [invMixColumns, mixColumns, t11, t12, t13, t21, t22, t23, t31, t32, t33] using column

end Rounds

section Cipher

def rotWord (w : Word) : Word := w.rotateLeft 8

def subWord (w : Word) : Word := .ofBytes fun r => subByte (w.byte r)

/-- The power of x in the first byte. -/
def rcon (j : Nat) : Word := .ofBytes fun r => if r = 0 then xTimes^[j - 1] 0x01 else 0

/-- The words of the key and some more, each the sum of the one before and of the one four back. -/
def schedule (key : Fin 4 → Word) : Nat → List Word
  | 0 => List.ofFn key
  | count + 1 =>
    let w := schedule key count
    let i := count + 4
    let temp := w.getD (i - 1) 0
    let temp := if i % 4 = 0 then subWord (rotWord temp) ^^^ rcon (i / 4) else temp
    w ++ [w.getD (i - 4) 0 ^^^ temp]

theorem length_schedule (key : Fin 4 → Word) (count : Nat) :
    (schedule key count).length = count + 4 := by
  induction count with
  | zero => rfl
  | succ count ih => rw [schedule, List.length_append, ih]; rfl

def roundKey (key : Fin 4 → Word) (round : Nat) : Fin 4 → Word :=
  fun c => (schedule key 40).getD (4 * round + c) 0

/-- The state after some of the rounds that mix the columns. -/
def afterRounds (key : Fin 4 → Word) (s : State) : Nat → State
  | 0 => addRoundKey s (roundKey key 0)
  | round + 1 =>
    addRoundKey (mixColumns (shiftRows (subBytes (afterRounds key s round))))
      (roundKey key (round + 1))

def cipher (key : Fin 4 → Word) (s : State) : State :=
  addRoundKey (shiftRows (subBytes (afterRounds key s 9))) (roundKey key 10)

/-- The inverse of the rounds that mix the columns, from one down to the first. -/
def beforeRounds (key : Fin 4 → Word) : Nat → State → State
  | 0, s => s
  | round + 1, s =>
    beforeRounds key round
      (invMixColumns (addRoundKey (invSubBytes (invShiftRows s)) (roundKey key (round + 1))))

def invCipher (key : Fin 4 → Word) (s : State) : State :=
  addRoundKey (invSubBytes (invShiftRows
    (beforeRounds key 9 (addRoundKey s (roundKey key 10))))) (roundKey key 0)

/-- The inverse rounds lead from the last substitution back to the first. -/
theorem beforeRounds_afterRounds (key : Fin 4 → Word) (s : State) (rounds : Nat) :
    beforeRounds key rounds (shiftRows (subBytes (afterRounds key s rounds))) =
      shiftRows (subBytes (afterRounds key s 0)) := by
  induction rounds with
  | zero => rfl
  | succ round ih =>
      rw [beforeRounds, invShiftRows_shiftRows, invSubBytes_subBytes,
        show afterRounds key s (round + 1) = addRoundKey _ (roundKey key (round + 1)) from rfl,
        addRoundKey_addRoundKey, invMixColumns_mixColumns, ih]

theorem invCipher_cipher (key : Fin 4 → Word) (s : State) : invCipher key (cipher key s) = s := by
  rw [invCipher, cipher, addRoundKey_addRoundKey, beforeRounds_afterRounds, invShiftRows_shiftRows,
    invSubBytes_subBytes, afterRounds, addRoundKey_addRoundKey]

instance finiteState : Finite State := inferInstanceAs (Finite (Fin 4 → Fin 4 → Byte))

theorem cipher_invCipher (key : Fin 4 → Word) (s : State) : cipher key (invCipher key s) = s := by
  have left : Function.LeftInverse (invCipher key) (cipher key) := invCipher_cipher key
  have onto : Function.Surjective (cipher key) := Finite.surjective_of_injective left.injective
  exact left.rightInverse_of_surjective onto s

end Cipher

section Blocks

/-- Keys, and blocks of the text: sixteen bytes, column by column. -/
abbrev Block := Fin 16 → Byte

def stateOf (block : Block) : State := fun r c => block (.ofNat 16 (r + 4 * c))

def blockOf (s : State) : Block := fun i => s (.ofNat 4 i) (.ofNat 4 (i / 4))

@[simp]
theorem stateOf_blockOf (s : State) : stateOf (blockOf s) = s := by
  funext r c
  fin_cases r <;> fin_cases c <;> rfl

@[simp]
theorem blockOf_stateOf (block : Block) : blockOf (stateOf block) = block := by
  funext i
  fin_cases i <;> rfl

def keyWords (key : Block) : Fin 4 → Word :=
  fun i => .ofBytes fun r => key (.ofNat 16 (4 * i + r))

def encryptBlock (key block : Block) : Block := blockOf (cipher (keyWords key) (stateOf block))

def decryptBlock (key block : Block) : Block := blockOf (invCipher (keyWords key) (stateOf block))

theorem decryptBlock_encryptBlock (key block : Block) :
    decryptBlock key (encryptBlock key block) = block := by
  rw [decryptBlock, encryptBlock, stateOf_blockOf, invCipher_cipher, blockOf_stateOf]

theorem encryptBlock_decryptBlock (key block : Block) :
    encryptBlock key (decryptBlock key block) = block := by
  rw [decryptBlock, encryptBlock, stateOf_blockOf, cipher_invCipher, blockOf_stateOf]

/-- The block at the start of some bytes. -/
def toBlock (bytes : List Byte) : Block := fun i => bytes.getD i 0

theorem ofFn_toBlock {bytes : List Byte} (length : bytes.length = 16) :
    List.ofFn (toBlock bytes) = bytes := by
  refine List.ext_getElem (by simp [length]) fun i low high => ?_
  rw [List.getElem_ofFn, toBlock, List.getD_eq_getElem _ _ high]

theorem toBlock_ofFn (block : Block) : toBlock (List.ofFn block) = block := by
  funext i
  rw [toBlock, List.getD_eq_getElem _ _ (by simp), List.getElem_ofFn]

def aes128 : BlockCipher 16 Block Byte where
  encrypt key bytes := List.ofFn (encryptBlock key (toBlock bytes))
  decrypt key bytes := List.ofFn (decryptBlock key (toBlock bytes))
  length_encrypt _ _ _ := List.length_ofFn
  length_decrypt _ _ _ := List.length_ofFn
  decrypt_encrypt key bytes length := by
    rw [toBlock_ofFn, decryptBlock_encryptBlock, ofFn_toBlock length]
  encrypt_decrypt key bytes length := by
    rw [toBlock_ofFn, encryptBlock_decryptBlock, ofFn_toBlock length]

end Blocks

end Meshloom.Aes
