import Mathlib.Data.Fin.VecNotation
import Mathlib.Tactic.IntervalCases
import Meshloom.Aes

/-! The hand-written AES decryption of the frontend (`utils/parseGroupData.ts`). A typed array is
the function of its entries; the numbers that its shifts work on are their 32 bits. -/
namespace Meshloom.Packet.GroupDataAes
open Aes (Byte Block)

scoped instance sixteen_neZero : NeZero 16 := ⟨by decide⟩

scoped instance four_neZero : NeZero 4 := ⟨by decide⟩

set_option maxRecDepth 2000 in
def SBOX : List Byte := [
  0x63, 0x7c, 0x77, 0x7b, 0xf2, 0x6b, 0x6f, 0xc5, 0x30, 0x01, 0x67, 0x2b, 0xfe, 0xd7, 0xab, 0x76,
  0xca, 0x82, 0xc9, 0x7d, 0xfa, 0x59, 0x47, 0xf0, 0xad, 0xd4, 0xa2, 0xaf, 0x9c, 0xa4, 0x72, 0xc0,
  0xb7, 0xfd, 0x93, 0x26, 0x36, 0x3f, 0xf7, 0xcc, 0x34, 0xa5, 0xe5, 0xf1, 0x71, 0xd8, 0x31, 0x15,
  0x04, 0xc7, 0x23, 0xc3, 0x18, 0x96, 0x05, 0x9a, 0x07, 0x12, 0x80, 0xe2, 0xeb, 0x27, 0xb2, 0x75,
  0x09, 0x83, 0x2c, 0x1a, 0x1b, 0x6e, 0x5a, 0xa0, 0x52, 0x3b, 0xd6, 0xb3, 0x29, 0xe3, 0x2f, 0x84,
  0x53, 0xd1, 0x00, 0xed, 0x20, 0xfc, 0xb1, 0x5b, 0x6a, 0xcb, 0xbe, 0x39, 0x4a, 0x4c, 0x58, 0xcf,
  0xd0, 0xef, 0xaa, 0xfb, 0x43, 0x4d, 0x33, 0x85, 0x45, 0xf9, 0x02, 0x7f, 0x50, 0x3c, 0x9f, 0xa8,
  0x51, 0xa3, 0x40, 0x8f, 0x92, 0x9d, 0x38, 0xf5, 0xbc, 0xb6, 0xda, 0x21, 0x10, 0xff, 0xf3, 0xd2,
  0xcd, 0x0c, 0x13, 0xec, 0x5f, 0x97, 0x44, 0x17, 0xc4, 0xa7, 0x7e, 0x3d, 0x64, 0x5d, 0x19, 0x73,
  0x60, 0x81, 0x4f, 0xdc, 0x22, 0x2a, 0x90, 0x88, 0x46, 0xee, 0xb8, 0x14, 0xde, 0x5e, 0x0b, 0xdb,
  0xe0, 0x32, 0x3a, 0x0a, 0x49, 0x06, 0x24, 0x5c, 0xc2, 0xd3, 0xac, 0x62, 0x91, 0x95, 0xe4, 0x79,
  0xe7, 0xc8, 0x37, 0x6d, 0x8d, 0xd5, 0x4e, 0xa9, 0x6c, 0x56, 0xf4, 0xea, 0x65, 0x7a, 0xae, 0x08,
  0xba, 0x78, 0x25, 0x2e, 0x1c, 0xa6, 0xb4, 0xc6, 0xe8, 0xdd, 0x74, 0x1f, 0x4b, 0xbd, 0x8b, 0x8a,
  0x70, 0x3e, 0xb5, 0x66, 0x48, 0x03, 0xf6, 0x0e, 0x61, 0x35, 0x57, 0xb9, 0x86, 0xc1, 0x1d, 0x9e,
  0xe1, 0xf8, 0x98, 0x11, 0x69, 0xd9, 0x8e, 0x94, 0x9b, 0x1e, 0x87, 0xe9, 0xce, 0x55, 0x28, 0xdf,
  0x8c, 0xa1, 0x89, 0x0d, 0xbf, 0xe6, 0x42, 0x68, 0x41, 0x99, 0x2d, 0x0f, 0xb0, 0x54, 0xbb, 0x16]

/-- `INV_SBOX[SBOX[i]] = i` for each `i`. -/
def INV_SBOX : Byte → Byte :=
  (List.range 256).foldl (fun table i => Function.update table (SBOX.getD i 0) (.ofNat 8 i))
    fun _ => 0

def RCON : List Byte := [0x00, 0x01, 0x02, 0x04, 0x08, 0x10, 0x20, 0x40, 0x80, 0x1b, 0x36]

def xtime (value : Byte) : Byte := (value <<< 1) ^^^ (if value &&& 0x80 ≠ 0 then 0x1b else 0)

/-- The loop of `multiply` while `bb` is not zero. -/
def multiplyFrom (result aa : Byte) (bb : Nat) : Byte :=
  if bb = 0 then result
  else multiplyFrom (if bb &&& 1 ≠ 0 then result ^^^ aa else result) (xtime aa) (bb >>> 1)
termination_by bb
decreasing_by
  rw [Nat.shiftRight_eq_div_pow]
  omega

def multiply (a : Byte) (b : Nat) : Byte := multiplyFrom 0 a b

def word (byte : Byte) : BitVec 32 := byte.setWidth 32

def packed (a b c d : Byte) : BitVec 32 :=
  (word a <<< 24) ||| (word b <<< 16) ||| (word c <<< 8) ||| word d

/-- What the loop of `expandKey` assigns to `w[i]`. -/
def nextWord (w : Nat → BitVec 32) (i : Nat) : BitVec 32 :=
  let temp := w (i - 1)
  let temp := if i % 4 = 0 then
      let rotated := (temp <<< 8) ||| (temp >>> 24)
      let sub := packed (SBOX.getD ((rotated >>> 24) &&& 0xff).toNat 0)
        (SBOX.getD ((rotated >>> 16) &&& 0xff).toNat 0)
        (SBOX.getD ((rotated >>> 8) &&& 0xff).toNat 0) (SBOX.getD (rotated &&& 0xff).toNat 0)
      sub ^^^ (word (RCON.getD (i / 4) 0) <<< 24)
    else temp
  w (i - 4) ^^^ temp

/-- The entries of `new Uint32Array(44)`. -/
def expandKey (key : Block) : Nat → BitVec 32 :=
  let w := (List.range 4).foldl (fun w i => Function.update w i
    (packed (key (.ofNat 16 (i * 4))) (key (.ofNat 16 (i * 4 + 1))) (key (.ofNat 16 (i * 4 + 2)))
      (key (.ofNat 16 (i * 4 + 3))))) fun _ => 0
  (List.range' 4 40).foldl (fun w i => Function.update w i (nextWord w i)) w

/-- The byte `(word >>> shift) & 0xff`. -/
def byteAt (word : BitVec 32) (shift : Nat) : Byte := ((word >>> shift) &&& 0xff).setWidth 8

def addRoundKey (state : Block) (w : Nat → BitVec 32) (round : Nat) : Block := fun i =>
  state i ^^^ byteAt (w (round * 4 + i / 4)) (24 - 8 * (i % 4))

def invShiftRows (t : Block) : Block :=
  ![t 0, t 13, t 10, t 7, t 4, t 1, t 14, t 11, t 8, t 5, t 2, t 15, t 12, t 9, t 6, t 3]

def invSubBytes (state : Block) : Block := fun i => INV_SBOX (state i)

def invMixColumns (state : Block) : Block := fun j =>
  let i := j.val / 4 * 4
  let a0 := state (.ofNat 16 i)
  let a1 := state (.ofNat 16 (i + 1))
  let a2 := state (.ofNat 16 (i + 2))
  let a3 := state (.ofNat 16 (i + 3))
  ![multiply a0 0x0e ^^^ multiply a1 0x0b ^^^ multiply a2 0x0d ^^^ multiply a3 0x09,
    multiply a0 0x09 ^^^ multiply a1 0x0e ^^^ multiply a2 0x0b ^^^ multiply a3 0x0d,
    multiply a0 0x0d ^^^ multiply a1 0x09 ^^^ multiply a2 0x0e ^^^ multiply a3 0x0b,
    multiply a0 0x0b ^^^ multiply a1 0x0d ^^^ multiply a2 0x09 ^^^ multiply a3 0x0e]
    (.ofNat 4 (j % 4))

/-- The rounds from `round` down to the first. -/
def decryptRounds (w : Nat → BitVec 32) : Nat → Block → Block
  | 0, state => state
  | round + 1, state =>
    decryptRounds w round
      (invMixColumns (addRoundKey (invSubBytes (invShiftRows state)) w (round + 1)))

def decryptBlock (block : Block) (w : Nat → BitVec 32) : Block :=
  let state := addRoundKey block w 10
  let state := decryptRounds w 9 state
  addRoundKey (invSubBytes (invShiftRows state)) w 0

/-- The blocks of the ciphertext, whole ones as the caller makes sure. -/
def aes128EcbDecrypt (key : Block) (ciphertext : List Byte) : List Byte :=
  let w := expandKey key
  BlockCipher.codebook 16 (fun block => List.ofFn (decryptBlock (Aes.toBlock block) w)) ciphertext

section Tables

theorem SBOX_eq : SBOX = (List.range 256).map fun n => Aes.subByte (.ofNat 8 n) := by decide +kernel

theorem SBOX_subByte (b : Byte) : SBOX.getD b.toNat 0 = Aes.subByte b := by
  have listed : (List.range 256)[b.toNat]? = some b.toNat := List.getElem?_range b.isLt
  rw [SBOX_eq, List.getD_eq_getElem?_getD, List.getElem?_map, listed, Option.map_some,
    Option.getD_some, BitVec.ofNat_toNat, BitVec.setWidth_eq]

/-- A table that is filled by the values of another one. -/
theorem foldl_update {f : Nat → Byte} {g : Nat → Byte} (start : Byte → Byte) (indices : List Nat)
    (distinct : ∀ i ∈ indices, ∀ j ∈ indices, f i = f j → i = j) :
    ∀ i ∈ indices,
      indices.foldl (fun table i => Function.update table (f i) (g i)) start (f i) = g i := by
  induction indices using List.reverseRecOn with
  | nil => simp
  | append_singleton indices last ih =>
      intro i member
      rw [List.foldl_concat]
      by_cases same : f i = f last
      · rw [same, Function.update_self, distinct i member last (by simp) same]
      · rw [Function.update_of_ne same]
        have earlier : i ∈ indices := by
          rcases List.mem_append.mp member with earlier | eq
          · exact earlier
          · exact (same (congrArg f (List.mem_singleton.mp eq))).elim
        exact ih (fun i first j second => distinct i (List.mem_append_left _ first) j
          (List.mem_append_left _ second)) i earlier

theorem INV_SBOX_subByte (b : Byte) : INV_SBOX (Aes.subByte b) = b := by
  have entry (i : Nat) (low : i < 256) : SBOX.getD i 0 = Aes.subByte (.ofNat 8 i) := by
    rw [← SBOX_subByte, BitVec.toNat_ofNat, Nat.mod_eq_of_lt low]
  have distinct : ∀ i ∈ List.range 256, ∀ j ∈ List.range 256,
      SBOX.getD i 0 = SBOX.getD j 0 → i = j := by
    intro i low j low' same
    rw [entry i (List.mem_range.mp low), entry j (List.mem_range.mp low')] at same
    have back := congrArg (fun b => (Aes.invSubByte b).toNat) same
    simp only [Aes.invSubByte_subByte, BitVec.toNat_ofNat] at back
    rwa [Nat.mod_eq_of_lt (List.mem_range.mp low), Nat.mod_eq_of_lt (List.mem_range.mp low')] at back
  have filled := foldl_update (g := fun i => .ofNat 8 i) (fun _ => 0) _ distinct b.toNat
    (List.mem_range.mpr b.isLt)
  rw [SBOX_subByte] at filled
  exact filled.trans (BitVec.ofNat_toNat 8 b |>.trans (BitVec.setWidth_eq b))

theorem xtime_eq : ∀ b, xtime b = Aes.xTimes b := by decide +kernel

theorem mulBits_zero (bits : Nat) (b : Byte) : Aes.mulBits bits b 0#8 = 0#8 := by
  induction bits generalizing b with
  | zero => rfl
  | succ bits ih => simpa [Aes.mulBits] using ih (Aes.xTimes b)

/-- The loop adds the multiples that the bits still to come choose. -/
theorem multiplyFrom_eq (bits : Nat) (result aa : Byte) (bb : Nat) (few : bits ≤ 8)
    (low : bb < 2 ^ bits) :
    multiplyFrom result aa bb = result ^^^ Aes.mulBits bits aa (.ofNat 8 bb) := by
  induction bits generalizing result aa bb with
  | zero =>
      have done : bb = 0 := by omega
      rw [done, multiplyFrom]
      simp [Aes.mulBits]
  | succ bits ih =>
      rw [multiplyFrom]
      split
      · rename_i done
        rw [done, mulBits_zero]
        simp
      · have byte : bb < 2 ^ 8 := lt_of_lt_of_le low (Nat.pow_le_pow_right (by decide) few)
        have rest : bb >>> 1 < 2 ^ bits := by
          rw [Nat.shiftRight_eq_div_pow]
          omega
        have shifted : BitVec.ofNat 8 bb >>> 1 = .ofNat 8 (bb >>> 1) := by
          apply BitVec.eq_of_toNat_eq
          rw [BitVec.toNat_ushiftRight, BitVec.toNat_ofNat, BitVec.toNat_ofNat,
            Nat.mod_eq_of_lt byte, Nat.mod_eq_of_lt (by omega)]
        have bit : (BitVec.ofNat 8 bb).getLsbD 0 = decide (bb % 2 = 1) := by
          rw [BitVec.getLsbD_ofNat]
          simp [Nat.testBit_zero]
        rw [ih _ _ _ (by omega) rest, Aes.mulBits, shifted, bit, xtime_eq, Nat.and_one_is_mod]
        by_cases odd : bb % 2 = 1 <;> simp [odd, BitVec.xor_assoc]

theorem multiply_eq (a : Byte) (b : Nat) (low : b < 256) : multiply a b = Aes.mul a (.ofNat 8 b) := by
  rw [multiply, multiplyFrom_eq 8 0 a b le_rfl low, Aes.mul]
  exact BitVec.zero_xor

end Tables

section Steps

theorem stateOf_invShiftRows (state : Block) :
    Aes.stateOf (invShiftRows state) = Aes.invShiftRows (Aes.stateOf state) := by
  funext r c
  fin_cases r <;> fin_cases c <;> rfl

theorem stateOf_invSubBytes (state : Block) :
    Aes.stateOf (invSubBytes state) = Aes.invSubBytes (Aes.stateOf state) := by
  have box (b : Byte) : INV_SBOX b = Aes.invSubByte b := by
    have filled := INV_SBOX_subByte (Aes.invSubByte b)
    rwa [Aes.subByte_invSubByte] at filled
  funext r c
  simp only [Aes.stateOf, invSubBytes, Aes.invSubBytes, box]

theorem stateOf_invMixColumns (state : Block) :
    Aes.stateOf (invMixColumns state) = Aes.invMixColumns (Aes.stateOf state) := by
  funext r c
  have entries : Aes.stateOf (invMixColumns state) r c =
      (fun a0 a1 a2 a3 : Byte =>
        ![multiply a0 0x0e ^^^ multiply a1 0x0b ^^^ multiply a2 0x0d ^^^ multiply a3 0x09,
          multiply a0 0x09 ^^^ multiply a1 0x0e ^^^ multiply a2 0x0b ^^^ multiply a3 0x0d,
          multiply a0 0x0d ^^^ multiply a1 0x09 ^^^ multiply a2 0x0e ^^^ multiply a3 0x0b,
          multiply a0 0x0b ^^^ multiply a1 0x0d ^^^ multiply a2 0x09 ^^^ multiply a3 0x0e] r)
        (Aes.stateOf state 0 c) (Aes.stateOf state 1 c) (Aes.stateOf state 2 c)
        (Aes.stateOf state 3 c) := by
    fin_cases r <;> fin_cases c <;> rfl
  rw [entries]
  simp only [multiply_eq _ 0x0e (by decide), multiply_eq _ 0x0b (by decide),
    multiply_eq _ 0x0d (by decide), multiply_eq _ 0x09 (by decide)]
  have turn (a b c d : Byte) : a ^^^ b ^^^ c ^^^ d = b ^^^ c ^^^ d ^^^ a := by ac_rfl
  fin_cases r
  · rfl
  · exact turn _ _ _ _
  · exact (turn _ _ _ _).trans (turn _ _ _ _)
  · exact ((turn _ _ _ _).trans (turn _ _ _ _)).trans (turn _ _ _ _)

end Steps

section Words

theorem byteAt_eq (w : BitVec 32) (shift : Nat) : byteAt w shift = w.extractLsb' shift 8 := by
  apply BitVec.eq_of_getLsbD_eq
  intro i low
  have mask : ∀ i (low : i < 8), (0xff#8)[i] = true := by decide
  simp [byteAt, low, mask i low]

theorem packed_eq (a b c d : Byte) : packed a b c d = a ++ b ++ c ++ d := by
  apply BitVec.eq_of_getLsbD_eq
  intro i low
  simp only [packed, word, BitVec.getLsbD_or, BitVec.getLsbD_shiftLeft, BitVec.getLsbD_setWidth,
    BitVec.getLsbD_append]
  interval_cases i <;> simp

theorem SBOX_byteAt (w : BitVec 32) (shift : Nat) :
    SBOX.getD ((w >>> shift) &&& 0xff).toNat 0 = Aes.subByte (byteAt w shift) := by
  have index : ((w >>> shift) &&& 0xff).toNat = (byteAt w shift).toNat := by
    rw [byteAt, BitVec.toNat_setWidth, BitVec.toNat_and]
    exact (Nat.mod_eq_of_lt (lt_of_le_of_lt Nat.and_le_right (by decide))).symm
  rw [index, SBOX_subByte]

theorem RCON_rcon : ∀ j < 11, 0 < j → word (RCON.getD j 0) <<< 24 = Aes.rcon j := by decide

theorem nextWord_eq (w : Nat → BitVec 32) {i : Nat} (four : 4 ≤ i) (low : i < 44) :
    nextWord w i = w (i - 4) ^^^ if i % 4 = 0 then
      Aes.subWord (Aes.rotWord (w (i - 1))) ^^^ Aes.rcon (i / 4) else w (i - 1) := by
  unfold nextWord
  dsimp only
  split
  · rename_i turned
    have rotated : (w (i - 1) <<< 8) ||| (w (i - 1) >>> 24) = Aes.rotWord (w (i - 1)) := rfl
    have last (word : BitVec 32) :
        SBOX.getD (word &&& 0xff).toNat 0 = Aes.subByte (byteAt word 0) := by
      simpa using SBOX_byteAt word 0
    rw [rotated, SBOX_byteAt, SBOX_byteAt, SBOX_byteAt, last, packed_eq, byteAt_eq, byteAt_eq,
      byteAt_eq, byteAt_eq, RCON_rcon (i / 4) (by omega) (by omega)]
    rfl
  · rfl

/-- The loop fills in the key schedule. -/
theorem expandKey_eq (key : Block) (i : Nat) (low : i < 44) :
    expandKey key i = (Aes.schedule (Aes.keyWords key) 40).getD i 0 := by
  have filled (w : Nat → BitVec 32)
      (first : ∀ i < 4, w i = (List.ofFn (Aes.keyWords key)).getD i 0) (count : Nat)
      (few : count ≤ 40) : ∀ i < count + 4,
        (List.range' 4 count).foldl (fun w i => Function.update w i (nextWord w i)) w i =
          (Aes.schedule (Aes.keyWords key) count).getD i 0 := by
    induction count with
    | zero => exact first
    | succ count ih =>
        have earlier := ih (by omega)
        intro i low
        have length := Aes.length_schedule (Aes.keyWords key) count
        rw [List.range'_concat, List.foldl_concat, Aes.schedule, Nat.one_mul, Nat.add_comm 4 count]
        by_cases last : i = count + 4
        · rw [last, Function.update_self, nextWord_eq _ (by omega) (by omega), ← length,
            List.getD_append_right _ _ _ _ le_rfl, Nat.sub_self, length,
            earlier (count + 4 - 4) (by omega), earlier (count + 4 - 1) (by omega)]
          rfl
        · rw [Function.update_of_ne last, List.getD_append _ _ _ _ (by omega),
            earlier i (by omega)]
  refine filled _ (fun i first => ?_) 40 le_rfl i low
  interval_cases i <;> exact packed_eq _ _ _ _

theorem stateOf_addRoundKey (key state : Block) {round : Nat} (low : round ≤ 10) :
    Aes.stateOf (addRoundKey state (expandKey key) round) =
      Aes.addRoundKey (Aes.stateOf state) (Aes.roundKey (Aes.keyWords key) round) := by
  funext r c
  have entry : Aes.stateOf (addRoundKey state (expandKey key) round) r c =
      Aes.stateOf state r c ^^^ byteAt (expandKey key (round * 4 + c)) (24 - 8 * r) := by
    fin_cases r <;> fin_cases c <;> rfl
  rw [entry, byteAt_eq, expandKey_eq key _ (by omega), Nat.mul_comm round 4,
    Aes.addRoundKey, Aes.roundKey, Aes.Word.byte]

end Words

/-- The rounds undo those of the standard. -/
theorem stateOf_decryptRounds (key state : Block) (round : Nat) (low : round ≤ 9) :
    Aes.stateOf (decryptRounds (expandKey key) round state) =
      Aes.beforeRounds (Aes.keyWords key) round (Aes.stateOf state) := by
  induction round generalizing state with
  | zero => rfl
  | succ round ih =>
      rw [decryptRounds, ih _ (by omega), stateOf_invMixColumns, stateOf_addRoundKey _ _ (by omega),
        stateOf_invSubBytes, stateOf_invShiftRows]
      rfl

/-- The code computes the inverse cipher of the standard. -/
theorem decryptBlock_eq (key block : Block) :
    decryptBlock block (expandKey key) = Aes.decryptBlock key block := by
  have state : Aes.stateOf (decryptBlock block (expandKey key)) =
      Aes.invCipher (Aes.keyWords key) (Aes.stateOf block) := by
    rw [decryptBlock, stateOf_addRoundKey _ _ (by omega), stateOf_invSubBytes,
      stateOf_invShiftRows, stateOf_decryptRounds _ _ _ le_rfl, stateOf_addRoundKey _ _ le_rfl]
    rfl
  rw [Aes.decryptBlock, ← state, Aes.blockOf_stateOf]

/-- The decryption of the frontend undoes AES block by block, and nothing else decrypts to the
same text. -/
theorem aes128EcbDecrypt_correct (key : Block) :
    (∀ block, decryptBlock (Aes.encryptBlock key block) (expandKey key) = block) ∧
      ∀ data : List Byte, data.length % 16 = 0 →
        aes128EcbDecrypt key (Aes.aes128.encryptEcb key data) = data ∧
          Aes.aes128.encryptEcb key (aes128EcbDecrypt key data) = data := by
  have ecb (data : List Byte) : aes128EcbDecrypt key data = Aes.aes128.decryptEcb key data := by
    have block (bytes : List Byte) :
        List.ofFn (decryptBlock (Aes.toBlock bytes) (expandKey key)) =
          Aes.aes128.decrypt key bytes :=
      congrArg List.ofFn (decryptBlock_eq key (Aes.toBlock bytes))
    simp only [aes128EcbDecrypt, block]
    rfl
  refine ⟨fun block => ?_, fun data aligned => ?_⟩
  · rw [decryptBlock_eq, Aes.decryptBlock_encryptBlock]
  · rw [ecb, ecb]
    exact ⟨Aes.aes128.decryptEcb_encryptEcb (by decide) key aligned,
      Aes.aes128.encryptEcb_decryptEcb (by decide) key aligned⟩

/-- Two blocks of zeros. -/
theorem aes128EcbDecrypt_zeros :
    aes128EcbDecrypt (fun i => .ofNat 8 i)
        (Aes.aes128.encryptEcb (fun i => .ofNat 8 i) (List.replicate 32 0)) =
      List.replicate 32 0 :=
  ((aes128EcbDecrypt_correct fun i => .ofNat 8 i).2 (List.replicate 32 0) (by decide)).1

end Meshloom.Packet.GroupDataAes
