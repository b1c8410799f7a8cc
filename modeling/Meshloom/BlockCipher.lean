import Mathlib.Algebra.Order.Group.Nat
import Mathlib.Data.List.Basic
import Mathlib.Tactic.Linarith
import Mathlib.Tactic.Ring

/-! Block ciphers that encrypt each block on its own. -/
namespace Meshloom

/-- A permutation of the blocks of one size for every key. -/
structure BlockCipher (size : Nat) (Key α : Type*) where
  encrypt : Key → List α → List α
  decrypt : Key → List α → List α
  length_encrypt : ∀ key block, block.length = size → (encrypt key block).length = size
  length_decrypt : ∀ key block, block.length = size → (decrypt key block).length = size
  decrypt_encrypt : ∀ key block, block.length = size → decrypt key (encrypt key block) = block
  encrypt_decrypt : ∀ key block, block.length = size → encrypt key (decrypt key block) = block

namespace BlockCipher
variable {α Key : Type*} {size : Nat} {f g : List α → List α}

/-- The electronic codebook of a function on blocks; an incomplete block at the end is left out. -/
def codebook (size : Nat) (f : List α → List α) (data : List α) : List α :=
  (List.range (data.length / size)).flatMap fun i => f ((data.drop (i * size)).take size)

theorem codebook_nil : codebook size f [] = [] := by
  rw [codebook, List.length_nil, Nat.zero_div]
  rfl

theorem codebook_append (positive : 0 < size) {block : List α} (whole : block.length = size)
    (rest : List α) : codebook size f (block ++ rest) = f block ++ codebook size f rest := by
  have count : (block ++ rest).length / size = rest.length / size + 1 := by
    rw [List.length_append, whole, Nat.add_div_left _ positive]
  have later : ∀ i, (block ++ rest).drop ((i + 1) * size) = rest.drop (i * size) := by
    intro i
    have skip : (i + 1) * size = block.length + i * size := by
      rw [whole]
      ring
    rw [skip, ← List.drop_drop, List.drop_left]
  rw [codebook, count, List.range_succ_eq_map, List.flatMap_cons, List.flatMap_map, Nat.zero_mul,
    List.drop_zero, List.take_left' whole]
  simp only [Nat.succ_eq_add_one, later]
  rfl

/-- Data of whole blocks. -/
inductive Whole (size : Nat) : List α → Prop
  | nil : Whole size []
  | append (block rest : List α) (length : block.length = size) (blocks : Whole size rest) :
      Whole size (block ++ rest)

theorem whole_of_length (n : Nat) {data : List α} (count : data.length = n * size) :
    Whole size data := by
  induction n generalizing data with
  | zero =>
      rw [List.length_eq_zero_iff.mp (count.trans (Nat.zero_mul size))]
      exact .nil
  | succ n ih =>
      rw [Nat.succ_mul] at count
      have rest : (data.drop size).length = n * size := by
        rw [List.length_drop, count, Nat.add_sub_cancel]
      rw [← List.take_append_drop size data]
      exact .append _ _ (List.length_take_of_le (count ▸ Nat.le_add_left _ _)) (ih rest)

theorem whole_of_mod {data : List α} (aligned : data.length % size = 0) : Whole size data := by
  obtain ⟨n, count⟩ := Nat.dvd_of_mod_eq_zero aligned
  exact whole_of_length n (count.trans (Nat.mul_comm size n))

theorem length_codebook (positive : 0 < size)
    (keeps : ∀ block, block.length = size → (f block).length = size) {data : List α}
    (whole : Whole size data) : (codebook size f data).length = data.length := by
  induction whole with
  | nil => rw [codebook_nil]
  | append block rest length _ ih =>
      rw [codebook_append positive length, List.length_append, List.length_append,
        keeps block length, length, ih]

/-- Codebooks of functions that undo each other undo each other. -/
theorem codebook_codebook (positive : 0 < size)
    (keeps : ∀ block, block.length = size → (f block).length = size)
    (undone : ∀ block, block.length = size → g (f block) = block) {data : List α}
    (whole : Whole size data) : codebook size g (codebook size f data) = data := by
  induction whole with
  | nil => rw [codebook_nil, codebook_nil]
  | append block rest length _ ih =>
      rw [codebook_append positive length, codebook_append positive (keeps block length),
        undone block length, ih]

variable (cipher : BlockCipher size Key α)

def encryptEcb (key : Key) (data : List α) : List α := codebook size (cipher.encrypt key) data

def decryptEcb (key : Key) (data : List α) : List α := codebook size (cipher.decrypt key) data

variable {data : List α}

theorem length_encryptEcb (positive : 0 < size) (key : Key) (aligned : data.length % size = 0) :
    (cipher.encryptEcb key data).length = data.length :=
  length_codebook positive (cipher.length_encrypt key) (whole_of_mod aligned)

theorem decryptEcb_encryptEcb (positive : 0 < size) (key : Key)
    (aligned : data.length % size = 0) :
    cipher.decryptEcb key (cipher.encryptEcb key data) = data :=
  codebook_codebook positive (cipher.length_encrypt key) (cipher.decrypt_encrypt key)
    (whole_of_mod aligned)

theorem encryptEcb_decryptEcb (positive : 0 < size) (key : Key)
    (aligned : data.length % size = 0) :
    cipher.encryptEcb key (cipher.decryptEcb key data) = data :=
  codebook_codebook positive (cipher.length_decrypt key) (cipher.encrypt_decrypt key)
    (whole_of_mod aligned)

end BlockCipher
end Meshloom
