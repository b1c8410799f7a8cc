import Mathlib

/-! Decoding of UTF-8 text that drops what is not UTF-8. A truncated character is
given up at the first byte that cannot continue it, and that byte is looked at again
as the start of a character. -/
namespace Meshloom.Utf8

/-- A character begun: the number of bytes it still needs, the range of the next
one, and its value so far. -/
structure Pending where
  missing : Nat
  low : Nat
  high : Nat
  value : Nat
  deriving DecidableEq, Repr

/-- The first byte of a character; a byte that starts none is dropped. -/
def start (byte : Nat) : Option Pending × List Char :=
  if byte < 0x80 then (none, [Char.ofNat byte])
  else if byte < 0xC2 then (none, [])
  else if byte < 0xE0 then (some ⟨0, 0x80, 0xBF, byte % 0x20⟩, [])
  else if byte = 0xE0 then (some ⟨1, 0xA0, 0xBF, 0⟩, [])
  else if byte = 0xED then (some ⟨1, 0x80, 0x9F, 0xD⟩, [])
  else if byte < 0xF0 then (some ⟨1, 0x80, 0xBF, byte % 0x10⟩, [])
  else if byte = 0xF0 then (some ⟨2, 0x90, 0xBF, 0⟩, [])
  else if byte < 0xF4 then (some ⟨2, 0x80, 0xBF, byte % 8⟩, [])
  else if byte = 0xF4 then (some ⟨2, 0x80, 0x8F, 4⟩, [])
  else (none, [])

def step : Option Pending → Nat → Option Pending × List Char
  | none, byte => start byte
  | some p, byte =>
    if p.low ≤ byte ∧ byte ≤ p.high then
      let value := 0x40 * p.value + byte % 0x40
      match p.missing with
      | 0 => (none, [Char.ofNat value])
      | missing + 1 => (some ⟨missing, 0x80, 0xBF, value⟩, [])
    else start byte

def decodeFrom : Option Pending → List UInt8 → List Char
  | _, [] => []
  | p, byte :: rest => (step p byte.toNat).2 ++ decodeFrom (step p byte.toNat).1 rest

/-- `bytes.decode("utf-8", errors="ignore")`. -/
def decodeIgnore (bytes : List UInt8) : List Char := decodeFrom none bytes

def pendingAfter : Option Pending → List UInt8 → Option Pending
  | p, [] => p
  | p, byte :: rest => pendingAfter (step p byte.toNat).1 rest

theorem decodeFrom_append (p : Option Pending) (bytes rest : List UInt8) :
    decodeFrom p (bytes ++ rest) = decodeFrom p bytes ++ decodeFrom (pendingAfter p bytes) rest := by
  induction bytes generalizing p with
  | nil => rfl
  | cons byte bytes ih =>
      simp only [List.cons_append, decodeFrom, pendingAfter, ih, List.append_assoc]

/-- The values of characters outside ASCII that lie between the bounds. -/
def Foreign (least greatest : Nat) : Prop :=
  0x80 ≤ least ∧ (greatest < 0xD800 ∨ 0xE000 ≤ least ∧ greatest ≤ 0x10FFFF)

/-- What a pending character may still become: no continuation byte is ASCII, and
neither is any value it can end with. -/
structure Pending.Proper (p : Pending) : Prop where
  missing : p.missing ≤ 2
  low : 0x80 ≤ p.low
  high : p.high ≤ 0xBF
  value : Foreign (0x40 ^ (p.missing + 1) * p.value + 0x40 ^ p.missing * (p.low - 0x80))
    (0x40 ^ (p.missing + 1) * p.value + 0x40 ^ p.missing * (p.high - 0x80 + 1) - 1)

theorem start_ascii {byte : Nat} (ascii : byte < 0x80) : start byte = (none, [Char.ofNat byte]) :=
  if_pos ascii

theorem start_foreign {byte : Nat} (foreign : 0x80 ≤ byte) : (start byte).2 = [] := by
  unfold start
  rw [if_neg (by omega)]
  repeat' split
  all_goals rfl

theorem start_proper {byte : Nat} {p : Pending} (begun : (start byte).1 = some p) : p.Proper := by
  unfold start at begun
  repeat' split at begun
  all_goals first
    | contradiction
    | (cases begun
       constructor
       all_goals
         simp only [Foreign]
         omega)

theorem step_proper {pending : Option Pending} (proper : ∀ p ∈ pending, p.Proper) {byte : Nat}
    {p : Pending} (next : (step pending byte).1 = some p) : p.Proper := by
  cases pending with
  | none => exact start_proper next
  | some before =>
      obtain ⟨missing, low, high, value⟩ := before
      obtain ⟨few, least, greatest, range⟩ := proper _ rfl
      simp only [step] at next
      split at next
      · rename_i inside
        cases missing with
        | zero => contradiction
        | succ missing =>
            cases next
            simp only [Foreign] at few range least greatest inside
            have small : missing ≤ 1 := by omega
            constructor
            all_goals simp only [Foreign]
            · omega
            · omega
            · omega
            · interval_cases missing <;> omega
      · exact start_proper next

theorem pendingAfter_proper {pending : Option Pending} (proper : ∀ p ∈ pending, p.Proper)
    (bytes : List UInt8) : ∀ p ∈ pendingAfter pending bytes, p.Proper := by
  induction bytes generalizing pending with
  | nil => exact proper
  | cons byte bytes ih => exact ih fun p next => step_proper proper next

/-- An ASCII byte is a character of its own, whatever was begun before it. -/
theorem step_ascii {pending : Option Pending} (proper : ∀ p ∈ pending, p.Proper) {byte : Nat}
    (ascii : byte < 0x80) : step pending byte = (none, [Char.ofNat byte]) := by
  cases pending with
  | none => exact start_ascii ascii
  | some p =>
      have low := (proper p rfl).low
      rw [step, if_neg (by omega), start_ascii ascii]

theorem ofNat_foreign {value : Nat} (foreign : Foreign value value) :
    Char.ofNat value ≠ Char.ofNat 0 := by
  intro same
  have valid : value.isValidChar := by
    simp only [Foreign] at foreign
    unfold Nat.isValidChar
    omega
  have number := congrArg Char.toNat same
  rw [Char.toNat_ofNat, if_pos valid] at number
  have zero : (Char.ofNat 0).toNat = 0 := rfl
  simp only [Foreign] at foreign
  omega

/-- Only a zero byte gives the null character. -/
theorem step_null {pending : Option Pending} (proper : ∀ p ∈ pending, p.Proper) {byte : Nat}
    (nonzero : byte ≠ 0) : Char.ofNat 0 ∉ (step pending byte).2 := by
  have fresh : Char.ofNat 0 ∉ (start byte).2 := by
    by_cases ascii : byte < 0x80
    · rw [start_ascii ascii, List.mem_singleton]
      have table : ∀ n < 0x80, n ≠ 0 → Char.ofNat 0 ≠ Char.ofNat n := by decide
      exact table byte ascii nonzero
    · rw [start_foreign (by omega)]
      exact List.not_mem_nil
  cases pending with
  | none => exact fresh
  | some before =>
      obtain ⟨missing, low, high, value⟩ := before
      obtain ⟨few, least, greatest, range⟩ := proper _ rfl
      simp only [step]
      split
      · rename_i inside
        cases missing with
        | zero =>
            rw [List.mem_singleton]
            refine (ofNat_foreign ?_).symm
            simp only [Foreign] at range least greatest inside ⊢
            omega
        | succ missing => exact List.not_mem_nil
      · exact fresh

theorem decodeFrom_null {pending : Option Pending} (proper : ∀ p ∈ pending, p.Proper)
    {bytes : List UInt8} (nonzero : 0 ∉ bytes) : Char.ofNat 0 ∉ decodeFrom pending bytes := by
  induction bytes generalizing pending with
  | nil => exact List.not_mem_nil
  | cons byte bytes ih =>
      obtain ⟨first, rest⟩ := List.ne_and_not_mem_of_not_mem_cons nonzero
      have other : byte.toNat ≠ 0 := fun zero => first (UInt8.toNat_inj.mp zero).symm
      simp only [decodeFrom, List.mem_append, not_or]
      exact ⟨step_null proper other, ih (fun p next => step_proper proper next) rest⟩

/-- Text that ends at an ASCII character is decoded on its own. -/
theorem decodeIgnore_ascii (bytes rest : List UInt8) {byte : UInt8} (ascii : byte.toNat < 0x80) :
    decodeIgnore (bytes ++ byte :: rest) =
      decodeIgnore bytes ++ Char.ofNat byte.toNat :: decodeIgnore rest := by
  have proper : ∀ p ∈ pendingAfter none bytes, p.Proper := pendingAfter_proper (by simp) bytes
  simp only [decodeIgnore, decodeFrom_append, decodeFrom, step_ascii proper ascii,
    List.singleton_append]

theorem decodeIgnore_null {bytes : List UInt8} (nonzero : 0 ∉ bytes) :
    Char.ofNat 0 ∉ decodeIgnore bytes :=
  decodeFrom_null (by simp) nonzero

end Meshloom.Utf8
