import Mathlib.Data.List.Infix
import Mathlib.Data.List.Lex
import Mathlib.Data.Nat.Basic
import Mathlib.Data.UInt

/-! Strings of UTF-16 code units, and the units of a text. An ASCII character is one unit that
occurs in no other character's. -/
namespace Meshloom.Utf16

abbrev Units := List UInt16

/-- The code units of a character. -/
def units (c : Char) : Units :=
  if c.toNat < 0x10000 then [UInt16.ofNat c.toNat]
  else [UInt16.ofNat (0xD800 + (c.toNat - 0x10000) / 0x400),
    UInt16.ofNat (0xDC00 + (c.toNat - 0x10000) % 0x400)]

def encode (text : List Char) : Units := text.flatMap units

def IsHigh (u : UInt16) : Prop := 0xD800 ≤ u.toNat ∧ u.toNat < 0xDC00

def IsLow (u : UInt16) : Prop := 0xDC00 ≤ u.toNat ∧ u.toNat < 0xE000

instance decidableIsHigh (u : UInt16) : Decidable (IsHigh u) := inferInstanceAs (Decidable (_ ∧ _))

instance decidableIsLow (u : UInt16) : Decidable (IsLow u) := inferInstanceAs (Decidable (_ ∧ _))

/-- `indexOf`: where the first occurrence starts. -/
def indexOf {α : Type} [DecidableEq α] (needle : List α) : List α → Option Nat
  | [] => if needle = [] then some 0 else none
  | c :: rest => if needle.isPrefixOf (c :: rest) then some 0 else (indexOf needle rest).map (· + 1)

section Index
variable {α : Type} [DecidableEq α] {needle text front back : List α} {i : Nat} {head : α}

theorem indexOf_eq_some (found : indexOf needle text = some i) :
    ∃ front back, text = front ++ needle ++ back ∧ front.length = i := by
  induction text generalizing i with
  | nil =>
      simp only [indexOf, Option.ite_none_right_eq_some, Option.some.injEq] at found
      obtain ⟨rfl, rfl⟩ := found
      exact ⟨[], [], rfl, rfl⟩
  | cons c rest ih =>
      simp only [indexOf] at found
      split at found
      · rename_i here
        obtain ⟨back, same⟩ := List.isPrefixOf_iff_prefix.mp here
        exact ⟨[], back, same.symm, Option.some.inj found⟩
      · obtain ⟨k, later, rfl⟩ := Option.map_eq_some_iff.mp found
        obtain ⟨front, back, rfl, rfl⟩ := ih later
        exact ⟨c :: front, back, rfl, rfl⟩

/-- The needle is found behind a text that its first element is not in. -/
theorem indexOf_append (fresh : head ∉ front) :
    indexOf (head :: needle) (front ++ (head :: needle) ++ back) = some front.length := by
  induction front with
  | nil =>
      have here : (head :: needle).isPrefixOf (head :: (needle ++ back)) = true :=
        List.isPrefixOf_iff_prefix.mpr ⟨back, rfl⟩
      simp [indexOf, here]
  | cons c rest ih =>
      obtain ⟨other, fresh⟩ := not_or.mp (mt List.mem_cons.mpr fresh)
      have apart : (head :: needle).isPrefixOf (c :: (rest ++ (head :: needle) ++ back)) = false := by
        simp [List.isPrefixOf, other]
      rw [List.cons_append, List.cons_append, indexOf, ih fresh, apart]
      rfl

end Index

section Encode
variable {c : Char} {text : List Char} {u : UInt16} {a b : Units}

/-- A character is a unit of its own, or a pair of surrogates. -/
theorem units_cases (c : Char) :
    (∃ u, units c = [u] ∧ u.toNat = c.toNat ∧ ¬ IsHigh u ∧ ¬ IsLow u) ∨
    ∃ high low, units c = [high, low] ∧ IsHigh high ∧ IsLow low ∧
      c.toNat = 0x10000 + (high.toNat - 0xD800) * 0x400 + (low.toNat - 0xDC00) := by
  have valid : c.toNat < 0xD800 ∨ 0xDFFF < c.toNat ∧ c.toNat < 0x110000 := c.valid
  unfold units
  split
  · rename_i small
    refine .inl ⟨_, rfl, UInt16.toNat_ofNat_of_lt' small, ?_, ?_⟩
    · rw [IsHigh, UInt16.toNat_ofNat_of_lt' small]
      omega
    · rw [IsLow, UInt16.toNat_ofNat_of_lt' small]
      omega
  · have high : 0xD800 + (c.toNat - 0x10000) / 0x400 < UInt16.size := by
      have : (c.toNat - 0x10000) / 0x400 < 0x400 := by omega
      simp only [UInt16.size]
      omega
    have low : 0xDC00 + (c.toNat - 0x10000) % 0x400 < UInt16.size := by
      simp only [UInt16.size]
      omega
    refine .inr ⟨_, _, rfl, ?_, ?_, ?_⟩
    · rw [IsHigh, UInt16.toNat_ofNat_of_lt' high]
      omega
    · rw [IsLow, UInt16.toNat_ofNat_of_lt' low]
      omega
    · rw [UInt16.toNat_ofNat_of_lt' high, UInt16.toNat_ofNat_of_lt' low]
      omega

@[simp] theorem encode_nil : encode [] = [] := rfl

theorem encode_cons (c : Char) (text : List Char) : encode (c :: text) = units c ++ encode text := rfl

theorem encode_append (s t : List Char) : encode (s ++ t) = encode s ++ encode t :=
  List.flatMap_append

theorem length_encode (text : List Char) : text.length ≤ (encode text).length := by
  induction text with
  | nil => simp
  | cons c rest ih =>
      rw [encode_cons, List.length_append, List.length_cons]
      obtain ⟨u, single, _⟩ | ⟨high, low, pair, _⟩ := units_cases c
      · rw [single, List.length_singleton]
        omega
      · rw [pair, List.length_cons, List.length_singleton]
        omega

theorem encode_eq_nil_iff : encode text = [] ↔ text = [] := by
  refine ⟨fun empty => ?_, fun empty => empty ▸ rfl⟩
  have := length_encode text
  rw [empty] at this
  exact List.length_eq_zero_iff.mp (Nat.le_zero.mp this)

/-- The unit of an ASCII character. -/
def ascii (c : Char) : UInt16 := UInt16.ofNat c.toNat

variable {mark : Char}

theorem units_ascii (plain : mark.toNat < 128) : units mark = [ascii mark] := by
  rw [units, if_pos (by omega), ascii]

theorem toNat_ascii (plain : mark.toNat < 128) : (ascii mark).toNat = mark.toNat :=
  UInt16.toNat_ofNat_of_lt' (by simp only [UInt16.size]; omega)

/-- A unit that is the mark's comes from the mark. -/
theorem eq_of_ascii (plain : mark.toNat < 128) (same : u.toNat = c.toNat) (found : u = ascii mark) :
    c = mark := by
  rw [found, toNat_ascii plain] at same
  exact Char.toNat_inj.mp same.symm

theorem not_surrogate_ascii (plain : mark.toNat < 128) :
    ¬ IsHigh (ascii mark) ∧ ¬ IsLow (ascii mark) := by
  simp only [IsHigh, IsLow, toNat_ascii plain]
  omega

/-- Where the units of a text are divided at an ASCII character, the text is. -/
theorem encode_split (plain : mark.toNat < 128) (same : encode text = a ++ ascii mark :: b) :
    ∃ front back, text = front ++ mark :: back ∧ encode front = a ∧ encode back = b := by
  obtain ⟨noHigh, noLow⟩ := not_surrogate_ascii plain
  induction text generalizing a with
  | nil => simp at same
  | cons c rest ih =>
      rw [encode_cons] at same
      obtain ⟨u, single, value, _⟩ | ⟨high, low, pair, isHigh, isLow, _⟩ := units_cases c
      · rw [single, List.singleton_append] at same
        cases a with
        | nil =>
            obtain ⟨found, rfl⟩ := List.cons.inj same
            exact ⟨[], rest, by rw [eq_of_ascii plain value found]; rfl, rfl, rfl⟩
        | cons v a =>
            rw [List.cons_append, List.cons.injEq] at same
            obtain ⟨rfl, same⟩ := same
            obtain ⟨front, back, rfl, rfl, rfl⟩ := ih same
            exact ⟨c :: front, back, rfl, by rw [encode_cons, single]; rfl, rfl⟩
      · rw [pair] at same
        simp only [List.cons_append, List.nil_append] at same
        obtain _ | ⟨v, _ | ⟨w, a⟩⟩ := a
        · exact absurd ((List.cons.inj same).1 ▸ isHigh) noHigh
        · obtain ⟨_, same⟩ := List.cons.inj same
          exact absurd ((List.cons.inj same).1 ▸ isLow) noLow
        · rw [List.cons_append, List.cons_append, List.cons.injEq, List.cons.injEq] at same
          obtain ⟨rfl, rfl, same⟩ := same
          obtain ⟨front, back, rfl, rfl, rfl⟩ := ih same
          exact ⟨c :: front, back, rfl, by rw [encode_cons, pair]; rfl, rfl⟩

theorem ascii_mem_encode (plain : mark.toNat < 128) : ascii mark ∈ encode text ↔ mark ∈ text := by
  constructor
  · intro member
    obtain ⟨a, b, same⟩ := List.append_of_mem member
    obtain ⟨front, back, rfl, _⟩ := encode_split plain same
    simp
  · intro member
    refine List.mem_flatMap.mpr ⟨mark, member, ?_⟩
    rw [units_ascii plain]
    exact List.mem_singleton_self _

end Encode

section Order
variable {c d : Char} {v w : Units}

theorem units_append_inj (same : units c ++ v = units d ++ w) : c = d ∧ v = w := by
  obtain ⟨u, single, u_nat, u_not_high, -⟩ | ⟨high, low, pair, is_high, -, code⟩ := units_cases c
  · obtain ⟨u', single', u'_nat, -⟩ | ⟨high', low', pair', is_high', -⟩ := units_cases d
    · rw [single, single'] at same
      obtain ⟨same_unit, rest⟩ := List.cons.inj same
      exact ⟨Char.toNat_inj.mp (by rw [← u_nat, ← u'_nat, same_unit]), rest⟩
    · rw [single, pair'] at same
      exact (u_not_high ((List.cons.inj same).1 ▸ is_high')).elim
  · obtain ⟨u', single', -, u'_not_high, -⟩ | ⟨high', low', pair', -, -, code'⟩ := units_cases d
    · rw [pair, single'] at same
      exact (u'_not_high ((List.cons.inj same).1 ▸ is_high)).elim
    · rw [pair, pair'] at same
      obtain ⟨same_high, same⟩ := List.cons.inj same
      obtain ⟨same_low, rest⟩ := List.cons.inj same
      exact ⟨Char.toNat_inj.mp (by rw [code, code', same_high, same_low]), rest⟩

theorem encode_injective : Function.Injective encode := by
  intro s
  induction s with
  | nil => exact fun t same => (encode_eq_nil_iff.mp same.symm).symm
  | cons c s ih =>
      intro t same
      cases t with
      | nil => exact encode_eq_nil_iff.mp same
      | cons d t =>
          obtain ⟨rfl, rest⟩ := units_append_inj (same : units c ++ encode s = units d ++ encode t)
          rw [ih rest]

def unitValues (text : List Char) : List ℕ := (encode text).map UInt16.toNat

theorem unitValues_injective : Function.Injective unitValues :=
  (List.map_injective_iff.mpr fun _ _ same => UInt16.toNat_inj.mp same).comp encode_injective

/-- Whether `sort` may leave one text in front of another. -/
def before (s t : List Char) : Bool := unitValues s ≤ unitValues t

theorem before_total (s t : List Char) : before s t = true ∨ before t s = true := by
  simpa only [before, decide_eq_true_eq] using le_total (unitValues s) (unitValues t)

theorem before_antisymm {s t : List Char} (first : before s t = true) (second : before t s = true) :
    s = t :=
  unitValues_injective (le_antisymm (of_decide_eq_true first) (of_decide_eq_true second))

end Order
end Meshloom.Utf16
