import Mathlib
import Meshloom.Bytes

/-! JSON values and their text: `json.dumps` with sorted keys, without blanks and in ASCII
characters. The text of a string or of a number can be told apart from what follows it. -/
namespace Meshloom
open Bytes

inductive Json where
  | null
  | bool (b : Bool)
  | int (n : Int)
  /-- a number with a fraction or an exponent, as its text -/
  | float (text : List Char)
  | string (s : List Char)
  | array (items : List Json)
  | object (entries : List (List Char × Json))

namespace Json

def quoteMark : Char := Char.ofNat 34
def backslash : Char := Char.ofNat 92

/-- The codes with a short escape, and the letters after the backslash. -/
def shortEscapes : List (Nat × Char) :=
  [(34, quoteMark), (92, backslash), (10, 'n'), (13, 'r'), (9, 't'), (8, 'b'), (12, 'f')]

/-- A backslash, `u` and four hexadecimal digits. -/
def unicodeEscape (code : Nat) : List Char :=
  [backslash, 'u', hexDigit (code / 4096), hexDigit (code / 256 % 16), hexDigit (code / 16 % 16),
    hexDigit (code % 16)]

/-- A character of a string. One beyond the basic plane is written as two surrogates. -/
def escape (c : Char) : List Char :=
  match shortEscapes.lookup c.toNat with
  | some letter => [backslash, letter]
  | none =>
    if 32 ≤ c.toNat ∧ c.toNat ≤ 126 then [c]
    else if c.toNat < 0x10000 then unicodeEscape c.toNat
    else unicodeEscape (0xd800 + (c.toNat - 0x10000) / 1024) ++
      unicodeEscape (0xdc00 + (c.toNat - 0x10000) % 1024)

def quote (s : List Char) : List Char := quoteMark :: s.flatMap escape ++ [quoteMark]

mutual

def dumps : Json → List Char
  | .null => ['n', 'u', 'l', 'l']
  | .bool true => ['t', 'r', 'u', 'e']
  | .bool false => ['f', 'a', 'l', 's', 'e']
  | .int n => n.repr.toList
  | .float text => text
  | .string s => quote s
  | .array items => '[' :: [','].intercalate (dumpsItems items) ++ [']']
  | .object entries =>
    let sorted := (dumpsEntries entries).insertionSort fun a b => a.1 ≤ b.1
    Char.ofNat 123 :: [','].intercalate (sorted.map fun entry => quote entry.1 ++ ':' :: entry.2) ++
      [Char.ofNat 125]

def dumpsItems : List Json → List (List Char)
  | [] => []
  | item :: rest => dumps item :: dumpsItems rest

def dumpsEntries : List (List Char × Json) → List (List Char × List Char)
  | [] => []
  | (key, value) :: rest => (key, dumps value) :: dumpsEntries rest

end

/-- `value.get(key)` of a dict. -/
def get (value : Json) (key : List Char) : Option Json :=
  match value with
  | .object entries => entries.lookup key
  | _ => none

section Reading

/-- The code in four hexadecimal digits, and what follows. -/
def readUnit : List Char → Option (Nat × List Char)
  | a :: b :: c :: d :: rest => do
    let a ← hexValue a
    let b ← hexValue b
    let c ← hexValue c
    let d ← hexValue d
    return (a * 4096 + b * 256 + c * 16 + d, rest)
  | _ => none

/-- The character of a short escape. -/
def readShort (letter : Char) : Char :=
  if letter = 'n' then Char.ofNat 10
  else if letter = 'r' then Char.ofNat 13
  else if letter = 't' then Char.ofNat 9
  else if letter = 'b' then Char.ofNat 8
  else if letter = 'f' then Char.ofNat 12
  else letter

/-- The first character of a string and what follows. -/
def readChar : List Char → Option (Char × List Char)
  | [] => none
  | c :: rest =>
    if c = backslash then
      match rest with
      | [] => none
      | letter :: rest =>
        if letter = 'u' then do
          let (high, rest) ← readUnit rest
          if 0xd800 ≤ high ∧ high < 0xdc00 then do
            let (low, rest) ← readUnit (rest.drop 2)
            return (Char.ofNat (0x10000 + (high - 0xd800) * 1024 + (low - 0xdc00)), rest)
          else return (Char.ofNat high, rest)
        else some (readShort letter, rest)
    else some (c, rest)

theorem readUnit_escape {code : Nat} (small : code < 0x10000) (rest : List Char) :
    readUnit ((unicodeEscape code).drop 2 ++ rest) = some (code, rest) := by
  simp only [unicodeEscape, List.drop_succ_cons, List.drop_zero, List.cons_append, List.nil_append,
    readUnit, hexValue_hexDigit _ (Nat.mod_lt _ (by decide)),
    hexValue_hexDigit _ (show code / 4096 < 16 by omega), Option.bind_eq_bind, Option.bind_some,
    Option.pure_def, Option.some.injEq, Prod.mk.injEq, and_true]
  omega

theorem shortEscapes_spec {code : Nat} {letter : Char} (short : shortEscapes.lookup code = some letter) :
    letter ≠ 'u' ∧ readShort letter = Char.ofNat code := by
  have table : ∀ entry ∈ shortEscapes, entry.2 ≠ 'u' ∧ readShort entry.2 = Char.ofNat entry.1 := by
    decide
  obtain ⟨front, back, split, _⟩ := List.lookup_eq_some_iff.mp short
  exact table (code, letter) (by rw [split]; simp)

theorem readChar_backslash (rest : List Char) {letter : Char} (plain : letter ≠ 'u') :
    readChar (backslash :: letter :: rest) = some (readShort letter, rest) := by
  simp only [readChar, if_true, if_neg plain]

theorem readChar_unicodeEscape {code : Nat} (small : code < 0x10000) (rest : List Char) :
    readChar (unicodeEscape code ++ rest) =
      if 0xd800 ≤ code ∧ code < 0xdc00 then do
        let (low, rest) ← readUnit (rest.drop 2)
        return (Char.ofNat (0x10000 + (code - 0xd800) * 1024 + (low - 0xdc00)), rest)
      else some (Char.ofNat code, rest) := by
  have shape : unicodeEscape code ++ rest =
      backslash :: 'u' :: ((unicodeEscape code).drop 2 ++ rest) := rfl
  rw [shape, readChar, if_pos rfl]
  simp only [if_true, readUnit_escape small, Option.bind_eq_bind, Option.bind_some, Option.pure_def]

/-- An escaped character is read back. -/
theorem readChar_escape (c : Char) (rest : List Char) : readChar (escape c ++ rest) = some (c, rest) := by
  have self : Char.ofNat c.toNat = c := Char.ofNat_toNat c
  have scalar : c.toNat < 0xd800 ∨ 0xdfff < c.toNat ∧ c.toNat < 0x110000 := c.valid
  rw [escape]
  split
  · rename_i letter short
    obtain ⟨plain, read⟩ := shortEscapes_spec short
    rw [List.cons_append, List.cons_append, List.nil_append, readChar_backslash rest plain, read, self]
  · rename_i long
    split
    · have different : c ≠ backslash := by
        rintro rfl
        exact absurd long (by decide)
      simp only [List.cons_append, List.nil_append, readChar, if_neg different]
    · split
      · rename_i basic
        rw [readChar_unicodeEscape basic, if_neg (by omega), self]
      · rename_i astral
        have high : 0xd800 + (c.toNat - 0x10000) / 1024 < 0x10000 := by omega
        have low : 0xdc00 + (c.toNat - 0x10000) % 1024 < 0x10000 := by omega
        have shape : (unicodeEscape (0xdc00 + (c.toNat - 0x10000) % 1024) ++ rest).drop 2 =
          (unicodeEscape (0xdc00 + (c.toNat - 0x10000) % 1024)).drop 2 ++ rest := rfl
        have code : 0x10000 + (0xd800 + (c.toNat - 0x10000) / 1024 - 0xd800) * 1024 +
            (0xdc00 + (c.toNat - 0x10000) % 1024 - 0xdc00) = c.toNat := by omega
        rw [List.append_assoc, readChar_unicodeEscape high, if_pos (by omega), shape, readUnit_escape low]
        simp only [Option.bind_eq_bind, Option.bind_some, Option.pure_def, code, self]

/-- No escaped character starts with the mark that ends a string. -/
theorem escape_ne_mark (c : Char) (rest rest' : List Char) :
    escape c ++ rest ≠ quoteMark :: rest' := by
  rw [escape]
  split
  · intro same
    exact absurd (List.cons.inj same).1 (by decide)
  · rename_i long
    split
    · intro same
      rw [(List.cons.inj same).1] at long
      exact absurd long (by decide)
    · split
      · intro same
        exact absurd (List.cons.inj same).1 (by decide)
      · intro same
        exact absurd (List.cons.inj same).1 (by decide)

/-- A string in its marks says what it is, whatever follows. -/
theorem quote_append_inj {s t rest rest' : List Char} (same : quote s ++ rest = quote t ++ rest') :
    s = t ∧ rest = rest' := by
  rw [quote, quote, List.cons_append, List.cons_append, List.cons_append, List.cons_append,
    List.cons.injEq, List.append_assoc, List.append_assoc, List.singleton_append,
    List.singleton_append] at same
  replace same := same.2
  induction s generalizing t with
  | nil =>
      cases t with
      | nil => exact ⟨rfl, (List.cons.inj same).2⟩
      | cons d t =>
          rw [List.flatMap_nil, List.nil_append, List.flatMap_cons, List.append_assoc] at same
          exact absurd same.symm (escape_ne_mark _ _ _)
  | cons c s ih =>
      cases t with
      | nil =>
          rw [List.flatMap_cons, List.append_assoc] at same
          exact absurd same (escape_ne_mark _ _ _)
      | cons d t =>
          rw [List.flatMap_cons, List.flatMap_cons, List.append_assoc, List.append_assoc] at same
          have read := congrArg readChar same
          rw [readChar_escape, readChar_escape, Option.some.injEq, Prod.mk.injEq] at read
          obtain ⟨rfl, tail⟩ := ih read.2
          exact ⟨by rw [read.1], tail⟩

/-- Two texts that end at the first character of a kind. -/
theorem append_mark_inj {kind : Char → Bool} {mark : Char} (ends : kind mark = true)
    {a b rest rest' : List Char} (plain : ∀ c ∈ a, kind c = false) (plain' : ∀ c ∈ b, kind c = false)
    (same : a ++ mark :: rest = b ++ mark :: rest') : a = b ∧ rest = rest' := by
  induction a generalizing b with
  | nil =>
      cases b with
      | nil => exact ⟨rfl, (List.cons.inj same).2⟩
      | cons d b =>
          rw [(List.cons.inj same).1, plain' d List.mem_cons_self] at ends
          contradiction
  | cons c a ih =>
      cases b with
      | nil =>
          rw [← (List.cons.inj same).1, plain c List.mem_cons_self] at ends
          contradiction
      | cons d b =>
          obtain ⟨rfl, tail⟩ := List.cons.inj same
          obtain ⟨rfl, follow⟩ := ih (fun c member => plain c (List.mem_cons_of_mem _ member))
            (fun c member => plain' c (List.mem_cons_of_mem _ member)) tail
          exact ⟨rfl, follow⟩

/-- What does not stand in the text of a number. -/
def endsInt (c : Char) : Bool := !c.isDigit && c ≠ '-'

theorem endsInt_repr (n : Int) : ∀ c ∈ n.repr.toList, endsInt c = false := by
  have digits (m : Nat) : ∀ c ∈ m.repr.toList, endsInt c = false := by
    intro c member
    rw [Nat.toList_repr] at member
    simp [endsInt, Nat.isDigit_of_mem_toDigits (by decide) (by decide) member]
  cases n with
  | ofNat m => exact digits m
  | negSucc m =>
      intro c member
      rw [Int.repr, String.toList_append, List.mem_append] at member
      obtain sign | digit := member
      · rw [List.mem_singleton.mp sign]
        decide
      · exact digits _ c digit

/-- A number says what it is, up to the mark that ends it. -/
theorem int_append_inj {n m : Int} {mark : Char} {rest rest' : List Char} (ends : endsInt mark = true)
    (same : n.repr.toList ++ mark :: rest = m.repr.toList ++ mark :: rest') : n = m ∧ rest = rest' := by
  obtain ⟨text, tail⟩ := append_mark_inj ends (endsInt_repr n) (endsInt_repr m) same
  exact ⟨Int.repr_inj.mp (String.toList_inj.mp text), tail⟩

end Reading

end Json
end Meshloom
