import Mathlib

/-! Text operations of the language on the texts the model handles. Keys and
identifiers are hexadecimal, so their case mapping is the ASCII one; text that a
user may type freely is lower-cased by a `LowerCase`. -/
namespace Meshloom.Text

instance lawfulBEqChars : LawfulBEq (List Char) := inferInstance

def upper (s : String) : String := String.ofList (s.toList.map Char.toUpper)
def lower (s : String) : String := String.ofList (s.toList.map Char.toLower)

def startsWith (s start : String) : Bool := start.toList.isPrefixOf s.toList

@[simp]
theorem upper_upper (s : String) : upper (upper s) = upper s := by
  simp [upper, Function.comp_def]

@[simp]
theorem lower_lower (s : String) : lower (lower s) = lower s := by
  simp [lower, Function.comp_def]

/-- `str.isspace` of one character. -/
def isSpace (c : Char) : Bool :=
  (9 ≤ c.toNat && c.toNat ≤ 13) || (28 ≤ c.toNat && c.toNat ≤ 32) ||
  (0x2000 ≤ c.toNat && c.toNat ≤ 0x200A) ||
  c.toNat ∈ [0x85, 0xA0, 0x1680, 0x2028, 0x2029, 0x202F, 0x205F, 0x3000]

/-- `str.strip()`. -/
def strip (text : List Char) : List Char := (text.dropWhile isSpace).rdropWhile isSpace

/-- `str.lower()` as far as the Unicode version does not matter: it is the ASCII
mapping on ASCII text, and the only character that it brings into ASCII without
leaving anything else behind is the Kelvin sign, which becomes a `k`. -/
structure LowerCase where
  apply : List Char → List Char
  ascii : ∀ text, (∀ c ∈ text, c.toNat < 128) → apply text = text.map Char.toLower
  foreign : ∀ text, (∃ c ∈ text, 128 ≤ c.toNat) → ∃ c ∈ apply text, 128 ≤ c.toNat ∨ c = 'k'

/-- The mapping that leaves everything outside ASCII as it is. -/
def LowerCase.asciiOnly : LowerCase where
  apply text := text.map Char.toLower
  ascii _ _ := rfl
  foreign text := by
    rintro ⟨c, member, high⟩
    have kept : c.toLower = c := by
      rw [Char.toLower, dif_neg]
      rintro ⟨_, small⟩
      have bound : c.toNat ≤ 90 := small
      omega
    exact ⟨c, List.mem_map.mpr ⟨c, member, kept⟩, .inl high⟩

/-- `str.upper()` as far as the Unicode version does not matter: the ASCII mapping on ASCII text. -/
structure UpperCase where
  apply : List Char → List Char
  ascii : ∀ text, (∀ c ∈ text, c.toNat < 128) → apply text = text.map Char.toUpper

/-- The mapping that leaves everything outside ASCII as it is. -/
def UpperCase.asciiOnly : UpperCase where
  apply text := text.map Char.toUpper
  ascii _ _ := rfl

/-- `str.isalnum()` of one character, with what every Unicode version says of ASCII. -/
structure Alnum where
  apply : Char → Bool
  ascii : ∀ c : Char, c.toNat < 128 → apply c = c.isAlphanum

/-- The predicate that knows no letter outside ASCII. -/
def Alnum.asciiOnly : Alnum where
  apply := Char.isAlphanum
  ascii _ _ := rfl

theorem strip_concat (text : List Char) {c : Char} (solid : isSpace c = false) :
    strip (text ++ [c]) = text.dropWhile isSpace ++ [c] := by
  have kept : (text ++ [c]).dropWhile isSpace = text.dropWhile isSpace ++ [c] := by
    rw [List.dropWhile_append]
    split
    · rename_i blank
      rw [List.isEmpty_iff.mp blank]
      simp [solid]
    · rfl
  rw [strip, kept, List.rdropWhile_concat_neg _ _ _ (by simp [solid])]

theorem strip_fixed {text : List Char} (front : ∀ c ∈ text.head?, isSpace c = false)
    (back : ∀ c ∈ text.getLast?, isSpace c = false) : strip text = text := by
  have kept : text.dropWhile isSpace = text := by
    cases text with
    | nil => rfl
    | cons c rest => rw [List.dropWhile_cons_of_neg (by simp [front c rfl])]
  rw [strip, kept, List.rdropWhile_eq_self_iff]
  intro nonempty
  simp [back _ (List.getLast_mem_getLast? nonempty)]

theorem head_strip (text : List Char) : ∀ c ∈ (strip text).head?, isSpace c = false := by
  intro c found
  obtain ⟨rest, eq⟩ := List.rdropWhile_prefix isSpace (l := text.dropWhile isSpace)
  have first : (text.dropWhile isSpace).head? = some c := by
    rw [← eq, List.head?_append_of_ne_nil]
    · exact found
    · intro empty
      rw [strip, empty] at found
      contradiction
  have stopped := List.head?_dropWhile_not isSpace text
  rw [first] at stopped
  simpa using stopped

theorem last_strip (text : List Char) : ∀ c ∈ (strip text).getLast?, isSpace c = false := by
  intro c found
  obtain ⟨nonempty, rfl⟩ := List.mem_getLast?_eq_getLast found
  exact Bool.eq_false_iff.mpr (List.rdropWhile_last_not isSpace _ nonempty)

theorem strip_strip (text : List Char) : strip (strip text) = strip text :=
  strip_fixed (head_strip text) (last_strip text)

theorem strip_space_cons {c : Char} (space : isSpace c = true) (text : List Char) :
    strip (c :: text) = strip text := by
  rw [strip, List.dropWhile_cons_of_pos space, ← strip]

theorem strip_concat_space (text : List Char) {c : Char} (space : isSpace c = true) :
    strip (text ++ [c]) = strip text := by
  rw [strip, List.dropWhile_append]
  split
  · rename_i blank
    rw [List.isEmpty_iff] at blank
    rw [strip, blank, List.dropWhile_cons_of_pos space, List.dropWhile_nil]
  · rw [List.rdropWhile_concat_pos _ _ _ space, ← strip]

theorem isSpace_toLower (c : Char) : isSpace c.toLower = isSpace c := by
  by_cases upper : 65 ≤ c.toNat ∧ c.toNat ≤ 90
  · have letters : ∀ n : Fin 26, isSpace (Char.ofNat (65 + n)).toLower =
        isSpace (Char.ofNat (65 + n)) := by decide
    have same := letters ⟨c.toNat - 65, by omega⟩
    rwa [Nat.add_sub_cancel' upper.1, Char.ofNat_toNat] at same
  · rw [Char.toLower, dif_neg]
    exact fun range => upper ⟨range.1, range.2⟩

theorem strip_map_toLower (text : List Char) :
    strip (text.map Char.toLower) = (strip text).map Char.toLower := by
  have same : isSpace ∘ Char.toLower = isSpace := funext isSpace_toLower
  rw [strip, strip, List.dropWhile_map, same, List.rdropWhile, List.rdropWhile, ← List.map_reverse,
    List.dropWhile_map, same, ← List.map_reverse]

theorem isSpace_printable {c : Char} (low : 33 ≤ c.toNat) (high : c.toNat ≤ 126) :
    isSpace c = false := by
  simp only [isSpace, List.mem_cons, List.not_mem_nil, or_false, Bool.or_eq_false_iff,
    Bool.and_eq_false_iff, decide_eq_false_iff_not]
  omega

theorem strip_ne_nil {text : List Char} {c : Char} (member : c ∈ text) (solid : isSpace c = false) :
    strip text ≠ [] := by
  intro empty
  have blank : text.dropWhile isSpace = [] := by
    by_contra rest
    have kept := List.rdropWhile_eq_nil_iff.mp empty _ (List.head_mem rest)
    have stopped := List.head_dropWhile_not isSpace rest
    rw [kept] at stopped
    contradiction
  have space := List.dropWhile_eq_nil_iff.mp blank c member
  rw [solid] at space
  contradiction

end Meshloom.Text
