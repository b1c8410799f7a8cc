import Mathlib.Data.List.Basic
import Mathlib.Data.List.Infix

/-! Leftmost matches in a text. A pattern is given by the length of its match at the start of a
text, and a text that it cannot begin in only shifts what is found behind it. -/
namespace Meshloom.TextSearch

/-- The pattern that matches one text only. -/
def literal (start text : List Char) : Option Nat :=
  if start.isPrefixOf text then some start.length else none

/-- The end of the leftmost match. -/
def search (atStart : List Char → Option Nat) : List Char → Option Nat
  | [] => atStart []
  | c :: rest =>
    match atStart (c :: rest) with
    | some length => some length
    | none => (search atStart rest).map (· + 1)

/-- No match of `start` begins in the text, whatever follows it. -/
def clearOf (start : List Char) : List Char → Bool
  | [] => true
  | c :: rest =>
    !start.isPrefixOf (c :: rest) && !(c :: rest).isPrefixOf start && clearOf start rest

/-- Every match of the pattern begins with `start`. -/
def Begins (start : List Char) (atStart : List Char → Option Nat) : Prop :=
  ∀ text n, atStart text = some n → start <+: text

theorem literal_eq_some_iff : literal start text = some n ↔ start <+: text ∧ n = start.length := by
  simp only [literal]
  split
  · rename_i begins
    rw [List.isPrefixOf_iff_prefix] at begins
    simp [begins, eq_comm]
  · rename_i other
    rw [List.isPrefixOf_iff_prefix] at other
    simp [other]

theorem begins_literal (start : List Char) : Begins start (literal start) :=
  fun _ _ found => (literal_eq_some_iff.mp found).1

theorem literal_append (start rest : List Char) :
    literal start (start ++ rest) = some start.length :=
  literal_eq_some_iff.mpr ⟨List.prefix_append _ _, rfl⟩

/-- Neither of two texts that differ begins what the other goes on to. -/
theorem not_prefix_append (other : start.isPrefixOf text = false)
    (reverse : text.isPrefixOf start = false) (rest : List Char) : ¬ start <+: text ++ rest := by
  intro begins
  rw [Bool.eq_false_iff, ne_eq, List.isPrefixOf_iff_prefix] at other reverse
  obtain shorter | longer := Nat.le_total start.length text.length
  · exact other (List.prefix_of_prefix_length_le begins (List.prefix_append _ _) shorter)
  · exact reverse (List.prefix_of_prefix_length_le (List.prefix_append _ _) begins longer)

theorem clearOf_cons (clear : clearOf start (c :: rest) = true) :
    start.isPrefixOf (c :: rest) = false ∧ (c :: rest).isPrefixOf start = false ∧
      clearOf start rest = true := by
  simpa [clearOf, and_assoc] using clear

theorem clearOf_append (first : clearOf start a = true) (second : clearOf start b = true) :
    clearOf start (a ++ b) = true := by
  induction a with
  | nil => exact second
  | cons c rest ih =>
      obtain ⟨other, reverse, clear⟩ := clearOf_cons first
      have apart := not_prefix_append other reverse b
      have longer : (c :: (rest ++ b)).isPrefixOf start = false := by
        rw [Bool.eq_false_iff, ne_eq, List.isPrefixOf_iff_prefix]
        intro begins
        rw [Bool.eq_false_iff, ne_eq, List.isPrefixOf_iff_prefix] at reverse
        exact reverse ((List.prefix_append (c :: rest) b).trans begins)
      rw [List.cons_append, ← List.isPrefixOf_iff_prefix, Bool.not_eq_true] at apart
      simp [clearOf, apart, longer, ih clear]

/-- A pattern that cannot begin in a text does not match one that starts with it. -/
theorem atStart_append (begins : Begins start atStart) (clear : clearOf start before = true)
    (nonempty : before ≠ []) (text : List Char) : atStart (before ++ text) = none := by
  obtain ⟨c, rest, rfl⟩ := List.exists_cons_of_ne_nil nonempty
  obtain ⟨other, reverse, _⟩ := clearOf_cons clear
  cases found : atStart (c :: rest ++ text) with
  | none => rfl
  | some n => exact absurd (begins _ n found) (not_prefix_append other reverse text)

theorem clearOf_of_head (absent : first ∉ text) : clearOf (first :: start) text = true := by
  induction text with
  | nil => rfl
  | cons c rest ih =>
      simp only [List.mem_cons, not_or] at absent
      have apart : (first == c) = false := by simpa using absent.1
      have reverse : (c == first) = false := by simpa using Ne.symm absent.1
      simp [clearOf, List.isPrefixOf, apart, reverse, ih absent.2]

theorem search_append (begins : Begins start atStart) (clear : clearOf start before = true)
    (text : List Char) :
    search atStart (before ++ text) = (search atStart text).map (· + before.length) := by
  induction before with
  | nil => simp
  | cons c rest ih =>
      have whole := clear
      obtain ⟨_, _, clear⟩ := clearOf_cons clear
      have apart : atStart (c :: (rest ++ text)) = none :=
        atStart_append begins whole (List.cons_ne_nil c rest) text
      simp only [List.cons_append, search, apart, ih clear, Option.map_map]
      rfl

/-- What a text search finds first is where it is known to be. -/
theorem search_literal_append (clear : clearOf start before = true) (rest : List Char) :
    search (literal start) (before ++ start ++ rest) = some (before.length + start.length) := by
  have here : search (literal start) (start ++ rest) = some start.length := by
    cases whole : start ++ rest with
    | nil =>
        have empty := (List.append_eq_nil_iff.mp whole).1
        simp [search, literal, empty]
    | cons c tail =>
        have found := literal_append start rest
        rw [whole] at found
        simp only [search, found]
  rw [List.append_assoc, search_append (begins_literal start) clear, here, Option.map_some,
    Nat.add_comm]

theorem search_eq_some (found : search atStart text = some n) :
    ∃ before rest m, text = before ++ rest ∧ atStart rest = some m ∧ n = before.length + m := by
  induction text generalizing n with
  | nil => exact ⟨[], [], n, rfl, found, by simp⟩
  | cons c tail ih =>
      simp only [search] at found
      split at found
      · rename_i m here
        exact ⟨[], c :: tail, m, rfl, here, by simpa using found.symm⟩
      · obtain ⟨k, later, rfl⟩ := Option.map_eq_some_iff.mp found
        obtain ⟨before, rest, m, rfl, here, rfl⟩ := ih later
        exact ⟨c :: before, rest, m, rfl, here, by simp [Nat.add_right_comm]⟩

/-- The text up to the end of a literal that was found ends with it. -/
theorem take_search_literal (found : search (literal start) text = some n) :
    ∃ before, text.take n = before ++ start := by
  obtain ⟨before, rest, m, rfl, here, rfl⟩ := search_eq_some found
  obtain ⟨⟨tail, rfl⟩, rfl⟩ := literal_eq_some_iff.mp here
  refine ⟨before, ?_⟩
  rw [← List.append_assoc, ← List.length_append, List.take_left]

theorem search_eq_none (none : search atStart text = none) (suffix : rest <:+ text) :
    atStart rest = .none := by
  induction text with
  | nil =>
      rw [List.suffix_nil.mp suffix]
      exact none
  | cons c tail ih =>
      simp only [search] at none
      split at none
      · contradiction
      · rename_i here
        obtain rfl | later := List.suffix_cons_iff.mp suffix
        · exact here
        · exact ih (Option.map_eq_none_iff.mp none) later

end Meshloom.TextSearch
