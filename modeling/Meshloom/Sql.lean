import Mathlib

/-! The `LIKE` operator of SQLite, which folds the case of ASCII letters only, and its
logic of three values, in which `none` is null. -/
namespace Meshloom.Sql

/-- `text LIKE pattern`. -/
def like : List Char → List Char → Bool
  | [], text => text.isEmpty
  | c :: pattern, text =>
    if c = '%' then text.tails.any (like pattern)
    else match text with
      | [] => false
      | d :: text => (c = '_' || c.toLower = d.toLower) && like pattern text

/-- `text LIKE start || '%'`. -/
def likeStart (start text : List Char) : Bool := like (start ++ ['%']) text

theorem like_percent (text : List Char) : like ['%'] text = true := by
  simp only [like, if_true, List.any_eq_true]
  exact ⟨[], (List.mem_tails _ _).mpr List.nil_suffix, rfl⟩

/-- A text starts with each of its own beginnings, whatever characters they have. -/
theorem likeStart_append (start rest : List Char) : likeStart start (start ++ rest) = true := by
  unfold likeStart
  induction start with
  | nil => exact like_percent rest
  | cons c start ih =>
      simp only [List.cons_append, like]
      split
      · rw [List.any_eq_true]
        exact ⟨start ++ rest, (List.mem_tails _ _).mpr (List.suffix_cons _ _), ih⟩
      · simp [ih]

/-- What starts a text also starts every continuation of it. -/
theorem likeStart_of_append {start text : List Char} (starts : likeStart start text = true)
    (rest : List Char) : likeStart start (text ++ rest) = true := by
  unfold likeStart at starts ⊢
  induction start generalizing text with
  | nil => exact like_percent _
  | cons c start ih =>
      simp only [List.cons_append, like] at starts ⊢
      split at starts
      · rename_i wild
        rw [List.any_eq_true] at starts
        obtain ⟨tail, isTail, starts⟩ := starts
        rw [if_pos wild, List.any_eq_true]
        refine ⟨tail ++ rest, (List.mem_tails _ _).mpr ?_, ih starts⟩
        obtain ⟨front, same⟩ := (List.mem_tails _ _).mp isTail
        exact ⟨front, by rw [← same, List.append_assoc]⟩
      · rename_i plain
        cases text with
        | nil => contradiction
        | cons d text =>
            rw [Bool.and_eq_true] at starts
            rw [if_neg plain]
            simp only [List.cons_append, starts.1, ih starts.2, Bool.and_self]

theorem like_literal {c d : Char} {pattern text : List Char} (percent : c ≠ '%')
    (underscore : c ≠ '_') : like (c :: pattern) (d :: text) =
      (decide (c.toLower = d.toLower) && like pattern text) := by
  simp [like, percent, underscore]

/-- Without wildcards and upper case, only a beginning starts a text. -/
theorem likeStart_iff {start text : List Char}
    (plain : ∀ c ∈ start, c ≠ '%' ∧ c ≠ '_' ∧ c.toLower = c) (lowered : ∀ c ∈ text, c.toLower = c) :
    likeStart start text = true ↔ start <+: text := by
  refine ⟨fun starts => ?_, ?_⟩
  · unfold likeStart at starts
    induction start generalizing text with
    | nil => exact List.nil_prefix
    | cons c start ih =>
        obtain ⟨percent, underscore, low⟩ := plain c List.mem_cons_self
        cases text with
        | nil => simp [like, percent] at starts
        | cons d text =>
            rw [List.cons_append, like_literal percent underscore, Bool.and_eq_true,
              decide_eq_true_eq, low, lowered d List.mem_cons_self] at starts
            obtain ⟨rfl, starts⟩ := starts
            refine List.cons_prefix_cons.mpr ⟨rfl, ih ?_ ?_ starts⟩
            · exact fun c member => plain c (List.mem_cons_of_mem _ member)
            · exact fun c member => lowered c (List.mem_cons_of_mem _ member)
  · rintro ⟨rest, rfl⟩
    exact likeStart_append start rest

def and3 : Option Bool → Option Bool → Option Bool
  | some false, _ | _, some false => some false
  | some true, some true => some true
  | _, _ => none

def or3 : Option Bool → Option Bool → Option Bool
  | some true, _ | _, some true => some true
  | some false, some false => some false
  | _, _ => none

def not3 (value : Option Bool) : Option Bool := value.map (!·)

/-- `value IN (...)` over a list without nulls. -/
def in3 [DecidableEq α] (value : Option α) (values : List α) : Option Bool :=
  value.map fun value => value ∈ values

def isNotNull (value : Option α) : Option Bool := some value.isSome

/-- `a > b`, which is null when one of them is. -/
def gt3 (a b : Option Int) : Option Bool :=
  match a, b with
  | some a, some b => some (decide (b < a))
  | _, _ => none

/-- A condition of a `WHERE` holds when it is true, neither false nor null. -/
def holds (condition : Option Bool) : Bool := condition = some true

@[simp]
theorem and3_some (a b : Bool) : and3 (some a) (some b) = some (a && b) := by
  cases a <;> cases b <;> rfl

@[simp]
theorem or3_some (a b : Bool) : or3 (some a) (some b) = some (a || b) := by
  cases a <;> cases b <;> rfl

/-- A null check in front of `IN` leaves no null. -/
theorem notNull_in3 [DecidableEq α] (value : Option α) (values : List α) :
    and3 (isNotNull value) (in3 value values) = some (value.any (· ∈ values)) := by
  cases value with
  | none => rfl
  | some value => simp [isNotNull, in3]

end Meshloom.Sql
