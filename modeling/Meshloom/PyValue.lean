import Mathlib.Data.Rat.Defs
import Mathlib.Algebra.Order.Ring.Rat

/-! Values that Python's `json` reads, with floats by the numbers they stand for. -/
namespace Meshloom

inductive PyFloat where
  | finite (x : ℚ)
  | infinity (negative : Bool)
  | nan
  deriving DecidableEq

namespace PyFloat

/-- `x < bound`; nothing is less than a bound, or greater, when it is no number. -/
def below (x : PyFloat) (bound : ℚ) : Bool :=
  match x with
  | .finite x => x < bound
  | .infinity negative => negative
  | .nan => false

def above (x : PyFloat) (bound : ℚ) : Bool :=
  match x with
  | .finite x => bound < x
  | .infinity negative => !negative
  | .nan => false

def isFinite : PyFloat → Bool
  | .finite _ => true
  | _ => false

end PyFloat

inductive PyValue where
  | null
  | bool (b : Bool)
  | int (n : Int)
  | float (x : PyFloat)
  | string (s : List Char)
  | array (items : List PyValue)
  | object (entries : List (List Char × PyValue))

namespace PyValue

/-- `entries.get(key)`, which is null for a key that is not there. -/
def get (entries : List (List Char × PyValue)) (key : List Char) : PyValue :=
  (entries.lookup key).getD .null

/-- `value.get(name)` of a dict; null for a value that is none. -/
def field (value : PyValue) (name : String) : PyValue :=
  match value with
  | .object entries => get entries name.toList
  | _ => .null

/-- The entries that have a value. -/
def present (fields : List (String × Option PyValue)) : List (List Char × PyValue) :=
  fields.filterMap fun field => field.2.map (field.1.toList, ·)

@[simp]
theorem lookup_present_nil (key : List Char) : (present []).lookup key = none := rfl

@[simp]
theorem lookup_present_cons (name : String) (value : Option PyValue)
    (rest : List (String × Option PyValue)) (key : List Char) :
    (present ((name, value) :: rest)).lookup key =
      if key = name.toList then value.or ((present rest).lookup key)
      else (present rest).lookup key := by
  cases value with
  | none => simp [present]
  | some value =>
      by_cases same : key = name.toList
      · simp [present, same]
      · have different : (key == name.toList) = false := beq_false_of_ne same
        simp [present, same, List.lookup_cons, different]

theorem mem_present {fields : List (String × Option PyValue)} {entry : List Char × PyValue} :
    entry ∈ present fields ↔ ∃ name, (name, some entry.2) ∈ fields ∧ name.toList = entry.1 := by
  obtain ⟨key, value⟩ := entry
  simp [present, and_comm]

end PyValue
end Meshloom
