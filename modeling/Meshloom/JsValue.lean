import Meshloom.PyValue

/-! Values that the frontend's `JSON.parse` gives, and what it gives for a value that Python's
`json.dumps` wrote. Of the numbers only the nearest double of a whole number is left open. -/
namespace Meshloom

inductive JsValue where
  | null
  | bool (b : Bool)
  | number (x : PyFloat)
  | string (s : List Char)
  | array (items : List JsValue)
  | object (entries : List (List Char × JsValue))

namespace JsValue

/-- `value.name`; nothing when it is undefined. -/
def get (entries : List (List Char × JsValue)) (name : String) : Option JsValue :=
  entries.lookup name.toList

variable (nearest : Int → Option ℚ)

/-- A whole number is read as the nearest double, and one beyond them all as infinite. -/
def readInt (n : Int) : PyFloat :=
  match nearest n with
  | some x => .finite x
  | none => .infinity (n < 0)

mutual

/-- `JSON.parse(json.dumps(value))`; nothing where the text is no JSON, which has no word for a
number that is not finite. -/
def roundTrip : PyValue → Option JsValue
  | .null => some .null
  | .bool b => some (.bool b)
  | .int n => some (.number (readInt nearest n))
  | .float (.finite x) => some (.number (.finite x))
  | .float _ => none
  | .string s => some (.string s)
  | .array items => (roundTripItems items).map .array
  | .object entries => (roundTripEntries entries).map .object

def roundTripItems : List PyValue → Option (List JsValue)
  | [] => some []
  | item :: rest => do return (← roundTrip item) :: (← roundTripItems rest)

def roundTripEntries : List (List Char × PyValue) → Option (List (List Char × JsValue))
  | [] => some []
  | (key, value) :: rest => do return (key, ← roundTrip value) :: (← roundTripEntries rest)

end

variable {nearest}

/-- A key has what its value becomes. -/
theorem lookup_roundTripEntries {entries : List (List Char × PyValue)}
    {read : List (List Char × JsValue)} (done : roundTripEntries nearest entries = some read)
    (key : List Char) : read.lookup key = (entries.lookup key).bind (roundTrip nearest) := by
  induction entries generalizing read with
  | nil =>
      cases done
      rfl
  | cons entry rest ih =>
      obtain ⟨name, value⟩ := entry
      simp only [roundTripEntries, Option.bind_eq_bind, Option.bind_eq_some_iff, Option.pure_def,
        Option.some.injEq] at done
      obtain ⟨head, head_read, tail, tail_read, rfl⟩ := done
      rw [List.lookup_cons, List.lookup_cons]
      split
      · rename_i same
        simp [head_read]
      · rename_i different
        simp [ih tail_read]

/-- An object is read when each of its values is. -/
theorem roundTripEntries_isSome {entries : List (List Char × PyValue)} :
    (roundTripEntries nearest entries).isSome ↔
      ∀ entry ∈ entries, (roundTrip nearest entry.2).isSome := by
  induction entries with
  | nil => simp [roundTripEntries]
  | cons entry rest ih =>
      obtain ⟨name, value⟩ := entry
      rw [List.forall_mem_cons, ← ih]
      simp only [roundTripEntries, Option.bind_eq_bind]
      cases roundTrip nearest value <;> cases roundTripEntries nearest rest <;> simp

theorem roundTripItems_strings (texts : List (List Char)) :
    roundTripItems nearest (texts.map .string) = some (texts.map .string) := by
  induction texts with
  | nil => rfl
  | cons text rest ih => simp [roundTripItems, roundTrip, ih]

/-- Items that a reader takes back one by one are read back as a list. -/
theorem mapM_roundTripItems {α : Type} {write : α → PyValue} {read : JsValue → Option α}
    {items : List α} :
    (roundTripItems nearest (items.map write)).bind (List.mapM read) = some items ↔
      ∀ item ∈ items, (roundTrip nearest (write item)).bind read = some item := by
  induction items with
  | nil => simp [roundTripItems]
  | cons item rest ih =>
      rw [List.forall_mem_cons, ← ih]
      simp only [List.map_cons, roundTripItems, Option.bind_eq_bind, Option.pure_def]
      cases roundTrip nearest (write item) with
      | none => simp
      | some value =>
          cases roundTripItems nearest (rest.map write) with
          | none => simp
          | some values =>
              simp only [Option.bind_some, List.mapM_cons, Option.bind_eq_bind, Option.pure_def,
                Option.bind_eq_some_iff, Option.some.injEq, List.cons.injEq]
              constructor
              · rintro ⟨_, head, _, tail, rfl, rfl⟩
                exact ⟨head, tail⟩
              · rintro ⟨head, tail⟩
                exact ⟨item, head, rest, tail, rfl, rfl⟩

end JsValue
end Meshloom
