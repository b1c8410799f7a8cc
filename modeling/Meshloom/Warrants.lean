import Mathlib.Data.List.Infix

/-! Logs, the latest entry first, every entry of which is warranted by those before it. -/
namespace Meshloom.Warrants
variable {E : Type} {warrant : List E → E → Prop} {log : List E}

def Warranted (warrant : List E → E → Prop) (log : List E) : Prop :=
  ∀ entry older, entry :: older <:+ log → warrant older entry

theorem Warranted.nil : Warranted warrant [] :=
  fun _ _ suffix => absurd (List.suffix_nil.mp suffix) nofun

theorem Warranted.cons (warranted : Warranted warrant log) (entry : warrant log event) :
    Warranted warrant (event :: log) := by
  intro event' older suffix
  obtain same | suffix := List.suffix_cons_iff.mp suffix
  · cases same
    exact entry
  · exact warranted event' older suffix

/-- Entries that need no warrant may be added. -/
theorem Warranted.append (warranted : Warranted warrant log) (newer : List E)
    (free : ∀ entry ∈ newer, ∀ older, warrant older entry) : Warranted warrant (newer ++ log) := by
  induction newer with
  | nil => exact warranted
  | cons entry newer ih =>
      exact (ih fun entry member => free entry (List.mem_cons_of_mem _ member)).cons
        (free entry List.mem_cons_self _)

end Meshloom.Warrants
