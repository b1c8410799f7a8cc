import Mathlib

/-! An alarm with a latch: it fires at an event in alarm and then not again before an event
that rearms it. -/
namespace Meshloom.Latch
variable {ε : Type} (alarm rearm : ε → Bool)

/-- Whether the latch is set after an event. -/
def next (latched : Bool) (event : ε) : Bool := if latched then !rearm event else alarm event

def after (history : List ε) : Bool := history.foldl (next alarm rearm) false

/-- The alarm fires at an event that follows a history. -/
def Fires (history : List ε) (event : ε) : Prop :=
  after alarm rearm history = false ∧ alarm event = true

theorem after_append (history : List ε) (event : ε) :
    after alarm rearm (history ++ [event]) = next alarm rearm (after alarm rearm history) event := by
  rw [after, List.foldl_append]
  rfl

theorem snoc_split {history before since : List ε} {event last : ε}
    (split : history ++ [last] = before ++ event :: since) :
    (before = history ∧ event = last ∧ since = []) ∨
      ∃ rest, since = rest ++ [last] ∧ history = before ++ event :: rest := by
  obtain ⟨rest, same, rest_eq⟩ | ⟨rest, same, rest_eq⟩ := List.append_eq_append_iff.mp split
  · cases rest with
    | nil => simp_all
    | cons head rest => simp_all
  · cases rest with
    | nil => simp_all
    | cons head rest =>
        rw [List.cons_append, List.cons.injEq] at rest_eq
        obtain ⟨rfl, rfl⟩ := rest_eq
        exact .inr ⟨rest, rfl, same⟩

/-- The latch is set by the last firing, as long as nothing rearmed it since. -/
theorem after_iff (history : List ε) : after alarm rearm history = true ↔
    ∃ before event since, history = before ++ event :: since ∧ Fires alarm rearm before event ∧
      ∀ later ∈ since, rearm later = false := by
  induction history using List.reverseRecOn with
  | nil => simp [after]
  | append_singleton history last ih =>
      rw [after_append, next]
      constructor
      · intro set
        split at set
        · rename_i latched
          obtain ⟨before, event, since, rfl, fired, quiet⟩ := ih.mp latched
          refine ⟨before, event, since ++ [last], by simp, fired, ?_⟩
          intro later member
          obtain old | new := List.mem_append.mp member
          · exact quiet later old
          · rw [List.mem_singleton.mp new]
            simpa using set
        · rename_i free
          exact ⟨history, last, [], rfl, ⟨by simpa using free, set⟩, by simp⟩
      · rintro ⟨before, event, since, split, fired, quiet⟩
        obtain ⟨rfl, rfl, rfl⟩ | ⟨since, rfl, rfl⟩ := snoc_split split
        · rw [fired.1]
          exact fired.2
        · have latched := ih.mpr ⟨before, event, since, rfl, fired,
            fun later member => quiet later (List.mem_append_left _ member)⟩
          rw [latched, if_pos rfl, quiet last (by simp)]
          rfl

/-- The alarm fires at an event in alarm exactly when it never fired before, or some event
since it last fired rearmed it. -/
theorem fires_iff (history : List ε) (event : ε) : Fires alarm rearm history event ↔
    alarm event = true ∧ ∀ before last since, history = before ++ last :: since →
      Fires alarm rearm before last →
      (∀ quiet later rest, since = quiet ++ later :: rest →
        ¬ Fires alarm rearm (before ++ last :: quiet) later) →
      ∃ later ∈ since, rearm later = true := by
  constructor
  · rintro ⟨free, inAlarm⟩
    refine ⟨inAlarm, ?_⟩
    intro before last since split fired _
    by_contra never
    have latched := (after_iff alarm rearm history).mpr
      ⟨before, last, since, split, fired, by simpa using never⟩
    rw [free] at latched
    contradiction
  · rintro ⟨inAlarm, armed⟩
    refine ⟨?_, inAlarm⟩
    by_contra set
    obtain ⟨before, last, since, split, fired, quiet⟩ :=
      (after_iff alarm rearm history).mp (by simpa using set)
    obtain ⟨later, member, rearmed⟩ := armed before last since split fired (by
      -- the latch is set all the time since, so that there was no firing in between
      rintro part later rest rfl ⟨free, _⟩
      have latched := (after_iff alarm rearm (before ++ last :: part)).mpr
        ⟨before, last, part, rfl, fired, fun other member => quiet other (List.mem_append_left _ member)⟩
      rw [free] at latched
      contradiction)
    rw [quiet later member] at rearmed
    contradiction

end Meshloom.Latch
