import Mathlib.Order.Basic

/-! Runs of a state machine given by a partial step function. An event that
is not enabled has no successor. A run may be restricted to steps that meet a
condition on the state before the step, so that a result can say which runs it
covers; the unrestricted run is the special case of the trivial condition. -/
namespace Meshloom.Transition
variable {S E : Type} {step : S → E → Option S} {allowed strict : S → E → Prop}

/-- The condition that every step meets. -/
def Any (_ : S) (_ : E) : Prop := True

inductive Reaches (step : S → E → Option S) (allowed : S → E → Prop) : S → S → Prop where
  | refl (s) : Reaches step allowed s s
  | next : Reaches step allowed s t → allowed t e → step t e = some u → Reaches step allowed s u

namespace Reaches

theorem trans (first : Reaches step allowed s t) (second : Reaches step allowed t u) :
    Reaches step allowed s u := by
  induction second with
  | refl => exact first
  | next _ permitted stepped ih => exact .next ih permitted stepped

/-- The induction rule for safety: what holds first and is kept by every
permitted step holds in every state reached. -/
theorem invariant {P : S → Prop}
    (preserves : ∀ {t e u}, P t → allowed t e → step t e = some u → P u)
    (run : Reaches step allowed s t) (initial : P s) : P t := by
  induction run with
  | refl => exact initial
  | next _ permitted stepped ih => exact preserves ih permitted stepped

theorem weaken (implied : ∀ t e, strict t e → allowed t e) (run : Reaches step strict s t) :
    Reaches step allowed s t := by
  induction run with
  | refl => exact .refl _
  | next _ permitted stepped ih => exact .next ih (implied _ _ permitted) stepped

theorem any (run : Reaches step allowed s t) : Reaches step Any s t :=
  run.weaken fun _ _ _ => trivial

end Reaches

/-- Executes a schedule; `none` when one of its events is not enabled. -/
def execute (step : S → E → Option S) : S → List E → Option S
  | s, [] => some s
  | s, e :: rest => (step s e).bind (execute step · rest)

theorem execute_reaches_where {events : List E} (permitted : ∀ t, ∀ e ∈ events, allowed t e)
    (ran : execute step s events = some t) : Reaches step allowed s t := by
  induction events generalizing s with
  | nil =>
      cases ran
      exact .refl _
  | cons e rest ih =>
      obtain ⟨next, stepped, ran⟩ := Option.bind_eq_some_iff.mp ran
      have first : Reaches step allowed s next :=
        .next (.refl _) (permitted s e List.mem_cons_self) stepped
      exact first.trans (ih (fun t e member => permitted t e (List.mem_cons_of_mem _ member)) ran)

theorem execute_reaches {events : List E} (ran : execute step s events = some t) :
    Reaches step Any s t :=
  execute_reaches_where (fun _ _ _ => trivial) ran

/-- Executes a schedule whose events meet the condition. -/
def executeWhere (step : S → E → Option S) (allowed : S → E → Prop)
    [∀ s e, Decidable (allowed s e)] : S → List E → Option S
  | s, [] => some s
  | s, e :: rest =>
      if allowed s e then (step s e).bind (executeWhere step allowed · rest) else none

theorem executeWhere_reaches [∀ s e, Decidable (allowed s e)] {events : List E}
    (ran : executeWhere step allowed s events = some t) : Reaches step allowed s t := by
  induction events generalizing s with
  | nil =>
      cases ran
      exact .refl _
  | cons e rest ih =>
      obtain ⟨permitted, ran⟩ := Option.ite_none_right_eq_some.mp ran
      obtain ⟨next, stepped, ran⟩ := Option.bind_eq_some_iff.mp ran
      have first : Reaches step allowed s next := .next (.refl _) permitted stepped
      exact first.trans (ih ran)

/-- A property of every state that a schedule comes to, as far as its events are enabled. -/
def Always (step : S → E → Option S) (P : S → Prop) : S → List E → Prop
  | s, [] => P s
  | s, e :: rest => P s ∧ ∀ t, step s e = some t → Always step P t rest

theorem Always.final {P : S → Prop} {events : List E} (always : Always step P s events)
    (ran : execute step s events = some t) : P t := by
  induction events generalizing s with
  | nil =>
      cases ran
      exact always
  | cons e rest ih =>
      obtain ⟨next, stepped, ran⟩ := Option.bind_eq_some_iff.mp ran
      exact ih (always.2 next stepped) ran

/-- A condition on every step that a schedule takes. -/
def EachStep (step : S → E → Option S) (allowed : S → E → Prop) : S → List E → Prop
  | _, [] => True
  | s, e :: rest => ∀ t, step s e = some t → allowed s e ∧ EachStep step allowed t rest

/-- Where a step of the states that meet an invariant keeps the property exactly under the condition,
a schedule does. -/
theorem always_iff_of {I P : S → Prop}
    (exactly : ∀ {s e t}, I s → P s → step s e = some t → (P t ↔ allowed s e))
    (kept : ∀ {s e t}, I s → step s e = some t → I t) (inv : I s) (initial : P s)
    (events : List E) : Always step P s events ↔ EachStep step allowed s events := by
  induction events generalizing s with
  | nil => exact iff_of_true initial trivial
  | cons e rest ih =>
      constructor
      · intro always t stepped
        have later := always.2 t stepped
        have holds : P t := by
          cases rest with
          | nil => exact later
          | cons => exact later.1
        exact ⟨(exactly inv initial stepped).mp holds, (ih (kept inv stepped) holds).mp later⟩
      · intro each
        refine ⟨initial, fun t stepped => ?_⟩
        obtain ⟨permitted, later⟩ := each t stepped
        have holds := (exactly inv initial stepped).mpr permitted
        exact (ih (kept inv stepped) holds).mpr later

theorem always_iff {P : S → Prop}
    (exactly : ∀ {s e t}, P s → step s e = some t → (P t ↔ allowed s e)) (initial : P s)
    (events : List E) : Always step P s events ↔ EachStep step allowed s events := by
  refine always_iff_of (I := fun _ => True) ?_ ?_ trivial initial events
  · exact fun _ holds stepped => exactly holds stepped
  · exact fun _ _ => trivial

/-- An invariant that a condition keeps turns it into another one on every step. -/
theorem EachStep.weaken {I : S → Prop}
    (kept : ∀ {s e t}, I s → strict s e → step s e = some t → allowed s e ∧ I t) (initial : I s)
    {events : List E} (each : EachStep step strict s events) : EachStep step allowed s events := by
  induction events generalizing s with
  | nil => trivial
  | cons e rest ih =>
      intro t stepped
      obtain ⟨permitted, later⟩ := each t stepped
      obtain ⟨wanted, inv⟩ := kept initial permitted stepped
      exact ⟨wanted, ih inv later⟩

end Meshloom.Transition
