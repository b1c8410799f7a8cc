import Mathlib.Data.List.Infix

/-! What happened to the consumer of a queue that may shed: the messages asked to be queued,
the ones handed to it, and the ends of deliveries that failed. A history lists the newest
happening first. The messages kept and the backlog follow from the history alone, so they say
what a queue should hold without looking at it. -/
namespace Meshloom.Outbox
variable {τ μ : Type}

inductive Happening (τ μ : Type) where
  | asked (tag : τ) (message : μ)
  | handed (message : μ)
  | failed
  deriving DecidableEq, Repr

/-- The messages handed over, oldest first. -/
def handed : List (Happening τ μ) → List μ
  | [] => []
  | .handed message :: earlier => handed earlier ++ [message]
  | _ :: earlier => handed earlier

section Policy
variable (sheds : τ → Nat → Bool)

/-- The messages asked for, oldest first, without those that their backlog allows to shed. -/
def kept : List (Happening τ μ) → List μ
  | [] => []
  | .asked tag message :: earlier =>
    if sheds tag ((kept earlier).length - (handed earlier).length) then kept earlier
    else kept earlier ++ [message]
  | _ :: earlier => kept earlier

/-- The messages that are kept and not yet handed over. -/
def backlog (history : List (Happening τ μ)) : Nat :=
  (kept sheds history).length - (handed history).length

/-- A message that is not shed finds no room, or a delivery fails. -/
def Loses (capacity : Nat) (earlier : List (Happening τ μ)) : Happening τ μ → Prop
  | .asked tag _ => sheds tag (backlog sheds earlier) = false ∧ capacity ≤ backlog sheds earlier
  | .handed _ => False
  | .failed => True

/-- Something was lost at some point of a history. -/
def Lost (capacity : Nat) : List (Happening τ μ) → Prop
  | [] => False
  | newest :: earlier => Loses sheds capacity earlier newest ∨ Lost capacity earlier

/-- After a loss nothing is asked for or handed over. -/
def SilentAfterLoss (capacity : Nat) (history : List (Happening τ μ)) : Prop :=
  ∀ later earlier, history = later ++ earlier → Lost sheds capacity earlier →
    ∀ happening ∈ later, happening = .failed

/-- The queue holds the messages that are kept and not yet handed over. -/
def Holds (history : List (Happening τ μ)) (queue : List μ) : Prop :=
  kept sheds history = handed history ++ queue

end Policy

variable {sheds : τ → Nat → Bool} {capacity : Nat} {history : List (Happening τ μ)}
  {queue : List μ}

namespace Holds

theorem backlog (holds : Holds sheds history queue) :
    Outbox.backlog sheds history = queue.length := by
  rw [Outbox.backlog, holds, List.length_append, Nat.add_sub_cancel_left]

/-- What is handed over is a prefix of what is kept. -/
theorem ordered (holds : Holds sheds history queue) : handed history <+: kept sheds history :=
  ⟨queue, holds.symm⟩

theorem shed (holds : Holds sheds history queue) (sheds_ : sheds tag queue.length = true) :
    Holds sheds (.asked tag message :: history) queue := by
  rw [← holds.backlog, Outbox.backlog] at sheds_
  rw [Holds, kept, handed, if_pos sheds_]
  · exact holds
  · rintro _ ⟨⟩

theorem keep (holds : Holds sheds history queue) (keeps : sheds tag queue.length = false) :
    Holds sheds (.asked tag message :: history) (queue ++ [message]) := by
  rw [← holds.backlog] at keeps
  rw [Holds, kept, handed, if_neg (by simpa [Outbox.backlog] using keeps), holds, List.append_assoc]
  rintro _ ⟨⟩

theorem hand (holds : Holds sheds history (message :: queue)) :
    Holds sheds (.handed message :: history) queue := by
  rw [Holds, kept, handed, List.append_assoc]
  · exact holds
  · rintro _ _ ⟨⟩

/-- Asking for a message that finds no room keeps what was handed over a prefix. -/
theorem ordered_asked (holds : Holds sheds history queue) (tag : τ) (message : μ) :
    handed (.asked tag message :: history) <+: kept sheds (.asked tag message :: history) := by
  rw [kept, handed]
  · split
    · exact holds.ordered
    · exact holds.ordered.trans (List.prefix_append _ _)
  · rintro _ ⟨⟩

end Holds

theorem Lost.append {later earlier : List (Happening τ μ)} (lost : Lost sheds capacity earlier) :
    Lost sheds capacity (later ++ earlier) := by
  induction later with
  | nil => exact lost
  | cons newest later ih => exact .inr ih

namespace SilentAfterLoss

theorem unlost (unlost : ¬ Lost sheds capacity history) :
    SilentAfterLoss sheds capacity history := by
  rintro later earlier rfl lost
  exact (unlost lost.append).elim

/-- Anything may follow a history in which nothing was lost. -/
theorem next (unlost : ¬ Lost sheds capacity history) (newest : Happening τ μ) :
    SilentAfterLoss sheds capacity (newest :: history) := by
  rintro (_ | ⟨first, later⟩) earlier split lost
  · exact fun _ member => (List.not_mem_nil member).elim
  · obtain ⟨rfl, rfl⟩ := List.cons.inj split
    exact (unlost lost.append).elim

theorem failed (silent : SilentAfterLoss sheds capacity history) :
    SilentAfterLoss sheds capacity (.failed :: history) := by
  rintro (_ | ⟨first, later⟩) earlier split lost
  · exact fun _ member => (List.not_mem_nil member).elim
  · obtain ⟨rfl, rfl⟩ := List.cons.inj split
    exact List.forall_mem_cons.mpr ⟨rfl, silent later earlier rfl lost⟩

end SilentAfterLoss
end Meshloom.Outbox
