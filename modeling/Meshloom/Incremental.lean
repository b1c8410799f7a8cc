import Mathlib

/-! Incremental scanning of a stream that arrives in chunks. A scanner looks at
the buffered input and either waits for more, drops some of it, or emits an item.
If what it decides on some input does not change when more input follows, then
the items and the final buffer depend on the stream only, not on how it was cut. -/
namespace Meshloom

/-- The outcome of one look at the buffered input, with what stays buffered. -/
inductive Look (α β : Type) where
  | wait (residue : List α)
  | skip (rest : List α)
  | emit (item : β) (rest : List α)

structure Scanner (α β : Type) where
  look : List α → Look α β
  skip_shorter : ∀ {input rest}, look input = .skip rest → rest.length < input.length
  emit_shorter : ∀ {input item rest}, look input = .emit item rest → rest.length < input.length
  wait_extends : ∀ {input residue}, look input = .wait residue →
    ∀ more, look (input ++ more) = look (residue ++ more)
  skip_extends : ∀ {input rest}, look input = .skip rest →
    ∀ more, look (input ++ more) = .skip (rest ++ more)
  emit_extends : ∀ {input item rest}, look input = .emit item rest →
    ∀ more, look (input ++ more) = .emit item (rest ++ more)

namespace Scanner
variable {α β : Type}

/-- Looks until the scanner waits. -/
def drain (s : Scanner α β) (input : List α) : List β × List α :=
  match _decided : s.look input with
  | .wait residue => ([], residue)
  | .skip rest => s.drain rest
  | .emit item rest => (item :: (s.drain rest).1, (s.drain rest).2)
termination_by input.length
decreasing_by
  · exact s.skip_shorter _decided
  · exact s.emit_shorter _decided

variable {s : Scanner α β} {input : List α}

theorem drain_wait (decided : s.look input = .wait residue) : s.drain input = ([], residue) := by
  rw [drain]
  split <;> simp_all

theorem drain_skip (decided : s.look input = .skip rest) : s.drain input = s.drain rest := by
  rw [drain]
  split <;> simp_all

theorem drain_emit (decided : s.look input = .emit item rest) :
    s.drain input = (item :: (s.drain rest).1, (s.drain rest).2) := by
  rw [drain]
  split <;> simp_all

/-- Draining depends on the first look only. -/
theorem drain_congr (same : s.look input = s.look other) : s.drain input = s.drain other := by
  cases decided : s.look other with
  | wait residue => rw [drain_wait decided, drain_wait (same.trans decided)]
  | skip rest => rw [drain_skip decided, drain_skip (same.trans decided)]
  | emit item rest => rw [drain_emit decided, drain_emit (same.trans decided)]

/-- Draining may stop anywhere and resume with the buffer it left. -/
theorem drain_append (s : Scanner α β) (input more : List α) :
    s.drain (input ++ more) =
      ((s.drain input).1 ++ (s.drain ((s.drain input).2 ++ more)).1,
        (s.drain ((s.drain input).2 ++ more)).2) := by
  induction size : input.length using Nat.strong_induction_on generalizing input with
  | _ n ih =>
    subst size
    cases decided : s.look input with
    | wait residue =>
        rw [drain_wait decided, drain_congr (s.wait_extends decided more)]
        rfl
    | skip rest =>
        rw [drain_skip decided, drain_skip (s.skip_extends decided more)]
        exact ih _ (s.skip_shorter decided) rest rfl
    | emit item rest =>
        rw [drain_emit decided, drain_emit (s.emit_extends decided more),
          ih _ (s.emit_shorter decided) rest rfl]
        rfl

/-- Where draining stops, the scanner waits. -/
theorem drain_waits (s : Scanner α β) (input : List α) :
    s.look (s.drain input).2 = .wait (s.drain input).2 := by
  induction size : input.length using Nat.strong_induction_on generalizing input with
  | _ n ih =>
    subst size
    cases decided : s.look input with
    | wait residue =>
        rw [drain_wait decided]
        have same := s.wait_extends decided []
        simpa only [List.append_nil, decided] using same.symm
    | skip rest =>
        rw [drain_skip decided]
        exact ih _ (s.skip_shorter decided) rest rfl
    | emit item rest =>
        rw [drain_emit decided]
        exact ih _ (s.emit_shorter decided) rest rfl

/-- Drains after each chunk, keeping the buffer in between. -/
def drainChunks (s : Scanner α β) : List α → List (List α) → List β × List α
  | buffer, [] => ([], buffer)
  | buffer, chunk :: rest =>
    let now := s.drain (buffer ++ chunk)
    let later := s.drainChunks now.2 rest
    (now.1 ++ later.1, later.2)

/-- A stream gives the same items and the same final buffer however it is cut,
from any buffer on which the scanner waits. -/
theorem drainChunks_flatten (waits : s.look buffer = .wait buffer) (chunks : List (List α)) :
    s.drainChunks buffer chunks = s.drain (buffer ++ chunks.flatten) := by
  induction chunks generalizing buffer with
  | nil =>
      rw [List.flatten_nil, List.append_nil, drain_wait waits]
      rfl
  | cons chunk rest ih =>
      rw [drainChunks, ih (s.drain_waits _), List.flatten_cons, ← List.append_assoc,
        s.drain_append (buffer ++ chunk)]

end Scanner
end Meshloom
