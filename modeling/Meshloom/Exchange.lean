import Mathlib.Order.Defs.Unbundled

/-! Programs that exchange messages with an environment. What the environment does at each
exchange is drawn from a schedule; an exchange may change the state and may fail, and a program
may catch that. A triple says of every schedule how a program ends. -/
namespace Meshloom.Exchange

/-- The state, and what the environment will do at each exchange. -/
structure World (S O : Type) where
  state : S
  outcomes : Nat → O
  next : Nat

def Program (S O E α : Type) := World S O → Except E α × World S O

namespace Program
variable {S O E α β : Type}

instance : Monad (Program S O E) where
  pure a w := (.ok a, w)
  bind program continue_ w :=
    match program w with
    | (.ok a, w) => continue_ a w
    | (.error e, w) => (.error e, w)

def raise (e : E) : Program S O E α := fun w => (.error e, w)

def recover (program : Program S O E α) (handler : E → Program S O E α) : Program S O E α :=
  fun w =>
    match program w with
    | (.error e, w) => handler e w
    | (.ok a, w) => (.ok a, w)

def exchange (f : O → S → Except E α × S) : Program S O E α := fun w =>
  let (result, state) := f (w.outcomes w.next) w.state
  (result, { w with state, next := w.next + 1 })

def inspect (f : S → α) : Program S O E α := fun w => (.ok (f w.state), w)

def update (f : S → S) : Program S O E Unit := fun w => (.ok (), { w with state := f w.state })

/-- `try … finally`; the cleanup is told what the program returned. -/
def ensure (program : Program S O E α) (cleanup : Option α → Program S O E Unit) :
    Program S O E α :=
  fun w =>
    let (result, w) := program w
    match cleanup result.toOption w with
    | (.ok (), w) => (result, w)
    | (.error e, w) => (.error e, w)

/-- Runs a program on a part of the state. -/
def within {T : Type} (part : T → S) (put : T → S → T) (program : Program S O E α) :
    Program T O E α :=
  fun w =>
    let (result, after) := program ⟨part w.state, w.outcomes, w.next⟩
    (result, ⟨put w.state after.state, after.outcomes, after.next⟩)

/-- Runs a program that hears only a part of what the environment does. -/
def hearing {O' : Type} (hear : O' → O) (program : Program S O E α) : Program S O' E α :=
  fun w =>
    let (result, after) := program ⟨w.state, fun n => hear (w.outcomes n), w.next⟩
    (result, ⟨after.state, w.outcomes, after.next⟩)

/-! What a program does in one world. -/

theorem run_exchange (f : O → S → Except E α × S) (w : World S O) :
    exchange f w = ((f (w.outcomes w.next) w.state).1,
      { w with state := (f (w.outcomes w.next) w.state).2, next := w.next + 1 }) :=
  rfl

theorem run_bind_ok {program : Program S O E α} {continue_ : α → Program S O E β} {w after : World S O}
    (ran : program w = (.ok a, after)) : (program >>= continue_) w = continue_ a after := by
  simp only [Bind.bind, ran]

theorem run_bind_error {program : Program S O E α} {continue_ : α → Program S O E β}
    {w after : World S O} (ran : program w = (.error e, after)) :
    (program >>= continue_) w = (.error e, after) := by
  simp only [Bind.bind, ran]

theorem run_recover_ok {program : Program S O E α} {handler : E → Program S O E α}
    {w after : World S O} (ran : program w = (.ok a, after)) :
    recover program handler w = (.ok a, after) := by
  simp only [recover, ran]

theorem run_recover_error {program : Program S O E α} {handler : E → Program S O E α}
    {w after : World S O} (ran : program w = (.error e, after)) :
    recover program handler w = handler e after := by
  simp only [recover, ran]

theorem run_ensure {program : Program S O E α} {cleanup : Option α → Program S O E Unit}
    {w after last : World S O} {result : Except E α} {cleaned : Except E Unit}
    (ran : program w = (result, after)) (clean : cleanup result.toOption after = (cleaned, last)) :
    ensure program cleanup w = (cleaned.bind fun _ => result, last) := by
  simp only [ensure, ran, clean]
  cases cleaned <;> rfl

/-- From every state in `P`, whatever the environment does, the program ends in `Q`. -/
def Meets (P : S → Prop) (program : Program S O E α) (Q : Except E α → S → Prop) : Prop :=
  ∀ w, P w.state → Q (program w).1 (program w).2.state

variable {P : S → Prop} {Q : Except E α → S → Prop}

theorem Meets.pure (ends : ∀ s, P s → Q (.ok a) s) : Meets P (Pure.pure a : Program S O E α) Q :=
  fun w holds => ends w.state holds

theorem Meets.raise (ends : ∀ s, P s → Q (.error e) s) :
    Meets P (raise e : Program S O E α) Q :=
  fun w holds => ends w.state holds

theorem Meets.exchange {f : O → S → Except E α × S}
    (ends : ∀ outcome s, P s → Q (f outcome s).1 (f outcome s).2) : Meets P (exchange f) Q :=
  fun w holds => ends (w.outcomes w.next) w.state holds

theorem Meets.inspect {f : S → α} (ends : ∀ s, P s → Q (.ok (f s)) s) :
    Meets P (inspect f : Program S O E α) Q :=
  fun w holds => ends w.state holds

theorem Meets.update {f : S → S} {Q : Except E Unit → S → Prop}
    (ends : ∀ s, P s → Q (.ok ()) (f s)) : Meets P (update f : Program S O E Unit) Q :=
  fun w holds => ends w.state holds

theorem Meets.of_pre {P' : S → Prop} {program : Program S O E α} (meets : Meets P program Q)
    (pre : ∀ s, P' s → P s) : Meets P' program Q :=
  fun w holds => meets w (pre w.state holds)

theorem Meets.of_each {program : Program S O E α} (meets : ∀ s, P s → Meets (· = s) program Q) :
    Meets P program Q :=
  fun w holds => meets w.state holds w rfl

/-- What is known apart from the state may be assumed. -/
theorem Meets.assume {known : Prop} {program : Program S O E α}
    (meets : known → Meets P program Q) : Meets (fun s => P s ∧ known) program Q :=
  fun w holds => meets holds.2 w holds.1

/-- What a program hands on when it succeeds, and what it ends with when it fails. -/
def Split (onOk : α → S → Prop) (onError : E → S → Prop) : Except E α → S → Prop
  | .ok a, s => onOk a s
  | .error e, s => onError e s

/-- Weakens a triple that tells success from failure. -/
theorem Meets.split {R : α → S → Prop} {T : E → S → Prop} {program : Program S O E α}
    (meets : Meets P program (Split R T)) (ok : ∀ a s, R a s → Q (.ok a) s)
    (error : ∀ e s, T e s → Q (.error e) s) : Meets P program Q := by
  intro w holds
  have ended := meets w holds
  cases result : program w with
  | mk value after =>
      rw [result] at ended
      cases value with
      | ok a => exact ok a after.state ended
      | error e => exact error e after.state ended

/-- Tells success from failure. -/
theorem Meets.divide {T : E → S → Prop} {program : Program S O E α} (meets : Meets P program Q)
    (error : ∀ e s, Q (.error e) s → T e s) :
    Meets P program (Split (fun a s => Q (.ok a) s) T) := by
  intro w holds
  have ended := meets w holds
  cases result : program w with
  | mk value after =>
      rw [result] at ended
      cases value with
      | ok a => exact ended
      | error e => exact error e after.state ended

theorem Meets.bind (R : β → S → Prop) {program : Program S O E β} {continue_ : β → Program S O E α}
    (first : Meets P program (Split R fun e s => Q (.error e) s))
    (second : ∀ b, Meets (R b) (continue_ b) Q) : Meets P (program >>= continue_) Q := by
  intro w holds
  have ended := first w holds
  simp only [Bind.bind]
  cases result : program w with
  | mk value after =>
      rw [result] at ended
      cases value with
      | ok b => exact second b after ended
      | error e => exact ended

theorem Meets.recover (R : E → S → Prop) {program : Program S O E α} {handler : E → Program S O E α}
    (first : Meets P program (Split (fun a s => Q (.ok a) s) R))
    (second : ∀ e, Meets (R e) (handler e) Q) : Meets P (recover program handler) Q := by
  intro w holds
  have ended := first w holds
  simp only [Program.recover]
  cases result : program w with
  | mk value after =>
      rw [result] at ended
      cases value with
      | ok a => exact ended
      | error e => exact second e after ended

theorem Meets.ensure (R : Except E α → S → Prop) {program : Program S O E α}
    {cleanup : Option α → Program S O E Unit} (first : Meets P program R)
    (second : ∀ result, Meets (R result) (cleanup result.toOption)
      (Split (fun _ s => Q result s) fun e s => Q (.error e) s)) :
    Meets P (ensure program cleanup) Q := by
  intro w holds
  have between := first w holds
  have ended := second (program w).1 (program w).2 between
  simp only [Program.ensure]
  cases result : cleanup (program w).1.toOption (program w).2 with
  | mk value after =>
      rw [result] at ended
      cases value with
      | ok => exact ended
      | error e => exact ended

/-- What a program returns, in whatever state it starts. -/
def Returns (good : α → Prop) (program : Program S O E α) : Prop :=
  Meets (fun _ => True) program (Split (fun a _ => good a) fun _ _ => True)

section Returns
variable {good : α → Prop}

theorem Returns.pure (holds : good a) : Returns good (Pure.pure a : Program S O E α) :=
  Meets.pure fun _ _ => holds

theorem Returns.raise (e : E) : Returns good (raise e : Program S O E α) :=
  Meets.raise fun _ _ => trivial

theorem Returns.bind {program : Program S O E β} {continue_ : β → Program S O E α}
    (second : ∀ b, Returns good (continue_ b)) : Returns good (program >>= continue_) := by
  refine Meets.bind (fun _ _ => True) (fun w _ => ?_) second
  cases (program w).1 with
  | ok => trivial
  | error => trivial

/-- What the first program returns is known to the second. -/
theorem Returns.chain {between : β → Prop} {program : Program S O E β}
    {continue_ : β → Program S O E α} (first : Returns between program)
    (second : ∀ b, between b → Returns good (continue_ b)) : Returns good (program >>= continue_) :=
  Meets.bind (fun b _ => between b) first fun b w holds => second b holds w trivial

theorem Returns.recover {program : Program S O E α} {handler : E → Program S O E α}
    (first : Returns good program) (second : ∀ e, Returns good (handler e)) :
    Returns good (Program.recover program handler) :=
  Meets.recover (fun _ _ => True) first second

theorem Returns.ok {program : Program S O E α} (returns : Returns good program) {w : World S O}
    (ended : (program w).1 = .ok a) : good a := by
  have meets := returns w trivial
  rw [ended] at meets
  exact meets

end Returns

/-- Whatever the environment does, the states before and after the program are in `r`. -/
def Respects (r : S → S → Prop) (program : Program S O E α) : Prop :=
  ∀ w, r w.state (program w).2.state

/-- A property that `r` keeps is kept by a program that respects `r`. -/
theorem Respects.meets {I : S → Prop} {r : S → S → Prop} {program : Program S O E α}
    (respects : Respects r program) (keeps : ∀ s t, I s → r s t → I t) :
    Meets I program (Split (fun _ => I) fun _ => I) := by
  intro w holds
  have kept := keeps _ _ holds (respects w)
  cases result : (program w).1 with
  | ok a => exact kept
  | error e => exact kept

section Respects
variable {r : S → S → Prop} [Std.Refl r] [IsTrans S r]

omit [IsTrans S r] in
theorem Respects.pure (a : α) : Respects r (Pure.pure a : Program S O E α) :=
  fun w => Std.Refl.refl w.state

omit [IsTrans S r] in
theorem Respects.raise (e : E) : Respects r (Program.raise e : Program S O E α) :=
  fun w => Std.Refl.refl w.state

omit [IsTrans S r] in
theorem Respects.inspect (f : S → α) : Respects r (Program.inspect f : Program S O E α) :=
  fun w => Std.Refl.refl w.state

omit [Std.Refl r] [IsTrans S r] in
theorem Respects.update {f : S → S} (steps : ∀ s, r s (f s)) :
    Respects r (Program.update f : Program S O E Unit) :=
  fun w => steps w.state

omit [Std.Refl r] [IsTrans S r] in
theorem Respects.exchange {f : O → S → Except E α × S} (steps : ∀ outcome s, r s (f outcome s).2) :
    Respects r (Program.exchange f) :=
  fun w => steps (w.outcomes w.next) w.state

omit [Std.Refl r] in
theorem Respects.bind {program : Program S O E β} {continue_ : β → Program S O E α}
    (first : Respects r program) (second : ∀ b, Respects r (continue_ b)) :
    Respects r (program >>= continue_) := by
  intro w
  have before := first w
  simp only [Bind.bind]
  cases result : program w with
  | mk value after =>
      rw [result] at before
      cases value with
      | ok b => exact IsTrans.trans _ _ _ before (second b after)
      | error e => exact before

omit [Std.Refl r] in
theorem Respects.recover {program : Program S O E α} {handler : E → Program S O E α}
    (first : Respects r program) (second : ∀ e, Respects r (handler e)) :
    Respects r (Program.recover program handler) := by
  intro w
  have before := first w
  simp only [Program.recover]
  cases result : program w with
  | mk value after =>
      rw [result] at before
      cases value with
      | ok a => exact before
      | error e => exact IsTrans.trans _ _ _ before (second e after)

omit [Std.Refl r] [IsTrans S r] in
/-- A program on a part of the state touches nothing else. -/
theorem Respects.within {T : Type} {part : S → T} {put : S → T → S} (steps : ∀ s after, r s (put s after))
    (program : Program T O E α) : Respects r (Program.within part put program) :=
  fun w => steps w.state _

omit [Std.Refl r] [IsTrans S r] in
theorem Respects.hearing {O' : Type} {hear : O' → O} {program : Program S O E α}
    (respects : Respects r program) : Respects r (Program.hearing hear program) :=
  fun w => respects ⟨w.state, fun n => hear (w.outcomes n), w.next⟩

end Respects

/-- Where the environment does the same at every exchange, the program ends with `result` in `t`. -/
def Ends (outcome : O) (program : Program S O E α) (s : S) (result : Except E α) (t : S) : Prop :=
  ∀ n, ∃ m, program ⟨s, fun _ => outcome, n⟩ = (result, ⟨t, fun _ => outcome, m⟩)

section Ends
variable {outcome : O} {s t u : S}

theorem Ends.pure (a : α) : Ends outcome (Pure.pure a : Program S O E α) s (.ok a) s :=
  fun n => ⟨n, rfl⟩

theorem Ends.raise (e : E) : Ends outcome (raise e : Program S O E α) s (.error e) s :=
  fun n => ⟨n, rfl⟩

theorem Ends.update (f : S → S) : Ends outcome (update f : Program S O E Unit) s (.ok ()) (f s) :=
  fun n => ⟨n, rfl⟩

theorem Ends.exchange (f : O → S → Except E α × S) {result : Except E α}
    (ends : f outcome s = (result, t)) : Ends outcome (exchange f) s result t := by
  intro n
  refine ⟨n + 1, ?_⟩
  rw [run_exchange, ends]

theorem Ends.bind_ok {program : Program S O E α} {continue_ : α → Program S O E β} {a : α}
    {result : Except E β} (first : Ends outcome program s (.ok a) t)
    (second : Ends outcome (continue_ a) t result u) :
    Ends outcome (program >>= continue_) s result u := by
  intro n
  obtain ⟨m, ran⟩ := first n
  obtain ⟨k, continued⟩ := second m
  exact ⟨k, (run_bind_ok ran).trans continued⟩

theorem Ends.bind_error {program : Program S O E α} {continue_ : α → Program S O E β} {e : E}
    (first : Ends outcome program s (.error e) t) :
    Ends outcome (program >>= continue_) s (.error e) t := by
  intro n
  obtain ⟨m, ran⟩ := first n
  exact ⟨m, run_bind_error ran⟩

theorem Ends.recover_ok {program : Program S O E α} {handler : E → Program S O E α} {a : α}
    (first : Ends outcome program s (.ok a) t) :
    Ends outcome (recover program handler) s (.ok a) t := by
  intro n
  obtain ⟨m, ran⟩ := first n
  exact ⟨m, run_recover_ok ran⟩

theorem Ends.recover_error {program : Program S O E α} {handler : E → Program S O E α} {e : E}
    {result : Except E α} (first : Ends outcome program s (.error e) t)
    (second : Ends outcome (handler e) t result u) :
    Ends outcome (recover program handler) s result u := by
  intro n
  obtain ⟨m, ran⟩ := first n
  obtain ⟨k, handled⟩ := second m
  exact ⟨k, (run_recover_error ran).trans handled⟩

end Ends

end Program

end Meshloom.Exchange
