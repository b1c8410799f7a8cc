import Meshloom.Backup.IdentityRestore
import Meshloom.Warrants

/-! What an identity restore does is warranted by what it read before. A step that is not done
leaves the bound key and the history: the session may only be set up again, and a setup binds a
key only where no key is bound and no gate is open. -/
namespace Meshloom.BackupRestore
open Text Exchange Program
variable {Row : Type} {s t : Run Row}

/-- What may happen without anything being decided: rows arrive, and the radio is read. -/
structure Harmless (s t : Run Row) : Prop where
  bound : t.system.db.boundPublicKey = s.system.db.boundPublicKey
  gate : s.system.db.identityState ≠ none → t.system.db.identityState ≠ none
  history : s.system.db.history <+: t.system.db.history
  step : t.step = s.step
  log : ∃ reads : List (Option Text), t.log = reads.map .read ++ s.log

theorem Harmless.refl (s : Run Row) : Harmless s s :=
  ⟨rfl, fun opened => opened, List.prefix_refl _, rfl, [], rfl⟩

theorem Harmless.trans (first : Harmless s t) (second : Harmless t u) : Harmless s u := by
  obtain ⟨before, firstLog⟩ := first.log
  obtain ⟨after, secondLog⟩ := second.log
  refine ⟨second.bound.trans first.bound, fun opened => second.gate (first.gate opened),
    first.history.trans second.history, second.step.trans first.step, after ++ before, ?_⟩
  rw [secondLog, firstLog, List.map_append, List.append_assoc]

/-- A harmless step that leaves the gate, and the history while ingest is closed. -/
structure Passes (s t : Run Row) : Prop extends Harmless s t where
  sameGate : t.system.db.identityState = s.system.db.identityState
  closed : s.system.ingestAllowed = false →
    t.system.ingestAllowed = false ∧ t.system.db.history = s.system.db.history

instance : Std.Refl (@Passes Row) :=
  ⟨fun s => ⟨.refl s, rfl, fun closed => ⟨closed, rfl⟩⟩⟩

instance : IsTrans (Run Row) Passes where
  trans _ _ _ first second :=
    ⟨first.toHarmless.trans second.toHarmless, second.sameGate.trans first.sameGate,
      fun closed =>
        have between := first.closed closed
        have after := second.closed between.1
        ⟨after.1, after.2.trans between.2⟩⟩

/-- A setup would not bind a key. -/
def Unbindable (run : Run Row) : Prop :=
  run.system.db.identityState ≠ none ∨ run.system.db.boundPublicKey ≠ none

theorem Harmless.unbindable (harmless : Harmless s t) (unbindable : Unbindable s) :
    Unbindable t := by
  obtain opened | bound := unbindable
  · exact .inl (harmless.gate opened)
  · exact .inr (by rw [harmless.bound]; exact bound)

def Tame (s t : Run Row) : Prop := Unbindable s → Harmless s t

instance : Std.Refl (@Tame Row) := ⟨fun s _ => .refl s⟩

instance : IsTrans (Run Row) Tame where
  trans _ _ _ first second unbindable :=
    (first unbindable).trans (second ((first unbindable).unbindable unbindable))

theorem Passes.tame (passes : Passes s t) : Tame s t := fun _ => passes.toHarmless

theorem pass_passes (outcome : Outcome Row) (run : Run Row) : Passes run (run.pass outcome) where
  bound := rfl
  gate opened := opened
  history := by
    simp only [Run.pass, System.pass]
    split
    · exact List.prefix_append _ _
    · exact List.prefix_refl _
  step := rfl
  log := ⟨[], rfl⟩
  sameGate := rfl
  closed closed := ⟨closed, if_neg (by rw [closed]; nofun)⟩

theorem shown_passes (key : Option Text) (run : Run Row) : Passes run (run.shown key) where
  bound := rfl
  gate opened := opened
  history := List.prefix_refl _
  step := rfl
  log := ⟨[key], rfl⟩
  sameGate := rfl
  closed closed := ⟨closed, rfl⟩

theorem readLiveIdentity_passes : Respects Passes (@readLiveIdentity Row) := by
  refine .bind (.inspect _) fun system => ?_
  split
  · exact .pure _
  refine .exchange fun outcome run => ?_
  split
  · exact IsTrans.trans _ _ _ (pass_passes outcome run) (shown_passes _ _)
  · exact IsTrans.trans _ _ _ (pass_passes outcome run) (shown_passes _ _)
  · exact IsTrans.trans _ _ _ (pass_passes outcome run) (shown_passes _ _)
  · exact pass_passes outcome run

theorem attempt_passes : Respects Passes (@attempt Row) := by
  refine .exchange fun outcome run => ?_
  split
  · exact pass_passes outcome run
  · exact pass_passes outcome run

theorem reconnect_passes : Respects Passes (@reconnect Row) := by
  refine .exchange fun outcome run => ?_
  have passed := pass_passes outcome run
  dsimp only
  split
  · exact passed
  split
  · exact passed
  split
  · exact ⟨⟨passed.bound, passed.gate, passed.history, passed.step, passed.log⟩, passed.sameGate,
      passed.closed⟩
  · exact ⟨⟨passed.bound, passed.gate, passed.history, passed.step, passed.log⟩, passed.sameGate,
      passed.closed⟩

/-- The evaluation binds a key only where none is bound and no gate is open. -/
theorem evaluate_tame (outcome : Outcome Row) (run : Run Row) :
    Tame run (evaluateConnectedIdentity outcome run).run := by
  intro unbindable
  have read : Harmless run
      (Run.shown outcome.publicKey
        { run with system := { run.system with ingestAllowed := false } }) :=
    ⟨rfl, fun opened => opened, List.prefix_refl _, rfl, [outcome.publicKey], rfl⟩
  unfold evaluateConnectedIdentity
  dsimp only
  split
  · exact read
  split
  · exact read
  rename_i closed
  split
  · rename_i absent
    exact absurd (unbindable.resolve_left closed) (fun bound => bound absent)
  split
  · exact ⟨read.bound, read.gate, read.history, read.step, read.log⟩
  · exact ⟨read.bound, fun _ => nofun, read.history, read.step, read.log⟩

theorem runPostConnectSetup_tame : Respects Tame (@runPostConnectSetup Row) := by
  refine .bind (.inspect _) fun lost => ?_
  split
  · exact .pure _
  refine .bind (.update fun run _ => ⟨rfl, fun opened => opened, List.prefix_refl _, rfl, [], rfl⟩)
    fun _ => ?_
  refine .bind (fun w => (attempt_passes w).tame) fun _ => .exchange fun outcome run => ?_
  have evaluated : Tame run (evaluateConnectedIdentity outcome (run.pass outcome)).run :=
    IsTrans.trans _ _ _ (pass_passes outcome run).tame (evaluate_tame outcome (run.pass outcome))
  intro unbindable
  have harmless := evaluated unbindable
  revert harmless
  cases evaluateConnectedIdentity outcome (run.pass outcome) with
  | stop run => exact fun kept => ⟨kept.bound, kept.gate, kept.history, kept.step, kept.log⟩
  | proceed run bound =>
      intro kept
      dsimp only
      split
      · exact kept
      split
      · exact kept
      · exact ⟨kept.bound, kept.gate, kept.history, kept.step, kept.log⟩

theorem disconnect_tame : Respects Tame (@disconnect Row) := by
  refine .update fun run _ => ?_
  split
  · exact ⟨rfl, fun opened => opened, List.prefix_refl _, rfl, [], rfl⟩
  · exact .refl run

theorem prepareConnected_tame : Respects Tame (@prepareConnected Row) := by
  refine .bind (.inspect _) fun paused => ?_
  split
  · exact .bind disconnect_tame fun _ => .pure _
  refine .bind ?_ fun outcome => .bind (.inspect _) fun desired => ?_
  · refine .recover runPostConnectSetup_tame fun raised => ?_
    split
    · exact .recover runPostConnectSetup_tame fun raised => .raise _
    · exact .raise _
  split
  · exact .bind disconnect_tame fun _ => .pure _
  · exact .inspect _

theorem sameSession_tame (system : System Row) : Respects Tame (sameSession system) := by
  unfold sameSession
  split
  · exact .bind (fun w => (readLiveIdentity_passes w).tame) fun _ => .pure _
  · exact .pure _

theorem pauseAfterStop_tame : Respects Tame (@pauseAfterStop Row) := by
  refine .update fun run _ => ?_
  split
  · exact ⟨rfl, fun opened => opened, List.prefix_refl _, rfl, [], rfl⟩
  · exact .refl run

theorem hex_solid {c : Char} (hex : (c.isDigit || ('a' ≤ c.toLower && c.toLower ≤ 'f')) = true) :
    isSpace c = false := by
  obtain digit | letter := Bool.or_eq_true_iff.mp hex
  · obtain ⟨low, high⟩ := Char.isDigit_iff_toNat.mp digit
    have low : 48 ≤ c.toNat := low
    have high : c.toNat ≤ 57 := high
    exact isSpace_printable (by omega) (by omega)
  · obtain ⟨low, high⟩ := Bool.and_eq_true_iff.mp letter
    have low : 97 ≤ c.toLower.toNat := of_decide_eq_true low
    have high : c.toLower.toNat ≤ 102 := of_decide_eq_true high
    rw [← isSpace_toLower]
    exact isSpace_printable (by omega) (by omega)

/-- A backup key is a key. -/
theorem backupPublicKey_present {doc : Document} (backup : backupPublicKey doc = some key) :
    norm (some key) = some (normal key) := by
  match doc with
  | .v1 => contradiction
  | .v2 none => contradiction
  | .v2 (some identity) =>
      have stored : identity.publicKey = some key := by
        by_cases absent : identity.privateKey.getD [] = []
        · exact absurd ((if_pos absent).symm.trans backup) nofun
        · exact (if_neg absent).symm.trans backup
      obtain ⟨value, hex, rfl⟩ := identity.publicKeyHex key stored
      have digit : ∃ c ∈ value, isSpace c = false := by
        unfold hex64 at hex
        cases value with
        | nil => contradiction
        | cons c rest =>
            refine ⟨c, List.mem_cons_self, ?_⟩
            obtain plain | newline := Bool.or_eq_true_iff.mp hex
            · have digits := (Bool.and_eq_true_iff.mp plain).2
              exact hex_solid (List.all_eq_true.mp digits c List.mem_cons_self)
            · obtain ⟨sized, digits⟩ := Bool.and_eq_true_iff.mp newline
              have long : (c :: rest).length = 65 :=
                beq_iff_eq.mp (Bool.and_eq_true_iff.mp sized).1
              have more : rest ≠ [] := by rintro rfl; contradiction
              rw [List.dropLast_cons_of_ne_nil more] at digits
              exact hex_solid (List.all_eq_true.mp digits c List.mem_cons_self)
      obtain ⟨c, member, solid⟩ := digit
      refine norm_some (strip_ne_nil (c := c.toLower) (List.mem_map_of_mem member) ?_)
      rw [isSpace_toLower, solid]

/-- What the radio showed last. -/
def lastRead : List (Event Row) → Option Text
  | [] => none
  | .read key :: _ => key
  | _ :: older => lastRead older

/-- What an event needs of those before it. -/
def Warranted (options : RestoreOptions) (backup : Option Text) (initial : System Row)
    (older : List (Event Row)) : Event Row → Prop
  | .read _ => True
  | .imported => options.replaceLiveIdentity = true ∧ ∃ live reads,
      older = .read (some live) :: reads ∧ norm options.expectedLivePublicKey = norm (some live)
  | .wiped => options.wipeHistory = true ∧ ∃ key, backup = some key ∧ lastRead older = some key
  | .bound key => backup = some key ∧ lastRead older = some key
  | .done bound live history => norm bound = norm backup ∧ norm live = norm backup ∧
      (history ≠ [] →
        norm initial.db.boundPublicKey = none ∨ norm initial.db.boundPublicKey = norm backup)

abbrev Justified (options : RestoreOptions) (backup : Option Text) (initial : System Row) :
    List (Event Row) → Prop :=
  Warrants.Warranted (Warranted options backup initial)

theorem Justified.reads {log : List (Event Row)} (justified : Justified options backup initial log)
    (reads : List (Option Text)) : Justified options backup initial (reads.map .read ++ log) := by
  refine Warrants.Warranted.append justified _ fun entry member older => ?_
  obtain ⟨key, _, rfl⟩ := List.mem_map.mp member
  trivial

section Step
variable (options : RestoreOptions) (doc : Document) (initial : System Row)

/-- The step is not done. -/
structure Undone (run : Run Row) : Prop where
  open_ : run.step.status ≠ .done
  bound : run.system.db.boundPublicKey = initial.db.boundPublicKey
  history : initial.db.history <+: run.system.db.history
  justified : Justified options (backupPublicKey doc) initial run.log

/-- The step is done, and nothing of it is taken back. -/
structure Done (run : Run Row) : Prop where
  done : run.step.status = .done
  bound : norm run.system.db.boundPublicKey = norm (backupPublicKey doc)
  present : run.system.db.boundPublicKey ≠ none
  logged : ∃ bound live history, Event.done bound live history ∈ run.log
  justified : Justified options (backupPublicKey doc) initial run.log

def Guarded (run : Run Row) : Prop :=
  Undone options doc initial run ∨ Done options doc initial run

variable {options doc initial}

theorem Undone.harmless (undone : Undone options doc initial s) (harmless : Harmless s t) :
    Undone options doc initial t := by
  obtain ⟨reads, log⟩ := harmless.log
  refine ⟨by rw [harmless.step]; exact undone.open_, harmless.bound.trans undone.bound,
    undone.history.trans harmless.history, ?_⟩
  rw [log]
  exact undone.justified.reads reads

theorem Done.harmless (done : Done options doc initial s) (harmless : Harmless s t) :
    Done options doc initial t := by
  obtain ⟨reads, log⟩ := harmless.log
  obtain ⟨bound, live, history, member⟩ := done.logged
  refine ⟨by rw [harmless.step]; exact done.done, by rw [harmless.bound]; exact done.bound,
    by rw [harmless.bound]; exact done.present, ⟨bound, live, history, ?_⟩, ?_⟩
  · rw [log]
    exact List.mem_append_right _ member
  · rw [log]
    exact done.justified.reads reads

/-- What a setup keeps, of a step that has begun. -/
def Kept (options : RestoreOptions) (doc : Document) (initial : System Row) (run : Run Row) :
    Prop :=
  Guarded options doc initial run ∧ Unbindable run

theorem Kept.tame (kept : Kept options doc initial s) (tame : Tame s t) :
    Kept options doc initial t := by
  have harmless := tame kept.2
  exact ⟨kept.1.imp (·.harmless harmless) (·.harmless harmless), harmless.unbindable kept.2⟩

/-- The inputs are what the database holds and what the radio showed. -/
structure Seen (inputs : IdentityInputs) (run : Run Row) : Prop where
  gate : inputs.gate = run.system.db.identityState
  bound : inputs.bound = norm run.system.db.boundPublicKey
  hasHistory : inputs.hasHistory = !run.system.db.history.isEmpty
  /-- Without a gate the live key is read, from a session that is set up. -/
  shown : inputs.gate = none → ∀ key, inputs.live = some key →
    run.system.live = some key ∧ run.system.db.boundPublicKey ≠ none

theorem readLiveIdentity_meets (s : Run Row) : Meets (· = s) readLiveIdentity
    (Split (fun live t => Passes s t ∧ ∀ key, live = some key →
      t.system.live = some key ∧ t.system.db.boundPublicKey ≠ none) fun _ t => Passes s t) := by
  refine .bind (fun system t => t = s ∧ system = s.system)
    (.inspect fun t same => ⟨same, congrArg Run.system same⟩) fun system => .assume fun same => ?_
  subst same
  split
  · rintro w rfl
    exact ⟨Std.Refl.refl _, nofun⟩
  rename_i ready
  obtain ⟨_, complete⟩ := not_or.mp ready
  have setUp := s.system.setUp (Bool.eq_true_of_not_eq_false complete)
  have shows : ∀ (outcome : Outcome Row) key,
      Passes s ((s.pass outcome).shown key) ∧ ∀ shown, key = some shown →
        ((s.pass outcome).shown key).system.live = some shown ∧
          ((s.pass outcome).shown key).system.db.boundPublicKey ≠ none := by
    refine fun outcome key =>
      ⟨IsTrans.trans _ _ _ (pass_passes outcome s) (shown_passes _ _), ?_⟩
    rintro shown rfl
    exact ⟨rfl, setUp⟩
  refine .exchange fun outcome t same => ?_
  subst same
  split
  · exact shows outcome _
  · exact shows outcome _
  · exact shows outcome _
  · exact pass_passes outcome t

theorem gather_meets (s : Run Row) : Meets (· = s) gatherIdentityInputs
    (Split (fun inputs t => Passes s t ∧ Seen inputs t) fun _ t => Passes s t) := by
  refine .bind (fun snapshot t => t = s ∧ snapshot = s.system.db)
    (.inspect fun t same => ⟨same, congrArg (·.system.db) same⟩)
    fun snapshot => .assume fun same => ?_
  subst same
  refine .bind (fun live t => Passes s t ∧ (s.system.db.identityState = none → ∀ key,
    live = some key → t.system.live = some key ∧ t.system.db.boundPublicKey ≠ none)) ?_ fun live => ?_
  · unfold liveKey
    split
    · rename_i opened
      rintro w rfl
      exact ⟨Std.Refl.refl _, fun closed => absurd closed opened⟩
    · exact (readLiveIdentity_meets s).split (fun _ _ ended => ⟨ended.1, fun _ => ended.2⟩)
        fun _ _ ended => ended
  refine .bind (fun hasHistory t => (Passes s t ∧ (s.system.db.identityState = none → ∀ key,
    live = some key → t.system.live = some key ∧ t.system.db.boundPublicKey ≠ none)) ∧
      hasHistory = !t.system.db.history.isEmpty)
    (.inspect fun t ended => ⟨ended, rfl⟩) fun hasHistory => ?_
  refine .pure fun t ended => ⟨ended.1.1, ?_⟩
  obtain ⟨⟨passes, shown⟩, same⟩ := ended
  exact ⟨passes.sameGate.symm, congrArg norm passes.bound.symm, same, shown⟩

/-- What was decided on these inputs may be carried out. -/
structure Decided (options : RestoreOptions) (doc : Document) (inputs : IdentityInputs)
    (decision : IdentityDecision) : Prop where
  same : decision = decideFor doc inputs
  confirmed : Confirmed decision inputs.live options
  now : decision.deferred = false

variable {inputs : IdentityInputs} {backupKey : Text}

theorem decideFor_sound (doc : Document) (inputs : IdentityInputs)
    (backup : backupPublicKey doc = some backupKey) :
    Sound inputs.gate (norm inputs.bound) (norm inputs.live) (normal backupKey) inputs.hasHistory
      (decideFor doc inputs) :=
  decide_sound _ _ _ _ (by rw [backup]; exact backupPublicKey_present backup)

/-- When a decision goes on, a setup cannot bind a key. -/
theorem Decided.unbindable (backup : backupPublicKey doc = some backupKey)
    (decided : Decided options doc inputs decision) (seen : Seen inputs s) : Unbindable s := by
  have sound := decideFor_sound doc inputs backup
  rw [← decided.same] at sound
  by_cases gate : inputs.gate = none
  · cases live : inputs.live with
    | none =>
        have deferred := sound.seen gate (by rw [live]; rfl) decided.confirmed.accepted
        rw [decided.now] at deferred
        contradiction
    | some key => exact .inr (seen.shown gate key live).2
  · exact .inl (by rw [← seen.gate]; exact gate)

theorem settle_meets (backup : backupPublicKey doc = some backupKey)
    (undone : Undone options doc initial s) (seen : Seen inputs s) :
    Meets (· = s) (settleIdentity doc options inputs)
      (Split (fun decision? t => match decision? with
          | none => t.system = s.system ∧ Guarded options doc initial t
          | some decision => t = s ∧ Decided options doc inputs decision)
        fun _ _ => False) := by
  have sound := decideFor_sound doc inputs backup
  have kept : ∀ (step : Step) stop code, step.status ≠ .done →
      Guarded options doc initial { s with step, stop, radioSkipCode := code } :=
    fun _ _ _ open_ => .inl ⟨open_, undone.bound, undone.history, undone.justified⟩
  unfold settleIdentity
  dsimp only
  split
  · rintro w rfl
    exact ⟨rfl, kept _ _ _ nofun⟩
  rename_i passed
  have confirmed := check_confirmed passed
  split
  · rintro w rfl
    exact ⟨rfl, kept _ _ _ nofun⟩
  rename_i now
  have now := Bool.eq_false_of_not_eq_true now
  split
  · rename_i nothing
    obtain ⟨imports, nothing⟩ := not_or.mp nothing
    obtain ⟨wipes, binds⟩ := not_or.mp nothing
    obtain ⟨gate, bound, live⟩ := sound.settled confirmed.accepted now
      (Bool.eq_false_of_not_eq_true imports) (Bool.eq_false_of_not_eq_true wipes)
      (Bool.eq_false_of_not_eq_true binds)
    rintro w rfl
    obtain ⟨key, shown⟩ : ∃ key, inputs.live = some key := by
      cases found : inputs.live with
      | none =>
          rw [found] at live
          contradiction
      | some key => exact ⟨key, rfl⟩
    have same : norm (backupPublicKey doc) = some (normal backupKey) := by
      rw [backup]
      exact backupPublicKey_present backup
    have boundSame : norm w.state.system.db.boundPublicKey = norm (backupPublicKey doc) := by
      rw [same, ← bound, seen.bound, norm_norm]
    obtain ⟨liveSame, present⟩ := seen.shown gate key shown
    refine ⟨rfl, .inr ⟨rfl, boundSame, present, ⟨_, _, _, List.mem_cons_self⟩, ?_⟩⟩
    refine undone.justified.cons ⟨boundSame, ?_, fun _ => .inr ?_⟩
    · rw [same, liveSame, ← shown, live]
    · rw [← undone.bound, boundSame]
  · rintro w rfl
    exact ⟨rfl, rfl, confirmed, now⟩

/-- While the identity is executed, ingest is closed, and nothing is changed before the wipe. -/
structure Ready (options : RestoreOptions) (doc : Document) (initial : System Row)
    (s t : Run Row) : Prop where
  undone : Undone options doc initial t
  gate : t.system.db.identityState = s.system.db.identityState
  bound : t.system.db.boundPublicKey = s.system.db.boundPublicKey
  closed : t.system.ingestAllowed = false
  history : t.system.db.history = s.system.db.history

theorem Ready.passes (ready : Ready options doc initial s t) (passes : Passes t u) :
    Ready options doc initial s u := by
  obtain ⟨closed, history⟩ := passes.closed ready.closed
  exact ⟨ready.undone.harmless passes.toHarmless, passes.sameGate.trans ready.gate,
    passes.bound.trans ready.bound, closed, history.trans ready.history⟩

theorem Ready.kept (ready : Ready options doc initial s t) (unbindable : Unbindable s) :
    Kept options doc initial t := by
  refine ⟨.inl ready.undone, ?_⟩
  rw [Unbindable, ready.gate, ready.bound]
  exact unbindable

theorem attempt_meets {I : Run Row → Prop} (keeps : ∀ outcome t, I t → I (t.pass outcome)) :
    Meets I attempt (Split (fun _ => I) fun _ => I) := by
  refine .exchange fun outcome t holds => ?_
  split
  · exact keeps outcome t holds
  · exact keeps outcome t holds

/-- The radio was read last, and showed the key. -/
structure ReadLast (live : Option Text) (t : Run Row) : Prop where
  log : ∃ older, t.log = .read live :: older
  live : ∀ key, live = some key → t.system.live = some key

theorem readRadioPublicKey_meets : Meets (Ready options doc initial s) readRadioPublicKey
    (Split (fun live t => Ready options doc initial s t ∧ ReadLast live t)
      fun _ => Ready options doc initial s) := by
  refine .exchange fun outcome t ready => ?_
  have passed := pass_passes outcome t
  split
  · exact ready.passes passed
  · refine ⟨(ready.passes passed).passes (shown_passes _ _), ⟨_, rfl⟩, ?_⟩
    intro key shown
    simp only [Run.shown, shown, Option.some_or]

/-- The import is warranted by the read right before it. -/
theorem importPrivateKeyRaw_meets (confirmed : options.replaceLiveIdentity = true)
    (expected : norm options.expectedLivePublicKey = norm (some key)) :
    Meets (fun t => Ready options doc initial s t ∧ ReadLast (some key) t) importPrivateKeyRaw
      (Split (fun _ => Ready options doc initial s) fun _ => Ready options doc initial s) := by
  refine .exchange fun outcome t holds => ?_
  obtain ⟨ready, last⟩ := holds
  obtain ⟨older, log⟩ := last.log
  have passed := ready.passes (pass_passes outcome t)
  have imported : Ready options doc initial s
      { t.pass outcome with log := .imported :: (t.pass outcome).log } :=
    ⟨⟨passed.undone.open_, passed.undone.bound, passed.undone.history,
      passed.undone.justified.cons ⟨confirmed, key, older, log, expected⟩⟩, passed.gate,
      passed.bound, passed.closed, passed.history⟩
  dsimp only
  split
  · exact imported
  · exact imported

/-- The radio shows the backup key. -/
def Verified (options : RestoreOptions) (doc : Document) (initial : System Row) (s : Run Row)
    (backupKey : Text) (t : Run Row) : Prop :=
  Ready options doc initial s t ∧ t.system.live = some backupKey ∧ lastRead t.log = some backupKey

theorem ReadLast.verified (ready : Ready options doc initial s t)
    (last : ReadLast (some backupKey) t) : Verified options doc initial s backupKey t := by
  obtain ⟨older, log⟩ := last.log
  exact ⟨ready, last.live backupKey rfl, by rw [log]; rfl⟩

theorem verifyIdentity_meets (backup : backupPublicKey doc = some backupKey)
    (decided : Decided options doc inputs decision) :
    Meets (Ready options doc initial s) (verifyIdentity decision backupKey inputs)
      (Split (fun failure t => Ready options doc initial s t ∧
          (failure = none → Verified options doc initial s backupKey t))
        fun _ => Ready options doc initial s) := by
  have sound := decideFor_sound doc inputs backup
  rw [← decided.same] at sound
  refine .bind (fun _ => Ready options doc initial s)
    (attempt_passes.meets fun _ _ => Ready.passes) fun _ => ?_
  refine .bind (fun live t => Ready options doc initial s t ∧ ReadLast live t)
    readRadioPublicKey_meets fun live => ?_
  split
  · exact .pure fun t ended => ⟨ended.1, nofun⟩
  rename_i unchanged
  split
  · rename_i importing
    obtain ⟨imports, different⟩ := importing
    obtain ⟨required, connected⟩ := sound.imports imports
    obtain ⟨replaces, expected⟩ := decided.confirmed.replaces required
    have same : live = inputs.live := by
      by_contra changed
      exact unchanged ⟨different, .inr changed⟩
    obtain ⟨key, shown⟩ : ∃ key, live = some key := by
      cases live with
      | none => exact absurd (by rw [← same]; rfl) connected
      | some key => exact ⟨key, rfl⟩
    rw [← same, shown] at expected
    rw [shown]
    refine .bind (fun _ => Ready options doc initial s)
      (importPrivateKeyRaw_meets replaces expected) fun outcome => ?_
    cases outcome with
    | disabled => exact .pure fun t ready => ⟨ready, nofun⟩
    | rejected => exact .pure fun t ready => ⟨ready, nofun⟩
    | timeout => exact .pure fun t ready => ⟨ready, nofun⟩
    | ok =>
        refine .bind (fun live t => Ready options doc initial s t ∧ ReadLast live t)
          readRadioPublicKey_meets fun live => ?_
        split
        · exact .pure fun t ended => ⟨ended.1, nofun⟩
        rename_i imported
        rw [not_not.mp imported]
        refine .bind (fun _ => Verified options doc initial s backupKey) ?_
          fun _ => .pure fun t verified => ⟨verified.1, fun _ => verified⟩
        refine Meets.of_pre ?_ fun t ended => ReadLast.verified ended.1 ended.2
        refine (attempt_meets fun outcome t verified => ?_).split (fun _ _ ended => ended)
          fun _ _ ended => ended.1
        exact ⟨verified.1.passes (pass_passes outcome t), verified.2⟩
  · rename_i noImport
    have same : live = some backupKey := by
      by_contra different
      obtain imports | imports := Bool.eq_false_or_eq_true decision.importKey
      · exact noImport ⟨imports, different⟩
      · exact unchanged ⟨different, .inl imports⟩
    rw [same]
    exact .pure fun t ended => ⟨ended.1, fun _ => ReadLast.verified ended.1 ended.2⟩

/-- What is known right before the bind. -/
structure Adopting (options : RestoreOptions) (doc : Document) (initial : System Row)
    (backupKey : Text) (t : Run Row) : Prop where
  justified : Justified options (backupPublicKey doc) initial t.log
  live : t.system.live = some backupKey
  last : lastRead t.log = some backupKey
  owner : t.system.db.history ≠ [] → norm initial.db.boundPublicKey = none ∨
    norm initial.db.boundPublicKey = norm (backupPublicKey doc)

theorem wipeIdentity_meets (backup : backupPublicKey doc = some backupKey)
    (decided : Decided options doc inputs decision) (seen : Seen inputs s) :
    Meets (Verified options doc initial s backupKey) (wipeIdentity options decision)
      (Split (fun _ => Adopting options doc initial backupKey) fun _ _ => False) := by
  have sound := decideFor_sound doc inputs backup
  rw [← decided.same] at sound
  have wipesAsked : decision.wipe = true ∨
      (decision.wipeOptional = true ∧ options.wipeHistory = true) → options.wipeHistory = true := by
    rintro (wipes | asked)
    · exact decided.confirmed.wipes (sound.wipes wipes)
    · exact asked.2
  refine .update fun t verified => ?_
  obtain ⟨ready, live, last⟩ := verified
  split
  · rename_i wipes
    have warranted : Warranted options (backupPublicKey doc) initial t.log .wiped :=
      ⟨wipesAsked wipes, backupKey, backup, last⟩
    exact ⟨ready.undone.justified.cons warranted, live, last, fun left => absurd rfl left⟩
  · rename_i keeps
    refine ⟨ready.undone.justified, live, last, fun left => ?_⟩
    have kept := Bool.eq_false_of_not_eq_true (not_or.mp keeps).1
    have held : inputs.hasHistory = true := by
      rw [seen.hasHistory, ← ready.history, Bool.not_eq_true', List.isEmpty_eq_false_iff]
      exact left
    have owner := sound.kept decided.confirmed.accepted decided.now kept held
    have same : norm (backupPublicKey doc) = some (normal backupKey) := by
      rw [backup]
      exact backupPublicKey_present backup
    have bound : norm inputs.bound = norm initial.db.boundPublicKey := by
      rw [seen.bound, norm_norm, ← ready.bound, ready.undone.bound]
    rw [bound, ← same] at owner
    obtain unowned | owned | legacy := owner
    · exact .inl unowned
    · exact .inr owned
    · have unbound := s.system.db.unbound (by rw [← seen.gate]; exact legacy)
      rw [← ready.undone.bound, ready.bound, unbound]
      exact .inl rfl

theorem bindIdentity_meets (backup : backupPublicKey doc = some backupKey) :
    Meets (Adopting options doc initial backupKey) (bindIdentity backupKey)
      (Split (fun _ t => Adopting options doc initial backupKey t ∧
          t.system.db.boundPublicKey = some (normal backupKey)) fun _ _ => False) := by
  refine .update fun t adopting => ⟨⟨?_, adopting.live, adopting.last, adopting.owner⟩, rfl⟩
  have warranted : Warranted options (backupPublicKey doc) initial t.log (.bound backupKey) :=
    ⟨backup, adopting.last⟩
  exact adopting.justified.cons warranted

theorem setDone_meets (backup : backupPublicKey doc = some backupKey) (code : Code) :
    Meets (fun t => Adopting options doc initial backupKey t ∧
        t.system.db.boundPublicKey = some (normal backupKey)) (setDone code)
      (Split (fun _ => Kept options doc initial) fun _ _ => False) := by
  have present := backupPublicKey_present backup
  have idem : norm (some (normal backupKey)) = some (normal backupKey) := by
    rw [← present, norm_norm]
  refine .update fun t ended => ?_
  obtain ⟨adopting, bound⟩ := ended
  have boundSame : norm t.system.db.boundPublicKey = norm (backupPublicKey doc) := by
    rw [bound, idem, backup, present]
  have isBound : t.system.db.boundPublicKey ≠ none := by rw [bound]; nofun
  have warranted : Warranted options (backupPublicKey doc) initial t.log
      (.done t.system.db.boundPublicKey t.system.live t.system.db.history) :=
    ⟨boundSame, by rw [adopting.live, backup], adopting.owner⟩
  exact ⟨.inr ⟨rfl, boundSame, isBound, ⟨_, _, _, List.mem_cons_self⟩,
    adopting.justified.cons warranted⟩, .inr isBound⟩

theorem setupAfterBind_meets : Meets (Kept options doc initial) setupAfterBind
    (Split (fun _ => Kept options doc initial)
      fun e t => e = .cancelled ∧ Kept options doc initial t) := by
  refine .bind (fun _ => Kept options doc initial) ?_ fun connected => ?_
  · refine .recover (fun _ => Kept options doc initial)
      (prepareConnected_tame.meets fun _ _ => Kept.tame) fun raised => ?_
    split
    · rename_i stopped
      exact .raise fun t kept => ⟨stopped, kept⟩
    · exact .pure fun t kept => kept
  refine .bind (fun _ => Kept options doc initial) (.update fun t kept => ?_)
    fun _ => .pure fun t kept => kept
  split
  · exact kept
  · refine ⟨kept.1.imp (fun undone => ?_) fun done => ?_, kept.2⟩
    · exact ⟨undone.open_, undone.bound, undone.history, undone.justified⟩
    · exact ⟨done.done, done.bound, done.present, done.logged, done.justified⟩

theorem adoptIdentity_meets (backup : backupPublicKey doc = some backupKey)
    (decided : Decided options doc inputs decision) (seen : Seen inputs s) :
    Meets (Verified options doc initial s backupKey) (adoptIdentity options decision backupKey)
      (Split (fun _ => Kept options doc initial)
        fun e t => e = .cancelled ∧ Kept options doc initial t) := by
  refine .bind (fun _ => Verified options doc initial s backupKey) (.update fun t verified => ?_)
    fun _ => ?_
  · obtain ⟨⟨undone, gate, bound, closed, history⟩, live, last⟩ := verified
    exact ⟨⟨⟨undone.open_, undone.bound, undone.history, undone.justified⟩, gate, bound, closed,
      history⟩, live, last⟩
  refine .bind (fun _ => Adopting options doc initial backupKey)
    ((wipeIdentity_meets backup decided seen).split (fun _ _ ended => ended) fun _ _ => False.elim)
    fun _ => ?_
  refine .bind (fun _ t => Adopting options doc initial backupKey t ∧
      t.system.db.boundPublicKey = some (normal backupKey))
    ((bindIdentity_meets backup).split (fun _ _ ended => ended) fun _ _ => False.elim) fun _ => ?_
  exact .bind (fun _ => Kept options doc initial)
    ((setDone_meets backup _).split (fun _ _ ended => ended) fun _ _ => False.elim)
    fun _ => setupAfterBind_meets

/-- An exception leaves a step that is not done, unless the task is cancelled. -/
def Excepted (options : RestoreOptions) (doc : Document) (initial : System Row) (raised : Raised)
    (t : Run Row) : Prop :=
  (raised = .cancelled ∨ Undone options doc initial t) ∧ Kept options doc initial t

theorem Excepted.tame (excepted : Excepted options doc initial raised s) (tame : Tame s t) :
    Excepted options doc initial raised t :=
  ⟨excepted.1.imp_right (·.harmless (tame excepted.2.2)), excepted.2.tame tame⟩

theorem Ready.excepted (ready : Ready options doc initial s t) (unbindable : Unbindable s)
    (raised : Raised) : Excepted options doc initial raised t :=
  ⟨.inr ready.undone, ready.kept unbindable⟩

theorem fail_meets (unbindable : Unbindable s) (code : Code) :
    Meets (Ready options doc initial s) (fail code)
      (Split (fun _ => Kept options doc initial) fun e => Excepted options doc initial e) := by
  intro w ready
  obtain ⟨guarded, kept⟩ := ready.kept unbindable
  exact ⟨.inl ⟨nofun, ready.undone.bound, ready.undone.history, ready.undone.justified⟩, kept⟩

theorem executeIdentity_meets (backup : backupPublicKey doc = some backupKey)
    (decided : Decided options doc inputs decision) (seen : Seen inputs s)
    (unbindable : Unbindable s) :
    Meets (Ready options doc initial s) (executeIdentity options decision backupKey inputs)
      (Split (fun _ => Kept options doc initial) fun e => Excepted options doc initial e) := by
  refine .bind (fun _ => Ready options doc initial s) (.update fun t ready => ?_) fun _ => ?_
  · obtain ⟨undone, gate, bound, closed, history⟩ := ready
    exact ⟨⟨undone.open_, undone.bound, undone.history, undone.justified⟩, gate, bound, closed,
      history⟩
  refine .bind (fun _ => Ready options doc initial s)
    ((reconnect_passes.meets fun _ _ => Ready.passes).split (fun _ _ ready => ready)
      fun e _ ready => ready.excepted unbindable e) fun connected => ?_
  split
  · refine .bind (fun failure t => Ready options doc initial s t ∧
        (failure = none → Verified options doc initial s backupKey t)) ?_ fun failure => ?_
    · refine .recover (fun _ => Ready options doc initial s)
        ((verifyIdentity_meets backup decided).split (fun _ _ ended => ended)
          fun _ _ ready => ready) fun raised => ?_
      split
      · exact .pure fun t ready => ⟨ready, nofun⟩
      · exact .raise fun t ready => ready.excepted unbindable raised
    cases failure with
    | some code => exact (fail_meets unbindable code).of_pre fun t ended => ended.1
    | none =>
        refine ((adoptIdentity_meets backup decided seen).of_pre fun t ended => ended.2 rfl).split
          (fun _ _ kept => kept) fun e t ended => ⟨.inl ended.1, ended.2⟩
  · exact fail_meets unbindable _

theorem decideAgain_meets (backup : backupPublicKey doc = some backupKey)
    (undone : Undone options doc initial s) (unbindable : Unbindable s)
    (closed : s.system.ingestAllowed = false) :
    Meets (· = s) (decideAgain doc options backupKey)
      (Split (fun _ => Kept options doc initial) fun e => Excepted options doc initial e) := by
  have start : Ready options doc initial s s := ⟨undone, rfl, rfl, closed, rfl⟩
  refine .bind (fun inputs t => Ready options doc initial s t ∧ Seen inputs t)
    ((gather_meets s).split (fun _ _ ended => ⟨start.passes ended.1, ended.2⟩)
      fun e _ ended => (start.passes ended).excepted unbindable e) fun inputs => ?_
  refine .bind (fun _ t => Ready options doc initial s t ∧ Seen inputs t)
    (.update fun t ended => ?_) fun _ => .of_each fun u ended => ?_
  · obtain ⟨⟨undone, gate, bound, closed, history⟩, seen⟩ := ended
    exact ⟨⟨⟨undone.open_, undone.bound, undone.history, undone.justified⟩, gate, bound, closed,
      history⟩, seen.gate, seen.bound, seen.hasHistory, seen.shown⟩
  obtain ⟨ready, seen⟩ := ended
  obtain ⟨guarded, unbindable⟩ := ready.kept unbindable
  have again : Ready options doc initial u u := ⟨ready.undone, rfl, rfl, ready.closed, rfl⟩
  refine .bind _ ((settle_meets backup ready.undone seen).split (fun _ _ ended => ended)
    fun _ _ => False.elim) fun decision? => ?_
  cases decision? with
  | none =>
      refine .pure fun t ended => ⟨ended.2, ?_⟩
      rw [Unbindable, ended.1]
      exact unbindable
  | some decision =>
      intro w ended
      obtain ⟨same, decided⟩ := ended
      exact executeIdentity_meets backup decided seen unbindable w (by rw [same]; exact again)

theorem restoreSession_meets {I : Run Row → Prop} (keeps : ∀ s t, I s → Tame s t → I t) :
    Meets I restoreSession (Split (fun _ => I) fun e t => e = .cancelled ∧ I t) := by
  refine .bind (fun _ => I) (.inspect fun t holds => holds) fun system => ?_
  split
  · exact .pure fun t holds => holds
  refine .recover (fun _ => I) ?_ fun raised => ?_
  · refine .bind (fun _ => I) ((sameSession_tame system).meets keeps) fun same => ?_
    split
    · exact .update fun t holds => keeps _ _ holds
        fun _ => ⟨rfl, fun opened => opened, List.prefix_refl _, rfl, [], rfl⟩
    · exact .bind (fun _ => I) (prepareConnected_tame.meets keeps)
        fun _ => .pure fun t holds => holds
  · split
    · rename_i stopped
      exact .raise fun t holds => ⟨stopped, holds⟩
    · exact .pure fun t holds => holds

theorem afterTransition_meets {I : Run Row → Prop} (keeps : ∀ s t, I s → Tame s t → I t)
    (setupRan : Option Bool) : Meets I (afterTransition setupRan)
      (Split (fun _ => I) fun e t => e = .cancelled ∧ I t) := by
  refine .bind (fun _ => I) (.inspect fun t holds => holds) fun gateWasOpen => ?_
  split
  · exact .pure fun t holds => holds
  · exact restoreSession_meets keeps

theorem transition_meets (backup : backupPublicKey doc = some backupKey)
    (undone : Undone options doc initial s) (unbindable : Unbindable s) :
    Meets (· = s) (transition doc options backupKey)
      (Split (fun _ => Kept options doc initial) fun e => Excepted options doc initial e) := by
  refine .bind (fun _ t => (Undone options doc initial t ∧ Unbindable t) ∧
    t.system.ingestAllowed = false) ?_ fun _ => ?_
  · refine .bind (fun _ t => Undone options doc initial t ∧ Unbindable t) ?_
      fun _ => .update fun t ended => ⟨⟨⟨ended.1.open_, ended.1.bound, ended.1.history,
        ended.1.justified⟩, ended.2⟩, rfl⟩
    have keeps : ∀ t u, Undone options doc initial t ∧ Unbindable t → Passes t u →
        Undone options doc initial u ∧ Unbindable u := fun t u holds passes =>
      ⟨holds.1.harmless passes.toHarmless, passes.unbindable holds.2⟩
    refine ((attempt_passes.meets keeps).of_pre fun t same => ?_).split (fun _ _ ended => ended)
      fun e t ended => ⟨.inr ended.1, .inl ended.1, ended.2⟩
    rw [same]
    exact ⟨undone, unbindable⟩
  refine .of_each fun t ended => ?_
  obtain ⟨⟨undone, unbindable⟩, closed⟩ := ended
  refine .ensure (Split (fun _ => Kept options doc initial)
    fun e => Excepted options doc initial e) (decideAgain_meets backup undone unbindable closed) ?_
  rintro (raised | setupRan)
  · exact (afterTransition_meets (fun _ _ => Excepted.tame) none).split (fun _ _ ended => ended)
      fun e t ended => ⟨.inl ended.1, ended.2.2⟩
  · exact (afterTransition_meets (fun _ _ => Kept.tame) (some setupRan)).split
      (fun _ _ ended => ended) fun e t ended => ⟨.inl ended.1, ended.2⟩

theorem skipIdentity_meets (undone : Undone options doc initial s) (code : Code) :
    Meets (· = s) (skipIdentity code) fun _ => Guarded options doc initial := by
  rintro w rfl
  simp only [skipIdentity, set, update, Bind.bind]
  refine .inl ?_
  split
  · exact ⟨nofun, undone.bound, undone.history, undone.justified⟩
  · exact ⟨nofun, undone.bound, undone.history, undone.justified⟩

theorem identityStep_meets (undone : Undone options doc initial s) :
    Meets (· = s) (identityStep doc options) fun _ => Guarded options doc initial := by
  unfold identityStep
  cases doc with
  | v1 =>
      rintro w rfl
      exact .inl ⟨nofun, undone.bound, undone.history, undone.justified⟩
  | v2 identity =>
      dsimp only
      split
      · exact skipIdentity_meets undone _
      rename_i backupKey backup
      split
      · exact skipIdentity_meets undone _
      refine .bind (fun _ => Undone options (.v2 identity) initial) (.update fun t same => ?_)
        fun _ => .of_each fun t undone => ?_
      · rw [same]
        exact ⟨nofun, undone.bound, undone.history, undone.justified⟩
      refine .bind (fun inputs u => Undone options (.v2 identity) initial u ∧ Seen inputs u)
        ((gather_meets t).split
          (fun _ _ ended => ⟨undone.harmless ended.1.toHarmless, ended.2⟩)
          fun _ _ ended => .inl (undone.harmless ended.toHarmless))
        fun inputs => .of_each fun u ended => ?_
      obtain ⟨undone, seen⟩ := ended
      refine .bind _ ((settle_meets backup undone seen).split (fun _ _ ended => ended)
        fun _ _ => False.elim) fun decision? => ?_
      cases decision? with
      | none => exact .pure fun v ended => ended.2
      | some decision =>
          refine .of_each fun v ended => ?_
          obtain ⟨rfl, decided⟩ := ended
          have unbindable := decided.unbindable backup seen
          refine .ensure (fun _ => Kept options (.v2 identity) initial) ?_ fun _ => ?_
          · refine .recover (fun e => Excepted options (.v2 identity) initial e) ?_ fun raised => ?_
            · exact .bind (fun _ => Kept options (.v2 identity) initial)
                (transition_meets backup undone unbindable) fun _ => .pure fun w kept => kept
            split
            · rename_i busy
              rintro w ⟨stopped | undone, kept⟩
              · rw [busy] at stopped
                contradiction
              · exact ⟨.inl ⟨nofun, undone.bound, undone.history, undone.justified⟩, kept.2⟩
            · exact .raise fun w excepted => excepted.2
          · exact (pauseAfterStop_tame.meets fun _ _ => Kept.tame).split (fun _ _ kept => kept.1)
              fun _ _ kept => kept.1

theorem restoreIdentity_guarded (doc : Document) (options : RestoreOptions) (system : System Row)
    (outcomes : Nat → Outcome Row) :
    Guarded options doc system (restoreIdentity doc options system outcomes).2 :=
  identityStep_meets (s := begin system) ⟨nofun, rfl, List.prefix_refl _, .nil⟩ _ rfl

end Step

/-- Every import, wipe and bind of an identity restore is warranted by a confirmation and by the
read before it. A step that is not done leaves the bound key and the history; one that is done
ends with the backup key everywhere, and with no history of another bound key. -/
theorem identity_restore_guarded (doc : Document) (options : RestoreOptions) (system : System Row)
    (outcomes : Nat → Outcome Row) :
    let after := (restoreIdentity doc options system outcomes).2
    (∀ older, .imported :: older <:+ after.log → options.replaceLiveIdentity = true ∧
        ∃ live reads, older = .read (some live) :: reads ∧
          norm options.expectedLivePublicKey = norm (some live)) ∧
      (∀ older, .wiped :: older <:+ after.log → options.wipeHistory = true ∧
        ∃ key, backupPublicKey doc = some key ∧ lastRead older = some key) ∧
      (∀ key older, .bound key :: older <:+ after.log →
        backupPublicKey doc = some key ∧ lastRead older = some key) ∧
      (after.step.status ≠ .done →
        after.system.db.boundPublicKey = system.db.boundPublicKey ∧
          system.db.history <+: after.system.db.history) ∧
      (after.step.status = .done →
        norm after.system.db.boundPublicKey = norm (backupPublicKey doc) ∧
          ∃ bound live history, .done bound live history ∈ after.log ∧
            norm bound = norm (backupPublicKey doc) ∧ norm live = norm (backupPublicKey doc) ∧
            (history ≠ [] → norm system.db.boundPublicKey = none ∨
              norm system.db.boundPublicKey = norm (backupPublicKey doc))) := by
  intro after
  have guarded : Guarded options doc system after :=
    restoreIdentity_guarded doc options system outcomes
  have justified : Justified options (backupPublicKey doc) system after.log :=
    guarded.elim Undone.justified Done.justified
  refine ⟨fun older => justified _ older, fun older => justified _ older,
    fun key older => justified _ older, fun unfinished => ?_, fun finished => ?_⟩
  · obtain undone | done := guarded
    · exact ⟨undone.bound, undone.history⟩
    · exact absurd done.done unfinished
  · obtain undone | done := guarded
    · exact absurd finished undone.open_
    · obtain ⟨bound, live, history, member⟩ := done.logged
      obtain ⟨newer, older, split⟩ := List.append_of_mem member
      have warranted := justified _ older ⟨newer, split.symm⟩
      exact ⟨done.bound, bound, live, history, member, warranted⟩

end Meshloom.BackupRestore
