import Meshloom.Backup.IdentityRestore
import Meshloom.Transition

/-! The ingest gate (`app/services/radio_ingest_gate.py`) and the identity evaluations that open it
(`evaluate_connected_identity`), with what closes it. An evaluation awaits the radio and the
database several times; the transport may drop and come back, to another radio too, and another
evaluation may run. What else a closer does is left out. -/
namespace Meshloom.IngestGate
open BackupRestore Transition

/-- The row of `radio_transport` as far as an evaluation reads it. -/
structure Transport where
  boundPublicKey : Option BackupRestore.Text
  identityState : Option Gate
  deriving DecidableEq

/-- A key that was read, and the transport session in which it was. -/
structure Read where
  key : BackupRestore.Text
  session : Nat
  normalized : normal key = key
  deriving DecidableEq

/-- What an evaluation awaits, or has awaited and not gone on from. -/
inductive Phase where
  /-- `send_appstart` -/
  | reading
  /-- `get_transport` -/
  | loading (read : Read)
  | loaded (read : Read) (snapshot : Transport)
  /-- `database_has_mesh_history` -/
  | counting (read : Read)
  /-- `set_identity_gate` -/
  | gating (state : Gate)
  /-- `bind_public_key` -/
  | binding (read : Read)
  | bound (read : Read)

structure Evaluation where
  session : Nat
  /-- How often ingest was denied before the evaluation began. -/
  denied : Nat
  phase : Phase

/-- The evaluation that has opened ingest. -/
structure Opening where
  read : Read
  denied : Nat

structure State where
  allowed : Bool
  generation : Nat
  row : Transport
  /-- The cached `self_info` of the radio. -/
  selfInfo : Option BackupRestore.Text
  evaluations : List Evaluation
  /-- The transport session, the count of denials and the last opening are ghosts. -/
  transport : Nat
  denials : Nat
  opening : Option Opening

/-- What calls `deny_ingest`. -/
inductive Closer where
  | transportLost
  | libraryDisconnected
  | disconnect
  | lifecycleTransition
  | expectedReboot
  | identityWipe
  deriving DecidableEq

inductive Event where
  | deny (closer : Closer)
  /-- A transport session begins, maybe to another radio. -/
  | connected
  | selfInfo (key : Option BackupRestore.Text)
  /-- The post-connect setup begins an evaluation. -/
  | setup
  /-- `on_library_connected` of a reconnect -/
  | libraryConnected
  /-- The reply to `send_appstart`, none when it fails. -/
  | answered (i : Nat) (key : Option BackupRestore.Text)
  /-- The next step of an evaluation. -/
  | proceed (i : Nat)
  | counted (i : Nat) (history : Bool)
  /-- An evaluation that is cancelled or raises. -/
  | abandon (i : Nat)

theorem normal_of_normalizeKey (found : normalizeKey value = some key) : normal key = key := by
  obtain ⟨found, _⟩ := Option.filter_eq_some_iff.mp found
  obtain ⟨given, _, kept⟩ := Option.bind_eq_some_iff.mp found
  split at kept
  · contradiction
  · cases kept
    exact normal_normal given

/-- `read_radio_public_key` -/
def readRadioPublicKey (session : Nat) (answer selfInfo : Option BackupRestore.Text) :
    Option Read :=
  match live : normalizeKey answer, cached : normalizeKey selfInfo with
  | some key, _ => some ⟨key, session, normal_of_normalizeKey live⟩
  | none, some key => some ⟨key, session, normal_of_normalizeKey cached⟩
  | none, none => none

def denyIngest (s : State) : State := { s with allowed := false, denials := s.denials + 1 }

/-- An evaluation begins with `begin_connection_session`. -/
def begin (s : State) : State :=
  { s with
    allowed := false
    generation := s.generation + 1
    evaluations := s.evaluations ++ [⟨s.generation + 1, s.denials, .reading⟩] }

def allowIngest (s : State) (evaluation : Evaluation) (read : Read) : State :=
  if evaluation.session = s.generation then
    { s with allowed := true, opening := some ⟨read, evaluation.denied⟩ }
  else s

/-- The evaluation ends. -/
def finish (s : State) (i : Nat) : State := { s with evaluations := s.evaluations.eraseIdx i }

def goOn (s : State) (i : Nat) (evaluation : Evaluation) (phase : Phase) : State :=
  { s with evaluations := s.evaluations.set i { evaluation with phase } }

/-- The key is the bound one, however that is written. -/
def Transport.binds (row : Transport) (read : Read) : Bool :=
  decide (row.boundPublicKey.map (List.map Char.toLower) = some read.key)

/-- An evaluation goes on with the snapshot that it has loaded. -/
def judge (s : State) (i : Nat) (evaluation : Evaluation) (read : Read) (snapshot : Transport) :
    State :=
  if snapshot.identityState ≠ none then finish s i
  else if snapshot.boundPublicKey = none then goOn s i evaluation (.counting read)
  else if snapshot.binds read then finish (allowIngest s evaluation read) i
  else goOn s i evaluation (.gating .identityMismatch)

def proceed (s : State) (i : Nat) : Option State :=
  match s.evaluations[i]? with
  | none => none
  | some evaluation =>
      match evaluation.phase with
      | .loading read => some (goOn s i evaluation (.loaded read s.row))
      | .loaded read snapshot => some (judge s i evaluation read snapshot)
      | .gating state => some (finish { s with row := { s.row with identityState := some state } } i)
      | .binding read =>
          some (goOn { s with row := ⟨some (normal read.key), none⟩ } i evaluation (.bound read))
      | .bound read => some (finish (allowIngest s evaluation read) i)
      | .reading | .counting _ => none

def step (s : State) : Event → Option State
  | .deny .transportLost => some { denyIngest s with transport := s.transport + 1 }
  | .deny _ => some (denyIngest s)
  | .connected => some { s with transport := s.transport + 1 }
  | .selfInfo key => some { s with selfInfo := key }
  | .setup => some (begin s)
  | .libraryConnected => some (begin (denyIngest s))
  | .answered i answer =>
      match s.evaluations[i]? with
      | some ⟨session, denied, .reading⟩ =>
          match readRadioPublicKey s.transport answer s.selfInfo with
          | some read => some (goOn s i ⟨session, denied, .reading⟩ (.loading read))
          | none => some (finish s i)
      | _ => none
  | .proceed i => proceed s i
  | .counted i history =>
      match s.evaluations[i]? with
      | some ⟨session, denied, .counting read⟩ =>
          some (goOn s i ⟨session, denied, .counting read⟩
            (if history then .gating .identityUnboundLegacy else .binding read))
      | _ => none
  | .abandon i => if i < s.evaluations.length then some (finish s i) else none

def start (row : Transport) : State where
  allowed := false
  generation := 0
  row
  selfInfo := none
  evaluations := []
  transport := 0
  denials := 0
  opening := none

/-- Ingest is open only for the bound radio: the evaluation that opened it read the bound key in
this transport session, no identity gate is set, and nothing denied ingest since it began. -/
def Guarded (s : State) : Prop :=
  s.allowed = true → ∃ opening, s.opening = some opening ∧
    opening.read.session = s.transport ∧ s.row.binds opening.read = true ∧
    s.row.identityState = none ∧ opening.denied = s.denials

/-- No denial since the evaluation began, no transport session since it read the key, and no
change of the row since it had it so. -/
def Unmoved (s : State) (evaluation : Evaluation) (read : Read) (row : Transport) : Prop :=
  evaluation.denied = s.denials ∧ read.session = s.transport ∧ row = s.row

instance (s : State) (evaluation : Evaluation) (read : Read) (row : Transport) :
    Decidable (Unmoved s evaluation read row) :=
  inferInstanceAs (Decidable (_ ∧ _ ∧ _))

/-- Where an evaluation opens ingest nothing has moved in the gaps it leaves; while ingest is open
no transport session begins, no other evaluation sets a gate and none binds another key. -/
def Undisturbed (s : State) : Event → Prop
  | .connected => s.allowed = false
  | .proceed i =>
      match s.evaluations[i]? with
      | none => True
      | some evaluation =>
          match evaluation.phase with
          | .loaded read snapshot =>
              evaluation.session = s.generation → snapshot.identityState = none →
                snapshot.binds read = true → Unmoved s evaluation read snapshot
          | .bound read =>
              evaluation.session = s.generation →
                Unmoved s evaluation read ⟨some (normal read.key), none⟩
          | .gating _ => s.allowed = false
          | .binding read => s.allowed = true → s.row.binds read = true
          | .reading | .loading _ | .counting _ => True
  | _ => True

instance (s : State) (e : Event) : Decidable (Undisturbed s e) := by
  unfold Undisturbed
  split
  · infer_instance
  · split
    · infer_instance
    · split <;> infer_instance
  · infer_instance

end Meshloom.IngestGate

/-! An evaluation opens ingest on what it has read and checked, which still holds as long as nothing
has moved in the gaps it leaves. -/
namespace Meshloom.IngestGate
open BackupRestore Transition
variable {s t : State}

theorem guarded_closed (closed : s.allowed = false) : Guarded s := by
  intro opened
  rw [closed] at opened
  contradiction

/-- What an opening rests on stays as it is. -/
theorem Guarded.frame (guarded : Guarded s) (allowed : t.allowed = s.allowed)
    (opening : t.opening = s.opening) (transport : t.transport = s.transport)
    (row : t.row = s.row) (denials : t.denials = s.denials) : Guarded t := by
  unfold Guarded
  rw [allowed, opening, transport, row, denials]
  exact guarded

theorem Guarded.finish (guarded : Guarded s) (i : Nat) : Guarded (finish s i) :=
  guarded.frame rfl rfl rfl rfl rfl

theorem Guarded.goOn (guarded : Guarded s) : Guarded (goOn s i evaluation phase) :=
  guarded.frame rfl rfl rfl rfl rfl

/-- Ingest opens on a read that the row binds, when nothing has moved since. -/
theorem Guarded.allowIngest {evaluation : Evaluation} {read : Read} {row : Transport}
    (guarded : Guarded s) (binds : row.binds read = true) (open_ : row.identityState = none)
    (unmoved : evaluation.session = s.generation → Unmoved s evaluation read row) :
    Guarded (allowIngest s evaluation read) := by
  unfold IngestGate.allowIngest
  split
  · rename_i current
    obtain ⟨undenied, sameSession, rfl⟩ := unmoved current
    exact fun _ => ⟨_, rfl, sameSession, binds, open_, undenied⟩
  · exact guarded

theorem binds_normal (read : Read) : (Transport.mk (some (normal read.key)) none).binds read := by
  have lowered : (normal read.key).map Char.toLower = normal read.key := by
    simp [normal, Function.comp_def]
  rw [read.normalized] at lowered
  simp [Transport.binds, lowered, read.normalized]

theorem judge_guarded {evaluation : Evaluation} {read : Read} {snapshot : Transport}
    (guarded : Guarded s)
    (unmoved : evaluation.session = s.generation → snapshot.identityState = none →
      snapshot.binds read = true → Unmoved s evaluation read snapshot) :
    Guarded (judge s i evaluation read snapshot) := by
  unfold judge
  split
  · exact guarded.finish i
  · rename_i ungated
    have ungated := not_not.mp ungated
    split
    · exact guarded.goOn
    · split
      · rename_i binds
        have opened := guarded.allowIngest binds ungated fun current => unmoved current ungated binds
        exact opened.finish i
      · exact guarded.goOn

/-- A row that is bound to a key it binds already stays bound to the key ingest is open for. -/
theorem Guarded.bind {read : Read} (guarded : Guarded s)
    (same : s.allowed = true → s.row.binds read = true) :
    Guarded { s with row := ⟨some (normal read.key), none⟩ } := by
  intro opened
  obtain ⟨opening, last, session, binds, _, undenied⟩ := guarded opened
  refine ⟨opening, last, session, ?_, rfl, undenied⟩
  have bound := of_decide_eq_true (same opened)
  have key : read.key = opening.read.key :=
    Option.some.inj (bound.symm.trans (of_decide_eq_true binds))
  have bindsRead := of_decide_eq_true (binds_normal read)
  exact decide_eq_true (bindsRead.trans (congrArg some key))

theorem proceed_guarded (guarded : Guarded s) (undisturbed : Undisturbed s (.proceed i))
    (stepped : proceed s i = some t) : Guarded t := by
  simp only [proceed] at stepped
  simp only [Undisturbed] at undisturbed
  split at stepped
  · contradiction
  · rename_i evaluation found
    rw [found] at undisturbed
    split at stepped
    · cases stepped
      exact guarded.goOn
    · rename_i read snapshot at_
      simp only [at_] at undisturbed
      cases stepped
      exact judge_guarded guarded undisturbed
    · rename_i state at_
      simp only [at_] at undisturbed
      cases stepped
      exact guarded_closed undisturbed
    · rename_i read at_
      simp only [at_] at undisturbed
      cases stepped
      exact (guarded.bind undisturbed).goOn
    · rename_i read at_
      simp only [at_] at undisturbed
      cases stepped
      exact (guarded.allowIngest (binds_normal read) rfl undisturbed).finish i
    all_goals contradiction

theorem step_guarded (guarded : Guarded s) (undisturbed : Undisturbed s e)
    (stepped : step s e = some t) : Guarded t := by
  cases e with
  | deny closer =>
      cases closer <;>
      · cases stepped
        exact guarded_closed rfl
  | connected =>
      cases stepped
      exact guarded_closed undisturbed
  | selfInfo key =>
      cases stepped
      exact guarded.frame rfl rfl rfl rfl rfl
  | setup =>
      cases stepped
      exact guarded_closed rfl
  | libraryConnected =>
      cases stepped
      exact guarded_closed rfl
  | answered i answer =>
      simp only [step] at stepped
      split at stepped
      · split at stepped
        · cases stepped
          exact guarded.goOn
        · cases stepped
          exact guarded.finish i
      · contradiction
  | proceed i => exact proceed_guarded guarded undisturbed stepped
  | counted i history =>
      simp only [step] at stepped
      split at stepped
      · cases stepped
        exact guarded.goOn
      · contradiction
  | abandon i =>
      obtain ⟨_, stepped⟩ := Option.ite_none_right_eq_some.mp stepped
      cases stepped
      exact guarded.finish i

/-- Evaluations that nothing disturbs open ingest for the bound radio only. -/
theorem ingest_guarded {row : Transport} (run : Reaches step Undisturbed (start row) s) :
    Guarded s :=
  run.invariant step_guarded (guarded_closed rfl)

def radioKey : BackupRestore.Text := "AB12".toList

/-- The first radio of an empty database is bound, and ingest opens for it. -/
theorem firstRadio_guarded : ∃ s : State, s.allowed = true ∧
    s.row.boundPublicKey = some "ab12".toList ∧ Guarded s := by
  have ran : (executeWhere step Undisturbed (start ⟨none, none⟩)
      [.connected, .setup, .answered 0 (some radioKey), .proceed 0, .proceed 0, .counted 0 false,
        .proceed 0, .proceed 0]).any
      (fun s => decide (s.allowed = true ∧ s.row.boundPublicKey = some "ab12".toList)) = true := by
    decide +kernel
  obtain ⟨s, executed, holds⟩ := (Option.any_eq_true _ _).mp ran
  obtain ⟨opened, bound⟩ := of_decide_eq_true holds
  exact ⟨s, opened, bound, ingest_guarded (executeWhere_reaches executed)⟩

/-- The transport drops while an evaluation awaits its snapshot, and then it opens ingest. -/
theorem dropped_opens : ∃ s : State,
    Reaches step Any (start ⟨some "ab12".toList, none⟩) s ∧ ¬ Guarded s := by
  have ran : (execute step (start ⟨some "ab12".toList, none⟩)
      [.connected, .setup, .answered 0 (some radioKey), .proceed 0, .deny .transportLost,
        .proceed 0]).any
      (fun s => decide (s.allowed = true ∧ s.transport = 2 ∧
        s.opening.map (fun opening => opening.read.session) = some 1)) = true := by
    decide +kernel
  obtain ⟨s, executed, holds⟩ := (Option.any_eq_true _ _).mp ran
  obtain ⟨opened, second, first⟩ := of_decide_eq_true holds
  refine ⟨s, execute_reaches executed, fun guarded => ?_⟩
  obtain ⟨opening, last, session, _⟩ := guarded opened
  rw [last, Option.map_some, session, second] at first
  contradiction

end Meshloom.IngestGate
