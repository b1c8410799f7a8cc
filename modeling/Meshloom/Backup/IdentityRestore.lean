import Meshloom.Backup.IdentityDecision
import Meshloom.Exchange

/-! The identity step of a restore (`app/services/backup_restore.py`), with the post-connect
setup that follows it (`app/services/radio_identity.py`, `radio_lifecycle.py`). Every exchange
with the radio may show any key, fail, be cancelled or find the session gone. The mesh history is
the rows that a wipe deletes; the key that is bound owns it. -/
namespace Meshloom.BackupRestore
open Text Exchange Program
variable {Row : Type}

/-- What the settings row and the mesh tables hold of this. -/
structure Database (Row : Type) where
  identityState : Option Gate
  boundPublicKey : Option Text
  mismatchNewPublicKey : Option Text
  history : List Row
  /-- The gate for a history without an owner is opened only while no key is bound. -/
  unbound : identityState = some .identityUnboundLegacy → boundPublicKey = none

namespace Database

def bindPublicKey (db : Database Row) (key : Text) : Database Row where
  identityState := none
  boundPublicKey := some (normal key)
  mismatchNewPublicKey := none
  history := db.history
  unbound := nofun

/-- `set_identity_gate` on another key than the bound one. -/
def openMismatch (db : Database Row) (newPublicKey : Text) : Database Row :=
  { db with
    identityState := some .identityMismatch, mismatchNewPublicKey := some newPublicKey
    unbound := nofun }

/-- `set_identity_gate` while no key is bound. -/
def openUnboundLegacy (db : Database Row) (newPublicKey : Text)
    (unbound : db.boundPublicKey = none) : Database Row :=
  { db with
    identityState := some .identityUnboundLegacy, mismatchNewPublicKey := some newPublicKey
    unbound := fun _ => unbound }

def wipeMeshIdentityData (db : Database Row) : Database Row := { db with history := [] }

end Database

structure System (Row : Type) where
  db : Database Row
  connected : Bool
  setupComplete : Bool
  connectionDesired : Bool
  ingestAllowed : Bool
  /-- The key that the radio showed last. -/
  live : Option Text
  /-- Only a setup that ended with a bound key is complete. -/
  setUp : setupComplete = true → db.boundPublicKey ≠ none

inductive Status where
  | pending
  | running
  | done
  | skipped
  | failed
  deriving DecidableEq, Repr

/-- `BackupRestoreStep` -/
structure Step where
  status : Status
  code : Option Code := none
  detail : Option String := none
  deriving DecidableEq, Repr

inductive Event (Row : Type) where
  | read (key : Option Text)
  | imported
  | wiped
  | bound (key : Text)
  /-- The identity step is set to done, and what there is then. -/
  | done (bound live : Option Text) (history : List Row)

/-- One run of the step, with what it has done so far, the latest first. -/
structure Run (Row : Type) where
  system : System Row
  step : Step
  stop : Bool
  radioSkipCode : Option Code
  identityRestored : Bool
  gateWasOpen : Bool
  log : List (Event Row)

/-- Exceptions. -/
inductive Raised where
  /-- `RadioOperationError` other than that the radio is busy -/
  | operation
  /-- `RadioOperationBusyError` -/
  | busy
  | timeout
  | other
  /-- `asyncio.CancelledError` -/
  | cancelled
  deriving DecidableEq, Repr

inductive ImportOutcome where
  | ok
  | disabled
  | rejected
  | timeout
  deriving DecidableEq, Repr

/-- What the environment does at one exchange. -/
structure Outcome (Row : Type) where
  raised : Option Raised
  /-- The key in the answer to `send_appstart`. -/
  answer : Option Text
  /-- The key in the cached SELF_INFO. -/
  selfInfo : Option Text
  imported : ImportOutcome
  /-- The transport comes up. -/
  connects : Bool
  /-- The setup reboots the radio to reset its clock. -/
  rebooted : Bool
  /-- By then the transport is lost, or the session has to be set up again. -/
  lost : Bool
  dropped : Bool
  /-- What mesh traffic has added to the history, if it may. -/
  arrived : List Row

abbrev Restore (Row : Type) := Program (Run Row) (Outcome Row) Raised

/-- What has happened by the time of an exchange. -/
def System.pass (outcome : Outcome Row) (system : System Row) : System Row where
  db :=
    { system.db with
      history :=
        if system.ingestAllowed then system.db.history ++ outcome.arrived else system.db.history }
  connected := system.connected && !outcome.lost
  setupComplete := system.setupComplete && !outcome.dropped
  connectionDesired := system.connectionDesired
  ingestAllowed := system.ingestAllowed
  live := system.live
  setUp complete := system.setUp (Bool.and_elim_left complete)

def Run.pass (outcome : Outcome Row) (run : Run Row) : Run Row :=
  { run with system := run.system.pass outcome }

/-- `_normalize_key` -/
def normalizeKey (value : Option Text) : Option Text :=
  (norm value).filter fun key => !key.all (· = '0')

/-- The radio shows a key, or none. -/
def Run.shown (key : Option Text) (run : Run Row) : Run Row :=
  { run with
    system := { run.system with live := key.or run.system.live }
    log := .read key :: run.log }

/-- `read_radio_public_key`: the answer, then the cached SELF_INFO. -/
def Outcome.publicKey (outcome : Outcome Row) : Option Text :=
  (normalizeKey outcome.answer).or (normalizeKey outcome.selfInfo)

def readRadioPublicKey : Restore Row (Option Text) :=
  exchange fun outcome run =>
    if outcome.raised = some .cancelled then (.error .cancelled, run.pass outcome)
    else (.ok outcome.publicKey, (run.pass outcome).shown outcome.publicKey)

def readLiveIdentity : Restore Row (Option Text) := do
  let system ← inspect Run.system
  if system.connected = false ∨ system.setupComplete = false then pure none
  else
    exchange fun outcome run =>
      match outcome.raised with
      | none => (.ok outcome.publicKey, (run.pass outcome).shown outcome.publicKey)
      | some .operation | some .busy =>
          (.ok (norm outcome.selfInfo), (run.pass outcome).shown (norm outcome.selfInfo))
      | some raised => (.error raised, run.pass outcome)

/-- An exchange that nothing is read from. -/
def attempt : Restore Row Unit :=
  exchange fun outcome run =>
    match outcome.raised with
    | none => (.ok (), run.pass outcome)
    | some raised => (.error raised, run.pass outcome)

structure IdentityInputs where
  gate : Option Gate
  bound : Option Text
  live : Option Text
  hasHistory : Bool
  deriving DecidableEq, Repr

/-- The key of an open gate, else the one read now. -/
def liveKey (snapshot : Database Row) : Restore Row (Option Text) :=
  if snapshot.identityState ≠ none then pure (norm snapshot.mismatchNewPublicKey)
  else readLiveIdentity

def gatherIdentityInputs : Restore Row IdentityInputs := do
  let snapshot ← inspect (·.system.db)
  let live ← liveKey snapshot
  let hasHistory ← inspect fun run => !run.system.db.history.isEmpty
  pure ⟨snapshot.identityState, norm snapshot.boundPublicKey, live, hasHistory⟩

/-- `_HEX64.match`, that lets a newline stand after the digits -/
def hex64 (value : Text) : Bool :=
  (value.length == 64 && value.all fun c => c.isDigit || ('a' ≤ c.toLower && c.toLower ≤ 'f')) ||
  (value.length == 65 && value.getLast? == some '\n' &&
    value.dropLast.all fun c => c.isDigit || ('a' ≤ c.toLower && c.toLower ≤ 'f'))

structure BackupIdentity where
  publicKey : Option Text
  privateKey : Option Text
  publicKeyHex : ∀ key ∈ publicKey, ∃ value, hex64 value = true ∧ key = value.map Char.toLower

inductive Document where
  /-- `BackupV1Document` -/
  | v1
  /-- `BackupExportV2` -/
  | v2 (identity : Option BackupIdentity)

def backupPublicKey : Document → Option Text
  | .v1 => none
  | .v2 none => none
  | .v2 (some identity) =>
      if identity.privateKey.getD [] = [] then none else identity.publicKey

def decideFor (doc : Document) (inputs : IdentityInputs) : IdentityDecision :=
  decideIdentityRestore inputs.gate inputs.bound inputs.live (backupPublicKey doc) inputs.hasHistory

/-- `_Run.set` of the identity step -/
def set (status : Status) (code : Option Code) (detail : Option String) : Restore Row Unit :=
  update fun run => { run with step := ⟨status, code, detail⟩ }

/-- The step is done; the log says what there is then. -/
def setDone (code : Code) : Restore Row Unit :=
  update fun run =>
    { run with
      step := ⟨.done, some code, none⟩
      log := .done run.system.db.boundPublicKey run.system.live run.system.db.history :: run.log }

def setStop : Restore Row Unit := update fun run => { run with stop := true }

def skipRadio (code : Code) : Restore Row Unit :=
  update fun run => { run with radioSkipCode := some code }

def deferredDetail : String :=
  "Connect the radio: Meshloom asks what to do with its identity; choose Restore from a backup."

def settleIdentity (doc : Document) (options : RestoreOptions) (inputs : IdentityInputs) :
    Restore Row (Option IdentityDecision) :=
  let decision := decideFor doc inputs
  match checkIdentityConfirmations decision inputs.live options with
  | some error => do
      set .failed error.code error.message
      setStop
      pure none
  | none =>
      if decision.deferred then do
        set .skipped (some .radioNotConnected) (some deferredDetail)
        skipRadio .radioNotConnected
        pure none
      else if ¬(decision.importKey ∨ decision.wipe ∨ decision.bind) then do
        setDone .alreadyThisIdentity
        pure none
      else pure (some decision)

/-- `evaluate_connected_identity`: the setup goes on, with a bound key, or it stops. -/
inductive Evaluated (Row : Type) where
  | proceed (run : Run Row) (bound : run.system.db.boundPublicKey ≠ none)
  | stop (run : Run Row)

def Evaluated.run : Evaluated Row → Run Row
  | .proceed run _ | .stop run => run

def evaluateConnectedIdentity (outcome : Outcome Row) (run : Run Row) : Evaluated Row :=
  let system : System Row := { run.system with ingestAllowed := false }
  let run := { run with system }.shown outcome.publicKey
  match outcome.publicKey with
  | none => .stop run
  | some publicKey =>
      if run.system.db.identityState ≠ none then .stop run
      else
        match present : run.system.db.boundPublicKey with
        | none =>
            if run.system.db.history ≠ [] then
              .stop
                { run with
                  system :=
                    { run.system with
                      db := run.system.db.openUnboundLegacy publicKey present
                      setUp := fun complete => absurd present (run.system.setUp complete) } }
            else
              .proceed
                { run with
                  system :=
                    { run.system with
                      db := run.system.db.bindPublicKey publicKey
                      ingestAllowed := true
                      setUp := fun _ => nofun }
                  log := .bound publicKey :: run.log } nofun
        | some bound =>
            if bound.map Char.toLower = publicKey then
              .proceed { run with system := { run.system with ingestAllowed := true } }
                (by rw [present]; nofun)
            else
              .stop
                { run with
                  system :=
                    { run.system with
                      db := run.system.db.openMismatch publicKey
                      setUp := fun _ => by rw [Database.openMismatch, present]; nofun } }

inductive SetupOutcome where
  | done
  | reconnect
  deriving DecidableEq, Repr

/-- Setup has to run again. -/
def System.unset (system : System Row) : System Row :=
  { system with setupComplete := false, setUp := nofun }

def System.disconnect (system : System Row) : System Row :=
  { system.unset with connected := false, ingestAllowed := false, setUp := nofun }

/-- `run_post_connect_setup`. What is left of it once the identity is accepted is one exchange. -/
def runPostConnectSetup : Restore Row SetupOutcome := do
  if ← inspect fun run => !run.system.connected then pure .done
  else do
    update fun run => { run with system := run.system.unset }
    attempt
    exchange fun outcome run =>
      match evaluateConnectedIdentity outcome (run.pass outcome) with
      | .stop run =>
          (.ok .done, { run with system := { run.system with connectionDesired := false } })
      | .proceed run bound =>
          match outcome.raised with
          | some raised => (.error raised, run)
          | none =>
              if outcome.rebooted then (.ok .reconnect, run)
              else
                (.ok .done,
                  { run with
                    system := { run.system with setupComplete := true, setUp := fun _ => bound } })

/-- Drops the transport if there is one. -/
def disconnect : Restore Row Unit :=
  update fun run =>
    if run.system.connected then { run with system := run.system.disconnect } else run

/-- `prepare_connected_radio`. A setup that times out is tried once more. -/
def prepareConnected : Restore Row Bool := do
  if ← inspect fun run => !run.system.connectionDesired then do
    disconnect
    pure false
  else do
    let outcome ← recover runPostConnectSetup fun raised =>
      if raised = .timeout then
        recover runPostConnectSetup fun raised =>
          raise (if raised = .timeout then .other else raised)
      else raise raised
    let desired ← inspect fun run => run.system.connectionDesired
    if outcome = .reconnect ∨ desired = false then do
      disconnect
      pure false
    else inspect fun run => run.system.connected && run.system.setupComplete

/-- Whether the session, still set up, is the bound key's. -/
def sameSession (system : System Row) : Restore Row Bool :=
  if system.setupComplete then do
    let live ← readLiveIdentity
    let bound := norm system.db.boundPublicKey
    pure (decide (system.db.identityState = none ∧ bound ≠ none ∧ live = bound))
  else pure false

/-- `_restore_session` -/
def restoreSession : Restore Row Unit := do
  let system ← inspect Run.system
  if system.connectionDesired = false ∨ system.connected = false then pure ()
  else
    recover (do
      if ← sameSession system then
        update fun run => { run with system := { run.system with ingestAllowed := true } }
      else do
        let _ ← prepareConnected
        pure ())
      fun raised => if raised = .cancelled then raise raised else pure ()

/-- `RadioManager.reconnect`, that answers whether there is a transport. -/
def reconnect : Restore Row Bool :=
  exchange fun outcome run =>
    let run := run.pass outcome
    if outcome.raised = some .cancelled then (.error .cancelled, run)
    else if run.system.connected then (.ok true, run)
    else if outcome.connects then
      (.ok true, { run with system := { run.system.unset with connected := true, setUp := nofun } })
    else (.ok false, { run with system := run.system.unset })

def importPrivateKeyRaw : Restore Row ImportOutcome :=
  exchange fun outcome run =>
    let run : Run Row := { run.pass outcome with log := .imported :: run.log }
    match outcome.raised with
    | none => (.ok outcome.imported, run)
    | some raised => (.error raised, run)

/-- Reads the live key again, imports and verifies; what makes it fail, if anything. -/
def verifyIdentity (decision : IdentityDecision) (backupKey : Text) (inputs : IdentityInputs) :
    Restore Row (Option Code) := do
  attempt
  let live ← readRadioPublicKey
  if live ≠ some backupKey ∧ (decision.importKey = false ∨ live ≠ inputs.live) then
    pure (some .liveIdentityChanged)
  else if decision.importKey = true ∧ live ≠ some backupKey then do
    match ← importPrivateKeyRaw with
    | .disabled => pure (some .privateKeyImportDisabled)
    | .rejected => pure (some .privateKeyImportRejected)
    | .timeout => pure (some .privateKeyImportUnverified)
    | .ok =>
        let live ← readRadioPublicKey
        if live ≠ some backupKey then pure (some .privateKeyImportUnverified)
        else do
          attempt  -- `export_and_store_private_key`
          pure none
  else pure none

def fail (code : Code) : Restore Row Bool := do
  set .failed (some code) none
  setStop
  pure false

/-- Wipes the history recorded under another key, when the decision or the user says so. -/
def wipeIdentity (options : RestoreOptions) (decision : IdentityDecision) : Restore Row Unit :=
  update fun run =>
    if decision.wipe = true ∨ (decision.wipeOptional = true ∧ options.wipeHistory = true) then
      { run with
        system :=
          { run.system with db := run.system.db.wipeMeshIdentityData, ingestAllowed := false }
        log := .wiped :: run.log }
    else run

def bindIdentity (key : Text) : Restore Row Unit :=
  update fun run =>
    { run with
      system := { run.system with db := run.system.db.bindPublicKey key, setUp := fun _ => nofun }
      log := .bound key :: run.log }

/-- The setup after the identity is bound. -/
def setupAfterBind : Restore Row Bool := do
  let connected ← recover prepareConnected fun raised =>
    if raised = .cancelled then raise raised else pure false
  update fun run => if connected then run else { run with radioSkipCode := some .radioNotConnected }
  pure true

/-- The wipe, the bind and the setup that follow once the radio shows the backup key. -/
def adoptIdentity (options : RestoreOptions) (decision : IdentityDecision) (backupKey : Text) :
    Restore Row Bool := do
  update fun run => { run with identityRestored := run.identityRestored || decision.importKey }
  wipeIdentity options decision
  bindIdentity backupKey
  setDone (if decision.importKey then .restored else .bound)
  setupAfterBind

def executeIdentity (options : RestoreOptions) (decision : IdentityDecision) (backupKey : Text)
    (inputs : IdentityInputs) : Restore Row Bool := do
  update fun run => { run with system := { run.system with connectionDesired := true } }
  if ← reconnect then do
    let failure ← recover (verifyIdentity decision backupKey inputs) fun raised =>
      if raised = .operation ∨ raised = .busy then pure (some .radioNotConnected) else raise raised
    match failure with
    | some code => fail code
    | none => adoptIdentity options decision backupKey
  else fail .radioNotConnected

/-- The start of a lifecycle transition. -/
def enterTransition : Restore Row Unit := do
  attempt
  update fun run => { run with system := { run.system with ingestAllowed := false } }

/-- What is decided again inside the transition, and carried out. -/
def decideAgain (doc : Document) (options : RestoreOptions) (backupKey : Text) :
    Restore Row Bool := do
  let inputs ← gatherIdentityInputs
  update fun run => { run with gateWasOpen := decide (inputs.gate ≠ none) }
  match ← settleIdentity doc options inputs with
  | some decision => executeIdentity options decision backupKey inputs
  | none => pure false

/-- When no setup ran and no gate was open, the session is restored. -/
def afterTransition (setupRan : Option Bool) : Restore Row Unit := do
  let gateWasOpen ← inspect Run.gateWasOpen
  if setupRan = some true ∨ gateWasOpen = true then pure () else restoreSession

def transition (doc : Document) (options : RestoreOptions) (backupKey : Text) :
    Restore Row Bool := do
  enterTransition
  ensure (decideAgain doc options backupKey) afterTransition

/-- `pause_connection`, so that no setup loops against the open gate -/
def pauseAfterStop : Restore Row Unit :=
  update fun run =>
    if run.stop && run.gateWasOpen then
      { run with system := { run.system.disconnect with connectionDesired := false } }
    else run

def skipIdentity (code : Code) : Restore Row Unit := do
  set .skipped (some code) none
  update fun run =>
    if run.system.db.identityState = none then run
    else { run with radioSkipCode := some .identityGateOpen }

def identityStep (doc : Document) (options : RestoreOptions) : Restore Row Unit :=
  match doc with
  | .v1 => do
      set .skipped (some .v1Backup) none
      skipRadio .v1Backup
  | .v2 _ =>
      match backupPublicKey doc with
      | none => skipIdentity .noIdentity
      | some backupKey =>
          if options.identity = false then skipIdentity .stepOff
          else do
            set .running none none
            let inputs ← gatherIdentityInputs
            match ← settleIdentity doc options inputs with
            | none => pure ()
            | some _ =>
                ensure
                  (recover
                    (do
                      let _ ← transition doc options backupKey
                      pure ())
                    fun raised =>
                      if raised = .busy then do
                        set .failed (some .radioBusy) none
                        setStop
                      else raise raised)
                  fun _ => pauseAfterStop

/-- A run begins. -/
def begin (system : System Row) : Run Row :=
  ⟨system, ⟨.pending, none, none⟩, false, none, false, false, []⟩

/-- The run of the identity step in an environment. -/
def restoreIdentity (doc : Document) (options : RestoreOptions) (system : System Row)
    (outcomes : Nat → Outcome Row) : Except Raised Unit × Run Row :=
  let (result, after) := identityStep doc options ⟨begin system, outcomes, 0⟩
  (result, after.state)

end Meshloom.BackupRestore
