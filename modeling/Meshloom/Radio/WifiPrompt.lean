import Meshloom.Transition
import Meshloom.Radio.WifiState

/-! The cached Wi-Fi state of the connected radio and its prompt (`app/services/radio_wifi.py`).
Checks, refreshes, changes and link re-checks each run in a CLI session, which holds the radio
lock; disconnecting and setting up a radio hold it too. Dismissals and restore jobs do not take it.
Every read and every write of the database takes the lock of the database, until the task that
asked resumes. Both locks serve their waiters in order. Code between two suspensions is one step.
Public keys are taken in their normal form. -/
namespace Meshloom.WifiPrompt
open WifiState

/-- `_CacheEntry`. Nothing reads the last two fields: the connection of the session that wrote the
entry, and whether the state that it composed wanted the prompt. -/
structure CacheEntry (K : Type) where
  state : RadioWifiState K
  link : Nat
  generation : Nat
  rawPasswordStored : Option Bool
  promptWanted : Bool
  connection : Nat
  composed : Bool
  deriving DecidableEq, Repr

/-- `_WriteToken` -/
structure WriteToken where
  version : Nat
  generation : Nat
  link : Nat
  deriving DecidableEq, Repr

/-- What a session is for. A change carries the key that its route read; a task of the connection
carries the token that it was spawned with. -/
inductive Kind (K : Type) where
  | fullCheck (expect : Option WriteToken) (nextRetryAt : Option Int)
  | refresh
  | store (publicKey : K)
  | setEnabled (publicKey : K)
  | linkRecheck (expect : WriteToken)
  deriving DecidableEq, Repr

/-- A write of a store into the record of its radio. -/
inductive RecordWrite where
  | storeStarted (ssid : List Char) (now : Int)
  | storeEnded
  | openNetwork (ssid : List Char) (now : Int)
  | noOpenNetwork
  deriving DecidableEq, Repr

def RecordWrite.apply (entry : PromptEntry) : RecordWrite → PromptEntry
  | .storeStarted ssid now => { entry with
    storeStartedAt := some now
    storeTargetSsid := some ssid }
  | .storeEnded => { entry with
    storeStartedAt := none
    storeTargetSsid := none }
  | .openNetwork ssid now => { entry with
    openNetworkSsid := some ssid
    openNetworkAt := some now }
  | .noOpenNetwork => { entry with
    openNetworkSsid := none
    openNetworkAt := none }

/-- Where a session is suspended. -/
inductive Phase (K : Type) where
  /-- The lock is held and automatic fetching is being stopped. -/
  | opening
  /-- At the radio. -/
  | reading (token : WriteToken)
  /-- Before the database makes a write of a store. -/
  | recording (token : WriteToken) (key : K) (write : RecordWrite)
  /-- Before the database answers `_prompt_entry` in `_compose_state`. -/
  | asking (token : WriteToken) (reading : Reading)
  | composing (token : WriteToken) (reading : Reading) (entry : PromptEntry)
  /-- Before the database answers `_prompt_entry` in `_note_store_incomplete`. -/
  | noting (token : WriteToken) (cached : CacheEntry K) (ssid : List Char)
  | noted (token : WriteToken) (cached : CacheEntry K) (ssid : List Char) (entry : PromptEntry)
  /-- What is left does not touch the Wi-Fi state. -/
  | closing
  deriving DecidableEq, Repr

structure Session (K : Type) where
  kind : Kind K
  publicKey : Option K
  /-- Read from the cached entry as the session starts. -/
  rawPasswordStored : Option Bool
  rebootPending : Bool
  phase : Phase K
  connection : Nat
  deriving DecidableEq, Repr

inductive Waiter (K : Type) where
  | session (kind : Kind K)
  | disconnect
  | setup
  deriving DecidableEq, Repr

/-- Where the setup that holds the radio lock is. Before it completes, `evaluate_connected_identity`
reads the bound key. -/
inductive Setup where
  /-- At the radio. -/
  | opening
  /-- Before the database answers. -/
  | asking
  | identified
  deriving DecidableEq, Repr

/-- What waits for the lock of the database. The first one has it. -/
inductive Call (K : Type) where
  /-- `dismiss_wifi_prompt` reads the bound key, as there is no radio. -/
  | bound (shown : K)
  /-- The write of `dismiss_wifi_prompt`, which may have been made. -/
  | dismissal (connected : K) (marked : Bool)
  /-- The session that holds the radio lock. -/
  | session
  /-- The setup that holds the radio lock. -/
  | setup
  deriving DecidableEq, Repr

/-- The globals of the service, and of what is around it the connection, the two locks with their
waiters, the database and the restore job. Nothing reads the last three fields: a number for each
connection, the broadcasts with the dismissals that had returned by then, and these. -/
structure Service (K : Type) where
  cache : Option (CacheEntry K)
  version : Nat
  generation : Nat
  dismissedKeys : List K
  cliLink : Nat
  /-- The key of the connected radio. -/
  meshcore : Option K
  setupComplete : Bool
  holder : Option (Session K)
  setup : Option Setup
  queue : List (Waiter K)
  promptState : Dict K PromptEntry
  boundPublicKey : Option K
  restoreJobRunning : Bool
  database : List (Call K)
  connection : Nat
  broadcasts : List (RadioWifiState K × List K)
  returned : List K

variable {K : Type} [DecidableEq K]

namespace Service

def start (promptState : Dict K PromptEntry) (boundPublicKey : Option K)
    (restoreJobRunning : Bool) : Service K :=
  ⟨none, 0, 0, [], 0, none, false, none, none, [], promptState, boundPublicKey, restoreJobRunning, [],
    0, [], []⟩

def clearCache (s : Service K) : Service K :=
  { s with
    cache := none
    version := s.version + 1
    generation := s.generation + 1
    dismissedKeys := [] }

def currentEntry (s : Service K) : Option (CacheEntry K) :=
  match s.cache with
  | none => none
  | some entry =>
    if entry.link ≠ s.cliLink ∨ entry.generation ≠ s.generation then none else some entry

def lastWifiState (s : Service K) : Option (RadioWifiState K) := s.currentEntry.map (·.state)

def token (s : Service K) : WriteToken := ⟨s.version, s.generation, s.cliLink⟩

def tokenAlive (s : Service K) (token : WriteToken) : Bool :=
  decide (token.generation = s.generation ∧ token.link = s.cliLink)

def broadcast (s : Service K) (state : RadioWifiState K) : Service K :=
  { s with broadcasts := (state, s.returned) :: s.broadcasts }

/-- The key of a state is among the dismissed ones. -/
def dismissed (s : Service K) (publicKey : Option K) : Bool :=
  match publicKey with
  | none => false
  | some publicKey => decide (publicKey ∈ s.dismissedKeys)

/-- `_write_cache`, in a session of `connection`. -/
def writeCache (s : Service K) (connection : Nat) (state : RadioWifiState K) (token : WriteToken)
    (rawPasswordStored : Option Bool) : Service K :=
  let wanted := state.promptNeeded && !s.dismissed state.radioPublicKey
  let written := { state with promptNeeded := wanted && !s.restoreJobRunning }
  if ¬ s.tokenAlive token ∨ token.version ≠ s.version then s
  else
    { s with
      version := s.version + 1
      cache := some ⟨written, token.link, token.generation, rawPasswordStored, wanted, connection,
        state.promptNeeded⟩ }.broadcast written

def promptEntry (s : Service K) (publicKey : Option K) : PromptEntry :=
  match publicKey with
  | none => .empty
  | some publicKey => (s.promptState.get? publicKey).getD .empty

/-- `connected_radio_public_key` -/
def connectedRadioPublicKey (s : Service K) : Option K :=
  match s.meshcore with
  | some publicKey => some publicKey
  | none => s.boundPublicKey

def reevaluatePrompt (s : Service K) : Service K :=
  match s.currentEntry with
  | none => s
  | some entry =>
    let needed := entry.promptWanted && !s.dismissed entry.state.radioPublicKey &&
      !s.restoreJobRunning
    if entry.state.promptNeeded = needed then s
    else
      let state := { entry.state with promptNeeded := needed }
      { s with cache := some { entry with state } }.broadcast state

def mergeLinkStatus (s : Service K) (token : WriteToken) (connected : Bool)
    (ip : Option (List Char)) : Service K :=
  match s.currentEntry with
  | none => s
  | some entry =>
    if ¬ s.tokenAlive token then s
    else if entry.state.connected = some connected ∧ entry.state.ip = ip then s
    else
      let state := { entry.state with
        connected := some connected
        ip }
      { s with
        version := s.version + 1
        cache := some { entry with state } }.broadcast state

/-- What is left of `dismiss_wifi_prompt` after the write. -/
def dismissWifiPrompt (s : Service K) (connected : K) : Service K :=
  let s := { s with
    dismissedKeys := connected :: s.dismissedKeys
    returned := connected :: s.returned }
  match s.currentEntry with
  | none => s
  | some entry =>
    let state := { entry.state with promptNeeded := false }
    { s with cache := some { entry with
      state
      promptWanted := false } }.broadcast state

/-- `_reset_connected_runtime_state` at the end of a disconnect. -/
def teardown (s : Service K) : Service K :=
  { s with
    meshcore := none
    setupComplete := false
    cliLink := s.cliLink + 1
    connection := s.connection + 1 }.clearCache

/-- The end of a setup, with `begin_connection`. -/
def finishSetup (s : Service K) : Service K :=
  { s with
    setupComplete := true
    connection := s.connection + 1 }.clearCache

end Service

/-- What a session does between two suspensions. -/
inductive SessionStep where
  | begin_
  /-- The radio has no CLI or no Wi-Fi. -/
  | unsupported (reason : UnsupportedReason) (now : Int)
  | failed (error : CheckError) (now : Int)
  | read (ssid : Option (List Char)) (enabled connected : Bool) (ip : Option (List Char))
    (stored : Bool)
  | record (write : RecordWrite)
  | partialStore (ssid : List Char)
  | linkStatus (connected : Bool) (ip : Option (List Char))
  /-- The database makes the write, or takes its answer to `_prompt_entry`. -/
  | answer
  /-- The session resumes with the answer; a change may need a reboot and be allowed one. -/
  | resume (now : Int) (required reboot : Bool)
  /-- An error or a cancellation. -/
  | raise
  | close
  deriving DecidableEq

/-- The task belongs to another connection. -/
def Kind.stale (kind : Kind K) (token : WriteToken) : Bool :=
  match kind with
  | .fullCheck (some expect) _ | .linkRecheck expect =>
    decide (token.generation ≠ expect.generation ∨ token.link ≠ expect.link)
  | _ => false

/-- The key that a session works with. -/
def Kind.publicKey (kind : Kind K) (s : Service K) : Option K :=
  match kind with
  | .store publicKey | .setEnabled publicKey => some publicKey
  | _ => s.connectedRadioPublicKey

/-- What the state of a session is composed from: a change takes what it keeps from the entry
that is current by then. -/
def Session.readingOf (session : Session K) (s : Service K) (ssid : Option (List Char))
    (enabled connected : Bool) (ip : Option (List Char)) (stored : Bool) : Reading :=
  let previous := s.currentEntry
  match session.kind with
  | .fullCheck _ _ => ⟨ssid, enabled, connected, ip, some stored, session.rebootPending⟩
  | .refresh =>
    ⟨ssid, enabled, connected, ip, some (session.rawPasswordStored.getD stored),
      session.rebootPending⟩
  | .store _ =>
    ⟨ssid, enabled, connected, ip, some stored, previous.any (·.state.rebootPending)⟩
  | .setEnabled _ | .linkRecheck _ =>
    ⟨ssid, enabled, connected, ip, previous.bind (·.rawPasswordStored),
      previous.any (·.state.rebootPending)⟩

/-- The state that a session writes; `_finish_change` decides on the reboot of a change. -/
def Session.finished (session : Session K) (state : RadioWifiState K) (required reboot : Bool) :
    RadioWifiState K :=
  match session.kind with
  | .store _ | .setEnabled _ =>
    { state with rebootPending :=
        if required && reboot then false else state.rebootPending || required }
  | _ => state

/-- The cached state after a partial store. -/
def incompleteState (cached : RadioWifiState K) (ssid : List Char) (entry : PromptEntry) :
    RadioWifiState K :=
  { cached with
    storeIncomplete := true
    storeTargetSsid := some ssid
    credentialsStored := some false
    openNetwork := false
    promptNeeded := cached.enabled = some true && cached.ssid.isSome &&
      !entry.dismissedAt.isSome }

namespace Service

def moveTo (s : Service K) (session : Session K) (phase : Phase K) : Service K :=
  { s with holder := some { session with phase } }

/-- The session goes on to `phase`, where it waits for the database. -/
def ask (s : Service K) (session : Session K) (phase : Phase K) : Service K :=
  { s with database := s.database ++ [Call.session] }.moveTo session phase

/-- The session does not wait for the database any more. -/
def leave (s : Service K) : Service K :=
  { s with database := s.database.filter fun call => decide (call ≠ Call.session) }

def sessionStep (s : Service K) (session : Session K) : SessionStep → Option (Service K)
  | .begin_ =>
    match session.phase with
    | .opening =>
      let token := s.token
      if session.kind.stale token then some (s.moveTo session .closing)
      else
        let previous := s.currentEntry
        some { s with holder := some { session with
          publicKey := session.kind.publicKey s
          rawPasswordStored := previous.bind (·.rawPasswordStored)
          rebootPending := previous.any (·.state.rebootPending)
          phase := .reading token } }
    | _ => none
  | .unsupported reason now =>
    match session.phase, session.kind with
    | .reading token, .fullCheck _ _ | .reading token, .refresh =>
      some ((s.writeCache session.connection (unsupportedState reason session.publicKey now) token
        none).moveTo session .closing)
    | _, _ => none
  | .failed error now =>
    match session.phase, session.kind with
    | .reading token, .fullCheck _ nextRetryAt =>
      some ((s.writeCache session.connection (failedState error session.publicKey nextRetryAt now)
        token none).moveTo session .closing)
    | .reading token, .refresh =>
      -- Only a probe that failed is a state here: other errors are raised.
      if error = .probeFailed then
        some ((s.writeCache session.connection (failedState error session.publicKey none now) token
          none).moveTo session .closing)
      else none
    | _, _ => none
  | .read ssid enabled connected ip stored =>
    match session.phase, session.kind with
    | .reading _, .linkRecheck _ => none
    | .reading token, _ =>
      some (s.ask session (.asking token (session.readingOf s ssid enabled connected ip stored)))
    | _, _ => none
  | .record write =>
    match session.phase, session.kind with
    | .reading token, .store publicKey => some (s.ask session (.recording token publicKey write))
    | _, _ => none
  | .partialStore ssid =>
    match session.phase, session.kind with
    | .reading token, .store _ =>
      match s.currentEntry with
      | none => some (s.moveTo session .closing)
      | some cached => some (s.ask session (.noting token cached ssid))
    | _, _ => none
  | .linkStatus connected ip =>
    match session.phase, session.kind with
    | .reading token, .linkRecheck _ =>
      some ((s.mergeLinkStatus token connected ip).moveTo session .closing)
    | _, _ => none
  | .answer =>
    if s.database.head? = some Call.session then
      match session.phase with
      | .recording token key write =>
        some ({ s with promptState :=
          s.promptState.set key (write.apply (s.promptEntry (some key))) }.leave.moveTo session
            (.reading token))
      | .asking token reading =>
        some (s.moveTo session (.composing token reading (s.promptEntry session.publicKey)))
      | .noting token cached ssid =>
        some (s.moveTo session (.noted token cached ssid (s.promptEntry session.publicKey)))
      | _ => none
    else none
  | .resume now required reboot =>
    match session.phase with
    | .composing token reading entry =>
      let state := session.finished (composeState entry session.publicKey reading now) required reboot
      some ((s.leave.writeCache session.connection state token reading.rawPasswordStored).moveTo
        session .closing)
    | .noted token cached ssid entry =>
      some ((s.leave.writeCache session.connection (incompleteState cached.state ssid entry) token
        cached.rawPasswordStored).moveTo session .closing)
    | _ => none
  | .raise => some (s.leave.moveTo session .closing)
  | .close =>
    match session.phase with
    | .closing => some { s with holder := none }
    | _ => none

end Service

inductive Event (K : Type) where
  | request (kind : Kind K)
  | requestDisconnect
  | requestSetup
  /-- A waiter is cancelled. -/
  | leave (position : Nat)
  /-- The first waiter gets the radio lock. -/
  | next
  | session (step : SessionStep)
  | setupAsks
  | identified
  | setupEnds (succeeds : Bool)
  | connect (publicKey : K)
  /-- The library lost the transport, or a reboot was sent. -/
  | transportLost
  | bind (publicKey : Option K)
  | setRunning (running : Bool)
  | dismiss (shown : K)
  /-- The database answers with the bound key, and the dismissal goes on. -/
  | lookUp
  | mark (now : Int)
  | returns
  /-- A read or a write of a dismissal fails, or its call is cancelled. -/
  | abandon (position : Nat)
  deriving DecidableEq

namespace Service

/-- A session may be asked for: setup is complete, a change has the key of the connected radio,
and a link re-check does not wait. -/
def admits (s : Service K) (kind : Kind K) : Bool :=
  s.setupComplete && match kind with
  | .store publicKey | .setEnabled publicKey => decide (s.meshcore = some publicKey)
  | .linkRecheck _ => s.holder.isNone
  | _ => true

/-- The first waiter has the lock. A session that finds no radio, or one that is not set up,
raises. -/
def serve (s : Service K) : Waiter K → Service K
  | .session kind =>
    if s.meshcore.isSome ∧ s.setupComplete then
      { s with holder := some ⟨kind, none, none, false, .opening, s.connection⟩ }
    else s
  | .disconnect => if s.meshcore.isSome then s.teardown else s
  | .setup => if s.meshcore.isSome then { s with setup := some .opening } else s

/-- The end of the setup that holds the radio lock. One that fails does not wait any more. -/
def endSetup (s : Service K) (succeeds : Bool) : Setup → Option (Service K)
  | .identified => some (if succeeds then { s with setup := none }.finishSetup else { s with setup := none })
  | _ =>
    if succeeds then none
    else
      some { s with
        setup := none
        database := s.database.filter fun call => decide (call ≠ Call.setup) }

def step (s : Service K) : Event K → Option (Service K)
  | .request kind =>
    if s.admits kind then some { s with queue := s.queue ++ [.session kind] } else none
  | .requestDisconnect => some { s with queue := s.queue ++ [.disconnect] }
  | .requestSetup =>
    -- `_setup_lock` keeps setups apart.
    if s.meshcore.isSome ∧ s.setup = none ∧ Waiter.setup ∉ s.queue then
      some { s with
        queue := s.queue ++ [.setup]
        setupComplete := false }
    else none
  | .leave position => some { s with queue := s.queue.eraseIdx position }
  | .next =>
    match s.holder, s.setup, s.queue with
    | none, none, waiter :: rest => some ({ s with queue := rest }.serve waiter)
    | _, _, _ => none
  | .session step => s.holder.bind fun session => s.sessionStep session step
  | .setupAsks =>
    if s.setup = some .opening then
      some { s with
        setup := some .asking
        database := s.database ++ [.setup] }
    else none
  | .identified =>
    match s.database with
    | .setup :: rest =>
      some { s with
        setup := some .identified
        database := rest }
    | _ => none
  | .setupEnds succeeds => s.setup.bind (s.endSetup succeeds)
  | .connect publicKey =>
    if s.meshcore = none then
      some { s with
        meshcore := some publicKey
        setupComplete := false }
    else none
  | .transportLost => some { s with setupComplete := false }
  | .bind publicKey => some { s with boundPublicKey := publicKey }
  | .setRunning running => some { s with restoreJobRunning := running }.reevaluatePrompt
  | .dismiss shown =>
    match s.meshcore with
    | some connected =>
      if connected = shown then
        some { s with database := s.database ++ [.dismissal connected false] }
      else none
    | none => some { s with database := s.database ++ [.bound shown] }
  | .lookUp =>
    match s.database with
    | .bound shown :: rest =>
      if s.boundPublicKey = some shown then
        some { s with database := rest ++ [.dismissal shown false] }
      else some { s with database := rest }
    | _ => none
  | .mark now =>
    match s.database with
    | .dismissal connected false :: rest =>
      some { s with
        promptState := s.promptState.set connected
          { s.promptEntry (some connected) with dismissedAt := some now }
        database := .dismissal connected true :: rest }
    | _ => none
  | .returns =>
    match s.database with
    | .dismissal connected true :: rest => some ({ s with database := rest }.dismissWifiPrompt connected)
    | _ => none
  | .abandon position =>
    match s.database[position]? with
    | some (.bound _) | some (.dismissal _ _) =>
      some { s with database := s.database.eraseIdx position }
    | _ => none

end Service
end Meshloom.WifiPrompt
