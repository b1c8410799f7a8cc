import Meshloom.Radio.WifiPrompt
import Meshloom.Radio.WifiStoreMarker

/-! The pending reboot of the radio's Wi-Fi (`app/services/radio_wifi.py`): the calls of one
connection that write the cached state. They hold the radio lock, so they come one after another and
their write tokens stay current. Every exchange with the CLI may be answered, carried out without an
answer, or refused. -/
namespace Meshloom.WifiReboot
open Exchange Program WifiCredentials WifiStoreMarker WifiState

/-- What becomes of a command. -/
inductive Fate where
  | answered
  | lost
  | refused (failure : CliFailure)
  deriving DecidableEq

def Fate.outcome : Fate → Outcome
  | .answered => .answered
  | .lost => .lost
  | .refused failure => .refused failure

/-- `CliCapabilities`; of the reasons only `probe_failed` is told from the others. -/
structure Capabilities where
  supported : Bool
  wifi : Bool
  probeFailed : Bool
  deriving DecidableEq

/-- What comes back at an exchange, with what the radio would say of its link and its CLI. -/
structure Reply where
  fate : Fate
  connected : Bool
  ip : Option Text
  capabilities : Capabilities

structure Entry (K : Type) where
  state : RadioWifiState K
  rawPasswordStored : Option Bool

/-- A state that was written to the cache, and whether a stored change was still without its reboot
then. -/
structure Write (K : Type) where
  state : RadioWifiState K
  owed : Bool

/-- The service and its radio on one connection. Nothing reads the last two fields: a change that
requires a reboot was stored since the last one was sent, and the writes to the cache. -/
structure Wifi (K : Type) where
  panel : Panel K
  /-- The radio's `wifi.enabled`. -/
  enabled : Bool
  connectedKey : Option K
  dismissedKeys : List K
  restoreJobRunning : Bool
  entry : Option (Entry K)
  owed : Bool
  written : List (Write K)

variable {K : Type} [DecidableEq K]

abbrev Cli (K : Type) := Program (Wifi K) Reply Failure

/-- The cached state says that a reboot is pending. -/
def Wifi.pending (s : Wifi K) : Bool := s.entry.any (·.state.rebootPending)

def Wifi.promptEntry (s : Wifi K) (publicKey : Option K) : PromptEntry :=
  (publicKey.map s.panel.promptEntry).getD .empty

/-- `_write_cache` -/
def Wifi.writeCache (s : Wifi K) (state : RadioWifiState K) (rawPasswordStored : Option Bool) : Wifi K :=
  let dismissed := state.radioPublicKey.any fun key => decide (key ∈ s.dismissedKeys)
  let state := { state with promptNeeded := state.promptNeeded && !dismissed && !s.restoreJobRunning }
  { s with
    entry := some ⟨state, rawPasswordStored⟩
    written := ⟨state, s.owed⟩ :: s.written }

section Helpers

/-- A command that changes nothing. -/
def ask (answer : Reply → Wifi K → α) : Cli K α :=
  exchange fun reply s =>
    match reply.fate with
    | .answered => (.ok (answer reply s), s)
    | .lost => (.error (.exchange .timeout), s)
    | .refused failure => (.error (.exchange failure), s)

def capabilities : Cli K Capabilities := ask fun reply _ => reply.capabilities

def wifiSsid : Cli K (Option Text) := ask fun _ s => readSsid (ssidText s.panel.session.radio)

def wifiEnabled : Cli K Bool := ask fun _ s => s.enabled

def wifiLinkStatus : Cli K (Bool × Option Text) := do
  let connected ← ask fun reply _ => reply.connected
  let ip ← ask fun reply _ => reply.ip
  return (connected, ip)

def wifiCredentialsStored : Cli K Bool := ask fun _ s => decide (s.panel.session.radio.password ≠ [])

/-- A part of the service that knows only the radio's pair and the database. -/
def onPanel (program : WifiStoreMarker.Service K α) : Cli K α :=
  hearing (fun reply => reply.fate.outcome) (within (·.panel) (fun s panel => { s with panel }) program)

end Helpers

def requireWifi : Cli K Unit := do
  let caps ← capabilities
  if !caps.supported then raise (.exchange (if caps.probeFailed then .timeout else .unsupported))
  else if !caps.wifi then raise (.exchange .unknownCommand)
  else pure ()

/-- What `_read_wifi_state` reads when the radio has Wi-Fi; the reason when it says otherwise. -/
def readReading (readPassword : Bool) (rawPasswordStored : Option Bool) (rebootPending : Bool) :
    Cli K (Except UnsupportedReason Reading) :=
  recover (do
    let ssid ← wifiSsid
    let enabled ← wifiEnabled
    let (connected, ip) ← wifiLinkStatus
    if readPassword then
      let stored ← wifiCredentialsStored
      return .ok ⟨ssid, enabled, connected, ip, some stored, rebootPending⟩
    else return .ok ⟨ssid, enabled, connected, ip, rawPasswordStored, rebootPending⟩) fun failure =>
    match failure with
    | .exchange .unknownCommand => pure (.error .noWifi)
    | .exchange .unsupported => pure (.error .noCli)
    | failure => raise failure

/-- `_read_wifi_state` -/
def readWifiState (publicKey : Option K) (readPassword : Bool) (rawPasswordStored : Option Bool)
    (rebootPending : Bool) (now : Int) : Cli K (RadioWifiState K × Option Bool) := do
  let caps ← capabilities
  if !caps.supported then
    if caps.probeFailed then return (failedState .probeFailed publicKey none now, none)
    else return (unsupportedState .noCli publicKey now, none)
  else if !caps.wifi then return (unsupportedState .noWifi publicKey now, none)
  else
    match ← readReading readPassword rawPasswordStored rebootPending with
    | .error reason => return (unsupportedState reason publicKey now, none)
    | .ok reading =>
      let entry ← inspect (·.promptEntry publicKey)
      return (composeState entry publicKey reading now, reading.rawPasswordStored)

/-- What a check and a restore make of a read that raises. -/
def failedRead (publicKey : Option K) (now : Int) (failure : Failure) :
    Cli K (RadioWifiState K × Option Bool) :=
  match failure with
  | .exchange .timeout => pure (failedState .cliTimeout publicKey none now, none)
  | .exchange .rejected | .exchange .unknownCommand | .exchange .unexpectedReply
  | .exchange .unsupported => pure (failedState .cliError publicKey none now, none)
  | failure => raise failure

def checkedRead (publicKey : Option K) (readPassword : Bool) (rawPasswordStored : Option Bool)
    (rebootPending : Bool) (now : Int) : Cli K (RadioWifiState K × Option Bool) :=
  recover (readWifiState publicKey readPassword rawPasswordStored rebootPending now)
    (failedRead publicKey now)

def runFullWifiCheck (nextRetryAt : Option Int) (now : Int) : Cli K Unit := do
  let publicKey ← inspect Wifi.connectedKey
  let rebootPending ← inspect Wifi.pending
  let (state, raw) ← checkedRead publicKey true none rebootPending now
  let state := if state.check = .failed then { state with nextRetryAt } else state
  update (·.writeCache state raw)

/-- A refresh that reads without a password, or reads the one that is not known. -/
def refreshRead (now : Int) : Cli K (RadioWifiState K × Option Bool) := do
  let raw ← inspect fun s => s.entry.bind (·.rawPasswordStored)
  let rebootPending ← inspect Wifi.pending
  let publicKey ← inspect Wifi.connectedKey
  readWifiState publicKey raw.isNone raw rebootPending now

/-- What `refresh_wifi_state` does with the cached entry that it finds. -/
inductive RefreshKind where
  | full
  | kept
  | read
  deriving DecidableEq

def refreshKind : Option (Entry K) → RefreshKind
  | none => .full
  | some entry =>
    if entry.state.check ≠ .done ∨ entry.rawPasswordStored = none then
      if entry.state.check = .done ∧ entry.state.supported ≠ some true then .kept else .full
    else .read

def refreshBy (now : Int) : RefreshKind → Cli K Unit
  | .kept => pure ()
  | .full => runFullWifiCheck none now
  | .read => do
    let (state, raw) ← refreshRead now
    update (·.writeCache state raw)

def refreshWifiState (now : Int) : Cli K Unit := do
  let kind ← inspect fun s => refreshKind s.entry
  refreshBy now kind

/-- The read of `refresh_after_restore`. -/
def restoreRead (credentialsStored : Option Bool) (rebootPending : Bool) (now : Int) :
    Cli K (RadioWifiState K × Option Bool) := do
  let publicKey ← inspect Wifi.connectedKey
  let raw ← inspect fun s => credentialsStored.or (s.entry.bind (·.rawPasswordStored))
  let pending ← inspect fun s => rebootPending || s.pending
  checkedRead publicKey raw.isNone raw pending now

/-- A restore that stored a change tells so. -/
def refreshAfterRestore (credentialsStored : Option Bool) (rebootPending : Bool) (now : Int) :
    Cli K Unit := do
  update fun s => { s with owed := s.owed || rebootPending }
  let (state, raw) ← restoreRead credentialsStored rebootPending now
  update (·.writeCache state raw)

def wifiRebootRequired (outcome : WifiStoreOutcome) (connected : Bool) (openRecordSsid : Option Text)
    (newPasswordEmpty : Bool) : Bool :=
  if outcome.previouslyStored || (openRecordSsid.isSome && openRecordSsid = outcome.previousSsid) then
    outcome.ssidChanged || outcome.passwordChanged
  else
    let flasherShortcut := !outcome.ssidChanged && connected && !newPasswordEmpty
    !flasherShortcut

/-- `_finish_change`, the change being stored. The write and the reboot command are one step, as
nothing is awaited between them; the command may fail. -/
def finishChange (state : RadioWifiState K) (raw : Option Bool) (required reboot : Bool)
    (rebootFails : Option CliFailure) : Cli K Unit :=
  if required && reboot then do
    update fun s => { s with owed := rebootFails.isSome }.writeCache { state with rebootPending := false } raw
    match rebootFails with
    | none => pure ()
    | some failure => raise (.exchange failure)
  else
    update fun s => { s with owed := s.owed || required }.writeCache
      { state with rebootPending := state.rebootPending || required } raw

/-- `_note_store_incomplete` -/
def noteStoreIncomplete (publicKey : K) (ssid : Text) : Cli K Unit :=
  update fun s =>
    match s.entry with
    | none => s
    | some entry => s.writeCache
        (WifiPrompt.incompleteState entry.state ssid (s.promptEntry (some publicKey)))
        entry.rawPasswordStored

/-- `apply_wifi_credentials`; an open network has no password. -/
def applyWifiCredentials (publicKey : K) (ssid password : Text) (reboot : Bool)
    (rebootFails : Option CliFailure) (now : Int) : Cli K Unit := do
  let inSession := fun (program : WifiCredentials.Cli Text) =>
    onPanel (within Panel.session (fun panel session => { panel with session }) program)
  let ssid ← inSession (validateWifiSsid ssid)
  let password ← inSession (validateWifiPassword password)
  requireWifi
  let enabled ← wifiEnabled
  let (connected, ip) ← wifiLinkStatus
  let openRecord ← inspect fun s => (s.promptEntry (some publicKey)).openNetworkSsid
  let openNetwork := decide (password = [])
  let outcome ← recover (onPanel (storeWithMarker (some publicKey) ssid password openNetwork now))
    fun failure => do
      if failure = .wifiStorePartial then noteStoreIncomplete publicKey ssid
      raise failure
  let raw := some !openNetwork
  let entry ← inspect (·.promptEntry (some publicKey))
  let rebootPending ← inspect Wifi.pending
  let state := composeState entry (some publicKey) ⟨some ssid, enabled, connected, ip, raw, rebootPending⟩ now
  finishChange state raw (wifiRebootRequired outcome connected openRecord openNetwork) reboot rebootFails

/-- `set_wifi_enabled`; a change that is carried out without an answer is stored too. -/
def setWifiEnabled (enabled required : Bool) (fate : Fate) : Cli K Unit :=
  match fate with
  | .answered => update fun s => { s with enabled }
  | .lost => do
    update fun s => { s with
      enabled
      owed := s.owed || required }
    raise (.exchange .timeout)
  | .refused failure => raise (.exchange failure)

def applyWifiEnabled (publicKey : K) (enabled reboot : Bool) (setFate : Fate)
    (rebootFails : Option CliFailure) (now : Int) : Cli K Unit := do
  requireWifi
  let ssid ← wifiSsid
  let wasEnabled ← wifiEnabled
  let (connected, ip) ← wifiLinkStatus
  let required := wasEnabled != enabled && ssid.isSome
  setWifiEnabled enabled required setFate
  let raw ← inspect fun s => s.entry.bind (·.rawPasswordStored)
  let entry ← inspect (·.promptEntry (some publicKey))
  let rebootPending ← inspect Wifi.pending
  let state := composeState entry (some publicKey) ⟨ssid, enabled, connected, ip, raw, rebootPending⟩ now
  finishChange state raw required reboot rebootFails

/-- `_merge_link_status` -/
def Wifi.mergeLinkStatus (s : Wifi K) (connected : Bool) (ip : Option Text) : Wifi K :=
  match s.entry with
  | none => s
  | some entry =>
    if entry.state.connected = some connected ∧ entry.state.ip = ip then s
    else
      let state := { entry.state with
        connected := some connected
        ip }
      { s with
        entry := some { entry with state }
        written := ⟨state, s.owed⟩ :: s.written }

/-- One re-check of the link. -/
def recheckLink : Cli K Unit := do
  let (connected, ip) ← wifiLinkStatus
  update (·.mergeLinkStatus connected ip)

inductive Operation (K : Type) where
  | credentials (publicKey : K) (ssid password : Text) (reboot : Bool) (rebootFails : Option CliFailure)
  | setEnabled (publicKey : K) (enabled reboot : Bool) (setFate : Fate) (rebootFails : Option CliFailure)
  | fullCheck (nextRetryAt : Option Int)
  | refresh
  | afterRestore (credentialsStored : Option Bool) (rebootPending : Bool)
  | storeIncomplete (publicKey : K) (ssid : Text)
  | linkRecheck
  /-- `reboot_for_wifi_config`, or its command fails. -/
  | rebootForWifiConfig (fails : Bool)

/-- A call, with its time and what comes back at each of its exchanges. -/
structure Call (K : Type) where
  operation : Operation K
  now : Int
  replies : Nat → Reply

def Operation.program (now : Int) : Operation K → Cli K Unit
  | .credentials publicKey ssid password reboot rebootFails =>
    applyWifiCredentials publicKey ssid password reboot rebootFails now
  | .setEnabled publicKey enabled reboot setFate rebootFails =>
    applyWifiEnabled publicKey enabled reboot setFate rebootFails now
  | .fullCheck nextRetryAt => runFullWifiCheck nextRetryAt now
  | .refresh => refreshWifiState now
  | .afterRestore credentialsStored rebootPending => refreshAfterRestore credentialsStored rebootPending now
  | .storeIncomplete publicKey ssid => noteStoreIncomplete publicKey ssid
  | .linkRecheck => recheckLink
  | .rebootForWifiConfig fails => update fun s => { s with owed := s.owed && fails }

/-- One call, from its start to its end. -/
def step (s : Wifi K) (call : Call K) : Option (Wifi K) :=
  some (call.operation.program call.now ⟨s, call.replies, 0⟩).2.state

/-- The start of a connection. -/
def start (panel : Panel K) (enabled : Bool) (connectedKey : Option K) (dismissedKeys : List K)
    (restoreJobRunning : Bool) : Wifi K :=
  ⟨panel, enabled, connectedKey, dismissedKeys, restoreJobRunning, none, false, []⟩

end Meshloom.WifiReboot
