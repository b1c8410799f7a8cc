import Meshloom.Dict
import Meshloom.Text

/-! The Wi-Fi state of a radio (`RadioWifiState` in `app/models.py`), what `wifi_prompt_state`
keeps of a radio, and the states that `app/services/radio_wifi.py` makes of a reading. -/
namespace Meshloom.WifiState

/-- The object of one radio in `wifi_prompt_state`. -/
structure PromptEntry where
  dismissedAt : Option Int
  openNetworkSsid : Option (List Char)
  openNetworkAt : Option Int
  storeStartedAt : Option Int
  storeTargetSsid : Option (List Char)
  deriving DecidableEq, Repr

def PromptEntry.empty : PromptEntry := ⟨none, none, none, none, none⟩

inductive Check where
  | pending
  | done
  | failed
  deriving DecidableEq, Repr

inductive CheckError where
  | probeFailed
  | cliTimeout
  | cliError
  deriving DecidableEq, Repr

inductive UnsupportedReason where
  | noCli
  | noWifi
  deriving DecidableEq, Repr

structure RadioWifiState (K : Type) where
  check : Check := .pending
  checkError : Option CheckError := none
  nextRetryAt : Option Int := none
  supported : Option Bool := none
  unsupportedReason : Option UnsupportedReason := none
  ssid : Option (List Char) := none
  enabled : Option Bool := none
  connected : Option Bool := none
  ip : Option (List Char) := none
  tcpPort : Nat := 5000
  credentialsStored : Option Bool := none
  openNetwork : Bool := false
  promptNeeded : Bool := false
  rebootPending : Bool := false
  storeIncomplete : Bool := false
  storeTargetSsid : Option (List Char) := none
  radioPublicKey : Option K := none
  checkedAt : Option Int := none
  deriving DecidableEq, Repr

/-- `WIFI_DEFAULT_TCP_PORT` -/
def wifiDefaultTcpPort : Nat := 5000

/-- What a session reads from the radio before it composes a state. -/
structure Reading where
  ssid : Option (List Char)
  enabled : Bool
  connected : Bool
  ip : Option (List Char)
  rawPasswordStored : Option Bool
  rebootPending : Bool
  deriving DecidableEq, Repr

variable {K : Type}

/-- `_compose_state`, from the entry that it reads for the radio. -/
def composeState (entry : PromptEntry) (publicKey : Option K) (reading : Reading) (now : Int) :
    RadioWifiState K :=
  let storeIncomplete := entry.storeStartedAt.isSome
  let recordedOpen := reading.rawPasswordStored = some false ∧ entry.openNetworkSsid.isSome ∧
    entry.openNetworkSsid = reading.ssid
  let credentialsStored :=
    if storeIncomplete then some false
    else if recordedOpen then some true
    else reading.rawPasswordStored
  let dismissed := entry.dismissedAt.isSome
  { check := .done
    supported := some true
    ssid := reading.ssid
    enabled := some reading.enabled
    connected := some reading.connected
    ip := reading.ip
    tcpPort := wifiDefaultTcpPort
    credentialsStored
    openNetwork := !storeIncomplete && decide recordedOpen
    promptNeeded := reading.enabled && reading.ssid.isSome && credentialsStored.isSome &&
      (credentialsStored = some false || storeIncomplete) && !dismissed
    rebootPending := reading.rebootPending
    storeIncomplete
    storeTargetSsid := if storeIncomplete then entry.storeTargetSsid else none
    radioPublicKey := publicKey
    checkedAt := some now }

def unsupportedState (reason : UnsupportedReason) (publicKey : Option K) (now : Int) :
    RadioWifiState K :=
  { check := .done
    supported := some false
    unsupportedReason := some reason
    radioPublicKey := publicKey
    checkedAt := some now }

def failedState (error : CheckError) (publicKey : Option K) (nextRetryAt : Option Int)
    (now : Int) : RadioWifiState K :=
  { check := .failed
    checkError := some error
    nextRetryAt
    radioPublicKey := publicKey
    checkedAt := some now }

/-- Stored credentials are only reported without the marker of a store. -/
theorem composeState_stored {entry : PromptEntry} {publicKey : Option K} {reading : Reading}
    {now : Int} (reported : (composeState entry publicKey reading now).credentialsStored =
      some true) : entry.storeStartedAt = none := by
  cases started : entry.storeStartedAt with
  | none => rfl
  | some at_ =>
      simp only [composeState, started] at reported
      cases reported

/-- A dismissed radio is not asked for. -/
theorem composeState_dismissed {entry : PromptEntry} (dismissed : entry.dismissedAt.isSome = true)
    (publicKey : Option K) (reading : Reading) (now : Int) :
    (composeState entry publicKey reading now).promptNeeded = false := by
  simp only [composeState, dismissed, Bool.not_true, Bool.and_false]

end Meshloom.WifiState
