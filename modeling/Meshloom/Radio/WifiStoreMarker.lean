import Meshloom.Transition
import Meshloom.Radio.WifiCredentials
import Meshloom.Radio.WifiState

/-! The marker around a Wi-Fi store (`app/services/radio_wifi.py`), kept for each radio in the
column `wifi_prompt_state` (`app/repository/settings.py`). A write of the database succeeds, but
the task may be cancelled while it waits for it; then the write may or may not have been made. -/
namespace Meshloom.WifiStoreMarker
open Exchange Program WifiCredentials WifiState

/-- A radio behind its CLI session, the database column by public key, and the pairs of the
stores that were verified, which nothing reads. -/
structure Panel (K : Type) where
  session : Session
  promptState : Dict K PromptEntry
  verified : List Radio

variable {K : Type} [DecidableEq K]

/-- `_prompt_entry`. -/
def Panel.promptEntry (s : Panel K) (publicKey : K) : PromptEntry :=
  (s.promptState.get? publicKey).getD .empty

abbrev Service (K : Type) := Program (Panel K) Outcome Failure

/-- A transaction on the column. -/
def write (change : Dict K PromptEntry → Dict K PromptEntry) : Service K Unit :=
  exchange fun outcome s =>
    let written : Panel K := { s with promptState := change s.promptState }
    match outcome with
    | .cancelled done => (.error .cancelled, if done then written else s)
    | _ => (.ok (), written)

/-- A read of the database, which only a cancellation ends early. -/
def read : Service K Unit :=
  exchange fun outcome s =>
    match outcome with
    | .cancelled _ => (.error .cancelled, s)
    | _ => (.ok (), s)

def wifiPromptSet (publicKey : K) (fields : PromptEntry → PromptEntry) : Service K Unit :=
  write fun column => column.set publicKey (fields ((column.get? publicKey).getD .empty))

def wifiPromptRemove (publicKey : K) (names : PromptEntry → PromptEntry) : Service K Unit :=
  write fun column =>
    match column.get? publicKey with
    | none => column
    | some entry => column.set publicKey (names entry)

def markWifiStoreStarted (publicKey : K) (ssid : Text) (now : Int) : Service K Unit :=
  wifiPromptSet publicKey fun entry => { entry with
    storeStartedAt := some now
    storeTargetSsid := some ssid }

def clearWifiStoreMarker (publicKey : K) : Service K Unit :=
  wifiPromptRemove publicKey fun entry => { entry with
    storeStartedAt := none
    storeTargetSsid := none }

def markWifiOpenNetwork (publicKey : K) (ssid : Text) (now : Int) : Service K Unit :=
  wifiPromptSet publicKey fun entry => { entry with
    openNetworkSsid := some ssid
    openNetworkAt := some now }

def clearWifiOpenNetwork (publicKey : K) : Service K Unit :=
  wifiPromptRemove publicKey fun entry => { entry with
    openNetworkSsid := none
    openNetworkAt := none }

/-- The open-network record after a store: set for an open network, dropped for a password. -/
def recordOpenNetwork (publicKey : K) (ssid : Text) (openNetwork : Bool) (now : Int) :
    Service K Unit :=
  if openNetwork then markWifiOpenNetwork publicKey ssid now else clearWifiOpenNetwork publicKey

/-- `store_wifi_credentials` on the radio; a pair that it verified is noted. -/
def storeOnRadio (ssid password : Text) : Service K WifiStoreOutcome := do
  let outcome ← within Panel.session (fun s session => { s with session })
    (storeWifiCredentials ssid password)
  update fun s => { s with verified := ⟨some ssid, password⟩ :: s.verified }
  return outcome

/-- What the service does when a store fails. Of `_note_store_incomplete` only the suspension is
kept: it changes the cached state alone. -/
def storeFailed (publicKey : K) (failure : Failure) : Service K WifiStoreOutcome :=
  if failure = .cancelled then raise failure
  else if failure = .wifiStorePartial then do
    read
    raise failure
  else do
    clearWifiStoreMarker publicKey
    raise failure

def storeWithMarker (publicKey : Option K) (ssid password : Text) (openNetwork : Bool) (now : Int) :
    Service K WifiStoreOutcome :=
  match publicKey with
  | none => storeOnRadio ssid password
  | some publicKey => do
    markWifiStoreStarted publicKey ssid now
    let outcome ← recover (storeOnRadio ssid password) (storeFailed publicKey)
    clearWifiStoreMarker publicKey
    recordOpenNetwork publicKey ssid openNetwork now
    return outcome

/-- A call of `_store_with_marker`, with what becomes of each of its exchanges. -/
structure StoreCall where
  ssid : Text
  password : Text
  openNetwork : Bool
  now : Int
  outcomes : Nat → Outcome

/-- One call for the radio, from its start to its end. -/
def step (publicKey : K) (s : Panel K) (call : StoreCall) : Option (Panel K) :=
  some (storeWithMarker (some publicKey) call.ssid call.password call.openNetwork call.now
    ⟨s, call.outcomes, 0⟩).2.state

end Meshloom.WifiStoreMarker
