import Mathlib
import Meshloom.Exchange

/-! The Wi-Fi credentials that the companion CLI stores in the radio, verified and with
rollback (`app/services/companion_cli.py`). Every command of the exchange may be carried out and
answered, carried out without its answer coming back, or refused, and the task may be cancelled
while it waits. The parts of the replies that nothing is read from are left out. -/
namespace Meshloom.WifiCredentials
open Exchange Program

abbrev Text := List Char

/-- What the radio holds. -/
structure Radio where
  ssid : Option Text
  password : Text
  deriving DecidableEq, Repr

/-- What `set wifi.clear` leaves. -/
def cleared : Radio := ⟨none, []⟩

def wifiSsidMaxBytes : Nat := 32
def wifiPasswordMaxBytes : Nat := 63

/-- `NOT_SET_SSID`, the answer when there is none. -/
def notSetSsid : Text := ['(', 'n', 'o', 't', ' ', 's', 'e', 't', ')']

/-- The errors of one exchange. -/
inductive CliFailure where
  | timeout
  | rejected
  | unknownCommand
  | unexpectedReply
  | unsupported
  | command
  | lock
  deriving DecidableEq, Repr

inductive Failure where
  | exchange (failure : CliFailure)
  | wifiSsidLength
  | wifiSsidControlCharacter
  | wifiSsidReserved
  | wifiPasswordLength
  | wifiPasswordControlCharacter
  | wifiStoreMismatch
  | wifiStoreUnverified
  | wifiStorePartial
  /-- `asyncio.CancelledError` -/
  | cancelled
  deriving DecidableEq, Repr

/-- What becomes of one command. -/
inductive Outcome where
  | answered
  /-- It is carried out, and the reply does not come in time. -/
  | lost
  /-- It is not carried out; that may also look like a timeout. -/
  | refused (failure : CliFailure)
  | cancelled (applied : Bool)
  deriving DecidableEq, Repr

structure Session where
  radio : Radio
  /-- The number of `set` commands so far. -/
  sets : Nat
  deriving DecidableEq, Repr

abbrev Cli := Program Session Outcome Failure

def get (answer : Radio → Text) : Cli Text :=
  exchange fun outcome session =>
    match outcome with
    | .answered => (.ok (answer session.radio), session)
    | .lost => (.error (.exchange .timeout), session)
    | .refused failure => (.error (.exchange failure), session)
    | .cancelled _ => (.error .cancelled, session)

/-- `_set_checked`, with what the command does. -/
def setChecked (change : Radio → Radio) : Cli Unit :=
  exchange fun outcome session =>
    let tried : Session := { session with sets := session.sets + 1 }
    let applied : Session := { tried with radio := change session.radio }
    match outcome with
    | .answered => (.ok (), applied)
    | .lost => (.error (.exchange .timeout), applied)
    | .refused failure => (.error (.exchange failure), tried)
    | .cancelled done => (.error .cancelled, if done then applied else tried)

def setSsid (ssid : Text) : Cli Unit := setChecked fun radio => { radio with ssid := some ssid }

def setPwd (password : Text) : Cli Unit := setChecked fun radio => { radio with password }

/-- The length in UTF-8. -/
def byteLength (value : Text) : Nat := (value.map Char.utf8Size).sum

/-- The category `Cc`. -/
def hasControlCharacters (value : Text) : Bool :=
  value.any fun c => decide (c.toNat < 0x20) || (decide (0x7F ≤ c.toNat) && decide (c.toNat ≤ 0x9F))

def validateWifiSsid (ssid : Text) : Cli Text :=
  if byteLength ssid < 1 ∨ byteLength ssid > wifiSsidMaxBytes then raise .wifiSsidLength
  else if hasControlCharacters ssid then raise .wifiSsidControlCharacter
  else if ssid = notSetSsid then raise .wifiSsidReserved
  else pure ssid

def validateWifiPassword (password : Text) : Cli Text :=
  if byteLength password > wifiPasswordMaxBytes then raise .wifiPasswordLength
  else if hasControlCharacters password then raise .wifiPasswordControlCharacter
  else pure password

/-- The SSID as the radio answers it. -/
def ssidText (radio : Radio) : Text := radio.ssid.getD notSetSsid

/-- The SSID as it is read; none when the radio says so. -/
def readSsid (value : Text) : Option Text := if value = notSetSsid then none else some value

def wifiSsid : Cli (Option Text) := do
  let value ← get ssidText
  return readSsid value

def wifiStoredPassword : Cli Text := get Radio.password

structure WifiStoreOutcome where
  previousSsid : Option Text
  previouslyStored : Bool
  ssidChanged : Bool
  passwordChanged : Bool
  deriving DecidableEq, Repr

def rollbackWifi (previousSsid : Option Text) (previousPwd : Text) : Cli Unit :=
  match previousSsid, previousPwd with
  | some ssid, c :: rest => do
    setSsid ssid
    setPwd (c :: rest)
  | _, _ => setChecked fun _ => cleared

/-- The body of the `try`: both are set and read back. -/
def setAndVerify (ssid newPwd : Text) : Cli Unit := do
  setSsid ssid
  recover (setPwd newPwd) fun failure =>
    if failure = .exchange .timeout then setPwd newPwd else raise failure
  let storedSsid ← wifiSsid
  let storedPwd ← wifiStoredPassword
  if storedSsid = some ssid ∧ storedPwd = newPwd then pure () else raise .wifiStoreMismatch

def storeWifiCredentials (ssid password : Text) : Cli WifiStoreOutcome := do
  let ssid ← validateWifiSsid ssid
  let newPwd ← validateWifiPassword password
  let previousSsid ← wifiSsid
  let previousPwd ← wifiStoredPassword
  let outcome : WifiStoreOutcome :=
    ⟨previousSsid, previousPwd ≠ [], previousSsid ≠ some ssid, previousPwd ≠ newPwd⟩
  recover (setAndVerify ssid newPwd) fun failure =>
    if failure = .cancelled then raise failure
    else do
      recover (rollbackWifi previousSsid previousPwd) fun failure =>
        if failure = .cancelled then raise failure else raise .wifiStorePartial
      raise .wifiStoreUnverified
  return outcome

end Meshloom.WifiCredentials
