import Meshloom.Text

/-! What the server knows of the latest release (`app/services/oss_updates.py`): the cached
answer of Community, the hold that it can put on automatic updates, and the status that is
read from both. Links, texts of a hold and its log line decide nothing and are left out. -/
namespace Meshloom.OssUpdates

/-- What the `packaging` library and `str.isdigit` say. -/
structure Versions (V : Type) where
  /-- `Version(text)`; `none` for `InvalidVersion`. -/
  version : List Char → Option V
  lt : V → V → Bool
  /-- `_release`, the version of its own `base_version`. -/
  release : V → V
  major : V → Nat
  isDigit : Char → Bool

/-- The value of `auto_update_hold`; no `below` when there is no string to read. -/
structure Hold where
  below : Option (List Char)
  deriving DecidableEq, Repr

/-- What Community answers; no version when it is not a string. -/
structure Payload where
  version : Option (List Char)
  autoUpdateHold : Option Hold
  deriving DecidableEq, Repr

/-- `X.Y.Z`, at most with `-rc.N`. -/
structure ReleaseVersion where
  major : Nat
  minor : Nat
  patch : Nat
  rc : Option Nat
  deriving DecidableEq, Repr

def releaseVersionMaxChars : Nat := 32

def digitValue (digits : List Char) : Nat :=
  digits.foldl (fun value digit => 10 * value + (digit.toNat - '0'.toNat)) 0

/-- `0|[1-9][0-9]*` of the expression, and what is left of the text. -/
def component (text : List Char) : Option (Nat × List Char) :=
  match text.span Char.isDigit with
  | ([], _) => none
  | (['0'], rest) => some (0, rest)
  | ('0' :: _, _) => none
  | (digits, rest) => some (digitValue digits, rest)

def literal (start text : List Char) : Option (List Char) :=
  if start.isPrefixOf text then some (text.drop start.length) else none

/-- `_RELEASE_VERSION_RE`, on the whole text. -/
def releaseVersion (text : List Char) : Option ReleaseVersion := do
  let (major, text) ← component text
  let (minor, text) ← component (← literal ['.'] text)
  let (patch, text) ← component (← literal ['.'] text)
  match text with
  | [] => some ⟨major, minor, patch, none⟩
  | text =>
    let (rc, text) ← component (← literal ['-', 'r', 'c', '.'] text)
    if text = [] then some ⟨major, minor, patch, some rc⟩ else none

section
variable {V : Type} (v : Versions V)

def parseReleaseVersion (value : Option (List Char)) : Option V :=
  match value with
  | none => none
  | some text =>
    if text.length > releaseVersionMaxChars ∨ releaseVersion text = none then none
    else v.version text

def stripLeadingV (raw : List Char) : List Char :=
  match Text.strip raw with
  | first :: second :: rest =>
    if (first = 'v' ∨ first = 'V') ∧ v.isDigit second then second :: rest
    else first :: second :: rest
  | text => text

def isUnknownLocalVersion (version : List Char) : Bool :=
  stripLeadingV v version = ['0', '.', '0', '.', '0']

def isNewerRelease (latest current : List Char) : Bool :=
  match v.version (stripLeadingV v latest), v.version (stripLeadingV v current) with
  | some latest, some current => v.lt current latest
  | _, _ => false

def payloadVersion (payload : Option Payload) : Option (List Char) :=
  match payload with
  | none => none
  | some payload =>
    if (parseReleaseVersion v payload.version).isSome then payload.version else none

/-- An answer without a version counts as no answer. -/
def fetchLatestRelease (answer : Option Payload) : Option Payload :=
  if (payloadVersion v answer).isSome then answer else none

/-- Whether the hold stops an automatic update from `current` to `latest`. A hold that cannot
be read stops any that crosses a major version. -/
def resolveHold (payload : Option Payload) (current latest : List Char) : Bool :=
  match payload.bind (·.autoUpdateHold) with
  | none => false
  | some hold =>
    match v.version (stripLeadingV v current), v.version (stripLeadingV v latest) with
    | some current, some latest =>
      match parseReleaseVersion v hold.below with
      | none => v.major current < v.major latest
      | some below =>
        v.lt (v.release current) (v.release below) && !v.lt (v.release latest) (v.release below)
    | _, _ => false

/-- What does not change while the server runs. -/
structure Build where
  /-- `get_app_build_info().version` -/
  current : List Char
  /-- `MESHLOOM_UPDATE_LATEST`, the pin of the operator. -/
  envLatest : Option (List Char)
  deriving DecidableEq, Repr

/-- The cache. -/
structure Cache where
  latestPayload : Option Payload
  checkedAt : Option Int
  lastCheckFailed : Bool
  deriving DecidableEq, Repr

structure Status where
  latest : Option (List Char)
  updateAvailable : Bool
  checkedAt : Option Int
  autoUpdateHeld : Bool
  checkStale : Bool
  deriving DecidableEq, Repr

variable (build : Build) (cache : Cache)

def latest : Option (List Char) := build.envLatest.or (payloadVersion v cache.latestPayload)

def updateAvailable (latest : Option (List Char)) : Bool :=
  match latest with
  | none => false
  | some latest => !isUnknownLocalVersion v build.current && isNewerRelease v latest build.current

/-- The hold of the payload, for the release that the status names. -/
def held : Bool :=
  match latest v build cache with
  | none => false
  | some latest => resolveHold v cache.latestPayload build.current latest

def checkStale : Bool := cache.lastCheckFailed && build.envLatest.isNone

def getUpdateStatus : Status :=
  let latest := latest v build cache
  let available := updateAvailable v build latest
  ⟨latest, available, cache.checkedAt, available && held v build cache, checkStale build cache⟩

/-- `refresh_oss_update_cache` when the answer is there, up to the notification. -/
def answerCached (now : Int) (answer : Option Payload) : Cache :=
  match fetchLatestRelease v answer with
  | none => { cache with lastCheckFailed := true }
  | some payload => ⟨some payload, some now, false⟩

end

end Meshloom.OssUpdates
