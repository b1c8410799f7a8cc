import Meshloom.Text
import Meshloom.Exchange

/-! An IATA bind (`bind_community_iata` of `app/services/meshloom_community.py`) under the update
lock: the status is retired, Community is asked, the settings are written, and the publisher comes
back. Each step ends as the attempt says; a cancellation of the caller is held where
`_run_to_completion` runs a step. Reloads of the publisher succeed. -/
namespace Meshloom.IataBind
open Exchange Program Text

abbrev Code := List Char

section
variable (upper : UpperCase)

def isCode (code : Code) : Bool := code.length = 3 && code.all fun c => 'A' ≤ c && c ≤ 'Z'

def normalizeIata (raw : Code) : Code :=
  let code := strip (upper.apply raw)
  if isCode code then code else []

/-- The settings when a bind begins; the IATA is a code or empty. -/
structure Settings where
  enabled : Bool
  iata : Code
  normal : normalizeIata upper iata = iata

/-- `CommunityEffective` -/
structure Effective where
  enabled : Bool
  iata : Code
  deriving DecidableEq

/-- The publisher's module, with the IATA it was started for. How many settings writes came before
its start is a ghost. -/
structure Publisher where
  iata : Code
  writes : Nat
  deriving DecidableEq

structure State where
  enabled : Bool
  iata : Code
  publisher : Option Publisher
  /-- The settings writes, and what Community answered to the bind: ghosts. -/
  writes : Nat
  bound : Option Code

inductive RetireEnd where
  | done
  /-- After the publisher was stopped, or before. -/
  | raises (stopped : Bool)
  deriving DecidableEq

inductive BindEnd where
  | answered (iata : Code)
  | raises
  | cut
  deriving DecidableEq

inductive WriteEnd where
  | done
  /-- After the write was committed (the settings are read back), or before. -/
  | raises (committed : Bool)
  deriving DecidableEq

/-- How each step of a bind ends, and what the caller asks for. -/
structure Attempt where
  requested : Code
  enable : Bool
  firstRead : Bool
  retire : RetireEnd
  bind : BindEnd
  /-- Whether the settings are read before they are written. -/
  rowRead : Bool
  write : WriteEnd
  /-- Whether `_move_status_topic` can read them. -/
  moveRead : Bool
  /-- Whether they are read after the write. -/
  stateRead : Bool
  /-- Whether the Live relay follows without an error. -/
  live : Bool
  /-- Cancellations held during the retire, the update and the restore. -/
  retireCut : Bool
  updateCut : Bool
  restoreCut : Bool

inductive Exc where
  | http
  | error
  | cancelled
  deriving DecidableEq

abbrev Action := Program State Attempt Exc

/-- `get_community_effective` -/
def readEffective (ok : Attempt → Bool) : Action Effective :=
  exchange fun attempt s =>
    (if ok attempt then .ok ⟨s.enabled, normalizeIata upper s.iata⟩ else .error .error, s)

/-- `_reload_system_publisher` -/
def reload (s : State) : State :=
  { s with
    publisher := if s.enabled then some ⟨normalizeIata upper s.iata, s.writes⟩ else none }

/-- A step that ends in the held cancellation. -/
def held (cut : Attempt → Bool) : Action Unit :=
  exchange fun attempt s => (if cut attempt then .error .cancelled else .ok (), s)

def whenever (condition : Bool) (action : Action Unit) : Action Unit :=
  if condition then action else pure ()

/-- `_retire_status_and_reload` without a restart, run to completion. -/
def retireStatus : Action Unit := do
  exchange fun attempt s =>
    match attempt.retire with
    | .done => (.ok (), { s with publisher := none })
    | .raises stopped => (.error .error, if stopped then { s with publisher := none } else s)
  held Attempt.retireCut

/-- `_with_bind_state`; without a state the egress guard refuses the request. -/
def withBindState (bindState : Option Effective) : Action Code :=
  exchange fun attempt s =>
    match bindState, attempt.bind with
    | none, _ => (.error .http, s)
    | some _, .answered iata => (.ok iata, { s with bound := some iata })
    | some _, .raises => (.error .error, s)
    | some _, .cut => (.error .cancelled, s)

/-- `_restore_publisher`, run to completion. -/
def restorePublisher : Action Unit := do
  update fun s => if s.publisher.isSome then s else reload upper s
  held Attempt.restoreCut

def writeSettings (joining : Bool) (iata : Code) : Action Unit :=
  exchange fun attempt s =>
    let written : State :=
      { s with enabled := if joining then true else s.enabled, iata, writes := s.writes + 1 }
    match attempt.write with
    | .done => (.ok (), written)
    | .raises committed => (.error .error, if committed then written else s)

/-- Whether the topic moved, and the publisher was reloaded. A status that was not retired before is
retired here, which stops the publisher first. -/
def moveStatusTopic (before : Effective) (alreadyRetired : Bool) : Action Bool := do
  let state ← readEffective upper Attempt.moveRead
  if state.enabled && before.iata != [] && before.iata != state.iata then
    update fun s => reload upper (if alreadyRetired then s else { s with publisher := none })
    return true
  else return false

/-- What an update does once the settings are written and the topic may have moved. -/
def finishUpdate (topicMoved : Bool) : Action Unit := do
  let _ ← readEffective upper Attempt.stateRead
  whenever (!topicMoved) (update (reload upper))
  exchange fun attempt s => (if attempt.live then .ok () else .error .error, s)

/-- `_update_community_locked`, as a bind calls it. -/
def updateCommunityLocked (joining : Bool) (iata : Code) (statusRetired : Bool) : Action Unit := do
  let before ← readEffective upper Attempt.rowRead
  let normalized := normalizeIata upper iata
  if strip iata ≠ [] ∧ normalized = [] then raise .http
  else
    writeSettings joining normalized
    let topicMoved ←
      (if before.enabled then moveStatusTopic upper before statusRetired else pure false)
    finishUpdate upper topicMoved

/-- The publisher comes back when what it was stopped for fails. -/
def restoring (retireFirst : Bool) (program : Action Code) : Action Code :=
  recover program fun exc => do
    whenever retireFirst (restorePublisher upper)
    raise exc

/-- The status is retired, where it must be, and Community is asked. -/
def askCommunity (retireFirst : Bool) (bindState : Option Effective) : Action Code := do
  whenever retireFirst retireStatus
  withBindState bindState

/-- The answer of Community is saved, run to completion. -/
def saveAnswer (joining retireFirst : Bool) (iata : Code) : Action Code := do
  updateCommunityLocked upper joining iata retireFirst
  held Attempt.updateCut
  return iata

def bindCommunityIata (requested : Code) (enable : Bool) : Action Code := do
  let before ← readEffective upper Attempt.firstRead
  let target := normalizeIata upper requested
  let joining := enable && !before.enabled
  let retireFirst := before.enabled && before.iata != [] && target != before.iata
  let bindState := if joining || before.enabled then some { before with enabled := true } else none
  let result ← restoring upper retireFirst (askCommunity retireFirst bindState)
  restoring upper retireFirst (saveAnswer upper joining retireFirst result)

/-- The publisher runs where Community is on. -/
def start (settings : Settings upper) : State where
  enabled := settings.enabled
  iata := settings.iata
  publisher := if settings.enabled then some ⟨settings.iata, 0⟩ else none
  writes := 0
  bound := none

def run (settings : Settings upper) (attempt : Attempt) : Except Exc Code × State :=
  let (result, world) :=
    bindCommunityIata upper attempt.requested attempt.enable ⟨start upper settings, fun _ => attempt, 0⟩
  (result, world.state)

/-- A bind is all or nothing. -/
structure AllOrNothing (settings : Settings upper) (ended : State) : Prop where
  /-- A bind that did not succeed changes nothing; the publisher runs iff Community is on. -/
  nothing : ended.bound = none → ended.enabled = settings.enabled ∧ ended.iata = settings.iata ∧
    (ended.publisher.isSome = true ↔ ended.enabled = true)
  /-- Once the settings are written they are those of the answer, and the publisher was started
  after. -/
  all : ended.writes ≠ 0 → ended.enabled = true ∧
    (∃ iata ∈ ended.bound, ended.iata = normalizeIata upper iata) ∧
    ∃ publisher ∈ ended.publisher, publisher.writes = ended.writes
  /-- Community is never on without a publisher for its IATA. -/
  served : ended.enabled = true → ended.iata ≠ [] →
    ∃ publisher ∈ ended.publisher, publisher.iata = ended.iata

/-- The status is retired before the bind. -/
def retiresFirst (settings : Settings upper) (attempt : Attempt) : Bool :=
  settings.enabled && settings.iata != [] && normalizeIata upper attempt.requested != settings.iata

/-- The topic of a publisher moves. -/
def moves (before : Effective) (iata : Code) : Bool := before.iata != [] && before.iata != iata

/-- An error comes after a write and before the publisher is reloaded. -/
def breaks (before : Effective) (attempt : Attempt) (iata : Code) : Bool :=
  if before.enabled then !attempt.moveRead || !attempt.stateRead && !moves before iata
  else !attempt.stateRead

/-- What Community answered comes to its write. -/
def saves (attempt : Attempt) (iata : Code) : Bool :=
  attempt.rowRead && !(strip iata != [] && normalizeIata upper iata == [])

/-- An error comes between the write of what Community answered and the reload of the publisher. -/
def failsBetween (settings : Settings upper) (attempt : Attempt) (iata : Code) : Bool :=
  saves upper attempt iata &&
    match attempt.write with
    | .raises committed => committed
    | .done => breaks ⟨settings.enabled, settings.iata⟩ attempt (normalizeIata upper iata)

/-- Where the publisher was not stopped before the bind, no error comes between the write and its
reload. -/
def Unbroken (settings : Settings upper) (attempt : Attempt) : Prop :=
  attempt.firstRead = true → (attempt.enable || settings.enabled) = true →
    retiresFirst upper settings attempt = false →
      ∀ iata, attempt.bind = .answered iata → failsBetween upper settings attempt iata = false

end

end Meshloom.IataBind
