import Meshloom.Transition
import Meshloom.Text

/-! Whether Community waits for a position of the radio (`app/services/observer_position.py`,
`note_radio_position` and `_apply_position_state` of `app/services/meshloom_community.py`). Every
`self_info` is noted, with ingest allowed; the binds, all under the update lock, and the automatic
one's worker go on from one await to the next in any order. -/
namespace Meshloom.RadioPosition
open Text Transition

/-- A value of `self_info`. -/
inductive Value where
  | missing
  | bool (b : Bool)
  | int (n : Int)
  /-- None for one that is not finite. -/
  | float (x : Option Rat)
  | text (s : String)
  deriving DecidableEq

structure SelfInfo where
  advLat : Value
  advLon : Value
  advLocPolicy : Value
  publicKey : Value
  deriving DecidableEq

def advertLocationBroadcast (info : SelfInfo) : Bool :=
  match info.advLocPolicy with
  | .int policy => policy != 0
  | _ => false

inductive PositionPrecision where
  | exact
  | rounded
  deriving DecidableEq

def roundedDecimals : Nat := 2
def exactDecimals : Nat := 6

structure PublishablePosition where
  lat : Rat
  lon : Rat
  precision : PositionPrecision
  deriving DecidableEq

def isValidMapLocation (lat lon : Rat) : Bool :=
  !(lat < -90 || 90 < lat || lon < -180 || 180 < lon) && !(lat == 0 && lon == 0)

/-- `_finite` -/
def finite : Value → Option Rat
  | .int n => some n
  | .float x => x
  | _ => none

section
-- The language's `round` to some decimals; nothing depends on how it rounds.
variable (round : Rat → Nat → Rat)

def publishablePosition (info : SelfInfo) : Option PublishablePosition :=
  match finite info.advLat, finite info.advLon with
  | some lat, some lon =>
      if isValidMapLocation lat lon then
        let precision := if advertLocationBroadcast info then .exact else .rounded
        let decimals := match precision with
          | .exact => exactDecimals
          | .rounded => roundedDecimals
        let position : PublishablePosition := ⟨round lat decimals, round lon decimals, precision⟩
        if isValidMapLocation position.lat position.lon then some position else none
      else none
  | _, _ => none

/-- A radio's public key and the position that was bound with it. -/
abbrev BoundKey := String × Option PublishablePosition

def boundKey (info : SelfInfo) : BoundKey :=
  let pubkey :=
    match info.publicKey with
    | .text raw => lower (String.ofList (strip raw.toList))
    | _ => ""
  (pubkey, publishablePosition round info)

inductive Kind where
  | join
  | change
  | rebind
  deriving DecidableEq

/-- A bind that holds the update lock. -/
inductive Bind where
  /-- `PUT /v1/me/iata` is out, built from this `self_info`. -/
  | asking (kind : Kind) (iata : String) (info : Option SelfInfo)
  /-- The answer came; the settings are being saved. -/
  | saving (kind : Kind) (iata : String)

/-- `_rebind_worker` -/
inductive Worker where
  /-- It sleeps, for a retry or not, after so many failures. -/
  | sleeping (retryWait : Bool) (failures : Nat)
  /-- It wants the update lock, or its bind is out. -/
  | binding (failures : Nat)

/-- A pending `_apply_position_state`. -/
inductive Apply where
  | spawned
  /-- It saves the state. -/
  | saving
  /-- It waits for the update lock and brings the connections in line. -/
  | aligning
  deriving DecidableEq

structure State where
  /-- The radio's last `self_info`. -/
  info : Option SelfInfo
  positionMissing : Bool
  lastBound : Option BoundKey
  enabled : Bool
  iata : String
  /-- The waiting state in the database. -/
  storedWaiting : Bool
  bind : Option Bind
  worker : Option Worker
  applies : List Apply

inductive Event where
  | selfInfo (info : SelfInfo)
  /-- A user's bind gets the lock. -/
  | bindStarts (kind : Kind) (iata : String)
  /-- The debounce or a retry delay of the worker is over. -/
  | workerWakes
  /-- The worker has the lock. -/
  | rebindStarts
  | answered (iata : String)
  /-- The request fails, with a refusal (403) or else, or is cancelled. -/
  | bindFails (refused : Bool)
  | saved (ok : Bool)
  | optOut
  | saves (i : Nat)
  | saveDone (i : Nat)
  | aligned (i : Nat)

def setPositionMissing (s : State) (missing : Bool) : State :=
  if missing = s.positionMissing then s
  else { s with positionMissing := missing, applies := s.applies ++ [.spawned] }

def positionAlreadyBound (s : State) (info : SelfInfo) : Bool :=
  (publishablePosition round info).isSome && decide (s.lastBound = some (boundKey round info))

def noteRadioPosition (s : State) (info : SelfInfo) : State :=
  if publishablePosition round info = none then setPositionMissing s true
  else if s.positionMissing && positionAlreadyBound round s info then setPositionMissing s false
  else s

/-- The event handler of a `SELF_INFO`: the radio's own is this one by then. -/
def noteRadioSelfInfo (s : State) (info : SelfInfo) : State :=
  let s := noteRadioPosition round { s with info := some info } info
  if s.lastBound = some (boundKey round info) then s
  else
    match s.worker with
    | some (.binding _) | some (.sleeping false _) => s
    | some (.sleeping true _) | none => { s with worker := some (.sleeping false 0) }

/-- `_rebind_still_needed`, and `_rebind_once` before it asks for the lock. -/
def rebindStillNeeded (s : State) : Bool :=
  match s.info with
  | none => false
  | some info => decide (s.lastBound ≠ some (boundKey round info))

/-- The bind is answered: what `put_iata_bind` notes. -/
def noteBound (s : State) (info : Option SelfInfo) : State :=
  let s := { s with lastBound := some ((info.map (boundKey round)).getD ("", none)) }
  if (info.bind (publishablePosition round)).isSome then setPositionMissing s false else s

def retryDelays : Nat := 3

inductive RebindOutcome where
  | sent
  | skipped
  | failed

/-- The worker after its bind. -/
def workerAfter (s : State) (failures : Nat) : RebindOutcome → Option Worker
  | .sent => some (.sleeping false 0)
  | .skipped => none
  | .failed =>
      if failures < retryDelays then some (.sleeping true (failures + 1))
      else if s.positionMissing then some (.sleeping true failures)
      else none

/-- `put_iata_bind` has ended; the worker goes on where the bind was its own. -/
def endBind (s : State) (kind : Kind) (outcome : RebindOutcome) : State :=
  match kind, s.worker with
  | .rebind, some (.binding failures) =>
      { s with bind := none, worker := workerAfter s failures outcome }
  | _, _ => { s with bind := none }

def answer (s : State) (iata : String) : Option State :=
  match s.bind with
  | some (.asking kind _ info) =>
      let s := noteBound round s info
      match kind with
      | .rebind => some (endBind s kind .sent)
      | .join | .change => some { s with bind := some (.saving kind iata) }
  | _ => none

def step (s : State) : Event → Option State
  | .selfInfo info => some (noteRadioSelfInfo round s info)
  | .bindStarts kind iata =>
      match s.bind, kind, s.enabled with
      | none, .join, false | none, .change, true => some { s with bind := some (.asking kind iata s.info) }
      | _, _, _ => none
  | .workerWakes =>
      match s.worker with
      | some (.sleeping _ failures) =>
          some { s with
            worker := if rebindStillNeeded round s then some (.binding failures) else none }
      | _ => none
  | .rebindStarts =>
      match s.bind, s.worker with
      | none, some (.binding _) =>
          if s.enabled && s.iata != "" && rebindStillNeeded round s then
            some { s with bind := some (.asking .rebind s.iata s.info) }
          else some { s with worker := none }
      | _, _ => none
  | .answered iata => answer round s iata
  | .bindFails refused =>
      match s.bind with
      | some (.asking kind _ _) => some (endBind s kind (if refused then .skipped else .failed))
      | _ => none
  | .saved ok =>
      match s.bind with
      | some (.saving _ iata) =>
          some (if ok then { s with bind := none, enabled := true, iata } else { s with bind := none })
      | _ => none
  | .optOut =>
      match s.bind with
      | none => some { s with enabled := false, lastBound := none }
      | some _ => none
  | .saves i =>
      -- The writes take effect in the order of the calls.
      match s.applies[i]? with
      | some .spawned =>
          some { s with storedWaiting := s.positionMissing, applies := s.applies.set i .saving }
      | _ => none
  | .saveDone i =>
      match s.applies[i]? with
      | some .saving => some { s with applies := s.applies.set i .aligning }
      | _ => none
  | .aligned i =>
      match s.applies[i]? with
      | some .aligning => some { s with applies := s.applies.eraseIdx i }
      | _ => none

/-- After `load_position_state`, with no radio yet. -/
def start (enabled : Bool) (iata : String) (waiting : Bool) : State where
  info := none
  positionMissing := waiting
  lastBound := none
  enabled
  iata
  storedWaiting := waiting
  bind := none
  worker := none
  applies := []

def State.bindInFlight (s : State) : Bool :=
  match s.bind with
  | some (.asking _ _ _) => true
  | _ => false

/-- Community waits while the radio has no publishable position, and the database agrees once
nothing is left to save. -/
structure FollowsRadio (s : State) : Prop where
  waits : s.enabled = true → s.bindInFlight = false →
    ∀ info, s.info = some info → publishablePosition round info = none → s.positionMissing = true
  stored : s.applies = [] → s.storedWaiting = s.positionMissing

/-- A bind that carried a position is answered while the radio still has one. -/
def StillPlaced (s : State) : Event → Prop
  | .answered _ =>
      match s.bind with
      | some (.asking _ _ info) => (info.bind (publishablePosition round)).isSome = true →
          ∀ current ∈ s.info, publishablePosition round current ≠ none
      | _ => True
  | _ => True

instance (s : State) (e : Event) : Decidable (StillPlaced round s e) := by
  unfold StillPlaced
  split
  · split <;> infer_instance
  · infer_instance

end

end Meshloom.RadioPosition
