import Meshloom.Packet.RouteEditor

/-! The resolved path of a message (`frontend/src/utils/pathUtils.ts`): the contacts that may
be the hops, the distance of each from the hop before it, and the total distance. A distance
is what the formula of `calculateDistance` makes of two points. -/
namespace Meshloom.PathDistance
open Frontend

/-- The latitude and longitude of a place. -/
abbrev Point := ℚ × ℚ

/-- The fields of a contact that a path reads. -/
structure Contact where
  publicKey : List Char
  type : Nat
  lat : Option ℚ
  lon : Option ℚ
  deriving DecidableEq, Repr

/-- `CONTACT_TYPE_REPEATER`. -/
def contactTypeRepeater : Nat := 2

/-- An end of a path. -/
structure Endpoint where
  lat : Option ℚ
  lon : Option ℚ
  deriving DecidableEq, Repr

structure PathHop (M : Type) where
  hopPrefix : List Char
  hopMatches : List Contact
  distanceFromPrev : Option M
  deriving DecidableEq, Repr

structure ResolvedPath (M : Type) where
  sender : Endpoint
  hops : List (PathHop M)
  receiver : Endpoint
  totalDistances : Option (List M)
  hasGaps : Bool
  deriving DecidableEq, Repr

def isValidLocation (lat lon : Option ℚ) : Bool :=
  match lat, lon with
  | some lat, some lon =>
    if lat < -90 ∨ lat > 90 ∨ lon < -180 ∨ lon > 180 then false
    else if lat = 0 ∧ lon = 0 then false
    else true
  | _, _ => false

def findContactsByPrefix (hopPrefix : List Char) (contacts : List Contact) (repeatersOnly : Bool) :
    List Contact :=
  contacts.filter fun c =>
    if repeatersOnly && c.type ≠ contactTypeRepeater then false
    else (toUpperCase hopPrefix).isPrefixOf (toUpperCase c.publicKey)

section
variable {M : Type} [AddMonoid M] [LinearOrder M] (d : Point → Point → M)

def calculateDistance (lat1 lon1 lat2 lon2 : Option ℚ) : Option M :=
  match lat1, lon1, lat2, lon2 with
  | some lat1, some lon1, some lat2, some lon2 => some (d (lat1, lon1) (lat2, lon2))
  | _, _, _, _ => none

/-- The comparison of `sortContactsByDistance`: without a distance to the end. -/
def nearer : Option M → Option M → Bool
  | some a, some b => a ≤ b
  | none, some _ => false
  | _, none => true

def sortContactsByDistance (contacts : List Contact) (fromLat fromLon : Option ℚ) : List Contact :=
  if fromLat = none ∨ fromLon = none then contacts
  else contacts.mergeSort fun a b =>
    nearer (calculateDistance d fromLat fromLon a.lat a.lon)
      (calculateDistance d fromLat fromLon b.lat b.lon)

/-- The one match of a hop, when it has a valid location. -/
def soleLocated : List Contact → Option Contact
  | [c] => if isValidLocation c.lat c.lon then some c else none
  | _ => none

/-- The variables of the loop that builds the hops. -/
structure Previous where
  prevLat : Option ℚ
  prevLon : Option ℚ
  prevHopUncertain : Bool
  deriving DecidableEq, Repr

/-- What a hop leaves for the next one. -/
def Previous.next (sortedMatches : List Contact) : Previous :=
  match sortedMatches with
  | [] => ⟨none, none, true⟩
  | [c] => if isValidLocation c.lat c.lon then ⟨c.lat, c.lon, false⟩ else ⟨none, none, true⟩
  | c :: _ => if isValidLocation c.lat c.lon then ⟨c.lat, c.lon, true⟩ else ⟨none, none, true⟩

def buildHops (prev : Previous) : List (List Char × List Contact) → List (PathHop M)
  | [] => []
  | (hopPrefix, candidates) :: rest =>
    let sortedMatches := sortContactsByDistance d candidates prev.prevLat prev.prevLon
    let distanceFromPrev := match soleLocated sortedMatches with
      | some c => if prev.prevHopUncertain then none
          else calculateDistance d prev.prevLat prev.prevLon c.lat c.lon
      | none => none
    ⟨hopPrefix, sortedMatches, distanceFromPrev⟩ :: buildHops (Previous.next sortedMatches) rest

/-- The variables of the loop of `calculateTotalDistances`. -/
structure Total (M : Type) where
  totalDistance : M
  hasAnyDistance : Bool
  prevLat : Option ℚ
  prevLon : Option ℚ
  lastUnambiguousHopIndex : Int

/-- A leg of the path, when its distance is known. -/
def Total.addLeg (t : Total M) (dist : Option M) : Total M :=
  match dist with
  | some dist => { t with
      totalDistance := t.totalDistance + dist
      hasAnyDistance := true }
  | none => t

/-- The rounds of the loop from the hop at index `i` on. -/
def Total.sumHops (t : Total M) (i : Nat) : List (PathHop M) → Total M
  | [] => t
  | hop :: rest =>
    match soleLocated hop.hopMatches with
    | none => Total.sumHops { t with prevLat := none, prevLon := none } (i + 1) rest
    | some c =>
      let t := t.addLeg (calculateDistance d t.prevLat t.prevLon c.lat c.lon)
      Total.sumHops { t with
        prevLat := c.lat
        prevLon := c.lon
        lastUnambiguousHopIndex := i } (i + 1) rest

/-- The first hop of known location, with the index behind it. -/
def firstLocated (i : Nat) : List (PathHop M) → Option (Contact × Nat)
  | [] => none
  | hop :: rest =>
    match soleLocated hop.hopMatches with
    | some c => some (c, i + 1)
    | none => firstLocated (i + 1) rest

/-- The previous location and the index that the loop starts with. -/
def startAt (sender : Endpoint) (hops : List (PathHop M)) : Option (Option ℚ × Option ℚ × Nat) :=
  if isValidLocation sender.lat sender.lon then some (sender.lat, sender.lon, 0)
  else (firstLocated 0 hops).map fun (c, startHopIndex) => (c.lat, c.lon, startHopIndex)

/-- The final leg, when the last hop is the last unambiguous one. -/
def Total.finish (t : Total M) (count : Nat) (receiver : Endpoint) : Total M :=
  if t.lastUnambiguousHopIndex = (count : Int) - 1 ∧ t.prevLat ≠ none ∧ t.prevLon ≠ none then
    if isValidLocation receiver.lat receiver.lon then
      t.addLeg (calculateDistance d t.prevLat t.prevLon receiver.lat receiver.lon)
    else t
  else t

def calculateTotalDistances (sender : Endpoint) (hops : List (PathHop M)) (receiver : Endpoint) :
    Option (List M) :=
  if hops.length = 0 then
    if ¬ isValidLocation sender.lat sender.lon ∨ ¬ isValidLocation receiver.lat receiver.lon then
      none
    else (calculateDistance d sender.lat sender.lon receiver.lat receiver.lon).map ([·])
  else
    match startAt sender hops with
    | none => none
    | some (prevLat, prevLon, startHopIndex) =>
      let t : Total M := ⟨0, false, prevLat, prevLon, -1⟩
      let t := (t.sumHops d startHopIndex (hops.drop startHopIndex)).finish d hops.length receiver
      if t.hasAnyDistance then some [t.totalDistance] else none

/-- `resolvePath` from the prefixes of the hops with their candidates on. -/
def resolveHops (sender : Endpoint) (candidates : List (List Char × List Contact))
    (receiver : Endpoint) : ResolvedPath M :=
  let uncertain := !isValidLocation sender.lat sender.lon
  let hops := buildHops d ⟨sender.lat, sender.lon, uncertain⟩ candidates
  let hasGaps := !isValidLocation sender.lat sender.lon ||
    !isValidLocation receiver.lat receiver.lon ||
    hops.any fun hop => (soleLocated hop.hopMatches).isNone
  ⟨sender, hops, receiver, calculateTotalDistances d sender hops receiver, hasGaps⟩

def resolvePath (r : Rounding) (path : Option JsString) (sender : Endpoint) (contacts : List Contact)
    (config : Option Endpoint) (hopCount : Option ℚ) : ResolvedPath M :=
  let hopPrefixes := parsePathHops r path hopCount
  resolveHops d sender
    (hopPrefixes.map fun hopPrefix => (hopPrefix, findContactsByPrefix hopPrefix contacts true))
    (config.getD ⟨none, none⟩)

end
end Meshloom.PathDistance
