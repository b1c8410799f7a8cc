import Meshloom.Text
import Meshloom.Packet.Envelope

/-! Stored contact routes: splitting a path text into hops, repairing stored
route fields, and parsing the explicit route that a user types. -/
namespace Meshloom.Packet
open Bytes Text

/-- `[text[i : i + width] for i in range(0, len(text), width)]`. -/
def slices (width : Nat) (text : List Char) : List (List Char) :=
  (List.range ((text.length + width - 1) / width)).map fun i => (text.drop (i * width)).take width

def splitPathHex (pathHex : List Char) (hopCount : Int) : List (List Char) :=
  if pathHex = [] ∨ hopCount ≤ 0 then []
  else
    let charsPerHop := pathHex.length / hopCount.toNat
    if charsPerHop < 2 ∨ charsPerHop % 2 ≠ 0 ∨ charsPerHop * hopCount ≠ pathHex.length then
      slices 2 pathHex
    else slices charsPerHop pathHex

/-- `normalized_mode`, or 0 when it is `not in (0, 1, 2)`. -/
def knownMode (normalizedMode : Option Int) : Int :=
  match normalizedMode with
  | some mode => if mode ∈ [0, 1, 2] then mode else 0
  | none => 0

/-- The part of `normalize_contact_route` behind the repair of the packed byte. -/
def fitRoute (normalizedPath : List Char) (normalizedLen : Int) (normalizedMode : Option Int) :
    List Char × Int × Int :=
  if normalizedLen = -1 then ([], -1, -1)
  else
    let mode := knownMode normalizedMode
    if normalizedPath = [] then (normalizedPath, normalizedLen, mode)
    else
      let bytesPerHop := mode + 1
      let actualBytes : Int := normalizedPath.length / 2
      let expectedBytes := normalizedLen * bytesPerHop
      if actualBytes > expectedBytes ∧ expectedBytes ≥ 0 then
        (normalizedPath.take (expectedBytes * 2).toNat, normalizedLen, mode)
      else if actualBytes < expectedBytes ∧ bytesPerHop > 0 ∧ actualBytes % bytesPerHop = 0 then
        (normalizedPath, actualBytes / bytesPerHop, mode)
      else (normalizedPath, normalizedLen, mode)

def normalizeContactRoute (pathHex : Option (List Char)) (pathLen pathHashMode : Option Int) :
    List Char × Int × Int :=
  let normalizedPath := pathHex.getD []
  let normalizedLen := pathLen.getD (-1)
  if normalizedLen < -1 ∨ normalizedLen > 63 then
    -- a packed path byte, possibly signed, stored in the place of a hop count
    let packed := normalizedLen % 256
    if packed = 0xFF then ([], -1, -1)
    else
      let decodedMode := packed / 64 % 4
      if decodedMode ≠ 0x03 then fitRoute normalizedPath (packed % 64) (some decodedMode)
      else fitRoute normalizedPath normalizedLen pathHashMode
  else fitRoute normalizedPath normalizedLen pathHashMode

def normalizeRouteOverride (pathHex : Option (List Char)) (pathLen pathHashMode : Option Int) :
    Option (List Char) × Option Int × Option Int :=
  match pathLen with
  | none => (none, none, none)
  | some _ =>
    let (normalizedPath, normalizedLen, normalizedMode) :=
      normalizeContactRoute pathHex pathLen pathHashMode
    (some normalizedPath, some normalizedLen, some normalizedMode)

/-- The non-blank parts of a route text, stripped. -/
def routeParts (routeText : List Char) : List (List Char) :=
  ((routeText.splitOn ',').map strip).filter (· ≠ [])

def checkHop (hopChars : Nat) (hop : List Char) : Except String Unit :=
  if hop.length ≠ hopChars then .error "All hops must use the same width"
  else match fromHex hop with
    | none => .error "Each hop must be valid hex"
    | some _ => .ok ()

def parseExplicitHopRoute (lower : LowerCase) (routeText : List Char) :
    Except String (List Char × Nat × Nat) :=
  let hops := (routeParts routeText).map lower.apply
  match hops with
  | [] => .error "Explicit path must include at least one hop"
  | first :: _ => do
    let hopChars := first.length
    if hopChars ∉ [2, 4, 6] then .error "Each hop must be 1, 2, or 3 bytes of hex"
    hops.forM (checkHop hopChars)
    let hashSize := hopChars / 2
    if pathWireLen hops.length hashSize > maxPathSize then
      .error ("Explicit path exceeds MAX_PATH_SIZE=" ++ toString maxPathSize ++ " bytes")
    return (hops.flatten, hops.length, hashSize - 1)

end Meshloom.Packet
