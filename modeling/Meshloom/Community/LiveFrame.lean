import Meshloom.JsValue
import Meshloom.PyValue
import Meshloom.Text

/-! Frames of the Community's live feed: the relay's check (`sanitize_community_packet` of
`app/services/community_live.py`) and the browser's (`asCommunityPacket` of
`frontend/src/utils/livePackets.ts`). -/
namespace Meshloom.LiveFrame
open Text

abbrev Chars := List Char

inductive Confidence where
  | exact
  | probable
  | unresolved
  deriving DecidableEq

inductive EarSource where
  | advert
  | iata
  deriving DecidableEq

inductive RouteKind where
  | flood
  | direct
  | unknown
  deriving DecidableEq

def Confidence.text : Confidence → Chars
  | .exact => "exact".toList
  | .probable => "probable".toList
  | .unresolved => "unresolved".toList

def EarSource.text : EarSource → Chars
  | .advert => "advert".toList
  | .iata => "iata".toList

def RouteKind.text : RouteKind → Chars
  | .flood => "flood".toList
  | .direct => "direct".toList
  | .unknown => "unknown".toList

/-- `HOP_CONFIDENCES`. -/
def Confidence.ofText (text : Chars) : Option Confidence :=
  [.exact, .probable, .unresolved].find? fun confidence : Confidence => confidence.text = text

/-- `EAR_SOURCES`. -/
def EarSource.ofText (text : Chars) : Option EarSource :=
  [.advert, .iata].find? fun source : EarSource => source.text = text

def RouteKind.ofText (text : Chars) : Option RouteKind :=
  [.flood, .direct, .unknown].find? fun kind : RouteKind => kind.text = text

/-- A hop as the contract has it; what it has no word for is absent. -/
structure CommunityPacketHop where
  token : Chars
  confidence : Confidence
  lat : Option PyFloat
  lon : Option PyFloat
  reason : Option Chars
  pubkey : Option Chars
  name : Option Chars
  deriving DecidableEq

structure CommunityPacketEar where
  lat : PyFloat
  lon : PyFloat
  source : EarSource
  deriving DecidableEq

/-- A frame that the relay sends on. -/
structure Frame where
  eventId : Chars
  hash8 : Chars
  packetHash : Option Chars
  type : Chars
  path : List Chars
  hopCount : Int
  hops : List CommunityPacketHop
  ear : Option CommunityPacketEar
  iata : Chars
  t : Int
  earId : Chars
  origin : Option CommunityPacketHop
  routeKind : Option RouteKind
  snr : Option PyFloat
  deriving DecidableEq

/-- A frame that the browser has read. -/
structure CommunityPacket where
  eventId : Chars
  hash8 : Chars
  packetHash : Option Chars
  type : Chars
  path : List Chars
  hopCount : Nat
  hops : List CommunityPacketHop
  ear : Option CommunityPacketEar
  iata : Chars
  t : PyFloat
  earId : Chars
  origin : Option CommunityPacketHop
  routeKind : Option RouteKind
  snr : Option PyFloat
  deriving DecidableEq

def CommunityPacketHop.entries (hop : CommunityPacketHop) : List (Chars × PyValue) :=
  PyValue.present
    [("token", some (.string hop.token)), ("confidence", some (.string hop.confidence.text)),
      ("lat", hop.lat.map .float), ("lon", hop.lon.map .float), ("reason", hop.reason.map .string),
      ("pubkey", hop.pubkey.map .string), ("name", hop.name.map .string)]

def CommunityPacketHop.toValue (hop : CommunityPacketHop) : PyValue := .object hop.entries

def CommunityPacketEar.entries (ear : CommunityPacketEar) : List (Chars × PyValue) :=
  PyValue.present
    [("lat", some (.float ear.lat)), ("lon", some (.float ear.lon)),
      ("source", some (.string ear.source.text))]

/-- The ear is null where there is none. -/
def earValue : Option CommunityPacketEar → PyValue
  | none => .null
  | some ear => .object ear.entries

def Frame.entries (frame : Frame) : List (Chars × PyValue) :=
  PyValue.present
    [("v", some (.int 2)), ("event_id", some (.string frame.eventId)),
      ("hash8", some (.string frame.hash8)), ("type", some (.string frame.type)),
      ("path", some (.array (frame.path.map .string))), ("hop_count", some (.int frame.hopCount)),
      ("hops", some (.array (frame.hops.map (·.toValue)))), ("ear", some (earValue frame.ear)),
      ("iata", some (.string frame.iata)), ("t", some (.int frame.t)),
      ("ear_id", some (.string frame.earId)), ("packet_hash", frame.packetHash.map .string),
      ("origin", frame.origin.map (·.toValue)),
      ("route_kind", frame.routeKind.map fun kind => .string kind.text),
      ("snr", frame.snr.map .float)]

def Frame.toValue (frame : Frame) : PyValue := .object frame.entries

def isLowerHex (c : Char) : Bool := ('0' ≤ c && c ≤ '9') || ('a' ≤ c && c ≤ 'f')

def isHex (c : Char) : Bool := isLowerHex c || ('A' ≤ c && c ≤ 'F')

/-- `_HASH8_RE` and the browser's `HASH8_RE`. -/
def isHash8 (text : Chars) : Bool := text.length = 8 && text.all isLowerHex

/-- `_PACKET_HASH_RE`. -/
def isPacketHash (text : Chars) : Bool := text.length = 16 && text.all isLowerHex

/-- `_PUBKEY_RE` and the browser's `PUBKEY64_RE`. -/
def isPubkey (text : Chars) : Bool := text.length = 64 && text.all isHex

/-- `_PACKET_TYPE_RE` and the browser's `PACKET_TYPE_RE`. -/
def isPacketType : Chars → Bool
  | [] => false
  | c :: rest =>
    ('a' ≤ c && c ≤ 'z') && rest.all fun c => ('a' ≤ c && c ≤ 'z') || ('0' ≤ c && c ≤ '9') || c = '_'

/-- `_IATA_RE`. -/
def isIata (text : Chars) : Bool := text.length = 3 && text.all fun c => 'A' ≤ c && c ≤ 'Z'

def zeroPacketHash : Chars := List.replicate 16 '0'

/-- What the two languages do with texts and numbers: `str.lower`, `str.upper`, `toLowerCase`,
`json.loads` (nothing for a text that is no JSON) and the double nearest to a whole number (nothing
for one that is too large). -/
structure Languages where
  lower : LowerCase
  upper : UpperCase
  toLowerCase : LowerCase
  loads : Chars → Option PyValue
  nearest : Int → Option ℚ
  whole : ∀ n : Nat, n ≤ 2 ^ 53 → nearest n = some (n : ℚ)

inductive PyError where
  | typeError
  | overflowError
  deriving DecidableEq

/-- How a check ends without a result. -/
inductive Stop where
  | returnsNone
  | raises (error : PyError)
  deriving DecidableEq

section Relay
variable (lang : Languages)

def required {α : Type} : Option α → Except Stop α
  | some a => .ok a
  | none => .error .returnsNone

def finiteCoord : PyValue → Except Stop (Option PyFloat)
  | .int n =>
    match lang.nearest n with
    | some x => .ok (some (.finite x))
    | none => .error (.raises .overflowError)
  | .float x => .ok (some x)
  | _ => .ok none

def optionalText : PyValue → Option Chars
  | .string text => if text = [] then none else some text
  | _ => none

/-- Whether a set of texts has the value, which raises for a list or a dict. -/
def memberOf {α : Type} (ofText : Chars → Option α) : PyValue → Except Stop (Option α)
  | .string text => .ok (ofText text)
  | .array _ => .error (.raises .typeError)
  | .object _ => .error (.raises .typeError)
  | _ => .ok none

/-- A hop whose confidence the contract knows. -/
def sanitizeKnown (token : Chars) (hop : PyValue) (confidence : Confidence) :
    Except Stop CommunityPacketHop := do
  let reason := optionalText (hop.field "reason")
  let lat ← finiteCoord lang (hop.field "lat")
  let lon ← finiteCoord lang (hop.field "lon")
  match confidence with
  | .unresolved =>
    if lat ≠ none ∨ lon ≠ none ∨ reason = none then .error .returnsNone
    else .ok ⟨token, .unresolved, none, none, reason, none, none⟩
  | .probable =>
    if lat = none ∨ lon = none ∨ reason = none then .error .returnsNone
    else .ok ⟨token, .probable, lat, lon, reason, none, none⟩
  | .exact =>
    if lat = none ∨ lon = none then .error .returnsNone
    else .ok ⟨token, .exact, lat, lon, reason, optionalText (hop.field "pubkey"),
      optionalText (hop.field "name")⟩

def isTrue : PyValue → Bool
  | .bool b => b
  | _ => false

def unresolvedHop (token : Chars) : CommunityPacketHop :=
  ⟨token, .unresolved, none, none, some "unresolved".toList, none, none⟩

/-- A hop of the first version, without a confidence that the contract knows. -/
def sanitizeV1 (token : Chars) (hop : PyValue) : Except Stop CommunityPacketHop :=
  if isTrue (hop.field "unresolved") then .ok (unresolvedHop token)
  else do
    let lat ← finiteCoord lang (hop.field "lat")
    let lon ← finiteCoord lang (hop.field "lon")
    if lat = none ∨ lon = none then .ok (unresolvedHop token)
    else .ok ⟨token, .exact, lat, lon, none, none, none⟩

/-- `_sanitize_hop`; a value that is no dict has no token. -/
def sanitizeHop (allowV1 : Bool) (hop : PyValue) : Except Stop CommunityPacketHop := do
  let token ← required (optionalText (hop.field "token"))
  match ← memberOf Confidence.ofText (hop.field "confidence") with
  | some confidence => sanitizeKnown lang token hop confidence
  | none => if allowV1 then sanitizeV1 lang token hop else .error .returnsNone

/-- An origin with a public key of its own has it, and one that is not placed needs it. -/
def withOriginKey (pubkey : Option Chars) (cleaned : CommunityPacketHop) :
    Option CommunityPacketHop :=
  match pubkey.filter isPubkey with
  | some pubkey => some { cleaned with pubkey := some (lang.lower.apply pubkey) }
  | none => if cleaned.confidence = .unresolved then none else some cleaned

/-- `_sanitize_origin`: an origin of a bad shape is dropped. -/
def sanitizeOrigin (raw : PyValue) : Except Stop (Option CommunityPacketHop) :=
  match sanitizeHop lang false raw with
  | .ok cleaned => .ok (withOriginKey lang (optionalText (raw.field "pubkey")) cleaned)
  | .error .returnsNone => .ok none
  | .error (.raises error) => .error (.raises error)

def sanitizeEar (raw : PyValue) : Except Stop (Option CommunityPacketEar) :=
  match raw with
  | .null => .ok none
  | .object _ => do
    let lat ← finiteCoord lang (raw.field "lat")
    let lon ← finiteCoord lang (raw.field "lon")
    let lat ← required lat
    let lon ← required lon
    let source ← required (← memberOf EarSource.ofText (raw.field "source"))
    return some ⟨lat, lon, source⟩
  | _ => .error .returnsNone

/-- `value == n`, which holds for a boolean and for a float too. -/
def equalsNumber (value : PyValue) (n : Nat) : Bool :=
  match value with
  | .int k => k = n
  | .bool b => b.toNat = n
  | .float (.finite x) => x = n
  | _ => false

/-- Whether the first version is allowed. -/
def readVersion (version : PyValue) : Except Stop Bool :=
  if equalsNumber version 1 then .ok true
  else if equalsNumber version 2 then .ok false
  else .error .returnsNone

def readHash8 : PyValue → Except Stop Chars
  | .string raw =>
    let lowered := lang.lower.apply raw
    let hash8 := if lowered.all isHex ∧ 8 ≤ lowered.length then lowered.take 8 else lowered
    if isHash8 hash8 then .ok hash8 else .error .returnsNone
  | _ => .error .returnsNone

def readPacketHash (hash8 : Chars) : PyValue → Except Stop (Option Chars)
  | .null => .ok none
  | .string raw =>
    let packetHash := lang.lower.apply raw
    if isPacketHash packetHash ∧ packetHash.take 8 = hash8 then .ok (some packetHash)
    else .error .returnsNone
  | _ => .error .returnsNone

def readType : PyValue → Except Stop Chars
  | .string text => if isPacketType text then .ok text else .error .returnsNone
  | _ => .error .returnsNone

def asString : PyValue → Except Stop Chars
  | .string text => .ok text
  | _ => .error .returnsNone

def readPath : PyValue → Except Stop (List Chars)
  | .array items => items.mapM asString
  | _ => .error .returnsNone

def readHops (allowV1 : Bool) (path : List Chars) : PyValue → Except Stop (List CommunityPacketHop)
  | .array hops =>
    if hops.length = path.length then hops.mapM (sanitizeHop lang allowV1) else .error .returnsNone
  | _ => .error .returnsNone

def readIata : PyValue → Except Stop Chars
  | .string raw =>
    let iata := lang.upper.apply raw
    if iata = [] ∨ isIata iata then .ok iata else .error .returnsNone
  | _ => .error .returnsNone

def readTimestamp : PyValue → Except Stop Int
  | .int t => .ok t
  | _ => .error .returnsNone

/-- The count that the frame declares, and else the length of its path. -/
def hopCountOf (length : Nat) : PyValue → Int
  | .int count => count
  | _ => length

def routeKindOf : PyValue → Option RouteKind
  | .string text => RouteKind.ofText text
  | _ => none

/-- The ear of a frame of the first version is looked for where there is the field at all, which
null stands for as well. -/
def sanitizePayload (payload : PyValue) : Except Stop Frame := do
  let allowV1 ← readVersion (payload.field "v")
  let eventId ← required (optionalText (payload.field "event_id"))
  let hash8 ← readHash8 lang (payload.field "hash8")
  let packetHash ← readPacketHash lang hash8 (payload.field "packet_hash")
  let type ← readType (payload.field "type")
  let path ← readPath (payload.field "path")
  let hops ← readHops lang allowV1 path (payload.field "hops")
  let iata ← readIata lang (payload.field "iata")
  let t ← readTimestamp (payload.field "t")
  let earId ← required (optionalText (payload.field "ear_id"))
  let ear ← sanitizeEar lang (payload.field "ear")
  let origin ← sanitizeOrigin lang (payload.field "origin")
  -- the same test and conversion as for a coordinate
  let snr ← finiteCoord lang (payload.field "snr")
  return {
    eventId, hash8, packetHash, type, path, hops, ear, iata, t, earId, origin, snr
    hopCount := hopCountOf path.length (payload.field "hop_count")
    routeKind := routeKindOf (payload.field "route_kind") }

/-- The dict in a text of JSON, or a dict itself. -/
def payloadOf (raw : PyValue) : Option PyValue :=
  match raw with
  | .object entries => some (.object entries)
  | .string text =>
    match lang.loads text with
    | some (.object entries) => some (.object entries)
    | _ => none
  | _ => none

def sanitizeCommunityPacket (raw : PyValue) : Except Stop Frame := do
  sanitizePayload lang (← required (payloadOf lang raw))

end Relay

namespace Browser

/-- White space and line terminators, which `trim` takes away. -/
def isSpace (c : Char) : Bool :=
  (9 ≤ c.toNat && c.toNat ≤ 13) || (0x2000 ≤ c.toNat && c.toNat ≤ 0x200A) ||
  c.toNat ∈ [0x20, 0xA0, 0x1680, 0x2028, 0x2029, 0x202F, 0x205F, 0x3000, 0xFEFF]

def trim (text : Chars) : Chars := (text.dropWhile isSpace).rdropWhile isSpace

def isValidLocation (lat lon : PyFloat) : Bool :=
  !(lat.below (-90) || lat.above 90 || lon.below (-180) || lon.above 180) &&
    !(lat = .finite 0 && lon = .finite 0)

def finiteCoord : Option JsValue → Option PyFloat
  | some (.number x) => if x.isFinite then some x else none
  | _ => none

/-- A string that is not empty. -/
def truthyString : Option JsValue → Option Chars
  | some (.string text) => if text = [] then none else some text
  | _ => none

def asString : Option JsValue → Option Chars
  | some (.string text) => some text
  | _ => none

/-- Two finite coordinates of a place. -/
def location (entries : List (Chars × JsValue)) : Option (PyFloat × PyFloat) := do
  let lat ← finiteCoord (JsValue.get entries "lat")
  let lon ← finiteCoord (JsValue.get entries "lon")
  if isValidLocation lat lon then some (lat, lon) else none

/-- No ear is an ear as well; an ear of a bad shape is nothing. -/
def readEar : Option JsValue → Option (Option CommunityPacketEar)
  | none => some none
  | some .null => some none
  | some (.object ear) => do
    let place ← location ear
    let source ← (asString (JsValue.get ear "source")).bind EarSource.ofText
    return some ⟨place.1, place.2, source⟩
  | _ => none

def readHop : JsValue → Option CommunityPacketHop
  | .object hop => do
    let token ← asString (JsValue.get hop "token")
    if trim token = [] then none
    else
      let confidence ← (asString (JsValue.get hop "confidence")).bind Confidence.ofText
      let unplaced : CommunityPacketHop :=
        ⟨trim token, confidence, none, none, truthyString (JsValue.get hop "reason"),
          truthyString (JsValue.get hop "pubkey"), truthyString (JsValue.get hop "name")⟩
      if confidence = .unresolved then some unplaced
      else (location hop).map fun place => { unplaced with lat := some place.1, lon := some place.2 }
  | _ => none

section
variable (lang : Languages)

def readOrigin (value : JsValue) : Option CommunityPacketHop := do
  let hop ← readHop value
  match value with
  | .object entries =>
    match (asString (JsValue.get entries "pubkey")).filter isPubkey with
    | some pubkey => some { hop with pubkey := some (lang.toLowerCase.apply pubkey) }
    | none => if hop.confidence = .unresolved then none else some hop
  | _ => none

def readHash8 (value : Option JsValue) : Option Chars := do
  let text ← asString value
  let hash8 := (lang.toLowerCase.apply (trim text)).take 8
  if isHash8 hash8 then some hash8 else none

/-- The first 16 digits of a hash that are not all zero. -/
def normalizePacketHash16 (value : Option JsValue) : Option Chars := do
  let text ← asString value
  let hex := lang.toLowerCase.apply (trim text)
  if 16 ≤ hex.length ∧ hex.all isLowerHex then
    if hex.take 16 = zeroPacketHash then none else some (hex.take 16)
  else none

def readHops : Option JsValue → Option (List CommunityPacketHop)
  | some (.array items) => items.mapM readHop
  | _ => none

/-- The path, which is the tokens of the hops when it is left out. -/
def readPath (hops : List CommunityPacketHop) : Option JsValue → Option (List Chars)
  | none => some (hops.map (·.token))
  | some (.array items) => do
    let path ← items.mapM fun item => asString (some item)
    if path.length = hops.length then some path else none
  | _ => none

def countAgrees (count : Nat) : Option JsValue → Bool
  | none => true
  | some (.number x) => x = .finite count
  | _ => false

def readTime : Option JsValue → Option PyFloat
  | some (.number x) => if x.isFinite then some x else none
  | _ => none

def readIata : Option JsValue → Option Chars
  | none => some []
  | some (.string text) => some text
  | _ => none

def isSchema : Option JsValue → Bool
  | some (.number x) => x = .finite 2
  | _ => false

def asCommunityPacket : JsValue → Option CommunityPacket
  | .object value => do
    guard (isSchema (JsValue.get value "v"))
    let eventId ← truthyString (JsValue.get value "event_id")
    let hash8 ← readHash8 lang (JsValue.get value "hash8")
    let type ← (asString (JsValue.get value "type")).filter isPacketType
    let hops ← readHops (JsValue.get value "hops")
    let path ← readPath hops (JsValue.get value "path")
    guard (countAgrees hops.length (JsValue.get value "hop_count"))
    let earId ← truthyString (JsValue.get value "ear_id")
    let t ← readTime (JsValue.get value "t")
    let ear ← readEar (JsValue.get value "ear")
    let iata ← readIata (JsValue.get value "iata")
    return {
      eventId, hash8, type, path, hops, ear, iata, t, earId
      hopCount := hops.length
      snr := finiteCoord (JsValue.get value "snr")
      packetHash := (normalizePacketHash16 lang (JsValue.get value "packet_hash")).filter
        fun packetHash => packetHash.take 8 = hash8
      origin := (JsValue.get value "origin").bind (readOrigin lang)
      routeKind := (asString (JsValue.get value "route_kind")).bind RouteKind.ofText }
  | _ => none

end
end Browser

/-- What the browser makes of a frame that is sent to it. -/
def received (lang : Languages) (frame : Frame) : Option CommunityPacket :=
  (JsValue.roundTrip lang.nearest frame.toValue).bind (Browser.asCommunityPacket lang)

/-- The browser has what the relay sent. -/
structure SameAs (frame : Frame) (packet : CommunityPacket) : Prop where
  eventId : packet.eventId = frame.eventId
  hash8 : packet.hash8 = frame.hash8
  packetHash : packet.packetHash = frame.packetHash
  type : packet.type = frame.type
  path : packet.path = frame.path
  hops : packet.hops = frame.hops
  ear : packet.ear = frame.ear
  iata : packet.iata = frame.iata
  t : packet.t = .finite frame.t
  earId : packet.earId = frame.earId
  origin : packet.origin = frame.origin
  routeKind : packet.routeKind = frame.routeKind
  snr : packet.snr = frame.snr

/-- A relayed frame is relayed unchanged once more, and the browser has what the relay sent. -/
def Relays (lang : Languages) (frame : Frame) : Prop :=
  sanitizeCommunityPacket lang frame.toValue = .ok frame ∧
    ∃ packet, received lang frame = some packet ∧ SameAs frame packet

section Condition
variable (lang : Languages)

/-- A place that the browser draws. -/
def OnMap (lat lon : PyFloat) : Prop :=
  lat.isFinite = true ∧ lon.isFinite = true ∧ Browser.isValidLocation lat lon = true

instance (lat lon : PyFloat) : Decidable (OnMap lat lon) := inferInstanceAs (Decidable (_ ∧ _))

/-- Coordinates that are both numbers are those of a place. -/
def Placeable (value : PyValue) : Prop :=
  ∀ lat lon, finiteCoord lang (value.field "lat") = .ok (some lat) →
    finiteCoord lang (value.field "lon") = .ok (some lon) → OnMap lat lon

/-- A hop whose token has no blanks around it, and whose coordinates, unless it says that it is
unresolved as hops of the first version do, are those of a place. -/
structure DrawableHop (hop : PyValue) : Prop where
  token : ∀ token, hop.field "token" = .string token → Browser.trim token = token
  placeable : (memberOf Confidence.ofText (hop.field "confidence") = .ok none ∧
    isTrue (hop.field "unresolved") = true) ∨ Placeable lang hop

/-- A payload whose numbers the browser reads as they are and whose places it draws. -/
structure DrawablePayload (payload : PyValue) : Prop where
  hops : ∀ hops, payload.field "hops" = .array hops → ∀ hop ∈ hops, DrawableHop lang hop
  count : ∀ path, payload.field "path" = .array path →
    lang.nearest (hopCountOf path.length (payload.field "hop_count")) = some (path.length : ℚ)
  ear : Placeable lang (payload.field "ear")
  -- an origin that is dropped does no harm
  origin : (∃ kept, sanitizeOrigin lang (payload.field "origin") = .ok (some kept)) →
    DrawableHop lang (payload.field "origin")
  time : ∀ t, payload.field "t" = .int t → lang.nearest t = some (t : ℚ)
  snr : ∀ snr, finiteCoord lang (payload.field "snr") = .ok (some snr) → snr.isFinite = true
  packetHash : ∀ hash, payload.field "packet_hash" = .string hash →
    lang.lower.apply hash ≠ zeroPacketHash

end Condition
end Meshloom.LiveFrame
