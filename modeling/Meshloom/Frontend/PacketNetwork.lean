import Mathlib.Data.List.Destutter
import Mathlib.Data.Rat.Defs
import Mathlib.Algebra.Order.Ring.Rat
import Meshloom.Dict
import Meshloom.LinkStore
import Meshloom.Text
import Meshloom.Utf16

/-! The network that is drawn of the packets heard (`networkGraph/packetNetworkGraph.ts` and what it
uses of `utils/visualizerUtils.ts`): a packet is resolved to a path of nodes, some of them unknown,
and every two of a path are linked. -/
namespace Meshloom.PacketNetwork
open LinkStore

abbrev Text := List Char

abbrev Id := List Char

/-- A time in milliseconds. -/
abbrev Time := ℚ

def isHex (c : Char) : Bool :=
  ('0' ≤ c && c ≤ '9') || ('a' ≤ c && c ≤ 'f') || ('A' ≤ c && c ≤ 'F')

/-- A public key, a hash or a hop, which the decoder and the server give in hexadecimal digits. -/
structure Hex where
  chars : Text
  digits : chars.all isHex = true
  deriving DecidableEq

def Hex.lower (hex : Hex) : Text := hex.chars.map Char.toLower
def Hex.upper (hex : Hex) : Text := hex.chars.map Char.toUpper

/-- `public_key.slice(0, 12).toLowerCase()`. -/
def prefix12 (key : Hex) : Id := key.lower.take 12

inductive NodeType where
  | self
  | repeater
  | client
  deriving DecidableEq

inductive PayloadType where
  | advert
  | groupText
  | textMessage
  | ack
  | trace
  | request
  | anonRequest
  | response
  | other
  deriving DecidableEq

def contactTypeRepeater : Nat := 2

structure Contact where
  publicKey : Hex
  name : Option Text
  type : Nat
  lastSeen : Option ℚ
  deriving DecidableEq

structure AdvertPath where
  heardCount : Int
  nextHop : Option Hex

structure PacketNetworkContext where
  advertPaths : Text → List AdvertPath
  byPrefix12 : Text → Option Contact
  byName : Text → Option Contact
  byPrefix : Text → List Contact
  myPrefix : Option Text
  splitAmbiguousByTraffic : Bool
  useAdvertPathHints : Bool

structure ContactIndex where
  byPrefix12 : Dict Text Contact
  byName : Dict Text Contact
  byPrefix : Dict Text (List Contact)

def addMatch (contact : Contact) (byPrefix : Dict Text (List Contact)) (start : Text) : Dict Text (List Contact) :=
  byPrefix.set start ((byPrefix.get? start).getD [] ++ [contact])

/-- The first contact with a name keeps it. -/
def indexContact (index : ContactIndex) (contact : Contact) : ContactIndex where
  byPrefix12 := index.byPrefix12.set (prefix12 contact.publicKey) contact
  byName := match contact.name.filter (· ≠ []) with
    | some name => if (index.byName.get? name).isSome then index.byName else index.byName.set name contact
    | none => index.byName
  byPrefix := ((List.range' 1 12).map (prefix12 contact.publicKey).take).foldl (addMatch contact) index.byPrefix

def buildPacketNetworkContext (ownKey : Option Hex) (contacts : List Contact)
    (repeaterAdvertPaths : List (Hex × List AdvertPath)) (splitAmbiguousByTraffic useAdvertPathHints : Bool) :
    PacketNetworkContext :=
  let contactIndex := contacts.foldl indexContact ⟨Dict.empty, Dict.empty, Dict.empty⟩
  let byRepeater : Dict Text (List AdvertPath) := repeaterAdvertPaths.foldl (fun byRepeater summary =>
    byRepeater.set (prefix12 summary.1) summary.2) Dict.empty
  { advertPaths := fun repeater => (byRepeater.get? repeater).getD []
    byPrefix12 := contactIndex.byPrefix12.get?
    byName := contactIndex.byName.get?
    byPrefix := fun start => (contactIndex.byPrefix.get? start).getD []
    myPrefix := (ownKey.map prefix12).filter (· ≠ [])
    splitAmbiguousByTraffic
    useAdvertPathHints }

/-- What the browser gives during a call: its clock, and its order of texts. -/
structure Host where
  now : Time
  localeCompare : Text → Text → Int

/-- A field that is undefined is absent, and one that is null is there without a value. -/
structure PacketNetworkNode where
  id : Id
  name : Option Text
  type : NodeType
  isAmbiguous : Bool
  lastActivity : Time
  lastActivityReason : Option Text
  lastSeen : Option (Option ℚ)
  probableIdentity : Option (Option Text)
  probableIdentityNodeId : Option (Option Id)
  ambiguousNames : Option (List Text)
  deriving DecidableEq

structure PacketNetworkObservation where
  activityAtMs : Time
  nodes : List Id
  deriving DecidableEq

structure TrafficObservation where
  source : Id
  nextHop : Option Text
  timestamp : Time
  deriving DecidableEq

abbrev TrafficPatterns := Dict Text (List TrafficObservation)

structure PacketNetworkState where
  links : Dict Text (Link Id Time)
  neighborIds : Dict Id (List Id)
  nodes : Dict Id PacketNetworkNode
  observations : List PacketNetworkObservation
  trafficPatterns : TrafficPatterns
  deriving DecidableEq

structure ParsedPacket where
  payloadType : PayloadType
  pathBytes : List Hex
  srcHash : Option Hex
  dstHash : Option Hex
  advertPubkey : Option Hex
  groupTextSender : Option Text
  anonRequestPubkey : Option Hex
  deriving DecidableEq

def selfId : Id := ['s', 'e', 'l', 'f']

def arrow : Text := ['-', '>']

def buildLinkKey (sourceId targetId : Id) : Text :=
  if Utf16.before sourceId targetId then sourceId ++ arrow ++ targetId else targetId ++ arrow ++ sourceId

/-- Leaves out what is equal to the element before it. -/
def dedupeConsecutive (path : List Id) : List Id := path.destutter (· ≠ ·)

def getNodeType (contact : Option Contact) : NodeType :=
  if contact.map (·.type) = some contactTypeRepeater then .repeater else .client

/-- A hop without digits is no hop; blanks around digits there are none. -/
def normalizeHopToken (hop : Option Hex) : Option Text := (hop.map (·.lower)).filter (· ≠ [])

def buildAmbiguousRepeaterNodeId (hop : Hex) (nextHop : Option Hex) : Id :=
  match normalizeHopToken (some hop), normalizeHopToken nextHop with
  | none, _ => ['?']
  | some hopKey, some nextHopKey => '?' :: hopKey ++ [':', '>'] ++ nextHopKey
  | some hopKey, none => '?' :: hopKey

def buildAmbiguousRepeaterLabel (hop : Hex) (nextHop : Option Hex) : Text :=
  match normalizeHopToken (some hop), normalizeHopToken nextHop with
  | none, _ => ['?']
  | some hopKey, some nextHopKey => (hopKey ++ [':', '>'] ++ nextHopKey).map Char.toUpper
  | some hopKey, none => hopKey.map Char.toUpper

def getPacketLabel : PayloadType → Text
  | .advert => ['A', 'D']
  | .groupText => ['G', 'T']
  | .textMessage => ['D', 'M']
  | .ack => ['A', 'C', 'K']
  | .trace => ['T', 'R']
  | .request | .anonRequest => ['R', 'Q']
  | .response => ['R', 'S']
  | .other => ['?']

section Traffic

def minObservationsToSplit : Nat := 20
def maxTrafficObservations : Nat := 200
def trafficObservationMaxAgeMs : Time := 30 * 60 * 1000

def recent (now : Time) (observations : List TrafficObservation) : List TrafficObservation :=
  observations.filter fun obs => now - obs.timestamp < trafficObservationMaxAgeMs

/-- The last observations, of which there are no more than the bound. -/
def lastObservations (observations : List TrafficObservation) : List TrafficObservation :=
  observations.drop (observations.length - maxTrafficObservations)

def recordTrafficObservation (now : Time) (trafficData : TrafficPatterns) (hop : Hex) (source : Id)
    (nextHop : Option Hex) : TrafficPatterns :=
  match normalizeHopToken (some hop) with
  | none => trafficData
  | some hopKey =>
    let observations := (trafficData.get? hopKey).getD [] ++ [⟨source, normalizeHopToken nextHop, now⟩]
    trafficData.set hopKey (lastObservations (recent now observations))

/-- The sources by the next hop. -/
def groupByNextHop (observations : List TrafficObservation) : Dict Text (List Id) :=
  observations.foldl (fun groups obs =>
    let sources := (groups.get? (obs.nextHop.getD selfId)).getD []
    groups.set (obs.nextHop.getD selfId)
      (if obs.source ∈ sources then sources else sources ++ [obs.source])) Dict.empty

/-- Splits where there are several groups of enough sources, and no source is in two of them. -/
def shouldSplit (now : Time) (observations : List TrafficObservation) : Bool :=
  let groups := (groupByNextHop (recent now observations)).entries.map Prod.snd
  1 < groups.length &&
    groups.all (fun sources => sources.all fun source => (groups.countP fun group => source ∈ group) ≤ 1) &&
    groups.all fun sources => minObservationsToSplit ≤ sources.length

end Traffic

section Resolve
variable (host : Host) (context : PacketNetworkContext)

/-- What a node is brought up to date with. -/
structure NodeUpdate where
  id : Id
  name : Option Text
  type : NodeType
  isAmbiguous : Bool
  lastSeen : Option (Option ℚ)
  probableIdentity : Option (Option Text)
  probableIdentityNodeId : Option (Option Id)
  ambiguousNames : Option (List Text)

def addOrUpdateNode (nodes : Dict Id PacketNetworkNode) (activityAtMs : Time) (update : NodeUpdate) :
    Dict Id PacketNetworkNode :=
  match nodes.get? update.id with
  | some existing =>
    nodes.set update.id
      { existing with
        lastActivity := max existing.lastActivity activityAtMs
        name := (update.name.filter (· ≠ [])).or existing.name
        probableIdentity := update.probableIdentity.or existing.probableIdentity
        probableIdentityNodeId := update.probableIdentityNodeId.or existing.probableIdentityNodeId
        ambiguousNames := update.ambiguousNames.or existing.ambiguousNames
        lastSeen := update.lastSeen.or existing.lastSeen }
  | none =>
    nodes.set update.id
      { id := update.id
        name := update.name
        type := update.type
        isAmbiguous := update.isAmbiguous
        lastActivity := activityAtMs
        lastActivityReason := none
        lastSeen := update.lastSeen
        probableIdentity := update.probableIdentity
        probableIdentityNodeId := update.probableIdentityNodeId
        ambiguousNames := update.ambiguousNames }

inductive Source where
  | pubkey (value : Hex)
  | name (value : Text)
  /-- A `prefix`: a hop or the hash of a sender. -/
  | hop (value : Hex)

inductive Resolution where
  | nothing
  | self
  | node (update : NodeUpdate)

structure TrafficContext where
  packetSource : Option Id
  nextPrefix : Option Hex

def isOwn (id : Id) : Bool := context.myPrefix = some id && id ≠ []

/-- Our own radio is the node `self`. -/
def ownOr (update : NodeUpdate) : Resolution := if isOwn context update.id then .self else .node update

def contactUpdate (contact : Contact) : NodeUpdate where
  id := prefix12 contact.publicKey
  name := contact.name
  type := getNodeType (some contact)
  isAmbiguous := false
  lastSeen := some contact.lastSeen
  probableIdentity := none
  probableIdentityNodeId := none
  ambiguousNames := none

def resolvePubkey (value : Hex) : Resolution :=
  if value.chars.length < 12 then .nothing
  else
    let contact := context.byPrefix12 (prefix12 value)
    ownOr context
      { id := prefix12 value
        name := (contact.bind (·.name)).filter (· ≠ [])
        type := getNodeType contact
        isAmbiguous := false
        lastSeen := contact.map (·.lastSeen)
        probableIdentity := none
        probableIdentityNodeId := none
        ambiguousNames := none }

def nameStart : Text := ['n', 'a', 'm', 'e', ':']

def resolveName (value : Text) : Resolution :=
  match context.byName value with
  | some contact => ownOr context (contactUpdate contact)
  | none => .node ⟨nameStart ++ value, some value, .client, false, none, none, none, none⟩

structure Scored where
  candidate : Contact
  matchScore : Int
  totalScore : Int

def score (nextHop : Option Text) (candidate : Contact) : Scored where
  candidate
  matchScore := (((context.advertPaths (prefix12 candidate.publicKey)).filter fun path =>
    path.nextHop.map (·.lower) = nextHop).map (·.heardCount)).sum
  totalScore := ((context.advertPaths (prefix12 candidate.publicKey)).map (·.heardCount)).sum

/-- `a || b` on numbers. -/
def orNumber (a b : Int) : Int := if a = 0 then b else a

def compareScored (a b : Scored) : Int :=
  orNumber (b.matchScore - a.matchScore) (orNumber (b.totalScore - a.totalScore)
    (host.localeCompare a.candidate.publicKey.chars b.candidate.publicKey.chars))

def pickLikelyRepeaterByAdvertPath (candidates : List Contact) (nextPrefix : Option Hex) :
    Option Contact :=
  let scored := ((candidates.map (score context (nextPrefix.map (·.lower)))).filter fun entry =>
    0 < entry.totalScore).mergeSort fun a b => compareScored host a b ≤ 0
  match scored with
  | [] => none
  | top :: rest =>
    if top.matchScore < 2 then none
    else if rest.head?.any (fun second => top.matchScore < second.matchScore * 2) then none
    else some top.candidate

/-- The name of a candidate, and else the start of its key. -/
def nameOf (candidate : Contact) : Text :=
  ((candidate.name).filter (· ≠ [])).getD (candidate.publicKey.chars.take 8)

/-- The latest time at which a candidate was seen. -/
def latestSeen (candidates : List Contact) : Option ℚ :=
  candidates.foldl (fun latest candidate =>
    if ∃ seen ∈ candidate.lastSeen, seen ≠ 0 ∧ ∀ before ∈ latest, before = 0 ∨ before < seen
    then candidate.lastSeen else latest) none

/-- The next hop that the node of a hop is split by, when it is. -/
def splitByTraffic (patterns : TrafficPatterns) (value : Hex) (traffic : TrafficContext) :
    TrafficPatterns × Option Hex :=
  let recorded := match traffic.packetSource.filter (· ≠ []) with
    | some source => recordTrafficObservation host.now patterns value source traffic.nextPrefix
    | none => patterns
  (recorded, traffic.nextPrefix.filter fun _ =>
    (recorded.get? value.lower).any (shouldSplit host.now))

/-- A node that stands for the unknown one of several candidates. -/
def resolveAmbiguous (patterns : TrafficPatterns) (value : Hex) (isRepeater : Bool)
    (traffic : Option TrafficContext) (filtered : List Contact) : TrafficPatterns × Resolution :=
  let likely := (traffic.filter fun _ => context.useAdvertPathHints && isRepeater).bind fun traffic =>
    pickLikelyRepeaterByAdvertPath host context filtered traffic.nextPrefix
  let likelyName := likely.map fun likely =>
    (likely.name.filter (· ≠ [])).getD (likely.publicKey.upper.take 12)
  let split := match traffic.filter fun _ => context.splitAmbiguousByTraffic && isRepeater with
    | some traffic => splitByTraffic host patterns value traffic
    | none => (patterns, none)
  let others := match likely with
    | some likely => some ((filtered.filter fun candidate =>
        candidate.publicKey.chars ≠ likely.publicKey.chars).map nameOf)
    | none => if filtered = [] then none else some (filtered.map nameOf)
  (split.1, .node
    { id := buildAmbiguousRepeaterNodeId value split.2
      name := some (match split.2 with
        | some next =>
          (likelyName.filter (· ≠ [])).getD (buildAmbiguousRepeaterLabel value (some next))
        | none => likelyName.getD (buildAmbiguousRepeaterLabel value none))
      type := if isRepeater then .repeater else .client
      isAmbiguous := true
      lastSeen := some (latestSeen filtered)
      probableIdentity := some likelyName
      probableIdentityNodeId := some (likely.map fun likely => prefix12 likely.publicKey)
      ambiguousNames := others })

/-- The candidates of the wanted kind. -/
def ofKind (isRepeater : Bool) (candidates : List Contact) : List Contact :=
  candidates.filter fun candidate => decide (candidate.type = contactTypeRepeater) = isRepeater

def resolveHop (patterns : TrafficPatterns) (value : Hex) (isRepeater showAmbiguous : Bool)
    (traffic : Option TrafficContext) : TrafficPatterns × Resolution :=
  match context.byPrefix value.lower with
  | [contact] => (patterns, ownOr context (contactUpdate contact))
  | candidates =>
    if showAmbiguous then
      match ofKind isRepeater candidates with
      -- the only one of its kind, which is not looked at for our own radio
      | [only] => (patterns, .node (contactUpdate only))
      | filtered =>
        if filtered = [] ∧ isRepeater = false then (patterns, .nothing)
        else resolveAmbiguous host context patterns value isRepeater traffic filtered
    else (patterns, .nothing)

def resolve (patterns : TrafficPatterns) (source : Source) (isRepeater showAmbiguous : Bool)
    (traffic : Option TrafficContext) : TrafficPatterns × Resolution :=
  match source with
  | .pubkey value => (patterns, resolvePubkey context value)
  | .name value => (patterns, resolveName context value)
  | .hop value => resolveHop host context patterns value isRepeater showAmbiguous traffic

/-- The node of a resolution, which is there afterwards; none that has no id. -/
def enter (state : PacketNetworkState) (activityAtMs : Time) (resolved : TrafficPatterns × Resolution) :
    PacketNetworkState × Option Id :=
  match resolved.2 with
  | .nothing => ({ state with trafficPatterns := resolved.1 }, none)
  | .self => ({ state with trafficPatterns := resolved.1 }, some selfId)
  | .node update =>
    ({ state with
        trafficPatterns := resolved.1
        nodes := addOrUpdateNode state.nodes activityAtMs update },
      if update.id = [] then none else some update.id)

def resolveNode (state : PacketNetworkState) (activityAtMs : Time) (source : Source)
    (isRepeater showAmbiguous : Bool) (traffic : Option TrafficContext) :
    PacketNetworkState × Option Id :=
  enter state activityAtMs
    (resolve host context state.trafficPatterns source isRepeater showAmbiguous traffic)

end Resolve

section Ingest
variable (host : Host) (context : PacketNetworkContext)

/-- A value that is there and not empty. -/
def truthy (hex : Option Hex) : Option Hex := hex.filter (·.chars ≠ [])

/-- What a path starts with. -/
inductive Head where
  | nothing
  | self
  | source (source : Source) (showAmbiguous : Bool)

def isOwnHash (hash : Hex) : Bool := isOwn context hash.lower

/-- `senderInfo` is the sender that the server found in the packet. -/
def headOf (parsed : ParsedPacket) (senderInfo : Option Text) : Head :=
  match parsed.payloadType with
  | .advert =>
    match truthy parsed.advertPubkey with
    | some key => .source (.pubkey key) false
    | none => .nothing
  | .anonRequest =>
    match truthy parsed.anonRequestPubkey with
    | some key => .source (.pubkey key) false
    | none => .nothing
  | .textMessage =>
    match truthy parsed.srcHash with
    | some srcHash => if isOwnHash context srcHash then .self else .source (.hop srcHash) true
    | none => .nothing
  | .groupText =>
    match ((parsed.groupTextSender.filter (· ≠ [])).or senderInfo).filter (· ≠ []) with
    | some senderName => .source (.name senderName) false
    | none => .nothing
  | _ => .nothing

def enterHead (state : PacketNetworkState) (activityAtMs : Time) (head : Head) :
    PacketNetworkState × Option Id :=
  match head with
  | .nothing => (state, none)
  | .self => (state, some selfId)
  | .source source showAmbiguous =>
    resolveNode host context state activityAtMs source false showAmbiguous none

/-- The nodes of the hops, each with the hop after it. -/
def enterHops (activityAtMs : Time) (packetSource : Option Id) :
    PacketNetworkState → List Hex → PacketNetworkState × List Id
  | state, [] => (state, [])
  | state, hop :: rest =>
    let entered := resolveNode host context state activityAtMs (.hop hop) true true
      (some ⟨packetSource, truthy rest.head?⟩)
    let following := enterHops activityAtMs packetSource entered.1 rest
    (following.1, entered.2.toList ++ following.2)

/-- Whether a path ends at our own radio. -/
def endsAtSelf (parsed : ParsedPacket) (path : List Id) : Bool :=
  match parsed.payloadType, truthy parsed.dstHash with
  | .textMessage, some dstHash =>
    isOwnHash context dstHash || (!(parsed.srcHash.any (isOwnHash context)) && path ≠ [])
  | _, _ => path ≠ []

def buildCanonicalPathForPacket (state : PacketNetworkState) (parsed : ParsedPacket)
    (senderInfo : Option Text) (activityAtMs : Time) : PacketNetworkState × List Id :=
  let head := enterHead host context state activityAtMs (headOf context parsed senderInfo)
  let hops := enterHops host context activityAtMs head.2 head.1 parsed.pathBytes
  let path := head.2.toList ++ hops.2
  (hops.1, dedupeConsecutive (if endsAtSelf context parsed path then path ++ [selfId] else path))

/-- The first node of a path is the source, and the others relayed the packet. -/
def setReason (label : Text) (nodes : Dict Id PacketNetworkNode) (step : Id × Nat) :
    Dict Id PacketNetworkNode :=
  match nodes.get? step.1 with
  | some node =>
    if node.id = selfId then nodes
    else nodes.set step.1
      { node with lastActivityReason := some (
          if step.2 = 0 then label ++ [' ', 's', 'o', 'u', 'r', 'c', 'e']
          else ['R', 'e', 'l', 'a', 'y', 'e', 'd', ' '] ++ label) }
  | none => nodes

/-- The pairs of elements that follow each other. -/
def adjacent (path : List Id) : List (Id × Id) := path.zip path.tail

def linkNodes (activityAtMs : Time) (state : PacketNetworkState) (ends : Id × Id) : PacketNetworkState :=
  if ends.1 = ends.2 then state
  else { state with
    links := addLink buildLinkKey state.links ends.1 ends.2 activityAtMs
    neighborIds := upsertNeighbor state.neighborIds ends.1 ends.2 }

structure PacketNetworkIngestResult where
  activityAtMs : Time
  canonicalPath : List Id
  label : Text
  parsed : ParsedPacket
  deriving DecidableEq

/-- A packet that the decoder parsed, with the time at which it was received. -/
structure Packet where
  parsed : ParsedPacket
  senderInfo : Option Text
  activityAtMs : Time
  deriving DecidableEq

def ingestPacketIntoPacketNetwork (state : PacketNetworkState) (packet : Packet) :
    PacketNetworkState × Option PacketNetworkIngestResult :=
  let built := buildCanonicalPathForPacket host context state packet.parsed packet.senderInfo
    packet.activityAtMs
  if built.2.length < 2 then (built.1, none)
  else
    let label := getPacketLabel packet.parsed.payloadType
    let observed : PacketNetworkState :=
      { built.1 with
        nodes := built.2.zipIdx.foldl (setReason label) built.1.nodes
        observations := built.1.observations ++ [⟨packet.activityAtMs, built.2⟩] }
    ((adjacent built.2).foldl (linkNodes packet.activityAtMs) observed,
      some ⟨packet.activityAtMs, built.2, label, packet.parsed⟩)

end Ingest

def selfNode (selfName : Text) (now : Time) : PacketNetworkNode where
  id := selfId
  name := some selfName
  type := .self
  isAmbiguous := false
  lastActivity := now
  lastActivityReason := none
  lastSeen := none
  probableIdentity := none
  probableIdentityNodeId := none
  ambiguousNames := none

def createPacketNetworkState (selfName : Text) (now : Time) : PacketNetworkState where
  links := Dict.empty
  neighborIds := Dict.empty
  nodes := Dict.empty.set selfId (selfNode selfName now)
  observations := []
  trafficPatterns := Dict.empty

def ensureSelfNode (state : PacketNetworkState) (selfName : Text) (now : Time) : PacketNetworkState :=
  match state.nodes.get? selfId with
  | some existing => { state with nodes := state.nodes.set selfId { existing with name := some selfName } }
  | none => { state with nodes := state.nodes.set selfId (selfNode selfName now) }

/-- The node that was there before is replaced, so that the last statement of the source, which names
the new one once more when it had another name, changes nothing. -/
def clearPacketNetworkState (selfName : Text) (now : Time) : PacketNetworkState where
  links := Dict.empty
  neighborIds := Dict.empty
  nodes := Dict.empty.set selfId { selfNode selfName now with lastSeen := some none }
  observations := []
  trafficPatterns := Dict.empty

def isStale (cutoff : Time) (id : Id) (node : PacketNetworkNode) : Bool :=
  id ≠ selfId && node.lastActivity < cutoff

def prunePacketNetworkState (state : PacketNetworkState) (cutoff : Time) : PacketNetworkState :=
  if state.nodes.entries.any fun entry => isStale cutoff entry.1 entry.2 then
    let nodes := state.nodes.filter fun id node => !isStale cutoff id node
    let links := state.links.filter fun _ link =>
      (nodes.get? link.sourceId).isSome && (nodes.get? link.targetId).isSome
    { state with
      nodes
      links
      observations := state.observations.filter fun observation =>
        observation.nodes.all fun id => (nodes.get? id).isSome
      neighborIds := rebuild links }
  else state

def snapshotNeighborIds (state : PacketNetworkState) : Dict Id (List Id) :=
  state.neighborIds.mapValues fun _ neighborIds => neighborIds.mergeSort Utf16.before

/-- What is done with a state; a packet that the decoder does not parse does nothing. -/
inductive Event where
  | ingest (host : Host) (context : PacketNetworkContext) (packet : Packet)
  | prune (cutoff : Time)
  | ensureSelf (selfName : Text) (now : Time)
  | clear (selfName : Text) (now : Time)

def step (state : PacketNetworkState) : Event → PacketNetworkState
  | .ingest host context packet => (ingestPacketIntoPacketNetwork host context state packet).1
  | .prune cutoff => prunePacketNetworkState state cutoff
  | .ensureSelf selfName now => ensureSelfNode state selfName now
  | .clear selfName now => clearPacketNetworkState selfName now

/-- The state after a run that starts with a new one. -/
def run (selfName : Text) (now : Time) (events : List Event) : PacketNetworkState :=
  events.foldl step (createPacketNetworkState selfName now)

end Meshloom.PacketNetwork
