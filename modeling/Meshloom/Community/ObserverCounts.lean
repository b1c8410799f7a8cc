import Meshloom.Community.DirectoryMapNodes
import Meshloom.Dict
import Meshloom.FirstOccurrences
import Meshloom.Packet.GroupText
import Meshloom.PyValue
import Meshloom.Text

/-! The ears of a packet (`app/services/observer_reach.py`): the list of one packet's observers is
built with the catalogue of the observers, and the counts of a batch of packets without it. -/
namespace Meshloom.ObserverCounts
open Bytes Text DirectoryMapNodes

/-- A public key, which the parsers take only with its 64 characters. -/
abbrev PublicKey := { text : List Char // text ≠ [] }

/-- A packet hash of 16 hexadecimal digits in lower case. -/
abbrev Hash := List Char

inductive PositionPrecision where
  | exact
  | rounded
  deriving DecidableEq

structure ObserverGeo where
  observerId : List Char
  name : List Char
  publicKey : Option PublicKey
  lat : Option PyFloat
  lon : Option PyFloat
  positionPrecision : PositionPrecision
  deriving DecidableEq

structure ParsedObservation where
  observerId : List Char
  observerName : Option (List Char)
  publicKey : Option PublicKey
  hops : Option Nat
  snr : Option PyFloat
  rssi : Option PyFloat
  role : Option (List Char)
  lat : Option PyFloat
  lon : Option PyFloat
  path : List (List Char)
  isMlc : Bool
  positionPrecision : PositionPrecision
  deriving DecidableEq

structure ParsedReach where
  observations : List ParsedObservation
  sealed : Bool
  deriving DecidableEq

structure ObserverReachEntry where
  name : List Char
  publicKey : Option PublicKey
  lat : Option PyFloat
  lon : Option PyFloat
  positionPrecision : Option PositionPrecision
  hops : Option Nat
  snr : Option PyFloat
  rssi : Option PyFloat
  role : Option (List Char)
  path : List (List Char)
  isMLC : Bool
  deriving DecidableEq

/-- The observers by their id. -/
abbrev Catalogue := Dict (List Char) ObserverGeo

/-- `a or b` on texts, where the empty one stands for none as well. -/
def orText (a b : List Char) : List Char := if a = [] then b else a

/-- `dict.setdefault` -/
def setDefault (byPubkey : Dict PublicKey ObserverGeo) (geo : ObserverGeo) :
    Dict PublicKey ObserverGeo :=
  match geo.publicKey with
  | some publicKey => if publicKey ∈ byPubkey.keys then byPubkey else byPubkey.set publicKey geo
  | none => byPubkey

def geosByPubkey (geos : Catalogue) : Dict PublicKey ObserverGeo :=
  (geos.entries.map Prod.snd).foldl setDefault Dict.empty

section Dedup
variable (geos : Catalogue)

def observationGeo (obs : ParsedObservation) : Option ObserverGeo :=
  (geos.get? obs.observerId).or (obs.publicKey.bind (geosByPubkey geos).get?)

/-- The key of the observation, and else the one that the catalogue has for it. -/
def resolvedKey (obs : ParsedObservation) : Option PublicKey :=
  obs.publicKey.or ((observationGeo geos obs).bind (·.publicKey))

/-- A key as a text, which is empty without one. -/
def keyText (publicKey : Option PublicKey) : List Char := (publicKey.map (·.1)).getD []

/-- What an observation with the key is put under; nothing when it is empty. -/
def label (publicKey : Option PublicKey) (obs : ParsedObservation) : List Char :=
  orText (keyText publicKey) (orText obs.observerId (obs.observerName.getD []))

def dedupKey (obs : ParsedObservation) : List Char := label (resolvedKey geos obs) obs

def entryName (obs : ParsedObservation) : List Char :=
  orText (obs.observerName.getD []) (orText (((observationGeo geos obs).map (·.name)).getD [])
    (orText
      (match resolvedKey geos obs with
        | some publicKey => publicKey.1.take 12
        | none => obs.observerId)
      "observer".toList))

structure Coords where
  lat : PyFloat
  lon : PyFloat
  precision : PositionPrecision
  deriving DecidableEq

/-- A latitude and a longitude that are both there and on the map. -/
def placed (lat lon : Option PyFloat) : Option (PyFloat × PyFloat) := do
  let lat ← lat
  let lon ← lon
  if isValidMapLocation lat lon then some (lat, lon) else none

/-- The position on the observation itself comes first. -/
def observationCoords (obs : ParsedObservation) (geo : Option ObserverGeo) : Option Coords :=
  match placed obs.lat obs.lon with
  | some (lat, lon) => some ⟨lat, lon, obs.positionPrecision⟩
  | none =>
    geo.bind fun geo => (placed geo.lat geo.lon).map fun at_ => ⟨at_.1, at_.2, geo.positionPrecision⟩

def newEntry (obs : ParsedObservation) : ObserverReachEntry :=
  let coords := observationCoords obs (observationGeo geos obs)
  { name := entryName geos obs
    publicKey := resolvedKey geos obs
    lat := coords.map (·.lat)
    lon := coords.map (·.lon)
    positionPrecision := coords.map (·.precision)
    hops := obs.hops
    snr := obs.snr
    rssi := obs.rssi
    role := obs.role
    path := obs.path
    isMLC := obs.isMlc }

/-- The longest way heard, and a way at all where there was none. -/
def furthest (existing : ObserverReachEntry) (obs : ParsedObservation) :
    Option Nat × List (List Char) :=
  if ∃ hops ∈ obs.hops, ∀ before ∈ existing.hops, before < hops then (obs.hops, obs.path)
  else if existing.path = [] ∧ obs.path ≠ [] then (existing.hops, obs.path)
  else (existing.hops, existing.path)

/-- Keeps the first position, unless a later row places the ear exactly. -/
def takePosition (existing : ObserverReachEntry) (coords : Option Coords) : Option Coords :=
  coords.filter fun coords => existing.lat = none ∨
    (existing.positionPrecision ≠ some .exact ∧ coords.precision = .exact)

def mergeEntry (existing : ObserverReachEntry) (obs : ParsedObservation) : ObserverReachEntry :=
  let next := furthest existing obs
  let moved := takePosition existing (observationCoords obs (observationGeo geos obs))
  { existing with
    hops := next.1
    path := next.2
    snr := existing.snr.or obs.snr
    rssi := existing.rssi.or obs.rssi
    role := existing.role.or obs.role
    lat := (moved.map (·.lat)).or existing.lat
    lon := (moved.map (·.lon)).or existing.lon
    positionPrecision := (moved.map (·.precision)).or existing.positionPrecision
    isMLC := existing.isMLC || obs.isMlc }

abbrev Entries := Dict (List Char) ObserverReachEntry

def dedupStep (byKey : Entries) (obs : ParsedObservation) : Entries :=
  if dedupKey geos obs = [] then byKey
  else
    match byKey.get? (dedupKey geos obs) with
    | none => byKey.set (dedupKey geos obs) (newEntry geos obs)
    | some existing => byKey.set (dedupKey geos obs) (mergeEntry geos existing obs)

def dedupByKey (observations : List ParsedObservation) : Entries :=
  observations.foldl (dedupStep geos) Dict.empty

def dedupEntries (observations : List ParsedObservation) : List ObserverReachEntry :=
  (dedupByKey geos observations).entries.map Prod.snd

end Dedup

/-- Removes our own radio, when its key is known. -/
def dropLocalObserver (localKey : Option PublicKey) (entries : List ObserverReachEntry) :
    List ObserverReachEntry :=
  match localKey with
  | none => entries
  | some localKey => entries.filter fun entry => entry.publicKey ≠ some localKey

structure Contact where
  lat : Option PyFloat
  lon : Option PyFloat

/-- The contacts of this radio. -/
structure Contacts where
  getByKey : PublicKey → Option Contact
  getByName : List Char → List Contact

def contactCoords (contact : Contact) : Option (PyFloat × PyFloat) := placed contact.lat contact.lon

/-- 64 digits in lower case. -/
def isFullPublicKey (publicKey : PublicKey) : Bool :=
  publicKey.1.length = 64 && publicKey.1.all fun c => (hexValue c).isSome && !c.isUpper

section Finish
variable (contacts : Contacts)

def localAdvertByFullKey (publicKey : Option PublicKey) : Option (PyFloat × PyFloat) := do
  let publicKey ← publicKey
  if isFullPublicKey publicKey then (contacts.getByKey publicKey).bind contactCoords else none

def localAdvertByUniqueName (name : List Char) : Option (PyFloat × PyFloat) :=
  if strip name = [] then none
  else
    match (contacts.getByName name).filterMap contactCoords with
    | [coords] => some coords
    | _ => none

def ObserverReachEntry.moveTo (entry : ObserverReachEntry) (coords : PyFloat × PyFloat)
    (precision : PositionPrecision) : ObserverReachEntry :=
  { entry with lat := some coords.1, lon := some coords.2, positionPrecision := some precision }

/-- The position that local adverts have for one ear. -/
def fillEntry (entry : ObserverReachEntry) : ObserverReachEntry :=
  let isPlaced := (placed entry.lat entry.lon).isSome
  if isPlaced ∧ entry.positionPrecision = some .exact then entry
  else
    match localAdvertByFullKey contacts entry.publicKey with
    | some keyed => entry.moveTo keyed .exact
    | none =>
      if isPlaced ∨ entry.publicKey.any isFullPublicKey then entry
      else
        match localAdvertByUniqueName contacts entry.name with
        | some named => entry.moveTo named .rounded
        | none => entry

def fillLocalContactCoordinates (entries : List ObserverReachEntry) : List ObserverReachEntry :=
  entries.map (fillEntry contacts)

structure PacketObserverReachResponse where
  directoryEnabled : Bool
  packetHash : Option (List Char)
  observerCount : Nat
  observers : List ObserverReachEntry
  maxHops : Option Nat
  sealed : Bool

def upperHash (hash : Hash) : List Char := hash.map Char.toUpper

def finishObserverReach (localKey : Option PublicKey) (hash : Hash)
    (entries : List ObserverReachEntry) (sealed : Bool) : PacketObserverReachResponse :=
  let observers := fillLocalContactCoordinates contacts (dropLocalObserver localKey entries)
  { directoryEnabled := true
    packetHash := some (upperHash hash)
    observerCount := observers.length
    observers
    maxHops := (observers.filterMap (·.hops)).max?
    sealed }

end Finish

structure HTTPException where
  statusCode : Nat
  detail : String

/-- `corescope_packet_hash`, with its error as a response. -/
def validatePacketHashParam (raw : List Char) : Except HTTPException Hash :=
  match Packet.canonicalPacketHash raw with
  | some stored => .ok (stored.map Char.toLower)
  | none => .error ⟨400, "Packet hash must be 16 hex characters"⟩

/-- What the requests of one moment read: the reaches that Community has, the catalogue of its
observers unless that request fails, the key of our own radio and its contacts. -/
structure Service where
  communityActive : Bool
  reach : Hash → ParsedReach
  communityObservers : Option Catalogue
  localKey : Option PublicKey
  contacts : Contacts

def Service.geos (service : Service) : Catalogue := service.communityObservers.getD Dict.empty

def meshloomBatchMax : Nat := 20

structure PacketObserverReachCountsResponse where
  directoryEnabled : Bool
  counts : Dict (List Char) Nat
  sealed : Dict (List Char) Bool

/-- The hashes in the order in which they come first. -/
def normalizeFrom (normalized : List Hash) : List (List Char) → Except HTTPException (List Hash)
  | [] => .ok normalized
  | raw :: rest => do
    let hash ← validatePacketHashParam raw
    normalizeFrom (FirstOccurrences.addNew id normalized hash) rest

section Requests
variable (service : Service)

def getPacketObserverReach (raw : List Char) : Except HTTPException PacketObserverReachResponse := do
  let hash ← validatePacketHashParam raw
  if service.communityActive then
    let reach := service.reach hash
    return finishObserverReach service.contacts service.localKey hash
      (dedupEntries service.geos reach.observations) reach.sealed
  else return ⟨false, none, 0, [], none, false⟩

def countOf (hash : Hash) : Nat :=
  (dropLocalObserver service.localKey (dedupEntries Dict.empty (service.reach hash).observations)).length

def getPacketObserverReachCounts (hashes : List (List Char)) :
    Except HTTPException PacketObserverReachCountsResponse :=
  if meshloomBatchMax < hashes.length then
    .error ⟨400, s!"At most {meshloomBatchMax} hashes per request"⟩
  else do
    let normalized ← normalizeFrom [] hashes
    if service.communityActive then
      return {
        directoryEnabled := true
        counts := Dict.ofList (normalized.map fun hash => (upperHash hash, countOf service hash))
        sealed := Dict.ofList (normalized.map fun hash => (upperHash hash, (service.reach hash).sealed)) }
    else return ⟨false, Dict.empty, Dict.empty⟩

end Requests

section Ears
variable {geos : Catalogue} {observations : List ParsedObservation}

@[simp]
theorem label_some (publicKey : PublicKey) (obs : ParsedObservation) :
    label (some publicKey) obs = publicKey.1 := if_neg publicKey.2

theorem dedupKey_of_resolved {obs : ParsedObservation} (resolved : resolvedKey geos obs = some publicKey) :
    dedupKey geos obs = publicKey.1 := by
  rw [dedupKey, resolved, label_some]

/-- A row brings its key in unless it is there, and the key of an ear stays. -/
theorem publicKey_dedupStep (geos : Catalogue) (byKey : Entries) (obs : ParsedObservation) (k : List Char) :
    ((dedupStep geos byKey obs).get? k).map (·.publicKey) =
      ((byKey.get? k).map (·.publicKey)).or
        (if dedupKey geos obs = k ∧ k ≠ [] then some (resolvedKey geos obs) else none) := by
  unfold dedupStep
  by_cases blank : dedupKey geos obs = []
  · have other : ¬ (dedupKey geos obs = k ∧ k ≠ []) := fun both => both.2 (both.1 ▸ blank)
    rw [if_pos blank, if_neg other, Option.or_none]
  · rw [if_neg blank]
    by_cases same : dedupKey geos obs = k
    · subst same
      rw [if_pos ⟨rfl, blank⟩]
      cases found : byKey.get? (dedupKey geos obs) with
      | none => simp [newEntry]
      | some existing => simp [mergeEntry]
    · rw [if_neg (fun both => same both.1), Option.or_none]
      split <;> rw [Dict.get?_set, if_neg (Ne.symm same)]

/-- An ear has the key of the first row that is put under it. -/
theorem get?_dedupByKey (geos : Catalogue) (observations : List ParsedObservation) {k : List Char}
    (filled : k ≠ []) :
    ((dedupByKey geos observations).get? k).map (·.publicKey) =
      (observations.find? fun obs => dedupKey geos obs = k).map (resolvedKey geos) := by
  have scan : ∀ byKey : Entries, ((observations.foldl (dedupStep geos) byKey).get? k).map (·.publicKey) =
      ((byKey.get? k).map (·.publicKey)).or
        ((observations.find? fun obs => dedupKey geos obs = k).map (resolvedKey geos)) := by
    induction observations with
    | nil => simp
    | cons obs rest ih =>
        intro byKey
        rw [List.foldl_cons, ih, publicKey_dedupStep, Option.or_assoc]
        by_cases same : dedupKey geos obs = k
        · simp [same, filled]
        · simp [same]
  rw [dedupByKey, scan, Dict.get?_empty]
  rfl

theorem get?_dedupByKey_nil : (dedupByKey geos observations).get? [] = none := by
  have scan : ∀ byKey : Entries, byKey.get? [] = none →
      (observations.foldl (dedupStep geos) byKey).get? [] = none := by
    induction observations with
    | nil => exact fun _ absent => absent
    | cons obs rest ih =>
        intro byKey absent
        have step := publicKey_dedupStep geos byKey obs []
        rw [absent, if_neg (by simp), Option.map_none, Option.or_none] at step
        exact ih _ (Option.map_eq_none_iff.mp step)
  exact scan Dict.empty rfl

/-- The keys that the rows are put under. -/
def ears (geos : Catalogue) (observations : List ParsedObservation) : Finset (List Char) :=
  (observations.map (dedupKey geos)).toFinset.erase []

theorem keys_dedupByKey : (dedupByKey geos observations).keys.toFinset = ears geos observations := by
  ext k
  rw [List.mem_toFinset, Dict.mem_keys_iff, ears, Finset.mem_erase, List.mem_toFinset, List.mem_map]
  by_cases blank : k = []
  · subst blank
    simp [get?_dedupByKey_nil]
  · rw [← Option.isSome_iff_exists, ← Option.isSome_map (f := (·.publicKey)), get?_dedupByKey _ _ blank,
      Option.isSome_map, List.find?_isSome]
    simp [blank]

theorem size_dedupByKey : (dedupByKey geos observations).size = (ears geos observations).card := by
  rw [← keys_dedupByKey, ← Dict.length_keys]
  exact (List.toFinset_card_of_nodup (dedupByKey geos observations).nodup).symm

/-- The first row that is put under our own key is resolved to that key. -/
def HearsLocal (geos : Catalogue) (localKey : Option PublicKey)
    (observations : List ParsedObservation) : Prop :=
  ∃ key ∈ localKey, (observations.find? fun obs => dedupKey geos obs = key.1).bind
    (resolvedKey geos) = some key

instance (localKey : Option PublicKey) : Decidable (HearsLocal geos localKey observations) :=
  match localKey with
  | none => .isFalse (by simp [HearsLocal])
  | some key => decidable_of_iff ((observations.find? fun obs => dedupKey geos obs = key.1).bind
      (resolvedKey geos) = some key) (by simp [HearsLocal])

theorem mem_dedupByKey {k : List Char} {entry : ObserverReachEntry}
    (member : (k, entry) ∈ (dedupByKey geos observations).entries) :
    k ≠ [] ∧ (observations.find? fun obs => dedupKey geos obs = k).map (resolvedKey geos) =
      some entry.publicKey := by
  have found := (Dict.mem_iff_get? _).mp member
  have filled : k ≠ [] := by
    rintro rfl
    rw [get?_dedupByKey_nil] at found
    cases found
  rw [← get?_dedupByKey _ _ filled, found]
  exact ⟨filled, rfl⟩

/-- An ear with a key is put under it. -/
theorem label_of_mem {k : List Char} {entry : ObserverReachEntry} {key : PublicKey}
    (member : (k, entry) ∈ (dedupByKey geos observations).entries)
    (keyed : entry.publicKey = some key) : k = key.1 := by
  obtain ⟨obs, first, resolved⟩ := Option.map_eq_some_iff.mp (mem_dedupByKey member).2
  have under : dedupKey geos obs = k := by simpa using List.find?_some first
  exact under.symm.trans (dedupKey_of_resolved (resolved.trans keyed))

/-- One ear at most is our own radio. -/
theorem local_entries (key : PublicKey) :
    ((dedupByKey geos observations).entries.filter fun entry => entry.2.publicKey = some key).length =
      if HearsLocal geos (some key) observations then 1 else 0 := by
  have under : ∀ entry ∈ (dedupByKey geos observations).entries.filter
      (fun entry => entry.2.publicKey = some key), entry.1 = key.1 := by
    intro entry member
    obtain ⟨member, keyed⟩ := List.mem_filter.mp member
    exact label_of_mem member (of_decide_eq_true keyed)
  split
  · rename_i heard
    obtain ⟨_, ⟨⟩, first⟩ := heard
    obtain ⟨obs, found, resolved⟩ := Option.bind_eq_some_iff.mp first
    have entry := get?_dedupByKey geos observations key.2
    rw [found, Option.map_some, resolved] at entry
    obtain ⟨entry, present, keyed⟩ := Option.map_eq_some_iff.mp entry
    have member : (key.1, entry) ∈ (dedupByKey geos observations).entries.filter
        (fun entry => entry.2.publicKey = some key) :=
      List.mem_filter.mpr ⟨(Dict.mem_iff_get? _).mpr present, decide_eq_true keyed⟩
    refine Nat.le_antisymm ?_ (List.length_pos_of_mem member)
    have distinct : (((dedupByKey geos observations).entries.filter
        (fun entry => entry.2.publicKey = some key)).map Prod.fst).Nodup :=
      (List.filter_sublist.map Prod.fst).nodup (dedupByKey geos observations).nodup
    rw [← List.length_map Prod.fst, ← List.toFinset_card_of_nodup distinct]
    refine Finset.card_le_one.mpr fun a a_mem b b_mem => ?_
    obtain ⟨first, in_first, rfl⟩ := List.mem_map.mp (List.mem_toFinset.mp a_mem)
    obtain ⟨second, in_second, rfl⟩ := List.mem_map.mp (List.mem_toFinset.mp b_mem)
    rw [under first in_first, under second in_second]
  · rename_i unheard
    rw [List.length_eq_zero_iff, List.filter_eq_nil_iff]
    intro entry member keyed
    have keyed := of_decide_eq_true keyed
    have first := (mem_dedupByKey member).2
    rw [label_of_mem member keyed, keyed] at first
    obtain ⟨obs, found, resolved⟩ := Option.map_eq_some_iff.mp first
    exact unheard ⟨key, rfl, by rw [found]; exact resolved⟩

/-- What is left is every ear but our own. -/
theorem length_dropLocalObserver (geos : Catalogue) (observations : List ParsedObservation)
    (localKey : Option PublicKey) :
    (dropLocalObserver localKey (dedupEntries geos observations)).length +
      (if HearsLocal geos localKey observations then 1 else 0) = (ears geos observations).card := by
  rw [← size_dedupByKey]
  cases localKey with
  | none =>
      have unheard : ¬ HearsLocal geos none observations := by simp [HearsLocal]
      rw [if_neg unheard]
      exact List.length_map _
  | some key =>
      have split := List.length_eq_length_filter_add
        (l := (dedupByKey geos observations).entries) fun entry => decide (entry.2.publicKey = some key)
      rw [Dict.size, split, local_entries, Nat.add_comm, dropLocalObserver, dedupEntries,
        List.filter_map, List.length_map]
      simp [Function.comp_def]

end Ears

section Catalogue
variable (geos : Catalogue) (observations : List ParsedObservation)

/-- What an observation is put under by itself: its key, and else its id or its name. -/
def ownLabel (obs : ParsedObservation) : List Char := label obs.publicKey obs

/-- The key that the catalogue has for the id of an observation without one. -/
def catalogueKey (obs : ParsedObservation) : Option PublicKey :=
  if obs.publicKey = none then (geos.get? obs.observerId).bind (·.publicKey) else none

theorem resolvedKey_eq (obs : ParsedObservation) :
    resolvedKey geos obs = obs.publicKey.or (catalogueKey geos obs) := by
  unfold resolvedKey catalogueKey observationGeo
  cases obs.publicKey <;> simp

theorem resolvedKey_empty (obs : ParsedObservation) : resolvedKey Dict.empty obs = obs.publicKey := by
  simp [resolvedKey_eq, catalogueKey]

theorem dedupKey_empty (obs : ParsedObservation) : dedupKey Dict.empty obs = ownLabel obs := by
  rw [dedupKey, resolvedKey_empty, ownLabel]

variable {geos} in
theorem dedupKey_of_none {obs : ParsedObservation} (unnamed : catalogueKey geos obs = none) :
    dedupKey geos obs = ownLabel obs := by
  rw [dedupKey, resolvedKey_eq, unnamed, Option.or_none, ownLabel]

variable {geos} in
theorem dedupKey_of_some {obs : ParsedObservation} (named : catalogueKey geos obs = some key) :
    dedupKey geos obs = key.1 := by
  have keyless : obs.publicKey = none := by
    by_contra keyed
    rw [catalogueKey, if_neg keyed] at named
    cases named
  exact dedupKey_of_resolved (by rw [resolvedKey_eq, keyless, named, Option.none_or])

/-- The labels of the observations that the catalogue has no key for. -/
def standingLabels : Finset (List Char) :=
  ((observations.filter fun obs => catalogueKey geos obs = none).map ownLabel).toFinset.erase []

/-- The labels that only observations have that the catalogue names anew. -/
def lostLabels : Finset (List Char) :=
  ((observations.filter fun obs => catalogueKey geos obs ≠ none).map ownLabel).toFinset.erase [] \
    standingLabels geos observations

/-- The keys that the catalogue names, but no other observation. -/
def gainedLabels : Finset (List Char) :=
  ((observations.filterMap (catalogueKey geos)).map (·.1)).toFinset \ standingLabels geos observations

theorem ears_empty :
    ears Dict.empty observations = lostLabels geos observations ∪ standingLabels geos observations := by
  ext k
  simp only [ears, lostLabels, standingLabels, Finset.sdiff_union_self_eq_union, Finset.mem_union,
    Finset.mem_erase, List.mem_toFinset, List.mem_map, List.mem_filter, decide_eq_true_eq,
    dedupKey_empty]
  constructor
  · rintro ⟨filled, obs, member, rfl⟩
    by_cases unnamed : catalogueKey geos obs = none
    · exact .inr ⟨filled, obs, ⟨member, unnamed⟩, rfl⟩
    · exact .inl ⟨filled, obs, ⟨member, unnamed⟩, rfl⟩
  · rintro (⟨filled, obs, member, rfl⟩ | ⟨filled, obs, member, rfl⟩)
    · exact ⟨filled, obs, member.1, rfl⟩
    · exact ⟨filled, obs, member.1, rfl⟩

theorem ears_eq :
    ears geos observations = gainedLabels geos observations ∪ standingLabels geos observations := by
  ext k
  simp only [ears, gainedLabels, standingLabels, Finset.sdiff_union_self_eq_union, Finset.mem_union,
    Finset.mem_erase, List.mem_toFinset, List.mem_map, List.mem_filter, List.mem_filterMap,
    decide_eq_true_eq]
  constructor
  · rintro ⟨filled, obs, member, rfl⟩
    cases named : catalogueKey geos obs with
    | none => exact .inr ⟨filled, obs, ⟨member, named⟩, (dedupKey_of_none named).symm⟩
    | some key => exact .inl ⟨key, ⟨obs, member, named⟩, (dedupKey_of_some named).symm⟩
  · rintro (⟨key, ⟨obs, member, named⟩, rfl⟩ | ⟨filled, obs, ⟨member, unnamed⟩, rfl⟩)
    · exact ⟨key.2, obs, member, dedupKey_of_some named⟩
    · exact ⟨filled, obs, member, dedupKey_of_none unnamed⟩

/-- The catalogue takes as many ears away as it names: an ear that it shows to be our own radio is
taken away too, and one that it shows to be another is named. -/
def NamesAsMany (localKey : Option PublicKey) : Prop :=
  (lostLabels geos observations).card + (if HearsLocal geos localKey observations then 1 else 0) =
    (gainedLabels geos observations).card +
      (if HearsLocal Dict.empty localKey observations then 1 else 0)

instance (localKey : Option PublicKey) : Decidable (NamesAsMany geos observations localKey) :=
  inferInstanceAs (Decidable (_ = _))

/-- The two sets have as many ears exactly when the catalogue names as many as it takes away. -/
theorem length_eq_iff (localKey : Option PublicKey) :
    (dropLocalObserver localKey (dedupEntries Dict.empty observations)).length =
        (dropLocalObserver localKey (dedupEntries geos observations)).length ↔
      NamesAsMany geos observations localKey := by
  have plain := length_dropLocalObserver Dict.empty observations localKey
  have named := length_dropLocalObserver geos observations localKey
  have lost : Disjoint (lostLabels geos observations) (standingLabels geos observations) :=
    Finset.sdiff_disjoint
  have gained : Disjoint (gainedLabels geos observations) (standingLabels geos observations) :=
    Finset.sdiff_disjoint
  rw [ears_empty geos, Finset.card_union_of_disjoint lost] at plain
  rw [ears_eq, Finset.card_union_of_disjoint gained] at named
  unfold NamesAsMany
  omega

/-- Observations that the catalogue names none of have the same ears with it. -/
theorem namesAsMany_of_unnamed {observations : List ParsedObservation}
    (unnamed : ∀ obs ∈ observations, catalogueKey geos obs = none) (localKey : Option PublicKey) :
    NamesAsMany geos observations localKey := by
  have lost : lostLabels geos observations = ∅ := by
    have nobody : (observations.filter fun obs => catalogueKey geos obs ≠ none) = [] :=
      List.filter_eq_nil_iff.mpr (by simpa using unnamed)
    rw [lostLabels, nobody]
    simp
  have gained : gainedLabels geos observations = ∅ := by
    have nobody : observations.filterMap (catalogueKey geos) = [] :=
      List.filterMap_eq_nil_iff.mpr unnamed
    rw [gainedLabels, nobody]
    simp
  have first (key : PublicKey) : (observations.find? fun obs => dedupKey geos obs = key.1).bind
      (resolvedKey geos) = (observations.find? fun obs => dedupKey Dict.empty obs = key.1).bind
        (resolvedKey Dict.empty) := by
    clear lost gained
    induction observations with
    | nil => rfl
    | cons obs rest ih =>
        obtain ⟨head, rest_unnamed⟩ := List.forall_mem_cons.mp unnamed
        have same : dedupKey geos obs = dedupKey Dict.empty obs := by
          rw [dedupKey_of_none head, dedupKey_empty]
        have resolved : resolvedKey geos obs = resolvedKey Dict.empty obs := by
          rw [resolvedKey_eq, head, Option.or_none, resolvedKey_empty]
        rw [List.find?_cons, List.find?_cons, same]
        split
        · simpa using resolved
        · exact ih rest_unnamed
  have heard : HearsLocal geos localKey observations ↔ HearsLocal Dict.empty localKey observations := by
    simp only [HearsLocal, first]
  simp only [NamesAsMany, lost, gained, heard]

end Catalogue

section Counts
variable {raw : List Char} {hash : Hash} {hashes : List (List Char)}

theorem lower_upperHash (valid : validatePacketHashParam raw = .ok hash) :
    (upperHash hash).map Char.toLower = hash := by
  unfold validatePacketHashParam at valid
  split at valid
  · cases valid
    simp [upperHash, Function.comp_def]
  · cases valid

/-- The hashes that are asked for are valid, and each of them is there once. -/
theorem normalizeFrom_spec {normalized result : List Hash}
    (done : normalizeFrom normalized hashes = .ok result) (distinct : normalized.Nodup)
    (valid : ∀ hash ∈ normalized, ∃ raw, validatePacketHashParam raw = .ok hash) :
    result.Nodup ∧ (∀ hash ∈ result, ∃ raw, validatePacketHashParam raw = .ok hash) ∧
      normalized ⊆ result ∧
      ∀ raw ∈ hashes, ∀ hash, validatePacketHashParam raw = .ok hash → hash ∈ result := by
  induction hashes generalizing normalized with
  | nil =>
      cases done
      exact ⟨distinct, valid, List.Subset.refl _, by simp⟩
  | cons raw rest ih =>
      cases parsed : validatePacketHashParam raw with
      | error refusal =>
          rw [normalizeFrom, parsed] at done
          cases done
      | ok hash =>
          rw [normalizeFrom, parsed] at done
          have next_distinct := @FirstOccurrences.addNew_nodup _ _ _ id normalized (by simpa using distinct) hash
          have next_mem (other : Hash) :
              other ∈ FirstOccurrences.addNew id normalized hash ↔ other ∈ normalized ∨ other = hash := by
            simpa using @FirstOccurrences.mem_addNew _ _ _ id normalized other hash
          obtain ⟨distinct, all_valid, within, rest_in⟩ := ih done (by simpa using next_distinct) (by
            intro other member
            obtain before | rfl := (next_mem other).mp member
            · exact valid other before
            · exact ⟨raw, parsed⟩)
          refine ⟨distinct, all_valid, fun other before => within ((next_mem other).mpr (.inl before)), ?_⟩
          intro asked member other parsed_other
          obtain rfl | later := List.mem_cons.mp member
          · rw [parsed] at parsed_other
            cases parsed_other
            exact within ((next_mem hash).mpr (.inr rfl))
          · exact rest_in asked later other parsed_other

variable {service : Service} {response : PacketObserverReachCountsResponse}

/-- A batch reports for a hash that it asks for how many ears are left of its observations. -/
theorem get?_counts (active : service.communityActive = true)
    (batch : getPacketObserverReachCounts service hashes = .ok response) (asked : raw ∈ hashes)
    (valid : validatePacketHashParam raw = .ok hash) :
    response.counts.get? (upperHash hash) = some (countOf service hash) := by
  unfold getPacketObserverReachCounts at batch
  split at batch
  · cases batch
  · cases done : normalizeFrom [] hashes with
    | error refusal =>
        rw [done] at batch
        cases batch
    | ok normalized =>
        simp only [done, bind, Except.bind] at batch
        cases batch
        obtain ⟨distinct, all_valid, -, listed⟩ := normalizeFrom_spec done List.nodup_nil (by simp)
        have apart : ((normalized.map fun hash => (upperHash hash, countOf service hash)).map
            Prod.fst).Nodup := by
          rw [List.map_map]
          refine List.Nodup.map_on ?_ distinct
          intro one one_mem other other_mem same
          obtain ⟨_, one_valid⟩ := all_valid one one_mem
          obtain ⟨_, other_valid⟩ := all_valid other other_mem
          have same : upperHash one = upperHash other := same
          rw [← lower_upperHash one_valid, same, lower_upperHash other_valid]
        exact (Dict.get?_ofList apart).mpr (List.mem_map.mpr ⟨hash, listed raw asked hash valid, rfl⟩)

/-- What a batch reports for a hash is the number of observers that the list of the hash shows
exactly when the catalogue takes as many ears away as it names. -/
theorem counts_eq_observerCount_iff (active : service.communityActive = true)
    (batch : getPacketObserverReachCounts service hashes = .ok response) (asked : raw ∈ hashes)
    (valid : validatePacketHashParam raw = .ok hash) :
    ∃ list, getPacketObserverReach service raw = .ok list ∧
      (response.counts.get? (upperHash hash) = some list.observerCount ↔
        NamesAsMany service.geos (service.reach hash).observations service.localKey) := by
  refine ⟨finishObserverReach service.contacts service.localKey hash
      (dedupEntries service.geos (service.reach hash).observations) (service.reach hash).sealed, ?_, ?_⟩
  · simp [getPacketObserverReach, valid, active, Except.bind, bind, pure, Except.pure]
  · rw [get?_counts active batch asked valid, Option.some.injEq, ← length_eq_iff]
    simp [countOf, finishObserverReach, fillLocalContactCoordinates]

/-- An observation without a key, whose id the catalogue has with the key of our own radio. -/
def ownEar : Service where
  communityActive := true
  reach _ :=
    { observations := [⟨['x'], none, none, none, none, none, none, none, none, [], false, .exact⟩]
      sealed := true }
  communityObservers := some (Dict.empty.set ['x']
    ⟨['x'], ['x'], some ⟨['a', 'b'], by decide⟩, none, none, .rounded⟩)
  localKey := some ⟨['a', 'b'], by decide⟩
  contacts := ⟨fun _ => none, fun _ => []⟩

def someHash : List Char := List.replicate 16 'a'

theorem someHash_valid : validatePacketHashParam someHash = .ok someHash := by
  have solid : strip someHash = someHash := strip_fixed (by simp [someHash, isSpace]) (by simp [someHash, isSpace])
  have digits : Packet.canonicalPacketHash someHash = some (List.replicate 16 'A') := by
    rw [Packet.canonicalPacketHash, solid]
    decide
  rw [validatePacketHashParam, digits]
  rfl

/-- The badge counts our own radio as an ear where the list drops it. -/
theorem ownEar_differs : ∃ response list, getPacketObserverReachCounts ownEar [someHash] = .ok response ∧
    getPacketObserverReach ownEar someHash = .ok list ∧
    response.counts.get? (upperHash someHash) = some 1 ∧ list.observerCount = 0 := by
  refine ⟨⟨true, Dict.ofList [(upperHash someHash, 1)], Dict.ofList [(upperHash someHash, true)]⟩,
    finishObserverReach ownEar.contacts ownEar.localKey someHash
      (dedupEntries ownEar.geos (ownEar.reach someHash).observations) true, ?_, ?_, ?_, ?_⟩
  · simp only [getPacketObserverReachCounts, normalizeFrom, someHash_valid, bind, Except.bind]
    rfl
  · simp only [getPacketObserverReach, someHash_valid, bind, Except.bind]
    rfl
  · decide
  · decide

/-- The same ear heard by another radio. -/
def otherEar : Service := { ownEar with localKey := some ⟨['c', 'd'], by decide⟩ }

theorem counts_eq_observerCount_iff_someHash :
    (∃ response list, getPacketObserverReachCounts ownEar [someHash] = .ok response ∧
      getPacketObserverReach ownEar someHash = .ok list ∧
      (response.counts.get? (upperHash someHash) = some list.observerCount ↔
        NamesAsMany ownEar.geos (ownEar.reach someHash).observations ownEar.localKey)) ∧
    ∃ response, getPacketObserverReachCounts otherEar [someHash] = .ok response ∧
      response.counts.get? (upperHash someHash) = some 1 ∧
      NamesAsMany otherEar.geos (otherEar.reach someHash).observations otherEar.localKey := by
  constructor
  · have batch : getPacketObserverReachCounts ownEar [someHash] = .ok
        ⟨true, Dict.ofList [(upperHash someHash, 1)], Dict.ofList [(upperHash someHash, true)]⟩ := by
      simp only [getPacketObserverReachCounts, normalizeFrom, someHash_valid, bind, Except.bind]
      rfl
    obtain ⟨list, shown, same⟩ :=
      counts_eq_observerCount_iff (by rfl) batch List.mem_cons_self someHash_valid
    exact ⟨_, list, batch, shown, same⟩
  · have batch : getPacketObserverReachCounts otherEar [someHash] = .ok
        ⟨true, Dict.ofList [(upperHash someHash, 1)], Dict.ofList [(upperHash someHash, true)]⟩ := by
      simp only [getPacketObserverReachCounts, normalizeFrom, someHash_valid, bind, Except.bind]
      rfl
    obtain ⟨list, shown, same⟩ :=
      counts_eq_observerCount_iff (by rfl) batch List.mem_cons_self someHash_valid
    have counted : list.observerCount = 1 := by
      simp only [getPacketObserverReach, someHash_valid, bind, Except.bind] at shown
      cases shown
      decide
    refine ⟨_, batch, by decide, same.mp ?_⟩
    rw [counted]
    decide

end Counts
end Meshloom.ObserverCounts
