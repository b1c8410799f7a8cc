import Meshloom.Dict
import Meshloom.Messages.Database
import Meshloom.Packet.Route
import Meshloom.Sql
import Meshloom.Transition

/-! The `contacts` table and the statements that write its time marks
(`app/repository/contacts.py`): observations that insert or update a row, and the merge of
placeholders, which are known by the beginning of their key only, into the row of the key. A
call whose transaction fails changes nothing and is no operation of a run. -/
namespace Meshloom.Contacts
open Messages (Key lower)
open Packet Sql

/-- A row of `contacts`, apart from its key. -/
structure Contact where
  name : Option String
  type : Int
  flags : Int
  directPath : Option (List Char)
  directPathLen : Option Int
  directPathHashMode : Option Int
  directPathUpdatedAt : Option Int
  routeOverridePath : Option (List Char)
  routeOverrideLen : Option Int
  routeOverrideHashMode : Option Int
  lastAdvert : Option Int
  lat : Option Float
  lon : Option Float
  lastSeen : Option Int
  onRadio : Option Bool
  lastContacted : Option Int
  firstSeen : Option Int
  lastReadAt : Option Int
  favorite : Bool
  pinned : Bool

structure ContactUpsert where
  publicKey : Key
  name : Option String
  type : Int
  flags : Int
  directPath : Option (List Char)
  directPathLen : Option Int
  directPathHashMode : Option Int
  directPathUpdatedAt : Option Int
  routeOverridePath : Option (List Char)
  routeOverrideLen : Option Int
  routeOverrideHashMode : Option Int
  lastAdvert : Option Int
  lat : Option Float
  lon : Option Float
  lastSeen : Option Int
  onRadio : Option Bool
  lastContacted : Option Int
  firstSeen : Option Int

abbrev Table := Dict Key Contact

/-- `UPDATE contacts SET ... WHERE public_key = ?` -/
def update (contacts : Table) (key : Key) (change : Contact → Contact) : Table :=
  match contacts.get? key with
  | none => contacts
  | some contact => contacts.set key (change contact)

/-- `COALESCE(a, b)` -/
def coalesce {α : Type} (a b : Option α) : Option α := a.or b

/-- The normalised direct route of `_upsert_params`; it stays unset when all of it is. -/
def upsertRoute (contact : ContactUpsert) : Option (List Char) × Option Int × Option Int :=
  if contact.directPath = none ∧ contact.directPathLen = none ∧
      contact.directPathHashMode = none then (none, none, none)
  else
    let (path, len, mode) := normalizeContactRoute contact.directPath contact.directPathLen
      contact.directPathHashMode
    (some path, some len, some mode)

/-- The row of `_upsert_params`, with the defaults of the columns that it leaves out. -/
def upsertRow (contact : ContactUpsert) : Contact :=
  let (directPath, directPathLen, directPathHashMode) := upsertRoute contact
  let (routeOverridePath, routeOverrideLen, routeOverrideHashMode) :=
    normalizeRouteOverride contact.routeOverridePath contact.routeOverrideLen
      contact.routeOverrideHashMode
  { name := contact.name
    type := contact.type
    flags := contact.flags
    directPath
    directPathLen
    directPathHashMode
    directPathUpdatedAt := contact.directPathUpdatedAt
    routeOverridePath
    routeOverrideLen
    routeOverrideHashMode
    lastAdvert := contact.lastAdvert
    lat := contact.lat
    lon := contact.lon
    lastSeen := contact.lastSeen
    onRadio := contact.onRadio
    lastContacted := contact.lastContacted
    firstSeen := contact.firstSeen
    lastReadAt := none
    favorite := false
    pinned := false }

/-- The `CASE` of `_UPSERT_SQL` for `last_seen`. -/
def conflictLastSeen (stored excluded : Option Int) : Option Int :=
  if excluded = none then stored
  else if stored = none then excluded
  else if holds (gt3 excluded stored) then excluded
  else stored

/-- `ON CONFLICT(public_key) DO UPDATE` -/
def onConflict (stored excluded : Contact) : Contact :=
  { stored with
    name := coalesce excluded.name stored.name
    type := if excluded.type = 0 then stored.type else excluded.type
    flags := excluded.flags
    directPath := coalesce excluded.directPath stored.directPath
    directPathLen := coalesce excluded.directPathLen stored.directPathLen
    directPathHashMode := coalesce excluded.directPathHashMode stored.directPathHashMode
    directPathUpdatedAt := coalesce excluded.directPathUpdatedAt stored.directPathUpdatedAt
    routeOverridePath := coalesce excluded.routeOverridePath stored.routeOverridePath
    routeOverrideLen := coalesce excluded.routeOverrideLen stored.routeOverrideLen
    routeOverrideHashMode := coalesce excluded.routeOverrideHashMode stored.routeOverrideHashMode
    lastAdvert := coalesce excluded.lastAdvert stored.lastAdvert
    lat := coalesce excluded.lat stored.lat
    lon := coalesce excluded.lon stored.lon
    lastSeen := conflictLastSeen stored.lastSeen excluded.lastSeen
    onRadio := coalesce excluded.onRadio stored.onRadio
    lastContacted := coalesce excluded.lastContacted stored.lastContacted
    firstSeen := coalesce stored.firstSeen excluded.firstSeen }

def upsert (contacts : Table) (contact : ContactUpsert) : Table :=
  let key := lower contact.publicKey
  match contacts.get? key with
  | none => contacts.set key (upsertRow contact)
  | some stored => contacts.set key (onConflict stored (upsertRow contact))

/-- With whether the row is new. -/
def upsertReportingInsert (contacts : Table) (contact : ContactUpsert) : Table × Bool :=
  (upsert contacts contact, (contacts.get? (lower contact.publicKey)).isNone)

/-- The `CASE` of `update_direct_path` and `touch_last_seen`. -/
def bumpLastSeen (stored timestamp : Option Int) : Option Int :=
  if stored = none then timestamp
  else if holds (gt3 timestamp stored) then timestamp
  else stored

def updateDirectPath (contacts : Table) (publicKey : Key) (path : List Char) (pathLen : Int)
    (pathHashMode : Option Int) (updatedAt : Option Int) (now : Int) : Table :=
  let (normalizedPath, normalizedPathLen, normalizedHashMode) :=
    normalizeContactRoute (some path) (some pathLen) pathHashMode
  let ts := some (updatedAt.getD now)
  update contacts (lower publicKey) fun contact =>
    { contact with
      directPath := some normalizedPath
      directPathLen := some normalizedPathLen
      directPathHashMode := coalesce (some normalizedHashMode) contact.directPathHashMode
      directPathUpdatedAt := ts
      lastSeen := bumpLastSeen contact.lastSeen ts }

def setRoutingOverride (contacts : Table) (publicKey : Key) (path : Option (List Char))
    (pathLen pathHashMode : Option Int) : Table :=
  let (normalizedPath, normalizedLen, normalizedHashMode) :=
    normalizeRouteOverride path pathLen pathHashMode
  update contacts (lower publicKey) fun contact =>
    { contact with
      routeOverridePath := normalizedPath
      routeOverrideLen := normalizedLen
      routeOverrideHashMode := normalizedHashMode }

def updateLastContacted (contacts : Table) (publicKey : Key) (timestamp : Option Int)
    (now : Int) : Table :=
  update contacts (lower publicKey) fun contact =>
    { contact with lastContacted := some (timestamp.getD now) }

/-- A missing timestamp is bound as null. -/
def touchLastSeen (contacts : Table) (publicKey : Key) (timestamp : Option Int) : Table :=
  update contacts (lower publicKey) fun contact =>
    { contact with lastSeen := bumpLastSeen contact.lastSeen timestamp }

/-- The `CASE` of the merge that takes the later mark. -/
def mergeLatest (stored old : Option Int) : Option Int :=
  if stored = none then old
  else if old = none then stored
  else if holds (gt3 old stored) then old
  else stored

/-- The `CASE` of the merge that takes the earlier mark. -/
def mergeEarliest (stored old : Option Int) : Option Int :=
  if stored = none then old
  else if old = none then stored
  else if holds (gt3 stored old) then old
  else stored

/-- What the row of the full key takes from a placeholder. -/
def absorb (contact placeholder : Contact) : Contact :=
  { contact with
    lastSeen := mergeLatest contact.lastSeen placeholder.lastSeen
    lastContacted := mergeLatest contact.lastContacted placeholder.lastContacted
    firstSeen := mergeEarliest contact.firstSeen placeholder.firstSeen
    lastReadAt := mergeLatest contact.lastReadAt placeholder.lastReadAt }

/-- Longer keys first, and then by the text of the key. -/
def placeholderOrder (a b : Key × Contact) : Bool :=
  decide (b.1.length < a.1.length) || (decide (a.1.length = b.1.length) && decide (a.1 ≤ b.1))

/-- The rows whose key begins the full key. -/
def placeholders (contacts : Table) (fullKey : Key) : List (Key × Contact) :=
  (contacts.entries.filter fun row =>
    decide (row.1.length < 64) && likeStart row.1 fullKey).mergeSort placeholderOrder

/-- The number of full keys that a key begins. -/
def matchCount (contacts : Table) (oldKey : Key) : Nat :=
  contacts.entries.countP fun row => decide (row.1.length = 64) && likeStart oldKey row.1

/-- One round of the loop, with the keys that are promoted; the tables of names and paths that
follow the placeholder are left out. -/
def promote (fullKey : Key) (state : Table × List Key) (row : Key × Contact) : Table × List Key :=
  let (contacts, promoted) := state
  if row.1 = fullKey ∨ matchCount contacts row.1 ≠ 1 then state
  else ((update contacts fullKey (absorb · row.2)).pop row.1, promoted ++ [row.1])

def promotePrefixPlaceholders (contacts : Table) (fullKey : Key) : Table × List Key :=
  let key := lower fullKey
  (placeholders contacts key).foldl (promote key) (contacts, [])

inductive Operation where
  | upsert (contact : ContactUpsert)
  | upsertReportingInsert (contact : ContactUpsert)
  | updateDirectPath (publicKey : Key) (path : List Char) (pathLen : Int)
      (pathHashMode updatedAt : Option Int) (now : Int)
  | touchLastSeen (publicKey : Key) (timestamp : Option Int)
  | updateLastContacted (publicKey : Key) (timestamp : Option Int) (now : Int)
  | setRoutingOverride (publicKey : Key) (path : Option (List Char)) (pathLen pathHashMode : Option Int)
  | promotePrefixPlaceholders (fullKey : Key)

def apply (contacts : Table) : Operation → Table
  | .upsert contact => upsert contacts contact
  | .upsertReportingInsert contact => (upsertReportingInsert contacts contact).1
  | .updateDirectPath publicKey path pathLen pathHashMode updatedAt now =>
    updateDirectPath contacts publicKey path pathLen pathHashMode updatedAt now
  | .touchLastSeen publicKey timestamp => touchLastSeen contacts publicKey timestamp
  | .updateLastContacted publicKey timestamp now =>
    updateLastContacted contacts publicKey timestamp now
  | .setRoutingOverride publicKey path pathLen pathHashMode =>
    setRoutingOverride contacts publicKey path pathLen pathHashMode
  | .promotePrefixPlaceholders fullKey => (promotePrefixPlaceholders contacts fullKey).1

/-- Every operation is possible in every state. -/
def step (contacts : Table) (operation : Operation) : Option Table :=
  some (apply contacts operation)

end Meshloom.Contacts
