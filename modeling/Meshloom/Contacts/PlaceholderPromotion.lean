import Meshloom.Bytes
import Meshloom.Contacts.TimeMarks
import Meshloom.OwnedRows

/-! The promotion of placeholders with all that was learned about them
(`ContactRepository.promote_prefix_placeholders`): the names and the advert paths of a
placeholder move to the full key, where equal ones are merged, before its row is deleted. -/
namespace Meshloom.PlaceholderPromotion
open Contacts OwnedRows Sql
open Messages (Key lower)

/-- A row of `contact_name_history`, apart from its key. -/
structure NameRow where
  firstSeen : Int
  lastSeen : Int
  deriving DecidableEq

/-- A row of `contact_advert_paths`, apart from its key. -/
structure AdvertPath where
  firstSeen : Int
  lastSeen : Int
  heardCount : Int
  deriving DecidableEq

/-- The columns `path_hex` and `path_len`. -/
abbrev Path := List Char × Int

structure Tables where
  contacts : Table
  names : Dict (Key × String) NameRow
  paths : Dict (Key × Path) AdvertPath

/-- `ON CONFLICT(public_key, name) DO UPDATE` -/
def mergeNames (stored excluded : NameRow) : NameRow where
  firstSeen := min stored.firstSeen excluded.firstSeen
  lastSeen := max stored.lastSeen excluded.lastSeen

/-- `ON CONFLICT(public_key, path_hex, path_len) DO UPDATE` -/
def mergePaths (stored excluded : AdvertPath) : AdvertPath where
  firstSeen := min stored.firstSeen excluded.firstSeen
  lastSeen := max stored.lastSeen excluded.lastSeen
  heardCount := stored.heardCount + excluded.heardCount

def migrateChildRows (db : Tables) (oldKey newKey : Key) : Tables :=
  let db := { db with names := copyRows mergeNames db.names oldKey newKey }
  let db := { db with paths := copyRows mergePaths db.paths oldKey newKey }
  let db := { db with names := deleteRows db.names oldKey }
  { db with paths := deleteRows db.paths oldKey }

/-- `DELETE FROM contacts`, which cascades to the rows of the contact. -/
def deleteContact (db : Tables) (key : Key) : Tables where
  contacts := db.contacts.pop key
  names := deleteRows db.names key
  paths := deleteRows db.paths key

/-- The row of the full key takes over a placeholder, which goes away. -/
def takeOver (fullKey : Key) (state : Tables × List Key) (row : Key × Contact) :
    Tables × List Key :=
  let db := migrateChildRows state.1 row.1 fullKey
  let db := { db with contacts := update db.contacts fullKey (absorb · row.2) }
  (deleteContact db row.1, state.2 ++ [row.1])

/-- One round of the loop. -/
def promoteRow (fullKey : Key) (state : Tables × List Key) (row : Key × Contact) :
    Tables × List Key :=
  if row.1 = fullKey ∨ matchCount state.1.contacts row.1 ≠ 1 then state
  else takeOver fullKey state row

def promoteRows (fullKey : Key) (db : Tables) (rows : List (Key × Contact)) : Tables × List Key :=
  rows.foldl (promoteRow fullKey) (db, [])

def promotePrefixPlaceholders (db : Tables) (fullKey : Key) : Tables × List Key :=
  let key := lower fullKey
  promoteRows key db (placeholders db.contacts key)

/-- The contacts and the keys are those of the promotion that leaves the other tables out. -/
theorem promotePrefixPlaceholders_contacts (db : Tables) (fullKey : Key) :
    ((promotePrefixPlaceholders db fullKey).1.contacts, (promotePrefixPlaceholders db fullKey).2) =
      Contacts.promotePrefixPlaceholders db.contacts fullKey := by
  have round (key : Key) (state : Tables × List Key) (row : Key × Contact) :
      ((promoteRow key state row).1.contacts, (promoteRow key state row).2) =
        promote key (state.1.contacts, state.2) row := by
    by_cases skipped : row.1 = key ∨ matchCount state.1.contacts row.1 ≠ 1
    · rw [promoteRow, if_pos skipped]
      exact (if_pos skipped).symm
    · rw [promoteRow, if_neg skipped]
      exact (if_neg skipped).symm
  simp only [promotePrefixPlaceholders, Contacts.promotePrefixPlaceholders, promoteRows]
  generalize placeholders db.contacts (lower fullKey) = rows
  suffices all : ∀ state : Tables × List Key,
      ((rows.foldl (promoteRow (lower fullKey)) state).1.contacts,
        (rows.foldl (promoteRow (lower fullKey)) state).2) =
      rows.foldl (promote (lower fullKey)) (state.1.contacts, state.2) from all (db, [])
  induction rows with
  | nil => exact fun _ => rfl
  | cons row rest ih =>
      intro state
      rw [List.foldl_cons, ih, round, List.foldl_cons]

/-- Lower-case hexadecimal digits. -/
def LowerHex (key : Key) : Prop := ∀ c ∈ key, (Bytes.hexValue c).isSome = true ∧ c.toLower = c

/-- A placeholder of the full key, and of no other one. -/
def Unambiguous (contacts : Table) (fullKey key : Key) : Prop :=
  key ∈ contacts.keys ∧ key.length < 64 ∧ key <+: fullKey ∧
    ∀ other ∈ contacts.keys, other.length = 64 → key <+: other → other = fullKey

/-- The value is the latest of the marks that are set, and unset when none is. -/
def IsLatest (rows : List Contact) (mark : Contact → Option Int) (value : Option Int) : Prop :=
  ∀ v, value = some v ↔ IsGreatest {v | ∃ row ∈ rows, mark row = some v} v

def IsEarliest (rows : List Contact) (mark : Contact → Option Int) (value : Option Int) : Prop :=
  ∀ v, value = some v ↔ IsLeast {v | ∃ row ∈ rows, mark row = some v} v

/-- The row has the first and the last sighting of the rows. -/
def NameRow.Merges (rows : List NameRow) (row : NameRow) : Prop :=
  IsLeast {v | ∃ row ∈ rows, row.firstSeen = v} row.firstSeen ∧
  IsGreatest {v | ∃ row ∈ rows, row.lastSeen = v} row.lastSeen

/-- The row counts what the rows count, between their first and last sighting. -/
def AdvertPath.Merges (rows : List AdvertPath) (row : AdvertPath) : Prop :=
  row.heardCount = (rows.map (·.heardCount)).sum ∧
  IsLeast {v | ∃ row ∈ rows, row.firstSeen = v} row.firstSeen ∧
  IsGreatest {v | ∃ row ∈ rows, row.lastSeen = v} row.lastSeen

/-- What the promotion owes to the full key, the placeholders that went and everyone else. -/
structure Conserved (db : Tables) (fullKey : Key) (contact : Contact) (after : Tables)
    (promoted : List Key) : Prop where
  distinct : promoted.Nodup
  chosen : ∀ key, key ∈ promoted ↔ Unambiguous db.contacts fullKey key
  deleted : ∀ key ∈ promoted, after.contacts.get? key = none ∧
    (∀ name, after.names.get? (key, name) = none) ∧ ∀ path, after.paths.get? (key, path) = none
  others : ∀ key, key ∉ promoted → key ≠ fullKey →
    after.contacts.get? key = db.contacts.get? key ∧
    (∀ name, after.names.get? (key, name) = db.names.get? (key, name)) ∧
    ∀ path, after.paths.get? (key, path) = db.paths.get? (key, path)
  merged : ∃ lastSeen lastContacted firstSeen lastReadAt,
    after.contacts.get? fullKey =
      some { contact with lastSeen, lastContacted, firstSeen, lastReadAt } ∧
    let rows := (fullKey :: promoted).filterMap db.contacts.get?
    IsLatest rows (·.lastSeen) lastSeen ∧ IsLatest rows (·.lastContacted) lastContacted ∧
    IsEarliest rows (·.firstSeen) firstSeen ∧ IsLatest rows (·.lastReadAt) lastReadAt
  names : ∀ name row, after.names.get? (fullKey, name) = some row ↔
    NameRow.Merges (gathered db.names (fullKey :: promoted) name) row
  paths : ∀ path row, after.paths.get? (fullKey, path) = some row ↔
    AdvertPath.Merges (gathered db.paths (fullKey :: promoted) path) row

/-- The tables have the same rows, in whatever order. -/
structure SameRows (a b : Tables) : Prop where
  contacts : ∀ key, a.contacts.get? key = b.contacts.get? key
  names : ∀ key, a.names.get? key = b.names.get? key
  paths : ∀ key, a.paths.get? key = b.paths.get? key

end Meshloom.PlaceholderPromotion
