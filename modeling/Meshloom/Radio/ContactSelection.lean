import Meshloom.Double
import Meshloom.FirstOccurrences
import Meshloom.StableSort
import Meshloom.Text

/-! The contacts that are loaded onto the radio (`get_contacts_selected_for_radio_sync` of
`app/radio_sync.py`, with the queries of `app/repository/contacts.py`). Rows with equal sort keys
keep the order in which the table is scanned, and a limit cuts a query's rows. -/
namespace Meshloom.ContactSelection
open FirstOccurrences StableSort Text

/-- The columns of a contact that the queries look at. -/
structure Contact where
  publicKey : List Char
  type : Option Int
  favorite : Option Int
  lastAdvert : Option Int
  deriving DecidableEq

structure Message where
  type : String
  conversationKey : List Char
  receivedAt : Int

structure Database where
  contacts : List Contact
  messages : List Message

def getFavorites (db : Database) : List Contact :=
  db.contacts.filter fun c => c.favorite = some 1 ∧ c.publicKey.length = 64

/-- `type != 2 AND length(public_key) = 64` -/
def isNonRepeater (c : Contact) : Bool :=
  c.type.any (· ≠ 2) && decide (c.publicKey.length = 64)

/-- `MAX(received_at)` of the direct messages of a conversation. -/
def lastDm (messages : List Message) (key : List Char) : Option Int :=
  ((messages.filter fun m => m.type = "PRIV" ∧ m.conversationKey = key).map (·.receivedAt)).max?

/-- The non-repeaters that have a time, the latest first. -/
def recent (time : Contact → Option Int) (contacts : List Contact) : List Contact :=
  (sortFalling Prod.snd ((contacts.filter isNonRepeater).filterMap fun c =>
    (time c).map fun t => (c, t))).map Prod.fst

def recentlyDmActiveNonRepeaters (db : Database) : List Contact :=
  recent (fun c => lastDm db.messages c.publicKey) db.contacts

def recentlyAdvertisedNonRepeaters (db : Database) : List Contact :=
  recent Contact.lastAdvert db.contacts

def getRecentlyDmActiveNonRepeaters (db : Database) (limit : Nat) : List Contact :=
  (recentlyDmActiveNonRepeaters db).take limit

def getRecentlyAdvertisedNonRepeaters (db : Database) (limit : Nat) : List Contact :=
  (recentlyAdvertisedNonRepeaters db).take limit

/-- `_effective_radio_capacity` -/
def effectiveRadioCapacity (configured : Int) (hwLimit : Option Int) : Int :=
  max 1 (match hwLimit with
    | some limit => min (max 1 configured) limit
    | none => max 1 configured)

section Select
variable (py : Rounding) (lower : LowerCase)

/-- `int(capacity * RADIO_CONTACT_REFILL_RATIO + 0.5)` -/
def refillOf (capacity : Int) : Int :=
  (py.apply (py.mul (py.apply capacity) (py.apply (80 / 100)) + 1 / 2)).floor

/-- `math.ceil(capacity * RADIO_CONTACT_FULL_SYNC_RATIO)` -/
def fullSyncOf (capacity : Int) : Int := (py.mul (py.apply capacity) (py.apply (95 / 100))).ceil

/-- `_compute_radio_contact_limits`: the refill target and the trigger of a full sync. -/
def computeRadioContactLimits (maxContacts : Int) : Int × Int :=
  let capacity := max 1 maxContacts
  let refillTarget := max 1 (min capacity (refillOf py capacity))
  (refillTarget, max refillTarget (min capacity (fullSyncOf py capacity)))

def keyOf (c : Contact) : List Char := lower.apply c.publicKey

/-- Goes on with more contacts while the target is not reached. -/
def refill (target : Nat) (selected more : List Contact) : List Contact :=
  if selected.length < target then fillTo (keyOf lower) target selected more else selected

def getContactsSelectedForRadioSync (maxRadioContacts : Int) (hwLimit : Option Int)
    (db : Database) : List Contact :=
  let maxContacts := effectiveRadioCapacity maxRadioContacts hwLimit
  let target := (computeRadioContactLimits py maxContacts).1.toNat
  let favorites := fillTo (keyOf lower) maxContacts.toNat [] (getFavorites db)
  let active := refill lower target favorites
    (getRecentlyDmActiveNonRepeaters db maxContacts.toNat)
  refill lower target active (getRecentlyAdvertisedNonRepeaters db maxContacts.toNat)

end Select

section Limits
variable {py : Rounding}

theorem effectiveRadioCapacity_pos (configured : Int) (hwLimit : Option Int) :
    1 ≤ effectiveRadioCapacity configured hwLimit :=
  le_max_left 1 _

theorem limits_ordered (py : Rounding) (maxContacts : Int) :
    1 ≤ (computeRadioContactLimits py maxContacts).1 ∧
    (computeRadioContactLimits py maxContacts).1 ≤ (computeRadioContactLimits py maxContacts).2 ∧
    (computeRadioContactLimits py maxContacts).2 ≤ max 1 maxContacts := by
  have refill_le : (computeRadioContactLimits py maxContacts).1 ≤ max 1 maxContacts :=
    max_le (le_max_left 1 _) (min_le_left _ _)
  exact ⟨le_max_left 1 _, le_max_left _ _, max_le refill_le (min_le_left _ _)⟩

end Limits

section Queries
variable {lower : LowerCase} {db : Database}

theorem getFavorites_nodup (distinct : (db.contacts.map (keyOf lower)).Nodup) :
    ((getFavorites db).map (keyOf lower)).Nodup :=
  (List.filter_sublist.map (keyOf lower)).nodup distinct

theorem recent_nodup (distinct : (db.contacts.map (keyOf lower)).Nodup)
    (time : Contact → Option Int) : ((recent time db.contacts).map (keyOf lower)).Nodup := by
  have perm := (sortFalling_perm Prod.snd ((db.contacts.filter isNonRepeater).filterMap fun c =>
    (time c).map fun t => (c, t))).map Prod.fst
  have fsts : ((db.contacts.filter isNonRepeater).filterMap fun c =>
      (time c).map fun t => (c, t)).map Prod.fst =
        (db.contacts.filter isNonRepeater).filter fun c => (time c).isSome := by
    rw [List.map_filterMap]
    refine (List.filterMap_congr fun c _ => ?_).trans (congrFun List.filterMap_eq_filter _)
    cases known : time c <;> simp [Option.guard, known]
  rw [fsts] at perm
  rw [recent, (perm.map (keyOf lower)).nodup_iff]
  exact ((List.filter_sublist.trans List.filter_sublist).map (keyOf lower)).nodup distinct

end Queries

section Selection
variable {py : Rounding} {lower : LowerCase} {db : Database} {maxRadioContacts : Int}
  {hwLimit : Option Int}

/-- The contacts by the plain definition, with the queries not limited. -/
def plainSelection (lower : LowerCase) (maxContacts target : Nat) (db : Database) : List Contact :=
  if target ≤ (getFavorites db).length then (getFavorites db).take maxContacts
  else (firstOccurrences (keyOf lower) (getFavorites db ++ recentlyDmActiveNonRepeaters db ++
    recentlyAdvertisedNonRepeaters db)).take target

/-- Refilling from a list that is cut gives what refilling from all of it gives. -/
theorem refill_take {target limit : Nat} {selected more : List Contact} (within : target ≤ limit)
    (distinct : (more.map (keyOf lower)).Nodup) (few : selected.length ≤ target) :
    refill lower target selected (more.take limit) =
      (more.foldl (addNew (keyOf lower)) selected).take target := by
  unfold refill
  split
  · rename_i room
    rw [fillTo_take room within distinct, fillTo_eq room]
  · rename_i full
    obtain ⟨others, extends_⟩ := prefix_foldl (keyOf lower) more selected
    have reached : selected.length = target := le_antisymm few (Nat.le_of_not_lt full)
    rw [← extends_, ← reached, List.take_left']
    rfl

/-- Cutting in between does not matter. -/
theorem foldl_take {target : Nat} {selected more : List Contact} :
    (more.foldl (addNew (keyOf lower)) (selected.take target)).take target =
      (more.foldl (addNew (keyOf lower)) selected).take target := by
  obtain short | long := Nat.le_total selected.length target
  · rw [List.take_of_length_le short]
  · have reached : target ≤ (selected.take target).length := (List.length_take_of_le long).ge
    obtain ⟨others, cut⟩ := prefix_foldl (keyOf lower) more (selected.take target)
    obtain ⟨others', whole⟩ := prefix_foldl (keyOf lower) more selected
    rw [← cut, ← whole, List.take_append_of_le_length reached, List.take_append_of_le_length long,
      List.take_take, Nat.min_self]

theorem selection_plain (distinct : (db.contacts.map (keyOf lower)).Nodup) :
    getContactsSelectedForRadioSync py lower maxRadioContacts hwLimit db =
      plainSelection lower (effectiveRadioCapacity maxRadioContacts hwLimit).toNat
        (computeRadioContactLimits py (effectiveRadioCapacity maxRadioContacts hwLimit)).1.toNat
        db := by
  have one := effectiveRadioCapacity_pos maxRadioContacts hwLimit
  obtain ⟨target_pos, ordered, capped⟩ :=
    limits_ordered py (effectiveRadioCapacity maxRadioContacts hwLimit)
  rw [max_eq_right one] at capped
  unfold getContactsSelectedForRadioSync
  generalize effectiveRadioCapacity maxRadioContacts hwLimit = maxContacts at *
  dsimp only
  generalize (computeRadioContactLimits py maxContacts).1 = target at *
  have within : target.toNat ≤ maxContacts.toNat := by omega
  have room : ([] : List Contact).length < maxContacts.toNat := by
    rw [List.length_nil]
    omega
  have favorites : (getFavorites db).foldl (addNew (keyOf lower)) [] = getFavorites db := by
    have fresh : (([] ++ getFavorites db).map (keyOf lower)).Nodup := getFavorites_nodup distinct
    exact foldl_new fresh
  rw [fillTo_eq room, favorites, plainSelection]
  split
  · rename_i enough
    have full : ¬ ((getFavorites db).take maxContacts.toNat).length < target.toNat := by
      rw [List.length_take]
      omega
    have stays (more : List Contact) : refill lower target.toNat
        ((getFavorites db).take maxContacts.toNat) more =
          (getFavorites db).take maxContacts.toNat := if_neg full
    rw [stays, stays]
  · rename_i few
    have whole : (getFavorites db).take maxContacts.toNat = getFavorites db :=
      List.take_of_length_le (by omega)
    have active : ((recentlyDmActiveNonRepeaters db).map (keyOf lower)).Nodup :=
      recent_nodup distinct _
    have advertised : ((recentlyAdvertisedNonRepeaters db).map (keyOf lower)).Nodup :=
      recent_nodup distinct _
    rw [whole, getRecentlyDmActiveNonRepeaters, getRecentlyAdvertisedNonRepeaters,
      refill_take within active (Nat.le_of_not_le few),
      refill_take within advertised (List.length_take_le _ _), foldl_take,
      ← foldl_nil_firstOccurrences, List.foldl_append, List.foldl_append, favorites]

/-- What is selected is what the plain definition says, without duplicates and within the
capacity, and the limits are in order. -/
theorem selection_spec (distinct : (db.contacts.map (keyOf lower)).Nodup) :
    let capacity := effectiveRadioCapacity maxRadioContacts hwLimit
    let limits := computeRadioContactLimits py capacity
    let selected := getContactsSelectedForRadioSync py lower maxRadioContacts hwLimit db
    selected = plainSelection lower capacity.toNat limits.1.toNat db ∧
      (selected.map (keyOf lower)).Nodup ∧ selected.length ≤ capacity ∧
      1 ≤ limits.1 ∧ limits.1 ≤ limits.2 ∧ limits.2 ≤ capacity := by
  have one := effectiveRadioCapacity_pos maxRadioContacts hwLimit
  obtain ⟨target_pos, ordered, capped⟩ :=
    limits_ordered py (effectiveRadioCapacity maxRadioContacts hwLimit)
  rw [max_eq_right one] at capped
  dsimp only
  rw [selection_plain distinct]
  refine ⟨rfl, ?_, ?_, target_pos, ordered, capped⟩
  · unfold plainSelection
    split
    · exact ((List.take_sublist _ _).map _).nodup (getFavorites_nodup distinct)
    · rw [← foldl_nil_firstOccurrences]
      exact ((List.take_sublist _ _).map _).nodup (foldl_nodup _ List.nodup_nil)
  · unfold plainSelection
    split
    · rw [List.length_take]
      omega
    · rw [List.length_take]
      omega

private def sample : Database where
  contacts := [⟨List.replicate 64 'a', some 1, some 1, none⟩,
    ⟨List.replicate 64 'b', some 1, some 0, some 5⟩, ⟨List.replicate 64 'c', some 2, some 0, some 9⟩]
  messages := [⟨"PRIV", List.replicate 64 'b', 3⟩]

theorem selection_spec_sample :
    let selected := getContactsSelectedForRadioSync .exact .asciiOnly 3 (some 2) sample
    selected = plainSelection .asciiOnly 2
        (computeRadioContactLimits .exact (effectiveRadioCapacity 3 (some 2))).1.toNat sample ∧
      (selected.map (keyOf .asciiOnly)).Nodup ∧ selected.length ≤ 2 := by
  have distinct : (sample.contacts.map (keyOf .asciiOnly)).Nodup := by decide
  have sound : let capacity := effectiveRadioCapacity 3 (some 2)
      let limits := computeRadioContactLimits .exact capacity
      let selected := getContactsSelectedForRadioSync .exact .asciiOnly 3 (some 2) sample
      selected = plainSelection .asciiOnly capacity.toNat limits.1.toNat sample ∧
        (selected.map (keyOf .asciiOnly)).Nodup ∧ selected.length ≤ capacity ∧
        1 ≤ limits.1 ∧ limits.1 ≤ limits.2 ∧ limits.2 ≤ capacity := selection_spec distinct
  obtain ⟨plain, unique, short, -⟩ := sound
  exact ⟨plain, unique, Int.ofNat_le.mp short⟩

end Selection

end Meshloom.ContactSelection
