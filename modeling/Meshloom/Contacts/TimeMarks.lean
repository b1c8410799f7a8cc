import Meshloom.Contacts.ContactRepository
import Meshloom.Marks

/-! The time marks of a contact. Each statement that writes one takes the later or the earlier
of two marks, of which either may be missing, so that an observation that comes late moves no
mark back, in whatever order the operations come. -/
namespace Meshloom.Contacts
open Messages (Key lower)
open Marks Sql Transition

theorem later_of_gt3 (stored new : Int) :
    (if holds (gt3 (some new) (some stored)) then some new else some stored) =
      some (max stored new) := by
  simp only [holds, gt3, Option.some.injEq, decide_eq_true_eq]
  split <;> simp only [Option.some.injEq] <;> omega

theorem earlier_of_gt3 (stored new : Int) :
    (if holds (gt3 (some stored) (some new)) then some new else some stored) =
      some (min stored new) := by
  simp only [holds, gt3, Option.some.injEq, decide_eq_true_eq]
  split <;> simp only [Option.some.injEq] <;> omega

theorem conflictLastSeen_eq (stored excluded : Option Int) :
    conflictLastSeen stored excluded = Option.merge max stored excluded := by
  cases stored with
  | none => cases excluded <;> rfl
  | some stored =>
      cases excluded with
      | none => rfl
      | some excluded => exact later_of_gt3 stored excluded

theorem bumpLastSeen_eq (stored timestamp : Option Int) :
    bumpLastSeen stored timestamp = Option.merge max stored timestamp := by
  cases stored with
  | none => cases timestamp <;> rfl
  | some stored =>
      cases timestamp with
      | none => rfl
      | some timestamp => exact later_of_gt3 stored timestamp

theorem mergeLatest_eq (stored old : Option Int) :
    mergeLatest stored old = Option.merge max stored old := by
  cases stored with
  | none => cases old <;> rfl
  | some stored =>
      cases old with
      | none => rfl
      | some old => exact later_of_gt3 stored old

theorem mergeEarliest_eq (stored old : Option Int) :
    mergeEarliest stored old = Option.merge min stored old := by
  cases stored with
  | none => cases old <;> rfl
  | some stored =>
      cases old with
      | none => rfl
      | some old => exact earlier_of_gt3 stored old

/-- What every statement keeps of a row: it was not last seen earlier, nor first seen later. -/
structure Kept (old new : Contact) : Prop where
  lastSeen : NotEarlier old.lastSeen new.lastSeen
  firstSeen : NotLater old.firstSeen new.firstSeen

theorem Kept.refl (contact : Contact) : Kept contact contact :=
  ⟨NotEarlier.refl _, NotLater.refl _⟩

theorem Kept.trans (first : Kept a b) (second : Kept b c) : Kept a c :=
  ⟨NotEarlier.trans first.lastSeen second.lastSeen, NotLater.trans first.firstSeen second.firstSeen⟩

/-- A statement that leaves both marks alone. -/
theorem Kept.of_same (lastSeen : new.lastSeen = old.lastSeen)
    (firstSeen : new.firstSeen = old.firstSeen) : Kept old new := by
  refine ⟨?_, ?_⟩
  · rw [lastSeen]
    exact NotEarlier.refl _
  · rw [firstSeen]
    exact NotLater.refl _

theorem onConflict_kept (stored excluded : Contact) : Kept stored (onConflict stored excluded) := by
  refine ⟨?_, fun x found => ⟨x, ?_, le_refl x⟩⟩
  · simp only [onConflict, conflictLastSeen_eq]
    exact notEarlier_latest _ _
  · simp only [onConflict, coalesce, found, Option.some_or]

theorem absorb_kept (contact placeholder : Contact) : Kept contact (absorb contact placeholder) := by
  refine ⟨?_, ?_⟩
  · simp only [absorb, mergeLatest_eq]
    exact notEarlier_latest _ _
  · simp only [absorb, mergeEarliest_eq]
    exact notLater_earliest _ _

/-- The row of a key that stands before and after is kept. -/
def KeptAt (key : Key) (contacts contacts' : Table) : Prop :=
  ∀ old new, contacts.get? key = some old → contacts'.get? key = some new → Kept old new

theorem update_kept {change : Contact → Contact} (kept : ∀ contact, Kept contact (change contact)) :
    KeptAt key contacts (update contacts target change) := by
  intro old new before after
  simp only [update] at after
  split at after
  · rw [before] at after
    cases after
    exact .refl _
  · rename_i contact found
    simp only [Dict.get?_set] at after
    split at after
    · rename_i same
      rw [same, found] at before
      cases before
      cases after
      exact kept _
    · rw [before] at after
      cases after
      exact .refl _

/-- An update makes no row. -/
theorem get?_update_none {contacts : Table} (absent : contacts.get? key = none) :
    (update contacts target change).get? key = none := by
  simp only [update]
  split
  · exact absent
  · rename_i contact found
    rw [Dict.get?_set]
    split
    · rename_i same
      rw [same, found] at absent
      contradiction
    · exact absent

theorem upsert_kept (contact : ContactUpsert) : KeptAt key contacts (upsert contacts contact) := by
  intro old new before after
  simp only [upsert] at after
  split at after
  · rename_i absent
    simp only [Dict.get?_set] at after
    split at after
    · rename_i same
      rw [same, absent] at before
      contradiction
    · rw [before] at after
      cases after
      exact .refl _
  · rename_i stored found
    simp only [Dict.get?_set] at after
    split at after
    · rename_i same
      rw [same, found] at before
      cases before
      cases after
      exact onConflict_kept _ _
    · rw [before] at after
      cases after
      exact .refl _

/-- One round of the promotion; a row that is gone does not come back. -/
theorem promote_kept (fullKey : Key) (state : Table × List Key) (row : Key × Contact) :
    KeptAt key state.1 (promote fullKey state row).1 ∧
      (state.1.get? key = none → (promote fullKey state row).1.get? key = none) := by
  obtain ⟨contacts, promoted⟩ := state
  simp only [promote]
  split
  · refine ⟨fun old new before after => ?_, fun absent => absent⟩
    rw [before] at after
    cases after
    exact .refl _
  · have kept : KeptAt key contacts (update contacts fullKey (absorb · row.2)) :=
      update_kept fun contact => absorb_kept contact row.2
    refine ⟨fun old new before after => ?_, fun absent => ?_⟩
    · simp only [Dict.get?_pop] at after
      split at after
      · contradiction
      · exact kept old new before after
    · rw [Dict.get?_pop]
      split
      · rfl
      · exact get?_update_none absent

theorem promoteAll_kept (fullKey : Key) (rows : List (Key × Contact)) (state : Table × List Key) :
    KeptAt key state.1 (rows.foldl (promote fullKey) state).1 ∧
      (state.1.get? key = none → (rows.foldl (promote fullKey) state).1.get? key = none) := by
  induction rows generalizing state with
  | nil =>
      refine ⟨fun old new before after => ?_, fun absent => absent⟩
      rw [List.foldl_nil, before] at after
      cases after
      exact .refl _
  | cons row rest ih =>
      obtain ⟨kept, gone⟩ := promote_kept fullKey state row
      obtain ⟨later, stays⟩ := ih (promote fullKey state row)
      refine ⟨fun old new before after => ?_, fun absent => stays (gone absent)⟩
      cases between : (promote fullKey state row).1.get? key with
      | none =>
          rw [List.foldl_cons, stays between] at after
          contradiction
      | some contact => exact (kept old contact before between).trans (later contact new between after)

theorem apply_kept (contacts : Table) (operation : Operation) :
    KeptAt key contacts (apply contacts operation) := by
  cases operation with
  | upsert contact => exact upsert_kept contact
  | upsertReportingInsert contact => exact upsert_kept contact
  | updateDirectPath publicKey path pathLen pathHashMode updatedAt now =>
      refine update_kept fun contact => ⟨?_, NotLater.refl _⟩
      simp only [bumpLastSeen_eq]
      exact notEarlier_latest _ _
  | touchLastSeen publicKey timestamp =>
      refine update_kept fun contact => ⟨?_, NotLater.refl _⟩
      simp only [bumpLastSeen_eq]
      exact notEarlier_latest _ _
  | updateLastContacted publicKey timestamp now =>
      exact update_kept fun contact => .of_same rfl rfl
  | setRoutingOverride publicKey path pathLen pathHashMode =>
      exact update_kept fun contact => .of_same rfl rfl
  | promotePrefixPlaceholders fullKey =>
      exact (promoteAll_kept (lower fullKey) _ (contacts, [])).1

/-- The row of the key is there when the operation is done. -/
def Stays (key : Key) (contacts : Table) (operation : Operation) : Prop :=
  ((apply contacts operation).get? key).isSome = true

/-- As long as a contact's row exists, it is never last seen earlier or first seen later than it
was, and neither mark is lost. -/
theorem time_marks_monotone {contacts contacts' : Table} (found : contacts.get? key = some old)
    (run : Reaches step (Stays key) contacts contacts') :
    ∃ new, contacts'.get? key = some new ∧ NotEarlier old.lastSeen new.lastSeen ∧
      NotLater old.firstSeen new.firstSeen := by
  have kept : ∃ new, contacts'.get? key = some new ∧ Kept old new := by
    refine run.invariant (P := fun table => ∃ new, table.get? key = some new ∧ Kept old new) ?_
      ⟨old, found, .refl old⟩
    rintro table operation next ⟨between, standing, kept⟩ stays stepped
    cases stepped
    obtain ⟨new, after⟩ := Option.isSome_iff_exists.mp stays
    exact ⟨new, after, kept.trans (apply_kept table operation between new standing after)⟩
  obtain ⟨new, after, lastSeen, firstSeen⟩ := kept
  exact ⟨new, after, lastSeen, firstSeen⟩

def fullKey : Key := List.replicate 64 'a'
def placeholderKey : Key := List.replicate 12 'a'

def heard (publicKey : Key) (lastSeen firstSeen : Option Int) : ContactUpsert :=
  { publicKey, name := none, type := 1, flags := 0, directPath := none, directPathLen := none
    directPathHashMode := none, directPathUpdatedAt := none, routeOverridePath := none
    routeOverrideLen := none, routeOverrideHashMode := none, lastAdvert := none, lat := none
    lon := none, lastSeen, onRadio := none, lastContacted := none, firstSeen }

/-- A contact, and a placeholder for it. -/
def twoRows : Table :=
  upsert (upsert .empty (heard placeholderKey (some 120) (some 40))) (heard fullKey (some 100) none)

/-- An old advert and the merge of the placeholder. -/
def oldAdvert : Operation := .upsert (heard fullKey (some 90) (some 90))

theorem twoRows_monotone : ∃ contacts' new,
    contacts' = apply (apply twoRows oldAdvert) (.promotePrefixPlaceholders fullKey) ∧
    contacts'.get? fullKey = some new ∧ NotEarlier (some 100) new.lastSeen := by
  have marks : (twoRows.get? fullKey).map Contact.lastSeen = some (some 100) := by decide +kernel
  obtain ⟨old, found, seen⟩ := Option.map_eq_some_iff.mp marks
  have first : Stays fullKey twoRows oldAdvert := by
    rw [Stays]
    decide +kernel
  have second : Stays fullKey (apply twoRows oldAdvert) (.promotePrefixPlaceholders fullKey) := by
    rw [Stays]
    decide +kernel
  have run : Reaches step (Stays fullKey) twoRows
      (apply (apply twoRows oldAdvert) (.promotePrefixPlaceholders fullKey)) :=
    .next (.next (.refl twoRows) first rfl) second rfl
  obtain ⟨new, after, lastSeen, _⟩ := time_marks_monotone found run
  exact ⟨_, new, rfl, after, seen ▸ lastSeen⟩

end Meshloom.Contacts
