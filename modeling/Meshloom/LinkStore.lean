import Mathlib.Order.Lattice
import Meshloom.Dict

/-! Undirected links that are stored under a key of their ends, and the neighbours of each node kept
beside them. A key tells pairs apart only where pairs are of the form that it was made for. -/
namespace Meshloom.LinkStore

structure Link (ν τ : Type) where
  sourceId : ν
  targetId : ν
  lastActivity : τ
  deriving DecidableEq

/-- A key of the pairs of nodes, whichever comes first. -/
structure PairKey (ν κ : Type) where
  key : ν → ν → κ
  /-- The pairs that the key is made for. -/
  Fits : ν → ν → Prop
  symm : ∀ a b, key a b = key b a
  fits_symm : ∀ a b, Fits a b → Fits b a
  inj : ∀ a b c d, Fits a b → Fits c d → key a b = key c d → a = c ∧ b = d ∨ a = d ∧ b = c

section Store
variable {ν κ τ : Type} [DecidableEq ν] [DecidableEq κ] [LinearOrder τ]

/-- A link that is there is only brought up to date. -/
def addLink (key : ν → ν → κ) (links : Dict κ (Link ν τ)) (a b : ν) (at_ : τ) : Dict κ (Link ν τ) :=
  match links.get? (key a b) with
  | some existing => links.set (key a b) { existing with lastActivity := max existing.lastActivity at_ }
  | none => links.set (key a b) ⟨a, b, at_⟩

def neighborsOf (neighbors : Dict ν (List ν)) (a : ν) : List ν := (neighbors.get? a).getD []

def addNeighbor (neighbors : Dict ν (List ν)) (a b : ν) : Dict ν (List ν) :=
  neighbors.set a (if b ∈ neighborsOf neighbors a then neighborsOf neighbors a
    else neighborsOf neighbors a ++ [b])

def upsertNeighbor (neighbors : Dict ν (List ν)) (a b : ν) : Dict ν (List ν) :=
  addNeighbor (addNeighbor neighbors a b) b a

/-- The neighbours that the links make. -/
def rebuild (links : Dict κ (Link ν τ)) : Dict ν (List ν) :=
  links.entries.foldl (fun neighbors entry =>
    upsertNeighbor neighbors entry.2.sourceId entry.2.targetId) Dict.empty

/-- The pair in one order or in the other. -/
def SamePair (a b x y : ν) : Prop := x = a ∧ y = b ∨ x = b ∧ y = a

instance (a b x y : ν) : Decidable (SamePair a b x y) := inferInstanceAs (Decidable (_ ∨ _))

omit [DecidableEq ν] in
theorem samePair_symm {a b x y : ν} (same : SamePair a b x y) : SamePair a b y x :=
  same.symm.imp And.symm And.symm

def Joins (link : Link ν τ) (a b : ν) : Prop := SamePair link.sourceId link.targetId a b

def Linked (links : Dict κ (Link ν τ)) (a b : ν) : Prop := ∃ k link, links.get? k = some link ∧ Joins link a b

/-- Each link joins two nodes of a pair that the key is made for, and is stored under it. -/
def Kept (pair : PairKey ν κ) (links : Dict κ (Link ν τ)) : Prop :=
  ∀ k link, links.get? k = some link → k = pair.key link.sourceId link.targetId ∧
    link.sourceId ≠ link.targetId ∧ pair.Fits link.sourceId link.targetId

/-- The neighbours of a node are those that it is linked to. -/
def Mirrors (links : Dict κ (Link ν τ)) (neighbors : Dict ν (List ν)) : Prop :=
  ∀ a b, b ∈ neighborsOf neighbors a ↔ Linked links a b

variable {pair : PairKey ν κ} {links : Dict κ (Link ν τ)} {neighbors : Dict ν (List ν)} {a b : ν}

omit [DecidableEq ν] [LinearOrder τ] in
theorem linked_symm {x y : ν} (linked : Linked links x y) : Linked links y x := by
  obtain ⟨k, link, found, joins⟩ := linked
  exact ⟨k, link, found, samePair_symm joins⟩

omit [DecidableEq ν] in
theorem get?_addLink (key : ν → ν → κ) (links : Dict κ (Link ν τ)) (a b : ν) (at_ : τ) (k : κ) :
    (addLink key links a b at_).get? k =
      if k = key a b then
        some (((links.get? k).map fun link => { link with lastActivity := max link.lastActivity at_ }).getD
          ⟨a, b, at_⟩)
      else links.get? k := by
  unfold addLink
  by_cases same : k = key a b
  · subst same
    cases found : links.get? (key a b) with
    | none => simp
    | some link => simp
  · rw [if_neg same]
    split <;> rw [Dict.get?_set, if_neg same]

omit [DecidableEq ν] in
theorem kept_addLink (kept : Kept pair links) (distinct : a ≠ b) (fits : pair.Fits a b) (at_ : τ) :
    Kept pair (addLink pair.key links a b at_) := by
  intro k link found
  rw [get?_addLink] at found
  split at found
  · rename_i under
    cases before : links.get? k with
    | none =>
        rw [before] at found
        cases found
        exact ⟨under, distinct, fits⟩
    | some old =>
        rw [before] at found
        cases found
        exact kept k old before
  · exact kept k link found

omit [DecidableEq ν] in
/-- A link is added between its ends, and no other. -/
theorem linked_addLink (kept : Kept pair links) (fits : pair.Fits a b) (at_ : τ) {x y : ν} :
    Linked (addLink pair.key links a b at_) x y ↔ Linked links x y ∨ SamePair a b x y := by
  constructor
  · rintro ⟨k, link, found, joins⟩
    rw [get?_addLink] at found
    split at found
    · rename_i under
      cases before : links.get? k with
      | none =>
          rw [before] at found
          cases found
          exact .inr joins
      | some old =>
          rw [before] at found
          cases found
          exact .inl ⟨k, old, before, joins⟩
    · exact .inl ⟨k, link, found, joins⟩
  · rintro (⟨k, link, found, joins⟩ | same)
    · by_cases under : k = pair.key a b
      · exact ⟨k, { link with lastActivity := max link.lastActivity at_ },
          by rw [get?_addLink, if_pos under, found]; rfl, joins⟩
      · exact ⟨k, link, by rw [get?_addLink, if_neg under, found], joins⟩
    · have there : ∃ link, (addLink pair.key links a b at_).get? (pair.key a b) = some link ∧ Joins link a b := by
        rw [get?_addLink, if_pos rfl]
        cases before : links.get? (pair.key a b) with
        | none => exact ⟨_, rfl, .inl ⟨rfl, rfl⟩⟩
        | some old =>
            obtain ⟨under, -, old_fits⟩ := kept _ old before
            refine ⟨_, rfl, ?_⟩
            obtain ⟨rfl, rfl⟩ | ⟨rfl, rfl⟩ := pair.inj _ _ _ _ fits old_fits under
            · exact .inl ⟨rfl, rfl⟩
            · exact .inr ⟨rfl, rfl⟩
      obtain ⟨link, found, joins⟩ := there
      have linked : Linked (addLink pair.key links a b at_) a b := ⟨_, link, found, joins⟩
      obtain ⟨rfl, rfl⟩ | ⟨rfl, rfl⟩ := same
      · exact linked
      · exact linked_symm linked

omit [LinearOrder τ] in
theorem mem_addNeighbor {x y : ν} :
    y ∈ neighborsOf (addNeighbor neighbors a b) x ↔ y ∈ neighborsOf neighbors x ∨ x = a ∧ y = b := by
  unfold addNeighbor
  by_cases same : x = a
  · subst same
    rw [neighborsOf, Dict.get?_set, if_pos rfl, Option.getD_some]
    split
    · rename_i known
      constructor
      · exact .inl
      · rintro (before | ⟨-, rfl⟩)
        · exact before
        · exact known
    · simp
  · rw [neighborsOf, Dict.get?_set, if_neg same, ← neighborsOf]
    simp [same]

theorem mem_upsertNeighbor {x y : ν} :
    y ∈ neighborsOf (upsertNeighbor neighbors a b) x ↔
      y ∈ neighborsOf neighbors x ∨ SamePair a b x y := by
  rw [upsertNeighbor, mem_addNeighbor, mem_addNeighbor, or_assoc, SamePair]

/-- A link and its neighbours added together keep the mirror. -/
theorem mirrors_add (kept : Kept pair links) (mirrors : Mirrors links neighbors)
    (fits : pair.Fits a b) (at_ : τ) :
    Mirrors (addLink pair.key links a b at_) (upsertNeighbor neighbors a b) := by
  intro x y
  rw [mem_upsertNeighbor, linked_addLink kept fits, mirrors]

omit [LinearOrder τ] in
theorem mirrors_rebuild (links : Dict κ (Link ν τ)) : Mirrors links (rebuild links) := by
  have scan (entries : List (κ × Link ν τ)) (neighbors : Dict ν (List ν)) (x y : ν) :
      y ∈ neighborsOf (entries.foldl (fun neighbors entry =>
          upsertNeighbor neighbors entry.2.sourceId entry.2.targetId) neighbors) x ↔
        y ∈ neighborsOf neighbors x ∨ ∃ entry ∈ entries, Joins entry.2 x y := by
    induction entries generalizing neighbors with
    | nil => simp
    | cons entry rest ih =>
        rw [List.foldl_cons, ih, mem_upsertNeighbor, List.exists_mem_cons_iff, or_assoc]
        rfl
  intro x y
  rw [rebuild, scan]
  constructor
  · rintro (none_yet | ⟨entry, member, joins⟩)
    · cases none_yet
    · exact ⟨entry.1, entry.2, (Dict.mem_iff_get? _).mp member, joins⟩
  · rintro ⟨k, link, found, joins⟩
    exact .inr ⟨(k, link), (Dict.mem_iff_get? _).mpr found, joins⟩

end Store
end Meshloom.LinkStore
