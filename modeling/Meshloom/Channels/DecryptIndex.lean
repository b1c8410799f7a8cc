import Mathlib.Data.List.Sort
import Meshloom.Bytes
import Meshloom.Dict
import Meshloom.LazyIndex
import Meshloom.Text

/-! The index of the channels a packet may be decrypted with (`app/repository/channels.py`): the
writes that can add, remove or rename a channel, and the candidates by the first byte of the
key's hash. The columns that these writes leave alone, and a database object that is replaced,
are left out. -/
namespace Meshloom.DecryptIndex
open LazyIndex Transition

inductive Membership where
  | adopted
  | pending
  deriving DecidableEq, Repr

/-- A row of `channels`, without its key. -/
structure Channel where
  name : String
  isHashtag : Bool
  onRadio : Bool
  membership : Membership
  deriving DecidableEq, Repr

abbrev Table := Dict (List Char) Channel

/-- The key, the name and the key's bytes. -/
structure Candidate where
  key : List Char
  name : String
  keyBytes : List UInt8
  deriving DecidableEq, Repr

inductive Write where
  | upsert (key : List Char) (channel : Channel)
  | upsertName (key : List Char) (name : String) (isHashtag : Bool) (membership : Membership)
  | insertIfAbsent (key : List Char) (name : String) (isHashtag : Bool) (membership : Membership)
  | delete (key : List Char)

section Index
-- `str.upper`, and the first byte of a SHA-256 digest.
variable (upper : List Char → List Char) (hashByte : List UInt8 → UInt8)

def normalizeChannelKey (key : List Char) : List Char := upper (Text.strip key)

def upsertName (table : Table) (key : List Char) (name : String) (isHashtag : Bool)
    (membership : Membership) : Table :=
  let key := normalizeChannelKey upper key
  match table.get? key with
  | some row => table.set key { row with name, isHashtag, membership }
  | none => table.set key ⟨name, isHashtag, false, membership⟩

def insertIfAbsent (table : Table) (key : List Char) (name : String) (isHashtag : Bool)
    (membership : Membership) : Table :=
  let key := normalizeChannelKey upper key
  match table.get? key with
  | some _ => table
  | none => table.set key ⟨name, isHashtag, false, membership⟩

def applyWrite (table : Table) : Write → Table
  | .upsert key channel => table.set (normalizeChannelKey upper key) channel
  | .upsertName key name isHashtag membership =>
      upsertName upper table key name isHashtag membership
  | .insertIfAbsent key name isHashtag membership =>
      insertIfAbsent upper table key name isHashtag membership
  | .delete key => table.pop (normalizeChannelKey upper key)

/-- `SELECT … ORDER BY name` -/
def getAll (table : Table) : List (List Char × Channel) :=
  table.entries.insertionSort fun a b => a.2.name ≤ b.2.name

abbrev Index := Dict UInt8 (List Candidate)

/-- One round of the loop that builds the index. -/
def addToIndex (index : Index) (row : List Char × Channel) : Index :=
  match Bytes.fromHex row.1 with
  | none => index
  | some keyBytes =>
      let bucket := (index.get? (hashByte keyBytes)).getD []
      index.set (hashByte keyBytes) (bucket ++ [⟨row.1, row.2.name, keyBytes⟩])

def buildIndex (rows : List (List Char × Channel)) : Index :=
  rows.foldl (addToIndex hashByte) Dict.empty

/-- `get_decrypt_candidates`, over the writes with `_invalidates_decrypt_index`. -/
def scheme : Scheme Table Write Index UInt8 (List Candidate) where
  apply := applyWrite upper
  build table := buildIndex hashByte (getAll table)
  find index channelHash := (index.get? channelHash).getD []

/-- A channel whose key is hexadecimal and hashes to this byte. -/
def candidate (channelHash : UInt8) (row : List Char × Channel) : Option Candidate :=
  (Bytes.fromHex row.1).bind fun keyBytes =>
    if hashByte keyBytes = channelHash then some ⟨row.1, row.2.name, keyBytes⟩ else none

end Index

section Proofs
variable {upper : List Char → List Char} {hashByte : List UInt8 → UInt8}

theorem mem_getAll {table : Table} : row ∈ getAll table ↔ row ∈ table.entries :=
  List.mem_insertionSort _

theorem find_addToIndex (index : Index) (row : List Char × Channel) (channelHash : UInt8) :
    ((addToIndex hashByte index row).get? channelHash).getD [] =
      (index.get? channelHash).getD [] ++ (candidate hashByte channelHash row).toList := by
  cases valid : Bytes.fromHex row.1 with
  | none => simp [addToIndex, candidate, valid]
  | some keyBytes =>
      obtain rfl | other := eq_or_ne (hashByte keyBytes) channelHash
      · simp [addToIndex, candidate, valid]
      · simp [addToIndex, candidate, valid, other, other.symm]

/-- A bucket of the index has the channels whose keys hash to its byte, in order. -/
theorem find_buildIndex (rows : List (List Char × Channel)) (channelHash : UInt8) :
    ((buildIndex hashByte rows).get? channelHash).getD [] =
      rows.filterMap (candidate hashByte channelHash) := by
  have from_ : ∀ index : Index, ((rows.foldl (addToIndex hashByte) index).get? channelHash).getD [] =
      (index.get? channelHash).getD [] ++ rows.filterMap (candidate hashByte channelHash) := by
    induction rows with
    | nil =>
        intro index
        rw [List.foldl_nil, List.filterMap_nil, List.append_nil]
    | cons row rows ih =>
        intro index
        rw [List.foldl_cons, ih, find_addToIndex, List.append_assoc]
        cases found : candidate hashByte channelHash row with
        | none => rw [List.filterMap_cons_none found]; rfl
        | some c => rw [List.filterMap_cons_some found]; rfl
  have built := from_ Dict.empty
  rwa [Dict.get?_empty, Option.getD_none, List.nil_append] at built

theorem candidate_key {c : Candidate} (found : candidate hashByte channelHash row = some c) :
    c.key = row.1 := by
  obtain ⟨keyBytes, valid, found⟩ := Option.bind_eq_some_iff.mp found
  obtain ⟨same, found⟩ := Option.ite_none_right_eq_some.mp found
  cases found
  rfl

/-- The candidates are the channels of a table that has every write that had returned before
the call; no channel that is there all the while is skipped, and none that is not is tried. -/
theorem decrypt_candidates_current {table : Table}
    {s s' u : LazyIndex.State Table Write Index UInt8 (List Candidate)}
    (before : Reaches (step (scheme upper hashByte)) Any (start table) s)
    (asked : step (scheme upper hashByte) s (.query t channelHash) = some s')
    (after : Reaches (step (scheme upper hashByte)) Any s' u)
    (answered : u.tasks t = .answered query since candidates) :
    let tables := contentAfter (scheme upper hashByte) table u.writes
    (∃ count ≤ u.writes.length,
      (∀ i write n, s.tasks i = .returned write (some n) → write ∈ u.writes.take count) ∧
        candidates = (getAll (tables count)).filterMap (candidate hashByte channelHash)) ∧
    (∀ row c, (∀ n, s.landed ≤ n → n ≤ u.writes.length → row ∈ (tables n).entries) →
      candidate hashByte channelHash row = some c → c ∈ candidates) ∧
    ∀ key, (∀ n, s.landed ≤ n → n ≤ u.writes.length → (tables n).get? key = none) →
      ∀ c ∈ candidates, c.key ≠ key := by
  intro tables
  obtain ⟨-, count, landed, within, returned, same⟩ := answered_after before asked after answered
  have found : candidates = (getAll (tables count)).filterMap (candidate hashByte channelHash) :=
    same.trans (find_buildIndex _ _)
  refine ⟨⟨count, within, returned, found⟩, fun row c present hashes => ?_,
    fun key absent c member same => ?_⟩
  · rw [found]
    exact List.mem_filterMap.mpr ⟨row, mem_getAll.mpr (present count landed within), hashes⟩
  · rw [found] at member
    obtain ⟨row, member, hashes⟩ := List.mem_filterMap.mp member
    have key_ : row.1 = key := (candidate_key hashes).symm.trans same
    have gone := absent count landed within
    have present := (Dict.mem_iff_get? _).mp (mem_getAll.mp member)
    rw [key_, gone] at present
    cases present

/-- The first byte of the SHA-256 digest of 16 zero bytes. -/
def zeroKeyHash : UInt8 := 0x37

/-- A channel that is adopted while an index is being built is among the candidates after that. -/
theorem adopted_tried :
    let σ := scheme (List.map Char.toUpper) fun _ => zeroKeyHash
    let write := Write.upsert (List.replicate 32 '0') ⟨"#zero", true, false, .adopted⟩
    ∃ s s' u candidates,
      execute (step σ) (start Dict.empty)
        [.query 0 zeroKeyHash, .read 0, .write 1 write, .commit 1, .settle 1, .resume 0] = some s ∧
      step σ s (.query 2 zeroKeyHash) = some s' ∧
      execute (step σ) s' [.read 2, .resume 2] = some u ∧
      u.tasks 2 = .answered zeroKeyHash 1 candidates ∧
      ∃ count ≤ u.writes.length,
        (∀ i write n, s.tasks i = .returned write (some n) → write ∈ u.writes.take count) ∧
        candidates = (getAll (contentAfter σ Dict.empty u.writes count)).filterMap
          (candidate (fun _ => zeroKeyHash) zeroKeyHash) := by
  intro σ write
  refine ⟨_, _, _, _, rfl, rfl, rfl, rfl, ?_⟩
  have before := @execute_reaches _ _ (step σ) (start Dict.empty) _
    [.query 0 zeroKeyHash, .read 0, .write 1 write, .commit 1, .settle 1, .resume 0] rfl
  have after := fun s' u => @execute_reaches _ _ (step σ) s' u [.read 2, .resume 2]
  exact (decrypt_candidates_current (t := 2) before rfl (after _ _ rfl) rfl).1

end Proofs

end Meshloom.DecryptIndex
