import Meshloom.Text
import Meshloom.Transition

/-! The background reconcile of the radio's contacts (`app/radio_sync.py`), one contact or command
a step. The counters and texts it logs and a contact's fields other than its key are left out. -/
namespace Meshloom.ContactReconcile

def contactReconcileBatchSize : Nat := 2
def maxAutoevictRetries : Nat := 3

def errorNotFound : Nat := 2
def errorTableFull : Nat := 3

abbrev Key := List Char

def keyPrefix (key : Key) : Key := key.take 12

inductive Reply where
  | ok
  /-- With the `error_code` of its payload. -/
  | error (code : Option Nat)
  | raised
  deriving DecidableEq, Repr

/-- Assignment to a key of a dictionary, or of the radio's table. -/
def assign (keys : List Key) (key : Key) : List Key := if key ∈ keys then keys else keys ++ [key]

def pop (keys : List Key) (key : Key) : List Key := keys.filter (· ≠ key)

@[simp] theorem mem_assign : other ∈ assign keys key ↔ other = key ∨ other ∈ keys := by
  unfold assign
  split
  · rename_i present
    exact ⟨.inr, fun member => member.elim (· ▸ present) fun member => member⟩
  · rw [List.mem_append, List.mem_singleton, or_comm]

@[simp] theorem mem_pop : other ∈ pop keys key ↔ other ∈ keys ∧ other ≠ key := by
  simp [pop]

/-- What becomes of a command. One that is not acknowledged may have had its effect. -/
inductive Fate where
  | answered
  | error (code : Option Nat) (applied : Bool)
  | raised (applied : Bool)
  deriving DecidableEq, Repr

/-- The radio's `remove_contact`. It says "not found" only of a contact it does not have. -/
def removeContact (table : List Key) (key : Key) : Fate → Option (Reply × List Key)
  | .answered =>
      if key ∈ table then some (.ok, pop table key)
      else some (.error (some errorNotFound), table)
  | .error code applied =>
      if code = some errorNotFound then none
      else some (.error code, if applied then pop table key else table)
  | .raised applied => some (.raised, if applied then pop table key else table)

/-- The radio's `add_contact`. -/
def addContact (table : List Key) (key : Key) : Fate → Reply × List Key
  | .answered => (.ok, assign table key)
  | .error code applied => (.error code, if applied then assign table key else table)
  | .raised applied => (.raised, if applied then assign table key else table)

structure Config where
  /-- The public keys of `get_contacts_selected_for_radio_sync()`. -/
  selected : List Key
  autoevict : Bool
  /-- `mc.get_contact_by_key_prefix`, over the keys in the library's cache. -/
  getContactByKeyPrefix : List Key → Key → Option Key

def Config.desiredFillContacts (config : Config) : List Key :=
  (config.selected.filter fun key => 64 ≤ key.length).map (·.map Char.toLower)

/-- The keys of `desired_contacts`. -/
def Config.desiredContacts (config : Config) : List Key := config.desiredFillContacts.eraseDups

inductive Exit where
  | complete
  | transportChanged
  | tableFull
  /-- After the last of the passes that failed. -/
  | givenUp
  /-- Cancelled, or ended by an error. -/
  | stopped
  deriving DecidableEq, Repr

/-- Where the task is; past the top it holds the radio operation. -/
inductive Phase where
  | top
  | removing (pending : List Key) (budget : Nat)
  | adding (pending : List Key) (budget : Nat)
  | filling (pending : List Key) (processed : Nat) (passFailed : Bool)
  | ended (exit : Exit)
  deriving DecidableEq, Repr

inductive Entry where
  /-- A batch of the blind fill, from this index on. -/
  | batch (index : Nat)
  | remove (key : Key) (reply : Reply)
  | add (key : Key) (reply : Reply)
  deriving DecidableEq, Repr

structure State where
  /-- The radio's contact table. -/
  table : List Key
  /-- `mc._contacts` -/
  cache : List Key
  radioContacts : List Key
  nextIndex : Nat
  retries : Nat
  phase : Phase
  /-- The latest first. -/
  log : List Entry

/-- What the task finds at the top of the loop. -/
inductive Lock where
  | disconnected
  | busy
  | acquired (sameRadio : Bool)
  deriving DecidableEq, Repr

inductive Event where
  | lock (lock : Lock)
  /-- The task goes on without a command. -/
  | next
  | command (fate : Fate)
  | stopped
  deriving DecidableEq, Repr

/-- The initial snapshot and the library's cache equal the radio's table. -/
def start (table : List Key) : State := ⟨table, table, table, 0, 0, .top, []⟩

section Step
variable (config : Config)

/-- Nothing is to be removed and nothing is missing. -/
def Settled (s : State) : Prop :=
  (∀ key ∈ s.radioContacts, key ∈ config.desiredContacts) ∧
    ∀ key ∈ config.desiredContacts, key ∈ s.radioContacts

instance : Decidable (Settled config s) := inferInstanceAs (Decidable (_ ∧ _))

/-- The first batch of a pass starts at the index 0. -/
def batchIndex (s : State) : Nat :=
  if s.nextIndex < config.desiredFillContacts.length then s.nextIndex else 0

def batchContacts (index : Nat) : List Key :=
  (config.desiredFillContacts.drop index).take contactReconcileBatchSize

/-- The batch once the radio operation is held. -/
def beginBatch (s : State) : State :=
  if config.autoevict then
    { s with
      nextIndex := batchIndex config s
      phase := .filling (batchContacts config (batchIndex config s)) 0 false
      log := .batch (batchIndex config s) :: s.log }
  else { s with phase := .removing s.radioContacts contactReconcileBatchSize }

/-- The top of the loop, up to the radio operation. -/
def attempt (s : State) : Lock → State
  | .disconnected => { s with phase := .ended .transportChanged }
  | .busy =>
      if config.autoevict then
        if config.desiredFillContacts = [] then { s with phase := .ended .complete }
        else { s with nextIndex := batchIndex config s }
      else if Settled config s then { s with phase := .ended .complete } else s
  | .acquired sameRadio =>
      if config.autoevict = true ∧ config.desiredFillContacts = [] then
        { s with phase := .ended .complete }
      else if config.autoevict = false ∧ Settled config s then { s with phase := .ended .complete }
      else if sameRadio then beginBatch config s
      else { s with phase := .ended .transportChanged }

/-- The contact that `remove_radio_contact` names to the radio. -/
def removePayload (s : State) (key : Key) : Key :=
  (config.getContactByKeyPrefix s.cache (keyPrefix key)).getD key

def removeRadioContact (s : State) (key : Key) (fate : Fate) : Option State :=
  (removeContact s.table (removePayload config s key) fate).map fun (reply, table) =>
    let s := { s with table, log := .remove (removePayload config s key) reply :: s.log }
    if reply = .ok ∨ reply = .error (some errorNotFound) then
      { s with
        radioContacts := pop s.radioContacts key
        cache := pop s.cache key }
    else s

/-- `add_contact`, and what the task keeps of it. -/
def addRadioContact (s : State) (key : Key) (fate : Fate) : Reply × State :=
  let (reply, table) := addContact s.table key fate
  let s := { s with table, log := .add key reply :: s.log }
  (reply, if reply = .ok then { s with radioContacts := assign s.radioContacts key } else s)

/-- The end of a batch of the blind fill. -/
def endBatch (s : State) (processed : Nat) (passFailed : Bool) : State :=
  let s := { s with nextIndex := s.nextIndex + processed }
  if config.desiredFillContacts.length ≤ s.nextIndex then
    if passFailed then
      if maxAutoevictRetries ≤ s.retries + 1 then
        { s with retries := s.retries + 1, phase := .ended .givenUp }
      else { s with retries := s.retries + 1, nextIndex := 0, phase := .top }
    else { s with phase := .ended .complete }
  else { s with phase := .top }

/-- The next step of a loop, when it needs no command. -/
def goOn (s : State) : Option State :=
  match s.phase with
  | .removing [] budget => some { s with phase := .adding config.desiredContacts budget }
  | .removing _ 0 => some { s with phase := .adding config.desiredContacts 0 }
  | .removing (key :: pending) (budget + 1) =>
      if key ∈ config.desiredContacts then
        some { s with phase := .removing pending (budget + 1) }
      else none
  | .adding [] _ => some { s with phase := .top }
  | .adding _ 0 => some { s with phase := .top }
  | .adding (key :: pending) (budget + 1) =>
      if key ∈ s.radioContacts then some { s with phase := .adding pending (budget + 1) }
      else if (config.getContactByKeyPrefix s.cache (keyPrefix key)).isSome then
        some { s with
          radioContacts := assign s.radioContacts key
          phase := .adding pending (budget + 1) }
      else none
  | .filling [] processed passFailed => some (endBatch config s processed passFailed)
  | _ => none

/-- The next step of a loop, when it sends a command. -/
def send (s : State) (fate : Fate) : Option State :=
  match s.phase with
  | .removing (key :: pending) (budget + 1) =>
      if key ∈ config.desiredContacts then none
      else (removeRadioContact config s key fate).map ({ · with phase := .removing pending budget })
  | .adding (key :: pending) (budget + 1) =>
      if key ∈ s.radioContacts then none
      else if (config.getContactByKeyPrefix s.cache (keyPrefix key)).isSome then none
      else
        let (reply, s) := addRadioContact s key fate
        if reply = .error (some errorTableFull) then some { s with phase := .ended .tableFull }
        else some { s with phase := .adding pending budget }
  | .filling (key :: pending) processed passFailed =>
      let (reply, s) := addRadioContact s key fate
      if reply = .error (some errorTableFull) then some { s with phase := .ended .tableFull }
      else
        some { s with
          phase := .filling pending (processed + 1) (passFailed || decide (reply ≠ .ok)) }
  | _ => none

def step (s : State) : Event → Option State
  | .lock lock => if s.phase = .top then some (attempt config s lock) else none
  | .next => goOn config s
  | .command fate => send config s fate
  | .stopped =>
      match s.phase with
      | .ended _ => none
      | _ => some { s with phase := .ended .stopped }

end Step

end Meshloom.ContactReconcile
