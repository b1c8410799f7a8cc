import Meshloom.Transition
import Meshloom.Text
import Mathlib.Logic.Function.Basic

/-! The list of pending status clears (`app/services/community_status_clear.py`). Each operation
loads the whole list, edits it and saves it, and other operations run while it awaits; the worker
also gives up on entries and counts the attempts it makes. A restart keeps the list alone. -/
namespace Meshloom.StatusClear
open Text

abbrev Time := Rat

/-- `CLEAR_RETRY_DELAYS_S` -/
def clearRetryDelays : List Time := [60, 300, 900, 3600, 4 * 3600, 8 * 3600]

def clearMaxAttempts : Nat := clearRetryDelays.length

/-- `CLEAR_GIVE_UP_AFTER_S` -/
def clearGiveUpAfter : Time := 24 * 3600

/-- A target names its topic; `_entry_target` rejects one that leaves a part empty. -/
structure StatusClearTarget where
  iata : String
  brokerHost : String
  audience : String
  pubkey : String
  named : iata ≠ "" ∧ brokerHost ≠ "" ∧ pubkey ≠ ""
  deriving DecidableEq

/-- IATA, lowercase broker host and public key. -/
abbrev Key := String × String × String

def StatusClearTarget.key (target : StatusClearTarget) : Key :=
  (target.iata, lower target.brokerHost, target.pubkey)

/-- A stored entry as it is read: its target, none when that is malformed, and its numbers, zero
when they are. -/
structure Entry where
  target : Option StatusClearTarget
  since : Time
  lastAttempt : Time
  attempts : Nat
  /-- Which mark made the entry, a ghost. -/
  mark : Nat
  deriving DecidableEq

def Entry.key? (entry : Entry) : Option Key := entry.target.map StatusClearTarget.key

/-- None where the delays have no entry for the count. -/
def dueAt (entry : Entry) : Option Time :=
  (clearRetryDelays[entry.attempts]?).map (entry.lastAttempt + ·)

def expired (entry : Entry) (now : Time) : Bool :=
  entry.target.isNone || decide (clearMaxAttempts ≤ entry.attempts) ||
    decide (clearGiveUpAfter ≤ now - entry.since)

/-- `CommunityEffective` -/
structure Community where
  enabled : Bool
  iata : String
  brokerHost : String
  mqttAudience : String

/-- The key of the connected radio, in uppercase hex, and whether its private key is there. -/
structure Keystore where
  publicKey : Option String
  hasPrivateKey : Bool

def targetFor (state : Community) (keystore : Keystore) : Option StatusClearTarget :=
  match keystore.publicKey with
  | none => none
  | some pubkey =>
      if named : state.iata ≠ "" ∧ state.brokerHost ≠ "" ∧ pubkey ≠ "" then
        some {
          iata := state.iata
          brokerHost := state.brokerHost
          audience := if state.mqttAudience ≠ "" then state.mqttAudience else state.brokerHost
          pubkey
          named }
      else none

def isCurrent (target : StatusClearTarget) (state : Community) (keystore : Keystore) : Bool :=
  state.enabled && decide ((targetFor state keystore).map StatusClearTarget.key = some target.key)

def signs (keystore : Keystore) (target : StatusClearTarget) : Bool :=
  keystore.hasPrivateKey && decide (keystore.publicKey = some target.pubkey)

/-- What an operation does to the list that it has loaded. -/
inductive Edit where
  /-- `mark_pending` -/
  | mark (target : StatusClearTarget) (now : Time)
  /-- `resolve` -/
  | remove (target : StatusClearTarget)
  /-- `drop_pubkey` -/
  | dropPubkey (pubkey : String)
  /-- The worker saves the entries that have not expired. -/
  | giveUp (now : Time)
  /-- `_attempt` counts the attempt. -/
  | count (target : StatusClearTarget) (now : Time)

namespace Edit

/-- Whether the edit keeps an entry. -/
def keeps : Edit → Entry → Bool
  | .mark target _, entry | .remove target, entry => decide (entry.key? ≠ some target.key)
  | .dropPubkey pubkey, entry =>
      match entry.target with
      | none => true
      | some target => decide (upper target.pubkey ≠ upper pubkey)
  | .giveUp now, entry => !expired entry now
  | .count _ _, _ => true

def countAttempt (key : Key) (now : Time) : List Entry → List Entry
  | [] => []
  | entry :: rest =>
      if entry.key? = some key then
        { entry with attempts := entry.attempts + 1, lastAttempt := now } :: rest
      else entry :: countAttempt key now rest

/-- The list that is saved for one that was loaded; a new entry comes from the given mark. -/
def apply (edit : Edit) (mark : Nat) (loaded : List Entry) : List Entry :=
  let kept := loaded.filter edit.keeps
  match edit with
  | .mark target now => kept ++ [⟨some target, now, now, 0, mark⟩]
  | .count target now => countAttempt target.key now kept
  | _ => kept

/-- Whether the edit is saved. -/
def saves (edit : Edit) (loaded : List Entry) : Bool :=
  match edit with
  | .mark _ _ | .count _ _ => true
  | edit => decide ((loaded.filter edit.keeps).length ≠ loaded.length)

/-- The targets that are owed a clear after the edit, when the list is `stored`. An operation
releases its own targets, and giving up those that have expired. -/
def settle (edit : Edit) (stored : List Entry) (owed : Key → Bool) : Key → Bool :=
  match edit with
  | .mark target _ => Function.update owed target.key true
  | .remove target => Function.update owed target.key false
  | .dropPubkey pubkey => fun key => owed key && decide (upper key.2.2 ≠ upper pubkey)
  | .giveUp now => fun key =>
      let entries := stored.filter fun entry => decide (entry.key? = some key)
      owed key && (entries.isEmpty || entries.any fun entry => !expired entry now)
  | .count _ _ => owed

end Edit

/-- A call of `mark_pending`, `resolve`, `drop_current` or `drop_pubkey`. -/
inductive Task where
  | loading (edit : Edit)
  | saving (edit : Edit) (loaded : List Entry)

inductive Worker where
  | off
  | loading (now : Time)
  | givingUp (now : Time) (loaded : List Entry)
  | sleeping
  /-- `_attempt` waits for the update lock -/
  | locking (target : StatusClearTarget)
  | reading (target : StatusClearTarget)
  /-- `get_community_effective` of `_attempt` -/
  | checking (target : StatusClearTarget) (loaded : List Entry)
  | counting (target : StatusClearTarget) (now : Time) (loaded : List Entry)
  | clearing (target : StatusClearTarget)
  | resolving (target : StatusClearTarget)
  | removing (target : StatusClearTarget) (loaded : List Entry)
  /-- The worker ended on an index error. -/
  | raised

structure State where
  stored : List Entry
  tasks : List Task
  worker : Worker
  clock : Time
  community : Community
  keystore : Keystore
  /-- The targets that are owed a clear, a ghost. -/
  owed : Key → Bool
  /-- The mark of each clear that was sent, a ghost. -/
  sent : List Nat
  marks : Nat

inductive Call where
  | markPending (target : StatusClearTarget)
  | resolve (target : StatusClearTarget)
  | dropCurrent (state : Community)
  | dropPubkey (pubkey : String)

inductive Event where
  | tick (time : Time)
  | configure (community : Community)
  | connect (keystore : Keystore)
  | call (call : Call)
  /-- The next step of a call. -/
  | proceed (i : Nat)
  /-- A call that raised or was cancelled. -/
  | abandon (i : Nat)
  | schedule
  /-- The next step of the worker. -/
  | work
  | cleared (ok : Bool)
  | stop
  | restart

/-- What a save leaves, with the ghosts that go with it. -/
def save (s : State) (edit : Edit) (loaded : List Entry) : State :=
  { s with
    stored := edit.apply s.marks loaded
    owed := edit.settle s.stored s.owed
    marks := s.marks + 1 }

/-- The edit of a call, none where it returns at once. -/
def begin (s : State) : Call → Option Edit
  | .markPending target => some (.mark target s.clock)
  | .resolve target => some (.remove target)
  | .dropCurrent state =>
      if state.enabled then (targetFor state s.keystore).map .remove else none
  | .dropPubkey pubkey => some (.dropPubkey pubkey)

def proceed (s : State) (i : Nat) : Option State :=
  match s.tasks[i]? with
  | some (.loading edit) =>
      if edit.saves s.stored then some { s with tasks := s.tasks.set i (.saving edit s.stored) }
      else some { s with
        tasks := s.tasks.eraseIdx i, owed := edit.settle s.stored s.owed }
  | some (.saving edit loaded) => some { save s edit loaded with tasks := s.tasks.eraseIdx i }
  | none => none

/-- The entry that is due first, of `min(live, key=_due_at)`; none where one has no due time. -/
def firstDue : List Entry → Option (Entry × Time)
  | [] => none
  | [entry] => (dueAt entry).map (entry, ·)
  | entry :: rest =>
      match dueAt entry, firstDue rest with
      | some due, some (other, otherDue) =>
          if otherDue < due then some (other, otherDue) else some (entry, due)
      | _, _ => none

/-- The worker goes on with the entries that are left. -/
def choose (s : State) (now : Time) (live : List Entry) : State :=
  if live = [] then { s with worker := .off }
  else
    match firstDue live with
    | none => { s with worker := .raised }
    | some (entry, due) =>
        if now < due then { s with worker := .sleeping }
        else
          match entry.target with
          | none => { s with worker := .raised }
          | some target =>
              if signs s.keystore target then { s with worker := .locking target }
              else { s with worker := .sleeping }

/-- The worker's loop starts again. -/
def again (s : State) : State := { s with worker := .loading s.clock }

def find (target : StatusClearTarget) (entries : List Entry) : Option Entry :=
  entries.find? fun entry => decide (entry.key? = some target.key)

def work (s : State) : Option State :=
  match s.worker with
  | .loading now =>
      if (Edit.giveUp now).saves s.stored then some { s with worker := .givingUp now s.stored }
      else some (choose s now s.stored)
  | .givingUp now loaded =>
      some (choose (save s (.giveUp now) loaded) now (loaded.filter (Edit.giveUp now).keeps))
  | .sleeping => some (again s)
  | .locking target =>
      if signs s.keystore target then some { s with worker := .reading target }
      else some (again s)
  | .reading target =>
      match find target s.stored with
      | none => some (again s)
      | some _ => some { s with worker := .checking target s.stored }
  | .checking target loaded =>
      if isCurrent target s.community s.keystore then some { s with worker := .resolving target }
      else some { s with worker := .counting target s.clock loaded }
  | .counting target now loaded =>
      some { save s (.count target now) loaded with
        worker := .clearing target
        sent := s.sent ++ ((find target loaded).map Entry.mark).toList }
  | .resolving target =>
      if (Edit.remove target).saves s.stored then
        some { s with worker := .removing target s.stored }
      else some (again { s with owed := (Edit.remove target).settle s.stored s.owed })
  | .removing target loaded => some (again (save s (.remove target) loaded))
  | .off | .clearing _ | .raised => none

def step (s : State) : Event → Option State
  | .tick time => if s.clock ≤ time then some { s with clock := time } else none
  | .configure community => some { s with community }
  | .connect keystore => some { s with keystore }
  | .call call =>
      match begin s call with
      | some edit => some { s with tasks := s.tasks ++ [.loading edit] }
      | none => some s
  | .proceed i => proceed s i
  | .abandon i => if i < s.tasks.length then some { s with tasks := s.tasks.eraseIdx i } else none
  | .schedule =>
      match s.worker with
      | .off | .raised => some (again s)
      | _ => none
  | .work => work s
  | .cleared ok =>
      match s.worker, ok with
      | .clearing target, true => some { s with worker := .resolving target }
      | .clearing _, false => some (again s)
      | _, _ => none
  | .stop => some { s with worker := .off }
  | .restart => some { s with worker := .off, tasks := [] }

/-- A list is read back from the database; each of its entries counts as one mark. -/
def start (first : List Entry) (clock : Time) (community : Community) (keystore : Keystore) :
    State where
  stored := first.mapIdx fun i entry => { entry with mark := i }
  tasks := []
  worker := .off
  clock
  community
  keystore
  owed key := first.any fun entry => decide (entry.key? = some key)
  sent := []
  marks := first.length

/-- The edit that an event saves, with the list it has loaded. -/
def saving (s : State) : Event → Option (Edit × List Entry)
  | .proceed i =>
      match s.tasks[i]? with
      | some (.saving edit loaded) => some (edit, loaded)
      | _ => none
  | .work =>
      match s.worker with
      | .givingUp now loaded => some (.giveUp now, loaded)
      | .counting target now loaded => some (.count target now, loaded)
      | .removing target loaded => some (.remove target, loaded)
      | _ => none
  | _ => none

/-- Where a list is saved, the stored entries that the edit keeps are still those it loaded. -/
def Unchanged (s : State) (e : Event) : Prop :=
  ∀ edit loaded, saving s e = some (edit, loaded) →
    loaded.filter edit.keeps = s.stored.filter edit.keeps

instance (s : State) (e : Event) : Decidable (Unchanged s e) :=
  match found : saving s e with
  | none => isTrue fun _ _ saved => nomatch found.symm.trans saved
  | some (edit, loaded) =>
      decidable_of_iff (loaded.filter edit.keeps = s.stored.filter edit.keeps) ⟨
        fun same _ _ saved => by
          cases found.symm.trans saved
          exact same,
        fun unchanged => unchanged edit loaded found⟩

/-- The stored targets are those owed a clear, no mark has more clears than attempts, and the
worker has found a delay for every count. -/
structure Settled (s : State) : Prop where
  stored : ∀ key, s.owed key = true ↔ ∃ entry ∈ s.stored, entry.key? = some key
  spent : ∀ mark, s.sent.count mark ≤ clearMaxAttempts
  inRange : s.worker ≠ .raised

end Meshloom.StatusClear
