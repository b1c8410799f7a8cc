import Meshloom.Dict
import Meshloom.Packet.Advertisement
import Meshloom.Packet.DirectMessage
import Meshloom.Transition

/-! Uploads of heard adverts to the community map (`MapUploadModule`, `app/fanout/map_upload.py`).
Every reception is a task of its own. What it does up to the POST is one step, and what it does with
the answer is another, so that several uploads can be in flight at once. -/
namespace Meshloom.MapUpload
open Bytes Packet Text Transition

def reuploadSeconds : Nat := 3600

def allowedDeviceRoles : List Nat := [2, 3]

/-- The fields of `data` that `on_raw` reads. -/
structure RawData where
  payloadType : Option String
  data : List Char

/-- What `_upload` finds when it runs: whether the geofence is on, has a centre and leaves the place
out, and whether both keys are there. -/
structure Surroundings where
  outsideGeofence : Int → Int → Bool
  hasKeys : Bool

structure Upload where
  pubkey : List Char
  advertTimestamp : Nat
  deriving DecidableEq

/-- How a POST ends. -/
inductive Ending where
  | response (statusCode : Nat)
  | requestError (text : String)
  /-- Cancellation or another exception. -/
  | raised

/-- `raise_for_status` lets it pass. -/
def Ending.Succeeds : Ending → Prop
  | .response statusCode => 200 ≤ statusCode ∧ statusCode < 300
  | .requestError _ | .raised => False

instance : DecidablePred Ending.Succeeds := fun ending =>
  match ending with
  | .response statusCode => inferInstanceAs (Decidable (200 ≤ statusCode ∧ statusCode < 300))
  | .requestError _ | .raised => inferInstanceAs (Decidable False)

/-- `_last_error` after a POST. -/
def Ending.lastError (before : Option String) : Ending → Option String
  | .response statusCode =>
    if 200 ≤ statusCode ∧ statusCode < 300 then none else some ("HTTP " ++ toString statusCode)
  | .requestError text => some text
  | .raised => before

/-- A started module, with its uploads so far. -/
structure State where
  dryRun : Bool
  seen : Dict (List Char) Nat
  lastError : Option String
  nextPost : Nat
  inFlight : List (Nat × Upload)
  uploaded : List Upload

def start (dryRun : Bool) : State := ⟨dryRun, Dict.empty, none, 0, [], []⟩

inductive Event where
  | heard (data : RawData) (surroundings : Surroundings)
  | answered (post : Nat) (ending : Ending)

/-- The advert of a reception that `on_raw` would upload, with its place. -/
def locatedAdvert (alnum : Alnum) (data : RawData) : Option (Upload × Int × Int) := do
  guard (data.payloadType = some "ADVERT")
  guard (data.data ≠ [])
  let rawBytes ← fromHex data.data
  let packetInfo ← parsePacket rawBytes
  let advert ← parseAdvertisement alnum packetInfo.payload
  guard (advert.deviceRole ∈ allowedDeviceRoles)
  let lat ← advert.lat
  let lon ← advert.lon
  return (⟨advert.publicKey.map Char.toLower, advert.timestamp⟩, lat, lon)

/-- The rate limit: neither a replay nor within the window. -/
def Due (seen : Dict (List Char) Nat) (upload : Upload) : Prop :=
  ∀ lastSeen, seen.get? upload.pubkey = some lastSeen →
    ¬upload.advertTimestamp ≤ lastSeen ∧ ¬upload.advertTimestamp < lastSeen + reuploadSeconds

instance (seen : Dict (List Char) Nat) (upload : Upload) : Decidable (Due seen upload) :=
  match found : seen.get? upload.pubkey with
  | none => isTrue fun _ same => by rw [found] at same; contradiction
  | some lastSeen =>
    if limits : ¬upload.advertTimestamp ≤ lastSeen ∧
        ¬upload.advertTimestamp < lastSeen + reuploadSeconds then
      isTrue fun other same => by
        rw [found] at same
        exact Option.some.inj same ▸ limits
    else isFalse fun due => limits (due lastSeen found)

/-- The upload that a reception comes to. -/
def State.admits (s : State) (alnum : Alnum) (data : RawData) (surroundings : Surroundings) :
    Option Upload :=
  match locatedAdvert alnum data with
  | none => none
  | some (upload, lat, lon) =>
    if ¬Due s.seen upload then none
    else if surroundings.outsideGeofence lat lon then none
    else if ¬surroundings.hasKeys then none
    else some upload

/-- `_seen[pubkey] = advert_timestamp`, for an upload that is made. -/
def State.record (s : State) (upload : Upload) : State :=
  { s with
    seen := s.seen.set upload.pubkey upload.advertTimestamp
    uploaded := s.uploaded ++ [upload] }

def State.hear (s : State) (alnum : Alnum) (data : RawData) (surroundings : Surroundings) : State :=
  match s.admits alnum data surroundings with
  | none => s
  | some upload =>
    if s.dryRun then s.record upload
    else { s with nextPost := s.nextPost + 1, inFlight := s.inFlight ++ [(s.nextPost, upload)] }

def State.finish (s : State) (post : Nat) (upload : Upload) (ending : Ending) : State :=
  let s := { s with inFlight := s.inFlight.filter (·.1 ≠ post) }
  let s := if ending.Succeeds then s.record upload else s
  { s with lastError := ending.lastError s.lastError }

def step (alnum : Alnum) (s : State) : Event → Option State
  | .heard data surroundings => some (s.hear alnum data surroundings)
  | .answered post ending => (s.inFlight.lookup post).map fun upload => s.finish post upload ending

/-- The greatest timestamp uploaded for a key. -/
def greatest (uploaded : List Upload) (pubkey : List Char) : Option Nat :=
  ((uploaded.filter fun upload => upload.pubkey = pubkey).map (·.advertTimestamp)).max?

/-- The rate limit as it is meant: uploads of a key lie apart, and the record of it is the latest. -/
structure Limited (s : State) : Prop where
  apart : s.uploaded.Pairwise fun a b => a.pubkey = b.pubkey →
    a.advertTimestamp + reuploadSeconds ≤ b.advertTimestamp ∨
      b.advertTimestamp + reuploadSeconds ≤ a.advertTimestamp
  latest : ∀ pubkey, s.seen.get? pubkey = greatest s.uploaded pubkey

/-- An upload that succeeds is still due when it is recorded. -/
def StillDue (s : State) : Event → Prop
  | .heard _ _ => True
  | .answered post ending =>
    ending.Succeeds → ∀ upload, s.inFlight.lookup post = some upload → Due s.seen upload

/-- No reception comes to an upload while one of its key is in flight. -/
def Serial (alnum : Alnum) (s : State) : Event → Prop
  | .heard data surroundings => ∀ upload, s.admits alnum data surroundings = some upload →
    ∀ post ∈ s.inFlight, post.2.pubkey ≠ upload.pubkey
  | .answered _ _ => True

theorem greatest_eq_some {uploaded : List Upload} {pubkey : List Char} {last : Nat} :
    greatest uploaded pubkey = some last ↔
      (∃ upload ∈ uploaded, upload.pubkey = pubkey ∧ upload.advertTimestamp = last) ∧
        ∀ upload ∈ uploaded, upload.pubkey = pubkey → upload.advertTimestamp ≤ last := by
  rw [greatest, List.max?_eq_some_iff]
  simp only [List.mem_map, List.mem_filter, decide_eq_true_eq, and_assoc]
  refine and_congr_right fun _ => ⟨?_, ?_⟩
  · intro bound upload member same
    exact bound _ ⟨upload, member, same, rfl⟩
  · rintro bound _ ⟨upload, member, same, rfl⟩
    exact bound upload member same

theorem exists_greatest {uploaded : List Upload} {upload : Upload} (member : upload ∈ uploaded) :
    ∃ last, greatest uploaded upload.pubkey = some last := by
  rw [← Option.ne_none_iff_exists', greatest, ne_eq, List.max?_eq_none_iff, List.map_eq_nil_iff,
    List.filter_eq_nil_iff]
  intro none_
  exact none_ upload member (by simp)

theorem due_iff {seen : Dict (List Char) Nat} {upload : Upload} : Due seen upload ↔
    ∀ last, seen.get? upload.pubkey = some last → last + reuploadSeconds ≤ upload.advertTimestamp := by
  unfold Due reuploadSeconds
  constructor
  · intro due last found
    have limits := due last found
    omega
  · intro apart last found
    have limits := apart last found
    omega

/-- Recording an upload keeps the limit exactly when the upload is due. -/
theorem limited_record {s : State} (limited : Limited s) (upload : Upload) :
    Limited (s.record upload) ↔ Due s.seen upload := by
  rw [due_iff]
  constructor
  · rintro ⟨apart, latest⟩ last found
    have before := greatest_eq_some.mp (limited.latest _ ▸ found)
    obtain ⟨⟨earlier, member, same, rfl⟩, _⟩ := before
    have now := latest upload.pubkey
    rw [State.record, Dict.get?_set, if_pos rfl] at now
    have bound := (greatest_eq_some.mp now.symm).2 earlier (List.mem_append_left _ member) same
    have split := (List.pairwise_append.mp apart).2.2 earlier member upload List.mem_cons_self same
    have window : 0 < reuploadSeconds := by decide
    omega
  · intro due
    constructor
    · refine List.pairwise_append.mpr ⟨limited.apart, List.pairwise_singleton _ _, ?_⟩
      intro earlier member other last same
      rw [List.mem_singleton.mp last] at same ⊢
      obtain ⟨recorded, found⟩ := exists_greatest member
      have bound := (greatest_eq_some.mp found).2 earlier member rfl
      rw [same, ← limited.latest] at found
      have later := due recorded found
      left
      omega
    · intro pubkey
      rw [State.record, Dict.get?_set]
      dsimp only
      by_cases same : pubkey = upload.pubkey
      · subst same
        rw [if_pos rfl]
        refine (greatest_eq_some.mpr ⟨⟨upload, by simp, rfl, rfl⟩, ?_⟩).symm
        intro earlier member same
        rcases List.mem_append.mp member with before | last
        · obtain ⟨recorded, found⟩ := exists_greatest before
          have bound := (greatest_eq_some.mp found).2 earlier before rfl
          rw [same, ← limited.latest] at found
          have later := due recorded found
          omega
        · rw [List.mem_singleton.mp last]
      · rw [if_neg same, limited.latest, greatest, greatest, List.filter_append,
          List.filter_cons_of_neg (by simpa using Ne.symm same), List.filter_nil, List.append_nil]

variable {alnum : Alnum}

theorem due_of_admits {s : State} (admitted : s.admits alnum data surroundings = some upload) :
    Due s.seen upload := by
  unfold State.admits at admitted
  split at admitted
  · contradiction
  · split at admitted
    · contradiction
    · rename_i due
      split at admitted
      · contradiction
      · split at admitted
        · contradiction
        · rw [← Option.some.inj admitted]
          exact not_not.mp due

/-- The limit depends on nothing but the record and the uploads. -/
theorem Limited.congr {s t : State} (limited : Limited s) (seen : t.seen = s.seen)
    (uploaded : t.uploaded = s.uploaded) : Limited t := by
  obtain ⟨apart, latest⟩ := limited
  exact ⟨uploaded ▸ apart, seen ▸ uploaded ▸ latest⟩

/-- One step keeps the limit exactly when what it records is still due. -/
theorem limited_step {s t : State} {e : Event} (limited : Limited s) (stepped : step alnum s e = some t) :
    Limited t ↔ StillDue s e := by
  cases e with
  | heard data surroundings =>
      refine iff_of_true ?_ trivial
      cases Option.some.inj stepped
      unfold State.hear
      split
      · exact limited
      · rename_i upload admitted
        split
        · exact (limited_record limited upload).mpr (due_of_admits admitted)
        · exact limited.congr rfl rfl
  | answered post ending =>
      obtain ⟨upload, found, rfl⟩ := Option.map_eq_some_iff.mp stepped
      by_cases succeeds : ending.Succeeds
      · have due : StillDue s (.answered post ending) ↔ Due s.seen upload := by
          constructor
          · intro still
            exact still succeeds upload found
          · intro due _ other same
            rw [found] at same
            exact Option.some.inj same ▸ due
        have seen : (s.finish post upload ending).seen = (s.record upload).seen := by
          simp only [State.finish, if_pos succeeds, State.record]
        have uploaded : (s.finish post upload ending).uploaded = (s.record upload).uploaded := by
          simp only [State.finish, if_pos succeeds, State.record]
        rw [due, ← limited_record limited upload]
        constructor
        · intro after
          exact after.congr seen.symm uploaded.symm
        · intro recorded
          exact recorded.congr seen uploaded
      · refine iff_of_true ?_ fun success => absurd success succeeds
        apply limited.congr
        · simp only [State.finish, if_neg succeeds]
        · simp only [State.finish, if_neg succeeds]

theorem limited_start (dryRun : Bool) : Limited (start dryRun) := by
  constructor
  · exact List.Pairwise.nil
  · intro pubkey
    rfl

/-- What receptions keep that come one after the other for each key. -/
structure Separate (s : State) : Prop where
  keys : s.inFlight.Pairwise fun a b => a.2.pubkey ≠ b.2.pubkey
  due : ∀ post ∈ s.inFlight, Due s.seen post.2

theorem Due.record {s : State} {upload other : Upload} (due : Due s.seen other)
    (apart : other.pubkey ≠ upload.pubkey) : Due (s.record upload).seen other := by
  intro last found
  rw [State.record, Dict.get?_set, if_neg apart] at found
  exact due last found

theorem mem_of_lookup {posts : List (Nat × Upload)} (found : posts.lookup post = some upload) :
    (post, upload) ∈ posts := by
  induction posts with
  | nil => contradiction
  | cons first rest ih =>
      obtain ⟨id, other⟩ := first
      rw [List.lookup_cons] at found
      by_cases same : post = id
      · subst same
        rw [beq_self_eq_true] at found
        rw [Option.some.inj found]
        exact List.mem_cons_self
      · rw [beq_false_of_ne same] at found
        exact List.mem_cons_of_mem _ (ih found)

theorem separate_step {s t : State} {e : Event} (separate : Separate s) (serial : Serial alnum s e)
    (stepped : step alnum s e = some t) : StillDue s e ∧ Separate t := by
  cases e with
  | heard data surroundings =>
      refine ⟨trivial, ?_⟩
      cases Option.some.inj stepped
      unfold State.hear
      split
      · exact separate
      · rename_i upload admitted
        have apart := serial upload admitted
        split
        · constructor
          · exact separate.keys
          · intro post member
            exact (separate.due post member).record (apart post member)
        · constructor
          · refine List.pairwise_append.mpr ⟨separate.keys, List.pairwise_singleton _ _, ?_⟩
            intro post member last same
            rw [List.mem_singleton.mp same]
            exact apart post member
          · intro post member
            rcases List.mem_append.mp member with before | last
            · exact separate.due post before
            · rw [List.mem_singleton.mp last]
              exact due_of_admits admitted
  | answered post ending =>
      obtain ⟨upload, found, rfl⟩ := Option.map_eq_some_iff.mp stepped
      have flying := mem_of_lookup found
      constructor
      · intro _ other same
        rw [found] at same
        exact Option.some.inj same ▸ separate.due _ flying
      · have inFlight : (s.finish post upload ending).inFlight = s.inFlight.filter (·.1 ≠ post) := by
          simp only [State.finish]
          split <;> rfl
        have seen : (s.finish post upload ending).seen =
            if ending.Succeeds then (s.record upload).seen else s.seen := by
          simp only [State.finish]
          split <;> rfl
        constructor
        · rw [inFlight]
          exact separate.keys.filter _
        · rw [inFlight, seen]
          intro other member
          obtain ⟨member, different⟩ := List.mem_filter.mp member
          have apart : other.2.pubkey ≠ upload.pubkey := by
            have symm : Std.Symm fun a b : Nat × Upload => a.2.pubkey ≠ b.2.pubkey := ⟨fun _ _ => Ne.symm⟩
            refine separate.keys.forall member flying ?_
            rintro rfl
            simp at different
          split
          · exact (separate.due other member).record apart
          · exact separate.due other member

theorem separate_start (dryRun : Bool) : Separate (start dryRun) := ⟨List.Pairwise.nil, by simp [start]⟩

/-- The rate limit holds in every state of a run exactly when every upload that succeeds is still due
then; it does when no reception comes to an upload while one of its key is in flight. -/
theorem rate_limit (alnum : Alnum) (dryRun : Bool) (events : List Event) :
    (Always (step alnum) Limited (start dryRun) events ↔
      EachStep (step alnum) StillDue (start dryRun) events) ∧
    (EachStep (step alnum) (Serial alnum) (start dryRun) events →
      Always (step alnum) Limited (start dryRun) events) := by
  have exactly : Always (step alnum) Limited (start dryRun) events ↔
      EachStep (step alnum) StillDue (start dryRun) events :=
    always_iff limited_step (limited_start dryRun) events
  refine ⟨exactly, ?_⟩
  intro serial
  exact exactly.mpr (serial.weaken separate_step (separate_start dryRun))

/-- A repeater's advert of some key with a place: time 1000, at 1.0 degrees north and east. -/
def advertHex : List Char :=
  toHex ([0x11, 0x00] ++ List.replicate 32 0xAB ++ [0xE8, 0x03, 0x00, 0x00] ++ List.replicate 64 0x00 ++
    [0x12, 0x40, 0x42, 0x0F, 0x00, 0x40, 0x42, 0x0F, 0x00])

def open_ : Surroundings := ⟨fun _ _ => false, true⟩

/-- Two copies of it, both in flight before the first answer. -/
def copies : List Event :=
  [.heard ⟨some "ADVERT", advertHex⟩ open_, .heard ⟨some "ADVERT", advertHex⟩ open_,
    .answered 0 (.response 200), .answered 1 (.response 200)]

theorem copies_uploaded :
    (execute (step .asciiOnly) (start false) copies).map (·.uploaded) =
      some [⟨toHex (List.replicate 32 0xAB), 1000⟩, ⟨toHex (List.replicate 32 0xAB), 1000⟩] ∧
    ¬Always (step .asciiOnly) Limited (start false) copies := by
  have uploaded : (execute (step .asciiOnly) (start false) copies).map (·.uploaded) =
      some [⟨toHex (List.replicate 32 0xAB), 1000⟩, ⟨toHex (List.replicate 32 0xAB), 1000⟩] := by
    decide +kernel
  refine ⟨uploaded, ?_⟩
  intro always
  obtain ⟨t, ran, both⟩ := Option.map_eq_some_iff.mp uploaded
  have apart := (always.final ran).apart
  rw [both] at apart
  have close := (List.pairwise_cons.mp apart).1 _ List.mem_cons_self rfl
  exact absurd close (by decide)

end Meshloom.MapUpload
