import Meshloom.Dict
import Mathlib.Data.Nat.Basic
import Mathlib.Order.Lattice

/-! The bounded cache in front of the community reads
(`app/services/ttl_lru.py`). A history lists its operations with the latest
first, and what the cache promises is stated over whole histories. -/
namespace Meshloom.TtlLru
variable {κ ν τ : Type} [DecidableEq κ] [LinearOrder τ]

structure TtlLruCache (κ ν τ : Type) where
  maxsize : Nat
  positive : 1 ≤ maxsize
  data : Dict κ (τ × ν)

def create (maxsize : Nat) : Except String (TtlLruCache κ ν τ) :=
  if positive : 1 ≤ maxsize then .ok ⟨maxsize, positive, Dict.empty⟩
  else .error "maxsize must be at least 1"

/-- `while len(self._data) > self.maxsize: self._data.popitem(last=False)` on
the raw entries. -/
def popOver (maxsize : Nat) : List (κ × τ × ν) → List (κ × τ × ν)
  | [] => []
  | entry :: rest => if maxsize < rest.length + 1 then popOver maxsize rest else entry :: rest

omit [DecidableEq κ] [LinearOrder τ] in
theorem popOver_eq_drop (maxsize : Nat) (entries : List (κ × τ × ν)) :
    popOver maxsize entries = entries.drop (entries.length - maxsize) := by
  induction entries with
  | nil => simp [popOver]
  | cons entry rest ih =>
      by_cases many : maxsize < rest.length + 1
      · rw [popOver, if_pos many, ih, List.length_cons,
          show rest.length + 1 - maxsize = rest.length - maxsize + 1 by omega, List.drop_succ_cons]
      · rw [popOver, if_neg many, List.length_cons, show rest.length + 1 - maxsize = 0 by omega,
          List.drop_zero]

def popItems (maxsize : Nat) (data : Dict κ (τ × ν)) : Dict κ (τ × ν) :=
  ⟨popOver maxsize data.entries, by
    rw [popOver_eq_drop, List.map_drop]
    exact (List.drop_sublist _ _).nodup data.nodup⟩

namespace TtlLruCache

def get (cache : TtlLruCache κ ν τ) (key : κ) (now : τ) : Option ν × TtlLruCache κ ν τ :=
  match cache.data.get? key with
  | none => (none, cache)
  | some (expiresAt, value) =>
    if expiresAt ≤ now then (none, { cache with data := cache.data.pop key })
    else (some value, { cache with data := cache.data.moveToEnd key })

def live (data : Dict κ (τ × ν)) (now : τ) : Dict κ (τ × ν) :=
  data.filter fun _ item => !decide (item.1 ≤ now)

def purgeExpired (cache : TtlLruCache κ ν τ) (now : τ) : Nat × TtlLruCache κ ν τ :=
  ((cache.data.entries.filter fun entry => decide (entry.2.1 ≤ now)).length,
    { cache with data := live cache.data now })

/-- The mapping when a `set` starts to pop: purged and with the key at its end. -/
def assigned (cache : TtlLruCache κ ν τ) (key : κ) (value : ν) (expiresAt now : τ) :
    Dict κ (τ × ν) :=
  ((cache.purgeExpired now).2.data.set key (expiresAt, value)).moveToEnd key

def set (cache : TtlLruCache κ ν τ) (key : κ) (value : ν) (expiresAt now : τ) :
    TtlLruCache κ ν τ :=
  { cache with data := popItems cache.maxsize (cache.assigned key value expiresAt now) }

def clear (cache : TtlLruCache κ ν τ) : TtlLruCache κ ν τ := { cache with data := Dict.empty }

end TtlLruCache

inductive Op (κ ν τ : Type) where
  | get (key : κ) (now : τ)
  | set (key : κ) (value : ν) (expiresAt now : τ)
  | purge (now : τ)
  | clear

def step (cache : TtlLruCache κ ν τ) : Op κ ν τ → TtlLruCache κ ν τ
  | .get key now => (cache.get key now).2
  | .set key value expiresAt now => cache.set key value expiresAt now
  | .purge now => (cache.purgeExpired now).2
  | .clear => cache.clear

/-- The cache after a history, whose latest operation comes first. -/
def run (cache : TtlLruCache κ ν τ) : List (Op κ ν τ) → TtlLruCache κ ν τ
  | [] => cache
  | op :: earlier => step (run cache earlier) op

def Op.now? : Op κ ν τ → Option τ
  | .get _ now | .set _ _ _ now | .purge now => some now
  | .clear => none

/-- The clock never goes back over a history. -/
def Ordered (history : List (Op κ ν τ)) : Prop :=
  (history.filterMap Op.now?).Pairwise fun later earlier => earlier ≤ later

/-- The expiry and the value that the last `set` of a key gave it. -/
def lastSet (key : κ) : List (Op κ ν τ) → Option (τ × ν)
  | [] => none
  | .clear :: _ => none
  | .set other value expiresAt _ :: earlier =>
    if other = key then some (expiresAt, value) else lastSet key earlier
  | .get _ _ :: earlier | .purge _ :: earlier => lastSet key earlier

/-- A `set` popped the key to keep the size. -/
def Pops (cache : TtlLruCache κ ν τ) (key : κ) (value : ν) (expiresAt now : τ) (victim : κ) : Prop :=
  victim ∈ (cache.assigned key value expiresAt now).keys ∧
    victim ∉ (cache.set key value expiresAt now).data.keys

/-- A `set` after the last `set` of the key popped it. -/
def Evicted (cache : TtlLruCache κ ν τ) (victim : κ) : List (Op κ ν τ) → Prop
  | [] => False
  | .clear :: _ => False
  | .set key value expiresAt now :: earlier =>
    key ≠ victim ∧
      (Pops (run cache earlier) key value expiresAt now victim ∨ Evicted cache victim earlier)
  | .get _ _ :: earlier | .purge _ :: earlier => Evicted cache victim earlier

/-- The operation sets or reads the key. -/
def Op.Uses (key : κ) : Op κ ν τ → Prop
  | .get other _ | .set other _ _ _ => other = key
  | .purge _ | .clear => False

/-- One key was set or read after the last time the other one was. -/
def UsedAfter (key other : κ) : List (Op κ ν τ) → Prop
  | [] => False
  | op :: earlier => op.Uses key ∨ ¬op.Uses other ∧ UsedAfter key other earlier

/-- The law of an eviction: when a `set` pops an unexpired key, every entry it
leaves is unexpired and was used after it. -/
def EvictsLawfully (cache : TtlLruCache κ ν τ) (earlier : List (Op κ ν τ)) (key : κ) (value : ν)
    (expiresAt now : τ) : Prop :=
  ∀ victim expiry old, (run cache earlier).data.get? victim = some (expiry, old) → now < expiry →
    Pops (run cache earlier) key value expiresAt now victim →
    ∀ other expiry held,
      ((run cache earlier).set key value expiresAt now).data.get? other = some (expiry, held) →
      now < expiry ∧ UsedAfter other victim (.set key value expiresAt now :: earlier)

/-- The write is unexpired itself or needs no room: its key is already held
unexpired or fewer unexpired entries than the cap are. -/
def WritesLive (cache : TtlLruCache κ ν τ) (key : κ) (expiresAt now : τ) : Prop :=
  now < expiresAt ∨ key ∈ (TtlLruCache.live cache.data now).keys ∨
    (TtlLruCache.live cache.data now).size < cache.maxsize

theorem run_maxsize (cache : TtlLruCache κ ν τ) (history : List (Op κ ν τ)) :
    (run cache history).maxsize = cache.maxsize := by
  induction history with
  | nil => rfl
  | cons op earlier ih =>
      rw [← ih]
      cases op with
      | get key now =>
          simp only [run, step, TtlLruCache.get]
          split
          · rfl
          · split <;> rfl
      | set | purge | clear => rfl

namespace TtlLruCache

theorem get?_live (data : Dict κ (τ × ν)) (now : τ) :
    (live data now).get? key = some (expiry, value) ↔
      data.get? key = some (expiry, value) ∧ now < expiry := by
  simp only [live, Dict.get?_filter, Bool.not_eq_true', decide_eq_false_iff_not, not_le]

theorem get?_assigned (cache : TtlLruCache κ ν τ) (key other : κ) (value : ν) (expiresAt now : τ) :
    (cache.assigned key value expiresAt now).get? other =
      if other = key then some (expiresAt, value) else (live cache.data now).get? other := by
  simp only [assigned, purgeExpired, Dict.get?_moveToEnd, Dict.get?_set]

theorem entries_assigned (cache : TtlLruCache κ ν τ) (key : κ) (value : ν) (expiresAt now : τ) :
    (cache.assigned key value expiresAt now).entries =
      ((live cache.data now).pop key).entries ++ [(key, expiresAt, value)] := by
  have written : ((live cache.data now).set key (expiresAt, value)).get? key =
      some (expiresAt, value) := by simp
  rw [assigned, purgeExpired, Dict.entries_moveToEnd written, Dict.pop_set]

/-- What a `set` leaves is the end of the mapping it popped from. -/
theorem keys_set (cache : TtlLruCache κ ν τ) (key : κ) (value : ν) (expiresAt now : τ) :
    (cache.set key value expiresAt now).data.keys =
      (cache.assigned key value expiresAt now).keys.drop
        ((cache.assigned key value expiresAt now).size - cache.maxsize) := by
  simp only [set, popItems, Dict.keys, Dict.size, popOver_eq_drop, List.map_drop]

theorem set_sublist (cache : TtlLruCache κ ν τ) (key : κ) (value : ν) (expiresAt now : τ) :
    (cache.set key value expiresAt now).data.entries.Sublist
      (cache.assigned key value expiresAt now).entries := by
  simp only [set, popItems, popOver_eq_drop]
  exact List.drop_sublist _ _

theorem size_set (cache : TtlLruCache κ ν τ) (key : κ) (value : ν) (expiresAt now : τ) :
    (cache.set key value expiresAt now).data.size ≤ cache.maxsize := by
  simp only [set, popItems, Dict.size, popOver_eq_drop, List.length_drop]
  omega

theorem pops_iff (cache : TtlLruCache κ ν τ) (key victim : κ) (value : ν) (expiresAt now : τ) :
    Pops cache key value expiresAt now victim ↔
      victim ∈ (cache.assigned key value expiresAt now).keys.take
        ((cache.assigned key value expiresAt now).size - cache.maxsize) := by
  have distinct : (cache.assigned key value expiresAt now).keys.Nodup :=
    (cache.assigned key value expiresAt now).nodup
  rw [Pops, keys_set]
  generalize (cache.assigned key value expiresAt now).keys = keys at distinct
  generalize (cache.assigned key value expiresAt now).size - cache.maxsize = popped
  rw [← List.take_append_drop popped keys] at distinct
  constructor
  · rintro ⟨held, gone⟩
    rw [← List.take_append_drop popped keys] at held
    exact (List.mem_append.mp held).resolve_right gone
  · intro taken
    refine ⟨List.mem_of_mem_take taken, ?_⟩
    intro kept
    exact (List.nodup_append.mp distinct).2.2 victim taken victim kept rfl

/-- A `set` pops nothing but what had to go: a key it does not pop stays. -/
theorem get?_set (cache : TtlLruCache κ ν τ) (key other : κ) (value : ν) (expiresAt now : τ) :
    (cache.set key value expiresAt now).data.get? other = some item ↔
      (cache.assigned key value expiresAt now).get? other = some item ∧
        ¬Pops cache key value expiresAt now other := by
  constructor
  · intro found
    refine ⟨(Dict.mem_iff_get? _).mp ((set_sublist _ _ _ _ _).subset ((Dict.mem_iff_get? _).mpr found)), ?_⟩
    rintro ⟨-, gone⟩
    exact gone (Dict.mem_keys_iff.mpr ⟨_, found⟩)
  · rintro ⟨found, kept⟩
    have present : other ∈ (cache.set key value expiresAt now).data.keys := by
      by_contra gone
      exact kept ⟨Dict.mem_keys_iff.mpr ⟨_, found⟩, gone⟩
    obtain ⟨stored, held⟩ := Dict.mem_keys_iff.mp present
    have before := (Dict.mem_iff_get? _).mp ((set_sublist _ _ _ _ _).subset ((Dict.mem_iff_get? _).mpr held))
    rw [held, ← before, found]

/-- The key that a `set` writes is the last one in line, so it is not popped. -/
theorem not_pops_self (cache : TtlLruCache κ ν τ) (key : κ) (value : ν) (expiresAt now : τ) :
    ¬Pops cache key value expiresAt now key := by
  rintro ⟨-, gone⟩
  have positive := cache.positive
  have written : (key, expiresAt, value) ∈ (cache.set key value expiresAt now).data.entries := by
    simp only [set, popItems, popOver_eq_drop, entries_assigned, List.length_append,
      List.length_singleton]
    rw [List.drop_append_of_le_length (by omega)]
    exact List.mem_append_right _ List.mem_cons_self
  exact gone (List.mem_map_of_mem written)

end TtlLruCache

/-- What the mapping holds after a history, in the terms of the history. -/
structure Faithful (cache : TtlLruCache κ ν τ) (history : List (Op κ ν τ)) : Prop where
  sound : ∀ key item, (run cache history).data.get? key = some item →
    lastSet key history = some item ∧ ¬Evicted cache key history
  complete : ∀ key expiry value, lastSet key history = some (expiry, value) →
    ¬Evicted cache key history → (∀ now ∈ history.filterMap Op.now?, now < expiry) →
    (run cache history).data.get? key = some (expiry, value)
  recency : (run cache history).data.entries.Pairwise fun old new => UsedAfter new.1 old.1 history
  bounded : (run cache history).data.size ≤ cache.maxsize

omit [DecidableEq κ] [LinearOrder τ] in
theorem mem_nows_cons (op : Op κ ν τ) (member : now ∈ earlier.filterMap Op.now?) :
    now ∈ (op :: earlier).filterMap Op.now? := by
  rw [List.filterMap_cons]
  split
  · exact member
  · exact List.mem_cons_of_mem _ member

omit [DecidableEq κ] [LinearOrder τ] in
/-- The order of keys that an operation leaves alone stands. -/
theorem recency_unused {entries : List (κ × τ × ν)} {op : Op κ ν τ}
    (recent : entries.Pairwise fun old new => UsedAfter new.1 old.1 earlier)
    (unused : ∀ entry ∈ entries, ¬op.Uses entry.1) :
    entries.Pairwise fun old new => UsedAfter new.1 old.1 (op :: earlier) :=
  recent.imp_of_mem fun {old _} member _ after => .inr ⟨unused old member, after⟩

omit [LinearOrder τ] in
/-- A used key goes to the end of the line. -/
theorem recency_used {data : Dict κ (τ × ν)} {op : Op κ ν τ} (item : τ × ν)
    (recent : data.entries.Pairwise fun old new => UsedAfter new.1 old.1 earlier)
    (only : ∀ other, op.Uses other ↔ key = other) :
    ((data.pop key).entries ++ [(key, item)]).Pairwise fun old new =>
      UsedAfter new.1 old.1 (op :: earlier) := by
  refine List.pairwise_append.mpr ⟨?_, List.pairwise_singleton _ _, ?_⟩
  · refine recency_unused (recent.filter _) ?_
    intro entry member uses
    have different := (List.mem_filter.mp member).2
    simp [(only _).mp uses] at different
  · intro old _ new last
    rw [List.mem_singleton.mp last]
    exact .inl ((only key).mpr rfl)

/-- The line that a `set` pops from. -/
theorem recency_assigned {current : TtlLruCache κ ν τ}
    (recent : current.data.entries.Pairwise fun old new => UsedAfter new.1 old.1 earlier)
    (key : κ) (value : ν) (expiresAt now : τ) :
    (current.assigned key value expiresAt now).entries.Pairwise fun old new =>
      UsedAfter new.1 old.1 (.set key value expiresAt now :: earlier) := by
  rw [TtlLruCache.entries_assigned]
  exact recency_used _ (recent.filter _) fun _ => Iff.rfl

namespace Faithful

theorem get_step {cache : TtlLruCache κ ν τ} (faithful : Faithful cache earlier) (key : κ) (now : τ) :
    Faithful cache (.get key now :: earlier) := by
  have only : ∀ other, (Op.get key now : Op κ ν τ).Uses other ↔ key = other := fun _ => Iff.rfl
  obtain ⟨sound, complete, recency, bounded⟩ := faithful
  cases found : (run cache earlier).data.get? key with
  | none =>
      have same : run cache (.get key now :: earlier) = run cache earlier := by
        simp only [run, step, TtlLruCache.get, found]
      refine ⟨?_, ?_, ?_, ?_⟩
      · intro other item held
        rw [same] at held
        exact sound other item held
      · intro other expiry value last standing live
        rw [same]
        exact complete other expiry value last standing fun t member => live t (mem_nows_cons _ member)
      · rw [same]
        refine recency_unused recency ?_
        intro entry member uses
        rw [(only _).mp uses, (Dict.mem_iff_get? _).mp member] at found
        contradiction
      · rw [same]
        exact bounded
  | some item =>
      obtain ⟨expiry, value⟩ := item
      by_cases expired : expiry ≤ now
      · have after : (run cache (.get key now :: earlier)).data = (run cache earlier).data.pop key := by
          simp only [run, step, TtlLruCache.get, found, if_pos expired]
        refine ⟨?_, ?_, ?_, ?_⟩
        · intro other item held
          rw [after, Dict.get?_pop] at held
          exact sound other item (Option.ite_none_left_eq_some.mp held).2
        · intro other expiry' value' last standing live
          have before := complete other expiry' value' last standing
            fun t member => live t (mem_nows_cons _ member)
          have different : other ≠ key := by
            rintro rfl
            rw [found] at before
            cases before
            exact absurd (live now (by simp [Op.now?])) (not_lt.mpr expired)
          rw [after, Dict.get?_pop, if_neg different, before]
        · rw [after]
          exact (recency_used (expiry, value) recency only).sublist
            (List.sublist_append_left _ _)
        · rw [after]
          exact Nat.le_trans (Dict.size_pop_le _ _) bounded
      · have after : (run cache (.get key now :: earlier)).data =
            (run cache earlier).data.moveToEnd key := by
          simp only [run, step, TtlLruCache.get, found, if_neg expired]
        refine ⟨?_, ?_, ?_, ?_⟩
        · intro other item held
          rw [after, Dict.get?_moveToEnd] at held
          exact sound other item held
        · intro other expiry' value' last standing live
          rw [after, Dict.get?_moveToEnd]
          exact complete other expiry' value' last standing fun t member => live t (mem_nows_cons _ member)
        · rw [after, Dict.entries_moveToEnd found]
          exact recency_used _ recency only
        · rw [after, Dict.size_moveToEnd found]
          exact bounded

theorem purge_step {cache : TtlLruCache κ ν τ} (faithful : Faithful cache earlier) (now : τ) :
    Faithful cache (.purge now :: earlier) := by
  have after : (run cache (.purge now :: earlier)).data =
      TtlLruCache.live (run cache earlier).data now := rfl
  obtain ⟨sound, complete, recency, bounded⟩ := faithful
  refine ⟨?_, ?_, ?_, ?_⟩
  · rintro other ⟨expiry, value⟩ held
    rw [after, TtlLruCache.get?_live] at held
    exact sound other _ held.1
  · intro other expiry value last standing live
    rw [after, TtlLruCache.get?_live]
    exact ⟨complete other expiry value last standing fun t member => live t (mem_nows_cons _ member),
      live now (by simp [Op.now?])⟩
  · rw [after]
    refine recency_unused (recency.filter _) ?_
    intro entry _ uses
    exact uses
  · exact Nat.le_trans (List.length_filter_le _ _) bounded

theorem set_step {cache : TtlLruCache κ ν τ} (faithful : Faithful cache earlier) (key : κ)
    (value : ν) (expiresAt now : τ) : Faithful cache (.set key value expiresAt now :: earlier) := by
  have after : run cache (.set key value expiresAt now :: earlier) =
      (run cache earlier).set key value expiresAt now := rfl
  obtain ⟨sound, complete, recency, bounded⟩ := faithful
  refine ⟨?_, ?_, ?_, ?_⟩
  · intro other item held
    rw [after, TtlLruCache.get?_set, TtlLruCache.get?_assigned] at held
    obtain ⟨held, kept⟩ := held
    by_cases same : other = key
    · subst same
      rw [if_pos rfl] at held
      cases held
      exact ⟨if_pos rfl, fun evicted => evicted.1 rfl⟩
    · rw [if_neg same, TtlLruCache.get?_live] at held
      obtain ⟨last, standing⟩ := sound other item held.1
      refine ⟨(if_neg (Ne.symm same)).trans last, ?_⟩
      rintro ⟨-, popped | evicted⟩
      · exact kept popped
      · exact standing evicted
  · intro other expiry old last standing live
    rw [after, TtlLruCache.get?_set, TtlLruCache.get?_assigned]
    by_cases same : other = key
    · subst same
      have written := (if_pos rfl).symm.trans last
      rw [if_pos rfl]
      exact ⟨written, TtlLruCache.not_pops_self _ _ _ _ _⟩
    · have before : lastSet other earlier = some (expiry, old) :=
        (if_neg (Ne.symm same)).symm.trans last
      rw [if_neg same, TtlLruCache.get?_live]
      refine ⟨⟨complete other expiry old before ?_ fun t member => live t (mem_nows_cons _ member),
        live now (by simp [Op.now?])⟩, ?_⟩
      · exact fun evicted => standing ⟨Ne.symm same, .inr evicted⟩
      · exact fun popped => standing ⟨Ne.symm same, .inl popped⟩
  · rw [after]
    exact (recency_assigned recency key value expiresAt now).sublist (TtlLruCache.set_sublist _ _ _ _ _)
  · rw [after, ← run_maxsize cache earlier]
    exact TtlLruCache.size_set _ _ _ _ _

theorem clear_step {cache : TtlLruCache κ ν τ} : Faithful cache (.clear :: earlier) where
  sound _ _ held := by simp [run, step, TtlLruCache.clear] at held
  complete _ _ _ last := by simp [lastSet] at last
  recency := List.Pairwise.nil
  bounded := Nat.zero_le _

end Faithful

/-- Every history from an empty cache is held faithfully. -/
theorem run_faithful {cache : TtlLruCache κ ν τ} (empty : cache.data = Dict.empty)
    (history : List (Op κ ν τ)) : Faithful cache history := by
  induction history with
  | nil =>
      refine ⟨?_, ?_, ?_, ?_⟩
      · intro key item held
        rw [run, empty] at held
        cases held
      · intro key expiry value last
        cases last
      · rw [run, empty]
        exact List.Pairwise.nil
      · rw [run, empty]
        exact Nat.zero_le _
  | cons op earlier ih =>
      cases op with
      | get key now => exact ih.get_step key now
      | set key value expiresAt now => exact ih.set_step key value expiresAt now
      | purge now => exact ih.purge_step now
      | clear => exact .clear_step

theorem not_pops {cache : TtlLruCache κ ν τ}
    (room : (cache.assigned key value expiresAt now).size ≤ cache.maxsize) :
    ¬Pops cache key value expiresAt now victim := by
  rw [TtlLruCache.pops_iff, Nat.sub_eq_zero_of_le room, List.take_zero]
  exact List.not_mem_nil

theorem size_assigned (cache : TtlLruCache κ ν τ) (key : κ) (value : ν) (expiresAt now : τ) :
    (cache.assigned key value expiresAt now).size =
      ((TtlLruCache.live cache.data now).pop key).size + 1 := by
  rw [Dict.size, TtlLruCache.entries_assigned, List.length_append, List.length_singleton, Dict.size]

/-- A popped key was used before every key that stays. -/
theorem usedAfter_popped {current : TtlLruCache κ ν τ}
    (recent : current.data.entries.Pairwise fun old new => UsedAfter new.1 old.1 earlier)
    (popped : Pops current key value expiresAt now victim)
    (stays : other ∈ (current.set key value expiresAt now).data.keys) :
    UsedAfter other victim (.set key value expiresAt now :: earlier) := by
  have lined : (current.assigned key value expiresAt now).keys.Pairwise fun old new =>
      UsedAfter new old (.set key value expiresAt now :: earlier) :=
    List.pairwise_map.mpr (recency_assigned recent key value expiresAt now)
  rw [TtlLruCache.pops_iff] at popped
  rw [TtlLruCache.keys_set] at stays
  rw [← List.take_append_drop
    ((current.assigned key value expiresAt now).size - current.maxsize)
    (current.assigned key value expiresAt now).keys] at lined
  exact (List.pairwise_append.mp lined).2.2 victim popped other stays

/-- A `set` that meets the condition pops lawfully. -/
theorem evicts_lawfully {cache : TtlLruCache κ ν τ} (faithful : Faithful cache earlier)
    (live : WritesLive (run cache earlier) key expiresAt now) :
    EvictsLawfully cache earlier key value expiresAt now := by
  obtain ⟨-, -, recency, bounded⟩ := faithful
  rw [← run_maxsize cache earlier] at bounded
  have fewer : (TtlLruCache.live (run cache earlier).data now).size ≤ (run cache earlier).data.size :=
    List.length_filter_le _ _
  intro victim expiry old _ _ popped other expiry' held found
  rcases live with unexpired | present | room
  · have stored := ((TtlLruCache.get?_set _ _ _ _ _ _).mp found).1
    refine ⟨?_, usedAfter_popped recency popped (Dict.mem_keys_iff.mpr ⟨_, found⟩)⟩
    rw [TtlLruCache.get?_assigned] at stored
    by_cases same : other = key
    · rw [if_pos same] at stored
      cases stored
      exact unexpired
    · rw [if_neg same] at stored
      exact ((TtlLruCache.get?_live _ _).mp stored).2
  · obtain ⟨item, present⟩ := Dict.mem_keys_iff.mp present
    refine absurd popped (not_pops ?_)
    rw [size_assigned, Dict.size_pop present]
    exact Nat.le_trans fewer bounded
  · refine absurd popped (not_pops ?_)
    rw [size_assigned]
    exact Nat.lt_of_le_of_lt (Dict.size_pop_le _ _) room

/-- An expired write into a full cache pops the oldest live entry and stays. -/
theorem writesLive_of_lawful {cache : TtlLruCache κ ν τ} (value : ν)
    (lawful : EvictsLawfully cache earlier key value expiresAt now) :
    WritesLive (run cache earlier) key expiresAt now := by
  by_contra dead
  simp only [WritesLive, not_or, not_lt] at dead
  obtain ⟨expired, absent, full⟩ := dead
  have positive := (run cache earlier).positive
  have same : ((TtlLruCache.live (run cache earlier).data now).pop key).entries =
      (TtlLruCache.live (run cache earlier).data now).entries := by
    refine List.filter_eq_self.mpr ?_
    intro entry member
    have different : entry.1 ≠ key := by
      rintro rfl
      exact absent (List.mem_map_of_mem member)
    simp [different]
  cases lined : (TtlLruCache.live (run cache earlier).data now).entries with
  | nil =>
      rw [Dict.size, lined, List.length_nil] at full
      omega
  | cons first rest =>
      obtain ⟨victim, expiry, old⟩ := first
      have held : (TtlLruCache.live (run cache earlier).data now).get? victim = some (expiry, old) :=
        (Dict.mem_iff_get? _).mp (lined ▸ List.mem_cons_self)
      obtain ⟨stored, unexpired⟩ := (TtlLruCache.get?_live _ _).mp held
      have popped : Pops (run cache earlier) key value expiresAt now victim := by
        rw [TtlLruCache.pops_iff, size_assigned, Dict.size, same, Dict.keys,
          TtlLruCache.entries_assigned, same, lined]
        rw [Dict.size, lined] at full
        rw [show ((victim, expiry, old) :: rest).length + 1 - (run cache earlier).maxsize =
          ((victim, expiry, old) :: rest).length - (run cache earlier).maxsize + 1 by omega]
        exact List.mem_cons_self
      have written := (TtlLruCache.get?_set (run cache earlier) key key value expiresAt now).mpr
        ⟨(TtlLruCache.get?_assigned _ _ _ _ _ _).trans (if_pos rfl),
          TtlLruCache.not_pops_self _ _ _ _ _⟩
      have live := (lawful victim expiry old stored unexpired popped key _ _ written).1
      exact absurd expired (not_le.mpr live)

theorem evictsLawfully_iff {cache : TtlLruCache κ ν τ} (faithful : Faithful cache earlier) :
    EvictsLawfully cache earlier key value expiresAt now ↔
      WritesLive (run cache earlier) key expiresAt now :=
  ⟨writesLive_of_lawful value, evicts_lawfully faithful⟩

/-- A read gives exactly what was last written, unexpired and not popped. -/
theorem get_iff {cache : TtlLruCache κ ν τ} (faithful : Faithful cache history)
    (ordered : Ordered (.get key now :: history)) :
    ((run cache history).get key now).1 = some value ↔
      ∃ expiry, lastSet key history = some (expiry, value) ∧ now < expiry ∧
        ¬Evicted cache key history := by
  constructor
  · intro read
    unfold TtlLruCache.get at read
    split at read
    · contradiction
    · rename_i expiry held found
      by_cases expired : expiry ≤ now
      · rw [if_pos expired] at read
        contradiction
      · rw [if_neg expired, Option.some.injEq] at read
        subst read
        obtain ⟨last, standing⟩ := faithful.sound key _ found
        exact ⟨expiry, last, not_le.mp expired, standing⟩
  · rintro ⟨expiry, last, live, standing⟩
    have before : ∀ t ∈ history.filterMap Op.now?, t < expiry := by
      intro t member
      have earlier : t ≤ now := (List.pairwise_cons.mp ordered).1 t member
      exact lt_of_le_of_lt earlier live
    have found := faithful.complete key expiry value last standing before
    simp only [TtlLruCache.get, found, if_neg (not_le.mpr live)]

omit [DecidableEq κ] [LinearOrder τ] in
theorem create_ok {cache : TtlLruCache κ ν τ} (created : create maxsize = .ok cache) :
    cache.maxsize = maxsize ∧ cache.data = Dict.empty := by
  unfold create at created
  split at created
  · cases created
    exact ⟨rfl, rfl⟩
  · contradiction

/-- Over every history the cap holds and a read is faithful, and a `set` pops
by the law exactly when it writes a live entry or needs no room. -/
theorem cache_laws {cache : TtlLruCache κ ν τ} (created : create maxsize = .ok cache)
    (history : List (Op κ ν τ)) :
    (run cache history).data.size ≤ maxsize ∧
    (∀ key now value, Ordered (.get key now :: history) →
      (((run cache history).get key now).1 = some value ↔
        ∃ expiry, lastSet key history = some (expiry, value) ∧ now < expiry ∧
          ¬Evicted cache key history)) ∧
    ∀ key value expiresAt now, EvictsLawfully cache history key value expiresAt now ↔
      WritesLive (run cache history) key expiresAt now := by
  obtain ⟨cap, empty⟩ := create_ok created
  have faithful := run_faithful empty history
  refine ⟨cap ▸ faithful.bounded, ?_, ?_⟩
  · intro key now value ordered
    exact get_iff faithful ordered
  · intro key value expiresAt now
    exact evictsLawfully_iff faithful

/-- One slot, one live key. -/
def single : TtlLruCache Nat String Nat := ⟨1, Nat.le_refl 1, Dict.empty⟩

theorem single_laws :
    (run single [.set 1 "a" 10 0]).data.size ≤ 1 ∧
    (((run single [.set 1 "a" 10 0]).get 1 5).1 = some "a" ↔
      ∃ expiry, lastSet 1 [.set 1 "a" 10 0] = some (expiry, "a") ∧ 5 < expiry ∧
        ¬Evicted single 1 [.set 1 "a" 10 0]) ∧
    (EvictsLawfully single [.set 1 "a" 10 0] 2 "b" 11 5 ↔
      WritesLive (run single [.set 1 "a" 10 0]) 2 11 5) :=
  have laws := @cache_laws Nat String Nat _ _ 1 single rfl [.set 1 "a" 10 0]
  ⟨laws.1, laws.2.1 1 5 "a" (by simp [Ordered, Op.now?]), laws.2.2 2 "b" 11 5⟩

/-- A write that is expired from the start takes the slot of a live key. -/
theorem expired_write_evicts :
    Ordered ([.set 2 "b" 5 5, .set 1 "a" 10 0] : List (Op Nat String Nat)) ∧
      ¬EvictsLawfully single [.set 1 "a" 10 0] 2 "b" 5 5 := by
  refine ⟨by simp [Ordered, Op.now?], ?_⟩
  intro lawful
  have popped : Pops (run single [.set 1 "a" 10 0]) 2 "b" 5 5 1 := by
    constructor
    · decide
    · decide
  have live := (lawful 1 10 "a" rfl (by decide) popped 2 5 "b" rfl).1
  exact absurd live (by decide)

end Meshloom.TtlLru
