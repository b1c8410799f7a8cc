import Meshloom.Community.StatusClear
import Mathlib.Data.List.Nodup

/-! Each save acts on the stored list as it is, as long as what it keeps has not changed since it
was loaded. -/
namespace Meshloom.StatusClear
open Transition

section Count
variable {key : Key} {now : Time} {entries : List Entry}

theorem countAttempt_keys : (Edit.countAttempt key now entries).map Entry.key? =
    entries.map Entry.key? := by
  induction entries with
  | nil => rfl
  | cons entry rest ih =>
      by_cases found : entry.key? = some key
      · simp only [Edit.countAttempt, if_pos found, List.map_cons]
        rfl
      · simp only [Edit.countAttempt, if_neg found, List.map_cons, ih]

theorem countAttempt_marks : (Edit.countAttempt key now entries).map Entry.mark =
    entries.map Entry.mark := by
  induction entries with
  | nil => rfl
  | cons entry rest ih =>
      by_cases found : entry.key? = some key
      · simp only [Edit.countAttempt, if_pos found, List.map_cons]
      · simp only [Edit.countAttempt, if_neg found, List.map_cons, ih]

/-- With the clear that follows it, an attempt that is counted keeps the count of clears. -/
theorem countAttempt_counted {sent : List Nat} (marked : (entries.map Entry.mark).Nodup)
    (counted : ∀ entry ∈ entries, sent.count entry.mark ≤ entry.attempts) :
    ∀ entry ∈ Edit.countAttempt key now entries,
      (sent ++ ((entries.find? fun entry => decide (entry.key? = some key)).map
        Entry.mark).toList).count entry.mark ≤ entry.attempts := by
  induction entries with
  | nil => simp [Edit.countAttempt]
  | cons head rest ih =>
      obtain ⟨fresh, marked⟩ := List.nodup_cons.mp marked
      obtain ⟨first, counted⟩ := List.forall_mem_cons.mp counted
      by_cases found : head.key? = some key
      · have located : ((head :: rest).find? fun entry => decide (entry.key? = some key)) =
            some head := List.find?_cons_of_pos (by simpa using found)
        simp only [Edit.countAttempt, if_pos found, located, Option.map_some, Option.toList_some,
          List.count_append, List.count_singleton]
        intro entry member
        obtain rfl | member := List.mem_cons.mp member
        · simpa using first
        · have other : head.mark ≠ entry.mark :=
            fun same => fresh (List.mem_map.mpr ⟨entry, member, same.symm⟩)
          rw [beq_false_of_ne other]
          exact counted entry member
      · have skipped : ((head :: rest).find? fun entry => decide (entry.key? = some key)) =
            rest.find? fun entry => decide (entry.key? = some key) :=
          List.find?_cons_of_neg (by simpa using found)
        simp only [Edit.countAttempt, if_neg found, skipped]
        intro entry member
        obtain rfl | member := List.mem_cons.mp member
        · rw [List.count_append]
          refine Nat.le_trans (Nat.le_of_eq ?_) first
          rw [Nat.add_eq_left, List.count_eq_zero]
          intro listed
          obtain ⟨other, located, same⟩ := Option.map_eq_some_iff.mp (Option.mem_toList.mp listed)
          exact fresh (List.mem_map.mpr ⟨other, List.mem_of_find?_eq_some located, same⟩)
        · exact ih marked counted entry member

end Count

/-- An edit that counts no attempt, as those of the calls and of giving up. -/
def Edit.Plain : Edit → Prop
  | .count _ _ => False
  | _ => True

section Apply
variable {edit : Edit} {mark : Nat} {entries loaded : List Entry}

theorem apply_congr (same : loaded.filter edit.keeps = entries.filter edit.keeps) :
    edit.apply mark loaded = edit.apply mark entries := by
  simp only [Edit.apply, same]

theorem mem_apply {entry : Entry} (plain : edit.Plain) (member : entry ∈ edit.apply mark entries) :
    entry ∈ entries ∨ entry.attempts = 0 ∧ entry.mark = mark := by
  cases edit with
  | mark target now =>
      obtain member | member := List.mem_append.mp member
      · exact .inl (List.mem_of_mem_filter member)
      · cases List.mem_singleton.mp member
        exact .inr ⟨rfl, rfl⟩
  | remove target => exact .inl (List.mem_of_mem_filter member)
  | dropPubkey pubkey => exact .inl (List.mem_of_mem_filter member)
  | giveUp now => exact .inl (List.mem_of_mem_filter member)
  | count target now => exact plain.elim

theorem apply_marked (edit : Edit) (marked : (entries.map Entry.mark).Nodup)
    (older : ∀ entry ∈ entries, entry.mark < mark) :
    ((edit.apply mark entries).map Entry.mark).Nodup := by
  have kept : ((entries.filter edit.keeps).map Entry.mark).Nodup :=
    (List.filter_sublist.map Entry.mark).nodup marked
  cases edit with
  | mark target now =>
      have fresh : mark ∉ (entries.filter (Edit.mark target now).keeps).map Entry.mark := by
        intro listed
        obtain ⟨entry, member, same⟩ := List.mem_map.mp listed
        exact absurd (older entry (List.mem_of_mem_filter member)) (by omega)
      simp only [Edit.apply, List.map_append]
      exact List.Nodup.append kept (List.nodup_singleton _) (by simpa using fresh)
  | remove target => exact kept
  | dropPubkey pubkey => exact kept
  | giveUp now => exact kept
  | count target now =>
      simp only [Edit.apply, countAttempt_marks]
      exact kept

theorem stored_iff_mem {key : Key} :
    (∃ entry ∈ entries, entry.key? = some key) ↔ some key ∈ entries.map Entry.key? :=
  List.mem_map.symm

/-- Where the key decides whether an entry is kept, it decides whether a target is. -/
theorem exists_kept (edit : Edit) (entries : List Entry) (key : Key) {P : Prop}
    (decides : ∀ entry : Entry, entry.key? = some key → (edit.keeps entry = true ↔ P)) :
    (∃ entry ∈ entries.filter edit.keeps, entry.key? = some key) ↔
      P ∧ ∃ entry ∈ entries, entry.key? = some key := by
  constructor
  · rintro ⟨entry, member, named⟩
    obtain ⟨member, kept⟩ := List.mem_filter.mp member
    exact ⟨(decides entry named).mp kept, entry, member, named⟩
  · rintro ⟨holds, entry, member, named⟩
    exact ⟨entry, List.mem_filter.mpr ⟨member, (decides entry named).mpr holds⟩, named⟩

/-- What an edit leaves owed is what it leaves stored. -/
theorem settle_apply (edit : Edit) (mark : Nat) {owed : Key → Bool}
    (stored : ∀ key, owed key = true ↔ ∃ entry ∈ entries, entry.key? = some key) (key : Key) :
    edit.settle entries owed key = true ↔
      ∃ entry ∈ edit.apply mark entries, entry.key? = some key := by
  cases edit with
  | mark target now =>
      have kept := exists_kept (.mark target now) entries key (P := key ≠ target.key)
        (by simp +contextual [Edit.keeps])
      simp only [Edit.settle, Edit.apply, List.mem_append, List.mem_singleton, or_and_right,
        exists_or, kept, exists_eq_left, Function.update_apply]
      by_cases same : key = target.key
      · simp [same, Entry.key?]
      · simp [same, stored, Entry.key?, Ne.symm same]
  | remove target =>
      have kept := exists_kept (.remove target) entries key (P := key ≠ target.key)
        (by simp +contextual [Edit.keeps])
      simp only [Edit.settle, Edit.apply, kept, Function.update_apply]
      by_cases same : key = target.key
      · simp [same]
      · simp [same, stored]
  | dropPubkey pubkey =>
      have decides : ∀ entry : Entry, entry.key? = some key →
          ((Edit.dropPubkey pubkey).keeps entry = true ↔ Text.upper key.2.2 ≠ Text.upper pubkey) := by
        intro entry named
        obtain ⟨target, found, rfl⟩ := Option.map_eq_some_iff.mp named
        simp [Edit.keeps, found, StatusClearTarget.key]
      simp only [Edit.settle, Edit.apply, exists_kept _ _ _ decides, Bool.and_eq_true, stored,
        decide_eq_true_eq]
      exact and_comm
  | giveUp now =>
      simp only [Edit.settle, Edit.apply, Edit.keeps, Bool.and_eq_true, Bool.or_eq_true, stored,
        List.any_eq_true, List.mem_filter, List.isEmpty_iff, List.filter_eq_nil_iff,
        decide_eq_true_eq]
      constructor
      · rintro ⟨⟨entry, member, named⟩, absent | ⟨other, ⟨member', named'⟩, live⟩⟩
        · exact absurd named (absent entry member)
        · exact ⟨other, ⟨member', live⟩, named'⟩
      · rintro ⟨entry, ⟨member, live⟩, named⟩
        exact ⟨⟨entry, member, named⟩, .inr ⟨entry, ⟨member, named⟩, live⟩⟩
  | count target now =>
      have kept : entries.filter (Edit.count target now).keeps = entries :=
        List.filter_eq_self.mpr fun _ _ => rfl
      simp only [Edit.settle, Edit.apply, kept]
      rw [stored, stored_iff_mem, stored_iff_mem, countAttempt_keys]

end Apply

/-- What the saves keep, whatever the worker is at. -/
structure Ledger (s : State) : Prop where
  stored : ∀ key, s.owed key = true ↔ ∃ entry ∈ s.stored, entry.key? = some key
  marked : (s.stored.map Entry.mark).Nodup
  older : ∀ entry ∈ s.stored, entry.mark < s.marks
  counted : ∀ entry ∈ s.stored, s.sent.count entry.mark ≤ entry.attempts
  spent : ∀ mark, s.sent.count mark ≤ clearMaxAttempts
  unsent : ∀ mark, s.marks ≤ mark → s.sent.count mark = 0

/-- No stored entry has used its attempts up. -/
def Unspent (entries : List Entry) : Prop := ∀ entry ∈ entries, entry.attempts < clearMaxAttempts

/-- Once the worker has given up on the others, what it may count is not used up. -/
def Ready (stored : List Entry) : Worker → Prop
  | .locking _ | .reading _ | .checking _ _ | .counting _ _ _ => Unspent stored
  | .raised => False
  | _ => True

def Task.edit : Task → Edit
  | .loading edit | .saving edit _ => edit

structure Inv (s : State) : Prop where
  ledger : Ledger s
  ready : Ready s.stored s.worker
  plain : ∀ task ∈ s.tasks, task.edit.Plain

variable {s t : State}

theorem Ledger.save_plain {edit : Edit} (ledger : Ledger s) (plain : edit.Plain)
    (same : loaded.filter edit.keeps = s.stored.filter edit.keeps) :
    Ledger (save s edit loaded) := by
  have applied : (save s edit loaded).stored = edit.apply s.marks s.stored := apply_congr same
  refine ⟨?_, ?_, ?_, ?_, ledger.spent, ?_⟩
  · rw [applied]
    exact settle_apply edit s.marks ledger.stored
  · rw [applied]
    exact apply_marked edit ledger.marked ledger.older
  · rw [applied]
    intro entry member
    obtain member | ⟨_, named⟩ := mem_apply plain member
    · exact Nat.lt_succ_of_lt (ledger.older entry member)
    · exact named ▸ Nat.lt_succ_self _
  · rw [applied]
    intro entry member
    obtain member | ⟨_, named⟩ := mem_apply plain member
    · exact ledger.counted entry member
    · change s.sent.count entry.mark ≤ entry.attempts
      rw [named, ledger.unsent _ (Nat.le_refl _)]
      exact Nat.zero_le _
  · exact fun mark later => ledger.unsent mark (Nat.le_of_succ_le later)

theorem Unspent.apply {edit : Edit} {mark : Nat} (unspent : Unspent entries) (plain : edit.Plain) :
    Unspent (edit.apply mark entries) := by
  intro entry member
  obtain member | ⟨fresh, _⟩ := mem_apply plain member
  · exact unspent entry member
  · rw [fresh]
    decide

theorem Ready.save_plain {edit : Edit} (ready : Ready s.stored w) (plain : edit.Plain)
    (same : loaded.filter edit.keeps = s.stored.filter edit.keeps) :
    Ready (save s edit loaded).stored w := by
  have applied : (save s edit loaded).stored = edit.apply s.marks s.stored := apply_congr same
  rw [applied]
  cases w <;> first | exact Unspent.apply ready plain | exact ready

/-- A clear is sent for the mark of a stored entry. -/
theorem find_count (target : StatusClearTarget) (entries : List Entry) (mark : Nat) :
    ((find target entries).map Entry.mark).toList.count mark = 0 ∨
      ((find target entries).map Entry.mark).toList.count mark = 1 ∧
        ∃ entry ∈ entries, entry.mark = mark := by
  cases located : find target entries with
  | none => exact .inl rfl
  | some entry =>
      simp only [Option.map_some, Option.toList_some, List.count_singleton, beq_iff_eq]
      by_cases same : entry.mark = mark
      · exact .inr ⟨if_pos same, entry, List.mem_of_find?_eq_some located, same⟩
      · exact .inl (if_neg same)

/-- The worker counts the attempt and sends the clear. -/
def attempted (s : State) (target : StatusClearTarget) (now : Time) (loaded : List Entry) : State :=
  { save s (.count target now) loaded with
    worker := .clearing target
    sent := s.sent ++ ((find target loaded).map Entry.mark).toList }

theorem Ledger.attempted {target : StatusClearTarget} (ledger : Ledger s)
    (unspent : Unspent s.stored) (same : loaded = s.stored) :
    Ledger (attempted s target now loaded) := by
  subst same
  have applied : (StatusClear.attempted s target now s.stored).stored =
      Edit.countAttempt target.key now s.stored :=
    congrArg (Edit.countAttempt target.key now) (List.filter_eq_self.mpr fun _ _ => rfl)
  refine ⟨settle_apply (.count target now) s.marks ledger.stored,
    apply_marked (.count target now) ledger.marked ledger.older, ?_, ?_, ?_, ?_⟩
  · intro entry member
    have listed : entry.mark ∈ (Edit.countAttempt target.key now s.stored).map Entry.mark :=
      List.mem_map_of_mem (applied ▸ member)
    rw [countAttempt_marks] at listed
    obtain ⟨old, member, named⟩ := List.mem_map.mp listed
    exact named ▸ Nat.lt_succ_of_lt (ledger.older old member)
  · intro entry member
    exact countAttempt_counted ledger.marked ledger.counted entry (applied ▸ member)
  · intro mark
    refine Nat.le_trans (Nat.le_of_eq List.count_append) ?_
    obtain none | ⟨one, entry, member, rfl⟩ := find_count target s.stored mark
    · exact none ▸ ledger.spent mark
    · have spent := Nat.lt_of_le_of_lt (ledger.counted entry member) (unspent entry member)
      exact one ▸ spent
  · intro mark later
    refine List.count_append.trans ?_
    rw [ledger.unsent mark (Nat.le_of_succ_le later), Nat.zero_add]
    obtain none | ⟨_, entry, member, rfl⟩ := find_count target s.stored mark
    · exact none
    · exact absurd (ledger.older entry member) (Nat.not_lt.mpr (Nat.le_of_succ_le later))

/-- An entry that has not expired has a target and attempts left. -/
theorem of_unexpired {entry : Entry} (live : (Edit.giveUp now).keeps entry = true) :
    (∃ target, entry.target = some target) ∧ entry.attempts < clearMaxAttempts := by
  simp only [Edit.keeps, expired, Bool.not_eq_true', Bool.or_eq_false_iff, decide_eq_false_iff_not,
    Nat.not_le] at live
  exact ⟨Option.isSome_iff_exists.mp (by simpa using live.1.1), live.1.2⟩

theorem dueAt_found {entry : Entry} (left : entry.attempts < clearMaxAttempts) :
    ∃ due, dueAt entry = some due := by
  have inside : entry.attempts < clearRetryDelays.length := left
  simp [dueAt, inside]

/-- While attempts are left, every entry has a due time and one is first. -/
theorem firstDue_found {live : List Entry} (unspent : Unspent live) (some : live ≠ []) :
    ∃ entry ∈ live, ∃ due, firstDue live = .some (entry, due) := by
  induction live with
  | nil => contradiction
  | cons entry rest ih =>
      obtain ⟨left, unspent⟩ := List.forall_mem_cons.mp unspent
      obtain ⟨due, found⟩ := dueAt_found left
      cases rest with
      | nil => exact ⟨entry, List.mem_cons_self, due, by simp [firstDue, found]⟩
      | cons next rest =>
          obtain ⟨other, member, otherDue, first⟩ := ih unspent (List.cons_ne_nil _ _)
          by_cases earlier : otherDue < due
          · exact ⟨other, List.mem_cons_of_mem _ member, otherDue,
              by simp [firstDue, found, first, earlier]⟩
          · exact ⟨entry, List.mem_cons_self, due, by simp [firstDue, found, first, earlier]⟩

/-- Of unexpired entries the worker can choose one. -/
theorem choose_ready {live : List Entry} (unspent : Unspent s.stored)
    (unexpired : ∀ entry ∈ live, (Edit.giveUp now).keeps entry = true) :
    Ready s.stored (choose s now live).worker := by
  unfold choose
  split
  · trivial
  · rename_i some
    obtain ⟨entry, member, due, found⟩ :=
      firstDue_found (fun entry member => (of_unexpired (unexpired entry member)).2) some
    obtain ⟨⟨target, named⟩, _⟩ := of_unexpired (unexpired entry member)
    simp only [found, named]
    split
    · trivial
    · split
      · exact unspent
      · trivial

theorem Ledger.frame (ledger : Ledger s) (stored : t.stored = s.stored) (owed : t.owed = s.owed)
    (sent : t.sent = s.sent) (marks : t.marks = s.marks) : Ledger t := by
  constructor
  · rw [stored, owed]
    exact ledger.stored
  · rw [stored]
    exact ledger.marked
  · rw [stored, marks]
    exact ledger.older
  · rw [stored, sent]
    exact ledger.counted
  · rw [sent]
    exact ledger.spent
  · rw [sent, marks]
    exact ledger.unsent

theorem choose_eq (s : State) (now : Time) (live : List Entry) :
    ∃ worker, choose s now live = { s with worker } := by
  unfold choose
  split
  · exact ⟨_, rfl⟩
  · split
    · exact ⟨_, rfl⟩
    · split
      · exact ⟨_, rfl⟩
      · split
        · exact ⟨_, rfl⟩
        · split <;> exact ⟨_, rfl⟩

theorem Inv.choose {live : List Entry} (ledger : Ledger s) (unspent : Unspent s.stored)
    (plain : ∀ task ∈ s.tasks, task.edit.Plain)
    (unexpired : ∀ entry ∈ live, (Edit.giveUp now).keeps entry = true) :
    Inv (choose s now live) := by
  have ready := choose_ready unspent unexpired
  obtain ⟨worker, chosen⟩ := choose_eq s now live
  rw [chosen] at ready ⊢
  exact ⟨ledger.frame rfl rfl rfl rfl, ready, plain⟩

/-- An edit that need not be saved would leave what is stored. -/
theorem unsaved_kept {edit : Edit} (mark : Nat) (unsaved : edit.saves entries = false) :
    edit.apply mark entries = entries ∧ entries.filter edit.keeps = entries := by
  have kept : entries.filter edit.keeps = entries := by
    cases edit <;> simp_all [Edit.saves, List.length_filter_eq_length_iff, List.filter_eq_self]
  cases edit with
  | mark target now => contradiction
  | remove target => exact ⟨kept, kept⟩
  | dropPubkey pubkey => exact ⟨kept, kept⟩
  | giveUp now => exact ⟨kept, kept⟩
  | count target now => contradiction

theorem Inv.again (inv : Inv s) : Inv (again s) :=
  ⟨inv.ledger.frame rfl rfl rfl rfl, trivial, inv.plain⟩

/-- What an edit that need not be saved releases is not stored. -/
theorem Inv.unsaved {edit : Edit} (inv : Inv s) (unsaved : edit.saves s.stored = false) :
    Inv { s with owed := edit.settle s.stored s.owed } := by
  have settled := fun key => settle_apply edit s.marks inv.ledger.stored key
  rw [(unsaved_kept s.marks unsaved).1] at settled
  exact ⟨{ inv.ledger with stored := settled }, inv.ready, inv.plain⟩

theorem proceed_inv (inv : Inv s) (unchanged : Unchanged s (.proceed i))
    (stepped : proceed s i = some t) : Inv t := by
  simp only [proceed] at stepped
  split at stepped
  · rename_i edit found
    have plain := inv.plain _ (List.mem_of_getElem? found)
    split at stepped
    · cases stepped
      refine ⟨inv.ledger.frame rfl rfl rfl rfl, inv.ready, fun task member => ?_⟩
      obtain member | rfl := List.mem_or_eq_of_mem_set member
      · exact inv.plain task member
      · exact plain
    · rename_i unsaved
      cases stepped
      have released := inv.unsaved (eq_false_of_ne_true unsaved)
      exact ⟨released.ledger.frame rfl rfl rfl rfl, released.ready,
        fun task member => inv.plain task (List.mem_of_mem_eraseIdx member)⟩
  · rename_i edit loaded found
    have plain := inv.plain _ (List.mem_of_getElem? found)
    have same := unchanged edit loaded (by simp only [saving, found])
    cases stepped
    exact ⟨(inv.ledger.save_plain plain same).frame rfl rfl rfl rfl,
      inv.ready.save_plain plain same,
      fun task member => inv.plain task (List.mem_of_mem_eraseIdx member)⟩
  · contradiction

theorem work_inv (inv : Inv s) (unchanged : Unchanged s .work) (stepped : work s = some t) :
    Inv t := by
  have ready := inv.ready
  simp only [work] at stepped
  split at stepped
  · rename_i now at_
    split at stepped
    · cases stepped
      exact ⟨inv.ledger.frame rfl rfl rfl rfl, trivial, inv.plain⟩
    · rename_i unsaved
      cases stepped
      have live := List.filter_eq_self.mp (unsaved_kept 0 (eq_false_of_ne_true unsaved)).2
      have unspent : Unspent s.stored := fun entry member => (of_unexpired (live entry member)).2
      exact Inv.choose inv.ledger unspent inv.plain live
  · rename_i now loaded at_
    have same := unchanged (.giveUp now) loaded (by simp only [saving, at_])
    have live : ∀ entry ∈ loaded.filter (Edit.giveUp now).keeps,
        (Edit.giveUp now).keeps entry = true := fun _ member => (List.mem_filter.mp member).2
    cases stepped
    exact Inv.choose (inv.ledger.save_plain trivial same)
      (fun entry member => (of_unexpired (live entry member)).2) inv.plain live
  · cases stepped
    exact inv.again
  · rename_i target at_
    rw [at_] at ready
    split at stepped
    · cases stepped
      exact ⟨inv.ledger.frame rfl rfl rfl rfl, ready, inv.plain⟩
    · cases stepped
      exact inv.again
  · rename_i target at_
    rw [at_] at ready
    split at stepped
    · cases stepped
      exact inv.again
    · cases stepped
      exact ⟨inv.ledger.frame rfl rfl rfl rfl, ready, inv.plain⟩
  · rename_i target loaded at_
    rw [at_] at ready
    split at stepped
    · cases stepped
      exact ⟨inv.ledger.frame rfl rfl rfl rfl, trivial, inv.plain⟩
    · cases stepped
      exact ⟨inv.ledger.frame rfl rfl rfl rfl, ready, inv.plain⟩
  · rename_i target now loaded at_
    rw [at_] at ready
    have same := unchanged (.count target now) loaded (by simp only [saving, at_])
    have all : ∀ entries : List Entry, entries.filter (Edit.count target now).keeps = entries :=
      fun _ => List.filter_eq_self.mpr fun _ _ => rfl
    have whole : loaded = s.stored := by
      rwa [all, all] at same
    cases stepped
    exact ⟨inv.ledger.attempted ready whole, trivial, inv.plain⟩
  · rename_i target at_
    split at stepped
    · cases stepped
      exact ⟨inv.ledger.frame rfl rfl rfl rfl, trivial, inv.plain⟩
    · rename_i unsaved
      cases stepped
      exact (inv.unsaved (eq_false_of_ne_true unsaved)).again
  · rename_i target loaded at_
    have same := unchanged (.remove target) loaded (by simp only [saving, at_])
    cases stepped
    exact ⟨(inv.ledger.save_plain (by trivial) same).frame rfl rfl rfl rfl, trivial, inv.plain⟩
  all_goals contradiction

theorem begin_plain {call : Call} {edit : Edit} (begun : begin s call = some edit) :
    edit.Plain := by
  cases call with
  | markPending target =>
      cases begun
      trivial
  | resolve target =>
      cases begun
      trivial
  | dropPubkey pubkey =>
      cases begun
      trivial
  | dropCurrent state =>
      simp only [begin] at begun
      split at begun
      · obtain ⟨target, _, rfl⟩ := Option.map_eq_some_iff.mp begun
        trivial
      · contradiction

theorem step_inv (inv : Inv s) (unchanged : Unchanged s e) (stepped : step s e = some t) :
    Inv t := by
  cases e with
  | tick time =>
      obtain ⟨_, stepped⟩ := Option.ite_none_right_eq_some.mp stepped
      cases stepped
      exact ⟨inv.ledger.frame rfl rfl rfl rfl, inv.ready, inv.plain⟩
  | configure community =>
      cases stepped
      exact ⟨inv.ledger.frame rfl rfl rfl rfl, inv.ready, inv.plain⟩
  | connect keystore =>
      cases stepped
      exact ⟨inv.ledger.frame rfl rfl rfl rfl, inv.ready, inv.plain⟩
  | call call =>
      simp only [step] at stepped
      split at stepped
      · rename_i edit begun
        cases stepped
        refine ⟨inv.ledger.frame rfl rfl rfl rfl, inv.ready, fun task member => ?_⟩
        obtain member | member := List.mem_append.mp member
        · exact inv.plain task member
        · cases List.mem_singleton.mp member
          exact begin_plain begun
      · cases stepped
        exact inv
  | proceed i => exact proceed_inv inv unchanged stepped
  | abandon i =>
      obtain ⟨_, stepped⟩ := Option.ite_none_right_eq_some.mp stepped
      cases stepped
      exact ⟨inv.ledger.frame rfl rfl rfl rfl, inv.ready,
        fun task member => inv.plain task (List.mem_of_mem_eraseIdx member)⟩
  | schedule =>
      simp only [step] at stepped
      split at stepped
      · cases stepped
        exact inv.again
      · cases stepped
        exact inv.again
      · contradiction
  | work => exact work_inv inv unchanged stepped
  | cleared ok =>
      simp only [step] at stepped
      split at stepped
      · cases stepped
        exact ⟨inv.ledger.frame rfl rfl rfl rfl, trivial, inv.plain⟩
      · cases stepped
        exact inv.again
      · contradiction
  | stop =>
      cases stepped
      exact ⟨inv.ledger.frame rfl rfl rfl rfl, trivial, inv.plain⟩
  | restart =>
      cases stepped
      exact ⟨inv.ledger.frame rfl rfl rfl rfl, trivial, fun _ member => absurd member List.not_mem_nil⟩

theorem start_inv (first : List Entry) (clock : Time) (community : Community)
    (keystore : Keystore) : Inv (start first clock community keystore) := by
  have marks : (start first clock community keystore).stored.map Entry.mark =
      List.range first.length := by
    refine List.ext_getElem (by simp [start]) fun i _ _ => ?_
    simp [start]
  refine ⟨⟨?_, ?_, ?_, fun _ _ => Nat.zero_le _, fun _ => Nat.zero_le _, fun _ _ => rfl⟩, trivial,
    fun _ member => absurd member List.not_mem_nil⟩
  · intro key
    have keys : (start first clock community keystore).stored.map Entry.key? =
        first.map Entry.key? := by
      refine List.ext_getElem (by simp [start]) fun i _ _ => ?_
      simp [start, Entry.key?]
    rw [stored_iff_mem, keys, ← stored_iff_mem]
    simp [start]
  · rw [marks]
    exact List.nodup_range
  · intro entry member
    exact List.mem_range.mp (marks ▸ List.mem_map_of_mem member)

/-- While no save undoes another, a pending target is stored exactly as long as it is owed a clear,
and at most `CLEAR_MAX_ATTEMPTS` are sent for a mark. -/
theorem clears_settled {first : List Entry}
    (run : Reaches step Unchanged (start first clock community keystore) s) : Settled s := by
  have inv := run.invariant step_inv (start_inv first clock community keystore)
  refine ⟨inv.ledger.stored, inv.ledger.spent, fun raised => ?_⟩
  have ready := inv.ready
  rw [raised] at ready
  exact ready

/-- The status topic of a region that was left. -/
def left (iata : String) (given : iata ≠ "") : StatusClearTarget where
  iata
  brokerHost := "mqtt.example"
  audience := "mqtt.example"
  pubkey := "AB"
  named := ⟨given, by decide, by decide⟩

def outside : Community := ⟨false, "", "mqtt.example", ""⟩

def radio : Keystore := ⟨some "AB", true⟩

/-- A target is cleared by the worker's first attempt. -/
theorem firstAttempt_settled : ∃ s : State, s.stored = [] ∧ s.sent = [0] ∧ Settled s := by
  have ran : (executeWhere step Unchanged (start [] 0 outside radio)
      [.call (.markPending (left "CDG" (by decide))), .proceed 0, .proceed 0, .schedule, .work,
        .tick 60, .work, .work, .work, .work, .work, .work, .cleared true, .work, .work]).any
      (fun s => decide (s.stored = [] ∧ s.sent = [0])) = true := by
    decide +kernel
  obtain ⟨s, executed, holds⟩ := (Option.any_eq_true _ _).mp ran
  obtain ⟨empty, sent⟩ := of_decide_eq_true holds
  exact ⟨s, empty, sent, clears_settled (executeWhere_reaches executed)⟩

/-- The worker gives up on an old target while another one is marked, and both are gone. -/
theorem giveUp_loses_mark : ∃ s : State,
    Reaches step Any (start [] 0 outside radio) s ∧ ¬ Settled s := by
  let lost := left "ORY" (by decide)
  have ran : (execute step (start [] 0 outside radio)
      [.call (.markPending (left "CDG" (by decide))), .proceed 0, .proceed 0, .tick 86400,
        .schedule, .work, .call (.markPending lost), .proceed 0, .proceed 0, .work]).any
      (fun s => decide (s.stored = [] ∧ s.owed lost.key = true)) = true := by
    decide +kernel
  obtain ⟨s, executed, holds⟩ := (Option.any_eq_true _ _).mp ran
  obtain ⟨empty, owed⟩ := of_decide_eq_true holds
  refine ⟨s, execute_reaches executed, fun settled => ?_⟩
  obtain ⟨entry, member, _⟩ := (settled.stored lost.key).mp owed
  rw [empty] at member
  contradiction

end Meshloom.StatusClear
