import Meshloom.Frontend.MessageView

/-! What the view shows of a message only grows, along every run in which no page is
behind the view and no buffered acknowledgement is taken for a message that is not shown. -/
namespace Meshloom.Frontend.MessageView
open Transition
variable {s t : State}

/-- The buffer has room, a page repeats no id and is not behind what is shown, and a
message event that has an acknowledgement waiting for it is going to be shown. -/
def Allowed (s : State) (event : Event) : Prop :=
  s.pending.size < maxPendingAcks ∧
    match event with
    | .ack _ _ => True
    | .message msg => s.pending.get? msg.id = none ∨
        s.hasNewerMessages = false ∧ getMessageContentKey msg ∉ s.seenMessageContent
    | .fetched _ data => (data.map Message.id).Nodup ∧
        ∀ row ∈ data, ∀ shown ∈ s.messages, shown.id = row.id →
          shown.acked ≤ row.acked ∧ shown.pathCount ≤ row.pathCount

structure Invariant (s : State) : Prop where
  distinct : (s.messages.map Message.id).Nodup
  /-- Nothing waits for a message that is shown. -/
  apart : ∀ id update, s.pending.get? id = some update → ∀ shown ∈ s.messages, shown.id ≠ id
  covered : ∀ id count, (id, count) ∈ s.received →
    (∃ shown ∈ s.messages, shown.id = id ∧ count ≤ shown.acked) ∨
      ∃ update, s.pending.get? id = some update ∧ count ≤ update.ackCount

/-- Every message of the first list is in the second, with no less to show. -/
def Grows (old new : List Message) : Prop :=
  ∀ shown ∈ old, ∃ later ∈ new, later.id = shown.id ∧ shown.acked ≤ later.acked ∧
    shown.pathCount ≤ later.pathCount

theorem Grows.refl (messages : List Message) : Grows messages messages :=
  fun shown member => ⟨shown, member, rfl, le_rfl, le_rfl⟩

theorem Grows.trans (first : Grows a b) (second : Grows b c) : Grows a c := by
  intro shown member
  obtain ⟨later, there, id, acked, paths⟩ := first shown member
  obtain ⟨last, listed, id', acked', paths'⟩ := second later there
  exact ⟨last, listed, id'.trans id, acked.trans acked', paths.trans paths'⟩

/-- What waited still waits with no less, or is shown. -/
def Carried (s t : State) : Prop :=
  ∀ id update, s.pending.get? id = some update →
    (∃ later, t.pending.get? id = some later ∧ update.ackCount ≤ later.ackCount) ∨
      ∃ shown ∈ t.messages, shown.id = id ∧ update.ackCount ≤ shown.acked

theorem covered_carried (inv : Invariant s) (grows : Grows s.messages t.messages)
    (carried : Carried s t) (id : Int) (count : Nat) (member : (id, count) ∈ s.received) :
    (∃ shown ∈ t.messages, shown.id = id ∧ count ≤ shown.acked) ∨
      ∃ update, t.pending.get? id = some update ∧ count ≤ update.ackCount := by
  obtain ⟨shown, listed, rfl, le⟩ | ⟨update, waiting, le⟩ := inv.covered id count member
  · obtain ⟨later, there, same, acked, _⟩ := grows shown listed
    exact .inl ⟨later, there, same, le.trans acked⟩
  · obtain ⟨later, waits, more⟩ | ⟨shown, listed, same, more⟩ := carried id update waiting
    · exact .inr ⟨later, waits, le.trans more⟩
    · exact .inl ⟨shown, listed, same, le.trans more⟩

theorem mergePendingAck_ackCount (existing : Option AckUpdate) (update : AckUpdate) :
    update.ackCount ≤ (mergePendingAck existing update).ackCount ∧
      ∀ old ∈ existing, old.ackCount ≤ (mergePendingAck existing update).ackCount := by
  cases existing with
  | none => simp [mergePendingAck]
  | some old =>
      simp only [Option.mem_some_iff, forall_eq', mergePendingAck]
      split
      · rename_i more
        exact ⟨le_rfl, more.le⟩
      split
      · rename_i less
        exact ⟨less.le, le_rfl⟩
      · have same : update.ackCount = old.ackCount := by omega
        split
        · split <;> exact ⟨same.le, le_rfl⟩
        · split
          · exact ⟨le_rfl, same.ge⟩
          split <;> exact ⟨same.le, le_rfl⟩

theorem get?_setPendingAck {pending : Pending} (room : pending.size < maxPendingAcks)
    (messageId id : Int) (update : AckUpdate) :
    (setPendingAck pending messageId update).get? id =
      if id = messageId then some (mergePendingAck (pending.get? messageId) update)
      else pending.get? id := by
  have popped := pending.size_pop_le messageId
  have grown := (pending.pop messageId).size_set_le messageId
    (mergePendingAck (pending.get? messageId) update)
  simp only [setPendingAck]
  rw [if_neg (by omega), Dict.get?_set, Dict.get?_pop]
  split <;> rfl

section Apply
variable (pending : Pending)

@[simp]
theorem applyPendingAck_id (msg : Message) : (applyPendingAck pending msg).1.id = msg.id := by
  unfold applyPendingAck
  split <;> rfl

@[simp]
theorem applyPendingAck_contentKey (msg : Message) :
    getMessageContentKey (applyPendingAck pending msg).1 = getMessageContentKey msg := by
  unfold applyPendingAck
  split <;> rfl

theorem applyPendingAck_get? (msg : Message) (id : Int) :
    (applyPendingAck pending msg).2.get? id = if id = msg.id then none else pending.get? id := by
  unfold applyPendingAck
  split
  · rename_i absent
    split
    · rename_i same
      rw [same, absent]
    · rfl
  · rw [Dict.get?_pop]

theorem applyPendingAck_none {msg : Message} (absent : pending.get? msg.id = none) :
    applyPendingAck pending msg = (msg, pending) := by
  simp only [applyPendingAck, absent]

theorem applyPendingAck_some {msg : Message} (waiting : pending.get? msg.id = some update) :
    update.ackCount ≤ (applyPendingAck pending msg).1.acked := by
  simp only [applyPendingAck, waiting, withPending]
  exact Nat.le_max_right _ _

theorem applyPendingAck_congr {pending other : Pending} {msg : Message}
    (same : pending.get? msg.id = other.get? msg.id) :
    (applyPendingAck pending msg).1 = (applyPendingAck other msg).1 := by
  simp only [applyPendingAck, same]
  split <;> rfl

theorem applyPendingAcks_spec {data : List Message} (distinct : (data.map Message.id).Nodup) :
    (applyPendingAcks pending data).1 = data.map (fun row => (applyPendingAck pending row).1) ∧
      ∀ id, (applyPendingAcks pending data).2.get? id =
        if id ∈ data.map Message.id then none else pending.get? id := by
  induction data generalizing pending with
  | nil => exact ⟨rfl, fun _ => rfl⟩
  | cons row rest ih =>
      obtain ⟨fresh, distinct⟩ := List.nodup_cons.mp distinct
      obtain ⟨rows, waiting⟩ := ih (applyPendingAck pending row).2 distinct
      simp only [applyPendingAcks]
      constructor
      · rw [rows, List.map_cons, List.cons.injEq]
        refine ⟨rfl, List.map_congr_left ?_⟩
        intro other member
        apply applyPendingAck_congr
        rw [applyPendingAck_get?, if_neg]
        intro same
        exact fresh (List.mem_map.mpr ⟨other, member, same⟩)
      · intro id
        rw [waiting, applyPendingAck_get?]
        by_cases first : id = row.id
        · simp [first]
        · simp [first]

end Apply

theorem acknowledge_grows (message : Message) (update : AckUpdate) :
    message.acked ≤ (message.acknowledge update).acked ∧
      message.pathCount ≤ (message.acknowledge update).pathCount := by
  refine ⟨Nat.le_max_left _ _, ?_⟩
  have paths : (message.acknowledge update).paths = message.paths ∨
      ∃ paths, (message.acknowledge update).paths = some paths ∧ message.pathCount ≤ paths.length := by
    simp only [Message.acknowledge]
    cases update.paths with
    | none => exact .inl rfl
    | some paths =>
        by_cases enough : paths.length ≥ message.pathCount
        · exact .inr ⟨paths, if_pos enough, enough⟩
        · exact .inl (if_neg enough)
  obtain same | ⟨paths, eq, enough⟩ := paths
  · rw [Message.pathCount, Message.pathCount, same]
  · rw [Message.pathCount.eq_1 (message.acknowledge update), eq]
    exact enough

theorem acknowledgeFirst_grows (messages : List Message) (messageId : Int) (update : AckUpdate) :
    Grows messages (acknowledgeFirst messageId update messages) := by
  induction messages with
  | nil => exact .refl _
  | cons message rest ih =>
      intro shown member
      simp only [acknowledgeFirst]
      split
      · obtain rfl | member := List.mem_cons.mp member
        · exact ⟨_, List.mem_cons_self, rfl, acknowledge_grows shown update⟩
        · exact ⟨shown, List.mem_cons_of_mem _ member, rfl, le_rfl, le_rfl⟩
      · obtain rfl | member := List.mem_cons.mp member
        · exact ⟨shown, List.mem_cons_self, rfl, le_rfl, le_rfl⟩
        · obtain ⟨later, there, grown⟩ := ih shown member
          exact ⟨later, List.mem_cons_of_mem _ there, grown⟩

theorem acknowledgeFirst_acked {messages : List Message} (update : AckUpdate)
    (shown : messages.any (·.id = messageId) = true) :
    ∃ later ∈ acknowledgeFirst messageId update messages, later.id = messageId ∧
      update.ackCount ≤ later.acked := by
  induction messages with
  | nil => contradiction
  | cons message rest ih =>
      simp only [acknowledgeFirst]
      split
      · rename_i same
        exact ⟨_, List.mem_cons_self, same, Nat.le_max_right _ _⟩
      · rename_i different
        rw [List.any_cons, decide_eq_false different, Bool.false_or] at shown
        obtain ⟨later, there, found⟩ := ih shown
        exact ⟨later, List.mem_cons_of_mem _ there, found⟩

/-- An acknowledgement is shown, or it waits. -/
theorem ack_step (inv : Invariant s) (room : s.pending.size < maxPendingAcks)
    (messageId : Int) (update : AckUpdate) :
    Grows s.messages (updateMessageAck s messageId update).messages ∧
      Carried s (updateMessageAck s messageId update) ∧
      ((updateMessageAck s messageId update).messages.map Message.id = s.messages.map Message.id) ∧
      (∀ id later, (updateMessageAck s messageId update).pending.get? id = some later →
        ∀ shown ∈ s.messages, shown.id ≠ id) ∧
      ((∃ shown ∈ (updateMessageAck s messageId update).messages, shown.id = messageId ∧
          update.ackCount ≤ shown.acked) ∨
        ∃ later, (updateMessageAck s messageId update).pending.get? messageId = some later ∧
          update.ackCount ≤ later.ackCount) := by
  by_cases loaded : s.messages.any (·.id = messageId) = true
  · simp only [updateMessageAck, if_pos loaded]
    obtain ⟨shown, listed, here⟩ := List.any_eq_true.mp loaded
    simp only [decide_eq_true_eq] at here
    refine ⟨acknowledgeFirst_grows _ _ _, ?_, map_id_acknowledgeFirst _ _ _, ?_,
      .inl (acknowledgeFirst_acked update loaded)⟩
    · intro id waitingUpdate waiting
      refine .inl ⟨waitingUpdate, ?_, le_rfl⟩
      rw [Dict.get?_pop, if_neg, waiting]
      rintro rfl
      exact inv.apart _ _ waiting shown listed here
    · intro id later waiting
      rw [Dict.get?_pop] at waiting
      split at waiting
      · contradiction
      · exact inv.apart id later waiting
  · have absent : ∀ shown ∈ s.messages, shown.id ≠ messageId := by
      intro shown listed same
      exact loaded (List.any_eq_true.mpr ⟨shown, listed, by simpa using same⟩)
    have merged := mergePendingAck_ackCount (s.pending.get? messageId) update
    simp only [updateMessageAck, if_neg loaded]
    refine ⟨.refl _, ?_, trivial, ?_, .inr ⟨_, ?_, merged.1⟩⟩
    · intro id waitingUpdate waiting
      left
      rw [get?_setPendingAck room]
      by_cases same : id = messageId
      · subst same
        exact ⟨_, if_pos rfl, merged.2 _ waiting⟩
      · exact ⟨waitingUpdate, by rw [if_neg same, waiting], le_rfl⟩
    · intro id later waiting
      rw [get?_setPendingAck room] at waiting
      split at waiting
      · rename_i same
        rw [same]
        exact absent
      · exact inv.apart id later waiting
    · rw [get?_setPendingAck room, if_pos rfl]

/-- What a message event and a page have to keep. -/
structure Keeps (s t : State) : Prop where
  grows : Grows s.messages t.messages
  carried : Carried s t
  distinct : (t.messages.map Message.id).Nodup
  apart : ∀ id update, t.pending.get? id = some update → ∀ shown ∈ t.messages, shown.id ≠ id
  received : t.received = s.received

theorem Keeps.invariant (keeps : Keeps s t) (inv : Invariant s) : Invariant t := by
  refine ⟨keeps.distinct, keeps.apart, ?_⟩
  rw [keeps.received]
  exact covered_carried inv keeps.grows keeps.carried

theorem keeps_unchanged (inv : Invariant s) (messages : t.messages = s.messages)
    (pending : t.pending = s.pending) (received : t.received = s.received) : Keeps s t := by
  refine ⟨messages ▸ .refl _, ?_, messages ▸ inv.distinct, ?_, received⟩
  · intro id update waiting
    exact .inl ⟨update, by rw [pending, waiting], le_rfl⟩
  · rw [pending, messages]
    exact inv.apart

/-- A message that is not shown yet is shown with what waited for it. -/
theorem message_step (inv : Invariant s) {msg : Message}
    (allowed : s.pending.get? msg.id = none ∨
      s.hasNewerMessages = false ∧ getMessageContentKey msg ∉ s.seenMessageContent) :
    Keeps s (observeMessage s msg) := by
  have waits := applyPendingAck_get? s.pending msg
  have settled := @applyPendingAck_none (applyPendingAck s.pending msg).2
    (applyPendingAck s.pending msg).1
  rw [applyPendingAck_id, waits, if_pos rfl] at settled
  have again := settled rfl
  simp only [observeMessage, appendActiveMessageIfNew, again, applyPendingAck_contentKey,
    applyPendingAck_id]
  by_cases dropped : s.hasNewerMessages = true ∨ getMessageContentKey msg ∈ s.seenMessageContent
  · have absent : s.pending.get? msg.id = none := by
      obtain absent | ⟨latest, unseen⟩ := allowed
      · exact absent
      · rw [latest] at dropped
        simp [unseen] at dropped
    rw [applyPendingAck_none s.pending absent]
    split
    · exact keeps_unchanged inv rfl rfl rfl
    · rename_i latest
      rw [if_pos (dropped.resolve_left latest)]
      exact keeps_unchanged inv rfl rfl rfl
  · obtain ⟨latest, unseen⟩ := not_or.mp dropped
    rw [if_neg latest, if_neg unseen]
    have carried (id : Int) (update : AckUpdate) (waiting : s.pending.get? id = some update)
        (other : id ≠ msg.id) : (applyPendingAck s.pending msg).2.get? id = some update := by
      rw [waits, if_neg other, waiting]
    by_cases shown : s.messages.any (·.id = msg.id) = true
    · obtain ⟨old, listed, same⟩ := List.any_eq_true.mp shown
      simp only [decide_eq_true_eq] at same
      simp only [if_pos shown]
      refine ⟨.refl _, ?_, inv.distinct, ?_, rfl⟩
      · intro id update waiting
        refine .inl ⟨update, carried id update waiting ?_, le_rfl⟩
        rintro rfl
        exact inv.apart _ _ waiting old listed same
      · intro id update waiting
        simp only [waits] at waiting
        split at waiting
        · contradiction
        · exact inv.apart id update waiting
    · have fresh : ∀ old ∈ s.messages, old.id ≠ msg.id := by
        intro old listed same
        exact shown (List.any_eq_true.mpr ⟨old, listed, by simpa using same⟩)
      simp only [if_neg shown]
      refine ⟨?_, ?_, ?_, ?_, rfl⟩
      · intro old listed
        exact ⟨old, List.mem_append_left _ listed, rfl, le_rfl, le_rfl⟩
      · intro id update waiting
        by_cases same : id = msg.id
        · subst same
          exact .inr ⟨_, List.mem_append_right _ List.mem_cons_self, applyPendingAck_id _ _,
            applyPendingAck_some _ waiting⟩
        · exact .inl ⟨update, carried id update waiting same, le_rfl⟩
      · rw [List.map_append, List.nodup_append]
        refine ⟨inv.distinct, by simp, ?_⟩
        intro a left b right
        obtain ⟨old, listed, rfl⟩ := List.mem_map.mp left
        simp only [List.map_cons, List.map_nil, List.mem_singleton, applyPendingAck_id] at right
        rw [right]
        exact fresh old listed
      · intro id update waiting old listed
        simp only [waits] at waiting
        split at waiting
        · contradiction
        rename_i different
        obtain listed | new := List.mem_append.mp listed
        · exact inv.apart id update waiting old listed
        · rw [List.mem_singleton.mp new, applyPendingAck_id]
          exact Ne.symm different

theorem rowChanged_false {current : List Message} (same : rowChanged current row = false) :
    ∃ shown ∈ current, shown.id = row.id := by
  unfold rowChanged at same
  split at same
  · contradiction
  · rename_i shown found
    refine ⟨shown, List.mem_reverse.mp (List.mem_of_find?_eq_some found), ?_⟩
    simpa using List.find?_some found

/-- A page that is not behind the view replaces the rows that it has. -/
theorem fetched_step (inv : Invariant s) (latest : Bool) {data : List Message}
    (distinct : (data.map Message.id).Nodup)
    (current : ∀ row ∈ data, ∀ shown ∈ s.messages, shown.id = row.id →
      shown.acked ≤ row.acked ∧ shown.pathCount ≤ row.pathCount) :
    Keeps s (handleFetched s latest data) := by
  obtain ⟨rows, waits⟩ := applyPendingAcks_spec s.pending distinct
  have ids : (applyPendingAcks s.pending data).1.map Message.id = data.map Message.id := by
    rw [rows, List.map_map]
    exact List.map_congr_left fun row _ => applyPendingAck_id _ row
  -- a buffered update for a row of the page is in that row
  have taken (id : Int) (update : AckUpdate) (waiting : s.pending.get? id = some update)
      (fetched : id ∈ data.map Message.id) :
      ∃ row ∈ (applyPendingAcks s.pending data).1, row.id = id ∧ update.ackCount ≤ row.acked := by
    obtain ⟨row, listed, rfl⟩ := List.mem_map.mp fetched
    rw [rows]
    exact ⟨_, List.mem_map.mpr ⟨row, listed, rfl⟩, applyPendingAck_id _ _,
      applyPendingAck_some _ waiting⟩
  have kept (id : Int) (update : AckUpdate) (waiting : s.pending.get? id = some update)
      (other : id ∉ data.map Message.id) :
      (applyPendingAcks s.pending data).2.get? id = some update := by
    rw [waits, if_neg other, waiting]
  unfold handleFetched
  simp only
  cases reconciled : reconcileConversationMessages s.messages (applyPendingAcks s.pending data).1 with
  | none =>
      simp only
      have unchanged : ∀ row ∈ (applyPendingAcks s.pending data).1, rowChanged s.messages row = false := by
        unfold reconcileConversationMessages at reconciled
        split at reconciled
        · contradiction
        · rename_i same
          simpa using same
      have unused (id : Int) (update : AckUpdate) (waiting : s.pending.get? id = some update) :
          id ∉ data.map Message.id := by
        intro fetched
        obtain ⟨row, listed, rfl, _⟩ := taken id update waiting fetched
        obtain ⟨shown, there, same⟩ := rowChanged_false (unchanged row listed)
        exact inv.apart _ _ waiting shown there same
      refine ⟨.refl _, ?_, inv.distinct, ?_, rfl⟩
      · intro id update waiting
        exact .inl ⟨update, kept id update waiting (unused id update waiting), le_rfl⟩
      · intro id update waiting
        simp only [waits] at waiting
        split at waiting
        · contradiction
        · exact inv.apart id update waiting
  | some merged =>
      simp only
      unfold reconcileConversationMessages at reconciled
      split at reconciled
      · cases reconciled
        simp only [ids]
        refine ⟨?_, ?_, ?_, ?_, rfl⟩
        · intro shown listed
          by_cases fetched : shown.id ∈ data.map Message.id
          · obtain ⟨row, there, same⟩ := List.mem_map.mp fetched
            have idle : s.pending.get? row.id = none := by
              cases waiting : s.pending.get? row.id with
              | none => rfl
              | some update => exact (inv.apart _ _ waiting shown listed same.symm).elim
            refine ⟨row, List.mem_append_left _ ?_, same, current row there shown listed same.symm⟩
            rw [rows]
            exact List.mem_map.mpr ⟨row, there, by rw [applyPendingAck_none _ idle]⟩
          · refine ⟨shown, List.mem_append_right _ ?_, rfl, le_rfl, le_rfl⟩
            exact List.mem_filter.mpr ⟨listed, by simpa using fetched⟩
        · intro id update waiting
          by_cases fetched : id ∈ data.map Message.id
          · obtain ⟨row, there, found⟩ := taken id update waiting fetched
            exact .inr ⟨row, List.mem_append_left _ there, found⟩
          · exact .inl ⟨update, kept id update waiting fetched, le_rfl⟩
        · rw [List.map_append, List.nodup_append, ids]
          refine ⟨distinct, (List.filter_sublist.map _).nodup inv.distinct, ?_⟩
          intro a left b right
          obtain ⟨shown, listed, rfl⟩ := List.mem_map.mp right
          have absent := (List.mem_filter.mp listed).2
          rintro rfl
          simp [left] at absent
        · intro id update waiting shown listed
          simp only [waits] at waiting
          split at waiting
          · contradiction
          rename_i other
          obtain row | older := List.mem_append.mp listed
          · rintro rfl
            exact other (ids ▸ List.mem_map.mpr ⟨shown, row, rfl⟩)
          · exact inv.apart id update waiting shown (List.mem_of_mem_filter older)
      · contradiction

theorem step_spec (inv : Invariant s) (allowed : Allowed s event) (stepped : step s event = some t) :
    Invariant t ∧ Grows s.messages t.messages := by
  obtain ⟨room, allowed⟩ := allowed
  cases event with
  | ack messageId update =>
      cases stepped
      obtain ⟨grows, carried, ids, apart, acked⟩ := ack_step inv room messageId update
      refine ⟨⟨by rw [ids]; exact inv.distinct, ?_, ?_⟩, grows⟩
      · intro id later waiting shown listed
        have here : shown.id ∈ s.messages.map Message.id := ids ▸ List.mem_map.mpr ⟨shown, listed, rfl⟩
        obtain ⟨old, there, same⟩ := List.mem_map.mp here
        exact same ▸ apart id later waiting old there
      · intro id count member
        obtain new | old := List.mem_cons.mp member
        · cases new
          exact acked
        · exact covered_carried inv grows carried id count old
  | message msg =>
      cases stepped
      have keeps := message_step inv allowed
      exact ⟨keeps.invariant inv, keeps.grows⟩
  | fetched latest data =>
      cases stepped
      have keeps := fetched_step inv latest allowed.1 allowed.2
      exact ⟨keeps.invariant inv, keeps.grows⟩

theorem initial_invariant (initial : Initial s) : Invariant s := by
  obtain ⟨distinct, pending, received⟩ := initial
  refine ⟨distinct, ?_, ?_⟩
  · intro id update waiting
    rw [pending] at waiting
    contradiction
  · intro id count member
    rw [received] at member
    contradiction

theorem run_grows (inv : Invariant s) (run : Reaches step Allowed s t) :
    Invariant t ∧ Grows s.messages t.messages := by
  induction run with
  | refl => exact ⟨inv, .refl _⟩
  | next _ allowed stepped ih =>
      obtain ⟨kept, grown⟩ := step_spec ih.1 allowed stepped
      exact ⟨kept, ih.2.trans grown⟩

/-- Along every run in which no page is behind the view and no acknowledgement is taken
for a message that is not going to be shown, a message shows at least every
acknowledgement received for it, and its count and its paths never become fewer. -/
theorem acks_kept (initial : Initial first) (run : Reaches step Allowed first s) :
    (∀ id count, (id, count) ∈ s.received → ∀ shown ∈ s.messages, shown.id = id →
      count ≤ shown.acked) ∧
    ∀ t, Reaches step Allowed s t → ∀ shown ∈ s.messages, ∀ later ∈ t.messages, later.id = shown.id →
      shown.acked ≤ later.acked ∧ shown.pathCount ≤ later.pathCount := by
  have inv := (run_grows (initial_invariant initial) run).1
  constructor
  · intro id count member shown listed same
    obtain ⟨other, there, same', le⟩ | ⟨update, waiting, _⟩ := inv.covered id count member
    · have equal : other = shown :=
        List.inj_on_of_nodup_map inv.distinct there listed (same'.trans same.symm)
      exact equal ▸ le
    · exact (inv.apart id update waiting shown listed same).elim
  · intro t onward shown listed later there same
    obtain ⟨kept, grows⟩ := run_grows inv onward
    obtain ⟨found, member, same', more⟩ := grows shown listed
    have equal : found = later :=
      List.inj_on_of_nodup_map kept.distinct member there (same'.trans same.symm)
    exact equal ▸ more

/-- A message of our own without an acknowledgement. -/
def sentMessage : Message :=
  ⟨1, .chan, "C0FFEE", "hello", some 1700000000, 1700000000, none, none, 0, none, none, none⟩

/-- A view of that message. -/
def sentView : State := ⟨[sentMessage], .empty, {getMessageContentKey sentMessage}, false, []⟩

/-- The first echo of a message. -/
def firstEcho : AckUpdate := ⟨1, none, none, none, none⟩

/-- The view after the echo. -/
def echoedView : State := { updateMessageAck sentView 1 firstEcho with received := [(1, 1)] }

instance decidableAllowed (s : State) (event : Event) : Decidable (Allowed s event) :=
  @instDecidableAnd _ _ _ (match event with
    | .ack _ _ => .isTrue trivial
    | .message _ => inferInstanceAs (Decidable (_ ∨ _ ∧ _))
    | .fetched _ _ => inferInstanceAs (Decidable (_ ∧ _)))

/-- An echo that comes before its message, the message, and the next echo. -/
def echoes : List Event :=
  [.ack 1 ⟨1, some [⟨"a1", 1700000001, some 1⟩], none, none, none⟩, .message sentMessage,
    .ack 1 ⟨2, some [⟨"a1", 1700000001, some 1⟩, ⟨"b2", 1700000002, some 1⟩], none, none, none⟩]

/-- A page of two messages, the first of which has one echo more. -/
def laterPage : List Message :=
  [{ sentMessage with
      acked := 3
      paths := some [⟨"a1", 1700000001, some 1⟩, ⟨"b2", 1700000002, some 1⟩, ⟨"c3", 1700000003, some 1⟩] },
    { sentMessage with id := 2, text := "again" }]

theorem echoes_shown :
    ∃ s t, executeWhere step Allowed ⟨[], .empty, ∅, false, []⟩ echoes = some s ∧
      step s (.fetched true laterPage) = some t ∧
      s.messages.map Message.id = [1] ∧ t.messages.map Message.id = [1, 2] ∧
      (∀ shown ∈ t.messages, shown.id = 1 → 2 ≤ shown.acked) ∧
      ∀ shown ∈ s.messages, ∀ later ∈ t.messages, later.id = shown.id →
        shown.acked ≤ later.acked ∧ shown.pathCount ≤ later.pathCount := by
  have ran : ((executeWhere step Allowed ⟨[], .empty, ∅, false, []⟩ echoes).bind fun s =>
      (executeWhere step Allowed s [.fetched true laterPage]).map fun t =>
        (s.messages.map Message.id, t.messages.map Message.id, decide ((1, 2) ∈ t.received))) =
      some ([1], [1, 2], true) := by
    decide +kernel
  obtain ⟨s, run, ran⟩ := Option.bind_eq_some_iff.mp ran
  obtain ⟨t, onward, facts⟩ := Option.map_eq_some_iff.mp ran
  simp only [Prod.mk.injEq, decide_eq_true_eq] at facts
  obtain ⟨before, after, received⟩ := facts
  have first := executeWhere_reaches run
  have second := executeWhere_reaches onward
  have initial : Initial ⟨[], .empty, ∅, false, []⟩ := ⟨List.nodup_nil, rfl, rfl⟩
  have stepped : step s (.fetched true laterPage) = some t := by
    simp only [executeWhere] at onward
    split at onward
    · simpa using onward
    · contradiction
  exact ⟨s, t, run, stepped, before, after, (acks_kept initial (first.trans second)).1 1 2 received,
    (acks_kept initial first).2 t second⟩

/-- A page that the server read before the echo takes the echo away again. -/
theorem stale_page_loses_ack :
    step sentView (.ack 1 firstEcho) = some echoedView ∧
      (∃ shown ∈ echoedView.messages, shown.id = 1 ∧ shown.acked = 1) ∧
      ∃ t, step echoedView (.fetched false [sentMessage]) = some t ∧ (1, 1) ∈ t.received ∧
        ∃ later ∈ t.messages, later.id = 1 ∧ later.acked = 0 := by
  refine ⟨rfl, ?_, _, rfl, by decide, ?_⟩
  · exact ⟨sentMessage.acknowledge firstEcho, by decide, rfl, rfl⟩
  · exact ⟨sentMessage, by decide, rfl, rfl⟩

end Meshloom.Frontend.MessageView
