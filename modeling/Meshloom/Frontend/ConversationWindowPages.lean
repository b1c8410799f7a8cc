import Meshloom.Frontend.ConversationWindow
import Meshloom.Frontend.MessageViewProofs

/-! The messages of the view after a page or an event: those it showed and those of the page, each
once, when no content is taken for that of another message. -/
namespace Meshloom.Frontend.ConversationWindow
open MessageView

def places (messages : List Message) : Set (Int ×ₗ Int) := {p | ∃ m ∈ messages, m.position = p}

/-- The two have one id, one place and one content. -/
def Same (a b : Message) : Prop :=
  a.position = b.position ∧ getMessageContentKey a = getMessageContentKey b

theorem id_eq_of_position {a b : Message} (same : a.position = b.position) : a.id = b.id := by
  have := congrArg (fun p => (ofLex p).2) same
  exact this

theorem before_iff {a b : Message} : a.Before b ↔ a.position < b.position := by
  rw [Message.Before, Message.position, Message.position, Prod.Lex.toLex_lt_toLex]

theorem eq_of_id {server : List Message} (distinct : (server.map Message.id).Nodup)
    (left : a ∈ server) (right : b ∈ server) (same : a.id = b.id) : a = b :=
  List.inj_on_of_nodup_map distinct left right same

theorem mem_places {messages : List Message} (member : m ∈ messages) : m.position ∈ places messages :=
  ⟨m, member, rfl⟩

theorem places_append (left right : List Message) :
    places (left ++ right) = places left ∪ places right := by
  ext p
  simp only [places, List.mem_append, Set.mem_ofPred_eq, Set.mem_union]
  constructor
  · rintro ⟨m, listed | listed, same⟩
    · exact .inl ⟨m, listed, same⟩
    · exact .inr ⟨m, listed, same⟩
  · rintro (⟨m, listed, same⟩ | ⟨m, listed, same⟩)
    · exact ⟨m, .inl listed, same⟩
    · exact ⟨m, .inr listed, same⟩

theorem contentKeysOf_append (left right : List Message) :
    contentKeysOf (left ++ right) = contentKeysOf left ∪ contentKeysOf right := by
  rw [contentKeysOf, List.map_append, List.toFinset_append]
  rfl

theorem mem_contentKeysOf {messages : List Message} :
    key ∈ contentKeysOf messages ↔ ∃ m ∈ messages, getMessageContentKey m = key := by
  rw [contentKeysOf, List.mem_toFinset, List.mem_map]

section Rows
variable (pending : Pending)

theorem applyPendingAck_same (m : Message) : Same (applyPendingAck pending m).1 m := by
  refine ⟨?_, applyPendingAck_contentKey pending m⟩
  unfold applyPendingAck
  split <;> rfl

theorem applyPendingAcks_rows (data : List Message) :
    List.Forall₂ Same (applyPendingAcks pending data).1 data := by
  induction data generalizing pending with
  | nil => exact .nil
  | cons m rest ih => exact .cons (applyPendingAck_same pending m) (ih _)

end Rows

/-- Rows of a page, whatever acknowledgements they took. -/
structure RowsOf (data rows : List Message) : Prop where
  back : ∀ row ∈ rows, ∃ m ∈ data, Same row m
  forth : ∀ m ∈ data, ∃ row ∈ rows, Same row m
  ids : rows.map Message.id = data.map Message.id

theorem rowsOf_applyPendingAcks (pending : Pending) (data : List Message) :
    RowsOf data (applyPendingAcks pending data).1 := by
  generalize (applyPendingAcks pending data).1 = rows, applyPendingAcks_rows pending data = related
  induction related with
  | nil => exact ⟨by simp, by simp, rfl⟩
  | cons same related ih =>
      refine ⟨?_, ?_, ?_⟩
      · intro row listed
        obtain rfl | listed := List.mem_cons.mp listed
        · exact ⟨_, List.mem_cons_self, same⟩
        · obtain ⟨m, there, same⟩ := ih.back row listed
          exact ⟨m, List.mem_cons_of_mem _ there, same⟩
      · intro m listed
        obtain rfl | listed := List.mem_cons.mp listed
        · exact ⟨_, List.mem_cons_self, same⟩
        · obtain ⟨row, there, same⟩ := ih.forth m listed
          exact ⟨row, List.mem_cons_of_mem _ there, same⟩
      · rw [List.map_cons, List.map_cons, ih.ids, id_eq_of_position same.1]

/-- A view of some of the server's messages. -/
structure Displays (server : List Message) (view : MessageView.State) : Prop where
  once : (view.messages.map Message.id).Nodup
  loaded : ∀ shown ∈ view.messages, ∃ m ∈ server, Same shown m
  seen : view.seenMessageContent = contentKeysOf view.messages

/-- A page as the server gives it. -/
structure Page (server data : List Message) : Prop where
  listed : ∀ m ∈ data, m ∈ server
  once : (data.map Message.id).Nodup

/-- The view after the page: what it showed and what the page has. -/
structure Joined (server : List Message) (view after : MessageView.State) (data : List Message) :
    Prop where
  displays : Displays server after
  places : places after.messages = places view.messages ∪ places data

theorem additions_spec (rows : List Message) (seenIds : List Int) (seenContent : Finset String) :
    (∀ row ∈ additions seenIds seenContent rows,
      row ∈ rows ∧ row.id ∉ seenIds ∧ getMessageContentKey row ∉ seenContent) ∧
    ((additions seenIds seenContent rows).map Message.id).Nodup ∧
    ∀ row ∈ rows, row.id ∈ seenIds ∨ getMessageContentKey row ∈ seenContent ∨
      ∃ other ∈ additions seenIds seenContent rows, other ∈ rows ∧
        (other.id = row.id ∨ getMessageContentKey other = getMessageContentKey row) := by
  induction rows generalizing seenIds seenContent with
  | nil => simp [additions]
  | cons msg rest ih =>
      simp only [additions]
      split
      · rename_i known
        obtain ⟨fresh, apart, covers⟩ := ih seenIds seenContent
        refine ⟨?_, apart, ?_⟩
        · intro row listed
          obtain ⟨there, new⟩ := fresh row listed
          exact ⟨List.mem_cons_of_mem _ there, new⟩
        · intro row listed
          obtain rfl | listed := List.mem_cons.mp listed
          · exact known.imp_right .inl
          · obtain seen | seen | ⟨other, added, there, alike⟩ := covers row listed
            · exact .inl seen
            · exact .inr (.inl seen)
            · exact .inr (.inr ⟨other, added, List.mem_cons_of_mem _ there, alike⟩)
      · rename_i new
        obtain ⟨fresh, apart, covers⟩ := ih (msg.id :: seenIds) (insert (getMessageContentKey msg) seenContent)
        refine ⟨?_, ?_, ?_⟩
        · intro row listed
          obtain rfl | listed := List.mem_cons.mp listed
          · exact ⟨List.mem_cons_self, fun seen => new (.inl seen), fun seen => new (.inr seen)⟩
          · obtain ⟨there, otherId, otherContent⟩ := fresh row listed
            exact ⟨List.mem_cons_of_mem _ there, fun seen => otherId (List.mem_cons_of_mem _ seen),
              fun seen => otherContent (Finset.mem_insert_of_mem seen)⟩
        · rw [List.map_cons, List.nodup_cons]
          refine ⟨?_, apart⟩
          intro again
          obtain ⟨row, listed, same⟩ := List.mem_map.mp again
          exact (fresh row listed).2.1 (same ▸ List.mem_cons_self)
        · intro row listed
          obtain rfl | listed := List.mem_cons.mp listed
          · exact .inr (.inr ⟨row, List.mem_cons_self, List.mem_cons_self, .inl rfl⟩)
          obtain seen | seen | ⟨other, added, there, alike⟩ := covers row listed
          · obtain same | seen := List.mem_cons.mp seen
            · exact .inr (.inr ⟨msg, List.mem_cons_self, List.mem_cons_self, .inl same.symm⟩)
            · exact .inl seen
          · obtain same | seen := Finset.mem_insert.mp seen
            · exact .inr (.inr ⟨msg, List.mem_cons_self, List.mem_cons_self, .inr same.symm⟩)
            · exact .inr (.inl seen)
          · exact .inr (.inr ⟨other, List.mem_cons_of_mem _ added, List.mem_cons_of_mem _ there, alike⟩)

/-- Content that the view has seen is that of the message itself. -/
theorem shown_of_seen {messages data : List Message} (unmistaken : Unmistaken messages data) (member : m ∈ data)
    (seen : getMessageContentKey m ∈ contentKeysOf messages) :
    m.id ∈ messages.map Message.id := by
  obtain ⟨shown, listed, same⟩ := mem_contentKeysOf.mp seen
  exact List.mem_map.mpr ⟨shown, listed, unmistaken m member shown listed same⟩

section Join
variable {server data : List Message} {view : MessageView.State}
  (distinct : (server.map Message.id).Nodup) (displays : Displays server view)
include distinct displays

/-- What is shown under the id of a server message is that message. -/
theorem Displays.same_of_id (member : m ∈ server) (listed : shown ∈ view.messages)
    (same : shown.id = m.id) : Same shown m := by
  obtain ⟨origin, there, alike⟩ := displays.loaded shown listed
  have := eq_of_id distinct there member ((id_eq_of_position alike.1).symm.trans same)
  exact this ▸ alike

theorem Displays.shown_iff (member : m ∈ server) :
    m.id ∈ view.messages.map Message.id ↔ m.position ∈ ConversationWindow.places view.messages := by
  constructor
  · intro listed
    obtain ⟨shown, there, same⟩ := List.mem_map.mp listed
    exact ⟨shown, there, (displays.same_of_id distinct member there same).1⟩
  · rintro ⟨shown, there, same⟩
    exact List.mem_map.mpr ⟨shown, there, id_eq_of_position same⟩

/-- Adding rows of the page that are not shown yet, when the page's other rows are shown. -/
theorem join_append (page : Page server data) (added : List Message)
    (fresh : ∀ row ∈ added, ∃ m ∈ data, Same row m ∧ getMessageContentKey row ∉ contentKeysOf view.messages)
    (apart : (added.map Message.id).Nodup)
    (rest : ∀ m ∈ data, (∃ row ∈ added, Same row m) ∨ m.id ∈ view.messages.map Message.id)
    (messages : after.messages = view.messages ++ added)
    (seen : after.seenMessageContent = contentKeysOf after.messages) :
    Joined server view after data := by
  refine ⟨⟨?_, ?_, seen⟩, ?_⟩
  · rw [messages, List.map_append, List.nodup_append]
    refine ⟨displays.once, apart, ?_⟩
    intro a left b right same
    obtain ⟨shown, listed, rfl⟩ := List.mem_map.mp left
    obtain ⟨row, there, rfl⟩ := List.mem_map.mp right
    obtain ⟨m, known, alike, unseen⟩ := fresh row there
    have old := displays.same_of_id distinct (page.listed m known) listed
      (same.trans (id_eq_of_position alike.1))
    exact unseen (mem_contentKeysOf.mpr ⟨shown, listed, old.2.trans alike.2.symm⟩)
  · rw [messages]
    intro row listed
    obtain old | new := List.mem_append.mp listed
    · exact displays.loaded row old
    · obtain ⟨m, known, alike, _⟩ := fresh row new
      exact ⟨m, page.listed m known, alike⟩
  · rw [messages, places_append]
    ext p
    constructor
    · rintro (old | ⟨row, new, rfl⟩)
      · exact .inl old
      · obtain ⟨m, known, alike, _⟩ := fresh row new
        exact .inr ⟨m, known, alike.1.symm⟩
    · rintro (old | ⟨m, known, rfl⟩)
      · exact .inl old
      · obtain ⟨row, new, alike⟩ | old := rest m known
        · exact .inr ⟨row, new, alike.1⟩
        · exact .inl ((displays.shown_iff distinct (page.listed m known)).mp old)

theorem appendNewer_joined (page : Page server data) (unmistaken : Unmistaken view.messages data) :
    Joined server view (appendNewer view data) data := by
  have rows := rowsOf_applyPendingAcks view.pending data
  refine join_append distinct displays page _ ?_ ?_ ?_ rfl ?_
  · intro row listed
    obtain ⟨listed, unseen⟩ := List.mem_filter.mp listed
    obtain ⟨m, known, alike⟩ := rows.back row listed
    rw [displays.seen] at unseen
    exact ⟨m, known, alike, of_decide_eq_true unseen⟩
  · exact (List.filter_sublist.map _).nodup (rows.ids ▸ page.once)
  · intro m known
    obtain ⟨row, listed, alike⟩ := rows.forth m known
    by_cases seen : getMessageContentKey row ∈ contentKeysOf view.messages
    · exact .inr (shown_of_seen unmistaken known (alike.2 ▸ seen))
    · refine .inl ⟨row, List.mem_filter.mpr ⟨listed, ?_⟩, alike⟩
      rw [displays.seen]
      exact decide_eq_true seen
  · simp only [appendNewer, displays.seen, contentKeysOf_append]

theorem appendOlder_joined (page : Page server data)
    (unmistaken : Unmistaken (view.messages ++ data) data) :
    Joined server view (appendOlder view data) data := by
  have rows := rowsOf_applyPendingAcks view.pending data
  obtain ⟨fresh, apart, covers⟩ := additions_spec (applyPendingAcks view.pending data).1
    (view.messages.map Message.id) (contentKeysOf view.messages)
  have shown : Unmistaken view.messages data := fun m known shown listed =>
    unmistaken m known shown (List.mem_append_left _ listed)
  refine join_append distinct displays page
    (additions (view.messages.map Message.id) (contentKeysOf view.messages)
      (applyPendingAcks view.pending data).1) ?_ apart ?_ ?_ ?_
  · intro row listed
    obtain ⟨there, _, unseen⟩ := fresh row listed
    obtain ⟨m, known, alike⟩ := rows.back row there
    exact ⟨m, known, alike, unseen⟩
  · intro m known
    obtain ⟨row, listed, alike⟩ := rows.forth m known
    obtain old | seen | ⟨other, added, there, same⟩ := covers row listed
    · exact .inr (id_eq_of_position alike.1 ▸ old)
    · exact .inr (shown_of_seen shown known (alike.2 ▸ seen))
    · obtain ⟨origin, origins, like⟩ := rows.back other there
      have ids : origin.id = m.id := by
        obtain same | same := same
        · rw [← id_eq_of_position like.1, same, id_eq_of_position alike.1]
        · refine unmistaken m known origin (List.mem_append_right _ origins) ?_
          rw [← like.2, same, alike.2]
      exact .inl ⟨other, added, eq_of_id page.once origins known ids ▸ like⟩
  · simp only [appendOlder]
    split
    · rename_i none
      rw [none, List.append_nil]
    · rfl
  · simp only [appendOlder]
    split
    · exact displays.seen
    · rfl

theorem appendActive_joined (member : m ∈ server) (unmistaken : Unmistaken view.messages [m])
    (same : Same msg m) : Joined server view (appendActiveMessageIfNew view msg) [m] := by
  have page : Page server [m] := ⟨by simpa using member, List.nodup_singleton _⟩
  have alike : Same (applyPendingAck view.pending msg).1 m :=
    ⟨(applyPendingAck_same _ msg).1.trans same.1, (applyPendingAck_same _ msg).2.trans same.2⟩
  unfold appendActiveMessageIfNew
  simp only [displays.seen]
  split
  · rename_i seen
    refine join_append distinct displays page [] (by simp) List.nodup_nil ?_
      (List.append_nil _).symm rfl
    intro other listed
    rw [List.mem_singleton.mp listed]
    exact .inr (shown_of_seen unmistaken List.mem_cons_self (alike.2 ▸ seen))
  · rename_i unseen
    have new : ¬ view.messages.any (·.id = (applyPendingAck view.pending msg).1.id) := by
      intro shown
      obtain ⟨row, listed, ids⟩ := List.any_eq_true.mp shown
      have old := displays.same_of_id distinct member listed
        ((of_decide_eq_true ids).trans (id_eq_of_position alike.1))
      exact unseen (mem_contentKeysOf.mpr ⟨row, listed, old.2.trans alike.2.symm⟩)
    refine join_append distinct displays page [(applyPendingAck view.pending msg).1]
      ?_ (List.nodup_singleton _) ?_ (if_neg new) ?_
    · intro row listed
      rw [List.mem_singleton.mp listed]
      exact ⟨m, List.mem_cons_self, alike, unseen⟩
    · intro other listed
      rw [List.mem_singleton.mp listed]
      exact .inl ⟨_, List.mem_cons_self, alike⟩
    · simp only [if_neg new, contentKeysOf_append]
      have single : contentKeysOf [(applyPendingAck view.pending msg).1] =
          {getMessageContentKey (applyPendingAck view.pending msg).1} := rfl
      rw [single, Finset.union_comm, ← Finset.insert_eq, ite_self]

theorem handleFetched_joined (page : Page server data) :
    Joined server view (handleFetched view false data) data := by
  have rows := rowsOf_applyPendingAcks view.pending data
  unfold handleFetched
  simp only
  cases reconciled : reconcileConversationMessages view.messages
      (applyPendingAcks view.pending data).1 with
  | none =>
      -- nothing differs: each row of the page is shown already
      refine join_append distinct displays page [] (by simp) List.nodup_nil ?_
        (List.append_nil _).symm displays.seen
      intro m known
      obtain ⟨row, listed, alike⟩ := rows.forth m known
      have same : rowChanged view.messages row = false := by
        unfold reconcileConversationMessages at reconciled
        split at reconciled
        · contradiction
        · rename_i same
          simp only [List.any_eq_true, not_exists, not_and, Bool.not_eq_true] at same
          exact same row listed
      obtain ⟨shown, there, ids⟩ := rowChanged_false same
      exact .inr (List.mem_map.mpr ⟨shown, there, ids.trans (id_eq_of_position alike.1)⟩)
  | some merged =>
      unfold reconcileConversationMessages at reconciled
      split at reconciled
      · cases reconciled
        refine ⟨⟨?_, ?_, rfl⟩, ?_⟩
        · rw [List.map_append, List.nodup_append]
          refine ⟨rows.ids ▸ page.once, (List.filter_sublist.map _).nodup displays.once, ?_⟩
          intro a left b right same
          obtain ⟨shown, listed, rfl⟩ := List.mem_map.mp right
          have absent := of_decide_eq_true (List.mem_filter.mp listed).2
          exact absent (same ▸ left)
        · intro row listed
          obtain fetched | old := List.mem_append.mp listed
          · obtain ⟨m, known, alike⟩ := rows.back row fetched
            exact ⟨m, page.listed m known, alike⟩
          · exact displays.loaded row (List.mem_of_mem_filter old)
        · rw [places_append]
          ext p
          constructor
          · rintro (⟨row, fetched, rfl⟩ | ⟨row, old, rfl⟩)
            · obtain ⟨m, known, alike⟩ := rows.back row fetched
              exact .inr ⟨m, known, alike.1.symm⟩
            · exact .inl (mem_places (List.mem_of_mem_filter old))
          · rintro (⟨shown, listed, rfl⟩ | ⟨m, known, rfl⟩)
            · by_cases fetched : shown.id ∈ (applyPendingAcks view.pending data).1.map Message.id
              · rw [rows.ids] at fetched
                obtain ⟨m, known, ids⟩ := List.mem_map.mp fetched
                obtain ⟨row, there, alike⟩ := rows.forth m known
                have old := displays.same_of_id distinct (page.listed m known) listed ids.symm
                exact .inl ⟨row, there, alike.1.trans old.1.symm⟩
              · exact .inr (mem_places (List.mem_filter.mpr ⟨listed, decide_eq_true fetched⟩))
            · obtain ⟨row, there, alike⟩ := rows.forth m known
              exact .inl ⟨row, there, alike.1⟩
      · contradiction

end Join

end Meshloom.Frontend.ConversationWindow
