import Meshloom.Window
import Meshloom.Frontend.ConversationWindowPages

/-! What the open conversation shows. A loaded page joins the window without a gap up to what is
still to be announced and to what was ignored, whatever was stored while it was under way. -/
namespace Meshloom.Frontend.ConversationWindow
open MessageView Window StableSort Transition

theorem from_iff {messages : List Message} : From messages m ↔ m.position ∈ above (places messages) := by
  constructor
  · rintro ⟨shown, listed, le⟩
    exact ⟨_, mem_places listed, le⟩
  · rintro ⟨_, ⟨shown, listed, rfl⟩, le⟩
    exact ⟨shown, listed, le⟩

theorem upTo_iff {messages : List Message} : UpTo messages m ↔ m.position ∈ below (places messages) := by
  constructor
  · rintro ⟨shown, listed, le⟩
    exact ⟨_, mem_places listed, le⟩
  · rintro ⟨_, ⟨shown, listed, rfl⟩, le⟩
    exact ⟨shown, listed, le⟩

section Query
variable {server : List Message} (distinct : (server.map Message.id).Nodup)
include distinct

theorem eq_of_position (left : a ∈ server) (right : b ∈ server) (same : a.position = b.position) :
    a = b :=
  eq_of_id distinct left right (id_eq_of_position same)

theorem page_of_take {key : Message → κ} [LinearOrder κ] {rows : List Message}
    (sub : rows.Sublist server) : Page server ((sortFalling key rows).take limit) := by
  refine ⟨?_, ?_⟩
  · intro m listed
    exact sub.subset ((sortFalling_perm key rows).mem_iff.mp (List.mem_of_mem_take listed))
  · have sorted := ((sortFalling_perm key rows).map Message.id).nodup_iff.mpr ((sub.map _).nodup distinct)
    exact ((List.take_sublist _ _).map _).nodup sorted

/-- A page of a query holds all it asked for, or all up to its own last row. -/
theorem mem_page {key : Message → κ} [LinearOrder κ] {rows : List Message} (sub : rows.Sublist server)
    (injective : ∀ a b : Message, key a = key b → a.position = b.position) (member : m ∈ rows)
    (reached : ((sortFalling key rows).take limit).length < limit ∨
      ∃ b ∈ (sortFalling key rows).take limit, key b ≤ key m) :
    m ∈ (sortFalling key rows).take limit := by
  refine mem_take_of_reached key ?_ member reached
  intro a left b right same
  exact eq_of_position distinct (sub.subset left) (sub.subset right) (injective a b same)

theorem getMessagesAfter_page (cursor : Message) : Page server (getMessagesAfter server cursor) :=
  page_of_take distinct List.filter_sublist

omit distinct in
theorem getMessagesAfter_later (listed : m ∈ getMessagesAfter server cursor) :
    cursor.position < m.position := by
  have there := (sortFalling_perm _ _).mem_iff.mp (List.mem_of_mem_take listed)
  exact before_iff.mp (of_decide_eq_true (List.mem_filter.mp there).2)

theorem getMessagesAfter_covers (cursor : Message) (missing : Set (Int ×ₗ Int)) :
    PageAfter (places (getMessagesAfter server cursor)) (places server) missing cursor.position
      ((getMessagesAfter server cursor).length < messagePageSize) := by
  rintro _ ⟨m, member, rfl⟩ later reached
  refine .inl (mem_places (mem_page distinct List.filter_sublist (fun _ _ => OrderDual.toDual.injective.eq_iff.mp) ?_ ?_))
  · exact List.mem_filter.mpr ⟨member, decide_eq_true (before_iff.mpr later)⟩
  · refine reached.imp_right ?_
    rintro ⟨_, ⟨row, listed, rfl⟩, le⟩
    exact ⟨row, listed, le⟩

theorem getMessagesBefore_page (cursor : Message) : Page server (getMessagesBefore server cursor) :=
  page_of_take distinct List.filter_sublist

omit distinct in
theorem getMessagesBefore_earlier (listed : m ∈ getMessagesBefore server cursor) :
    m.position < cursor.position := by
  have there := (sortFalling_perm _ _).mem_iff.mp (List.mem_of_mem_take listed)
  exact before_iff.mp (of_decide_eq_true (List.mem_filter.mp there).2)

theorem getMessagesBefore_covers (cursor : Message) (missing : Set (Int ×ₗ Int)) :
    PageBefore (places (getMessagesBefore server cursor)) (places server) missing cursor.position := by
  rintro _ ⟨m, member, rfl⟩ earlier ⟨_, ⟨row, listed, rfl⟩, le⟩
  refine .inl (mem_places (mem_page distinct List.filter_sublist (fun _ _ same => same) ?_ ?_))
  · exact List.mem_filter.mpr ⟨member, decide_eq_true (before_iff.mpr earlier)⟩
  · exact .inr ⟨row, listed, le⟩

theorem getLatestMessages_page : Page server (getLatestMessages server) :=
  page_of_take distinct (List.Sublist.refl _)

theorem getLatestMessages_covers (missing : Set (Int ×ₗ Int)) :
    Whole (places (getLatestMessages server)) (places server) missing := by
  rintro _ ⟨m, member, rfl⟩ ⟨_, ⟨row, listed, rfl⟩, le⟩
  exact .inl (mem_places (mem_page distinct (List.Sublist.refl _) (fun _ _ same => same) member
    (.inr ⟨row, listed, le⟩)))

end Query

/-- A choice among the messages of a list is one of them. -/
theorem mem_of_foldl {pick : Option Message → Message → Option Message}
    (picks : ∀ best msg, pick best msg = some msg ∨ pick best msg = best) {messages : List Message}
    {best : Option Message} (found : messages.foldl pick best = some m) :
    best = some m ∨ m ∈ messages := by
  induction messages generalizing best with
  | nil => exact .inl found
  | cons msg rest ih =>
      obtain chosen | later := ih found
      · obtain taken | kept := picks best msg
        · rw [taken] at chosen
          exact .inr (Option.some.inj chosen ▸ List.mem_cons_self)
        · exact .inl (kept ▸ chosen)
      · exact .inr (List.mem_cons_of_mem _ later)

theorem newestMessage_mem {messages : List Message} (found : newestMessage messages = some m) :
    m ∈ messages := by
  obtain absent | member := mem_of_foldl (fun best msg => by cases best <;> grind) found
  · contradiction
  · exact member

theorem oldestMessage_mem {messages : List Message} (found : oldestMessage messages = some m) :
    m ∈ messages := by
  obtain absent | member := mem_of_foldl (fun best msg => by cases best <;> grind) found
  · contradiction
  · exact member

section Sets
variable (s : State)

def shown : Set (Int ×ₗ Int) := places s.view.messages

def stored : Set (Int ×ₗ Int) := places s.server

def awaited : Set (Int ×ₗ Int) := places s.unannounced

def dropped : Set (Int ×ₗ Int) := places s.ignored

/-- What the view need not show yet. -/
def missing : Set (Int ×ₗ Int) := awaited s ∪ dropped s

end Sets

structure NewerReady (s : State) (request : PageRequest) : Prop where
  behind : s.view.hasNewerMessages = true
  inside : request.cursor.position ∈ shown s
  page : ∀ data, request.answer = some data → Page s.server data ∧
    (∀ m ∈ data, request.cursor.position < m.position) ∧
    PageAfter (places data) (stored s) (missing s) request.cursor.position
      (data.length < messagePageSize)

structure OlderReady (s : State) (request : PageRequest) : Prop where
  inside : request.cursor.position ∈ shown s
  page : ∀ data, request.answer = some data → Page s.server data ∧
    (∀ m ∈ data, m.position < request.cursor.position) ∧
    PageBefore (places data) (stored s) (shown s ∪ missing s) request.cursor.position

structure ReconcileReady (s : State) (request : ReconcileRequest) : Prop where
  upToDate : s.view.hasNewerMessages = false
  page : ∀ data, request.answer = some data → Page s.server data ∧
    Whole (places data) (stored s) (shown s ∪ awaited s)

/-- The window has no gap for which nothing is to come. -/
def Gapless (s : State) : Prop :=
  if s.view.hasNewerMessages then Between (shown s) (stored s) (missing s)
  else Whole (shown s) (stored s) (awaited s)

structure Invariant (s : State) : Prop where
  distinct : (s.server.map Message.id).Nodup
  displays : Displays s.server s.view
  unannounced : ∀ m ∈ s.unannounced, m ∈ s.server
  ignored : ∀ m ∈ s.ignored, m ∈ s.server
  gapless : Gapless s
  newer : ∀ request, s.newer = some request → NewerReady s request
  older : ∀ request, s.older = some request → OlderReady s request
  reconciles : ∀ request ∈ s.reconciles, ReconcileReady s request

/-- What a step may do to the messages, for the requests under way. -/
structure Grows (s t : State) : Prop where
  server : ∀ m ∈ s.server, m ∈ t.server
  stored : ∀ p ∈ stored t, p ∈ stored s ∨ p ∈ awaited t
  shown : shown s ⊆ shown t
  awaited : ∀ p ∈ awaited s, p ∈ awaited t ∨
    (if s.view.hasNewerMessages then p ∈ dropped t else p ∈ ConversationWindow.shown t)
  dropped : dropped s ⊆ dropped t

namespace Grows

theorem page (grows : Grows s t) (page : Page s.server data) : Page t.server data :=
  ⟨fun m listed => grows.server m (page.listed m listed), page.once⟩

theorem new (grows : Grows s t) : ∀ p ∈ ConversationWindow.stored t,
    p ∈ ConversationWindow.stored s ∨ p ∈ missing t :=
  fun p member => (grows.stored p member).imp_right .inl

theorem missing (grows : Grows s t) (behind : s.view.hasNewerMessages = true) :
    ∀ p ∈ missing s, p ∈ ConversationWindow.missing t := by
  rintro p (waits | lost)
  · have moves := grows.awaited p waits
    rw [if_pos behind] at moves
    exact moves
  · exact .inr (grows.dropped lost)

theorem accounted (grows : Grows s t) : ∀ p ∈ ConversationWindow.shown s ∪ ConversationWindow.missing s,
    p ∈ ConversationWindow.shown t ∪ ConversationWindow.missing t := by
  rintro p (seen | waits | lost)
  · exact .inl (grows.shown seen)
  · obtain waits | moves := grows.awaited p waits
    · exact .inr (.inl waits)
    · split at moves
      · exact .inr (.inr moves)
      · exact .inl moves
  · exact .inr (.inr (grows.dropped lost))

theorem expected (grows : Grows s t) (upToDate : s.view.hasNewerMessages = false) :
    ∀ p ∈ ConversationWindow.shown s ∪ ConversationWindow.awaited s,
      p ∈ ConversationWindow.shown t ∪ ConversationWindow.awaited t := by
  rintro p (seen | waits)
  · exact .inl (grows.shown seen)
  · have moves := grows.awaited p waits
    rw [upToDate] at moves
    exact moves.symm

theorem newer (grows : Grows s t) (behind : t.view.hasNewerMessages = true)
    (ready : NewerReady s request) : NewerReady t request := by
  refine ⟨behind, grows.shown ready.inside, ?_⟩
  intro data answered
  obtain ⟨page, later, covers⟩ := ready.page data answered
  exact ⟨grows.page page, later, covers.grow grows.new (grows.missing ready.behind)⟩

theorem older (grows : Grows s t) (ready : OlderReady s request) : OlderReady t request := by
  refine ⟨grows.shown ready.inside, ?_⟩
  intro data answered
  obtain ⟨page, earlier, covers⟩ := ready.page data answered
  exact ⟨grows.page page, earlier, covers.grow (fun p member => (grows.new p member).imp_right .inr)
    grows.accounted⟩

theorem reconcile (grows : Grows s t) (upToDate : t.view.hasNewerMessages = false)
    (ready : ReconcileReady s request) : ReconcileReady t request := by
  refine ⟨upToDate, ?_⟩
  intro data answered
  obtain ⟨page, covers⟩ := ready.page data answered
  exact ⟨grows.page page, covers.grow (fun p member => (grows.stored p member).imp_right .inr)
    (grows.expected ready.upToDate)⟩

end Grows

/-- Steps that only ask, read or fail. -/
theorem Invariant.frame (inv : Invariant s) (view : t.view = s.view) (server : t.server = s.server)
    (unannounced : t.unannounced = s.unannounced) (ignored : t.ignored = s.ignored)
    (newer : ∀ request, t.newer = some request → s.newer = some request ∨ NewerReady s request)
    (older : ∀ request, t.older = some request → s.older = some request ∨ OlderReady s request)
    (reconciles : ∀ request ∈ t.reconciles, request ∈ s.reconciles ∨ ReconcileReady s request) :
    Invariant t := by
  have newer' (request) (asked : t.newer = some request) : NewerReady s request :=
    (newer request asked).elim (inv.newer request) fun ready => ready
  have older' (request) (asked : t.older = some request) : OlderReady s request :=
    (older request asked).elim (inv.older request) fun ready => ready
  have reconciles' (request) (asked : request ∈ t.reconciles) : ReconcileReady s request :=
    (reconciles request asked).elim (inv.reconciles request) fun ready => ready
  have grows : Grows s t := by
    refine ⟨?_, ?_, ?_, ?_, ?_⟩
    · exact fun m member => server ▸ member
    · intro p member
      rw [stored, server] at member
      exact .inl member
    · rw [shown, shown, view]
    · intro p waits
      rw [awaited, unannounced]
      exact .inl waits
    · rw [dropped, dropped, ignored]
  refine ⟨server ▸ inv.distinct, server ▸ view ▸ inv.displays, server ▸ unannounced ▸ inv.unannounced,
    server ▸ ignored ▸ inv.ignored, ?_, ?_, ?_, ?_⟩
  · have gapless := inv.gapless
    simp only [Gapless, shown, stored, missing, awaited, dropped, view, server, unannounced, ignored]
      at gapless ⊢
    exact gapless
  · intro request asked
    exact grows.newer (view ▸ (newer' request asked).behind) (newer' request asked)
  · exact fun request asked => grows.older (older' request asked)
  · intro request asked
    exact grows.reconcile (view ▸ (reconciles' request asked).upToDate) (reconciles' request asked)

/-- A step of the view alone: the requests under way are kept, those answered left out. -/
theorem Invariant.join (inv : Invariant s) (joined : Joined s.server s.view t.view data)
    (server : t.server = s.server) (unannounced : t.unannounced = s.unannounced)
    (ignored : t.ignored = s.ignored) (gapless : Gapless t)
    (newer : ∀ request, t.newer = some request →
      s.newer = some request ∧ t.view.hasNewerMessages = true)
    (older : ∀ request, t.older = some request → s.older = some request)
    (reconciles : ∀ request ∈ t.reconciles,
      request ∈ s.reconciles ∧ t.view.hasNewerMessages = false) : Invariant t := by
  have grows : Grows s t := by
    refine ⟨?_, ?_, ?_, ?_, ?_⟩
    · exact fun m member => server ▸ member
    · intro p member
      rw [stored, server] at member
      exact .inl member
    · intro p seen
      rw [shown, joined.places]
      exact .inl seen
    · intro p waits
      rw [awaited, unannounced]
      exact .inl waits
    · rw [dropped, dropped, ignored]
  refine ⟨server ▸ inv.distinct, server ▸ joined.displays, server ▸ unannounced ▸ inv.unannounced,
    server ▸ ignored ▸ inv.ignored, gapless, ?_, ?_, ?_⟩
  · intro request asked
    obtain ⟨asked, behind⟩ := newer request asked
    exact grows.newer behind (inv.newer request asked)
  · exact fun request asked => grows.older (inv.older request (older request asked))
  · intro request asked
    obtain ⟨asked, upToDate⟩ := reconciles request asked
    exact grows.reconcile upToDate (inv.reconciles request asked)

theorem noneLost_places (inv : Invariant s) (page : Page s.server data) (none : NoneLost s data) :
    ∀ p ∈ dropped s, p ∈ above (shown s ∪ places data) → p ∈ shown s ∪ places data := by
  rintro _ ⟨m, lost, rfl⟩ reached
  have member := inv.ignored m lost
  rw [shown, ← places_append] at reached
  have listed := none m lost (from_iff.mpr reached)
  rw [List.map_append, List.mem_append] at listed
  obtain old | new := listed
  · exact .inl ((inv.displays.shown_iff inv.distinct member).mp old)
  · obtain ⟨row, there, same⟩ := List.mem_map.mp new
    exact .inr ⟨row, there, by rw [eq_of_id inv.distinct (page.listed row there) member same]⟩

theorem stored_step (inv : Invariant s) (fresh : m.id ∉ s.server.map Message.id) :
    Invariant { s with server := s.server ++ [m], unannounced := s.unannounced ++ [m] } := by
  set t : State := { s with server := s.server ++ [m], unannounced := s.unannounced ++ [m] } with eq
  have grows : Grows s t := by
    refine ⟨?_, ?_, fun _ seen => seen, ?_, fun _ lost => lost⟩
    · exact fun other member => List.mem_append_left _ member
    · intro p member
      rw [stored, eq, places_append] at member
      refine member.imp_right ?_
      intro new
      rw [awaited, eq, places_append]
      exact .inr new
    · intro p waits
      rw [awaited, eq, places_append]
      exact .inl (.inl waits)
  refine ⟨?_, ?_, ?_, ?_, ?_, ?_, ?_, ?_⟩
  · rw [eq, List.map_append, List.nodup_append]
    refine ⟨inv.distinct, List.nodup_singleton _, ?_⟩
    intro id old other new
    rw [List.mem_singleton.mp new]
    rintro rfl
    exact fresh old
  · refine ⟨inv.displays.once, ?_, inv.displays.seen⟩
    intro row listed
    obtain ⟨origin, member, same⟩ := inv.displays.loaded row listed
    exact ⟨origin, List.mem_append_left _ member, same⟩
  · intro other waits
    obtain old | new := List.mem_append.mp waits
    · exact List.mem_append_left _ (inv.unannounced other old)
    · exact List.mem_append_right _ new
  · exact fun other lost => List.mem_append_left _ (inv.ignored other lost)
  · have gapless := inv.gapless
    unfold Gapless at gapless ⊢
    split
    · rename_i behind
      rw [if_pos behind] at gapless
      exact gapless.grow grows.new (grows.missing behind)
    · rename_i upToDate
      rw [if_neg upToDate] at gapless
      refine gapless.grow grows.stored ?_
      intro p waits
      rw [awaited, eq, places_append]
      exact .inl waits
  · exact fun request asked => grows.newer (inv.newer request asked).behind (inv.newer request asked)
  · exact fun request asked => grows.older (inv.older request asked)
  · intro request asked
    have ready := inv.reconciles request asked
    exact grows.reconcile ready.upToDate ready

theorem mem_places_erase {messages : List Message} (m : Message) (member : p ∈ places messages) :
    p ∈ places (messages.erase m) ∨ p = m.position := by
  obtain ⟨other, listed, rfl⟩ := member
  by_cases same : other = m
  · exact .inr (same ▸ rfl)
  · exact .inl (mem_places ((List.mem_erase_of_ne same).mpr listed))

theorem announced_step (inv : Invariant s) (waits : m ∈ s.unannounced)
    (lossless : Lossless s (.announced m)) : Invariant (observe s m) := by
  have member := inv.unannounced m waits
  have erased (other : Message) (listed : other ∈ s.unannounced.erase m) : other ∈ s.server :=
    inv.unannounced other (List.mem_of_mem_erase listed)
  cases mode : s.view.hasNewerMessages with
  | true =>
      have view : (observe s m).view =
          { s.view with pending := (applyPendingAck s.view.pending m).2 } := by
        simp only [observe, MessageView.observeMessage, mode, if_true]
      have ignored : (observe s m).ignored = m :: s.ignored := by
        simp only [observe, mode, if_true]
      have same : shown (observe s m) = shown s := by rw [shown, shown, view]
      have lost : dropped (observe s m) = {p | p = m.position ∨ p ∈ dropped s} := by
        ext p
        rw [dropped, ignored]
        constructor
        · rintro ⟨other, listed, rfl⟩
          obtain rfl | listed := List.mem_cons.mp listed
          · exact .inl rfl
          · exact .inr (mem_places listed)
        · rintro (rfl | ⟨other, listed, rfl⟩)
          · exact mem_places List.mem_cons_self
          · exact mem_places (List.mem_cons_of_mem _ listed)
      have grows : Grows s (observe s m) := by
        refine ⟨fun _ listed => listed, fun _ listed => .inl listed, same.ge, ?_, ?_⟩
        · intro p listed
          rw [mode, if_pos rfl, lost]
          exact (mem_places_erase m listed).imp_right .inl
        · rw [lost]
          exact fun p listed => .inr listed
      have mode' : (observe s m).view.hasNewerMessages = true := by rw [view, mode]
      refine ⟨inv.distinct, ?_, erased, ?_, ?_, ?_, ?_, ?_⟩
      · rw [view]
        exact ⟨inv.displays.once, inv.displays.loaded, inv.displays.seen⟩
      · intro other listed
        rw [ignored] at listed
        obtain rfl | listed := List.mem_cons.mp listed
        · exact member
        · exact inv.ignored other listed
      · have gapless := inv.gapless
        rw [Gapless, if_pos mode] at gapless
        rw [Gapless, if_pos mode', same]
        exact gapless.grow grows.new (grows.missing mode)
      · exact fun request asked => grows.newer mode' (inv.newer request asked)
      · exact fun request asked => grows.older (inv.older request asked)
      · intro request asked
        have upToDate := (inv.reconciles request asked).upToDate
        rw [mode] at upToDate
        contradiction
  | false =>
      obtain ⟨unmistaken, adjoins⟩ := lossless mode
      have view : (observe s m).view = appendActiveMessageIfNew
          { s.view with pending := (applyPendingAck s.view.pending m).2 }
          (applyPendingAck s.view.pending m).1 := by
        simp only [observe, MessageView.observeMessage, mode, Bool.false_eq_true, if_false]
      have displays : Displays s.server
          { s.view with pending := (applyPendingAck s.view.pending m).2 } :=
        ⟨inv.displays.once, inv.displays.loaded, inv.displays.seen⟩
      have joined := appendActive_joined inv.distinct displays member unmistaken
        (applyPendingAck_same s.view.pending m)
      rw [← view] at joined
      have ignored : (observe s m).ignored = s.ignored := by
        simp only [observe, mode, Bool.false_eq_true, if_false]
      have grown : shown (observe s m) = shown s ∪ places [m] := joined.places
      have self : m.position ∈ shown (observe s m) := by
        rw [grown]
        exact .inr (mem_places List.mem_cons_self)
      have moves (p) (listed : p ∈ awaited s) : p ∈ awaited (observe s m) ∨ p ∈ shown (observe s m) := by
        obtain waits | rfl := mem_places_erase m listed
        · exact .inl waits
        · exact .inr self
      have grows : Grows s (observe s m) := by
        refine ⟨fun _ listed => listed, fun _ listed => .inl listed, ?_, ?_, ?_⟩
        · rw [grown]
          exact Set.subset_union_left
        · intro p listed
          rw [mode]
          exact moves p listed
        · rw [dropped, dropped, ignored]
      have mode' : (observe s m).view.hasNewerMessages = false := by
        rw [view]
        simp only [appendActiveMessageIfNew]
        split <;> exact mode
      refine ⟨inv.distinct, joined.displays, erased, ignored ▸ inv.ignored, ?_, ?_, ?_, ?_⟩
      · have gapless := inv.gapless
        rw [Gapless, mode] at gapless
        rw [Gapless, mode']
        rintro _ ⟨other, there, rfl⟩ reached
        by_cases old : From s.view.messages other
        · obtain seen | waits := gapless _ (mem_places there) (from_iff.mp old)
          · exact .inl (grows.shown seen)
          · exact (moves _ waits).symm
        rw [grown, above_union] at reached
        obtain reached | ⟨_, ⟨new, listed, rfl⟩, le⟩ := reached
        · exact (old (from_iff.mpr reached)).elim
        rw [List.mem_singleton.mp listed] at le
        obtain same | later := le.eq_or_lt
        · exact .inl (same ▸ self)
        · exact (moves _ (mem_places (adjoins other there later old))).symm
      · intro request asked
        have behind := (inv.newer request asked).behind
        rw [mode] at behind
        contradiction
      · exact fun request asked => grows.older (inv.older request asked)
      · exact fun request asked => grows.reconcile mode' (inv.reconciles request asked)

/-- A page that answers a request, for the view after it. -/
theorem gapless_pageAfter (inv : Invariant s) (ready : NewerReady s request) (answered : request.answer = some data)
    (none : data.length < messagePageSize → NoneLost s data) :
    if data.length ≥ messagePageSize then
      Between (shown s ∪ places data) (stored s) (missing s)
    else Whole (shown s ∪ places data) (stored s) (awaited s) := by
  obtain ⟨page, later, covers⟩ := ready.page data answered
  have between := inv.gapless
  rw [Gapless, if_pos ready.behind] at between
  have after : ∀ q ∈ places data, request.cursor.position < q := by
    rintro _ ⟨m, listed, rfl⟩
    exact later m listed
  split
  · exact between.pageAfter ready.inside after covers
  · rename_i short
    have short := Nat.not_le.mp short
    have whole := between.lastPage ready.inside after fun p member beyond _ =>
      covers p member beyond (.inl short)
    exact whole.settle (noneLost_places inv page (none short))

theorem reconcileFromBackend_invariant (inv : Invariant s)
    (upToDate : s.view.hasNewerMessages = false) : Invariant (reconcileFromBackend s) := by
  refine inv.frame rfl rfl rfl rfl (fun _ asked => .inl asked) (fun _ asked => .inl asked) ?_
  intro request asked
  obtain old | new := List.mem_append.mp asked
  · exact .inl old
  · rw [List.mem_singleton.mp new]
    exact .inr ⟨upToDate, fun data answered => (Option.some_ne_none data answered.symm).elim⟩

theorem newerAnswered_step (inv : Invariant s) (asked : s.newer = some ⟨cursor, some data⟩)
    (lossless : Lossless s .newerAnswered) : Invariant (newerAnswered s data) := by
  obtain ⟨unmistaken, none⟩ := lossless cursor data asked
  have ready := inv.newer _ asked
  obtain ⟨page, _⟩ := ready.page data rfl
  have joined := appendNewer_joined inv.distinct inv.displays page unmistaken
  have arrived : Invariant { s with newer := Option.none, view := appendNewer s.view data } := by
    refine inv.join joined rfl rfl rfl ?_ (fun _ asked => (Option.some_ne_none _ asked.symm).elim)
      (fun _ asked => asked) ?_
    · have gapless := gapless_pageAfter inv ready rfl none
      change if decide (data.length ≥ messagePageSize) = true then
          Between (places (appendNewer s.view data).messages) (stored s) (missing s)
        else Whole (places (appendNewer s.view data).messages) (stored s) (awaited s)
      rw [joined.places]
      simp only [decide_eq_true_eq]
      exact gapless
    · intro request listed
      have upToDate := (inv.reconciles request listed).upToDate
      rw [ready.behind] at upToDate
      contradiction
  simp only [newerAnswered]
  split
  · rename_i resumes
    refine reconcileFromBackend_invariant arrived ?_
    simpa using (Bool.and_eq_true_iff.mp resumes).1
  · exact arrived

theorem olderAnswered_step (inv : Invariant s) (asked : s.older = some ⟨cursor, some data⟩)
    (lossless : Lossless s .olderAnswered) : Invariant (olderAnswered s data) := by
  obtain ⟨unmistaken, none⟩ := lossless cursor data asked
  have ready := inv.older _ asked
  obtain ⟨page, earlier, covers⟩ := ready.page data rfl
  have joined := appendOlder_joined inv.distinct inv.displays page unmistaken
  have mode : (appendOlder s.view data).hasNewerMessages = s.view.hasNewerMessages := by
    simp only [appendOlder]
    split <;> rfl
  refine inv.join joined rfl rfl rfl ?_ ?_ (fun _ asked => (Option.some_ne_none _ asked.symm).elim) ?_
  · have gapless := inv.gapless
    simp only [Gapless, olderAnswered, shown, joined.places, mode]
    unfold Gapless at gapless
    split
    · rename_i behind
      rw [if_pos behind] at gapless
      refine gapless.pageBefore ready.inside ?_ covers
      rintro _ ⟨m, listed, rfl⟩
      exact earlier m listed
    · rename_i upToDate
      rw [if_neg upToDate] at gapless
      have whole : Whole (shown s) (stored s) (missing s) :=
        gapless.grow (fun _ member => .inl member) fun _ waits => .inl waits
      exact (whole.pageBefore ready.inside covers).settle
        (noneLost_places inv page (none (Bool.not_eq_true _ ▸ upToDate)))
  · intro request asked
    exact ⟨asked, mode.trans (inv.newer request asked).behind⟩
  · intro request asked
    exact ⟨asked, mode.trans (inv.reconciles request asked).upToDate⟩

theorem handleFetched_hasNewerMessages (view : MessageView.State) (data : List Message) :
    (handleFetched view false data).hasNewerMessages = view.hasNewerMessages := by
  simp only [handleFetched]
  split <;> rfl

theorem reconcileAnswered_step (inv : Invariant s) (listed : ⟨requestId, some data⟩ ∈ s.reconciles) :
    Invariant { reconcileAnswered s requestId data with
      reconciles := s.reconciles.erase ⟨requestId, some data⟩ } := by
  have ready := inv.reconciles _ listed
  obtain ⟨page, covers⟩ := ready.page data rfl
  unfold reconcileAnswered
  split
  · have joined := handleFetched_joined inv.distinct inv.displays page
    have mode := handleFetched_hasNewerMessages s.view data
    refine inv.join joined rfl rfl rfl ?_ ?_ (fun _ asked => asked) ?_
    · have gapless := inv.gapless
      rw [Gapless, ready.upToDate] at gapless
      simp only [Gapless, shown, joined.places, mode, ready.upToDate]
      exact gapless.union covers
    · exact fun request asked => ⟨asked, mode.trans (inv.newer request asked).behind⟩
    · intro request asked
      have asked := List.mem_of_mem_erase asked
      exact ⟨asked, mode.trans (inv.reconciles request asked).upToDate⟩
  · exact inv.frame rfl rfl rfl rfl (fun _ asked => .inl asked) (fun _ asked => .inl asked)
      fun _ asked => .inl (List.mem_of_mem_erase asked)

theorem fetchNewerMessages_step (inv : Invariant s) : Invariant (fetchNewerMessages s) := by
  unfold fetchNewerMessages
  split
  · exact inv
  rename_i behind
  split
  · exact inv
  · rename_i newest found
    refine inv.frame rfl rfl rfl rfl ?_ (fun _ asked => .inl asked) (fun _ asked => .inl asked)
    intro request asked
    cases asked
    refine .inr ⟨?_, mem_places (newestMessage_mem found), ?_⟩
    · simp only [Bool.or_eq_true, Bool.not_eq_true', not_or, Bool.not_eq_false] at behind
      exact behind.2
    · exact fun data answered => (Option.some_ne_none data answered.symm).elim

theorem fetchOlderMessages_step (inv : Invariant s) : Invariant (fetchOlderMessages s) := by
  unfold fetchOlderMessages
  split
  · exact inv
  split
  · exact inv
  · rename_i oldest found
    refine inv.frame rfl rfl rfl rfl (fun _ asked => .inl asked) ?_ (fun _ asked => .inl asked)
    intro request asked
    cases asked
    exact .inr ⟨mem_places (oldestMessage_mem found),
      fun data answered => (Option.some_ne_none data answered.symm).elim⟩

theorem reconcileOnReconnect_step (inv : Invariant s) : Invariant (reconcileOnReconnect s) := by
  unfold reconcileOnReconnect
  split
  · exact inv.frame rfl rfl rfl rfl (fun _ asked => .inl asked) (fun _ asked => .inl asked)
      fun _ asked => .inl asked
  · rename_i upToDate
    exact reconcileFromBackend_invariant inv (Bool.not_eq_true _ ▸ upToDate)

theorem newerRead_step (inv : Invariant s) (asked : s.newer = some ⟨cursor, none⟩) :
    Invariant { s with newer := some ⟨cursor, some (getMessagesAfter s.server cursor)⟩ } := by
  have ready := inv.newer _ asked
  refine inv.frame rfl rfl rfl rfl ?_ (fun _ asked => .inl asked) (fun _ asked => .inl asked)
  intro request read
  cases read
  refine .inr ⟨ready.behind, ready.inside, ?_⟩
  rintro _ ⟨⟩
  exact ⟨getMessagesAfter_page inv.distinct cursor, fun m listed => getMessagesAfter_later listed,
    getMessagesAfter_covers inv.distinct cursor _⟩

theorem olderRead_step (inv : Invariant s) (asked : s.older = some ⟨cursor, none⟩) :
    Invariant { s with older := some ⟨cursor, some (getMessagesBefore s.server cursor)⟩ } := by
  have ready := inv.older _ asked
  refine inv.frame rfl rfl rfl rfl (fun _ asked => .inl asked) ?_ (fun _ asked => .inl asked)
  intro request read
  cases read
  refine .inr ⟨ready.inside, ?_⟩
  rintro _ ⟨⟩
  exact ⟨getMessagesBefore_page inv.distinct cursor, fun m listed => getMessagesBefore_earlier listed,
    getMessagesBefore_covers inv.distinct cursor _⟩

theorem reconcileRead_step (inv : Invariant s) (asked : ⟨requestId, none⟩ ∈ s.reconciles) :
    Invariant { s with
      reconciles := ⟨requestId, some (getLatestMessages s.server)⟩ ::
        s.reconciles.erase ⟨requestId, none⟩ } := by
  have ready := inv.reconciles _ asked
  refine inv.frame rfl rfl rfl rfl (fun _ asked => .inl asked) (fun _ asked => .inl asked) ?_
  intro request listed
  obtain rfl | listed := List.mem_cons.mp listed
  · refine .inr ⟨ready.upToDate, ?_⟩
    rintro _ ⟨⟩
    exact ⟨getLatestMessages_page inv.distinct, getLatestMessages_covers inv.distinct _⟩
  · exact .inl (List.mem_of_mem_erase listed)

theorem step_spec (inv : Invariant s) (lossless : Lossless s event) (stepped : step s event = some t) :
    Invariant t := by
  cases event with
  | stored m =>
      obtain ⟨fresh, ⟨⟩⟩ := Option.ite_none_left_eq_some.mp stepped
      exact stored_step inv fresh
  | announced m =>
      obtain ⟨waits, ⟨⟩⟩ := Option.ite_none_right_eq_some.mp stepped
      exact announced_step inv waits lossless
  | fetchNewerMessages =>
      cases stepped
      exact fetchNewerMessages_step inv
  | newerRead =>
      simp only [step] at stepped
      split at stepped
      · rename_i cursor asked
        cases stepped
        exact newerRead_step inv asked
      · contradiction
  | newerAnswered =>
      simp only [step] at stepped
      split at stepped
      · rename_i cursor data asked
        cases stepped
        exact newerAnswered_step inv asked lossless
      · contradiction
  | newerFailed =>
      obtain ⟨_, ⟨⟩⟩ := Option.ite_none_right_eq_some.mp stepped
      exact inv.frame rfl rfl rfl rfl (fun _ asked => (Option.some_ne_none _ asked.symm).elim)
        (fun _ asked => .inl asked) (fun _ asked => .inl asked)
  | fetchOlderMessages =>
      cases stepped
      exact fetchOlderMessages_step inv
  | olderRead =>
      simp only [step] at stepped
      split at stepped
      · rename_i cursor asked
        cases stepped
        exact olderRead_step inv asked
      · contradiction
  | olderAnswered =>
      simp only [step] at stepped
      split at stepped
      · rename_i cursor data asked
        cases stepped
        exact olderAnswered_step inv asked lossless
      · contradiction
  | olderFailed =>
      obtain ⟨_, ⟨⟩⟩ := Option.ite_none_right_eq_some.mp stepped
      exact inv.frame rfl rfl rfl rfl (fun _ asked => .inl asked)
        (fun _ asked => (Option.some_ne_none _ asked.symm).elim) (fun _ asked => .inl asked)
  | reconcileOnReconnect =>
      cases stepped
      exact reconcileOnReconnect_step inv
  | reconcileRead requestId =>
      obtain ⟨asked, ⟨⟩⟩ := Option.ite_none_right_eq_some.mp stepped
      exact reconcileRead_step inv asked
  | reconcileAnswered requestId =>
      simp only [step] at stepped
      split at stepped
      · rename_i found data request
        cases stepped
        have same := List.find?_some request
        simp only [Option.isSome_some, Bool.and_true, decide_eq_true_eq] at same
        subst same
        exact reconcileAnswered_step inv (List.mem_of_find?_eq_some request)
      · contradiction
  | reconcileFailed requestId =>
      simp only [step] at stepped
      split at stepped
      · cases stepped
        exact inv.frame rfl rfl rfl rfl (fun _ asked => .inl asked) (fun _ asked => .inl asked)
          fun _ asked => .inl (List.mem_of_mem_erase asked)
      · contradiction

theorem opened_invariant (opened : Opened s) : Invariant s := by
  obtain ⟨older, newer, reconciles, ignored⟩ := opened.idle
  have displays : Displays s.server s.view := ⟨opened.once, opened.loaded, opened.seen⟩
  have reach (m) (member : m ∈ s.server) (lower : From s.view.messages m)
      (upper : s.view.hasNewerMessages → UpTo s.view.messages m) :
      m.position ∈ shown s ∨ m.position ∈ awaited s :=
    (opened.gapless m member lower upper).imp (displays.shown_iff opened.distinct member).mp mem_places
  refine ⟨opened.distinct, displays, opened.unannounced, ?_, ?_, ?_, ?_, ?_⟩
  · rw [ignored]
    exact fun _ listed => (List.not_mem_nil listed).elim
  · unfold Gapless
    split
    · rintro _ ⟨m, member, rfl⟩ lower upper
      exact (reach m member (from_iff.mpr lower) fun _ => upTo_iff.mpr upper).imp_right .inl
    · rename_i upToDate
      rintro _ ⟨m, member, rfl⟩ lower
      exact reach m member (from_iff.mpr lower) fun behind => (upToDate behind).elim
  · rw [newer]
    exact fun _ asked => (Option.some_ne_none _ asked.symm).elim
  · rw [older]
    exact fun _ asked => (Option.some_ne_none _ asked.symm).elim
  · rw [reconciles]
    exact fun _ listed => (List.not_mem_nil listed).elim

/-- At rest, with nothing missing at its end, the conversation shows every message of its window. -/
theorem window_complete (opened : Opened first) (run : Reaches step Lossless first s) (quiet : Quiet s)
    (upToDate : s.view.hasNewerMessages = false) : ShowsAll s := by
  have inv : Invariant s := run.invariant step_spec (opened_invariant opened)
  have gapless := inv.gapless
  rw [Gapless, upToDate] at gapless
  intro m member lower
  rw [List.count_eq_one_of_mem inv.displays.once]
  obtain seen | ⟨other, waits, _⟩ := gapless _ (mem_places member) (from_iff.mp lower)
  · exact (inv.displays.shown_iff inv.distinct member).mpr seen
  · rw [quiet.2.2.2] at waits
    contradiction

section Examples

instance decidableFrom (messages : List Message) (m : Message) : Decidable (From messages m) :=
  inferInstanceAs (Decidable (∃ shown ∈ messages, shown.position ≤ m.position))

instance decidableUnmistaken (messages data : List Message) : Decidable (Unmistaken messages data) :=
  inferInstanceAs (Decidable (∀ m ∈ data, ∀ shown ∈ messages, _ → _))

instance decidableNoneLost (s : State) (data : List Message) : Decidable (NoneLost s data) :=
  inferInstanceAs (Decidable (∀ m ∈ s.ignored, From _ m → _))

instance decidableAdjoins (s : State) (m : Message) : Decidable (Adjoins s m) :=
  inferInstanceAs (Decidable (∀ other ∈ s.server, m.position < other.position →
    ¬ From s.view.messages other → other ∈ s.unannounced))

instance decidableLossless (s : State) : (event : Event) → Decidable (Lossless s event)
  | .announced _ => inferInstanceAs (Decidable (_ → _ ∧ _))
  | .newerAnswered =>
    match asked : s.newer with
    | some ⟨_, some data⟩ => decidable_of_iff
        (Unmistaken s.view.messages data ∧ (data.length < messagePageSize → NoneLost s data))
        (by simp [Lossless, asked])
    | some ⟨_, none⟩ => .isTrue (by simp [Lossless, asked])
    | none => .isTrue (by simp [Lossless, asked])
  | .olderAnswered =>
    match asked : s.older with
    | some ⟨_, some data⟩ => decidable_of_iff
        (Unmistaken (s.view.messages ++ data) data ∧
          (s.view.hasNewerMessages = false → NoneLost s data))
        (by simp [Lossless, asked])
    | some ⟨_, none⟩ => .isTrue (by simp [Lossless, asked])
    | none => .isTrue (by simp [Lossless, asked])
  | .stored _ | .fetchNewerMessages | .newerRead | .newerFailed | .fetchOlderMessages | .olderRead
  | .olderFailed | .reconcileOnReconnect | .reconcileRead _ | .reconcileAnswered _
  | .reconcileFailed _ => .isTrue trivial

/-- The first messages of a channel. -/
def channelMessage (id : Int) (text : String) : Message :=
  ⟨id, .chan, "8b3387e9c5cdea6ac9e5edbaa115cd72", text, some (1700000000 + id), 1700000000 + id,
    none, none, 0, none, none, none⟩

/-- A search result was opened: the second message is stored, but not loaded. -/
def openedAtResult : State where
  view := ⟨[channelMessage 1 "Anna: hello"], .empty,
    {getMessageContentKey (channelMessage 1 "Anna: hello")}, true, []⟩
  hasOlderMessages := false
  older := none
  newer := none
  reconciles := []
  latestReconcileRequestId := 0
  pendingReconnectReconcile := false
  server := [channelMessage 1 "Anna: hello", channelMessage 2 "Ben: hi"]
  unannounced := []
  ignored := []

theorem openedAtResult_opened : Opened openedAtResult where
  idle := ⟨rfl, rfl, rfl, rfl⟩
  distinct := by decide
  unannounced := by simp [openedAtResult]
  once := List.nodup_singleton _
  loaded := by
    intro shown listed
    rw [List.mem_singleton.mp listed]
    exact ⟨_, List.mem_cons_self, rfl, rfl⟩
  seen := rfl
  gapless := by
    intro m member _ upper
    obtain rfl | rfl | absent := by simpa [openedAtResult] using member
    · exact .inl (by decide)
    · obtain ⟨shown, listed, le⟩ := upper rfl
      rw [List.mem_singleton.mp listed] at le
      exact absurd le (by decide)

theorem window_complete_openedAtResult :
    ∃ s, Opened openedAtResult ∧ Reaches step Lossless openedAtResult s ∧ Quiet s ∧
      s.view.hasNewerMessages = false ∧ ShowsAll s := by
  have ran : (executeWhere step Lossless openedAtResult
      [.fetchNewerMessages, .newerRead, .newerAnswered, .stored (channelMessage 3 "Anna: news"),
        .announced (channelMessage 3 "Anna: news")]).any (fun s =>
      decide (s.older = none ∧ s.newer = none ∧ s.reconciles = [] ∧ s.unannounced = []) &&
        ! s.view.hasNewerMessages) = true := by decide +kernel
  obtain ⟨s, executed, holds⟩ := (Option.any_eq_true _ _).mp ran
  simp only [Bool.and_eq_true, decide_eq_true_eq, Bool.not_eq_true'] at holds
  have run := executeWhere_reaches executed
  exact ⟨s, openedAtResult_opened, run, holds.1, holds.2,
    window_complete openedAtResult_opened run holds.1 holds.2⟩

/-- The third message is stored after the last newer page was read, and its event comes before that
page. It is in neither of the two. -/
theorem late_message_lost :
    ¬ ∀ first s, Opened first → Reaches step Any first s → Quiet s →
      s.view.hasNewerMessages = false → ShowsAll s := by
  intro claim
  have ran : (execute step openedAtResult
      [.fetchNewerMessages, .newerRead, .stored (channelMessage 3 "Anna: news"),
        .announced (channelMessage 3 "Anna: news"), .newerAnswered]).any (fun s =>
      decide (s.older = none ∧ s.newer = none ∧ s.reconciles = [] ∧ s.unannounced = []) &&
        ! s.view.hasNewerMessages && decide (channelMessage 3 "Anna: news" ∈ s.server ∧
          From s.view.messages (channelMessage 3 "Anna: news") ∧
          (s.view.messages.map Message.id).count 3 = 0)) = true := by decide +kernel
  obtain ⟨s, executed, holds⟩ := (Option.any_eq_true _ _).mp ran
  simp only [Bool.and_eq_true, decide_eq_true_eq, Bool.not_eq_true'] at holds
  obtain ⟨⟨quiet, upToDate⟩, member, lower, absent⟩ := holds
  have shows := claim _ s openedAtResult_opened (execute_reaches executed) quiet upToDate _ member lower
  have absent : (s.view.messages.map Message.id).count (channelMessage 3 "Anna: news").id = 0 := absent
  rw [absent] at shows
  contradiction

end Examples

end Meshloom.Frontend.ConversationWindow
