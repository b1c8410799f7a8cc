import Meshloom.WebSocket.Manager

/-! Every run leaves each client either connected, with its frames in the queue and a writer that
runs, or removed, with a writer that is done or cancelled. -/
namespace Meshloom.WebSocket
open Transition
variable {W D M : Type} [DecidableEq W] [DecidableEq M] {dump : String → D → Option M}

/-- The frames that may be left out: packets whose type's limit the backlog has reached. -/
def mayShed (eventType : Option String) (backlog : Nat) : Bool :=
  decide (eventType = some "raw_packet" ∧ CLIENT_RAW_PACKET_BACKLOG_MAX ≤ backlog ∨
    eventType = some "community_packet" ∧ CLIENT_COMMUNITY_PACKET_BACKLOG_MAX ≤ backlog)

/-- A connected client has its frames in the queue and a writer that runs. -/
structure Live (client : Client W M) : Prop where
  holds : Outbox.Holds mayShed client.history client.queue
  unlost : ¬ Outbox.Lost mayShed CLIENT_QUEUE_MAX client.history
  bounded : client.queue.length ≤ CLIENT_QUEUE_MAX
  runs : client.writer ≠ .done
  uncancelled : client.cancelled = false

/-- A removed client was handed a prefix of its frames and has a writer that ends. -/
structure Gone (client : Client W M) : Prop where
  ordered : Outbox.handed client.history <+: Outbox.kept mayShed client.history
  silent : Outbox.SilentAfterLoss mayShed CLIENT_QUEUE_MAX client.history
  bounded : client.queue.length ≤ CLIENT_QUEUE_MAX
  ends : client.writer = .done ∨ client.cancelled = true

/-- Connections and clients name each other, and each client is live or gone. -/
structure Sound (s : WebSocketManager W M) : Prop where
  known : ∀ (i : Nat) (client : Client W M), s.clients[i]? = some client →
    client.websocket ∈ s.accepted
  named : ∀ (websocket : W) (i : Nat), s.activeConnections.get? websocket = some i →
    ∃ client : Client W M, s.clients[i]? = some client ∧ client.websocket = websocket
  live : ∀ (i : Nat) (client : Client W M), s.clients[i]? = some client →
    s.Registered i client → Live client
  gone : ∀ (i : Nat) (client : Client W M), s.clients[i]? = some client →
    ¬ s.Registered i client → Gone client

section Client
variable {client : Client W M}

theorem sheds_none {eventType : Option String} {backlog : Nat}
    (keeps : WebSocketManager.sheds eventType backlog = none) :
    mayShed eventType backlog = false := by
  cases eventType with
  | none => rfl
  | some eventType =>
      simp only [WebSocketManager.sheds, droppableEvents, backlogLimit, ite_eq_right_iff,
        reduceCtorEq, imp_false, not_and, List.mem_cons, List.not_mem_nil, or_false] at keeps
      simp only [mayShed, Option.some.injEq, decide_eq_false_iff_not]
      rintro (⟨rfl, reached⟩ | ⟨rfl, reached⟩)
      · exact keeps (.inl rfl) reached
      · exact keeps (.inr rfl) reached

theorem sheds_some {eventType : Option String} {backlog : Nat} {counted : String}
    (shed : WebSocketManager.sheds eventType backlog = some counted) :
    mayShed eventType backlog = true := by
  cases eventType with
  | none => contradiction
  | some eventType =>
      obtain ⟨⟨droppable, reached⟩, -⟩ := Option.ite_none_right_eq_some.mp shed
      simp only [droppableEvents, List.mem_cons, List.not_mem_nil, or_false] at droppable
      obtain rfl | rfl := droppable
      · exact decide_eq_true (.inl ⟨rfl, reached⟩)
      · exact decide_eq_true (.inr ⟨rfl, reached⟩)

omit [DecidableEq W] [DecidableEq M] in
/-- Logging the drops changes only what is left to report. -/
theorem logDrops_eq (client : Client W M) (now : ℚ) (final : Bool) :
    ∃ unreported lastDropLog, client.logDrops now final =
      { client with unreported, lastDropLog } := by
  unfold Client.logDrops
  dsimp only
  split_ifs
  · exact ⟨_, _, rfl⟩
  · exact ⟨_, _, rfl⟩
  · exact ⟨_, _, rfl⟩

omit [DecidableEq W] [DecidableEq M] in
theorem Live.logDrops (live : Live client) (now : ℚ) (final : Bool) :
    Live (client.logDrops now final) := by
  obtain ⟨_, _, same⟩ := logDrops_eq client now final
  rw [same]
  exact ⟨live.holds, live.unlost, live.bounded, live.runs, live.uncancelled⟩

omit [DecidableEq W] [DecidableEq M] in
theorem Gone.logDrops (gone : Gone client) (now : ℚ) (final : Bool) :
    Gone (client.logDrops now final) := by
  obtain ⟨_, _, same⟩ := logDrops_eq client now final
  rw [same]
  exact ⟨gone.ordered, gone.silent, gone.bounded, gone.ends⟩

omit [DecidableEq W] [DecidableEq M] in
theorem logDrops_websocket (client : Client W M) (now : ℚ) (final : Bool) :
    (client.logDrops now final).websocket = client.websocket := by
  obtain ⟨_, _, same⟩ := logDrops_eq client now final
  rw [same]

omit [DecidableEq W] [DecidableEq M] in
theorem logDrops_history (client : Client W M) (now : ℚ) (final : Bool) :
    (client.logDrops now final).history = client.history := by
  obtain ⟨_, _, same⟩ := logDrops_eq client now final
  rw [same]

omit [DecidableEq W] in
theorem stopWriter_history (client : Client W M) (i : Nat) (current : Option Nat) :
    (client.stopWriter i current).history = client.history := by
  unfold Client.stopWriter
  split <;> rfl

omit [DecidableEq W] in
theorem stopWriter_websocket (client : Client W M) (i : Nat) (current : Option Nat) :
    (client.stopWriter i current).websocket = client.websocket := by
  unfold Client.stopWriter
  split <;> rfl

omit [DecidableEq W] in
/-- A client whose writer is stopped from another task is gone. -/
theorem gone_stopped (ordered : Outbox.handed client.history <+: Outbox.kept mayShed client.history)
    (silent : Outbox.SilentAfterLoss mayShed CLIENT_QUEUE_MAX client.history)
    (bounded : client.queue.length ≤ CLIENT_QUEUE_MAX) (i : Nat) :
    Gone (client.stopWriter i none) := by
  unfold Client.stopWriter
  split
  · exact ⟨ordered, silent, bounded, .inr rfl⟩
  · rename_i ended
    refine ⟨ordered, silent, bounded, .inl ?_⟩
    by_contra runs
    exact ended ⟨runs, Option.some_ne_none _ |>.symm⟩

end Client

theorem getElem?_snoc {α : Type} {entries : List α} {last entry : α} {i : Nat}
    (at_ : (entries ++ [last])[i]? = some entry) :
    entries[i]? = some entry ∨ i = entries.length ∧ entry = last := by
  rw [List.getElem?_append] at at_
  split at at_
  · exact .inl at_
  · rename_i beyond
    obtain ⟨index, same⟩ := List.getElem?_eq_some_iff.mp at_
    rw [List.length_singleton] at index
    simp only [List.getElem_singleton] at same
    exact .inr ⟨by omega, same.symm⟩

section Sound
variable {s : WebSocketManager W M} {client : Client W M}

omit [DecidableEq W] [DecidableEq M] in
/-- The clients after one of them changed. -/
theorem clients_modify (s : WebSocketManager W M) (i j : Nat) (f : Client W M → Client W M) :
    (s.modify i f).clients[j]? = if i = j then s.clients[j]?.map f else s.clients[j]? := by
  rw [WebSocketManager.modify, List.getElem?_modify]
  split <;> simp

omit [DecidableEq W] [DecidableEq M] in
theorem modify_cases (found : s.clients[i]? = some client) {f : Client W M → Client W M}
    (at_ : (s.modify i f).clients[j]? = some after) :
    j = i ∧ after = f client ∨ j ≠ i ∧ s.clients[j]? = some after := by
  rw [clients_modify] at at_
  split at at_
  · subst j
    rw [found, Option.map_some, Option.some.injEq] at at_
    exact .inl ⟨rfl, at_.symm⟩
  · rename_i other
    exact .inr ⟨Ne.symm other, at_⟩

omit [DecidableEq W] [DecidableEq M] in
theorem modify_self (found : s.clients[i]? = some client) (f : Client W M → Client W M) :
    (s.modify i f).clients[i]? = some (f client) := by
  rw [clients_modify, if_pos rfl, found, Option.map_some]

omit [DecidableEq W] [DecidableEq M] in
theorem modify_other (s : WebSocketManager W M) (f : Client W M → Client W M)
    (different : i ≠ j) : (s.modify i f).clients[j]? = s.clients[j]? := by
  rw [clients_modify, if_neg different]

omit [DecidableEq W] [DecidableEq M] in
theorem modify_modify (s : WebSocketManager W M) (i : Nat) (f g : Client W M → Client W M) :
    (s.modify i f).modify i g = s.modify i (g ∘ f) := by
  simp only [WebSocketManager.modify, List.modify_modify_eq]

omit [DecidableEq W] [DecidableEq M] in
theorem modify_counted (s : WebSocketManager W M) (i : Nat) (f g : Client W M → Client W M)
    (droppedFrames : Dict String Nat) :
    ({ s.modify i f with droppedFrames }).modify i g =
      { s with droppedFrames }.modify i (g ∘ f) := by
  simp only [WebSocketManager.modify, List.modify_modify_eq]

omit [DecidableEq W] [DecidableEq M] in
/-- Only what a change makes of the client at the position counts. -/
theorem modify_congr (found : s.clients[i]? = some client) {f g : Client W M → Client W M}
    (same : f client = g client) : s.modify i f = s.modify i g := by
  have clients : s.clients.modify i f = s.clients.modify i g := by
    refine List.ext_getElem? fun j => ?_
    rw [List.getElem?_modify, List.getElem?_modify]
    split
    · subst j
      simp only [found, Option.map_eq_map, Option.map_some, same]
    · rfl
  rw [WebSocketManager.modify, WebSocketManager.modify, clients]

omit [DecidableEq M] in
/-- A change of one client that leaves it live or gone. -/
theorem Sound.modify (sound : Sound s) (found : s.clients[i]? = some client)
    {f : Client W M → Client W M} (socket : (f client).websocket = client.websocket)
    (live : s.Registered i client → Live (f client))
    (gone : ¬ s.Registered i client → Gone (f client)) : Sound (s.modify i f) where
  known j after at_ := by
    obtain ⟨rfl, rfl⟩ | ⟨_, before⟩ := modify_cases found at_
    · rw [socket]
      exact sound.known j client found
    · exact sound.known j after before
  named websocket j connected := by
    obtain ⟨before, at_, same⟩ := sound.named websocket j connected
    by_cases self : j = i
    · subst j
      rw [found] at at_
      cases at_
      exact ⟨f client, modify_self found f, socket.trans same⟩
    · exact ⟨before, (modify_other s f (Ne.symm self)).trans at_, same⟩
  live j after at_ registered := by
    obtain ⟨rfl, rfl⟩ | ⟨_, before⟩ := modify_cases found at_
    · rw [WebSocketManager.Registered, socket] at registered
      exact live registered
    · exact sound.live j after before registered
  gone j after at_ removed := by
    obtain ⟨rfl, rfl⟩ | ⟨_, before⟩ := modify_cases found at_
    · rw [WebSocketManager.Registered, socket] at removed
      exact gone removed
    · exact sound.gone j after before removed

omit [DecidableEq M] in
/-- The removal of a connected client that leaves it gone. -/
theorem Sound.remove (sound : Sound s) (found : s.clients[i]? = some client)
    (registered : s.Registered i client) {f : Client W M → Client W M}
    (socket : (f client).websocket = client.websocket) (gone : Gone (f client)) :
    Sound (({ s with
      activeConnections := s.activeConnections.pop client.websocket }).modify i f) where
  known j after at_ := by
    obtain ⟨rfl, rfl⟩ | ⟨_, before⟩ := modify_cases found at_
    · rw [socket]
      exact sound.known j client found
    · exact sound.known j after before
  named websocket j connected := by
    have connected : (s.activeConnections.pop client.websocket).get? websocket = some j := connected
    rw [Dict.get?_pop] at connected
    split at connected
    · contradiction
    · rename_i other
      obtain ⟨before, at_, same⟩ := sound.named websocket j connected
      have self : i ≠ j := by
        rintro rfl
        rw [found] at at_
        cases at_
        exact other same.symm
      exact ⟨before, (modify_other _ f self).trans at_, same⟩
  live j after at_ connected := by
    have connected : (s.activeConnections.pop client.websocket).get? after.websocket = some j :=
      connected
    rw [Dict.get?_pop] at connected
    split at connected
    · contradiction
    · rename_i other
      obtain ⟨rfl, rfl⟩ | ⟨_, before⟩ := modify_cases (s := { s with
        activeConnections := s.activeConnections.pop client.websocket }) found at_
      · exact (other socket).elim
      · exact sound.live j after before connected
  gone j after at_ removed := by
    obtain ⟨rfl, rfl⟩ | ⟨different, before⟩ := modify_cases (s := { s with
      activeConnections := s.activeConnections.pop client.websocket }) found at_
    · exact gone
    · refine sound.gone j after before fun connected => removed ?_
      have other : after.websocket ≠ client.websocket := by
        intro same
        rw [WebSocketManager.Registered, same, registered] at connected
        exact different (Option.some.inj connected).symm
      exact (Dict.get?_pop _ _ _).trans ((if_neg other).trans connected)

omit [DecidableEq M] in
/-- Counters and closing sockets play no part. -/
theorem Sound.of_eq {t : WebSocketManager W M} (sound : Sound s) (clients : t.clients = s.clients)
    (connections : t.activeConnections = s.activeConnections) (accepted : t.accepted = s.accepted) :
    Sound t := by
  obtain ⟨_, _, _, _, _⟩ := t
  cases clients
  cases connections
  cases accepted
  exact ⟨sound.known, sound.named, sound.live, sound.gone⟩

omit [DecidableEq M] in
theorem sound_empty : Sound (WebSocketManager.empty : WebSocketManager W M) where
  known _ _ at_ := by cases at_
  named _ _ connected := by cases connected
  live _ _ at_ := by cases at_
  gone _ _ at_ := by cases at_

omit [DecidableEq W] [DecidableEq M] in
theorem live_fresh (websocket : W) :
    Live (⟨websocket, [], .getting, false, Dict.empty, none, []⟩ : Client W M) :=
  ⟨rfl, id, Nat.zero_le _, by simp, rfl⟩

omit [DecidableEq M] in
theorem connect_sound (sound : Sound s) (websocket : W) : Sound (s.connect websocket) := by
  rw [WebSocketManager.connect]
  split
  · exact sound
  rename_i fresh
  have old : ∀ {i : Nat} {client : Client W M}, s.clients[i]? = some client →
      client.websocket ≠ websocket ∧ i < s.clients.length := by
    intro i client at_
    refine ⟨fun same => fresh (same ▸ sound.known i client at_), ?_⟩
    exact (List.getElem?_eq_some_iff.mp at_).1
  refine ⟨fun i client at_ => ?_, fun other i connected => ?_, fun i client at_ connected => ?_,
    fun i client at_ removed => ?_⟩
  · obtain before | ⟨_, rfl⟩ := getElem?_snoc at_
    · exact List.mem_cons_of_mem _ (sound.known i client before)
    · exact List.mem_cons_self
  · rw [Dict.get?_set] at connected
    split at connected
    · subst other
      cases connected
      exact ⟨_, List.getElem?_concat_length .., rfl⟩
    · obtain ⟨client, at_, same⟩ := sound.named other i connected
      exact ⟨client, (List.getElem?_append_left (old at_).2).trans at_, same⟩
  · obtain before | ⟨_, rfl⟩ := getElem?_snoc at_
    · refine sound.live i client before ?_
      exact ((Dict.get?_set _ _ _ _).trans (if_neg (old before).1)).symm.trans connected
    · exact live_fresh websocket
  · obtain before | ⟨rfl, rfl⟩ := getElem?_snoc at_
    · refine sound.gone i client before fun connected => removed ?_
      exact ((Dict.get?_set _ _ _ _).trans (if_neg (old before).1)).trans connected
    · exact (removed ((Dict.get?_set _ _ _ _).trans (if_pos rfl))).elim

/-- A connected client is live, and no other client has its socket. -/
theorem disconnect_sound (sound : Sound s) (websocket : W) (now : ℚ) :
    Sound (s.disconnect websocket now) := by
  rw [WebSocketManager.disconnect]
  split
  · exact sound
  rename_i i connected
  obtain ⟨client, found, rfl⟩ := sound.named websocket i connected
  have live := sound.live i client found connected
  refine sound.remove found connected ?_ ?_
  · rw [logDrops_websocket, stopWriter_websocket]
  · exact (gone_stopped live.holds.ordered (.unlost live.unlost) live.bounded i).logDrops now true

/-- An eviction of a connected client, after a change that keeps its socket. -/
theorem evict_modify (found : s.clients[i]? = some client) (registered : s.Registered i client)
    {f : Client W M → Client W M} (socket : (f client).websocket = client.websocket)
    (current : Option Nat) (now : ℚ) :
    (s.modify i f).evict i current now = ({ s with
      activeConnections := s.activeConnections.pop client.websocket
      closing := client.websocket :: s.closing }).modify i fun client =>
        ((f client).stopWriter i current).logDrops now true := by
  have connected : (s.modify i f).activeConnections.get? (f client).websocket = some i := by
    rw [socket]
    exact registered
  rw [WebSocketManager.evict, modify_self found f]
  dsimp only
  rw [if_neg (not_not_intro connected), socket]
  simp only [WebSocketManager.modify, List.modify_modify_eq, Function.comp_def]

/-- An eviction does nothing to a client that is not connected. -/
theorem evict_removed (found : s.clients[i]? = some client) (removed : ¬ s.Registered i client)
    (current : Option Nat) (now : ℚ) : s.evict i current now = s := by
  rw [WebSocketManager.evict, found]
  exact if_pos removed

/-- What a frame does to the client it is queued for, unless it removes the client. -/
def offered (message : M) (eventType : Option String) (now : ℚ) (client : Client W M) :
    Client W M :=
  let client := { client with history := .asked eventType message :: client.history }
  match WebSocketManager.sheds eventType client.queue.length with
  | some counted =>
    { client with unreported := count client.unreported counted }.logDrops now false
  | none => { client with queue := client.queue ++ [message] }.logDrops now false

omit [DecidableEq W] [DecidableEq M] in
theorem offered_websocket (message : M) (eventType : Option String) (now : ℚ)
    (client : Client W M) :
    (offered message eventType now client).websocket = client.websocket := by
  unfold offered
  dsimp only
  split
  · exact logDrops_websocket _ _ _
  · exact logDrops_websocket _ _ _

omit [DecidableEq W] [DecidableEq M] in
theorem Live.offered (live : Live client) (message : M) (eventType : Option String) (now : ℚ)
    (room : WebSocketManager.sheds eventType client.queue.length = none →
      client.queue.length < CLIENT_QUEUE_MAX) :
    Live (offered message eventType now client) := by
  unfold WebSocket.offered
  dsimp only
  split
  · rename_i counted shed
    apply Live.logDrops
    refine ⟨live.holds.shed (sheds_some shed), ?_, live.bounded, live.runs, live.uncancelled⟩
    rintro (⟨keeps, -⟩ | lost)
    · rw [live.holds.backlog, sheds_some shed] at keeps
      contradiction
    · exact live.unlost lost
  · rename_i keeps
    apply Live.logDrops
    refine ⟨live.holds.keep (sheds_none keeps), ?_, ?_, live.runs, live.uncancelled⟩
    · rintro (⟨-, full⟩ | lost)
      · rw [live.holds.backlog] at full
        exact Nat.not_le.mpr (room keeps) full
      · exact live.unlost lost
    · rw [List.length_append, List.length_singleton]
      exact room keeps

/-- A frame changes the client it is queued for, or evicts it when there is no room. -/
theorem enqueue_cases (found : s.clients[i]? = some client) (message : M)
    (eventType : Option String) (now : ℚ) :
    (∃ droppedFrames, s.enqueue i message eventType now =
        { s with droppedFrames }.modify i (offered message eventType now) ∧
      (WebSocketManager.sheds eventType client.queue.length = none →
        client.queue.length < CLIENT_QUEUE_MAX)) ∨
      (WebSocketManager.sheds eventType client.queue.length = none ∧
        CLIENT_QUEUE_MAX ≤ client.queue.length ∧
        s.enqueue i message eventType now = (s.modify i fun client =>
          { client with history := .asked eventType message :: client.history }).evict i none
            now) := by
  rw [WebSocketManager.enqueue, found]
  dsimp only
  cases shed : WebSocketManager.sheds eventType client.queue.length with
  | some counted =>
      dsimp only
      refine .inl ⟨count s.droppedFrames counted, ?_, fun keeps => by cases keeps⟩
      rw [modify_counted]
      refine modify_congr (s := { s with droppedFrames := count s.droppedFrames counted }) found ?_
      simp only [offered, Function.comp_def, shed]
  | none =>
      dsimp only
      split
      · rename_i room
        refine .inl ⟨s.droppedFrames, ?_, fun _ => room⟩
        rw [modify_modify]
        refine modify_congr found ?_
        simp only [offered, Function.comp_def, shed]
      · rename_i full
        exact .inr ⟨rfl, Nat.not_lt.mp full, rfl⟩

theorem enqueue_sound (sound : Sound s) (found : s.clients[i]? = some client)
    (registered : s.Registered i client) (message : M) (eventType : Option String) (now : ℚ) :
    Sound (s.enqueue i message eventType now) := by
  have live := sound.live i client found registered
  obtain ⟨droppedFrames, same, room⟩ | ⟨keeps, full, same⟩ :=
    enqueue_cases found message eventType now
  · rw [same]
    exact (sound.modify found (offered_websocket message eventType now client)
      (fun _ => live.offered message eventType now room)
      fun removed => (removed registered).elim).of_eq rfl rfl rfl
  · rw [same, evict_modify found registered rfl]
    refine Sound.of_eq (sound.remove found registered (f := fun client =>
      ({ client with history := .asked eventType message :: client.history }.stopWriter i
        none).logDrops now true) ?_ (Gone.logDrops ?_ now true)) rfl rfl rfl
    · rw [logDrops_websocket, stopWriter_websocket]
    · apply gone_stopped
      · exact live.holds.ordered_asked eventType message
      · exact .next live.unlost _
      · exact live.bounded

omit [DecidableEq W] [DecidableEq M] in
theorem modify_connections (s : WebSocketManager W M) (i : Nat) (f : Client W M → Client W M) :
    (s.modify i f).activeConnections = s.activeConnections := rfl

/-- An eviction touches one client and at most its connection. -/
theorem evict_frame (s : WebSocketManager W M) (i : Nat) (current : Option Nat) (now : ℚ) :
    (∀ j ≠ i, (s.evict i current now).clients[j]? = s.clients[j]?) ∧
      ((s.evict i current now).activeConnections = s.activeConnections ∨
        ∃ client, s.clients[i]? = some client ∧ s.Registered i client ∧
          (s.evict i current now).activeConnections = s.activeConnections.pop client.websocket) := by
  rw [WebSocketManager.evict]
  cases found : s.clients[i]? with
  | none => exact ⟨fun _ _ => rfl, .inl rfl⟩
  | some client =>
      dsimp only
      split
      · exact ⟨fun _ _ => rfl, .inl rfl⟩
      · rename_i registered
        exact ⟨fun j different => modify_other _ _ (Ne.symm different),
          .inr ⟨client, rfl, not_not.mp registered, rfl⟩⟩

/-- Queueing a frame touches one client and at most its connection. -/
theorem enqueue_frame (s : WebSocketManager W M) (i : Nat) (message : M)
    (eventType : Option String) (now : ℚ) :
    (∀ j ≠ i, (s.enqueue i message eventType now).clients[j]? = s.clients[j]?) ∧
      ((s.enqueue i message eventType now).activeConnections = s.activeConnections ∨
        ∃ client, s.clients[i]? = some client ∧ s.Registered i client ∧
          (s.enqueue i message eventType now).activeConnections =
            s.activeConnections.pop client.websocket) := by
  cases found : s.clients[i]? with
  | none =>
      rw [WebSocketManager.enqueue, found]
      exact ⟨fun _ _ => rfl, .inl rfl⟩
  | some client =>
      obtain ⟨droppedFrames, same, -⟩ | ⟨-, -, same⟩ := enqueue_cases found message eventType now
      · rw [same]
        exact ⟨fun j different => modify_other _ _ (Ne.symm different), .inl rfl⟩
      · rw [same]
        by_cases registered : s.Registered i client
        · rw [evict_modify found registered rfl]
          exact ⟨fun j different => modify_other _ _ (Ne.symm different),
            .inr ⟨client, rfl, registered, rfl⟩⟩
        · have unchanged := evict_removed (s := s.modify i fun client : Client W M => { client with
            history := .asked eventType message :: client.history }) (modify_self found _) registered
            none now
          rw [unchanged]
          exact ⟨fun j different => modify_other _ _ (Ne.symm different), .inl rfl⟩

/-- The other clients that are connected stay so when a frame is queued. -/
theorem enqueue_registered (found : s.clients[j]? = some client)
    (registered : s.Registered j client) (different : j ≠ i) (message : M)
    (eventType : Option String) (now : ℚ) :
    (s.enqueue i message eventType now).clients[j]? = some client ∧
      (s.enqueue i message eventType now).Registered j client := by
  obtain ⟨others, same | ⟨removed, _, was, same⟩⟩ := enqueue_frame s i message eventType now
  · refine ⟨(others j different).trans found, ?_⟩
    rw [WebSocketManager.Registered, same]
    exact registered
  · refine ⟨(others j different).trans found, ?_⟩
    rw [WebSocketManager.Registered, same, Dict.get?_pop, if_neg]
    · exact registered
    · intro socket
      rw [WebSocketManager.Registered, ← socket, registered] at was
      exact different (Option.some.inj was)

/-- The clients of a loop are connected, and each comes once. -/
def Connected (s : WebSocketManager W M) (clients : List Nat) : Prop :=
  clients.Nodup ∧ ∀ i ∈ clients, ∃ client, s.clients[i]? = some client ∧ s.Registered i client

theorem Connected.next {rest : List Nat} (connected : Connected s (i :: rest)) (message : M)
    (eventType : Option String) (now : ℚ) :
    Connected (s.enqueue i message eventType now) rest := by
  obtain ⟨fresh, nodup⟩ := List.nodup_cons.mp connected.1
  refine ⟨nodup, fun j member => ?_⟩
  obtain ⟨client, found, registered⟩ := connected.2 j (List.mem_cons_of_mem _ member)
  have different : j ≠ i := fun same => fresh (same ▸ member)
  exact ⟨client, enqueue_registered found registered different message eventType now⟩

theorem enqueueAll_sound (sound : Sound s) {clients : List Nat} (connected : Connected s clients)
    (message : M) (eventType : Option String) (now : Nat → ℚ) :
    Sound (s.enqueueAll clients message eventType now) := by
  induction clients generalizing s with
  | nil => exact sound
  | cons i rest ih =>
      obtain ⟨client, found, registered⟩ := connected.2 i List.mem_cons_self
      exact ih (enqueue_sound sound found registered message eventType (now i))
        (connected.next message eventType (now i))

theorem enqueueAll_frame (s : WebSocketManager W M) (clients : List Nat) (message : M)
    (eventType : Option String) (now : Nat → ℚ) :
    (∀ j ∉ clients,
        (s.enqueueAll clients message eventType now).clients[j]? = s.clients[j]?) ∧
      ∀ websocket i, (s.enqueueAll clients message eventType now).activeConnections.get? websocket
        = some i → s.activeConnections.get? websocket = some i := by
  induction clients generalizing s with
  | nil => exact ⟨fun _ _ => rfl, fun _ _ => id⟩
  | cons i rest ih =>
      obtain ⟨others, connections⟩ := ih (s.enqueue i message eventType (now i))
      obtain ⟨first, same | ⟨_, _, _, same⟩⟩ := enqueue_frame s i message eventType (now i)
      · refine ⟨fun j fresh => ?_, fun websocket k connected => ?_⟩
        · rw [List.mem_cons, not_or] at fresh
          exact (others j fresh.2).trans (first j fresh.1)
        · rw [← same]
          exact connections websocket k connected
      · refine ⟨fun j fresh => ?_, fun websocket k connected => ?_⟩
        · rw [List.mem_cons, not_or] at fresh
          exact (others j fresh.2).trans (first j fresh.1)
        · have kept := connections websocket k connected
          rw [same, Dict.get?_pop] at kept
          exact (Option.ite_none_left_eq_some.mp kept).2

omit [DecidableEq M] in
/-- The clients of a broadcast are the connected ones. -/
theorem Sound.connected (sound : Sound s) :
    Connected s (s.activeConnections.entries.map Prod.snd) := by
  refine ⟨?_, fun i member => ?_⟩
  · refine List.Nodup.map_on ?_ s.activeConnections.nodup.of_map
    rintro ⟨websocket, i⟩ first ⟨other, j⟩ second (rfl : i = j)
    obtain ⟨client, found, rfl⟩ :=
      sound.named websocket i ((Dict.mem_iff_get? _).mp first)
    obtain ⟨same, at_, rfl⟩ := sound.named other i ((Dict.mem_iff_get? _).mp second)
    rw [found] at at_
    cases at_
    rfl
  · obtain ⟨⟨websocket, j⟩, entry, rfl⟩ := List.mem_map.mp member
    have connected := (Dict.mem_iff_get? _).mp entry
    obtain ⟨client, found, rfl⟩ := sound.named websocket j connected
    exact ⟨client, found, connected⟩

theorem broadcast_sound (sound : Sound s) (eventType : String) (data : D) (now : Nat → ℚ) :
    Sound (s.broadcastNowait dump eventType data now) := by
  rw [WebSocketManager.broadcastNowait]
  split
  · exact sound
  · split
    · exact sound
    · exact enqueueAll_sound sound sound.connected _ _ now

theorem sendRaw_sound (sound : Sound s) (websocket : W) (message : M) (now : ℚ) :
    Sound (s.sendRaw websocket message now) := by
  rw [WebSocketManager.sendRaw]
  split
  · exact sound
  · rename_i i connected
    obtain ⟨client, found, rfl⟩ := sound.named websocket i connected
    exact enqueue_sound sound found connected message none now

/-- A failed send ends the writer, and removes the client when it is connected. -/
theorem sendFailed_cases (found : s.clients[i]? = some client) (now : ℚ) :
    (s.Registered i client ∧ s.sendFailed i now = ({ s with
        activeConnections := s.activeConnections.pop client.websocket
        closing := client.websocket :: s.closing }).modify i fun client =>
          { (({ client with history := .failed :: client.history }).stopWriter i
            (some i)).logDrops now true with writer := .done }) ∨
      (¬ s.Registered i client ∧ s.sendFailed i now = s.modify i fun client =>
        { client with
          history := .failed :: client.history
          writer := .done }) := by
  rw [WebSocketManager.sendFailed]
  by_cases registered : s.Registered i client
  · refine .inl ⟨registered, ?_⟩
    rw [evict_modify found registered rfl, modify_modify]
    rfl
  · refine .inr ⟨registered, ?_⟩
    have unchanged := evict_removed (s := s.modify i fun client : Client W M => { client with
      history := .failed :: client.history }) (modify_self found _) registered (some i) now
    rw [unchanged, modify_modify]
    rfl

omit [DecidableEq W] in
theorem stopWriter_self (client : Client W M) (i : Nat) :
    client.stopWriter i (some i) = client :=
  if_neg fun other => other.2 rfl

theorem sendFailed_sound (sound : Sound s) (found : s.clients[i]? = some client) (now : ℚ) :
    Sound (s.sendFailed i now) := by
  obtain ⟨registered, same⟩ | ⟨removed, same⟩ := sendFailed_cases found now
  · have live := sound.live i client found registered
    rw [same]
    simp only [stopWriter_self]
    refine Sound.of_eq (sound.remove found registered (f := fun client : Client W M =>
      { ({ client with history := .failed :: client.history } : Client W M).logDrops now true with
        writer := .done }) (logDrops_websocket _ _ _) ?_) rfl rfl rfl
    obtain ⟨_, _, logged⟩ := logDrops_eq
      ({ client with history := .failed :: client.history } : Client W M) now true
    simp only [logged]
    exact ⟨live.holds.ordered, .next live.unlost _, live.bounded, .inl rfl⟩
  · have gone := sound.gone i client found removed
    rw [same]
    exact sound.modify found rfl (fun registered => (removed registered).elim)
      fun _ => ⟨gone.ordered, gone.silent.failed, gone.bounded, .inl rfl⟩

omit [DecidableEq W] [DecidableEq M] in
theorem stepped_if {c : Bool} {t u : WebSocketManager W M}
    (stepped : (if c then none else some u) = some t) : c = false ∧ t = u := by
  cases c with
  | false => exact ⟨rfl, (Option.some.inj stepped).symm⟩
  | true => contradiction

/-- What a writer's step can do. -/
theorem writerStep_cases {w : WebSocketManager.WriterStep} {t : WebSocketManager W M}
    (stepped : s.writerStep i client w = some t) :
    (∃ message rest, client.writer = .getting ∧ client.queue = message :: rest ∧
      client.cancelled = false ∧ t = s.modify i fun client => { client with
        queue := rest
        writer := .sending message
        history := .handed message :: client.history }) ∨
    (∃ message, client.writer = .sending message ∧ client.cancelled = false ∧
      t = s.modify i fun client => { client with writer := .getting }) ∨
    (∃ now, t = s.sendFailed i now) ∨
    (client.cancelled = true ∧ t = s.modify i fun client => { client with writer := .done }) := by
  cases w with
  | take =>
      simp only [WebSocketManager.writerStep] at stepped
      split at stepped
      · rename_i message rest getting queued
        obtain ⟨uncancelled, same⟩ := stepped_if stepped
        exact .inl ⟨message, rest, getting, queued, uncancelled, same⟩
      · contradiction
  | sent =>
      simp only [WebSocketManager.writerStep] at stepped
      split at stepped
      · rename_i message sending
        obtain ⟨uncancelled, same⟩ := stepped_if stepped
        exact .inr (.inl ⟨message, sending, uncancelled, same⟩)
      · contradiction
  | timedOut now | failed now =>
      simp only [WebSocketManager.writerStep] at stepped
      split at stepped
      · exact .inr (.inr (.inl ⟨now, (Option.some.inj stepped).symm⟩))
      · contradiction
  | stop =>
      obtain ⟨cancelled, same⟩ := Option.ite_none_right_eq_some.mp stepped
      rw [Bool.and_eq_true] at cancelled
      exact .inr (.inr (.inr ⟨cancelled.1, (Option.some.inj same).symm⟩))

theorem writerStep_sound (sound : Sound s) (found : s.clients[i]? = some client)
    {w : WebSocketManager.WriterStep} {t : WebSocketManager W M}
    (stepped : s.writerStep i client w = some t) : Sound t := by
  have running : client.writer ≠ .done → client.cancelled = false → s.Registered i client := by
    intro runs uncancelled
    by_contra removed
    obtain done | cancelled := (sound.gone i client found removed).ends
    · exact runs done
    · rw [uncancelled] at cancelled
      contradiction
  obtain ⟨message, rest, getting, queued, uncancelled, rfl⟩ | ⟨message, sending, uncancelled, rfl⟩ |
    ⟨now, rfl⟩ | ⟨cancelled, rfl⟩ := writerStep_cases stepped
  · have registered := running (by simp [getting]) uncancelled
    have live := sound.live i client found registered
    refine sound.modify found rfl (fun _ => ?_) fun removed => (removed registered).elim
    have holds := live.holds
    have bounded := live.bounded
    rw [queued] at holds bounded
    refine ⟨holds.hand, ?_, Nat.le_of_succ_le bounded, by simp, live.uncancelled⟩
    rintro (loses | lost)
    · exact loses
    · exact live.unlost lost
  · have registered := running (by simp [sending]) uncancelled
    have live := sound.live i client found registered
    exact sound.modify found rfl
      (fun _ => ⟨live.holds, live.unlost, live.bounded, by simp, live.uncancelled⟩)
      fun removed => (removed registered).elim
  · exact sendFailed_sound sound found now
  · refine sound.modify found rfl (fun registered => ?_) fun removed => ?_
    · have uncancelled := (sound.live i client found registered).uncancelled
      rw [uncancelled] at cancelled
      contradiction
    · have gone := sound.gone i client found removed
      exact ⟨gone.ordered, gone.silent, gone.bounded, .inl rfl⟩

theorem step_sound (sound : Sound s) {e : WebSocketManager.Event W D M}
    {t : WebSocketManager W M} (stepped : s.step dump e = some t) : Sound t := by
  cases e with
  | connect websocket =>
      cases stepped
      exact connect_sound sound websocket
  | disconnect websocket now =>
      cases stepped
      exact disconnect_sound sound websocket now
  | broadcastNowait eventType data now =>
      cases stepped
      exact broadcast_sound sound eventType data now
  | sendRaw websocket message now =>
      cases stepped
      exact sendRaw_sound sound websocket message now
  | writer i w =>
      obtain ⟨client, found, stepped⟩ := Option.bind_eq_some_iff.mp stepped
      exact writerStep_sound sound found stepped

/-- Every run keeps connections and clients in order. -/
theorem run_sound (run : Reaches (WebSocketManager.step dump) Any
    (WebSocketManager.empty : WebSocketManager W M) s) : Sound s :=
  run.invariant (fun sound _ stepped => step_sound sound stepped) sound_empty

end Sound

end Meshloom.WebSocket
