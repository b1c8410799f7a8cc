import Meshloom.WebSocket.ManagerProofs

/-! What a client's socket is handed is, in order, what was queued for it while it was connected,
less the packets that its backlog allows to shed. A client that misses anything else is removed,
and the writer of a removed client ends at its next step. -/
namespace Meshloom.WebSocket
open Transition
variable {W D M : Type} [DecidableEq W] [DecidableEq M] {dump : String → D → Option M}
  {s t : WebSocketManager W M} {client : Client W M}

/-- The writer of a removed client is done or stops at its next step, whichever that is; no other
step touches the client, and it is not connected again. -/
structure Ending (dump : String → D → Option M) (s : WebSocketManager W M) (i : Nat)
    (client : Client W M) : Prop where
  stops : client.writer = .done ∨ ∃ t, s.step dump (.writer i .stop) = some t
  own : ∀ w t, s.step dump (.writer i w) = some t → ∃ after, t.clients[i]? = some after ∧
    after.writer = .done ∧ Outbox.handed after.history = Outbox.handed client.history
  others : ∀ e t, (∀ w, e ≠ .writer i w) → s.step dump e = some t → t.clients[i]? = some client
  gone : ∀ e t after, s.step dump e = some t → t.clients[i]? = some after →
    ¬ t.Registered i after

/-- The delivery to one client. -/
structure Delivered (dump : String → D → Option M) (s : WebSocketManager W M) (i : Nat)
    (client : Client W M) : Prop where
  ordered : Outbox.handed client.history <+: Outbox.kept mayShed client.history
  bounded : client.queue.length ≤ CLIENT_QUEUE_MAX
  removed : Outbox.Lost mayShed CLIENT_QUEUE_MAX client.history → ¬ s.Registered i client
  silent : Outbox.SilentAfterLoss mayShed CLIENT_QUEUE_MAX client.history
  ends : ¬ s.Registered i client → Ending dump s i client

/-- A writer's step touches its own client and at most that one's connection. -/
theorem writerStep_frame {w : WebSocketManager.WriterStep}
    (stepped : s.writerStep i client w = some t) :
    (∀ j ≠ i, t.clients[j]? = s.clients[j]?) ∧
      ∀ websocket j, t.activeConnections.get? websocket = some j →
        s.activeConnections.get? websocket = some j := by
  have modified (f : Client W M → Client W M) : (∀ j ≠ i, (s.modify i f).clients[j]? =
      s.clients[j]?) ∧ ∀ websocket j, (s.modify i f).activeConnections.get? websocket = some j →
        s.activeConnections.get? websocket = some j :=
    ⟨fun j different => modify_other s f (Ne.symm different), fun _ _ => id⟩
  have failed (now : ℚ) : (∀ j ≠ i, (s.sendFailed i now).clients[j]? = s.clients[j]?) ∧
      ∀ websocket j, (s.sendFailed i now).activeConnections.get? websocket = some j →
        s.activeConnections.get? websocket = some j := by
    obtain ⟨others, connections⟩ := evict_frame (s.modify i fun client : Client W M =>
      { client with history := .failed :: client.history }) i (some i) now
    refine ⟨fun j different => ?_, fun websocket j connected => ?_⟩
    · rw [WebSocketManager.sendFailed, modify_other _ _ (Ne.symm different),
        others j different, modify_other _ _ (Ne.symm different)]
    · rw [WebSocketManager.sendFailed, modify_connections] at connected
      obtain same | ⟨_, _, _, same⟩ := connections
      · rw [same] at connected
        exact connected
      · rw [same, Dict.get?_pop] at connected
        exact (Option.ite_none_left_eq_some.mp connected).2
  obtain ⟨_, _, _, _, _, rfl⟩ | ⟨_, _, _, rfl⟩ | ⟨now, rfl⟩ | ⟨_, rfl⟩ := writerStep_cases stepped
  · exact modified _
  · exact modified _
  · exact failed now
  · exact modified _

/-- A step keeps the connections it finds, apart from that of a new client. -/
theorem step_connections {e : WebSocketManager.Event W D M} (stepped : s.step dump e = some t)
    (connected : t.activeConnections.get? websocket = some i) :
    s.activeConnections.get? websocket = some i ∨ i = s.clients.length := by
  cases e with
  | connect other =>
      cases stepped
      rw [WebSocketManager.connect] at connected
      split at connected
      · exact .inl connected
      · rw [Dict.get?_set] at connected
        split at connected
        · exact .inr (Option.some.inj connected).symm
        · exact .inl connected
  | disconnect other now =>
      cases stepped
      rw [WebSocketManager.disconnect] at connected
      split at connected
      · exact .inl connected
      · rw [modify_connections, Dict.get?_pop] at connected
        exact .inl (Option.ite_none_left_eq_some.mp connected).2
  | broadcastNowait eventType data now =>
      cases stepped
      rw [WebSocketManager.broadcastNowait] at connected
      split at connected
      · exact .inl connected
      · split at connected
        · exact .inl connected
        · exact .inl ((enqueueAll_frame s _ _ _ now).2 websocket i connected)
  | sendRaw other message now =>
      cases stepped
      rw [WebSocketManager.sendRaw] at connected
      split at connected
      · exact .inl connected
      · rename_i j _
        obtain ⟨-, same | ⟨_, _, _, same⟩⟩ := enqueue_frame s j message none now
        · rw [same] at connected
          exact .inl connected
        · rw [same, Dict.get?_pop] at connected
          exact .inl (Option.ite_none_left_eq_some.mp connected).2
  | writer j w =>
      obtain ⟨client, found, stepped⟩ := Option.bind_eq_some_iff.mp stepped
      exact .inl ((writerStep_frame stepped).2 websocket i connected)

/-- A step of something else leaves a removed client alone. -/
theorem step_others (sound : Sound s) (found : s.clients[i]? = some client)
    (removed : ¬ s.Registered i client) {e : WebSocketManager.Event W D M}
    (other : ∀ w, e ≠ .writer i w) (stepped : s.step dump e = some t) :
    t.clients[i]? = some client := by
  -- A connection names another client.
  have different : ∀ {websocket : W} {j : Nat},
      s.activeConnections.get? websocket = some j → i ≠ j := by
    rintro websocket j connected rfl
    obtain ⟨same, at_, rfl⟩ := sound.named websocket i connected
    rw [found] at at_
    cases at_
    exact removed connected
  cases e with
  | connect websocket =>
      cases stepped
      rw [WebSocketManager.connect]
      split
      · exact found
      · exact (List.getElem?_append_left (List.getElem?_eq_some_iff.mp found).1).trans found
  | disconnect websocket now =>
      cases stepped
      rw [WebSocketManager.disconnect]
      split
      · exact found
      · rename_i j connected
        exact (modify_other _ _ (different connected).symm).trans found
  | broadcastNowait eventType data now =>
      cases stepped
      rw [WebSocketManager.broadcastNowait]
      split
      · exact found
      · split
        · exact found
        · refine ((enqueueAll_frame s _ _ _ now).1 i fun member => ?_).trans found
          obtain ⟨⟨websocket, j⟩, entry, same⟩ := List.mem_map.mp member
          exact different ((Dict.mem_iff_get? _).mp entry) same.symm
  | sendRaw websocket message now =>
      cases stepped
      rw [WebSocketManager.sendRaw]
      split
      · exact found
      · rename_i j connected
        exact ((enqueue_frame s j message none now).1 i (different connected)).trans found
  | writer j w =>
      obtain ⟨_, _, stepped⟩ := Option.bind_eq_some_iff.mp stepped
      refine ((writerStep_frame stepped).1 i ?_).trans found
      rintro rfl
      exact other w rfl

/-- The writer of a removed client only ends. -/
theorem step_own (sound : Sound s) (found : s.clients[i]? = some client)
    (removed : ¬ s.Registered i client) {w : WebSocketManager.WriterStep}
    (stepped : s.writerStep i client w = some t) : ∃ after, t.clients[i]? = some after ∧
      after.websocket = client.websocket ∧ after.writer = .done ∧
      Outbox.handed after.history = Outbox.handed client.history := by
  have ends := (sound.gone i client found removed).ends
  obtain ⟨_, _, getting, _, uncancelled, rfl⟩ | ⟨_, sending, uncancelled, rfl⟩ | ⟨now, rfl⟩ |
    ⟨_, rfl⟩ := writerStep_cases stepped
  · simp [getting, uncancelled] at ends
  · simp [sending, uncancelled] at ends
  · obtain ⟨registered, -⟩ | ⟨-, same⟩ := sendFailed_cases found now
    · exact (removed registered).elim
    · rw [same]
      exact ⟨_, modify_self found _, rfl, rfl, rfl⟩
  · exact ⟨_, modify_self found _, rfl, rfl, rfl⟩

theorem Sound.ending (sound : Sound s) (found : s.clients[i]? = some client)
    (removed : ¬ s.Registered i client) : Ending dump s i client where
  stops := by
    by_cases done : client.writer = .done
    · exact .inl done
    · have cancelled := (sound.gone i client found removed).ends.resolve_left done
      refine .inr ⟨s.modify i fun client => { client with writer := .done }, ?_⟩
      rw [WebSocketManager.step, found, Option.bind_some, WebSocketManager.writerStep,
        if_pos (by simp [cancelled, done])]
  own w t stepped := by
    rw [WebSocketManager.step, found, Option.bind_some] at stepped
    obtain ⟨after, at_, -, done, same⟩ := step_own sound found removed stepped
    exact ⟨after, at_, done, same⟩
  others e t other stepped := step_others sound found removed other stepped
  gone e t after stepped at_ registered := by
    have socket : after.websocket = client.websocket := by
      by_cases own : ∃ w, e = .writer i w
      · obtain ⟨w, rfl⟩ := own
        rw [WebSocketManager.step, found, Option.bind_some] at stepped
        obtain ⟨ended, where_, same, -⟩ := step_own sound found removed stepped
        rw [where_] at at_
        cases at_
        exact same
      · rw [step_others sound found removed (fun w same => own ⟨w, same⟩) stepped] at at_
        cases at_
        rfl
    rw [WebSocketManager.Registered, socket] at registered
    obtain before | beyond := step_connections stepped registered
    · exact removed before
    · exact (List.getElem?_eq_some_iff.mp found).1.ne beyond

/-- Delivery to every client of every run. -/
theorem delivered (run : Reaches (WebSocketManager.step dump) Any WebSocketManager.empty s)
    (i : Nat) (found : s.clients[i]? = some client) : Delivered dump s i client := by
  have sound := run_sound run
  by_cases registered : s.Registered i client
  · have live := sound.live i client found registered
    exact ⟨live.holds.ordered, live.bounded, fun lost => (live.unlost lost).elim,
      .unlost live.unlost, fun removed => (removed registered).elim⟩
  · have gone := sound.gone i client found registered
    exact ⟨gone.ordered, gone.bounded, fun _ => registered, gone.silent,
      fun _ => sound.ending found registered⟩

/-- A browser that falls behind: its frames are handed over in order, and it is removed when a
send fails. -/
theorem failed_send_delivered : ∃ (s : WebSocketManager Nat String) (client : Client Nat String),
    s.clients[0]? = some client ∧ ¬ s.Registered 0 client ∧
      Outbox.handed client.history = ["message: a"] ∧ client.queue = ["raw_packet: b"] ∧
      Delivered (fun eventType data => some (eventType ++ ": " ++ data)) s 0 client := by
  have ran : (execute (WebSocketManager.step fun eventType data =>
      some (eventType ++ ": " ++ data)) WebSocketManager.empty
      [.connect 7, .broadcastNowait "message" "a" fun _ => 0, .writer 0 .take,
        .broadcastNowait "raw_packet" "b" fun _ => 0, .writer 0 (.failed 5)]).any
      (fun s => s.clients[0]?.any fun client => decide (s.activeConnections.get? 7 = none ∧
        client.websocket = 7 ∧ Outbox.handed client.history = ["message: a"] ∧
        client.queue = ["raw_packet: b"])) = true := by
    decide +kernel
  obtain ⟨s, executed, found⟩ := (Option.any_eq_true _ _).mp ran
  obtain ⟨client, at_, holds⟩ := (Option.any_eq_true _ _).mp found
  obtain ⟨removed, socket, handed, queued⟩ := of_decide_eq_true holds
  refine ⟨s, client, at_, ?_, handed, queued, delivered (execute_reaches executed) 0 at_⟩
  rw [WebSocketManager.Registered, socket, removed]
  exact Option.some_ne_none 0 |>.symm

/-- Queueing a frame asks the client for it once. -/
theorem enqueue_asks (found : s.clients[i]? = some client) (registered : s.Registered i client)
    (message : M) (eventType : Option String) (now : ℚ) : ∃ after : Client W M,
    (s.enqueue i message eventType now).clients[i]? = some after ∧
      after.history = .asked eventType message :: client.history := by
  obtain ⟨_, same, -⟩ | ⟨-, -, same⟩ := enqueue_cases found message eventType now
  · rw [same]
    refine ⟨_, modify_self found _, ?_⟩
    unfold offered
    dsimp only
    split
    · rw [logDrops_history]
    · rw [logDrops_history]
  · rw [same, evict_modify found registered rfl]
    refine ⟨_, modify_self found _, ?_⟩
    rw [logDrops_history, stopWriter_history]

theorem enqueueAll_asks {clients : List Nat} (connected : Connected s clients)
    (found : s.clients[i]? = some client) (registered : s.Registered i client)
    (member : i ∈ clients) (message : M) (eventType : Option String) (now : Nat → ℚ) :
    ∃ after : Client W M, (s.enqueueAll clients message eventType now).clients[i]? = some after ∧
      after.history = .asked eventType message :: client.history := by
  induction clients generalizing s with
  | nil => cases member
  | cons first rest ih =>
      by_cases self : i = first
      · subst first
        obtain ⟨after, at_, asked⟩ := enqueue_asks found registered message eventType (now i)
        refine ⟨after, ?_, asked⟩
        exact ((enqueueAll_frame _ rest message eventType now).1 i
          (List.nodup_cons.mp connected.1).1).trans at_
      · obtain ⟨found, registered⟩ :=
          enqueue_registered found registered self message eventType (now first)
        exact ih (connected.next message eventType (now first)) found registered
          ((List.mem_cons.mp member).resolve_left self)

/-- A broadcast asks every connected client for its frame. -/
theorem broadcast_asks (sound : Sound s) (found : s.clients[i]? = some client)
    (registered : s.Registered i client) (dumped : dump eventType data = some message)
    (now : Nat → ℚ) : ∃ after : Client W M,
    (s.broadcastNowait dump eventType data now).clients[i]? = some after ∧
      after.history = .asked (some eventType) message :: client.history := by
  have entry := (Dict.mem_iff_get? s.activeConnections).mpr registered
  have nonempty : s.activeConnections.size ≠ 0 := (List.length_pos_of_mem entry).ne'
  rw [WebSocketManager.broadcastNowait, if_neg nonempty, dumped]
  exact enqueueAll_asks sound.connected found registered (List.mem_map.mpr ⟨_, entry, rfl⟩)
    message (some eventType) now

end Meshloom.WebSocket
