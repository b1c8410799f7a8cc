import Meshloom.WebSocket.Health

/-! Health frames come in the order of their calls in every run in which no task queues its frame
while the task of an earlier call runs. -/
namespace Meshloom.WebSocket
open Transition

section Grows
variable {W D M : Type} [DecidableEq W] [DecidableEq M] {s t u : WebSocketManager W M}
  {carries : M → Prop}

/-- A history that grew by nothing but ends of sends and certain messages. -/
def Grew (carries : M → Prop) (before after : List (Outbox.Happening (Option String) M)) : Prop :=
  ∃ later, after = later ++ before ∧
    ∀ tag message, Outbox.Happening.asked tag message ∈ later → carries message

/-- The clients are those there were, with histories that grew. -/
structure Grows (carries : M → Prop) (s t : WebSocketManager W M) : Prop where
  length : t.clients.length = s.clients.length
  grew : ∀ (j : Nat) (after : Client W M), t.clients[j]? = some after →
    ∃ client : Client W M, s.clients[j]? = some client ∧ Grew carries client.history after.history

omit [DecidableEq M] in
theorem Grew.same (history : List (Outbox.Happening (Option String) M)) :
    Grew carries history history := ⟨[], rfl, by simp⟩

omit [DecidableEq M] in
theorem Grew.trans {first second third : List (Outbox.Happening (Option String) M)}
    (before : Grew carries first second) (after : Grew carries second third) :
    Grew carries first third := by
  obtain ⟨early, rfl, carried⟩ := before
  obtain ⟨late, rfl, more⟩ := after
  refine ⟨late ++ early, (List.append_assoc _ _ _).symm, fun tag message member => ?_⟩
  rcases List.mem_append.mp member with late | early
  · exact more tag message late
  · exact carried tag message early

omit [DecidableEq W] [DecidableEq M] in
theorem Grows.of_clients (same : t.clients = s.clients) : Grows carries s t :=
  ⟨congrArg List.length same, fun _ after found => ⟨after, same ▸ found, .same _⟩⟩

omit [DecidableEq W] [DecidableEq M] in
theorem Grows.trans (first : Grows carries s t) (second : Grows carries t u) : Grows carries s u := by
  refine ⟨second.length.trans first.length, fun j after found => ?_⟩
  obtain ⟨middle, found, late⟩ := second.grew j after found
  obtain ⟨client, found, early⟩ := first.grew j middle found
  exact ⟨client, found, early.trans late⟩

omit [DecidableEq W] [DecidableEq M] in
theorem modify_grows (i : Nat) {f : Client W M → Client W M}
    (grew : ∀ client, Grew carries client.history (f client).history) :
    Grows carries s (s.modify i f) := by
  refine ⟨List.length_modify .., fun j after found => ?_⟩
  rw [clients_modify] at found
  split at found
  · obtain ⟨client, held, rfl⟩ := Option.map_eq_some_iff.mp found
    exact ⟨client, held, grew client⟩
  · exact ⟨after, found, .same _⟩

omit [DecidableEq W] in
theorem grew_stopped (client : Client W M) (i : Nat) (current : Option Nat) (now : ℚ) :
    Grew carries client.history ((client.stopWriter i current).logDrops now true).history := by
  rw [logDrops_history, stopWriter_history]
  exact .same _

theorem evict_grows (i : Nat) (current : Option Nat) (now : ℚ) :
    Grows carries s (s.evict i current now) := by
  rw [WebSocketManager.evict]
  split
  · exact .of_clients rfl
  · split
    · exact .of_clients rfl
    · refine Grows.trans ?_ (modify_grows i fun client => grew_stopped client i current now)
      exact .of_clients rfl

theorem enqueue_grows (i : Nat) (message : M) (eventType : Option String) (now : ℚ)
    (carried : carries message) : Grows carries s (s.enqueue i message eventType now) := by
  have asked : Grows carries s (s.modify i fun client =>
      { client with history := .asked eventType message :: client.history }) := by
    refine modify_grows i fun client => ⟨[.asked eventType message], rfl, ?_⟩
    intro tag other member
    cases List.mem_singleton.mp member
    exact carried
  rw [WebSocketManager.enqueue]
  split
  · exact .of_clients rfl
  · dsimp only
    split
    · refine asked.trans (Grows.trans ?_ (modify_grows i fun client => ?_))
      · exact .of_clients rfl
      · rw [logDrops_history]
        exact .same _
    · split
      · refine asked.trans (modify_grows i fun client => ?_)
        rw [logDrops_history]
        exact .same _
      · exact asked.trans (evict_grows i none now)

theorem enqueueAll_grows (clients : List Nat) (message : M) (eventType : Option String)
    (now : Nat → ℚ) (carried : carries message) :
    Grows carries s (s.enqueueAll clients message eventType now) := by
  induction clients generalizing s with
  | nil => exact .of_clients rfl
  | cons i rest ih => exact (enqueue_grows i message eventType (now i) carried).trans ih

theorem broadcast_grows {dump : String → D → Option M} (eventType : String) (data : D) (now : Nat → ℚ)
    (carried : ∀ message, dump eventType data = some message → carries message) :
    Grows carries s (s.broadcastNowait dump eventType data now) := by
  rw [WebSocketManager.broadcastNowait]
  split
  · exact .of_clients rfl
  · split
    · exact .of_clients rfl
    · rename_i message dumped
      exact enqueueAll_grows _ message _ now (carried message dumped)

theorem disconnect_grows (websocket : W) (now : ℚ) : Grows carries s (s.disconnect websocket now) := by
  rw [WebSocketManager.disconnect]
  split
  · exact .of_clients rfl
  · rename_i i _
    refine Grows.trans ?_ (modify_grows i fun client => grew_stopped client i none now)
    exact .of_clients rfl

theorem sendRaw_grows (websocket : W) (message : M) (now : ℚ) (carried : carries message) :
    Grows carries s (s.sendRaw websocket message now) := by
  rw [WebSocketManager.sendRaw]
  split
  · exact .of_clients rfl
  · exact enqueue_grows _ message none now carried

theorem sendFailed_grows (i : Nat) (now : ℚ) : Grows carries s (s.sendFailed i now) := by
  have failed : Grows carries s (s.modify i fun client =>
      { client with history := .failed :: client.history }) :=
    modify_grows i fun client => ⟨[.failed], rfl, by simp⟩
  have ended : ∀ t : WebSocketManager W M, Grows carries t (t.modify i fun client =>
      { client with writer := .done }) := fun t => modify_grows i fun client => .same _
  exact (failed.trans (evict_grows i (some i) now)).trans (ended _)

theorem writerStep_grows {client : Client W M} {w : WebSocketManager.WriterStep}
    (stepped : s.writerStep i client w = some t) : Grows carries s t := by
  obtain ⟨message, rest, -, -, -, rfl⟩ | ⟨_, -, -, rfl⟩ | ⟨now, rfl⟩ | ⟨-, rfl⟩ :=
    writerStep_cases stepped
  · exact modify_grows i fun client => ⟨[.handed message], rfl, by simp⟩
  · exact modify_grows i fun client => .same _
  · exact sendFailed_grows i now
  · exact modify_grows i fun client => .same _

end Grows

namespace Health
variable {W T R : Type} [DecidableEq W] [DecidableEq T] [DecidableEq R] {s t : State W T R}

/-- The frames asked of a client, the latest first. -/
def asked : List (Outbox.Happening (Option String) (Message T R)) → List (Frame R)
  | [] => []
  | .asked _ message :: earlier => message.frame?.toList ++ asked earlier
  | _ :: earlier => asked earlier

omit [DecidableEq T] [DecidableEq R] in
theorem asked_grew {before after : List (Outbox.Happening (Option String) (Message T R))}
    (grew : Grew (fun message => message.frame? = none) before after) : asked after = asked before := by
  obtain ⟨later, rfl, carried⟩ := grew
  induction later with
  | nil => rfl
  | cons happening later ih =>
      have ih := ih fun tag message member => carried tag message (List.mem_cons_of_mem _ member)
      cases happening with
      | asked tag message =>
          rw [List.cons_append, asked, carried tag message List.mem_cons_self, ih]
          rfl
      | handed | failed => exact ih

/-- Another event of the sockets asks nobody for a health frame, and forgets no client. -/
theorem socket_grew {e : WebSocketManager.Event W T T} {sockets after : WebSocketManager W (Message T R)}
    (stepped : sockets.step dump (lift e) = some after) :
    sockets.clients.length ≤ after.clients.length ∧
    ∀ (j : Nat) (client : Client W (Message T R)), after.clients[j]? = some client →
      (∃ before : Client W (Message T R), sockets.clients[j]? = some before ∧
        Grew (fun message => message.frame? = none) before.history client.history) ∨
      j = sockets.clients.length ∧ client.history = [] := by
  have grown : Grows (fun message : Message T R => message.frame? = none) sockets after →
      sockets.clients.length ≤ after.clients.length ∧
      ∀ (j : Nat) (client : Client W (Message T R)), after.clients[j]? = some client →
        (∃ before : Client W (Message T R), sockets.clients[j]? = some before ∧
          Grew (fun message => message.frame? = none) before.history client.history) ∨
        j = sockets.clients.length ∧ client.history = [] := fun grows =>
    ⟨grows.length.ge, fun j client found => .inl (grows.grew j client found)⟩
  cases e with
  | connect websocket =>
      cases stepped
      rw [WebSocketManager.connect]
      split
      · exact ⟨le_rfl, fun j client found => .inl ⟨client, found, .same _⟩⟩
      · refine ⟨?_, fun j client found => ?_⟩
        · rw [List.length_append]
          exact Nat.le_add_right _ _
        · rcases getElem?_snoc found with before | ⟨new, rfl⟩
          · exact .inl ⟨client, before, .same _⟩
          · exact .inr ⟨new, rfl⟩
  | disconnect websocket now =>
      cases stepped
      exact grown (disconnect_grows websocket now)
  | broadcastNowait eventType data now =>
      cases stepped
      refine grown (broadcast_grows eventType _ now fun message dumped => ?_)
      rw [← Option.some.inj dumped]
      rfl
  | sendRaw websocket message now =>
      cases stepped
      exact grown (sendRaw_grows websocket _ now rfl)
  | writer i w =>
      obtain ⟨client, _, stepped⟩ := Option.bind_eq_some_iff.mp stepped
      exact grown (writerStep_grows stepped)

/-- The tasks and the frames of a run in which the tasks end in order. -/
structure InOrder (s : State W T R) : Prop where
  made : ∀ task ∈ s.tasks, s.calls[task.call]? = some task.radioConnected
  distinct : (s.tasks.map (·.call)).Nodup
  counted : ∀ call ∈ s.queued, call < s.calls.length
  behind : ∀ call ∈ s.queued, ∀ task ∈ s.tasks, call < task.call
  descending : s.queued.Pairwise fun late early => early < late

/-- What a client was asked for: frames of the queued calls in their order. -/
structure Asked (calls : List Bool) (queued : List Nat)
    (history : List (Outbox.Happening (Option String) (Message T R))) : Prop where
  sublist : ((asked history).map (·.call)).Sublist queued
  told : ∀ frame ∈ asked history, calls[frame.call]? = some frame.data.radioConnected
  tagged : ∀ tag call data, Outbox.Happening.asked tag (.health call data) ∈ history → tag = some "health"

omit [DecidableEq W] [DecidableEq T] [DecidableEq R] in
theorem inOrder_without (inOrder : InOrder s) (call : Nat) : InOrder (s.without call) where
  made task member := inOrder.made task (List.mem_of_mem_filter member)
  distinct := (List.filter_sublist.map _).nodup inOrder.distinct
  counted := inOrder.counted
  behind c queued task member := inOrder.behind c queued task (List.mem_of_mem_filter member)
  descending := inOrder.descending

omit [DecidableEq W] [DecidableEq T] [DecidableEq R] in
theorem inOrder_ask (inOrder : InOrder s) (task : Task R) (phase : Phase R) :
    InOrder (s.ask task phase) := by
  have same : ∀ other ∈ (s.ask task phase).tasks, ∃ before ∈ s.tasks, other.call = before.call ∧
      other.radioConnected = before.radioConnected := by
    intro other member
    obtain ⟨before, held, rfl⟩ := List.mem_map.mp member
    refine ⟨before, held, ?_⟩
    split
    · exact ⟨rfl, rfl⟩
    · exact ⟨rfl, rfl⟩
  have calls : (s.ask task phase).tasks.map (·.call) = s.tasks.map (·.call) := by
    rw [State.ask, List.map_map]
    refine List.map_congr_left fun other _ => ?_
    dsimp only [Function.comp_apply]
    split
    · rfl
    · rfl
  refine ⟨?_, calls ▸ inOrder.distinct, inOrder.counted, ?_, inOrder.descending⟩
  · intro other member
    obtain ⟨before, member, call, connected⟩ := same other member
    rw [call, connected]
    exact inOrder.made before member
  · intro c queued other member
    obtain ⟨before, member, call, -⟩ := same other member
    rw [call]
    exact inOrder.behind c queued before member

/-- The oldest task queues its frame. -/
theorem inOrder_finish (inOrder : InOrder s) {task : Task R} (member : task ∈ s.tasks)
    (first : ∀ other ∈ s.tasks, task.call ≤ other.call) (data : HealthData R) (now : Nat → ℚ) :
    InOrder (s.finish task data now) := by
  obtain ⟨made, distinct, counted, behind, descending⟩ := inOrder
  refine ⟨?_, (List.filter_sublist.map _).nodup distinct, ?_, ?_, ?_⟩
  · intro other later
    exact made other (List.mem_of_mem_filter later)
  · intro call queued
    rcases List.mem_cons.mp queued with rfl | queued
    · exact (List.getElem?_eq_some_iff.mp (made task member)).1
    · exact counted call queued
  · intro call queued other later
    obtain ⟨later, different⟩ := List.mem_filter.mp later
    rcases List.mem_cons.mp queued with rfl | queued
    · have le := first other later
      have ne : other.call ≠ task.call := of_decide_eq_true different
      omega
    · exact behind call queued other later
  · exact List.pairwise_cons.mpr ⟨fun call queued => behind call queued task member, descending⟩

omit [DecidableEq T] [DecidableEq R] in
theorem Asked.grew {calls : List Bool} {queued : List Nat}
    {before after : List (Outbox.Happening (Option String) (Message T R))}
    (told : Asked calls queued before) (grew : Grew (fun message => message.frame? = none) before after) :
    Asked calls queued after := by
  have same := asked_grew grew
  refine ⟨same ▸ told.sublist, same ▸ told.told, ?_⟩
  obtain ⟨later, rfl, carried⟩ := grew
  intro tag call data member
  rcases List.mem_append.mp member with late | early
  · have none_ := carried _ _ late
    contradiction
  · exact told.tagged tag call data early

omit [DecidableEq T] [DecidableEq R] in
theorem Asked.none (calls : List Bool) (queued : List Nat) :
    Asked calls queued ([] : List (Outbox.Happening (Option String) (Message T R))) :=
  ⟨List.nil_sublist _, by simp [asked], by simp⟩

/-- Every client was asked for frames in order, and a connected one that was asked for any was asked
for the latest. A client that a frame was addressed to has been asked for it. -/
structure Told (s : State W T R) : Prop where
  asked : ∀ (j : Nat) (client : Client W (Message T R)), s.sockets.clients[j]? = some client →
    Asked s.calls s.queued client.history
  latest : ∀ (j : Nat) (client : Client W (Message T R)), s.sockets.clients[j]? = some client →
    s.sockets.Registered j client → ∀ frame, (Health.asked client.history).head? = some frame →
      s.queued.head? = some frame.call
  known : ∀ (call j : Nat), (call, j) ∈ s.addressed → j < s.sockets.clients.length
  addressed : ∀ (call j : Nat), (call, j) ∈ s.addressed → ∀ client : Client W (Message T R),
    s.sockets.clients[j]? = some client → ∃ frame ∈ Health.asked client.history, frame.call = call

theorem told_socket (sound : Sound s.sockets) (told : Told s) {e : WebSocketManager.Event W T T}
    (stepped : s.sockets.step dump (lift e) = some sockets) : Told { s with sockets } := by
  obtain ⟨length, grown⟩ := socket_grew stepped
  refine ⟨fun j client found => ?_, fun j client found registered frame first => ?_,
    fun call j member => (told.known call j member).trans_le length,
    fun call j member client found => ?_⟩
  · rcases grown j client found with ⟨before, held, grew⟩ | ⟨-, fresh⟩
    · exact (told.asked j before held).grew grew
    · rw [fresh]
      exact .none _ _
  · rcases grown j client found with ⟨before, held, grew⟩ | ⟨-, fresh⟩
    · rw [asked_grew grew] at first
      refine told.latest j before held ?_ frame first
      rcases step_connections stepped registered with connected | beyond
      · obtain ⟨same, at_, socket⟩ := sound.named _ j connected
        rw [held] at at_
        cases at_
        rw [WebSocketManager.Registered, socket]
        exact connected
      · exact absurd (List.getElem?_eq_some_iff.mp held).1 (by omega)
    · rw [fresh] at first
      contradiction
  · rcases grown j client found with ⟨before, held, grew⟩ | ⟨new, -⟩
    · rw [asked_grew grew]
      exact told.addressed call j member before held
    · exact absurd (told.known call j member) (by omega)

/-- A task that queues its frame asks the connected clients for it and leaves the others alone. -/
theorem finish_asks (sound : Sound s.sockets) (task : Task R) (data : HealthData R) (now : Nat → ℚ)
    {j : Nat} {client : Client W (Message T R)}
    (found : (s.finish task data now).sockets.clients[j]? = some client) :
    ∃ before : Client W (Message T R), s.sockets.clients[j]? = some before ∧
      ((s.sockets.Registered j before ∧ client.history =
        .asked (some "health") (.health task.call data) :: before.history) ∨
      ¬s.sockets.Registered j before ∧ client = before) := by
  have grows : Grows (fun _ => True) s.sockets
      (s.sockets.broadcastNowait dump "health" (.health task.call data) now) :=
    broadcast_grows "health" _ now fun _ _ => trivial
  obtain ⟨before, held, -⟩ := grows.grew j client found
  refine ⟨before, held, ?_⟩
  by_cases registered : s.sockets.Registered j before
  · obtain ⟨same, at_, history⟩ := broadcast_asks sound held registered
      (rfl : dump "health" (Message.health task.call data : Message T R) = _) now
    have eq : some same = some client := at_.symm.trans found
    cases eq
    exact .inl ⟨registered, history⟩
  · have stepped : s.sockets.step dump (.broadcastNowait "health" (.health task.call data) now) =
        some (s.finish task data now).sockets := rfl
    have same := step_others sound held registered (fun w other => by cases other) stepped
    have eq : some before = some client := same.symm.trans found
    cases eq
    exact .inr ⟨registered, rfl⟩

omit [DecidableEq T] [DecidableEq R] in
/-- The clients that a frame is addressed to are connected. -/
theorem addressed_registered {sockets : WebSocketManager W (Message T R)} (sound : Sound sockets)
    {task call j : Nat}
    (member : (call, j) ∈ sockets.activeConnections.entries.map fun entry => (task, entry.2)) :
    call = task ∧ ∃ client, sockets.clients[j]? = some client ∧ sockets.Registered j client := by
  obtain ⟨⟨websocket, i⟩, entry, same⟩ := List.mem_map.mp member
  cases same
  have connected := (Dict.mem_iff_get? _).mp entry
  obtain ⟨client, held, socket⟩ := sound.named websocket i connected
  refine ⟨rfl, client, held, ?_⟩
  rw [WebSocketManager.Registered, socket]
  exact connected

theorem told_finish (sound : Sound s.sockets) (told : Told s) {task : Task R} {data : HealthData R}
    (made : s.calls[task.call]? = some data.radioConnected) (now : Nat → ℚ) :
    Told (s.finish task data now) := by
  have stepped : s.sockets.step dump (.broadcastNowait "health" (.health task.call data) now) =
      some (s.finish task data now).sockets := rfl
  have grows : Grows (fun _ => True) s.sockets
      (s.sockets.broadcastNowait dump "health" (.health task.call data) now) :=
    broadcast_grows "health" _ now fun _ _ => trivial
  refine ⟨fun j client found => ?_, fun j client found registered frame first => ?_,
    fun call j member => ?_, fun call j member client found => ?_⟩
  · obtain ⟨before, held, ⟨-, history⟩ | ⟨-, rfl⟩⟩ := finish_asks sound task data now found
    · obtain ⟨sublist, earlier, tagged⟩ := told.asked j before held
      rw [history]
      refine ⟨sublist.cons_cons task.call, fun frame member => ?_, fun tag call other member => ?_⟩
      · rcases List.mem_cons.mp member with rfl | member
        · exact made
        · exact earlier frame member
      · rcases List.mem_cons.mp member with same | member
        · cases same
          rfl
        · exact tagged tag call other member
    · obtain ⟨sublist, earlier, tagged⟩ := told.asked j client held
      exact ⟨sublist.cons task.call, earlier, tagged⟩
  · obtain ⟨before, held, ⟨-, history⟩ | ⟨removed, rfl⟩⟩ := finish_asks sound task data now found
    · rw [history] at first
      cases first
      rfl
    · rcases step_connections stepped registered with connected | beyond
      · exact absurd connected removed
      · exact absurd (List.getElem?_eq_some_iff.mp held).1 (by omega)
  · refine lt_of_lt_of_eq ?_ grows.length.symm
    rcases List.mem_append.mp member with new | old
    · obtain ⟨-, client, held, -⟩ := addressed_registered sound new
      exact (List.getElem?_eq_some_iff.mp held).1
    · exact told.known call j old
  · obtain ⟨before, held, ⟨-, history⟩ | ⟨removed, rfl⟩⟩ := finish_asks sound task data now found
    · rw [history]
      rcases List.mem_append.mp member with new | old
      · obtain ⟨rfl, -⟩ := addressed_registered sound new
        exact ⟨_, List.mem_cons_self, rfl⟩
      · obtain ⟨frame, asked, same⟩ := told.addressed call j old before held
        exact ⟨frame, List.mem_cons_of_mem _ asked, same⟩
    · rcases List.mem_append.mp member with new | old
      · obtain ⟨-, other, at_, registered⟩ := addressed_registered sound new
        have same : other = client := Option.some.inj (at_.symm.trans held)
        exact (removed (same ▸ registered)).elim
      · exact told.addressed call j old client held

/-- What a run keeps whose steps are orderly. -/
structure Steady (s : State W T R) : Prop where
  sound : Sound s.sockets
  inOrder : InOrder s
  told : Told s

omit [DecidableEq W] [DecidableEq T] [DecidableEq R] in
theorem task?_some {call : Nat} {task : Task R} (found : s.task? call = some task) :
    task ∈ s.tasks ∧ task.call = call := by
  rw [State.task?] at found
  have same := List.find?_some found
  exact ⟨List.mem_of_find?_eq_some found, of_decide_eq_true same⟩

omit [DecidableEq W] [DecidableEq T] [DecidableEq R] in
theorem inOrder_call (inOrder : InOrder s) (radioConnected : Bool) (connectionInfo : Option String) :
    InOrder { s with
      tasks := s.tasks ++ [⟨s.calls.length, radioConnected, connectionInfo, .called⟩]
      calls := s.calls ++ [radioConnected] } := by
  obtain ⟨made, distinct, counted, behind, descending⟩ := inOrder
  have earlier : ∀ task ∈ s.tasks, task.call < s.calls.length := fun task member =>
    (List.getElem?_eq_some_iff.mp (made task member)).1
  refine ⟨?_, ?_, ?_, ?_, descending⟩
  · intro task member
    rcases List.mem_append.mp member with old | new
    · rw [List.getElem?_append_left (earlier task old)]
      exact made task old
    · cases List.mem_singleton.mp new
      exact List.getElem?_concat_length
  · rw [List.map_append]
    refine List.nodup_append.mpr ⟨distinct, List.nodup_singleton _, ?_⟩
    intro call old other new
    obtain ⟨task, member, rfl⟩ := List.mem_map.mp old
    cases List.mem_singleton.mp new
    exact (earlier task member).ne
  · intro call queued
    have := counted call queued
    rw [List.length_append, List.length_singleton]
    omega
  · intro call queued task member
    rcases List.mem_append.mp member with old | new
    · exact behind call queued task old
    · cases List.mem_singleton.mp new
      exact counted call queued

omit [DecidableEq T] [DecidableEq R] in
theorem told_call (told : Told s) (tasks : List (Task R)) (radioConnected : Bool) :
    Told { s with tasks, calls := s.calls ++ [radioConnected] } := by
  refine ⟨fun j client found => ?_, told.latest, told.known, told.addressed⟩
  obtain ⟨sublist, earlier, tagged⟩ := told.asked j client found
  refine ⟨sublist, fun frame member => ?_, tagged⟩
  have made := earlier frame member
  rw [List.getElem?_append_left (List.getElem?_eq_some_iff.mp made).1]
  exact made

omit [DecidableEq W] [DecidableEq T] [DecidableEq R] in
theorem reader_mem {task : Task R} (reads : s.reader = some task) : task ∈ s.tasks := by
  rw [State.reader] at reads
  split at reads
  · exact (task?_some reads).1
  · contradiction

/-- A task that is the oldest one queues its frame. -/
theorem steady_finish (steady : Steady s) {task : Task R} (member : task ∈ s.tasks)
    (first : ∀ other ∈ s.tasks, task.call ≤ other.call) (draft : Draft R) (configured : Bool)
    (identity : Option R) (rest : List R) (now : Nat → ℚ) :
    Steady (s.finish task (task.data draft configured identity rest) now) where
  sound := by
    have stepped : s.sockets.step dump
        (.broadcastNowait "health" (.health task.call (task.data draft configured identity rest)) now) =
      some (s.finish task (task.data draft configured identity rest) now).sockets := rfl
    exact step_sound steady.sound stepped
  inOrder := inOrder_finish steady.inOrder member first _ now
  told := told_finish steady.sound steady.told (steady.inOrder.made task member) now

omit [DecidableEq T] [DecidableEq R] in
theorem steady_ask (steady : Steady s) (task : Task R) (phase : Phase R) : Steady (s.ask task phase) :=
  ⟨steady.sound, inOrder_ask steady.inOrder task phase, steady.told.asked, steady.told.latest,
    steady.told.known, steady.told.addressed⟩

theorem step_steady (steady : Steady s) {e : Event W T R} (orderly : Orderly s e)
    (stepped : step s e = some t) : Steady t := by
  obtain ⟨sound, inOrder, told⟩ := steady
  have first : queues s e = true → ∀ task, s.reader = some task →
      ∀ other ∈ s.tasks, task.call ≤ other.call := fun queued task reads => orderly queued task reads
  cases e with
  | call radioConnected connectionInfo =>
      cases stepped
      exact ⟨sound, inOrder_call inOrder radioConnected connectionInfo, told_call told _ _⟩
  | begin_ =>
      obtain ⟨task, -, rfl⟩ := Option.map_eq_some_iff.mp stepped
      exact steady_ask ⟨sound, inOrder, told⟩ task _
  | oldest oldestTs runtime =>
      obtain ⟨task, -, stepped⟩ := Option.bind_eq_some_iff.mp stepped
      split at stepped
      · cases stepped
        exact steady_ask ⟨sound, inOrder, told⟩ task _
      · contradiction
  | transport raises rest now =>
      obtain ⟨task, reads, stepped⟩ := Option.bind_eq_some_iff.mp stepped
      have member := reader_mem reads
      split at stepped
      next draft _ =>
        cases stepped
        unfold State.transportRead
        split
        · next raised =>
          exact steady_finish ⟨sound, inOrder, told⟩ member
            (first (by rw [queues, raised]; rfl) task reads) draft _ _ _ now
        · split
          · next hidden =>
            refine steady_finish ⟨sound, inOrder, told⟩ member (first ?_ task reads) draft _ _ _ now
            rw [queues, hidden, Option.isNone_none, Bool.or_true]
          · exact steady_ask ⟨sound, inOrder, told⟩ task _
      · contradiction
  | identity raises rest now =>
      obtain ⟨task, reads, stepped⟩ := Option.bind_eq_some_iff.mp stepped
      split at stepped
      next draft configured _ =>
        cases stepped
        unfold State.identityRead
        split
        · next queued =>
          exact steady_finish ⟨sound, inOrder, told⟩ (reader_mem reads) (first queued task reads) draft
            _ _ _ now
        · exact steady_ask ⟨sound, inOrder, told⟩ task _
      · contradiction
  | counts identity rest now =>
      obtain ⟨task, reads, stepped⟩ := Option.bind_eq_some_iff.mp stepped
      split at stepped
      next draft configured _ =>
        cases stepped
        exact steady_finish ⟨sound, inOrder, told⟩ (reader_mem reads) (first rfl task reads) draft
          _ _ _ now
      · contradiction
  | raised call =>
      obtain ⟨task, -, rfl⟩ := Option.map_eq_some_iff.mp stepped
      exact ⟨sound, inOrder_without inOrder task.call, told.asked, told.latest, told.known,
        told.addressed⟩
  | write row =>
      cases stepped
      exact ⟨sound, ⟨inOrder.made, inOrder.distinct, inOrder.counted, inOrder.behind,
        inOrder.descending⟩, told.asked, told.latest, told.known, told.addressed⟩
  | written succeeds =>
      simp only [step] at stepped
      split at stepped
      · cases stepped
        exact ⟨sound, ⟨inOrder.made, inOrder.distinct, inOrder.counted, inOrder.behind,
          inOrder.descending⟩, told.asked, told.latest, told.known, told.addressed⟩
      · contradiction
  | socket e =>
      obtain ⟨sockets, moved, rfl⟩ := Option.map_eq_some_iff.mp stepped
      exact ⟨step_sound sound moved, ⟨inOrder.made, inOrder.distinct, inOrder.counted, inOrder.behind,
        inOrder.descending⟩, told_socket sound told moved⟩

theorem run_steady {row : TransportRow} (run : Reaches step Orderly (start row : State W T R) s) :
    Steady s := by
  refine run.invariant (fun steady orderly stepped => step_steady steady orderly stepped)
    ⟨sound_empty, ⟨?_, ?_, ?_, ?_, ?_⟩, ?_, ?_, ?_, ?_⟩
  all_goals simp [start, WebSocketManager.empty]

omit [DecidableEq T] [DecidableEq R] in
/-- No health frame is shed. -/
theorem frames_kept {history : List (Outbox.Happening (Option String) (Message T R))}
    (tagged : ∀ tag call data, Outbox.Happening.asked tag (.health call data) ∈ history →
      tag = some "health") :
    frames (Outbox.kept mayShed history) = (asked history).reverse := by
  induction history with
  | nil => rfl
  | cons happening earlier ih =>
      have ih := ih fun tag call data member => tagged tag call data (List.mem_cons_of_mem _ member)
      cases happening with
      | handed message => exact ih
      | failed => exact ih
      | asked tag message =>
          cases message with
          | health call data =>
              have health := tagged tag call data List.mem_cons_self
              rw [Outbox.kept, health, if_neg (by simp [mayShed]), frames,
                List.filterMap_append]
              rw [frames] at ih
              rw [ih, asked, List.reverse_append]
              rfl
          | other message =>
              have same : frames [(.other message : Message T R)] = [] := rfl
              rw [Outbox.kept]
              split
              · exact ih
              · rw [frames, List.filterMap_append]
                rw [frames] at ih same
                rw [ih, same, List.append_nil]
                rfl

/-- What a client gets in a run. -/
structure InCallOrder (s : State W T R) (j : Nat) (client : Client W (Message T R)) : Prop where
  /-- The health frames in the order in which they were queued. -/
  queued : ((frames (Outbox.kept mayShed client.history)).map (·.call)).Pairwise (· < ·)
  /-- The health frames that the socket was handed. -/
  received : ((frames (Outbox.handed client.history)).map (·.call)).Pairwise (· < ·)
  made : ∀ frame ∈ frames (Outbox.kept mayShed client.history),
    s.calls[frame.call]? = some frame.data.radioConnected
  /-- A frame that was broadcast while the client was connected was queued for it. -/
  complete : ∀ call, (call, j) ∈ s.addressed →
    ∃ frame ∈ frames (Outbox.kept mayShed client.history), frame.call = call
  /-- All tasks have finished, the last one by queueing its frame. -/
  last : s.tasks = [] → s.calls.length - 1 ∈ s.queued → s.sockets.Registered j client →
    ∀ frame, (frames (Outbox.handed client.history ++ client.queue)).getLast? = some frame →
      s.calls.getLast? = some frame.data.radioConnected

/-- Every connected client gets the health frames in the order of the calls. -/
theorem frames_inCallOrder {row : TransportRow}
    (run : Reaches step Orderly (start row : State W T R) s) (j : Nat)
    (client : Client W (Message T R)) (found : s.sockets.clients[j]? = some client) :
    InCallOrder s j client := by
  obtain ⟨sound, inOrder, told⟩ := run_steady run
  obtain ⟨sublist, made, tagged⟩ := told.asked j client found
  have kept := frames_kept tagged
  have ascending : ((frames (Outbox.kept mayShed client.history)).map (·.call)).Pairwise (· < ·) := by
    rw [kept, List.map_reverse]
    exact List.pairwise_reverse.mpr (inOrder.descending.sublist sublist)
  have ordered : Outbox.handed client.history <+: Outbox.kept mayShed client.history := by
    by_cases registered : s.sockets.Registered j client
    · exact (sound.live j client found registered).holds.ordered
    · exact (sound.gone j client found registered).ordered
  refine ⟨ascending, ?_, fun frame member => made frame ?_, fun call member => ?_, ?_⟩
  · exact ascending.sublist ((ordered.sublist.filterMap _).map _)
  · exact List.mem_reverse.mp (kept ▸ member)
  · obtain ⟨frame, member, same⟩ := told.addressed call j member client found
    exact ⟨frame, by rw [kept]; exact List.mem_reverse.mpr member, same⟩
  · intro _ finished registered frame last
    have holds := (sound.live j client found registered).holds
    rw [← holds, kept, List.getLast?_reverse] at last
    -- The latest call whose frame was queued is the last one.
    have latest := told.latest j client found registered frame last
    obtain ⟨rest, queue⟩ : ∃ rest, s.queued = frame.call :: rest := List.head?_eq_some_iff.mp latest
    have le : s.calls.length - 1 ≤ frame.call := by
      have descending := inOrder.descending
      rw [queue] at finished descending
      rcases List.mem_cons.mp finished with same | earlier
      · exact same.le
      · exact ((List.pairwise_cons.mp descending).1 _ earlier).le
    have known := made frame (List.mem_of_head? last)
    have lt := (List.getElem?_eq_some_iff.mp known).1
    rw [List.getLast?_eq_getElem?, show s.calls.length - 1 = frame.call by omega]
    exact known

instance decidableOrderly (s : State W T R) (e : Event W T R) : Decidable (Orderly s e) := by
  unfold Orderly
  infer_instance

/-- A connected radio whose setup is complete. -/
def ready : Runtime Unit := ⟨false, true, true, false, none, []⟩

def unmatched : TransportRow := ⟨true, some "identity_mismatch"⟩

def matched : TransportRow := ⟨true, none⟩

/-- Two calls overlap and see the mismatch of the stored transport, which a write between them ends. -/
theorem overlapping_frames_inCallOrder : ∃ (s : State Nat Unit Unit) (client : Client Nat (Message Unit Unit)),
    s.sockets.clients[0]? = some client ∧ s.tasks = [] ∧ s.addressed = [(1, 0), (0, 0)] ∧
      (frames (Outbox.handed client.history)).map (·.data.radioConnected) = [true, false] ∧
      InCallOrder s 0 client := by
  have ran : (executeWhere step Orderly (start unmatched : State Nat Unit Unit)
      [.socket (.connect 7), .call true none, .call false none, .begin_, .begin_, .oldest none ready,
        .oldest (some 5) ready, .transport false [] fun _ => 0, .transport false [] fun _ => 0,
        .identity false [] fun _ => 0, .write matched, .identity false [] fun _ => 0,
        .counts (some ()) [] fun _ => 0, .written true, .counts (some ()) [] fun _ => 0,
        .socket (.writer 0 .take), .socket (.writer 0 .sent), .socket (.writer 0 .take)]).any
      (fun s => s.sockets.clients[0]?.any fun client => decide (s.tasks.length = 0 ∧
        s.addressed = [(1, 0), (0, 0)] ∧
        (frames (Outbox.handed client.history)).map (·.data.radioConnected) = [true, false])) = true := by
    decide +kernel
  obtain ⟨s, executed, found⟩ := (Option.any_eq_true _ _).mp ran
  obtain ⟨client, at_, holds⟩ := (Option.any_eq_true _ _).mp found
  obtain ⟨finished, addressed, received⟩ := of_decide_eq_true holds
  exact ⟨s, client, at_, List.length_eq_zero_iff.mp finished, addressed, received,
    frames_inCallOrder (executeWhere_reaches executed) 0 client at_⟩

/-- The first task sees the mismatch, the second one its end, so the first reads once more and its
frame comes last. -/
theorem frame_overtaken : ∃ (s : State Nat Unit Unit) (client : Client Nat (Message Unit Unit)),
    Reaches step Any (start unmatched) s ∧ s.sockets.clients[0]? = some client ∧ s.tasks = [] ∧
      s.calls = [true, false] ∧ (frames (Outbox.handed client.history)).map
        (fun frame => (frame.call, frame.data.radioConnected)) = [(1, false), (0, true)] := by
  have ran : (execute step (start unmatched : State Nat Unit Unit)
      [.socket (.connect 7), .call true none, .call false none, .begin_, .begin_, .oldest none ready,
        .write matched, .oldest none ready, .transport false [] fun _ => 0, .written true,
        .transport false [] fun _ => 0, .identity false [] fun _ => 0, .socket (.writer 0 .take),
        .socket (.writer 0 .sent), .socket (.writer 0 .take)]).any
      (fun s => s.sockets.clients[0]?.any fun client => decide (s.tasks.length = 0 ∧
        s.calls = [true, false] ∧ (frames (Outbox.handed client.history)).map
          (fun frame => (frame.call, frame.data.radioConnected)) = [(1, false), (0, true)])) = true := by
    decide +kernel
  obtain ⟨s, executed, found⟩ := (Option.any_eq_true _ _).mp ran
  obtain ⟨client, at_, holds⟩ := (Option.any_eq_true _ _).mp found
  obtain ⟨finished, calls, received⟩ := of_decide_eq_true holds
  exact ⟨s, client, execute_reaches executed, at_, List.length_eq_zero_iff.mp finished, calls, received⟩

end Health

end Meshloom.WebSocket
