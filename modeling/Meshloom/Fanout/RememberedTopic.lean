import Meshloom.Fanout.RetainedStatusProofs

/-! Whether a stop can say farewell on every topic of its connection: it can once each status that
was sent is recorded, as long as the statuses of a connection go out on one topic. -/
namespace Meshloom.RetainedStatus
open Transition
variable {s t : State} {writer other : Writer} {writing : Writing}

theorem called (found : s.writing? (some i) = some writing) : i < s.calls.length := by
  by_contra outside
  simp [State.writing?, List.getElem?_eq_none (not_lt.mp outside)] at found

theorem writing?_goOn (found : s.writing? writer = some writing) (next : Writing) (other : Writer) :
    (goOn s writer next).writing? other = if other = writer then some next else s.writing? other := by
  cases writer with
  | none => cases other <;> rfl
  | some i =>
      cases other with
      | none => rfl
      | some j =>
          simp only [State.writing?, goOn, List.getElem?_set, Option.some.injEq, eq_comm (a := j),
            called found, if_true]
          split <;> rfl

theorem writing?_finish (different : other ≠ writer) :
    (finish s writer).writing? other = s.writing? other := by
  cases writer with
  | none =>
      cases other with
      | none => contradiction
      | some i => rfl
  | some i =>
      cases other with
      | none => rfl
      | some j =>
          have apart : i ≠ j := fun same => different (congrArg some same.symm)
          simp [State.writing?, finish, apart]

theorem writing?_finished (s : State) (writer : Writer) : (finish s writer).writing? writer = none := by
  cases writer with
  | none => rfl
  | some i =>
      simp only [State.writing?, finish, List.getElem?_set_self']
      cases s.calls[i]? <;> rfl

/-- While a connection is up its topics are one, which is remembered or is about to be. -/
structure Remembered (s : State) : Prop where
  one : ∀ t ∈ s.topics, ∀ u, u ∈ s.topics ∨ Unrecorded s u → u = t
  kept : s.stop = .none → s.connected = true →
    ∀ t ∈ s.topics, s.lastStatusTopic = some t ∨ Unrecorded s t

theorem remembered_nil (none : s.topics = []) : Remembered s := by
  constructor <;> simp [none]

theorem Remembered.frame (remembered : Remembered s) (topics : t.topics = s.topics)
    (unrecorded : ∀ u, Unrecorded t u ↔ Unrecorded s u) (stop : t.stop = s.stop)
    (connected : t.connected = s.connected) (last : t.lastStatusTopic = s.lastStatusTopic) :
    Remembered t := by
  obtain ⟨one, kept⟩ := remembered
  refine ⟨?_, ?_⟩
  · simpa only [topics, unrecorded] using one
  · simpa only [topics, unrecorded, stop, connected, last] using kept

/-- During a stop, and without a connection, nothing needs to be remembered. -/
theorem Remembered.release (remembered : Remembered s) (topics : t.topics = s.topics)
    (fewer : ∀ u, Unrecorded t u → Unrecorded s u) (away : t.stop = .none → t.connected = false) :
    Remembered t := by
  refine ⟨?_, ?_⟩
  · rw [topics]
    exact fun topic member u found => remembered.one topic member u (found.imp_right (fewer u))
  · intro free connected
    exact (Bool.false_ne_true ((away free).symm.trans connected)).elim

theorem unrecorded_congr (same : ∀ writer, t.writing? writer = s.writing? writer) (u : Topic) :
    Unrecorded t u ↔ Unrecorded s u := by
  simp only [Unrecorded, same]

theorem unrecorded_loop (calls : t.calls = s.calls)
    (before : ∀ topic identity, s.loop ≠ .status (.publishing topic identity))
    (after : ∀ topic identity, t.loop ≠ .status (.publishing topic identity)) (u : Topic) :
    Unrecorded t u ↔ Unrecorded s u := by
  have silent : ∀ {s : State}, (∀ topic identity, s.loop ≠ .status (.publishing topic identity)) →
      ∀ identity, s.writing? none ≠ some (.publishing u identity) := by
    intro s silent identity found
    cases loop : s.loop with
    | status writing =>
        simp only [State.writing?, loop, Option.some.injEq] at found
        exact silent u identity (found ▸ loop)
    | _ => simp [State.writing?, loop] at found
  constructor
  · rintro ⟨_ | i, identity, found⟩
    · exact (silent after identity found).elim
    · exact ⟨some i, identity, by rwa [State.writing?, ← calls]⟩
  · rintro ⟨_ | i, identity, found⟩
    · exact (silent before identity found).elim
    · exact ⟨some i, identity, by rwa [State.writing?, calls]⟩

theorem unrecorded_call (silent : ∀ topic identity, writing ≠ .publishing topic identity) (u : Topic) :
    Unrecorded { s with calls := s.calls ++ [some writing] } u ↔ Unrecorded s u := by
  constructor
  · rintro ⟨_ | i, identity, found⟩
    · exact ⟨none, identity, found⟩
    · simp only [State.writing?, List.getElem?_append] at found
      split at found
      · exact ⟨some i, identity, found⟩
      · cases index : i - s.calls.length with
        | zero =>
            simp only [index, List.getElem?_cons_zero, Option.join_some, Option.some.injEq] at found
            exact (silent u identity found).elim
        | succ => simp [index] at found
  · rintro ⟨_ | i, identity, found⟩
    · exact ⟨none, identity, found⟩
    · exact ⟨some i, identity, by rwa [State.writing?, List.getElem?_append_left (called found)]⟩

theorem unrecorded_finish_of (unrecorded : Unrecorded (finish s writer) u) : Unrecorded s u := by
  obtain ⟨other, identity, found⟩ := unrecorded
  have different : other ≠ writer := by
    rintro rfl
    rw [writing?_finished] at found
    contradiction
  exact ⟨other, identity, by rwa [writing?_finish different] at found⟩

theorem unrecorded_finish (found : s.writing? writer = some .noting) (u : Topic) :
    Unrecorded (finish s writer) u ↔ Unrecorded s u := by
  refine ⟨unrecorded_finish_of, ?_⟩
  rintro ⟨other, identity, publishing⟩
  have different : other ≠ writer := by
    rintro rfl
    simp [found] at publishing
  exact ⟨other, identity, by rwa [writing?_finish different]⟩

theorem unrecorded_cancelLoop (unrecorded : Unrecorded (cancelLoop s retire) u) : Unrecorded s u := by
  obtain ⟨_ | i, identity, found⟩ := unrecorded
  · cases loop : s.loop <;> simp [State.writing?, cancelLoop, loop] at found
  · exact ⟨some i, identity, found⟩

theorem Remembered.finish (remembered : Remembered s) (disconnected : ¬ s.connected = true) :
    Remembered (finish s writer) := by
  refine remembered.release ?_ (fun _ => unrecorded_finish_of) fun _ => ?_
  · cases writer <;> rfl
  · cases writer <;> exact eq_false_of_ne_true disconnected

theorem sendStatus_remembered (remembered : Remembered s)
    (found : s.writing? writer = some (.gathering settings identity))
    (one : ∀ topic, topic ∈ s.topics ∨ Unrecorded s topic →
      topic = buildStatusTopic settings identity.pubkey) :
    Remembered (sendStatus s writer settings identity) := by
  unfold sendStatus
  split
  · set sent : State := { s with
      broker := Function.update s.broker (buildStatusTopic settings identity.pubkey)
        (some (onlineStatusPayload identity))
      topics := buildStatusTopic settings identity.pubkey :: s.topics }
    have topics : ∀ next, (goOn sent writer next).topics = sent.topics := by
      intro next
      cases writer <;> rfl
    have published : ∀ t ∈ sent.topics, t = buildStatusTopic settings identity.pubkey := by
      intro t member
      obtain rfl | member := List.mem_cons.mp member
      · rfl
      · exact one t (.inl member)
    have writing := writing?_goOn (s := sent) found
      (.publishing (buildStatusTopic settings identity.pubkey) identity)
    refine ⟨?_, ?_⟩
    · rw [topics]
      intro t member u also
      rw [published t member]
      obtain also | ⟨other, name, also⟩ := also
      · exact published u also
      · rw [writing] at also
        split at also
        · cases also
          rfl
        · exact one u (.inr ⟨other, name, also⟩)
    · rw [topics]
      intro _ _ t member
      rw [published t member]
      exact .inr ⟨writer, identity, by rw [writing, if_pos rfl]⟩
  · rename_i disconnected
    exact remembered.finish disconnected

theorem recordStatus_remembered (remembered : Remembered s)
    (found : s.writing? writer = some (.publishing topic identity)) :
    Remembered (recordStatus s writer topic identity) := by
  unfold recordStatus
  split
  · have writing := writing?_goOn
      (s := { s with lastStatusTopic := some topic, lastStatusIdentity := identity })
      found .noting
    have fewer : ∀ u, Unrecorded (goOn { s with
        lastStatusTopic := some topic, lastStatusIdentity := identity } writer .noting) u →
        Unrecorded s u := by
      rintro u ⟨other, name, also⟩
      rw [writing] at also
      split at also
      · simp at also
      · exact ⟨other, name, also⟩
    have same : ∀ t ∈ s.topics, topic = t :=
      fun t member => remembered.one t member topic (.inr ⟨writer, identity, found⟩)
    refine ⟨?_, ?_⟩
    · intro t member u also
      have listed : t ∈ s.topics := by cases writer <;> exact member
      refine remembered.one t listed u (also.imp ?_ (fewer u))
      cases writer <;> exact id
    · intro _ _ t member
      have listed : t ∈ s.topics := by cases writer <;> exact member
      left
      rw [← same t listed]
      cases writer <;> rfl
  · rename_i disconnected
    exact remembered.finish disconnected

theorem beginStop_remembered (remembered : Remembered s) : Remembered (beginStop s) := by
  unfold beginStop
  split
  · split
    · exact remembered.release rfl (fun _ => unrecorded_cancelLoop) (by simp [cancelLoop])
    · exact remembered.release rfl (fun _ => id) (by simp)
  · exact remembered.release rfl (fun _ => unrecorded_cancelLoop) (by simp [cancelLoop])

theorem acknowledge_remembered (remembered : Remembered s) (acknowledged : acknowledge s = some t) :
    Remembered t := by
  simp only [acknowledge] at acknowledged
  split at acknowledged
  · cases acknowledged
    exact remembered.release rfl (fun _ => id) (by simp)
  · cases acknowledged
    exact remembered.release rfl (fun _ => unrecorded_cancelLoop) (by simp [cancelLoop])
  · cases acknowledged
    exact remembered.release rfl (fun _ => unrecorded_cancelLoop) (by simp [cancelLoop])
  · contradiction

theorem leave_remembered (remembered : Remembered s) (left : leave s = some t) : Remembered t := by
  simp only [leave] at left
  split at left
  · rename_i running
    cases left
    refine remembered.release rfl (fun u => (unrecorded_loop ?_ ?_ ?_ u).mp) fun _ => rfl
    · rfl
    · simp [running]
    · simp
  · rename_i running
    cases left
    refine remembered.release rfl (fun u => (unrecorded_loop ?_ ?_ ?_ u).mp) fun _ => rfl
    · rfl
    · simp [running]
    · simp
  · contradiction

theorem step_remembered (remembered : Remembered s) (one : OneTopic s e)
    (stepped : step s e = some t) : Remembered t := by
  cases e <;> simp only [step] at stepped
  case start settings =>
    split at stepped
    · cases stepped
      refine remembered.frame rfl (unrecorded_congr fun writer => ?_) rfl rfl rfl
      cases writer with
      | none => cases loop : s.loop <;> simp [State.writing?, begin, loop]
      | some i => rfl
    · contradiction
  case retireStatus =>
    cases stepped
    exact remembered.frame rfl (unrecorded_congr fun _ => rfl) rfl rfl rfl
  case retries | wakes | leaves =>
    split at stepped
    · rename_i running
      cases stepped
      refine remembered.frame rfl (unrecorded_loop rfl ?_ ?_) rfl rfl rfl
      · simp [running]
      · simp
    · contradiction
  case connects identity =>
    split at stepped
    · cases stepped
      exact remembered_nil rfl
    · contradiction
  case republish identity =>
    split at stepped
    · cases stepped
      refine remembered.frame rfl (unrecorded_call ?_) rfl rfl rfl
      simp
    · contradiction
  case sends writer =>
    split at stepped
    · rename_i found
      cases stepped
      exact sendStatus_remembered remembered found (one _ _ found)
    · contradiction
  case sent writer =>
    split at stepped
    · rename_i found
      cases stepped
      exact recordStatus_remembered remembered found
    · contradiction
  case noted writer =>
    split at stepped
    · rename_i found
      cases stepped
      refine remembered.frame ?_ (unrecorded_finish found) ?_ ?_ ?_ <;> cases writer <;> rfl
    · contradiction
  case left => exact leave_remembered remembered stepped
  case stop =>
    split at stepped
    · cases stepped
      exact beginStop_remembered remembered
    · contradiction
  case acknowledged => exact acknowledge_remembered remembered stepped
  case stopReturns =>
    split at stepped
    · cases stepped
      exact remembered_nil rfl
    · contradiction

/-- A stop finds what it asks for whenever a connection is up and every status is recorded. -/
theorem stop_clear {broker : Topic → Option Payload} (run : Reaches step OneTopic (start broker) s)
    (free : s.stop = .none) (connected : s.connected = true)
    (recorded : ∀ topic, ¬ Unrecorded s topic) : Clear s .stop := by
  have remembered : Remembered s := run.invariant step_remembered (remembered_nil rfl)
  intro topic published
  exact ⟨connected, (remembered.kept free connected topic published).resolve_right (recorded topic)⟩

end Meshloom.RetainedStatus
