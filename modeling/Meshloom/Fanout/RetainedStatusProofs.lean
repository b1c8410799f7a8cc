import Meshloom.Fanout.RetainedStatus

/-! A stop leaves no online status behind when it says farewell on the topics of its connection and
nothing follows the farewell. -/
namespace Meshloom.RetainedStatus
open Transition
variable {s t : State} {writer other : Writer} {writing next : Writing}

/-- What a stop under way has brought about. -/
def Underway (s : State) : Prop :=
  match s.stop with
  | .none => True
  | .sayingOffline topic _ =>
      (∀ t ∈ s.topics, t = topic) ∧ Left false (s.broker topic) ∧
        s.stopped = none ∧ s.retiredStatusTopic = none
  | .clearing topic =>
      (∀ t ∈ s.topics, t = topic) ∧ s.broker topic = none ∧
        s.stopped = none ∧ s.retiredStatusTopic = none
  | .cancelling retire => ∀ t ∈ s.topics, Left retire (s.broker t)

/-- The publisher is at rest. -/
def Idle (s : State) : Prop := s.connected = false ∧ s.loop = .ended

structure Sound (s : State) : Prop where
  quiet : Quiet s
  underway : Underway s
  afterStop : s.stopped ≠ none → Idle s
  afterRetire : s.retiredStatusTopic ≠ none → (∃ retire, s.stop = .cancelling retire) ∨ Idle s

/-- What the broker holds and what is said of it stays as it is. -/
theorem Sound.frame (sound : Sound s) (idle : Idle s → Idle t) (broker : t.broker = s.broker)
    (topics : t.topics = s.topics) (stop : t.stop = s.stop) (stopped : t.stopped = s.stopped)
    (retired : t.retiredStatusTopic = s.retiredStatusTopic) : Sound t := by
  obtain ⟨⟨after, cleared⟩, underway, afterStop, afterRetire⟩ := sound
  refine ⟨⟨?_, ?_⟩, ?_, ?_, ?_⟩
  · rwa [stopped, broker]
  · rwa [retired, broker]
  · unfold Underway
    rwa [stop, topics, broker, stopped, retired]
  · rw [stopped]
    exact fun some => idle (afterStop some)
  · rw [retired, stop]
    exact fun some => (afterRetire some).imp_right idle

/-- A connection is there and no stop is under way: no stop has been since the last start. -/
theorem Sound.fresh (sound : Sound s) (connected : s.connected = true) (free : s.stop = .none) :
    s.stopped = none ∧ s.retiredStatusTopic = none := by
  have busy : ¬ Idle s := fun idle => Bool.false_ne_true (idle.1.symm.trans connected)
  constructor
  · exact not_not.mp fun some => busy (sound.afterStop some)
  · refine not_not.mp fun some => ?_
    obtain ⟨retire, stop⟩ | idle := sound.afterRetire some
    · rw [free] at stop
      contradiction
    · exact busy idle

/-- Before anything was stopped only the stop under way counts. -/
theorem sound_fresh (stopped : s.stopped = none) (retired : s.retiredStatusTopic = none)
    (underway : Underway s) : Sound s := by
  refine ⟨⟨?_, ?_⟩, underway, ?_, ?_⟩
  · rw [stopped]
    intro ended member
    contradiction
  · rw [retired]
    intro topic member
    contradiction
  · exact fun some => (some stopped).elim
  · exact fun some => (some retired).elim

theorem ended_of_writing (found : s.writing? writer = some writing) (ended : s.loop = .ended) :
    writer ≠ none := by
  rintro rfl
  simp [State.writing?, ended] at found

theorem not_idle (running : s.loop = loop) (live : loop ≠ .ended) : ¬ Idle s :=
  fun idle => live (running.symm.trans idle.2)

theorem Sound.goOn (sound : Sound s) (found : s.writing? writer = some writing) :
    Sound (goOn s writer next) := by
  cases writer with
  | none => exact sound.frame (fun idle => (ended_of_writing found idle.2 rfl).elim) rfl rfl rfl rfl rfl
  | some i => exact sound.frame id rfl rfl rfl rfl rfl

theorem Sound.finish (sound : Sound s) (found : s.writing? writer = some writing) :
    Sound (finish s writer) := by
  cases writer with
  | none => exact sound.frame (fun idle => (ended_of_writing found idle.2 rfl).elim) rfl rfl rfl rfl rfl
  | some i => exact sound.frame id rfl rfl rfl rfl rfl

theorem begin_sound (free : s.stop = .none) (settings : Settings) : Sound (begin s settings) := by
  refine sound_fresh rfl rfl ?_
  simp only [Underway, begin, free]

theorem connect_sound (sound : Sound s) (outside : s.loop = .connecting settings)
    (identity : Option Identity) : Sound (connect s settings identity) := by
  have busy : ¬ Idle s := not_idle outside Loop.noConfusion
  have unstopped : s.stopped = none := not_not.mp fun some => busy (sound.afterStop some)
  obtain ⟨⟨_, cleared⟩, underway, _, afterRetire⟩ := sound
  refine ⟨⟨?_, cleared⟩, ?_, ?_, ?_⟩
  · simp [connect, unstopped]
  · simp only [Underway, connect] at underway ⊢
    split <;> simp_all
  · exact fun some => (some unstopped).elim
  · exact fun some => (afterRetire some).imp_right fun idle => (busy idle).elim

theorem sendStatus_sound (sound : Sound s) (clear : Clear s (.sends writer))
    (found : s.writing? writer = some writing) :
    Sound (sendStatus s writer settings identity) := by
  unfold sendStatus
  split
  · rename_i connected
    have free : s.stop = .none := by
      cases stop : s.stop <;> simp_all [Clear]
    obtain ⟨stopped, retired⟩ := sound.fresh connected free
    have sent := sound_fresh (s := { s with
      broker := Function.update s.broker (buildStatusTopic settings identity.pubkey)
        (some (onlineStatusPayload identity))
      topics := buildStatusTopic settings identity.pubkey :: s.topics })
      stopped retired (by simp [Underway, free])
    exact sent.goOn found
  · exact sound.finish found

theorem recordStatus_sound (sound : Sound s) (found : s.writing? writer = some writing) :
    Sound (recordStatus s writer topic identity) := by
  unfold recordStatus
  split
  · have recorded : Sound { s with lastStatusTopic := some topic, lastStatusIdentity := identity } :=
      sound.frame id rfl rfl rfl rfl rfl
    exact recorded.goOn found
  · exact sound.finish found

/-- The loop is cancelled once every topic of the connection holds what it is to hold. -/
theorem cancelLoop_sound (sound : Quiet s) (left : ∀ t ∈ s.topics, Left retire (s.broker t))
    (afterStop : s.stopped ≠ none → Idle s) : Sound (cancelLoop s retire) := by
  refine ⟨⟨sound.stopped, sound.retired⟩, left, ?_, fun _ => .inl ⟨retire, rfl⟩⟩
  intro some
  obtain ⟨connected, ended⟩ := afterStop some
  exact ⟨connected, by simp [cancelLoop, ended]⟩

theorem beginStop_sound (sound : Sound s) (free : s.stop = .none) (clear : Clear s .stop) :
    Sound (beginStop s) := by
  simp only [Clear] at clear
  unfold beginStop
  split
  · rename_i connected
    split
    · rename_i forgotten
      refine cancelLoop_sound ⟨sound.quiet.stopped, sound.quiet.retired⟩ ?_ sound.afterStop
      intro topic published
      exact (Option.some_ne_none _ ((clear topic published).2.symm.trans forgotten)).elim
    · rename_i topic remembered
      obtain ⟨stopped, retired⟩ := sound.fresh connected free
      refine sound_fresh stopped retired ⟨?_, ?_, stopped, retired⟩
      · intro other published
        exact Option.some.inj ((clear other published).2.symm.trans remembered)
      · exact ⟨s.lastStatusIdentity, Function.update_self _ _ _⟩
  · rename_i disconnected
    refine cancelLoop_sound sound.quiet ?_ sound.afterStop
    intro topic published
    exact (disconnected (clear topic published).1).elim

theorem acknowledge_sound (sound : Sound s) (acknowledged : acknowledge s = some t) : Sound t := by
  have underway := sound.underway
  simp only [acknowledge] at acknowledged
  split at acknowledged
  · rename_i topic stop
    simp only [Underway, stop] at underway
    obtain ⟨only, _, stopped, retired⟩ := underway
    cases acknowledged
    exact sound_fresh stopped retired ⟨only, Function.update_self _ _ _, stopped, retired⟩
  · rename_i topic stop
    simp only [Underway, stop] at underway
    obtain ⟨only, offline, _⟩ := underway
    cases acknowledged
    refine cancelLoop_sound ⟨sound.quiet.stopped, sound.quiet.retired⟩ ?_ sound.afterStop
    intro other published
    cases only other published
    exact offline
  · rename_i topic stop
    simp only [Underway, stop] at underway
    obtain ⟨only, empty, _⟩ := underway
    cases acknowledged
    refine cancelLoop_sound ⟨sound.quiet.stopped, ?_⟩ ?_ sound.afterStop
    · rintro other ⟨⟩
      exact empty
    · intro other published
      cases only other published
      exact empty
  · contradiction

theorem leave_sound (sound : Sound s) (left : leave s = some t) : Sound t := by
  simp only [leave] at left
  split at left
  · rename_i leaving
    cases left
    exact sound.frame (fun idle => (not_idle leaving Loop.noConfusion idle).elim) rfl rfl rfl rfl rfl
  · cases left
    exact sound.frame (fun _ => ⟨rfl, rfl⟩) rfl rfl rfl rfl rfl
  · contradiction

theorem returned_sound (sound : Sound s) (stop : s.stop = .cancelling retire)
    (ended : s.loop = .ended) :
    Sound { s with
      connected := false
      stop := .none
      stopped := some ⟨s.topics, retire⟩
      topics := [] } := by
  have underway := sound.underway
  simp only [Underway, stop] at underway
  refine ⟨⟨?_, sound.quiet.retired⟩, trivial, fun _ => ⟨rfl, ended⟩, fun _ => .inr ⟨rfl, ended⟩⟩
  rintro stopped ⟨⟩
  exact underway

theorem step_sound (sound : Sound s) (clear : Clear s e) (stepped : step s e = some t) :
    Sound t := by
  cases e <;> simp only [step] at stepped
  case start settings =>
    split at stepped
    · rename_i free
      cases stepped
      exact begin_sound free settings
    · contradiction
  case retireStatus =>
    cases stepped
    exact sound.frame id rfl rfl rfl rfl rfl
  case retries | wakes | leaves =>
    split at stepped
    · rename_i running
      cases stepped
      exact sound.frame (fun idle => (not_idle running Loop.noConfusion idle).elim) rfl rfl rfl rfl rfl
    · contradiction
  case connects identity =>
    split at stepped
    · rename_i outside
      cases stepped
      exact connect_sound sound outside identity
    · contradiction
  case republish identity =>
    split at stepped
    · cases stepped
      exact sound.frame id rfl rfl rfl rfl rfl
    · contradiction
  case sends writer =>
    split at stepped
    · rename_i found
      cases stepped
      exact sendStatus_sound sound clear found
    · contradiction
  case sent writer =>
    split at stepped
    · rename_i found
      cases stepped
      exact recordStatus_sound sound found
    · contradiction
  case noted writer =>
    split at stepped
    · rename_i found
      cases stepped
      exact sound.finish found
    · contradiction
  case left => exact leave_sound sound stepped
  case stop =>
    split at stepped
    · rename_i free
      cases stepped
      exact beginStop_sound sound free clear
    · contradiction
  case acknowledged => exact acknowledge_sound sound stepped
  case stopReturns =>
    split at stepped
    · rename_i stop ended
      cases stepped
      exact returned_sound sound stop ended
    · contradiction

theorem stop_quiet {broker : Topic → Option Payload}
    (run : Reaches step Clear (start broker) s) : Quiet s :=
  (run.invariant step_sound (sound_fresh rfl rfl trivial)).quiet

def node : Identity := ⟨"Roof", "AB12"⟩

/-- The events from a start to the recorded status of the first connection. -/
def firstStatus : List Event :=
  [.start ⟨"vie"⟩, .connects (some node), .sends none, .sent none, .noted none]

theorem retired_quiet : ∃ s : State,
    (∃ ended ∈ s.stopped, ended.retire = true ∧ ended.topics = ["meshcore/VIE/AB12/status"]) ∧
      Quiet s := by
  have ran : (executeWhere step Clear (start fun _ => none)
      (firstStatus ++ [.retireStatus, .stop, .acknowledged, .acknowledged, .left, .stopReturns])).any
      (fun s => decide (∃ ended ∈ s.stopped, ended.retire = true ∧
        ended.topics = ["meshcore/VIE/AB12/status"])) = true := by
    decide +kernel
  obtain ⟨s, executed, holds⟩ := (Option.any_eq_true _ _).mp ran
  exact ⟨s, of_decide_eq_true holds, stop_quiet (executeWhere_reaches executed)⟩

/-- A status that is republished while the empty payload is awaited stays, on a topic that is then
named as retired. -/
theorem republished_stays : ∃ s : State, Reaches step Any (start fun _ => none) s ∧ ¬ Quiet s ∧
    ∃ topic, s.retiredStatusTopic = some topic ∧ s.broker topic = some (onlineStatusPayload node) := by
  have ran : (execute step (start fun _ => none) (firstStatus ++
      [.retireStatus, .stop, .republish node, .acknowledged, .sends (some 0), .acknowledged, .left,
        .stopReturns])).any
      (fun s => decide (s.retiredStatusTopic = some "meshcore/VIE/AB12/status" ∧
        s.broker "meshcore/VIE/AB12/status" = some (onlineStatusPayload node))) = true := by
    decide +kernel
  obtain ⟨s, executed, holds⟩ := (Option.any_eq_true _ _).mp ran
  obtain ⟨retired, held⟩ := of_decide_eq_true holds
  refine ⟨s, execute_reaches executed, ?_, _, retired, held⟩
  intro quiet
  exact Option.some_ne_none _ (held.symm.trans (quiet.retired _ retired))

end Meshloom.RetainedStatus
