import Meshloom.Radio.ClockSync
import Meshloom.Warrants

/-! The guards of the clock sync, over any calls one after the other. What a call has learnt is
what it has noted, so that the wraparound is warranted by the entries right before it. -/
namespace Meshloom.ClockSync
open Exchange Program Warrants
variable {buildTime : Option Int} {s t : State}

def rebootKey : Event → Option String
  | .rebooted key => some key
  | _ => none

def wrapKey : Event → Option String
  | .wrapAttempt key => some key
  | _ => none

/-- What is noted right before the radio's clock is set to its end. -/
def WrapWarranted (buildTime : Option Int) (older : List Event) : Prop :=
  ∃ key now radioTime call earlier,
    older = .wrapAttempt key :: .setting true :: .key key :: .read (some radioTime) ::
      .setTime now false :: .clock now :: .called call :: earlier ∧
    key ≠ radioKeyUnknown ∧ .rebooted key ∈ earlier ∧ call.allowWraparound = true ∧
    hostClockFloor buildTime ≤ now ∧ clockWrapMinAhead < radioTime - now ∧
    clockWrapMinAheadOfBuild < radioTime - hostClockFloor buildTime

/-- The last value that was set is a reading of the host clock, and the radio took it. -/
def Accepted (log : List Event) : Prop :=
  ∃ newer now earlier, log = newer ++ .setTime now true :: .clock now :: earlier ∧
    ∀ value accepted, Event.setTime value accepted ∉ newer

def Warrant (buildTime : Option Int) (older : List Event) : Event → Prop
  | .setTime value _ => value = clockWrapTarget → WrapWarranted buildTime older
  | .returned .synced => Accepted older
  | _ => True

structure Invariant (buildTime : Option Int) (s : State) : Prop where
  reboots : s.guards.rebootAttempted = s.log.filterMap rebootKey
  rebootOnce : (s.log.filterMap rebootKey).Nodup
  wraps : s.guards.wrapDone = s.log.filterMap wrapKey
  wrapOnce : (s.log.filterMap wrapKey).Nodup
  warranted : Warranted (Warrant buildTime) s.log

theorem Invariant.note (invariant : Invariant buildTime s) (noReboot : rebootKey event = none)
    (noWrap : wrapKey event = none) (warrant : Warrant buildTime s.log event) :
    Invariant buildTime (s.note event) := by
  have reboots : (event :: s.log).filterMap rebootKey = s.log.filterMap rebootKey :=
    List.filterMap_cons_none noReboot
  have wraps : (event :: s.log).filterMap wrapKey = s.log.filterMap wrapKey :=
    List.filterMap_cons_none noWrap
  exact ⟨invariant.reboots.trans reboots.symm, reboots.symm ▸ invariant.rebootOnce,
    invariant.wraps.trans wraps.symm, wraps.symm ▸ invariant.wrapOnce,
    invariant.warranted.cons warrant⟩

theorem Accepted.cons (accepted : Accepted log) (other : ∀ value took, event ≠ .setTime value took) :
    Accepted (event :: log) := by
  obtain ⟨newer, now, earlier, rfl, none_set⟩ := accepted
  refine ⟨event :: newer, now, earlier, rfl, fun value took member => ?_⟩
  obtain same | old := List.mem_cons.mp member
  · exact other value took same.symm
  · exact none_set value took old

/-! ### The commands -/

/-- A reading of the host clock never is the value that wraps. -/
theorem hostClock_meets (s : State) : Meets (· = s) hostClock
    (Split (fun now t => t = s.note (.clock now) ∧ now ≠ clockWrapTarget) fun _ _ => False) := by
  refine .exchange fun outcome t same => ⟨by rw [same], ?_⟩
  have below := outcome.clock.isLt
  unfold clockWrapTarget
  omega

theorem setTime_meets (value : Int) (s : State) : Meets (· = s) (setTime value)
    (Split (fun took t => t = s.note (.setTime value took))
      fun _ t => t = s.note (.setTime value false)) := by
  refine .exchange fun outcome t same => ?_
  subst same
  cases outcome.reply with
  | ok => rfl
  | error => rfl
  | raised => rfl
  | cancelled => rfl

theorem queryRadioTime_meets (s : State) : Meets (· = s) queryRadioTime
    (Split (fun time t => t = s.note (.read time)) fun _ t => t = s.note (.read none)) := by
  refine .exchange fun outcome t same => ?_
  subst same
  cases outcome.reply with
  | ok => rfl
  | error => rfl
  | raised => rfl
  | cancelled => rfl

theorem Invariant.read (invariant : Invariant buildTime s) (time : Option Int) :
    Invariant buildTime (s.note (.read time)) := invariant.note rfl rfl trivial

theorem Invariant.clock (invariant : Invariant buildTime s) (now : Int) :
    Invariant buildTime (s.note (.clock now)) := invariant.note rfl rfl trivial

theorem Invariant.setTime (invariant : Invariant buildTime s) (different : now ≠ clockWrapTarget)
    (took : Bool) : Invariant buildTime (s.note (.setTime now took)) :=
  invariant.note rfl rfl fun same => absurd same different

theorem queryRadioTime_invariant : Meets (Invariant buildTime) queryRadioTime
    (Split (fun _ => Invariant buildTime) fun _ => Invariant buildTime) := by
  refine .of_each fun s invariant => (queryRadioTime_meets s).split (fun time t same => ?_)
    fun e t same => ?_
  · exact same ▸ invariant.read time
  · exact same ▸ invariant.read none

/-! ### The wraparound -/

theorem pollClockWrap_meets (polls : Nat) : Meets (Invariant buildTime) (pollClockWrap polls)
    (Split (fun _ => Invariant buildTime) fun _ => Invariant buildTime) := by
  induction polls with
  | zero => exact .pure fun s invariant => invariant
  | succ polls ih =>
      refine .bind (fun _ => Invariant buildTime) queryRadioTime_invariant fun time => ?_
      cases time with
      | none => exact ih
      | some wrapped =>
          dsimp only
          split
          · exact .pure fun s invariant => invariant
          · exact ih

theorem waitForClockWrap_meets : Meets (Invariant buildTime) waitForClockWrap
    (Split (fun _ => Invariant buildTime) fun _ => Invariant buildTime) :=
  .bind (fun _ => Invariant buildTime) (.exchange fun _ _ invariant => invariant)
    fun polls => pollClockWrap_meets polls

/-- A clock that is fixed was set last to a reading of the host clock. -/
theorem setAfterWrap_meets : Meets (Invariant buildTime) setAfterWrap
    (Split (fun fixed t => Invariant buildTime t ∧ (fixed = true → Accepted t.log))
      fun _ => Invariant buildTime) := by
  refine .bind (fun _ => Invariant buildTime) waitForClockWrap_meets fun wrapped => ?_
  cases wrapped with
  | none =>
      exact .bind (fun _ => Invariant buildTime) queryRadioTime_invariant
        fun _ => .pure fun s invariant => ⟨invariant, nofun⟩
  | some wrapped =>
      refine .of_each fun s invariant => ?_
      refine .bind _ ((hostClock_meets s).split (fun _ _ ended => ended) fun _ _ => False.elim)
        fun target => .assume fun different => ?_
      have clocked := invariant.clock target
      refine .bind _ ((setTime_meets target (s.note (.clock target))).split
        (fun _ _ ended => ended) fun e t same => same ▸ clocked.setTime different false)
        fun took => ?_
      split
      · rename_i accepted
        subst accepted
        have set := clocked.setTime different true
        have accepted : Accepted ((s.note (.clock target)).note (.setTime target true)).log :=
          ⟨[], target, s.log, rfl, nofun⟩
        refine .bind _ ((queryRadioTime_meets _).split (fun _ _ ended => ended)
          fun e t same => same ▸ set.read none) fun verified => ?_
        cases verified with
        | none => exact .pure fun t same => ⟨same ▸ set.read none, nofun⟩
        | some verified =>
            refine .bind _ ((hostClock_meets _).split (fun _ _ ended => ended)
              fun _ _ => False.elim) fun now => .pure fun t ended => ?_
            rw [ended.1]
            refine ⟨(set.read _).clock now, fun _ => ?_⟩
            exact Accepted.cons (Accepted.cons accepted fun _ _ => nofun) fun _ _ => nofun
      · exact .pure fun t same => ⟨same ▸ clocked.setTime different _, nofun⟩

theorem attemptClockWraparound_meets (radioTime : Int) :
    Meets (fun t => Invariant buildTime t ∧ WrapWarranted buildTime t.log)
      (attemptClockWraparound radioTime)
      (Split (fun fixed t => Invariant buildTime t ∧ (fixed = true → Accepted t.log))
        fun _ => Invariant buildTime) := by
  unfold attemptClockWraparound
  split
  · refine .of_each fun s holds => ?_
    obtain ⟨invariant, warranted⟩ := holds
    have set : ∀ took, Invariant buildTime (s.note (.setTime clockWrapTarget took)) := fun took =>
      invariant.note rfl rfl fun _ => warranted
    refine .bind (fun _ => Invariant buildTime) ((setTime_meets _ s).split
      (fun took t same => same ▸ set took) fun e t same => same ▸ set false) fun took => ?_
    split
    · exact setAfterWrap_meets
    · exact .pure fun t invariant => ⟨invariant, nofun⟩
  · exact setAfterWrap_meets.of_pre fun t holds => holds.1

/-- The result of a call, and what it leaves. -/
def Ended (buildTime : Option Int) (result : Except Raised TimeSyncOutcome) (t : State) : Prop :=
  Invariant buildTime t ∧ (result = .ok .synced → Accepted t.log)

/-- A reading that is not one of the radio's clock warrants nothing. -/
theorem Ended.rejected (invariant : Invariant buildTime t) :
    Ended buildTime (.ok .rejected) t := ⟨invariant, nofun⟩

theorem wraparound_meets (invariant : Invariant buildTime s) (attempted : .rebooted key ∈ earlier)
    (allowed : call.allowWraparound = true) (sane : hostClockFloor buildTime ≤ now)
    (log : s.log = .key key :: .read (some radioTime) :: .setTime now false :: .clock now ::
      .called call :: earlier) :
    Meets (· = s) (wraparound buildTime call key now radioTime) (Ended buildTime) := by
  refine .bind (fun on t => t = s.note (.setting on))
    (.exchange fun outcome t same => by rw [same]; rfl) fun on => ?_
  have set : Invariant buildTime (s.note (.setting on)) := invariant.note rfl rfl trivial
  refine .bind (fun guards t => t = s.note (.setting on) ∧ guards = s.guards)
    (.inspect fun t same => ⟨same, by rw [same]; rfl⟩) fun guards => .assume fun same => ?_
  subst same
  split
  · exact .pure fun t same => .rejected (same ▸ set)
  rename_i permitted
  obtain ⟨on_, permitted⟩ := not_or.mp permitted
  obtain ⟨_, fresh⟩ := not_or.mp permitted
  split
  · exact .pure fun t same => .rejected (same ▸ set)
  rename_i known
  split
  · exact .pure fun t same => .rejected (same ▸ set)
  rename_i ahead
  split
  · exact .pure fun t same => .rejected (same ▸ set)
  rename_i aheadOfBuild
  have on_ : on = true := Bool.eq_true_of_not_eq_false on_
  subst on_
  refine .bind (fun _ t => Invariant buildTime t ∧ WrapWarranted buildTime t.log)
    (.update fun t same => ?_) fun _ => ?_
  · rw [same]
    have freshKey : key ∉ s.log.filterMap wrapKey := invariant.wraps ▸ fresh
    have wraps : key :: s.guards.wrapDone = key :: s.log.filterMap wrapKey :=
      congrArg (key :: ·) invariant.wraps
    refine ⟨⟨set.reboots, set.rebootOnce, wraps, List.nodup_cons.mpr ⟨freshKey, invariant.wrapOnce⟩,
      set.warranted.cons trivial⟩, key, now, radioTime, call, earlier, ?_, known, attempted, allowed,
      sane, not_le.mp ahead, not_le.mp aheadOfBuild⟩
    simp only [State.note, log]
  · refine .bind _ ((attemptClockWraparound_meets radioTime).split (fun _ _ ended => ended)
      fun e t invariant => ⟨invariant, nofun⟩) fun fixed => .pure fun t ended => ?_
    cases fixed with
    | false => exact .rejected ended.1
    | true => exact ⟨ended.1, fun _ => ended.2 rfl⟩

theorem reboot_meets (invariant : Invariant buildTime s) (fresh : key ∉ s.guards.rebootAttempted) :
    Meets (· = s) (reboot key) (Split (fun _ => Invariant buildTime) fun _ => Invariant buildTime) := by
  have freshKey : key ∉ s.log.filterMap rebootKey := invariant.reboots ▸ fresh
  have reboots : key :: s.guards.rebootAttempted = key :: s.log.filterMap rebootKey :=
    congrArg (key :: ·) invariant.reboots
  have recorded : Invariant buildTime
      ({ s with guards.rebootAttempted := key :: s.guards.rebootAttempted }.note (.rebooted key)) :=
    ⟨reboots, List.nodup_cons.mpr ⟨freshKey, invariant.rebootOnce⟩, invariant.wraps,
      invariant.wrapOnce, invariant.warranted.cons trivial⟩
  refine .exchange fun outcome t same => ?_
  subst same
  cases outcome.reply with
  | ok => exact recorded
  | error => exact recorded
  | raised => exact invariant
  | cancelled => exact invariant

theorem recoverClock_meets (invariant : Invariant buildTime s)
    (sane : hostClockFloor buildTime ≤ now)
    (log : s.log = .read radioTime :: .setTime now false :: .clock now :: .called call :: earlier) :
    Meets (· = s) (recoverClock buildTime call now radioTime) (Ended buildTime) := by
  refine .bind (fun key t => t = s.note (.key key))
    (.exchange fun outcome t same => by rw [same]; rfl) fun key => ?_
  have keyed : Invariant buildTime (s.note (.key key)) := invariant.note rfl rfl trivial
  refine .bind (fun guards t => t = s.note (.key key) ∧ guards = s.guards)
    (.inspect fun t same => ⟨same, by rw [same]; rfl⟩) fun guards => .assume fun same => ?_
  subst same
  split
  · rename_i fresh
    refine .bind (fun _ => Invariant buildTime) ((reboot_meets keyed fresh).split
      (fun _ _ invariant => invariant) fun e t invariant => ⟨invariant, nofun⟩) fun sent => ?_
    refine .pure fun t invariant => ⟨invariant, ?_⟩
    cases sent <;> nofun
  · rename_i attempted
    have attempted : key ∈ s.log.filterMap rebootKey := by
      rw [← invariant.reboots]
      exact not_not.mp attempted
    -- None of what this call has noted is a reboot.
    have before : .rebooted key ∈ earlier := by
      rw [log] at attempted
      obtain ⟨event, member, same⟩ := List.mem_filterMap.mp
        (show key ∈ earlier.filterMap rebootKey from attempted)
      cases event with
      | rebooted other =>
          cases same
          exact member
      | _ => contradiction
    cases radioTime with
    | none => exact .pure fun t same => .rejected (same ▸ keyed)
    | some radioTime =>
        dsimp only
        split
        · rename_i allowed
          exact wraparound_meets keyed before allowed sane (congrArg (Event.key key :: ·) log)
        · exact .pure fun t same => .rejected (same ▸ keyed)

theorem syncClock_meets (invariant : Invariant buildTime s) (log : s.log = .called call :: earlier) :
    Meets (· = s) (syncClock buildTime call) (Ended buildTime) := by
  refine .bind _ ((hostClock_meets s).split (fun _ _ ended => ended) fun _ _ => False.elim)
    fun now => .assume fun different => ?_
  have clocked := invariant.clock now
  refine .bind _ ((setTime_meets now (s.note (.clock now))).split (fun _ _ ended => ended)
    fun e t same => ⟨same ▸ clocked.setTime different false, nofun⟩) fun took => ?_
  split
  · rename_i accepted
    subst accepted
    refine .pure fun t same => ?_
    rw [same]
    exact ⟨clocked.setTime different true, fun _ => ⟨[], now, s.log, rfl, nofun⟩⟩
  rename_i refused
  have refused : took = false := Bool.eq_false_of_not_eq_true refused
  subst refused
  have set := clocked.setTime different false
  refine .bind _ ((queryRadioTime_meets _).split (fun _ _ ended => ended)
    fun e t same => ⟨same ▸ set.read none, nofun⟩) fun radioTime => ?_
  have read := set.read radioTime
  split
  · exact .pure fun t same => .rejected (same ▸ read)
  split
  · exact .pure fun t same => .rejected (same ▸ read)
  rename_i sane
  have noted : (((s.note (.clock now)).note (.setTime now false)).note (.read radioTime)).log =
      .read radioTime :: .setTime now false :: .clock now :: .called call :: earlier := by
    simp only [State.note, log]
  exact recoverClock_meets read (not_lt.mp sane) noted

theorem syncRadioTimeOutcome_meets (invariant : Invariant buildTime s)
    (log : s.log = .called call :: earlier) :
    Meets (· = s) (syncRadioTimeOutcome buildTime call) (Ended buildTime) := by
  refine .recover (fun _ => Invariant buildTime)
    ((syncClock_meets invariant log).divide fun _ _ ended => ended.1) fun raised => ?_
  split
  · exact .raise fun t invariant => ⟨invariant, nofun⟩
  · exact .pure fun t invariant => .rejected invariant

theorem serve_meets (call : Call) : Meets (Invariant buildTime) (serve buildTime call)
    fun _ => Invariant buildTime := by
  refine .of_each fun s invariant => ?_
  have called : Invariant buildTime (s.note (.called call)) := invariant.note rfl rfl trivial
  refine .bind (fun _ t => t = s.note (.called call)) (.update fun t same => same ▸ rfl)
    fun _ => ?_
  refine .bind (fun outcome => Ended buildTime (.ok outcome))
    ((syncRadioTimeOutcome_meets called rfl).divide fun _ _ ended => ended.1) fun outcome => ?_
  refine .update fun t ended => ended.1.note rfl rfl ?_
  cases outcome with
  | synced => exact ended.2 rfl
  | rejected => trivial
  | rebooted => trivial

theorem serveAll_meets (calls : List Call) : Meets (Invariant buildTime) (serveAll buildTime calls)
    fun _ => Invariant buildTime := by
  induction calls with
  | nil => exact .pure fun s invariant => invariant
  | cons call rest ih =>
      refine .bind (fun _ => Invariant buildTime) ?_ fun _ => ih
      exact .recover (fun _ => Invariant buildTime)
        ((serve_meets call).divide fun _ _ invariant => invariant)
        fun _ => .pure fun t invariant => invariant

/-- Over any calls one after the other, a radio is rebooted once and its clock is wrapped once,
only with every guard met; what is reported as synced is set. -/
theorem clock_guarded (buildTime : Option Int) (calls : List Call) (outcomes : Nat → Outcome) :
    let log := (process buildTime calls outcomes).log
    (log.filterMap rebootKey).Nodup ∧ (log.filterMap wrapKey).Nodup ∧
      (∀ took older, .setTime clockWrapTarget took :: older <:+ log →
        WrapWarranted buildTime older) ∧
      ∀ older, .returned .synced :: older <:+ log → Accepted older := by
  have initial : Invariant buildTime ⟨⟨[], none, []⟩, []⟩ :=
    ⟨rfl, List.nodup_nil, rfl, List.nodup_nil, .nil⟩
  have invariant : Invariant buildTime (process buildTime calls outcomes) :=
    serveAll_meets calls ⟨_, outcomes, 0⟩ initial
  exact ⟨invariant.rebootOnce, invariant.wrapOnce,
    fun took older suffix => invariant.warranted _ older suffix rfl,
    fun older suffix => invariant.warranted _ older suffix⟩

end Meshloom.ClockSync
