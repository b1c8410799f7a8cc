import Meshloom.Radio.WifiCredentialsProofs
import Meshloom.Radio.WifiStoreMarker

/-! Without its marker, a radio holds a pair that was verified or that it held before, as long as
no store that fails clears the marker of an earlier store that left the radio in between. -/
namespace Meshloom.WifiStoreMarker
open Exchange Program WifiCredentials WifiState Transition
variable {K : Type} [DecidableEq K]

/-- The pair of a verified store, the pair before the first store, or nothing stored. -/
def Settled (first : Radio) (s : Panel K) : Prop :=
  s.session.radio ∈ s.verified ∨ s.session.radio = first ∨ s.session.radio = cleared

/-- The marker of the radio is absent. -/
def Unmarked (publicKey : K) (s : Panel K) : Prop :=
  (s.promptEntry publicKey).storeStartedAt = none

/-- Between stores, a radio without its marker is settled, and no composed state reports stored
credentials for a radio that is not. -/
structure Honest (publicKey : K) (first : Radio) (s : Panel K) : Prop where
  unmarked : Unmarked publicKey s → Settled first s
  composed : ∀ reading now,
    (composeState (s.promptEntry publicKey) (some publicKey) reading now).credentialsStored =
      some true → Settled first s

/-- How the store of a call ends on the radio. -/
def attempt (s : Panel K) (call : StoreCall) : Except Failure WifiStoreOutcome :=
  (storeWifiCredentials call.ssid call.password ⟨s.session, call.outcomes, 1⟩).1

/-- A call is stopped before its store starts, or it starts on a settled pair, or its store does
not take a branch that clears the marker and keeps the pair. -/
def Careful (first : Radio) (s : Panel K) (call : StoreCall) : Prop :=
  (∃ done, call.outcomes 0 = .cancelled done) ∨ Settled first s ∨
    ∀ failure, attempt s call = .error failure → failure = .wifiStorePartial ∨
      failure = .cancelled ∨ failure = .wifiStoreUnverified ∧ ¬ NetworkStored s.session.radio

/-- The state before the first store. -/
def start (session : Session) (promptState : Dict K PromptEntry) : Panel K :=
  ⟨session, promptState, []⟩

section Store

instance countsRefl : Std.Refl (fun s t : Session => s.sets ≤ t.sets) := ⟨fun _ => Nat.le_refl _⟩

instance countsTrans : IsTrans Session (fun s t : Session => s.sets ≤ t.sets) :=
  ⟨fun _ _ _ => Nat.le_trans⟩

theorem get_counts (answer : Radio → Text) :
    Respects (fun s t : Session => s.sets ≤ t.sets) (get answer) := by
  refine .exchange fun outcome s => ?_
  cases outcome <;> exact Nat.le_refl _

theorem setChecked_counts (change : Radio → Radio) :
    Respects (fun s t : Session => s.sets ≤ t.sets) (setChecked change) := by
  refine .exchange fun outcome s => ?_
  cases outcome with
  | cancelled done => cases done <;> exact Nat.le_succ _
  | _ => exact Nat.le_succ _

theorem wifiSsid_counts : Respects (fun s t : Session => s.sets ≤ t.sets) wifiSsid :=
  (get_counts ssidText).bind fun _ => .pure _

theorem setAndVerify_counts (ssid newPwd : Text) :
    Respects (fun s t : Session => s.sets ≤ t.sets) (setAndVerify ssid newPwd) := by
  refine (setChecked_counts _).bind fun _ => ?_
  refine ((setChecked_counts _).recover fun failure => ?_).bind fun _ => ?_
  · split
    · exact setChecked_counts _
    · exact .raise _
  refine wifiSsid_counts.bind fun storedSsid => (get_counts _).bind fun storedPwd => ?_
  split
  · exact .pure _
  · exact .raise _

theorem rollbackWifi_counts (previousSsid : Option Text) (previousPwd : Text) :
    Respects (fun s t : Session => s.sets ≤ t.sets) (rollbackWifi previousSsid previousPwd) := by
  unfold rollbackWifi
  split
  · exact (setChecked_counts _).bind fun _ => setChecked_counts _
  · exact setChecked_counts _

/-- A store only adds to the sets. -/
theorem storeWifiCredentials_counts (ssid password : Text) :
    Respects (fun s t : Session => s.sets ≤ t.sets) (storeWifiCredentials ssid password) := by
  have validated : ∀ (c : Prop) [Decidable c] (program : Cli Text) (failure : Failure),
      Respects (fun s t : Session => s.sets ≤ t.sets) program →
      Respects (fun s t : Session => s.sets ≤ t.sets) (if c then raise failure else program) := by
    intro c _ program failure counts
    split
    · exact .raise _
    · exact counts
  refine (validated _ _ _ (validated _ _ _ (validated _ _ _ (.pure _)))).bind fun ssid => ?_
  refine (validated _ _ _ (validated _ _ _ (.pure _))).bind fun newPwd => ?_
  refine wifiSsid_counts.bind fun previousSsid => (get_counts _).bind fun previousPwd => ?_
  refine ((setAndVerify_counts ssid newPwd).recover fun failure => ?_).bind fun _ => .pure _
  split
  · exact .raise _
  · refine ((rollbackWifi_counts previousSsid previousPwd).recover fun failure => ?_).bind
      fun _ => .raise _
    split
    · exact .raise _
    · exact .raise _

/-- A store that fails and does not report why the radio changed has left it alone. -/
theorem store_untouched (ssid password : Text) (w : World Session Outcome) {failure : Failure}
    (failed : (storeWifiCredentials ssid password w).1 = .error failure)
    (silent : failure ≠ .wifiStoreUnverified ∧ failure ≠ .wifiStorePartial ∧
      failure ≠ .cancelled) :
    (storeWifiCredentials ssid password w).2.state = w.state := by
  have reported := storeWifiCredentials_meets ssid password w.state w rfl
  have counts := storeWifiCredentials_counts ssid password w
  by_contra changed
  have more : w.state.sets < (storeWifiCredentials ssid password w).2.state.sets :=
    Nat.lt_of_le_of_ne counts fun same => changed (reported.untouched same.symm)
  obtain named | named | named := reported.named failure failed more
  · exact silent.1 named
  · exact silent.2.1 named
  · exact silent.2.2 named

end Store

section Column

/-- The writes of the column leave the radio alone. -/
def SameRadio (s t : Panel K) : Prop := t.session = s.session ∧ t.verified = s.verified

instance sameRadioRefl : Std.Refl (SameRadio (K := K)) := ⟨fun _ => ⟨rfl, rfl⟩⟩

instance sameRadioTrans : IsTrans (Panel K) SameRadio :=
  ⟨fun _ _ _ first second => ⟨second.1.trans first.1, second.2.trans first.2⟩⟩

omit [DecidableEq K] in
theorem write_sameRadio (change : Dict K PromptEntry → Dict K PromptEntry) :
    Respects SameRadio (write change) := by
  refine .exchange fun outcome s => ?_
  cases outcome with
  | cancelled done => cases done <;> exact ⟨rfl, rfl⟩
  | _ => exact ⟨rfl, rfl⟩

omit [DecidableEq K] in
theorem write_cancelled (change : Dict K PromptEntry → Dict K PromptEntry)
    {w : World (Panel K) Outcome} (outcome : w.outcomes w.next = .cancelled done) :
    write change w = (.error .cancelled, ⟨if done then
      { w.state with promptState := change w.state.promptState } else w.state, w.outcomes,
      w.next + 1⟩) := by
  rw [write, run_exchange, outcome]

omit [DecidableEq K] in
theorem write_done (change : Dict K PromptEntry → Dict K PromptEntry)
    {w : World (Panel K) Outcome} (runs : ∀ done, w.outcomes w.next ≠ .cancelled done) :
    write change w = (.ok (), ⟨{ w.state with promptState := change w.state.promptState },
      w.outcomes, w.next + 1⟩) := by
  rw [write, run_exchange]
  cases outcome : w.outcomes w.next with
  | cancelled done => exact (runs done outcome).elim
  | answered | lost | refused _ => rfl

theorem wifiPromptRemove_sameRadio (publicKey : K) (names : PromptEntry → PromptEntry) :
    Respects SameRadio (wifiPromptRemove publicKey names) :=
  write_sameRadio _

omit [DecidableEq K] in
theorem SameRadio.settled {s t : Panel K} (same : SameRadio s t) (settled : Settled first s) :
    Settled first t := by
  rw [Settled, same.1, same.2]
  exact settled

theorem recordOpenNetwork_sameRadio (publicKey : K) (ssid : Text) (openNetwork : Bool)
    (now : Int) : Respects SameRadio (recordOpenNetwork publicKey ssid openNetwork now) := by
  unfold recordOpenNetwork
  split
  · exact write_sameRadio _
  · exact wifiPromptRemove_sameRadio publicKey _

/-- What follows a verified store leaves the radio alone. -/
theorem finish_sameRadio (publicKey : K) (ssid : Text) (openNetwork : Bool) (now : Int)
    (outcome : WifiStoreOutcome) : Respects SameRadio (do
      clearWifiStoreMarker publicKey
      recordOpenNetwork publicKey ssid openNetwork now
      return outcome : Service K WifiStoreOutcome) :=
  (wifiPromptRemove_sameRadio publicKey _).bind fun _ =>
    (recordOpenNetwork_sameRadio publicKey ssid openNetwork now).bind fun _ => .pure _

omit [DecidableEq K] in
/-- A program followed by an error raises, and has done what the program did. -/
theorem run_raises (program : Service K Unit) (failure : Failure) (w : World (Panel K) Outcome) :
    ∃ raised, (do program; raise failure : Service K WifiStoreOutcome) w =
      (.error raised, (program w).2) := by
  cases ran : program w with
  | mk result after =>
      cases result with
      | ok => exact ⟨failure, run_bind_ok ran⟩
      | error e => exact ⟨e, run_bind_error ran⟩

/-- The handler of a failed store raises. It leaves the radio alone, and the marker too after a
cancellation or a partial store. -/
theorem storeFailed_raises (publicKey : K) (failure : Failure) (w : World (Panel K) Outcome) :
    ∃ raised after, storeFailed publicKey failure w = (.error raised, after) ∧
      SameRadio w.state after.state ∧
      (failure = .cancelled ∨ failure = .wifiStorePartial → after.state = w.state) := by
  rw [storeFailed]
  split
  · exact ⟨failure, w, rfl, ⟨rfl, rfl⟩, fun _ => rfl⟩
  split
  · obtain ⟨raised, ran⟩ := run_raises (K := K) read failure w
    have unchanged : (read w).2.state = w.state := by
      rw [read, run_exchange]
      cases w.outcomes w.next <;> rfl
    refine ⟨raised, _, ran, ?_, fun _ => unchanged⟩
    rw [unchanged]
    exact ⟨rfl, rfl⟩
  · rename_i running whole
    obtain ⟨raised, ran⟩ := run_raises (clearWifiStoreMarker publicKey) failure w
    exact ⟨raised, _, ran, wifiPromptRemove_sameRadio publicKey _ w,
      fun kept => (kept.elim running whole).elim⟩

end Column

section Run
variable {publicKey : K} {s t : Panel K} {call : StoreCall} {first : Radio}

/-- The column once the marker of a call is written. -/
def marked (publicKey : K) (s : Panel K) (call : StoreCall) : Panel K :=
  { s with promptState := s.promptState.set publicKey { s.promptEntry publicKey with
      storeStartedAt := some call.now
      storeTargetSsid := some call.ssid } }

theorem marked_unmarked (publicKey : K) (s : Panel K) (call : StoreCall) :
    ¬ Unmarked publicKey (marked publicKey s call) := by
  rw [Unmarked, Panel.promptEntry, marked, Dict.get?_set, if_pos rfl]
  exact Option.some_ne_none _

/-- The marker of a call is written, or the call is cancelled at it. -/
theorem mark_run (publicKey : K) (s : Panel K) (call : StoreCall) :
    (∃ done, call.outcomes 0 = .cancelled done ∧
      markWifiStoreStarted publicKey call.ssid call.now ⟨s, call.outcomes, 0⟩ =
        (.error .cancelled, ⟨if done then marked publicKey s call else s, call.outcomes, 1⟩)) ∨
    (∀ done, call.outcomes 0 ≠ .cancelled done) ∧
      markWifiStoreStarted publicKey call.ssid call.now ⟨s, call.outcomes, 0⟩ =
        (.ok (), ⟨marked publicKey s call, call.outcomes, 1⟩) := by
  let begin_ : Dict K PromptEntry → Dict K PromptEntry := fun column =>
    column.set publicKey { (column.get? publicKey).getD .empty with
      storeStartedAt := some call.now
      storeTargetSsid := some call.ssid }
  by_cases stopped : ∃ done, call.outcomes 0 = .cancelled done
  · obtain ⟨done, outcome⟩ := stopped
    exact .inl ⟨done, outcome, write_cancelled (w := ⟨s, call.outcomes, 0⟩) begin_ outcome⟩
  · have runs : ∀ done, call.outcomes 0 ≠ .cancelled done := fun done outcome =>
      stopped ⟨done, outcome⟩
    exact .inr ⟨runs, write_done (w := ⟨s, call.outcomes, 0⟩) begin_ runs⟩

/-- The store of a call on the radio, once its marker is written. -/
theorem within_run (publicKey : K) (ran : storeWifiCredentials call.ssid call.password
      ⟨s.session, call.outcomes, 1⟩ = (result, after)) :
    within Panel.session (fun (s : Panel K) session => { s with session })
      (storeWifiCredentials call.ssid call.password) ⟨marked publicKey s call, call.outcomes, 1⟩ =
      (result, ⟨{ marked publicKey s call with session := after.state }, after.outcomes,
        after.next⟩) := by
  have part : storeWifiCredentials call.ssid call.password
      ⟨(marked publicKey s call).session, call.outcomes, 1⟩ = (result, after) := ran
  simp only [within, part]

/-- What a call leaves: it was cancelled before its store, or its store was verified, or its store
failed. After the marker is written only the store changes the radio. -/
theorem step_cases (stepped : step publicKey s call = some t) :
    ((∃ done, call.outcomes 0 = .cancelled done) ∧ (t = s ∨ t = marked publicKey s call)) ∨
    (∃ outcome after, storeWifiCredentials call.ssid call.password
        ⟨s.session, call.outcomes, 1⟩ = (.ok outcome, after) ∧
      SameRadio { marked publicKey s call with
        session := after.state
        verified := ⟨some call.ssid, call.password⟩ :: s.verified } t) ∨
    (∃ failure after, storeWifiCredentials call.ssid call.password
        ⟨s.session, call.outcomes, 1⟩ = (.error failure, after) ∧
      (∀ done, call.outcomes 0 ≠ .cancelled done) ∧
      SameRadio { marked publicKey s call with session := after.state } t ∧
      (failure = .cancelled ∨ failure = .wifiStorePartial →
        t = { marked publicKey s call with session := after.state })) := by
  cases stepped
  obtain ⟨done, outcome, stopped⟩ | ⟨runs, begun⟩ := mark_run publicKey s call
  · have ended : storeWithMarker (some publicKey) call.ssid call.password call.openNetwork call.now
        ⟨s, call.outcomes, 0⟩ = _ := run_bind_error stopped
    rw [ended]
    refine .inl ⟨⟨done, outcome⟩, ?_⟩
    cases done with
    | false => exact .inl rfl
    | true => exact .inr rfl
  have rest : storeWithMarker (some publicKey) call.ssid call.password call.openNetwork call.now
      ⟨s, call.outcomes, 0⟩ = _ := run_bind_ok begun
  rw [rest]
  cases ran : storeWifiCredentials call.ssid call.password ⟨s.session, call.outcomes, 1⟩ with
  | mk result after =>
  have part := within_run publicKey ran
  cases result with
  | ok outcome =>
      refine .inr (.inl ⟨outcome, after, rfl, ?_⟩)
      have stored : storeOnRadio call.ssid call.password
          ⟨marked publicKey s call, call.outcomes, 1⟩ = (.ok outcome, _) := run_bind_ok part
      rw [run_bind_ok (run_recover_ok stored)]
      exact finish_sameRadio publicKey call.ssid call.openNetwork call.now outcome _
  | error failure =>
      have stored : storeOnRadio call.ssid call.password
          ⟨marked publicKey s call, call.outcomes, 1⟩ = (.error failure, _) := run_bind_error part
      obtain ⟨raised, last, failed, same, kept⟩ := storeFailed_raises publicKey failure
        ⟨{ marked publicKey s call with session := after.state }, after.outcomes, after.next⟩
      have handled : recover (storeOnRadio call.ssid call.password) (storeFailed publicKey)
          ⟨marked publicKey s call, call.outcomes, 1⟩ = (.error raised, last) :=
        (run_recover_error stored).trans failed
      rw [run_bind_error handled]
      exact .inr (.inr ⟨failure, after, rfl, runs, same, kept⟩)

/-- A careful call leaves an unmarked radio settled. -/
theorem step_unmarked (careful : Careful first s call)
    (before : Unmarked publicKey s → Settled first s)
    (stepped : step publicKey s call = some t) (absent : Unmarked publicKey t) :
    Settled first t := by
  obtain ⟨stopped, rfl | rfl⟩ | ⟨outcome, after, ran, same⟩ | ⟨failure, after, ran, runs, same, kept⟩ :=
    step_cases stepped
  · exact before absent
  · exact (marked_unmarked publicKey s call absent).elim
  · have reported := storeWifiCredentials_meets call.ssid call.password s.session
      ⟨s.session, call.outcomes, 1⟩ rfl
    rw [ran] at reported
    refine same.settled (.inl ?_)
    rw [reported.stored outcome rfl]
    exact List.mem_cons_self
  · have failed : attempt s call = .error failure := congrArg Prod.fst ran
    have state : (storeWifiCredentials call.ssid call.password
        ⟨s.session, call.outcomes, 1⟩).2 = after := congrArg Prod.snd ran
    -- The marker is still there after a partial store or a cancellation.
    by_cases marker : failure = .cancelled ∨ failure = .wifiStorePartial
    · rw [kept marker] at absent
      exact (marked_unmarked publicKey s call absent).elim
    rw [not_or] at marker
    by_cases rolledBack : failure = .wifiStoreUnverified
    · subst failure
      have reported := storeWifiCredentials_meets call.ssid call.password s.session
        ⟨s.session, call.outcomes, 1⟩ rfl
      rw [ran] at reported
      by_cases stored : NetworkStored s.session.radio
      · have back : after.state.radio = s.session.radio :=
          (reported.rolledBack rfl).trans (restored_stored stored)
        obtain ⟨done, stopped⟩ | settled | branch := careful
        · exact (runs done stopped).elim
        · refine same.settled ?_
          rw [Settled, back]
          exact settled
        · obtain incomplete | stopped | ⟨-, absent⟩ := branch _ failed
          · exact (marker.2 incomplete).elim
          · exact (marker.1 stopped).elim
          · exact (absent stored).elim
      · have back : after.state.radio = cleared :=
          (reported.rolledBack rfl).trans (restored_absent stored)
        exact same.settled (.inr (.inr back))
    · have untouched := store_untouched call.ssid call.password ⟨s.session, call.outcomes, 1⟩
        failed ⟨rolledBack, marker.2, marker.1⟩
      rw [state] at untouched
      obtain ⟨done, stopped⟩ | settled | branch := careful
      · exact (runs done stopped).elim
      · refine same.settled ?_
        rw [Settled, untouched]
        exact settled
      · obtain incomplete | stopped | ⟨unverified, -⟩ := branch failure failed
        · exact (marker.2 incomplete).elim
        · exact (marker.1 stopped).elim
        · exact (rolledBack unverified).elim

/-- In every run of careful calls, a radio without its marker is settled between them. -/
theorem run_honest (publicKey : K) (session : Session) (promptState : Dict K PromptEntry)
    (run : Reaches (step publicKey) (Careful session.radio) (start session promptState) s) :
    Honest publicKey session.radio s := by
  have unmarked : Unmarked publicKey s → Settled session.radio s :=
    run.invariant (fun before careful stepped => step_unmarked careful before stepped)
      fun _ => .inr (.inl rfl)
  exact ⟨unmarked, fun _ _ reported => unmarked (composeState_stored reported)⟩

end Run

section Runs

/-- A radio that holds a network. -/
def homeRadio : Session := ⟨⟨some ['h', 'o', 'm', 'e'], ['o', 'l', 'd']⟩, 0⟩

/-- A store of another network whose `n`-th exchange and all after it time out. The first is the
write of the marker, then come the two reads. -/
def cutCall (n : Nat) : StoreCall :=
  ⟨['n', 'e', 't'], ['n', 'e', 'w'], false, 0,
    fun i => if i < n then .answered else .refused .timeout⟩

/-- A store that is cut off is repeated: the radio ends up with the new pair and no marker. -/
theorem repeated_honest : ∃ s : Panel Nat,
    execute (step 0) (start homeRadio Dict.empty) [cutCall 4, cutCall 10] = some s ∧
    Unmarked 0 s ∧ s.session.radio = ⟨some ['n', 'e', 't'], ['n', 'e', 'w']⟩ ∧
    Honest 0 homeRadio.radio s := by
  have first : Careful homeRadio.radio (start (K := Nat) homeRadio Dict.empty) (cutCall 4) :=
    .inr (.inl (.inr (.inl rfl)))
  refine ⟨_, rfl, rfl, rfl, run_honest 0 homeRadio Dict.empty
    (.next (.next (.refl _) first rfl) (.inr (.inr ?_)) rfl)⟩
  rintro failure ⟨⟩

/-- The link drops between the SSID and the password, and again at the first read of the next
store: the radio holds the new SSID with the old password, without a marker. -/
theorem cut_twice : ∃ s : Panel Nat,
    execute (step 0) (start homeRadio Dict.empty) [cutCall 4, cutCall 1] = some s ∧
    (composeState (s.promptEntry 0) (some 0) ⟨some ['n', 'e', 't'], true, true, none, some true,
      false⟩ 0).credentialsStored = some true ∧ ¬ Honest 0 homeRadio.radio s := by
  refine ⟨_, rfl, rfl, fun honest => ?_⟩
  have settled := honest.unmarked rfl
  revert settled
  unfold Settled
  decide

end Runs

end Meshloom.WifiStoreMarker
