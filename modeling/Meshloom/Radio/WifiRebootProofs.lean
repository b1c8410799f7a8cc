import Meshloom.Radio.WifiReboot
import Meshloom.Transition

/-! A pending Wi-Fi reboot stays in the cached state as long as no read comes back without the Wi-Fi
of the radio while a change waits for its reboot, no such change goes unanswered, and no reboot that
was asked for fails. -/
namespace Meshloom.WifiReboot
open Exchange Program WifiCredentials WifiStoreMarker WifiState Transition
variable {K : Type} [DecidableEq K]

/-- A read brings the Wi-Fi of the radio, or raises and leaves the cached state alone. -/
def informs : Except Failure (RadioWifiState K × Option Bool) → Bool
  | .ok (state, _) => decide (state.supported = some true)
  | .error _ => true

def brings (result : Except Failure (RadioWifiState K × Option Bool)) : Bool :=
  result.isOk && informs result

/-- The read of a full check. -/
def checkRead (s : Wifi K) (call : Call K) : Except Failure (RadioWifiState K × Option Bool) :=
  (checkedRead s.connectedKey true none s.pending call.now ⟨s, call.replies, 0⟩).1

/-- The calls that do not lose a pending reboot. -/
def Remembers (s : Wifi K) (call : Call K) : Prop :=
  match call.operation with
  | .credentials _ _ _ reboot rebootFails => reboot = true → rebootFails = none
  | .setEnabled _ enabled reboot setFate rebootFails =>
    s.enabled ≠ enabled → readSsid (ssidText s.panel.session.radio) ≠ none →
      setFate ≠ .lost ∧ (reboot = true → rebootFails = none)
  | .fullCheck _ => s.owed = true → informs (checkRead s call) = true
  | .refresh =>
    s.owed = true →
      (refreshKind s.entry = .full → informs (checkRead s call) = true) ∧
        (refreshKind s.entry = .read → informs (refreshRead call.now ⟨s, call.replies, 0⟩).1 = true)
  | .afterRestore credentialsStored rebootPending =>
    let read := (restoreRead credentialsStored rebootPending call.now
      ⟨{ s with owed := s.owed || rebootPending }, call.replies, 0⟩).1
    (s.owed = true → informs read = true) ∧ (rebootPending = true → brings read = true)
  | .storeIncomplete _ _ | .linkRecheck | .rebootForWifiConfig _ => True

/-- While a change is without its reboot, the cached state and every state that was written with the
radio's Wi-Fi say so. -/
structure Remembered (s : Wifi K) : Prop where
  flagged : s.owed = true → s.pending = true
  kept : ∀ write ∈ s.written, write.owed = true → write.state.check = .done →
    write.state.supported = some true → write.state.rebootPending = true

section Same

omit [DecidableEq K] in
theorem ask_same (answer : Reply → Wifi K → α) : Respects (· = ·) (ask answer) := by
  refine .exchange fun reply s => ?_
  split
  · rfl
  · rfl
  · rfl

omit [DecidableEq K] in
theorem ask_meets (answer : Wifi K → α) (s : Wifi K) :
    Meets (· = s) (ask fun _ => answer) (Split (fun a t => t = s ∧ a = answer s) fun _ t => t = s) := by
  refine .exchange fun reply t same => ?_
  split
  · exact ⟨same, congrArg answer same⟩
  · exact same
  · exact same

omit [DecidableEq K] in
/-- A program that changes nothing. -/
theorem same_meets {program : Cli K α} (same : Respects (· = ·) program) (s : Wifi K) :
    Meets (· = s) program (Split (fun _ t => t = s) fun _ t => t = s) :=
  same.meets fun _ _ before after => after.symm.trans before

omit [DecidableEq K] in
theorem requireWifi_same : Respects (· = ·) (requireWifi (K := K)) := by
  refine (ask_same _).bind fun caps => ?_
  split
  · exact .raise _
  · split
    · exact .raise _
    · exact .pure _

omit [DecidableEq K] in
theorem wifiLinkStatus_same : Respects (· = ·) (wifiLinkStatus (K := K)) :=
  (ask_same _).bind fun _ => (ask_same _).bind fun _ => .pure _

omit [DecidableEq K] in
theorem readReading_same (readPassword : Bool) (raw : Option Bool) (pending : Bool) :
    Respects (· = ·) (readReading (K := K) readPassword raw pending) := by
  refine Respects.recover ?_ fun failure => ?_
  · refine (ask_same _).bind fun ssid => (ask_same _).bind fun enabled =>
      wifiLinkStatus_same.bind fun status => ?_
    dsimp only
    split
    · exact (ask_same _).bind fun _ => .pure _
    · exact .pure _
  · split
    · exact .pure _
    · exact .pure _
    · exact .raise _

theorem readWifiState_same (publicKey : Option K) (readPassword : Bool) (raw : Option Bool)
    (pending : Bool) (now : Int) :
    Respects (· = ·) (readWifiState publicKey readPassword raw pending now) := by
  refine (ask_same _).bind fun caps => ?_
  split
  · split
    · exact .pure _
    · exact .pure _
  · split
    · exact .pure _
    · refine (readReading_same _ _ _).bind fun found => ?_
      cases found with
      | error reason => exact .pure _
      | ok reading => exact (Respects.inspect _).bind fun _ => .pure _

theorem checkedRead_same (publicKey : Option K) (readPassword : Bool) (raw : Option Bool)
    (pending : Bool) (now : Int) :
    Respects (· = ·) (checkedRead publicKey readPassword raw pending now) := by
  refine (readWifiState_same _ _ _ _ _).recover fun failure => ?_
  unfold failedRead
  split
  all_goals first | exact .pure _ | exact .raise _

end Same

section Read

/-- A state with the radio's Wi-Fi has the flag that its read was given. -/
def Hands (pending : Bool) (read : RadioWifiState K × Option Bool) : Prop :=
  read.1.supported = some true → read.1.rebootPending = pending

omit [DecidableEq K] in
theorem readReading_hands (readPassword : Bool) (raw : Option Bool) (pending : Bool) :
    Returns (fun found => ∀ reading, found = .ok reading → reading.rebootPending = pending)
      (readReading (K := K) readPassword raw pending) := by
  have read : ∀ {reading : Reading}, reading.rebootPending = pending →
      Returns (fun found => ∀ reading, found = .ok reading → reading.rebootPending = pending)
        (pure (.ok reading) : Cli K (Except UnsupportedReason Reading)) := by
    intro reading flag
    refine .pure fun other same => ?_
    cases same
    exact flag
  have reasoned : ∀ reason, Returns (fun found => ∀ reading, found = .ok reading →
      reading.rebootPending = pending) (pure (.error reason) : Cli K (Except UnsupportedReason Reading)) := by
    refine fun reason => .pure fun other same => ?_
    cases same
  refine Returns.recover ?_ fun failure => ?_
  · refine .bind fun ssid => .bind fun enabled => .bind fun status => ?_
    dsimp only
    split
    · exact .bind fun _ => read rfl
    · exact read rfl
  · split
    · exact reasoned _
    · exact reasoned _
    · exact .raise _

theorem readWifiState_hands (publicKey : Option K) (readPassword : Bool) (raw : Option Bool)
    (pending : Bool) (now : Int) :
    Returns (Hands pending) (readWifiState publicKey readPassword raw pending now) := by
  have failed : ∀ error nextRetryAt, Hands pending (failedState error publicKey nextRetryAt now, none) := by
    intro error nextRetryAt supported
    cases supported
  have unsupported : ∀ reason, Hands pending (unsupportedState reason publicKey now, none) := by
    intro reason supported
    cases supported
  refine .bind fun caps => ?_
  split
  · split
    · exact .pure (failed _ _)
    · exact .pure (unsupported _)
  · split
    · exact .pure (unsupported _)
    · refine (readReading_hands _ _ _).chain fun found flagged => ?_
      cases found with
      | error reason => exact .pure (unsupported _)
      | ok reading => exact .bind fun _ => .pure fun _ => flagged reading rfl

theorem checkedRead_hands (publicKey : Option K) (readPassword : Bool) (raw : Option Bool)
    (pending : Bool) (now : Int) :
    Returns (Hands pending) (checkedRead publicKey readPassword raw pending now) := by
  have failed : ∀ error, Hands pending (failedState error publicKey none now, none) := by
    intro error supported
    cases supported
  refine (readWifiState_hands _ _ _ _ _).recover fun failure => ?_
  unfold failedRead
  split
  all_goals first | exact .pure (failed _) | exact .raise _

end Read

section Write
variable {s : Wifi K} {state : RadioWifiState K}

/-- A state that is written with the flag, if a change is without its reboot. -/
theorem Remembered.writeCache (kept : ∀ write ∈ s.written, write.owed = true →
      write.state.check = .done → write.state.supported = some true → write.state.rebootPending = true)
    (flag : s.owed = true → state.rebootPending = true) (raw : Option Bool) :
    Remembered (s.writeCache state raw) where
  flagged owed := flag owed
  kept write member := by
    rcases List.mem_cons.mp member with rfl | member
    · exact fun owed _ _ => flag owed
    · exact kept write member

omit [DecidableEq K] in
theorem Remembered.of_written {t : Wifi K} (remembered : Remembered s) (entry : t.entry = s.entry)
    (owed : t.owed = s.owed) (written : t.written = s.written) : Remembered t where
  flagged still := by
    rw [Wifi.pending, entry]
    exact remembered.flagged (owed ▸ still)
  kept := written ▸ remembered.kept

/-- A read, and the write of the state that it brings. -/
theorem read_write_remembered {read : Cli K (RadioWifiState K × Option Bool)}
    (same : Respects (· = ·) read) (change : RadioWifiState K → RadioWifiState K)
    {w : World (Wifi K) Reply} (kept : ∀ write ∈ w.state.written, write.owed = true →
      write.state.check = .done → write.state.supported = some true → write.state.rebootPending = true)
    (raised : ∀ failure, (read w).1 = .error failure → Remembered w.state)
    (flag : ∀ state raw, (read w).1 = .ok (state, raw) → w.state.owed = true →
      (change state).rebootPending = true) :
    Remembered ((do
      let (state, raw) ← read
      update (·.writeCache (change state) raw) : Cli K Unit) w).2.state := by
  have unchanged := same w
  cases ran : read w with
  | mk result after =>
      rw [ran] at unchanged raised flag
      cases result with
      | error failure =>
          rw [run_bind_error ran]
          exact unchanged ▸ raised failure rfl
      | ok found =>
          obtain ⟨state, raw⟩ := found
          rw [run_bind_ok ran]
          refine Remembered.writeCache ?_ ?_ raw
          · exact unchanged ▸ kept
          · exact unchanged ▸ flag state raw rfl

end Write

section Operations
variable {s : Wifi K}

omit [DecidableEq K] in
/-- What is read with the flag of the cached state is written with it. -/
theorem informs_flag {result : Except Failure (RadioWifiState K × Option Bool)} {pending : Bool}
    {state : RadioWifiState K} {raw : Option Bool} (read : result = .ok (state, raw))
    (hands : Hands pending (state, raw)) (informed : informs result = true) (flag : pending = true) :
    state.rebootPending = true := by
  subst read
  exact (hands (of_decide_eq_true informed)).trans flag

theorem fullCheck_remembered (remembered : Remembered s) (nextRetryAt : Option Int) (call : Call K)
    (informed : s.owed = true → informs (checkRead s call) = true) :
    Remembered (runFullWifiCheck nextRetryAt call.now ⟨s, call.replies, 0⟩).2.state := by
  have same := checkedRead_same s.connectedKey true none s.pending call.now
  have hands := checkedRead_hands s.connectedKey true none s.pending call.now
  refine read_write_remembered same
    (fun state => if state.check = .failed then { state with nextRetryAt } else state)
    (w := ⟨s, call.replies, 0⟩) remembered.kept (fun _ _ => remembered) fun state raw read owed => ?_
  have flag := informs_flag read (hands.ok read) (informed owed) (remembered.flagged owed)
  split
  · exact flag
  · exact flag

theorem refresh_remembered (remembered : Remembered s) (call : Call K)
    (informed : s.owed = true →
      (refreshKind s.entry = .full → informs (checkRead s call) = true) ∧
        (refreshKind s.entry = .read → informs (refreshRead call.now ⟨s, call.replies, 0⟩).1 = true)) :
    Remembered (refreshWifiState call.now ⟨s, call.replies, 0⟩).2.state := by
  have ran : refreshWifiState call.now ⟨s, call.replies, 0⟩ =
      refreshBy call.now (refreshKind s.entry) ⟨s, call.replies, 0⟩ := rfl
  rw [ran]
  cases kind : refreshKind s.entry with
  | kept => exact remembered
  | full => exact fullCheck_remembered remembered none call fun owed => (informed owed).1 kind
  | read =>
      have same : Respects (· = ·) (refreshRead (K := K) call.now) :=
        (Respects.inspect _).bind fun _ => (Respects.inspect _).bind fun _ =>
          (Respects.inspect _).bind fun _ => readWifiState_same _ _ _ _ _
      refine read_write_remembered same id remembered.kept (fun _ _ => remembered)
        fun state raw read owed => ?_
      -- The read starts in the state that its flag is taken from.
      have hands := readWifiState_hands s.connectedKey (s.entry.bind (·.rawPasswordStored)).isNone
        (s.entry.bind (·.rawPasswordStored)) s.pending call.now
      exact informs_flag read (hands.ok read) ((informed owed).2 kind) (remembered.flagged owed)

theorem afterRestore_remembered (remembered : Remembered s) (credentialsStored : Option Bool)
    (rebootPending : Bool) (call : Call K)
    (informed : s.owed = true → informs (restoreRead credentialsStored rebootPending call.now
      ⟨{ s with owed := s.owed || rebootPending }, call.replies, 0⟩).1 = true)
    (brought : rebootPending = true → brings (restoreRead credentialsStored rebootPending call.now
      ⟨{ s with owed := s.owed || rebootPending }, call.replies, 0⟩).1 = true) :
    Remembered (refreshAfterRestore credentialsStored rebootPending call.now
      ⟨s, call.replies, 0⟩).2.state := by
  have same : Respects (· = ·) (restoreRead (K := K) credentialsStored rebootPending call.now) :=
    (Respects.inspect _).bind fun _ => (Respects.inspect _).bind fun _ =>
      (Respects.inspect _).bind fun _ => checkedRead_same _ _ _ _ _
  refine read_write_remembered same id
    (w := ⟨{ s with owed := s.owed || rebootPending }, call.replies, 0⟩) remembered.kept
    (fun failure raised => ?_) fun state raw read owed => ?_
  · cases rebootPending with
    | true =>
        have ok := brought rfl
        rw [raised] at ok
        cases ok
    | false => exact remembered.of_written rfl (Bool.or_false s.owed) rfl
  · have hands := checkedRead_hands s.connectedKey
      (credentialsStored.or (s.entry.bind (·.rawPasswordStored))).isNone
      (credentialsStored.or (s.entry.bind (·.rawPasswordStored))) (rebootPending || s.pending) call.now
    rcases Bool.or_eq_true_iff.mp owed with before | now_
    · refine informs_flag read (hands.ok read) (informed before) ?_
      rw [remembered.flagged before, Bool.or_true]
    · refine informs_flag read (hands.ok read) ?_ ?_
      · exact (Bool.and_eq_true_iff.mp (brought now_)).2
      · rw [now_, Bool.true_or]

theorem noteStoreIncomplete_remembered (publicKey : K) (ssid : Text) :
    Meets Remembered (noteStoreIncomplete publicKey ssid) (Split (fun _ => Remembered) fun _ => Remembered) := by
  refine .update fun s remembered => ?_
  cases cached : s.entry with
  | none => exact remembered
  | some entry =>
      refine Remembered.writeCache remembered.kept (fun owed => ?_) _
      have flag := remembered.flagged owed
      rw [Wifi.pending, cached] at flag
      exact flag

omit [DecidableEq K] in
theorem mergeLinkStatus_remembered (remembered : Remembered s) (connected : Bool) (ip : Option Text) :
    Remembered (s.mergeLinkStatus connected ip) := by
  rw [Wifi.mergeLinkStatus]
  split
  · exact remembered
  · rename_i entry cached
    split
    · exact remembered
    · have flag : s.owed = true → entry.state.rebootPending = true := by
        intro owed
        have pending := remembered.flagged owed
        rw [Wifi.pending, cached] at pending
        exact pending
      refine ⟨flag, fun write member => ?_⟩
      rcases List.mem_cons.mp member with rfl | member
      · exact fun owed _ _ => flag owed
      · exact remembered.kept write member

/-- The end of a change whose state was composed from the flag of the cached one. -/
theorem finishChange_remembered {state : RadioWifiState K} {raw : Option Bool} {required reboot : Bool}
    {rebootFails : Option CliFailure} (sent : required = true → reboot = true → rebootFails = none) :
    Meets (fun s => Remembered s ∧ state.rebootPending = s.pending)
      (finishChange state raw required reboot rebootFails)
      (Split (fun _ => Remembered) fun _ => Remembered) := by
  unfold finishChange
  split
  · rename_i both
    obtain ⟨need, asked⟩ := Bool.and_eq_true_iff.mp both
    rw [sent need asked]
    refine Meets.bind (fun _ => Remembered) (.update fun s holds => ?_) fun _ => .pure fun s holds => holds
    refine Remembered.writeCache (s := { s with owed := false }) holds.1.kept (fun owed => ?_) raw
    cases owed
  · refine .update fun s holds => ?_
    obtain ⟨remembered, same⟩ := holds
    refine Remembered.writeCache (s := { s with owed := s.owed || required }) remembered.kept
      (fun owed => ?_) raw
    rcases Bool.or_eq_true_iff.mp owed with before | need
    · show (state.rebootPending || required) = true
      rw [same, remembered.flagged before, Bool.true_or]
    · show (state.rebootPending || required) = true
      rw [need, Bool.or_true]

end Operations

section Changes

/-- Nothing that is remembered changes. -/
def Quiet (s t : Wifi K) : Prop := t.entry = s.entry ∧ t.owed = s.owed ∧ t.written = s.written

omit [DecidableEq K] in
/-- What a quiet program keeps. -/
theorem quiet_meets {program : Cli K α} (quiet : Respects Quiet program) :
    Meets Remembered program (Split (fun _ => Remembered) fun _ => Remembered) :=
  quiet.meets fun _ _ remembered same => remembered.of_written same.1 same.2.1 same.2.2

omit [DecidableEq K] in
theorem same_quiet {program : Cli K α} (same : Respects (· = ·) program) : Respects Quiet program := by
  intro w
  rw [← same w]
  exact ⟨rfl, rfl, rfl⟩

omit [DecidableEq K] in
theorem onPanel_quiet (program : WifiStoreMarker.Service K α) : Respects Quiet (onPanel program) :=
  Respects.hearing (Respects.within (fun _ _ => ⟨rfl, rfl, rfl⟩) program)

/-- The flag of the composed state is that of the cached one. -/
theorem compose_finish {state : Bool → RadioWifiState K} {raw : Option Bool} {required reboot : Bool}
    {rebootFails : Option CliFailure} (flag : ∀ pending, (state pending).rebootPending = pending)
    (sent : required = true → reboot = true → rebootFails = none) :
    Meets Remembered (do
        let rebootPending ← inspect Wifi.pending
        finishChange (state rebootPending) raw required reboot rebootFails)
      (Split (fun _ => Remembered) fun _ => Remembered) := by
  refine Meets.bind (fun pending s => Remembered s ∧ (state pending).rebootPending = s.pending)
    (.inspect fun s remembered => ⟨remembered, flag _⟩) fun pending => finishChange_remembered sent

theorem credentials_remembered (publicKey : K) (ssid password : Text) (reboot : Bool)
    (rebootFails : Option CliFailure) (now : Int) (sent : reboot = true → rebootFails = none) :
    Meets Remembered (applyWifiCredentials publicKey ssid password reboot rebootFails now)
      (Split (fun _ => Remembered) fun _ => Remembered) := by
  have kept : ∀ {α : Type} {program : Cli K α}, Respects (· = ·) program →
      Meets Remembered program (Split (fun _ => Remembered) fun _ => Remembered) :=
    fun same => quiet_meets (same_quiet same)
  refine Meets.bind (fun _ => Remembered) (quiet_meets (onPanel_quiet _)) fun ssid => ?_
  refine Meets.bind (fun _ => Remembered) (quiet_meets (onPanel_quiet _)) fun password => ?_
  refine Meets.bind (fun _ => Remembered) (kept requireWifi_same) fun _ => ?_
  refine Meets.bind (fun _ => Remembered) (kept (ask_same _)) fun enabled => ?_
  refine Meets.bind (fun _ => Remembered) (kept wifiLinkStatus_same) fun status => ?_
  refine Meets.bind (fun _ => Remembered) (kept (.inspect _)) fun openRecord => ?_
  refine Meets.bind (fun _ => Remembered) ?_ fun outcome => ?_
  · refine Meets.recover (fun _ => Remembered) (quiet_meets (onPanel_quiet _)) fun failure => ?_
    dsimp only
    split
    · exact Meets.bind (fun _ => Remembered) (noteStoreIncomplete_remembered publicKey ssid)
        fun _ => .raise fun _ remembered => remembered
    · exact .raise fun _ remembered => remembered
  · refine Meets.bind (fun _ => Remembered) (kept (.inspect _)) fun entry => ?_
    exact compose_finish (fun _ => rfl) fun _ => sent

/-- A change of the flag that is carried out without an answer needs no reboot. -/
theorem setEnabled_remembered {s : Wifi K} (remembered : Remembered s) (publicKey : K)
    (enabled reboot : Bool) (setFate : Fate) (rebootFails : Option CliFailure) (now : Int)
    (careful : s.enabled ≠ enabled → readSsid (ssidText s.panel.session.radio) ≠ none →
      setFate ≠ .lost ∧ (reboot = true → rebootFails = none)) :
    Meets (· = s) (applyWifiEnabled publicKey enabled reboot setFate rebootFails now)
      (Split (fun _ => Remembered) fun _ => Remembered) := by
  have still : ∀ t, t = s → Remembered t := fun t same => same ▸ remembered
  refine Meets.bind (fun _ t => t = s)
    ((same_meets requireWifi_same s).split (fun _ _ same => same) fun _ => still) fun _ => ?_
  refine Meets.bind (fun ssid t => t = s ∧ ssid = readSsid (ssidText s.panel.session.radio))
    ((ask_meets _ s).split (fun _ _ holds => holds) fun _ => still) fun ssid => ?_
  refine Meets.assume fun known => ?_
  refine Meets.bind (fun wasEnabled t => t = s ∧ wasEnabled = s.enabled)
    ((ask_meets _ s).split (fun _ _ holds => holds) fun _ => still) fun wasEnabled => ?_
  refine Meets.assume fun was => ?_
  refine Meets.bind (fun _ t => t = s)
    ((same_meets wifiLinkStatus_same s).split (fun _ _ same => same) fun _ => still) fun status => ?_
  have need : (wasEnabled != enabled && ssid.isSome) = true →
      setFate ≠ .lost ∧ (reboot = true → rebootFails = none) := by
    intro required
    obtain ⟨different, present⟩ := Bool.and_eq_true_iff.mp required
    refine careful (was ▸ bne_iff_ne.mp different) fun none_ => ?_
    rw [known, none_] at present
    cases present
  dsimp only
  refine Meets.bind (fun _ => Remembered) ?_ fun _ => ?_
  · unfold setWifiEnabled
    cases setFate with
    | answered =>
        refine .update fun t same => ?_
        have kept : Remembered { t with enabled } := (still t same).of_written rfl rfl rfl
        exact kept
    | lost =>
        refine Meets.bind (fun _ => Remembered) (.update fun t same => ?_) fun _ =>
          .raise fun _ holds => holds
        have not_required : (wasEnabled != enabled && ssid.isSome) = false :=
          Bool.eq_false_iff.mpr fun required => (need required).1 rfl
        refine (still t same).of_written rfl ?_ rfl
        rw [not_required, Bool.or_false]
    | refused failure => exact .raise still
  · have kept : ∀ {α : Type} {f : Wifi K → α},
        Meets Remembered (inspect f : Cli K α) (Split (fun _ => Remembered) fun _ => Remembered) :=
      .inspect fun _ holds => holds
    refine Meets.bind (fun _ => Remembered) kept fun raw => ?_
    refine Meets.bind (fun _ => Remembered) kept fun entry => ?_
    exact compose_finish (fun _ => rfl) fun required => (need required).2

end Changes

section Run
variable {s t : Wifi K}

omit [DecidableEq K] in
theorem split_state {program : Cli K Unit} {P : Wifi K → Prop}
    (meets : Meets P program (Split (fun _ => Remembered) fun _ => Remembered)) {w : World (Wifi K) Reply}
    (holds : P w.state) : Remembered (program w).2.state := by
  have ended := meets w holds
  cases result : (program w).1 with
  | ok =>
      rw [result] at ended
      exact ended
  | error =>
      rw [result] at ended
      exact ended

theorem step_remembered (remembered : Remembered s) {call : Call K} (remembers : Remembers s call)
    (stepped : step s call = some t) : Remembered t := by
  cases stepped
  obtain ⟨operation, now, replies⟩ := call
  cases operation with
  | credentials publicKey ssid password reboot rebootFails =>
      exact split_state (credentials_remembered publicKey ssid password reboot rebootFails now remembers)
        remembered
  | setEnabled publicKey enabled reboot setFate rebootFails =>
      exact split_state (setEnabled_remembered remembered publicKey enabled reboot setFate rebootFails now
        remembers) rfl
  | fullCheck nextRetryAt => exact fullCheck_remembered remembered nextRetryAt ⟨_, now, replies⟩ remembers
  | refresh => exact refresh_remembered remembered ⟨.refresh, now, replies⟩ remembers
  | afterRestore credentialsStored rebootPending =>
      exact afterRestore_remembered remembered credentialsStored rebootPending ⟨_, now, replies⟩
        remembers.1 remembers.2
  | storeIncomplete publicKey ssid =>
      exact split_state (noteStoreIncomplete_remembered publicKey ssid) remembered
  | linkRecheck =>
      refine split_state (Meets.bind (fun _ => Remembered) (quiet_meets (same_quiet wifiLinkStatus_same))
        fun status => ?_) remembered
      exact .update fun _ holds => mergeLinkStatus_remembered holds _ _
  | rebootForWifiConfig fails =>
      refine ⟨fun owed => remembered.flagged (Bool.and_eq_true_iff.mp owed).1, remembered.kept⟩

/-- A pending reboot is not forgotten. -/
theorem reboot_remembered (panel : Panel K) (enabled : Bool) (connectedKey : Option K)
    (dismissedKeys : List K) (restoreJobRunning : Bool)
    (run : Reaches step Remembers (start panel enabled connectedKey dismissedKeys restoreJobRunning) s) :
    Remembered s := by
  refine run.invariant (fun remembered remembers stepped => step_remembered remembered remembers stepped)
    ⟨fun owed => ?_, ?_⟩
  · cases owed
  · exact List.forall_mem_nil _

end Run

section Example

/-- A radio joined to its network, with Wi-Fi on. -/
private def joined : Wifi Nat := start ⟨⟨⟨some ['n'], ['p']⟩, 0⟩, Dict.empty, []⟩ true (some 7) [] false

private def reply (fate : Fate) : Reply := ⟨fate, true, none, ⟨true, true, false⟩⟩

/-- Wi-Fi is turned off, and the reboot declined. -/
private def declined : Call Nat := ⟨.setEnabled 7 false false .answered none, 0, fun _ => reply .answered⟩

private def check (fate : Fate) : Call Nat := ⟨.fullCheck none, 1, fun _ => reply fate⟩

theorem declined_reboot_remembered : ∃ s : Wifi Nat, s.owed = true ∧ s.written.length = 2 ∧
    s.pending = true ∧ Remembered s := by
  have first : Reaches step Remembers joined ((step joined declined).getD joined) :=
    .next (.refl _) (fun _ _ => ⟨by decide, fun asked => by cases asked⟩) rfl
  have second := first.next (e := check .answered) (fun _ => by decide +kernel) rfl
  exact ⟨_, by decide +kernel, by decide +kernel, by decide +kernel, reboot_remembered _ _ _ _ _ second⟩

/-- A check that times out forgets the reboot, and the next one shows none. -/
theorem reboot_forgotten : ∃ s : Wifi Nat, Reaches step Any joined s ∧ ¬ Remembered s ∧
    s.written.map (fun write =>
        (write.state.check, write.state.supported, write.state.rebootPending, write.owed)) =
      [(.done, some true, false, true), (.failed, none, false, true), (.done, some true, true, true)] := by
  have ran : (execute step joined [declined, check .lost, check .answered]).any (fun s =>
      decide (s.owed = true ∧ s.pending = false ∧
        s.written.map (fun write =>
            (write.state.check, write.state.supported, write.state.rebootPending, write.owed)) =
          [(.done, some true, false, true), (.failed, none, false, true), (.done, some true, true, true)])) = true := by
    decide +kernel
  obtain ⟨s, executed, holds⟩ := (Option.any_eq_true _ _).mp ran
  obtain ⟨owed, forgotten, written⟩ := of_decide_eq_true holds
  refine ⟨s, execute_reaches executed, fun remembered => ?_, written⟩
  rw [remembered.flagged owed] at forgotten
  cases forgotten

end Example

end Meshloom.WifiReboot
