import Meshloom.Radio.WifiCredentials

/-! What a store of Wi-Fi credentials reports is so, whatever becomes of each command. A set
that is answered has been carried out, so that the answers of both sets of a rollback say what
the radio holds, no matter what the sets before them did. -/
namespace Meshloom.WifiCredentials
open Exchange Program

theorem get_meets (answer : Radio → Text) : Meets P (get answer)
    (Split (fun value s => P s ∧ value = answer s.radio)
      fun e s => P s ∧ e ≠ .wifiStoreUnverified) := by
  refine .exchange fun outcome s holds => ?_
  cases outcome with
  | answered => exact ⟨holds, rfl⟩
  | lost => exact ⟨holds, nofun⟩
  | refused failure => exact ⟨holds, nofun⟩
  | cancelled applied => exact ⟨holds, nofun⟩

/-- At least `n` sets have been tried, the radio being in `P`. -/
def Tried (n : Nat) (P : Radio → Prop) (s : Session) : Prop := n ≤ s.sets ∧ P s.radio

/-- A set is one more; it is carried out when it is answered. -/
theorem setChecked_meets {P : Radio → Prop} (change : Radio → Radio) :
    Meets (Tried n P) (setChecked change)
      (Split (fun _ s => Tried (n + 1) (fun radio => ∃ before, P before ∧ radio = change before) s)
        fun _ s => Tried (n + 1)
          (fun radio => ∃ before, P before ∧ (radio = before ∨ radio = change before)) s) := by
  refine .exchange fun outcome s holds => ?_
  obtain ⟨tried, holds⟩ := holds
  have more : n + 1 ≤ s.sets + 1 := Nat.succ_le_succ tried
  cases outcome with
  | answered => exact ⟨more, s.radio, holds, rfl⟩
  | lost => exact ⟨more, s.radio, holds, .inr rfl⟩
  | refused failure => exact ⟨more, s.radio, holds, .inl rfl⟩
  | cancelled applied =>
      cases applied with
      | false => exact ⟨more, s.radio, holds, .inl rfl⟩
      | true => exact ⟨more, s.radio, holds, .inr rfl⟩

/-- After the SSID is set, the sets of the password leave it. -/
theorem setSsid_meets (ssid : Text) : Meets (Tried n fun _ => True) (setSsid ssid)
    (Split (fun _ s => Tried (n + 1) (fun radio => radio.ssid = some ssid) s)
      fun _ s => n < s.sets) := by
  refine (setChecked_meets _).split (fun _ s ended => ?_) fun _ s ended => ended.1
  obtain ⟨tried, before, _, same⟩ := ended
  exact ⟨tried, by rw [same]⟩

theorem setPwd_meets (ssid password : Text) :
    Meets (Tried n fun radio => radio.ssid = some ssid) (setPwd password)
      (Split (fun _ s => n < s.sets ∧ s.radio = ⟨some ssid, password⟩)
        fun _ s => Tried (n + 1) (fun radio => radio.ssid = some ssid) s) := by
  refine (setChecked_meets _).split (fun _ s ended => ?_) fun _ s ended => ?_
  · obtain ⟨tried, before, kept, same⟩ := ended
    refine ⟨tried, ?_⟩
    rw [same]
    exact congrArg (Radio.mk · password) kept
  · obtain ⟨tried, before, kept, same | same⟩ := ended
    · exact ⟨tried, by rw [same]; exact kept⟩
    · exact ⟨tried, by rw [same]; exact kept⟩

/-- The password with its second try. -/
theorem retryPwd_meets (ssid password : Text) :
    Meets (Tried n fun radio => radio.ssid = some ssid)
      (recover (setPwd password) fun failure =>
        if failure = .exchange .timeout then setPwd password else raise failure)
      (Split (fun _ s => n < s.sets ∧ s.radio = ⟨some ssid, password⟩) fun _ s => n < s.sets) := by
  refine .recover (fun _ s => Tried (n + 1) (fun radio => radio.ssid = some ssid) s)
    ((setPwd_meets ssid password).split (fun _ _ ended => ended) fun _ _ ended => ended) ?_
  intro failure
  split
  · exact (setPwd_meets ssid password).split (fun _ _ ended => ⟨Nat.lt_of_succ_lt ended.1, ended.2⟩)
      fun _ _ ended => Nat.lt_of_succ_lt ended.1
  · exact .raise fun s ended => ended.1

theorem wifiSsid_meets : Meets P wifiSsid
    (Split (fun value s => P s ∧ value = readSsid (ssidText s.radio))
      fun e s => P s ∧ e ≠ .wifiStoreUnverified) := by
  refine .bind (fun value s => P s ∧ value = ssidText s.radio)
    ((get_meets ssidText).split (fun _ _ ended => ended) fun _ _ ended => ended) fun value => ?_
  exact .pure fun s ended => ⟨ended.1, by rw [ended.2]⟩

/-- If all is well, both sets were answered; else at least one was tried. -/
theorem setAndVerify_meets (ssid newPwd : Text) : Meets (Tried n fun _ => True)
    (setAndVerify ssid newPwd)
    (Split (fun _ s => n < s.sets ∧ s.radio = ⟨some ssid, newPwd⟩) fun _ s => n < s.sets) := by
  refine .bind (fun _ s => Tried (n + 1) (fun radio => radio.ssid = some ssid) s)
    ((setSsid_meets ssid).split (fun _ _ ended => ended) fun _ _ ended => ended) fun _ => ?_
  let Set (s : Session) : Prop := n < s.sets ∧ s.radio = ⟨some ssid, newPwd⟩
  refine .bind (fun _ s => Set s) ((retryPwd_meets ssid newPwd).split
    (fun _ _ ended => ⟨Nat.lt_of_succ_lt ended.1, ended.2⟩)
    fun _ _ ended => Nat.lt_of_succ_lt ended) fun _ => ?_
  refine .bind (fun _ s => Set s)
    (wifiSsid_meets.split (fun _ _ ended => ended.1) fun _ _ ended => ended.1.1) fun storedSsid => ?_
  refine .bind (fun _ s => Set s)
    ((get_meets Radio.password).split (fun _ _ ended => ended.1) fun _ _ ended => ended.1.1)
    fun storedPwd => ?_
  split
  · exact .pure fun s ended => ended
  · exact .raise fun s ended => ended.1

/-- What a rollback that succeeds leaves. -/
def restored (previousSsid : Option Text) (previousPwd : Text) : Radio :=
  match previousSsid, previousPwd with
  | some ssid, c :: rest => ⟨some ssid, c :: rest⟩
  | _, _ => cleared

/-- Whatever the sets before them did, the sets of a rollback fix what the radio holds. -/
theorem rollbackWifi_meets (previousSsid : Option Text) (previousPwd : Text) :
    Meets (Tried n fun _ => True) (rollbackWifi previousSsid previousPwd)
      (Split (fun _ s => n < s.sets ∧ s.radio = restored previousSsid previousPwd)
        fun _ s => n < s.sets) := by
  have clearing : Meets (Tried n fun _ => True) (setChecked fun _ => cleared)
      (Split (fun _ s => n < s.sets ∧ s.radio = cleared) fun _ s => n < s.sets) := by
    refine (setChecked_meets _).split (fun _ s ended => ?_) fun _ s ended => ended.1
    obtain ⟨tried, before, _, same⟩ := ended
    exact ⟨tried, same⟩
  match previousSsid, previousPwd with
  | none, _ => exact clearing
  | some ssid, [] => exact clearing
  | some ssid, c :: rest =>
      refine .bind (fun _ s => Tried (n + 1) (fun radio => radio.ssid = some ssid) s)
        ((setSsid_meets ssid).split (fun _ _ ended => ended) fun _ _ ended => ended) fun _ => ?_
      exact (setPwd_meets ssid (c :: rest)).split
        (fun _ _ ended => ⟨Nat.lt_of_succ_lt ended.1, ended.2⟩)
        fun _ _ ended => Nat.lt_of_succ_lt ended.1

/-- How a store ends: what it returns says what the radio holds. -/
structure Reported (ssid newPwd : Text) (before : Session)
    (result : Except Failure WifiStoreOutcome) (after : Session) : Prop where
  stored : ∀ outcome, result = .ok outcome → after.radio = ⟨some ssid, newPwd⟩
  rolledBack : result = .error .wifiStoreUnverified → after.radio =
    restored (readSsid (ssidText before.radio)) before.radio.password
  untouched : after.sets = before.sets → after = before
  named : ∀ failure, result = .error failure → before.sets < after.sets →
    failure = .wifiStoreUnverified ∨ failure = .wifiStorePartial ∨ failure = .cancelled

variable {before : Session} {ssid newPwd : Text}

theorem Reported.early (failure : Failure) (same : failure ≠ .wifiStoreUnverified) :
    Reported ssid newPwd before (.error failure) before where
  stored := nofun
  rolledBack reported := absurd (Except.error.inj reported) same
  untouched _ := rfl
  named _ _ more := absurd more (Nat.lt_irrefl _)

theorem Reported.late {failure : Failure} {after : Session} (tried : before.sets < after.sets)
    (rolledBack : failure = .wifiStoreUnverified → after.radio =
      restored (readSsid (ssidText before.radio)) before.radio.password)
    (named : failure = .wifiStoreUnverified ∨ failure = .wifiStorePartial ∨ failure = .cancelled) :
    Reported ssid newPwd before (.error failure) after where
  stored := nofun
  rolledBack reported := rolledBack (Except.error.inj reported)
  untouched same := absurd same (Nat.ne_of_gt tried)
  named _ reported _ := Except.error.inj reported ▸ named

theorem validateWifiSsid_meets (ssid : Text) : Meets (· = before) (validateWifiSsid ssid)
    (Split (fun value s => s = before ∧ value = ssid)
      fun e s => s = before ∧ e ≠ .wifiStoreUnverified) := by
  unfold validateWifiSsid
  split
  · exact .raise fun s same => ⟨same, nofun⟩
  split
  · exact .raise fun s same => ⟨same, nofun⟩
  split
  · exact .raise fun s same => ⟨same, nofun⟩
  · exact .pure fun s same => ⟨same, rfl⟩

theorem validateWifiPassword_meets (password : Text) :
    Meets (· = before) (validateWifiPassword password)
      (Split (fun value s => s = before ∧ value = password)
        fun e s => s = before ∧ e ≠ .wifiStoreUnverified) := by
  unfold validateWifiPassword
  split
  · exact .raise fun s same => ⟨same, nofun⟩
  split
  · exact .raise fun s same => ⟨same, nofun⟩
  · exact .pure fun s same => ⟨same, rfl⟩

/-- What is done about a failure after the first set. -/
theorem settle_meets (failure : Failure) (ssid newPwd : Text) (Q : Except Failure Unit → Session → Prop)
    (reported : ∀ e s, Reported ssid newPwd before (.error e) s → Q (.error e) s) :
    Meets (fun s => before.sets < s.sets)
      (if failure = .cancelled then raise failure
        else do
          recover (rollbackWifi (readSsid (ssidText before.radio)) before.radio.password)
            fun failure =>
              if failure = .cancelled then raise failure else raise .wifiStorePartial
          raise .wifiStoreUnverified) Q := by
  split
  · rename_i stopped
    exact .raise fun s tried => reported _ _
      (.late tried (fun same => nomatch stopped.symm.trans same) (.inr (.inr stopped)))
  refine .bind (fun _ s => before.sets < s.sets ∧ s.radio =
    restored (readSsid (ssidText before.radio)) before.radio.password) ?_ fun _ => ?_
  · have rolledBack := (rollbackWifi_meets (n := before.sets) (readSsid (ssidText before.radio))
      before.radio.password).of_pre fun s (tried : before.sets < s.sets) =>
        ⟨Nat.le_of_lt tried, trivial⟩
    refine .recover (fun _ (s : Session) => before.sets < s.sets)
      (rolledBack.split (fun _ _ ended => ended) fun _ _ tried => tried) fun failure => ?_
    split
    · rename_i stopped
      exact .raise fun s tried => reported _ _
        (.late tried (fun same => nomatch stopped.symm.trans same) (.inr (.inr stopped)))
    · exact .raise fun s tried => reported _ _ (.late tried nofun (.inr (.inl rfl)))
  · exact .raise fun s ended => reported _ _ (.late ended.1 (fun _ => ended.2) (.inl rfl))

theorem storeWifiCredentials_meets (ssid password : Text) (before : Session) :
    Meets (· = before) (storeWifiCredentials ssid password) (Reported ssid password before) := by
  have early : ∀ e s, s = before ∧ e ≠ .wifiStoreUnverified →
      Reported ssid password before (.error e) s := by
    rintro e s ⟨rfl, different⟩
    exact .early e different
  refine .bind (fun value s => s = before ∧ value = ssid)
    ((validateWifiSsid_meets ssid).split (fun _ _ ended => ended) early)
    fun value => .assume fun same => ?_
  subst value
  refine .bind (fun value s => s = before ∧ value = password)
    ((validateWifiPassword_meets password).split (fun _ _ ended => ended) early)
    fun value => .assume fun same => ?_
  subst value
  refine .bind (fun value s => s = before ∧ value = readSsid (ssidText before.radio))
    (wifiSsid_meets.split (fun _ s ended => ⟨ended.1, ended.1 ▸ ended.2⟩) early)
    fun value => .assume fun same => ?_
  subst value
  refine .bind (fun value s => s = before ∧ value = before.radio.password)
    ((get_meets Radio.password).split (fun _ s ended => ⟨ended.1, ended.1 ▸ ended.2⟩) early)
    fun value => .assume fun same => ?_
  subst value
  have verified := (setAndVerify_meets (n := before.sets) ssid password).of_pre
    fun s (same : s = before) => ⟨Nat.le_of_eq (congrArg Session.sets same.symm), trivial⟩
  refine .bind (fun _ s => before.sets < s.sets ∧ s.radio = ⟨some ssid, password⟩) ?_ fun _ => ?_
  · exact .recover (fun _ (s : Session) => before.sets < s.sets)
      (verified.split (fun _ _ ended => ended) fun _ _ tried => tried)
      fun failure => settle_meets failure ssid password _ fun _ _ reported => reported
  · exact .pure fun s ended =>
      ⟨fun _ _ => ended.2, nofun, fun same => absurd same (Nat.ne_of_gt ended.1), nofun⟩

/-- A password is stored, with an SSID that the radio does not answer as none. -/
def NetworkStored (radio : Radio) : Prop :=
  radio.password ≠ [] ∧ ∃ ssid, radio.ssid = some ssid ∧ ssid ≠ notSetSsid

theorem restored_stored (stored : NetworkStored radio) :
    restored (readSsid (ssidText radio)) radio.password = radio := by
  obtain ⟨present, ssid, same, isSet⟩ := stored
  obtain ⟨_, password⟩ := radio
  subst same
  have read : readSsid (ssidText ⟨some ssid, password⟩) = some ssid := if_neg isSet
  rw [read]
  cases password with
  | nil => exact absurd rfl present
  | cons c rest => rfl

theorem restored_absent (absent : ¬NetworkStored radio) :
    restored (readSsid (ssidText radio)) radio.password = cleared := by
  obtain ⟨ssid, password⟩ := radio
  cases password with
  | nil => cases readSsid (ssidText ⟨ssid, []⟩) <;> rfl
  | cons c rest =>
      have none_read : readSsid (ssidText ⟨ssid, c :: rest⟩) = none := by
        refine if_pos ?_
        cases ssid with
        | none => rfl
        | some ssid =>
            exact Decidable.byContradiction fun isSet => absent ⟨nofun, ssid, rfl, isSet⟩
      rw [none_read]
      rfl

/-- What a store reports is so, whatever becomes of each command. -/
theorem store_reports (ssid password : Text) (w : World Session Outcome) :
    let (result, after) := storeWifiCredentials ssid password w
    (∀ outcome, result = .ok outcome → after.state.radio = ⟨some ssid, password⟩) ∧
      (result = .error .wifiStoreUnverified →
        (NetworkStored w.state.radio → after.state.radio = w.state.radio) ∧
          (¬NetworkStored w.state.radio → after.state.radio = cleared)) ∧
      (after.state.sets = w.state.sets → after.state.radio = w.state.radio) ∧
      ∀ failure, result = .error failure → w.state.sets < after.state.sets →
        failure = .wifiStoreUnverified ∨ failure = .wifiStorePartial ∨ failure = .cancelled := by
  have reported := storeWifiCredentials_meets ssid password w.state w rfl
  refine ⟨reported.stored, fun unverified => ⟨fun stored => ?_, fun absent => ?_⟩,
    fun same => congrArg Session.radio (reported.untouched same), reported.named⟩
  · exact (reported.rolledBack unverified).trans (restored_stored stored)
  · exact (reported.rolledBack unverified).trans (restored_absent absent)

/-- A radio with a password and no SSID; the first set is refused. -/
def passwordOnly : World Session Outcome :=
  ⟨⟨⟨none, ['o', 'l', 'd']⟩, 0⟩, fun n => if n = 2 then .refused .rejected else .answered, 0⟩

theorem password_cleared :
    (storeWifiCredentials ['n', 'e', 't'] ['n', 'e', 'w'] passwordOnly).1 =
        .error .wifiStoreUnverified ∧
      passwordOnly.state.radio.password ≠ [] ∧
      (storeWifiCredentials ['n', 'e', 't'] ['n', 'e', 'w'] passwordOnly).2.state.radio ≠
        passwordOnly.state.radio :=
  ⟨rfl, by decide, by decide⟩

end Meshloom.WifiCredentials
