import Meshloom.Community.IataBind

/-! How a bind ends, from how its steps do: with the publisher that a reload would leave, unless the
status was not retired before and an error comes after the write. -/
namespace Meshloom.IataBind
open Exchange Program Text
variable {upper : UpperCase} {attempt : Attempt} {s t : State}

theorem normalizeIata_code {code : Code} (valid : isCode code = true) :
    normalizeIata upper code = code := by
  have letters : ∀ c ∈ code, 65 ≤ c.toNat ∧ c.toNat ≤ 90 := by
    intro c member
    simp only [isCode, Bool.and_eq_true, List.all_eq_true, decide_eq_true_eq] at valid
    exact valid.2 c member
  have mapped : upper.apply code = code := by
    rw [upper.ascii code fun c member => by have := letters c member; omega]
    refine (List.map_congr_left fun c member => ?_).trans (List.map_id code)
    rw [Char.toUpper, dif_neg, id]
    rintro ⟨low, -⟩
    have bound : 97 ≤ c.toNat := low
    have := letters c member
    omega
  have solid : ∀ c ∈ code, isSpace c = false := fun c member =>
    isSpace_printable (by have := letters c member; omega) (by have := letters c member; omega)
  have stripped : strip code = code :=
    strip_fixed (fun c first => solid c (List.mem_of_head? first))
      (fun c last => solid c (List.mem_of_getLast? last))
  simp only [normalizeIata, mapped, stripped, valid, if_true]

theorem normalizeIata_normalizeIata (raw : Code) :
    normalizeIata upper (normalizeIata upper raw) = normalizeIata upper raw := by
  rw [normalizeIata.eq_1 upper raw]
  split
  next valid => exact normalizeIata_code valid
  · have empty : upper.apply [] = [] := upper.ascii [] (List.forall_mem_nil _)
    simp [normalizeIata, empty, strip, isCode]

section Steps

theorem readEffective_ok {ok : Attempt → Bool} (readable : ok attempt = true) :
    Ends attempt (readEffective upper ok) s (.ok ⟨s.enabled, normalizeIata upper s.iata⟩) s :=
  .exchange _ (by rw [if_pos readable])

theorem readEffective_error {ok : Attempt → Bool} (unreadable : ok attempt = false) :
    Ends attempt (readEffective upper ok) s (.error .error) s :=
  .exchange _ (by rw [unreadable]; rfl)

/-- A step that is held ends without a change, cut or not. -/
theorem held_ends (cut : Attempt → Bool) : ∃ result, Ends attempt (held cut) s result s :=
  ⟨_, .exchange _ rfl⟩

theorem whenever_ends (condition : Bool) {action : Action Unit} {result : Except Exc Unit}
    (ends : Ends attempt action s result t) : Ends attempt (whenever condition action) s
      (if condition then result else .ok ()) (if condition then t else s) := by
  cases condition with
  | true => exact ends
  | false => exact .pure ()

/-- The publisher after it was restored: the one that runs, or the one of a reload. -/
def restored (upper : UpperCase) (s : State) : State :=
  if s.publisher.isSome then s else reload upper s

theorem restored_reload (enabled : s.enabled = true) :
    restored upper (reload upper s) = reload upper s := by
  simp only [restored, reload, enabled, if_true, Option.isSome_some]

theorem restorePublisher_ends : ∃ result,
    Ends attempt (restorePublisher upper) s result (restored upper s) := by
  obtain ⟨result, ends⟩ : ∃ result, Ends attempt (held Attempt.restoreCut) (restored upper s) result
      (restored upper s) := held_ends Attempt.restoreCut
  exact ⟨result, .bind_ok (.update _) ends⟩

/-- What was stopped comes back when a program fails. -/
theorem restoring_error (retireFirst : Bool) {program : Action Code} {exc : Exc}
    (ends : Ends attempt program s (.error exc) t) : ∃ other,
    Ends attempt (restoring upper retireFirst program) s (.error other)
      (if retireFirst then restored upper t else t) := by
  obtain ⟨result, back⟩ : ∃ result, Ends attempt (restorePublisher upper) t result
      (restored upper t) := restorePublisher_ends
  have cleanup := whenever_ends retireFirst back
  cases ended : (if retireFirst then result else .ok ()) with
  | ok =>
      rw [ended] at cleanup
      exact ⟨exc, .recover_error ends (.bind_ok cleanup (.raise exc))⟩
  | error other =>
      rw [ended] at cleanup
      exact ⟨other, .recover_error ends (.bind_error cleanup)⟩

theorem restoring_ok {retireFirst : Bool} {program : Action Code} {iata : Code}
    (ends : Ends attempt program s (.ok iata) t) :
    Ends attempt (restoring upper retireFirst program) s (.ok iata) t :=
  .recover_ok ends

theorem finishUpdate_ends (topicMoved : Bool) (readable : attempt.stateRead = true) : ∃ result,
    Ends attempt (finishUpdate upper topicMoved) s result
      (if topicMoved then s else reload upper s) := by
  have reloads : Ends attempt (update (reload upper) : Action Unit) s (.ok ()) (reload upper s) :=
    .update _
  have reloaded := whenever_ends (!topicMoved) reloads
  cases topicMoved with
  | true => exact ⟨_, .bind_ok (readEffective_ok readable) (.bind_ok reloaded (.exchange _ rfl))⟩
  | false => exact ⟨_, .bind_ok (readEffective_ok readable) (.bind_ok reloaded (.exchange _ rfl))⟩

theorem finishUpdate_error (topicMoved : Bool) (unreadable : attempt.stateRead = false) :
    Ends attempt (finishUpdate upper topicMoved) s (.error .error) s :=
  .bind_error (readEffective_error unreadable)

theorem moveStatusTopic_ends (before : Effective) (alreadyRetired : Bool)
    (readable : attempt.moveRead = true) (enabled : s.enabled = true) :
    Ends attempt (moveStatusTopic upper before alreadyRetired) s
      (.ok (moves before (normalizeIata upper s.iata)))
      (if moves before (normalizeIata upper s.iata) then reload upper s else s) := by
  refine .bind_ok (readEffective_ok readable) ?_
  dsimp only
  rw [enabled, Bool.true_and]
  cases moved : moves before (normalizeIata upper s.iata) with
  | true =>
      rw [moves] at moved
      rw [if_pos moved, if_pos rfl]
      refine .bind_ok (a := ()) (t := reload upper s) ?_ (.pure true)
      cases alreadyRetired <;> exact .update _
  | false =>
      rw [moves] at moved
      rw [moved]
      exact .pure false

theorem moveStatusTopic_error (before : Effective) (alreadyRetired : Bool)
    (unreadable : attempt.moveRead = false) :
    Ends attempt (moveStatusTopic upper before alreadyRetired) s (.error .error) s :=
  .bind_error (readEffective_error unreadable)

/-- What `writeSettings` makes of the state. -/
def written (joining : Bool) (iata : Code) (s : State) : State :=
  { s with
    enabled := if joining then true else s.enabled
    iata
    writes := s.writes + 1 }

theorem written_enabled {joining : Bool} (iata : Code) (on : joining = true ∨ s.enabled = true) :
    (written joining iata s).enabled = true := by
  cases joining with
  | true => rfl
  | false => exact on.resolve_left Bool.false_ne_true

theorem afterWrite_ends (attempt : Attempt) (before : Effective) (statusRetired : Bool) (enabled : s.enabled = true)
    (normal : normalizeIata upper s.iata = s.iata) : ∃ result,
    Ends attempt
      ((if before.enabled then moveStatusTopic upper before statusRetired else pure false) >>=
        finishUpdate upper) s result (if breaks before attempt s.iata then s else reload upper s) ∧
    (breaks before attempt s.iata = true → ∃ exc, result = .error exc) := by
  cases on : before.enabled with
  | false =>
      simp only [Bool.false_eq_true, if_false, breaks, on]
      cases read : attempt.stateRead with
      | true =>
          obtain ⟨result, ends⟩ : ∃ result, Ends attempt (finishUpdate upper false) s result
              (reload upper s) := finishUpdate_ends false read
          exact ⟨result, .bind_ok (.pure false) ends, by rintro ⟨⟩⟩
      | false => exact ⟨_, .bind_ok (.pure false) (finishUpdate_error false read), fun _ => ⟨_, rfl⟩⟩
  | true =>
      simp only [if_true, breaks, on]
      cases readable : attempt.moveRead with
      | false => exact ⟨_, .bind_error (moveStatusTopic_error _ _ readable), fun _ => ⟨_, rfl⟩⟩
      | true =>
      have moved : Ends attempt (moveStatusTopic upper before statusRetired) s _ _ :=
        moveStatusTopic_ends before statusRetired readable enabled
      rw [normal] at moved
      cases read : attempt.stateRead with
      | true =>
          obtain ⟨result, ends⟩ : ∃ result, Ends attempt (finishUpdate upper (moves before s.iata))
              (if moves before s.iata then reload upper s else s) result _ :=
            finishUpdate_ends (moves before s.iata) read
          refine ⟨result, .bind_ok moved ?_, by rintro ⟨⟩⟩
          cases known : moves before s.iata <;> rw [known] at ends <;> exact ends
      | false =>
          have ends : Ends attempt (finishUpdate upper (moves before s.iata))
              (if moves before s.iata then reload upper s else s) _ _ :=
            finishUpdate_error (moves before s.iata) read
          refine ⟨.error .error, .bind_ok moved ?_, fun _ => ⟨_, rfl⟩⟩
          cases known : moves before s.iata <;> rw [known] at ends <;> exact ends

/-- The settings are written. -/
def commits (upper : UpperCase) (attempt : Attempt) (iata : Code) : Bool :=
  saves upper attempt iata &&
    match attempt.write with
    | .raises committed => committed
    | .done => true

/-- What the state is after an update. -/
def updated (upper : UpperCase) (settings : Settings upper) (attempt : Attempt) (joining : Bool)
    (iata : Code) (s : State) : State :=
  if commits upper attempt iata then
    if failsBetween upper settings attempt iata then written joining (normalizeIata upper iata) s
    else reload upper (written joining (normalizeIata upper iata) s)
  else s

/-- An update that fails says so. -/
theorem updateCommunityLocked_ends (attempt : Attempt) (settings : Settings upper)
    (enabled : s.enabled = settings.enabled)
    (same : s.iata = settings.iata) (joining : Bool) (on : joining = true ∨ s.enabled = true)
    (iata : Code) (statusRetired : Bool) : ∃ result,
    Ends attempt (updateCommunityLocked upper joining iata statusRetired) s result
      (updated upper settings attempt joining iata s) ∧
    ((commits upper attempt iata = false ∨ failsBetween upper settings attempt iata = true) →
      ∃ exc, result = .error exc) := by
  cases row : attempt.rowRead with
  | false =>
      refine ⟨.error .error, ?_, fun _ => ⟨_, rfl⟩⟩
      have refused : commits upper attempt iata = false := by
        rw [commits, saves, row, Bool.false_and, Bool.false_and]
      rw [updated, refused, if_neg Bool.false_ne_true]
      exact .bind_error (readEffective_error row)
  | true =>
  have before : Ends attempt (readEffective upper Attempt.rowRead) s _ s := readEffective_ok row
  rw [same, settings.normal, enabled] at before
  by_cases invalid : strip iata ≠ [] ∧ normalizeIata upper iata = []
  · refine ⟨.error .http, ?_, fun _ => ⟨_, rfl⟩⟩
    have refused : commits upper attempt iata = false := by
      simp [commits, saves, invalid.1, invalid.2]
    rw [updated, refused, if_neg Bool.false_ne_true]
    refine .bind_ok before ?_
    dsimp only
    rw [if_pos invalid]
    exact .raise Exc.http
  · have valid : saves upper attempt iata = true := by
      simp [saves, row]
      by_contra other
      exact invalid ⟨(not_or.mp other).1, not_not.mp (not_or.mp other).2⟩
    unfold updated commits failsBetween
    rw [valid, Bool.true_and, Bool.true_and]
    cases end_ : attempt.write with
    | raises committed =>
        have ends : Ends attempt (writeSettings joining (normalizeIata upper iata)) s (.error .error)
            (if committed then written joining (normalizeIata upper iata) s else s) := by
          refine .exchange _ ?_
          rw [end_]
          rfl
        refine ⟨.error .error, .bind_ok before ?_, fun _ => ⟨_, rfl⟩⟩
        dsimp only
        rw [if_neg invalid]
        cases committed <;> exact .bind_error ends
    | done =>
        have ends : Ends attempt (writeSettings joining (normalizeIata upper iata)) s (.ok ())
            (written joining (normalizeIata upper iata) s) := by
          refine .exchange _ ?_
          rw [end_]
          rfl
        have enabled' := written_enabled (normalizeIata upper iata) on
        obtain ⟨result, after, fails⟩ := afterWrite_ends attempt ⟨settings.enabled, settings.iata⟩
          statusRetired enabled' (normalizeIata_normalizeIata iata)
        refine ⟨result, .bind_ok before ?_, fun failed => fails (failed.resolve_left ?_)⟩
        · dsimp only
          rw [if_neg invalid]
          exact .bind_ok ends after
        · exact Bool.true_eq_false_eq_False

theorem withBindState_ok (before : Effective) {iata : Code} (answered : attempt.bind = .answered iata) :
    Ends attempt (withBindState (some before)) s (.ok iata) { s with bound := some iata } :=
  .exchange _ (by rw [answered])

theorem withBindState_error {bindState : Option Effective}
    (refused : bindState = none ∨ ∀ iata, attempt.bind ≠ .answered iata) : ∃ exc,
    Ends attempt (withBindState bindState) s (.error exc) s := by
  cases bindState with
  | none => exact ⟨.http, .exchange _ rfl⟩
  | some before =>
      have silent := refused.resolve_left (Option.some_ne_none before)
      cases asked : attempt.bind with
      | answered iata => exact (silent iata asked).elim
      | raises => exact ⟨.error, .exchange _ (by rw [asked])⟩
      | cut => exact ⟨.cancelled, .exchange _ (by rw [asked])⟩

/-- A retire that succeeds stops the publisher; one that fails may have. -/
theorem retireStatus_ends (attempt : Attempt) (s : State) : ∃ result t, Ends attempt retireStatus s result t ∧
    (t = s ∨ t = { s with publisher := none }) ∧
    (result = .ok () → t = { s with publisher := none }) := by
  cases end_ : attempt.retire with
  | done =>
      obtain ⟨result, ends⟩ : ∃ result, Ends attempt (held Attempt.retireCut)
          { s with publisher := none } result { s with publisher := none } := held_ends _
      exact ⟨result, _, .bind_ok (a := ()) (.exchange _ (by rw [end_])) ends, .inr rfl, fun _ => rfl⟩
  | raises stopped =>
      refine ⟨.error .error, _, .bind_error (.exchange _ (by rw [end_])), ?_, by rintro ⟨⟩⟩
      cases stopped with
      | true => exact .inr rfl
      | false => exact .inl rfl

end Steps

section Bind
variable (settings : Settings upper)

/-- Where Community is on, the publisher of the beginning is the one that is restored. -/
theorem restored_start (enabled : settings.enabled = true) :
    restored upper (start upper settings) = start upper settings ∧
      restored upper { start upper settings with publisher := none } = start upper settings := by
  simp [restored, reload, start, enabled, settings.normal]

/-- The state in which Community has answered. -/
def answered (retireFirst : Bool) (iata : Code) : State :=
  { start upper settings with
    publisher := if retireFirst then none else (start upper settings).publisher
    bound := some iata }

/-- Community answers, or the request fails. -/
theorem withBindState_ends (attempt : Attempt) (s : State) (bindState : Option Effective) :
    (bindState = none ∨ ∀ iata, attempt.bind ≠ .answered iata) ∧
      (∃ exc, Ends attempt (withBindState bindState) s (.error exc) s) ∨
    ∃ iata, attempt.bind = .answered iata ∧ bindState.isSome = true ∧
      Ends attempt (withBindState bindState) s (.ok iata) { s with bound := some iata } := by
  by_cases refused : bindState = none ∨ ∀ iata, attempt.bind ≠ .answered iata
  · exact .inl ⟨refused, withBindState_error refused⟩
  · obtain ⟨some_, spoken⟩ := not_or.mp refused
    obtain ⟨before, rfl⟩ := Option.ne_none_iff_exists'.mp some_
    obtain ⟨iata, spoken⟩ := not_forall_not.mp spoken
    exact .inr ⟨iata, spoken, rfl, withBindState_ok before spoken⟩

/-- A bind that Community does not answer ends as it began. -/
theorem askCommunity_ends {retireFirst : Bool} (enabled : retireFirst = true → settings.enabled = true)
    (bindState : Option Effective) :
    (retireFirst = false → bindState = none ∨ ∀ iata, attempt.bind ≠ .answered iata) ∧
      (∃ exc, Ends attempt (restoring upper retireFirst (askCommunity retireFirst bindState))
        (start upper settings) (.error exc) (start upper settings)) ∨
    ∃ iata, attempt.bind = .answered iata ∧ bindState.isSome = true ∧
      Ends attempt (restoring upper retireFirst (askCommunity retireFirst bindState))
        (start upper settings) (.ok iata) (answered settings retireFirst iata) := by
  cases retireFirst with
  | false =>
      have idle : Ends attempt (whenever false retireStatus) (start upper settings) (.ok ())
          (start upper settings) := .pure ()
      obtain ⟨refused, exc, ends⟩ | ⟨iata, spoken, allowed, ends⟩ :=
        withBindState_ends attempt (start upper settings) bindState
      · have failed : Ends attempt (askCommunity false bindState) _ _ _ := .bind_ok idle ends
        exact .inl ⟨fun _ => refused, restoring_error false failed⟩
      · exact .inr ⟨iata, spoken, allowed, restoring_ok (.bind_ok idle ends)⟩
  | true =>
      obtain ⟨same, stopped⟩ := restored_start settings (enabled rfl)
      obtain ⟨result, t, retire, either, retired⟩ := retireStatus_ends attempt (start upper settings)
      have back : restored upper t = start upper settings := by
        obtain rfl | rfl := either
        · exact same
        · exact stopped
      cases result with
      | error exc =>
          have failed : Ends attempt (askCommunity true bindState) _ _ _ := .bind_error retire
          obtain ⟨other, ends⟩ := restoring_error true failed
          rw [if_pos rfl, back] at ends
          exact .inl ⟨by rintro ⟨⟩, other, ends⟩
      | ok =>
          cases retired rfl
          obtain ⟨-, exc, ends⟩ | ⟨iata, spoken, allowed, ends⟩ :=
            withBindState_ends attempt { start upper settings with publisher := none } bindState
          · have failed : Ends attempt (askCommunity true bindState) _ _ _ := .bind_ok retire ends
            obtain ⟨other, ends⟩ := restoring_error true failed
            rw [if_pos rfl, stopped] at ends
            exact .inl ⟨by rintro ⟨⟩, other, ends⟩
          · exact .inr ⟨iata, spoken, allowed, restoring_ok (.bind_ok retire ends)⟩

/-- What the state is once the answer was saved, or was not. -/
def saved (attempt : Attempt) (joining retireFirst : Bool) (iata : Code) : State :=
  let last := updated upper settings attempt joining iata (answered settings retireFirst iata)
  if retireFirst then restored upper last else last

theorem saveAnswer_ends (joining retireFirst : Bool) (on : joining = true ∨ settings.enabled = true)
    (iata : Code) : ∃ result,
    Ends attempt (restoring upper retireFirst (saveAnswer upper joining retireFirst iata))
      (answered settings retireFirst iata) result (saved settings attempt joining retireFirst iata) := by
  obtain ⟨result, update, fails⟩ := updateCommunityLocked_ends attempt settings
    (s := answered settings retireFirst iata) rfl rfl joining on iata retireFirst
  cases result with
  | error exc =>
      have failed : Ends attempt (saveAnswer upper joining retireFirst iata) _ _ _ :=
        .bind_error update
      obtain ⟨other, ends⟩ := restoring_error retireFirst failed
      exact ⟨_, ends⟩
  | ok =>
      have last : updated upper settings attempt joining iata (answered settings retireFirst iata) =
          reload upper (written joining (normalizeIata upper iata)
            (answered settings retireFirst iata)) := by
        unfold updated
        split_ifs with committed broken
        · obtain ⟨exc, failed⟩ := fails (.inr broken)
          cases failed
        · rfl
        · obtain ⟨exc, failed⟩ := fails (.inl (Bool.eq_false_of_not_eq_true committed))
          cases failed
      have kept : saved settings attempt joining retireFirst iata =
          updated upper settings attempt joining iata (answered settings retireFirst iata) := by
        rw [saved, last, restored_reload (written_enabled _ on)]
        exact ite_self _
      obtain ⟨result, cut⟩ : ∃ result, Ends attempt (held Attempt.updateCut)
          (updated upper settings attempt joining iata (answered settings retireFirst iata)) result
          (updated upper settings attempt joining iata (answered settings retireFirst iata)) :=
        held_ends _
      cases result with
      | error exc =>
          have failed : Ends attempt (saveAnswer upper joining retireFirst iata) _ _ _ :=
            .bind_ok update (.bind_error cut)
          obtain ⟨other, ends⟩ := restoring_error retireFirst failed
          exact ⟨_, ends⟩
      | ok =>
          rw [kept]
          exact ⟨_, restoring_ok (.bind_ok update (.bind_ok cut (.pure iata)))⟩

theorem run_state {result : Except Exc Code} (attempt : Attempt)
    (ends : Ends attempt (bindCommunityIata upper attempt.requested attempt.enable)
      (start upper settings) result t) : (run upper settings attempt).2 = t := by
  obtain ⟨m, ran⟩ := ends 0
  simp only [run, ran]

/-- A bind ends as it began, without an answer where it was asked for at once, or it comes to the
saving of its answer. -/
theorem run_ends (attempt : Attempt) :
    ((attempt.firstRead = true → (attempt.enable || settings.enabled) = true →
        retiresFirst upper settings attempt = false → ∀ iata, attempt.bind ≠ .answered iata) ∧
      (run upper settings attempt).2 = start upper settings) ∨
    ∃ iata, attempt.bind = .answered iata ∧ attempt.firstRead = true ∧
      (attempt.enable || settings.enabled) = true ∧
      (run upper settings attempt).2 = saved settings attempt (attempt.enable && !settings.enabled)
        (retiresFirst upper settings attempt) iata := by
  cases read : attempt.firstRead with
  | false =>
      exact .inl ⟨by rintro ⟨⟩, run_state settings attempt (.bind_error (readEffective_error read))⟩
  | true =>
  have before : Ends attempt (readEffective upper Attempt.firstRead) (start upper settings)
      (.ok ⟨settings.enabled, settings.iata⟩) (start upper settings) := by
    have ends : Ends attempt (readEffective upper Attempt.firstRead) (start upper settings) _ _ :=
      readEffective_ok read
    rw [show (start upper settings).iata = settings.iata from rfl, settings.normal] at ends
    exact ends
  have enabled : retiresFirst upper settings attempt = true → settings.enabled = true := by
    intro retires
    simp only [retiresFirst, Bool.and_eq_true] at retires
    exact retires.1.1
  have same : (attempt.enable && !settings.enabled || settings.enabled) =
      (attempt.enable || settings.enabled) := by
    cases settings.enabled <;> simp
  obtain ⟨silent, exc, ends⟩ | ⟨iata, spoken, allowed, ends⟩ := askCommunity_ends settings enabled
    (if attempt.enable && !settings.enabled || settings.enabled then some ⟨true, settings.iata⟩
      else none)
  · refine .inl ⟨fun _ wanted kept => ?_, run_state settings attempt (.bind_ok before
      (.bind_error ends))⟩
    rw [same, if_pos wanted] at silent
    exact (silent kept).resolve_left (Option.some_ne_none _)
  · rw [same] at allowed
    have wanted : (attempt.enable || settings.enabled) = true := by
      by_contra other
      rw [if_neg other] at allowed
      cases allowed
    have on : (attempt.enable && !settings.enabled) = true ∨ settings.enabled = true := by
      rw [← same] at wanted
      exact Bool.or_eq_true_iff.mp wanted
    obtain ⟨result, last⟩ := saveAnswer_ends settings (attempt.enable && !settings.enabled)
      (retiresFirst upper settings attempt) on iata
    exact .inr ⟨iata, spoken, rfl, wanted,
      run_state settings attempt (.bind_ok before (.bind_ok ends last))⟩

theorem start_allOrNothing : AllOrNothing upper settings (start upper settings) where
  nothing _ := ⟨rfl, rfl, by cases enabled : settings.enabled <;> simp [start, enabled]⟩
  all wrote := (wrote rfl).elim
  served enabled _ := ⟨⟨settings.iata, 0⟩, if_pos enabled, rfl⟩

/-- A reload serves what Community answered. -/
theorem reload_allOrNothing {iata : Code} (enabled : s.enabled = true) (bound : s.bound = some iata)
    (same : s.writes ≠ 0 → s.iata = normalizeIata upper iata)
    (normal : normalizeIata upper s.iata = s.iata) : AllOrNothing upper settings (reload upper s) where
  nothing unbound := (Option.some_ne_none iata (bound.symm.trans unbound)).elim
  all wrote := ⟨enabled, ⟨iata, bound, same wrote⟩,
    ⟨⟨normalizeIata upper s.iata, s.writes⟩, if_pos enabled, rfl⟩⟩
  served _ _ := ⟨⟨normalizeIata upper s.iata, s.writes⟩, if_pos enabled, normal⟩

theorem commits_of_failsBetween {iata : Code}
    (fails : failsBetween upper settings attempt iata = true) : commits upper attempt iata = true := by
  obtain ⟨saves, fails⟩ := Bool.and_eq_true_iff.mp fails
  rw [commits, saves, Bool.true_and]
  cases end_ : attempt.write with
  | done => rfl
  | raises committed =>
      rw [end_] at fails
      exact fails

theorem written_allOrNothing (joining retireFirst : Bool) (iata : Code)
    (on : joining = true ∨ settings.enabled = true) : AllOrNothing upper settings
      (reload upper (written joining (normalizeIata upper iata) (answered settings retireFirst iata))) :=
  reload_allOrNothing settings (written_enabled _ on) rfl (fun _ => rfl)
    (normalizeIata_normalizeIata iata)

/-- After a retire whatever is left has no publisher, and a reload makes it whole. -/
theorem saved_retired (enabled : settings.enabled = true) (joining : Bool) (iata : Code) :
    AllOrNothing upper settings (saved settings attempt joining true iata) := by
  have whole := written_allOrNothing settings joining true iata (.inr enabled)
  unfold saved updated
  rw [if_pos rfl]
  split_ifs
  · exact whole
  · rw [restored_reload (written_enabled _ (.inr enabled))]
    exact whole
  · exact reload_allOrNothing settings enabled rfl (fun wrote => (wrote rfl).elim) settings.normal

theorem answered_allOrNothing (iata : Code) :
    AllOrNothing upper settings (answered settings false iata) where
  nothing unbound := by cases unbound
  all wrote := (wrote rfl).elim
  served := (start_allOrNothing settings).served

/-- A bind is all or nothing just when its publisher was stopped before it, or no error comes
between the write of the answer and the reload of the publisher. -/
theorem run_allOrNothing_iff (attempt : Attempt) :
    AllOrNothing upper settings (run upper settings attempt).2 ↔ Unbroken upper settings attempt := by
  obtain ⟨silent, ended⟩ | ⟨iata, spoken, read, wanted, ended⟩ := run_ends settings attempt
  · rw [ended]
    exact iff_of_true (start_allOrNothing settings)
      fun read wanted kept iata spoken => (silent read wanted kept iata spoken).elim
  · rw [ended]
    cases kept : retiresFirst upper settings attempt with
    | true =>
        refine iff_of_true (saved_retired settings ?_ _ iata) fun _ _ kept' => ?_
        · simp only [retiresFirst, Bool.and_eq_true] at kept
          exact kept.1.1
        · exact (Bool.false_ne_true (kept'.symm.trans kept)).elim
    | false =>
        have on : (attempt.enable && !settings.enabled) = true ∨ settings.enabled = true := by
          cases known : settings.enabled with
          | true => exact .inr rfl
          | false => exact .inl (by rw [known, Bool.or_false] at wanted; rw [wanted]; rfl)
        constructor
        · intro whole _ _ _ other spoken'
          cases spoken.symm.trans spoken'
          refine Bool.eq_false_of_not_eq_true fun fails => ?_
          unfold saved updated at whole
          rw [commits_of_failsBetween settings fails, fails, if_neg Bool.false_ne_true, if_pos rfl,
            if_pos rfl] at whole
          -- The publisher is the one of the beginning, if there is one.
          obtain ⟨-, -, publisher, runs, fresh⟩ := whole.all (Nat.succ_ne_zero _)
          obtain ⟨-, first⟩ := Option.ite_none_right_eq_some.mp runs
          cases first
          cases fresh
        · intro unbroken
          have between := unbroken read wanted kept iata spoken
          unfold saved updated
          rw [between, if_neg Bool.false_ne_true, if_neg Bool.false_ne_true]
          split_ifs
          · exact written_allOrNothing settings _ _ iata on
          · exact answered_allOrNothing settings iata

end Bind

/-- Community is off and has no IATA. -/
def off : Settings .asciiOnly := ⟨false, [], rfl⟩

/-- A join that Community answers; the settings are written, but cannot be read back. -/
def unreadJoin : Attempt where
  requested := ['L', 'Y', 'S']
  enable := true
  firstRead := true
  retire := .done
  bind := .answered ['L', 'Y', 'S']
  rowRead := true
  write := .raises true
  moveRead := true
  stateRead := true
  live := true
  retireCut := false
  updateCut := false
  restoreCut := false

/-- The join leaves Community on without a publisher. -/
theorem unreadJoin_unserved : (run .asciiOnly off unreadJoin).2.enabled = true ∧
    (run .asciiOnly off unreadJoin).2.publisher = none ∧
    ¬ AllOrNothing .asciiOnly off (run .asciiOnly off unreadJoin).2 := by
  have enabled : (run .asciiOnly off unreadJoin).2.enabled = true := by decide +kernel
  have iata : (run .asciiOnly off unreadJoin).2.iata ≠ [] := by decide +kernel
  have stopped : (run .asciiOnly off unreadJoin).2.publisher = none := by decide +kernel
  refine ⟨enabled, stopped, fun whole => ?_⟩
  obtain ⟨publisher, runs, -⟩ := whole.served enabled iata
  exact Option.some_ne_none publisher (runs.symm.trans stopped)

end Meshloom.IataBind
