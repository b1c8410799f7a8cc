import Meshloom.Proxy.Commands

/-! A proxy command that is answered with an error leaves the session as it was, with the two
exceptions among the channel commands: there the slot is changed before the call that raises. -/
namespace Meshloom.ProxyCommands
open Exchange Program
variable {α : Type}

/-- The slots and the contacts of two sessions agree. -/
structure SameRegisters (a b : Session) : Prop where
  slots : a.slots = b.slots
  cleared : a.cleared = b.cleared
  added : a.added = b.added
  hidden : a.hidden = b.hidden

/-- The session is left as it was, whatever was written. -/
structure Keeps (s t : Client) : Prop where
  same : SameRegisters s.session t.session
  written : ∃ frames, t.written = s.written ++ frames

instance keepsRefl : Std.Refl Keeps := ⟨fun _ => ⟨⟨rfl, rfl, rfl, rfl⟩, [], (List.append_nil _).symm⟩⟩

instance keepsTrans : IsTrans Client Keeps where
  trans := by
    rintro a b c ⟨⟨slots, cleared, added, hidden⟩, frames, written⟩
      ⟨⟨slots', cleared', added', hidden'⟩, frames', written'⟩
    exact ⟨⟨slots.trans slots', cleared.trans cleared', added.trans added', hidden.trans hidden'⟩,
      frames ++ frames', by rw [written', written, List.append_assoc]⟩

section Respects

theorem respects_ask (answer : Outcome → α) : Respects Keeps (ask answer) :=
  Respects.exchange fun _ _ => ⟨⟨rfl, rfl, rfl, rfl⟩, [], (List.append_nil _).symm⟩

theorem respects_write (frame : Frame) : Respects Keeps (writeResponse frame) := by
  refine Respects.exchange fun outcome client => ?_
  dsimp only
  split
  · exact ⟨⟨rfl, rfl, rfl, rfl⟩, [], (List.append_nil _).symm⟩
  · split
    · exact ⟨⟨rfl, rfl, rfl, rfl⟩, [], (List.append_nil _).symm⟩
    · exact ⟨⟨rfl, rfl, rfl, rfl⟩, [frame], rfl⟩

theorem respects_valid (value : Option α) : Respects Keeps (valid value) := by
  cases value with
  | none => exact Respects.raise _
  | some a => exact Respects.pure a

theorem respects_writeAll (frames : List Frame) : Respects Keeps (writeAll frames) := by
  induction frames with
  | nil => exact Respects.pure ()
  | cons frame rest ih => exact (respects_write frame).bind fun _ => ih

theorem respects_writeContacts (since : Nat) : Respects Keeps (writeContacts since) :=
  (respects_ask _).bind fun _ => (Respects.inspect _).bind fun _ =>
    (respects_valid _).bind fun _ => respects_writeAll _

theorem respects_writeContactByKey (payload : List UInt8) :
    Respects Keeps (writeContactByKey payload) := by
  unfold writeContactByKey
  split
  · exact respects_write _
  refine (respects_ask _).bind fun host => (Respects.inspect _).bind fun current => ?_
  split
  · exact respects_write _
  · exact (respects_valid _).bind respects_write
  · exact (respects_valid _).bind respects_write

theorem respects_syncNextMessage : Respects Keeps syncNextMessage :=
  (Respects.inspect _).bind fun _ =>
    (Respects.update fun _ => ⟨⟨rfl, rfl, rfl, rfl⟩, [], (List.append_nil _).symm⟩).bind fun _ =>
      respects_write _

theorem respects_unlessHttp {program : Handler α} (respects : Respects Keeps program) :
    Respects Keeps (unlessHttp program) := by
  refine (respects.bind fun _ => Respects.pure _).recover fun failure => ?_
  split
  · exact Respects.pure none
  · exact Respects.raise _

theorem respects_resolveDest (dest : List UInt8) : Respects Keeps (resolveDest dest) := by
  refine (Respects.inspect _).bind fun before => Respects.recover ?_ fun failure => ?_
  · refine (respects_ask _).bind fun host => (Respects.inspect _).bind fun current => ?_
    dsimp only
    split
    · split
      · exact Respects.pure _
      · exact Respects.pure _
    · exact Respects.pure _
    · exact Respects.pure _
    · exact Respects.pure _
  · split
    · exact Respects.pure none
    · exact Respects.raise _

theorem respects_sendDirect (payload : List UInt8) : Respects Keeps (sendDirect payload) := by
  refine (respects_valid _).bind fun parsed => ?_
  split
  · exact respects_write _
  refine (respects_resolveDest _).bind fun dest => ?_
  split
  · exact respects_write _
  · exact respects_write _
  refine (respects_unlessHttp (respects_ask _)).bind fun result => ?_
  split
  · exact respects_write _
  · exact (respects_valid _).bind fun _ => (respects_valid _).bind respects_write

theorem respects_sendChannel (payload : List UInt8) : Respects Keeps (sendChannel payload) := by
  refine (respects_valid _).bind fun parsed => (Respects.inspect _).bind fun current => ?_
  split
  · exact respects_write _
  · exact respects_write _
  refine (respects_ask _).bind fun channel => ?_
  split
  · exact respects_write _
  refine (respects_unlessHttp ((respects_valid _).bind fun _ => respects_ask _)).bind fun sent => ?_
  split
  · exact respects_write _
  · exact respects_write _

theorem respects_handleSend (command : CommandType) (payload : List UInt8) :
    Respects Keeps (handleSend command payload) := by
  refine (respects_ask _).bind fun connected => ?_
  split
  · exact respects_write _
  · split
    · exact respects_sendDirect payload
    · exact respects_sendChannel payload
    · exact respects_write _

end Respects

section Answers
variable {w after : World Client Outcome}

/-- The next write reaches the client. -/
def Reaches (w : World Client Outcome) : Prop :=
  w.state.closed = false ∧ w.state.connected = true ∧
    (w.outcomes w.next).stops = false ∧ (w.outcomes w.next).lost = false

theorem run_write (frame : Frame) (reaches : Reaches w) :
    writeResponse frame w =
      (.ok (), { w with
        state := { w.state with written := w.state.written ++ [frame] }, next := w.next + 1 }) := by
  obtain ⟨opened, connected, runs, holds⟩ := reaches
  rw [writeResponse, run_exchange]
  simp [Client.after, opened, connected, runs, holds]

/-- A write that does not reach the client writes nothing, and a failed one is the last. -/
theorem run_write_lost (frame : Frame) (cut : ¬ Reaches w) :
    SameRegisters w.state.session (writeResponse frame w).2.state.session ∧
      (writeResponse frame w).2.state.written = w.state.written ∧
      ((∃ a, (writeResponse frame w).1 = .ok a) ∨ ¬ Reaches (writeResponse frame w).2) := by
  rw [writeResponse, run_exchange]
  dsimp only
  split
  · exact ⟨⟨rfl, rfl, rfl, rfl⟩, rfl, .inl ⟨(), rfl⟩⟩
  · rename_i opened
    split
    · refine ⟨⟨rfl, rfl, rfl, rfl⟩, rfl, .inr ?_⟩
      rintro ⟨_, connected, _⟩
      simp at connected
    · rename_i holds
      refine (cut ?_).elim
      simp only [Client.after, Bool.or_eq_true, not_or, Bool.not_eq_true, Bool.not_eq_false'] at opened holds
      exact ⟨opened.1, by simpa using holds.2, opened.2, holds.1⟩

/-- The command was answered with an error. -/
def Refused (w after : World Client Outcome) : Prop :=
  .error ∈ after.state.written.drop w.state.written.length

/-- A handler that leaves the session as it was, or ends without an error and without one to
come. -/
def Harmless (w : World Client Outcome) (ended : Except Failure Unit × World Client Outcome) :
    Prop :=
  Keeps w.state ended.2.state ∨
    (∃ frames, ended.2.state.written = w.state.written ++ frames ∧ .error ∉ frames) ∧
      ((∃ a, ended.1 = .ok a) ∨ ¬ Reaches ended.2)

theorem not_refused {frames : List Frame} (written : after.state.written = w.state.written ++ frames)
    (granted : .error ∉ frames) : ¬ Refused w after := by
  rw [Refused, written, List.drop_left]
  exact granted

theorem Harmless.refused {program : Handler Unit} (harmless : Harmless w (program w))
    (refused : Refused w (recover program (fun _ => writeResponse .error) w).2) :
    SameRegisters w.state.session
      (recover program (fun _ => writeResponse .error) w).2.state.session := by
  cases ended : program w with
  | mk result after =>
      rw [ended] at harmless
      cases result with
      | ok =>
          rw [run_recover_ok ended] at refused ⊢
          rcases harmless with kept | ⟨⟨frames, written, granted⟩, _⟩
          · exact kept.same
          · exact (not_refused written granted refused).elim
      | error failure =>
          rw [run_recover_error ended] at refused ⊢
          rcases harmless with kept | ⟨⟨frames, written, granted⟩, ⟨_, contra⟩ | cut⟩
          · exact (keepsTrans.trans _ _ _ kept (respects_write .error after)).same
          · cases contra
          · obtain ⟨_, silent, _⟩ := run_write_lost .error cut
            exact (not_refused (silent.trans written) granted refused).elim

theorem harmless_keeps {program : Handler Unit} (respects : Respects Keeps program) :
    Harmless w (program w) :=
  .inl (respects w)

/-- Whatever the session was changed to, an answer that is no error ends the command. -/
theorem harmless_answer {frame : Frame} (granted : frame ≠ .error) {changed : World Client Outcome}
    (written : changed.state.written = w.state.written) :
    Harmless w (writeResponse frame changed) := by
  by_cases reaches : Reaches changed
  · rw [run_write frame reaches]
    exact .inr ⟨⟨[frame], by simp [written], by simpa using granted.symm⟩, .inl ⟨(), rfl⟩⟩
  · obtain ⟨_, silent, ended⟩ := run_write_lost frame reaches
    exact .inr ⟨⟨[], by simp [silent, written], by simp⟩, ended⟩

theorem harmless_addUpdateContact (payload : List UInt8) :
    Harmless w (addUpdateContact payload w) := by
  unfold addUpdateContact
  cases parseAddContact payload with
  | none => exact .inl (Std.Refl.refl _)
  | some parsed => exact harmless_answer (by simp) rfl

theorem harmless_removeContact (payload : List UInt8) : Harmless w (removeContact payload w) := by
  unfold removeContact
  cases parseRemoveContactKey payload with
  | none => exact .inl (Std.Refl.refl _)
  | some parsed => exact harmless_answer (by simp) rfl

/-- The answer of a command that makes one call of the host reaches the client. -/
def Answered (w : World Client Outcome) : Prop :=
  w.state.closed = false ∧ w.state.connected = true ∧ (w.outcomes w.next).stops = false ∧
    (w.outcomes (w.next + 1)).stops = false ∧ (w.outcomes (w.next + 1)).lost = false

/-- A slot that is set to another channel, or back from cleared, while its channel cannot be
adopted. -/
def SetSlips (w : World Client Outcome) (parsed : SetChannelCommand) : Prop :=
  parsed.empty = false ∧ (w.outcomes w.next).raises ≠ none ∧
    (parsed.channelIdx ∈ w.state.session.cleared ∨
      w.state.session.slots.get? parsed.channelIdx ≠ some (channelKeyFromSecret parsed.secret)) ∧
    Answered w

/-- A slot that is filled from a channel of the host whose key is no secret. -/
def GetSlips (w : World Client Outcome) (idx : Nat) : Prop :=
  idx ∉ w.state.session.cleared ∧ w.state.session.slots.get? idx = none ∧
    (w.outcomes w.next).raises = none ∧
    (∃ channel, (projectHostChannels (w.outcomes w.next).channels)[idx]? = some channel ∧
      channelSecret channel.key = none) ∧
    Answered w

/-- The world once a changed session has asked the host. -/
def asked (w : World Client Outcome) (f : Session → Session) : World Client Outcome :=
  { w with
    state := Client.after { w.state with session := f w.state.session } (w.outcomes w.next)
    next := w.next + 1 }

theorem ask_ok (answer : Outcome → α) (answers : (w.outcomes w.next).raises = none) :
    ask answer w = (.ok (answer (w.outcomes w.next)), asked w id) := by
  rw [ask, run_exchange]
  simp only [answers]
  rfl

theorem ask_raises (answer : Outcome → α) {failure : Failure}
    (raises : (w.outcomes w.next).raises = some failure) :
    ask answer w = (.error failure, asked w id) := by
  rw [ask, run_exchange]
  simp only [raises]
  rfl

theorem reaches_asked (f : Session → Session) : Reaches (asked w f) ↔ Answered w := by
  simp only [Reaches, asked, Client.after, Answered, Bool.or_eq_false_iff]
  tauto

def occupied (parsed : SetChannelCommand) (session : Session) : Session :=
  { session with
    cleared := session.cleared.erase parsed.channelIdx
    slots := session.slots.set parsed.channelIdx (channelKeyFromSecret parsed.secret) }

theorem setChannel_raises {payload : List UInt8} {parsed : SetChannelCommand} {failure : Failure}
    (read : parseSetChannel payload = some parsed) (some_channel : parsed.empty = false)
    (raises : (w.outcomes w.next).raises = some failure) :
    setChannel payload w = (.error failure, asked w (occupied parsed)) := by
  rw [setChannel, read]
  refine (run_bind_ok rfl).trans ?_
  rw [if_neg (by simp [some_channel])]
  exact (run_bind_ok rfl).trans (run_bind_error (ask_raises _ raises))

theorem harmless_setChannel (payload : List UInt8)
    (clear : ∀ parsed, parseSetChannel payload = some parsed → ¬ SetSlips w parsed) :
    Harmless w (setChannel payload w) := by
  cases read : parseSetChannel payload with
  | none =>
      rw [setChannel, read]
      exact .inl (Std.Refl.refl _)
  | some parsed =>
      cases empty : parsed.empty with
      | true =>
          have ran : setChannel payload w = writeResponse .ok { w with
              state := { w.state with session := { w.state.session with
                slots := w.state.session.slots.pop parsed.channelIdx
                cleared := insert parsed.channelIdx w.state.session.cleared } } } := by
            rw [setChannel, read]
            refine (run_bind_ok rfl).trans ?_
            rw [if_pos empty]
            exact run_bind_ok rfl
          rw [ran]
          exact harmless_answer (by simp) rfl
      | false =>
          cases raises : (w.outcomes w.next).raises with
          | none =>
              have ran : setChannel payload w = writeResponse .ok (asked w (occupied parsed)) := by
                rw [setChannel, read]
                refine (run_bind_ok rfl).trans ?_
                rw [if_neg (by simp [empty])]
                exact (run_bind_ok rfl).trans (run_bind_ok (ask_ok _ raises))
              rw [ran]
              exact harmless_answer (by simp) rfl
          | some failure =>
              rw [setChannel_raises read empty raises]
              by_cases answered : Answered w
              · left
                have unchanged : ¬ (parsed.channelIdx ∈ w.state.session.cleared ∨
                    w.state.session.slots.get? parsed.channelIdx ≠
                      some (channelKeyFromSecret parsed.secret)) :=
                  fun changes => clear parsed read ⟨empty, by simp [raises], changes, answered⟩
                obtain ⟨open_, held⟩ := not_or.mp unchanged
                exact ⟨⟨(Dict.set_eq_self (not_not.mp held)).symm,
                  (Finset.erase_eq_of_notMem open_).symm, rfl, rfl⟩, [], (List.append_nil _).symm⟩
              · exact .inr ⟨⟨[], (List.append_nil _).symm, by simp⟩,
                  .inr fun reaches => answered ((reaches_asked _).mp reaches)⟩

def filled (idx : Nat) (channel : HostChannel) (session : Session) : Session :=
  { session with slots := session.slots.set idx (channel.key.map Char.toUpper) }

theorem respects_storedChannelInfo (idx : Nat) : Respects Keeps (storedChannelInfo idx) := by
  refine (respects_ask _).bind fun stored => ?_
  split
  · exact Respects.pure _
  · exact (respects_valid _).bind fun _ => Respects.pure _

theorem run_channelInfo (idx : Nat) : channelInfo idx w =
    (if idx ∈ w.state.session.cleared then pure (noChannel idx)
      else if (w.state.session.slots.get? idx).isSome then storedChannelInfo idx
      else hostChannelInfo idx : Handler Frame) w :=
  run_bind_ok rfl

/-- The first look at a slot fills it with the channel of the host. -/
theorem channelInfo_fills {idx : Nat} {channel : HostChannel}
    (shown : idx ∉ w.state.session.cleared) (vacant : w.state.session.slots.get? idx = none)
    (answers : (w.outcomes w.next).raises = none)
    (projected : (projectHostChannels (w.outcomes w.next).channels)[idx]? = some channel) :
    channelInfo idx w =
      (valid (channelSecret channel.key) >>= fun secret =>
        pure (.channelInfo idx channel.name secret)) (asked w (filled idx channel)) := by
  rw [run_channelInfo, if_neg shown, if_neg (by simp [vacant])]
  refine (run_bind_ok (ask_ok _ answers)).trans ?_
  simp only [projected]
  exact run_bind_ok rfl

/-- Every other look at a slot leaves the session as it was. -/
theorem channelInfo_keeps {idx : Nat}
    (plain : idx ∈ w.state.session.cleared ∨ w.state.session.slots.get? idx ≠ none ∨
      (w.outcomes w.next).raises ≠ none ∨
      (projectHostChannels (w.outcomes w.next).channels)[idx]? = none) :
    Keeps w.state (channelInfo idx w).2.state := by
  rw [run_channelInfo]
  split
  · exact Std.Refl.refl _
  split
  · exact respects_storedChannelInfo idx w
  rename_i shown vacant
  simp only [Option.not_isSome_iff_eq_none] at vacant
  cases raises : (w.outcomes w.next).raises with
  | some failure =>
      rw [hostChannelInfo, run_bind_error (ask_raises _ raises)]
      exact respects_ask (fun _ => ()) w
  | none =>
      simp only [shown, vacant, raises, ne_eq, not_true, false_or] at plain
      rw [hostChannelInfo, run_bind_ok (ask_ok _ raises)]
      simp only [plain]
      exact respects_ask (fun _ => ()) w

theorem harmless_getChannel (payload : List UInt8)
    (clear : ∀ idx, parseGetChannelIdx payload = some idx → ¬ GetSlips w idx) :
    Harmless w (getChannel payload w) := by
  cases read : parseGetChannelIdx payload with
  | none =>
      rw [getChannel, read]
      exact .inl (Std.Refl.refl _)
  | some idx =>
      have ran : getChannel payload w = (channelInfo idx >>= writeResponse) w := by
        rw [getChannel, read]
        exact run_bind_ok rfl
      rw [ran]
      by_cases plain : idx ∈ w.state.session.cleared ∨ w.state.session.slots.get? idx ≠ none ∨
          (w.outcomes w.next).raises ≠ none ∨
          (projectHostChannels (w.outcomes w.next).channels)[idx]? = none
      · left
        have kept := channelInfo_keeps plain
        cases ended : channelInfo idx w with
        | mk result after =>
            rw [ended] at kept
            cases result with
            | ok frame =>
                rw [run_bind_ok ended]
                exact keepsTrans.trans _ _ _ kept (respects_write frame after)
            | error failure =>
                rw [run_bind_error ended]
                exact kept
      · simp only [not_or, ne_eq, not_not] at plain
        obtain ⟨shown, vacant, answers, projected⟩ := plain
        obtain ⟨channel, projected⟩ := Option.ne_none_iff_exists'.mp projected
        have filling := channelInfo_fills shown vacant answers projected
        cases secret : channelSecret channel.key with
        | some secret' =>
            rw [secret] at filling
            rw [run_bind_ok (filling.trans (run_bind_ok rfl))]
            exact harmless_answer (by simp) rfl
        | none =>
            rw [secret] at filling
            rw [run_bind_error (filling.trans (run_bind_error rfl))]
            refine .inr ⟨⟨[], (List.append_nil _).symm, by simp⟩, .inr fun reaches => ?_⟩
            exact clear idx read ⟨shown, vacant, answers, ⟨channel, projected, secret⟩,
              (reaches_asked _).mp reaches⟩

theorem harmless_handleVirtual (command : CommandType) (payload : List UInt8)
    (set_clear : command = .setChannel →
      ∀ parsed, parseSetChannel payload = some parsed → ¬ SetSlips w parsed)
    (get_clear : command = .getChannel →
      ∀ idx, parseGetChannelIdx payload = some idx → ¬ GetSlips w idx) :
    Harmless w (handleVirtual command payload w) := by
  cases command with
  | appStart =>
      refine harmless_keeps ((respects_ask _).bind fun frame => ?_)
      cases frame <;> exact respects_write _
  | deviceQuery => exact harmless_keeps ((respects_ask _).bind fun _ => respects_write _)
  | getDeviceTime => exact harmless_keeps ((respects_ask _).bind fun _ => respects_write _)
  | getBattAndStorage => exact harmless_keeps ((respects_ask _).bind fun _ => respects_write _)
  | hasConnection => exact harmless_keeps ((respects_ask _).bind fun _ => respects_write _)
  | setDeviceTime => exact harmless_keeps (respects_write _)
  | resetPath => exact harmless_keeps (respects_write _)
  | sendTxtMsg => exact harmless_keeps (respects_write _)
  | sendChannelTxtMsg => exact harmless_keeps (respects_write _)
  | exportPrivateKey => exact harmless_keeps (respects_write _)
  | getContacts => exact harmless_keeps (respects_writeContacts _)
  | getContactByKey => exact harmless_keeps (respects_writeContactByKey _)
  | syncNextMessage => exact harmless_keeps respects_syncNextMessage
  | addUpdateContact => exact harmless_addUpdateContact payload
  | removeContact => exact harmless_removeContact payload
  | getChannel => exact harmless_getChannel payload (get_clear rfl)
  | setChannel => exact harmless_setChannel payload (set_clear rfl)

/-- A handler that fails after it changed the session, when the answer can still be written. -/
theorem changed_refused {program : Handler Unit} {failure : Failure} {f : Session → Session}
    (ended : program w = (.error failure, asked w f)) (answered : Answered w)
    (changes : ¬ SameRegisters w.state.session (f w.state.session)) :
    Refused w (recover program (fun _ => writeResponse .error) w).2 ∧
      ¬ SameRegisters w.state.session
        (recover program (fun _ => writeResponse .error) w).2.state.session := by
  rw [run_recover_error ended, run_write .error ((reaches_asked f).mpr answered)]
  refine ⟨?_, changes⟩
  simp [Refused, asked, Client.after]

end Answers

/-- The two ways in which a channel command fails after it changed its slot. -/
def Slips (commandType : UInt8 → Option CommandType) (payload : List UInt8)
    (w : World Client Outcome) : Prop :=
  ∃ code rest, payload = code :: rest ∧
    ((commandType code = some .setChannel ∧
        ∃ parsed, parseSetChannel payload = some parsed ∧ SetSlips w parsed) ∨
      (commandType code = some .getChannel ∧
        ∃ idx, parseGetChannelIdx payload = some idx ∧ GetSlips w idx))

/-- A command that is answered with an error leaves the slots and the contacts of its session as
they were, unless a channel cannot be adopted or read after its slot was changed. -/
theorem refused_keeps_session_iff (commandType : UInt8 → Option CommandType) (payload : List UInt8)
    (w : World Client Outcome) :
    (Refused w (handleCommand commandType payload w).2 →
        SameRegisters w.state.session (handleCommand commandType payload w).2.state.session) ↔
      ¬ Slips commandType payload w := by
  constructor
  · rintro kept ⟨code, rest, rfl, ⟨command, parsed, read, empty, raises, changes, answered⟩ |
      ⟨command, idx, read, shown, vacant, answers, ⟨channel, projected, secret⟩, answered⟩⟩
    · obtain ⟨failure, raises⟩ := Option.ne_none_iff_exists'.mp raises
      have changed : ¬ SameRegisters w.state.session (occupied parsed w.state.session) := by
        rintro ⟨slots, cleared, _, _⟩
        rcases changes with closed | other
        · rw [cleared] at closed
          exact Finset.notMem_erase _ _ closed
        · rw [slots] at other
          exact other (by simp [occupied, Dict.get?_set])
      have run := changed_refused (setChannel_raises read empty raises) answered changed
      simp only [handleCommand, command] at kept
      exact run.2 (kept run.1)
    · have changed : ¬ SameRegisters w.state.session (filled idx channel w.state.session) := by
        rintro ⟨slots, _, _, _⟩
        rw [slots] at vacant
        simp [filled, Dict.get?_set] at vacant
      have ended : getChannel (code :: rest) w = (.error .other, asked w (filled idx channel)) := by
        have filling := channelInfo_fills shown vacant answers projected
        rw [secret] at filling
        rw [getChannel, read]
        exact (run_bind_ok rfl).trans (run_bind_error (filling.trans (run_bind_error rfl)))
      have run := changed_refused ended answered changed
      simp only [handleCommand, command] at kept
      exact run.2 (kept run.1)
  · intro clear refused
    cases payload with
    | nil => exact (respects_write .error w).same
    | cons code rest =>
        refine Harmless.refused ?_ refused
        cases named : commandType code with
        | none => exact harmless_keeps (respects_write _)
        | some command =>
            dsimp only
            cases classifyCommand (some command) with
            | disabled => exact harmless_keeps (respects_write _)
            | error => exact harmless_keeps (respects_write _)
            | send => exact harmless_keeps (respects_handleSend command _)
            | virtualize =>
              refine harmless_handleVirtual command _ ?_ ?_
              · rintro rfl parsed read slips
                exact clear ⟨code, rest, rfl, .inl ⟨named, parsed, read, slips⟩⟩
              · rintro rfl idx read slips
                exact clear ⟨code, rest, rfl, .inr ⟨named, idx, read, slips⟩⟩

/-- A channel that the host cannot adopt: the answer is an error, and the slot holds it. -/
theorem failed_adoption_changes_slot :
    ∃ (commandType : UInt8 → Option CommandType) (payload : List UInt8)
      (w : World Client Outcome),
      Refused w (handleCommand commandType payload w).2 ∧
        ¬ SameRegisters w.state.session
          (handleCommand commandType payload w).2.state.session := by
  let commandType : UInt8 → Option CommandType := fun code =>
    if code = 32 then some .setChannel else none
  let payload : List UInt8 := 32 :: 2 :: (0x23 :: List.replicate 31 0x61) ++ List.replicate 16 7
  let client : Client := ⟨⟨.empty, ∅, .empty, ∅, []⟩, false, true, []⟩
  let fails : Outcome :=
    ⟨some .other, false, false, none, [], [], 0, true, [], none, [], none, ⟨none, 0⟩⟩
  let goesOn : Outcome := { fails with raises := none }
  let w : World Client Outcome := ⟨client, fun n => if n = 0 then fails else goesOn, 0⟩
  refine ⟨commandType, payload, w, ?_, fun same => ?_⟩
  · have answered : Frame.error ∈ (handleCommand commandType payload w).2.state.written := by
      decide +kernel
    exact answered
  · have slot : ((handleCommand commandType payload w).2.state.session.slots.get? 2).isSome := by
      decide +kernel
    rw [← same.slots] at slot
    exact absurd slot (by decide)

end Meshloom.ProxyCommands
