import Meshloom.Radio.WifiPrompt

/-! A session keeps its connection from start to end, what is cached is of the connected radio, and
a dismissal that returned is in the database for every later session and among the dismissed keys
for the one in flight. The write of a dismissal waits for the database since its radio was the
connected one, so a setup or a session of another radio has its answers behind it. -/
namespace Meshloom.WifiPrompt
open WifiState Transition
variable {K : Type}

/-- The key that a change brings along. -/
def Kind.key? : Kind K → Option K
  | .store publicKey | .setEnabled publicKey => some publicKey
  | _ => none

namespace Phase

def token? : Phase K → Option WriteToken
  | .reading token | .recording token _ _ | .asking token _ | .composing token _ _
  | .noting token _ _ | .noted token _ _ _ => some token
  | _ => none

/-- The record that a session was answered with. -/
def entry? : Phase K → Option PromptEntry
  | .composing _ _ entry | .noted _ _ _ entry => some entry
  | _ => none

/-- The session waits for the database, or has its answer. -/
def asks : Phase K → Bool
  | .recording _ _ _ | .asking _ _ | .composing _ _ _ | .noting _ _ _ | .noted _ _ _ _ => true
  | _ => false

/-- The cached entry that a session works on. -/
def cached? : Phase K → Option (CacheEntry K)
  | .noting _ cached _ | .noted _ cached _ _ => some cached
  | _ => none

end Phase

/-- Only disconnects wait behind a setup, for which setup is not complete; while it is, a change
that waits has the key of the connected radio. -/
structure QueueSound (queue : List (Waiter K)) (setupComplete : Bool) (meshcore : Option K) :
    Prop where
  behind : queue.Pairwise fun first second => first = .setup → second = .disconnect
  incomplete : .setup ∈ queue → setupComplete = false
  keyed : setupComplete = true → ∀ kind, .session kind ∈ queue → ∀ key, kind.key? = some key →
    meshcore = some key

/-- While a setup holds the radio lock it is not complete, no session runs and only disconnects
wait. -/
structure SetupSound (setup : Option Setup) (queue : List (Waiter K)) (setupComplete : Bool)
    (meshcore : Option K) (holder : Option (Session K)) : Prop where
  connected : setupComplete = true → meshcore.isSome = true
  running : ∀ stage, setup = some stage → setupComplete = false ∧ meshcore.isSome = true ∧
    holder = none ∧ ∀ waiter ∈ queue, waiter = .disconnect

/-- Behind a session there is no second one and no dismissal of another radio, behind a setup no
second one and no read of the bound key. -/
def InOrder (meshcore : Option K) (first second : Call K) : Prop :=
  (first = .session → second ≠ .session ∧
    ∀ key marked, second = .dismissal key marked → meshcore = some key) ∧
  (first = .setup → second ≠ .setup ∧ ∀ shown, second ≠ .bound shown)

/-- The calls of the database are those of the holders of the radio lock and of the dismissals. While
the bound key is to be read no setup has gone on, and while a radio that is not connected is to be
dismissed no prompt is wanted. -/
structure DatabaseSound (database : List (Call K)) (meshcore : Option K)
    (holder : Option (Session K)) (setup : Option Setup) (setupComplete : Bool)
    (cache : Option (CacheEntry K)) : Prop where
  ordered : database.Pairwise (InOrder meshcore)
  asked : .session ∈ database → ∃ session, holder = some session ∧ session.phase.asks = true
  answered : ∀ session, holder = some session → session.phase.entry? ≠ none →
    database.head? = some .session
  setups : .setup ∈ database → setup = some .asking
  bound : ∀ shown, .bound shown ∈ database →
    setupComplete = false ∧ holder = none ∧ cache = none ∧ setup ≠ some .identified
  foreign : ∀ key marked, .dismissal key marked ∈ database →
    meshcore = some key ∨ ∀ entry, cache = some entry → entry.promptWanted = false

/-- A session works on the connection that it was opened on, with a token that is current. -/
structure SessionSound (session : Session K) (meshcore : Option K) (connection : Nat)
    (token : WriteToken) (dismissedKeys returned : List K) : Prop where
  connected : ∃ key, meshcore = some key ∧ (∀ other, session.kind.key? = some other → other = key) ∧
    (session.phase.token? ≠ none → session.publicKey = some key)
  connection : session.connection = connection
  token : ∀ taken, session.phase.token? = some taken → taken = token
  captured : ∀ entry, session.phase.entry? = some entry → ∀ key ∈ returned,
    session.publicKey = some key → entry.dismissedAt.isSome = true ∨ key ∈ dismissedKeys
  cached : ∀ entry, session.phase.cached? = some entry →
    entry.state.radioPublicKey = session.publicKey

/-- An entry is of the connection and its radio, and its prompt is what its state wanted unless
the radio was dismissed or a restore runs. -/
structure EntrySound (entry : CacheEntry K) (meshcore : Option K) (connection generation link : Nat)
    (dismissedKeys returned : List K) (running : Bool) : Prop where
  generation : entry.generation = generation
  link : entry.link = link
  connection : entry.connection = connection
  connected : ∃ key, meshcore = some key ∧ entry.state.radioPublicKey = some key
  wanted : entry.promptWanted = true ↔ entry.composed = true ∧
    ∀ key ∈ dismissedKeys, entry.state.radioPublicKey ≠ some key
  needed : entry.state.promptNeeded = (entry.promptWanted && !running)
  silent : ∀ key ∈ returned, entry.state.radioPublicKey = some key → entry.promptWanted = false

/-- A dismissal is in the database once it is marked, and for good once it returned. -/
structure MarksSound [DecidableEq K] (promptState : Dict K PromptEntry)
    (database : List (Call K)) (dismissedKeys returned : List K) : Prop where
  marked : ∀ key, .dismissal key true ∈ database →
    ((promptState.get? key).getD .empty).dismissedAt.isSome = true
  recorded : ∀ key ∈ returned, ((promptState.get? key).getD .empty).dismissedAt.isSome = true
  keys : ∀ key ∈ dismissedKeys, key ∈ returned

/-- No broadcast asked for a radio whose dismissal had returned. -/
def SaidSound (broadcasts : List (RadioWifiState K × List K)) : Prop :=
  ∀ said ∈ broadcasts, ∀ key ∈ said.2, said.1.radioPublicKey = some key →
    said.1.promptNeeded = false

structure Sound [DecidableEq K] (s : Service K) : Prop where
  queue : QueueSound s.queue s.setupComplete s.meshcore
  setup : SetupSound s.setup s.queue s.setupComplete s.meshcore s.holder
  held : ∀ session, s.holder = some session → SessionSound session s.meshcore s.connection s.token
    s.dismissedKeys s.returned
  cached : ∀ entry, s.cache = some entry → EntrySound entry s.meshcore s.connection s.generation
    s.cliLink s.dismissedKeys s.returned s.restoreJobRunning
  calls : DatabaseSound s.database s.meshcore s.holder s.setup s.setupComplete s.cache
  marks : MarksSound s.promptState s.database s.dismissedKeys s.returned
  said : SaidSound s.broadcasts

section Queue
variable {queue : List (Waiter K)} {setupComplete : Bool} {meshcore : Option K}

/-- A queue without some of its waiters. -/
theorem QueueSound.sublist (sound : QueueSound queue setupComplete meshcore)
    {left : List (Waiter K)} (sublist : left.Sublist queue) :
    QueueSound left setupComplete meshcore :=
  ⟨sound.behind.sublist sublist, fun member => sound.incomplete (sublist.subset member),
    fun complete kind member => sound.keyed complete kind (sublist.subset member)⟩

theorem QueueSound.incomplete_any (sound : QueueSound queue setupComplete meshcore)
    (other : Option K) : QueueSound queue false other :=
  ⟨sound.behind, fun _ => rfl, fun complete => by cases complete⟩

theorem QueueSound.request (sound : QueueSound queue true meshcore) {kind : Kind K}
    (keyed : ∀ key, kind.key? = some key → meshcore = some key) :
    QueueSound (queue ++ [.session kind]) true meshcore where
  behind := by
    refine List.pairwise_append.mpr ⟨sound.behind, List.pairwise_singleton _ _, ?_⟩
    rintro first member second - rfl
    cases sound.incomplete member
  incomplete member := by
    obtain member | member := List.mem_append.mp member
    · exact sound.incomplete member
    · cases List.mem_singleton.mp member
  keyed _ other member := by
    obtain member | member := List.mem_append.mp member
    · exact sound.keyed rfl other member
    · cases List.mem_singleton.mp member
      exact keyed

theorem QueueSound.requestDisconnect (sound : QueueSound queue setupComplete meshcore) :
    QueueSound (queue ++ [.disconnect]) setupComplete meshcore where
  behind := by
    refine List.pairwise_append.mpr ⟨sound.behind, List.pairwise_singleton _ _, ?_⟩
    intro first _ second member _
    exact List.mem_singleton.mp member
  incomplete member := by
    obtain member | member := List.mem_append.mp member
    · exact sound.incomplete member
    · cases List.mem_singleton.mp member
  keyed complete other member := by
    obtain member | member := List.mem_append.mp member
    · exact sound.keyed complete other member
    · cases List.mem_singleton.mp member

theorem QueueSound.requestSetup (sound : QueueSound queue setupComplete meshcore)
    (first : .setup ∉ queue) : QueueSound (queue ++ [.setup]) false meshcore where
  behind := by
    refine List.pairwise_append.mpr ⟨sound.behind, List.pairwise_singleton _ _, ?_⟩
    rintro _ member second - rfl
    exact (first member).elim
  incomplete _ := rfl
  keyed complete := by cases complete

/-- Behind a setup that completes, no session waits. -/
theorem QueueSound.finishSetup {rest : List (Waiter K)}
    (sound : QueueSound (.setup :: rest) setupComplete meshcore) : QueueSound rest true meshcore where
  behind := (List.pairwise_cons.mp sound.behind).2
  incomplete member := by cases (List.pairwise_cons.mp sound.behind).1 _ member rfl
  keyed _ kind member := by cases (List.pairwise_cons.mp sound.behind).1 _ member rfl

end Queue

section Setup
variable {setup : Option Setup} {queue : List (Waiter K)} {setupComplete : Bool}
  {meshcore : Option K} {holder : Option (Session K)} {session : Session K}

/-- Without a setup there is only the connection to keep. -/
theorem SetupSound.idle (free : setup = none)
    (connected : setupComplete = true → meshcore.isSome = true) :
    SetupSound setup queue setupComplete meshcore holder :=
  ⟨connected, fun _ running => by cases free.symm.trans running⟩

theorem SetupSound.free (sound : SetupSound setup queue setupComplete meshcore (some session)) :
    setup = none := by
  cases running : setup with
  | none => rfl
  | some stage => cases (sound.running stage running).2.2.1

/-- The session that holds the lock goes on. -/
theorem SetupSound.hold (sound : SetupSound setup queue setupComplete meshcore (some session))
    (holder : Option (Session K)) : SetupSound setup queue setupComplete meshcore holder :=
  .idle sound.free sound.connected

theorem SetupSound.sublist (sound : SetupSound setup queue setupComplete meshcore holder)
    {left : List (Waiter K)} (sublist : left.Sublist queue) :
    SetupSound setup left setupComplete meshcore holder := by
  refine ⟨sound.connected, fun stage running => ?_⟩
  obtain ⟨incomplete, connected, free, waiting⟩ := sound.running stage running
  exact ⟨incomplete, connected, free, fun waiter member => waiting waiter (sublist.subset member)⟩

theorem SetupSound.append (sound : SetupSound setup queue setupComplete meshcore holder)
    {waiter : Waiter K} (allowed : setupComplete = false → waiter = .disconnect) :
    SetupSound setup (queue ++ [waiter]) setupComplete meshcore holder := by
  refine ⟨sound.connected, fun stage running => ?_⟩
  obtain ⟨incomplete, connected, free, waiting⟩ := sound.running stage running
  refine ⟨incomplete, connected, free, fun other member => ?_⟩
  obtain member | member := List.mem_append.mp member
  · exact waiting other member
  · cases List.mem_singleton.mp member
    exact allowed incomplete

theorem SetupSound.incomplete (sound : SetupSound setup queue setupComplete meshcore holder) :
    SetupSound setup queue false meshcore holder := by
  refine ⟨?_, fun stage running => ⟨rfl, (sound.running stage running).2⟩⟩
  rintro ⟨⟩

theorem SetupSound.move (sound : SetupSound setup queue setupComplete meshcore holder)
    {stage : Setup} (running : setup = some stage) (next : Setup) :
    SetupSound (some next) queue setupComplete meshcore holder :=
  ⟨sound.connected, fun _ _ => sound.running stage running⟩

end Setup

section Database
variable {database : List (Call K)} {meshcore : Option K} {holder : Option (Session K)}
  {setup : Option Setup} {setupComplete : Bool} {cache : Option (CacheEntry K)}
  {session : Session K} {call : Call K}

theorem DatabaseSound.silent (sound : DatabaseSound database meshcore holder setup setupComplete cache)
    (idle : ∀ session, holder = some session → session.phase.asks = false) :
    .session ∉ database := by
  intro member
  obtain ⟨session, held, asks⟩ := sound.asked member
  exact Bool.false_ne_true ((idle session held).symm.trans asks)

/-- A call less; the answer of a session stays first. -/
theorem DatabaseSound.without
    (sound : DatabaseSound database meshcore holder setup setupComplete cache)
    {left : List (Call K)} (sublist : left.Sublist database)
    (first : database.head? = some .session → left.head? = some .session) :
    DatabaseSound left meshcore holder setup setupComplete cache where
  ordered := sound.ordered.sublist sublist
  asked member := sound.asked (sublist.subset member)
  answered session held answered := first (sound.answered session held answered)
  setups member := sound.setups (sublist.subset member)
  bound shown member := sound.bound shown (sublist.subset member)
  foreign key marked member := sound.foreign key marked (sublist.subset member)

/-- The database makes the write of a dismissal. -/
theorem DatabaseSound.mark {connected : K} {rest : List (Call K)}
    (sound : DatabaseSound (.dismissal connected false :: rest) meshcore holder setup setupComplete
      cache) :
    DatabaseSound (.dismissal connected true :: rest) meshcore holder setup setupComplete cache := by
  have old : ∀ {call : Call K}, call ≠ .dismissal connected true →
      call ∈ Call.dismissal connected true :: rest → call ∈ Call.dismissal connected false :: rest :=
    fun other member => List.mem_cons_of_mem _ ((List.mem_cons.mp member).resolve_left other)
  refine ⟨?_, fun member => sound.asked (old (by rintro ⟨⟩) member), ?_,
    fun member => sound.setups (old (by rintro ⟨⟩) member),
    fun shown member => sound.bound shown (old (by rintro ⟨⟩) member), ?_⟩
  · obtain ⟨-, ordered⟩ := List.pairwise_cons.mp sound.ordered
    exact List.pairwise_cons.mpr ⟨fun _ _ => ⟨by rintro ⟨⟩, by rintro ⟨⟩⟩, ordered⟩
  · intro session held answered
    cases sound.answered session held answered
  · intro key marked member
    obtain member | member := List.mem_cons.mp member
    · cases member
      exact sound.foreign connected false List.mem_cons_self
    · exact sound.foreign key marked (List.mem_cons_of_mem _ member)

/-- A session goes on without a call. -/
theorem DatabaseSound.left
    (sound : DatabaseSound database meshcore (some session) setup setupComplete cache)
    {next : Session K} (idle : next.phase.entry? = none) {left : List (Call K)}
    (sublist : left.Sublist database) (gone : .session ∉ left)
    {written : Option (CacheEntry K)}
    (foreign : ∀ key marked, .dismissal key marked ∈ left →
      meshcore = some key ∨ ∀ entry, written = some entry → entry.promptWanted = false) :
    DatabaseSound left meshcore (some next) setup setupComplete written where
  ordered := sound.ordered.sublist sublist
  asked member := (gone member).elim
  answered other held answered := by
    cases held
    exact (answered idle).elim
  setups member := sound.setups (sublist.subset member)
  bound shown member := by cases (sound.bound shown (sublist.subset member)).2.1
  foreign := foreign

/-- A session that works at the radio goes on there. -/
theorem DatabaseSound.stay
    (sound : DatabaseSound database meshcore (some session) setup setupComplete cache)
    (working : session.phase.asks = false) {next : Session K} (idle : next.phase.entry? = none) :
    DatabaseSound database meshcore (some next) setup setupComplete cache := by
  refine sound.left idle (List.Sublist.refl _) (sound.silent fun other held => ?_) sound.foreign
  cases held
  exact working

/-- A session asks: its call is the last one. -/
theorem DatabaseSound.ask
    (sound : DatabaseSound database meshcore (some session) setup setupComplete cache)
    (working : session.phase.asks = false) {next : Session K} (asks : next.phase.asks = true)
    (idle : next.phase.entry? = none) :
    DatabaseSound (database ++ [.session]) meshcore (some next) setup setupComplete cache where
  ordered := by
    refine List.pairwise_append.mpr ⟨sound.ordered, List.pairwise_singleton _ _, ?_⟩
    intro first member second last
    cases List.mem_singleton.mp last
    have silent : .session ∉ database := sound.silent fun other held => by
      cases held
      exact working
    refine ⟨?_, fun _ => ⟨by rintro ⟨⟩, by rintro _ ⟨⟩⟩⟩
    rintro rfl
    exact (silent member).elim
  asked _ := ⟨next, rfl, asks⟩
  answered other held answered := by
    cases held
    exact (answered idle).elim
  setups member := by
    obtain member | member := List.mem_append.mp member
    · exact sound.setups member
    · cases List.mem_singleton.mp member
  bound shown member := by
    obtain member | member := List.mem_append.mp member
    · cases (sound.bound shown member).2.1
    · cases List.mem_singleton.mp member
  foreign key marked member := by
    obtain member | member := List.mem_append.mp member
    · exact sound.foreign key marked member
    · cases List.mem_singleton.mp member

/-- The database answers its first call. -/
theorem DatabaseSound.answer
    (sound : DatabaseSound database meshcore (some session) setup setupComplete cache)
    (first : database.head? = some .session) {next : Session K} (asks : next.phase.asks = true) :
    DatabaseSound database meshcore (some next) setup setupComplete cache where
  ordered := sound.ordered
  asked _ := ⟨next, rfl, asks⟩
  answered _ _ _ := first
  setups := sound.setups
  bound shown member := by cases (sound.bound shown member).2.1
  foreign := sound.foreign

/-- Behind the answer of a session, only its radio is dismissed. -/
theorem DatabaseSound.own
    (sound : DatabaseSound database meshcore holder setup setupComplete cache)
    (first : database.head? = some .session) {key : K} {marked : Bool}
    (member : .dismissal key marked ∈ database) : meshcore = some key := by
  obtain ⟨rest, rfl⟩ := List.head?_eq_some_iff.mp first
  obtain member | member := List.mem_cons.mp member
  · cases member
  · exact (((List.pairwise_cons.mp sound.ordered).1 _ member).1 rfl).2 key marked rfl

/-- A patch of the cached entry that does not bring a prompt. -/
theorem DatabaseSound.patch {entry patched : CacheEntry K}
    (sound : DatabaseSound database meshcore holder setup setupComplete (some entry))
    (wanted : entry.promptWanted = false → patched.promptWanted = false) :
    DatabaseSound database meshcore holder setup setupComplete (some patched) where
  ordered := sound.ordered
  asked := sound.asked
  answered := sound.answered
  setups := sound.setups
  bound shown member := by cases (sound.bound shown member).2.2.1
  foreign key marked member := by
    refine (sound.foreign key marked member).imp_right fun quiet other cached => ?_
    cases cached
    exact wanted (quiet entry rfl)

theorem DatabaseSound.incomplete
    (sound : DatabaseSound database meshcore holder setup setupComplete cache) :
    DatabaseSound database meshcore holder setup false cache :=
  ⟨sound.ordered, sound.asked, sound.answered, sound.setups,
    fun shown member => ⟨rfl, (sound.bound shown member).2⟩, sound.foreign⟩

/-- Without a session any connection will do, as nothing is cached. -/
theorem DatabaseSound.reconnect
    (sound : DatabaseSound database meshcore none setup setupComplete cache)
    (other : Option K) {complete : Bool} {next : Option Setup}
    (asking : .setup ∈ database → next = some .asking)
    (bound : ∀ shown, .bound shown ∈ database → complete = false ∧ next ≠ some .identified) :
    DatabaseSound database other none next complete none where
  ordered := by
    refine sound.ordered.imp_of_mem fun {first second} member _ ordered => ⟨?_, ordered.2⟩
    rintro rfl
    exact (sound.silent (fun _ held => by cases held) member).elim
  asked := sound.asked
  answered _ held := by cases held
  setups := asking
  bound shown member := ⟨(bound shown member).1, rfl, rfl, (bound shown member).2⟩
  foreign _ _ _ := .inr fun _ cached => by cases cached

end Database

section State
variable [DecidableEq K] {s t : Service K} {session : Session K} {entry : CacheEntry K}

theorem start_sound (promptState : Dict K PromptEntry) (boundPublicKey : Option K)
    (running : Bool) : Sound (Service.start promptState boundPublicKey running) where
  queue := ⟨.nil, fun _ => rfl, fun complete => by cases complete⟩
  setup := .idle rfl fun complete => by cases complete
  held _ held := by cases held
  cached _ cached := by cases cached
  calls := ⟨.nil, by rintro ⟨⟩, by rintro _ ⟨⟩, by rintro ⟨⟩, by rintro _ ⟨⟩, by rintro _ _ ⟨⟩⟩
  marks := ⟨by rintro _ ⟨⟩, List.forall_mem_nil _, List.forall_mem_nil _⟩
  said := List.forall_mem_nil _

/-- What is cached is of the current connection. -/
theorem Sound.currentEntry (sound : Sound s) : s.currentEntry = s.cache := by
  rw [Service.currentEntry]
  cases cached : s.cache with
  | none => rfl
  | some entry =>
      have entrySound := sound.cached entry cached
      dsimp only
      rw [if_neg]
      rintro (link | generation)
      · exact link entrySound.link
      · exact generation entrySound.generation

omit [DecidableEq K] in
theorem currentEntry_eq_some : s.currentEntry = some entry ↔
    s.cache = some entry ∧ entry.link = s.cliLink ∧ entry.generation = s.generation := by
  rw [Service.currentEntry]
  cases s.cache with
  | none => simp
  | some cached =>
      dsimp only
      split
      next foreign =>
        refine ⟨fun found => (Option.some_ne_none _ found.symm).elim, ?_⟩
        rintro ⟨⟨⟩, link, generation⟩
        exact (foreign.elim (· link) (· generation)).elim
      next own =>
        obtain ⟨link, generation⟩ := not_or.mp own
        refine ⟨?_, And.left⟩
        rintro ⟨⟩
        exact ⟨rfl, not_not.mp link, not_not.mp generation⟩

omit [DecidableEq K] in
/-- A dismissal that resumes clears the prompt of what is current, whichever radio it is of. -/
theorem dismissWifiPrompt_lastWifiState (s : Service K) (connected : K) :
    (s.dismissWifiPrompt connected).lastWifiState =
      s.lastWifiState.map fun state => { state with promptNeeded := false } := by
  have same : { s with
      dismissedKeys := connected :: s.dismissedKeys
      returned := connected :: s.returned }.currentEntry = s.currentEntry := rfl
  rw [Service.dismissWifiPrompt, Service.lastWifiState, Service.lastWifiState, same]
  cases current : s.currentEntry with
  | none => exact congrArg (Option.map _) (same.trans current)
  | some entry =>
      have own := (currentEntry_eq_some.mp current).2
      exact Option.map_eq_some_iff.mpr ⟨_, currentEntry_eq_some.mpr ⟨rfl, own⟩, rfl⟩

theorem dismissed_eq_false (s : Service K) (publicKey : Option K) :
    s.dismissed publicKey = false ↔ ∀ key ∈ s.dismissedKeys, publicKey ≠ some key := by
  cases publicKey with
  | none => simp [Service.dismissed]
  | some publicKey =>
      rw [Service.dismissed, decide_eq_false_iff_not]
      constructor
      · rintro absent key member same
        cases same
        exact absent member
      · exact fun other member => other publicKey member rfl

/-- The session that holds the lock goes on. -/
theorem Sound.hold (sound : Sound s) (held : s.holder = some session) {next : Session K}
    (sessionSound : SessionSound next s.meshcore s.connection s.token s.dismissedKeys s.returned)
    {database : List (Call K)} (calls : DatabaseSound database s.meshcore (some next) s.setup
      s.setupComplete s.cache) (subset : ∀ key, .dismissal key true ∈ database →
      .dismissal key true ∈ s.database) : Sound { s with
        holder := some next
        database } where
  queue := sound.queue
  setup := by
    have before := sound.setup
    rw [held] at before
    exact before.hold _
  held other held := by
    cases held
    exact sessionSound
  cached := sound.cached
  calls := calls
  marks := ⟨fun key member => sound.marks.marked key (subset key member), sound.marks.recorded,
    sound.marks.keys⟩
  said := sound.said

/-- The calls of the database while a session holds the lock. -/
theorem Sound.callsOf (sound : Sound s) (held : s.holder = some session) :
    DatabaseSound s.database s.meshcore (some session) s.setup s.setupComplete s.cache :=
  held ▸ sound.calls

theorem Sound.release (sound : Sound s) (held : s.holder = some session)
    (working : session.phase.asks = false) : Sound { s with holder := none } where
  queue := sound.queue
  setup := by
    have before := sound.setup
    rw [held] at before
    exact before.hold _
  held _ held := by cases held
  cached := sound.cached
  calls := by
    have before := sound.callsOf held
    have silent : .session ∉ s.database := before.silent fun other same => by
      cases same
      exact working
    refine ⟨before.ordered, fun member => (silent member).elim, by rintro _ ⟨⟩, before.setups, ?_,
      before.foreign⟩
    intro shown member
    cases (before.bound shown member).2.1
  marks := sound.marks
  said := sound.said

omit [DecidableEq K] in
/-- A session that is about to close needs only its connection. -/
theorem SessionSound.closing {session : Session K} {meshcore : Option K} {connection : Nat}
    {token other : WriteToken} {dismissedKeys returned : List K}
    (sound : SessionSound session meshcore connection token dismissedKeys returned) :
    SessionSound { session with phase := .closing } meshcore connection other dismissedKeys
      returned where
  connected := by
    obtain ⟨key, same, keyed, -⟩ := sound.connected
    exact ⟨key, same, keyed, fun some_ => (some_ rfl).elim⟩
  connection := sound.connection
  token _ taken := by cases taken
  captured _ captured := by cases captured
  cached _ cached := by cases cached

omit [DecidableEq K] in
theorem SaidSound.broadcast {broadcasts : List (RadioWifiState K × List K)}
    (said : SaidSound broadcasts) {state : RadioWifiState K} {returned : List K}
    (silent : ∀ key ∈ returned, state.radioPublicKey = some key → state.promptNeeded = false) :
    SaidSound ((state, returned) :: broadcasts) :=
  List.forall_mem_cons.mpr ⟨silent, said⟩

/-- A session writes a state of its radio that asks for no radio whose dismissal returned, unless
that one is among the dismissed keys, and for none while another radio is to be dismissed. -/
theorem Sound.write (sound : Sound s) (held : s.holder = some session)
    {state : RadioWifiState K} {token : WriteToken} (taken : session.phase.token? = some token)
    (key : state.radioPublicKey = session.publicKey)
    (silent : ∀ key ∈ s.returned, state.radioPublicKey = some key → state.promptNeeded = false ∨
      key ∈ s.dismissedKeys) (raw : Option Bool) {database : List (Call K)}
    (sublist : database.Sublist s.database) (gone : .session ∉ database)
    (own : ∀ key marked, .dismissal key marked ∈ database →
      s.meshcore = some key ∨ state.promptNeeded = false) :
    Sound (({ s with database }.writeCache session.connection state token raw).moveTo session
      .closing) := by
  have sessionSound := sound.held session held
  obtain ⟨radio, connected, -, publicKey⟩ := sessionSound.connected
  have radioKey : state.radioPublicKey = some radio :=
    key.trans (publicKey (by rw [taken]; exact Option.some_ne_none _))
  cases sessionSound.token token taken
  have wanted : ∀ key ∈ s.returned, state.radioPublicKey = some key →
      (state.promptNeeded && !s.dismissed state.radioPublicKey) = false := by
    intro key member same
    obtain quiet | member := silent key member same
    · rw [quiet, Bool.false_and]
    · have dismissed : s.dismissed state.radioPublicKey = true := by
        rw [same, Service.dismissed, decide_eq_true_eq]
        exact member
      rw [dismissed, Bool.not_true, Bool.and_false]
  have alive : ¬ (¬ { s with database }.tokenAlive s.token = true ∨
      s.token.version ≠ { s with database }.version) := by
    simp [Service.tokenAlive, Service.token]
  have setupSound := sound.setup
  rw [held] at setupSound
  rw [Service.writeCache, if_neg alive]
  refine ⟨sound.queue, setupSound.hold _, fun other held => ?_, fun entry cached => ?_, ?_, ?_, ?_⟩
  · cases held
    exact sessionSound.closing
  · cases cached
    refine ⟨rfl, rfl, sessionSound.connection, ⟨radio, connected, radioKey⟩, ?_, rfl, ?_⟩
    · have fresh : (!s.dismissed state.radioPublicKey) = true ↔ _ :=
        (Bool.not_eq_true' _).to_iff.trans (dismissed_eq_false s state.radioPublicKey)
      exact (Bool.and_eq_true _ _).to_iff.trans (and_congr_right fun _ => fresh)
    · exact wanted
  · refine (sound.callsOf held).left rfl sublist gone fun key marked member => ?_
    refine (own key marked member).imp_right fun quiet entry cached => ?_
    cases cached
    exact congrArg (· && _) quiet
  · exact ⟨fun key member => sound.marks.marked key (sublist.subset member), sound.marks.recorded,
      sound.marks.keys⟩
  · refine sound.said.broadcast fun key member same => ?_
    have quiet := wanted key member same
    exact (congrArg (· && _) quiet).trans (Bool.false_and _)

/-- A session that did not ask writes a state without a prompt. -/
theorem Sound.writeQuiet (sound : Sound s) (held : s.holder = some session)
    {state : RadioWifiState K} {token : WriteToken} (reading : session.phase = .reading token)
    (key : state.radioPublicKey = session.publicKey) (quiet : state.promptNeeded = false) :
    Sound ((s.writeCache session.connection state token none).moveTo session .closing) := by
  have silent : .session ∉ s.database := (sound.callsOf held).silent fun other same => by
    cases same
    rw [reading]
    rfl
  exact sound.write held (by rw [reading]; rfl) key (fun _ _ _ => .inl quiet) none
    (List.Sublist.refl _) silent fun _ _ _ => .inr quiet

theorem gone_leave (s : Service K) : Call.session ∉ s.leave.database := by
  intro member
  exact of_decide_eq_true (List.mem_filter.mp member).2 rfl

/-- A session writes what it composed from its answer. -/
theorem Sound.writeAnswered (sound : Sound s) (held : s.holder = some session)
    {state : RadioWifiState K} {token : WriteToken} (taken : session.phase.token? = some token)
    {entry : PromptEntry} (answered : session.phase.entry? = some entry)
    (key : state.radioPublicKey = session.publicKey)
    (silent : entry.dismissedAt.isSome = true → state.promptNeeded = false) (raw : Option Bool) :
    Sound ((s.leave.writeCache session.connection state token raw).moveTo session .closing) := by
  have first := sound.calls.answered session held (by rw [answered]; exact Option.some_ne_none _)
  refine sound.write held taken key ?_ raw List.filter_sublist (gone_leave s) ?_
  · intro radio member same
    exact ((sound.held session held).captured entry answered radio member (key.symm.trans same)).imp_left
      silent
  · intro radio marked member
    exact .inl (sound.calls.own first (List.mem_of_mem_filter member))

/-- The entry of a session that works on a cached one is of its radio. -/
theorem Sound.cachedKey (sound : Sound s) (held : s.holder = some session)
    (cached : s.cache = some entry) (token : session.phase.token? ≠ none) :
    entry.state.radioPublicKey = session.publicKey := by
  obtain ⟨radio, connected, -, publicKey⟩ := (sound.held session held).connected
  obtain ⟨key, same, entryKey⟩ := (sound.cached entry cached).connected
  rw [connected] at same
  cases same
  rw [entryKey, publicKey token]

theorem Sound.begin (sound : Sound s) (held : s.holder = some session)
    (opening : session.phase = .opening) {raw : Option Bool} {pending : Bool} :
    Sound { s with holder := some { session with
      publicKey := session.kind.publicKey s
      rawPasswordStored := raw
      rebootPending := pending
      phase := .reading s.token } } := by
  have sessionSound := sound.held session held
  obtain ⟨radio, connected, keyed, -⟩ := sessionSound.connected
  have publicKey : session.kind.publicKey s = some radio := by
    cases kind : session.kind with
    | store other | setEnabled other => rw [Kind.publicKey, keyed other (by rw [kind]; rfl)]
    | fullCheck | refresh | linkRecheck =>
        simp only [Kind.publicKey, Service.connectedRadioPublicKey, connected]
  have working : session.phase.asks = false := by rw [opening]; rfl
  refine sound.hold held ?_ ?_ fun _ member => member
  · refine ⟨⟨radio, connected, keyed, fun _ => publicKey⟩, sessionSound.connection, ?_, ?_, ?_⟩
    · rintro _ ⟨⟩
      rfl
    · rintro _ ⟨⟩
    · rintro _ ⟨⟩
  · exact (sound.callsOf held).stay working rfl

/-- A session goes from one suspension to another on the same token. -/
theorem Sound.move (sound : Sound s) (held : s.holder = some session) {phase : Phase K}
    (token : phase.token? = session.phase.token?)
    (captured : ∀ entry, phase.entry? = some entry → ∀ key ∈ s.returned,
      session.publicKey = some key → entry.dismissedAt.isSome = true ∨ key ∈ s.dismissedKeys)
    (cached : ∀ entry, phase.cached? = some entry →
      entry.state.radioPublicKey = session.publicKey) {database : List (Call K)}
    (calls : DatabaseSound database s.meshcore (some { session with phase }) s.setup s.setupComplete
      s.cache) (subset : ∀ key, .dismissal key true ∈ database → .dismissal key true ∈ s.database) :
    Sound ({ s with database }.moveTo session phase) := by
  have sessionSound := sound.held session held
  obtain ⟨radio, connected, keyed, publicKey⟩ := sessionSound.connected
  refine sound.hold held ?_ calls subset
  refine ⟨⟨radio, connected, keyed, ?_⟩, sessionSound.connection, ?_, captured, cached⟩
  · rw [token]
    exact publicKey
  · rw [token]
    exact sessionSound.token

/-- A session at the radio asks the database. -/
theorem Sound.ask (sound : Sound s) (held : s.holder = some session) {phase : Phase K}
    (working : session.phase.asks = false) (asks : phase.asks = true)
    (token : phase.token? = session.phase.token?) (waits : phase.entry? = none)
    (cached : ∀ entry, phase.cached? = some entry →
      entry.state.radioPublicKey = session.publicKey) : Sound (s.ask session phase) := by
  refine sound.move held token ?_ cached ((sound.callsOf held).ask working asks waits) ?_
  · intro entry answered
    cases waits.symm.trans answered
  · intro key member
    obtain member | member := List.mem_append.mp member
    · exact member
    · cases List.mem_singleton.mp member

/-- The answer of the database knows of every dismissal that returned. -/
theorem Sound.answered (sound : Sound s) (key : K) (returned : key ∈ s.returned) :
    (s.promptEntry (some key)).dismissedAt.isSome = true :=
  sound.marks.recorded key returned

theorem RecordWrite.apply_dismissedAt (entry : PromptEntry) (write : RecordWrite) :
    (write.apply entry).dismissedAt = entry.dismissedAt := by
  cases write <;> rfl

/-- A write into the database that keeps the dismissals. -/
theorem MarksSound.set {promptState : Dict K PromptEntry} {database : List (Call K)}
    {dismissedKeys returned : List K} (sound : MarksSound promptState database dismissedKeys returned)
    (key : K) (entry : PromptEntry)
    (kept : ((promptState.get? key).getD .empty).dismissedAt.isSome = true →
      entry.dismissedAt.isSome = true) :
    MarksSound (promptState.set key entry) database dismissedKeys returned := by
  have grows : ∀ other, ((promptState.get? other).getD .empty).dismissedAt.isSome = true →
      (((promptState.set key entry).get? other).getD .empty).dismissedAt.isSome = true := by
    intro other before
    rw [Dict.get?_set]
    split
    · subst other
      exact kept before
    · exact before
  exact ⟨fun other member => grows other (sound.marked other member),
    fun other member => grows other (sound.recorded other member), sound.keys⟩

theorem Sound.record (sound : Sound s) (key : K) (write : RecordWrite) :
    Sound { s with promptState := s.promptState.set key (write.apply (s.promptEntry (some key))) } where
  queue := sound.queue
  setup := sound.setup
  held := sound.held
  cached := sound.cached
  calls := sound.calls
  marks := sound.marks.set key _ fun before => by
    rw [RecordWrite.apply_dismissedAt]
    exact before
  said := sound.said

theorem Sound.closing (sound : Sound s) (held : s.holder = some session)
    (working : session.phase.asks = false) : Sound (s.moveTo session .closing) :=
  sound.hold held (sound.held session held).closing ((sound.callsOf held).stay working rfl)
    fun _ member => member

/-- A session that raises leaves the database, too. -/
theorem Sound.leaving (sound : Sound s) (held : s.holder = some session) :
    Sound (s.leave.moveTo session .closing) := by
  have sublist : s.leave.database.Sublist s.database := List.filter_sublist
  refine sound.hold held (sound.held session held).closing ?_ fun _ member => sublist.subset member
  exact (sound.callsOf held).left rfl sublist (gone_leave s) fun key marked member =>
    sound.calls.foreign key marked (sublist.subset member)

/-- A link re-check patches the entry and closes. -/
theorem Sound.merge (sound : Sound s) (held : s.holder = some session)
    (working : session.phase.asks = false) (token : WriteToken) (connected : Bool)
    (ip : Option (List Char)) :
    Sound ((s.mergeLinkStatus token connected ip).moveTo session .closing) := by
  unfold Service.mergeLinkStatus
  rw [sound.currentEntry]
  split
  · exact sound.closing held working
  next entry cached =>
    dsimp only
    split
    · exact sound.closing held working
    split
    · exact sound.closing held working
    · have entrySound := sound.cached entry cached
      have setupSound := sound.setup
      rw [held] at setupSound
      have calls : DatabaseSound s.database s.meshcore (some { session with phase := .closing })
          s.setup s.setupComplete s.cache := (sound.callsOf held).stay working rfl
      rw [cached] at calls
      refine ⟨sound.queue, setupSound.hold _, fun other held' => ?_, fun other same => ?_,
        calls.patch id, sound.marks, ?_⟩
      · cases held'
        exact (sound.held session held).closing
      · cases same
        exact ⟨entrySound.generation, entrySound.link, entrySound.connection,
          entrySound.connected, entrySound.wanted, entrySound.needed, entrySound.silent⟩
      · refine sound.said.broadcast fun radio member same => ?_
        exact entrySound.needed.trans (by rw [entrySound.silent radio member same, Bool.false_and])

/-- A restore job starts or ends, and the prompt is evaluated again. -/
theorem Sound.setRunning (sound : Sound s) (running : Bool) :
    Sound { s with restoreJobRunning := running }.reevaluatePrompt := by
  have current : { s with restoreJobRunning := running }.currentEntry = s.cache :=
    sound.currentEntry
  rw [Service.reevaluatePrompt, current]
  split
  next cached =>
      refine ⟨sound.queue, sound.setup, sound.held, fun entry cached' => ?_, sound.calls, sound.marks,
        sound.said⟩
      exact (Option.some_ne_none _ (cached'.symm.trans cached)).elim
  next entry cached =>
      have entrySound := sound.cached entry cached
      -- What is wanted is of a radio that is not among the dismissed ones.
      have wanted : (entry.promptWanted && !s.dismissed entry.state.radioPublicKey) =
          entry.promptWanted := by
        cases known : entry.promptWanted with
        | false => rfl
        | true =>
            rw [(dismissed_eq_false s _).mpr (entrySound.wanted.mp known).2]
            rfl
      have needed : (entry.promptWanted &&
          !{ s with restoreJobRunning := running }.dismissed entry.state.radioPublicKey &&
          !running) = (entry.promptWanted && !running) := congrArg (· && !running) wanted
      dsimp only
      rw [needed]
      split
      next same =>
        refine ⟨sound.queue, sound.setup, sound.held, fun other cached' => ?_, sound.calls,
          sound.marks, sound.said⟩
        cases cached.symm.trans cached'
        exact { entrySound with needed := same }
      · have calls := sound.calls
        rw [cached] at calls
        refine ⟨sound.queue, sound.setup, sound.held, fun other cached' => ?_, calls.patch id,
          sound.marks, ?_⟩
        · cases cached'
          exact { entrySound with needed := rfl }
        · refine sound.said.broadcast fun radio member same => ?_
          exact (congrArg (· && !running) (entrySound.silent radio member same)).trans
            (Bool.false_and _)

omit [DecidableEq K] in
/-- One more dismissal that returned is among the dismissed keys. -/
theorem SessionSound.dismiss {session : Session K} {meshcore : Option K} {connection : Nat}
    {token : WriteToken} {dismissedKeys returned : List K}
    (sound : SessionSound session meshcore connection token dismissedKeys returned)
    (connected : K) : SessionSound session meshcore connection token (connected :: dismissedKeys)
      (connected :: returned) where
  connected := sound.connected
  connection := sound.connection
  token := sound.token
  captured entry captured key member same := by
    obtain rfl | member := List.mem_cons.mp member
    · exact .inr List.mem_cons_self
    · exact (sound.captured entry captured key member same).imp_right (List.mem_cons_of_mem _)
  cached := sound.cached

theorem MarksSound.dismiss {promptState : Dict K PromptEntry} {rest : List (Call K)} {connected : K}
    {dismissedKeys returned : List K}
    (sound : MarksSound promptState (.dismissal connected true :: rest) dismissedKeys returned) :
    MarksSound promptState rest (connected :: dismissedKeys) (connected :: returned) where
  marked key member := sound.marked key (List.mem_cons_of_mem _ member)
  recorded := List.forall_mem_cons.mpr ⟨sound.marked connected List.mem_cons_self, sound.recorded⟩
  keys := List.forall_mem_cons.mpr
    ⟨List.mem_cons_self, fun key member => List.mem_cons_of_mem _ (sound.keys key member)⟩

/-- The dismissal that has the lock resumes on an entry of its radio, or on one that wants no
prompt. -/
theorem Sound.first_dismissal (sound : Sound s) {connected : K} {marked : Bool}
    {rest : List (Call K)} (first : s.database = .dismissal connected marked :: rest)
    (cached : s.cache = some entry) :
    entry.state.radioPublicKey = some connected ∨ entry.promptWanted = false := by
  have foreign := sound.calls.foreign connected marked (by rw [first]; exact List.mem_cons_self)
  obtain own | unwanted := foreign
  · obtain ⟨radio, same, key⟩ := (sound.cached entry cached).connected
    cases own.symm.trans same
    exact .inl key
  · exact .inr (unwanted entry cached)

theorem Sound.dismiss (sound : Sound s) {connected : K} {rest : List (Call K)}
    (first : s.database = .dismissal connected true :: rest) :
    Sound ({ s with database := rest }.dismissWifiPrompt connected) := by
  have marks := sound.marks
  rw [first] at marks
  have current : { s with
      database := rest
      dismissedKeys := connected :: s.dismissedKeys
      returned := connected :: s.returned }.currentEntry = s.cache := sound.currentEntry
  have calls : DatabaseSound rest s.meshcore s.holder s.setup s.setupComplete s.cache := by
    refine sound.calls.without ?_ ?_
    · rw [first]
      exact List.sublist_cons_self _ _
    · rw [first]
      rintro ⟨⟩
  rw [Service.dismissWifiPrompt, current]
  split
  next cached =>
      refine ⟨sound.queue, sound.setup, fun session held => (sound.held session held).dismiss _,
        fun entry cached' => ?_, calls, marks.dismiss, sound.said⟩
      exact (Option.some_ne_none _ (cached'.symm.trans cached)).elim
  next entry cached =>
      have entrySound := sound.cached entry cached
      rw [cached] at calls
      refine ⟨sound.queue, sound.setup, fun session held => (sound.held session held).dismiss _,
        fun other cached' => ?_, calls.patch fun _ => rfl, marks.dismiss,
        sound.said.broadcast fun _ _ _ => rfl⟩
      cases cached'
      refine ⟨entrySound.generation, entrySound.link, entrySound.connection,
        entrySound.connected, ⟨fun wanted => (Bool.false_ne_true wanted).elim, ?_⟩, rfl, fun _ _ _ => rfl⟩
      rintro ⟨composed, other⟩
      have unlike := List.forall_mem_cons.mp other
      obtain own | unwanted := sound.first_dismissal first cached
      · exact (unlike.1 own).elim
      · exact unwanted.symm.trans (entrySound.wanted.mpr ⟨composed, unlike.2⟩)

/-- The connection ends or a setup begins one while no session holds the lock. -/
theorem Sound.cleared (sound : Sound s) (free : s.holder = none) {queue : List (Waiter K)}
    {meshcore : Option K} {setupComplete : Bool} {link connection : Nat} {setup : Option Setup}
    (waiting : QueueSound queue setupComplete meshcore)
    (idle : SetupSound setup queue setupComplete meshcore none)
    (calls : DatabaseSound s.database meshcore none setup setupComplete none) :
    Sound { s with
      queue
      setup
      meshcore
      setupComplete
      cliLink := link
      connection }.clearCache where
  queue := waiting
  setup := (free ▸ idle : SetupSound setup queue setupComplete meshcore s.holder)
  held session held := (Option.some_ne_none _ (held.symm.trans free)).elim
  cached entry cached := by cases cached
  calls := (free ▸ calls : DatabaseSound s.database meshcore s.holder setup setupComplete none)
  marks := ⟨sound.marks.marked, sound.marks.recorded, List.forall_mem_nil _⟩
  said := sound.said

omit [DecidableEq K] in
/-- The states that a session composes ask for no radio whose record is marked. -/
theorem finished_silent (session : Session K) {entry : PromptEntry}
    (dismissed : entry.dismissedAt.isSome = true) (reading : Reading) (now : Int)
    (required reboot : Bool) :
    (session.finished (composeState entry session.publicKey reading now) required
      reboot).promptNeeded = false := by
  have silent := composeState_dismissed dismissed session.publicKey reading now
  unfold Session.finished
  split <;> exact silent

omit [DecidableEq K] in
theorem finished_radioPublicKey (session : Session K) (state : RadioWifiState K)
    (required reboot : Bool) :
    (session.finished state required reboot).radioPublicKey = state.radioPublicKey := by
  unfold Session.finished
  split <;> rfl

theorem answer_sound (sound : Sound s) (held : s.holder = some session)
    (stepped : s.sessionStep session .answer = some t) : Sound t := by
  have sessionSound := sound.held session held
  -- What the database answers knows of every dismissal that returned.
  have captured : ∀ key ∈ s.returned, session.publicKey = some key →
      (s.promptEntry session.publicKey).dismissedAt.isSome = true ∨ key ∈ s.dismissedKeys := by
    intro key member same
    rw [same]
    exact .inl (sound.answered key member)
  obtain ⟨first, stepped⟩ := Option.ite_none_right_eq_some.mp stepped
  split at stepped
  · next token key write recording =>
      cases stepped
      have recorded := sound.record key write
      refine recorded.move held (by rw [recording]; rfl) (by rintro _ ⟨⟩) (by rintro _ ⟨⟩) ?_ fun _ member =>
        List.mem_of_mem_filter member
      exact (recorded.callsOf held).left rfl List.filter_sublist (gone_leave s) fun key marked member =>
        recorded.calls.foreign key marked (List.mem_of_mem_filter member)
  · next token reading asking =>
      cases stepped
      refine sound.move held (by rw [asking]; rfl) ?_ (by rintro _ ⟨⟩)
        ((sound.callsOf held).answer first rfl) fun _ member => member
      rintro _ ⟨⟩
      exact captured
  · next token cached ssid noting =>
      cases stepped
      have ofRadio := sessionSound.cached
      rw [noting] at ofRadio
      refine sound.move held ?_ ?_ ?_ ((sound.callsOf held).answer first rfl) fun _ member => member
      · rw [noting]
        rfl
      · rintro _ ⟨⟩
        exact captured
      · exact ofRadio
  · cases stepped

theorem sessionStep_sound (sound : Sound s) (held : s.holder = some session) {step : SessionStep}
    (stepped : s.sessionStep session step = some t) : Sound t := by
  have sessionSound := sound.held session held
  cases step with
  | begin_ =>
      simp only [Service.sessionStep] at stepped
      split at stepped
      · next opening =>
          split at stepped
          · cases stepped
            exact sound.closing held (by rw [opening]; rfl)
          · cases stepped
            exact sound.begin held opening
      · cases stepped
  | unsupported reason now =>
      simp only [Service.sessionStep] at stepped
      split at stepped
      · next reading _ =>
          cases stepped
          exact sound.writeQuiet held reading rfl rfl
      · next reading _ =>
          cases stepped
          exact sound.writeQuiet held reading rfl rfl
      · cases stepped
  | failed error now =>
      simp only [Service.sessionStep] at stepped
      split at stepped
      · next reading _ =>
          cases stepped
          exact sound.writeQuiet held reading rfl rfl
      · next reading _ =>
          split at stepped
          · cases stepped
            exact sound.writeQuiet held reading rfl rfl
          · cases stepped
      · cases stepped
  | read ssid enabled connected ip stored =>
      simp only [Service.sessionStep] at stepped
      split at stepped
      · cases stepped
      · next reading _ =>
          cases stepped
          exact sound.ask held (by rw [reading]; rfl) rfl (by rw [reading]; rfl) rfl (by rintro _ ⟨⟩)
      · cases stepped
  | record write =>
      simp only [Service.sessionStep] at stepped
      split at stepped
      · next reading _ =>
          cases stepped
          exact sound.ask held (by rw [reading]; rfl) rfl (by rw [reading]; rfl) rfl (by rintro _ ⟨⟩)
      · cases stepped
  | partialStore ssid =>
      simp only [Service.sessionStep] at stepped
      split at stepped
      · next reading _ =>
          have working : session.phase.asks = false := by rw [reading]; rfl
          rw [sound.currentEntry] at stepped
          split at stepped
          · cases stepped
            exact sound.closing held working
          · next entry cached =>
              cases stepped
              have key := sound.cachedKey held cached (by rw [reading]; exact Option.some_ne_none _)
              refine sound.ask held working rfl (by rw [reading]; rfl) rfl ?_
              rintro _ ⟨⟩
              exact key
      · cases stepped
  | linkStatus connected ip =>
      simp only [Service.sessionStep] at stepped
      split at stepped
      · next reading _ =>
          cases stepped
          exact sound.merge held (by rw [reading]; rfl) _ connected ip
      · cases stepped
  | answer => exact answer_sound sound held stepped
  | resume now required reboot =>
      simp only [Service.sessionStep] at stepped
      split at stepped
      · next composing =>
          cases stepped
          exact sound.writeAnswered held (by rw [composing]; rfl) (by rw [composing]; rfl)
            (finished_radioPublicKey _ _ _ _)
            (fun dismissed => finished_silent session dismissed _ _ _ _) _
      · next token cached ssid entry noted =>
          cases stepped
          have ofRadio := sessionSound.cached
          rw [noted] at ofRadio
          have key : (incompleteState cached.state ssid entry).radioPublicKey = session.publicKey :=
            ofRadio cached rfl
          refine sound.writeAnswered held (by rw [noted]; rfl) (by rw [noted]; rfl) key
            (fun dismissed => ?_) _
          simp only [incompleteState, dismissed, Bool.not_true, Bool.and_false]
      · cases stepped
  | raise =>
      cases stepped
      exact sound.leaving held
  | close =>
      simp only [Service.sessionStep] at stepped
      split at stepped
      · next closing =>
          cases stepped
          exact sound.release held (by rw [closing]; rfl)
      · cases stepped

/-- The first waiter leaves the queue of the radio lock. -/
theorem Sound.dequeue {rest : List (Waiter K)} {waiter : Waiter K} (sound : Sound s)
    (waiting : s.queue = waiter :: rest) : Sound { s with queue := rest } := by
  have sublist : rest.Sublist s.queue := by
    rw [waiting]
    exact List.sublist_cons_self _ _
  exact ⟨sound.queue.sublist sublist, sound.setup.sublist sublist, sound.held, sound.cached,
    sound.calls, sound.marks, sound.said⟩

theorem serve_sound {rest : List (Waiter K)} {waiter : Waiter K} (sound : Sound s)
    (free : s.holder = none) (idle : s.setup = none) (waiting : s.queue = waiter :: rest) :
    Sound ({ s with queue := rest }.serve waiter) := by
  have queueSound := sound.queue
  rw [waiting] at queueSound
  have left := sound.dequeue waiting
  have calls := sound.calls
  rw [free] at calls
  cases waiter with
  | session kind =>
      simp only [Service.serve]
      split
      next ready =>
        obtain ⟨key, connected⟩ := Option.isSome_iff_exists.mp ready.1
        have silent : .session ∉ s.database := calls.silent fun _ held => by cases held
        refine ⟨left.queue, .idle idle left.setup.connected, ?_, left.cached, ?_, left.marks,
          left.said⟩
        · rintro _ ⟨⟩
          refine ⟨⟨key, connected, fun other keyed => ?_, fun token => (token rfl).elim⟩, rfl,
            by rintro _ ⟨⟩, by rintro _ ⟨⟩, by rintro _ ⟨⟩⟩
          have same := queueSound.keyed ready.2 kind List.mem_cons_self other keyed
          exact Option.some.inj (same.symm.trans connected)
        · refine ⟨calls.ordered, fun member => (silent member).elim, ?_, calls.setups, ?_,
            calls.foreign⟩
          · rintro _ ⟨⟩ answered
            exact (answered rfl).elim
          · intro shown member
            exact (Bool.false_ne_true ((calls.bound shown member).1.symm.trans ready.2)).elim
      · exact left
  | disconnect =>
      simp only [Service.serve]
      split
      · refine left.cleared free (left.queue.incomplete_any none)
          (.idle idle fun complete => by cases complete) ?_
        refine calls.reconnect none calls.setups fun shown member => ⟨rfl, ?_⟩
        exact (calls.bound shown member).2.2.2
      · exact left
  | setup =>
      simp only [Service.serve]
      split
      next connected =>
        have incomplete := sound.queue.incomplete (by rw [waiting]; exact List.mem_cons_self)
        refine ⟨left.queue, ⟨left.setup.connected, ?_⟩, left.held, left.cached, ?_, left.marks,
          left.said⟩
        · rintro _ ⟨⟩
          exact ⟨incomplete, connected, free, fun other member =>
            (List.pairwise_cons.mp queueSound.behind).1 other member rfl⟩
        · show DatabaseSound s.database s.meshcore s.holder _ _ _
          rw [free]
          refine ⟨calls.ordered, calls.asked, calls.answered, fun member => ?_, fun shown member => ?_,
            calls.foreign⟩
          · cases idle.symm.trans (calls.setups member)
          · exact ⟨incomplete, rfl, (calls.bound shown member).2.2.1, by rintro ⟨⟩⟩
      · exact left

/-- The setup that holds the radio lock ends. -/
theorem endSetup_sound (sound : Sound s) {stage : Setup} (running : s.setup = some stage)
    {succeeds : Bool} (stepped : s.endSetup succeeds stage = some t) : Sound t := by
  obtain ⟨incomplete, connected, free, waiting⟩ := sound.setup.running stage running
  have idle : ∀ setupComplete, SetupSound none s.queue setupComplete s.meshcore s.holder :=
    fun _ => .idle rfl fun _ => connected
  have calls := sound.calls
  rw [free, running] at calls
  cases stage with
  | identified =>
      have unasked : ∀ shown, .bound shown ∉ s.database := fun shown member =>
        ((calls.bound shown member).2.2.2 rfl).elim
      have settled : .setup ∉ s.database := fun member => by cases calls.setups member
      cases stepped
      split
      · refine sound.cleared free ⟨?_, ?_, ?_⟩ (.idle rfl fun _ => connected) ?_
        · exact sound.queue.behind
        · intro member
          cases waiting _ member
        · intro _ kind member
          cases waiting _ member
        · exact calls.reconnect _ (fun member => (settled member).elim)
            fun shown member => (unasked shown member).elim
      · refine ⟨sound.queue, idle _, sound.held, sound.cached, ?_, sound.marks, sound.said⟩
        refine ⟨sound.calls.ordered, sound.calls.asked, sound.calls.answered,
          fun member => (settled member).elim, fun shown member => (unasked shown member).elim,
          sound.calls.foreign⟩
  | opening | asking =>
      cases succeeds with
      | true => cases stepped
      | false =>
          cases stepped
          have sublist : (s.database.filter fun call => decide (call ≠ Call.setup)).Sublist s.database :=
            List.filter_sublist
          refine ⟨sound.queue, idle _, sound.held, sound.cached, ?_, ?_, sound.said⟩
          · refine ⟨sound.calls.ordered.sublist sublist, ?_, ?_, ?_, ?_, ?_⟩
            · exact fun member => sound.calls.asked (sublist.subset member)
            · exact fun session held => by cases held.symm.trans free
            · intro member
              cases of_decide_eq_true (List.mem_filter.mp member).2 rfl
            · intro shown member
              obtain ⟨-, -, uncached, -⟩ := sound.calls.bound shown (sublist.subset member)
              exact ⟨incomplete, free, uncached, by rintro ⟨⟩⟩
            · exact fun key marked member => sound.calls.foreign key marked (sublist.subset member)
          · exact ⟨fun key member => sound.marks.marked key (sublist.subset member),
              sound.marks.recorded, sound.marks.keys⟩

/-- A call of a dismissal comes last. -/
theorem Sound.enqueue (sound : Sound s) {call : Call K}
    (ordered : ∀ first ∈ s.database, InOrder s.meshcore first call)
    (other : call ≠ .session ∧ call ≠ .setup ∧ ∀ key, call ≠ .dismissal key true)
    (bound : ∀ shown, call = .bound shown → s.setupComplete = false ∧ s.holder = none ∧
      s.cache = none ∧ s.setup ≠ some .identified)
    (foreign : ∀ key marked, call = .dismissal key marked → s.meshcore = some key ∨
      ∀ entry, s.cache = some entry → entry.promptWanted = false) :
    Sound { s with database := s.database ++ [call] } := by
  have old : ∀ {other}, other ∈ s.database ++ [call] → other ∈ s.database ∨ call = other := by
    intro other member
    exact (List.mem_append.mp member).imp_right fun last => (List.mem_singleton.mp last).symm
  refine ⟨sound.queue, sound.setup, sound.held, sound.cached, ?_, ?_, sound.said⟩
  · refine ⟨?_, ?_, ?_, ?_, ?_, ?_⟩
    · refine List.pairwise_append.mpr ⟨sound.calls.ordered, List.pairwise_singleton _ _, ?_⟩
      intro first member second last
      cases List.mem_singleton.mp last
      exact ordered first member
    · exact fun member => sound.calls.asked ((old member).resolve_right other.1)
    · intro session held answered
      obtain ⟨rest, first⟩ := List.head?_eq_some_iff.mp (sound.calls.answered session held answered)
      rw [first]
      rfl
    · exact fun member => sound.calls.setups ((old member).resolve_right other.2.1)
    · exact fun shown member => (old member).elim (sound.calls.bound shown) (bound shown)
    · exact fun key marked member =>
        (old member).elim (sound.calls.foreign key marked) (foreign key marked)
  · exact ⟨fun key member => sound.marks.marked key ((old member).resolve_right (other.2.2 key)),
      sound.marks.recorded, sound.marks.keys⟩

theorem setupAsks_sound (sound : Sound s) (stepped : s.step .setupAsks = some t) : Sound t := by
  obtain ⟨running, stepped⟩ := Option.ite_none_right_eq_some.mp stepped
  cases stepped
  obtain ⟨incomplete, -, free, -⟩ := sound.setup.running _ running
  have old : ∀ {other : Call K}, other ≠ .setup → other ∈ s.database ++ [.setup] →
      other ∈ s.database := by
    intro other unlike member
    exact (List.mem_append.mp member).resolve_right fun last => unlike (List.mem_singleton.mp last)
  refine ⟨sound.queue, sound.setup.move running _, sound.held, sound.cached, ?_, ?_, sound.said⟩
  · refine ⟨?_, ?_, ?_, fun _ => rfl, ?_, ?_⟩
    · refine List.pairwise_append.mpr ⟨sound.calls.ordered, List.pairwise_singleton _ _, ?_⟩
      intro first member second last
      cases List.mem_singleton.mp last
      refine ⟨fun _ => ⟨by rintro ⟨⟩, by rintro _ _ ⟨⟩⟩, ?_⟩
      rintro rfl
      cases running.symm.trans (sound.calls.setups member)
    · exact fun member => sound.calls.asked (old (by rintro ⟨⟩) member)
    · exact fun session held => by cases held.symm.trans free
    · intro shown member
      obtain ⟨-, -, uncached, -⟩ := sound.calls.bound shown (old (by rintro ⟨⟩) member)
      exact ⟨incomplete, free, uncached, by rintro ⟨⟩⟩
    · exact fun key marked member => sound.calls.foreign key marked (old (by rintro ⟨⟩) member)
  · exact ⟨fun key member => sound.marks.marked key (old (by rintro ⟨⟩) member),
      sound.marks.recorded, sound.marks.keys⟩

/-- The database answers the setup: no read of the bound key waits behind it. -/
theorem identified_sound (sound : Sound s) (stepped : s.step .identified = some t) : Sound t := by
  simp only [Service.step] at stepped
  split at stepped
  next rest first =>
    cases stepped
    have running : s.setup = some .asking :=
      sound.calls.setups (by rw [first]; exact List.mem_cons_self)
    obtain ⟨incomplete, -, free, -⟩ := sound.setup.running _ running
    have ordered := sound.calls.ordered
    rw [first] at ordered
    obtain ⟨behind, ordered⟩ := List.pairwise_cons.mp ordered
    have old : ∀ {other}, other ∈ rest → other ∈ s.database := fun member => by
      rw [first]
      exact List.mem_cons_of_mem _ member
    refine ⟨sound.queue, sound.setup.move running _, sound.held, sound.cached, ?_, ?_, sound.said⟩
    · refine ⟨ordered, fun member => sound.calls.asked (old member), ?_, ?_, ?_, ?_⟩
      · exact fun session held => by cases held.symm.trans free
      · exact fun member => (((behind _ member).2 rfl).1 rfl).elim
      · exact fun shown member => (((behind _ member).2 rfl).2 shown rfl).elim
      · exact fun key marked member => sound.calls.foreign key marked (old member)
    · exact ⟨fun key member => sound.marks.marked key (old member), sound.marks.recorded,
        sound.marks.keys⟩
  · cases stepped

/-- A call less that is no session's. -/
theorem Sound.drop (sound : Sound s) {database : List (Call K)} (sublist : database.Sublist s.database)
    (first : s.database.head? = some .session → database.head? = some .session) :
    Sound { s with database } :=
  ⟨sound.queue, sound.setup, sound.held, sound.cached, sound.calls.without sublist first,
    ⟨fun key member => sound.marks.marked key (sublist.subset member), sound.marks.recorded,
      sound.marks.keys⟩, sound.said⟩

/-- Without a radio nothing runs and nothing is cached. -/
theorem Sound.disconnected (sound : Sound s) (gone : s.meshcore = none) :
    s.holder = none ∧ s.cache = none ∧ s.setup = none ∧ s.setupComplete = false := by
  refine ⟨?_, ?_, ?_, ?_⟩
  · cases held : s.holder with
    | none => rfl
    | some session =>
        obtain ⟨key, connected, -⟩ := (sound.held session held).connected
        cases gone.symm.trans connected
  · cases cached : s.cache with
    | none => rfl
    | some entry =>
        obtain ⟨key, connected, -⟩ := (sound.cached entry cached).connected
        cases gone.symm.trans connected
  · cases running : s.setup with
    | none => rfl
    | some stage =>
        have connected := (sound.setup.running stage running).2.1
        rw [gone] at connected
        cases connected
  · cases complete : s.setupComplete with
    | false => rfl
    | true =>
        have connected := sound.setup.connected complete
        rw [gone] at connected
        cases connected

theorem dismiss_sound (sound : Sound s) {shown : K} (stepped : s.step (.dismiss shown) = some t) :
    Sound t := by
  simp only [Service.step] at stepped
  split at stepped
  next connected same =>
    split at stepped
    · next own =>
      subst own
      cases stepped
      refine sound.enqueue
        (fun first _ => ⟨fun _ => ⟨by rintro ⟨⟩, ?_⟩, fun _ => ⟨by rintro ⟨⟩, by rintro _ ⟨⟩⟩⟩)
        ⟨by rintro ⟨⟩, by rintro ⟨⟩, by rintro _ ⟨⟩⟩ (by rintro _ ⟨⟩) ?_
      · rintro _ _ ⟨⟩
        exact same
      · rintro _ _ ⟨⟩
        exact .inl same
    · cases stepped
  next gone =>
    cases stepped
    obtain ⟨free, uncached, idle, incomplete⟩ := sound.disconnected gone
    refine sound.enqueue (fun first member => ⟨fun _ => ⟨by rintro ⟨⟩, by rintro _ _ ⟨⟩⟩, ?_⟩)
      ⟨by rintro ⟨⟩, by rintro ⟨⟩, by rintro _ ⟨⟩⟩ (fun _ _ => ?_) (by rintro _ _ ⟨⟩)
    · rintro rfl
      cases idle.symm.trans (sound.calls.setups member)
    · exact ⟨incomplete, free, uncached, by rw [idle]; rintro ⟨⟩⟩

/-- The bound key is the shown one: no session has begun since the read was asked for. -/
theorem lookUp_sound (sound : Sound s) (stepped : s.step .lookUp = some t) : Sound t := by
  simp only [Service.step] at stepped
  split at stepped
  next shown rest first =>
    have left : Sound { s with database := rest } := by
      refine sound.drop ?_ ?_
      · rw [first]
        exact List.sublist_cons_self _ _
      · rw [first]
        rintro ⟨⟩
    split at stepped
    · cases stepped
      obtain ⟨-, free, uncached, -⟩ := sound.calls.bound shown (by rw [first]; exact List.mem_cons_self)
      have silent : .session ∉ rest := left.calls.silent fun session held => by
        cases held.symm.trans free
      refine left.enqueue (fun other member => ⟨?_, fun _ => ⟨by rintro ⟨⟩, by rintro _ ⟨⟩⟩⟩)
        ⟨by rintro ⟨⟩, by rintro ⟨⟩, by rintro _ ⟨⟩⟩ (by rintro _ ⟨⟩) fun _ _ _ => .inr ?_
      · rintro rfl
        exact (silent member).elim
      · intro entry cached
        cases cached.symm.trans uncached
    · cases stepped
      exact left
  · cases stepped

theorem mark_sound (sound : Sound s) {now : Int} (stepped : s.step (.mark now) = some t) : Sound t := by
  simp only [Service.step] at stepped
  split at stepped
  next connected rest first =>
    cases stepped
    have calls := sound.calls
    rw [first] at calls
    have written := sound.marks.set connected
      { s.promptEntry (some connected) with dismissedAt := some now } fun _ => rfl
    rw [first] at written
    refine ⟨sound.queue, sound.setup, sound.held, sound.cached, calls.mark, ?_, sound.said⟩
    refine ⟨fun key member => ?_, written.recorded, written.keys⟩
    obtain member | member := List.mem_cons.mp member
    · cases member
      show ((Dict.get? (s.promptState.set _ _) _).getD _).dismissedAt.isSome = true
      rw [Dict.get?_set, if_pos rfl]
      rfl
    · exact written.marked key (List.mem_cons_of_mem _ member)
  · cases stepped

/-- The call of a dismissal is given up, wherever it waits. -/
theorem abandon_sound (sound : Sound s) {position : Nat}
    (stepped : s.step (.abandon position) = some t) : Sound t := by
  have left : s.database[position]? ≠ some .session →
      Sound { s with database := s.database.eraseIdx position } := by
    intro other
    refine sound.drop (List.eraseIdx_sublist _ _) fun first => ?_
    obtain ⟨rest, same⟩ := List.head?_eq_some_iff.mp first
    rw [same] at other ⊢
    cases position with
    | zero => exact (other rfl).elim
    | succ position => rfl
  simp only [Service.step] at stepped
  split at stepped
  next found =>
    cases stepped
    exact left (by rw [found]; rintro ⟨⟩)
  next found =>
    cases stepped
    exact left (by rw [found]; rintro ⟨⟩)
  · cases stepped

theorem step_sound {e : Event K} (sound : Sound s) (stepped : s.step e = some t) : Sound t := by
  cases e with
  | request kind =>
      simp only [Service.step] at stepped
      split at stepped
      next admitted =>
        cases stepped
        obtain ⟨complete, keyed⟩ := Bool.and_eq_true_iff.mp admitted
        have queueSound := sound.queue
        rw [complete] at queueSound
        refine ⟨?_, ?_, sound.held, sound.cached, sound.calls, sound.marks, sound.said⟩
        · show QueueSound _ s.setupComplete s.meshcore
          rw [complete]
          refine queueSound.request fun key same => ?_
          cases kind with
          | store | setEnabled =>
              cases same
              exact of_decide_eq_true keyed
          | fullCheck | refresh | linkRecheck => cases same
        · refine sound.setup.append fun incomplete => ?_
          cases incomplete.symm.trans complete
      · cases stepped
  | requestDisconnect =>
      cases stepped
      exact ⟨sound.queue.requestDisconnect, sound.setup.append fun _ => rfl, sound.held, sound.cached,
        sound.calls, sound.marks, sound.said⟩
  | requestSetup =>
      simp only [Service.step] at stepped
      split at stepped
      next free =>
        cases stepped
        exact ⟨sound.queue.requestSetup free.2.2, .idle free.2.1 (by rintro ⟨⟩), sound.held,
          sound.cached, sound.calls.incomplete, sound.marks, sound.said⟩
      · cases stepped
  | leave position =>
      cases stepped
      have sublist := List.eraseIdx_sublist s.queue position
      exact ⟨sound.queue.sublist sublist, sound.setup.sublist sublist, sound.held, sound.cached,
        sound.calls, sound.marks, sound.said⟩
  | next =>
      simp only [Service.step] at stepped
      split at stepped
      next free idle waiting =>
        cases stepped
        exact serve_sound sound free idle waiting
      · cases stepped
  | session step =>
      obtain ⟨session, held, stepped⟩ := Option.bind_eq_some_iff.mp stepped
      exact sessionStep_sound sound held stepped
  | setupAsks => exact setupAsks_sound sound stepped
  | identified => exact identified_sound sound stepped
  | setupEnds succeeds =>
      obtain ⟨stage, running, stepped⟩ := Option.bind_eq_some_iff.mp stepped
      exact endSetup_sound sound running stepped
  | connect publicKey =>
      simp only [Service.step] at stepped
      split at stepped
      next gone =>
        cases stepped
        obtain ⟨free, uncached, idle, -⟩ := sound.disconnected gone
        have calls := sound.calls
        rw [free, uncached] at calls
        refine ⟨sound.queue.incomplete_any _, .idle idle (by rintro ⟨⟩), fun session held => ?_,
          fun entry cached => ?_, ?_, sound.marks, sound.said⟩
        · cases held.symm.trans free
        · cases cached.symm.trans uncached
        · show DatabaseSound s.database _ s.holder s.setup _ s.cache
          rw [free, uncached]
          exact calls.reconnect _ calls.setups fun shown member =>
            ⟨rfl, (calls.bound shown member).2.2.2⟩
      · cases stepped
  | transportLost =>
      cases stepped
      exact ⟨sound.queue.incomplete_any _, sound.setup.incomplete, sound.held, sound.cached,
        sound.calls.incomplete, sound.marks, sound.said⟩
  | bind publicKey =>
      cases stepped
      exact ⟨sound.queue, sound.setup, sound.held, sound.cached, sound.calls, sound.marks, sound.said⟩
  | setRunning running =>
      cases stepped
      exact sound.setRunning running
  | dismiss shown => exact dismiss_sound sound stepped
  | lookUp => exact lookUp_sound sound stepped
  | mark now => exact mark_sound sound stepped
  | returns =>
      simp only [Service.step] at stepped
      split at stepped
      next first =>
        cases stepped
        exact sound.dismiss first
      · cases stepped
  | abandon position => exact abandon_sound sound stepped

/-- What is cached was computed on the current connection and, like every broadcast, asks for no
radio whose dismissal had returned; the prompt is what the last composed state wanted, unless a
restore runs or the radio was dismissed. -/
structure Consistent (s : Service K) : Prop where
  current : ∀ state, s.lastWifiState = some state →
    ∃ entry, s.cache = some entry ∧ entry.state = state ∧ entry.connection = s.connection
  silent : ∀ entry, s.cache = some entry → ∀ key ∈ s.returned,
    entry.state.radioPublicKey = some key → entry.state.promptNeeded = false
  said : SaidSound s.broadcasts
  evaluated : ∀ entry, s.cache = some entry → (entry.state.promptNeeded = true ↔
    entry.composed = true ∧ s.restoreJobRunning = false ∧
      ∀ key ∈ s.returned, entry.state.radioPublicKey ≠ some key)

/-- A dismissal that resumes leaves the state of another radio as it is. -/
def Spares (s : Service K) : Prop :=
  ∀ connected rest, s.database = .dismissal connected true :: rest →
    ∀ state, s.lastWifiState = some state → state.radioPublicKey ≠ some connected →
      ∀ t, s.step .returns = some t → t.lastWifiState = some state

theorem Sound.consistent (sound : Sound s) : Consistent s where
  current state current := by
    obtain ⟨entry, cached, same⟩ := Option.map_eq_some_iff.mp current
    rw [sound.currentEntry] at cached
    exact ⟨entry, cached, same, (sound.cached entry cached).connection⟩
  silent entry cached key member same := by
    have entrySound := sound.cached entry cached
    rw [entrySound.needed, entrySound.silent key member same, Bool.false_and]
  said := sound.said
  evaluated entry cached := by
    have entrySound := sound.cached entry cached
    rw [entrySound.needed, Bool.and_eq_true, Bool.not_eq_true', entrySound.wanted]
    constructor
    · rintro ⟨⟨composed, other⟩, idle⟩
      refine ⟨composed, idle, fun key member same => ?_⟩
      have silent := entrySound.silent key member same
      exact Bool.false_ne_true (silent.symm.trans (entrySound.wanted.mpr ⟨composed, other⟩))
    · rintro ⟨composed, idle, other⟩
      exact ⟨⟨composed, fun key member => other key (sound.marks.keys key member)⟩, idle⟩

/-- The entry of another radio wants no prompt, so there is nothing to clear. -/
theorem Sound.spares (sound : Sound s) : Spares s := by
  intro connected rest first state last other t stepped
  obtain ⟨entry, current, rfl⟩ := Option.map_eq_some_iff.mp last
  have cached : s.cache = some entry := sound.currentEntry ▸ current
  have unwanted := (sound.first_dismissal first cached).resolve_left other
  have needed : entry.state.promptNeeded = false := by
    rw [(sound.cached entry cached).needed, unwanted, Bool.false_and]
  rw [Service.step, first] at stepped
  cases stepped
  have same : { s with database := rest }.lastWifiState = some entry.state := last
  rw [dismissWifiPrompt_lastWifiState, same, ← needed]
  rfl

/-- In every run, every state reached is consistent and the dismissals spare the other radios. -/
theorem run_consistent (promptState : Dict K PromptEntry) (boundPublicKey : Option K)
    (running : Bool)
    (run : Reaches Service.step Any (Service.start promptState boundPublicKey running) s) :
    Consistent s ∧ Spares s := by
  have sound : Sound s :=
    run.invariant (fun before _ stepped => step_sound before stepped)
      (start_sound promptState boundPublicKey running)
  exact ⟨sound.consistent, sound.spares⟩

end State

section Runs

/-- A radio is attached and its setup waits for the database. -/
def attached (publicKey : Nat) : List (Event Nat) :=
  [.connect publicKey, .requestSetup, .next, .setupAsks]

def identified : List (Event Nat) := [.identified, .setupEnds true]

/-- A full check finds a network without stored credentials. -/
def checked : List (Event Nat) :=
  [.request (.fullCheck none none), .next, .session .begin_,
    .session (.read (some ['h', 'o', 'm', 'e']) true true none false), .session .answer,
    .session (.resume 0 false false), .session .close]

def detached : List (Event Nat) := [.requestDisconnect, .next]

/-- The first radio is dismissed and replaced by another while the write of its dismissal waits. The
second one is checked during a restore. -/
def dismissedRun : List (Event Nat) :=
  attached 0 ++ identified ++ checked ++ [.dismiss 0] ++ detached ++ attached 1 ++
    [.mark 5, .returns] ++ identified ++ [.setRunning true] ++ checked ++ [.setRunning false]

theorem dismissedRun_consistent : ∃ s : Service Nat,
    execute Service.step (.start Dict.empty none false) dismissedRun = some s ∧
    s.returned = [0] ∧ s.lastWifiState.any (·.promptNeeded) = true ∧ Consistent s ∧ Spares s := by
  have ran : (execute Service.step (.start Dict.empty none false)
      dismissedRun).any (fun s => decide (s.returned = [0] ∧
        s.lastWifiState.any (·.promptNeeded) = true)) = true := by decide +kernel
  obtain ⟨s, executed, holds⟩ := (Option.any_eq_true _ _).mp ran
  obtain ⟨returned, prompted⟩ := of_decide_eq_true holds
  exact ⟨s, executed, returned, prompted,
    run_consistent Dict.empty none false (execute_reaches executed)⟩

end Runs

end Meshloom.WifiPrompt
