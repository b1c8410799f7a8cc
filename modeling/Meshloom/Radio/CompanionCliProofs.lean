import Meshloom.Radio.CompanionCli

/-! Replies of the companion CLI are never misattributed. A tag is either with
the exchange under way, or quarantined, or has no answer to come; so a reply that
carries the tag of the exchange under way answers that exchange's own command. -/
namespace Meshloom.CompanionCli
open Transition
variable {link : CliLinkState} {s t : State}

theorem length_cliTagAlphabet : cliTagAlphabet.length = 93 := by decide

theorem nodup_cliTagAlphabet : cliTagAlphabet.Nodup := by decide

theorem cliTag_injOn (inside : i < 93 * 93) (other : j < 93 * 93) (same : cliTag i = cliTag j) :
    i = j := by
  have size := length_cliTagAlphabet
  have high (k : Nat) (small : k < 93 * 93) : k / 93 < cliTagAlphabet.length := by
    rw [size]
    omega
  have low (k : Nat) : k % 93 < cliTagAlphabet.length := by
    rw [size]
    omega
  simp only [cliTag, size, List.cons.injEq, and_true] at same
  obtain ⟨first, second⟩ := same
  rw [List.getD_eq_getElem _ _ (high i inside), List.getD_eq_getElem _ _ (high j other)] at first
  rw [List.getD_eq_getElem _ _ (low i), List.getD_eq_getElem _ _ (low j)] at second
  have quotients := nodup_cliTagAlphabet.getElem_inj_iff.mp first
  have remainders := nodup_cliTagAlphabet.getElem_inj_iff.mp second
  omega

/-- What the search for a tag can do: it moves the counter on and finds a tag
that is not quarantined, or it has seen `tries` quarantined tags in a row. -/
theorem searchTag_cases (version : Option Nat) (tries : Nat) (link : CliLinkState) :
    (∃ tag next, searchTag version tries link = ({ link with nextTag := next }, some tag) ∧
      tag ∉ link.quarantined ∧ tag.length = 2) ∨
    (∃ next, searchTag version tries link =
        (markUnreliable { link with nextTag := next } version, none)) ∧
      ∀ i < tries, cliTag ((link.nextTag + i) % (93 * 93)) ∈ link.quarantined := by
  have size := length_cliTagAlphabet
  induction tries generalizing link with
  | zero => exact .inr ⟨⟨link.nextTag, rfl⟩, by simp⟩
  | succ tries ih =>
      simp only [searchTag, size]
      split
      · rename_i taken
        rcases ih { link with nextTag := (link.nextTag % (93 * 93) + 1) % (93 * 93) } with
          ⟨tag, next, found, free, length⟩ | ⟨⟨next, exhausted⟩, seen⟩
        · exact .inl ⟨tag, next, found, free, length⟩
        · refine .inr ⟨⟨next, exhausted⟩, ?_⟩
          intro i inside
          cases i with
          | zero => exact taken
          | succ i =>
              have later := seen i (by omega)
              simp only at later
              rwa [show (link.nextTag + (i + 1)) % (93 * 93) =
                ((link.nextTag % (93 * 93) + 1) % (93 * 93) + i) % (93 * 93) by omega]
      · rename_i free
        exact .inl ⟨_, _, rfl, free, rfl⟩

/-- As many consecutive tags as there are tries cannot all be quarantined. -/
theorem quarantined_of_consecutive (few : tries ≤ 93 * 93)
    (seen : ∀ i < tries, cliTag ((link.nextTag + i) % (93 * 93)) ∈ link.quarantined) :
    tries ≤ link.quarantined.card := by
  have injective : Set.InjOn (fun i => cliTag ((link.nextTag + i) % (93 * 93)))
      (Finset.range tries) := by
    intro i inside j other same
    simp only [Finset.coe_range, Set.mem_Iio] at inside other
    have indices := cliTag_injOn (Nat.mod_lt _ (by decide)) (Nat.mod_lt _ (by decide)) same
    omega
  have bound := Finset.card_le_card_of_injOn _ (fun i inside => seen i (Finset.mem_range.mp inside))
    injective
  rwa [Finset.card_range] at bound

/-- `_allocate_tag` finds a free tag unless more than 64 tags are quarantined. -/
theorem allocateTag_cases (version : Option Nat) (link : CliLinkState) :
    (∃ tag next, allocateTag version link = ({ link with nextTag := next }, some tag) ∧
      tag ∉ link.quarantined ∧ tag.length = 2) ∨
    (∃ next, allocateTag version link =
        (markUnreliable { link with nextTag := next } version, none)) ∧
      cliMaxQuarantinedTags < link.quarantined.card := by
  unfold allocateTag
  split
  · rename_i many
    exact .inr ⟨⟨link.nextTag, rfl⟩, many⟩
  · rename_i few
    have bound : link.quarantined.card ≤ 64 := Nat.not_lt.mp few
    have tries : min (cliTagAlphabet.length * cliTagAlphabet.length) (link.quarantined.card + 1) =
        link.quarantined.card + 1 := by
      rw [length_cliTagAlphabet]
      omega
    simp only [tries]
    rcases searchTag_cases version (link.quarantined.card + 1) link with found | ⟨_, seen⟩
    · exact .inl found
    · have impossible := quarantined_of_consecutive (by omega) seen
      omega

/-- The tag of the exchange under way is not quarantined, and every unanswered
command is of that exchange or has its tag in quarantine. -/
structure Invariant (s : State) : Prop where
  active : ∀ x, s.exchange = some x →
    x.id < s.nextId ∧ x.tag.length = 2 ∧ x.tag ∉ s.link.quarantined
  pending : ∀ c ∈ s.outstanding, c.id < s.nextId ∧ c.tag.length = 2 ∧
    (c.tag ∈ s.link.quarantined ∨ ∃ x, s.exchange = some x ∧ x.id = c.id ∧ x.tag = c.tag)
  settled : ∀ r ∈ s.answered, r.1 < s.nextId ∧ ∀ c ∈ s.outstanding, c.id ≠ r.1
  once : (s.answered.map Prod.fst).Nodup
  replied : ∀ x text, s.exchange = some x → x.reply = some (.reply text) → (x.id, text) ∈ s.answered
  returned : ∀ r ∈ s.returned, r ∈ s.answered

theorem initial_invariant (initial : Initial s) : Invariant s := by
  obtain ⟨_, exchange, outstanding, answered, returned⟩ := initial
  constructor <;> simp [exchange, outstanding, answered, returned]

theorem start_invariant (invariant : Invariant s) (idle : s.exchange = none) (caller : Caller) :
    Invariant (start s caller) := by
  have quarantined : ∀ c ∈ s.outstanding, c.tag ∈ s.link.quarantined := by
    intro c member
    rcases (invariant.pending c member).2.2 with held | ⟨x, under, _⟩
    · exact held
    · rw [idle] at under
      contradiction
  unfold start
  rcases allocateTag_cases s.firmwareVerCode s.link with
    ⟨tag, next, allocated, free, length⟩ | ⟨⟨next, raised⟩, _⟩
  · simp only [allocated]
    constructor
    · rintro x ⟨rfl⟩
      exact ⟨Nat.lt_succ_self _, length, free⟩
    · intro c member
      rcases List.mem_cons.mp member with rfl | member
      · exact ⟨Nat.lt_succ_self _, length, .inr ⟨_, rfl, rfl, rfl⟩⟩
      · obtain ⟨old, length, _⟩ := invariant.pending c member
        exact ⟨Nat.lt_succ_of_lt old, length, .inl (quarantined c member)⟩
    · intro r member
      obtain ⟨old, others⟩ := invariant.settled r member
      refine ⟨Nat.lt_succ_of_lt old, ?_⟩
      intro c member
      rcases List.mem_cons.mp member with rfl | member
      · exact Nat.ne_of_gt old
      · exact others c member
    · exact invariant.once
    · rintro x text ⟨rfl⟩ replied
      contradiction
    · exact invariant.returned
  · simp only [raised]
    constructor
    · simp
    · intro c member
      obtain ⟨old, length, _⟩ := invariant.pending c member
      exact ⟨old, length, .inl (quarantined c member)⟩
    · exact invariant.settled
    · exact invariant.once
    · simp
    · exact invariant.returned

/-- Leaving without the reply puts the tag in quarantine. -/
theorem leave_invariant (invariant : Invariant s) (under : s.exchange = some x) :
    Invariant (leave s x false) := by
  constructor
  · simp [leave]
  · intro c member
    obtain ⟨old, length, held⟩ := invariant.pending c member
    refine ⟨old, length, .inl ?_⟩
    rcases held with held | ⟨y, same, _, tag⟩
    · exact Finset.mem_insert_of_mem held
    · rw [under] at same
      cases same
      rw [← tag]
      exact Finset.mem_insert_self _ _
  · exact invariant.settled
  · exact invariant.once
  · simp [leave]
  · exact invariant.returned

/-- Leaving with the reply needs no quarantine: the command has its answer. -/
theorem leave_matched_invariant (invariant : Invariant s) (under : s.exchange = some x)
    (replied : x.reply = some (.reply text)) :
    Invariant { leave s x true with returned := (x.id, text) :: s.returned } := by
  have answered := invariant.replied x text under replied
  constructor
  · simp [leave]
  · intro c member
    obtain ⟨old, length, held⟩ := invariant.pending c member
    refine ⟨old, length, .inl ?_⟩
    rcases held with held | ⟨y, same, id, _⟩
    · exact held
    · rw [under] at same
      cases same
      exact absurd id.symm ((invariant.settled _ answered).2 c member)
  · exact invariant.settled
  · exact invariant.once
  · simp [leave]
  · intro r member
    rcases List.mem_cons.mp member with rfl | member
    · exact answered
    · exact invariant.returned r member

theorem probed_invariant (invariant : Invariant s) (capabilities : CliCapabilities) :
    Invariant (probed s capabilities) :=
  ⟨invariant.active, invariant.pending, invariant.settled, invariant.once, invariant.replied,
    invariant.returned⟩

theorem conclude_invariant (invariant : Invariant s) (under : s.exchange = some x)
    (outcome : ExchangeOutcome) (genuine : ∀ text, outcome = .reply text → x.reply = some outcome) :
    Invariant (conclude s x outcome) := by
  have left := leave_invariant invariant under
  unfold conclude
  split
  · exact leave_matched_invariant invariant under (genuine _ rfl)
  · exact probed_invariant (leave_matched_invariant invariant under (genuine _ rfl)) _
  · exact probed_invariant left _
  · exact probed_invariant left _
  · exact start_invariant left rfl _
  · exact ⟨left.active, left.pending, left.settled, left.once, left.replied, left.returned⟩
  · exact left

/-- The handler keeps the exchange's identity and takes the text behind its tag. -/
theorem onReply_cases (x : Exchange) (text : List Char) :
    (onReply x text).id = x.id ∧ (onReply x text).tag = x.tag ∧
      ∀ body, (onReply x text).reply = some (.reply body) →
        x.reply = some (.reply body) ∨ taggedReply text = true ∧ text = x.tag ++ '|' :: body := by
  unfold onReply
  simp only
  split
  · exact ⟨rfl, rfl, fun body replied => .inl replied⟩
  split
  · rename_i tagged
    split
    · rename_i starts
      refine ⟨rfl, rfl, ?_⟩
      rintro body ⟨rfl⟩
      obtain ⟨rest, rfl⟩ := List.isPrefixOf_iff_prefix.mp starts
      exact .inr ⟨tagged, by simp⟩
    · exact ⟨rfl, rfl, fun body replied => .inl replied⟩
  split
  · refine ⟨rfl, rfl, ?_⟩
    rintro body ⟨⟩
  · exact ⟨rfl, rfl, fun body replied => .inl replied⟩

/-- An event handler may set the futures of the exchange, but the reply only to
one that the firmware sent for it. -/
theorem handled_invariant (invariant : Invariant s) {handler : Exchange → Exchange}
    (keeps : ∀ x, (handler x).id = x.id ∧ (handler x).tag = x.tag)
    (genuine : ∀ x body, s.exchange = some x → (handler x).reply = some (.reply body) →
      x.reply = some (.reply body) ∨ (x.id, body) ∈ s.answered) :
    Invariant { s with exchange := s.exchange.map handler } := by
  constructor
  · intro y handled
    obtain ⟨x, under, rfl⟩ := Option.map_eq_some_iff.mp handled
    rw [(keeps x).1, (keeps x).2]
    exact invariant.active x under
  · intro c member
    obtain ⟨old, length, held⟩ := invariant.pending c member
    refine ⟨old, length, ?_⟩
    rcases held with held | ⟨x, under, same⟩
    · exact .inl held
    · exact .inr ⟨handler x, by simp [under], by rwa [(keeps x).1, (keeps x).2]⟩
  · exact invariant.settled
  · exact invariant.once
  · intro y body handled replied
    obtain ⟨x, under, rfl⟩ := Option.map_eq_some_iff.mp handled
    rw [(keeps x).1]
    rcases genuine x body under replied with before | sent
    · exact invariant.replied x body under before
    · exact sent
  · exact invariant.returned

theorem deliver_invariant (invariant : Invariant s)
    (own : ∀ x body, s.exchange = some x → taggedReply text = true → text = x.tag ++ '|' :: body →
      (x.id, body) ∈ s.answered) :
    Invariant (deliver s text) := by
  apply handled_invariant invariant
  · intro x
    exact ⟨(onReply_cases x text).1, (onReply_cases x text).2.1⟩
  · intro x body under replied
    rcases (onReply_cases x text).2.2 body replied with before | ⟨tagged, now⟩
    · exact .inl before
    · exact .inr (own x body under tagged now)

theorem onError_keeps (x : Exchange) :
    (onError x).id = x.id ∧ (onError x).tag = x.tag ∧ (onError x).reply = x.reply := by
  unfold onError
  split
  · exact ⟨rfl, rfl, rfl⟩
  · exact ⟨rfl, rfl, rfl⟩

/-- The firmware's answer to an outstanding command, before it is delivered. -/
theorem answered_invariant (invariant : Invariant s) (member : command ∈ s.outstanding)
    (body : List Char) :
    Invariant { s with
      outstanding := s.outstanding.filter (·.id ≠ command.id)
      answered := (command.id, body) :: s.answered } := by
  constructor
  · exact invariant.active
  · intro c kept
    exact invariant.pending c (List.mem_filter.mp kept).1
  · intro r listed
    rcases List.mem_cons.mp listed with rfl | listed
    · refine ⟨(invariant.pending command member).1, ?_⟩
      intro c kept
      simpa using (List.mem_filter.mp kept).2
    · refine ⟨(invariant.settled r listed).1, ?_⟩
      intro c kept
      exact (invariant.settled r listed).2 c (List.mem_filter.mp kept).1
  · refine List.nodup_cons.mpr ⟨?_, invariant.once⟩
    intro repeated
    obtain ⟨r, listed, same⟩ := List.mem_map.mp repeated
    exact (invariant.settled r listed).2 command member same.symm
  · intro x text under replied
    exact List.mem_cons_of_mem _ (invariant.replied x text under replied)
  · intro r listed
    exact List.mem_cons_of_mem _ (invariant.returned r listed)

/-- The answer to a command reaches the exchange that sent it, or none. -/
theorem answer_own (invariant : Invariant s) (member : command ∈ s.outstanding)
    (under : s.exchange = some x) (text : command.tag ++ '|' :: body = x.tag ++ '|' :: taken) :
    x.id = command.id ∧ taken = body := by
  obtain ⟨_, length, free⟩ := invariant.active x under
  obtain ⟨_, same, held⟩ := invariant.pending command member
  obtain ⟨tags, bodies⟩ := List.append_inj text (same.trans length.symm)
  refine ⟨?_, ((List.cons.inj bodies).2).symm⟩
  rcases held with quarantined | ⟨y, current, id, _⟩
  · rw [tags] at quarantined
    contradiction
  · rw [under] at current
    cases current
    exact id

theorem step_invariant (invariant : Invariant s) (stepped : step s e = some t) : Invariant t := by
  cases e with
  | run =>
      simp only [step] at stepped
      split at stepped
      · contradiction
      rename_i idle
      split at stepped
      · cases stepped
        exact invariant
      · cases stepped
        exact start_invariant invariant (by simpa using idle) _
  | probe =>
      simp only [step] at stepped
      split at stepped
      · contradiction
      · rename_i idle
        cases stepped
        exact start_invariant invariant (by simpa using idle) _
  | answer id body =>
      simp only [step] at stepped
      split at stepped
      · contradiction
      · rename_i command found
        cases stepped
        have member := List.mem_of_find?_eq_some found
        obtain rfl : command.id = id := by simpa using List.find?_some found
        apply deliver_invariant (answered_invariant invariant member body)
        intro x taken under _ text
        obtain ⟨own, rfl⟩ := answer_own invariant member under text
        rw [own]
        exact List.mem_cons_self
  | untagged text =>
      simp only [step] at stepped
      split at stepped
      · contradiction
      · rename_i plain
        cases stepped
        apply deliver_invariant invariant
        intro _ _ _ tagged _
        contradiction
  | refused =>
      cases stepped
      apply handled_invariant invariant
      · intro x
        exact ⟨(onError_keeps x).1, (onError_keeps x).2.1⟩
      · intro x body _ replied
        rw [(onError_keeps x).2.2] at replied
        exact .inl replied
  | wake =>
      simp only [step] at stepped
      split at stepped
      · rename_i x under
        obtain ⟨outcome, replied, rfl⟩ := Option.map_eq_some_iff.mp stepped
        apply conclude_invariant invariant under
        intro text _
        exact replied
      · contradiction
  | deadline =>
      simp only [step] at stepped
      split at stepped
      · rename_i x under
        split at stepped
        · contradiction
        split at stepped
        · cases stepped
          exact conclude_invariant invariant under _ (by simp)
        · cases stepped
          exact conclude_invariant invariant under _ (by simp)
      · contradiction
  | abort =>
      obtain ⟨x, under, rfl⟩ := Option.map_eq_some_iff.mp stepped
      exact leave_invariant invariant under
  | resetCliProbe =>
      cases stepped
      exact ⟨invariant.active, invariant.pending, invariant.settled, invariant.once,
        invariant.replied, invariant.returned⟩

/-- On every run of a connection a returned text is the one reply of the firmware
to the command of that very exchange. A quarantined tag is never allocated, and
allocation fails only when more than 64 tags are quarantined. -/
theorem replies_attributed :
    (∀ s t, Initial s → Reaches step Any s t →
      (∀ reply ∈ t.returned, reply ∈ t.answered) ∧ (t.answered.map Prod.fst).Nodup) ∧
    (∀ version link next tag, allocateTag version link = (next, some tag) →
      tag ∉ link.quarantined) ∧
    ∀ version link next, allocateTag version link = (next, none) →
      cliMaxQuarantinedTags < link.quarantined.card := by
  refine ⟨?_, ?_, ?_⟩
  · intro s t initial run
    have invariant : Invariant t :=
      run.invariant (fun kept _ stepped => step_invariant kept stepped) (initial_invariant initial)
    exact ⟨invariant.returned, invariant.once⟩
  · intro version link next tag allocated
    rcases allocateTag_cases version link with ⟨_, _, found, free, _⟩ | ⟨⟨_, raised⟩, _⟩
    · cases found.symm.trans allocated
      exact free
    · cases raised.symm.trans allocated
  · intro version link next raised
    rcases allocateTag_cases version link with ⟨_, _, found, _⟩ | ⟨_, many⟩
    · cases found.symm.trans raised
    · exact many

end Meshloom.CompanionCli
