import Meshloom.Frontend.MessageView

/-! What the buffer makes of the acknowledgements of a message that is not loaded, beside the same
acknowledgements on the loaded message. -/
namespace Meshloom.Frontend.MessageView

/-- The buffer after some updates of one message. -/
def buffered (updates : List AckUpdate) : Option AckUpdate :=
  updates.foldl (fun existing update => some (mergePendingAck existing update)) none

/-- A message with what is buffered for it, if anything is. -/
def withBuffer (message : Message) (existing : Option AckUpdate) : Message :=
  existing.elim message (withPending message)

/-- The buffer leaves out an update that counts less than what it has, or as much with fewer
paths. -/
def ignores (existing : Option AckUpdate) (update : AckUpdate) : Bool :=
  existing.any fun existing => update.ackCount < existing.ackCount ||
    update.ackCount = existing.ackCount && update.paths.any fun paths =>
      existing.paths.any fun old => paths.length < old.length

/-- The updates that the buffer does not leave out. -/
def heeded (updates : List AckUpdate) : List AckUpdate :=
  (updates.foldl (fun (seen : List AckUpdate × List AckUpdate) update =>
    (seen.1 ++ [update],
      if ignores (buffered seen.1) update then seen.2 else seen.2 ++ [update])) ([], [])).2

/-- Counts and numbers of paths only grow. -/
def Growing (message : Message) (updates : List AckUpdate) : Prop :=
  ∀ front update rest, updates = front ++ update :: rest →
    (∀ earlier ∈ front, earlier.ackCount ≤ update.ackCount) ∧
    ∀ paths ∈ update.paths, message.pathCount ≤ paths.length ∧
      ∀ earlier ∈ front, ∀ old ∈ earlier.paths, old.length ≤ paths.length

/-- Once a packet id came, an update that brings paths but no packet id raises the count. -/
def NamesPacket (updates : List AckUpdate) : Prop :=
  ∀ front update rest, updates = front ++ update :: rest → update.paths ≠ none →
    update.packetId = none → (∃ earlier ∈ front, earlier.packetId ≠ none) →
      ∀ earlier ∈ front, earlier.ackCount < update.ackCount

/-- What an update leaves waiting: what waited, perhaps under the update's packet id, when it is
ignored, else its own fields over those that waited. Paths at an equal count replace the packet id
even when they come without one. -/
theorem mergePendingAck_cases (old update : AckUpdate) :
    (ignores (some old) update = true ∧ update.ackCount ≤ old.ackCount ∧
        ∃ packetId, (packetId = old.packetId ∨ packetId = update.packetId) ∧
          mergePendingAck (some old) update = { old with packetId }) ∨
      ignores (some old) update = false ∧ old.ackCount ≤ update.ackCount ∧
        ∃ packetId, (packetId = update.packetId.or old.packetId ∨ packetId = update.packetId ∧
            update.paths ≠ none ∧ update.ackCount = old.ackCount) ∧
          mergePendingAck (some old) update =
            { ackCount := update.ackCount
              paths := update.paths.or old.paths
              packetId
              packetHash := update.packetHash.or old.packetHash
              observerReachEligible :=
                update.observerReachEligible.or old.observerReachEligible } := by
  simp only [mergePendingAck]
  split
  · rename_i more
    exact .inr ⟨by simp [ignores, more.le, more.ne'], more.le, _, .inl rfl, rfl⟩
  split
  · rename_i less
    exact .inl ⟨by simp [ignores, less], less.le, _, .inl rfl, rfl⟩
  have same : update.ackCount = old.ackCount := by omega
  split
  · rename_i bare
    refine .inr ⟨by simp [ignores, same, bare], same.ge, _, .inl rfl, ?_⟩
    split
    · rename_i nothing
      obtain ⟨unchanged, hash, eligible⟩ := nothing
      have packetId : update.packetId.or old.packetId = old.packetId := by
        cases named : update.packetId with
        | none => rfl
        | some packetId => simpa [named] using unchanged
      simp [same, hash, eligible, packetId, bare]
    · have packetId : (if update.packetId ≠ none ∧ update.packetId ≠ old.packetId then
          update.packetId else old.packetId) = update.packetId.or old.packetId := by
        cases update.packetId with
        | none => rfl
        | some packetId =>
            split
            · rfl
            · rename_i unchanged
              simpa [eq_comm] using unchanged
      simp [same, packetId, bare]
  · rename_i paths brought
    have leaves : ignores (some old) update =
        !(old.paths.all fun kept => kept.length ≤ paths.length) := by
      cases kept : old.paths with
      | none => simp [ignores, same, brought, kept]
      | some kept => simp [ignores, *, ← decide_not]
    split
    · rename_i longer
      exact .inr ⟨by simp [leaves, longer], same.ge, _,
        .inr ⟨rfl, by simp [brought], same⟩, by simp [brought]⟩
    · rename_i shorter
      have ignored : ignores (some old) update = true := by
        rw [leaves]
        simpa using shorter
      split
      · exact .inl ⟨ignored, same.le, _, .inl rfl, rfl⟩
      · exact .inl ⟨ignored, same.le, _, .inr rfl, rfl⟩

theorem buffered_snoc (updates : List AckUpdate) (update : AckUpdate) :
    buffered (updates ++ [update]) = some (mergePendingAck (buffered updates) update) := by
  simp [buffered]

theorem heeded_snoc (updates : List AckUpdate) (update : AckUpdate) :
    heeded (updates ++ [update]) =
      if ignores (buffered updates) update then heeded updates
      else heeded updates ++ [update] := by
  have seen (updates : List AckUpdate) (start : List AckUpdate × List AckUpdate) :
      (updates.foldl (fun (seen : List AckUpdate × List AckUpdate) update =>
        (seen.1 ++ [update],
          if ignores (buffered seen.1) update then seen.2 else seen.2 ++ [update])) start).1 =
        start.1 ++ updates := by
    induction updates generalizing start with
    | nil => simp
    | cons update rest ih => simp [ih]
  simp [heeded, seen]

section Message
variable (message : Message) (existing : Option AckUpdate) (update : AckUpdate)

theorem withBuffer_acked :
    (withBuffer message (some (mergePendingAck existing update))).acked =
      max (withBuffer message existing).acked update.ackCount := by
  cases existing with
  | none => rfl
  | some old =>
      obtain ⟨_, less, _, _, left⟩ | ⟨_, more, _, _, heard⟩ := mergePendingAck_cases old update
      · rw [left]
        simp only [withBuffer, Option.elim_some, withPending]
        omega
      · rw [heard]
        simp only [withBuffer, Option.elim_some, withPending]
        omega

/-- The hash and the eligibility follow the updates that are not ignored. -/
theorem withBuffer_extras :
    let heard := if ignores existing update then withBuffer message existing
      else (withBuffer message existing).acknowledge update
    (withBuffer message (some (mergePendingAck existing update))).packetHash = heard.packetHash ∧
      (withBuffer message (some (mergePendingAck existing update))).observerReachEligible =
        heard.observerReachEligible := by
  cases existing with
  | none => exact ⟨rfl, rfl⟩
  | some old =>
      obtain ⟨ignored, _, _, _, left⟩ | ⟨heeds, _, _, _, heard⟩ := mergePendingAck_cases old update
      · rw [left, if_pos ignored]
        exact ⟨rfl, rfl⟩
      · rw [heard, heeds]
        simp only [withBuffer, Option.elim_some, withPending, Message.patch, Message.acknowledge,
          Bool.false_eq_true, if_false]
        exact ⟨by cases update.packetHash <;> rfl, by cases update.observerReachEligible <;> rfl⟩

variable {existing update}

theorem withBuffer_paths (heeds : ignores existing update = false)
    (longer : ∀ paths ∈ update.paths, (withBuffer message existing).pathCount ≤ paths.length) :
    (withBuffer message (some (mergePendingAck existing update))).paths =
      ((withBuffer message existing).acknowledge update).paths := by
  have direct : ((withBuffer message existing).acknowledge update).paths =
      update.paths.or (withBuffer message existing).paths := by
    cases brought : update.paths with
    | none => simp [Message.acknowledge, brought]
    | some paths => simp [Message.acknowledge, brought, longer paths brought]
  rw [direct]
  cases existing with
  | none => rfl
  | some old =>
      obtain ⟨ignored, _⟩ | ⟨_, _, _, _, heard⟩ := mergePendingAck_cases old update
      · simp [ignored] at heeds
      · simp [heard, withBuffer, withPending, Option.or_assoc]

theorem withBuffer_packetId (heeds : ignores existing update = false)
    (named : update.packetId ≠ none ∨ update.paths = none ∨
      ∀ old ∈ existing, old.packetId = none ∨ old.ackCount < update.ackCount) :
    (withBuffer message (some (mergePendingAck existing update))).packetId =
      ((withBuffer message existing).acknowledge update).packetId := by
  cases existing with
  | none => rfl
  | some old =>
      obtain ⟨ignored, _⟩ | ⟨_, _, packetId, kept, heard⟩ := mergePendingAck_cases old update
      · simp [ignored] at heeds
      have kept : packetId = update.packetId.or old.packetId := by
        rcases kept with kept | ⟨kept, brought, same⟩
        · exact kept
        rw [kept]
        rcases named with named | bare | before
        · cases own : update.packetId with
          | none => exact (named own).elim
          | some _ => rfl
        · exact (brought bare).elim
        · rcases before old rfl with unnamed | less
          · simp [unnamed]
          · omega
      rw [heard, kept]
      simp only [withBuffer, Option.elim_some, withPending, Message.patch, Message.acknowledge]
      cases update.packetId <;> rfl

end Message

/-- What is buffered has its count, its paths and its packet id from the updates. -/
theorem buffered_from (updates : List AckUpdate) (existing : AckUpdate)
    (waits : buffered updates = some existing) :
    (∃ update ∈ updates, existing.ackCount = update.ackCount) ∧
      (∀ paths ∈ existing.paths, ∃ update ∈ updates, update.paths = some paths) ∧
      ∀ packetId ∈ existing.packetId, ∃ update ∈ updates, update.packetId = some packetId := by
  induction updates using List.reverseRecOn generalizing existing with
  | nil => simp [buffered] at waits
  | append_singleton updates update ih =>
      have last : update ∈ updates ++ [update] := by simp
      rw [buffered_snoc, Option.some.injEq] at waits
      subst waits
      cases before : buffered updates with
      | none =>
          exact ⟨⟨update, last, rfl⟩, fun _ brought => ⟨update, last, brought⟩,
            fun _ named => ⟨update, last, named⟩⟩
      | some old =>
          obtain ⟨⟨first, listed, count⟩, paths, packetIds⟩ := ih old before
          have earlier {seen : AckUpdate} (seenIn : seen ∈ updates) : seen ∈ updates ++ [update] :=
            List.mem_append_left _ seenIn
          obtain ⟨_, _, packetId, kept, left⟩ | ⟨_, _, packetId, kept, heard⟩ :=
            mergePendingAck_cases old update
          · rw [left]
            refine ⟨⟨first, earlier listed, count⟩, fun old brought => ?_, fun id named => ?_⟩
            · obtain ⟨seen, seenIn, eq⟩ := paths old brought
              exact ⟨seen, earlier seenIn, eq⟩
            · rcases kept with rfl | rfl
              · obtain ⟨seen, seenIn, eq⟩ := packetIds id named
                exact ⟨seen, earlier seenIn, eq⟩
              · exact ⟨update, last, named⟩
          · rw [heard]
            refine ⟨⟨update, last, rfl⟩, fun all brought => ?_, fun id named => ?_⟩
            · rcases Option.or_eq_some_iff.mp brought with own | ⟨_, kept⟩
              · exact ⟨update, last, own⟩
              · obtain ⟨seen, seenIn, eq⟩ := paths all kept
                exact ⟨seen, earlier seenIn, eq⟩
            · have from_or : update.packetId = some id ∨ old.packetId = some id := by
                rcases kept with rfl | ⟨rfl, _⟩
                · exact (Option.or_eq_some_iff.mp named).imp_right And.right
                · exact .inl named
              rcases from_or with own | kept
              · exact ⟨update, last, own⟩
              · obtain ⟨seen, seenIn, eq⟩ := packetIds id kept
                exact ⟨seen, earlier seenIn, eq⟩

section Runs
variable {message : Message} {updates : List AckUpdate} {update : AckUpdate}

theorem Growing.front (growing : Growing message (updates ++ [update])) :
    Growing message updates := by
  intro front later rest split
  exact growing front later (rest ++ [update]) (by simp [split])

theorem NamesPacket.front (names : NamesPacket (updates ++ [update])) : NamesPacket updates := by
  intro front later rest split
  exact names front later (rest ++ [update]) (by simp [split])

/-- No update is ignored while counts and numbers of paths grow. -/
theorem Growing.heeds (growing : Growing message (updates ++ [update])) :
    ignores (buffered updates) update = false := by
  obtain ⟨counts, lengths⟩ := growing updates update [] rfl
  cases waits : buffered updates with
  | none => rfl
  | some old =>
      obtain ⟨⟨first, listed, count⟩, paths, _⟩ := buffered_from updates old waits
      have bound : old.ackCount ≤ update.ackCount := count ▸ counts first listed
      have longer : ∀ brought ∈ update.paths, ∀ kept ∈ old.paths,
          kept.length ≤ brought.length := by
        intro brought new kept waited
        obtain ⟨seen, seenIn, eq⟩ := paths kept waited
        exact (lengths brought new).2 seen seenIn kept eq
      cases own : update.paths with
      | none => simp [ignores, bound, own]
      | some brought =>
          cases older : old.paths with
          | none => simp [ignores, bound, own, older]
          | some kept => simp [ignores, bound, own, older, longer brought own kept older]

theorem Growing.longer (growing : Growing message (updates ++ [update])) :
    ∀ paths ∈ update.paths, (withBuffer message (buffered updates)).pathCount ≤ paths.length := by
  intro brought new
  obtain ⟨own, lengths⟩ := (growing updates update [] rfl).2 brought new
  cases waits : buffered updates with
  | none => exact own
  | some old =>
      obtain ⟨_, paths, _⟩ := buffered_from updates old waits
      cases older : old.paths with
      | none => simpa [withBuffer, withPending, Message.pathCount, older] using own
      | some kept =>
          obtain ⟨seen, seenIn, eq⟩ := paths kept older
          simpa [withBuffer, withPending, Message.pathCount, older] using
            lengths seen seenIn kept eq

theorem Growing.heeded (growing : Growing message updates) : heeded updates = updates := by
  induction updates using List.reverseRecOn with
  | nil => rfl
  | append_singleton updates update ih =>
      rw [heeded_snoc, growing.heeds, ih growing.front]
      rfl

theorem NamesPacket.named (names : NamesPacket (updates ++ [update])) :
    update.packetId ≠ none ∨ update.paths = none ∨
      ∀ old ∈ buffered updates, old.packetId = none ∨ old.ackCount < update.ackCount := by
  by_cases own : update.packetId ≠ none
  · exact .inl own
  by_cases bare : update.paths = none
  · exact .inr (.inl bare)
  refine .inr (.inr fun old waits => ?_)
  obtain ⟨⟨first, listed, count⟩, _, packetIds⟩ := buffered_from updates old waits
  cases named : old.packetId with
  | none => exact .inl rfl
  | some packetId =>
      obtain ⟨seen, seenIn, eq⟩ := packetIds packetId named
      have raised := names updates update [] rfl bare (not_not.mp own)
        ⟨seen, seenIn, by simp [eq]⟩ first listed
      exact .inr (count ▸ raised)

end Runs

theorem withBuffer_snoc_acked (message : Message) (updates : List AckUpdate) :
    (withBuffer message (buffered updates)).acked =
      (updates.foldl Message.acknowledge message).acked := by
  induction updates using List.reverseRecOn with
  | nil => rfl
  | append_singleton updates update ih =>
      rw [buffered_snoc, withBuffer_acked, ih, List.foldl_concat]
      rfl

theorem withBuffer_heeded (message : Message) (updates : List AckUpdate) :
    (withBuffer message (buffered updates)).packetHash =
        ((heeded updates).foldl Message.acknowledge message).packetHash ∧
      (withBuffer message (buffered updates)).observerReachEligible =
        ((heeded updates).foldl Message.acknowledge message).observerReachEligible := by
  induction updates using List.reverseRecOn with
  | nil => exact ⟨rfl, rfl⟩
  | append_singleton updates update ih =>
      obtain ⟨hash, eligible⟩ := ih
      have extras := withBuffer_extras message (buffered updates) update
      rw [buffered_snoc, heeded_snoc]
      by_cases ignored : ignores (buffered updates) update = true
      · simp only [if_pos ignored] at extras ⊢
        exact ⟨extras.1.trans hash, extras.2.trans eligible⟩
      · simp only [if_neg ignored] at extras ⊢
        rw [List.foldl_concat, extras.1, extras.2]
        simp [Message.acknowledge, Message.patch, hash, eligible]

theorem withBuffer_growing {message : Message} {updates : List AckUpdate}
    (growing : Growing message updates) :
    (withBuffer message (buffered updates)).paths =
        (updates.foldl Message.acknowledge message).paths ∧
      (NamesPacket updates → (withBuffer message (buffered updates)).packetId =
        (updates.foldl Message.acknowledge message).packetId) := by
  induction updates using List.reverseRecOn with
  | nil => exact ⟨rfl, fun _ => rfl⟩
  | append_singleton updates update ih =>
      obtain ⟨paths, packetId⟩ := ih growing.front
      rw [buffered_snoc, List.foldl_concat]
      refine ⟨?_, fun names => ?_⟩
      · rw [withBuffer_paths message growing.heeds growing.longer]
        simp [Message.acknowledge, Message.pathCount, paths]
      · rw [withBuffer_packetId message growing.heeds names.named]
        simp [Message.acknowledge, Message.patch, packetId names.front]

theorem applyPendingAck_withBuffer (pending : Pending) (message : Message) :
    (applyPendingAck pending message).1 = withBuffer message (pending.get? message.id) := by
  unfold applyPendingAck
  cases pending.get? message.id <;> rfl

/-- A message that takes its buffered acknowledgements always counts those of the loaded one, and
its hash and eligibility are those of the updates that the buffer does not ignore. While counts
and numbers of paths only grow nothing is ignored, and it has the paths of the loaded one, and its
packet id when no paths come back at an equal count without one. -/
theorem buffered_agrees (message : Message) (updates : List AckUpdate) (pending : Pending)
    (waiting : pending.get? message.id = buffered updates) :
    let late := (applyPendingAck pending message).1
    let direct := updates.foldl Message.acknowledge message
    late.acked = direct.acked ∧
      late.packetHash = ((heeded updates).foldl Message.acknowledge message).packetHash ∧
      late.observerReachEligible =
        ((heeded updates).foldl Message.acknowledge message).observerReachEligible ∧
      (Growing message updates →
        late.paths = direct.paths ∧ late.packetHash = direct.packetHash ∧
          late.observerReachEligible = direct.observerReachEligible ∧
          (NamesPacket updates → late.packetId = direct.packetId)) := by
  obtain ⟨hash, eligible⟩ := withBuffer_heeded message updates
  rw [applyPendingAck_withBuffer, waiting]
  refine ⟨withBuffer_snoc_acked message updates, hash, eligible, fun growing => ?_⟩
  obtain ⟨paths, packetId⟩ := withBuffer_growing growing
  rw [growing.heeded] at hash eligible
  exact ⟨paths, hash, eligible, packetId⟩

/-- An acknowledgement with its paths, then one with the packet's id and hash. -/
theorem buffered_agrees_twice :
    let first : AckUpdate := ⟨1, some [], none, none, none⟩
    let second : AckUpdate := ⟨2, none, some (some 7), some (some "c0ffee"), none⟩
    let message : Message := ⟨1, .chan, "8b", "hi", some 5, 6, none, none, 0, none, none, none⟩
    let late :=
      (applyPendingAck (setPendingAck (setPendingAck .empty 1 first) 1 second) message).1
    let direct := [first, second].foldl Message.acknowledge message
    late.acked = direct.acked ∧ late.paths = direct.paths ∧ late.packetHash = direct.packetHash ∧
      late.packetId = direct.packetId := by
  intro first second message late direct
  obtain ⟨acked, _, _, grown⟩ := buffered_agrees message [first, second]
    (setPendingAck (setPendingAck .empty 1 first) 1 second) rfl
  have growing : Growing message [first, second] := by
    intro front update rest split
    obtain _ | ⟨head, _ | ⟨next, front⟩⟩ := front
    · obtain ⟨rfl, _⟩ := List.cons.inj split
      simp [first, Message.pathCount, message]
    · simp only [List.cons_append, List.nil_append, List.cons.injEq] at split
      obtain ⟨rfl, rfl, _⟩ := split
      simp [first, second]
    · simp at split
  have names : NamesPacket [first, second] := by
    intro front update rest split brought _ earlier
    obtain _ | ⟨head, _ | ⟨next, front⟩⟩ := front
    · simp at earlier
    · simp only [List.cons_append, List.nil_append, List.cons.injEq] at split
      obtain ⟨rfl, rfl, _⟩ := split
      exact (brought rfl).elim
    · simp at split
  obtain ⟨paths, hash, _, packetId⟩ := grown growing
  exact ⟨acked, paths, hash, packetId names⟩

/-- An update with a lower count than the one before it loses its packet id in the buffer. -/
theorem lower_count_ignored :
    ∃ (message : Message) (updates : List AckUpdate) (pending : Pending),
      pending.get? message.id = buffered updates ∧
        (applyPendingAck pending message).1.packetId ≠
          (updates.foldl Message.acknowledge message).packetId := by
  let first : AckUpdate := ⟨2, none, none, none, none⟩
  let second : AckUpdate := ⟨1, none, some (some 7), none, none⟩
  exact ⟨⟨1, .chan, "8b", "hi", some 5, 6, none, none, 0, none, none, none⟩, [first, second],
    setPendingAck (setPendingAck .empty 1 first) 1 second, rfl, by decide⟩

end Meshloom.Frontend.MessageView
