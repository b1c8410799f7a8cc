import Meshloom.GroupSampling
import Meshloom.Packet.GroupText
import Meshloom.Packet.PacketHistory

/-! Samples of the stored group texts that no key opened
(`RawPacketRepository.get_undecrypted_group_text_samples`). The rows come newest first from a
keyset scan, and the loop over them stops at a number of rows or when every kept group is full.
The scan starts below `2**63 - 1`, which is itself an id that SQLite can give. -/
namespace Meshloom.Packet
open Bytes KeysetScan

/-- A tuple of the result. -/
structure GroupTextSample where
  channelHash : List Char
  packetId : Int
  data : List UInt8
  timestamp : Int
  mac : List Char
  deriving DecidableEq, Repr

structure SampleQuery where
  maxHashes : Nat
  maxPerHash : Nat
  maxScan : Nat
  receivedSince : Int
  batchSize : Nat
  deriving DecidableEq, Repr

/-- The bounds are at least one. -/
def SampleQuery.Positive (q : SampleQuery) : Prop :=
  1 ≤ q.maxHashes ∧ 1 ≤ q.maxPerHash ∧ 1 ≤ q.maxScan ∧ 1 ≤ q.batchSize

/-- The variables of the scan. -/
structure SampleScan where
  scanned : Nat
  packetCount : Nat
  samples : List GroupTextSample
  fingerprints : Dict (List Char) (List (List UInt8))

namespace SampleScan
variable (q : SampleQuery)

/-- The checks at the end of the loop body: the state, and whether the loop breaks. -/
def finish (s : SampleScan) : SampleScan × Bool :=
  (s, q.maxScan ≤ s.scanned ||
    (s.fingerprints.size ≠ 0 && q.maxHashes ≤ s.fingerprints.size &&
      s.fingerprints.entries.all fun entry => q.maxPerHash ≤ entry.2.length))

/-- A payload whose group has the fingerprints `seen`. -/
def record (s : SampleScan) (row : StoredPacket) (payload : List UInt8)
    (seen : List (List UInt8)) : SampleScan :=
  let channelHash := toHex (payload.take 1)
  let distinctPayload := payload.drop 1
  if seen.length < q.maxPerHash ∧ distinctPayload ∉ seen then
    { s with
      fingerprints := s.fingerprints.set channelHash (seen ++ [distinctPayload])
      samples := s.samples ++
        [⟨channelHash, row.id, row.data, row.timestamp, toHex ((payload.drop 1).take 2)⟩] }
  else { s with fingerprints := s.fingerprints.set channelHash seen }

/-- The body of the loop. A row of a further group leaves it before the checks at its end. -/
def visit (s : SampleScan) (row : StoredPacket) : SampleScan × Bool :=
  let s := { s with scanned := s.scanned + 1 }
  if getPacketPayloadType row.data = some groupText then
    match parsePacket row.data with
    | none => s.finish q
    | some packet =>
      if packet.payloadType = groupText then
        let s := { s with packetCount := s.packetCount + 1 }
        if 3 ≤ packet.payload.length then
          match s.fingerprints.get? (toHex (packet.payload.take 1)) with
          | none =>
            if q.maxHashes ≤ s.fingerprints.size then (s, decide (q.maxScan ≤ s.scanned))
            else (s.record q row packet.payload []).finish q
          | some seen => (s.record q row packet.payload seen).finish q
        else s.finish q
      else s.finish q
  else s.finish q

/-- The rows of a batch, up to a `break`. -/
def walk (s : SampleScan) : List StoredPacket → SampleScan × Bool
  | [] => (s, false)
  | row :: rest =>
    let (s, stop) := s.visit q row
    if stop then (s, true) else s.walk rest

end SampleScan

/-- The condition of a batch of `_stream_undecrypted_rows_newest`. -/
def undecryptedBelow (receivedSince lastId : Int) (row : StoredPacket) : Bool :=
  row.messageId.isNone && decide (receivedSince ≤ row.timestamp) && decide (row.id < lastId)

/-- The rows of one query behind `last_id`. -/
def undecryptedRows (table : PacketTable) (receivedSince lastId : Int) : List StoredPacket :=
  select (·.id) table.rows (undecryptedBelow receivedSince lastId)

/-- The first value of `last_id`. -/
def streamStart : Int := 2 ^ 63 - 1

/-- The batches of the stream with the loop over them; `none` when the fuel runs out. -/
def SampleScan.stream (q : SampleQuery) (table : PacketTable) :
    Nat → Int → SampleScan → Option SampleScan
  | 0, _, _ => none
  | fuel + 1, lastId, s =>
    let rows := (undecryptedRows table q.receivedSince lastId).take (min q.batchSize q.maxScan)
    match rows.getLast? with
    | none => some s
    | some last =>
      let (s, stop) := s.walk q rows
      if stop then some s else SampleScan.stream q table fuel last.id s

/-- `get_undecrypted_group_text_samples`. Every batch but the last one has a row, so that one
round more than there are rows is enough. -/
def getUndecryptedGroupTextSamples (table : PacketTable) (q : SampleQuery) :
    Option (Nat × Nat × List GroupTextSample) :=
  (SampleScan.stream q table (table.rows.length + 1) streamStart ⟨0, 0, [], Dict.empty⟩).map
    fun s => (s.scanned, s.packetCount, s.samples)

/-- A row that is a group text with enough of a payload. -/
structure Candidate where
  row : StoredPacket
  payload : List UInt8
  deriving DecidableEq

def candidate? (row : StoredPacket) : Option Candidate :=
  match parsePacket row.data with
  | none => none
  | some packet =>
    if packet.payloadType = groupText ∧ 3 ≤ packet.payload.length then
      some ⟨row, packet.payload⟩
    else none

def Candidate.sample (c : Candidate) : GroupTextSample :=
  ⟨toHex (c.payload.take 1), c.row.id, c.row.data, c.row.timestamp, toHex ((c.payload.drop 1).take 2)⟩

/-- The samples of some rows without an early exit: the first groups by the channel-hash byte,
and from each the first payloads that differ behind it. -/
def plainSamples (q : SampleQuery) (rows : List StoredPacket) : List GroupTextSample :=
  (GroupSampling.sample (fun c : Candidate => c.payload.take 1) (fun c => c.payload.drop 1)
    q.maxHashes q.maxPerHash ((rows.take q.maxScan).filterMap candidate?)).map Candidate.sample

/-- The undecrypted rows of the window by descending id. -/
def undecryptedWindow (table : PacketTable) (receivedSince : Int) : List StoredPacket :=
  select (·.id) table.rows fun row => row.messageId.isNone && decide (receivedSince ≤ row.timestamp)

end Meshloom.Packet

/-! The sampling of group texts against its plain definition: no early exit and no skipped
check loses a sample, and the batches are those of one scan. What the scan misses is the row
with the id it starts below. -/
namespace Meshloom.Packet
open Bytes KeysetScan GroupSampling

/-- The type that the header announces is the one that the parsed packet has. -/
theorem payloadType_of_parsed (parsed : parsePacket data = some info) :
    getPacketPayloadType data = some info.payloadType := by
  obtain ⟨parsed, known⟩ := Option.filter_eq_some_iff.mp parsed
  simp only [parsePacketEnvelope, Option.bind_eq_bind, Option.bind_eq_some_iff] at parsed
  obtain ⟨_, _, header, headed, ⟨offset, codes⟩, _, _, _, _, _, ⟨_, _, _⟩, _, _, _, _, _, same⟩ := parsed
  have type : (header.toNat >>> 2) &&& 0x0F = info.payloadType := by
    rw [← Option.some.inj same]
  have head : data.head? = some header := by
    rw [List.head?_eq_getElem?]
    exact headed
  rw [decide_eq_true_eq] at known
  simp only [getPacketPayloadType, head, Option.bind_eq_bind, Option.bind_some, type, guard,
    if_pos known]
  rfl

namespace SampleScan

/-- The fingerprints and the samples of the scan. -/
def collected (s : SampleScan) : State (List Char) (List UInt8) GroupTextSample :=
  ⟨s.fingerprints, s.samples⟩

/-- A candidate in the dictionary of the scan, whose keys are hexadecimal. -/
def collect (q : SampleQuery) :
    State (List Char) (List UInt8) GroupTextSample → Candidate →
      State (List Char) (List UInt8) GroupTextSample :=
  State.put (fun c => toHex (c.payload.take 1)) (fun c => c.payload.drop 1) Candidate.sample
    q.maxHashes q.maxPerHash

theorem collected_record (q : SampleQuery) (s : SampleScan) (row : StoredPacket)
    (payload : List UInt8) (seen : List (List UInt8)) :
    (s.record q row payload seen).collected =
      s.collected.add (fun c : Candidate => toHex (c.payload.take 1)) (fun c => c.payload.drop 1)
        Candidate.sample q.maxPerHash seen ⟨row, payload⟩ := by
  unfold record State.add
  dsimp only
  split
  · rfl
  · rfl

theorem scanned_record (q : SampleQuery) (s : SampleScan) (row : StoredPacket)
    (payload : List UInt8) (seen : List (List UInt8)) :
    (s.record q row payload seen).scanned = s.scanned := by
  unfold record
  dsimp only
  split
  · rfl
  · rfl

/-- What the loop body leaves: the state, and a `break` only where nothing can follow. -/
structure Visited (q : SampleQuery) (s : SampleScan) (candidates : List Candidate)
    (result : SampleScan × Bool) : Prop where
  collected : result.1.collected = candidates.foldl (collect q) s.collected
  scanned : result.1.scanned = s.scanned + 1
  stops : result.2 = true →
    q.maxScan ≤ s.scanned + 1 ∨ result.1.collected.Full q.maxHashes q.maxPerHash
  goes : result.2 = false → s.scanned + 1 < q.maxScan

theorem visited_finish {q : SampleQuery} {s t : SampleScan} {candidates : List Candidate}
    (collected : t.collected = candidates.foldl (collect q) s.collected)
    (scanned : t.scanned = s.scanned + 1) : Visited q s candidates (t.finish q) := by
  refine ⟨collected, scanned, ?_, ?_⟩
  · intro stop
    simp only [finish, scanned, Bool.or_eq_true, Bool.and_eq_true, decide_eq_true_eq,
      List.all_eq_true] at stop
    rcases stop with many | ⟨⟨_, many⟩, full⟩
    · exact .inl many
    · refine .inr ⟨many, fun k prints found => ?_⟩
      exact full (k, prints) ((Dict.mem_iff_get? _).mpr found)
  · intro goes
    simp only [finish, scanned, Bool.or_eq_false_iff, decide_eq_false_iff_not] at goes
    exact Nat.lt_of_not_le goes.1

theorem visit_spec (q : SampleQuery) (s : SampleScan) (row : StoredPacket) :
    Visited q s (candidate? row).toList (s.visit q row) := by
  unfold visit
  dsimp only
  cases parsed : parsePacket row.data with
  | none =>
      have skipped : candidate? row = none := by simp only [candidate?, parsed]
      rw [skipped]
      split
      · exact visited_finish rfl rfl
      · exact visited_finish rfl rfl
  | some packet =>
      by_cases type : packet.payloadType = groupText
      · rw [if_pos ((payloadType_of_parsed parsed).trans (congrArg some type))]
        dsimp only
        rw [if_pos type]
        by_cases long : 3 ≤ packet.payload.length
        · have candidate : candidate? row = some ⟨row, packet.payload⟩ := by
            simp only [candidate?, parsed, if_pos (And.intro type long)]
          rw [if_pos long, candidate]
          cases found : s.fingerprints.get? (toHex (packet.payload.take 1)) with
          | some prints =>
              refine visited_finish ?_ (scanned_record _ _ _ _ _)
              rw [collected_record]
              simp only [Option.toList_some, List.foldl_cons, List.foldl_nil, collect, State.put,
                collected, found]
          | none =>
              dsimp only
              split
              · rename_i full
                have put : collect q s.collected ⟨row, packet.payload⟩ = s.collected := by
                  simp only [collect, State.put, collected, found]
                  exact if_pos full
                refine ⟨put.symm, rfl, ?_, ?_⟩
                · exact fun stop => .inl (of_decide_eq_true stop)
                · exact fun goes => Nat.lt_of_not_le (of_decide_eq_false goes)
              · rename_i room
                refine visited_finish ?_ (scanned_record _ _ _ _ _)
                rw [collected_record]
                simp only [Option.toList_some, List.foldl_cons, List.foldl_nil, collect, State.put,
                  collected, found, if_neg room]
        · have skipped : candidate? row = none := by
            simp only [candidate?, parsed, if_neg fun h => long (And.right h)]
          rw [if_neg long, skipped]
          exact visited_finish rfl rfl
      · have skipped : candidate? row = none := by
          simp only [candidate?, parsed, if_neg fun h => type (And.left h)]
        rw [skipped]
        dsimp only
        rw [if_neg type]
        split
        · exact visited_finish rfl rfl
        · exact visited_finish rfl rfl

theorem walk_stop {q : SampleQuery} {s : SampleScan} (stop : (s.visit q row).2 = true) :
    s.walk q (row :: rest) = ((s.visit q row).1, true) := by
  rw [walk]
  exact if_pos stop

theorem walk_go {q : SampleQuery} {s : SampleScan} (goes : (s.visit q row).2 = false) :
    s.walk q (row :: rest) = (s.visit q row).1.walk q rest := by
  have running : ¬(s.visit q row).2 = true := Bool.eq_false_iff.mp goes
  rw [walk]
  exact if_neg running

/-- The samples of a walk are those of the rows up to the bound: a `break` loses none. -/
theorem collected_walk {q : SampleQuery} (rows : List StoredPacket) {s : SampleScan}
    (room : s.scanned < q.maxScan) :
    (s.walk q rows).1.collected =
      ((rows.take (q.maxScan - s.scanned)).filterMap candidate?).foldl (collect q) s.collected := by
  induction rows generalizing s with
  | nil => simp [walk]
  | cons row rest ih =>
      obtain ⟨collected, scanned, stops, goes⟩ := visit_spec q s row
      have taken : (row :: rest).take (q.maxScan - s.scanned) =
          row :: rest.take (q.maxScan - (s.scanned + 1)) := by
        rw [show q.maxScan - s.scanned = q.maxScan - (s.scanned + 1) + 1 by omega, List.take_succ_cons]
      have first : (row :: rest.take (q.maxScan - (s.scanned + 1))).filterMap candidate? =
          (candidate? row).toList ++
            (rest.take (q.maxScan - (s.scanned + 1))).filterMap candidate? := by
        rw [List.filterMap_cons]
        cases candidate? row with
        | none => rfl
        | some c => rfl
      rw [taken, first, List.foldl_append, ← collected]
      cases stop : (s.visit q row).2 with
      | true =>
          rw [walk_stop stop]
          rcases stops stop with many | full
          · rw [Nat.sub_eq_zero_of_le many, List.take_zero, List.filterMap_nil, List.foldl_nil]
          · exact (foldl_full full _).symm
      | false => rw [walk_go stop, ih (scanned ▸ goes stop), scanned]

theorem walk_append (q : SampleQuery) (first second : List StoredPacket) (s : SampleScan) :
    s.walk q (first ++ second) =
      if (s.walk q first).2 then s.walk q first else (s.walk q first).1.walk q second := by
  induction first generalizing s with
  | nil => rfl
  | cons row rest ih =>
      rw [List.cons_append]
      cases stop : (s.visit q row).2 with
      | true =>
          rw [walk_stop stop, walk_stop stop]
          rfl
      | false =>
          rw [walk_go stop, walk_go stop]
          exact ih _

end SampleScan

theorem keyed_id (table : PacketTable) : Keyed (·.id) table.rows :=
  ⟨table.unique.of_map, fun _ left _ right same => List.inj_on_of_nodup_map table.unique left right same⟩

/-- The rows behind a row of the scan are the next query. -/
theorem undecryptedRows_behind {table : PacketTable} {since lastId : Int}
    {before rest : List StoredPacket} {last : StoredPacket}
    (split : undecryptedRows table since lastId = before ++ last :: rest) :
    undecryptedRows table since last.id = rest := by
  have falling := select_falling (keyed_id table) (undecryptedBelow since lastId)
  have member : last ∈ undecryptedRows table since lastId := split ▸ by simp
  have below : last.id < lastId := by
    have chosen := (mem_select.mp member).2
    simp only [undecryptedBelow, Bool.and_eq_true, decide_eq_true_eq] at chosen
    exact chosen.2
  have more : undecryptedBelow since last.id =
      fun row => undecryptedBelow since lastId row && decide (row.id < last.id) := by
    funext row
    simp only [undecryptedBelow, Bool.and_assoc]
    congr 2
    rw [← Bool.decide_and, decide_eq_decide]
    omega
  rw [undecryptedRows, more, select_filter (keyed_id table)]
  rw [undecryptedRows] at split
  rw [split] at falling ⊢
  exact filter_behind falling

namespace SampleScan

/-- The batches are walked as the rows of one query are. -/
theorem stream_eq {q : SampleQuery} (table : PacketTable) (batch : 0 < min q.batchSize q.maxScan)
    {fuel : Nat} {lastId : Int} (s : SampleScan)
    (enough : (undecryptedRows table q.receivedSince lastId).length < fuel) :
    SampleScan.stream q table fuel lastId s =
      some (s.walk q (undecryptedRows table q.receivedSince lastId)).1 := by
  induction fuel generalizing lastId s with
  | zero => omega
  | succ fuel ih =>
      unfold SampleScan.stream
      dsimp only
      generalize rows : undecryptedRows table q.receivedSince lastId = all at enough ⊢
      cases ended : (all.take (min q.batchSize q.maxScan)).getLast? with
      | none =>
          rw [List.getLast?_eq_none_iff, List.take_eq_nil_iff] at ended
          obtain rfl : all = [] := ended.resolve_left (by omega)
          rfl
      | some last =>
          obtain ⟨before, taken⟩ := List.getLast?_eq_some_iff.mp ended
          have parts : all = before ++ last :: all.drop (min q.batchSize q.maxScan) := by
            conv_lhs => rw [← List.take_append_drop (min q.batchSize q.maxScan) all, taken]
            simp
          have behind := undecryptedRows_behind (rows.trans parts)
          dsimp only
          rw [← List.take_append_drop (min q.batchSize q.maxScan) all, walk_append,
            List.take_append_drop]
          by_cases stop : (s.walk q (all.take (min q.batchSize q.maxScan))).2 = true
          · rw [if_pos stop, if_pos stop]
          · rw [if_neg stop, if_neg stop, ih _ ?_, behind]
            rw [behind]
            have fewer := congrArg List.length parts
            rw [List.length_append, List.length_cons] at fewer
            omega

end SampleScan

theorem candidate_row (found : candidate? row = some c) : c.row = row := by
  unfold candidate? at found
  split at found
  · contradiction
  · split at found
    · rw [← Option.some.inj found]
    · contradiction

theorem candidates_nodup {rows : List StoredPacket} (distinct : rows.Nodup) :
    (rows.filterMap candidate?).Nodup := by
  refine distinct.filterMap ?_
  intro a b c left right
  rw [← candidate_row left, ← candidate_row right]

/-- The samples are the plain ones of the rows with ids below the start of the stream. -/
theorem samples_eq (table : PacketTable) {q : SampleQuery} (positive : q.Positive) :
    (getUndecryptedGroupTextSamples table q).map (·.2.2) =
      some (plainSamples q (undecryptedRows table q.receivedSince streamStart)) := by
  obtain ⟨_, _, scan, batch⟩ := positive
  have enough : (undecryptedRows table q.receivedSince streamStart).length < table.rows.length + 1 := by
    rw [undecryptedRows, length_select]
    exact Nat.lt_succ_of_le (List.length_filter_le _ _)
  have distinct : (undecryptedRows table q.receivedSince streamStart).Nodup :=
    (select_falling (keyed_id table) _).imp fun lower same => by
      rw [same] at lower
      exact absurd lower (lt_irrefl _)
  have room : (⟨0, 0, [], Dict.empty⟩ : SampleScan).scanned < q.maxScan := scan
  have walked := SampleScan.collected_walk (undecryptedRows table q.receivedSince streamStart) room
  rw [Nat.sub_zero] at walked
  have sampled : Sampled (fun c : Candidate => toHex (c.payload.take 1)) (fun c => c.payload.drop 1)
      Candidate.sample q.maxHashes q.maxPerHash
      ((SampleScan.walk q ⟨0, 0, [], Dict.empty⟩
        (undecryptedRows table q.receivedSince streamStart)).1.collected) _ :=
    walked ▸ foldl_put (candidates_nodup (distinct.sublist (List.take_sublist q.maxScan _)))
  have samples := sampled.samples
  rw [getUndecryptedGroupTextSamples, SampleScan.stream_eq table (Nat.lt_min.mpr ⟨batch, scan⟩) _ enough,
    Option.map_some, Option.map_some, plainSamples]
  rw [sample_naming toHex_injective] at samples
  exact congrArg some samples

theorem undecryptedRows_eq (table : PacketTable) (since lastId : Int) :
    undecryptedRows table since lastId =
      (undecryptedWindow table since).filter fun row => decide (row.id < lastId) := by
  rw [undecryptedWindow, ← select_filter (keyed_id table)]
  rfl

theorem plainSamples_of_none {q : SampleQuery} {rows : List StoredPacket}
    (none_ : ∀ row ∈ rows.take q.maxScan, candidate? row = none) : plainSamples q rows = [] := by
  rw [plainSamples, List.filterMap_eq_nil_iff.mpr none_]
  rfl

theorem mem_plainSamples {q : SampleQuery} {rows : List StoredPacket}
    {tuple : GroupTextSample} (member : tuple ∈ plainSamples q rows) :
    ∃ row ∈ rows, tuple.packetId = row.id := by
  obtain ⟨c, chosen, rfl⟩ := List.mem_map.mp member
  obtain ⟨row, taken, found⟩ := List.mem_filterMap.mp (List.mem_of_mem_filter chosen)
  exact ⟨row, List.mem_of_mem_take taken, congrArg StoredPacket.id (candidate_row found)⟩

/-- A query for one sample. -/
def single (receivedSince : Int) (maxScan : Nat) : SampleQuery := ⟨1, 1, maxScan, receivedSince, 1⟩

/-- It gives the first candidate. -/
theorem plainSamples_single {since : Int} {rows before : List StoredPacket} {maxScan : Nat}
    (distinct : rows.Nodup) (taken : rows.take maxScan = before ++ [row])
    (none_ : ∀ other ∈ before, candidate? other = none) (found : candidate? row = some c) :
    plainSamples (single since maxScan) rows = [c.sample] := by
  have candidates : (rows.take maxScan).filterMap candidate? = [c] := by
    rw [taken, List.filterMap_append, List.filterMap_eq_nil_iff.mpr none_, List.nil_append,
      List.filterMap_cons_some found, List.filterMap_nil]
  have nodup := candidates_nodup (distinct.sublist (List.take_sublist maxScan rows))
  rw [candidates] at nodup
  rw [plainSamples, single, candidates, sample_one nodup]
  rfl

theorem window_nodup (table : PacketTable) (since : Int) : (undecryptedWindow table since).Nodup :=
  (select_falling (keyed_id table) _).imp fun lower same => by
    rw [same] at lower
    exact absurd lower (lt_irrefl _)

/-- A row that the stream misses shifts the samples of some query. -/
theorem plainSamples_shifted {table : PacketTable} {since : Int} {missed candidate : StoredPacket}
    (missing : missed ∈ undecryptedWindow table since) (high : streamStart ≤ missed.id)
    (member : candidate ∈ undecryptedWindow table since) (found : candidate? candidate ≠ none) :
    ∃ maxScan, 1 ≤ maxScan ∧
      plainSamples (single since maxScan) (undecryptedRows table since streamStart) ≠
        plainSamples (single since maxScan) (undecryptedWindow table since) := by
  have distinct := window_nodup table since
  have apart := above_append_below (select_falling (keyed_id table)
    fun row => row.messageId.isNone && decide (since ≤ row.timestamp)) streamStart
  rw [← undecryptedWindow, ← undecryptedRows_eq] at apart
  generalize above : (undecryptedWindow table since).filter (fun row => decide (streamStart ≤ row.id)) =
    skipped at apart
  have missedAbove : missed ∈ skipped := above ▸ List.mem_filter.mpr ⟨missing, decide_eq_true high⟩
  obtain ⟨row, first⟩ : ∃ row, (undecryptedWindow table since).find? (fun row => (candidate? row).isSome) =
      some row := by
    rw [← Option.isSome_iff_exists, List.find?_isSome]
    exact ⟨candidate, member, Option.isSome_iff_ne_none.mpr found⟩
  obtain ⟨isCandidate, before, rest, split, none_⟩ := List.find?_eq_some_iff_append.mp first
  obtain ⟨c, isCandidate⟩ := Option.isSome_iff_exists.mp isCandidate
  have none_ : ∀ other ∈ before, candidate? other = none := by
    intro other member
    have absent := none_ other member
    rwa [Bool.not_eq_true', Option.isSome_eq_false_iff, Option.isNone_iff_eq_none] at absent
  have whole : plainSamples (single since (before.length + 1)) (undecryptedWindow table since) = [c.sample] := by
    refine plainSamples_single distinct ?_ none_ isCandidate
    rw [split, List.take_append, List.take_of_length_le (by omega)]
    simp
  rw [apart] at split
  have located : (∃ between, before = skipped ++ between ∧
      undecryptedRows table since streamStart = between ++ row :: rest) ∨ row ∈ skipped := by
    rcases List.append_eq_append_iff.mp split with ⟨between, parts, behind⟩ | ⟨between, parts, behind⟩
    · exact .inl ⟨between, parts, behind⟩
    · cases between with
      | nil => exact .inl ⟨[], by simpa using parts.symm, by simpa using behind.symm⟩
      | cons head more =>
          obtain ⟨rfl, _⟩ := List.cons_eq_cons.mp behind
          exact .inr (parts ▸ List.mem_append_right _ List.mem_cons_self)
  rcases located with ⟨between, parts, behind⟩ | rowSkipped
  · -- the candidate lies behind the missed rows, so the stream reaches it earlier
    refine ⟨between.length + 1, Nat.le_add_left _ _, ?_⟩
    have noneBetween : ∀ other ∈ between, candidate? other = none := fun other later =>
      none_ other (parts ▸ List.mem_append_right _ later)
    have streamed : plainSamples (single since (between.length + 1))
        (undecryptedRows table since streamStart) = [c.sample] := by
      refine plainSamples_single (distinct.sublist (apart ▸ List.sublist_append_right _ _)) ?_
        noneBetween isCandidate
      rw [behind, List.take_append, List.take_of_length_le (by omega)]
      simp
    have skippedSome : 1 ≤ skipped.length := List.length_pos_of_mem missedAbove
    have fewer : between.length + 1 ≤ before.length := by
      rw [parts, List.length_append]
      omega
    rw [streamed, plainSamples_of_none]
    · exact List.cons_ne_nil _ _
    · intro other taken
      have cut : (before ++ row :: rest).take (between.length + 1) =
          before.take (between.length + 1) := List.take_append_of_le_length fewer
      rw [apart, split] at taken
      exact none_ other (List.mem_of_mem_take (cut ▸ taken))
  · -- the candidate is missed itself
    refine ⟨before.length + 1, Nat.le_add_left _ _, ?_⟩
    rw [whole]
    intro same
    have sampled : c.sample ∈ plainSamples (single since (before.length + 1))
        (undecryptedRows table since streamStart) := same ▸ List.mem_cons_self
    obtain ⟨other, streamed, id⟩ := mem_plainSamples sampled
    rw [undecryptedRows_eq] at streamed
    have low : other.id < streamStart := of_decide_eq_true (List.mem_filter.mp streamed).2
    have high : streamStart ≤ row.id := by
      rw [← above] at rowSkipped
      exact of_decide_eq_true (List.mem_filter.mp rowSkipped).2
    have ids : row.id = other.id := by rw [← id, ← candidate_row isCandidate]; rfl
    omega

/-- The samples are the plain ones, whatever the bounds, exactly when the stream starts above every
row of the window or there is nothing to sample. They never depend on the size of a batch. -/
theorem samples_plain_iff (table : PacketTable) (since : Int) :
    ((∀ q : SampleQuery, q.receivedSince = since → q.Positive →
      (getUndecryptedGroupTextSamples table q).map (·.2.2) =
        some (plainSamples q (undecryptedWindow table since))) ↔
    (∀ row ∈ undecryptedWindow table since, row.id < streamStart) ∨
      ∀ row ∈ undecryptedWindow table since, candidate? row = none) ∧
    ∀ (q : SampleQuery) (batchSize : Nat), q.Positive → 1 ≤ batchSize →
      (getUndecryptedGroupTextSamples table { q with batchSize }).map (·.2.2) =
        (getUndecryptedGroupTextSamples table q).map (·.2.2) := by
  refine ⟨⟨?_, ?_⟩, ?_⟩
  · intro plain
    by_contra neither
    simp only [not_or, not_forall, not_lt] at neither
    obtain ⟨⟨missed, missing, high⟩, candidate, member, found⟩ := neither
    obtain ⟨maxScan, positive, shifted⟩ := plainSamples_shifted missing high member found
    have bounds : (single since maxScan).Positive := ⟨Nat.le_refl _, Nat.le_refl _, positive, Nat.le_refl _⟩
    have same := plain (single since maxScan) rfl bounds
    rw [samples_eq table bounds, Option.some.injEq] at same
    exact shifted same
  · rintro condition q rfl positive
    rw [samples_eq table positive, undecryptedRows_eq]
    rcases condition with low | none_
    · rw [List.filter_eq_self.mpr fun row member => decide_eq_true (low row member)]
    · rw [plainSamples_of_none fun row taken => none_ row (List.mem_of_mem_take taken),
        plainSamples_of_none fun row taken =>
          none_ row (List.mem_of_mem_filter (List.mem_of_mem_take taken))]
  · intro q batchSize positive batch
    have other : SampleQuery.Positive { q with batchSize } :=
      ⟨positive.1, positive.2.1, positive.2.2.1, batch⟩
    rw [samples_eq table positive, samples_eq table other]
    rfl

/-- The table whose only row has the last id that SQLite gives. -/
def lastRowTable : PacketTable where
  rows := [⟨2 ^ 63 - 1, [0x15, 0x00, 0xAB, 0x01, 0x02], 0, none⟩]
  unique := List.nodup_singleton _

theorem lastRow_missed :
    (getUndecryptedGroupTextSamples lastRowTable ⟨1, 1, 1, 0, 1⟩).map (·.2.2) = some [] ∧
    plainSamples ⟨1, 1, 1, 0, 1⟩ (undecryptedWindow lastRowTable 0) =
      [⟨['a', 'b'], 2 ^ 63 - 1, [0x15, 0x00, 0xAB, 0x01, 0x02], 0, ['0', '1', '0', '2']⟩] := by
  constructor
  · rw [samples_eq lastRowTable ⟨Nat.le_refl _, Nat.le_refl _, Nat.le_refl _, Nat.le_refl _⟩]
    have empty : undecryptedRows lastRowTable 0 streamStart = [] := by
      simp [undecryptedRows, select, lastRowTable, undecryptedBelow, streamStart, StableSort.sortFalling]
    rw [empty]
    rfl
  · have all : undecryptedWindow lastRowTable 0 = lastRowTable.rows := by
      simp [undecryptedWindow, select, lastRowTable, StableSort.sortFalling]
    rw [all]
    decide +kernel

end Meshloom.Packet
