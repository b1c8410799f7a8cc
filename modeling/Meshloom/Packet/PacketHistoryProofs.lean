import Meshloom.Packet.PacketHistory

/-! What a page of the packet history holds: the scan walks the first batch of its window and,
behind the last row of it, every row of the time range. That is the window itself unless the row
of the cursor is deleted and a row with a later id has an earlier timestamp. -/
namespace Meshloom.Packet
open KeysetScan
variable {table : PacketTable} {q : HistoryQuery} {s : Scan} {before rest : List StoredPacket}

theorem PacketTable.keyed (table : PacketTable) : Keyed StoredPacket.key table.rows := by
  refine ⟨table.unique.of_map, ?_⟩
  intro a left b right same
  have id : a.id = b.id := congrArg (fun key => (ofLex key).2) same
  exact List.inj_on_of_nodup_map table.unique left right id

/-- The window behind a row of the table. -/
def behind (table : PacketTable) (q : HistoryQuery) (last : StoredPacket) : List StoredPacket :=
  table.window ⟨q.since, q.upTo, some last.timestamp, some last.id, none⟩

/-- The rows of the time range. -/
def timeRange (table : PacketTable) (q : HistoryQuery) : List StoredPacket :=
  select StoredPacket.key table.rows (inTimeRange q.since q.upTo)

/-- The size of the first batch. -/
def HistoryQuery.firstBatch (q : HistoryQuery) : Nat :=
  let batch := min q.batchSize q.maxScan
  if q.payloadType = none then min batch q.limit else batch

/-- The rows that the scan meets when nothing stops it. -/
def met (table : PacketTable) (q : HistoryQuery) : List StoredPacket :=
  let first := (table.window (q.bounds table)).take q.firstBatch
  first ++ match first.getLast? with
    | none => []
    | some last => behind table q last

/-- The rows that a scan of them walks. -/
def course (table : PacketTable) (q : HistoryQuery) : List StoredPacket :=
  walked q.wanted q.limit ((met table q).take q.maxScan)

theorem key_lt_iff (row last : StoredPacket) : row.key < last.key ↔
    row.timestamp < last.timestamp ∨ row.timestamp = last.timestamp ∧ row.id < last.id :=
  Prod.Lex.toLex_lt_toLex

/-- A cursor of a timestamp and an id asks for the rows of the range behind a key. -/
theorem window_cursor (table : PacketTable) (since upTo : Option Int) (last : StoredPacket)
    (idBefore : Option Int) :
    table.window ⟨since, upTo, some last.timestamp, some last.id, idBefore⟩ =
      (select StoredPacket.key table.rows (inTimeRange since upTo)).filter
        (fun row => decide (row.key < last.key)) := by
  rw [← select_filter table.keyed, PacketTable.window]
  congr 1
  funext row
  rw [historyWindow]
  congr 1
  rw [Bool.eq_iff_iff]
  simp [key_lt_iff]

theorem behind_eq (table : PacketTable) (q : HistoryQuery) (last : StoredPacket) :
    behind table q last = (timeRange table q).filter (fun row => decide (row.key < last.key)) :=
  window_cursor table q.since q.upTo last none

/-- A window is the range, with what the cursor asks for. -/
theorem window_eq (table : PacketTable) (q : HistoryQuery) : ∃ asked : StoredPacket → Bool,
    table.window (q.bounds table) = (timeRange table q).filter asked ∧
      ((∀ afterId ∈ q.afterId, table.getById afterId ≠ none) → ∀ row last : StoredPacket,
        asked last = true → row.key < last.key → asked row = true) ∧
      ∀ afterId ∈ q.afterId, table.getById afterId = none →
        asked = fun row => decide (row.id < afterId) := by
  simp only [HistoryQuery.bounds]
  split
  · rename_i unasked
    refine ⟨fun _ => true, ?_, fun _ _ _ _ _ => rfl, ?_⟩
    · rw [List.filter_true, timeRange, PacketTable.window]
      congr 1
      funext row
      rw [historyWindow]
      simp
    · simp [unasked]
  · rename_i afterId asked
    split
    · rename_i cursor found
      refine ⟨_, window_cursor table q.since q.upTo cursor none, ?_, ?_⟩
      · intro _ row last chosen below
        simp only [decide_eq_true_eq] at chosen ⊢
        exact below.trans chosen
      · rintro other same missing
        obtain rfl : afterId = other := Option.some.inj (asked.symm.trans same)
        rw [found] at missing
        contradiction
    · rename_i missing
      refine ⟨fun row => decide (row.id < afterId), ?_, ?_, ?_⟩
      · rw [timeRange, ← select_filter table.keyed, PacketTable.window]
        rfl
      · intro stored
        exact absurd missing (stored afterId asked)
      · rintro other same _
        obtain rfl : afterId = other := Option.some.inj (asked.symm.trans same)
        rfl

/-- With a row of the range a window has every row behind it. -/
def Closed (table : PacketTable) (q : HistoryQuery) : Prop :=
  ∀ last ∈ table.window (q.bounds table), ∀ row ∈ timeRange table q, row.key < last.key →
    row ∈ table.window (q.bounds table)

theorem closed_of_stored (stored : ∀ afterId ∈ q.afterId, table.getById afterId ≠ none) :
    Closed table q := by
  obtain ⟨asked, window, downward, _⟩ := window_eq table q
  intro last chosen row member below
  rw [window, List.mem_filter] at chosen ⊢
  exact ⟨member, downward stored row last chosen.2 below⟩

/-- Timestamps that do not fall with the id leave no later id behind a row of the window. -/
theorem closed_of_ordered
    (ordered : ∀ a ∈ table.rows, ∀ b ∈ table.rows, a.id < b.id → a.timestamp ≤ b.timestamp) :
    Closed table q := by
  by_cases stored : ∀ afterId ∈ q.afterId, table.getById afterId ≠ none
  · exact closed_of_stored stored
  · push Not at stored
    obtain ⟨afterId, same, missing⟩ := stored
    obtain ⟨asked, window, _, deleted⟩ := window_eq table q
    rw [deleted afterId same missing] at window
    intro last chosen row member below
    rw [window, List.mem_filter, decide_eq_true_eq] at chosen ⊢
    refine ⟨member, ?_⟩
    by_contra late
    have later : last.id < row.id := by omega
    have le := ordered last (mem_select.mp chosen.1).1 row (mem_select.mp member).1 later
    rcases (key_lt_iff row last).mp below with earlier | ⟨_, lower⟩
    · omega
    · omega

/-- Rows behind a row of the range: what lies behind a later one of them. -/
theorem behind_behind {first : List StoredPacket} {last later : StoredPacket}
    (found : behind table q last = first ++ later :: rest) : behind table q later = rest := by
  have falling : (behind table q last).Pairwise fun a b => b.key < a.key := by
    rw [behind_eq]
    exact (select_falling table.keyed _).filter _
  have below : later.key < last.key := by
    have member : later ∈ behind table q last := found ▸ List.mem_append_right _ List.mem_cons_self
    rw [behind_eq, List.mem_filter, decide_eq_true_eq] at member
    exact member.2
  have inside : behind table q later =
      (behind table q last).filter (fun row => decide (row.key < later.key)) := by
    rw [behind_eq, behind_eq, List.filter_filter]
    refine List.filter_congr fun row _ => ?_
    by_cases under : row.key < later.key
    · simp [under, under.trans below]
    · simp [under]
  rw [inside, found]
  rw [found] at falling
  exact filter_behind falling

/-- The scan meets a window that is closed. -/
theorem met_eq_window (positive : 0 < q.firstBatch) (closed : Closed table q) :
    met table q = table.window (q.bounds table) := by
  obtain ⟨asked, window, _⟩ := window_eq table q
  rw [met]
  cases found : ((table.window (q.bounds table)).take q.firstBatch).getLast? with
  | none =>
      rw [List.getLast?_eq_none_iff, List.take_eq_nil_iff] at found
      rcases found with zero | empty
      · omega
      · simp [empty]
  | some last =>
      obtain ⟨front, ends⟩ := List.getLast?_eq_some_iff.mp found
      have split : table.window (q.bounds table) =
          front ++ last :: (table.window (q.bounds table)).drop q.firstBatch := by
        conv_lhs => rw [← List.take_append_drop q.firstBatch (table.window (q.bounds table)), ends]
        simp
      have member : last ∈ table.window (q.bounds table) :=
        split ▸ List.mem_append_right _ List.mem_cons_self
      have inside : behind table q last =
          (table.window (q.bounds table)).filter (fun row => decide (row.key < last.key)) := by
        rw [behind_eq, window, List.filter_filter]
        refine List.filter_congr fun row listed => ?_
        by_cases under : row.key < last.key
        · have chosen := closed last member row listed under
          rw [window, List.mem_filter] at chosen
          simp [under, chosen.2]
        · simp [under]
      have falling := select_falling table.keyed (historyWindow (q.bounds table))
      rw [← PacketTable.window, split] at falling
      dsimp only
      rw [inside]
      conv_lhs => rw [split, filter_behind falling, ← split]
      exact List.take_append_drop _ _

/-- The scan behind the rows that a batch made it walk. -/
def Scan.advance (q : HistoryQuery) (s : Scan) (walked : List StoredPacket) : Scan where
  rows := s.rows ++ walked.filter q.wanted
  scanned := s.scanned + walked.length
  lastTs := (walked.getLast?.map (·.timestamp)).or s.lastTs
  lastId := (walked.getLast?.map (·.id)).or s.lastId
  lastIdBefore := s.lastIdBefore

theorem Scan.advance_nil (q : HistoryQuery) (s : Scan) : s.advance q [] = s := by
  simp [Scan.advance]

theorem Scan.advance_cons (q : HistoryQuery) (s : Scan) (row : StoredPacket)
    (walked : List StoredPacket) :
    s.advance q (row :: walked) = (s.advance q [row]).advance q walked := by
  cases walked with
  | nil => rw [Scan.advance_nil]
  | cons next walked =>
      obtain ⟨last, found⟩ : ∃ last, (next :: walked).getLast? = some last :=
        ⟨_, List.getLast?_eq_some_getLast (List.cons_ne_nil next walked)⟩
      have whole : (row :: next :: walked).getLast? = some last := List.getLast?_cons_cons.trans found
      have rows : (row :: next :: walked).filter q.wanted =
          [row].filter q.wanted ++ (next :: walked).filter q.wanted :=
        List.filter_append [row] (next :: walked)
      simp only [Scan.advance, whole, found, rows, Option.map_some, Option.some_or,
        List.length_cons, List.append_assoc, List.length_nil]
      congr 1
      omega

theorem Scan.walk_cons (q : HistoryQuery) (s : Scan) (row : StoredPacket)
    (batch : List StoredPacket) : s.walk q (row :: batch) =
      if q.limit ≤ (s.advance q [row]).rows.length ∧ q.wanted row = true ∨
          q.maxScan ≤ s.scanned + 1 then s.advance q [row]
      else (s.advance q [row]).walk q batch := by
  have plain : ∀ (rows : List StoredPacket), rows = s.rows ++ [row].filter q.wanted →
      (⟨rows, s.scanned + 1, some row.timestamp, some row.id, s.lastIdBefore⟩ : Scan) =
        s.advance q [row] := by
    rintro _ rfl
    simp [Scan.advance]
  have scanned : (s.advance q [row]).scanned = s.scanned + 1 := rfl
  rw [Scan.walk]
  by_cases found : q.wanted row = true
  · rw [if_pos found, plain (s.rows ++ [row]) (by rw [List.filter_cons_of_pos found]; rfl)]
    by_cases full : q.limit ≤ (s.advance q [row]).rows.length
    · simp [full, found]
    · simp [full, scanned]
  · have same : s.rows = s.rows ++ [row].filter q.wanted := by
      rw [List.filter_cons_of_neg found, List.filter_nil, List.append_nil]
    rw [if_neg found, plain s.rows same]
    simp [found, scanned]

/-- A batch that fits is walked until the limit. -/
theorem Scan.walk_eq {batch : List StoredPacket} {s : Scan} (wants : s.rows.length < q.limit)
    (fits : s.scanned + batch.length ≤ q.maxScan) :
    s.walk q batch = s.advance q (walked q.wanted (q.limit - s.rows.length) batch) := by
  induction batch generalizing s with
  | nil => rw [walked_nil, Scan.advance_nil, Scan.walk]
  | cons row batch ih =>
      rw [List.length_cons] at fits
      have scanned : (s.advance q [row]).scanned = s.scanned + 1 := rfl
      have count : (s.advance q [row]).rows.length =
          s.rows.length + if q.wanted row then 1 else 0 := by
        rw [Scan.advance, List.length_append]
        by_cases found : q.wanted row = true
        · rw [List.filter_cons_of_pos found, if_pos found]
          rfl
        · rw [List.filter_cons_of_neg found, if_neg found]
          rfl
      have open_ : q.limit - s.rows.length = (q.limit - s.rows.length - 1) + 1 := by omega
      have left : (if q.wanted row then q.limit - s.rows.length - 1
          else q.limit - s.rows.length - 1 + 1) = q.limit - (s.advance q [row]).rows.length := by
        rw [count]
        split <;> omega
      rw [Scan.walk_cons, open_, walked, left, Scan.advance_cons q s row (walked q.wanted _ batch)]
      split
      · rename_i stops
        rcases stops with ⟨full, _⟩ | last
        · rw [Nat.sub_eq_zero_of_le full, walked_zero, Scan.advance_nil]
        · obtain rfl : batch = [] := List.length_eq_zero_iff.mp (by omega)
          rw [walked_nil, Scan.advance_nil]
      · rename_i goes
        refine ih ?_ (by rw [scanned]; omega)
        by_cases found : q.wanted row = true
        · by_contra full
          exact goes (.inl ⟨Nat.not_lt.mp full, found⟩)
        · rw [count, if_neg found]
          omega

/-- The scan in front of its first batch. -/
def HistoryQuery.start (q : HistoryQuery) (table : PacketTable) : Scan :=
  let window := q.bounds table
  ⟨[], 0, window.cursorTs, window.cursorId, window.idBefore⟩

/-- Where the scan goes on: with its window, or behind the last row that was walked unless the
limit stopped it there. -/
inductive Next (table : PacketTable) (q : HistoryQuery) (s : Scan) :
    List StoredPacket → List StoredPacket → Prop
  | start (fresh : s = q.start table) : Next table q s [] (met table q)
  | behind {walked left : List StoredPacket} (last : StoredPacket)
      (ends : walked.getLast? = some last) (lastTs : s.lastTs = some last.timestamp)
      (lastId : s.lastId = some last.id) (follows : behind table q last = left) :
      Next table q s walked left
  | full {walked left : List StoredPacket} (filled : s.rows.length = q.limit)
      (early : s.scanned < q.maxScan) : Next table q s walked left

/-- The scan has walked `before` of the rows that it meets. -/
structure Walking (table : PacketTable) (q : HistoryQuery) (s : Scan)
    (before rest : List StoredPacket) : Prop where
  met : met table q = before ++ rest
  rows : s.rows = before.filter q.wanted
  scanned : s.scanned = before.length
  few : s.rows.length ≤ q.limit
  short : s.scanned ≤ q.maxScan
  course : course table q =
    before ++ walked q.wanted (q.limit - s.rows.length) (rest.take (q.maxScan - s.scanned))
  next : Next table q s before rest

theorem walking_start (table : PacketTable) (q : HistoryQuery) :
    Walking table q (q.start table) [] (met table q) where
  met := rfl
  rows := rfl
  scanned := rfl
  few := Nat.zero_le _
  short := Nat.zero_le _
  course := rfl
  next := .start rfl

theorem bounds_start (table : PacketTable) (q : HistoryQuery) :
    (q.start table).bounds q = q.bounds table := by
  have since : (q.bounds table).since = q.since ∧ (q.bounds table).upTo = q.upTo ∧
      ((q.bounds table).cursorId = none ∨ (q.bounds table).idBefore = none) := by
    unfold HistoryQuery.bounds
    split
    · exact ⟨rfl, rfl, .inl rfl⟩
    · split
      · exact ⟨rfl, rfl, .inr rfl⟩
      · exact ⟨rfl, rfl, .inl rfl⟩
  obtain ⟨since, upTo, one⟩ := since
  have value : (if (q.start table).lastId = none then (q.start table).lastIdBefore else none) =
      (q.bounds table).idBefore := by
    rcases one with fallback | stored
    · exact if_pos fallback
    · split
      · rfl
      · exact stored.symm
  rw [Scan.bounds, value, ← since, ← upTo]
  rfl

theorem batchLimit_start (table : PacketTable) (q : HistoryQuery) :
    (q.start table).batchLimit q = q.firstBatch := rfl

/-- A batch is the beginning of the rows to come, and what comes next lies behind it. -/
theorem Walking.batch (walking : Walking table q s before rest) (more : s.scanned < q.maxScan)
    (wants : s.rows.length < q.limit) (size : 0 < s.batchLimit q) :
    ∃ later, rest = (table.window (s.bounds q)).take (s.batchLimit q) ++ later ∧
      ((table.window (s.bounds q)).take (s.batchLimit q) = [] → rest = []) ∧
      ∀ last, ((table.window (s.bounds q)).take (s.batchLimit q)).getLast? = some last →
        behind table q last = later := by
  cases walking.next with
  | start fresh =>
      subst fresh
      rw [bounds_start, batchLimit_start]
      refine ⟨_, rfl, ?_, ?_⟩
      · intro empty
        simp [Packet.met, empty]
      · intro last found
        rw [found]
  | behind last ends lastTs lastId follows =>
      have window : table.window (s.bounds q) = rest := by
        rw [← follows, behind, Scan.bounds, lastTs, lastId]
        rfl
      rw [window]
      refine ⟨rest.drop (s.batchLimit q), (List.take_append_drop _ _).symm, ?_, ?_⟩
      · intro empty
        rcases List.take_eq_nil_iff.mp empty with zero | empty
        · omega
        · exact empty
      · intro later found
        obtain ⟨front, cut⟩ := List.getLast?_eq_some_iff.mp found
        have split : behind table q last = front ++ later :: rest.drop (s.batchLimit q) := by
          rw [follows]
          conv_lhs => rw [← List.take_append_drop (s.batchLimit q) rest, cut]
          simp
        exact behind_behind split
  | full filled _ => omega

/-- A round of the scan walks on. -/
theorem Walking.round (walking : Walking table q s before rest) (more : s.scanned < q.maxScan)
    (wants : s.rows.length < q.limit) {batch later : List StoredPacket}
    (cut : rest = batch ++ later) (filled : batch ≠ [])
    (fits : s.scanned + batch.length ≤ q.maxScan)
    (follows : ∀ last, batch.getLast? = some last → behind table q last = later) :
    ∃ before' rest', Walking table q ({ s with lastIdBefore := none }.walk q batch) before' rest' ∧
      s.scanned < ({ s with lastIdBefore := none }.walk q batch).scanned := by
  have walk : ({ s with lastIdBefore := none } : Scan).walk q batch =
      ({ s with lastIdBefore := none } : Scan).advance q
        (walked q.wanted (q.limit - s.rows.length) batch) := Scan.walk_eq wants fits
  rw [walk]
  generalize open_ : q.limit - s.rows.length = limit
  obtain ⟨ahead, whole⟩ := walked_prefix q.wanted limit batch
  have rows := filter_walked q.wanted limit batch
  have walkedRest := walked_append q.wanted limit batch
    (later.take (q.maxScan - (s.scanned + batch.length)))
  have all : (batch.filter q.wanted).length < limit → walked q.wanted limit batch = batch :=
    walked_whole
  generalize walked q.wanted limit batch = steps at whole rows walkedRest all ⊢
  -- the walk stops inside the batch only at the limit
  have stops : ahead = [] ∨ (steps.filter q.wanted).length = limit := by
    by_cases few : (batch.filter q.wanted).length < limit
    · exact .inl (List.append_cancel_left ((whole.trans (all few).symm).trans (List.append_nil _).symm))
    · rw [rows, List.length_take]
      exact .inr (Nat.min_eq_left (Nat.not_lt.mp few))
  have moved : steps ≠ [] := by
    rintro rfl
    rcases stops with none | full
    · exact filled (by rw [← whole, none, List.append_nil])
    · rw [List.filter_nil, List.length_nil] at full
      omega
  have length : batch.length = steps.length + ahead.length := by rw [← whole, List.length_append]
  have most : (steps.filter q.wanted).length ≤ limit := by
    rw [rows, List.length_take]
    exact Nat.min_le_left _ _
  obtain ⟨last, ends⟩ : ∃ last, steps.getLast? = some last :=
    ⟨_, List.getLast?_eq_some_getLast moved⟩
  obtain ⟨t, advanced⟩ : ∃ t, t = ({ s with lastIdBefore := none } : Scan).advance q steps := ⟨_, rfl⟩
  have found : t.rows = s.rows ++ steps.filter q.wanted := by rw [advanced, Scan.advance]
  have count : t.rows.length = s.rows.length + (steps.filter q.wanted).length := by
    rw [found, List.length_append]
  have scanned : t.scanned = s.scanned + steps.length := by rw [advanced, Scan.advance]
  have lastTs : t.lastTs = some last.timestamp := by simp [advanced, Scan.advance, ends]
  have lastId : t.lastId = some last.id := by simp [advanced, Scan.advance, ends]
  have positive := List.length_pos_iff.mpr moved
  rw [← advanced]
  refine ⟨before ++ steps, ahead ++ later, ⟨?met, ?rows, ?scanned, ?few, ?short, ?course, ?next⟩,
    by omega⟩
  case met => rw [walking.met, cut, ← whole, List.append_assoc, List.append_assoc]
  case rows => rw [found, walking.rows, List.filter_append]
  case scanned => rw [scanned, walking.scanned, List.length_append]
  case few => omega
  case short => omega
  case course =>
    have ahead_ : rest.take (q.maxScan - s.scanned) =
        batch ++ later.take (q.maxScan - (s.scanned + batch.length)) := by
      rw [cut, List.take_append, List.take_of_length_le (by omega), Nat.sub_sub]
    rw [walking.course, open_, ahead_, walkedRest, ← rows, List.append_assoc]
    congr 2
    rcases stops with empty | full
    · rw [empty, List.length_nil] at length
      rw [show limit - (steps.filter q.wanted).length = q.limit - t.rows.length by omega, empty,
        show q.maxScan - (s.scanned + batch.length) = q.maxScan - t.scanned by omega, List.nil_append]
    · rw [full, Nat.sub_self, show q.limit - t.rows.length = 0 by omega, walked_zero, walked_zero]
  case next =>
    by_cases empty : ahead = []
    · refine .behind last ?_ lastTs lastId ?_
      · rw [List.getLast?_append, ends]
        rfl
      · rw [empty, List.append_nil] at whole
        rw [empty, List.nil_append]
        exact follows last (whole ▸ ends)
    · have full := stops.resolve_left empty
      have left := List.length_pos_iff.mpr empty
      exact .full (by omega) (by omega)

/-- The scan goes on until the limit, until `max_scan`, or to the end. -/
theorem Walking.loop (walking : Walking table q s before rest) (batches : 0 < q.batchSize)
    {fuel : Nat} (enough : q.maxScan - s.scanned ≤ fuel) :
    ∃ before' rest', Walking table q (s.loop q table fuel) before' rest' ∧
      ((s.loop q table fuel).scanned = q.maxScan ∨ (s.loop q table fuel).rows.length = q.limit ∨
        rest' = []) := by
  induction fuel generalizing s before rest with
  | zero =>
      have short := walking.short
      refine ⟨before, rest, walking, .inl ?_⟩
      rw [Scan.loop]
      omega
  | succ fuel ih =>
      rw [Scan.loop]
      split
      · rename_i goes
        have size : 0 < s.batchLimit q := by
          simp only [Scan.batchLimit]
          split <;> omega
        have bound : s.batchLimit q ≤ q.maxScan - s.scanned := by
          simp only [Scan.batchLimit]
          split <;> omega
        obtain ⟨later, cut, last, follows⟩ := walking.batch goes.1 goes.2 size
        dsimp only
        rw [if_neg (by omega)]
        split
        · rename_i empty
          exact ⟨before, rest, walking, .inr (.inr (last empty))⟩
        · rename_i filled
          have fits : s.scanned + ((table.window (s.bounds q)).take (s.batchLimit q)).length ≤
              q.maxScan := by
            rw [List.length_take]
            omega
          obtain ⟨before', rest', next, further⟩ :=
            walking.round goes.1 goes.2 cut filled fits follows
          exact ih next (by omega)
      · rename_i stops
        have few := walking.few
        have short := walking.short
        refine ⟨before, rest, walking, ?_⟩
        omega

/-- The rows left behind a scan that walked `max_scan` rows. -/
theorem any_behind (table : PacketTable) (q : HistoryQuery) (last : StoredPacket) :
    table.rows.any (historyWindow ⟨q.since, q.upTo, some last.timestamp, some last.id, none⟩) =
      !(behind table q last).isEmpty := by
  rw [Bool.eq_iff_iff, List.any_eq_true, Bool.not_eq_true', List.isEmpty_eq_false_iff_exists_mem]
  simp only [behind, PacketTable.window, mem_select]

/-- A scan that has stopped has walked what the page asks for. -/
theorem Walking.course_eq (walking : Walking table q s before rest)
    (stopped : s.scanned = q.maxScan ∨ s.rows.length = q.limit ∨ rest = []) :
    Packet.course table q = before := by
  rw [walking.course]
  rcases stopped with full | full | rfl
  · rw [full, Nat.sub_self, List.take_zero, walked_nil, List.append_nil]
  · rw [full, Nat.sub_self, walked_zero, List.append_nil]
  · rw [List.take_nil, walked_nil, List.append_nil]

/-- Whether rows are left, as the scan asks for it. -/
theorem Walking.truncated_eq (walking : Walking table q s before rest) (scans : 0 < q.maxScan) :
    s.truncated q table = decide (s.scanned = q.maxScan ∧ q.maxScan < (Packet.met table q).length) := by
  have short := walking.short
  have length : (Packet.met table q).length = s.scanned + rest.length := by
    rw [walking.met, List.length_append, walking.scanned]
  rw [Scan.truncated]
  by_cases ended : s.scanned = q.maxScan
  · have going : before ≠ [] := by
      rintro rfl
      have none := walking.scanned
      rw [List.length_nil] at none
      omega
    have following : ∃ last, s.lastTs = some last.timestamp ∧ s.lastId = some last.id ∧
        behind table q last = rest := by
      cases walking.next with
      | start fresh => exact absurd rfl going
      | behind last ends lastTs lastId follows => exact ⟨last, lastTs, lastId, follows⟩
      | full filled early => omega
    obtain ⟨last, lastTs, lastId, follows⟩ := following
    rw [if_pos ⟨ended.ge, by rw [lastId]; exact Option.some_ne_none _⟩, lastTs, lastId, any_behind,
      follows, length, ended]
    cases rest <;> simp
  · rw [if_neg (by omega), if_neg (by omega)]
    simp [ended]

/-- The page holds what the scan would find among the rows that it meets. -/
theorem listHistory_eq (table : PacketTable) (batches : 0 < q.batchSize) (scans : 0 < q.maxScan) :
    listHistory table q =
      ⟨(page q.limit q.maxScan q.wanted (met table q)).1,
        (table.window (q.bounds table)).length,
        (page q.limit q.maxScan q.wanted (met table q)).2, (Packet.course table q).length⟩ := by
  obtain ⟨before, rest, walking, stopped⟩ :=
    (walking_start table q).loop batches (Nat.sub_le q.maxScan (q.start table).scanned)
  have result : listHistory table q =
      ⟨((q.start table).loop q table q.maxScan).rows,
        (table.rows.filter (historyWindow (q.bounds table))).length,
        ((q.start table).loop q table q.maxScan).truncated q table,
        ((q.start table).loop q table q.maxScan).scanned⟩ := rfl
  rw [result]
  generalize (q.start table).loop q table q.maxScan = s at walking stopped
  have course := walking.course_eq stopped
  have rows : s.rows = (page q.limit q.maxScan q.wanted (met table q)).1 := by
    rw [walking.rows, ← course, Packet.course, filter_walked, page]
  have truncated : s.truncated q table = (page q.limit q.maxScan q.wanted (met table q)).2 := by
    rw [walking.truncated_eq scans, walking.scanned, ← course]
    rfl
  rw [rows, truncated, walking.scanned, course, PacketTable.window, length_select]

/-- The page is the one of its window: the first rows of the type among the first that are
scanned, the size of the window, and whether the scan stopped with rows of it left. -/
structure ExactPage (table : PacketTable) (q : HistoryQuery) : Prop where
  rows : (listHistory table q).rows =
    (page q.limit q.maxScan q.wanted (table.window (q.bounds table))).1
  inside : ∀ row ∈ (listHistory table q).rows, row ∈ table.window (q.bounds table)
  total : (listHistory table q).total = (table.window (q.bounds table)).length
  truncated : (listHistory table q).truncated =
    (page q.limit q.maxScan q.wanted (table.window (q.bounds table))).2

/-- When the row of the cursor is deleted: the rows with later ids that lie behind the first
batch make no difference to the page. -/
def Undisturbed (table : PacketTable) (q : HistoryQuery) : Prop :=
  (∃ afterId, q.afterId = some afterId ∧ table.getById afterId = none) →
    page q.limit q.maxScan q.wanted (met table q) =
      page q.limit q.maxScan q.wanted (table.window (q.bounds table))

theorem firstBatch_pos (limits : 0 < q.limit) (scans : 0 < q.maxScan) (batches : 0 < q.batchSize) :
    0 < q.firstBatch := by
  simp only [HistoryQuery.firstBatch]
  split <;> omega

/-- Timestamps that do not fall with the id leave every page undisturbed. -/
theorem undisturbed_of_ordered (first : 0 < q.firstBatch)
    (ordered : ∀ a ∈ table.rows, ∀ b ∈ table.rows, a.id < b.id → a.timestamp ≤ b.timestamp) :
    Undisturbed table q := by
  intro _
  rw [met_eq_window first (closed_of_ordered ordered)]

/-- A page is the one of its window unless its cursor's row is deleted and rows with later ids
and earlier timestamps change it. -/
theorem listHistory_exact_iff (table : PacketTable) (limits : 0 < q.limit) (scans : 0 < q.maxScan)
    (batches : 0 < q.batchSize) : ExactPage table q ↔ Undisturbed table q := by
  have result := listHistory_eq table batches scans
  constructor
  · rintro ⟨rows, _, _, truncated⟩ -
    rw [result] at rows truncated
    exact Prod.ext rows truncated
  · intro undisturbed
    have same : page q.limit q.maxScan q.wanted (met table q) =
        page q.limit q.maxScan q.wanted (table.window (q.bounds table)) := by
      by_cases deleted : ∃ afterId, q.afterId = some afterId ∧ table.getById afterId = none
      · exact undisturbed deleted
      · have stored : ∀ afterId ∈ q.afterId, table.getById afterId ≠ none :=
          fun afterId asked missing => deleted ⟨afterId, asked, missing⟩
        rw [met_eq_window (firstBatch_pos limits scans batches) (closed_of_stored stored)]
    have rows : (listHistory table q).rows =
        (page q.limit q.maxScan q.wanted (table.window (q.bounds table))).1 := by rw [result, same]
    refine ⟨rows, ?_, by rw [result], by rw [result, same]⟩
    intro row member
    rw [rows] at member
    exact List.mem_of_mem_take (List.mem_of_mem_filter (List.mem_of_mem_take member))

/-- Packets heard while the clock was set back between two of them. -/
def resetTable : PacketTable := ⟨[⟨1, [], 100, none⟩, ⟨3, [], 50, none⟩, ⟨4, [], 60, none⟩], by decide⟩

theorem stored_cursor_exact : ExactPage resetTable ⟨none, none, some 4, 10, 100, none, 1⟩ := by
  refine (listHistory_exact_iff resetTable (by decide) (by decide) (by decide)).mpr ?_
  rintro ⟨afterId, asked, deleted⟩
  cases asked
  exact absurd deleted (by decide)

/-- After the row 2 was deleted its page has the rows 4 and 3, which are not below it. -/
theorem deleted_cursor_not_exact :
    ¬ ExactPage resetTable ⟨none, none, some 2, 10, 100, none, 500⟩ := by
  rintro ⟨_, inside, _, _⟩
  have met : (listHistory resetTable ⟨none, none, some 2, 10, 100, none, 500⟩).rows.map (·.id) =
      [1, 4, 3] := by decide +kernel
  have window : ∀ row ∈ resetTable.window
      (HistoryQuery.bounds ⟨none, none, some 2, 10, 100, none, 500⟩ resetTable), row.id < 2 := by
    decide +kernel
  obtain ⟨row, returned, id⟩ := List.mem_map.mp (met.symm ▸ (by decide : (4 : Int) ∈ [1, 4, 3]))
  exact absurd (window row (inside row returned)) (by omega)

end Meshloom.Packet
