import Meshloom.KeysetScan
import Meshloom.Packet.DirectMessage

/-! Pages of the stored raw packets, newest first (`RawPacketRepository.list_history`). The
window of a page is a time range and a cursor: a timestamp with an id when the row of
`after_id` is stored, else the id alone. -/
namespace Meshloom.Packet
open KeysetScan

structure StoredPacket where
  id : Int
  data : List UInt8
  timestamp : Int
  messageId : Option Int
  deriving DecidableEq, Repr

/-- The order of a page: `timestamp DESC, id DESC`. -/
def StoredPacket.key (row : StoredPacket) : ℤ ×ₗ ℤ := toLex (row.timestamp, row.id)

/-- The table `raw_packets`. -/
structure PacketTable where
  rows : List StoredPacket
  unique : (rows.map (·.id)).Nodup

/-- The bounds of a query. -/
structure HistoryBounds where
  since : Option Int
  upTo : Option Int
  cursorTs : Option Int
  cursorId : Option Int
  idBefore : Option Int
  deriving DecidableEq, Repr

/-- `since` and `until`. -/
def inTimeRange (since upTo : Option Int) (row : StoredPacket) : Bool :=
  since.all (· ≤ row.timestamp) && upTo.all (row.timestamp ≤ ·)

/-- The condition of `_history_window_sql`. -/
def historyWindow (bounds : HistoryBounds) (row : StoredPacket) : Bool :=
  inTimeRange bounds.since bounds.upTo row &&
    match bounds.cursorTs, bounds.cursorId with
    | some cursorTs, some cursorId =>
      row.timestamp < cursorTs || (row.timestamp == cursorTs && decide (row.id < cursorId))
    | _, _ => bounds.idBefore.all (row.id < ·)

def PacketTable.getById (table : PacketTable) (packetId : Int) : Option StoredPacket :=
  table.rows.find? fun row => row.id = packetId

/-- The rows of a window, newest first. -/
def PacketTable.window (table : PacketTable) (bounds : HistoryBounds) : List StoredPacket :=
  select StoredPacket.key table.rows (historyWindow bounds)

structure HistoryQuery where
  since : Option Int
  upTo : Option Int
  afterId : Option Int
  limit : Nat
  maxScan : Nat
  payloadType : Option Nat
  batchSize : Nat
  deriving DecidableEq, Repr

/-- The window that `total` counts. -/
def HistoryQuery.bounds (q : HistoryQuery) (table : PacketTable) : HistoryBounds :=
  match q.afterId with
  | none => ⟨q.since, q.upTo, none, none, none⟩
  | some afterId =>
    match table.getById afterId with
    | some row => ⟨q.since, q.upTo, some row.timestamp, some row.id, none⟩
    | none => ⟨q.since, q.upTo, none, none, some afterId⟩

/-- Whether a row has the asked type. -/
def HistoryQuery.wanted (q : HistoryQuery) (row : StoredPacket) : Bool :=
  q.payloadType.all fun type => getPacketPayloadType row.data = some type

/-- The variables of the scan. -/
structure Scan where
  rows : List StoredPacket
  scanned : Nat
  lastTs : Option Int
  lastId : Option Int
  lastIdBefore : Option Int
  deriving DecidableEq, Repr

/-- The bounds of the next batch. -/
def Scan.bounds (s : Scan) (q : HistoryQuery) : HistoryBounds :=
  ⟨q.since, q.upTo, s.lastTs, s.lastId, if s.lastId = none then s.lastIdBefore else none⟩

/-- The `for` loop over a batch. -/
def Scan.walk (q : HistoryQuery) (s : Scan) : List StoredPacket → Scan
  | [] => s
  | row :: rest =>
    let s := { s with
      scanned := s.scanned + 1
      lastTs := some row.timestamp
      lastId := some row.id }
    if q.wanted row then
      let s := { s with rows := s.rows ++ [row] }
      if s.rows.length ≥ q.limit then s
      else if s.scanned ≥ q.maxScan then s
      else s.walk q rest
    else if s.scanned ≥ q.maxScan then s
    else s.walk q rest

def Scan.batchLimit (s : Scan) (q : HistoryQuery) : Nat :=
  let batchLimit := min q.batchSize (q.maxScan - s.scanned)
  if q.payloadType = none then min batchLimit (q.limit - s.rows.length) else batchLimit

/-- The `while` loop; every round walks a row, so `max_scan` rounds are enough. -/
def Scan.loop (q : HistoryQuery) (table : PacketTable) : Nat → Scan → Scan
  | 0, s => s
  | fuel + 1, s =>
    if s.scanned < q.maxScan ∧ s.rows.length < q.limit then
      let batchLimit := s.batchLimit q
      if batchLimit = 0 then s
      else
        let batch := (table.window (s.bounds q)).take batchLimit
        if batch = [] then s
        else Scan.loop q table fuel ({ s with lastIdBefore := none }.walk q batch)
    else s

/-- Whether rows are left behind a scan that stopped at `max_scan`. -/
def Scan.truncated (s : Scan) (q : HistoryQuery) (table : PacketTable) : Bool :=
  if s.scanned ≥ q.maxScan ∧ s.lastId ≠ none then
    table.rows.any (historyWindow ⟨q.since, q.upTo, s.lastTs, s.lastId, none⟩)
  else if s.scanned ≥ q.maxScan ∧ s.lastIdBefore ≠ none then
    table.rows.any (historyWindow ⟨q.since, q.upTo, none, none, s.lastIdBefore⟩)
  else false

structure HistoryPage where
  rows : List StoredPacket
  total : Nat
  truncated : Bool
  scanned : Nat
  deriving DecidableEq, Repr

def listHistory (table : PacketTable) (q : HistoryQuery) : HistoryPage :=
  let window := q.bounds table
  let total := (table.rows.filter (historyWindow window)).length
  let start : Scan := ⟨[], 0, window.cursorTs, window.cursorId, window.idBefore⟩
  let s := start.loop q table q.maxScan
  ⟨s.rows, total, s.truncated q table, s.scanned⟩

end Meshloom.Packet
