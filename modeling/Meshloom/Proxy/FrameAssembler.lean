import Meshloom.Bytes
import Meshloom.Incremental

/-! The client side of the radio proxy's TCP framing. `FrameAssembler.feed` is
the drain loop of a scanner, so what it returns does not depend on how the stream
was cut into chunks. -/
namespace Meshloom.FrameAssembler
open Bytes

def rxMarker : UInt8 := 0x3C
def maxFrameSize : Nat := 300

/-- `_buf.find(RX_MARKER)` and the deletion of what stands before it; without a
marker the whole buffer is cleared. -/
def seek (buf : List UInt8) : List UInt8 := buf.dropWhile (· != rxMarker)

/-- The length field behind the marker. -/
def size (buf : List UInt8) : Nat := fromLittleEndian ((buf.take 3).drop 1)

/-- One turn of the `while True` loop of `feed`. -/
def turn (buf : List UInt8) : Look UInt8 (List UInt8) :=
  let buf := seek buf
  if buf.length < 3 then .wait buf
  else if size buf > maxFrameSize then .skip (buf.drop 1)
  else
    let total := 3 + size buf
    if buf.length < total then .wait buf
    else .emit ((buf.take total).drop 3) (buf.drop total)

theorem seek_cons (byte : UInt8) (rest : List UInt8) :
    seek (byte :: rest) = if byte = rxMarker then byte :: rest else seek rest := by
  by_cases marker : byte = rxMarker <;> simp [seek, marker]

theorem seek_append (buf more : List UInt8) : seek (buf ++ more) = seek (seek buf ++ more) := by
  induction buf with
  | nil => rfl
  | cons byte rest ih =>
      rw [List.cons_append, seek_cons, seek_cons]
      split
      · rename_i marker
        rw [List.cons_append, seek_cons, if_pos marker]
      · exact ih

theorem seek_length_le (buf : List UInt8) : (seek buf).length ≤ buf.length :=
  (List.dropWhile_sublist _).length_le

theorem seek_cases (buf : List UInt8) : seek buf = [] ∨ ∃ rest, seek buf = rxMarker :: rest := by
  cases found : seek buf with
  | nil => exact .inl rfl
  | cons byte rest =>
      have marker : byte = rxMarker := by
        have kept := List.head?_dropWhile_not (· != rxMarker) buf
        simpa [show buf.dropWhile (· != rxMarker) = byte :: rest from found] using kept
      exact .inr ⟨rest, by rw [marker]⟩

theorem size_append (long : 3 ≤ buf.length) (more : List UInt8) : size (buf ++ more) = size buf := by
  rw [size, List.take_append_of_le_length long, size]

/-- What a turn can do, in terms of the buffer from the first marker on. -/
theorem turn_cases (buf : List UInt8) :
    (turn buf = .wait (seek buf) ∧ (seek buf).length < 3 + maxFrameSize) ∨
    (3 ≤ (seek buf).length ∧ maxFrameSize < size (seek buf) ∧
      turn buf = .skip ((seek buf).drop 1)) ∨
    (size (seek buf) ≤ maxFrameSize ∧ 3 + size (seek buf) ≤ (seek buf).length ∧
      turn buf = .emit (((seek buf).take (3 + size (seek buf))).drop 3)
        ((seek buf).drop (3 + size (seek buf)))) := by
  simp only [turn]
  rcases Nat.lt_or_ge (seek buf).length 3 with short | long
  · rw [if_pos short]
    exact .inl ⟨rfl, by omega⟩
  rw [if_neg (by omega)]
  rcases Nat.lt_or_ge maxFrameSize (size (seek buf)) with oversized | fits
  · rw [if_pos oversized]
    exact .inr (.inl ⟨long, oversized, rfl⟩)
  rw [if_neg (by omega)]
  rcases Nat.lt_or_ge (seek buf).length (3 + size (seek buf)) with short | complete
  · rw [if_pos short]
    exact .inl ⟨rfl, by omega⟩
  · rw [if_neg (by omega)]
    exact .inr (.inr ⟨fits, complete, rfl⟩)

/-- From a marker on, a further chunk is appended to what the turn sees. -/
theorem seek_append_of_marker (long : 3 ≤ (seek buf).length) (more : List UInt8) :
    seek (buf ++ more) = seek buf ++ more := by
  rw [seek_append]
  rcases seek_cases buf with empty | ⟨rest, found⟩
  · rw [empty] at long
    contradiction
  · rw [found, List.cons_append, seek_cons, if_pos rfl]

theorem turn_skip (long : 3 ≤ (seek buf).length) (oversized : maxFrameSize < size (seek buf)) :
    turn buf = .skip ((seek buf).drop 1) := by
  simp only [turn]
  rw [if_neg (by omega), if_pos oversized]

theorem turn_emit (fits : size (seek buf) ≤ maxFrameSize)
    (complete : 3 + size (seek buf) ≤ (seek buf).length) :
    turn buf = .emit (((seek buf).take (3 + size (seek buf))).drop 3)
      ((seek buf).drop (3 + size (seek buf))) := by
  simp only [turn]
  rw [if_neg (by omega), if_neg (by omega), if_neg (by omega)]

def scanner : Scanner UInt8 (List UInt8) where
  look := turn
  skip_shorter {input rest} decided := by
    have shorter := seek_length_le input
    rcases turn_cases input with ⟨same, _⟩ | ⟨long, _, same⟩ | ⟨_, _, same⟩
    · cases same.symm.trans decided
    · cases same.symm.trans decided
      rw [List.length_drop]
      omega
    · cases same.symm.trans decided
  emit_shorter {input item rest} decided := by
    have shorter := seek_length_le input
    rcases turn_cases input with ⟨same, _⟩ | ⟨_, _, same⟩ | ⟨_, complete, same⟩
    · cases same.symm.trans decided
    · cases same.symm.trans decided
    · cases same.symm.trans decided
      rw [List.length_drop]
      omega
  wait_extends {input residue} decided more := by
    rcases turn_cases input with ⟨same, _⟩ | ⟨_, _, same⟩ | ⟨_, _, same⟩
    · cases same.symm.trans decided
      simp only [turn, seek_append input more]
    · cases same.symm.trans decided
    · cases same.symm.trans decided
  skip_extends {input rest} decided more := by
    rcases turn_cases input with ⟨same, _⟩ | ⟨long, oversized, same⟩ | ⟨_, _, same⟩
    · cases same.symm.trans decided
    · cases same.symm.trans decided
      have extended := seek_append_of_marker long more
      rw [turn_skip, extended, List.drop_append_of_le_length (by omega)]
      · rw [extended, List.length_append]
        omega
      · rwa [extended, size_append long]
    · cases same.symm.trans decided
  emit_extends {input item rest} decided more := by
    rcases turn_cases input with ⟨same, _⟩ | ⟨_, _, same⟩ | ⟨fits, complete, same⟩
    · cases same.symm.trans decided
    · cases same.symm.trans decided
    · cases same.symm.trans decided
      have long : 3 ≤ (seek input).length := by omega
      have extended := seek_append_of_marker long more
      have sized : size (seek (input ++ more)) = size (seek input) := by
        rw [extended, size_append long]
      rw [turn_emit, sized, extended, List.take_append_of_le_length complete,
        List.drop_append_of_le_length complete]
      · rwa [sized]
      · rw [sized, extended, List.length_append]
        omega

/-- `feed`: the frames that are now complete, and the buffer that stays. -/
def feed (buf data : List UInt8) : List (List UInt8) × List UInt8 :=
  scanner.drain (buf ++ data)

/-- One assembler fed chunk by chunk, from the buffer `buf`. -/
def feedAll (buf : List UInt8) : List (List UInt8) → List (List UInt8) × List UInt8
  | [] => ([], buf)
  | chunk :: rest =>
    let (frames, buf) := feed buf chunk
    let (later, buf) := feedAll buf rest
    (frames ++ later, buf)

theorem feedAll_eq (buf : List UInt8) (chunks : List (List UInt8)) :
    feedAll buf chunks = scanner.drainChunks buf chunks := by
  induction chunks generalizing buf with
  | nil => rfl
  | cons chunk rest ih => simp only [feedAll, feed, Scanner.drainChunks, ih]

/-- A client's frame: the marker, the payload's length in two bytes, the payload. -/
def frame (payload : List UInt8) : List UInt8 :=
  rxMarker :: toLittleEndian 2 payload.length ++ payload

theorem seek_frame (payload more : List UInt8) : seek (frame payload ++ more) = frame payload ++ more :=
  List.dropWhile_cons_of_neg (by simp)

@[simp]
theorem length_frame (payload : List UInt8) : (frame payload).length = 3 + payload.length := by
  simp only [frame, List.length_append, List.length_cons, length_toLittleEndian]

theorem size_frame (short : payload.length ≤ maxFrameSize) (more : List UInt8) :
    size (frame payload ++ more) = payload.length := by
  have taken : (frame payload ++ more).take 3 = rxMarker :: toLittleEndian 2 payload.length := rfl
  have fits : payload.length < 256 ^ 2 := by
    simp only [maxFrameSize] at short
    omega
  rw [size, taken, List.drop_succ_cons, List.drop_zero, fromLittleEndian_toLittleEndian 2 fits]

/-- A whole frame in front of the buffer is emitted as its payload. -/
theorem drain_frame (short : payload.length ≤ maxFrameSize) (more : List UInt8) :
    scanner.drain (frame payload ++ more) =
      (payload :: (scanner.drain more).1, (scanner.drain more).2) := by
  have sized := size_frame short more
  apply Scanner.drain_emit
  show turn (frame payload ++ more) = _
  rw [turn_emit, seek_frame, sized]
  · congr 1
    · rw [List.take_append_of_le_length (by simp), List.take_of_length_le (by simp)]
      rfl
    · rw [List.drop_append_of_le_length (by simp), List.drop_of_length_le (by simp)]
      rfl
  · rw [seek_frame, sized]
    exact short
  · rw [seek_frame, sized, List.length_append, length_frame]
    omega

theorem drain_frames {payloads : List (List UInt8)}
    (short : ∀ payload ∈ payloads, payload.length ≤ maxFrameSize) :
    scanner.drain (payloads.flatMap frame) = (payloads, []) := by
  induction payloads with
  | nil => exact Scanner.drain_wait rfl
  | cons payload rest ih =>
      rw [List.flatMap_cons, drain_frame (short payload List.mem_cons_self),
        ih fun other member => short other (List.mem_cons_of_mem _ member)]

/-- What stays in the buffer is an incomplete frame. -/
theorem drain_residue (buf : List UInt8) :
    (scanner.drain buf).2 = [] ∨
      (scanner.drain buf).2.head? = some rxMarker ∧
        (scanner.drain buf).2.length < 3 + maxFrameSize := by
  have waits : turn (scanner.drain buf).2 = .wait (scanner.drain buf).2 := scanner.drain_waits buf
  rcases turn_cases (scanner.drain buf).2 with ⟨same, short⟩ | ⟨_, _, same⟩ | ⟨_, _, same⟩
  · have kept : seek (scanner.drain buf).2 = (scanner.drain buf).2 :=
      Look.wait.inj (same.symm.trans waits)
    rcases seek_cases (scanner.drain buf).2 with empty | ⟨rest, found⟩
    · exact .inl (kept.symm.trans empty)
    · rw [kept] at short found
      exact .inr ⟨by rw [found]; rfl, short⟩
  · cases same.symm.trans waits
  · cases same.symm.trans waits

/-- However a stream is cut, an assembler returns the frames that one feed of
the whole stream returns and keeps the same buffer; frames written one after the
other come out as their payloads; and every feed leaves an incomplete frame. -/
theorem feed_lossless :
    (∀ chunks : List (List UInt8), feedAll [] chunks = feed [] chunks.flatten) ∧
    (∀ chunks payloads : List (List UInt8),
      (∀ payload ∈ payloads, payload.length ≤ maxFrameSize) →
      chunks.flatten = payloads.flatMap frame → feedAll [] chunks = (payloads, [])) ∧
    ∀ buf data : List UInt8, (feed buf data).2 = [] ∨
      (feed buf data).2.head? = some rxMarker ∧ (feed buf data).2.length < 3 + maxFrameSize := by
  have cut (chunks : List (List UInt8)) : feedAll [] chunks = feed [] chunks.flatten := by
    rw [feedAll_eq, Scanner.drainChunks_flatten rfl, feed]
  refine ⟨cut, ?_, fun buf data => drain_residue (buf ++ data)⟩
  intro chunks payloads short stream
  rw [cut, stream, feed, List.nil_append, drain_frames short]

end Meshloom.FrameAssembler
