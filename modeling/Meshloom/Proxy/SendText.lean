import Meshloom.Bytes
import Meshloom.Utf8Text

/-! The command of a proxy client to send a direct message: `parse_send_txt` against the
layout of the companion protocol (`app/radio_proxy/protocol.py`). -/
namespace Meshloom.SendText
open Bytes Utf8

structure SendTxtCommand where
  txtType : Nat
  attempt : Nat
  timestamp : Nat
  dest : List UInt8
  text : List Char
  deriving DecidableEq, Repr

/-- The destination and the text of a command, told apart by their joint length. -/
def splitDest (rest : List UInt8) : Except String (List UInt8 × List UInt8) :=
  if 32 ≤ rest.length then .ok (rest.take 32, rest.drop 32)
  else if 6 ≤ rest.length then .ok (rest.take 6, rest.drop 6)
  else .error "SEND_TXT_MSG missing destination"

def parseSendTxt (payload : List UInt8) : Except String SendTxtCommand := do
  if payload.length < 9 then .error "SEND_TXT_MSG too short"
  let txtType := (payload[1]?.getD 0).toNat
  let attempt := (payload[2]?.getD 0).toNat
  let timestamp := fromLittleEndian ((payload.take 7).drop 3)
  let (dest, textBytes) ← splitDest (payload.drop 7)
  return ⟨txtType, attempt, timestamp, dest, decodeReplace textBytes⟩

/-- The layout of a message to the prefix of a key. -/
def sendTxtPayload (code txtType attempt : UInt8) (timestamp : Nat) (dest : List UInt8)
    (text : List Char) : List UInt8 :=
  [code, txtType, attempt] ++ toLittleEndian 4 timestamp ++ dest ++ encode text

section
variable {code txtType attempt : UInt8} {timestamp : Nat} {dest : List UInt8} {text : List Char}

/-- The header is read as it was written, and the rest is split. -/
theorem parseSendTxt_payload (fits : timestamp < 2 ^ 32) (prefixed : dest.length = 6) :
    parseSendTxt (sendTxtPayload code txtType attempt timestamp dest text) =
      (splitDest (dest ++ encode text)).map fun split =>
        ⟨txtType.toNat, attempt.toNat, timestamp, split.1, decodeReplace split.2⟩ := by
  have stamp := length_toLittleEndian 4 timestamp
  have long : ¬ (sendTxtPayload code txtType attempt timestamp dest text).length < 9 := by
    simp only [sendTxtPayload, List.length_append, List.length_cons, List.length_nil]
    omega
  have header : ((sendTxtPayload code txtType attempt timestamp dest text).take 7).drop 3 =
      toLittleEndian 4 timestamp := by
    rw [sendTxtPayload, List.append_assoc, List.take_left' (by simp [stamp])]
    rfl
  have rest : (sendTxtPayload code txtType attempt timestamp dest text).drop 7 =
      dest ++ encode text := by
    rw [sendTxtPayload, List.append_assoc, List.drop_left' (by simp [stamp])]
  have back := fromLittleEndian_toLittleEndian 4 fits
  simp only [parseSendTxt, if_neg long, header, rest, back]
  cases splitDest (dest ++ encode text) <;> rfl

theorem splitDest_short (prefixed : dest.length = 6) {bytes : List UInt8}
    (short : bytes.length < 26) : splitDest (dest ++ bytes) = .ok (dest, bytes) := by
  have total : (dest ++ bytes).length = 6 + bytes.length := by rw [List.length_append, prefixed]
  rw [splitDest, if_neg (by omega), if_pos (by omega), List.take_left' prefixed,
    List.drop_left' prefixed]

/-- From 26 bytes of text on, the first 26 are taken for the rest of a whole key. -/
theorem splitDest_long (prefixed : dest.length = 6) {bytes : List UInt8}
    (long : 26 ≤ bytes.length) :
    splitDest (dest ++ bytes) = .ok (dest ++ bytes.take 26, bytes.drop 26) := by
  have total : (dest ++ bytes).length = 6 + bytes.length := by rw [List.length_append, prefixed]
  rw [splitDest, if_pos (by omega), List.take_append, List.drop_append, prefixed,
    List.take_of_length_le (by omega), List.drop_of_length_le (by omega), List.nil_append]

/-- A command comes back as it was sent exactly when its text is shorter than 26 bytes. -/
theorem parseSendTxt_sent_iff (fits : timestamp < 2 ^ 32) (prefixed : dest.length = 6) :
    parseSendTxt (sendTxtPayload code txtType attempt timestamp dest text) =
        .ok ⟨txtType.toNat, attempt.toNat, timestamp, dest, text⟩ ↔
      (encode text).length < 26 := by
  rw [parseSendTxt_payload fits prefixed]
  constructor
  · intro returned
    by_contra long
    rw [splitDest_long prefixed (Nat.not_lt.mp long)] at returned
    have kept := congrArg (fun command => command.dest.length) (Except.ok.inj returned)
    simp only [List.length_append, List.length_take] at kept
    omega
  · intro short
    rw [splitDest_short prefixed short]
    simp only [Except.map, decodeReplace_encode]

theorem hello_sent : "hello".toList.length = 5 ∧
    parseSendTxt (sendTxtPayload 2 0 1 1700000000 [1, 2, 3, 4, 5, 6] "hello".toList) =
      .ok ⟨0, 1, 1700000000, [1, 2, 3, 4, 5, 6], "hello".toList⟩ :=
  ⟨rfl, (parseSendTxt_sent_iff (by decide) rfl).mpr (by decide +kernel)⟩

/-- A text of 26 letters: the destination takes all of it. -/
theorem alphabet_not_sent : ∃ text : List Char,
    (sendTxtPayload 2 0 1 1700000000 [1, 2, 3, 4, 5, 6] text).length ≤ 300 ∧
    parseSendTxt (sendTxtPayload 2 0 1 1700000000 [1, 2, 3, 4, 5, 6] text) ≠
      .ok ⟨0, 1, 1700000000, [1, 2, 3, 4, 5, 6], text⟩ := by
  refine ⟨"abcdefghijklmnopqrstuvwxyz".toList, by decide +kernel, ?_⟩
  have parsed : parseSendTxt (sendTxtPayload 2 0 1 1700000000 [1, 2, 3, 4, 5, 6]
      "abcdefghijklmnopqrstuvwxyz".toList) =
      .ok ⟨0, 1, 1700000000, [1, 2, 3, 4, 5, 6] ++ encode "abcdefghijklmnopqrstuvwxyz".toList, []⟩ := by
    rw [parseSendTxt_payload (by decide) rfl, splitDest_long rfl (by decide +kernel)]
    decide +kernel
  rw [parsed]
  intro same
  have length := congrArg (fun command => command.dest.length) (Except.ok.inj same)
  exact absurd length (by decide +kernel)

end
end Meshloom.SendText
