import Mathlib.Data.List.SplitOn
import Meshloom.BytesLiteral
import Meshloom.Text
import Meshloom.TextSearch

/-! The redaction of log text (`app/log_redaction.py`): the parsers of logged frames, the rules
that start at a known text of the line, the rules over several lines, and the literal scrub. -/
namespace Meshloom.LogRedaction
open BytesLiteral Text TextSearch

def redacted : List Char := "[redacted]".toList

/-- `"[redacted frame "`, before a code. -/
def redactedFrame : List Char := "[redacted frame ".toList

/-- The codes of outgoing frames that carry a secret. -/
def secretOut : List UInt8 := [0x42, 0x18]

/-- The codes of incoming frames that do. -/
def secretIn : List UInt8 := [0x1D, 0x0E]

def cliReplyType : List Char := "EventType.CLI_REPLY".toList
def privateKeyType : List Char := "EventType.PRIVATE_KEY".toList

def secretEventTypes : List (List Char) := [cliReplyType, privateKeyType]

/-- `f"{code:02x}"` -/
def codeHex (code : UInt8) : List Char := Bytes.toHex [code]

/-- What the rules take from the Python library: `str.isalnum` and `ast.literal_eval`, which is
only asked for `bytes`. -/
structure Python where
  alnum : Alnum
  literalEval : LiteralEval

section
variable (python : Python)

def isHex (c : Char) : Bool := (Bytes.hexValue c).isSome

def parseHex (payload : List Char) : Option (List UInt8) :=
  let payload := strip payload
  if payload = [] ∨ payload.length % 2 = 1 ∨ payload.all isHex = false then none
  else Bytes.fromHex payload

/-- `bytearray(...)` without its frame. -/
def unwrapBytearray (payload : List Char) : List Char :=
  if bytearrayOpening.isPrefixOf payload ∧ payload.getLast? = some ')' then
    (payload.drop bytearrayOpening.length).dropLast
  else payload

def parseBytesLiteral (payload : List Char) : Option (List UInt8) :=
  let payload := unwrapBytearray (strip payload)
  if ['b', '\''].isPrefixOf payload ∨ ['b', '"'].isPrefixOf payload then
    python.literalEval.apply payload
  else none

def parseFrame (payload : List Char) : Option (List UInt8) :=
  match parseHex payload with
  | some (code :: rest) => some (code :: rest)
  | _ => parseBytesLiteral python payload

/-- What a rule puts in the place of the text behind its start; `none` keeps it. -/
abbrev Rule := List Char → Option (List Char)

def ruleCliCommand : Rule := fun _ => some redacted

def ruleRawData : Rule := fun rest =>
  match parseFrame python rest with
  | none | some [] => some redacted
  | some (code :: _) =>
    if code ∈ secretOut then some (codeHex code ++ ['.', '.', '.'] ++ redacted) else none

def ruleSendingPkt : Rule := fun rest =>
  match parseBytesLiteral python rest with
  | some (_ :: _ :: _ :: code :: _) =>
    if code ∈ secretOut then some (redactedFrame ++ codeHex code ++ [']']) else none
  | _ => some redacted

def ruleReceivedHex : Rule := fun rest =>
  match parseHex rest with
  | none | some [] => some redacted
  | some (code :: _) => if code ∈ secretIn then some redacted else none

def ruleReceivedPrivateKey : Rule := fun _ => some redacted

def ruleUnhandled : Rule := fun rest =>
  match parseFrame python rest with
  | none | some [] => some redacted
  | some (code :: _) => if code ∈ secretIn then some redacted else none

def ruleDispatch : Rule := fun rest =>
  (secretEventTypes.find? fun eventType => (eventType ++ [',']).isPrefixOf rest).map
    fun eventType => eventType ++ [',', ' '] ++ redacted

/-- The log calls that the line rules were written for. -/
inductive Site where
  | sendingCliCommand | sendingRawData | sendingPkt | receivedData | receivedPrivateKey
  | unhandledData | dispatchingEvent
  deriving DecidableEq, Repr

/-- The text that the rule of a site starts at. -/
def Site.start : Site → List Char
  | .sendingCliCommand => "Sending cli command: ".toList
  | .sendingRawData => "Sending raw data: ".toList
  | .sendingPkt => "sending pkt : ".toList
  | .receivedData => "Received data: ".toList
  | .receivedPrivateKey => "Received private key response: ".toList
  | .unhandledData => "Unhandled data received ".toList
  | .dispatchingEvent => "Dispatching event: ".toList

def Site.rule : Site → Rule
  | .sendingCliCommand => ruleCliCommand
  | .sendingRawData => ruleRawData python
  | .sendingPkt => ruleSendingPkt python
  | .receivedData => ruleReceivedHex
  | .receivedPrivateKey => ruleReceivedPrivateKey
  | .unhandledData => ruleUnhandled python
  | .dispatchingEvent => ruleDispatch

/-- `_LINE_RULES`, in the order of the table. -/
def lineRules : List Site :=
  [.sendingCliCommand, .sendingRawData, .sendingPkt, .receivedData, .receivedPrivateKey,
    .unhandledData, .dispatchingEvent]

/-- `_HANDLER_ERROR_RE` -/
def handlerError (text : List Char) : Option Nat :=
  secretEventTypes.findSome? fun eventType =>
    literal ("Error in event handler for ".toList ++ eventType ++ ": ".toList) text

/-- `[\w.]` -/
def isTypeChar (c : Char) : Bool := python.alnum.apply c || c == '_' || c == '.'

def parseErrorStart : List Char := "handle_rx parse error: ".toList

/-- `_PARSE_ERROR_RE`; the type name ends where the `": "` must begin. -/
def parseError (text : List Char) : Option Nat :=
  match literal parseErrorStart text with
  | none => none
  | some start =>
    match text.drop start with
    | [] => none
    | c :: rest =>
      if c.isAlpha || c == '_' then
        let name := rest.takeWhile (isTypeChar python)
        if [':', ' '].isPrefixOf (rest.drop name.length) then some (start + 1 + name.length + 2)
        else none
      else none

/-- A match of `_PARSE_ERROR_RAW_RE`, by its digits. -/
def rawAt (text : List Char) : Option (List Char) :=
  match literal " | raw=".toList text with
  | none => none
  | some start =>
    let digits := (text.drop start).takeWhile isHex
    match text.drop (start + digits.length) with
    | [] => some digits
    | c :: _ => if c = '\n' then some digits else none

/-- `findall`, `skip` being what is left of the match before. -/
def findRaws : Nat → List Char → List (List Char)
  | _, [] => []
  | skip + 1, _ :: rest => findRaws skip rest
  | 0, c :: rest =>
    match rawAt (c :: rest) with
    | some digits => digits :: findRaws (" | raw=".toList.length + digits.length - 1) rest
    | none => findRaws 0 rest

def parseErrorFrameIsSafe (rawHex : List Char) : Bool :=
  match parseHex rawHex with
  | some (code :: _) => code ∉ secretIn
  | _ => false

/-- Where a pattern matches: anywhere, or at the start of the text. -/
def occurrence (unanchored : Bool) (atStart : List Char → Option Nat) (text : List Char) :
    Option Nat :=
  if unanchored then search atStart text else atStart text

/-- The rule of `_HANDLER_ERROR_RE`. -/
def cutHandlerError (unanchored : Bool) (text : List Char) : List Char :=
  match occurrence unanchored handlerError text with
  | some n => text.take n ++ redacted
  | none => text

/-- The rule of `_PARSE_ERROR_RE`: all is dropped but for exactly one frame that is safe. -/
def cutParseError (unanchored : Bool) (text : List Char) : List Char :=
  match occurrence unanchored (parseError python) text with
  | none => text
  | some n =>
    match findRaws 0 (text.drop n) with
    | [raw] => if parseErrorFrameIsSafe raw then text else text.take n ++ redacted
    | _ => text.take n ++ redacted

def applyMultilineRules (unanchored : Bool) (text : List Char) : List Char :=
  cutParseError python unanchored (cutHandlerError unanchored text)

/-- The first rule of the table that replaces something. -/
def applyLineRules (unanchored : Bool) (line : List Char) : List Site → List Char
  | [] => line
  | site :: rest =>
    match occurrence unanchored (literal site.start) line with
    | none => applyLineRules unanchored line rest
    | some start =>
      match site.rule python (line.drop start) with
      | none => applyLineRules unanchored line rest
      | some replacement => line.take start ++ replacement

/-- `str.replace`, `skip` being what is left of the occurrence before. -/
def replaceAll (form : List Char) : Nat → List Char → List Char
  | _, [] => []
  | skip + 1, _ :: rest => replaceAll form skip rest
  | 0, c :: rest =>
    if form.isPrefixOf (c :: rest) then redacted ++ replaceAll form (form.length - 1) rest
    else c :: replaceAll form 0 rest

/-- The forms of the literal secrets that are registered, none of them empty. -/
abbrev Snapshot := List (List Char)

def scrubLiterals (snapshot : Snapshot) (text : List Char) : List Char :=
  snapshot.foldl (fun text form => replaceAll form 0 text) text

def redactText (snapshot : Snapshot) (unanchored : Bool) (message : List Char) : List Char :=
  let text := applyMultilineRules python unanchored message
  scrubLiterals snapshot <|
    if lineRules.any fun site => (search (literal site.start) text).isSome then
      ['\n'].intercalate ((text.splitOn '\n').map fun line =>
        applyLineRules python unanchored line lineRules)
    else text

end

end Meshloom.LogRedaction
