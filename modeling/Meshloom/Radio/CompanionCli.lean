import Mathlib
import Meshloom.Transition

/-! The companion CLI of one connection: tag allocation, the exchange with its
reply handlers, the probe, and the firmware that answers each command at most
once, when it pleases. -/
namespace Meshloom.CompanionCli

abbrev Tag := List Char

/-- `CLI_TAG_ALPHABET`: the printable characters but the tag's own delimiter. -/
def cliTagAlphabet : List Char := ((List.range' 0x21 (0x7F - 0x21)).map Char.ofNat).filter (· ≠ '|')

def cliMaxQuarantinedTags : Nat := 64

inductive CapabilityReason where
  | ok | firmwareTooOld | firmwareUnknown | proxyLink | untagged | unsupportedCmd | probeFailed
  | linkUnreliable
  deriving DecidableEq, Repr

structure CliCapabilities where
  supported : Bool
  reason : CapabilityReason
  wifi : Bool
  firmwareVerCode : Option Nat
  deriving DecidableEq, Repr

structure CliLinkState where
  nextTag : Nat
  quarantined : Finset Tag
  capabilities : Option CliCapabilities
  probeFailures : Nat
  deriving DecidableEq

def CliLinkState.resetProbe (link : CliLinkState) : CliLinkState :=
  { link with capabilities := none, probeFailures := 0 }

def CliLinkState.quarantine (link : CliLinkState) (tag : Tag) : CliLinkState :=
  { link with quarantined := insert tag link.quarantined }

def markUnreliable (link : CliLinkState) (firmwareVerCode : Option Nat) : CliLinkState :=
  { link with capabilities := some ⟨false, .linkUnreliable, false, firmwareVerCode⟩ }

/-- The two characters of a tag; the index is below 93², so both are there. -/
def cliTag (index : Nat) : Tag :=
  let size := cliTagAlphabet.length
  [cliTagAlphabet.getD (index / size) '!', cliTagAlphabet.getD (index % size) '!']

/-- The bounded search of `_allocate_tag`; `none` is `link_unreliable`. -/
def searchTag (firmwareVerCode : Option Nat) : Nat → CliLinkState → CliLinkState × Option Tag
  | 0, link => (markUnreliable link firmwareVerCode, none)
  | tries + 1, link =>
    let total := cliTagAlphabet.length * cliTagAlphabet.length
    let index := link.nextTag % total
    let link := { link with nextTag := (index + 1) % total }
    if cliTag index ∈ link.quarantined then searchTag firmwareVerCode tries link
    else (link, some (cliTag index))

def allocateTag (firmwareVerCode : Option Nat) (link : CliLinkState) : CliLinkState × Option Tag :=
  if link.quarantined.card > cliMaxQuarantinedTags then (markUnreliable link firmwareVerCode, none)
  else
    let total := cliTagAlphabet.length * cliTagAlphabet.length
    searchTag firmwareVerCode (min total (link.quarantined.card + 1)) link

inductive ExchangeOutcome where
  | reply (text : List Char)
  | untagged
  | unsupportedCmd
  | timeout
  deriving DecidableEq, Repr

/-- Who waits for the exchange: `run`, or one of the two attempts of `_probe`. -/
inductive Caller where
  | run
  | probe (attempt : Nat)
  deriving DecidableEq, Repr

def Caller.isProbe : Caller → Bool
  | .run => false
  | .probe _ => true

/-- An exchange under way, with the futures that its handlers set. -/
structure Exchange where
  id : Nat
  tag : Tag
  caller : Caller
  reply : Option ExchangeOutcome
  refused : Bool
  deriving DecidableEq, Repr

/-- `TAGGED_REPLY`: two characters from `!` to `~` and a bar. -/
def taggedReply : List Char → Bool
  | a :: b :: '|' :: _ => '!' ≤ a && a ≤ '~' && ('!' ≤ b && b ≤ '~')
  | _ => false

/-- The handler of `CLI_REPLY` events. -/
def onReply (exchange : Exchange) (text : List Char) : Exchange :=
  let start := exchange.tag ++ ['|']
  if exchange.reply.isSome then exchange
  else if taggedReply text then
    if start.isPrefixOf text then { exchange with reply := some (.reply (text.drop start.length)) }
    else exchange
  else if exchange.caller.isProbe then { exchange with reply := some .untagged }
  else exchange

/-- The handler of `ERROR` events of code 1, which only a probe subscribes. -/
def onError (exchange : Exchange) : Exchange :=
  if exchange.caller.isProbe then { exchange with refused := true } else exchange

/-- A command that the firmware has not answered yet. -/
structure Command where
  id : Nat
  tag : Tag
  deriving DecidableEq, Repr

/-- The connection. `answered` and `returned` are histories: the replies the
firmware sent and the texts that exchanges returned, by the number of the
exchange. -/
structure State where
  link : CliLinkState
  firmwareVerCode : Option Nat
  exchange : Option Exchange
  outstanding : List Command
  answered : List (Nat × List Char)
  returned : List (Nat × List Char)
  nextId : Nat

/-- Allocates a tag and sends the command; no other task runs in between. -/
def start (s : State) (caller : Caller) : State :=
  match allocateTag s.firmwareVerCode s.link with
  | (link, none) => { s with link, exchange := none }
  | (link, some tag) =>
    { s with
      link
      exchange := some ⟨s.nextId, tag, caller, none, false⟩
      outstanding := ⟨s.nextId, tag⟩ :: s.outstanding
      nextId := s.nextId + 1 }

def valueOf (text : List Char) : List Char :=
  if "> ".toList.isPrefixOf text then text.drop 2 else text

/-- The `finally` block of `_exchange`. -/
def leave (s : State) (exchange : Exchange) (matched : Bool) : State :=
  { s with
    exchange := none
    link := if matched then s.link else s.link.quarantine exchange.tag }

/-- The result that `_probe` records for a conclusive outcome. -/
def probed (s : State) (capabilities : CliCapabilities) : State :=
  { s with link := { s.link with capabilities := some capabilities } }

/-- The exchange returns `outcome` to its caller. -/
def conclude (s : State) (exchange : Exchange) (outcome : ExchangeOutcome) : State :=
  match outcome, exchange.caller with
  | .reply text, .run =>
    { leave s exchange true with returned := (exchange.id, text) :: s.returned }
  | .reply text, .probe _ =>
    let wifi := valueOf text = "connected".toList ∨ valueOf text = "disconnected".toList
    probed { leave s exchange true with returned := (exchange.id, text) :: s.returned }
      ⟨true, .ok, wifi, s.firmwareVerCode⟩
  | .untagged, .probe _ => probed (leave s exchange false) ⟨false, .untagged, false, s.firmwareVerCode⟩
  | .unsupportedCmd, .probe _ =>
    probed (leave s exchange false) ⟨false, .unsupportedCmd, false, s.firmwareVerCode⟩
  -- a probe tries once more, with a new tag
  | .timeout, .probe 0 => start (leave s exchange false) (.probe 1)
  | .timeout, .probe _ =>
    let left := leave s exchange false
    probed { left with link := { left.link with probeFailures := left.link.probeFailures + 1 } }
      ⟨false, .probeFailed, false, s.firmwareVerCode⟩
  | _, .run => leave s exchange false

/-- Whether a cached probe result refuses every later `run`. -/
def sticky (link : CliLinkState) : Bool :=
  match link.capabilities with
  | some ⟨_, .untagged, _, _⟩ => true
  | some ⟨_, .unsupportedCmd, _, _⟩ => true
  | some ⟨_, .linkUnreliable, _, _⟩ => true
  | _ => false

inductive Event where
  /-- `run` in a session that holds the radio lock. -/
  | run
  /-- `capabilities` decides to probe. -/
  | probe
  /-- The firmware's reply to the command of an exchange arrives. -/
  | answer (id : Nat) (body : List Char)
  /-- A reply without a tag arrives. -/
  | untagged (text : List Char)
  /-- An `ERROR` event of code 1 arrives. -/
  | refused
  /-- The exchange wakes up and finds its reply. -/
  | wake
  /-- The deadline passes without a reply. -/
  | deadline
  /-- Cancellation, or an error of the transport, at any await. -/
  | abort
  | resetCliProbe

/-- The event loop's delivery of one reply text to the subscribed handler. -/
def deliver (s : State) (text : List Char) : State :=
  { s with exchange := s.exchange.map (onReply · text) }

def step (s : State) : Event → Option State
  | .run =>
    if s.exchange.isSome then none
    else if sticky s.link then some s
    else some (start s .run)
  | .probe => if s.exchange.isSome then none else some (start s (.probe 0))
  | .answer id body =>
    match s.outstanding.find? (·.id = id) with
    | none => none
    | some command =>
      some (deliver { s with
        outstanding := s.outstanding.filter (·.id ≠ id)
        answered := (id, body) :: s.answered } (command.tag ++ '|' :: body))
  | .untagged text => if taggedReply text then none else some (deliver s text)
  | .refused => some { s with exchange := s.exchange.map onError }
  | .wake =>
    match s.exchange with
    | some exchange => exchange.reply.map (conclude s exchange)
    | none => none
  | .deadline =>
    match s.exchange with
    | some exchange =>
      if exchange.reply.isSome then none
      else if exchange.refused && exchange.caller.isProbe then
        some (conclude s exchange .unsupportedCmd)
      else some (conclude s exchange .timeout)
    | none => none
  | .abort => s.exchange.map (leave s · false)
  | .resetCliProbe => some { s with link := s.link.resetProbe }

/-- A fresh connection: any tag may be the first one. -/
structure Initial (s : State) : Prop where
  quarantined : s.link.quarantined = ∅
  exchange : s.exchange = none
  outstanding : s.outstanding = []
  answered : s.answered = []
  returned : s.returned = []

end Meshloom.CompanionCli
