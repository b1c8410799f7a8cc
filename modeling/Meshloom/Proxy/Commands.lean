import Meshloom.Bytes
import Meshloom.Dict
import Meshloom.Exchange
import Meshloom.Proxy.SendText
import Meshloom.Text

/-! The commands of a radio-proxy client (`_handle_command` in `app/radio_proxy/manager.py`) and
what they do to its session. Each await is an exchange with the host or a write to the client;
the host may raise, and the connection may be lost for good or the session closed. -/
namespace Meshloom.ProxyCommands
open Bytes Exchange Program Text Utf8

/-- The commands that the proxy knows. Their codes are those of the companion protocol. -/
inductive CommandType where
  | appStart | sendTxtMsg | sendChannelTxtMsg | getContacts | getDeviceTime | setDeviceTime
  | addUpdateContact | syncNextMessage | resetPath | removeContact | getBattAndStorage
  | deviceQuery | exportPrivateKey | hasConnection | getContactByKey | getChannel | setChannel
  deriving DecidableEq

inductive CommandDisposition where
  | virtualize | send | disabled | error
  deriving DecidableEq

def classifyCommand : Option CommandType → CommandDisposition
  | none => .error
  | some .exportPrivateKey => .disabled
  | some .sendTxtMsg | some .sendChannelTxtMsg => .send
  | some _ => .virtualize

structure OverlayContact where
  publicKey : List Char
  name : List Char
  contactType : UInt8
  deriving DecidableEq

/-- A contact of the host; its coordinates are none when one is no finite number. -/
structure HostContact where
  publicKey : List Char
  type : Int
  flags : Int
  name : Option (List Char)
  directPath : Option (List Char)
  directPathLen : Int
  directPathHashMode : Int
  lastAdvert : Option Int
  lastSeen : Option Int
  microdegrees : Option (Int × Int)

structure HostChannel where
  key : List Char
  name : List Char
  pending : Bool

/-- A frame to the client. -/
inductive Frame where
  | ok
  | error
  | disabled
  | noMoreMsgs
  | selfInfo (payload : List UInt8)
  | deviceInfo (payload : List UInt8)
  | currentTime (now : Int)
  | battery (payload : List UInt8)
  | contactStart (count : Nat)
  | contact (publicKey : List UInt8) (type flags : Int) (path : Option (List UInt8 × Int × Int))
      (name : List Char) (lastAdvert lat lon lastmod : Int)
  | contactEnd (mostRecentLastmod : Int)
  | channelInfo (channelIdx : Nat) (name : List Char) (secret : List UInt8)
  | contactMsgRecv (payload : List UInt8)
  | channelMsgRecv (channelIdx : Nat) (text : List Char) (senderTimestamp : Int)
  | msgSent (expectedAck : List UInt8) (suggestedTimeoutMs : Int)
  deriving DecidableEq

inductive QueuedMessage where
  | dm (frame : List UInt8)
  | chan (channelKey : List Char) (text : List Char) (senderTimestamp : Int)

structure Session where
  slots : Dict Nat (List Char)
  cleared : Finset Nat
  added : Dict (List Char) OverlayContact
  hidden : Finset (List Char)
  messageQueue : List QueuedMessage

structure Client where
  session : Session
  closed : Bool
  connected : Bool
  written : List Frame

inductive Failure where
  | http | ambiguousPrefix | other
  deriving DecidableEq

structure SendResult where
  expectedAck : Option (List Char)
  suggestedTimeoutMs : Int

/-- What happens at one await: the answer of each call it could be for. -/
structure Outcome where
  /-- The call raises. -/
  raises : Option Failure
  /-- The proxy stops and closes the session. -/
  stops : Bool
  /-- The connection is lost, for a write. -/
  lost : Bool
  selfInfo : Option (List UInt8)
  deviceInfo : List UInt8
  battery : List UInt8
  now : Int
  radioConnected : Bool
  contacts : List HostContact
  byPrefix : Option HostContact
  channels : List HostChannel
  channel : Option HostChannel
  sent : SendResult

abbrev Handler := Program Client Outcome Failure

def Client.after (client : Client) (outcome : Outcome) : Client :=
  { client with closed := client.closed || outcome.stops }

/-- A call of the host. -/
def ask {α : Type} (answer : Outcome → α) : Handler α := exchange fun outcome client =>
  (match outcome.raises with
    | some failure => .error failure
    | none => .ok (answer outcome),
    client.after outcome)

/-- `session.write_response`: nothing once the session is closed; a lost connection stays lost. -/
def writeResponse (frame : Frame) : Handler Unit := exchange fun outcome client =>
  let client := client.after outcome
  if client.closed then (.ok (), client)
  else if outcome.lost || !client.connected then (.error .other, { client with connected := false })
  else (.ok (), { client with written := client.written ++ [frame] })

def session : Handler Session := inspect Client.session

def change (f : Session → Session) : Handler Unit :=
  update fun client => { client with session := f client.session }

def valid {α : Type} : Option α → Handler α
  | some a => pure a
  | none => raise .other

section Parsers

/-- `payload[start:stop].split(b"\x00", 1)[0].decode("utf-8", "replace")`. -/
def fixedText (payload : List UInt8) (start stop : Nat) : List Char :=
  decodeReplace (((payload.take stop).drop start).takeWhile (· ≠ 0))

structure SetChannelCommand where
  channelIdx : Nat
  name : List Char
  secret : List UInt8

def parseSetChannel (payload : List UInt8) : Option SetChannelCommand :=
  if payload.length < 50 then none
  else some ⟨(payload.getD 1 0).toNat, fixedText payload 2 34, (payload.take 50).drop 34⟩

structure AddContactCommand where
  publicKey : List UInt8
  contactType : UInt8
  name : List Char

def parseAddContact (payload : List UInt8) : Option AddContactCommand :=
  if payload.length < 35 then none
  else some ⟨(payload.take 33).drop 1, payload.getD 33 0,
    if payload.length ≥ 131 then fixedText payload 99 131 else []⟩

def parseGetChannelIdx (payload : List UInt8) : Option Nat :=
  if payload.length < 2 then none else some (payload.getD 1 0).toNat

def parseRemoveContactKey (payload : List UInt8) : Option (List UInt8) :=
  if payload.length < 33 then none else some ((payload.take 33).drop 1)

def parseGetContactsSince (payload : List UInt8) : Nat :=
  if payload.length ≥ 5 then fromLittleEndian ((payload.take 5).drop 1) else 0

structure SendChanCommand where
  channelIdx : Nat
  text : List Char

def parseSendChan (payload : List UInt8) : Option SendChanCommand :=
  if payload.length < 8 then none
  else some ⟨(payload.getD 2 0).toNat, decodeReplace (payload.drop 7)⟩

end Parsers

section Keys

/-- `_hex_key` of bytes. -/
def hexKey (value : List UInt8) : List Char := toHex value

def keyBytes (key : List Char) : Option (List UInt8) :=
  (fromHex key).filter fun raw => raw.length = 32

def channelSecret (key : List Char) : Option (List UInt8) :=
  (fromHex key).filter fun raw => raw.length = 16

/-- Of hexadecimal digits, so that `upper()` is that of ASCII; so it is wherever keys are compared. -/
def channelKeyFromSecret (secret : List UInt8) : List Char := (toHex secret).map Char.toUpper

def isEmptyChannelSecret (secret : List UInt8) : Bool := secret.all (· = 0)

def publicChannelKey : List Char := "8B3387E9C5CDEA6AC9E5EDBAA115CD72".toList

/-- `is_public_channel_key`. -/
def isPublicChannelKey (key : List Char) : Bool := key.map Char.toUpper = publicChannelKey

def projectHostChannels (channels : List HostChannel) : List HostChannel :=
  let visible := channels.filter fun ch => !ch.pending
  let shared := visible.filter fun ch => isPublicChannelKey ch.key
  let rest := (visible.filter fun ch => !isPublicChannelKey ch.key).mergeSort fun a b =>
    !decide (b.key.map Char.toUpper < a.key.map Char.toUpper)
  match shared with
  | first :: _ => first :: rest
  | [] => rest

end Keys

section Encoders

def fits (width : Nat) (value : Int) : Bool := 0 ≤ value && value < 2 ^ (8 * width)

def fitsSigned (value : Int) : Bool := -2 ^ 31 ≤ value && value < 2 ^ 31

/-- The frame of a host contact, unless a conversion raises. -/
def hostContactFrame (contact : HostContact) (lastmod : Int) : Option Frame := do
  let path ← match contact.directPath with
    | none | some [] => some []
    | some path => fromHex path
  let publicKey ← keyBytes contact.publicKey
  let (lat, lon) ← contact.microdegrees
  let lastAdvert := contact.lastAdvert.getD 0
  if fits 4 lastAdvert && fitsSigned lat && fitsSigned lon && fits 4 lastmod then
    some (.contact publicKey contact.type contact.flags
      (if contact.directPathLen < 0 then none
        else some (path, contact.directPathLen, max contact.directPathHashMode 0))
      (contact.name.getD []) lastAdvert lat lon lastmod)
  else none

def overlayContactFrame (contact : OverlayContact) : Option Frame := do
  let publicKey ← keyBytes contact.publicKey
  some (.contact publicKey contact.contactType.toNat 0 none contact.name 0 0 0 0)

/-- `contact.last_seen or contact.last_advert or 0`. -/
def HostContact.lastmod (contact : HostContact) : Int :=
  match contact.lastSeen.filter (· ≠ 0) with
  | some seen => seen
  | none => contact.lastAdvert.getD 0

def msgSentFrame (expectedAck : List UInt8) (timeoutMs : Int) : Option Frame :=
  if fits 4 timeoutMs then some (.msgSent expectedAck timeoutMs) else none

end Encoders

section Contacts

/-- `_visible_contacts` of the host's contacts: those that are not hidden, by key, then the
contacts of the session that the host has not. -/
def visibleContacts (session : Session) (host : List HostContact) :
    List (HostContact ⊕ OverlayContact) :=
  let visible := host.foldl (fun (visible : Dict (List Char) HostContact) contact =>
    let key := contact.publicKey.map Char.toLower
    if key.length ≠ 64 ∨ key ∈ session.hidden then visible else visible.set key contact) .empty
  let extras := session.added.entries.filter fun entry =>
    entry.1 ∉ session.hidden ∧ visible.get? entry.1 = none
  visible.entries.map (.inl ·.2) ++ extras.map (.inr ·.2)

/-- The frames of the contacts from a time on, and the latest time of the host's. -/
def contactFrames (since : Nat) : List (HostContact ⊕ OverlayContact) → Option (List Frame × Int)
  | [] => some ([], 0)
  | .inl contact :: rest =>
    if since ≠ 0 ∧ contact.lastmod < since then contactFrames since rest
    else do
      let frame ← hostContactFrame contact contact.lastmod
      let (frames, latest) ← contactFrames since rest
      some (frame :: frames, max latest contact.lastmod)
  | .inr contact :: rest =>
    if since ≠ 0 then contactFrames since rest
    else do
      let frame ← overlayContactFrame contact
      let (frames, latest) ← contactFrames since rest
      some (frame :: frames, latest)

def writeAll : List Frame → Handler Unit
  | [] => pure ()
  | frame :: rest => do
    writeResponse frame
    writeAll rest

def writeContacts (since : Nat) : Handler Unit := do
  let host ← ask Outcome.contacts
  let current ← session
  let (encoded, latest) ← valid (contactFrames since (visibleContacts current host))
  writeAll (.contactStart encoded.length :: encoded ++ [.contactEnd latest])

def writeContactByKey (payload : List UInt8) : Handler Unit :=
  if payload.length < 33 then writeResponse .error
  else do
    let key := hexKey ((payload.take 33).drop 1)
    let host ← ask Outcome.contacts
    let current ← session
    match (visibleContacts current host).find? fun contact =>
        (contact.elim HostContact.publicKey OverlayContact.publicKey).map Char.toLower = key with
    | none => writeResponse .error
    | some (.inl contact) => valid (hostContactFrame contact contact.lastmod) >>= writeResponse
    | some (.inr contact) => valid (overlayContactFrame contact) >>= writeResponse

def addUpdateContact (payload : List UInt8) : Handler Unit := do
  let parsed ← valid (parseAddContact payload)
  let key := hexKey parsed.publicKey
  change fun session => { session with
    hidden := session.hidden.erase key
    added := session.added.set key ⟨key, parsed.name, parsed.contactType⟩ }
  writeResponse .ok

def removeContact (payload : List UInt8) : Handler Unit := do
  let publicKey ← valid (parseRemoveContactKey payload)
  let key := hexKey publicKey
  change fun session => { session with
    added := session.added.pop key, hidden := insert key session.hidden }
  writeResponse .ok

end Contacts

section Channels

def noChannel (channelIdx : Nat) : Frame := .channelInfo channelIdx [] (List.replicate 16 0)

/-- The stored channel of an occupied slot. -/
def storedChannelInfo (idx : Nat) : Handler Frame := do
  match ← ask Outcome.channel with
  | none => pure (noChannel idx)
  | some channel => do
    let secret ← valid (channelSecret channel.key)
    pure (.channelInfo idx channel.name secret)

/-- The channel that the host has for a slot, which fills it. -/
def hostChannelInfo (idx : Nat) : Handler Frame := do
  let channels ← ask fun outcome => projectHostChannels outcome.channels
  match channels[idx]? with
  | none => pure (noChannel idx)
  | some channel => do
    change fun session => { session with
      slots := session.slots.set idx (channel.key.map Char.toUpper) }
    let secret ← valid (channelSecret channel.key)
    pure (.channelInfo idx channel.name secret)

def channelInfo (idx : Nat) : Handler Frame := do
  let current ← session
  if idx ∈ current.cleared then pure (noChannel idx)
  else if (current.slots.get? idx).isSome then storedChannelInfo idx
  else hostChannelInfo idx

def getChannel (payload : List UInt8) : Handler Unit := do
  let idx ← valid (parseGetChannelIdx payload)
  let frame ← channelInfo idx
  writeResponse frame

def SetChannelCommand.empty (parsed : SetChannelCommand) : Bool :=
  strip parsed.name = [] || isEmptyChannelSecret parsed.secret

def setChannel (payload : List UInt8) : Handler Unit := do
  let parsed ← valid (parseSetChannel payload)
  if parsed.empty then do
    change fun session => { session with
      slots := session.slots.pop parsed.channelIdx
      cleared := insert parsed.channelIdx session.cleared }
    writeResponse .ok
  else do
    change fun session => { session with
      cleared := session.cleared.erase parsed.channelIdx
      slots := session.slots.set parsed.channelIdx (channelKeyFromSecret parsed.secret) }
    -- `adopt_channel_record`
    ask fun _ => ()
    writeResponse .ok

end Channels

section Messages

/-- `dequeue_message` on the queue: messages of channels without a slot are dropped. -/
def dequeue (slots : Dict Nat (List Char)) :
    List QueuedMessage → Option Frame × List QueuedMessage
  | [] => (none, [])
  | .dm frame :: rest => (some (.contactMsgRecv frame), rest)
  | .chan channelKey text timestamp :: rest =>
    match slots.entries.find? fun entry =>
        entry.2.map Char.toUpper = channelKey.map Char.toUpper with
    | none => dequeue slots rest
    | some (idx, _) => (some (.channelMsgRecv idx text timestamp), rest)

def syncNextMessage : Handler Unit := do
  let current ← session
  let (frame, rest) := dequeue current.slots current.messageQueue
  change fun session => { session with messageQueue := rest }
  writeResponse (frame.getD .noMoreMsgs)

/-- `_resolve_dest`: an ambiguous prefix resolves to nothing. -/
def resolveDest (dest : List UInt8) : Handler (Option (HostContact ⊕ OverlayContact)) := do
  let start := hexKey dest
  let before ← session
  let overlayHits := (before.added.entries.map Prod.snd).filter fun item =>
    start <+: item.publicKey ∧ item.publicKey ∉ before.hidden
  recover (do
    let host ← ask Outcome.byPrefix
    let current ← session
    let host := host.filter fun host => host.publicKey.map Char.toLower ∉ current.hidden
    match overlayHits, host with
    | first :: rest, some host =>
      if first.publicKey ≠ host.publicKey.map Char.toLower ∨ rest ≠ [] then pure none
      else pure (some (.inl host))
    | [], some host => pure (some (.inl host))
    | [hit], none => pure (some (.inr hit))
    | _, none => pure none)
    fun failure => if failure = .ambiguousPrefix then pure none else raise failure

/-- The part of `_send_direct` under its `try`, with `none` for an `HTTPException`. -/
def unlessHttp {α : Type} (program : Handler α) : Handler (Option α) :=
  recover (do pure (some (← program)))
    fun failure => if failure = .http then pure none else raise failure

def sendDirect (payload : List UInt8) : Handler Unit := do
  let parsed ← valid (SendText.parseSendTxt payload).toOption
  if parsed.txtType ≠ 0 then writeResponse .error
  else
    match ← resolveDest parsed.dest with
    | none | some (.inr _) => writeResponse .error
    | some (.inl _) => do
      match ← unlessHttp (ask Outcome.sent) with
      | none => writeResponse .error
      | some result => do
        let ack ← valid (match result.expectedAck with
          | none | some [] => some (List.replicate 4 0)
          | some code => fromHex code)
        let frame ← valid (msgSentFrame ack result.suggestedTimeoutMs)
        writeResponse frame

def sendChannel (payload : List UInt8) : Handler Unit := do
  let parsed ← valid (parseSendChan payload)
  let current ← session
  match current.slots.get? parsed.channelIdx with
  | none | some [] => writeResponse .error
  | some _ => do
    match ← ask Outcome.channel with
    | none => writeResponse .error
    | some channel => do
      match ← unlessHttp (do
          let _ ← valid (channelSecret channel.key)
          ask fun _ => ()) with
      | none => writeResponse .error
      | some () => writeResponse .ok

end Messages

section Dispatch

def handleVirtual (command : CommandType) (payload : List UInt8) : Handler Unit :=
  match command with
  | .appStart => do
    match ← ask Outcome.selfInfo with
    | none => writeResponse .error
    | some frame => writeResponse (.selfInfo frame)
  | .deviceQuery => do
    let frame ← ask Outcome.deviceInfo
    writeResponse (.deviceInfo frame)
  | .getDeviceTime => do
    let now ← ask Outcome.now
    writeResponse (.currentTime now)
  | .setDeviceTime => writeResponse .ok
  | .getBattAndStorage => do
    let frame ← ask Outcome.battery
    writeResponse (.battery frame)
  | .hasConnection => do
    let connected ← ask Outcome.radioConnected
    writeResponse (if connected then .ok else .error)
  | .resetPath => writeResponse .ok
  | .getContacts => writeContacts (parseGetContactsSince payload)
  | .getContactByKey => writeContactByKey payload
  | .addUpdateContact => addUpdateContact payload
  | .removeContact => removeContact payload
  | .getChannel => getChannel payload
  | .setChannel => setChannel payload
  | .syncNextMessage => syncNextMessage
  | .sendTxtMsg | .sendChannelTxtMsg | .exportPrivateKey => writeResponse .error

def handleSend (command : CommandType) (payload : List UInt8) : Handler Unit := do
  let connected ← ask Outcome.radioConnected
  if !connected then writeResponse .error
  else
    match command with
    | .sendTxtMsg => sendDirect payload
    | .sendChannelTxtMsg => sendChannel payload
    | _ => writeResponse .error

/-- `commandType` tells the command of a code. -/
def handleCommand (commandType : UInt8 → Option CommandType) : List UInt8 → Handler Unit
  | [] => writeResponse .error
  | code :: rest =>
    recover
      (match commandType code with
        | none => writeResponse .error
        | some command =>
          match classifyCommand (some command) with
          | .disabled => writeResponse .disabled
          | .error => writeResponse .error
          | .send => handleSend command (code :: rest)
          | .virtualize => handleVirtual command (code :: rest))
      fun _ => writeResponse .error

end Dispatch

end Meshloom.ProxyCommands
