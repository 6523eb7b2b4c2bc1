import Clawdi.SessionEvents.Canonical
import Clawdi.Lib.Transition

namespace Clawdi.WhatsApp
open SessionEvents (JsonValue)

abbrev Uuid := String
abbrev JsonObject := List (String × JsonValue)

inductive Direction
  | inbound | outbound
  deriving DecidableEq

structure ChannelMessage where
  inboxSequence : Nat
  accountId : Uuid
  botAgentLinkId : Option Uuid
  bindingId : Option Uuid
  direction : Direction
  externalChatId : String
  providerMessageId : Option String
  text : Option String
  payload : JsonValue
  createdAt : Int
  deliveredAt : Option Int

structure InboxPumpEvent where
  sequence : Nat
  externalChatId : String
  payload : JsonObject
  providerMessageId : Option String
  text : Option String

structure PreparedInboundDelivery where
  sequence : Nat
  messageId : String
  fromJid : String
  payload : JsonObject
  text : Option String
  participantJid : Option String
  senderLidJid : Option String
  senderPnJid : Option String
  participantLidJid : Option String
  participantPnJid : Option String
  pushName : Option String
  timestamp : Option Int

def isSpace (ch : Char) : Bool :=
  let code := ch.toNat
  (9 ≤ code && code ≤ 13) || (28 ≤ code && code ≤ 32) || code = 0x85 || code = 0xA0 ||
    code = 0x1680 || (0x2000 ≤ code && code ≤ 0x200A) || code = 0x2028 || code = 0x2029 ||
    code = 0x202F || code = 0x205F || code = 0x3000

def strip (text : String) : String :=
  String.ofList (((text.toList.dropWhile isSpace).reverse.dropWhile isSpace).reverse)

def optionalPayloadStr : Option JsonValue → Option String
  | some (.text v) => if strip v = "" then none else some (strip v)
  | _ => none

def endsWith (ending text : String) : Bool := ending.toList.isSuffixOf text.toList

def identityAliases (primary alternate : Option String) : Option String × Option String :=
  let cands := [primary, alternate].filterMap id
  (cands.find? (endsWith "@lid"), cands.find? (endsWith "@s.whatsapp.net"))

def messageTimestamp : Option JsonValue → Option Int
  | some (.int v) => if 0 < v then some v else none
  | _ => none

def prepareInboundDelivery (ev : InboxPumpEvent) : Except String PreparedInboundDelivery := do
  if ev.sequence ≤ 0 then
    throw "whatsapp inbox event sequence must be positive"
  let .some (.text "clawdi.whatsappBaileysProviderEvent.v1") := ev.payload.lookup "schemaVersion"
    | throw "whatsapp inbox event payload schema is invalid"
  let .some (.object key) := ev.payload.lookup "key"
    | throw "whatsapp inbox event key must be an object"
  let .some fromJid := optionalPayloadStr (key.lookup "remoteJid")
    | throw "whatsapp inbox event missing source jid"
  let providerMessageId := ev.providerMessageId.filter (· ≠ "")
  let .some messageId := providerMessageId <|> optionalPayloadStr (key.lookup "id")
    | throw "whatsapp inbox event missing message id"
  let remoteJidAlt := optionalPayloadStr (key.lookup "remoteJidAlt")
  let participantJid := optionalPayloadStr (key.lookup "participant")
  let participantAlt := optionalPayloadStr (key.lookup "participantAlt")
  let sender := identityAliases (some fromJid) remoteJidAlt
  let participant := identityAliases participantJid participantAlt
  return {
    sequence := ev.sequence
    messageId
    fromJid
    payload := ev.payload
    text := ev.text
    participantJid
    senderLidJid := sender.1
    senderPnJid := sender.2
    participantLidJid := participant.1
    participantPnJid := participant.2
    pushName := optionalPayloadStr (ev.payload.lookup "pushName")
    timestamp := messageTimestamp (ev.payload.lookup "messageTimestamp") }

structure Reader where
  accountId : Uuid
  botAgentLinkId : Uuid

def pending (reader : Reader) (msg : ChannelMessage) : Bool :=
  msg.accountId = reader.accountId && msg.direction = .inbound && msg.bindingId.isSome && msg.deliveredAt.isNone &&
    msg.botAgentLinkId = some reader.botAgentLinkId

def inboxOrder (first second : ChannelMessage) : Bool :=
  first.inboxSequence < second.inboxSequence ||
    (first.inboxSequence = second.inboxSequence && first.createdAt ≤ second.createdAt)

def members : JsonValue → JsonObject
  | .object members => members
  | _ => []

def ChannelMessage.event (msg : ChannelMessage) : InboxPumpEvent :=
  { sequence := msg.inboxSequence
    externalChatId := msg.externalChatId
    payload := members msg.payload
    providerMessageId := msg.providerMessageId
    text := msg.text }

/-- The rows of one fetch of `_wait_whatsapp_websocket_inbox`. -/
def waitInbox (reader : Reader) (afterSequence limit : Nat) (msgs : List ChannelMessage) : List ChannelMessage :=
  ((msgs.filter fun msg =>
      pending reader msg && afterSequence < msg.inboxSequence).insertionSort
    fun first second => inboxOrder first second).take limit

def ChannelMessage.delivered (msg : ChannelMessage) (now : Int) : ChannelMessage :=
  { msg with deliveredAt := some now }

def ackInbox (reader : Reader) (throughSequence : Nat) (now : Int)
    (msgs : List ChannelMessage) : List ChannelMessage :=
  msgs.map fun msg =>
    if pending reader msg ∧ msg.inboxSequence ≤ throughSequence then msg.delivered now
    else msg

structure InboxPumpResult where
  delivered : Nat
  ackedThrough : Option Nat
  errors : Nat

def InboxPumpResult.new : InboxPumpResult := { delivered := 0, ackedThrough := none, errors := 0 }

/-- Both calls work, `deliver` or a record before it raises, or only the record behind it. -/
inductive Push
  | delivered | failed | unrecorded
  deriving DecidableEq

def pushEvent (ev : InboxPumpEvent) (push : Push) (res : InboxPumpResult) : InboxPumpResult × Bool :=
  match prepareInboundDelivery ev with
  | .error _ => ({ res with errors := res.errors + 1, ackedThrough := some ev.sequence }, true)
  | .ok _ =>
    match push with
    | .delivered =>
      ({ res with
          delivered := res.delivered + 1, ackedThrough := some ev.sequence }, true)
    | .failed => ({ res with errors := res.errors + 1 }, false)
    | .unrecorded => ({ res with errors := res.errors + 1 }, false)

open Transition

/-- Where the loop of `run` stands: in the wait for the next page, or between two events of one. -/
inductive Pump
  | stopped
  | waiting (cursor : Nat)
  | working (cursor : Nat) (page : List InboxPumpEvent) (res : InboxPumpResult)

/-- The committed and open rows, the pump, and for the property what was delivered or rejected. -/
structure World where
  messages : List ChannelMessage
  inserting : List (Nat × ChannelMessage)
  nextSequence : Nat
  pump : Pump
  passed : List InboxPumpEvent
  rejected : List InboxPumpEvent

def World.new : World :=
  { messages := [], inserting := [], nextSequence := 1, pump := .stopped, passed := [], rejected := [] }

inductive Action
  | insert (tx : Nat) (msg : ChannelMessage)
  | commit (tx : Nat)
  | rollback (tx : Nat)
  | restart
  | stop
  | fetch (limit : Nat)
  | push (out : Push)
  | ack (now : Int)

def World.commit (w : World) (tx : Nat) : World :=
  { w with
    messages := w.messages ++ (w.inserting.filter fun e => e.1 = tx).map Prod.snd
    inserting := w.inserting.filter fun e => e.1 ≠ tx }

def World.fetch (reader : Reader) (limit : Nat) (w : World) : World :=
  match w.pump with
  | .waiting cursor =>
    { w with
      pump := .working cursor ((waitInbox reader cursor limit w.messages).map
        ChannelMessage.event) .new }
  | _ => w

def World.push (out : Push) (w : World) : World :=
  match w.pump with
  | .working cursor (ev :: page) res =>
    let next := pushEvent ev out res
    { w with
      pump := .working cursor (if next.2 then page else []) next.1
      passed :=
        if (prepareInboundDelivery ev).isOk ∧ out ≠ .failed then w.passed ++ [ev]
        else w.passed
      rejected :=
        if (prepareInboundDelivery ev).isOk then w.rejected else w.rejected ++ [ev] }
  | _ => w

def World.ack (reader : Reader) (now : Int) (w : World) : World :=
  match w.pump with
  | .working cursor [] res =>
    match res.ackedThrough with
    | none => { w with pump := .waiting cursor }
    | some through => { w with messages := ackInbox reader through now w.messages, pump := .waiting through }
  | _ => w

/-- An insert shows its row at the commit; the pump may stop anywhere and starts again from 0. -/
def step (reader : Reader) (w : World) : Action → World
  | .insert tx msg =>
    { w with
      inserting := w.inserting ++ [(tx, { msg with inboxSequence := w.nextSequence, deliveredAt := none })]
      nextSequence := w.nextSequence + 1 }
  | .commit tx => w.commit tx
  | .rollback tx => { w with inserting := w.inserting.filter fun e => e.1 ≠ tx }
  | .restart => { w with pump := .waiting 0 }
  | .stop => { w with pump := .stopped }
  | .fetch limit => w.fetch reader limit
  | .push out => w.push out
  | .ack now => w.ack reader now

/-- The cursor, what is about to be acknowledged and the rest of the page. -/
def Pump.taken : Pump → List Nat
  | .stopped => []
  | .waiting cursor => [cursor]
  | .working cursor page res => cursor :: (res.ackedThrough.toList ++ page.map InboxPumpEvent.sequence)

/-- The condition on a commit: the rows of the link that it shows lie above all that the pump has
taken. -/
def Admitted (reader : Reader) (w : World) : Action → Prop
  | .commit tx =>
    ∀ e ∈ w.inserting, e.1 = tx → pending reader e.2 = true → ∀ seq ∈ w.pump.taken, seq < e.2.inboxSequence
  | _ => True

instance Admitted.decidable (reader : Reader) (w : World) : ∀ act, Decidable (Admitted reader w act)
  | .commit tx =>
    inferInstanceAs (Decidable (∀ e ∈ w.inserting, e.1 = tx → pending reader e.2 = true →
        ∀ seq ∈ w.pump.taken, seq < e.2.inboxSequence))
  | .insert _ _ => inferInstanceAs (Decidable True)
  | .rollback _ => inferInstanceAs (Decidable True)
  | .restart => inferInstanceAs (Decidable True)
  | .stop => inferInstanceAs (Decidable True)
  | .fetch _ => inferInstanceAs (Decidable True)
  | .push _ => inferInstanceAs (Decidable True)
  | .ack _ => inferInstanceAs (Decidable True)

def World.CaughtUp (reader : Reader) (w : World) (cursor : Nat) : Prop :=
  w.pump = .waiting cursor ∧ ∀ limit, waitInbox reader cursor limit w.messages = []

end Clawdi.WhatsApp
