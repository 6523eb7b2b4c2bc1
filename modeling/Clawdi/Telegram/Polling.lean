import Clawdi.SessionEvents.Canonical
import Clawdi.Lib.Inbox
import Clawdi.Lib.Transition

namespace Clawdi.Telegram
open List
open SessionEvents (JsonValue)

abbrev Uuid := String
abbrev JsonObject := List (String × JsonValue)

inductive Direction
  | inbound | outbound
  deriving DecidableEq

inductive ProviderEventScope
  | account | chat
  deriving DecidableEq

structure ChannelMessage where
  inboxSequence : Nat
  accountId : Uuid
  botAgentLinkId : Option Uuid
  bindingId : Option Uuid
  userId : Uuid
  direction : Direction
  externalChatId : String
  providerEventId : Option String
  providerEventScope : ProviderEventScope
  payload : JsonValue
  createdAt : Int
  deliveredAt : Option Int

structure ChannelBinding where
  id : Uuid
  accountId : Uuid
  botAgentLinkId : Uuid
  userId : Uuid
  status : String

structure ChannelBotAgentLink where
  id : Uuid
  accountId : Uuid
  status : String
  archivedAt : Option Int

structure ChannelAccount where
  id : Uuid
  status : String
  archivedAt : Option Int

structure Scopes where
  bindings : List ChannelBinding
  links : List ChannelBotAgentLink
  accounts : List ChannelAccount

def digits? (text : String) : Option Nat :=
  if text.toList ≠ [] ∧ text.toList.all Char.isDigit then
    some (text.toList.foldl (fun v digit => v * 10 + (digit.toNat - '0'.toNat)) 0)
  else none

def members : JsonValue → JsonObject
  | .object members => members
  | _ => []

variable (name : String) (msg : ChannelMessage) (payload : JsonObject) (v : JsonValue) (obj : JsonObject)

def telegramUpdateId : Int :=
  match (members msg.payload).lookup "update_id" with
  | some (.int updateId) => updateId
  | some (.bool updateId) => if updateId then 1 else 0
  | some (.text updateId) => ((digits? updateId).map Int.ofNat).getD msg.inboxSequence
  | _ => msg.inboxSequence

def setMember : JsonObject :=
  if (obj.lookup name).isSome then
    obj.map fun mem => if mem.1 = name then (name, v) else mem
  else obj ++ [(name, v)]

def setDefault : JsonObject :=
  if (obj.lookup name).isSome then obj else obj ++ [(name, v)]

def directMessagesTopicId (msg : JsonObject) : Option Int :=
  match msg.lookup "chat", msg.lookup "direct_messages_topic" with
  | some (.object chat), some (.object topic) =>
    match chat.lookup "type", chat.lookup "is_direct_messages", topic.lookup "topic_id" with
    | some (.text "supergroup"), some (.bool true), some (.int topicId) =>
      if topicId ≤ 0 then none else some topicId
    | _, _, _ => none
  | _, _ => none

def virtualizedTelegramDirectMessage (msg : JsonObject) : JsonObject :=
  match directMessagesTopicId msg with
  | none => msg
  | some topicId =>
    setMember "is_topic_message" (.bool true)
      (setDefault "message_thread_id" (.int topicId) msg)

def virtualizeMember : JsonObject :=
  match payload.lookup name with
  | some (.object msg) => setMember name (.object (virtualizedTelegramDirectMessage msg)) payload
  | _ => payload

def virtualizeTelegramDirectMessageTopics : JsonObject :=
  let msgs := virtualizeMember "edited_message" (virtualizeMember "message" payload)
  match msgs.lookup "callback_query" with
  | some (.object callbackQuery) =>
    match callbackQuery.lookup "message" with
    | some (.object _) => setMember "callback_query" (.object (virtualizeMember "message" callbackQuery)) msgs
    | _ => msgs
  | _ => msgs

def telegramUpdatePayload : JsonObject :=
  virtualizeTelegramDirectMessageTopics
    (setDefault "update_id" (.int (telegramUpdateId msg)) (members msg.payload))

def telegramUpdateAllowed (update : JsonObject) (allowedUpdates : List String) : Bool :=
  allowedUpdates = [] || allowedUpdates.any fun updateType => (update.lookup updateType).isSome

def telegramUpdateRetention : Int := 24 * 60 * 60 * 1000000

structure Reader where
  accountId : Uuid
  botAgentLinkId : Option Uuid

variable (reader : Reader) (verdicts : List (ChannelMessage × Verdict)) (scopes : Scopes)
variable (msg : ChannelMessage) (now : Int) (msgs : List ChannelMessage)

def pending : Bool :=
  msg.accountId = reader.accountId && msg.direction = .inbound && msg.bindingId.isSome && msg.deliveredAt.isNone &&
    reader.botAgentLinkId.all fun linkId => msg.botAgentLinkId = some linkId

def joined : Bool :=
  (scopes.bindings.any fun bind =>
    msg.bindingId = some bind.id && bind.accountId = msg.accountId &&
      msg.botAgentLinkId = some bind.botAgentLinkId && bind.userId = msg.userId &&
      bind.status = "active") &&
  (scopes.links.any fun link =>
    msg.botAgentLinkId = some link.id && link.accountId = msg.accountId &&
      link.status = "active" && link.archivedAt.isNone) &&
  scopes.accounts.any fun acct =>
    acct.id = msg.accountId && acct.status = "active" && acct.archivedAt.isNone

def readable : Bool := pending reader msg && joined scopes msg

def inboxOrder (first snd : ChannelMessage) : Bool :=
  first.inboxSequence < snd.inboxSequence ||
    (first.inboxSequence = snd.inboxSequence && first.createdAt ≤ snd.createdAt)

def ChannelMessage.delivered : ChannelMessage :=
  { msg with deliveredAt := some now }

def expirePending : List ChannelMessage :=
  msgs.map fun msg =>
    if pending reader msg ∧ msg.createdAt < now - telegramUpdateRetention then
      msg.delivered now
    else msg

inductive Verdict
  | acknowledged | disallowed | returned
  deriving DecidableEq

structure Poll where
  offset : Option Int
  limit : Nat
  allowedUpdates : List String
  now : Int

def Poll.verdict (poll : Poll) (msg : ChannelMessage) : Verdict :=
  if poll.offset.any fun offset => telegramUpdateId msg < offset then .acknowledged
  else if poll.allowedUpdates ≠ [] ∧
      ¬telegramUpdateAllowed (telegramUpdatePayload msg) poll.allowedUpdates then .disallowed
  else .returned

def Poll.scan (poll : Poll) : Nat → List ChannelMessage → List (ChannelMessage × Verdict)
  | _, [] => []
  | collected, msg :: msgs =>
    match poll.verdict msg with
    | .returned =>
      (msg, .returned) ::
        if poll.limit ≤ collected + 1 then [] else poll.scan (collected + 1) msgs
    | verdict => (msg, verdict) :: poll.scan collected msgs

def Poll.fetched (poll : Poll) (reader : Reader) (scopes : Scopes) (msgs : List ChannelMessage) :
    List ChannelMessage :=
  ((msgs.filter (readable reader scopes)).insertionSort fun first snd =>
    inboxOrder first snd).take (max (poll.limit * 4) poll.limit)

structure ChannelInboxPage where
  items : List JsonObject
  progressed : Bool

/-- The rows of the loop with what became of each, the page, and the table after the poll. -/
structure Dequeued where
  messages : List ChannelMessage
  verdicts : List (ChannelMessage × Verdict)
  page : ChannelInboxPage

def consumed : Bool := verdicts.any fun e => e.1.inboxSequence = msg.inboxSequence && e.2 ≠ .returned

def withVerdict (verdict : Verdict) (verdicts : List (ChannelMessage × Verdict)) : List ChannelMessage :=
  (verdicts.filter fun e => e.2 = verdict).map Prod.fst

def dequeueTelegramUpdates (poll : Poll) (msgs : List ChannelMessage) : Dequeued :=
  let left := expirePending reader poll.now msgs
  let verdicts := poll.scan 0 (poll.fetched reader scopes left)
  { messages := left.map fun msg =>
      if consumed verdicts msg then msg.delivered poll.now else msg
    verdicts
    page :=
      { items := (withVerdict .returned verdicts).map telegramUpdatePayload
        progressed := verdicts.any fun e => e.2 ≠ .returned } }

def dropPendingTelegramUpdates : List ChannelMessage :=
  msgs.map fun msg => if pending reader msg then msg.delivered now else msg

def sameProviderEvent (old : ChannelMessage) : Bool :=
  msg.providerEventId.isSome && old.accountId = msg.accountId &&
    old.direction = .inbound && old.providerEventScope = msg.providerEventScope &&
    old.providerEventId = msg.providerEventId &&
    (msg.providerEventScope = .account || old.externalChatId = msg.externalChatId)

open Transition

/-- The committed and open messages, and for the property what was returned, received and consumed. -/
structure World where
  messages : List ChannelMessage
  inserting : List ChannelMessage
  nextSequence : Nat
  returned : List ChannelMessage
  received : List ChannelMessage
  unseen : List ChannelMessage

def World.new : World :=
  { messages := [], inserting := [], nextSequence := 1, returned := [], received := [], unseen := [] }

def World.offset (w : World) : Option Int := (w.received.map telegramUpdateId).max?.map (· + 1)

inductive Action
  | insert (msg : ChannelMessage)
  | commit (inboxSequence : Nat)
  | rollback (inboxSequence : Nat)
  | poll (limit : Nat) (allowedUpdates : List String) (now : Int) (arrives : Bool)
  | expire (now : Int)
  | drop (now : Int)

def World.commit (w : World) (inboxSequence : Nat) : World :=
  { w with
    messages := w.messages ++ w.inserting.filter fun msg => msg.inboxSequence = inboxSequence
    inserting := w.inserting.filter fun msg => msg.inboxSequence ≠ inboxSequence }

variable (reader : Reader) (scopes : Scopes) (w : World) (limit : Nat) (allowedUpdates : List String)

def World.dequeue (now : Int) : Dequeued :=
  dequeueTelegramUpdates reader scopes { offset := w.offset, limit, allowedUpdates, now } w.messages

def World.poll (now : Int) (arrives : Bool) : World :=
  let res := w.dequeue reader scopes limit allowedUpdates now
  let page := withVerdict .returned res.verdicts
  { w with
    messages := res.messages
    returned := w.returned ++ page
    received := if arrives then w.received ++ page else w.received
    unseen := w.unseen ++
      (withVerdict .acknowledged res.verdicts).filter fun msg =>
        msg.inboxSequence ∉ w.returned.map ChannelMessage.inboxSequence }

def step (reader : Reader) (scopes : Scopes) (w : World) : Action → World
  | .insert msg =>
    if (w.messages ++ w.inserting).any (sameProviderEvent msg) then w
    else
      { w with
        inserting := w.inserting ++ [{ msg with inboxSequence := w.nextSequence, deliveredAt := none }]
        nextSequence := w.nextSequence + 1 }
  | .commit inboxSequence => w.commit inboxSequence
  | .rollback inboxSequence =>
    { w with
      inserting := w.inserting.filter fun msg => msg.inboxSequence ≠ inboxSequence }
  | .poll limit allowedUpdates now arrives => w.poll reader scopes limit allowedUpdates now arrives
  | .expire now => { w with messages := expirePending reader now w.messages }
  | .drop now => { w with messages := dropPendingTelegramUpdates reader now w.messages }

abbrev Agree (first snd : ChannelMessage) : Prop :=
  (first.inboxSequence < snd.inboxSequence → telegramUpdateId first < telegramUpdateId snd) ∧
    (snd.inboxSequence < first.inboxSequence → telegramUpdateId snd < telegramUpdateId first)

/-- A committed row shows up above everything received, in line with the pending rows. -/
def Admitted : Action → Prop
  | .commit inboxSequence =>
    ∀ msg ∈ w.inserting, msg.inboxSequence = inboxSequence → readable reader scopes msg = true →
      (∀ seen ∈ w.received, telegramUpdateId seen < telegramUpdateId msg) ∧
        ∀ alt ∈ w.messages, readable reader scopes alt = true → Agree msg alt
  | _ => True

instance Admitted.decidable (reader : Reader) (scopes : Scopes) (w : World) :
    ∀ act, Decidable (Admitted reader scopes w act)
  | .commit inboxSequence =>
    inferInstanceAs (Decidable (∀ msg ∈ w.inserting, msg.inboxSequence = inboxSequence →
      readable reader scopes msg = true →
      (∀ seen ∈ w.received, telegramUpdateId seen < telegramUpdateId msg) ∧
        ∀ alt ∈ w.messages, readable reader scopes alt = true → Agree msg alt))
  | .insert _ => inferInstanceAs (Decidable True)
  | .rollback _ => inferInstanceAs (Decidable True)
  | .poll _ _ _ _ => inferInstanceAs (Decidable True)
  | .expire _ => inferInstanceAs (Decidable True)
  | .drop _ => inferInstanceAs (Decidable True)

section
variable (poll : Poll) (collected : Nat) (msgs : List ChannelMessage)

lemma scan_taken : (poll.scan collected msgs).map Prod.fst <+: msgs := by
  induction msgs generalizing collected with
  | nil => exact prefix_refl []
  | cons msg msgs ih =>
    rw [Poll.scan]
    split
    · split
      · exact prefix_cons_inj msg |>.mpr (List.nil_prefix)
      · exact (prefix_cons_inj msg).mpr (ih (collected + 1))
    · exact (prefix_cons_inj msg).mpr (ih collected)

lemma scan_verdict : ∀ e ∈ poll.scan collected msgs, e.2 = poll.verdict e.1 := by
  induction msgs generalizing collected with
  | nil => simp [Poll.scan]
  | cons msg msgs ih =>
    intro e mem
    rw [Poll.scan] at mem
    split at mem
    · rename_i decided
      rcases mem_cons.mp mem with rfl | mem
      · exact decided.symm
      · split at mem
        · cases mem
        · exact ih (collected + 1) e mem
    · rcases mem_cons.mp mem with rfl | mem
      · rfl
      · exact ih collected e mem

end
end Clawdi.Telegram
