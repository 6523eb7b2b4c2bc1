import Clawdi.Lib.Table
import Clawdi.WhatsApp.Inbox
import Mathlib.Data.Prod.Lex
import Mathlib.Order.Lattice

namespace Clawdi.Pairing

inductive ChannelVisibility
  | isPrivate
  | isPublic
  deriving DecidableEq

structure ChannelAccount where
  id : Nat
  visibility : ChannelVisibility
  userId : Option Nat

structure ChannelBinding where
  id : Nat
  accountId : Nat
  botAgentLinkId : Nat
  userId : Nat
  externalChatId : String
  externalChatType : Option String
  externalChatName : Option String
  pairedExternalUserId : Option String
  active : Bool
  createdAt : Nat
  deriving DecidableEq

inductive PairCodeStatus
  | pending
  | claimed
  | revoked
  deriving DecidableEq

structure ChannelPairCode where
  codeHash : String
  accountId : Nat
  botAgentLinkId : Nat
  userId : Nat
  status : PairCodeStatus
  expiresAt : Nat
  claimedAt : Option Nat
  claimedExternalChatId : Option String
  claimedExternalUserId : Option String

inductive ProviderEventScope
  | account
  | chat
  deriving DecidableEq

structure ChannelMessage where
  accountId : Nat
  botAgentLinkId : Option Nat
  bindingId : Option Nat
  userId : Nat
  externalChatId : String
  providerEventId : Option String
  providerEventScope : ProviderEventScope
  delivered : Bool

inductive ChannelControlCommand
  | pair (code : String)
  | unpair
  | help
  | unknown
  deriving DecidableEq

abbrev Bindings := Table ChannelBinding.id
abbrev PairCodes := Table ChannelPairCode.codeHash

namespace ChannelBinding
variable (binding : ChannelBinding)

def controlledBy (actor : Option String) : Bool :=
  match binding.pairedExternalUserId with
  | none => actor.isNone
  | some paired => actor = some paired

def inChat (acct : ChannelAccount) (chat : String) : Bool :=
  binding.accountId = acct.id && binding.externalChatId = chat

def archived : ChannelBinding := { binding with active := false }

end ChannelBinding

def pairingCommandRequiresActor : Option String → Bool
  | none => false
  | some chatType => ¬(chatType.toLower = "private" ∨ chatType.toLower = "dm")

def requireChannelTenantUserId (acct : ChannelAccount) (tenant : Option Nat) : Option Nat :=
  match acct.visibility with
  | .isPrivate =>
    match acct.userId with
    | none => none
    | some user => if tenant.any (· ≠ user) then none else some user
  | .isPublic => if acct.userId.isSome then none else tenant

def displayName (old new : Option String) (chat : String) : Option String :=
  match new.map WhatsApp.strip with
  | none => old
  | some name => if name = "" ∨ name = chat then old else some name

structure Database where
  bindings : Bindings
  pairCodes : PairCodes
  messages : List ChannelMessage

def freshId (binds : Bindings) : Nat := (binds.rows.map ChannelBinding.id).foldr max 0 + 1

structure TelegramUpdate where
  chat : String
  chatType : Option String
  chatName : Option String
  actor : Option String
  eventId : Option String
  scope : ProviderEventScope
  command : Option ChannelControlCommand

/-- What the handler reads of the links at the time of an event: which link may be paired for a
user, which links are inactive or authorized, and which may take a message. -/
structure Authority where
  allowsNewPairing : Nat → Nat → Bool
  authorized : Nat → Bool
  active : Nat → Bool

structure InboundBindingResult where
  binding : Option ChannelBinding
  bindings : List ChannelBinding
  paired : Bool
  unpaired : Bool
  commandHandled : Bool
  pairFailedReason : Option String

section
variable (hashToken : String → String) (acct : ChannelAccount) (update : TelegramUpdate)
  (now : Nat)

variable (db : Database) (link user : Nat)

/-- The row of a chat that `get_or_create_binding` selects: an active one first, then the newest. -/
def chatRow : Option ChannelBinding :=
  (db.bindings.select (fun binding => binding.inChat acct update.chat)
    (fun binding => toLex (!binding.active, OrderDual.toDual binding.createdAt))).head?

def rebound (binding : ChannelBinding) (link user : Nat) : ChannelBinding :=
  { binding with
    botAgentLinkId := link, userId := user, externalChatType := update.chatType
    externalChatName := displayName binding.externalChatName update.chatName update.chat
    pairedExternalUserId := update.actor, active := true }

def getOrCreateBinding : Option (ChannelBinding × Database) :=
  match chatRow acct update db with
  | some binding =>
    if binding.active && !binding.controlledBy update.actor then none
    else
      let paired := rebound update binding link user
      some (paired, { db with bindings := db.bindings.put paired })
  | none =>
    let paired : ChannelBinding :=
      { id := freshId db.bindings, accountId := acct.id, botAgentLinkId := link, userId := user
        externalChatId := update.chat, externalChatType := update.chatType
        externalChatName := update.chatName, pairedExternalUserId := update.actor, active := true
        createdAt := now }
    some (paired, { db with bindings := db.bindings.put paired })

def claimPairCode (auth : Authority) (db : Database) (rawCode : String) : Except String ChannelBinding × Database :=
  match (db.pairCodes.get (hashToken rawCode)).filter (·.accountId = acct.id) with
  | none => (.error "invalid", db)
  | some pairCode =>
    if pairCode.status ≠ .pending then (.error "already_used", db)
    else if pairCode.expiresAt ≤ now then (.error "expired", db)
    else if !auth.allowsNewPairing pairCode.botAgentLinkId pairCode.userId then
      (.error "invalid", { db with pairCodes := db.pairCodes.put { pairCode with status := .revoked } })
    else
      match getOrCreateBinding acct update now db pairCode.botAgentLinkId pairCode.userId with
      | none => (.error "forbidden", db)
      | some (binding, bound) =>
        let claimed : ChannelPairCode :=
          { pairCode with
            status := .claimed, claimedAt := some now, claimedExternalChatId := some update.chat
            claimedExternalUserId := update.actor }
        (.ok binding, { bound with pairCodes := bound.pairCodes.put claimed })

end

section
variable (hashToken : String → String) (acct : ChannelAccount) (update : TelegramUpdate)
  (auth : Authority) (now : Nat)

variable (binds : List ChannelBinding) (db : Database)

def findBindings : List ChannelBinding :=
  db.bindings.select (fun binding => binding.inChat acct update.chat && binding.active) ChannelBinding.createdAt

def authorizedBindings : List ChannelBinding :=
  binds.filter fun binding =>
    !(update.chatType = some "direct_messages" && !binding.controlledBy update.actor) &&
      auth.authorized binding.botAgentLinkId

def handled (reason : Option String) : InboundBindingResult :=
  { binding := binds.head?, bindings := binds, paired := false, unpaired := false
    commandHandled := true, pairFailedReason := reason }

def archiveAll (archived : List ChannelBinding) : Database :=
  { db with
    bindings := db.bindings.update
      (fun binding => if binding.id ∈ archived.map ChannelBinding.id then binding.archived else binding)
      (by intro binding; split <;> rfl)
    messages := db.messages.map fun msg =>
      if msg.bindingId.any (· ∈ archived.map ChannelBinding.id) then
        { msg with delivered := true }
      else msg }

def resolveInboundBinding : InboundBindingResult × Database :=
  let binds := findBindings acct update db
  match update.command with
  | none =>
    let authorized := authorizedBindings update auth binds
    ({ binding := authorized.head?, bindings := authorized, paired := false, unpaired := false
       commandHandled := false, pairFailedReason := none }, db)
  | some .help => (handled binds none, db)
  | some cmd =>
    if update.actor.isNone && pairingCommandRequiresActor update.chatType then
      (handled binds (some "forbidden"), db)
    else
      match cmd with
      | .pair code =>
        if code = "" then (handled binds (some "usage"), db)
        else
          match claimPairCode hashToken acct update now auth db code with
          | (.error reason, claimed) => (handled binds (some reason), claimed)
          | (.ok binding, claimed) => ({ handled [binding] none with paired := true }, claimed)
      | .unpair =>
        if binds.isEmpty then (handled [] none, db)
        else
          let authorized := binds.filter (·.controlledBy update.actor)
          if authorized.isEmpty then (handled binds (some "forbidden"), db)
          else
            ({ handled (authorized.map ChannelBinding.archived) none with
                binding := binds.head?, unpaired := true }, archiveAll db authorized)
      | _ => (handled binds none, db)

end

section
variable (acct : ChannelAccount) (update : TelegramUpdate)

/-- `find_existing_inbound_provider_event` finds the row. -/
def ChannelMessage.ofEvent (eventId : String) (msg : ChannelMessage) : Bool :=
  msg.accountId = acct.id && msg.providerEventScope = update.scope && msg.providerEventId = some eventId &&
    (update.scope ≠ .chat || msg.externalChatId = update.chat)

variable (active : Nat → Bool) (res : InboundBindingResult) (msgs : List ChannelMessage)

def recorded : Bool := update.eventId.any fun eventId => msgs.any (ChannelMessage.ofEvent acct update eventId)

def inboundMessage (commandHandled : Bool) (binding : Option ChannelBinding) : Option ChannelMessage :=
  match requireChannelTenantUserId acct (binding.map ChannelBinding.userId) with
  | none => none
  | some user =>
    some
      { accountId := acct.id, botAgentLinkId := binding.map ChannelBinding.botAgentLinkId
        bindingId := binding.map ChannelBinding.id, userId := user, externalChatId := update.chat
        providerEventId := update.eventId, providerEventScope := update.scope
        delivered := commandHandled }

def recordTargets (commandHandled : Bool) :
    List (Option ChannelBinding) → List ChannelMessage → Option (List ChannelMessage)
  | [], msgs => some msgs
  | binding :: rest, msgs =>
    if recorded acct update msgs then some msgs
    else
      match inboundMessage acct update commandHandled binding with
      | none => none
      | some msg => recordTargets commandHandled rest (msgs ++ [msg])

def foundTargets : List (Option ChannelBinding) :=
  if res.bindings.isEmpty then [res.binding] else res.bindings.map some

def targets : List (Option ChannelBinding) :=
  if !res.commandHandled && !((foundTargets res).all fun tgt =>
      tgt.all fun binding => active binding.botAgentLinkId) then [none]
  else foundTargets res

/-- `record_inbound_messages_for_bindings`, which for a public account leaves no row of traffic that
no binding takes. -/
def recordInboundMessages : Option (List ChannelMessage) :=
  if foundTargets res = [none] ∧ acct.visibility = .isPublic ∧ acct.userId = none then
    some msgs
  else recordTargets acct update res.commandHandled (targets active res) msgs

end

def telegramWebhook (hashToken : String → String) (acct : ChannelAccount)
    (update : TelegramUpdate) (auth : Authority) (now : Nat) (db : Database) : Option Database :=
  if update.command.isSome && recorded acct update db.messages then some db
  else
    let (res, resolved) := resolveInboundBinding hashToken acct update auth now db
    (recordInboundMessages acct update auth.active res resolved.messages).map
      fun msgs => { resolved with messages := msgs }

end Clawdi.Pairing
