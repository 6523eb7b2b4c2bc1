import Clawdi.SessionEvents.Canonical

namespace Clawdi.DiscordGateway
open SessionEvents (JsonValue)

abbrev Uuid := String
abbrev JsonObject := List (String × JsonValue)
def resumeBufferSize : Nat := 100
def maxSessions : Nat := 256
def sessionTtl : Int := 5 * 60 * 1000

structure Frame where
  t : String
  s : Nat
  d : JsonObject

structure Projection where
  guilds : List String
  channels : List (String × JsonObject)

def Projection.empty : Projection := { guilds := [], channels := [] }

structure Checkpoint where
  messageId : Uuid
  inboxSequence : Nat

structure SessionState where
  accountId : Uuid
  botAgentLinkId : Uuid
  frames : List Frame
  identified : Bool
  projection : Projection
  messageCheckpoints : List (Nat × Checkpoint)
  lastInboxSequence : Nat
  lastSequence : Option Nat
  droppedThroughSequence : Option Nat

def SessionState.new (acctId botAgentLinkId : Uuid) : SessionState :=
  { accountId := acctId, botAgentLinkId, frames := [], identified := false, projection := .empty
    messageCheckpoints := [], lastInboxSequence := 0, lastSequence := none
    droppedThroughSequence := none }

def setCheckpoint (seq : Nat) (checkpoint : Checkpoint)
    (checkpoints : List (Nat × Checkpoint)) : List (Nat × Checkpoint) :=
  if checkpoints.any fun e => e.1 = seq then
    checkpoints.map fun e => if e.1 = seq then (seq, checkpoint) else e
  else checkpoints ++ [(seq, checkpoint)]

variable (seq : Option Int) (st : SessionState)

def SessionState.trim : SessionState :=
  if resumeBufferSize < st.frames.length then
    { st with
      frames := st.frames.drop (st.frames.length - resumeBufferSize)
      droppedThroughSequence := ((st.frames.take (st.frames.length - resumeBufferSize)).getLast?.map Frame.s) }
  else st

/-- What `send_gateway_frame` does to the session before it writes a dispatch to the socket. -/
def SessionState.send (frame : Frame) (noted : Bool) (checkpoint : Option Checkpoint)
    (st : SessionState) : SessionState :=
  let sent := { st with lastSequence := some frame.s }
  if noted then
    { sent with
      frames := sent.frames ++ [frame]
      messageCheckpoints :=
        match checkpoint with
        | some checkpoint => setCheckpoint frame.s checkpoint sent.messageCheckpoints
        | none => sent.messageCheckpoints }.trim
  else sent

def SessionState.last : Nat := st.lastSequence.getD 0

/-- The checkpoints that a sequence from the client covers, where the sequence is one of the session. -/
def SessionState.acknowledged (seq : Option Int) (st : SessionState) : List (Nat × Checkpoint) :=
  match seq with
  | none => []
  | some seq =>
    if seq < 0 ∨ (st.last : Int) < seq then []
    else st.messageCheckpoints.filter fun e => (e.1 : Int) ≤ seq

def SessionState.acknowledge : SessionState :=
  { st with
    messageCheckpoints :=
      st.messageCheckpoints.filter fun e =>
        (st.acknowledged seq).all fun alt => alt.1 ≠ e.1 }

def SessionState.latestSequence : Nat := max ((st.frames.map Frame.s).max?.getD 0) st.last

def SessionState.accepts : Bool :=
  match seq with
  | none => false
  | some seq =>
    0 ≤ seq && seq ≤ (st.latestSequence : Int) && st.identified &&
      st.droppedThroughSequence.all fun dropped => (dropped : Int) ≤ seq

def SessionState.replay (seq : Int) (st : SessionState) : List Frame :=
  st.frames.filter fun frame => seq < (frame.s : Int)

def SessionState.resumeInboxSequence : Nat :=
  (st.messageCheckpoints.map fun e => e.2.inboxSequence).foldl max st.lastInboxSequence

structure SessionEntry where
  sessionId : Nat
  touchedAt : Int
  connectionCount : Nat

abbrev SessionStore := List SessionEntry

namespace SessionStore
variable (sid : Nat) (now : Int) (store : SessionStore)

def find : Option SessionEntry := List.find? (fun e => e.sessionId = sid) store
def discard : SessionStore := List.filter (fun e => e.sessionId ≠ sid) store
def moveToEnd (e : SessionEntry) (store : SessionStore) : SessionStore := discard e.sessionId store ++ [e]
def prune : SessionStore := List.filter (fun e => !(e.connectionCount = 0 && e.touchedAt + sessionTtl ≤ now)) store
def disconnected : Nat := List.countP (fun e => e.connectionCount = 0) store

def evict : Nat → List SessionEntry → List SessionEntry
  | 0, store => store
  | _, [] => []
  | count + 1, e :: store => if e.connectionCount = 0 then evict count store else e :: evict (count + 1) store

def enforceBound : SessionStore := evict (disconnected store - maxSessions) store
def put : SessionStore := moveToEnd { sessionId := sid, touchedAt := now, connectionCount := 1 } (prune now store)

def connect : Bool × SessionStore :=
  let pruned := prune now store
  match find sid pruned with
  | none => (false, pruned)
  | some e => (true, moveToEnd { e with touchedAt := now, connectionCount := e.connectionCount + 1 } pruned)

def disconnect : SessionStore :=
  match find sid store with
  | none => store
  | some e =>
    let e := { e with connectionCount := e.connectionCount - 1 }
    if 0 < e.connectionCount then
      List.map (fun alt => if alt.sessionId = sid then e else alt) store
    else enforceBound (prune now (moveToEnd { e with touchedAt := now } store))

def touch : SessionStore :=
  let pruned := prune now store
  match find sid pruned with
  | none => pruned
  | some e => moveToEnd { e with touchedAt := now } pruned

end SessionStore

inductive Direction
  | inbound | outbound
  deriving DecidableEq

inductive Status
  | active | archived
  deriving DecidableEq

structure ChannelMessage where
  id : Uuid
  inboxSequence : Nat
  accountId : Uuid
  botAgentLinkId : Option Uuid
  bindingId : Option Uuid
  direction : Direction
  externalChatId : String
  providerMessageId : Option String
  text : Option String
  payload : JsonValue
  createdAt : Int
  deliveredAt : Option Int

structure ChannelBinding where
  id : Uuid
  accountId : Uuid
  botAgentLinkId : Uuid
  userId : Uuid
  externalChatId : String
  status : Status

structure ChannelBotAgentLink where
  id : Uuid
  accountId : Uuid
  userId : Uuid
  status : Status
  archivedAt : Option Int

structure ChannelAccount where
  id : Uuid
  provider : String
  status : Status
  archivedAt : Option Int

structure Scopes where
  bindings : List ChannelBinding
  links : List ChannelBotAgentLink
  accounts : List ChannelAccount

structure Agent where
  accountId : Uuid
  botAgentLinkId : Uuid
  deriving DecidableEq

variable (scopes : Scopes) (agent : Agent)

def Scopes.accountActive (acctId : Uuid) : Bool :=
  scopes.accounts.any fun acct =>
    acct.id = acctId && acct.provider = "discord" && acct.status = .active &&
      acct.archivedAt.isNone

def Scopes.linkActive (owner : Uuid → Bool) : Bool :=
  scopes.links.any fun link =>
    link.id = agent.botAgentLinkId && link.accountId = agent.accountId && owner link.userId &&
      link.status = .active && link.archivedAt.isNone

/-- The rows that `resolve_channel_agent_by_token` wants for the credentials of an agent. -/
def Scopes.agentActive : Bool := scopes.accountActive agent.accountId && scopes.linkActive agent fun _ => true

def Scopes.leases (bid : Uuid) (externalChatId : String) : Bool :=
  scopes.bindings.any fun bind =>
    bind.id = bid && bind.accountId = agent.accountId && bind.botAgentLinkId = agent.botAgentLinkId &&
      bind.externalChatId = externalChatId && bind.status = .active &&
      scopes.accountActive agent.accountId && scopes.linkActive agent (· = bind.userId)

variable (messageIds : List Uuid) (start name : String) (payload : GatewayPayload)
variable (msg : ChannelMessage) (text : String) (v : JsonValue) (msgs : List ChannelMessage)
variable (obj : JsonObject)

def pending : Bool :=
  msg.accountId = agent.accountId && msg.direction = .inbound && msg.bindingId.isSome && msg.deliveredAt.isNone &&
    msg.botAgentLinkId = some agent.botAgentLinkId

def inboxOrder (first snd : ChannelMessage) : Bool :=
  first.inboxSequence < snd.inboxSequence ||
    (first.inboxSequence = snd.inboxSequence && first.createdAt ≤ snd.createdAt)

def dequeueGatewayEvents (afterSequence limit : Nat) (msgs : List ChannelMessage) : List ChannelMessage :=
  ((msgs.filter fun msg =>
      pending agent msg && afterSequence < msg.inboxSequence).insertionSort
    fun first snd => inboxOrder first snd).take limit

def ChannelMessage.delivered (now : Int) : ChannelMessage :=
  { msg with deliveredAt := some now }

def acknowledges : Bool :=
  msg.id ∈ messageIds && msg.accountId = agent.accountId &&
    msg.botAgentLinkId = some agent.botAgentLinkId && msg.direction = .inbound &&
    msg.deliveredAt.isNone

def ackGatewayMessages (now : Int) (msgs : List ChannelMessage) : List ChannelMessage :=
  msgs.map fun msg =>
    if acknowledges agent messageIds msg then msg.delivered now else msg

def current : Option ChannelMessage :=
  msgs.find? fun row =>
    row.id = msg.id && row.accountId = agent.accountId && row.botAgentLinkId = some agent.botAgentLinkId

def consumePending (bindingIds : List Uuid) (now : Int) (msgs : List ChannelMessage) : List ChannelMessage :=
  msgs.map fun msg =>
    if msg.bindingId.any (· ∈ bindingIds) ∧ msg.direction = .inbound ∧
        msg.deliveredAt.isNone then
      msg.delivered now
    else msg

def isSpace (ch : Char) : Bool :=
  let code := ch.toNat
  (9 ≤ code && code ≤ 13) || (28 ≤ code && code ≤ 32) || code = 0x85 || code = 0xA0 ||
    code = 0x1680 || (0x2000 ≤ code && code ≤ 0x200A) || code = 0x2028 || code = 0x2029 ||
    code = 0x202F || code = 0x205F || code = 0x3000

def strip : String := String.ofList (((text.toList.dropWhile isSpace).reverse.dropWhile isSpace).reverse)

def optionalStr : Option JsonValue → Option String
  | some (.text v) => if strip v = "" then none else some (strip v)
  | some (.int v) => some (toString v)
  | some (.bool v) => some (if v then "True" else "False")
  | _ => none

def setMember : JsonObject :=
  if (obj.lookup name).isSome then
    obj.map fun mem => if mem.1 = name then (name, v) else mem
  else obj ++ [(name, v)]

def setDefault : JsonObject :=
  if (obj.lookup name).isSome then obj else obj ++ [(name, v)]

def startsWith : Bool := start.toList.isPrefixOf text.toList

/-- What the authority query of an agent answers: the guilds with their names, and each channel with
its guild. -/
structure Authority where
  guilds : List (String × String)
  channels : List (String × Option String)

structure GatewayPayload where
  t : String
  d : JsonObject

def isHttpInteraction (payload : JsonObject) : Bool :=
  (payload.lookup "t").isNone &&
    match payload.lookup "type" with
    | some (.int kind) => kind = 2 || kind = 3 || kind = 4 || kind = 5
    | _ => false

def gatewayDispatch : GatewayPayload :=
  let payload : JsonObject :=
    match msg.payload with
    | .object mems => mems
    | _ => []
  if isHttpInteraction payload then { t := "INTERACTION_CREATE", d := payload }
  else
    let data : JsonObject :=
      match payload.lookup "d" with
      | some (.object mems) => mems
      | _ => payload
    { t :=
        match payload.lookup "t" with
        | some (.text ev) => ev
        | _ => "MESSAGE_CREATE"
      d :=
        setDefault "content" (.text (msg.text.getD ""))
          (setDefault "channel_id" (.text msg.externalChatId)
            (setDefault "id"
              (.text ((msg.providerMessageId.filter (· ≠ "")).getD msg.id)) data)) }

def GatewayPayload.eventType : Option String := optionalStr (some (.text payload.t))
def GatewayPayload.about : Bool := payload.eventType.any (startsWith start)

def gatewayScope : Option String × Option String :=
  let guildId := optionalStr (payload.d.lookup "guild_id")
  let channelId := optionalStr (payload.d.lookup "channel_id")
  if payload.about "GUILD_" then (optionalStr (payload.d.lookup "id") <|> guildId, channelId)
  else if payload.about "CHANNEL_" || payload.about "THREAD_" then
    (guildId, optionalStr (payload.d.lookup "id") <|> channelId)
  else (guildId, channelId)

def GatewayPayload.interactionIsDeliverable : Bool :=
  payload.eventType ≠ some "INTERACTION_CREATE" || (optionalStr (payload.d.lookup "token")).isSome

def GatewayPayload.lifecycle : Bool := payload.about "GUILD_" || payload.about "CHANNEL_" || payload.about "THREAD_"

variable (channel : JsonObject) (auth : Authority) (guildId : String)
variable (channelId : Option String) (proj : Projection)

def Authority.hasGuild : Bool := (auth.guilds.lookup guildId).isSome

def Authority.placesChannel (guildId channelId : Option String) : Bool :=
  match channelId with
  | none => false
  | some channelId => auth.channels.lookup channelId = some guildId

variable (payload : GatewayPayload) (projected : Option JsonObject)

def authorized (auth : Authority) : Bool :=
  let scope := gatewayScope payload
  match payload.lifecycle, scope.1 with
  | true, some guildId => auth.hasGuild guildId
  | _, _ => auth.placesChannel scope.1 scope.2

structure Write where
  t : String
  d : JsonObject
  checkpoint : Option Checkpoint
  after : Projection

def Projection.knows (channelId : String) : Bool := (proj.channels.lookup channelId).isSome

def Projection.setChannel (channelId : String) (channel : JsonObject) (proj : Projection) : Projection :=
  { proj with
    channels :=
      if proj.knows channelId then
        proj.channels.map fun e =>
          if e.1 = channelId then (channelId, channel) else e
      else proj.channels ++ [(channelId, channel)] }

def Projection.popChannel (channelId : String) (proj : Projection) : Projection :=
  { proj with channels := proj.channels.filter fun e => e.1 ≠ channelId }

def Projection.addGuild : Projection :=
  if guildId ∈ proj.guilds then proj
  else { proj with guilds := proj.guilds ++ [guildId] }

def Projection.removeGuild : Projection :=
  { guilds := proj.guilds.filter fun alt => alt ≠ guildId
    channels := proj.channels.filter fun e =>
      optionalStr (e.2.lookup "guild_id") ≠ some guildId }

def removals : List Write :=
  ((proj.guilds.filter fun guildId => !auth.hasGuild guildId).foldl
    (fun (writes, proj) guildId =>
      let after := proj.removeGuild guildId
      (writes ++ [{ t := "GUILD_DELETE"
                    d := [("id", .text guildId), ("unavailable", .bool false)]
                    checkpoint := none, after }], after))
    (([] : List Write), proj)).1

def Projection.within : Projection :=
  { proj with
    channels := proj.channels.filter fun e =>
      (auth.channels.lookup e.1).isSome }

def guildWrite (guildName : String) (proj : Projection) : Write :=
  { t := "GUILD_CREATE"
    d := [("id", .text guildId), ("name", .text guildName), ("unavailable", .bool false),
      ("channels", .list []), ("threads", .list []), ("members", .list [])]
    checkpoint := none, after := proj.addGuild guildId }

def channelEvent : String :=
  match channel.lookup "type" with
  | some (.int kind) => if kind = 10 || kind = 11 || kind = 12 then "THREAD_CREATE" else "CHANNEL_CREATE"
  | _ => "CHANNEL_CREATE"

def channelWrite : Write :=
  let ev := channelEvent channel
  { t := ev
    d := if ev = "THREAD_CREATE" then setMember "newly_created" (.bool false) channel else channel
    checkpoint := none, after := proj }

def guildWrites (guildId : Option String) (auth : Authority) (proj : Projection) : Option (List Write) :=
  match guildId with
  | none => some []
  | some guildId =>
    if guildId ∈ proj.guilds then some []
    else (auth.guilds.lookup guildId).map fun name => [guildWrite guildId name proj]

def channelWrites (proj : Projection) : List Write :=
  match channelId, projected with
  | some channelId, some channel => if proj.knows channelId then [] else [channelWrite channel proj]
  | _, _ => []

def Projection.show (proj : Projection) : Projection :=
  match channelId, projected with
  | some channelId, some channel => proj.setChannel channelId channel
  | _, _ => proj

/-- The frames of `send_message`: guild and channel where unknown, and the message. -/
def messageWrites (msg : ChannelMessage) (payload : GatewayPayload) (auth : Authority)
    (projected : Option JsonObject) (proj : Projection) : Option (List Write) := do
  let scope := gatewayScope payload
  let guilds ← guildWrites scope.1 auth proj
  let ev ← payload.eventType
  let told := (guilds.getLast?.map Write.after).getD proj
  return guilds ++ channelWrites scope.2 projected told ++
    [{ t := ev, d := payload.d
       checkpoint := some { messageId := msg.id, inboxSequence := msg.inboxSequence }
       after := told.show scope.2 projected }]

def Projection.follow (auth : Authority) (proj : Projection) : Projection :=
  let scope := gatewayScope payload
  match payload.lifecycle, scope.2 with
  | true, some channelId =>
    if payload.eventType = some "CHANNEL_DELETE" || payload.eventType = some "THREAD_DELETE" then
      proj.popChannel channelId
    else if auth.placesChannel scope.1 (some channelId) then
      match payload.eventType, payload.d.lookup "thread_metadata" with
      | some "THREAD_UPDATE", some (.object metadata) =>
        match metadata.lookup "archived" with
        | some (.bool true) => proj.popChannel channelId
        | _ => proj.setChannel channelId payload.d
      | _, _ => proj.setChannel channelId payload.d
    else proj
  | _, _ => proj

def startupWrites (ready : JsonObject) (auth : Authority) (channels : List (String × JsonObject)) : List Write :=
  let proj : Projection := { guilds := [], channels }
  let guilds := (auth.guilds.foldl
    (fun (writes, proj) guild =>
      let write := guildWrite guild.1 guild.2 proj
      (writes ++ [write], write.after)) (([] : List Write), proj))
  { t := "READY", d := ready, checkpoint := none, after := proj } :: guilds.1 ++
    (channels.filter fun e => (auth.channels.lookup e.1).any Option.isSome).map fun e => channelWrite e.2 guilds.2

end Clawdi.DiscordGateway
