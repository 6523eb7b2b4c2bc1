import Clawdi.DiscordGateway.Session
import Clawdi.Lib.Transition

namespace Clawdi.DiscordGateway
open Function (update)
open SessionEvents (JsonValue)

/-- A message of the page with the authority under which the loop looks at it. -/
structure Turn where
  message : ChannelMessage
  authority : Authority

def Turn.payload (turn : Turn) : GatewayPayload := gatewayDispatch turn.message

inductive Stage
  | closed
  | hello
  | identifying
  | resuming (sid : Nat) (sequence : Option Int)
  | acknowledging (sequence : Int)
  | replaying (sequence : Int) (rest : List Frame)
  | preparing
  | starting (writes : List Write)
  | listening (page : List ChannelMessage)
  | removing (turn : Turn) (writes : List Write) (page : List ChannelMessage)
  | reading (turn : Turn) (page : List ChannelMessage)
  | deciding (turn : Turn) (proj : Option JsonObject) (page : List ChannelMessage)
  | sending (turn : Turn) (bid : Uuid) (writes : List Write) (page : List ChannelMessage)

def Stage.midReplay : Stage → Bool
  | .replaying _ (_ :: _) => true
  | _ => false

structure Connection where
  agent : Agent
  sessionId : Option Nat
  gatewaySequence : Nat
  lastInboxSequence : Nat
  projection : Projection
  stage : Stage

def Connection.closed : Connection :=
  { agent := { accountId := "", botAgentLinkId := "" }, sessionId := none, gatewaySequence := 0
    lastInboxSequence := 0, projection := .empty, stage := .closed }

/-- A dispatch that a session recorded, and the binding of the message that it carries. -/
structure Recorded where
  sessionId : Nat
  frame : Frame
  checkpoint : Option Checkpoint
  bindingId : Option Uuid

inductive Written
  | dispatch (conn sid : Nat) (frame : Frame) (noted : Bool)
  | replay (conn sid : Nat) (frame : Frame)
  | invalidSession (conn : Nat)

/-- An acknowledgement of a message: a sequence that the client sent covers its dispatch. -/
structure Receipt where
  messageId : Uuid
  sessionId : Nat
  sequence : Nat
  reported : Int
  last : Nat

/-- An accepted RESUME and the dispatches above its sequence that the session had recorded. -/
structure Resume where
  connection : Nat
  sessionId : Nat
  sequence : Int
  due : List Frame

/-- How the transaction of an acknowledgement ends: `lost` commits and raises. -/
inductive Settled
  | committed | failed | lost

/-- The tables, the process, and for the property what was recorded, written, reported and dropped. -/
structure World where
  messages : List ChannelMessage
  inserting : List (Nat × ChannelMessage)
  nextSequence : Nat
  scopes : Scopes
  now : Int
  store : SessionStore
  nextSession : Nat
  nextConnection : Nat
  states : Nat → SessionState
  leases : Agent → Option Nat
  connections : Nat → Connection
  recorded : List Recorded
  written : List Written
  reported : List (Nat × Int)
  receipts : List Receipt
  dropped : List Uuid
  retired : List Uuid
  resumes : List Resume
  brokenOff : List Nat

def World.new (scopes : Scopes) : World :=
  { messages := [], inserting := [], nextSequence := 1, scopes, now := 0, store := []
    nextSession := 0, nextConnection := 0, states := fun _ => .new "" "", leases := fun _ => none
    connections := fun _ => .closed, recorded := [], written := [], reported := [], receipts := []
    dropped := [], retired := [], resumes := [], brokenOff := [] }

namespace World
variable (w : World) (id sid : Nat) (auth : Authority) (arrives : Bool)

def setConnection (conn : Connection) : World :=
  { w with connections := update w.connections id conn }

def setStage (stage : Stage) : World := w.setConnection id { w.connections id with stage }

variable (st : SessionState) (write : Write) (turn : Turn) (sequence : Option Int)
variable (free noted : Bool) (bid : Option Uuid) (next : Stage)

def setState : World :=
  { w with states := update w.states sid st }

def setProjection (projection : Projection) : World :=
  (w.setConnection id { w.connections id with projection }).setState sid { w.states sid with projection }

/-- The cleanup of a connection: its session waits in the store unless it was never identified. -/
def close : World :=
  let conn := w.connections id
  let store :=
    match conn.sessionId with
    | none => w.store
    | some sid =>
      if (w.states sid).identified then
        SessionStore.disconnect sid w.now w.store
      else SessionStore.discard sid w.store
  { w with
    store
    leases :=
      if w.leases conn.agent = some id then
        update w.leases conn.agent none
      else w.leases
    connections := update w.connections id .closed
    brokenOff :=
      if conn.stage.midReplay then w.brokenOff ++ conn.sessionId.toList
      else w.brokenOff }

/-- `send_dispatch` up to the socket: the session has the frame before the socket does. -/
def register : World :=
  let conn := w.connections id
  let frame : Frame := { t := write.t, s := conn.gatewaySequence + 1, d := write.d }
  let sent := (w.setState sid ((w.states sid).send frame noted write.checkpoint)).setConnection id
      { conn with gatewaySequence := conn.gatewaySequence + 1 }
  { sent with
    recorded :=
      if noted then
        w.recorded ++ [{ sessionId := sid, frame, checkpoint := write.checkpoint, bindingId := bid }]
      else w.recorded
    written := w.written ++ [Written.dispatch id sid frame noted] }

def arrived : World :=
  { w.setStage id next with store := SessionStore.touch sid w.now w.store }

def dispatch (arrives : Bool) : World :=
  let sent := w.register id sid write noted bid
  if arrives then (sent.setProjection id sid write.after).arrived id sid next
  else sent.close id

def replayFrame (sequence : Int) (frame : Frame) (rest : List Frame) (arrives : Bool) : World :=
  let sent : World :=
    { (w.setState sid ((w.states sid).send frame false none)).setStage id
        (.replaying sequence rest) with
      written := w.written ++ [Written.replay id sid frame] }
  if arrives then { sent with store := SessionStore.touch sid w.now w.store }
  else { sent with brokenOff := w.brokenOff ++ [sid] }.close id

def resumed : World :=
  let projection := (w.connections id).projection
  (w.setProjection id sid projection).dispatch id sid
    { t := "RESUMED", d := [], checkpoint := none, after := projection } false none (.listening [])
    arrives

/-- `acknowledge_gateway_sequence`, with the state that it leaves where the commit works. -/
def acknowledge (agent : Agent) (sid : Nat) (sequence : Option Int) : World :=
  let st := w.states sid
  let acked := st.acknowledged sequence
  { w.setState sid (st.acknowledge sequence) with
    messages := ackGatewayMessages agent (acked.map fun e => e.2.messageId) w.now w.messages
    receipts := w.receipts ++ acked.map fun e =>
      { messageId := e.2.messageId, sessionId := sid, sequence := e.1
        reported := sequence.getD 0, last := st.last } }

def report : World :=
  { w with reported := w.reported ++ sequence.toList.map fun sequence => (sid, sequence) }

def answerInvalid : World :=
  let answered := { w with written := w.written ++ [.invalidSession id] }
  if arrives then answered else answered.close id

def claimResume (arrives : Bool) : World :=
  let conn := w.connections id
  if w.leases conn.agent = none ∧ free then
    let st := w.states sid
    let leased := { w with leases := update w.leases conn.agent (some id) }
    match sequence, st.accepts sequence with
    | some sequence, true =>
      leased.setConnection id { conn with sessionId := some sid, stage := .acknowledging sequence }
    | _, _ =>
      if arrives then
        { w.setConnection id { conn with sessionId := none, stage := .hello } with
          store := SessionStore.discard sid (SessionStore.touch sid w.now w.store)
          written := w.written ++ [Written.invalidSession id] }
      else
        let owned := leased.setConnection id { conn with sessionId := some sid, stage := .acknowledging 0 }
        { owned with written := w.written ++ [Written.invalidSession id] }.close id
  else
    { w.setConnection id .closed with
      store := SessionStore.disconnect sid w.now w.store }

def claimIdentify : World :=
  let conn := w.connections id
  if w.leases conn.agent = none ∧ free then
    let sid := w.nextSession
    { (w.setState sid
        (.new conn.agent.accountId conn.agent.botAgentLinkId)).setConnection id
          { conn with
            sessionId := some sid, gatewaySequence := 0, lastInboxSequence := 0
            projection := .empty, stage := .preparing } with
      leases := update w.leases conn.agent (some id)
      store := SessionStore.put sid w.now w.store
      nextSession := sid + 1 }
  else w.setConnection id .closed

/-- The projection of a resumed connection: what was told and is still covered. -/
def resumeProjection : Projection :=
  st.frames.foldl
    (fun projection frame =>
      let named := optionalStr (frame.d.lookup "id")
      match frame.t, named with
      | "READY", _ =>
        match frame.d.lookup "private_channels" with
        | some (.list channels) =>
          channels.foldl
            (fun projection channel =>
              match channel with
              | .object channel =>
                match optionalStr (channel.lookup "id") with
                | some channelId =>
                  if (auth.channels.lookup channelId).isSome then
                    projection.setChannel channelId channel
                  else projection
                | none => projection
              | _ => projection) projection
        | _ => projection
      | "GUILD_CREATE", some guildId => if auth.hasGuild guildId then projection.addGuild guildId else projection
      | "GUILD_DELETE", some guildId =>
        { projection with guilds := projection.guilds.filter fun alt => alt ≠ guildId }
      | "CHANNEL_DELETE", some channelId => projection.popChannel channelId
      | "THREAD_DELETE", some channelId => projection.popChannel channelId
      | event, some channelId =>
        if event = "CHANNEL_CREATE" || event = "CHANNEL_UPDATE" || event = "THREAD_CREATE" ||
            event = "THREAD_UPDATE" then
          if (auth.channels.lookup channelId).isSome then
            match event, frame.d.lookup "thread_metadata" with
            | "THREAD_UPDATE", some (.object metadata) =>
              match metadata.lookup "archived" with
              | some (.bool true) => projection.popChannel channelId
              | _ => projection.setChannel channelId frame.d
            | _, _ => projection.setChannel channelId frame.d
          else projection
        else projection
      | _, none => projection)
    ({ guilds := st.projection.guilds.filter auth.hasGuild
       channels := st.projection.channels.filter fun e =>
        (auth.channels.lookup e.1).isSome } : Projection)

def accept (sequence : Int) (auth : Authority) : World :=
  let conn := w.connections id
  let st := w.states sid
  let done := w.acknowledge conn.agent sid (some sequence)
  { done.setConnection id
      { conn with
        gatewaySequence := st.latestSequence
        lastInboxSequence := (done.states sid).resumeInboxSequence
        projection := resumeProjection auth st
        stage := .replaying sequence (st.replay sequence) } with
    resumes := done.resumes ++
      [{ connection := id, sessionId := sid, sequence
         due := (w.recorded.filter fun e =>
          e.sessionId = sid ∧ sequence < (e.frame.s : Int)).map Recorded.frame }] }

def settle (sequence : Int) (auth : Authority) : Settled → World
  | .committed => w.accept id sid sequence auth
  | .failed => w.close id
  | .lost => (w.acknowledge (w.connections id).agent sid (some sequence)).close id

def heartbeat (done : Settled) (arrives : Bool) : World :=
  let reported := w.report sid sequence
  if (w.states sid).identified then
    let acked := reported.acknowledge (w.connections id).agent sid sequence
    match done with
    | .committed =>
      if arrives then
        { acked with store := SessionStore.touch sid w.now w.store }
      else acked.close id
    | .failed => reported.close id
    | .lost => acked.close id
  else if arrives then
    { reported with store := SessionStore.touch sid w.now w.store }
  else reported.close id

/-- The end of a turn: the message is behind the connection, and a lifecycle message that was sent
moves the projection. -/
def endTurn (sent : Bool) (page : List ChannelMessage) : World :=
  let conn := w.connections id
  let projection :=
    if sent then conn.projection.follow turn.payload turn.authority
    else conn.projection
  let st := w.states sid
  (w.setConnection id
      { conn with
        lastInboxSequence := turn.message.inboxSequence, projection, stage := .listening page }).setState
    sid { st with lastInboxSequence := turn.message.inboxSequence, projection }

/-- `_send_discord_gateway_message` up to its first write, under the lease and the row lock. -/
def lease (proj : Option JsonObject) (page : List ChannelMessage) (locked : Bool) : World :=
  let conn := w.connections id
  let payload := turn.payload
  match turn.message.bindingId with
  | none => w.endTurn id sid turn false page
  | some bid =>
    if locked ∨ (current conn.agent turn.message w.messages).all
        (fun row => row.deliveredAt.isSome) then
      w.endTurn id sid turn false page
    else if w.scopes.leases conn.agent bid turn.message.externalChatId ∧
        payload.interactionIsDeliverable ∧ authorized payload turn.authority ∧
        (payload.lifecycle ∨ proj.isSome) then
      match messageWrites turn.message payload turn.authority proj conn.projection with
      | none => w.close id
      | some writes => w.setStage id (.sending turn bid writes page)
    else
      { w.endTurn id sid turn false page with
        messages := w.messages.map fun row =>
          if row.id = turn.message.id ∧ row.accountId = conn.agent.accountId ∧
              row.botAgentLinkId = some conn.agent.botAgentLinkId then
            row.delivered w.now
          else row
        dropped := w.dropped ++ [turn.message.id] }

def sendsUnder (holds : Connection → Uuid → Bool) : Bool :=
  (List.range w.nextConnection).any fun id =>
    match (w.connections id).stage with
    | .sending _ bid _ _ => holds (w.connections id) bid
    | _ => false

def archiveBindings (chosen : ChannelBinding → Bool) (scopes : Scopes) : World :=
  let bindingIds := (scopes.bindings.filter fun bind =>
    chosen bind && bind.status = .active).map ChannelBinding.id
  { w with
    scopes :=
      { scopes with
        bindings := scopes.bindings.map fun bind =>
          if chosen bind then { bind with status := .archived } else bind }
    messages := consumePending bindingIds w.now w.messages
    retired := w.retired ++ (w.messages.filter fun msg => msg.bindingId.any (· ∈ bindingIds)).map
        ChannelMessage.id }

end World
end Clawdi.DiscordGateway
