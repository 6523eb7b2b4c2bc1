import Clawdi.DiscordGateway.Session

namespace Clawdi.DiscordWorker
open SessionEvents (JsonValue)
open DiscordGateway (strip)

abbrev GatewayFrame := List (String × JsonValue)

structure GatewayState where
  sequence : Option Int
  heartbeatAcknowledged : Bool
  sessionId : Option String
  resumeGatewayUrl : Option String
  sessionEstablished : Bool

namespace GatewayState

def new : GatewayState :=
  { sequence := none, heartbeatAcknowledged := true, sessionId := none, resumeGatewayUrl := none
    sessionEstablished := false }

variable (st : GatewayState)

def canResume : Bool := st.sequence.isSome && st.sessionId.any (· ≠ "") && st.resumeGatewayUrl.any (· ≠ "")

def clearSession : GatewayState :=
  { st with
    sequence := none, sessionId := none, resumeGatewayUrl := none, heartbeatAcknowledged := true }

end GatewayState

def equalsInt (num : Int) : Option JsonValue → Bool
  | some (.int v) => v = num
  | some (.bool v) => (if v then 1 else 0) = num
  | some (.float repr) => repr = toString num ++ ".0" || (num = 0 && repr = "-0.0")
  | _ => false

variable (frame : GatewayFrame) (st : GatewayState)

def opOf (op : Int) : Bool := equalsInt op (frame.lookup "op")

def given : Option JsonValue → Option String
  | some (.text v) => if strip v = "" then none else some v
  | _ => none

def updateGatewaySessionState : GatewayState :=
  match frame.lookup "t", frame.lookup "d" with
  | some (.text "READY"), some (.object data) =>
    { st with
      sessionId := given (data.lookup "session_id") <|> st.sessionId
      resumeGatewayUrl := given (data.lookup "resume_gateway_url") <|> st.resumeGatewayUrl }
  | _, _ => st

def establishes : Bool :=
  match frame.lookup "t" with
  | some (.text ev) => ev = "READY" || ev = "RESUMED"
  | _ => false

def advance : GatewayState :=
  match frame.lookup "s" with
  | some (.int seq) => { st with sequence := some seq }
  | _ => st

/-- The test of `_heartbeat_interval_seconds`. -/
def isHello : Bool :=
  opOf frame 10 &&
    match frame.lookup "d" with
    | some (.object data) =>
      match data.lookup "heartbeat_interval" with
      | some (.int interval) => 0 < interval
      | some (.bool interval) => interval
      | some (.float repr) => !DiscordGateway.startsWith "-" repr && repr ≠ "0.0" && repr ≠ "nan"
      | _ => false
    | _ => false

def sessionResetCloseCodes : List Int := [4007, 4009]

def closed (code : Option Int) (st : GatewayState) : GatewayState :=
  let st := if code.any (· ∈ sessionResetCloseCodes) then st.clearSession else st
  { st with sessionEstablished := false }

/-- A session at the provider: its dispatches are numbered from one in the order of the list. -/
structure UpstreamSession where
  sessionId : String
  resumeGatewayUrl : String
  dispatches : List GatewayFrame

inductive Request
  | nothing
  | identify
  | resume (sid : String) (seq : Int)

inductive Stage
  | hello (resume : Bool)
  | listening
  | recording (frame : GatewayFrame)

/-- A connection: the dialled address, the worker's side and the provider's. -/
structure Connection where
  gatewayUrl : String
  stage : Stage
  beating : Bool
  request : Request
  session : Option Nat
  queue : List GatewayFrame

inductive Event
  | recorded (sess seq : Nat)
  | reported (sess : Option Nat) (seq : Option Int)
  | resumed (sid gatewayUrl : String) (seq : Int)

/-- The provider, the state that the worker keeps for an account, the connection, and what was done,
the last first. -/
structure World where
  sessions : List UpstreamSession
  state : GatewayState
  connection : Option Connection
  history : List Event

def World.new : World := { sessions := [], state := .new, connection := none, history := [] }

/-- Whether a send reaches the socket or raises, with the code of the close that it finds. -/
inductive Sending
  | through
  | closed (code : Option Int)

inductive Action
  | greet (sid resumeGatewayUrl : String) (data : List (String × JsonValue))
  | accept
  | dispatch (sess : Nat) (t : String) (d : JsonValue)
  | tell (frame : GatewayFrame)
  | dial (gatewayUrl : String) (opens : Bool)
  | receive (sending : Sending)
  | finish (noted : Bool)
  | heartbeat (sends : Bool)
  | drop (code : Option Int)
  | cancel
  | restart

def dispatchFrame (seq : Nat) (t : String) (d : JsonValue) : GatewayFrame :=
  [("t", .text t), ("s", .int seq), ("op", .int 0), ("d", d)]

def readyData (sid resumeGatewayUrl : String) (data : List (String × JsonValue)) : JsonValue :=
  .object (("session_id", .text sid) :: ("resume_gateway_url", .text resumeGatewayUrl) :: data)

namespace World
variable (w : World) (conn : Connection) (sid : String) (code : Option Int) (frame : GatewayFrame)
variable (sending : Sending)

def setConnection : World := { w with connection := some conn }

/-- The provider answers an IDENTIFY: a session with an id of its own and READY as its first dispatch. -/
def greet (resumeGatewayUrl : String) (data : List (String × JsonValue)) : World :=
  match w.connection with
  | some conn =>
    match conn.request, conn.session with
    | .identify, none =>
      if w.sessions.any fun sess => sess.sessionId = sid then w
      else
        let ready := dispatchFrame 1 "READY" (readyData sid resumeGatewayUrl data)
        { w with
          sessions := w.sessions ++ [{ sessionId := sid, resumeGatewayUrl, dispatches := [ready] }]
          connection := some
            { conn with
              session := some w.sessions.length, queue := conn.queue ++ [ready] } }
    | _, _ => w
  | none => w

def find : Option Nat := w.sessions.findIdx? fun sess => sess.sessionId = sid

def accept : World :=
  match w.connection with
  | some conn =>
    match conn.request, conn.session with
    | .resume sid seq, none =>
      match w.find sid with
      | some idx =>
        match w.sessions[idx]? with
        | some sess =>
          if 0 ≤ seq ∧ seq ≤ sess.dispatches.length then
            w.setConnection
              { conn with
                session := some idx
                queue := conn.queue ++ sess.dispatches.drop seq.toNat }
          else w
        | none => w
      | none => w
    | _, _ => w
  | none => w

def dispatch (idx : Nat) (t : String) (d : JsonValue) : World :=
  match w.sessions[idx]? with
  | some sess =>
    if t = "READY" then w
    else
      let frame := dispatchFrame (sess.dispatches.length + 1) t d
      { w with
        sessions := w.sessions.set idx { sess with dispatches := sess.dispatches ++ [frame] }
        connection := w.connection.map fun conn =>
          if conn.session = some idx then
            { conn with queue := conn.queue ++ [frame] }
          else conn }
  | none => w

def tell : World :=
  match w.connection with
  | some conn =>
    if opOf frame 0 then w
    else w.setConnection { conn with queue := conn.queue ++ [frame] }
  | none => w

def leave : World :=
  { w with state := closed code w.state, connection := none }

/-- `_connect_and_record` up to the open socket; the address of a session is dialled only where the
session can be resumed. -/
def dial (gatewayUrl : String) (opens : Bool) : World :=
  match w.connection with
  | some _ => w
  | none =>
    let canResume := w.state.canResume
    let gatewayUrl := if canResume then w.state.resumeGatewayUrl.getD gatewayUrl else gatewayUrl
    let dialled := { w with
      state := { w.state with heartbeatAcknowledged := true, sessionEstablished := false } }
    if opens then
      dialled.setConnection
        { gatewayUrl, stage := .hello canResume, beating := false, request := .nothing
          session := none, queue := [] }
    else dialled

def sessionOf : Option Nat :=
  match conn.session, conn.request with
  | some sess, _ => some sess
  | none, .resume sid _ => w.find sid
  | none, _ => none

def sendHeartbeat : World :=
  { w with
    state := { w.state with heartbeatAcknowledged := false }
    history := .reported (w.sessionOf conn) w.state.sequence :: w.history }

def ask (resume : Bool) (sending : Sending) : World :=
  let asked : World × Request :=
    match resume, w.state.sessionId, w.state.sequence with
    | true, some sid, some seq =>
      ({ w with history := .resumed sid conn.gatewayUrl seq :: w.history }, .resume sid seq)
    | _, _, _ => ({ w with state := w.state.clearSession }, .identify)
  match sending with
  | .through => asked.1.setConnection { conn with stage := .listening, beating := true, request := asked.2 }
  | .closed code => asked.1.leave code

def handle : World :=
  if opOf frame 0 then
    let st := updateGatewaySessionState frame w.state
    { w with
      state := { st with sessionEstablished := st.sessionEstablished || establishes frame }
      connection := some { conn with stage := .recording frame } }
  else if opOf frame 1 then
    match sending with
    | .through => (w.sendHeartbeat conn).setConnection conn
    | .closed code => (w.sendHeartbeat conn).leave code
  else if opOf frame 7 then w.leave none
  else if opOf frame 9 then
    let invalidated :=
      match frame.lookup "d" with
      | some (.bool true) => w
      | _ => { w with state := w.state.clearSession }
    invalidated.leave none
  else if opOf frame 11 then
    { w with
      state := { w.state with heartbeatAcknowledged := true }, connection := some conn }
  else w.setConnection conn

def receive : World :=
  match w.connection with
  | some conn =>
    match conn.stage, conn.queue with
    | .hello resume, frame :: q =>
      if isHello frame then w.ask { conn with queue := q } resume sending else w.leave none
    | .listening, frame :: q => w.handle { conn with queue := q } frame sending
    | _, _ => w
  | none => w

def numberOf : Nat :=
  match frame.lookup "s" with
  | some (.int seq) => seq.toNat
  | _ => 0

def finish (noted : Bool) : World :=
  match w.connection with
  | some conn =>
    match conn.stage with
    | .recording frame =>
      if noted then
        { w with
          state := advance frame w.state
          connection := some { conn with stage := .listening }
          history := (conn.session.toList.map fun sess =>
            Event.recorded sess (numberOf frame)) ++ w.history }
      else w.leave none
    | _ => w
  | none => w

def heartbeat (sends : Bool) : World :=
  match w.connection with
  | some conn =>
    if conn.beating then
      if w.state.heartbeatAcknowledged then
        (w.sendHeartbeat conn).setConnection { conn with beating := sends }
      else w.setConnection { conn with beating := false }
    else w
  | none => w

def drop : World :=
  match w.connection with
  | some conn =>
    match conn.stage with
    | .recording _ => w
    | _ => w.leave code
  | none => w

end World

def step (w : World) : Action → World
  | .greet sid resumeGatewayUrl data => w.greet sid resumeGatewayUrl data
  | .accept => w.accept
  | .dispatch idx t d => w.dispatch idx t d
  | .tell frame => w.tell frame
  | .dial gatewayUrl opens => w.dial gatewayUrl opens
  | .receive sending => w.receive sending
  | .finish noted => w.finish noted
  | .heartbeat sends => w.heartbeat sends
  | .drop code => w.drop code
  | .cancel => { w with connection := none }
  | .restart => { w with connection := none, state := .new }

end Clawdi.DiscordWorker
