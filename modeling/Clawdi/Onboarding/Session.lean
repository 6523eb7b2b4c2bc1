import Clawdi.Lib.Program
import Mathlib.Data.Nat.Notation

namespace Clawdi.Onboarding

inductive OnboardingState where
  | generating
  | ready
  | scanned
  | connected
  | expired
  | canceled
  | error
deriving DecidableEq

def OnboardingState.active : OnboardingState → Bool
  | .generating | .ready | .scanned | .connected => true
  | _ => false

def OnboardingState.open : OnboardingState → Bool
  | .generating | .ready | .scanned | .error => true
  | _ => false

/-- A custom account with the sidecar session that its configuration names for good. -/
structure Account where
  id : ℕ
  sidecarAccountId : ℕ
deriving DecidableEq

structure Session where
  userId : ℕ
  requestId : ℕ
  name : String
  sidecarAccountId : ℕ
  channelAccount : Option Account
  state : OnboardingState
  expiresAt : ℕ
deriving DecidableEq

structure Change where
  state : Option OnboardingState := none
  channelAccount : Option Account := none
  expiresAt : Option ℕ := none

def Change.apply (change : Change) (sess : Session) : Session :=
  { sess with
    state := change.state.getD sess.state
    channelAccount := change.channelAccount.or sess.channelAccount
    expiresAt := change.expiresAt.getD sess.expiresAt }

inductive RuntimeStatus where
  | starting
  | connecting
  | pairingQr
  | pairingCode
  | connected
  | disconnected
  | stopped
deriving DecidableEq

structure PairingStatus where
  status : RuntimeStatus
  registered : Bool
  qr : Option String := none
  qrExpiresAt : Option ℕ := none
  code : Option String := none

/-- `phoneNumber` is that of the account's JID, where it has one. -/
structure Health where
  connected : Bool
  registered : Bool
  phoneNumber : Option String := none
  accountLid : Option String := none
  lastDisconnectReason : Option String := none

structure Capabilities where
  code : Bool

/-- How a request stops: a failure of the sidecar, or an answer to the caller. -/
inductive Stop where
  | unavailable
  | rejected
  | protocolError
  | http (status : ℕ) (detail : String)

def Stop.sidecar : Stop → Bool
  | .http _ _ => false
  | _ => true

inductive SidecarFailure where
  | unavailable
  | rejected
  | protocolError

def SidecarFailure.stop : SidecarFailure → Stop
  | .unavailable => .unavailable
  | .rejected => .rejected
  | .protocolError => .protocolError

inductive PairingCall where
  | status
  | qr
  | code (phoneNumber : String)
  | cancel
  | logout
  | recover
  | retry

inductive Op where
  /-- Load the first session that the query finds. -/
  | find (query : Session → Bool)
  | exist (query : Session → Bool)
  | list (query : Session → Bool)
  /-- Load a session `FOR UPDATE`, or pass over it where another transaction holds its lock. -/
  | lock (id : ℕ) (query : Session → Bool) (skipLocked : Bool)
  | lockAllocation
  | insert (sess : Session)
  | set (id : ℕ) (change : Change)
  | commit
  | rollback
  | capabilities (sidecar : ℕ)
  | health (sidecar : ℕ)
  | pairing (sidecar : ℕ) (call : PairingCall)
  /-- A new channel account of a sidecar session. -/
  | newAccount (sidecar : ℕ)
  /-- A UUID that nobody has used. -/
  | fresh
  | ask
  | now
  /-- How often a logout is tried before its deadline. -/
  | rounds

abbrev Res : Op → Type
  | .find _ => Option (ℕ × Session)
  | .exist _ => Bool
  | .list _ => List ℕ
  | .lock _ _ _ => Option Session
  | .lockAllocation | .set _ _ | .commit | .rollback => Unit
  | .insert _ => ℕ
  | .capabilities _ => Except SidecarFailure Capabilities
  | .health _ => Except SidecarFailure Health
  | .pairing _ _ => Except SidecarFailure PairingStatus
  | .newAccount _ => Account
  | .fresh => ℕ
  | .ask => Bool
  | .now | .rounds => ℕ

abbrev Request (α : Type) := ExceptT Stop (Program Op Res) α
def perform (op : Op) : Request (Res op) := Program.operation op

def fromSidecar {α : Type} : Except SidecarFailure α → Request α
  | .ok ans => pure ans
  | .error err => throw err.stop

variable (sidecar : ℕ)

def capabilities : Request Capabilities := do
  fromSidecar (← perform (.capabilities sidecar))

def health : Request Health := do
  fromSidecar (← perform (.health sidecar))

def pairing (call : PairingCall) : Request PairingStatus := do
  fromSidecar (← perform (.pairing sidecar call))

def require (stop : Stop) : Request Unit := do
  if ¬(← perform .ask) then throw stop

def ownedSession (uid id : ℕ) : Request Session := do
  match ← perform (.lock id (fun sess => sess.userId = uid) false) with
  | none => throw (.http 404 "connection not found")
  | some sess => pure sess

def markSessionError (id : ℕ) (sess : Session) : Request Unit := do
  perform .rollback
  let cur ← ownedSession sess.userId id
  if cur.state ∈ [.connected, .canceled, .expired, .error] then return
  perform (.set id { state := some .error })
  perform .commit

def exceptSidecar {α : Type} (body handler : Request α) : Request α :=
  tryCatch body fun stop => if stop.sidecar then handler else throw stop

def logoutRegisteredPairing (sidecar : ℕ) : ℕ → PairingStatus → Request PairingStatus
  | rounds, obs => do
    if ¬obs.registered then
      if obs.status = .stopped then return obs
      else pairing sidecar .cancel
    else match rounds with
      | 0 => throw .unavailable
      | rounds + 1 =>
        if obs.status = .connected then
          match ← perform (.pairing sidecar .logout) with
          | .ok ans => return ans
          | .error .unavailable => logoutRegisteredPairing sidecar rounds (← pairing sidecar .status)
          | .error err => throw err.stop
        else
          if obs.status ∈ [.starting, .disconnected, .stopped] then
            discard (pairing sidecar .retry)
          logoutRegisteredPairing sidecar rounds (← pairing sidecar .status)

def stopWhatsappPairing (cur : Option PairingStatus) (allowRemoteLogoutRecovery : Bool) : Request PairingStatus := do
  let obs ← match cur with
    | some cur => pure cur
    | none => pairing sidecar .status
  let rounds ← perform .rounds
  if obs.registered then
    if allowRemoteLogoutRecovery then
      let health ← health sidecar
      if health.lastDisconnectReason = some "remote_logged_out" then
        return ← pairing sidecar .recover
    logoutRegisteredPairing sidecar rounds obs
  else if obs.status = .stopped then return obs
  else
    let canceled ← pairing sidecar .cancel
    if canceled.registered then logoutRegisteredPairing sidecar rounds canceled
    else return canceled

end Clawdi.Onboarding
