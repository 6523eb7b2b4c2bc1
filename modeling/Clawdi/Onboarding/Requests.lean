import Clawdi.Onboarding.Session

namespace Clawdi.Onboarding

def onboardingTtl : ℕ := 300
def PairingStatus.released (pairing : PairingStatus) : Bool := pairing.status = .stopped ∧ ¬pairing.registered

variable (userId id : ℕ)

def finalizeConnectedAccount (sess : Session) : Request Unit :=
  tryCatch (do
    require (.http 403 "principal authority is not active")
    require .protocolError
    match sess.channelAccount with
    | none =>
      let acct ← perform (.newAccount sess.sidecarAccountId)
      perform (.set id { channelAccount := some acct })
    | some acct =>
      require .protocolError
      if acct.sidecarAccountId ≠ sess.sidecarAccountId then throw .protocolError
    perform (.set id { state := some .connected })
    perform .commit)
  fun stop => do
    perform .rollback
    throw stop

def applyPairingStatus (sess : Session) (pairing : PairingStatus) (health : Health) : Request Unit := do
  if pairing.status = .connected ∧ pairing.registered then
    if ¬health.connected ∨ ¬health.registered ∨ health.phoneNumber = none ∨
        health.accountLid = none then
      markSessionError id sess
    else finalizeConnectedAccount id sess
  else if pairing.registered then
    if pairing.status ∈ [.starting, .pairingQr, .pairingCode] then
      perform (.set id { state := some .scanned })
    else markSessionError id sess
  else if pairing.status = .pairingQr ∧ pairing.qr.isSome ∧ pairing.qrExpiresAt.isSome then
    let now ← perform .now
    if pairing.qrExpiresAt.any (· ≤ now) then perform (.set id { state := some .generating })
    else perform (.set id { state := some .ready })
  else if pairing.status = .pairingCode ∧ pairing.code.isSome then
    perform (.set id { state := some .ready })
  else if pairing.status = .starting then perform (.set id { state := some .generating })
  else markSessionError id sess

def commitOrMark (sess : Session) (body : Request Unit) : Request Unit := do
  let answered ← exceptSidecar (do body; return true) (do markSessionError id sess; return false)
  if answered then perform .commit

def ensureConnectedTransport (sidecar : ℕ) : Request Unit := do
  require .protocolError
  let health ← health sidecar
  let pairing ← pairing sidecar .status
  if ¬health.registered ∨ ¬pairing.registered then throw .protocolError

def expireSession (sess : Session) : Request Unit := do
  if ¬(← perform .ask) then markSessionError id sess
  else
    let canceled ← exceptSidecar (do
      let health ← health sess.sidecarAccountId
      let cur ← pairing sess.sidecarAccountId .status
      if sess.state ≠ .error ∧ cur.status = .connected ∧ cur.registered then
        if ¬health.connected ∨ health.phoneNumber = none ∨ health.accountLid = none then
          markSessionError id sess
          return none
        else
          finalizeConnectedAccount id sess
          perform .commit
          return none
      else return some (← stopWhatsappPairing sess.sidecarAccountId (some cur) false))
      (do markSessionError id sess; return none)
    match canceled with
    | none => return
    | some canceled =>
      if ¬canceled.released then markSessionError id sess
      else
        perform (.set id { state := some .expired })
        perform .commit

def refreshWhatsappOnboarding : Request Unit := do
  let sess ← ownedSession userId id
  if ¬sess.state.active then return
  if sess.state = .connected then
    exceptSidecar (do
      if sess.channelAccount = none then throw .protocolError
      ensureConnectedTransport sess.sidecarAccountId)
      (throw (.http 503 "WhatsApp account transport is temporarily unavailable"))
  else if sess.expiresAt ≤ (← perform .now) then expireSession id sess
  else if ¬(← perform .ask) then markSessionError id sess
  else commitOrMark id sess do
    discard (capabilities sess.sidecarAccountId)
    let health ← health sess.sidecarAccountId
    let pairing ← pairing sess.sidecarAccountId .status
    applyPairingStatus id sess pairing health

/-- The end of `start_whatsapp_onboarding` and of `retry_whatsapp_onboarding`. -/
def pairByQr (sess : Session) : Request Unit := do
  if ¬(← perform .ask) then markSessionError id sess
  else commitOrMark id sess do
    discard (capabilities sess.sidecarAccountId)
    let pairing ← pairing sess.sidecarAccountId .qr
    let health ← health sess.sidecarAccountId
    applyPairingStatus id sess pairing health

def startWhatsappOnboarding (requestId : ℕ) (name : String) : Request Unit := do
  let requested := fun sess : Session => sess.userId = userId ∧ sess.requestId = requestId
  match ← perform (.find fun sess => requested sess) with
  | some (id, _) => refreshWhatsappOnboarding userId id
  | none =>
    require (.http 503 "WhatsApp account connection is not configured")
    perform .lockAllocation
    match ← perform (.find fun sess => requested sess) with
    | some (id, _) =>
      perform .commit
      refreshWhatsappOnboarding userId id
    | none =>
      require (.http 409 "A WhatsApp account with this name already exists")
      if ← perform (.exist fun sess => sess.userId = userId ∧ sess.name = name ∧
          (sess.state.active ∨ sess.state = .error)) then
        throw (.http 409 "A WhatsApp connection with this name is already in progress")
      let sidecarAccountId ← perform .fresh
      require (.http 503 "WhatsApp account connection is temporarily unavailable")
      let now ← perform .now
      let id ← perform (.insert {
        userId, requestId, name, sidecarAccountId
        channelAccount := none
        state := .generating
        expiresAt := now + onboardingTtl })
      let sess ← ownedSession userId id
      pairByQr id sess

def requestWhatsappPairingCode (phoneNumber : String) : Request Unit := do
  require (.http 422 "Phone number must use country code and digits only")
  let sess ← ownedSession userId id
  if sess.state ∉ [.generating, .ready] then
    throw (.http 409 "This WhatsApp connection cannot request a pairing code")
  if sess.expiresAt ≤ (← perform .now) then expireSession id sess
  else
    require (.http 503 "WhatsApp account connection is temporarily unavailable")
    commitOrMark id sess do
      let capabilities ← capabilities sess.sidecarAccountId
      if ¬capabilities.code then throw (.http 409 "Manual WhatsApp pairing is not supported")
      let pairing ← pairing sess.sidecarAccountId (.code phoneNumber)
      let health ← health sess.sidecarAccountId
      applyPairingStatus id sess pairing health

def cancelWhatsappOnboarding : Request Unit := do
  let unconfirmed := Stop.http 503 "WhatsApp cancellation could not be confirmed"
  let sess ← ownedSession userId id
  if sess.state ∈ [.canceled, .expired] then return
  if sess.state = .connected then
    throw (.http 409 "Disconnect the connected WhatsApp account instead")
  if ¬(← perform .ask) then
    markSessionError id sess
    throw unconfirmed
  let canceled ← exceptSidecar (do
    discard (health sess.sidecarAccountId)
    stopWhatsappPairing sess.sidecarAccountId none true)
    (do markSessionError id sess; throw unconfirmed)
  if ¬canceled.released then
    markSessionError id sess
    throw unconfirmed
  perform (.set id { state := some .canceled })
  perform .commit

def confirmStopped (sess : Session) : Request Unit := do
  let unsafeStop := Stop.http 503 "WhatsApp retry could not safely stop the previous connection"
  require unsafeStop
  let stopped ← exceptSidecar (do
    discard (health sess.sidecarAccountId)
    stopWhatsappPairing sess.sidecarAccountId none true)
    (throw unsafeStop)
  if ¬stopped.released then throw unsafeStop

def retryWhatsappOnboarding : Request Unit := do
  let sess ← ownedSession userId id
  if sess.state.active then refreshWhatsappOnboarding userId id
  else
    require (.http 503 "WhatsApp account connection is not configured")
    if let some acct := sess.channelAccount then
      require (.http 404 "channel not found")
      require (.http 409 "This WhatsApp connection cannot be retried")
      if acct.sidecarAccountId ≠ sess.sidecarAccountId then
        throw (.http 409 "This WhatsApp connection cannot be retried")
      require (.http 503 "WhatsApp account repair is temporarily unavailable")
    if sess.state = .error then confirmStopped sess
    perform .commit
    perform .lockAllocation
    discard (ownedSession userId id)
    require (.http 503 "WhatsApp account connection is temporarily unavailable")
    let now ← perform .now
    perform (.set id { state := some .generating, expiresAt := some (now + onboardingTtl) })
    perform .commit
    let sess ← ownedSession userId id
    pairByQr id sess

inductive RepairReason where
  | missingLid
  | remoteLoggedOut
  | unregistered

def repairReason (health : Health) : Option RepairReason :=
  if health.lastDisconnectReason = some "remote_logged_out" then some .remoteLoggedOut
  else if ¬health.registered then some .unregistered
  else if health.accountLid = none then some .missingLid
  else none

def releaseForRepair (sidecar : ℕ) : RepairReason → Request Unit
  | .remoteLoggedOut => do
    if ¬(← pairing sidecar .recover).released then throw .protocolError
  | .missingLid => do
    if ¬(← pairing sidecar .logout).released then throw .protocolError
  | .unregistered => return

def repairWhatsappAccount (acct : Account) (name : String) : Request Unit := do
  let postponed := Stop.http 503 "WhatsApp account repair is temporarily unavailable"
  require (.http 503 "WhatsApp account repair is not configured")
  perform .lockAllocation
  require (.http 404 "channel not found")
  require (.http 409 "This WhatsApp account cannot be repaired")
  match ← perform (.find fun sess => sess.userId = userId ∧ sess.channelAccount = some acct ∧
      sess.sidecarAccountId = acct.sidecarAccountId ∧ sess.state.open) with
  | some _ => perform .commit
  | none =>
    require postponed
    let (obs, status) ← exceptSidecar (do
      discard (capabilities acct.sidecarAccountId)
      return (← health acct.sidecarAccountId, ← pairing acct.sidecarAccountId .status))
      (throw postponed)
    if obs.registered ≠ status.registered then throw postponed
    match repairReason obs with
    | none => throw (.http 409 "This WhatsApp account does not need repair")
    | some reason =>
      let requestId ← perform .fresh
      let now ← perform .now
      let id ← perform (.insert {
        userId, requestId, name
        sidecarAccountId := acct.sidecarAccountId
        channelAccount := some acct
        state := .generating
        expiresAt := now + onboardingTtl })
      let sess ← ownedSession userId id
      commitOrMark id sess do
        require .protocolError
        releaseForRepair acct.sidecarAccountId reason
        let pairing ← pairing acct.sidecarAccountId .qr
        let health ← health acct.sidecarAccountId
        applyPairingStatus id sess pairing health

/-- `require_whatsapp_logout_for_archive` of a custom account, with the commit of its caller. -/
def requireWhatsappLogoutForArchive (acct : Account) : Request Unit := do
  let unconfirmed := Stop.http 503 "WhatsApp disconnect could not be confirmed"
  require unconfirmed
  let disconnected ← exceptSidecar (do
    let health ← health acct.sidecarAccountId
    let cur ← pairing acct.sidecarAccountId .status
    if health.registered ≠ cur.registered then throw .protocolError
    if cur.registered ∧ health.lastDisconnectReason ≠ some "remote_logged_out" then
      ensureConnectedTransport acct.sidecarAccountId
    stopWhatsappPairing acct.sidecarAccountId (some cur) true)
    (throw unconfirmed)
  if ¬disconnected.released then throw unconfirmed
  match ← perform (.find fun sess => sess.channelAccount = some acct ∧
      sess.userId = userId ∧ sess.state = .connected) with
  | none => perform .commit
  | some (id, _) =>
    perform (.set id { state := some .canceled })
    perform .commit

def expireStaleWhatsappOnboardingSessions : Request Unit := do
  let deadline ← perform .now
  let stale := fun sess : Session => sess.state.open ∧ sess.expiresAt ≤ deadline
  let ids ← perform (.list fun sess => stale sess)
  ids.forM fun id => do
    match ← perform (.lock id (fun sess => stale sess) true) with
    | none => return
    | some sess => expireSession id sess

inductive Call where
  | start (userId requestId : ℕ) (name : String)
  | refresh (userId id : ℕ)
  | requestCode (userId id : ℕ) (phoneNumber : String)
  | cancel (userId id : ℕ)
  | retry (userId id : ℕ)
  | repair (userId : ℕ) (acct : Account) (name : String)
  | expireStale
  | archive (userId : ℕ) (acct : Account)

def Call.request : Call → Request Unit
  | .start userId requestId name => startWhatsappOnboarding userId requestId name
  | .refresh userId id => refreshWhatsappOnboarding userId id
  | .requestCode userId id phoneNumber => requestWhatsappPairingCode userId id phoneNumber
  | .cancel userId id => cancelWhatsappOnboarding userId id
  | .retry userId id => retryWhatsappOnboarding userId id
  | .repair userId acct name => repairWhatsappAccount userId acct name
  | .expireStale => expireStaleWhatsappOnboardingSessions
  | .archive userId acct => requireWhatsappLogoutForArchive userId acct

def Call.archives : Call → Bool
  | .archive _ _ => true
  | _ => false

end Clawdi.Onboarding
