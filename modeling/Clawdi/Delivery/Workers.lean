import Clawdi.Lib.Table
import Mathlib

namespace Clawdi.Delivery

inductive DeliveryStatus
  | pending
  | inProgress
  | succeeded
  | failed
  deriving DecidableEq

def DeliveryStatus.terminal : DeliveryStatus → Bool
  | .succeeded | .failed => true
  | .pending | .inProgress => false

/-- The value of `locked_by`: the name of the worker and what `uuid4` drew for the attempt. -/
structure LeaseToken where
  workerId : String
  uuid : Nat
  deriving DecidableEq

structure ProviderResponse where
  provider : String
  providerMessageId : Option String

/-- A row of `channel_deliveries`, with its times in milliseconds. -/
structure ChannelDelivery where
  id : Nat
  accountId : Nat
  botAgentLinkId : Option Nat
  messageId : Nat
  status : DeliveryStatus
  attempts : Nat
  maxAttempts : Nat
  nextAttemptAt : Nat
  lockedAt : Option Nat
  lockedBy : Option LeaseToken
  lastError : Option String
  providerResponse : Option ProviderResponse
  createdAt : Nat

structure HttpException where
  statusCode : Nat
  detail : Option String
  retryAfter : Option Nat

def deliverySendTimeout : Nat := 120000
def deliveryLease : Nat := deliverySendTimeout + 30000
def deliveryErrorFailed : String := "channel_delivery_failed"
def deliveryLinkLockContentionError : String := "channel agent link is being updated"
def channelProviders : List String := ["telegram", "discord", "whatsapp"]

def title (text : String) : String :=
  let next := fun (st : Bool × List Char) (char : Char) =>
    (char.isAlpha, (if st.1 then char.toLower else char.toUpper) :: st.2)
  String.ofList (text.toList.foldl next (false, [])).2.reverse

variable (exc : HttpException) (prov error : String)

def providerLabel : String :=
  match prov with
  | "telegram" => "Telegram"
  | "discord" => "Discord"
  | "whatsapp" => "WhatsApp"
  | other => title other

def hostedAgentProviderLinkLimitDetail : String :=
  "This Agent has multiple active " ++ providerLabel prov ++ " bots. " ++
    "Unlink the extras until only one remains."

def deliveryErrorCodes : List (String × String) :=
  [("channel account archived", "channel_account_inactive"),
   ("channel account is not active", "channel_account_inactive"),
   ("channel agent link archived", "channel_agent_link_archived"),
   ("channel agent link has no managed runtime authority", "channel_agent_link_authority_missing"),
   (deliveryLinkLockContentionError, "channel_agent_link_update_contended"),
   ("channel binding archived", "channel_binding_inactive"),
   ("channel delivery has no active binding", "channel_binding_inactive"),
   ("channel message not found", "channel_message_missing"),
   ("channel account has no provider token configured", "channel_provider_credential_unavailable"),
   ("telegram api unreachable", "channel_provider_unreachable"),
   ("discord api unreachable", "channel_provider_unreachable"),
   ("whatsapp provider transport unavailable", "channel_provider_unreachable"),
   ("telegram api rate limited", "channel_provider_rate_limited"),
   ("discord api rate limited", "channel_provider_rate_limited"),
   ("telegram api rejected message", "channel_provider_rejected"),
   ("discord api rejected message", "channel_provider_rejected"),
   ("whatsapp provider transport rejected message", "channel_provider_rejected"),
   ("whatsapp provider payload target mismatch", "channel_provider_rejected"),
   ("channel delivery failed", deliveryErrorFailed),
   (hostedAgentProviderLinkLimitDetail "telegram", "channel_agent_link_authority_missing"),
   (hostedAgentProviderLinkLimitDetail "discord", "channel_agent_link_authority_missing")]

def deliveryErrorCode : String := (deliveryErrorCodes.lookup error).getD deliveryErrorFailed
def HttpException.text : String := exc.detail.getD "channel delivery failed"
def isDeliveryLinkLockContention : Bool := exc.statusCode = 503 && exc.text = deliveryLinkLockContentionError

def storedError (useSafeDiagnostics : Bool) : String :=
  if useSafeDiagnostics then deliveryErrorCode error else String.ofList (error.toList.take 1000)

namespace ChannelDelivery

def unlocked (delivery : ChannelDelivery) (error : Option String) : ChannelDelivery :=
  { delivery with lockedAt := none, lockedBy := none, lastError := error }

/-- The status that `_channel_delivery_retry_status` computes. -/
def retryStatus (delivery : ChannelDelivery) : DeliveryStatus :=
  if delivery.maxAttempts ≤ delivery.attempts then .failed else .pending

def claimed (delivery : ChannelDelivery) (token : LeaseToken) (now : Nat) : ChannelDelivery :=
  { delivery with
    status := .inProgress, lockedAt := some now, lockedBy := some token
    attempts := delivery.attempts + 1 }

def returned (delivery : ChannelDelivery) (now : Nat) : ChannelDelivery :=
  { delivery.unlocked (some deliveryErrorFailed) with
    status := delivery.retryStatus, nextAttemptAt := now }

def retryDelay (atts : Nat) : Option Nat → Nat
  | some retryAfter => min (max retryAfter 100) 3600000
  | none => min (2 ^ (atts - 1)) 300 * 1000

def scheduleDeliveryRetry (delivery : ChannelDelivery) (error : String) (useSafeDiagnostics : Bool)
    (retryAfter : Option Nat) (now : Nat) : ChannelDelivery :=
  let unlocked := delivery.unlocked (some (storedError error useSafeDiagnostics))
  if delivery.maxAttempts ≤ delivery.attempts then { unlocked with status := .failed }
  else
    { unlocked with
      status := .pending, nextAttemptAt := now + retryDelay delivery.attempts retryAfter }

def scheduleDeliveryLinkContentionRetry (delivery : ChannelDelivery) (error : String)
    (useSafeDiagnostics : Bool) (now : Nat) : ChannelDelivery :=
  let refundedAttempts := delivery.attempts - 1
  { delivery.unlocked (some (storedError error useSafeDiagnostics)) with
    attempts := refundedAttempts, status := .pending
    nextAttemptAt := now + min (2 ^ refundedAttempts) 30 * 1000 }

def failDelivery (delivery : ChannelDelivery) (error : String) (useSafeDiagnostics : Bool) : ChannelDelivery :=
  { delivery.unlocked (some (storedError error useSafeDiagnostics)) with status := .failed }

def applyDeliveryError (delivery : ChannelDelivery) (exc : HttpException) (prov : Option String)
    (now : Nat) : ChannelDelivery :=
  let useSafeDiagnostics := prov.any (· ∈ channelProviders)
  if exc.statusCode = 429 then
    delivery.scheduleDeliveryRetry exc.text useSafeDiagnostics exc.retryAfter now
  else if isDeliveryLinkLockContention exc then
    delivery.scheduleDeliveryLinkContentionRetry exc.text useSafeDiagnostics now
  else if exc.statusCode < 500 then delivery.failDelivery exc.text useSafeDiagnostics
  else delivery.scheduleDeliveryRetry exc.text useSafeDiagnostics none now

lemma applyDeliveryError_id (delivery : ChannelDelivery) (exc : HttpException)
    (prov : Option String) (now : Nat) : (delivery.applyDeliveryError exc prov now).id = delivery.id := by
  rw [applyDeliveryError]
  split
  · rw [scheduleDeliveryRetry]
    split <;> rfl
  split
  · rfl
  split
  · rfl
  · rw [scheduleDeliveryRetry]
    split <;> rfl

def succeeded (delivery : ChannelDelivery) (resp : ProviderResponse) : ChannelDelivery :=
  { delivery.unlocked none with status := .succeeded, providerResponse := some resp }

end ChannelDelivery

abbrev Deliveries := Table ChannelDelivery.id

inductive SendFailure
  | notImplemented (prov : String)
  | noProviderToken
  | unresolved (label : String)
  | unsafeUrl (prov : String)
  | rateLimited (prov : String) (retryAfter : Option Nat)
  | unreachable (prov : String)
  | rejected (prov : String)
  | invalidResponse (prov : String)
  | invalidMessage (prov : String)
  | transportUnavailable
  | transportRejected
  | invalidPayload (detail : String)
  | targetMismatch
  | unexpected

def SendFailure.exception : SendFailure → HttpException
  | .notImplemented prov => ⟨501, prov ++ " send is not implemented yet", none⟩
  | .noProviderToken => ⟨400, "channel account has no provider token configured", none⟩
  | .unresolved label => ⟨503, label ++ " could not resolve to a public host", some 1000⟩
  | .unsafeUrl prov => ⟨400, prov ++ " provider url must be a public https URL", none⟩
  | .rateLimited prov retryAfter => ⟨429, prov ++ " api rate limited", retryAfter⟩
  | .unreachable prov => ⟨502, prov ++ " api unreachable", none⟩
  | .rejected prov => ⟨502, prov ++ " api rejected message", none⟩
  | .invalidResponse prov => ⟨502, prov ++ " provider returned an invalid response", none⟩
  | .invalidMessage prov => ⟨502, prov ++ " api returned an invalid message", none⟩
  | .transportUnavailable => ⟨503, "whatsapp provider transport unavailable", none⟩
  | .transportRejected => ⟨502, "whatsapp provider transport rejected message", none⟩
  | .invalidPayload detail => ⟨400, "invalid whatsapp provider " ++ detail, none⟩
  | .targetMismatch => ⟨403, "whatsapp provider payload target mismatch", none⟩
  | .unexpected => ⟨502, "channel delivery failed", none⟩

inductive Outcome
  | sent (providerMessageId : Option String)
  | raised (err : SendFailure)

/-- What a transaction reads outside of `channel_deliveries`; `linkLocked` are the links whose row
another transaction holds. -/
structure Lookups where
  provider : Nat → String
  accountActive : Nat → Bool
  linkActive : Nat → Option Bool
  linkLocked : Nat → Bool
  strictV2Authority : Nat → Bool
  providerCardinality : Nat → Bool
  messageBinding : Nat → Option (Option Nat)
  bindingActive : Nat → Bool

section
variable (lookups : Lookups) (delivery : ChannelDelivery)

def deliveryAccount : Except HttpException String :=
  if lookups.accountActive delivery.accountId then .ok (lookups.provider delivery.accountId)
  else .error ⟨400, "channel account is not active", none⟩

def lockActiveDeliveryLink : Except HttpException (Option Nat) :=
  match delivery.botAgentLinkId with
  | none => .ok none
  | some link =>
    if lookups.linkActive link = some true then
      if lookups.linkLocked link then .error ⟨503, deliveryLinkLockContentionError, none⟩
      else .ok (some link)
    else .error ⟨400, "channel agent link archived", none⟩

def deliveryMessage : Except HttpException (Option Nat) :=
  match lookups.messageBinding delivery.messageId with
  | none => .error ⟨400, "channel message not found", none⟩
  | some bind => .ok bind

def lockActiveDeliveryBinding (bid : Option Nat) : Except HttpException Unit :=
  match delivery.botAgentLinkId, bid with
  | none, _ => .ok ()
  | some _, none => .error ⟨400, "channel delivery has no active binding", none⟩
  | some _, some bind =>
    if lookups.bindingActive bind then .ok ()
    else .error ⟨400, "channel binding archived", none⟩

/-- The checks inside the `try` of `_prepare_channel_delivery_send`. -/
def prepareChecks : Except HttpException String := do
  let prov ← deliveryAccount lookups delivery
  match ← lockActiveDeliveryLink lookups delivery with
  | none => pure ()
  | some link =>
    if !lookups.strictV2Authority link then
      throw ⟨400, some "channel agent link has no managed runtime authority", none⟩
    if !lookups.providerCardinality link then
      throw ⟨409, some (hostedAgentProviderLinkLimitDetail prov), none⟩
  let bid ← deliveryMessage lookups delivery
  lockActiveDeliveryBinding lookups delivery bid
  return prov

end

inductive Stage
  | idle
  | claimed (delivery : Nat) (token : LeaseToken)
  | sending (delivery : Nat) (token : LeaseToken) (prov : String) (preparedAt : Nat)
  | ended (delivery : Nat) (token : LeaseToken) (prov : String) (out : Outcome)
  | cancelled (delivery : Nat) (token : LeaseToken)

/-- The queue, the workers, and one entry for each provider send that began, the last first. -/
structure World where
  deliveries : Deliveries
  workers : List Stage
  nextUuid : Nat
  now : Nat
  sends : List Nat

namespace World

def start : World :=
  { deliveries := Table.empty, workers := [], nextUuid := 0, now := 0, sends := [] }

variable (w : World) (ids : List Nat) (worker : Nat) (view : View) (now limit id : Nat)
variable (locked : Nat → Bool) (token : LeaseToken) (prov : String)

def setWorker (stage : Stage) : World :=
  { w with workers := w.workers.set worker stage }

/-- The active accounts and links, the locked rows, and the order of rows with the same times. -/
structure View where
  accountActive : Nat → Bool
  linkActive : Nat → Bool
  locked : Nat → Bool
  position : Nat → Nat

def View.claimable (delivery : ChannelDelivery) : Bool :=
  delivery.status = .pending && delivery.nextAttemptAt ≤ now &&
    view.accountActive delivery.accountId && delivery.botAgentLinkId.all view.linkActive &&
    !view.locked delivery.id

def View.order (delivery : ChannelDelivery) : Nat ×ₗ Nat ×ₗ Nat :=
  toLex (delivery.nextAttemptAt, toLex (delivery.createdAt, view.position delivery.id))

/-- The row that `claim_next_channel_delivery` locks. -/
def nextDelivery : Option ChannelDelivery := (w.deliveries.select (view.claimable w.now) view.order).head?

def enqueue (acctId mid : Nat) (link : Option Nat) : World :=
  match w.deliveries.get id with
  | some _ => w
  | none =>
    { w with
      deliveries := w.deliveries.put
        { id := id, accountId := acctId, botAgentLinkId := link, messageId := mid
          status := .pending, attempts := 0, maxAttempts := 5, nextAttemptAt := w.now
          lockedAt := none, lockedBy := none, lastError := none, providerResponse := none
          createdAt := w.now } }

def claim (workerId : String) (view : View) : World :=
  match w.nextDelivery view with
  | none => w
  | some delivery =>
    let token : LeaseToken := ⟨workerId, w.nextUuid⟩
    { w.setWorker worker (.claimed delivery.id token) with
      deliveries := w.deliveries.put (delivery.claimed token w.now)
      nextUuid := w.nextUuid + 1 }

/-- `_owned_delivery_for_update`: the row, if the token is still its own. -/
def ownedDelivery : Option ChannelDelivery :=
  (w.deliveries.get id).filter fun delivery =>
    delivery.status = .inProgress && delivery.lockedBy = some token

/-- `_prepare_channel_delivery_send`; a send begins at the commit that follows. -/
def prepare (lookups : Lookups) : World :=
  match w.ownedDelivery id token with
  | none => w.setWorker worker .idle
  | some owned =>
    match prepareChecks lookups owned with
    | .error exc =>
      { w.setWorker worker .idle with
        deliveries := w.deliveries.put
          (owned.applyDeliveryError exc (some (lookups.provider owned.accountId)) w.now) }
    | .ok prov =>
      { w.setWorker worker (.sending id token prov w.now) with
        deliveries := w.deliveries.put { owned with lockedAt := some w.now }
        sends := id :: w.sends }

def safeDeliveryProviderResponse (providerMessageId : Option String) : ProviderResponse :=
  ⟨prov, providerMessageId.map fun id => String.ofList (id.toList.take 300)⟩

def finalize (out : Outcome) : World :=
  match w.ownedDelivery id token with
  | none => w.setWorker worker .idle
  | some owned =>
    let wrote := match out with
      | .raised err => owned.applyDeliveryError err.exception (some prov) w.now
      | .sent providerMessageId => owned.succeeded (safeDeliveryProviderResponse prov providerMessageId)
    { w.setWorker worker .idle with deliveries := w.deliveries.put wrote }

def release : World :=
  match w.ownedDelivery id token with
  | none => w.setWorker worker .idle
  | some owned => { w.setWorker worker .idle with deliveries := w.deliveries.put (owned.returned w.now) }

def expired (delivery : ChannelDelivery) : Bool :=
  delivery.status = .inProgress && delivery.lockedAt.all fun lockedAt => lockedAt + deliveryLease ≤ now

/-- The ids that `reap_expired_channel_delivery_leases` locks. -/
def expiredIds : List Nat :=
  ((w.deliveries.select (fun delivery => expired w.now delivery && !locked delivery.id)
    ChannelDelivery.id).take limit).map ChannelDelivery.id

def reaped (delivery : ChannelDelivery) : ChannelDelivery :=
  if delivery.id ∈ ids then delivery.returned now else delivery

lemma reaped_id (delivery : ChannelDelivery) : (reaped ids now delivery).id = delivery.id := by
  rw [reaped]
  split <;> rfl

def reap : World :=
  let ids := w.expiredIds limit locked
  { w with
    deliveries := w.deliveries.update (reaped ids w.now) (reaped_id ids w.now) }

end World

def Stage.inTime (now : Nat) : Stage → Bool
  | .sending _ _ _ preparedAt => now < preparedAt + deliveryLease
  | _ => true

inductive Action
  | enqueue (id acctId mid : Nat) (link : Option Nat)
  | start
  | claim (worker : Nat) (workerId : String) (view : World.View)
  | prepare (worker : Nat) (lookups : Lookups)
  | sent (worker : Nat) (out : Outcome)
  | cancel (worker : Nat)
  | finalize (worker : Nat)
  | release (worker : Nat)
  | crash (worker : Nat)
  | reap (limit : Nat) (locked : Nat → Bool)
  | wait (duration : Nat)

def step (w : World) : Action → World
  | .enqueue id acctId mid link => w.enqueue id acctId mid link
  | .start => { w with workers := w.workers ++ [.idle] }
  | .claim worker workerId view =>
    match w.workers[worker]? with
    | some .idle => w.claim worker workerId view
    | _ => w
  | .prepare worker lookups =>
    match w.workers[worker]? with
    | some (.claimed id token) => w.prepare worker id token lookups
    | _ => w
  | .sent worker out =>
    match w.workers[worker]? with
    | some (.sending id token prov _) => w.setWorker worker (.ended id token prov out)
    | _ => w
  | .cancel worker =>
    match w.workers[worker]? with
    | some (.sending id token _ _) => w.setWorker worker (.cancelled id token)
    | _ => w
  | .finalize worker =>
    match w.workers[worker]? with
    | some (.ended id token prov out) => w.finalize worker id token prov out
    | _ => w
  | .release worker =>
    match w.workers[worker]? with
    | some (.cancelled id token) => w.release worker id token
    | _ => w
  | .crash worker => w.setWorker worker .idle
  | .reap limit locked => w.reap limit locked
  -- a send is over before its lease is
  | .wait duration =>
    if w.workers.all (Stage.inTime (w.now + duration)) then
      { w with now := w.now + duration }
    else w

end Clawdi.Delivery
