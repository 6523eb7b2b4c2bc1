import Clawdi.Observation.Consumer

namespace Clawdi.Observation

inductive RuntimeObservationIngestOutcome
  | acceptedHeadCreated
  | acceptedHeadAdvanced
  | acceptedNonAdvanceSequence
  | acceptedNonAdvanceCapturedAt
  | duplicateReplay
deriving DecidableEq

structure RuntimeObservationIngestResult where
  eventId : String
  streamPosition : Nat
  duplicate : Bool
  outcome : RuntimeObservationIngestOutcome

/-- One delivery of an event; `winner` is a row of another environment that commits before its insertion. -/
structure IngestRequest where
  environmentId : Uuid
  credentialDeploymentId : String
  value : RuntimeObservationEventV2
  receivedAt : Time
  winner : Option { row : V2RuntimeObservationInbox // row.environmentId ≠ environmentId }

variable (cfg : Settings) (tombstonedAt : Time) (environmentId : Uuid)
variable (row : V2RuntimeObservationInbox) (req : IngestRequest) (now : Time)
variable (v : RuntimeObservationEventV2) (fence : V2RuntimeEnvironmentFence) (capturedAt : Time)
variable (head : V2RuntimeObservationHead) (rows : List V2RuntimeObservationInbox) (db : Db)
variable (view : HeadView)

def companionIdentity : RuntimeApplyIdentity where
  generation := v.generation.toOption.getD v.applied.generation
  manifestEtag := v.manifestEtag.toOption.getD v.applied.etag
  applyReceiptId := v.applyReceiptId
  bootNonce := v.bootNonce

def payloadHash : Digest := cfg.canonicalJsonHash v.modelDump

def observationSemanticHash (payload : Payload) : Digest :=
  cfg.canonicalJsonHash
    (payload.filter fun item => item.1 ∉ ["eventId", "sequence", "reportedAt", "capturedAt"])

def semanticHash : Digest := observationSemanticHash cfg v.modelDump
def freshnessDeadline : Time := capturedAt + seconds cfg.freshnessSeconds

def WithinCaptureWindow : Prop :=
  capturedAt ≤ now + seconds cfg.maxFutureSkewSeconds ∧ now - days cfg.maxCaptureAgeDays ≤ capturedAt

instance (cfg : Settings) (now capturedAt : Time) :
    Decidable (WithinCaptureWindow cfg now capturedAt) := inferInstanceAs (Decidable (_ ∧ _))

def checkCaptureWindow : Except Failure Unit :=
  if now + seconds cfg.maxFutureSkewSeconds < capturedAt then
    raise 422 "runtime_observation_captured_at_in_future"
      "runtime observation capturedAt exceeds the allowed clock skew"
  else if capturedAt < now - days cfg.maxCaptureAgeDays then
    raise 422 "runtime_observation_captured_at_too_old"
      "runtime observation capturedAt is outside the accepted transport age"
  else .ok ()

def retireRuntimeObservationHead : V2RuntimeObservationHead :=
  { head with state := .retired tombstonedAt }

inductive HeadVerdict
  | duplicate
  | coalesce (view : HeadView)
  | append (view : HeadView)

def admitToHead (v : RuntimeObservationEventV2) : Except Failure HeadVerdict :=
  if head.identity ≠ companionIdentity v then
    raise 409 "runtime_observation_identity_conflict"
      "boot session is already bound to another apply identity"
  else if v.sequence = head.highestSequence ∧ v.eventId = head.lastSeenEventId ∧
      payloadHash cfg v = head.lastSeenPayloadHash then .ok .duplicate
  else
    match head.state with
    | .retired _ => raise 409 "runtime_environment_retired" "retired boot-session tombstones are immutable"
    | .active view =>
      if v.predecessorBootSessionId.toOption.isSome then
        raise 409 "runtime_observation_handoff_conflict"
          "boot-session handoff is only valid when creating its successor"
      else if v.successorBootSessionId.toOption.isSome ∧ head.authorizedSuccessorBootSessionId.isSome ∧
          head.authorizedSuccessorBootSessionId ≠ v.successorBootSessionId.toOption then
        raise 409 "runtime_observation_successor_conflict"
          "boot session already authorizes another successor"
      else if v.sequence = head.highestSequence then
        raise 409 "runtime_observation_event_conflict"
          "runtime observation identity was reused with different event data"
      else if head.latestSemanticHash = some (semanticHash cfg v) ∧
          head.highestSequence < v.sequence ∧ view.capturedAt ≤ v.capturedAt then
        .ok (.coalesce view)
      else .ok (.append view)

def coalescedHead (v : RuntimeObservationEventV2) : V2RuntimeObservationHead :=
  { head with
    highestSequence := v.sequence
    lastSeenEventId := v.eventId
    lastSeenPayloadHash := payloadHash cfg v
    lastSeenReceivedAt := now
    state := .active { view with
      capturedAt := v.capturedAt
      freshnessDeadline := freshnessDeadline cfg v.capturedAt } }

def existingByEvent (eventId : String) (rows : List V2RuntimeObservationInbox) : Option V2RuntimeObservationInbox :=
  rows.find? fun row => row.eventId = eventId

def existingBySequence (bootSessionId : BootSessionId) (seq : Nat)
    (rows : List V2RuntimeObservationInbox) : Option V2RuntimeObservationInbox :=
  rows.find? fun row => row.environmentId = environmentId ∧ row.bootSessionId = bootSessionId ∧ row.sequence = seq

def duplicateOrConflict : Except Failure RuntimeObservationIngestResult :=
  match existingByEvent v.eventId rows,
    existingBySequence environmentId v.bootSessionId v.sequence rows with
  | some byEvent, some bySequence =>
    if byEvent.id = bySequence.id ∧ byEvent.environmentId = environmentId ∧
        byEvent.bootSessionId = v.bootSessionId ∧ byEvent.sequence = v.sequence ∧
        byEvent.eventId = v.eventId ∧ byEvent.payloadHash = payloadHash cfg v then
      .ok ⟨byEvent.eventId, byEvent.id, true, .duplicateReplay⟩
    else conflict
  | _, _ => conflict
where
  conflict : Except Failure RuntimeObservationIngestResult :=
    raise 409 "runtime_observation_event_conflict"
      "runtime observation identity was reused with different event data"

def authorizedPredecessor : Except Failure (Option V2RuntimeObservationHead) :=
  match v.predecessorBootSessionId.toOption with
  | none => .ok none
  | some predecessorId =>
    match db.heads.get (environmentId, predecessorId) with
    | none => conflict
    | some pred =>
      if pred.isActive = false ∨ pred.identity ≠ companionIdentity v ∨
          pred.authorizedSuccessorBootSessionId ≠ some v.bootSessionId then conflict
      else .ok (some pred)
where
  conflict : Except Failure (Option V2RuntimeObservationHead) :=
    raise 409 "runtime_observation_handoff_conflict"
      "boot-session predecessor did not authorize this exact successor"

def inboxRow (deploymentId : String) (id : Nat) : V2RuntimeObservationInbox where
  id := id
  environmentId := req.environmentId
  deploymentId := deploymentId
  identity := companionIdentity req.value
  bootSessionId := req.value.bootSessionId
  sequence := req.value.sequence
  eventId := req.value.eventId
  reportedAt := req.value.reportedAt
  capturedAt := req.value.capturedAt
  receivedAt := req.receivedAt
  freshnessDeadline := freshnessDeadline cfg req.value.capturedAt
  payloadHash := payloadHash cfg req.value
  health := req.value.status
  diagnostics := req.value.modelDump
  payloadPurgedAt := none

def insertable : Bool :=
  (existingByEvent row.eventId rows).isNone &&
    (existingBySequence row.environmentId row.bootSessionId row.sequence rows).isNone &&
      decide (0 < row.identity.generation)

def createdHead : V2RuntimeObservationHead where
  environmentId := row.environmentId
  bootSessionId := row.bootSessionId
  deploymentId := row.deploymentId
  identity := row.identity
  authorizedSuccessorBootSessionId := v.successorBootSessionId.toOption
  highestSequence := row.sequence
  latestStreamPosition := row.id
  latestEventId := row.eventId
  latestPayloadHash := row.payloadHash
  lastSeenEventId := row.eventId
  lastSeenPayloadHash := row.payloadHash
  lastSeenReceivedAt := row.receivedAt
  latestSemanticHash := some (semanticHash cfg v)
  state := .active ⟨row.capturedAt, row.freshnessDeadline, row.health⟩

def authorizeSuccessor : V2RuntimeObservationHead :=
  { head with authorizedSuccessorBootSessionId :=
      head.authorizedSuccessorBootSessionId.or v.successorBootSessionId.toOption }

def advancedHead : V2RuntimeObservationHead :=
  { authorizeSuccessor v head with
    highestSequence := row.sequence
    latestStreamPosition := row.id
    latestEventId := row.eventId
    latestPayloadHash := row.payloadHash
    lastSeenEventId := row.eventId
    lastSeenPayloadHash := row.payloadHash
    lastSeenReceivedAt := row.receivedAt
    latestSemanticHash := some (semanticHash cfg v)
    state := .active ⟨row.capturedAt, row.freshnessDeadline, row.health⟩ }

/-- Every unique event becomes inbox evidence; only a later sequence that was not captured
earlier replaces the head. -/
def recordOnHead : RuntimeObservationIngestOutcome × V2RuntimeObservationHead :=
  if head.highestSequence < v.sequence ∧ view.capturedAt ≤ v.capturedAt then
    (.acceptedHeadAdvanced, advancedHead cfg row v head)
  else if v.sequence ≤ head.highestSequence then
    (.acceptedNonAdvanceSequence, authorizeSuccessor v head)
  else (.acceptedNonAdvanceCapturedAt, authorizeSuccessor v head)

def nextRow : V2RuntimeObservationInbox := inboxRow cfg req fence.deploymentId (db.inboxSequence + 1)

def storeRow : Db :=
  { db with
    inboxSequence := row.id
    inbox := db.inbox.put row
    fences := db.fences.put { fence with streamHighWater := row.id } }

def retirePredecessor (heads : Table headKey) : Option V2RuntimeObservationHead → Table headKey
  | none => heads
  | some pred => heads.put (retireRuntimeObservationHead tombstonedAt pred)

/-- The tail of ingestion, from the inbox lookups on. -/
def appendObservation (head : Option (V2RuntimeObservationHead × HeadView)) (db : Db) :
    Except Failure (RuntimeObservationIngestResult × Db) := do
  let v := req.value
  if (existingByEvent v.eventId db.inbox.rows).isSome ∨
      (existingBySequence req.environmentId v.bootSessionId v.sequence
        db.inbox.rows).isSome then
    let res ← duplicateOrConflict cfg req.environmentId v db.inbox.rows
    return (res, db)
  else
    let pred ← if head.isNone then authorizedPredecessor req.environmentId v db
      else .ok none
    let row := nextRow cfg req fence db
    let done := (req.winner.map (·.val)).toList ++ db.inbox.rows
    if insertable row done = false then
      let res ← duplicateOrConflict cfg req.environmentId v done
      return (res, db)
    else
      let stored := storeRow row fence db
      match head with
      | none =>
        let retired := retirePredecessor req.receivedAt stored.heads pred
        return (⟨v.eventId, row.id, false, .acceptedHeadCreated⟩,
          { stored with heads := retired.put (createdHead cfg row v) })
      | some (head, view) =>
        let (out, noted) := recordOnHead cfg row v head view
        return (⟨v.eventId, row.id, false, out⟩, { stored with heads := stored.heads.put noted })

def ingestRuntimeObservation : Except Failure (RuntimeObservationIngestResult × Db) := do
  let v := req.value
  checkCaptureWindow cfg req.receivedAt v.capturedAt
  let fence ← requireActiveRuntimeEnvironmentFence req.environmentId none none db
  if fence.deploymentId ≠ req.credentialDeploymentId then
    raise 403 "runtime_observation_credential_mismatch"
      "runtime credential deployment binding does not match the environment fence"
  else
    match db.heads.get (req.environmentId, v.bootSessionId) with
    | none => appendObservation cfg req fence none db
    | some head =>
      match ← admitToHead cfg head v with
      | .duplicate => return (⟨v.eventId, head.latestStreamPosition, true, .duplicateReplay⟩, db)
      | .coalesce view =>
        let refreshed := coalescedHead cfg req.receivedAt head view v
        return (⟨v.eventId, head.latestStreamPosition, false, .acceptedHeadAdvanced⟩,
          { db with heads := db.heads.put refreshed })
      | .append view => appendObservation cfg req fence (some (head, view)) db

end Clawdi.Observation
