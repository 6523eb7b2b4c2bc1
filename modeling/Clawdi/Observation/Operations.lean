import Clawdi.Observation.Ingest
import Clawdi.Lib.Transition

namespace Clawdi.Observation

structure EvidenceReference where
  eventId : String
  cursor : OpaqueCursor

def evidenceReference (settings : Settings) (eventId : String) (environmentId : Uuid)
    (consumerId : String) (cursorEpoch : Uuid) (streamPosition : Nat) : Except Failure EvidenceReference := do
  let cursor ← encodeRuntimeObservationCursor settings environmentId consumerId cursorEpoch streamPosition
  return ⟨eventId, cursor⟩

structure EventPayload where
  runtimeIdentity : RuntimeApplyIdentity × BootSessionId
  sequence : Nat
  capturedAt : Time
  receivedAt : Time
  freshnessDeadline : Time
  evidenceReference : EvidenceReference
  payloadHash : Digest
  health : RuntimeObservedStatus
  diagnostics : Payload

structure HeadPayload where
  runtimeIdentity : RuntimeApplyIdentity × BootSessionId
  sequence : Nat
  capturedAt : Option Time
  freshnessDeadline : Option Time
  evidenceReference : EvidenceReference
  payloadHash : Digest
  health : Option RuntimeObservedStatus

structure ReadRequest where
  binding : ConsumerBinding
  expectedApplyIdentity : RuntimeApplyIdentity
  limit : Nat

structure ReadResponse where
  environmentId : Uuid
  deploymentId : String
  consumerId : String
  expectedApplyIdentity : RuntimeApplyIdentity
  heads : List HeadPayload
  events : List EventPayload
  streamHighWaterCursor : OpaqueCursor
  nextCursor : OpaqueCursor
  hasMore : Bool

def eventPayload (settings : Settings) (binding : ConsumerBinding) (cursorEpoch : Uuid)
    (event : V2RuntimeObservationInbox) : Except Failure EventPayload := do
  let ref ← evidenceReference settings event.eventId binding.environmentId binding.consumerId cursorEpoch event.id
  return { runtimeIdentity := (event.identity, event.bootSessionId)
           sequence := event.sequence
           capturedAt := event.capturedAt
           receivedAt := event.receivedAt
           freshnessDeadline := event.freshnessDeadline
           evidenceReference := ref
           payloadHash := event.payloadHash
           health := event.health
           diagnostics := event.diagnostics }

def headPayload (settings : Settings) (binding : ConsumerBinding) (cursorEpoch : Uuid)
    (page : List EventPayload) (head : V2RuntimeObservationHead) : Except Failure HeadPayload := do
  let ref ←
    match page.find? (fun event => event.evidenceReference.eventId = head.latestEventId) with
    | some event => pure event.evidenceReference
    | none =>
      evidenceReference settings head.latestEventId binding.environmentId binding.consumerId
        cursorEpoch head.latestStreamPosition
  return { runtimeIdentity := (head.identity, head.bootSessionId)
           sequence := head.highestSequence
           capturedAt := head.capturedAt
           freshnessDeadline := head.freshnessDeadline
           evidenceReference := ref
           payloadHash := head.latestPayloadHash
           health := head.health }

def streamRows (environmentId : Uuid) (after highWater : Nat) (db : Db) : List V2RuntimeObservationInbox :=
  db.inbox.select (fun row => row.environmentId = environmentId ∧ after < row.id ∧ row.id ≤ highWater) (·.id)

/-- The page loop; leading rows of another identity move `skippedMismatchPosition`. -/
def matchingPrefix (expected : RuntimeApplyIdentity) (start : Nat) :
    List V2RuntimeObservationInbox → List V2RuntimeObservationInbox → Nat → List V2RuntimeObservationInbox × Nat
  | [], found, skipped => (found, skipped)
  | event :: events, found, skipped =>
    if event.identity ≠ expected then
      if found ≠ [] then (found, skipped)
      else matchingPrefix expected start events found event.id
    else if skipped ≠ start then (found, skipped)
    else matchingPrefix expected start events (found ++ [event]) skipped

/-- The answer to a read whose cursor was accepted at `position`. -/
def readPage (settings : Settings) (req : ReadRequest) (fence : V2RuntimeEnvironmentFence)
    (cursor : V2RuntimeObservationConsumerCursor) (pos : Nat) (db : Db) : Except Failure ReadResponse := do
  let binding := req.binding
  let rows := (streamRows binding.environmentId pos fence.streamHighWater db).take (req.limit + 1)
  let (found, skipped) := matchingPrefix req.expectedApplyIdentity pos rows [] pos
  let page := found.take req.limit
  let nextPosition := (page.getLast?.map (·.id)).getD skipped
  let activeHeads := (environmentHeads binding.environmentId db).filter fun head =>
    head.isActive && decide (head.identity = req.expectedApplyIdentity)
  let events ← page.mapM (eventPayload settings binding cursor.cursorEpoch)
  let heads ← activeHeads.mapM (headPayload settings binding cursor.cursorEpoch events)
  let streamHighWaterCursor ← encodeRuntimeObservationCursor settings binding.environmentId
    binding.consumerId cursor.cursorEpoch fence.streamHighWater
  let nextCursor ← encodeRuntimeObservationCursor settings binding.environmentId
    binding.consumerId cursor.cursorEpoch nextPosition
  return { environmentId := binding.environmentId
           deploymentId := binding.deploymentId
           consumerId := binding.consumerId
           expectedApplyIdentity := req.expectedApplyIdentity
           heads := heads
           events := events
           streamHighWaterCursor := streamHighWaterCursor
           nextCursor := nextCursor
           hasMore := decide (req.limit < found.length) }

def readRuntimeObservations (settings : Settings) (now : Time) (epoch : Uuid)
    (req : ReadRequest) (afterCursor : OpaqueCursor) (db : Db) : Except Rejection ReadResponse := do
  let binding := req.binding
  let fence ← liftFailure (boundFence binding db)
  match db.cursors.get (binding.environmentId, binding.consumerId) with
  | none => raiseExpired (initializeExpiredConsumer settings now epoch fence binding.consumerId db)
  | some cursor =>
    let expire := expireInvalidCursor settings now fence binding.consumerId db
    let decoded ← validateOrExpire settings afterCursor binding.environmentId binding.consumerId cursor expire
    if decoded.streamPosition < fence.replayFloorStreamPosition then raiseExpired expire
    else if fence.streamHighWater < decoded.streamPosition then raiseExpired expire
    else liftFailure (readPage settings req fence cursor decoded.streamPosition db)

structure RuntimeEnvironmentRetirementResult where
  receipt : RuntimeEnvironmentRetirementReceipt
  transitioned : Bool
  finalStreamPosition : Nat
  finalSessionHighWaters : SessionHighWaters

def validatedRetirementReceipt (fence : V2RuntimeEnvironmentFence) (retirement : Retirement) :
    Except Failure RuntimeEnvironmentRetirementReceipt :=
  let receipt := retirement.retirementReceipt
  let marks := receipt.finalSessionHighWaterMarks
  if receipt.retirementId = "" ∨ 200 < receipt.retirementId.length ∨
      receipt.environmentReference ≠ fence.environmentId ∨
      receipt.expectedDeploymentBinding ≠ fence.deploymentId ∨
      receipt.retirementId ≠ retirement.retirementId ∨
      receipt.retiredAt ≠ retirement.retiredAt ∨
      receipt.finalCursor ≠ retirement.finalCursor ∨
      ¬ (marks.map Prod.fst).Nodup ∨
      ¬ marks.Perm retirement.finalSessionHighWaters ∨
      marks.any (fun mark => mark.1 = "") then
    .error (.runtimeError "persisted runtime retirement receipt identity is invalid")
  else .ok receipt

structure RetireRequest where
  environmentId : Uuid
  expectedDeploymentId : String
  retirementId : RetirementId
  ownerId : Option Uuid

variable (environmentId : Uuid) (tombstonedAt : Time)
variable (compacted : List Nat) (now cur : Time) (head : V2RuntimeObservationHead)
variable (receiptId : Uuid) (consumers : List V2RuntimeObservationConsumerCursor)
variable (req : RetireRequest) (fence : V2RuntimeEnvironmentFence) (limit : Nat)
variable (highWaters : SessionHighWaters) (finalCursor : OpaqueCursor)

def retireActiveHead : V2RuntimeObservationHead :=
  if head.environmentId = environmentId ∧ head.isActive then
    retireRuntimeObservationHead tombstonedAt head
  else head

lemma headKey_retireActiveHead : headKey (retireActiveHead environmentId tombstonedAt head) = headKey head := by
  unfold retireActiveHead
  split <;> rfl

def retireHeads (heads : Table headKey) : Table headKey :=
  heads.update (retireActiveHead environmentId tombstonedAt) (headKey_retireActiveHead environmentId tombstonedAt)

lemma mem_retireHeads {environmentId tombstonedAt heads}
    {head} : head ∈ retireHeads environmentId tombstonedAt heads ↔
      ∃ before ∈ heads, retireActiveHead environmentId tombstonedAt before = head :=
  Table.mem_update

lemma get_retireHeads (heads : Table headKey) (key : Uuid × BootSessionId) :
    (retireHeads environmentId tombstonedAt heads).get key =
      (heads.get key).map (retireActiveHead environmentId tombstonedAt) :=
  Table.get_update heads _ (headKey_retireActiveHead environmentId tombstonedAt) key

def retirementRecord (finalPosition : Nat) (highWaters : SessionHighWaters) : Retirement where
  retirementId := req.retirementId.text
  retirementReceiptId := receiptId
  retirementReceipt :=
    { environmentReference := req.environmentId
      expectedDeploymentBinding := req.expectedDeploymentId
      retirementId := req.retirementId.text
      retiredAt := now
      finalCursor := finalCursor
      finalSessionHighWaterMarks := highWaters }
  retiredAt := now
  finalCursor := finalCursor
  finalStreamPosition := finalPosition
  finalSessionHighWaters := highWaters

def retireRuntimeEnvironment (settings : Settings) (now : Time) (receiptId : Uuid)
    (req : RetireRequest) (db : Db) : Except Failure (RuntimeEnvironmentRetirementResult × Db) := do
  let environmentId := req.environmentId
  match db.fences.get environmentId with
  | none => raise 409 "runtime_environment_fence_missing" "runtime environment fence does not exist"
  | some fence =>
    if req.ownerId.any (fun owner => fence.ownerId ≠ owner) then
      raise 403 "runtime_environment_binding_conflict"
        "runtime environment owner binding does not match"
    else if fence.deploymentId ≠ req.expectedDeploymentId then
      raise 409 "runtime_environment_binding_conflict"
        "runtime environment deployment binding does not match"
    else
      match fence.state with
      | .retired retirement =>
        let receipt ← validatedRetirementReceipt fence retirement
        return (⟨receipt, false, retirement.finalStreamPosition, retirement.finalSessionHighWaters⟩, db)
      | .active =>
        let highWaters := loadSessionHighWaters environmentId db
        let finalCursor ← encodeRuntimeObservationCursor settings environmentId
          ("retirement:" ++ req.retirementId.text) receiptId fence.streamHighWater
        let retirement := retirementRecord now receiptId req finalCursor fence.streamHighWater highWaters
        return (⟨retirement.retirementReceipt, true, fence.streamHighWater, highWaters⟩,
          { db with
            fences := db.fences.put { fence with state := .retired retirement }
            heads := retireHeads environmentId now db.heads })

structure FirstRetirement (db : Db) :
    Prop where
  stored : db.fences.get req.environmentId = some fence
  active : fence.state = .active
  binding : fence.deploymentId = req.expectedDeploymentId

def retiredDb (db : Db) : Db :=
  { db with
    fences := db.fences.put { fence with
      state := .retired (retirementRecord now receiptId req finalCursor fence.streamHighWater
        (loadSessionHighWaters req.environmentId db)) }
    heads := retireHeads req.environmentId now db.heads }

lemma retire_cases {settings now receiptId req db after result}
    (finished : retireRuntimeEnvironment settings now receiptId req db = .ok (result, after)) :
    (∃ fence retirement, db.fences.get req.environmentId = some fence ∧
      fence.state = .retired retirement ∧ validatedRetirementReceipt fence retirement = .ok result.receipt ∧
      result = ⟨result.receipt, false, retirement.finalStreamPosition,
        retirement.finalSessionHighWaters⟩ ∧ after = db) ∨ (∃ fence finalCursor, FirstRetirement req fence db ∧
      result = ⟨(retirementRecord now receiptId req finalCursor fence.streamHighWater
          (loadSessionHighWaters req.environmentId db)).retirementReceipt, true,
        fence.streamHighWater, loadSessionHighWaters req.environmentId db⟩ ∧
      after = retiredDb now receiptId req fence finalCursor db) := by
  unfold retireRuntimeEnvironment raise at finished
  cases stored : db.fences.get req.environmentId with
  | none => simp only [stored] at finished; cases finished
  | some fence =>
    simp only [stored] at finished
    split at finished
    · cases finished
    split at finished
    · cases finished
    rename_i binding
    rw [ne_eq, not_not] at binding
    cases state : fence.state with
    | retired retirement =>
      cases valid : validatedRetirementReceipt fence retirement <;>
        simp only [state, valid, Bind.bind, Except.bind, Pure.pure, Except.pure] at finished
      · cases finished
      · cases finished
        exact .inl ⟨fence, retirement, rfl, state, valid, rfl, rfl⟩
    | active =>
      simp only [state, Bind.bind, Except.bind, Pure.pure, Except.pure] at finished
      split at finished
      · cases finished
      rename_i finalCursor encoded
      cases finished
      exact .inr ⟨fence, finalCursor, ⟨stored, state, binding⟩, rfl, rfl⟩

/-- A head that is active and still fresh at `current`. -/
def freshAt : Bool := head.freshnessDeadline.any fun deadline => cur ≤ deadline

def freshHeadInboxIds (environmentId : Uuid) (cur : Time) (db : Db) : List Nat :=
  (db.heads.rows.filter fun head =>
    decide (head.environmentId = environmentId) && freshAt cur head).filterMap (·.latestInboxId)

def replayCutoff (settings : Settings) (cur : Time) : Time := cur - days settings.replayHorizonDays
def hardCutoff (settings : Settings) (cur : Time) : Time := cur - days settings.hardRetentionDays

def requiredConsumers (environmentId : Uuid) (db : Db) : List V2RuntimeObservationConsumerCursor :=
  db.cursors.select (fun cursor => cursor.environmentId = environmentId ∧ cursor.required) (·.consumerId)

def safePosition : Nat :=
  if consumers ≠ [] ∧ consumers.all (·.state.isActive) then
    (consumers.map (·.ackedStreamPosition)).min?.getD 0
  else 0

def HardCapEligible (settings : Settings) (cur : Time) (event : V2RuntimeObservationInbox) : Prop :=
  event.receivedAt < hardCutoff settings cur

def ReplayEligible (settings : Settings) (cur : Time)
    (consumers : List V2RuntimeObservationConsumerCursor) (event : V2RuntimeObservationInbox) : Prop :=
  consumers ≠ [] ∧ event.receivedAt < replayCutoff settings cur ∧ event.id ≤ safePosition consumers

instance (settings : Settings) (cur : Time) (event : V2RuntimeObservationInbox) :
    Decidable (HardCapEligible settings cur event) := inferInstanceAs (Decidable (_ < _))

instance (settings : Settings) (cur : Time)
    (consumers : List V2RuntimeObservationConsumerCursor) (event : V2RuntimeObservationInbox) :
    Decidable (ReplayEligible settings cur consumers event) :=
  inferInstanceAs (Decidable (_ ∧ _))

def compactionPrefix (settings : Settings) (cur : Time) (fresh : List Nat)
    (consumers : List V2RuntimeObservationConsumerCursor) : List V2RuntimeObservationInbox → List Nat × Bool
  | [] => ([], false)
  | event :: events =>
    if event.id ∈ fresh then ([], false)
    else if ¬ HardCapEligible settings cur event ∧ ¬ ReplayEligible settings cur consumers event then ([], false)
    else
      let (ids, hardCapForced) := compactionPrefix settings cur fresh consumers events
      (event.id :: ids,
        decide (HardCapEligible settings cur event ∧
          ¬ ReplayEligible settings cur consumers event) || hardCapForced)

def expireLaggingConsumers (settings : Settings) (cur : Time) (environmentId : Uuid)
    (purge : Nat) : List V2RuntimeObservationConsumerCursor → Db → Except Failure Db
  | [], db => .ok db
  | consumer :: consumers, db =>
    if purge ≤ consumer.ackedStreamPosition then
      expireLaggingConsumers settings cur environmentId purge consumers db
    else do
      let boundary ← expiryBoundary settings cur environmentId consumer.consumerId consumer.cursorEpoch purge db
      expireLaggingConsumers settings cur environmentId purge consumers
        { db with cursors := db.cursors.put (expireCursor cur boundary consumer) }

def compactable (settings : Settings) (cur : Time) (ids : List Nat) (row : V2RuntimeObservationInbox) : Bool :=
  row.id ∈ ids ∧ row.receivedAt < replayCutoff settings cur ∧ row.payloadPurgedAt.isNone

def purgePayload (settings : Settings) (cur : Time) (ids : List Nat)
    (row : V2RuntimeObservationInbox) : V2RuntimeObservationInbox :=
  if compactable settings cur ids row then
    { row with diagnostics := [], payloadPurgedAt := some cur }
  else row

lemma id_purgePayload (settings : Settings) (cur : Time) (ids : List Nat)
    (row : V2RuntimeObservationInbox) : (purgePayload settings cur ids row).id = row.id := by
  unfold purgePayload
  split <;> rfl

def purgePayloads (settings : Settings) (cur : Time) (ids : List Nat)
    (inbox : Table V2RuntimeObservationInbox.id) : Table V2RuntimeObservationInbox.id :=
  inbox.update (purgePayload settings cur ids) (id_purgePayload settings cur ids)

lemma mem_purgePayloads {settings cur} {ids : List Nat} {inbox row} : row ∈ purgePayloads settings cur ids inbox ↔
      ∃ before ∈ inbox, purgePayload settings cur ids before = row :=
  Table.mem_update

def compactedIds (settings : Settings) (cur : Time) (ids : List Nat)
    (inbox : Table V2RuntimeObservationInbox.id) : List Nat :=
  (inbox.rows.filter (compactable settings cur ids)).map (·.id)

def forgetCompacted : V2RuntimeObservationHead :=
  if head.latestInboxId.any (fun id => id ∈ compacted) then { head with latestSemanticHash := none }
  else head

lemma headKey_forgetCompacted : headKey (forgetCompacted compacted head) = headKey head := by
  unfold forgetCompacted
  split <;> rfl

def forgetSemanticHash (heads : Table headKey) : Table headKey :=
  heads.update (forgetCompacted compacted) (headKey_forgetCompacted compacted)

lemma mem_forgetSemanticHash {compacted : List Nat} {heads head} : head ∈ forgetSemanticHash compacted heads ↔
      ∃ before ∈ heads, forgetCompacted compacted before = head :=
  Table.mem_update

lemma get_forgetSemanticHash (heads : Table headKey) (key : Uuid × BootSessionId) :
    (forgetSemanticHash compacted heads).get key = (heads.get key).map (forgetCompacted compacted) :=
  Table.get_update heads _ (headKey_forgetCompacted compacted) key

def advanceReplayFloor (floorPosition : Nat) (highWaters : SessionHighWaters)
    (fence : V2RuntimeEnvironmentFence) : V2RuntimeEnvironmentFence :=
  if fence.replayFloorStreamPosition < floorPosition then
    { fence with
      replayFloorStreamPosition := floorPosition
      replayFloorAdvancedAt := some cur
      replayFloorSessionHighWaters := highWaters }
  else fence

lemma advanceReplayFloor_above {floorPosition : Nat} {fence : V2RuntimeEnvironmentFence}
    (above : fence.replayFloorStreamPosition < floorPosition) :
    (advanceReplayFloor cur floorPosition highWaters fence).environmentId = fence.environmentId ∧
      (advanceReplayFloor cur floorPosition highWaters fence).streamHighWater = fence.streamHighWater ∧
      (advanceReplayFloor cur floorPosition highWaters fence).replayFloorStreamPosition = floorPosition := by
  unfold advanceReplayFloor
  rw [if_pos above]
  exact ⟨rfl, rfl, rfl⟩

def compactionCandidates (db : Db) : List V2RuntimeObservationInbox :=
  (db.inbox.select (fun row => row.environmentId = fence.environmentId ∧
    fence.replayFloorStreamPosition < row.id ∧ row.payloadPurgedAt.isNone) (·.id)).take limit

/-- Purges the eligible prefix `ids`, whose last id is `purgeThrough`. -/
def purgePrefix (settings : Settings) (cur : Time) (fence : V2RuntimeEnvironmentFence)
    (consumers : List V2RuntimeObservationConsumerCursor) (ids : List Nat) (hardCapForced : Bool)
    (purge : Nat) (db : Db) : Except Failure (Nat × Db) := do
  let environmentId := fence.environmentId
  let lagging := if hardCapForced then consumers else []
  let expired ← expireLaggingConsumers settings cur environmentId purge lagging db
  let compacted := compactedIds settings cur ids db.inbox
  let purged := { expired with inbox := purgePayloads settings cur ids db.inbox }
  if compacted = [] then return (0, purged)
  else
    let fence := advanceReplayFloor cur (ids.foldr max 0) (loadSessionHighWaters environmentId db) fence
    return (compacted.length,
      { purged with
        heads := forgetSemanticHash compacted db.heads
        fences := db.fences.put fence })

/-- Compacts one environment under its fence, at most `limit` rows. -/
def compactEnvironment (settings : Settings) (cur : Time) (limit : Nat) (environmentId : Uuid)
    (db : Db) : Except Failure (Nat × Db) :=
  match db.fences.get environmentId with
  | none => .error (.runtimeError "No row was found when one was required")
  | some fence =>
    let consumers := requiredConsumers environmentId db
    let (ids, hardCapForced) := compactionPrefix settings cur
      (freshHeadInboxIds environmentId cur db) consumers (compactionCandidates fence limit db)
    match ids.getLast? with
    | none => .ok (0, db)
    | some purge => purgePrefix settings cur fence consumers ids hardCapForced purge db

def compactEnvironments (settings : Settings) (cur : Time) (limit : Nat) :
    List Uuid → Nat → Db → Except Failure (Nat × Db)
  | [], compactedCount, db => .ok (compactedCount, db)
  | environmentId :: environmentIds, compactedCount, db => do
    let (compacted, db) ← compactEnvironment settings cur (limit - compactedCount) environmentId db
    if limit ≤ compactedCount + compacted then return (compactedCount + compacted, db)
    else compactEnvironments settings cur limit environmentIds (compactedCount + compacted) db

def compactableEnvironments (settings : Settings) (cur : Time) (limit : Nat) (db : Db) : List Uuid :=
  let rows := db.inbox.rows.filter fun row =>
    decide (row.receivedAt < replayCutoff settings cur) && row.payloadPurgedAt.isNone &&
      decide (row.id ∉ freshHeadInboxIds row.environmentId cur db)
  (((rows.map (·.environmentId)).dedup).insertionSort (· ≤ ·)).take limit

def expireRuntimeObservationPayloads (settings : Settings) (now : Time) (batchSize : Option Nat)
    (db : Db) : Except Failure (Nat × Db) :=
  let limit := match batchSize with
    | none | some 0 => settings.cleanupBatchSize
    | some size => size
  compactEnvironments settings now limit (compactableEnvironments settings now limit db) 0 db

/-- One transaction of the service, with the clock readings and fresh identifiers it draws. -/
inductive Operation
  | provision (environment : Option AgentEnvironment) (environmentId ownerId : Uuid)
      (deploymentId : String)
  | ingest (req : IngestRequest)
  | register (now : Time) (epoch : Uuid) (binding : ConsumerBinding)
  | read (now : Time) (epoch : Uuid) (req : ReadRequest) (afterCursor : OpaqueCursor)
  | acknowledge (now : Time) (epoch : Uuid) (binding : ConsumerBinding)
      (opaqueCursor : OpaqueCursor)
  | loseInitialization (now : Time) (epoch : Uuid) (binding : ConsumerBinding)
  | reset (now : Time) (epoch : Uuid) (binding : ConsumerBinding)
  | retire (now : Time) (receiptId : Uuid) (req : RetireRequest)
  | expirePayloads (now : Time) (batchSize : Option Nat)
  | skipSequence

def committed {α : Type} (db : Db) : Except Failure (α × Db) → Db
  | .ok (_, after) => after
  | .error _ => db

def committedConsumer {α : Type} (db : Db) : Except Rejection (α × Db) → Db
  | .ok (_, after) => after
  | .error (.expired _ after) => after
  | .error (.failed _) => db

def apply (settings : Settings) (db : Db) : Operation → Db
  | .provision environment environmentId ownerId deploymentId =>
    committed db (provisionRuntimeEnvironmentFence environment environmentId ownerId deploymentId db)
  | .ingest req => committed db (ingestRuntimeObservation settings req db)
  | .register now epoch binding =>
    committedConsumer db (registerRuntimeObservationConsumer settings now epoch binding db)
  | .read now epoch req afterCursor =>
    committedConsumer db ((readRuntimeObservations settings now epoch req afterCursor db).map (·, db))
  | .acknowledge now epoch binding opaqueCursor =>
    committedConsumer db (acknowledgeRuntimeObservationCursor settings now epoch binding opaqueCursor db)
  | .loseInitialization now epoch binding =>
    committed db (loadConcurrentlyInitializedConsumerError settings now epoch binding db)
  | .reset now epoch binding => committed db (resetRuntimeObservationConsumer settings now epoch binding db)
  | .retire now receiptId req => committed db (retireRuntimeEnvironment settings now receiptId req db)
  | .expirePayloads now batchSize => committed db (expireRuntimeObservationPayloads settings now batchSize db)
  | .skipSequence => { db with inboxSequence := db.inboxSequence + 1 }

def run (settings : Settings) : Db → List Operation → Db := Transition.run (apply settings)
def Reachable (settings : Settings) : Db → Prop := Transition.Reachable (apply settings) (· = Db.empty)

lemma reachable_run (settings : Settings) (ops : List Operation) : Reachable settings (run settings Db.empty ops) :=
  ⟨Db.empty, ops, rfl, rfl⟩

lemma committed_ok {α : Type} (db : Db) (outcome : Except Failure (α × Db)) (p : α → Bool)
    (holds : (outcome.toOption.any fun ans => p ans.1) = true) :
    ∃ result, outcome = .ok (result, committed db outcome) ∧ p result = true := by
  cases outcome with
  | error failure => cases holds
  | ok ans => exact ⟨ans.1, rfl, holds⟩

namespace Sample
variable (seed : Digest)

def textDigest (text : String) : Digest :=
  text.toList.foldl (fun digest letter => digest * 2097152 + letter.toNat + 1) (seed * 8 + 1)

def memberDigest (mem : String × String) : Digest := textDigest (textDigest seed mem.1) mem.2

def valueDigest : JsonValue → Digest
  | .null => seed * 8 + 2
  | .number value => textDigest (seed * 8 + 3) (toString value)
  | .text value => textDigest (seed * 8 + 4) value
  | .time value => textDigest (seed * 8 + 5) (toString value)
  | .object mems => mems.foldl memberDigest (seed * 8 + 6)

def settings : Settings where
  maxFutureSkewSeconds := 300
  maxCaptureAgeDays := 7
  freshnessSeconds := 120
  replayHorizonDays := 7
  hardRetentionDays := 30
  cleanupBatchSize := 500
  cursorKey := "cursor-key"
  encryptionKey := ""
  canonicalJsonHash := List.foldl (fun seed item => valueDigest (textDigest seed item.1) item.2) 0
  hardCoversReplay := by decide

def session : BootSessionId := ⟨"boot-1", by decide⟩

def event (seq : Nat) (eventId : String) (capturedAt : Time) : RuntimeObservationEventV2 where
  reportedAt := capturedAt
  status := .ok
  applied := { etag := "etag-1", generation := 1, members := [] }
  generation := .unset
  manifestEtag := .unset
  applyReceiptId := "receipt-1"
  bootNonce := "nonce-1"
  bootSessionId := session
  successorBootSessionId := .unset
  predecessorBootSessionId := .unset
  sequence := seq
  eventId := eventId
  capturedAt := capturedAt
  report := []

def delivery (seq : Nat) (eventId : String) (capturedAt : Time) : IngestRequest where
  environmentId := "env-1"
  credentialDeploymentId := "deployment-1"
  value := event seq eventId capturedAt
  receivedAt := capturedAt
  winner := none

def provision : Operation := .provision (some ⟨"env-1", "owner-1", none⟩) "env-1" "owner-1" "deployment-1"

def binding : ConsumerBinding where
  environmentId := "env-1"
  ownerId := "owner-1"
  deploymentId := "deployment-1"
  consumerId := "controller"

def troubled : IngestRequest :=
  { delivery 2 "event-2" (seconds 11) with value := { event 2 "event-2" (seconds 11) with status := .error } }

def db : Db :=
  run settings Db.empty
    [provision, .register 0 "epoch-1" binding, .ingest (delivery 1 "event-1" (seconds 10)),
     .ingest troubled, .ingest (delivery 3 "event-3" (seconds 12))]

lemma reachable : Reachable settings db := reachable_run _ _

end Sample
end Clawdi.Observation
