import Clawdi.Lib.Table

namespace Clawdi.Observation

abbrev Time := Int
def seconds (n : Nat) : Time := n * 1000000
def days (n : Nat) : Time := seconds (n * 86400)
abbrev Uuid := String
abbrev Digest := Nat

structure BootSessionId where
  text : String
  nonempty : text ≠ ""
deriving DecidableEq

structure RetirementId where
  text : String
  nonempty : text ≠ ""
  bounded : text.length ≤ 200

inductive JsonValue
  | null
  | number (v : Nat)
  | text (v : String)
  | time (v : Time)
  | object (mems : List (String × String))

abbrev Payload := List (String × JsonValue)

/-- A request field that may be left out, sent as null or sent with a value. -/
inductive Supplied (α : Type)
  | unset
  | null
  | value (a : α)

def Supplied.toOption {α : Type} : Supplied α → Option α
  | .unset | .null => none
  | .value a => some a

def Supplied.dump {α : Type} (name : String) (encode : α → JsonValue) : Supplied α → Payload
  | .unset => []
  | .null => [(name, .null)]
  | .value a => [(name, encode a)]

inductive RuntimeObservedStatus
  | ok
  | error
  | unknown

def RuntimeObservedStatus.text : RuntimeObservedStatus → String
  | .ok => "ok"
  | .error => "error"
  | .unknown => "unknown"

structure HostedRuntimeObservedAppliedV2 where
  etag : String
  generation : Nat
  members : List (String × String)

/-- `report` is every other field that was set, in its dumped form. -/
structure RuntimeObservationEventV2 where
  reportedAt : Time
  status : RuntimeObservedStatus
  applied : HostedRuntimeObservedAppliedV2
  generation : Supplied Nat
  manifestEtag : Supplied String
  applyReceiptId : String
  bootNonce : String
  bootSessionId : BootSessionId
  successorBootSessionId : Supplied BootSessionId
  predecessorBootSessionId : Supplied BootSessionId
  sequence : Nat
  eventId : String
  capturedAt : Time
  report : Payload

def RuntimeObservationEventV2.modelDump (v : RuntimeObservationEventV2) : Payload :=
  [("reportedAt", .time v.reportedAt),
   ("status", .text v.status.text),
   ("applied", .object
     (("etag", v.applied.etag) :: ("generation", toString v.applied.generation) ::
       v.applied.members))] ++
  v.report ++
  v.generation.dump "generation" .number ++
  v.manifestEtag.dump "manifestETag" .text ++
  [("applyReceiptId", .text v.applyReceiptId),
   ("bootNonce", .text v.bootNonce),
   ("bootSessionId", .text v.bootSessionId.text)] ++
  v.successorBootSessionId.dump "successorBootSessionId" (.text ·.text) ++
  v.predecessorBootSessionId.dump "predecessorBootSessionId" (.text ·.text) ++
  [("sequence", .number v.sequence),
   ("eventId", .text v.eventId),
   ("capturedAt", .time v.capturedAt)]

structure RuntimeApplyIdentity where
  generation : Nat
  manifestEtag : String
  applyReceiptId : String
  bootNonce : String
deriving DecidableEq

/-- The settings, with the ordered retention limits; the digest stands for SHA-256 over canonical JSON. -/
structure Settings where
  maxFutureSkewSeconds : Nat
  maxCaptureAgeDays : Nat
  freshnessSeconds : Nat
  replayHorizonDays : Nat
  hardRetentionDays : Nat
  cleanupBatchSize : Nat
  cursorKey : String
  encryptionKey : String
  canonicalJsonHash : Payload → Digest
  hardCoversReplay : replayHorizonDays ≤ hardRetentionDays

structure DecodedRuntimeObservationCursor where
  environmentId : Uuid
  consumerId : String
  cursorEpoch : Uuid
  streamPosition : Nat
deriving DecidableEq

/-- What decryption makes of a cursor string: authentic claims, the right version without them, or neither. -/
inductive OpaqueCursor
  | authentic (claims : DecodedRuntimeObservationCursor)
  | unauthenticated (text : String)
  | malformed (text : String)
deriving DecidableEq

abbrev SessionHighWaters := List (String × Nat)

structure RuntimeEnvironmentRetirementReceipt where
  environmentReference : String
  expectedDeploymentBinding : String
  retirementId : String
  retiredAt : Time
  finalCursor : OpaqueCursor
  finalSessionHighWaterMarks : List (String × Nat)

structure Retirement where
  retirementId : String
  retirementReceiptId : Uuid
  retirementReceipt : RuntimeEnvironmentRetirementReceipt
  retiredAt : Time
  finalCursor : OpaqueCursor
  finalStreamPosition : Nat
  finalSessionHighWaters : SessionHighWaters

inductive FenceState
  | active
  | retired (retirement : Retirement)

structure V2RuntimeEnvironmentFence where
  environmentId : Uuid
  ownerId : Uuid
  deploymentId : String
  state : FenceState
  streamHighWater : Nat
  replayFloorStreamPosition : Nat
  replayFloorAdvancedAt : Option Time
  replayFloorSessionHighWaters : SessionHighWaters

structure V2RuntimeObservationInbox where
  id : Nat
  environmentId : Uuid
  deploymentId : String
  identity : RuntimeApplyIdentity
  bootSessionId : BootSessionId
  sequence : Nat
  eventId : String
  reportedAt : Time
  capturedAt : Time
  receivedAt : Time
  freshnessDeadline : Time
  payloadHash : Digest
  health : RuntimeObservedStatus
  diagnostics : Payload
  payloadPurgedAt : Option Time

structure HeadView where
  capturedAt : Time
  freshnessDeadline : Time
  health : RuntimeObservedStatus

inductive HeadState
  | active (view : HeadView)
  | retired (tombstonedAt : Time)

structure V2RuntimeObservationHead where
  environmentId : Uuid
  bootSessionId : BootSessionId
  deploymentId : String
  identity : RuntimeApplyIdentity
  authorizedSuccessorBootSessionId : Option BootSessionId
  highestSequence : Nat
  latestStreamPosition : Nat
  latestEventId : String
  latestPayloadHash : Digest
  lastSeenEventId : String
  lastSeenPayloadHash : Digest
  lastSeenReceivedAt : Time
  latestSemanticHash : Option Digest
  state : HeadState

namespace V2RuntimeObservationHead

def view (head : V2RuntimeObservationHead) : Option HeadView :=
  match head.state with
  | .active view => some view
  | .retired _ => none

variable (head : V2RuntimeObservationHead)

def isActive : Bool := head.view.isSome
def latestInboxId : Option Nat := head.view.map fun _ => head.latestStreamPosition
def capturedAt : Option Time := head.view.map (·.capturedAt)
def freshnessDeadline : Option Time := head.view.map (·.freshnessDeadline)
def health : Option RuntimeObservedStatus := head.view.map (·.health)

end V2RuntimeObservationHead

/-- The four expiry columns of a consumer cursor, written together and kept across a reset. -/
structure ExpiryBoundary where
  streamPosition : Nat
  cursor : OpaqueCursor
  sessionHighWaters : SessionHighWaters
  resetBarrierAt : Time

inductive CursorState
  | active
  | expired (expiredAt : Time)
deriving DecidableEq

def CursorState.isActive : CursorState → Bool
  | .active => true
  | .expired _ => false

structure V2RuntimeObservationConsumerCursor where
  environmentId : Uuid
  consumerId : String
  deploymentId : String
  required : Bool
  cursorEpoch : Uuid
  state : CursorState
  ackedCursor : OpaqueCursor
  ackedStreamPosition : Nat
  acknowledgedAt : Option Time
  replayHorizonStartedAt : Time
  expiry : Option ExpiryBoundary
  resetAt : Option Time

def headKey (head : V2RuntimeObservationHead) : Uuid × BootSessionId := (head.environmentId, head.bootSessionId)
def cursorKey (cur : V2RuntimeObservationConsumerCursor) : Uuid × String := (cur.environmentId, cur.consumerId)

/-- The tables of the service and the last value that the inbox identity sequence gave out. -/
structure Db where
  fences : Table V2RuntimeEnvironmentFence.environmentId
  inbox : Table V2RuntimeObservationInbox.id
  heads : Table headKey
  cursors : Table cursorKey
  inboxSequence : Nat

def Db.empty : Db := ⟨.empty, .empty, .empty, .empty, 0⟩

structure ExpiryMetadata where
  resetBoundary : Option (OpaqueCursor × Time)
  sessionHighWaterMarks : SessionHighWaters

structure RuntimeObservationProtocolError where
  statusCode : Nat
  code : String
  message : String
  metadata : Option ExpiryMetadata := none

/-- An exception that leaves a service function: a protocol error, or a Python exception that
the routes do not translate. -/
inductive Failure
  | protocol (error : RuntimeObservationProtocolError)
  | valueError (msg : String)
  | runtimeError (msg : String)

def raise {α : Type} (statusCode : Nat) (code msg : String) : Except Failure α :=
  .error (.protocol { statusCode := statusCode, code := code, message := msg })

def Failure.Is (err : Failure) (statusCode : Nat) (code : String) : Prop :=
  ∃ msg, err = .protocol { statusCode := statusCode, code := code, message := msg }

variable {material : String} {statusCode : Nat} {cur : OpaqueCursor} {code : String}
variable {claims : DecodedRuntimeObservationCursor} {err : Failure}
variable {fence : V2RuntimeEnvironmentFence}

lemma Failure.Is.eq {status : Nat} {alt} (first : err.Is statusCode code)
    (snd : err.Is status alt) : statusCode = status ∧ code = alt := by
  obtain ⟨msg, rfl⟩ := first
  obtain ⟨text, same⟩ := snd
  cases same
  exact ⟨rfl, rfl⟩

lemma raise_is {α : Type} {msg} (raised : raise statusCode code msg = (Except.error err : Except Failure α)) :
    err.Is statusCode code := by
  cases raised
  exact ⟨msg, rfl⟩

def maxSafeInteger : Nat := 9007199254740991

def cursorKeyMaterial (cfg : Settings) : Except Failure String :=
  let material := if cfg.cursorKey ≠ "" then cfg.cursorKey else cfg.encryptionKey
  if material = "" then
    raise 503 "runtime_observation_cursor_unavailable"
      "runtime observation cursor signing is not configured"
  else .ok material

def encodeRuntimeObservationCursor (cfg : Settings) (envId : Uuid)
    (consumerId : String) (cursorEpoch : Uuid) (streamPosition : Nat) : Except Failure OpaqueCursor :=
  if maxSafeInteger < streamPosition then
    .error (.valueError "runtime observation stream position is out of bounds")
  else do
    let _ ← cursorKeyMaterial cfg
    return .authentic
      { environmentId := envId, consumerId := consumerId, cursorEpoch := cursorEpoch,
        streamPosition := streamPosition }

def unknownCursorError : RuntimeObservationProtocolError :=
  { statusCode := 410, code := "observation_cursor_expired",
    message := "runtime observation cursor is unknown or expired" }

def decodeRuntimeObservationCursor (cfg : Settings) : OpaqueCursor → Except Failure DecodedRuntimeObservationCursor
  | .malformed _ => .error (.protocol unknownCursorError)
  | .unauthenticated _ => do
    let _ ← cursorKeyMaterial cfg
    .error (.protocol unknownCursorError)
  | .authentic claims => do
    let _ ← cursorKeyMaterial cfg
    if maxSafeInteger < claims.streamPosition ∨ claims.consumerId = "" then
      .error (.protocol unknownCursorError)
    else return claims

variable {envId : Uuid} {cfg : Settings}

lemma encode_eq {cursorEpoch consumerId} {pos : Nat}
    (enc : encodeRuntimeObservationCursor cfg envId consumerId cursorEpoch pos = .ok cur) :
    cur = .authentic ⟨envId, consumerId, cursorEpoch, pos⟩ ∧
      pos ≤ maxSafeInteger ∧ ∃ material, cursorKeyMaterial cfg = .ok material := by
  unfold encodeRuntimeObservationCursor at enc
  split at enc
  · cases enc
  · cases key : cursorKeyMaterial cfg <;>
      simp only [key, Bind.bind, Except.bind, Pure.pure, Except.pure] at enc
    · cases enc
    · exact ⟨(Except.ok.inj enc).symm, by omega, _, rfl⟩

lemma encode_within (key : cursorKeyMaterial cfg = .ok material)
    (envId cursorEpoch : Uuid) (consumerId : String) {pos : Nat} (bound : pos ≤ maxSafeInteger) :
    encodeRuntimeObservationCursor cfg envId consumerId cursorEpoch pos =
      .ok (.authentic ⟨envId, consumerId, cursorEpoch, pos⟩) := by
  have inside : ¬ maxSafeInteger < pos := by omega
  simp [encodeRuntimeObservationCursor, inside, key, Bind.bind, Except.bind, Pure.pure, Except.pure]

lemma decode_eq (dec : decodeRuntimeObservationCursor cfg cur = .ok claims) :
    cur = .authentic claims ∧ claims.streamPosition ≤ maxSafeInteger ∧ claims.consumerId ≠ "" ∧
      ∃ material, cursorKeyMaterial cfg = .ok material := by
  cases cur with
  | malformed text => cases dec
  | unauthenticated text =>
    cases key : cursorKeyMaterial cfg <;>
      simp only [decodeRuntimeObservationCursor, key, Bind.bind, Except.bind] at dec <;>
      cases dec
  | authentic ownClaims =>
    cases key : cursorKeyMaterial cfg <;>
      simp only [decodeRuntimeObservationCursor, key, Bind.bind, Except.bind] at dec
    · cases dec
    · split at dec
      · cases dec
      · rename_i bound
        have same := Except.ok.inj dec
        subst same
        rw [not_or] at bound
        exact ⟨rfl, by omega, bound.2, _, rfl⟩

lemma decode_authentic (key : cursorKeyMaterial cfg = .ok material)
    (bound : claims.streamPosition ≤ maxSafeInteger) (named : claims.consumerId ≠ "") :
    decodeRuntimeObservationCursor cfg (.authentic claims) = .ok claims := by
  have inside : ¬ maxSafeInteger < claims.streamPosition := by omega
  simp [decodeRuntimeObservationCursor, inside, named, key, Bind.bind, Except.bind, Pure.pure, Except.pure]

structure AgentEnvironment where
  id : Uuid
  userId : Uuid
  archivedAt : Option Time

def provisionRuntimeEnvironmentFence (env : Option AgentEnvironment)
    (envId ownerId : Uuid) (deploymentId : String) (db : Db) : Except Failure (V2RuntimeEnvironmentFence × Db) := do
  match env with
  | none => raise 404 "runtime_environment_not_found" "runtime environment was not found"
  | some row =>
    if row.id ≠ envId ∨ row.userId ≠ ownerId ∨ row.archivedAt.isSome then
      raise 404 "runtime_environment_not_found" "runtime environment was not found"
  match db.fences.get envId with
  | none =>
    let fence : V2RuntimeEnvironmentFence :=
      { environmentId := envId
        ownerId := ownerId
        deploymentId := deploymentId
        state := .active
        streamHighWater := 0
        replayFloorStreamPosition := 0
        replayFloorAdvancedAt := none
        replayFloorSessionHighWaters := [] }
    return (fence, { db with fences := db.fences.put fence })
  | some fence =>
    if fence.ownerId ≠ ownerId ∨ fence.deploymentId ≠ deploymentId then
      raise 409 "runtime_environment_binding_conflict"
        "runtime environment is permanently bound to another deployment"
    else
      match fence.state with
      | .retired _ =>
        raise 409 "runtime_environment_retired"
          "retired runtime environment identities cannot be reused"
      | .active => return (fence, db)

def requireActiveRuntimeEnvironmentFence (envId : Uuid) (ownerId : Option Uuid)
    (deploymentId : Option String) (db : Db) : Except Failure V2RuntimeEnvironmentFence :=
  match db.fences.get envId with
  | none =>
    raise 409 "runtime_environment_fence_missing"
      "v2 runtime environment fence must exist before this operation"
  | some fence =>
    if ownerId.any (fun owner => fence.ownerId ≠ owner) then
      raise 403 "runtime_environment_binding_conflict"
        "runtime environment owner binding does not match"
    else if deploymentId.any (fun dep => fence.deploymentId ≠ dep) then
      raise 409 "runtime_environment_binding_conflict"
        "runtime environment deployment binding does not match"
    else
      match fence.state with
      | .retired _ => raise 409 "runtime_environment_retired" "runtime environment is retired"
      | .active => .ok fence

lemma requireActive_eq {ownerId deploymentId db}
    (hit : requireActiveRuntimeEnvironmentFence envId ownerId deploymentId db = .ok fence) :
    db.fences.get envId = some fence ∧ fence.state = .active := by
  unfold requireActiveRuntimeEnvironmentFence at hit
  cases row : db.fences.get envId with
  | none => rw [row] at hit; cases hit
  | some stored =>
    simp only [row] at hit
    split at hit
    · cases hit
    · split at hit
      · cases hit
      · cases st : stored.state <;> simp only [st] at hit <;> cases hit
        exact ⟨rfl, st⟩

lemma provision_cases {env ownerId deploymentId} {db db'}
    (provisioned : provisionRuntimeEnvironmentFence env envId ownerId deploymentId db = .ok (fence, db')) :
    (db.fences.get envId = none ∧ fence.environmentId = envId ∧
      fence.state = .active ∧ fence.streamHighWater = 0 ∧ fence.replayFloorStreamPosition = 0 ∧
      db' = { db with fences := db.fences.put fence }) ∨
    (db.fences.get envId = some fence ∧ fence.state = .active ∧ db' = db) := by
  unfold provisionRuntimeEnvironmentFence at provisioned
  cases env with
  | none => cases provisioned
  | some row =>
    simp only [Bind.bind, Except.bind, Pure.pure, Except.pure] at provisioned
    split at provisioned
    · cases provisioned
    · cases stored : db.fences.get envId with
      | none =>
        simp only [stored, Except.ok.injEq, Prod.mk.injEq] at provisioned
        obtain ⟨rfl, rfl⟩ := provisioned
        exact .inl ⟨rfl, rfl, rfl, rfl, rfl, rfl⟩
      | some hit =>
        simp only [stored] at provisioned
        split at provisioned
        · cases provisioned
        · cases st : hit.state <;> simp only [st] at provisioned
          · cases provisioned
            exact .inr ⟨rfl, st, rfl⟩
          · cases provisioned

end Clawdi.Observation
