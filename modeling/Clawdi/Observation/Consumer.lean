import Mathlib.Data.String.Basic
import Clawdi.Observation.Fence

namespace Clawdi.Observation

structure ConsumerBinding where
  environmentId : Uuid
  ownerId : Uuid
  deploymentId : String
  consumerId : String

/-- How a consumer call fails. -/
inductive Rejection
  | expired (error : RuntimeObservationProtocolError) (db : Db)
  | failed (err : Failure)

def liftFailure {α : Type} (res : Except Failure α) : Except Rejection α := res.mapError .failed

def raiseExpired {α : Type} (res : Except Failure (RuntimeObservationProtocolError × Db)) : Except Rejection α :=
  match res with
  | .ok (error, db) => .error (.expired error db)
  | .error err => .error (.failed err)

def sessionHighWaters (heads : List V2RuntimeObservationHead) : SessionHighWaters :=
  heads.map fun head => (head.bootSessionId.text, head.highestSequence)

variable (now : Time) (envId : Uuid) (cur : V2RuntimeObservationConsumerCursor)
variable (cfg : Settings) (boundary : ExpiryBoundary) (opaqueCursor : OpaqueCursor)
variable (bind : ConsumerBinding) (db : Db)

def environmentHeads : List V2RuntimeObservationHead :=
  db.heads.select (fun head => head.environmentId = envId) (·.bootSessionId.text)

def loadSessionHighWaters : SessionHighWaters := sessionHighWaters (environmentHeads envId db)

def cursorExpiryMetadata : ExpiryMetadata :=
  match cur.expiry with
  | none => { resetBoundary := none, sessionHighWaterMarks := [] }
  | some boundary =>
    { resetBoundary := some (boundary.cursor, boundary.resetBarrierAt)
      sessionHighWaterMarks := boundary.sessionHighWaters }

def cursorExpiredError : RuntimeObservationProtocolError :=
  { unknownCursorError with metadata := some (cursorExpiryMetadata cur) }

def expiryBoundary (now : Time) (envId : Uuid) (consumerId : String) (cursorEpoch : Uuid)
    (pos : Nat) (db : Db) : Except Failure ExpiryBoundary := do
  let cur ← encodeRuntimeObservationCursor cfg envId consumerId cursorEpoch pos
  return { streamPosition := pos
           cursor := cur
           sessionHighWaters := loadSessionHighWaters envId db
           resetBarrierAt := now }

lemma expiryBoundary_position {cfg now envId consumerId epoch} {pos : Nat} {db boundary}
    (enc : expiryBoundary cfg now envId consumerId epoch pos db = .ok boundary) : boundary.streamPosition = pos := by
  unfold expiryBoundary at enc
  cases cur : encodeRuntimeObservationCursor cfg envId consumerId epoch pos <;>
    simp only [cur, Bind.bind, Except.bind, Pure.pure, Except.pure] at enc <;>
    cases enc
  rfl

def expireCursor (cur : V2RuntimeObservationConsumerCursor) : V2RuntimeObservationConsumerCursor :=
  { cur with state := .expired now, expiry := some boundary }

@[simp] lemma cursorKey_expireCursor (cur : V2RuntimeObservationConsumerCursor) :
    cursorKey (expireCursor now boundary cur) = cursorKey cur := rfl

def installCursorExpiryBoundary (now : Time) (fence : V2RuntimeEnvironmentFence)
    (cur : V2RuntimeObservationConsumerCursor) (db : Db) : Except Failure (RuntimeObservationProtocolError × Db) :=
  match cur.state with
  | .expired _ => .ok (cursorExpiredError cur, db)
  | .active => do
    let boundary ← expiryBoundary cfg now fence.environmentId cur.consumerId
      cur.cursorEpoch fence.streamHighWater db
    let expired := expireCursor now boundary cur
    return (cursorExpiredError expired, { db with cursors := db.cursors.put expired })

def expireInvalidCursor (now : Time) (fence : V2RuntimeEnvironmentFence) (consumerId : String)
    (db : Db) : Except Failure (RuntimeObservationProtocolError × Db) :=
  match db.cursors.get (fence.environmentId, consumerId) with
  | none =>
    .ok ({ unknownCursorError with
      metadata := some { resetBoundary := none, sessionHighWaterMarks := [] } }, db)
  | some cur => installCursorExpiryBoundary cfg now fence cur db

def initializeExpiredConsumer (now : Time) (epoch : Uuid) (fence : V2RuntimeEnvironmentFence)
    (consumerId : String) (db : Db) : Except Failure (RuntimeObservationProtocolError × Db) := do
  let acked ← encodeRuntimeObservationCursor cfg fence.environmentId consumerId epoch 0
  let boundary ← expiryBoundary cfg now fence.environmentId consumerId epoch fence.streamHighWater db
  let cur : V2RuntimeObservationConsumerCursor :=
    { environmentId := fence.environmentId
      consumerId := consumerId
      deploymentId := fence.deploymentId
      required := true
      cursorEpoch := epoch
      state := .expired now
      ackedCursor := acked
      ackedStreamPosition := 0
      acknowledgedAt := none
      replayHorizonStartedAt := now
      expiry := some boundary
      resetAt := none }
  return (cursorExpiredError cur, { db with cursors := db.cursors.put cur })

def boundFence : Except Failure V2RuntimeEnvironmentFence :=
  match db.fences.get bind.environmentId with
  | none => raise 404 "runtime_environment_not_found" "runtime environment was not found"
  | some fence =>
    if fence.ownerId ≠ bind.ownerId ∨ fence.deploymentId ≠ bind.deploymentId then
      raise 404 "runtime_environment_not_found" "runtime environment was not found"
    else .ok fence

def loadConcurrentlyInitializedConsumerError (now : Time) (epoch : Uuid) (bind : ConsumerBinding)
    (db : Db) : Except Failure (RuntimeObservationProtocolError × Db) := do
  let fence ← boundFence bind db
  match db.cursors.get (bind.environmentId, bind.consumerId) with
  | some cur => installCursorExpiryBoundary cfg now fence cur db
  | none => initializeExpiredConsumer cfg now epoch fence bind.consumerId db

structure ConsumerResponse where
  environmentId : Uuid
  deploymentId : String
  consumerId : String
  cursor : OpaqueCursor
  acknowledgedAt : Option Time

def registerRuntimeObservationConsumer (now : Time) (epoch : Uuid) (bind : ConsumerBinding)
    (db : Db) : Except Rejection (ConsumerResponse × Db) := do
  let fence ← liftFailure (requireActiveRuntimeEnvironmentFence bind.environmentId
    (some bind.ownerId) (some bind.deploymentId) db)
  match db.cursors.get (bind.environmentId, bind.consumerId) with
  | some cur =>
    match cur.state with
    | .expired _ => .error (.expired (cursorExpiredError cur) db)
    | .active =>
      let opaqueCursor ← liftFailure (encodeRuntimeObservationCursor cfg
        bind.environmentId bind.consumerId cur.cursorEpoch cur.ackedStreamPosition)
      return (⟨bind.environmentId, fence.deploymentId, bind.consumerId, opaqueCursor, cur.acknowledgedAt⟩, db)
  | none =>
    if 0 < fence.replayFloorStreamPosition then
      -- Starting at zero would look like a complete replay of history that is gone.
      raiseExpired (initializeExpiredConsumer cfg now epoch fence bind.consumerId db)
    else
      let opaqueCursor ← liftFailure (encodeRuntimeObservationCursor cfg bind.environmentId bind.consumerId epoch 0)
      let cur : V2RuntimeObservationConsumerCursor :=
        { environmentId := bind.environmentId
          consumerId := bind.consumerId
          deploymentId := fence.deploymentId
          required := true
          cursorEpoch := epoch
          state := .active
          ackedCursor := opaqueCursor
          ackedStreamPosition := 0
          acknowledgedAt := none
          replayHorizonStartedAt := now
          expiry := none
          resetAt := none }
      return (⟨bind.environmentId, fence.deploymentId, bind.consumerId, opaqueCursor, none⟩,
        { db with cursors := db.cursors.put cur })

def validateCursorForConsumer (envId : Uuid) (consumerId : String) (cur : V2RuntimeObservationConsumerCursor) :
    Except Failure DecodedRuntimeObservationCursor :=
  match cur.state with
  | .expired _ => .error (.protocol (cursorExpiredError cur))
  | .active =>
    match decodeRuntimeObservationCursor cfg opaqueCursor with
    | .error (.protocol error) =>
      if error.code = "observation_cursor_expired" then
        .error (.protocol (cursorExpiredError cur))
      else .error (.protocol error)
    | .error err => .error err
    | .ok dec =>
      if dec.environmentId ≠ envId ∨ dec.consumerId ≠ consumerId ∨
          dec.cursorEpoch ≠ cur.cursorEpoch then
        .error (.protocol (cursorExpiredError cur))
      else if cur.expiry.any (fun boundary => dec.streamPosition < boundary.streamPosition)
      then .error (.protocol (cursorExpiredError cur))
      else .ok dec

def validateOrExpire (envId : Uuid) (consumerId : String) (cur : V2RuntimeObservationConsumerCursor)
    (expire : Except Failure (RuntimeObservationProtocolError × Db)) :
    Except Rejection DecodedRuntimeObservationCursor :=
  match validateCursorForConsumer cfg opaqueCursor envId consumerId cur with
  | .ok dec => .ok dec
  | .error (.protocol error) =>
    if error.code ≠ "observation_cursor_expired" then .error (.failed (.protocol error))
    else raiseExpired expire
  | .error err => .error (.failed err)

def acknowledgeRuntimeObservationCursor (now : Time) (epoch : Uuid) (bind : ConsumerBinding)
    (opaqueCursor : OpaqueCursor) (db : Db) : Except Rejection (ConsumerResponse × Db) := do
  let fence ← liftFailure (boundFence bind db)
  match db.cursors.get (bind.environmentId, bind.consumerId) with
  | none => raiseExpired (initializeExpiredConsumer cfg now epoch fence bind.consumerId db)
  | some cur =>
    let dec ← validateOrExpire cfg opaqueCursor bind.environmentId bind.consumerId
      cur (installCursorExpiryBoundary cfg now fence cur db)
    if fence.streamHighWater < dec.streamPosition then
      raiseExpired (installCursorExpiryBoundary cfg now fence cur db)
    else if dec.streamPosition < cur.ackedStreamPosition then
      liftFailure (raise 409 "runtime_observation_cursor_regression"
        "runtime observation acknowledgement cannot regress")
    else
      let acked := { cur with
        ackedStreamPosition := dec.streamPosition
        ackedCursor := opaqueCursor
        acknowledgedAt := some now }
      return (⟨bind.environmentId, bind.deploymentId, bind.consumerId, acked.ackedCursor,
        acked.acknowledgedAt⟩, { db with cursors := db.cursors.put acked })

structure ConsumerResetResponse where
  environmentId : Uuid
  deploymentId : String
  consumerId : String
  cursor : OpaqueCursor
  resetBoundary : ExpiryMetadata

def resetRuntimeObservationConsumer (now : Time) (epoch : Uuid) (bind : ConsumerBinding)
    (db : Db) : Except Failure (ConsumerResetResponse × Db) := do
  let _ ← boundFence bind db
  match db.cursors.get (bind.environmentId, bind.consumerId) with
  | none => notRequired
  | some cur =>
    match cur.state, cur.expiry with
    | .expired _, some boundary =>
      let opaqueCursor ← encodeRuntimeObservationCursor cfg bind.environmentId
        bind.consumerId epoch boundary.streamPosition
      let renewed := { cur with
        cursorEpoch := epoch
        state := .active
        ackedStreamPosition := boundary.streamPosition
        ackedCursor := opaqueCursor
        acknowledgedAt := some now
        replayHorizonStartedAt := now
        resetAt := some now }
      return (⟨bind.environmentId, bind.deploymentId, bind.consumerId, opaqueCursor,
        cursorExpiryMetadata cur⟩, { db with cursors := db.cursors.put renewed })
    | _, _ => notRequired
where
  notRequired : Except Failure (ConsumerResetResponse × Db) :=
    raise 409 "runtime_observation_cursor_reset_not_required"
      "runtime observation consumer has no expired cursor to reset"

end Clawdi.Observation
