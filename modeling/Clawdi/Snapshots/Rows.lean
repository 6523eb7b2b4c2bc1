import Clawdi.SessionEvents.Endpoints

namespace Clawdi.Snapshots
open SessionEvents (Uuid Time ContentProtocol EventHead HttpError Auth EMPTY_EVENT_HEAD)

def hexdigest (digest : Digest) : String :=
  String.ofList ((List.range 64).map fun idx => Nat.digitChar (digest.toNat / 16 ^ (63 - idx) % 16))

/-- The key of an uploaded snapshot; `attempt` is the part drawn anew for every upload. -/
structure SnapshotKey where
  userId : Uuid
  sessionId : Uuid
  contentHash : Digest
  attempt : Uuid
  deriving DecidableEq

/-- A row of the sessions table. -/
structure Row where
  id : Uuid
  userId : Uuid
  originEnvironmentId : Option Uuid
  originProfileKey : String
  localSessionId : String
  lastActivityAt : Time
  contentProtocol : ContentProtocol
  contentHash : Option String
  fileKey : Option SnapshotKey
  contentUploadedAt : Option Time
  eventGenerationId : Option Uuid
  eventRevision : Nat
  eventCount : Nat
  eventHeadHash : Option Digest

def Row.head (row : Row) : EventHead where
  generation := row.eventGenerationId
  revision := row.eventRevision
  count := row.eventCount
  headHash := row.eventHeadHash.getD EMPTY_EVENT_HEAD

def Row.SameOrigin (one alt : Row) : Prop :=
  one.userId = alt.userId ∧ one.originEnvironmentId ≠ none ∧
    one.originEnvironmentId = alt.originEnvironmentId ∧ one.localSessionId = alt.localSessionId

instance (one alt : Row) : Decidable (one.SameOrigin alt) := by
  unfold Row.SameOrigin
  infer_instance

/-- `SessionCreate`, up to the metadata that no decision depends on. -/
structure SessionCreate where
  environmentId : Uuid
  localSessionId : String
  startedAt : Time
  endedAt : Option Time
  lastActivityAt : Option Time
  contentHash : Option String
  contentProtocol : ContentProtocol
  deriving DecidableEq

def LAST_ACTIVITY_FUTURE_SLACK : Time := 5 * 60

def clampLastActivity (clientSupplied : Option Time) (startedAt : Time) (endedAt : Option Time) (now : Time) : Time :=
  let upper := now + LAST_ACTIVITY_FUTURE_SLACK
  let safeStarted := min startedAt now
  let safeEnded := endedAt.map fun ended => min ended now
  let cand := (clientSupplied.or endedAt).getD startedAt
  let raised := if cand < safeStarted then safeStarted else cand
  if upper < raised then max (max safeStarted (safeEnded.getD now)) now else raised

def SessionCreate.lastActivity (item : SessionCreate) (now : Time) : Time :=
  clampLastActivity item.lastActivityAt item.startedAt item.endedAt now

def insertedRow (id uid : Uuid) (profileKey : String) (item : SessionCreate) (now : Time) : Row where
  id := id
  userId := uid
  originEnvironmentId := some item.environmentId
  originProfileKey := profileKey
  localSessionId := item.localSessionId
  lastActivityAt := item.lastActivity now
  contentProtocol := .snapshotV1
  contentHash := item.contentHash
  fileKey := none
  contentUploadedAt := none
  eventGenerationId := none
  eventRevision := 0
  eventCount := 0
  eventHeadHash := none

def Row.keepsContent (row : Row) (eventsRequested : Bool) : Bool :=
  eventsRequested || decide (row.contentProtocol = .eventsV1)

def Row.hashChanged (row : Row) (item : SessionCreate) (eventsRequested : Bool) : Bool :=
  !row.keepsContent eventsRequested && decide (row.contentHash ≠ item.contentHash)

def Row.refreshed (row : Row) (item : SessionCreate) (eventsRequested : Bool) (now : Time) : Row :=
  { row with
    lastActivityAt := max row.lastActivityAt (item.lastActivity now)
    contentHash := if row.keepsContent eventsRequested then row.contentHash else item.contentHash
    fileKey := if row.hashChanged item eventsRequested then none else row.fileKey
    contentUploadedAt :=
      if row.hashChanged item eventsRequested then none else row.contentUploadedAt }

def Row.uploaded (row : Row) (key : SnapshotKey) (contentHash : Digest) (now : Time) : Row :=
  { row with
    fileKey := some key
    contentHash := some (hexdigest contentHash)
    contentUploadedAt := some now }

def Row.committed (row : Row) (body : SessionEvents.CommitRequest) (now : Time) : Row :=
  { row with
    contentProtocol := .eventsV1
    contentHash := some (hexdigest body.finalHeadHash)
    contentUploadedAt := some now
    eventGenerationId := some body.generationId
    eventRevision := row.eventRevision + 1
    eventCount := body.finalCount
    eventHeadHash := some body.finalHeadHash }

section
variable (row : Row) (item : SessionCreate) (eventsRequested : Bool) (now : Time)

@[simp] lemma refreshed_id : (row.refreshed item eventsRequested now).id = row.id := rfl

@[simp] lemma refreshed_protocol :
    (row.refreshed item eventsRequested now).contentProtocol = row.contentProtocol := rfl

lemma refreshed_activity : row.lastActivityAt ≤ (row.refreshed item eventsRequested now).lastActivityAt :=
  le_max_left _ _

lemma refreshed_content : ((row.refreshed item eventsRequested now).contentHash = row.contentHash ∧
        (row.refreshed item eventsRequested now).fileKey = row.fileKey) ∨
      (row.contentProtocol = .snapshotV1 ∧ (row.refreshed item eventsRequested now).fileKey = none) := by
  by_cases keeps : row.keepsContent eventsRequested = true
  · left
    have unchanged : row.hashChanged item eventsRequested = false := by simp [Row.hashChanged, keeps]
    simp [Row.refreshed, keeps, unchanged]
  · have snap : row.contentProtocol = .snapshotV1 := by
      cases protocol : row.contentProtocol with
      | snapshotV1 => rfl
      | eventsV1 => simp [Row.keepsContent, protocol] at keeps
    by_cases same : row.contentHash = item.contentHash
    · left
      have unchanged : row.hashChanged item eventsRequested = false := by simp [Row.hashChanged, same]
      simp [Row.refreshed, keeps, unchanged, same]
    · right
      have changed : row.hashChanged item eventsRequested = true := by simp [Row.hashChanged, keeps, same]
      exact ⟨snap, by simp [Row.refreshed, changed]⟩

lemma refreshed_committed (evs : row.contentProtocol = .eventsV1) :
    (row.refreshed item eventsRequested now).contentHash = row.contentHash ∧
      (row.refreshed item eventsRequested now).fileKey = row.fileKey := by
  rcases refreshed_content row item eventsRequested now with kept | ⟨snap, _⟩
  · exact kept
  · rw [snap] at evs
    cases evs

lemma refreshed_same (same : row.contentHash = item.contentHash) :
    (row.refreshed item eventsRequested now).contentHash = row.contentHash ∧
      (row.refreshed item eventsRequested now).fileKey = row.fileKey := by
  have unchanged : row.hashChanged item eventsRequested = false := by simp [Row.hashChanged, same]
  simp [Row.refreshed, unchanged, same]

end

open SessionEvents (Uuid Time HttpError Auth uncaught)

/-- A deleted session that must not come back; rows from before origins have none. -/
structure Suppression where
  userId : Uuid
  originEnvironmentId : Option Uuid
  originProfileKey : String
  localSessionId : String

structure SessionBatchRequest where
  profileKey : Option String
  sessions : List SessionCreate

structure SessionBatchResponse where
  created : Nat
  updated : Nat
  unchanged : Nat
  needsContent : List String
  rejected : List String
  suppressed : List String

def emptyResponse : SessionBatchResponse where
  created := 0
  updated := 0
  unchanged := 0
  needsContent := []
  rejected := []
  suppressed := []

abbrev SessionCreate.Names (item : SessionCreate) (row : Row) : Prop :=
  row.originEnvironmentId = some item.environmentId ∧ row.localSessionId = item.localSessionId

abbrev SessionCreate.SamePair (item alt : SessionCreate) : Prop :=
  item.environmentId = alt.environmentId ∧ item.localSessionId = alt.localSessionId

def resolveProfileKey (profileKey : Option String) (existingKeys suppressedKeys : List String) :
    Except HttpError String :=
  match profileKey with
  | some key => .ok key
  | none =>
    let keys := (if existingKeys = [] then suppressedKeys else existingKeys).dedup
    if keys.length > 1 then .error ⟨409, "profile_required"⟩ else .ok (keys.headD "")

structure PreRead where
  existing : List Row
  suppressions : List Suppression

variable (auth : Auth) (uid : Uuid) (profileKey : String)

def existingRows (body : SessionBatchRequest) (rows : Table Row.id) : List Row :=
  rows.rows.filter fun row => row.userId = auth.userId ∧ ((∃ item ∈ body.sessions, item.Names row) ∨
      row.originEnvironmentId = none ∧ ∃ item ∈ body.sessions, row.localSessionId = item.localSessionId)

def suppressionRows (body : SessionBatchRequest) (suppressions : List Suppression) : List Suppression :=
  suppressions.filter fun row => row.userId = auth.userId ∧
    ∃ item ∈ body.sessions, row.localSessionId = item.localSessionId ∧
      (row.originEnvironmentId = none ∨ ∃ alt ∈ body.sessions,
        row.originEnvironmentId = some alt.environmentId ∧ row.localSessionId = alt.localSessionId)

def preRead (body : SessionBatchRequest) (rows : Table Row.id) (suppressions : List Suppression) : PreRead where
  existing := existingRows auth body rows
  suppressions := suppressionRows auth body suppressions

namespace PreRead
variable (pre : PreRead) (body : SessionBatchRequest)

def resolve (item : SessionCreate) : Except HttpError String :=
  resolveProfileKey body.profileKey ((pre.existing.filter fun row => item.Names row).map Row.originProfileKey)
    ((pre.suppressions.filter fun row => row.originEnvironmentId = some item.environmentId ∧
      row.localSessionId = item.localSessionId).map Suppression.originProfileKey)

def resolvedProfile (item : SessionCreate) : Option String :=
  match pre.resolve body item with
  | .ok key => some key
  | .error _ => body.profileKey

def rejects (item : SessionCreate) : Bool :=
  match pre.resolve body item with
  | .ok key => pre.existing.any fun row => item.Names row ∧ row.originProfileKey ≠ key
  | .error _ => true

def isSuppressed (envId : Option Uuid) (profileKey : Option String) (lsid : String) : Bool :=
  pre.suppressions.any fun row => row.localSessionId = lsid ∧ (row.originEnvironmentId = none ∨
      row.originEnvironmentId = envId ∧ some row.originProfileKey = profileKey)

def suppresses (item : SessionCreate) : Bool :=
  pre.isSuppressed (some item.environmentId) (pre.resolvedProfile body item) item.localSessionId

def profileRejected : List String := (body.sessions.filter (pre.rejects body)).map SessionCreate.localSessionId

def suppressed : List String :=
  ((body.sessions.filter (pre.suppresses body)).map SessionCreate.localSessionId).eraseDups

def activeSessions : List SessionCreate :=
  body.sessions.filter fun item => !pre.rejects body item && !pre.suppresses body item

def activeExistingRows : List Row :=
  pre.existing.filter fun row =>
    !pre.isSuppressed row.originEnvironmentId (some row.originProfileKey) row.localSessionId &&
      (row.originEnvironmentId = none ∨ ∃ item ∈ pre.activeSessions body,
        item.Names row ∧ pre.resolvedProfile body item = some row.originProfileKey)

def previous (item : SessionCreate) : Option Row :=
  (pre.activeExistingRows body).find? fun row =>
    item.Names row ∧ pre.resolvedProfile body item = some row.originProfileKey

def eventsRequested (item : SessionCreate) : Bool :=
  (pre.activeSessions body).any fun alt =>
    alt.contentProtocol = .eventsV1 ∧ alt.SamePair item ∧
      pre.resolvedProfile body alt = pre.resolvedProfile body item

end PreRead

/-- How far the upsert has come: the table, and the rows that `RETURNING` lists. -/
structure Upserting where
  rows : Table Row.id
  returned : List Row

def cardinalityViolation : HttpError := uncaught "ON CONFLICT DO UPDATE command cannot affect row a second time"

def conflicting (item : SessionCreate) (rows : Table Row.id) : Option Row :=
  rows.rows.find? fun row => row.userId = uid ∧ item.Names row

def upsertItem (item : SessionCreate) (eventsRequested : Bool) (id : Uuid) (now : Time)
    (st : Upserting) : Except HttpError Upserting :=
  match conflicting uid item st.rows with
  | some cur =>
    if cur.id ∈ st.returned.map Row.id then .error cardinalityViolation
    else if cur.originProfileKey = profileKey then
      let row := cur.refreshed item eventsRequested now
      .ok ⟨st.rows.put row, row :: st.returned⟩
    else .ok st
  | none =>
    match st.rows.get id with
    | some _ => .error (uncaught "IntegrityError")
    | none =>
      let row := insertedRow id uid profileKey item now
      .ok ⟨st.rows.put row, row :: st.returned⟩

/-- The upsert of all active items. -/
def upsertItems (uid : Uuid) (pre : PreRead) (body : SessionBatchRequest)
    (newId : SessionCreate → Uuid) (now : Time) : List SessionCreate → Upserting → Except HttpError Upserting
  | [], st => .ok st
  | item :: items, st => do
    let after ← upsertItem uid ((pre.resolvedProfile body item).getD "") item
      (pre.eventsRequested body item) (newId item) now st
    upsertItems uid pre body newId now items after

inductive Category
  | rejected
  | created
  | updated
  | unchanged
  deriving DecidableEq

def isReturned (pre : PreRead) (body : SessionBatchRequest) (returned : List Row) (item : SessionCreate) : Bool :=
  returned.any fun row => item.Names row ∧ pre.resolvedProfile body item = some row.originProfileKey

def PreRead.category (pre : PreRead) (body : SessionBatchRequest) (returned : List Row)
    (item : SessionCreate) : Category :=
  if !isReturned pre body returned item then .rejected
  else
    match pre.previous body item with
    | none => .created
    | some row =>
      if row.contentProtocol = .eventsV1 then .unchanged
      else if row.fileKey = none then .updated
      else if row.contentHash = none ∨ row.contentHash ≠ item.contentHash then .updated
      else .unchanged

def SessionCreate.needsContent (item : SessionCreate) (category : Category) : Bool :=
  decide (item.contentProtocol = .snapshotV1) && decide (category = .created ∨ category = .updated)

def PreRead.response (pre : PreRead) (body : SessionBatchRequest) (returned : List Row) : SessionBatchResponse :=
  let active := pre.activeSessions body
  let count := fun category => active.countP fun item => pre.category body returned item = category
  { created := count .created
    updated := count .updated
    unchanged := count .unchanged
    needsContent := (active.filter fun item =>
      item.needsContent (pre.category body returned item)).map SessionCreate.localSessionId
    rejected := pre.profileRejected body ++
      (active.filter fun item => pre.category body returned item = .rejected).map SessionCreate.localSessionId
    suppressed := pre.suppressed body }

/-- `batch_create_sessions` up to its locked read; `registered` are the user's active agents. -/
def checkBatch (body : SessionBatchRequest) (reg : List Uuid) : Except HttpError Unit := do
  raiseIf (∃ item ∈ body.sessions, auth.foreign (some item.environmentId) = true)
    ⟨403, "env_binding_violation"⟩
  raiseIf (∃ item ∈ body.sessions, item.environmentId ∉ reg) ⟨400, "unknown_environment"⟩

/-- `batch_create_sessions` from its locked read to its answer. -/
def finishBatch (body : SessionBatchRequest) (pre : PreRead) (newId : SessionCreate → Uuid)
    (now : Time) (rows : Table Row.id) : Except HttpError (SessionBatchResponse × Table Row.id) := do
  if pre.activeSessions body = [] then
    return ({ emptyResponse with
      rejected := pre.profileRejected body
      suppressed := pre.suppressed body }, rows)
  else
    raiseIf (∃ row ∈ pre.activeExistingRows body, row.originEnvironmentId = none)
      ⟨409, "session_origin_unknown"⟩
    let done ← upsertItems auth.userId pre body newId now (pre.activeSessions body) ⟨rows, []⟩
    return (pre.response body done.returned, done.rows)

end Clawdi.Snapshots
