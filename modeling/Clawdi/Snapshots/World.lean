import Clawdi.Lib.Transition
import Clawdi.Snapshots.Rows

namespace Clawdi.Snapshots
open SessionEvents (Uuid Time ContentProtocol HttpError Auth CommitRequest Generation Chunk EventHead
  casConflict committedHead tileChunks EMPTY_EVENT_HEAD)

structure UploadRequest where
  localSessionId : String
  environmentId : Option Uuid
  profileKey : Option String
  expectedContentHash : Option String
  data : Bytes

structure SessionUploadResponse where
  fileKey : SnapshotKey
  contentHash : String

structure UploadIdentity where
  sessionId : Uuid
  contentHash : Option String
  contentUploadedAt : Option Time
  deriving DecidableEq

def Row.identity (row : Row) : UploadIdentity where
  sessionId := row.id
  contentHash := row.contentHash
  contentUploadedAt := row.contentUploadedAt

def MAX_SESSION_CONTENT_BYTES : Nat := 50 * 1024 * 1024

variable (auth : Auth) (upload : Upload) (req : UploadRequest) (body : CommitRequest) (w : World)
variable (batch : Batch) (chance : Chance) (rowId : Uuid) (ident : UploadIdentity)
variable (key : SnapshotKey) (gen : Generation) (chunks : List Chunk) (now : Time) (rows : Table Row.id)

def uploadMatches : List Row :=
  rows.rows.filter fun row =>
    row.userId = auth.userId ∧ row.localSessionId = req.localSessionId ∧
      (∀ envId ∈ auth.boundEnvironmentId.or req.environmentId, row.originEnvironmentId = some envId) ∧
      (∀ key ∈ req.profileKey, row.originProfileKey = key)

def requireSessionMatch (hit : List Row) (profileKey : Option String) : Except HttpError Row :=
  match hit with
  | [] => .error ⟨404, "Session not found"⟩
  | row :: rows => do
    raiseIf (∃ alt ∈ rows, alt.originEnvironmentId ≠ row.originEnvironmentId)
      ⟨409, "session_origin_required"⟩
    let _ ← resolveProfileKey profileKey (hit.map Row.originProfileKey) []
    return row

def snapshotUploadSession : Except HttpError Row := do
  let row ← requireSessionMatch (uploadMatches auth req rows) req.profileKey
  raiseIf (row.contentProtocol = .eventsV1) ⟨409, "Session has been upgraded to events-v1"⟩
  return row

def analyzeUpload (att : Uuid) : Except HttpError SnapshotKey := do
  raiseIf (req.data.length > MAX_SESSION_CONTENT_BYTES) ⟨413, "Session content exceeds 50 MB"⟩
  let hash := sha256 req.data
  raiseIf (∃ exp ∈ req.expectedContentHash, exp ≠ hexdigest hash ∨ ident.contentHash ≠ some exp)
    ⟨409, "session_content_hash_mismatch"⟩
  return ⟨auth.userId, ident.sessionId, hash, att⟩

def publishUpload : Except HttpError (SessionUploadResponse × Table Row.id) := do
  let row ← snapshotUploadSession auth req rows
  raiseIf (ident ≠ row.identity) ⟨409, "session_content_hash_mismatch"⟩
  let hash := sha256 req.data
  return (⟨key, hexdigest hash⟩, rows.put (row.uploaded key hash now))

/-- What `commit_session_event_generation` does to the session row, given the generation row that it
has locked and the chunks of the generation. -/
def commitGeneration (row : Row) : Except HttpError Row := do
  raiseIf (gen.id ≠ body.generationId ∨ gen.appendId ≠ body.appendId)
    ⟨404, "Staging generation not found"⟩
  raiseIf (row.userId ≠ auth.userId ∨ row.localSessionId ≠ body.localSessionId ∨
    (∃ key ∈ body.profileKey, row.originProfileKey ≠ key) ∨ auth.foreign row.originEnvironmentId)
    ⟨404, "Session not found"⟩
  raiseIf (gen.base ≠ body.base ∨ gen.finalCount ≠ body.finalCount ∨
    gen.finalHeadHash ≠ body.finalHeadHash) ⟨409, "Generation commit identity conflict"⟩
  SessionEvents.requireUnexpiredStagingGeneration now gen
  if gen.status = .committed then
    raiseIf (row.head ≠ committedHead gen) casConflict
    return row
  else
    raiseIf (row.head ≠ body.base) casConflict
    let reached ← tileChunks (0, EMPTY_EVENT_HEAD) chunks
    raiseIf (reached ≠ (body.finalCount, body.finalHeadHash))
      ⟨409, "Staging generation final head mismatch"⟩
    return row.committed body now

inductive BatchProgress
  | received
  | located (pre : PreRead)
  | answered (out : Except HttpError SessionBatchResponse)
  | abandoned

structure Batch where
  id : Nat
  auth : Auth
  body : SessionBatchRequest
  progress : BatchProgress

inductive UploadProgress
  | received
  | located (ident : UploadIdentity)
  | storing (ident : UploadIdentity) (key : SnapshotKey)
  | stored (ident : UploadIdentity) (key : SnapshotKey)
  | answered (out : Except HttpError SessionUploadResponse)
  | abandoned

structure Upload where
  id : Nat
  auth : Auth
  request : UploadRequest
  progress : UploadProgress

structure StoredSnapshot where
  key : SnapshotKey
  data : Bytes

/-- `issued` holds the puts sent to the object store, which may still take effect after their sender
has given up. -/
structure World where
  rows : Table Row.id
  suppressions : List Suppression
  objects : Table StoredSnapshot.key
  issued : List StoredSnapshot
  batches : Table Batch.id
  uploads : Table Upload.id

def World.empty : World where
  rows := .empty
  suppressions := []
  objects := .empty
  issued := []
  batches := .empty
  uploads := .empty

def World.fetch : Option Bytes := (w.objects.get key).map StoredSnapshot.data

def Batch.locks : Bool :=
  match batch.progress with
  | .located pre => pre.existing.any fun row => row.id = rowId
  | _ => false

def World.locked : Bool := w.batches.rows.any fun batch => batch.locks rowId

/-- A batch other than `batch` holds the row. -/
def World.lockedByOther : Bool := w.batches.rows.any fun alt => alt.id ≠ batch.id ∧ alt.locks rowId

def Batch.moveTo (batch : Batch) (prog : BatchProgress) (w : World) : World :=
  { w with batches := w.batches.put { batch with progress := prog } }

def Upload.moveTo (upload : Upload) (prog : UploadProgress) (w : World) : World :=
  { w with uploads := w.uploads.put { upload with progress := prog } }

def Batch.waits (pre : PreRead) (w : World) : Bool :=
  (pre.activeSessions batch.body).any fun item =>
    (conflicting batch.auth.userId item w.rows).any fun row => w.lockedByOther batch row.id

structure Chance where
  now : Time
  registered : List Uuid
  attempt : Uuid
  newId : SessionCreate → Uuid

def Batch.advance (w : World) : World :=
  match batch.progress with
  | .received =>
    if batch.body.sessions = [] then batch.moveTo (.answered (.ok emptyResponse)) w
    else
      match checkBatch batch.auth batch.body chance.registered with
      | .error err => batch.moveTo (.answered (.error err)) w
      | .ok () =>
        let pre := preRead batch.auth batch.body w.rows w.suppressions
        if pre.existing.any fun row => w.locked row.id then w
        else batch.moveTo (.located pre) w
  | .located pre =>
    if batch.waits pre w then w
    else
      match finishBatch batch.auth batch.body pre chance.newId chance.now w.rows with
      | .error err => batch.moveTo (.answered (.error err)) w
      | .ok (resp, rows) => batch.moveTo (.answered (.ok resp)) { w with rows := rows }
  | _ => w

def Upload.waits : Bool := (uploadMatches upload.auth upload.request w.rows).any fun row => w.locked row.id

def Upload.advance (w : World) : World :=
  match upload.progress with
  | .received =>
    if upload.waits w then w
    else
      match snapshotUploadSession upload.auth upload.request w.rows with
      | .error err => upload.moveTo (.answered (.error err)) w
      | .ok row => upload.moveTo (.located row.identity) w
  | .located ident =>
    match analyzeUpload upload.auth upload.request ident chance.attempt with
    | .error err => upload.moveTo (.answered (.error err)) w
    | .ok key => upload.moveTo (.storing ident key) { w with issued := ⟨key, upload.request.data⟩ :: w.issued }
  | .storing ident key =>
    upload.moveTo (.stored ident key) { w with objects := w.objects.put ⟨key, upload.request.data⟩ }
  | .stored ident key =>
    if upload.waits w then w
    else
      match publishUpload upload.auth upload.request ident key chance.now w.rows with
      | .error err => upload.moveTo (.answered (.error err)) w
      | .ok (resp, rows) => upload.moveTo (.answered (.ok resp)) { w with rows := rows }
  | _ => w

def commitRow (w : World) : World :=
  match w.rows.get gen.sessionId with
  | none => w
  | some row =>
    if w.locked row.id then w
    else
      match commitGeneration auth body gen chunks now row with
      | .error _ => w
      | .ok after => { w with rows := w.rows.put after }

def addLegacyRow (id uid : Uuid) (lsid : String) (lastActivityAt : Time) (w : World) : World :=
  match w.rows.get id with
  | some _ => w
  | none =>
    let row : Row :=
      { id := id
        userId := uid
        originEnvironmentId := none
        originProfileKey := ""
        localSessionId := lsid
        lastActivityAt := lastActivityAt
        contentProtocol := .snapshotV1
        contentHash := none
        fileKey := none
        contentUploadedAt := none
        eventGenerationId := none
        eventRevision := 0
        eventCount := 0
        eventHeadHash := none }
    { w with rows := w.rows.put row }

inductive Action
  | legacyRow (id uid : Uuid) (lsid : String) (lastActivityAt : Time)
  | suppress (row : Suppression)
  | receiveBatch (id : Nat) (auth : Auth) (body : SessionBatchRequest)
  | advanceBatch (id : Nat) (chance : Chance)
  | abandonBatch (id : Nat)
  | receiveUpload (id : Nat) (auth : Auth) (req : UploadRequest)
  | advanceUpload (id : Nat) (chance : Chance)
  | abandonUpload (id : Nat)
  | performLate (idx : Nat)
  | commit (auth : Auth) (body : CommitRequest) (gen : Generation) (chunks : List Chunk) (now : Time)

def Action.isCommit : Action → Bool
  | .commit .. => true
  | _ => false

def step (w : World) : Action → World
  | .legacyRow id uid lsid lastActivityAt => addLegacyRow id uid lsid lastActivityAt w
  | .suppress row => { w with suppressions := row :: w.suppressions }
  | .receiveBatch id auth body =>
    match w.batches.get id with
    | some _ => w
    | none => { w with batches := w.batches.put ⟨id, auth, body, .received⟩ }
  | .advanceBatch id chance =>
    match w.batches.get id with
    | none => w
    | some batch => batch.advance chance w
  | .abandonBatch id =>
    match w.batches.get id with
    | none => w
    | some batch => batch.moveTo .abandoned w
  | .receiveUpload id auth req =>
    match w.uploads.get id with
    | some _ => w
    | none => { w with uploads := w.uploads.put ⟨id, auth, req, .received⟩ }
  | .advanceUpload id chance =>
    match w.uploads.get id with
    | none => w
    | some upload => upload.advance chance w
  | .abandonUpload id =>
    match w.uploads.get id with
    | none => w
    | some upload => upload.moveTo .abandoned w
  | .performLate idx =>
    match w.issued[idx]? with
    | none => w
    | some obj => { w with objects := w.objects.put obj }
  | .commit auth body gen chunks now => commitRow auth body gen chunks now w

end Clawdi.Snapshots
