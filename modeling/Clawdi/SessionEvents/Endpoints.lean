import Clawdi.SessionEvents.Schema

namespace Clawdi.SessionEvents

def EVENT_CHUNK_MAX_BYTES : Nat := 8 * 1024 * 1024
def SESSION_EVENT_STAGING_MAX_AGE : Time := days 2

variable (db : Db) (auth : Auth) (adapter : EventAdapter) (chunk : Chunk) (sess : Session)
variable (req : EventAppend) (envId : Uuid) (lsid : String) (genId : Uuid)
variable (valid : ValidatedEventChunk) (gen : Generation) (body : CommitRequest)
variable (uploadedKey : Option FileKey) (now : Time) (profileKey : Option String)

abbrev casMatches (base : EventHead) : Prop := sess.head = base
def casConflict : HttpError := ⟨409, "Event head advanced"⟩
def uncaught (msg : String) : HttpError := ⟨500, msg⟩

def profilesOf (db : Db) : List String :=
  ((db.sessions.rows.filter fun sess => sess.userId = auth.userId ∧ sess.originEnvironmentId = some envId ∧
    sess.localSessionId = lsid).map Session.originProfileKey).dedup

def suppressedProfilesOf (db : Db) : List String :=
  ((db.suppressions.filter fun row => row.userId = auth.userId ∧ row.originEnvironmentId = envId ∧
    row.localSessionId = lsid).map SyncSuppression.originProfileKey).dedup

/-- `resolve_session_profile`: a client that names no profile keeps the only one there is. -/
def resolveSessionProfile (db : Db) : Except HttpError String :=
  match profileKey with
  | some key => .ok key
  | none =>
    let old := profilesOf auth envId lsid db
    let keys := if old = [] then suppressedProfilesOf auth envId lsid db else old
    if keys.length > 1 then .error ⟨409, "profile_required"⟩ else .ok (keys.headD "")

def ownedSessionByLocal (envId : Uuid) (profileKey : Option String) (db : Db) : Except HttpError Session := do
  raiseIf (auth.foreign (some envId)) ⟨403, "api key bound to another environment"⟩
  let key ← resolveSessionProfile auth envId lsid profileKey db
  match db.sessions.rows.find? fun sess => sess.userId = auth.userId ∧
      sess.localSessionId = lsid ∧ sess.originEnvironmentId = some envId ∧
      sess.originProfileKey = key with
  | some sess => return sess
  | none => throw ⟨404, "Session not found"⟩

def fenceEventGenerationEnvironment (db : Db) : Except HttpError Unit :=
  match db.generations.get genId with
  | none => .error ⟨404, "Staging generation not found"⟩
  | some gen =>
    match db.sessions.get gen.sessionId with
    | none => .error ⟨404, "Staging generation not found"⟩
    | some sess =>
      if sess.userId ≠ auth.userId ∨ sess.localSessionId ≠ lsid then
        .error ⟨404, "Staging generation not found"⟩
      else if sess.originEnvironmentId ≠ none ∧ auth.foreign sess.originEnvironmentId then
        .error ⟨404, "Staging generation not found"⟩
      else .ok ()

def requireUnexpiredStagingGeneration (gen : Generation) : Except HttpError Unit :=
  if gen.status = .staging ∧ gen.createdAt < now - SESSION_EVENT_STAGING_MAX_AGE then
    .error ⟨410, "Staging generation expired; restart the upload"⟩
  else .ok ()

structure HeadQuery where
  localSessionId : String
  environmentId : Uuid
  profileKey : Option String

structure HeadResponse where
  protocol : ContentProtocol
  head : EventHead

def getSessionEventHead (query : HeadQuery) (db : Db) : Except HttpError HeadResponse := do
  let sess ← ownedSessionByLocal auth query.localSessionId query.environmentId query.profileKey db
  return { protocol := sess.contentProtocol, head := sess.head }

structure GenerationCreate where
  localSessionId : String
  profileKey : Option String
  environmentId : Uuid
  generation : Uuid
  appendId : Uuid
  base : EventHead
  finalCount : Nat
  finalHeadHash : Digest

structure GenerationResponse where
  generation : Uuid
  status : GenerationStatus

def stagedGeneration (body : GenerationCreate) (now : Time) : Generation where
  id := body.generation
  sessionId := sess.id
  appendId := body.appendId
  status := .staging
  base := body.base
  finalCount := body.finalCount
  finalHeadHash := body.finalHeadHash
  supersededAt := none
  createdAt := now
  updatedAt := now

def stageSessionEventGeneration (body : GenerationCreate) (now : Time) (db : Db) :
    Except HttpError (GenerationResponse × Db) := do
  let sess ← ownedSessionByLocal auth body.localSessionId body.environmentId body.profileKey db
  match db.generations.get body.generation with
  | some old =>
    raiseIf (old.sessionId ≠ sess.id ∨ old.appendId ≠ body.appendId ∨
      old.base ≠ body.base ∨ old.finalCount ≠ body.finalCount ∨
      old.finalHeadHash ≠ body.finalHeadHash) ⟨409, "Generation identity conflict"⟩
    requireUnexpiredStagingGeneration now old
    return (⟨old.id, old.status⟩, db)
  | none =>
    raiseIf (¬casMatches sess body.base) casConflict
    match db.generations.rows.find? fun gen =>
        gen.sessionId = sess.id ∧ gen.appendId = body.appendId with
    | some existingAppend =>
      raiseIf (existingAppend.id ≠ body.generation ∨ existingAppend.base ≠ body.base ∨
        existingAppend.finalCount ≠ body.finalCount ∨
        existingAppend.finalHeadHash ≠ body.finalHeadHash) ⟨409, "append_id identity conflict"⟩
      requireUnexpiredStagingGeneration now existingAppend
      return (⟨existingAppend.id, existingAppend.status⟩, db)
    | none =>
      let gen := stagedGeneration sess body now
      return (⟨gen.id, gen.status⟩, { db with generations := db.generations.put gen })

structure ChunkUpload where
  localSessionId : String
  generationId : Uuid
  startSeq : Nat
  baseHeadHash : Digest
  contentHash : Digest
  data : Bytes

structure ChunkResponse where
  generation : Uuid
  startSeq : Nat
  endSeq : Nat
  count : Nat
  contentHash : Digest
  resultHeadHash : Digest

structure EventAppend where
  localSessionId : String
  environmentId : Uuid
  profileKey : Option String
  appendId : Uuid
  generation : Uuid
  baseRevision : Nat
  baseCount : Nat
  baseHeadHash : Digest
  finalCount : Nat
  finalHeadHash : Digest
  contentHash : Digest
  data : Bytes

def EventAppend.base : EventHead where
  generation := some req.generation
  revision := req.baseRevision
  count := req.baseCount
  headHash := req.baseHeadHash

structure AppendResponse where
  generation : Uuid
  revision : Nat
  count : Nat
  headHash : Digest

def AppendResponse.head (resp : AppendResponse) : EventHead where
  generation := some resp.generation
  revision := resp.revision
  count := resp.count
  headHash := resp.headHash

/-- What an upload route does with the row locks held: it answers, or it releases them to store the
object and comes back. -/
inductive Phase (ρ : Type)
  | answer (resp : ρ) (db : Db)
  | store (key : FileKey)

def readUpload (data : Bytes) (startSeq : Nat) (baseHeadHash : Digest) : Except HttpError ValidatedEventChunk :=
  if data.length > EVENT_CHUNK_MAX_BYTES then .error ⟨413, "Event chunk exceeds 8 MiB"⟩
  else
    match validateEventChunk adapter data startSeq baseHeadHash with
    | .ok valid => .ok valid
    | .error (.invalid msg) => .error ⟨422, msg⟩
    | .error (.keyError name) => .error (uncaught name)

def insertChunk (violation : HttpError) (db : Db) : Except HttpError Db :=
  match db.chunks.get chunk.key with
  | some _ => .error violation
  | none => .ok { db with chunks := db.chunks.put chunk }

def ChunkUpload.validate (req : ChunkUpload) : Except HttpError ValidatedEventChunk := do
  let valid ← readUpload adapter req.data req.startSeq req.baseHeadHash
  raiseIf (valid.contentHash ≠ req.contentHash) ⟨409, "Event chunk content hash mismatch"⟩
  return valid

def stagedChunk (req : ChunkUpload) (valid : ValidatedEventChunk) (now : Time) : Chunk where
  sessionId := sess.id
  generationId := req.generationId
  startSeq := req.startSeq
  endSeq := req.startSeq + valid.events.length - 1
  eventCount := valid.events.length
  baseHeadHash := req.baseHeadHash
  resultHeadHash := valid.resultHeadHash
  contentHash := req.contentHash
  fileKey := {
    userId := sess.userId
    sessionId := sess.id
    generationId := req.generationId
    startSeq := req.startSeq
    endSeq := req.startSeq + valid.events.length - 1
    contentHash := req.contentHash }
  updatedAt := now

def Chunk.response : ChunkResponse where
  generation := chunk.generationId
  startSeq := chunk.startSeq
  endSeq := chunk.endSeq
  count := chunk.eventCount
  contentHash := chunk.contentHash
  resultHeadHash := chunk.resultHeadHash

def Db.touch : Db :=
  { db with generations := db.generations.put { gen with updatedAt := now } }

def uploadSessionEventGenerationChunk (req : ChunkUpload) (valid : ValidatedEventChunk)
    (uploadedKey : Option FileKey) (now : Time) (db : Db) : Except HttpError (Phase ChunkResponse) := do
  fenceEventGenerationEnvironment auth req.localSessionId req.generationId db
  match db.generations.get req.generationId with
  | none => throw ⟨404, "Staging generation not found"⟩
  | some gen =>
    raiseIf (gen.status ≠ .staging) ⟨404, "Staging generation not found"⟩
    match db.sessions.get gen.sessionId with
    | none => throw ⟨404, "Staging generation not found"⟩
    | some sess =>
      raiseIf (sess.userId ≠ auth.userId ∨ sess.localSessionId ≠ req.localSessionId ∨
        auth.foreign sess.originEnvironmentId) ⟨404, "Staging generation not found"⟩
      requireUnexpiredStagingGeneration now gen
      match db.chunks.get (req.generationId, req.startSeq) with
      | some old =>
        raiseIf (old.contentHash ≠ req.contentHash ∨ old.baseHeadHash ≠ req.baseHeadHash ∨
          old.resultHeadHash ≠ valid.resultHeadHash) ⟨409, "Event chunk identity conflict"⟩
        return .answer old.response (db.touch gen now)
      | none =>
        let chunk := stagedChunk sess req valid now
        match uploadedKey with
        | none => return .store chunk.fileKey
        | some uploaded =>
          raiseIf (chunk.fileKey ≠ uploaded) ⟨409, "Session changed during upload"⟩
          let after ← insertChunk chunk ⟨409, "Event chunk identity conflict"⟩ db
          return .answer chunk.response (after.touch gen now)

def EventAppend.validate : Except HttpError ValidatedEventChunk := do
  let valid ← readUpload adapter req.data req.baseCount req.baseHeadHash
  raiseIf (valid.contentHash ≠ req.contentHash ∨ valid.resultHeadHash ≠ req.finalHeadHash ∨
    req.baseCount + valid.events.length ≠ req.finalCount)
    ⟨409, "Event append final hash mismatch"⟩
  return valid

def appendedChunk : Chunk where
  sessionId := sess.id
  generationId := req.generation
  startSeq := req.baseCount
  endSeq := req.finalCount - 1
  eventCount := valid.events.length
  baseHeadHash := req.baseHeadHash
  resultHeadHash := req.finalHeadHash
  contentHash := req.contentHash
  fileKey := {
    userId := sess.userId
    sessionId := sess.id
    generationId := req.generation
    startSeq := req.baseCount
    endSeq := req.finalCount - 1
    contentHash := req.contentHash }
  updatedAt := now

def appendReceipt : AppendReceipt where
  sessionId := sess.id
  appendId := req.appendId
  generationId := req.generation
  baseRevision := req.baseRevision
  baseCount := req.baseCount
  baseHeadHash := req.baseHeadHash
  contentHash := req.contentHash
  resultRevision := sess.eventRevision + 1
  resultCount := req.finalCount
  resultHeadHash := req.finalHeadHash

def AppendReceipt.head (rcpt : AppendReceipt) : EventHead where
  generation := some rcpt.generationId
  revision := rcpt.resultRevision
  count := rcpt.resultCount
  headHash := rcpt.resultHeadHash

def Session.appended : Session :=
  { sess with
    eventRevision := sess.eventRevision + 1
    eventCount := req.finalCount
    eventHeadHash := some req.finalHeadHash
    contentHash := some req.finalHeadHash }

def Db.append : Db :=
  { db with
    receipts := db.receipts.put (appendReceipt sess req)
    sessions := db.sessions.put (sess.appended req) }

def appendSessionEvents (db : Db) : Except HttpError (Phase AppendResponse) := do
  let sess ← ownedSessionByLocal auth req.localSessionId req.environmentId req.profileKey db
  match db.receipts.get (sess.id, req.appendId) with
  | some rcpt =>
    raiseIf (rcpt.generationId ≠ req.generation ∨ rcpt.baseRevision ≠ req.baseRevision ∨
      rcpt.baseCount ≠ req.baseCount ∨ rcpt.baseHeadHash ≠ req.baseHeadHash ∨
      rcpt.contentHash ≠ req.contentHash ∨ rcpt.resultCount ≠ req.finalCount ∨
      rcpt.resultHeadHash ≠ req.finalHeadHash) ⟨409, "append_id identity conflict"⟩
    raiseIf (¬casMatches sess rcpt.head) casConflict
    match db.chunks.get (req.generation, req.baseCount) with
    | none => throw ⟨409, "Event append chunk is missing"⟩
    | some _ => return .answer ⟨req.generation, rcpt.resultRevision, rcpt.resultCount, rcpt.resultHeadHash⟩ db
  | none =>
    if sess.eventGenerationId = some req.generation ∧
        sess.eventCount = req.finalCount ∧ currentHead sess = req.finalHeadHash then
      return .answer ⟨req.generation, sess.eventRevision, sess.eventCount, currentHead sess⟩ db
    else
      raiseIf (¬casMatches sess req.base) casConflict
      match db.generations.get req.generation with
      | none => throw ⟨409, "Event generation is not committed"⟩
      | some gen =>
        raiseIf (gen.status ≠ .committed) ⟨409, "Event generation is not committed"⟩
        let chunk := appendedChunk sess req valid now
        match uploadedKey with
        | none => return .store chunk.fileKey
        | some uploaded =>
          raiseIf (chunk.fileKey ≠ uploaded) ⟨409, "Session changed during upload"⟩
          let after ← insertChunk chunk (uncaught "IntegrityError") db
          return .answer ⟨req.generation, sess.eventRevision + 1, req.finalCount,
            req.finalHeadHash⟩ (after.append sess req)

structure CommitRequest where
  localSessionId : String
  generationId : Uuid
  profileKey : Option String
  appendId : Uuid
  base : EventHead
  finalCount : Nat
  finalHeadHash : Digest

def tileChunks : Nat × Digest → List Chunk → Except HttpError (Nat × Digest)
  | reached, [] => .ok reached
  | (nextSeq, head), chunk :: chunks =>
    if chunk.startSeq ≠ nextSeq ∨ chunk.baseHeadHash ≠ head then
      .error ⟨409, "Staging generation has a gap"⟩
    else tileChunks (chunk.endSeq + 1, chunk.resultHeadHash) chunks

def supersede (prev : Option Uuid) (genId : Uuid) (now : Time) (db : Db) : Table Generation.id :=
  match prev with
  | none => db.generations
  | some previousId =>
    if previousId = genId then db.generations
    else
      match db.generations.get previousId with
      | none => db.generations
      | some row =>
        if row.supersededAt = none then db.generations.put { row with supersededAt := some now }
        else db.generations

def committedHead : EventHead where
  generation := some gen.id
  revision := gen.base.revision + 1
  count := gen.finalCount
  headHash := gen.finalHeadHash

def Session.committed : Session :=
  { sess with
    contentProtocol := .eventsV1
    contentHash := some body.finalHeadHash
    eventGenerationId := some body.generationId
    eventRevision := sess.eventRevision + 1
    eventCount := body.finalCount
    eventHeadHash := some body.finalHeadHash }

def Db.commit : Db :=
  { db with
    generations := (supersede sess.eventGenerationId body.generationId now db).put { gen with status := .committed }
    sessions := db.sessions.put (sess.committed body) }

def commitSessionEventGeneration (db : Db) : Except HttpError (AppendResponse × Db) := do
  fenceEventGenerationEnvironment auth body.localSessionId body.generationId db
  match db.generations.get body.generationId with
  | none => throw ⟨404, "Staging generation not found"⟩
  | some gen =>
    raiseIf (gen.appendId ≠ body.appendId) ⟨404, "Staging generation not found"⟩
    match db.sessions.get gen.sessionId with
    | none => throw ⟨404, "Session not found"⟩
    | some sess =>
      raiseIf (sess.userId ≠ auth.userId ∨ sess.localSessionId ≠ body.localSessionId ∨
        (∃ key ∈ body.profileKey, sess.originProfileKey ≠ key) ∨
        auth.foreign sess.originEnvironmentId) ⟨404, "Session not found"⟩
      raiseIf (gen.base ≠ body.base ∨ gen.finalCount ≠ body.finalCount ∨
        gen.finalHeadHash ≠ body.finalHeadHash) ⟨409, "Generation commit identity conflict"⟩
      requireUnexpiredStagingGeneration now gen
      if gen.status = .committed then
        raiseIf (¬casMatches sess (committedHead gen)) casConflict
        return (⟨body.generationId, gen.base.revision + 1, gen.finalCount, gen.finalHeadHash⟩, db)
      else
        raiseIf (¬casMatches sess body.base) casConflict
        let reached ← tileChunks (0, EMPTY_EVENT_HEAD) (db.chunksOf body.generationId)
        raiseIf (reached ≠ (body.finalCount, body.finalHeadHash))
          ⟨409, "Staging generation final head mismatch"⟩
        return (⟨body.generationId, sess.eventRevision + 1, body.finalCount, body.finalHeadHash⟩,
          db.commit sess gen body now)

structure EventsResponse where
  head : EventHead
  events : List SessionEvent

/-- The first query of `get_session_events`. -/
def findEventSession (sid : Uuid) (db : Db) : Except HttpError (Session × Uuid) :=
  match db.sessions.get sid with
  | none => .error ⟨404, "Session events not found"⟩
  | some sess =>
    if sess.userId ≠ auth.userId ∨ auth.foreign sess.originEnvironmentId then
      .error ⟨404, "Session events not found"⟩
    else
      match sess.eventGenerationId with
      | none => .error ⟨404, "Session events not found"⟩
      | some genId => .ok (sess, genId)

/-- How far `get_session_events` has come in the chunks of its second query. -/
structure Reading where
  session : Session
  remaining : List Chunk
  events : List SessionEvent
  nextSeq : Nat
  head : Digest

def indexInvalid : HttpError := ⟨500, "Session event index is invalid"⟩
def storedChunkInvalid : HttpError := ⟨500, "Stored session event chunk is invalid"⟩
def chunkDrift : HttpError := ⟨500, "Session event chunk drift"⟩
def headInvalid : HttpError := ⟨500, "Session event head is invalid"⟩

/-- The responses with status 500 that `get_session_events` raises itself. -/
def readFaults : List HttpError := [indexInvalid, storedChunkInvalid, chunkDrift, headInvalid]
def fileNotFound : HttpError := uncaught "FileNotFoundError"

/-- One turn of the loop of `get_session_events`, or what follows it once no chunk remains. -/
def readNext (fetch : FileKey → Option Bytes) (reading : Reading) : Except HttpError (Reading ⊕ EventsResponse) :=
  match reading.remaining with
  | [] =>
    if reading.nextSeq ≠ reading.session.eventCount ∨ reading.head ≠ currentHead reading.session then
      .error headInvalid
    else .ok (.inr { head := reading.session.head, events := reading.events })
  | chunk :: chunks =>
    if chunk.startSeq ≠ reading.nextSeq ∨ chunk.baseHeadHash ≠ reading.head then
      .error indexInvalid
    else
      match fetch chunk.fileKey with
      | none => .error fileNotFound
      | some data =>
        match validateEventChunk adapter data reading.nextSeq reading.head with
        | .error (.invalid _) => .error storedChunkInvalid
        | .error (.keyError name) => .error (uncaught name)
        | .ok valid =>
          if valid.contentHash ≠ chunk.contentHash ∨
              valid.resultHeadHash ≠ chunk.resultHeadHash then
            .error chunkDrift
          else
            .ok (.inl { reading with
              remaining := chunks
              events := reading.events ++ valid.events
              nextSeq := chunk.endSeq + 1
              head := chunk.resultHeadHash })

end Clawdi.SessionEvents
