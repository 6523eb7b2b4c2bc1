import Clawdi.Lib.Table
import Clawdi.Lib.Transition
import Clawdi.SessionSearch.Documents

namespace Clawdi.SessionSearch

inductive ContentProtocol where
  | snapshotV1
  | eventsV1
deriving DecidableEq

inductive ContentHash where
  | snapshot (content : Snapshot)
  | head (head : Head)
deriving DecidableEq

structure Session where
  contentProtocol : ContentProtocol := .snapshotV1
  contentHash : Option ContentHash := none
  contentUploadedAt : Option ℕ := none
  file : Option Snapshot := none
  eventGenerationId : Option ℕ := none
  eventRevision : ℕ := 0
  eventCount : ℕ := 0
  eventHeadHash : Option Head := none
  searchIndexRevision : Option SearchRevision := none

structure Base where
  generation : Option ℕ
  revision : ℕ
  count : ℕ
  headHash : Head
deriving DecidableEq

def EMPTY_EVENT_HEAD : Head := []

def Session.base (sess : Session) : Base :=
  ⟨sess.eventGenerationId, sess.eventRevision, sess.eventCount, sess.eventHeadHash.getD EMPTY_EVENT_HEAD⟩

structure Generation where
  id : ℕ
  appendId : ℕ
  committed : Bool
  base : Base
  finalCount : ℕ
  finalHeadHash : Head
  createdAt : ℕ

def SESSION_EVENT_STAGING_MAX_AGE : ℕ := 2 * 24 * 3600

variable (w : World) (gen : Generation) (now : ℕ)

def Generation.expired : Bool := !gen.committed && gen.createdAt + SESSION_EVENT_STAGING_MAX_AGE < now

def Generation.commit (genId : ℕ) (gen : Generation) : Generation :=
  if gen.id = genId then { gen with committed := true } else gen

lemma Generation.commit_id (genId : ℕ) (gen : Generation) : (gen.commit genId).id = gen.id := by
  rw [commit]
  split <;> rfl

/-- A chunk with the events of its object; `indexed` says that `search_indexed_at` is set. -/
structure Chunk where
  generationId : ℕ
  startSeq : ℕ
  events : List SessionEvent
  baseHeadHash : Head
  indexed : Bool

def Chunk.key (chunk : Chunk) : ℕ × ℕ := (chunk.generationId, chunk.startSeq)
def advanceEventHead (head : Head) (evs : List SessionEvent) : Head := head ++ evs
def Chunk.resultHeadHash (chunk : Chunk) : Head := advanceEventHead chunk.baseHeadHash chunk.events
def Chunk.next (chunk : Chunk) : ℕ := chunk.startSeq + chunk.events.length

def Chunk.documents (chunk : Chunk) : List Document :=
  documentsOf (.events chunk.generationId) (searchableEventMessages chunk.events)

structure AppendReceipt where
  appendId : ℕ
  generationId : ℕ
  base : Base
  events : List SessionEvent
  resultRevision : ℕ

def Chunk.stamp (rev : DocumentRevision) (chunk : Chunk) : Chunk :=
  { chunk with indexed := chunk.indexed || decide (rev = .events chunk.generationId) }

/-- A call of `rebuild_session_search_index`: the session as it was loaded and, once they are
read, the messages of its content. -/
structure Rebuild where
  id : ℕ
  session : Session
  messages : Option (List SearchableSessionMessage)

structure World where
  session : Session := {}
  generations : Table Generation.id := .empty
  chunks : Table Chunk.key := .empty
  receipts : Table AppendReceipt.appendId := .empty
  documents : Table Document.key := .empty
  rebuilds : Table Rebuild.id := .empty

def currentSearchRevision (sess : Session) : Option SearchRevision :=
  match sess.contentProtocol, sess.contentHash with
  | .eventsV1, _ => sess.eventHeadHash.map .events
  | .snapshotV1, some (.snapshot content) => some (.snapshot content)
  | .snapshotV1, _ => none

def currentDocumentRevision (sess : Session) : Option DocumentRevision :=
  match sess.contentProtocol, sess.contentHash with
  | .eventsV1, _ => sess.eventGenerationId.map .events
  | .snapshotV1, some (.snapshot content) => some (.snapshot content)
  | .snapshotV1, _ => none

def currentMessages (sess : Session) : List SearchableSessionMessage :=
  match sess.contentProtocol, sess.contentHash with
  | .eventsV1, _ => searchableEventMessages (sess.eventHeadHash.getD EMPTY_EVENT_HEAD)
  | .snapshotV1, some (.snapshot content) => content.searchMessages
  | .snapshotV1, _ => []

def addDocuments (documents : Table Document.key) (added : List Document) : Option (Table Document.key) :=
  if (added.map Document.key).Nodup ∧ ∀ doc ∈ added, documents.get doc.key = none then
    some (added.foldl Table.put documents)
  else none

namespace World
variable (w : World) (genId : ℕ)

def chunksOf : List Chunk := w.chunks.select (fun chunk => chunk.generationId = genId) Chunk.startSeq
def eventSearchProjectionComplete : Bool := (w.chunksOf genId).all Chunk.indexed

def finalizeEventSearchIndex (projectionComplete : Bool) : World :=
  let rev := if projectionComplete then currentSearchRevision w.session else none
  { w with
    documents := w.documents.remove fun doc =>
      doc.contentRevision ≠ .events genId
    session := { w.session with searchIndexRevision := rev } }

def stageChunk (chunk : Chunk) : Option World :=
  (addDocuments w.documents chunk.documents).map fun documents =>
    { w with documents, chunks := w.chunks.put { chunk with indexed := true } }

end World

structure GenerationBody where
  generation : ℕ
  appendId : ℕ
  base : Base
  finalCount : ℕ
  finalHeadHash : Head

def stageSessionEventGeneration (body : GenerationBody) (now : ℕ) : World :=
  if (w.generations.get body.generation).isSome then w
  else if w.session.base ≠ body.base then w
  else if w.generations.rows.any fun alt => alt.appendId = body.appendId then w
  else
    { w with generations := w.generations.put ⟨body.generation, body.appendId, false, body.base,
        body.finalCount, body.finalHeadHash, now⟩ }

def validEvents (startSeq : ℕ) (evs : List SessionEvent) : Bool :=
  evs ≠ [] && evs.map SessionEvent.seq = List.range' startSeq evs.length

structure ChunkUpload where
  generationId : ℕ
  startSeq : ℕ
  events : List SessionEvent
  baseHeadHash : Head

/-- A locked phase of an upload; `stored` says that an earlier one has put the object. -/
def uploadSessionEventGenerationChunk (up : ChunkUpload) (stored : Bool) (now : ℕ) : World :=
  if !validEvents up.startSeq up.events then w
  else
    match w.generations.get up.generationId with
    | none => w
    | some gen =>
      if gen.committed || gen.expired now then w
      else
        match w.chunks.get (up.generationId, up.startSeq) with
        | some old =>
          if old.events ≠ up.events ∨ old.baseHeadHash ≠ up.baseHeadHash then w
          else if old.indexed then w
          else (w.stageChunk old).getD w
        | none =>
          if stored then
            (w.stageChunk ⟨up.generationId, up.startSeq, up.events, up.baseHeadHash, true⟩).getD w
          else w

def tileChunks : ℕ × Head → List Chunk → Option (ℕ × Head)
  | position, [] => some position
  | (nextSeq, head), chunk :: chunks =>
    if chunk.startSeq = nextSeq ∧ chunk.baseHeadHash = head then
      tileChunks (chunk.next, chunk.resultHeadHash) chunks
    else none

def commits (body : GenerationBody) (now : ℕ) : Bool :=
  match w.generations.get body.generation with
  | none => false
  | some gen =>
    decide (gen.appendId = body.appendId ∧ gen.base = body.base ∧
      gen.finalCount = body.finalCount ∧ gen.finalHeadHash = body.finalHeadHash ∧
      gen.committed = false ∧ w.session.base = body.base ∧
      tileChunks (0, EMPTY_EVENT_HEAD) (w.chunksOf body.generation) =
        some (body.finalCount, body.finalHeadHash)) && !gen.expired now

def commitSessionEventGeneration (body : GenerationBody) (now : ℕ) : World :=
  if commits w body now then
    let sess :=
      { w.session with
        contentProtocol := .eventsV1
        contentHash := some (.head body.finalHeadHash)
        contentUploadedAt := some now
        eventGenerationId := some body.generation
        eventRevision := w.session.eventRevision + 1
        eventCount := body.finalCount
        eventHeadHash := some body.finalHeadHash }
    let generations := w.generations.update (Generation.commit body.generation)
      (Generation.commit_id body.generation)
    World.finalizeEventSearchIndex { w with session := sess, generations } body.generation
      (w.eventSearchProjectionComplete body.generation)
  else w

structure EventAppend where
  appendId : ℕ
  generationId : ℕ
  base : Base
  events : List SessionEvent

def EventAppend.finalHeadHash (req : EventAppend) : Head := advanceEventHead req.base.headHash req.events
def EventAppend.finalCount (req : EventAppend) : ℕ := req.base.count + req.events.length

def EventAppend.chunk (req : EventAppend) : Chunk :=
  ⟨req.generationId, req.base.count, req.events, req.base.headHash, true⟩

def replayAppend (req : EventAppend) (rcpt : AppendReceipt) : World :=
  if rcpt.generationId ≠ req.generationId ∨ rcpt.base ≠ req.base ∨ rcpt.events ≠ req.events then w
  else if w.session.base ≠ ⟨some req.generationId, rcpt.resultRevision, req.finalCount, req.finalHeadHash⟩ then w
  else
    match w.chunks.get (req.generationId, req.base.count) with
    | none => w
    | some chunk =>
      if chunk.indexed then w
      else
        match w.stageChunk chunk with
        | none => w
        | some staged => staged.finalizeEventSearchIndex req.generationId
            (staged.eventSearchProjectionComplete req.generationId)

def appends (req : EventAppend) : Bool :=
  decide (w.session.base = req.base ∧ req.base.generation = some req.generationId ∧
    (w.chunks.get req.chunk.key).isNone) &&
  (w.generations.get req.generationId).any Generation.committed

def Session.append (sess : Session) (req : EventAppend) (now : ℕ) : Session :=
  { sess with
    eventRevision := sess.eventRevision + 1
    eventCount := req.finalCount
    eventHeadHash := some req.finalHeadHash
    contentHash := some (.head req.finalHeadHash)
    contentUploadedAt := some now }

def appendSessionEvents (req : EventAppend) (stored : Bool) (now : ℕ) : World :=
  if !validEvents req.base.count req.events then w
  else
    match w.receipts.get req.appendId with
    | some rcpt => replayAppend w req rcpt
    | none =>
      if !stored || !appends w req then w
      else
        match w.stageChunk req.chunk with
        | none => w
        | some staged =>
          let sess := w.session.append req now
          let rcpts := w.receipts.put ⟨req.appendId, req.generationId, req.base,
            req.events, w.session.eventRevision + 1⟩
          World.finalizeEventSearchIndex { staged with session := sess, receipts := rcpts } req.generationId
            (w.eventSearchProjectionComplete req.generationId)

def upsertSession (content : Snapshot) (eventsRequested : Bool) : World :=
  if eventsRequested ∨ w.session.contentProtocol = .eventsV1 ∨
      w.session.contentHash = some (.snapshot content) then w
  else
    let sess :=
      { w.session with
        contentHash := some (.snapshot content)
        file := none
        contentUploadedAt := none
        searchIndexRevision := none }
    { w with session := sess }

def uploadSessionContent (content : Snapshot) (ident : Option ContentHash × Option ℕ) (now : ℕ) : World :=
  if w.session.contentProtocol = .eventsV1 ∨ ident ≠ (w.session.contentHash, w.session.contentUploadedAt) then w
  else
    match addDocuments .empty (documentsOf (.snapshot content) content.searchMessages) with
    | none => w
    | some documents =>
      let sess :=
        { w.session with
          contentHash := some (.snapshot content)
          contentUploadedAt := some now
          file := some content
          searchIndexRevision := some (.snapshot content) }
      { w with session := sess, documents }

def loadMessages (sess : Session) : Option (List SearchableSessionMessage) :=
  match sess.contentProtocol, sess.eventGenerationId, sess.contentHash with
  | .eventsV1, some genId, _ =>
    let chunks := w.chunks.select (fun chunk => chunk.generationId = genId && chunk.startSeq < sess.eventCount)
      Chunk.startSeq
    let final := (sess.eventCount, sess.eventHeadHash.getD EMPTY_EVENT_HEAD)
    if chunks.all (fun chunk => chunk.next ≤ sess.eventCount) ∧
        tileChunks (0, EMPTY_EVENT_HEAD) chunks = some final then
      some (searchableEventMessages (chunks.flatMap Chunk.events))
    else none
  | .snapshotV1, _, some (.snapshot (.messages list)) =>
    if sess.file = some (.messages list) then some (searchableSnapshotMessages list) else none
  | _, _, _ => none

def writeRebuild (sess : Session) (msgs : List SearchableSessionMessage) : World :=
  if currentSearchRevision w.session ≠ currentSearchRevision sess ∨
      currentDocumentRevision w.session ≠ currentDocumentRevision sess then w
  else
    match currentSearchRevision sess, currentDocumentRevision sess with
    | some searchRevision, some documentRevision =>
      match addDocuments .empty (documentsOf documentRevision msgs) with
      | none => w
      | some documents =>
        let chunks := w.chunks.update (Chunk.stamp documentRevision) fun _ => rfl
        let sess := { w.session with searchIndexRevision := some searchRevision }
        { w with documents, chunks, session := sess }
    | _, _ => w

inductive Operation where
  | stageGeneration (body : GenerationBody) (now : ℕ)
  | uploadChunk (up : ChunkUpload) (stored : Bool) (now : ℕ)
  | commitGeneration (body : GenerationBody) (now : ℕ)
  | append (req : EventAppend) (stored : Bool) (now : ℕ)
  | upsert (content : Snapshot) (eventsRequested : Bool)
  | uploadSnapshot (content : Snapshot) (ident : Option ContentHash × Option ℕ) (now : ℕ)
  | rebuildLoad (id : ℕ)
  | rebuildRead (id : ℕ)
  | rebuildWrite (id : ℕ)

def step (w : World) : Operation → World
  | .stageGeneration body now => stageSessionEventGeneration w body now
  | .uploadChunk up stored now => uploadSessionEventGenerationChunk w up stored now
  | .commitGeneration body now => commitSessionEventGeneration w body now
  | .append req stored now => appendSessionEvents w req stored now
  | .upsert content eventsRequested => upsertSession w content eventsRequested
  | .uploadSnapshot content ident now => uploadSessionContent w content ident now
  | .rebuildLoad id => { w with rebuilds := w.rebuilds.put ⟨id, w.session, none⟩ }
  | .rebuildRead id =>
    match w.rebuilds.get id with
    | none => w
    | some rebuild =>
      let msgs := loadMessages w rebuild.session
      { w with rebuilds := w.rebuilds.put { rebuild with messages := msgs } }
  | .rebuildWrite id =>
    match (w.rebuilds.get id).bind fun rebuild => rebuild.messages.map (rebuild.session, ·) with
    | none => w
    | some (sess, msgs) => writeRebuild w sess msgs

end Clawdi.SessionSearch
