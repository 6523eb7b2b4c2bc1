import Clawdi.Lib.Transition
import Clawdi.SessionEvents.Endpoints
import Clawdi.Lib.Linked

namespace Clawdi.SessionEvents

inductive Upload
  | chunk (req : ChunkUpload)
  | append (req : EventAppend)

inductive Request
  | head (query : HeadQuery)
  | stage (body : GenerationCreate)
  | upload (upload : Upload)
  | commit (body : CommitRequest)
  | read (sid : Uuid)

inductive Answer
  | head (resp : HeadResponse)
  | generation (resp : GenerationResponse)
  | chunk (resp : ChunkResponse)
  | appended (resp : AppendResponse)
  | events (resp : EventsResponse)

def Phase.map {ρ τ : Type} (f : ρ → τ) : Phase ρ → Phase τ
  | .answer resp db => .answer (f resp) db
  | .store key => .store key

namespace Upload

def data : Upload → Bytes
  | .chunk req => req.data
  | .append req => req.data

def validate (adapter : EventAdapter) : Upload → Except HttpError ValidatedEventChunk
  | .chunk req => req.validate adapter
  | .append req => req.validate adapter

def pass (auth : Auth) (validated : ValidatedEventChunk) (uploadedKey : Option FileKey) (now : Time)
    (db : Db) : Upload → Except HttpError (Phase Answer)
  | .chunk req => (uploadSessionEventGenerationChunk auth req validated uploadedKey now db).map
      (Phase.map .chunk)
  | .append req => (appendSessionEvents auth req validated uploadedKey now db).map (Phase.map .appended)

def locks : Upload → Option Uuid
  | .chunk req => some req.generationId
  | .append _ => none

end Upload

inductive Progress
  | received
  | storing (key : FileKey)
  | stored (key : FileKey)
  | found (sess : Session) (genId : Uuid)
  | reading (reading : Reading)
  | answered (out : Except HttpError Answer)
  | abandoned

/-- A request in the service, with what its handler keeps between two steps. -/
structure Call where
  id : Nat
  auth : Auth
  request : Request
  progress : Progress

structure StoredObject where
  key : FileKey
  data : Bytes

/-- A request to the object store. -/
inductive StoreRequest
  | put (key : FileKey) (data : Bytes)
  | delete (key : FileKey)

/-- A retention run between its selection and its commit: it holds the lock of the generation row. -/
structure Cleaning where
  generationId : Uuid
  remaining : List FileKey

structure World where
  db : Db
  objects : Table StoredObject.key
  issued : List StoreRequest
  calls : Table Call.id
  cleanings : List Cleaning

def World.empty : World where
  db := .empty
  objects := .empty
  issued := []
  calls := .empty
  cleanings := []

variable (call : Call) (w : World)

def World.locked (genId : Uuid) : Bool := w.cleanings.any fun cleaning => cleaning.generationId = genId
def World.fetch (key : FileKey) : Option Bytes := (w.objects.get key).map StoredObject.data

def Call.moveTo (call : Call) (prog : Progress) (w : World) : World :=
  { w with calls := w.calls.put { call with progress := prog } }

def Call.transact (out : Except HttpError (Answer × Db)) (w : World) : World :=
  match out with
  | .ok (ans, db) => call.moveTo (.answered (.ok ans)) { w with db := db }
  | .error err => call.moveTo (.answered (.error err)) w

def Call.enter (data : Bytes) (out : Except HttpError (Phase Answer)) (w : World) : World :=
  match out with
  | .ok (.answer ans db) => call.moveTo (.answered (.ok ans)) { w with db := db }
  | .ok (.store key) => call.moveTo (.storing key) { w with issued := .put key data :: w.issued }
  | .error err => call.moveTo (.answered (.error err)) w

def Call.uploadPass (adapter : EventAdapter) (call : Call) (upload : Upload)
    (uploadedKey : Option FileKey) (now : Time) (w : World) : World :=
  match upload.validate adapter with
  | .error err => call.moveTo (.answered (.error err)) w
  | .ok validated =>
    if upload.locks.any w.locked then w
    else
      call.enter upload.data (upload.pass call.auth validated uploadedKey now w.db) w

def Call.advance (adapter : EventAdapter) (call : Call) (now : Time) (w : World) : World :=
  match call.request, call.progress with
  | .head query, .received =>
    call.transact ((getSessionEventHead call.auth query w.db).map fun resp =>
      (.head resp, w.db)) w
  | .stage body, .received =>
    call.transact ((stageSessionEventGeneration call.auth body now w.db).map
      fun res => (.generation res.1, res.2)) w
  | .commit body, .received =>
    if w.locked body.generationId then w
    else
      call.transact ((commitSessionEventGeneration call.auth body now w.db).map
        fun res => (.appended res.1, res.2)) w
  | .upload upload, .received => call.uploadPass adapter upload none now w
  | .upload upload, .storing key => call.moveTo (.stored key) { w with objects := w.objects.put ⟨key, upload.data⟩ }
  | .upload upload, .stored key => call.uploadPass adapter upload (some key) now w
  | .read sid, .received =>
    match findEventSession call.auth sid w.db with
    | .error err => call.moveTo (.answered (.error err)) w
    | .ok (sess, genId) => call.moveTo (.found sess genId) w
  | .read _, .found sess genId => call.moveTo (.reading ⟨sess, w.db.chunksOf genId, [], 0, EMPTY_EVENT_HEAD⟩) w
  | .read _, .reading reading =>
    match readNext adapter w.fetch reading with
    | .error err => call.moveTo (.answered (.error err)) w
    | .ok (.inl next) => call.moveTo (.reading next) w
    | .ok (.inr resp) => call.moveTo (.answered (.ok (.events resp))) w
  | _, _ => w

def STAGING_RETENTION : Time := days 1
def SUPERSEDED_STAGING_RETENTION : Time := hours 1
def SUPERSEDED_RETENTION : Time := days 7

variable (gen : Generation) (genId : Uuid)
variable (shared : List Uuid) (chunk : Chunk) (req : EventAppend) (sess : Session) (w : World)

def stagingCutoff (now : Time) : Time :=
  if gen.base.revision < sess.eventRevision then now - SUPERSEDED_STAGING_RETENTION
  else now - STAGING_RETENTION

def abandonedStaging (now : Time) (db : Db) : Bool :=
  gen.status = .staging && (gen.createdAt < now - SESSION_EVENT_STAGING_MAX_AGE ||
      (gen.updatedAt < stagingCutoff gen sess now &&
        (db.chunksOf gen.id).all fun chunk =>
          chunk.updatedAt < stagingCutoff gen sess now))

def supersededLongAgo (now : Time) : Bool :=
  gen.status = .committed && gen.supersededAt.any fun supersededAt => supersededAt < now - SUPERSEDED_RETENTION

/-- The generations among which the retention worker picks; `shared` are those with a live share. -/
def deletable (now : Time) (db : Db) : Bool :=
  match db.sessions.get gen.sessionId with
  | none => false
  | some sess =>
    sess.eventGenerationId ≠ some gen.id && gen.id ∉ shared &&
      (abandonedStaging gen sess now db || supersededLongAgo gen now)

def startCleaning (now : Time) (w : World) : World :=
  match w.db.generations.get genId with
  | none => w
  | some gen =>
    if w.locked genId || !deletable gen shared now w.db then w
    else
      let keys := (w.db.chunksOf genId).map Chunk.fileKey
      { w with cleanings := ⟨genId, keys⟩ :: w.cleanings }

def World.cleaning (w : World) (genId : Uuid) : Option Cleaning :=
  w.cleanings.find? fun cleaning => cleaning.generationId = genId

def World.unlock (genId : Uuid) : List Cleaning := w.cleanings.filter fun cleaning => cleaning.generationId ≠ genId

def deleteNextFile : World :=
  match w.cleaning genId with
  | some ⟨_, key :: keys⟩ =>
    { w with
      objects := w.objects.remove fun obj => obj.key = key
      issued := .delete key :: w.issued
      cleanings := ⟨genId, keys⟩ :: w.unlock genId }
  | _ => w

def Db.deleteGeneration (db : Db) (genId : Uuid) : Db :=
  { db with
    generations := db.generations.remove fun gen => gen.id = genId
    chunks := db.chunks.remove fun chunk => chunk.generationId = genId
    receipts := db.receipts.remove fun rcpt => rcpt.generationId = genId }

def finishCleaning : World :=
  match w.cleaning genId with
  | some ⟨_, []⟩ => { w with db := w.db.deleteGeneration genId, cleanings := w.unlock genId }
  | _ => w

def performLate (req : StoreRequest) (w : World) : World :=
  match req with
  | .put key data => { w with objects := w.objects.put ⟨key, data⟩ }
  | .delete key => { w with objects := w.objects.remove fun obj => obj.key = key }

def Session.SameOrigin (one alt : Session) : Prop :=
  one.userId = alt.userId ∧ one.originEnvironmentId ≠ none ∧
    one.originEnvironmentId = alt.originEnvironmentId ∧ one.localSessionId = alt.localSessionId

instance (one alt : Session) : Decidable (one.SameOrigin alt) := by
  unfold Session.SameOrigin
  infer_instance

def createSession : World :=
  if sess.New ∧ w.db.sessions.get sess.id = none ∧
      ∀ alt ∈ w.db.sessions.rows, ¬alt.SameOrigin sess then
    { w with db := { w.db with sessions := w.db.sessions.put sess } }
  else w

/-- What `rename_profile` and `attribute_sessions` ask of `_move`. -/
structure ProfileMove where
  userId : Uuid
  agentId : Uuid
  old : String
  new : String
  ids : Option (List String)

variable (move : ProfileMove)

def ProfileMove.key (userId : Uuid) (envId : Option Uuid) (lsid profileKey : String) : String :=
  if userId = move.userId ∧ envId = some move.agentId ∧ profileKey = move.old ∧
      move.ids.all (lsid ∈ ·) then move.new
  else profileKey

def ProfileMove.session : Session :=
  { sess with originProfileKey :=
      move.key sess.userId sess.originEnvironmentId sess.localSessionId sess.originProfileKey }

def ProfileMove.suppression (row : SyncSuppression) : SyncSuppression :=
  { row with originProfileKey :=
      move.key row.userId (some row.originEnvironmentId) row.localSessionId row.originProfileKey }

def Db.moveProfile (db : Db) (move : ProfileMove) : Db :=
  { db with
    sessions := db.sessions.update move.session fun _ => rfl
    suppressions := db.suppressions.map move.suppression }

lemma mem_moveProfile {db : Db} {move : ProfileMove} {sess} :
    sess ∈ (db.moveProfile move).sessions ↔ ∃ was ∈ db.sessions, move.session was = sess :=
  show sess ∈ db.sessions.update move.session (fun _ => rfl) ↔ _ from Table.mem_update

lemma get_moveProfile (db : Db) (move : ProfileMove) (id : Uuid) :
    (db.moveProfile move).sessions.get id = (db.sessions.get id).map move.session :=
  Table.get_update db.sessions move.session (fun _ => rfl) id

/-- The steps of the service. -/
inductive Action
  | createSession (sess : Session)
  | suppress (row : SyncSuppression)
  | moveProfile (move : ProfileMove)
  | receive (id : Nat) (auth : Auth) (req : Request)
  | advance (id : Nat) (now : Time)
  | abandon (id : Nat)
  | startCleaning (genId : Uuid) (shared : List Uuid) (now : Time)
  | deleteNextFile (genId : Uuid)
  | finishCleaning (genId : Uuid)
  | failCleaning (genId : Uuid)
  | performLate (idx : Nat)

def step (adapter : EventAdapter) (w : World) : Action → World
  | .createSession sess => createSession sess w
  | .suppress row => { w with db := { w.db with suppressions := row :: w.db.suppressions } }
  | .moveProfile move => { w with db := w.db.moveProfile move }
  | .receive id auth req =>
    match w.calls.get id with
    | some _ => w
    | none => { w with calls := w.calls.put ⟨id, auth, req, .received⟩ }
  | .advance id now =>
    match w.calls.get id with
    | none => w
    | some call => call.advance adapter now w
  | .abandon id =>
    match w.calls.get id with
    | none => w
    | some call => call.moveTo .abandoned w
  | .startCleaning genId shared now => startCleaning genId shared now w
  | .deleteNextFile genId => deleteNextFile genId w
  | .finishCleaning genId => finishCleaning genId w
  | .failCleaning genId => { w with cleanings := w.unlock genId }
  | .performLate idx =>
    match w.issued[idx]? with
    | none => w
    | some req => performLate req w

variable {auth : Auth} {now : Time} {db after : Db}

structure Addressed (auth : Auth) (lsid : String) (envId : Uuid)
    (profileKey : Option String) (sess : Session) : Prop where
  user : sess.userId = auth.userId
  localId : sess.localSessionId = lsid
  environment : sess.originEnvironmentId = some envId
  profile : ∀ key ∈ profileKey, sess.originProfileKey = key

variable {lsid : String} {envId : Uuid} {uploadedKey : Option FileKey}

lemma resolveSessionProfile_given {key resolved}
    (hit : resolveSessionProfile auth envId lsid (some key) db = .ok resolved) : resolved = key := by
  cases hit
  rfl

lemma ownedSessionByLocal_addressed {profileKey sess}
    (owned : ownedSessionByLocal auth lsid envId profileKey db = .ok sess) :
    db.sessions.get sess.id = some sess ∧ Addressed auth lsid envId profileKey sess := by
  unfold ownedSessionByLocal at owned
  rw [bind_eq_ok] at owned
  obtain ⟨_, _, owned⟩ := owned
  rw [bind_eq_ok] at owned
  obtain ⟨key, resolved, owned⟩ := owned
  split at owned
  · rename_i row hit
    rw [pure_eq_ok] at owned
    subst owned
    have mem : row ∈ db.sessions := List.mem_of_find?_eq_some hit
    have named := List.find?_some hit
    rw [decide_eq_true_iff] at named
    refine ⟨Table.get_key mem, named.1, named.2.1, named.2.2.1, ?_⟩
    intro given isGiven
    subst isGiven
    rw [named.2.2.2, resolveSessionProfile_given resolved]
  · exact absurd owned throw_ne_ok

structure Declared (gen : Generation) (appendId : Uuid) (base : EventHead) (finalCount : Nat)
    (finalHeadHash : Digest) : Prop where
  appendId : gen.appendId = appendId
  base : gen.base = base
  finalCount : gen.finalCount = finalCount
  finalHeadHash : gen.finalHeadHash = finalHeadHash

inductive StageResult (body : GenerationCreate) (sess : Session) (now : Time) (db : Db) :
    GenerationResponse → Db → Prop
  | known (gen : Generation) (was : db.generations.get body.generation = some gen)
      (same : gen.sessionId = sess.id)
      (declared : Declared gen body.appendId body.base body.finalCount body.finalHeadHash) :
      StageResult body sess now db ⟨gen.id, gen.status⟩ db
  | created (gone : db.generations.get body.generation = none) (cur : sess.head = body.base) :
      StageResult body sess now db ⟨body.generation, .staging⟩
        { db with generations := db.generations.put (stagedGeneration sess body now) }

lemma stageSessionEventGeneration_cases {body resp}
    (ok : stageSessionEventGeneration auth body now db = .ok (resp, after)) :
    ∃ sess, db.sessions.get sess.id = some sess ∧
      Addressed auth body.localSessionId body.environmentId body.profileKey sess ∧
      StageResult body sess now db resp after := by
  unfold stageSessionEventGeneration at ok
  rw [bind_eq_ok] at ok
  obtain ⟨sess, owned, ok⟩ := ok
  have addressed := ownedSessionByLocal_addressed owned
  refine ⟨sess, addressed.1, addressed.2, ?_⟩
  cases was : db.generations.get body.generation with
  | some old =>
    simp only [was, bind_eq_ok, raiseIf_eq_ok, pure_eq_ok, not_or, not_not] at ok
    obtain ⟨_, same, _, _, rfl, rfl⟩ := ok
    exact .known old was same.1 ⟨same.2.1, same.2.2.1, same.2.2.2.1, same.2.2.2.2⟩
  | none =>
    simp only [was, bind_eq_ok, raiseIf_eq_ok, not_not] at ok
    obtain ⟨_, cur, ok⟩ := ok
    split at ok
    · rename_i old hit
      simp only [bind_eq_ok, raiseIf_eq_ok, not_or, not_not] at ok
      obtain ⟨_, same, _⟩ := ok
      have mem : old ∈ db.generations := List.mem_of_find?_eq_some hit
      exact absurd same.1 (Table.get_eq_none.mp was old mem)
    · cases ok
      exact .created was cur

def Db.insertStaged (db : Db) (chunk : Chunk) (gen : Generation) (now : Time) : Db :=
  { db with chunks := db.chunks.put chunk }.touch gen now

inductive ChunkResult (req : ChunkUpload) (validated : ValidatedEventChunk)
    (uploadedKey : Option FileKey) (gen : Generation) (sess : Session) (now : Time) (db : Db) :
    Phase ChunkResponse → Prop
  | known (old : Chunk) (was : old ∈ db.chunks) :
      ChunkResult req validated uploadedKey gen sess now db (.answer old.response (db.touch gen now))
  | store : ChunkResult req validated uploadedKey gen sess now db
      (.store (stagedChunk sess req validated now).fileKey)
  | inserted (gone : db.chunks.get (req.generationId, req.startSeq) = none)
      (uploaded : uploadedKey = some (stagedChunk sess req validated now).fileKey) :
      ChunkResult req validated uploadedKey gen sess now db (.answer (stagedChunk sess req validated now).response
          (db.insertStaged (stagedChunk sess req validated now) gen now))

variable {adapter : EventAdapter} {validated : ValidatedEventChunk}

lemma uploadSessionEventGenerationChunk_cases {req phase}
    (ok : uploadSessionEventGenerationChunk auth req validated uploadedKey now db = .ok phase) :
    ∃ gen sess, db.generations.get req.generationId = some gen ∧
      gen.status = .staging ∧ db.sessions.get gen.sessionId = some sess ∧
      ChunkResult req validated uploadedKey gen sess now db phase := by
  unfold uploadSessionEventGenerationChunk at ok
  rw [bind_eq_ok] at ok
  obtain ⟨_, _, ok⟩ := ok
  cases was : db.generations.get req.generationId with
  | none => exact absurd (by simpa only [was] using ok) throw_ne_ok
  | some gen =>
    simp only [was, bind_eq_ok, raiseIf_eq_ok, not_not] at ok
    obtain ⟨_, staging, ok⟩ := ok
    cases owner : db.sessions.get gen.sessionId with
    | none => exact absurd (by simpa only [owner] using ok) throw_ne_ok
    | some sess =>
      refine ⟨gen, sess, rfl, staging, owner, ?_⟩
      simp only [owner, bind_eq_ok] at ok
      obtain ⟨_, _, _, _, ok⟩ := ok
      cases chunk : db.chunks.get (req.generationId, req.startSeq) with
      | some old =>
        simp only [chunk, bind_eq_ok, pure_eq_ok] at ok
        obtain ⟨_, _, rfl⟩ := ok
        exact .known old (Table.get_eq_some.mp chunk).1
      | none =>
        simp only [chunk] at ok
        cases uploadedKey with
        | none =>
          rw [pure_eq_ok] at ok
          subst ok
          exact .store
        | some uploaded =>
          simp only [bind_eq_ok, raiseIf_eq_ok, not_not, pure_eq_ok] at ok
          obtain ⟨_, same, wrote, inserted, rfl⟩ := ok
          unfold insertChunk at inserted
          rw [show (stagedChunk sess req validated now).key =
            (req.generationId, req.startSeq) from rfl, chunk] at inserted
          cases inserted
          exact .inserted chunk (congrArg some same.symm)

structure Acknowledged (resp : AppendResponse) :
    Prop where
  held : resp.head = sess.head
  generation : resp.generation = req.generation
  count : resp.count = req.finalCount
  headHash : resp.headHash = req.finalHeadHash

def Db.appendChunk (db : Db) (sess : Session) (req : EventAppend) (chunk : Chunk) : Db :=
  { db with chunks := db.chunks.put chunk }.append sess req

structure AppendReceipt.Matches (rcpt : AppendReceipt) (req : EventAppend) : Prop where
  generation : rcpt.generationId = req.generation
  baseRevision : rcpt.baseRevision = req.baseRevision
  baseCount : rcpt.baseCount = req.baseCount
  baseHeadHash : rcpt.baseHeadHash = req.baseHeadHash
  contentHash : rcpt.contentHash = req.contentHash
  resultCount : rcpt.resultCount = req.finalCount
  resultHeadHash : rcpt.resultHeadHash = req.finalHeadHash

inductive AppendResult (req : EventAppend) (validated : ValidatedEventChunk)
    (uploadedKey : Option FileKey) (sess : Session) (now : Time) (db : Db) :
    Phase AppendResponse → Prop
  | known (resp : AppendResponse) (acked : Acknowledged req sess resp)
      (receipted : ∀ rcpt, db.receipts.get (sess.id, req.appendId) = some rcpt →
        rcpt.Matches req ∧ sess.head = rcpt.head) :
      AppendResult req validated uploadedKey sess now db (.answer resp db)
  | store : AppendResult req validated uploadedKey sess now db
      (.store (appendedChunk sess req validated now).fileKey)
  | appended (gen : Generation) (cur : sess.head = req.base)
      (was : db.generations.get req.generation = some gen)
      (done : gen.status = .committed)
      (unreceipted : db.receipts.get (sess.id, req.appendId) = none)
      (gone : db.chunks.get (req.generation, req.baseCount) = none)
      (uploaded : uploadedKey = some (appendedChunk sess req validated now).fileKey) :
      AppendResult req validated uploadedKey sess now db
        (.answer ⟨req.generation, sess.eventRevision + 1, req.finalCount, req.finalHeadHash⟩
          (db.appendChunk sess req (appendedChunk sess req validated now)))

lemma appendSessionEvents_cases {req phase}
    (ok : appendSessionEvents auth req validated uploadedKey now db = .ok phase) :
    ∃ sess, db.sessions.get sess.id = some sess ∧
      Addressed auth req.localSessionId req.environmentId req.profileKey sess ∧
      AppendResult req validated uploadedKey sess now db phase := by
  unfold appendSessionEvents at ok
  rw [bind_eq_ok] at ok
  obtain ⟨sess, owned, ok⟩ := ok
  have addressed := ownedSessionByLocal_addressed owned
  refine ⟨sess, addressed.1, addressed.2, ?_⟩
  cases receipted : db.receipts.get (sess.id, req.appendId) with
  | some rcpt =>
    simp only [receipted, bind_eq_ok, raiseIf_eq_ok, not_or, not_not] at ok
    obtain ⟨_, same, _, cur, ok⟩ := ok
    split at ok
    · exact absurd ok throw_ne_ok
    · rw [pure_eq_ok] at ok
      subst ok
      obtain ⟨gen, baseRevision, baseCount, baseHeadHash, contentHash, count, headHash⟩ := same
      refine .known _ ⟨?_, rfl, count, headHash⟩ ?_
      · rw [cur, AppendReceipt.head, gen]
        rfl
      · intro alt hit
        rw [receipted] at hit
        cases hit
        exact ⟨⟨gen, baseRevision, baseCount, baseHeadHash, contentHash, count, headHash⟩, cur⟩
  | none =>
    simp only [receipted] at ok
    by_cases there : sess.eventGenerationId = some req.generation ∧
        sess.eventCount = req.finalCount ∧ currentHead sess = req.finalHeadHash
    · rw [if_pos there, pure_eq_ok] at ok
      subst ok
      refine .known _ ⟨?_, rfl, there.2.1, there.2.2⟩ ?_
      · rw [Session.head, there.1]
        rfl
      · intro rcpt hit
        rw [receipted] at hit
        cases hit
    · simp only [if_neg there, bind_eq_ok, raiseIf_eq_ok, not_not] at ok
      obtain ⟨_, cur, ok⟩ := ok
      cases was : db.generations.get req.generation with
      | none => exact absurd (by simpa only [was] using ok) throw_ne_ok
      | some gen =>
        simp only [was, bind_eq_ok, raiseIf_eq_ok, not_not] at ok
        obtain ⟨_, done, ok⟩ := ok
        cases uploadedKey with
        | none =>
          rw [pure_eq_ok] at ok
          subst ok
          exact .store
        | some uploaded =>
          simp only [bind_eq_ok, raiseIf_eq_ok, not_not, pure_eq_ok] at ok
          obtain ⟨_, same, wrote, inserted, rfl⟩ := ok
          unfold insertChunk at inserted
          split at inserted
          · cases inserted
          · rename_i gone
            cases inserted
            exact .appended gen cur was done receipted gone (congrArg some same.symm)

def Chunk.source : Nat × Digest := (chunk.startSeq, chunk.baseHeadHash)
def Chunk.target : Nat × Digest := (chunk.endSeq + 1, chunk.resultHeadHash)

lemma tileChunks_linked {start stop : Nat × Digest} {chunks}
    (tiled : tileChunks start chunks = .ok stop) : Linked Chunk.source Chunk.target start chunks stop := by
  induction chunks generalizing start with
  | nil =>
    cases tiled
    rfl
  | cons chunk chunks ih =>
    rw [tileChunks] at tiled
    split at tiled
    · cases tiled
    · rename_i next
      rw [not_or, not_not, not_not] at next
      exact ⟨Prod.ext next.1 next.2, ih tiled⟩

inductive CommitResult (body : CommitRequest) (gen : Generation) (sess : Session)
    (now : Time) (db : Db) : AppendResponse → Db → Prop
  | known (done : gen.status = .committed)
      (cur : sess.head = committedHead gen) :
      CommitResult body gen sess now db ⟨body.generationId, gen.base.revision + 1, gen.finalCount,
          gen.finalHeadHash⟩ db
  | committed (staging : gen.status = .staging) (cur : sess.head = body.base)
      (tiled : Linked Chunk.source Chunk.target (0, EMPTY_EVENT_HEAD)
        (db.chunksOf body.generationId) (body.finalCount, body.finalHeadHash)) :
      CommitResult body gen sess now db
        ⟨body.generationId, sess.eventRevision + 1, body.finalCount, body.finalHeadHash⟩
        (db.commit sess gen body now)

structure CommitPermitted (auth : Auth) (body : CommitRequest) (sess : Session) : Prop where
  user : sess.userId = auth.userId
  localId : sess.localSessionId = body.localSessionId
  profile : ∀ key ∈ body.profileKey, sess.originProfileKey = key
  bound : auth.foreign sess.originEnvironmentId = false

lemma commitSessionEventGeneration_cases {body resp}
    (ok : commitSessionEventGeneration auth body now db = .ok (resp, after)) :
    ∃ gen sess, db.generations.get body.generationId = some gen ∧
      Declared gen body.appendId body.base body.finalCount body.finalHeadHash ∧
      db.sessions.get gen.sessionId = some sess ∧ CommitPermitted auth body sess ∧
      CommitResult body gen sess now db resp after := by
  unfold commitSessionEventGeneration at ok
  rw [bind_eq_ok] at ok
  obtain ⟨_, _, ok⟩ := ok
  cases was : db.generations.get body.generationId with
  | none => exact absurd (by simpa only [was] using ok) throw_ne_ok
  | some gen =>
    simp only [was, bind_eq_ok, raiseIf_eq_ok, not_not] at ok
    obtain ⟨_, appendId, ok⟩ := ok
    cases owner : db.sessions.get gen.sessionId with
    | none => exact absurd (by simpa only [owner] using ok) throw_ne_ok
    | some sess =>
      simp only [owner, bind_eq_ok, raiseIf_eq_ok, not_or, not_not] at ok
      obtain ⟨_, addressed, _, same, _, _, ok⟩ := ok
      obtain ⟨user, localId, profile, bound⟩ := addressed
      rw [Bool.not_eq_true] at bound
      have permitted : CommitPermitted auth body sess := by
        refine ⟨user, localId, ?_, bound⟩
        intro key given
        by_contra alt
        exact profile ⟨key, given, alt⟩
      refine ⟨gen, sess, rfl, ⟨appendId, same.1, same.2.1, same.2.2⟩, owner, permitted, ?_⟩
      by_cases done : gen.status = .committed
      · simp only [if_pos done, bind_eq_ok, raiseIf_eq_ok, not_not, pure_eq_ok] at ok
        obtain ⟨_, cur, rfl, rfl⟩ := ok
        exact .known done cur
      · simp only [if_neg done, bind_eq_ok, raiseIf_eq_ok, not_not, pure_eq_ok] at ok
        obtain ⟨_, cur, reached, tiled, _, complete, rfl, rfl⟩ := ok
        have staging : gen.status = .staging := by
          cases status : gen.status with
          | staging => rfl
          | committed => exact absurd status done
        subst complete
        exact .committed staging cur (tileChunks_linked tiled)

lemma readUpload_valid {data} {startSeq : Nat} {baseHeadHash}
    (ok : readUpload adapter data startSeq baseHeadHash = .ok validated) :
    validateEventChunk adapter data startSeq baseHeadHash = .ok validated := by
  unfold readUpload at ok
  split at ok
  · cases ok
  · split at ok
    · rename_i valid
      cases ok
      exact valid
    · cases ok
    · cases ok

lemma chunkUpload_valid {req : ChunkUpload} (ok : req.validate adapter = .ok validated) :
    validateEventChunk adapter req.data req.startSeq req.baseHeadHash = .ok validated ∧
      validated.contentHash = req.contentHash := by
  unfold ChunkUpload.validate at ok
  simp only [bind_eq_ok, raiseIf_eq_ok, not_not, pure_eq_ok] at ok
  obtain ⟨_, read, _, hash, rfl⟩ := ok
  exact ⟨readUpload_valid read, hash⟩

lemma eventAppend_valid {req : EventAppend} (ok : req.validate adapter = .ok validated) :
    validateEventChunk adapter req.data req.baseCount req.baseHeadHash = .ok validated ∧
      validated.contentHash = req.contentHash ∧ validated.resultHeadHash = req.finalHeadHash ∧
      req.baseCount + validated.events.length = req.finalCount := by
  unfold EventAppend.validate at ok
  simp only [bind_eq_ok, raiseIf_eq_ok, not_or, not_not, pure_eq_ok] at ok
  obtain ⟨_, read, _, same, rfl⟩ := ok
  exact ⟨readUpload_valid read, same⟩

end Clawdi.SessionEvents
