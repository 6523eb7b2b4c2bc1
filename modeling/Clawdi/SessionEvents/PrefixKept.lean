import Clawdi.SessionEvents.LogIntegrity

namespace Clawdi.SessionEvents
open List Table

/-- The events that a share shows: a prefix of a generation, and who took it back when. -/
structure SessionShare where
  id : Uuid
  sessionId : Uuid
  eventGenerationId : Uuid
  eventCount : Nat
  sourceRevision : Digest
  revokedAt : Option Time
  deriving DecidableEq

inductive ContentFailure
  | missing (msg : String)
  | unavailable (msg : String)
  | invalid (msg : String)

/-- How far `_load_event_generation_events` has come. -/
structure LoadPoint where
  events : List SessionEvent
  nextSeq : Nat
  head : Digest

def LoadPoint.start : LoadPoint := ⟨[], 0, EMPTY_EVENT_HEAD⟩

/-- The query for the chunks that begin below `finalCount`. -/
def Db.prefixChunks (db : Db) (genId : Uuid) (finalCount : Nat) : List Chunk :=
  (db.chunksOf genId).filter fun chunk => chunk.startSeq < finalCount

def loadTurn (adapter : EventAdapter) (fetch : FileKey → Option Bytes) (finalCount : Nat)
    (point : LoadPoint) (chunk : Chunk) : Except ContentFailure LoadPoint :=
  if chunk.startSeq ≠ point.nextSeq ∨ chunk.baseHeadHash ≠ point.head ∨ chunk.endSeq ≥ finalCount then
    .error (.invalid "events-v1 chunk index is not continuous")
  else
    match fetch chunk.fileKey with
    | none => .error (.missing "events-v1 chunk is unavailable")
    | some data =>
      match validateEventChunk adapter data point.nextSeq point.head with
      | .error _ => .error (.invalid "events-v1 chunk is invalid")
      | .ok validated =>
        if validated.contentHash ≠ chunk.contentHash ∨
            validated.resultHeadHash ≠ chunk.resultHeadHash then
          .error (.invalid "events-v1 chunk hash drift")
        else
          .ok {
            events := point.events ++ validated.events
            nextSeq := chunk.endSeq + 1
            head := chunk.resultHeadHash }

variable (shareId : Uuid) (shares : Table SessionShare.id) (share : SessionShare) (finalCount : Nat)
variable (finalHeadHash : Digest)

def loadEnd (point : LoadPoint) : Except ContentFailure (List SessionEvent) :=
  if point.nextSeq ≠ finalCount ∨ point.head ≠ finalHeadHash then
    .error (.invalid "events-v1 head does not match its chunk index")
  else .ok point.events

def loadTurns (adapter : EventAdapter) (fetch : FileKey → Option Bytes) (finalCount : Nat) :
    LoadPoint → List Chunk → Except ContentFailure LoadPoint
  | point, [] => .ok point
  | point, chunk :: chunks => do
    let next ← loadTurn adapter fetch finalCount point chunk
    loadTurns adapter fetch finalCount next chunks

/-- The check of `load_event_generation_projection` before it loads any event. -/
def requireCommittedGeneration (genId : Uuid) (db : Db) : Except ContentFailure Unit :=
  match db.generations.get genId with
  | none => .error (.missing "session event generation is unavailable")
  | some gen =>
    if gen.status = .committed then .ok ()
    else .error (.missing "session event generation is unavailable")

def loadEventGeneration (adapter : EventAdapter) (w : World) (genId : Uuid)
    (eventCount : Nat) (eventHeadHash : Digest) : Except ContentFailure (List SessionEvent) := do
  requireCommittedGeneration genId w.db
  let point ← loadTurns adapter w.fetch eventCount .start (w.db.prefixChunks genId eventCount)
  loadEnd eventCount eventHeadHash point

def SessionShare.load (adapter : EventAdapter) (w : World) : Except ContentFailure (List SessionEvent) :=
  loadEventGeneration adapter w share.eventGenerationId share.eventCount share.sourceRevision

inductive ViewFailure
  | http (err : HttpError)
  | content (err : ContentFailure)

inductive ViewProgress
  | received
  | found (share : SessionShare)
  | available (share : SessionShare)
  | loading (share : SessionShare) (left : List Chunk) (point : LoadPoint)
  | answered (out : Except ViewFailure (List SessionEvent))

structure View where
  id : Nat
  shareId : Uuid
  progress : ViewProgress

structure ShareWorld where
  service : World
  shares : Table SessionShare.id
  views : Table View.id

def ShareWorld.empty : ShareWorld := ⟨.empty, .empty, .empty⟩

def publicShare : Except HttpError SessionShare :=
  match shares.get shareId with
  | none => .error ⟨404, "Session share not found"⟩
  | some share => if share.revokedAt = none then .ok share else .error ⟨410, "Session share has been revoked"⟩

def View.next (adapter : EventAdapter) (view : View) (w : ShareWorld) : ViewProgress :=
  match view.progress with
  | .received =>
    match publicShare view.shareId w.shares with
    | .error err => .answered (.error (.http err))
    | .ok share => .found share
  | .found share =>
    match requireCommittedGeneration share.eventGenerationId w.service.db with
    | .error err => .answered (.error (.content err))
    | .ok _ => .available share
  | .available share => .loading share (w.service.db.prefixChunks share.eventGenerationId share.eventCount) .start
  | .loading share [] point =>
    match loadEnd share.eventCount share.sourceRevision point with
    | .error err => .answered (.error (.content err))
    | .ok evs => .answered (.ok evs)
  | .loading share (chunk :: chunks) point =>
    match loadTurn adapter w.service.fetch share.eventCount point chunk with
    | .error err => .answered (.error (.content err))
    | .ok next => .loading share chunks next
  | .answered out => .answered out

def storeFailed : ViewFailure := .content (.unavailable "session content storage is unavailable")

def sharedGenerations : List Uuid :=
  (shares.rows.filter fun share => share.revokedAt = none).map SessionShare.eventGenerationId

def Action.withShares : Action → Action
  | .startCleaning genId _ now => .startCleaning genId (sharedGenerations shares) now
  | action => action

/-- `create_session_share` inserts a loaded position, behind a retention run that holds the generation. -/
def pinShare (adapter : EventAdapter) (share : SessionShare) (w : ShareWorld) : ShareWorld :=
  if w.shares.get share.id = none ∧ share.revokedAt = none ∧ 0 < share.eventCount ∧
      w.service.locked share.eventGenerationId = false ∧
      (share.load adapter w.service).isOk then
    { w with shares := w.shares.put share }
  else w

def revokeShare (now : Time) (w : ShareWorld) : ShareWorld :=
  match w.shares.get shareId with
  | none => w
  | some share =>
    if share.revokedAt = none then
      { w with shares := w.shares.put { share with revokedAt := some now } }
    else w

inductive ShareAction
  | service (action : Action)
  | pin (share : SessionShare)
  | revoke (shareId : Uuid) (now : Time)
  | view (id : Nat) (shareId : Uuid)
  | advance (id : Nat)
  | failStore (id : Nat)

def ShareWorld.move (w : ShareWorld) (view : View) (prog : ViewProgress) : ShareWorld :=
  { w with views := w.views.put { view with progress := prog } }

def View.failStore (view : View) (w : ShareWorld) : ShareWorld :=
  match view.progress with
  | .loading _ (_ :: _) _ => w.move view (.answered (.error storeFailed))
  | _ => w

def shareStep (adapter : EventAdapter) (w : ShareWorld) : ShareAction → ShareWorld
  | .service action => { w with service := step adapter w.service (action.withShares w.shares) }
  | .pin share => pinShare adapter share w
  | .revoke shareId now => revokeShare shareId now w
  | .view id shareId =>
    match w.views.get id with
    | some _ => w
    | none => { w with views := w.views.put ⟨id, shareId, .received⟩ }
  | .advance id =>
    match w.views.get id with
    | none => w
    | some view => w.move view (view.next adapter w)
  | .failStore id =>
    match w.views.get id with
    | none => w
    | some view => view.failStore w

open Transition

def chunkEvents (adapter : EventAdapter) (fetch : FileKey → Option Bytes) (chunk : Chunk) : List SessionEvent :=
  match fetch chunk.fileKey with
  | none => []
  | some data =>
    match validateEventChunk adapter data chunk.startSeq chunk.baseHeadHash with
    | .error _ => []
    | .ok validated => validated.events

def World.eventsBelow (adapter : EventAdapter) (w : World) (genId : Uuid) (finalCount : Nat) : List SessionEvent :=
  (w.db.prefixChunks genId finalCount).flatMap (chunkEvents adapter w.fetch)

structure PrefixSound (w : World) (genId : Uuid) (finalCount : Nat)
    (finalHeadHash : Digest) : Prop where
  committed : ∃ gen, w.db.generations.get genId = some gen ∧ gen.status = .committed
  linked : Linked Chunk.source Chunk.target (0, EMPTY_EVENT_HEAD)
    (w.db.prefixChunks genId finalCount) (finalCount, finalHeadHash)
  present : ∀ chunk ∈ w.db.prefixChunks genId finalCount, (w.fetch chunk.fileKey).isSome = true
  free : w.locked genId = false

section
variable {adapter : EventAdapter} {ups : List Bytes} {w : World} {genId : Uuid}
  {finalCount : Nat} {finalHeadHash : Digest}

variable {fetch : FileKey → Option Bytes} {chunk : Chunk}

lemma mem_prefixChunks : chunk ∈ w.db.prefixChunks genId finalCount ↔
      (chunk ∈ w.db.chunks ∧ chunk.generationId = genId) ∧ chunk.startSeq < finalCount := by
  rw [Db.prefixChunks, mem_filter, mem_chunksOf, decide_eq_true_iff]

variable {point : LoadPoint}

lemma loadTurn_linked {next} (turned : loadTurn adapter fetch finalCount point chunk = .ok next) :
    chunk.source = (point.nextSeq, point.head) ∧ chunk.target = (next.nextSeq, next.head) ∧
      (fetch chunk.fileKey).isSome = true := by
  unfold loadTurn at turned
  split at turned
  · cases turned
  · rename_i continuous
    rw [not_or, not_or, not_not, not_not] at continuous
    split at turned
    · cases turned
    · rename_i data fetched
      split at turned
      · cases turned
      · split at turned
        · cases turned
        · cases turned
          exact ⟨Prod.ext continuous.1 continuous.2.1, rfl, by rw [fetched]; rfl⟩

lemma loadTurns_linked {chunks stop} (turned : loadTurns adapter fetch finalCount point chunks = .ok stop) :
    Linked Chunk.source Chunk.target (point.nextSeq, point.head) chunks (stop.nextSeq, stop.head) ∧
      ∀ chunk ∈ chunks, (fetch chunk.fileKey).isSome = true := by
  induction chunks generalizing point with
  | nil =>
    cases turned
    exact ⟨rfl, fun chunk mem => by cases mem⟩
  | cons chunk chunks ih =>
    rw [loadTurns, bind_eq_ok] at turned
    obtain ⟨next, first, rest⟩ := turned
    obtain ⟨src, tgt, here⟩ := loadTurn_linked first
    obtain ⟨linked, presentRest⟩ := ih rest
    refine ⟨⟨src, tgt ▸ linked⟩, ?_⟩
    intro alt mem
    rcases mem_cons.mp mem with rfl | later
    · exact here
    · exact presentRest alt later

lemma prefixSound_of_load {evs} (loaded : loadEventGeneration adapter w genId finalCount finalHeadHash = .ok evs)
    (free : w.locked genId = false) : PrefixSound w genId finalCount finalHeadHash := by
  unfold loadEventGeneration at loaded
  simp only [bind_eq_ok] at loaded
  obtain ⟨_, done, stop, turned, ended⟩ := loaded
  obtain ⟨linked, here⟩ := loadTurns_linked turned
  unfold loadEnd at ended
  split at ended
  · cases ended
  · rename_i arrived
    rw [not_or, not_not, not_not] at arrived
    rw [arrived.1, arrived.2] at linked
    refine ⟨?_, linked, here, free⟩
    unfold requireCommittedGeneration at done
    split at done
    · cases done
    · rename_i gen was
      split at done
      · rename_i status
        exact ⟨gen, was, status⟩
      · cases done

section
variable (inv : StoreSound adapter ups w) (collisionFree : CollisionFree ups)
include inv collisionFree

variable {chunk : Chunk} {stop : Nat × Digest}

lemma chunkEvents_stored (mem : chunk ∈ w.db.chunks) (here : (w.fetch chunk.fileKey).isSome = true) :
    ∃ data validated, w.fetch chunk.fileKey = some data ∧
      Described adapter w.issued chunk data validated ∧ chunkEvents adapter w.fetch chunk = validated.events := by
  obtain ⟨data, validated, described⟩ := inv.chunks chunk mem
  obtain ⟨fetched, hit⟩ := Option.isSome_iff_exists.mp here
  have same : fetched = data := fetch_eq inv collisionFree described hit
  subst same
  refine ⟨fetched, validated, hit, described, ?_⟩
  simp only [chunkEvents, hit, described.valid]

variable {chunks : List Chunk} {point : LoadPoint}

lemma loadTurn_ok (mem : chunk ∈ w.db.chunks) (here : (w.fetch chunk.fileKey).isSome = true)
    (next : chunk.source = (point.nextSeq, point.head)) (within : chunk.endSeq < finalCount) :
    loadTurn adapter w.fetch finalCount point chunk =
      .ok ⟨point.events ++ chunkEvents adapter w.fetch chunk, chunk.endSeq + 1, chunk.resultHeadHash⟩ := by
  obtain ⟨data, validated, hit, described, evs⟩ := chunkEvents_stored inv collisionFree mem here
  have start : chunk.startSeq = point.nextSeq := congrArg Prod.fst next
  have base : chunk.baseHeadHash = point.head := congrArg Prod.snd next
  have continuous : ¬(chunk.startSeq ≠ point.nextSeq ∨ chunk.baseHeadHash ≠ point.head ∨
      chunk.endSeq ≥ finalCount) := by
    rw [not_or, not_or, not_not, not_not]
    exact ⟨start, base, Nat.not_le_of_lt within⟩
  have agrees : ¬(validated.contentHash ≠ chunk.contentHash ∨
      validated.resultHeadHash ≠ chunk.resultHeadHash) := by
    rw [not_or, not_not, not_not]
    exact ⟨described.contentHash, described.resultHeadHash⟩
  have valid := described.valid
  rw [start, base] at valid
  unfold loadTurn
  simp only [if_neg continuous, hit, valid, if_neg agrees, evs]

lemma loadTurns_ok (mems : ∀ chunk ∈ chunks, chunk ∈ w.db.chunks ∧ (w.fetch chunk.fileKey).isSome = true ∧
      chunk.endSeq < finalCount) (linked : Linked Chunk.source Chunk.target (point.nextSeq, point.head) chunks stop) :
    loadTurns adapter w.fetch finalCount point chunks =
      .ok ⟨point.events ++ chunks.flatMap (chunkEvents adapter w.fetch), stop.1, stop.2⟩ := by
  induction chunks generalizing point with
  | nil =>
    subst linked
    simp [loadTurns]
  | cons chunk chunks ih =>
    obtain ⟨next, rest⟩ := linked
    obtain ⟨was, here, within⟩ := mems chunk mem_cons_self
    have turned := loadTurn_ok inv collisionFree was here next within
    have later : loadTurns adapter w.fetch finalCount ⟨point.events ++
        chunkEvents adapter w.fetch chunk, chunk.endSeq + 1, chunk.resultHeadHash⟩ chunks =
          .ok ⟨point.events ++ chunkEvents adapter w.fetch chunk ++
            chunks.flatMap (chunkEvents adapter w.fetch), stop.1, stop.2⟩ :=
      ih (fun alt mem => mems alt (mem_cons_of_mem _ mem)) rest
    rw [loadTurns, turned]
    simp only [bind, Except.bind]
    rw [later, flatMap_cons, append_assoc]

lemma flatMap_length {start : Nat × Digest}
    (mems : ∀ chunk ∈ chunks, chunk ∈ w.db.chunks ∧ (w.fetch chunk.fileKey).isSome = true)
    (linked : Linked Chunk.source Chunk.target start chunks stop) :
    start.1 + (chunks.flatMap (chunkEvents adapter w.fetch)).length = stop.1 := by
  induction chunks generalizing start with
  | nil =>
    subst linked
    rfl
  | cons chunk chunks ih =>
    obtain ⟨next, rest⟩ := linked
    obtain ⟨was, here⟩ := mems chunk mem_cons_self
    obtain ⟨data, validated, _, described, evs⟩ := chunkEvents_stored inv collisionFree was here
    have later := ih (fun alt mem => mems alt (mem_cons_of_mem _ mem)) rest
    have first : chunk.startSeq = start.1 := congrArg Prod.fst next
    have last := described.endSeq
    have reached : chunk.target.1 = chunk.endSeq + 1 := rfl
    rw [flatMap_cons, length_append, evs]
    omega

end
end

def CleaningsOwn (w : World) : Prop :=
  ∀ cleaning ∈ w.cleanings, ∀ key ∈ cleaning.remaining, key.generationId = cleaning.generationId

/-- No object of the generation is deleted by a request whose sender has given up. -/
def Action.prompt (genId : Uuid) (w : World) : Action → Bool
  | .performLate idx =>
    match w.issued[idx]? with
    | some (.delete key) => key.generationId ≠ genId
    | _ => true
  | _ => true

section
variable {adapter : EventAdapter} {ups : List Bytes} {w : World} {action : Action}

lemma createSession_cleanings (sess : Session) : (createSession sess w).cleanings = w.cleanings := by
  unfold createSession
  split <;> rfl

lemma performLate_cleanings (req : StoreRequest) : (performLate req w).cleanings = w.cleanings := by
  cases req with
  | put | delete => rfl

lemma CallStep.cleanings {call after} (step : CallStep adapter w call after) : after.cleanings = w.cleanings := by
  cases step with
  | waits | refused | reads | writes | sends | stores => rfl

lemma step_cleaningsOwn (inv : StoreSound adapter ups w) (own : CleaningsOwn w) :
    CleaningsOwn (step adapter w action) := by
  have subset : ∀ after : World, after.cleanings ⊆ w.cleanings → CleaningsOwn after :=
    fun after inside cleaning mem => own cleaning (inside mem)
  have same : ∀ after : World, after.cleanings = w.cleanings → CleaningsOwn after :=
    fun after equal => subset after (equal ▸ List.Subset.refl _)
  cases action with
  | createSession sess => exact same _ (createSession_cleanings sess)
  | suppress row | moveProfile move => exact own
  | receive | abandon =>
    rw [step]
    split <;> exact own
  | advance id now =>
    rw [step]
    cases hit : w.calls.get id with
    | none => exact own
    | some call => exact same _ (advance_step (inv.calls call (get_eq_some.mp hit).1)).cleanings
  | startCleaning genId shared now =>
    rw [step, startCleaning]
    split
    · exact own
    · split
      · exact own
      · intro cleaning mem
        rcases mem_cons.mp mem with rfl | pre
        · intro key inside
          obtain ⟨chunk, chunkMember, rfl⟩ := mem_map.mp inside
          obtain ⟨was, inGeneration⟩ := mem_chunksOf.mp chunkMember
          obtain ⟨_, _, described⟩ := inv.chunks chunk was
          exact described.ownKey.trans inGeneration
        · exact own cleaning pre
  | deleteNextFile genId =>
    rw [step, deleteNextFile]
    split
    · rename_i alt key keys hit
      intro cleaning mem
      rcases mem_cons.mp mem with rfl | pre
      · intro left inside
        obtain ⟨cleaningMember, named⟩ := cleaning_found hit
        exact (own _ cleaningMember left (mem_cons_of_mem _ inside)).trans named
      · exact own cleaning (mem_unlock pre)
    · exact own
  | finishCleaning genId =>
    rw [step, finishCleaning]
    split
    · exact subset _ fun cleaning mem => mem_unlock mem
    · exact own
  | failCleaning genId => exact subset _ fun cleaning mem => mem_unlock mem
  | performLate idx =>
    rw [step]
    split
    · exact own
    · exact same _ (performLate_cleanings _)

lemma fetch_put {key alt data} (here : (w.fetch key).isSome = true) :
    (({ w with objects := w.objects.put ⟨alt, data⟩ } : World).fetch key).isSome = true := by
  unfold World.fetch at here ⊢
  rw [get_put]
  split
  · rfl
  · exact here

lemma fetch_remove {key alt} (apart : alt ≠ key) (here : (w.fetch key).isSome = true) :
    (({ w with objects := w.objects.remove fun obj => obj.key = alt } : World).fetch key).isSome = true := by
  unfold World.fetch at here ⊢
  rw [get_remove]
  · exact here
  · intro obj _ same
    rw [decide_eq_false_iff_not, same]
    exact apart.symm

lemma CallStep.present {call after} (step : CallStep adapter w call after)
    {key} (here : (w.fetch key).isSome = true) : (after.fetch key).isSome = true := by
  cases step with
  | waits | refused | reads | writes | sends => exact here
  | stores up alt sender sent => exact @fetch_put w key alt up.data here

lemma step_present (inv : StoreSound adapter ups w) (own : CleaningsOwn w)
    {key : FileKey} (prompt : action.prompt key.generationId w = true)
    (free : w.locked key.generationId = false) (here : (w.fetch key).isSome = true) :
    ((step adapter w action).fetch key).isSome = true := by
  cases action with
  | createSession sess =>
    rw [step, createSession]
    split <;> exact here
  | suppress | moveProfile | failCleaning => exact here
  | receive | abandon =>
    rw [step]
    split <;> exact here
  | advance id now =>
    rw [step]
    cases hit : w.calls.get id with
    | none => exact here
    | some call => exact (advance_step (inv.calls call (get_eq_some.mp hit).1)).present here
  | startCleaning genId shared now =>
    rw [step, startCleaning]
    split
    · exact here
    · split <;> exact here
  | deleteNextFile genId =>
    rw [step, deleteNextFile]
    split
    · rename_i cleaningId alt keys hit
      obtain ⟨mem, named⟩ := cleaning_found hit
      have apart : alt ≠ key := by
        rintro rfl
        have sameGeneration := own _ mem alt mem_cons_self
        rw [sameGeneration, locked_iff.mpr ⟨_, mem, rfl⟩] at free
        cases free
      exact @fetch_remove w key alt apart here
    · exact here
  | finishCleaning genId =>
    rw [step, finishCleaning]
    split <;> exact here
  | performLate idx =>
    rw [step]
    split
    · exact here
    · rename_i req issued
      cases req with
      | put alt data => exact @fetch_put w key alt data here
      | delete alt =>
        have apart : alt ≠ key := by
          rintro rfl
          simp [Action.prompt, issued] at prompt
        exact @fetch_remove w key alt apart here

lemma step_issued (inv : StoreSound adapter ups w) : w.issued ⊆ (step adapter w action).issued := by
  cases action with
  | createSession sess => exact (createSession_sameCalls sess).2
  | suppress | moveProfile | failCleaning => exact List.Subset.refl _
  | receive | abandon =>
    rw [step]
    split <;> exact List.Subset.refl _
  | advance id now =>
    rw [step]
    cases hit : w.calls.get id with
    | none => exact List.Subset.refl _
    | some call => exact (advance_step (inv.calls call (get_eq_some.mp hit).1)).issued
  | startCleaning genId shared now => exact (startCleaning_sameCalls genId shared now).2
  | deleteNextFile genId => exact (deleteNextFile_sameCalls genId).2
  | finishCleaning genId => exact (finishCleaning_sameCalls genId).2
  | performLate idx => exact (@performLate_sameCalls adapter w idx).2

end

section
variable {adapter : EventAdapter} {ups : List Bytes} {w : World} {db : Db}
  {executes : Request → Progress → Prop} {deletes : Uuid → Prop} {genId : Uuid}
  {finalCount : Nat} {finalHeadHash : Digest}

lemma Committed.later (done : Committed w.db genId) (row : KeepsRow w.db db genId) : Committed db genId := by
  obtain ⟨gen, was, status⟩ := done
  obtain ⟨kept, hit, same, _⟩ := row gen was
  exact ⟨kept, hit, same.trans status⟩

lemma prefix_le {sess} (log : LogSound w.db sess genId)
    (chunks : ∀ chunk ∈ w.db.chunks, Stored adapter w.issued chunk)
    (linked : Linked Chunk.source Chunk.target (0, EMPTY_EVENT_HEAD)
      (w.db.prefixChunks genId finalCount) (finalCount, finalHeadHash)) : finalCount ≤ sess.eventCount := by
  by_contra beyond
  have whole : w.db.prefixChunks genId finalCount = w.db.chunksOf genId := by
    apply filter_eq_self.mpr
    intro chunk mem
    have bound := log.starts_before chunks chunk mem
    rw [decide_eq_true_iff]
    omega
  rw [whole] at linked
  have same : (finalCount, finalHeadHash) = (sess.eventCount, currentHead sess) := linked.stop_unique log.linked
  have count : finalCount = sess.eventCount := congrArg Prod.fst same
  omega

lemma prefixChunks_congr (same : db.chunksOf genId = w.db.chunksOf genId) :
    db.prefixChunks genId finalCount = w.db.prefixChunks genId finalCount := by
  rw [Db.prefixChunks, same, Db.prefixChunks]

lemma Change.keepsPrefix (change : Change adapter w executes deletes db)
    (inv : WorldSound adapter ups w) (done : Committed w.db genId)
    (free : w.locked genId = false) (linked : Linked Chunk.source Chunk.target (0, EMPTY_EVENT_HEAD)
      (w.db.prefixChunks genId finalCount) (finalCount, finalHeadHash)) : Committed db genId ∧
      db.prefixChunks genId finalCount = w.db.prefixChunks genId finalCount := by
  have spared : Spares w.db db genId → Committed db genId ∧
      db.prefixChunks genId finalCount = w.db.prefixChunks genId finalCount :=
    fun spares => ⟨done.later spares.1, prefixChunks_congr spares.2⟩
  cases change with
  | unchanged | suppressed | moved | created => exact spared ⟨keepsRow_refl, rfl⟩
  | staged sess body now gone => exact spared (done.spared_stage gone)
  | touched gen now was staging => exact spared (spares_touch now was)
  | uploaded gen chunk now was staging own obj => exact spared (done.spared_upload now was staging own)
  | committed sess gen body now was staged staging own named isFree cur tiled ran =>
    exact spared (done.spared_commit now staged staging)
  | deleted alt locked ran =>
    apply spared
    apply spares_delete
    rintro rfl
    rw [free] at locked
    cases locked
  | appended sess req chunk was cur own src tgt gone obj key ran =>
    by_cases same : req.generation = genId
    · subst same
      have mem : sess ∈ w.db.sessions := (get_eq_some.mp was).1
      have log := inv.db.logs sess mem _ (Session.current_generation cur)
      have below := prefix_le log inv.store.chunks linked
      have start : chunk.startSeq = req.baseCount := congrArg Prod.fst src
      have count : sess.eventCount = req.baseCount := congrArg EventHead.count cur
      have past : decide (chunk.startSeq < finalCount) = false := by
        rw [decide_eq_false_iff_not]
        omega
      refine ⟨done.later keepsRow_refl, ?_⟩
      rw [Db.prefixChunks, appendChunk_chunksOf log inv.store.chunks cur own src gone,
        filter_append, filter_singleton, past, cond_false, append_nil,
        Db.prefixChunks]
    · exact spared (spares_append own same)

lemma PrefixSound.later (inv : WorldSound adapter ups w) (own : CleaningsOwn w)
    (collisionFree : CollisionFree ups) {action : Action} (prompt : action.prompt genId w = true)
    (known : ∀ data ∈ action.uploads, data ∈ ups)
    (unpicked : ∀ shared now, action = .startCleaning genId shared now → genId ∈ shared)
    (holds : PrefixSound w genId finalCount finalHeadHash) :
    PrefixSound (step adapter w action) genId finalCount finalHeadHash ∧
      (step adapter w action).db.prefixChunks genId finalCount =
        w.db.prefixChunks genId finalCount ∧ ∀ chunk ∈ w.db.prefixChunks genId finalCount,
        chunkEvents adapter (step adapter w action).fetch chunk = chunkEvents adapter w.fetch chunk := by
  have later := inv.step known
  obtain ⟨done, chunks⟩ := (step_change inv.store action).keepsPrefix inv holds.committed holds.free holds.linked
  have stays : ∀ chunk ∈ w.db.prefixChunks genId finalCount,
      ((step adapter w action).fetch chunk.fileKey).isSome = true := by
    intro chunk mem
    obtain ⟨⟨was, inGeneration⟩, _⟩ := mem_prefixChunks.mp mem
    obtain ⟨_, _, described⟩ := inv.store.chunks chunk was
    have free := holds.free
    rw [← inGeneration, ← described.ownKey] at free prompt
    exact step_present inv.store own prompt free (holds.present chunk mem)
  refine ⟨⟨done, ?_, ?_, ?_⟩, chunks, ?_⟩
  · rw [chunks]
    exact holds.linked
  · rw [chunks]
    exact stays
  · rw [← Bool.not_eq_true]
    intro locked
    rcases step_locked inv.store action locked with pre | ⟨shared, now, row, same, _, deletable⟩
    · rw [holds.free] at pre
      cases pre
    · have isShared := unpicked shared now same
      unfold SessionEvents.deletable at deletable
      split at deletable
      · cases deletable
      · rename_i was _ _ _
        have named : row.id = genId := (get_eq_some.mp was).2
        simp [named, isShared] at deletable
  · intro chunk mem
    obtain ⟨⟨was, _⟩, _⟩ := mem_prefixChunks.mp mem
    obtain ⟨data, validated, hit, described, evs⟩ :=
      chunkEvents_stored inv.store collisionFree was (holds.present chunk mem)
    obtain ⟨fetched, foundLater⟩ := Option.isSome_iff_exists.mp (stays chunk mem)
    have describedLater : Described adapter (step adapter w action).issued chunk data validated :=
      { described with sent := step_issued inv.store described.sent }
    have same : fetched = data := fetch_eq later.store collisionFree describedLater foundLater
    rw [evs]
    simp only [chunkEvents, foundLater, same, described.valid]

end
end Clawdi.SessionEvents
