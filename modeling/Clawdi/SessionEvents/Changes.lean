import Clawdi.SessionEvents.World

namespace Clawdi.SessionEvents

structure Described (adapter : EventAdapter) (issued : List StoreRequest) (chunk : Chunk)
    (data : Bytes) (validated : ValidatedEventChunk) : Prop where
  ownKey : chunk.fileKey.generationId = chunk.generationId
  sent : .put chunk.fileKey data ∈ issued
  valid : validateEventChunk adapter data chunk.startSeq chunk.baseHeadHash = .ok validated
  contentHash : validated.contentHash = chunk.contentHash
  resultHeadHash : validated.resultHeadHash = chunk.resultHeadHash
  endSeq : chunk.endSeq + 1 = chunk.startSeq + validated.events.length

def Stored (adapter : EventAdapter) (issued : List StoreRequest) (chunk : Chunk) : Prop :=
  ∃ data validated, Described adapter issued chunk data validated

section
variable {adapter : EventAdapter} {issued : List StoreRequest} {chunk : Chunk}

lemma Stored.mono {later} (grows : issued ⊆ later)
    (stored : Stored adapter issued chunk) : Stored adapter later chunk := by
  obtain ⟨data, validated, described⟩ := stored
  exact ⟨data, validated, { described with sent := grows described.sent }⟩

lemma Stored.grows (stored : Stored adapter issued chunk) : chunk.startSeq < chunk.endSeq + 1 := by
  obtain ⟨data, validated, described⟩ := stored
  have some_event := (validateEventChunk_spec described.valid).1
  have last := described.endSeq
  omega

end

/-- What one step can do; `executes` and `deletes` tell the request and the generation it acts on. -/
inductive Change (adapter : EventAdapter) (w : World) (executes : Request → Progress → Prop)
    (deletes : Uuid → Prop) : Db → Prop
  | unchanged : Change adapter w executes deletes w.db
  | created (sess : Session) (new : sess.New)
      (gone : w.db.sessions.get sess.id = none)
      (fresh : ∀ alt ∈ w.db.sessions, ¬alt.SameOrigin sess) :
      Change adapter w executes deletes { w.db with sessions := w.db.sessions.put sess }
  | suppressed (row : SyncSuppression) :
      Change adapter w executes deletes { w.db with suppressions := row :: w.db.suppressions }
  | moved (move : ProfileMove) : Change adapter w executes deletes (w.db.moveProfile move)
  | staged (sess : Session) (body : GenerationCreate) (now : Time)
      (gone : w.db.generations.get body.generation = none) :
      Change adapter w executes deletes
        { w.db with generations := w.db.generations.put (stagedGeneration sess body now) }
  | touched (gen : Generation) (now : Time)
      (stored : w.db.generations.get gen.id = some gen)
      (staging : gen.status = .staging) :
      Change adapter w executes deletes (w.db.touch gen now)
  | uploaded (gen : Generation) (chunk : Chunk) (now : Time)
      (stored : w.db.generations.get gen.id = some gen)
      (staging : gen.status = .staging) (own : chunk.generationId = gen.id)
      (obj : Stored adapter w.issued chunk) :
      Change adapter w executes deletes (w.db.insertStaged chunk gen now)
  | appended (sess : Session) (req : EventAppend) (chunk : Chunk)
      (stored : w.db.sessions.get sess.id = some sess)
      (cur : sess.head = req.base) (own : chunk.generationId = req.generation)
      (src : chunk.source = (req.baseCount, req.baseHeadHash))
      (tgt : chunk.target = (req.finalCount, req.finalHeadHash))
      (gone : w.db.chunks.get chunk.key = none)
      (obj : Stored adapter w.issued chunk) (key : FileKey)
      (ran : executes (.upload (.append req)) (.stored key)) :
      Change adapter w executes deletes (w.db.appendChunk sess req chunk)
  | committed (sess : Session) (gen : Generation) (body : CommitRequest) (now : Time)
      (stored : w.db.sessions.get sess.id = some sess)
      (staged : w.db.generations.get gen.id = some gen)
      (staging : gen.status = .staging) (own : gen.sessionId = sess.id)
      (named : body.generationId = gen.id) (free : w.locked gen.id = false)
      (cur : sess.head = body.base)
      (tiled : Linked Chunk.source Chunk.target (0, EMPTY_EVENT_HEAD)
        (w.db.chunksOf gen.id) (body.finalCount, body.finalHeadHash))
      (ran : executes (.commit body) .received) :
      Change adapter w executes deletes (w.db.commit sess gen body now)
  | deleted (genId : Uuid) (locked : w.locked genId = true)
      (ran : deletes genId) :
      Change adapter w executes deletes (w.db.deleteGeneration genId)

def Progress.key? : Progress → Option FileKey
  | .storing key => some key
  | .stored key => some key
  | _ => none

def Progress.entering : Option FileKey → Progress
  | none => .received
  | some key => .stored key

lemma key?_entering (uploadedKey : Option FileKey) : (Progress.entering uploadedKey).key? = uploadedKey := by
  cases uploadedKey with
  | none | some => rfl

def Call.Executes (call : Call) (req : Request) (prog : Progress) : Prop := call.request = req ∧ call.progress = prog

/-- What an in-flight call has sent to the object store, and that its data is one of `uploads`. -/
structure CallSound (ups : List Bytes) (issued : List StoreRequest) (call : Call) : Prop where
  uploaded : ∀ up, call.request = .upload up → up.data ∈ ups
  sent : ∀ up key, call.request = .upload up → call.progress.key? = some key → .put key up.data ∈ issued

structure StoreSound (adapter : EventAdapter) (ups : List Bytes) (w : World) : Prop where
  issued : ∀ key data, .put key data ∈ w.issued → key.contentHash = sha256 data ∧ data ∈ ups
  objects : ∀ obj ∈ w.objects, .put obj.key obj.data ∈ w.issued
  calls : ∀ call ∈ w.calls, CallSound ups w.issued call
  chunks : ∀ chunk ∈ w.db.chunks, Stored adapter w.issued chunk

inductive ReadTurn (adapter : EventAdapter) (w : World) (call : Call) : Progress → Prop
  | found (sid : Uuid) (sess : Session) (genId : Uuid)
      (reader : call.request = .read sid)
      (hit : findEventSession call.auth sid w.db = .ok (sess, genId)) :
      ReadTurn adapter w call (.found sess genId)
  | began (sess : Session) (genId : Uuid)
      (pre : call.progress = .found sess genId) :
      ReadTurn adapter w call (.reading ⟨sess, w.db.chunksOf genId, [], 0, EMPTY_EVENT_HEAD⟩)
  | turned (reading next : Reading) (pre : call.progress = .reading reading)
      (turn : readNext adapter w.fetch reading = .ok (.inl next)) :
      ReadTurn adapter w call (.reading next)

lemma ReadTurn.unsent {adapter w call prog} (turn : ReadTurn adapter w call prog) : prog.key? = none := by
  cases turn with
  | found | began | turned => rfl

def ReadFailure (adapter : EventAdapter) (w : World) (call : Call) (err : HttpError) : Prop :=
  ∀ sid, call.request = .read sid → findEventSession call.auth sid w.db = .error err ∨
    ∃ reading, call.progress = .reading reading ∧ readNext adapter w.fetch reading = .error err

inductive Grounds (adapter : EventAdapter) (w : World) (call : Call) : Answer → Db → Prop
  | head (query : HeadQuery) (resp : HeadResponse) (asked : call.request = .head query)
      (ok : getSessionEventHead call.auth query w.db = .ok resp) :
      Grounds adapter w call (.head resp) w.db
  | stage (body : GenerationCreate) (now : Time) (resp : GenerationResponse) (db : Db)
      (asked : call.request = .stage body)
      (ok : stageSessionEventGeneration call.auth body now w.db = .ok (resp, db)) :
      Grounds adapter w call (.generation resp) db
  | chunk (req : ChunkUpload) (validated : ValidatedEventChunk) (uploadedKey : Option FileKey)
      (now : Time) (resp : ChunkResponse) (db : Db)
      (asked : call.request = .upload (.chunk req))
      (valid : req.validate adapter = .ok validated)
      (ok : uploadSessionEventGenerationChunk call.auth req validated uploadedKey now w.db =
        .ok (.answer resp db)) :
      Grounds adapter w call (.chunk resp) db
  | append (req : EventAppend) (validated : ValidatedEventChunk) (uploadedKey : Option FileKey)
      (now : Time) (resp : AppendResponse) (db : Db)
      (asked : call.request = .upload (.append req))
      (valid : req.validate adapter = .ok validated)
      (ok : appendSessionEvents call.auth req validated uploadedKey now w.db = .ok (.answer resp db)) :
      Grounds adapter w call (.appended resp) db
  | commit (body : CommitRequest) (now : Time) (resp : AppendResponse) (db : Db)
      (asked : call.request = .commit body)
      (ok : commitSessionEventGeneration call.auth body now w.db = .ok (resp, db)) :
      Grounds adapter w call (.appended resp) db
  | events (sid : Uuid) (reading : Reading) (resp : EventsResponse)
      (asked : call.request = .read sid) (pre : call.progress = .reading reading)
      (turn : readNext adapter w.fetch reading = .ok (.inr resp)) :
      Grounds adapter w call (.events resp) w.db

inductive CallStep (adapter : EventAdapter) (w : World) (call : Call) : World → Prop
  | waits : CallStep adapter w call w
  | refused (err : HttpError) (cause : ReadFailure adapter w call err) :
      CallStep adapter w call (call.moveTo (.answered (.error err)) w)
  | reads (prog : Progress) (turn : ReadTurn adapter w call prog) :
      CallStep adapter w call (call.moveTo prog w)
  | writes (ans : Answer) (db : Db)
      (change : Change adapter w call.Executes (fun _ => False) db)
      (grounds : Grounds adapter w call ans db) :
      CallStep adapter w call (call.moveTo (.answered (.ok ans)) { w with db := db })
  | sends (up : Upload) (key : FileKey) (sender : call.request = .upload up)
      (hash : key.contentHash = sha256 up.data) :
      CallStep adapter w call (call.moveTo (.storing key) { w with issued := .put key up.data :: w.issued })
  | stores (up : Upload) (key : FileKey) (sender : call.request = .upload up)
      (sent : call.progress = .storing key) :
      CallStep adapter w call (call.moveTo (.stored key) { w with objects := w.objects.put ⟨key, up.data⟩ })

section
variable {adapter : EventAdapter} {w : World} {call : Call} {now : Time}
variable {req : Request} {auth : Auth} {after : Db}

lemma refused_step (sender : call.request = req) (alt : ∀ sid, req ≠ .read sid) (err : HttpError) :
    CallStep adapter w call (call.moveTo (.answered (.error err)) w) := by
  refine .refused err ?_
  intro sid reader
  exact absurd (sender.symm.trans reader) (alt sid)

lemma transact_step (sender : call.request = req) (alt : ∀ sid, req ≠ .read sid) {out}
    (changes : ∀ ans db, out = .ok (ans, db) → Change adapter w call.Executes (fun _ => False) db ∧
      Grounds adapter w call ans db) : CallStep adapter w call (call.transact out w) := by
  cases out with
  | error err => exact refused_step sender alt err
  | ok pair =>
    have answered := changes pair.1 pair.2 rfl
    exact .writes pair.1 pair.2 answered.1 answered.2

variable {executes : Request → Progress → Prop} {deletes : Uuid → Prop}

lemma stage_change {body resp} (ok : stageSessionEventGeneration auth body now w.db = .ok (resp, after)) :
    Change adapter w executes deletes after := by
  obtain ⟨sess, _, _, res⟩ := stageSessionEventGeneration_cases ok
  cases res with
  | known => exact .unchanged
  | created gone cur => exact .staged sess body now gone

lemma commit_change {body resp}
    (ran : executes (.commit body) .received) (free : ¬w.locked body.generationId = true)
    (ok : commitSessionEventGeneration auth body now w.db = .ok (resp, after)) :
    Change adapter w executes deletes after := by
  obtain ⟨gen, sess, stored, declared, owner, _, res⟩ := commitSessionEventGeneration_cases ok
  have named : gen.id = body.generationId := (Table.get_eq_some.mp stored).2
  have own : sess.id = gen.sessionId := (Table.get_eq_some.mp owner).2
  cases res with
  | known => exact .unchanged
  | committed staging cur tiled =>
    rw [← named] at stored free tiled
    rw [← own] at owner
    exact .committed sess gen body now owner stored staging own.symm named.symm
      (Bool.eq_false_iff.mpr free) cur tiled ran

variable {uploadedKey : Option FileKey} {ups : List Bytes} {validated : ValidatedEventChunk}
section
variable (inv : CallSound ups w.issued call)
include inv

variable {req : ChunkUpload} {sess : Session}

lemma stagedChunk_stored (sender : call.request = .upload (.chunk req))
    (sent : call.progress.key? = some (stagedChunk sess req validated now).fileKey)
    (valid : req.validate adapter = .ok validated) :
    Stored adapter w.issued (stagedChunk sess req validated now) := by
  have checked := chunkUpload_valid valid
  have some_event := (validateEventChunk_spec checked.1).1
  refine ⟨req.data, validated, rfl, inv.sent _ _ sender sent, checked.1, checked.2, rfl, ?_⟩
  simp only [stagedChunk]
  omega

lemma appendedChunk_stored {req} (sender : call.request = .upload (.append req))
    (sent : call.progress.key? = some (appendedChunk sess req validated now).fileKey)
    (valid : req.validate adapter = .ok validated) :
    Stored adapter w.issued (appendedChunk sess req validated now) ∧ req.finalCount - 1 + 1 = req.finalCount := by
  obtain ⟨checked, hash, head, count⟩ := eventAppend_valid valid
  have some_event := (validateEventChunk_spec checked).1
  have last : req.finalCount - 1 + 1 = req.finalCount := by omega
  refine ⟨⟨req.data, validated, rfl, inv.sent _ _ sender sent, checked, hash, head, ?_⟩, last⟩
  exact last.trans count.symm

lemma chunkPass_step (sender : call.request = .upload (.chunk req))
    (valid : req.validate adapter = .ok validated) (entered : call.progress = .entering uploadedKey) :
    CallStep adapter w call (call.enter req.data
      ((uploadSessionEventGenerationChunk call.auth req validated uploadedKey now w.db).map
        (Phase.map .chunk)) w) := by
  cases out : uploadSessionEventGenerationChunk call.auth req validated uploadedKey now
      w.db with
  | error err => exact refused_step sender (by simp) err
  | ok phase =>
    obtain ⟨gen, sess, stored, staging, _, res⟩ := uploadSessionEventGenerationChunk_cases out
    have named : gen.id = req.generationId := (Table.get_eq_some.mp stored).2
    have row : w.db.generations.get gen.id = some gen := by rw [named, stored]
    cases res with
    | known old mem =>
      exact .writes _ _ (.touched gen now row staging) (.chunk req validated uploadedKey now _ _ sender valid out)
    | store =>
      have checked := chunkUpload_valid valid
      have hash : req.contentHash = sha256 req.data := by rw [← checked.2, (validateEventChunk_spec checked.1).2]
      exact .sends (.chunk req) _ sender hash
    | inserted gone uploaded =>
      have sent := (congrArg Progress.key? entered).trans (key?_entering uploadedKey)
      have obj := stagedChunk_stored inv sender (sent.trans uploaded) valid
      exact .writes _ _ (.uploaded gen _ now row staging named.symm obj)
        (.chunk req validated uploadedKey now _ _ sender valid out)

lemma appendPass_step {req} (sender : call.request = .upload (.append req))
    (valid : req.validate adapter = .ok validated) (entered : call.progress = .entering uploadedKey) :
    CallStep adapter w call (call.enter req.data
      ((appendSessionEvents call.auth req validated uploadedKey now w.db).map (Phase.map .appended)) w) := by
  cases out : appendSessionEvents call.auth req validated uploadedKey now w.db with
  | error err => exact refused_step sender (by simp) err
  | ok phase =>
    obtain ⟨sess, stored, _, res⟩ := appendSessionEvents_cases out
    cases res with
    | known resp acked receipted =>
      exact .writes _ _ .unchanged (.append req validated uploadedKey now _ _ sender valid out)
    | store =>
      obtain ⟨checked, hash, _, _⟩ := eventAppend_valid valid
      have same : req.contentHash = sha256 req.data := by rw [← hash, (validateEventChunk_spec checked).2]
      exact .sends (.append req) _ sender same
    | appended gen cur _ done _ gone uploaded =>
      have sent := (congrArg Progress.key? entered).trans (key?_entering uploadedKey)
      obtain ⟨obj, last⟩ := appendedChunk_stored inv sender (sent.trans uploaded) valid
      rw [uploaded] at entered
      have grounds : Grounds adapter w call _ _ := .append req validated uploadedKey now _ _ sender valid out
      exact .writes _ _ (.appended sess req _ stored cur rfl rfl
        (Prod.ext last rfl) gone obj _ ⟨sender, entered⟩) grounds

lemma uploadPass_step {up} (sender : call.request = .upload up) (entered : call.progress = .entering uploadedKey) :
    CallStep adapter w call (call.uploadPass adapter up uploadedKey now w) := by
  unfold Call.uploadPass
  cases valid : up.validate adapter with
  | error err => exact refused_step sender (by simp) err
  | ok validated =>
    by_cases waits : up.locks.any w.locked = true
    · simp only [if_pos waits]
      exact .waits
    · simp only [if_neg waits]
      cases up with
      | chunk req => exact chunkPass_step inv sender valid entered
      | append req => exact appendPass_step inv sender valid entered

lemma advance_step : CallStep adapter w call (call.advance adapter now w) := by
  unfold Call.advance
  split
  · rename_i query sender _
    apply transact_step sender (by simp)
    intro ans db ok
    obtain ⟨resp, asked, same⟩ := map_eq_ok.mp ok
    cases same
    exact ⟨.unchanged, .head query resp sender asked⟩
  · rename_i body sender _
    apply transact_step sender (by simp)
    intro ans db ok
    obtain ⟨⟨resp, after⟩, staged, same⟩ := map_eq_ok.mp ok
    cases same
    exact ⟨stage_change staged, .stage body now resp after sender staged⟩
  · rename_i body req prog
    by_cases locked : w.locked body.generationId = true
    · rw [if_pos locked]
      exact .waits
    · rw [if_neg locked]
      apply transact_step req (by simp)
      intro ans db ok
      obtain ⟨⟨resp, after⟩, done, same⟩ := map_eq_ok.mp ok
      cases same
      exact ⟨commit_change ⟨req, prog⟩ locked done, .commit body now resp after req done⟩
  · rename_i up req prog
    exact uploadPass_step inv req prog
  · rename_i up key req prog
    exact .stores up key req prog
  · rename_i up key req prog
    exact uploadPass_step inv req prog
  · rename_i sid reader prog
    split
    · rename_i err failed
      refine .refused err ?_
      intro alt isOther
      cases reader.symm.trans isOther
      exact .inl failed
    · rename_i sess genId hit
      exact .reads _ (.found sid sess genId reader hit)
  · rename_i sid sess genId reader prog
    exact .reads _ (.began sess genId prog)
  · rename_i sid reading reader prog
    split
    · rename_i err failed
      refine .refused err ?_
      intro _ _
      exact .inr ⟨reading, prog, failed⟩
    · rename_i next turn
      exact .reads _ (.turned reading next prog turn)
    · rename_i resp turn
      exact .writes _ _ .unchanged (.events sid reading resp reader prog turn)
  · exact .waits

end
end
end Clawdi.SessionEvents
