import Clawdi.SessionEvents.Integrity

namespace Clawdi.SessionEvents
open List Table

def CollisionFree (ups : List Bytes) : Prop := ∀ one ∈ ups, ∀ alt ∈ ups, sha256 one = sha256 alt → one = alt

def disturbs (w : World) (genId : Uuid) : Action → Bool
  | .finishCleaning alt => alt = genId
  | .advance id _ =>
    match w.calls.get id with
    | some ⟨_, _, .upload (.append req), .stored _⟩ =>
      req.generation = genId && w.db.sessions.rows.any fun sess => sess.head = req.base
    | _ => false
  | _ => false

def sparesReads (w : World) (act : Action) : Bool :=
  w.calls.rows.all fun call =>
    match call.progress with
    | .found _ genId => !disturbs w genId act
    | _ => true

/-- What `get_session_events` holds of the chunks that it has still to fetch. -/
structure ReadingSound (adapter : EventAdapter) (issued : List StoreRequest) (reading : Reading) :
    Prop where
  linked : Linked Chunk.source Chunk.target (reading.nextSeq, reading.head) reading.remaining
    (reading.session.eventCount, currentHead reading.session)
  stored : ∀ chunk ∈ reading.remaining, Stored adapter issued chunk

structure ReadSound (adapter : EventAdapter) (w : World) (call : Call) : Prop where
  found : ∀ sess genId, call.progress = .found sess genId → LogSound w.db sess genId
  reading : ∀ reading, call.progress = .reading reading → ReadingSound adapter w.issued reading
  answered : ∀ sid err, call.request = .read sid → call.progress = .answered (.error err) → err ∉ readFaults

def ReadsSound (adapter : EventAdapter) (w : World) : Prop := ∀ call ∈ w.calls, ReadSound adapter w call

section
variable {adapter : EventAdapter} {ups : List Bytes} {w : World} {reading : Reading}

lemma fetch_eq (inv : StoreSound adapter ups w) (collisionFree : CollisionFree ups)
    {chunk data fetched validated} (described : Described adapter w.issued chunk data validated)
    (hit : w.fetch chunk.fileKey = some fetched) : fetched = data := by
  unfold World.fetch at hit
  rw [Option.map_eq_some_iff] at hit
  obtain ⟨obj, was, rfl⟩ := hit
  obtain ⟨mem, named⟩ := get_eq_some.mp was
  have sent := inv.objects obj mem
  rw [named] at sent
  have fetchedHash := inv.issued _ _ sent
  have dataHash := inv.issued _ _ described.sent
  exact collisionFree _ fetchedHash.2 _ dataHash.2 (fetchedHash.1.symm.trans dataHash.1)

lemma fileNotFound_not_fault : fileNotFound ∉ readFaults := by decide

lemma readNext_sound (inv : StoreSound adapter ups w) (collisionFree : CollisionFree ups)
    (readingSound : ReadingSound adapter w.issued reading) :
    readNext adapter w.fetch reading = .error fileNotFound ∨
      (∃ next, readNext adapter w.fetch reading = .ok (.inl next) ∧ ReadingSound adapter w.issued next) ∨
      readNext adapter w.fetch reading = .ok (.inr { head := reading.session.head, events := reading.events }) := by
  have linked := readingSound.linked
  unfold readNext
  cases left : reading.remaining with
  | nil =>
    rw [left] at linked
    have arrived : ¬(reading.nextSeq ≠ reading.session.eventCount ∨
        reading.head ≠ currentHead reading.session) := by
      rw [not_or, not_not, not_not]
      exact Prod.ext_iff.mp linked
    simp only [if_neg arrived, or_true]
  | cons chunk chunks =>
    rw [left] at linked
    have next : ¬(chunk.startSeq ≠ reading.nextSeq ∨ chunk.baseHeadHash ≠ reading.head) := by
      rw [not_or, not_not, not_not]
      exact Prod.ext_iff.mp linked.1
    simp only [if_neg next]
    cases fetched : w.fetch chunk.fileKey with
    | none => exact .inl rfl
    | some data =>
      obtain ⟨sent, validated, described⟩ :=
        readingSound.stored chunk (by rw [left]; exact mem_cons_self)
      have same : data = sent := fetch_eq inv collisionFree described fetched
      rw [not_or, not_not, not_not] at next
      have valid : validateEventChunk adapter data reading.nextSeq reading.head = .ok validated := by
        rw [← next.1, ← next.2, same]
        exact described.valid
      have agrees : ¬(validated.contentHash ≠ chunk.contentHash ∨
          validated.resultHeadHash ≠ chunk.resultHeadHash) := by
        rw [not_or, not_not, not_not]
        exact ⟨described.contentHash, described.resultHeadHash⟩
      simp only [valid, if_neg agrees]
      refine Or.inr (.inl ⟨_, rfl, linked.2, ?_⟩)
      intro later mem
      exact readingSound.stored later (by rw [left]; exact mem_cons_of_mem _ mem)

variable {auth : Auth} {sid : Uuid}

lemma findEventSession_found {sess genId db} (hit : findEventSession auth sid db = .ok (sess, genId)) :
    sess ∈ db.sessions ∧ sess.eventGenerationId = some genId := by
  unfold findEventSession at hit
  split at hit
  · cases hit
  · rename_i row was
    split at hit
    · cases hit
    · split at hit
      · cases hit
      · rename_i cur
        cases hit
        exact ⟨(get_eq_some.mp was).1, cur⟩

lemma findEventSession_not_fault {err db}
    (failed : findEventSession auth sid db = .error err) : err ∉ readFaults := by
  unfold findEventSession at failed
  split at failed
  · cases failed
    decide
  · split at failed
    · cases failed
      decide
    · split at failed
      · cases failed
        decide
      · cases failed

end

section
variable {adapter : EventAdapter} {ups : List Bytes} {w : World}

lemma Executes.disturbs {act req key} (ran : Executes w act (.upload (.append req)) (.stored key)) {sess}
    (mem : sess ∈ w.db.sessions) (cur : sess.head = req.base) : disturbs w req.generation act = true := by
  obtain ⟨id, now, ⟨callId, auth, _, _⟩, rfl, hit, rfl, rfl⟩ := ran
  unfold SessionEvents.disturbs
  simp only [hit, decide_true, Bool.true_and, any_eq_true]
  exact ⟨sess, mem, decide_eq_true cur⟩

lemma step_spares (inv : WorldSound adapter ups w) {act sess genId} (log : LogSound w.db sess genId)
    (spared : disturbs w genId act = false) : Spares w.db (step adapter w act).db genId := by
  have change := step_change inv.store act
  generalize (step adapter w act).db = db at change
  cases change with
  | unchanged | suppressed | moved | created => exact ⟨keepsRow_refl, rfl⟩
  | staged row body now gone => exact log.isCommitted.spared_stage gone
  | touched gen now was staging => exact spares_touch now was
  | uploaded gen chunk now was staging own obj => exact log.isCommitted.spared_upload now was staging own
  | deleted alt locked ran =>
    cases ran
    exact spares_delete (of_decide_eq_false spared)
  | appended tgt req chunk was cur own src goal gone obj key ran =>
    apply spares_append own
    rintro rfl
    have disturbed := ran.disturbs (get_eq_some.mp was).1 cur
    rw [spared] at disturbed
    cases disturbed
  | committed tgt gen body now was staged staging own named free cur tiled ran =>
    exact log.isCommitted.spared_commit now staged staging

end

section
variable {adapter : EventAdapter} {ups : List Bytes} {w after : World} {call : Call}

lemma ReadSound.later (inv : ReadSound adapter w call) (grows : w.issued ⊆ after.issued)
    (spares : ∀ sess genId, call.progress = .found sess genId → LogSound w.db sess genId →
      Spares w.db after.db genId) : ReadSound adapter after call where
  found := by
    intro sess genId prog
    have log := inv.found sess genId prog
    have spared := spares sess genId prog log
    exact log.transfer spared.1 spared.2
  reading := by
    intro reading prog
    have pre := inv.reading reading prog
    exact ⟨pre.linked, fun chunk mem => (pre.stored chunk mem).mono grows⟩
  answered := inv.answered

lemma readSound_idle (unfound : ∀ sess genId, call.progress ≠ .found sess genId)
    (unread : ∀ reading, call.progress ≠ .reading reading)
    (unrefused : ∀ err, call.progress ≠ .answered (.error err)) : ReadSound adapter w call where
  found := fun sess genId prog => absurd prog (unfound sess genId)
  reading := fun reading prog => absurd prog (unread reading)
  answered := fun _ err _ prog => absurd prog (unrefused err)

lemma readFailure_not_fault (inv : WorldSound adapter ups w)
    (collisionFree : CollisionFree ups) (reads : ReadSound adapter w call)
    {err} (cause : ReadFailure adapter w call err) :
    ReadSound adapter w { call with progress := .answered (.error err) } where
  found := fun _ _ prog => by cases prog
  reading := fun _ prog => by cases prog
  answered := by
    intro sid alt reader prog
    cases prog
    rcases cause sid reader with failed | ⟨reading, prog, failed⟩
    · exact findEventSession_not_fault failed
    · have readingSound := reads.reading reading prog
      rcases readNext_sound inv.store collisionFree readingSound with missing | ⟨_, turn, _⟩ | done
      · rw [missing] at failed
        cases failed
        exact fileNotFound_not_fault
      · rw [turn] at failed
        cases failed
      · rw [done] at failed
        cases failed

lemma readTurn_sound (inv : WorldSound adapter ups w)
    (collisionFree : CollisionFree ups) (reads : ReadSound adapter w call)
    {prog} (turn : ReadTurn adapter w call prog) : ReadSound adapter w { call with progress := prog } := by
  cases turn with
  | found sid sess genId reader hit =>
    refine ⟨?_, (fun _ prog => by cases prog), (fun _ _ _ prog => by cases prog)⟩
    intro _ _ same
    cases same
    have cur := findEventSession_found hit
    exact inv.db.logs sess cur.1 genId cur.2
  | began sess genId pre =>
    refine ⟨(fun _ _ prog => by cases prog), ?_, (fun _ _ _ prog => by cases prog)⟩
    intro _ same
    cases same
    refine ⟨(reads.found sess genId pre).linked, ?_⟩
    intro chunk mem
    exact inv.store.chunks chunk (mem_chunksOf.mp mem).1
  | turned reading next pre turn =>
    refine ⟨(fun _ _ prog => by cases prog), ?_, (fun _ _ _ prog => by cases prog)⟩
    intro _ same
    cases same
    have readingSound := reads.reading reading pre
    rcases readNext_sound inv.store collisionFree readingSound with missing | ⟨alt, again, holds⟩ | done
    · rw [missing] at turn
      cases turn
    · rw [again] at turn
      cases turn
      exact holds
    · rw [done] at turn
      cases turn

lemma CallStep.issued (step : CallStep adapter w call after) : w.issued ⊆ after.issued := by
  cases step with
  | sends => exact subset_cons_self _ _
  | _ => exact List.Subset.refl _

lemma CallStep.reads_sound (inv : WorldSound adapter ups w)
    (collisionFree : CollisionFree ups) (mem : call ∈ w.calls)
    (reads : ReadsSound adapter w) (step : CallStep adapter w call after)
    (spares : ∀ alt ∈ w.calls, ∀ sess genId, alt.progress = .found sess genId → LogSound w.db sess genId →
      Spares w.db after.db genId) : ReadsSound adapter after := by
  have kept : ∀ alt ∈ w.calls, ReadSound adapter after alt := fun alt inside =>
    (reads alt inside).later step.issued (spares alt inside)
  have moved : ∀ prog, ReadSound adapter after { call with progress := prog } →
      ∀ alt ∈ w.calls.put { call with progress := prog }, ReadSound adapter after alt := by
    intro prog own alt inside
    rcases mem_put.mp inside with rfl | ⟨pre, _⟩
    · exact own
    · exact kept alt pre
  have idle : ∀ prog, (∀ sess genId, prog ≠ .found sess genId) →
      (∀ reading, prog ≠ .reading reading) → (∀ err, prog ≠ .answered (.error err)) →
      ReadSound adapter after { call with progress := prog } :=
    fun _ unfound unread unrefused => readSound_idle unfound unread unrefused
  cases step with
  | waits => exact reads
  | refused err cause =>
    have own := readFailure_not_fault inv collisionFree (reads call mem) cause
    exact moved _ ⟨own.found, own.reading, own.answered⟩
  | reads prog turn =>
    have own := readTurn_sound inv collisionFree (reads call mem) turn
    exact moved _ ⟨own.found, own.reading, own.answered⟩
  | writes | sends | stores => exact moved _ (idle _ (by simp) (by simp) (by simp))

def SameCalls (w after : World) : Prop := after.calls = w.calls ∧ w.issued ⊆ after.issued
lemma sameCalls_refl : SameCalls w w := ⟨rfl, List.Subset.refl _⟩

lemma createSession_sameCalls (sess : Session) : SameCalls w (createSession sess w) := by
  unfold createSession
  split
  · exact ⟨rfl, List.Subset.refl _⟩
  · exact sameCalls_refl

variable (genId : Uuid)

lemma startCleaning_sameCalls (shared : List Uuid) (now : Time) :
    SameCalls w (startCleaning genId shared now w) := by
  unfold startCleaning
  split
  · exact sameCalls_refl
  · split
    · exact sameCalls_refl
    · exact ⟨rfl, List.Subset.refl _⟩

lemma deleteNextFile_sameCalls : SameCalls w (deleteNextFile genId w) := by
  unfold deleteNextFile
  split
  · exact ⟨rfl, subset_cons_self _ _⟩
  · exact sameCalls_refl

lemma finishCleaning_sameCalls : SameCalls w (finishCleaning genId w) := by
  unfold finishCleaning
  split
  · exact ⟨rfl, List.Subset.refl _⟩
  · exact sameCalls_refl

lemma performLate_sameCalls (idx : Nat) : SameCalls w (step adapter w (.performLate idx)) := by
  rw [step]
  split
  · exact sameCalls_refl
  · rename_i req _
    cases req with
    | put | delete => exact ⟨rfl, List.Subset.refl _⟩

lemma ReadsSound.later (reads : ReadsSound adapter w) (same : SameCalls w after)
    (spares : ∀ alt ∈ w.calls, ∀ sess genId, alt.progress = .found sess genId → LogSound w.db sess genId →
        Spares w.db after.db genId) : ReadsSound adapter after := by
  intro alt inside
  rw [same.1] at inside
  exact (reads alt inside).later same.2 (spares alt inside)

lemma ReadsSound.put (reads : ReadsSound adapter w) (own : ReadSound adapter w call) :
    ReadsSound adapter { w with calls := w.calls.put call } := by
  intro alt inside
  have kept : ReadSound adapter w alt := by
    rcases mem_put.mp inside with rfl | ⟨pre, _⟩
    · exact own
    · exact reads alt pre
  exact ⟨kept.found, kept.reading, kept.answered⟩

lemma step_reads_sound (inv : WorldSound adapter ups w)
    (collisionFree : CollisionFree ups) (reads : ReadsSound adapter w) {act}
    (spared : sparesReads w act = true) : ReadsSound adapter (step adapter w act) := by
  have spares : ∀ alt ∈ w.calls, ∀ sess genId, alt.progress = .found sess genId → LogSound w.db sess genId →
        Spares w.db (step adapter w act).db genId := by
    intro alt inside sess genId prog log
    apply step_spares inv log
    have holds := all_eq_true.mp spared alt inside
    simpa only [prog, Bool.not_eq_true'] using holds
  cases act with
  | createSession sess => exact reads.later (createSession_sameCalls sess) spares
  | suppress | moveProfile | failCleaning => exact reads.later ⟨rfl, List.Subset.refl _⟩ spares
  | receive | abandon =>
    rw [step]
    split
    · exact reads
    · exact reads.put (readSound_idle (by simp) (by simp) (by simp))
  | advance id now =>
    rw [step] at spares ⊢
    cases hit : w.calls.get id with
    | none => exact reads
    | some call =>
      rw [hit] at spares
      have mem := (get_eq_some.mp hit).1
      exact (advance_step (inv.store.calls call mem)).reads_sound inv collisionFree mem reads spares
  | startCleaning genId shared now => exact reads.later (startCleaning_sameCalls genId shared now) spares
  | deleteNextFile genId => exact reads.later (deleteNextFile_sameCalls genId) spares
  | finishCleaning genId => exact reads.later (finishCleaning_sameCalls genId) spares
  | performLate idx => exact reads.later (performLate_sameCalls idx) spares

end
end Clawdi.SessionEvents
