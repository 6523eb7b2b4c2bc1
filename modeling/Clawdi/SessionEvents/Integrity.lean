import Clawdi.SessionEvents.StoreInvariant

namespace Clawdi.SessionEvents
open Table

structure LogSound (db : Db) (sess : Session) (genId : Uuid) : Prop where
  protocol : sess.contentProtocol = .eventsV1
  committed : ∃ gen, db.generations.get genId = some gen ∧ gen.status = .committed ∧ gen.sessionId = sess.id
  linked : Linked Chunk.source Chunk.target (0, EMPTY_EVENT_HEAD) (db.chunksOf genId)
    (sess.eventCount, currentHead sess)

def Committed (db : Db) (genId : Uuid) : Prop := ∃ gen, db.generations.get genId = some gen ∧ gen.status = .committed

lemma LogSound.isCommitted {db sess genId} (log : LogSound db sess genId) : Committed db genId := by
  obtain ⟨gen, was, done, _⟩ := log.committed
  exact ⟨gen, was, done⟩

structure DbSound (db : Db) : Prop where
  logs : ∀ sess ∈ db.sessions, ∀ genId, sess.eventGenerationId = some genId → LogSound db sess genId
  unlogged : ∀ sess ∈ db.sessions, sess.eventGenerationId = none → sess.contentProtocol = .snapshotV1

def Unused (db : Db) (genId : Uuid) : Prop := ∀ sess ∈ db.sessions, sess.eventGenerationId ≠ some genId

def KeepsRow (db after : Db) (genId : Uuid) : Prop :=
  ∀ gen, db.generations.get genId = some gen →
    ∃ row, after.generations.get genId = some row ∧ row.status = gen.status ∧ row.sessionId = gen.sessionId

section
variable {db : Db} {genId : Uuid} {chunk : Chunk}

lemma chunksOf_put_other (alt : chunk.generationId ≠ genId) :
    { db with chunks := db.chunks.put chunk }.chunksOf genId = db.chunksOf genId := by
  apply chunksOf_congr
  intro row inGeneration
  rw [mem_put]
  constructor
  · rintro (rfl | ⟨mem, _⟩)
    · exact absurd inGeneration alt
    · exact mem
  · intro mem
    refine Or.inr ⟨mem, fun same => alt ?_⟩
    rw [← inGeneration]
    exact (congrArg Prod.fst same).symm

lemma chunksOf_put_last (own : chunk.generationId = genId) (gone : db.chunks.get chunk.key = none)
    (last : ∀ alt ∈ db.chunksOf genId, alt.startSeq < chunk.startSeq) :
    { db with chunks := db.chunks.put chunk }.chunksOf genId = db.chunksOf genId ++ [chunk] := by
  apply select_put_last
  · intro one memberOne alt memberOther
    exact startSeq_distinct memberOne memberOther
  · exact gone
  · rw [own]
    exact decide_eq_true rfl
  · exact last

lemma chunksOf_delete_other {deleted} (alt : deleted ≠ genId) :
    (db.deleteGeneration deleted).chunksOf genId = db.chunksOf genId := by
  apply chunksOf_congr
  intro row inGeneration
  rw [Db.deleteGeneration, mem_remove, decide_eq_false_iff_not]
  constructor
  · intro both
    exact both.1
  · intro mem
    exact ⟨mem, fun same => alt (same.symm.trans inGeneration)⟩

lemma keepsRow_refl : KeepsRow db db genId :=
  fun gen was => ⟨gen, was, rfl, rfl⟩

lemma keepsRow_put {row : Generation} (alt : row.id ≠ genId) :
    KeepsRow db { db with generations := db.generations.put row } genId := by
  intro gen was
  refine ⟨gen, ?_, rfl, rfl⟩
  rw [← was]
  exact get_put_of_ne _ alt

lemma keepsRow_touch {gen : Generation} (now : Time) (was : db.generations.get gen.id = some gen) :
    KeepsRow db (db.touch gen now) genId := by
  by_cases same : gen.id = genId
  · subst same
    intro row hit
    rw [was] at hit
    cases hit
    exact ⟨_, get_put_self _ _, rfl, rfl⟩
  · exact keepsRow_put same

lemma supersede_get {prev done now gen} (was : db.generations.get genId = some gen) :
    ∃ row, (supersede prev done now db).get genId = some row ∧
      row.status = gen.status ∧ row.sessionId = gen.sessionId := by
  unfold supersede
  split
  · exact ⟨gen, was, rfl, rfl⟩
  · rename_i previousId
    split
    · exact ⟨gen, was, rfl, rfl⟩
    · split
      · exact ⟨gen, was, rfl, rfl⟩
      · rename_i row hit
        split
        · have named : row.id = previousId := (get_eq_some.mp hit).2
          by_cases same : row.id = genId
          · rw [← named, same, was] at hit
            cases hit
            exact ⟨{ gen with supersededAt := some now }, get_put_of_eq _ same, rfl, rfl⟩
          · exact ⟨gen, by rw [← was]; exact get_put_of_ne _ same, rfl, rfl⟩
        · exact ⟨gen, was, rfl, rfl⟩

end

section
variable {db after : Db} {sess : Session} {genId : Uuid}

lemma LogSound.transfer (inv : LogSound db sess genId) (row : KeepsRow db after genId)
    (chunks : after.chunksOf genId = db.chunksOf genId) : LogSound after sess genId := by
  obtain ⟨gen, was, done, own⟩ := inv.committed
  obtain ⟨kept, hit, status, sid⟩ := row gen was
  refine ⟨inv.protocol, ⟨kept, hit, status.trans done, sid.trans own⟩, ?_⟩
  rw [chunks]
  exact inv.linked

lemma LogSound.session_unique {alt} (inv : LogSound db sess genId)
    (again : LogSound db alt genId) (mem : sess ∈ db.sessions) (memberOther : alt ∈ db.sessions) : sess = alt := by
  obtain ⟨gen, was, _, own⟩ := inv.committed
  obtain ⟨row, hit, _, ownOther⟩ := again.committed
  rw [was] at hit
  cases hit
  exact eq_of_key mem memberOther (own.symm.trans ownOther)

variable {gen : Generation}

lemma Committed.not_staging (done : Committed db genId) (was : db.generations.get gen.id = some gen)
    (staging : gen.status = .staging) : gen.id ≠ genId := by
  rintro rfl
  obtain ⟨row, hit, status⟩ := done
  rw [was] at hit
  cases hit
  rw [staging] at status
  cases status

def Spares (db after : Db) (genId : Uuid) : Prop := KeepsRow db after genId ∧ after.chunksOf genId = db.chunksOf genId

lemma DbSound.transfer (inv : DbSound db) (same : after.sessions = db.sessions)
    (spares : ∀ sess ∈ db.sessions, ∀ genId, sess.eventGenerationId = some genId → LogSound db sess genId →
        Spares db after genId) : DbSound after := by
  refine ⟨?_, ?_⟩
  · intro sess mem genId cur
    rw [same] at mem
    have log := inv.logs sess mem genId cur
    have spared := spares sess mem genId cur log
    exact log.transfer spared.1 spared.2
  · intro sess mem none
    rw [same] at mem
    exact inv.unlogged sess mem none

lemma Committed.spared_stage (done : Committed db genId) {row : Generation}
    (gone : db.generations.get row.id = none) :
    Spares db { db with generations := db.generations.put row } genId := by
  refine ⟨keepsRow_put ?_, rfl⟩
  rintro rfl
  obtain ⟨gen, hit, _⟩ := done
  rw [gone] at hit
  cases hit

lemma spares_touch (now : Time) (was : db.generations.get gen.id = some gen) :
    Spares db (db.touch gen now) genId := ⟨keepsRow_touch now was, rfl⟩

lemma Committed.spared_upload (done : Committed db genId) {chunk : Chunk} (now : Time)
    (was : db.generations.get gen.id = some gen)
    (staging : gen.status = .staging) (own : chunk.generationId = gen.id) :
    Spares db (db.insertStaged chunk gen now) genId := by
  refine ⟨keepsRow_touch now was, chunksOf_put_other ?_⟩
  rw [own]
  exact done.not_staging was staging

lemma spares_delete {deleted} (apart : deleted ≠ genId) : Spares db (db.deleteGeneration deleted) genId := by
  refine ⟨?_, chunksOf_delete_other apart⟩
  intro gen was
  refine ⟨gen, ?_, rfl, rfl⟩
  rw [← was]
  apply get_remove
  intro row _ same
  exact decide_eq_false fun named => apart (named.symm.trans same)

lemma Committed.spared_commit (done : Committed db genId) {gen : Generation} {committing body} (now : Time)
    (was : db.generations.get gen.id = some gen) (staging : gen.status = .staging) :
    Spares db (db.commit committing gen body now) genId := by
  refine ⟨?_, rfl⟩
  intro row hit
  obtain ⟨kept, foundKept, status, sid⟩ := supersede_get hit
  have apart : gen.id ≠ genId := done.not_staging was staging
  refine ⟨kept, ?_, status, sid⟩
  rw [← foundKept]
  exact get_put_of_ne _ (by exact apart)

lemma spares_append {req : EventAppend} {chunk : Chunk}
    (own : chunk.generationId = req.generation) (apart : req.generation ≠ genId) :
    Spares db (db.appendChunk sess req chunk) genId := by
  refine ⟨keepsRow_refl, chunksOf_put_other ?_⟩
  rw [own]
  exact apart

end

section
variable {adapter : EventAdapter} {w : World} {executes : Request → Progress → Prop} {deletes : Uuid → Prop}

lemma LogSound.starts_before {sess genId} (log : LogSound w.db sess genId)
    (chunks : ∀ chunk ∈ w.db.chunks, Stored adapter w.issued chunk) :
    ∀ chunk ∈ w.db.chunksOf genId, chunk.startSeq < chunk.endSeq + 1 ∧ chunk.endSeq + 1 ≤ sess.eventCount := by
  intro chunk mem
  have grows : ∀ link ∈ w.db.chunksOf genId, link.source.1 < link.target.1 :=
    fun link inside => (chunks link (mem_chunksOf.mp inside).1).grows
  have inside := log.linked.within Prod.fst grows chunk mem
  exact ⟨grows chunk mem, inside.2⟩

variable {req : EventAppend}

lemma appendChunk_chunksOf {sess chunk} (log : LogSound w.db sess req.generation)
    (chunks : ∀ chunk ∈ w.db.chunks, Stored adapter w.issued chunk)
    (cur : sess.head = req.base) (own : chunk.generationId = req.generation)
    (src : chunk.source = (req.baseCount, req.baseHeadHash)) (gone : w.db.chunks.get chunk.key = none) :
    (w.db.appendChunk sess req chunk).chunksOf req.generation = w.db.chunksOf req.generation ++ [chunk] := by
  refine chunksOf_put_last own gone ?_
  intro alt mem
  have pre := log.starts_before chunks alt mem
  have start : chunk.startSeq = req.baseCount := congrArg Prod.fst src
  have count : sess.eventCount = req.baseCount := congrArg EventHead.count cur
  omega

lemma Session.current_generation {sess : Session} (cur : sess.head = req.base) :
    sess.eventGenerationId = some req.generation :=
  congrArg EventHead.generation cur

lemma Change.sound {db} (change : Change adapter w executes deletes db) (inv : DbSound w.db)
    (chunks : ∀ chunk ∈ w.db.chunks, Stored adapter w.issued chunk)
    (unused : ∀ genId, w.locked genId = true → Unused w.db genId) : DbSound db := by
  cases change with
  | unchanged => exact inv
  | suppressed row => exact ⟨fun sess mem genId cur =>
      (inv.logs sess mem genId cur).transfer keepsRow_refl rfl, inv.unlogged⟩
  | moved move =>
    refine ⟨?_, ?_⟩
    · intro alt mem genId cur
      obtain ⟨sess, was, rfl⟩ := mem_moveProfile.mp mem
      have log := inv.logs sess was genId cur
      exact ⟨log.protocol, log.committed, log.linked⟩
    · intro alt mem none
      obtain ⟨sess, was, rfl⟩ := mem_moveProfile.mp mem
      exact inv.unlogged sess was none
  | created sess new gone fresh =>
    refine ⟨?_, ?_⟩
    · intro alt mem genId cur
      rcases mem_put.mp mem with rfl | ⟨pre, _⟩
      · rw [new.generation] at cur
        cases cur
      · exact (inv.logs alt pre genId cur).transfer keepsRow_refl rfl
    · intro alt mem none
      rcases mem_put.mp mem with rfl | ⟨pre, _⟩
      · exact new.protocol
      · exact inv.unlogged alt pre none
  | staged sess body now gone =>
    refine inv.transfer rfl ?_
    intro alt _ genId _ log
    exact log.isCommitted.spared_stage gone
  | touched gen now was staging =>
    refine inv.transfer rfl ?_
    intro alt _ genId _ _
    exact spares_touch now was
  | uploaded gen chunk now was staging own obj =>
    refine inv.transfer rfl ?_
    intro alt _ genId _ log
    exact log.isCommitted.spared_upload now was staging own
  | deleted genId locked ran =>
    refine inv.transfer rfl ?_
    intro sess mem alt cur _
    apply spares_delete
    rintro rfl
    exact unused genId locked sess mem cur
  | appended sess req chunk was cur own src tgt gone obj key ran =>
    have mem : sess ∈ w.db.sessions := (get_eq_some.mp was).1
    have here : sess.eventGenerationId = some req.generation := Session.current_generation cur
    have count : sess.eventCount = req.baseCount := congrArg EventHead.count cur
    have headHash : currentHead sess = req.baseHeadHash := congrArg EventHead.headHash cur
    have log := inv.logs sess mem _ here
    refine ⟨?_, ?_⟩
    · intro alt memberOther genId isCurrent
      rcases mem_put.mp memberOther with rfl | ⟨pre, apart⟩
      · have same : genId = req.generation :=
          Option.some.inj (isCurrent.symm.trans here)
        subst same
        refine ⟨log.protocol, log.committed, ?_⟩
        rw [appendChunk_chunksOf log chunks cur own src gone]
        have next : chunk.source = (sess.eventCount, currentHead sess) := by rw [src, count, headHash]
        have linked := log.linked.concat next
        rw [tgt] at linked
        exact linked
      · have logOther := inv.logs alt pre genId isCurrent
        have elsewhere : req.generation ≠ genId := by
          intro same
          rw [← same] at logOther
          have unique : alt = sess := logOther.session_unique log pre mem
          rw [unique] at apart
          exact apart rfl
        have spared := @spares_append w.db sess genId req chunk own elsewhere
        exact logOther.transfer spared.1 spared.2
    · intro alt memberOther none
      rcases mem_put.mp memberOther with rfl | ⟨pre, _⟩
      · rw [show (sess.appended req).eventGenerationId = sess.eventGenerationId from rfl, here] at none
        cases none
      · exact inv.unlogged alt pre none
  | committed sess gen body now was staged staging own named free cur tiled ran =>
    refine ⟨?_, ?_⟩
    · intro alt memberOther genId isCurrent
      rcases mem_put.mp memberOther with rfl | ⟨pre, apart⟩
      · have same : genId = gen.id :=
          (Option.some.inj isCurrent).symm.trans named
        subst same
        exact ⟨rfl, ⟨_, get_put_self _ _, rfl, own⟩, tiled⟩
      · have log := inv.logs alt pre genId isCurrent
        have spared := @Committed.spared_commit _ _ log.isCommitted gen sess body now staged staging
        exact log.transfer spared.1 spared.2
    · intro alt memberOther none
      rcases mem_put.mp memberOther with rfl | ⟨pre, _⟩
      · cases none
      · exact inv.unlogged alt pre none

end

def Db.log (db : Db) (sess : Session) : List Chunk :=
  match sess.eventGenerationId with
  | none => []
  | some genId => db.chunksOf genId

lemma log_eq {db : Db} {sess : Session} {genId}
    (cur : sess.eventGenerationId = some genId) : db.log sess = db.chunksOf genId := by
  unfold Db.log
  rw [cur]

inductive LogStep (db after : Db) (executes : Request → Progress → Prop)
    (sess : Session) : Session → Prop
  | same (key : String) (log : after.log sess = db.log sess) :
      LogStep db after executes sess { sess with originProfileKey := key }
  | extended (req : EventAppend) (chunk : Chunk) (grows : sess.eventCount < req.finalCount)
      (log : after.log (sess.appended req) = db.log sess ++ [chunk]) :
      LogStep db after executes sess (sess.appended req)
  | replaced (body : CommitRequest) (ran : executes (.commit body) .received)
      (cur : sess.head = body.base) (gen : Generation)
      (was : db.generations.get body.generationId = some gen)
      (staging : gen.status = .staging) :
      LogStep db after executes sess (sess.committed body)

structure WorldSound (adapter : EventAdapter) (ups : List Bytes) (w : World) : Prop where
  store : StoreSound adapter ups w
  db : DbSound w.db
  unused : ∀ genId, w.locked genId = true → Unused w.db genId

section
variable {adapter : EventAdapter} {w : World} {executes : Request → Progress → Prop} {deletes : Uuid → Prop} {db : Db}

lemma same_log {sess} (inv : DbSound w.db) (mem : sess ∈ w.db.sessions)
    (spares : ∀ genId, sess.eventGenerationId = some genId → LogSound w.db sess genId → Spares w.db db genId) :
    LogStep w.db db executes sess sess := by
  refine LogStep.same sess.originProfileKey ?_
  cases cur : sess.eventGenerationId with
  | none => simp only [Db.log, cur]
  | some genId =>
    rw [log_eq cur, log_eq cur]
    exact (spares genId cur (inv.logs sess mem genId cur)).2

lemma Change.logStep (change : Change adapter w executes deletes db) (inv : DbSound w.db)
    (chunks : ∀ chunk ∈ w.db.chunks, Stored adapter w.issued chunk)
    (unused : ∀ genId, w.locked genId = true → Unused w.db genId) {sess} (mem : sess ∈ w.db.sessions) :
    ∃ later, db.sessions.get sess.id = some later ∧ LogStep w.db db executes sess later := by
  have hit : w.db.sessions.get sess.id = some sess := get_key mem
  cases change with
  | unchanged | suppressed => exact ⟨sess, hit, .same sess.originProfileKey rfl⟩
  | moved move =>
    refine ⟨move.session sess, ?_, .same _ rfl⟩
    rw [get_moveProfile, hit, Option.map_some]
  | created alt new gone fresh =>
    have apart : alt.id ≠ sess.id := fun same => by
      rw [same, hit] at gone
      cases gone
    exact ⟨sess, (get_put_of_ne _ apart).trans hit, .same sess.originProfileKey rfl⟩
  | staged alt body now gone => exact ⟨sess, hit, same_log inv mem fun _ _ log => log.isCommitted.spared_stage gone⟩
  | touched gen now was staging => exact ⟨sess, hit, same_log inv mem fun _ _ _ => spares_touch now was⟩
  | uploaded gen chunk now was staging own obj =>
    exact ⟨sess, hit, same_log inv mem fun _ _ log =>
      log.isCommitted.spared_upload now was staging own⟩
  | deleted genId locked ran =>
    refine ⟨sess, hit, same_log inv mem ?_⟩
    intro alt cur _
    apply spares_delete
    rintro rfl
    exact unused genId locked sess mem cur
  | appended tgt req chunk was cur own src goal gone obj key ran =>
    have here : tgt.eventGenerationId = some req.generation := Session.current_generation cur
    have memberTarget : tgt ∈ w.db.sessions := (get_eq_some.mp was).1
    have logTarget := inv.logs tgt memberTarget _ here
    by_cases same : tgt.id = sess.id
    · rw [same, hit] at was
      cases was
      refine ⟨sess.appended req, get_put_self _ _, .extended req chunk ?_ ?_⟩
      · have start : chunk.startSeq = req.baseCount := congrArg Prod.fst src
        have stop : chunk.endSeq + 1 = req.finalCount := congrArg Prod.fst goal
        have count : sess.eventCount = req.baseCount := congrArg EventHead.count cur
        have grows := obj.grows
        omega
      · rw [log_eq here, log_eq (show (sess.appended req).eventGenerationId = _ from here)]
        exact appendChunk_chunksOf logTarget chunks cur own src gone
    · refine ⟨sess, (get_put_of_ne _ (by exact same)).trans hit, same_log inv mem ?_⟩
      intro genId isCurrent log
      apply spares_append own
      intro sameGeneration
      rw [← sameGeneration] at log
      have unique : tgt = sess := logTarget.session_unique log memberTarget mem
      exact same (congrArg Session.id unique)
  | committed tgt gen body now was staged staging own named free cur tiled ran =>
    by_cases same : tgt.id = sess.id
    · rw [same, hit] at was
      cases was
      rw [← named] at staged
      exact ⟨sess.committed body, get_put_self _ _, .replaced body ran cur gen staged staging⟩
    · refine ⟨sess, (get_put_of_ne _ (by exact same)).trans hit, same_log inv mem ?_⟩
      intro genId _ log
      exact log.isCommitted.spared_commit now staged staging

lemma Change.keepsUnused (change : Change adapter w executes deletes db) {genId}
    (locked : w.locked genId = true) (unused : Unused w.db genId) : Unused db genId := by
  cases change with
  | unchanged | suppressed | staged | touched | uploaded | deleted => exact unused
  | moved move =>
    intro alt mem
    obtain ⟨sess, was, rfl⟩ := mem_moveProfile.mp mem
    exact unused sess was
  | created sess new gone fresh =>
    intro alt mem
    rcases mem_put.mp mem with rfl | ⟨pre, _⟩
    · rw [new.generation]
      exact Option.some_ne_none _ ∘ Eq.symm
    · exact unused alt pre
  | appended sess req chunk was cur own src tgt gone obj key ran =>
    intro alt mem
    rcases mem_put.mp mem with rfl | ⟨pre, _⟩
    · exact unused sess (get_eq_some.mp was).1
    · exact unused alt pre
  | committed sess gen body now was staged staging own named free cur tiled ran =>
    intro alt mem
    rcases mem_put.mp mem with rfl | ⟨pre, _⟩
    · intro same
      have isCommitted : body.generationId = genId := Option.some.inj same
      rw [← isCommitted, named, free] at locked
      cases locked
    · exact unused alt pre

lemma CallStep.locked {call after} (step : CallStep adapter w call after)
    (genId : Uuid) : after.locked genId = w.locked genId := by
  cases step with
  | waits | refused | reads | writes | sends | stores => rfl

lemma locked_of_unlock {genId alt cleanings}
    (locked : ({ w with cleanings := cleanings } : World).locked genId = true)
    (inside : ∀ cleaning ∈ cleanings, cleaning.generationId = alt ∨ cleaning ∈ w.cleanings)
    (held : w.locked alt = true) : w.locked genId = true := by
  obtain ⟨cleaning, mem, same⟩ := locked_iff.mp locked
  rcases inside cleaning mem with isOther | pre
  · rw [← same, isOther]
    exact held
  · exact locked_iff.mpr ⟨cleaning, pre, same⟩

lemma mem_unlock {genId cleaning} (mem : cleaning ∈ w.unlock genId) : cleaning ∈ w.cleanings :=
  List.mem_of_mem_filter mem

variable {ups : List Bytes}

lemma step_locked (inv : StoreSound adapter ups w) (act : Action) {genId}
    (locked : (step adapter w act).locked genId = true) : w.locked genId = true ∨
      ∃ shared now gen, act = .startCleaning genId shared now ∧
        w.db.generations.get genId = some gen ∧ deletable gen shared now w.db = true := by
  cases act with
  | createSession sess =>
    rw [step, createSession] at locked
    split at locked <;> exact .inl locked
  | suppress row | moveProfile move => exact .inl locked
  | receive | abandon =>
    rw [step] at locked
    split at locked <;> exact .inl locked
  | advance id now =>
    rw [step] at locked
    cases hit : w.calls.get id with
    | none => rw [hit] at locked; exact .inl locked
    | some call =>
      simp only [hit] at locked
      have call_sound := inv.calls call (get_eq_some.mp hit).1
      rw [CallStep.locked (advance_step call_sound)] at locked
      exact .inl locked
  | startCleaning alt shared now =>
    rw [step, startCleaning] at locked
    split at locked
    · exact .inl locked
    · rename_i gen was
      split at locked
      · exact .inl locked
      · rename_i free
        rw [Bool.or_eq_true, not_or, Bool.not_eq_true', Bool.not_eq_false] at free
        obtain ⟨cleaning, mem, same⟩ := locked_iff.mp locked
        rcases List.mem_cons.mp mem with rfl | pre
        · subst same
          exact .inr ⟨shared, now, gen, rfl, was, free.2⟩
        · exact .inl (locked_iff.mpr ⟨cleaning, pre, same⟩)
  | deleteNextFile alt =>
    rw [step, deleteNextFile] at locked
    split at locked
    · rename_i key keys hit
      have held := locked_iff.mpr ⟨_, cleaning_found hit⟩
      refine Or.inl (locked_of_unlock locked ?_ held)
      intro cleaning mem
      rcases List.mem_cons.mp mem with rfl | pre
      · exact .inl rfl
      · exact .inr (mem_unlock pre)
    · exact .inl locked
  | finishCleaning alt =>
    rw [step, finishCleaning] at locked
    split at locked
    · rename_i hit
      have held := locked_iff.mpr ⟨_, cleaning_found hit⟩
      exact .inl (locked_of_unlock locked (fun cleaning mem => .inr (mem_unlock mem)) held)
    · exact .inl locked
  | failCleaning alt =>
    obtain ⟨cleaning, mem, same⟩ := locked_iff.mp locked
    exact .inl (locked_iff.mpr ⟨cleaning, mem_unlock mem, same⟩)
  | performLate idx =>
    rw [step] at locked
    split at locked
    · exact .inl locked
    · rename_i req _
      cases req with
      | put key data => exact .inl locked
      | delete key => exact .inl locked

lemma deletable_unused {shared now gen} {genId} (inv : DbSound w.db) (was : w.db.generations.get genId = some gen)
    (deletable : deletable gen shared now w.db = true) : Unused w.db genId := by
  intro sess mem cur
  have log := inv.logs sess mem genId cur
  obtain ⟨row, hit, _, own⟩ := log.committed
  rw [was] at hit
  cases hit
  have owner : w.db.sessions.get gen.sessionId = some sess := by
    rw [own]
    exact get_key mem
  have named : gen.id = genId := (get_eq_some.mp was).2
  unfold SessionEvents.deletable at deletable
  simp [owner, cur, named] at deletable

lemma WorldSound.empty : WorldSound adapter ups World.empty where
  store := .empty
  db := by
    refine ⟨?_, ?_⟩
    · intro sess mem
      exact absurd mem (not_mem_empty sess)
    · intro sess mem
      exact absurd mem (not_mem_empty sess)
  unused := by
    intro genId locked
    cases locked

lemma WorldSound.step {ups} (inv : WorldSound adapter ups w)
    {act : Action} (known : ∀ data ∈ act.uploads, data ∈ ups) :
    WorldSound adapter ups (SessionEvents.step adapter w act) := by
  have change := step_change inv.store act
  refine ⟨inv.store.step known, change.sound inv.db inv.store.chunks inv.unused, ?_⟩
  intro genId locked
  rcases step_locked inv.store act locked with pre | ⟨shared, now, gen, rfl, was, holds⟩
  · exact change.keepsUnused pre (inv.unused genId pre)
  · have same : (SessionEvents.step adapter w (.startCleaning genId shared now)).db =
        w.db := startCleaning_db genId shared now
    rw [same]
    exact deletable_unused inv.db was holds

end
end Clawdi.SessionEvents
