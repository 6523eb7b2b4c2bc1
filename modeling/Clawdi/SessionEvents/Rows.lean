import Clawdi.SessionEvents.Integrity

namespace Clawdi.SessionEvents
open Transition Table

def OriginUnique (db : Db) : Prop := ∀ one ∈ db.sessions, ∀ alt ∈ db.sessions, one.SameOrigin alt → one = alt

def Receipted (db : Db) : Prop :=
  ∀ rcpt ∈ db.receipts, ∃ chunk, db.chunks.get (rcpt.generationId, rcpt.baseCount) = some chunk

structure Session.SameIdentity (later sess : Session) : Prop where
  id : later.id = sess.id
  userId : later.userId = sess.userId
  originEnvironmentId : later.originEnvironmentId = sess.originEnvironmentId
  localSessionId : later.localSessionId = sess.localSessionId

lemma Session.SameIdentity.refl (sess : Session) : sess.SameIdentity sess := ⟨rfl, rfl, rfl, rfl⟩

lemma Session.SameIdentity.origin {one alt first snd : Session}
    (same : one.SameIdentity first) (sameOther : alt.SameIdentity snd)
    (collide : one.SameOrigin alt) : first.SameOrigin snd := by
  obtain ⟨user, known, env, localId⟩ := collide
  rw [same.userId, sameOther.userId] at user
  rw [same.originEnvironmentId] at known env
  rw [sameOther.originEnvironmentId] at env
  rw [same.localSessionId, sameOther.localSessionId] at localId
  exact ⟨user, known, env, localId⟩

structure Generation.SameIdentity (later gen : Generation) : Prop where
  id : later.id = gen.id
  sessionId : later.sessionId = gen.sessionId
  appendId : later.appendId = gen.appendId
  base : later.base = gen.base
  finalCount : later.finalCount = gen.finalCount
  finalHeadHash : later.finalHeadHash = gen.finalHeadHash

lemma Generation.SameIdentity.refl (gen : Generation) : gen.SameIdentity gen := ⟨rfl, rfl, rfl, rfl, rfl, rfl⟩

lemma Generation.SameIdentity.declared {later gen : Generation} {appendId}
    {base} {finalCount : Nat} {finalHeadHash} (same : later.SameIdentity gen)
    (declared : Declared gen appendId base finalCount finalHeadHash) :
    Declared later appendId base finalCount finalHeadHash where
  appendId := same.appendId.trans declared.appendId
  base := same.base.trans declared.base
  finalCount := same.finalCount.trans declared.finalCount
  finalHeadHash := same.finalHeadHash.trans declared.finalHeadHash

section
variable {auth : Auth} {db : Db} {sess : Session} {lsid : String} {envId : Uuid}
  {profileKey : Option String}

lemma ownedSessionByLocal_bound (owned : ownedSessionByLocal auth lsid envId profileKey db = .ok sess) :
    auth.foreign (some envId) = false := by
  unfold ownedSessionByLocal at owned
  rw [bind_eq_ok] at owned
  obtain ⟨_, bound, _⟩ := owned
  rw [raiseIf_eq_ok, Bool.not_eq_true] at bound
  exact bound

end

section
variable {adapter : EventAdapter} {w : World} {executes : Request → Progress → Prop}
  {deletes : Uuid → Prop} {db : Db}

lemma LogStep.sameIdentity {sess later} (step : LogStep w.db db executes sess later) : later.SameIdentity sess := by
  cases step with
  | same | extended | replaced => exact ⟨rfl, rfl, rfl, rfl⟩

lemma supersede_row {prev committed genId now}
    {row} (hit : (supersede prev committed now db).get genId = some row) :
    ∃ pre, db.generations.get genId = some pre ∧ row.SameIdentity pre ∧ row.status = pre.status := by
  unfold supersede at hit
  split at hit
  · exact ⟨row, hit, .refl row, rfl⟩
  · split at hit
    · exact ⟨row, hit, .refl row, rfl⟩
    · split at hit
      · exact ⟨row, hit, .refl row, rfl⟩
      · rename_i alt stored
        split at hit
        · have named := (get_eq_some.mp stored).2
          rw [get_put] at hit
          split at hit
          · rename_i same
            cases hit
            rw [← named, show alt.id = genId from same] at stored
            exact ⟨alt, stored, ⟨rfl, rfl, rfl, rfl, rfl, rfl⟩, rfl⟩
          · exact ⟨row, hit, .refl row, rfl⟩
        · exact ⟨row, hit, .refl row, rfl⟩

lemma Change.generation_row (change : Change adapter w executes deletes db)
    {genId row} (hit : db.generations.get genId = some row) : w.db.generations.get genId = none ∨
      ∃ pre, w.db.generations.get genId = some pre ∧ row.SameIdentity pre ∧
        (row.status = pre.status ∨ pre.status = .staging) := by
  have kept : w.db.generations.get genId = some row → w.db.generations.get genId = none ∨
      ∃ pre, w.db.generations.get genId = some pre ∧ row.SameIdentity pre ∧
        (row.status = pre.status ∨ pre.status = .staging) :=
    fun stored => .inr ⟨row, stored, .refl row, .inl rfl⟩
  have touched : ∀ (gen : Generation) (now : Time), w.db.generations.get gen.id = some gen →
      (w.db.touch gen now).generations.get genId = some row →
      w.db.generations.get genId = none ∨
      ∃ pre, w.db.generations.get genId = some pre ∧ row.SameIdentity pre ∧
        (row.status = pre.status ∨ pre.status = .staging) := by
    intro gen now stored touchedRow
    have put := (get_put _ _ _).symm.trans touchedRow
    split at put
    · rename_i same
      cases put
      rw [show gen.id = genId from same] at stored
      exact .inr ⟨gen, stored, ⟨rfl, rfl, rfl, rfl, rfl, rfl⟩, .inl rfl⟩
    · exact kept put
  cases change with
  | unchanged | created | suppressed | moved | appended => exact kept hit
  | staged sess body now gone =>
    have put := (get_put _ _ _).symm.trans hit
    split at put
    · rename_i same
      rw [show body.generation = genId from same] at gone
      exact .inl gone
    · exact kept put
  | touched gen now stored | uploaded gen _ now stored => exact touched gen now stored hit
  | committed sess gen body now stored staged staging own named free cur tiled ran =>
    have put := (get_put _ _ _).symm.trans hit
    split at put
    · rename_i same
      cases put
      rw [show gen.id = genId from same] at staged
      exact .inr ⟨gen, staged, ⟨rfl, rfl, rfl, rfl, rfl, rfl⟩, .inr staging⟩
    · obtain ⟨pre, was, same, status⟩ := supersede_row put
      exact .inr ⟨pre, was, same, .inl status⟩
  | deleted alt locked ran => exact kept (get_of_get_remove hit).1

lemma originUnique_put (unique : OriginUnique db) {sess later : Session}
    (mem : sess ∈ db.sessions) (same : later.SameIdentity sess) :
    OriginUnique { db with sessions := db.sessions.put later } := by
  have pre : ∀ row ∈ db.sessions.put later, ∃ was ∈ db.sessions, row.SameIdentity was ∧
      (row = later ∧ was = sess ∨ row = was ∧ row.id ≠ later.id) := by
    intro row inside
    rcases mem_put.mp inside with rfl | ⟨inside, apart⟩
    · exact ⟨sess, mem, same, .inl ⟨rfl, rfl⟩⟩
    · exact ⟨row, inside, .refl row, .inr ⟨rfl, apart⟩⟩
  intro one memberOne alt memberOther collide
  obtain ⟨wasOne, insideOne, sameOne, placeOne⟩ := pre one memberOne
  obtain ⟨wasOther, insideOther, sameOther, placeOther⟩ := pre alt memberOther
  have equal : wasOne = wasOther := unique wasOne insideOne wasOther insideOther (sameOne.origin sameOther collide)
  rcases placeOne with ⟨rfl, rfl⟩ | ⟨rfl, apartOne⟩
  · rcases placeOther with ⟨rfl, _⟩ | ⟨rfl, apartOther⟩
    · rfl
    · exact absurd (equal ▸ same.id.symm) apartOther
  · rcases placeOther with ⟨rfl, rfl⟩ | ⟨rfl, _⟩
    · exact absurd (equal ▸ same.id.symm) apartOne
    · exact equal

lemma Change.originUnique (change : Change adapter w executes deletes db)
    (unique : OriginUnique w.db) : OriginUnique db := by
  cases change with
  | unchanged | suppressed | staged | touched | uploaded | deleted => exact unique
  | moved move =>
    intro one memberOne alt memberOther collide
    obtain ⟨was, insideOne, rfl⟩ := mem_moveProfile.mp memberOne
    obtain ⟨wasOther, insideOther, rfl⟩ := mem_moveProfile.mp memberOther
    rw [unique was insideOne wasOther insideOther collide]
  | created sess new gone fresh =>
    intro one memberOne alt memberOther collide
    rcases mem_put.mp memberOne with rfl | ⟨insideOne, _⟩
    · rcases mem_put.mp memberOther with rfl | ⟨insideOther, _⟩
      · rfl
      · obtain ⟨user, known, env, localId⟩ := collide
        exact absurd ⟨user.symm, env ▸ known, env.symm, localId.symm⟩ (fresh alt insideOther)
    · rcases mem_put.mp memberOther with rfl | ⟨insideOther, _⟩
      · exact absurd collide (fresh one insideOne)
      · exact unique one insideOne alt insideOther collide
  | appended _ _ _ stored | committed _ _ _ _ stored =>
    exact originUnique_put unique (get_eq_some.mp stored).1 ⟨rfl, rfl, rfl, rfl⟩

lemma receipted_put {chunk} (receipted : Receipted db) : Receipted { db with chunks := db.chunks.put chunk } := by
  intro rcpt mem
  obtain ⟨alt, hit⟩ := receipted rcpt mem
  by_cases same : chunk.key = (rcpt.generationId, rcpt.baseCount)
  · exact ⟨chunk, get_put_of_eq _ same⟩
  · exact ⟨alt, (get_put_of_ne _ same).trans hit⟩

lemma Change.receipted (change : Change adapter w executes deletes db)
    (receipted : Receipted w.db) : Receipted db := by
  cases change with
  | unchanged | created | suppressed | moved | staged | touched | committed => exact receipted
  | uploaded gen chunk now stored staging own obj => exact @receipted_put w.db chunk receipted
  | appended sess req chunk stored cur own src =>
    intro rcpt mem
    rcases mem_put.mp mem with rfl | ⟨pre, _⟩
    · exact ⟨chunk, get_put_of_eq _ (Prod.ext own (congrArg Prod.fst src))⟩
    · exact @receipted_put w.db chunk receipted rcpt pre
  | deleted genId locked ran =>
    intro rcpt mem
    obtain ⟨inside, alt⟩ := mem_remove.mp mem
    obtain ⟨chunk, hit⟩ := receipted rcpt inside
    refine ⟨chunk, (get_remove ?_).trans hit⟩
    intro row _ same
    have own : row.generationId = rcpt.generationId := congrArg Prod.fst same
    rw [own]
    exact alt

end

structure RowsSound (db : Db) : Prop where
  unique : OriginUnique db
  receipted : Receipted db

lemma RowsSound.empty : RowsSound Db.empty where
  unique := fun one mem => absurd mem (not_mem_empty one)
  receipted := fun rcpt mem => absurd mem (not_mem_empty rcpt)

lemma RowsSound.step {adapter ups} {w : World}
    (rows : RowsSound w.db) (inv : StoreSound adapter ups w) (act : Action) :
    RowsSound (SessionEvents.step adapter w act).db where
  unique := (step_change inv act).originUnique rows.unique
  receipted := (step_change inv act).receipted rows.receipted

end Clawdi.SessionEvents
