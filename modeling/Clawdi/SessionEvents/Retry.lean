import Clawdi.SessionEvents.LogIntegrity
import Clawdi.SessionEvents.Rows

namespace Clawdi.SessionEvents
open Transition Table

structure Followed (fresh : Prop) (db : Db) (sess : Session) (genId : Uuid)
    (head : EventHead) : Prop where
  named : head.generation = some genId
  owner : fresh → ∀ row, db.generations.get genId = some row → row.status = .committed ∧ row.sessionId = sess.id
  place : sess.head = head ∨ head.revision < sess.eventRevision ∧
    (fresh → sess.eventGenerationId = some genId → head.count < sess.eventCount)

def Filed (profileKey : Option String) (sess : Session) : Prop := ∀ key ∈ profileKey, sess.originProfileKey = key
lemma not_given {sess : Session} : Filed none sess := fun key given => absurd given (Option.not_mem_none key)

lemma Addressed.unfiled {auth lsid envId profileKey sess} (addressed : Addressed auth lsid envId profileKey sess) :
    Addressed auth lsid envId none sess :=
  ⟨addressed.user, addressed.localId, addressed.environment, not_given⟩

structure AppendSettled (adapter : EventAdapter) (db : Db) (auth : Auth) (req : EventAppend)
    (sess : Session) (resp : AppendResponse) : Prop where
  valid : ∃ validated, req.validate adapter = .ok validated
  addressed : Addressed auth req.localSessionId req.environmentId none sess
  bound : auth.foreign (some req.environmentId) = false
  generation : resp.generation = req.generation
  count : resp.count = req.finalCount
  headHash : resp.headHash = req.finalHeadHash
  receipts : sess.head = resp.head → ∀ rcpt, db.receipts.get (sess.id, req.appendId) = some rcpt →
      rcpt.Matches req ∧ rcpt.head = resp.head

structure CommitSettled (fresh : Prop) (db : Db) (auth : Auth) (body : CommitRequest)
    (sess : Session) (resp : AppendResponse) : Prop where
  permitted : CommitPermitted auth { body with profileKey := none } sess
  answer : resp = ⟨body.generationId, body.base.revision + 1, body.finalCount, body.finalHeadHash⟩
  declared : fresh ∨ sess.head = resp.head → ∀ row, db.generations.get body.generationId = some row →
      Declared row body.appendId body.base body.finalCount body.finalHeadHash

inductive Settled (adapter : EventAdapter) (fresh : Prop) (db : Db) (auth : Auth) (sess : Session)
    (resp : AppendResponse) : Request → Prop
  | append (req : EventAppend)
      (done : AppendSettled adapter db auth req sess resp) :
      Settled adapter fresh db auth sess resp (.upload (.append req))
  | commit (body : CommitRequest) (done : CommitSettled fresh db auth body sess resp) :
      Settled adapter fresh db auth sess resp (.commit body)

section
variable {adapter : EventAdapter} {db : Db} {auth : Auth} {sess : Session}
  {resp : AppendResponse}

variable {body : CommitRequest} {gen : Generation} {req : EventAppend}

end

section
variable {adapter : EventAdapter} {uploads : List Bytes} {w : World}
  {executes : Request → Progress → Prop} {deletes : Uuid → Prop} {db : Db} {sess : Session}
  {fresh : Prop}

section
variable (change : Change adapter w executes deletes db)
include change

lemma Change.receipt (mem : sess ∈ w.db.sessions) {appendId}
    {rcpt} (hit : db.receipts.get (sess.id, appendId) = some rcpt) :
    w.db.receipts.get (sess.id, appendId) = some rcpt ∨ ∃ later, db.sessions.get sess.id = some later ∧
        later.eventRevision = sess.eventRevision + 1 := by
  cases change with
  | unchanged | created | suppressed | moved | staged | touched | uploaded | committed => exact .inl hit
  | deleted genId locked ran => exact .inl (get_of_get_remove hit).1
  | appended tgt req chunk stored cur own src goal absent obj key ran =>
    by_cases same : (appendReceipt tgt req).key = (sess.id, appendId)
    · have sameId : tgt.id = sess.id := congrArg Prod.fst same
      rw [sameId, get_key mem] at stored
      cases stored
      exact .inr ⟨sess.appended req, get_put_self _ _, rfl⟩
    · exact .inl ((get_put_of_ne _ same).symm.trans hit)

lemma Change.keepsOwner {genId sid} (unstaged : w.db.generations.get genId = none → db.generations.get genId = none)
    (owner : ∀ row, w.db.generations.get genId = some row → row.status = .committed ∧ row.sessionId = sid) :
    ∀ row, db.generations.get genId = some row → row.status = .committed ∧ row.sessionId = sid := by
  intro row hit
  rcases change.generation_row hit with absent | ⟨pre, stored, same, status⟩
  · rw [unstaged absent] at hit
    cases hit
  · obtain ⟨committed, own⟩ := owner pre stored
    refine ⟨?_, same.sessionId.trans own⟩
    rcases status with kept | staging
    · exact kept.trans committed
    · rw [committed] at staging
      cases staging

lemma Change.followed (inv : WorldSound adapter uploads w) (mem : sess ∈ w.db.sessions) {genId head}
    (unstaged : fresh → w.db.generations.get genId = none → db.generations.get genId = none)
    (followed : Followed fresh w.db sess genId head) :
    ∃ later ∈ db.sessions, later.SameIdentity sess ∧ Followed fresh db later genId head ∧
      (later.head = head → sess.head = head) := by
  obtain ⟨later, hit, logStep⟩ := change.logStep inv.db inv.store.chunks inv.unused mem
  have ident := logStep.sameIdentity
  have owner : fresh → ∀ row, db.generations.get genId = some row →
      row.status = .committed ∧ row.sessionId = later.id := by
    intro isFresh
    rw [ident.id]
    exact change.keepsOwner (unstaged isFresh) (followed.owner isFresh)
  have named := followed.named
  have notBefore : head.revision ≤ sess.eventRevision := by
    rcases followed.place with cur | gone
    · rw [← cur]
      rfl
    · exact Nat.le_of_lt gone.1
  refine ⟨later, (Table.get_eq_some.mp hit).1, ident, ?_⟩
  cases logStep with
  | same key log => exact ⟨⟨named, owner, followed.place⟩, id⟩
  | extended req chunk grows log =>
    have revised : (sess.appended req).eventRevision = sess.eventRevision + 1 := rfl
    refine ⟨⟨named, owner, .inr ⟨?_, ?_⟩⟩, ?_⟩
    · omega
    · intro isFresh cur
      have more : head.count ≤ sess.eventCount := by
        rcases followed.place with here | gone
        · rw [← here]
          rfl
        · exact Nat.le_of_lt (gone.2 isFresh cur)
      exact Nat.lt_of_le_of_lt more grows
    · intro here
      have rev : (sess.appended req).eventRevision = head.revision := congrArg EventHead.revision here
      omega
  | replaced body ran cur gen stored staging =>
    have revised : (sess.committed body).eventRevision = sess.eventRevision + 1 := rfl
    refine ⟨⟨named, owner, .inr ⟨?_, ?_⟩⟩, ?_⟩
    · omega
    · intro isFresh here
      have same : body.generationId = genId := Option.some.inj here
      rw [same] at stored
      have committed := (followed.owner isFresh gen stored).1
      rw [committed] at staging
      cases staging
    · intro here
      have rev : (sess.committed body).eventRevision = head.revision := congrArg EventHead.revision here
      omega

end

lemma Addressed.later {auth lsid envId} {later : Session} (same : later.SameIdentity sess)
    (addressed : Addressed auth lsid envId none sess) : Addressed auth lsid envId none later where
  user := same.userId.trans addressed.user
  localId := same.localSessionId.trans addressed.localId
  environment := same.originEnvironmentId.trans addressed.environment
  profile := not_given

lemma CommitPermitted.later {auth} {body : CommitRequest} {later : Session} (same : later.SameIdentity sess)
    (permitted : CommitPermitted auth { body with profileKey := none } sess) :
    CommitPermitted auth { body with profileKey := none } later where
  user := same.userId.trans permitted.user
  localId := same.localSessionId.trans permitted.localId
  profile := not_given
  bound := by
    rw [same.originEnvironmentId]
    exact permitted.bound

lemma Change.settled (change : Change adapter w executes deletes db)
    (inv : WorldSound adapter uploads w) (mem : sess ∈ w.db.sessions) {auth req} {resp : AppendResponse}
    (unstaged : fresh → w.db.generations.get resp.generation = none → db.generations.get resp.generation = none)
    (followed : Followed fresh w.db sess resp.generation resp.head)
    (done : Settled adapter fresh w.db auth sess resp req) :
    ∃ later ∈ db.sessions, Followed fresh db later resp.generation resp.head ∧
      Settled adapter fresh db auth later resp req := by
  obtain ⟨later, memberLater, same, followedLater, stays⟩ := change.followed inv mem unstaged followed
  refine ⟨later, memberLater, followedLater, ?_⟩
  cases done with
  | append req done =>
    refine .append req ⟨done.valid, done.addressed.later same, done.bound,
      done.generation, done.count, done.headHash, ?_⟩
    intro cur rcpt hit
    rw [same.id] at hit
    rcases change.receipt mem hit with pre | ⟨row, stored, revised⟩
    · exact done.receipts (stays cur) rcpt pre
    · rw [← same.id, get_key memberLater] at stored
      cases stored
      have rev : later.eventRevision = sess.eventRevision :=
        congrArg EventHead.revision (cur.trans (stays cur).symm)
      omega
  | commit body done =>
    refine .commit body ⟨done.permitted.later same, done.answer, ?_⟩
    intro unchanged row hit
    have named : resp.generation = body.generationId := by rw [done.answer]
    have unchangedBefore : fresh ∨ sess.head = resp.head := by exact unchanged.imp_right stays
    rcases change.generation_row hit with absent | ⟨pre, stored, sameRow, _⟩
    · rw [named] at unstaged
      rcases unchangedBefore with isFresh | cur
      · rw [unstaged isFresh absent] at hit
        cases hit
      · have here : sess.eventGenerationId = some body.generationId := by
          rw [← named]
          exact congrArg EventHead.generation cur
        obtain ⟨row, stored, _⟩ := (inv.db.logs sess mem _ here).committed
        rw [absent] at stored
        cases stored
    · exact sameRow.declared (done.declared unchangedBefore pre stored)

end

section
variable {adapter : EventAdapter} {uploads : List Bytes} {w : World} {call : Call} {db : Db}
  {resp : AppendResponse} {fresh : Prop}

lemma followed_current (inv : DbSound db) {sess} (mem : sess ∈ db.sessions)
    (cur : sess.head = resp.head) : Followed fresh db sess resp.generation resp.head where
  named := rfl
  owner := by
    intro _ row hit
    have log := inv.logs sess mem _ (congrArg EventHead.generation cur)
    obtain ⟨gen, stored, committed, own⟩ := log.committed
    rw [stored] at hit
    cases hit
    exact ⟨committed, own⟩
  place := Or.inl cur

lemma append_settled (inv : DbSound db) {req : EventAppend} {validated uploadedKey now auth}
    (valid : req.validate adapter = .ok validated)
    (ok : appendSessionEvents auth req validated uploadedKey now w.db = .ok (.answer resp db)) :
    ∃ sess ∈ db.sessions, sess.head = resp.head ∧ AppendSettled adapter db auth req sess resp := by
  have bound : auth.foreign (some req.environmentId) = false := by
    unfold appendSessionEvents at ok
    rw [bind_eq_ok] at ok
    obtain ⟨sess, owned, _⟩ := ok
    exact ownedSessionByLocal_bound owned
  obtain ⟨sess, stored, addressed, res⟩ := appendSessionEvents_cases ok
  cases res with
  | known _ acknowledged receipted =>
    refine ⟨sess, (Table.get_eq_some.mp stored).1, acknowledged.held.symm, ⟨validated, valid⟩,
      addressed.unfiled, bound, acknowledged.generation, acknowledged.count, acknowledged.headHash, ?_⟩
    intro _ rcpt hit
    obtain ⟨same, head⟩ := receipted rcpt hit
    exact ⟨same, head.symm.trans acknowledged.held.symm⟩
  | appended gen cur staged committed unreceipted absent uploaded =>
    have here : sess.eventGenerationId = some req.generation := Session.current_generation cur
    refine ⟨sess.appended req, mem_put_self _ _, ?_, ⟨validated, valid⟩,
      ⟨addressed.user, addressed.localId, addressed.environment, not_given⟩, bound, rfl, rfl,
      rfl, ?_⟩
    · simp only [Session.head, AppendResponse.head, Session.appended, currentHead, here, Option.getD_some]
    · intro _ rcpt hit
      have put : (some (appendReceipt sess req)) = some rcpt := (get_put_self _ _).symm.trans hit
      cases put
      exact ⟨⟨rfl, rfl, rfl, rfl, rfl, rfl, rfl⟩, rfl⟩

lemma commit_settled (inv : DbSound db) {body now auth}
    (ok : commitSessionEventGeneration auth body now w.db = .ok (resp, db)) :
    ∃ sess ∈ db.sessions, sess.head = resp.head ∧ CommitSettled fresh db auth body sess resp := by
  obtain ⟨gen, sess, stored, declared, owner, permitted, res⟩ := commitSessionEventGeneration_cases ok
  have named : gen.id = body.generationId := (Table.get_eq_some.mp stored).2
  cases res with
  | known committed cur =>
    refine ⟨sess, (Table.get_eq_some.mp owner).1, ?_,
      ⟨permitted.user, permitted.localId, not_given, permitted.bound⟩, ?_, ?_⟩
    · rw [cur, committedHead, named]
      rfl
    · rw [declared.base, declared.finalCount, declared.finalHeadHash]
    · intro _ row hit
      rw [stored] at hit
      cases hit
      exact declared
  | committed staging cur tiled =>
    have rev : sess.eventRevision = body.base.revision := congrArg EventHead.revision cur
    refine ⟨sess.committed body, mem_put_self _ _, rfl,
      ⟨permitted.user, permitted.localId, not_given, permitted.bound⟩, ?_, ?_⟩
    · rw [rev]
    · intro _ row hit
      have key : ({ gen with status := .committed } : Generation).id = body.generationId := named
      have put := (get_put_of_eq _ key).symm.trans hit
      cases put
      exact ⟨declared.appendId, declared.base, declared.finalCount, declared.finalHeadHash⟩

lemma Grounds.settled (grounds : Grounds adapter w call (.appended resp) db) (inv : DbSound db) :
    ∃ sess ∈ db.sessions, Followed fresh db sess resp.generation resp.head ∧
      Settled adapter fresh db call.auth sess resp call.request := by
  cases grounds with
  | append req validated uploadedKey now _ _ asked valid ok =>
    obtain ⟨sess, mem, cur, done⟩ := append_settled inv valid ok
    rw [asked]
    exact ⟨sess, mem, followed_current inv mem cur, .append req done⟩
  | commit body now _ _ asked ok =>
    obtain ⟨sess, mem, cur, done⟩ := commit_settled inv ok
    rw [asked]
    exact ⟨sess, mem, followed_current inv mem cur, .commit body done⟩

end

section
variable {adapter : EventAdapter} {uploads : List Bytes} {w : World}

end

def Call.again (call : Call) (id : Nat) : Call := ⟨id, call.auth, call.request, .received⟩

def Request.profileKey : Request → Option String
  | .head query => query.profileKey
  | .stage body => body.profileKey
  | .upload (.append req) => req.profileKey
  | .commit body => body.profileKey
  | _ => none

section
variable {adapter : EventAdapter} {uploads : List Bytes} {fresh : Prop} {w : World}
  {sess : Session} {resp : AppendResponse}

end

namespace Sample

def replace (base : EventHead) : GenerationCreate :=
  { stage with generation := "generation-2", appendId := "append-3", base := base }

def appendedHead : EventHead := ⟨some "generation-1", 2, 1, advanceEventHead EMPTY_EVENT_HEAD [hello]⟩
def replacedHead : EventHead := ⟨some "generation-2", 3, 0, EMPTY_EVENT_HEAD⟩

def restage : GenerationCreate :=
  { stage with appendId := "append-4", base := replacedHead, finalCount := 1,
               finalHeadHash := appendedHead.headHash }

def chunk : ChunkUpload where
  localSessionId := "local-1"
  generationId := "generation-1"
  startSeq := 0
  baseHeadHash := EMPTY_EVENT_HEAD
  contentHash := sha256 data
  data := data

end Sample

open Sample

def acknowledgement (w : World) (id : Nat) : Option (Except Nat Nat) :=
  match w.calls.get id with
  | some ⟨_, _, _, .answered (.ok (.appended resp))⟩ => some (.ok resp.revision)
  | some ⟨_, _, _, .answered (.error err)⟩ => some (.error err.status)
  | _ => none

lemma acknowledged {w} {id rev : Nat} (acknowledged : acknowledgement w id = some (.ok rev)) :
    ∃ call ∈ w.calls, ∃ resp, call.progress = .answered (.ok (.appended resp)) ∧ resp.revision = rev := by
  unfold acknowledgement at acknowledged
  split at acknowledged
  · rename_i callId auth req resp hit
    cases acknowledged
    exact ⟨_, (Table.get_eq_some.mp hit).1, resp, rfl, rfl⟩
  · cases acknowledged
  · cases acknowledged

def Request.isCommit : Request → Bool
  | .commit _ => true
  | _ => false

end Clawdi.SessionEvents
