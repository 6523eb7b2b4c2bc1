import Mathlib.Logic.Relation
import Clawdi.SkillSync.Convergence

namespace Clawdi.SkillSync
open List
open Serve (RetryQueue QueueItem QueueItemInput QueueDropReason Operation Line isValidSkillKey)

inductive QueueMove (allowed : QueueItemInput → Prop) (q : RetryQueue) : RetryQueue → Prop
  | enqueued (input : QueueItemInput) (proposed : allowed input) :
      QueueMove allowed q (q.enqueue input).queue
  | done (item : QueueItem) : QueueMove allowed q (q.markDoneIfVersion item).1
  | bumped (item : QueueItem) : QueueMove allowed q (q.bumpAttempts item)
  | dropped (reason : QueueDropReason) : QueueMove allowed q (q.recordDrop reason)

abbrev QueueMoves (allowed : QueueItemInput → Prop) : RetryQueue → RetryQueue → Prop :=
  Relation.ReflTransGen (QueueMove allowed)

lemma QueueMove.mono {allowed more : QueueItemInput → Prop} {q after}
    (move : QueueMove allowed q after) (weaker : ∀ input, allowed input → more input) : QueueMove more q after := by
  cases move with
  | enqueued input proposed => exact .enqueued input (weaker input proposed)
  | done item => exact .done item
  | bumped item => exact .bumped item
  | dropped reason => exact .dropped reason

def Covered (eng : Engine) (trusted : List String) (skillKey : String) : Prop :=
  eng.lastPushedHash.hash skillKey ≠ none ∨ eng.lock.claimsOf eng.opts skillKey ≠ [] ∨ skillKey ∈ trusted

def Proposed (eng : Engine) (trusted : List String) (input : QueueItemInput) : Prop :=
  match input.operation with
  | .skillPush skillKey aid pid newHash =>
    aid = eng.opts.environmentId ∧ pid = eng.projectId ∧ eng.home.skill skillKey = .present newHash
  | .skillDelete skillKey aid _ => aid = eng.opts.environmentId ∧ Covered eng trusted skillKey
  | .sessionPush .. => False

section
variable {eng : Engine} {trusted : List String} {skillKey enqueuedAt : String}
  {q after : RetryQueue}

lemma cleanup_moves : QueueMoves (Proposed eng trusted) q
    (enqueueMaterializedSkillClaimCleanup eng skillKey enqueuedAt q) := by
  by_cases unclaimed : eng.lock.claimsOf eng.opts skillKey = []
  · rw [cleanup_unclaimed unclaimed]
  · unfold enqueueMaterializedSkillClaimCleanup
    dsimp only
    split
    · exact .refl
    · split
      · exact .refl
      · exact .single (.enqueued _ ⟨rfl, .inr (.inl unclaimed)⟩)

lemma enqueueIfChanged_moves (ok : enqueueIfChanged eng skillKey enqueuedAt q = some after) :
    QueueMoves (Proposed eng trusted) q after := by
  unfold enqueueIfChanged at ok
  split at ok
  · cases ok
    exact .refl
  · split at ok
    · cases ok
      exact cleanup_moves
    · split at ok
      · cases pushed : eng.lastPushedHash.hash skillKey with
        | none =>
          rw [pushed] at ok
          cases ok
          exact .refl
        | some hash =>
          rw [pushed] at ok
          cases ok
          have covered : Covered eng trusted skillKey := Or.inl (by simp [pushed])
          exact .single (.enqueued _ ⟨rfl, covered⟩)
      · split at ok
        · rename_i hash here
          split at ok
          · cases ok
            exact .refl
          · cases ok
            exact .single (.enqueued _ ⟨rfl, rfl, here⟩)
        · cases ok

lemma absent_moves : QueueMoves (Proposed eng trusted) q
    (enqueueAbsentSkill eng trusted skillKey enqueuedAt q) := by
  unfold enqueueAbsentSkill
  split
  · rename_i covered
    split
    · exact .refl
    · exact .single (.enqueued _ ⟨rfl, covered⟩)
  · exact .refl

lemma reconcileSkill_moves (ok : reconcileSkill eng trusted skillKey enqueuedAt q = some after) :
    QueueMoves (Proposed eng trusted) q after := by
  unfold reconcileSkill at ok
  split at ok
  · cases ok
    exact cleanup_moves
  · split at ok
    · cases ok
      exact absent_moves
    · split at ok
      · cases ok
        exact absent_moves
      · cases ok
      · rename_i hash here
        dsimp only at ok
        split at ok
        · cases ok
          exact .refl
        · cases ok
          exact .single (.enqueued _ ⟨rfl, rfl, here⟩)

lemma reconcileKeys_moves (keys : List String) (q : RetryQueue) :
    QueueMoves (Proposed eng trusted) q (reconcileKeys eng trusted enqueuedAt keys q).1 := by
  induction keys generalizing q with
  | nil => exact .refl
  | cons skillKey keys ih =>
    unfold reconcileKeys
    cases turn : reconcileSkill eng trusted skillKey enqueuedAt q with
    | none => exact .refl
    | some after => exact (reconcileSkill_moves turn).trans (ih after)

end

def Action.trusted : Action → List String
  | .reconcile trusted _ => trusted
  | _ => []

def Action.reloads : Action → Bool
  | .restart .. => true
  | _ => false

section
variable {allowed : QueueItemInput → Prop} {q after : RetryQueue}

lemma evictLoop_maxItems (item : QueueItem) (passes : Nat) (q : RetryQueue) :
    (RetryQueue.evictLoop item passes q).1.maxItems = q.maxItems := by
  induction passes generalizing q with
  | zero => rfl
  | succ passes ih =>
    unfold RetryQueue.evictLoop
    split
    · split
      · rfl
      · exact ih _
    · rfl

lemma Ready.moved (ready : Ready q) (move : QueueMove allowed q after) : Ready after := by
  cases move with
  | enqueued input proposed =>
    exact ⟨enqueue_skills q input ready.distinct, (evictLoop_maxItems _ _ (q.placed _)).symm ▸ ready.room⟩
  | done item =>
    refine ⟨markDone_skills q item ready.distinct, ?_⟩
    rcases q.markDone_cases item with kept | ⟨_, _, _, done⟩
    · rw [kept]
      exact ready.room
    · rw [done]
      exact ready.room
  | bumped item =>
    refine ⟨bumpAttempts_skills q item ready.distinct, ?_⟩
    rcases q.bumpAttempts_cases item with kept | ⟨_, _, _, bumped⟩
    · rw [kept]
      exact ready.room
    · rw [bumped]
      exact ready.room
  | dropped reason => exact ⟨ready.distinct, ready.room⟩

lemma Ready.moves (ready : Ready q) (moves : QueueMoves allowed q after) : Ready after := by
  induction moves with
  | refl => exact ready
  | tail _ move ih => exact ih.moved move

lemma loadLines_maxItems (lines : List Line) (q : RetryQueue) :
    (lines.foldl RetryQueue.loadLine q).maxItems = q.maxItems := by
  induction lines generalizing q with
  | nil => rfl
  | cons line lines ih =>
    rw [foldl_cons, ih]
    unfold RetryQueue.loadLine
    split <;> rfl

lemma Ready.load (ready : Ready q) (file : Option (List Line)) : Ready (q.load file) := by
  refine ⟨load_skills q file, ?_⟩
  cases file with
  | none => exact ready.room
  | some lines =>
    show 0 < (lines.foldl RetryQueue.loadLine { q with items := [] }).maxItems
    rw [loadLines_maxItems]
    exact ready.room

lemma operation_moves (moves : QueueMoves allowed q after) {item}
    (mem : item ∈ after.items) : (∃ pre ∈ q.items, pre.operation = item.operation) ∨
      ∃ input, allowed input ∧ input.operation.operation = item.operation := by
  induction moves generalizing item with
  | refl => exact .inl ⟨item, mem, rfl⟩
  | @tail middle _ _ move ih =>
    cases move with
    | enqueued input proposed =>
      have placed := (RetryQueue.enqueue_evicts _ input).sublist.subset mem
      rcases mem_append.mp placed with earlier | last
      · exact ih (mem_of_mem_eraseP earlier)
      · rw [mem_singleton.mp last]
        exact .inr ⟨input, proposed, rfl⟩
    | done alt =>
      rcases middle.markDone_cases alt with kept | ⟨_, _, _, done⟩
      · rw [kept] at mem
        exact ih mem
      · rw [done] at mem
        exact ih (mem_of_mem_eraseP mem)
    | bumped alt =>
      rcases middle.bumpAttempts_cases alt with kept | ⟨cur, hit, _, bumped⟩
      · rw [kept] at mem
        exact ih mem
      · rw [bumped] at mem
        rcases mem_append.mp mem with earlier | last
        · exact ih (mem_of_mem_eraseP earlier)
        · have inMiddle : cur ∈ middle.items := mem_of_find?_eq_some hit
          have earlier := ih inMiddle
          rw [mem_singleton.mp last]
          exact earlier
    | dropped reason => exact ih mem

end

open Serve (RetryQueue QueueItem QueueItemInput Operation isValidSkillKey)

structure SkillItem.Describes (task : SkillItem) (opts : EngineOpts) : Prop where
  taken : task.taken.opts = opts
  operation : (task.isPush = true ∧ ∃ newHash, task.item.operation =
      .skillPush task.skillKey (some opts.environmentId) (some task.projectId) newHash) ∨
    (task.isPush = false ∧ task.item.operation =
      .skillDelete task.skillKey (some opts.environmentId) (some task.projectId))

def SkillItem.claims (task : SkillItem) : List SkillProjectionClaim :=
  task.taken.lock.claimsOf task.taken.opts task.skillKey

/-- The binding entitles to an upload; a held claim or the item's fence to a delete. -/
def Sent.Entitled (e : Sent) : Prop :=
  e.task.Describes e.engine.opts ∧
  match e.call with
  | .uploadAgentSkill aid pid skillKey _ =>
    aid = e.engine.opts.environmentId ∧ pid = e.engine.projectId ∧
      skillKey = e.task.skillKey ∧ e.task.isPush = true ∧ e.task.projectId = pid
  | .deleteAgentSkill aid skillKey pid =>
    aid = e.engine.opts.environmentId ∧ skillKey = e.task.skillKey ∧
      ((∃ claim ∈ e.task.claims, claim.projectId = pid) ∨ (e.task.projectId = pid ∧ (e.task.isPush = false ∨
          pid ≠ e.engine.projectId ∨ e.engine.home.reserved skillKey = true)))

def World.InFlight (w : World) (call : ApiCall) : Prop := ∃ e, w.sent.head? = some e ∧ e.call = call

def World.deleteCall (w : World) (task : SkillItem) (pid : String) : ApiCall :=
  .deleteAgentSkill w.engine.opts.environmentId task.skillKey pid

def World.Fits (w : World) (task : SkillItem) : Stage → Prop
  | .retireClaims claims => (∀ claim ∈ claims, claim ∈ task.claims) ∧
      ∃ claim, claims.head? = some claim ∧ w.InFlight (w.deleteCall task claim.projectId)
  | .retireStale projectIds => (∀ pid ∈ projectIds, ∃ claim ∈ task.claims,
      claim.projectId = pid) ∧
      ∃ pid, projectIds.head? = some pid ∧ w.InFlight (w.deleteCall task pid)
  | .handOver | .remove | .release => w.InFlight (w.deleteCall task task.projectId)
  | .firstSnapshot | .secondSnapshot _ => task.isPush = true ∧ task.projectId = w.engine.projectId
  | .upload _ => True

structure Busy (w : World) : Prop where
  describes : ∀ processing, w.processing = some processing → processing.task.Describes w.engine.opts
  fits : ∀ processing, w.processing = some processing → w.Fits processing.task processing.stage

lemma Busy.idle {w : World} (idle : w.processing = none) : Busy w := by
  constructor
  · intro processing busy
    cases idle.symm.trans busy
  · intro processing busy
    cases idle.symm.trans busy

/-- What a synchronous stretch of `processQueueItem` leaves, apart from the engine. -/
structure Advances (w after : World) : Prop where
  engine : after.engine = w.engine
  moves : QueueMoves (Proposed w.engine []) w.queue after.queue
  sent : ∀ e ∈ after.sent, e ∈ w.sent ∨ e.Entitled
  busy : Busy after

section
variable {w : World} {task : SkillItem}

lemma complete_advances (w : World) (item : QueueItem) : Advances w (w.complete item) where
  engine := rfl
  moves := .single (.done item)
  sent := fun _ mem => .inl mem
  busy := .idle rfl

lemma drop_moves {allowed : QueueItemInput → Prop} (q : RetryQueue) (item : QueueItem)
    (reason : Serve.QueueDropReason) :
    QueueMoves allowed q (((q.bumpAttempts item).recordDrop reason).markDoneIfVersion item).1 :=
  ((Relation.ReflTransGen.single (.bumped item)).tail (.dropped reason)).tail (.done item)

lemma fail_moves {allowed : QueueItemInput → Prop} (w : World) (item : QueueItem)
    (err : Failure) : QueueMoves allowed w.queue (w.fail item err).queue := by
  cases err with
  | aborted | auth => exact .refl
  | oversized | permanent => exact drop_moves _ _ _
  | transient =>
    unfold World.fail
    dsimp only
    split
    · exact drop_moves _ _ _
    · exact .single (.bumped item)

lemma fail_advances (w : World) (item : QueueItem) (err : Failure) : Advances w (w.fail item err) where
  engine := rfl
  moves := fail_moves w item err
  sent := fun _ mem => .inl mem
  busy := .idle rfl

lemma inFlight_call (w : World) (task : SkillItem) (stage : Stage) (call : ApiCall) :
    (w.call task stage call).InFlight call := ⟨_, rfl, rfl⟩

lemma call_advances {stage call} (describes : task.Describes w.engine.opts)
    (entitled : (⟨call, task, w.engine⟩ : Sent).Entitled) (fits : (w.call task stage call).Fits task stage) :
    Advances w (w.call task stage call) where
  engine := rfl
  moves := .refl
  sent := by
    intro e mem
    rcases mem_cons.mp mem with rfl | pre
    · exact .inr entitled
    · exact .inl pre
  busy := by
    constructor
    · intro processing busy
      cases busy
      exact describes
    · intro processing busy
      cases busy
      exact fits

lemma retireStale_advances (describes : task.Describes w.engine.opts) (projectIds : List String)
    (claimed : ∀ pid ∈ projectIds, ∃ claim ∈ task.claims, claim.projectId = pid) :
    Advances w (w.retireStale task projectIds) := by
  cases projectIds with
  | cons pid projectIds =>
    apply call_advances describes
    · exact ⟨describes, rfl, rfl, .inl (claimed pid mem_cons_self)⟩
    · exact ⟨claimed, pid, rfl, inFlight_call _ _ _ _⟩
  | nil =>
    show Advances w (w.project task)
    unfold World.project
    split
    · rename_i former
      apply call_advances describes
      · exact ⟨describes, rfl, rfl, .inr ⟨rfl, .inr (.inl former.1)⟩⟩
      · exact inFlight_call _ _ _ _
    · rename_i notFormer
      split
      · rename_i deletes
        apply call_advances describes
        · exact ⟨describes, rfl, rfl, .inr ⟨rfl, .inl deletes⟩⟩
        · exact inFlight_call _ _ _ _
      · rename_i notDelete
        have isPush : task.isPush = true := by simpa using notDelete
        have cur : task.projectId = w.engine.projectId := by
          by_contra former
          exact notFormer ⟨former, isPush⟩
        split
        · rename_i reserved
          apply call_advances describes
          · exact ⟨describes, rfl, rfl, .inr ⟨rfl, .inr (.inr reserved)⟩⟩
          · exact inFlight_call _ _ _ _
        · exact {
            engine := rfl
            moves := .refl
            sent := fun _ mem => .inl mem
            busy := by
              constructor
              · intro processing busy
                cases busy
                exact describes
              · intro processing busy
                cases busy
                exact ⟨isPush, cur⟩ }

lemma retireClaims_advances (describes : task.Describes w.engine.opts)
    (claim : SkillProjectionClaim) (claims : List SkillProjectionClaim)
    (held : ∀ alt ∈ claim :: claims, alt ∈ task.claims) : Advances w (w.retireClaims task (claim :: claims)) := by
  apply call_advances describes
  · exact ⟨describes, rfl, rfl, .inl ⟨claim, held claim mem_cons_self, rfl⟩⟩
  · exact ⟨held, claim, rfl, inFlight_call _ _ _ _⟩

end

section
variable {lock : SkillsLock} {opts : EngineOpts} {skillKey : String} {claim : SkillProjectionClaim}

lemma mem_claimsOf : claim ∈ lock.claimsOf opts skillKey ↔ claim ∈ lock.claims.rows ∧
    claim.agentType = opts.agentType.name ∧ claim.agentId = opts.environmentId ∧ claim.skillKey = skillKey := by
  unfold SkillsLock.claimsOf SkillsLock.readSkillProjectionClaimsForAgent
  simp only [mem_filter, decide_eq_true_eq, and_assoc]

lemma mem_staleProjectIds {currentProjectId pid}
    (stale : pid ∈ lock.staleSkillProjectionProjectIds opts skillKey currentProjectId) :
    ∃ claim ∈ lock.claimsOf opts skillKey, claim.projectId = pid := by
  unfold SkillsLock.staleSkillProjectionProjectIds at stale
  rw [(perm_insertionSort _ _).mem_iff, mem_map] at stale
  obtain ⟨claim, kept, same⟩ := stale
  exact ⟨claim, (mem_filter.mp kept).1, same⟩

lemma claimsOf_remove {pid removed}
    (mem : claim ∈ (lock.removeSkillProjectionClaim opts pid removed).claimsOf opts skillKey) :
    claim ∈ lock.claimsOf opts skillKey := by
  rw [mem_claimsOf] at mem ⊢
  unfold SkillsLock.removeSkillProjectionClaim at mem
  dsimp only at mem
  split at mem
  · exact mem
  · split at mem
    · exact mem
    · exact ⟨(Table.mem_remove.mp mem.1).1, mem.2⟩

lemma hash_delete {cache : HashCache} {deleted key}
    (known : (cache.delete deleted).hash key ≠ none) : cache.hash key ≠ none := by
  unfold HashCache.hash HashCache.delete at *
  rw [ne_eq, Option.map_eq_none_iff] at *
  cases hit : (cache.remove fun e => decide (e.1 = deleted)).get key with
  | none => exact absurd hit known
  | some e =>
    rw [(Table.get_of_get_remove hit).1]
    exact Option.some_ne_none e

end

structure Narrows (eng less : Engine) : Prop where
  opts : less.opts = eng.opts
  projectId : less.projectId = eng.projectId
  home : less.home = eng.home
  covers : ∀ skillKey, Covered less [] skillKey → Covered eng [] skillKey

lemma Narrows.refl (eng : Engine) : Narrows eng eng := ⟨rfl, rfl, rfl, fun _ covered => covered⟩

lemma Narrows.proposed {eng less} (narrows : Narrows eng less)
    (input : QueueItemInput) (proposed : Proposed less [] input) : Proposed eng [] input := by
  unfold Proposed at *
  rw [narrows.opts, narrows.projectId, narrows.home] at proposed
  cases same : input.operation with
  | skillPush | sessionPush =>
    rw [same] at proposed
    exact proposed
  | skillDelete skillKey aid pid =>
    rw [same] at proposed
    exact ⟨proposed.1, narrows.covers skillKey proposed.2⟩

lemma removeClaim_narrows (w : World) (pid skillKey : String) :
    Narrows w.engine (w.removeClaim pid skillKey).engine where
  opts := rfl
  projectId := rfl
  home := rfl
  covers := by
    intro key covered
    rcases covered with pushed | claimed | trusted
    · exact .inl pushed
    · obtain ⟨claim, mem⟩ := exists_mem_of_ne_nil _ claimed
      have pre : claim ∈ w.engine.lock.claimsOf w.engine.opts key := claimsOf_remove mem
      exact .inr (.inl (ne_nil_of_mem pre))
    · exact .inr (.inr trusted)

lemma forget_narrows {eng} (w : World) (narrows : Narrows eng w.engine)
    (skillKey : String) : Narrows eng (w.forget skillKey).engine where
  opts := narrows.opts
  projectId := narrows.projectId
  home := narrows.home
  covers := by
    intro key covered
    apply narrows.covers
    exact covered.imp_left hash_delete

structure Continues (w after : World) : Prop where
  moves : QueueMoves (Proposed w.engine []) w.queue after.queue
  sent : ∀ e ∈ after.sent, e ∈ w.sent ∨ e.Entitled
  busy : Busy after

lemma Advances.continues {w middle after : World} (advances : Advances middle after)
    (narrows : Narrows w.engine middle.engine) (q : middle.queue = w.queue)
    (sent : middle.sent = w.sent) : Continues w after where
  moves := by
    rw [← q]
    have weaker : ∀ pre later, QueueMove (Proposed middle.engine []) pre later →
        QueueMove (Proposed w.engine []) pre later :=
      fun _ _ move => move.mono narrows.proposed
    exact Relation.ReflTransGen.mono weaker _ _ advances.moves
  sent := by
    rw [← sent]
    exact advances.sent
  busy := advances.busy

section
variable {w : World} {task : SkillItem} {enqueuedAt : String}

lemma rescan_advances (idle : w.processing = none) : Advances w (w.rescan task enqueuedAt) := by
  unfold World.rescan
  cases evaluated : enqueueIfChanged w.engine task.skillKey enqueuedAt w.queue with
  | none => exact fail_advances w task.item .transient
  | some q =>
    exact {
      engine := rfl
      moves := enqueueIfChanged_moves evaluated
      sent := fun _ mem => .inl mem
      busy := .idle idle }

lemma Advances.trans {first snd third} (one : Advances first snd)
    (alt : Advances snd third) : Advances first third where
  engine := alt.engine.trans one.engine
  moves := by
    have rest := alt.moves
    rw [one.engine] at rest
    exact one.moves.trans rest
  sent := by
    intro e mem
    rcases alt.sent e mem with earlier | entitled
    · exact one.sent e earlier
    · exact .inr entitled
  busy := alt.busy

lemma complete_rescan_advances (w : World) (task : SkillItem) (enqueuedAt : String) :
    Advances w ((w.complete task.item).rescan task enqueuedAt) :=
  (complete_advances w task.item).trans (rescan_advances rfl)

lemma begin_continues (w : World) (available : Bool) (item : QueueItem) (skillKey : String)
    (aid pid : Option String) (isPush : Bool)
    (op : (isPush = true ∧ ∃ newHash, item.operation = .skillPush skillKey aid pid newHash) ∨
      (isPush = false ∧ item.operation = .skillDelete skillKey aid pid)) :
    Continues w (w.begin available item skillKey aid pid isPush) := by
  have done : Continues w (w.complete item) := (complete_advances w item).continues (.refl _) rfl rfl
  unfold World.begin
  split
  · exact done
  · split
    · exact done
    · cases aid with
      | none => exact done
      | some aid =>
        cases pid with
        | none => exact done
        | some pid =>
          dsimp only
          split
          · exact done
          · rename_i sameAgent
            have mine : aid = w.engine.opts.environmentId := not_not.mp sameAgent
            rw [mine] at op
            have describes : (⟨item, skillKey, pid, isPush, w.engine⟩ : SkillItem).Describes
                w.engine.opts := ⟨rfl, op⟩
            split
            · cases claims : w.engine.lock.claimsOf w.engine.opts skillKey with
              | nil =>
                have forgets := forget_narrows w (.refl _) skillKey
                exact (complete_advances _ item).continues forgets rfl rfl
              | cons claim claims' =>
                have held : ∀ alt ∈ claim :: claims', alt ∈
                    w.engine.lock.claimsOf w.engine.opts skillKey := by
                  intro alt mem
                  rw [claims]
                  exact mem
                exact (retireClaims_advances describes claim claims' held).continues (.refl _) rfl rfl
            · have stale : ∀ alt ∈ w.engine.lock.staleSkillProjectionProjectIds w.engine.opts skillKey
                  w.engine.projectId, ∃ claim ∈ w.engine.lock.claimsOf w.engine.opts skillKey,
                    claim.projectId = alt := fun _ mem => mem_staleProjectIds mem
              exact (retireStale_advances describes _ stale).continues (.refl _) rfl rfl

lemma take_continues (busy : Busy w) (available : Bool) : Continues w (w.take available) := by
  have stays : Continues w w := ⟨.refl, fun _ mem => .inl mem, busy⟩
  unfold World.take
  split
  · exact stays
  · cases w.queue.peek Serve.isSkillOperation with
    | none => exact stays
    | some item =>
      dsimp only
      split
      · rename_i skillKey aid pid newHash op
        exact begin_continues w available item skillKey aid pid true (.inl ⟨rfl, newHash, op⟩)
      · rename_i skillKey aid pid op
        exact begin_continues w available item skillKey aid pid false (.inr ⟨rfl, op⟩)
      · exact stays

end
end Clawdi.SkillSync
