import Clawdi.SkillSync.Progress

namespace Clawdi.SkillSync
open Serve (RetryQueue QueueItem QueueItemInput Line)
section
variable {w : World} {task : SkillItem}

lemma fail_continues (w : World) (item : QueueItem) (err : Failure) : Continues w (w.fail item err) :=
  (fail_advances w item err).continues (.refl _) rfl rfl

lemma snapshot_continues (describes : task.Describes w.engine.opts)
    (cur : task.isPush = true ∧ task.projectId = w.engine.projectId) (enqueuedAt : String)
    (stage : Stage) (snap : stage = .firstSnapshot ∨ ∃ first, stage = .secondSnapshot first) :
    Continues w (w.proceed task enqueuedAt stage) := by
  have failed : Continues w (w.fail task.item .transient) := fail_continues _ _ _
  rcases snap with rfl | ⟨first, rfl⟩
  · cases content : w.engine.home.skill task.skillKey with
    | present hash =>
      have waits : Busy { w with processing := some ⟨task, .secondSnapshot hash⟩ } := by
        constructor
        · intro processing busy
          cases busy
          exact describes
        · intro processing busy
          cases busy
          exact cur
      simp only [World.proceed, content]
      exact ⟨.refl, fun _ mem => .inl mem, waits⟩
    | absent | unreadable =>
      simp only [World.proceed, content]
      exact failed
  · cases content : w.engine.home.skill task.skillKey with
    | present hash =>
      have entitled : (⟨.uploadAgentSkill w.engine.opts.environmentId w.engine.projectId
          task.skillKey hash, task, w.engine⟩ : Sent).Entitled :=
        ⟨describes, rfl, rfl, rfl, cur⟩
      simp only [World.proceed, content]
      by_cases shifted : first ≠ hash
      · rw [if_pos shifted]
        exact failed
      · rw [if_neg shifted]
        have waits : (w.call task (.upload hash) (.uploadAgentSkill w.engine.opts.environmentId
            w.engine.projectId task.skillKey hash)).Fits task (.upload hash) := trivial
        exact (call_advances describes entitled waits).continues (.refl _) rfl rfl
    | absent | unreadable =>
      simp only [World.proceed, content]
      exact failed

lemma proceed_continues (describes : task.Describes w.engine.opts) (stage : Stage)
    (fits : w.Fits task stage) (enqueuedAt : String) : Continues w (w.proceed task enqueuedAt stage) := by
  have removes : ∀ pid, Narrows w.engine (w.removeClaim pid task.skillKey).engine :=
    fun pid => removeClaim_narrows w pid task.skillKey
  have forgets : ∀ pid, Narrows w.engine
      ((w.removeClaim pid task.skillKey).forget task.skillKey).engine :=
    fun pid => forget_narrows _ (removes pid) task.skillKey
  have done : ∀ pid, Continues w
      (((w.removeClaim pid task.skillKey).forget task.skillKey).complete task.item) :=
    fun pid => (complete_advances _ task.item).continues (forgets pid) rfl rfl
  cases stage with
  | retireClaims claims =>
    cases claims with
    | nil => exact absurd fits.2 (by simp)
    | cons claim claims =>
      cases claims with
      | nil => exact done claim.projectId
      | cons next claims =>
        have held : ∀ alt ∈ next :: claims, alt ∈ task.claims := fun alt mem =>
          fits.1 alt (List.mem_cons_of_mem claim mem)
        have same : task.Describes (w.removeClaim claim.projectId task.skillKey).engine.opts := describes
        have goes := retireClaims_advances same next claims held
        exact goes.continues (removes claim.projectId) rfl rfl
  | retireStale projectIds =>
    cases projectIds with
    | nil => exact absurd fits.2 (by simp)
    | cons pid projectIds =>
      have held : ∀ alt ∈ projectIds, ∃ claim ∈ task.claims, claim.projectId = alt :=
        fun alt mem => fits.1 alt (List.mem_cons_of_mem pid mem)
      have same : task.Describes (w.removeClaim pid task.skillKey).engine.opts := describes
      have goes := retireStale_advances same projectIds held
      exact goes.continues (removes pid) rfl rfl
  | handOver =>
    have goes := complete_rescan_advances (w.removeClaim task.projectId task.skillKey) task enqueuedAt
    exact goes.continues (removes task.projectId) rfl rfl
  | remove =>
    unfold World.proceed
    dsimp only
    split
    · exact done task.projectId
    · have goes :=
        complete_rescan_advances (w.removeClaim task.projectId task.skillKey) task enqueuedAt
      exact goes.continues (removes task.projectId) rfl rfl
  | release => exact done task.projectId
  | firstSnapshot => exact snapshot_continues describes fits enqueuedAt _ (.inl rfl)
  | secondSnapshot first => exact snapshot_continues describes fits enqueuedAt _ (.inr ⟨first, rfl⟩)
  | upload contentHash =>
    exact {
      moves := .single (.done task.item)
      sent := fun _ mem => .inl mem
      busy := .idle rfl }

lemma unlocked_continues (stage : Stage) : Continues w (w.proceedUnlocked task stage) := by
  cases stage with
  | upload contentHash =>
    let pushed := w.setPushed (w.engine.lastPushedHash.set task.skillKey contentHash)
    have failed := fail_advances pushed task.item .transient
    exact {
      moves := fail_moves pushed task.item .transient
      sent := failed.sent
      busy := failed.busy }
  | _ => exact fail_continues w task.item .transient

lemma resume_continues (busy : Busy w) (reply : Reply) (enqueuedAt : String) :
    Continues w (w.resume reply enqueuedAt) := by
  cases waiting : w.processing with
  | none =>
    simp only [World.resume, waiting]
    exact ⟨.refl, fun _ mem => .inl mem, busy⟩
  | some processing =>
    simp only [World.resume, waiting]
    cases reply with
    | ok =>
      exact proceed_continues (busy.describes processing waiting) processing.stage
        (busy.fits processing waiting) enqueuedAt
    | unlocked => exact unlocked_continues processing.stage
    | failed err => exact fail_continues w processing.task.item err

end

section
variable {w : World}

lemma Busy.same {after : World} (busy : Busy w) (processing : after.processing = w.processing)
    (sent : after.sent = w.sent) (opts : after.engine.opts = w.engine.opts)
    (pid : after.engine.projectId = w.engine.projectId) : Busy after := by
  constructor
  · intro cur isCurrent
    rw [processing] at isCurrent
    rw [opts]
    exact busy.describes cur isCurrent
  · intro cur isCurrent
    rw [processing] at isCurrent
    have fits := busy.fits cur isCurrent
    unfold World.Fits World.InFlight World.deleteCall at *
    rw [sent, opts, pid]
    exact fits

lemma step_continues (busy : Busy w) (act : Action) : Busy (step w act) ∧
      (∀ e ∈ (step w act).sent, e ∈ w.sent ∨ e.Entitled) ∧
      (act.reloads = false → QueueMoves (Proposed w.engine act.trusted) w.queue (step w act).queue) := by
  cases act with
  | homeChanged | lockEdited => exact ⟨busy.same rfl rfl rfl rfl, fun _ mem => .inl mem, fun _ => .refl⟩
  | evaluate skillKey enqueuedAt =>
    cases evaluated : enqueueIfChanged w.engine skillKey enqueuedAt w.queue with
    | none =>
      simp only [step, evaluated]
      exact ⟨busy, fun _ mem => .inl mem, fun _ => .refl⟩
    | some q =>
      simp only [step, evaluated]
      exact ⟨busy.same rfl rfl rfl rfl, fun _ mem => .inl mem, fun _ => enqueueIfChanged_moves evaluated⟩
  | reconcile trusted enqueuedAt =>
    exact ⟨busy.same rfl rfl rfl rfl, fun _ mem => .inl mem, fun _ => reconcileKeys_moves _ w.queue⟩
  | take available =>
    have goes := take_continues busy available
    exact ⟨goes.busy, goes.sent, fun _ => goes.moves⟩
  | resume reply enqueuedAt =>
    have goes := resume_continues busy reply enqueuedAt
    exact ⟨goes.busy, goes.sent, fun _ => goes.moves⟩
  | rebind pid => exact ⟨.idle rfl, fun _ mem => .inl mem, fun _ => .refl⟩
  | restart envId pid file => exact ⟨.idle rfl, fun _ mem => .inl mem, fun reloads => by cases reloads⟩

structure Sound (w : World) : Prop where
  busy : Busy w
  ready : Ready w.queue
  sent : ∀ e ∈ w.sent, e.Entitled

lemma Sound.boot (opts : EngineOpts) (pid : String) (lock : SkillsLock) (home : SkillHome) :
    Sound (World.boot opts pid lock home) where
  busy := .idle rfl
  ready :=
    have room : 0 < DEFAULT_MAX_ITEMS := by decide
    ⟨List.nodup_nil, room⟩
  sent := by
    intro e mem
    cases mem

lemma Sound.step (inv : Sound w) (act : Action) : Sound (step w act) := by
  obtain ⟨busy, sent, moves⟩ := step_continues inv.busy act
  constructor
  · exact busy
  · cases reloads : act.reloads with
    | false => exact inv.ready.moves (moves reloads)
    | true =>
      cases act with
      | restart envId pid file => exact inv.ready.load file
      | _ => cases reloads
  · intro e mem
    rcases sent e mem with earlier | entitled
    · exact inv.sent e earlier
    · exact entitled

lemma Sound.run (opts : EngineOpts) (pid : String) (lock : SkillsLock) (home : SkillHome)
    (acts : List Action) : Sound (Transition.run SkillSync.step (World.boot opts pid lock home) acts) :=
  Transition.run_invariant (fun _ act inv => inv.step act) (.boot opts pid lock home) acts

end

open Serve (RetryQueue QueueItem Operation isValidSkillKey)
open Transition (run)
section
variable {eng : Engine} {skillKey enqueuedAt : String} {q after : RetryQueue}

end

inductive Evaluated (w : World) : Engine → RetryQueue → Prop
  | watcher : Evaluated w w.engine w.queue
  | handoff (task : SkillItem) (stage : Stage) (inHand : w.processing = some ⟨task, stage⟩) :
      Evaluated w (w.removeClaim task.projectId task.skillKey).engine
        ((w.removeClaim task.projectId task.skillKey).complete task.item).queue

lemma Evaluated.ready {w eng q} (evaluated : Evaluated w eng q) (ready : Ready w.queue) : Ready q := by
  cases evaluated with
  | watcher => exact ready
  | handoff task stage inHand =>
    have done : QueueMove (fun _ => False) w.queue (w.queue.markDoneIfVersion task.item).1 := .done task.item
    exact ready.moved done

namespace Sample

def opts : EngineOpts := { agentType := .claudeCode, environmentId := "agent" }

def home (hash : String) : SkillHome where
  keys := ["notes"]
  skill := fun key => if key = "notes" then .present hash else .absent
  reserved := fun _ => false
  listed := by
    intro key
    by_cases same : key = "notes" <;> simp [same]

def boot : World := World.boot opts "project" .empty .empty

def restored : List Action :=
  [.homeChanged (home "a"), .evaluate "notes" "1", .take true, .resume .ok "2", .resume .ok "3",
    .resume .ok "4", .homeChanged .empty, .evaluate "notes" "5", .homeChanged (home "a")]

end Sample

open Serve (RetryQueue QueueItem QueueItemInput Operation Line isValidSkillKey)
section
variable {w : World} {task : SkillItem}

lemma project_engine (w : World) (task : SkillItem) : (w.project task).engine = w.engine := by
  unfold World.project
  split
  · rfl
  · split
    · rfl
    · split <;> rfl

lemma retireStale_engine (w : World) (task : SkillItem) (projectIds : List String) :
    (w.retireStale task projectIds).engine = w.engine := by
  cases projectIds with
  | nil => exact project_engine w task
  | cons pid projectIds => rfl

lemma rescan_engine (w : World) (task : SkillItem) (enqueuedAt : String) :
    (w.rescan task enqueuedAt).engine = w.engine := by
  unfold World.rescan
  split <;> rfl

lemma retireClaims_engine (w : World) (task : SkillItem) (claims : List SkillProjectionClaim) :
    (w.retireClaims task claims).engine.lock = w.engine.lock ∧ ((w.retireClaims task claims).processing ≠ none →
        (w.retireClaims task claims).engine = w.engine) := by
  cases claims with
  | nil => exact ⟨rfl, fun busy => absurd rfl busy⟩
  | cons claim claims => exact ⟨rfl, fun _ => rfl⟩

variable (stage : Stage)

lemma snapshot_engine (enqueuedAt : String)
    (snap : stage = .firstSnapshot ∨ ∃ first, stage = .secondSnapshot first) :
    (w.proceed task enqueuedAt stage).engine = w.engine := by
  rcases snap with rfl | ⟨first, rfl⟩
  · cases content : w.engine.home.skill task.skillKey with
    | present hash => simp only [World.proceed, content]
    | absent | unreadable => simp only [World.proceed, content, World.fail]
  · cases content : w.engine.home.skill task.skillKey with
    | present hash =>
      simp only [World.proceed, content]
      split <;> rfl
    | absent | unreadable => simp only [World.proceed, content, World.fail]

lemma proceed_lock (fits : w.Fits task stage) (enqueuedAt : String) :
    (∃ pid, w.InFlight (w.deleteCall task pid) ∧ (w.proceed task enqueuedAt stage).engine.lock =
        w.engine.lock.removeSkillProjectionClaim w.engine.opts pid task.skillKey) ∨
    (∃ contentHash, stage = .upload contentHash ∧ (w.proceed task enqueuedAt stage).engine.lock =
        w.engine.lock.recordSkillProjectionClaim w.engine.opts w.engine.projectId
          task.skillKey contentHash) ∨ (w.proceed task enqueuedAt stage).engine = w.engine := by
  cases stage with
  | retireClaims claims =>
    cases claims with
    | nil => exact .inr (.inr rfl)
    | cons claim claims =>
      obtain ⟨_, head, isHead, inFlight⟩ := fits
      cases isHead
      refine Or.inl ⟨claim.projectId, inFlight, ?_⟩
      exact (retireClaims_engine (w.removeClaim claim.projectId task.skillKey) task claims).1
  | retireStale projectIds =>
    cases projectIds with
    | nil => exact .inr (.inr rfl)
    | cons pid projectIds =>
      obtain ⟨_, head, isHead, inFlight⟩ := fits
      cases isHead
      refine Or.inl ⟨pid, inFlight, ?_⟩
      exact congrArg Engine.lock (retireStale_engine (w.removeClaim pid task.skillKey) task projectIds)
  | handOver =>
    refine Or.inl ⟨task.projectId, fits, ?_⟩
    exact congrArg Engine.lock (rescan_engine _ task enqueuedAt)
  | remove =>
    refine Or.inl ⟨task.projectId, fits, ?_⟩
    unfold World.proceed
    dsimp only
    split
    · rfl
    · exact congrArg Engine.lock (rescan_engine _ task enqueuedAt)
  | release => exact .inl ⟨task.projectId, fits, rfl⟩
  | firstSnapshot => exact .inr (.inr (snapshot_engine _ enqueuedAt (.inl rfl)))
  | secondSnapshot first => exact .inr (.inr (snapshot_engine _ enqueuedAt (.inr ⟨first, rfl⟩)))
  | upload contentHash => exact .inr (.inl ⟨contentHash, rfl, rfl⟩)

lemma proceed_pushed (enqueuedAt : String) (goesOn : (w.proceed task enqueuedAt stage).processing ≠ none) :
    (w.proceed task enqueuedAt stage).engine.lastPushedHash = w.engine.lastPushedHash := by
  cases stage with
  | retireClaims claims =>
    cases claims with
    | nil => rfl
    | cons claim claims =>
      have keeps := retireClaims_engine (w.removeClaim claim.projectId task.skillKey) task claims
      have same := congrArg Engine.lastPushedHash (keeps.2 goesOn)
      exact same
  | retireStale projectIds =>
    cases projectIds with
    | nil => rfl
    | cons pid projectIds =>
      have same := congrArg Engine.lastPushedHash
        (retireStale_engine (w.removeClaim pid task.skillKey) task projectIds)
      exact same
  | handOver =>
    have same := congrArg Engine.lastPushedHash
      (rescan_engine ((w.removeClaim task.projectId task.skillKey).complete task.item) task enqueuedAt)
    exact same
  | remove =>
    unfold World.proceed at *
    dsimp only at *
    split
    · rename_i cur
      rw [if_pos cur] at goesOn
      exact absurd rfl goesOn
    · have same := congrArg Engine.lastPushedHash
        (rescan_engine ((w.removeClaim task.projectId task.skillKey).complete task.item) task enqueuedAt)
      exact same
  | release | upload => exact absurd rfl goesOn
  | firstSnapshot => exact congrArg Engine.lastPushedHash (snapshot_engine _ enqueuedAt (.inl rfl))
  | secondSnapshot first => exact congrArg Engine.lastPushedHash (snapshot_engine _ enqueuedAt (.inr ⟨first, rfl⟩))

lemma begin_engine (w : World) (available : Bool) (item : QueueItem) (skillKey : String)
    (aid pid : Option String) (isPush : Bool) :
    (w.begin available item skillKey aid pid isPush).engine.lock = w.engine.lock ∧
      ((w.begin available item skillKey aid pid isPush).processing ≠ none →
        (w.begin available item skillKey aid pid isPush).engine = w.engine) := by
  unfold World.begin
  split
  · exact ⟨rfl, fun _ => rfl⟩
  · split
    · exact ⟨rfl, fun _ => rfl⟩
    · cases aid with
      | none => exact ⟨rfl, fun _ => rfl⟩
      | some aid =>
        cases pid with
        | none => exact ⟨rfl, fun _ => rfl⟩
        | some pid =>
          dsimp only
          split
          · exact ⟨rfl, fun _ => rfl⟩
          · split
            · exact retireClaims_engine w _ _
            · have same := retireStale_engine w ⟨item, skillKey, pid, isPush, w.engine⟩
                (w.engine.lock.staleSkillProjectionProjectIds w.engine.opts skillKey w.engine.projectId)
              exact ⟨congrArg Engine.lock same, fun _ => same⟩

lemma take_engine (w : World) (available : Bool) : (w.take available).engine.lock = w.engine.lock ∧
      ((w.take available).processing ≠ none → (w.take available).engine = w.engine) := by
  unfold World.take
  split
  · exact ⟨rfl, fun _ => rfl⟩
  · split
    · exact ⟨rfl, fun _ => rfl⟩
    · split
      · exact begin_engine _ _ _ _ _ _ _
      · exact begin_engine _ _ _ _ _ _ _
      · exact ⟨rfl, fun _ => rfl⟩

end

/-- No skills module, a bad key, a materialized skill, a missing identity or another agent's. -/
def Skipped (w : World) (available : Bool) (item : QueueItem) : Prop :=
  available = false ∨
  match item.operation with
  | .skillPush skillKey aid pid _ =>
    isValidSkillKey skillKey = false ∨ w.engine.lock.materialized w.engine.opts skillKey = true ∨
      aid ≠ some w.engine.opts.environmentId ∨ pid = none
  | .skillDelete skillKey aid pid =>
    isValidSkillKey skillKey = false ∨ aid ≠ some w.engine.opts.environmentId ∨ pid = none
  | .sessionPush _ => False

variable {available : Bool} {item : QueueItem}

lemma begin_skipped {w : World} {skillKey aid pid isPush}
    (skipped : available = false ∨ isValidSkillKey skillKey = false ∨
      (w.engine.lock.materialized w.engine.opts skillKey = true ∧ isPush = true) ∨
        aid ≠ some w.engine.opts.environmentId ∨ pid = none) :
    w.begin available item skillKey aid pid isPush = w.complete item := by
  unfold World.begin
  split
  · rfl
  · split
    · rfl
    · cases aid with
      | none => rfl
      | some aid =>
        cases pid with
        | none => rfl
        | some pid =>
          dsimp only
          by_cases alt : aid ≠ w.engine.opts.environmentId
          · rw [if_pos alt]
          · simp_all

lemma take_skipped {w : World} (idle : w.processing = none)
    (next : w.queue.peek Serve.isSkillOperation = some item) (skipped : Skipped w available item) :
    w.take available = w.complete item := by
  unfold Skipped at skipped
  simp only [World.take, idle, next]
  cases op : item.operation with
  | skillPush | skillDelete =>
    rw [op] at skipped
    apply begin_skipped
    tauto
  | sessionPush push =>
    have isSkill := List.find?_some next
    simp [Serve.isSkillOperation, op] at isSkill

section
variable {lock : SkillsLock} {opts : EngineOpts} {key : ClaimKey} {pid : String}

lemma get_removeClaim {skillKey} (alt : key ≠ ⟨opts.environmentId, pid, skillKey⟩) :
    (lock.removeSkillProjectionClaim opts pid skillKey).claims.get key = lock.claims.get key := by
  unfold SkillsLock.removeSkillProjectionClaim
  dsimp only
  split
  · rfl
  · split
    · rfl
    · apply Table.get_remove
      intro claim _ ofKey
      rw [ofKey]
      exact decide_eq_false alt

lemma get_recordClaim {skillKey hash} (held : lock.claims.get key ≠ none) :
    (lock.recordSkillProjectionClaim opts pid skillKey hash).claims.get key ≠ none := by
  unfold SkillsLock.recordSkillProjectionClaim
  rw [Table.get_put]
  split
  · exact Option.some_ne_none _
  · exact held

end

def Action.editsLock : Action → Bool
  | .lockEdited _ => true
  | _ => false

def Confirms (w : World) (act : Action) (key : ClaimKey) : Prop :=
  (∃ enqueuedAt, act = .resume .ok enqueuedAt) ∧
    w.InFlight (.deleteAgentSkill key.agentId key.skillKey key.projectId)

structure Fenced (w : World) (act : Action) : Prop where
  sent : ∀ e ∈ (step w act).sent, e.Entitled
  queued : act.reloads = false → ∀ item ∈ (step w act).queue.items,
    (∃ pre ∈ w.queue.items, pre.operation = item.operation) ∨
      ∃ input, Proposed w.engine act.trusted input ∧ input.operation.operation = item.operation
  claims : act.editsLock = false → ∀ key, w.engine.lock.claims.get key ≠ none →
    (step w act).engine.lock.claims.get key ≠ none ∨ Confirms w act key
  failed : ∀ err enqueuedAt, act = .resume (.failed err) enqueuedAt → (step w act).engine = w.engine
  pending : ∀ enqueuedAt, act = .resume .ok enqueuedAt → (step w act).processing ≠ none →
    (step w act).engine.lastPushedHash = w.engine.lastPushedHash
  taken : ∀ available, act = .take available → (step w act).processing ≠ none → (step w act).engine = w.engine
  skipped : ∀ available item, act = .take available → w.processing = none →
    w.queue.peek Serve.isSkillOperation = some item → Skipped w available item → step w act = w.complete item

lemma resume_claims {w} (busy : Busy w) (reply : Reply) (enqueuedAt : String)
    {key} (held : w.engine.lock.claims.get key ≠ none) :
    (w.resume reply enqueuedAt).engine.lock.claims.get key ≠ none ∨ Confirms w (.resume reply enqueuedAt) key := by
  cases waiting : w.processing with
  | none =>
    simp only [World.resume, waiting]
    exact .inl held
  | some processing =>
    simp only [World.resume, waiting]
    cases reply with
    | failed err => exact .inl held
    | unlocked =>
      cases stage : processing.stage with
      | _ => exact .inl held
    | ok =>
      rcases proceed_lock processing.stage (busy.fits processing waiting) enqueuedAt with
        ⟨pid, inFlight, lock⟩ | ⟨contentHash, _, lock⟩ | same
      · by_cases exact' : key = ⟨w.engine.opts.environmentId, pid, processing.task.skillKey⟩
        · subst exact'
          exact .inr ⟨⟨enqueuedAt, rfl⟩, inFlight⟩
        · rw [lock, get_removeClaim exact']
          exact .inl held
      · rw [lock]
        exact .inl (get_recordClaim held)
      · rw [same]
        exact .inl held

lemma step_claims {w} (busy : Busy w) (act : Action)
    (untouched : act.editsLock = false) {key} (held : w.engine.lock.claims.get key ≠ none) :
    (step w act).engine.lock.claims.get key ≠ none ∨ Confirms w act key := by
  cases act with
  | lockEdited lock => cases untouched
  | resume reply enqueuedAt => exact resume_claims busy reply enqueuedAt held
  | take available =>
    rw [show step w (.take available) = w.take available from rfl, (take_engine w available).1]
    exact .inl held
  | evaluate skillKey enqueuedAt =>
    cases evaluated : enqueueIfChanged w.engine skillKey enqueuedAt w.queue with
    | _ =>
      simp only [step, evaluated]
      exact .inl held
  | _ => exact .inl held

/-- What is sent is entitled, what is queued is covered, and a claim leaves only with its confirmed delete. -/
theorem skills_fenced (opts : EngineOpts) (pid : String) (lock : SkillsLock) (home : SkillHome)
    (acts : List Action) (act : Action) : Fenced (run step (World.boot opts pid lock home) acts) act := by
  have inv := Sound.run opts pid lock home acts
  generalize run step (World.boot opts pid lock home) acts = w at inv
  constructor
  · exact (inv.step act).sent
  · intro reloads item mem
    exact operation_moves ((step_continues inv.busy act).2.2 reloads) mem
  · intro untouched key held
    exact step_claims inv.busy act untouched held
  · rintro err enqueuedAt rfl
    cases waiting : w.processing with
    | _ => simp only [step, World.resume, waiting, World.fail]
  · rintro enqueuedAt rfl goesOn
    cases waiting : w.processing with
    | none => simp only [step, World.resume, waiting]
    | some processing =>
      simp only [step, World.resume, waiting] at *
      exact proceed_pushed processing.stage enqueuedAt goesOn
  · rintro available rfl goesOn
    exact (take_engine w available).2 goesOn
  · rintro available item rfl idle next skipped
    exact take_skipped idle next skipped

namespace Sample

def formerPush : Line :=
  .object
    [("kind", .text "skill_push"), ("enqueued_at", .text "t"), ("attempts", .number 0),
      ("version", .number 1), ("skill_key", .text "notes"), ("agent_id", .text "agent"),
      ("project_id", .text "former"), ("new_hash", .text "a")]

def claimedTwice : SkillsLock :=
  (SkillsLock.empty.recordSkillProjectionClaim opts "older" "notes" "a").recordSkillProjectionClaim
    opts "oldest" "notes" "a"

def claimed : World := World.boot opts "project" claimedTwice .empty
def reloaded : List Action := [.restart "agent" "project" (some [formerPush])]
def partly : List Action := reloaded ++ [.take true, .resume .ok "1", .resume (.failed .transient) "2"]

def unwritten : List Action :=
  [.homeChanged (home "a"), .evaluate "notes" "1", .take true, .resume .ok "2", .resume .ok "3",
    .resume .unlocked "4"]

end Sample

open Sample

/-- An uncovered delete, a failed item without its claim, and one whose upload stays pushed. -/
theorem fence_exceptions : ((run step boot (reloaded ++ [.take true])).sent.map Sent.call =
        [.deleteAgentSkill "agent" "notes" "former"] ∧ boot.engine.lock.claims.rows = [] ∧
      boot.engine.lastPushedHash.rows = []) ∧ ((run step claimed partly).queue.items.map QueueItem.attempts = [1] ∧
      claimed.engine.lock.claims.rows.map SkillProjectionClaim.projectId = ["oldest", "older"] ∧
      (run step claimed partly).engine.lock.claims.rows.map SkillProjectionClaim.projectId = ["oldest"]) ∧
    ((run step boot unwritten).queue.items.map QueueItem.attempts = [1] ∧
      (run step boot unwritten).engine.lastPushedHash.rows = [("notes", "a")] ∧
      (run step boot unwritten).engine.lock.claims.rows = []) := by
  decide +kernel

end Clawdi.SkillSync
