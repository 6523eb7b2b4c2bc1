import Clawdi.Lib.Table
import Clawdi.Serve.RetryQueue
import Clawdi.Lib.Transition

namespace Clawdi.SkillSync
open Serve (AgentType)

/-- A `Map` from skill keys to content hashes. -/
abbrev HashCache := Table (Prod.fst : String × String → String)
def HashCache.hash (cache : HashCache) (key : String) : Option String := (cache.get key).map Prod.snd
def HashCache.set (cache : HashCache) (key hash : String) : HashCache := cache.put (key, hash)
def HashCache.delete (cache : HashCache) (key : String) : HashCache := cache.remove fun e => e.1 = key

structure SkillProjectionClaim where
  agentType : String
  agentId : String
  projectId : String
  skillKey : String
  hash : String
  deriving DecidableEq

structure ClaimKey where
  agentId : String
  projectId : String
  skillKey : String
  deriving DecidableEq

def SkillProjectionClaim.key (claim : SkillProjectionClaim) : ClaimKey where
  agentId := claim.agentId
  projectId := claim.projectId
  skillKey := claim.skillKey

structure Materialization where
  agentType : String
  localSkillKey : String
  deriving DecidableEq

/-- The lock file as it is read; of a materialization only its place matters here. -/
structure SkillsLock where
  skills : HashCache
  claims : Table SkillProjectionClaim.key
  materializations : List Materialization

/-- The daemon's agent: the adapter whose home it watches, and the agent it is registered as. -/
structure EngineOpts where
  agentType : AgentType
  environmentId : String

def skillCacheKey (agentType skillKey : String) : String := agentType ++ ":" ++ skillKey

namespace SkillsLock
variable (lock : SkillsLock) (opts : EngineOpts)

def empty : SkillsLock where
  skills := .empty
  claims := .empty
  materializations := []

variable (projectId skillKey : String)

def readSkillProjectionState : List SkillProjectionClaim :=
  lock.claims.rows.filter fun claim => claim.agentType = opts.agentType.name ∧
    claim.agentId = opts.environmentId ∧ claim.projectId = projectId

def readSkillProjectionClaimsForAgent : List SkillProjectionClaim :=
  lock.claims.rows.filter fun claim =>
    claim.agentType = opts.agentType.name ∧ claim.agentId = opts.environmentId

def claimsOf : List SkillProjectionClaim :=
  (lock.readSkillProjectionClaimsForAgent opts).filter fun claim => claim.skillKey = skillKey

def staleSkillProjectionProjectIds (currentProjectId : String) : List String :=
  (((lock.claimsOf opts skillKey).filter fun claim => claim.projectId ≠ currentProjectId).map
    SkillProjectionClaim.projectId).insertionSort (· ≤ ·)

/-- `readProjectSkillMaterialization`, of which every caller only asks whether there is one. -/
def materialized : Bool :=
  lock.materializations.any fun mat =>
    mat.agentType = opts.agentType.name ∧ mat.localSkillKey = skillKey

def recordSkillProjectionClaim (hash : String) : SkillsLock :=
  { lock with
    claims := lock.claims.put
      { agentType := opts.agentType.name, agentId := opts.environmentId, projectId, skillKey, hash }
    skills := lock.skills.set (skillCacheKey opts.agentType.name skillKey) hash }

def removeSkillProjectionClaim : SkillsLock :=
  let key : ClaimKey := ⟨opts.environmentId, projectId, skillKey⟩
  match lock.claims.get key with
  | none => lock
  | some old =>
    if old.agentType ≠ opts.agentType.name then lock
    else
      let baselineKey := skillCacheKey opts.agentType.name skillKey
      { lock with
        claims := lock.claims.remove fun claim => claim.key = key
        skills :=
          if lock.skills.hash baselineKey = some old.hash then lock.skills.delete baselineKey
          else lock.skills }

end SkillsLock

open Serve (RetryQueue QueueItem QueueItemInput Operation OperationInput isValidSkillKey)

inductive LocalSkill
  | absent
  | present (hash : String)
  | unreadable
  deriving DecidableEq

/-- The skills folder; `reserved` are the targets of a managed owner. -/
structure SkillHome where
  keys : List String
  skill : String → LocalSkill
  reserved : String → Bool
  listed : ∀ key, key ∈ keys ↔ skill key ≠ .absent

def SkillHome.empty : SkillHome where
  keys := []
  skill := fun _ => .absent
  reserved := fun _ => false
  listed := by simp

/-- What a scan reads: the daemon's identity and bindings, its lock file, and the skills folder. -/
structure Engine where
  opts : EngineOpts
  projectId : String
  lock : SkillsLock
  lastPushedHash : HashCache
  home : SkillHome

variable (eng : Engine) (skillKey enqueuedAt : String) (q : RetryQueue)

def pushInput (newHash enqueuedAt : String) : QueueItemInput where
  enqueuedAt := enqueuedAt
  attempts := 0
  operation := .skillPush skillKey eng.opts.environmentId eng.projectId newHash

def deleteInput (projectId enqueuedAt : String) : QueueItemInput where
  enqueuedAt := enqueuedAt
  attempts := 0
  operation := .skillDelete skillKey eng.opts.environmentId projectId

def pendingOperation (skillKey : String) : Option Operation :=
  (q.items.find? fun item => item.operation.skillKey? = some skillKey).map QueueItem.operation

def isSkillDelete : Operation → Bool
  | .skillDelete .. => true
  | _ => false

def isDeleteOf (item : QueueItem) (aid skillKey : String) : Bool :=
  match item.operation with
  | .skillDelete key agent _ => key = skillKey && agent = some aid
  | _ => false

def enqueueMaterializedSkillClaimCleanup : RetryQueue :=
  let claims := (eng.lock.claimsOf eng.opts skillKey).insertionSort
    fun left right => left.projectId ≤ right.projectId
  match claims with
  | [] => q
  | claim :: _ =>
    if q.items.any (isDeleteOf · eng.opts.environmentId skillKey) then q
    else (q.enqueue (deleteInput eng skillKey claim.projectId enqueuedAt)).queue

def reservedOrAbsent : Bool := eng.home.reserved skillKey || eng.home.skill skillKey = .absent

/-- `enqueueIfChanged`; nothing when it throws, as it does on a folder that cannot be read. -/
def enqueueIfChanged : Option RetryQueue :=
  if !isValidSkillKey skillKey then some q
  else if eng.lock.materialized eng.opts skillKey then
    some (enqueueMaterializedSkillClaimCleanup eng skillKey enqueuedAt q)
  else if reservedOrAbsent eng skillKey then
    match eng.lastPushedHash.hash skillKey with
    | none => some q
    | some _ => some (q.enqueue (deleteInput eng skillKey eng.projectId enqueuedAt)).queue
  else
    match eng.home.skill skillKey with
    | .present hash =>
      if eng.lastPushedHash.hash skillKey = some hash then some q
      else some (q.enqueue (pushInput eng skillKey hash enqueuedAt)).queue
    | _ => none

def enqueueAbsentSkill (trusted : List String) (skillKey enqueuedAt : String) (q : RetryQueue) : RetryQueue :=
  if eng.lastPushedHash.hash skillKey ≠ none ∨ eng.lock.claimsOf eng.opts skillKey ≠ [] ∨
      skillKey ∈ trusted then
    if q.items.any fun item => item.operation =
        .skillDelete skillKey (some eng.opts.environmentId) (some eng.projectId) then q
    else (q.enqueue (deleteInput eng skillKey eng.projectId enqueuedAt)).queue
  else q

def staleClaim : Bool := (eng.lock.claimsOf eng.opts skillKey).any fun claim => claim.projectId ≠ eng.projectId

/-- The turn of `reconcileAgentSkillProjection` for one key; nothing when it throws. -/
def reconcileSkill (trusted : List String) (skillKey enqueuedAt : String) (q : RetryQueue) : Option RetryQueue :=
  if eng.lock.materialized eng.opts skillKey then
    some (enqueueMaterializedSkillClaimCleanup eng skillKey enqueuedAt q)
  else if eng.home.reserved skillKey || skillKey ∉ eng.home.keys then
    some (enqueueAbsentSkill eng trusted skillKey enqueuedAt q)
  else
    match eng.home.skill skillKey with
    | .absent => some (enqueueAbsentSkill eng trusted skillKey enqueuedAt q)
    | .unreadable => none
    | .present hash =>
      let pend := pendingOperation q skillKey
      let matchingPendingPush := pend =
        some (.skillPush skillKey (some eng.opts.environmentId) (some eng.projectId) hash)
      if matchingPendingPush ∨ (eng.lastPushedHash.hash skillKey = some hash ∧
          pend.any isSkillDelete = false ∧ staleClaim eng skillKey = false) then
        some q
      else some (q.enqueue (pushInput eng skillKey hash enqueuedAt)).queue

def reconciledKeys (trusted : List String) : List String :=
  let claimed := (eng.lock.readSkillProjectionClaimsForAgent eng.opts).map SkillProjectionClaim.skillKey
  let all := eng.home.keys.filter isValidSkillKey ++ eng.lastPushedHash.rows.map Prod.fst ++ claimed ++ trusted
  (all.dedup.filter isValidSkillKey).insertionSort (· ≤ ·)

/-- `reconcileAgentSkillProjection`: it stops at the first key that throws, and the flag says whether
one did. -/
def reconcileKeys (eng : Engine) (trusted : List String) (enqueuedAt : String) :
    List String → RetryQueue → RetryQueue × Bool
  | [], q => (q, false)
  | skillKey :: keys, q =>
    match reconcileSkill eng trusted skillKey enqueuedAt q with
    | none => (q, true)
    | some after => reconcileKeys eng trusted enqueuedAt keys after

def reconcileAgentSkillProjection (trusted : List String) (enqueuedAt : String) (q : RetryQueue) :
    RetryQueue × Bool :=
  reconcileKeys eng trusted enqueuedAt (reconciledKeys eng trusted) q

open Serve (RetryQueue QueueItem Operation Number isValidSkillKey)

/-- A request for the agent's skills. -/
inductive ApiCall
  | uploadAgentSkill (aid projectId skillKey contentHash : String)
  | deleteAgentSkill (aid skillKey projectId : String)
  deriving DecidableEq

/-- Where `processQueueItem` waits; the first of a loop's rest is in flight. -/
inductive Stage
  | retireClaims (claims : List SkillProjectionClaim)
  | retireStale (projectIds : List String)
  | handOver
  | remove
  | release
  | firstSnapshot
  | secondSnapshot (first : String)
  | upload (contentHash : String)

/-- A skill operation after its checks; `taken` is the engine as it was then, for the history only. -/
structure SkillItem where
  item : QueueItem
  skillKey : String
  projectId : String
  isPush : Bool
  taken : Engine

structure Processing where
  task : SkillItem
  stage : Stage

inductive Failure
  | aborted
  | auth
  | oversized
  | permanent
  | transient

/-- How an awaited call comes back. -/
inductive Reply
  | ok
  | unlocked
  | failed (err : Failure)

def MAX_QUEUE_ATTEMPTS : Number := 30

structure Sent where
  call : ApiCall
  task : SkillItem
  engine : Engine

structure World where
  engine : Engine
  queue : RetryQueue
  processing : Option Processing
  sent : List Sent

namespace World

def complete (w : World) (item : QueueItem) : World :=
  { w with queue := (w.queue.markDoneIfVersion item).1, processing := none }

def fail (w : World) (item : QueueItem) (err : Failure) : World :=
  let bumped := w.queue.bumpAttempts item
  let drop := fun reason => ((bumped.recordDrop reason).markDoneIfVersion item).1
  let q :=
    match err with
    | .aborted | .auth => w.queue
    | .oversized => drop .oversized
    | .permanent => drop .permanent
    | .transient => if MAX_QUEUE_ATTEMPTS ≤ item.attempts + 1 then drop .retryExhausted else bumped
  { w with queue := q, processing := none }

def call (w : World) (task : SkillItem) (stage : Stage) (call : ApiCall) : World :=
  { w with
    processing := some ⟨task, stage⟩
    sent := ⟨call, task, w.engine⟩ :: w.sent }

def setLock (w : World) (lock : SkillsLock) : World :=
  { w with engine := { w.engine with lock := lock } }

def setPushed (w : World) (cache : HashCache) : World :=
  { w with engine := { w.engine with lastPushedHash := cache } }

def removeClaim (w : World) (projectId skillKey : String) : World :=
  w.setLock (w.engine.lock.removeSkillProjectionClaim w.engine.opts projectId skillKey)

def forget (w : World) (skillKey : String) : World := w.setPushed (w.engine.lastPushedHash.delete skillKey)

def delete (w : World) (task : SkillItem) (stage : Stage) (projectId : String) : World :=
  w.call task stage (.deleteAgentSkill w.engine.opts.environmentId task.skillKey projectId)

def retireClaims (w : World) (task : SkillItem) : List SkillProjectionClaim → World
  | [] => (w.forget task.skillKey).complete task.item
  | claim :: claims => w.delete task (.retireClaims (claim :: claims)) claim.projectId

def project (w : World) (task : SkillItem) : World :=
  if task.projectId ≠ w.engine.projectId ∧ task.isPush = true then
    w.delete task .handOver task.projectId
  else if task.isPush = false then w.delete task .remove task.projectId
  else if w.engine.home.reserved task.skillKey = true then
    w.delete task .release task.projectId
  else { w with processing := some ⟨task, .firstSnapshot⟩ }

def retireStale (w : World) (task : SkillItem) : List String → World
  | [] => w.project task
  | projectId :: projectIds => w.delete task (.retireStale (projectId :: projectIds)) projectId

def rescan (w : World) (task : SkillItem) (enqueuedAt : String) : World :=
  match enqueueIfChanged w.engine task.skillKey enqueuedAt w.queue with
  | some q => { w with queue := q }
  | none => w.fail task.item .transient

/-- `processQueueItem` on a skill operation, up to where it first waits. -/
def begin (w : World) (available : Bool) (item : QueueItem) (skillKey : String)
    (aid projectId : Option String) (isPush : Bool) : World :=
  if !available || !isValidSkillKey skillKey then w.complete item
  else if w.engine.lock.materialized w.engine.opts skillKey && isPush then
    w.complete item
  else
    match aid, projectId with
    | some aid, some projectId =>
      if aid ≠ w.engine.opts.environmentId then w.complete item
      else
        let task : SkillItem := ⟨item, skillKey, projectId, isPush, w.engine⟩
        if w.engine.lock.materialized w.engine.opts skillKey then
          w.retireClaims task (w.engine.lock.claimsOf w.engine.opts skillKey)
        else
          w.retireStale task (w.engine.lock.staleSkillProjectionProjectIds w.engine.opts
            skillKey w.engine.projectId)
    | _, _ => w.complete item

def take (w : World) (available : Bool) : World :=
  match w.processing with
  | some _ => w
  | none =>
    match w.queue.peek Serve.isSkillOperation with
    | none => w
    | some item =>
      match item.operation with
      | .skillPush skillKey aid projectId _ => w.begin available item skillKey aid projectId true
      | .skillDelete skillKey aid projectId => w.begin available item skillKey aid projectId false
      | .sessionPush _ => w

def proceed (w : World) (task : SkillItem) (enqueuedAt : String) : Stage → World
  | .retireClaims (claim :: claims) => (w.removeClaim claim.projectId task.skillKey).retireClaims task claims
  | .retireStale (projectId :: projectIds) => (w.removeClaim projectId task.skillKey).retireStale task projectIds
  | .handOver => ((w.removeClaim task.projectId task.skillKey).complete task.item).rescan task enqueuedAt
  | .remove =>
    let removed := w.removeClaim task.projectId task.skillKey
    if task.projectId = w.engine.projectId then
      (removed.forget task.skillKey).complete task.item
    else (removed.complete task.item).rescan task enqueuedAt
  | .release => ((w.removeClaim task.projectId task.skillKey).forget task.skillKey).complete task.item
  | .firstSnapshot =>
    match w.engine.home.skill task.skillKey with
    | .present hash => { w with processing := some ⟨task, .secondSnapshot hash⟩ }
    | _ => w.fail task.item .transient
  | .secondSnapshot first =>
    match w.engine.home.skill task.skillKey with
    | .present hash =>
      -- the folder shifted between the two archives
      if first ≠ hash then w.fail task.item .transient
      else
        w.call task (.upload hash) (.uploadAgentSkill w.engine.opts.environmentId
          w.engine.projectId task.skillKey hash)
    | _ => w.fail task.item .transient
  | .upload contentHash =>
    let pushed := w.setPushed (w.engine.lastPushedHash.set task.skillKey contentHash)
    (pushed.setLock (pushed.engine.lock.recordSkillProjectionClaim pushed.engine.opts
      pushed.engine.projectId task.skillKey contentHash)).complete task.item
  | _ => w

def proceedUnlocked (w : World) (task : SkillItem) : Stage → World
  | .upload contentHash =>
    (w.setPushed (w.engine.lastPushedHash.set task.skillKey contentHash)).fail task.item .transient
  | _ => w.fail task.item .transient

def resume (w : World) (reply : Reply) (enqueuedAt : String) : World :=
  match w.processing with
  | none => w
  | some processing =>
    match reply with
    | .ok => w.proceed processing.task enqueuedAt processing.stage
    | .unlocked => w.proceedUnlocked processing.task processing.stage
    | .failed err => w.fail processing.task.item err

end World

open Serve (RetryQueue QueueItem Line)

def DEFAULT_MAX_ITEMS : Nat := 500

/-- The map of pushed hashes that a binding starts from: the claims fenced to its agent and Project. -/
def loadClaims (lock : SkillsLock) (opts : EngineOpts) (projectId : String) : HashCache :=
  (lock.readSkillProjectionState opts projectId).foldl
    (fun cache claim => cache.set claim.skillKey claim.hash) .empty

def Engine.bind (eng : Engine) (opts : EngineOpts) (projectId : String) : Engine :=
  { eng with
    opts := opts
    projectId := projectId
    lastPushedHash := loadClaims eng.lock opts projectId }

def World.boot (opts : EngineOpts) (projectId : String) (lock : SkillsLock) (home : SkillHome) : World where
  engine :=
    { opts := opts
      projectId := projectId
      lock := lock
      lastPushedHash := loadClaims lock opts projectId
      home := home }
  queue := RetryQueue.new DEFAULT_MAX_ITEMS
  processing := none
  sent := []

inductive Action
  | homeChanged (home : SkillHome)
  | lockEdited (lock : SkillsLock)
  | evaluate (skillKey enqueuedAt : String)
  | reconcile (trusted : List String) (enqueuedAt : String)
  | take (available : Bool)
  | resume (reply : Reply) (enqueuedAt : String)
  | rebind (projectId : String)
  | restart (envId projectId : String) (file : Option (List Line))

/-- A new binding or a restart abandons the current item; other programs may write the lock file. -/
def step (w : World) : Action → World
  | .homeChanged home => { w with engine := { w.engine with home := home } }
  | .lockEdited lock => w.setLock lock
  | .evaluate skillKey enqueuedAt =>
    match enqueueIfChanged w.engine skillKey enqueuedAt w.queue with
    | none => w
    | some q => { w with queue := q }
  | .reconcile trusted enqueuedAt =>
    { w with
      queue := (reconcileAgentSkillProjection w.engine trusted enqueuedAt w.queue).1 }
  | .take available => w.take available
  | .resume reply enqueuedAt => w.resume reply enqueuedAt
  | .rebind projectId => { w with engine := w.engine.bind w.engine.opts projectId, processing := none }
  | .restart envId projectId file =>
    { w with
      engine := w.engine.bind { w.engine.opts with environmentId := envId } projectId
      queue := w.queue.load file
      processing := none }

end Clawdi.SkillSync
