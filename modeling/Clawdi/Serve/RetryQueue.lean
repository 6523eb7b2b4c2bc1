import Mathlib.Data.Rat.Defs
import Mathlib.Algebra.Order.Ring.Rat
import Mathlib.Data.List.Basic

namespace Clawdi.Serve

/-- A number of the queue file. Exact as long as every loaded version, with one more for each later
enqueue, stays below 2^53; from there on `nextVersion` would no longer rise. -/
abbrev Number := ℚ

inductive AgentType
  | claudeCode | codex | openclaw | hermes | pi | opencode | dsh
  deriving DecidableEq

def AgentType.name : AgentType → String
  | .claudeCode => "claude_code"
  | .codex => "codex"
  | .openclaw => "openclaw"
  | .hermes => "hermes"
  | .pi => "pi"
  | .opencode => "opencode"
  | .dsh => "dsh"

def agentTypes : List AgentType := [.claudeCode, .codex, .openclaw, .hermes, .pi, .opencode, .dsh]

/-- The identity of a session push that tells two sources of one local id apart. -/
structure SessionFence where
  apiOrigin : String
  environmentId : String
  adapter : AgentType
  sourceSessionKey : String
  deriving DecidableEq

structure SessionPush where
  profileKey : Option String
  localSessionId : String
  contentHash : String
  apiOrigin : Option String
  environmentId : Option String
  adapter : Option AgentType
  sourceSessionKey : Option String
  deriving DecidableEq

inductive Operation
  | skillPush (skillKey : String) (aid pid : Option String) (newHash : String)
  | skillDelete (skillKey : String) (aid pid : Option String)
  | sessionPush (push : SessionPush)
  deriving DecidableEq

structure QueueItem where
  enqueuedAt : String
  attempts : Number
  version : Number
  operation : Operation
  deriving DecidableEq

/-- What a caller of `enqueue` passes: both fences are present, the version is not. -/
inductive OperationInput
  | skillPush (skillKey aid pid newHash : String)
  | skillDelete (skillKey aid pid : String)
  | sessionPush (profileKey : Option String) (lsid contentHash : String)
      (fence : SessionFence)

structure QueueItemInput where
  enqueuedAt : String
  attempts : Number
  operation : OperationInput

def OperationInput.operation : OperationInput → Operation
  | .skillPush skillKey aid pid newHash => .skillPush skillKey (some aid) (some pid) newHash
  | .skillDelete skillKey aid pid => .skillDelete skillKey (some aid) (some pid)
  | .sessionPush profileKey lsid contentHash fence =>
    .sessionPush
      { profileKey, localSessionId := lsid, contentHash
        apiOrigin := some fence.apiOrigin
        environmentId := some fence.environmentId
        adapter := some fence.adapter
        sourceSessionKey := some fence.sourceSessionKey }

def stampVersion (item : QueueItemInput) (version : Number) : QueueItem :=
  { enqueuedAt := item.enqueuedAt
    attempts := item.attempts
    version
    operation := item.operation.operation }

@[simp] lemma stampVersion_version (item : QueueItemInput) (version : Number) :
    (stampVersion item version).version = version := rfl

def QueueItem.identity (item : QueueItem) : QueueItem := { item with attempts := 0 }
@[simp] lemma identity_version (item : QueueItem) : item.identity.version = item.version := rfl
@[simp] lemma identity_operation (item : QueueItem) : item.identity.operation = item.operation := rfl
def QueueItem.bumped (item : QueueItem) : QueueItem := { item with attempts := item.attempts + 1 }
@[simp] lemma bumped_identity (item : QueueItem) : item.bumped.identity = item.identity := rfl

def isSkillOperation (item : QueueItem) : Bool :=
  match item.operation with
  | .skillPush .. | .skillDelete .. => true
  | .sessionPush _ => false

@[simp] lemma isSkillOperation_identity (item : QueueItem) :
    isSkillOperation item.identity = isSkillOperation item := rfl

def hasSessionFence (push : SessionPush) : Option SessionFence := do
  let apiOrigin ← push.apiOrigin
  let envId ← push.environmentId
  let adapter ← push.adapter
  let sourceSessionKey ← push.sourceSessionKey
  return { apiOrigin, environmentId := envId, adapter, sourceSessionKey }

def SessionPush.profile (push : SessionPush) : String := push.profileKey.getD ""

def Operation.skillKey? : Operation → Option String
  | .skillPush skillKey .. | .skillDelete skillKey .. => some skillKey
  | .sessionPush _ => none

def samePush (a b : SessionPush) : Bool :=
  match hasSessionFence a, hasSessionFence b with
  | some fence, some alt => fence = alt && a.profile = b.profile
  | _, _ => a.localSessionId = b.localSessionId && a.profile = b.profile

variable (a b : QueueItem)

def sameKey : Bool :=
  match a.operation, b.operation with
  | .sessionPush push, .sessionPush alt => samePush push alt
  | .sessionPush _, _ | _, .sessionPush _ => false
  | operation, alt => operation.skillKey? = alt.skillKey?

lemma sameKey_refl : sameKey a a := by
  unfold sameKey
  cases operation : a.operation with
  | skillPush | skillDelete => simp
  | sessionPush push =>
    cases fence : hasSessionFence push with
    | none | some fence => simp [samePush, fence]

lemma samePush_comm (a b : SessionPush) : samePush a b = samePush b a := by
  unfold samePush
  cases hasSessionFence a with
  | none => simp [eq_comm]
  | some fence =>
    cases hasSessionFence b with
    | none | some => simp [eq_comm]

lemma sameKey_comm : sameKey a b = sameKey b a := by
  unfold sameKey
  cases a.operation <;> cases b.operation <;> simp [eq_comm, samePush_comm]

@[simp] lemma sameKey_identity_left : sameKey a.identity b = sameKey a b := rfl
@[simp] lemma sameKey_identity_right : sameKey a b.identity = sameKey a b := rfl

variable {item queued : QueueItem}

lemma sameKey_of_identity (same : queued.identity = item.identity) (alt : QueueItem) :
    sameKey alt item = sameKey alt queued := by
  rw [← sameKey_identity_right alt item, ← same, sameKey_identity_right]

lemma sameKey_left_of_identity (same : queued.identity = item.identity) (alt : QueueItem) :
    sameKey item alt = sameKey queued alt := by
  rw [← sameKey_identity_left item alt, ← same, sameKey_identity_left]

lemma version_of_identity (same : queued.identity = item.identity) : queued.version = item.version := by
  simpa using congrArg QueueItem.version same

def Fenced (item : QueueItem) : Prop :=
  ∀ push, item.operation = .sessionPush push → ∃ fence, hasSessionFence push = some fence

lemma stampVersion_fenced (item : QueueItemInput) (version : Number) : Fenced (stampVersion item version) := by
  intro push same
  unfold stampVersion OperationInput.operation at same
  cases operation : item.operation with
  | skillPush | skillDelete => simp [operation] at same
  | sessionPush profileKey lsid contentHash fence =>
    simp only [operation, Operation.sessionPush.injEq] at same
    exact ⟨fence, by rw [← same]; rfl⟩

lemma sameKey_trans {a b c} (fenced : Fenced b) (fencedA : Fenced a)
    (fencedC : Fenced c) (first : sameKey a b) (snd : sameKey b c) : sameKey a c := by
  unfold sameKey at *
  cases left : a.operation with
  | sessionPush push =>
    cases middle : b.operation with
    | sessionPush mid =>
      cases right : c.operation with
      | sessionPush alt =>
        obtain ⟨fence, ofLeft⟩ := fencedA push left
        obtain ⟨key, ofMiddle⟩ := fenced mid middle
        obtain ⟨last, ofRight⟩ := fencedC alt right
        simp only [left, middle, right, samePush, ofLeft, ofMiddle, ofRight] at first snd ⊢
        simp_all
      | skillPush => simp [middle, right] at snd
      | skillDelete => simp [middle, right] at snd
    | skillPush | skillDelete => simp [left, middle] at first
  | skillPush | skillDelete =>
    cases middle : b.operation <;> cases right : c.operation <;> simp_all

def maxSkillKeyLen : Nat := 200
def reservedSkillKeySuffixes : List String := ["download", "content", "install"]

def alphanumeric (ch : Char) : Bool :=
  ('A' ≤ ch && ch ≤ 'Z') || ('a' ≤ ch && ch ≤ 'z') || ('0' ≤ ch && ch ≤ '9')

def skillKeyComponent : List Char → Bool
  | [] => false
  | first :: rest =>
    alphanumeric first && rest.length ≤ 199 && rest.all fun ch => alphanumeric ch || ch ∈ ['.', '_', '-']

def hasReservedSkillKeySuffix (skillKey : String) : Bool :=
  let parts := skillKey.toList.splitOn '/'
  1 < parts.length && parts.getLastD [] ∈ reservedSkillKeySuffixes.map String.toList

def isValidSkillKey (skillKey : String) : Bool :=
  let parts := skillKey.toList.splitOn '/'
  skillKey.toList.length ≤ maxSkillKeyLen && parts.length ≤ 4 && parts.all skillKeyComponent &&
    !hasReservedSkillKeySuffix skillKey

inductive Field
  | text (v : String)
  | number (v : Number)
  | other

/-- A line of the queue file after parsing: the members of an object are named once each. -/
inductive Line
  | malformed
  | scalar
  | object (mems : List (String × Field))

def Field.text? : Field → Option String
  | .text v => some v
  | _ => none

def Field.number? : Field → Option Number
  | .number v => some v
  | _ => none

def isAgentType (v : Field) : Option AgentType := v.text?.bind fun name => agentTypes.find? (·.name = name)

variable {α : Type}

def required (mems : List (String × Field)) (name : String) (read : Field → Option α) :
    Option α := (mems.lookup name).bind read

def optional (mems : List (String × Field)) (name : String) (read : Field → Option α) : Option (Option α) :=
  match mems.lookup name with
  | none => some none
  | some field => (read field).map some

def skillOperation (kind : String) (mems : List (String × Field)) : Option Operation := do
  let skillKey ← required mems "skill_key" Field.text?
  guard (isValidSkillKey skillKey)
  let aid ← optional mems "agent_id" Field.text?
  let pid ← optional mems "project_id" Field.text?
  guard (aid ≠ some "" ∧ pid ≠ some "")
  if kind = "skill_push" then
    let newHash ← required mems "new_hash" Field.text?
    return .skillPush skillKey aid pid newHash
  else
    guard (aid.isSome ∧ pid.isSome)
    return .skillDelete skillKey aid pid

def sessionOperation (mems : List (String × Field)) : Option Operation := do
  let lsid ← required mems "local_session_id" Field.text?
  let profileKey ← optional mems "profile_key" Field.text?
  let contentHash ← required mems "content_hash" Field.text?
  let apiOrigin ← optional mems "api_origin" Field.text?
  let envId ← optional mems "environment_id" Field.text?
  let adapter ← optional mems "adapter" isAgentType
  let sourceSessionKey ← optional mems "source_session_key" Field.text?
  return .sessionPush
    { profileKey, localSessionId := lsid, contentHash, apiOrigin, environmentId := envId, adapter, sourceSessionKey }

def isQueueItem : Line → Option QueueItem
  | .malformed | .scalar => none
  | .object mems => do
    let kind ← required mems "kind" Field.text?
    let enqueuedAt ← required mems "enqueued_at" Field.text?
    let atts ← required mems "attempts" Field.number?
    let version ← optional mems "version" Field.number?
    let operation ←
      if kind = "skill_push" ∨ kind = "skill_delete" then skillOperation kind mems
      else if kind = "session_push" then sessionOperation mems
      else none
    return { enqueuedAt, attempts := atts, version := version.getD 0, operation }

inductive QueueDropReason
  | capacitySkills | capacitySessions | permanent | retryExhausted | oversized | invalidPersisted
  deriving DecidableEq

abbrev QueueDropDeltas := QueueDropReason → Number

structure RetryQueue where
  items : List QueueItem
  droppedByReason : QueueDropDeltas
  nextVersion : Number
  maxItems : Nat

def RetryQueue.new (maxItems : Nat) : RetryQueue :=
  { items := [], droppedByReason := fun _ => 0, nextVersion := 1, maxItems }

namespace RetryQueue
variable (queue : RetryQueue)

def recordDrop (reason : QueueDropReason) : RetryQueue :=
  { queue with
    droppedByReason := fun alt =>
      if alt = reason then queue.droppedByReason alt + 1 else queue.droppedByReason alt }

@[simp] lemma recordDrop_items (reason : QueueDropReason) : (queue.recordDrop reason).items = queue.items := rfl

@[simp] lemma recordDrop_nextVersion (reason : QueueDropReason) :
    (queue.recordDrop reason).nextVersion = queue.nextVersion := rfl

@[simp] lemma recordDrop_maxItems (reason : QueueDropReason) :
    (queue.recordDrop reason).maxItems = queue.maxItems := rfl

def loadRow : List QueueItem → QueueItem → List QueueItem
  | [], row => [row]
  | existing :: items, row =>
    if sameKey existing row then
      if existing.version ≤ row.version then row :: items else existing :: items
    else existing :: loadRow items row

def loadLine (line : Line) : RetryQueue :=
  match isQueueItem line with
  | some row => { queue with items := loadRow queue.items row }
  | none => queue.recordDrop .invalidPersisted

def maxVersion (items : List QueueItem) : Number := items.foldl (fun greatest item => max greatest item.version) 0

def load : Option (List Line) → RetryQueue
  | none => { queue with items := [] }
  | some lines =>
    let loaded := lines.foldl loadLine { queue with items := [] }
    { loaded with nextVersion := maxVersion loaded.items + 1 }

def sameModule (item existing : QueueItem) : Bool := isSkillOperation existing = isSkillOperation item
def moduleDepth (item : QueueItem) : Nat := (queue.items.filter (sameModule item)).length

def capacityReason (item : QueueItem) : QueueDropReason :=
  if isSkillOperation item then .capacitySkills else .capacitySessions

/-- The loop of the eviction, with the items it hands to `onEvict`; every pass removes one. -/
def evictLoop (item : QueueItem) : Nat → RetryQueue → RetryQueue × List QueueItem
  | 0, queue => (queue, [])
  | passes + 1, queue =>
    if queue.maxItems < queue.moduleDepth item then
      match queue.items.find? (sameModule item) with
      | none => (queue, [])
      | some evicted =>
        let removed := { queue with items := queue.items.eraseP (sameModule item) }
        let rest := evictLoop item passes (removed.recordDrop (capacityReason evicted))
        (rest.1, evicted :: rest.2)
    else (queue, [])

def evictIfFull (item : QueueItem) : RetryQueue × List QueueItem := evictLoop item queue.items.length queue

structure Enqueued where
  queue : RetryQueue
  stamped : QueueItem
  evicted : List QueueItem

def enqueue (item : QueueItemInput) : Enqueued :=
  let stamped := stampVersion item queue.nextVersion
  let items := queue.items.eraseP (sameKey · stamped) ++ [stamped]
  let res := evictIfFull { queue with items, nextVersion := queue.nextVersion + 1 } stamped
  { queue := res.1, stamped, evicted := res.2 }

def enqueueWhenAvailable (item : QueueItemInput) : Option Enqueued :=
  let cand := stampVersion item queue.nextVersion
  if queue.items.any (sameKey · cand) || queue.moduleDepth cand < queue.maxItems then
    some (queue.enqueue item)
  else none

def peek (eligible : QueueItem → Bool) : Option QueueItem := queue.items.find? eligible

def markDoneIfVersion (item : QueueItem) : RetryQueue × Bool :=
  match queue.items.find? (sameKey · item) with
  | none => (queue, false)
  | some existing =>
    if existing.version ≠ item.version then (queue, false)
    else ({ queue with items := queue.items.eraseP (sameKey · item) }, true)

def bumpAttempts (item : QueueItem) : RetryQueue :=
  match queue.items.find? (sameKey · item) with
  | none => queue
  | some cur =>
    if cur.version ≠ item.version then queue
    else
      { queue with
        items := queue.items.eraseP (sameKey · item) ++
          [cur.bumped] }

def drainDroppedDelta : RetryQueue × QueueDropDeltas :=
  ({ queue with droppedByReason := fun _ => 0 }, queue.droppedByReason)

def restoreDroppedDelta (deltas : QueueDropDeltas) : RetryQueue :=
  { queue with
    droppedByReason := fun reason =>
      if 0 < deltas reason then queue.droppedByReason reason + deltas reason
      else queue.droppedByReason reason }

end RetryQueue

/-- A call of `enqueueWhenAvailable` that is suspended; it is resumed once it is no longer
registered for a change of capacity. -/
structure Waiter where
  item : QueueItemInput
  registered : Bool

inductive Drop
  | evicted (item : QueueItem)
  | invalidLine
  | permanent (reason : QueueDropReason)

def Drop.reason : Drop → QueueDropReason
  | .evicted item => RetryQueue.capacityReason item
  | .invalidLine => .invalidPersisted
  | .permanent reason => reason

def Drop.item? : Drop → Option QueueItem
  | .evicted item => some item
  | _ => none

structure Replacement where
  old : QueueItem
  newer : QueueItem

structure Completion where
  removed : QueueItem
  call : QueueItem

/-- What the operations did, for the properties only: the lists of items start over when a file is
loaded, the counts of drops never do. -/
structure History where
  loaded : List QueueItem
  enqueued : List QueueItem
  replaced : List Replacement
  completed : List Completion
  drops : List Drop
  earlierDrops : List Drop
  drained : QueueDropDeltas
  restored : QueueDropDeltas

structure World where
  queue : RetryQueue
  waiters : List Waiter
  history : History

def World.new (maxItems : Nat) : World :=
  { queue := RetryQueue.new maxItems
    waiters := []
    history :=
      { loaded := [], enqueued := [], replaced := [], completed := [], drops := []
        earlierDrops := [], drained := fun _ => 0, restored := fun _ => 0 } }

inductive PermanentReason
  | permanent | retryExhausted | oversized

def PermanentReason.reason : PermanentReason → QueueDropReason
  | .permanent => .permanent
  | .retryExhausted => .retryExhausted
  | .oversized => .oversized

inductive Action
  | load (file : Option (List Line))
  | enqueue (item : QueueItemInput)
  | enqueueWhenAvailable (item : QueueItemInput)
  | resume (idx : Nat)
  | abort (idx : Nat)
  | markDoneIfVersion (item : QueueItem)
  | bumpAttempts (item : QueueItem)
  | drainDroppedDelta
  | restoreDroppedDelta (deltas : QueueDropDeltas)
  | recordPermanentDrop (reason : PermanentReason)

def History.load (history : History) (file : Option (List Line)) (items : List QueueItem) : History :=
  let lines := file.getD []
  { history with
    loaded := items, enqueued := [], replaced := [], completed := [], drops := []
    earlierDrops := history.earlierDrops ++ history.drops ++
      (lines.filter fun line => (isQueueItem line).isNone).map fun _ => .invalidLine }

def History.enqueue (history : History) (pre : RetryQueue) (res : RetryQueue.Enqueued) : History :=
  { history with
    enqueued := history.enqueued ++ [res.stamped]
    replaced := history.replaced ++
      (pre.items.find? (sameKey · res.stamped)).toList.map fun old =>
        { old, newer := res.stamped }
    drops := history.drops ++ res.evicted.map .evicted }

def World.enqueue (w : World) (item : QueueItemInput) : World :=
  let res := w.queue.enqueue item
  { w with queue := res.queue, history := w.history.enqueue w.queue res }

/-- A turn of the loop of `enqueueWhenAvailable`: the item is taken, or the call waits. -/
def World.enqueueWhenAvailable (w : World) (item : QueueItemInput) : World :=
  match w.queue.enqueueWhenAvailable item with
  | some res => { w with queue := res.queue, history := w.history.enqueue w.queue res }
  | none => { w with waiters := w.waiters ++ [{ item, registered := true }] }

def notifyCapacityWaiters (waiters : List Waiter) : List Waiter :=
  waiters.map fun waiter => { waiter with registered := false }

def World.markDoneIfVersion (w : World) (item : QueueItem) : World :=
  match w.queue.markDoneIfVersion item with
  | (_, false) => w
  | (queue, true) =>
    { w with
      queue
      waiters := notifyCapacityWaiters w.waiters
      history :=
        { w.history with
          completed := w.history.completed ++
            (w.queue.items.find? (sameKey · item)).toList.map fun removed =>
              { removed, call := item } } }

def step (w : World) : Action → World
  | .load file =>
    let queue := w.queue.load file
    { w with queue, history := w.history.load file queue.items }
  | .enqueue item => w.enqueue item
  | .enqueueWhenAvailable item => w.enqueueWhenAvailable item
  | .resume idx =>
    match w.waiters[idx]? with
    | some waiter =>
      if waiter.registered then w
      else
        World.enqueueWhenAvailable { w with waiters := w.waiters.eraseIdx idx } waiter.item
    | none => w
  | .abort idx => { w with waiters := w.waiters.eraseIdx idx }
  | .markDoneIfVersion item => w.markDoneIfVersion item
  | .bumpAttempts item => { w with queue := w.queue.bumpAttempts item }
  | .drainDroppedDelta =>
    let (queue, deltas) := w.queue.drainDroppedDelta
    { w with
      queue
      history :=
        { w.history with
          drained := fun reason => w.history.drained reason + deltas reason } }
  | .restoreDroppedDelta deltas =>
    { w with
      queue := w.queue.restoreDroppedDelta deltas
      history :=
        { w.history with
          restored := fun reason => w.history.restored reason + max 0 (deltas reason) } }
  | .recordPermanentDrop reason =>
    { w with
      queue := w.queue.recordDrop reason.reason
      history :=
        { w.history with drops := w.history.drops ++ [.permanent reason.reason] } }

end Clawdi.Serve
