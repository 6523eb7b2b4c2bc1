import Clawdi.Lib.Table
import Clawdi.SessionEvents.Canonical

namespace Clawdi.SessionEvents

abbrev Uuid := String
abbrev Time := Int

variable (sess : Session) (count : Int)

def hours : Time := 3600 * count
def days : Time := 24 * hours count

inductive ContentProtocol
  | snapshotV1
  | eventsV1
  deriving DecidableEq

inductive GenerationStatus
  | staging
  | committed
  deriving DecidableEq

/-- The head of an event log: which generation, at which revision, with how many events. -/
structure EventHead where
  generation : Option Uuid
  revision : Nat
  count : Nat
  headHash : Digest
  deriving DecidableEq

structure Session where
  id : Uuid
  userId : Uuid
  originEnvironmentId : Option Uuid
  localSessionId : String
  originProfileKey : String
  contentProtocol : ContentProtocol
  contentHash : Option Digest
  eventGenerationId : Option Uuid
  eventRevision : Nat
  eventCount : Nat
  eventHeadHash : Option Digest

def currentHead : Digest := sess.eventHeadHash.getD EMPTY_EVENT_HEAD

def Session.head : EventHead where
  generation := sess.eventGenerationId
  revision := sess.eventRevision
  count := sess.eventCount
  headHash := currentHead sess

structure Session.New : Prop where
  protocol : sess.contentProtocol = .snapshotV1
  generation : sess.eventGenerationId = none
  revision : sess.eventRevision = 0
  count : sess.eventCount = 0
  head : sess.eventHeadHash = none

instance (sess : Session) : Decidable sess.New :=
  decidable_of_iff (sess.contentProtocol = .snapshotV1 ∧ sess.eventGenerationId = none ∧
      sess.eventRevision = 0 ∧ sess.eventCount = 0 ∧ sess.eventHeadHash = none)
    ⟨fun ⟨protocol, gen, rev, count, head⟩ =>
        ⟨protocol, gen, rev, count, head⟩,
      fun new => ⟨new.protocol, new.generation, new.revision, new.count, new.head⟩⟩

structure Generation where
  id : Uuid
  sessionId : Uuid
  appendId : Uuid
  status : GenerationStatus
  base : EventHead
  finalCount : Nat
  finalHeadHash : Digest
  supersededAt : Option Time
  createdAt : Time
  updatedAt : Time

structure FileKey where
  userId : Uuid
  sessionId : Uuid
  generationId : Uuid
  startSeq : Nat
  endSeq : Nat
  contentHash : Digest
  deriving DecidableEq

structure Chunk where
  sessionId : Uuid
  generationId : Uuid
  startSeq : Nat
  endSeq : Nat
  eventCount : Nat
  baseHeadHash : Digest
  resultHeadHash : Digest
  contentHash : Digest
  fileKey : FileKey
  updatedAt : Time

def Chunk.key (chunk : Chunk) : Uuid × Nat := (chunk.generationId, chunk.startSeq)

structure AppendReceipt where
  sessionId : Uuid
  appendId : Uuid
  generationId : Uuid
  baseRevision : Nat
  baseCount : Nat
  baseHeadHash : Digest
  contentHash : Digest
  resultRevision : Nat
  resultCount : Nat
  resultHeadHash : Digest

def AppendReceipt.key (rcpt : AppendReceipt) : Uuid × Uuid := (rcpt.sessionId, rcpt.appendId)

/-- A deleted session that an old client must not bring back under another profile. -/
structure SyncSuppression where
  userId : Uuid
  originEnvironmentId : Uuid
  localSessionId : String
  originProfileKey : String

structure Db where
  sessions : Table Session.id
  generations : Table Generation.id
  chunks : Table Chunk.key
  receipts : Table AppendReceipt.key
  suppressions : List SyncSuppression

def Db.empty : Db where
  sessions := .empty
  generations := .empty
  chunks := .empty
  receipts := .empty
  suppressions := []

def Db.chunksOf (db : Db) (genId : Uuid) : List Chunk :=
  db.chunks.select (fun chunk => chunk.generationId = genId) Chunk.startSeq

variable {genId : Uuid}

lemma mem_chunksOf {db : Db} {chunk} :
    chunk ∈ db.chunksOf genId ↔ chunk ∈ db.chunks ∧ chunk.generationId = genId := by
  rw [Db.chunksOf, Table.mem_select, decide_eq_true_iff]

lemma startSeq_distinct {chunks : Table Chunk.key} {one alt : Chunk} (memberOne : one ∈ chunks)
    (memberOther : alt ∈ chunks) (inOne : decide (one.generationId = genId) = true)
    (inOther : decide (alt.generationId = genId) = true) (same : one.startSeq = alt.startSeq) : one = alt := by
  apply Table.eq_of_key memberOne memberOther
  rw [decide_eq_true_iff] at inOne inOther
  exact Prod.ext (inOne.trans inOther.symm) same

lemma chunksOf_congr {db after : Db}
    (same : ∀ chunk : Chunk, chunk.generationId = genId → (chunk ∈ after.chunks ↔ chunk ∈ db.chunks)) :
    after.chunksOf genId = db.chunksOf genId := by
  apply Table.select_congr
  · intro one memberOne alt memberOther
    exact startSeq_distinct memberOne memberOther
  · intro chunk inGeneration
    exact same chunk (of_decide_eq_true inGeneration)

structure HttpError where
  status : Nat
  message : String
  deriving DecidableEq

structure Auth where
  userId : Uuid
  boundEnvironmentId : Option Uuid

def Auth.foreign (auth : Auth) (envId : Option Uuid) : Bool :=
  auth.boundEnvironmentId.any fun bound => decide (envId ≠ some bound)

end Clawdi.SessionEvents
