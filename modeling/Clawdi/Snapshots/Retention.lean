import Clawdi.Lib.Transition
import Clawdi.Snapshots.Rows
import Mathlib.Data.Prod.Lex
import Mathlib.Data.String.Basic

namespace Clawdi.Snapshots.Retention
open SessionEvents (Uuid Time)

def SNAPSHOT_PREFIX : String := "session-snapshots/v1/"
def SNAPSHOT_RETENTION : Time := 24 * 60 * 60
def PUBLICATION_TIMEOUT : Time := 120
def PAGE_LIMIT : Nat := 1000

end Retention

def SnapshotKey.text (key : SnapshotKey) : String :=
  Retention.SNAPSHOT_PREFIX ++ key.userId ++ "/" ++ key.sessionId ++ "/" ++
    hexdigest key.contentHash ++ "-" ++ key.attempt ++ ".json"

namespace Retention
open SessionEvents (Uuid Time)

structure SessionRow where
  id : Uuid
  fileKey : Option SnapshotKey
  deriving DecidableEq

structure S3Object where
  key : SnapshotKey
  lastModified : Time
  deriving DecidableEq

structure GcCandidate where
  fileKey : SnapshotKey
  unreferencedAt : Time
  deriving DecidableEq

inductive Phase
  | listing
  | sweeping (items : List S3Object) (fullPage : Bool)
  | recording (item : S3Object) (referenced : Bool) (items : List S3Object) (fullPage : Bool)
  | selecting
  | collecting (due : List SnapshotKey)
  | deciding (key : SnapshotKey) (referenced : Bool) (due : List SnapshotKey)
  | forgetting (key : SnapshotKey) (due : List SnapshotKey)
  deriving DecidableEq

structure Pass where
  observedAt : Time
  dryRun : Bool
  phase : Phase
  deriving DecidableEq

def Pass.cutoff (pass : Pass) : Time := pass.observedAt - SNAPSHOT_RETENTION

structure Worker where
  startAfter : String
  pass : Option Pass

/-- A reference check of the sweep that found nothing, for the properties only. -/
structure Finding where
  key : SnapshotKey
  startedAt : Time

/-- `puts` holds every object that was ever stored, with its time. -/
structure World where
  now : Time
  rows : Table SessionRow.id
  objects : Table S3Object.key
  candidates : Table GcCandidate.fileKey
  puts : List S3Object
  workers : Nat → Worker
  findings : List Finding

def World.empty : World where
  now := 0
  rows := .empty
  objects := .empty
  candidates := .empty
  puts := []
  workers := fun _ => { startAfter := "", pass := none }
  findings := []

def World.referenced (w : World) (key : SnapshotKey) : Bool :=
  w.rows.rows.any fun row => row.id = key.sessionId ∧ row.fileKey = some key

def listObjects (objects : Table S3Object.key) (startAfter : String) : List S3Object :=
  (objects.select (fun obj => startAfter < obj.key.text) (·.key.text)).take PAGE_LIMIT

variable (cands : Table GcCandidate.fileKey)

def dueCandidates (cutoff : Time) : List SnapshotKey :=
  ((cands.select (fun cand => cand.unreferencedAt ≤ cutoff)
    fun cand => toLex (cand.unreferencedAt, cand.fileKey.text)).take PAGE_LIMIT).map
    GcCandidate.fileKey

def insertCandidate (cand : GcCandidate) : Table GcCandidate.fileKey :=
  match cands.get cand.fileKey with
  | some _ => cands
  | none => cands.put cand

def deleteCandidate (key : SnapshotKey) : Table GcCandidate.fileKey := cands.remove fun cand => cand.fileKey = key

namespace World
variable (w : World) (id : Nat)

def withWorker (worker : Worker) : World :=
  { w with workers := Function.update w.workers id worker }

def goTo (pass : Pass) (phase : Phase) : World :=
  let worker := w.workers id
  w.withWorker id { worker with pass := some { pass with phase := phase } }

def leave : World :=
  let worker := w.workers id
  w.withWorker id { worker with pass := none }

def setCursor (startAfter : String) : World :=
  let worker := w.workers id
  w.withWorker id { worker with startAfter := startAfter }

end World

def advance (w : World) (id : Nat) (pass : Pass) : World :=
  match pass.phase with
  | .listing =>
    let listed := listObjects w.objects (w.workers id).startAfter
    w.goTo id pass (.sweeping listed (PAGE_LIMIT ≤ listed.length))
  | .sweeping [] fullPage => (if fullPage then w else w.setCursor id "").goTo id pass .selecting
  | .sweeping (item :: items) fullPage =>
    -- the listing escaped the cursor
    if item.key.text ≤ (w.workers id).startAfter then w.leave id
    else if pass.dryRun = false ∧ item.lastModified < pass.cutoff then
      let referenced := w.referenced item.key
      let findings :=
        if referenced then w.findings
        else { key := item.key, startedAt := pass.observedAt } :: w.findings
      { w with findings }.goTo id pass (.recording item referenced items fullPage)
    else (w.setCursor id item.key.text).goTo id pass (.sweeping items fullPage)
  | .recording item referenced items fullPage =>
    let cands :=
      if referenced then deleteCandidate w.candidates item.key
      else insertCandidate w.candidates { fileKey := item.key, unreferencedAt := pass.observedAt }
    ({ w with candidates := cands }.setCursor id item.key.text).goTo id pass (.sweeping items fullPage)
  | .selecting => w.goTo id pass (.collecting (dueCandidates w.candidates pass.cutoff))
  | .collecting [] => w.leave id
  | .collecting (key :: due) => w.goTo id pass (.deciding key (w.referenced key) due)
  | .deciding key referenced due =>
    if pass.dryRun then w.goTo id pass (.collecting due)
    else if referenced then w.goTo id pass (.forgetting key due)
    else
      { w with objects := w.objects.remove fun obj => obj.key = key }.goTo id pass (.forgetting key due)
  | .forgetting key due => { w with candidates := deleteCandidate w.candidates key }.goTo id pass (.collecting due)

inductive Action
  | wait (seconds : Nat)
  | createSession (id : Uuid)
  | deleteSession (id : Uuid)
  /-- A batch announces another content hash. -/
  | forget (id : Uuid)
  | put (key : SnapshotKey)
  | publish (key : SnapshotKey)
  | start (id : Nat) (dryRun : Bool)
  | advance (id : Nat)
  | cancel (id : Nat)
  | restart (id : Nat)

def World.publishable (w : World) (key : SnapshotKey) : Bool :=
  w.puts.any fun obj =>
    obj.key = key ∧ w.now ≤ obj.lastModified + PUBLICATION_TIMEOUT

def step (w : World) : Action → World
  | .wait seconds => { w with now := w.now + seconds }
  | .createSession id =>
    match w.rows.get id with
    | some _ => w
    | none => { w with rows := w.rows.put { id, fileKey := none } }
  | .deleteSession id => { w with rows := w.rows.remove fun row => row.id = id }
  | .forget id =>
    match w.rows.get id with
    | some _ => { w with rows := w.rows.put { id, fileKey := none } }
    | none => w
  | .put key =>
    if w.puts.any fun obj => obj.key = key then w
    else
      let obj : S3Object := { key, lastModified := w.now }
      { w with objects := w.objects.put obj, puts := obj :: w.puts }
  | .publish key =>
    match w.rows.get key.sessionId with
    | some row =>
      if w.publishable key then
        { w with rows := w.rows.put { row with fileKey := some key } }
      else w
    | none => w
  | .start id dryRun =>
    match (w.workers id).pass with
    | some _ => w
    | none => w.goTo id { observedAt := w.now, dryRun, phase := .listing } .listing
  | .advance id =>
    match (w.workers id).pass with
    | some pass => advance w id pass
    | none => w
  | .cancel id => w.leave id
  | .restart id => w.withWorker id { startAfter := "", pass := none }

end Clawdi.Snapshots.Retention
