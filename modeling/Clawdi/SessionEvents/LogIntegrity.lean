import Clawdi.SessionEvents.Reads

namespace Clawdi.SessionEvents
open Transition List Table

/-- The generation is committed, tiles the session's positions and chains the head hash. -/
structure Tiled (db : Db) (session : Session) (gen : Generation) : Prop where
  current : session.eventGenerationId = some gen.id
  stored : db.generations.get gen.id = some gen
  committed : gen.status = .committed
  covered : ∀ seq < session.eventCount, ∃! chunk, chunk ∈ db.chunksOf gen.id ∧
    chunk.startSeq ≤ seq ∧ seq ≤ chunk.endSeq
  within : ∀ chunk ∈ db.chunksOf gen.id, chunk.startSeq ≤ chunk.endSeq ∧ chunk.endSeq < session.eventCount
  chained : Linked Chunk.source Chunk.target (0, EMPTY_EVENT_HEAD) (db.chunksOf gen.id)
    (session.eventCount, currentHead session)

def Intact (w : World) : Prop :=
  ∀ session ∈ w.db.sessions, session.contentProtocol = .eventsV1 → ∃ gen, Tiled w.db session gen

def ReadsUnfaulted (w : World) : Prop :=
  ∀ call ∈ w.calls, ∀ sid err, call.request = .read sid → call.progress = .answered (.error err) → err ∉ readFaults

/-- A step keeps a session or raises its revision by one; only a commit over the exact head drops events. -/
def KeepsEvents (adapter : EventAdapter) (w : World) (act : Action) : Prop :=
  ∀ session ∈ w.db.sessions, ∃ later ∈ (step adapter w act).db.sessions, later.id = session.id ∧
      (later = { session with originProfileKey := later.originProfileKey } ∧ (step adapter w act).db.log later = w.db.log session ∨
        later.eventRevision = session.eventRevision + 1 ∧ (later.eventGenerationId = session.eventGenerationId ∧
              w.db.log session <+: (step adapter w act).db.log later ∨
            ∃ body, Executes w act (.commit body) .received ∧ session.head = body.base))

section
variable {adapter : EventAdapter} {uploads : List Bytes} {w : World}

lemma LogSound.tiled (inv : StoreSound adapter uploads w) {session}
    {gen : Generation} (log : LogSound w.db session gen.id) (cur : session.eventGenerationId = some gen.id)
    (was : w.db.generations.get gen.id = some gen) (done : gen.status = .committed) : Tiled w.db session gen := by
  have bounds := log.starts_before inv.chunks
  have grows : ∀ chunk ∈ w.db.chunksOf gen.id, chunk.source.1 < chunk.target.1 :=
    fun chunk mem => (bounds chunk mem).1
  refine ⟨cur, was, done, ?_, ?_, log.linked⟩
  · intro seq below
    obtain ⟨chunk, mem, start, stop⟩ := log.linked.covers Prod.fst (Nat.zero_le seq) below
    refine ⟨chunk, ⟨mem, start, Nat.lt_succ_iff.mp stop⟩, ?_⟩
    intro alt ⟨memberOther, startOther, stopOther⟩
    exact log.linked.disjoint Prod.fst grows memberOther mem ⟨startOther, Nat.lt_succ_iff.mpr stopOther⟩ ⟨start, stop⟩
  · intro chunk mem
    have bound := bounds chunk mem
    omega

lemma WorldSound.intact (inv : WorldSound adapter uploads w) : Intact w := by
  intro session mem protocol
  cases cur : session.eventGenerationId with
  | none =>
    rw [inv.db.unlogged session mem cur] at protocol
    cases protocol
  | some genId =>
    have log := inv.db.logs session mem genId cur
    obtain ⟨gen, was, done, _⟩ := log.committed
    have named : gen.id = genId := (get_eq_some.mp was).2
    subst named
    exact ⟨gen, log.tiled inv.store cur was done⟩

lemma WorldSound.keepsEvents (inv : WorldSound adapter uploads w) (act : Action) : KeepsEvents adapter w act := by
  intro session mem
  have change := step_change inv.store act
  obtain ⟨later, hit, logStep⟩ := change.logStep inv.db inv.store.chunks inv.unused mem
  obtain ⟨memberLater, named⟩ := get_eq_some.mp hit
  refine ⟨later, memberLater, named, ?_⟩
  cases logStep with
  | same key log => exact .inl ⟨rfl, log⟩
  | extended req chunk grows log =>
    refine Or.inr ⟨rfl, .inl ⟨rfl, ?_⟩⟩
    rw [log]
    exact prefix_append _ _
  | replaced body ran cur gen was staging => exact .inr ⟨rfl, .inr ⟨body, ran, cur⟩⟩

end

section
variable (adapter : EventAdapter) (acts : List Action)

lemma uploads_known : Always (step adapter)
    (fun _ act => ∀ data ∈ act.uploads, data ∈ uploads acts) World.empty acts := by
  apply Always.of_mem
  intro act mem _ data upload
  exact mem_flatMap.mpr ⟨act, mem, upload⟩

/-- In every run whose reads are not torn by an append or deletion, every session with events has a
committed generation that tiles its log, the revision counts the changes, and events are dropped only by
a commit over the exact current head. -/
theorem event_log_integrity (collisionFree : CollisionFree (uploads acts))
    (spared : Always (step adapter) (fun w act => sparesReads w act = true) World.empty acts) : Always (step adapter)
      (fun w act => Intact w ∧ ReadsUnfaulted w ∧ KeepsEvents adapter w act)
      World.empty acts ∧ Intact (run (step adapter) World.empty acts) ∧
    ReadsUnfaulted (run (step adapter) World.empty acts) := by
  have guarded := (uploads_known adapter acts).and spared
  have start : WorldSound adapter (uploads acts) World.empty ∧ ReadsSound adapter World.empty :=
    ⟨.empty, fun call mem => absurd mem (not_mem_empty call)⟩
  have keeps : ∀ w act, WorldSound adapter (uploads acts) w ∧ ReadsSound adapter w →
      (∀ data ∈ act.uploads, data ∈ uploads acts) ∧ sparesReads w act = true →
      WorldSound adapter (uploads acts) (step adapter w act) ∧
        ReadsSound adapter (step adapter w act) := by
    intro w act ⟨inv, reads⟩ ⟨known, spares⟩
    exact ⟨inv.step known, step_reads_sound inv collisionFree reads spares⟩
  have unfaulted : ∀ w, ReadsSound adapter w → ReadsUnfaulted w := fun w reads call mem => (reads call mem).answered
  have final := Always.invariant keeps start guarded
  refine ⟨Always.strengthen keeps ?_ start guarded, final.1.intact, unfaulted _ final.2⟩
  intro w act ⟨inv, reads⟩ _
  exact ⟨inv.intact, unfaulted w reads, inv.keepsEvents act⟩

end

namespace Sample

def event (recordId eventId : String) (seq : Int) : RawSessionEvent :=
  [("event_id", .text eventId), ("parts", .list []), ("role", .text "user"), ("seq", .int seq),
    ("source", .object [("adapter", .text "pi"), ("record_id", .text recordId), ("session_key", .text "s")]),
    ("type", .text "message")]

def hello : RawSessionEvent := event "r0" "b1455779a3cbc24851f1d8f3b5915ed4b91c4f180f9c06c662d484c4aadcb586" 0
def reply : RawSessionEvent := event "r1" "8091d0b138ee4c36569a84b2384a84f1cfaa5620e181e8fecfb3aa8ba8465308" 1
def line (ev : RawSessionEvent) : Bytes := canonicalEventJson (.object ev)

def adapter : EventAdapter where
  rawEvent text := [hello, reply].find? fun ev => text = line ev
  event text :=
    if text = line hello then
      .ok ⟨0, 0xb1455779a3cbc24851f1d8f3b5915ed4b91c4f180f9c06c662d484c4aadcb586⟩
    else if text = line reply then
      .ok ⟨1, 0x8091d0b138ee4c36569a84b2384a84f1cfaa5620e181e8fecfb3aa8ba8465308⟩
    else .error "seq (missing)"

def data : Bytes := line hello ++ [0x0a]
def replyData : Bytes := line reply ++ [0x0a]
def auth : Auth := ⟨"user-1", none⟩

def session : Session where
  id := "session-1"
  userId := "user-1"
  originEnvironmentId := some "env-1"
  localSessionId := "local-1"
  originProfileKey := ""
  contentProtocol := .snapshotV1
  contentHash := none
  eventGenerationId := none
  eventRevision := 0
  eventCount := 0
  eventHeadHash := none

def emptyHead : EventHead := ⟨none, 0, 0, EMPTY_EVENT_HEAD⟩

def stage : GenerationCreate where
  localSessionId := "local-1"
  profileKey := some ""
  environmentId := "env-1"
  generation := "generation-1"
  appendId := "append-1"
  base := emptyHead
  finalCount := 0
  finalHeadHash := EMPTY_EVENT_HEAD

def commit : CommitRequest where
  localSessionId := "local-1"
  generationId := "generation-1"
  profileKey := some ""
  appendId := "append-1"
  base := emptyHead
  finalCount := 0
  finalHeadHash := EMPTY_EVENT_HEAD

def append : EventAppend where
  localSessionId := "local-1"
  environmentId := "env-1"
  profileKey := some ""
  appendId := "append-2"
  generation := "generation-1"
  baseRevision := 1
  baseCount := 0
  baseHeadHash := EMPTY_EVENT_HEAD
  finalCount := 1
  finalHeadHash := advanceEventHead EMPTY_EVENT_HEAD [hello]
  contentHash := sha256 data
  data := data

def appendReply : EventAppend :=
  { append with appendId := "append-3", baseRevision := 2, baseCount := 1,
                baseHeadHash := append.finalHeadHash, finalCount := 2,
                finalHeadHash := advanceEventHead EMPTY_EVENT_HEAD [hello, reply],
                contentHash := sha256 replyData, data := replyData }

def published : List Action :=
  [.createSession session, .receive 0 auth (.stage stage), .advance 0 10,
    .receive 1 auth (.commit commit), .advance 1 11]

def appended : List Action :=
  published ++ [.receive 2 auth (.upload (.append append)), .advance 2 20, .advance 2 21, .advance 2 22]

def replied : List Action :=
  [.receive 3 auth (.upload (.append appendReply)), .advance 3 23, .advance 3 24, .advance 3 25]

def quietRead : List Action :=
  appended ++ [.receive 4 auth (.read "session-1"), .advance 4 23, .advance 4 24] ++ replied ++
    [.advance 4 26, .advance 4 27]

def tornRead : List Action :=
  published ++
    [.receive 2 auth (.read "session-1"), .receive 3 auth (.upload (.append append)),
      .advance 3 20, .advance 3 21, .advance 2 22, .advance 3 23, .advance 2 24, .advance 2 25,
      .advance 2 26]

end Sample

open Sample

def faulted (w : World) : Bool :=
  w.calls.rows.any fun call =>
    match call.request, call.progress with
    | .read _, .answered (.error err) => err ∈ readFaults
    | _, _ => false

lemma readsUnfaulted_iff {w} : ReadsUnfaulted w ↔ faulted w = false := by
  unfold ReadsUnfaulted faulted
  rw [any_eq_false]
  constructor
  · intro unfaulted call mem
    split
    · rename_i sid err req prog
      have unlisted : err ∉ readFaults := unfaulted call mem sid err req prog
      simpa using unlisted
    · exact Bool.false_ne_true
  · intro none call mem sid err req prog
    have unlisted := none call mem
    simpa only [req, prog, decide_eq_true_eq] using unlisted

instance (w : World) : Decidable (ReadsUnfaulted w) := decidable_of_iff' _ readsUnfaulted_iff

lemma collisionFree_singleton (data : Bytes) : CollisionFree [data] := by
  intro one memberOne alt memberOther _
  rw [mem_singleton.mp memberOne, mem_singleton.mp memberOther]

theorem event_log_integrity_quietRead : Intact (run (step adapter) World.empty quietRead) ∧
      ReadsUnfaulted (run (step adapter) World.empty quietRead) := by
  have collisionFree : CollisionFree (uploads quietRead) := by
    unfold CollisionFree
    decide +kernel
  exact (event_log_integrity adapter quietRead collisionFree (by decide +kernel)).2

/-- A read is answered with an internal error when an append commits between its two queries. -/
theorem torn_read_faulted : ¬∀ acts, CollisionFree (uploads acts) →
      ReadsUnfaulted (run (step adapter) World.empty acts) := by
  intro unfaulted
  have quiet := unfaulted tornRead (collisionFree_singleton data)
  exact absurd quiet (by decide +kernel)

end Clawdi.SessionEvents
