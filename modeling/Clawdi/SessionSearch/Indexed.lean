import Clawdi.SessionSearch.Index

namespace Clawdi.SessionSearch
open List Table
variable {w w' : World} {chunk : Chunk} {genId : ℕ}

lemma mem_addDocuments {documents after added} (inserted : addDocuments documents added = some after) {doc} :
    doc ∈ after ↔ doc ∈ added ∨ doc ∈ documents := by
  rw [addDocuments] at inserted
  split at inserted
  · rename_i fresh
    cases inserted
    rw [mem_foldl_put fresh.1]
    constructor
    · rintro (new | ⟨old, _⟩)
      · exact .inl new
      · exact .inr old
    · rintro (new | old)
      · exact .inl new
      · refine Or.inr ⟨old, ?_⟩
        intro alt new same
        exact get_eq_none.mp (fresh.2 alt new) doc old same.symm
  · cases inserted

structure Stages (w : World) (chunk : Chunk) (w' : World) : Prop where
  session : w'.session = w.session
  generations : w'.generations = w.generations
  receipts : w'.receipts = w.receipts
  rebuilds : w'.rebuilds = w.rebuilds
  documents : ∀ doc, doc ∈ w'.documents ↔ doc ∈ chunk.documents ∨ doc ∈ w.documents
  chunks : w'.chunks = w.chunks.put { chunk with indexed := true }

lemma stages_of_some (staged : w.stageChunk chunk = some w') : Stages w chunk w' := by
  obtain ⟨documents, inserted, rfl⟩ := Option.map_eq_some_iff.mp staged
  exact ⟨rfl, rfl, rfl, rfl, fun _ => mem_addDocuments inserted, rfl⟩

structure Current (w : World) (genId : ℕ) (head : Head) : Prop where
  protocol : w.session.contentProtocol = .eventsV1
  committed : ∃ gen ∈ w.generations, gen.id = genId ∧ gen.committed = true
  headHash : w.session.eventHeadHash = some head
  count : w.session.eventCount = head.length
  seqs : head.map SessionEvent.seq = List.range head.length
  events : ∀ ev, ev ∈ head ↔ ∃ chunk ∈ w.chunks, chunk.generationId = genId ∧ ev ∈ chunk.events

structure Log (w : World) : Prop where
  valid : ∀ chunk ∈ w.chunks, chunk.events.map SessionEvent.seq = List.range' chunk.startSeq chunk.events.length
  idle : w.session.eventGenerationId = none → w.session.contentProtocol = .snapshotV1
  current : ∀ genId, w.session.eventGenerationId = some genId → ∃ head, Current w genId head

def Stageable (w : World) (chunk : Chunk) : Prop :=
  w.chunks.get chunk.key = some chunk ∨
    (w.chunks.get chunk.key = none ∧ w.session.eventGenerationId ≠ some chunk.generationId)

lemma Stages.events (stages : Stages w chunk w') (stageable : Stageable w chunk)
    (cur : w.session.eventGenerationId = some genId) (ev : SessionEvent) :
    (∃ alt ∈ w'.chunks, alt.generationId = genId ∧ ev ∈ alt.events) ↔
      ∃ alt ∈ w.chunks, alt.generationId = genId ∧ ev ∈ alt.events := by
  rw [stages.chunks]
  constructor
  · rintro ⟨alt, stands, here, inside⟩
    rcases mem_put.mp stands with rfl | ⟨pre, _⟩
    · rcases stageable with existing | ⟨_, apart⟩
      · exact ⟨chunk, (get_eq_some.mp existing).1, here, inside⟩
      · rw [here] at apart
        exact absurd cur apart
    · exact ⟨alt, pre, here, inside⟩
  · rintro ⟨alt, stands, here, inside⟩
    by_cases same : alt.key = chunk.key
    · rcases stageable with existing | ⟨gone, _⟩
      · have equal : alt = chunk :=
          eq_of_key stands (get_eq_some.mp existing).1 same
        subst equal
        exact ⟨_, mem_put_self _ _, here, inside⟩
      · exact absurd same (get_eq_none.mp gone alt stands)
    · exact ⟨alt, mem_put.mpr (.inr ⟨stands, same⟩), here, inside⟩

lemma Log.stage (log : Log w) (stages : Stages w chunk w') (stageable : Stageable w chunk)
    (valid : chunk.events.map SessionEvent.seq = List.range' chunk.startSeq chunk.events.length) : Log w' where
  valid := by
    intro alt stands
    rw [stages.chunks] at stands
    rcases mem_put.mp stands with rfl | ⟨pre, _⟩
    · exact valid
    · exact log.valid alt pre
  idle := by
    rw [stages.session]
    exact log.idle
  current := by
    intro genId cur
    rw [stages.session] at cur
    obtain ⟨head, holds⟩ := log.current genId cur
    refine ⟨head, ?_, ?_, ?_, ?_, holds.seqs, ?_⟩
    · rw [stages.session, holds.protocol]
    · rw [stages.generations]
      exact holds.committed
    · rw [stages.session, holds.headHash]
    · rw [stages.session, holds.count]
    · intro ev
      rw [stages.events stageable cur]
      exact holds.events ev

section
variable {chunks : List Chunk} {nextSeq count : ℕ} {head final : Head}

lemma tileChunks_events (tiled : tileChunks (nextSeq, head) chunks = some (count, final)) :
    final = head ++ chunks.flatMap Chunk.events := by
  induction chunks generalizing nextSeq head with
  | nil =>
    cases tiled
    simp
  | cons chunk chunks ih =>
    rw [tileChunks] at tiled
    split at tiled
    · rename_i follows
      rw [ih tiled, Chunk.resultHeadHash, follows.2]
      simp [advanceEventHead]
    · cases tiled

lemma tileChunks_seqs (valid : ∀ chunk ∈ chunks,
      chunk.events.map SessionEvent.seq = List.range' chunk.startSeq chunk.events.length)
    (length : head.length = nextSeq) (seqs : head.map SessionEvent.seq = List.range nextSeq)
    (tiled : tileChunks (nextSeq, head) chunks = some (count, final)) :
    final.length = count ∧ final.map SessionEvent.seq = List.range count := by
  induction chunks generalizing nextSeq head with
  | nil =>
    cases tiled
    exact ⟨length, seqs⟩
  | cons chunk chunks ih =>
    rw [tileChunks] at tiled
    split at tiled
    · rename_i follows
      have here := valid chunk mem_cons_self
      have goesOn : (chunk.resultHeadHash).map SessionEvent.seq = List.range chunk.next := by
        rw [Chunk.resultHeadHash, advanceEventHead, map_append, follows.2, seqs, here,
          Chunk.next, follows.1, range_eq_range', range_eq_range',
          ← List.range'_append_1]
        simp
      apply ih _ _ goesOn tiled
      · exact fun alt mem => valid alt (mem_cons_of_mem _ mem)
      · simp [Chunk.resultHeadHash, advanceEventHead, Chunk.next, follows.1, follows.2, length]
    · cases tiled

lemma mem_chunksOf : chunk ∈ w.chunksOf genId ↔ chunk ∈ w.chunks ∧ chunk.generationId = genId := by
  simp [World.chunksOf, mem_select]

end

open Table
variable {w w' : World} {chunk : Chunk} {genId : ℕ}

structure Placed (w : World) : Prop where
  sound : ∀ doc ∈ w.documents, ∀ genId, doc.contentRevision = .events genId →
    ∃ chunk ∈ w.chunks, chunk.generationId = genId ∧ doc ∈ chunk.documents
  staged : ∀ genId, w.session.eventGenerationId = some genId →
    ∀ chunk ∈ w.chunks, chunk.generationId = genId → chunk.indexed = true →
    ∀ doc ∈ chunk.documents, doc ∈ w.documents
  read : ∀ rebuild ∈ w.rebuilds, ∀ msgs, rebuild.messages = some msgs → msgs = currentMessages rebuild.session

structure Claimed (w : World) : Prop where
  complete : ∀ genId, w.session.eventGenerationId = some genId →
    w.session.searchIndexRevision = currentSearchRevision w.session →
    ∀ chunk ∈ w.chunks, chunk.generationId = genId → chunk.indexed = true
  snapshot : ∀ content, w.session.contentProtocol = .snapshotV1 → w.session.contentHash = some (.snapshot content) →
    w.session.searchIndexRevision = some (.snapshot content) → ∀ doc : Document,
    (doc ∈ w.documents ∧ doc.contentRevision = .snapshot content) ↔
      doc ∈ documentsOf (.snapshot content) content.searchMessages

lemma chunk_documents_revision {doc} (mem : doc ∈ chunk.documents) :
    doc.contentRevision = .events chunk.generationId := documentsOf_revision mem

lemma Placed.stage (placed : Placed w) (stages : Stages w chunk w')
    (stageable : Stageable w chunk) : Placed w' where
  sound := by
    intro doc stands genId rev
    rw [stages.chunks]
    rcases (stages.documents doc).mp stands with own | pre
    · have here := chunk_documents_revision own
      rw [rev] at here
      cases here
      exact ⟨_, mem_put_self _ _, rfl, own⟩
    · obtain ⟨alt, present, here, inside⟩ := placed.sound doc pre genId rev
      by_cases same : alt.key = chunk.key
      · rcases stageable with old | ⟨gone, _⟩
        · have equal : alt = chunk :=
            eq_of_key present (get_eq_some.mp old).1 same
          subst equal
          exact ⟨_, mem_put_self _ _, here, inside⟩
        · exact absurd same (get_eq_none.mp gone alt present)
      · exact ⟨alt, mem_put.mpr (.inr ⟨present, same⟩), here, inside⟩
  staged := by
    intro genId cur alt stands here indexed doc inside
    rw [stages.session] at cur
    rw [stages.chunks] at stands
    rw [stages.documents]
    rcases mem_put.mp stands with rfl | ⟨pre, _⟩
    · exact .inl inside
    · exact .inr (placed.staged genId cur alt pre here indexed doc inside)
  read := by
    rw [stages.rebuilds]
    exact placed.read

lemma Claimed.stage (claimed : Claimed w) (stages : Stages w chunk w') : Claimed w' where
  complete := by
    intro genId cur rev alt stands here
    rw [stages.session] at cur rev
    rw [stages.chunks] at stands
    rcases mem_put.mp stands with rfl | ⟨pre, _⟩
    · rfl
    · exact claimed.complete genId cur rev alt pre here
  snapshot := by
    intro content protocol hash rev doc
    rw [stages.session] at protocol hash rev
    rw [← claimed.snapshot content protocol hash rev doc, stages.documents]
    constructor
    · rintro ⟨own | pre, isSnapshot⟩
      · rw [chunk_documents_revision own] at isSnapshot
        cases isSnapshot
      · exact ⟨pre, isSnapshot⟩
    · rintro ⟨pre, isSnapshot⟩
      exact ⟨.inr pre, isSnapshot⟩

lemma Placed.finalize (placed : Placed w) (cur : w.session.eventGenerationId = some genId) (complete : Bool) :
    Placed (w.finalizeEventSearchIndex genId complete) where
  sound := by
    intro doc stands alt rev
    exact placed.sound doc (mem_remove.mp stands).1 alt rev
  staged := by
    intro alt isCurrent chunk stands here indexed doc inside
    have same : alt = genId := Option.some.inj (isCurrent.symm.trans cur)
    refine mem_remove.mpr ⟨placed.staged alt isCurrent chunk stands here indexed doc inside, ?_⟩
    rw [chunk_documents_revision inside, here, same]
    simp
  read := placed.read

lemma Claimed.finalize (log : Log w) (complete : Bool)
    (cur : w.session.eventGenerationId = some genId) (all : complete = true →
      ∀ chunk ∈ w.chunks, chunk.generationId = genId → chunk.indexed = true) :
    Claimed (w.finalizeEventSearchIndex genId complete) := by
  obtain ⟨head, holds⟩ := log.current genId cur
  have rev : currentSearchRevision w.session = some (.events head) := by
    rw [currentSearchRevision, holds.protocol, holds.headHash]
    rfl
  refine ⟨?_, ?_⟩
  · intro alt isCurrent claims chunk stands here
    have same : alt = genId := Option.some.inj (isCurrent.symm.trans cur)
    rw [same] at here
    cases complete with
    | true => exact all rfl chunk stands here
    | false =>
      have claims : none = currentSearchRevision w.session := claims
      rw [rev] at claims
      cases claims
  · intro content protocol
    have protocol : w.session.contentProtocol = .snapshotV1 := protocol
    rw [holds.protocol] at protocol
    cases protocol

lemma Log.finalize (log : Log w) (complete : Bool) : Log (w.finalizeEventSearchIndex genId complete) where
  valid := log.valid
  idle := log.idle
  current := by
    intro alt isCurrent
    obtain ⟨head, holds⟩ := log.current alt isCurrent
    exact ⟨head, holds.protocol, holds.committed, holds.headHash, holds.count, holds.seqs, holds.events⟩

lemma eventSearchProjectionComplete_iff : w.eventSearchProjectionComplete genId = true ↔
    ∀ chunk ∈ w.chunks, chunk.generationId = genId → chunk.indexed = true := by
  rw [World.eventSearchProjectionComplete, List.all_eq_true]
  constructor
  · intro all chunk stands here
    exact all chunk (mem_chunksOf.mpr ⟨stands, here⟩)
  · intro all chunk mem
    obtain ⟨stands, here⟩ := mem_chunksOf.mp mem
    exact all chunk stands here

structure Coherent (w : World) : Prop where
  log : Log w
  placed : Placed w
  claimed : Claimed w

lemma Coherent.stage (agree : Coherent w) (staged : w.stageChunk chunk = some w')
    (stageable : Stageable w chunk) (valid : chunk.events.map SessionEvent.seq =
      List.range' chunk.startSeq chunk.events.length) : Coherent w' := by
  have stages := stages_of_some staged
  exact ⟨agree.log.stage stages stageable valid, agree.placed.stage stages stageable, agree.claimed.stage stages⟩

lemma Coherent.finalize (log : Log w) (placed : Placed w)
    (cur : w.session.eventGenerationId = some genId) {complete} (all : complete = true →
      ∀ chunk ∈ w.chunks, chunk.generationId = genId → chunk.indexed = true) :
    Coherent (w.finalizeEventSearchIndex genId complete) :=
  ⟨log.finalize complete, placed.finalize cur complete, Claimed.finalize log complete cur all⟩

end Clawdi.SessionSearch
