import Clawdi.SessionSearch.Phases

namespace Clawdi.SessionSearch
open Transition List Table Option
variable {w : World} {sess : Session} {rev : DocumentRevision}

def SearchRevision.messages : SearchRevision → List SearchableSessionMessage
  | .events head => searchableEventMessages head
  | .snapshot content => content.searchMessages

lemma currentMessages_of_revision {search}
    (cur : currentSearchRevision sess = some search) : currentMessages sess = search.messages := by
  rw [currentSearchRevision] at cur
  rw [currentMessages]
  split at cur
  · obtain ⟨head, hit, rfl⟩ := map_eq_some_iff.mp cur
    rw [hit]
    rfl
  · cases cur
    rfl
  · cases cur

variable {genId : ℕ}

lemma currentDocumentRevision_events (cur : currentDocumentRevision sess = some (.events genId)) :
    sess.contentProtocol = .eventsV1 ∧ sess.eventGenerationId = some genId := by
  rw [currentDocumentRevision] at cur
  split at cur
  · rename_i protocol
    obtain ⟨alt, hit, same⟩ := map_eq_some_iff.mp cur
    cases same
    exact ⟨protocol, hit⟩
  · cases cur
  · cases cur

lemma currentDocumentRevision_snapshot {content} (cur : currentDocumentRevision sess = some (.snapshot content)) :
    sess.contentProtocol = .snapshotV1 ∧ sess.contentHash = some (.snapshot content) := by
  rw [currentDocumentRevision] at cur
  split at cur
  · obtain ⟨alt, hit, same⟩ := map_eq_some_iff.mp cur
    cases same
  · rename_i alt protocol hash
    cases cur
    exact ⟨protocol, hash⟩
  · cases cur

lemma Current.documents {head} (cur : Current w genId head) (doc : Document) :
    doc ∈ documentsOf (.events genId) (searchableEventMessages head) ↔
      ∃ chunk ∈ w.chunks, chunk.generationId = genId ∧ doc ∈ chunk.documents := by
  rw [mem_documentsOf_events]
  constructor
  · rintro ⟨ev, mem, inside⟩
    obtain ⟨chunk, stands, here, present⟩ := (cur.events ev).mp mem
    refine ⟨chunk, stands, here, ?_⟩
    rw [Chunk.documents, here]
    exact mem_documentsOf_events.mpr ⟨ev, present, inside⟩
  · rintro ⟨chunk, stands, here, inside⟩
    rw [Chunk.documents, here] at inside
    obtain ⟨ev, present, inside⟩ := mem_documentsOf_events.mp inside
    exact ⟨ev, (cur.events ev).mpr ⟨chunk, stands, here, present⟩, inside⟩

lemma Current.positions {head} (cur : Current w genId head) :
    ((searchableEventMessages head).map SearchableSessionMessage.position).Nodup := by
  apply searchableEventMessages_positions
  rw [cur.seqs]
  exact nodup_range

lemma mem_stamped {chunk} : chunk ∈ w.chunks.update (Chunk.stamp rev) (fun _ => rfl) ↔
      ∃ pre ∈ w.chunks, pre.stamp rev = chunk := mem_update

lemma Log.stamp (log : Log w) (rev : DocumentRevision) (documents : Table Document.key)
    (search : Option SearchRevision) :
    Log { w with
      documents
      chunks := w.chunks.update (Chunk.stamp rev) fun _ => rfl
      session := { w.session with searchIndexRevision := search } } where
  valid := by
    intro chunk stands
    obtain ⟨pre, present, rfl⟩ := mem_stamped.mp stands
    exact log.valid pre present
  idle := log.idle
  current := by
    intro genId isCurrent
    obtain ⟨head, holds⟩ := log.current genId isCurrent
    refine ⟨head, holds.protocol, holds.committed, holds.headHash, holds.count, holds.seqs, ?_⟩
    intro ev
    rw [holds.events]
    constructor
    · rintro ⟨chunk, stands, here, inside⟩
      exact ⟨chunk.stamp rev, mem_stamped.mpr ⟨chunk, stands, rfl⟩, here, inside⟩
    · rintro ⟨chunk, stands, here, inside⟩
      obtain ⟨pre, present, rfl⟩ := mem_stamped.mp stands
      exact ⟨pre, present, here, inside⟩

lemma Coherent.writeRebuild (agree : Coherent w) {msgs}
    (read : msgs = currentMessages sess) : Coherent (writeRebuild w sess msgs) := by
  rw [SessionSearch.writeRebuild]
  split
  · exact agree
  rename_i fresh
  simp only [not_or, Decidable.not_not] at fresh
  obtain ⟨sameSearch, sameDocuments⟩ := fresh
  split
  · rename_i searchRevision documentRevision search doc
    split
    · exact agree
    rename_i documents inserted
    rw [search] at sameSearch
    rw [doc] at sameDocuments
    have content : msgs = currentMessages w.session := by
      rw [read, currentMessages_of_revision search, currentMessages_of_revision sameSearch]
    have was : ∀ doc, doc ∈ documents ↔
        doc ∈ documentsOf documentRevision (currentMessages w.session) := by
      intro doc
      rw [mem_addDocuments inserted, content]
      simp
    have log := agree.log.stamp documentRevision documents (some searchRevision)
    cases documentRevision with
    | events genId =>
      obtain ⟨protocol, gen⟩ := currentDocumentRevision_events sameDocuments
      obtain ⟨head, holds⟩ := agree.log.current genId gen
      have messagesHead : currentMessages w.session = searchableEventMessages head := by
        rw [currentMessages, protocol, holds.headHash]
        rfl
      rw [messagesHead] at was
      refine ⟨log, ⟨?_, ?_, agree.placed.read⟩, ⟨?_, ?_⟩⟩
      · intro doc stands alt rev
        have inHead := (was doc).mp stands
        rw [documentsOf_revision inHead] at rev
        cases rev
        obtain ⟨chunk, present, here, inside⟩ := (holds.documents doc).mp inHead
        exact ⟨chunk.stamp _, mem_stamped.mpr ⟨chunk, present, rfl⟩, here, inside⟩
      · intro alt isCurrent chunk stands here _ doc inside
        have same : alt = genId := Option.some.inj (isCurrent.symm.trans gen)
        obtain ⟨pre, present, rfl⟩ := mem_stamped.mp stands
        apply (was doc).mpr
        exact (holds.documents doc).mpr ⟨pre, present, here.trans same, inside⟩
      · intro alt isCurrent _ chunk stands here
        have same : alt = genId := Option.some.inj (isCurrent.symm.trans gen)
        obtain ⟨pre, present, rfl⟩ := mem_stamped.mp stands
        have here : pre.generationId = genId := here.trans same
        simp [Chunk.stamp, here]
      · intro content isSnapshot
        rw [protocol] at isSnapshot
        cases isSnapshot
    | snapshot content =>
      obtain ⟨protocol, hash⟩ := currentDocumentRevision_snapshot sameDocuments
      have idle := agree.log.snapshots (by simp [protocol])
      have never : ∀ genId, w.session.eventGenerationId ≠ some genId := by
        intro genId cur
        rw [idle] at cur
        cases cur
      have messagesContent : currentMessages w.session = content.searchMessages := by
        rw [currentMessages, protocol, hash]
      rw [messagesContent] at was
      refine ⟨log, ⟨?_, fun genId cur => absurd cur (never genId),
        agree.placed.read⟩, ⟨fun genId cur => absurd cur (never genId),
        ?_⟩⟩
      · intro doc stands alt rev
        rw [documentsOf_revision ((was doc).mp stands)] at rev
        cases rev
      · intro alt _ isHash _ doc
        rw [hash] at isHash
        cases isHash
        rw [was]
        constructor
        · exact fun both => both.1
        · exact fun mem => ⟨mem, documentsOf_revision mem⟩
  · exact agree

lemma Coherent.step (agree : Coherent w) {op} (intact : Intact w op) : Coherent (step w op) := by
  cases op with
  | stageGeneration body now => exact agree.stageGeneration body now
  | uploadChunk up was now => exact agree.uploadChunk up was now
  | commitGeneration body now => exact agree.commitGeneration intact
  | append req was now => exact agree.append req was now
  | upsert content eventsRequested => exact agree.upsert content eventsRequested
  | uploadSnapshot content ident now => exact agree.uploadSnapshot content ident now
  | rebuildLoad id =>
    apply agree.rebuildPut
    intro msgs none
    cases none
  | rebuildRead id =>
    rw [SessionSearch.step]
    split
    · exact agree
    · apply agree.rebuildPut
      intro msgs loaded
      exact loadMessages_current loaded
  | rebuildWrite id =>
    rw [SessionSearch.step]
    split
    · exact agree
    · rename_i sess msgs pend
      obtain ⟨rebuild, hit, read⟩ := bind_eq_some_iff.mp pend
      obtain ⟨loaded, has, same⟩ := map_eq_some_iff.mp read
      cases same
      exact agree.writeRebuild (agree.placed.read rebuild (get_eq_some.mp hit).1 msgs has)

structure Start (w : World) : Prop where
  log : Log w
  documents : w.documents = .empty
  rebuilds : w.rebuilds = .empty
  unindexed : ∀ chunk ∈ w.chunks, chunk.indexed = false
  revision : w.session.searchIndexRevision = none

lemma Start.coherent (start : Start w) : Coherent w := by
  refine ⟨start.log, ⟨?_, ?_, ?_⟩, ⟨?_, ?_⟩⟩
  · simp [start.documents]
  · intro genId _ chunk stands _ indexed
    rw [start.unindexed chunk stands] at indexed
    cases indexed
  · simp [start.rebuilds]
  · intro genId cur claims
    obtain ⟨head, holds⟩ := start.log.current genId cur
    rw [start.revision, currentSearchRevision, holds.protocol, holds.headHash] at claims
    cases claims
  · intro content _ _ claims
    rw [start.revision] at claims
    cases claims

def Agrees (w : World) : Prop :=
  w.session.searchIndexRevision = currentSearchRevision w.session →
  ∀ rev, currentDocumentRevision w.session = some rev →
    (w.documents.rows.filter fun doc => doc.contentRevision = rev).Perm
      (documentsOf rev (currentMessages w.session))

lemma perm_documents {msgs : List SearchableSessionMessage}
    (positions : (msgs.map SearchableSessionMessage.position).Nodup)
    (same : ∀ doc, (doc ∈ w.documents ∧ doc.contentRevision = rev) ↔ doc ∈ documentsOf rev msgs) :
    (w.documents.rows.filter fun doc => doc.contentRevision = rev).Perm (documentsOf rev msgs) := by
  have was : (w.documents.rows.filter fun doc =>
      doc.contentRevision = rev).Nodup := w.documents.unique.of_map.filter _
  rw [perm_ext_iff_of_nodup was (documentsOf_keys positions).of_map]
  intro doc
  rw [← same doc, mem_filter, decide_eq_true_eq]
  exact Iff.rfl

lemma Coherent.agrees (agree : Coherent w) : Agrees w := by
  intro claims rev cur
  cases rev with
  | events genId =>
    obtain ⟨protocol, gen⟩ := currentDocumentRevision_events cur
    obtain ⟨head, holds⟩ := agree.log.current genId gen
    have messagesHead : currentMessages w.session = searchableEventMessages head := by
      rw [currentMessages, protocol, holds.headHash]
      rfl
    rw [messagesHead]
    apply perm_documents holds.positions
    intro doc
    rw [holds.documents]
    constructor
    · rintro ⟨stands, isRevision⟩
      exact agree.placed.sound doc stands genId isRevision
    · rintro ⟨chunk, stands, here, inside⟩
      have indexed := agree.claimed.complete genId gen claims chunk stands here
      refine ⟨agree.placed.staged genId gen chunk stands here indexed doc inside, ?_⟩
      rw [chunk_documents_revision inside, here]
  | snapshot content =>
    obtain ⟨protocol, hash⟩ := currentDocumentRevision_snapshot cur
    have search : currentSearchRevision w.session = some (.snapshot content) := by
      rw [currentSearchRevision, protocol, hash]
    have messagesContent : currentMessages w.session = content.searchMessages := by
      rw [currentMessages, protocol, hash]
    rw [messagesContent]
    apply perm_documents (searchMessages_positions content)
    exact agree.claimed.snapshot content protocol hash (claims.trans search)

section

def sampleEvent (seq : ℕ) (text : String) : SessionEvent := ⟨seq, .message .user false [.text text]⟩
def sampleFirst : GenerationBody := ⟨1, 10, ⟨none, 0, 0, []⟩, 1, [sampleEvent 0 "hello"]⟩
end
end Clawdi.SessionSearch
