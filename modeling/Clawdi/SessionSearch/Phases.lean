import Clawdi.SessionSearch.Indexed

namespace Clawdi.SessionSearch
open Transition
variable {w w' : World} {chunk : Chunk} {genId : ℕ}

def Intact (w : World) : Operation → Prop
  | .commitGeneration body now => commits w body now = true → ∀ chunk ∈ w.chunks,
      chunk.generationId = body.generation → chunk.indexed = true →
      ∀ doc ∈ chunk.documents, doc ∈ w.documents
  | _ => True

instance Intact.decidable (w : World) : (op : Operation) → Decidable (Intact w op)
  | .commitGeneration body now => inferInstanceAs (Decidable (commits w body now = true →
      ∀ chunk ∈ w.chunks, chunk.generationId = body.generation → chunk.indexed = true →
      ∀ doc ∈ chunk.documents, doc ∈ w.documents.rows))
  | .stageGeneration _ _ | .uploadChunk _ _ _ | .append _ _ _ | .upsert _ _ | .uploadSnapshot _ _ _
  | .rebuildLoad _ | .rebuildRead _ | .rebuildWrite _ => .isTrue trivial

lemma Log.staging (log : Log w) {gen} (hit : w.generations.get genId = some gen) (staging : gen.committed = false) :
    w.session.eventGenerationId ≠ some genId := by
  intro cur
  obtain ⟨head, holds⟩ := log.current genId cur
  obtain ⟨alt, stands, here, done⟩ := holds.committed
  obtain ⟨present, same⟩ := Table.get_eq_some.mp hit
  have equal : alt = gen := Table.eq_of_key stands present (here.trans same.symm)
  rw [equal, staging] at done
  cases done

lemma Coherent.stageGeneration (agree : Coherent w) (body : GenerationBody) (now : ℕ) :
    Coherent (stageSessionEventGeneration w body now) := by
  rw [stageSessionEventGeneration]
  split
  · exact agree
  rename_i new
  split
  · exact agree
  split
  · exact agree
  have gone : w.generations.get body.generation = none := by simpa using new
  refine ⟨⟨agree.log.valid, agree.log.idle, ?_⟩, ⟨agree.placed.sound, agree.placed.staged, agree.placed.read⟩,
    ⟨agree.claimed.complete, agree.claimed.snapshot⟩⟩
  intro genId cur
  obtain ⟨head, holds⟩ := agree.log.current genId cur
  obtain ⟨gen, stands, here, done⟩ := holds.committed
  have kept : gen.id ≠ body.generation := Table.get_eq_none.mp gone gen stands
  exact ⟨head, holds.protocol, ⟨gen, Table.mem_put.mpr (.inr ⟨stands, kept⟩), here, done⟩,
    holds.headHash, holds.count, holds.seqs, holds.events⟩

lemma validEvents_seqs {startSeq : ℕ} {evs} (valid : validEvents startSeq evs = true) :
    evs.map SessionEvent.seq = List.range' startSeq evs.length := by
  simp only [validEvents, Bool.and_eq_true, decide_eq_true_eq] at valid
  exact valid.2

lemma Coherent.stage_getD (agree : Coherent w) (stageable : Stageable w chunk)
    (valid : chunk.events.map SessionEvent.seq = List.range' chunk.startSeq chunk.events.length) :
    Coherent ((w.stageChunk chunk).getD w) := by
  cases staged : w.stageChunk chunk with
  | none => exact agree
  | some w' => exact agree.stage staged stageable valid

lemma Coherent.uploadChunk (agree : Coherent w) (up : ChunkUpload) (was : Bool)
    (now : ℕ) : Coherent (uploadSessionEventGenerationChunk w up was now) := by
  rw [uploadSessionEventGenerationChunk]
  split
  · exact agree
  rename_i valid
  split
  · exact agree
  rename_i gen hit
  split
  · exact agree
  rename_i open_
  have staging : gen.committed = false := by
    simp only [Bool.or_eq_true, not_or, Bool.not_eq_true] at open_
    exact open_.1
  split
  · rename_i old present
    split
    · exact agree
    split
    · exact agree
    · obtain ⟨stands, key⟩ := Table.get_eq_some.mp present
      apply agree.stage_getD
      · exact .inl (Table.get_key stands)
      · exact agree.log.valid old stands
  · rename_i gone
    split
    · apply agree.stage_getD
      · exact .inr ⟨gone, agree.log.staging hit staging⟩
      · exact validEvents_seqs (by simpa using valid)
    · exact agree

lemma commits_facts {body} {now : ℕ} (commits : commits w body now = true) :
    ∃ gen ∈ w.generations, gen.id = body.generation ∧
      w.session.base = body.base ∧ tileChunks (0, EMPTY_EVENT_HEAD) (w.chunksOf body.generation) =
        some (body.finalCount, body.finalHeadHash) := by
  rw [SessionSearch.commits] at commits
  split at commits
  · cases commits
  · rename_i gen hit
    rw [Bool.and_eq_true, decide_eq_true_eq] at commits
    obtain ⟨⟨_, _, _, _, _, base, tiled⟩, _⟩ := commits
    obtain ⟨stands, here⟩ := Table.get_eq_some.mp hit
    exact ⟨gen, stands, here, base, tiled⟩

lemma Coherent.commitGeneration (agree : Coherent w) {body} {now : ℕ}
    (intact : Intact w (.commitGeneration body now)) : Coherent (commitSessionEventGeneration w body now) := by
  rw [commitSessionEventGeneration]
  split
  · rename_i activates
    obtain ⟨gen, stands, here, _, tiled⟩ := commits_facts activates
    have mems : ∀ chunk ∈ w.chunksOf body.generation, chunk ∈ w.chunks := fun chunk mem => (mem_chunksOf.mp mem).1
    obtain ⟨length, seqs⟩ := tileChunks_seqs (fun chunk mem => agree.log.valid chunk (mems chunk mem))
      (rfl : EMPTY_EVENT_HEAD.length = 0) rfl tiled
    have evs := tileChunks_events tiled
    rw [← length] at seqs
    apply Coherent.finalize
    · refine ⟨agree.log.valid, by simp, ?_⟩
      intro genId cur
      cases cur
      refine ⟨body.finalHeadHash, rfl, ?_, rfl, length.symm, seqs, ?_⟩
      · have mem : gen.commit body.generation ∈ w.generations.update
            (Generation.commit body.generation) (Generation.commit_id body.generation) :=
          Table.mem_update.mpr ⟨gen, stands, rfl⟩
        refine ⟨gen.commit body.generation, mem, ?_, ?_⟩
        · rw [Generation.commit_id, here]
        · rw [Generation.commit, if_pos here]
      · intro ev
        rw [evs]
        simp only [EMPTY_EVENT_HEAD, List.nil_append, List.mem_flatMap, mem_chunksOf, and_assoc]
    · refine ⟨agree.placed.sound, ?_, agree.placed.read⟩
      intro genId cur
      cases cur
      exact intact activates
    · rfl
    · exact eventSearchProjectionComplete_iff.mp
  · exact agree

lemma Coherent.replay (agree : Coherent w) (req : EventAppend) (rcpt : AppendReceipt) :
    Coherent (replayAppend w req rcpt) := by
  rw [replayAppend]
  split
  · exact agree
  split
  · exact agree
  rename_i based
  have cur : w.session.eventGenerationId = some req.generationId := by
    have same : w.session.base = ⟨some req.generationId, rcpt.resultRevision,
        req.finalCount, req.finalHeadHash⟩ := by simpa using based
    exact congrArg Base.generation same
  split
  · exact agree
  rename_i old present
  split
  · exact agree
  split
  · exact agree
  rename_i staged stages
  obtain ⟨stands, _⟩ := Table.get_eq_some.mp present
  have after := agree.stage stages (.inl (Table.get_key stands)) (agree.log.valid old stands)
  have same : staged.session = w.session := (stages_of_some stages).session
  apply Coherent.finalize after.log after.placed
  · rw [same, cur]
  · exact eventSearchProjectionComplete_iff.mp

lemma Coherent.extend (agree : Coherent w) {req : EventAppend} {staged} {rcpts} (sess : Session)
    (valid : validEvents req.base.count req.events = true)
    (appends : appends w req = true) (stages : Stages w req.chunk staged)
    (protocol : sess.contentProtocol = w.session.contentProtocol)
    (gen : sess.eventGenerationId = w.session.eventGenerationId)
    (headHash : sess.eventHeadHash = some req.finalHeadHash) (count : sess.eventCount = req.finalCount) :
    Log { staged with session := sess, receipts := rcpts } ∧ Placed { staged with session := sess, receipts := rcpts } := by
  simp only [SessionSearch.appends, Bool.and_eq_true, decide_eq_true_eq, Option.isNone_iff_eq_none] at appends
  obtain ⟨⟨based, isCurrent, gone⟩, _⟩ := appends
  have cur : w.session.eventGenerationId = some req.generationId := (congrArg Base.generation based).trans isCurrent
  obtain ⟨head, holds⟩ := agree.log.current _ cur
  have baseHead : req.base.headHash = head := by
    rw [← based, Session.base, holds.headHash]
    rfl
  have baseCount : req.base.count = head.length := by
    rw [← based, ← holds.count]
    rfl
  have seqs := validEvents_seqs valid
  have stands : ∀ alt, alt ∈ staged.chunks ↔ alt = req.chunk ∨
      alt ∈ w.chunks := by
    intro alt
    rw [stages.chunks, Table.mem_put]
    constructor
    · rintro (rfl | ⟨pre, _⟩)
      · exact .inl rfl
      · exact .inr pre
    · rintro (rfl | pre)
      · exact .inl rfl
      · exact .inr ⟨pre, Table.get_eq_none.mp gone alt pre⟩
  constructor
  · refine ⟨?_, ?_, ?_⟩
    · intro alt mem
      rcases (stands alt).mp mem with rfl | pre
      · exact seqs
      · exact agree.log.valid alt pre
    · intro none
      rw [gen, cur] at none
      cases none
    · intro genId isActive
      have same : genId = req.generationId := by
        rw [gen, cur] at isActive
        exact (Option.some.inj isActive).symm
      subst same
      refine ⟨req.finalHeadHash, ?_, ?_, headHash, ?_, ?_, ?_⟩
      · rw [← holds.protocol, ← protocol]
      · obtain ⟨row, present, done⟩ := holds.committed
        refine ⟨row, ?_, done⟩
        rw [stages.generations]
        exact present
      · show sess.eventCount = _
        rw [count, EventAppend.finalCount, EventAppend.finalHeadHash, advanceEventHead, baseHead,
          baseCount, List.length_append]
      · rw [EventAppend.finalHeadHash, advanceEventHead, baseHead, List.map_append, holds.seqs,
          seqs, baseCount, List.length_append, List.range_eq_range', List.range_eq_range',
          ← List.range'_append_1, Nat.zero_add]
      · intro ev
        rw [EventAppend.finalHeadHash, advanceEventHead, baseHead, List.mem_append, holds.events]
        constructor
        · rintro (⟨alt, pre, here, inside⟩ | inside)
          · exact ⟨alt, (stands alt).mpr (.inr pre), here, inside⟩
          · exact ⟨req.chunk, (stands _).mpr (.inl rfl), rfl, inside⟩
        · rintro ⟨alt, mem, here, inside⟩
          rcases (stands alt).mp mem with rfl | pre
          · exact .inr inside
          · exact .inl ⟨alt, pre, here, inside⟩
  · refine ⟨?_, ?_, ?_⟩
    · intro doc mem alt rev
      rcases (stages.documents doc).mp mem with own | pre
      · have here := chunk_documents_revision own
        rw [rev] at here
        cases here
        exact ⟨req.chunk, (stands _).mpr (.inl rfl), rfl, own⟩
      · obtain ⟨chunk, present, here, inside⟩ :=
          agree.placed.sound doc pre alt rev
        exact ⟨chunk, (stands chunk).mpr (.inr present), here, inside⟩
    · intro alt isActive chunk mem here indexed doc inside
      have isActive : w.session.eventGenerationId = some alt := gen ▸ isActive
      refine (stages.documents doc).mpr ?_
      rcases (stands chunk).mp mem with rfl | pre
      · exact .inl inside
      · exact .inr (agree.placed.staged alt isActive chunk pre here indexed doc inside)
    · intro rebuild mem
      rw [stages.rebuilds] at mem
      exact agree.placed.read rebuild mem

lemma Coherent.append (agree : Coherent w) (req : EventAppend) (was : Bool) (now : ℕ) :
    Coherent (appendSessionEvents w req was now) := by
  rw [appendSessionEvents]
  split
  · exact agree
  rename_i valid
  split
  · exact agree.replay req _
  split
  · exact agree
  rename_i sent
  split
  · exact agree
  rename_i staged staging
  have appends : appends w req = true := by
    simp only [Bool.or_eq_true, not_or, Bool.not_eq_true, Bool.not_eq_false'] at sent
    exact sent.2
  have stages := stages_of_some staging
  have valid : validEvents req.base.count req.events = true := by simpa using valid
  have cur : w.session.eventGenerationId = some req.generationId := by
    simp only [SessionSearch.appends, Bool.and_eq_true, decide_eq_true_eq] at appends
    exact (congrArg Base.generation appends.1.1).trans appends.1.2.1
  apply Coherent.finalize
  · exact (agree.extend (w.session.append req now) valid appends stages rfl rfl rfl rfl).1
  · exact (agree.extend (w.session.append req now) valid appends stages rfl rfl rfl rfl).2
  · exact cur
  · intro complete chunk mem here
    rw [stages.chunks] at mem
    rcases Table.mem_put.mp mem with rfl | ⟨pre, _⟩
    · rfl
    · exact eventSearchProjectionComplete_iff.mp complete chunk pre here

lemma Log.snapshots (log : Log w) (protocol : w.session.contentProtocol ≠ .eventsV1) :
    w.session.eventGenerationId = none := by
  cases cur : w.session.eventGenerationId with
  | none => rfl
  | some genId =>
    obtain ⟨head, holds⟩ := log.current genId cur
    exact absurd holds.protocol protocol

lemma Coherent.upsert (agree : Coherent w) (content : Snapshot) (eventsRequested : Bool) :
    Coherent (upsertSession w content eventsRequested) := by
  rw [upsertSession]
  split
  · exact agree
  rename_i changes
  simp only [not_or] at changes
  have idle := agree.log.snapshots changes.2.1
  refine ⟨⟨agree.log.valid, agree.log.idle, ?_⟩,
    ⟨agree.placed.sound, agree.placed.staged, agree.placed.read⟩, ⟨?_, ?_⟩⟩
  · intro genId cur
    rw [idle] at cur
    cases cur
  · intro genId cur
    rw [idle] at cur
    cases cur
  · intro alt protocol hash rev
    cases rev

lemma Coherent.uploadSnapshot (agree : Coherent w) (content : Snapshot)
    (ident : Option ContentHash × Option ℕ) (now : ℕ) : Coherent (uploadSessionContent w content ident now) := by
  rw [uploadSessionContent]
  split
  · exact agree
  rename_i changes
  simp only [not_or] at changes
  have idle := agree.log.snapshots changes.1
  have never : ∀ genId, w.session.eventGenerationId ≠ some genId := by
    intro genId cur
    rw [idle] at cur
    cases cur
  split
  · exact agree
  rename_i documents inserted
  have was : ∀ doc, doc ∈ documents ↔
      doc ∈ documentsOf (.snapshot content) content.searchMessages := by
    intro doc
    rw [mem_addDocuments inserted]
    simp
  refine ⟨⟨agree.log.valid, agree.log.idle, fun genId cur =>
    absurd cur (never genId)⟩, ⟨?_, fun genId cur =>
    absurd cur (never genId), agree.placed.read⟩, ⟨fun genId cur =>
    absurd cur (never genId), ?_⟩⟩
  · intro doc stands genId rev
    rw [documentsOf_revision ((was doc).mp stands)] at rev
    cases rev
  · intro alt protocol hash rev doc
    cases hash
    rw [was]
    constructor
    · exact fun both => both.1
    · exact fun mem => ⟨mem, documentsOf_revision mem⟩

lemma Coherent.rebuildPut (agree : Coherent w) {rebuild : Rebuild}
    (read : ∀ msgs, rebuild.messages = some msgs → msgs = currentMessages rebuild.session) :
    Coherent { w with rebuilds := w.rebuilds.put rebuild } := by
  refine ⟨⟨agree.log.valid, agree.log.idle, ?_⟩, ⟨agree.placed.sound, agree.placed.staged, ?_⟩,
    ⟨agree.claimed.complete, agree.claimed.snapshot⟩⟩
  · intro genId cur
    obtain ⟨head, holds⟩ := agree.log.current genId cur
    exact ⟨head, holds.protocol, holds.committed, holds.headHash, holds.count, holds.seqs, holds.events⟩
  · intro alt stands
    rcases Table.mem_put.mp stands with rfl | ⟨pre, _⟩
    · exact read
    · exact agree.placed.read alt pre

lemma loadMessages_current {sess msgs}
    (loaded : loadMessages w sess = some msgs) : msgs = currentMessages sess := by
  rw [loadMessages] at loaded
  split at loaded
  · rename_i genId hash protocol gen
    dsimp only at loaded
    split at loaded
    · rename_i both
      cases loaded
      have evs := tileChunks_events both.2
      rw [currentMessages, protocol]
      rw [evs]
      rfl
    · cases loaded
  · rename_i list protocol hash
    split at loaded
    · cases loaded
      rw [currentMessages, protocol, hash]
      rfl
    · cases loaded
  · cases loaded

end Clawdi.SessionSearch
