import Clawdi.Snapshots.Upsert

namespace Clawdi.Snapshots
open List Table
open SessionEvents (Uuid Time HttpError Auth)

def Hashed (obj : StoredSnapshot) : Prop := obj.key.contentHash = sha256 obj.data
def Present (objects : Table StoredSnapshot.key) (key : SnapshotKey) : Prop := ∃ obj ∈ objects, obj.key = key

/-- An upload past its analysis has a key that spells the hash of its bytes. -/
structure UploadSound (objects : Table StoredSnapshot.key) (up : Upload) : Prop where
  storing : ∀ ident key, up.progress = .storing ident key → key.contentHash = sha256 up.request.data
  stored : ∀ ident key, up.progress = .stored ident key →
    key.contentHash = sha256 up.request.data ∧ Present objects key

structure BatchSound (rows : Table Row.id) (batch : Batch) : Prop where
  read : ∀ pre, batch.progress = .located pre → ∀ row ∈ pre.existing, row ∈ rows ∧ row.userId = batch.auth.userId

structure Sound (w : World) : Prop where
  distinct : OriginsDistinct w.rows
  named : BlobsNamed w.objects w.rows
  objects : ∀ obj ∈ w.objects, Hashed obj
  issued : ∀ obj ∈ w.issued, Hashed obj
  uploads : ∀ up ∈ w.uploads, UploadSound w.objects up
  batches : ∀ batch ∈ w.batches, BatchSound w.rows batch

lemma sound_empty : Sound .empty where
  distinct := fun _ mem => absurd mem (not_mem_empty _)
  named := fun _ mem => absurd mem (not_mem_empty _)
  objects := fun _ mem => absurd mem (not_mem_empty _)
  issued := fun _ mem => absurd mem not_mem_nil
  uploads := fun _ mem => absurd mem (not_mem_empty _)
  batches := fun _ mem => absurd mem (not_mem_empty _)

section
variable {objects : Table StoredSnapshot.key} {obj : StoredSnapshot} {key : SnapshotKey}

lemma Present.put (here : Present objects key) : Present (objects.put obj) key := by
  obtain ⟨alt, mem, named⟩ := here
  by_cases same : obj.key = key
  · exact ⟨obj, mem_put_self _ _, same⟩
  · refine ⟨alt, mem_put.mpr (.inr ⟨mem, ?_⟩), named⟩
    rw [named]
    exact fun equal => same equal.symm

lemma present_self : Present (objects.put obj) obj.key := ⟨obj, mem_put_self _ _, rfl⟩

lemma hashed_put (hashed : ∀ alt ∈ objects, Hashed alt) (new : Hashed obj) :
    ∀ alt ∈ objects.put obj, Hashed alt := by
  intro alt mem
  rcases mem_put.mp mem with rfl | ⟨before, _⟩
  · exact new
  · exact hashed alt before

lemma fetch_present {w : World} (here : Present w.objects key) (hashed : ∀ obj ∈ w.objects, Hashed obj) :
    ∃ data, w.fetch key = some data ∧ key.contentHash = sha256 data := by
  obtain ⟨obj, mem, rfl⟩ := here
  refine ⟨obj.data, ?_, hashed obj mem⟩
  rw [World.fetch, get_key mem]
  rfl

end

lemma Sound.preserved {w after : World} {commits : Prop} (inv : Sound w)
    (rows : RowSteps w.objects commits (fun rowId => after.locked rowId = true) w.rows after.rows)
    (grows : ∀ key, Present w.objects key → Present after.objects key)
    (objects : ∀ obj ∈ after.objects, Hashed obj) (issued : ∀ obj ∈ after.issued, Hashed obj)
    (ups : ∀ up ∈ after.uploads, UploadSound after.objects up)
    (batches : ∀ batch ∈ after.batches, BatchSound w.rows batch) : Sound after where
  distinct := rows.distinct inv.distinct
  named := by
    intro row mem snap key file
    have named := rows.named inv.named row mem snap key file
    exact ⟨grows key named.1, named.2⟩
  objects := objects
  issued := issued
  uploads := ups
  batches := by
    intro batch mem
    refine ⟨fun pre located row inPre => ?_⟩
    have before := (batches batch mem).read pre located row inPre
    have locked : after.locked row.id = true := by
      refine any_eq_true.mpr ⟨batch, mem, ?_⟩
      rw [Batch.locks, located]
      exact any_eq_true.mpr ⟨row, inPre, decide_eq_true rfl⟩
    exact ⟨rows.holds before.1 locked, before.2⟩

section
variable {w : World} {batch : Batch} {chance : Chance}
variable {prog : BatchProgress} {body : SessionBatchRequest} {pre : PreRead} {commits : Prop}
variable {after : Table Row.id} {resp : SessionBatchResponse}

lemma lockedByOther_of_moved {rows rowId} (free : ∀ pre, prog ≠ .located pre)
    (locked : (batch.moveTo prog { w with rows := rows }).locked rowId = true) :
    w.lockedByOther batch rowId = true := by
  obtain ⟨alt, mem, locks⟩ := any_eq_true.mp locked
  rcases mem_put.mp mem with rfl | ⟨before, ne⟩
  · unfold Batch.locks at locks
    split at locks
    · rename_i pre located
      exact absurd located (free pre)
    · cases locks
  · refine any_eq_true.mpr ⟨alt, before, ?_⟩
    exact decide_eq_true ⟨ne, locks⟩

lemma finishBatch_cases {auth} {newId : SessionCreate → Uuid} {now}
    {rows} (ok : finishBatch auth body pre newId now rows = .ok (resp, after)) :
    (pre.activeSessions body = [] ∧ after = rows) ∨
      ∃ done, upsertItems auth.userId pre body newId now (pre.activeSessions body) ⟨rows, []⟩ = .ok done ∧
        after = done.rows ∧ resp = pre.response body done.returned := by
  unfold finishBatch at ok
  by_cases inactive : pre.activeSessions body = []
  · rw [if_pos inactive, pure_eq_ok] at ok
    cases ok
    exact .inl ⟨inactive, rfl⟩
  · rw [if_neg inactive, bind_eq_ok] at ok
    obtain ⟨_, _, ok⟩ := ok
    rw [bind_eq_ok] at ok
    obtain ⟨done, upserted, ok⟩ := ok
    cases ok
    exact .inr ⟨done, upserted, rfl, rfl⟩

lemma finishBatch_steps {objects} (apart : OriginsDistinct w.rows) (proceeds : ¬batch.waits pre w = true)
    (ok : finishBatch batch.auth batch.body pre chance.newId chance.now w.rows = .ok (resp, after)) :
    RowSteps objects commits (fun rowId => w.lockedByOther batch rowId = true) w.rows after := by
  rcases finishBatch_cases ok with ⟨_, rfl⟩ | ⟨done, upserted, rfl, _⟩
  · exact .refl
  · have unwritten : Unwritten w.rows ⟨w.rows, []⟩ := fun row mem _ => mem
    apply upsertItems_steps unwritten ?_ upserted
    intro item active row mem user names locked
    apply proceeds
    refine any_eq_true.mpr ⟨item, active, ?_⟩
    rw [conflicting_of_names apart mem user names]
    exact locked

lemma preRead_existing {auth rows suppressions}
    {row} (mem : row ∈ (preRead auth body rows suppressions).existing) : row ∈ rows ∧ row.userId = auth.userId := by
  have sel := mem_filter.mp mem
  rw [decide_eq_true_iff] at sel
  exact ⟨sel.1, sel.2.1⟩

lemma batchSound_moved {rows} (free : ∀ pre, prog ≠ .located pre) :
    BatchSound rows { batch with progress := prog } :=
  ⟨fun pre located => absurd located (free pre)⟩

inductive BatchTurn (batch : Batch) (chance : Chance) (w : World) : World → Prop
  | waits : BatchTurn batch chance w w
  | located : BatchTurn batch chance w
      (batch.moveTo (.located (preRead batch.auth batch.body w.rows w.suppressions)) w)
  | answered (out : Except HttpError SessionBatchResponse) :
      BatchTurn batch chance w (batch.moveTo (.answered out) w)
  | finished (pre : PreRead) (resp : SessionBatchResponse) (rows : Table Row.id)
      (hit : batch.progress = .located pre) (proceeds : ¬batch.waits pre w = true)
      (ok : finishBatch batch.auth batch.body pre chance.newId chance.now w.rows = .ok (resp, rows)) :
      BatchTurn batch chance w (batch.moveTo (.answered (.ok resp)) { w with rows := rows })

lemma Batch.advance_turn : BatchTurn batch chance w (batch.advance chance w) := by
  unfold Batch.advance
  split
  · split
    · exact .answered _
    · split
      · exact .answered _
      · dsimp only
        split
        · exact .waits
        · exact .located
  · rename_i pre hit
    by_cases waits : batch.waits pre w = true
    · rw [if_pos waits]
      exact .waits
    · rw [if_neg waits]
      split
      · exact .answered _
      · rename_i resp rows ok
        exact .finished pre resp rows hit waits ok
  · exact .waits

lemma BatchTurn.rowSteps {objects after} (turn : BatchTurn batch chance w after) (apart : OriginsDistinct w.rows) :
    RowSteps objects commits (fun rowId => after.locked rowId = true) w.rows after.rows := by
  cases turn with
  | waits | located | answered => exact .refl
  | finished pre resp rows hit proceeds ok =>
    apply (finishBatch_steps apart proceeds ok).weaken
    intro rowId locked
    exact lockedByOther_of_moved (by simp) locked

lemma BatchTurn.sound {after} (turn : BatchTurn batch chance w after) (inv : Sound w) : Sound after := by
  have rows : RowSteps w.objects False _ _ _ := turn.rowSteps inv.distinct
  have others : ∀ prog, BatchSound w.rows { batch with progress := prog } →
      ∀ alt ∈ w.batches.put { batch with progress := prog }, BatchSound w.rows alt := by
    intro prog moved alt inAfter
    rcases mem_put.mp inAfter with rfl | ⟨before, _⟩
    · exact moved
    · exact inv.batches alt before
  cases turn with
  | waits => exact inv
  | located =>
    refine inv.preserved rows (fun _ => id) inv.objects inv.issued inv.uploads (others _ ?_)
    refine ⟨fun pre located row inPre => ?_⟩
    cases located
    exact preRead_existing inPre
  | answered | finished =>
    exact inv.preserved rows (fun _ => id) inv.objects inv.issued inv.uploads
      (others _ (batchSound_moved (by simp)))

end

open SessionEvents (Uuid Time HttpError Auth CommitRequest Generation Chunk)
section
variable {auth : Auth} {req : UploadRequest} {rows : Table Row.id} {row : Row}

lemma uploadMatches_member (mem : row ∈ uploadMatches auth req rows) : row ∈ rows := (mem_filter.mp mem).1

lemma requireSessionMatch_member {hit profileKey}
    (ok : requireSessionMatch hit profileKey = .ok row) : row ∈ hit := by
  cases hit with
  | nil => cases ok
  | cons first others =>
    unfold requireSessionMatch at ok
    simp only [bind_eq_ok, pure_eq_ok] at ok
    obtain ⟨_, _, _, _, rfl⟩ := ok
    exact mem_cons_self

lemma snapshotUploadSession_spec (ok : snapshotUploadSession auth req rows = .ok row) :
    row ∈ uploadMatches auth req rows ∧ row.contentProtocol = .snapshotV1 := by
  unfold snapshotUploadSession at ok
  simp only [bind_eq_ok, raiseIf_eq_ok, pure_eq_ok] at ok
  obtain ⟨hit, isMatch, _, snap, rfl⟩ := ok
  refine ⟨requireSessionMatch_member isMatch, ?_⟩
  cases protocol : hit.contentProtocol with
  | snapshotV1 => rfl
  | eventsV1 => exact absurd protocol snap

variable {ident : UploadIdentity} {now : Time}

lemma analyzeUpload_hash {att key}
    (ok : analyzeUpload auth req ident att = .ok key) : key.contentHash = sha256 req.data := by
  unfold analyzeUpload at ok
  simp only [bind_eq_ok, raiseIf_eq_ok, pure_eq_ok] at ok
  obtain ⟨_, _, _, _, rfl⟩ := ok
  rfl

lemma publishUpload_spec {key resp after} (ok : publishUpload auth req ident key now rows = .ok (resp, after)) :
    ∃ row, snapshotUploadSession auth req rows = .ok row ∧
      after = rows.put (row.uploaded key (sha256 req.data) now) := by
  unfold publishUpload at ok
  simp only [bind_eq_ok, raiseIf_eq_ok, pure_eq_ok] at ok
  obtain ⟨row, hit, _, _, same⟩ := ok
  cases same
  exact ⟨row, hit, rfl⟩

lemma commitGeneration_cases {body gen chunks}
    {after} (ok : commitGeneration auth body gen chunks now row = .ok after) :
    after = row ∨ after = row.committed body now := by
  unfold commitGeneration at ok
  simp only [bind_eq_ok] at ok
  obtain ⟨_, _, _, _, _, _, _, _, ok⟩ := ok
  by_cases already : gen.status = .committed
  · simp only [if_pos already, bind_eq_ok, pure_eq_ok] at ok
    obtain ⟨_, _, rfl⟩ := ok
    exact .inl rfl
  · simp only [if_neg already, bind_eq_ok, pure_eq_ok] at ok
    obtain ⟨_, _, _, _, _, _, rfl⟩ := ok
    exact .inr rfl

end

section
variable {w : World} {up : Upload} {chance : Chance}

inductive UploadTurn (up : Upload) (chance : Chance) (w : World) : World → Prop
  | waits : UploadTurn up chance w w
  | located (row : Row) : UploadTurn up chance w (up.moveTo (.located row.identity) w)
  | answered (out : Except HttpError SessionUploadResponse) :
      UploadTurn up chance w (up.moveTo (.answered out) w)
  | sent (ident : UploadIdentity) (key : SnapshotKey)
      (hash : key.contentHash = sha256 up.request.data) :
      UploadTurn up chance w (up.moveTo (.storing ident key)
        { w with issued := ⟨key, up.request.data⟩ :: w.issued })
  | put (ident : UploadIdentity) (key : SnapshotKey)
      (hit : up.progress = .storing ident key) :
      UploadTurn up chance w (up.moveTo (.stored ident key)
        { w with objects := w.objects.put ⟨key, up.request.data⟩ })
  | published (ident : UploadIdentity) (key : SnapshotKey) (row : Row)
      (resp : SessionUploadResponse) (hit : up.progress = .stored ident key)
      (mem : row ∈ w.rows) (snap : row.contentProtocol = .snapshotV1)
      (free : w.locked row.id = false) :
      UploadTurn up chance w (up.moveTo (.answered (.ok resp))
        { w with
          rows := w.rows.put (row.uploaded key (sha256 up.request.data) chance.now) })

lemma Upload.advance_turn : UploadTurn up chance w (up.advance chance w) := by
  unfold Upload.advance
  split
  · split
    · exact .waits
    · split
      · exact .answered _
      · exact .located _
  · split
    · exact .answered _
    · rename_i key ok
      exact .sent _ key (analyzeUpload_hash ok)
  · rename_i ident key hit
    exact .put ident key hit
  · rename_i ident key hit
    by_cases waits : up.waits w = true
    · rw [if_pos waits]
      exact .waits
    · rw [if_neg waits]
      split
      · exact .answered _
      · rename_i resp rows ok
        obtain ⟨row, sel, rfl⟩ := publishUpload_spec ok
        obtain ⟨isMatch, snap⟩ := snapshotUploadSession_spec sel
        have free : w.locked row.id = false := by
          by_contra locked
          apply waits
          rw [Bool.not_eq_false] at locked
          exact any_eq_true.mpr ⟨row, isMatch, locked⟩
        exact .published ident key row resp hit (uploadMatches_member isMatch) snap free
  · exact .waits

lemma UploadTurn.rowSteps {commits : Prop} {after}
    (turn : UploadTurn up chance w after) (inv : UploadSound w.objects up) :
    RowSteps w.objects commits (fun rowId => after.locked rowId = true) w.rows after.rows := by
  cases turn with
  | waits | located | answered | sent | put => exact .refl
  | published ident key row resp hit mem snap free =>
    obtain ⟨hash, here⟩ := inv.stored ident key hit
    rw [← hash]
    refine .single (.changed row _ mem ?_ (.uploaded key chance.now snap here))
    intro locked
    exact absurd (locked.symm.trans free) (by simp)

lemma UploadTurn.sound {after} (turn : UploadTurn up chance w after)
    (mem : up ∈ w.uploads) (inv : Sound w) : Sound after := by
  have own := inv.uploads up mem
  have rows : RowSteps w.objects False _ _ _ := turn.rowSteps own
  have others : ∀ prog, UploadSound w.objects { up with progress := prog } →
      ∀ alt ∈ w.uploads.put { up with progress := prog }, UploadSound w.objects alt := by
    intro prog moved alt inAfter
    rcases mem_put.mp inAfter with rfl | ⟨before, _⟩
    · exact moved
    · exact inv.uploads alt before
  cases turn with
  | waits => exact inv
  | sent ident key hash =>
    have issued : ∀ obj ∈ (⟨key, up.request.data⟩ :: w.issued : List StoredSnapshot),
        Hashed obj := by
      intro obj inIssued
      rcases mem_cons.mp inIssued with rfl | before
      · exact hash
      · exact inv.issued obj before
    have moved : UploadSound w.objects { up with progress := .storing ident key } := by
      refine ⟨fun alt was same => ?_, by simp⟩
      cases same
      exact hash
    exact inv.preserved rows (fun _ => id) inv.objects issued (others _ moved) inv.batches
  | put ident key hit =>
    have hash : Hashed ⟨key, up.request.data⟩ := own.storing ident key hit
    have grows : ∀ alt, Present w.objects alt →
        Present (w.objects.put ⟨key, up.request.data⟩) alt := fun _ => Present.put
    refine inv.preserved rows grows (hashed_put inv.objects hash) inv.issued ?_ inv.batches
    intro alt inAfter
    rcases mem_put.mp inAfter with rfl | ⟨before, _⟩
    · refine ⟨by simp, fun ident was same => ?_⟩
      cases same
      exact ⟨hash, present_self⟩
    · have inv := inv.uploads alt before
      exact ⟨inv.storing, fun ident was same =>
        ⟨(inv.stored ident was same).1, (inv.stored ident was same).2.put⟩⟩
  | _ => exact inv.preserved rows (fun _ => id) inv.objects inv.issued (others _ ⟨by simp, by simp⟩) inv.batches

end

lemma commitRow_steps (auth : Auth) (body : CommitRequest) (gen : Generation)
    (chunks : List Chunk) (now : Time) (w : World) :
    RowSteps w.objects True (fun rowId => w.locked rowId = true) w.rows
      (commitRow auth body gen chunks now w).rows := by
  unfold commitRow
  split
  · exact .refl
  · rename_i row hit
    have mem := (get_eq_some.mp hit).1
    by_cases locked : w.locked row.id = true
    · rw [if_pos locked]
    · rw [if_neg locked]
      split
      · exact .refl
      · rename_i after ok
        rcases commitGeneration_cases ok with rfl | rfl
        · exact .single (.changed after after mem locked .same)
        · exact .single (.changed row _ mem locked (.committed body now trivial))

end Clawdi.Snapshots
