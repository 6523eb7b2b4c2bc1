import Clawdi.Snapshots.Uploads

namespace Clawdi.Snapshots
open List Table
open SessionEvents (Uuid Time HttpError Auth CommitRequest Generation Chunk)

inductive Turn (w : World) : Action → World → Prop
  | idle (act : Action) : Turn w act w
  | legacy (id uid : Uuid) (lsid : String) (lastActivityAt : Time) :
      Turn w (.legacyRow id uid lsid lastActivityAt) (addLegacyRow id uid lsid lastActivityAt w)
  | suppressed (row : Suppression) :
      Turn w (.suppress row) { w with suppressions := row :: w.suppressions }
  | batchMoved (act : Action) (batch : Batch) (free : ∀ pre, batch.progress ≠ .located pre) :
      Turn w act { w with batches := w.batches.put batch }
  | batch (id : Nat) (chance : Chance) (batch : Batch) (hit : w.batches.get id = some batch) :
      Turn w (.advanceBatch id chance) (batch.advance chance w)
  | uploadMoved (act : Action) (up : Upload) (received : UploadSound w.objects up) :
      Turn w act { w with uploads := w.uploads.put up }
  | upload (id : Nat) (chance : Chance) (up : Upload) (hit : w.uploads.get id = some up) :
      Turn w (.advanceUpload id chance) (up.advance chance w)
  | late (idx : Nat) (obj : StoredSnapshot) (issued : obj ∈ w.issued) :
      Turn w (.performLate idx) { w with objects := w.objects.put obj }
  | commit (auth : Auth) (body : CommitRequest) (gen : Generation) (chunks : List Chunk)
      (now : Time) :
      Turn w (.commit auth body gen chunks now) (commitRow auth body gen chunks now w)

lemma step_turn (w : World) (act : Action) : Turn w act (step w act) := by
  cases act with
  | legacyRow id uid lsid lastActivityAt => exact .legacy _ _ _ _
  | suppress row => exact .suppressed row
  | receiveBatch | abandonBatch =>
    simp only [step]
    split
    · exact .idle _
    · exact .batchMoved _ _ (by simp)
  | advanceBatch id chance =>
    simp only [step]
    split
    · exact .idle _
    · rename_i batch hit
      exact .batch id chance batch hit
  | receiveUpload | abandonUpload =>
    simp only [step]
    split
    · exact .idle _
    · exact .uploadMoved _ _ ⟨by simp, by simp⟩
  | advanceUpload id chance =>
    simp only [step]
    split
    · exact .idle _
    · rename_i up hit
      exact .upload id chance up hit
  | performLate idx =>
    simp only [step]
    split
    · exact .idle _
    · rename_i obj hit
      exact .late idx obj (mem_of_getElem? hit)
  | commit auth body gen chunks now => exact .commit _ _ _ _ _

lemma addLegacyRow_steps (id uid : Uuid) (lsid : String) (lastActivityAt : Time)
    (w : World) {objects} {commits : Prop} {held : Uuid → Prop} :
    RowSteps objects commits held w.rows (addLegacyRow id uid lsid lastActivityAt w).rows := by
  unfold addLegacyRow
  split
  · exact .refl
  · rename_i gone
    refine .single (.added _ gone ⟨rfl, rfl⟩ ?_)
    intro alt _ same
    exact same.2.1 same.2.2.1

lemma addLegacyRow_frame (id uid : Uuid) (lsid : String) (lastActivityAt : Time)
    (w : World) : ∃ rows, addLegacyRow id uid lsid lastActivityAt w = { w with rows := rows } := by
  unfold addLegacyRow
  split
  · exact ⟨w.rows, rfl⟩
  · exact ⟨_, rfl⟩

variable (auth : Auth) (lsid : String) {row : Row}

lemma commitRow_frame (body : CommitRequest) (gen : Generation) (chunks : List Chunk) (now : Time)
    (w : World) : ∃ rows, commitRow auth body gen chunks now w = { w with rows := rows } := by
  unfold commitRow
  split
  · exact ⟨w.rows, rfl⟩
  · split
    · exact ⟨w.rows, rfl⟩
    · split
      · exact ⟨w.rows, rfl⟩
      · exact ⟨_, rfl⟩

lemma Turn.rowSteps {w after act} (turn : Turn w act after) (inv : Sound w) :
    RowSteps w.objects (act.isCommit = true) (fun rowId => after.locked rowId = true) w.rows after.rows := by
  cases turn with
  | legacy => exact addLegacyRow_steps _ _ _ _ w
  | batch id chance batch hit => exact Batch.advance_turn.rowSteps inv.distinct
  | upload id chance up hit => exact Upload.advance_turn.rowSteps (inv.uploads up (get_eq_some.mp hit).1)
  | commit auth body gen chunks now =>
    have steps := commitRow_steps auth body gen chunks now w
    obtain ⟨rows, same⟩ := commitRow_frame auth body gen chunks now w
    rw [same] at steps ⊢
    simp only [Action.isCommit]
    exact steps
  | _ => exact .refl

lemma Turn.sound {w after act} (turn : Turn w act after) (inv : Sound w) : Sound after := by
  have rows := turn.rowSteps inv
  cases turn with
  | idle => exact inv
  | legacy id uid lsid lastActivityAt =>
    obtain ⟨wrote, same⟩ := addLegacyRow_frame id uid lsid lastActivityAt w
    rw [same] at rows ⊢
    exact inv.preserved rows (fun _ here => here) inv.objects inv.issued inv.uploads inv.batches
  | suppressed row => exact inv.preserved rows (fun _ => id) inv.objects inv.issued inv.uploads inv.batches
  | batchMoved _ batch free =>
    refine inv.preserved rows (fun _ => id) inv.objects inv.issued inv.uploads ?_
    intro alt inAfter
    rcases mem_put.mp inAfter with rfl | ⟨before, _⟩
    · exact ⟨fun pre located => absurd located (free pre)⟩
    · exact inv.batches alt before
  | batch id chance batch hit => exact Batch.advance_turn.sound inv
  | uploadMoved _ up received =>
    refine inv.preserved rows (fun _ => id) inv.objects inv.issued ?_ inv.batches
    intro alt inAfter
    rcases mem_put.mp inAfter with rfl | ⟨before, _⟩
    · exact received
    · exact inv.uploads alt before
  | upload id chance up hit => exact Upload.advance_turn.sound (get_eq_some.mp hit).1 inv
  | late idx obj issued =>
    refine inv.preserved rows (fun _ => Present.put) ?_ inv.issued ?_ inv.batches
    · exact hashed_put inv.objects (inv.issued obj issued)
    · intro up mem
      have own := inv.uploads up mem
      refine ⟨own.storing, fun ident key was => ?_⟩
      have before := own.stored ident key was
      exact ⟨before.1, before.2.put⟩
  | commit auth body gen chunks now =>
    obtain ⟨wrote, same⟩ := commitRow_frame auth body gen chunks now w
    rw [same] at rows ⊢
    exact inv.preserved rows (fun _ => id) inv.objects inv.issued inv.uploads inv.batches

lemma sound_step (w : World) (act : Action) (inv : Sound w) : Sound (step w act) := (step_turn w act).sound inv

lemma sound_run (acts : List Action) : Sound (Transition.run step .empty acts) :=
  Transition.run_invariant sound_step sound_empty acts

def World.HoldsBlob (w : World) (row : Row) (contentHash : Option String) : Prop :=
  ∃ key data, row.fileKey = some key ∧ w.fetch key = some data ∧ contentHash = some (hexdigest (sha256 data))

lemma Sound.holdsBlob {w} (inv : Sound w) (mem : row ∈ w.rows)
    (snap : row.contentProtocol = .snapshotV1) {key} (file : row.fileKey = some key) :
    w.HoldsBlob row row.contentHash := by
  obtain ⟨here, hash⟩ := inv.named row mem snap key file
  obtain ⟨data, fetched, spelled⟩ := fetch_present here inv.objects
  exact ⟨key, data, file, fetched, by rw [hash, spelled]⟩

lemma step_later {w} (inv : Sound w) (act : Action) (mem : row ∈ w.rows) :
    ∃ later ∈ (step w act).rows, row.Later (act.isCommit = true) later :=
  ((step_turn w act).rowSteps inv).later mem

lemma run_later {w} (inv : Sound w) (acts : List Action) (mem : row ∈ w.rows) :
    ∃ later ∈ (Transition.run step w acts).rows, row.Later True later := by
  induction acts generalizing w row with
  | nil => exact ⟨row, mem, .refl True row⟩
  | cons act acts ih =>
    obtain ⟨middle, inMiddle, first⟩ := step_later inv act mem
    obtain ⟨last, inLast, snd⟩ := ih (sound_step w act inv) inMiddle
    refine ⟨last, inLast, .trans ?_ snd⟩
    exact { first with hash := fun _ free => absurd trivial free }

section
variable {pre : PreRead} {body : SessionBatchRequest} {item : SessionCreate}

lemma previous_eq_some {row} (hit : pre.previous body item = some row) :
    row ∈ pre.existing ∧ item.Names row ∧ pre.resolvedProfile body item = some row.originProfileKey := by
  have mem : row ∈ pre.activeExistingRows body := mem_of_find?_eq_some hit
  have named := List.find?_some hit
  rw [decide_eq_true_iff] at named
  exact ⟨(mem_filter.mp mem).1, named⟩

lemma resolvedProfile_congr {alt : SessionCreate} {row} (names : item.Names row)
    (otherNames : alt.Names row) : pre.resolvedProfile body alt = pre.resolvedProfile body item := by
  have env : alt.environmentId = item.environmentId := Option.some.inj (otherNames.1.symm.trans names.1)
  have localId : alt.localSessionId = item.localSessionId := otherNames.2.symm.trans names.2
  unfold PreRead.resolvedProfile PreRead.resolve SessionCreate.Names
  rw [env, localId]

lemma unlisted_unchanged {returned} (active : item ∈ pre.activeSessions body)
    (snap : item.contentProtocol = .snapshotV1)
    (served : item.localSessionId ∉ (pre.response body returned).needsContent)
    (acc : item.localSessionId ∉ (pre.response body returned).rejected) :
    ∃ row, pre.previous body item = some row ∧ (row.contentProtocol = .eventsV1 ∨
        (∃ key, row.fileKey = some key) ∧ row.contentHash = item.contentHash) := by
  have notRejected : pre.category body returned item ≠ .rejected := by
    intro rejected
    apply acc
    refine mem_append.mpr (.inr (mem_map.mpr ⟨item, ?_, rfl⟩))
    exact mem_filter.mpr ⟨active, decide_eq_true rejected⟩
  have notNeeding : item.needsContent (pre.category body returned item) = false := by
    by_contra needs
    rw [Bool.not_eq_false] at needs
    apply served
    exact mem_map.mpr ⟨item, mem_filter.mpr ⟨active, needs⟩, rfl⟩
  have category : ¬(pre.category body returned item = .created ∨
      pre.category body returned item = .updated) := by
    simpa [SessionCreate.needsContent, snap] using notNeeding
  unfold PreRead.category at notRejected category
  by_cases returns : isReturned pre body returned item = true
  · simp only [returns, Bool.not_true, Bool.false_eq_true, if_false] at category
    cases hit : pre.previous body item with
    | none => simp [hit] at category
    | some row =>
      refine ⟨row, rfl, ?_⟩
      by_cases evs : row.contentProtocol = .eventsV1
      · exact .inl evs
      · right
        cases file : row.fileKey with
        | none => simp [hit, evs, file] at category
        | some key =>
          refine ⟨⟨key, rfl⟩, ?_⟩
          by_contra ne
          simp [hit, evs, file, ne] at category
  · simp [returns] at notRejected

end

open SessionEvents (Uuid Time HttpError Auth)

structure Answers (w after : World) (batch : Batch) (pre : PreRead)
    (resp : SessionBatchResponse) : Prop where
  found : w.batches.get batch.id = some batch
  located : batch.progress = .located pre
  answered : after.batches.get batch.id = some { batch with progress := .answered (.ok resp) }

def World.Serves (w : World) (auth : Auth) (item : SessionCreate) : Prop :=
  ∃ row ∈ w.rows, row.userId = auth.userId ∧ item.Names row ∧
    (row.contentProtocol = .eventsV1 ∨ w.HoldsBlob row item.contentHash)

section
variable {w : World} {batch : Batch} {pre : PreRead} {resp : SessionBatchResponse}
  {rows : Table Row.id} {chance : Chance}

variable {item : SessionCreate}

lemma finishBatch_serves (inv : Sound w) (mem : batch ∈ w.batches) (located : batch.progress = .located pre)
    (ok : finishBatch batch.auth batch.body pre chance.newId chance.now w.rows = .ok (resp, rows))
    (active : item ∈ pre.activeSessions batch.body) (snap : item.contentProtocol = .snapshotV1)
    (served : item.localSessionId ∉ resp.needsContent) (acc : item.localSessionId ∉ resp.rejected) :
    ∃ row ∈ rows, row.userId = batch.auth.userId ∧ item.Names row ∧ (row.contentProtocol = .eventsV1 ∨
        (∃ key, row.fileKey = some key) ∧ row.contentHash = item.contentHash) := by
  rcases finishBatch_cases ok with ⟨inactive, _⟩ | ⟨done, upserted, rfl, rfl⟩
  · rw [inactive] at active
    cases active
  · obtain ⟨row, prev, st⟩ := unlisted_unchanged active snap served acc
    obtain ⟨old, names, profile⟩ := previous_eq_some prev
    obtain ⟨inRows, user⟩ := (inv.batches batch mem).read pre located row old
    have profiles : ∀ alt ∈ pre.activeSessions batch.body, alt.Names row →
        pre.resolvedProfile batch.body alt = some row.originProfileKey :=
      fun alt _ otherNames => (resolvedProfile_congr names otherNames).trans profile
    have refreshed := upsertItems_refreshes inv.distinct inRows not_mem_nil user active names profiles upserted
    refine ⟨_, refreshed, user, names, ?_⟩
    rcases st with evs | ⟨⟨key, file⟩, hash⟩
    · exact .inl evs
    · right
      have kept := refreshed_same row item (pre.eventsRequested batch.body item) chance.now hash
      exact ⟨⟨key, kept.2.trans file⟩, kept.1.trans hash⟩

lemma Answers.finished (answers : Answers w (batch.advance chance w) batch pre resp) :
    ∃ rows, finishBatch batch.auth batch.body pre chance.newId chance.now w.rows = .ok (resp, rows) ∧
      batch.advance chance w = batch.moveTo (.answered (.ok resp)) { w with rows := rows } := by
  have answered := answers.answered
  have located := answers.located
  unfold Batch.advance at answered ⊢
  simp only [located] at answered ⊢
  by_cases waits : batch.waits pre w = true
  · rw [if_pos waits, answers.found] at answered
    have prog := congrArg Batch.progress (Option.some.inj answered)
    rw [located] at prog
    cases prog
  · rw [if_neg waits] at answered ⊢
    cases out : finishBatch batch.auth batch.body pre chance.newId chance.now w.rows with
    | error err =>
      simp only [out, Batch.moveTo] at answered
      rw [get_put_of_eq _ rfl] at answered
      have prog := congrArg Batch.progress (Option.some.inj answered)
      cases prog
    | ok res =>
      obtain ⟨given, rows⟩ := res
      simp only [out, Batch.moveTo] at answered
      rw [get_put_of_eq _ rfl] at answered
      have prog := congrArg Batch.progress (Option.some.inj answered)
      cases prog
      exact ⟨rows, rfl, rfl⟩

lemma answers_serve (inv : Sound w) (answers : Answers w (batch.advance chance w) batch pre resp)
    (active : item ∈ pre.activeSessions batch.body) (snap : item.contentProtocol = .snapshotV1)
    (served : item.localSessionId ∉ resp.needsContent) (acc : item.localSessionId ∉ resp.rejected) :
    (batch.advance chance w).Serves batch.auth item := by
  have mem := (get_eq_some.mp answers.found).1
  obtain ⟨rows, ok, res⟩ := answers.finished
  obtain ⟨row, inRows, user, names, st⟩ := finishBatch_serves inv mem answers.located ok active snap served acc
  have later : Sound (batch.advance chance w) := Batch.advance_turn.sound inv
  rw [res] at later ⊢
  refine ⟨row, inRows, user, names, ?_⟩
  cases protocol : row.contentProtocol with
  | eventsV1 => exact .inl rfl
  | snapshotV1 =>
    rcases st with evs | ⟨⟨key, file⟩, hash⟩
    · rw [protocol] at evs
      cases evs
    · right
      rw [← hash]
      exact later.holdsBlob inRows protocol file

end

/-- Every blob has the hash of its row, events-v1 stays, activity rises, and missing blobs are named. -/
theorem session_content_kept (before : List Action) : let w := Transition.run step .empty before
    (∀ row ∈ w.rows, row.contentProtocol = .snapshotV1 → row.fileKey ≠ none → w.HoldsBlob row row.contentHash) ∧
    (∀ later, ∀ row ∈ w.rows, ∃ last ∈ (Transition.run step w later).rows,
      last.id = row.id ∧ row.lastActivityAt ≤ last.lastActivityAt ∧
        (row.contentProtocol = .eventsV1 → last.contentProtocol = .eventsV1)) ∧
    (∀ act, act.isCommit = false → ∀ row ∈ w.rows, row.contentProtocol = .eventsV1 →
      ∃ last ∈ (step w act).rows, last.id = row.id ∧ last.contentHash = row.contentHash ∧
        last.fileKey = row.fileKey) ∧
    (∀ batch pre resp chance, Answers w (step w (.advanceBatch batch.id chance)) batch pre resp →
      ∀ item ∈ pre.activeSessions batch.body, item.contentProtocol = .snapshotV1 →
        item.localSessionId ∉ resp.needsContent → item.localSessionId ∉ resp.rejected →
        (step w (.advanceBatch batch.id chance)).Serves batch.auth item) := by
  intro w
  have inv : Sound w := sound_run before
  refine ⟨?_, ?_, ?_, ?_⟩
  · intro row mem snap uploaded
    obtain ⟨key, file⟩ := Option.ne_none_iff_exists'.mp uploaded
    exact inv.holdsBlob mem snap file
  · intro later row mem
    obtain ⟨last, inLast, related⟩ := run_later inv later mem
    exact ⟨last, inLast, related.sameId, related.activity, related.protocol⟩
  · intro act alt row mem evs
    obtain ⟨last, inLast, related⟩ := step_later inv act mem
    have free : ¬act.isCommit = true := by
      rw [alt]
      exact Bool.false_ne_true
    exact ⟨last, inLast, related.sameId, related.hash evs free, related.file evs⟩
  · intro batch pre resp chance answers item active snap served acc
    have same : step w (.advanceBatch batch.id chance) = batch.advance chance w := by
      simp only [step, answers.found]
    rw [same] at answers ⊢
    exact answers_serve inv answers active snap served acc

def sampleItem (protocol : SessionEvents.ContentProtocol) : SessionCreate where
  environmentId := "agent"
  localSessionId := lsid
  startedAt := 0
  endedAt := none
  lastActivityAt := none
  contentHash := some "announced"
  contentProtocol := protocol

def mixedBatch : Batch where
  id := 0
  auth := ⟨"user", none⟩
  body := ⟨none, [sampleItem "one" .snapshotV1, sampleItem "two" .eventsV1]⟩
  progress := .located ⟨[], []⟩

def mixedChance : Chance where
  now := 0
  registered := ["agent"]
  attempt := ""
  newId := SessionCreate.localSessionId

def mixedResponse : SessionBatchResponse where
  created := 2
  updated := 0
  unchanged := 0
  needsContent := ["one"]
  rejected := []
  suppressed := []

def mixedRun : List Action := [.receiveBatch 0 mixedBatch.auth mixedBatch.body, .advanceBatch 0 mixedChance]

/-- An item that announces events-v1 is not asked for a blob, and has none. -/
theorem events_item_unserved : let w := Transition.run step .empty mixedRun
    let after := step w (.advanceBatch 0 mixedChance)
    Answers w after mixedBatch ⟨[], []⟩ mixedResponse ∧ ∃ item ∈ PreRead.activeSessions ⟨[], []⟩ mixedBatch.body,
        item.localSessionId ∉ mixedResponse.needsContent ∧
        item.localSessionId ∉ mixedResponse.rejected ∧ ¬after.Serves mixedBatch.auth item := by
  intro w after
  refine ⟨⟨rfl, rfl, rfl⟩, sampleItem "two" .eventsV1, by decide, by decide, by decide, ?_⟩
  rintro ⟨row, mem, _, names, st⟩
  have unserved : ∀ row ∈ after.rows.rows, row.contentProtocol = .snapshotV1 ∧ row.fileKey = none := by decide
  obtain ⟨snap, unstored⟩ := unserved row mem
  rcases st with evs | ⟨key, _, file, _⟩
  · rw [snap] at evs
    cases evs
  · rw [unstored] at file
    cases file

end Clawdi.Snapshots
