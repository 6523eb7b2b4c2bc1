import Clawdi.SessionEvents.Changes

namespace Clawdi.SessionEvents
open List Table

def Executes (w : World) (act : Action) (req : Request) (prog : Progress) : Prop :=
  ∃ id now call, act = .advance id now ∧ w.calls.get id = some call ∧ call.Executes req prog

def Deletes (act : Action) (genId : Uuid) : Prop := act = .finishCleaning genId

def Action.uploads : Action → List Bytes
  | .receive _ _ (.upload up) => [up.data]
  | _ => []

def uploads (acts : List Action) : List Bytes := acts.flatMap Action.uploads

variable {adapter : EventAdapter} {w : World}

lemma Change.imp {executes performs : Request → Progress → Prop} {deletes removes : Uuid → Prop}
    {db} (imp : ∀ req prog, executes req prog → performs req prog)
    (impDeletes : ∀ genId, deletes genId → removes genId)
    (change : Change adapter w executes deletes db) : Change adapter w performs removes db := by
  cases change with
  | unchanged => exact .unchanged
  | created sess new gone fresh => exact .created sess new gone fresh
  | suppressed row => exact .suppressed row
  | moved move => exact .moved move
  | staged sess body now gone => exact .staged sess body now gone
  | touched gen now was staging => exact .touched gen now was staging
  | uploaded gen chunk now was staging own obj => exact .uploaded gen chunk now was staging own obj
  | appended sess req chunk was cur own src tgt gone obj key ran =>
    exact .appended sess req chunk was cur own src tgt gone obj key (imp _ _ ran)
  | committed sess gen body now was staged staging own named free cur tiled ran =>
    exact .committed sess gen body now was staged staging own named free cur tiled (imp _ _ ran)
  | deleted genId locked ran => exact .deleted genId locked (impDeletes _ ran)

lemma cleaning_found {genId cleaning} (hit : w.cleaning genId = some cleaning) :
    cleaning ∈ w.cleanings ∧ cleaning.generationId = genId := by
  exact ⟨mem_of_find?_eq_some hit, by simpa using List.find?_some hit⟩

lemma locked_iff {genId} : w.locked genId = true ↔ ∃ cleaning ∈ w.cleanings, cleaning.generationId = genId := by
  simp [World.locked]

variable {executes : Request → Progress → Prop} (genId : Uuid)

lemma startCleaning_db (shared : List Uuid) (now : Time) : (startCleaning genId shared now w).db = w.db := by
  unfold startCleaning
  split
  · rfl
  · split <;> rfl

lemma deleteNextFile_db : (deleteNextFile genId w).db = w.db := by
  unfold deleteNextFile
  split <;> rfl

lemma performLate_db (req : StoreRequest) : (performLate req w).db = w.db := by
  cases req with
  | put | delete => rfl

lemma finishCleaning_change : Change adapter w executes (Deletes (.finishCleaning genId))
      (finishCleaning genId w).db := by
  unfold finishCleaning
  split
  · rename_i cleaning hit
    exact .deleted genId (locked_iff.mpr ⟨_, cleaning_found hit⟩) rfl
  · exact .unchanged

lemma createSession_change {deletes : Uuid → Prop} (sess : Session) :
    Change adapter w executes deletes (createSession sess w).db := by
  unfold createSession
  split
  · rename_i new
    exact .created sess new.1 new.2.1 new.2.2
  · exact .unchanged

lemma CallStep.change {call after} (step : CallStep adapter w call after) :
    Change adapter w call.Executes (fun _ => False) after.db := by
  cases step with
  | writes ans db change grounds => exact change
  | _ => exact .unchanged

lemma step_change {ups} (inv : StoreSound adapter ups w)
    (act : Action) : Change adapter w (Executes w act) (Deletes act) (step adapter w act).db := by
  cases act with
  | createSession sess => exact createSession_change sess
  | suppress row => exact .suppressed row
  | moveProfile move => exact .moved move
  | receive | abandon =>
    rw [step]
    split <;> exact .unchanged
  | advance id now =>
    rw [step]
    cases hit : w.calls.get id with
    | none => exact .unchanged
    | some call =>
      have call_sound := inv.calls call (get_eq_some.mp hit).1
      refine (advance_step call_sound).change.imp ?_ ?_
      · intro req prog ran
        exact ⟨id, now, call, rfl, hit, ran⟩
      · intro genId never
        exact never.elim
  | startCleaning genId shared now =>
    rw [step, startCleaning_db]
    exact .unchanged
  | deleteNextFile genId =>
    rw [step, deleteNextFile_db]
    exact .unchanged
  | finishCleaning genId => exact finishCleaning_change genId
  | failCleaning genId => exact .unchanged
  | performLate idx =>
    rw [step]
    split
    · exact .unchanged
    · rw [performLate_db]
      exact .unchanged

lemma Change.stored {executes : Request → Progress → Prop} {deletes : Uuid → Prop} {db}
    (change : Change adapter w executes deletes db) (chunks : ∀ chunk ∈ w.db.chunks, Stored adapter w.issued chunk) :
    ∀ chunk ∈ db.chunks, Stored adapter w.issued chunk := by
  have insert : ∀ chunk, Stored adapter w.issued chunk →
      ∀ alt ∈ w.db.chunks.put chunk, Stored adapter w.issued alt := by
    intro chunk obj alt mem
    rcases mem_put.mp mem with rfl | ⟨pre, _⟩
    · exact obj
    · exact chunks alt pre
  cases change with
  | uploaded gen chunk now was staging own obj => exact insert chunk obj
  | appended sess req chunk was cur own src tgt gone obj key ran => exact insert chunk obj
  | deleted genId locked ran =>
    intro chunk mem
    exact chunks chunk (mem_remove.mp mem).1
  | _ => exact chunks

namespace StoreSound
variable {ups : List Bytes}

lemma empty : StoreSound adapter ups World.empty where
  issued := by
    intro key data sent
    cases sent
  objects := by
    intro obj mem
    exact absurd mem (not_mem_empty obj)
  calls := by
    intro call mem
    exact absurd mem (not_mem_empty call)
  chunks := by
    intro chunk mem
    exact absurd mem (not_mem_empty chunk)

lemma withDb (inv : StoreSound adapter ups w) {db : Db}
    (chunks : ∀ chunk ∈ db.chunks, Stored adapter w.issued chunk) : StoreSound adapter ups { w with db := db } :=
  { inv with chunks := chunks }

lemma moveTo (inv : StoreSound adapter ups w) {call : Call} {prog : Progress}
    (call_sound : CallSound ups w.issued { call with progress := prog }) :
    StoreSound adapter ups (call.moveTo prog w) where
  issued := inv.issued
  objects := inv.objects
  chunks := inv.chunks
  calls := by
    intro alt mem
    rcases mem_put.mp mem with rfl | ⟨pre, _⟩
    · exact call_sound
    · exact inv.calls alt pre

lemma moveToUnsent (inv : StoreSound adapter ups w) {call}
    (call_sound : CallSound ups w.issued call) {prog : Progress}
    (unsent : prog.key? = none) : StoreSound adapter ups (call.moveTo prog w) := by
  apply inv.moveTo
  refine ⟨call_sound.uploaded, ?_⟩
  intro up key _ holds
  rw [unsent] at holds
  cases holds

lemma send (inv : StoreSound adapter ups w) {req}
    (honest : ∀ key data, req = .put key data → key.contentHash = sha256 data ∧ data ∈ ups) :
    StoreSound adapter ups { w with issued := req :: w.issued } where
  issued := by
    intro key data sent
    rcases mem_cons.mp sent with same | pre
    · exact honest key data same.symm
    · exact inv.issued key data pre
  objects := fun obj mem => mem_cons_of_mem _ (inv.objects obj mem)
  calls := by
    intro call mem
    have pre := inv.calls call mem
    exact ⟨pre.uploaded, fun up key sender sent =>
      mem_cons_of_mem _ (pre.sent up key sender sent)⟩
  chunks := fun chunk mem => (inv.chunks chunk mem).mono (subset_cons_self _ _)

section
variable (inv : StoreSound adapter ups w)
include inv

lemma putObject {key data} (sent : .put key data ∈ w.issued) :
    StoreSound adapter ups { w with objects := w.objects.put ⟨key, data⟩ } where
  issued := inv.issued
  objects := by
    intro obj mem
    rcases mem_put.mp mem with rfl | ⟨pre, _⟩
    · exact sent
    · exact inv.objects obj pre
  calls := inv.calls
  chunks := inv.chunks

lemma removeObject (p : StoredObject → Bool) : StoreSound adapter ups { w with objects := w.objects.remove p } :=
  { inv with objects := fun obj mem => inv.objects obj (mem_remove.mp mem).1 }

lemma callStep {call after} (call_sound : CallSound ups w.issued call)
    (step : CallStep adapter w call after) : StoreSound adapter ups after := by
  cases step with
  | waits => exact inv
  | refused err cause => exact inv.moveToUnsent call_sound rfl
  | reads prog turn => exact inv.moveToUnsent call_sound turn.unsent
  | writes ans db change grounds => exact (inv.withDb (change.stored inv.chunks)).moveToUnsent call_sound rfl
  | sends up key sender hash =>
    have known : up.data ∈ ups := call_sound.uploaded up sender
    have sent := @send adapter w ups inv (.put key up.data) fun key' data same => by
      cases same
      exact ⟨hash, known⟩
    apply sent.moveTo
    refine ⟨call_sound.uploaded, ?_⟩
    intro alt key' isOther same
    cases same
    rw [show alt = up from Request.upload.inj (isOther.symm.trans sender)]
    exact mem_cons_self
  | stores up key sender sent =>
    have obj := call_sound.sent up key sender (by rw [sent]; rfl)
    apply (inv.putObject obj).moveTo
    refine ⟨call_sound.uploaded, ?_⟩
    intro alt key' isOther same
    cases same
    exact call_sound.sent alt key isOther (by rw [sent]; rfl)

lemma startCleaning (genId : Uuid) (shared : List Uuid) (now : Time) :
    StoreSound adapter ups (SessionEvents.startCleaning genId shared now w) := by
  unfold SessionEvents.startCleaning
  split
  · exact inv
  · split
    · exact inv
    · exact { inv with }

lemma deleteNextFile (genId : Uuid) : StoreSound adapter ups (SessionEvents.deleteNextFile genId w) := by
  unfold SessionEvents.deleteNextFile
  split
  · rename_i key keys hit
    have removed := inv.removeObject fun obj => obj.key = key
    have sent := @send adapter _ ups removed (.delete key) fun key' data same => by cases same
    exact { sent with }
  · exact inv

lemma performLate {req} (sent : req ∈ w.issued) : StoreSound adapter ups (SessionEvents.performLate req w) := by
  cases req with
  | put key data => exact inv.putObject sent
  | delete key => exact inv.removeObject _

end

lemma step (inv : StoreSound adapter ups w) {act : Action} (known : ∀ data ∈ act.uploads, data ∈ ups) :
    StoreSound adapter ups (SessionEvents.step adapter w act) := by
  cases act with
  | createSession sess =>
    rw [SessionEvents.step, createSession]
    split
    · exact inv.withDb inv.chunks
    · exact inv
  | suppress | moveProfile => exact inv.withDb inv.chunks
  | receive id auth req =>
    rw [SessionEvents.step]
    split
    · exact inv
    · refine @moveTo adapter w ups inv ⟨id, auth, req, .received⟩ .received ⟨?_, ?_⟩
      · intro up isUpload
        cases isUpload
        exact known _ mem_cons_self
      · intro up key _ sent
        cases sent
  | advance id now =>
    rw [SessionEvents.step]
    cases hit : w.calls.get id with
    | none => exact inv
    | some call =>
      have call_sound := inv.calls call (get_eq_some.mp hit).1
      exact inv.callStep call_sound (advance_step call_sound)
  | abandon id =>
    rw [SessionEvents.step]
    cases hit : w.calls.get id with
    | none => exact inv
    | some call => exact inv.moveToUnsent (inv.calls call (get_eq_some.mp hit).1) rfl
  | startCleaning genId shared now => exact inv.startCleaning genId shared now
  | deleteNextFile genId => exact inv.deleteNextFile genId
  | finishCleaning genId =>
    rw [SessionEvents.step, finishCleaning]
    split
    · have chunks := @withDb adapter w ups inv (w.db.deleteGeneration genId)
        fun chunk mem => inv.chunks chunk (mem_remove.mp mem).1
      exact { chunks with }
    · exact inv
  | failCleaning genId => exact { inv with }
  | performLate idx =>
    rw [SessionEvents.step]
    cases hit : w.issued[idx]? with
    | none => exact inv
    | some req => exact inv.performLate (mem_of_getElem? hit)

end StoreSound
end Clawdi.SessionEvents
