import Clawdi.SkillArchives.Store

namespace Clawdi.SkillArchives
open Transition Table Option
variable {lib : Libraries String} {w : World} {skill : Skill} {up : Upload} {key : FileKey}

def Available (lib : Libraries String) (w : World) : Prop :=
  ∀ skill ∈ w.skills, skill.isActive = true → ∀ key, skill.fileKey = some key →
    Stored lib w.objects key skill.skillKey skill.contentHash

structure Backed (lib : Libraries String) (store : FileStore) (skill : Skill) : Prop where
  stored : ∀ key, skill.fileKey = some key → Stored lib store key skill.skillKey skill.contentHash
  named : ∀ uid projectId skillKey contentHash, skill.fileKey = some (.archive uid projectId skillKey contentHash) →
    skill.skillKey = skillKey ∧ skill.contentHash = contentHash

structure Sound (lib : Libraries String) (w : World) : Prop where
  rows : ∀ skill ∈ w.skills, skill.isActive = true → Backed lib w.objects skill
  analysed : ∀ up ∈ w.uploads, ∃ file, up.request.data = .tarFile file ∧
    computeFileTreeHash file.entries lib.sha256 (some up.request.skillKey) = up.analysis.contentHash
  written : ∀ up ∈ w.uploads, up.stored = true →
    Stored lib w.objects up.fileKey up.request.skillKey up.analysis.contentHash

lemma Sound.available (inv : Sound lib w) : Available lib w :=
  fun skill stands active => (inv.rows skill stands active).stored

lemma Sound.writeSkill (inv : Sound lib w)
    (backed : skill.isActive = true → Backed lib w.objects skill) : Sound lib (w.writeSkill skill) where
  rows := by
    intro alt stands active
    rcases mem_put.mp stands with rfl | ⟨pre, _⟩
    · exact backed active
    · exact inv.rows alt pre active
  analysed := inv.analysed
  written := inv.written

lemma Sound.forgetUploads (inv : Sound lib w) (p : Upload → Bool) :
    Sound lib { w with uploads := w.uploads.remove p } where
  rows := inv.rows
  analysed := fun up stands => inv.analysed up (mem_remove.mp stands).1
  written := fun up stands => inv.written up (mem_remove.mp stands).1

variable {op : Operation} {skillKey : Segments}

lemma activeSkill_some {uid projectId} (hit : w.activeSkill uid projectId skillKey = some skill) :
    skill ∈ w.skills ∧ skill.skillKey = skillKey ∧ skill.isActive = true := by
  have holds := List.find?_some hit
  have stands : skill ∈ w.skills := List.mem_of_find?_eq_some hit
  simp only [decide_eq_true_eq] at holds
  exact ⟨stands, holds.2.2.1, holds.2.2.2⟩

lemma Sound.active (inv : Sound lib w) {uid projectId}
    (hit : w.activeSkill uid projectId skillKey = some skill) : Backed lib w.objects skill := by
  obtain ⟨stands, _, active⟩ := activeSkill_some hit
  exact inv.rows skill stands active

lemma Backed.of_upload (written : Stored lib w.objects up.fileKey up.request.skillKey up.analysis.contentHash)
    (skillKey : skill.skillKey = up.request.skillKey) (contentHash : skill.contentHash = up.analysis.contentHash)
    (fileKey : skill.fileKey = some up.fileKey) : Backed lib w.objects skill where
  stored := by
    intro key isKey
    rw [fileKey] at isKey
    rw [skillKey, contentHash, ← Option.some.inj isKey]
    exact written
  named := by
    intro _ _ _ _ isKey
    rw [fileKey, Upload.fileKey] at isKey
    cases isKey
    exact ⟨skillKey, contentHash⟩

lemma Sound.upsertSkill (inv : Sound lib w) (written : Stored lib w.objects up.fileKey up.request.skillKey
      up.analysis.contentHash) : Sound lib (w.upsertSkill up) := by
  simp only [World.upsertSkill]
  split
  · rename_i old hit
    split
    · exact inv
    · have sameKey := (activeSkill_some hit).2.1
      exact inv.writeSkill fun _ => Backed.of_upload written sameKey rfl rfl
  · have fresh : Sound lib { w with nextSkillId := w.nextSkillId + 1 } :=
      ⟨inv.rows, inv.analysed, inv.written⟩
    exact fresh.writeSkill fun _ => Backed.of_upload written rfl rfl rfl

lemma Backed.claimSkill (backed : Backed lib w.objects skill) :
    Backed lib w.objects (World.claimSkill skill up) := by
  unfold World.claimSkill
  split <;> exact ⟨backed.stored, backed.named⟩

lemma Sound.uploadRow (inv : Sound lib w) (written : Stored lib w.objects up.fileKey up.request.skillKey
      up.analysis.contentHash) : Sound lib (w.uploadRow up) := by
  simp only [World.uploadRow]
  split
  · rename_i old hit
    split
    · exact inv
    · split
      · exact inv.writeSkill fun _ => (inv.active hit).claimSkill
      · exact inv.upsertSkill written
  · exact inv.upsertSkill written

lemma analysed_file {data : Data} {strict analysis}
    (h : data.entries.bind (fun es => analyzeSkillUpload es lib skillKey strict) = some analysis) :
    ∃ file, data = .tarFile file ∧
      computeFileTreeHash file.entries lib.sha256 (some skillKey) = analysis.contentHash := by
  cases data with
  | text doc => cases h
  | tarFile file => exact ⟨file, rfl, (analysis_some _ lib h).2.2⟩

lemma Sound.beginUpload (inv : Sound lib w) (id : ℕ) (req : UploadRequest) :
    Sound lib (beginUpload lib w id req) := by
  simp only [SkillArchives.beginUpload]
  split
  · rename_i analysis analysed _
    split
    · refine ⟨inv.rows, ?_, ?_⟩
      · intro up stands
        rcases mem_put.mp stands with rfl | ⟨pre, _⟩
        · exact analysed_file analysed
        · exact inv.analysed up pre
      · intro up stands was
        rcases mem_put.mp stands with rfl | ⟨pre, _⟩
        · cases was
        · exact inv.written up pre was
    · exact inv
  · exact inv

lemma Stored.overwrite {contentHash} (was : Stored lib w.objects key skillKey contentHash)
    (named : key = up.fileKey → skillKey = up.request.skillKey ∧ contentHash = up.analysis.contentHash)
    (analysed : ∃ file, up.request.data = .tarFile file ∧ computeFileTreeHash file.entries lib.sha256 (some up.request.skillKey) =
      up.analysis.contentHash) : Stored lib (w.objects.put up.fileKey up.request.data) key skillKey contentHash := by
  by_cases same : key = up.fileKey
  · obtain ⟨rfl, rfl⟩ := named same
    obtain ⟨file, isFile, hash⟩ := analysed
    rw [same, isFile]
    exact Stored.put_self hash
  · exact was.put same _

lemma Sound.putObject (inv : Sound lib w) (stands : up ∈ w.uploads) : Sound lib (putObject w up) := by
  have analysed := inv.analysed up stands
  rw [SkillArchives.putObject]
  split
  · exact inv
  · refine ⟨?_, ?_, ?_⟩
    · intro skill here active
      have backed := inv.rows skill here active
      refine ⟨?_, backed.named⟩
      intro key isKey
      apply (backed.stored key isKey).overwrite _ analysed
      intro same
      exact backed.named _ _ _ _ (isKey.trans (congrArg some same))
    · intro alt here
      rcases mem_put.mp here with rfl | ⟨pre, _⟩
      · exact analysed
      · exact inv.analysed alt pre
    · intro alt here was
      rcases mem_put.mp here with rfl | ⟨pre, _⟩
      · obtain ⟨file, isFile, hash⟩ := analysed
        simp only [isFile]
        exact Stored.put_self hash
      · apply (inv.written alt pre was).overwrite _ analysed
        intro same
        simp only [Upload.fileKey, FileKey.archive.injEq] at same
        exact ⟨same.2.2.1, same.2.2.2⟩

lemma Sound.finishUpload (inv : Sound lib w) (stands : up ∈ w.uploads) : Sound lib (finishUpload w up) := by
  have rest := inv.forgetUploads (·.id = up.id)
  simp only [SkillArchives.finishUpload]
  split
  · rename_i holds
    exact rest.uploadRow (inv.written up stands holds.1)
  · exact rest

lemma projectSkillRefreshRows_some {req tgt src fileKey} {fileCount : ℕ}
    (hit : w.projectSkillRefreshRows req = some (tgt, src, fileKey, fileCount)) :
    (∃ projectId, w.activeSkill req.userId projectId req.skillKey = some tgt) ∧
      (∃ projectId, w.activeSkill req.userId projectId req.skillKey = some src) ∧ src.fileKey = some fileKey := by
  simp only [World.projectSkillRefreshRows, bind_eq_bind, bind_eq_some_iff] at hit
  obtain ⟨_, _, _, _, target', isTarget, _, _, _, _, _, _, _, _, _, _, source', isSource, _, _,
    key', isKey, _, _, res⟩ := hit
  cases res
  exact ⟨⟨_, isTarget⟩, ⟨_, isSource⟩, isKey⟩

lemma Sound.refreshRow (inv : Sound lib w) (refresh : Refresh) (analysis : SkillUploadAnalysis String) :
    Sound lib (w.refreshRow refresh analysis) := by
  simp only [World.refreshRow]
  split
  · rename_i tgt src fileKey fileCount hit
    obtain ⟨⟨_, isTarget⟩, ⟨_, isSource⟩, isKey⟩ := projectSkillRefreshRows_some hit
    have backed := inv.active isSource
    have sameKey : tgt.skillKey = src.skillKey :=
      (activeSkill_some isTarget).2.1.trans (activeSkill_some isSource).2.1.symm
    split
    · exact inv
    · apply inv.writeSkill
      intro _
      simp only [World.refreshed]
      split
      · refine ⟨?_, ?_⟩
        · intro key same
          simp only [sameKey]
          exact backed.stored key (isKey.trans same)
        · intro _ _ _ _ same
          simp only [sameKey]
          exact backed.named _ _ _ _ (isKey.trans same)
      · exact inv.active isTarget
  · exact inv

def removes (w : World) : Operation → Option FileKey
  | .cleanFile id true => (w.cleanups.get id).bind fun cleanup => cleanup.fileKeys.head?
  | _ => none

def Unused (w : World) (key : FileKey) : Prop :=
  (∀ skill ∈ w.skills, skill.isActive = true → skill.fileKey ≠ some key) ∧
    ∀ up ∈ w.uploads, up.stored = true → up.fileKey ≠ key

def Spared (w : World) (op : Operation) : Prop := ∀ key ∈ removes w op, Unused w key
instance : DecidablePred (Unused w) := fun _ => inferInstanceAs (Decidable (_ ∧ _))

instance : ∀ w op, Decidable (Spared w op) := fun w op =>
  inferInstanceAs (Decidable (∀ key ∈ removes w op, Unused w key))

lemma Sound.delete (inv : Sound lib w) (unused : Unused w key) :
    Sound lib { w with objects := w.objects.delete key } where
  rows := by
    intro skill stands active
    have backed := inv.rows skill stands active
    refine ⟨?_, backed.named⟩
    intro alt isKey
    apply (backed.stored alt isKey).delete
    intro same
    exact unused.1 skill stands active (isKey.trans (congrArg some same))
  analysed := inv.analysed
  written := by
    intro up stands was
    exact (inv.written up stands was).delete (unused.2 up stands was)

lemma Sound.step {op} (inv : Sound lib w) (spared : Spared w op) : Sound lib (step lib w op) := by
  have hit {ρ : Type} {idOf : ρ → ℕ} {table : Table idOf} {id : ℕ} {f : ρ → World}
      (each : ∀ row ∈ table, Sound lib (f row)) : Sound lib ((table.get id).elim w f) := by
    cases h : table.get id with
    | none => exact inv
    | some row => exact each row (get_eq_some.mp h).1
  cases op with
  | beginUpload id req => exact inv.beginUpload id req
  | putObject id => exact hit fun _ => inv.putObject
  | finishUpload id => exact hit fun _ => inv.finishUpload
  | abandonUpload id => exact inv.forgetUploads _
  | beginRefresh id req =>
    simp only [SkillArchives.step, beginRefresh]
    split
    · exact ⟨inv.rows, inv.analysed, inv.written⟩
    · exact inv
  | validateRefresh id =>
    apply hit
    intro refresh _
    simp only [validateRefresh]
    split <;> exact ⟨inv.rows, inv.analysed, inv.written⟩
  | finishRefresh id =>
    apply hit
    intro refresh _
    have rest : Sound lib { w with refreshes := w.refreshes.remove (·.id = refresh.id) } :=
      ⟨inv.rows, inv.analysed, inv.written⟩
    simp only [finishRefresh]
    split
    · exact rest.refreshRow _ _
    · exact inv
  | deleteSkill uid projectId skillKey expectedContentHash =>
    simp only [SkillArchives.step, World.deleteSkill]
    split
    · split
      · exact inv.writeSkill nofun
      · exact inv
    · exact inv
  | deleteAgentSyncedSkill uid aid projectId skillKey expectedContentHash =>
    simp only [SkillArchives.step, World.deleteAgentSyncedSkill]
    split
    · exact inv
    · split
      · rename_i skill _
        have deleted : Sound lib (w.writeSkill { skill with isActive := false }) := inv.writeSkill nofun
        split <;> split <;> first | exact deleted | exact inv
      · exact inv
  | deleteAgent id uid aid =>
    simp only [SkillArchives.step, World.deleteAgent]
    split
    · exact inv
    · rename_i fileKeys rest deleted
      simp only [World.deleteAgentProjectSkillRows, bind_eq_bind, bind_eq_some_iff] at deleted
      obtain ⟨_, _, _, _, _, _, _, _, res⟩ := deleted
      cases res
      exact ⟨fun skill stands => inv.rows skill (mem_remove.mp stands).1, inv.analysed, inv.written⟩
  | cleanFile id succeeds =>
    cases pend : w.cleanups.get id with
    | none => simpa [SkillArchives.step, pend] using inv
    | some cleanup =>
      simp only [SkillArchives.step, pend, elim_some, cleanFile]
      split
      · exact inv
      · rename_i key fileKeys keys
        split
        · rename_i succeeds
          have removed : removes w (.cleanFile id true) = some key := by simp [removes, pend, keys]
          rw [succeeds] at spared
          have without := inv.delete (spared key removed)
          exact ⟨without.rows, without.analysed, without.written⟩
        · exact ⟨inv.rows, inv.analysed, inv.written⟩
  | changeGraph graph => exact ⟨inv.rows, inv.analysed, inv.written⟩

structure Start (lib : Libraries String) (w : World) : Prop where
  rows : ∀ skill ∈ w.skills, skill.isActive = true → Backed lib w.objects skill
  idle : ∀ up, up ∉ w.uploads

lemma Start.sound (start : Start lib w) : Sound lib w :=
  ⟨start.rows, fun up stands => absurd stands (start.idle up), fun up stands => absurd stands (start.idle up)⟩

section

end
end Clawdi.SkillArchives
