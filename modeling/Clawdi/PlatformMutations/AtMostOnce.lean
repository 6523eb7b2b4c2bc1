import Clawdi.PlatformMutations.Uniqueness

namespace Clawdi.PlatformMutations
open Program Transition Table
variable {reqHash : PlatformOwner × Payload → ℕ} {w : World} {proc : Process} {was : Stored}

lemma Consistent.keeps_rows (agree : Consistent reqHash w) {ev}
    (stands : was ∈ w.rows) : was ∈ (PlatformMutations.step reqHash w ev).rows := by
  cases ev with
  | arrive | crash =>
    rw [PlatformMutations.step]
    split <;> exact stands
  | perform id answers now conflict =>
    rw [PlatformMutations.step]
    split
    · exact stands
    rename_i proc hit
    have mem := (get_eq_some.mp hit).1
    rw [World.perform]
    split
    · exact stands
    rename_i stmt next runs
    split
    · exact stands
    rename_i res w' ran
    by_cases commits : stmt = .commit
    · subst commits
      cases ran
      have allowed := (agree.settled proc mem).allowed runs
      have flushed : proc.view.txn.row ≠ none → proc.flushed = true := by
        intro holds
        rcases allowed with ⟨_, none⟩ | ⟨_, flushed⟩
        · exact absurd none holds
        · exact flushed
      exact (mem_commit agree mem flushed).mpr (.inl stands)
    · rw [execute_world commits ran]
      exact stands
  | pruneSelect now limit => exact stands
  | pruneDelete =>
    have same : w.rows.remove (fun was => was.request ∈ w.pruning) = w.rows := by
      apply remove_eq_self
      simp [agree.pruning]
    rw [PlatformMutations.step, same]
    exact stands

structure Descends (w : World) (proc later : Process) : Prop where
  id : later.id = proc.id
  slot : later.slot = proc.slot
  found : later.view.found = proc.view.found ∨ later.view.found = some ((w.rows.get proc.slot).map Stored.row)

lemma Descends.refl (proc : Process) : Descends w proc proc := ⟨rfl, rfl, .inl rfl⟩

lemma Descends.close (proc : Process) (program : Program Statement Statement.Result (Except HttpError Response)) :
    Descends w proc (proc.close program) := ⟨rfl, rfl, .inl rfl⟩

lemma descends_put {later alt} (mem : proc ∈ w.requests)
    (descends : Descends w proc later) (here : alt ∈ w.requests.put later) :
    ∃ pre ∈ w.requests, Descends w pre alt := by
  rcases mem_put.mp here with rfl | ⟨pre, _⟩
  · exact ⟨proc, mem, descends⟩
  · exact ⟨alt, pre, Descends.refl alt⟩

lemma filter_unexpired {hit : Option PlatformMutationIdempotency} {now : ℕ}
    (unexpired : ∀ row ∈ hit, now < row.expiresAt) : hit.filter (fun row => now < row.expiresAt) = hit := by
  cases hit with
  | none => rfl
  | some row => simp [Option.filter, unexpired row rfl]

lemma Settled.descends (done : Settled reqHash proc) {stmt : Statement}
    {next : stmt.Result → Program Statement Statement.Result (Except HttpError Response)}
    {answers : (question : Question) → question.Answer} {now : ℕ} {conflict}
    {res} {w'} (runs : proc.program = .perform stmt next) (retained : ∀ was ∈ w.rows, now < was.row.expiresAt)
    (ran : w.execute proc answers now conflict stmt = some (res, w')) :
    Descends w proc (proc.after res (next res)) := by
  refine ⟨rfl, rfl, ?_⟩
  by_cases looks : ∃ slot, stmt = .findRow slot
  · right
    obtain ⟨slot, rfl⟩ := looks
    have unexpired := execute_unexpired retained ran
    obtain ⟨same, _⟩ := done.allowed runs
    obtain ⟨⟨rfl, rfl⟩, _⟩ := ran
    show some _ = _
    rw [filter_unexpired unexpired, same]
    rfl
  · left
    exact View.after_found fun slot same => looks ⟨slot, same⟩

lemma Consistent.descends (agree : Consistent reqHash w) {ev} (retained : Retained w ev) {later}
    (mem : later ∈ (PlatformMutations.step reqHash w ev).requests) :
    later.view.found = none ∨ ∃ proc ∈ w.requests, Descends w proc later := by
  have stays : later ∈ w.requests → ∃ proc ∈ w.requests, Descends w proc later :=
    fun here => ⟨later, here, Descends.refl later⟩
  cases ev with
  | arrive id req =>
    rw [PlatformMutations.step] at mem
    split at mem
    · exact .inr (stays mem)
    · rcases mem_put.mp mem with rfl | ⟨pre, _⟩
      · exact .inl rfl
      · exact .inr (stays pre)
  | perform id answers now conflict =>
    right
    rw [PlatformMutations.step] at mem
    split at mem
    · exact stays mem
    rename_i proc hit
    have here := (get_eq_some.mp hit).1
    rw [World.perform] at mem
    split at mem
    · exact descends_put here (Descends.close proc _) mem
    rename_i stmt next runs
    split at mem
    · exact stays mem
    rename_i res w' ran
    have descends := (agree.settled proc here).descends runs retained ran
    by_cases commits : stmt = .commit
    · subst commits
      cases ran
      exact descends_put here descends mem
    · rw [execute_world commits ran] at mem
      exact descends_put here descends mem
  | crash id =>
    right
    rw [PlatformMutations.step] at mem
    split at mem
    · exact stays mem
    · rename_i proc hit
      have here := (get_eq_some.mp hit).1
      exact descends_put here (Descends.close proc _) mem
  | pruneSelect | pruneDelete => exact .inr (stays mem)

structure Behind (was : Stored) (id : ℕ) (w : World) : Prop where
  stands : was ∈ w.rows
  finds : ∀ proc ∈ w.requests, proc.id = id → proc.slot = was.slot →
    proc.view.found = none ∨ proc.view.found = some (some was.row)

lemma Behind.step {was} {id : ℕ} (behind : Behind was id w)
    (agree : Consistent reqHash w) {ev} (retained : Retained w ev) :
    Behind was id (PlatformMutations.step reqHash w ev) where
  stands := agree.keeps_rows behind.stands
  finds := by
    intro later mem isId slot
    rcases agree.descends retained mem with early | ⟨proc, pre, descends⟩
    · exact .inl early
    have isSlot : proc.slot = was.slot := descends.slot.symm.trans slot
    rcases descends.found with same | looked
    · rw [same]
      exact behind.finds proc pre (descends.id.symm.trans isId) isSlot
    · right
      rw [looked, isSlot, get_key behind.stands]
      rfl

lemma consistent_start : Consistent reqHash {} where
  settled := by simp
  alone := by simp
  vacant := by simp
  stored := by simp
  effects := by simp
  audits := by simp
  pruning := rfl

section
variable (reqHash)

def CollisionFree (w : World) : Prop :=
  ∀ one ∈ w.requests, ∀ alt ∈ w.requests, one.slot = alt.slot →
    reqHash one.request.payload = reqHash alt.request.payload →
    one.request.payload = alt.request.payload

def Committed (w : World) (proc : Process) : Prop := ∃ effect ∈ w.effects, effect.1 = proc.id

def Later (w : World) (proc : Process) : Prop :=
  ∀ earlier ∈ w.requests, earlier.id = proc.id → earlier.view.found = none

def SameRequest (first proc : Process) : Prop :=
  first.request.payload = proc.request.payload ∧ first.view.user = proc.view.user

def Unserved (proc : Process) (out : Except HttpError Response) : Prop :=
  (proc.view.found = none ∧ ∃ error, out = .error error) ∨ out = .error .internal

end

lemma Consistent.committed (agree : Consistent reqHash w) (mem : proc ∈ w.requests)
    (committed : Committed w proc) : ∃ was ∈ w.rows, was.request = proc.id ∧ was.slot = proc.slot ∧
      proc.view.found = some none := by
  obtain ⟨effect, happened, isProcess⟩ := committed
  obtain ⟨was, stands, req⟩ := agree.effects effect happened
  obtain ⟨author, here, holds⟩ := agree.stored was stands
  have id : author.id = proc.id := by rw [holds.id, req, isProcess]
  obtain rfl : author = proc := eq_of_key here mem id
  exact ⟨was, stands, holds.id.symm, holds.slot.symm, holds.found⟩

lemma Settled.outcome (done : Settled reqHash proc) {out} (ended : proc.outcome = some out) :
    Final reqHash proc.request out proc.view := by
  have safe := done.safe
  rw [Process.outcome] at ended
  split at ended
  · rename_i same
    cases ended
    rw [same] at safe
    exact safe
  · cases ended

lemma outcome_behind {first out} (author : Author reqHash was first)
    (final : Final reqHash proc.request out proc.view)
    (collisionFree : reqHash first.request.payload = reqHash proc.request.payload → first.request.payload =
      proc.request.payload)
    (finds : proc.view.found = none ∨ proc.view.found = some (some was.row)) : Unserved proc out ∨
      (SameRequest first proc ∧ out = .ok (replayResponse was.row.response) ∧ proc.view.audited = false) ∨
      (¬SameRequest first proc ∧ out = .error idempotencyConflict) := by
  rcases finds with early | hit
  · rw [Final, early] at final
    exact .inl (.inl ⟨early, final⟩)
  rw [Final, hit] at final
  rcases final with failed | served
  · exact .inl (.inr failed)
  right
  rw [author.hash, author.owner] at served
  by_cases same : SameRequest first proc
  · have hashes := congrArg reqHash same.1
    rw [if_pos ⟨hashes, same.2⟩] at served
    exact .inl ⟨same, served.1, served.2⟩
  · have differ : ¬(reqHash first.request.payload = reqHash proc.request.payload ∧
        first.view.user = proc.view.user) :=
      fun both => same ⟨collisionFree both.1, both.2⟩
    rw [if_neg differ] at served
    exact .inr ⟨same, served⟩

/-- Of the requests with one key the effects of at most one are committed, and with them its row. -/
theorem platform_mutations_at_most_once (reqHash : PlatformOwner × Payload → ℕ)
    (pre after : List Event) (retained : Always (step reqHash) Retained {} (pre ++ after))
    (collisionFree : CollisionFree reqHash (run (step reqHash) {} (pre ++ after))) :
    let middle := run (step reqHash) {} pre
    let last := run (step reqHash) {} (pre ++ after)
    (∀ one ∈ last.requests, ∀ alt ∈ last.requests, one.slot = alt.slot →
      Committed last one → Committed last alt → one = alt) ∧
    (∀ proc ∈ last.requests, Committed last proc →
      ∃ was ∈ last.rows, was.request = proc.id ∧ was.slot = proc.slot) ∧
    ∀ was ∈ middle.rows, was ∈ last.rows ∧ ∃ first ∈ last.requests,
      first.id = was.request ∧ first.slot = was.slot ∧
      ∀ proc ∈ last.requests, proc.slot = was.slot → Later middle proc →
        ¬Committed last proc ∧ (∀ row ∈ last.rows, row.request ≠ proc.id) ∧
        ∀ out, proc.outcome = some out → Unserved proc out ∨
          (SameRequest first proc ∧ out = .ok (replayResponse was.row.response) ∧
            ∀ audit ∈ last.audits, audit.1 ≠ proc.id) ∨
          (¬SameRequest first proc ∧ out = .error idempotencyConflict) := by
  intro middle last
  have keeps : ∀ w ev, Consistent reqHash w → Retained w ev →
      Consistent reqHash (step reqHash w ev) :=
    fun _ _ agree fresh => agree.step fresh
  obtain ⟨retainedBefore, retainedAfter⟩ := Always.append.mp retained
  have consistentMiddle : Consistent reqHash middle := Always.invariant keeps consistent_start retainedBefore
  have agree : Consistent reqHash last := Always.invariant keeps consistent_start retained
  refine ⟨?_, ?_, ?_⟩
  · intro one oneStands alt otherStands slot oneCommitted otherCommitted
    obtain ⟨row, rowStands, rowOne, rowSlot, _⟩ := agree.committed oneStands oneCommitted
    obtain ⟨row', rowStands', rowOther, rowSlot', _⟩ := agree.committed otherStands otherCommitted
    have same : row = row' := by
      apply eq_of_key rowStands rowStands'
      rw [rowSlot, rowSlot', slot]
    apply eq_of_key oneStands otherStands
    rw [← rowOne, ← rowOther, same]
  · intro proc mem committed
    obtain ⟨was, stands, isId, isSlot, _⟩ := agree.committed mem committed
    exact ⟨was, stands, isId, isSlot⟩
  · intro was stands
    have behinds : ∀ proc, Later middle proc → Behind was proc.id last := by
      intro proc later
      have start : Behind was proc.id middle :=
        ⟨stands, fun earlier mem isProcess _ => .inl (later earlier mem isProcess)⟩
      have keepsBoth : ∀ w ev, Consistent reqHash w ∧ Behind was proc.id w →
          Retained w ev → Consistent reqHash (step reqHash w ev) ∧
            Behind was proc.id (step reqHash w ev) :=
        fun _ _ holds fresh => ⟨holds.1.step fresh, holds.2.step holds.1 fresh⟩
      have both := Always.invariant keepsBoth ⟨consistentMiddle, start⟩ retainedAfter
      rw [← run_append] at both
      exact both.2
    have keepsRow : ∀ w ev, Consistent reqHash w ∧ was ∈ w.rows → Retained w ev →
        Consistent reqHash (step reqHash w ev) ∧
          was ∈ (step reqHash w ev).rows :=
      fun _ _ holds fresh => ⟨holds.1.step fresh, holds.1.keeps_rows holds.2⟩
    have kept := Always.invariant keepsRow ⟨consistentMiddle, stands⟩ retainedAfter
    rw [← run_append] at kept
    obtain ⟨first, here, author⟩ := agree.stored was kept.2
    refine ⟨kept.2, first, here, author.id, author.slot, ?_⟩
    intro proc mem slot later
    have finds := (behinds proc later).finds proc mem rfl slot
    have unused : proc.view.found ≠ some none := by
      rcases finds with none | some
      · simp [none]
      · simp [some]
    refine ⟨?_, ?_, ?_⟩
    · intro committed
      obtain ⟨_, _, _, _, hit⟩ := agree.committed mem committed
      exact unused hit
    · intro row rowStands isProcess
      obtain ⟨writer, writes, wrote⟩ := agree.stored row rowStands
      have same : writer = proc := eq_of_key writes mem (wrote.id.trans isProcess)
      rw [same] at wrote
      exact unused wrote.found
    · intro out ended
      have final := (agree.settled proc mem).outcome ended
      have apart := collisionFree first here proc mem (author.slot.trans slot.symm)
      refine (outcome_behind author final apart finds).imp_right (Or.imp_left ?_)
      rintro ⟨same, replayed, unaudited⟩
      refine ⟨same, replayed, fun audit added isProcess => ?_⟩
      obtain ⟨writer, writes, isWriter, audited⟩ := agree.audits audit added
      obtain rfl : writer = proc := eq_of_key writes mem (isWriter.trans isProcess)
      exact Bool.false_ne_true (unaudited.symm.trans audited)

section

def sampleRequest (ref label : String) : MutationRequest :=
  ⟨"key-1", ⟨.clerk, ref⟩, .mintApiKey ⟨label, 7, ["runtime"]⟩⟩

def sampleHash : PlatformOwner × Payload → ℕ
  | (_, .mintApiKey body) => body.label.length
  | _ => 0

def sampleAnswers : (question : Question) → question.Answer
  | .findOwner _ => .user 3
  | .authorityActive _ | .agentExists _ | .projectProvable _ | .keyExists _ => true
  | .lockAiProviderOwner _ | .lockSkillReservations _ _ => ()
  | .nextSortOrder _ | .freshId | .now => 0
  | .nextDefaultName _ _ => ""
  | .agentOf aid _ => some ⟨aid, false, none, none, none, none⟩
  | .writeFence _ _ _ | .workspaceSkillConflict _ _ | .pluginBundleRefusal _ _ _ => none
  | .runtimeState _ _ => none
  | .secretRows _ => []
  | .oauthClaimConflict _ _ _ | .keyOf _ _ => none
  | .generatedKey => (⟨11, "agent", "clawdi_", 0, none, ["runtime"], some 7⟩, "clawdi_secret")

def sampleSteps (id count : ℕ) : List Event := List.replicate count (.perform id sampleAnswers 5 false)
def sampleBefore : List Event := .arrive 1 (sampleRequest "user_1" "agent") :: sampleSteps 1 15

def sampleAfter : List Event :=
  [.arrive 2 (sampleRequest "user_1" "agent"), .arrive 3 (sampleRequest "user_1" "another")] ++
    sampleSteps 2 6 ++ sampleSteps 3 8

theorem platform_mutations_at_most_once_sample : let last := run (step sampleHash) {} (sampleBefore ++ sampleAfter)
    (last.requests.rows.map Process.outcome =
      [some (.error idempotencyConflict), some (.ok ⟨200, some (.apiKeyCreated
          (sampleAnswers .generatedKey).1 "clawdi_secret")⟩),
        some (.ok ⟨200, some (.apiKeyCreated (sampleAnswers .generatedKey).1 "clawdi_secret")⟩)]) ∧
    last.effects.map Prod.fst = [1] ∧
    ∀ one ∈ last.requests, ∀ alt ∈ last.requests, one.slot = alt.slot →
      Committed last one → Committed last alt → one = alt := by
  refine ⟨by decide +kernel, by decide +kernel, ?_⟩
  have retained : Always (step sampleHash) Retained {} (sampleBefore ++ sampleAfter) := by decide +kernel
  have apart : CollisionFree sampleHash (run (step sampleHash) {} (sampleBefore ++ sampleAfter)) := by
    unfold CollisionFree
    decide +kernel
  exact (platform_mutations_at_most_once sampleHash sampleBefore sampleAfter retained apart).1

end
end Clawdi.PlatformMutations
