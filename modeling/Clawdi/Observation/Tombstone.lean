import Clawdi.Observation.Frame

namespace Clawdi.Observation
open Sample List Table
variable {after : Db} {envId : Uuid} {head : V2RuntimeObservationHead} {now : Time}

lemma mem_environmentHeads {db} : head ∈ environmentHeads envId db ↔
      head ∈ db.heads ∧ head.environmentId = envId := by
  rw [environmentHeads, mem_select, decide_eq_true_eq]

lemma bootSessionId_ext {a b : BootSessionId} (same : a.text = b.text) : a = b := by
  cases a
  cases b
  cases same
  rfl

lemma head_of_session (envId : Uuid) (heads : Table headKey)
    (a : V2RuntimeObservationHead) (memberA : a ∈ heads) (b : V2RuntimeObservationHead)
    (memberB : b ∈ heads) (ownA : decide (a.environmentId = envId) = true)
    (ownB : decide (b.environmentId = envId) = true)
    (same : a.bootSessionId.text = b.bootSessionId.text) : a = b := by
  rw [decide_eq_true_eq] at ownA ownB
  exact eq_of_key memberA memberB (Prod.ext (ownA.trans ownB.symm) (bootSessionId_ext same))

lemma sessionHighWaters_nodup (envId : Uuid) (db : Db) : ((loadSessionHighWaters envId db).map Prod.fst).Nodup := by
  have strict := select_strict (head_of_session envId db.heads)
  unfold loadSessionHighWaters sessionHighWaters environmentHeads
  rw [map_map]
  exact pairwise_map.mpr (strict.imp fun less => ne_of_lt less)

lemma mem_loadSessionHighWaters {db} {mark : String × Nat} :
    mark ∈ loadSessionHighWaters envId db ↔ ∃ head ∈ db.heads,
      head.environmentId = envId ∧ (head.bootSessionId.text, head.highestSequence) = mark := by
  simp only [loadSessionHighWaters, sessionHighWaters, mem_map, mem_environmentHeads, and_assoc]

lemma loadSessionHighWaters_congr {db : Db}
    (same : ∀ head, head.environmentId = envId → (head ∈ after.heads ↔ head ∈ db.heads)) :
    loadSessionHighWaters envId after = loadSessionHighWaters envId db := by
  unfold loadSessionHighWaters environmentHeads
  rw [select_congr (head_of_session _ _) fun head own => same head (by simpa using own)]

lemma loadSessionHighWaters_update {db : Db} {f : V2RuntimeObservationHead → V2RuntimeObservationHead}
    (keeps : ∀ head, headKey (f head) = headKey head) (updated : after.heads = db.heads.update f keeps)
    (seq : ∀ head, (f head).highestSequence = head.highestSequence) :
    loadSessionHighWaters envId after = loadSessionHighWaters envId db := by
  have environment : ∀ head, (f head).environmentId = head.environmentId :=
    fun head => congrArg Prod.fst (keeps head)
  have sess : ∀ head, (f head).bootSessionId = head.bootSessionId := fun head => congrArg Prod.snd (keeps head)
  have sel : environmentHeads envId after = (environmentHeads envId db).map f := by
    unfold environmentHeads
    rw [updated]
    exact select_update (fun head => by rw [environment]) fun head => by rw [sess]
  unfold loadSessionHighWaters sessionHighWaters
  rw [sel, map_map]
  exact map_congr_left fun head _ => by simp [sess, seq]

lemma loadSessionHighWaters_retire (envId : Uuid) (now : Time) (receiptId : Uuid)
    (req : RetireRequest) (fence : V2RuntimeEnvironmentFence) (finalCursor : OpaqueCursor) (db : Db) :
    loadSessionHighWaters envId (retiredDb now receiptId req fence finalCursor db) =
      loadSessionHighWaters envId db := by
  refine loadSessionHighWaters_update (headKey_retireActiveHead _ _) rfl fun head => ?_
  unfold retireActiveHead
  split <;> rfl

lemma retireHeads_inactive {heads} (mem : head ∈ retireHeads envId now heads) (own : head.environmentId = envId) :
    head.isActive = false := by
  obtain ⟨pre, _, rfl⟩ := mem_retireHeads.mp mem
  unfold retireActiveHead at own ⊢
  split
  · rfl
  · rename_i kept
    rw [if_neg kept] at own
    simpa [own] using kept

lemma retireHeads_elsewhere {alt heads} (elsewhere : alt ≠ envId) (own : head.environmentId = envId) :
    head ∈ retireHeads alt now heads ↔ head ∈ heads := by
  have kept : ∀ pre, pre.environmentId = envId →
      retireActiveHead alt now pre = pre := by
    intro pre ownBefore
    unfold retireActiveHead
    rw [if_neg fun retires => elsewhere (retires.1.symm.trans ownBefore)]
  rw [mem_retireHeads]
  constructor
  · intro ⟨pre, mem, same⟩
    have ownBefore : pre.environmentId = envId := by
      rw [← own, ← same]
      exact (congrArg Prod.fst (headKey_retireActiveHead alt now pre)).symm
    rw [kept pre ownBefore] at same
    exact same ▸ mem
  · intro mem
    exact ⟨head, mem, kept head own⟩

lemma put_elsewhere {heads : Table headKey} {wrote : V2RuntimeObservationHead}
    (elsewhere : wrote.environmentId ≠ envId) (own : head.environmentId = envId) :
    head ∈ heads.put wrote ↔ head ∈ heads := by
  have differs : headKey head ≠ headKey wrote := fun same => elsewhere ((congrArg Prod.fst same).symm.trans own)
  rw [mem_put]
  constructor
  · intro stored
    rcases stored with rfl | ⟨mem, _⟩
    · exact absurd rfl differs
    · exact mem
  · intro mem
    exact .inr ⟨mem, differs⟩

lemma ingest_elsewhere {settings req fence db res} (ingested : Ingested settings req fence db res after)
    (elsewhere : req.environmentId ≠ envId) (own : head.environmentId = envId) :
    head ∈ after.heads ↔ head ∈ db.heads := by
  have stored : ∀ {sess : BootSessionId} {hit : V2RuntimeObservationHead},
      db.heads.get (req.environmentId, sess) = some hit →
      hit.environmentId ≠ envId := by
    intro sess hit lookup
    have key : hit.environmentId = req.environmentId := congrArg Prod.fst (get_eq_some.mp lookup).2
    exact key ▸ elsewhere
  cases ingested with
  | replayedHead | replayedRow => exact Iff.rfl
  | coalesced hit view lookup continues coalesces =>
    have apart := stored lookup
    exact put_elsewhere apart own
  | created pred absent unrecorded authorized =>
    refine (put_elsewhere elsewhere own).trans ?_
    rcases authorizedPredecessor_cases authorized with ⟨rfl, _⟩ | ⟨old, rfl, _, lookup, _⟩
    · exact Iff.rfl
    · have apart := stored lookup
      exact put_elsewhere apart own
  | recorded hit view lookup continues stays unrecorded =>
    have apart := stored lookup
    by_cases ahead : Advances hit view req.value
    · rw [recordOnHead_advances ahead]
      exact put_elsewhere apart own
    · rw [recordOnHead_stays ahead]
      exact put_elsewhere apart own

structure Tombstoned (fence : V2RuntimeEnvironmentFence) (retirement : Retirement) (db : Db) :
    Prop where
  stored : ∃ cur, db.fences.get fence.environmentId = some cur ∧
    cur.ownerId = fence.ownerId ∧ cur.deploymentId = fence.deploymentId ∧
    cur.state = .retired retirement ∧
    cur.streamHighWater = retirement.finalStreamPosition
  sessions : loadSessionHighWaters fence.environmentId db = retirement.finalSessionHighWaters
  quiet : ∀ head ∈ db.heads, head.environmentId = fence.environmentId → head.isActive = false

namespace Tombstoned
variable {settings : Settings} {fence : V2RuntimeEnvironmentFence} {retirement : Retirement} {db : Db}

lemma elsewhere (tombstoned : Tombstoned fence retirement db) {envId} {alt} (hit : db.fences.get envId = some alt)
    (active : alt.state = .active) : envId ≠ fence.environmentId := by
  obtain ⟨cur, stored, _, _, st, _⟩ := tombstoned.stored
  intro same
  rw [same, stored] at hit
  cases hit
  rw [st] at active
  cases active

variable {after : Db}
section
variable (tombstoned : Tombstoned fence retirement db)
include tombstoned

lemma frame (fences : after.fences.get fence.environmentId = db.fences.get fence.environmentId)
    (heads : ∀ head, head.environmentId = fence.environmentId → (head ∈ after.heads ↔ head ∈ db.heads)) :
    Tombstoned fence retirement after := by
  refine ⟨?_, ?_, fun head mem own => ?_⟩
  · rw [fences]
    exact tombstoned.stored
  · rw [loadSessionHighWaters_congr heads]
    exact tombstoned.sessions
  · exact tombstoned.quiet head ((heads head own).mp mem) own

lemma ingest {req own res} (admitted : Admitted settings req own db)
    (ingested : Ingested settings req own db res after) : Tombstoned fence retirement after := by
  have apart := tombstoned.elsewhere admitted.stored admitted.active
  have key : own.environmentId ≠ fence.environmentId := (get_eq_some.mp admitted.stored).2 ▸ apart
  refine tombstoned.frame ?_ fun head here => ingest_elsewhere ingested apart here
  cases ingested with
  | replayedHead | replayedRow | coalesced => rfl
  | created | recorded => exact get_put_of_ne _ key

lemma compact {cur envId}
    (compacted : Compacted settings cur envId db after) : Tombstoned fence retirement after := by
  cases compacted with
  | idle => exact tombstoned
  | purged own rows purge cursors stored each last consumers =>
    refine ⟨?_, ?_, fun head mem here => ?_⟩
    · obtain ⟨known, hit, owner, dep, st, pos⟩ := tombstoned.stored
      have ownKey := (get_eq_some.mp stored).2
      have key : (advanceReplayFloor cur purge (loadSessionHighWaters envId db)
          own).environmentId = own.environmentId := by
        unfold advanceReplayFloor
        split <;> rfl
      by_cases same : envId = fence.environmentId
      · rw [same, hit] at stored
        cases stored
        refine ⟨_, get_put_of_eq _ (key.trans (ownKey.trans same)), ?_⟩
        unfold advanceReplayFloor
        split <;> exact ⟨owner, dep, st, pos⟩
      · have apart : own.environmentId ≠ fence.environmentId := ownKey ▸ same
        exact ⟨known, (get_put_of_ne _ (key ▸ apart)).trans hit, owner, dep, st, pos⟩
    · rw [← tombstoned.sessions]
      refine loadSessionHighWaters_update (headKey_forgetCompacted _) rfl fun head => ?_
      unfold forgetCompacted
      split <;> rfl
    · obtain ⟨old, oldMember, rfl⟩ := mem_forgetSemanticHash.mp mem
      unfold forgetCompacted at here ⊢
      split at here <;> rename_i forgotten
      · rw [if_pos forgotten]
        exact tombstoned.quiet old oldMember here
      · rw [if_neg forgotten]
        exact tombstoned.quiet old oldMember here

end

lemma step (db after : Db) (tombstoned : Tombstoned fence retirement db)
    (step : Step settings db after) : Tombstoned fence retirement after := by
  cases step with
  | skipped => exact ⟨tombstoned.stored, tombstoned.sessions, tombstoned.quiet⟩
  | provisioned added fresh active highWater floor =>
    have apart : added.environmentId ≠ fence.environmentId := by
      intro same
      obtain ⟨cur, stored, _⟩ := tombstoned.stored
      rw [same, stored] at fresh
      cases fresh
    exact tombstoned.frame (get_put_of_ne _ apart) fun head _ => Iff.rfl
  | consumer change =>
    cases change with
    | unchanged => exact tombstoned
    | written => exact ⟨tombstoned.stored, tombstoned.sessions, tombstoned.quiet⟩
  | ingested req own admitted ingested => exact tombstoned.ingest admitted ingested
  | retired now receiptId req own finalCursor first =>
    have apart := tombstoned.elsewhere first.stored first.active
    have key : own.environmentId ≠ fence.environmentId := (get_eq_some.mp first.stored).2 ▸ apart
    exact tombstoned.frame (get_put_of_ne _ key) fun head own =>
      retireHeads_elsewhere apart own
  | compacted cur envId compacted => exact tombstoned.compact compacted

lemma run (settings : Settings) (tombstoned : Tombstoned fence retirement db)
    (ops : List Operation) : Tombstoned fence retirement (run settings db ops) :=
  Transition.run_invariant (fun pre op holds =>
    steps_keep (Tombstoned fence retirement) step holds (apply_steps settings pre op))
    tombstoned ops

end Tombstoned

variable {req : RetireRequest}

lemma retiredDb_tombstoned (now : Time) (receiptId : Uuid) (finalCursor : OpaqueCursor)
    {fence db} (first : FirstRetirement req fence db) :
    Tombstoned fence (retirementRecord now receiptId req finalCursor fence.streamHighWater
      (loadSessionHighWaters req.environmentId db)) (retiredDb now receiptId req fence finalCursor db) := by
  have key : fence.environmentId = req.environmentId := (get_eq_some.mp first.stored).2
  refine ⟨⟨_, get_put_of_eq _ rfl, rfl, rfl, rfl, rfl⟩, ?_, fun head mem own => ?_⟩
  · rw [key]
    exact loadSessionHighWaters_retire _ _ _ _ _ _ _
  · exact retireHeads_inactive mem (own.trans key)

lemma validated_record (now : Time) (receiptId : Uuid) (finalCursor : OpaqueCursor) (pos : Nat)
    (db : Db) {fence : V2RuntimeEnvironmentFence} (environment : fence.environmentId = req.environmentId)
    (dep : fence.deploymentId = req.expectedDeploymentId) :
    validatedRetirementReceipt fence (retirementRecord now receiptId req finalCursor pos
        (loadSessionHighWaters req.environmentId db)) = .ok (retirementRecord now receiptId req finalCursor pos
        (loadSessionHighWaters req.environmentId db)).retirementReceipt := by
  have named : ¬ (loadSessionHighWaters req.environmentId db).any
      (fun mark => mark.1 = "") = true := by
    rw [any_eq_true]
    intro ⟨mark, mem, blank⟩
    obtain ⟨head, _, _, rfl⟩ := mem_loadSessionHighWaters.mp mem
    exact head.bootSessionId.nonempty (by simpa using blank)
  have bounded : ¬ 200 < req.retirementId.text.length := not_lt.mpr req.retirementId.bounded
  unfold validatedRetirementReceipt
  rw [if_neg]
  simp only [retirementRecord, environment, dep, ne_eq, not_true_eq_false, false_or, not_or, not_not, List.Perm.refl]
  exact ⟨req.retirementId.nonempty, bounded, sessionHighWaters_nodup _ _, named⟩

lemma retire_again {settings receiptId} {again : RetireRequest} {fence retirement rcpt} {db : Db}
    (stored : db.fences.get again.environmentId = some fence) (st : fence.state = .retired retirement)
    (validated : validatedRetirementReceipt fence retirement = .ok rcpt)
    (owner : ∀ ownerId, again.ownerId = some ownerId → ownerId = fence.ownerId)
    (bind : fence.deploymentId = again.expectedDeploymentId) :
    retireRuntimeEnvironment settings now receiptId again db =
      .ok (⟨rcpt, false, retirement.finalStreamPosition, retirement.finalSessionHighWaters⟩, db) := by
  have owned : again.ownerId.any (fun owner => decide (fence.ownerId ≠ owner)) = false := by
    cases asked : again.ownerId with
    | none => rfl
    | some ownerId => simp [owner ownerId asked]
  unfold retireRuntimeEnvironment
  simp only [stored, owned, Bool.false_eq_true, if_false]
  rw [if_neg (not_not.mpr bind)]
  simp only [st, validated, Bind.bind, Except.bind, Pure.pure, Except.pure]

/-- Once an environment has been retired, whatever follows leaves its fence retired at the recorded
final position, its sessions at the recorded high waters and its heads inactive; a further retirement
under the same binding, with any retirement id, is answered with the first receipt. -/
theorem retired_forever (settings : Settings) (db : Db) (now : Time) (receiptId : Uuid)
    (req : RetireRequest) (res : RuntimeEnvironmentRetirementResult) (after : Db)
    (fin : retireRuntimeEnvironment settings now receiptId req db = .ok (res, after))
    (transitioned : res.transitioned = true) (ops : List Operation) :
    ∃ fence ∈ (run settings after ops).fences, ∃ retirement,
      fence.environmentId = req.environmentId ∧ fence.state = .retired retirement ∧
      retirement.retirementReceipt = res.receipt ∧ fence.streamHighWater = retirement.finalStreamPosition ∧
      loadSessionHighWaters req.environmentId (run settings after ops) = retirement.finalSessionHighWaters ∧
      (∀ head ∈ (run settings after ops).heads, head.environmentId = req.environmentId → head.isActive = false) ∧
      (∀ later laterReceiptId (again : RetireRequest), again.environmentId = req.environmentId →
        again.expectedDeploymentId = fence.deploymentId →
        (∀ ownerId, again.ownerId = some ownerId → ownerId = fence.ownerId) →
        retireRuntimeEnvironment settings later laterReceiptId again (run settings after ops) =
          .ok ({ res with transitioned := false }, run settings after ops)) ∧
      (∀ later laterReceiptId (again : RetireRequest) answer, again.environmentId = req.environmentId →
        retireRuntimeEnvironment settings later laterReceiptId again (run settings after ops) = .ok answer →
        answer = ({ res with transitioned := false }, run settings after ops)) := by
  rcases retire_cases fin with ⟨_, _, _, _, _, same, _⟩ | ⟨first, finalCursor, fresh, rfl, rfl⟩
  · rw [same] at transitioned
    cases transitioned
  have key : first.environmentId = req.environmentId := (get_eq_some.mp fresh.stored).2
  have tombstoned := (retiredDb_tombstoned now receiptId finalCursor fresh).run settings ops
  obtain ⟨fence, stored, owner, dep, st, pos⟩ := tombstoned.stored
  have fenceKey := (get_eq_some.mp stored).2
  have validated := validated_record now receiptId finalCursor first.streamHighWater db
    (fenceKey.trans key) (dep.trans fresh.binding)
  rw [key] at stored
  refine ⟨fence, (get_eq_some.mp stored).1, _, fenceKey.trans key, st, rfl, pos,
    key ▸ tombstoned.sessions, fun head mem own => tombstoned.quiet head mem (own.trans key.symm),
    fun later laterReceiptId again same bind owned => ?_,
    fun later laterReceiptId again answer same answered => ?_⟩
  · exact retire_again (same ▸ stored) st validated owned bind.symm
  · rcases retire_cases answered with
      ⟨hit, retirement, foundStored, foundState, foundValid, answer', kept⟩ |
      ⟨hit, _, active, _, _⟩
    · rw [same, stored] at foundStored
      cases foundStored
      rw [st] at foundState
      cases foundState
      rw [validated] at foundValid
      rw [← Except.ok.inj foundValid] at answer'
      exact Prod.ext answer' kept
    · have foundStored := active.stored
      rw [same, stored] at foundStored
      cases foundStored
      rw [active.active] at st
      cases st

def sampleRetirement : RetireRequest :=
  ⟨"env-1", "deployment-1", ⟨"retire-1", by decide, by decide⟩, some "owner-1"⟩

theorem environment_retired_forever : ∃ res after, retireRuntimeEnvironment settings (seconds 30) "receipt-2"
        sampleRetirement db = .ok (res, after) ∧ ∃ fence ∈ (run settings after
          [provision, .ingest (delivery 4 "event-4" (seconds 40))]).fences,
        ∃ retirement, fence.state = .retired retirement ∧ retirement.retirementReceipt = res.receipt ∧
          fence.streamHighWater = retirement.finalStreamPosition := by
  obtain ⟨res, fin, transitioned⟩ := committed_ok db
    (retireRuntimeEnvironment settings (seconds 30) "receipt-2" sampleRetirement db)
    (·.transitioned) (by decide +kernel)
  obtain ⟨fence, mem, retirement, _, st, rcpt, pos, _⟩ :=
    retired_forever settings db (seconds 30) "receipt-2" sampleRetirement res _
      fin transitioned [provision, .ingest (delivery 4 "event-4" (seconds 40))]
  exact ⟨res, _, fin, fence, mem, retirement, st, rcpt, pos⟩

end Clawdi.Observation
