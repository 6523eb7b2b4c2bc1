import Mathlib.Logic.Relation
import Clawdi.Observation.ConsumerCases
import Clawdi.Observation.IngestCases
import Clawdi.Observation.RetentionCases

namespace Clawdi.Observation
open Table

/-- Everything a transaction can do to the database, compaction one environment at a time. -/
inductive Step (cfg : Settings) (db : Db) : Db → Prop
  | skipped : Step cfg db { db with inboxSequence := db.inboxSequence + 1 }
  | provisioned (fence : V2RuntimeEnvironmentFence)
      (fresh : db.fences.get fence.environmentId = none) (active : fence.state = .active)
      (highWater : fence.streamHighWater = 0) (floor : fence.replayFloorStreamPosition = 0) :
      Step cfg db { db with fences := db.fences.put fence }
  | consumer {after : Db} (change : ConsumerChange db after) : Step cfg db after
  | ingested (req : IngestRequest) (fence : V2RuntimeEnvironmentFence)
      {res : RuntimeObservationIngestResult} {after : Db}
      (admitted : Admitted cfg req fence db)
      (ingested : Ingested cfg req fence db res after) : Step cfg db after
  | retired (now : Time) (receiptId : Uuid) (req : RetireRequest)
      (fence : V2RuntimeEnvironmentFence) (finalCursor : OpaqueCursor)
      (first : FirstRetirement req fence db) :
      Step cfg db (retiredDb now receiptId req fence finalCursor db)
  | compacted (cur : Time) (envId : Uuid) {after : Db}
      (compacted : Compacted cfg cur envId db after) : Step cfg db after

lemma compactEnvironments_steps {cfg cur} {limit : Nat} {environmentIds} {count compacted : Nat} {db after}
    (fin : compactEnvironments cfg cur limit environmentIds count db =
      .ok (compacted, after)) : Relation.ReflTransGen (Step cfg) db after :=
  compactEnvironments_related _ (fun _ => .refl) (fun _ _ _ => .trans)
    (fun envId _ _ compacts => .single (.compacted cur envId compacts)) fin

lemma committed_steps {α : Type} {cfg : Settings} {db : Db} {res : Except Failure (α × Db)}
    (succeeds : ∀ v after, res = .ok (v, after) → Relation.ReflTransGen (Step cfg) db after) :
    Relation.ReflTransGen (Step cfg) db (committed db res) := by
  cases res with
  | error err => exact .refl
  | ok pair => exact succeeds pair.1 pair.2 rfl

lemma apply_steps (cfg : Settings) (db : Db) (op : Operation) :
    Relation.ReflTransGen (Step cfg) db (apply cfg db op) := by
  cases op with
  | provision env envId ownerId deploymentId =>
    refine committed_steps fun fence after provisioned => ?_
    rcases provision_cases provisioned with ⟨fresh, own, active, highWater, floor, rfl⟩ | ⟨_, _, rfl⟩
    · exact .single (.provisioned fence (own ▸ fresh) active highWater floor)
    · exact .refl
  | ingest req =>
    refine committed_steps fun res after acc => ?_
    obtain ⟨fence, admitted, ingested⟩ := ingest_cases acc
    exact .single (.ingested req fence admitted ingested)
  | register now epoch bind => exact .single (.consumer (register_change cfg now epoch bind db))
  | read now epoch req afterCursor => exact .single (.consumer (read_change cfg now epoch db req afterCursor))
  | acknowledge now epoch bind opaqueCursor =>
    exact .single (.consumer (acknowledge_change cfg now epoch bind db opaqueCursor))
  | loseInitialization now epoch bind => exact .single (.consumer (loseInitialization_change cfg now epoch bind db))
  | reset now epoch bind => exact .single (.consumer (reset_change cfg now epoch bind db))
  | retire now receiptId req =>
    refine committed_steps fun res after fin => ?_
    rcases retire_cases fin with ⟨_, _, _, _, _, _, rfl⟩ | ⟨fence, finalCursor, first, _, rfl⟩
    · exact .refl
    · exact .single (.retired now receiptId req fence finalCursor first)
  | expirePayloads now batchSize => exact committed_steps fun _ _ fin => compactEnvironments_steps fin
  | skipSequence => exact .single .skipped

section
variable {cfg : Settings} (inv : Db → Prop) (rel : Db → Db → Prop)
  (keeps : ∀ db after, inv db → Step cfg db after → inv after)

include keeps

lemma steps_keep {db after} (holds : inv db) (steps : Relation.ReflTransGen (Step cfg) db after) : inv after := by
  induction steps with
  | refl => exact holds
  | tail _ step ih => exact keeps _ _ ih step

lemma reachable_of_step (empty : inv Db.empty) {db} (reached : Reachable cfg db) : inv db := by
  refine Transition.Reachable.invariant ?_ ?_ reached
  · intro start same
    subst same
    exact empty
  · intro pre op holds
    exact steps_keep inv keeps holds (apply_steps cfg pre op)

lemma steps_related (refl : ∀ db, rel db db) (trans : ∀ a b c, rel a b → rel b c → rel a c)
    (related : ∀ db after, inv db → Step cfg db after → rel db after) {db after}
    (holds : inv db) (steps : Relation.ReflTransGen (Step cfg) db after) : rel db after := by
  induction steps with
  | refl => exact refl db
  | tail pre step ih => exact trans _ _ _ ih (related _ _ (steps_keep inv keeps holds pre) step)

lemma run_of_step (refl : ∀ db, rel db db) (trans : ∀ a b c, rel a b → rel b c → rel a c)
    (related : ∀ db after, inv db → Step cfg db after → rel db after) {db}
    (holds : inv db) (ops : List Operation) : rel db (run cfg db ops) :=
  Transition.run_related refl trans (fun pre op start => steps_keep inv keeps start (apply_steps cfg pre op))
    (fun pre op start =>
      steps_related inv rel keeps refl trans related start (apply_steps cfg pre op))
    holds ops

end

structure SameStanding (head later : V2RuntimeObservationHead) : Prop where
  identity : later.identity = head.identity
  active : later.isActive = head.isActive
  successor : later.authorizedSuccessorBootSessionId = head.authorizedSuccessorBootSessionId
  sequence : later.highestSequence = head.highestSequence
  event : later.lastSeenEventId = head.lastSeenEventId
  payload : later.lastSeenPayloadHash = head.lastSeenPayloadHash

lemma SameStanding.refl (head : V2RuntimeObservationHead) : SameStanding head head := ⟨rfl, rfl, rfl, rfl, rfl, rfl⟩

lemma SameStanding.trans {a b c} (first : SameStanding a b) (snd : SameStanding b c) : SameStanding a c :=
  ⟨snd.identity.trans first.identity, snd.active.trans first.active,
    snd.successor.trans first.successor, snd.sequence.trans first.sequence,
    snd.event.trans first.event, snd.payload.trans first.payload⟩

lemma SameStanding.replays {cfg head later v} (same : SameStanding head later)
    (replay : Replays cfg head v) : Replays cfg later v :=
  ⟨replay.1.trans same.sequence.symm, replay.2.1.trans same.event.symm, replay.2.2.trans same.payload.symm⟩

structure Undisturbed (envId : Uuid) (db after : Db) : Prop where
  heads : ∃ f : V2RuntimeObservationHead → V2RuntimeObservationHead, (∀ head, SameStanding head (f head)) ∧
      ∀ sess, after.heads.get (envId, sess) = (db.heads.get (envId, sess)).map f
  fence : ∀ fence, db.fences.get envId = some fence →
    ∃ later, after.fences.get envId = some later ∧ later.state = fence.state ∧
      later.deploymentId = fence.deploymentId

namespace Undisturbed
variable {cfg : Settings} {envId : Uuid} {db : Db} {after : Db}

lemma of_same (heads : ∀ sess, after.heads.get (envId, sess) = db.heads.get (envId, sess))
    (fence : ∀ fence, db.fences.get envId = some fence → ∃ later, after.fences.get envId = some later ∧
      later.state = fence.state ∧ later.deploymentId = fence.deploymentId) : Undisturbed envId db after := by
  refine ⟨⟨id, .refl, fun sess => ?_⟩, fence⟩
  rw [heads sess, Option.map_id]
  rfl

lemma refl (envId : Uuid) (db : Db) : Undisturbed envId db db :=
  of_same (fun _ => rfl) fun fence was => ⟨fence, was, rfl, rfl⟩

lemma trans {a b c} (first : Undisturbed envId a b) (snd : Undisturbed envId b c) : Undisturbed envId a c := by
  obtain ⟨f, keepsF, getF⟩ := first.heads
  obtain ⟨g, keepsG, getG⟩ := snd.heads
  refine ⟨⟨g ∘ f, fun head => (keepsF head).trans (keepsG (f head)), fun sess => ?_⟩, fun fence was => ?_⟩
  · rw [getG, getF, Option.map_map]
  · obtain ⟨middle, middleStored, st, dep⟩ := first.fence fence was
    obtain ⟨later, laterStored, laterState, laterDeployment⟩ := snd.fence middle middleStored
    exact ⟨later, laterStored, laterState.trans st, laterDeployment.trans dep⟩

lemma compacted {cur alt} (compacted : Compacted cfg cur alt db after) : Undisturbed envId db after := by
  cases compacted with
  | idle => exact refl _ _
  | purged own rows purge cursors was each last consumers =>
    refine ⟨⟨_, fun head => ?_, fun sess => get_forgetSemanticHash _ _ _⟩, fun fence hit => ?_⟩
    · unfold forgetCompacted
      split <;> exact ⟨rfl, rfl, rfl, rfl, rfl, rfl⟩
    · have key : (advanceReplayFloor cur purge (loadSessionHighWaters alt db)
          own).environmentId = own.environmentId := by
        unfold advanceReplayFloor
        split <;> rfl
      by_cases same : own.environmentId = envId
      · have ownFound := (get_eq_some.mp was).2
        rw [← ownFound, same, hit] at was
        cases was
        refine ⟨_, get_put_of_eq _ (key.trans same), ?_⟩
        unfold advanceReplayFloor
        split <;> exact ⟨rfl, rfl⟩
      · exact ⟨fence, (get_put_of_ne _ (key ▸ same)).trans hit, rfl, rfl⟩

lemma consumer (change : ConsumerChange db after) : Undisturbed envId db after := by
  cases change with
  | unchanged => exact refl _ _
  | written => exact of_same (fun _ => rfl) fun fence was => ⟨fence, was, rfl, rfl⟩

end Undisturbed

section
variable {cfg : Settings} {req : IngestRequest} {fence : V2RuntimeEnvironmentFence}
  {db after : Db} {res : RuntimeObservationIngestResult}

lemma ingested_other (ingested : Ingested cfg req fence db res after)
    {key} (alt : key ≠ (req.environmentId, req.value.bootSessionId))
    (kept : key.1 = req.environmentId → req.value.predecessorBootSessionId.toOption ≠ some key.2) :
    after.heads.get key = db.heads.get key := by
  have wrote : ∀ {head changed : V2RuntimeObservationHead},
      db.heads.get (req.environmentId, req.value.bootSessionId) = some head →
      headKey changed = headKey head → headKey changed ≠ key := by
    intro head changed hit same key'
    exact alt (key'.symm.trans (same.trans (get_eq_some.mp hit).2))
  cases ingested with
  | replayedHead | replayedRow => rfl
  | coalesced head view hit continues coalesces => exact get_put_of_ne _ (wrote hit rfl)
  | created pred gone unrecorded authorized =>
    have own : headKey (createdHead cfg (nextRow cfg req fence db) req.value) ≠
        key := fun same => alt same.symm
    refine (get_put_of_ne _ own).trans ?_
    rcases authorizedPredecessor_cases authorized with ⟨rfl, _⟩ | ⟨old, rfl, named, hit, _⟩
    · rfl
    · refine get_put_of_ne _ fun same => ?_
      have oldKey := (get_eq_some.mp hit).2
      have here : headKey old = key := same
      have env : key.1 = req.environmentId := by rw [← here, oldKey]
      refine kept env (named.trans (congrArg some ?_))
      exact congrArg Prod.snd here
  | recorded head view hit continues stays unrecorded =>
    by_cases ahead : Advances head view req.value
    · rw [recordOnHead_advances ahead]
      exact get_put_of_ne _ (wrote hit rfl)
    · rw [recordOnHead_stays ahead]
      exact get_put_of_ne _ (wrote hit rfl)

structure Authorizes (ident : RuntimeApplyIdentity) (successor : BootSessionId)
    (head : V2RuntimeObservationHead) : Prop where
  identity : head.identity = ident
  active : head.isActive = true
  successor : head.authorizedSuccessorBootSessionId = some successor

variable {head : V2RuntimeObservationHead}

lemma SameStanding.authorizes {ident successor later} (same : SameStanding head later)
    (authorizes : Authorizes ident successor head) : Authorizes ident successor later :=
  ⟨same.identity.trans authorizes.identity, same.active.trans authorizes.active,
    same.successor.trans authorizes.successor⟩

section
variable (ingested : Ingested cfg req fence db res after)
include ingested

lemma ingested_own {ident successor} (hit : db.heads.get (req.environmentId, req.value.bootSessionId) = some head)
    (authorizes : Authorizes ident successor head) :
    ∃ later, after.heads.get (req.environmentId, req.value.bootSessionId) = some later ∧
      Authorizes ident successor later := by
  have ownKey : headKey head = (req.environmentId, req.value.bootSessionId) := (get_eq_some.mp hit).2
  have named : (authorizeSuccessor req.value head).authorizedSuccessorBootSessionId =
      some successor := by
    simp [authorizeSuccessor, authorizes.successor]
  cases ingested with
  | replayedHead | replayedRow => exact ⟨head, hit, authorizes⟩
  | coalesced known view lookup continues coalesces =>
    rw [hit] at lookup
    cases lookup
    exact ⟨_, get_put_of_eq _ ownKey, authorizes.identity, rfl, authorizes.successor⟩
  | created pred gone unrecorded authorized =>
    rw [hit] at gone
    cases gone
  | recorded known view lookup continues stays unrecorded =>
    rw [hit] at lookup
    cases lookup
    by_cases ahead : Advances head view req.value
    · rw [recordOnHead_advances ahead]
      exact ⟨_, get_put_of_eq _ ownKey, authorizes.identity, rfl, named⟩
    · rw [recordOnHead_stays ahead]
      exact ⟨_, get_put_of_eq _ ownKey, authorizes.identity, authorizes.active, named⟩

lemma ingested_new (gone : db.heads.get (req.environmentId, req.value.bootSessionId) = none) :
    after = db ∨ ∃ head, after.heads.get (req.environmentId, req.value.bootSessionId) =
      some head ∧ head.identity = companionIdentity req.value ∧ head.isActive = true ∧
      head.authorizedSuccessorBootSessionId = req.value.successorBootSessionId.toOption ∧
      Replays cfg head req.value := by
  cases ingested with
  | replayedHead | replayedRow => exact .inl rfl
  | coalesced _ _ lookup | recorded _ _ lookup =>
    rw [gone] at lookup
    cases lookup
  | created pred gone unrecorded authorized => exact .inr ⟨_, get_put_of_eq _ rfl, rfl, rfl, rfl, rfl, rfl, rfl⟩

lemma ingested_replayed (hit : db.heads.get (req.environmentId, req.value.bootSessionId) = some head)
    (replay : Replays cfg head req.value) : after = db := by
  cases ingested with
  | replayedHead | replayedRow => rfl
  | coalesced _ _ lookup continues | recorded _ _ lookup continues =>
    rw [hit] at lookup
    cases lookup
    exact absurd replay.1 continues.sequence
  | created pred gone unrecorded authorized =>
    rw [hit] at gone
    cases gone

end

lemma ingested_fence (admitted : Admitted cfg req fence db) (ingested : Ingested cfg req fence db res after) :
    ∃ later, after.fences.get req.environmentId = some later ∧ later.state = fence.state ∧
      later.deploymentId = fence.deploymentId := by
  have key := (get_eq_some.mp admitted.stored).2
  cases ingested with
  | replayedHead | replayedRow | coalesced => exact ⟨fence, admitted.stored, rfl, rfl⟩
  | created | recorded => exact ⟨_, get_put_of_eq _ key, rfl, rfl⟩

end

def Operation.Spares (envId : Uuid) : Operation → Prop
  | .ingest req => req.environmentId ≠ envId
  | .retire _ _ req => req.environmentId ≠ envId
  | _ => True

lemma undisturbed_committed {α : Type} {envId : Uuid} {db : Db} {outcome : Except Failure (α × Db)}
    (succeeds : ∀ v after, outcome = .ok (v, after) → Undisturbed envId db after) :
    Undisturbed envId db (committed db outcome) := by
  cases outcome with
  | error err => exact .refl _ _
  | ok ans => exact succeeds ans.1 ans.2 rfl

lemma apply_undisturbed (cfg : Settings) (db : Db) {envId} {op : Operation} (spares : op.Spares envId) :
    Undisturbed envId db (apply cfg db op) := by
  cases op with
  | provision env own ownerId deploymentId =>
    refine undisturbed_committed fun fence after provisioned => ?_
    rcases provision_cases provisioned with ⟨fresh, own, _, _, _, rfl⟩ | ⟨_, _, rfl⟩
    · refine .of_same (fun _ => rfl) fun known was => ?_
      have apart : fence.environmentId ≠ envId := by
        intro same
        rw [← own, same, was] at fresh
        cases fresh
      exact ⟨known, (get_put_of_ne _ (by exact apart)).trans was, rfl, rfl⟩
    · exact .refl _ _
  | ingest req =>
    refine undisturbed_committed fun res after acc => ?_
    obtain ⟨fence, admitted, ingested⟩ := ingest_cases acc
    refine .of_same (fun sess => ingested_other ingested
      (fun same => spares (congrArg Prod.fst same).symm) fun same => absurd same.symm spares)
      fun known was => ?_
    have apart : fence.environmentId ≠ envId := (get_eq_some.mp admitted.stored).2 ▸ spares
    cases ingested with
    | replayedHead | replayedRow | coalesced => exact ⟨known, was, rfl, rfl⟩
    | created | recorded => exact ⟨known, (get_put_of_ne _ (by exact apart)).trans was, rfl, rfl⟩
  | register now epoch bind => exact .consumer (register_change cfg now epoch bind db)
  | read now epoch req afterCursor => exact .consumer (read_change cfg now epoch db req afterCursor)
  | acknowledge now epoch bind opaqueCursor =>
    exact .consumer (acknowledge_change cfg now epoch bind db opaqueCursor)
  | loseInitialization now epoch bind => exact .consumer (loseInitialization_change cfg now epoch bind db)
  | reset now epoch bind => exact .consumer (reset_change cfg now epoch bind db)
  | retire now receiptId req =>
    refine undisturbed_committed fun res after fin => ?_
    rcases retire_cases fin with ⟨_, _, _, _, _, _, rfl⟩ | ⟨own, finalCursor, first, _, rfl⟩
    · exact .refl _ _
    · refine .of_same (fun sess => ?_) fun known was => ?_
      · refine (get_retireHeads _ _ _ _).trans ?_
        cases hit : db.heads.get (envId, sess) with
        | none => rfl
        | some head =>
          have elsewhere : head.environmentId ≠ req.environmentId := fun same =>
            spares (same.symm.trans (congrArg Prod.fst (get_eq_some.mp hit).2))
          simp [retireActiveHead, elsewhere]
      · have apart : own.environmentId ≠ envId :=
          (get_eq_some.mp first.stored).2 ▸ spares
        exact ⟨known, (get_put_of_ne _ (by exact apart)).trans was, rfl, rfl⟩
  | expirePayloads now batchSize =>
    exact undisturbed_committed fun _ _ fin =>
      compactEnvironments_related (Undisturbed envId) (.refl envId)
        (fun _ _ _ => .trans) (fun _ _ _ => .compacted) fin
  | skipSequence => exact .of_same (fun _ => rfl) fun fence was => ⟨fence, was, rfl, rfl⟩

def RowsHeaded (db : Db) : Prop :=
  ∀ row ∈ db.inbox, ∃ head ∈ db.heads, headKey head = (row.environmentId, row.bootSessionId)

namespace RowsHeaded
variable {cfg : Settings} {db : Db}

lemma put_heads (headed : RowsHeaded db) (heads : Table headKey)
    (kept : ∀ head ∈ db.heads, ∃ later ∈ heads, headKey later = headKey head) :
    ∀ row ∈ db.inbox, ∃ head ∈ heads, headKey head = (row.environmentId, row.bootSessionId) := by
  intro row mem
  obtain ⟨head, headMember, key⟩ := headed row mem
  obtain ⟨later, laterMember, same⟩ := kept head headMember
  exact ⟨later, laterMember, same.trans key⟩

lemma kept_put {heads : Table headKey} (wrote : V2RuntimeObservationHead) :
    ∀ head ∈ heads, ∃ later ∈ heads.put wrote, headKey later = headKey head := by
  intro head mem
  by_cases same : headKey head = headKey wrote
  · exact ⟨wrote, mem_put_self _ _, same.symm⟩
  · exact ⟨head, mem_put.mpr (.inr ⟨mem, same⟩), rfl⟩

variable {res : RuntimeObservationIngestResult}

lemma ingest (headed : RowsHeaded db) {req fence after}
    (ingested : Ingested cfg req fence db res after) : RowsHeaded after := by
  cases ingested with
  | replayedHead | replayedRow => exact headed
  | coalesced head view hit continues coalesces => exact headed.put_heads _ (kept_put _)
  | created pred gone unrecorded authorized =>
    intro row mem
    rcases mem_put.mp mem with rfl | ⟨was, _⟩
    · exact ⟨_, mem_put_self _ _, rfl⟩
    · refine headed.put_heads _ (fun head headMember => ?_) row was
      have retired : ∃ later ∈ retirePredecessor req.receivedAt db.heads pred,
          headKey later = headKey head := by
        cases pred with
        | none => exact ⟨head, headMember, rfl⟩
        | some old => exact kept_put _ head headMember
      obtain ⟨middle, middleMember, same⟩ := retired
      obtain ⟨later, laterMember, again⟩ := kept_put _ middle middleMember
      exact ⟨later, laterMember, again.trans same⟩
  | recorded head view hit continues stays unrecorded =>
    have ownKey : headKey (recordOnHead cfg (nextRow cfg req fence db) req.value
        head view).2 = (req.environmentId, req.value.bootSessionId) := by
      by_cases ahead : Advances head view req.value
      · rw [recordOnHead_advances ahead]
        exact (get_eq_some.mp hit).2
      · rw [recordOnHead_stays ahead]
        exact (get_eq_some.mp hit).2
    intro row mem
    rcases mem_put.mp mem with rfl | ⟨was, _⟩
    · exact ⟨_, mem_put_self _ _, ownKey⟩
    · exact headed.put_heads _ (kept_put _) row was

lemma step (db after : Db) (headed : RowsHeaded db) (step : Step cfg db after) : RowsHeaded after := by
  have updated : ∀ {f : V2RuntimeObservationHead → V2RuntimeObservationHead}
      (keeps : ∀ head, headKey (f head) = headKey head), ∀ head ∈ db.heads,
        ∃ later ∈ db.heads.update f keeps, headKey later = headKey head :=
    fun keeps head mem => ⟨_, mem_update.mpr ⟨head, mem, rfl⟩, keeps head⟩
  cases step with
  | skipped | provisioned => exact headed
  | consumer change => cases change <;> exact headed
  | ingested req fence admitted ingested => exact headed.ingest ingested
  | retired => exact headed.put_heads _ (updated (headKey_retireActiveHead _ _))
  | compacted cur envId compacted =>
    cases compacted with
    | idle => exact headed
    | purged fence rows purge cursors was each last consumers =>
      intro row mem
      obtain ⟨old, oldMember, rfl⟩ := mem_purgePayloads.mp mem
      have place : (purgePayload cfg cur (rows.map (·.id)) old).environmentId =
          old.environmentId ∧ (purgePayload cfg cur (rows.map (·.id)) old).bootSessionId =
          old.bootSessionId := by
        unfold purgePayload
        split <;> exact ⟨rfl, rfl⟩
      rw [place.1, place.2]
      exact headed.put_heads _ (updated (headKey_forgetCompacted _)) old oldMember

lemma reachable (reached : Reachable cfg db) : RowsHeaded db :=
  reachable_of_step RowsHeaded step (fun row mem => absurd mem (not_mem_empty row)) reached

lemma accepted (headed : RowsHeaded db) {req fence after} (ingested : Ingested cfg req fence db res after) :
    ∃ head, after.heads.get (req.environmentId, req.value.bootSessionId) = some head := by
  cases ingested with
  | replayedHead head hit ident replay => exact ⟨head, hit⟩
  | replayedRow row decides mem repeats answered =>
    rcases decides with gone | ⟨head, view, hit, _⟩
    · obtain ⟨head, headMember, key⟩ := headed row mem
      rw [repeats.environment, repeats.session] at key
      rw [← key, get_key headMember] at gone
      cases gone
    · exact ⟨head, hit⟩
  | coalesced head view hit continues coalesces =>
    have key := (get_eq_some.mp hit).2
    exact ⟨_, get_put_of_eq _ (by exact key)⟩
  | created pred gone unrecorded authorized => exact ⟨_, get_put_of_eq _ rfl⟩
  | recorded head view hit continues stays unrecorded =>
    have key := (get_eq_some.mp hit).2
    by_cases ahead : Advances head view req.value
    · rw [recordOnHead_advances ahead]
      exact ⟨_, get_put_of_eq _ (by exact key)⟩
    · rw [recordOnHead_stays ahead]
      exact ⟨_, get_put_of_eq _ (by exact key)⟩

end RowsHeaded
end Clawdi.Observation
