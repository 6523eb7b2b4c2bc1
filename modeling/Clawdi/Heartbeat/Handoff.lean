import Clawdi.Heartbeat.World
import Clawdi.Observation.SequenceIdentity

namespace Clawdi.Heartbeat
open Observation

def HandoffConflict (failure : Failure) : Prop := failure.Is 409 "runtime_observation_handoff_conflict"

variable {failure : Failure}

lemma ingest_handoff {cfg req db} (refused : ingestRuntimeObservation cfg req db = .error failure)
    (conflict : HandoffConflict failure) :
    (∃ head, db.heads.get (req.environmentId, req.value.bootSessionId) = some head ∧
      req.value.predecessorBootSessionId.toOption.isSome ∧ ¬ Replays cfg head req.value) ∨
    (db.heads.get (req.environmentId, req.value.bootSessionId) = none ∧
      ∃ failure, authorizedPredecessor req.environmentId req.value db = .error failure) := by
  obtain ⟨statusCode, code, is, refused⟩ := ingest_refused refused
  have same := is.eq conflict
  cases refused with
  | handoff head hit named new => exact .inl ⟨head, hit, named, new⟩
  | unauthorized failure absent refused => exact .inr ⟨absent, failure, refused⟩
  | future | stale | unfenced | retired | credential | identity | successor | reused =>
    exact absurd same (by decide)

inductive Deliverable (cfg : Settings) (envId : Uuid) (db : Db)
    (event : RuntimeObservationEventV2) : Prop
  | plain (none : event.predecessorBootSessionId.toOption = none)
  | replayed (head : V2RuntimeObservationHead)
      (hit : db.heads.get (envId, event.bootSessionId) = some head)
      (identity : head.identity = companionIdentity event) (replay : Replays cfg head event)
  | handedOver (predecessor : BootSessionId) (head : V2RuntimeObservationHead)
      (absent : db.heads.get (envId, event.bootSessionId) = none)
      (named : event.predecessorBootSessionId.toOption = some predecessor)
      (hit : db.heads.get (envId, predecessor) = some head)
      (authorizes : Authorizes (companionIdentity event) event.bootSessionId head)

lemma Deliverable.no_conflict {setting : Setting} {db event}
    (deliverable : Deliverable setting.settings setting.environmentId db event) (receivedAt : Time)
    (winner : Option { row : V2RuntimeObservationInbox // row.environmentId ≠ setting.environmentId })
    (refused : ingestRuntimeObservation setting.settings (delivery setting event receivedAt winner) db =
      .error failure) : ¬ HandoffConflict failure := by
  intro conflict
  rcases ingest_handoff refused conflict with ⟨head, hit, named, fails⟩ | ⟨absent, failure, fails⟩
  · cases deliverable with
    | plain none =>
      have some : event.predecessorBootSessionId.toOption.isSome := named
      rw [none] at some
      cases some
    | replayed own ownFound identity replay =>
      have same := ownFound.symm.trans hit
      cases same
      exact fails replay
    | handedOver predecessor head absent named found' authorizes =>
      have same := absent.symm.trans hit
      cases same
  · cases deliverable with
    | plain none =>
      have passes : authorizedPredecessor setting.environmentId event db = .ok Option.none := by
        simp [authorizedPredecessor, none]
      have same := passes.symm.trans fails
      cases same
    | replayed own ownFound identity replay =>
      have same := absent.symm.trans ownFound
      cases same
    | handedOver predecessor head _ named hit authorizes =>
      have passes : authorizedPredecessor setting.environmentId event db = .ok (some head) := by
        simp [authorizedPredecessor, named, hit, authorizes.active, authorizes.identity, authorizes.successor]
      have same := passes.symm.trans fails
      cases same

inductive Origin (state : PersistedHeartbeatState) (event : RuntimeObservationEventV2) : Prop
  | current (sess : event.bootSessionId = state.bootIdentity.bootSessionId)
      (predecessor : event.predecessorBootSessionId.toOption = state.predecessorBootSessionId)
      (successor : event.successorBootSessionId.toOption = some state.successorBootSessionId)
  | earlier (sess : state.predecessorBootSessionId = some event.bootSessionId)
      (predecessor : event.predecessorBootSessionId.toOption = none)

structure Coherent (setting : Setting) (db : Db) (state : PersistedHeartbeatState) : Prop where
  identity : state.bootIdentity.identity = setting.expectedApplyIdentity
  phase : state.phase ≠ .preparingSuccessor
  successor : db.heads.get (setting.environmentId, state.successorBootSessionId) = none
  own : ∀ head, db.heads.get (setting.environmentId, state.bootIdentity.bootSessionId) = some head →
    Authorizes setting.expectedApplyIdentity state.successorBootSessionId head
  active : state.phase = .active → state.predecessorBootSessionId = none ∧
    ∃ head, db.heads.get (setting.environmentId, state.bootIdentity.bootSessionId) = some head
  predecessor : ∀ predecessor, state.predecessorBootSessionId = some predecessor →
    db.heads.get (setting.environmentId, state.bootIdentity.bootSessionId) = none →
    ∃ head, db.heads.get (setting.environmentId, predecessor) = some head ∧
      Authorizes setting.expectedApplyIdentity state.bootIdentity.bootSessionId head
  replay : ∀ predecessor head, state.predecessorBootSessionId = some predecessor →
    db.heads.get (setting.environmentId, state.bootIdentity.bootSessionId) = some head →
    ∃ event, state.pending = some event ∧
      event.bootSessionId = state.bootIdentity.bootSessionId ∧ Replays setting.settings head event
  pending : ∀ event, state.pending = some event →
    companionIdentity event = setting.expectedApplyIdentity ∧ Origin state event ∧
      (event.bootSessionId ≠ state.bootIdentity.bootSessionId →
        db.heads.get (setting.environmentId, state.bootIdentity.bootSessionId) = none)

def HandedOver (setting : Setting) (db : Db) (state : PersistedHeartbeatState) : Prop :=
  state.predecessorBootSessionId.isSome = true ∧
    (db.heads.get (setting.environmentId, state.bootIdentity.bootSessionId)).isSome = true

namespace Coherent
variable {setting : Setting} {db : Db} {state next : PersistedHeartbeatState} {ids : DrawnIds}

lemma fresh {applyIdentity} (made : freshState applyIdentity ids = .ok state)
    (fixed : applyIdentity = setting.expectedApplyIdentity)
    (newBoot : db.heads.get (setting.environmentId, ids.bootSessionId) = none)
    (newSuccessor : db.heads.get (setting.environmentId, ids.successorBootSessionId) = none) :
    Coherent setting db state := by
  obtain ⟨boot, successor, predecessor, phase, _, pend⟩ := freshState_eq made
  refine ⟨by rw [boot]; exact fixed, by rw [phase]; decide, by rw [successor]; exact newSuccessor,
    fun head hit => ?_, fun active => ?_, fun alt named => ?_, fun alt head named => ?_,
    fun event waits => ?_⟩
  · rw [boot, newBoot] at hit
    cases hit
  · rw [phase] at active
    cases active
  · rw [predecessor] at named
    cases named
  · rw [predecessor] at named
    cases named
  · rw [pend] at waits
    cases waits

lemma rotated (agree : Coherent setting db state) (active : state.phase = .active)
    (made : rotateState state ids = .ok next)
    (newSuccessor : db.heads.get (setting.environmentId, ids.successorBootSessionId) = none) :
    Coherent setting db next := by
  obtain ⟨boot, successor, predecessor, phase, _, pend⟩ := rotateState_eq made
  obtain ⟨noPredecessor, head, hit⟩ := agree.active active
  have absent : db.heads.get (setting.environmentId, next.bootIdentity.bootSessionId) = none := by
    rw [boot]
    exact agree.successor
  refine ⟨by rw [boot]; exact agree.identity, by rw [phase]; decide,
    by rw [successor]; exact newSuccessor, fun alt hit => ?_, fun active => ?_,
    fun alt named _ => ?_, fun alt known _ hit => ?_, fun event waits => ?_⟩
  · rw [absent] at hit
    cases hit
  · rw [phase] at active
    cases active
  · rw [predecessor] at named
    cases named
    refine ⟨head, hit, ?_⟩
    rw [boot]
    exact agree.own head hit
  · rw [absent] at hit
    cases hit
  · rw [pend] at waits
    obtain ⟨identity, origin, _⟩ := agree.pending event waits
    refine ⟨identity, ?_, fun _ => absent⟩
    cases origin with
    | current sess named _ => exact .earlier (by rw [predecessor, sess]) (named.trans noPredecessor)
    | earlier sess _ =>
      rw [noPredecessor] at sess
      cases sess

variable {after : Db} {event : RuntimeObservationEventV2}
section
variable (agree : Coherent setting db state)
include agree

lemma captured {capture} (free : state.pending = none)
    (built : Captured capture state next state.bootIdentity event) : Coherent setting db next := by
  obtain ⟨⟨snap, applied, rfl⟩, rfl⟩ := built
  refine ⟨agree.identity, agree.phase, agree.successor, agree.own, agree.active,
    agree.predecessor, fun predecessor head named hit => ?_, fun event waits => ?_⟩
  · obtain ⟨event, waits, _⟩ := agree.replay predecessor head named hit
    rw [free] at waits
    cases waits
  · cases waits
    exact ⟨agree.identity, .current rfl (toOption_suppliedOf _) rfl, fun ne => absurd rfl ne⟩

lemma dropped (safe : ¬ HandedOver setting db state) : Coherent setting db (withoutPending state) := by
  refine ⟨agree.identity, agree.phase, agree.successor, agree.own, agree.active,
    agree.predecessor, fun predecessor head named hit => ?_, fun event waits => ?_⟩
  · refine absurd ⟨?_, ?_⟩ safe
    · rw [show state.predecessorBootSessionId = _ from named]
      rfl
    · rw [show db.heads.get (setting.environmentId, state.bootIdentity.bootSessionId) = _ from hit]
      rfl
  · cases waits

lemma undisturbed (quiet : Undisturbed setting.environmentId db after) : Coherent setting after state := by
  obtain ⟨f, same, heads⟩ := quiet.heads
  have gone : ∀ {sess}, db.heads.get (setting.environmentId, sess) = none →
      after.heads.get (setting.environmentId, sess) = none := by
    intro sess absent
    rw [heads, absent]
    rfl
  have back : ∀ {sess head}, after.heads.get (setting.environmentId, sess) = some head →
      ∃ pre, db.heads.get (setting.environmentId, sess) = some pre ∧ f pre = head := by
    intro sess head hit
    rw [heads] at hit
    exact Option.map_eq_some_iff.mp hit
  have was : ∀ {sess}, after.heads.get (setting.environmentId, sess) = none →
      db.heads.get (setting.environmentId, sess) = none := by
    intro sess absent
    rw [heads] at absent
    exact Option.map_eq_none_iff.mp absent
  refine ⟨agree.identity, agree.phase, gone agree.successor, fun head hit => ?_,
    fun active => ?_, fun predecessor named absent => ?_, fun predecessor head named hit => ?_,
    fun event waits => ?_⟩
  · obtain ⟨pre, stored, rfl⟩ := back hit
    exact (same pre).authorizes (agree.own pre stored)
  · obtain ⟨noPredecessor, head, hit⟩ := agree.active active
    exact ⟨noPredecessor, f head, by rw [heads, hit]; rfl⟩
  · obtain ⟨head, hit, authorizes⟩ := agree.predecessor predecessor named (was absent)
    exact ⟨f head, by rw [heads, hit]; rfl, (same head).authorizes authorizes⟩
  · obtain ⟨pre, stored, rfl⟩ := back hit
    obtain ⟨event, waits, sess, replay⟩ := agree.replay predecessor pre named stored
    exact ⟨event, waits, sess, (same pre).replays replay⟩
  · obtain ⟨identity, origin, absent⟩ := agree.pending event waits
    exact ⟨identity, origin, fun ne => gone (absent ne)⟩

lemma created {head} (waits : state.pending = some event)
    (sess : event.bootSessionId = state.bootIdentity.bootSessionId)
    (named : event.successorBootSessionId.toOption = some state.successorBootSessionId)
    (absent : db.heads.get (setting.environmentId, state.bootIdentity.bootSessionId) = none)
    (hit : after.heads.get (setting.environmentId, event.bootSessionId) = some head)
    (authorizes : head.identity = companionIdentity event ∧ head.isActive = true ∧
      head.authorizedSuccessorBootSessionId = event.successorBootSessionId.toOption ∧
        Replays setting.settings head event)
    (successor : after.heads.get (setting.environmentId, state.successorBootSessionId) = none) :
    Coherent setting after state := by
  obtain ⟨identity, origin, _⟩ := agree.pending event waits
  rw [sess] at hit
  refine ⟨agree.identity, agree.phase, successor, fun alt otherFound => ?_, fun active => ?_,
    fun predecessor _ gone => ?_, fun predecessor alt _ otherFound => ?_, fun alt pend => ?_⟩
  · rw [hit] at otherFound
    cases otherFound
    exact ⟨authorizes.1.trans identity, authorizes.2.1, authorizes.2.2.1.trans named⟩
  · obtain ⟨_, alt, here⟩ := agree.active active
    rw [absent] at here
    cases here
  · rw [hit] at gone
    cases gone
  · rw [hit] at otherFound
    cases otherFound
    exact ⟨event, waits, sess, authorizes.2.2.2⟩
  · rw [waits] at pend
    cases pend
    exact ⟨identity, origin, fun ne => absurd sess ne⟩

variable {later : V2RuntimeObservationHead}

lemma continued (waits : state.pending = some event) (sess : event.bootSessionId = state.bootIdentity.bootSessionId)
    (noPredecessor : state.predecessorBootSessionId = none)
    (hit : after.heads.get (setting.environmentId, event.bootSessionId) = some later)
    (authorizes : Authorizes setting.expectedApplyIdentity state.successorBootSessionId later)
    (successor : after.heads.get (setting.environmentId, state.successorBootSessionId) = none) :
    Coherent setting after state := by
  obtain ⟨identity, origin, _⟩ := agree.pending event waits
  rw [sess] at hit
  refine ⟨agree.identity, agree.phase, successor, fun alt otherFound => ?_,
    fun _ => ⟨noPredecessor, later, hit⟩, fun predecessor named => ?_,
    fun predecessor alt named => ?_, fun alt pend => ?_⟩
  · rw [hit] at otherFound
    cases otherFound
    exact authorizes
  · rw [noPredecessor] at named
    cases named
  · rw [noPredecessor] at named
    cases named
  · rw [waits] at pend
    cases pend
    exact ⟨identity, origin, fun ne => absurd sess ne⟩

lemma trailed (waits : state.pending = some event)
    (sess : state.predecessorBootSessionId = some event.bootSessionId)
    (hit : after.heads.get (setting.environmentId, event.bootSessionId) = some later)
    (authorizes : Authorizes setting.expectedApplyIdentity state.bootIdentity.bootSessionId later)
    (absent : after.heads.get (setting.environmentId, state.bootIdentity.bootSessionId) = none)
    (successor : after.heads.get (setting.environmentId, state.successorBootSessionId) = none) :
    Coherent setting after state := by
  obtain ⟨identity, origin, _⟩ := agree.pending event waits
  refine ⟨agree.identity, agree.phase, successor, fun alt otherFound => ?_, fun active => ?_,
    fun predecessor named _ => ?_, fun predecessor alt _ otherFound => ?_, fun alt pend => ?_⟩
  · rw [absent] at otherFound
    cases otherFound
  · rw [(agree.active active).1] at sess
    cases sess
  · rw [sess] at named
    cases named
    exact ⟨later, hit, authorizes⟩
  · rw [absent] at otherFound
    cases otherFound
  · rw [waits] at pend
    cases pend
    exact ⟨identity, origin, fun _ => absent⟩

lemma ingested {receivedAt}
    {winner : Option { row : V2RuntimeObservationInbox // row.environmentId ≠ setting.environmentId }}
    {fence result} (waits : state.pending = some event)
    (delivered : Ingested setting.settings (delivery setting event receivedAt winner) fence db result after) :
    Coherent setting after state := by
  have kept : ∀ sess, sess ≠ event.bootSessionId → event.predecessorBootSessionId.toOption ≠ some sess →
      after.heads.get (setting.environmentId, sess) =
        db.heads.get (setting.environmentId, sess) :=
    fun sess alt unnamed =>
      ingested_other delivered (fun same => alt (congrArg Prod.snd same)) fun _ => unnamed
  obtain ⟨identity, origin, absentOr⟩ := agree.pending event waits
  cases origin with
  | current sess named successor =>
    have ne : state.successorBootSessionId ≠ event.bootSessionId := sess ▸ state.successorDiffers
    cases own : db.heads.get (setting.environmentId, event.bootSessionId) with
    | none =>
      have absent := own
      rw [sess] at absent
      rcases ingested_new delivered own with rfl | ⟨head, hit, authorizes⟩
      · exact agree
      have unnamed : event.predecessorBootSessionId.toOption ≠ some state.successorBootSessionId := by
        intro same
        rw [named] at same
        obtain ⟨head, here, _⟩ := agree.predecessor _ same absent
        rw [agree.successor] at here
        cases here
      exact agree.created waits sess successor absent hit authorizes ((kept _ ne unnamed).trans agree.successor)
    | some head =>
      cases predecessor : state.predecessorBootSessionId with
      | none =>
        have ownHead := own
        rw [sess] at ownHead
        obtain ⟨later, hit, authorizes⟩ := ingested_own delivered own (agree.own head ownHead)
        have unnamed : event.predecessorBootSessionId.toOption ≠ some state.successorBootSessionId := by
          rw [named, predecessor]
          exact fun same => by cases same
        exact agree.continued waits sess predecessor hit authorizes ((kept _ ne unnamed).trans agree.successor)
      | some known =>
        have ownHead := own
        rw [sess] at ownHead
        obtain ⟨again, pend, _, replay⟩ := agree.replay known head predecessor ownHead
        rw [waits] at pend
        cases pend
        rw [ingested_replayed delivered own replay]
        exact agree
  | earlier sess named =>
    have apart : state.bootIdentity.bootSessionId ≠ event.bootSessionId := fun same =>
      state.predecessorDiffers (sess.trans (congrArg some same.symm))
    have absent := absentOr apart.symm
    obtain ⟨head, own, authorizes⟩ := agree.predecessor _ sess absent
    obtain ⟨later, hit, authorizesLater⟩ := ingested_own delivered own authorizes
    have ne : state.successorBootSessionId ≠ event.bootSessionId := by
      intro same
      have none := agree.successor
      rw [same, own] at none
      cases none
    have unnamed : ∀ sess, event.predecessorBootSessionId.toOption ≠ some sess := by
      intro sess same
      rw [named] at same
      cases same
    exact agree.trailed waits sess hit authorizesLater
      ((kept _ apart (unnamed _)).trans absent) ((kept _ ne (unnamed _)).trans agree.successor)

lemma delivered (waits : state.pending = some event) (receivedAt : Time)
    (winner : Option { row : V2RuntimeObservationInbox // row.environmentId ≠ setting.environmentId }) :
    Coherent setting (apply setting.settings db (.ingest (delivery setting event receivedAt winner)))
      state := by
  cases ans : ingestRuntimeObservation setting.settings (delivery setting event receivedAt winner)
    db with
  | error failure =>
    rw [apply, ans]
    exact agree
  | ok pair =>
    obtain ⟨fence, admitted, ingested⟩ := ingest_cases ans
    rw [apply, ans]
    exact agree.ingested waits ingested

lemma deliverable (waits : state.pending = some event) :
    Deliverable setting.settings setting.environmentId db event := by
  obtain ⟨identity, origin, _⟩ := agree.pending event waits
  cases origin with
  | earlier sess named => exact .plain named
  | current sess named successor =>
    cases predecessor : state.predecessorBootSessionId with
    | none => exact .plain (named.trans predecessor)
    | some known =>
      cases own : db.heads.get (setting.environmentId, state.bootIdentity.bootSessionId) with
      | none =>
        obtain ⟨head, hit, authorizes⟩ := agree.predecessor known predecessor own
        rw [← sess] at own authorizes
        exact .handedOver known head own (named.trans predecessor) hit (identity ▸ authorizes)
      | some head =>
        obtain ⟨again, pend, _, replay⟩ := agree.replay known head predecessor own
        rw [waits] at pend
        cases pend
        have authorizes := agree.own head own
        rw [← sess] at own
        exact .replayed head own (authorizes.identity.trans identity.symm) replay

end
end Coherent
end Clawdi.Heartbeat
