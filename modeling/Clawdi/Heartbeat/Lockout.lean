import Clawdi.Heartbeat.Handoff

namespace Clawdi.Heartbeat
open Observation Option

/-- No attempt is answered by a terminal rejection once the service holds the head of the boot session. -/
def NotRejectedAfterHandover (setting : Setting) (w : World) : Action setting.environmentId → Prop
  | .submit (.refused status) => isPermanentRuntimeObservationRejection status = true →
    ∀ sess ev st, w.outgoing setting = some (sess, ev) → sess.state = some st → ¬ HandedOver setting w.server st
  | .submit (.answered receivedAt _ _) =>
    ∀ sess ev st, w.outgoing setting = some (sess, ev) → sess.state = some st → HandedOver setting w.server st →
      WithinCaptureWindow setting.settings receivedAt ev.capturedAt
  | _ => True

structure Serving (setting : Setting) (db : Db) : Prop where
  reached : Reachable setting.settings db
  fenced : ∃ fence, db.fences.get setting.environmentId = some fence ∧ fence.state = .active ∧
    fence.deploymentId = setting.deploymentId

structure Sound (setting : Setting) (w : World) : Prop where
  serving : Serving setting w.server
  disk : ∀ st, w.disk = some st → Coherent setting w.server st
  session : ∀ sess st, w.session = some sess → sess.state = some st → w.disk = some st ∧
      ∀ boot, sess.currentBootIdentity = some boot → boot = st.bootIdentity

lemma Serving.undisturbed {setting db} (serving : Serving setting db)
    {op : Operation} (spares : op.Spares setting.environmentId) : Serving setting (apply setting.settings db op) := by
  obtain ⟨fence, stored, active, dep⟩ := serving.fenced
  obtain ⟨later, hit, st, bind⟩ := (apply_undisturbed setting.settings db spares).fence fence stored
  exact ⟨serving.reached.run [op], later, hit, st.trans active, bind.trans dep⟩

lemma Serving.delivered {setting db} (serving : Serving setting db)
    (ev : RuntimeObservationEventV2) (receivedAt : Time)
    (winner : Option { row : V2RuntimeObservationInbox //
      row.environmentId ≠ setting.environmentId }) :
    Serving setting (apply setting.settings db (.ingest (delivery setting ev receivedAt winner))) := by
  refine ⟨serving.reached.run [.ingest (delivery setting ev receivedAt winner)], ?_⟩
  cases ans : ingestRuntimeObservation setting.settings (delivery setting ev receivedAt winner)
    db with
  | error err =>
    rw [apply, ans]
    exact serving.fenced
  | ok pair =>
    obtain ⟨own, admitted, ingested⟩ := ingest_cases ans
    obtain ⟨later, hit, st, bind⟩ := ingested_fence admitted ingested
    obtain ⟨fence, stored, active, dep⟩ := serving.fenced
    have same := admitted.stored.symm.trans stored
    cases same
    rw [apply, ans]
    exact ⟨later, hit, st.trans active, bind.trans dep⟩

variable {capture : Capture} {ev : RuntimeObservationEventV2}

lemma Serving.replays {setting db} (serving : Serving setting db) {receivedAt}
    (winner : Option { row : V2RuntimeObservationInbox // row.environmentId ≠ setting.environmentId }) {head}
    (window : WithinCaptureWindow setting.settings receivedAt ev.capturedAt)
    (hit : db.heads.get (setting.environmentId, ev.bootSessionId) = some head)
    (ident : head.identity = companionIdentity ev) (replay : Replays setting.settings head ev) :
    ∃ ans, ingestRuntimeObservation setting.settings (delivery setting ev receivedAt winner) db = .ok ans := by
  obtain ⟨fence, stored, active, dep⟩ := serving.fenced
  have admitted : Admitted setting.settings (delivery setting ev receivedAt winner) fence db :=
    ⟨window, stored, active, dep⟩
  exact ⟨_, ingest_replays_head head admitted hit ident replay⟩

namespace Coherent
variable {setting : Setting} {db : Db} {st : PersistedHeartbeatState}

lemma acknowledged {ev ids cand} (agree : Coherent setting db st) (waits : st.pending = some ev)
    (acc : ∃ head, db.heads.get (setting.environmentId, ev.bootSessionId) = some head)
    (acked : acknowledgedState st ev ids = .ok cand) : Coherent setting db cand := by
  obtain ⟨head, hit⟩ := acc
  unfold acknowledgedState at acked
  rw [if_neg fun preparing => agree.phase preparing.1] at acked
  split at acked
  · rename_i establishes
    cases acked
    have sess : ev.bootSessionId = st.bootIdentity.bootSessionId := establishes.2
    rw [sess] at hit
    exact ⟨agree.identity, (fun same => by cases same), agree.successor, agree.own,
      fun _ => ⟨rfl, head, hit⟩, fun _ named => (by cases named), fun _ _ named => (by cases named),
      fun _ pend => (by cases pend)⟩
  · rename_i done
    cases acked
    refine agree.dropped fun handed => ?_
    have sess : ev.bootSessionId = st.bootIdentity.bootSessionId := by
      by_contra ne
      have gone := (agree.pending ev waits).2.2 ne
      have here := handed.2
      rw [gone] at here
      cases here
    have phase : st.phase = .active := by
      cases own : st.phase with
      | preparingSuccessor => exact absurd own agree.phase
      | unestablished => exact absurd ⟨own, sess⟩ done
      | active => rfl
    have named := handed.1
    rw [(agree.active phase).1] at named
    cases named

lemma handedOver_replays {ev} (agree : Coherent setting db st)
    (waits : st.pending = some ev) (handed : HandedOver setting db st) :
    ∃ head, db.heads.get (setting.environmentId, ev.bootSessionId) = some head ∧
      head.identity = companionIdentity ev ∧ Replays setting.settings head ev := by
  obtain ⟨pred, named⟩ := isSome_iff_exists.mp handed.1
  obtain ⟨head, hit⟩ := isSome_iff_exists.mp handed.2
  obtain ⟨again, pend, sess, replay⟩ := agree.replay pred head named hit
  rw [waits] at pend
  cases pend
  refine ⟨head, sess ▸ hit, ?_, replay⟩
  exact (agree.own head hit).identity.trans (agree.pending ev waits).1.symm

end Coherent

namespace Sound
variable {setting : Setting} {w : World}

lemma start (starts : Starts setting w) : Sound setting w := by
  refine ⟨⟨starts.reached, starts.fenced⟩, fun st stored => ?_, fun sess st up => ?_⟩
  · rw [starts.disk] at stored
    cases stored
  · rw [starts.session] at up
    cases up

variable {ev : RuntimeObservationEventV2} {sess : HostedRuntimeHeartbeatSession}

lemma persist (inv : Sound setting w) (agree : ∀ st, sess.state = some st → Coherent setting w.server st)
    (boots : ∀ st boot, sess.state = some st → sess.currentBootIdentity = some boot → boot = st.bootIdentity) :
    Sound setting (w.persist sess) := by
  refine ⟨inv.serving, fun st stored => ?_, fun runs st up own => ?_⟩
  · cases own : sess.state with
    | none =>
      rw [World.persist, own] at stored
      exact inv.disk st stored
    | some wrote =>
      rw [World.persist, own] at stored
      cases stored
      exact agree st own
  · cases up
    exact ⟨by simp [World.persist, own], fun boot cur => boots st boot own cur⟩

lemma persist_over (inv : Sound setting w) (applied : RuntimeAppliedState)
    {st} (agree : Coherent setting w.server st) : Sound setting (w.persist (sessionOver applied st)) := by
  refine inv.persist (fun alt own => ?_) fun alt boot own cur => ?_
  · cases own
    exact agree
  · cases own
    cases cur
    rfl

variable {appliedState : Option RuntimeAppliedState}
section
variable (inv : Sound setting w)
include inv

lemma started {ids} (fixed : FixedIdentity setting appliedState) (newIds : NewIds setting w ids) :
    Sound setting (w.persistOk (initializeAppliedState w.disk appliedState ids)) := by
  cases out : initializeAppliedState w.disk appliedState ids with
  | error msg => exact inv
  | ok sess =>
    rcases initialize_cases out with
      blank | ⟨applied, applyIdentity, st, known, ident, rfl, origin⟩
    · refine inv.persist (fun st own => ?_) fun st boot own => ?_
      · rw [blank] at own
        cases own
      · rw [blank] at own
        cases own
    · refine inv.persist_over applied ?_
      rcases origin with fresh | stored | ⟨old, stored, active, rotated⟩
      · exact .fresh fresh (fixed applied known applyIdentity ident) newIds.1 newIds.2
      · exact inv.disk st stored
      · exact (inv.disk old stored).rotated active rotated newIds.2

lemma refreshed (up : w.session = some sess) {ids}
    (fixed : FixedIdentity setting appliedState) (newIds : NewIds setting w ids) :
    Sound setting (w.persistOk (refreshAppliedState appliedState ids sess)) := by
  cases out : refreshAppliedState appliedState ids sess with
  | error msg => exact inv
  | ok next =>
    rcases refresh_cases out with
      ⟨kept, cur⟩ | ⟨applied, applyIdentity, st, known, ident, rfl, fresh⟩
    · refine inv.persist (fun st own => ?_) fun st boot own named => ?_
      · rw [kept] at own
        exact inv.disk st (inv.session sess st up own).1
      · rw [kept] at own
        rcases cur with blank | same
        · rw [blank] at named
          cases named
        · rw [same] at named
          exact (inv.session sess st up own).2 boot named
    · exact inv.persist_over applied (.fresh fresh (fixed applied known applyIdentity ident) newIds.1 newIds.2)

lemma captured (up : w.session = some sess) (capture : Capture) :
    Sound setting (w.persistOk ((nextEvent capture sess).map (·.2))) := by
  cases out : nextEvent capture sess with
  | error msg => exact inv
  | ok pair =>
    obtain ⟨ev, next⟩ := pair
    rcases nextEvent_cases out with
      ⟨rfl, _⟩ | ⟨st, boot, cand, built, own, free, cur, captured, rfl, rfl⟩
    · exact inv.persist (fun st own => inv.disk st (inv.session _ st up own).1)
        fun st boot own named => (inv.session _ st up own).2 boot named
    · have stored := inv.session sess st up own
      have boots := stored.2 boot cur
      subst boots
      refine inv.persist (fun alt wrote => ?_) fun alt boot wrote named => ?_
      · cases wrote
        exact (inv.disk st stored.1).captured free captured
      · cases wrote
        have same : boot = st.bootIdentity := stored.2 boot named
        rw [same, captured.written]

lemma delivered (sends : w.outgoing setting = some (sess, ev)) (receivedAt : Time)
    (winner : Option { row : V2RuntimeObservationInbox //
      row.environmentId ≠ setting.environmentId }) :
    Sound setting (w.receive setting (delivery setting ev receivedAt winner)) := by
  obtain ⟨up, st, own, waits⟩ := outgoing_eq sends
  have stored := (inv.session sess st up own).1
  refine ⟨inv.serving.delivered ev receivedAt winner, fun alt here => ?_, inv.session⟩
  have same := stored.symm.trans here
  cases same
  exact (inv.disk st stored).delivered waits receivedAt winner

lemma rejected (sends : w.outgoing setting = some (sess, ev))
    (safe : ∀ st, sess.state = some st → ¬ HandedOver setting w.server st) :
    Sound setting (w.persist (retireRejected ev.eventId sess).2) := by
  obtain ⟨up, st, own, waits⟩ := outgoing_eq sends
  have stored := inv.session sess st up own
  rw [retireRejected_pending own waits]
  refine inv.persist (fun alt wrote => ?_) fun alt boot wrote named => ?_
  · cases wrote
    exact (inv.disk st stored.1).dropped (safe st own)
  · cases wrote
    exact stored.2 boot named

end

lemma acknowledged (inv : Sound setting w) {sess ev} (sends : w.outgoing setting = some (sess, ev))
    (ids : DrawnIds) (acc : ∃ head, w.server.heads.get (setting.environmentId, ev.bootSessionId) = some head) :
    Sound setting (w.persistOk ((acknowledge ev.eventId ids sess).map (·.2))) := by
  obtain ⟨up, st, own, waits⟩ := outgoing_eq sends
  have stored := inv.session sess st up own
  cases out : acknowledge ev.eventId ids sess with
  | error msg => exact inv
  | ok pair =>
    obtain ⟨matched, next⟩ := pair
    obtain ⟨cand, acked, rfl⟩ := acknowledge_pending own waits out
    refine inv.persist (fun alt wrote => ?_) fun alt boot wrote named => ?_
    · cases wrote
      exact (inv.disk st stored.1).acknowledged waits acc acked
    · cases wrote
      cases named
      rfl

lemma answered (inv : Sound setting w) (sends : w.outgoing setting = some (sess, ev)) (receivedAt : Time)
    (winner : Option { row : V2RuntimeObservationInbox // row.environmentId ≠ setting.environmentId })
    (ids : DrawnIds) (window : ∀ st, sess.state = some st → HandedOver setting w.server st →
      WithinCaptureWindow setting.settings receivedAt ev.capturedAt) :
    Sound setting (submitEvent setting w sess ev (.answered receivedAt winner ids)) := by
  obtain ⟨up, st, own, waits⟩ := outgoing_eq sends
  have stored := inv.session sess st up own
  have agree := inv.disk st stored.1
  have after := inv.delivered sends receivedAt winner
  unfold submitEvent
  cases ans : ingestRuntimeObservation setting.settings (delivery setting ev receivedAt winner)
    w.server with
  | ok pair =>
    obtain ⟨fence, admitted, ingested⟩ := ingest_cases ans
    have acc := (RowsHeaded.reachable inv.serving.reached).accepted ingested
    simp only [World.receive, apply, ans, settle, committed] at after ⊢
    exact after.acknowledged sends ids acc
  | error err =>
    simp only [World.receive, apply, ans, settle, committed] at after ⊢
    split
    · refine inv.rejected sends fun alt wrote handed => ?_
      rw [own] at wrote
      cases wrote
      obtain ⟨head, hit, ident, replay⟩ := agree.handedOver_replays waits handed
      obtain ⟨res, replayed⟩ := inv.serving.replays winner (window st own handed) hit ident replay
      rw [ans] at replayed
      cases replayed
    · exact inv

lemma step (inv : Sound setting w) (act : Action setting.environmentId)
    (legal : Legal setting w act) (met : NotRejectedAfterHandover setting w act) :
    Sound setting (step setting w act) := by
  cases act with
  | start appliedState ids =>
    unfold Heartbeat.step
    cases w.session with
    | some runs => exact inv
    | none => exact inv.started legal.1 legal.2
  | crash => exact ⟨inv.serving, inv.disk, fun sess st up => by cases up⟩
  | refresh appliedState ids =>
    unfold Heartbeat.step
    cases up : w.session with
    | none => exact inv
    | some sess => exact inv.refreshed up legal.1 legal.2
  | capture capture =>
    unfold Heartbeat.step
    cases up : w.session with
    | none => exact inv
    | some sess => exact inv.captured up capture
  | serve op =>
    exact ⟨inv.serving.undisturbed legal, fun st stored => (inv.disk st stored).undisturbed
        (apply_undisturbed setting.settings w.server legal), inv.session⟩
  | submit submission =>
    unfold Heartbeat.step
    cases sends : w.outgoing setting with
    | none => exact inv
    | some pair =>
      obtain ⟨sess, ev⟩ := pair
      cases submission with
      | requestLost => exact inv
      | responseLost receivedAt winner => exact inv.delivered sends receivedAt winner
      | answered receivedAt winner ids =>
        exact inv.answered sends receivedAt winner ids fun st own handed =>
          met sess ev st sends own handed
      | refused status =>
        simp only [submitEvent]
        split
        · rename_i permanent
          exact inv.rejected sends fun st own => met permanent sess ev st sends own
        · exact inv

end Sound

/-- No predecessor is named to a session that has its head, and no event meets a handoff conflict. -/
structure HandoffSafe (setting : Setting) (w : World) : Prop where
  named : ∀ capture st ev, Builds w capture st ev →
    (w.server.heads.get (setting.environmentId, ev.bootSessionId)).isSome →
    ev.predecessorBootSessionId.toOption = none
  builds : ∀ capture st ev, Builds w capture st ev → ∀ receivedAt winner err,
      ingestRuntimeObservation setting.settings (delivery setting ev receivedAt winner)
        w.server = .error err → ¬ HandoffConflict err
  sends : ∀ sess ev, w.outgoing setting = some (sess, ev) → ∀ receivedAt winner err,
      ingestRuntimeObservation setting.settings (delivery setting ev receivedAt winner)
        w.server = .error err → ¬ HandoffConflict err

lemma Sound.built {setting w} (inv : Sound setting w) {st} (builds : Builds w capture st ev) :
    Coherent setting w.server st ∧ ∃ cand, Captured capture st cand st.bootIdentity ev := by
  obtain ⟨sess, boot, cand, up, own, cur, captured⟩ := builds.captured
  have stored := inv.session sess st up own
  have boots := stored.2 boot cur
  subst boots
  exact ⟨inv.disk st stored.1, cand, captured⟩

lemma Sound.safe {setting w} (inv : Sound setting w) : HandoffSafe setting w := by
  refine ⟨fun capture st ev builds here => ?_, fun capture st ev builds receivedAt winner err refused => ?_,
    fun sess ev sends receivedAt winner err refused => ?_⟩
  · obtain ⟨agree, cand, ⟨snap, applied, rfl⟩, _⟩ := inv.built builds
    obtain ⟨head, hit⟩ := isSome_iff_exists.mp here
    cases named : st.predecessorBootSessionId with
    | none => simp [hostedEvent, named]
    | some pred =>
      obtain ⟨ev, waits, _⟩ := agree.replay pred head named hit
      rw [builds.free] at waits
      cases waits
  · obtain ⟨agree, cand, captured⟩ := inv.built builds
    have waits : cand.pending = some ev := by rw [captured.written]
    exact ((agree.captured builds.free captured).deliverable waits).no_conflict receivedAt winner refused
  · obtain ⟨up, st, own, waits⟩ := outgoing_eq sends
    have agree := inv.disk st (inv.session sess st up own).1
    exact (agree.deliverable waits).no_conflict receivedAt winner refused

def handsOverAgain (setting : Setting) (capture : Capture) (w : World) : Bool :=
  (w.build capture).any fun built => built.2.predecessorBootSessionId.toOption.isSome &&
    (w.server.heads.get (setting.environmentId, built.2.bootSessionId)).isSome

lemma handsOverAgain_unsafe {setting w}
    (again : handsOverAgain setting capture w = true) : ¬ HandoffSafe setting w := by
  intro safe
  obtain ⟨built, same, both⟩ := (any_eq_true _ _).mp again
  rw [Bool.and_eq_true] at both
  have none := safe.named capture built.1 built.2 (build_builds same) both.2
  rw [none] at both
  cases both.1

open Sample

/-- A restart rotates; the handover is accepted without an answer and then refused. -/
def refusedAfterHandover : List (Action setting.environmentId) :=
  [.start (some applied) firstIds,
   .capture (Sample.capture (seconds 10) "event-1"),
   .submit (.answered (seconds 10) none laterIds),
   .crash,
   .start (some applied) ⟨⟨"boot-4", by decide⟩, ⟨"boot-3", by decide⟩⟩,
   .capture (Sample.capture (seconds 20) "event-2"),
   .submit (.responseLost (seconds 20) none),
   .submit (.refused 401)]

/-- After it the producer names the predecessor of a session that has its head. -/
theorem refusal_locks_out : ¬ ∀ setting world, Starts setting world → ∀ acts : List (Action setting.environmentId),
      Transition.Always (step setting) (Legal setting) world acts →
      HandoffSafe setting (Transition.run (step setting) world acts) := by
  intro always
  have legal : Transition.Always (step setting) (Legal setting) world
      refusedAfterHandover :=
    ⟨⟨fixed, newIds_of_absent (by decide +kernel)⟩, trivial, trivial, trivial,
      ⟨fixed, newIds_of_absent (by decide +kernel)⟩, trivial, trivial, trivial, trivial⟩
  have again : handsOverAgain setting (Sample.capture (seconds 30) "event-3")
      (Transition.run (step setting) world refusedAfterHandover) = true := by
    decide +kernel
  exact handsOverAgain_unsafe again (always setting world starts refusedAfterHandover legal)

/-- Where no attempt is rejected for good after the handover, no event meets a handoff conflict. -/
theorem handoff_safe (setting : Setting) (w : World) (starts : Starts setting w)
    (acts : List (Action setting.environmentId)) (legal : Transition.Always (step setting) (Legal setting) w acts)
    (met : Transition.Always (step setting) (NotRejectedAfterHandover setting) w acts) :
    HandoffSafe setting (Transition.run (step setting) w acts) := by
  have both := legal.and met
  exact (Transition.Always.invariant (fun _ act inv holds => inv.step act holds.1 holds.2)
    (Sound.start starts) both).safe

lemma notRejected_of_unnamed {setting : Setting} {w : World}
    (unnamed : (w.session.bind (·.state)).all (·.predecessorBootSessionId.isNone) = true)
    (act : Action setting.environmentId) : NotRejectedAfterHandover setting w act := by
  by_contra broken
  have plain : ∀ sess ev st, w.outgoing setting = some (sess, ev) →
      sess.state = some st → ¬ HandedOver setting w.server st := by
    intro sess ev st sends own handed
    rw [(outgoing_eq sends).1, bind_some, own, all_some, isNone_iff_eq_none] at unnamed
    have named := handed.1
    rw [unnamed] at named
    cases named
  cases act with
  | start | crash | refresh | capture | serve => exact broken trivial
  | submit submission =>
    cases submission with
    | requestLost | responseLost => exact broken trivial
    | answered =>
      exact broken fun sess ev st sends own handed =>
        absurd handed (plain sess ev st sends own)
    | refused => exact broken fun _ sess ev st sends own => plain sess ev st sends own

/-- Up to the lost answer of the handover, whose event names the predecessor. -/
theorem first_heartbeat_safe : HandoffSafe setting (Transition.run (step setting) world
      (refusedAfterHandover.take 7)) :=
  handoff_safe setting world starts (refusedAfterHandover.take 7)
    ⟨⟨fixed, newIds_of_absent (by decide +kernel)⟩, trivial, trivial, trivial,
      ⟨fixed, newIds_of_absent (by decide +kernel)⟩, trivial, trivial, trivial⟩
    ⟨trivial, trivial, notRejected_of_unnamed (by decide +kernel) _, trivial, trivial, trivial, trivial, trivial⟩

end Clawdi.Heartbeat
