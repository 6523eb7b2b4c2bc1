import Clawdi.Heartbeat.World

namespace Clawdi.Heartbeat
open Sample Observation List

def CapturedInFuture (err : Failure) : Prop := err.Is 422 "runtime_observation_captured_at_in_future"

lemma ingest_capturedInFuture {cfg req db err} (refused : ingestRuntimeObservation cfg req db = .error err)
    (future : CapturedInFuture err) : req.receivedAt + seconds cfg.maxFutureSkewSeconds < req.value.capturedAt := by
  obtain ⟨statusCode, code, is, refused⟩ := ingest_refused refused
  have same := is.eq future
  cases refused with
  | future ahead => exact ahead
  | stale | unfenced | retired | credential | identity | handoff | unauthorized | successor |
      reused => exact absurd same (by decide)

lemma capturedAt_le {observedNow bound lastCapturedAt} : capturedAt observedNow lastCapturedAt ≤ bound ↔
      observedNow ≤ bound ∧ ∀ floor, lastCapturedAt = some floor → floor ≤ bound := by
  cases lastCapturedAt with
  | none => simp [capturedAt]
  | some floor =>
    by_cases behind : observedNow < floor
    · simp only [capturedAt, behind, if_true, Option.some.injEq, forall_eq']
      constructor
      · intro within
        exact ⟨le_trans (le_of_lt behind) within, within⟩
      · intro both
        exact both.2
    · simp only [capturedAt, behind, if_false, Option.some.injEq, forall_eq']
      constructor
      · intro within
        exact ⟨within, le_trans (not_lt.mp behind) within⟩
      · intro both
        exact both.1

lemma Builds.capturedAt {w capture st ev} (builds : Builds w capture st ev) :
    ev.capturedAt = Heartbeat.capturedAt capture.observedNow st.lastCapturedAt := by
  obtain ⟨_, _, _, _, _, _, ⟨snap, applied, rfl⟩, _⟩ := builds.captured
  rfl

def NeverInFuture (setting : Setting) (now : Time) (ev : RuntimeObservationEventV2) : Prop :=
  ∀ receivedAt, now ≤ receivedAt → ∀ winner db err,
    ingestRuntimeObservation setting.settings (delivery setting ev receivedAt winner) db =
      .error err → ¬ CapturedInFuture err

lemma neverInFuture_iff (setting : Setting) (now : Time) (ev : RuntimeObservationEventV2) :
    NeverInFuture setting now ev ↔ ev.capturedAt ≤ now + seconds setting.settings.maxFutureSkewSeconds := by
  constructor
  · intro never
    by_contra ahead
    obtain ⟨err, refused, is⟩ := ingest_future setting.settings
      (delivery setting ev now none) Db.empty (not_le.mp ahead)
    exact never now le_rfl none Db.empty err refused is
  · intro within receivedAt later winner db err refused future
    have ahead : receivedAt + seconds setting.settings.maxFutureSkewSeconds < ev.capturedAt :=
      ingest_capturedInFuture refused future
    lia

def readings {envId : Uuid} (acts : List (Action envId)) : List Time :=
  acts.filterMap fun
    | .capture capture => some capture.observedNow
    | _ => none

def FloorsFrom (seen : List Time) (w : World) : Prop :=
  (∀ st floor, w.disk = some st → st.lastCapturedAt = some floor → floor ∈ seen) ∧
  ∀ sess st floor, w.session = some sess → sess.state = some st → st.lastCapturedAt = some floor → floor ∈ seen

namespace FloorsFrom
variable {setting : Setting} {w : World} {seen : List Time} {sess : HostedRuntimeHeartbeatSession}
section
variable (floors : FloorsFrom seen w)
include floors

lemma persist (within : ∀ st floor, sess.state = some st → st.lastCapturedAt = some floor → floor ∈ seen) :
    FloorsFrom seen (w.persist sess) := by
  refine ⟨fun st floor stored last => ?_, fun runs st floor up own last => ?_⟩
  · cases own : sess.state with
    | none =>
      rw [World.persist, own] at stored
      exact floors.1 st floor stored last
    | some wrote =>
      rw [World.persist, own] at stored
      cases stored
      exact within _ floor own last
  · cases up
    exact within st floor own last

lemma mono {more} (sub : seen ⊆ more) : FloorsFrom more w :=
  ⟨fun st floor stored last => sub (floors.1 st floor stored last),
    fun sess st floor up own last => sub (floors.2 sess st floor up own last)⟩

lemma captured (up : w.session = some sess) (capture : Capture) :
    FloorsFrom (capture.observedNow :: seen) (w.persistOk ((nextEvent capture sess).map (·.2))) := by
  have wider := floors.mono (subset_cons_self capture.observedNow seen)
  cases out : nextEvent capture sess with
  | error msg => exact wider
  | ok pair =>
    obtain ⟨ev, next⟩ := pair
    rcases nextEvent_cases out with
      ⟨rfl, _⟩ | ⟨st, boot, cand, built, own, _, _, captured, _, rfl⟩
    · exact wider.persist fun st floor own last => wider.2 _ st floor up own last
    · refine wider.persist fun alt floor wrote last => ?_
      cases wrote
      rw [captured.written] at last
      have floor' : Heartbeat.capturedAt capture.observedNow st.lastCapturedAt = floor := Option.some.inj last
      cases pre : st.lastCapturedAt with
      | none =>
        rw [pre] at floor'
        exact mem_cons.mpr (.inl floor'.symm)
      | some known =>
        rw [pre, Heartbeat.capturedAt] at floor'
        split at floor'
        · rw [← floor']
          exact wider.2 sess st known up own pre
        · exact mem_cons.mpr (.inl floor'.symm)

lemma started (appliedState : Option RuntimeAppliedState) (ids : DrawnIds) :
    FloorsFrom seen (w.persistOk (initializeAppliedState w.disk appliedState ids)) := by
  cases out : initializeAppliedState w.disk appliedState ids with
  | error msg => exact floors
  | ok sess =>
    refine floors.persist fun st floor own last => ?_
    rcases initialize_cases out with
      blank | ⟨applied, applyIdentity, known, _, _, rfl, fresh | stored | ⟨old, stored, _, rotated⟩⟩
    · rw [blank] at own
      cases own
    · cases own
      rw [(freshState_eq fresh).2.2.2.2.1] at last
      cases last
    · cases own
      exact floors.1 st floor stored last
    · cases own
      rw [(rotateState_eq rotated).2.2.2.2.1] at last
      exact floors.1 old floor stored last

lemma refreshed (up : w.session = some sess) (appliedState : Option RuntimeAppliedState) (ids : DrawnIds) :
    FloorsFrom seen (w.persistOk (refreshAppliedState appliedState ids sess)) := by
  cases out : refreshAppliedState appliedState ids sess with
  | error msg => exact floors
  | ok next =>
    refine floors.persist fun st floor own last => ?_
    rcases refresh_cases out with ⟨kept, _⟩ | ⟨applied, applyIdentity, known, _, _, rfl, fresh⟩
    · rw [kept] at own
      exact floors.2 sess st floor up own last
    · cases own
      rw [(freshState_eq fresh).2.2.2.2.1] at last
      cases last

lemma rejected {ev} (sends : w.outgoing setting = some (sess, ev)) :
    FloorsFrom seen (w.persist (retireRejected ev.eventId sess).2) := by
  obtain ⟨up, st, own, waits⟩ := outgoing_eq sends
  rw [retireRejected_pending own waits]
  refine floors.persist fun alt floor wrote last => ?_
  cases wrote
  exact floors.2 sess st floor up own last

end

lemma acknowledged (floors : FloorsFrom seen w) {sess}
    {ev} (sends : w.outgoing setting = some (sess, ev)) (ids : DrawnIds) :
    FloorsFrom seen (w.persistOk ((acknowledge ev.eventId ids sess).map (·.2))) := by
  obtain ⟨up, st, own, waits⟩ := outgoing_eq sends
  cases out : acknowledge ev.eventId ids sess with
  | error msg => exact floors
  | ok pair =>
    obtain ⟨matched, next⟩ := pair
    obtain ⟨cand, acc, rfl⟩ := acknowledge_pending own waits out
    refine floors.persist fun alt floor wrote last => ?_
    cases wrote
    rw [acknowledgedState_floor acc] at last
    exact floors.2 sess st floor up own last

lemma submitted (floors : FloorsFrom seen w) {ev}
    (sends : w.outgoing setting = some (sess, ev)) (submission : Submission setting.environmentId) :
    FloorsFrom seen (submitEvent setting w sess ev submission) := by
  cases submission with
  | requestLost | responseLost => exact floors
  | refused status =>
    simp only [submitEvent]
    split
    · exact floors.rejected sends
    · exact floors
  | answered receivedAt winner ids =>
    have after : FloorsFrom seen (w.receive setting (delivery setting ev receivedAt winner)) := floors
    have still : (w.receive setting (delivery setting ev receivedAt winner)).outgoing setting =
        some (sess, ev) := sends
    simp only [submitEvent]
    cases ingestRuntimeObservation setting.settings (delivery setting ev receivedAt winner)
      w.server with
    | ok ans => exact after.acknowledged still ids
    | error err =>
      simp only [settle]
      split
      · exact after.rejected still
      · exact after

lemma step (floors : FloorsFrom seen w) (act : Action setting.environmentId) :
    FloorsFrom (readings [act] ++ seen) (step setting w act) := by
  cases act with
  | crash => exact ⟨floors.1, fun sess st floor up => by cases up⟩
  | serve op => exact floors
  | start appliedState ids =>
    unfold Heartbeat.step
    cases w.session with
    | some runs => exact floors
    | none => exact floors.started appliedState ids
  | refresh appliedState ids =>
    unfold Heartbeat.step
    cases up : w.session with
    | none => exact floors
    | some sess => exact floors.refreshed up appliedState ids
  | capture capture =>
    unfold Heartbeat.step
    cases up : w.session with
    | none => exact floors.mono (subset_cons_self _ _)
    | some sess => exact floors.captured up capture
  | submit submission =>
    unfold Heartbeat.step
    cases sends : w.outgoing setting with
    | none => exact floors
    | some pair => exact floors.submitted sends submission

lemma run (floors : FloorsFrom seen w) (acts : List (Action setting.environmentId)) :
    FloorsFrom (readings acts ++ seen) (Transition.run (Heartbeat.step setting) w acts) := by
  induction acts generalizing w seen with
  | nil => exact floors
  | cons act acts ih =>
    refine (ih (floors.step act)).mono fun reading mem => ?_
    have split : readings (act :: acts) = readings [act] ++ readings acts := by
      unfold readings
      rw [← filterMap_append]
      rfl
    rw [split]
    simp only [mem_append] at mem ⊢
    tauto

end FloorsFrom

/-- An event captured under a right clock is never rejected for lying in the future exactly when the
durable capture floor, an earlier reading of the host clock, is in reach of the service's clock too. -/
theorem right_clock_accepted_iff (setting : Setting) (w : World) (starts : Starts setting w)
    (acts : List (Action setting.environmentId)) (capture : Capture)
    (st : PersistedHeartbeatState) (ev : RuntimeObservationEventV2)
    (builds : Builds (Transition.run (step setting) w acts) capture st ev) (now : Time)
    (clock : capture.observedNow ≤ now + seconds setting.settings.maxFutureSkewSeconds) :
    (NeverInFuture setting now ev ↔ ∀ floor, st.lastCapturedAt = some floor →
      floor ≤ now + seconds setting.settings.maxFutureSkewSeconds) ∧
    ∀ floor, st.lastCapturedAt = some floor → floor ∈ readings acts := by
  have start : FloorsFrom [] w := by
    refine ⟨fun st floor stored => ?_, fun sess st floor up => ?_⟩
    · rw [starts.disk] at stored
      cases stored
    · rw [starts.session] at up
      cases up
  refine ⟨?_, fun floor last => ?_⟩
  · rw [neverInFuture_iff, builds.capturedAt, capturedAt_le]
    constructor
    · intro both
      exact both.2
    · intro reach
      exact ⟨clock, reach⟩
  · obtain ⟨sess, _, _, up, own, _⟩ := builds.captured
    have floors : FloorsFrom (readings acts ++ []) (Transition.run (step setting) w acts) := start.run acts
    rw [append_nil] at floors
    exact floors.2 sess st floor up own last

def rejectedAhead : List (Action setting.environmentId) :=
  [.start (some applied) firstIds,
   .capture (capture (seconds 10000) "event-1"),
   .submit (.answered (seconds 10) none laterIds)]

lemma rejectedAhead_legal : Transition.Always (step setting) (Legal setting) world rejectedAhead :=
  ⟨⟨fixed, newIds_of_absent (by decide +kernel)⟩, trivial, trivial, trivial⟩

lemma rejectedAhead_floor : ((Transition.run (step setting) world rejectedAhead).build
      (capture (seconds 20) "event-2")).any
        (fun built => built.1.lastCapturedAt = some (seconds 10000)) = true := by decide +kernel

/-- One reading of a clock that ran ahead, whose event the service rejected, makes the events after it
unacceptable. -/
theorem fast_clock_locks_out : ¬ ∀ setting world, Starts setting world → ∀ acts : List (Action setting.environmentId),
      Transition.Always (step setting) (Legal setting) world acts → ∀ capture st ev,
        Builds (Transition.run (step setting) world acts) capture st ev →
        ∀ now, capture.observedNow ≤ now + seconds setting.settings.maxFutureSkewSeconds →
          NeverInFuture setting now ev := by
  intro always
  obtain ⟨built, same, floor⟩ := (Option.any_eq_true _ _).mp rejectedAhead_floor
  have builds := build_builds same
  have never := always setting world starts rejectedAhead rejectedAhead_legal _ _ _ builds (seconds 20) (by decide)
  rw [neverInFuture_iff, builds.capturedAt, of_decide_eq_true floor] at never
  exact absurd never (by decide)

theorem caught_up_clock_accepted : ∃ st ev, Builds (Transition.run (step setting) world rejectedAhead)
      (capture (seconds 10001) "event-2") st ev ∧ NeverInFuture setting (seconds 10000) ev := by
  obtain ⟨built, same, floor⟩ := (Option.any_eq_true _ _).mp
    (show ((Transition.run (step setting) world rejectedAhead).build
      (capture (seconds 10001) "event-2")).any
        (fun built => built.1.lastCapturedAt = some (seconds 10000)) = true by decide +kernel)
  have builds := build_builds same
  refine ⟨built.1, built.2, builds, (right_clock_accepted_iff setting world starts
    rejectedAhead _ _ _ builds (seconds 10000) (by decide)).1.mpr fun reach last => ?_⟩
  rw [of_decide_eq_true floor] at last
  cases last
  decide

end Clawdi.Heartbeat
