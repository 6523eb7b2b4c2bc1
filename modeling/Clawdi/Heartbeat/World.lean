import Clawdi.Heartbeat.Session
import Clawdi.Observation.Frame

namespace Clawdi.Heartbeat
open Observation Option

structure Setting where
  settings : Settings
  environmentId : Uuid
  deploymentId : String
  expectedApplyIdentity : RuntimeApplyIdentity

structure World where
  disk : Option PersistedHeartbeatState
  session : Option HostedRuntimeHeartbeatSession
  server : Db

/-- What becomes of one submission; a response under another apply identity counts as lost. -/
inductive Submission (envId : Uuid)
  | requestLost
  | responseLost (receivedAt : Time)
      (winner : Option { row : V2RuntimeObservationInbox // row.environmentId ≠ envId })
  | answered (receivedAt : Time)
      (winner : Option { row : V2RuntimeObservationInbox // row.environmentId ≠ envId })
      (ids : DrawnIds)
  | refused (status : Nat)

inductive Action (envId : Uuid)
  | start (appliedState : Option RuntimeAppliedState) (ids : DrawnIds)
  | crash
  | refresh (appliedState : Option RuntimeAppliedState) (ids : DrawnIds)
  | capture (capture : Capture)
  | submit (submission : Submission envId)
  | serve (op : Operation)

def isPermanentRuntimeObservationRejection (status : Nat) : Bool := 400 ≤ status ∧ status < 500 ∧ status ≠ 429

variable (w : World) (sess : HostedRuntimeHeartbeatSession) (ev : RuntimeObservationEventV2)

def World.persist : World :=
  { w with session := some sess, disk := sess.state.or w.disk }

def World.persistOk : Except String HostedRuntimeHeartbeatSession → World
  | .ok sess => w.persist sess
  | .error _ => w

def delivery (setting : Setting) (ev : RuntimeObservationEventV2) (receivedAt : Time)
    (winner : Option { row : V2RuntimeObservationInbox //
      row.environmentId ≠ setting.environmentId }) : IngestRequest where
  environmentId := setting.environmentId
  credentialDeploymentId := setting.deploymentId
  value := ev
  receivedAt := receivedAt
  winner := winner

def World.receive (setting : Setting) (w : World) (req : IngestRequest) : World :=
  { w with server := apply setting.settings w.server (.ingest req) }

def statusOf : Failure → Nat
  | .protocol error => error.statusCode
  | .valueError _ | .runtimeError _ => 500

def settle (ids : DrawnIds) (sess : HostedRuntimeHeartbeatSession) (w : World) :
    Except Failure (RuntimeObservationIngestResult × Db) → World
  | .ok _ => w.persistOk ((acknowledge ev.eventId ids sess).map (·.2))
  | .error err =>
    if isPermanentRuntimeObservationRejection (statusOf err) then
      w.persist (retireRejected ev.eventId sess).2
    else w

def submitEvent (setting : Setting) (w : World) (sess : HostedRuntimeHeartbeatSession)
    (ev : RuntimeObservationEventV2) : Submission setting.environmentId → World
  | .requestLost => w
  | .responseLost receivedAt winner => w.receive setting (delivery setting ev receivedAt winner)
  | .answered receivedAt winner ids =>
    let req := delivery setting ev receivedAt winner
    settle ev ids sess (w.receive setting req) (ingestRuntimeObservation setting.settings req w.server)
  | .refused status =>
    if isPermanentRuntimeObservationRejection status then
      w.persist (retireRejected ev.eventId sess).2
    else w

def World.outgoing (setting : Setting) (w : World) :
    Option (HostedRuntimeHeartbeatSession × RuntimeObservationEventV2) := do
  let sess ← w.session
  let st ← sess.state
  let ev ← st.pending
  if companionIdentity ev = setting.expectedApplyIdentity then some (sess, ev) else none

lemma outgoing_eq {setting} {w : World} {sess ev} (sends : w.outgoing setting = some (sess, ev)) :
    w.session = some sess ∧ ∃ st, sess.state = some st ∧ st.pending = some ev := by
  unfold World.outgoing at sends
  simp only [bind_eq_bind, bind_eq_some_iff] at sends
  obtain ⟨running, up, st, own, waits, pend, sends⟩ := sends
  split at sends
  · cases sends
    exact ⟨up, st, own, pend⟩
  · cases sends

def step (setting : Setting) (w : World) : Action setting.environmentId → World
  | .start appliedState ids =>
    match w.session with
    | some _ => w
    | none => w.persistOk (initializeAppliedState w.disk appliedState ids)
  | .crash => { w with session := none }
  | .refresh appliedState ids =>
    match w.session with
    | none => w
    | some sess => w.persistOk (refreshAppliedState appliedState ids sess)
  | .capture capture =>
    match w.session with
    | none => w
    | some sess => w.persistOk ((nextEvent capture sess).map (·.2))
  | .submit submission =>
    match w.outgoing setting with
    | none => w
    | some (sess, ev) => submitEvent setting w sess ev submission
  | .serve op => { w with server := apply setting.settings w.server op }

/-- A capture that built a new event, rather than returning the pending one. -/
structure Builds (capture : Capture) (st : PersistedHeartbeatState)
    (ev : RuntimeObservationEventV2) : Prop where
  running : ∃ sess next, w.session = some sess ∧ sess.state = some st ∧
    nextEvent capture sess = .ok (some ev, next)
  free : st.pending = none

lemma Builds.captured {w capture st ev} (builds : Builds w capture st ev) :
    ∃ sess boot cand, w.session = some sess ∧ sess.state = some st ∧
      sess.currentBootIdentity = some boot ∧ Captured capture st cand boot ev := by
  obtain ⟨sess, next, up, own, built⟩ := builds.running
  rcases nextEvent_cases built with
    ⟨_, again⟩ | ⟨known, boot, cand, fresh, hit, _, cur, captured, same, _⟩
  · obtain ⟨known, hit, waits⟩ := again ev rfl
    rw [own] at hit
    cases hit
    rw [builds.free] at waits
    cases waits
  · rw [own] at hit
    cases hit
    cases same
    exact ⟨sess, boot, cand, up, own, cur, captured⟩

def World.build (capture : Capture) : Option (PersistedHeartbeatState × RuntimeObservationEventV2) :=
  match w.session with
  | none => none
  | some sess =>
    match sess.state, nextEvent capture sess with
    | some st, .ok (some ev, _) => if st.pending.isNone then some (st, ev) else none
    | _, _ => none

lemma build_builds {w : World} {capture st ev} (built : w.build capture = some (st, ev)) :
    Builds w capture st ev := by
  unfold World.build at built
  cases up : w.session with
  | none =>
    rw [up] at built
    cases built
  | some sess =>
    rw [up] at built
    simp only at built
    split at built
    · rename_i known hit next own answered
      split at built
      · rename_i free
        cases built
        exact ⟨⟨sess, next, up, own, answered⟩, isNone_iff_eq_none.mp free⟩
      · cases built
    · cases built

/-- A producer that has never run, in front of a service that has provisioned its environment. -/
structure Starts (setting : Setting) (w : World) : Prop where
  disk : w.disk = none
  session : w.session = none
  reached : Reachable setting.settings w.server
  fenced : ∃ fence, w.server.fences.get setting.environmentId = some fence ∧
    fence.state = .active ∧ fence.deploymentId = setting.deploymentId

def FixedIdentity (setting : Setting) (appliedState : Option RuntimeAppliedState) : Prop :=
  ∀ applied, appliedState = some applied → ∀ ident, applied.applyIdentity = some ident →
    ident = setting.expectedApplyIdentity

def NewIds (setting : Setting) (w : World) (ids : DrawnIds) : Prop :=
  w.server.heads.get (setting.environmentId, ids.bootSessionId) = none ∧
    w.server.heads.get (setting.environmentId, ids.successorBootSessionId) = none

lemma newIds_of_absent {setting : Setting} {w : World} {ids : DrawnIds}
    (gone : ((w.server.heads.get (setting.environmentId, ids.bootSessionId)).isNone &&
      (w.server.heads.get (setting.environmentId, ids.successorBootSessionId)).isNone) = true) :
    NewIds setting w ids := by
  rw [Bool.and_eq_true, isNone_iff_eq_none, isNone_iff_eq_none] at gone
  exact gone

/-- The runs of one producer under one apply identity: nobody else delivers to its environment or
retires it. -/
def Legal (setting : Setting) (w : World) : Action setting.environmentId → Prop
  | .start appliedState ids | .refresh appliedState ids => FixedIdentity setting appliedState ∧ NewIds setting w ids
  | .serve op => op.Spares setting.environmentId
  | _ => True

namespace Sample

def setting : Setting where
  settings := Observation.Sample.settings
  environmentId := "env-1"
  deploymentId := "deployment-1"
  expectedApplyIdentity := ⟨1, "etag-1", "receipt-1", "nonce-1"⟩

def applied : RuntimeAppliedState := ⟨"\"sha256:rev-1\"", "rev-1", some setting.expectedApplyIdentity⟩

def capture (observedNow : Time) (eventId : String) : Capture :=
  ⟨observedNow, some ⟨.ok, some ⟨"\"sha256:rev-1\"", 1, [("sourceRevision", "rev-1")]⟩, []⟩, eventId⟩

def firstIds : DrawnIds := ⟨Observation.Sample.session, ⟨"boot-2", by decide⟩⟩
def laterIds : DrawnIds := ⟨⟨"boot-8", by decide⟩, ⟨"boot-9", by decide⟩⟩
def world : World := ⟨none, none, run Observation.Sample.settings Db.empty [Observation.Sample.provision]⟩

lemma starts : Starts setting world := by
  refine ⟨rfl, rfl, reachable_run _ _, ?_⟩
  obtain ⟨fence, hit, ready⟩ := (any_eq_true _ _).mp
    (show (world.server.fences.get setting.environmentId).any (fun fence =>
      (match fence.state with | .active => true | .retired _ => false) &&
        decide (fence.deploymentId = setting.deploymentId)) = true by decide +kernel)
  rw [Bool.and_eq_true, decide_eq_true_eq] at ready
  refine ⟨fence, hit, ?_, ready.2⟩
  cases st : fence.state with
  | active => rfl
  | retired retirement =>
    rw [st] at ready
    cases ready.1

lemma fixed : FixedIdentity setting (some applied) := by
  intro known same ident read
  cases same
  exact (Option.some.inj read).symm

end Sample
end Clawdi.Heartbeat
