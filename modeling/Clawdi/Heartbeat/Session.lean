import Clawdi.Observation.Fence

namespace Clawdi.Heartbeat
open Observation

structure PersistedBootIdentity where
  identity : RuntimeApplyIdentity
  bootSessionId : BootSessionId

inductive Phase
  | preparingSuccessor
  | unestablished
  | active
deriving DecidableEq

structure PersistedHeartbeatState where
  bootIdentity : PersistedBootIdentity
  successorBootSessionId : BootSessionId
  predecessorBootSessionId : Option BootSessionId
  phase : Phase
  nextSequence : Nat
  lastCapturedAt : Option Time
  pending : Option RuntimeObservationEventV2
  successorDiffers : successorBootSessionId ≠ bootIdentity.bootSessionId
  predecessorDiffers : predecessorBootSessionId ≠ some bootIdentity.bootSessionId

structure RuntimeAppliedState where
  etag : String
  sourceRevision : String
  applyIdentity : Option RuntimeApplyIdentity

structure HostedRuntimeHeartbeatSession where
  state : Option PersistedHeartbeatState
  capturedAppliedState : Option RuntimeAppliedState
  currentBootIdentity : Option PersistedBootIdentity

structure DrawnIds where
  bootSessionId : BootSessionId
  successorBootSessionId : BootSessionId

def successorMustDiffer : String := "successor boot session ID must differ from the current boot session ID"

def freshState (applyIdentity : RuntimeApplyIdentity) (ids : DrawnIds) : Except String PersistedHeartbeatState :=
  if ne : ids.successorBootSessionId = ids.bootSessionId then .error successorMustDiffer
  else .ok
    { bootIdentity := ⟨applyIdentity, ids.bootSessionId⟩
      successorBootSessionId := ids.successorBootSessionId
      predecessorBootSessionId := none
      phase := .unestablished
      nextSequence := 1
      lastCapturedAt := none
      pending := none
      successorDiffers := ne
      predecessorDiffers := by simp }

def rotateState (st : PersistedHeartbeatState) (ids : DrawnIds) : Except String PersistedHeartbeatState :=
  if ne : ids.successorBootSessionId = st.successorBootSessionId then
    .error successorMustDiffer
  else .ok
    { st with
      bootIdentity := ⟨st.bootIdentity.identity, st.successorBootSessionId⟩
      successorBootSessionId := ids.successorBootSessionId
      predecessorBootSessionId := some st.bootIdentity.bootSessionId
      phase := .unestablished
      nextSequence := 1
      successorDiffers := ne
      predecessorDiffers := fun same => st.successorDiffers (Option.some.inj same).symm }

def sessionOver (applied : RuntimeAppliedState) (st : PersistedHeartbeatState) : HostedRuntimeHeartbeatSession :=
  ⟨some st, some applied, some st.bootIdentity⟩

def initializeAppliedState (persisted : Option PersistedHeartbeatState)
    (appliedState : Option RuntimeAppliedState) (ids : DrawnIds) : Except String HostedRuntimeHeartbeatSession :=
  match appliedState with
  | none => .ok ⟨none, none, none⟩
  | some applied =>
    match applied.applyIdentity with
    | none => .ok ⟨none, none, none⟩
    | some applyIdentity =>
      match persisted with
      | none => (freshState applyIdentity ids).map (sessionOver applied)
      | some st =>
        if st.bootIdentity.identity = applyIdentity then
          if st.phase = .active then (rotateState st ids).map (sessionOver applied)
          else .ok (sessionOver applied st)
        else (freshState applyIdentity ids).map (sessionOver applied)

def refreshAppliedState (appliedState : Option RuntimeAppliedState) (ids : DrawnIds)
    (sess : HostedRuntimeHeartbeatSession) : Except String HostedRuntimeHeartbeatSession :=
  match appliedState with
  | none => .ok { sess with capturedAppliedState := none, currentBootIdentity := none }
  | some applied =>
    match applied.applyIdentity with
    | none => .ok { sess with capturedAppliedState := none, currentBootIdentity := none }
    | some applyIdentity =>
      if sess.currentBootIdentity.any fun cur => cur.identity = applyIdentity then
        .ok { sess with capturedAppliedState := some applied }
      else (freshState applyIdentity ids).map (sessionOver applied)

structure Snapshot where
  status : RuntimeObservedStatus
  applied : Option HostedRuntimeObservedAppliedV2
  report : Payload

/-- One reading of the host clock, with the probes and the event id of the capture it begins. -/
structure Capture where
  observedNow : Time
  snapshot : Option Snapshot
  eventId : String

def sourceRevision (applied : HostedRuntimeObservedAppliedV2) : Option String :=
  applied.members.lookup "sourceRevision"

def assertRuntimeBundleAuthority (sourceRevision : Option String) (etag : String) : Except String Unit :=
  match sourceRevision with
  | none | some "" => .ok ()
  | some rev =>
    let exp := "\"sha256:" ++ rev ++ "\""
    if etag ≠ exp then
      .error ("runtime bundle ETag " ++ etag ++
        " does not match its sourceRevision validator " ++ exp)
    else .ok ()

def capturedAt (observedNow : Time) (lastCapturedAt : Option Time) : Time :=
  match lastCapturedAt with
  | none => observedNow
  | some durableCaptureFloor => if observedNow < durableCaptureFloor then durableCaptureFloor
    else observedNow

def suppliedOf {α : Type} : Option α → Supplied α
  | none => .unset
  | some a => .value a

@[simp] lemma toOption_suppliedOf {α : Type} (a : Option α) : (suppliedOf a).toOption = a := by
  cases a <;> rfl

def hostedEvent (st : PersistedHeartbeatState) (boot : PersistedBootIdentity)
    (snapshot : Snapshot) (applied : HostedRuntimeObservedAppliedV2) (capturedAt : Time)
    (eventId : String) : RuntimeObservationEventV2 where
  reportedAt := capturedAt
  status := snapshot.status
  applied := applied
  generation := .value boot.identity.generation
  manifestEtag := .value boot.identity.manifestEtag
  applyReceiptId := boot.identity.applyReceiptId
  bootNonce := boot.identity.bootNonce
  bootSessionId := boot.bootSessionId
  successorBootSessionId := .value st.successorBootSessionId
  predecessorBootSessionId := suppliedOf st.predecessorBootSessionId
  sequence := st.nextSequence
  eventId := eventId
  capturedAt := capturedAt
  report := snapshot.report

variable (capture : Capture) (eventId : String)

def captureEvent (st : PersistedHeartbeatState) (boot : PersistedBootIdentity) (appliedState : RuntimeAppliedState) :
    Except String (Option (RuntimeObservationEventV2 × PersistedHeartbeatState)) :=
  if st.nextSequence = maxSafeInteger then
    .error "runtime heartbeat sequence exhausted for this boot session"
  else
    match capture.snapshot with
    | none => .ok none
    | some snapshot =>
      match snapshot.applied with
      | none => .error "runtime heartbeat snapshot is missing captured applied state"
      | some applied =>
        if applied.generation ≠ boot.identity.generation ∨ applied.etag ≠ appliedState.etag ∨
            sourceRevision applied ≠ some appliedState.sourceRevision then
          .error "runtime heartbeat snapshot does not match captured applied state"
        else do
          assertRuntimeBundleAuthority (sourceRevision applied) applied.etag
          if capture.eventId = "" then .error "runtime heartbeat event ID must not be empty"
          else
            let capturedAt := capturedAt capture.observedNow st.lastCapturedAt
            let ev := hostedEvent st boot snapshot applied capturedAt capture.eventId
            return some (ev, { st with
              nextSequence := st.nextSequence + 1
              lastCapturedAt := some capturedAt
              pending := some ev })

def nextEvent (sess : HostedRuntimeHeartbeatSession) :
    Except String (Option RuntimeObservationEventV2 × HostedRuntimeHeartbeatSession) :=
  match sess.state with
  | none => .ok (none, sess)
  | some st =>
    match st.pending with
    | some ev => .ok (some ev, sess)
    | none =>
      match sess.currentBootIdentity, sess.capturedAppliedState with
      | some boot, some appliedState =>
        (captureEvent capture st boot appliedState).map fun
          | none => (none, sess)
          | some (ev, cand) => (some ev, { sess with state := some cand })
      | _, _ => .ok (none, sess)

def withoutPending (st : PersistedHeartbeatState) : PersistedHeartbeatState :=
  { st with pending := none }

def acknowledgedState (st : PersistedHeartbeatState) (pend : RuntimeObservationEventV2)
    (ids : DrawnIds) : Except String PersistedHeartbeatState :=
  let cand := withoutPending st
  if cand.phase = .preparingSuccessor ∧
      pend.successorBootSessionId.toOption = some cand.successorBootSessionId then
    rotateState cand ids
  else if cand.phase = .unestablished ∧
      pend.bootSessionId = cand.bootIdentity.bootSessionId then
    .ok { cand with
      predecessorBootSessionId := none
      phase := .active
      predecessorDiffers := by simp }
  else .ok cand

def acknowledge (ids : DrawnIds) (sess : HostedRuntimeHeartbeatSession) :
    Except String (Bool × HostedRuntimeHeartbeatSession) :=
  match sess.state with
  | none => .ok (false, sess)
  | some st =>
    match st.pending with
    | none => .ok (false, sess)
    | some pend =>
      if pend.eventId ≠ eventId then .ok (false, sess)
      else (acknowledgedState st pend ids).map fun cand =>
        (true, { sess with
          state := some cand
          currentBootIdentity := some cand.bootIdentity })

def retireRejected (sess : HostedRuntimeHeartbeatSession) : Bool × HostedRuntimeHeartbeatSession :=
  match sess.state with
  | none => (false, sess)
  | some st =>
    match st.pending with
    | none => (false, sess)
    | some pend =>
      if pend.eventId ≠ eventId then (false, sess)
      else (true, { sess with state := some (withoutPending st) })

variable {ev : RuntimeObservationEventV2} {ids : DrawnIds}
variable {next sess : HostedRuntimeHeartbeatSession} {st : PersistedHeartbeatState}

lemma freshState_eq {applyIdentity} (fresh : freshState applyIdentity ids = .ok st) :
    st.bootIdentity = ⟨applyIdentity, ids.bootSessionId⟩ ∧ st.successorBootSessionId = ids.successorBootSessionId ∧
      st.predecessorBootSessionId = none ∧ st.phase = .unestablished ∧
      st.lastCapturedAt = none ∧ st.pending = none := by
  unfold freshState at fresh
  split at fresh
  · cases fresh
  · cases fresh
    exact ⟨rfl, rfl, rfl, rfl, rfl, rfl⟩

lemma rotateState_eq {next} (rotated : rotateState st ids = .ok next) :
    next.bootIdentity = ⟨st.bootIdentity.identity, st.successorBootSessionId⟩ ∧
      next.successorBootSessionId = ids.successorBootSessionId ∧
      next.predecessorBootSessionId = some st.bootIdentity.bootSessionId ∧
      next.phase = .unestablished ∧ next.lastCapturedAt = st.lastCapturedAt ∧ next.pending = st.pending := by
  unfold rotateState at rotated
  split at rotated
  · cases rotated
  · cases rotated
    exact ⟨rfl, rfl, rfl, rfl, rfl, rfl⟩

structure Captured (st next : PersistedHeartbeatState) (boot : PersistedBootIdentity)
    (ev : RuntimeObservationEventV2) : Prop where
  built : ∃ snapshot applied, ev = hostedEvent st boot snapshot applied
    (capturedAt capture.observedNow st.lastCapturedAt) capture.eventId
  written : next = { st with
    nextSequence := st.nextSequence + 1
    lastCapturedAt := some (capturedAt capture.observedNow st.lastCapturedAt)
    pending := some ev }

lemma captureEvent_captured {capture next boot appliedState}
    (built : captureEvent capture st boot appliedState = .ok (some (ev, next))) :
    Captured capture st next boot ev := by
  unfold captureEvent at built
  split at built
  · cases built
  cases snap : capture.snapshot with
  | none => simp only [snap] at built; cases built
  | some snapshot =>
    simp only [snap] at built
    cases tuple : snapshot.applied with
    | none => simp only [tuple] at built; cases built
    | some applied =>
      simp only [tuple, Bind.bind, Except.bind, Pure.pure, Except.pure] at built
      split at built
      · cases built
      split at built
      · cases built
      split at built
      · cases built
      cases built
      exact ⟨⟨snapshot, applied, rfl⟩, rfl⟩

lemma map_ok {α β : Type} {res : Except String α} {f : α → β} {v}
    (mapped : res.map f = .ok v) : ∃ a, res = .ok a ∧ f a = v := by
  cases res with
  | error msg => cases mapped
  | ok a => exact ⟨a, rfl, Except.ok.inj mapped⟩

variable {appliedState : Option RuntimeAppliedState}

lemma initialize_cases {persisted} (started : initializeAppliedState persisted appliedState ids = .ok sess) :
    sess.state = none ∨ ∃ applied applyIdentity st, appliedState = some applied ∧
      applied.applyIdentity = some applyIdentity ∧ sess = sessionOver applied st ∧
      (freshState applyIdentity ids = .ok st ∨ persisted = some st ∨
        ∃ old, persisted = some old ∧ old.phase = .active ∧ rotateState old ids = .ok st) := by
  unfold initializeAppliedState at started
  cases appliedState with
  | none =>
    cases started
    exact .inl rfl
  | some applied =>
    cases own : applied.applyIdentity with
    | none =>
      simp only [own] at started
      cases started
      exact .inl rfl
    | some applyIdentity =>
      refine Or.inr ⟨applied, applyIdentity, ?_⟩
      simp only [own] at started
      cases persisted with
      | none =>
        obtain ⟨st, fresh, rfl⟩ := map_ok started
        exact ⟨st, rfl, own, rfl, .inl fresh⟩
      | some old =>
        simp only at started
        split at started
        · split at started
          · rename_i active
            obtain ⟨st, rotated, rfl⟩ := map_ok started
            exact ⟨st, rfl, own, rfl, .inr (.inr ⟨old, rfl, active, rotated⟩)⟩
          · cases started
            exact ⟨old, rfl, own, rfl, .inr (.inl rfl)⟩
        · obtain ⟨st, fresh, rfl⟩ := map_ok started
          exact ⟨st, rfl, own, rfl, .inl fresh⟩

lemma refresh_cases (refreshed : refreshAppliedState appliedState ids sess = .ok next) : (next.state = sess.state ∧
      (next.currentBootIdentity = none ∨ next.currentBootIdentity = sess.currentBootIdentity)) ∨
    ∃ applied applyIdentity st, appliedState = some applied ∧
      applied.applyIdentity = some applyIdentity ∧ next = sessionOver applied st ∧
      freshState applyIdentity ids = .ok st := by
  unfold refreshAppliedState at refreshed
  cases appliedState with
  | none =>
    cases refreshed
    exact .inl ⟨rfl, .inl rfl⟩
  | some applied =>
    cases own : applied.applyIdentity with
    | none =>
      simp only [own] at refreshed
      cases refreshed
      exact .inl ⟨rfl, .inl rfl⟩
    | some applyIdentity =>
      simp only [own] at refreshed
      split at refreshed
      · cases refreshed
        exact .inl ⟨rfl, .inr rfl⟩
      · obtain ⟨st, fresh, rfl⟩ := map_ok refreshed
        exact .inr ⟨applied, applyIdentity, st, rfl, own, rfl, fresh⟩

lemma nextEvent_cases {capture out} (answered : nextEvent capture sess = .ok (out, next)) :
    (next = sess ∧ ∀ ev, out = some ev → ∃ st, sess.state = some st ∧ st.pending = some ev) ∨
    ∃ st boot cand ev, sess.state = some st ∧ st.pending = none ∧
      sess.currentBootIdentity = some boot ∧ Captured capture st cand boot ev ∧
      out = some ev ∧ next = { sess with state := some cand } := by
  unfold nextEvent at answered
  cases own : sess.state with
  | none =>
    simp only [own] at answered
    cases answered
    exact .inl ⟨rfl, fun ev never => by cases never⟩
  | some st =>
    simp only [own] at answered
    cases waits : st.pending with
    | some ev =>
      simp only [waits] at answered
      cases answered
      exact .inl ⟨rfl, fun ev same => ⟨st, rfl, waits.trans same⟩⟩
    | none =>
      simp only [waits] at answered
      split at answered
      · rename_i boot appliedState cur captured
        obtain ⟨built, capturedEvent, same⟩ := map_ok answered
        cases built with
        | none =>
          cases same
          exact .inl ⟨rfl, fun ev never => by cases never⟩
        | some pair =>
          cases same
          exact .inr ⟨st, boot, pair.2, pair.1, rfl, waits, cur, captureEvent_captured capturedEvent, rfl, rfl⟩
      · cases answered
        exact .inl ⟨rfl, fun ev never => by cases never⟩

lemma retireRejected_pending (own : sess.state = some st) (waits : st.pending = some ev) :
    (retireRejected ev.eventId sess).2 = { sess with state := some (withoutPending st) } := by
  simp [retireRejected, own, waits]

lemma acknowledge_pending {matched} (own : sess.state = some st) (waits : st.pending = some ev)
    (acked : acknowledge ev.eventId ids sess = .ok (matched, next)) :
    ∃ cand, acknowledgedState st ev ids = .ok cand ∧
      next = { sess with
        state := some cand
        currentBootIdentity := some cand.bootIdentity } := by
  simp only [acknowledge, own, waits, ne_eq, not_true_eq_false, if_false] at acked
  obtain ⟨cand, acc, same⟩ := map_ok acked
  cases same
  exact ⟨cand, acc, rfl⟩

lemma acknowledgedState_floor {cand pend} (acked : acknowledgedState st pend ids = .ok cand) :
    cand.lastCapturedAt = st.lastCapturedAt := by
  unfold acknowledgedState at acked
  dsimp only at acked
  split at acked
  · obtain ⟨_, _, _, _, floor, _⟩ := rotateState_eq acked
    exact floor
  split at acked
  · cases acked
    rfl
  · cases acked
    rfl

end Clawdi.Heartbeat
