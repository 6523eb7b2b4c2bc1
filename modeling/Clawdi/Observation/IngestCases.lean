import Clawdi.Observation.Ingest

namespace Clawdi.Observation
open Option
variable {head : V2RuntimeObservationHead} {res : RuntimeObservationIngestResult}
variable {row : V2RuntimeObservationInbox} {rows : List V2RuntimeObservationInbox}
variable {v : RuntimeObservationEventV2} {view : HeadView}

lemma existingByEvent_isSome {eventId} :
    (existingByEvent eventId rows).isSome ↔ ∃ row ∈ rows, row.eventId = eventId := by
  simp [existingByEvent]

variable {envId : Uuid} {pred : Option V2RuntimeObservationHead}

lemma existingBySequence_isSome {bootSessionId} {seq : Nat} :
    (existingBySequence envId bootSessionId seq rows).isSome ↔
      ∃ row ∈ rows, row.environmentId = envId ∧ row.bootSessionId = bootSessionId ∧ row.sequence = seq := by
  simp [existingBySequence]

lemma checkCaptureWindow_ok {cfg now capturedAt} :
    checkCaptureWindow cfg now capturedAt = .ok () ↔ WithinCaptureWindow cfg now capturedAt := by
  unfold checkCaptureWindow WithinCaptureWindow raise
  split
  · lia
  · split
    · lia
    · lia

structure Admitted (cfg : Settings) (req : IngestRequest)
    (fence : V2RuntimeEnvironmentFence) (db : Db) : Prop where
  window : WithinCaptureWindow cfg req.receivedAt req.value.capturedAt
  stored : db.fences.get req.environmentId = some fence
  active : fence.state = .active
  credential : fence.deploymentId = req.credentialDeploymentId

structure Continues (head : V2RuntimeObservationHead) (view : HeadView)
    (v : RuntimeObservationEventV2) : Prop where
  state : head.state = .active view
  identity : head.identity = companionIdentity v
  noPredecessor : v.predecessorBootSessionId.toOption = none
  successor : head.authorizedSuccessorBootSessionId.or v.successorBootSessionId.toOption =
    v.successorBootSessionId.toOption.or head.authorizedSuccessorBootSessionId
  sequence : v.sequence ≠ head.highestSequence

def Coalesces (cfg : Settings) (head : V2RuntimeObservationHead) (view : HeadView)
    (v : RuntimeObservationEventV2) : Prop :=
  head.latestSemanticHash = some (semanticHash cfg v) ∧
    head.highestSequence < v.sequence ∧ view.capturedAt ≤ v.capturedAt

def Advances (head : V2RuntimeObservationHead) (view : HeadView) (v : RuntimeObservationEventV2) : Prop :=
  head.highestSequence < v.sequence ∧ view.capturedAt ≤ v.capturedAt

instance (head : V2RuntimeObservationHead) (view : HeadView) (v : RuntimeObservationEventV2) :
    Decidable (Advances head view v) := inferInstanceAs (Decidable (_ ∧ _))

def Replays (cfg : Settings) (head : V2RuntimeObservationHead) (v : RuntimeObservationEventV2) : Prop :=
  v.sequence = head.highestSequence ∧ v.eventId = head.lastSeenEventId ∧
    payloadHash cfg v = head.lastSeenPayloadHash

lemma successor_agrees {authorized successor : Option BootSessionId} :
    ¬ (successor.isSome ∧ authorized.isSome ∧ authorized ≠ successor) ↔
      authorized.or successor = successor.or authorized := by
  cases authorized <;> cases successor <;> simp

lemma admitToHead_duplicate {cfg} (ident : head.identity = companionIdentity v) (replay : Replays cfg head v) :
    admitToHead cfg head v = .ok .duplicate := by
  simp [admitToHead, ident, ← replay.1, ← replay.2.1, ← replay.2.2]

lemma admitToHead_append {cfg} (goes : Continues head view v)
    (stays : ¬ Coalesces cfg head view v) : admitToHead cfg head v = .ok (.append view) := by
  unfold admitToHead
  rw [if_neg (by simpa using goes.identity),
    if_neg (fun replay => goes.sequence replay.1)]
  simp only [goes.state]
  rw [if_neg (by simp [goes.noPredecessor]),
    if_neg (successor_agrees.mpr goes.successor), if_neg goes.sequence]
  exact if_neg stays

lemma admitToHead_cases {cfg verdict} (admitted : admitToHead cfg head v = .ok verdict) :
    (verdict = .duplicate ∧ head.identity = companionIdentity v ∧ Replays cfg head v) ∨
    (∃ view, verdict = .coalesce view ∧ Continues head view v ∧ Coalesces cfg head view v) ∨
    (∃ view, verdict = .append view ∧ Continues head view v ∧ ¬ Coalesces cfg head view v) := by
  unfold admitToHead raise at admitted
  split at admitted
  · cases admitted
  rename_i ident
  rw [ne_eq, not_not] at ident
  split at admitted
  · rename_i replay
    cases admitted
    exact .inl ⟨rfl, ident, replay⟩
  cases st : head.state with
  | retired tombstonedAt => simp only [st] at admitted; cases admitted
  | active view =>
    simp only [st] at admitted
    split at admitted
    · cases admitted
    rename_i pred
    split at admitted
    · cases admitted
    rename_i successor
    split at admitted
    · cases admitted
    rename_i seq
    have goes : Continues head view v := ⟨st, ident, by simpa using pred, successor_agrees.mp successor, seq⟩
    split at admitted
    · rename_i coalesces
      cases admitted
      exact .inr (.inl ⟨view, rfl, goes, coalesces⟩)
    · rename_i stays
      cases admitted
      exact .inr (.inr ⟨view, rfl, goes, stays⟩)

lemma recordOnHead_stays {cfg} (behind : ¬ Advances head view v) :
    (recordOnHead cfg row v head view).2 = authorizeSuccessor v head := by
  unfold Advances at behind
  unfold recordOnHead
  rw [if_neg behind]
  split <;> rfl

lemma recordOnHead_advances {cfg} (ahead : Advances head view v) :
    recordOnHead cfg row v head view = (.acceptedHeadAdvanced, advancedHead cfg row v head) := by
  unfold Advances at ahead
  unfold recordOnHead
  rw [if_pos ahead]

structure Unrecorded (req : IngestRequest) (db : Db) : Prop where
  event : ∀ row ∈ db.inbox, row.eventId ≠ req.value.eventId
  sequence : ∀ row ∈ db.inbox, ¬ (row.environmentId = req.environmentId ∧
    row.bootSessionId = req.value.bootSessionId ∧ row.sequence = req.value.sequence)

structure Repeats (cfg : Settings) (req : IngestRequest)
    (row : V2RuntimeObservationInbox) : Prop where
  environment : row.environmentId = req.environmentId
  session : row.bootSessionId = req.value.bootSessionId
  sequence : row.sequence = req.value.sequence
  event : row.eventId = req.value.eventId
  payload : row.payloadHash = payloadHash cfg req.value

def InboxDecides (cfg : Settings) (req : IngestRequest) (db : Db) : Prop :=
  db.heads.get (req.environmentId, req.value.bootSessionId) = none ∨
    ∃ head view, db.heads.get (req.environmentId, req.value.bootSessionId) = some head ∧
      Continues head view req.value ∧ ¬ Coalesces cfg head view req.value

inductive Ingested (cfg : Settings) (req : IngestRequest)
    (fence : V2RuntimeEnvironmentFence) (db : Db) : RuntimeObservationIngestResult → Db → Prop
  | replayedHead (head : V2RuntimeObservationHead)
      (hit : db.heads.get (req.environmentId, req.value.bootSessionId) = some head)
      (ident : head.identity = companionIdentity req.value)
      (replay : Replays cfg head req.value) :
      Ingested cfg req fence db ⟨req.value.eventId, head.latestStreamPosition, true, .duplicateReplay⟩ db
  | replayedRow (row : V2RuntimeObservationInbox) (decides : InboxDecides cfg req db)
      (mem : row ∈ db.inbox) (repeats : Repeats cfg req row)
      (answered : duplicateOrConflict cfg req.environmentId req.value db.inbox.rows =
        .ok ⟨row.eventId, row.id, true, .duplicateReplay⟩) :
      Ingested cfg req fence db ⟨row.eventId, row.id, true, .duplicateReplay⟩ db
  | coalesced (head : V2RuntimeObservationHead) (view : HeadView)
      (hit : db.heads.get (req.environmentId, req.value.bootSessionId) = some head)
      (goes : Continues head view req.value)
      (coalesces : Coalesces cfg head view req.value) :
      Ingested cfg req fence db ⟨req.value.eventId, head.latestStreamPosition, false, .acceptedHeadAdvanced⟩
        { db with
          heads := db.heads.put
            (coalescedHead cfg req.receivedAt head view req.value) }
  | created (pred : Option V2RuntimeObservationHead)
      (gone : db.heads.get (req.environmentId, req.value.bootSessionId) = none)
      (unrecorded : Unrecorded req db)
      (authorized : authorizedPredecessor req.environmentId req.value db = .ok pred) :
      Ingested cfg req fence db ⟨req.value.eventId, (nextRow cfg req fence db).id, false, .acceptedHeadCreated⟩
        { storeRow (nextRow cfg req fence db) fence db with
          heads := (retirePredecessor req.receivedAt db.heads pred).put
            (createdHead cfg (nextRow cfg req fence db) req.value) }
  | recorded (head : V2RuntimeObservationHead) (view : HeadView)
      (hit : db.heads.get (req.environmentId, req.value.bootSessionId) = some head)
      (goes : Continues head view req.value)
      (stays : ¬ Coalesces cfg head view req.value)
      (unrecorded : Unrecorded req db) :
      Ingested cfg req fence db ⟨req.value.eventId, (nextRow cfg req fence db).id, false,
          (recordOnHead cfg (nextRow cfg req fence db) req.value head view).1⟩
        { storeRow (nextRow cfg req fence db) fence db with
          heads := db.heads.put (recordOnHead cfg (nextRow cfg req fence db)
            req.value head view).2 }

lemma authorizedPredecessor_cases {db} (authorized : authorizedPredecessor envId v db = .ok pred) :
    (pred = none ∧ v.predecessorBootSessionId.toOption = none) ∨
    ∃ head, pred = some head ∧ v.predecessorBootSessionId.toOption = some head.bootSessionId ∧
      db.heads.get (envId, head.bootSessionId) = some head ∧ head.isActive = true ∧
      head.identity = companionIdentity v ∧ head.authorizedSuccessorBootSessionId = some v.bootSessionId := by
  unfold authorizedPredecessor authorizedPredecessor.conflict raise at authorized
  cases named : v.predecessorBootSessionId.toOption with
  | none =>
    simp only [named] at authorized
    cases authorized
    exact .inl ⟨rfl, rfl⟩
  | some predecessorId =>
    simp only [named] at authorized
    cases hit : db.heads.get (envId, predecessorId) with
    | none => simp only [hit] at authorized; cases authorized
    | some head =>
      simp only [hit] at authorized
      split at authorized
      · cases authorized
      rename_i checks
      cases authorized
      have sess : head.bootSessionId = predecessorId := congrArg Prod.snd (Table.get_eq_some.mp hit).2
      subst sess
      simp only [not_or, Bool.not_eq_false, ne_eq, not_not] at checks
      exact .inr ⟨head, rfl, rfl, hit, checks.1, checks.2.1, checks.2.2⟩

lemma mem_retirePredecessor {tombstonedAt heads} (mem : head ∈ retirePredecessor tombstonedAt heads pred) :
    head ∈ heads ∨ ∃ old, pred = some old ∧ head = retireRuntimeObservationHead tombstonedAt old := by
  cases pred with
  | none => exact .inl mem
  | some old =>
    rcases Table.mem_put.mp mem with rfl | ⟨mem, _⟩
    · exact .inr ⟨old, rfl, rfl⟩
    · exact .inl mem

lemma duplicateOrConflict_ok {cfg} {req : IngestRequest}
    (answered : duplicateOrConflict cfg req.environmentId req.value rows = .ok res) :
    ∃ row ∈ rows, Repeats cfg req row ∧ res = ⟨row.eventId, row.id, true, .duplicateReplay⟩ := by
  unfold duplicateOrConflict duplicateOrConflict.conflict raise at answered
  split at answered
  · rename_i byEvent bySequence foundEvent foundSequence
    split at answered
    · rename_i same
      cases answered
      exact ⟨byEvent, List.mem_of_find?_eq_some foundEvent,
        ⟨same.2.1, same.2.2.1, same.2.2.2.1, same.2.2.2.2.1, same.2.2.2.2.2⟩, rfl⟩
    · cases answered
  · cases answered

lemma unrecorded_of_lookups {req : IngestRequest} {db : Db}
    (gone : ¬ ((existingByEvent req.value.eventId db.inbox.rows).isSome ∨
      (existingBySequence req.environmentId req.value.bootSessionId
        req.value.sequence db.inbox.rows).isSome)) : Unrecorded req db := by
  rw [existingByEvent_isSome, existingBySequence_isSome, not_or] at gone
  exact ⟨fun row mem same => gone.1 ⟨row, mem, same⟩, fun row mem same => gone.2 ⟨row, mem, same⟩⟩

lemma Unrecorded.not_repeats {cfg req db}
    (unrecorded : Unrecorded req db) (mem : row ∈ (req.winner.map (·.val)).toList ++ db.inbox.rows) :
    ¬ Repeats cfg req row := by
  intro repeats
  rcases List.mem_append.mp mem with won | was
  · cases winner : req.winner with
    | none => simp [winner] at won
    | some alt =>
      have same : row = alt.val := by simpa [winner] using won
      exact alt.property (same ▸ repeats.environment)
  · exact unrecorded.event row was repeats.event

lemma appendObservation_cases {cfg req} {fence head} {db after}
    (appended : appendObservation cfg req fence head db = .ok (res, after)) :
    (∃ row ∈ db.inbox, Repeats cfg req row ∧
      duplicateOrConflict cfg req.environmentId req.value db.inbox.rows = .ok res ∧
      res = ⟨row.eventId, row.id, true, .duplicateReplay⟩ ∧ after = db) ∨
    (Unrecorded req db ∧
      match head with
      | none => ∃ pred,
          authorizedPredecessor req.environmentId req.value db = .ok pred ∧
          res = ⟨req.value.eventId, (nextRow cfg req fence db).id, false, .acceptedHeadCreated⟩ ∧
          after = { storeRow (nextRow cfg req fence db) fence db with
            heads := (retirePredecessor req.receivedAt db.heads pred).put
              (createdHead cfg (nextRow cfg req fence db) req.value) }
      | some (head, view) =>
          res = ⟨req.value.eventId, (nextRow cfg req fence db).id, false,
            (recordOnHead cfg (nextRow cfg req fence db) req.value head view).1⟩ ∧
          after = { storeRow (nextRow cfg req fence db) fence db with
            heads := db.heads.put (recordOnHead cfg (nextRow cfg req fence db)
              req.value head view).2 }) := by
  unfold appendObservation at appended
  simp only [Bind.bind, Except.bind, Pure.pure, Except.pure] at appended
  split at appended
  · split at appended
    · cases appended
    · rename_i answered
      cases appended
      obtain ⟨row, mem, repeats, same⟩ := duplicateOrConflict_ok answered
      exact .inl ⟨row, mem, repeats, by assumption, same, rfl⟩
  · rename_i gone
    have unrecorded := unrecorded_of_lookups gone
    have conflicts : ∀ ans, duplicateOrConflict cfg req.environmentId req.value
        ((req.winner.map (·.val)).toList ++ db.inbox.rows) ≠ .ok ans := by
      intro ans answered
      obtain ⟨row, mem, repeats, _⟩ := duplicateOrConflict_ok answered
      exact unrecorded.not_repeats mem repeats
    refine Or.inr ⟨unrecorded, ?_⟩
    cases head with
    | none =>
      simp only [isNone_none, if_true] at appended
      split at appended
      · cases appended
      rename_i pred authorized
      split at appended
      · split at appended
        · cases appended
        · rename_i answered
          exact absurd answered (conflicts _)
      · cases appended
        exact ⟨pred, authorized, rfl, rfl⟩
    | some pair =>
      simp only [isNone_some, Bool.false_eq_true, if_false] at appended
      split at appended
      · split at appended
        · cases appended
        · rename_i answered
          exact absurd answered (conflicts _)
      · cases appended
        exact ⟨rfl, rfl⟩

lemma ingest_cases {cfg req db after} (ingested : ingestRuntimeObservation cfg req db = .ok (res, after)) :
    ∃ fence, Admitted cfg req fence db ∧ Ingested cfg req fence db res after := by
  unfold ingestRuntimeObservation at ingested
  simp only [Bind.bind, Except.bind, Pure.pure, Except.pure] at ingested
  split at ingested
  · cases ingested
  rename_i window
  split at ingested
  · cases ingested
  rename_i fence required
  split at ingested
  · cases ingested
  rename_i cred
  have was := requireActive_eq required
  refine ⟨fence, ⟨checkCaptureWindow_ok.mp window, was.1, was.2, by simpa using cred⟩, ?_⟩
  split at ingested
  · rename_i gone
    rcases appendObservation_cases ingested with
      ⟨row, mem, repeats, answered, rfl, rfl⟩ | ⟨unrecorded, rest⟩
    · exact .replayedRow row (.inl gone) mem repeats answered
    · obtain ⟨pred, authorized, rfl, rfl⟩ := rest
      exact .created pred gone unrecorded authorized
  · rename_i head hit
    split at ingested
    · cases ingested
    rename_i verdict admitted
    rcases admitToHead_cases admitted with ⟨rfl, ident, replay⟩ |
      ⟨view, rfl, goes, coalesces⟩ | ⟨view, rfl, goes, stays⟩
    · cases ingested
      exact .replayedHead head hit ident replay
    · cases ingested
      exact .coalesced head view hit goes coalesces
    · rcases appendObservation_cases ingested with
        ⟨row, mem, repeats, answered, rfl, rfl⟩ | ⟨unrecorded, rest⟩
      · exact .replayedRow row (.inr ⟨head, view, hit, goes, stays⟩) mem repeats answered
      · obtain ⟨rfl, rfl⟩ := rest
        exact .recorded head view hit goes stays unrecorded

inductive Refused (cfg : Settings) (req : IngestRequest) (db : Db) : Nat → String → Prop
  | future (ahead : req.receivedAt + seconds cfg.maxFutureSkewSeconds <
        req.value.capturedAt) :
      Refused cfg req db 422 "runtime_observation_captured_at_in_future"
  | stale (old : req.value.capturedAt < req.receivedAt - days cfg.maxCaptureAgeDays) :
      Refused cfg req db 422 "runtime_observation_captured_at_too_old"
  | unfenced : Refused cfg req db 409 "runtime_environment_fence_missing"
  | retired : Refused cfg req db 409 "runtime_environment_retired"
  | credential (fence : V2RuntimeEnvironmentFence)
      (was : db.fences.get req.environmentId = some fence)
      (mismatch : fence.deploymentId ≠ req.credentialDeploymentId) :
      Refused cfg req db 403 "runtime_observation_credential_mismatch"
  | identity : Refused cfg req db 409 "runtime_observation_identity_conflict"
  | handoff (head : V2RuntimeObservationHead)
      (hit : db.heads.get (req.environmentId, req.value.bootSessionId) = some head)
      (named : req.value.predecessorBootSessionId.toOption.isSome)
      (new : ¬ Replays cfg head req.value) :
      Refused cfg req db 409 "runtime_observation_handoff_conflict"
  | unauthorized (err : Failure)
      (gone : db.heads.get (req.environmentId, req.value.bootSessionId) = none)
      (refused : authorizedPredecessor req.environmentId req.value db = .error err) :
      Refused cfg req db 409 "runtime_observation_handoff_conflict"
  | successor : Refused cfg req db 409 "runtime_observation_successor_conflict"
  | reused : Refused cfg req db 409 "runtime_observation_event_conflict"

section
variable {cfg : Settings} {req : IngestRequest} {db : Db} {err : Failure}

lemma checkCaptureWindow_refused
    (refused : checkCaptureWindow cfg req.receivedAt req.value.capturedAt = .error err) :
    ∃ statusCode code, err.Is statusCode code ∧ Refused cfg req db statusCode code := by
  unfold checkCaptureWindow at refused
  split at refused
  · rename_i ahead
    exact ⟨_, _, raise_is refused, .future ahead⟩
  split at refused
  · rename_i old
    exact ⟨_, _, raise_is refused, .stale old⟩
  · cases refused

lemma requireActive_refused
    (refused : requireActiveRuntimeEnvironmentFence req.environmentId none none db = .error err) :
    ∃ statusCode code, err.Is statusCode code ∧ Refused cfg req db statusCode code := by
  unfold requireActiveRuntimeEnvironmentFence at refused
  split at refused
  · exact ⟨_, _, raise_is refused, .unfenced⟩
  simp only [any_none, Bool.false_eq_true, if_false] at refused
  split at refused
  · exact ⟨_, _, raise_is refused, .retired⟩
  · cases refused

lemma admitToHead_refused {head} (hit : db.heads.get (req.environmentId, req.value.bootSessionId) = some head)
    (refused : admitToHead cfg head req.value = .error err) :
    ∃ statusCode code, err.Is statusCode code ∧ Refused cfg req db statusCode code := by
  unfold admitToHead at refused
  split at refused
  · exact ⟨_, _, raise_is refused, .identity⟩
  split at refused
  · cases refused
  rename_i new
  cases st : head.state with
  | retired tombstonedAt =>
    simp only [st] at refused
    exact ⟨_, _, raise_is refused, .retired⟩
  | active view =>
    simp only [st] at refused
    split at refused
    · rename_i named
      exact ⟨_, _, raise_is refused, .handoff head hit named new⟩
    split at refused
    · exact ⟨_, _, raise_is refused, .successor⟩
    split at refused
    · exact ⟨_, _, raise_is refused, .reused⟩
    split at refused <;> cases refused

lemma duplicateOrConflict_refused {rows}
    (refused : duplicateOrConflict cfg req.environmentId req.value rows = .error err) :
    ∃ statusCode code, err.Is statusCode code ∧ Refused cfg req db statusCode code := by
  unfold duplicateOrConflict duplicateOrConflict.conflict at refused
  split at refused
  · split at refused
    · cases refused
    · exact ⟨_, _, raise_is refused, .reused⟩
  · exact ⟨_, _, raise_is refused, .reused⟩

lemma authorizedPredecessor_refused {envId v} (refused : authorizedPredecessor envId v db = .error err) :
    err.Is 409 "runtime_observation_handoff_conflict" := by
  unfold authorizedPredecessor authorizedPredecessor.conflict at refused
  split at refused
  · cases refused
  split at refused
  · exact raise_is refused
  split at refused
  · exact raise_is refused
  · cases refused

lemma appendObservation_refused {fence head} (gone : head = none →
      db.heads.get (req.environmentId, req.value.bootSessionId) = none)
    (refused : appendObservation cfg req fence head db = .error err) :
    ∃ statusCode code, err.Is statusCode code ∧ Refused cfg req db statusCode code := by
  unfold appendObservation at refused
  simp only [Bind.bind, Except.bind, Pure.pure, Except.pure] at refused
  split at refused
  · split at refused <;> cases refused
    rename_i answered
    exact duplicateOrConflict_refused answered
  cases head with
  | none =>
    simp only [isNone_none, if_true] at refused
    split at refused
    · rename_i named
      cases refused
      exact ⟨_, _, authorizedPredecessor_refused named, .unauthorized _ (gone rfl) named⟩
    split at refused
    · split at refused <;> cases refused
      rename_i answered
      exact duplicateOrConflict_refused answered
    · cases refused
  | some pair =>
    simp only [isNone_some, Bool.false_eq_true, if_false] at refused
    split at refused
    · split at refused <;> cases refused
      rename_i answered
      exact duplicateOrConflict_refused answered
    · cases refused

lemma ingest_refused (refused : ingestRuntimeObservation cfg req db = .error err) :
    ∃ statusCode code, err.Is statusCode code ∧ Refused cfg req db statusCode code := by
  unfold ingestRuntimeObservation at refused
  simp only [Bind.bind, Except.bind, Pure.pure, Except.pure] at refused
  split at refused
  · rename_i window
    cases refused
    exact checkCaptureWindow_refused window
  split at refused
  · rename_i fenced
    cases refused
    exact requireActive_refused fenced
  rename_i fence required
  split at refused
  · rename_i mismatch
    exact ⟨_, _, raise_is refused, .credential fence (requireActive_eq required).1 mismatch⟩
  split at refused
  · rename_i gone
    exact appendObservation_refused (fun _ => gone) refused
  · rename_i head hit
    split at refused
    · rename_i admitted
      cases refused
      exact admitToHead_refused hit admitted
    split at refused
    · cases refused
    · cases refused
    · exact appendObservation_refused (fun never => by cases never) refused

end

lemma ingest_checked {cfg} {req : IngestRequest} {err}
    (refused : checkCaptureWindow cfg req.receivedAt req.value.capturedAt =
      .error err) (db : Db) : ingestRuntimeObservation cfg req db = .error err := by
  simp [ingestRuntimeObservation, refused, Bind.bind, Except.bind]

lemma ingest_future (cfg : Settings) (req : IngestRequest) (db : Db)
    (ahead : req.receivedAt + seconds cfg.maxFutureSkewSeconds < req.value.capturedAt) :
    ∃ err, ingestRuntimeObservation cfg req db = .error err ∧
      err.Is 422 "runtime_observation_captured_at_in_future" := by
  have refused : checkCaptureWindow cfg req.receivedAt req.value.capturedAt =
      raise 422 "runtime_observation_captured_at_in_future"
        "runtime observation capturedAt exceeds the allowed clock skew" := if_pos ahead
  exact ⟨_, ingest_checked refused db, _, rfl⟩

end Clawdi.Observation
