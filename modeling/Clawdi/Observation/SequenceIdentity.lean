import Clawdi.Observation.Evidence

namespace Clawdi.Observation
open Table

def IngestRequest.redelivered (req : IngestRequest) (receivedAt : Time)
    (winner : Option { row : V2RuntimeObservationInbox //
      row.environmentId ≠ req.environmentId }) : IngestRequest :=
  { req with receivedAt := receivedAt, winner := winner }

variable {db : Db} {fence : V2RuntimeEnvironmentFence} {receivedAt : Time} {req : IngestRequest}
variable {cfg : Settings}

lemma requireActive_stored (admitted : Admitted cfg req fence db) :
    requireActiveRuntimeEnvironmentFence req.environmentId none none db = .ok fence := by
  simp [requireActiveRuntimeEnvironmentFence, admitted.stored, admitted.active]

lemma ingest_replays_head (head : V2RuntimeObservationHead) (admitted : Admitted cfg req fence db)
    (hit : db.heads.get (req.environmentId, req.value.bootSessionId) = some head)
    (identity : head.identity = companionIdentity req.value)
    (replay : Replays cfg head req.value) : ingestRuntimeObservation cfg req db =
      .ok (⟨req.value.eventId, head.latestStreamPosition, true, .duplicateReplay⟩, db) := by
  have window := checkCaptureWindow_ok.mpr admitted.window
  have required := requireActive_stored admitted
  have verdict := admitToHead_duplicate identity replay
  simp [ingestRuntimeObservation, window, required, admitted.credential, hit, verdict,
    Bind.bind, Except.bind, Pure.pure, Except.pure]

variable {res : RuntimeObservationIngestResult}

lemma appendObservation_replays {head}
    (answered : duplicateOrConflict cfg req.environmentId req.value db.inbox.rows = .ok res) :
    appendObservation cfg req fence head db = .ok (res, db) := by
  obtain ⟨row, mem, repeats, _⟩ := duplicateOrConflict_ok answered
  have here := existingByEvent_isSome.mpr ⟨row, mem, repeats.event⟩
  simp [appendObservation, here, answered, Bind.bind, Except.bind, Pure.pure, Except.pure]

lemma ingest_replays_row (admitted : Admitted cfg req fence db) (decides : InboxDecides cfg req db)
    (answered : duplicateOrConflict cfg req.environmentId req.value db.inbox.rows = .ok res) :
    ingestRuntimeObservation cfg req db = .ok (res, db) := by
  have window := checkCaptureWindow_ok.mpr admitted.window
  have required := requireActive_stored admitted
  rcases decides with gone | ⟨head, view, hit, goes, stays⟩
  · simp [ingestRuntimeObservation, window, required, admitted.credential, gone,
      appendObservation_replays answered, Bind.bind, Except.bind]
  · have verdict := admitToHead_append goes stays
    simp [ingestRuntimeObservation, window, required, admitted.credential, hit, verdict,
      appendObservation_replays answered, Bind.bind, Except.bind]

lemma duplicateOrConflict_put {row} (repeats : Repeats cfg req row) (inbox : Table V2RuntimeObservationInbox.id) :
    duplicateOrConflict cfg req.environmentId req.value (inbox.put row).rows =
      .ok ⟨row.eventId, row.id, true, .duplicateReplay⟩ := by
  simp [duplicateOrConflict, existingByEvent, existingBySequence, Table.put, repeats.environment,
    repeats.session, repeats.sequence, repeats.event, repeats.payload]

lemma nextRow_repeats (cfg : Settings) (req : IngestRequest) (fence : V2RuntimeEnvironmentFence) (db : Db) :
    Repeats cfg req (nextRow cfg req fence db) := ⟨rfl, rfl, rfl, rfl, rfl⟩

lemma Admitted.fenceKey (admitted : Admitted cfg req fence db) :
    fence.environmentId = req.environmentId := (get_eq_some.mp admitted.stored).2

lemma Admitted.stored_row (admitted : Admitted cfg req fence db)
    (row : V2RuntimeObservationInbox) (heads : Table headKey)
    (window : WithinCaptureWindow cfg receivedAt req.value.capturedAt)
    (winner : Option { row : V2RuntimeObservationInbox //
      row.environmentId ≠ req.environmentId }) :
    Admitted cfg (req.redelivered receivedAt winner)
      { fence with streamHighWater := row.id } { storeRow row fence db with heads := heads } := by
  exact ⟨window, get_put_of_eq _ admitted.fenceKey, admitted.active, admitted.credential⟩

lemma Continues.authorizeSuccessor {head view v} (goes : Continues head view v) :
    Continues (authorizeSuccessor v head) view v := by
  refine ⟨goes.state, goes.identity, goes.noPredecessor, ?_, goes.sequence⟩
  have agrees := goes.successor
  unfold Observation.authorizeSuccessor
  cases own : head.authorizedSuccessorBootSessionId <;>
    cases named : v.successorBootSessionId.toOption <;> simp_all

lemma Admitted.again (admitted : Admitted cfg req fence db) (heads : Table headKey)
    (window : WithinCaptureWindow cfg receivedAt req.value.capturedAt)
    (winner : Option { row : V2RuntimeObservationInbox //
      row.environmentId ≠ req.environmentId }) :
    Admitted cfg (req.redelivered receivedAt winner) fence { db with heads := heads } :=
  ⟨window, admitted.stored, admitted.active, admitted.credential⟩

lemma recorded_redelivery {head view}
    {winner : Option { row : V2RuntimeObservationInbox // row.environmentId ≠ req.environmentId }}
    (admitted : Admitted cfg req fence db)
    (window : WithinCaptureWindow cfg receivedAt req.value.capturedAt)
    (hit : db.heads.get (req.environmentId, req.value.bootSessionId) = some head)
    (goes : Continues head view req.value)
    (stays : ¬ Coalesces cfg head view req.value) :
    let row := nextRow cfg req fence db
    let after := { storeRow row fence db with
      heads := db.heads.put (recordOnHead cfg row req.value head view).2 }
    ingestRuntimeObservation cfg (req.redelivered receivedAt winner) after =
      .ok (⟨req.value.eventId, row.id, true, .duplicateReplay⟩, after) := by
  intro row after
  have again := admitted.stored_row row (db.heads.put (recordOnHead cfg row req.value head view).2) window winner
  have key : headKey head = (req.environmentId, req.value.bootSessionId) := (get_eq_some.mp hit).2
  by_cases ahead : Advances head view req.value
  · have recorded : recordOnHead cfg row req.value head view = _ :=
      recordOnHead_advances ahead
    rw [recorded] at again
    simp only [after, recorded]
    exact ingest_replays_head _ again (get_put_of_eq _ key) goes.identity ⟨rfl, rfl, rfl⟩
  · have recorded : (recordOnHead cfg row req.value head view).2 = _ :=
      recordOnHead_stays ahead
    rw [recorded] at again
    simp only [after, recorded]
    refine ingest_replays_row again (.inr ⟨authorizeSuccessor req.value head, view,
      get_put_of_eq _ key, goes.authorizeSuccessor, ?_⟩)
      (duplicateOrConflict_put (nextRow_repeats cfg req fence db) db.inbox)
    exact fun coalesces => stays coalesces

/-- A delivery that succeeded, repeated at once, is answered as a duplicate at the same stream
position and writes nothing. -/
theorem ingest_redelivered (cfg : Settings) (db : Db) (req : IngestRequest)
    (res : RuntimeObservationIngestResult) (after : Db)
    (acc : ingestRuntimeObservation cfg req db = .ok (res, after)) (receivedAt : Time)
    (window : WithinCaptureWindow cfg receivedAt req.value.capturedAt)
    (winner : Option { row : V2RuntimeObservationInbox //
      row.environmentId ≠ req.environmentId }) :
    ingestRuntimeObservation cfg (req.redelivered receivedAt winner) after =
      .ok (⟨res.eventId, res.streamPosition, true, .duplicateReplay⟩, after) := by
  obtain ⟨fence, admitted, ingested⟩ := ingest_cases acc
  cases ingested with
  | replayedHead head hit identity replay =>
    exact ingest_replays_head head (admitted.again _ window winner) hit identity replay
  | replayedRow row decides mem repeats answered =>
    exact ingest_replays_row (admitted.again _ window winner) decides answered
  | coalesced head view hit goes coalesces =>
    have key : headKey (coalescedHead cfg req.receivedAt head view req.value) =
        (req.environmentId, req.value.bootSessionId) := (get_eq_some.mp hit).2
    exact ingest_replays_head (coalescedHead cfg req.receivedAt head view req.value)
      (admitted.again _ window winner) (get_put_of_eq _ key)
      goes.identity ⟨rfl, rfl, rfl⟩
  | created pred gone unrecorded authorized =>
    exact ingest_replays_head _ (admitted.stored_row _ _ window winner) (get_put_of_eq _ rfl) rfl ⟨rfl, rfl, rfl⟩
  | recorded head view hit goes stays unrecorded => exact recorded_redelivery admitted window hit goes stays

theorem heartbeat_redelivered : ∃ res after, ingestRuntimeObservation Sample.settings
        (Sample.delivery 4 "event-4" (seconds 20)) Sample.db = .ok (res, after) ∧
      ingestRuntimeObservation Sample.settings
        ((Sample.delivery 4 "event-4" (seconds 20)).redelivered (seconds 21) none) after =
          .ok (⟨res.eventId, res.streamPosition, true, .duplicateReplay⟩, after) := by
  obtain ⟨res, acc, _⟩ := committed_ok Sample.db
    (ingestRuntimeObservation Sample.settings (Sample.delivery 4 "event-4" (seconds 20)) Sample.db)
    (fun res => res.duplicate = false) (by decide +kernel)
  exact ⟨res, _, acc, ingest_redelivered Sample.settings Sample.db _ res _ acc (seconds 21) (by decide) none⟩

def Conflict (err : Failure) : Prop := ∃ code, err.Is 409 code

variable {db : Db} {head : V2RuntimeObservationHead} {req : IngestRequest} {cfg : Settings}

lemma ingest_conflict {err} (refused : ingestRuntimeObservation cfg req db = .error err)
    (window : WithinCaptureWindow cfg req.receivedAt req.value.capturedAt)
    (cred : ∀ fence, db.fences.get req.environmentId = some fence → fence.deploymentId = req.credentialDeploymentId) :
    Conflict err := by
  obtain ⟨statusCode, code, is, refused⟩ := ingest_refused refused
  cases refused with
  | future ahead => exact absurd window.1 (not_le.mpr ahead)
  | stale old => exact absurd window.2 (not_le.mpr old)
  | credential fence stored mismatch => exact absurd (cred fence stored) mismatch
  | unfenced | retired | identity | handoff | unauthorized | successor | reused => exact ⟨_, is⟩

def SamePlace (a b : V2RuntimeObservationInbox) : Prop :=
  a.environmentId = b.environmentId ∧ a.bootSessionId = b.bootSessionId ∧ a.sequence = b.sequence

def SequencesUnique (db : Db) : Prop := ∀ a ∈ db.inbox, ∀ b ∈ db.inbox, SamePlace a b → a = b

structure SameEvent (row later : V2RuntimeObservationInbox) : Prop where
  place : SamePlace row later
  event : row.eventId = later.eventId
  payload : row.payloadHash = later.payloadHash

def RowsKept (pre after : Db) : Prop := ∀ row ∈ pre.inbox, ∃ later ∈ after.inbox, SameEvent row later
lemma SameEvent.refl (row : V2RuntimeObservationInbox) : SameEvent row row := ⟨⟨rfl, rfl, rfl⟩, rfl, rfl⟩

lemma SameEvent.trans {a b c} (first : SameEvent a b) (snd : SameEvent b c) : SameEvent a c :=
  ⟨⟨first.place.1.trans snd.place.1, first.place.2.1.trans snd.place.2.1,
    first.place.2.2.trans snd.place.2.2⟩,
    first.event.trans snd.event, first.payload.trans snd.payload⟩

lemma purgePayload_same (cfg : Settings) (cur : Time) (ids : List Nat)
    (row : V2RuntimeObservationInbox) : SameEvent row (purgePayload cfg cur ids row) := by
  unfold purgePayload
  split <;> exact ⟨⟨rfl, rfl, rfl⟩, rfl, rfl⟩

lemma SequencesUnique.store (unique : SequencesUnique db) (unrecorded : Unrecorded req db)
    (cfg : Settings) (fence : V2RuntimeEnvironmentFence) (heads : Table headKey) :
    SequencesUnique { storeRow (nextRow cfg req fence db) fence db with heads := heads } := by
  have fresh : ∀ row ∈ db.inbox, ¬ SamePlace row (nextRow cfg req fence db) :=
    fun row mem => unrecorded.sequence row mem
  intro a memberA b memberB same
  rcases mem_put.mp memberA with rfl | ⟨storedA, _⟩ <;>
    rcases mem_put.mp memberB with rfl | ⟨storedB, _⟩
  · rfl
  · exact absurd ⟨same.1.symm, same.2.1.symm, same.2.2.symm⟩ (fresh b storedB)
  · exact absurd same (fresh a storedA)
  · exact unique a storedA b storedB same

lemma SequencesUnique.step (cfg : Settings) (db after : Db) (unique : SequencesUnique db)
    (step : Step cfg db after) : SequencesUnique after := by
  cases step with
  | consumer change => cases change <;> exact unique
  | ingested req fence admitted ingested =>
    cases ingested with
    | replayedHead | replayedRow | coalesced => exact unique
    | created _ _ unrecorded | recorded _ _ _ _ _ unrecorded => exact unique.store unrecorded _ _ _
  | compacted cur envId compacted =>
    cases compacted with
    | idle => exact unique
    | purged fence rows purge cursors stored each last consumers =>
      intro a memberA b memberB same
      obtain ⟨oldA, storedA, rfl⟩ := mem_purgePayloads.mp memberA
      obtain ⟨oldB, storedB, rfl⟩ := mem_purgePayloads.mp memberB
      have placeA := (purgePayload_same cfg cur (rows.map (·.id)) oldA).place
      have placeB := (purgePayload_same cfg cur (rows.map (·.id)) oldB).place
      have place : SamePlace oldA oldB :=
        ⟨placeA.1.trans (same.1.trans placeB.1.symm), placeA.2.1.trans (same.2.1.trans placeB.2.1.symm),
          placeA.2.2.trans (same.2.2.trans placeB.2.2.symm)⟩
      rw [unique oldA storedA oldB storedB place]
  | _ => exact unique

lemma SequencesUnique.reachable (reached : Reachable cfg db) : SequencesUnique db :=
  reachable_of_step SequencesUnique (SequencesUnique.step cfg)
    (fun row mem => absurd mem (not_mem_empty row)) reached

lemma rowsKept_step (cfg : Settings) (db after : Db) (bounds : StreamBounds db)
    (step : Step cfg db after) : RowsKept db after := by
  have same : RowsKept db db := fun row mem => ⟨row, mem, .refl row⟩
  cases step with
  | consumer change => cases change <;> exact same
  | ingested req fence admitted ingested =>
    cases ingested with
    | replayedHead | replayedRow | coalesced => exact same
    | created | recorded => exact fun row mem => ⟨row, HeadsEvidenced.row_stored bounds mem, .refl row⟩
  | compacted cur envId compacted =>
    cases compacted with
    | idle => exact same
    | purged fence rows purge cursors stored each last consumers =>
      exact fun row mem => ⟨_, mem_purgePayloads.mpr ⟨row, mem, rfl⟩, purgePayload_same cfg cur (rows.map (·.id)) row⟩
  | _ => exact same

lemma rowsKept_run (bounds : StreamBounds db) (ops : List Operation) : RowsKept db (run cfg db ops) := by
  refine run_of_step StreamBounds RowsKept StreamBounds.step
    (fun db row mem => ⟨row, mem, .refl row⟩) (fun a b c first snd row mem => ?_)
    (rowsKept_step cfg) bounds ops
  obtain ⟨middle, middleMember, early⟩ := first row mem
  obtain ⟨later, laterMember, late⟩ := snd middle middleMember
  exact ⟨later, laterMember, early.trans late⟩

/-- The head of the event's boot session has reached its sequence, and where it stands there, it has
seen this event last. -/
structure Arrived (cfg : Settings) (req : IngestRequest) (head : V2RuntimeObservationHead) :
    Prop where
  sequence : req.value.sequence ≤ head.highestSequence
  seen : req.value.sequence = head.highestSequence → req.value.eventId = head.lastSeenEventId ∧
      payloadHash cfg req.value = head.lastSeenPayloadHash

lemma Arrived.forward {later} (arrived : Arrived cfg req head)
    (forward : HeadForward head later) : Arrived cfg req later := by
  refine ⟨le_trans arrived.sequence forward.sequence, fun same => ?_⟩
  have stood : head.highestSequence = req.value.sequence := le_antisymm (same ▸ forward.sequence) arrived.sequence
  have early := arrived.seen stood.symm
  have late := forward.seen (same.symm.trans stood.symm)
  exact ⟨early.1.trans late.1.symm, early.2.trans late.2.symm⟩

lemma accepted_arrived {after} (acc : ingestRuntimeObservation cfg req db = .ok (res, after))
    (hit : after.heads.get (req.environmentId, req.value.bootSessionId) = some head)
    (reached : req.value.sequence ≤ head.highestSequence) : Arrived cfg req head := by
  refine ⟨reached, fun same => ?_⟩
  obtain ⟨fence, admitted, ingested⟩ := ingest_cases acc
  cases ingested with
  | replayedHead known lookup identity replay =>
    rw [lookup] at hit
    cases hit
    exact replay.2
  | replayedRow row decides mem repeats answered =>
    rcases decides with gone | ⟨known, view, lookup, goes, stays⟩
    · rw [gone] at hit
      cases hit
    · rw [lookup] at hit
      cases hit
      exact absurd same goes.sequence
  | coalesced known view lookup goes coalesces =>
    have key : headKey (coalescedHead cfg req.receivedAt known view req.value) =
        (req.environmentId, req.value.bootSessionId) := (get_eq_some.mp lookup).2
    have wrote := (get_put_of_eq db.heads key).symm.trans hit
    cases wrote
    exact ⟨rfl, rfl⟩
  | created pred gone unrecorded authorized =>
    have key : headKey (createdHead cfg (nextRow cfg req fence db) req.value) =
        (req.environmentId, req.value.bootSessionId) := rfl
    have wrote := (get_put_of_eq _ key).symm.trans hit
    cases wrote
    exact ⟨rfl, rfl⟩
  | recorded known view lookup goes stays unrecorded =>
    have ownKey : headKey known = (req.environmentId, req.value.bootSessionId) := (get_eq_some.mp lookup).2
    by_cases ahead : Advances known view req.value
    · rw [recordOnHead_advances ahead] at hit
      have wrote := (get_put_of_eq db.heads (show headKey (advancedHead cfg
        (nextRow cfg req fence db) req.value known) = _ from ownKey)).symm.trans hit
      cases wrote
      exact ⟨rfl, rfl⟩
    · rw [recordOnHead_stays ahead] at hit
      have wrote := (get_put_of_eq db.heads (show headKey (authorizeSuccessor req.value
        known) = _ from ownKey)).symm.trans hit
      cases wrote
      exact absurd same goes.sequence

structure Reuses (cfg : Settings) (req again : IngestRequest) : Prop where
  environment : again.environmentId = req.environmentId
  session : again.value.bootSessionId = req.value.bootSessionId
  sequence : again.value.sequence = req.value.sequence
  differs : again.value.eventId ≠ req.value.eventId ∨ payloadHash cfg again.value ≠ payloadHash cfg req.value

lemma reuse_refused {again} (unique : SequencesUnique db) (reuses : Reuses cfg req again)
    (hit : db.heads.get (req.environmentId, req.value.bootSessionId) = some head) (arrived : Arrived cfg req head)
    (evidence : (∃ row ∈ db.inbox, Repeats cfg req row) ∨ head.highestSequence = req.value.sequence) :
    ∃ err, ingestRuntimeObservation cfg again db = .error err := by
  cases delivered : ingestRuntimeObservation cfg again db with
  | error err => exact ⟨err, rfl⟩
  | ok ans =>
    exfalso
    obtain ⟨res, after⟩ := ans
    obtain ⟨fence, admitted, ingested⟩ := ingest_cases delivered
    rw [← reuses.environment, ← reuses.session] at hit
    have notAhead : ¬ head.highestSequence < again.value.sequence := by
      rw [reuses.sequence]
      exact not_lt.mpr arrived.sequence
    -- an inbox row that takes the place, unless the head stands there
    have taken : again.value.sequence ≠ head.highestSequence → ∃ row ∈ db.inbox,
        Repeats cfg req row := by
      intro moved
      rcases evidence with stored | standing
      · exact stored
      · exact absurd (reuses.sequence.trans standing.symm) moved
    have recorded : again.value.sequence ≠ head.highestSequence → ¬ Unrecorded again db := by
      intro moved unrecorded
      obtain ⟨row, mem, repeats⟩ := taken moved
      exact unrecorded.sequence row mem ⟨repeats.environment.trans reuses.environment.symm,
        repeats.session.trans reuses.session.symm, repeats.sequence.trans reuses.sequence.symm⟩
    have apart : ¬ (again.value.eventId = req.value.eventId ∧
        payloadHash cfg again.value = payloadHash cfg req.value) := by
      intro same
      rcases reuses.differs with ev | payload
      · exact ev same.1
      · exact payload same.2
    cases ingested with
    | replayedHead known lookup identity replay =>
      rw [hit] at lookup
      cases lookup
      have seen := arrived.seen (reuses.sequence.symm.trans replay.1)
      exact apart ⟨replay.2.1.trans seen.1.symm, replay.2.2.trans seen.2.symm⟩
    | replayedRow row decides mem repeats answered =>
      rcases decides with gone | ⟨known, view, lookup, goes, stays⟩
      · rw [hit] at gone
        cases gone
      · rw [hit] at lookup
        cases lookup
        obtain ⟨own, ownMember, ownRepeats⟩ := taken goes.sequence
        have place : SamePlace row own :=
          ⟨repeats.environment.trans (reuses.environment.trans ownRepeats.environment.symm),
            repeats.session.trans (reuses.session.trans ownRepeats.session.symm),
            repeats.sequence.trans (reuses.sequence.trans ownRepeats.sequence.symm)⟩
        rw [unique row mem own ownMember place] at repeats
        exact apart ⟨repeats.event.symm.trans ownRepeats.event, repeats.payload.symm.trans ownRepeats.payload⟩
    | coalesced known view lookup goes coalesces =>
      rw [hit] at lookup
      cases lookup
      exact notAhead coalesces.2.1
    | created pred gone unrecorded authorized =>
      rw [hit] at gone
      cases gone
    | recorded known view lookup goes stays unrecorded =>
      rw [hit] at lookup
      cases lookup
      exact recorded goes.sequence unrecorded

lemma Repeats.kept {row later}
    (repeats : Repeats cfg req row) (same : SameEvent row later) : Repeats cfg req later :=
  ⟨same.place.1.symm.trans repeats.environment, same.place.2.1.symm.trans repeats.session,
    same.place.2.2.symm.trans repeats.sequence, same.event.symm.trans repeats.event,
    same.payload.symm.trans repeats.payload⟩

def SingleAssignment (cfg : Settings) : Prop :=
  ∀ db, Reachable cfg db → ∀ req res after, ingestRuntimeObservation cfg req db = .ok (res, after) →
    ∀ (deliveries : List IngestRequest) (again : IngestRequest), Reuses cfg req again →
      ∃ err, ingestRuntimeObservation cfg again (run cfg after (deliveries.map .ingest)) = .error err

/-- A coalesced event leaves no inbox row, so once the next heartbeat has been coalesced over it
another event is accepted for its sequence. -/
theorem coalesced_sequence_reassigned : ¬ SingleAssignment Sample.settings := by
  intro single
  obtain ⟨res, acc, _⟩ := committed_ok Sample.db
    (ingestRuntimeObservation Sample.settings (Sample.delivery 4 "event-4" (seconds 20)) Sample.db)
    (·.outcome = .acceptedHeadAdvanced) (by decide +kernel)
  have reuses : Reuses Sample.settings (Sample.delivery 4 "event-4" (seconds 20))
      (Sample.delivery 4 "event-4-again" (seconds 40)) := ⟨rfl, rfl, rfl, .inl (by decide)⟩
  obtain ⟨err, refused⟩ := single Sample.db Sample.reachable _ res _ acc
    [Sample.delivery 5 "event-5" (seconds 30)] _ reuses
  obtain ⟨again, kept, _⟩ := committed_ok Sample.db
    (ingestRuntimeObservation Sample.settings (Sample.delivery 4 "event-4-again" (seconds 40))
      (run Sample.settings (committed Sample.db (ingestRuntimeObservation Sample.settings
        (Sample.delivery 4 "event-4" (seconds 20)) Sample.db))
        [.ingest (Sample.delivery 5 "event-5" (seconds 30))]))
    (·.outcome = .acceptedNonAdvanceSequence) (by decide +kernel)
  rw [List.map_cons, List.map_nil, kept] at refused
  cases refused

def HeadStands (req : IngestRequest) (db : Db) : Prop :=
  ∃ head, db.heads.get (req.environmentId, req.value.bootSessionId) = some head ∧
    head.highestSequence = req.value.sequence

def HeadPassed (req : IngestRequest) (db : Db) : Prop :=
  ∃ head, db.heads.get (req.environmentId, req.value.bootSessionId) = some head ∧
    req.value.sequence < head.highestSequence

/-- An accepted event keeps its sequence while the head stands where the acceptance left it, and, if
the inbox recorded it, for good once the head has gone beyond. -/
theorem sequence_single_assignment (cfg : Settings) (db : Db) (reached : Reachable cfg db)
    (req : IngestRequest) (res : RuntimeObservationIngestResult) (after : Db)
    (acc : ingestRuntimeObservation cfg req db = .ok (res, after)) (ops : List Operation)
    (again : IngestRequest) (reuses : Reuses cfg req again)
    (evidence : (∃ row ∈ after.inbox, Repeats cfg req row) ∧ HeadPassed req (run cfg after ops) ∨
      HeadStands req after ∧ HeadStands req (run cfg after ops)) :
    (∃ err, ingestRuntimeObservation cfg again (run cfg after ops) = .error err ∧
      (WithinCaptureWindow cfg again.receivedAt again.value.capturedAt →
        (∀ fence, (run cfg after ops).fences.get again.environmentId = some fence →
          fence.deploymentId = again.credentialDeploymentId) → Conflict err)) ∧
    apply cfg (run cfg after ops) (.ingest again) = run cfg after ops := by
  have afterReached : Reachable cfg after := by
    have step := reached.run [Operation.ingest req]
    rw [Transition.run_cons, Transition.run_nil, apply, acc] at step
    exact step
  have laterReached : Reachable cfg (run cfg after ops) := afterReached.run ops
  have kept : ∃ later, (run cfg after ops).heads.get (req.environmentId, req.value.bootSessionId) = some later ∧
      Arrived cfg req later ∧ ((∃ row ∈ (run cfg after ops).inbox, Repeats cfg req row) ∨
        later.highestSequence = req.value.sequence) := by
    rcases evidence with ⟨⟨row, mem, repeats⟩, later, found, passed⟩ | ⟨⟨head, hit, stood⟩, later, found, stands⟩
    · obtain ⟨stored, storedMember, same⟩ :=
        rowsKept_run (StreamBounds.reachable afterReached) ops row mem
      exact ⟨later, found, ⟨passed.le, fun same => absurd same passed.ne⟩, .inl ⟨stored, storedMember, repeats.kept same⟩⟩
    · obtain ⟨moved, movedMember, forward⟩ := HeadsForward.run cfg after ops head (get_eq_some.mp hit).1
      have key := forward.key.trans ((get_eq_some.mp hit).2.trans (get_eq_some.mp found).2.symm)
      obtain rfl := eq_of_key movedMember (get_eq_some.mp found).1 key
      exact ⟨moved, found, (accepted_arrived acc hit stood.ge).forward forward, .inr stands⟩
  obtain ⟨later, found, arrived, kept⟩ := kept
  obtain ⟨err, refused⟩ := reuse_refused (SequencesUnique.reachable laterReached) reuses found arrived kept
  refine ⟨⟨err, refused, fun window cred => ingest_conflict refused window cred⟩, ?_⟩
  simp [apply, committed, refused]

theorem heartbeat_single_assignment : ∃ res after, ingestRuntimeObservation Sample.settings
        (Sample.delivery 4 "event-4" (seconds 20)) Sample.db = .ok (res, after) ∧
      ∃ err, ingestRuntimeObservation Sample.settings
        (Sample.delivery 4 "event-4-again" (seconds 40)) after = .error err := by
  obtain ⟨res, acc, _⟩ := committed_ok Sample.db
    (ingestRuntimeObservation Sample.settings (Sample.delivery 4 "event-4" (seconds 20)) Sample.db)
    (·.outcome = .acceptedHeadAdvanced) (by decide +kernel)
  have standing : ((committed Sample.db (ingestRuntimeObservation Sample.settings
      (Sample.delivery 4 "event-4" (seconds 20)) Sample.db)).heads.get
        ("env-1", Sample.session)).any (·.highestSequence = 4) = true := by decide +kernel
  generalize committed Sample.db (ingestRuntimeObservation Sample.settings
    (Sample.delivery 4 "event-4" (seconds 20)) Sample.db) = after at acc standing
  obtain ⟨head, hit, stands⟩ := (Option.any_eq_true _ _).mp standing
  rw [decide_eq_true_eq] at stands
  have reuses : Reuses Sample.settings (Sample.delivery 4 "event-4" (seconds 20))
      (Sample.delivery 4 "event-4-again" (seconds 40)) := ⟨rfl, rfl, rfl, .inl (by decide)⟩
  have standing : HeadStands (Sample.delivery 4 "event-4" (seconds 20)) after := ⟨head, hit, stands⟩
  obtain ⟨err, refused, _⟩ := (sequence_single_assignment Sample.settings Sample.db
    Sample.reachable (Sample.delivery 4 "event-4" (seconds 20)) res after acc [] _ reuses
    (.inr ⟨standing, standing⟩)).1
  exact ⟨res, after, acc, err, refused⟩

end Clawdi.Observation
