import Mathlib.Data.List.TakeWhile
import Clawdi.Lib.Outcome
import Clawdi.Lib.Paging
import Clawdi.Observation.StreamInvariant

namespace Clawdi.Observation
open Sample Paging List Table

def matchesIdentity (exp : RuntimeApplyIdentity) (row : V2RuntimeObservationInbox) : Bool :=
  decide (row.identity = exp)

variable {exp : RuntimeApplyIdentity} {start : Nat}

lemma matchingPrefix_grows : ∀ (evs hit : List V2RuntimeObservationInbox), hit ≠ [] →
      matchingPrefix exp start evs hit start = (hit ++ evs.takeWhile (matchesIdentity exp), start) := by
  intro evs
  induction evs with
  | nil => simp [matchingPrefix]
  | cons ev evs ih =>
    intro hit started
    unfold matchingPrefix
    by_cases same : ev.identity = exp
    · rw [if_neg (not_not.mpr same), if_neg (not_not.mpr rfl), ih _ (by simp)]
      simp [matchesIdentity, same]
    · rw [if_pos same, if_pos started]
      simp [matchesIdentity, same]

lemma matchingPrefix_skips : ∀ (evs : List V2RuntimeObservationInbox) (skipped : Nat), skipped ≠ start →
      (∀ ev ∈ evs, ev.id ≠ start) → matchingPrefix exp start evs [] skipped =
        ([], resume (·.id) skipped (evs.takeWhile fun row => !matchesIdentity exp row)) := by
  intro evs
  induction evs with
  | nil => intro skipped _ _; rfl
  | cons ev evs ih =>
    intro skipped moved later
    unfold matchingPrefix
    by_cases same : ev.identity = exp
    · rw [if_neg (not_not.mpr same), if_pos moved]
      simp [matchesIdentity, same]
    · rw [if_pos same, if_neg (not_not.mpr rfl), ih ev.id (later ev mem_cons_self)
        fun alt mem => later alt (mem_cons_of_mem _ mem)]
      simp [matchesIdentity, same, resume, List.getLast?_cons]

lemma page_consumes {limit : Nat} {rows hit} {skipped : Nat}
    (positive : 1 ≤ limit) (later : ∀ row ∈ rows, start < row.id)
    (scanned : matchingPrefix exp start (rows.take (limit + 1)) [] start = (hit, skipped)) :
    ∃ consumed left, rows = consumed ++ left ∧ (consumed = [] → left = []) ∧
      hit.take limit = consumed.filter (matchesIdentity exp) ∧
      ((hit.take limit).getLast?.map (·.id)).getD skipped = resume (·.id) start consumed := by
  cases rows with
  | nil =>
    cases scanned
    exact ⟨[], [], rfl, fun _ => rfl, by simp, by simp⟩
  | cons row rows =>
    have beyond : ∀ ev ∈ rows.take limit, ev.id ≠ start := by
      intro ev mem
      have ahead := later ev (mem_cons_of_mem _ (mem_of_mem_take mem))
      omega
    rw [take_succ_cons] at scanned
    unfold matchingPrefix at scanned
    by_cases same : row.identity = exp
    · rw [if_neg (not_not.mpr same), if_neg (not_not.mpr rfl), nil_append,
        matchingPrefix_grows _ _ (cons_ne_nil _ _)] at scanned
      cases scanned
      have starts : [row] ++ (rows.take limit).takeWhile (matchesIdentity exp) <+: row :: rows := by
        rw [singleton_append, cons_prefix_cons]
        exact ⟨rfl, (List.takeWhile_prefix _).trans (List.take_prefix _ _)⟩
      obtain ⟨left, parts⟩ := (List.take_prefix limit _).trans starts
      have matching : ∀ ev ∈ ([row] ++ (rows.take limit).takeWhile (matchesIdentity exp)).take
          limit, matchesIdentity exp ev = true := by
        intro ev mem
        rcases mem_cons.mp (mem_of_mem_take mem) with rfl | mem
        · exact decide_eq_true same
        · exact mem_takeWhile_imp mem
      refine ⟨_, left, parts.symm, fun nothing => ?_, (filter_eq_self.mpr matching).symm, rfl⟩
      obtain ⟨n, rfl⟩ : ∃ n, limit = n + 1 := ⟨limit - 1, by omega⟩
      cases nothing
    · rw [if_pos same, if_neg (not_not.mpr rfl), matchingPrefix_skips _ _
        (by have ahead := later row mem_cons_self; omega) beyond] at scanned
      cases scanned
      have starts : row :: (rows.take limit).takeWhile (fun alt => !matchesIdentity exp alt) <+:
          row :: rows := by
        rw [cons_prefix_cons]
        exact ⟨rfl, (List.takeWhile_prefix _).trans (List.take_prefix _ _)⟩
      obtain ⟨left, parts⟩ := starts
      have differing : ∀ ev ∈ row :: (rows.take limit).takeWhile
          (fun alt => !matchesIdentity exp alt), ¬ matchesIdentity exp ev = true := by
        intro ev mem
        rcases mem_cons.mp mem with rfl | mem
        · simpa [matchesIdentity] using same
        · simpa using mem_takeWhile_imp mem
      refine ⟨_, left, parts.symm, fun nothing => absurd nothing (cons_ne_nil _ _), ?_, ?_⟩
      · rw [filter_eq_nil_iff.mpr differing, take_nil]
      · simp [resume, List.getLast?_cons]

variable {envId : Uuid} {material : String} {highWater : Nat}

lemma streamRows_mem {after : Nat} {db row} : row ∈ streamRows envId after highWater db ↔
      row ∈ db.inbox ∧ row.environmentId = envId ∧ after < row.id ∧ row.id ≤ highWater := by
  simp [streamRows, mem_select]

lemma streamRows_ascending (envId : Uuid) (after highWater : Nat) (db : Db) :
    (streamRows envId after highWater db).Pairwise fun a b => a.id < b.id :=
  select_strict fun _ memberA _ memberB _ _ same => eq_of_key memberA memberB same

lemma streamRows_resume {after : Nat} {db consumed left}
    (parts : streamRows envId after highWater db = consumed ++ left) :
    streamRows envId (resume (·.id) after consumed) highWater db = left := by
  have ordered := streamRows_ascending envId after highWater db
  have later : ∀ row ∈ consumed ++ left, after < row.id := fun row mem =>
    (streamRows_mem.mp (parts ▸ mem)).2.2.1
  have ahead : after ≤ resume V2RuntimeObservationInbox.id after consumed :=
    le_resume fun row mem => later row (mem_append_left _ mem)
  have narrowed : (streamRows envId after highWater db).filter (fun row => resume (·.id) after consumed < row.id) =
      streamRows envId (resume (·.id) after consumed) highWater db := by
    refine select_filter (fun a memberA b memberB same =>
      eq_of_key memberA memberB same) fun row _ => ?_
    rw [← Bool.decide_and]
    refine decide_eq_decide.mpr ⟨fun ⟨⟨own, _, below⟩, beyond⟩ => ⟨own, beyond, below⟩,
      fun ⟨own, beyond, below⟩ => ⟨⟨own, ?_, below⟩, beyond⟩⟩
    exact lt_of_le_of_lt ahead beyond
  rw [← narrowed, parts]
  rw [parts] at ordered
  exact filter_resume ordered later

lemma mapM_ok {α β : Type} {f : α → Except Failure β} {g : α → β} {items : List α}
    (each : ∀ item ∈ items, f item = .ok (g item)) : items.mapM f = .ok (items.map g) :=
  mapM_eq_ok.mpr (forall₂_map_right_iff.mpr (forall₂_same.mpr each))

def servedEvent (binding : ConsumerBinding) (cursorEpoch : Uuid) (ev : V2RuntimeObservationInbox) : EventPayload where
  runtimeIdentity := (ev.identity, ev.bootSessionId)
  sequence := ev.sequence
  capturedAt := ev.capturedAt
  receivedAt := ev.receivedAt
  freshnessDeadline := ev.freshnessDeadline
  evidenceReference := ⟨ev.eventId, .authentic ⟨binding.environmentId, binding.consumerId, cursorEpoch, ev.id⟩⟩
  payloadHash := ev.payloadHash
  health := ev.health
  diagnostics := ev.diagnostics

lemma eventPayload_within {settings} (key : cursorKeyMaterial settings = .ok material)
    (binding : ConsumerBinding) (cursorEpoch : Uuid) {ev : V2RuntimeObservationInbox}
    (bound : ev.id ≤ maxSafeInteger) :
    eventPayload settings binding cursorEpoch ev = .ok (servedEvent binding cursorEpoch ev) := by
  simp [eventPayload, evidenceReference, encode_within key _ _ _ bound, servedEvent,
    Bind.bind, Except.bind, Pure.pure, Except.pure]

lemma headPayload_within {settings} (key : cursorKeyMaterial settings = .ok material)
    (binding : ConsumerBinding) (cursorEpoch : Uuid) (page : List EventPayload)
    {head : V2RuntimeObservationHead} (bound : head.latestStreamPosition ≤ maxSafeInteger) :
    ∃ payload, headPayload settings binding cursorEpoch page head = .ok payload := by
  unfold headPayload
  cases page.find? (fun ev => ev.evidenceReference.eventId = head.latestEventId) with
  | some ev => exact ⟨_, rfl⟩
  | none => simp [evidenceReference, encode_within key _ _ _ bound, Bind.bind, Except.bind, Pure.pure, Except.pure]

structure ReadsAt (settings : Settings) (req : ReadRequest) (fence : V2RuntimeEnvironmentFence)
    (cursor : V2RuntimeObservationConsumerCursor) (pos : Nat) (db : Db) : Prop where
  bound : boundFence req.binding db = .ok fence
  stored : db.cursors.get (req.binding.environmentId, req.binding.consumerId) = some cursor
  active : cursor.state = .active
  named : req.binding.consumerId ≠ ""
  boundary : ∀ boundary, cursor.expiry = some boundary → boundary.streamPosition ≤ pos
  floor : fence.replayFloorStreamPosition ≤ pos
  highWater : pos ≤ fence.streamHighWater
  encodable : fence.streamHighWater ≤ maxSafeInteger
  key : ∃ material, cursorKeyMaterial settings = .ok material

def cursorAt (req : ReadRequest) (cursor : V2RuntimeObservationConsumerCursor) (pos : Nat) : OpaqueCursor :=
  .authentic ⟨req.binding.environmentId, req.binding.consumerId, cursor.cursorEpoch, pos⟩

section
variable {settings : Settings} {req : ReadRequest} {fence : V2RuntimeEnvironmentFence}
  {cursor : V2RuntimeObservationConsumerCursor} {db : Db}

variable {pos : Nat} {resp : ReadResponse}

lemma readPage_highWater (served : readPage settings req fence cursor pos db = .ok resp) :
    fence.streamHighWater ≤ maxSafeInteger := by
  unfold readPage at served
  simp only [Bind.bind, Except.bind, Pure.pure, Except.pure] at served
  split at served
  · cases served
  split at served
  · cases served
  split at served
  · cases served
  rename_i enc
  exact (encode_eq enc).2.1

lemma read_accepted {now epoch afterCursor}
    (acc : readRuntimeObservations settings now epoch req afterCursor db = .ok resp) :
    ∃ fence cursor pos, ReadsAt settings req fence cursor pos db ∧ afterCursor = cursorAt req cursor pos := by
  obtain ⟨fence, lifted, rest⟩ := except_bind_ok acc
  have bound := liftFailure_ok lifted
  cases was : db.cursors.get (req.binding.environmentId, req.binding.consumerId) with
  | none =>
    simp only [was] at rest
    exact absurd rest raiseExpired_ne_ok
  | some cursor =>
    simp only [was] at rest
    obtain ⟨dec, valid, rest⟩ := except_bind_ok rest
    obtain ⟨active, decodes, environment, consumer, own, boundary⟩ := validate_active (validateOrExpire_ok valid)
    obtain ⟨authentic, _, named, key⟩ := decode_eq decodes
    split at rest
    · exact absurd rest raiseExpired_ne_ok
    split at rest
    · exact absurd rest raiseExpired_ne_ok
    refine ⟨fence, cursor, dec.streamPosition, ⟨bound, was, active, consumer ▸ named,
      boundary, by omega, by omega, readPage_highWater (liftFailure_ok rest), key⟩, ?_⟩
    rw [authentic, cursorAt, ← environment, ← consumer, ← own]

section
variable (reads : ReadsAt settings req fence cursor pos db)
include reads

lemma ReadsAt.later {later : Nat} (ahead : pos ≤ later) (below : later ≤ fence.streamHighWater) :
    ReadsAt settings req fence cursor later db :=
  { reads with
    boundary := fun boundary expiry => le_trans (reads.boundary boundary expiry) ahead
    floor := le_trans reads.floor ahead
    highWater := below }

lemma ReadsAt.validates : validateCursorForConsumer settings (cursorAt req cursor pos)
      req.binding.environmentId req.binding.consumerId cursor =
        .ok ⟨req.binding.environmentId, req.binding.consumerId, cursor.cursorEpoch, pos⟩ := by
  obtain ⟨material, key⟩ := reads.key
  have decodes : decodeRuntimeObservationCursor settings (cursorAt req cursor pos) =
      .ok ⟨req.binding.environmentId, req.binding.consumerId, cursor.cursorEpoch,
        pos⟩ :=
    decode_authentic key (le_trans reads.highWater reads.encodable) reads.named
  have boundary := reads.boundary
  unfold validateCursorForConsumer
  simp only [reads.active, decodes]
  cases expiry : cursor.expiry with
  | none => simp
  | some bound => simp [boundary bound expiry]

lemma ReadsAt.read (now : Time) (epoch : Uuid) :
    readRuntimeObservations settings now epoch req (cursorAt req cursor pos) db =
      liftFailure (readPage settings req fence cursor pos db) := by
  have below : ¬ pos < fence.replayFloorStreamPosition := by
    have floor := reads.floor
    omega
  have within : ¬ fence.streamHighWater < pos := by
    have highWater := reads.highWater
    omega
  have validates : ∀ expire, validateOrExpire settings (cursorAt req cursor pos)
      req.binding.environmentId req.binding.consumerId cursor expire =
        .ok ⟨req.binding.environmentId, req.binding.consumerId, cursor.cursorEpoch,
          pos⟩ := by
    intro expire
    simp [validateOrExpire, reads.validates]
  simp only [readRuntimeObservations, reads.bound, reads.stored, validates, Bind.bind, Except.bind,
    liftFailure, Except.mapError, if_neg below, if_neg within]

lemma ReadsAt.page (bounds : StreamBounds db) (positive : 1 ≤ req.limit) : ∃ consumed left resp,
      streamRows req.binding.environmentId pos fence.streamHighWater db = consumed ++ left ∧
      (consumed = [] → left = []) ∧ readPage settings req fence cursor pos db = .ok resp ∧
      resp.events = (consumed.filter (matchesIdentity req.expectedApplyIdentity)).map
        (servedEvent req.binding cursor.cursorEpoch) ∧
      resp.nextCursor = cursorAt req cursor (resume (·.id) pos consumed) := by
  obtain ⟨material, key⟩ := reads.key
  have mems : ∀ row ∈ streamRows req.binding.environmentId pos fence.streamHighWater db,
      pos < row.id ∧ row.id ≤ fence.streamHighWater :=
    fun row mem => (streamRows_mem.mp mem).2.2
  cases scanned : matchingPrefix req.expectedApplyIdentity pos
    ((streamRows req.binding.environmentId pos fence.streamHighWater db).take
      (req.limit + 1)) [] pos with
  | mk hit skipped =>
    obtain ⟨consumed, left, parts, exhausted, page, next⟩ :=
      page_consumes positive (fun row mem => (mems row mem).1) scanned
    have within : ∀ row ∈ consumed, row.id ≤ fence.streamHighWater := fun row mem =>
      (mems row (parts ▸ mem_append_left _ mem)).2
    have nextWithin := le_trans (resume_le reads.highWater within) reads.encodable
    have evs : (consumed.filter (matchesIdentity req.expectedApplyIdentity)).mapM
        (eventPayload settings req.binding cursor.cursorEpoch) =
        .ok ((consumed.filter (matchesIdentity req.expectedApplyIdentity)).map
          (servedEvent req.binding cursor.cursorEpoch)) :=
      mapM_ok fun row mem => eventPayload_within key _ _
        (le_trans (within row (mem_of_mem_filter mem)) reads.encodable)
    have headsServed : ∃ heads,
        ((environmentHeads req.binding.environmentId db).filter fun head =>
          head.isActive && decide (head.identity = req.expectedApplyIdentity)).mapM
        (headPayload settings req.binding cursor.cursorEpoch
          ((consumed.filter (matchesIdentity req.expectedApplyIdentity)).map
            (servedEvent req.binding cursor.cursorEpoch))) = .ok heads := by
      refine (exists_forall₂ fun head mem => ?_).imp fun _ => mapM_eq_ok.mpr
      have listed := mem_select.mp (mem_of_mem_filter mem)
      obtain ⟨own, hit, bound⟩ := bounds.heads head listed.1
      rw [of_decide_eq_true listed.2, boundFence_eq reads.bound] at hit
      cases hit
      exact headPayload_within key _ _ _ (le_trans bound reads.encodable)
    obtain ⟨heads, headsServed⟩ := headsServed
    rw [page] at next
    have highWater := encode_within key req.binding.environmentId cursor.cursorEpoch
      req.binding.consumerId reads.encodable
    have following := encode_within key req.binding.environmentId cursor.cursorEpoch req.binding.consumerId nextWithin
    have ans : ∃ resp, readPage settings req fence cursor pos db = .ok resp ∧
        resp.events = (consumed.filter (matchesIdentity req.expectedApplyIdentity)).map
          (servedEvent req.binding cursor.cursorEpoch) ∧
        resp.nextCursor = cursorAt req cursor (resume (·.id) pos consumed) := by
      unfold readPage
      simp only [scanned, page, next, evs, headsServed, highWater, following, Bind.bind,
        Except.bind, Pure.pure, Except.pure]
      exact ⟨_, rfl, rfl, rfl⟩
    obtain ⟨resp, served, answered, continued⟩ := ans
    exact ⟨consumed, left, resp, parts, exhausted, served, answered, continued⟩

end

def fetchPage (settings : Settings) (now : Time) (epoch : Uuid) (req : ReadRequest) (db : Db)
    (afterCursor : OpaqueCursor) : Option (List EventPayload × OpaqueCursor) :=
  match readRuntimeObservations settings now epoch req afterCursor db with
  | .ok resp => some (resp.events, resp.nextCursor)
  | .error _ => none

lemma ReadsAt.serves (reads : ReadsAt settings req fence cursor pos db)
    (bounds : StreamBounds db) (positive : 1 ≤ req.limit) (now : Time) (epoch : Uuid) :
    Serves (fetchPage settings now epoch req db) (cursorAt req cursor) V2RuntimeObservationInbox.id
      (fun here => streamRows req.binding.environmentId here fence.streamHighWater db)
      (matchesIdentity req.expectedApplyIdentity)
      (servedEvent req.binding cursor.cursorEpoch) pos fence.streamHighWater := by
  refine ⟨fun here row mem => (streamRows_mem.mp mem).2.2, fun here there same => ?_, fun here ahead below => ?_⟩
  · exact congrArg (·.streamPosition) (OpaqueCursor.authentic.inj same)
  · have cur := reads.later ahead below
    obtain ⟨consumed, left, resp, parts, exhausted, served, evs, next⟩ := cur.page bounds positive
    refine ⟨consumed, left, parts, streamRows_resume parts, exhausted, ?_⟩
    unfold fetchPage
    rw [cur.read, served]
    simp only [liftFailure, Except.mapError, evs, next]

end

/-- Reading on from an accepted cursor ends, and its pages together are the matching rows of the
environment behind that cursor, in stream order, each once and none purged. -/
theorem read_to_the_end (settings : Settings) (db : Db) (reached : Reachable settings db)
    (now : Time) (epoch : Uuid) (req : ReadRequest) (positive : 1 ≤ req.limit)
    (afterCursor : OpaqueCursor) (resp : ReadResponse)
    (acc : readRuntimeObservations settings now epoch req afterCursor db = .ok resp) :
    ∃ fence claims, db.fences.get req.binding.environmentId = some fence ∧
      afterCursor = .authentic claims ∧ ∃ rows : List V2RuntimeObservationInbox,
        rows.Pairwise (fun a b => a.id < b.id) ∧ (∀ row, row ∈ rows ↔ row ∈ db.inbox ∧
          row.environmentId = req.binding.environmentId ∧ claims.streamPosition < row.id ∧
          row.id ≤ fence.streamHighWater ∧ row.identity = req.expectedApplyIdentity) ∧
        (∀ row ∈ rows, row.payloadPurgedAt = none) ∧ ∃ reads, ∀ fuel, reads ≤ fuel →
          drain (fetchPage settings now epoch req db) fuel afterCursor =
            some (rows.map (servedEvent req.binding claims.cursorEpoch)) := by
  have bounds := StreamBounds.reachable reached
  obtain ⟨fence, cursor, pos, reads, rfl⟩ := read_accepted acc
  have was := boundFence_eq reads.bound
  have mems : ∀ row, row ∈ (streamRows req.binding.environmentId pos
      fence.streamHighWater db).filter (matchesIdentity req.expectedApplyIdentity) ↔
      row ∈ db.inbox ∧ row.environmentId = req.binding.environmentId ∧ pos < row.id ∧
        row.id ≤ fence.streamHighWater ∧ row.identity = req.expectedApplyIdentity := by
    intro row
    rw [mem_filter, streamRows_mem]
    simp only [matchesIdentity, decide_eq_true_eq, and_assoc]
  refine ⟨fence, _, was, rfl, _, (streamRows_ascending _ _ _ _).filter _, mems, ?_, _,
    fun fuel enough => drain_complete (reads.serves bounds positive now epoch) fuel pos le_rfl
      reads.highWater (Nat.lt_of_succ_le enough)⟩
  intro row mem
  obtain ⟨inside, own, ahead, _, _⟩ := (mems row).mp mem
  obtain ⟨known, hit, within⟩ := bounds.rows row inside
  rw [own, was] at hit
  cases hit
  by_contra purged
  have below := within.purged purged
  have floor := reads.floor
  omega

def sampleRead : ReadRequest := ⟨binding, ⟨1, "etag-1", "receipt-1", "nonce-1"⟩, 1⟩

theorem controller_reads_to_the_end :
    ∃ rows : List V2RuntimeObservationInbox, (∀ row ∈ rows, row.payloadPurgedAt = none) ∧
      ∃ reads, drain (fetchPage settings 0 "epoch-2" sampleRead db) reads
        (.authentic ⟨"env-1", "controller", "epoch-1", 0⟩) = some (rows.map (servedEvent binding "epoch-1")) := by
  have acc : ∃ resp, readRuntimeObservations settings 0 "epoch-2" sampleRead
      (.authentic ⟨"env-1", "controller", "epoch-1", 0⟩) db = .ok resp := by
    have served : (readRuntimeObservations settings 0 "epoch-2" sampleRead
      (.authentic ⟨"env-1", "controller", "epoch-1", 0⟩) db).isOk = true := by decide +kernel
    cases ans : readRuntimeObservations settings 0 "epoch-2" sampleRead
      (.authentic ⟨"env-1", "controller", "epoch-1", 0⟩) db with
    | error rejection =>
      rw [ans] at served
      cases served
    | ok resp => exact ⟨resp, rfl⟩
  obtain ⟨resp, served⟩ := acc
  obtain ⟨fence, claims, _, same, rows, _, _, intact, reads, drained⟩ :=
    read_to_the_end settings db reachable 0 "epoch-2" sampleRead (by decide) _
      resp served
  cases same
  exact ⟨rows, intact, reads, drained reads le_rfl⟩

end Clawdi.Observation
