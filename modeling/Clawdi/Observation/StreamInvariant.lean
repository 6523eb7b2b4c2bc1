import Clawdi.Observation.Frame

namespace Clawdi.Observation
open Sample Table Nat

structure CursorWithin (fence : V2RuntimeEnvironmentFence)
    (cursor : V2RuntimeObservationConsumerCursor) : Prop where
  required : cursor.required = true
  acked : cursor.ackedStreamPosition ≤ fence.streamHighWater
  active : cursor.state = .active → fence.replayFloorStreamPosition ≤ cursor.ackedStreamPosition
  expired : ∀ expiredAt, cursor.state = .expired expiredAt → ∃ boundary,
    cursor.expiry = some boundary ∧ fence.replayFloorStreamPosition ≤ boundary.streamPosition ∧
      cursor.ackedStreamPosition ≤ boundary.streamPosition ∧
      boundary.streamPosition ≤ fence.streamHighWater

structure RowWithin (fence : V2RuntimeEnvironmentFence) (row : V2RuntimeObservationInbox) :
    Prop where
  positive : 0 < row.id
  stored : row.id ≤ fence.streamHighWater
  purged : row.payloadPurgedAt ≠ none → row.id ≤ fence.replayFloorStreamPosition

structure StreamBounds (db : Db) : Prop where
  fences : ∀ fence ∈ db.fences, fence.replayFloorStreamPosition ≤ fence.streamHighWater ∧
    fence.streamHighWater ≤ db.inboxSequence
  rows : ∀ row ∈ db.inbox, ∃ fence, db.fences.get row.environmentId = some fence ∧ RowWithin fence row
  cursors : ∀ cursor ∈ db.cursors, ∃ fence, db.fences.get cursor.environmentId = some fence ∧
    CursorWithin fence cursor
  heads : ∀ head ∈ db.heads, ∃ fence, db.fences.get head.environmentId = some fence ∧
    head.latestStreamPosition ≤ fence.streamHighWater

def FencesGrow (pre after : Table V2RuntimeEnvironmentFence.environmentId) : Prop :=
  ∀ envId fence, pre.get envId = some fence → ∃ grown, after.get envId = some grown ∧
      fence.streamHighWater ≤ grown.streamHighWater ∧
      grown.replayFloorStreamPosition = fence.replayFloorStreamPosition

variable {grown : V2RuntimeEnvironmentFence}

lemma FencesGrow.put {fences : Table V2RuntimeEnvironmentFence.environmentId}
    (highWater : ∀ fence, fences.get grown.environmentId = some fence →
      fence.streamHighWater ≤ grown.streamHighWater ∧ grown.replayFloorStreamPosition =
        fence.replayFloorStreamPosition) : FencesGrow fences (fences.put grown) := by
  intro envId fence hit
  by_cases same : grown.environmentId = envId
  · subst same
    exact ⟨grown, get_put_self _ _, highWater fence hit⟩
  · exact ⟨fence, (get_put_of_ne _ same).trans hit, le_rfl, rfl⟩

lemma RowWithin.grow {fence row}
    (within : RowWithin fence row) (highWater : fence.streamHighWater ≤ grown.streamHighWater)
    (floor : grown.replayFloorStreamPosition = fence.replayFloorStreamPosition) : RowWithin grown row :=
  ⟨within.positive, le_trans within.stored highWater, fun purged => floor ▸ within.purged purged⟩

lemma CursorWithin.grow {fence cursor} (within : CursorWithin fence cursor)
    (highWater : fence.streamHighWater ≤ grown.streamHighWater)
    (floor : grown.replayFloorStreamPosition = fence.replayFloorStreamPosition) : CursorWithin grown cursor := by
  refine ⟨within.required, le_trans within.acked highWater, fun active => floor ▸ within.active active,
    fun expiredAt expired => ?_⟩
  obtain ⟨boundary, expiry, above, acked, below⟩ := within.expired expiredAt expired
  exact ⟨boundary, expiry, floor ▸ above, acked, le_trans below highWater⟩

namespace StreamBounds
variable {db : Db}

lemma rows_grow (bounds : StreamBounds db) {fences} (grows : FencesGrow db.fences fences) :
    ∀ row ∈ db.inbox, ∃ fence, fences.get row.environmentId = some fence ∧ RowWithin fence row := by
  intro row member
  obtain ⟨fence, hit, within⟩ := bounds.rows row member
  obtain ⟨grown, was, highWater, floor⟩ := grows _ _ hit
  exact ⟨grown, was, within.grow highWater floor⟩

lemma cursors_grow (bounds : StreamBounds db) {fences} (grows : FencesGrow db.fences fences) :
    ∀ cursor ∈ db.cursors, ∃ fence, fences.get cursor.environmentId = some fence ∧ CursorWithin fence cursor := by
  intro cursor member
  obtain ⟨fence, hit, within⟩ := bounds.cursors cursor member
  obtain ⟨grown, was, highWater, floor⟩ := grows _ _ hit
  exact ⟨grown, was, within.grow highWater floor⟩

lemma heads_grow (bounds : StreamBounds db) {fences} (grows : FencesGrow db.fences fences) :
    ∀ head ∈ db.heads, ∃ fence, fences.get head.environmentId = some fence ∧
      head.latestStreamPosition ≤ fence.streamHighWater := by
  intro head member
  obtain ⟨fence, hit, pos⟩ := bounds.heads head member
  obtain ⟨grown, was, highWater, _⟩ := grows _ _ hit
  exact ⟨grown, was, le_trans pos highWater⟩

lemma fences_put (bounds : StreamBounds db) {grown : V2RuntimeEnvironmentFence} {seq : Nat}
    (later : db.inboxSequence ≤ seq)
    (within : grown.replayFloorStreamPosition ≤ grown.streamHighWater ∧ grown.streamHighWater ≤ seq) :
    ∀ fence ∈ db.fences.put grown, fence.replayFloorStreamPosition ≤ fence.streamHighWater ∧
      fence.streamHighWater ≤ seq := by
  intro fence member
  rcases mem_put.mp member with rfl | ⟨member, _⟩
  · exact within
  · have bound := bounds.fences fence member
    exact ⟨bound.1, le_trans bound.2 later⟩

end StreamBounds

lemma ConsumerStep.within {fence pre cursor} (step : ConsumerStep fence pre cursor)
    (bound : fence.replayFloorStreamPosition ≤ fence.streamHighWater)
    (was : ∀ old, pre = some old → CursorWithin fence old) : CursorWithin fence cursor := by
  cases step with
  | registered _ complete required active acked =>
    refine ⟨required, by omega, fun _ => by omega, fun expiredAt expired => ?_⟩
    rw [active] at expired
    cases expired
  | initialized _ boundary expiredAt required expired acked expiry pos =>
    refine ⟨required, by omega, fun active => ?_, fun _ _ => ⟨boundary, expiry, by omega, by omega, by omega⟩⟩
    rw [expired] at active
    cases active
  | expired old boundary now active pos =>
    have within := was old rfl
    have acked := within.acked
    refine ⟨within.required, acked, fun impossible => (by cases impossible), fun _ _ => ?_⟩
    exact ⟨boundary, rfl, by omega, le_trans acked (le_of_eq pos.symm), by omega⟩
  | acknowledged old pos opaqueCursor now active forward below =>
    have within := was old rfl
    refine ⟨within.required, below, fun active => le_trans (within.active active) forward,
      fun expiredAt expired => ?_⟩
    rw [show old.state = .expired expiredAt from expired] at active
    cases active
  | reset old boundary expiredAt now epoch opaqueCursor expired expiry =>
    have within := was old rfl
    obtain ⟨_, same, above, _, below⟩ := within.expired expiredAt expired
    rw [expiry] at same
    cases same
    refine ⟨within.required, below, fun _ => above, fun _ impossible => ?_⟩
    cases impossible

namespace StreamBounds
variable {settings : Settings} {db : Db}

lemma empty : StreamBounds Db.empty :=
  ⟨fun _ member => absurd member (not_mem_empty _), fun _ member => absurd member (not_mem_empty _),
    fun _ member => absurd member (not_mem_empty _),
    fun _ member => absurd member (not_mem_empty _)⟩

section
variable (bounds : StreamBounds db)
include bounds

lemma skip : StreamBounds { db with inboxSequence := db.inboxSequence + 1 } := by
  refine ⟨fun fence member => ?_, bounds.rows, bounds.cursors, bounds.heads⟩
  have bound := bounds.fences fence member
  exact ⟨bound.1, le_trans bound.2 (le_succ _)⟩

lemma provision {fence : V2RuntimeEnvironmentFence}
    (fresh : db.fences.get fence.environmentId = none) (highWater : fence.streamHighWater = 0)
    (floor : fence.replayFloorStreamPosition = 0) : StreamBounds { db with fences := db.fences.put fence } := by
  have grows : FencesGrow db.fences (db.fences.put fence) := .put fun old hit => by rw [fresh] at hit; cases hit
  exact ⟨bounds.fences_put le_rfl ⟨by omega, by omega⟩, bounds.rows_grow grows,
    bounds.cursors_grow grows, bounds.heads_grow grows⟩

lemma consumer {after} (change : ConsumerChange db after) : StreamBounds after := by
  cases change with
  | unchanged => exact bounds
  | written fence cursor bound step =>
    refine ⟨bounds.fences, bounds.rows, fun alt member => ?_, bounds.heads⟩
    rcases mem_put.mp member with rfl | ⟨member, _⟩
    · refine ⟨fence, bound, step.within (bounds.fences fence (get_eq_some.mp bound).1).1 fun old was => ?_⟩
      have row := get_eq_some.mp was
      obtain ⟨same, hit, within⟩ := bounds.cursors old row.1
      have environment : old.environmentId = alt.environmentId := congrArg Prod.fst row.2
      rw [environment, bound] at hit
      cases hit
      exact within
    · exact bounds.cursors alt member

lemma stored_grows {req fence} (admitted : Admitted settings req fence db) : FencesGrow db.fences
      (db.fences.put { fence with streamHighWater := (nextRow settings req fence db).id }) := by
  refine .put fun old hit => ?_
  have was := admitted.stored
  rw [← (get_eq_some.mp admitted.stored).2] at was
  rw [show db.fences.get fence.environmentId = some old from hit] at was
  cases was
  exact ⟨le_trans (bounds.fences fence (get_eq_some.mp hit).1).2 (le_succ _), rfl⟩

lemma store {req fence} (admitted : Admitted settings req fence db) {heads} (origin : ∀ head ∈ heads,
      (∃ old ∈ db.heads, old.environmentId = head.environmentId ∧ head.latestStreamPosition =
        old.latestStreamPosition) ∨
          (head.environmentId = req.environmentId ∧ head.latestStreamPosition = db.inboxSequence + 1)) :
    StreamBounds { storeRow (nextRow settings req fence db) fence db with heads := heads } := by
  have grows := bounds.stored_grows admitted
  have own := get_eq_some.mp admitted.stored
  have hit : (db.fences.put { fence with
        streamHighWater := (nextRow settings req fence db).id }).get req.environmentId =
      some { fence with streamHighWater := (nextRow settings req fence db).id } :=
    get_put_of_eq _ own.2
  have pre := bounds.fences fence own.1
  refine ⟨?_, ?_, bounds.cursors_grow grows, ?_⟩
  · exact bounds.fences_put (le_succ _) ⟨le_trans pre.1 (le_trans pre.2 (le_succ _)), le_rfl⟩
  · intro row member
    rcases mem_put.mp member with rfl | ⟨member, _⟩
    · exact ⟨_, hit, succ_pos _, le_rfl, fun purged => absurd rfl purged⟩
    · exact bounds.rows_grow grows row member
  · intro head member
    rcases origin head member with ⟨old, oldMember, environment, pos⟩ | ⟨environment, pos⟩
    · obtain ⟨grown, was, bound⟩ := bounds.heads_grow grows old oldMember
      exact ⟨grown, environment ▸ was, pos ▸ bound⟩
    · exact ⟨_, environment ▸ hit, le_of_eq pos⟩

lemma ingest {req fence res after} (admitted : Admitted settings req fence db)
    (ingested : Ingested settings req fence db res after) : StreamBounds after := by
  cases ingested with
  | replayedHead | replayedRow => exact bounds
  | coalesced head view hit goes coalesces =>
    refine ⟨bounds.fences, bounds.rows, bounds.cursors, fun alt member => ?_⟩
    rcases mem_put.mp member with rfl | ⟨member, _⟩
    · exact bounds.heads head (get_eq_some.mp hit).1
    · exact bounds.heads alt member
  | created pred absent unrecorded authorized =>
    refine bounds.store admitted fun head member => ?_
    rcases mem_put.mp member with rfl | ⟨member, _⟩
    · exact .inr ⟨rfl, rfl⟩
    · rcases mem_retirePredecessor member with member | ⟨old, same, rfl⟩
      · exact .inl ⟨head, member, rfl, rfl⟩
      · rcases authorizedPredecessor_cases authorized with ⟨none, _⟩ | ⟨known, some, _, hit, _⟩
        · rw [none] at same
          cases same
        · rw [some] at same
          cases same
          exact .inl ⟨_, (get_eq_some.mp hit).1, rfl, rfl⟩
  | recorded head view hit goes stays unrecorded =>
    refine bounds.store admitted fun alt member => ?_
    have was := get_eq_some.mp hit
    rcases mem_put.mp member with rfl | ⟨member, _⟩
    · by_cases ahead : Advances head view req.value
      · rw [recordOnHead_advances ahead]
        exact .inr ⟨congrArg Prod.fst was.2, rfl⟩
      · rw [recordOnHead_stays ahead]
        exact .inl ⟨head, was.1, rfl, rfl⟩
    · exact .inl ⟨alt, member, rfl, rfl⟩

lemma retire {now receiptId req fence finalCursor} (first : FirstRetirement req fence db) :
    StreamBounds (retiredDb now receiptId req fence finalCursor db) := by
  have own := get_eq_some.mp first.stored
  have grows : FencesGrow db.fences (retiredDb now receiptId req fence finalCursor db).fences := by
    refine .put fun old hit => ?_
    have was := first.stored
    rw [← own.2, show db.fences.get fence.environmentId = some old from hit] at was
    cases was
    exact ⟨le_rfl, rfl⟩
  refine ⟨bounds.fences_put le_rfl (bounds.fences fence own.1), bounds.rows_grow grows,
    bounds.cursors_grow grows, fun head member => ?_⟩
  obtain ⟨old, oldMember, rfl⟩ := mem_retireHeads.mp member
  obtain ⟨grown, was, bound⟩ := bounds.heads_grow grows old oldMember
  unfold retireActiveHead
  split <;> exact ⟨grown, was, bound⟩

end

variable {raised : V2RuntimeEnvironmentFence} {envId : Uuid} {pre : Option V2RuntimeObservationConsumerCursor}
variable {cursor : V2RuntimeObservationConsumerCursor}

lemma raised_get {fence} (was : db.fences.get envId = some fence) (key : raised.environmentId = envId)
    (highWater : raised.streamHighWater = fence.streamHighWater) {alt} {old} (hit : db.fences.get alt = some old) :
    ∃ grown, (db.fences.put raised).get alt = some grown ∧ grown.streamHighWater = old.streamHighWater ∧
      (alt = envId ∧ old = fence ∧ grown = raised ∨ alt ≠ envId ∧ grown = old) := by
  by_cases same : alt = envId
  · subst same
    rw [was] at hit
    cases hit
    exact ⟨raised, get_put_of_eq _ key, highWater, .inl ⟨rfl, rfl, rfl⟩⟩
  · refine ⟨old, ?_, rfl, .inr ⟨same, rfl⟩⟩
    exact (get_put_of_ne _ (fun own => same (own.symm.trans key))).trans hit

lemma consumerCompacted_within {fence : V2RuntimeEnvironmentFence} {purge : Nat} {after}
    (change : ConsumerCompacted envId purge pre after) (floor : raised.replayFloorStreamPosition = purge)
    (highWater : raised.streamHighWater = fence.streamHighWater)
    (below : purge ≤ fence.streamHighWater) (hit : after = some cursor) (own : cursor.environmentId = envId)
    (within : ∀ old, pre = some old → CursorWithin fence old) : CursorWithin raised cursor := by
  cases change with
  | kept row acknowledged =>
    have old := within cursor hit
    have acked := acknowledged cursor hit own old.required
    refine ⟨old.required, highWater ▸ old.acked, fun _ => floor ▸ acked, fun expiredAt expired => ?_⟩
    obtain ⟨boundary, expiry, _, ackedBelow, bound⟩ := old.expired expiredAt expired
    exact ⟨boundary, expiry, floor ▸ le_trans acked ackedBelow, ackedBelow, highWater ▸ bound⟩
  | expired old boundary now environment behind pos =>
    cases hit
    have known := within old rfl
    refine ⟨known.required, highWater ▸ known.acked, fun active => ?_, fun _ _ => ?_⟩
    · cases active
    · exact ⟨boundary, rfl, by omega, le_trans (le_of_lt behind) (le_of_eq pos.symm), by omega⟩

lemma consumerCompacted_elsewhere {purge : Nat} {after} (change : ConsumerCompacted envId purge pre after)
    (hit : after = some cursor) (alt : cursor.environmentId ≠ envId) : pre = some cursor := by
  cases change with
  | kept row acknowledged => exact hit
  | expired old boundary now environment behind pos =>
    cases hit
    exact absurd environment alt

lemma compact (bounds : StreamBounds db) {cur after}
    (compacted : Compacted settings cur envId db after) : StreamBounds after := by
  cases compacted with
  | idle => exact bounds
  | purged fence rows purge cursors was each last consumers =>
    obtain ⟨own, fenceKey⟩ := get_eq_some.mp was
    obtain ⟨lastRow, lastMember, lastId⟩ := last
    have lastPurged := each lastRow lastMember
    have above : fence.replayFloorStreamPosition < purge := lastId ▸ lastPurged.aboveFloor
    have below : purge ≤ fence.streamHighWater := by
      obtain ⟨same, hit, within⟩ := bounds.rows lastRow lastPurged.member
      rw [lastPurged.environment, was] at hit
      cases hit
      exact lastId ▸ within.stored
    obtain ⟨key, highWater, floor⟩ := advanceReplayFloor_above cur (loadSessionHighWaters envId db) above
    generalize advanceReplayFloor cur purge (loadSessionHighWaters envId db) fence = raised at key highWater floor ⊢
    have raisedKey : raised.environmentId = envId := key.trans fenceKey
    refine ⟨bounds.fences_put le_rfl ⟨floor ▸ highWater ▸ below, highWater ▸ (bounds.fences fence own).2⟩, ?_, ?_, ?_⟩
    · intro row member
      obtain ⟨old, oldMember, rfl⟩ := mem_purgePayloads.mp member
      obtain ⟨known, hit, within⟩ := bounds.rows old oldMember
      obtain ⟨grown, stands, same, place⟩ := raised_get was raisedKey highWater hit
      have bound := within.stored
      rcases purged_row each oldMember with kept | ⟨taken, cleared⟩
      · rw [kept]
        refine ⟨grown, stands, within.positive, by omega, fun gone => ?_⟩
        have pre := within.purged gone
        rcases place with ⟨_, rfl, rfl⟩ | ⟨_, rfl⟩
        · omega
        · exact pre
      · rw [cleared]
        refine ⟨grown, stands, within.positive, by simpa [same] using bound, fun _ => ?_⟩
        have purged := each old taken
        have last := purged.bounded
        rcases place with ⟨_, rfl, rfl⟩ | ⟨alt, _⟩
        · exact floor ▸ last
        · exact absurd purged.environment alt
    · intro cursor member
      have change := consumers (cursorKey cursor)
      have hit := get_key member
      by_cases mine : cursor.environmentId = envId
      · refine ⟨raised, get_put_of_eq _ (raisedKey.trans mine.symm), ?_⟩
        refine consumerCompacted_within change floor highWater below hit mine fun old pre => ?_
        have row := get_eq_some.mp pre
        obtain ⟨known, stands, within⟩ := bounds.cursors old row.1
        rw [show old.environmentId = envId from (congrArg Prod.fst row.2).trans mine, was] at stands
        cases stands
        exact within
      · have pre := get_eq_some.mp (consumerCompacted_elsewhere change hit mine)
        obtain ⟨known, stands, within⟩ := bounds.cursors cursor pre.1
        exact ⟨known, (get_put_of_ne _ fun same =>
          mine (same.symm.trans raisedKey)).trans stands, within⟩
    · intro head member
      obtain ⟨old, oldMember, rfl⟩ := mem_forgetSemanticHash.mp member
      obtain ⟨known, hit, bound⟩ := bounds.heads old oldMember
      obtain ⟨grown, stands, same, _⟩ := raised_get was raisedKey highWater hit
      unfold forgetCompacted
      split <;> exact ⟨grown, stands, same ▸ bound⟩

lemma step (db after : Db) (bounds : StreamBounds db) (step : Step settings db after) : StreamBounds after := by
  cases step with
  | skipped => exact bounds.skip
  | provisioned fence fresh active highWater floor => exact bounds.provision fresh highWater floor
  | consumer change => exact bounds.consumer change
  | ingested req fence admitted ingested => exact bounds.ingest admitted ingested
  | retired now receiptId req fence finalCursor first => exact bounds.retire first
  | compacted cur envId compacted => exact bounds.compact compacted

lemma reachable (reached : Reachable settings db) : StreamBounds db :=
  reachable_of_step StreamBounds step empty reached

end StreamBounds

def AckedForward (pre after : Db) : Prop :=
  ∀ cursor ∈ pre.cursors, ∃ later ∈ after.cursors, cursorKey later = cursorKey cursor ∧
    cursor.ackedStreamPosition ≤ later.ackedStreamPosition

lemma AckedForward.refl (db : Db) : AckedForward db db :=
  fun cursor member => ⟨cursor, member, rfl, le_rfl⟩

lemma AckedForward.trans {a b c} (first : AckedForward a b) (snd : AckedForward b c) : AckedForward a c := by
  intro cursor member
  obtain ⟨middle, middleMember, middleKey, middleAcked⟩ := first cursor member
  obtain ⟨later, laterMember, laterKey, laterAcked⟩ := snd middle middleMember
  exact ⟨later, laterMember, laterKey.trans middleKey, le_trans middleAcked laterAcked⟩

lemma AckedForward.of_cursors {pre after : Db} (same : after.cursors = pre.cursors) : AckedForward pre after := by
  intro cursor member
  exact ⟨cursor, same ▸ member, rfl, le_rfl⟩

lemma ConsumerStep.forward {fence old cursor} (step : ConsumerStep fence (some old) cursor)
    (within : CursorWithin fence old) : old.ackedStreamPosition ≤ cursor.ackedStreamPosition := by
  cases step with
  | expired _ boundary now active pos => exact le_rfl
  | acknowledged _ pos opaqueCursor now active forward below => exact forward
  | reset _ boundary expiredAt now epoch opaqueCursor expired expiry =>
    obtain ⟨known, same, _, acked, _⟩ := within.expired expiredAt expired
    rw [expiry] at same
    cases same
    exact acked

lemma AckedForward.consumer {db after} (bounds : StreamBounds db)
    (change : ConsumerChange db after) : AckedForward db after := by
  cases change with
  | unchanged => exact .refl db
  | written fence cursor bound step =>
    intro old member
    by_cases same : cursorKey old = cursorKey cursor
    · have was := get_key member
      rw [same] at was
      rw [was] at step
      obtain ⟨known, hit, within⟩ := bounds.cursors old member
      rw [show old.environmentId = cursor.environmentId from congrArg Prod.fst same, bound] at hit
      cases hit
      exact ⟨cursor, mem_put_self _ _, same.symm, step.forward within⟩
    · exact ⟨old, mem_put.mpr (.inr ⟨member, same⟩), rfl, le_rfl⟩

lemma AckedForward.compacted {settings cur envId}
    {db after} (compacted : Compacted settings cur envId db after) : AckedForward db after := by
  cases compacted with
  | idle => exact .refl db
  | purged fence rows purge cursors was each last consumers =>
    intro cursor member
    have change := consumers (cursorKey cursor)
    rw [get_key member] at change
    generalize kept : cursors.get (cursorKey cursor) = later at change
    cases change with
    | kept _ acknowledged =>
      have row := get_eq_some.mp kept
      exact ⟨cursor, row.1, rfl, le_rfl⟩
    | expired _ boundary now environment behind pos =>
      have row := get_eq_some.mp kept
      exact ⟨_, row.1, rfl, le_rfl⟩

lemma AckedForward.step {settings} (db after : Db) (bounds : StreamBounds db)
    (step : Step settings db after) : AckedForward db after := by
  cases step with
  | consumer change => exact .consumer bounds change
  | ingested req fence admitted ingested =>
    cases ingested <;> exact .of_cursors rfl
  | compacted cur envId compacted => exact .compacted compacted
  | _ => exact .of_cursors rfl

lemma AckedForward.run {settings db} (bounds : StreamBounds db)
    (ops : List Operation) : AckedForward db (run settings db ops) :=
  run_of_step StreamBounds AckedForward StreamBounds.step .refl (fun _ _ _ => .trans) .step bounds ops

variable {cursor : V2RuntimeObservationConsumerCursor} {expiredAt : Time}

lemma validate_expired {settings opaqueCursor envId consumerId expire}
    (expired : cursor.state = .expired expiredAt) :
    validateOrExpire settings opaqueCursor envId consumerId cursor expire = raiseExpired expire := by
  simp [validateOrExpire, validateCursorForConsumer, expired, cursorExpiredError, unknownCursorError]

lemma install_expired {settings now fence db} (expired : cursor.state = .expired expiredAt) :
    installCursorExpiryBoundary settings now fence cursor db = .ok (cursorExpiredError cursor, db) := by
  simp [installCursorExpiryBoundary, expired]

/-- Every call with this consumer's binding but a reset is answered with its persisted expiry, and
writes nothing. -/
structure ToldExpired (settings : Settings) (cursor : V2RuntimeObservationConsumerCursor) (db : Db) :
    Prop where
  register : ∀ now epoch bind fence, requireActiveRuntimeEnvironmentFence bind.environmentId (some bind.ownerId)
      (some bind.deploymentId) db = .ok fence →
    (bind.environmentId, bind.consumerId) = cursorKey cursor →
    registerRuntimeObservationConsumer settings now epoch bind db = .error (.expired (cursorExpiredError cursor) db)
  read : ∀ now epoch req afterCursor fence, boundFence req.binding db = .ok fence →
    (req.binding.environmentId, req.binding.consumerId) = cursorKey cursor →
    readRuntimeObservations settings now epoch req afterCursor db = .error (.expired (cursorExpiredError cursor) db)
  acknowledge : ∀ now epoch bind opaqueCursor fence, boundFence bind db = .ok fence →
    (bind.environmentId, bind.consumerId) = cursorKey cursor →
    acknowledgeRuntimeObservationCursor settings now epoch bind opaqueCursor db =
      .error (.expired (cursorExpiredError cursor) db)

lemma told_expired {settings} {db : Db} (member : cursor ∈ db.cursors)
    (expired : cursor.state = .expired expiredAt) : ToldExpired settings cursor db := by
  have was := get_key member
  refine ⟨fun now epoch bind fence required key => ?_, fun now epoch req afterCursor fence bound key => ?_,
    fun now epoch bind opaqueCursor fence bound key => ?_⟩
  · simp [registerRuntimeObservationConsumer, required, key, was, expired, liftFailure,
      Except.mapError, Bind.bind, Except.bind]
  · have fenceKey := (get_eq_some.mp (boundFence_eq bound)).2
    have expire : expireInvalidCursor settings now fence req.binding.consumerId db =
        .ok (cursorExpiredError cursor, db) := by
      simp [expireInvalidCursor, fenceKey, key, was, install_expired expired]
    simp [readRuntimeObservations, bound, key, was, validate_expired expired, expire,
      raiseExpired, liftFailure, Except.mapError, Bind.bind, Except.bind]
  · simp [acknowledgeRuntimeObservationCursor, bound, key, was, validate_expired expired,
      install_expired expired, raiseExpired, liftFailure, Except.mapError, Bind.bind, Except.bind]

/-- The replay floor, the consumers' acknowledgements and their expiry boundaries stay ordered in
every reachable database, acknowledgements never move back, and a consumer that compaction has
overtaken hears so from every call. -/
theorem consumer_stream_integrity (settings : Settings) (db : Db) (reached : Reachable settings db)
    (fence : V2RuntimeEnvironmentFence) (known : fence ∈ db.fences) :
    fence.replayFloorStreamPosition ≤ fence.streamHighWater ∧
    ∀ cursor ∈ db.cursors, cursor.environmentId = fence.environmentId →
      (cursor.state = .active → fence.replayFloorStreamPosition ≤ cursor.ackedStreamPosition ∧
        cursor.ackedStreamPosition ≤ fence.streamHighWater) ∧
      (∀ expiredAt, cursor.state = .expired expiredAt → ∃ boundary,
        cursor.expiry = some boundary ∧ fence.replayFloorStreamPosition ≤ boundary.streamPosition ∧
          cursor.ackedStreamPosition ≤ boundary.streamPosition) ∧
      (∀ ops, ∃ later ∈ (run settings db ops).cursors, cursorKey later = cursorKey cursor ∧
          cursor.ackedStreamPosition ≤ later.ackedStreamPosition) ∧
      ((∃ row ∈ db.inbox, row.environmentId = fence.environmentId ∧ row.payloadPurgedAt ≠ none ∧
          cursor.ackedStreamPosition < row.id) →
        (∃ expiredAt, cursor.state = .expired expiredAt) ∧ ToldExpired settings cursor db) := by
  have bounds := StreamBounds.reachable reached
  refine ⟨(bounds.fences fence known).1, fun cursor member own => ?_⟩
  obtain ⟨same, hit, within⟩ := bounds.cursors cursor member
  rw [own, get_key known] at hit
  cases hit
  refine ⟨fun active => ⟨within.active active, within.acked⟩, fun expiredAt expired => ?_,
    fun ops => AckedForward.run bounds ops cursor member, ?_⟩
  · obtain ⟨boundary, expiry, above, acked, _⟩ := within.expired expiredAt expired
    exact ⟨boundary, expiry, above, acked⟩
  · intro ⟨row, rowMember, environment, purged, unacknowledged⟩
    obtain ⟨_, hit, rowWithin⟩ := bounds.rows row rowMember
    rw [environment, get_key known] at hit
    cases hit
    have floor := rowWithin.purged purged
    cases st : cursor.state with
    | active =>
      have acked := within.active st
      omega
    | expired expiredAt => exact ⟨⟨expiredAt, rfl⟩, told_expired member st⟩

theorem controller_stream_integrity : ∃ fence ∈ db.fences, ∃ cursor ∈ db.cursors,
      fence.replayFloorStreamPosition ≤ cursor.ackedStreamPosition ∧
        cursor.ackedStreamPosition ≤ fence.streamHighWater := by
  obtain ⟨fence, was⟩ := Option.isSome_iff_exists.mp
    (show (db.fences.get "env-1").isSome = true by decide +kernel)
  obtain ⟨cursor, hit, active⟩ := (Option.any_eq_true _ _).mp
    (show (db.cursors.get ("env-1", "controller")).any (·.state = .active) = true by
      decide +kernel)
  have known := get_eq_some.mp was
  have member := get_eq_some.mp hit
  have integrity := (consumer_stream_integrity settings db reachable fence
    known.1).2 cursor member.1 ((congrArg Prod.fst member.2).trans known.2.symm)
  exact ⟨fence, known.1, cursor, member.1, integrity.1 (by simpa using active)⟩

end Clawdi.Observation
