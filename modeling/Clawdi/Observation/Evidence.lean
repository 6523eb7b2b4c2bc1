import Clawdi.Observation.StreamInvariant

namespace Clawdi.Observation
open Sample Table

structure Evidence (settings : Settings) (head : V2RuntimeObservationHead) (view : HeadView)
    (row : V2RuntimeObservationInbox) : Prop where
  position : row.id = head.latestStreamPosition
  environment : row.environmentId = head.environmentId
  session : row.bootSessionId = head.bootSessionId
  health : row.health = view.health
  semantic : ∀ digest, head.latestSemanticHash = some digest →
    row.payloadPurgedAt = none ∧ observationSemanticHash settings row.diagnostics = digest
  stale : ∀ purgedAt, row.payloadPurgedAt = some purgedAt → view.freshnessDeadline < purgedAt

def HeadsEvidenced (settings : Settings) (db : Db) : Prop :=
  ∀ head ∈ db.heads, ∀ view, head.state = .active view → ∃ row ∈ db.inbox, Evidence settings head view row

variable {head : V2RuntimeObservationHead} {view : HeadView} {v : RuntimeObservationEventV2}

lemma Evidence.coalesced {settings row}
    (ev : Evidence settings head view row) (coalesces : Coalesces settings head view v) (now : Time) :
    Evidence settings (coalescedHead settings now head view v)
      { view with
        capturedAt := v.capturedAt
        freshnessDeadline := freshnessDeadline settings v.capturedAt } row := by
  refine ⟨ev.position, ev.environment, ev.session, ev.health, ev.semantic, fun purgedAt purged => ?_⟩
  rw [(ev.semantic _ coalesces.1).1] at purged
  cases purged

lemma nextRow_evidence {settings req fence db}
    (pos : head.latestStreamPosition = (nextRow settings req fence db).id)
    (environment : head.environmentId = req.environmentId) (session : head.bootSessionId = req.value.bootSessionId)
    (semantic : head.latestSemanticHash = some (semanticHash settings req.value)) :
    Evidence settings head ⟨req.value.capturedAt, freshnessDeadline settings req.value.capturedAt,
        req.value.status⟩ (nextRow settings req fence db) := by
  refine ⟨pos.symm, environment.symm, session.symm, rfl, fun digest known => ⟨rfl, ?_⟩,
    fun purgedAt purged => by cases purged⟩
  rw [semantic] at known
  exact Option.some.inj known

namespace HeadsEvidenced
variable {settings : Settings} {db : Db} {fence : V2RuntimeEnvironmentFence}
variable {cur : Time} {req : IngestRequest} {after : Db}

lemma row_stored (bounds : StreamBounds db) {row} (mem : row ∈ db.inbox) :
    row ∈ db.inbox.put (nextRow settings req fence db) := by
  refine mem_put.mpr (.inr ⟨mem, ?_⟩)
  obtain ⟨own, hit, within⟩ := bounds.rows row mem
  have below := (bounds.fences own (get_eq_some.mp hit).1).2
  have was := within.stored
  have fresh : (nextRow settings req fence db).id = db.inboxSequence + 1 := rfl
  omega

lemma ingest (evidenced : HeadsEvidenced settings db) (bounds : StreamBounds db) {res}
    (ingested : Ingested settings req fence db res after) : HeadsEvidenced settings after := by
  cases ingested with
  | replayedHead | replayedRow => exact evidenced
  | coalesced head view hit goes coalesces =>
    intro alt mem otherView active
    rcases mem_put.mp mem with rfl | ⟨mem, _⟩
    · cases active
      obtain ⟨row, was, ev⟩ := evidenced head (get_eq_some.mp hit).1 view goes.state
      exact ⟨row, was, ev.coalesced coalesces req.receivedAt⟩
    · exact evidenced alt mem otherView active
  | created pred absent unrecorded authorized =>
    intro alt mem otherView active
    rcases mem_put.mp mem with rfl | ⟨mem, _⟩
    · cases active
      exact ⟨_, mem_put_self _ _, nextRow_evidence rfl rfl rfl rfl⟩
    · rcases mem_retirePredecessor mem with mem | ⟨old, _, rfl⟩
      · obtain ⟨row, was, ev⟩ := evidenced alt mem otherView active
        exact ⟨row, row_stored bounds was, ev⟩
      · cases active
  | recorded head view hit goes stays unrecorded =>
    intro alt mem otherView active
    have own := get_eq_some.mp hit
    rcases mem_put.mp mem with rfl | ⟨mem, _⟩
    · by_cases ahead : Advances head view req.value
      · rw [recordOnHead_advances ahead] at active ⊢
        cases active
        exact ⟨_, mem_put_self _ _, nextRow_evidence rfl (congrArg Prod.fst own.2) (congrArg Prod.snd own.2) rfl⟩
      · rw [recordOnHead_stays ahead] at active ⊢
        obtain ⟨row, was, ev⟩ := evidenced head own.1 otherView active
        exact ⟨row, row_stored bounds was, ev.position, ev.environment, ev.session, ev.health, ev.semantic, ev.stale⟩
    · obtain ⟨row, was, ev⟩ := evidenced alt mem otherView active
      exact ⟨row, row_stored bounds was, ev⟩

lemma retire (evidenced : HeadsEvidenced settings db) {now receiptId req finalCursor} :
    HeadsEvidenced settings (retiredDb now receiptId req fence finalCursor db) := by
  intro head mem view active
  obtain ⟨old, oldMember, rfl⟩ := mem_retireHeads.mp mem
  unfold retireActiveHead at active ⊢
  split at active
  · cases active
  · rename_i kept
    rw [if_neg kept]
    exact evidenced old oldMember view active

variable {envId : Uuid}

lemma not_fresh {head view} (mem : head ∈ db.heads)
    (own : head.environmentId = envId) (active : head.state = .active view)
    (stale : head.latestStreamPosition ∉ freshHeadInboxIds envId cur db) : view.freshnessDeadline < cur := by
  by_contra fresh
  apply stale
  refine List.mem_filterMap.mpr ⟨head, List.mem_filter.mpr ⟨mem, ?_⟩, ?_⟩
  · have late : cur ≤ view.freshnessDeadline := not_lt.mp fresh
    simp [own, freshAt, V2RuntimeObservationHead.freshnessDeadline, V2RuntimeObservationHead.view, active, late]
  · simp [V2RuntimeObservationHead.latestInboxId, V2RuntimeObservationHead.view, active]

lemma compact (evidenced : HeadsEvidenced settings db)
    (compacted : Compacted settings cur envId db after) : HeadsEvidenced settings after := by
  cases compacted with
  | idle => exact evidenced
  | purged fence rows purge cursors was each last consumers =>
    intro head mem view active
    obtain ⟨old, oldMember, rfl⟩ := mem_forgetSemanticHash.mp mem
    have oldActive : old.state = .active view := by
      unfold forgetCompacted at active
      split at active <;> exact active
    obtain ⟨row, rowMember, ev⟩ := evidenced old oldMember view oldActive
    refine ⟨_, mem_purgePayloads.mpr ⟨row, rowMember, rfl⟩, ?_⟩
    rcases purged_row each rowMember with kept | ⟨taken, cleared⟩
    · rw [kept]
      unfold forgetCompacted
      split
      · exact ⟨ev.position, ev.environment, ev.session, ev.health, fun digest known => (by cases known), ev.stale⟩
      · exact ev
    · have purged := each row taken
      have ref : old.latestInboxId = some row.id := by
        simp [V2RuntimeObservationHead.latestInboxId, V2RuntimeObservationHead.view, oldActive, ev.position]
      have forgotten : forgetCompacted (compactedIds settings cur (rows.map (·.id)) db.inbox) old =
          { old with latestSemanticHash := none } := by
        unfold forgetCompacted
        rw [if_pos]
        simpa [ref] using mem_compactedIds purged (List.mem_map_of_mem taken)
      rw [cleared, forgotten]
      refine ⟨ev.position, ev.environment, ev.session, ev.health,
        fun digest known => (by cases known), fun purgedAt gone => ?_⟩
      cases gone
      exact not_fresh oldMember (ev.environment.symm.trans purged.environment) oldActive (ev.position ▸ purged.stale)

lemma step (db after : Db) (holds : StreamBounds db ∧ HeadsEvidenced settings db)
    (step : Step settings db after) : StreamBounds after ∧ HeadsEvidenced settings after := by
  refine ⟨holds.1.step db after step, ?_⟩
  obtain ⟨bounds, evidenced⟩ := holds
  cases step with
  | skipped | provisioned => exact evidenced
  | consumer change => cases change <;> exact evidenced
  | ingested req fence admitted ingested => exact evidenced.ingest bounds ingested
  | retired now receiptId req fence finalCursor first => exact evidenced.retire
  | compacted cur envId compacted => exact evidenced.compact compacted

lemma reachable (reached : Reachable settings db) : HeadsEvidenced settings db :=
  (reachable_of_step (fun db => StreamBounds db ∧ HeadsEvidenced settings db) step
    ⟨.empty, fun _ mem => absurd mem (not_mem_empty _)⟩ reached).2

end HeadsEvidenced

structure HeadForward (head later : V2RuntimeObservationHead) : Prop where
  key : headKey later = headKey head
  sequence : head.highestSequence ≤ later.highestSequence
  seen : later.highestSequence = head.highestSequence → later.lastSeenEventId = head.lastSeenEventId ∧
      later.lastSeenPayloadHash = head.lastSeenPayloadHash
  captured : ∀ view', later.state = .active view' → ∃ view, head.state = .active view ∧
    view.capturedAt ≤ view'.capturedAt

def HeadsForward (pre after : Table headKey) : Prop := ∀ head ∈ pre, ∃ later ∈ after, HeadForward head later

lemma HeadForward.refl (head : V2RuntimeObservationHead) : HeadForward head head :=
  ⟨rfl, le_rfl, fun _ => ⟨rfl, rfl⟩, fun view active => ⟨view, active, le_rfl⟩⟩

lemma HeadForward.trans {a b c} (first : HeadForward a b) (snd : HeadForward b c) : HeadForward a c := by
  refine ⟨snd.key.trans first.key, le_trans first.sequence snd.sequence, fun same => ?_, fun view active => ?_⟩
  · have stayed : b.highestSequence = a.highestSequence :=
      le_antisymm (same ▸ snd.sequence) first.sequence
    have early := first.seen stayed
    have late := snd.seen (same.trans stayed.symm)
    exact ⟨late.1.trans early.1, late.2.trans early.2⟩
  obtain ⟨middle, middleActive, middleCaptured⟩ := snd.captured view active
  obtain ⟨start, startActive, captured⟩ := first.captured middle middleActive
  exact ⟨start, startActive, le_trans captured middleCaptured⟩

lemma HeadForward.retired (tombstonedAt : Time) (head : V2RuntimeObservationHead) :
    HeadForward head (retireRuntimeObservationHead tombstonedAt head) :=
  ⟨rfl, le_rfl, fun _ => ⟨rfl, rfl⟩, fun _ active => by cases active⟩

lemma HeadForward.advances {later later'} (key : headKey later = headKey head) (active : head.state = .active view)
    (ahead : Advances head view v) (seq : later.highestSequence = v.sequence)
    (st : later.state = .active later') (captured : later'.capturedAt = v.capturedAt) : HeadForward head later := by
  have above : head.highestSequence < later.highestSequence := seq ▸ ahead.1
  refine ⟨key, le_of_lt above, fun same => absurd same (ne_of_gt above), fun hit foundActive => ⟨view, active, ?_⟩⟩
  rw [st] at foundActive
  cases foundActive
  exact captured ▸ ahead.2

namespace HeadsForward
variable {settings : Settings} {db : Db}

lemma refl (heads : Table headKey) : HeadsForward heads heads :=
  fun head mem => ⟨head, mem, .refl head⟩

lemma trans {a b c} (first : HeadsForward a b) (snd : HeadsForward b c) : HeadsForward a c := by
  intro head mem
  obtain ⟨middle, middleMember, middleForward⟩ := first head mem
  obtain ⟨later, laterMember, laterForward⟩ := snd middle middleMember
  exact ⟨later, laterMember, middleForward.trans laterForward⟩

variable {later : V2RuntimeObservationHead}

lemma put {heads : Table headKey} (forward : ∀ old, heads.get (headKey later) = some old → HeadForward old later) :
    HeadsForward heads (heads.put later) := by
  intro head mem
  by_cases same : headKey head = headKey later
  · exact ⟨later, mem_put_self _ _, forward head (same ▸ get_key mem)⟩
  · exact ⟨head, mem_put.mpr (.inr ⟨mem, same⟩), .refl head⟩

lemma update {heads} {f : V2RuntimeObservationHead → V2RuntimeObservationHead}
    (keeps : ∀ head, headKey (f head) = headKey head) (forward : ∀ head, HeadForward head (f head)) :
    HeadsForward heads (heads.update f keeps) :=
  fun head mem => ⟨f head, mem_update.mpr ⟨head, mem, rfl⟩, forward head⟩

lemma found_unique {heads : Table headKey} {head old key} (hit : heads.get key = some head)
    (same : headKey later = headKey head) (was : heads.get (headKey later) = some old) : old = head := by
  rw [same, (get_eq_some.mp hit).2, hit] at was
  exact (Option.some.inj was).symm

lemma ingest {req fence res after}
    (ingested : Ingested settings req fence db res after) : HeadsForward db.heads after.heads := by
  cases ingested with
  | replayedHead | replayedRow => exact refl _
  | coalesced head view hit goes coalesces =>
    refine put fun old was => ?_
    rw [found_unique hit rfl was]
    exact .advances rfl goes.state coalesces.2 rfl rfl rfl
  | created pred absent unrecorded authorized =>
    have retired : HeadsForward db.heads
        (retirePredecessor req.receivedAt db.heads pred) := by
      rcases authorizedPredecessor_cases authorized with ⟨rfl, _⟩ | ⟨head, rfl, _, hit, _⟩
      · exact refl _
      · refine put fun old was => ?_
        rw [found_unique hit rfl was]
        exact .retired _ head
    refine retired.trans (put fun old was => ?_)
    have pre := get_eq_some.mp was
    rcases mem_retirePredecessor pre.1 with mem | ⟨known, same, rfl⟩
    · have here := get_key mem
      rw [pre.2] at here
      rw [show db.heads.get (headKey (createdHead settings (nextRow settings req fence db)
        req.value)) = none from absent] at here
      cases here
    · rcases authorizedPredecessor_cases authorized with ⟨none, _⟩ | ⟨head, some, _, hit, _⟩
      · rw [none] at same
        cases same
      · rw [some] at same
        cases same
        have key : headKey known = (req.environmentId, req.value.bootSessionId) := pre.2
        rw [← (get_eq_some.mp hit).2, key, absent] at hit
        cases hit
  | recorded head view hit goes stays unrecorded =>
    by_cases ahead : Advances head view req.value
    · rw [recordOnHead_advances ahead]
      refine put fun old was => ?_
      have key : headKey (advancedHead settings (nextRow settings req fence db) req.value head) = headKey head := rfl
      rw [found_unique hit key was]
      exact .advances key goes.state ahead rfl rfl rfl
    · rw [recordOnHead_stays ahead]
      refine put fun old was => ?_
      have key : headKey (authorizeSuccessor req.value head) = headKey head := rfl
      rw [found_unique hit key was]
      exact ⟨key, le_rfl, fun _ => ⟨rfl, rfl⟩, fun later active => ⟨later, active, le_rfl⟩⟩

lemma step (pre after : Db) (step : Step settings pre after) : HeadsForward pre.heads after.heads := by
  cases step with
  | skipped | provisioned => exact refl _
  | consumer change => cases change <;> exact refl _
  | ingested req fence admitted ingested => exact ingest ingested
  | retired now receiptId req fence finalCursor first =>
    refine update (headKey_retireActiveHead _ _) fun head => ?_
    unfold retireActiveHead
    split
    · exact .retired now head
    · exact .refl head
  | compacted cur envId compacted =>
    cases compacted with
    | idle => exact refl _
    | purged fence rows purge cursors was each last consumers =>
      refine update (headKey_forgetCompacted _) fun head => ?_
      unfold forgetCompacted
      split
      · exact ⟨rfl, le_rfl, fun _ => ⟨rfl, rfl⟩, fun view active => ⟨view, active, le_rfl⟩⟩
      · exact .refl head

lemma run (settings : Settings) (db : Db) (ops : List Operation) :
    HeadsForward db.heads (run settings db ops).heads :=
  run_of_step (fun _ => True) (fun pre after => HeadsForward pre.heads after.heads)
    (fun _ _ _ _ => trivial) (fun db => refl db.heads) (fun _ _ _ => trans)
    (fun pre after _ => step pre after) trivial ops

end HeadsForward

/-- Heads only move forward, and coalescing requires intact evidence of the head's own boot session. -/
theorem head_evidence (settings : Settings) (db : Db) (reached : Reachable settings db)
    (head : V2RuntimeObservationHead) (mem : head ∈ db.heads) :
    (∀ ops, ∃ later ∈ (run settings db ops).heads, headKey later = headKey head ∧
      head.highestSequence ≤ later.highestSequence ∧
      ∀ view', later.state = .active view' → ∃ view, head.state = .active view ∧
        view.capturedAt ≤ view'.capturedAt) ∧ ∀ view, head.state = .active view →
      ∃ row ∈ db.inbox, head.latestInboxId = some row.id ∧
        row.environmentId = head.environmentId ∧ row.bootSessionId = head.bootSessionId ∧
        (head.latestSemanticHash = none ∨ (row.payloadPurgedAt = none ∧
          head.latestSemanticHash = some (observationSemanticHash settings row.diagnostics) ∧
          row.health = view.health)) ∧ (∀ now, now ≤ view.freshnessDeadline →
          (∀ purgedAt, row.payloadPurgedAt = some purgedAt → purgedAt ≤ now) → row.payloadPurgedAt = none) ∧
        (∀ v refreshed, admitToHead settings head v = .ok (.coalesce refreshed) → row.payloadPurgedAt = none) := by
  refine ⟨fun ops => ?_, fun view active => ?_⟩
  · obtain ⟨later, laterMember, forward⟩ := HeadsForward.run settings db ops head mem
    exact ⟨later, laterMember, forward.key, forward.sequence, forward.captured⟩
  obtain ⟨row, rowMember, ev⟩ := HeadsEvidenced.reachable reached head mem view active
  refine ⟨row, rowMember, ?_, ev.environment, ev.session, ?_, fun now fresh past => ?_,
    fun v refreshed admitted => ?_⟩
  · simp [V2RuntimeObservationHead.latestInboxId, V2RuntimeObservationHead.view, active, ev.position]
  · cases known : head.latestSemanticHash with
    | none => exact .inl rfl
    | some digest =>
      obtain ⟨intact, same⟩ := ev.semantic digest known
      exact .inr ⟨intact, by rw [same], ev.health⟩
  · cases purged : row.payloadPurgedAt with
    | none => rfl
    | some purgedAt =>
      exact absurd (lt_of_lt_of_le (ev.stale purgedAt purged) (past purgedAt purged)) (not_lt.mpr fresh)
  · rcases admitToHead_cases admitted with ⟨never, _⟩ | ⟨_, _, _, coalesces⟩ | ⟨_, never, _⟩
    · cases never
    · exact (ev.semantic _ coalesces.1).1
    · cases never

theorem heartbeat_evidence : ∃ head ∈ db.heads, ∃ view, head.state = .active view ∧
      ∃ row ∈ db.inbox, head.latestInboxId = some row.id ∧ row.bootSessionId = head.bootSessionId := by
  obtain ⟨head, hit, active⟩ := (Option.any_eq_true _ _).mp
    (show (db.heads.get ("env-1", session)).any (·.isActive) = true by decide +kernel)
  have mem := (get_eq_some.mp hit).1
  cases st : head.state with
  | retired tombstonedAt => simp [V2RuntimeObservationHead.isActive, V2RuntimeObservationHead.view, st] at active
  | active view =>
    obtain ⟨row, was, names, _, session, _⟩ := (head_evidence settings db reachable head mem).2 view st
    exact ⟨head, mem, view, st, row, was, names, session⟩

end Clawdi.Observation
