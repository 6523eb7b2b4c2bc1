import Clawdi.Observation.Operations

namespace Clawdi.Observation
open List Table Option

inductive ConsumerCompacted (envId : Uuid) (purge : Nat) :
    Option V2RuntimeObservationConsumerCursor → Option V2RuntimeObservationConsumerCursor → Prop
  | kept (row : Option V2RuntimeObservationConsumerCursor)
      (acked : ∀ cursor, row = some cursor → cursor.environmentId = envId →
        cursor.required = true → purge ≤ cursor.ackedStreamPosition) :
      ConsumerCompacted envId purge row row
  | expired (cursor : V2RuntimeObservationConsumerCursor) (boundary : ExpiryBoundary) (now : Time)
      (env : cursor.environmentId = envId)
      (behind : cursor.ackedStreamPosition < purge)
      (pos : boundary.streamPosition = purge) :
      ConsumerCompacted envId purge (some cursor) (some (expireCursor now boundary cursor))

variable {consumers : List V2RuntimeObservationConsumerCursor} {cur : Time} {db : Db}
variable {envId : Uuid} {ids : List Nat} {purge : Nat} {cfg : Settings}
variable {limit : Nat} {hardCapForced : Bool} {cursor : V2RuntimeObservationConsumerCursor}

lemma requiredConsumers_mem : cursor ∈ requiredConsumers envId db ↔
      cursor ∈ db.cursors ∧ cursor.environmentId = envId ∧ cursor.required = true := by
  simp [requiredConsumers, mem_select]

lemma requiredConsumers_nodup (envId : Uuid) (db : Db) : ((requiredConsumers envId db).map cursorKey).Nodup := by
  refine List.Nodup.map_on ?_ (db.cursors.select_nodup _ _)
  intro a memberA b memberB same
  exact eq_of_key (requiredConsumers_mem.mp memberA).1 (requiredConsumers_mem.mp memberB).1 same

lemma safePosition_acknowledged {pos : Nat} (positive : 0 < pos)
    (safe : pos ≤ safePosition consumers) (member : cursor ∈ consumers) : pos ≤ cursor.ackedStreamPosition := by
  unfold safePosition at safe
  split at safe
  · cases least : (consumers.map (·.ackedStreamPosition)).min? with
    | none => simp only [least, getD_none] at safe; omega
    | some smallest =>
      simp only [least, getD_some] at safe
      have bound := List.min?_eq_some_iff.mp least
      exact le_trans safe (bound.2 _ (mem_map_of_mem member))
  · omega

lemma compactionPrefix_cases {fresh : List Nat} : ∀ {evs : List V2RuntimeObservationInbox},
      compactionPrefix cfg cur fresh consumers evs = (ids, hardCapForced) →
      ∃ taken rest, evs = taken ++ rest ∧ ids = taken.map (·.id) ∧
        (∀ ev ∈ taken, ev.id ∉ fresh ∧ (HardCapEligible cfg cur ev ∨ ReplayEligible cfg cur consumers ev)) ∧
        (hardCapForced = false → ∀ ev ∈ taken, ReplayEligible cfg cur consumers ev) := by
  intro evs
  induction evs generalizing ids hardCapForced with
  | nil =>
    intro scanned
    cases scanned
    exact ⟨[], [], rfl, rfl, by simp, by simp⟩
  | cons ev evs ih =>
    intro scanned
    unfold compactionPrefix at scanned
    split at scanned
    · cases scanned
      exact ⟨[], ev :: evs, rfl, rfl, by simp, by simp⟩
    rename_i stale
    split at scanned
    · cases scanned
      exact ⟨[], ev :: evs, rfl, rfl, by simp, by simp⟩
    rename_i eligible
    cases scanned
    obtain ⟨taken, rest, split, same, each, replay⟩ := ih (Prod.mk.eta (p :=
      compactionPrefix cfg cur fresh consumers evs)).symm
    refine ⟨ev :: taken, rest, by rw [split]; rfl, by rw [same]; rfl, ?_, ?_⟩
    · intro alt member
      rcases mem_cons.mp member with rfl | member
      · exact ⟨stale, Decidable.or_iff_not_not_and_not.mpr eligible⟩
      · exact each alt member
    · intro unforced alt member
      simp only [Bool.or_eq_false_iff, decide_eq_false_iff_not] at unforced
      rcases mem_cons.mp member with rfl | member
      · by_cases replays : ReplayEligible cfg cur consumers alt
        · exact replays
        · have hard : HardCapEligible cfg cur alt := by tauto
          exact absurd ⟨hard, replays⟩ unforced.1
      · exact replay unforced.2 alt member

lemma expireLaggingConsumers_cases : ∀ {db after : Db}, (consumers.map cursorKey).Nodup →
      (∀ cursor ∈ consumers, db.cursors.get (cursorKey cursor) = some cursor) →
      expireLaggingConsumers cfg cur envId purge consumers db = .ok after →
      after = { db with cursors := after.cursors } ∧ ∀ key,
        (after.cursors.get key = db.cursors.get key ∧ ∀ cursor ∈ consumers, cursorKey cursor = key →
          purge ≤ cursor.ackedStreamPosition) ∨
        (∃ cursor ∈ consumers, ∃ boundary : ExpiryBoundary, cursorKey cursor = key ∧
          cursor.ackedStreamPosition < purge ∧ boundary.streamPosition = purge ∧
          after.cursors.get key = some (expireCursor cur boundary cursor)) := by
  induction consumers with
  | nil =>
    intro db after _ _ fin
    cases fin
    exact ⟨rfl, fun key => .inl ⟨rfl, by simp⟩⟩
  | cons consumer consumers ih =>
    intro db after apart was fin
    rw [map_cons, nodup_cons] at apart
    unfold expireLaggingConsumers at fin
    split at fin
    · rename_i acked
      obtain ⟨frame, each⟩ := ih apart.2 (fun cursor member => was cursor (mem_cons_of_mem _ member)) fin
      refine ⟨frame, fun key => ?_⟩
      rcases each key with ⟨same, rest⟩ | ⟨cursor, member, boundary, hit⟩
      · refine Or.inl ⟨same, fun cursor member own => ?_⟩
        rcases mem_cons.mp member with rfl | member
        · exact acked
        · exact rest cursor member own
      · exact .inr ⟨cursor, mem_cons_of_mem _ member, boundary, hit⟩
    · simp only [Bind.bind, Except.bind] at fin
      split at fin
      · cases fin
      rename_i boundary enc
      have elsewhere : ∀ cursor ∈ consumers,
          cursorKey (expireCursor cur boundary consumer) ≠ cursorKey cursor :=
        fun cursor member same => apart.1 (same ▸ mem_map_of_mem member)
      obtain ⟨frame, each⟩ := ih apart.2 (fun cursor member =>
        (get_put_of_ne _ (elsewhere cursor member)).trans (was cursor (mem_cons_of_mem _ member))) fin
      refine ⟨frame, fun key => ?_⟩
      rcases each key with ⟨same, rest⟩ | ⟨cursor, member, hit, own, facts⟩
      · by_cases own : cursorKey (expireCursor cur boundary consumer) = key
        · refine Or.inr ⟨consumer, mem_cons_self, boundary, own, by omega, expiryBoundary_position enc, ?_⟩
          exact same.trans (get_put_of_eq _ own)
        · refine Or.inl ⟨same.trans (get_put_of_ne _ own), fun cursor member mine => ?_⟩
          rcases mem_cons.mp member with rfl | member
          · exact absurd mine own
          · exact rest cursor member mine
      · exact .inr ⟨cursor, mem_cons_of_mem _ member, hit, own, facts⟩

structure Purged (cfg : Settings) (cur : Time) (envId : Uuid)
    (fence : V2RuntimeEnvironmentFence) (purge : Nat) (db : Db)
    (row : V2RuntimeObservationInbox) : Prop where
  member : row ∈ db.inbox
  environment : row.environmentId = envId
  aboveFloor : fence.replayFloorStreamPosition < row.id
  intact : row.payloadPurgedAt = none
  stale : row.id ∉ freshHeadInboxIds envId cur db
  replayed : row.receivedAt < replayCutoff cfg cur
  bounded : row.id ≤ purge

inductive Compacted (cfg : Settings) (cur : Time) (envId : Uuid) (db : Db) :
    Db → Prop
  | idle : Compacted cfg cur envId db db
  | purged (fence : V2RuntimeEnvironmentFence) (rows : List V2RuntimeObservationInbox)
      (purge : Nat) (cursors : Table cursorKey)
      (was : db.fences.get envId = some fence)
      (each : ∀ row ∈ rows, Purged cfg cur envId fence purge db row)
      (last : ∃ row ∈ rows, row.id = purge)
      (consumers : ∀ key, ConsumerCompacted envId purge (db.cursors.get key) (cursors.get key)) :
      Compacted cfg cur envId db
        { db with
          cursors := cursors
          inbox := purgePayloads cfg cur (rows.map (·.id)) db.inbox
          heads := forgetSemanticHash (compactedIds cfg cur (rows.map (·.id)) db.inbox) db.heads
          fences := db.fences.put (advanceReplayFloor cur purge
            (loadSessionHighWaters envId db) fence) }

lemma foldr_max_le {bound : Nat} (each : ∀ id ∈ ids, id ≤ bound) : ids.foldr max 0 ≤ bound := by
  induction ids with
  | nil => exact Nat.zero_le _
  | cons id ids ih =>
    exact max_le (each id mem_cons_self) (ih fun alt member => each alt (mem_cons_of_mem _ member))

lemma le_foldr_max {id : Nat} (member : id ∈ ids) : id ≤ ids.foldr max 0 := by
  induction ids with
  | nil => cases member
  | cons first ids ih =>
    rcases mem_cons.mp member with rfl | member
    · exact le_max_left _ _
    · exact le_trans (ih member) (le_max_right _ _)

lemma ascending_last {last : Nat} (ordered : ids.Pairwise (· < ·))
    (ends : ids.getLast? = some last) : (∀ id ∈ ids, id ≤ last) ∧ ids.foldr max 0 = last := by
  obtain ⟨front, rfl⟩ := List.getLast?_eq_some_iff.mp ends
  have pre := (pairwise_append.mp ordered).2.2
  have bound : ∀ id ∈ front ++ [last], id ≤ last := by
    intro id member
    rcases mem_append.mp member with member | member
    · exact le_of_lt (pre id member last mem_cons_self)
    · rw [mem_singleton.mp member]
  refine ⟨bound, le_antisymm ?_ ?_⟩
  · exact foldr_max_le bound
  · exact le_foldr_max (mem_append_right _ mem_cons_self)

lemma hardCutoff_le_replayCutoff (cfg : Settings) (cur : Time) : hardCutoff cfg cur ≤ replayCutoff cfg cur := by
  have covers := cfg.hardCoversReplay
  unfold hardCutoff replayCutoff days seconds
  lia

lemma eligible_replayed {ev} (eligible : HardCapEligible cfg cur ev ∨ ReplayEligible cfg cur consumers ev) :
    ev.receivedAt < replayCutoff cfg cur := by
  rcases eligible with hard | replays
  · exact lt_of_lt_of_le hard (hardCutoff_le_replayCutoff cfg cur)
  · exact replays.2.1

lemma consumers_compacted {expired} (acked : hardCapForced = false → ∀ cursor ∈ requiredConsumers envId db,
      purge ≤ cursor.ackedStreamPosition)
    (fin : expireLaggingConsumers cfg cur envId purge
      (if hardCapForced then requiredConsumers envId db else []) db = .ok expired) :
    expired = { db with cursors := expired.cursors } ∧ ∀ key,
      ConsumerCompacted envId purge (db.cursors.get key) (expired.cursors.get key) := by
  cases hardCapForced with
  | false =>
    cases fin
    refine ⟨rfl, fun key => .kept _ fun cursor hit env required => ?_⟩
    exact acked rfl cursor (requiredConsumers_mem.mpr ⟨(get_eq_some.mp hit).1, env, required⟩)
  | true =>
    obtain ⟨frame, each⟩ := expireLaggingConsumers_cases (requiredConsumers_nodup envId db)
      (fun cursor member => get_key (requiredConsumers_mem.mp member).1) fin
    refine ⟨frame, fun key => ?_⟩
    rcases each key with ⟨same, rest⟩ | ⟨cursor, member, boundary, own, behind, pos, hit⟩
    · rw [same]
      refine .kept _ fun cursor hit env required => ?_
      have was := get_eq_some.mp hit
      exact rest cursor (requiredConsumers_mem.mpr ⟨was.1, env, required⟩) was.2
    · have listed := requiredConsumers_mem.mp member
      rw [hit, ← own, get_key listed.1]
      exact .expired cursor boundary cur listed.2.1 behind pos

variable (fence : V2RuntimeEnvironmentFence) {row : V2RuntimeObservationInbox}

lemma candidates_ascending (limit : Nat) (db : Db) :
    (compactionCandidates fence limit db).Pairwise (fun a b => a.id < b.id) :=
  (select_strict fun _ memberA _ memberB _ _ same =>
    eq_of_key memberA memberB same).sublist (take_sublist _ _)

lemma purged_row {fence : V2RuntimeEnvironmentFence} {rows : List V2RuntimeObservationInbox}
    (each : ∀ row ∈ rows, Purged cfg cur envId fence purge db row) (member : row ∈ db.inbox) :
    (purgePayload cfg cur (rows.map (·.id)) row = row) ∨ (row ∈ rows ∧ purgePayload cfg cur (rows.map (·.id)) row =
      { row with diagnostics := [], payloadPurgedAt := some cur }) := by
  unfold purgePayload
  split
  · rename_i listed
    simp only [compactable, decide_eq_true_eq] at listed
    obtain ⟨taken, takenMember, same⟩ := mem_map.mp listed.1
    have own := eq_of_key (each taken takenMember).member member same
    exact .inr ⟨own ▸ takenMember, rfl⟩
  · exact .inl rfl

lemma mem_compactedIds {fence} (purged : Purged cfg cur envId fence purge db row) (listed : row.id ∈ ids) :
    row.id ∈ compactedIds cfg cur ids db.inbox := by
  refine mem_map_of_mem (mem_filter.mpr ⟨purged.member, ?_⟩)
  simp [compactable, listed, purged.replayed, purged.intact]

lemma compactEnvironment_cases {after} {compacted : Nat}
    (fin : compactEnvironment cfg cur limit envId db = .ok (compacted, after)) :
    Compacted cfg cur envId db after := by
  unfold compactEnvironment at fin
  cases was : db.fences.get envId with
  | none => simp only [was] at fin; cases fin
  | some fence =>
    simp only [was] at fin
    have env := (get_eq_some.mp was).2
    cases scanned : compactionPrefix cfg cur (freshHeadInboxIds envId cur db)
      (requiredConsumers envId db) (compactionCandidates fence limit db) with
    | mk ids hardCapForced =>
      rw [scanned] at fin
      obtain ⟨taken, rest, cands, rfl, eligible, replays⟩ := compactionPrefix_cases scanned
      cases ends : (taken.map (·.id)).getLast? with
      | none =>
        simp only [ends] at fin
        cases fin
        exact .idle
      | some purge =>
        simp only [ends] at fin
        have ordered : (taken.map (·.id)).Pairwise (· < ·) :=
          pairwise_map.mpr ((candidates_ascending fence limit db).sublist (cands ▸ sublist_append_left taken rest))
        obtain ⟨bounded, greatest⟩ := ascending_last ordered ends
        obtain ⟨last, lastMember, lastId⟩ := mem_map.mp (mem_of_getLast? ends)
        have each : ∀ row ∈ taken, Purged cfg cur envId fence purge db row := by
          intro row member
          have cand : row ∈ compactionCandidates fence limit db := cands ▸ mem_append_left _ member
          have sel := mem_select.mp (mem_of_mem_take cand)
          simp only [env, decide_eq_true_eq, isNone_iff_eq_none] at sel
          obtain ⟨was, own, above, intact⟩ := sel
          exact ⟨was, own, above, intact, (eligible row member).1,
            eligible_replayed (eligible row member).2, bounded _ (mem_map_of_mem member)⟩
        unfold purgePrefix at fin
        simp only [Bind.bind, Except.bind, Pure.pure, Except.pure, env] at fin
        split at fin
        · cases fin
        rename_i expired expires
        have acked : hardCapForced = false → ∀ cursor ∈ requiredConsumers envId db,
            purge ≤ cursor.ackedStreamPosition := by
          intro unforced cursor member
          have safe := (replays unforced last lastMember).2.2
          have positive := (each last lastMember).aboveFloor
          exact lastId ▸ safePosition_acknowledged (by omega) safe member
        obtain ⟨frame, consumers⟩ := consumers_compacted acked expires
        rw [if_neg (ne_nil_of_mem (mem_compactedIds (each last lastMember) (mem_map_of_mem lastMember))),
          greatest, frame] at fin
        cases fin
        exact .purged fence taken purge expired.cursors was each ⟨last, lastMember, lastId⟩ consumers

lemma compactEnvironments_related (rel : Db → Db → Prop) (refl : ∀ db, rel db db)
    (trans : ∀ a b c, rel a b → rel b c → rel a c)
    (compacts : ∀ envId db after, Compacted cfg cur envId db after → rel db after) :
    ∀ {environmentIds : List Uuid} {count compacted : Nat} {db after : Db},
      compactEnvironments cfg cur limit environmentIds count db = .ok (compacted, after) → rel db after := by
  intro environmentIds
  induction environmentIds with
  | nil =>
    intro count compacted db after fin
    cases fin
    exact refl db
  | cons envId environmentIds ih =>
    intro count compacted db after fin
    unfold compactEnvironments at fin
    simp only [Bind.bind, Except.bind, Pure.pure, Except.pure] at fin
    split at fin
    · cases fin
    rename_i pair first
    have step : rel db pair.2 := compacts envId db pair.2 (compactEnvironment_cases first)
    split at fin
    · cases fin
      exact step
    · exact trans _ _ _ step (ih fin)

end Clawdi.Observation
