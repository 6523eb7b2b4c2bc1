import Clawdi.Observation.Operations

namespace Clawdi.Observation
open Table

inductive ConsumerStep (fence : V2RuntimeEnvironmentFence) :
    Option V2RuntimeObservationConsumerCursor → V2RuntimeObservationConsumerCursor → Prop
  | registered (cur : V2RuntimeObservationConsumerCursor)
      (complete : fence.replayFloorStreamPosition = 0) (required : cur.required = true)
      (active : cur.state = .active) (acked : cur.ackedStreamPosition = 0) :
      ConsumerStep fence none cur
  | initialized (cur : V2RuntimeObservationConsumerCursor) (boundary : ExpiryBoundary)
      (expiredAt : Time) (required : cur.required = true)
      (expired : cur.state = .expired expiredAt) (acked : cur.ackedStreamPosition = 0)
      (expiry : cur.expiry = some boundary)
      (pos : boundary.streamPosition = fence.streamHighWater) :
      ConsumerStep fence none cur
  | expired (cur : V2RuntimeObservationConsumerCursor) (boundary : ExpiryBoundary) (now : Time)
      (active : cur.state = .active)
      (pos : boundary.streamPosition = fence.streamHighWater) :
      ConsumerStep fence (some cur) (expireCursor now boundary cur)
  | acknowledged (cur : V2RuntimeObservationConsumerCursor) (pos : Nat)
      (opaqueCursor : OpaqueCursor) (now : Time) (active : cur.state = .active)
      (forward : cur.ackedStreamPosition ≤ pos)
      (within : pos ≤ fence.streamHighWater) :
      ConsumerStep fence (some cur)
        { cur with
          ackedStreamPosition := pos
          ackedCursor := opaqueCursor
          acknowledgedAt := some now }
  | reset (cur : V2RuntimeObservationConsumerCursor) (boundary : ExpiryBoundary)
      (expiredAt now : Time) (epoch : Uuid) (opaqueCursor : OpaqueCursor)
      (expired : cur.state = .expired expiredAt) (expiry : cur.expiry = some boundary) :
      ConsumerStep fence (some cur)
        { cur with
          cursorEpoch := epoch
          state := .active
          ackedStreamPosition := boundary.streamPosition
          ackedCursor := opaqueCursor
          acknowledgedAt := some now
          replayHorizonStartedAt := now
          resetAt := some now }

inductive ConsumerChange (db : Db) : Db → Prop
  | unchanged : ConsumerChange db db
  | written (fence : V2RuntimeEnvironmentFence) (cur : V2RuntimeObservationConsumerCursor)
      (bound : db.fences.get cur.environmentId = some fence)
      (step : ConsumerStep fence (db.cursors.get (cursorKey cur)) cur) :
      ConsumerChange db { db with cursors := db.cursors.put cur }

lemma boundFence_eq {bind db fence}
    (hit : boundFence bind db = .ok fence) : db.fences.get bind.environmentId = some fence := by
  unfold boundFence raise at hit
  cases was : db.fences.get bind.environmentId with
  | none => simp only [was] at hit; cases hit
  | some row =>
    simp only [was] at hit
    split at hit
    · cases hit
    · cases hit; rfl

section
variable {cfg : Settings} {now : Time} {epoch : Uuid} {fence : V2RuntimeEnvironmentFence}
  {db after : Db} {error : RuntimeObservationProtocolError}

lemma install_change {cur : V2RuntimeObservationConsumerCursor}
    (bound : db.fences.get cur.environmentId = some fence) (was : db.cursors.get (cursorKey cur) = some cur)
    (installed : installCursorExpiryBoundary cfg now fence cur db = .ok (error, after)) :
    ConsumerChange db after := by
  unfold installCursorExpiryBoundary at installed
  cases st : cur.state with
  | expired expiredAt =>
    simp only [st] at installed
    cases installed
    exact .unchanged
  | active =>
    simp only [st, Bind.bind, Except.bind, Pure.pure, Except.pure] at installed
    split at installed
    · cases installed
    · rename_i boundary enc
      cases installed
      have step := ConsumerStep.expired cur boundary now st (expiryBoundary_position enc)
      rw [← was] at step
      exact .written fence _ bound step

variable {consumerId : String}

lemma initialize_change (bound : db.fences.get fence.environmentId = some fence)
    (gone : db.cursors.get (fence.environmentId, consumerId) = none)
    (initialized : initializeExpiredConsumer cfg now epoch fence consumerId db = .ok (error, after)) :
    ConsumerChange db after := by
  unfold initializeExpiredConsumer at initialized
  simp only [Bind.bind, Except.bind, Pure.pure, Except.pure] at initialized
  split at initialized
  · cases initialized
  split at initialized
  · cases initialized
  rename_i boundary enc
  cases initialized
  refine .written fence _ bound ?_
  simp only [cursorKey, gone]
  exact .initialized _ boundary now rfl rfl rfl rfl (expiryBoundary_position enc)

lemma expireInvalid_change (bound : db.fences.get fence.environmentId = some fence)
    (expired : expireInvalidCursor cfg now fence consumerId db = .ok (error, after)) : ConsumerChange db after := by
  unfold expireInvalidCursor at expired
  cases was : db.cursors.get (fence.environmentId, consumerId) with
  | none =>
    simp only [was] at expired
    cases expired
    exact .unchanged
  | some cur =>
    simp only [was] at expired
    have key : cursorKey cur = (fence.environmentId, consumerId) := (get_eq_some.mp was).2
    have env : cur.environmentId = fence.environmentId := congrArg Prod.fst key
    rw [← env] at bound
    rw [← key] at was
    exact install_change bound was expired

end

def Commits {α : Type} (db : Db) (res : Except Rejection (α × Db)) : Prop :=
  ConsumerChange db (committedConsumer db res)

section
variable {α β : Type} {db : Db}

lemma commits_failed (err : Failure) : Commits db (.error (.failed err) : Except Rejection (α × Db)) := .unchanged

lemma commits_lift {res} {next : β → Except Rejection (α × Db)}
    (goes : ∀ v, res = .ok v → Commits db (next v)) : Commits db (liftFailure res >>= next) := by
  cases res with
  | error err => exact commits_failed err
  | ok v => exact goes v rfl

variable {res : Except Failure (RuntimeObservationProtocolError × Db)}

lemma commits_raiseExpired (changes : ∀ error after, res = .ok (error, after) → ConsumerChange db after) :
    Commits db (raiseExpired res : Except Rejection (α × Db)) := by
  cases res with
  | error err => exact commits_failed err
  | ok pair => exact changes pair.1 pair.2 rfl

lemma validateOrExpire_cases (cfg : Settings) (opaqueCursor : OpaqueCursor)
    (envId : Uuid) (consumerId : String) (cur : V2RuntimeObservationConsumerCursor)
    (expire : Except Failure (RuntimeObservationProtocolError × Db)) :
    (∃ dec, validateCursorForConsumer cfg opaqueCursor envId consumerId cur =
      .ok dec ∧ validateOrExpire cfg opaqueCursor envId consumerId cur expire = .ok dec) ∨
    (∃ err, validateOrExpire cfg opaqueCursor envId consumerId cur expire =
      .error (.failed err)) ∨ validateOrExpire cfg opaqueCursor envId consumerId cur expire =
      raiseExpired expire := by
  unfold validateOrExpire
  cases validateCursorForConsumer cfg opaqueCursor envId consumerId cur with
  | ok dec => exact .inl ⟨dec, rfl, rfl⟩
  | error err =>
    right
    cases err with
    | protocol error =>
      dsimp only
      split
      · exact .inl ⟨_, rfl⟩
      · exact .inr rfl
    | valueError | runtimeError => exact .inl ⟨_, rfl⟩

lemma raiseExpired_bind {next : β → Except Rejection α} : (raiseExpired res >>= next) = raiseExpired res := by
  cases res <;> rfl

lemma raiseExpired_map {f : α → β} : (raiseExpired res : Except Rejection α).map f = raiseExpired res := by
  cases res <;> rfl

lemma except_map_bind {ε γ : Type} {res} {next : α → Except ε β} {f : β → γ} :
    (res >>= next).map f = res >>= fun v => (next v).map f := by
  cases res <;> rfl

lemma except_bind_ok {ε : Type} {res} {next : α → Except ε β} {v}
    (fin : (res >>= next) = .ok v) : ∃ middle, res = .ok middle ∧ next middle = .ok v := by
  cases res with
  | error err => cases fin
  | ok middle => exact ⟨middle, rfl, fin⟩

lemma liftFailure_ok {res : Except Failure α} {v : α} (lifted : liftFailure res = .ok v) : res = .ok v := by
  cases res with
  | error err => cases lifted
  | ok hit => exact congrArg _ (Except.ok.inj lifted)

lemma raiseExpired_ne_ok {v : α} : raiseExpired res ≠ .ok v := by
  unfold raiseExpired
  split <;> exact fun never => by cases never

variable {cur : V2RuntimeObservationConsumerCursor}
variable {expire : Except Failure (RuntimeObservationProtocolError × Db)}
variable {opaqueCursor : OpaqueCursor} {envId : Uuid} {consumerId : String}

lemma validateOrExpire_ok {cfg dec}
    (validated : validateOrExpire cfg opaqueCursor envId consumerId cur expire = .ok dec) :
    validateCursorForConsumer cfg opaqueCursor envId consumerId cur = .ok dec := by
  rcases validateOrExpire_cases cfg opaqueCursor envId consumerId cur expire with ⟨hit, valid, same⟩ |
    ⟨err, same⟩ | same
  · rw [same] at validated
    cases validated
    exact valid
  · rw [same] at validated
    cases validated
  · rw [same] at validated
    exact absurd validated raiseExpired_ne_ok

lemma commits_validate {cfg} {next : DecodedRuntimeObservationCursor → Except Rejection (α × Db)}
    (changes : ∀ error after, expire = .ok (error, after) → ConsumerChange db after)
    (goes : ∀ dec, validateCursorForConsumer cfg opaqueCursor envId consumerId cur = .ok dec →
      Commits db (next dec)) :
    Commits db (validateOrExpire cfg opaqueCursor envId consumerId cur expire >>= next) := by
  rcases validateOrExpire_cases cfg opaqueCursor envId consumerId cur expire with ⟨dec, valid, same⟩ |
    ⟨err, same⟩ | same
  · rw [same]
    exact goes dec valid
  · rw [same]
    exact commits_failed err
  · rw [same, raiseExpired_bind]
    exact commits_raiseExpired changes

end

lemma validate_active {cfg opaqueCursor envId consumerId cur dec}
    (valid : validateCursorForConsumer cfg opaqueCursor envId consumerId cur = .ok dec) :
    cur.state = .active ∧ decodeRuntimeObservationCursor cfg opaqueCursor = .ok dec ∧
      dec.environmentId = envId ∧ dec.consumerId = consumerId ∧
      dec.cursorEpoch = cur.cursorEpoch ∧ ∀ boundary, cur.expiry = some boundary →
        boundary.streamPosition ≤ dec.streamPosition := by
  unfold validateCursorForConsumer at valid
  cases st : cur.state with
  | expired expiredAt => simp only [st] at valid; cases valid
  | active =>
    simp only [st] at valid
    split at valid
    · split at valid <;> cases valid
    · cases valid
    · rename_i claims decodes
      split at valid
      · cases valid
      rename_i bound
      split at valid
      · cases valid
      rename_i beyond
      cases valid
      simp only [not_or, not_not, ne_eq] at bound
      refine ⟨rfl, decodes, bound.1, bound.2.1, bound.2.2, ?_⟩
      intro boundary expiry
      simpa [expiry] using beyond

section
variable (cfg : Settings) (now : Time) (epoch : Uuid) (bind : ConsumerBinding) (db : Db)

lemma register_change : Commits db (registerRuntimeObservationConsumer cfg now epoch bind db) := by
  refine commits_lift fun fence required => ?_
  have bound := (requireActive_eq required).1
  have key := (get_eq_some.mp bound).2
  cases was : db.cursors.get (bind.environmentId, bind.consumerId) with
  | some cur =>
    cases st : cur.state with
    | expired expiredAt =>
      simp only [st]
      exact .unchanged
    | active =>
      simp only [st]
      exact commits_lift fun opaqueCursor _ => .unchanged
  | none =>
    simp only
    split
    · refine commits_raiseExpired fun error after initialized => ?_
      exact initialize_change (key ▸ bound) (key ▸ was) initialized
    · refine commits_lift fun opaqueCursor _ => ?_
      refine .written fence _ bound ?_
      simp only [cursorKey, was]
      exact .registered _ (by omega) rfl rfl rfl

lemma acknowledge_change (opaqueCursor : OpaqueCursor) :
    Commits db (acknowledgeRuntimeObservationCursor cfg now epoch bind opaqueCursor db) := by
  refine commits_lift fun fence hit => ?_
  have bound := boundFence_eq hit
  have fenceKey := (get_eq_some.mp bound).2
  cases was : db.cursors.get (bind.environmentId, bind.consumerId) with
  | none =>
    refine commits_raiseExpired fun error after initialized => ?_
    exact initialize_change (fenceKey ▸ bound) (fenceKey ▸ was) initialized
  | some cur =>
    have key : cursorKey cur = (bind.environmentId, bind.consumerId) := (get_eq_some.mp was).2
    have env : cur.environmentId = bind.environmentId := congrArg Prod.fst key
    rw [← env] at bound
    rw [← key] at was
    refine commits_validate (fun error after installed => install_change bound was installed) fun dec valid => ?_
    split
    · exact commits_raiseExpired fun error after installed => install_change bound was installed
    · split
      · exact commits_failed _
      · have step : ConsumerStep fence (some cur) _ := .acknowledged cur
          dec.streamPosition opaqueCursor now (validate_active valid).1 (by omega) (by omega)
        rw [← was] at step
        exact .written fence _ bound step

lemma read_change (req : ReadRequest) (afterCursor : OpaqueCursor) :
    Commits db ((readRuntimeObservations cfg now epoch req afterCursor db).map (·, db)) := by
  unfold readRuntimeObservations
  rw [except_map_bind]
  refine commits_lift fun fence hit => ?_
  have bound := boundFence_eq hit
  have fenceKey := (get_eq_some.mp bound).2
  rw [← fenceKey] at bound
  cases was : db.cursors.get (req.binding.environmentId, req.binding.consumerId) with
  | none =>
    simp only [raiseExpired_map]
    refine commits_raiseExpired fun error after initialized => ?_
    exact initialize_change bound (fenceKey ▸ was) initialized
  | some cur =>
    simp only [except_map_bind]
    refine commits_validate (fun error after expired => expireInvalid_change bound expired) fun dec valid => ?_
    split
    · rw [raiseExpired_map]
      exact commits_raiseExpired fun error after expired => expireInvalid_change bound expired
    split
    · rw [raiseExpired_map]
      exact commits_raiseExpired fun error after expired => expireInvalid_change bound expired
    · cases readPage cfg req fence cur dec.streamPosition db with
      | error | ok => exact .unchanged

lemma reset_change : ConsumerChange db (committed db (resetRuntimeObservationConsumer cfg now epoch bind db)) := by
  unfold resetRuntimeObservationConsumer
  cases hit : boundFence bind db with
  | error err => exact .unchanged
  | ok fence =>
    have bound := boundFence_eq hit
    simp only [Bind.bind, Except.bind]
    cases was : db.cursors.get (bind.environmentId, bind.consumerId) with
    | none => exact .unchanged
    | some cur =>
      have key : cursorKey cur = (bind.environmentId, bind.consumerId) := (get_eq_some.mp was).2
      have env : cur.environmentId = bind.environmentId := congrArg Prod.fst key
      cases st : cur.state with
      | active => simp only [st]; exact .unchanged
      | expired expiredAt =>
        cases expiry : cur.expiry with
        | none => simp only [st, expiry]; exact .unchanged
        | some boundary =>
          simp only [st, expiry]
          split
          · exact .unchanged
          · rename_i opaqueCursor _
            have step : ConsumerStep fence (some cur) _ := .reset cur boundary expiredAt now
              epoch opaqueCursor st expiry
            simp only [expiry] at step
            rw [← was, ← key] at step
            rw [← env] at bound
            exact .written fence _ bound step

lemma loseInitialization_change : ConsumerChange db
      (committed db (loadConcurrentlyInitializedConsumerError cfg now epoch bind db)) := by
  unfold loadConcurrentlyInitializedConsumerError
  cases hit : boundFence bind db with
  | error err => exact .unchanged
  | ok fence =>
    have bound := boundFence_eq hit
    have fenceKey := (get_eq_some.mp bound).2
    simp only [Bind.bind, Except.bind]
    cases was : db.cursors.get (bind.environmentId, bind.consumerId) with
    | none =>
      cases initialized : initializeExpiredConsumer cfg now epoch fence bind.consumerId db with
      | error err => exact .unchanged
      | ok pair => exact initialize_change (fenceKey ▸ bound) (fenceKey ▸ was) initialized
    | some cur =>
      have key : cursorKey cur = (bind.environmentId, bind.consumerId) := (get_eq_some.mp was).2
      have env : cur.environmentId = bind.environmentId := congrArg Prod.fst key
      rw [← env] at bound
      rw [← key] at was
      simp only
      cases installed : installCursorExpiryBoundary cfg now fence cur db with
      | error err => exact .unchanged
      | ok pair => exact install_change bound was installed

end
end Clawdi.Observation
