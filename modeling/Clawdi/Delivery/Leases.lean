import Clawdi.Delivery.Workers

namespace Clawdi.Delivery
open World Table

def Stage.lease : Stage → Option (Nat × LeaseToken)
  | .idle => none
  | .claimed id token | .sending id token _ _ | .ended id token _ _ | .cancelled id token => some (id, token)

def World.Carries (w : World) (worker id : Nat) (token : LeaseToken) : Prop :=
  ∃ stage, w.workers[worker]? = some stage ∧ stage.lease = some (id, token)

structure Tokens (w : World) : Prop where
  locked : ∀ row ∈ w.deliveries, ∀ token, row.lockedBy = some token → token.uuid < w.nextUuid
  carried : ∀ worker id token, w.Carries worker id token → token.uuid < w.nextUuid
  distinct : ∀ worker alt id id' token, w.Carries worker id token → w.Carries alt id' token → worker = alt

structure Budget (w : World) (row : ChannelDelivery) : Prop where
  bounded : row.attempts ≤ row.maxAttempts
  pending : row.status = .pending → row.attempts < row.maxAttempts
  sent : w.sends.count row.id ≤ row.attempts
  unspent : ∀ (worker : Nat) token, w.workers[worker]? = some (.claimed row.id token) →
    row.status = .inProgress → row.lockedBy = some token → w.sends.count row.id < row.attempts

def Sending (w : World) : Prop :=
  ∀ (worker id : Nat) token prov preparedAt, w.workers[worker]? = some (.sending id token prov preparedAt) →
    ∃ row ∈ w.deliveries, row.id = id ∧ row.status = .inProgress ∧ row.lockedBy = some token ∧
      row.lockedAt = some preparedAt ∧ w.now < preparedAt + deliveryLease

structure Leased (w : World) : Prop where
  tokens : Tokens w
  sending : Sending w
  budget : ∀ row ∈ w.deliveries, Budget w row
  stored : ∀ id, w.deliveries.get id = none → id ∉ w.sends

lemma leased_start : Leased start where
  tokens :=
    { locked := by intro row mem; exact absurd mem (not_mem_empty row)
      carried := by rintro worker id token ⟨stage, located, _⟩; simp [start] at located
      distinct := by rintro worker alt id id' token ⟨stage, located, _⟩; simp [start] at located }
  sending := by intro worker id token prov preparedAt located; simp [start] at located
  budget := by intro row mem; exact absurd mem (not_mem_empty row)
  stored := by intro id _; simp [start]

section
variable {w : World} {worker : Nat} {stage : Stage}

lemma setWorker_cases {alt : Nat} {hit} (located : (w.setWorker worker stage).workers[alt]? = some hit) :
    alt = worker ∧ hit = stage ∨ alt ≠ worker ∧ w.workers[alt]? = some hit := by
  rw [setWorker, List.getElem?_set] at located
  by_cases same : worker = alt
  · rw [if_pos same] at located
    split at located
    · exact .inl ⟨same.symm, (Option.some.inj located).symm⟩
    · cases located
  · rw [if_neg same] at located
    exact .inr ⟨fun equal => same equal.symm, located⟩

lemma carries_setWorker {alt id : Nat} {token}
    (keeps : ∀ id token, stage.lease = some (id, token) → w.Carries worker id token)
    (carries : (w.setWorker worker stage).Carries alt id token) : w.Carries alt id token := by
  obtain ⟨hit, located, lease⟩ := carries
  rcases setWorker_cases located with ⟨rfl, rfl⟩ | ⟨_, pre⟩
  · exact keeps id token lease
  · exact ⟨hit, pre, lease⟩

end

/-- The row after its attempt has ended; only a claim that was not sent is refunded. -/
structure Settled (refunds : Bool) (pre after : ChannelDelivery) : Prop where
  id : after.id = pre.id
  lockedBy : after.lockedBy = none
  status : after.status ≠ .inProgress
  maxAttempts : after.maxAttempts = pre.maxAttempts
  attempts : after.attempts = pre.attempts ∧ (after.status = .pending → pre.attempts < pre.maxAttempts) ∨
    refunds = true ∧ after.attempts = pre.attempts - 1

section
variable (delivery : ChannelDelivery)

lemma returned_settled (refunds : Bool) (now : Nat) : Settled refunds delivery (delivery.returned now) where
  id := rfl
  lockedBy := rfl
  status := by
    show delivery.retryStatus ≠ .inProgress
    rw [ChannelDelivery.retryStatus]
    split <;> decide
  maxAttempts := rfl
  attempts := by
    refine Or.inl ⟨rfl, ?_⟩
    show delivery.retryStatus = .pending → _
    rw [ChannelDelivery.retryStatus]
    split
    · intro failed
      cases failed
    · intro _
      omega

lemma scheduleDeliveryRetry_settled (refunds : Bool) (error : String) (useSafeDiagnostics : Bool)
    (retryAfter : Option Nat) (now : Nat) : Settled refunds delivery
      (delivery.scheduleDeliveryRetry error useSafeDiagnostics retryAfter now) := by
  rw [ChannelDelivery.scheduleDeliveryRetry]
  split
  · exact ⟨rfl, rfl, by simp, rfl, .inl ⟨rfl, by simp⟩⟩
  · exact ⟨rfl, rfl, by simp, rfl, .inl ⟨rfl, by intro _; omega⟩⟩

lemma applyDeliveryError_settled (exc : HttpException) (prov : Option String) (now : Nat) :
    Settled (isDeliveryLinkLockContention exc) delivery (delivery.applyDeliveryError exc prov now) := by
  rw [ChannelDelivery.applyDeliveryError]
  split
  · exact scheduleDeliveryRetry_settled delivery _ _ _ _ _
  split
  · rename_i contended
    exact ⟨rfl, rfl, by simp [ChannelDelivery.scheduleDeliveryLinkContentionRetry], rfl, Or.inr ⟨contended, rfl⟩⟩
  split
  · exact ⟨rfl, rfl, by simp [ChannelDelivery.failDelivery], rfl,
      Or.inl ⟨rfl, by simp [ChannelDelivery.failDelivery]⟩⟩
  · exact scheduleDeliveryRetry_settled delivery _ _ _ _ _

lemma exception_not_contention (err : SendFailure) : isDeliveryLinkLockContention err.exception = false := by
  cases err with
  | unresolved label =>
    have differ : label ++ " could not resolve to a public host" ≠
        deliveryLinkLockContentionError := by
      intro same
      have last := congrArg (fun text : String => text.toList.getLast?) same
      simp [deliveryLinkLockContentionError, String.toList_append, List.getLast?_append] at last
    simp [isDeliveryLinkLockContention, SendFailure.exception, HttpException.text, differ]
  | _ =>
    simp [isDeliveryLinkLockContention, SendFailure.exception, HttpException.text, deliveryLinkLockContentionError]

lemma succeeded_settled (refunds : Bool) (resp : ProviderResponse) :
    Settled refunds delivery (delivery.succeeded resp) :=
  ⟨rfl, rfl, by simp [ChannelDelivery.succeeded], rfl, .inl ⟨rfl, by simp [ChannelDelivery.succeeded]⟩⟩

end

section
variable {w next : World}

lemma Tokens.keep (toks : Tokens w) (more : w.nextUuid ≤ next.nextUuid)
    (locked : ∀ row ∈ next.deliveries, ∀ token, row.lockedBy = some token →
      ∃ pre ∈ w.deliveries, pre.lockedBy = some token)
    (carried : ∀ worker id token, next.Carries worker id token → w.Carries worker id token) : Tokens next where
  locked := by
    intro row mem token held
    obtain ⟨pre, stored, same⟩ := locked row mem token held
    have below := toks.locked pre stored token same
    omega
  carried := by
    intro worker id token carries
    have below := toks.carried worker id token (carried worker id token carries)
    omega
  distinct := by
    intro worker alt id id' token carries carries'
    exact toks.distinct worker alt id id' token (carried _ _ _ carries) (carried _ _ _ carries')

lemma Sending.keep (sending : Sending w) (now : next.now = w.now)
    (stages : ∀ (worker id : Nat) token prov preparedAt,
      next.workers[worker]? = some (.sending id token prov preparedAt) →
        w.workers[worker]? = some (.sending id token prov preparedAt) ∧
        ∀ row ∈ w.deliveries, row.id = id → row.status = .inProgress →
          row.lockedBy = some token → row.lockedAt = some preparedAt →
          w.now < preparedAt + deliveryLease → row ∈ next.deliveries) : Sending next := by
  intro worker id token prov preparedAt located
  obtain ⟨pre, kept⟩ := stages worker id token prov preparedAt located
  obtain ⟨row, stored, same, status, lockedBy, lockedAt, inTime⟩ := sending worker id token prov preparedAt pre
  have mem := kept row stored same status lockedBy lockedAt inTime
  exact ⟨row, mem, same, status, lockedBy, lockedAt, by rw [now]; exact inTime⟩

lemma Budget.keep {row} (budget : Budget w row) (sends : next.sends.count row.id = w.sends.count row.id)
    (claims : ∀ (worker : Nat) token, next.workers[worker]? = some (.claimed row.id token) →
      row.lockedBy = some token → w.workers[worker]? = some (.claimed row.id token)) : Budget next row where
  bounded := budget.bounded
  pending := budget.pending
  sent := by rw [sends]; exact budget.sent
  unspent := by
    intro worker token located status lockedBy
    rw [sends]
    exact budget.unspent worker token (claims worker token located lockedBy) status lockedBy

end

lemma ownedDelivery_some {w : World} {id : Nat} {token owned} (hit : w.ownedDelivery id token = some owned) :
    owned ∈ w.deliveries ∧ owned.id = id ∧ owned.status = .inProgress ∧ owned.lockedBy = some token := by
  rw [ownedDelivery, Option.filter_eq_some_iff, Bool.and_eq_true, decide_eq_true_eq, decide_eq_true_eq] at hit
  obtain ⟨stored, status, lockedBy⟩ := hit
  obtain ⟨mem, same⟩ := get_eq_some.mp stored
  exact ⟨mem, same, status, lockedBy⟩

lemma absent_of_put {deliveries : Deliveries} {wrote} {id : Nat}
    (gone : (deliveries.put wrote).get id = none) : wrote.id ≠ id ∧ deliveries.get id = none := by
  by_cases same : wrote.id = id
  · rw [get_put_of_eq _ same] at gone
    cases gone
  · rw [get_put_of_ne _ same] at gone
    exact ⟨same, gone⟩

section
variable {w : World}

lemma Leased.other_row (leased : Leased w) {worker alt id : Nat} {token token'}
    {owned row : ChannelDelivery} (carries : w.Carries worker id token)
    (mine : owned ∈ w.deliveries) (held : owned.lockedBy = some token)
    (carries' : w.Carries alt row.id token') (stored : row ∈ w.deliveries)
    (held' : row.lockedBy = some token') (differ : alt ≠ worker) : row.id ≠ owned.id := by
  intro same
  have equal := eq_of_key stored mine same
  subst equal
  have toks : token' = token := Option.some.inj (held'.symm.trans held)
  subst toks
  exact differ (leased.tokens.distinct _ _ _ _ _ carries' carries)

lemma setWorker_leased (leased : Leased w) {worker : Nat} {stage : Stage}
    (keeps : ∀ id token, stage.lease = some (id, token) → w.Carries worker id token)
    (quiet : ∀ id token prov preparedAt, stage ≠ .sending id token prov preparedAt)
    (noClaim : ∀ id token, stage ≠ .claimed id token) : Leased (w.setWorker worker stage) where
  tokens := by
    refine leased.tokens.keep le_rfl ?_ fun _ _ _ => carries_setWorker keeps
    intro row mem token held
    exact ⟨row, mem, held⟩
  sending := by
    apply @Sending.keep w (w.setWorker worker stage) leased.sending rfl
    intro alt id token prov preparedAt located
    rcases setWorker_cases located with ⟨_, same⟩ | ⟨_, pre⟩
    · exact absurd same.symm (quiet id token prov preparedAt)
    · exact ⟨pre, fun row mem _ _ _ _ _ => mem⟩
  budget := by
    intro row mem
    apply @Budget.keep w (w.setWorker worker stage) row (leased.budget row mem) rfl
    intro alt token located _
    rcases setWorker_cases located with ⟨_, same⟩ | ⟨_, pre⟩
    · exact absurd same.symm (noClaim row.id token)
    · exact pre
  stored := leased.stored

lemma idle_leased (leased : Leased w) (worker : Nat) : Leased (w.setWorker worker .idle) := by
  apply setWorker_leased leased
  · intro id token lease
    cases lease
  · intro id token prov preparedAt same
    cases same
  · intro id token same
    cases same

lemma settle_leased (leased : Leased w) {worker id : Nat} {token}
    {owned wrote} {refunds} (carries : w.Carries worker id token)
    (hit : w.ownedDelivery id token = some owned) (done : Settled refunds owned wrote)
    (unsent : refunds = true → w.workers[worker]? = some (.claimed id token)) :
    Leased { w.setWorker worker .idle with deliveries := w.deliveries.put wrote } := by
  let next : World := { w.setWorker worker .idle with deliveries := w.deliveries.put wrote }
  obtain ⟨mem, rfl, status, held⟩ := ownedDelivery_some hit
  have budget := leased.budget owned mem
  have less : refunds = true → w.sends.count owned.id < owned.attempts := by
    intro refunded
    exact budget.unspent worker token (unsent refunded) status held
  have idle : Leased (w.setWorker worker .idle) := idle_leased leased worker
  constructor
  · apply @Tokens.keep _ next idle.tokens le_rfl
    · intro row inNext token' held'
      rcases mem_put.mp inNext with rfl | ⟨pre, _⟩
      · rw [done.lockedBy] at held'
        cases held'
      · exact ⟨row, pre, held'⟩
    · intro _ _ _ carries'
      exact carries'
  · apply @Sending.keep _ next idle.sending rfl
    intro alt id token' prov preparedAt located
    refine ⟨located, ?_⟩
    rintro row stored rfl _ held' _ _
    rcases setWorker_cases located with ⟨_, same⟩ | ⟨differ, pre⟩
    · cases same
    · have apart := leased.other_row carries mem held ⟨_, pre, rfl⟩ stored held' differ
      rw [← done.id] at apart
      exact mem_put.mpr (.inr ⟨stored, apart⟩)
  · intro row inNext
    rcases mem_put.mp inNext with rfl | ⟨pre, _⟩
    · constructor
      · have bounded := budget.bounded
        rw [done.maxAttempts]
        rcases done.attempts with ⟨same, _⟩ | ⟨_, refunded⟩ <;> omega
      · intro pend
        have bounded := budget.bounded
        rw [done.maxAttempts]
        rcases done.attempts with ⟨same, below⟩ | ⟨refund, refunded⟩
        · have := below pend
          omega
        · have := less refund
          omega
      · show w.sends.count row.id ≤ row.attempts
        have sent := budget.sent
        rw [done.id]
        rcases done.attempts with ⟨same, _⟩ | ⟨refund, refunded⟩
        · omega
        · have := less refund
          omega
      · intro _ _ _ prog
        exact absurd prog done.status
    · exact (idle.budget row pre).keep rfl fun _ _ located _ => located
  · intro id gone
    exact leased.stored id (absent_of_put gone).2

end
end Clawdi.Delivery
