import Clawdi.Delivery.Leases
import Clawdi.Lib.Transition

namespace Clawdi.Delivery
open World Transition List Table Nat
variable {w : World}
section

lemma enqueue_leased (leased : Leased w) (id acctId mid : Nat) (link : Option Nat) :
    Leased (w.enqueue id acctId mid link) := by
  rw [enqueue]
  split
  · exact leased
  rename_i gone
  let new : ChannelDelivery :=
    { id := id, accountId := acctId, botAgentLinkId := link, messageId := mid
      status := .pending, attempts := 0, maxAttempts := 5, nextAttemptAt := w.now
      lockedAt := none, lockedBy := none, lastError := none, providerResponse := none
      createdAt := w.now }
  let next : World := { w with deliveries := w.deliveries.put new }
  show Leased next
  constructor
  · apply @Tokens.keep w next leased.tokens le_rfl
    · intro row mem token held
      rcases mem_put.mp mem with rfl | ⟨pre, _⟩
      · cases held
      · exact ⟨row, pre, held⟩
    · intro _ _ _ carries
      exact carries
  · apply @Sending.keep w next leased.sending rfl
    intro worker alt token prov preparedAt located
    refine ⟨located, ?_⟩
    intro row mem _ _ _ _ _
    exact mem_put.mpr (.inr ⟨mem, get_eq_none.mp gone row mem⟩)
  · intro row mem
    rcases mem_put.mp mem with rfl | ⟨pre, _⟩
    · have none : w.sends.count id = 0 := count_eq_zero.mpr (leased.stored id gone)
      exact ⟨zero_le 5, fun _ => zero_lt_succ 4, none.le, fun _ _ _ status => by cases status⟩
    · exact @Budget.keep w next row (leased.budget row pre) rfl fun _ _ located _ => located
  · intro alt missing
    exact leased.stored alt (absent_of_put missing).2

lemma start_leased (leased : Leased w) : Leased { w with workers := w.workers ++ [.idle] } := by
  let next : World := { w with workers := w.workers ++ [.idle] }
  have pre : ∀ (worker : Nat) stage, next.workers[worker]? = some stage → stage ≠ .idle →
      w.workers[worker]? = some stage := by
    intro worker stage located busy
    rw [List.getElem?_append] at located
    split at located
    · exact located
    · have idle := mem_of_getElem? located
      rw [mem_singleton] at idle
      exact absurd idle busy
  constructor
  · apply @Tokens.keep _ next leased.tokens le_rfl
    · intro row mem token held
      exact ⟨row, mem, held⟩
    · rintro worker id token ⟨stage, located, lease⟩
      refine ⟨stage, pre worker stage located ?_, lease⟩
      rintro rfl
      cases lease
  · apply @Sending.keep _ next leased.sending rfl
    intro worker id token prov preparedAt located
    exact ⟨pre worker _ located (by simp), fun row mem _ _ _ _ _ => mem⟩
  · intro row mem
    apply @Budget.keep _ next row (leased.budget row mem) rfl
    intro worker token located _
    exact pre worker _ located (by simp)
  · exact leased.stored

lemma nextDelivery_some {view delivery} (hit : w.nextDelivery view = some delivery) :
    delivery ∈ w.deliveries ∧ delivery.status = .pending ∧ delivery.nextAttemptAt ≤ w.now := by
  have mem := mem_select.mp (mem_of_head? hit)
  simp only [View.claimable, Bool.and_eq_true, decide_eq_true_eq] at mem
  exact ⟨mem.1, mem.2.1.1.1.1, mem.2.1.1.1.2⟩

variable {limit worker : Nat}

lemma claim_leased (leased : Leased w) (workerId : String) (view : View) :
    Leased (w.claim worker workerId view) := by
  rw [claim]
  split
  · exact leased
  rename_i delivery hit
  obtain ⟨mem, pend, _⟩ := nextDelivery_some hit
  have budget := leased.budget delivery mem
  let token : LeaseToken := ⟨workerId, w.nextUuid⟩
  let next : World :=
    { w.setWorker worker (.claimed delivery.id token) with
      deliveries := w.deliveries.put (delivery.claimed token w.now)
      nextUuid := w.nextUuid + 1 }
  have carries_cases : ∀ alt id held, next.Carries alt id held →
      alt = worker ∧ held = token ∨ w.Carries alt id held := by
    rintro alt id held ⟨stage, located, lease⟩
    rcases setWorker_cases located with ⟨same, rfl⟩ | ⟨_, pre⟩
    · exact .inl ⟨same, (Prod.mk.inj (Option.some.inj lease)).2.symm⟩
    · exact .inr ⟨stage, pre, lease⟩
  show Leased next
  constructor
  · constructor
    · intro row inNext held lockedBy
      show held.uuid < w.nextUuid + 1
      rcases mem_put.mp inNext with rfl | ⟨pre, _⟩
      · cases lockedBy
        exact lt_succ_self _
      · exact lt_succ_of_lt (leased.tokens.locked row pre held lockedBy)
    · intro alt id held carries
      show held.uuid < w.nextUuid + 1
      rcases carries_cases alt id held carries with ⟨_, rfl⟩ | pre
      · exact lt_succ_self _
      · exact lt_succ_of_lt (leased.tokens.carried alt id held pre)
    · intro one alt id id' held first snd
      rcases carries_cases one id held first with ⟨here, rfl⟩ | pre
      · rcases carries_cases alt id' token snd with ⟨there, _⟩ | before'
        · rw [here, there]
        · exact absurd (leased.tokens.carried _ _ _ before') (lt_irrefl _)
      · rcases carries_cases alt id' held snd with ⟨_, rfl⟩ | before'
        · exact absurd (leased.tokens.carried _ _ _ pre) (lt_irrefl _)
        · exact leased.tokens.distinct one alt id id' held pre before'
  · apply @Sending.keep w next leased.sending rfl
    intro alt id held prov preparedAt located
    rcases setWorker_cases located with ⟨_, same⟩ | ⟨_, pre⟩
    · cases same
    refine ⟨pre, ?_⟩
    intro row was _ prog _ _ _
    refine mem_put.mpr (.inr ⟨was, ?_⟩)
    intro same
    have equal : row = delivery := eq_of_key was mem same
    rw [equal, pend] at prog
    cases prog
  · intro row inNext
    rcases mem_put.mp inNext with rfl | ⟨pre, apart⟩
    · have below := budget.pending pend
      have sent := budget.sent
      constructor
      · exact below
      · intro status
        cases status
      · exact le_succ_of_le sent
      · intro _ _ _ _ _
        exact lt_succ_of_le sent
    · apply @Budget.keep w next row (leased.budget row pre) rfl
      intro alt held located lockedBy
      rcases setWorker_cases located with ⟨_, same⟩ | ⟨_, old⟩
      · have claimed := Stage.claimed.inj same
        rw [claimed.2] at lockedBy
        exact absurd (leased.tokens.locked row pre token lockedBy) (lt_irrefl _)
      · exact old
  · intro id gone
    exact leased.stored id (absent_of_put gone).2

lemma prepare_leased (leased : Leased w) {id : Nat} {token}
    (located : w.workers[worker]? = some (.claimed id token)) (lookups : Lookups) :
    Leased (w.prepare worker id token lookups) := by
  have carries : w.Carries worker id token := ⟨_, located, rfl⟩
  rw [prepare]
  split
  · exact idle_leased leased worker
  rename_i owned hit
  split
  · rename_i exc _
    exact settle_leased leased carries hit (applyDeliveryError_settled owned exc _ _) fun _ => located
  rename_i prov _
  obtain ⟨mem, rfl, status, held⟩ := ownedDelivery_some hit
  have budget := leased.budget owned mem
  have less := budget.unspent worker token located status held
  let wrote : ChannelDelivery := { owned with lockedAt := some w.now }
  let next : World :=
    { w.setWorker worker (.sending owned.id token prov w.now) with
      deliveries := w.deliveries.put wrote, sends := owned.id :: w.sends }
  show Leased next
  constructor
  · apply @Tokens.keep w next leased.tokens le_rfl
    · intro row inNext token' held'
      rcases mem_put.mp inNext with rfl | ⟨pre, _⟩
      · exact ⟨owned, mem, held'⟩
      · exact ⟨row, pre, held'⟩
    · intro alt id' token'
      apply carries_setWorker
      intro id'' token'' lease
      cases lease
      exact carries
  · intro alt id' token' provider' preparedAt located'
    rcases setWorker_cases located' with ⟨_, same⟩ | ⟨differ, pre⟩
    · cases same
      refine ⟨wrote, mem_put_self _ _, rfl, status, held, rfl, ?_⟩
      show w.now < w.now + deliveryLease
      exact Nat.lt_add_of_pos_right (by decide)
    · obtain ⟨row, was, rfl, status', held', rest⟩ :=
        leased.sending alt id' token' provider' preparedAt pre
      have apart := leased.other_row carries mem held ⟨_, pre, rfl⟩ was held' differ
      exact ⟨row, mem_put.mpr (.inr ⟨was, apart⟩), rfl, status', held', rest⟩
  · intro row inNext
    rcases mem_put.mp inNext with rfl | ⟨pre, apart⟩
    · constructor
      · exact budget.bounded
      · intro pend
        exact absurd (status.symm.trans pend) (by simp)
      · show (owned.id :: w.sends).count owned.id ≤ owned.attempts
        rw [count_cons_self]
        exact less
      · intro alt token' located' _ held'
        have toks : token' = token := Option.some.inj (held'.symm.trans held)
        subst toks
        rcases setWorker_cases located' with ⟨_, same⟩ | ⟨differ, old⟩
        · cases same
        · exact absurd (leased.tokens.distinct _ _ _ _ _ ⟨_, old, rfl⟩ carries) differ
    · have differ : owned.id ≠ row.id := fun same => apart same.symm
      apply @Budget.keep w next row (leased.budget row pre)
      · exact count_cons_of_ne differ
      · intro alt token' located' _
        rcases setWorker_cases located' with ⟨_, same⟩ | ⟨_, old⟩
        · cases same
        · exact old
  · intro alt missing
    obtain ⟨differ, gone⟩ := absent_of_put missing
    show alt ∉ owned.id :: w.sends
    rw [mem_cons, not_or]
    exact ⟨fun same => differ same.symm, leased.stored alt gone⟩

variable {locked : Nat → Bool} {row : ChannelDelivery}

lemma mem_expiredIds (was : row ∈ w.deliveries) (listed : row.id ∈ w.expiredIds limit locked) :
    expired w.now row = true := by
  obtain ⟨alt, taken, same⟩ := mem_map.mp listed
  have sel := mem_select.mp (mem_of_mem_take taken)
  rw [Bool.and_eq_true] at sel
  rw [eq_of_key was sel.1 same.symm]
  exact sel.2.1

lemma expired_iff {now : Nat} : expired now row = true ↔
    row.status = .inProgress ∧ ∀ lockedAt ∈ row.lockedAt, lockedAt + deliveryLease ≤ now := by
  simp [expired, Option.all_eq_true]

lemma mem_reap : row ∈ (w.reap limit locked).deliveries ↔
      ∃ pre ∈ w.deliveries, reaped (w.expiredIds limit locked) w.now pre = row := by
  let ids := w.expiredIds limit locked
  show row ∈ w.deliveries.update (reaped ids w.now) (reaped_id ids w.now) ↔ _
  exact mem_update

lemma reap_leased (leased : Leased w) (limit : Nat) (locked : Nat → Bool) : Leased (w.reap limit locked) := by
  let next : World := w.reap limit locked
  have rows : ∀ row ∈ next.deliveries, ∃ pre ∈ w.deliveries,
      row = pre ∨ row = pre.returned w.now := by
    intro row mem
    obtain ⟨pre, was, rfl⟩ := mem_reap.mp mem
    refine ⟨pre, was, ?_⟩
    rw [reaped]
    split
    · exact .inr rfl
    · exact .inl rfl
  constructor
  · apply @Tokens.keep w next leased.tokens le_rfl
    · intro row mem token held
      obtain ⟨pre, was, rfl | rfl⟩ := rows row mem
      · exact ⟨row, was, held⟩
      · cases held
    · intro _ _ _ carries
      exact carries
  · apply @Sending.keep w next leased.sending rfl
    intro worker id token prov preparedAt located
    refine ⟨located, ?_⟩
    intro row was same _ _ lockedAt inTime
    have kept : reaped (w.expiredIds limit locked) w.now row = row := by
      apply if_neg
      intro listed
      have late := (expired_iff.mp (mem_expiredIds was listed)).2 preparedAt lockedAt
      omega
    exact mem_reap.mpr ⟨row, was, kept⟩
  · intro row mem
    obtain ⟨pre, was, rfl | rfl⟩ := rows row mem
    · exact @Budget.keep w next row (leased.budget row was) rfl fun _ _ located _ => located
    · have budget := leased.budget pre was
      have done := returned_settled pre false w.now
      constructor
      · exact budget.bounded
      · intro pend
        rcases done.attempts with ⟨_, below⟩ | ⟨no, _⟩
        · exact below pend
        · cases no
      · exact budget.sent
      · intro _ _ _ prog
        exact absurd prog done.status
  · intro id gone
    have mapped : next.deliveries.get id = (w.deliveries.get id).map _ :=
      get_update w.deliveries _ (reaped_id (w.expiredIds limit locked) w.now) id
    exact leased.stored id (Option.map_eq_none_iff.mp (mapped.symm.trans gone))

lemma wait_leased (leased : Leased w) (duration : Nat)
    (inTime : w.workers.all (Stage.inTime (w.now + duration)) = true) :
    Leased { w with now := w.now + duration } where
  tokens := ⟨leased.tokens.locked, leased.tokens.carried, leased.tokens.distinct⟩
  sending := by
    intro worker id token prov preparedAt located
    obtain ⟨row, was, same, status, lockedBy, lockedAt, _⟩ := leased.sending worker id token prov preparedAt located
    have ends := all_eq_true.mp inTime _ (mem_of_getElem? located)
    simp only [Stage.inTime, decide_eq_true_eq] at ends
    exact ⟨row, was, same, status, lockedBy, lockedAt, ends⟩
  budget := by
    intro row mem
    have budget := leased.budget row mem
    exact ⟨budget.bounded, budget.pending, budget.sent, budget.unspent⟩
  stored := leased.stored

lemma step_leased (leased : Leased w) (act : Action) : Leased (step w act) := by
  cases act with
  | enqueue id acctId mid link => exact enqueue_leased leased id acctId mid link
  | start => exact start_leased leased
  | claim worker workerId view =>
    rw [step]
    split
    · exact claim_leased leased workerId view
    · exact leased
  | prepare worker lookups =>
    rw [step]
    split
    · rename_i located
      exact prepare_leased leased located lookups
    · exact leased
  | sent worker out =>
    rw [step]
    split
    · rename_i id token prov _ located
      apply setWorker_leased leased
      · intro id' token' lease
        exact ⟨_, located, lease⟩
      · intro _ _ _ _ same
        cases same
      · intro _ _ same
        cases same
    · exact leased
  | cancel worker =>
    rw [step]
    split
    · rename_i id token _ _ located
      apply setWorker_leased leased
      · intro id' token' lease
        exact ⟨_, located, lease⟩
      · intro _ _ _ _ same
        cases same
      · intro _ _ same
        cases same
    · exact leased
  | finalize worker =>
    rw [step]
    split
    · rename_i id token prov out located
      rw [finalize]
      split
      · exact idle_leased leased worker
      · rename_i owned hit
        have carries : w.Carries worker id token := ⟨_, located, rfl⟩
        cases out with
        | raised err =>
          have done := applyDeliveryError_settled owned err.exception (some prov) w.now
          rw [exception_not_contention] at done
          exact settle_leased leased carries hit done fun no => by cases no
        | sent providerMessageId =>
          exact settle_leased leased carries hit (succeeded_settled owned false _) fun no => by cases no
    · exact leased
  | release worker =>
    rw [step]
    split
    · rename_i id token located
      rw [release]
      split
      · exact idle_leased leased worker
      · rename_i owned hit
        exact settle_leased leased ⟨_, located, rfl⟩ hit (returned_settled owned false _) fun no => by cases no
    · exact leased
  | crash worker => exact idle_leased leased worker
  | reap limit locked => exact reap_leased leased limit locked
  | wait duration =>
    rw [step]
    split
    · rename_i inTime
      exact wait_leased leased duration inTime
    · exact leased

end

section

/-- The action may write the row so. -/
def MayWrite (w : World) (row after : ChannelDelivery) : Action → Prop
  | .claim _ workerId _ => row.status = .pending ∧ after = row.claimed ⟨workerId, w.nextUuid⟩ w.now
  | .prepare worker _ | .finalize worker | .release worker =>
    row.status = .inProgress ∧ ∃ token, w.Carries worker row.id token ∧ row.lockedBy = some token
  | .reap _ _ => expired w.now row = true ∧ after = row.returned w.now
  | _ => False

def Written (w next : World) (may : ChannelDelivery → ChannelDelivery → Prop) : Prop :=
  ∀ row ∈ w.deliveries, ∃ after ∈ next.deliveries, after.id = row.id ∧ (after = row ∨ may row after)

variable {may : ChannelDelivery → ChannelDelivery → Prop} {owned : ChannelDelivery}

lemma written_same {next : World} (same : next.deliveries = w.deliveries) : Written w next may := by
  intro row mem
  exact ⟨row, same ▸ mem, rfl, .inl rfl⟩

lemma written_put {next : World} (wrote : ChannelDelivery) (was : owned ∈ w.deliveries)
    (same : wrote.id = owned.id) (allowed : may owned wrote)
    (puts : next.deliveries = w.deliveries.put wrote) : Written w next may := by
  intro row mem
  rw [puts]
  by_cases equal : row.id = wrote.id
  · have here : row = owned := eq_of_key mem was (equal.trans same)
    exact ⟨wrote, mem_put_self _ _, equal.symm, .inr (here ▸ allowed)⟩
  · exact ⟨row, mem_put.mpr (.inr ⟨mem, equal⟩), rfl, .inl rfl⟩

lemma carries_owned {worker id : Nat} {token}
    (carries : w.Carries worker id token) (hit : w.ownedDelivery id token = some owned) :
    owned ∈ w.deliveries ∧ owned.status = .inProgress ∧
      ∃ token, w.Carries worker owned.id token ∧ owned.lockedBy = some token := by
  obtain ⟨mem, rfl, status, held⟩ := ownedDelivery_some hit
  exact ⟨mem, status, token, carries, held⟩

lemma step_written (w : World) (act : Action) :
    Written w (step w act) (fun row after => MayWrite w row after act) := by
  cases act with
  | enqueue id acctId mid link =>
    rw [step, enqueue]
    split
    · exact written_same rfl
    · rename_i gone
      intro row mem
      have apart := get_eq_none.mp gone row mem
      exact ⟨row, mem_put.mpr (.inr ⟨mem, apart⟩), rfl, .inl rfl⟩
  | start | crash => exact written_same rfl
  | claim worker workerId view =>
    rw [step]
    split
    · rw [claim]
      split
      · exact written_same rfl
      · rename_i delivery hit
        obtain ⟨mem, pend, _⟩ := nextDelivery_some hit
        exact written_put (delivery.claimed _ w.now) mem rfl ⟨pend, rfl⟩ rfl
    · exact written_same rfl
  | prepare worker lookups =>
    rw [step]
    split
    · rename_i id token located
      rw [prepare]
      split
      · exact written_same rfl
      · rename_i owned hit
        obtain ⟨mem, owns⟩ := carries_owned ⟨_, located, rfl⟩ hit
        split
        · rename_i exc _
          exact written_put _ mem (applyDeliveryError_settled owned exc _ _).id owns rfl
        · exact written_put { owned with lockedAt := some w.now } mem rfl owns rfl
    · exact written_same rfl
  | finalize worker =>
    rw [step]
    split
    · rename_i id token prov out located
      rw [finalize]
      split
      · exact written_same rfl
      · rename_i owned hit
        obtain ⟨mem, owns⟩ := carries_owned ⟨_, located, rfl⟩ hit
        cases out with
        | raised err =>
          have done := applyDeliveryError_settled owned err.exception (some prov) w.now
          exact written_put _ mem done.id owns rfl
        | sent providerMessageId =>
          let resp := safeDeliveryProviderResponse prov providerMessageId
          exact written_put (owned.succeeded resp) mem rfl owns rfl
    · exact written_same rfl
  | release worker =>
    rw [step]
    split
    · rename_i id token located
      rw [release]
      split
      · exact written_same rfl
      · rename_i owned hit
        obtain ⟨mem, owns⟩ := carries_owned ⟨_, located, rfl⟩ hit
        exact written_put (owned.returned w.now) mem rfl owns rfl
    · exact written_same rfl
  | reap limit locked =>
    intro row mem
    refine ⟨_, mem_reap.mpr ⟨row, mem, rfl⟩, reaped_id _ _ _, ?_⟩
    rw [reaped]
    split
    · rename_i listed
      exact .inr ⟨mem_expiredIds mem listed, rfl⟩
    · exact .inl rfl
  | _ =>
    rw [step]
    split <;> exact written_same rfl

end

lemma sending_once (leased : Leased w) {worker alt id : Nat} {token token'}
    {prov provider'} {preparedAt preparedAt' : Nat}
    (first : w.workers[worker]? = some (.sending id token prov preparedAt))
    (snd : w.workers[alt]? = some (.sending id token' provider' preparedAt')) : worker = alt := by
  obtain ⟨row, was, same, _, held, _⟩ := leased.sending _ _ _ _ _ first
  obtain ⟨row', stored', same', _, held', _⟩ := leased.sending _ _ _ _ _ snd
  have equal : row = row' := eq_of_key was stored' (same.trans same'.symm)
  subst equal
  have toks : token = token' := Option.some.inj (held.symm.trans held')
  subst toks
  exact leased.tokens.distinct _ _ _ _ _ ⟨_, first, rfl⟩ ⟨_, snd, rfl⟩

/-- A row is written by the worker whose token it carries, a claim or the reaper; one worker sends a
delivery at a time, what is pending has attempts left, and no delivery is sent too often. -/
theorem delivery_leases_safe (acts : List Action) : let w := run step start acts
    (∀ act, Written w (step w act) fun row after => MayWrite w row after act) ∧
      (∀ (worker alt id : Nat) token token' prov provider' preparedAt preparedAt',
        w.workers[worker]? = some (.sending id token prov preparedAt) →
          w.workers[alt]? = some (.sending id token' provider' preparedAt') → worker = alt) ∧
      ∀ row ∈ w.deliveries, (row.status = .pending → row.attempts < row.maxAttempts) ∧
          w.sends.count row.id ≤ row.maxAttempts := by
  intro w
  have keeps : ∀ w act, Leased w → Leased (step w act) := fun _ act holds => step_leased holds act
  have leased : Leased w := run_invariant keeps leased_start acts
  refine ⟨step_written w, ?_, ?_⟩
  · intro worker alt id token token' prov provider' preparedAt preparedAt' first snd
    exact sending_once leased first snd
  · intro row mem
    have budget := leased.budget row mem
    exact ⟨budget.pending, budget.sent.trans budget.bounded⟩

end Clawdi.Delivery
