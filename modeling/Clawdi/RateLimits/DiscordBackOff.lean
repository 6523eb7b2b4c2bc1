import Clawdi.RateLimits.Discord

namespace Clawdi.RateLimits.Discord
open Transition DiscordRateLimiter List Table

structure Run where
  state : State
  passed : List (ℕ × String)

def Run.start : Run := ⟨.empty, []⟩

namespace DiscordRateLimiter
variable (lim : DiscordRateLimiter)

def advance (current : Run) (call : Call) : Run where
  state := lim.step current.state call
  passed :=
    match call.action with
    | .check req =>
      if lim.passes current.state call then (req, lim.route call) :: current.passed
      else current.passed
    | .consume _ => current.passed
    | .observe _ _ =>
      if (lim.report call).isSome then
        current.passed.filter fun passed => passed.2 ≠ lim.route call
      else current.passed

def after (calls : List Call) : Run := run lim.advance .start calls

def sends (current : Run) (call : Call) : Bool :=
  match call.action with
  | .consume req => decide ((req, lim.route call) ∈ current.passed)
  | _ => false

def sentBefore (key : String) (reset : ℚ) : Run → List Call → ℕ
  | _, [] => 0
  | current, call :: calls =>
    (if lim.sends current call ∧ lim.route call = key ∧ call.now < reset then 1 else 0) +
      sentBefore key reset (lim.advance current call) calls

def Roomy (calls : List Call) : Prop :=
  Always lim.advance (fun current call =>
    (lim.advance current call).state.buckets.rows.length < lim.maxBuckets ∧
      (lim.advance current call).state.globalStates.rows.length < lim.maxScopes) .start calls

def WaitsKept (calls : List Call) : Prop :=
  calls.Pairwise fun call later => ∀ delay ∈ call.backOff false, ∀ bucket ∈ lim.report later,
    lim.route later = lim.route call → later.now < call.now + delay →
      bucket.remaining ≤ 0 ∧ call.now + delay ≤ bucket.resetAt

def hasRoom (current : Run) (call : Call) : Bool :=
  ((lim.prune call.now current.state).buckets.get (lim.route call)).all fun bucket =>
    decide (0 < bucket.remaining)

def SentInTime (calls : List Call) : Prop :=
  Always lim.advance (fun current call => lim.sends current call = true → lim.hasRoom current call = true)
    .start calls

end DiscordRateLimiter

variable {lim : DiscordRateLimiter} {st : State} {call : Call} {key scope : String} {wait now done : ℚ}
section
variable {bucket : DiscordBucketState}

lemma prune_bucket (hit : st.buckets.get key = some bucket) (fresh : now < bucket.resetAt) :
    (lim.prune now st).buckets.get key = some bucket := by
  obtain ⟨mem, isKey⟩ := get_eq_some.mp hit
  exact get_eq_some.mpr ⟨mem_remove.mpr ⟨mem, by simpa using fresh⟩, isKey⟩

variable (accountScope alt : String)

lemma checkRoute_bucket (now : ℚ) (st : State) :
    (checkRoute alt now st).2.buckets.get key = st.buckets.get key := by
  unfold checkRoute
  cases hit : st.buckets.get alt with
  | none => rfl
  | some bucket =>
    have moved : (st.buckets.put bucket).get key = st.buckets.get key := by
      obtain ⟨_, isKey⟩ := get_eq_some.mp hit
      rw [get_put]
      split
      · rename_i same
        rw [← hit, ← isKey, same]
      · rfl
    simp only
    split <;> exact moved

lemma check_bucket (now : ℚ) (st : State) :
    (lim.check accountScope alt now st).2.buckets.get key = (lim.prune now st).buckets.get key := by
  unfold DiscordRateLimiter.check
  simp only
  split
  · exact checkRoute_bucket alt now _
  · split
    · rfl
    · exact checkRoute_bucket alt now _

lemma consumeRoute_bucket (st : State) :
    (consumeRoute alt st).buckets.get key = (st.buckets.get key).map fun bucket =>
      if key = alt ∧ 0 < bucket.remaining then { bucket with remaining := bucket.remaining - 1 }
      else bucket := by
  unfold consumeRoute
  by_cases same : key = alt
  · subst same
    cases hit : st.buckets.get key with
    | none => simp [hit]
    | some bucket =>
      obtain ⟨_, isKey⟩ := get_eq_some.mp hit
      by_cases left : 0 < bucket.remaining
      · simp only [left, if_true, and_self, Option.map_some]
        exact get_put_of_eq _ isKey
      · simp [left, hit]
  · cases hit : st.buckets.get alt with
    | none => simp [same]
    | some bucket =>
      obtain ⟨_, isKey⟩ := get_eq_some.mp hit
      simp only [same, false_and, if_false, Option.map_id']
      split
      · exact Table.get_put_of_ne _ (by simpa [isKey] using Ne.symm same)
      · rfl

lemma consume_bucket (now : ℚ) (st : State) : (lim.consume accountScope alt now st).buckets.get key =
      ((lim.prune now st).buckets.get key).map fun bucket =>
        if key = alt ∧ 0 < bucket.remaining then { bucket with remaining := bucket.remaining - 1 }
        else bucket :=
  consumeRoute_bucket alt _

lemma report_key (reported : lim.report call = some bucket) : bucket.key = lim.route call := by
  unfold report DiscordRateLimiter.reported at reported
  split at reported
  · split at reported
    · cases reported
    · split at reported
      · obtain ⟨_, _, rfl⟩ := Option.map_eq_some_iff.mp reported
        rfl
      · split at reported <;> cases reported
        rfl
  · cases reported

lemma step_of_report (reported : lim.report call = some bucket) : lim.step st call =
      lim.storeBucket bucket call.done (lim.prune call.now st) := by
  unfold report at reported
  unfold DiscordRateLimiter.step observe
  split at reported
  · rename_i act
    split at reported
    · cases reported
    · rename_i route
      simp [act, route, reported]
  · cases reported

lemma step_of_silent {headers} {statusCode : ℕ}
    (act : call.action = .observe headers statusCode) (silent : lim.report call = none) :
    (lim.step st call).buckets = (lim.prune call.now st).buckets := by
  unfold report at silent
  simp only [DiscordRateLimiter.step, observe, act] at silent ⊢
  split at silent
  · rename_i isGlobal
    rw [if_pos isGlobal]
    split <;> rfl
  · rename_i route
    rw [if_neg route, silent]

lemma storeBucket_bucket (room : (lim.storeBucket bucket now st).buckets.rows.length < lim.maxBuckets) :
    (lim.storeBucket bucket now st).buckets.get key =
      if bucket.key = key then (if bucket.resetAt ≤ now then none else some bucket) else st.buckets.get key := by
  unfold DiscordRateLimiter.storeBucket at room ⊢
  by_cases ended : bucket.resetAt ≤ now
  · simp only [if_pos ended]
    split
    · rename_i same
      apply get_eq_none.mpr
      intro row mem isKey
      simpa [isKey, same] using (mem_remove.mp mem).2
    · rename_i alt
      apply get_remove
      intro row _ isKey
      simpa [isKey] using Ne.symm alt
  · simp only [if_neg ended] at room ⊢
    rw [take_eq_of_length_lt room, get_put]

end

def Waits (key : String) (wait : ℚ) (st : State) : Prop :=
  ∃ bucket, st.buckets.get key = some bucket ∧ bucket.remaining ≤ 0 ∧ wait ≤ bucket.resetAt

def Blocked (scope : String) (wait : ℚ) (st : State) : Prop :=
  ∃ global, st.globalStates.get scope = some global ∧ wait ≤ global.blockedUntil

lemma Waits.prune (waits : Waits key wait st) (lim : DiscordRateLimiter) (early : now < wait) :
    Waits key wait (lim.prune now st) := by
  obtain ⟨bucket, hit, empty, late⟩ := waits
  exact ⟨bucket, prune_bucket hit (early.trans_le late), empty, late⟩

lemma checkGlobal_refuses {global decision}
    (refused : (lim.checkGlobal global now).1 = some decision) : decision.allowed = false := by
  unfold checkGlobal at refused
  split at refused
  · cases refused
    rfl
  · simp only at refused
    split at refused
    · split at refused
      · cases refused
        rfl
      · cases refused
    · split at refused
      · cases refused
        rfl
      · cases refused

lemma Waits.refuses (waits : Waits (lim.route call) wait st) (early : call.now < wait) :
    lim.passes st call = false := by
  obtain ⟨bucket, hit, empty, late⟩ := waits.prune lim early
  have refused (alt : State) (same : alt.buckets = (lim.prune call.now st).buckets) :
      (checkRoute (lim.route call) call.now alt).1.allowed = false := by
    simp [checkRoute, same, hit, not_lt.mpr empty]
  unfold passes DiscordRateLimiter.check
  simp only
  split
  · exact refused _ rfl
  · split
    · rename_i refusal
      exact checkGlobal_refuses refusal
    · exact refused _ rfl

lemma Waits.step (waits : Waits key wait st) (early : call.done < wait) (order : call.now ≤ call.done)
    (room : (lim.step st call).buckets.rows.length < lim.maxBuckets)
    (kept : ∀ bucket, lim.report call = some bucket → lim.route call = key →
      bucket.remaining ≤ 0 ∧ wait ≤ bucket.resetAt) : Waits key wait (lim.step st call) := by
  obtain ⟨bucket, hit, empty, late⟩ := waits.prune lim (order.trans_lt early)
  cases act : call.action with
  | check req =>
    refine ⟨bucket, ?_, empty, late⟩
    simp only [DiscordRateLimiter.step, act, check_bucket, hit]
  | consume req =>
    refine ⟨bucket, ?_, empty, late⟩
    simp [DiscordRateLimiter.step, act, consume_bucket, hit, not_lt.mpr empty]
  | observe headers statusCode =>
    cases reported : lim.report call with
    | none => exact ⟨bucket, by rw [step_of_silent act reported, hit], empty, late⟩
    | some replacement =>
      rw [step_of_report reported] at room ⊢
      have isKey := report_key reported
      unfold Waits
      rw [storeBucket_bucket room, isKey]
      by_cases same : lim.route call = key
      · obtain ⟨stillEmpty, stillLate⟩ := kept replacement reported same
        rw [if_pos same, if_neg (not_le.mpr (early.trans_le stillLate))]
        exact ⟨replacement, rfl, stillEmpty, stillLate⟩
      · rw [if_neg same]
        exact ⟨bucket, hit, empty, late⟩

section

lemma Blocked.prune (blocked : Blocked scope wait st) (lim : DiscordRateLimiter) (early : now < wait) :
    Blocked scope wait (lim.prune now st) := by
  obtain ⟨global, hit, late⟩ := blocked
  obtain ⟨mem, isScope⟩ := get_eq_some.mp hit
  have kept : ¬global.blockedUntil ≤ now := not_le.mpr (early.trans_le late)
  exact ⟨global, get_eq_some.mpr ⟨mem_remove.mpr ⟨mem, by simp [kept]⟩, isScope⟩, late⟩

lemma Blocked.refuses (blocked : Blocked call.accountScope wait st) (early : call.now < wait) :
    lim.passes st call = false := by
  obtain ⟨global, hit, late⟩ := blocked.prune lim early
  simp [passes, DiscordRateLimiter.check, hit, checkGlobal, early.trans_le late]

lemma Blocked.put {global : DiscordGlobalState} (blocked : Blocked scope wait st)
    (late : global.accountScope = scope → wait ≤ global.blockedUntil) :
    Blocked scope wait (touchGlobal global now st) := by
  by_cases same : global.accountScope = scope
  · exact ⟨{ global with updatedAt := now }, get_put_of_eq _ same, late same⟩
  · obtain ⟨pre, hit, stillLate⟩ := blocked
    exact ⟨pre, (Table.get_put_of_ne _ (by exact same)).trans hit, stillLate⟩

lemma checkRoute_globalStates (key : String) (now : ℚ) (st : State) :
    (checkRoute key now st).2.globalStates = st.globalStates := by
  unfold checkRoute
  split
  · rfl
  · split <;> rfl

lemma consumeRoute_globalStates (key : String) (st : State) :
    (consumeRoute key st).globalStates = st.globalStates := by
  unfold consumeRoute
  split
  · split <;> rfl
  · rfl

lemma Blocked.of_globalStates {alt : State} (blocked : Blocked scope wait st)
    (same : alt.globalStates = st.globalStates) : Blocked scope wait alt := by
  obtain ⟨global, hit, late⟩ := blocked
  exact ⟨global, same ▸ hit, late⟩

lemma checkGlobal_scope (global : DiscordGlobalState) (now : ℚ) :
    (lim.checkGlobal global now).2.accountScope = global.accountScope := by
  unfold checkGlobal
  simp only
  repeat' split
  all_goals rfl

lemma Blocked.check (blocked : Blocked scope wait st) (early : now < wait)
    (accountScope key : String) : Blocked scope wait (lim.check accountScope key now st).2 := by
  have pruned := blocked.prune lim early
  obtain ⟨own, ownFound, late⟩ := blocked.prune lim early
  unfold DiscordRateLimiter.check
  simp only
  split
  · exact pruned.of_globalStates (checkRoute_globalStates key now _)
  · rename_i global hit
    obtain ⟨_, isAccount⟩ := get_eq_some.mp hit
    have touched : Blocked scope wait (touchGlobal (lim.checkGlobal global now).2 now
        (lim.prune now st)) := by
      apply pruned.put
      intro isScope
      rw [checkGlobal_scope, isAccount] at isScope
      rw [isScope, ownFound] at hit
      cases hit
      simpa [checkGlobal, early.trans_le late] using late
    split
    · exact touched
    · exact touched.of_globalStates (checkRoute_globalStates key now _)

lemma enforceScopeBound_globalStates (room : (lim.enforceScopeBound st).globalStates.rows.length < lim.maxScopes) :
    (lim.enforceScopeBound st).globalStates = st.globalStates :=
  take_eq_of_length_lt room

lemma Blocked.consume (blocked : Blocked scope wait st) (early : now < wait) (accountScope key : String)
    (room : (lim.consume accountScope key now st).globalStates.rows.length < lim.maxScopes) :
    Blocked scope wait (lim.consume accountScope key now st) := by
  have pruned := blocked.prune lim early
  obtain ⟨own, ownFound, late⟩ := blocked.prune lim early
  unfold DiscordRateLimiter.consume at room ⊢
  simp only [consumeRoute_globalStates] at room ⊢
  refine Blocked.of_globalStates ?_ ((consumeRoute_globalStates _ _).trans (enforceScopeBound_globalStates room))
  apply pruned.put
  intro isScope
  cases hit : (lim.prune now st).globalStates.get accountScope with
  | none =>
    simp only [hit] at isScope
    rw [isScope, ownFound] at hit
    cases hit
  | some global =>
    obtain ⟨_, isAccount⟩ := get_eq_some.mp hit
    simp only [hit] at isScope ⊢
    have same : accountScope = scope := by
      split at isScope
      all_goals exact isAccount.symm.trans isScope
    rw [same, ownFound] at hit
    cases hit
    split
    all_goals exact late

lemma Blocked.blockGlobal (blocked : Blocked scope wait st) (accountScope : String) (delay : ℚ)
    (room : (lim.blockGlobal accountScope delay now st).globalStates.rows.length <
      lim.maxScopes) : Blocked scope wait (lim.blockGlobal accountScope delay now st) := by
  refine Blocked.of_globalStates ?_ (enforceScopeBound_globalStates room)
  apply blocked.put
  obtain ⟨own, ownFound, late⟩ := blocked
  intro isScope
  have same : accountScope = scope := by
    cases hit : st.globalStates.get accountScope with
    | none => simpa [hit] using isScope
    | some global => simpa [hit, (get_eq_some.mp hit).2] using isScope
  rw [same, ownFound]
  exact late.trans (le_max_left _ _)

lemma Blocked.step (blocked : Blocked scope wait st) (early : call.now < wait)
    (room : (lim.step st call).globalStates.rows.length < lim.maxScopes) : Blocked scope wait (lim.step st call) := by
  have pruned := blocked.prune lim early
  unfold DiscordRateLimiter.step at room ⊢
  split
  · exact blocked.check early _ _
  · rename_i act
    simp only [act] at room
    exact blocked.consume early _ _ room
  · rename_i headers statusCode act
    simp only [act, observe] at room ⊢
    split
    · rename_i isGlobal
      rw [if_pos isGlobal] at room
      split
      · rename_i delay given
        simp only [given] at room
        exact pruned.blockGlobal _ _ room
      · exact pruned
    · split
      · apply pruned.of_globalStates
        unfold DiscordRateLimiter.storeBucket
        split <;> rfl
      · exact pruned

end

lemma ordered_between {pre middle later call last}
    (ordered : Ordered (pre ++ call :: (middle ++ last :: later))) : call.now ≤ call.done ∧ call.done ≤ last.now ∧
      ∀ alt ∈ middle, call.done ≤ alt.now ∧ alt.now ≤ alt.done ∧ alt.done ≤ last.now := by
  obtain ⟨own, pairs⟩ := ordered
  obtain ⟨first, rest⟩ := pairwise_cons.mp (pairwise_append.mp pairs).2.1
  refine ⟨own call (by simp), first last (by simp), ?_⟩
  intro alt mem
  have upToLast := (pairwise_append.mp rest).2.2 alt mem last (by simp)
  exact ⟨first alt (by simp [mem]), own alt (by simp [mem]), upToLast⟩

variable {calls : List Call} {current : Run}

lemma waits_run (waits : Waits key wait current.state)
    (timely : ∀ call ∈ calls, call.now ≤ call.done ∧ call.done < wait) (roomy : Always lim.advance
      (fun current call => (lim.advance current call).state.buckets.rows.length < lim.maxBuckets) current calls)
    (kept : ∀ call ∈ calls, ∀ bucket, lim.report call = some bucket → lim.route call = key → bucket.remaining ≤ 0 ∧
      wait ≤ bucket.resetAt) : Waits key wait (run lim.advance current calls).state := by
  induction calls generalizing current with
  | nil => exact waits
  | cons call calls ih =>
    obtain ⟨order, early⟩ := timely call mem_cons_self
    exact ih (waits.step early order roomy.1 (kept call mem_cons_self))
      (fun alt mem => timely alt (mem_cons_of_mem call mem)) roomy.2
      fun alt mem => kept alt (mem_cons_of_mem call mem)

lemma blocked_run (blocked : Blocked scope wait current.state) (timely : ∀ call ∈ calls, call.now < wait)
    (roomy : Always lim.advance
      (fun current call => (lim.advance current call).state.globalStates.rows.length < lim.maxScopes) current calls) :
    Blocked scope wait (run lim.advance current calls).state := by
  induction calls generalizing current with
  | nil => exact blocked
  | cons call calls ih =>
    exact ih (blocked.step (timely call mem_cons_self) roomy.1)
      (fun alt mem => timely alt (mem_cons_of_mem call mem)) roomy.2

lemma waits_of_backOff {delay : ℚ} (backOff : call.backOff false = some delay)
    (early : call.done < call.now + delay) (room : (lim.step st call).buckets.rows.length < lim.maxBuckets) :
    Waits (lim.route call) (call.now + delay) (lim.step st call) := by
  obtain ⟨headers, statusCode, act⟩ : ∃ headers statusCode, call.action = .observe headers statusCode := by
    unfold Call.backOff at backOff
    split at backOff
    · exact ⟨_, _, by assumption⟩
    · cases backOff
  simp only [Call.backOff, act] at backOff
  split at backOff
  · rename_i isRoute
    have reported : lim.report call = some ⟨lim.route call, 0, call.now + max 0 delay,
        headers.limit, headers.bucketId⟩ := by
      simp [report, DiscordRateLimiter.reported, act, isRoute.1, isRoute.2, backOff]
    have late : call.now + delay ≤ call.now + max 0 delay := by
      have most := le_max_right 0 delay
      linarith
    rw [step_of_report reported] at room ⊢
    unfold Waits
    rw [storeBucket_bucket room, if_pos rfl, if_neg (not_le.mpr (early.trans_le late))]
    exact ⟨_, rfl, le_rfl, late⟩
  · cases backOff

lemma blocked_of_backOff {delay : ℚ} (backOff : call.backOff true = some delay)
    (room : (lim.step st call).globalStates.rows.length < lim.maxScopes) :
    Blocked call.accountScope (call.now + delay) (lim.step st call) := by
  obtain ⟨headers, statusCode, act, isGlobal, given⟩ : ∃ headers statusCode,
      call.action = .observe headers statusCode ∧ (statusCode = 429 ∧ headers.isGlobal) ∧
        headers.delay = some delay := by
    unfold Call.backOff at backOff
    split at backOff
    · split at backOff
      · exact ⟨_, _, by assumption, by assumption, backOff⟩
      · cases backOff
    · cases backOff
  have late : call.now + delay ≤ call.now + max 0 delay := by
    have most := le_max_right 0 delay
    linarith
  simp only [DiscordRateLimiter.step, act, observe, if_pos isGlobal, given, blockGlobal] at room ⊢
  refine Blocked.of_globalStates ?_ (enforceScopeBound_globalStates room)
  refine ⟨_, get_put_of_eq _ ?_, late.trans (le_max_right _ _)⟩
  cases hit : (lim.prune call.now st).globalStates.get call.accountScope with
  | none => rfl
  | some global => exact (get_eq_some.mp hit).2

def Leaves (key : String) (reset : ℚ) (left : ℕ) (st : State) : Prop :=
  ∃ bucket, st.buckets.get key = some bucket ∧ bucket.resetAt = reset ∧ bucket.remaining.toNat ≤ left

lemma sentBefore_late {reset : ℚ} (late : ∀ call ∈ calls, reset ≤ call.now) :
    lim.sentBefore key reset current calls = 0 := by
  induction calls generalizing current with
  | nil => rfl
  | cons call calls ih =>
    have isLate := late call mem_cons_self
    simp [sentBefore, not_lt.mpr isLate, ih fun alt mem => late alt (mem_cons_of_mem call mem)]

lemma Leaves.step {current : Run} {reset : ℚ} {left : ℕ} (leaves : Leaves key reset left current.state)
    (early : call.now < reset) (room : (lim.step current.state call).buckets.rows.length < lim.maxBuckets)
    (inTime : lim.sends current call = true → lim.hasRoom current call = true)
    (silent : ∀ bucket ∈ lim.report call, bucket.key ≠ key) :
    ∃ rest, Leaves key reset rest (lim.step current.state call) ∧
      (if lim.sends current call ∧ lim.route call = key ∧ call.now < reset then 1 else 0) + rest ≤ left := by
  obtain ⟨bucket, pre, isReset, most⟩ := leaves
  have hit := @prune_bucket lim _ _ _ _ pre (isReset ▸ early)
  cases act : call.action with
  | check req =>
    have noSend : lim.sends current call = false := by simp [sends, act]
    refine ⟨left, ⟨bucket, ?_, isReset, most⟩, by simp [noSend]⟩
    simp only [DiscordRateLimiter.step, act, check_bucket, hit]
  | consume req =>
    by_cases isRoute : lim.route call = key
    · have isBucket : (lim.step current.state call).buckets.get key = some (if 0 < bucket.remaining then
          { bucket with remaining := bucket.remaining - 1 } else bucket) := by
        simp [DiscordRateLimiter.step, act, consume_bucket, hit, isRoute]
      by_cases has : 0 < bucket.remaining
      · rw [if_pos has] at isBucket
        refine ⟨left - 1, ⟨_, isBucket, isReset, ?_⟩, ?_⟩
        · show (bucket.remaining - 1).toNat ≤ left - 1
          omega
        · split <;> omega
      · rw [if_neg has] at isBucket
        have noSend : ¬lim.sends current call = true := by
          intro sent
          have room := inTime sent
          simp [hasRoom, isRoute, hit, has] at room
        exact ⟨left, ⟨_, isBucket, isReset, most⟩, by simp [noSend]⟩
    · refine ⟨left, ⟨bucket, ?_, isReset, most⟩, by simp [isRoute]⟩
      simp [DiscordRateLimiter.step, act, consume_bucket, hit, Ne.symm isRoute]
  | observe headers statusCode =>
    have noSend : lim.sends current call = false := by simp [sends, act]
    refine ⟨left, ⟨bucket, ?_, isReset, most⟩, by simp [noSend]⟩
    cases reported : lim.report call with
    | none => rw [step_of_silent act reported, hit]
    | some replacement =>
      rw [step_of_report reported] at room ⊢
      rw [storeBucket_bucket room, if_neg (silent replacement reported), hit]

lemma sentBefore_le {reset : ℚ} {left : ℕ} (leaves : Leaves key reset left current.state)
    (order : calls.Pairwise fun call later => call.now ≤ later.now) (roomy : Always lim.advance
      (fun current call => (lim.advance current call).state.buckets.rows.length < lim.maxBuckets) current calls)
    (inTime : Always lim.advance
      (fun current call => lim.sends current call = true → lim.hasRoom current call = true) current calls)
    (silent : ∀ call ∈ calls, ∀ bucket ∈ lim.report call, bucket.key ≠ key) :
    lim.sentBefore key reset current calls ≤ left := by
  induction calls generalizing current left with
  | nil => exact Nat.zero_le left
  | cons call calls ih =>
    obtain ⟨first, others⟩ := pairwise_cons.mp order
    rcases le_or_gt reset call.now with late | early
    · rw [sentBefore_late]
      · exact Nat.zero_le left
      · intro alt mem
        rcases mem_cons.mp mem with rfl | isLater
        · exact late
        · exact late.trans (first alt isLater)
    · obtain ⟨rest, stillLeaves, most⟩ := leaves.step early roomy.1 inTime.1 (silent call mem_cons_self)
      have later := @ih (lim.advance current call) rest stillLeaves others roomy.2 inTime.2
        fun alt mem => silent alt (mem_cons_of_mem call mem)
      rw [sentBefore]
      omega

structure BackOffRespected (lim : DiscordRateLimiter) (calls : List Call) : Prop where
  route : ∀ pre call middle check later delay,
    calls = pre ++ call :: (middle ++ check :: later) → call.backOff false = some delay →
      lim.route check = lim.route call → check.now < call.now + delay →
        lim.passes (lim.after (pre ++ call :: middle)).state check = false
  account : ∀ pre call middle check later delay,
    calls = pre ++ call :: (middle ++ check :: later) → call.backOff true = some delay →
      check.accountScope = call.accountScope → check.now < call.now + delay →
        lim.passes (lim.after (pre ++ call :: middle)).state check = false
  sent : ∀ pre call middle later bucket, calls = pre ++ call :: (middle ++ later) → lim.report call = some bucket →
      (∀ alt ∈ middle, ∀ replacement ∈ lim.report alt, replacement.key ≠ bucket.key) →
        lim.sentBefore bucket.key bucket.resetAt (lim.after (pre ++ [call])) middle ≤ bucket.remaining.toNat

lemma after_append (calls more : List Call) : lim.after (calls ++ more) = run lim.advance (lim.after calls) more :=
  run_append _ _ _ _

/-- Back-off is respected as long as no wait is shortened and no checked request is overtaken. -/
theorem back_off_respected (lim : DiscordRateLimiter) {calls : List Call} (ordered : Ordered calls)
    (roomy : lim.Roomy calls) (kept : lim.WaitsKept calls) (inTime : lim.SentInTime calls) :
    BackOffRespected lim calls where
  route := by
    rintro pre call middle check later delay rfl backOff sameRoute early
    obtain ⟨_, next, between⟩ := ordered_between ordered
    obtain ⟨here, rest⟩ := (Always.append.mp roomy).2
    have waits : Waits (lim.route call) (call.now + delay)
        (lim.advance (lim.after pre) call).state :=
      waits_of_backOff backOff (next.trans_lt early) here.1
    have unshortened := (pairwise_cons.mp (pairwise_append.mp kept).2.1).1
    rw [after_append, run_cons]
    apply Waits.refuses _ early
    rw [sameRoute]
    apply waits_run waits
    · intro alt mem
      obtain ⟨_, order, upToCheck⟩ := between alt mem
      exact ⟨order, upToCheck.trans_lt early⟩
    · exact (Always.append.mp rest).1.imp fun _ _ rooms => rooms.1
    · intro alt mem bucket reported isRoute
      obtain ⟨_, order, upToCheck⟩ := between alt mem
      exact unshortened alt (mem_append_left _ mem) delay backOff bucket reported isRoute
        ((order.trans upToCheck).trans_lt early)
  account := by
    rintro pre call middle check later delay rfl backOff sameAccount early
    obtain ⟨_, _, between⟩ := ordered_between ordered
    obtain ⟨here, rest⟩ := (Always.append.mp roomy).2
    have blocked : Blocked call.accountScope (call.now + delay)
        (lim.advance (lim.after pre) call).state := blocked_of_backOff backOff here.2
    rw [after_append, run_cons]
    apply Blocked.refuses _ early
    rw [sameAccount]
    apply blocked_run blocked
    · intro alt mem
      obtain ⟨_, order, upToCheck⟩ := between alt mem
      exact (order.trans upToCheck).trans_lt early
    · exact (Always.append.mp rest).1.imp fun _ _ rooms => rooms.2
  sent := by
    rintro pre call middle later bucket rfl reported silent
    obtain ⟨own, pairs⟩ := ordered
    obtain ⟨first, rest⟩ := pairwise_cons.mp (pairwise_append.mp pairs).2.1
    have mem : ∀ alt ∈ middle, alt ∈ middle ++ later := fun alt => mem_append_left later
    obtain ⟨here, roomyRest⟩ := (Always.append.mp roomy).2
    obtain ⟨_, inTimeRest⟩ := (Always.append.mp inTime).2
    have room : (lim.step (lim.after pre).state call).buckets.rows.length < lim.maxBuckets := here.1
    rw [after_append, run_cons, run_nil]
    rcases le_or_gt bucket.resetAt call.done with ended | early
    · rw [sentBefore_late fun alt isLater => ended.trans (first alt (mem alt isLater))]
      exact Nat.zero_le _
    · have leaves : Leaves bucket.key bucket.resetAt bucket.remaining.toNat
          (lim.advance (lim.after pre) call).state := by
        show Leaves _ _ _ (lim.step _ call)
        rw [step_of_report reported] at room ⊢
        refine ⟨bucket, ?_, rfl, le_rfl⟩
        rw [storeBucket_bucket room, if_pos rfl, if_neg (not_le.mpr early)]
      apply sentBefore_le leaves
      · apply ((pairwise_append.mp rest).1.imp_of_mem _)
        intro one alt isOne _ pre
        exact (own one (by simp [isOne])).trans pre
      · exact (Always.append.mp roomyRest).1.imp fun _ _ rooms => rooms.1
      · exact (Always.append.mp inTimeRest).1
      · exact silent

section

def sampleLimiter : DiscordRateLimiter where
  globalPerSecond := 50
  maxBuckets := 8
  maxScopes := 8
  scopeIdleTtlSeconds := 600
  characters := ⟨Char.isDigit, Char.isAlphanum, fun ch => [ch.toUpper]⟩
  bounds_pos := by decide

def response (retryAfter resetAfter : Option ℚ) (remaining : Option ℤ) : Headers :=
  ⟨resetAfter, retryAfter, remaining, none, none, false⟩

def sampleCall (act : Action) (now : ℚ) : Call :=
  ⟨"account", "POST", "/api/v10/channels/123456789012/messages", act, now, now⟩

def staleResponse : List Call :=
  [sampleCall (.observe (response (some 10) none none) 429) 0,
    sampleCall (.observe (response none (some 5) (some 3)) 200) 1, sampleCall (.check 1) 2]

def keptBackOff : List Call :=
  [sampleCall (.observe (response (some 10) none none) 429) 0, sampleCall (.check 1) 2,
    sampleCall (.observe (response none (some 5) (some 1)) 200) 11, sampleCall (.check 2) 12,
    sampleCall (.consume 2) 12, sampleCall (.check 3) 13]

theorem stale_response_ends_back_off : Ordered staleResponse ∧ sampleLimiter.Roomy staleResponse ∧
    ¬BackOffRespected sampleLimiter staleResponse := by
  refine ⟨?_, ?_, ?_⟩
  · unfold Ordered
    decide +kernel
  · unfold Roomy
    decide +kernel
  · intro respected
    have refused := respected.route [] (sampleCall (.observe (response (some 10) none none) 429) 0)
      [sampleCall (.observe (response none (some 5) (some 3)) 200) 1] (sampleCall (.check 1) 2) [] 10 rfl
      (by decide +kernel) rfl (by decide +kernel)
    revert refused
    decide +kernel

theorem back_off_respected_sample : BackOffRespected sampleLimiter keptBackOff := by
  apply back_off_respected
  · unfold Ordered
    decide +kernel
  · unfold Roomy
    decide +kernel
  · unfold WaitsKept
    decide +kernel
  · unfold SentInTime
    decide +kernel

end
end Clawdi.RateLimits.Discord
