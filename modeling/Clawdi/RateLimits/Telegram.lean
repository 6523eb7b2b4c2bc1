import Clawdi.Lib.Table
import Clawdi.Lib.TokenBucket
import Clawdi.Lib.Transition
import Mathlib.Algebra.Order.Floor.Ring
import Mathlib.Data.Rat.Floor
import Mathlib.Tactic.Positivity

namespace Clawdi.RateLimits.Telegram
open TokenBucket Transition

structure TelegramRateLimitDecision where
  allowed : Bool
  retryAfterSeconds : Option ℤ
  scope : Option String

inductive BucketKey
  | bot (acctId : String)
  | chat (acctId chatId : String)
  deriving DecidableEq

structure Bucket where
  key : BucketKey
  tokens : ℚ
  updatedAt : ℚ

structure TelegramRateLimiter where
  botCapacity : ℕ
  botRefillPerSecond : ℚ
  chatCapacity : ℕ
  chatRefillPerSecond : ℚ
  maxBuckets : ℕ
  idleTtlSeconds : ℚ
  capacities_pos : 0 < botCapacity ∧ 0 < chatCapacity
  rates_pos : 0 < botRefillPerSecond ∧ 0 < chatRefillPerSecond
  bounds_pos : 2 ≤ maxBuckets ∧ 0 < idleTtlSeconds

structure Call where
  accountId : String
  method : String
  chatId : String
  now : ℚ

abbrev Buckets := Table Bucket.key
def allowed : TelegramRateLimitDecision := ⟨true, none, none⟩

def decision (scope : String) (refillPerSecond toks : ℚ) : TelegramRateLimitDecision :=
  if 1 ≤ toks then allowed
  else ⟨false, some (max 1 (⌊(1 - toks) / refillPerSecond⌋ + 1)), some scope⟩

def telegramSendMethodIsLimited (method : String) : Bool :=
  let normalized := method.toList.map Char.toLower
  "send".toList.isPrefixOf normalized && normalized ≠ "sendchataction".toList

namespace Call
variable (call : Call)

def limited : Bool := telegramSendMethodIsLimited call.method
def botKey : BucketKey := .bot call.accountId
def chatKey : BucketKey := .chat call.accountId call.chatId
def keys : List BucketKey := if call.limited then [call.botKey, call.chatKey] else []

end Call

namespace TelegramRateLimiter
variable (lim : TelegramRateLimiter)

def expirySeconds : ℚ :=
  max lim.idleTtlSeconds (max (lim.botCapacity / lim.botRefillPerSecond)
    (lim.chatCapacity / lim.chatRefillPerSecond))

def prune (now : ℚ) (buckets : Buckets) : Buckets :=
  buckets.remove fun bucket => bucket.updatedAt + lim.expirySeconds ≤ now

variable (key : BucketKey) (capacity : ℚ) (buckets : Buckets) (call : Call)

def consume (refillPerSecond : ℚ) (scope : String) (now : ℚ) (buckets : Buckets) :
    TelegramRateLimitDecision × Buckets :=
  let bucket := (buckets.get key).getD ⟨key, capacity, now⟩
  let elapsed := max 0 (now - bucket.updatedAt)
  let toks := min capacity (bucket.tokens + elapsed * refillPerSecond)
  let kept := (buckets.put ⟨key, toks, now⟩).take lim.maxBuckets
  let ans := decision scope refillPerSecond toks
  if ans.allowed then (ans, kept.put ⟨key, toks - 1, now⟩) else (ans, kept)

def refund : Buckets :=
  match buckets.get key with
  | some bucket => buckets.put { bucket with tokens := min capacity (bucket.tokens + 1) }
  | none => buckets

def consumeBoth : TelegramRateLimitDecision × Buckets :=
  let (botDecision, buckets) := lim.consume call.botKey lim.botCapacity
    lim.botRefillPerSecond "bot" call.now buckets
  if !botDecision.allowed then (botDecision, buckets)
  else
    let (chatDecision, buckets) := lim.consume call.chatKey lim.chatCapacity
      lim.chatRefillPerSecond "chat" call.now buckets
    if !chatDecision.allowed then
      (chatDecision, refund call.botKey lim.botCapacity buckets)
    else (chatDecision, buckets)

def checkAndConsume : TelegramRateLimitDecision × Buckets :=
  if !call.limited then (allowed, buckets)
  else lim.consumeBoth (lim.prune call.now buckets) call

def checkAndConsumeUnpruned : TelegramRateLimitDecision × Buckets :=
  if !call.limited then (allowed, buckets) else lim.consumeBoth buckets call

end TelegramRateLimiter

section
variable {σ : Type*} (handle : σ → Call → TelegramRateLimitDecision × σ)

def answers : σ → List Call → List TelegramRateLimitDecision
  | _, [] => []
  | s, call :: calls => (handle s call).1 :: answers (handle s call).2 calls

def after (s : σ) (calls : List Call) : σ := run (fun s call => (handle s call).2) s calls

lemma after_append (s : σ) (calls more : List Call) :
    after handle s (calls ++ more) = after handle (after handle s calls) more :=
  run_append _ _ _ _

end

def admitted (lim : TelegramRateLimiter) (p : Call → Bool) (first last : ℚ) (calls : List Call) : ℕ :=
  (calls.zip (answers lim.checkAndConsume .empty calls)).countP fun answered =>
    answered.1.limited && answered.2.allowed && p answered.1 &&
      decide (first ≤ answered.1.now ∧ answered.1.now ≤ last)

def touched (calls : List Call) : List BucketKey := (calls.flatMap Call.keys).dedup

open TokenBucket Transition List Table Function

structure Ideal where
  level : BucketKey → ℚ
  time : ℚ

def Ideal.spend (ideal : Ideal) (key : BucketKey) : Ideal :=
  { ideal with level := Function.update ideal.level key (ideal.level key - 1) }

namespace TelegramRateLimiter
variable (lim : TelegramRateLimiter)

def capacity : BucketKey → ℚ
  | .bot _ => lim.botCapacity
  | .chat _ _ => lim.chatCapacity

def rate : BucketKey → ℚ
  | .bot _ => lim.botRefillPerSecond
  | .chat _ _ => lim.chatRefillPerSecond

def full (now : ℚ) : Ideal := ⟨lim.capacity, now⟩

def advance (ideal : Ideal) (now : ℚ) : Ideal where
  level key := refill (lim.capacity key) (lim.rate key) (ideal.level key) (now - ideal.time)
  time := now

def idealBoth (now : Ideal) (call : Call) : TelegramRateLimitDecision × Ideal :=
  let botDecision := decision "bot" lim.botRefillPerSecond (now.level call.botKey)
  let chatDecision := decision "chat" lim.chatRefillPerSecond (now.level call.chatKey)
  if !botDecision.allowed then (botDecision, now)
  else if !chatDecision.allowed then (chatDecision, now)
  else (chatDecision, (now.spend call.botKey).spend call.chatKey)

def idealCheck (ideal : Ideal) (call : Call) : TelegramRateLimitDecision × Ideal :=
  if !call.limited then (allowed, lim.advance ideal call.now)
  else lim.idealBoth (lim.advance ideal call.now) call

lemma capacity_nonneg (key : BucketKey) : 0 ≤ lim.capacity key := by
  cases key <;> simp [capacity]

lemma rate_pos (key : BucketKey) : 0 < lim.rate key := by
  cases key
  · exact lim.rates_pos.1
  · exact lim.rates_pos.2

lemma rate_nonneg (key : BucketKey) : 0 ≤ lim.rate key := (lim.rate_pos key).le

lemma capacity_le_expiry (key : BucketKey) : lim.capacity key ≤ lim.expirySeconds * lim.rate key := by
  rw [← div_le_iff₀ (lim.rate_pos key)]
  cases key with
  | bot _ => exact (le_max_left _ _).trans (le_max_right _ _)
  | chat _ _ => exact (le_max_right _ _).trans (le_max_right _ _)

end TelegramRateLimiter

variable {lim : TelegramRateLimiter} {buckets : Buckets} {ideal : Ideal} {key : BucketKey}
variable {toks now : ℚ} {known : List BucketKey} {call : Call}

def level (lim : TelegramRateLimiter) (buckets : Buckets) (now : ℚ) (key : BucketKey) : ℚ :=
  match buckets.get key with
  | some bucket => refill (lim.capacity key) (lim.rate key) bucket.tokens (now - bucket.updatedAt)
  | none => lim.capacity key

structure Represents (lim : TelegramRateLimiter) (known : List BucketKey) (buckets : Buckets)
    (ideal : Ideal) : Prop where
  nonneg : ∀ bucket ∈ buckets, 0 ≤ bucket.tokens
  past : ∀ bucket ∈ buckets, bucket.updatedAt ≤ ideal.time
  keys : ∀ bucket ∈ buckets, bucket.key ∈ known
  levels : ∀ key, ideal.level key = level lim buckets ideal.time key

section
variable (represents : Represents lim known buckets ideal)
include represents

lemma Represents.level_le (key : BucketKey) : ideal.level key ≤ lim.capacity key := by
  rw [represents.levels, level]
  split
  · exact refill_le
  · exact le_rfl

lemma Represents.level_nonneg (key : BucketKey) : 0 ≤ ideal.level key := by
  rw [represents.levels, level]
  split
  · rename_i bucket hit
    have stands := (get_eq_some.mp hit).1
    exact refill_nonneg (lim.capacity_nonneg key) (lim.rate_nonneg key)
      (represents.nonneg bucket stands) (sub_nonneg.mpr (represents.past bucket stands))
  · exact lim.capacity_nonneg key

lemma Represents.advance (later : ideal.time ≤ now) : Represents lim known buckets (lim.advance ideal now) where
  nonneg := represents.nonneg
  past := fun bucket stands => (represents.past bucket stands).trans later
  keys := represents.keys
  levels := by
    intro key
    have elapsed : 0 ≤ now - ideal.time := sub_nonneg.mpr later
    simp only [TelegramRateLimiter.advance, represents.levels, level]
    split
    · rw [refill_refill (lim.rate_nonneg key) elapsed]
      congr 1
      ring
    · exact refill_full (lim.rate_nonneg key) elapsed

lemma Represents.prune : Represents lim known (lim.prune ideal.time buckets) ideal where
  nonneg := fun bucket stands => represents.nonneg bucket (mem_remove.mp stands).1
  past := fun bucket stands => represents.past bucket (mem_remove.mp stands).1
  keys := fun bucket stands => represents.keys bucket (mem_remove.mp stands).1
  levels := by
    intro key
    rw [represents.levels, level, level]
    cases kept : (lim.prune ideal.time buckets).get key with
    | some bucket => rw [(get_of_get_remove kept).1]
    | none =>
      cases hit : buckets.get key with
      | none => rfl
      | some bucket =>
        obtain ⟨stands, isKey⟩ := get_eq_some.mp hit
        have gone := get_eq_none.mp kept bucket
        have expired : bucket.updatedAt + lim.expirySeconds ≤ ideal.time := by
          by_contra fresh
          exact gone (mem_remove.mpr ⟨stands, by simpa using fresh⟩) isKey
        apply refill_eq_capacity (represents.nonneg bucket stands)
        calc lim.capacity key ≤ lim.expirySeconds * lim.rate key :=
              lim.capacity_le_expiry key
          _ ≤ (ideal.time - bucket.updatedAt) * lim.rate key := by
              apply mul_le_mul_of_nonneg_right _ (lim.rate_nonneg key)
              linarith

lemma Represents.put (isKnown : key ∈ known) (some : 0 ≤ toks) (bound : toks ≤ lim.capacity key) :
    Represents lim known (buckets.put ⟨key, toks, ideal.time⟩)
      { ideal with level := Function.update ideal.level key toks } where
  nonneg := by
    intro bucket stands
    rcases mem_put.mp stands with rfl | ⟨pre, _⟩
    · exact some
    · exact represents.nonneg bucket pre
  past := by
    intro bucket stands
    rcases mem_put.mp stands with rfl | ⟨pre, _⟩
    · exact le_rfl
    · exact represents.past bucket pre
  keys := by
    intro bucket stands
    rcases mem_put.mp stands with rfl | ⟨pre, _⟩
    · exact isKnown
    · exact represents.keys bucket pre
  levels := by
    intro alt
    by_cases same : key = alt
    · subst same
      show Function.update ideal.level key toks key = _
      rw [level, get_put_of_eq _ rfl, update_self]
      simp [refill_zero bound]
    · show Function.update ideal.level key toks alt = _
      rw [level, get_put_of_ne _ same, update_of_ne (Ne.symm same), represents.levels, level]

lemma Represents.take (few : known.length ≤ lim.maxBuckets) : buckets.take lim.maxBuckets = buckets :=
  take_eq_self ((length_le represents.keys).trans few)

end

variable {calls : List Call} {scope : String}

lemma decision_allowed {rate : ℚ} : (decision scope rate toks).allowed = true ↔ 1 ≤ toks := by
  unfold decision
  split <;> simp_all [allowed]

lemma Represents.consume_eq (represents : Represents lim known buckets ideal)
    (isKnown : key ∈ known) (few : known.length ≤ lim.maxBuckets) (scope : String) :
    lim.consume key (lim.capacity key) (lim.rate key) scope ideal.time buckets =
      let ans := decision scope (lim.rate key) (ideal.level key)
      let refilled := buckets.put ⟨key, ideal.level key, ideal.time⟩
      (ans, if ans.allowed then refilled.put ⟨key, ideal.level key - 1, ideal.time⟩
        else refilled) := by
  have toks : min (lim.capacity key) (((buckets.get key).getD
      ⟨key, lim.capacity key, ideal.time⟩).tokens + max 0 (ideal.time - ((buckets.get key).getD
        ⟨key, lim.capacity key, ideal.time⟩).updatedAt) * lim.rate key) = ideal.level key := by
    rw [represents.levels, level]
    cases hit : buckets.get key with
    | none => simp
    | some bucket =>
      have elapsed : 0 ≤ ideal.time - bucket.updatedAt :=
        sub_nonneg.mpr (represents.past bucket (get_eq_some.mp hit).1)
      rw [Option.getD_some, max_eq_right elapsed]
      rfl
  have refilled := represents.put isKnown (represents.level_nonneg key) (represents.level_le key)
  simp only [TelegramRateLimiter.consume, toks, refilled.take few]
  split <;> rfl

lemma Represents.refill (represents : Represents lim known buckets ideal) (isKnown : key ∈ known) :
    Represents lim known (buckets.put ⟨key, ideal.level key, ideal.time⟩) ideal := by
  have refilled := represents.put isKnown (represents.level_nonneg key) (represents.level_le key)
  rwa [update_eq_self] at refilled

lemma Represents.spend (represents : Represents lim known buckets ideal)
    (isKnown : key ∈ known) (whole : 1 ≤ ideal.level key) :
    Represents lim known ((buckets.put ⟨key, ideal.level key, ideal.time⟩).put
      ⟨key, ideal.level key - 1, ideal.time⟩) (ideal.spend key) :=
  (represents.refill isKnown).put isKnown (sub_nonneg.mpr whole)
    ((sub_le_self _ zero_le_one).trans (represents.level_le key))

lemma Represents.refund {bucket} (represents : Represents lim known buckets (ideal.spend key))
    (hit : buckets.get key = some bucket) (fresh : bucket.updatedAt = ideal.time)
    (some : 0 ≤ ideal.level key) (bound : ideal.level key ≤ lim.capacity key) :
    Represents lim known (TelegramRateLimiter.refund key (lim.capacity key) buckets) ideal := by
  obtain ⟨stands, isKey⟩ := get_eq_some.mp hit
  have spent := represents.levels key
  have left : bucket.tokens = ideal.level key - 1 := by
    simp only [Ideal.spend, level, hit, update_self, fresh, sub_self, TokenBucket.refill, zero_mul, add_zero] at spent
    rcases min_choice (lim.capacity key) bucket.tokens with capped | free
    · linarith
    · rw [spent, free]
  have restored := represents.put (isKey ▸ represents.keys bucket stands) some bound
  have same : { ideal.spend key with
      level := Function.update (ideal.spend key).level key (ideal.level key) } = ideal := by
    simp [Ideal.spend]
  rw [same] at restored
  have whole : { bucket with tokens := min (lim.capacity key) (bucket.tokens + 1) } =
      (⟨key, ideal.level key, (ideal.spend key).time⟩ : Bucket) := by
    simp only [left, sub_add_cancel, min_eq_right bound, isKey, fresh, Ideal.spend]
  simpa only [TelegramRateLimiter.refund, hit, whole] using restored

lemma Represents.consumeBoth (represents : Represents lim known buckets ideal)
    (timely : ideal.time = call.now) (bot : call.botKey ∈ known) (chat : call.chatKey ∈ known)
    (few : known.length ≤ lim.maxBuckets) : (lim.consumeBoth buckets call).1 = (lim.idealBoth ideal call).1 ∧
      Represents lim known (lim.consumeBoth buckets call).2 (lim.idealBoth ideal call).2 := by
  have alt : call.chatKey ≠ call.botKey := by simp [Call.botKey, Call.chatKey]
  have onBot := represents.consume_eq bot few "bot"
  have botRate : lim.rate call.botKey = lim.botRefillPerSecond := rfl
  have chatRate : lim.rate call.chatKey = lim.chatRefillPerSecond := rfl
  have botCapacity : lim.capacity call.botKey = lim.botCapacity := rfl
  have chatCapacity : lim.capacity call.chatKey = lim.chatCapacity := rfl
  rw [botRate, botCapacity] at onBot
  simp only [TelegramRateLimiter.consumeBoth, TelegramRateLimiter.idealBoth, ← timely, onBot]
  by_cases whole : 1 ≤ ideal.level call.botKey
  · have admits : (decision "bot" lim.botRefillPerSecond (ideal.level call.botKey)).allowed = true :=
      decision_allowed.mpr whole
    have spent := represents.spend bot whole
    have onChat := spent.consume_eq chat few "chat"
    have same : (ideal.spend call.botKey).level call.chatKey = ideal.level call.chatKey := by
      simp [Ideal.spend, alt]
    have now : (ideal.spend call.botKey).time = ideal.time := rfl
    rw [same, now, chatRate, chatCapacity] at onChat
    simp only [admits, if_true, onChat, Bool.not_true, Bool.false_eq_true, if_false]
    by_cases room : 1 ≤ ideal.level call.chatKey
    · have answered := spent.spend chat (same.symm ▸ room)
      rw [same, now] at answered
      simpa [decision_allowed.mpr room] using answered
    · have refuses : (decision "chat" lim.chatRefillPerSecond
          (ideal.level call.chatKey)).allowed = false :=
        Bool.eq_false_iff.mpr fun admitted => room (decision_allowed.mp admitted)
      have touched := spent.refill chat
      simp only [refuses, Bool.not_false, if_true, Bool.false_eq_true, if_false, true_and]
      have hit (pre : Buckets) : ((pre.put ⟨call.botKey, ideal.level call.botKey - 1,
          ideal.time⟩).put ⟨call.chatKey, ideal.level call.chatKey, ideal.time⟩).get call.botKey =
          some ⟨call.botKey, ideal.level call.botKey - 1, ideal.time⟩ :=
        (get_put_of_ne _ (by exact alt)).trans (get_put_self _ _)
      exact touched.refund (hit _) rfl (represents.level_nonneg _) (represents.level_le _)
  · have refuses : (decision "bot" lim.botRefillPerSecond (ideal.level call.botKey)).allowed = false :=
      Bool.eq_false_iff.mpr fun admitted => whole (decision_allowed.mp admitted)
    simpa [refuses] using represents.refill bot

structure Follows (lim : TelegramRateLimiter)
    (handle : Buckets → Call → TelegramRateLimitDecision × Buckets) : Prop where
  step : ∀ {known buckets ideal call}, Represents lim known buckets ideal →
    ideal.time ≤ call.now → call.keys ⊆ known → known.length ≤ lim.maxBuckets →
      (handle buckets call).1 = (lim.idealCheck ideal call).1 ∧
        Represents lim known (handle buckets call).2 (lim.idealCheck ideal call).2

lemma checkAndConsume_follows (lim : TelegramRateLimiter) : Follows lim lim.checkAndConsume where
  step := by
    intro known buckets ideal call represents later knows few
    have advanced := represents.advance later
    unfold TelegramRateLimiter.checkAndConsume TelegramRateLimiter.idealCheck
    cases limited : call.limited
    · exact ⟨rfl, advanced⟩
    · simp only [Call.keys, limited, if_true, List.cons_subset, List.nil_subset, and_true] at knows
      exact advanced.prune.consumeBoth rfl knows.1 knows.2 few

lemma checkAndConsumeUnpruned_follows (lim : TelegramRateLimiter) : Follows lim lim.checkAndConsumeUnpruned where
  step := by
    intro known buckets ideal call represents later knows few
    have advanced := represents.advance later
    unfold TelegramRateLimiter.checkAndConsumeUnpruned TelegramRateLimiter.idealCheck
    cases limited : call.limited
    · exact ⟨rfl, advanced⟩
    · simp only [Call.keys, limited, if_true, List.cons_subset, List.nil_subset, and_true] at knows
      exact advanced.consumeBoth rfl knows.1 knows.2 few

def Sorted (calls : List Call) : Prop := calls.Pairwise fun call later => call.now ≤ later.now
lemma decision_eq_allowed {rate : ℚ} (whole : 1 ≤ toks) : decision scope rate toks = allowed := if_pos whole

lemma idealBoth_cases (lim : TelegramRateLimiter) (ideal : Ideal) (call : Call) :
    (1 ≤ ideal.level call.botKey ∧ 1 ≤ ideal.level call.chatKey ∧
      lim.idealBoth ideal call = (allowed, (ideal.spend call.botKey).spend call.chatKey)) ∨
    ∃ ans : TelegramRateLimitDecision, ans.allowed = false ∧ lim.idealBoth ideal call = (ans, ideal) := by
  unfold TelegramRateLimiter.idealBoth
  cases onBot : (decision "bot" lim.botRefillPerSecond (ideal.level call.botKey)).allowed with
  | false => exact .inr ⟨_, onBot, by simp [onBot]⟩
  | true =>
    cases onChat : (decision "chat" lim.chatRefillPerSecond (ideal.level call.chatKey)).allowed with
    | false => exact .inr ⟨_, onChat, by simp [onBot, onChat]⟩
    | true =>
      have room := decision_allowed.mp onChat
      refine Or.inl ⟨decision_allowed.mp onBot, room, ?_⟩
      simp [onBot, decision_eq_allowed room, allowed]

lemma idealCheck_time (lim : TelegramRateLimiter) (ideal : Ideal) (call : Call) :
    (lim.idealCheck ideal call).2.time = call.now := by
  unfold TelegramRateLimiter.idealCheck
  split
  · rfl
  · obtain ⟨_, _, both⟩ | ⟨_, _, both⟩ :=
      idealBoth_cases lim (lim.advance ideal call.now) call
    all_goals rw [both]; rfl

lemma Follows.answers {handle : Buckets → Call → TelegramRateLimitDecision × Buckets}
    (follows : Follows lim handle) (few : known.length ≤ lim.maxBuckets)
    (sorted : Sorted calls) (represents : Represents lim known buckets ideal)
    (later : ∀ call ∈ calls, ideal.time ≤ call.now) (knows : ∀ call ∈ calls, call.keys ⊆ known) :
    answers handle buckets calls = answers lim.idealCheck ideal calls := by
  induction calls generalizing buckets ideal with
  | nil => rfl
  | cons call calls ih =>
    obtain ⟨first, rest⟩ := pairwise_cons.mp sorted
    obtain ⟨ans, next⟩ := follows.step represents (later call mem_cons_self) (knows call mem_cons_self) few
    rw [Telegram.answers, Telegram.answers, ans, ih rest next
      (fun alt isLater => (idealCheck_time lim ideal call).symm ▸ first alt isLater)
      fun alt isLater => knows alt (mem_cons_of_mem call isLater)]

lemma Follows.after {handle : Buckets → Call → TelegramRateLimitDecision × Buckets}
    (follows : Follows lim handle) (few : known.length ≤ lim.maxBuckets) {pre more}
    (sorted : Sorted (pre ++ more)) (represents : Represents lim known buckets ideal)
    (later : ∀ call ∈ pre ++ more, ideal.time ≤ call.now) (knows : ∀ call ∈ pre, call.keys ⊆ known) :
    Represents lim known (after handle buckets pre) (after lim.idealCheck ideal pre) ∧
      ∀ call ∈ more, (after lim.idealCheck ideal pre).time ≤ call.now := by
  induction pre generalizing buckets ideal with
  | nil => exact ⟨represents, later⟩
  | cons call pre ih =>
    obtain ⟨first, rest⟩ := pairwise_cons.mp sorted
    have next := (follows.step represents (later call mem_cons_self) (knows call mem_cons_self) few).2
    exact ih rest next (fun alt isLater => (idealCheck_time lim ideal call).symm ▸ first alt isLater)
      fun alt isLater => knows alt (mem_cons_of_mem call isLater)

lemma represents_full (lim : TelegramRateLimiter) (known : List BucketKey) (now : ℚ) :
    Represents lim known .empty (lim.full now) where
  nonneg := fun bucket stands => absurd stands (not_mem_empty bucket)
  past := fun bucket stands => absurd stands (not_mem_empty bucket)
  keys := fun bucket stands => absurd stands (not_mem_empty bucket)
  levels := by
    intro key
    rfl

def uses (lim : TelegramRateLimiter) (key : BucketKey) (ideal : Ideal) (calls : List Call) : List (ℚ × Bool) :=
  (calls.zip (answers lim.idealCheck ideal calls)).map fun answered =>
    (answered.1.now, answered.2.allowed && decide (key ∈ answered.1.keys))

lemma idealCheck_level (lim : TelegramRateLimiter) (key : BucketKey) (ideal : Ideal) (call : Call) :
    let refilled := (lim.advance ideal call.now).level key
    let checked := lim.idealCheck ideal call
    if checked.1.allowed && decide (key ∈ call.keys)
      then 1 ≤ refilled ∧ checked.2.level key = refilled - 1
      else checked.2.level key = refilled := by
  unfold TelegramRateLimiter.idealCheck Call.keys
  cases limited : call.limited
  · simp
  · have alt : call.chatKey ≠ call.botKey := by simp [Call.botKey, Call.chatKey]
    obtain ⟨bot, chat, both⟩ | ⟨ans, refuses, both⟩ := idealBoth_cases lim (lim.advance ideal call.now) call
    · by_cases isBot : key = call.botKey
      · subst isBot
        simp [both, allowed, bot, Ideal.spend, alt.symm]
      · by_cases isChat : key = call.chatKey
        · subst isChat
          simp [both, allowed, chat, Ideal.spend, alt]
        · simp [both, isBot, isChat, Ideal.spend]
    · simp [both, refuses]

lemma uses_metered (lim : TelegramRateLimiter) (key : BucketKey) {ideal : Ideal}
    (sorted : Sorted calls) (later : ∀ call ∈ calls, ideal.time ≤ call.now) :
    Metered (lim.capacity key) (lim.rate key) ideal.time (ideal.level key) (uses lim key ideal calls) := by
  induction calls generalizing ideal with
  | nil => exact Metered.nil _ _
  | cons call calls ih =>
    obtain ⟨first, others⟩ := pairwise_cons.mp sorted
    have spent := idealCheck_level lim key ideal call
    have time := idealCheck_time lim ideal call
    have rest := ih others fun alt isLater => time.symm ▸ first alt isLater
    rw [time] at rest
    have cons : uses lim key ideal (call :: calls) =
        (call.now, (lim.idealCheck ideal call).1.allowed && decide (key ∈ call.keys)) ::
          uses lim key (lim.idealCheck ideal call).2 calls := rfl
    rw [cons]
    cases used : (lim.idealCheck ideal call).1.allowed && decide (key ∈ call.keys) with
    | false =>
      simp only [used, Bool.false_eq_true, if_false] at spent
      rw [spent] at rest
      exact Metered.idle (later call mem_cons_self) rest
    | true =>
      simp only [used, if_true] at spent
      rw [spent.2] at rest
      exact Metered.spend (later call mem_cons_self) spent.1 rest

lemma advance_advance (lim : TelegramRateLimiter) (ideal : Ideal) {next : ℚ} (later : now ≤ next) :
    lim.advance (lim.advance ideal now) next = lim.advance ideal next := by
  simp only [TelegramRateLimiter.advance, Ideal.mk.injEq, and_true]
  funext key
  rw [refill_refill (lim.rate_nonneg key) (sub_nonneg.mpr later)]
  congr 1
  ring

lemma answers_advance (lim : TelegramRateLimiter) (ideal : Ideal) (later : ∀ call ∈ calls, now ≤ call.now) :
    answers lim.idealCheck (lim.advance ideal now) calls = answers lim.idealCheck ideal calls := by
  cases calls with
  | nil => rfl
  | cons call calls =>
    have same : lim.idealCheck (lim.advance ideal now) call = lim.idealCheck ideal call := by
      simp only [TelegramRateLimiter.idealCheck, advance_advance lim ideal (later call mem_cons_self)]
    rw [answers, answers, same]

lemma idealCheck_refused (refused : (lim.idealCheck ideal call).1.scope = some scope) :
    (lim.idealCheck ideal call).2 = lim.advance ideal call.now := by
  unfold TelegramRateLimiter.idealCheck at refused ⊢
  cases limited : call.limited
  · rfl
  · obtain ⟨_, _, both⟩ | ⟨_, _, both⟩ := idealBoth_cases lim (lim.advance ideal call.now) call
    · simp [limited, both, allowed] at refused
    · simp [both]

variable {lim : TelegramRateLimiter} {calls : List Call}

def start (lim : TelegramRateLimiter) (calls : List Call) : Ideal := lim.full ((calls.head?.map Call.now).getD 0)

lemma start_le (lim : TelegramRateLimiter) (sorted : Sorted calls) :
    ∀ call ∈ calls, (start lim calls).time ≤ call.now := by
  cases calls with
  | nil => simp
  | cons first calls =>
    intro call mem
    rcases mem_cons.mp mem with rfl | isLater
    · exact le_rfl
    · exact (pairwise_cons.mp sorted).1 call isLater

lemma keys_subset_touched (calls : List Call) : ∀ call ∈ calls, call.keys ⊆ touched calls := by
  intro call mem key isKey
  exact mem_dedup.mpr (mem_flatMap.mpr ⟨call, mem, isKey⟩)

lemma answers_eq_ideal {handle : Buckets → Call → TelegramRateLimitDecision × Buckets}
    (follows : Follows lim handle) (sorted : Sorted calls) (few : (touched calls).length < lim.maxBuckets) :
    answers handle .empty calls = answers lim.idealCheck (start lim calls) calls :=
  follows.answers few.le sorted (represents_full lim _ _) (start_le lim sorted) (keys_subset_touched calls)

lemma admitted_le (sorted : Sorted calls) (few : (touched calls).length < lim.maxBuckets)
    (key : BucketKey) {p : Call → Bool} (same : ∀ call, (call.limited && p call) = decide (key ∈ call.keys))
    (first : ℚ) {duration : ℚ} (long : 0 ≤ duration) : (admitted lim p first (first + duration) calls : ℚ) ≤
      lim.capacity key + lim.rate key * duration := by
  have spent : admitted lim p first (first + duration) calls =
      spentIn first (first + duration) (uses lim key (start lim calls) calls) := by
    rw [admitted, spentIn, uses, countP_map, answers_eq_ideal (checkAndConsume_follows lim) sorted few]
    congr 1
    funext answered
    simp only [Function.comp, ← same]
    cases answered.1.limited <;> cases answered.2.allowed <;> simp
  have metered := uses_metered lim key sorted (start_le lim sorted)
  have bound := @Metered.spentIn_interval ℚ _ _ _ _ _ _ first (first + duration) _ _ metered
    (lim.capacity_nonneg key) (lim.rate_nonneg key) (lim.capacity_nonneg key) (by linarith)
  rw [spent]
  linarith

lemma answers_without_refused {pre later call scope} (sorted : Sorted (pre ++ call :: later))
    (few : (touched (pre ++ call :: later)).length < lim.maxBuckets)
    (refused : (lim.checkAndConsume (after lim.checkAndConsume .empty pre) call).1.scope = some scope) :
    answers lim.checkAndConsume (after lim.checkAndConsume .empty (pre ++ [call])) later =
      answers lim.checkAndConsume (after lim.checkAndConsume .empty pre) later := by
  have follows := checkAndConsume_follows lim
  have knows := keys_subset_touched (pre ++ call :: later)
  obtain ⟨represents, upcoming⟩ := follows.after few.le sorted
    (represents_full lim (touched (pre ++ call :: later)) _) (start_le lim sorted)
    fun alt mem => knows alt (mem_append_left _ mem)
  obtain ⟨timely, rest⟩ := pairwise_cons.mp (pairwise_append.mp sorted).2.1
  obtain ⟨same, next⟩ := follows.step represents (upcoming call mem_cons_self)
    (knows call (mem_append_right _ mem_cons_self)) few.le
  rw [same] at refused
  rw [idealCheck_refused refused] at next
  have laterKeys : ∀ alt ∈ later, alt.keys ⊆ touched (pre ++ call :: later) := fun alt mem =>
    knows alt (mem_append_right _ (mem_cons_of_mem call mem))
  rw [after_append]
  calc answers lim.checkAndConsume (after lim.checkAndConsume (after lim.checkAndConsume .empty pre) [call]) later
      = answers lim.idealCheck (lim.advance _ call.now) later := follows.answers few.le rest next timely laterKeys
    _ = answers lim.idealCheck _ later := answers_advance lim _ timely
    _ = answers lim.checkAndConsume (after lim.checkAndConsume .empty pre) later :=
        (follows.answers few.le rest represents
          (fun alt mem => upcoming alt (mem_cons_of_mem call mem)) laterKeys).symm

/-- Admitted sends fit the buckets, a refused send changes nothing, and idle buckets may be dropped. -/
theorem telegram_buckets (lim : TelegramRateLimiter) {calls : List Call} (sorted : Sorted calls)
    (few : (touched calls).length < lim.maxBuckets) : (∀ (acct chat : String) (first duration : ℚ), 0 ≤ duration →
      (admitted lim (fun call => call.accountId = acct ∧ call.chatId = chat) first
        (first + duration) calls : ℚ) ≤ lim.chatCapacity + lim.chatRefillPerSecond * duration) ∧
    (∀ (acct : String) (first duration : ℚ), 0 ≤ duration →
      (admitted lim (fun call => call.accountId = acct) first (first + duration) calls : ℚ) ≤
        lim.botCapacity + lim.botRefillPerSecond * duration) ∧
    (∀ (pre : List Call) (call : Call) (later : List Call), calls = pre ++ call :: later →
      (lim.checkAndConsume (after lim.checkAndConsume .empty pre) call).1.scope = some "chat" →
        answers lim.checkAndConsume (after lim.checkAndConsume .empty (pre ++ [call])) later =
          answers lim.checkAndConsume (after lim.checkAndConsume .empty pre) later) ∧
    answers lim.checkAndConsume .empty calls = answers lim.checkAndConsumeUnpruned .empty calls := by
  refine ⟨?_, ?_, ?_, ?_⟩
  · intro acct chat first duration long
    have same (call : Call) : (call.limited && decide (call.accountId = acct ∧ call.chatId = chat)) =
        decide (BucketKey.chat acct chat ∈ call.keys) := by
      unfold Call.keys
      cases call.limited <;> simp [Call.botKey, Call.chatKey, eq_comm]
    exact admitted_le sorted few (.chat acct chat) same first long
  · intro acct first duration long
    have same (call : Call) : (call.limited && decide (call.accountId = acct)) =
        decide (BucketKey.bot acct ∈ call.keys) := by
      unfold Call.keys
      cases call.limited <;> simp [Call.botKey, Call.chatKey, eq_comm]
    exact admitted_le sorted few (.bot acct) same first long
  · rintro pre call later rfl refused
    exact answers_without_refused sorted few refused
  · rw [answers_eq_ideal (checkAndConsume_follows lim) sorted few,
      answers_eq_ideal (checkAndConsumeUnpruned_follows lim) sorted few]

def sampleLimiter : TelegramRateLimiter where
  botCapacity := 2
  botRefillPerSecond := 2
  chatCapacity := 1
  chatRefillPerSecond := 1
  maxBuckets := 4
  idleTtlSeconds := 1
  capacities_pos := by decide
  rates_pos := by decide
  bounds_pos := by decide

def sampleCalls : List Call :=
  [⟨"bot", "sendMessage", "first", 0⟩, ⟨"bot", "sendMessage", "first", 0⟩,
    ⟨"bot", "sendPhoto", "second", 1 / 2⟩, ⟨"bot", "sendChatAction", "second", 1 / 2⟩,
    ⟨"bot", "sendMessage", "first", 3⟩, ⟨"bot", "sendMessage", "first", 7 / 2⟩]

example : (answers sampleLimiter.checkAndConsume .empty sampleCalls).map
    TelegramRateLimitDecision.scope = [none, some "chat", none, none, none, some "chat"] := by
  decide +kernel

theorem telegram_buckets_sample :
    (admitted sampleLimiter (fun call => call.accountId = "bot" ∧ call.chatId = "first") 0 3
      sampleCalls : ℚ) ≤ 1 + 1 * 3 := by
  have sorted : Sorted sampleCalls := by
    unfold Sorted
    decide +kernel
  have bounds := (@telegram_buckets sampleLimiter sampleCalls sorted (by decide +kernel)).1
    "bot" "first" 0 3 (by decide)
  simpa [sampleLimiter] using bounds

end Clawdi.RateLimits.Telegram
