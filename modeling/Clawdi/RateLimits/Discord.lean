import Clawdi.Lib.Table
import Clawdi.Lib.Transition
import Mathlib.Algebra.Order.Field.Rat
import Mathlib.Tactic.Linarith

namespace Clawdi.RateLimits.Discord
open Transition

structure DiscordRateLimitDecision where
  allowed : Bool
  retryAfterSeconds : Option ℚ
  globalLimit : Bool

structure DiscordBucketState where
  key : String
  remaining : ℤ
  resetAt : ℚ
  limit : Option ℤ
  bucketId : Option String

structure DiscordGlobalState where
  accountScope : String
  windowStartedAt : ℚ
  count : ℕ
  blockedUntil : ℚ
  updatedAt : ℚ

structure Characters where
  isDigit : Char → Bool
  isAlnum : Char → Bool
  upper : Char → List Char

structure DiscordRateLimiter where
  globalPerSecond : ℕ
  maxBuckets : ℕ
  maxScopes : ℕ
  scopeIdleTtlSeconds : ℚ
  characters : Characters
  bounds_pos : 0 < globalPerSecond ∧ 0 < maxBuckets ∧ 0 < maxScopes ∧ 0 < scopeIdleTtlSeconds

structure Headers where
  resetAfter : Option ℚ
  retryAfter : Option ℚ
  remaining : Option ℤ
  limit : Option ℤ
  bucketId : Option String
  isGlobal : Bool

/-- What a caller does: `request` names the REST request that is checked and then consumed. -/
inductive Action
  | check (req : ℕ)
  | consume (req : ℕ)
  | observe (headers : Headers) (statusCode : ℕ)

structure Call where
  accountScope : String
  method : String
  path : String
  action : Action
  now : ℚ
  done : ℚ

structure State where
  globalStates : Table DiscordGlobalState.accountScope
  buckets : Table DiscordBucketState.key

def State.empty : State := ⟨.empty, .empty⟩

def removePrefix (start text : List Char) : List Char :=
  if start.isPrefixOf text then text.drop start.length else text

namespace DiscordRateLimiter
variable (lim : DiscordRateLimiter)

def keyPart (major : Option (List Char)) (seg : List Char) : List Char × Option (List Char) :=
  if seg.all lim.characters.isDigit ∧ 10 ≤ seg.length then
    if major = none then (":major".toList, some seg) else (":id".toList, major)
  else if 20 ≤ seg.length ∧
      seg.all fun ch => lim.characters.isAlnum ch || ch = '_' || ch = '-' then
    (":token".toList, major)
  else (seg, major)

def keyParts : Option (List Char) → List (List Char) → List (List Char) × Option (List Char)
  | major, [] => ([], major)
  | major, seg :: segs =>
    let (part, major) := lim.keyPart major seg
    let (parts, major) := keyParts major segs
    (part :: parts, major)

variable (accountScope : String) (global : DiscordGlobalState) (key : String) (now : ℚ) (st : State)

def routeKey (method path : String) : String :=
  let normalized := path.toList.takeWhile (· ≠ '?')
  let normalized := removePrefix "/v1/channels/discord/v10".toList normalized
  let normalized := removePrefix "/api/channels/discord/v10".toList normalized
  let normalized := removePrefix "/api/v10".toList normalized
  let segs := (normalized.splitOn '/').filter (· ≠ [])
  let (parts, major) := lim.keyParts none segs
  String.ofList (accountScope.toList ++ '|' :: method.toList.flatMap lim.characters.upper ++
    " /".toList ++ ['/'].intercalate parts ++ '|' :: major.getD ['-'])

def route (call : Call) : String := lim.routeKey call.accountScope call.method call.path

def prune : State where
  globalStates := st.globalStates.remove fun global => global.blockedUntil ≤ now ∧
    global.windowStartedAt + 1 ≤ now ∧ global.updatedAt + lim.scopeIdleTtlSeconds ≤ now
  buckets := st.buckets.remove fun bucket => bucket.resetAt ≤ now

def touchGlobal : State :=
  { st with globalStates := st.globalStates.put { global with updatedAt := now } }

def enforceScopeBound : State :=
  { st with globalStates := st.globalStates.take lim.maxScopes }

def storeBucket (bucket : DiscordBucketState) (now : ℚ) (st : State) : State :=
  if bucket.resetAt ≤ now then
    { st with buckets := st.buckets.remove fun alt => alt.key = bucket.key }
  else { st with buckets := (st.buckets.put bucket).take lim.maxBuckets }

/-- The part of `check` on the account: a refusal, and the state without `updated_at`. -/
def checkGlobal : Option DiscordRateLimitDecision × DiscordGlobalState :=
  if now < global.blockedUntil then (some ⟨false, some (global.blockedUntil - now), true⟩, global)
  else
    let global := { global with blockedUntil := 0 }
    let global := if 1 ≤ now - global.windowStartedAt then
      { global with windowStartedAt := now, count := 0 } else global
    if lim.globalPerSecond ≤ global.count then
      (some ⟨false, some (max (1 / 10) (global.windowStartedAt + 1 - now)), true⟩, global)
    else (none, global)

def checkRoute : DiscordRateLimitDecision × State :=
  match st.buckets.get key with
  | none => (⟨true, none, false⟩, st)
  | some bucket =>
    let moved := { st with buckets := st.buckets.put bucket }
    if 0 < bucket.remaining then (⟨true, none, false⟩, moved)
    else (⟨false, some (max (1 / 10) (bucket.resetAt - now)), false⟩, moved)

def check : DiscordRateLimitDecision × State :=
  let st := lim.prune now st
  match st.globalStates.get accountScope with
  | none => checkRoute key now st
  | some global =>
    let (refusal, global) := lim.checkGlobal global now
    let st := touchGlobal global now st
    match refusal with
    | some decision => (decision, st)
    | none => checkRoute key now st

def consumeRoute : State :=
  match st.buckets.get key with
  | some bucket =>
    if 0 < bucket.remaining then
      { st with buckets := st.buckets.put { bucket with remaining := bucket.remaining - 1 } }
    else st
  | none => st

def consume : State :=
  let st := lim.prune now st
  let global : DiscordGlobalState := match st.globalStates.get accountScope with
    | none => ⟨accountScope, now, 0, 0, now⟩
    | some global =>
      if 1 ≤ now - global.windowStartedAt then { global with windowStartedAt := now, count := 0 }
      else global
  let st := touchGlobal { global with count := global.count + 1 } now st
  consumeRoute key (lim.enforceScopeBound st)

def blockGlobal (delay now : ℚ) (st : State) : State :=
  let global := (st.globalStates.get accountScope).getD ⟨accountScope, now, 0, 0, now⟩
  lim.enforceScopeBound (touchGlobal
    { global with blockedUntil := max global.blockedUntil (now + max 0 delay) } now st)

end DiscordRateLimiter

def Headers.delay (headers : Headers) : Option ℚ := headers.retryAfter.or headers.resetAfter

namespace DiscordRateLimiter
variable (lim : DiscordRateLimiter)

def reported (key : String) (headers : Headers) (statusCode : ℕ) (now : ℚ) : Option DiscordBucketState :=
  if statusCode = 429 then
    headers.delay.map fun delay => ⟨key, 0, now + max 0 delay, headers.limit, headers.bucketId⟩
  else
    match headers.remaining, headers.resetAfter with
    | some left, some resetAfter => some ⟨key, left, now + max 0 resetAfter, headers.limit, headers.bucketId⟩
    | _, _ => none

def observe (accountScope key : String) (headers : Headers) (statusCode : ℕ) (now done : ℚ) (st : State) : State :=
  let st := lim.prune now st
  if statusCode = 429 ∧ headers.isGlobal then
    match headers.delay with
    | some delay => lim.blockGlobal accountScope delay now st
    | none => st
  else
    match reported key headers statusCode now with
    | some bucket => lim.storeBucket bucket done st
    | none => st

def step (st : State) (call : Call) : State :=
  match call.action with
  | .check _ => (lim.check call.accountScope (lim.route call) call.now st).2
  | .consume _ => lim.consume call.accountScope (lim.route call) call.now st
  | .observe headers statusCode =>
    lim.observe call.accountScope (lim.route call) headers statusCode call.now call.done st

def passes (st : State) (call : Call) : Bool := (lim.check call.accountScope (lim.route call) call.now st).1.allowed

def report (call : Call) : Option DiscordBucketState :=
  match call.action with
  | .observe headers statusCode =>
    if statusCode = 429 ∧ headers.isGlobal then none
    else reported (lim.route call) headers statusCode call.now
  | _ => none

end DiscordRateLimiter

namespace Call

def backOff (call : Call) (isGlobal : Bool) : Option ℚ :=
  match call.action with
  | .observe headers statusCode => if statusCode = 429 ∧ headers.isGlobal = isGlobal then headers.delay else none
  | _ => none

end Call

def Ordered (calls : List Call) : Prop :=
  (∀ call ∈ calls, call.now ≤ call.done) ∧ calls.Pairwise fun call later => call.done ≤ later.now

end Clawdi.RateLimits.Discord
