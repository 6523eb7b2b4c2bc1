import Mathlib.Data.Option.Basic
import Clawdi.Lib.Transition

namespace Clawdi.OAuth

structure TokenPair where
  accessToken : String
  refreshToken : String
  access_ne : accessToken ≠ ""
  refresh_ne : refreshToken ≠ ""

instance : DecidableEq TokenPair := fun pair alt =>
  decidable_of_iff (pair.accessToken = alt.accessToken ∧ pair.refreshToken = alt.refreshToken)
    (TokenPair.mk.injEq _ _ _ _ _ _ _ _ ▸ Iff.rfl)

/-- The reserved entry of the `openai-codex` pool. -/
structure NativeEntry where
  accessToken : Option String
  refreshToken : Option String
  authType : Option String
  source : Option String
  members : List (String × String)
  deriving DecidableEq

inductive Fingerprint where
  | runtimeOAuthCredential (rev accessToken refreshToken : String)
  | nativeOAuthCredentialEvidence (e : NativeEntry)
  deriving DecidableEq

variable (material : RuntimeOAuthMaterial) (native : Option NativeEntry) (rev : String) (owned : Bool)

def oauthCredentialFingerprint (toks : TokenPair) : Fingerprint :=
  .runtimeOAuthCredential rev toks.accessToken toks.refreshToken

namespace NativeEntry
variable (e : NativeEntry)

def tokens : Option TokenPair :=
  match e.accessToken, e.refreshToken with
  | some access, some refresh =>
    if filled : access ≠ "" ∧ refresh ≠ "" then some ⟨access, refresh, filled.1, filled.2⟩
    else none
  | _, _ => none

def fingerprint (rev : String) : Fingerprint :=
  match e.tokens with
  | some toks => oauthCredentialFingerprint rev toks
  | none => .nativeOAuthCredentialEvidence e

def managed (owned : Bool) : Bool :=
  e.tokens.isSome && e.authType == some "oauth" &&
    e.source == some "manual:device_code" && owned

end NativeEntry

inductive Observation where
  | missing
  | managed (credentialFingerprint : Fingerprint)
  | foreign (credentialFingerprint : Fingerprint)
  deriving DecidableEq

def Observation.credentialFingerprint : Observation → Option Fingerprint
  | .missing => none
  | .managed hit | .foreign hit => some hit

structure RuntimeOAuthMaterial where
  tokens : TokenPair
  lastRefresh : String

def targetEntry : NativeEntry where
  accessToken := some material.tokens.accessToken
  refreshToken := some material.tokens.refreshToken
  authType := some "oauth"
  source := some "manual:device_code"
  members :=
    [("label", "\"Clawdi managed connection\""), ("priority", "0"),
      ("base_url", "\"https://chatgpt.com/backend-api/codex\""),
      ("last_refresh", material.lastRefresh), ("last_status", "null"), ("last_status_at", "null"),
      ("last_error_code", "null"), ("last_error_reason", "null"), ("last_error_message", "null"),
      ("last_error_reset_at", "null")]

inductive HermesMutation where
  | seedIfMissing (material : RuntimeOAuthMaterial)
  | upsert (material : RuntimeOAuthMaterial)
  | remove

structure MutationResult where
  updated : Bool
  casMatched : Bool
  beforeCredentialFingerprint : Option Fingerprint
  afterCredentialFingerprint : Option Fingerprint

def inspect : Observation :=
  match native with
  | none => .missing
  | some e =>
    if e.managed owned then .managed (e.fingerprint rev)
    else .foreign (e.fingerprint rev)

/-- One locked run of the helper; no expected fingerprint is the expectation `missing`. -/
def mutate (expectedFingerprint : Option Fingerprint) (act : HermesMutation) : MutationResult × Option NativeEntry :=
  let pre := native.map (·.fingerprint rev)
  let casMatched := pre == expectedFingerprint
  if !casMatched then (⟨false, false, pre, pre⟩, native)
  else
    match act with
    | .seedIfMissing material | .upsert material =>
      let tgt := targetEntry material
      (⟨true, true, pre, some (tgt.fingerprint rev)⟩, some tgt)
    | .remove =>
      if native.any (·.managed owned) then (⟨true, true, pre, none⟩, none)
      else (⟨false, false, pre, pre⟩, native)

@[simp] lemma targetEntry_tokens : (targetEntry material).tokens = some material.tokens := by
  have filled : material.tokens.accessToken ≠ "" ∧ material.tokens.refreshToken ≠ "" :=
    ⟨material.tokens.access_ne, material.tokens.refresh_ne⟩
  show (if filled : _ ∧ _ then some (TokenPair.mk _ _ filled.1 filled.2) else none) = _
  rw [dif_pos filled]

@[simp] lemma targetEntry_fingerprint :
    (targetEntry material).fingerprint rev = oauthCredentialFingerprint rev material.tokens := by
  unfold NativeEntry.fingerprint
  rw [targetEntry_tokens]

@[simp] lemma targetEntry_managed : (targetEntry material).managed owned = owned := by
  unfold NativeEntry.managed
  rw [targetEntry_tokens]
  rfl

lemma oauthCredentialFingerprint_inj {rev alt toks held} :
    oauthCredentialFingerprint rev toks = oauthCredentialFingerprint alt held ↔ rev = alt ∧ toks = held := by
  cases toks
  cases held
  simp [oauthCredentialFingerprint]

lemma NativeEntry.fingerprint_of_tokens {e : NativeEntry} {toks} (valid : e.tokens = some toks) (rev : String) :
    e.fingerprint rev = oauthCredentialFingerprint rev toks := by
  unfold NativeEntry.fingerprint
  rw [valid]

@[simp] lemma inspect_credentialFingerprint : (inspect native rev owned).credentialFingerprint =
      native.map (·.fingerprint rev) := by
  cases native with
  | none => rfl
  | some e =>
    unfold inspect
    by_cases managed : e.managed owned = true <;> simp [managed, Observation.credentialFingerprint]

lemma mutate_changes {native rev owned exp act}
    (changes : (mutate native rev owned exp act).2 ≠ native) : native.map (·.fingerprint rev) = exp := by
  by_cases matched : native.map (·.fingerprint rev) = exp
  · exact matched
  · apply absurd _ changes
    simp [mutate, matched]

/-- The operation of an unresolved intent with the evidence the ledger's schema asks of it. -/
inductive IntentOperation where
  | seed (targetCredentialFingerprint : Fingerprint)
  | upsert (beforeCredentialFingerprint targetCredentialFingerprint : Fingerprint)
  | remove (beforeCredentialFingerprint : Fingerprint)

inductive LedgerState where
  | intent (op : IntentOperation)
  | seeded (credentialFingerprint : Option Fingerprint)
  | adopted
  | revoked

structure OAuthCredentialLedger where
  credentialRevision : String
  state : LedgerState

def OAuthCredentialLedger.stable (ledger : OAuthCredentialLedger) : Bool :=
  match ledger.state with
  | .intent _ => false
  | _ => true

structure DesiredEvidence where
  credentialRevision : String
  credentialFingerprint : Fingerprint

inductive NativeAction where
  | preserve
  | seed (targetCredentialFingerprint : Fingerprint)
  | upsert (expectedCredentialFingerprint targetCredentialFingerprint : Fingerprint)
  | remove (expectedCredentialFingerprint : Fingerprint)

structure Decision where
  nativeAction : NativeAction
  nextLedger : Option OAuthCredentialLedger
  requiresWriteAheadIntent : Bool

variable (rev : String) (ledger : Option OAuthCredentialLedger) (native : Observation)

def seededLedger (credentialFingerprint : Option Fingerprint) :
    OAuthCredentialLedger := ⟨rev, .seeded credentialFingerprint⟩

variable (exp tgt : Fingerprint) (requiresWriteAheadIntent : Bool)

def seedDecision : Decision := ⟨.seed tgt, some (seededLedger rev (some tgt)), requiresWriteAheadIntent⟩
def upsertDecision : Decision := ⟨.upsert exp tgt, some (seededLedger rev (some tgt)), requiresWriteAheadIntent⟩
def removeDecision : Decision := ⟨.remove exp, none, requiresWriteAheadIntent⟩
def preserveDecision (nextLedger : Option OAuthCredentialLedger) : Decision := ⟨.preserve, nextLedger, false⟩

def IntentOperation.intentTargetFingerprint : IntentOperation → Option Fingerprint
  | .seed tgt | .upsert _ tgt => some tgt
  | .remove _ => none

def IntentOperation.beforeFingerprint : IntentOperation → Option Fingerprint
  | .seed _ => none
  | .upsert pre _ | .remove pre => some pre

def decideFromIntent (want : DesiredEvidence) (ledger : OAuthCredentialLedger)
    (op : IntentOperation) (native : Observation) : Decision :=
  if ledger.credentialRevision = want.credentialRevision then
    match op with
    | .seed tgt =>
      if native = .missing then seedDecision want.credentialRevision tgt false
      else if native.credentialFingerprint = some tgt then
        preserveDecision (some (seededLedger want.credentialRevision (some tgt)))
      else preserveDecision (some ledger)
    | .upsert pre tgt =>
      if native.credentialFingerprint = some tgt then
        preserveDecision (some (seededLedger want.credentialRevision (some tgt)))
      else if native.credentialFingerprint = some pre then
        upsertDecision want.credentialRevision pre tgt false
      else preserveDecision (some ledger)
    | .remove pre =>
      if native = .missing then
        seedDecision want.credentialRevision want.credentialFingerprint true
      else if native.credentialFingerprint = some pre then
        preserveDecision (some (seededLedger want.credentialRevision (some pre)))
      else preserveDecision (some ledger)
  else
    match native.credentialFingerprint with
    | none => seedDecision want.credentialRevision want.credentialFingerprint true
    | some cur =>
      if op.intentTargetFingerprint = some cur ∨
          op.beforeFingerprint = some cur then
        upsertDecision want.credentialRevision cur want.credentialFingerprint true
      else preserveDecision (some ledger)

def decideWithoutDesiredCredential : Decision :=
  match ledger with
  | none => preserveDecision none
  | some ledger =>
    match ledger.state with
    | .intent (.remove pre) =>
      if native = .missing then preserveDecision none
      else if native.credentialFingerprint = some pre then removeDecision pre false
      else preserveDecision (some ledger)
    | .intent (.seed tgt) =>
      if native.credentialFingerprint = some tgt then removeDecision tgt true
      else if native = .missing then preserveDecision none
      else preserveDecision (some ledger)
    | .intent (.upsert pre tgt) =>
      if native.credentialFingerprint = some tgt then removeDecision tgt true
      else if native.credentialFingerprint = some pre then preserveDecision none
      else preserveDecision (some ledger)
    | .seeded noted =>
      match native with
      | .managed hit => removeDecision hit true
      | .foreign hit => if noted = some hit then removeDecision hit true else preserveDecision none
      | .missing => preserveDecision none
    | .adopted | .revoked => preserveDecision none

def decideChatGptOAuthCredentialReconciliation (want : Option DesiredEvidence)
    (ledger : Option OAuthCredentialLedger) (native : Observation) : Decision :=
  match want with
  | none => decideWithoutDesiredCredential ledger native
  | some want =>
    let fresh : Decision :=
      match native with
      | .missing => seedDecision want.credentialRevision want.credentialFingerprint true
      | .managed hit | .foreign hit => upsertDecision want.credentialRevision hit want.credentialFingerprint true
    match ledger with
    | none => fresh
    | some ledger =>
      match ledger.state with
      | .intent op => decideFromIntent want ledger op native
      | .seeded noted =>
        if ledger.credentialRevision = want.credentialRevision then
          match native with
          | .missing => preserveDecision (some ⟨want.credentialRevision, .revoked⟩)
          | .managed _ => preserveDecision (some (seededLedger want.credentialRevision noted))
          | .foreign hit =>
            if noted = some hit then
              preserveDecision (some (seededLedger want.credentialRevision noted))
            else preserveDecision (some ⟨want.credentialRevision, .adopted⟩)
        else fresh
      | .adopted | .revoked =>
        if ledger.credentialRevision = want.credentialRevision then
          match native with
          | .missing => preserveDecision (some ⟨want.credentialRevision, .revoked⟩)
          | .managed _ | .foreign _ => preserveDecision (some ⟨want.credentialRevision, .adopted⟩)
        else fresh

/-- The operation of the intent; `preserve` has none and the source throws. -/
def NativeAction.intentOperation : NativeAction → Option IntentOperation
  | .preserve => none
  | .seed tgt => some (.seed tgt)
  | .upsert exp tgt => some (.upsert exp tgt)
  | .remove exp => some (.remove exp)

def intentLedgerForDecision (decision : Decision) (currentLedger : Option OAuthCredentialLedger) :
    Option OAuthCredentialLedger :=
  if !decision.requiresWriteAheadIntent then none
  else
    match decision.nativeAction.intentOperation, decision.nextLedger.or currentLedger with
    | some op, some ident => some ⟨ident.credentialRevision, .intent op⟩
    | _, _ => none

def runtimeOAuthLedgerOwnership : Bool :=
  match ledger with
  | none => false
  | some ledger =>
    match ledger.state with
    | .seeded _ | .intent (.remove _) => true
    | _ => false

open Transition

structure DesiredCredential where
  credentialRevision : String
  material : RuntimeOAuthMaterial

variable (want : Option DesiredCredential) (cred : DesiredCredential)
variable (ledger : Option OAuthCredentialLedger) (native : Option NativeEntry)

def DesiredCredential.evidence : DesiredEvidence where
  credentialRevision := cred.credentialRevision
  credentialFingerprint := oauthCredentialFingerprint cred.credentialRevision cred.material.tokens

inductive Stage where
  | read
  | observe (ledger : Option OAuthCredentialLedger)
  | intend (ledger : Option OAuthCredentialLedger) (native : Observation)
  | mutate (ledger : Option OAuthCredentialLedger) (native : Observation)
  | record (ledger : Option OAuthCredentialLedger) (native : Observation)

structure ReconcileRun where
  desired : Option DesiredCredential
  stage : Stage

structure World where
  ledger : Option OAuthCredentialLedger
  native : Option NativeEntry
  run : Option ReconcileRun

inductive Action where
  | begin (want : Option DesiredCredential)
  | advance
  | crash
  | external (native : Option NativeEntry)

def runRevision : String :=
  match want with
  | some cred => cred.credentialRevision
  | none => (ledger.map (·.credentialRevision)).getD ""

def runObservation : Observation := inspect native (runRevision want ledger) (runtimeOAuthLedgerOwnership ledger)

def runDecision (native : Observation) : Decision :=
  decideChatGptOAuthCredentialReconciliation (want.map (·.evidence)) ledger native

variable (res : MutationResult) (act : NativeAction)

def assertRuntimeNativeMutationCompleted (expectedFingerprint : Option Fingerprint)
    (targetFingerprint : Fingerprint) : Bool :=
  res.casMatched && res.beforeCredentialFingerprint == expectedFingerprint &&
    res.updated && res.afterCredentialFingerprint == some targetFingerprint

def assertRuntimeNativeRemovalCompleted (expectedFingerprint : Fingerprint) : Bool :=
  res.casMatched && res.beforeCredentialFingerprint == some expectedFingerprint &&
    res.updated && res.afterCredentialFingerprint == none

def executeHostedRuntimeOAuthAction (native : Option NativeEntry) : Bool × Option NativeEntry :=
  match act with
  | .preserve => (true, native)
  | .remove _ => (false, native)
  | .seed tgt =>
    let (res, after) := mutate native cred.credentialRevision false none (.seedIfMissing cred.material)
    (assertRuntimeNativeMutationCompleted res none tgt, after)
  | .upsert exp tgt =>
    let (res, after) := mutate native cred.credentialRevision false (some exp) (.upsert cred.material)
    (assertRuntimeNativeMutationCompleted res (some exp) tgt, after)

def removeHostedRuntimeOAuthCredential (rev : String) (exp : Fingerprint)
    (native : Option NativeEntry) : Bool × Option NativeEntry :=
  -- the ledger's own profile is passed where the ledger states no ownership
  let (res, after) := mutate native rev true (some exp) .remove
  (assertRuntimeNativeRemovalCompleted res exp, after)

def executeDecision (native : Option NativeEntry) : Bool × Option NativeEntry :=
  match want with
  | some cred => executeHostedRuntimeOAuthAction cred act native
  | none =>
    match act with
    | .remove exp => removeHostedRuntimeOAuthCredential (runRevision none ledger) exp native
    | _ => (true, native)

def advance (w : World) (run : ReconcileRun) : World :=
  match run.stage with
  | .read =>
    match run.desired, w.ledger with
    | none, none => { w with run := none }
    | _, _ => { w with run := some { run with stage := .observe w.ledger } }
  | .observe ledger =>
    let native := runObservation run.desired ledger w.native
    { w with run := some { run with stage := .intend ledger native } }
  | .intend ledger native =>
    let decision := runDecision run.desired ledger native
    let entered := some { run with stage := .mutate ledger native }
    if decision.requiresWriteAheadIntent then
      match intentLedgerForDecision decision ledger with
      | none => { w with run := none }
      | some intent => { w with ledger := some intent, run := entered }
    else { w with run := entered }
  | .mutate ledger native =>
    let decision := runDecision run.desired ledger native
    let (completed, after) := executeDecision run.desired ledger decision.nativeAction w.native
    let entered := some { run with stage := .record ledger native }
    { w with native := after, run := if completed then entered else none }
  | .record ledger native =>
    match (runDecision run.desired ledger native).nextLedger with
    | some next => { w with ledger := some next, run := none }
    | none =>
      if run.desired.isSome then { w with run := none }
      else { w with ledger := none, run := none }

def step (w : World) (act : Action) : World :=
  match act with
  | .begin want => if w.run.isSome then w else { w with run := some ⟨want, .read⟩ }
  | .advance =>
    match w.run with
    | none => w
    | some run => advance w run
  | .crash => { w with run := none }
  | .external native => { w with native }

end Clawdi.OAuth
