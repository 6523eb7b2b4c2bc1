import Clawdi.Providers.Endpoints

namespace Clawdi.Providers

/-- `ProviderEnvironmentInventory`, less what is read from the provider's row. -/
structure Inventory where
  revision : String
  bindings : List RepairBinding

/-- The consumers and revisions that a request meets, and the boundary hash. -/
structure Attestation where
  now : ℕ
  inventory : Except HTTPException Inventory
  flushed : Except HTTPException String
  boundary : String → List NativeIdentityProof → String
  repairBoundary : String → List NativeEnvironmentProof → String

structure HandoffComplete where
  handoffId : ℕ
  proofs : List NativeIdentityProof
  observedAt : ℕ

/-- `ProviderEnvironmentRestore` -/
structure EnvironmentRestore extends RepairIntent where
  observedAt : ℕ
  proofs : List NativeEnvironmentProof

def loadProviderForEnvironmentRepair (providers : ProviderTable) (provId : String) :
    Except HTTPException (AiProvider × String) :=
  match (providers.get provId).filter fun row => !row.archived with
  | none => throw ⟨404, "Provider not found"⟩
  | some prov =>
    match prov.ownsConnection, prov.auth, prov.runtimeEnvName with
    | true, .managedApiKey _, some env =>
      if env = "" then
        throw ⟨409, "Provider has no restorable managed credential environment"⟩
      else return (prov, env)
    | _, _, _ => throw ⟨409, "Provider has no restorable managed credential environment"⟩

def requireFresh (now observedAt : ℕ) (detail : String) : Except HTTPException Unit :=
  raiseIf (¬(now ≤ observedAt + 300 ∧ observedAt ≤ now)) ⟨409, detail⟩

def byEnvironment {α : Type} (bind : α → RepairBinding) (proofs : List α) : List α :=
  proofs.insertionSort fun a b => (bind a).environmentId ≤ (bind b).environmentId

variable (attestation : Attestation) (prov : AiProvider) (provId : String)

def unboundComplete (proof : NativeEnvironmentProof) : Bool :=
  !(decide (provId ∈ proof.binding.providerIds) ||
    (proof.nativeState ≠ .stopped && proof.appliedPushGeneration ≠ proof.binding.pushGeneration))

def ownerMatches (nativeEnvName : String) (proof : NativeIdentityProof) : Bool :=
  proof.nativeState = .running && proof.nativeEnvName = some nativeEnvName &&
    proof.configSha256.any (· ≠ "") && proof.journalSha256.any (· ≠ "") &&
    proof.nativeEnvSha256.any (· ≠ "") &&
    proof.nativeBaseUrl.any (fun url => rstripSlash url = rstripSlash prov.baseUrl) &&
    proof.nativeApiMode = effectiveProviderApiMode prov.type prov.apiMode &&
    proof.journalProviderUuid.all (· = prov.id) &&
    proof.journalIncarnationId.all (· = prov.incarnationId)

variable (w : World) (body : HandoffRequest) (proof : NativeIdentityProof)

/-- The checks that `prepare_identity_handoff` makes of one proof. -/
def admitProof : Except HTTPException Unit :=
  if proof.nativeEnvName.isNone then
    raiseIf (unboundComplete body.providerId proof.toNativeEnvironmentProof = false)
      ⟨409, "Unbound consumer checkpoint is incomplete"⟩
  else
    raiseIf (ownerMatches prov body.nativeEnvName proof = false)
      ⟨409, "Native owners must be running with matching provider identity and routing"⟩

/-- The checks that `prepare_identity_handoff` makes of a pending handoff. -/
def admitSupersede : Except HTTPException Unit :=
  match prov.identityHandoff.filter fun rcpt => rcpt.state = .prepared with
  | some pend =>
    raiseIf (body.supersedesHandoffId ≠ some pend.handoffId ∨ body.operatorRef ≠ pend.intent.operatorRef ∨
        body.operatorFingerprint ≠ pend.intent.operatorFingerprint)
      ⟨409, "Explicitly supersede the existing operator handoff intent"⟩
  | none => raiseIf (body.supersedesHandoffId.isSome) ⟨412, "The expected pending handoff no longer exists"⟩

def requireAvailableEnvironment (providers : ProviderTable) (prov : AiProvider)
    (env detail : String) : Except HTTPException Unit :=
  raiseIf (environmentReserved providers prov env = true) ⟨409, detail⟩

def prepareIdentityHandoff : Except HTTPException World := do
  let (prov, env) ← loadProviderForEnvironmentRepair w.providers body.providerId
  admitSupersede prov body
  let inventory ← attestation.inventory
  requireFresh attestation.now body.observedAt "Native identity attestation expired"
  raiseIf (prov.id ≠ body.expectedProviderUuid ∨ prov.incarnationId ≠ body.expectedIncarnationId ∨
      inventory.revision ≠ body.expectedRevision ∨ env ≠ body.expectedEnvName ∨
      attestation.boundary inventory.revision body.proofs ≠ body.expectedBoundary ∨
      (byEnvironment (fun proof : NativeIdentityProof => proof.binding) body.proofs).map
        (fun proof => proof.binding) ≠ inventory.bindings)
    ⟨412, "Provider identity or consumer boundary changed"⟩
  raiseIf (body.proofs.all fun proof => proof.nativeEnvName.isNone)
    ⟨409, "No native credential owner can attest this handoff"⟩
  body.proofs.forM (admitProof prov body)
  requireAvailableEnvironment w.providers prov body.nativeEnvName
    "Credential environment is reserved by another provider"
  let rev ← attestation.flushed
  let rcpt : HandoffReceipt := ⟨w.next, prov.providerId, prov.id,
    prov.incarnationId, .prepared, body.nativeEnvName, rev, body⟩
  let prov := { prov with identityEnabled := true, identityHandoff := some rcpt }
  return { w with providers := w.providers.put prov, next := w.next + 1 }

def acknowledge (rcpt : HandoffReceipt) (proof : NativeIdentityProof) : Except HTTPException Unit :=
  match rcpt.intent.proofs.reverse.find? fun pre =>
      pre.binding.environmentId = proof.binding.environmentId with
  | none => throw ⟨412, "Native consumer authority changed"⟩
  | some prev => do
    raiseIf (proof.binding ≠ prev.binding ∨ proof.incusInstanceUuid ≠ prev.incusInstanceUuid ∨
        proof.hostedSpecRevision ≠ prev.hostedSpecRevision)
      ⟨412, "Native consumer authority changed"⟩
    if prev.nativeEnvName.isNone then
      raiseIf (proof ≠ prev) ⟨412, "Unbound consumer changed"⟩
    else
      raiseIf (proof.nativeEnvName ≠ some rcpt.nativeEnvName ∨ proof.journalEnvName ≠ some rcpt.nativeEnvName ∨
          proof.configSha256 ≠ prev.configSha256 ∨
          proof.nativeEnvSha256 ≠ prev.nativeEnvSha256 ∨
          proof.journalProviderUuid ≠ some rcpt.providerUuid ∨
          proof.journalIncarnationId ≠ some rcpt.incarnationId ∨
          proof.handoffId ≠ some rcpt.handoffId ∨ proof.journalSha256.all (· = ""))
        ⟨412, "A native owner has not acknowledged the exact handoff"⟩

def completeIdentityHandoff (provId : String) (body : HandoffComplete) : Except HTTPException World := do
  let (prov, _) ← loadProviderForEnvironmentRepair w.providers provId
  match prov.identityHandoff.filter fun rcpt => rcpt.state = .prepared with
  | none => throw ⟨409, "No pending provider identity handoff"⟩
  | some rcpt =>
    let inventory ← attestation.inventory
    requireFresh attestation.now body.observedAt "Native identity attestation expired"
    raiseIf (body.handoffId ≠ rcpt.handoffId ∨ prov.id ≠ rcpt.providerUuid ∨
        prov.incarnationId ≠ rcpt.incarnationId ∨
        inventory.revision ≠ rcpt.preparedRevision ∨
        (byEnvironment (fun proof : NativeIdentityProof => proof.binding) body.proofs).map
          (fun proof => proof.binding) ≠ inventory.bindings)
      ⟨412, "Prepared provider identity or consumers changed"⟩
    body.proofs.forM (acknowledge rcpt)
    requireAvailableEnvironment w.providers prov rcpt.nativeEnvName
      "Credential environment is reserved by another provider"
    let prov := { prov with
      runtimeEnvName := some rcpt.nativeEnvName
      identityHandoff := some { rcpt with state := .completed } }
    return { w with providers := w.providers.put prov }

def restoreProviderEnvironment (body : EnvironmentRestore) : Except HTTPException World := do
  let (prov, env) ← loadProviderForEnvironmentRepair w.providers body.providerId
  raiseIf (prov.handoffPending) ⟨409, "Complete the pending provider identity handoff first"⟩
  let inventory ← attestation.inventory
  raiseIf (inventory.revision ≠ body.expectedRevision ∨ env ≠ body.expectedEnvName)
    ⟨412, "Provider metadata or credential revision changed"⟩
  requireFresh attestation.now body.observedAt "Native ownership attestation expired"
  raiseIf (¬(body.proofs.map fun proof => proof.binding.environmentId).Nodup ∨
      (byEnvironment (fun proof : NativeEnvironmentProof => proof.binding) body.proofs).map
        (fun proof => proof.binding) ≠ inventory.bindings ∨
      attestation.repairBoundary inventory.revision body.proofs ≠ body.expectedBoundary)
    ⟨412, "Native ownership or runtime binding changed"⟩
  let owned := body.proofs.filter fun proof => proof.nativeEnvName.isSome
  raiseIf (owned = [] ∨ owned.any fun proof =>
      proof.nativeEnvName ≠ some body.nativeEnvName || proof.journalSha256.all (· = "") ||
        proof.configSha256.all (· = ""))
    ⟨409, "Native credential owners do not agree on the restoration target"⟩
  raiseIf (body.proofs.any fun proof =>
      proof.nativeEnvName.isNone && !unboundComplete body.providerId proof)
    ⟨409, "An unowned consumer has not completed the current unbound checkpoint"⟩
  requireAvailableEnvironment w.providers prov body.nativeEnvName
    "Native credential environment belongs to another provider"
  let prov := { prov with runtimeEnvName := some body.nativeEnvName }
  return { w with providers := w.providers.put prov }

inductive Op where
  | upsert (circ : Circumstances) (body : AiProviderBody) (replace : Bool)
  | patch (circ : Circumstances) (provId : String) (patch : AiProviderPatch)
  | setApiKey (circ : Circumstances) (provId v : String) (runtimeEnvName : Option String)
  | delete (circ : Circumstances) (provId : String)
  | accept (circ : Circumstances) (body : AiProviderBody) (cred : AcceptCredential)
      (replace : Bool)
  | prepare (attestation : Attestation) (body : HandoffRequest)
  | complete (attestation : Attestation) (provId : String) (body : HandoffComplete)
  | restore (attestation : Attestation) (body : EnvironmentRestore)

variable (catalog : List NativeProvider)

def perform (w : World) : Op → Except HTTPException World
  | .upsert circ body replace => upsertAiProvider catalog circ w body replace
  | .patch circ provId patch => patchAiProvider catalog circ w provId patch
  | .setApiKey circ provId v name => setAiProviderApiKey catalog circ w provId v name
  | .delete circ provId => deleteAiProvider circ w provId
  | .accept circ body cred replace => acceptAiProvider catalog circ w body cred replace
  | .prepare attestation body => prepareIdentityHandoff attestation w body
  | .complete attestation provId body => completeIdentityHandoff attestation w provId body
  | .restore attestation body => restoreProviderEnvironment attestation w body

def step (w : World) (op : Op) : World :=
  match perform catalog w op with
  | .ok after => after
  | .error _ => w

end Clawdi.Providers
