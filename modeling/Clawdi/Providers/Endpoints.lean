import Clawdi.Providers.Routes

namespace Clawdi.Providers
variable (catalog : List NativeProvider) (circ : Circumstances) (prov : AiProvider)

def toResponse : AiProviderBody where
  providerId := runtimeManagedProviderId prov.providerId
  type := prov.type
  configurationMode := some prov.configurationMode
  nativeProvider := prov.nativeProvider
  nativeVariant := prov.nativeVariant
  label := prov.label
  baseUrl := prov.baseUrl
  apiMode := (managedProviderApiMode prov.providerId).or prov.apiMode
  capabilities := prov.capabilities
  models := if prov.configurationMode = .custom then none else prov.models
  auth := prov.auth
  managedBy := prov.managedBy
  runtimeEnvName := prov.runtimeEnvName

namespace AiProviderPatch
variable (patch : AiProviderPatch)

def onlyMode : Bool :=
  patch.configurationMode.isSome && patch.nativeProvider.isNone && patch.nativeVariant.isNone &&
    patch.type.isNone && patch.label.isNone && patch.baseUrl.isNone && patch.apiMode.isNone &&
    patch.auth.isNone && patch.managedBy.isNone && patch.runtimeEnvName.isNone &&
    patch.capabilities.isNone && patch.models.isNone

def nullErrors : List String :=
  let error := fun (isNull : Bool) (field : String) => if isNull then [field ++ " cannot be null"] else []
  error (patch.type = some none) "type" ++ error (patch.baseUrl = some none) "base_url" ++
    error (patch.auth = some none) "auth" ++ error (patch.managedBy = some none) "managed_by" ++
    error (patch.configurationMode = some none) "configuration_mode"

def merge (merged : AiProviderBody) : AiProviderBody where
  providerId := merged.providerId
  type := (patch.type.bind id).getD merged.type
  configurationMode := (patch.configurationMode.bind id).or merged.configurationMode
  nativeProvider := patch.nativeProvider.getD merged.nativeProvider
  nativeVariant := patch.nativeVariant.getD merged.nativeVariant
  label := patch.label.getD merged.label
  baseUrl := (patch.baseUrl.bind id).getD merged.baseUrl
  apiMode := patch.apiMode.getD merged.apiMode
  capabilities := patch.capabilities.getD merged.capabilities
  models := patch.models.getD merged.models
  auth := (patch.auth.bind id).getD merged.auth
  managedBy := (patch.managedBy.bind id).getD merged.managedBy
  runtimeEnvName := patch.runtimeEnvName.getD merged.runtimeEnvName

def rehydrate (catalog : List NativeProvider) (prov : AiProvider) (merged : AiProviderBody) : Option AiProviderBody :=
  let identitySet := patch.nativeProvider.isSome
  let renamed := identitySet && patch.nativeProvider ≠ some prov.nativeProvider
  let body := if renamed && patch.nativeVariant.isNone then { merged with nativeVariant := none } else merged
  let moved := identitySet || patch.nativeVariant.isSome
  let given := fun {α : Type} (isSet : Bool) (v : Option α) => if moved && !isSet then none else v
  hydrateNativeProvider catalog body (given patch.type.isSome (some merged.type))
    (given patch.baseUrl.isSome (some merged.baseUrl)) (given patch.apiMode.isSome merged.apiMode)
    (given patch.runtimeEnvName.isSome merged.runtimeEnvName)

end AiProviderPatch

/-- The part of `patch_ai_provider` that hands the models over to the agent. -/
def transferToCustom (patch : AiProviderPatch) : Except HTTPException (AiProvider × AiProviderBody) := do
  let merged := toResponse prov
  if patch.configurationMode = some (some .custom) ∧ prov.configurationMode ≠ .custom then
    raiseIf ((prov.configurationMode ≠ .catalog ∧ prov.configurationMode ≠ .connection) ∨ patch.onlyMode = false)
      ⟨409, "Transfer model ownership separately from connection changes"⟩
    raiseIf (circ.deliverable = false) ⟨409, "Custom providers require a deliverable API key"⟩
    raiseIf (circ.migrationRefused) ⟨409, "Connection ownership migration refused"⟩
    return ({ prov with configurationMode := .custom },
      { merged with models := none, nativeProvider := none, nativeVariant := none,
                    apiMode := effectiveProviderApiMode prov.type prov.apiMode })
  else return (prov, merged)

/-- The part of `patch_ai_provider` that guards agent-owned fields. -/
def guardOwnership (patch : AiProviderPatch) : Except HTTPException Unit := do
  raiseIf (prov.ownsConnection ∧
      ((patch.configurationMode.isSome ∧ patch.configurationMode ≠ some (some prov.configurationMode)) ∨
        patch.models.isSome ∨ (patch.auth.isSome ∧ patch.auth ≠ some (some prov.auth)) ∨
        (patch.runtimeEnvName.isSome ∧ patch.runtimeEnvName ≠ some prov.runtimeEnvName)))
    ⟨409, "Agent-owned models and credential environment cannot be replaced."⟩
  let connects := prov.ownsConnection = false ∧ patch.configurationMode = some (some .connection)
  raiseIf (connects ∧ (prov.configurationMode ≠ .catalog ∨ patch.onlyMode = false))
    ⟨409, "Transfer model ownership separately from connection changes."⟩
  raiseIf (connects ∧ circ.deliverable = false)
    ⟨409, "Model ownership transfer requires a deliverable API key"⟩
  raiseIf (connects ∧ circ.migrationRefused) ⟨409, "Connection ownership migration refused"⟩

def mergePatch (merged : AiProviderBody) (patch : AiProviderPatch) : Except HTTPException AiProviderBody := do
  raiseIf (patch.nullErrors ≠ []) ⟨422, "patch nulls"⟩
  let body := patch.merge merged
  if body.configurationMode = some .native then
    match patch.rehydrate catalog prov body with
    | some hydrated => return hydrated
    | none => throw ⟨422, "Invalid native provider configuration"⟩
  else return body

variable (w : World) (body : AiProviderBody) (provId : String) (auth : Auth) (v : String)
variable (runtimeEnvName : Option String)

def apiKeyWrite : AuthCredentialWrite where
  profile := match auth with
    | .managedApiKey profile => profile.getD "default"
    | .envApiKey _ profile | .vaultApiKey _ profile => profile.getD "default"
    | .oauthProfile _ profile | .agentProfile _ profile => profile
    | _ => "default"
  kind := .apiKey
  plaintext := v

def patchAiProvider (patch : AiProviderPatch) : Except HTTPException World := do
  let was ← getProviderForUpdate w.providers provId
  raiseIf (patch.credential.isSome ∧ was.ownsConnection = false)
    ⟨409, "Inline key replacement requires an existing connection"⟩
  let (prov, merged) ← transferToCustom circ was patch
  guardOwnership circ prov patch
  let body ← mergePatch catalog prov merged patch
  raiseIf (validateProvider circ body ≠ []) ⟨422, "invalid provider"⟩
  raiseIf (circ.hostedConsumer ∧ ¬circ.publicEndpoint)
    ⟨422, "Hosted AI Provider base_url must be a public HTTPS URL"⟩
  validateRuntimeEnvUnique w.providers body prov.providerId
  let prov ← applyProviderBody (some prov.configurationMode) prov body
  if patch.auth.isSome ∨ patch.credential.isSome then
    let cred := patch.credential.map (apiKeyWrite body.auth)
    let (prov, w) ← transitionAiProviderAuth circ w prov body.auth cred false
    return { w with providers := w.providers.put prov }
  else return { w with providers := w.providers.put prov }

def deleteAiProvider : Except HTTPException World := do
  let prov ← getProviderForUpdate w.providers provId
  raiseIf (circ.hostedConsumer)
    ⟨409, "Remove this provider through Hosted so affected agents are set to Unset first."⟩
  let (prov, w) ← transitionAiProviderAuth circ w prov prov.auth none true
  return { w with providers := w.providers.put prov }

def admitKeyEnvName (providers : ProviderTable) (prov : AiProvider)
    (runtimeEnvName : Option String) : Except HTTPException Unit := do
  raiseIf (runtimeEnvName.any fun name => !isRuntimeEnvName name) ⟨422, "invalid runtime_env_name"⟩
  raiseIf (prov.ownsConnection ∧ runtimeEnvName.isSome ∧ runtimeEnvName ≠ prov.runtimeEnvName)
    ⟨409, "Connection credential environment is immutable"⟩
  if prov.configurationMode = .native then
    match nativeProvider catalog prov.nativeProvider prov.nativeVariant with
    | none => throw ⟨409, "Stored native provider identity is invalid"⟩
    | some routing =>
      raiseIf (runtimeEnvName.any (· ≠ routing.runtimeEnvName))
        ⟨422, "Native credential environment is derived from its provider"⟩
  else
    raiseIf (∃ name ∈ runtimeEnvName.or prov.runtimeEnvName,
        runtimeEnvNameUsed providers name prov.providerId = true)
      ⟨409, "runtime_env_name is already used by another AI Provider"⟩

def setAiProviderApiKey : Except HTTPException World := do
  let prov ← getProviderForUpdate w.providers provId
  admitKeyEnvName catalog w.providers prov runtimeEnvName
  let (prov, w) ← transitionAiProviderAuth circ w prov
    (.managedApiKey (some "default")) (some ⟨"default", .apiKey, v⟩) false
  let prov := { prov with runtimeEnvName := runtimeEnvName.or prov.runtimeEnvName }
  return { w with providers := w.providers.put prov }

inductive AcceptCredential where
  | apiKey (v : String)
  | oauth (prov : String)

def validateAcceptContract : AcceptCredential → Except HTTPException Unit
  | .apiKey _ => raiseIf (body.auth.isManagedApiKey = false)
      ⟨422, "API-key accept requires managed api_key provider auth"⟩
  | .oauth prov => do
    raiseIf (prov ≠ "codex") ⟨422, "AI Provider OAuth currently supports Codex only"⟩
    raiseIf (body.auth ≠ .agentProfile prov "default")
      ⟨422, "OAuth accept requires the default Codex agent profile"⟩

def usable (payloads : PayloadTable) (prov : AiProvider) : Bool :=
  match prov.auth.activeProfile with
  | some profile => payloads.rows.any fun payload =>
      payload.providerId = prov.providerId && payload.authProfile = profile &&
        payload.kind = prov.auth.type && !payload.archived
  | none => true

def acceptCanResume : AcceptCredential → Bool
  | .apiKey _ => prov.auth.isManagedApiKey
  | .oauth tool => prov.auth = .agentProfile tool "default"

def validateCodexOAuthProviderShape : Except HTTPException Unit := do
  raiseIf (prov.ownsConnection) ⟨409, "Connection providers require API-key authentication"⟩
  raiseIf (prov.type ≠ "openai" ∨
      effectiveProviderApiMode prov.type prov.apiMode ≠ some "openai_responses" ∨
      rstripSlash prov.baseUrl ≠ rstripSlash "https://api.openai.com/v1")
    ⟨422, "ChatGPT sign-in requires the canonical OpenAI Responses provider"⟩

def acceptCredential (prov : AiProvider) (auth : Auth) : AcceptCredential → Except HTTPException World
  | .apiKey v => do
    let (prov, w) ← transitionAiProviderAuth circ w prov auth (some (apiKeyWrite auth v)) false
    return { w with providers := w.providers.put prov }
  | .oauth _ => do
    validateCodexOAuthProviderShape prov
    -- the auth columns change when the authorization is completed, not here
    raiseIf (circ.deviceAuthorizationFails) ⟨502, "device authorization failed"⟩
    return { w with providers := w.providers.put prov }

def acceptAiProvider (cred : AcceptCredential) (replace : Bool) : Except HTTPException World := do
  validateAcceptContract body cred
  let body ← admitBody catalog circ w body
  match findProvider w.providers body.providerId true with
  | none =>
    let prov ← applyProviderBody none (AiProvider.blank w.next (w.next + 1) body) body
    raiseIf (circ.runtimeAuthConflict) ⟨409, "AI Provider auth conflicts with a bound runtime"⟩
    acceptCredential circ { w with next := w.next + 2 } prov body.auth cred
  | some old =>
    raiseIf (old.archived = false ∧ old.ownsConnection)
      ⟨409, "Edit an existing custom connection with PATCH"⟩
    raiseIf (old.archived = false ∧ replace = false ∧ ¬(usable w.payloads old = false ∧ acceptCanResume old cred))
      ⟨409, "AI Provider already exists"⟩
    let prov ← applyProviderBody (some old.configurationMode) old body
    raiseIf (circ.runtimeAuthConflict ∧ body.auth.type ≠ old.auth.type)
      ⟨409, "AI Provider auth conflicts with a bound runtime"⟩
    acceptCredential circ { w with next := w.next + 1 } (prov.activate w.next) body.auth cred

end Clawdi.Providers
