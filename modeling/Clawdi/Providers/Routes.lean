import Clawdi.Providers.Rows

namespace Clawdi.Providers

structure AiProviderBody where
  providerId : String
  type : String
  configurationMode : Option ConfigurationMode
  nativeProvider : Option String
  nativeVariant : Option String
  label : Option String
  baseUrl : String
  apiMode : Option String
  capabilities : Option String
  models : Option (List String)
  auth : Auth
  managedBy : ManagedBy
  runtimeEnvName : Option String

structure AiProviderPatch where
  credential : Option String := none
  configurationMode : Option (Option ConfigurationMode) := none
  nativeProvider : Option (Option String) := none
  nativeVariant : Option (Option String) := none
  type : Option (Option String) := none
  label : Option (Option String) := none
  baseUrl : Option (Option String) := none
  apiMode : Option (Option String) := none
  auth : Option (Option Auth) := none
  managedBy : Option (Option ManagedBy) := none
  runtimeEnvName : Option (Option String) := none
  capabilities : Option (Option String) := none
  models : Option (Option (List String)) := none

structure NativeProvider where
  id : String
  variant : Option String
  type : String
  baseUrl : String
  apiMode : String
  runtimeEnvName : String

variable (catalog : List NativeProvider) (circ : Circumstances)

def nativeProvider (ident : Option String) (variant : Option String) : Option NativeProvider :=
  let cands := catalog.filter fun e => some e.id = ident
  match variant with
  | none => cands.head?
  | some _ => cands.find? fun e => e.variant = variant

structure Circumstances where
  /-- The field rules of `_validate_provider` that read neither mode, name nor reference. -/
  fieldErrors : List String := []
  hostedConsumer : Bool := false
  publicEndpoint : Bool := true
  runtimeAuthConflict : Bool := false
  corruptOAuth : Bool := false
  deliverable : Bool := true
  migrationRefused : Bool := false
  deviceAuthorizationFails : Bool := false

def isRuntimeEnvName (input : String) : Bool :=
  let upper : Char → Bool := fun c => 'A' ≤ c && c ≤ 'Z'
  match input.toList with
  | [] => false
  | first :: rest =>
    upper first && rest.length ≤ 127 && rest.all fun c => upper c || ('0' ≤ c && c ≤ '9') || c = '_'

def connectionMode (mode : Option ConfigurationMode) : Bool := mode = some .connection || mode = some .custom

def validateProvider (w : Circumstances) (body : AiProviderBody) : List String :=
  let errors := fun (failed : Bool) (text : String) => if failed then [text] else []
  errors (connectionMode body.configurationMode &&
      (body.managedBy ≠ .user || !body.auth.delivered || body.runtimeEnvName.all (· = "")))
    "connection management requires a user API-key connection" ++
  errors (body.configurationMode = some .custom &&
      (body.apiMode.isNone || body.models.any fun models => !models.isEmpty))
    "custom providers require an explicit API format without model metadata" ++
  errors (body.configurationMode ≠ some .native && (body.nativeProvider.isSome || body.nativeVariant.isSome))
    "catalog configuration cannot include native provider identity" ++
  errors (body.configurationMode = some .native &&
      (body.nativeProvider = some "openai-codex" : Bool) ≠ body.auth.isCodex)
    "native Codex credentials require Codex OAuth auth" ++
  errors (body.runtimeEnvName.any fun name => !isRuntimeEnvName name)
    "runtime_env_name must be an uppercase environment variable name" ++
  w.fieldErrors ++
  errors (match body.auth with
      | .agentProfile tool _ => tool ≠ "codex"
      | _ => false)
    "agent_profile auth currently supports codex only" ++
  errors (match body.auth.envName, body.runtimeEnvName with
      | some reference, some name => name ≠ reference
      | _, _ => false)
    "runtime_env_name must match the env auth ref"

variable (providers : ProviderTable) (provId : String) (body : AiProviderBody)

def hydrateNativeProvider (type baseUrl apiMode runtimeEnvName : Option String) : Option AiProviderBody := do
  let routing ← nativeProvider catalog body.nativeProvider body.nativeVariant
  if body.managedBy ≠ .user || body.models.any fun models => !models.isEmpty then none
  if type.any (· ≠ routing.type) || baseUrl.any (· ≠ routing.baseUrl) ||
      apiMode.any (· ≠ routing.apiMode) || runtimeEnvName.any (· ≠ routing.runtimeEnvName) then none
  return { body with type := routing.type, baseUrl := routing.baseUrl,
                     apiMode := some routing.apiMode, runtimeEnvName := some routing.runtimeEnvName,
                     nativeVariant := routing.variant }

def parseUpsert : Except HTTPException AiProviderBody := do
  raiseIf (body.configurationMode = some .connection)
    ⟨422, "connection management requires an existing provider migration"⟩
  raiseIf (body.configurationMode = some .custom ∧ (body.managedBy ≠ .user ∨
      (body.models.any fun models => !models.isEmpty) ∨ body.nativeProvider.isSome ∨
      body.nativeVariant.isSome ∨ body.apiMode.isNone ∨ body.runtimeEnvName.all (· = "")))
    ⟨422, "custom providers contain connection fields only"⟩
  if body.configurationMode = some .native then
    match hydrateNativeProvider catalog body (some body.type) (some body.baseUrl) body.apiMode
        body.runtimeEnvName with
    | some hydrated => return hydrated
    | none => throw ⟨422, "Unknown native provider or variant"⟩
  else return body

/-- The names that `_validate_runtime_env_unique` looks up. -/
def AiProviderBody.namesToCheck : List String :=
  (if body.auth.delivered then (body.runtimeEnvName.filter (· ≠ "")).toList else []) ++
    body.auth.envName.toList

def validateRuntimeEnvUnique (excludeProviderId : String) : Except HTTPException Unit :=
  raiseIf (body.configurationMode ≠ some .native ∧
      ∃ name ∈ body.namesToCheck, runtimeEnvNameUsed providers name excludeProviderId = true)
    ⟨409, "runtime_env_name is already used by another AI Provider"⟩

def rstripSlash (url : String) : List Char := (url.toList.reverse.dropWhile (· = '/')).reverse
def v1ManagedProviderId : String := "clawdi-managed"

def managedProviderApiMode : Option String :=
  if provId = v1ManagedProviderId || provId ∈ v2ManagedProviderIds ||
      isV2DeploymentManagedProviderId provId then
    some "openai_responses"
  else none

def effectiveProviderApiMode (type : String) (apiMode : Option String) : Option String :=
  match apiMode with
  | some mode => some mode
  | none =>
    match type with
    | "openai" => some "openai_responses"
    | "anthropic" => some "anthropic_messages"
    | "openrouter" => some "openai_chat"
    | "gemini" => some "google_generate_content"
    | "mistral" => some "openai_chat"
    | _ => none

/-- `_apply_provider_body` without its auth part; `stored` is the mode of a row that exists. -/
def applyProviderBody (was : Option ConfigurationMode) (prov : AiProvider)
    (body : AiProviderBody) : Except HTTPException AiProvider := do
  raiseIf (prov.handoffPending) ⟨409, "Complete the pending provider identity handoff first"⟩
  raiseIf (connectionMode was ∧ body.configurationMode ≠ was)
    ⟨409, "Connection ownership cannot be replaced through upsert"⟩
  raiseIf (connectionMode was ∧ body.runtimeEnvName ≠ prov.runtimeEnvName)
    ⟨409, "Connection credential environment is immutable"⟩
  raiseIf (connectionMode was ∧ ¬sameCredentialAuthority body.auth prov.auth)
    ⟨409, "Connection credential authority is immutable"⟩
  raiseIf (body.configurationMode = some .custom ∧ was.any (· ≠ .custom))
    ⟨409, "Transfer existing model ownership separately"⟩
  return { prov with
    type := body.type
    configurationMode := body.configurationMode.getD .catalog
    nativeProvider := body.nativeProvider
    nativeVariant := body.nativeVariant
    label := body.label
    baseUrl := body.baseUrl
    apiMode := (managedProviderApiMode body.providerId).or body.apiMode
    capabilities := body.capabilities
    models := if connectionMode body.configurationMode then prov.models else body.models
    managedBy := body.managedBy
    runtimeEnvName := body.runtimeEnvName }

structure AuthCredentialWrite where
  profile : String
  kind : AuthType
  plaintext : String

section
variable (payloads : PayloadTable) (provId : String) (payload : AuthPayload) (prov : AiProvider) (auth : Auth)

def archivePayload : AuthPayload :=
  if payload.providerId = provId then { payload with archived := true } else payload

lemma archivePayload_key :
    ((archivePayload provId payload).providerId, (archivePayload provId payload).authProfile) =
      (payload.providerId, payload.authProfile) := by
  unfold archivePayload
  split <;> rfl

def archivePayloads : PayloadTable := payloads.update (archivePayload provId) (archivePayload_key provId)

def writeCredential (rev : ℕ) (cred : AuthCredentialWrite) : PayloadTable :=
  payloads.put ⟨provId, cred.profile, cred.kind, cred.plaintext, rev, false⟩

def nativeIdentity : Option String :=
  if prov.configurationMode = .native &&
      (prov.nativeProvider = some "openai" || prov.nativeProvider = some "openai-codex") then
    if auth.isCodex then some "openai-codex"
    else if auth.delivered then some "openai"
    else prov.nativeProvider
  else prov.nativeProvider

/-- `transition_ai_provider_auth`: the row it leaves, and the owner's payloads. -/
def transitionAiProviderAuth (circ : Circumstances) (w : World) (prov : AiProvider)
    (auth : Auth) (cred : Option AuthCredentialWrite) (archiveProvider : Bool) :
    Except HTTPException (AiProvider × World) := do
  raiseIf (prov.nativeCredentialAuthority ∧ cred.isSome ∧ archiveProvider = false)
    ⟨409, "This provider uses native credentials; rotate them in the native runtime"⟩
  raiseIf (prov.handoffPending) ⟨409, "Complete the pending provider identity handoff first"⟩
  raiseIf (prov.ownsConnection ∧ archiveProvider = false ∧ ¬auth.isManagedApiKey)
    ⟨409, "Connection providers require a managed API key"⟩
  raiseIf (auth.type ≠ prov.auth.type ∧ circ.runtimeAuthConflict)
    ⟨409, "AI Provider auth conflicts with a bound runtime"⟩
  let archiveActive := archiveProvider || cred.isSome || prov.auth.identity ≠ auth.identity
  raiseIf (archiveActive ∧ circ.corruptOAuth) ⟨409, "OAuth credential payload is corrupt"⟩
  let kept := if archiveActive then archivePayloads w.payloads prov.providerId else w.payloads
  let payloads := match cred with
    | none => kept
    | some cred => writeCredential kept prov.providerId w.next cred
  let row := { prov with
    auth := auth
    nativeProvider := nativeIdentity prov auth
    archived := prov.archived || archiveProvider }
  return (row, { w with payloads := payloads, next := w.next + 1 })

end

def AiProvider.blank (id incarnation : ℕ) (body : AiProviderBody) : AiProvider where
  id := id
  incarnationId := incarnation
  providerId := body.providerId
  type := body.type
  configurationMode := .catalog
  nativeProvider := none
  nativeVariant := none
  label := none
  baseUrl := body.baseUrl
  apiMode := none
  capabilities := none
  models := none
  auth := body.auth
  managedBy := .user
  runtimeEnvName := none
  archived := false
  identityEnabled := true
  identityHandoff := none

def canonicalBody : AiProviderBody :=
  if body.providerId ∈ v2ManagedProviderIds then { body with providerId := v2ManagedProviderId } else body

def admitBody (w : World) (body : AiProviderBody) : Except HTTPException AiProviderBody := do
  let body ← parseUpsert catalog body
  raiseIf (isV2DeploymentManagedProviderId body.providerId) ⟨404, "AI Provider not found"⟩
  let body := canonicalBody body
  raiseIf (validateProvider circ body ≠ []) ⟨422, "invalid provider"⟩
  raiseIf (circ.hostedConsumer ∧ ¬circ.publicEndpoint)
    ⟨422, "Hosted AI Provider base_url must be a public HTTPS URL"⟩
  validateRuntimeEnvUnique w.providers body body.providerId
  return body

def upsertAiProvider (w : World) (body : AiProviderBody) (replace : Bool) : Except HTTPException World := do
  let body ← admitBody catalog circ w body
  match findProvider w.providers body.providerId true with
  | none =>
    let prov ← applyProviderBody none (AiProvider.blank w.next (w.next + 1) body) body
    raiseIf (circ.runtimeAuthConflict) ⟨409, "AI Provider auth conflicts with a bound runtime"⟩
    return { w with providers := w.providers.put prov, next := w.next + 2 }
  | some old =>
    raiseIf (old.archived = false ∧ replace = false) ⟨409, "AI Provider already exists"⟩
    let prov ← applyProviderBody (some old.configurationMode) old body
    let (prov, w) ← transitionAiProviderAuth circ w prov body.auth none false
    return { w with providers := w.providers.put (prov.activate w.next)
                    next := w.next + 1 }

def getProviderForUpdate : Except HTTPException AiProvider :=
  match findProvider providers provId false with
  | none => throw ⟨404, "AI Provider not found"⟩
  | some prov =>
    if isV2DeploymentManagedProviderId prov.providerId then throw ⟨404, "AI Provider not found"⟩
    else return prov

end Clawdi.Providers
