import Mathlib.Data.List.MinMax
import Mathlib.Data.Nat.Notation
import Clawdi.Lib.Outcome
import Clawdi.Lib.Table

namespace Clawdi.Providers
open List Table

structure HTTPException where
  statusCode : ℕ
  detail : String

inductive ConfigurationMode where
  | native
  | custom
  | catalog
  | connection
  deriving DecidableEq

inductive ManagedBy where
  | user
  | clawdi
  deriving DecidableEq

inductive SecretRef where
  | env (name : String)
  | vault (uri : String)
  deriving DecidableEq

inductive AuthType where
  | secretRef
  | apiKey
  | oauthProfile
  | agentProfile
  | none
  deriving DecidableEq

/-- The auth columns `auth_type`, `auth_ref` and `auth_metadata` as one value. -/
inductive Auth where
  | secretRef (ref : SecretRef)
  | envApiKey (name : String) (profile : Option String)
  | vaultApiKey (uri : String) (profile : Option String)
  | managedApiKey (profile : Option String)
  | oauthProfile (prov profile : String)
  | agentProfile (tool profile : String)
  | none
  deriving DecidableEq

namespace Auth

def type : Auth → AuthType
  | secretRef _ => .secretRef
  | envApiKey _ _ | vaultApiKey _ _ | managedApiKey _ => .apiKey
  | oauthProfile _ _ => .oauthProfile
  | agentProfile _ _ => .agentProfile
  | none => .none

def ref : Auth → Option SecretRef
  | secretRef ref => some ref
  | envApiKey name _ => some (.env name)
  | vaultApiKey uri _ => some (.vault uri)
  | _ => Option.none

def envName (auth : Auth) : Option String :=
  match auth.ref with
  | some (.env name) => some name
  | _ => Option.none

def isManagedApiKey : Auth → Bool
  | managedApiKey _ => true
  | _ => false

def isCodex : Auth → Bool
  | agentProfile "codex" _ => true
  | _ => false

def identity : Auth → Auth
  | managedApiKey profile => managedApiKey (some (profile.getD "default"))
  | envApiKey name _ => envApiKey name Option.none
  | vaultApiKey uri _ => vaultApiKey uri Option.none
  | auth => auth

def activeProfile : Auth → Option String
  | managedApiKey profile => some (profile.getD "default")
  | oauthProfile _ profile | agentProfile _ profile => some profile
  | _ => Option.none

def delivered (auth : Auth) : Bool := auth.type = .apiKey || auth.type = .secretRef

lemma ref_eq_env {auth : Auth} {name} : auth.ref = some (.env name) ↔ auth.envName = some name := by
  unfold envName
  cases auth.ref with
  | none => simp
  | some ref => cases ref <;> simp

end Auth

def sameCredentialAuthority (left right : Auth) : Bool :=
  let withDefault : Auth → Auth
    | .envApiKey name profile => .envApiKey name (some (profile.getD "default"))
    | .vaultApiKey uri profile => .vaultApiKey uri (some (profile.getD "default"))
    | .managedApiKey profile => .managedApiKey (some (profile.getD "default"))
    | auth => auth
  withDefault left = withDefault right

structure RepairBinding where
  environmentId : ℕ
  deploymentId : String
  instanceId : String
  generation : ℕ
  pushGeneration : ℕ
  runtime : String
  cliPackageSpec : String
  providerIds : List String
  applyIdentity : String
  deriving DecidableEq

inductive NativeState where
  | running
  | stopped
  deriving DecidableEq

structure NativeEnvironmentProof where
  binding : RepairBinding
  incusInstanceUuid : ℕ
  nativeState : NativeState
  appliedPushGeneration : ℕ
  hostedSpecRevision : String
  journalSha256 : Option String
  configSha256 : Option String
  nativeEnvName : Option String
  deriving DecidableEq

structure NativeIdentityProof extends NativeEnvironmentProof where
  nativeBaseUrl : Option String
  nativeApiMode : Option String
  nativeEnvSha256 : Option String
  journalEnvName : Option String
  journalProviderUuid : Option ℕ
  journalIncarnationId : Option ℕ
  handoffId : Option ℕ
  deriving DecidableEq

/-- `ProviderEnvironmentRepairIntent` -/
structure RepairIntent where
  providerId : String
  expectedRevision : String
  expectedBoundary : String
  expectedEnvName : String
  nativeEnvName : String
  operatorFingerprint : String
  operatorRef : String

structure HandoffRequest extends RepairIntent where
  supersedesHandoffId : Option ℕ
  observedAt : ℕ
  proofs : List NativeIdentityProof
  expectedProviderUuid : ℕ
  expectedIncarnationId : ℕ

inductive HandoffState where
  | prepared
  | completed
  deriving DecidableEq

structure HandoffReceipt where
  handoffId : ℕ
  providerId : String
  providerUuid : ℕ
  incarnationId : ℕ
  state : HandoffState
  nativeEnvName : String
  preparedRevision : String
  intent : HandoffRequest

structure AiProvider where
  id : ℕ
  incarnationId : ℕ
  providerId : String
  type : String
  configurationMode : ConfigurationMode
  nativeProvider : Option String
  nativeVariant : Option String
  label : Option String
  baseUrl : String
  apiMode : Option String
  capabilities : Option String
  models : Option (List String)
  auth : Auth
  managedBy : ManagedBy
  runtimeEnvName : Option String
  archived : Bool
  identityEnabled : Bool
  identityHandoff : Option HandoffReceipt

namespace AiProvider
variable (prov : AiProvider)

def handoffPending : Bool := prov.identityHandoff.any fun rcpt => rcpt.state = .prepared

def nativeCredentialAuthority : Bool :=
  prov.identityHandoff.any fun rcpt =>
    rcpt.state = .completed && rcpt.providerUuid = prov.id && rcpt.incarnationId = prov.incarnationId

def ownsConnection : Bool := prov.configurationMode = .connection || prov.configurationMode = .custom

def activate (incarnation : ℕ) : AiProvider :=
  if prov.archived then
    { prov with incarnationId := incarnation, identityEnabled := true, identityHandoff := none,
                    archived := false }
  else { prov with archived := false }

def claims (name : String) : Bool :=
  prov.runtimeEnvName = some name || prov.auth.ref = some (.env name) ||
    prov.identityHandoff.any fun rcpt => rcpt.nativeEnvName = name

def checked : Bool := prov.managedBy = .user && prov.configurationMode ≠ .native && !prov.archived

end AiProvider

/-- A row of `ai_provider_auth_payloads` of the owner. -/
structure AuthPayload where
  providerId : String
  authProfile : String
  kind : AuthType
  plaintext : String
  credentialRevision : ℕ
  archived : Bool

abbrev ProviderTable := Table AiProvider.providerId
abbrev PayloadTable := Table fun payload : AuthPayload => (payload.providerId, payload.authProfile)

/-- What one owner's lock protects; `next` is the next fresh identifier. -/
structure World where
  providers : ProviderTable
  payloads : PayloadTable
  next : ℕ

def World.empty : World := ⟨Table.empty, Table.empty, 0⟩

section
variable (providers : ProviderTable)

/-- The query of `_validate_runtime_env_name_unique`. -/
def runtimeEnvNameUsed (name exclude : String) : Bool :=
  providers.rows.any fun row => row.providerId ≠ exclude && row.checked && row.claims name

/-- The query of `require_available_environment` and of `restore_provider_environment`. -/
def environmentReserved (prov : AiProvider) (name : String) : Bool :=
  providers.rows.any fun row =>
    row.id ≠ prov.id && !row.archived && row.configurationMode ≠ .native && row.claims name

lemma runtimeEnvNameUsed_eq_false {name exclude} : runtimeEnvNameUsed providers name exclude = false ↔
      ∀ row ∈ providers, row.providerId ≠ exclude → row.checked = true → row.claims name = false := by
  simp [runtimeEnvNameUsed, any_eq_false, mem_rows]

lemma environmentReserved_eq_false {prov name} : environmentReserved providers prov name = false ↔
      ∀ row ∈ providers, row.id ≠ prov.id → row.archived = false →
        row.configurationMode ≠ .native → row.claims name = false := by
  simp [environmentReserved, any_eq_false, mem_rows]

end

section

def v2ManagedProviderId : String := "clawdi"
def v2ManagedProviderIds : List String := ["clawdi", "clawdi-v2", "clawdi-managed-v2"]

def isV2DeploymentManagedProviderId (provId : String) : Bool :=
  let stem := "clawdi-v2-deployment-".toList
  let rest := provId.toList.drop stem.length
  provId.length ≤ 63 && stem.isPrefixOf provId.toList &&
    match rest with
    | [] => false
    | first :: _ => first ≠ '0' && rest.all fun c => '0' ≤ c && c ≤ '9'

def runtimeManagedProviderId (provId : String) : String :=
  if provId ∈ v2ManagedProviderIds || isV2DeploymentManagedProviderId provId then
    v2ManagedProviderId
  else provId

def providerAliases (provId : String) : List String :=
  if provId ∈ v2ManagedProviderIds then v2ManagedProviderIds else [provId]

def aliasPriority (provId cand : String) : ℕ :=
  if cand = v2ManagedProviderId then 0 else if cand = provId then 1 else 2

def findProvider (providers : ProviderTable) (provId : String) (includeArchived : Bool) : Option AiProvider :=
  (providers.rows.filter fun row =>
    decide (row.providerId ∈ providerAliases provId) && (includeArchived || !row.archived)).argmin
      fun row => aliasPriority provId row.providerId

variable {providers : ProviderTable} {provId : String} {includeArchived : Bool} {row : AiProvider}

lemma findProvider_mem (hit : findProvider providers provId includeArchived = some row) :
    row ∈ providers ∧ row.providerId ∈ providerAliases provId ∧ (includeArchived = false → row.archived = false) := by
  have mem := mem_filter.mp (argmin_mem hit)
  obtain ⟨inside, holds⟩ := mem
  rw [Bool.and_eq_true, decide_eq_true_eq] at holds
  refine ⟨inside, holds.1, ?_⟩
  intro visible
  simpa [visible] using holds.2

variable {alt : AiProvider}

lemma findProvider_exact (hit : findProvider providers provId true = some row)
    (normal : provId ∉ v2ManagedProviderIds ∨ provId = v2ManagedProviderId)
    (mem : alt ∈ providers) (same : alt.providerId = provId) : alt = row := by
  obtain ⟨inside, aliased, _⟩ := findProvider_mem hit
  have exact_id : row.providerId = provId := by
    rcases normal with unmanaged | managed
    · rw [providerAliases, if_neg unmanaged, mem_singleton] at aliased
      exact aliased
    · have cand : alt ∈ providers.rows.filter fun row =>
          decide (row.providerId ∈ providerAliases provId) && (true || !row.archived) := by
        rw [mem_filter]
        refine ⟨mem, ?_⟩
        simp [same, providerAliases, managed, v2ManagedProviderIds, v2ManagedProviderId]
      have least := le_of_mem_argmin cand hit
      simp only [aliasPriority, same, managed, if_true] at least
      rw [managed]
      by_contra different
      rw [if_neg different] at least
      split at least <;> omega
  exact eq_of_key mem inside (same.trans exact_id.symm)

lemma findProvider_none (missing : findProvider providers provId true = none)
    (mem : alt ∈ providers) : alt.providerId ∉ providerAliases provId := by
  intro aliased
  rw [findProvider, argmin_eq_none, filter_eq_nil_iff] at missing
  have gone := missing alt mem
  simp [aliased] at gone

end
end Clawdi.Providers
