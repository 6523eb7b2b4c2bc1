import Clawdi.Lib.Program
import Mathlib.Data.Nat.Notation

namespace Clawdi.PlatformMutations

inductive OwnerKind where
  | clerk
  | partnerTenant
deriving DecidableEq

structure PlatformOwner where
  kind : OwnerKind
  ref : String
deriving DecidableEq

structure PlatformAgentCreate where
  agentId : ℕ
  machineId : String
  machineName : String
  defaultName : Option String
  agentType : String
  agentVersion : Option String
  osName : String
deriving DecidableEq

/-- The fields from `cli_package_spec` to `tools` are `settings`, each as its JSON text. -/
structure PlatformRuntimeStateUpsert where
  deploymentId : String
  instanceId : String
  generation : ℕ
  applyGeneration : Option (Option ℕ)
  settings : List (String × String)
  runtime : String
  skills : List String
  enabledSkills : List String
  pluginBundle : Option String
  secretValues : List (String × String)
deriving DecidableEq

structure PlatformApiKeyCreate where
  label : String
  environmentId : ℕ
  scopes : List String
deriving DecidableEq

inductive Mutation where
  | createAgent (body : PlatformAgentCreate)
  | deleteAgent (aid : ℕ)
  | upsertRuntimeState (aid : ℕ) (body : PlatformRuntimeStateUpsert)
  | deleteRuntimeState (aid : ℕ)
  | mintApiKey (body : PlatformApiKeyCreate)
  | revokeApiKey (keyId : ℕ)
deriving DecidableEq

inductive Operation where
  | agentsCreate
  | agentsDelete
  | runtimeStateUpsert
  | runtimeStateDelete
  | keysMint
  | keysRevoke
deriving DecidableEq

def Mutation.operation : Mutation → Operation
  | .createAgent _ => .agentsCreate
  | .deleteAgent _ => .agentsDelete
  | .upsertRuntimeState _ _ => .runtimeStateUpsert
  | .deleteRuntimeState _ => .runtimeStateDelete
  | .mintApiKey _ => .keysMint
  | .revokeApiKey _ => .keysRevoke

def Mutation.resourceId : Mutation → Option ℕ
  | .createAgent body => some body.agentId
  | .deleteAgent aid | .upsertRuntimeState aid _ | .deleteRuntimeState aid => some aid
  | .mintApiKey _ => none
  | .revokeApiKey keyId => some keyId

/-- The body of a route and the resource that its path names, which is all that its hash takes in:
the two deletions of an agent's things have one payload. -/
inductive Payload where
  | createAgent (body : PlatformAgentCreate)
  | agent (aid : ℕ)
  | runtimeState (aid : ℕ) (body : PlatformRuntimeStateUpsert)
  | mintApiKey (body : PlatformApiKeyCreate)
  | key (keyId : ℕ)
deriving DecidableEq

def Mutation.payload : Mutation → Payload
  | .createAgent body => .createAgent body
  | .deleteAgent aid | .deleteRuntimeState aid => .agent aid
  | .upsertRuntimeState aid body => .runtimeState aid body
  | .mintApiKey body => .mintApiKey body
  | .revokeApiKey keyId => .key keyId

structure MutationRequest where
  idempotencyKey : String
  owner : PlatformOwner
  mutation : Mutation

abbrev Slot := Operation × String

variable (req : MutationRequest)

def MutationRequest.slot : Slot := (req.mutation.operation, req.idempotencyKey)
def MutationRequest.payload : PlatformOwner × Payload := (req.owner, req.mutation.payload)

structure ApiKey where
  id : ℕ
  label : String
  keyPrefix : String
  createdAt : ℕ
  revokedAt : Option ℕ
  scopes : List String
  environmentId : Option ℕ
deriving DecidableEq

inductive ResponseBody where
  | environmentCreated (id : ℕ)
  | runtimeState (envId : ℕ) (deploymentId instanceId : String) (gen : ℕ)
    (applyGeneration : Option ℕ)
  | apiKeyCreated (key : ApiKey) (rawKey : String)
  | apiKeyRevoked
  | empty
deriving DecidableEq

structure PlatformReplay where
  statusCode : ℕ
  body : ResponseBody

structure Response where
  statusCode : ℕ
  content : Option ResponseBody
deriving DecidableEq

def replayResponse (replay : PlatformReplay) : Response :=
  if replay.statusCode = 204 then ⟨204, none⟩ else ⟨replay.statusCode, some replay.body⟩

inductive Detail where
  | text (msg : String)
  | coded (code : String) (cur : Option ℕ)
deriving DecidableEq

inductive HttpError where
  | http (status : ℕ) (detail : Detail)
  | internal
deriving DecidableEq

def idempotencyConflict : HttpError := .http 409 (.text "Idempotency-Key was already used with a different request")

structure PlatformMutationIdempotency where
  slot : Slot
  requestHash : ℕ
  ownerUserId : Option ℕ
  resourceId : Option ℕ
  response : PlatformReplay
  expiresAt : ℕ

def PLATFORM_IDEMPOTENCY_RETENTION : ℕ := 7 * 24 * 3600

structure Audit where
  operation : Operation
  idempotencyKey : String
  owner : PlatformOwner
  ownerUserId : Option ℕ
  resourceId : Option ℕ
  result : String

structure HostedRuntimeState where
  deploymentId : String
  instanceId : String
  generation : ℕ
  applyGeneration : Option ℕ
  settings : List (String × String)
  enabledSkills : List String

structure AgentEnvironment where
  id : ℕ
  archived : Bool
  defaultName : Option String
  defaultProjectId : Option ℕ
  registrationKey : Option String
  pluginBundleRevision : Option String

inductive OwnerLookup where
  | user (id : ℕ)
  | missing
  /-- `PrincipalIdentityConflictError` or `PrincipalTerminatedError`. -/
  | terminated
  | unconfigured

/-- A statement on the other tables, or a service that reads them, as what the request asks. -/
inductive Question where
  | findOwner (owner : PlatformOwner)
  | authorityActive (user : ℕ)
  | lockAiProviderOwner (user : ℕ)
  | nextSortOrder (user : ℕ)
  | nextDefaultName (user : ℕ) (agentType : String)
  | agentOf (aid user : ℕ)
  | agentExists (aid : ℕ)
  | freshId
  | projectProvable (aid : ℕ)
  | writeFence (aid user : ℕ) (deploymentId : String)
  | workspaceSkillConflict (aid : ℕ) (skillKeys : List String)
  | runtimeState (aid user : ℕ)
  | secretRows (aid : ℕ)
  | lockSkillReservations (proj : Option ℕ) (skillIds : List String)
  | oauthClaimConflict (user aid : ℕ) (runtime : String)
  | pluginBundleRefusal (aid : ℕ) (bundle runtime : String)
  | keyOf (keyId user : ℕ)
  | keyExists (keyId : ℕ)
  | generatedKey
  | now

abbrev Question.Answer : Question → Type
  | .findOwner _ => OwnerLookup
  | .authorityActive _ | .agentExists _ | .projectProvable _ | .keyExists _ => Bool
  | .lockAiProviderOwner _ | .lockSkillReservations _ _ => Unit
  | .nextSortOrder _ | .freshId | .now => ℕ
  | .nextDefaultName _ _ => String
  | .agentOf _ _ => Option AgentEnvironment
  | .writeFence _ _ _ => Option (String × String)
  | .workspaceSkillConflict _ _ | .pluginBundleRefusal _ _ _ => Option HttpError
  | .runtimeState _ _ => Option HostedRuntimeState
  | .secretRows _ => List (String × String)
  | .oauthClaimConflict _ _ _ => Option String
  | .keyOf _ _ => Option ApiKey
  | .generatedKey => ApiKey × String

inductive Change where
  | createProject (proj user : ℕ) (name : String)
  | createAgent (aid user : ℕ) (body : PlatformAgentCreate) (defaultName : Option String) (proj sortOrder : ℕ)
  | defaultProfile (aid : ℕ)
  | projectOrigin (proj aid : ℕ)
  | primaryBinding (aid : ℕ)
  | refreshAgent (aid : ℕ) (body : PlatformAgentCreate) (defaultName : Option String)
  | healProject (aid proj : ℕ) (name : String)
  | reactivateAgent (aid : ℕ)
  | archiveAgent (aid at_ : ℕ)
  | notifySubscriptions (user : ℕ)
  | manifestChanged (aid : ℕ)
  | reconcileOauthClaims (aid : ℕ) (runtime : String)
  | releaseOauthClaims (aid : ℕ)
  | installPlugins (aid : ℕ) (bundle : String)
  | assignRuntimeState (aid : ℕ) (body : PlatformRuntimeStateUpsert)
    (applyGeneration : Option ℕ)
  | syncSecretValues (aid : ℕ) (vs : List (String × String))
  | deleteRuntimeState (aid : ℕ)
  | createApiKey (key : ApiKey) (user : ℕ)
  | revokeApiKey (keyId at_ : ℕ)

inductive Statement where
  | ask (question : Question)
  | write (change : Change)
  | addAudit (audit : Audit)
  | lockKey (slot : Slot)
  | findRow (slot : Slot)
  | deleteRow (slot : Slot)
  | addRow (row : PlatformMutationIdempotency)
  | flush
  | commit
  | rollback

/-- A write and a flush say whether the constraints hold, and `findRow` also reads the clock. -/
abbrev Statement.Result : Statement → Type
  | .ask question => question.Answer
  | .write _ | .flush => Bool
  | .findRow _ => Option PlatformMutationIdempotency × ℕ
  | .addAudit _ | .lockKey _ | .deleteRow _ | .addRow _ | .commit | .rollback => Unit

abbrev Handler := ExceptT HttpError (Program Statement Statement.Result)
def perform (stmt : Statement) : Handler stmt.Result := Program.operation stmt
def ask (question : Question) : Handler question.Answer := perform (.ask question)

variable (req : MutationRequest) (change : Change) (user : Option ℕ)

def write : Handler Unit := do
  let kept : Bool ← perform (.write change)
  if kept = false then throw .internal

def writeIf (condition : Prop) [Decidable condition] (change : Change) : Handler Unit :=
  if condition then write change else return ()

def flush : Handler Unit := do
  let kept : Bool ← perform .flush
  if kept = false then throw .internal

def commitSession : Handler Unit := do
  flush
  perform .commit

def recordPlatformAudit (resourceId : Option ℕ) (res : String) : Handler Unit :=
  perform (.addAudit ⟨req.mutation.operation, req.idempotencyKey, req.owner, user, resourceId, res⟩)

def reject {α : Type} (error : HttpError) (res : String) : Handler α := do
  recordPlatformAudit req user req.mutation.resourceId res
  commitSession
  throw error

def resolveOwner : Handler ℕ := do
  match ← ask (.findOwner req.owner) with
  | .terminated => reject req none (.http 403 (.text "Owner has been terminated")) "owner_terminated"
  | .unconfigured =>
    reject req none (.http 503 (.text "Clerk owner issuer is not configured"))
      "owner_issuer_unconfigured"
  | .missing => reject req none (.http 404 (.text "Owner not found")) "owner_not_found"
  | .user user =>
    let active : Bool ← ask (.authorityActive user)
    if active then return user
    else
      reject req (some user) (.http 403 (.text "Owner has been terminated"))
        "owner_terminated"

def lockPlatformIdempotency (slot : Slot) : Handler (Option PlatformMutationIdempotency) := do
  perform (.lockKey slot)
  match ← perform (.findRow slot) with
  | (none, _) => return none
  | (some row, now) =>
    if row.expiresAt ≤ now then
      perform (.deleteRow slot)
      return none
    else return some row

section
variable (reqHash : PlatformOwner × Payload → ℕ) (req : MutationRequest)

def beginMutation (user : ℕ) : Handler (Option PlatformReplay) := do
  match ← lockPlatformIdempotency req.slot with
  | none => return none
  | some old =>
    if old.requestHash ≠ reqHash req.payload ∨ old.ownerUserId ≠ some user then
      reject req (some user) idempotencyConflict "idempotency_conflict"
    else return some old.response

def completeMutation (user : ℕ) (resourceId : Option ℕ) (response : PlatformReplay) : Handler Unit := do
  recordPlatformAudit req (some user) resourceId "success"
  let now : ℕ ← ask .now
  perform (.addRow
    { slot := req.slot
      requestHash := reqHash req.payload
      ownerUserId := some user
      resourceId
      response
      expiresAt := now + PLATFORM_IDEMPOTENCY_RETENTION })
  commitSession

end

def loadOwnedAgent (user aid : ℕ) : Handler AgentEnvironment := do
  match ← ask (.agentOf aid user) with
  | some agent => return agent
  | none =>
    let known : Bool ← ask (.agentExists aid)
    if known then
      reject req (some user) (.http 403 (.text "Agent is not owned by requested owner"))
        "owner_mismatch"
    else reject req (some user) (.http 404 (.text "Agent not found")) "resource_not_found"

def loadOwnedKey (user keyId : ℕ) : Handler ApiKey := do
  match ← ask (.keyOf keyId user) with
  | some key => return key
  | none =>
    let known : Bool ← ask (.keyExists keyId)
    if known then
      reject req (some user) (.http 403 (.text "API key is not owned by requested owner"))
        "owner_mismatch"
    else reject req (some user) (.http 404 (.text "API key not found")) "resource_not_found"

end Clawdi.PlatformMutations
