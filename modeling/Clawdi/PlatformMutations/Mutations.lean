import Clawdi.PlatformMutations.Statements

namespace Clawdi.PlatformMutations
section

def strip (text : String) : String := text.trimAscii.toString

variable (user aid sortOrder : ℕ) (body : PlatformAgentCreate)

/-- `text or default` -/
def orElse (text default : String) : String := if text = "" then default else text

def AGENT_TYPE_LABELS : List (String × String) :=
  [("claude_code", "Claude Code"), ("codex", "Codex"), ("openclaw", "OpenClaw"), ("hermes", "Hermes"), ("pi", "Pi"),
    ("opencode", "OpenCode"), ("dsh", "DeepSeek Harness"), ("claude-code", "Claude Code")]

def agentTypeDefaultLabel (agentType : String) : String :=
  (AGENT_TYPE_LABELS.lookup agentType).getD (orElse (strip agentType) "Agent")

def agentProjectLabel : String := orElse (strip body.machineName) (agentTypeDefaultLabel body.agentType)

def projectName (defaultName : Option String) : String :=
  let name := orElse (defaultName.getD "") (agentProjectLabel body)
  s!"{name} ({body.agentType})"

def refreshAgentEnvironment (agent : AgentEnvironment) (body : PlatformAgentCreate) : Handler Unit := do
  let defaultName := ((body.defaultName.map strip).filter (· ≠ "")).or agent.defaultName
  write (.refreshAgent agent.id body defaultName)
  if agent.defaultProjectId = none then
    let project : ℕ ← ask .freshId
    write (.healProject agent.id project (projectName body defaultName))
    write (.primaryBinding agent.id)
    write (.notifySubscriptions user)
  write (.defaultProfile agent.id)

def reactivateAgentAndProject : Handler Unit := do
  let provable : Bool ← ask (.projectProvable aid)
  if provable then
    write (.reactivateAgent aid)
    write (.notifySubscriptions user)
    write (.manifestChanged aid)
  else throw .internal

/-- The checks of `archive_agent_and_project`. -/
def proveProject : Handler Unit := do
  let provable : Bool ← ask (.projectProvable aid)
  if provable = false then throw (.http 409 (.coded "agent_project_ownership_unproven" none))

def assertUserAuthorityActive : Handler Unit := do
  let active : Bool ← ask (.authorityActive user)
  if active = false then throw .internal

/-- The environment that was registered, and whether it is new; `none` for an
`AgentEnvironmentIdConflict`. -/
abbrev Registration := Option (ℕ × Bool)

def createAgentRows (name : Option String) : Handler Bool := do
  let project : ℕ ← ask .freshId
  let first : Bool ← perform (.write (.createProject project user (projectName body name)))
  if first = false then return false
  let snd : Bool ← perform (.write (.createAgent body.agentId user body name project sortOrder))
  if snd = false then return false
  let third : Bool ← perform (.write (.defaultProfile body.agentId))
  if third = false then return false
  let fourth : Bool ← perform (.write (.projectOrigin project body.agentId))
  if fourth = false then return false
  let fifth : Bool ← perform (.write (.primaryBinding body.agentId))
  if fifth = false then return false
  let sixth : Bool ← perform (.write (.notifySubscriptions user))
  if sixth = false then return false
  perform .flush

def registerAgentEnvironment : Handler Registration := do
  assertUserAuthorityActive user
  match ← ask (.agentOf body.agentId user) with
  | some old =>
    if old.archived then reactivateAgentAndProject user old.id
    refreshAgentEnvironment user old body
    flush
    return some (old.id, false)
  | none =>
    let owned : Bool ← ask (.agentExists body.agentId)
    if owned then return none
    let name : Option String ← match body.defaultName.filter (· ≠ "") with
      | some name => pure (some (strip name))
      | none => some <$> ask (.nextDefaultName user body.agentType)
    let created ← createAgentRows user sortOrder body name
    if created then return some (body.agentId, true)
    perform .rollback
    assertUserAuthorityActive user
    match ← ask (.agentOf body.agentId user) with
    | none =>
      let _ : Bool ← ask (.agentExists body.agentId)
      return none
    | some winner =>
      refreshAgentEnvironment user winner body
      if winner.archived then reactivateAgentAndProject user winner.id
      flush
      return some (winner.id, false)

end

section
variable (reqHash : PlatformOwner × Payload → ℕ) (req : MutationRequest)
variable (user aid : ℕ) (body : PlatformRuntimeStateUpsert)

def platformCreateAgent (body : PlatformAgentCreate) : Handler Response := do
  let sortOrder : ℕ ← ask (.nextSortOrder user)
  match ← registerAgentEnvironment user sortOrder body with
  | none =>
    let exists_ : Bool ← ask (.agentExists body.agentId)
    if exists_ then
      reject req (some user) (.http 403 (.text "Agent is not owned by requested owner"))
        "owner_mismatch"
    else
      reject req (some user) (.http 409 (.text "Agent could not be registered"))
        "resource_conflict"
  | some (id, _) =>
    completeMutation reqHash req user (some id) ⟨200, .environmentCreated id⟩
    return ⟨200, some (.environmentCreated id)⟩

def platformDeleteAgent : Handler Response := do
  let agent ← loadOwnedAgent req user aid
  write (.manifestChanged agent.id)
  proveProject aid
  let now : ℕ ← ask .now
  write (.archiveAgent aid now)
  write (.notifySubscriptions user)
  completeMutation reqHash req user (some aid) ⟨204, .empty⟩
  return ⟨204, none⟩

def resolveRuntimeApplyGenerationUpdate (cur : Option ℕ) (requested : Option (Option ℕ)) : Except String (Option ℕ) :=
  match requested, cur with
  | some none, _ => .error "apply_generation_conflict"
  | some (some requested), none => .ok (some requested)
  | none, none => .ok none
  | some (some requested), some cur =>
    if requested < cur then .error "stale_apply_generation" else .ok (some requested)
  | none, some cur => .ok (some cur)

def runtimeStateChangedFields (st : Option HostedRuntimeState)
    (body : PlatformRuntimeStateUpsert) (applyGeneration : Option ℕ) : List String :=
  match st with
  | none =>
    ["deployment_id", "instance_id", "generation"] ++
      (if applyGeneration = none then [] else ["apply_generation"]) ++ body.settings.map Prod.fst
  | some st =>
    (if st.deploymentId = body.deploymentId then [] else ["deployment_id"]) ++
    (if st.instanceId = body.instanceId then [] else ["instance_id"]) ++
    (if st.generation = body.generation then [] else ["generation"]) ++
    (if st.applyGeneration = applyGeneration then [] else ["apply_generation"]) ++
    (body.settings.filter fun cfg => cfg ∉ st.settings).map Prod.fst

def checkRuntimeState : Handler (AgentEnvironment × Option ℕ × List String × Bool) := do
  match ← ask (.writeFence aid user body.deploymentId) with
  | some (code, message) => reject req (some user) (.http 409 (.text s!"{code}: {message}")) code
  | none =>
  let agent ← loadOwnedAgent req user aid
  match ← ask (.workspaceSkillConflict aid body.skills) with
  | some error => throw error
  | none =>
  let st : Option HostedRuntimeState ← ask (.runtimeState aid user)
  let secrets : List (String × String) ← ask (.secretRows aid)
  let skills := (st.map HostedRuntimeState.enabledSkills).getD [] ++ body.enabledSkills
  let _ : Unit ← ask (.lockSkillReservations agent.defaultProjectId skills)
  match st.filter (fun st => body.generation < st.generation) with
  | some st =>
    reject req (some user) (.http 409 (.coded "stale_generation" (some st.generation)))
      "stale_generation"
  | none =>
  let cur := st.bind HostedRuntimeState.applyGeneration
  match resolveRuntimeApplyGenerationUpdate cur body.applyGeneration with
  | .error code => reject req (some user) (.http 409 (.coded code cur)) code
  | .ok applyGeneration =>
  let secretsChanged := decide (secrets ≠ body.secretValues)
  let changed := runtimeStateChangedFields st body applyGeneration ++
    if secretsChanged then ["secretValues"] else []
  let material := changed.filter fun field => field ∉ ["generation", "apply_generation"]
  match st.filter (fun st => body.generation = st.generation ∧ material ≠ []) with
  | some st =>
    reject req (some user) (.http 409 (.coded "generation_conflict" (some st.generation)))
      "generation_conflict"
  | none => return (agent, applyGeneration, changed, secretsChanged)

def initializePluginBundle (agent : AgentEnvironment) (body : PlatformRuntimeStateUpsert) : Handler Unit := do
  match body.pluginBundle.filter (fun _ => agent.pluginBundleRevision = none) with
  | none => return ()
  | some bundle =>
    match ← ask (.pluginBundleRefusal agent.id bundle body.runtime) with
    | some error =>
      perform .rollback
      throw error
    | none =>
      write (.installPlugins agent.id bundle)
      write (.manifestChanged agent.id)

def platformUpsertRuntimeState : Handler Response := do
  let (agent, applyGeneration, changed, secretsChanged) ← checkRuntimeState req user aid body
  match ← ask (.oauthClaimConflict user aid body.runtime) with
  | some conflict => throw (.http 409 (.text conflict))
  | none =>
  write (.reconcileOauthClaims aid body.runtime)
  initializePluginBundle agent body
  write (.assignRuntimeState aid body applyGeneration)
  writeIf secretsChanged (.syncSecretValues aid body.secretValues)
  writeIf (changed ≠ []) (.manifestChanged aid)
  let resp := ResponseBody.runtimeState aid body.deploymentId body.instanceId body.generation applyGeneration
  completeMutation reqHash req user (some aid) ⟨200, resp⟩
  return ⟨200, some resp⟩

def platformDeleteRuntimeState : Handler Response := do
  let agent ← loadOwnedAgent req user aid
  let st : Option HostedRuntimeState ← ask (.runtimeState aid user)
  if st.isSome then
    write (.releaseOauthClaims aid)
    write (.deleteRuntimeState aid)
    write (.manifestChanged agent.id)
  completeMutation reqHash req user (some aid) ⟨204, .empty⟩
  return ⟨204, none⟩

def platformMintApiKey (body : PlatformApiKeyCreate) : Handler Response := do
  let _ ← loadOwnedAgent req user body.environmentId
  assertUserAuthorityActive user
  match ← ask (.agentOf body.environmentId user) with
  | none => throw .internal
  | some _ =>
  let (key, rawKey) ← ask .generatedKey
  write (.createApiKey key user)
  let resp := ResponseBody.apiKeyCreated key rawKey
  completeMutation reqHash req user (some key.id) ⟨200, resp⟩
  return ⟨200, some resp⟩

def platformRevokeApiKey (keyId : ℕ) : Handler Response := do
  let key ← loadOwnedKey req user keyId
  if key.revokedAt = none then
    let now : ℕ ← ask .now
    write (.revokeApiKey keyId now)
    write (.notifySubscriptions user)
  completeMutation reqHash req user (some keyId) ⟨200, .apiKeyRevoked⟩
  return ⟨200, some .apiKeyRevoked⟩

def mutate : Handler Response :=
  match req.mutation with
  | .createAgent body => platformCreateAgent reqHash req user body
  | .deleteAgent aid => platformDeleteAgent reqHash req user aid
  | .upsertRuntimeState aid body => platformUpsertRuntimeState reqHash req user aid body
  | .deleteRuntimeState aid => platformDeleteRuntimeState reqHash req user aid
  | .mintApiKey body => platformMintApiKey reqHash req user body
  | .revokeApiKey keyId => platformRevokeApiKey reqHash req user keyId

def locksOwner : Mutation → Bool
  | .mintApiKey _ | .revokeApiKey _ => false
  | _ => true

def handle : Handler Response := do
  let user ← resolveOwner req
  if locksOwner req.mutation then
    let _ : Unit ← ask (.lockAiProviderOwner user)
  match ← beginMutation reqHash req user with
  | some replay => return replayResponse replay
  | none => mutate reqHash req user

end
end Clawdi.PlatformMutations
