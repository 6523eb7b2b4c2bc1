import Clawdi.Lib.Table
import Clawdi.Lib.Transition
import Clawdi.SkillArchives.Archives

namespace Clawdi.SkillArchives

inductive SkillAuthority
  | cloud
  | agentSync (aid : Uuid)
  deriving DecidableEq

structure Skill where
  id : ℕ
  userId : Uuid
  projectId : Uuid
  skillKey : Segments
  name : String
  description : String
  version : ℕ
  source : String
  authority : SkillAuthority
  agentTypes : Option (List String)
  contentHash : String
  fileKey : Option FileKey
  sourceRepo : Option String
  fileCount : Option ℕ
  isActive : Bool
  deriving DecidableEq

structure AgentEnvironment where
  id : Uuid
  userId : Uuid
  defaultProjectId : Uuid
  archived : Bool

inductive ProjectKind
  | environment
  | personal
  | workspace
  deriving DecidableEq

structure Project where
  id : Uuid
  userId : Uuid
  kind : ProjectKind
  originEnvironmentId : Option Uuid
  archived : Bool

/-- The rows that other operations write. -/
structure Graph where
  agents : List AgentEnvironment
  projects : List Project
  bindings : List (Uuid × Uuid)

variable (graph : Graph)

def Graph.project (id : Uuid) : Option Project := graph.projects.find? (·.id = id)

def Graph.agentSyncProject (uid aid : Uuid) : Option Uuid := do
  let agent ← graph.agents.find? fun agent =>
    agent.id = aid ∧ agent.userId = uid ∧ !agent.archived
  let proj ← graph.project agent.defaultProjectId
  guard (proj.userId = uid ∧ proj.kind = .environment ∧ proj.originEnvironmentId = some aid)
  return proj.id

structure UploadRequest where
  userId : Uuid
  projectId : Uuid
  skillKey : Segments
  data : Data
  contentHash : Option String
  expectedContentHash : Option String
  createOnly : Bool
  authority : SkillAuthority

/-- An upload between its phases. -/
structure Upload where
  id : ℕ
  request : UploadRequest
  analysis : SkillUploadAnalysis String
  stored : Bool

def Upload.fileKey (up : Upload) : FileKey :=
  .archive up.request.userId up.request.projectId up.request.skillKey up.analysis.contentHash

structure RefreshRequest where
  userId : Uuid
  projectId : Uuid
  skillKey : Segments
  sourceAgentId : Uuid

structure SourceSnapshot where
  skillId : ℕ
  contentHash : String
  fileKey : FileKey
  fileCount : ℕ
  deriving DecidableEq

structure Refresh where
  id : ℕ
  request : RefreshRequest
  snapshot : SourceSnapshot
  analysis : Option (SkillUploadAnalysis String)

/-- The objects that are still to be removed after the deletion of an agent. -/
structure Cleanup where
  id : ℕ
  fileKeys : List FileKey

structure World where
  skills : Table Skill.id := .empty
  nextSkillId : ℕ := 0
  objects : FileStore := fun _ => none
  graph : Graph := ⟨[], [], []⟩
  uploads : Table Upload.id := .empty
  refreshes : Table Refresh.id := .empty
  cleanups : Table Cleanup.id := .empty

namespace World
variable (w : World) (old source : Skill) (up : Upload) (req : UploadRequest)
variable (uid pid aid : Uuid) (skill : Skill) (fileKey : FileKey) (fileCount : ℕ)
variable (skillKey : Segments) (expectedContentHash : Option String)

def activeSkill : Option Skill :=
  w.skills.rows.find? fun skill => skill.userId = uid ∧ skill.projectId = pid ∧
    skill.skillKey = skillKey ∧ skill.isActive

def writeSkill : World := { w with skills := w.skills.put skill }

/-- `assert_write_boundary`, as far as it reads the graph. -/
def writeBoundary : Bool :=
  match req.authority with
  | .agentSync aid => w.graph.agentSyncProject req.userId aid = some req.projectId
  | .cloud => match w.graph.project req.projectId with
    | some proj => proj.kind ≠ .environment
    | none => false

def upsertSkill : World :=
  let req := up.request
  let analysis := up.analysis
  let source := if req.authority = .cloud then "local" else "agent_sync"
  match w.activeSkill req.userId req.projectId req.skillKey with
  | some skill =>
    if skill.contentHash = analysis.contentHash ∧ skill.authority = req.authority then w
    else w.writeSkill { skill with
      name := analysis.name
      description := analysis.description
      contentHash := analysis.contentHash
      fileKey := some up.fileKey
      fileCount := some analysis.fileCount
      source
      sourceRepo := none
      authority := req.authority
      isActive := true
      version := skill.version + 1 }
  | none =>
    let fresh : World := { w with nextSkillId := w.nextSkillId + 1 }
    fresh.writeSkill {
      id := w.nextSkillId
      userId := req.userId
      projectId := req.projectId
      skillKey := req.skillKey
      name := analysis.name
      description := analysis.description
      version := 1
      source
      authority := req.authority
      agentTypes := none
      contentHash := analysis.contentHash
      fileKey := some up.fileKey
      sourceRepo := none
      fileCount := some analysis.fileCount
      isActive := true }

def admits : Bool :=
  !req.createOnly &&
    (match req.authority, old.authority with
      | .cloud, .agentSync _ => false
      | .agentSync aid, .agentSync owner => owner = aid
      | _, .cloud => true) &&
    match req.expectedContentHash with
    | some exp => exp = "" || old.contentHash = exp
    | none => true

def claimSkill : Skill :=
  match up.request.authority with
  | .cloud => { old with authority := .cloud }
  | .agentSync aid => { old with
      authority := .agentSync aid
      name := up.analysis.name
      description := up.analysis.description
      fileCount := some up.analysis.fileCount
      source := "agent_sync"
      sourceRepo := none }

def uploadRow : World :=
  let req := up.request
  match w.activeSkill req.userId req.projectId req.skillKey with
  | some old =>
    if !admits old req then w
    else if old.contentHash = up.analysis.contentHash then
      w.writeSkill (claimSkill old up)
    else w.upsertSkill up
  | none => w.upsertSkill up

def projectSkillRefreshRows (req : RefreshRequest) : Option (Skill × Skill × FileKey × ℕ) := do
  let proj ← w.graph.project req.projectId
  guard (proj.userId = req.userId ∧ !proj.archived ∧ proj.kind = .workspace)
  let tgt ← w.activeSkill req.userId req.projectId req.skillKey
  guard (tgt.authority = .cloud)
  let sourceProjectId ← w.graph.agentSyncProject req.userId req.sourceAgentId
  let sourceProject ← w.graph.project sourceProjectId
  guard (!sourceProject.archived)
  guard ((req.sourceAgentId, req.projectId) ∈ w.graph.bindings)
  let source ← w.activeSkill req.userId sourceProjectId req.skillKey
  guard (source.authority = .agentSync req.sourceAgentId)
  let sourceFileKey ← source.fileKey
  let sourceFileCount ← source.fileCount
  return (tgt, source, sourceFileKey, sourceFileCount)

def snapshot : SourceSnapshot := ⟨source.id, source.contentHash, fileKey, fileCount⟩

def refreshed (tgt source : Skill) (analysis : SkillUploadAnalysis String) (fileKey : FileKey) (fileCount : ℕ) : Skill :=
  let changed := tgt.name ≠ analysis.name ∨ tgt.description ≠ analysis.description ∨
    tgt.contentHash ≠ source.contentHash ∨ tgt.fileKey ≠ some fileKey ∨
    tgt.fileCount ≠ some fileCount ∨ tgt.sourceRepo ≠ source.sourceRepo ∨
    tgt.agentTypes ≠ source.agentTypes
  if changed then { tgt with
    name := analysis.name
    description := analysis.description
    contentHash := source.contentHash
    fileKey := some fileKey
    fileCount := some fileCount
    sourceRepo := source.sourceRepo
    agentTypes := source.agentTypes
    authority := .cloud
    version := tgt.version + 1 }
  else tgt

def refreshRow (refresh : Refresh) (analysis : SkillUploadAnalysis String) : World :=
  match w.projectSkillRefreshRows refresh.request with
  | some (tgt, source, fileKey, fileCount) =>
    if snapshot source fileKey fileCount ≠ refresh.snapshot then w
    else w.writeSkill (refreshed tgt source analysis fileKey fileCount)
  | none => w

def hashMatches : Bool :=
  match expectedContentHash with
  | some exp => skill.contentHash = exp
  | none => true

def deleteSkill : World :=
  match w.activeSkill uid pid skillKey with
  | some skill =>
    if skill.authority = .cloud ∧ hashMatches skill expectedContentHash then
      w.writeSkill { skill with isActive := false }
    else w
  | none => w

def deleteAgentSyncedSkill (pid : Option Uuid) (skillKey : Segments) (expectedContentHash : Option String) : World :=
  match w.graph.agentSyncProject uid aid with
  | none => w
  | some currentProjectId =>
    let targetProjectId := pid.getD currentProjectId
    match w.activeSkill uid targetProjectId skillKey with
    | some skill =>
      let owned : Bool := match skill.authority with
        | .agentSync owner => owner = aid
        | .cloud => targetProjectId = currentProjectId
      if owned ∧ hashMatches skill expectedContentHash then
        w.writeSkill { skill with isActive := false }
      else w
    | none => w

def ownedBy : Bool := skill.projectId = pid || skill.authority = .agentSync aid

def deleteAgentProjectSkillRows : Option (List FileKey × World) := do
  let agent ← w.graph.agents.find? fun agent => agent.id = aid ∧ agent.userId = uid
  let proj ← w.graph.project agent.defaultProjectId
  guard (proj.userId = agent.userId ∧ proj.kind = .environment ∧ proj.originEnvironmentId = some agent.id)
  guard (w.graph.agents.all fun alt => alt.defaultProjectId ≠ proj.id || alt.id = agent.id)
  let skills := w.skills.rows.filter (ownedBy proj.id agent.id)
  let fileKeys := (skills.filterMap Skill.fileKey).dedup.insertionSort fun a b => a.text ≤ b.text
  return (fileKeys, { w with skills := w.skills.remove (ownedBy proj.id agent.id) })

def deleteAgent (id : ℕ) (uid aid : Uuid) : World :=
  match w.deleteAgentProjectSkillRows uid aid with
  | none => w
  | some (fileKeys, rest) =>
    let agents := rest.graph.agents.filter (·.id ≠ aid)
    { rest with
      graph.agents := agents
      cleanups := rest.cleanups.put ⟨id, fileKeys⟩ }

end World

/-- The phases of the requests. -/
inductive Operation
  | beginUpload (id : ℕ) (req : UploadRequest)
  | putObject (id : ℕ)
  | finishUpload (id : ℕ)
  | abandonUpload (id : ℕ)
  | beginRefresh (id : ℕ) (req : RefreshRequest)
  | validateRefresh (id : ℕ)
  | finishRefresh (id : ℕ)
  | deleteSkill (uid pid : Uuid) (skillKey : Segments) (expectedContentHash : Option String)
  | deleteAgentSyncedSkill (uid aid : Uuid) (pid : Option Uuid) (skillKey : Segments)
      (expectedContentHash : Option String)
  | deleteAgent (id : ℕ) (uid aid : Uuid)
  | cleanFile (id : ℕ) (succeeds : Bool)
  | changeGraph (graph : Graph)

variable (lib : Libraries String) (w : World) (refresh : Refresh) (up : Upload)

def beginUpload (id : ℕ) (req : UploadRequest) : World :=
  let strict := req.authority = SkillAuthority.cloud
  match req.data.entries.bind fun es => analyzeSkillUpload es lib req.skillKey strict, w.uploads.get id with
  | some analysis, none =>
    if (req.contentHash.all (· = analysis.contentHash)) ∧ w.writeBoundary req then
      { w with uploads := w.uploads.put ⟨id, req, analysis, false⟩ }
    else w
  | _, _ => w

def putObject : World :=
  if up.stored then w
  else { w with
    objects := w.objects.put up.fileKey up.request.data
    uploads := w.uploads.put { up with stored := true } }

def finishUpload : World :=
  let rest : World := { w with uploads := w.uploads.remove (·.id = up.id) }
  if up.stored ∧ w.writeBoundary up.request then rest.uploadRow up else rest

def beginRefresh (id : ℕ) (req : RefreshRequest) : World :=
  match w.projectSkillRefreshRows req with
  | some (_, source, fileKey, fileCount) =>
    { w with refreshes := w.refreshes.put ⟨id, req, World.snapshot source fileKey fileCount, none⟩ }
  | none => w

def validateRefresh : World :=
  let snapshot := refresh.snapshot
  match validateStoredSkill lib w.objects refresh.request.skillKey snapshot.fileKey
      snapshot.contentHash with
  | some analysis => { w with refreshes := w.refreshes.put { refresh with analysis := analysis } }
  | none => { w with refreshes := w.refreshes.remove (·.id = refresh.id) }

def finishRefresh : World :=
  let rest : World := { w with refreshes := w.refreshes.remove (·.id = refresh.id) }
  match refresh.analysis with
  | some analysis => rest.refreshRow refresh analysis
  | none => w

/-- One round of `delete_agent_skill_files_best_effort`. -/
def cleanFile (cleanup : Cleanup) (succeeds : Bool) : World :=
  match cleanup.fileKeys with
  | [] => w
  | key :: fileKeys =>
    let rest : World := { w with cleanups := w.cleanups.put ⟨cleanup.id, fileKeys⟩ }
    if succeeds then { rest with objects := rest.objects.delete key } else rest

def step (w : World) : Operation → World
  | .beginUpload id req => beginUpload lib w id req
  | .putObject id => (w.uploads.get id).elim w (putObject w)
  | .finishUpload id => (w.uploads.get id).elim w (finishUpload w)
  | .abandonUpload id => { w with uploads := w.uploads.remove (·.id = id) }
  | .beginRefresh id req => beginRefresh w id req
  | .validateRefresh id => (w.refreshes.get id).elim w (validateRefresh lib w)
  | .finishRefresh id => (w.refreshes.get id).elim w (finishRefresh w)
  | .deleteSkill uid pid skillKey expectedContentHash => w.deleteSkill uid pid skillKey expectedContentHash
  | .deleteAgentSyncedSkill uid aid pid skillKey expectedContentHash =>
    w.deleteAgentSyncedSkill uid aid pid skillKey expectedContentHash
  | .deleteAgent id uid aid => w.deleteAgent id uid aid
  | .cleanFile id succeeds => (w.cleanups.get id).elim w (cleanFile w · succeeds)
  | .changeGraph graph => { w with graph }

end Clawdi.SkillArchives
