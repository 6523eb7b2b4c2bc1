import Mathlib.Data.List.Basic
import Mathlib.Data.List.Induction
import Mathlib.Logic.Function.Basic
import Clawdi.Lib.Outcome

namespace Clawdi.Resolve

structure Vault (ι : Type) where
  id : ι
  slug : String

structure VaultItem (ι γ : Type) where
  id : ι
  vaultId : ι
  sectionName : String
  itemName : String
  encryptedValue : γ
  deriving DecidableEq

structure Attachment (ι : Type) where
  projectId : ι
  vaultId : ι

structure SlugAlias (ι : Type) where
  projectId : ι
  vaultId : ι
  slug : String

/-- The tables a resolution reads, the rows of each in the order of the queries' `order_by`. -/
structure Database (ι γ : Type) where
  attachments : List (Attachment ι)
  vaults : List (Vault ι)
  aliases : List (SlugAlias ι)
  items : List (VaultItem ι γ)
  unique : ∀ one ∈ items, ∀ alt ∈ items, one.id = alt.id → one = alt

inductive BindingType where
  | primary
  | context
  | project
  deriving DecidableEq

structure ProjectPrecedenceEntry (ι : Type) where
  projectId : ι
  alias? : String
  display : String
  bindingType : BindingType
  priority : Int

inductive Reason where
  | hit
  | notFound
  | sameVault
  | conflict

structure EntryDebug (ι : Type) where
  entry : ProjectPrecedenceEntry ι
  hit : Bool
  reason : Reason

abbrev Precedence (ι : Type) := List (ProjectPrecedenceEntry ι)

/-- Where a value comes from, in a winner and in a conflict. -/
structure Source (ι : Type) where
  entry : ProjectPrecedenceEntry ι
  vaultSlug : String
  sectionName : String
  itemName : String

structure EnvConflict (ι : Type) where
  key : String
  winner : Source ι
  conflict : Source ι

inductive Failure (ι : Type) where
  | previewRequires
  | keyOrReference
  | referenceRequires
  | boundToOtherAgent
  | agentNotFound
  | noDefaultProject
  | projectNotFound (reference : Option String)
  | ambiguousVault (slug : String) (pid : ι)
  | undecryptable
  | notFound (label : String) (precedence : List (EntryDebug ι))
  | conflictsBlocked (label : String) (winner : Source ι) (conflicts : List (Source ι))
      (precedence : List (EntryDebug ι))
  | environmentBlocked (conflicts : List (EnvConflict ι))

abbrev Outcome (ι : Type) := Except (Failure ι)

/-- The label is the key or the reference of the answer. -/
structure Resolution (ι : Type) where
  label : String
  winner : Source ι
  value : Option String
  precedence : Option (List (EntryDebug ι))
  conflicts : List (Source ι)

structure Project (ι : Type) where
  id : ι
  slug : String
  name : String

structure Agent (ι : Type) where
  id : ι
  defaultProjectId : Option ι

structure AgentProjectBinding (ι : Type) where
  agentId : ι
  projectId : ι
  primary : Bool
  priority : Int

/-- `boundAgent` is the environment of a bound key, `agents` the caller's own, `bindings` their rows. -/
structure Caller (ι : Type) where
  boundAgent : Option ι
  readable : List ι
  defaultWriteProject : Option ι
  projects : List (Project ι)
  agents : List (Agent ι)
  bindings : List (AgentProjectBinding ι)

variable {ι γ : Type} [DecidableEq ι] (db : Database ι γ) (caller : Caller ι) (decrypt : γ → Option String)

def Caller.resolveDefaultWriteProject : Outcome ι ι :=
  match caller.defaultWriteProject with
  | none => .error .noDefaultProject
  | some proj => .ok proj

def Caller.plaintextProjectIds : Outcome ι (List ι) := do
  if caller.boundAgent.isSome then return [← caller.resolveDefaultWriteProject]
  return caller.readable

def Project.entry (proj : Project ι) (bindingType : BindingType) (priority : Int) : ProjectPrecedenceEntry ι :=
  ⟨proj.id, proj.slug, proj.name, bindingType, priority⟩

def Caller.projectPrecedence (pid : ι) : Outcome ι (Precedence ι) := do
  let allowed ← caller.plaintextProjectIds
  if pid ∉ allowed then return []
  return ((caller.projects.find? (·.id = pid)).map (·.entry .project 0)).toList

def precedes (one alt : ProjectPrecedenceEntry ι) : Bool :=
  let rank (e : ProjectPrecedenceEntry ι) := if e.bindingType = .primary then 0 else 1
  rank one < rank alt ∨ rank one = rank alt ∧ one.priority ≤ alt.priority

def Caller.agentProjectPrecedence (aid : ι) : Outcome ι (Precedence ι) := do
  if caller.boundAgent.any (· ≠ aid) then throw .boundToOtherAgent
  let agent ← match caller.agents.find? (·.id = aid) with
    | none => throw .agentNotFound
    | some agent => pure agent
  let allowed ← if caller.boundAgent = some aid then pure caller.readable else caller.plaintextProjectIds
  let es := (caller.bindings.filter (·.agentId = aid)).filterMap fun bind =>
    (caller.projects.find? fun proj => proj.id = bind.projectId ∧ proj.id ∈ allowed).map fun proj => proj.entry
        (if bind.primary ∧ some proj.id = agent.defaultProjectId then .primary else .context)
        bind.priority
  let default := caller.projects.find? fun proj =>
    some proj.id = agent.defaultProjectId ∧ proj.id ∈ allowed
  let inserted := if es.any (·.bindingType = .primary) then [] else (default.map (·.entry .primary 0)).toList
  return (inserted ++ es).mergeSort precedes

def selectProject (pid : Option ι) (ordered : Precedence ι) : Precedence ι :=
  match pid with
  | none => ordered
  | some sel => ordered.filter (·.projectId = sel)

def Caller.selectedProject (pid : Option ι) : Outcome ι ι :=
  match pid with
  | none => caller.resolveDefaultWriteProject
  | some sel => .ok sel

def attached : List (ι × Vault ι) :=
  db.attachments.flatMap fun row => (db.vaults.filter (·.id = row.vaultId)).map fun vault => (row.projectId, vault)

def itemRows : List (ι × Vault ι × VaultItem ι γ) :=
  (attached db).flatMap fun row => (db.items.filter (·.vaultId = row.2.id)).map fun item => (row.1, row.2, item)

def vaultItemRowsForProjects (projectIds : List ι) : List (ι × Vault ι × VaultItem ι γ) :=
  (itemRows db).filter (·.1 ∈ projectIds)

def aliasSlugs (pid : ι) (vault : Vault ι) : List String :=
  (db.aliases.filter fun row => row.vaultId = vault.id ∧ row.projectId = pid).map SlugAlias.slug

/-- What a lookup can name a vault by: its own slug or an alias of it in the project. -/
def identities : List (ι × String × ι) :=
  (attached db).map (fun row => (row.1, row.2.slug, row.2.id)) ++
    (attached db).flatMap fun row => (aliasSlugs db row.1 row.2).map fun slug => (row.1, slug, row.2.id)

/-- An entry of the precedence list with what it holds. -/
abbrev Hit (ι γ : Type) := ProjectPrecedenceEntry ι × Option (Vault ι × VaultItem ι γ)
abbrev Key (ι : Type) := ι × String × String × String

structure LookupRow (ι γ : Type) where
  projectId : ι
  lookupSlug : String
  vault : Vault ι
  item : VaultItem ι γ

def LookupRow.key (row : LookupRow ι γ) : Key ι :=
  (row.projectId, row.lookupSlug, row.item.sectionName, row.item.itemName)

def lookupRows : List (LookupRow ι γ) :=
  (itemRows db).map (fun row => ⟨row.1, row.2.1.slug, row.2.1, row.2.2⟩) ++
    (itemRows db).flatMap fun row => (aliasSlugs db row.1 row.2.1).map fun slug => ⟨row.1, slug, row.2.1, row.2.2⟩

/-- The loop over the identities: a namespace that two vaults answer to is refused. -/
def checkNamespaces : List (ι × String × ι) → List (ι × String × ι) → Outcome ι Unit
  | _, [] => .ok ()
  | before, (pid, slug, vaultId) :: rest =>
    if before.any fun row => row.1 = pid ∧ row.2.1 = slug ∧ row.2.2 ≠ vaultId then
      .error (.ambiguousVault slug pid)
    else checkNamespaces (before ++ [(pid, slug, vaultId)]) rest

def vaultItemRowsForExactReferences (projectIds : List ι) (references : List (String × String × String))
    (searched : List (ι × String)) : Outcome ι (List (LookupRow ι γ)) := do
  if projectIds = [] ∨ references = [] then return []
  checkNamespaces [] ((identities db).filter fun row => (row.1, row.2.1) ∈ searched)
  return (lookupRows db).filter fun row => (row.projectId, row.lookupSlug) ∈ searched ∧
    row.item.sectionName ∈ references.map (·.2.1) ∧ row.item.itemName ∈ references.map (·.2.2)

abbrev Index (ι γ : Type) := Key ι → Option (Vault ι × VaultItem ι γ)

def vaultItemIndex (rows : List (LookupRow ι γ)) : Outcome ι (Index ι γ) :=
  rows.foldlM (fun idx row =>
    if (idx row.key).any (·.1.id ≠ row.vault.id) then .error (.ambiguousVault row.lookupSlug row.projectId)
    else .ok (Function.update idx row.key (some (row.vault, row.item)))) fun _ => none

structure Winner (ι : Type) where
  source : Source ι
  itemId : ι
  value : Option String

structure Search (ι : Type) where
  precedence : List (EntryDebug ι) := []
  winner : Option (Winner ι) := none
  conflicts : List (Source ι) := []

/-- One turn of the loop over the precedence list, with the entry's hit. -/
def Search.visit (preview : Bool) (search : Search ι) (found : Hit ι γ) : Outcome ι (Search ι) :=
  match found with
  | (e, none) => .ok { search with precedence := search.precedence ++ [⟨e, false, .notFound⟩] }
  | (e, some (vault, item)) =>
    let src : Source ι := ⟨e, vault.slug, item.sectionName, item.itemName⟩
    let seen (reason : Reason) := search.precedence ++ [⟨e, true, reason⟩]
    match search.winner with
    | some winner =>
      if item.id = winner.itemId then .ok { search with precedence := seen .sameVault }
      else .ok { search with precedence := seen .conflict, conflicts := search.conflicts ++ [src] }
    | none =>
      if preview then .ok { search with precedence := seen .hit, winner := some ⟨src, item.id, none⟩ }
      else match decrypt item.encryptedValue with
        | none => .error .undecryptable
        | some v => .ok { search with precedence := seen .hit, winner := some ⟨src, item.id, some v⟩ }

structure Flags where
  preview : Bool := false
  allowConflicts : Bool := false
  debug : Bool := false

/-- The loop that a reference and a key share, over each entry with its hit, and the answer from it. -/
def resolveHits (flags : Flags) (label : String) (hits : List (Hit ι γ)) : Outcome ι (Resolution ι) := do
  let search ← hits.foldlM (Search.visit decrypt flags.preview) {}
  match search.winner with
  | none => throw (.notFound label search.precedence)
  | some winner =>
    if search.conflicts ≠ [] ∧ ¬flags.allowConflicts then
      throw (.conflictsBlocked label winner.source search.conflicts search.precedence)
    return ⟨label, winner.source, winner.value, if flags.debug then some search.precedence else none,
      search.conflicts⟩

def resolveExactVaultReferenceFromIndex (flags : Flags) (idx : Index ι γ)
    (ordered : Precedence ι) (reference vaultSlug sect field : String) : Outcome ι (Resolution ι) :=
  resolveHits decrypt flags reference <| ordered.map fun e => (e, idx (e.projectId, vaultSlug, sect, field))

def formatVaultReference (vaultSlug sect field : String) : String :=
  if sect = "" then "clawdi://" ++ vaultSlug ++ "/" ++ field
  else "clawdi://" ++ vaultSlug ++ "/" ++ sect ++ "/" ++ field

/-- A reference of a bulk request; the schema refuses an empty slug or field. -/
structure VaultReferenceResolveInput (ι : Type) where
  reference : String
  vaultSlug : String
  sectionName : String
  field : String
  projectId : Option ι
  slugged : vaultSlug ≠ ""
  fielded : field ≠ ""

structure VaultBulkResolveRequest (ι : Type) where
  references : List (VaultReferenceResolveInput ι)
  projectId : Option ι
  agentId : Option ι
  flags : Flags
  nonempty : references ≠ []

abbrev Ordered (ι : Type) := List (VaultReferenceResolveInput ι × Precedence ι)

def VaultReferenceResolveInput.scoped (ref : VaultReferenceResolveInput ι) (ordered : Precedence ι) :
    Outcome ι (VaultReferenceResolveInput ι × Precedence ι) :=
  if ordered = [] then .error (.projectNotFound ref.reference) else .ok (ref, ordered)

def resolveBulkReferenceOrder (request : VaultBulkResolveRequest ι) : Outcome ι (Ordered ι) :=
  match request.agentId with
  | some aid => do
    let agentOrdered ← caller.agentProjectPrecedence aid
    request.references.mapM fun ref =>
      ref.scoped (selectProject (ref.projectId.or request.projectId) agentOrdered)
  | none =>
    request.references.mapM fun ref => do
      ref.scoped (← caller.projectPrecedence (← caller.selectedProject (ref.projectId.or request.projectId)))

def resolveVaultBulk (request : VaultBulkResolveRequest ι) : Outcome ι (List (String × Resolution ι)) := do
  let ordered ← resolveBulkReferenceOrder caller request
  let rows ← vaultItemRowsForExactReferences db (ordered.flatMap (·.2.map (·.projectId)))
    (ordered.map fun ref => (ref.1.vaultSlug, ref.1.sectionName, ref.1.field))
    (ordered.flatMap fun ref => ref.2.map fun e => (e.projectId, ref.1.vaultSlug))
  let idx ← vaultItemIndex rows
  let results ← ordered.mapM fun (ref, es) => do
    return (ref.reference, ← resolveExactVaultReferenceFromIndex decrypt request.flags idx es
      ref.reference ref.vaultSlug ref.sectionName ref.field)
  return results.reverse

variable (upper : String → String)

def envKey (item : VaultItem ι γ) : String :=
  upper (if item.sectionName = "" then item.itemName else item.sectionName ++ "_" ++ item.itemName)

def firstVaultKeyHit (pid : ι) (wanted : String) : Option (Vault ι × VaultItem ι γ) :=
  ((vaultItemRowsForProjects db [pid]).find? fun row => envKey upper row.2.2 = wanted).map (·.2)

structure Query (ι : Type) where
  key : Option String := none
  vaultSlug : Option String := none
  sectionName : String := ""
  field : Option String := none
  projectId : Option ι := none
  agentId : Option ι := none
  flags : Flags := {}

inductive Answer (ι : Type) where
  | resolved (resolution : Resolution ι)
  | env (env : String → Option String)
  | envDebug (env : String → Option String) (precedence : Precedence ι)
      (conflicts : List (EnvConflict ι))

/-- The loop's three dicts by key are one: the first source with the key, its item and its value. -/
structure AgentEnv (ι : Type) where
  seen : String → Option (Source ι × ι × String) := fun _ => none
  conflicts : List (EnvConflict ι) := []

def AgentEnv.visit (env : AgentEnv ι) (row : ProjectPrecedenceEntry ι × Vault ι × VaultItem ι γ) :
    Outcome ι (AgentEnv ι) :=
  let key := envKey upper row.2.2
  let src : Source ι := ⟨row.1, row.2.1.slug, row.2.2.sectionName, row.2.2.itemName⟩
  match env.seen key with
  | some (winner, itemId, _) =>
    if itemId = row.2.2.id then .ok env else .ok { env with conflicts := env.conflicts ++ [⟨key, winner, src⟩] }
  | none => match decrypt row.2.2.encryptedValue with
    | none => .error .undecryptable
    | some v => .ok { env with seen := Function.update env.seen key (some (src, row.2.2.id, v)) }

/-- The environment of a project: a later item takes the key from an earlier one. -/
def visitPlain (env : String → Option (ι × String)) (item : VaultItem ι γ) :
    Outcome ι (String → Option (ι × String)) :=
  let key := envKey upper item
  if (env key).map Prod.fst = some item.id then .ok env
  else match decrypt item.encryptedValue with
    | none => .error .undecryptable
    | some v => .ok (Function.update env key (some (item.id, v)))

def scopeEntries (pid aid : Option ι) : Outcome ι (Precedence ι) :=
  match aid with
  | some aid => do return selectProject pid (← caller.agentProjectPrecedence aid)
  | none => do caller.projectPrecedence (← caller.selectedProject pid)

def scopePrecedence (pid aid : Option ι) : Outcome ι (Precedence ι) := do
  let ordered ← scopeEntries caller pid aid
  if ordered = [] then .error (.projectNotFound none) else .ok ordered

def resolveReference (query : Query ι) (ordered : Precedence ι) : Outcome ι (Resolution ι) :=
  match query.vaultSlug, query.field with
  | some vaultSlug, some field =>
    if vaultSlug = "" ∨ field = "" then throw .referenceRequires
    else do
      let rows ← vaultItemRowsForExactReferences db (ordered.map (·.projectId))
        [(vaultSlug, query.sectionName, field)] (ordered.map fun e => (e.projectId, vaultSlug))
      resolveExactVaultReferenceFromIndex decrypt query.flags (← vaultItemIndex rows) ordered
        (formatVaultReference vaultSlug query.sectionName field) vaultSlug query.sectionName field
  | _, _ => throw .referenceRequires

def resolveKey (flags : Flags) (key : String) (ordered : Precedence ι) : Outcome ι (Resolution ι) :=
  resolveHits decrypt flags key <| ordered.map fun e => (e, firstVaultKeyHit db upper e.projectId (upper key))

def scopeRows (ordered : Precedence ι) : List (ProjectPrecedenceEntry ι × Vault ι × VaultItem ι γ) :=
  let rows := vaultItemRowsForProjects db (ordered.map (·.projectId))
  ordered.flatMap fun e => (rows.filter (·.1 = e.projectId)).map fun row => (e, row.2)

def resolveAgentEnvironment (flags : Flags) (ordered : Precedence ι) : Outcome ι (Answer ι) := do
  let env ← (scopeRows db ordered).foldlM (AgentEnv.visit decrypt upper) {}
  if env.conflicts ≠ [] ∧ ¬flags.allowConflicts then throw (.environmentBlocked env.conflicts)
  let vs key := (env.seen key).map (·.2.2)
  return if flags.debug then .envDebug vs ordered env.conflicts else .env vs

def resolveProjectEnvironment (ordered : Precedence ι) : Outcome ι (Answer ι) := do
  let items := (vaultItemRowsForProjects db (ordered.map (·.projectId))).map (·.2.2)
  let env ← items.foldlM (visitPlain decrypt upper) fun _ => none
  return .env fun key => (env key).map Prod.snd

def resolveVault (query : Query ι) : Outcome ι (Answer ι) := do
  if query.flags.preview ∧ query.key = none ∧ query.vaultSlug = none ∧ query.field = none then
    throw .previewRequires
  let ordered ← scopePrecedence caller query.projectId query.agentId
  if query.vaultSlug ≠ none ∨ query.field ≠ none then
    if query.key ≠ none then throw .keyOrReference
    return .resolved (← resolveReference db decrypt query ordered)
  match query.key with
  | some key => return .resolved (← resolveKey db decrypt upper query.flags key ordered)
  | none =>
    if query.agentId.isSome then resolveAgentEnvironment db decrypt upper query.flags ordered
    else resolveProjectEnvironment db decrypt upper ordered

end Clawdi.Resolve
