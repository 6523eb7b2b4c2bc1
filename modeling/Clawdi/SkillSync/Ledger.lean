import Clawdi.Lib.UriComponent
import Clawdi.SkillSync.Process
import Mathlib.Data.String.Basic

namespace Clawdi.SkillSync
open List Table Option
open Serve (Field required isValidSkillKey)

inductive LedgerEntry
  | scalar
  | record (mems : List (String × Field))

structure LedgerFile where
  version : Field
  skills : Option (List (String × LedgerEntry))
  claims : Option (List (String × LedgerEntry))
  materializations : Option (List (String × LedgerEntry))

def CURRENT_VERSION : Serve.Number := 5

structure ProjectSkillMaterialization where
  agentType : String
  localSkillKey : String
  sourceProjectId : String
  sourceSkillKey : String
  contentHash : String
  reconcileAgentId : Option String

def ProjectSkillMaterialization.place (mat : ProjectSkillMaterialization) : Materialization where
  agentType := mat.agentType
  localSkillKey := mat.localSkillKey

structure Ledger where
  skills : HashCache
  claims : Table SkillProjectionClaim.key
  materializations : Table ProjectSkillMaterialization.place

def Ledger.empty : Ledger where
  skills := .empty
  claims := .empty
  materializations := .empty

def Ledger.lock (ledger : Ledger) : SkillsLock where
  skills := ledger.skills
  claims := ledger.claims
  materializations := ledger.materializations.rows.map ProjectSkillMaterialization.place

def skillClaimCacheKey (key : ClaimKey) : String :=
  String.ofList (UriComponent.encode key.agentId ++ ':' ::
    (UriComponent.encode key.projectId ++ ':' :: UriComponent.encode key.skillKey))

def projectSkillMaterializationCacheKey (place : Materialization) : String :=
  String.ofList (UriComponent.encode place.agentType ++ ':' :: UriComponent.encode place.localSkillKey)

/-! ## Reading -/

def filled (mems : List (String × Field)) (name : String) : Option String :=
  (required mems name Field.text?).filter (· ≠ "")

def LedgerEntry.members : LedgerEntry → Option (List (String × Field))
  | .scalar => none
  | .record mems => some mems

def readHash (e : LedgerEntry) : Option String := do
  filled (← e.members) "hash"

def readHashEntries (es : Option (List (String × LedgerEntry))) : HashCache :=
  ((es.getD []).filterMap fun (key, e) => (readHash e).map (key, ·)).foldl Table.put .empty

def readClaim (key : String) (e : LedgerEntry) : Option SkillProjectionClaim := do
  let mems ← e.members
  let agentType ← filled mems "agent_type"
  let aid ← filled mems "agent_id"
  let pid ← filled mems "project_id"
  let skillKey ← (required mems "skill_key" Field.text?).filter isValidSkillKey
  let hash ← filled mems "hash"
  guard (key = skillClaimCacheKey ⟨aid, pid, skillKey⟩)
  return { agentType, agentId := aid, projectId := pid, skillKey, hash }

def readProjectionClaims (es : Option (List (String × LedgerEntry))) : Table SkillProjectionClaim.key :=
  ((es.getD []).filterMap fun (key, e) => readClaim key e).foldl Table.put .empty

def readMaterialization (key : String) (e : LedgerEntry) : Option ProjectSkillMaterialization := do
  let mems ← e.members
  let agentType ← filled mems "agent_type"
  let localSkillKey ← (required mems "local_skill_key" Field.text?).filter isValidSkillKey
  let sourceProjectId ← filled mems "source_project_id"
  let sourceSkillKey ← (required mems "source_skill_key" Field.text?).filter isValidSkillKey
  let contentHash ← filled mems "content_hash"
  guard (key = projectSkillMaterializationCacheKey ⟨agentType, localSkillKey⟩)
  return { agentType, localSkillKey, sourceProjectId, sourceSkillKey, contentHash
           reconcileAgentId := filled mems "reconcile_agent_id" }

def readProjectSkillMaterializations (es : Option (List (String × LedgerEntry))) :
    Table ProjectSkillMaterialization.place :=
  ((es.getD []).filterMap fun (key, e) => readMaterialization key e).foldl Table.put .empty

def readSkillsLock : Option LedgerFile → Ledger
  | none => .empty
  | some file =>
    if file.version.number? ≠ some CURRENT_VERSION then .empty
    else
      { skills := readHashEntries file.skills
        claims := readProjectionClaims file.claims
        materializations := readProjectSkillMaterializations file.materializations }

/-! ## Writing -/

def hashEntry (hash : String) : LedgerEntry := .record [("hash", .text hash)]

def claimMembers (claim : SkillProjectionClaim) : List (String × Field) :=
  [("agent_type", .text claim.agentType), ("agent_id", .text claim.agentId),
    ("project_id", .text claim.projectId), ("skill_key", .text claim.skillKey),
    ("hash", .text claim.hash)]

def claimEntry (claim : SkillProjectionClaim) : LedgerEntry := .record (claimMembers claim)

def materializationEntry (mat : ProjectSkillMaterialization) : LedgerEntry :=
  .record
    ([("agent_type", .text mat.agentType),
      ("local_skill_key", .text mat.localSkillKey),
      ("source_project_id", .text mat.sourceProjectId),
      ("source_skill_key", .text mat.sourceSkillKey),
      ("content_hash", .text mat.contentHash)] ++
      mat.reconcileAgentId.toList.map fun aid =>
        ("reconcile_agent_id", .text aid))

def writeSkillsLockUnlocked (ledger : Ledger) : LedgerFile where
  version := .number CURRENT_VERSION
  skills := some <| (ledger.skills.select (fun _ => true) Prod.fst).map fun (key, hash) =>
    (key, hashEntry hash)
  claims := some <| (ledger.claims.select (fun _ => true) (skillClaimCacheKey ·.key)).map fun claim =>
    (skillClaimCacheKey claim.key, claimEntry claim)
  materializations := some <| (ledger.materializations.select (fun _ => true)
      (projectSkillMaterializationCacheKey ·.place)).map fun mat =>
        (projectSkillMaterializationCacheKey mat.place, materializationEntry mat)

structure SkillProjectionClaim.Valid (claim : SkillProjectionClaim) : Prop where
  agentType : claim.agentType ≠ ""
  agentId : claim.agentId ≠ ""
  projectId : claim.projectId ≠ ""
  skillKey : isValidSkillKey claim.skillKey = true
  hash : claim.hash ≠ ""

lemma filled_ne {mems name v} (hit : filled mems name = some v) : v ≠ "" := by
  have kept := (filter_eq_some_iff.mp hit).2
  simpa using kept

variable {claim : SkillProjectionClaim}

lemma readClaim_valid {key e} (hit : readClaim key e = some claim) :
    claim.Valid ∧ key = skillClaimCacheKey claim.key := by
  unfold readClaim at hit
  simp only [bind_eq_bind, bind_eq_some_iff] at hit
  obtain ⟨mems, -, agentType, typed, aid, agent, pid, proj, skillKey, skill, hash, hashed, passed, keyed, same⟩ := hit
  cases same
  refine ⟨⟨filled_ne typed, filled_ne agent, filled_ne proj, ?_, filled_ne hashed⟩, ?_⟩
  · exact (filter_eq_some_iff.mp skill).2
  · by_contra differ
    have refused : (guard (key = skillClaimCacheKey ⟨aid, pid, skillKey⟩) : Option Unit) =
        none := if_neg differ
    rw [refused] at keyed
    cases keyed

lemma filled_text {mems : List (String × Field)} {name v}
    (hit : mems.lookup name = some (.text v)) (here : v ≠ "") : filled mems name = some v := by
  simp [filled, required, hit, Field.text?, here]

lemma readClaim_claimEntry (valid : claim.Valid) :
    readClaim (skillClaimCacheKey claim.key) (claimEntry claim) = some claim := by
  have agentType : filled (claimMembers claim) "agent_type" = some claim.agentType := filled_text rfl valid.agentType
  have aid : filled (claimMembers claim) "agent_id" = some claim.agentId := filled_text rfl valid.agentId
  have pid : filled (claimMembers claim) "project_id" = some claim.projectId := filled_text rfl valid.projectId
  have hash : filled (claimMembers claim) "hash" = some claim.hash := filled_text rfl valid.hash
  have skillKey : (required (claimMembers claim) "skill_key" Field.text?).filter isValidSkillKey =
      some claim.skillKey := by
    have hit : required (claimMembers claim) "skill_key" Field.text? = some claim.skillKey := rfl
    rw [hit]
    simp [valid.skillKey]
  have own : skillClaimCacheKey claim.key = skillClaimCacheKey ⟨claim.agentId, claim.projectId, claim.skillKey⟩ := rfl
  simp [readClaim, claimEntry, LedgerEntry.members, agentType, aid, pid, hash, skillKey, own]

/-! ## What a write leaves to the next read -/

lemma claims_valid {es} (mem : claim ∈ readProjectionClaims es) : claim.Valid := by
  have kept : ∀ (rows : List SkillProjectionClaim) (t : Table SkillProjectionClaim.key),
      (∀ row ∈ rows, row.Valid) → (∀ row ∈ t, row.Valid) → ∀ row ∈ rows.foldl Table.put t, row.Valid := by
    intro rows
    induction rows with
    | nil => exact fun t _ old => old
    | cons first rows ih =>
      intro t fresh old
      apply ih
      · exact fun row mem => fresh row (mem_cons_of_mem _ mem)
      · intro row mem
        rcases mem_put.mp mem with rfl | ⟨pre, -⟩
        · exact fresh row mem_cons_self
        · exact old row pre
  refine kept _ _ ?_ (by simp) claim mem
  intro row hit
  obtain ⟨⟨key, e⟩, -, parsed⟩ := mem_filterMap.mp hit
  exact (readClaim_valid parsed).1

lemma readSkillsLock_valid {disk} (mem : claim ∈ (readSkillsLock disk).claims) : claim.Valid := by
  unfold readSkillsLock at mem
  cases disk with
  | none => simp [Ledger.empty] at mem
  | some file =>
    by_cases ver : file.version.number? = some CURRENT_VERSION
    · simp only [ver, ne_eq, not_true_eq_false, if_false] at mem
      exact claims_valid mem
    · simp [ver, Ledger.empty] at mem

lemma read_write_claims {ledger : Ledger} (valid : ∀ claim ∈ ledger.claims, claim.Valid)
    (claim : SkillProjectionClaim) :
    claim ∈ (readSkillsLock (some (writeSkillsLockUnlocked ledger))).claims ↔ claim ∈ ledger.claims := by
  let sorted := ledger.claims.select (fun _ => true) (skillClaimCacheKey ·.key)
  have mems : ∀ row, row ∈ sorted ↔ row ∈ ledger.claims := by
    intro row
    rw [mem_select]
    simp
  have parsed : ((sorted.map fun row => (skillClaimCacheKey row.key, claimEntry row)).filterMap
      fun place => readClaim place.1 place.2) = sorted := by
    rw [filterMap_map]
    have same : ∀ row ∈ sorted, (((fun place : String × LedgerEntry => readClaim place.1 place.2) ∘
        fun row => (skillClaimCacheKey row.key, claimEntry row)) row) = some row := by
      intro row mem
      exact readClaim_claimEntry (valid row ((mems row).mp mem))
    rw [filterMap_congr same, filterMap_some]
  have apart : (sorted.map SkillProjectionClaim.key).Nodup := by
    have perm : sorted.Perm (ledger.claims.rows.filter fun _ => true) := perm_insertionSort _ _
    rw [(perm.map SkillProjectionClaim.key).nodup_iff, filter_true]
    exact ledger.claims.unique
  show claim ∈ ((sorted.map fun row => (skillClaimCacheKey row.key, claimEntry row)).filterMap
    fun place => readClaim place.1 place.2).foldl Table.put Table.empty ↔ _
  rw [parsed, mem_foldl_put apart, mems]
  simp

end Clawdi.SkillSync
