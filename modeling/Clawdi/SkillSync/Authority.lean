import Clawdi.SkillSync.Ledger

namespace Clawdi.SkillSync
open Serve (isValidSkillKey)
open Transition Table Option

/-! ## The calls that change the ledger -/

/-- `SkillProjectionIdentity`: what a claim is recorded and removed under. -/
structure SkillProjectionIdentity where
  agentType : String
  key : ClaimKey
  deriving DecidableEq

variable (claim : SkillProjectionClaim)

def SkillProjectionClaim.identity : SkillProjectionIdentity where
  agentType := claim.agentType
  key := claim.key

def assertValidProjectionIdentity (ident : SkillProjectionIdentity) : Except String Unit :=
  if ident.agentType = "" then .error "Skill projection agent type is required"
  else if ident.key.agentId = "" then .error "Skill projection agent ID is required"
  else if ident.key.projectId = "" then .error "Skill projection project ID is required"
  else if isValidSkillKey ident.key.skillKey then .ok ()
  else .error "Invalid skill projection key"

def assertValidClaim : Except String Unit := do
  assertValidProjectionIdentity claim.identity
  if claim.hash = "" then .error "Skill projection claim hash must not be empty" else .ok ()

lemma assertValidClaim_ok {claim} (acc : assertValidClaim claim = .ok ()) : claim.Valid := by
  unfold assertValidClaim assertValidProjectionIdentity at acc
  by_cases agentType : claim.agentType = ""
  · simp [SkillProjectionClaim.identity, agentType, bind, Except.bind] at acc
  · by_cases aid : claim.agentId = ""
    · simp [SkillProjectionClaim.identity, SkillProjectionClaim.key, agentType, aid, bind, Except.bind] at acc
    · by_cases pid : claim.projectId = ""
      · simp [SkillProjectionClaim.identity, SkillProjectionClaim.key, agentType, aid, pid, bind, Except.bind] at acc
      · by_cases skillKey : isValidSkillKey claim.skillKey = true
        · by_cases hash : claim.hash = ""
          · simp [SkillProjectionClaim.identity, SkillProjectionClaim.key, agentType, aid,
              pid, skillKey, hash, bind, Except.bind] at acc
          · exact ⟨agentType, aid, pid, skillKey, hash⟩
        · simp [SkillProjectionClaim.identity, SkillProjectionClaim.key, agentType, aid, pid,
            skillKey, bind, Except.bind] at acc

namespace Ledger
variable (ledger : Ledger)

def recordSkillProjectionClaim (claim : SkillProjectionClaim) : Ledger :=
  { ledger with
    claims := ledger.claims.put claim
    skills := ledger.skills.set (skillCacheKey claim.agentType claim.skillKey) claim.hash }

def removable (claims : Table SkillProjectionClaim.key) (ident : SkillProjectionIdentity) :
    Option SkillProjectionClaim :=
  (claims.get ident.key).filter fun existing => existing.identity = ident

def removeSkillProjectionClaim (ident : SkillProjectionIdentity) : Option Ledger :=
  (removable ledger.claims ident).map fun existing =>
    let baselineKey := skillCacheKey ident.agentType ident.key.skillKey
    { ledger with
      claims := ledger.claims.remove fun claim => claim.key = ident.key
      skills :=
        if ledger.skills.hash baselineKey = some existing.hash then ledger.skills.delete baselineKey
        else ledger.skills }

/-- What `writeSkillsLock` writes for the caller's copy over the ledger it finds. -/
def merge (requested cur : Ledger) : Ledger where
  skills := requested.skills
  claims := cur.claims.rows.foldl Table.put requested.claims
  materializations := cur.materializations.rows.foldl Table.put requested.materializations

end Ledger

/-! ## Interleavings -/

/-- The lock file, and the copies that callers of `readSkillsLock` still hold. -/
structure LedgerWorld where
  disk : Option LedgerFile
  copies : Nat → Option Ledger

/-- The calls; each of the writing ones holds the ledger lock from its read to its write. -/
inductive LedgerCall
  | record (claim : SkillProjectionClaim)
  | remove (ident : SkillProjectionIdentity)
  | read (caller : Nat)
  | setHashes (caller : Nat) (skills : HashCache)
  | write (caller : Nat)

def LedgerWorld.opened (disk : Option LedgerFile) : LedgerWorld where
  disk := disk
  copies := fun _ => none

def LedgerWorld.claims (w : LedgerWorld) : Table SkillProjectionClaim.key := (readSkillsLock w.disk).claims

def ledgerStep (w : LedgerWorld) : LedgerCall → LedgerWorld
  | .record claim =>
    match assertValidClaim claim with
    | .error _ => w
    | .ok () =>
      let ledger := (readSkillsLock w.disk).recordSkillProjectionClaim claim
      { w with disk := some (writeSkillsLockUnlocked ledger) }
  | .remove ident =>
    match assertValidProjectionIdentity ident with
    | .error _ => w
    | .ok () =>
      match (readSkillsLock w.disk).removeSkillProjectionClaim ident with
      | none => w
      | some ledger => { w with disk := some (writeSkillsLockUnlocked ledger) }
  | .read caller => { w with copies := Function.update w.copies caller (some (readSkillsLock w.disk)) }
  | .setHashes caller skills =>
    { w with
      copies := Function.update w.copies caller
        ((w.copies caller).map fun copy => { copy with skills }) }
  | .write caller =>
    match w.copies caller with
    | none => w
    | some copy =>
      let ledger := copy.merge (readSkillsLock w.disk)
      { w with disk := some (writeSkillsLockUnlocked ledger) }

def authorityStep (claims : Table SkillProjectionClaim.key) : LedgerCall → Table SkillProjectionClaim.key
  | .record claim =>
    match assertValidClaim claim with
    | .error _ => claims
    | .ok () => claims.put claim
  | .remove ident =>
    match assertValidProjectionIdentity ident, Ledger.removable claims ident with
    | .ok (), some _ => claims.remove fun claim => claim.key = ident.key
    | _, _ => claims
  | _ => claims

def CopyCurrent (w : LedgerWorld) : LedgerCall → Prop
  | .write caller => ∀ copy, w.copies caller = some copy → ∀ claim ∈ copy.claims,
    ∃ cur ∈ w.claims, cur.key = claim.key
  | _ => True

/-! ## The claims after a step -/

def SameClaims (one alt : Table SkillProjectionClaim.key) : Prop := ∀ claim, claim ∈ one ↔ claim ∈ alt

variable {claims : Table SkillProjectionClaim.key} {w : LedgerWorld}

lemma mem_removable {ident existing} :
    Ledger.removable claims ident = some existing ↔ existing ∈ claims ∧ existing.identity = ident := by
  unfold Ledger.removable
  rw [filter_eq_some_iff, get_eq_some]
  constructor
  · rintro ⟨⟨mem, -⟩, same⟩
    exact ⟨mem, by simpa using same⟩
  · rintro ⟨mem, rfl⟩
    exact ⟨⟨mem, rfl⟩, by simp⟩

lemma SameClaims.removable {one alt} (same : SameClaims one alt)
    (ident : SkillProjectionIdentity) : Ledger.removable one ident = Ledger.removable alt ident := by
  apply Option.ext
  intro existing
  rw [mem_removable, mem_removable, same]

lemma SameClaims.step {one alt} (same : SameClaims one alt)
    (call : LedgerCall) : SameClaims (authorityStep one call) (authorityStep alt call) := by
  intro claim
  cases call with
  | record noted =>
    cases acc : assertValidClaim noted with
    | error _ =>
      simp only [authorityStep, acc]
      exact same claim
    | ok _ => simp only [authorityStep, acc, mem_put, same claim]
  | remove ident =>
    have hit := same.removable ident
    cases acc : assertValidProjectionIdentity ident with
    | error _ =>
      simp only [authorityStep, acc]
      exact same claim
    | ok _ =>
      cases exact_claim : Ledger.removable alt ident with
      | none =>
        simp only [authorityStep, acc, hit, exact_claim]
        exact same claim
      | some _ => simp only [authorityStep, acc, hit, exact_claim, mem_remove, same claim]
  | _ => exact same claim

lemma step_authority (w : LedgerWorld) {call} (writes : ∀ caller, call ≠ .write caller) :
    SameClaims (ledgerStep w call).claims (authorityStep w.claims call) := by
  have valid : ∀ claim ∈ w.claims, claim.Valid := fun claim mem => readSkillsLock_valid mem
  intro claim
  cases call with
  | write caller => exact absurd rfl (writes caller)
  | record noted =>
    cases acc : assertValidClaim noted with
    | error _ => simp only [ledgerStep, authorityStep, acc]
    | ok _ =>
      simp only [ledgerStep, authorityStep, acc]
      apply read_write_claims
      intro alt mem
      rcases mem_put.mp mem with rfl | ⟨old, -⟩
      · exact assertValidClaim_ok acc
      · exact valid alt old
  | remove ident =>
    cases acc : assertValidProjectionIdentity ident with
    | error _ => simp only [ledgerStep, authorityStep, acc]
    | ok _ =>
      have own : Ledger.removable (readSkillsLock w.disk).claims ident = Ledger.removable w.claims ident := rfl
      cases hit : Ledger.removable w.claims ident with
      | none => simp only [ledgerStep, authorityStep, Ledger.removeSkillProjectionClaim, acc, own, hit, map_none]
      | some existing =>
        simp only [ledgerStep, authorityStep, Ledger.removeSkillProjectionClaim, acc, own, hit, map_some]
        apply read_write_claims
        intro alt mem
        exact valid alt (mem_remove.mp mem).1
  | _ => exact Iff.rfl

def CopiesValid (w : LedgerWorld) : Prop :=
  ∀ caller copy, w.copies caller = some copy → ∀ claim ∈ copy.claims, claim.Valid

lemma CopiesValid.step {w} (valid : CopiesValid w) (call : LedgerCall) : CopiesValid (ledgerStep w call) := by
  intro caller copy held
  cases call with
  | record | write =>
    simp only [ledgerStep] at held
    split at held <;> exact valid caller copy held
  | remove ident =>
    simp only [ledgerStep] at held
    split at held
    · exact valid caller copy held
    · split at held <;> exact valid caller copy held
  | read reader =>
    simp only [ledgerStep, Function.update_apply] at held
    split at held
    · cases held
      exact fun claim mem => readSkillsLock_valid mem
    · exact valid caller copy held
  | setHashes owner skills =>
    simp only [ledgerStep, Function.update_apply] at held
    split at held
    · obtain ⟨pre, owned, rfl⟩ := map_eq_some_iff.mp held
      exact valid owner pre owned
    · exact valid caller copy held

lemma write_claims (valid : CopiesValid w) {caller : Nat} {copy}
    (held : w.copies caller = some copy) (claim : SkillProjectionClaim) :
    claim ∈ (ledgerStep w (.write caller)).claims ↔ claim ∈ w.claims ∨
        (claim ∈ copy.claims ∧ ∀ cur ∈ w.claims, cur.key ≠ claim.key) := by
  have merged : ∀ alt, alt ∈ (copy.merge (readSkillsLock w.disk)).claims ↔ alt ∈ w.claims ∨
        (alt ∈ copy.claims ∧ ∀ cur ∈ w.claims, cur.key ≠ alt.key) :=
    fun alt => mem_foldl_put (Table.unique _)
  have all_valid : ∀ alt ∈ (copy.merge (readSkillsLock w.disk)).claims, alt.Valid := by
    intro alt mem
    rcases (merged alt).mp mem with cur | ⟨old, -⟩
    · exact readSkillsLock_valid cur
    · exact valid caller copy held alt old
  have wrote := read_write_claims all_valid claim
  rw [merged] at wrote
  simp only [ledgerStep, held]
  exact wrote

lemma follows_iff (valid : CopiesValid w) (agree : SameClaims w.claims claims)
    (calls : List LedgerCall) : (∀ pre after, calls = pre ++ after →
      SameClaims (run ledgerStep w pre).claims (run authorityStep claims pre)) ↔
    Always ledgerStep CopyCurrent w calls := by
  induction calls generalizing w claims with
  | nil =>
    constructor
    · exact fun _ => trivial
    · intro _ pre after same
      obtain ⟨rfl, -⟩ := List.append_eq_nil_iff.mp same.symm
      exact agree
  | cons call calls ih =>
    have later := valid.step call
    -- the step agrees exactly where it writes a current copy
    have onward : SameClaims (ledgerStep w call).claims (authorityStep claims call) ↔
        CopyCurrent w call := by
      cases call with
      | write caller =>
        have kept : SameClaims w.claims (authorityStep claims (.write caller)) := agree
        constructor
        · intro same copy held claim mem
          by_contra missing
          have fresh : ∀ cur ∈ w.claims, cur.key ≠ claim.key := fun cur there equal => missing ⟨cur, there, equal⟩
          have wrote := (write_claims valid held claim).mpr (.inr ⟨mem, fresh⟩)
          exact fresh claim ((agree claim).mpr ((same claim).mp wrote)) rfl
        · intro cur claim
          rw [← kept claim]
          cases held : w.copies caller with
          | none => simp only [ledgerStep, held]
          | some copy =>
            rw [write_claims valid held]
            constructor
            · rintro (there | ⟨mem, fresh⟩)
              · exact there
              · obtain ⟨owner, there, same⟩ := cur copy held claim mem
                exact absurd same (fresh owner there)
            · exact Or.inl
      | record claim =>
        have stepped := @step_authority w (.record claim) nofun
        exact ⟨fun _ => trivial, fun _ alt => (stepped alt).trans (agree.step _ alt)⟩
      | remove ident =>
        have stepped := @step_authority w (.remove ident) nofun
        exact ⟨fun _ => trivial, fun _ alt => (stepped alt).trans (agree.step _ alt)⟩
      | read caller =>
        have stepped := @step_authority w (.read caller) nofun
        exact ⟨fun _ => trivial, fun _ alt => (stepped alt).trans (agree.step _ alt)⟩
      | setHashes caller skills =>
        have stepped := @step_authority w (.setHashes caller skills) nofun
        exact ⟨fun _ => trivial, fun _ alt => (stepped alt).trans (agree.step _ alt)⟩
    constructor
    · intro follows
      have next := follows [call] calls rfl
      refine ⟨onward.mp next, (ih later next).mp ?_⟩
      intro pre after same
      exact follows (call :: pre) after (by rw [same]; rfl)
    · rintro ⟨cur, rest⟩ pre after same
      cases pre with
      | nil => exact agree
      | cons first pre =>
        obtain ⟨rfl, tail⟩ := List.cons.inj same
        exact (ih later (onward.mpr cur)).mpr rest pre after tail

/-- The claims are those of record and remove calls alone exactly while no stale claim is written back. -/
theorem claims_follow_calls (disk : Option LedgerFile) (calls : List LedgerCall) :
    (∀ pre after, calls = pre ++ after → SameClaims (run ledgerStep (.opened disk) pre).claims
        (run authorityStep (readSkillsLock disk).claims pre)) ↔ Always ledgerStep CopyCurrent (.opened disk) calls :=
  follows_iff (fun _ _ held => by cases held) (fun _ => Iff.rfl) calls

namespace Sample

def skillClaim : SkillProjectionClaim :=
  { agentType := "codex", agentId := "agent", projectId := "project", skillKey := "notes"
    hash := "h" }

def staleWrite : List LedgerCall := [.record skillClaim, .read 0, .remove skillClaim.identity, .write 0]

end Sample

open Sample

/-- The removed claim is back. -/
theorem stale_write_restores_claim : ¬∀ pre after, staleWrite = pre ++ after →
      SameClaims (run ledgerStep (.opened none) pre).claims (run authorityStep (readSkillsLock none).claims pre) := by
  intro follows
  have restored : skillClaim ∈ (run ledgerStep (.opened none) staleWrite).claims := mem_rows.mp (by decide +kernel)
  have same := (follows staleWrite [] rfl skillClaim).mp restored
  cases same

end Clawdi.SkillSync
