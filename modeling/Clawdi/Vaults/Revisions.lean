import Mathlib.Data.Finset.Sort
import Clawdi.Lib.Transition
import Clawdi.Vaults.Transactions

namespace Clawdi.Vaults
open Option
variable {ι P τ ρ υ β γ δ η : Type}

def statements [DecidableEq γ] (crypto : Crypto β γ) (v : Vault β γ) :
    Action β → Option (List (Vault β γ → Vault β γ))
  | .wait duration => some [fun v => { v with now := v.now + duration }]
  | .create body => (v.createRequest crypto body).map fun after => [fun _ => after]
  | .supply body =>
    match v.tokenRequest crypto body.token with
    | none => none
    | some row =>
      if (v.supply crypto body).isNone then none
      else some (body.fields.map (fun field v => v.write crypto row.sectionName field.1 field.2) ++
        [Vault.notifyVaultChanged, fun draft => { draft with
          requests := draft.requests.update (VaultSecretRequest.consume row.id body.names (body.suppliedAt v.now))
            (VaultSecretRequest.id_supplied v body row)
          now := body.suppliedAt v.now }])
  | .upsert sect fields =>
    some (fields.map (fun field v => v.write crypto sect field.1 field.2) ++
      [fun v => v.conflictVaultRequests sect (fields.map Prod.fst), Vault.notifyVaultChanged])
  | .delete sect fields globalDelete projectCount =>
    let doomed := fields.dedup.filter fun field => (v.items sect field).isSome
    if doomed ≠ [] ∧ ¬globalDelete ∧ projectCount > 1 then none
    else if doomed = [] then some []
    else some (doomed.map (fun field v => v.setField sect field none) ++
      [fun v => v.conflictVaultRequests sect doomed, Vault.notifyVaultChanged])
  | .copy src sect fields stripPrefix =>
    (Vault.copiedFields crypto src stripPrefix fields).map fun copied =>
      if copied = [] then []
      else copied.map (fun field v => v.write crypto sect field.1 field.2) ++
        [fun v => v.conflictVaultRequests sect (copied.map Prod.fst), Vault.notifyVaultChanged]

structure StoredVault (P β γ : Type) where
  name : String
  slug : String
  attachments : Finset P
  vault : Vault β γ

structure RuntimeVault (P : Type) where
  name : String
  slug : String
  projectIds : List P
  contentVersion : ℕ
deriving DecidableEq

structure RuntimeVaultField where
  id : ℕ
  sectionName : Name
  name : Name
  references : List String
  value : Option String

abbrev Fields := Name → Name → Option RuntimeVaultField

/-- The SHA-256 digests of a snapshot, of the JSON text that they are taken from, and
`urllib.parse.quote`. -/
structure Digests (ι P υ δ η : Type) where
  revision : ι × RuntimeVault P → δ
  etag : υ × (ι → Option (RuntimeVault P × δ)) → η
  quote : String → String
  projectText : P → String

def exactVaultReference (digests : Digests ι P υ δ η) (proj : P) (slug : String) (sect field : Name) : String :=
  let parts := ["project", digests.projectText proj, "vault", slug] ++
    (if sect = [] then [] else ["section", String.ofList sect]) ++
    ["field", String.ofList field]
  "clawdi://" ++ "/".intercalate (parts.map digests.quote)

/-- A transaction waits for the Vault's lock, and from there on keeps its writes to itself. -/
inductive Transaction (ι β γ : Type) where
  | locked (vault : ι) (act : Action β)
  | running (vault : ι) (draft : Vault β γ) (remaining : List (Vault β γ → Vault β γ))

abbrev Inventory (ι P δ : Type) := ι → Option (RuntimeVault P × δ)

/-- What a client has read, the fields it has with their revisions, and its last etag. -/
structure Client (ι P δ η : Type) where
  reading : Option (Inventory ι P δ × η) := none
  obtained : ι → List (δ × Fields) := fun _ => []
  etag : Option η := none
  listed : ι → Option δ := fun _ => none

structure World (ι P τ ρ β γ δ η : Type) where
  vaults : ι → StoredVault P β γ
  locks : ι → Option τ
  transactions : τ → Option (Transaction ι β γ)
  clients : ρ → Client ι P δ η

/-- `user` tells users and agents apart, and `sources` are the projects whose Vaults the agent
sees. -/
inductive Event (ι P τ ρ υ β δ : Type) where
  | lock (t : τ) (vault : ι) (act : Action β)
  | load (t : τ)
  | execute (t : τ)
  | commit (t : τ)
  | rollback (t : τ)
  | attach (vault : ι) (proj : P)
  | detach (vault : ι) (proj : P)
  | metadata (client : ρ) (user : υ) (sources : Finset P)
  | values (client : ρ) (revisions : ι → Option δ)
  | abandon (client : ρ)

section
variable [LinearOrder P] [DecidableEq δ]

def RuntimeVault.of (was : StoredVault P β γ) (sources : Finset P) : Option (RuntimeVault P) :=
  let projects := was.attachments.filter (· ∈ sources)
  if projects = ∅ then none
  else some {
    name := was.name
    slug := was.slug
    projectIds := projects.sort (· ≤ ·)
    contentVersion := was.vault.runtimeRevision }

def inventory (digests : Digests ι P υ δ η) (vaults : ι → StoredVault P β γ) (sources : Finset P) : Inventory ι P δ :=
  fun i => (RuntimeVault.of (vaults i) sources).map fun e => (e, digests.revision (i, e))

def fieldsOf (crypto : Crypto β γ) (digests : Digests ι P υ δ η) (e : RuntimeVault P) (v : Vault β γ) : Fields :=
  fun sect field => (v.items sect field).map fun item => {
    id := item.id
    sectionName := sect
    name := field
    references := e.projectIds.map fun proj =>
      exactVaultReference digests proj e.slug sect field
    value := crypto.decrypt item.encryptedValue item.nonce }

/-- `vault_snapshot_values`: the fields of the Vaults whose revision the client does not have. -/
def snapshotValues (crypto : Crypto β γ) (digests : Digests ι P υ δ η)
    (vaults : ι → StoredVault P β γ) (listed : Inventory ι P δ) (revisions : ι → Option δ) :
    ι → Option (δ × Fields) :=
  fun i => match listed i with
    | none => none
    | some (e, rev) =>
      if revisions i = some rev then none
      else some (rev, fieldsOf crypto digests e (vaults i).vault)

def Client.receive (client : Client ι P δ η) (listed : Inventory ι P δ) (etag : η)
    (reply : ι → Option (δ × Fields)) : Client ι P δ η where
  reading := none
  obtained i := (reply i).toList ++ client.obtained i
  etag := some etag
  listed i := (listed i).map Prod.snd

end

section
variable [DecidableEq ι] [LinearOrder P] [DecidableEq τ] [DecidableEq ρ] [DecidableEq γ]
  [DecidableEq δ]

namespace World
variable (w : World ι P τ ρ β γ δ η)

def setVault (i : ι) (was : StoredVault P β γ) : World ι P τ ρ β γ δ η :=
  { w with vaults := Function.update w.vaults i was }

def setTransaction (t : τ) (tx : Option (Transaction ι β γ)) : World ι P τ ρ β γ δ η :=
  { w with transactions := Function.update w.transactions t tx }

def setLock (i : ι) (holder : Option τ) : World ι P τ ρ β γ δ η :=
  { w with locks := Function.update w.locks i holder }

def setClient (c : ρ) (client : Client ι P δ η) : World ι P τ ρ β γ δ η :=
  { w with clients := Function.update w.clients c client }

def finish (t : τ) (i : ι) : World ι P τ ρ β γ δ η := (w.setTransaction t none).setLock i none

end World

def World.step (crypto : Crypto β γ) (digests : Digests ι P υ δ η) (w : World ι P τ ρ β γ δ η) :
    Event ι P τ ρ υ β δ → World ι P τ ρ β γ δ η
  | .lock t i act =>
    if w.transactions t = none ∧ w.locks i = none then
      (w.setTransaction t (some (.locked i act))).setLock i (some t)
    else w
  | .load t =>
    match w.transactions t with
    | some (.locked i act) =>
      match statements crypto (w.vaults i).vault act with
      | none => w.finish t i
      | some remaining => w.setTransaction t (some (.running i (w.vaults i).vault remaining))
    | _ => w
  | .execute t =>
    match w.transactions t with
    | some (.running i draft (stmt :: remaining)) => w.setTransaction t (some (.running i (stmt draft) remaining))
    | _ => w
  | .commit t =>
    match w.transactions t with
    | some (.running i draft []) => (w.setVault i { w.vaults i with vault := draft }).finish t i
    | _ => w
  | .rollback t =>
    match w.transactions t with
    | some (.locked i _) | some (.running i _ _) => w.finish t i
    | none => w
  | .attach i proj => w.setVault i { w.vaults i with attachments := insert proj (w.vaults i).attachments }
  | .detach i proj => w.setVault i { w.vaults i with attachments := (w.vaults i).attachments.erase proj }
  | .metadata c user sources =>
    let listed := inventory digests w.vaults sources
    w.setClient c { w.clients c with reading := some (listed, digests.etag (user, listed)) }
  | .values c revisions =>
    match (w.clients c).reading with
    | none => w
    | some (listed, etag) => w.setClient c ((w.clients c).receive listed etag
        (snapshotValues crypto digests w.vaults listed revisions))
  | .abandon c => w.setClient c { w.clients c with reading := none }

end

structure World.Initial (w : World ι P τ ρ β γ δ η) : Prop where
  locks : ∀ i, w.locks i = none
  transactions : ∀ t, w.transactions t = none
  clients : ∀ c, w.clients c = {}

open Transition
variable {ι P τ ρ υ β γ δ η : Type} {crypto : Crypto β γ}

def perform (statements : List (Vault β γ → Vault β γ)) (v : Vault β γ) : Vault β γ :=
  statements.foldl (fun v stmt => stmt v) v

lemma perform_append (first snd : List (Vault β γ → Vault β γ)) (v : Vault β γ) :
    perform (first ++ snd) v = perform snd (perform first v) := List.foldl_append

variable (sect : Name) (v : Vault β γ) (fields : List (Name × String)) {after : Vault β γ}

lemma perform_writes (v : Vault β γ) : perform (fields.map fun field v => v.write crypto sect field.1 field.2) v =
      v.writeAll crypto sect fields := List.foldl_map

lemma perform_removals (fields : List Name) (v : Vault β γ) :
    perform (fields.map fun field v => v.setField sect field none) v = v.removeAll sect fields := List.foldl_map

lemma statements_perform [DecidableEq γ] (act : Action β) :
    (statements crypto v act).map (perform · v) = attempt crypto v act := by
  cases act with
  | wait duration => rfl
  | create body =>
    rw [statements, attempt, map_map]
    exact congrFun map_id _
  | supply body =>
    rw [statements, attempt]
    cases hit : v.tokenRequest crypto body.token with
    | none =>
      rw [Vault.supply, hit]
      rfl
    | some row =>
      cases done : v.supply crypto body with
      | none => rfl
      | some after =>
        obtain ⟨alt, supplied, rfl⟩ := supply_eq done
        obtain rfl : row = alt := Option.some.inj (hit.symm.trans supplied.token)
        dsimp only
        rw [isNone_some, if_neg Bool.false_ne_true, map_some, perform_append, perform_writes]
        rfl
  | upsert sect fields =>
    rw [statements, attempt, map_some, perform_append, perform_writes]
    rfl
  | delete sect fields globalDelete projectCount =>
    rw [statements, attempt, Vault.deleteOwnedVaultItems]
    split_ifs
    · rfl
    · rfl
    · rw [map_some, perform_append, perform_removals]
      rfl
  | copy src sect fields stripPrefix =>
    rw [statements, attempt, Vault.copyVaultItems, map_map]
    congr 1
    funext copied
    rw [Function.comp_apply]
    split_ifs
    · rfl
    · rw [perform_append, perform_writes]
      rfl

def Advances (after : Vault β γ) : Prop :=
  v.runtimeRevision < after.runtimeRevision ∨ after.runtimeRevision = v.runtimeRevision ∧ after.items = v.items

lemma Advances.refl : Advances v v := Or.inr ⟨rfl, rfl⟩

lemma Advances.trans {v middle} (first : Advances v middle) (snd : Advances middle after) : Advances v after := by
  rcases first with more | ⟨same, items⟩
  · left
    rcases snd with further | ⟨same, -⟩ <;> omega
  · rcases snd with further | ⟨sameLater, later⟩
    · left
      omega
    · exact .inr ⟨sameLater.trans same, later.trans items⟩

lemma Advances.le {v} (advances : Advances v after) : v.runtimeRevision ≤ after.runtimeRevision := by
  rcases advances with more | ⟨same, -⟩ <;> omega

lemma writeAll_revision (v : Vault β γ) : (v.writeAll crypto sect fields).runtimeRevision = v.runtimeRevision := by
  induction fields generalizing v with
  | nil => rfl
  | cons field fields ih => exact ih (v.write crypto sect field.1 field.2)

lemma removeAll_revision (fields : List Name) (v : Vault β γ) :
    (v.removeAll sect fields).runtimeRevision = v.runtimeRevision := by
  induction fields generalizing v with
  | nil => rfl
  | cons field fields ih => exact ih (v.setField sect field none)

lemma advances_notify {v wrote : Vault β γ} (same : wrote.runtimeRevision = v.runtimeRevision) :
    Advances v wrote.notifyVaultChanged := by
  left
  show v.runtimeRevision < wrote.runtimeRevision + 1
  omega

lemma attempt_advances [DecidableEq γ] {v act} (done : attempt crypto v act = some after) : Advances v after := by
  cases act with
  | wait duration =>
    obtain rfl := Option.some.inj done
    exact .inr ⟨rfl, rfl⟩
  | create body =>
    change v.createRequest crypto body = some after at done
    unfold Vault.createRequest at done
    dsimp only at done
    split_ifs at done
    obtain rfl := Option.some.inj done
    exact .inr ⟨rfl, rfl⟩
  | supply body =>
    obtain ⟨row, -, rfl⟩ := supply_eq done
    left
    have same : (v.writeAll crypto row.sectionName body.fields).runtimeRevision = v.runtimeRevision :=
      writeAll_revision row.sectionName body.fields v
    show v.runtimeRevision < (v.writeAll crypto row.sectionName body.fields).runtimeRevision + 1
    omega
  | upsert sect fields =>
    obtain rfl := Option.some.inj done
    exact advances_notify (writeAll_revision sect fields v)
  | delete sect fields globalDelete projectCount =>
    change v.deleteOwnedVaultItems _ _ _ _ = some after at done
    unfold Vault.deleteOwnedVaultItems at done
    dsimp only at done
    split_ifs at done
    · obtain rfl := Option.some.inj done
      exact Advances.refl v
    · obtain rfl := Option.some.inj done
      exact advances_notify (removeAll_revision sect _ v)
  | copy src sect fields stripPrefix =>
    change v.copyVaultItems crypto _ _ _ _ = some after at done
    unfold Vault.copyVaultItems at done
    rw [map_eq_some_iff] at done
    obtain ⟨copied, -, rfl⟩ := done
    split_ifs
    · exact Advances.refl v
    · exact advances_notify (writeAll_revision sect copied v)

end Clawdi.Vaults
