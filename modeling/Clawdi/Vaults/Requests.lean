import Clawdi.Lib.Table
import Mathlib.Logic.Function.Basic

namespace Clawdi.Vaults

abbrev Name := List Char

local instance lawfulName : LawfulBEq Name := inferInstance

structure VaultItem (β : Type) where
  id : ℕ
  encryptedValue : β
  nonce : ℕ
deriving DecidableEq

/-- `vault_crypto` under the installation's key; the fixed lengths make a digest one of three values. -/
structure Crypto (β γ : Type) where
  encrypt : String → ℕ → β
  decrypt : β → ℕ → Option String
  itemDigest : VaultItem β → γ
  tokenDigest : String → γ

structure VaultSecretRequest (γ : Type) where
  id : ℕ
  tokenHash : γ
  sectionName : Name
  fields : List Name
  fieldBaselines : Name → Option (Option γ)
  extraFields : List Name := []
  expiresAt : ℕ
  suppliedAt : Option ℕ := none
  conflictedAt : Option ℕ := none

/-- One Vault with its items, by section and name, and its secret requests. -/
structure Vault (β γ : Type) where
  items : Name → Name → Option (VaultItem β)
  requests : Table (VaultSecretRequest.id (γ := γ))
  runtimeRevision : ℕ
  nextItem : ℕ
  nextNonce : ℕ
  nextRequest : ℕ
  now : ℕ
  writes : Name → Name → ℕ

variable {β γ : Type}
namespace VaultSecretRequest
variable (row : VaultSecretRequest γ) (now : ℕ)

def terms : ℕ × γ × Name × List Name × (Name → Option (Option γ)) :=
  (row.id, row.tokenHash, row.sectionName, row.fields, row.fieldBaselines)

def pending : Bool := row.suppliedAt.isNone && row.conflictedAt.isNone && decide (now < row.expiresAt)

def retire : VaultSecretRequest γ :=
  { row with conflictedAt := some now, expiresAt := min row.expiresAt now }

def overlaps (sect : Name) (fields : List Name) : Bool :=
  row.sectionName = sect ∧ ∃ field ∈ fields, field ∈ row.fields

def fence (sect : Name) (fields : List Name) (now : ℕ) (row : VaultSecretRequest γ) : VaultSecretRequest γ :=
  if row.suppliedAt.isNone && row.conflictedAt.isNone && row.overlaps sect fields then
    row.retire now
  else row

lemma id_fence (sect : Name) (fields : List Name) (now : ℕ) (row : VaultSecretRequest γ) :
    (row.fence sect fields now).id = row.id := by
  unfold fence
  split <;> rfl

end VaultSecretRequest

namespace Vault

def setField (v : Vault β γ) (sect field : Name) (item : Option (VaultItem β)) : Vault β γ :=
  { v with
    items := Function.update v.items sect (Function.update (v.items sect) field item)
    writes := Function.update v.writes sect
      (Function.update (v.writes sect) field (v.writes sect field + 1)) }

variable (c : Crypto β γ) (v : Vault β γ) (sect : Name) (fields : List Name) (stripPrefix field : Name)

def write (plain : String) : Vault β γ :=
  let id := match v.items sect field with
    | some item => item.id
    | none => v.nextItem
  { v.setField sect field (some ⟨id, c.encrypt plain v.nextNonce, v.nextNonce⟩) with
    nextItem := v.nextItem + 1
    nextNonce := v.nextNonce + 1 }

def writeAll (fields : List (Name × String)) : Vault β γ :=
  fields.foldl (fun v field => v.write c sect field.1 field.2) v

def removeAll : Vault β γ := fields.foldl (fun v field => v.setField sect field none) v

def conflictVaultRequests : Vault β γ :=
  { v with
    requests := v.requests.update (VaultSecretRequest.fence sect fields v.now)
      (VaultSecretRequest.id_fence sect fields v.now) }

def notifyVaultChanged : Vault β γ :=
  { v with runtimeRevision := v.runtimeRevision + 1 }

def upsertOwnedVaultItems (fields : List (Name × String)) : Vault β γ :=
  ((v.writeAll c sect fields).conflictVaultRequests sect (fields.map Prod.fst)).notifyVaultChanged

def deleteOwnedVaultItems (globalDelete : Bool) (projectCount : ℕ) : Option (Vault β γ) :=
  let doomed := fields.dedup.filter fun field => (v.items sect field).isSome
  if doomed ≠ [] ∧ ¬globalDelete ∧ projectCount > 1 then none
  else if doomed = [] then some v
  else some (((v.removeAll sect doomed).conflictVaultRequests sect doomed).notifyVaultChanged)

def targetName : Name :=
  if stripPrefix ≠ [] ∧ stripPrefix <+: field ∧ field.drop stripPrefix.length ≠ [] then
    field.drop stripPrefix.length
  else field

/-- The names and values that a copy writes; `none` where an item cannot be decrypted. -/
def copiedFields (c : Crypto β γ) (src : Name → Option (VaultItem β)) (stripPrefix : Name) :
    List Name → Option (List (Name × String))
  | [] => some []
  | field :: fields =>
    match src field with
    | none => copiedFields c src stripPrefix fields
    | some item =>
      match c.decrypt item.encryptedValue item.nonce with
      | none => none
      | some plain => (copiedFields c src stripPrefix fields).map fun copied =>
          (targetName stripPrefix field, plain) :: copied

def copyVaultItems (src : Name → Option (VaultItem β)) (sect : Name) (fields : List Name)
    (stripPrefix : Name) : Option (Vault β γ) :=
  (copiedFields c src stripPrefix fields).map fun copied =>
    if copied = [] then v
    else ((v.writeAll c sect copied).conflictVaultRequests sect (copied.map Prod.fst)).notifyVaultChanged

end Vault

variable {β γ : Type} [DecidableEq γ]

def fieldBaseline (c : Crypto β γ) (item : Option (VaultItem β)) : Option γ := item.map c.itemDigest

def VaultSecretRequest.baseline (row : VaultSecretRequest γ) (field : Name) : Option γ :=
  (row.fieldBaselines field).join

def fieldsConflict (c : Crypto β γ) (row : VaultSecretRequest γ) (old : Name → Option (VaultItem β)) : Bool :=
  row.conflictedAt.isSome || !(row.fields.all fun field => (row.fieldBaselines field).isSome) ||
    row.fields.any fun field => fieldBaseline c (old field) ≠ row.baseline field

structure Creation where
  sectionName : Name
  fields : List Name
  token : String
  expiresIn : ℕ
  /-- How long the transaction takes up to its retirements, and from there to its row. -/
  delays : ℕ × ℕ

structure Supply where
  token : String
  fields : List (Name × String)
  distinct : (fields.map Prod.fst).Nodup
  /-- How long the transaction takes to each of its later readings of the clock. -/
  delays : ℕ × ℕ × ℕ

namespace Supply
variable (body : Supply) (now : ℕ)

def names : List Name := body.fields.map Prod.fst
def describedAt : ℕ := now + body.delays.1
def selectedAt : ℕ := body.describedAt now + body.delays.2.1
def suppliedAt : ℕ := body.selectedAt now + body.delays.2.2

end Supply

namespace VaultSecretRequest

def succeed (sect : Name) (fields : List Name) (queried now : ℕ)
    (row : VaultSecretRequest γ) : VaultSecretRequest γ :=
  if row.pending queried && row.overlaps sect fields then row.retire now else row

omit [DecidableEq γ] in
lemma id_succeed (sect : Name) (fields : List Name) (queried now : ℕ)
    (row : VaultSecretRequest γ) : (row.succeed sect fields queried now).id = row.id := by
  unfold succeed
  split <;> rfl

def consume (id : ℕ) (names : List Name) (now : ℕ) (row : VaultSecretRequest γ) : VaultSecretRequest γ :=
  if row.id = id then { row with
    extraFields := names.filter fun name => name ∉ row.fields
    suppliedAt := some now }
  else row

omit [DecidableEq γ] in
lemma id_consume (id : ℕ) (names : List Name) (now : ℕ) (row : VaultSecretRequest γ) :
    (row.consume id names now).id = row.id := by
  unfold consume
  split <;> rfl

omit [DecidableEq γ] in
lemma id_supplied (v : Vault β γ) (body : Supply) (row alt : VaultSecretRequest γ) :
    (alt.consume row.id body.names (body.suppliedAt v.now)).id = alt.id := id_consume _ _ _ _

end VaultSecretRequest

namespace Vault
variable (c : Crypto β γ) (v : Vault β γ) (body : Creation)

def requestOf : VaultSecretRequest γ where
  id := v.nextRequest
  tokenHash := c.tokenDigest body.token
  sectionName := body.sectionName
  fields := body.fields
  fieldBaselines field :=
    if field ∈ body.fields then some (fieldBaseline c (v.items body.sectionName field))
    else (v.items body.sectionName field).map fun item => fieldBaseline c (some item)
  expiresAt := v.now + body.delays.1 + body.delays.2 + body.expiresIn

/-- `none` where the fields are already requested, or the token was given out before. -/
def createRequest : Option (Vault β γ) :=
  let claimed := v.requests.rows.any fun row =>
    row.pending v.now && row.overlaps body.sectionName body.fields &&
      !fieldsConflict c row (v.items body.sectionName)
  let known := v.requests.rows.any fun row => row.tokenHash = c.tokenDigest body.token
  if claimed || known then none
  else some { v with
    requests := (v.requests.update
      (VaultSecretRequest.succeed body.sectionName body.fields v.now (v.now + body.delays.1))
      (VaultSecretRequest.id_succeed _ _ _ _)).put (v.requestOf c body)
    nextRequest := v.nextRequest + 1
    now := v.now + body.delays.1 + body.delays.2 }

def tokenRequest (token : String) : Option (VaultSecretRequest γ) :=
  (v.requests.rows.find? fun row => row.tokenHash = c.tokenDigest token).filter fun row =>
    row.pending v.now

def checkSelection (row : VaultSecretRequest γ) (names : List Name) (now : ℕ) : Bool :=
  let chosen := (row.fields ++ names).dedup
  let extras := names.filter fun name => name ∉ row.fields
  chosen.length ≤ 32 &&
    (chosen.all fun name =>
      fieldBaseline c (v.items row.sectionName name) = row.baseline name) &&
    v.requests.rows.all fun alt =>
      !(alt.id ≠ row.id && alt.pending now && alt.overlaps row.sectionName extras &&
        !fieldsConflict c alt (v.items row.sectionName))

def supply (body : Supply) : Option (Vault β γ) :=
  match v.tokenRequest c body.token with
  | none => none
  | some row =>
    if row.expiresAt ≤ body.describedAt v.now ∨ fieldsConflict c row (v.items row.sectionName) then none
    else if ¬∀ field ∈ row.fields, field ∈ body.names then none
    else if !v.checkSelection c row body.names (body.selectedAt v.now) then none
    else
      let wrote := (v.writeAll c row.sectionName body.fields).notifyVaultChanged
      some { wrote with
        requests := wrote.requests.update (VaultSecretRequest.consume row.id body.names (body.suppliedAt v.now))
          (VaultSecretRequest.id_supplied v body row)
        now := body.suppliedAt v.now }

end Vault

/-- The transactions on a Vault, one after the other as its row lock orders them. -/
inductive Action (β : Type) where
  | wait (duration : ℕ)
  | create (body : Creation)
  | supply (body : Supply)
  | upsert (sect : Name) (fields : List (Name × String))
  | delete (sect : Name) (fields : List Name) (globalDelete : Bool) (projectCount : ℕ)
  | copy (src : Name → Option (VaultItem β)) (sect : Name) (fields : List Name)
    (stripPrefix : Name)

def attempt (c : Crypto β γ) (v : Vault β γ) : Action β → Option (Vault β γ)
  | .wait duration => some { v with now := v.now + duration }
  | .create body => v.createRequest c body
  | .supply body => v.supply c body
  | .upsert sect fields => some (v.upsertOwnedVaultItems c sect fields)
  | .delete sect fields globalDelete projectCount => v.deleteOwnedVaultItems sect fields globalDelete projectCount
  | .copy src sect fields stripPrefix => v.copyVaultItems c src sect fields stripPrefix

def step (c : Crypto β γ) (v : Vault β γ) (act : Action β) : Vault β γ := (attempt c v act).getD v

structure Initial (v : Vault β γ) : Prop where
  requests : v.requests = Table.empty

end Clawdi.Vaults
