import Clawdi.Lib.Program
import Mathlib

namespace Clawdi.CliUpdate

/-- A directory with a CLI, `packages/<version>` or of the image; an active target is its `bin/clawdi`. -/
inductive Prefix (V : Type) where
  | package (version : V)
  | image (name : String)
deriving DecidableEq

/-- `RuntimeCliVerification`: when an executable was verified, and its device, inode, size and
modification time. -/
structure Verification (ι : Type) where
  verifiedAt : ℕ
  identity : ι
deriving DecidableEq

structure Target (V : Type) where
  activeTarget : Prefix V
  version : V
deriving DecidableEq

inductive Failure (V : Type) where
  | untrusted (tgt : Prefix V)
  | unverified (tgt : Prefix V)
  | changed (tgt : Prefix V)
  | bootstrapMismatch
  | noRollbackTarget
  | npm (version : V)
  | reported (version exp : V)

inductive Reason (V : Type) where
  | interruptedActivation
  | recoveryVerification
  | installation (err : Failure V)
  | requested (reason : String)

structure Bad (V : Type) where
  version : V
  reason : Reason V
  attempts : ℕ
  failedAt : ℕ
  retryAt : ℕ

structure State (V ι : Type) where
  activeTarget : Prefix V
  version : V
  verification : Verification ι
  previous : Option (Target V)
  bad : Option (Bad V)

inductive Receipt (V ι : Type) where
  | state (st : State V ι)
  | bootstrap (tgt : Target V)

def Receipt.parse {V ι : Type} : Receipt V ι → Option (State V ι)
  | .state rcpt => some rcpt
  | .bootstrap _ => none

def Receipt.initial {V ι : Type} : Receipt V ι → Option (Target V)
  | .state _ => none
  | .bootstrap tgt => some tgt

structure Verified (V ι : Type) where
  activeTarget : Prefix V
  version : V
  verification : Verification ι

/-- A target before it is run: is it safe, and its identity if it is executable. -/
structure Inspection (ι : Type) where
  trusted : Bool
  identity : Option ι

inductive Op (V ι : Type) where
  | receipt
  | link
  | now
  | inspect (tgt : Prefix V)
  /-- Run a private copy of the executable: its version if it passes. -/
  | probe (tgt : Prefix V)
  /-- Switch the active link. -/
  | swap (tgt : Prefix V)
  | unlink
  | write (st : State V ι)
  /-- Whether `npm install` into the version's package prefix succeeds. -/
  | install (version : V)
  /-- Remove every package prefix but those to keep. -/
  | prune (keep : List (Prefix V))

abbrev Res {V ι : Type} : Op V ι → Type
  | .receipt => Option (Receipt V ι)
  | .link => Option (Prefix V)
  | .now => ℕ
  | .inspect _ => Inspection ι
  | .probe _ => Option V
  | .swap _ | .unlink | .write _ | .prune _ => Unit
  | .install _ => Bool

abbrev Update (V ι α : Type) := ExceptT (Failure V) (Program (Op V ι) Res) α

variable {V ι α : Type}

def perform (op : Op V ι) : Update V ι (Res op) := Program.operation op

def attempt (x : Update V ι α) : Update V ι (Except (Failure V) α) :=
  tryCatch (Except.ok <$> x) fun err => pure (.error err)

def verifyCacheMaxAge : ℕ := 300000
def retryInitialBackoff : ℕ := 60000
def retryMaxBackoff : ℕ := 3600000

inductive ReconciliationStatus where
  | unchanged
  | rolledBack
deriving DecidableEq

structure Reconciliation where
  status : ReconciliationStatus
  selfReexec : Bool

inductive UpdateStatus where
  | notRequested
  | current
  | installed
  | deferred
  | error

structure UpdateResult (V : Type) where
  status : UpdateStatus
  activeTarget : Option (Prefix V) := none
  version : Option V := none
  retryAt : Option ℕ := none
  selfReexec : Bool := false

inductive RollbackStatus (V : Type) where
  | notPending
  | rolledBack
  | error (err : Failure V)

/-- `RuntimeCliRollbackResult`: the versions and targets are those of the state. -/
structure RollbackResult (V ι : Type) where
  status : RollbackStatus V
  state : Option (State V ι)

variable {V ι : Type} [DecidableEq V] [DecidableEq ι]

def reconciliationResult (status : ReconciliationStatus) (activeVersion runningVersion : Option V)
    (requiresHandoff : Bool) : Reconciliation where
  status := status
  selfReexec := requiresHandoff && runningVersion.isSome && activeVersion.isSome &&
    decide (activeVersion ≠ runningVersion)

def Verification.fresh (verification : Verification ι) (now : ℕ) : Bool :=
  verification.verifiedAt ≤ now ∧ now < verification.verifiedAt + verifyCacheMaxAge

def Bad.active (bad : Bad V) (now : ℕ) : Bool := now < bad.retryAt

def markBadVersion (prev : Option (Bad V)) (version : V) (reason : Reason V) : Update V ι (Bad V) := do
  let attempts := match prev with
    | some bad => if bad.version = version then bad.attempts + 1 else 1
    | none => 1
  let failedAt ← perform .now
  return {
    version, reason, attempts, failedAt
    retryAt := failedAt + min (retryInitialBackoff * 2 ^ (attempts - 1)) retryMaxBackoff }

def readCliState : Update V ι (Option (State V ι)) := do
  return (← perform .receipt).bind Receipt.parse

def tryVerifyCliTarget (tgt : Prefix V) (version : Option V) (st : Option (State V ι)) :
    Update V ι (Option (Verified V ι)) := do
  let pre ← perform (.inspect tgt)
  if ¬pre.trusted then throw (.untrusted tgt)
  match pre.identity with
  | none => return none
  | some ident =>
    let now ← perform .now
    match st.filter fun st => st.activeTarget = tgt ∧ some st.version = version ∧
        st.verification.identity = ident ∧ st.verification.fresh now with
    | some st => return some ⟨tgt, st.version, st.verification⟩
    | none =>
      match ← perform (.probe tgt) with
      | none => return none
      | some hit =>
        if version.any (· ≠ hit) then return none
        let after ← perform (.inspect tgt)
        if after.identity ≠ some ident then return none
        return some ⟨tgt, hit, ⟨← perform .now, ident⟩⟩

def requireVerifiedCliTarget (tgt : Prefix V) (version : Option V) : Update V ι (Verified V ι) := do
  match ← tryVerifyCliTarget tgt version none with
  | none => throw (.unverified tgt)
  | some verified => return verified

def writeCliState (active : Verified V ι) (prev : Option (Target V)) (bad : Option (Bad V)) : Update V ι Unit := do
  let cur ← perform (.inspect active.activeTarget)
  if cur.identity ≠ some active.verification.identity then throw (.changed active.activeTarget)
  perform (.write ⟨active.activeTarget, active.version, active.verification, prev, bad⟩)

def State.active (st : State V ι) : Verified V ι := ⟨st.activeTarget, st.version, st.verification⟩
def State.target (st : State V ι) : Target V := ⟨st.activeTarget, st.version⟩

def rollbackToPrevious (st : State V ι) (reason : Reason V) : Update V ι Unit := do
  match st.previous with
  | none => throw .noRollbackTarget
  | some tgt =>
    let prev ← requireVerifiedCliTarget tgt.activeTarget (some tgt.version)
    if (← perform .link) ≠ some prev.activeTarget then perform (.swap prev.activeTarget)
    let bad ← markBadVersion st.bad st.version reason
    writeCliState prev none (some bad)
    perform (.prune [prev.activeTarget])

def recoverActivation (st : State V ι) (active : Option (Prefix V)) (runningVersion : Option V) :
    Update V ι Reconciliation := do
  let fallback := st.previous.getD st.target
  let verified ← requireVerifiedCliTarget fallback.activeTarget (some fallback.version)
  if active ≠ some verified.activeTarget then perform (.swap verified.activeTarget)
  let bad ← match st.previous with
    | some _ => some <$> markBadVersion st.bad st.version .interruptedActivation
    | none => pure st.bad
  writeCliState verified none bad
  perform (.prune [verified.activeTarget])
  return reconciliationResult .rolledBack (some verified.version) runningVersion true

def adoptActivation (bootstrap : Option (Target V)) (active : Option (Prefix V))
    (runningVersion : Option V) : Update V ι Reconciliation := do
  if let some tgt := bootstrap then
    if active ≠ some tgt.activeTarget then throw .bootstrapMismatch
  match active with
  | none => return ⟨.unchanged, false⟩
  | some active =>
    let recovered ← requireVerifiedCliTarget active (bootstrap.map (·.version))
    writeCliState recovered none none
    perform (.prune [recovered.activeTarget])
    return reconciliationResult .unchanged (some recovered.version) runningVersion false

def reconcilePendingRuntimeCliUpgrade (runningVersion : Option V) : Update V ι Reconciliation := do
  let status ← perform .receipt
  let active ← perform .link
  match status.bind Receipt.parse with
  | none => adoptActivation (status.bind Receipt.initial) active runningVersion
  | some st =>
    if active ≠ some st.activeTarget then recoverActivation st active runningVersion
    else
      match ← tryVerifyCliTarget st.activeTarget (some st.version) (some st) with
      | none =>
        if st.previous.isNone then throw .noRollbackTarget
        rollbackToPrevious st .recoveryVerification
        let st ← readCliState
        return reconciliationResult .rolledBack (st.map (·.version)) runningVersion true
      | some verified =>
        if st.verification ≠ verified.verification then
          writeCliState verified st.previous st.bad
        return reconciliationResult .unchanged (some verified.version) runningVersion st.previous.isSome

def installCliPackage (version : V) : Update V ι (Verified V ι) := do
  if ¬(← perform (.install version)) then throw (.npm version)
  let installed ← requireVerifiedCliTarget (.package version) none
  if installed.version ≠ version then throw (.reported installed.version version)
  return installed

def activateInstalled (installed : Verified V ι) : Update V ι (UpdateResult V) := do
  let st ← readCliState
  let prev := st.bind fun st => st.previous.or (some st.target)
  perform (.swap installed.activeTarget)
  let bad := (st.bind (·.bad)).filter fun bad => bad.version = installed.version
  match ← attempt (writeCliState installed prev bad) with
  | .error err =>
    match st with
    | some st => perform (.swap st.activeTarget)
    | none => perform .unlink
    throw err
  | .ok () =>
    perform (.prune (installed.activeTarget :: (prev.map (·.activeTarget)).toList))
    return {
      status := .installed
      activeTarget := some installed.activeTarget
      version := some installed.version
      selfReexec := true }

def keepActive (st : Option (State V ι)) (version : V) (err : Failure V) : Update V ι (UpdateResult V) := do
  let bad ← markBadVersion (st.bind (·.bad)) version (.installation err)
  if let some st := st then writeCliState st.active st.previous (some bad)
  perform (.prune (match st with
    | some st => st.activeTarget :: (st.previous.map (·.activeTarget)).toList
    | none => []))
  return {
    status := .error
    activeTarget := (st.map (·.activeTarget)).or (← perform .link)
    version := st.map (·.version)
    retryAt := some bad.retryAt }

def applyRuntimeCliDesiredState (desiredVersion runningVersion : Option V) : Update V ι (UpdateResult V) := do
  let reconciliation ← reconcilePendingRuntimeCliUpgrade runningVersion
  if reconciliation.selfReexec then
    let st ← readCliState
    return {
      status := .deferred
      activeTarget := (st.map (·.activeTarget)).or (← perform .link)
      version := st.map (·.version)
      retryAt := ((st.bind (·.bad)).filter fun bad => some bad.version = desiredVersion).map (·.retryAt)
      selfReexec := true }
  match desiredVersion with
  | none => return { status := .notRequested }
  | some desiredVersion =>
    let st ← readCliState
    let active ← perform .link
    if st.any fun st => st.version = desiredVersion ∧ active = some st.activeTarget then
      return {
        status := .current
        activeTarget := st.map (·.activeTarget)
        version := some desiredVersion
        retryAt := ((st.bind (·.bad)).filter fun bad => bad.version = desiredVersion).map
          (·.retryAt) }
    let now ← perform .now
    match (st.bind (·.bad)).filter fun bad => bad.version = desiredVersion ∧ bad.active now with
    | some bad =>
      return {
        status := .deferred
        activeTarget := st.map (·.activeTarget)
        version := st.map (·.version)
        retryAt := some bad.retryAt }
    | none =>
      match ← attempt (installCliPackage desiredVersion) with
      | .error err => keepActive st desiredVersion err
      | .ok installed => activateInstalled installed

def rollbackPendingRuntimeCliUpgrade (reason : String) : Update V ι (RollbackResult V ι) := do
  let pre ← readCliState
  match ← attempt (do
      let reconciliation ← reconcilePendingRuntimeCliUpgrade none
      if reconciliation.status = .rolledBack ∧ pre.any (·.previous.isSome) then
        return ⟨.rolledBack, pre⟩
      let st ← readCliState
      match st.filter (·.previous.isSome) with
      | none => return ⟨.notPending, st⟩
      | some pend =>
        rollbackToPrevious pend (.requested reason)
        return ⟨.rolledBack, st⟩) with
  | .ok res => return res
  | .error err => return ⟨.error err, pre⟩

def completePendingRuntimeCliUpgrade (currentVersion : V) : Update V ι Reconciliation := do
  let reconciliation ← reconcilePendingRuntimeCliUpgrade (some currentVersion)
  if reconciliation.selfReexec then return reconciliation
  match (← readCliState).filter fun st => st.previous.isSome ∧
      st.version = currentVersion with
  | none => return reconciliation
  | some st =>
    if (← perform .link) = some st.activeTarget then
      writeCliState st.active none (st.bad.filter fun bad => bad.version ≠ st.version)
      perform (.prune [st.activeTarget])
    return reconciliation

inductive Call (V : Type) where
  | apply (desiredVersion runningVersion : Option V)
  | complete (currentVersion : V)
  | rollback (reason : String)
  | reconcile (runningVersion : Option V)

inductive Outcome (V ι : Type) where
  | updated (res : UpdateResult V)
  | rolledBack (res : RollbackResult V ι)
  | reconciled (res : Reconciliation)

def Call.update : Call V → Update V ι (Outcome V ι)
  | .apply desiredVersion runningVersion => .updated <$> applyRuntimeCliDesiredState desiredVersion runningVersion
  | .complete currentVersion => .reconciled <$> completePendingRuntimeCliUpgrade currentVersion
  | .rollback reason => .rolledBack <$> rollbackPendingRuntimeCliUpgrade reason
  | .reconcile runningVersion => .reconciled <$> reconcilePendingRuntimeCliUpgrade runningVersion

end Clawdi.CliUpdate
