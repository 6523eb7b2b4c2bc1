import Clawdi.Lib.Transition
import Mathlib.Logic.Function.Basic

namespace Clawdi.DiscordLocks
open Function (update)

/-- A lease of a key by a task on a session; `number` tells it from every other one. -/
structure DiscordAdvisoryLease (κ τ : Type) where
  key : κ
  owner : τ
  session : ℕ
  number : ℕ
deriving DecidableEq

structure Request (κ : Type) where
  key : κ
  named : Bool
deriving DecidableEq

inductive Worker (τ : Type) where
  | task (t : τ)
  | monitor (sess : ℕ)
  | retirement (sess : ℕ)
deriving DecidableEq

/-- The await of `_retire_session` at which a worker is. -/
inductive RetireStage (τ : Type) where
  | joiningMonitor
  | draining
  | joiningOwners (owners : List τ)
  | discarding
  | invalidating
  | disconnecting
deriving DecidableEq

/-- The await at which a worker is; a statement and its commit are one. -/
inductive Stage (κ τ : Type) where
  | absent
  | running
  | finished
  | gate (req : Request κ)
  | connecting (req : Request κ)
  | joining (req : Request κ) (sess : ℕ)
  | waiting (req : Request κ) (sess : ℕ)
  | resolving (key : κ) (sess : ℕ)
  | locking (key : κ) (sess : ℕ)
  | releaseWaiting (lease : DiscordAdvisoryLease κ τ)
  | unlocking (lease : DiscordAdvisoryLease κ τ)
  | closeGate
  | closeJoining (sess : ℕ)
  | retireGate
  | retiring (sess : ℕ) (stage : RetireStage τ)
  | sleeping
  | pingWaiting
  | pinging
deriving DecidableEq

/-- A session with what its connection holds on the server: `locked` counts the advisory locks of
each key. -/
structure Session (κ τ : Type) where
  leases : List (DiscordAdvisoryLease κ τ) := []
  failure : Bool := false
  closing : Bool := false
  locked : κ → ℕ := fun _ => 0
  invalidated : Bool := false

/-- A `DiscordAdvisorySession` with all the sessions it has had; the lists of leases and `cancels` record
what was claimed, passed to `release`, unlocked and cancelled. -/
structure World (κ τ : Type) where
  serial : Option (Worker τ) := none
  lifecycle : Option (Worker τ) := none
  closed : Bool := false
  current : Option ℕ := none
  nextSession : ℕ := 0
  sessions : ℕ → Session κ τ := fun _ => {}
  issued : List (DiscordAdvisoryLease κ τ) := []
  givenUp : List (DiscordAdvisoryLease κ τ) := []
  released : List (DiscordAdvisoryLease κ τ) := []
  cancels : τ → ℕ := fun _ => 0
  stages : Worker τ → Stage κ τ

inductive Outcome where
  | returned
  | timedOut
  | raised
deriving DecidableEq

/-- `effect` is the answer of a lock statement, and otherwise whether an await that raises has
taken effect. -/
inductive Action (κ τ : Type) where
  | claim (t : τ) (req : Request κ)
  | release (t : τ) (lease : DiscordAdvisoryLease κ τ)
  | close (t : τ)
  | finish (t : τ)
  | cancel (t : τ)
  | resume (worker : Worker τ) (out : Outcome) (effect : Bool)

variable {κ τ : Type} [DecidableEq κ] [DecidableEq τ]
namespace Session
variable (sess : Session κ τ) (lease : DiscordAdvisoryLease κ τ) (key : κ)

def holds : Bool := sess.leases.any fun lease => lease.key = key
def owns (t : τ) : Bool := sess.leases.any fun lease => lease.owner = t
def lost : Bool := sess.closing || sess.failure

def lock : Session κ τ :=
  { sess with locked := update sess.locked key (sess.locked key + 1) }

def unlock : Session κ τ :=
  { sess with locked := update sess.locked key (sess.locked key - 1) }

def register : Session κ τ :=
  { sess with leases := lease :: sess.leases }

def pop : Session κ τ :=
  { sess with leases := sess.leases.erase lease }

end Session

namespace World
variable (w : World κ τ) (t : τ) (worker : Worker τ) (s : ℕ)

def finished : Bool := w.stages (.task t) = .finished

def go (stage : Stage κ τ) : World κ τ :=
  { w with stages := update w.stages worker stage }

variable (lease : DiscordAdvisoryLease κ τ) (holder : Option (Worker τ)) (raisedIn : Option τ)
variable (out : Outcome) (req : Request κ) (effect : Bool) (sess : Session κ τ)

def setSession : World κ τ :=
  { w with sessions := update w.sessions s sess }

def setSerial : World κ τ :=
  { w with serial := holder }

def setLifecycle : World κ τ :=
  { w with lifecycle := holder }

def cancelAll (w : World κ τ) (doomed : τ → Bool) : World κ τ :=
  { w with cancels := fun t => if doomed t then w.cancels t + 1 else w.cancels t }

def fail : World κ τ :=
  if (w.sessions s).lost then w
  else (((w.cancelAll fun t => (w.sessions s).owns t && raisedIn != some t).setSession s
    { w.sessions s with failure := true }).go (.retirement s) .retireGate)

def leave : Worker τ → World κ τ
  | .task t => w.go (.task t) .running
  | .monitor s => w.go (.monitor s) .finished
  | .retirement s => w.go (.retirement s) .finished

def getSession : World κ τ :=
  if w.closed then w.go (.task t) .running
  else match w.current with
    | none => (w.setLifecycle (some (.task t))).go (.task t) (.connecting req)
    | some s =>
      if ¬(w.sessions s).failure then w.go (.task t) (.waiting req s)
      else if (w.sessions s).owns t then w.go (.task t) .running
      else if w.stages (.retirement s) = .absent then w.go (.task t) .running
      else w.go (.task t) (.joining req s)

def connect : World κ τ :=
  { w with
    lifecycle := none
    current := some w.nextSession
    nextSession := w.nextSession + 1
    sessions := update w.sessions w.nextSession {}
    stages := update (update w.stages (.monitor w.nextSession) .sleeping)
      (.task t) (.waiting req w.nextSession) }

def claimKey (key : κ) (s : ℕ) : World κ τ :=
  if (w.sessions s).holds key then (w.setSerial none).go (.task t) .running
  else (w.setSerial (some (.task t))).go (.task t) (.locking key s)

def locked (key : κ) (s : ℕ) (granted : Bool) : World κ τ :=
  -- PostgreSQL session locks are reentrant
  if ¬granted ∧ (w.sessions s).locked key = 0 then (w.setSerial none).go (.task t) .running
  else if (w.sessions s).lost then
    ((w.setSession s ((w.sessions s).lock key)).setSerial none).go (.task t) .running
  else
    let lease : DiscordAdvisoryLease κ τ := ⟨key, t, s, w.issued.length⟩
    { w with
      serial := none
      sessions := update w.sessions s (((w.sessions s).lock key).register lease)
      issued := lease :: w.issued
      stages := update w.stages (.task t) .running }

def releaseKey : World κ τ :=
  if (w.sessions lease.session).lost ∨ lease ∉ (w.sessions lease.session).leases then
    w.go (.task t) .running
  else (w.setSerial (some (.task t))).go (.task t) (.unlocking lease)

def unlocked : World κ τ :=
  if (w.sessions lease.session).locked lease.key = 0 then
    ((w.fail lease.session (some lease.owner)).setSerial none).go (.task t) .running
  else { w with
    serial := none
    sessions := update w.sessions lease.session (((w.sessions lease.session).unlock lease.key).pop lease)
    released := lease :: w.released
    stages := update w.stages (.task t) .running }

def broken : World κ τ := (((w.setSession s sess).fail s raisedIn).setSerial none).leave worker

def closeSession : World κ τ :=
  match w.current with
  | none => { w with closed := true, stages := update w.stages (.task t) .running }
  | some s =>
    if w.stages (.retirement s) ≠ .absent then
      { w with closed := true, stages := update w.stages (.task t) (.closeJoining s) }
    else { w with
      closed := true
      lifecycle := some (.task t)
      sessions := update w.sessions s { w.sessions s with closing := true }
      stages := update w.stages (.task t) (.retiring s .joiningMonitor) }

/-- `_retire_failed_session` once it has the lifecycle lock. -/
def retireFailed : World κ τ :=
  if w.current ≠ some s then w.leave (.retirement s)
  else { w with
    lifecycle := some (.retirement s)
    sessions := update w.sessions s { w.sessions s with closing := true }
    stages := update w.stages (.retirement s) (.retiring s .joiningMonitor) }

def owners : List τ := (w.sessions s).leases.map DiscordAdvisoryLease.owner

def retireTurn : RetireStage τ → World κ τ
  | .joiningMonitor => if w.stages (.monitor s) = .finished then w.go worker (.retiring s .draining) else w
  | .draining =>
    if w.serial ≠ none then w
    else if (w.sessions s).failure then w.go worker (.retiring s (.joiningOwners (w.owners s)))
    else (w.cancelAll (w.sessions s).owns).go worker (.retiring s (.joiningOwners (w.owners s)))
  | .joiningOwners owners => if owners.all w.finished then w.go worker (.retiring s .discarding) else w
  | .discarding =>
    if w.serial ≠ none then w
    else (w.setSerial (some worker)).go worker (.retiring s .invalidating)
  | .invalidating =>
    (w.setSession s { w.sessions s with invalidated := true, locked := fun _ => 0 }).go worker
      (.retiring s .disconnecting)
  | .disconnecting =>
    { ((w.setSession s { w.sessions s with leases := [] }).leave worker) with
      current := none
      serial := none
      lifecycle := none }

/-- An await of `_retire_session` raises; the connection is closed also where it was not
invalidated. -/
def retireRaised : RetireStage τ → World κ τ
  | .joiningMonitor | .draining | .discarding => (w.setLifecycle none).leave worker
  | .joiningOwners owners => ((w.cancelAll fun t => t ∈ owners).setLifecycle none).leave worker
  | .invalidating =>
    if effect then
      (w.setSession s { w.sessions s with invalidated := true, locked := fun _ => 0 }).go worker
        (.retiring s .disconnecting)
    else w.go worker (.retiring s .disconnecting)
  | .disconnecting => ((w.setSerial none).setLifecycle none).leave worker

def returnTask : World κ τ :=
  match w.stages (.task t) with
  | .gate req => if w.lifecycle = none then w.getSession t req else w
  | .connecting req => w.connect t req
  | .joining req s => if w.stages (.retirement s) = .finished then w.go (.task t) (.gate req) else w
  | .waiting req s =>
    if w.serial ≠ none then w
    else if (w.sessions s).lost then w.go (.task t) .running
    else if req.named then
      (w.setSerial (some (.task t))).go (.task t) (.resolving req.key s)
    else w.claimKey t req.key s
  | .resolving key s => w.claimKey t key s
  | .locking key s => w.locked t key s effect
  | .releaseWaiting lease => if w.serial = none then w.releaseKey t lease else w
  | .unlocking lease => w.unlocked t lease
  | .closeGate => if w.lifecycle = none then w.closeSession t else w
  | .closeJoining s => if w.stages (.retirement s) = .finished then w.go (.task t) .running else w
  | .retiring s stage => w.retireTurn (.task t) s stage
  | _ => w

def raiseTask : World κ τ :=
  match w.stages (.task t) with
  | .gate _ | .joining _ _ | .waiting _ _ | .releaseWaiting _ | .closeGate | .closeJoining _ =>
    w.go (.task t) .running
  | .connecting _ => (w.setLifecycle none).go (.task t) .running
  | .resolving _ s => w.broken (.task t) s (some t) (w.sessions s)
  | .locking key s => w.broken (.task t) s (some t)
      (if effect then (w.sessions s).lock key else w.sessions s)
  | .unlocking lease => w.broken (.task t) lease.session (some lease.owner)
      (if effect then (w.sessions lease.session).unlock lease.key else w.sessions lease.session)
  | .retiring s stage => w.retireRaised (.task t) s effect stage
  | _ => w

def resumeMonitor : World κ τ :=
  match w.stages (.monitor s), out with
  | .sleeping, .returned => w.go (.monitor s) .pingWaiting
  | .sleeping, _ => w.leave (.monitor s)
  | .pingWaiting, .returned =>
    if w.serial ≠ none then w
    else if (w.sessions s).lost then w.leave (.monitor s)
    else (w.setSerial (some (.monitor s))).go (.monitor s) .pinging
  | .pingWaiting, .timedOut => (w.fail s none).leave (.monitor s)
  | .pingWaiting, .raised => w.leave (.monitor s)
  | .pinging, .returned =>
    if (w.sessions s).failure then (w.setSerial none).leave (.monitor s)
    else (w.setSerial none).go (.monitor s) .sleeping
  | .pinging, _ => w.broken (.monitor s) s none (w.sessions s)
  | _, _ => w

def resumeRetirement : World κ τ :=
  match w.stages (.retirement s), out with
  | .retireGate, .returned => if w.lifecycle = none then w.retireFailed s else w
  | .retireGate, _ => w.leave (.retirement s)
  | .retiring sess stage, .returned => w.retireTurn (.retirement s) sess stage
  | .retiring sess stage, _ => w.retireRaised (.retirement s) sess effect stage
  | _, _ => w

/-- `_check_lifecycle_caller` lets the task pass. -/
def mayManage : Bool :=
  match w.current with
  | none => true
  | some s => !(w.sessions s).owns t

def failed : Bool :=
  match w.current with
  | none => false
  | some s => (w.sessions s).failure

end World

def step (w : World κ τ) : Action κ τ → World κ τ
  | .claim t req =>
    if w.stages (.task t) = .running ∧ (w.failed → w.mayManage t) then
      w.go (.task t) (.gate req)
    else w
  | .release t lease =>
    -- a task releases the leases that its own claims have returned
    if w.stages (.task t) = .running ∧ lease ∈ w.issued ∧ lease.owner = t then
      { w.go (.task t) (.releaseWaiting lease) with givenUp := lease :: w.givenUp }
    else w
  | .close t => if w.stages (.task t) = .running ∧ w.mayManage t then w.go (.task t) .closeGate else w
  | .finish t => if w.stages (.task t) = .running then w.go (.task t) .finished else w
  | .cancel t => w.cancelAll fun alt => alt = t
  | .resume (.task t) .returned effect => w.returnTask t effect
  | .resume (.task t) _ effect => w.raiseTask t effect
  | .resume (.monitor s) out _ => w.resumeMonitor s out
  | .resume (.retirement s) out effect => w.resumeRetirement s out effect

structure Initial (w : World κ τ) : Prop where
  start : w = { stages := w.stages }
  tasks : ∀ t, w.stages (.task t) = .running
  monitors : ∀ s, w.stages (.monitor s) = .absent
  retirements : ∀ s, w.stages (.retirement s) = .absent

end Clawdi.DiscordLocks
