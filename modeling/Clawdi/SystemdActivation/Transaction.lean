import Clawdi.Lib.Sequence
import Mathlib.Data.List.Dedup

namespace Clawdi.SystemdActivation

abbrev Revisions := List (String × String)

namespace Revisions
variable (revisions : Revisions) (unitName : String)

def get : Option String := revisions.lookup unitName
def has : Bool := (revisions.get unitName).isSome
def keys : List String := revisions.map (·.1)

end Revisions

inductive Scope where
  | system
  | user
  deriving DecidableEq

structure UnitRevisions where
  system : Revisions
  user : Revisions

def UnitRevisions.get (revisions : UnitRevisions) : Scope → String → Option String
  | .system => revisions.system.get
  | .user => revisions.user.get

inductive LoadState where
  | loaded
  | notFound
  | other
  deriving DecidableEq

/-- Only an active unit runs a process, of the revision it was started from; `transitional` is
every other state. -/
inductive ActiveState where
  | active (proc : String)
  | inactive
  | failed
  | transitional
  deriving DecidableEq

structure UnitState where
  loadState : LoadState
  activeState : ActiveState
  needDaemonReload : Bool
  enabled : Bool

namespace UnitState
variable (cur : Option String) (st : UnitState)

def running : Option String :=
  match st.activeState with
  | .active proc => some proc
  | _ => none

def isActive : Bool := st.running.isSome

/-- `start` and `restart` adopt the current file revision; `start` leaves an active unit alone. -/
def started : UnitState :=
  match st.activeState, cur with
  | .active _, _ | _, none => st
  | _, some rev => { st with activeState := .active rev }

def restarted : UnitState :=
  match cur with
  | none => st
  | some rev => { st with activeState := .active rev }

def stopped : UnitState := { st with activeState := .inactive }

def resetFailed : UnitState :=
  if st.activeState = .failed then st.stopped else st

end UnitState

/-- The calls of an attempt, in the order of the source. -/
inductive Command where
  | showUnits (scope : Scope) (units : List String)
  | daemonReload (scope : Scope)
  | stop (scope : Scope) (units : List String)
  | disable (scope : Scope) (units : List String)
  | enable (scope : Scope) (units : List String)
  | resetFailed (scope : Scope) (units : List String)
  | start (scope : Scope) (units : List String)
  | restart (scope : Scope) (units : List String)
  | recordIntent (cands : Revisions)
  | readDashboard
  | awaitDashboard

inductive Interrupted where
  | untouched
  | done
  | lost
  deriving DecidableEq

abbrev Failure := String → Interrupted
abbrev Managers := Scope → String → UnitState

/-- The managers, the activation journal and the committed receipt's `activated`. -/
structure World where
  managers : Managers
  journal : Revisions
  committed : Option Revisions

namespace Command
variable (files : UnitRevisions) (cmd : Command)

def touches (scope : Scope) (unitName : String) : Bool :=
  match cmd with
  | .daemonReload named => named = scope
  | .stop named units | .disable named units | .enable named units | .resetFailed named units
  | .start named units | .restart named units => named = scope && units.contains unitName
  | _ => false

def effect (cur : Option String) (st : UnitState) : UnitState :=
  match cmd with
  | .daemonReload _ => { st with needDaemonReload := false }
  | .stop _ _ => st.stopped
  | .disable _ _ => { st with enabled := false }
  | .enable _ _ => { st with enabled := true }
  | .resetFailed _ _ => st.resetFailed
  | .start _ _ => st.started cur
  | .restart _ _ => st.restarted cur
  | _ => st

def perform (w : World) (cmd : Command) : World :=
  match cmd with
  | .recordIntent cands => { w with journal := cands ++ w.journal }
  | _ =>
    { w with
      managers := fun scope unitName =>
        let st := w.managers scope unitName
        if cmd.touches scope unitName then cmd.effect (files.get scope unitName) st
        else st }

def interrupt (w : World) (cmd : Command) (err : Failure) : World :=
  { w with
    managers := fun scope unitName =>
      let st := w.managers scope unitName
      if cmd.touches scope unitName then
        match err unitName with
        | .untouched => st
        | .done => cmd.effect (files.get scope unitName) st
        | .lost => { st with activeState := .failed }
      else st }

end Command

def performAll (files : UnitRevisions) :
    List Command → List (Option Failure) → World → Bool × World × List (Option Failure) :=
  Sequence.performAll (Command.perform files) (Command.interrupt files)

structure SystemdUnitSnapshot extends UnitRevisions where
  reload : Option UnitRevisions
  legacy : List UnitRevisions

def SystemdUnitSnapshot.reloadRevisions (snap : SystemdUnitSnapshot) : UnitRevisions :=
  snap.reload.getD snap.toUnitRevisions

structure ActivationScope where
  systemUnits : List String
  userUnits : List String

/-- An attempt: its arguments, and what it reads of the host besides the persisted state. -/
structure Attempt where
  before : SystemdUnitSnapshot
  after : SystemdUnitSnapshot
  recoverFailedUnits : Bool
  earlyFreshHermes : Bool
  restartChangedUnits : Bool
  invalidatedUserUnits : List String
  activationScope : Option ActivationScope
  skipActivatedSystemUnits : List String
  adoptUserUnits : List String
  shouldApplySystemdRuntimeUpdate : Bool
  egressSnapshotEnabled : Bool
  openClawHotApplyEnabled : Bool
  hermesWasWarmed : Bool

structure UnitChanges where
  added : List String
  changed : List String
  removed : List String
  present : List String

def changedSystemdUnits (pre after : Revisions) (invalidated : List String) : UnitChanges where
  added := after.keys.filter fun name => !pre.has name
  changed := after.keys.filter fun name =>
    pre.has name && (pre.get name != after.get name || invalidated.contains name)
  removed := pre.keys.filter fun name => !after.has name
  present := after.keys

variable (changes : UnitChanges)

def UnitChanges.filterChanges (units : List String) : UnitChanges where
  added := changes.added.filter (units.contains ·)
  changed := changes.changed.filter (units.contains ·)
  removed := changes.removed.filter (units.contains ·)
  present := changes.present.filter (units.contains ·)

def UnitChanges.isEmpty : Bool := changes.added.isEmpty && changes.changed.isEmpty && changes.removed.isEmpty
def runtimeWatchSystemUnit : String := "clawdi-runtime-watch.service"
def nonTransactionalSystemUnits : List String := [runtimeWatchSystemUnit]

def shouldRecoverFailedSystemdUnit (activeState : ActiveState) (changed pendingActivation
    recoverFailedUnits : Bool) : Bool :=
  activeState == .failed && (recoverFailedUnits || changed || pendingActivation)

namespace Attempt
variable (att : Attempt)

def allSystem : UnitChanges := changedSystemdUnits att.before.system att.after.system []

def systemScope : List String :=
  match att.activationScope with
  | some scope => scope.systemUnits
  | none => att.allSystem.present ++ att.allSystem.removed

def system : UnitChanges := att.allSystem.filterChanges att.systemScope

def inUserScope (changes : UnitChanges) : UnitChanges :=
  match att.activationScope with
  | some scope => changes.filterChanges scope.userUnits
  | none => changes

def user : UnitChanges :=
  att.inUserScope (changedSystemdUnits att.before.user att.after.user att.invalidatedUserUnits)

def reloadSystem : UnitChanges :=
  (changedSystemdUnits att.before.reloadRevisions.system att.after.reloadRevisions.system
    []).filterChanges att.systemScope

def reloadUser : UnitChanges :=
  att.inUserScope (changedSystemdUnits att.before.reloadRevisions.user att.after.reloadRevisions.user [])

variable (done journal : Revisions) (unit : String)

def committedFingerprint (scope : Scope) (unit : String) : Option String :=
  if done.has unit &&
      att.before.legacy.any (fun snap =>
        snap.get scope unit == done.get unit) then
    att.before.get scope unit
  else done.get unit

def pendingSystemActivation : Bool :=
  att.system.present.contains unit && !nonTransactionalSystemUnits.contains unit &&
    att.after.system.get unit != att.committedFingerprint done .system unit

def pendingUserActivation : Bool :=
  att.user.present.contains unit && (journal.has unit && journal.get unit != att.after.user.get unit ||
      att.after.user.get unit != att.committedFingerprint done .user unit)

def activationChanged : Bool :=
  !att.reloadSystem.isEmpty || !att.reloadUser.isEmpty ||
    att.system.present.any (att.pendingSystemActivation done) ||
    att.user.present.any (att.pendingUserActivation done journal)

end Attempt

inductive Activation where
  | none
  | start
  | recover
  | restart
  deriving DecidableEq

def Activation.starts : Activation → Bool
  | .start | .recover => true
  | _ => false

/-- The three persisted views and the managers' states as an attempt reads them. -/
structure Views where
  committed : Revisions
  journal : Revisions
  managers : Managers
  appliedStateExists : Bool

def World.views (w : World) : Views where
  committed := w.committed.getD []
  journal := w.journal
  managers := w.managers
  appliedStateExists := w.committed.isSome

namespace Attempt
variable (att : Attempt) (views : Views)
variable (st : UnitState) (managers : Managers) (unit : String) (units : List String)

def systemActivation : Activation :=
  let st := views.managers .system unit
  let pend := att.pendingSystemActivation views.committed unit
  if att.skipActivatedSystemUnits.contains unit then .none
  else if shouldRecoverFailedSystemdUnit st.activeState
      (att.system.added.contains unit || att.system.changed.contains unit) pend
      att.recoverFailedUnits then .recover
  else if st.activeState = .inactive then .start
  else if st.isActive &&
      (att.restartChangedUnits && att.system.changed.contains unit || pend) then
    .restart
  else .none

def userActivation : Activation :=
  let st := views.managers .user unit
  let pend := att.pendingUserActivation views.committed views.journal unit
  if shouldRecoverFailedSystemdUnit st.activeState
      (att.user.added.contains unit || att.user.changed.contains unit) pend
      att.recoverFailedUnits then .recover
  else if st.activeState = .inactive then .start
  else if !st.isActive then .none
  else if att.adoptUserUnits.contains unit then .none
  -- file repair is reload work: an unchanged activation keeps its process
  else if att.invalidatedUserUnits.contains unit || pend then .restart
  else .none

def startSystemUnits : List String := att.system.present.filter fun name => (att.systemActivation views name).starts

def restartSystemUnits : List String :=
  att.system.present.filter fun name => att.systemActivation views name == .restart

def startUserUnits : List String := att.user.present.filter fun name => (att.userActivation views name).starts
def restartUserUnits : List String := att.user.present.filter fun name => att.userActivation views name == .restart

def call (cmd : List String → Command) (units : List String) : List Command :=
  if units.isEmpty then [] else [cmd units]

def activateSystemUnits : List Command :=
  call (.start .system) (att.startSystemUnits views) ++ call (.restart .system) (att.restartSystemUnits views)

def dashboard : String := "clawdi-hermes-dashboard.service"
def gateway : String := "hermes-gateway.service"
def poolPath : Bool := att.egressSnapshotEnabled || att.openClawHotApplyEnabled

def warmHermes : Bool :=
  att.hermesWasWarmed && !views.appliedStateExists && (att.startUserUnits views).contains dashboard &&
    (att.startUserUnits views).contains gateway

def earlyDashboard : Bool :=
  att.earlyFreshHermes && att.warmHermes views && (views.managers .user dashboard).activeState = .inactive &&
    (views.managers .user gateway).activeState = .inactive

def activationIntent : Revisions :=
  att.after.user.filter fun e =>
    (att.startUserUnits views ++ att.restartUserUnits views).contains e.1

def preflight : List Command :=
  call (.showUnits .system) (att.system.present ++ att.system.removed) ++
  call (.showUnits .user) (att.user.present ++ att.user.removed)

def needsReload (scope : Scope) (changes reload : UnitChanges) : Bool :=
  !reload.isEmpty ||
    (changes.present ++ changes.removed).any fun name =>
      (views.managers scope name).needDaemonReload

def prepare : List Command :=
  (if needsReload views .system att.system att.reloadSystem then
    [.daemonReload .system] else []) ++
  (if needsReload views .user att.user att.reloadUser then
    [.daemonReload .user] else []) ++
  call (.stop .system) att.system.removed ++ call (.disable .system) att.system.removed ++
  call (.stop .user) att.user.removed ++ call (.disable .user) att.user.removed ++
  call (.enable .system) (att.system.present.filter fun name =>
    !att.skipActivatedSystemUnits.contains name && !(views.managers .system name).enabled) ++
  call (.resetFailed .system) (att.system.present.filter fun name =>
    att.systemActivation views name == .recover) ++
  (if att.poolPath then [] else att.activateSystemUnits views) ++
  call (.enable .user) (att.user.present.filter fun name =>
    !(views.managers .user name).enabled) ++
  call (.resetFailed .user) (att.user.present.filter fun name =>
    att.userActivation views name == .recover)

def activateUser : List Command :=
  (if att.earlyDashboard views then [.readDashboard, .start .user [dashboard]] else []) ++
  (if att.poolPath then att.activateSystemUnits views else []) ++
  (if (att.startUserUnits views).isEmpty then []
    else if att.warmHermes views then
      (if att.earlyDashboard views then [] else [.start .user [dashboard]]) ++
      [.awaitDashboard, .start .user ((att.startUserUnits views).filter fun name => name != dashboard)]
    else [.start .user (att.startUserUnits views)]) ++
  call (.restart .user) (att.restartUserUnits views)

def commands : List Command :=
  att.preflight ++ att.prepare views ++ call (fun _ => .recordIntent (att.activationIntent views))
      (att.activationIntent views).keys ++
    att.activateUser views

def unitConverged : Bool := st.loadState != .notFound && st.isActive && !st.needDaemonReload && st.enabled
def systemdUnitAbsentOrInactive : Bool := st.loadState == .notFound || st.activeState == .inactive
def systemdUnitAbsentOrDisabled : Bool := st.loadState == .notFound || !st.enabled
def removedConverged : Bool := systemdUnitAbsentOrInactive st && systemdUnitAbsentOrDisabled st

def examined (check : UnitState → Bool) (managers : String → UnitState) (units : List String) : List String :=
  let passing := fun name => check (managers name)
  units.takeWhile passing ++ (units.dropWhile passing).take 1

def finalShows : List Command :=
  if att.poolPath then att.preflight
  else
    (examined unitConverged (managers .system) att.system.present).map (fun name => .showUnits .system [name]) ++
      (examined unitConverged (managers .user) att.user.present).map (fun name => .showUnits .user [name]) ++
      (examined removedConverged (managers .system) att.system.removed).map
        (fun name => .showUnits .system [name]) ++
      (examined removedConverged (managers .user) att.user.removed).map (fun name => .showUnits .user [name])

def transactional : List String := units.filter fun name => !nonTransactionalSystemUnits.contains name

def activated : Revisions :=
  (transactional att.system.present ++ att.user.present).filterMap fun name =>
    ((att.after.system.get name).or (att.after.user.get name)).map fun rev =>
      (name, rev)

def allPresentConverged : Bool :=
  att.system.present.all (fun name => unitConverged (managers .system name)) &&
    att.user.present.all (fun name => unitConverged (managers .user name))

def allRemovedConverged : Bool :=
  att.system.removed.all (fun name => removedConverged (managers .system name)) &&
    att.user.removed.all (fun name => removedConverged (managers .user name))

end Attempt

structure ApplyResult where
  applied : Bool
  activated : Revisions
  systemUnitsChanged : List String
  userUnitsChanged : List String
  deriving DecidableEq

namespace Attempt
variable (att : Attempt) (activating : List String)

def systemUnitsChanged : List String := transactional (att.system.added ++ att.system.removed ++ activating).dedup
def userUnitsChanged : List String := (att.user.added ++ att.user.removed ++ activating).dedup

def applySystemdRuntimeUpdate (calls : List (Option Failure)) (w : World) : World × Option ApplyResult :=
  let views := w.views
  let changed := att.activationChanged views.committed views.journal
  if !att.shouldApplySystemdRuntimeUpdate then
    (w, some ⟨!changed, [], att.systemUnitsChanged [], att.userUnitsChanged []⟩)
  else
    let files := att.after.toUnitRevisions
    match performAll files (att.commands views) calls w with
    | (false, left, _) => (left, none)
    | (true, activatedWorld, rest) =>
      if !changed && att.allPresentConverged views.managers then
        (activatedWorld, some ⟨true, att.activated, [], []⟩)
      else
        match performAll files (att.finalShows activatedWorld.managers) rest activatedWorld with
        | (false, left, _) => (left, none)
        | (true, final, _) =>
          let applied := att.allPresentConverged final.managers && att.allRemovedConverged final.managers
          (final, some {
            applied
            activated := if applied then att.activated else []
            systemUnitsChanged := att.systemUnitsChanged
              (att.startSystemUnits views ++ att.restartSystemUnits views)
            userUnitsChanged := att.userUnitsChanged
              (att.startUserUnits views ++ att.restartUserUnits views) })

end Attempt
end Clawdi.SystemdActivation
