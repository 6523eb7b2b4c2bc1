import Clawdi.Lib.Transition
import Clawdi.SystemdActivation.Progress

namespace Clawdi.SystemdActivation
open Transition List

/-- What the units do by themselves between attempts: a process may end, none comes up. -/
structure Drift where
  change : Scope → String → UnitState → UnitState
  quiet : ∀ scope unitName st, (change scope unitName st).running = none ∨
    (change scope unitName st).running = st.running

inductive Step where
  | attempt (att : Attempt) (calls : List (Option Failure))
  | drift (drift : Drift)

/-- `writeRuntimeAppliedState` after an attempt that succeeded: the receipt takes its `activated`
and the journal is cleared. -/
def writeRuntimeAppliedState (out : World × Option ApplyResult) : World :=
  match out.2 with
  | some res =>
    if res.applied then
      { out.1 with committed := some res.activated, journal := [] }
    else out.1
  | none => out.1

def step (w : World) : Step → World
  | .attempt att calls => writeRuntimeAppliedState (att.applySystemdRuntimeUpdate calls w)
  | .drift drift =>
    { w with
      managers := fun scope unitName => drift.change scope unitName (w.managers scope unitName) }

/-- A unit's name tells its scope, committed digests are right, and an adopted unit runs the candidate. -/
structure Proper (isSystemUnit : String → Bool) (att : Attempt) (w : World) : Prop where
  system : ∀ unitName, att.after.system.has unitName = true → isSystemUnit unitName = true
  user : ∀ unitName, att.after.user.has unitName = true → isSystemUnit unitName = false
  legacy : ∀ snap ∈ att.before.legacy, ∀ unitName rev, w.views.committed.get unitName = some rev →
    snap.user.get unitName = some rev →
    att.before.user.get unitName = some rev
  adopted : ∀ unitName ∈ att.adoptUserUnits, ∀ proc, (w.managers .user unitName).running = some proc →
    att.after.user.get unitName = some proc

/-- The attempt goes back to the committed revision and fails before its restart. -/
def LeavesBehind (att : Attempt) (calls : List (Option Failure)) (w : World) : Prop :=
  ∃ unitName ∈ att.restartUserUnits w.views, w.views.committed.get unitName = att.after.user.get unitName ∧
    (w.managers .user unitName).running ≠ att.after.user.get unitName ∧
    att.RestartLost w.views calls unitName

def Agrees (committed journal running : Option String) : Prop :=
  ∀ rev, committed = some rev → journal = none ∨ journal = some rev → ∀ proc, running = some proc → proc = rev

def Truthful (isSystemUnit : String → Bool) (w : World) : Prop :=
  ∀ unitName, isSystemUnit unitName = false → Agrees (w.views.committed.get unitName) (w.journal.get unitName)
      (w.managers .user unitName).running

lemma Agrees.ended {committed journal running left}
    (agrees : Agrees committed journal running) (ended : left = none ∨ left = running) :
    Agrees committed journal left := by
  obtain rfl | rfl := ended
  · intro rev _ _ proc never
    cases never
  · exact agrees

section
variable {isSystemUnit : String → Bool} {att : Attempt} {calls : List (Option Failure)}
  {w : World} {unitName : String}

lemma Proper.committedFingerprint (proper : Proper isSystemUnit att w) (unitName : String) :
    att.committedFingerprint w.views.committed .user unitName = w.views.committed.get unitName := by
  unfold Attempt.committedFingerprint
  split_ifs with migrates
  · simp only [Bool.and_eq_true, List.any_eq_true, beq_iff_eq] at migrates
    obtain ⟨has, snap, isLegacy, same⟩ := migrates
    obtain ⟨rev, committed⟩ := Option.isSome_iff_exists.mp has
    have proof := proper.legacy snap isLegacy unitName rev committed (same.trans committed)
    exact proof.trans committed.symm
  · rfl

variable {left : World} {proc : String}

lemma runs_candidate (truthful : Truthful isSystemUnit w)
    (proper : Proper isSystemUnit att w) (here : unitName ∈ att.user.present)
    (idle : unitName ∉ att.activating w.views) (running : (w.managers .user unitName).running = some proc) :
    att.after.user.get unitName = some proc := by
  have active : (w.views.managers .user unitName).isActive = true := by
    show (w.managers .user unitName).running.isSome = true
    rw [running]
    rfl
  have notFailed : (w.views.managers .user unitName).activeState ≠ .failed := by
    intro failed
    simp [UnitState.isActive, UnitState.running, failed] at active
  have notInactive : (w.views.managers .user unitName).activeState ≠ .inactive := by
    intro inactive
    simp [UnitState.isActive, UnitState.running, inactive] at active
  by_cases adopted : unitName ∈ att.adoptUserUnits
  · exact proper.adopted unitName adopted proc running
  · have act : att.userActivation w.views unitName ≠ .restart := by
      intro restarts
      apply idle
      apply mem_append_right
      exact mem_filter.mpr ⟨here, by simp [restarts]⟩
    have notPending : att.pendingUserActivation w.views.committed w.views.journal
        unitName = false := by
      by_contra pend
      apply act
      simp [Attempt.userActivation, shouldRecoverFailedSystemdUnit, notFailed, notInactive, active, adopted, pend]
    obtain ⟨cand, cur⟩ := Option.isSome_iff_exists.mp (Attempt.user_present_has here)
    have isUser : isSystemUnit unitName = false := proper.user unitName (Attempt.user_present_has here)
    have done : att.after.user.get unitName = w.views.committed.get unitName ∧ (w.journal.get unitName = none ∨
          w.journal.get unitName = att.after.user.get unitName) := by
      unfold Attempt.pendingUserActivation at notPending
      rw [proper.committedFingerprint] at notPending
      simp only [List.contains_iff_mem.mpr here, Bool.true_and, Bool.or_eq_false_iff,
        Bool.and_eq_false_iff, bne_eq_false_iff_eq] at notPending
      refine ⟨notPending.2, ?_⟩
      obtain unjournaled | same := notPending.1
      · left
        show w.views.journal.get unitName = none
        simpa [Revisions.has] using unjournaled
      · exact .inr same
    rw [cur] at done ⊢
    have same := truthful unitName isUser cand done.1.symm done.2 proc running
    rw [same]

lemma running_of_start (mem : unitName ∈ att.startUserUnits w.views) :
    (w.managers .user unitName).running = none := by
  have starts := (mem_filter.mp mem).2
  cases st : (w.views.managers .user unitName).activeState with
  | active proc =>
    exfalso
    have notFailed : (ActiveState.active proc == ActiveState.failed) = false := rfl
    simp only [Attempt.userActivation, shouldRecoverFailedSystemdUnit, st, notFailed,
      Bool.false_and, Bool.false_eq_true, if_false, reduceCtorEq] at starts
    split_ifs at starts <;> cases starts
  | _ =>
    have same : (w.managers .user unitName).activeState = _ := st
    simp [UnitState.running, same]

lemma progress_agrees {completed} (isUser : isSystemUnit unitName = false)
    (truthful : Truthful isSystemUnit w) (reached : completed = true ∨ ¬LeavesBehind att calls w)
    (prog : Attempt.UnitProgress att calls w left unitName completed) :
    Agrees (w.views.committed.get unitName) (left.journal.get unitName) (left.managers .user unitName).running := by
  have pre := truthful unitName isUser
  cases prog with
  | unrecorded journal ended | idle _ journal _ ended =>
    rw [journal]
    exact pre.ended ended
  | activating completed rev cur mem journal running restarted interrupted =>
    rw [journal]
    intro cand committed journaled proc runs
    have same : rev = cand := by
      obtain never | same := journaled
      · cases never
      · exact Option.some.inj same
    subst same
    by_contra ne
    have old : (w.managers .user unitName).running = some proc := by
      rw [runs] at running
      obtain never | adopted | old := running
      · cases never
      · exact absurd (Option.some.inj adopted) ne
      · exact old.symm
    obtain started | restarts := mem_append.mp mem
    · rw [running_of_start started] at old
      cases old
    · cases completed with
      | true =>
        rw [restarted restarts rfl] at runs
        exact ne (Option.some.inj runs).symm
      | false =>
        obtain ended | adopted | lost := interrupted restarts rfl
        · rw [ended] at runs
          cases runs
        · rw [adopted] at runs
          exact ne (Option.some.inj runs).symm
        · obtain never | safe := reached
          · cases never
          · apply safe
            refine ⟨unitName, restarts, committed.trans cur.symm, ?_, lost⟩
            rw [old, cur]
            intro same
            exact ne (Option.some.inj same)

lemma performAll_progress (att : Attempt) (calls : List (Option Failure)) (w : World)
    (unitName : String) : Attempt.UnitProgress att calls w
      (performAll att.after.toUnitRevisions (att.commands w.views) calls w).2.1 unitName
      (performAll att.after.toUnitRevisions (att.commands w.views) calls w).1 := by
  cases completed : (performAll att.after.toUnitRevisions (att.commands w.views) calls
      w).1 with
  | true =>
    have performed := Sequence.performAll_completed completed
    have whole : (performAll att.after.toUnitRevisions (att.commands w.views) calls w).2.1 = _ := performed
    rw [whole]
    exact Attempt.progress_completed att calls w unitName
  | false =>
    obtain ⟨pre, cmd, after, err, split, fails, first, performed⟩ := Sequence.performAll_interrupted completed
    have part : (performAll att.after.toUnitRevisions (att.commands w.views) calls w).2.1 = _ := performed
    rw [part]
    exact Attempt.progress_interrupted split fails first unitName

lemma performAll_committed (files : UnitRevisions) (commands : List Command)
    (calls : List (Option Failure)) (w : World) :
    (performAll files commands calls w).2.1.committed = w.committed := by
  cases completed : (performAll files commands calls w).1 with
  | true =>
    have performed : (performAll files commands calls w).2.1 = _ := Sequence.performAll_completed completed
    rw [performed]
    exact foldl_perform_committed commands w
  | false =>
    obtain ⟨pre, cmd, after, err, _, _, _, performed⟩ := Sequence.performAll_interrupted completed
    have part : (performAll files commands calls w).2.1 = _ := performed
    rw [part]
    exact foldl_perform_committed pre w

def Command.isShow : Command → Bool
  | .showUnits _ _ => true
  | _ => false

lemma performAll_shows {files commands}
    (shows : ∀ cmd ∈ commands, cmd.isShow = true) (calls : List (Option Failure))
    (w : World) : (performAll files commands calls w).2.1 = w := by
  have performed : ∀ {some_shows : List Command}, (∀ cmd ∈ some_shows, cmd.isShow = true) →
        some_shows.foldl (Command.perform files) w = w := by
    intro some_shows all
    induction some_shows with
    | nil => rfl
    | cons cmd rest ih =>
      have first := all cmd mem_cons_self
      cases cmd with
      | showUnits scope units => exact ih fun alt mem => all alt (mem_cons_of_mem _ mem)
      | _ => cases first
  cases completed : (performAll files commands calls w).1 with
  | true =>
    have whole : (performAll files commands calls w).2.1 = _ := Sequence.performAll_completed completed
    rw [whole]
    exact performed shows
  | false =>
    obtain ⟨pre, cmd, after, err, rfl, _, _, interrupted⟩ := Sequence.performAll_interrupted completed
    have part : (performAll files (pre ++ cmd :: after) calls w).2.1 = _ := interrupted
    rw [part, performed fun alt mem => shows alt (mem_append_left _ mem)]
    have last := shows cmd (mem_append_right _ mem_cons_self)
    cases cmd with
    | showUnits scope units => rfl
    | _ => cases last

lemma preflight_shows : ∀ cmd ∈ att.preflight, cmd.isShow = true := by
  intro cmd mem
  unfold Attempt.preflight at mem
  simp only [mem_append, Attempt.mem_call] at mem
  obtain ⟨_, rfl⟩ | ⟨_, rfl⟩ := mem <;> rfl

lemma finalShows_shows (managers : Managers) : ∀ cmd ∈ att.finalShows managers, cmd.isShow = true := by
  intro cmd mem
  unfold Attempt.finalShows at mem
  by_cases pool : att.poolPath = true
  · rw [if_pos pool] at mem
    exact preflight_shows cmd mem
  · rw [if_neg pool] at mem
    simp only [mem_append, mem_map] at mem
    obtain ((⟨_, _, rfl⟩ | ⟨_, _, rfl⟩) | ⟨_, _, rfl⟩) | ⟨_, _, rfl⟩ := mem <;> rfl

lemma running_of_converged {managers} (converged : att.allPresentConverged managers = true)
    (here : unitName ∈ att.user.present) : ∃ proc, (managers .user unitName).running = some proc := by
  simp only [Attempt.allPresentConverged, Bool.and_eq_true, List.all_eq_true, Attempt.unitConverged] at converged
  have active := (converged.2 unitName here).1.1.2
  exact Option.isSome_iff_exists.mp active

inductive Ends (att : Attempt) (calls : List (Option Failure)) (w : World)
    (out : World × Option ApplyResult) : Prop where
  | unmanaged (off : att.shouldApplySystemdRuntimeUpdate = false) (left : out.1 = w)
      (res : ∃ res, out.2 = some res ∧ res.activated = [])
  | failed (completed : Bool) (committed : out.1.committed = w.committed)
      (units : ∀ unitName, Attempt.UnitProgress att calls w out.1 unitName completed)
      (thrown : out.2 = none)
  | returned (res : ApplyResult) (committed : out.1.committed = w.committed)
      (units : ∀ unitName, Attempt.UnitProgress att calls w out.1 unitName true)
      (returns : out.2 = some res)
      (applied : res.applied = true → res.activated = att.activated ∧ ∀ unitName ∈ att.user.present, ∃ proc,
          (out.1.managers .user unitName).running = some proc)

lemma still_running (prog : Attempt.UnitProgress att calls w left unitName true)
    (here : unitName ∈ att.user.present) (running : (w.managers .user unitName).running = some proc) :
    ∃ later, (left.managers .user unitName).running = some later := by
  cases prog with
  | idle completed journal idle ended still =>
    refine ⟨proc, (still rfl ?_).trans running⟩
    intro removed
    have gone := Attempt.user_removed_has removed
    rw [Attempt.user_present_has here] at gone
    cases gone
  | activating completed rev cur mem journal anyway restarted interrupted =>
    obtain started | restarts := mem_append.mp mem
    · rw [running_of_start started] at running
      cases running
    · exact ⟨rev, restarted restarts rfl⟩

lemma attempt_ends (att : Attempt) (calls : List (Option Failure)) (w : World) :
    Ends att calls w (att.applySystemdRuntimeUpdate calls w) := by
  cases on : att.shouldApplySystemdRuntimeUpdate with
  | false =>
    apply Ends.unmanaged on
    · simp [Attempt.applySystemdRuntimeUpdate, on]
    · exact ⟨_, by simp only [Attempt.applySystemdRuntimeUpdate, on]; rfl, rfl⟩
  | true =>
    have prog := performAll_progress att calls w
    have committed := performAll_committed att.after.toUnitRevisions (att.commands w.views) calls w
    cases performed : performAll att.after.toUnitRevisions (att.commands w.views) calls
        w with
    | mk completed rest =>
      obtain ⟨middle, calls'⟩ := rest
      rw [performed] at prog committed
      cases completed with
      | false =>
        apply Ends.failed false
        · simpa [Attempt.applySystemdRuntimeUpdate, on, performed] using committed
        · simpa [Attempt.applySystemdRuntimeUpdate, on, performed] using prog
        · simp [Attempt.applySystemdRuntimeUpdate, on, performed]
      | true =>
        by_cases early : (!att.activationChanged w.views.committed w.views.journal &&
            att.allPresentConverged w.views.managers) = true
        · have out : att.applySystemdRuntimeUpdate calls w =
              (middle, some ⟨true, att.activated, [], []⟩) := by
            simp only [Attempt.applySystemdRuntimeUpdate, on, performed, early]
            rfl
          rw [out]
          apply Ends.returned _ committed prog rfl
          intro _
          refine ⟨rfl, ?_⟩
          intro unitName here
          simp only [Bool.and_eq_true] at early
          obtain ⟨proc, running⟩ := running_of_converged early.2 here
          exact still_running (prog unitName) here running
        · have shows := @performAll_shows att.after.toUnitRevisions _
            (@finalShows_shows att middle.managers) calls' middle
          cases final : performAll att.after.toUnitRevisions
              (att.finalShows middle.managers) calls' middle with
          | mk proven last =>
            obtain ⟨left, calls''⟩ := last
            rw [final] at shows
            obtain rfl : left = middle := shows
            cases proven with
            | false =>
              have out : att.applySystemdRuntimeUpdate calls w = (left, none) := by
                simp only [Attempt.applySystemdRuntimeUpdate, on, performed, early, final]
                rfl
              rw [out]
              exact .failed true committed prog rfl
            | true =>
              have out : ∃ res, att.applySystemdRuntimeUpdate calls w = (left, some res) ∧
                  res.applied = (att.allPresentConverged left.managers && att.allRemovedConverged left.managers) ∧
                  res.activated = if res.applied then att.activated else [] := by
                simp only [Attempt.applySystemdRuntimeUpdate, on, performed, early, final]
                exact ⟨_, rfl, rfl, rfl⟩
              obtain ⟨res, out, applied, activated⟩ := out
              rw [out]
              apply Ends.returned res committed prog rfl
              intro success
              rw [success] at applied activated
              refine ⟨activated, ?_⟩
              intro unitName here
              simp only [Bool.true_eq, Bool.and_eq_true] at applied
              exact running_of_converged applied.1 here

lemma candidate_of_progress (truthful : Truthful isSystemUnit w) (proper : Proper isSystemUnit att w)
    (prog : Attempt.UnitProgress att calls w left unitName true)
    (here : unitName ∈ att.user.present) (running : (left.managers .user unitName).running = some proc) :
    att.after.user.get unitName = some proc := by
  cases prog with
  | idle completed journal idle ended still =>
    apply runs_candidate truthful proper here idle
    rw [← running]
    apply Eq.symm
    apply still rfl
    intro removed
    have gone := Attempt.user_removed_has removed
    rw [Attempt.user_present_has here] at gone
    cases gone
  | activating completed rev cur mem journal anyway restarted interrupted =>
    rw [cur]
    obtain started | restarts := mem_append.mp mem
    · rw [running_of_start started, running] at anyway
      obtain never | adopted | never := anyway
      · cases never
      · exact adopted.symm
      · cases never
    · rw [restarted restarts rfl] at running
      exact running

lemma activated_get (proper : Proper isSystemUnit att w)
    (isUser : isSystemUnit unitName = false) : att.activated.get unitName =
      if unitName ∈ att.user.present then att.after.user.get unitName else none := by
  have notSystem : att.after.system.has unitName = false := by
    by_contra has
    have isSystem := proper.system unitName (by simpa using has)
    rw [isUser] at isSystem
    cases isSystem
  have gone : unitName ∉ Attempt.transactional att.system.present := by
    intro mem
    have here := mem_of_mem_filter mem
    rw [Attempt.system_present_has here] at notSystem
    cases notSystem
  have missing : att.after.system.get unitName = none := by simpa [Revisions.has] using notSystem
  have looked := Revisions.get_filterMap (Attempt.transactional att.system.present ++ att.user.present)
    (fun name => (att.after.system.get name).or (att.after.user.get name)) unitName
  unfold Attempt.activated
  rw [looked, missing]
  have same : unitName ∈ Attempt.transactional att.system.present ++ att.user.present ↔
      unitName ∈ att.user.present := by
    rw [mem_append]
    exact ⟨fun either => either.resolve_left gone, .inr⟩
  by_cases here : unitName ∈ att.user.present
  · rw [if_pos (same.mpr here), if_pos here]
    rfl
  · rw [if_neg fun mem => here (same.mp mem), if_neg here]

end

def Meets (isSystemUnit : String → Bool) (w : World) : Step → Prop
  | .attempt att calls => Proper isSystemUnit att w ∧ ¬LeavesBehind att calls w
  | .drift _ => True

variable {out : World × Option ApplyResult} (pre : SystemdUnitSnapshot)

lemma write_unapplied (unapplied : ∀ res, out.2 = some res → res.applied = false) :
    writeRuntimeAppliedState out = out.1 := by
  unfold writeRuntimeAppliedState
  cases returns : out.2 with
  | none => rfl
  | some res => simp [unapplied res returns]

lemma write_applied {res} (returns : out.2 = some res) (applied : res.applied = true) :
    writeRuntimeAppliedState out = { out.1 with committed := some res.activated, journal := [] } := by
  unfold writeRuntimeAppliedState
  simp [returns, applied]

section
variable {isSystemUnit : String → Bool} {att : Attempt} {calls : List (Option Failure)}
  {w left : World}

lemma truthful_unapplied {completed} (truthful : Truthful isSystemUnit w)
    (kept : ¬LeavesBehind att calls w) (committed : left.committed = w.committed)
    (units : ∀ unitName, Attempt.UnitProgress att calls w left unitName completed) : Truthful isSystemUnit left := by
  intro unitName isUser
  have agrees := progress_agrees isUser truthful (.inr kept) (units unitName)
  have same : left.views.committed = w.views.committed := congrArg (·.getD []) committed
  rw [same]
  exact agrees

lemma truthful_applied (truthful : Truthful isSystemUnit w) (proper : Proper isSystemUnit att w)
    (units : ∀ unitName, Attempt.UnitProgress att calls w left unitName true) :
    Truthful isSystemUnit { left with committed := some att.activated, journal := [] } := by
  intro unitName isUser rev noted _ proc running
  have noted : att.activated.get unitName = some rev := noted
  rw [activated_get proper isUser] at noted
  by_cases here : unitName ∈ att.user.present
  · rw [if_pos here] at noted
    have cand := candidate_of_progress truthful proper (units unitName) here running
    rw [noted] at cand
    exact (Option.some.inj cand).symm
  · rw [if_neg here] at noted
    cases noted

lemma Truthful.step (truthful : Truthful isSystemUnit w) {act}
    (meets : Meets isSystemUnit w act) : Truthful isSystemUnit (step w act) := by
  cases act with
  | drift drift =>
    intro unitName isUser
    exact (truthful unitName isUser).ended (drift.quiet .user unitName _)
  | attempt att calls =>
    obtain ⟨proper, kept⟩ := meets
    show Truthful isSystemUnit (writeRuntimeAppliedState _)
    cases attempt_ends att calls w with
    | unmanaged off left res =>
      obtain ⟨res, returns, nothing⟩ := res
      cases applied : res.applied with
      | true =>
        rw [write_applied returns applied, nothing]
        intro unitName _ rev never
        cases never
      | false =>
        rw [write_unapplied, left]
        · exact truthful
        · intro alt same
          rw [returns] at same
          obtain rfl := Option.some.inj same
          exact applied
    | failed completed committed units thrown =>
      rw [write_unapplied]
      · exact truthful_unapplied truthful kept committed units
      · intro alt never
        rw [thrown] at never
        cases never
    | returned res committed units returns success =>
      cases applied : res.applied with
      | true =>
        rw [write_applied returns applied, (success applied).1]
        exact truthful_applied truthful proper units
      | false =>
        rw [write_unapplied]
        · exact truthful_unapplied truthful kept committed units
        · intro alt same
          rw [returns] at same
          obtain rfl := Option.some.inj same
          exact applied

end

lemma truthful_start (isSystemUnit : String → Bool) {w : World}
    (uncommitted : w.committed = none) : Truthful isSystemUnit w := by
  intro unitName _ rev committed
  unfold World.views at committed
  rw [uncommitted] at committed
  cases committed

/-- Where attempts leave no unit behind, a reported success has every present user unit active with the
process of the revision it records, adopted units where their callers are right. -/
theorem activation_truthful {isSystemUnit : String → Bool} {start : World}
    (uncommitted : start.committed = none) {steps : List Step}
    (meets : Always step (Meets isSystemUnit) start steps) {att : Attempt}
    {calls : List (Option Failure)} (proper : Proper isSystemUnit att (run step start steps)) :
    let out := att.applySystemdRuntimeUpdate calls (run step start steps)
    ∀ res, out.2 = some res → res.applied = true → ∀ unitName ∈ att.user.present,
        (att.shouldApplySystemdRuntimeUpdate = true → (out.1.managers .user unitName).isActive = true ∧
          (res.activated.get unitName).isSome = true) ∧
        ∀ rev, res.activated.get unitName = some rev →
          (out.1.managers .user unitName).running = some rev := by
  intro out res returns success unitName here
  have truthful : Truthful isSystemUnit (run step start steps) :=
    Always.invariant (fun _ _ holds met => holds.step met) (truthful_start isSystemUnit uncommitted) meets
  have isUser := proper.user unitName (Attempt.user_present_has here)
  cases attempt_ends att calls (run step start steps) with
  | unmanaged off left nothing =>
    obtain ⟨alt, returns', activated⟩ := nothing
    obtain rfl : res = alt := Option.some.inj (returns.symm.trans returns')
    rw [off, activated]
    exact ⟨fun never => absurd never (by decide), fun rev never => by cases never⟩
  | failed completed committed units thrown =>
    rw [returns] at thrown
    cases thrown
  | returned alt committed units returns' applied =>
    obtain rfl : res = alt := Option.some.inj (returns.symm.trans returns')
    obtain ⟨activated, active⟩ := applied success
    obtain ⟨proc, running⟩ := active unitName here
    have cand := candidate_of_progress truthful proper (units unitName) here running
    rw [activated, activated_get proper isUser, if_pos here, cand]
    refine ⟨fun _ => ⟨?_, rfl⟩, ?_⟩
    · show (out.1.managers .user unitName).running.isSome = true
      rw [running]
      rfl
    · intro rev same
      rw [← same]
      exact running

def sampleUnit : String := "openclaw-gateway.service"
def sampleSnapshot (rev : String) : SystemdUnitSnapshot := ⟨⟨[], [(sampleUnit, rev)]⟩, none, []⟩

def sampleAttempt (after : SystemdUnitSnapshot) : Attempt :=
  ⟨pre, after, true, false, false, [], none, [], [], true, false, false, false⟩

def sampleStart : World := ⟨fun _ _ => ⟨.loaded, .inactive, false, true⟩, [], none⟩
def sampleFirst : Step := .attempt (sampleAttempt ⟨⟨[], []⟩, none, []⟩ (sampleSnapshot "A")) []

lemma sampleAttempt_proper (unreleased : pre.legacy = []) (rev : String) (w : World) :
    Proper (fun _ => false) (sampleAttempt pre (sampleSnapshot rev)) w := by
  apply Proper.mk
  · intro unitName has
    exact absurd has (by simp [sampleAttempt, sampleSnapshot, Revisions.has, Revisions.get])
  · intro unitName _
    rfl
  · intro snap isLegacy
    have isLegacy : snap ∈ pre.legacy := isLegacy
    rw [unreleased] at isLegacy
    cases isLegacy
  · intro unitName never
    cases never

lemma not_leavesBehind_of_success (att : Attempt) (w : World) : ¬LeavesBehind att [] w := by
  intro behind
  obtain ⟨unitName, _, _, _, idx, err, fails, _⟩ := behind
  cases fails

theorem activation_truthful_change :
    (((sampleAttempt (sampleSnapshot "A") (sampleSnapshot "B")).applySystemdRuntimeUpdate []
      (run step sampleStart [sampleFirst])).1.managers .user sampleUnit).running = some "B" := by
  have first : Always step (Meets fun _ => false) sampleStart [sampleFirst] :=
    ⟨⟨sampleAttempt_proper _ rfl "A" _, not_leavesBehind_of_success _ _⟩, trivial⟩
  have truthful := @activation_truthful (fun _ => false) sampleStart rfl [sampleFirst] first
    (sampleAttempt (sampleSnapshot "A") (sampleSnapshot "B")) []
    (sampleAttempt_proper _ rfl "B" _)
    ⟨true, [(sampleUnit, "B")], [], [sampleUnit]⟩ (by decide +kernel) rfl sampleUnit
    (by decide +kernel)
  exact truthful.2 "B" (by decide +kernel)

/-- `B` is activated without a commit, and the attempt back to `A` fails in its restart. -/
def sampleRollback : List Step :=
  [sampleFirst,
    .attempt (sampleAttempt (sampleSnapshot "A") (sampleSnapshot "B"))
      [none, none, none, none, some fun _ => .untouched],
    .attempt (sampleAttempt (sampleSnapshot "B") (sampleSnapshot "A"))
      [none, none, none, some fun _ => .untouched]]

/-- The next attempt reports `A` as activated while the unit still runs `B`. -/
theorem failed_rollback_reported_applied :
    let out := (sampleAttempt (sampleSnapshot "A") (sampleSnapshot "A")).applySystemdRuntimeUpdate
      [] (run step sampleStart sampleRollback)
    out.2 = some ⟨true, [(sampleUnit, "A")], [], []⟩ ∧
      (out.1.managers .user sampleUnit).running = some "B" := by
  decide +kernel

end Clawdi.SystemdActivation
