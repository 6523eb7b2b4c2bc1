import Clawdi.SystemdActivation.Transaction

namespace Clawdi.SystemdActivation
open List
namespace UnitState

@[simp] lemma running_stopped (st : UnitState) : st.stopped.running = none := rfl

lemma running_resetFailed (st : UnitState) : st.resetFailed.running = st.running := by
  unfold resetFailed
  by_cases failed : st.activeState = .failed
  · simp [failed, running, stopped]
  · rw [if_neg failed]

lemma running_restarted (rev : String) (st : UnitState) : (st.restarted (some rev)).running = some rev := rfl

lemma running_started (rev : String) (st : UnitState) :
    (st.started (some rev)).running = some (st.running.getD rev) := by
  obtain ⟨loadState, activeState, needDaemonReload, enabled⟩ := st
  cases activeState <;> rfl

end UnitState

namespace Command

def activates (unit : String) : Command → Bool
  | .start .user units | .restart .user units => units.contains unit
  | _ => false

def stops (unit : String) : Command → Bool
  | .stop .user units => units.contains unit
  | _ => false

def records : Command → Bool
  | .recordIntent _ => true
  | _ => false

variable {files : UnitRevisions} {w : World} {unit : String} {cmd : Command}

lemma running_effect (quiet : cmd.activates unit = false)
    (kept : cmd.stops unit = false) (touched : cmd.touches .user unit = true)
    (cur : Option String) (st : UnitState) : (cmd.effect cur st).running = st.running := by
  cases cmd with
  | resetFailed scope units => exact st.running_resetFailed
  | stop scope units =>
    cases scope with
    | system => simp [touches] at touched
    | user =>
      simp only [touches, decide_true, Bool.true_and] at touched
      simp only [stops, touched] at kept
      cases kept
  | start scope | restart scope =>
    cases scope with
    | system => simp [touches] at touched
    | user =>
      simp only [touches, decide_true, Bool.true_and] at touched
      simp only [activates, touched] at quiet
      cases quiet
  | _ => rfl

lemma managers_perform :
    (perform files w cmd).managers = fun scope unit =>
      if cmd.touches scope unit then
        cmd.effect (files.get scope unit) (w.managers scope unit)
      else w.managers scope unit := by
  cases cmd with
  | recordIntent cands =>
    funext scope unit
    simp [perform, touches]
  | _ => rfl

lemma perform_still (quiet : cmd.activates unit = false) (kept : cmd.stops unit = false) :
    ((perform files w cmd).managers .user unit).running = (w.managers .user unit).running := by
  rw [managers_perform]
  by_cases touched : cmd.touches .user unit = true
  · simp only [touched]
    exact running_effect quiet kept touched _ _
  · simp [touched]

lemma running_stop (stopping : cmd.stops unit = true) (cur : Option String)
    (st : UnitState) : (cmd.effect cur st).running = none := by
  cases cmd with
  | stop scope units => rfl
  | _ => cases stopping

lemma perform_quiet (quiet : cmd.activates unit = false) :
    ((perform files w cmd).managers .user unit).running = none ∨
      ((perform files w cmd).managers .user unit).running = (w.managers .user unit).running := by
  by_cases kept : cmd.stops unit = false
  · exact .inr (perform_still quiet kept)
  · have stopping : cmd.stops unit = true := by simpa using kept
    rw [managers_perform]
    by_cases touched : cmd.touches .user unit = true
    · left
      simp only [touched]
      exact running_stop stopping _ _
    · right
      simp [touched]

lemma interrupt_quiet (quiet : cmd.activates unit = false) (err : Failure) :
    ((interrupt files w cmd err).managers .user unit).running = none ∨
      ((interrupt files w cmd err).managers .user unit).running = (w.managers .user unit).running := by
  by_cases touched : cmd.touches .user unit = true
  · have performed := @perform_quiet files w unit cmd quiet
    rw [managers_perform] at performed
    cases out : err unit with
    | untouched => simp [interrupt, touched, out]
    | lost =>
      left
      simp [interrupt, touched, out, UnitState.running]
    | done => simpa [interrupt, touched, out] using performed
  · right
    simp [interrupt, touched]

variable {rev : String}

lemma perform_activates (cur : files.user.get unit = some rev) (activating : cmd.activates unit = true) :
    ((perform files w cmd).managers .user unit).running = some rev ∨
      ((perform files w cmd).managers .user unit).running = (w.managers .user unit).running := by
  rw [managers_perform]
  have file : files.get .user unit = some rev := cur
  cases cmd with
  | start scope units =>
    cases scope with
    | system => cases activating
    | user =>
      have touched : (Command.start .user units).touches .user unit = true := by
        simpa [touches, activates] using activating
      simp only [touched, file]
      show UnitState.running (UnitState.started _ _) = _ ∨ UnitState.running (UnitState.started _ _) = _
      rw [UnitState.running_started]
      cases (w.managers .user unit).running with
      | none => exact .inl rfl
      | some proc => exact .inr rfl
  | restart scope units =>
    cases scope with
    | system => cases activating
    | user =>
      have touched : (Command.restart .user units).touches .user unit = true := by
        simpa [touches, activates] using activating
      simp only [touched, file]
      exact .inl rfl
  | _ => cases activating

lemma perform_restart {units} (cur : files.user.get unit = some rev) (mem : unit ∈ units) :
    ((perform files w (.restart .user units)).managers .user unit).running = some rev := by
  have file : files.get .user unit = some rev := cur
  have touched : (Command.restart .user units).touches .user unit = true := by simpa [touches] using mem
  rw [managers_perform]
  simp only [touched, file]
  rfl

lemma perform_journal (silent : cmd.records = false) : (perform files w cmd).journal = w.journal := by
  cases cmd with
  | recordIntent cands => cases silent
  | _ => rfl

@[simp] lemma perform_committed : (perform files w cmd).committed = w.committed := by
  cases cmd <;> rfl

end Command

section
variable {files : UnitRevisions} {unit : String} {commands : List Command}

lemma foldl_perform_journal (silent : ∀ cmd ∈ commands, cmd.records = false) (w : World) :
    (commands.foldl (Command.perform files) w).journal = w.journal := by
  induction commands generalizing w with
  | nil => rfl
  | cons cmd rest ih =>
    have first := @Command.perform_journal files w cmd (silent cmd mem_cons_self)
    exact (ih (fun alt mem => silent alt (mem_cons_of_mem _ mem)) _).trans first

lemma foldl_perform_committed (commands : List Command) (w : World) :
    (commands.foldl (Command.perform files) w).committed = w.committed := by
  induction commands generalizing w with
  | nil => rfl
  | cons cmd rest ih => exact (ih _).trans Command.perform_committed

lemma foldl_perform_still (quiet : ∀ cmd ∈ commands, cmd.activates unit = false ∧ cmd.stops unit = false)
    (w : World) : ((commands.foldl (Command.perform files) w).managers .user unit).running =
      (w.managers .user unit).running := by
  induction commands generalizing w with
  | nil => rfl
  | cons cmd rest ih =>
    obtain ⟨idle, kept⟩ := quiet cmd mem_cons_self
    have first := @Command.perform_still files w unit cmd idle kept
    exact (ih (fun alt mem => quiet alt (mem_cons_of_mem _ mem)) _).trans first

lemma foldl_perform_quiet (quiet : ∀ cmd ∈ commands, cmd.activates unit = false) (w : World) :
    ((commands.foldl (Command.perform files) w).managers .user unit).running = none ∨
      ((commands.foldl (Command.perform files) w).managers .user unit).running = (w.managers .user unit).running := by
  induction commands generalizing w with
  | nil => exact .inr rfl
  | cons cmd rest ih =>
    have first := @Command.perform_quiet files w unit cmd (quiet cmd mem_cons_self)
    obtain ended | same := ih (fun alt mem => quiet alt (mem_cons_of_mem _ mem)) (Command.perform files w cmd)
    · exact .inl ended
    · rw [foldl_cons, same]
      exact first

lemma foldl_perform_running {rev} (cur : files.user.get unit = some rev) (commands : List Command) (w : World) :
    ((commands.foldl (Command.perform files) w).managers .user unit).running = none ∨
      ((commands.foldl (Command.perform files) w).managers .user unit).running = some rev ∨
      ((commands.foldl (Command.perform files) w).managers .user unit).running = (w.managers .user unit).running := by
  induction commands generalizing w with
  | nil => exact .inr (.inr rfl)
  | cons cmd rest ih =>
    obtain ended | adopted | same := ih (Command.perform files w cmd)
    · exact .inl ended
    · exact .inr (.inl adopted)
    · rw [foldl_cons, same]
      by_cases quiet : cmd.activates unit = false
      · obtain ended | kept := @Command.perform_quiet files w unit cmd quiet
        · exact .inl ended
        · exact .inr (.inr kept)
      · right
        apply Command.perform_activates cur
        simpa using quiet

variable {rev : String}

lemma interrupt_running (cur : files.user.get unit = some rev) (w : World) (cmd : Command) (err : Failure) :
    ((Command.interrupt files w cmd err).managers .user unit).running = none ∨
      ((Command.interrupt files w cmd err).managers .user unit).running = some rev ∨
      ((Command.interrupt files w cmd err).managers .user unit).running = (w.managers .user unit).running := by
  by_cases touched : cmd.touches .user unit = true
  · have performed := @foldl_perform_running files unit rev cur [cmd] w
    simp only [foldl_cons, foldl_nil, Command.managers_perform, touched] at performed
    cases out : err unit with
    | untouched => simp [Command.interrupt, touched, out]
    | lost =>
      left
      simp [Command.interrupt, touched, out, UnitState.running]
    | done => simpa [Command.interrupt, touched, out] using performed
  · right
    right
    simp [Command.interrupt, touched]

lemma interrupt_restart {units} (cur : files.user.get unit = some rev)
    (mem : unit ∈ units) (w : World) (err : Failure) :
    ((Command.interrupt files w (.restart .user units) err).managers .user
        unit).running = none ∨ ((Command.interrupt files w (.restart .user units) err).managers .user
        unit).running = some rev ∨ err unit = .untouched := by
  have file : files.get .user unit = some rev := cur
  have touched : (Command.restart .user units).touches .user unit = true := by simpa [Command.touches] using mem
  cases out : err unit with
  | untouched => exact .inr (.inr rfl)
  | lost =>
    left
    simp [Command.interrupt, touched, out, UnitState.running]
  | done =>
    right
    left
    simp [Command.interrupt, touched, out, file, Command.effect, UnitState.running_restarted]

end
end Clawdi.SystemdActivation
