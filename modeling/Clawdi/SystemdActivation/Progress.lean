import Clawdi.SystemdActivation.Plan

namespace Clawdi.SystemdActivation
open List
namespace Attempt
variable (att : Attempt) (views : Views)

def quietCommands : List Command := att.preflight ++ att.prepare views

def recording : List Command :=
  call (fun _ => .recordIntent (att.activationIntent views)) (att.activationIntent views).keys

lemma commands_eq : att.commands views =
      att.quietCommands views ++ (att.recording views ++ att.activateUser views) := by
  simp [commands, quietCommands, recording, append_assoc]

def RestartLost (calls : List (Option Failure)) (unit : String) : Prop :=
  ∃ idx err, calls[idx]? = some (some err) ∧ (∀ earlier < idx, ∀ alt, calls[earlier]? ≠ some (some alt)) ∧
    (att.quietCommands views ++ att.recording views).length ≤ idx ∧
    idx < (att.commands views).length ∧
    (idx + 1 = (att.commands views).length → err unit = .untouched)

variable {att views}

lemma recording_cases : att.recording views = [] ∧ att.activationIntent views = [] ∨
      att.recording views = [.recordIntent (att.activationIntent views)] := by
  unfold recording call
  cases intent : att.activationIntent views with
  | nil => exact .inl ⟨rfl, rfl⟩
  | cons e rest => exact .inr rfl

lemma quietCommands_quiet (unit : String) : ∀ cmd ∈ att.quietCommands views, cmd.activates unit = false ∧
      (cmd.stops unit = true → unit ∈ att.user.removed) ∧ cmd.records = false := by
  intro cmd mem
  obtain early | prepared := mem_append.mp mem
  · obtain ⟨idle, kept, silent⟩ := preflight_quiet unit cmd early
    exact ⟨idle, by simp [kept], silent⟩
  · exact prepare_quiet unit cmd prepared

lemma recording_quiet (unit : String) :
    ∀ cmd ∈ att.recording views, cmd.activates unit = false ∧ cmd.stops unit = false := by
  intro cmd mem
  obtain ⟨_, rfl⟩ := mem_call.mp mem
  exact ⟨rfl, rfl⟩

variable {unit : String}

lemma commands_activates : ∀ cmd ∈ att.commands views, cmd.activates unit = true → unit ∈ att.activating views := by
  intro cmd mem activates
  rw [commands_eq] at mem
  obtain quiet | mem := mem_append.mp mem
  · rw [(quietCommands_quiet unit cmd quiet).1] at activates
    cases activates
  · obtain records | user := mem_append.mp mem
    · rw [(recording_quiet unit cmd records).1] at activates
      cases activates
    · exact (activateUser_quiet unit cmd user).1 activates

lemma commands_stops : ∀ cmd ∈ att.commands views, cmd.stops unit = true → unit ∈ att.user.removed := by
  intro cmd mem stops
  rw [commands_eq] at mem
  obtain quiet | mem := mem_append.mp mem
  · exact (quietCommands_quiet unit cmd quiet).2.1 stops
  · obtain records | user := mem_append.mp mem
    · rw [(recording_quiet unit cmd records).2] at stops
      cases stops
    · rw [(activateUser_quiet unit cmd user).2.1] at stops
      cases stops

lemma journal_after {files} (w : World) {rest} (silent : ∀ cmd ∈ rest, cmd.records = false) (unit : String) :
    (((att.quietCommands views ++ (att.recording views ++ rest)).foldl (Command.perform files) w).journal).get unit =
      ((att.activationIntent views).get unit).or (w.journal.get unit) := by
  have quiet : ∀ cmd ∈ att.quietCommands views, cmd.records = false :=
    fun cmd mem => (quietCommands_quiet unit cmd mem).2.2
  rw [foldl_append, foldl_append, foldl_perform_journal silent]
  obtain ⟨none_recorded, empty⟩ | noted := @recording_cases att views
  · rw [none_recorded, empty]
    simp [foldl_perform_journal quiet, Revisions.get]
  · rw [noted]
    show Revisions.get (_ ++ (World.journal _)) unit = _
    rw [Revisions.get_append, foldl_perform_journal quiet]

lemma restart_last (mem : unit ∈ att.restartUserUnits views) : ∃ earlier, att.activateUser views =
      earlier ++ [.restart .user (att.restartUserUnits views)] := by
  have nonempty : (att.restartUserUnits views).isEmpty = false := by
    cases units : att.restartUserUnits views with
    | nil =>
      rw [units] at mem
      cases mem
    | cons => rfl
  have called : call (.restart .user) (att.restartUserUnits views) =
      [.restart .user (att.restartUserUnits views)] := by
    unfold call
    rw [nonempty]
    rfl
  unfold activateUser
  rw [called]
  exact ⟨_, rfl⟩

inductive UnitProgress (att : Attempt) (calls : List (Option Failure)) (w left : World)
    (unit : String) : Bool → Prop
  | unrecorded (journal : left.journal = w.journal)
      (ended : (left.managers .user unit).running = none ∨
        (left.managers .user unit).running = (w.managers .user unit).running) :
      UnitProgress att calls w left unit false
  | idle (completed : Bool)
      (journal : left.journal.get unit = w.journal.get unit)
      (idle : unit ∉ att.activating w.views)
      (ended : (left.managers .user unit).running = none ∨
        (left.managers .user unit).running = (w.managers .user unit).running)
      (still : completed = true → unit ∉ att.user.removed →
        (left.managers .user unit).running = (w.managers .user unit).running) :
      UnitProgress att calls w left unit completed
  | activating (completed : Bool) (rev : String)
      (cur : att.after.user.get unit = some rev)
      (mem : unit ∈ att.activating w.views)
      (journal : left.journal.get unit = some rev)
      (runs : (left.managers .user unit).running = none ∨ (left.managers .user unit).running = some rev ∨
        (left.managers .user unit).running = (w.managers .user unit).running)
      (restarted : unit ∈ att.restartUserUnits w.views → completed = true →
        (left.managers .user unit).running = some rev)
      (interrupted : unit ∈ att.restartUserUnits w.views → completed = false →
        (left.managers .user unit).running = none ∨
        (left.managers .user unit).running = some rev ∨
        att.RestartLost w.views calls unit) :
      UnitProgress att calls w left unit completed

lemma candidate_of_activating (mem : unit ∈ att.activating views) : ∃ rev, att.after.user.get unit = some rev :=
  Option.isSome_iff_exists.mp (user_present_has (activating_present mem))

lemma intent_of_activating (mem : unit ∈ att.activating views) :
    (att.activationIntent views).get unit = att.after.user.get unit := by
  rw [activationIntent_get, if_pos (contains_iff_mem.mpr mem)]

lemma intent_of_idle (idle : unit ∉ att.activating views) : (att.activationIntent views).get unit = none := by
  rw [activationIntent_get, if_neg]
  rw [contains_iff_mem]
  exact idle

lemma progress_completed (att : Attempt) (calls : List (Option Failure)) (w : World)
    (unit : String) : UnitProgress att calls w ((att.commands w.views).foldl
        (Command.perform att.after.toUnitRevisions) w) unit true := by
  have silent : ∀ cmd ∈ att.activateUser w.views, cmd.records = false :=
    fun cmd inside => (activateUser_quiet unit cmd inside).2.2
  have journal := @journal_after att w.views att.after.toUnitRevisions w _ silent unit
  rw [← commands_eq] at journal
  by_cases mem : unit ∈ att.activating w.views
  · obtain ⟨rev, cur⟩ := candidate_of_activating mem
    rw [intent_of_activating mem, cur] at journal
    apply UnitProgress.activating true rev cur mem journal
    · exact foldl_perform_running cur _ _
    · intro restarts _
      obtain ⟨earlier, last⟩ := restart_last restarts
      rw [commands_eq, last, ← append_assoc, ← append_assoc, foldl_append]
      exact Command.perform_restart cur restarts
    · intro _ never
      cases never
  · rw [intent_of_idle mem] at journal
    have quiet : ∀ cmd ∈ att.commands w.views, cmd.activates unit = false := by
      intro cmd inside
      by_contra activates
      exact mem (commands_activates cmd inside (by simpa using activates))
    apply UnitProgress.idle true journal mem (foldl_perform_quiet quiet w)
    intro _ here
    apply foldl_perform_still
    intro cmd inside
    refine ⟨quiet cmd inside, ?_⟩
    by_contra stops
    exact here (commands_stops cmd inside (by simpa using stops))

variable {pre : List Command} {cmd : Command}

lemma unrecorded_of_quiet {calls w err} (quiet : ∀ alt ∈ pre, alt.activates unit = false ∧ alt.records = false)
    (idle : cmd.activates unit = false) : UnitProgress att calls w (Command.interrupt att.after.toUnitRevisions
        (pre.foldl (Command.perform att.after.toUnitRevisions) w) cmd err) unit false := by
  apply UnitProgress.unrecorded
  · exact foldl_perform_journal (fun alt mem => (quiet alt mem).2) w
  · obtain ended | same := Command.interrupt_quiet idle err
    · exact .inl ended
    · rw [same]
      exact foldl_perform_quiet (fun alt mem => (quiet alt mem).1) w

lemma progress_interrupted {calls} {w : World} {after} {err} (split : att.commands w.views = pre ++ cmd :: after)
    (fails : calls[pre.length]? = some (some err))
    (first : ∀ earlier < pre.length, ∀ alt, calls[earlier]? ≠ some (some alt)) (unit : String) :
    UnitProgress att calls w (Command.interrupt att.after.toUnitRevisions
        (pre.foldl (Command.perform att.after.toUnitRevisions) w) cmd err) unit false := by
  have whole := commands_eq att w.views
  rw [split] at whole
  obtain ⟨rest, early⟩ | ⟨rest, rfl, later⟩ := Sequence.split_append whole.symm
  · -- the call fails before the journal is written
    apply unrecorded_of_quiet
    · intro alt mem
      obtain ⟨idle, _, silent⟩ := @quietCommands_quiet att w.views unit alt
        (by rw [early]; exact mem_append_left _ mem)
      exact ⟨idle, silent⟩
    · apply (@quietCommands_quiet att w.views unit cmd _).1
      rw [early]
      exact mem_append_right _ mem_cons_self
  · obtain ⟨rest', early⟩ | ⟨user, rfl, last⟩ := Sequence.split_append later
    · -- the journal itself cannot be written
      have first_record : rest = [] := by
        obtain ⟨none_recorded, _⟩ | noted := @recording_cases att w.views
        · rw [none_recorded] at early
          simp at early
        · rw [noted] at early
          cases rest with
          | nil => rfl
          | cons alt rest => simp at early
      subst first_record
      apply unrecorded_of_quiet
      · intro alt mem
        obtain ⟨idle, _, silent⟩ := @quietCommands_quiet att w.views unit alt (by simpa using mem)
        exact ⟨idle, silent⟩
      · apply (@recording_quiet att w.views unit cmd _).1
        rw [early]
        exact mem_append_right _ mem_cons_self
    · -- the call fails while the user units are activated
      have silent : ∀ alt ∈ user, alt.records = false := by
        intro alt mem
        apply (@activateUser_quiet att w.views unit alt _).2.2
        rw [last]
        exact mem_append_left _ mem
      have journal := @journal_after att w.views att.after.toUnitRevisions w _ silent unit
      have inside : ∀ alt ∈ att.quietCommands w.views ++
          (att.recording w.views ++ user), alt ∈ att.commands w.views := by
        intro alt mem
        rw [split]
        exact mem_append_left _ mem
      by_cases mem : unit ∈ att.activating w.views
      · obtain ⟨rev, cur⟩ := candidate_of_activating mem
        rw [intent_of_activating mem, cur] at journal
        refine UnitProgress.activating false rev cur mem ?_ ?_ ?_ ?_
        · exact journal
        · obtain ended | adopted | same := interrupt_running cur ((att.quietCommands w.views ++
              (att.recording w.views ++ user)).foldl (Command.perform att.after.toUnitRevisions) w) cmd err
          · exact .inl ended
          · exact .inr (.inl adopted)
          · rw [same]
            exact foldl_perform_running cur _ _
        · intro _ never
          cases never
        · intro restarts _
          have length : (att.commands w.views).length = (att.quietCommands w.views ++
                (att.recording w.views ++ user)).length + after.length + 1 := by
            rw [split, length_append, length_cons]
            omega
          have late : (att.quietCommands w.views ++ att.recording w.views).length ≤ (att.quietCommands w.views ++
                (att.recording w.views ++ user)).length := by
            simp only [length_append]
            omega
          cases after with
          | cons next after =>
            right
            right
            refine ⟨_, err, fails, first, late, by omega, ?_⟩
            intro isLast
            rw [length, length_cons] at isLast
            omega
          | nil =>
            obtain ⟨earlier, restart⟩ := restart_last restarts
            have same : cmd = .restart .user (att.restartUserUnits w.views) := by
              rw [restart] at last
              have singleton := (append_inj' last rfl).2
              exact (List.cons.inj singleton).1.symm
            subst same
            obtain ended | adopted | untouched :=
              interrupt_restart cur restarts ((att.quietCommands w.views ++
                (att.recording w.views ++ user)).foldl (Command.perform att.after.toUnitRevisions) w) err
            · exact .inl ended
            · exact .inr (.inl adopted)
            · right
              right
              exact ⟨_, err, fails, first, late, by omega, fun _ => untouched⟩
      · rw [intent_of_idle mem] at journal
        have idle : ∀ alt ∈ att.commands w.views, alt.activates unit = false := by
          intro alt isCommand
          by_contra activates
          exact mem (commands_activates alt isCommand (by simpa using activates))
        have quiet : cmd.activates unit = false := by
          apply idle
          rw [split]
          exact mem_append_right _ mem_cons_self
        refine UnitProgress.idle false ?_ mem ?_ ?_
        · exact journal
        · obtain ended | same := @Command.interrupt_quiet att.after.toUnitRevisions _ unit cmd quiet err
          · exact .inl ended
          · rw [same]
            exact foldl_perform_quiet (fun alt isBefore => idle alt (inside alt isBefore)) w
        · intro never
          cases never

end Attempt
end Clawdi.SystemdActivation
