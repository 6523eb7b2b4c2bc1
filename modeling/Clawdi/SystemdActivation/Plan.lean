import Clawdi.SystemdActivation.Execution
import Mathlib

namespace Clawdi.SystemdActivation
open List
namespace Revisions

lemma get_append (first snd : Revisions) (unit : String) :
    Revisions.get (first ++ snd) unit = (first.get unit).or (snd.get unit) := by
  induction first with
  | nil => rfl
  | cons e rest ih =>
    obtain ⟨name, rev⟩ := e
    by_cases same : unit = name
    · subst same
      simp [get, List.lookup]
    · simpa [get, List.lookup, beq_eq_false_iff_ne.mpr same] using ih

lemma get_filter (revisions : Revisions) (keep : String → Bool) (unit : String) :
    Revisions.get (revisions.filter fun e => keep e.1) unit = if keep unit then revisions.get unit else none := by
  induction revisions with
  | nil => simp [get]
  | cons e rest ih =>
    obtain ⟨name, rev⟩ := e
    by_cases same : unit = name
    · subst same
      cases kept : keep unit with
      | true => simp [get, List.lookup, kept]
      | false => simpa [get, List.lookup, kept] using ih
    · have ne := beq_eq_false_iff_ne.mpr same
      cases kept : keep name <;> simpa [get, List.lookup, kept, ne] using ih

lemma has_iff {revisions : Revisions} {unit} : revisions.has unit = true ↔ unit ∈ revisions.keys := by
  induction revisions with
  | nil => simp [has, get, keys]
  | cons e rest ih =>
    obtain ⟨name, rev⟩ := e
    by_cases same : unit = name
    · subst same
      simp [has, get, keys, List.lookup]
    · have ne := beq_eq_false_iff_ne.mpr same
      simp [has, get, keys, List.lookup, ne, same]

lemma get_filterMap (units : List String) (v : String → Option String) (unit : String) :
    Revisions.get (units.filterMap fun name => (v name).map fun rev => (name, rev)) unit =
      if unit ∈ units then v unit else none := by
  induction units with
  | nil => rfl
  | cons name rest ih =>
    by_cases same : unit = name
    · subst same
      cases hit : v unit with
      | some rev => simp [get, hit]
      | none => simpa [hit] using ih
    · have ne := beq_eq_false_iff_ne.mpr same
      cases hit : v name with
      | some rev =>
        simp only [get] at ih
        simp [get, hit, List.lookup, ne, same, ih]
      | none => simpa [hit, same] using ih

end Revisions

namespace Attempt
variable {att : Attempt} {views : Views} {unit : String}

lemma mem_call {cmd : List String → Command} {units made} :
    made ∈ call cmd units ↔ units ≠ [] ∧ made = cmd units := by
  unfold call
  cases units <;> simp

lemma user_present_has (here : unit ∈ att.user.present) : att.after.user.has unit = true := by
  rw [Revisions.has_iff]
  unfold user inUserScope at here
  cases scope : att.activationScope with
  | none =>
    rw [scope] at here
    exact here
  | some scope' =>
    rw [scope] at here
    exact (mem_filter.mp here).1

lemma user_removed_has (removed : unit ∈ att.user.removed) : att.after.user.has unit = false := by
  have gone : unit ∈ att.before.user.keys.filter fun name => !att.after.user.has name := by
    unfold user inUserScope at removed
    cases scope : att.activationScope with
    | none =>
      rw [scope] at removed
      exact removed
    | some scope' =>
      rw [scope] at removed
      exact (mem_filter.mp removed).1
  simpa using (mem_filter.mp gone).2

lemma system_present_has (here : unit ∈ att.system.present) : att.after.system.has unit = true := by
  rw [Revisions.has_iff]
  exact (mem_filter.mp here).1

def activating (att : Attempt) (views : Views) : List String := att.startUserUnits views ++ att.restartUserUnits views

lemma activating_present (mem : unit ∈ att.activating views) : unit ∈ att.user.present := by
  obtain started | restarted := mem_append.mp mem
  · exact (mem_filter.mp started).1
  · exact (mem_filter.mp restarted).1

lemma activationIntent_get : (att.activationIntent views).get unit =
      if (att.activating views).contains unit then att.after.user.get unit else none :=
  Revisions.get_filter _ (fun name => (att.activating views).contains name) _

lemma preflight_quiet (unit : String) : ∀ cmd ∈ att.preflight, cmd.activates unit = false ∧
      cmd.stops unit = false ∧ cmd.records = false := by
  intro cmd mem
  unfold preflight at mem
  simp only [mem_append, mem_call] at mem
  obtain ⟨_, rfl⟩ | ⟨_, rfl⟩ := mem <;> exact ⟨rfl, rfl, rfl⟩

lemma activateSystemUnits_quiet (unit : String) :
    ∀ cmd ∈ att.activateSystemUnits views, cmd.activates unit = false ∧
      cmd.stops unit = false ∧ cmd.records = false := by
  intro cmd mem
  unfold activateSystemUnits at mem
  simp only [mem_append, mem_call] at mem
  obtain ⟨_, rfl⟩ | ⟨_, rfl⟩ := mem <;> exact ⟨rfl, rfl, rfl⟩

lemma prepare_quiet (unit : String) : ∀ cmd ∈ att.prepare views, cmd.activates unit = false ∧
      (cmd.stops unit = true → unit ∈ att.user.removed) ∧ cmd.records = false := by
  intro cmd mem
  unfold prepare at mem
  simp only [mem_append, mem_call, mem_ite_nil_right, mem_singleton, mem_ite_nil_left] at mem
  obtain ((((((((((⟨_, rfl⟩ | ⟨_, rfl⟩) | ⟨_, rfl⟩) | ⟨_, rfl⟩) | ⟨_, rfl⟩) | ⟨_, rfl⟩) | ⟨_, rfl⟩) |
    ⟨_, rfl⟩) | ⟨_, system⟩) | ⟨_, rfl⟩) | ⟨_, rfl⟩) := mem
  case inl.inl.inr =>
    obtain ⟨idle, kept, silent⟩ := activateSystemUnits_quiet unit cmd system
    exact ⟨idle, by simp [kept], silent⟩
  all_goals exact ⟨rfl, by simp [Command.stops], rfl⟩

lemma activateUser_quiet (unit : String) : ∀ cmd ∈ att.activateUser views,
      (cmd.activates unit = true → unit ∈ att.activating views) ∧ cmd.stops unit = false ∧ cmd.records = false := by
  have starts : ∀ units, (∀ name ∈ units, name ∈ att.startUserUnits views) →
      (Command.activates unit (.start .user units) = true → unit ∈ att.activating views) ∧
        Command.stops unit (.start .user units) = false ∧
        Command.records (.start .user units) = false := by
    intro units within
    refine ⟨?_, rfl, rfl⟩
    intro activates
    have mem : unit ∈ units := by simpa [Command.activates] using activates
    exact mem_append_left _ (within unit mem)
  have warm : att.warmHermes views = true → dashboard ∈ att.startUserUnits views := by
    intro warm
    simp only [warmHermes, Bool.and_eq_true, contains_iff_mem] at warm
    exact warm.1.2
  have single : att.warmHermes views = true →
      ∀ name ∈ [dashboard], name ∈ att.startUserUnits views := by
    intro isWarm name mem
    obtain rfl := mem_singleton.mp mem
    exact warm isWarm
  intro cmd mem
  obtain mem | restart := mem_append.mp mem
  · obtain mem | start := mem_append.mp mem
    · obtain early | system := mem_append.mp mem
      · by_cases isEarly : att.earlyDashboard views = true
        · rw [if_pos isEarly] at early
          have isWarm : att.warmHermes views = true := by
            simp only [earlyDashboard, Bool.and_eq_true] at isEarly
            exact isEarly.1.1.2
          simp only [mem_cons, not_mem_nil, or_false] at early
          obtain rfl | rfl := early
          · exact ⟨fun never => absurd never (by simp [Command.activates]), rfl, rfl⟩
          · exact starts _ (single isWarm)
        · rw [if_neg isEarly] at early
          cases early
      · by_cases pool : att.poolPath = true
        · rw [if_pos pool] at system
          obtain ⟨idle, kept, silent⟩ := activateSystemUnits_quiet unit cmd system
          exact ⟨fun never => absurd never (by simp [idle]), kept, silent⟩
        · rw [if_neg pool] at system
          cases system
    · by_cases none_starts : (att.startUserUnits views).isEmpty = true
      · rw [if_pos none_starts] at start
        cases start
      · rw [if_neg none_starts] at start
        by_cases isWarm : att.warmHermes views = true
        · rw [if_pos isWarm] at start
          obtain first | rest := mem_append.mp start
          · by_cases isEarly : att.earlyDashboard views = true
            · rw [if_pos isEarly] at first
              cases first
            · rw [if_neg isEarly] at first
              obtain rfl := mem_singleton.mp first
              exact starts _ (single isWarm)
          · simp only [mem_cons, not_mem_nil, or_false] at rest
            obtain rfl | rfl := rest
            · exact ⟨fun never => absurd never (by simp [Command.activates]), rfl, rfl⟩
            · exact starts _ fun name inside => mem_of_mem_filter inside
        · rw [if_neg isWarm] at start
          obtain rfl := mem_singleton.mp start
          exact starts _ fun name inside => inside
  · obtain ⟨_, rfl⟩ := mem_call.mp restart
    refine ⟨?_, rfl, rfl⟩
    intro activates
    have inside : unit ∈ att.restartUserUnits views := by simpa [Command.activates] using activates
    exact mem_append_right _ inside

end Attempt
end Clawdi.SystemdActivation
