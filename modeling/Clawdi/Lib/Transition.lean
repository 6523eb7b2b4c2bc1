import Mathlib.Data.List.Induction
import Mathlib.Data.List.Infix
import Mathlib.Order.Basic

namespace Clawdi.Transition
variable {σ α : Type*}

def run (step : σ → α → σ) (start : σ) (actions : List α) : σ := actions.foldl step start
@[simp] lemma run_nil (step : σ → α → σ) (s : σ) : run step s [] = s := rfl

@[simp] lemma run_cons (step : σ → α → σ) (s : σ) (a : α) (actions : List α) :
    run step s (a :: actions) = run step (step s a) actions := rfl

lemma run_append (step : σ → α → σ) (s : σ) (first second : List α) :
    run step s (first ++ second) = run step (run step s first) second :=
  List.foldl_append

def Reachable (step : σ → α → σ) (initial : σ → Prop) (s : σ) : Prop :=
  ∃ start actions, initial start ∧ run step start actions = s

lemma Reachable.run {step : σ → α → σ} {initial : σ → Prop} {s}
    (reached : Reachable step initial s) (actions : List α) : Reachable step initial (run step s actions) := by
  obtain ⟨start, before, first, rfl⟩ := reached
  exact ⟨start, before ++ actions, first, run_append _ _ _ _⟩

variable {guard : σ → α → Prop} {s : σ} {actions : List α}
variable {step : σ → α → σ} {first : σ → α → Prop} {inv : σ → Prop} {second : σ → α → Prop}

lemma run_invariant (keeps : ∀ s a, inv s → inv (step s a)) (holds : inv s) (actions : List α) :
    inv (run step s actions) := by
  induction actions generalizing s with
  | nil => exact holds
  | cons a actions ih => exact ih (keeps s a holds)

lemma Reachable.invariant {step : σ → α → σ} {initial inv : σ → Prop}
    (base : ∀ s, initial s → inv s) (keeps : ∀ s a, inv s → inv (step s a)) {s}
    (reached : Reachable step initial s) : inv s := by
  obtain ⟨start, actions, first, rfl⟩ := reached
  exact run_invariant keeps (base start first) actions

lemma run_related {step : σ → α → σ} {inv : σ → Prop} {rel : σ → σ → Prop}
    (refl : ∀ s, rel s s) (trans : ∀ s t u, rel s t → rel t u → rel s u)
    (keeps : ∀ s a, inv s → inv (step s a)) (related : ∀ s a, inv s → rel s (step s a))
    {s} (holds : inv s) (actions : List α) : rel s (run step s actions) := by
  induction actions generalizing s with
  | nil => exact refl s
  | cons a actions ih => exact trans _ _ _ (related s a holds) (ih (keeps s a holds))

lemma run_turns {step : σ → α → σ} {holds : σ → Prop} {s} (first : ¬holds s)
    {actions} (last : holds (run step s actions)) :
    ∃ before a after, actions = before ++ a :: after ∧ ¬holds (run step s before) ∧
      holds (step (run step s before) a) := by
  induction actions generalizing s with
  | nil => exact absurd last first
  | cons a actions ih =>
    by_cases here : holds (step s a)
    · exact ⟨[], a, actions, rfl, first, here⟩
    · obtain ⟨before, b, after, rfl, off, on⟩ := ih here last
      exact ⟨a :: before, b, after, rfl, off, on⟩

lemma run_turned {holds : σ → Prop} (first : ¬holds s) (last : holds (run step s actions)) :
    ∃ before a after, actions = before ++ a :: after ∧ ¬holds (run step s before) ∧
      ∀ middle, middle <+: after → holds (run step s (before ++ a :: middle)) := by
  induction actions using List.reverseRecOn with
  | nil => exact absurd last first
  | append_singleton actions b ih =>
    by_cases earlier : holds (run step s actions)
    · obtain ⟨before, a, after, rfl, off, on⟩ := ih earlier
      refine ⟨before, a, after ++ [b], by simp, off, ?_⟩
      intro middle part
      obtain whole | part := List.prefix_concat_iff.mp part
      · subst whole
        simpa using last
      · exact on middle part
    · refine ⟨actions, b, [], rfl, earlier, ?_⟩
      intro middle part
      obtain rfl := List.prefix_nil.mp part
      exact last

def Always (step : σ → α → σ) (guard : σ → α → Prop) : σ → List α → Prop
  | _, [] => True
  | s, a :: actions => guard s a ∧ Always step guard (step s a) actions

instance Always.decidable (step : σ → α → σ) (guard : σ → α → Prop)
    [decide : ∀ s a, Decidable (guard s a)] : ∀ s actions, Decidable (Always step guard s actions)
  | _, [] => .isTrue trivial
  | s, a :: actions =>
    have := decide s a
    have := Always.decidable step guard (step s a) actions
    inferInstanceAs (Decidable (guard s a ∧ Always step guard (step s a) actions))

lemma Always.of_mem (holds : ∀ a ∈ actions, ∀ s, guard s a) (s : σ) : Always step guard s actions := by
  induction actions generalizing s with
  | nil => exact trivial
  | cons a actions ih =>
    refine ⟨holds a List.mem_cons_self s, ?_⟩
    exact ih (fun b mem => holds b (List.mem_cons_of_mem a mem)) (step s a)

lemma Always.breaks (fails : ¬Always step guard s actions) :
    ∃ before a after, actions = before ++ a :: after ∧ Always step guard s before ∧ ¬guard (run step s before) a := by
  induction actions generalizing s with
  | nil => exact absurd trivial fails
  | cons a actions ih =>
    by_cases here : guard s a
    · obtain ⟨before, b, after, rfl, always, broken⟩ := ih fun rest => fails ⟨here, rest⟩
      exact ⟨a :: before, b, after, rfl, ⟨here, always⟩, broken⟩
    · exact ⟨[], a, actions, rfl, trivial, here⟩

lemma Always.imp (implies : ∀ s a, first s a → second s a) (always : Always step first s actions) :
    Always step second s actions := by
  induction actions generalizing s with
  | nil => exact trivial
  | cons a actions ih => exact ⟨implies s a always.1, ih always.2⟩

lemma Always.append {first second} : Always step guard s (first ++ second) ↔
      Always step guard s first ∧ Always step guard (run step s first) second := by
  induction first generalizing s with
  | nil => simp [Always]
  | cons a first ih => simp only [List.cons_append, Always, ih, run_cons, and_assoc]

lemma Always.and (one : Always step first s actions) (other : Always step second s actions) :
    Always step (fun s a => first s a ∧ second s a) s actions := by
  induction actions generalizing s with
  | nil => exact trivial
  | cons a actions ih => exact ⟨⟨one.1, other.1⟩, ih one.2 other.2⟩

lemma Always.invariant {step : σ → α → σ} {guard : σ → α → Prop} {inv : σ → Prop}
    (keeps : ∀ s a, inv s → guard s a → inv (step s a)) {s} (holds : inv s)
    {actions} (always : Always step guard s actions) : inv (run step s actions) := by
  induction actions generalizing s with
  | nil => exact holds
  | cons a actions ih => exact ih (keeps s a holds always.1) always.2

lemma Always.related {step : σ → α → σ} {guard : σ → α → Prop} {inv : σ → Prop}
    {rel : σ → σ → Prop} (refl : ∀ s, rel s s) (trans : ∀ s t u, rel s t → rel t u → rel s u)
    (keeps : ∀ s a, inv s → guard s a → inv (step s a))
    (related : ∀ s a, inv s → guard s a → rel s (step s a)) {s} (holds : inv s)
    {actions} (always : Always step guard s actions) : rel s (run step s actions) := by
  induction actions generalizing s with
  | nil => exact refl s
  | cons a actions ih =>
    have first : rel s (step s a) := related s a holds always.1
    exact trans _ _ _ first (ih (keeps s a holds always.1) always.2)

lemma Always.strengthen {conclusion : σ → α → Prop} (keeps : ∀ s a, inv s → guard s a → inv (step s a))
    (concludes : ∀ s a, inv s → guard s a → conclusion s a) (holds : inv s)
    (always : Always step guard s actions) : Always step conclusion s actions := by
  induction actions generalizing s with
  | nil => exact trivial
  | cons a actions ih => exact ⟨concludes s a holds always.1, ih (keeps s a holds always.1) always.2⟩

end Clawdi.Transition
