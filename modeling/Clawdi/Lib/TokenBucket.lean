import Mathlib.Algebra.Order.Field.Basic
import Mathlib.Tactic.Linarith
import Mathlib.Tactic.Ring

namespace Clawdi.TokenBucket

def spentIn {α : Type*} [LinearOrder α] (first last : α) (uses : List (α × Bool)) : ℕ :=
  uses.countP fun use => use.2 && decide (first ≤ use.1 ∧ use.1 ≤ last)

section
variable {α : Type*} [LinearOrder α] {first last time : α} {uses : List (α × Bool)}

lemma spentIn_of_idle : spentIn first last ((time, false) :: uses) = spentIn first last uses := by simp [spentIn]

lemma spentIn_outside (outside : ¬(first ≤ time ∧ time ≤ last)) (spent : Bool) :
    spentIn first last ((time, spent) :: uses) = spentIn first last uses := by
  simp [spentIn, outside]

lemma spentIn_le_succ (first last : α) (use : α × Bool) (uses : List (α × Bool)) :
    spentIn first last (use :: uses) ≤ spentIn first last uses + 1 := by
  rw [spentIn, List.countP_cons]
  split <;> simp [spentIn]

end

variable {α : Type*} [Field α] [LinearOrder α]

def refill (capacity rate level elapsed : α) : α := min capacity (level + elapsed * rate)

variable {capacity rate level elapsed : α}

lemma refill_le : refill capacity rate level elapsed ≤ capacity := min_le_left _ _
lemma refill_le_add : refill capacity rate level elapsed ≤ level + elapsed * rate := min_le_right _ _
lemma refill_zero (bound : level ≤ capacity) : refill capacity rate level 0 = level := by simp [refill, bound]

variable [IsStrictOrderedRing α]

lemma refill_nonneg (bound : 0 ≤ capacity) (speed : 0 ≤ rate) (some : 0 ≤ level)
    (later : 0 ≤ elapsed) : 0 ≤ refill capacity rate level elapsed := by
  have gained : 0 ≤ elapsed * rate := mul_nonneg later speed
  apply le_min bound
  linarith

lemma refill_full (speed : 0 ≤ rate) (later : 0 ≤ elapsed) : refill capacity rate capacity elapsed = capacity := by
  have gained : 0 ≤ elapsed * rate := mul_nonneg later speed
  apply min_eq_left
  linarith

lemma refill_eq_capacity (some : 0 ≤ level) (long : capacity ≤ elapsed * rate) :
    refill capacity rate level elapsed = capacity := by
  apply min_eq_left
  linarith

lemma refill_refill {more} (speed : 0 ≤ rate) (later : 0 ≤ more) :
    refill capacity rate (refill capacity rate level elapsed) more = refill capacity rate level (elapsed + more) := by
  have gained : 0 ≤ more * rate := mul_nonneg later speed
  have split : (elapsed + more) * rate = elapsed * rate + more * rate := by ring
  unfold refill
  rw [split]
  rcases le_total capacity (level + elapsed * rate) with full | below
  · rw [min_eq_left full, min_eq_left (by linarith), min_eq_left (by linarith)]
  · rw [min_eq_right below, add_assoc]

inductive Metered (capacity rate : α) : α → α → List (α × Bool) → Prop
  | nil (time level : α) : Metered capacity rate time level []
  | idle {time level next : α} {uses : List (α × Bool)} (later : time ≤ next)
      (rest : Metered capacity rate next (refill capacity rate level (next - time)) uses) :
      Metered capacity rate time level ((next, false) :: uses)
  | spend {time level next : α} {uses : List (α × Bool)} (later : time ≤ next)
      (covered : 1 ≤ refill capacity rate level (next - time))
      (rest : Metered capacity rate next (refill capacity rate level (next - time) - 1) uses) :
      Metered capacity rate time level ((next, true) :: uses)

section
variable {first last time : α} {uses : List (α × Bool)}

omit [IsStrictOrderedRing α] in
lemma Metered.spentIn_eq_zero (metered : Metered capacity rate time level uses)
    (late : last < time) : spentIn first last uses = 0 := by
  induction metered with
  | nil => rfl
  | idle later _ ih => rw [spentIn_of_idle, ih (late.trans_le later)]
  | spend later _ _ ih =>
    rw [spentIn_outside (fun inside => not_lt.mpr inside.2 (late.trans_le later)), ih (late.trans_le later)]

lemma Metered.spentIn_le (metered : Metered capacity rate time level uses) (bound : 0 ≤ capacity)
    (speed : 0 ≤ rate) (some : 0 ≤ level) (before : time ≤ last) :
    (spentIn first last uses : α) ≤ level + (last - time) * rate := by
  induction metered with
  | nil time level =>
    have gained : 0 ≤ (last - time) * rate := mul_nonneg (sub_nonneg.mpr before) speed
    simp only [spentIn, List.countP_nil, Nat.cast_zero]
    linarith
  | @idle time level next uses later rest ih =>
    have gained : 0 ≤ (last - time) * rate := mul_nonneg (sub_nonneg.mpr before) speed
    rw [spentIn_of_idle]
    rcases le_or_gt next last with inside | beyond
    · have least := refill_nonneg bound speed some (sub_nonneg.mpr later)
      have most : refill capacity rate level (next - time) ≤ level + (next - time) * rate := refill_le_add
      have others := ih least inside
      linarith
    · rw [rest.spentIn_eq_zero beyond, Nat.cast_zero]
      linarith
  | @spend time level next uses later covered rest ih =>
    have gained : 0 ≤ (last - time) * rate := mul_nonneg (sub_nonneg.mpr before) speed
    rcases le_or_gt next last with inside | beyond
    · have most : refill capacity rate level (next - time) ≤ level + (next - time) * rate :=
        refill_le_add
      have others := ih (sub_nonneg.mpr covered) inside
      have one : (spentIn first last ((next, true) :: uses) : α) ≤ spentIn first last uses + 1 := by
        exact_mod_cast spentIn_le_succ first last (next, true) uses
      linarith
    · rw [spentIn_outside (fun inside => not_lt.mpr inside.2 beyond), rest.spentIn_eq_zero beyond, Nat.cast_zero]
      linarith

lemma Metered.spentIn_interval (metered : Metered capacity rate time level uses)
    (bound : 0 ≤ capacity) (speed : 0 ≤ rate) (some : 0 ≤ level) (order : first ≤ last) :
    (spentIn first last uses : α) ≤ capacity + (last - first) * rate := by
  have whole : 0 ≤ capacity + (last - first) * rate := add_nonneg bound (mul_nonneg (sub_nonneg.mpr order) speed)
  induction metered with
  | nil => simpa [spentIn] using whole
  | @idle time level next uses later rest ih => exact ih (refill_nonneg bound speed some (sub_nonneg.mpr later))
  | @spend time level next uses later covered rest ih =>
    have left : 0 ≤ refill capacity rate level (next - time) - 1 := sub_nonneg.mpr covered
    rcases lt_or_ge next first with early | started
    · rw [spentIn_outside fun inside => not_lt.mpr inside.1 early]
      exact ih left
    · rcases le_or_gt next last with inside | beyond
      · -- the bucket held at most its capacity when the interval had begun
        have most : refill capacity rate level (next - time) ≤ capacity := refill_le
        have others := @Metered.spentIn_le α _ _ _ _ _ _ first last _ _ rest bound speed left inside
        have one : (spentIn first last ((next, true) :: uses) : α) ≤
            spentIn first last uses + 1 := by exact_mod_cast spentIn_le_succ first last (next, true) uses
        have shorter : (last - next) * rate ≤ (last - first) * rate :=
          mul_le_mul_of_nonneg_right (by linarith) speed
        linarith
      · rw [spentIn_outside (fun inside => not_lt.mpr inside.2 beyond), rest.spentIn_eq_zero beyond, Nat.cast_zero]
        exact whole

end
end Clawdi.TokenBucket
