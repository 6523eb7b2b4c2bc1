import Mathlib.Data.List.Basic

namespace Clawdi.FirstMatch
open List
variable {α : Type*} {p : α → Bool} {l : List α} {x : α} {before after : List α}

lemma find_middle (earlier : ∀ y ∈ before, p y = false) (holds : p x = true) :
    (before ++ x :: after).find? p = some x := by
  have skipped : before.find? p = none := by simpa using earlier
  rw [List.find?_append, skipped, List.find?_cons_of_pos holds]
  rfl

lemma eraseP_middle (earlier : ∀ y ∈ before, p y = false) (holds : p x = true) :
    (before ++ x :: after).eraseP p = before ++ after := by
  rw [eraseP_append_right _ (by simpa using earlier), eraseP_cons_of_pos holds]

lemma splits (found : l.find? p = some x) :
    ∃ before after, l = before ++ x :: after ∧ p x = true ∧ (∀ y ∈ before, p y = false) ∧
      l.eraseP p = before ++ after := by
  obtain ⟨holds, before, after, rfl, none⟩ := List.find?_eq_some_iff_append.mp found
  have earlier : ∀ y ∈ before, p y = false := by
    intro y mem
    simpa using none y mem
  exact ⟨before, after, rfl, holds, earlier, eraseP_middle earlier holds⟩

lemma perm (found : l.find? p = some x) : l.Perm (x :: l.eraseP p) := by
  obtain ⟨before, after, same, -, -, erased⟩ := splits found
  rw [erased, same]
  exact perm_middle

lemma eraseP_of_none (absent : l.find? p = none) : l.eraseP p = l := by
  apply eraseP_of_forall_not
  simpa using absent

lemma perm_toList (p : α → Bool) (l : List α) : l.Perm ((l.find? p).toList ++ l.eraseP p) := by
  cases found : l.find? p with
  | none =>
    rw [eraseP_of_none found]
    exact List.Perm.refl l
  | some x => exact perm found

lemma none_left {related : α → α → Prop} (apart : l.Pairwise fun a b => ¬related a b)
    (together : ∀ a b, p a → p b → related a b) : ∀ y ∈ l.eraseP p, p y = false := by
  intro y mem
  cases found : l.find? p with
  | none =>
    rw [eraseP_of_none found] at mem
    simpa using List.find?_eq_none.mp found y mem
  | some x =>
    obtain ⟨before, after, rfl, holds, earlier, erased⟩ := splits found
    rw [erased] at mem
    rcases mem_append.mp mem with first | later
    · exact earlier y first
    · have separate := (pairwise_cons.mp (pairwise_append.mp apart).2.1).1 y later
      cases matched : p y with
      | false => rfl
      | true => exact absurd (together x y holds matched) separate

lemma none_left_of_countP (unique : l.countP p ≤ 1) : ∀ y ∈ l.eraseP p, p y = false := by
  intro y mem
  cases found : l.find? p with
  | none =>
    rw [eraseP_of_none found] at mem
    simpa using List.find?_eq_none.mp found y mem
  | some x =>
    have rest : (l.eraseP p).countP p = 0 := by
      have total := (perm found).countP_eq p
      rw [countP_cons_of_pos (List.find?_some found)] at total
      omega
    simpa using countP_eq_zero.mp rest y mem

lemma eraseP_eq [DecidableEq α] (found : l.find? p = some x) : l.eraseP p = l.eraseP fun y => decide (y = x) := by
  obtain ⟨before, after, rfl, holds, earlier, erased⟩ := splits found
  have other : ∀ y ∈ before, decide (y = x) = false := by
    intro y mem
    apply decide_eq_false
    intro same
    rw [same] at mem
    rw [earlier x mem] at holds
    cases holds
  rw [erased, eraseP_middle other (by simp)]

lemma first_least {r : α → α → Prop} (ordered : l.Pairwise r) (found : l.find? p = some x) {y}
    (mem : y ∈ l) (holds : p y = true) : y = x ∨ r x y := by
  obtain ⟨before, after, rfl, -, earlier, -⟩ := splits found
  rcases mem_append.mp mem with first | rest
  · rw [earlier y first] at holds
    cases holds
  · rcases mem_cons.mp rest with same | later
    · left
      exact same
    · right
      have parts := pairwise_append.mp ordered
      exact (pairwise_cons.mp parts.2.1).1 y later

end Clawdi.FirstMatch
