import Mathlib.Data.List.Basic

namespace Clawdi.Paging
open List
section
variable {ρ : Type*} (pos : ρ → Nat)

def resume (start : Nat) (consumed : List ρ) : Nat := (consumed.getLast?.map pos).getD start
@[simp] lemma resume_nil (start : Nat) : resume pos start [] = start := rfl

lemma resume_append (start : Nat) (front : List ρ) (row : ρ) : resume pos start (front ++ [row]) = pos row := by
  simp [resume]

variable {pos} {start : Nat} {consumed : List ρ}

lemma le_resume (later : ∀ row ∈ consumed, start < pos row) : start ≤ resume pos start consumed := by
  rcases eq_nil_or_concat consumed with rfl | ⟨front, row, rfl⟩
  · exact Nat.le_refl _
  · rw [concat_eq_append] at later ⊢
    rw [resume_append]
    exact Nat.le_of_lt (later row (mem_append_right _ mem_cons_self))

lemma resume_le {stop : Nat} (below : start ≤ stop) (within : ∀ row ∈ consumed, pos row ≤ stop) :
    resume pos start consumed ≤ stop := by
  rcases eq_nil_or_concat consumed with rfl | ⟨front, row, rfl⟩
  · exact below
  · rw [concat_eq_append] at within ⊢
    rw [resume_append]
    exact within row (mem_append_right _ mem_cons_self)

lemma resume_eq (later : ∀ row ∈ consumed, start < pos row)
    (stays : resume pos start consumed = start) : consumed = [] := by
  rcases eq_nil_or_concat consumed with rfl | ⟨front, row, rfl⟩
  · rfl
  · rw [concat_eq_append] at later stays
    rw [resume_append] at stays
    have ahead := later row (mem_append_right _ mem_cons_self)
    omega

lemma filter_resume {remaining} (ordered : (consumed ++ remaining).Pairwise fun a b => pos a < pos b)
    (later : ∀ row ∈ consumed ++ remaining, start < pos row) :
    (consumed ++ remaining).filter (fun row => resume pos start consumed < pos row) = remaining := by
  rcases eq_nil_or_concat consumed with rfl | ⟨front, last, rfl⟩
  · exact filter_eq_self.mpr fun row mem => decide_eq_true (later row mem)
  · rw [concat_eq_append] at ordered ⊢
    rw [resume_append, filter_append]
    have split := pairwise_append.mp ordered
    have before : ∀ row ∈ front ++ [last], ¬ pos last < pos row := by
      intro row mem
      rcases mem_append.mp mem with mem | mem
      · have lower := (pairwise_append.mp split.1).2.2 row mem last mem_cons_self
        omega
      · rw [mem_singleton.mp mem]
        omega
    have after : ∀ row ∈ remaining, pos last < pos row := fun row mem =>
      split.2.2 last (mem_append_right _ mem_cons_self) row mem
    rw [filter_eq_nil_iff.mpr (by simpa using before), filter_eq_self.mpr (by simpa using after), nil_append]

end

section
variable {ρ β κ : Type*} [DecidableEq κ]

/-- Fetches pages until the cursor stands still. -/
def drain (fetch : κ → Option (List β × κ)) : Nat → κ → Option (List β)
  | 0, _ => none
  | fuel + 1, cursor =>
    match fetch cursor with
    | none => none
    | some (items, next) => if next = cursor then some items else (drain fetch fuel next).map (items ++ ·)

/-- `rows` lists what is behind each position; a fetch consumes a prefix of it, nonempty while there is one. -/
structure Serves (fetch : κ → Option (List β × κ)) (cursorAt : Nat → κ) (pos : ρ → Nat)
    (rows : Nat → List ρ) (keep : ρ → Bool) (item : ρ → β) (start stop : Nat) : Prop where
  between : ∀ here, ∀ row ∈ rows here, here < pos row ∧ pos row ≤ stop
  distinct : ∀ here there, cursorAt here = cursorAt there → here = there
  page : ∀ here, start ≤ here → here ≤ stop → ∃ consumed remaining, rows here = consumed ++ remaining ∧
    rows (resume pos here consumed) = remaining ∧ (consumed = [] → remaining = []) ∧
    fetch (cursorAt here) = some ((consumed.filter keep).map item, cursorAt (resume pos here consumed))

lemma drain_complete {fetch : κ → Option (List β × κ)} {cursorAt : Nat → κ} {pos : ρ → Nat}
    {rows : Nat → List ρ} {keep : ρ → Bool} {item : ρ → β} {start stop : Nat}
    (serves : Serves fetch cursorAt pos rows keep item start stop) :
    ∀ fuel here, start ≤ here → here ≤ stop → (rows here).length < fuel →
      drain fetch fuel (cursorAt here) = some (((rows here).filter keep).map item) := by
  intro fuel
  induction fuel with
  | zero => intro here _ _ short; omega
  | succ fuel ih =>
    intro here later below short
    obtain ⟨consumed, remaining, parts, rest, exhausted, answer⟩ := serves.page here later below
    have within : ∀ row ∈ consumed, here < pos row ∧ pos row ≤ stop := fun row mem =>
      serves.between here row (parts ▸ mem_append_left _ mem)
    have ahead : ∀ row ∈ consumed, here < pos row := fun row mem => (within row mem).1
    simp only [drain, answer]
    split
    · rename_i stays
      have nothing := resume_eq ahead (serves.distinct _ _ stays)
      subst nothing
      rw [parts, exhausted rfl]
      rfl
    · rename_i moves
      have nonempty : consumed ≠ [] := fun nothing => moves (by rw [nothing, resume_nil])
      have longer := length_pos_of_ne_nil nonempty
      have shorter : (rows (resume pos here consumed)).length < fuel := by
        rw [rest]
        rw [parts, length_append] at short
        omega
      have stopped := resume_le below fun row mem => (within row mem).2
      rw [ih _ (Nat.le_trans later (le_resume ahead)) stopped shorter, rest, parts, filter_append, map_append]
      simp

end
end Clawdi.Paging
