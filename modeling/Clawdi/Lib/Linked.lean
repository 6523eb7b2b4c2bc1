import Mathlib.Order.Nat
import Mathlib.Data.List.Basic

namespace Clawdi
open List
variable {ρ σ : Type*} {source target : ρ → σ}

/-- The links lead from `start` to `stop`, each from the place where the one before it ends. -/
def Linked (source target : ρ → σ) : σ → List ρ → σ → Prop
  | start, [], stop => start = stop
  | start, link :: links, stop => source link = start ∧ Linked source target (target link) links stop

namespace Linked

@[simp] lemma nil {start stop} : Linked source target start [] stop ↔ start = stop := Iff.rfl

lemma concat {start stop links} (linked : Linked source target start links stop)
    {link} (next : source link = stop) : Linked source target start (links ++ [link]) (target link) := by
  induction links generalizing start with
  | nil =>
    subst linked
    exact ⟨next, rfl⟩
  | cons first links ih => exact ⟨linked.1, ih linked.2⟩

lemma stop_unique {start stop other links} (linked : Linked source target start links stop)
    (again : Linked source target start links other) : stop = other := by
  induction links generalizing start with
  | nil => exact Eq.trans (Eq.symm linked) again
  | cons first links ih => exact ih linked.2 again.2

section
variable (rank : σ → ℕ) {start stop : σ} {links : List ρ}
section
variable (linked : Linked source target start links stop)
include linked

lemma rank_le (grows : ∀ link ∈ links, rank (source link) < rank (target link)) : rank start ≤ rank stop := by
  induction links generalizing start with
  | nil => exact le_of_eq (congrArg rank linked)
  | cons first links ih =>
    have step : rank (source first) < rank (target first) := grows first mem_cons_self
    have rest : rank (target first) ≤ rank stop := ih linked.2 fun link mem => grows link (mem_cons_of_mem _ mem)
    rw [linked.1] at step
    omega

lemma within (grows : ∀ link ∈ links, rank (source link) < rank (target link)) :
    ∀ link ∈ links, rank start ≤ rank (source link) ∧ rank (target link) ≤ rank stop := by
  induction links generalizing start with
  | nil => simp
  | cons first links ih =>
    have growsRest : ∀ link ∈ links, rank (source link) < rank (target link) :=
      fun link mem => grows link (mem_cons_of_mem _ mem)
    have step : rank (source first) < rank (target first) := grows first mem_cons_self
    have rest : rank (target first) ≤ rank stop := rank_le rank linked.2 growsRest
    intro link mem
    rcases mem_cons.mp mem with rfl | later
    · exact ⟨le_of_eq (congrArg rank linked.1.symm), rest⟩
    · have inside := ih linked.2 growsRest link later
      rw [linked.1] at step
      omega

lemma covers {n : ℕ} (above : rank start ≤ n) (below : n < rank stop) :
    ∃ link ∈ links, rank (source link) ≤ n ∧ n < rank (target link) := by
  induction links generalizing start with
  | nil =>
    subst linked
    omega
  | cons first links ih =>
    by_cases inFirst : n < rank (target first)
    · exact ⟨first, mem_cons_self, by rw [linked.1]; exact above, inFirst⟩
    · obtain ⟨link, mem, inside⟩ := ih linked.2 (Nat.le_of_not_lt inFirst)
      exact ⟨link, mem_cons_of_mem _ mem, inside⟩

lemma disjoint (grows : ∀ link ∈ links, rank (source link) < rank (target link)) {n : ℕ}
    {one other} (memberOne : one ∈ links) (memberOther : other ∈ links)
    (inOne : rank (source one) ≤ n ∧ n < rank (target one))
    (inOther : rank (source other) ≤ n ∧ n < rank (target other)) : one = other := by
  induction links generalizing start with
  | nil => cases memberOne
  | cons first links ih =>
    have growsRest : ∀ link ∈ links, rank (source link) < rank (target link) :=
      fun link mem => grows link (mem_cons_of_mem _ mem)
    have inside := within rank linked.2 growsRest
    rcases mem_cons.mp memberOne with rfl | laterOne
    · rcases mem_cons.mp memberOther with rfl | laterOther
      · rfl
      · have bound := (inside other laterOther).1
        omega
    · rcases mem_cons.mp memberOther with rfl | laterOther
      · have bound := (inside one laterOne).1
        omega
      · exact ih linked.2 growsRest laterOne laterOther

end
end
end Linked
end Clawdi
