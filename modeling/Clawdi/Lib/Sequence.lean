import Mathlib.Data.List.Basic

/-! Operations carried out one after the other until one of them fails. -/

namespace Clawdi.Sequence
variable {σ α φ : Type*} (perform : σ → α → σ) (interrupt : σ → α → φ → σ)

/-- Each operation takes the next outcome; returned are the rest, the state and whether all succeeded. -/
def performAll : List α → List (Option φ) → σ → Bool × σ × List (Option φ)
  | [], outcomes, s => (true, s, outcomes)
  | a :: rest, [], s => performAll rest [] (perform s a)
  | a :: rest, none :: outcomes, s => performAll rest outcomes (perform s a)
  | a :: _, some failure :: outcomes, s => (false, interrupt s a failure, outcomes)

variable {perform interrupt} {ops : List α} {outcomes : List (Option φ)}

lemma performAll_completed {s} (completed : (performAll perform interrupt ops outcomes s).1 = true) :
    (performAll perform interrupt ops outcomes s).2.1 = ops.foldl perform s := by
  induction ops generalizing outcomes s with
  | nil => rfl
  | cons a rest ih =>
    cases outcomes with
    | nil => exact ih completed
    | cons outcome outcomes =>
      cases outcome with
      | none => exact ih completed
      | some failure => cases completed

lemma performAll_interrupted {s} (interrupted : (performAll perform interrupt ops outcomes s).1 = false) :
    ∃ before a after failure, ops = before ++ a :: after ∧ outcomes[before.length]? = some (some failure) ∧
      (∀ earlier < before.length, ∀ other, outcomes[earlier]? ≠ some (some other)) ∧
      (performAll perform interrupt ops outcomes s).2.1 = interrupt (before.foldl perform s) a failure := by
  induction ops generalizing outcomes s with
  | nil => cases interrupted
  | cons a rest ih =>
    cases outcomes with
    | nil =>
      obtain ⟨before, b, after, failure, rfl, fails, _⟩ := ih interrupted
      cases fails
    | cons outcome outcomes =>
      cases outcome with
      | none =>
        obtain ⟨before, b, after, failure, rfl, fails, first, state⟩ := ih interrupted
        refine ⟨a :: before, b, after, failure, rfl, fails, ?_, state⟩
        intro earlier early other
        cases earlier with
        | zero => simp
        | succ earlier => exact first earlier (by simpa using early) other
      | some failure =>
        refine ⟨[], a, rest, failure, rfl, rfl, ?_, rfl⟩
        intro earlier early
        simp at early

lemma split_append {first second before after : List α} {a : α}
    (split : first ++ second = before ++ a :: after) : (∃ rest, first = before ++ a :: rest) ∨
      ∃ rest, before = first ++ rest ∧ second = rest ++ a :: after := by
  obtain ⟨rest, rfl, later⟩ | ⟨rest, rfl, later⟩ := List.append_eq_append_iff.mp split
  · exact .inr ⟨rest, rfl, later⟩
  · cases rest with
    | nil => exact .inr ⟨[], by simp, later.symm⟩
    | cons b rest =>
      obtain ⟨rfl, _⟩ := List.cons.inj later
      exact .inl ⟨rest, rfl⟩

end Clawdi.Sequence
