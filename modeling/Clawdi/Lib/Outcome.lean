import Mathlib.Data.List.Forall2

namespace Clawdi
universe u v
variable {ε : Type u} {α β : Type v}

def raiseIf (condition : Prop) [Decidable condition] (failure : ε) : Except ε Unit :=
  if condition then .error failure else .ok ()

lemma raiseIf_eq_ok {condition : Prop} [Decidable condition] {failure : ε} {done : Unit} :
    raiseIf condition failure = .ok done ↔ ¬condition := by
  unfold raiseIf
  by_cases holds : condition <;> simp [holds]

variable {first : Except ε α} {result : β}

lemma bind_eq_ok {next : α → Except ε β} :
    first >>= next = .ok result ↔ ∃ value, first = .ok value ∧ next value = .ok result := by
  cases first with
  | error | ok => simp [bind, Except.bind]

lemma pure_eq_ok {value result} : (pure value : Except ε α) = .ok result ↔ value = result := by
  simp [pure, Except.pure]

lemma throw_ne_ok {failure result} : (throw failure : Except ε α) ≠ .ok result := by
  simp [throw, throwThe, MonadExceptOf.throw]

lemma map_eq_ok {f : α → β} : first.map f = .ok result ↔ ∃ value, first = .ok value ∧ f value = result := by
  cases first with
  | error | ok => simp [Except.map]

lemma mapM_eq_ok {f : α → Except ε β} {l : List α} {results : List β} :
    l.mapM f = .ok results ↔ List.Forall₂ (fun a b => f a = .ok b) l results := by
  induction l generalizing results with
  | nil => cases results <;> simp [pure, Except.pure]
  | cons a l again =>
    rw [List.mapM_cons, bind_eq_ok]
    constructor
    · rintro ⟨b, first, rest⟩
      obtain ⟨bs, others, same⟩ := bind_eq_ok.mp rest
      cases same
      exact .cons first (again.mp others)
    · intro all
      cases all with
      | cons first rest => exact ⟨_, first, bind_eq_ok.mpr ⟨_, again.mpr rest, rfl⟩⟩

lemma exists_forall₂ {l : List α} {related : α → β → Prop} (each : ∀ a ∈ l, ∃ b, related a b) :
    ∃ u, List.Forall₂ related l u := by
  induction l with
  | nil => exact ⟨[], .nil⟩
  | cons a l again =>
    obtain ⟨b, first⟩ := each a List.mem_cons_self
    obtain ⟨u, rest⟩ := again fun a mem => each a (List.mem_cons_of_mem _ mem)
    exact ⟨b :: u, .cons first rest⟩

end Clawdi
