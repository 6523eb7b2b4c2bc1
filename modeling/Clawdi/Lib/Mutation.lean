import Mathlib.Order.Defs.Unbundled

/-! Code that changes a state in place and keeps what it changed when it raises. -/

namespace Clawdi.Mutation
variable {ε σ α β : Type}

def left : EStateM.Result ε σ α → σ
  | .ok _ state => state
  | .error _ state => state

variable {x : EStateM ε σ α} {f : α → EStateM ε σ β}

lemma bind_ok {s t a} (returned : x s = .ok a t) : (x >>= f) s = f a t := by
  show EStateM.bind x f s = f a t
  rw [EStateM.bind, returned]

lemma bind_error {s t e} (raised : x s = .error e t) : (x >>= f) s = .error e t := by
  show EStateM.bind x f s = .error e t
  rw [EStateM.bind, raised]

@[simp] lemma get_bind (f : σ → EStateM ε σ β) (s : σ) : (get >>= f) s = f s s := rfl
@[simp] lemma pure_bind (a : α) (f : α → EStateM ε σ β) (s : σ) : ((pure a : EStateM ε σ α) >>= f) s = f a s := rfl

@[simp] lemma modify_bind (g : σ → σ) (f : PUnit → EStateM ε σ β) (s : σ) :
    ((modify g : EStateM ε σ PUnit) >>= f) s = f ⟨⟩ (g s) := rfl

def Frames (rel : σ → σ → Prop) (x : EStateM ε σ α) : Prop := ∀ s, rel s (left (x s))

section
variable {rel : σ → σ → Prop} [IsPreorder σ rel]

lemma frames_pure (a : α) : Frames rel (pure a : EStateM ε σ α) := fun s => refl_of rel s
lemma frames_throw (e : ε) : Frames rel (throw e : EStateM ε σ α) := fun s => refl_of rel s
lemma frames_get : Frames rel (get : EStateM ε σ σ) := fun s => refl_of rel s

lemma Frames.bind {x} {f : α → EStateM ε σ β} (first : Frames rel x)
    (rest : ∀ a, Frames rel (f a)) : Frames rel (x >>= f) := by
  intro s
  have begun := first s
  cases returned : x s with
  | error e t =>
    rw [bind_error returned]
    rw [returned] at begun
    exact begun
  | ok a t =>
    rw [bind_ok returned]
    rw [returned] at begun
    exact trans_of rel begun (rest a t)

end
end Clawdi.Mutation
