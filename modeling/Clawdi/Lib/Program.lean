import Mathlib.Tactic.Basic

namespace Clawdi

inductive Program (Op : Type) (Res : Op → Type) (α : Type) where
  | done (a : α)
  | perform (op : Op) (next : Res op → Program Op Res α)

namespace Program
variable {Op : Type} {Res : Op → Type} {σ α β ε : Type}

def bind (program : Program Op Res α) (f : α → Program Op Res β) : Program Op Res β :=
  match program with
  | .done a => f a
  | .perform op next => .perform op fun result => (next result).bind f

instance : Monad (Program Op Res) where
  pure := .done
  bind := Program.bind

structure Rules (σ Op : Type) (Res : Op → Type) where
  allowed : σ → Op → Prop
  gives : σ → (op : Op) → Res op → σ → Prop

variable {rules : Rules σ Op Res}

def Wp (rules : Rules σ Op Res) : Program Op Res α → (α → σ → Prop) → σ → Prop
  | .done a, post, s => post a s
  | .perform op next, post, s => rules.allowed s op ∧
      ∀ result s', rules.gives s op result s' → Wp rules (next result) post s'

variable {program : Program Op Res α}

lemma Wp.mono {first second : α → σ → Prop} {s} (implies : ∀ a s, first a s → second a s)
    (holds : Wp rules program first s) : Wp rules program second s := by
  induction program generalizing s with
  | done a => exact implies a s holds
  | perform op next ih => exact ⟨holds.1, fun result s' gives => ih result (holds.2 result s' gives)⟩

lemma wp_bind {f : α → Program Op Res β} {post : β → σ → Prop} {s} :
    Wp rules (program >>= f) post s ↔ Wp rules program (fun a => Wp rules (f a) post) s := by
  induction program generalizing s with
  | done a => exact Iff.rfl
  | perform op next ih =>
    constructor
    · exact fun ⟨allowed, rest⟩ =>
        ⟨allowed, fun result s' gives => (ih result).mp (rest result s' gives)⟩
    · exact fun ⟨allowed, rest⟩ =>
        ⟨allowed, fun result s' gives => (ih result).mpr (rest result s' gives)⟩

def Ensures (rules : Rules σ Op Res) (x : ExceptT ε (Program Op Res) α) (post : α → σ → Prop)
    (raised : ε → σ → Prop) (s : σ) : Prop :=
  Wp rules x.run (fun outcome s => match outcome with
    | .ok a => post a s
    | .error e => raised e s) s

variable {post : α → σ → Prop} {raised : ε → σ → Prop} {s : σ} {x : ExceptT ε (Program Op Res) α}

lemma Ensures.mono {later : α → σ → Prop} {laterRaised : ε → σ → Prop}
    (holds : Ensures rules x post raised s) (returns : ∀ a s, post a s → later a s)
    (raises : ∀ e s, raised e s → laterRaised e s) : Ensures rules x later laterRaised s := by
  apply Wp.mono _ holds
  rintro (e | a) s
  · exact raises e s
  · exact returns a s

variable {last : β → σ → Prop}

lemma ensures_bind {f : α → ExceptT ε (Program Op Res) β} :
    Ensures rules (x >>= f) last raised s ↔ Ensures rules x (fun a => Ensures rules (f a) last raised) raised s := by
  show Wp rules (x.run >>= ExceptT.bindCont f) _ s ↔ _
  rw [wp_bind]
  constructor <;>
  · apply Wp.mono
    rintro (e | a) s holds <;> exact holds

lemma ensures_map {f : α → β} :
    Ensures rules (f <$> x) last raised s ↔ Ensures rules x (fun a => last (f a)) raised s := by
  show Wp rules (x.run >>= _) _ s ↔ _
  rw [wp_bind]
  constructor <;>
  · apply Wp.mono
    rintro (e | a) s holds <;> exact holds

lemma ensures_tryCatch {handler : ε → ExceptT ε (Program Op Res) α} :
    Ensures rules (tryCatch x handler) post raised s ↔
      Ensures rules x post (fun e => Ensures rules (handler e) post raised) s := by
  show Wp rules (x.run >>= _) _ s ↔ _
  rw [wp_bind]
  constructor <;>
  · apply Wp.mono
    rintro (e | a) s holds <;> exact holds

def operation (op : Op) : ExceptT ε (Program Op Res) (Res op) := ExceptT.lift (.perform op .done)

lemma ensures_operation {op} {post : Res op → σ → Prop} :
    Ensures rules (operation op : ExceptT ε (Program Op Res) (Res op)) post raised s ↔
      rules.allowed s op ∧ ∀ result s', rules.gives s op result s' → post result s' := Iff.rfl

end Program
end Clawdi
