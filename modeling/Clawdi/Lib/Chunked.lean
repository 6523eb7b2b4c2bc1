import Mathlib.Data.List.Basic
import Mathlib.Data.Nat.Notation

namespace Clawdi.Chunked
variable {σ α : Type*}

structure Incremental (step : σ → List α → Option (σ × List α)) : Prop where
  extends_step : ∀ s buffer more s' rest, step s buffer = some (s', rest) →
    step s (buffer ++ more) = some (s', rest ++ more)
  shrinks : ∀ s buffer s' rest, step s buffer = some (s', rest) → rest.length < buffer.length

def consume (step : σ → List α → Option (σ × List α)) : ℕ → σ → List α → σ × List α
  | 0, s, buffer => (s, buffer)
  | fuel + 1, s, buffer =>
    match step s buffer with
    | none => (s, buffer)
    | some (s', rest) => consume step fuel s' rest

def drain (step : σ → List α → Option (σ × List α)) (s : σ) (buffer : List α) : σ × List α :=
  consume step buffer.length s buffer

variable {step : σ → List α → Option (σ × List α)} {s : σ} {buffer : List α}

lemma consume_stuck (stuck : step s buffer = none) (fuel : ℕ) : consume step fuel s buffer = (s, buffer) := by
  cases fuel with
  | zero => rfl
  | succ fuel => simp only [consume, stuck]

lemma consume_eq_drain (reader : Incremental step) {fuel : ℕ} (enough : buffer.length ≤ fuel) :
    consume step fuel s buffer = drain step s buffer := by
  have agree : ∀ first second s (buffer : List α), buffer.length ≤ first →
      buffer.length ≤ second → consume step first s buffer = consume step second s buffer := by
    intro first
    induction first with
    | zero =>
      intro second s buffer short _
      have empty : buffer = [] := List.length_eq_zero_iff.mp (Nat.le_zero.mp short)
      have stuck : step s buffer = none := by
        cases taken : step s buffer with
        | none => rfl
        | some next =>
          have less := reader.shrinks s buffer next.1 next.2 taken
          simp [empty] at less
      rw [consume_stuck stuck, consume_stuck stuck]
    | succ first ih =>
      intro second s buffer one other
      cases taken : step s buffer with
      | none => rw [consume_stuck taken, consume_stuck taken]
      | some next =>
        have less := reader.shrinks s buffer next.1 next.2 taken
        cases second with
        | zero => omega
        | succ second =>
          simp only [consume, taken]
          exact ih second next.1 next.2 (by omega) (by omega)
  exact agree fuel buffer.length s buffer enough (Nat.le_refl _)

lemma drain_stuck (stuck : step s buffer = none) : drain step s buffer = (s, buffer) := consume_stuck stuck _

lemma drain_step (reader : Incremental step) {s' rest}
    (taken : step s buffer = some (s', rest)) : drain step s buffer = drain step s' rest := by
  have less := reader.shrinks s buffer s' rest taken
  have enough : buffer.length ≤ (buffer.length - 1) + 1 := by omega
  rw [← consume_eq_drain reader enough]
  simp only [consume, taken]
  exact consume_eq_drain reader (by omega)

lemma drained (reader : Incremental step) (s : σ) (buffer : List α) :
    step (drain step s buffer).1 (drain step s buffer).2 = none := by
  induction size : buffer.length using Nat.strongRecOn generalizing s buffer with
  | _ size ih =>
    cases taken : step s buffer with
    | none => rw [drain_stuck taken, taken]
    | some next =>
      have less := reader.shrinks s buffer next.1 next.2 taken
      rw [drain_step reader taken]
      exact ih next.2.length (by omega) next.1 next.2 rfl

lemma drain_append (reader : Incremental step) (s : σ) (buffer more : List α) : drain step s (buffer ++ more) =
      drain step (drain step s buffer).1 ((drain step s buffer).2 ++ more) := by
  induction size : buffer.length using Nat.strongRecOn generalizing s buffer with
  | _ size ih =>
    cases taken : step s buffer with
    | none => rw [drain_stuck taken]
    | some next =>
      have less := reader.shrinks s buffer next.1 next.2 taken
      have longer := reader.extends_step s buffer more next.1 next.2 taken
      rw [drain_step reader longer, drain_step reader taken]
      exact ih next.2.length (by omega) next.1 next.2 rfl

def feed (step : σ → List α → Option (σ × List α)) (state : σ × List α) (chunk : List α) : σ × List α :=
  drain step state.1 (state.2 ++ chunk)

lemma feed_chunks (reader : Incremental step) (state : σ × List α) (chunks : List (List α))
    (settled : step state.1 state.2 = none) :
    chunks.foldl (feed step) state = drain step state.1 (state.2 ++ chunks.flatten) := by
  induction chunks generalizing state with
  | nil =>
    rw [List.flatten_nil, List.append_nil, drain_stuck settled]
    rfl
  | cons chunk chunks ih =>
    have stuck : step (feed step state chunk).1 (feed step state chunk).2 = none :=
      drained reader state.1 (state.2 ++ chunk)
    rw [List.foldl_cons, ih _ stuck, List.flatten_cons, ← List.append_assoc,
      drain_append reader state.1 (state.2 ++ chunk)]
    rfl

end Clawdi.Chunked
