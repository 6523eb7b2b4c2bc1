import Clawdi.Lib.Table

namespace Clawdi
variable {κ ρ τ : Type*} {key : ρ → κ}

/-- A row under READ COMMITTED: what others read, and the holder of its lock with what it will commit. -/
structure Cell (τ : Type*) (key : ρ → κ) where
  committed : ρ
  draft : Option (τ × ρ)
  keyed : ∀ txn row, draft = some (txn, row) → key row = key committed

namespace Cell
variable [DecidableEq τ]

def of (row : ρ) : Cell τ key := ⟨row, none, by simp⟩

def current (txn : τ) (cell : Cell τ key) : ρ :=
  match cell.draft with
  | some (owner, row) => if owner = txn then row else cell.committed
  | none => cell.committed

def free (txn : τ) (cell : Cell τ key) : Bool := cell.draft.all fun draft => draft.1 = txn

lemma key_current (txn : τ) (cell : Cell τ key) : key (cell.current txn) = key cell.committed := by
  rw [current]
  split
  · rename_i owner row drafted
    split
    · exact cell.keyed owner row drafted
    · rfl
  · rfl

def write (txn : τ) (f : ρ → ρ) (keeps : ∀ row, key (f row) = key row) (cell : Cell τ key) : Cell τ key where
  committed := cell.committed
  draft := some (txn, f (cell.current txn))
  keyed := by
    intro owner row drafted
    cases drafted
    rw [keeps]
    exact key_current txn cell

def commit (txn : τ) (cell : Cell τ key) : Cell τ key :=
  match cell.draft with
  | some (owner, row) => if owner = txn then of row else cell
  | none => cell

def rollback (txn : τ) (cell : Cell τ key) : Cell τ key :=
  if cell.draft.any fun draft => draft.1 = txn then of cell.committed else cell

lemma key_commit (txn : τ) (cell : Cell τ key) : key (cell.commit txn).committed = key cell.committed := by
  rw [commit]
  split
  · rename_i owner row drafted
    split
    · exact cell.keyed owner row drafted
    · rfl
  · rfl

lemma rollback_committed (txn : τ) (cell : Cell τ key) : (cell.rollback txn).committed = cell.committed := by
  rw [rollback]
  split <;> rfl

end Cell

abbrev Store (τ : Type*) (key : ρ → κ) := Table fun cell : Cell τ key => key cell.committed

namespace Store
variable [DecidableEq τ]

def writeCell (txn : τ) (chosen : Cell τ key → Bool) (f : ρ → ρ)
    (keeps : ∀ row, key (f row) = key row) (cell : Cell τ key) : Cell τ key :=
  if chosen cell && cell.free txn then cell.write txn f keeps else cell

lemma writeCell_committed (txn : τ) (chosen : Cell τ key → Bool) (f : ρ → ρ)
    (keeps : ∀ row, key (f row) = key row) (cell : Cell τ key) :
    (writeCell txn chosen f keeps cell).committed = cell.committed := by
  rw [writeCell]
  split <;> rfl

def write (store : Store τ key) (txn : τ) (chosen : Cell τ key → Bool) (f : ρ → ρ)
    (keeps : ∀ row, key (f row) = key row) : Store τ key :=
  store.update (writeCell txn chosen f keeps) fun cell => by rw [writeCell_committed]

def lock (store : Store τ key) (txn : τ) (chosen : Cell τ key → Bool) : Store τ key :=
  store.write txn chosen id fun _ => rfl

def waits (store : Store τ key) (txn : τ) (chosen : Cell τ key → Bool) : Bool :=
  store.rows.any fun cell => chosen cell && !cell.free txn

def commit (store : Store τ key) (txn : τ) : Store τ key := store.update (Cell.commit txn) (Cell.key_commit txn)

def rollback (store : Store τ key) (txn : τ) : Store τ key :=
  store.update (Cell.rollback txn) fun cell => by rw [Cell.rollback_committed]

variable {store : Store τ key} {txn other : τ} {chosen : Cell τ key → Bool} {f : ρ → ρ}
  {keeps : ∀ row, key (f row) = key row} {cell : Cell τ key}

lemma mem_write : cell ∈ store.write txn chosen f keeps ↔
    ∃ before ∈ store, writeCell txn chosen f keeps before = cell := by
  exact Table.mem_update

lemma mem_commit : cell ∈ store.commit txn ↔ ∃ before ∈ store, before.commit txn = cell := by exact Table.mem_update

lemma mem_rollback : cell ∈ store.rollback txn ↔ ∃ before ∈ store, before.rollback txn = cell := by
  exact Table.mem_update

section
variable {rel : ρ → ρ → Prop}

def Drafts (rel : ρ → ρ → Prop) (store : Store τ key) : Prop :=
  ∀ cell ∈ store, ∀ owner row, cell.draft = some (owner, row) → rel cell.committed row

lemma Drafts.current (drafts : Drafts rel store) (refl : ∀ row, rel row row) (txn : τ)
    (mem : cell ∈ store) : rel cell.committed (cell.current txn) := by
  rw [Cell.current]
  split
  · rename_i owner row drafted
    split
    · exact drafts cell mem owner row drafted
    · exact refl _
  · exact refl _

lemma Drafts.write (drafts : Drafts rel store)
    (related : ∀ cell ∈ store, chosen cell = true → cell.free txn = true →
      rel cell.committed (f (cell.current txn))) : Drafts rel (store.write txn chosen f keeps) := by
  intro cell mem owner row drafted
  obtain ⟨before, stored, rfl⟩ := mem_write.mp mem
  rw [writeCell_committed]
  rw [writeCell] at drafted
  split at drafted
  · rename_i both
    rw [Bool.and_eq_true] at both
    cases drafted
    exact related before stored both.1 both.2
  · exact drafts before stored owner row drafted

lemma Drafts.commit (drafts : Drafts rel store) : Drafts rel (store.commit txn) := by
  intro cell mem owner row drafted
  obtain ⟨before, stored, rfl⟩ := mem_commit.mp mem
  rw [Cell.commit] at drafted ⊢
  split at drafted
  · split at drafted
    · cases drafted
    · rename_i differ
      simp only [if_neg differ]
      exact drafts before stored owner row drafted
  · rename_i none
    rw [none] at drafted
    cases drafted

lemma Drafts.rollback (drafts : Drafts rel store) : Drafts rel (store.rollback txn) := by
  intro cell mem owner row drafted
  obtain ⟨before, stored, rfl⟩ := mem_rollback.mp mem
  rw [Cell.rollback_committed]
  rw [Cell.rollback] at drafted
  split at drafted
  · cases drafted
  · exact drafts before stored owner row drafted

lemma commit_related (drafts : Drafts rel store) (refl : ∀ row, rel row row)
    (mem : cell ∈ store) : rel cell.committed (cell.commit txn).committed := by
  rw [Cell.commit]
  split
  · rename_i owner row drafted
    split
    · exact drafts cell mem owner row drafted
    · exact refl _
  · exact refl _

end

section
variable {k : κ} {p : ρ → Prop}

def Held (store : Store τ key) (txn : τ) (k : κ) (p : ρ → Prop) : Prop :=
  ∃ cell ∈ store, key cell.committed = k ∧ p cell.committed ∧ ∃ row, cell.draft = some (txn, row)

omit [DecidableEq τ] in
lemma Held.holds (held : Held store txn k p) (mem : cell ∈ store)
    (same : key cell.committed = k) : p cell.committed := by
  obtain ⟨found, stored, here, holds, _⟩ := held
  rw [Table.eq_of_key mem stored (same.trans here.symm)]
  exact holds

lemma Held.write (held : Held store txn k p) : Held (store.write other chosen f keeps) txn k p := by
  obtain ⟨cell, mem, same, holds, row, drafted⟩ := held
  refine ⟨_, mem_write.mpr ⟨cell, mem, rfl⟩, ?_⟩
  rw [writeCell_committed]
  refine ⟨same, holds, ?_⟩
  rw [writeCell]
  split
  · rename_i both
    simp only [Bool.and_eq_true, Cell.free, drafted, Option.all_some, decide_eq_true_eq] at both
    rw [← both.2]
    exact ⟨_, rfl⟩
  · exact ⟨row, drafted⟩

lemma Held.commit (held : Held store txn k p) (differ : txn ≠ other) : Held (store.commit other) txn k p := by
  obtain ⟨cell, mem, same, holds, row, drafted⟩ := held
  have kept : cell.commit other = cell := by simp [Cell.commit, drafted, differ]
  exact ⟨cell, mem_commit.mpr ⟨cell, mem, kept⟩, same, holds, row, drafted⟩

lemma Held.rollback (held : Held store txn k p) (differ : txn ≠ other) : Held (store.rollback other) txn k p := by
  obtain ⟨cell, mem, same, holds, row, drafted⟩ := held
  have kept : cell.rollback other = cell := by simp [Cell.rollback, drafted, differ]
  exact ⟨cell, mem_rollback.mpr ⟨cell, mem, kept⟩, same, holds, row, drafted⟩

lemma held_lock (mem : cell ∈ store) (picked : chosen cell = true)
    (free : cell.free txn = true) (holds : p cell.committed) :
    Held (store.lock txn chosen) txn (key cell.committed) p := by
  refine ⟨_, mem_write.mpr ⟨cell, mem, rfl⟩, ?_⟩
  rw [writeCell_committed]
  refine ⟨rfl, holds, ?_⟩
  rw [writeCell, picked, free]
  exact ⟨_, rfl⟩

end
end Store
end Clawdi
