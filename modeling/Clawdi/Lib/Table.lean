import Mathlib.Data.List.Nodup
import Mathlib.Data.List.Perm.Subperm
import Mathlib.Data.List.Sort

namespace Clawdi
open List

structure Table {κ ρ : Type*} (key : ρ → κ) where
  rows : List ρ
  unique : (rows.map key).Nodup

namespace Table
variable {κ ρ : Type*} {key : ρ → κ}

def empty : Table key := ⟨[], nodup_nil⟩
instance : Membership ρ (Table key) := ⟨fun t row => row ∈ t.rows⟩
lemma mem_rows {t : Table key} {row} : row ∈ t.rows ↔ row ∈ t := Iff.rfl

instance decidableBall {p : ρ → Prop} [DecidablePred p] (t : Table key) : Decidable (∀ row ∈ t, p row) :=
  inferInstanceAs (Decidable (∀ row ∈ t.rows, p row))

@[simp] lemma not_mem_empty (row : ρ) : row ∉ (empty : Table key) := by simp [← mem_rows, empty]

lemma eq_of_key {t : Table key} {a b : ρ} (ha : a ∈ t) (hb : b ∈ t) (same : key a = key b) : a = b :=
  inj_on_of_nodup_map t.unique ha hb same

section
variable [DecidableEq κ]

def get (t : Table key) (k : κ) : Option ρ := t.rows.find? (fun row => decide (key row = k))

variable {k : κ}

lemma get_eq_some {t : Table key} {row} : t.get k = some row ↔ row ∈ t ∧ key row = k := by
  constructor
  · intro found
    exact ⟨mem_of_find?_eq_some found, by simpa using List.find?_some found⟩
  · rintro ⟨mem, rfl⟩
    cases found : t.get (key row) with
    | none =>
      have absent := List.find?_eq_none.mp found row mem
      simp at absent
    | some other =>
      have same : key other = key row := by simpa using List.find?_some found
      rw [eq_of_key (mem_of_find?_eq_some found) mem same]

lemma get_eq_none {t : Table key} : t.get k = none ↔ ∀ row ∈ t, key row ≠ k := by simp [get, ← mem_rows]
lemma get_key {t : Table key} {row : ρ} (mem : row ∈ t) : t.get (key row) = some row := get_eq_some.mpr ⟨mem, rfl⟩
@[simp] lemma get_empty (k : κ) : (empty : Table key).get k = none := rfl

def put (t : Table key) (row : ρ) : Table key where
  rows := row :: t.rows.filter (fun other => decide (key other ≠ key row))
  unique := by
    refine nodup_cons.mpr ⟨?_, ?_⟩
    · simp
    · exact t.unique.sublist ((filter_sublist).map key)

lemma mem_put {t : Table key} {row other} : other ∈ t.put row ↔ other = row ∨ other ∈ t ∧ key other ≠ key row := by
  simp [← mem_rows, put]

lemma mem_put_self (t : Table key) (row : ρ) : row ∈ t.put row := mem_put.mpr (.inl rfl)

@[simp] lemma get_put_self (t : Table key) (row : ρ) : (t.put row).get (key row) = some row :=
  get_key (mem_put_self t row)

lemma get_put_of_eq (t : Table key) {row} (same : key row = k) : (t.put row).get k = some row := by
  subst same
  exact get_put_self t row

lemma get_put_of_ne (t : Table key) {row} (other : key row ≠ k) : (t.put row).get k = t.get k := by
  apply Option.ext
  intro found
  simp only [get_eq_some, mem_put]
  constructor
  · rintro ⟨rfl | ⟨mem, _⟩, same⟩
    · exact absurd same other
    · exact ⟨mem, same⟩
  · rintro ⟨mem, rfl⟩
    exact ⟨.inr ⟨mem, fun same => other same.symm⟩, rfl⟩

lemma get_put (t : Table key) (row : ρ) (k : κ) :
    (t.put row).get k = if key row = k then some row else t.get k := by
  split
  · rename_i same
    subst same
    exact get_put_self t row
  · rename_i other
    exact get_put_of_ne t other

lemma mem_foldl_put {t : Table key} {rows : List ρ} (distinct : (rows.map key).Nodup) {row : ρ} :
    row ∈ rows.foldl put t ↔ row ∈ rows ∨ (row ∈ t ∧ ∀ other ∈ rows, key other ≠ key row) := by
  induction rows generalizing t with
  | nil => simp
  | cons first rows ih =>
    obtain ⟨fresh, rest⟩ := nodup_cons.mp distinct
    have apart : ∀ other ∈ rows, key other ≠ key first := by
      intro other mem same
      exact fresh (mem_map.mpr ⟨other, mem, same⟩)
    rw [foldl_cons, ih rest, mem_put]
    constructor
    · rintro (later | ⟨rfl | ⟨old, differ⟩, others⟩)
      · exact .inl (mem_cons_of_mem _ later)
      · exact .inl mem_cons_self
      · right
        refine ⟨old, ?_⟩
        intro other mem
        rcases mem_cons.mp mem with rfl | later
        · exact fun same => differ same.symm
        · exact others other later
    · rintro (mem | ⟨old, others⟩)
      · rcases mem_cons.mp mem with rfl | later
        · exact .inr ⟨.inl rfl, apart⟩
        · exact .inl later
      · right
        have differ := others first mem_cons_self
        refine ⟨.inr ⟨old, fun same => differ same.symm⟩, ?_⟩
        intro other mem
        exact others other (mem_cons_of_mem _ mem)

end

def update (t : Table key) (f : ρ → ρ) (keeps : ∀ row, key (f row) = key row) : Table key where
  rows := t.rows.map f
  unique := by
    rw [map_map, show key ∘ f = key from funext keeps]
    exact t.unique

lemma mem_update {t : Table key} {f : ρ → ρ} {keeps row} :
    row ∈ t.update f keeps ↔ ∃ before ∈ t, f before = row := by
  simp [← mem_rows, update]

lemma get_update [DecidableEq κ] (t : Table key) (f : ρ → ρ)
    (keeps : ∀ row, key (f row) = key row) (k : κ) : (t.update f keeps).get k = (t.get k).map f := by
  apply Option.ext
  intro row
  simp only [get_eq_some, mem_update, Option.map_eq_some_iff]
  constructor
  · rintro ⟨⟨before, mem, rfl⟩, same⟩
    exact ⟨before, ⟨mem, (keeps before).symm.trans same⟩, rfl⟩
  · rintro ⟨before, ⟨mem, same⟩, rfl⟩
    exact ⟨⟨before, mem, rfl⟩, (keeps before).trans same⟩

def remove (t : Table key) (p : ρ → Bool) : Table key where
  rows := t.rows.filter fun row => !p row
  unique := t.unique.sublist (filter_sublist.map key)

lemma mem_remove {t : Table key} {p : ρ → Bool} {row} : row ∈ t.remove p ↔ row ∈ t ∧ p row = false := by
  simp [← mem_rows, remove]

lemma remove_eq_self {t : Table key} {p : ρ → Bool} (kept : ∀ row ∈ t, p row = false) : t.remove p = t := by
  obtain ⟨rows, unique⟩ := t
  have same : rows.filter (fun row => !p row) = rows := by
    apply filter_eq_self.mpr
    intro row mem
    rw [kept row mem]
    rfl
  simp only [remove, same]

lemma get_remove [DecidableEq κ] {t : Table key} {p : ρ → Bool} {k : κ}
    (kept : ∀ row ∈ t, key row = k → p row = false) : (t.remove p).get k = t.get k := by
  apply Option.ext
  intro row
  simp only [get_eq_some, mem_remove]
  constructor
  · rintro ⟨⟨mem, _⟩, same⟩
    exact ⟨mem, same⟩
  · rintro ⟨mem, same⟩
    exact ⟨⟨mem, kept row mem same⟩, same⟩

lemma get_of_get_remove [DecidableEq κ] {t : Table key} {p : ρ → Bool} {k row}
    (found : (t.remove p).get k = some row) : t.get k = some row ∧ p row = false := by
  rw [get_eq_some, mem_remove] at found
  exact ⟨get_eq_some.mpr ⟨found.1.1, found.2⟩, found.1.2⟩

def take (t : Table key) (count : ℕ) : Table key where
  rows := t.rows.take count
  unique := t.unique.sublist ((take_sublist count t.rows).map key)

lemma take_eq_self {t : Table key} {count : ℕ} (few : t.rows.length ≤ count) : t.take count = t := by
  simp only [take, take_of_length_le few]

lemma take_eq_of_length_lt {t : Table key} {count : ℕ} (room : (t.take count).rows.length < count) :
    t.take count = t := by
  apply take_eq_self
  simp only [take, length_take] at room
  omega

lemma length_le {t : Table key} {keys : List κ} (known : ∀ row ∈ t, key row ∈ keys) :
    t.rows.length ≤ keys.length := by
  have subset : t.rows.map key ⊆ keys := by
    intro k mem
    obtain ⟨row, stands, rfl⟩ := mem_map.mp mem
    exact known row stands
  simpa using (List.Nodup.subperm t.unique subset).length_le

section
variable {t : Table key} {p : ρ → Bool} {row : ρ}

lemma filter_only (mem : row ∈ t) (only : ∀ other ∈ t, p other = true ↔ other = row) : t.rows.filter p = [row] := by
  have nodup : (t.rows.filter p).Nodup := t.unique.of_map.filter p
  apply perm_singleton.mp
  rw [perm_ext_iff_of_nodup nodup (nodup_singleton row)]
  intro other
  rw [mem_filter, mem_singleton]
  constructor
  · intro both
    exact (only other both.1).mp both.2
  · rintro rfl
    exact ⟨mem, (only other mem).mpr rfl⟩

lemma find_only (mem : row ∈ t) (only : ∀ other ∈ t, p other = true ↔ other = row) : t.rows.find? p = some row := by
  rw [← List.head?_filter, filter_only mem only]
  rfl

end

section
variable {ι : Type*} [LinearOrder ι]

def select (t : Table key) (p : ρ → Bool) (order : ρ → ι) : List ρ :=
  (t.rows.filter p).insertionSort (fun a b => order a ≤ order b)

variable {order : ρ → ι}

lemma mem_select {t : Table key} {p : ρ → Bool} {row} : row ∈ t.select p order ↔ row ∈ t ∧ p row = true := by
  rw [select, (perm_insertionSort _ _).mem_iff, mem_filter, mem_rows]

lemma select_ordered (t : Table key) (p : ρ → Bool) (order : ρ → ι) :
    (t.select p order).Pairwise (fun a b => order a ≤ order b) := by
  exact pairwise_insertionSort _ _

lemma select_nodup (t : Table key) (p : ρ → Bool) (order : ρ → ι) : (t.select p order).Nodup :=
  (perm_insertionSort _ _).nodup_iff.mpr (t.unique.of_map.filter p)

lemma select_strict {t : Table key} {p : ρ → Bool}
    (distinct : ∀ a ∈ t, ∀ b ∈ t, p a = true → p b = true → order a = order b → a = b) :
    (t.select p order).Pairwise (fun a b => order a < order b) := by
  have differ : (t.select p order).Pairwise (· ≠ ·) := t.select_nodup p order
  refine ((t.select_ordered p order).and differ).imp_of_mem ?_
  intro a b memberA memberB ⟨le, ne⟩
  obtain ⟨inA, holdsA⟩ := mem_select.mp memberA
  obtain ⟨inB, holdsB⟩ := mem_select.mp memberB
  exact lt_of_le_of_ne le fun same => ne (distinct a inA b inB holdsA holdsB same)

lemma eq_of_strict {l m : List ρ} (strictL : l.Pairwise (fun a b => order a < order b))
    (strictM : m.Pairwise (fun a b => order a < order b)) (members : ∀ row, row ∈ l ↔ row ∈ m) : l = m := by
  have nodupL : l.Nodup := strictL.imp fun less same => absurd (congrArg order same) less.ne
  have nodupM : m.Nodup := strictM.imp fun less same => absurd (congrArg order same) less.ne
  have perm : l.Perm m := (perm_ext_iff_of_nodup nodupL nodupM).mpr members
  have asymmetric : ∀ a b, a ∈ l → b ∈ m → order a < order b → order b < order a → a = b :=
    fun a b _ _ less greater => absurd greater (lt_asymm less)
  exact perm.eq_of_pairwise asymmetric strictL strictM

lemma select_filter {t : Table key} {p q narrow : ρ → Bool} (distinct : ∀ a ∈ t, ∀ b ∈ t, order a = order b → a = b)
    (same : ∀ row ∈ t, (p row && narrow row) = q row) : (t.select p order).filter narrow = t.select q order := by
  have members : ∀ row, row ∈ (t.select p order).filter narrow ↔ row ∈ t.select q order := by
    intro row
    rw [mem_filter, mem_select, mem_select]
    constructor
    · intro ⟨⟨mem, holds⟩, kept⟩
      exact ⟨mem, by rw [← same row mem, holds, kept]; rfl⟩
    · intro ⟨mem, holds⟩
      rw [← same row mem, Bool.and_eq_true] at holds
      exact ⟨⟨mem, holds.1⟩, holds.2⟩
  have strict : ∀ r : ρ → Bool, (t.select r order).Pairwise (fun a b => order a < order b) :=
    fun r => select_strict fun a memberA b memberB _ _ => distinct a memberA b memberB
  exact eq_of_strict ((strict p).filter narrow) (strict q) members

lemma select_congr {t u : Table key} {p : ρ → Bool}
    (distinct : ∀ a ∈ t, ∀ b ∈ t, p a = true → p b = true → order a = order b → a = b)
    (same : ∀ row, p row = true → (row ∈ u ↔ row ∈ t)) : u.select p order = t.select p order := by
  have members : ∀ row, row ∈ u.select p order ↔ row ∈ t.select p order := by
    intro row
    rw [mem_select, mem_select]
    exact and_congr_left fun selected => same row selected
  have strict : ∀ v : Table key, (∀ row, p row = true → (row ∈ v ↔ row ∈ t)) →
      (v.select p order).Pairwise (fun a b => order a < order b) := fun v agrees =>
    select_strict fun a memberA b memberB holdsA holdsB =>
      distinct a ((agrees a holdsA).mp memberA) b ((agrees b holdsB).mp memberB) holdsA holdsB
  exact eq_of_strict (strict u same) (strict t fun row _ => Iff.rfl) members

lemma select_put_last [DecidableEq κ] {t : Table key} {p : ρ → Bool} {row : ρ}
    (distinct : ∀ a ∈ t, ∀ b ∈ t, p a = true → p b = true → order a = order b → a = b)
    (new : t.get (key row) = none) (selected : p row = true)
    (last : ∀ other ∈ t.select p order, order other < order row) :
    (t.put row).select p order = t.select p order ++ [row] := by
  have strict : (t.select p order ++ [row]).Pairwise (fun a b => order a < order b) := by
    refine pairwise_append.mpr ⟨select_strict distinct, pairwise_singleton _ _, ?_⟩
    intro other mem added isRow
    rw [mem_singleton.mp isRow]
    exact last other mem
  have members : ∀ other, other ∈ (t.put row).select p order ↔ other ∈ t.select p order ++ [row] := by
    intro other
    rw [mem_select, mem_put, mem_append, mem_select, mem_singleton]
    constructor
    · rintro ⟨rfl | ⟨mem, _⟩, holds⟩
      · exact .inr rfl
      · exact .inl ⟨mem, holds⟩
    · rintro (⟨mem, holds⟩ | rfl)
      · exact ⟨.inr ⟨mem, get_eq_none.mp new other mem⟩, holds⟩
      · exact ⟨.inl rfl, selected⟩
  have injective : ∀ a ∈ t.put row, ∀ b ∈ t.put row, p a = true → p b = true →
      order a = order b → a = b := by
    intro a memberA b memberB holdsA holdsB same
    rcases mem_put.mp memberA with rfl | ⟨inA, _⟩
    · rcases mem_put.mp memberB with rfl | ⟨inB, _⟩
      · rfl
      · exact absurd same.symm (last b (mem_select.mpr ⟨inB, holdsB⟩)).ne
    · rcases mem_put.mp memberB with rfl | ⟨inB, _⟩
      · exact absurd same (last a (mem_select.mpr ⟨inA, holdsA⟩)).ne
      · exact distinct a inA b inB holdsA holdsB same
  exact eq_of_strict (select_strict injective) strict members

lemma select_update {t : Table key} {f : ρ → ρ} {keeps} {p : ρ → Bool} (selected : ∀ row, p (f row) = p row)
    (ordered : ∀ row, order (f row) = order row) : (t.update f keeps).select p order = (t.select p order).map f := by
  unfold select update
  rw [filter_map, show p ∘ f = p from funext selected]
  exact (map_insertionSort _ _ f _ fun a _ b _ => by rw [ordered, ordered]).symm

end
end Table
end Clawdi
