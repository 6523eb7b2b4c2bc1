import Mathlib.Data.List.Sort

namespace Clawdi.Inbox
open List Nat
variable {α : Type*} [DecidableEq α] (key : α → Nat)

def noted (seen page : List α) : List α := seen ++ page.filter (· ∉ seen)

lemma mem_noted {seen page : List α} {entry : α} : entry ∈ noted seen page ↔ entry ∈ seen ∨ entry ∈ page := by
  unfold noted
  by_cases before : entry ∈ seen <;> simp [before]

structure Delivers (top : Nat) (appended stored seen : List α) (discarded : List Nat) : Prop where
  ascending : appended.Pairwise (key · < key ·)
  below : ∀ entry ∈ appended, key entry ≤ top
  held : stored.Sublist appended
  kept : ∀ entry ∈ appended, entry ∈ stored ∨ key entry ∈ discarded ∨ entry ∈ seen
  present : ∀ entry ∈ stored, key entry ∉ discarded
  sightings : seen.Pairwise (key · < key ·)
  known : ∀ entry ∈ seen, entry ∈ appended
  front : ∀ entry ∈ seen, ∀ other ∈ appended, key other < key entry → other ∈ seen ∨ key other ∈ discarded

variable {key} {top : Nat} {appended stored seen : List α} {discarded : List Nat}

omit [DecidableEq α] in
lemma Delivers.empty : Delivers key 0 [] [] [] [] where
  ascending := List.Pairwise.nil
  below := by simp
  held := List.Sublist.refl _
  kept := by simp
  present := by simp
  sightings := List.Pairwise.nil
  known := by simp
  front := by simp

omit [DecidableEq α] in
lemma ascending_inj {entries : List α} (ascending : entries.Pairwise (key · < key ·)) {a b}
    (first : a ∈ entries) (second : b ∈ entries) (same : key a = key b) : a = b := by
  by_contra apart
  rcases pairwise_iff_getElem.mp ascending with order
  obtain ⟨i, low, rfl⟩ := mem_iff_getElem.mp first
  obtain ⟨j, high, rfl⟩ := mem_iff_getElem.mp second
  rcases lt_trichotomy i j with less | equal | more
  · have grows := order i j low high less
    omega
  · subst equal
    exact apart rfl
  · have grows := order j i high low more
    omega

lemma Delivers.append (delivers : Delivers key top appended stored seen discarded) {new : List α}
    {next : Nat} (order : new.Pairwise (key · < key ·)) (later : ∀ entry ∈ new, top < key entry)
    (bounded : ∀ entry ∈ new, key entry ≤ next) (grows : top ≤ next) (used : ∀ number ∈ discarded, number ≤ top) :
    Delivers key next (appended ++ new) (stored ++ new) seen discarded where
  ascending := by
    refine pairwise_append.mpr ⟨delivers.ascending, order, ?_⟩
    intro old before entry among
    have low := delivers.below old before
    have high := later entry among
    omega
  below := by
    intro entry mem
    rcases mem_append.mp mem with before | among
    · exact (delivers.below entry before).trans grows
    · exact bounded entry among
  held := delivers.held.append_right new
  kept := by
    intro entry mem
    rcases mem_append.mp mem with before | among
    · rcases delivers.kept entry before with held | gone
      · left
        exact mem_append_left new held
      · right
        exact gone
    · left
      exact mem_append_right stored among
  present := by
    intro entry mem gone
    rcases mem_append.mp mem with before | among
    · exact delivers.present entry before gone
    · have low := used (key entry) gone
      have high := later entry among
      omega
  sightings := delivers.sightings
  known := fun entry mem => mem_append_left new (delivers.known entry mem)
  front := by
    intro entry mem other among less
    rcases mem_append.mp among with before | added
    · exact delivers.front entry mem other before less
    · have low := delivers.below entry (delivers.known entry mem)
      have high := later other added
      omega

omit [DecidableEq α] in
lemma mem_take {entries : List α} (ascending : entries.Pairwise (key · < key ·)) {count : Nat}
    {entry other} (mem : entry ∈ entries.take count) (among : other ∈ entries)
    (less : key other < key entry) : other ∈ entries.take count := by
  rw [← take_append_drop count entries] at ascending among
  rcases mem_append.mp among with front | back
  · exact front
  · have order := (pairwise_append.mp ascending).2.2 entry mem other back
    omega

section
variable (delivers : Delivers key top appended stored seen discarded)
include delivers

lemma Delivers.read (count : Nat) :
    Delivers key top appended stored (noted seen (stored.take count)) discarded where
  ascending := delivers.ascending
  below := delivers.below
  held := delivers.held
  kept := by
    intro entry mem
    rcases delivers.kept entry mem with held | gone | before
    · left
      exact held
    · right; left
      exact gone
    · right; right
      exact mem_noted.mpr (.inl before)
  present := delivers.present
  sightings := by
    have ordered : stored.Pairwise (key · < key ·) := delivers.ascending.sublist delivers.held
    refine pairwise_append.mpr ⟨delivers.sightings, ?_, ?_⟩
    · exact (ordered.sublist (take_sublist count stored)).filter _
    · intro old before entry among
      obtain ⟨onPage, unseen⟩ := mem_filter.mp among
      have unseen : entry ∉ seen := of_decide_eq_true unseen
      have held : entry ∈ stored := mem_of_mem_take onPage
      have known : entry ∈ appended := delivers.held.subset held
      rcases lt_trichotomy (key old) (key entry) with less | equal | more
      · exact less
      · have same := ascending_inj delivers.ascending (delivers.known old before) known equal
        exact absurd (same ▸ before) unseen
      · rcases delivers.front old before entry known more with sighted | gone
        · exact absurd sighted unseen
        · exact absurd gone (delivers.present entry held)
  known := by
    intro entry mem
    rcases mem_noted.mp mem with before | onPage
    · exact delivers.known entry before
    · exact delivers.held.subset (mem_of_mem_take onPage)
  front := by
    intro entry mem other among less
    rcases mem_noted.mp mem with before | onPage
    · rcases delivers.front entry before other among less with sighted | gone
      · left
        exact mem_noted.mpr (.inl sighted)
      · right
        exact gone
    · rcases delivers.kept other among with held | gone | sighted
      · left
        have ordered : stored.Pairwise (key · < key ·) := delivers.ascending.sublist delivers.held
        exact mem_noted.mpr (.inr (mem_take ordered onPage held less))
      · right
        exact gone
      · left
        exact mem_noted.mpr (.inl sighted)

omit [DecidableEq α] in
lemma Delivers.acknowledge {through : Nat} (sighted : ∃ entry ∈ seen, key entry = through) :
    Delivers key top appended (stored.filter (through < key ·)) seen discarded where
  ascending := delivers.ascending
  below := delivers.below
  held := filter_sublist.trans delivers.held
  kept := by
    intro entry mem
    rcases delivers.kept entry mem with held | gone
    · by_cases later : through < key entry
      · left
        exact mem_filter.mpr ⟨held, decide_eq_true later⟩
      · right; right
        obtain ⟨last, among, same⟩ := sighted
        rcases lt_or_eq_of_le (not_lt.mp later) with less | equal
        · rcases delivers.front last among entry mem (by omega) with before | gone
          · exact before
          · exact absurd gone (delivers.present entry held)
        · have known := delivers.known last among
          have one := ascending_inj delivers.ascending mem known (by omega)
          exact one ▸ among
    · right
      exact gone
  present := fun entry mem => delivers.present entry (mem_of_mem_filter mem)
  sightings := delivers.sightings
  known := delivers.known
  front := delivers.front

omit [DecidableEq α] in
lemma Delivers.discard : Delivers key top appended [] seen (discarded ++ stored.map key) where
  ascending := delivers.ascending
  below := delivers.below
  held := nil_sublist _
  kept := by
    intro entry mem
    right
    rcases delivers.kept entry mem with held | gone | before
    · left
      exact mem_append_right _ (mem_map_of_mem held)
    · left
      exact mem_append_left _ gone
    · right
      exact before
  present := by simp
  sightings := delivers.sightings
  known := delivers.known
  front := by
    intro entry mem other among less
    rcases delivers.front entry mem other among less with sighted | gone
    · left
      exact sighted
    · right
      exact mem_append_left _ gone

lemma Delivers.seen_then_stored :
    appended.filter (key · ∉ discarded) = seen.filter (key · ∉ discarded) ++ stored.filter (· ∉ seen) := by
  have ordered : stored.Pairwise (key · < key ·) := delivers.ascending.sublist delivers.held
  have right : (seen.filter (key · ∉ discarded) ++ stored.filter (· ∉ seen)).Pairwise
      (key · < key ·) := by
    refine pairwise_append.mpr ⟨delivers.sightings.filter _, ordered.filter _, ?_⟩
    intro old before entry among
    obtain ⟨sighted, -⟩ := mem_filter.mp before
    obtain ⟨held, unseen⟩ := mem_filter.mp among
    have unseen : entry ∉ seen := of_decide_eq_true unseen
    have known : entry ∈ appended := delivers.held.subset held
    rcases lt_trichotomy (key old) (key entry) with less | equal | more
    · exact less
    · have same := ascending_inj delivers.ascending (delivers.known old sighted) known equal
      exact absurd (same ▸ sighted) unseen
    · rcases delivers.front old sighted entry known more with earlier | gone
      · exact absurd earlier unseen
      · exact absurd gone (delivers.present entry held)
  refine List.Pairwise.eq_of_mem_iff (delivers.ascending.filter _) right ?_
  intro entry
  simp only [mem_append, mem_filter, decide_eq_true_eq]
  constructor
  · rintro ⟨mem, stays⟩
    by_cases sighted : entry ∈ seen
    · left
      exact ⟨sighted, stays⟩
    · right
      rcases delivers.kept entry mem with held | gone | before
      · exact ⟨held, sighted⟩
      · exact absurd gone stays
      · exact absurd before sighted
  · rintro (⟨sighted, stays⟩ | ⟨held, unseen⟩)
    · exact ⟨delivers.known entry sighted, stays⟩
    · exact ⟨delivers.held.subset held, delivers.present entry held⟩

end
end Clawdi.Inbox
