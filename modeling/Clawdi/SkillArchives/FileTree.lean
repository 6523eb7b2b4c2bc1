import Clawdi.SkillArchives.Archives

namespace Clawdi.SkillArchives.FileTree
open List

/-- A finite map from relative paths to contents, in the order of the paths. -/
@[ext]
structure SkillTree where
  files : List (Segments × Bytes)
  sorted : files.Pairwise fun a b => a.1.text < b.1.text
  named : ∀ file ∈ files, file.1.text ≠ ""
  included : ∀ file ∈ files, ∀ part ∈ file.1, part ∉ SKILL_HASH_EXCLUDE
  document : ∃ content, (["SKILL.md"], content) ∈ files

def SkillTree.framed (tree : SkillTree) : Bytes := SkillArchives.framed (tree.files.map fun file => (file.1.text, file.2))

def Carries (es : List Entry) (key : Option Segments) (tree : SkillTree) : Prop :=
  (regularFiles es key).Perm tree.files

variable {es : List Entry} {key : Option Segments} {tree : SkillTree}

lemma Carries.hashed (carries : Carries es key tree) : ((regularFiles es key).filterMap hashedFile).Perm
      (tree.files.map fun file => (file.1.text, file.2)) := by
  have all : tree.files.filterMap hashedFile = tree.files.map fun file => (file.1.text, file.2) := by
    rw [← filterMap_eq_map]
    apply filterMap_congr
    intro file mem
    have excludes : file.1.any (· ∈ SKILL_HASH_EXCLUDE) = false := by simpa using tree.included file mem
    simp [hashedFile, excludes, tree.named file mem]
  rw [← all]
  exact carries.filterMap hashedFile

lemma insertionSort_eq {files ordered : List (String × Bytes)} (same : files.Perm ordered)
    (strict : ordered.Pairwise fun a b => a.1 < b.1) : files.insertionSort (fun a b => a.1 ≤ b.1) = ordered := by
  have sorts := files.perm_insertionSort fun a b => a.1 ≤ b.1
  have distinct : (ordered.map Prod.fst).Nodup := pairwise_map.mpr (strict.imp ne_of_lt)
  apply List.Perm.eq_of_pairwise _ (files.pairwise_insertionSort _) (strict.imp le_of_lt) (sorts.trans same)
  intro a b sorted mem below above
  exact inj_on_of_nodup_map distinct ((sorts.trans same).mem_iff.mp sorted) mem (le_antisymm below above)

lemma Carries.computeFileTreeHash (carries : Carries es key tree) :
    SkillArchives.computeFileTreeHash es sha256 key = sha256 tree.framed := by
  have strict : (tree.files.map fun file => (file.1.text, file.2)).Pairwise fun a b => a.1 < b.1 :=
    pairwise_map.mpr tree.sorted
  rw [SkillArchives.computeFileTreeHash, insertionSort_eq carries.hashed strict]
  rfl

section
variable {changed : SkillTree} {path : Segments}

lemma eq_of_mem_iff {one two : List (Segments × Bytes)} (oneSorted : one.Pairwise fun a b => a.1.text < b.1.text)
    (twoSorted : two.Pairwise fun a b => a.1.text < b.1.text) (same : ∀ file, file ∈ one ↔ file ∈ two) :
    one = two := by
  have apart {a b : Segments × Bytes} (less : a.1.text < b.1.text) : a ≠ b := by
    rintro rfl
    exact less.false
  apply List.Perm.eq_of_pairwise _ oneSorted twoSorted
  · exact (perm_ext_iff_of_nodup (oneSorted.imp apart) (twoSorted.imp apart)).mpr same
  · intro a b _ _ below above
    exact absurd (below.trans above) (lt_irrefl _)

def SkillTree.without (tree : SkillTree) (path : Segments) : List (Segments × Bytes) := tree.files.filter (·.1 ≠ path)

def DifferAt (path : Segments) (tree changed : SkillTree) : Prop :=
  ∀ file, file.1 ≠ path → (file ∈ tree.files ↔ file ∈ changed.files)

lemma DifferAt.without (differ : DifferAt path tree changed) : tree.without path = changed.without path := by
  apply eq_of_mem_iff (tree.sorted.filter _) (changed.sorted.filter _)
  intro file
  by_cases isPath : file.1 = path
  · simp [isPath]
  · simp [isPath, differ file isPath]

end

section

def archived (tree : SkillTree) : List Entry :=
  tree.files.map fun file => { name := "demo" :: file.1, type := .regular, content := file.2 }

end
end Clawdi.SkillArchives.FileTree
