import Clawdi.SkillArchives.FileTree
import Clawdi.Serve.RetryQueue

namespace Clawdi.SkillArchives.FileTree
open List Option
open Serve (maxSkillKeyLen reservedSkillKeySuffixes skillKeyComponent alphanumeric)

def isValidSkillKey (skillKey : Segments) : Bool :=
  skillKey.text.length ≤ maxSkillKeyLen && skillKey ≠ [] && skillKey.length ≤ 4 &&
    skillKey.all (fun part => skillKeyComponent part.toList) &&
    !(1 < skillKey.length && skillKey.getLastD "" ∈ reservedSkillKeySuffixes)

-- what the tar reader makes of data behind the headers `GNU.sparse.*`; `none` where it raises
variable (expand : List (String × String) → Bytes → Option Bytes)

/-- Whether the writer adds a header `path`, behind the others, for a name. -/
def longName (name : Segments) : Bool := 100 < name.text.length || name.text.toList.any (127 < ·.toNat)

section

variable {skillKey : Segments}

end

section
variable {src localKey : Segments} {es : List Entry} {e : Entry}

/-- An entry behind its new key. -/
def moved (src localKey : Segments) (e : Entry) : Entry :=
  let name := localKey ++ Segments.parts (e.name.drop src.length)
  { e with name, pathHeader := e.pathHeader.map fun _ => name }

@[simp] lemma moved_isfile : (moved src localKey e).isfile = e.isfile := rfl
lemma mapM_some {α β : Type} {f : α → Option β} {g : α → β} {rows : List α}
    (each : ∀ row ∈ rows, f row = some (g row)) : rows.mapM f = some (rows.map g) := by
  induction rows with
  | nil => rfl
  | cons first later ih =>
    rw [mapM_cons, each first mem_cons_self, ih fun row mem => each row (mem_cons_of_mem _ mem)]
    rfl

/-- The name has no empty segments and dots behind the key, and the kept sparse headers do no harm. -/
structure Survives (src localKey : Segments) (e : Entry) : Prop where
  plain : ∀ part ∈ e.name.drop src.length, part ≠ "" ∧ part ≠ "."
  header : e.type = .sparse .header → e.content = []
  pax : ∀ named records, e.type = .sparse (.pax named records) → expand records e.content = some e.content ∧
    (named = true → e.pathHeader = none ∧ longName (localKey ++ e.name.drop src.length) = true)

variable {expand} {r : Entry} {res : List Entry}

variable (expand) in
/-- Every file of the archive survives the move to the local key. -/
def Kept (src localKey : Segments) (es : List Entry) : Prop :=
  ∀ e ∈ es, e.isfile = true → Survives expand src localKey e

end

section

end
end Clawdi.SkillArchives.FileTree
