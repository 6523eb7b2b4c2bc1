import Mathlib
import Clawdi.Lib.Sha256

namespace Clawdi.SkillArchives
open Function

abbrev Uuid := String
abbrev Segments := List String

variable (segs : Segments)

def Segments.text : String := "/".intercalate segs

/-- How a file is stored sparse: the map of its blocks is in the header block, of type `S`, or it is given by
pax headers `GNU.sparse.*`. -/
inductive Sparse
  | header
  | pax (named : Bool) (records : List (String × String))
  deriving DecidableEq

inductive EntryType
  | regular
  | sparse (form : Sparse)
  | directory
  | symlink
  | hardlink
  | special
  deriving DecidableEq

/-- An entry of an archive as it is read; `pathHeader` is its pax header `path`. -/
structure Entry where
  name : Segments
  type : EntryType
  content : Bytes
  pathHeader : Option Segments := none

variable (e : Entry) (es : List Entry)

def Entry.isfile : Bool := match e.type with
  | .regular | .sparse _ => true
  | _ => false

def Entry.size : ℕ := if e.isfile then e.content.length else 0

/-- A gzipped tar file. -/
structure TarFile where
  entries : List Entry
  packing : ℕ

inductive Data
  | tarFile (file : TarFile)
  | text (doc : String)

def Data.entries : Data → Option (List Entry)
  | .tarFile file => some file.entries
  | .text _ => none

def MAX_FILES : ℕ := 5000
def MAX_MEMBERS : ℕ := 20000
def MAX_REGULAR_FILE_BYTES : ℕ := 16 * 1024 * 1024
def MAX_DECOMPRESSED_BYTES : ℕ := 200 * 1024 * 1024
def Segments.parts : List String := segs.filter fun part => part ≠ "" ∧ part ≠ "."
def reservedPart (part : String) : Bool := ".clawdi-managed".toList.isPrefixOf part.toLower.toList

/-- What `validate_tar` accepts in a single entry. -/
def validEntry : Bool :=
  (e.isfile || e.type = .directory) &&
    !(1 < e.name.length && e.name.head? = some "") && !(e.name.parts.contains "..") &&
    !(e.name.parts.any reservedPart) && e.size ≤ MAX_REGULAR_FILE_BYTES

def validateTar : Option ℕ :=
  let fileCount := es.countP Entry.isfile
  if es.length ≤ MAX_MEMBERS ∧ es.all validEntry ∧ fileCount ≤ MAX_FILES ∧
      (es.map Entry.size).sum ≤ MAX_DECOMPRESSED_BYTES then some fileCount
  else none

/-- With a Skill key the root document, else the first `SKILL.md` at any depth. -/
def extractSkillMd (skillKey : Option Segments) : Option String := do
  let e ← es.find? fun e => e.isfile && match skillKey with
    | some skillKey => e.name = skillKey ++ ["SKILL.md"]
    | none => e.name.parts.getLast? = some "SKILL.md"
  String.fromUTF8? ⟨e.content.toArray⟩

def utf8 (text : String) : Bytes := text.toUTF8.data.toList

def tarFromContent (skillKey : Segments) (content : String) : TarFile :=
  ⟨[{ name := skillKey ++ ["SKILL.md"], type := .regular, content := utf8 content }], 0⟩

def SKILL_HASH_EXCLUDE : List String :=
  ["node_modules", ".git", ".turbo", ".cache", "dist", "build", "out", "target", "__pycache__",
    ".venv", "venv", ".pytest_cache", ".mypy_cache", ".ruff_cache", ".tox", "coverage", ".agents",
    ".cursor", ".factory", ".openclaw", ".hermes", ".gbrain", ".claude", ".codex"]

structure Frontmatter where
  name : Option String
  description : Option String

/-- What the routes use of other libraries. -/
structure Libraries (δ : Type) where
  sha256 : Bytes → δ
  frontmatter : Bool → String → Option Frontmatter

def stripCount : Option Segments → ℕ
  | some key => key.length
  | none => 1

def regularFiles (key : Option Segments) : List (Segments × Bytes) :=
  (es.filter Entry.isfile).map fun e => (e.name.drop (stripCount key), e.content)

def hashedFile (file : Segments × Bytes) : Option (String × Bytes) :=
  if file.1.any (· ∈ SKILL_HASH_EXCLUDE) || file.1.text = "" then none else some (file.1.text, file.2)

def framed (files : List (String × Bytes)) : Bytes := files.flatMap fun file => utf8 file.1 ++ file.2

variable {δ : Type}

/-- `_compute_file_tree_hash` of the server. -/
def computeFileTreeHash (sha256 : Bytes → δ) (key : Option Segments) : δ :=
  sha256 (framed (((regularFiles es key).filterMap hashedFile).insertionSort fun a b => a.1 ≤ b.1))

structure SkillUploadAnalysis (δ : Type) where
  fileCount : ℕ
  name : String
  description : String
  contentHash : δ
  legacySingleFileHash : Option δ

variable (lib : Libraries δ)

def analyzeSkillUpload (skillKey : Segments) (strictFrontmatter : Bool) : Option (SkillUploadAnalysis δ) := do
  let fileCount ← validateTar es
  guard (es.all fun e => skillKey.isPrefixOf e.name)
  let doc := skillKey ++ ["SKILL.md"]
  let rootDocuments := es.countP fun e => e.isfile && e.name = doc
  let singleDocumentOnly := es.all fun e => e.name = skillKey || e.name = doc
  guard (!strictFrontmatter || rootDocuments = 1)
  let skillMd ← extractSkillMd es (if strictFrontmatter then some skillKey else none)
  guard (skillMd ≠ "")
  let frontmatter ← lib.frontmatter strictFrontmatter skillMd
  return {
    fileCount
    name := frontmatter.name.getD skillKey.text
    description := frontmatter.description.getD ""
    contentHash := computeFileTreeHash es lib.sha256 (some skillKey)
    legacySingleFileHash :=
      if singleDocumentOnly ∧ fileCount = 1 then some (lib.sha256 (utf8 skillMd)) else none }

inductive FileKey
  | archive (uid pid : Uuid) (skillKey : Segments) (contentHash : String)
  | historical (name : String)
  deriving DecidableEq

def FileKey.text : FileKey → String
  | .archive uid pid skillKey contentHash =>
    "skills/" ++ uid ++ "/" ++ pid ++ "/" ++ skillKey.text ++ "/" ++ contentHash ++ ".tar.gz"
  | .historical name => name

def FileKey.isDocument : FileKey → Bool
  | .archive _ _ _ _ => false
  | .historical name => ".md".toList.isSuffixOf name.toList

abbrev FileStore := FileKey → Option Data

namespace FileStore

def put (store : FileStore) (key : FileKey) (data : Data) : FileStore := Function.update store key (some data)
def delete (store : FileStore) (key : FileKey) : FileStore := Function.update store key none

end FileStore

def readArchive (key : FileKey) (skillKey : Segments) (data : Data) : Option TarFile :=
  match data, key.isDocument with
  | .tarFile file, false => some file
  | .text doc, true => some (tarFromContent skillKey doc)
  | _, _ => none

variable [DecidableEq δ]

def validateStoredSkill (store : FileStore) (skillKey : Segments) (key : FileKey)
    (contentHash : δ) : Option (SkillUploadAnalysis δ) := do
  let data ← store key
  let file ← readArchive key skillKey data
  let analysis ← analyzeSkillUpload file.entries lib skillKey true
  guard (contentHash = analysis.contentHash ∨ some contentHash = analysis.legacySingleFileHash)
  return analysis

omit [DecidableEq δ]

lemma analysis_some {skillKey strict analysis} (h : analyzeSkillUpload es lib skillKey strict = some analysis) :
    (validateTar es).isSome ∧ (∀ e ∈ es, skillKey <+: e.name) ∧
      computeFileTreeHash es lib.sha256 (some skillKey) = analysis.contentHash := by
  simp only [analyzeSkillUpload, Option.bind_eq_bind, Option.bind_eq_some_iff] at h
  obtain ⟨count, counted, _, under, _, _, _, _, _, _, _, _, rest⟩ := h
  cases rest
  exact ⟨Option.isSome_iff_exists.mpr ⟨count, counted⟩, by simpa [Option.guard_eq_some'] using under, rfl⟩

def Stored (store : FileStore) (key : FileKey) (skillKey : Segments) (contentHash : δ) : Prop :=
  ∃ data file, store key = some data ∧ readArchive key skillKey data = some file ∧
    computeFileTreeHash file.entries lib.sha256 (some skillKey) = contentHash

variable {lib} {store : FileStore} {key alt : FileKey} {skillKey : Segments}

lemma Stored.delete {contentHash : δ} (was : Stored lib store key skillKey contentHash) (apart : key ≠ alt) :
    Stored lib (store.delete alt) key skillKey contentHash := by
  obtain ⟨data, file, hit, reads, hash⟩ := was
  refine ⟨data, file, ?_, reads, hash⟩
  rw [FileStore.delete, update_of_ne apart, hit]

lemma Stored.put_self {lib : Libraries String} {uid pid file contentHash}
    (hash : computeFileTreeHash file.entries lib.sha256 (some skillKey) = contentHash) :
    Stored lib (store.put (.archive uid pid skillKey contentHash) (.tarFile file))
      (.archive uid pid skillKey contentHash) skillKey contentHash :=
  ⟨_, file, update_self .., rfl, hash⟩

lemma Stored.put {contentHash : δ} (was : Stored lib store key skillKey contentHash) (apart : key ≠ alt)
    (data : Data) : Stored lib (store.put alt data) key skillKey contentHash := by
  obtain ⟨old, file, hit, reads, hash⟩ := was
  refine ⟨old, file, ?_, reads, hash⟩
  rw [FileStore.put, update_of_ne apart, hit]

end Clawdi.SkillArchives
