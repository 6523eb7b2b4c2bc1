import Mathlib.Data.List.Nodup
import Mathlib.Data.List.Range
import Mathlib.Data.Nat.Notation

namespace Clawdi.SessionSearch
open List

inductive Role where
  | user
  | assistant
  | system
  | developer
deriving DecidableEq

inductive Part where
  | text (content : String)
  | attachment
deriving DecidableEq

/-- `hidden` is `semantics.display`; the other kinds of events are never searched. -/
inductive EventBody where
  | message (role : Role) (hidden : Bool) (parts : List Part)
  | other
deriving DecidableEq

structure SessionEvent where
  seq : ℕ
  body : EventBody
deriving DecidableEq

/-- A message of a snapshot, with its role and its text where they are of use. -/
structure SnapshotMessage where
  role : Option Role
  content : Option String
deriving DecidableEq

inductive SearchRole where
  | user
  | assistant
deriving DecidableEq

def Role.searchRole : Role → Option SearchRole
  | .user => some .user
  | .assistant => some .assistant
  | .system | .developer => none

structure SearchableSessionMessage where
  position : ℕ
  role : SearchRole
  content : String
deriving DecidableEq

def Part.text? : Part → Option String
  | .text content => if content = "" then none else some content
  | .attachment => none

/-- The message that `project_visible_messages` makes of an event, if it makes one. -/
def projectVisibleMessage (ev : SessionEvent) : Option SearchableSessionMessage :=
  match ev.body with
  | .other => none
  | .message role hidden parts =>
    match role.searchRole with
    | none => none
    | some role =>
      if hidden then none
      else
        let text := "\n".intercalate (parts.filterMap Part.text?)
        if text = "" then none else some ⟨ev.seq, role, text⟩

def projectVisibleMessages (evs : List SessionEvent) : List SearchableSessionMessage :=
  evs.filterMap projectVisibleMessage

variable (content : String) (msg : SearchableSessionMessage)

def searchableText : String := content.map fun ch => if ch = '\x00' then '\uFFFD' else ch

def SearchableSessionMessage.searchable : SearchableSessionMessage :=
  { msg with content := searchableText msg.content }

def searchableEventMessages (evs : List SessionEvent) : List SearchableSessionMessage :=
  (projectVisibleMessages evs).map SearchableSessionMessage.searchable

def searchableSnapshotMessage : SnapshotMessage × ℕ → Option SearchableSessionMessage
  | (msg, pos) =>
  match msg.role.bind Role.searchRole, msg.content with
  | some role, some content => if content = "" then none else some ⟨pos, role, searchableText content⟩
  | _, _ => none

def searchableSnapshotMessages (msgs : List SnapshotMessage) : List SearchableSessionMessage :=
  msgs.zipIdx.filterMap searchableSnapshotMessage

def SESSION_SEARCH_CHUNK_BODY_CHARACTERS : ℕ := 16000
def SESSION_SEARCH_CHUNK_OVERLAP_CHARACTERS : ℕ := 2000

def SESSION_SEARCH_CHUNK_MAX_CHARACTERS : ℕ :=
  SESSION_SEARCH_CHUNK_BODY_CHARACTERS + SESSION_SEARCH_CHUNK_OVERLAP_CHARACTERS

def searchChunksFrom : ℕ → List Char → List String
  | 0, content => [String.ofList content]
  | rounds + 1, content =>
    if content.length ≤ SESSION_SEARCH_CHUNK_MAX_CHARACTERS then [String.ofList content]
    else
      String.ofList (content.take SESSION_SEARCH_CHUNK_MAX_CHARACTERS) ::
        searchChunksFrom rounds (content.drop SESSION_SEARCH_CHUNK_BODY_CHARACTERS)

def sessionSearchChunks : List String := searchChunksFrom content.length content.toList
abbrev Head := List SessionEvent

/-- The stored bytes of a snapshot; `invalid` is no JSON array of messages. -/
inductive Snapshot where
  | invalid (bytes : ℕ)
  | messages (msgs : List SnapshotMessage)
deriving DecidableEq

def Snapshot.searchMessages : Snapshot → List SearchableSessionMessage
  | .invalid _ => []
  | .messages list => searchableSnapshotMessages list

inductive DocumentRevision where
  | events (gen : ℕ)
  | snapshot (hash : Snapshot)
deriving DecidableEq

inductive SearchRevision where
  | events (head : Head)
  | snapshot (hash : Snapshot)
deriving DecidableEq

structure Document where
  contentRevision : DocumentRevision
  position : ℕ
  chunkIndex : ℕ
  role : SearchRole
  content : String
deriving DecidableEq

def Document.key (doc : Document) : DocumentRevision × ℕ × ℕ := (doc.contentRevision, doc.position, doc.chunkIndex)

def messageDocuments (rev : DocumentRevision) (msg : SearchableSessionMessage) : List Document :=
  (sessionSearchChunks msg.content).mapIdx fun chunkIndex content =>
    ⟨rev, msg.position, chunkIndex, msg.role, content⟩

def documentsOf (rev : DocumentRevision) (msgs : List SearchableSessionMessage) : List Document :=
  msgs.flatMap (messageDocuments rev)

section
variable {rev : DocumentRevision} {msgs : List SearchableSessionMessage}
  {doc : Document}

lemma mem_documentsOf : doc ∈ documentsOf rev msgs ↔ ∃ msg ∈ msgs, doc ∈ messageDocuments rev msg := mem_flatMap

lemma messageDocuments_fields {msg} (mem : doc ∈ messageDocuments rev msg) :
    doc.contentRevision = rev ∧ doc.position = msg.position := by
  obtain ⟨i, inside, rfl⟩ := mem_mapIdx.mp mem
  exact ⟨rfl, rfl⟩

lemma documentsOf_revision (mem : doc ∈ documentsOf rev msgs) : doc.contentRevision = rev := by
  obtain ⟨msg, _, inside⟩ := mem_documentsOf.mp mem
  exact (messageDocuments_fields inside).1

lemma messageDocuments_keys (msg : SearchableSessionMessage) :
    ((messageDocuments rev msg).map Document.key).Nodup := by
  have keys : (messageDocuments rev msg).map Document.key = (List.range (sessionSearchChunks msg.content).length).map
        (fun chunkIndex => (rev, msg.position, chunkIndex)) := by
    apply ext_getElem
    · simp [messageDocuments]
    · intro i first snd
      simp [messageDocuments, Document.key]
  rw [keys]
  apply List.Nodup.map _ nodup_range
  intro a b same
  exact (Prod.mk.inj (Prod.mk.inj same).2).2

lemma documentsOf_keys (positions : (msgs.map SearchableSessionMessage.position).Nodup) :
    ((documentsOf rev msgs).map Document.key).Nodup := by
  induction msgs with
  | nil => exact nodup_nil
  | cons msg msgs ih =>
    obtain ⟨fresh, rest⟩ := nodup_cons.mp positions
    have disjoint : List.Disjoint ((messageDocuments rev msg).map Document.key)
        ((documentsOf rev msgs).map Document.key) := by
      intro key first later
      obtain ⟨one, inFirst, rfl⟩ := mem_map.mp first
      obtain ⟨alt, inLater, same⟩ := mem_map.mp later
      obtain ⟨message', here, inside⟩ := mem_documentsOf.mp inLater
      have atFirst := (messageDocuments_fields inFirst).2
      have atLater := (messageDocuments_fields inside).2
      have positionsSame : alt.position = one.position := (Prod.mk.inj (Prod.mk.inj same).2).1
      apply fresh
      rw [← atFirst, ← positionsSame, atLater]
      exact mem_map_of_mem here
    rw [documentsOf, flatMap_cons, map_append]
    exact List.Nodup.append (messageDocuments_keys msg) (ih rest) disjoint

end

lemma filterMap_map_sublist {α β γ : Type} {f : α → Option β} {g : α → γ} {h : β → γ}
    {items : List α} (agrees : ∀ a b, f a = some b → h b = g a) :
    ((items.filterMap f).map h).Sublist (items.map g) := by
  induction items with
  | nil => simp
  | cons item items ih =>
    rw [filterMap_cons, map_cons]
    split
    · exact ih.cons _
    · rename_i kept proj
      rw [map_cons, agrees item kept proj]
      exact ih.cons_cons _

section
variable {evs : List SessionEvent} {msg : SearchableSessionMessage}

lemma mem_searchableEventMessages : msg ∈ searchableEventMessages evs ↔
      ∃ ev ∈ evs, ∃ visible, projectVisibleMessage ev = some visible ∧ visible.searchable = msg := by
  simp only [searchableEventMessages, projectVisibleMessages, mem_map, mem_filterMap]
  constructor
  · rintro ⟨visible, ⟨ev, mem, proj⟩, same⟩
    exact ⟨ev, mem, visible, proj, same⟩
  · rintro ⟨ev, mem, visible, proj, same⟩
    exact ⟨visible, ⟨ev, mem, proj⟩, same⟩

lemma projectVisibleMessage_position {ev} (proj : projectVisibleMessage ev = some msg) : msg.position = ev.seq := by
  rw [projectVisibleMessage] at proj
  split at proj
  · cases proj
  · split at proj
    · cases proj
    · dsimp only at proj
      split at proj
      · cases proj
      · split at proj
        · cases proj
        · cases proj
          rfl

lemma searchableEventMessages_positions (apart : (evs.map SessionEvent.seq).Nodup) :
    ((searchableEventMessages evs).map SearchableSessionMessage.position).Nodup := by
  have positions : (searchableEventMessages evs).map SearchableSessionMessage.position =
      (projectVisibleMessages evs).map SearchableSessionMessage.position := by
    simp [searchableEventMessages, SearchableSessionMessage.searchable, Function.comp_def]
  rw [positions]
  have part : ((projectVisibleMessages evs).map SearchableSessionMessage.position).Sublist
      (evs.map SessionEvent.seq) :=
    filterMap_map_sublist fun _ _ proj => projectVisibleMessage_position proj
  exact List.Nodup.sublist part apart

lemma mem_documentsOf_events {rev doc} : doc ∈ documentsOf rev (searchableEventMessages evs) ↔
      ∃ ev ∈ evs, doc ∈ documentsOf rev (searchableEventMessages [ev]) := by
  simp only [mem_documentsOf, mem_searchableEventMessages, mem_singleton]
  constructor
  · rintro ⟨msg, ⟨ev, mem, proj⟩, inside⟩
    exact ⟨ev, mem, msg, ⟨ev, rfl, proj⟩, inside⟩
  · rintro ⟨ev, mem, msg, ⟨_, rfl, proj⟩, inside⟩
    exact ⟨msg, ⟨_, mem, proj⟩, inside⟩

end

lemma searchableSnapshotMessages_positions (msgs : List SnapshotMessage) :
    ((searchableSnapshotMessages msgs).map SearchableSessionMessage.position).Nodup := by
  have agrees : ∀ (item : SnapshotMessage × ℕ) (msg : SearchableSessionMessage),
      searchableSnapshotMessage item = some msg → msg.position = item.2 := by
    intro item msg proj
    rw [searchableSnapshotMessage] at proj
    split at proj
    · split at proj
      · cases proj
      · cases proj
        rfl
    · cases proj
  have indices : (msgs.zipIdx.map Prod.snd).Nodup := by
    rw [zipIdx_map_snd]
    exact nodup_range'
  exact List.Nodup.sublist (filterMap_map_sublist agrees) indices

lemma searchMessages_positions (content : Snapshot) :
    (content.searchMessages.map SearchableSessionMessage.position).Nodup := by
  cases content with
  | invalid bytes => exact nodup_nil
  | messages list => exact searchableSnapshotMessages_positions list

end Clawdi.SessionSearch
