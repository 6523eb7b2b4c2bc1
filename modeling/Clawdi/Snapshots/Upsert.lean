import Mathlib.Logic.Relation
import Clawdi.Snapshots.World

namespace Clawdi.Snapshots
open List Table
open SessionEvents (Uuid Time HttpError Auth CommitRequest)

inductive Row.Change (objects : Table StoredSnapshot.key) (commits : Prop) (row : Row) : Row → Prop
  | refreshed (item : SessionCreate) (eventsRequested : Bool) (now : Time) :
    Row.Change objects commits row (row.refreshed item eventsRequested now)
  | same : Row.Change objects commits row row
  | uploaded (key : SnapshotKey) (now : Time) (snap : row.contentProtocol = .snapshotV1)
      (was : ∃ obj ∈ objects, obj.key = key) :
      Row.Change objects commits row (row.uploaded key key.contentHash now)
  | committed (body : CommitRequest) (now : Time) (allowed : commits) :
      Row.Change objects commits row (row.committed body now)

structure Row.Fresh (row : Row) : Prop where
  unstored : row.fileKey = none
  snapshot : row.contentProtocol = .snapshotV1

inductive RowStep (objects : Table StoredSnapshot.key) (commits : Prop) (held : Uuid → Prop)
    (rows : Table Row.id) : Table Row.id → Prop
  | changed (row later : Row) (mem : row ∈ rows) (free : ¬held row.id)
      (change : row.Change objects commits later) :
      RowStep objects commits held rows (rows.put later)
  | added (row : Row) (gone : rows.get row.id = none) (fresh : row.Fresh)
      (distinct : ∀ alt ∈ rows, ¬alt.SameOrigin row) :
      RowStep objects commits held rows (rows.put row)

abbrev RowSteps (objects : Table StoredSnapshot.key) (commits : Prop) (held : Uuid → Prop) :
    Table Row.id → Table Row.id → Prop :=
  Relation.ReflTransGen (RowStep objects commits held)

def OriginsDistinct (rows : Table Row.id) : Prop := ∀ one ∈ rows, ∀ alt ∈ rows, one.SameOrigin alt → one = alt

def BlobsNamed (objects : Table StoredSnapshot.key) (rows : Table Row.id) : Prop :=
  ∀ row ∈ rows, row.contentProtocol = .snapshotV1 → ∀ key, row.fileKey = some key →
    (∃ obj ∈ objects, obj.key = key) ∧ row.contentHash = some (hexdigest key.contentHash)

structure Row.Later (commits : Prop) (row later : Row) : Prop where
  sameId : later.id = row.id
  activity : row.lastActivityAt ≤ later.lastActivityAt
  protocol : row.contentProtocol = .eventsV1 → later.contentProtocol = .eventsV1
  file : row.contentProtocol = .eventsV1 → later.fileKey = row.fileKey
  hash : row.contentProtocol = .eventsV1 → ¬commits → later.contentHash = row.contentHash

lemma Row.Later.refl (commits : Prop) (row : Row) : row.Later commits row where
  sameId := rfl
  activity := le_refl _
  protocol := fun evs => evs
  file := fun _ => rfl
  hash := fun _ _ => rfl

lemma Row.Later.trans {commits : Prop} {row later last : Row} (first : row.Later commits later)
    (snd : later.Later commits last) : row.Later commits last where
  sameId := snd.sameId.trans first.sameId
  activity := le_trans first.activity snd.activity
  protocol := fun evs => snd.protocol (first.protocol evs)
  file := fun evs => (snd.file (first.protocol evs)).trans (first.file evs)
  hash := fun evs free =>
    (snd.hash (first.protocol evs) free).trans (first.hash evs free)

section
variable {objects : Table StoredSnapshot.key} {commits : Prop} {row later : Row}

lemma Row.Change.sameId (change : row.Change objects commits later) : later.id = row.id := by
  cases change with
  | refreshed | same | uploaded | committed => rfl

lemma Row.Change.sameOrigin (change : row.Change objects commits later) :
    later.userId = row.userId ∧ later.originEnvironmentId = row.originEnvironmentId ∧
      later.localSessionId = row.localSessionId := by
  cases change with
  | refreshed | same | uploaded | committed => exact ⟨rfl, rfl, rfl⟩

lemma Row.Change.isLater (change : row.Change objects commits later) : row.Later commits later := by
  cases change with
  | refreshed item eventsRequested now =>
    exact {
      sameId := rfl
      activity := refreshed_activity row item eventsRequested now
      protocol := fun evs => evs
      file := fun evs => (refreshed_committed row item eventsRequested now evs).2
      hash := fun evs _ => (refreshed_committed row item eventsRequested now evs).1 }
  | same => exact .refl commits row
  | uploaded key now snap was =>
    have excluded : row.contentProtocol ≠ .eventsV1 := by
      rw [snap]
      decide
    exact {
      sameId := rfl
      activity := le_refl _
      protocol := fun evs => absurd evs excluded
      file := fun evs => absurd evs excluded
      hash := fun evs => absurd evs excluded }
  | committed body now allowed =>
    exact {
      sameId := rfl
      activity := le_refl _
      protocol := fun _ => rfl
      file := fun _ => rfl
      hash := fun _ free => absurd allowed free }

lemma Row.Change.named (change : row.Change objects commits later)
    (named : row.contentProtocol = .snapshotV1 → ∀ key, row.fileKey = some key →
      (∃ obj ∈ objects, obj.key = key) ∧ row.contentHash = some (hexdigest key.contentHash))
    (snap : later.contentProtocol = .snapshotV1) (key : SnapshotKey) (file : later.fileKey = some key) :
    (∃ obj ∈ objects, obj.key = key) ∧ later.contentHash = some (hexdigest key.contentHash) := by
  cases change with
  | refreshed item eventsRequested now =>
    rcases refreshed_content row item eventsRequested now with ⟨hash, kept⟩ | ⟨_, forgotten⟩
    · rw [hash]
      rw [kept] at file
      exact named snap key file
    · rw [forgotten] at file
      cases file
  | same => exact named snap key file
  | uploaded was now _ here =>
    cases file
    exact ⟨here, rfl⟩
  | committed => cases snap

end

section
variable {objects : Table StoredSnapshot.key} {commits : Prop} {held : Uuid → Prop}
  {rows after : Table Row.id}

section
variable (step : RowStep objects commits held rows after)
include step

lemma RowStep.distinct (distinct : OriginsDistinct rows) : OriginsDistinct after := by
  cases step with
  | changed row later mem free change =>
    obtain ⟨user, env, localId⟩ := change.sameOrigin
    have named : ∀ alt ∈ rows, alt.id ≠ later.id → ¬later.SameOrigin alt ∧ ¬alt.SameOrigin later := by
      intro alt inRows ne
      have apart : alt.id ≠ row.id := by rwa [change.sameId] at ne
      refine ⟨fun same => apart ?_, fun same => apart ?_⟩
      · unfold Row.SameOrigin at same
        rw [user, env, localId] at same
        rw [distinct row mem alt inRows same]
      · unfold Row.SameOrigin at same
        rw [user, env, localId] at same
        rw [distinct alt inRows row mem same]
    intro one memberOne alt memberOther same
    rcases mem_put.mp memberOne with rfl | ⟨inOne, differsOne⟩
    · rcases mem_put.mp memberOther with rfl | ⟨inOther, differsOther⟩
      · rfl
      · exact absurd same (named alt inOther differsOther).1
    · rcases mem_put.mp memberOther with rfl | ⟨inOther, differsOther⟩
      · exact absurd same (named one inOne differsOne).2
      · exact distinct one inOne alt inOther same
  | added row gone fresh apart =>
    intro one memberOne alt memberOther same
    rcases mem_put.mp memberOne with rfl | ⟨inOne, _⟩
    · rcases mem_put.mp memberOther with rfl | ⟨inOther, _⟩
      · rfl
      · have swapped : alt.SameOrigin one :=
          ⟨same.1.symm, by rw [← same.2.2.1]; exact same.2.1, same.2.2.1.symm, same.2.2.2.symm⟩
        exact absurd swapped (apart alt inOther)
    · rcases mem_put.mp memberOther with rfl | ⟨inOther, _⟩
      · exact absurd same (apart one inOne)
      · exact distinct one inOne alt inOther same

lemma RowStep.named (named : BlobsNamed objects rows) : BlobsNamed objects after := by
  cases step with
  | changed row later mem free change =>
    intro alt inAfter
    rcases mem_put.mp inAfter with rfl | ⟨inRows, _⟩
    · exact change.named (named row mem)
    · exact named alt inRows
  | added row gone fresh apart =>
    intro alt inAfter snap key file
    rcases mem_put.mp inAfter with rfl | ⟨inRows, _⟩
    · rw [fresh.unstored] at file
      cases file
    · exact named alt inRows snap key file

lemma RowStep.later {row} (mem : row ∈ rows) : ∃ later ∈ after, row.Later commits later := by
  cases step with
  | changed before later inRows free change =>
    by_cases same : row.id = before.id
    · have equal : row = before := eq_of_key mem inRows same
      subst equal
      exact ⟨later, mem_put_self _ _, change.isLater⟩
    · refine ⟨row, mem_put.mpr (.inr ⟨mem, ?_⟩), .refl commits row⟩
      rw [change.sameId]
      exact same
  | added new gone fresh apart =>
    refine ⟨row, mem_put.mpr (.inr ⟨mem, ?_⟩), .refl commits row⟩
    exact get_eq_none.mp gone row mem

lemma RowStep.holds {row} (mem : row ∈ rows) (locked : held row.id) : row ∈ after := by
  cases step with
  | changed before later inRows free change =>
    refine mem_put.mpr (.inr ⟨mem, ?_⟩)
    rw [change.sameId]
    rintro same
    rw [same] at locked
    exact free locked
  | added new gone fresh apart => exact mem_put.mpr (.inr ⟨mem, get_eq_none.mp gone row mem⟩)

end

section
variable (steps : RowSteps objects commits held rows after)
include steps

lemma RowSteps.weaken {fewer : Uuid → Prop} (held_of_fewer : ∀ rowId, fewer rowId → held rowId) :
    RowSteps objects commits fewer rows after := by
  induction steps with
  | refl => exact .refl
  | tail _ step ih =>
    refine ih.tail ?_
    cases step with
    | changed row later mem free change =>
      exact .changed row later mem (fun locked => free (held_of_fewer row.id locked)) change
    | added row gone fresh apart => exact .added row gone fresh apart

lemma RowSteps.distinct (distinct : OriginsDistinct rows) : OriginsDistinct after := by
  induction steps with
  | refl => exact distinct
  | tail _ step ih => exact step.distinct ih

lemma RowSteps.named (named : BlobsNamed objects rows) : BlobsNamed objects after := by
  induction steps with
  | refl => exact named
  | tail _ step ih => exact step.named ih

lemma RowSteps.later {row} (mem : row ∈ rows) : ∃ later ∈ after, row.Later commits later := by
  induction steps with
  | refl => exact ⟨row, mem, .refl commits row⟩
  | tail _ step ih =>
    obtain ⟨middle, inMiddle, first⟩ := ih
    obtain ⟨last, inLast, snd⟩ := step.later inMiddle
    exact ⟨last, inLast, first.trans snd⟩

lemma RowSteps.holds {row} (mem : row ∈ rows) (locked : held row.id) : row ∈ after := by
  induction steps with
  | refl => exact mem
  | tail _ step ih => exact step.holds ih locked

end
end

open SessionEvents (Uuid Time HttpError Auth)
variable {rows : Table Row.id}

lemma conflicting_eq_some {uid item row}
    (hit : conflicting uid item rows = some row) : row ∈ rows ∧ row.userId = uid ∧ item.Names row := by
  refine ⟨mem_of_find?_eq_some hit, ?_⟩
  simpa using List.find?_some hit

lemma conflicting_eq_none {uid item} (gone : conflicting uid item rows = none) {row} (mem : row ∈ rows)
    (user : row.userId = uid) : ¬item.Names row := by
  intro names
  have missed := List.find?_eq_none.mp gone row mem
  rw [decide_eq_true_iff] at missed
  exact missed ⟨user, names⟩

lemma conflicting_of_names {uid} {item : SessionCreate} {row}
    (distinct : OriginsDistinct rows) (mem : row ∈ rows) (user : row.userId = uid)
    (names : item.Names row) : conflicting uid item rows = some row := by
  cases hit : conflicting uid item rows with
  | none => exact absurd names (conflicting_eq_none hit mem user)
  | some alt =>
    obtain ⟨inRows, otherUser, otherNames⟩ := conflicting_eq_some hit
    have origin : alt.originEnvironmentId ≠ none := by
      rw [otherNames.1]
      exact Option.some_ne_none _
    have same : alt = row := distinct alt inRows row mem
      ⟨otherUser.trans user.symm, origin, otherNames.1.trans names.1.symm, otherNames.2.trans names.2.symm⟩
    rw [same]

def Upserting.touched (st : Upserting) : List Uuid := st.returned.map Row.id

inductive ItemResult (uid : Uuid) (profileKey : String) (item : SessionCreate)
    (eventsRequested : Bool) (id : Uuid) (now : Time) (st : Upserting) : Upserting → Prop
  | refreshed (row : Row) (hit : conflicting uid item st.rows = some row)
      (untouched : row.id ∉ st.touched) (profile : row.originProfileKey = profileKey) :
      ItemResult uid profileKey item eventsRequested id now st
        ⟨st.rows.put (row.refreshed item eventsRequested now),
          row.refreshed item eventsRequested now :: st.returned⟩
  | skipped (row : Row) (hit : conflicting uid item st.rows = some row)
      (untouched : row.id ∉ st.touched) (profile : row.originProfileKey ≠ profileKey) :
      ItemResult uid profileKey item eventsRequested id now st st
  | inserted (gone : conflicting uid item st.rows = none) (new : st.rows.get id = none) :
      ItemResult uid profileKey item eventsRequested id now st
        ⟨st.rows.put (insertedRow id uid profileKey item now),
          insertedRow id uid profileKey item now :: st.returned⟩

section
variable {uid id : Uuid} {profileKey : String} {item : SessionCreate} {eventsRequested : Bool}
  {now : Time} {st after : Upserting}

lemma upsertItem_cases (ok : upsertItem uid profileKey item eventsRequested id now st = .ok after) :
    ItemResult uid profileKey item eventsRequested id now st after := by
  unfold upsertItem at ok
  cases hit : conflicting uid item st.rows with
  | some cur =>
    simp only [hit] at ok
    by_cases touched : cur.id ∈ st.returned.map Row.id
    · rw [if_pos touched] at ok
      cases ok
    · rw [if_neg touched] at ok
      by_cases profile : cur.originProfileKey = profileKey
      · rw [if_pos profile] at ok
        cases ok
        exact .refreshed cur hit touched profile
      · rw [if_neg profile] at ok
        cases ok
        exact .skipped cur hit touched profile
  | none =>
    simp only [hit] at ok
    cases here : st.rows.get id with
    | some alt =>
      simp only [here] at ok
      cases ok
    | none =>
      simp only [here] at ok
      cases ok
      exact .inserted hit here

section
variable (res : ItemResult uid profileKey item eventsRequested id now st after)
include res

lemma ItemResult.rowStep {objects} {commits : Prop} {held : Uuid → Prop}
    (free : ∀ row, conflicting uid item st.rows = some row → row.id ∉ st.touched → ¬held row.id) :
    RowSteps objects commits held st.rows after.rows := by
  cases res with
  | refreshed row hit untouched profile =>
    have mem := (conflicting_eq_some hit).1
    exact .single (.changed row _ mem (free row hit untouched) (.refreshed item eventsRequested now))
  | skipped => exact .refl
  | inserted gone new =>
    have apart : ∀ alt ∈ st.rows,
        ¬alt.SameOrigin (insertedRow id uid profileKey item now) := by
      intro alt mem same
      exact conflicting_eq_none gone mem same.1 ⟨same.2.2.1, same.2.2.2⟩
    exact .single (.added _ new ⟨rfl, rfl⟩ apart)

lemma ItemResult.keeps_touched {row} (mem : row ∈ st.rows)
    (touched : row.id ∈ st.touched) : row ∈ after.rows ∧ row.id ∈ after.touched := by
  cases res with
  | refreshed cur hit untouched profile =>
    have ne : row.id ≠ cur.id := by
      intro same
      rw [same] at touched
      exact untouched touched
    exact ⟨mem_put.mpr (.inr ⟨mem, ne⟩), mem_cons_of_mem _ touched⟩
  | skipped => exact ⟨mem, touched⟩
  | inserted gone new =>
    have ne : row.id ≠ id := get_eq_none.mp new row mem
    exact ⟨mem_put.mpr (.inr ⟨mem, ne⟩), mem_cons_of_mem _ touched⟩

lemma ItemResult.keeps_other {row} (mem : row ∈ st.rows)
    (untouched : row.id ∉ st.touched) (alt : ¬item.Names row) : row ∈ after.rows ∧ row.id ∉ after.touched := by
  cases res with
  | refreshed cur hit unwritten profile =>
    have ne : row.id ≠ cur.id := by
      intro same
      obtain ⟨inRows, _, names⟩ := conflicting_eq_some hit
      rw [eq_of_key mem inRows same] at alt
      exact alt names
    refine ⟨mem_put.mpr (.inr ⟨mem, ne⟩), ?_⟩
    intro inTouched
    rcases mem_cons.mp inTouched with same | before
    · exact ne same
    · exact untouched before
  | skipped => exact ⟨mem, untouched⟩
  | inserted gone new =>
    have ne : row.id ≠ id := get_eq_none.mp new row mem
    refine ⟨mem_put.mpr (.inr ⟨mem, ne⟩), ?_⟩
    intro inTouched
    rcases mem_cons.mp inTouched with same | before
    · exact ne same
    · exact untouched before

end
end

section
variable {uid : Uuid} {pre : PreRead} {body : SessionBatchRequest} {newId : SessionCreate → Uuid}
  {now : Time}

variable {final st : Upserting} {items : List SessionCreate}

lemma upsertItems_cons {item} (ok : upsertItems uid pre body newId now (item :: items) st = .ok final) :
    ∃ after, ItemResult uid ((pre.resolvedProfile body item).getD "") item
        (pre.eventsRequested body item) (newId item) now st after ∧
      upsertItems uid pre body newId now items after = .ok final := by
  unfold upsertItems at ok
  rw [bind_eq_ok] at ok
  obtain ⟨after, first, rest⟩ := ok
  exact ⟨after, upsertItem_cases first, rest⟩

def Unwritten (start : Table Row.id) (st : Upserting) : Prop := ∀ row ∈ st.rows, row.id ∉ st.touched → row ∈ start

lemma ItemResult.unwritten {profileKey item eventsRequested id start after}
    (res : ItemResult uid profileKey item eventsRequested id now st after)
    (unwritten : Unwritten start st) : Unwritten start after := by
  intro row mem untouched
  cases res with
  | refreshed _ _ _ | inserted =>
    rcases mem_put.mp mem with rfl | ⟨inRows, _⟩
    · exact absurd mem_cons_self untouched
    · exact unwritten row inRows fun before => untouched (mem_cons_of_mem _ before)
  | skipped => exact unwritten row mem untouched

lemma upsertItems_steps {objects} {commits : Prop} {held : Uuid → Prop} {start} (unwritten : Unwritten start st)
    (free : ∀ item ∈ items, ∀ row ∈ start, row.userId = uid → item.Names row → ¬held row.id)
    (ok : upsertItems uid pre body newId now items st = .ok final) :
    RowSteps objects commits held st.rows final.rows := by
  induction items generalizing st with
  | nil =>
    cases ok
    exact .refl
  | cons item items ih =>
    obtain ⟨after, res, rest⟩ := upsertItems_cons ok
    have first : RowSteps objects commits held st.rows after.rows := by
      apply res.rowStep
      intro row hit untouched
      obtain ⟨mem, user, names⟩ := conflicting_eq_some hit
      exact free item mem_cons_self row (unwritten row mem untouched) user names
    have later := ih (res.unwritten unwritten) (fun alt mem => free alt (mem_cons_of_mem _ mem)) rest
    exact first.trans later

lemma upsertItems_keeps_touched {row}
    (ok : upsertItems uid pre body newId now items st = .ok final) (mem : row ∈ st.rows)
    (touched : row.id ∈ st.touched) : row ∈ final.rows := by
  induction items generalizing st with
  | nil =>
    cases ok
    exact mem
  | cons item items ih =>
    obtain ⟨after, res, rest⟩ := upsertItems_cons ok
    have kept := res.keeps_touched mem touched
    exact ih rest kept.1 kept.2

lemma ItemResult.distinct {profileKey item eventsRequested}
    {id after} (res : ItemResult uid profileKey item eventsRequested id now st after)
    (distinct : OriginsDistinct st.rows) : OriginsDistinct after.rows := by
  have steps : RowSteps (.empty : Table StoredSnapshot.key) False (fun _ => False) st.rows
      after.rows := res.rowStep fun _ _ _ held => held
  exact steps.distinct distinct

lemma upsertItems_once {row} (distinct : OriginsDistinct st.rows)
    (mem : row ∈ st.rows) (touched : row.id ∈ st.touched) (user : row.userId = uid)
    (ok : upsertItems uid pre body newId now items st = .ok final) : ∀ item ∈ items, ¬item.Names row := by
  induction items generalizing st with
  | nil =>
    intro item inNil
    cases inNil
  | cons first items ih =>
    obtain ⟨after, res, rest⟩ := upsertItems_cons ok
    intro item inItems names
    rcases mem_cons.mp inItems with rfl | inRest
    · have hit := conflicting_of_names distinct mem user names
      cases res with
      | refreshed _ isCurrent untouched | skipped _ isCurrent untouched =>
        cases isCurrent.symm.trans hit
        exact untouched touched
      | inserted gone new => cases gone.symm.trans hit
    · have kept := res.keeps_touched mem touched
      exact ih (res.distinct distinct) kept.1 kept.2 rest item inRest names

lemma upsertItems_refreshes {item row} (distinct : OriginsDistinct st.rows) (mem : row ∈ st.rows)
    (untouched : row.id ∉ st.touched) (user : row.userId = uid) (inItems : item ∈ items) (names : item.Names row)
    (profiles : ∀ alt ∈ items, alt.Names row → pre.resolvedProfile body alt = some row.originProfileKey)
    (ok : upsertItems uid pre body newId now items st = .ok final) :
    row.refreshed item (pre.eventsRequested body item) now ∈ final.rows := by
  induction items generalizing st with
  | nil => cases inItems
  | cons first items ih =>
    obtain ⟨after, res, rest⟩ := upsertItems_cons ok
    by_cases firstNames : first.Names row
    · have hit := conflicting_of_names distinct mem user firstNames
      have sameProfile := profiles first mem_cons_self firstNames
      have keeps := res.distinct distinct
      cases res with
      | refreshed cur isCurrent _ _ =>
        cases isCurrent.symm.trans hit
        have wrote := mem_put_self st.rows (row.refreshed first (pre.eventsRequested body first) now)
        have once := upsertItems_once keeps wrote mem_cons_self user rest
        rcases mem_cons.mp inItems with rfl | inRest
        · exact upsertItems_keeps_touched rest wrote mem_cons_self
        · exact absurd names (once item inRest)
      | skipped cur isCurrent _ alt =>
        cases isCurrent.symm.trans hit
        rw [sameProfile] at alt
        exact absurd rfl alt
      | inserted gone new => cases gone.symm.trans hit
    · have kept := res.keeps_other mem untouched firstNames
      have inRest : item ∈ items := by
        rcases mem_cons.mp inItems with rfl | inRest
        · exact absurd names firstNames
        · exact inRest
      exact ih (res.distinct distinct) kept.1 kept.2 inRest
        (fun alt inside => profiles alt (mem_cons_of_mem _ inside)) rest

end
end Clawdi.Snapshots
