import Clawdi.Snapshots.Retention
import Mathlib.Tactic.Linarith

namespace Clawdi.Snapshots.Retention
open SessionEvents (Uuid Time)
open Transition List Table
section
variable (w : World) (id : Nat) (pass : Pass) (phase : Phase) (startAfter : String)

@[simp] lemma goTo_now : (w.goTo id pass phase).now = w.now := rfl
@[simp] lemma goTo_rows : (w.goTo id pass phase).rows = w.rows := rfl
@[simp] lemma goTo_objects : (w.goTo id pass phase).objects = w.objects := rfl
@[simp] lemma goTo_candidates : (w.goTo id pass phase).candidates = w.candidates := rfl
@[simp] lemma goTo_puts : (w.goTo id pass phase).puts = w.puts := rfl
@[simp] lemma goTo_findings : (w.goTo id pass phase).findings = w.findings := rfl
@[simp] lemma leave_now : (w.leave id).now = w.now := rfl
@[simp] lemma leave_rows : (w.leave id).rows = w.rows := rfl
@[simp] lemma leave_objects : (w.leave id).objects = w.objects := rfl
@[simp] lemma leave_candidates : (w.leave id).candidates = w.candidates := rfl
@[simp] lemma leave_puts : (w.leave id).puts = w.puts := rfl
@[simp] lemma leave_findings : (w.leave id).findings = w.findings := rfl
@[simp] lemma setCursor_now : (w.setCursor id startAfter).now = w.now := rfl
@[simp] lemma setCursor_rows : (w.setCursor id startAfter).rows = w.rows := rfl
@[simp] lemma setCursor_objects : (w.setCursor id startAfter).objects = w.objects := rfl
@[simp] lemma setCursor_candidates : (w.setCursor id startAfter).candidates = w.candidates := rfl
@[simp] lemma setCursor_puts : (w.setCursor id startAfter).puts = w.puts := rfl
@[simp] lemma setCursor_findings : (w.setCursor id startAfter).findings = w.findings := rfl

variable (alt : Nat)

lemma goTo_pass : ((w.goTo id pass phase).workers alt).pass =
      if alt = id then some { pass with phase := phase } else (w.workers alt).pass := by
  unfold World.goTo World.withWorker
  by_cases same : alt = id <;> simp [same]

lemma leave_pass : ((w.leave id).workers alt).pass = if alt = id then none else (w.workers alt).pass := by
  unfold World.leave World.withWorker
  by_cases same : alt = id <;> simp [same]

@[simp] lemma setCursor_pass : ((w.setCursor id startAfter).workers alt).pass = (w.workers alt).pass := by
  unfold World.setCursor World.withWorker
  by_cases same : alt = id
  · simp [same]
  · simp [Function.update_of_ne same]

lemma restart_pass (worker : Worker) (alt : Nat) : ((w.withWorker id worker).workers alt).pass =
      if alt = id then worker.pass else (w.workers alt).pass := by
  unfold World.withWorker
  by_cases same : alt = id <;> simp [same]

end

/-! ## What an advance leaves alone -/

section
variable (w : World) (id : Nat) (pass : Pass)

structure Confined (next : World) : Prop where
  now : next.now = w.now
  rows : next.rows = w.rows
  puts : next.puts = w.puts
  objects : ∀ obj ∈ next.objects, obj ∈ w.objects
  findings : ∀ finding ∈ w.findings, finding ∈ next.findings
  others : ∀ alt, alt ≠ id → (next.workers alt).pass = (w.workers alt).pass
  own : ∀ later, (next.workers id).pass = some later →
    later.observedAt = pass.observedAt ∧ later.dryRun = pass.dryRun

variable {w id pass}

lemma Confined.leave (w : World) (id : Nat) (pass : Pass) : Confined w id pass (w.leave id) where
  now := rfl
  rows := rfl
  puts := rfl
  objects := fun _ mem => mem
  findings := fun _ mem => mem
  others := by
    intro alt differ
    rw [leave_pass, if_neg differ]
  own := by
    intro later same
    rw [leave_pass, if_pos rfl] at same
    cases same

lemma Confined.goTo {next : World} (phase : Phase) (now : next.now = w.now)
    (rows : next.rows = w.rows) (puts : next.puts = w.puts) (objects : ∀ obj ∈ next.objects, obj ∈ w.objects)
    (findings : ∀ finding ∈ w.findings, finding ∈ next.findings)
    (workers : ∀ alt, (next.workers alt).pass = (w.workers alt).pass) :
    Confined w id pass (next.goTo id pass phase) where
  now := now
  rows := rows
  puts := puts
  objects := objects
  findings := findings
  others := by
    intro alt differ
    rw [goTo_pass, if_neg differ]
    exact workers alt
  own := by
    intro later same
    rw [goTo_pass, if_pos rfl] at same
    cases same
    exact ⟨rfl, rfl⟩

lemma advance_confined (w : World) (id : Nat) (pass : Pass) : Confined w id pass (advance w id pass) := by
  have kept : ∀ obj ∈ w.objects, obj ∈ w.objects := fun _ mem => mem
  have hit : ∀ finding ∈ w.findings, finding ∈ w.findings := fun _ mem => mem
  unfold advance
  cases pass.phase with
  | sweeping items fullPage =>
    cases items with
    | nil =>
      cases fullPage with
      | true => exact Confined.goTo _ rfl rfl rfl kept hit fun _ => rfl
      | false => exact Confined.goTo _ rfl rfl rfl kept hit (setCursor_pass w id "")
    | cons item items =>
      simp only
      by_cases escaped : item.key.text ≤ (w.workers id).startAfter
      · rw [if_pos escaped]
        exact Confined.leave w id pass
      · rw [if_neg escaped]
        by_cases old : pass.dryRun = false ∧ item.lastModified < pass.cutoff
        · rw [if_pos old]
          apply Confined.goTo
          · rfl
          · rfl
          · rfl
          · exact kept
          · intro finding mem
            cases w.referenced item.key with
            | true => exact mem
            | false => exact mem_cons_of_mem _ mem
          · exact fun _ => rfl
        · rw [if_neg old]
          exact Confined.goTo _ rfl rfl rfl kept hit (setCursor_pass w id _)
  | recording item referenced items fullPage =>
    exact Confined.goTo _ rfl rfl rfl kept hit fun alt =>
      setCursor_pass { w with candidates := _ } id item.key.text alt
  | collecting due =>
    cases due with
    | nil => exact Confined.leave w id pass
    | cons key due => exact Confined.goTo _ rfl rfl rfl kept hit fun _ => rfl
  | deciding key referenced due =>
    cases dry : pass.dryRun with
    | true => exact Confined.goTo _ rfl rfl rfl kept hit fun _ => rfl
    | false =>
      cases referenced with
      | true => exact Confined.goTo _ rfl rfl rfl kept hit fun _ => rfl
      | false =>
        have fewer : ∀ obj ∈ w.objects.remove (fun obj => decide (obj.key = key)),
            obj ∈ w.objects := by
          intro obj mem
          exact (mem_remove.mp mem).1
        apply Confined.goTo
        · rfl
        · rfl
        · rfl
        · exact fewer
        · exact hit
        · exact fun _ => rfl
  | _ => exact Confined.goTo _ rfl rfl rfl kept hit fun _ => rfl

end

/-! ## What a step does -/

inductive Effect (w : World) (act : Action) : World → Prop
  | none : Effect w act w
  | waited (seconds : Nat) : Effect w act { w with now := w.now + seconds }
  | wroteRows (rows : Table SessionRow.id)
      (from_old : ∀ row ∈ rows, row ∈ w.rows ∨ row.fileKey = none ∨
        ∃ key, row.fileKey = some key ∧ key.sessionId = row.id ∧ w.publishable key = true) :
      Effect w act { w with rows }
  | stored (obj : S3Object) (now : obj.lastModified = w.now)
      (fresh : ∀ alt ∈ w.puts, alt.key ≠ obj.key) :
      Effect w act { w with objects := w.objects.put obj, puts := obj :: w.puts }
  | started (id : Nat) (dryRun : Bool) (own : act = .start id dryRun)
      (idle : (w.workers id).pass = Option.none) :
      Effect w act (w.goTo id { observedAt := w.now, dryRun, phase := .listing } .listing)
  | advanced (id : Nat) (pass : Pass) (own : act = .advance id)
      (runs : (w.workers id).pass = some pass) :
      Effect w act (advance w id pass)
  | left (id : Nat) (worker : Worker) (own : act = .cancel id ∨ act = .restart id)
      (idle : worker.pass = Option.none) : Effect w act (w.withWorker id worker)

lemma step_effect (w : World) (act : Action) : Effect w act (step w act) := by
  cases act with
  | wait seconds => exact Effect.waited seconds
  | createSession id =>
    cases hit : w.rows.get id with
    | some row =>
      simp only [step, hit]
      exact Effect.none
    | none =>
      simp only [step, hit]
      apply Effect.wroteRows
      intro row mem
      rcases mem_put.mp mem with rfl | ⟨old, -⟩
      · exact .inr (.inl rfl)
      · exact .inl old
  | deleteSession id =>
    apply Effect.wroteRows
    intro row mem
    exact .inl (mem_remove.mp mem).1
  | forget id =>
    cases hit : w.rows.get id with
    | none =>
      simp only [step, hit]
      exact Effect.none
    | some row =>
      simp only [step, hit]
      apply Effect.wroteRows
      intro row mem
      rcases mem_put.mp mem with rfl | ⟨old, -⟩
      · exact .inr (.inl rfl)
      · exact .inl old
  | put key =>
    by_cases used : (w.puts.any fun obj => decide (obj.key = key)) = true
    · simp only [step, used, if_true]
      exact Effect.none
    · simp only [step, used]
      apply Effect.stored { key, lastModified := w.now } rfl
      intro alt mem same
      exact used (any_eq_true.mpr ⟨alt, mem, by simpa using same⟩)
  | publish key =>
    cases hit : w.rows.get key.sessionId with
    | none =>
      simp only [step, hit]
      exact Effect.none
    | some row =>
      by_cases timely : w.publishable key = true
      · simp only [step, hit, timely, if_true]
        apply Effect.wroteRows
        intro after mem
        rcases mem_put.mp mem with rfl | ⟨old, -⟩
        · right; right
          exact ⟨key, rfl, (get_eq_some.mp hit).2.symm, timely⟩
        · exact .inl old
      · simp only [step, hit, timely]
        exact Effect.none
  | start id dryRun =>
    cases runs : (w.workers id).pass with
    | some pass =>
      simp only [step, runs]
      exact Effect.none
    | none =>
      simp only [step, runs]
      exact Effect.started id dryRun rfl runs
  | advance id =>
    cases runs : (w.workers id).pass with
    | none =>
      simp only [step, runs]
      exact Effect.none
    | some pass =>
      simp only [step, runs]
      exact Effect.advanced id pass rfl runs
  | cancel id => exact Effect.left id _ (.inl rfl) rfl
  | restart id => exact Effect.left id _ (.inr rfl) rfl

/-! ## An object that no upload can publish any more -/

def Referenced (w : World) (key : SnapshotKey) : Prop := ∃ row ∈ w.rows, row.fileKey = some key

/-- The object was stored, is too old to be published, and no row references it. -/
structure Settled (w : World) (key : SnapshotKey) : Prop where
  stored : ∃ obj ∈ w.puts, obj.key = key
  late : ∀ obj ∈ w.puts, obj.key = key → obj.lastModified + PUBLICATION_TIMEOUT < w.now
  free : ∀ row ∈ w.rows, row.fileKey ≠ some key

variable {key : SnapshotKey} {next : World}

lemma Settled.not_referenced {w} (done : Settled w key) : ¬Referenced w key := by
  rintro ⟨row, mem, same⟩
  exact done.free row mem same

lemma Settled.unpublishable {w} (done : Settled w key) : w.publishable key = false := by
  apply any_eq_false.mpr
  intro obj mem
  simp only [decide_eq_true_eq, not_and, not_le]
  exact done.late obj mem

lemma Settled.of_rows {w} (done : Settled w key) (now : w.now ≤ next.now)
    (puts : next.puts = w.puts) (rows : ∀ row ∈ next.rows, row ∈ w.rows ∨ row.fileKey ≠ some key) :
    Settled next key where
  stored := by
    rw [puts]
    exact done.stored
  late := by
    rw [puts]
    intro obj mem same
    exact lt_of_lt_of_le (done.late obj mem same) now
  free := by
    intro row mem
    rcases rows row mem with old | differ
    · exact done.free row old
    · exact differ

lemma Settled.withWorker {w} (done : Settled w key) (id : Nat)
    (worker : Worker) : Settled (w.withWorker id worker) key :=
  done.of_rows le_rfl rfl fun _ mem => .inl mem

lemma Settled.step {w key} (done : Settled w key) (act : Action) : Settled (Retention.step w act) key := by
  have effect := step_effect w act
  generalize Retention.step w act = next at effect
  cases effect with
  | none => exact done
  | waited seconds =>
    apply done.of_rows
    · exact Int.le_add_of_nonneg_right (Int.natCast_nonneg seconds)
    · rfl
    · exact fun _ mem => .inl mem
  | wroteRows rows from_old =>
    apply done.of_rows
    · exact le_refl w.now
    · rfl
    intro row mem
    rcases from_old row mem with old | none | ⟨alt, same, -, timely⟩
    · exact .inl old
    · right
      simp [none]
    · right
      intro published
      have equal : alt = key := Option.some.inj (same.symm.trans published)
      rw [equal, done.unpublishable] at timely
      cases timely
  | stored obj now fresh =>
    obtain ⟨put, mem, same⟩ := done.stored
    refine ⟨⟨put, mem_cons_of_mem _ mem, same⟩, ?_, done.free⟩
    intro later stored equal
    rcases mem_cons.mp stored with rfl | old
    · exact absurd (same.trans equal.symm) (fresh put mem)
    · exact done.late later old equal
  | started id | left id => exact done.withWorker id _
  | advanced id pass own runs =>
    have confined := advance_confined w id pass
    apply done.of_rows
    · rw [confined.now]
    · exact confined.puts
    · intro row mem
      left
      rw [confined.rows] at mem
      exact mem

lemma Settled.run {w} (done : Settled w key) (acts : List Action) : Settled (run Retention.step w acts) key := by
  induction acts generalizing w with
  | nil => exact done
  | cons act acts ih => exact ih (done.step act)

/-! ## The invariant -/

def Phase.items : Phase → List S3Object
  | .sweeping items _ => items
  | .recording item _ items _ => item :: items
  | _ => []

def Phase.due : Phase → List SnapshotKey
  | .collecting due => due
  | .deciding key _ due => key :: due
  | .forgetting _ due => due
  | _ => []

structure Gone (w : World) (key : SnapshotKey) : Prop where
  stored : ∃ obj ∈ w.puts, obj.key = key
  absent : ∀ obj ∈ w.objects, obj.key ≠ key

structure PassSound (w : World) (pass : Pass) : Prop where
  begun : pass.observedAt ≤ w.now
  listed : ∀ item ∈ pass.phase.items, item ∈ w.puts
  unreferenced : ∀ item items fullPage, pass.phase = .recording item false items fullPage →
    { key := item.key, startedAt := pass.observedAt } ∈ w.findings
  due : ∀ key ∈ pass.phase.due, ∃ finding ∈ w.findings, finding.key = key ∧
    finding.startedAt + SNAPSHOT_RETENTION ≤ pass.observedAt
  decided : ∀ key referenced due, pass.phase = .deciding key referenced due → referenced = false
  gone : ∀ key due, pass.phase = .forgetting key due → Gone w key

structure Sound (w : World) : Prop where
  named : ∀ row ∈ w.rows, ∀ key, row.fileKey = some key → key.sessionId = row.id
  dated : ∀ obj ∈ w.objects, obj ∈ w.puts
  single : ∀ one ∈ w.puts, ∀ alt ∈ w.puts, one.key = alt.key → one = alt
  found : ∀ finding ∈ w.findings, Settled w finding.key
  candidates : ∀ cand ∈ w.candidates, { key := cand.fileKey, startedAt := cand.unreferencedAt } ∈ w.findings
  passes : ∀ id pass, (w.workers id).pass = some pass → PassSound w pass

lemma Sound.empty : Sound World.empty where
  named := by simp [World.empty]
  dated := by simp [World.empty]
  single := by simp [World.empty]
  found := by simp [World.empty]
  candidates := by simp [World.empty]
  passes := by simp [World.empty]

section
variable {w : World}

lemma mem_listObjects {objects startAfter obj} (listed : obj ∈ listObjects objects startAfter) : obj ∈ objects :=
  (mem_select.mp (mem_of_mem_take listed)).1

variable {cands : Table GcCandidate.fileKey}

lemma mem_dueCandidates {cutoff key} (due : key ∈ dueCandidates cands cutoff) :
    ∃ cand ∈ cands, cand.fileKey = key ∧ cand.unreferencedAt ≤ cutoff := by
  obtain ⟨cand, sel, same⟩ := mem_map.mp due
  obtain ⟨mem, early⟩ := mem_select.mp (mem_of_mem_take sel)
  exact ⟨cand, mem, same, by simpa using early⟩

lemma mem_insertCandidate {inserted alt}
    (mem : alt ∈ insertCandidate cands inserted) : alt = inserted ∨ alt ∈ cands := by
  unfold insertCandidate at mem
  cases hit : cands.get inserted.fileKey with
  | some existing =>
    rw [hit] at mem
    exact .inr mem
  | none =>
    rw [hit] at mem
    rcases mem_put.mp mem with same | ⟨old, -⟩
    · exact .inl same
    · exact .inr old

lemma mem_deleteCandidate {key cand} : cand ∈ deleteCandidate cands key ↔ cand ∈ cands ∧ cand.fileKey ≠ key := by
  unfold deleteCandidate
  rw [mem_remove, decide_eq_false_iff_not]

lemma Sound.referenced (inv : Sound w) (key : SnapshotKey) : w.referenced key = true ↔ Referenced w key := by
  unfold World.referenced Referenced
  rw [any_eq_true]
  constructor
  · rintro ⟨row, mem, checked⟩
    simp only [decide_eq_true_eq] at checked
    exact ⟨row, mem, checked.2⟩
  · rintro ⟨row, mem, same⟩
    have owned := inv.named row mem key same
    exact ⟨row, mem, by simp [owned, same]⟩

lemma Sound.settled (inv : Sound w) {item} (stored : item ∈ w.puts)
    (old : item.lastModified + PUBLICATION_TIMEOUT < w.now)
    (free : w.referenced item.key = false) : Settled w item.key where
  stored := ⟨item, stored, rfl⟩
  late := by
    intro obj mem same
    rw [inv.single obj mem item stored same]
    exact old
  free := by
    intro row mem same
    rw [(inv.referenced item.key).mpr ⟨row, mem, same⟩] at free
    cases free

end

lemma Gone.step {w key} (gone : Gone w key) (act : Action) : Gone (Retention.step w act) key := by
  have effect := step_effect w act
  generalize Retention.step w act = next at effect
  cases effect with
  | none => exact gone
  | stored obj now fresh =>
    obtain ⟨put, mem, same⟩ := gone.stored
    refine ⟨⟨put, mem_cons_of_mem _ mem, same⟩, ?_⟩
    intro later stored equal
    rcases mem_put.mp stored with rfl | ⟨old, -⟩
    · exact fresh put mem (same.trans equal.symm)
    · exact gone.absent later old equal
  | advanced id pass own runs =>
    have confined := advance_confined w id pass
    constructor
    · rw [confined.puts]
      exact gone.stored
    · intro obj mem
      exact gone.absent obj (confined.objects obj mem)
  | _ => exact ⟨gone.stored, gone.absent⟩

structure Grows (w next : World) : Prop where
  now : w.now ≤ next.now
  puts : ∀ obj ∈ w.puts, obj ∈ next.puts
  findings : ∀ finding ∈ w.findings, finding ∈ next.findings
  gone : ∀ key, Gone w key → Gone next key

lemma step_grows (w : World) (act : Action) : Grows w (step w act) := by
  have gone : ∀ key, Gone w key → Gone (step w act) key := fun key gone => gone.step act
  have effect := step_effect w act
  generalize step w act = next at effect gone
  cases effect with
  | none => exact ⟨le_rfl, fun _ mem => mem, fun _ mem => mem, gone⟩
  | waited seconds =>
    refine ⟨?_, fun _ mem => mem, fun _ mem => mem, gone⟩
    exact Int.le_add_of_nonneg_right (Int.natCast_nonneg seconds)
  | wroteRows rows from_old => exact ⟨le_refl w.now, fun _ mem => mem, fun _ mem => mem, gone⟩
  | stored obj now fresh => exact ⟨le_refl w.now, fun _ mem => mem_cons_of_mem _ mem, fun _ mem => mem, gone⟩
  | started | left => exact ⟨le_refl w.now, fun _ mem => mem, fun _ mem => mem, gone⟩
  | advanced id pass own runs =>
    have confined := advance_confined w id pass
    refine ⟨?_, ?_, confined.findings, gone⟩
    · rw [confined.now]
    · rw [confined.puts]
      exact fun _ mem => mem

lemma PassSound.grow {w pass} (inv : PassSound w pass) (grows : Grows w next) : PassSound next pass where
  begun := inv.begun.trans grows.now
  listed := fun item mem => grows.puts item (inv.listed item mem)
  unreferenced := fun item items fullPage phase =>
    grows.findings _ (inv.unreferenced item items fullPage phase)
  due := by
    intro key mem
    obtain ⟨finding, hit, same, early⟩ := inv.due key mem
    exact ⟨finding, grows.findings finding hit, same, early⟩
  decided := inv.decided
  gone := fun key due phase => grows.gone key (inv.gone key due phase)

lemma PassSound.enter {w pass} (inv : PassSound w pass)
    (grows : Grows w next) {phase : Phase} (listed : ∀ item ∈ phase.items, item ∈ next.puts)
    (due : ∀ key ∈ phase.due, ∃ finding ∈ next.findings, finding.key = key ∧
      finding.startedAt + SNAPSHOT_RETENTION ≤ pass.observedAt)
    (unreferenced : ∀ item items fullPage, phase = .recording item false items fullPage →
      { key := item.key, startedAt := pass.observedAt } ∈ next.findings)
    (decided : ∀ key referenced due, phase = .deciding key referenced due → referenced = false)
    (gone : ∀ key due, phase = .forgetting key due → Gone next key) : PassSound next { pass with phase } where
  begun := (inv.begun.trans grows.now)
  listed := listed
  unreferenced := unreferenced
  due := due
  decided := decided
  gone := gone

lemma PassSound.late {w pass} (inv : PassSound w pass)
    {item : S3Object} (old : item.lastModified < pass.cutoff) : item.lastModified + PUBLICATION_TIMEOUT < w.now := by
  have begun := inv.begun
  unfold Pass.cutoff SNAPSHOT_RETENTION at old
  have early : item.lastModified + 120 < pass.observedAt := by linarith
  exact lt_of_lt_of_le early begun

section
variable {w : World} {id : Nat} {pass : Pass}

lemma advance_grows (runs : (w.workers id).pass = some pass) : Grows w (advance w id pass) := by
  have stepped := step_grows w (.advance id)
  simp only [step, runs] at stepped
  exact stepped

lemma goTo_own {pre : World} {phase later} (same : ((pre.goTo id pass phase).workers id).pass = some later) :
    later = { pass with phase := phase } := by
  rw [goTo_pass, if_pos rfl] at same
  exact (Option.some.inj same).symm

lemma PassSound.advance (inv : Sound w) (runs : (w.workers id).pass = some pass) :
    ∀ later, ((advance w id pass).workers id).pass = some later → PassSound (advance w id pass) later := by
  have own : PassSound w pass := inv.passes id pass runs
  have grows := advance_grows runs
  have listed : ∀ item ∈ pass.phase.items, item ∈ (Retention.advance w id pass).puts :=
    fun item mem => grows.puts item (own.listed item mem)
  have due : ∀ key ∈ pass.phase.due, ∃ finding ∈ (Retention.advance w id pass).findings,
      finding.key = key ∧ finding.startedAt + SNAPSHOT_RETENTION ≤ pass.observedAt := by
    intro key mem
    obtain ⟨finding, hit, same, early⟩ := own.due key mem
    exact ⟨finding, grows.findings finding hit, same, early⟩
  intro later same
  cases phase : pass.phase with
  | listing =>
    simp only [Retention.advance, phase] at same grows ⊢
    rw [goTo_own same]
    apply own.enter grows
    · intro item mem
      exact inv.dated item (mem_listObjects mem)
    all_goals simp [Phase.due]
  | sweeping items fullPage =>
    cases items with
    | nil =>
      simp only [Retention.advance, phase] at same grows ⊢
      rw [goTo_own same]
      apply own.enter grows
      all_goals simp [Phase.items, Phase.due]
    | cons item items =>
      simp only [Retention.advance, phase] at same grows listed ⊢
      by_cases escaped : item.key.text ≤ (w.workers id).startAfter
      · rw [if_pos escaped, leave_pass, if_pos rfl] at same
        cases same
      · rw [if_neg escaped] at same grows listed ⊢
        by_cases old : pass.dryRun = false ∧ item.lastModified < pass.cutoff
        · rw [if_pos old] at same grows listed ⊢
          rw [goTo_own same]
          apply own.enter grows
          · exact listed
          · simp [Phase.due]
          · intro hit items fullPage checked
            simp only [Phase.recording.injEq] at checked
            obtain ⟨rfl, free, -⟩ := checked
            simp [free]
          all_goals simp
        · rw [if_neg old] at same grows listed ⊢
          rw [goTo_own same]
          apply own.enter grows
          · intro later mem
            exact listed later (mem_cons_of_mem _ mem)
          all_goals simp [Phase.due]
  | recording item referenced items fullPage =>
    simp only [Retention.advance, phase] at same grows listed ⊢
    rw [goTo_own same]
    apply own.enter grows
    · intro later mem
      exact listed later (mem_cons_of_mem _ mem)
    all_goals simp [Phase.due]
  | selecting =>
    simp only [Retention.advance, phase] at same grows ⊢
    rw [goTo_own same]
    apply own.enter grows
    · simp [Phase.items]
    · intro key mem
      obtain ⟨cand, here, rfl, early⟩ := mem_dueCandidates mem
      refine ⟨_, inv.candidates cand here, rfl, ?_⟩
      unfold Pass.cutoff at early
      linarith
    all_goals simp
  | collecting keys =>
    cases keys with
    | nil =>
      simp only [Retention.advance, phase] at same
      rw [leave_pass, if_pos rfl] at same
      cases same
    | cons key keys =>
      simp only [Retention.advance, phase] at same grows due ⊢
      rw [goTo_own same]
      obtain ⟨finding, hit, matches_key, -⟩ :=
        own.due key (by rw [phase]; exact mem_cons_self)
      have free : w.referenced key = false := by
        rw [Bool.eq_false_iff, ne_eq, inv.referenced, ← matches_key]
        exact (inv.found finding hit).not_referenced
      apply own.enter grows
      · simp [Phase.items]
      · exact due
      · simp
      · intro alt referenced keys deciding
        simp only [Phase.deciding.injEq] at deciding
        rw [← deciding.2.1, free]
      · simp
  | deciding key referenced keys =>
    have free : referenced = false := own.decided key referenced keys phase
    simp only [Retention.advance, phase, free] at same grows due ⊢
    have rest : ∀ alt ∈ keys, ∃ finding ∈ w.findings, finding.key = alt ∧
        finding.startedAt + SNAPSHOT_RETENTION ≤ pass.observedAt := by
      intro alt mem
      apply own.due
      rw [phase]
      exact mem_cons_of_mem _ mem
    cases dry : pass.dryRun with
    | true =>
      simp only [dry, if_true] at same grows ⊢
      rw [goTo_own same]
      apply own.enter grows
      · simp [Phase.items]
      · exact rest
      all_goals simp
    | false =>
      simp only [dry, Bool.false_eq_true, if_false] at same grows ⊢
      rw [goTo_own same]
      apply own.enter grows
      · simp [Phase.items]
      · exact rest
      · simp
      · simp
      · intro alt others forgetting
        simp only [Phase.forgetting.injEq] at forgetting
        rw [← forgetting.1]
        obtain ⟨finding, hit, matches_key, -⟩ :=
          own.due key (by rw [phase]; exact mem_cons_self)
        constructor
        · rw [← matches_key]
          exact (inv.found finding hit).stored
        · intro obj mem
          have kept := (mem_remove.mp mem).2
          simpa using kept
  | forgetting key keys =>
    simp only [Retention.advance, phase] at same grows due ⊢
    rw [goTo_own same]
    apply own.enter grows
    · simp [Phase.items]
    · exact due
    all_goals simp

/-- The step is a reference check of a sweep that began at `startedAt`, and finds nothing. -/
def Finds (w : World) (act : Action) (key : SnapshotKey) (startedAt : Time) : Prop :=
  ∃ id pass item items fullPage, act = .advance id ∧ (w.workers id).pass = some pass ∧
    pass.phase = .sweeping (item :: items) fullPage ∧ item.lastModified < pass.cutoff ∧
    w.referenced item.key = false ∧ item.key = key ∧ pass.observedAt = startedAt

lemma advance_findings (runs : (w.workers id).pass = some pass) {finding}
    (hit : finding ∈ (advance w id pass).findings) :
    finding ∈ w.findings ∨ Finds w (.advance id) finding.key finding.startedAt := by
  cases phase : pass.phase with
  | sweeping items fullPage =>
    cases items with
    | nil =>
      cases fullPage with
      | true | false => exact .inl (by simpa [advance, phase] using hit)
    | cons item items =>
      simp only [advance, phase] at hit
      by_cases escaped : item.key.text ≤ (w.workers id).startAfter
      · rw [if_pos escaped] at hit
        exact .inl hit
      · rw [if_neg escaped] at hit
        by_cases old : pass.dryRun = false ∧ item.lastModified < pass.cutoff
        · rw [if_pos old] at hit
          cases free : w.referenced item.key with
          | true => exact .inl (by simpa [free] using hit)
          | false =>
            simp only [free, goTo_findings, Bool.false_eq_true, if_false, mem_cons] at hit
            rcases hit with rfl | earlier
            · right
              exact ⟨id, pass, item, items, fullPage, rfl, runs, phase, old.2, free, rfl, rfl⟩
            · exact .inl earlier
        · rw [if_neg old] at hit
          exact .inl hit
  | deciding key referenced due =>
    left
    simp only [advance, phase] at hit
    split at hit
    · exact hit
    · split at hit <;> exact hit
  | collecting due =>
    left
    cases due with
    | nil | cons => simpa [advance, phase] using hit
  | _ =>
    left
    simpa [advance, phase] using hit

lemma advance_candidates {cand} (noted : cand ∈ (advance w id pass).candidates) : cand ∈ w.candidates ∨
      ∃ item items fullPage, pass.phase = .recording item false items fullPage ∧
        cand = { fileKey := item.key, unreferencedAt := pass.observedAt } := by
  cases phase : pass.phase with
  | recording item referenced items fullPage =>
    simp only [advance, phase, goTo_candidates, setCursor_candidates] at noted
    cases referenced with
    | true =>
      left
      exact (mem_deleteCandidate.mp noted).1
    | false =>
      rcases mem_insertCandidate noted with same | old
      · exact .inr ⟨item, items, fullPage, rfl, same⟩
      · exact .inl old
  | forgetting key due =>
    left
    simp only [advance, phase, goTo_candidates] at noted
    exact (mem_deleteCandidate.mp noted).1
  | sweeping items fullPage =>
    left
    cases items with
    | nil =>
      cases fullPage with
      | true | false => simpa [advance, phase] using noted
    | cons item items =>
      simp only [advance, phase] at noted
      split at noted
      · exact noted
      · split at noted <;> exact noted
  | deciding key referenced due =>
    left
    simp only [advance, phase] at noted
    split at noted
    · exact noted
    · split at noted <;> exact noted
  | collecting due =>
    left
    cases due with
    | nil | cons => simpa [advance, phase] using noted
  | _ =>
    left
    simpa [advance, phase] using noted

lemma Sound.advance (inv : Sound w) (runs : (w.workers id).pass = some pass) : Sound (advance w id pass) := by
  have confined := advance_confined w id pass
  have grows := advance_grows runs
  have settles : ∀ key, Settled w key → Settled (Retention.advance w id pass) key := by
    intro key done
    apply done.of_rows grows.now confined.puts
    intro row mem
    rw [confined.rows] at mem
    exact .inl mem
  constructor
  · rw [confined.rows]
    exact inv.named
  · intro obj mem
    exact grows.puts obj (inv.dated obj (confined.objects obj mem))
  · rw [confined.puts]
    exact inv.single
  · intro finding mem
    apply settles
    rcases advance_findings runs mem with old | finds
    · exact inv.found finding old
    · obtain ⟨by_worker, checking, item, items, fullPage, own, checks, phase, old, free, same, -⟩ :=
        finds
      have checked := inv.passes by_worker checking checks
      rw [← same]
      have stored : item ∈ w.puts := by
        apply checked.listed
        rw [phase]
        exact mem_cons_self
      exact inv.settled stored (checked.late old) free
  · intro cand mem
    rcases advance_candidates mem with old | ⟨item, items, fullPage, phase, rfl⟩
    · exact grows.findings _ (inv.candidates cand old)
    · exact grows.findings _ ((inv.passes id pass runs).unreferenced item items fullPage phase)
  · intro alt later same
    by_cases own : alt = id
    · rw [own] at same
      exact PassSound.advance inv runs later same
    · rw [confined.others alt own] at same
      exact (inv.passes alt later same).grow grows

end

lemma Sound.step {w} (inv : Sound w) (act : Action) : Sound (step w act) := by
  have grows := step_grows w act
  have settles : ∀ key, Settled w key → Settled (Retention.step w act) key := fun key done => done.step act
  have effect := step_effect w act
  generalize Retention.step w act = next at effect grows settles
  have hit : next.findings = w.findings →
      ∀ finding ∈ next.findings, Settled next finding.key := by
    intro same finding mem
    rw [same] at mem
    exact settles finding.key (inv.found finding mem)
  have passes : ∀ id pass, (w.workers id).pass = some pass → PassSound next pass :=
    fun id pass runs => (inv.passes id pass runs).grow grows
  cases effect with
  | none => exact inv
  | waited seconds => exact ⟨inv.named, inv.dated, inv.single, hit rfl, inv.candidates, passes⟩
  | wroteRows rows from_old =>
    refine ⟨?_, inv.dated, inv.single, hit rfl, inv.candidates, passes⟩
    intro row mem key same
    rcases from_old row mem with old | none | ⟨alt, published, named, -⟩
    · exact inv.named row old key same
    · rw [none] at same
      cases same
    · rw [published] at same
      cases same
      exact named
  | stored obj now fresh =>
    refine ⟨inv.named, ?_, ?_, hit rfl, inv.candidates, passes⟩
    · intro later mem
      rcases mem_put.mp mem with rfl | ⟨old, -⟩
      · exact mem_cons_self
      · exact mem_cons_of_mem _ (inv.dated later old)
    · intro one first alt snd same
      rcases mem_cons.mp first with rfl | oldOne
      · rcases mem_cons.mp snd with rfl | oldOther
        · rfl
        · exact absurd same.symm (fresh alt oldOther)
      · rcases mem_cons.mp snd with rfl | oldOther
        · exact absurd same (fresh one oldOne)
        · exact inv.single one oldOne alt oldOther same
  | started id dryRun own idle =>
    refine ⟨inv.named, inv.dated, inv.single, hit rfl, inv.candidates, ?_⟩
    intro alt pass runs
    rw [goTo_pass] at runs
    by_cases same : alt = id
    · rw [if_pos same] at runs
      cases runs
      constructor
      · exact le_refl w.now
      all_goals simp [Phase.items, Phase.due]
    · rw [if_neg same] at runs
      exact passes alt pass runs
  | advanced id pass own runs => exact inv.advance runs
  | left id worker own idle =>
    refine ⟨inv.named, inv.dated, inv.single, hit rfl, inv.candidates, ?_⟩
    intro alt pass runs
    rw [restart_pass] at runs
    by_cases own : alt = id
    · rw [if_pos own, idle] at runs
      cases runs
    · rw [if_neg own] at runs
      exact passes alt pass runs

lemma sound_run (acts : List Action) : Sound (run step World.empty acts) :=
  run_invariant (fun _ act inv => inv.step act) Sound.empty acts

end Clawdi.Snapshots.Retention
