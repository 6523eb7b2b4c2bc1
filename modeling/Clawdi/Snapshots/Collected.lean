import Clawdi.Snapshots.Collection

namespace Clawdi.Snapshots.Retention
open SessionEvents (Uuid Time)
open Transition List Table
variable {w : World} {key : SnapshotKey} {act : Action} {id : Nat} {pre : List Action} {finding : Finding}

lemma step_findings (hit : finding ∈ (step w act).findings) :
    finding ∈ w.findings ∨ Finds w act finding.key finding.startedAt := by
  have effect := step_effect w act
  generalize step w act = next at effect hit
  cases effect with
  | advanced id pass own running =>
    rw [own]
    exact advance_findings running hit
  | _ => exact .inl hit

def Deletes (w : World) (act : Action) (key : SnapshotKey) : Prop :=
  (∃ obj ∈ w.objects, obj.key = key) ∧ ∀ obj ∈ (step w act).objects, obj.key ≠ key

lemma Deletes.by_pass (deletes : Deletes w act key) :
    ∃ id pass referenced due, act = .advance id ∧ (w.workers id).pass = some pass ∧
      pass.phase = .deciding key referenced due := by
  obtain ⟨⟨obj, stored, same⟩, absent⟩ := deletes
  have effect := step_effect w act
  generalize step w act = next at effect absent
  cases effect with
  | advanced id pass own running =>
    refine ⟨id, pass, ?_⟩
    cases phase : pass.phase with
    | deciding alt referenced due =>
      have other_key : alt = key := by
        by_contra differ
        have kept : obj ∈ (advance w id pass).objects := by
          have apart : ¬obj.key = alt := fun equal => differ (equal.symm.trans same)
          simp only [advance, phase]
          split
          · exact stored
          · split
            · exact stored
            · exact mem_remove.mpr ⟨stored, by simpa using apart⟩
        exact absent obj kept same
      rw [other_key]
      exact ⟨referenced, due, own, running, rfl⟩
    | sweeping items fullPage =>
      have kept : obj ∈ (advance w id pass).objects := by
        cases items with
        | nil => cases fullPage <;> simpa [advance, phase] using stored
        | cons item items =>
          simp only [advance, phase]
          split
          · exact stored
          · split <;> exact stored
      exact absurd same (absent obj kept)
    | collecting due =>
      have kept : obj ∈ (advance w id pass).objects := by
        cases due <;> simpa [advance, phase] using stored
      exact absurd same (absent obj kept)
    | _ =>
      have kept : obj ∈ (advance w id pass).objects := by simpa [advance, phase] using stored
      exact absurd same (absent obj kept)
  | stored alt now fresh =>
    by_cases equal : alt.key = key
    · exact absurd equal (absent alt (mem_put_self _ _))
    · have kept : obj ∈ w.objects.put alt :=
        mem_put.mpr (.inr ⟨stored, fun sameKey => equal (sameKey.symm.trans same)⟩)
      exact absurd same (absent obj kept)
  | _ => exact absurd same (absent obj stored)

def LongUnreferenced (pre : List Action) (key : SnapshotKey) (observedAt : Time) : Prop :=
  ∃ first act later startedAt, pre = first ++ act :: later ∧ Finds (run step World.empty first) act key startedAt ∧
    startedAt + SNAPSHOT_RETENTION ≤ observedAt ∧
    ∀ part rest, act :: later = part ++ rest → ¬Referenced (run step World.empty (first ++ part)) key

lemma longUnreferenced_of_finding {observedAt} (hit : finding ∈ (run step World.empty pre).findings)
    (early : finding.startedAt + SNAPSHOT_RETENTION ≤ observedAt) : LongUnreferenced pre finding.key observedAt := by
  have absent : finding ∉ World.empty.findings := by simp [World.empty]
  obtain ⟨first, act, later, same, missing, appears⟩ :=
    @run_turns _ _ step (fun w : World => finding ∈ w.findings) _ absent _ hit
  have finds : Finds (run step World.empty first) act finding.key finding.startedAt := by
    rcases step_findings appears with old | finds
    · exact absurd old missing
    · exact finds
  have inv := sound_run first
  have free : ¬Referenced (run step World.empty first) finding.key := by
    obtain ⟨id, pass, item, items, fullPage, -, -, -, -, free, named, -⟩ := finds
    rw [← named, ← inv.referenced, free]
    exact Bool.false_ne_true
  refine ⟨first, act, later, finding.startedAt, same, finds, early, ?_⟩
  intro part rest split
  cases part with
  | nil =>
    rw [append_nil]
    exact free
  | cons next part =>
    obtain ⟨rfl, -⟩ := List.cons.inj split
    rw [run_append, run_cons]
    have done := (inv.step act).found finding appears
    exact (done.run part).not_referenced

/-- A pass has found the object unreferenced, and no row has referenced it since. -/
def FoundUnreferenced (pre : List Action) (key : SnapshotKey) : Prop :=
  ∃ first act later startedAt, pre = first ++ act :: later ∧ Finds (run step World.empty first) act key startedAt ∧
    ∀ part rest, act :: later = part ++ rest → ¬Referenced (run step World.empty (first ++ part)) key

def UnreferencedSince (pre : List Action) (key : SnapshotKey) (since : Time) : Prop :=
  ∀ part rest, pre = part ++ rest → since < (run step World.empty part).now →
    ¬Referenced (run step World.empty part) key

/-- No pass that finds the object unreferenced began while it was still referenced. -/
def ReleasedBeforePasses (pre : List Action) (key : SnapshotKey) : Prop :=
  ∀ first act later startedAt, pre = first ++ act :: later →
    Finds (run step World.empty first) act key startedAt → UnreferencedSince first key startedAt

lemma LongUnreferenced.since {observedAt since} (long : LongUnreferenced pre key observedAt)
    (released : ReleasedBeforePasses pre key) (late : observedAt ≤ since + SNAPSHOT_RETENTION) :
    UnreferencedSince pre key since := by
  obtain ⟨first, act, later, startedAt, same, finds, early, free⟩ := long
  intro part rest split after
  rw [same] at split
  rcases append_eq_append_iff.mp split with ⟨between, rfl, inside⟩ | ⟨between, rfl, -⟩
  · exact free between rest inside
  · exact released _ act later startedAt same finds part between rfl (by linarith)

lemma Deletes.safe (deletes : Deletes (run step World.empty pre) act key) :
    ¬Referenced (run step World.empty pre) key ∧ FoundUnreferenced pre key ∧ (ReleasedBeforePasses pre key →
        UnreferencedSince pre key ((run step World.empty pre).now - SNAPSHOT_RETENTION)) := by
  obtain ⟨id, pass, referenced, due, own, running, phase⟩ := deletes.by_pass
  have inv := sound_run pre
  have sound := inv.passes id pass running
  obtain ⟨finding, hit, rfl, early⟩ := sound.due key (by
    rw [phase]
    exact mem_cons_self)
  have long := longUnreferenced_of_finding hit early
  refine ⟨(inv.found finding hit).not_referenced, ?_, ?_⟩
  · obtain ⟨first, act, later, startedAt, same, finds, -, free⟩ := long
    exact ⟨first, act, later, startedAt, same, finds, free⟩
  · intro released
    exact long.since released (by linarith [sound.begun])

/-! ## What happens to an object once it is recorded -/

def Unclaimed (w : World) (key : SnapshotKey) : Prop :=
  ∀ id pass item items fullPage, (w.workers id).pass = some pass →
    pass.phase = .recording item true items fullPage → item.key ≠ key

/-- The object is a candidate since a sweep that began at `startedAt`. -/
structure Recorded (w : World) (key : SnapshotKey) (startedAt : Time) : Prop where
  candidate : { fileKey := key, unreferencedAt := startedAt } ∈ w.candidates
  unclaimed : Unclaimed w key

lemma mem_insertCandidate_of_mem {cands inserted cand} (mem : cand ∈ cands) :
    cand ∈ insertCandidate cands inserted := by
  unfold insertCandidate
  cases hit : cands.get inserted.fileKey with
  | some existing => exact mem
  | none =>
    apply mem_put.mpr
    right
    exact ⟨mem, get_eq_none.mp hit cand mem⟩

lemma advance_recording {pass later item referenced}
    {items fullPage} (runs : ((advance w id pass).workers id).pass = some later)
    (recording : later.phase = .recording item referenced items fullPage) : w.referenced item.key = referenced := by
  cases phase : pass.phase with
  | sweeping hit full =>
    cases hit with
    | nil =>
      simp only [advance, phase] at runs
      rw [goTo_own runs] at recording
      cases recording
    | cons head tail =>
      simp only [advance, phase] at runs
      by_cases escaped : head.key.text ≤ (w.workers id).startAfter
      · rw [if_pos escaped, leave_pass, if_pos rfl] at runs
        cases runs
      · rw [if_neg escaped] at runs
        by_cases old : pass.dryRun = false ∧ head.lastModified < pass.cutoff
        · rw [if_pos old] at runs
          rw [goTo_own runs] at recording
          cases recording
          rfl
        · rw [if_neg old] at runs
          rw [goTo_own runs] at recording
          cases recording
  | collecting due =>
    cases due with
    | nil =>
      simp only [advance, phase] at runs
      rw [leave_pass, if_pos rfl] at runs
      cases runs
    | cons next due =>
      simp only [advance, phase] at runs
      rw [goTo_own runs] at recording
      cases recording
  | deciding next checked due =>
    simp only [advance, phase] at runs
    split at runs
    · rw [goTo_own runs] at recording
      cases recording
    · split at runs
      · rw [goTo_own runs] at recording
        cases recording
      · rw [goTo_own runs] at recording
        cases recording
  | _ =>
    simp only [advance, phase] at runs
    rw [goTo_own runs] at recording
    cases recording

lemma Settled.unreferenced (inv : Sound w) (done : Settled w key) : w.referenced key = false := by
  rw [Bool.eq_false_iff, ne_eq, inv.referenced]
  exact done.not_referenced

lemma advance_keeps {startedAt} (inv : Sound w) (noted : Recorded w key startedAt) {id : Nat} {pass}
    (running : (w.workers id).pass = some pass) :
    { fileKey := key, unreferencedAt := startedAt } ∈ (advance w id pass).candidates ∨
      Gone w key := by
  have here := noted.candidate
  have own := inv.passes id pass running
  cases phase : pass.phase with
  | forgetting alt due =>
    by_cases same : alt = key
    · right
      rw [← same]
      exact own.gone alt due phase
    · left
      simp only [advance, phase, goTo_candidates]
      exact mem_deleteCandidate.mpr ⟨here, fun equal => same equal.symm⟩
  | recording item referenced items fullPage =>
    left
    simp only [advance, phase, goTo_candidates, setCursor_candidates]
    cases referenced with
    | true =>
      have differ := noted.unclaimed id pass item items fullPage running phase
      exact mem_deleteCandidate.mpr ⟨here, fun equal => differ equal.symm⟩
    | false => exact mem_insertCandidate_of_mem here
  | sweeping items fullPage =>
    left
    cases items with
    | nil => cases fullPage <;> simpa [advance, phase] using here
    | cons item items =>
      simp only [advance, phase]
      split
      · exact here
      · split <;> exact here
  | deciding alt referenced due =>
    left
    simp only [advance, phase]
    split
    · exact here
    · split <;> exact here
  | collecting due =>
    left
    cases due <;> simpa [advance, phase] using here
  | _ =>
    left
    simpa [advance, phase] using here

lemma Unclaimed.step (inv : Sound w) (done : Settled w key) (unclaimed : Unclaimed w key) (act : Action) :
    Unclaimed (step w act) key := by
  intro alt later item items fullPage runs phase equal
  have effect := step_effect w act
  generalize Retention.step w act = next at effect runs
  cases effect with
  | started id dryRun own idle =>
    rw [goTo_pass] at runs
    by_cases same : alt = id
    · rw [if_pos same] at runs
      cases runs
      cases phase
    · rw [if_neg same] at runs
      exact unclaimed alt later item items fullPage runs phase equal
  | advanced id pass own running =>
    by_cases same : alt = id
    · rw [same] at runs
      have checked := advance_recording runs phase
      rw [equal, done.unreferenced inv] at checked
      cases checked
    · rw [(advance_confined w id pass).others alt same] at runs
      exact unclaimed alt later item items fullPage runs phase equal
  | left id worker own idle =>
    rw [restart_pass] at runs
    by_cases same : alt = id
    · rw [if_pos same, idle] at runs
      cases runs
    · rw [if_neg same] at runs
      exact unclaimed alt later item items fullPage runs phase equal
  | _ => exact unclaimed alt later item items fullPage runs phase equal

lemma Recorded.step {startedAt} (inv : Sound w) (done : Settled w key)
    (noted : Recorded w key startedAt) (act : Action) : Recorded (step w act) key startedAt ∨ Gone (step w act) key := by
  have unclaimed := noted.unclaimed.step inv done act
  have effect := step_effect w act
  generalize Retention.step w act = next at effect unclaimed
  cases effect with
  | advanced id pass own running =>
    rcases advance_keeps inv noted running with kept | gone
    · exact .inl ⟨kept, unclaimed⟩
    · have grows := advance_grows running
      exact .inr (grows.gone key gone)
  | _ => exact .inl ⟨noted.candidate, unclaimed⟩

lemma Gone.run (gone : Gone w key) (acts : List Action) : Gone (run Retention.step w acts) key := by
  induction acts generalizing w with
  | nil => exact gone
  | cons act acts ih => exact ih (gone.step act)

lemma Recorded.run {startedAt} (inv : Sound w) (done : Settled w key)
    (noted : Recorded w key startedAt) (acts : List Action) :
    Recorded (run Retention.step w acts) key startedAt ∨ Gone (run Retention.step w acts) key := by
  induction acts generalizing w with
  | nil => exact .inl noted
  | cons act acts ih =>
    rcases noted.step inv done act with kept | gone
    · exact ih (inv.step act) (done.step act) kept
    · exact .inr (gone.run acts)

lemma findings_begun (acts : List Action) : ∀ finding ∈ (run step World.empty acts).findings,
    finding.startedAt ≤ (run step World.empty acts).now := by
  induction acts using List.reverseRecOn with
  | nil => simp [World.empty]
  | append_singleton acts act ih =>
    intro finding hit
    rw [run_append] at hit ⊢
    have later := (step_grows (run step World.empty acts) act).now
    rcases step_findings hit with old | ⟨id, pass, item, items, fullPage, -, running, -, -, -, -, begun⟩
    · exact (ih finding old).trans later
    · rw [← begun]
      exact (((sound_run acts).passes id pass running).begun).trans later

/-! ## What a pass does with the objects on its page -/

/-- Worker `id` is about to list its page in the pass, and the object is on that page, old enough and
unreferenced. -/
structure Lists (w : World) (id : Nat) (pass : Pass) (key : SnapshotKey) : Prop where
  running : (w.workers id).pass = some pass
  phase : pass.phase = .listing
  real : pass.dryRun = false
  page : ∃ obj ∈ listObjects w.objects (w.workers id).startAfter, obj.key = key ∧ obj.lastModified < pass.cutoff
  free : ¬Referenced w key

def Holds (w : World) (id : Nat) (pass : Pass) (item : S3Object) : Prop :=
  ∃ phase, (w.workers id).pass = some { pass with phase } ∧ item ∈ phase.items

lemma Lists.settled {pass} (inv : Sound w) (lists : Lists w id pass key) : Settled w key := by
  obtain ⟨obj, listed, rfl, old⟩ := lists.page
  have begun := inv.passes id pass lists.running
  have free : w.referenced obj.key = false := by
    rw [Bool.eq_false_iff, ne_eq, inv.referenced]
    exact lists.free
  exact inv.settled (inv.dated obj (mem_listObjects listed)) (begun.late old) free

lemma Holds.advance {pass moving item} (inv : Sound w)
    (unclaimed : Unclaimed w item.key) (real : pass.dryRun = false) (old : item.lastModified < pass.cutoff)
    (runs : (w.workers id).pass = some moving) (holds : Holds w id pass item) :
    Holds (advance w id moving) id pass item ∨ ((advance w id moving).workers id).pass = none ∨
      ∃ since, { fileKey := item.key, unreferencedAt := since } ∈ (advance w id moving).candidates := by
  obtain ⟨phase, running, mem⟩ := holds
  cases running.symm.trans runs
  have sound := inv.passes id _ runs
  have goes : ∀ (next : World) (later : Phase), item ∈ later.items →
      Holds (next.goTo id { pass with phase } later) id pass item := by
    intro next later mem
    exact ⟨later, by rw [goTo_pass, if_pos rfl], mem⟩
  cases phase with
  | sweeping items fullPage =>
    cases items with
    | nil => cases mem
    | cons head items =>
      simp only [Retention.advance]
      by_cases escaped : head.key.text ≤ (w.workers id).startAfter
      · right; left
        rw [if_pos escaped, leave_pass, if_pos rfl]
      · rw [if_neg escaped]
        left
        split
        · exact goes _ _ mem
        · rename_i passed
          rcases mem_cons.mp mem with rfl | later
          · exact absurd ⟨real, old⟩ passed
          · exact goes _ _ later
  | recording head referenced items fullPage =>
    rcases mem_cons.mp mem with rfl | later
    · right; right
      cases referenced with
      | true => exact absurd rfl (unclaimed id _ item items fullPage runs rfl)
      | false =>
        simp only [Retention.advance, Bool.false_eq_true, if_false, goTo_candidates, setCursor_candidates]
        cases hit : w.candidates.get item.key with
        | some cand =>
          obtain ⟨there, same⟩ := get_eq_some.mp hit
          refine ⟨cand.unreferencedAt, ?_⟩
          rw [← same]
          exact mem_insertCandidate_of_mem there
        | none =>
          refine ⟨pass.observedAt, ?_⟩
          simp only [insertCandidate, hit]
          exact mem_put_self _ _
    · left
      simp only [Retention.advance]
      exact goes _ _ later
  | _ => cases mem

/-! ## What a pass does with the candidates it has read -/

def Awaits (w : World) (id : Nat) (key : SnapshotKey) : Prop :=
  ∃ pass, (w.workers id).pass = some pass ∧ pass.dryRun = false ∧ key ∈ pass.phase.due

lemma Awaits.advance {pass} (inv : Sound w)
    (running : (w.workers id).pass = some pass) (real : pass.dryRun = false) (due : key ∈ pass.phase.due) :
    Awaits (advance w id pass) id key ∨ Gone (advance w id pass) key := by
  have own := inv.passes id pass running
  have moved : ∀ (next : World) (phase : Phase), Retention.advance w id pass = next.goTo id pass phase →
      key ∈ phase.due → Awaits (Retention.advance w id pass) id key := by
    intro next phase same mem
    refine ⟨{ pass with phase := phase }, ?_, real, mem⟩
    rw [same, goTo_pass, if_pos rfl]
  cases phase : pass.phase with
  | collecting keys =>
    rw [phase] at due
    cases keys with
    | nil => cases due
    | cons first keys =>
      left
      exact moved w (.deciding first (w.referenced first) keys) (by simp only [Retention.advance, phase]) due
  | deciding alt referenced keys =>
    have free : referenced = false := own.decided alt referenced keys phase
    have res : Retention.advance w id pass =
        ({ w with objects := w.objects.remove fun obj => obj.key = alt } : World).goTo
          id pass (.forgetting alt keys) := by
      simp [Retention.advance, phase, free, real]
    have here := due
    rw [phase] at due
    rcases mem_cons.mp due with same | later
    · right
      obtain ⟨finding, hit, named, -⟩ := own.due key here
      rw [res, same]
      constructor
      · have stored := (inv.found finding hit).stored
        rw [named, same] at stored
        exact stored
      · intro obj mem
        simpa using (mem_remove.mp mem).2
    · left
      exact moved _ _ res later
  | forgetting alt keys =>
    rw [phase] at due
    left
    exact moved { w with candidates := deleteCandidate w.candidates alt } (.collecting keys)
      (by simp only [Retention.advance, phase]) due
  | _ =>
    rw [phase] at due
    cases due

lemma idle_run {acts} (idle : (w.workers id).pass = none)
    (unstarted : ∀ act ∈ acts, ∀ dryRun, act ≠ .start id dryRun) : ((run step w acts).workers id).pass = none := by
  induction acts generalizing w with
  | nil => exact idle
  | cons act acts ih =>
    have next : ((step w act).workers id).pass = none := by
      have effect := step_effect w act
      generalize step w act = next at effect
      cases effect with
      | started alt dryRun own free =>
        rw [goTo_pass, if_neg]
        · exact idle
        · rintro rfl
          exact unstarted act mem_cons_self dryRun own
      | advanced alt pass own running =>
        rw [(advance_confined w alt pass).others id]
        · exact idle
        · rintro rfl
          rw [running] at idle
          cases idle
      | left alt worker own free =>
        rw [restart_pass]
        split
        · exact free
        · exact idle
      | _ => exact idle
    exact ih next fun later mem => unstarted later (mem_cons_of_mem _ mem)

def Sweeping (w : World) (id : Nat) (pass : Pass) (item : S3Object) : Prop :=
  Holds w id pass item ∨ (w.workers id).pass = none ∨ (∃ since, Recorded w item.key since) ∨ Gone w item.key

lemma Holds.step {pass item} (inv : Sound w) (done : Settled w item.key)
    (unclaimed : Unclaimed w item.key) (real : pass.dryRun = false) (old : item.lastModified < pass.cutoff)
    (holds : Holds w id pass item) (undisturbed : act ≠ .cancel id ∧ act ≠ .restart id) :
    Sweeping (step w act) id pass item := by
  have unclaimed' := unclaimed.step inv done act
  have effect := step_effect w act
  generalize Retention.step w act = next at effect unclaimed'
  cases effect with
  | started alt dryRun own idle =>
    obtain ⟨phase, running, mem⟩ := holds
    refine Or.inl ⟨phase, ?_, mem⟩
    rw [goTo_pass, if_neg]
    · exact running
    · rintro rfl
      cases running.symm.trans idle
  | advanced alt moving own runs =>
    by_cases same : id = alt
    · subst same
      rcases holds.advance inv unclaimed real old runs with kept | idle | ⟨since, noted⟩
      · exact .inl kept
      · exact .inr (.inl idle)
      · exact .inr (.inr (.inl ⟨since, noted, unclaimed'⟩))
    · obtain ⟨phase, running, mem⟩ := holds
      refine Or.inl ⟨phase, ?_, mem⟩
      rw [(advance_confined w alt moving).others id same]
      exact running
  | left alt worker own idle =>
    obtain ⟨phase, running, mem⟩ := holds
    refine Or.inl ⟨phase, ?_, mem⟩
    rw [restart_pass, if_neg]
    · exact running
    · rintro rfl
      exact own.elim undisturbed.1 undisturbed.2
  | _ => exact .inl holds

lemma Sweeping.run {pass item acts} (inv : Sound w) (done : Settled w item.key)
    (unclaimed : Unclaimed w item.key) (real : pass.dryRun = false) (old : item.lastModified < pass.cutoff)
    (sweeping : Sweeping w id pass item)
    (undisturbed : ∀ act ∈ acts, act ≠ .cancel id ∧ act ≠ .restart id ∧ ∀ dryRun, act ≠ .start id dryRun) :
    Sweeping (run Retention.step w acts) id pass item := by
  induction acts generalizing w with
  | nil => exact sweeping
  | cons act acts ih =>
    obtain ⟨uncancelled, running, unstarted⟩ := undisturbed act mem_cons_self
    apply ih (inv.step act) (done.step act) (unclaimed.step inv done act)
    · rcases sweeping with holds | idle | ⟨since, noted⟩ | gone
      · exact holds.step inv done unclaimed real old ⟨uncancelled, running⟩
      · right; left
        have next : ((Transition.run Retention.step w [act]).workers id).pass = none := by
          apply idle_run idle
          intro one mem
          rw [mem_singleton.mp mem]
          exact unstarted
        exact next
      · rcases noted.step inv done act with kept | gone
        · exact .inr (.inr (.inl ⟨since, kept⟩))
        · exact .inr (.inr (.inr gone))
      · exact .inr (.inr (.inr (gone.step act)))
    · exact fun later mem => undisturbed later (mem_cons_of_mem _ mem)

lemma Lists.recorded {first acts : List Action} {pass later}
    (lists : Lists (run step World.empty first) id pass key)
    (unclaimed : Unclaimed (run step World.empty first) key)
    (undisturbed : ∀ act ∈ acts, act ≠ .cancel id ∧ act ≠ .restart id ∧ ∀ dryRun, act ≠ .start id dryRun)
    (running : ((run step World.empty (first ++ .advance id :: acts)).workers id).pass = some later)
    (swept : later.phase = .selecting) :
    (∃ since, Recorded (run step World.empty (first ++ .advance id :: acts)) key since ∧
        since ≤ (run step World.empty (first ++ .advance id :: acts)).now) ∨
      Gone (run step World.empty (first ++ .advance id :: acts)) key := by
  have begun := findings_begun (first ++ .advance id :: acts)
  have inv := sound_run first
  have sound := sound_run (first ++ .advance id :: acts)
  have done := lists.settled inv
  obtain ⟨item, listed, rfl, old⟩ := lists.page
  rw [run_append, run_cons] at running begun sound ⊢
  let page := listObjects (run step World.empty first).objects ((run step World.empty first).workers id).startAfter
  have taken : Holds (step (run step World.empty first) (.advance id)) id pass item := by
    refine ⟨.sweeping page (PAGE_LIMIT ≤ page.length), ?_, listed⟩
    simp only [step, lists.running, advance, lists.phase]
    rw [goTo_pass, if_pos rfl]
  have next : Sweeping _ id pass item := Or.inl taken
  rcases next.run (inv.step _) (done.step _) (unclaimed.step inv done _) lists.real old undisturbed with
    ⟨phase, runs, mem⟩ | idle | ⟨since, noted⟩ | gone
  · cases running.symm.trans runs
    cases swept
    cases mem
  · cases running.symm.trans idle
  · exact .inl ⟨since, noted, begun _ (sound.candidates _ noted.candidate)⟩
  · exact .inr gone

lemma Awaits.step {id : Nat} (inv : Sound w) (awaits : Awaits w id key)
    {act} (undisturbed : act ≠ .cancel id ∧ act ≠ .restart id) :
    Awaits (step w act) id key ∨ Gone (step w act) key := by
  obtain ⟨pass, running, real, due⟩ := awaits
  have effect := step_effect w act
  generalize Retention.step w act = next at effect
  cases effect with
  | started alt dryRun own idle =>
    left
    refine ⟨pass, ?_, real, due⟩
    rw [goTo_pass]
    by_cases same : id = alt
    · rw [← same, running] at idle
      cases idle
    · rw [if_neg same]
      exact running
  | advanced alt moving own runs =>
    by_cases same : id = alt
    · rw [← same, running] at runs
      cases runs
      rw [← same]
      exact Awaits.advance inv running real due
    · left
      refine ⟨pass, ?_, real, due⟩
      rw [(advance_confined w alt moving).others id same]
      exact running
  | left alt worker own idle =>
    left
    refine ⟨pass, ?_, real, due⟩
    have differ : id ≠ alt := by
      rintro rfl
      rcases own with cancelled | restarted
      · exact undisturbed.1 cancelled
      · exact undisturbed.2 restarted
    rw [restart_pass, if_neg differ]
    exact running
  | _ => exact .inl ⟨pass, running, real, due⟩

lemma Awaits.run {acts} (inv : Sound w) (awaits : Awaits w id key)
    (undisturbed : ∀ act ∈ acts, act ≠ .cancel id ∧ act ≠ .restart id) :
    Awaits (run Retention.step w acts) id key ∨ Gone (run Retention.step w acts) key := by
  induction acts generalizing w with
  | nil => exact .inl awaits
  | cons act acts ih =>
    have later : ∀ next ∈ acts, next ≠ .cancel id ∧ next ≠ .restart id :=
      fun next mem => undisturbed next (mem_cons_of_mem _ mem)
    rcases awaits.step inv (undisturbed act mem_cons_self) with kept | gone
    · exact ih (inv.step act) kept later
    · exact .inr (gone.run acts)

/-- Worker `id` is about to read the due candidates, the object among them if it is one still. -/
structure Reads (w : World) (id : Nat) (pass : Pass) (key : SnapshotKey) : Prop where
  running : (w.workers id).pass = some pass
  phase : pass.phase = .selecting
  real : pass.dryRun = false
  page : ∀ cand ∈ w.candidates, cand.fileKey = key → key ∈ dueCandidates w.candidates pass.cutoff

/-- No object that a session row references is deleted, only one that a pass has found unreferenced
is, and it has been unreferenced for a day where no pass that finds it so began before its release. -/
theorem snapshot_collection : (∀ pre act key, Deletes (run step World.empty pre) act key →
      ¬Referenced (run step World.empty pre) key ∧ FoundUnreferenced pre key ∧ (ReleasedBeforePasses pre key →
          UnreferencedSince pre key ((run step World.empty pre).now - SNAPSHOT_RETENTION))) ∧
    (∀ first acts id pass key later, Lists (run step World.empty first) id pass key →
      Unclaimed (run step World.empty first) key →
      (∀ act ∈ acts, act ≠ .cancel id ∧ act ≠ .restart id ∧ ∀ dryRun, act ≠ .start id dryRun) →
      ((run step World.empty (first ++ .advance id :: acts)).workers id).pass = some later →
      later.phase = .selecting →
      (∃ since, Recorded (run step World.empty (first ++ .advance id :: acts)) key since ∧
          since ≤ (run step World.empty (first ++ .advance id :: acts)).now) ∨
        Gone (run step World.empty (first ++ .advance id :: acts)) key) ∧
    (∀ first wait rest id pass key startedAt, Recorded (run step World.empty first) key startedAt →
      Reads (run step World.empty (first ++ wait)) id pass key → startedAt + SNAPSHOT_RETENTION ≤ pass.observedAt →
      (∀ act ∈ rest, act ≠ .cancel id ∧ act ≠ .restart id) →
      ((run step World.empty (first ++ wait ++ .advance id :: rest)).workers id).pass = none →
      ∀ obj ∈ (run step World.empty (first ++ wait ++ .advance id :: rest)).objects, obj.key ≠ key) := by
  refine ⟨fun pre act key deletes => deletes.safe, ?_, ?_⟩
  · intro first acts id pass key later lists unclaimed undisturbed running swept
    exact lists.recorded unclaimed undisturbed running swept
  · intro first wait rest id pass key startedAt noted reads early undisturbed ended
    have inv := sound_run first
    have done : Settled (run step World.empty first) key := inv.found _ (inv.candidates _ noted.candidate)
    let read := run step World.empty (first ++ wait)
    have atRead : read = run step (run step World.empty first) wait := run_append step World.empty first wait
    have gone : Gone (run step read (.advance id :: rest)) key := by
      rcases noted.run inv done wait with kept | gone
      · rw [← atRead] at kept
        have soundRead : Sound read := sound_run (first ++ wait)
        have due := reads.page _ kept.candidate rfl
        have res : step read (.advance id) =
            read.goTo id pass (.collecting (dueCandidates read.candidates pass.cutoff)) := by
          simp only [step, read, reads.running, advance, reads.phase]
        have awaits : Awaits (step read (.advance id)) id key := by
          refine ⟨{ pass with phase := .collecting (dueCandidates read.candidates pass.cutoff) }, ?_,
            reads.real, due⟩
          rw [res, goTo_pass, if_pos rfl]
        rcases awaits.run (soundRead.step _) undisturbed with waits | gone
        · obtain ⟨later, running, -⟩ := waits
          rw [run_append] at ended
          have idle : ((run step (step read (.advance id)) rest).workers id).pass = none := ended
          rw [idle] at running
          cases running
        · exact gone
      · rw [← atRead] at gone
        exact gone.run _
    rw [run_append]
    exact gone.absent

namespace Sample

def snapshot : SnapshotKey := { userId := "u", sessionId := "s", contentHash := 0, attempt := "a" }
def advances (requests : Nat) : List Action := List.replicate requests (.advance 0)

def youngObject : List Action :=
  [.put snapshot, .wait 1, .start 0 false] ++ advances 5 ++ [.wait 86401, .start 0 false] ++ advances 6

def releasedDuringPass : List Action :=
  [.createSession "s", .put snapshot, .publish snapshot, .wait 172800, .start 0 false] ++
    advances 1 ++ [.wait 30, .deleteSession "s"] ++ advances 5 ++ [.wait 86370, .start 0 false] ++
    advances 6

def releasedInTime : List Action :=
  [.createSession "s", .put snapshot, .publish snapshot, .wait 100, .deleteSession "s", .wait 172700,
    .start 0 false] ++ advances 6 ++ [.wait 86400, .start 0 false] ++ advances 6

lemma deletes_of_rows {acts} (stored : { key := snapshot, lastModified := 0 } ∈ (run step World.empty acts).objects)
    (none : (step (run step World.empty acts) (.advance 0)).objects.rows = []) :
    Deletes (run step World.empty acts) (.advance 0) snapshot := by
  refine ⟨⟨_, stored, rfl⟩, ?_⟩
  intro obj mem
  rw [← mem_rows, none] at mem
  cases mem

lemma releasedDuringPass_deletes : Deletes (run step World.empty releasedDuringPass) (.advance 0) snapshot :=
  deletes_of_rows (mem_rows.mp (by decide +kernel)) (by decide +kernel)

lemma releasedInTime_deletes : Deletes (run step World.empty releasedInTime) (.advance 0) snapshot :=
  deletes_of_rows (mem_rows.mp (by decide +kernel)) (by decide +kernel)

lemma releasedInTime_alone (count id : Nat) :
    ((run step World.empty (releasedInTime.take count)).workers (id + 1)).pass = none := by
  apply idle_run rfl
  intro act mem dryRun own
  have started := mem_of_mem_take mem
  simp [releasedInTime, advances, own] at started

lemma releasedInTime_unclaimed {count pass}
    (running : ((run step World.empty (releasedInTime.take count)).workers 0).pass = some pass)
    (idle : pass.phase = .listing ∨ pass.phase = .selecting) :
    Unclaimed (run step World.empty (releasedInTime.take count)) snapshot := by
  intro id later item items fullPage runs phase
  cases id with
  | zero =>
    cases running.symm.trans runs
    rcases idle with same | same <;> cases same.symm.trans phase
  | succ id => cases (releasedInTime_alone count id).symm.trans runs

lemma releasedInTime_released : ReleasedBeforePasses releasedInTime snapshot := by
  have released : ∀ count < 22, (run step World.empty (releasedInTime.take count)).rows.rows = [] ∨
      (run step World.empty (releasedInTime.take count)).now ≤ 100 := by
    decide +kernel
  have begun : ∀ count < 22, ((run step World.empty (releasedInTime.take count)).workers 0).pass.all
      fun pass => 100 ≤ pass.observedAt := by
    decide +kernel
  intro first act later startedAt same finds part rest split after
  rintro ⟨row, mem, -⟩
  have total : first.length + (later.length + 1) = 21 := by
    have length : releasedInTime.length = 21 := rfl
    rw [same, length_append] at length
    exact length
  have inside : first.length = part.length + rest.length := by rw [split, length_append]
  have atFirst : releasedInTime.take first.length = first := by rw [same, take_left]
  have atPart : releasedInTime.take part.length = part := by rw [same, split, append_assoc, take_left]
  obtain ⟨id, pass, item, items, fullPage, -, running, -, -, -, -, rfl⟩ := finds
  rw [← atFirst] at running
  cases id with
  | zero =>
    have late := begun first.length (by omega)
    rw [running] at late
    have early := released part.length (by omega)
    rw [atPart] at early
    rcases early with none | early
    · rw [← mem_rows, none] at mem
      cases mem
    · have bound : 100 ≤ pass.observedAt := of_decide_eq_true late
      exact absurd (early.trans bound) (not_le.mpr after)
  | succ id => cases (releasedInTime_alone first.length id).symm.trans running

end Sample

open Sample

theorem snapshot_collection_released : (¬Referenced (run step World.empty releasedInTime) snapshot ∧
      FoundUnreferenced releasedInTime snapshot ∧ UnreferencedSince releasedInTime snapshot
        ((run step World.empty releasedInTime).now - SNAPSHOT_RETENTION)) ∧
    ((∃ since, Recorded (run step World.empty (releasedInTime.take 7 ++ .advance 0 :: advances 3)) snapshot since ∧
        since ≤ (run step World.empty (releasedInTime.take 7 ++ .advance 0 :: advances 3)).now) ∨
      Gone (run step World.empty (releasedInTime.take 7 ++ .advance 0 :: advances 3)) snapshot) ∧
    ∀ obj ∈ (run step World.empty (releasedInTime.take 11 ++
        (releasedInTime.take 19).drop 11 ++ .advance 0 :: advances 4)).objects, obj.key ≠ snapshot := by
  obtain ⟨safe, records, collects⟩ := snapshot_collection
  have lists : Lists (run step World.empty (releasedInTime.take 7)) 0
      { observedAt := 172800, dryRun := false, phase := .listing } snapshot :=
    { running := by decide +kernel
      phase := rfl
      real := rfl
      page := ⟨{ key := snapshot, lastModified := 0 }, by decide +kernel, rfl, by decide⟩
      free := by
        rintro ⟨row, mem, -⟩
        have none : (run step World.empty (releasedInTime.take 7)).rows.rows = [] := by decide +kernel
        rw [← mem_rows, none] at mem
        cases mem }
  have noted : Recorded (run step World.empty (releasedInTime.take 11)) snapshot 172800 := by
    have running : ((run step World.empty (releasedInTime.take 11)).workers 0).pass =
        some { observedAt := 172800, dryRun := false, phase := .selecting } := by
      decide +kernel
    exact ⟨mem_rows.mp (by decide +kernel), releasedInTime_unclaimed running (.inr rfl)⟩
  have reads : Reads (run step World.empty (releasedInTime.take 11 ++ (releasedInTime.take 19).drop 11)) 0
      { observedAt := 259200, dryRun := false, phase := .selecting } snapshot :=
    { running := by decide +kernel
      phase := rfl
      real := rfl
      page := fun _ _ _ => by decide +kernel }
  have advances_on : ∀ count, ∀ act ∈ advances count,
      act ≠ .cancel 0 ∧ act ≠ .restart 0 ∧ ∀ dryRun, act ≠ .start 0 dryRun := by
    intro count act mem
    rw [(mem_replicate.mp mem).2]
    simp
  obtain ⟨free, found, since⟩ := safe _ _ _ releasedInTime_deletes
  refine ⟨⟨free, found, since releasedInTime_released⟩, ?_, ?_⟩
  · exact records _ _ _ _ _ { observedAt := 172800, dryRun := false, phase := .selecting } lists
      (releasedInTime_unclaimed lists.running (.inl rfl)) (advances_on 3) (by decide +kernel) rfl
  · exact collects _ _ _ _ _ _ _ noted reads (by decide)
      (fun act mem => ⟨(advances_on 4 act mem).1, (advances_on 4 act mem).2.1⟩) (by decide +kernel)

/-- Worker `id` is in a pass over a page with the object on it. -/
def Sweeps (w : World) (id : Nat) (key : SnapshotKey) (observedAt : Time) : Prop :=
  ∃ items fullPage, (w.workers id).pass =
    some { observedAt, dryRun := false, phase := .sweeping items fullPage } ∧ key ∈ items.map S3Object.key

/-- Two passes a day apart leave the object; and one is deleted that was referenced 86370 seconds ago. -/
theorem second_pass_keeps_young_object : ((∀ count, (run step World.empty (youngObject.take count)).rows.rows = []) ∧
      Sweeps (run step World.empty (youngObject.take 4)) 0 snapshot 1 ∧
      ((run step World.empty (youngObject.take 8)).workers 0).pass.isNone ∧
      Sweeps (run step World.empty (youngObject.take 11)) 0 snapshot 86402 ∧
      ((run step World.empty youngObject).workers 0).pass.isNone ∧
      ∃ obj ∈ (run step World.empty youngObject).objects, obj.key = snapshot) ∧
    (Referenced (run step World.empty (releasedDuringPass.take 7)) snapshot ∧
      (run step World.empty (releasedDuringPass.take 7)).now + 86370 = (run step World.empty releasedDuringPass).now ∧
      Deletes (run step World.empty releasedDuringPass) (.advance 0) snapshot) := by
  let obj : S3Object := { key := snapshot, lastModified := 0 }
  have stays : obj ∈ (run step World.empty youngObject).objects := mem_rows.mp (by decide +kernel)
  let row : SessionRow := { id := "s", fileKey := some snapshot }
  have referenced : row ∈ (run step World.empty (releasedDuringPass.take 7)).rows := mem_rows.mp (by decide +kernel)
  refine ⟨⟨?_, ?_, by decide +kernel, ?_, by decide +kernel, obj, stays, rfl⟩,
    ⟨row, referenced, rfl⟩, by decide +kernel, releasedDuringPass_deletes⟩
  · intro count
    rcases Nat.lt_or_ge count 16 with few | all
    · have checked : ∀ count < 16,
          (run step World.empty (youngObject.take count)).rows.rows = [] := by
        decide +kernel
      exact checked count few
    · rw [take_of_length_le (by exact all)]
      decide +kernel
  · exact ⟨[obj], false, by decide +kernel, by simp [obj]⟩
  · exact ⟨[obj], false, by decide +kernel, by simp [obj]⟩

end Clawdi.Snapshots.Retention
