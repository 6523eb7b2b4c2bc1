import Clawdi.PlatformMutations.Routes

namespace Clawdi.PlatformMutations
open Program List Table Option
variable (reqHash : PlatformOwner × Payload → ℕ)

def Process.flushed (proc : Process) : Bool := proc.view.txn.flushed

structure Settled (proc : Process) : Prop where
  safe : Wp (rules reqHash proc.request) proc.program (Final reqHash proc.request) proc.view
  written : proc.view.txn.written ≠ [] → proc.view.found = some none
  row : ∀ row ∈ proc.view.txn.row, proc.view.found = some none ∧
    row.slot = proc.slot ∧ row.requestHash = reqHash proc.request.payload ∧
    row.ownerUserId = proc.view.user
  flushed : proc.flushed = true → proc.view.txn.row ≠ none
  deleted : proc.view.txn.deleted = []
  audits : proc.view.txn.audits ≠ [] → proc.view.audited = true

structure Author (was : Stored) (proc : Process) : Prop where
  id : proc.id = was.request
  slot : proc.slot = was.slot
  found : proc.view.found = some none
  hash : was.row.requestHash = reqHash proc.request.payload
  owner : was.row.ownerUserId = proc.view.user

structure Consistent (w : World) : Prop where
  settled : ∀ proc ∈ w.requests, Settled reqHash proc
  alone : ∀ proc ∈ w.requests, ∀ alt ∈ w.requests, proc.flushed = true →
    alt.flushed = true → proc.slot = alt.slot → proc = alt
  vacant : ∀ proc ∈ w.requests, proc.flushed = true → w.rows.get proc.slot = none
  stored : ∀ was ∈ w.rows, ∃ proc ∈ w.requests, Author reqHash was proc
  effects : ∀ effect ∈ w.effects, ∃ was ∈ w.rows, was.request = effect.1
  audits : ∀ audit ∈ w.audits, ∃ proc ∈ w.requests, proc.id = audit.1 ∧ proc.view.audited = true
  pruning : w.pruning = []

variable {reqHash} {w : World} {proc later : Process}

structure Continues (w : World) (proc later : Process) : Prop where
  id : later.id = proc.id
  request : later.request = proc.request
  kept : proc.view.found = some none → later.view.found = some none ∧ later.view.user = proc.view.user
  audited : proc.view.audited = true → later.view.audited = true
  flushed : later.flushed = true → proc.flushed = true ∨ w.rows.get proc.slot = none ∧
    ∀ alt ∈ w.requests, alt.id ≠ proc.id → alt.flushed = true → alt.slot ≠ proc.slot

lemma Author.continues {was} (author : Author reqHash was proc)
    (continues : Continues w proc later) : Author reqHash was later where
  id := by rw [continues.id, author.id]
  slot := by rw [← author.slot, Process.slot, continues.request]; rfl
  found := (continues.kept author.found).1
  hash := by rw [continues.request, author.hash]
  owner := by rw [(continues.kept author.found).2, author.owner]

lemma author_put {was} (mem : proc ∈ w.requests) (continues : Continues w proc later)
    (authored : ∃ proc ∈ w.requests, Author reqHash was proc) :
    ∃ proc ∈ w.requests.put later, Author reqHash was proc := by
  obtain ⟨author, stands, holds⟩ := authored
  by_cases same : author.id = later.id
  · refine ⟨later, mem_put_self _ _, ?_⟩
    have isProcess : author = proc := eq_of_key stands mem (same.trans continues.id)
    rw [isProcess] at holds
    exact holds.continues continues
  · exact ⟨author, mem_put.mpr (.inr ⟨stands, same⟩), holds⟩

lemma audited_put {id : ℕ} (mem : proc ∈ w.requests) (continues : Continues w proc later)
    (added : ∃ proc ∈ w.requests, proc.id = id ∧ proc.view.audited = true) :
    ∃ proc ∈ w.requests.put later, proc.id = id ∧ proc.view.audited = true := by
  obtain ⟨author, stands, isId, audited⟩ := added
  by_cases same : author.id = later.id
  · have isProcess : author = proc := eq_of_key stands mem (same.trans continues.id)
    exact ⟨later, mem_put_self _ _, same.symm.trans isId, continues.audited (isProcess ▸ audited)⟩
  · exact ⟨author, mem_put.mpr (.inr ⟨stands, same⟩), isId, audited⟩

lemma Consistent.put (agree : Consistent reqHash w) (mem : proc ∈ w.requests)
    (continues : Continues w proc later) (done : Settled reqHash later) :
    Consistent reqHash { w with requests := w.requests.put later } := by
  have slot : later.slot = proc.slot := by rw [Process.slot, continues.request]; rfl
  have others : ∀ alt ∈ w.requests, alt.id ≠ later.id → alt.flushed = true →
      later.flushed = true → later.slot ≠ alt.slot := by
    intro alt stands differ flushed goes same
    rw [continues.id] at differ
    rw [slot] at same
    rcases continues.flushed goes with pre | ⟨_, apart⟩
    · have equal := agree.alone proc mem alt stands pre flushed same
      exact differ (congrArg Process.id equal.symm)
    · exact apart alt stands differ flushed same.symm
  exact {
    settled := by
      intro alt stands
      rcases mem_put.mp stands with rfl | ⟨stands, _⟩
      · exact done
      · exact agree.settled alt stands
    alone := by
      intro one oneStands alt otherStands oneFlushed otherFlushed same
      rcases mem_put.mp oneStands with rfl | ⟨oneBefore, oneDiffers⟩
      · rcases mem_put.mp otherStands with rfl | ⟨otherBefore, otherDiffers⟩
        · rfl
        · exact absurd same (others alt otherBefore otherDiffers otherFlushed oneFlushed)
      · rcases mem_put.mp otherStands with rfl | ⟨otherBefore, _⟩
        · exact absurd same.symm (others one oneBefore oneDiffers oneFlushed otherFlushed)
        · exact agree.alone one oneBefore alt otherBefore oneFlushed otherFlushed same
    vacant := by
      intro alt stands flushed
      rcases mem_put.mp stands with rfl | ⟨stands, _⟩
      · rw [slot]
        rcases continues.flushed flushed with pre | ⟨vacant, _⟩
        · exact agree.vacant proc mem pre
        · exact vacant
      · exact agree.vacant alt stands flushed
    stored := fun was stands => author_put mem continues (agree.stored was stands)
    effects := agree.effects
    audits := fun audit added => audited_put mem continues (agree.audits audit added)
    pruning := agree.pruning }

lemma Consistent.closed (agree : Consistent reqHash w) (mem : proc ∈ w.requests) {program}
    (safe : Wp (rules reqHash proc.request) program (Final reqHash proc.request) { proc.view with txn := {} }) :
    Consistent reqHash { w with requests := w.requests.put (proc.close program) } := by
  apply agree.put mem
  · exact ⟨rfl, rfl, fun hit => ⟨hit, rfl⟩, id, by simp [Process.flushed, Process.close]⟩
  · exact ⟨safe, by simp [Process.close], by simp [Process.close],
      by simp [Process.flushed, Process.close], rfl, by simp [Process.close]⟩

lemma Consistent.crash (agree : Consistent reqHash w) (mem : proc ∈ w.requests) :
    Consistent reqHash (w.crash proc) := by
  apply agree.closed mem
  show Final reqHash proc.request (.error .internal) _
  rw [Final]
  split
  · exact ⟨_, rfl⟩
  · trivial
  · exact .inl rfl

lemma View.after_found {view : View} {stmt : Statement} {res}
    (alt : ∀ slot, stmt ≠ .findRow slot) : (view.after stmt res).found = view.found := by
  cases stmt with
  | findRow slot => exact absurd rfl (alt slot)
  | ask question =>
    cases question with
    | findOwner owner => cases res <;> rfl
    | _ => rfl
  | write | flush => cases res <;> rfl
  | _ => rfl

variable {stmt : Statement} {res : stmt.Result}
  {next : stmt.Result → Program Statement Statement.Result (Except HttpError Response)}

lemma Settled.allowed (done : Settled reqHash proc) (runs : proc.program = .perform stmt next) :
    Allowed reqHash proc.request proc.view stmt := by
  have safe := done.safe
  rw [runs] at safe
  exact safe.1

lemma Settled.bare (done : Settled reqHash proc) (early : proc.view.found ≠ some none) :
    proc.view.txn.written = [] ∧ proc.view.txn.row = none := by
  refine ⟨by_contra fun wrote => early (done.written wrote), ?_⟩
  cases has : proc.view.txn.row with
  | none => rfl
  | some row => exact absurd (done.row row has).1 early

lemma Settled.after (done : Settled reqHash proc)
    (runs : proc.program = .perform stmt next) (unexpired : Unexpired stmt res) :
    Settled reqHash (proc.after res (next res)) := by
  have allowed := done.allowed runs
  have safe := done.safe
  rw [runs] at safe
  have goesOn := safe.2 res _ ⟨unexpired, rfl⟩
  cases stmt with
  | ask question =>
    cases question with
    | findOwner owner =>
      have bare := done.bare (by rw [show proc.view.found = none from allowed]; simp)
      cases res with
      | user id =>
        exact ⟨goesOn, done.written, by simp [Process.after, View.after, View.answered, bare.2],
          done.flushed, done.deleted, done.audits⟩
      | _ => exact ⟨goesOn, done.written, done.row, done.flushed, done.deleted, done.audits⟩
    | _ => exact ⟨goesOn, done.written, done.row, done.flushed, done.deleted, done.audits⟩
  | write change =>
    cases res with
    | false => exact ⟨goesOn, done.written, done.row, done.flushed, done.deleted, done.audits⟩
    | true => exact ⟨goesOn, fun _ => allowed, done.row, done.flushed, done.deleted, done.audits⟩
  | findRow slot =>
    have bare := done.bare (by rw [allowed.2]; simp)
    exact ⟨goesOn, fun wrote => absurd bare.1 wrote,
      by simp [Process.after, View.after, bare.2], done.flushed, done.deleted, done.audits⟩
  | deleteRow slot => exact allowed.elim
  | addRow row =>
    obtain ⟨hit, slot, hash, owner⟩ := allowed
    have added : ∀ alt ∈ some row, proc.view.found = some none ∧ alt.slot = proc.slot ∧
        alt.requestHash = reqHash proc.request.payload ∧
        alt.ownerUserId = proc.view.user := by
      rintro _ ⟨⟩
      exact ⟨hit, slot, hash, owner⟩
    exact ⟨goesOn, done.written, added, fun _ => by simp [Process.after, View.after], done.deleted, done.audits⟩
  | flush =>
    cases res with
    | false => exact ⟨goesOn, done.written, done.row, done.flushed, done.deleted, done.audits⟩
    | true =>
      refine ⟨goesOn, done.written, done.row, ?_, done.deleted, done.audits⟩
      intro flushed
      exact isSome_iff_ne_none.mp flushed
  | commit | rollback => exact ⟨goesOn, by simp [Process.after, View.after],
      by simp [Process.after, View.after], by simp [Process.after, View.after, Process.flushed], rfl,
      by simp [Process.after, View.after]⟩
  | addAudit audit => exact ⟨goesOn, done.written, done.row, done.flushed, done.deleted, fun _ => rfl⟩
  | lockKey slot => exact ⟨goesOn, done.written, done.row, done.flushed, done.deleted, done.audits⟩

variable {answers : (question : Question) → question.Answer} {now : ℕ} {conflict : Bool}
  {w' : World}

lemma execute_unexpired (retained : ∀ was ∈ w.rows, now < was.row.expiresAt)
    (ran : w.execute proc answers now conflict stmt = some (res, w')) : Unexpired stmt res := by
  cases stmt with
  | findRow slot =>
    obtain ⟨⟨rfl, rfl⟩, _⟩ := ran
    intro row hit
    obtain ⟨was, stands, rfl⟩ := map_eq_some_iff.mp hit
    exact retained was (get_eq_some.mp stands).1
  | _ => trivial

lemma execute_world (alt : stmt ≠ .commit)
    (ran : w.execute proc answers now conflict stmt = some (res, w')) : w' = w := by
  cases stmt with
  | commit => exact absurd rfl alt
  | lockKey slot =>
    simp only [World.execute] at ran
    split at ran
    · cases ran
    · cases ran
      rfl
  | flush =>
    simp only [World.execute] at ran
    split at ran
    · cases ran
      rfl
    · split at ran
      · cases ran
      · cases ran
        rfl
  | ask question =>
    cases question <;>
    · cases ran
      rfl
  | _ =>
    cases ran
    rfl

lemma execute_flush {row kept} (holds : proc.view.txn.row = some row) (deleted : proc.view.txn.deleted = [])
    (ran : w.execute proc answers now conflict .flush = some (kept, w')) (fine : kept = true) :
    w.rows.get row.slot = none ∧ w.another proc (World.inserted row.slot) = false := by
  simp only [World.execute, holds] at ran
  split at ran
  · cases ran
  · rename_i apart
    simp only [Option.some.injEq, Prod.mk.injEq] at ran
    have both := ran.1.trans fine
    simp only [World.occupied, deleted, Bool.and_eq_true, not_mem_nil, not_false_eq_true,
      decide_true, Bool.and_true, Bool.not_eq_true', Option.isSome_eq_false_iff,
      Option.isNone_iff_eq_none] at both
    exact ⟨both.2, by simpa using apart⟩

lemma Settled.continues (done : Settled reqHash proc)
    (others : ∀ alt ∈ w.requests, Settled reqHash alt) (runs : proc.program = .perform stmt next)
    (ran : w.execute proc answers now conflict stmt = some (res, w')) :
    Continues w proc (proc.after res (next res)) where
  id := rfl
  request := rfl
  kept := by
    intro hit
    have allowed := done.allowed runs
    cases stmt with
    | ask question =>
      cases question with
      | findOwner owner =>
        rw [show proc.view.found = none from allowed] at hit
        cases hit
      | _ => exact ⟨hit, rfl⟩
    | findRow slot =>
      rw [allowed.2] at hit
      cases hit
    | write | flush => cases res <;> exact ⟨hit, rfl⟩
    | _ => exact ⟨hit, rfl⟩
  audited := by
    intro audited
    cases stmt with
    | ask question =>
      cases question with
      | findOwner owner => cases res <;> exact audited
      | _ => exact audited
    | write | flush => cases res <;> exact audited
    | addAudit => rfl
    | _ => exact audited
  flushed := by
    intro flushed
    cases stmt with
    | ask question =>
      left
      cases question with
      | findOwner owner => cases res <;> exact flushed
      | _ => exact flushed
    | write change => cases res <;> exact .inl flushed
    | flush =>
      cases res with
      | false => exact .inl flushed
      | true =>
        right
        obtain ⟨row, holds⟩ := isSome_iff_exists.mp flushed
        obtain ⟨vacant, apart⟩ := execute_flush holds done.deleted ran rfl
        have slot := (done.row row holds).2.1
        rw [slot] at vacant apart
        refine ⟨vacant, ?_⟩
        intro alt stands differ inserts same
        have has := (others alt stands).flushed inserts
        obtain ⟨inserted, holdsOther⟩ := ne_none_iff_exists'.mp has
        have slotOther := ((others alt stands).row inserted holdsOther).2.1
        simp only [World.another, List.any_eq_false, Bool.and_eq_true, decide_eq_true_eq,
          not_and, Bool.not_eq_true] at apart
        have gone := apart alt stands differ
        have inserts : alt.view.txn.flushed = true := inserts
        simp [World.inserted, inserts, holdsOther, slotOther, same] at gone
    | commit | rollback => cases flushed
    | _ => exact .inl flushed

lemma remove_deleted (deleted : proc.view.txn.deleted = []) :
    w.rows.remove (fun was => was.slot ∈ proc.view.txn.deleted) = w.rows := by
  apply remove_eq_self
  simp [deleted]

lemma mem_commit {was} (agree : Consistent reqHash w)
    (mem : proc ∈ w.requests) (flushed : proc.view.txn.row ≠ none → proc.flushed = true) :
    was ∈ (w.commit proc).rows ↔ was ∈ w.rows ∨ ∃ row ∈ proc.view.txn.row, was = ⟨row, proc.id⟩ := by
  have done := agree.settled proc mem
  have deleted := done.deleted
  cases holds : proc.view.txn.row with
  | none =>
    simp only [World.commit, holds, remove_deleted deleted]
    simp
  | some row =>
    have vacant := agree.vacant proc mem (flushed (by simp [holds]))
    have slot : row.slot = proc.slot := (done.row row holds).2.1
    simp only [World.commit, holds, remove_deleted deleted]
    rw [mem_put]
    constructor
    · rintro (rfl | ⟨stands, _⟩)
      · exact .inr ⟨row, rfl, rfl⟩
      · exact .inl stands
    · rintro (stands | ⟨_, ⟨⟩, rfl⟩)
      · refine Or.inr ⟨stands, ?_⟩
        intro same
        exact get_eq_none.mp vacant was stands (same.trans slot)
      · exact .inl rfl

lemma Consistent.commit (agree : Consistent reqHash w) (mem : proc ∈ w.requests)
    {next : Unit → Program Statement Statement.Result (Except HttpError Response)}
    (runs : proc.program = .perform .commit next) :
    Consistent reqHash { w.commit proc with
      requests := w.requests.put (@Process.after proc .commit () (next ())) } := by
  have done := agree.settled proc mem
  have allowed := done.allowed runs
  have flushed : proc.view.txn.row ≠ none → proc.flushed = true := by
    intro holds
    rcases allowed with ⟨_, none⟩ | ⟨_, flushed⟩
    · exact absurd none holds
    · exact flushed
  have rows : ∀ was, was ∈ (w.commit proc).rows ↔ was ∈ w.rows ∨
      ∃ row ∈ proc.view.txn.row, was = ⟨row, proc.id⟩ :=
    fun was => mem_commit agree mem flushed
  have continues : Continues w proc (@Process.after proc .commit () (next ())) :=
    ⟨rfl, rfl, fun hit => ⟨hit, rfl⟩, id, by simp [Process.after, View.after, Process.flushed]⟩
  have base := agree.put mem continues (done.after runs trivial)
  exact {
    settled := base.settled
    alone := base.alone
    vacant := by
      intro alt stands inserts
      refine get_eq_none.mpr ?_
      intro was here same
      rcases (rows was).mp here with pre | ⟨row, holds, rfl⟩
      · exact get_eq_none.mp (base.vacant alt stands inserts) was pre same
      · have slot : row.slot = proc.slot := (done.row row holds).2.1
        rcases mem_put.mp stands with rfl | ⟨pre, differ⟩
        · cases inserts
        · have equal := agree.alone proc mem alt pre (flushed (by rw [holds]; simp)) inserts (slot.symm.trans same)
          have apart : alt.id ≠ proc.id := differ
          exact apart (congrArg Process.id equal.symm)
    stored := by
      intro was here
      rcases (rows was).mp here with pre | ⟨row, holds, rfl⟩
      · exact base.stored was pre
      · obtain ⟨hit, slot, hash, owner⟩ := done.row row holds
        exact ⟨_, mem_put_self _ _, rfl, slot.symm, hit, hash, owner⟩
    effects := by
      intro effect happened
      rcases mem_append.mp happened with pre | now
      · obtain ⟨was, stands, same⟩ := agree.effects effect pre
        exact ⟨was, (rows was).mpr (.inl stands), same⟩
      · obtain ⟨change, wrote, rfl⟩ := mem_map.mp now
        rcases allowed with ⟨nothing, _⟩ | ⟨holds, _⟩
        · rw [nothing] at wrote
          cases wrote
        · obtain ⟨row, holds⟩ := ne_none_iff_exists'.mp holds
          exact ⟨⟨row, proc.id⟩, (rows _).mpr (.inr ⟨row, holds, rfl⟩), rfl⟩
    audits := by
      intro audit added
      rcases mem_append.mp added with pre | now
      · exact base.audits audit pre
      · obtain ⟨added, isIn, rfl⟩ := mem_map.mp now
        exact ⟨_, mem_put_self _ _, rfl, done.audits (ne_nil_of_mem isIn)⟩
    pruning := agree.pruning }

lemma Consistent.perform (agree : Consistent reqHash w) (mem : proc ∈ w.requests)
    (retained : ∀ was ∈ w.rows, now < was.row.expiresAt) :
    Consistent reqHash (w.perform proc answers now conflict) := by
  have done := agree.settled proc mem
  rw [World.perform]
  split
  · rename_i out ended
    have safe := done.safe
    rw [ended] at safe
    exact agree.closed mem safe
  · rename_i stmt next runs
    split
    · exact agree
    · rename_i res w' ran
      by_cases commits : stmt = .commit
      · subst commits
        cases ran
        exact agree.commit mem runs
      · have unexpired := execute_unexpired retained ran
        have continues := done.continues agree.settled runs ran
        have same := execute_world commits ran
        subst same
        exact agree.put mem continues (done.after runs unexpired)

lemma Settled.start (id : ℕ) (req : MutationRequest) : Settled reqHash ⟨id, req, (handle reqHash req).run, {}⟩ := by
  refine ⟨?_, by simp, by simp, by simp [Process.flushed], rfl, by simp⟩
  have safe : Safe reqHash req (handle reqHash req) (fun resp => Final reqHash req (.ok resp)) {} := safe_handle
  apply Wp.mono _ safe
  rintro (_ | _) view holds
  · exact holds
  · exact holds

lemma Consistent.arrive (agree : Consistent reqHash w) (id : ℕ)
    (req : MutationRequest) (new : w.requests.get id = none) :
    Consistent reqHash { w with
      requests := w.requests.put ⟨id, req, (handle reqHash req).run, {}⟩ } := by
  have older : ∀ alt ∈ w.requests, alt ∈ w.requests.put
      ⟨id, req, (handle reqHash req).run, {}⟩ := by
    intro alt stands
    exact mem_put.mpr (.inr ⟨stands, get_eq_none.mp new alt stands⟩)
  have flushes : ∀ alt ∈ w.requests.put ⟨id, req, (handle reqHash req).run, {}⟩,
      alt.flushed = true → alt ∈ w.requests := by
    intro alt stands flushed
    rcases mem_put.mp stands with rfl | ⟨pre, _⟩
    · cases flushed
    · exact pre
  exact {
    settled := by
      intro alt stands
      rcases mem_put.mp stands with rfl | ⟨pre, _⟩
      · exact Settled.start id req
      · exact agree.settled alt pre
    alone := fun one oneStands alt otherStands oneFlushed otherFlushed =>
      agree.alone one (flushes one oneStands oneFlushed) alt
        (flushes alt otherStands otherFlushed) oneFlushed otherFlushed
    vacant := fun alt stands flushed =>
      agree.vacant alt (flushes alt stands flushed) flushed
    stored := by
      intro was stands
      obtain ⟨author, here, holds⟩ := agree.stored was stands
      exact ⟨author, older author here, holds⟩
    effects := agree.effects
    audits := by
      intro audit added
      obtain ⟨author, here, holds⟩ := agree.audits audit added
      exact ⟨author, older author here, holds⟩
    pruning := agree.pruning }

lemma Consistent.step (agree : Consistent reqHash w) {ev}
    (retained : Retained w ev) : Consistent reqHash (step reqHash w ev) := by
  cases ev with
  | arrive id req =>
    rw [PlatformMutations.step]
    split
    · exact agree
    · rename_i new
      exact agree.arrive id req (by simpa using new)
  | perform id answers now conflict =>
    rw [PlatformMutations.step]
    split
    · exact agree
    · rename_i proc hit
      exact agree.perform (get_eq_some.mp hit).1 retained
  | crash id =>
    rw [PlatformMutations.step]
    split
    · exact agree
    · rename_i proc hit
      exact agree.crash (get_eq_some.mp hit).1
  | pruneSelect now limit =>
    have none : w.rows.select (fun was => was.row.expiresAt < now)
        (fun was => toLex (was.row.expiresAt, was.request)) = [] := by
      apply eq_nil_iff_forall_not_mem.mpr
      intro was mem
      obtain ⟨stands, expired⟩ := mem_select.mp mem
      have fresh := retained was stands
      have expired : was.row.expiresAt < now := by simpa using expired
      omega
    rw [PlatformMutations.step, none]
    exact ⟨agree.settled, agree.alone, agree.vacant, agree.stored, agree.effects, agree.audits, by simp⟩
  | pruneDelete =>
    have same : w.rows.remove (fun was => was.request ∈ w.pruning) = w.rows := by
      apply remove_eq_self
      simp [agree.pruning]
    rw [PlatformMutations.step, same]
    exact ⟨agree.settled, agree.alone, agree.vacant, agree.stored, agree.effects, agree.audits, rfl⟩

end Clawdi.PlatformMutations
