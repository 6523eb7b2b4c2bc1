import Clawdi.Lib.Transition
import Mathlib.Logic.Function.Basic

namespace Clawdi.ConvergeLock

structure LockOwner where
  pid : ℕ
  acquiredAt : ℕ
deriving DecidableEq

structure Directory where
  inode : ℕ
  owner : Option LockOwner
  temporaries : List LockOwner
  mtimeMs : ℕ

inductive Phase where
  | idle
  | creating
  | staging
  | installing (acquiredAt : ℕ)
  | unstaging (acquiredAt : ℕ)
  | undoing
  | critical
  | removing
  | observing
  | probing (ownerPid : ℕ)
  | dating
  | reclaiming
  | deleting
  | waiting
  | finished
  | timedOut
  | failed
deriving DecidableEq

/-- One call of `withRuntimeConvergeLock`; `made` is the directory of its last mkdir. -/
structure Contender where
  phase : Phase := .idle
  startedAt : ℕ := 0
  made : ℕ := 0
  madeAt : ℕ := 0

structure Setup (κ : Type) where
  pid : κ → ℕ
  timeoutMs : ℕ

structure World (κ : Type) where
  lock : Option Directory
  nextInode : ℕ
  clock : ℕ
  alive : ℕ → Bool
  contenders : κ → Contender

/-- `fail` makes the next call of an owner write throw; `left` says that a failed write has left
its temporary file. -/
inductive Action (κ : Type) where
  | start (c : κ)
  | advance (c : κ)
  | fail (c : κ) (left : Bool)
  | crash (pid : ℕ)
  | tick (ms : ℕ)

def readOwnerPid (lock : Option Directory) : Option ℕ := (lock.bind Directory.owner).map LockOwner.pid
def Directory.fresh (inode clock : ℕ) : Directory := ⟨inode, none, [], clock⟩

variable (dir : Directory) (owner : LockOwner) (clock : ℕ)

def Directory.stage : Directory :=
  { dir with temporaries := owner :: dir.temporaries, mtimeMs := clock }

def Directory.install : Directory :=
  { dir with
    owner := some owner
    temporaries := dir.temporaries.erase owner
    mtimeMs := clock }

def Directory.unstage : Directory :=
  if owner ∈ dir.temporaries then
    { dir with temporaries := dir.temporaries.erase owner, mtimeMs := clock }
  else dir

def Directory.Stale (timeoutMs clock : ℕ) (alive : ℕ → Bool) (dir : Directory) : Prop :=
  match dir.owner with
  | none => 2 * timeoutMs < clock - dir.mtimeMs
  | some owner => alive owner.pid = false

instance (timeoutMs clock : ℕ) (alive : ℕ → Bool) (dir : Directory) :
    Decidable (dir.Stale timeoutMs clock alive) := by
  unfold Directory.Stale
  cases dir.owner <;> infer_instance

variable {κ : Type} (setup : Setup κ) (w : World κ)

def Setup.ownerOf (c : κ) (acquiredAt : ℕ) : LockOwner := ⟨setup.pid c, acquiredAt⟩

def turn (c : κ) (nextInode clock : ℕ) (alive : ℕ → Bool) (lock : Option Directory) (k : Contender) :
    Option Directory × Contender :=
  match k.phase with
  | .idle | .finished | .timedOut | .failed => (lock, k)
  | .creating =>
    match lock with
    | none => (some (.fresh nextInode clock),
        { k with phase := .staging, made := nextInode, madeAt := clock })
    | some _ => (lock, { k with phase := .observing })
  | .staging =>
    match lock with
    | none => (none, { k with phase := .unstaging clock })
    | some dir => (some (dir.stage (setup.ownerOf c clock) clock),
        { k with phase := .installing clock })
  | .installing acquiredAt =>
    match lock with
    | none => (none, { k with phase := .unstaging acquiredAt })
    | some dir =>
      if setup.ownerOf c acquiredAt ∈ dir.temporaries then
        (some (dir.install (setup.ownerOf c acquiredAt) clock), { k with phase := .critical })
      else (lock, { k with phase := .unstaging acquiredAt })
  | .unstaging acquiredAt => (lock.map (·.unstage (setup.ownerOf c acquiredAt) clock), { k with phase := .undoing })
  | .undoing => (none, { k with phase := .failed })
  | .critical => (lock, { k with phase := .removing })
  | .removing => (none, { k with phase := .finished })
  | .observing =>
    match readOwnerPid lock with
    | some ownerPid => (lock, { k with phase := .probing ownerPid })
    | none => (lock, { k with phase := .dating })
  | .probing ownerPid =>
    if alive ownerPid then (lock, { k with phase := .waiting })
    else (lock, { k with phase := .reclaiming })
  | .dating =>
    match lock with
    | none => (none, { k with phase := .creating })
    | some dir =>
      if clock - dir.mtimeMs ≤ 2 * setup.timeoutMs then (lock, { k with phase := .waiting })
      else (lock, { k with phase := .reclaiming })
  | .reclaiming =>
    match lock with
    | none => (none, { k with phase := .creating })
    -- what was moved to the private path is deleted without another look
    | some _ => (none, { k with phase := .deleting })
  | .deleting => (lock, { k with phase := .creating })
  | .waiting =>
    if setup.timeoutMs < clock - k.startedAt then (lock, { k with phase := .timedOut })
    else (lock, { k with phase := .creating })

def failedWrite (c : κ) (clock : ℕ) (left : Bool) (lock : Option Directory) (k : Contender) :
    Option Directory × Contender :=
  match k.phase with
  | .staging =>
    (if left then lock.map (·.stage (setup.ownerOf c clock) clock) else lock, { k with phase := .unstaging clock })
  | .installing acquiredAt => (lock, { k with phase := .unstaging acquiredAt })
  | _ => (lock, k)

variable [DecidableEq κ]
namespace World

def put (w : World κ) (c : κ) (changed : Option Directory × Contender) : World κ :=
  { w with
    lock := changed.1
    nextInode := w.nextInode + 1
    contenders := Function.update w.contenders c changed.2 }

def live (setup : Setup κ) (w : World κ) (c : κ) : Bool := w.alive (setup.pid c)

end World

def step (setup : Setup κ) (w : World κ) : Action κ → World κ
  | .start c =>
    if w.live setup c ∧ (w.contenders c).phase = .idle then
      w.put c (w.lock, { w.contenders c with phase := .creating, startedAt := w.clock })
    else w
  | .advance c =>
    if w.live setup c then
      w.put c (turn setup c w.nextInode w.clock w.alive w.lock (w.contenders c))
    else w
  | .fail c left =>
    if w.live setup c then
      w.put c (failedWrite setup c w.clock left w.lock (w.contenders c))
    else w
  | .crash pid => { w with alive := Function.update w.alive pid false }
  | .tick ms => { w with clock := w.clock + ms }

/-- Nobody has called `withRuntimeConvergeLock` yet; earlier processes may have left a lock. -/
def Initial : Prop := ∀ c, w.contenders c = {}

/-- Between its mkdir and the rename or removal that ends it. -/
def Phase.Making : Phase → Prop
  | .staging | .installing _ | .unstaging _ | .undoing => True
  | _ => False

instance (phase : Phase) : Decidable phase.Making := by
  cases phase <;> unfold Phase.Making <;> infer_instance

/-- No live process pauses longer than `2 * timeoutMs` between its mkdir and its owner write. -/
def Unpaused : Action κ → Prop
  | .tick ms => ∀ c, w.live setup c → (w.contenders c).phase.Making →
      w.clock + ms ≤ (w.contenders c).madeAt + 2 * setup.timeoutMs
  | _ => True

def Undisturbed : Action κ → Prop
  | .advance c => (w.contenders c).phase = .reclaiming →
      ∀ dir ∈ w.lock, dir.Stale setup.timeoutMs w.clock w.alive
  | _ => True

structure Exclusive : Prop where
  exclusive : ∀ c alt, w.live setup c → w.live setup alt →
    (w.contenders c).phase = .critical → (w.contenders alt).phase = .critical → c = alt
  ownRemoval : ∀ c, w.live setup c → (w.contenders c).phase = .removing ∨ (w.contenders c).phase = .undoing →
    ∀ dir ∈ w.lock, dir.inode = (w.contenders c).made

open Function
variable {κ : Type} {setup : Setup κ} {c : κ} {nextInode clock : ℕ} {alive : ℕ → Bool}
  {lock : Option Directory} {k : Contender}

def Phase.Keeping : Phase → Prop
  | .staging | .installing _ | .unstaging _ | .undoing | .critical | .removing => True
  | _ => False

/-- A contender's own directory while it is without its owner record, too young to be stale. -/
structure Young (setup : Setup κ) (clock : ℕ) (k : Contender) (dir : Directory) : Prop where
  own : dir.inode = k.made
  ownerless : dir.owner = none
  since : k.madeAt ≤ dir.mtimeMs
  past : k.madeAt ≤ clock
  unpaused : clock ≤ k.madeAt + 2 * setup.timeoutMs

structure Owned (setup : Setup κ) (c : κ) (k : Contender) (dir : Directory) : Prop where
  own : dir.inode = k.made
  recorded : ∃ acquiredAt, dir.owner = some (setup.ownerOf c acquiredAt)

def Kept (setup : Setup κ) (c : κ) (clock : ℕ) (lock : Option Directory) (k : Contender) : Prop :=
  match k.phase with
  | .staging | .unstaging _ | .undoing => ∃ dir, lock = some dir ∧ Young setup clock k dir
  | .installing acquiredAt => ∃ dir, lock = some dir ∧
      Young setup clock k dir ∧ setup.ownerOf c acquiredAt ∈ dir.temporaries
  | .critical | .removing => ∃ dir, lock = some dir ∧ Owned setup c k dir
  | _ => True

lemma Young.fresh {k : Contender} (made : k.made = nextInode) (madeAt : k.madeAt = clock) :
    Young setup clock k (.fresh nextInode clock) := by
  constructor
  · exact made.symm
  · rfl
  · exact madeAt.le
  · exact madeAt.le
  · omega

variable {left : Bool} {dir : Directory}

lemma Young.stage (young : Young setup clock k dir) (owner : LockOwner) :
    Young setup clock k (dir.stage owner clock) :=
  ⟨young.own, young.ownerless, young.past, young.past, young.unpaused⟩

lemma Young.unstage (young : Young setup clock k dir) (owner : LockOwner) :
    Young setup clock k (dir.unstage owner clock) := by
  unfold Directory.unstage
  split
  · exact ⟨young.own, young.ownerless, young.past, young.past, young.unpaused⟩
  · exact young

lemma Young.install (young : Young setup clock k dir) (acquiredAt : ℕ) :
    Owned setup c k (dir.install (setup.ownerOf c acquiredAt) clock) :=
  ⟨young.own, acquiredAt, rfl⟩

lemma Young.not_stale (young : Young setup clock k dir) : ¬dir.Stale setup.timeoutMs clock alive := by
  have since := young.since
  have unpaused := young.unpaused
  unfold Directory.Stale
  rw [young.ownerless]
  show ¬2 * setup.timeoutMs < clock - dir.mtimeMs
  omega

lemma Owned.not_stale (owned : Owned setup c k dir) (live : alive (setup.pid c) = true) :
    ¬dir.Stale setup.timeoutMs clock alive := by
  obtain ⟨acquiredAt, noted⟩ := owned.recorded
  unfold Directory.Stale
  rw [noted]
  show ¬alive (setup.pid c) = false
  rw [live]
  decide

lemma Kept.directory (alive : ℕ → Bool) (kept : Kept setup c clock lock k) (keeping : k.phase.Keeping) :
    ∃ dir, lock = some dir ∧ dir.inode = k.made ∧
      (alive (setup.pid c) = true → ¬dir.Stale setup.timeoutMs clock alive) := by
  have of_young : (∃ dir, lock = some dir ∧ Young setup clock k dir) → ∃ dir, lock = some dir ∧ dir.inode = k.made ∧
        (alive (setup.pid c) = true → ¬dir.Stale setup.timeoutMs clock alive) := by
    intro held
    obtain ⟨dir, there, young⟩ := held
    exact ⟨dir, there, young.own, fun _ => young.not_stale⟩
  have of_owned : (∃ dir, lock = some dir ∧ Owned setup c k dir) → ∃ dir, lock = some dir ∧ dir.inode = k.made ∧
        (alive (setup.pid c) = true → ¬dir.Stale setup.timeoutMs clock alive) := by
    intro held
    obtain ⟨dir, there, owned⟩ := held
    exact ⟨dir, there, owned.own, owned.not_stale⟩
  unfold Kept at kept
  cases phase : k.phase <;> simp only [phase, Phase.Keeping] at kept keeping
  case staging | unstaging | undoing => exact of_young kept
  case installing =>
    obtain ⟨dir, there, young, -⟩ := kept
    exact of_young ⟨dir, there, young⟩
  case critical | removing => exact of_owned kept

lemma turn_free (free : ¬k.phase.Keeping) (done : k.phase ≠ .reclaiming)
    (there : lock = some dir) : (turn setup c nextInode clock alive lock k).1 = lock ∧
      ¬(turn setup c nextInode clock alive lock k).2.phase.Keeping := by
  subst there
  cases phase : k.phase <;> simp only [phase, turn, Phase.Keeping, not_true] at free ⊢
  case idle | creating | finished | timedOut | failed | deleting => simp
  case observing => cases hit : readOwnerPid (some dir) <;> simp
  case probing ownerPid => cases alive ownerPid <;> simp
  case dating => by_cases young : clock - dir.mtimeMs ≤ 2 * setup.timeoutMs <;> simp [young]
  case reclaiming => exact absurd phase done
  case waiting => by_cases expired : setup.timeoutMs < clock - k.startedAt <;> simp [expired]

lemma turn_kept (kept : Kept setup c clock lock k) :
    Kept setup c clock (turn setup c nextInode clock alive lock k).1
      (turn setup c nextInode clock alive lock k).2 := by
  unfold Kept at kept
  cases phase : k.phase <;> simp only [phase, turn] at kept ⊢
  case idle | finished | timedOut | failed => simp [Kept, phase]
  case creating =>
    cases lock with
    | none => exact ⟨_, rfl, .fresh rfl rfl⟩
    | some dir => exact trivial
  case staging =>
    obtain ⟨dir, there, young⟩ := kept
    rw [there]
    have staged := young.stage (setup.ownerOf c clock)
    exact ⟨_, rfl, ⟨staged.own, staged.ownerless, staged.since, staged.past, staged.unpaused⟩, List.mem_cons_self⟩
  case installing acquiredAt =>
    obtain ⟨dir, there, young, staged⟩ := kept
    simp only [there, staged, if_true]
    have owned : Owned setup c k _ := young.install acquiredAt
    exact ⟨_, rfl, owned.own, owned.recorded⟩
  case unstaging acquiredAt =>
    obtain ⟨dir, there, young⟩ := kept
    rw [there]
    have unstaged := young.unstage (setup.ownerOf c acquiredAt)
    exact ⟨_, rfl, unstaged.own, unstaged.ownerless, unstaged.since, unstaged.past, unstaged.unpaused⟩
  case undoing | removing | deleting => exact trivial
  case critical =>
    obtain ⟨dir, there, owned⟩ := kept
    exact ⟨dir, there, owned.own, owned.recorded⟩
  case observing => cases hit : readOwnerPid lock <;> exact trivial
  case probing ownerPid => by_cases lives : alive ownerPid <;> simp [lives, Kept]
  case dating =>
    cases lock with
    | none => exact trivial
    | some dir => by_cases young : clock - dir.mtimeMs ≤ 2 * setup.timeoutMs <;> simp [young, Kept]
  case reclaiming => cases lock <;> exact trivial
  case waiting =>
    by_cases expired : setup.timeoutMs < clock - k.startedAt <;> simp [expired, Kept]

lemma failedWrite_kept (kept : Kept setup c clock lock k) :
    Kept setup c clock (failedWrite setup c clock left lock k).1 (failedWrite setup c clock left lock k).2 := by
  have unchanged := kept
  unfold Kept at kept
  unfold failedWrite
  cases phase : k.phase <;> simp only [phase] at kept ⊢
  case staging =>
    obtain ⟨dir, there, young⟩ := kept
    rw [there]
    have staged := young.stage (setup.ownerOf c clock)
    cases left with
    | false => exact ⟨dir, rfl, young.own, young.ownerless, young.since, young.past,
        young.unpaused⟩
    | true => exact ⟨_, rfl, staged.own, staged.ownerless, staged.since, staged.past,
        staged.unpaused⟩
  case installing =>
    obtain ⟨dir, there, young, -⟩ := kept
    exact ⟨dir, there, young.own, young.ownerless, young.since, young.past, young.unpaused⟩
  all_goals exact unchanged

lemma failedWrite_free (free : ¬k.phase.Keeping) : (failedWrite setup c clock left lock k).1 = lock ∧
      ¬(failedWrite setup c clock left lock k).2.phase.Keeping := by
  unfold failedWrite
  cases phase : k.phase <;> simp only [phase, Phase.Keeping, not_true, not_false_iff] at free ⊢
  all_goals exact ⟨trivial, trivial⟩

lemma Kept.later (kept : Kept setup c clock lock k) {after : ℕ} (later : clock ≤ after)
    (unpaused : k.phase.Making → after ≤ k.madeAt + 2 * setup.timeoutMs) : Kept setup c after lock k := by
  have young_later : k.phase.Making → ∀ dir, Young setup clock k dir →
      Young setup after k dir := by
    intro making dir young
    exact ⟨young.own, young.ownerless, young.since, young.past.trans later, unpaused making⟩
  unfold Kept at kept ⊢
  cases phase : k.phase <;> simp only [phase, Phase.Making, forall_const] at kept young_later ⊢
  case staging | unstaging | undoing =>
    obtain ⟨dir, there, young⟩ := kept
    exact ⟨dir, there, young_later dir young⟩
  case installing =>
    obtain ⟨dir, there, young, staged⟩ := kept
    exact ⟨dir, there, young_later dir young, staged⟩
  case critical | removing => exact kept

structure Sound (setup : Setup κ) (w : World κ) : Prop where
  kept : ∀ c, w.live setup c → Kept setup c w.clock w.lock (w.contenders c)
  single : ∀ c alt, w.live setup c → w.live setup alt →
    (w.contenders c).phase.Keeping → (w.contenders alt).phase.Keeping → c = alt

namespace Sound
variable {w : World κ}

lemma start (init : Initial w) : Sound setup w := by
  constructor
  · intro c _
    rw [init c]
    exact trivial
  · intro c alt _ _ keeping
    rw [init c] at keeping
    exact absurd keeping id

lemma later (inv : Sound setup w) {ms : ℕ} (unpaused : Unpaused setup w (.tick ms)) :
    Sound setup { w with clock := w.clock + ms } := by
  constructor
  · intro c live
    exact (inv.kept c live).later (Nat.le_add_right _ _) (unpaused c live)
  · exact inv.single

lemma fewer (inv : Sound setup w) (pid : ℕ) :
    Sound setup { w with alive := Function.update w.alive pid false } := by
  have lived : ∀ c, Function.update w.alive pid false (setup.pid c) = true →
      w.live setup c = true := by
    intro c live
    by_cases same : setup.pid c = pid
    · rw [same, update_self] at live
      cases live
    · rwa [update_of_ne same] at live
  constructor
  · intro c live
    exact inv.kept c (lived c live)
  · intro c alt live liveOther
    exact inv.single c alt (lived c live) (lived alt liveOther)

lemma turn_other (inv : Sound setup w) (live : w.live setup c)
    (undisturbed : Undisturbed setup w (.advance c)) {alt} (ne : alt ≠ c)
    (liveOther : w.live setup alt) (keeping : (w.contenders alt).phase.Keeping) :
    (turn setup c w.nextInode w.clock w.alive w.lock (w.contenders c)).1 = w.lock ∧
      ¬(turn setup c w.nextInode w.clock w.alive w.lock (w.contenders c)).2.phase.Keeping := by
  obtain ⟨dir, there, -, young⟩ := (inv.kept alt liveOther).directory w.alive keeping
  have free : ¬(w.contenders c).phase.Keeping := by
    intro keeps
    exact ne (inv.single alt c liveOther live keeping keeps)
  have done : (w.contenders c).phase ≠ .reclaiming := by
    intro reclaiming
    exact young liveOther (undisturbed reclaiming dir there)
  exact turn_free free done there

lemma exclusive (inv : Sound setup w) : Exclusive setup w := by
  constructor
  · intro c alt live liveOther critical criticalOther
    apply inv.single c alt live liveOther
    · rw [critical]
      exact trivial
    · rw [criticalOther]
      exact trivial
  · intro c live removes dir there
    have keeping : (w.contenders c).phase.Keeping := by
      rcases removes with phase | phase <;> rw [phase] <;> exact trivial
    obtain ⟨own, same, made, -⟩ := (inv.kept c live).directory w.alive keeping
    have it : dir = own := Option.some.inj (there.symm.trans same)
    rw [it, made]

variable [DecidableEq κ]

lemma put (inv : Sound setup w) {changed : Option Directory × Contender}
    (kept : Kept setup c w.clock changed.1 changed.2) (others : ∀ alt, alt ≠ c → w.live setup alt →
      (w.contenders alt).phase.Keeping → changed.1 = w.lock ∧ ¬changed.2.phase.Keeping) :
    Sound setup (w.put c changed) := by
  have same : (w.put c changed).contenders c = changed.2 := update_self ..
  have different : ∀ alt, alt ≠ c →
      (w.put c changed).contenders alt = w.contenders alt := by
    intro alt ne
    exact update_of_ne ne ..
  constructor
  · intro alt live
    by_cases it : alt = c
    · subst it
      rw [same]
      exact kept
    · rw [different alt it]
      show Kept setup alt w.clock changed.1 (w.contenders alt)
      by_cases keeping : (w.contenders alt).phase.Keeping
      · rw [(others alt it live keeping).1]
        exact inv.kept alt live
      · unfold Kept
        cases phase : (w.contenders alt).phase <;>
          simp only [phase, Phase.Keeping, not_true] at keeping ⊢
  · intro one alt liveOne liveOther keepsOne keepsOther
    by_cases isOne : one = c <;> by_cases isOther : alt = c
    · rw [isOne, isOther]
    · rw [isOne, same] at keepsOne
      rw [different alt isOther] at keepsOther
      exact absurd keepsOne (others alt isOther liveOther keepsOther).2
    · rw [isOther, same] at keepsOther
      rw [different one isOne] at keepsOne
      exact absurd keepsOther (others one isOne liveOne keepsOne).2
    · rw [different one isOne] at keepsOne
      rw [different alt isOther] at keepsOther
      exact inv.single one alt liveOne liveOther keepsOne keepsOther

lemma step (inv : Sound setup w) {act} (unpaused : Unpaused setup w act)
    (undisturbed : Undisturbed setup w act) : Sound setup (ConvergeLock.step setup w act) := by
  cases act with
  | start c =>
    by_cases starts : w.live setup c ∧ (w.contenders c).phase = .idle
    · rw [ConvergeLock.step, if_pos starts]
      apply inv.put
      · exact trivial
      · intro alt _ _ _
        exact ⟨rfl, id⟩
    · rw [ConvergeLock.step, if_neg starts]
      exact inv
  | advance c =>
    by_cases live : w.live setup c
    · rw [ConvergeLock.step, if_pos live]
      apply inv.put
      · exact turn_kept (inv.kept c live)
      · intro alt ne liveOther keeping
        exact inv.turn_other live undisturbed ne liveOther keeping
    · rw [ConvergeLock.step, if_neg live]
      exact inv
  | fail c left =>
    by_cases live : w.live setup c
    · rw [ConvergeLock.step, if_pos live]
      apply inv.put
      · exact failedWrite_kept (inv.kept c live)
      · intro alt ne liveOther keeping
        apply failedWrite_free
        intro keeps
        exact ne (inv.single alt c liveOther live keeping keeps)
    · rw [ConvergeLock.step, if_neg live]
      exact inv
  | crash pid => exact inv.fewer pid
  | tick ms => exact inv.later unpaused

end Sound

variable [DecidableEq κ]

/-- Where every reclaimer renames a directory that is still stale, the lock excludes. -/
theorem converge_lock_excludes (setup : Setup κ) {start : World κ} (init : Initial start)
    {acts : List (Action κ)} (always : Transition.Always (step setup)
      (fun w act => Unpaused setup w act ∧ Undisturbed setup w act) start acts) :
    Exclusive setup (Transition.run (step setup) start acts) := by
  have inv : Sound setup (Transition.run (step setup) start acts) :=
    @Transition.Always.invariant _ _ (step setup) _ (Sound setup)
      (fun _ _ inv guard => inv.step guard.1 guard.2) _ (Sound.start init) _ always
  exact inv.exclusive

section

def twoProcesses : Setup (Fin 2) where
  pid c := c.val + 1
  timeoutMs := 300000

def leftBehind : World (Fin 2) where
  lock := some ⟨0, some ⟨9, 10⟩, [], 10⟩
  nextInode := 1
  clock := 100
  alive pid := pid ≠ 9
  contenders _ := {}

instance (w : World (Fin 2)) (act : Action (Fin 2)) : Decidable (Unpaused twoProcesses w act) := by
  cases act <;> unfold Unpaused <;> infer_instance

instance (w : World (Fin 2)) (act : Action (Fin 2)) : Decidable (Undisturbed twoProcesses w act) := by
  cases act <;> unfold Undisturbed <;> infer_instance

def turns (c : Fin 2) (count : ℕ) : List (Action (Fin 2)) := List.replicate count (.advance c)
def observes (c : Fin 2) : List (Action (Fin 2)) := .start c :: turns c 3
def takesOver (c : Fin 2) : List (Action (Fin 2)) := observes c ++ turns c 5

/-- Both observe the dead owner, and the first moves the directory of the second away. -/
def overtaken : List (Action (Fin 2)) := observes 0 ++ takesOver 1 ++ turns 0 5

theorem converge_lock_excludes_takeover :
    Exclusive twoProcesses (Transition.run (step twoProcesses) leftBehind (takesOver 1)) := by
  have init : Initial leftBehind := fun _ => rfl
  apply converge_lock_excludes twoProcesses init
  decide +kernel

/-- Without that, both processes are in their critical sections. -/
theorem overtaken_converge_lock_shared : ¬∀ (start : World (Fin 2)) (acts : List (Action (Fin 2))), Initial start →
      Transition.Always (step twoProcesses) (Unpaused twoProcesses) start acts →
      Exclusive twoProcesses (Transition.run (step twoProcesses) start acts) := by
  intro claimed
  have exclusive := claimed leftBehind overtaken (fun _ => rfl) (by decide +kernel)
  have same := exclusive.exclusive 0 1 (by decide +kernel) (by decide +kernel)
    (by decide +kernel) (by decide +kernel)
  cases same

end
end Clawdi.ConvergeLock
