import Clawdi.Lib.Transition
import Mathlib.Logic.Function.Basic

namespace Clawdi.PrivateLock

structure LockOwner where
  pid : ℕ
  acquiredAt : ℕ
  token : String
deriving DecidableEq

/-- A lock directory; `temporaries` are the owner records that wait for their rename to
`owner.json`. -/
structure Directory where
  owner : Option LockOwner
  temporaries : List LockOwner
  mtimeMs : ℕ

inductive StaleObservation where
  | owner (owner : LockOwner)
  | ownerless (mtimeMs : ℕ)
deriving DecidableEq

inductive Phase where
  | idle
  | creating
  | ensuring
  | staging (acquiredAt : ℕ)
  | installing (acquiredAt : ℕ)
  | unstaging (acquiredAt : ℕ)
  | undoing
  | checking
  | critical
  | releasing
  | removing
  | observing
  | probing (owner : LockOwner)
  | dating
  | reclaiming (obs : StaleObservation)
  | matching (obs : StaleObservation)
  | matchingTime (mtimeMs : ℕ)
  | restoring
  | deleting
  | waiting
  | finished
  | timedOut
  | failed
deriving DecidableEq

/-- One call of `withPrivateDirectoryLock`, with what it has at its own stale path. -/
structure Contender where
  phase : Phase := .idle
  startedAt : ℕ := 0
  madeAt : ℕ := 0
  stale : Option Directory := none
  refused : Bool := false

structure Setup (κ : Type) where
  pid : κ → ℕ
  token : κ → String
  timeoutMs : κ → ℕ
  staleMs : ℕ
  distinct : Function.Injective token

structure World (κ : Type) where
  lock : Option Directory
  clock : ℕ
  alive : ℕ → Bool
  contenders : κ → Contender

inductive Action (κ : Type) where
  | start (c : κ)
  | advance (c : κ)
  | assertOwned (c : κ)
  | crash (pid : ℕ)
  | tick (ms : ℕ)

def readOwner (lock : Option Directory) : Option LockOwner := lock.bind Directory.owner
def Directory.fresh (clock : ℕ) : Directory := ⟨none, [], clock⟩
def Directory.empty (dir : Directory) : Bool := dir.owner.isNone && dir.temporaries.isEmpty

def Directory.stage (dir : Directory) (owner : LockOwner) (clock : ℕ) : Directory :=
  { dir with temporaries := owner :: dir.temporaries, mtimeMs := clock }

def Directory.install (dir : Directory) (owner : LockOwner) (clock : ℕ) : Directory :=
  ⟨some owner, dir.temporaries.erase owner, clock⟩

def Directory.unstage (dir : Directory) (owner : LockOwner) (clock : ℕ) : Directory :=
  if owner ∈ dir.temporaries then
    { dir with temporaries := dir.temporaries.erase owner, mtimeMs := clock }
  else dir

def Directory.Matches (dir : Directory) : StaleObservation → Prop
  | .owner obs => dir.owner = some obs
  | .ownerless mtimeMs => dir.owner = none ∧ dir.mtimeMs = mtimeMs

instance (dir : Directory) (obs : StaleObservation) : Decidable (dir.Matches obs) := by
  cases obs <;> unfold Directory.Matches <;> infer_instance

namespace Setup
variable {κ : Type} (setup : Setup κ)

def ownerOf (c : κ) (acquiredAt : ℕ) : LockOwner := ⟨setup.pid c, acquiredAt, setup.token c⟩
def owns (c : κ) (lock : Option Directory) : Bool := (readOwner lock).map LockOwner.token == some (setup.token c)

end Setup

def turn {κ : Type} (setup : Setup κ) (c : κ) (clock : ℕ) (alive : ℕ → Bool)
    (lock : Option Directory) (k : Contender) : Option Directory × Contender :=
  match k.phase with
  | .idle | .finished | .timedOut | .failed => (lock, k)
  | .creating =>
    match lock with
    | none => (some (.fresh clock), { k with phase := .ensuring, madeAt := clock })
    | some _ => (lock, { k with phase := .observing })
  | .ensuring => (some (lock.getD (.fresh clock)), { k with phase := .staging clock })
  | .staging acquiredAt =>
    match lock with
    | none => (none, { k with phase := .unstaging acquiredAt })
    | some dir => (some (dir.stage (setup.ownerOf c acquiredAt) clock),
        { k with phase := .installing acquiredAt })
  | .installing acquiredAt =>
    match lock with
    | none => (none, { k with phase := .unstaging acquiredAt })
    | some dir =>
      if setup.ownerOf c acquiredAt ∈ dir.temporaries then
        (some (dir.install (setup.ownerOf c acquiredAt) clock), { k with phase := .checking })
      else (lock, { k with phase := .unstaging acquiredAt })
  | .unstaging acquiredAt => (lock.map (·.unstage (setup.ownerOf c acquiredAt) clock), { k with phase := .undoing })
  | .undoing => (none, { k with phase := .failed })
  | .checking =>
    if setup.owns c lock then (lock, { k with phase := .critical })
    else (lock, { k with phase := .releasing, refused := true })
  | .critical => (lock, { k with phase := .releasing })
  | .releasing =>
    if setup.owns c lock then (lock, { k with phase := .removing })
    else (lock, { k with phase := .finished })
  | .removing => (none, { k with phase := .finished })
  | .observing =>
    match readOwner lock with
    | some owner => (lock, { k with phase := .probing owner })
    | none => (lock, { k with phase := .dating })
  | .probing owner =>
    if alive owner.pid then (lock, { k with phase := .waiting })
    else (lock, { k with phase := .reclaiming (.owner owner) })
  | .dating =>
    match lock with
    | none => (none, { k with phase := .reclaiming (.ownerless 0) })
    | some dir =>
      if setup.staleMs < clock - dir.mtimeMs then
        (lock, { k with phase := .reclaiming (.ownerless dir.mtimeMs) })
      else (lock, { k with phase := .waiting })
  | .reclaiming obs =>
    match lock with
    | none => (none, { k with phase := .creating })
    | some dir => (none, { k with phase := .matching obs, stale := some dir })
  | .matching (.owner obs) =>
    if readOwner k.stale = some obs then (lock, { k with phase := .deleting })
    else (lock, { k with phase := .restoring })
  | .matching (.ownerless mtimeMs) =>
    if readOwner k.stale = none then (lock, { k with phase := .matchingTime mtimeMs })
    else (lock, { k with phase := .restoring })
  | .matchingTime mtimeMs =>
    if k.stale.map Directory.mtimeMs = some mtimeMs then (lock, { k with phase := .deleting })
    else (lock, { k with phase := .restoring })
  | .restoring =>
    match lock with
    | none => (k.stale, { k with phase := .waiting, stale := none })
    | some dir =>
      if dir.empty then (k.stale, { k with phase := .waiting, stale := none })
      -- ENOTEMPTY, which the handler of EEXIST lets through
      else (lock, { k with phase := .failed })
  | .deleting => (lock, { k with phase := .creating, stale := none })
  | .waiting =>
    if setup.timeoutMs c ≤ clock - k.startedAt then (lock, { k with phase := .timedOut })
    else (lock, { k with phase := .creating })

variable {κ : Type} [DecidableEq κ]
namespace World

def put (w : World κ) (c : κ) (changed : Option Directory × Contender) : World κ :=
  { w with lock := changed.1, contenders := Function.update w.contenders c changed.2 }

def live (setup : Setup κ) (w : World κ) (c : κ) : Bool := w.alive (setup.pid c)

end World

def step (setup : Setup κ) (w : World κ) : Action κ → World κ
  | .start c =>
    if w.live setup c ∧ (w.contenders c).phase = .idle then
      w.put c (w.lock, { w.contenders c with phase := .creating, startedAt := w.clock })
    else w
  | .advance c => if w.live setup c then w.put c (turn setup c w.clock w.alive w.lock (w.contenders c)) else w
  | .assertOwned c =>
    if w.live setup c ∧ (w.contenders c).phase = .critical ∧ ¬setup.owns c w.lock then
      w.put c (w.lock, { w.contenders c with refused := true })
    else w
  | .crash pid => { w with alive := Function.update w.alive pid false }
  | .tick ms => { w with clock := w.clock + ms }

def Initial (w : World κ) : Prop := 0 < w.clock ∧ ∀ c, w.contenders c = {}

def Phase.Making : Phase → Prop
  | .ensuring | .staging _ | .installing _ => True
  | _ => False

instance (phase : Phase) : Decidable phase.Making := by
  cases phase <;> unfold Phase.Making <;> infer_instance

def Phase.Holding : Phase → Prop
  | .checking | .critical => True
  | _ => False

instance (phase : Phase) : Decidable phase.Holding := by
  cases phase <;> unfold Phase.Holding <;> infer_instance

/-- No live process pauses longer than `staleMs` between its mkdir and its owner write. -/
def Unpaused (setup : Setup κ) (w : World κ) : Action κ → Prop
  | .tick ms => ∀ c, w.live setup c → (w.contenders c).phase.Making →
      w.clock + ms ≤ (w.contenders c).madeAt + setup.staleMs
  | _ => True

def Phase.Finds (lock : Option Directory) : Phase → Prop
  | .reclaiming obs => ∀ dir ∈ lock, dir.Matches obs
  | _ => True

instance (lock : Option Directory) (phase : Phase) : Decidable (phase.Finds lock) := by
  cases phase <;> unfold Phase.Finds <;> infer_instance

def Undisturbed (w : World κ) : Action κ → Prop
  | .advance c => (w.contenders c).phase.Finds w.lock
  | _ => True

structure Exclusive (setup : Setup κ) (w : World κ) : Prop where
  exclusive : ∀ c alt, w.live setup c → w.live setup alt →
    (w.contenders c).phase.Holding → (w.contenders alt).phase.Holding → c = alt
  owned : ∀ c, w.live setup c → (w.contenders c).phase.Holding → setup.owns c w.lock
  unrefused : ∀ c, (w.contenders c).refused = false
  unfailed : ∀ c, (w.contenders c).phase ≠ .failed
  ownRelease : ∀ c, w.live setup c → (w.contenders c).phase = .removing → setup.owns c w.lock

variable {κ : Type} {setup : Setup κ} {c : κ} {clock : ℕ} {alive : ℕ → Bool}
  {lock : Option Directory} {k : Contender}

def Stale (setup : Setup κ) (clock : ℕ) (alive : ℕ → Bool) : StaleObservation → Prop
  | .owner owner => alive owner.pid = false
  | .ownerless mtimeMs => mtimeMs = 0 ∨ mtimeMs + setup.staleMs < clock

def RecordsNoLiveOwner (alive : ℕ → Bool) (dir : Option Directory) : Prop :=
  ∀ owner, readOwner dir = some owner → alive owner.pid = false

def Informed (setup : Setup κ) (clock : ℕ) (alive : ℕ → Bool) (k : Contender) : Prop :=
  match k.phase with
  | .reclaiming obs | .matching obs => Stale setup clock alive obs
  | .matchingTime _ => readOwner k.stale = none
  | .deleting => RecordsNoLiveOwner alive k.stale
  | _ => True

lemma Informed.later (informed : Informed setup clock alive k) {after : ℕ}
    {remaining : ℕ → Bool} (later : clock ≤ after)
    (fewer : ∀ pid, alive pid = false → remaining pid = false) : Informed setup after remaining k := by
  have stale : ∀ obs, Stale setup clock alive obs →
      Stale setup after remaining obs := by
    intro obs holds
    cases obs with
    | owner owner => exact fewer _ holds
    | ownerless mtimeMs =>
      rcases holds with zero | old
      · exact .inl zero
      · exact .inr (lt_of_lt_of_le old later)
  unfold Informed at informed ⊢
  cases phase : k.phase <;> simp only [phase] at informed ⊢
  case reclaiming obs => exact stale obs informed
  case matching obs => exact stale obs informed
  case matchingTime => exact informed
  case deleting =>
    intro owner noted
    exact fewer _ (informed owner noted)

lemma turn_informed (informed : Informed setup clock alive k) :
    Informed setup clock alive (turn setup c clock alive lock k).2 := by
  unfold Informed at informed
  cases phase : k.phase <;> simp only [phase, turn] at informed ⊢
  case idle | finished | timedOut | failed => simp [Informed, phase]
  case creating | staging => cases lock <;> exact trivial
  case ensuring | unstaging | undoing | critical | removing | deleting => exact trivial
  case installing acquiredAt =>
    cases lock with
    | none => exact trivial
    | some dir =>
      by_cases staged : setup.ownerOf c acquiredAt ∈ dir.temporaries <;>
        simp only [staged, if_true, if_false] <;> exact trivial
  case checking | releasing => by_cases owns : setup.owns c lock <;> simp [owns, Informed]
  case observing => cases hit : readOwner lock <;> exact trivial
  case probing owner =>
    by_cases lives : alive owner.pid <;> simp [lives, Informed, Stale]
  case dating =>
    cases lock with
    | none => exact .inl rfl
    | some dir =>
      by_cases old : setup.staleMs < clock - dir.mtimeMs
      · simp only [old, if_true]
        exact .inr (by omega)
      · simp only [old, if_false]
        exact trivial
  case reclaiming obs =>
    cases lock with
    | none => exact trivial
    | some dir => exact informed
  case matching obs =>
    cases obs with
    | owner obs =>
      by_cases same : readOwner k.stale = some obs
      · simp only [same, if_true]
        intro owner noted
        have it : obs = owner := Option.some.inj (same.symm.trans noted)
        exact it ▸ informed
      · simp only [same, if_false]
        exact trivial
    | ownerless mtimeMs =>
      by_cases none : readOwner k.stale = none
      · simp only [none, if_true]
        exact none
      · simp only [none, if_false]
        exact trivial
  case matchingTime mtimeMs =>
    by_cases same : k.stale.map Directory.mtimeMs = some mtimeMs
    · simp only [same, if_true]
      intro owner noted
      rw [show readOwner k.stale = none from informed] at noted
      cases noted
    · simp only [same, if_false]
      exact trivial
  case restoring =>
    cases lock with
    | none => exact trivial
    | some dir => by_cases empty : dir.empty <;> simp [empty, Informed]
  case waiting =>
    by_cases expired : setup.timeoutMs c ≤ clock - k.startedAt <;> simp [expired, Informed]

def AllInformed (setup : Setup κ) (w : World κ) : Prop := ∀ c, Informed setup w.clock w.alive (w.contenders c)

lemma AllInformed.start {w} (init : Initial w) : AllInformed setup w := by
  intro c
  rw [init.2 c]
  exact trivial

lemma owns_unique {lock c alt} (mine : setup.owns c lock) (theirs : setup.owns alt lock) : c = alt := by
  apply setup.distinct
  unfold Setup.owns at mine theirs
  rw [beq_iff_eq] at mine theirs
  exact Option.some.inj (mine.symm.trans theirs)

variable [DecidableEq κ] (w : World κ) (changed : Option Directory × Contender)

lemma World.put_contender (c alt : κ) (changed : Option Directory × Contender) :
    (w.put c changed).contenders alt = if alt = c then changed.2 else w.contenders alt := by
  simp [World.put, Function.update_apply]

@[simp] lemma World.put_same (c : κ) (changed : Option Directory × Contender) :
    (w.put c changed).contenders c = changed.2 := by
  rw [World.put_contender, if_pos rfl]

lemma World.put_other {c alt} (ne : alt ≠ c) : (w.put c changed).contenders alt = w.contenders alt := by
  rw [World.put_contender, if_neg ne]

inductive Effect (setup : Setup κ) (w : World κ) : Action κ → World κ → Prop where
  | still (act : Action κ) : Effect setup w act w
  | started (c : κ) (live : w.live setup c = true) (idle : (w.contenders c).phase = .idle) :
    Effect setup w (.start c) (w.put c (w.lock, { w.contenders c with phase := .creating, startedAt := w.clock }))
  | turned (c : κ) (live : w.live setup c = true) :
    Effect setup w (.advance c) (w.put c (turn setup c w.clock w.alive w.lock (w.contenders c)))
  | refused (c : κ) (live : w.live setup c = true)
    (critical : (w.contenders c).phase = .critical) (lost : ¬setup.owns c w.lock) :
    Effect setup w (.assertOwned c) (w.put c (w.lock, { w.contenders c with refused := true }))
  | died (pid : ℕ) :
    Effect setup w (.crash pid) { w with alive := Function.update w.alive pid false }
  | passed (ms : ℕ) :
    Effect setup w (.tick ms) { w with clock := w.clock + ms }

lemma step_effect (setup : Setup κ) (w : World κ) (act : Action κ) : Effect setup w act (step setup w act) := by
  cases act with
  | start c =>
    by_cases starts : w.live setup c ∧ (w.contenders c).phase = .idle
    · rw [step, if_pos starts]
      exact .started c starts.1 starts.2
    · rw [step, if_neg starts]
      exact .still _
  | advance c =>
    by_cases live : w.live setup c
    · rw [step, if_pos live]
      exact .turned c live
    · rw [step, if_neg live]
      exact .still _
  | assertOwned c =>
    by_cases throws : w.live setup c ∧ (w.contenders c).phase = .critical ∧ ¬setup.owns c w.lock
    · rw [step, if_pos throws]
      exact .refused c throws.1 throws.2.1 throws.2.2
    · rw [step, if_neg throws]
      exact .still _
  | crash pid => exact .died pid
  | tick ms => exact .passed ms

lemma crash_fewer (alive : ℕ → Bool) (pid : ℕ) :
    ∀ alt, alive alt = false → Function.update alive pid false alt = false := by
  intro alt dead
  by_cases same : alt = pid
  · rw [same, Function.update_self]
  · rw [Function.update_of_ne same, dead]

lemma AllInformed.put {w} {changed : Option Directory × Contender}
    (pre : AllInformed setup w) (own : Informed setup w.clock w.alive changed.2) :
    AllInformed setup (w.put c changed) := by
  intro alt
  by_cases same : alt = c
  · rw [same, World.put_same]
    exact own
  · rw [World.put_other w changed same]
    exact pre alt

lemma AllInformed.step {w} (pre : AllInformed setup w) (act : Action κ) : AllInformed setup (step setup w act) := by
  have effect := step_effect setup w act
  generalize PrivateLock.step setup w act = after at effect
  cases effect with
  | still => exact pre
  | started c live idle => exact pre.put trivial
  | turned c live => exact pre.put (turn_informed (pre c))
  | refused c live critical lost =>
    apply pre.put
    simp [Informed, critical]
  | died pid =>
    intro c
    exact (pre c).later le_rfl (crash_fewer w.alive pid)
  | passed ms =>
    intro c
    exact (pre c).later (Nat.le_add_right _ _) fun _ dead => dead

lemma reclaims_no_live_owner {start} (init : Initial start) (acts : List (Action κ)) {c}
    (deleting : ((Transition.run (step setup) start acts).contenders c).phase = .deleting) :
    RecordsNoLiveOwner (Transition.run (step setup) start acts).alive
      ((Transition.run (step setup) start acts).contenders c).stale := by
  have informed : AllInformed setup (Transition.run (step setup) start acts) :=
    Transition.run_invariant (fun _ act pre => pre.step act) (.start init) acts
  have own := informed c
  unfold Informed at own
  rw [deleting] at own
  exact own

end Clawdi.PrivateLock
