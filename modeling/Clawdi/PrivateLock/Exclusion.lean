import Clawdi.PrivateLock.Lock
import Mathlib

namespace Clawdi.PrivateLock
variable {κ : Type} {setup : Setup κ} {c : κ} {clock : ℕ} {alive : ℕ → Bool}
  {lock : Option Directory} {k : Contender}

def Phase.Keeping : Phase → Prop
  | .ensuring | .staging _ | .installing _ | .checking | .critical | .releasing | .removing => True
  | _ => False

lemma Phase.Holding.keeping {phase : Phase} (holding : phase.Holding) : phase.Keeping := by
  cases phase <;> first | exact trivial | exact holding

structure Young (setup : Setup κ) (clock : ℕ) (k : Contender) (dir : Directory) : Prop where
  ownerless : dir.owner = none
  made : 0 < k.madeAt
  since : k.madeAt ≤ dir.mtimeMs
  past : k.madeAt ≤ clock
  unpaused : clock ≤ k.madeAt + setup.staleMs

def Recorded (setup : Setup κ) (c : κ) (lock : Option Directory) : Prop :=
  ∃ acquiredAt, readOwner lock = some (setup.ownerOf c acquiredAt)

def Kept (setup : Setup κ) (c : κ) (clock : ℕ) (lock : Option Directory) (k : Contender) : Prop :=
  match k.phase with
  | .ensuring | .staging _ => ∃ dir, lock = some dir ∧ Young setup clock k dir
  | .installing acquiredAt => ∃ dir, lock = some dir ∧
      Young setup clock k dir ∧ setup.ownerOf c acquiredAt ∈ dir.temporaries
  | .checking | .critical | .releasing | .removing => Recorded setup c lock
  | _ => True

def Smooth (k : Contender) : Prop :=
  match k.phase with
  | .matching obs => ∃ dir, k.stale = some dir ∧ dir.Matches obs
  | .matchingTime mtimeMs => ∃ dir, k.stale = some dir ∧ dir.mtimeMs = mtimeMs
  | .unstaging _ | .undoing | .restoring | .failed => False
  | _ => True

lemma Recorded.owns (noted : Recorded setup c lock) : setup.owns c lock := by
  obtain ⟨acquiredAt, hit⟩ := noted
  simp [Setup.owns, hit, Setup.ownerOf]

lemma Kept.recorded (kept : Kept setup c clock lock k) (holding : k.phase.Holding) : Recorded setup c lock := by
  unfold Kept at kept
  cases phase : k.phase <;> simp only [phase, Phase.Holding] at kept holding
  case checking | critical => exact kept

lemma Kept.isSome (kept : Kept setup c clock lock k) (keeping : k.phase.Keeping) : ∃ dir, lock = some dir := by
  have of_recorded : Recorded setup c lock → ∃ dir, lock = some dir := by
    intro noted
    obtain ⟨acquiredAt, hit⟩ := noted
    cases lock with
    | none => cases hit
    | some dir => exact ⟨dir, rfl⟩
  unfold Kept at kept
  cases phase : k.phase <;> simp only [phase, Phase.Keeping] at kept keeping
  case ensuring | staging | installing =>
    obtain ⟨dir, there, -⟩ := kept
    exact ⟨dir, there⟩
  case checking | critical | releasing | removing => exact of_recorded kept

variable {dir : Directory}

lemma Kept.unmatched (kept : Kept setup c clock lock k) (keeping : k.phase.Keeping)
    (live : alive (setup.pid c) = true) {obs} (stale : Stale setup clock alive obs) (there : lock = some dir) :
    ¬dir.Matches obs := by
  have of_young : Young setup clock k dir → ¬dir.Matches obs := by
    intro young same
    cases obs with
    | owner owner =>
      have ownerless := young.ownerless
      rw [show dir.owner = some owner from same] at ownerless
      cases ownerless
    | ownerless mtimeMs =>
      have dated : dir.mtimeMs = mtimeMs := same.2
      have made := young.made
      have since := young.since
      have unpaused := young.unpaused
      rcases stale with zero | old <;> omega
  have of_recorded : Recorded setup c lock → ¬dir.Matches obs := by
    intro noted same
    obtain ⟨acquiredAt, hit⟩ := noted
    rw [there] at hit
    have owner : dir.owner = some (setup.ownerOf c acquiredAt) := hit
    cases obs with
    | owner alt =>
      have it : setup.ownerOf c acquiredAt = alt := Option.some.inj (owner.symm.trans same)
      have dead : alive alt.pid = false := stale
      rw [← it, show (setup.ownerOf c acquiredAt).pid = setup.pid c from rfl, live] at dead
      cases dead
    | ownerless mtimeMs =>
      rw [same.1] at owner
      cases owner
  have young_of : (∃ own, lock = some own ∧ Young setup clock k own) →
      Young setup clock k dir := by
    intro held
    obtain ⟨own, same, young⟩ := held
    have it : own = dir := Option.some.inj (same.symm.trans there)
    exact it ▸ young
  unfold Kept at kept
  cases phase : k.phase <;> simp only [phase, Phase.Keeping] at kept keeping
  case ensuring | staging => exact of_young (young_of kept)
  case installing =>
    obtain ⟨own, same, young, -⟩ := kept
    exact of_young (young_of ⟨own, same, young⟩)
  case checking | critical | releasing | removing => exact of_recorded kept

lemma turn_free (smooth : Smooth k) (free : ¬k.phase.Keeping)
    (done : ∀ obs, k.phase ≠ .reclaiming obs) (there : lock = some dir) :
    (turn setup c clock alive lock k).1 = lock ∧ ¬(turn setup c clock alive lock k).2.phase.Keeping := by
  subst there
  unfold Smooth at smooth
  cases phase : k.phase <;> simp only [phase, turn, Phase.Keeping, not_true] at smooth free ⊢
  case idle | creating | finished | timedOut | deleting => simp
  case observing => cases hit : readOwner (some dir) <;> simp
  case probing owner => cases alive owner.pid <;> simp
  case dating => by_cases old : setup.staleMs < clock - dir.mtimeMs <;> simp [old]
  case reclaiming obs => exact absurd phase (done obs)
  case matching obs =>
    cases obs with
    | owner obs => by_cases same : readOwner k.stale = some obs <;> simp [same]
    | ownerless mtimeMs => by_cases none : readOwner k.stale = none <;> simp [none]
  case matchingTime mtimeMs =>
    by_cases same : k.stale.map Directory.mtimeMs = some mtimeMs <;> simp [same]
  case waiting =>
    by_cases expired : setup.timeoutMs c ≤ clock - k.startedAt <;> simp [expired]

lemma turn_smooth (smooth : Smooth k) (kept : Kept setup c clock lock k) (finds : k.phase.Finds lock) :
    Smooth (turn setup c clock alive lock k).2 := by
  unfold Smooth at smooth
  unfold Kept at kept
  cases phase : k.phase <;> simp only [phase, turn] at smooth kept finds ⊢
  case idle | finished | timedOut => simp [Smooth, phase]
  case creating => cases lock <;> exact trivial
  case ensuring | critical | removing | deleting => exact trivial
  case staging =>
    obtain ⟨dir, there, young⟩ := kept
    rw [there]
    exact trivial
  case installing =>
    obtain ⟨dir, there, young, staged⟩ := kept
    simp only [there, staged, if_true]
    exact trivial
  case checking | releasing => simp [kept.owns, Smooth]
  case observing => cases hit : readOwner lock <;> exact trivial
  case probing owner => by_cases lives : alive owner.pid <;> simp [lives, Smooth]
  case dating =>
    cases lock with
    | none => exact trivial
    | some dir => by_cases old : setup.staleMs < clock - dir.mtimeMs <;> simp [old, Smooth]
  case reclaiming obs =>
    cases lock with
    | none => exact trivial
    | some dir => exact ⟨dir, rfl, finds dir rfl⟩
  case matching obs =>
    obtain ⟨dir, there, same⟩ := smooth
    cases obs with
    | owner obs =>
      have hit : readOwner k.stale = some obs := by
        rw [there]
        exact same
      simp only [hit, if_true]
      exact trivial
    | ownerless mtimeMs =>
      have hit : readOwner k.stale = none := by
        rw [there]
        exact same.1
      simp only [hit, if_true]
      exact ⟨dir, there, same.2⟩
  case matchingTime mtimeMs =>
    obtain ⟨dir, there, same⟩ := smooth
    have hit : k.stale.map Directory.mtimeMs = some mtimeMs := by rw [there, Option.map_some, same]
    simp only [hit, if_true]
    exact trivial
  case waiting =>
    by_cases expired : setup.timeoutMs c ≤ clock - k.startedAt <;> simp [expired, Smooth]

lemma Young.fresh (started : 0 < clock) {k : Contender} (made : k.madeAt = clock) :
    Young setup clock k (.fresh clock) := by
  constructor
  · rfl
  · omega
  · exact made.le
  · exact made.le
  · omega

lemma Young.stage (young : Young setup clock k dir) (owner : LockOwner) {k' : Contender}
    (made : k'.madeAt = k.madeAt) : Young setup clock k' (dir.stage owner clock) := by
  constructor
  · exact young.ownerless
  · exact made ▸ young.made
  · exact made ▸ young.past
  · exact made ▸ young.past
  · exact made ▸ young.unpaused

lemma turn_kept (started : 0 < clock) (kept : Kept setup c clock lock k) :
    Kept setup c clock (turn setup c clock alive lock k).1 (turn setup c clock alive lock k).2 := by
  unfold Kept at kept
  cases phase : k.phase <;> simp only [phase, turn] at kept ⊢
  case idle | finished | timedOut | failed => simp [Kept, phase]
  case creating =>
    cases lock with
    | none => exact ⟨_, rfl, .fresh started rfl⟩
    | some dir => exact trivial
  case ensuring =>
    obtain ⟨dir, there, young⟩ := kept
    rw [there]
    exact ⟨dir, rfl, young.ownerless, young.made, young.since, young.past, young.unpaused⟩
  case staging acquiredAt =>
    obtain ⟨dir, there, young⟩ := kept
    rw [there]
    exact ⟨_, rfl, young.stage _ rfl, List.mem_cons_self⟩
  case installing acquiredAt =>
    obtain ⟨dir, there, young, staged⟩ := kept
    simp only [there, staged, if_true]
    exact ⟨acquiredAt, rfl⟩
  case unstaging | undoing | removing | deleting => exact trivial
  case checking | releasing =>
    simp only [kept.owns, if_true]
    exact kept
  case critical => exact kept
  case observing => cases hit : readOwner lock <;> exact trivial
  case probing owner => by_cases lives : alive owner.pid <;> simp [lives, Kept]
  case dating =>
    cases lock with
    | none => exact trivial
    | some dir => by_cases old : setup.staleMs < clock - dir.mtimeMs <;> simp [old, Kept]
  case reclaiming => cases lock <;> exact trivial
  case matching obs =>
    cases obs with
    | owner obs => by_cases same : readOwner k.stale = some obs <;> simp [same, Kept]
    | ownerless mtimeMs => by_cases none : readOwner k.stale = none <;> simp [none, Kept]
  case matchingTime mtimeMs =>
    by_cases same : k.stale.map Directory.mtimeMs = some mtimeMs <;> simp [same, Kept]
  case restoring =>
    cases lock with
    | none => exact trivial
    | some dir => by_cases empty : dir.empty <;> simp [empty, Kept]
  case waiting =>
    by_cases expired : setup.timeoutMs c ≤ clock - k.startedAt <;> simp [expired, Kept]

lemma turn_refused (kept : Kept setup c clock lock k) (pre : k.refused = false) :
    (turn setup c clock alive lock k).2.refused = false := by
  unfold Kept at kept
  unfold turn
  cases phase : k.phase <;> simp only [phase] at kept ⊢
  case checking =>
    simp only [kept.owns, if_true]
    exact pre
  case matching obs =>
    cases obs with
    | owner obs => by_cases same : readOwner k.stale = some obs <;> simp [same, pre]
    | ownerless mtimeMs => by_cases none : readOwner k.stale = none <;> simp [none, pre]
  all_goals repeat' split
  all_goals exact pre

lemma Kept.later (kept : Kept setup c clock lock k) {after : ℕ} (later : clock ≤ after)
    (unpaused : k.phase.Making → after ≤ k.madeAt + setup.staleMs) : Kept setup c after lock k := by
  have young_later : k.phase.Making → ∀ dir, Young setup clock k dir →
      Young setup after k dir := by
    intro making dir young
    constructor
    · exact young.ownerless
    · exact young.made
    · exact young.since
    · exact young.past.trans later
    · exact unpaused making
  unfold Kept at kept ⊢
  cases phase : k.phase <;> simp only [phase, Phase.Making, forall_const] at kept young_later ⊢
  case ensuring | staging =>
    obtain ⟨dir, there, young⟩ := kept
    exact ⟨dir, there, young_later dir young⟩
  case installing =>
    obtain ⟨dir, there, young, staged⟩ := kept
    exact ⟨dir, there, young_later dir young, staged⟩
  case checking | critical | releasing | removing => exact kept

structure Sound (setup : Setup κ) (w : World κ) : Prop where
  started : 0 < w.clock
  informed : AllInformed setup w
  smooth : ∀ c, Smooth (w.contenders c)
  unrefused : ∀ c, (w.contenders c).refused = false
  kept : ∀ c, w.live setup c → Kept setup c w.clock w.lock (w.contenders c)
  single : ∀ c alt, w.live setup c → w.live setup alt →
    (w.contenders c).phase.Keeping → (w.contenders alt).phase.Keeping → c = alt

namespace Sound
variable {w : World κ}

lemma start (init : Initial w) : Sound setup w := by
  constructor
  · exact init.1
  · exact .start init
  · intro c
    rw [init.2 c]
    exact trivial
  · intro c
    rw [init.2 c]
  · intro c _
    rw [init.2 c]
    exact trivial
  · intro c alt _ _ keeping
    rw [init.2 c] at keeping
    exact absurd keeping id

lemma fewer (inv : Sound setup w) {alive : ℕ → Bool}
    (fewer : ∀ pid, w.alive pid = false → alive pid = false) : Sound setup { w with alive := alive } := by
  have lived : ∀ c, alive (setup.pid c) = true → w.live setup c = true := by
    intro c live
    by_contra dead
    rw [fewer _ (eq_false_of_ne_true dead)] at live
    cases live
  constructor
  · exact inv.started
  · intro c
    exact (inv.informed c).later le_rfl fewer
  · exact inv.smooth
  · exact inv.unrefused
  · intro c live
    exact inv.kept c (lived c live)
  · intro c alt live liveOther
    exact inv.single c alt (lived c live) (lived alt liveOther)

lemma later (inv : Sound setup w) {ms : ℕ} (unpaused : Unpaused setup w (.tick ms)) :
    Sound setup { w with clock := w.clock + ms } := by
  have grows : w.clock ≤ w.clock + ms := Nat.le_add_right _ _
  constructor
  · exact lt_of_lt_of_le inv.started grows
  · intro c
    exact (inv.informed c).later grows fun _ dead => dead
  · exact inv.smooth
  · exact inv.unrefused
  · intro c live
    exact (inv.kept c live).later grows (unpaused c live)
  · exact inv.single

lemma turn_other (inv : Sound setup w) (live : w.live setup c)
    (finds : (w.contenders c).phase.Finds w.lock) {alt} (ne : alt ≠ c)
    (liveOther : w.live setup alt) (keeping : (w.contenders alt).phase.Keeping) :
    (turn setup c w.clock w.alive w.lock (w.contenders c)).1 = w.lock ∧
      ¬(turn setup c w.clock w.alive w.lock (w.contenders c)).2.phase.Keeping := by
  have kept := inv.kept alt liveOther
  obtain ⟨dir, there⟩ := kept.isSome keeping
  have free : ¬(w.contenders c).phase.Keeping := by
    intro keeps
    exact ne (inv.single alt c liveOther live keeping keeps)
  have done : ∀ obs, (w.contenders c).phase ≠ .reclaiming obs := by
    intro obs phase
    have stale := inv.informed c
    unfold Informed at stale
    simp only [phase] at stale finds
    exact kept.unmatched keeping liveOther stale there (finds dir there)
  exact turn_free (inv.smooth c) free done there

lemma exclusive (inv : Sound setup w) : Exclusive setup w := by
  constructor
  · intro c alt live liveOther holding holdingOther
    exact inv.single c alt live liveOther holding.keeping holdingOther.keeping
  · intro c live holding
    exact ((inv.kept c live).recorded holding).owns
  · exact inv.unrefused
  · intro c failed
    have smooth := inv.smooth c
    unfold Smooth at smooth
    rw [failed] at smooth
    exact smooth
  · intro c live removing
    have kept := inv.kept c live
    unfold Kept at kept
    rw [removing] at kept
    exact kept.owns

variable [DecidableEq κ]

lemma put (inv : Sound setup w) {changed : Option Directory × Contender}
    (informed : Informed setup w.clock w.alive changed.2) (smooth : Smooth changed.2)
    (unrefused : changed.2.refused = false) (kept : Kept setup c w.clock changed.1 changed.2)
    (others : ∀ alt, alt ≠ c → w.live setup alt →
      (w.contenders alt).phase.Keeping → changed.1 = w.lock ∧ ¬changed.2.phase.Keeping) :
    Sound setup (w.put c changed) := by
  constructor
  · exact inv.started
  · exact inv.informed.put informed
  · intro alt
    rw [World.put_contender]
    split
    · exact smooth
    · exact inv.smooth alt
  · intro alt
    rw [World.put_contender]
    split
    · exact unrefused
    · exact inv.unrefused alt
  · intro alt live
    by_cases same : alt = c
    · subst same
      rw [World.put_same]
      exact kept
    · rw [World.put_other w changed same]
      by_cases keeping : (w.contenders alt).phase.Keeping
      · have unmoved : changed.1 = w.lock := (others alt same live keeping).1
        show Kept setup alt w.clock changed.1 (w.contenders alt)
        rw [unmoved]
        exact inv.kept alt live
      · show Kept setup alt w.clock changed.1 (w.contenders alt)
        unfold Kept
        cases phase : (w.contenders alt).phase <;>
          simp only [phase, Phase.Keeping, not_true] at keeping ⊢
  · intro one alt liveOne liveOther keepsOne keepsOther
    by_cases isOne : one = c <;> by_cases isOther : alt = c
    · rw [isOne, isOther]
    · rw [isOne, World.put_same] at keepsOne
      rw [World.put_other w changed isOther] at keepsOther
      exact absurd keepsOne (others alt isOther liveOther keepsOther).2
    · rw [isOther, World.put_same] at keepsOther
      rw [World.put_other w changed isOne] at keepsOne
      exact absurd keepsOther (others one isOne liveOne keepsOne).2
    · rw [World.put_other w changed isOne] at keepsOne
      rw [World.put_other w changed isOther] at keepsOther
      exact inv.single one alt liveOne liveOther keepsOne keepsOther

lemma step (inv : Sound setup w) {act} (unpaused : Unpaused setup w act)
    (undisturbed : Undisturbed w act) : Sound setup (step setup w act) := by
  have effect := step_effect setup w act
  generalize PrivateLock.step setup w act = after at effect
  cases effect with
  | still => exact inv
  | started c live idle =>
    apply inv.put
    · exact trivial
    · exact trivial
    · exact inv.unrefused c
    · exact trivial
    · intro alt _ _ _
      exact ⟨rfl, id⟩
  | turned c live =>
    have kept := inv.kept c live
    have finds : (w.contenders c).phase.Finds w.lock := undisturbed
    apply inv.put
    · exact turn_informed (inv.informed c)
    · exact turn_smooth (inv.smooth c) kept finds
    · exact turn_refused kept (inv.unrefused c)
    · exact turn_kept inv.started kept
    · intro alt ne liveOther keeping
      exact inv.turn_other live finds ne liveOther keeping
  | refused c live critical lost =>
    have holding : (w.contenders c).phase.Holding := by
      rw [critical]
      exact trivial
    exact absurd ((inv.kept c live).recorded holding).owns lost
  | died pid => exact inv.fewer (crash_fewer w.alive pid)
  | passed ms => exact inv.later unpaused

end Sound

variable [DecidableEq κ]

/-- Where every reclaimer's rename finds what the reclaimer observed, the lock excludes, a lease
in force is never refused, nobody fails and a release removes the lock of its own contender. -/
theorem lock_excludes (setup : Setup κ) {start : World κ} (init : Initial start)
    (acts : List (Action κ)) : (Transition.Always (step setup)
        (fun w act => Unpaused setup w act ∧ Undisturbed w act) start acts →
      Exclusive setup (Transition.run (step setup) start acts)) ∧
    (∀ c, ((Transition.run (step setup) start acts).contenders c).phase = .deleting →
      ∀ owner, readOwner ((Transition.run (step setup) start acts).contenders c).stale =
        some owner → (Transition.run (step setup) start acts).alive owner.pid = false) ∧
    ∀ c alt, setup.owns c (Transition.run (step setup) start acts).lock →
      setup.owns alt (Transition.run (step setup) start acts).lock → c = alt := by
  refine ⟨?_, ?_, ?_⟩
  · intro always
    have inv : Sound setup (Transition.run (step setup) start acts) :=
      @Transition.Always.invariant _ _ (step setup) _ (Sound setup)
        (fun _ _ inv guard => inv.step guard.1 guard.2) _ (Sound.start init) _ always
    exact inv.exclusive
  · intro c deleting
    exact reclaims_no_live_owner init acts deleting
  · intro c alt mine theirs
    exact owns_unique mine theirs

section

instance (setup : Setup (Fin 3)) (w : World (Fin 3)) (act : Action (Fin 3)) : Decidable (Unpaused setup w act) := by
  cases act <;> unfold Unpaused <;> infer_instance

instance (w : World (Fin 3)) (act : Action (Fin 3)) : Decidable (Undisturbed w act) := by
  cases act <;> unfold Undisturbed <;> infer_instance

local instance threeProcesses_neZero : NeZero 3 := ⟨by decide⟩

def threeProcesses : Setup (Fin 3) where
  pid c := c.val + 1
  token c := if c = 0 then "a" else if c = 1 then "b" else "c"
  timeoutMs _ := 30000
  staleMs := 60000
  distinct := by
    intro c alt
    revert c alt
    decide

def leftBehind : World (Fin 3) where
  lock := some ⟨some ⟨9, 10, "dead"⟩, [], 10⟩
  clock := 100
  alive pid := pid ≠ 9
  contenders _ := {}

def turns (c : Fin 3) (count : ℕ) : List (Action (Fin 3)) := List.replicate count (.advance c)
def observes (c : Fin 3) : List (Action (Fin 3)) := .start c :: turns c 3
def takesOver (c : Fin 3) : List (Action (Fin 3)) := observes c ++ turns c 8

/-- The first process observes the dead owner, the second takes the lock over, the first moves
the second's directory away, the third makes the lock anew and the first cannot put back what
it moved. -/
def overtaken : List (Action (Fin 3)) := observes 0 ++ takesOver 1 ++ turns 0 2 ++ .start 2 :: turns 2 5 ++ turns 0 1

theorem lock_excludes_takeover : Exclusive threeProcesses
      (Transition.run (step threeProcesses) leftBehind (takesOver 1)) ∧
    ((Transition.run (step threeProcesses) leftBehind (takesOver 1)).contenders 1).phase = .critical := by
  constructor
  · have init : Initial leftBehind := ⟨by decide, fun _ => rfl⟩
    apply (lock_excludes threeProcesses init (takesOver 1)).1
    decide +kernel
  · decide +kernel

/-- Without that, two processes are in their critical sections, the first to enter is refused
its lease, and a waiter fails on the directory of another. -/
theorem overtaken_lock_shared : ¬∀ (start : World (Fin 3)) (acts : List (Action (Fin 3))), Initial start →
      Transition.Always (step threeProcesses) (Unpaused threeProcesses) start acts →
      Exclusive threeProcesses (Transition.run (step threeProcesses) start acts) := by
  intro claimed
  have exclusive := claimed leftBehind overtaken ⟨by decide, fun _ => rfl⟩ (by decide +kernel)
  have same := exclusive.exclusive 1 2 (by decide +kernel) (by decide +kernel)
    (by decide +kernel) (by decide +kernel)
  cases same

end
end Clawdi.PrivateLock
