import Clawdi.DiscordLocks.Effects

namespace Clawdi.DiscordLocks
open Function (update update_apply update_of_ne update_self)
open Transition
variable {κ τ : Type} [DecidableEq κ] [DecidableEq τ] {w : World κ τ}

/-- A claim has returned the lease, nobody has passed it to `release` and its owner still runs. -/
def World.Live (w : World κ τ) (lease : DiscordAdvisoryLease κ τ) : Prop :=
  lease ∈ w.issued ∧ lease ∉ w.givenUp ∧ w.finished lease.owner = false

structure Exclusive (w : World κ τ) : Prop where
  unique : ∀ first snd, w.Live first → w.Live snd → first.key = snd.key → first = snd
  registered : ∀ lease, w.Live lease → lease ∈ (w.sessions lease.session).leases
  locked : ∀ lease, w.Live lease → (w.sessions lease.session).failure = false →
    0 < (w.sessions lease.session).locked lease.key

structure Respects (w : World κ τ) (task : Option τ) (after : World κ τ) : Prop where
  fails : ∀ s, (w.sessions s).failure = false → (after.sessions s).failure = true →
    ∀ lease ∈ (w.sessions s).leases, w.cancels lease.owner < after.cancels lease.owner ∨ task = some lease.owner
  failed : ∀ s, s < w.nextSession → (w.sessions s).failure = true → (after.sessions s).failure = true ∧
      ∀ lease ∈ after.issued, lease.session = s → lease ∈ w.issued
  renews : ∀ lease ∈ after.issued, lease ∉ w.issued → ∀ alt ∈ w.issued, alt.session < lease.session →
      alt ∈ w.released ∨ w.finished alt.owner = true
  unlocks : ∀ s key, (after.sessions s).locked key < (w.sessions s).locked key →
    ∀ lease, w.Live lease → lease.session = s → lease.key ≠ key

def Renews (w after : World κ τ) : Prop :=
  ∀ lease ∈ after.issued, lease ∉ w.issued → ∀ s, s < lease.session → (w.sessions s).invalidated = true

structure Discarded (w : World κ τ) : Prop where
  earlier : ∀ s, s < w.nextSession → w.current ≠ some s → (w.sessions s).invalidated = true
  disconnecting : ∀ worker s, w.stages worker = .retiring s .disconnecting → (w.sessions s).invalidated = true

namespace Sound
variable {lease : DiscordAdvisoryLease κ τ}

lemma live_registered (inv : Sound w) (live : w.Live lease) : lease ∈ (w.sessions lease.session).leases := by
  obtain ⟨issued, kept, runs⟩ := live
  rcases inv.shared.accounted lease issued with reg | released | ended
  · exact reg
  · exact absurd (inv.shared.returned lease released) kept
  · rw [runs] at ended
    cases ended

lemma exclusive (inv : Sound w) : Exclusive w := by
  constructor
  · intro first snd one alt same
    have mine := inv.live_registered one
    have theirs := inv.live_registered alt
    have sess : some first.session = some snd.session := by
      rw [← (inv.shared.registered _ first mine).2.2, (inv.shared.registered _ snd theirs).2.2]
    rw [← Option.some.inj sess] at theirs
    exact inv.lease_eq mine theirs same
  · exact fun lease live => inv.live_registered live
  · intro lease live busy
    have reg := inv.live_registered live
    cases invalidated : (w.sessions lease.session).invalidated with
    | true =>
      have ended := inv.shared.discarded _ invalidated lease reg
      rw [live.2.2] at ended
      cases ended
    | false => exact inv.shared.locked _ busy invalidated lease reg live.2.1

lemma locking_current (inv : Sound w) {t key} {s : ℕ}
    (locking : w.stages (.task t) = .locking key s) (valid : (w.sessions s).lost = false) :
    w.current = some s ∧ (w.sessions s).failure = false := by
  have own := inv.workers (.task t)
  rw [locking] at own
  unfold Session.lost at valid
  rw [Bool.or_eq_false_iff] at valid
  rcases inv.shared.retired s own.1 with cur | closing
  · exact ⟨cur, valid.2⟩
  · rw [valid.1] at closing
    cases closing

lemma earlier_over (inv : Sound w) (issued : lease ∈ w.issued) (earlier : w.current ≠ some lease.session) :
    lease ∈ w.released ∨ w.finished lease.owner = true := by
  rcases inv.shared.accounted lease issued with reg | rest
  · exact absurd (inv.shared.registered _ lease reg).2.2 earlier
  · exact rest

lemma unlocking_idle (inv : Sound w) {s : ℕ} {key} (unlocking : Unlocking w s key)
    (live : w.Live lease) (here : lease.session = s) : lease.key ≠ key := by
  obtain ⟨t, given, stage, rfl, rfl⟩ := unlocking
  have own := inv.workers (.task t)
  rw [stage] at own
  obtain ⟨-, givenUp, -, reg⟩ := own
  intro same
  have mine := inv.live_registered live
  rw [here] at mine
  have it : lease = given := inv.lease_eq mine reg same
  exact live.2.1 (it ▸ givenUp)

end Sound

omit [DecidableEq κ] [DecidableEq τ] in
lemma field_update {α : Type} (field : Session κ τ → α) {sessions : ℕ → Session κ τ} {s : ℕ}
    {sess} (same : field sess = field (sessions s)) (alt : ℕ) :
    field (update sessions s sess alt) = field (sessions alt) := by
  by_cases it : alt = s
  · rw [it, update_self, same]
  · rw [update_of_ne it]

namespace Effect
variable {after : World κ τ} {spared : Option τ} {torn : Prop}
section
variable (effect : Effect w spared torn after)
include effect

lemma failure : Quiet w after spared (Unlocking w) ∨
      ∀ s, s < w.nextSession → (after.sessions s).failure = (w.sessions s).failure := by
  cases effect with
  | quiet quiet => exact .inl quiet
  | connected t req connecting =>
    right
    intro s old
    show (update w.sessions w.nextSession {} s).failure = _
    rw [update_of_ne (by omega)]
  | registered | popped | invalidated => exact .inr fun s _ => field_update Session.failure (by rfl) s
  | interrupted worker s' invalidating excused => exact .inr fun _ _ => rfl
  | disconnected worker s' disconnecting =>
    cases worker <;> exact .inr fun s _ => field_update Session.failure (by rfl) s

lemma issues (inv : Sound w) {lease} (issued : lease ∈ after.issued)
    (fresh : lease ∉ w.issued) : w.current = some lease.session ∧ (w.sessions lease.session).failure = false := by
  have unchanged : after.issued ≠ w.issued := by
    intro same
    rw [same] at issued
    exact fresh issued
  cases effect with
  | quiet quiet => exact absurd quiet.issued unchanged
  | registered t key s locking valid =>
    rcases List.mem_cons.mp issued with same | old
    · rw [same]
      exact inv.locking_current locking valid
    · exact absurd old fresh
  | disconnected worker s disconnecting => cases worker <;> exact absurd rfl unchanged
  | _ => exact absurd rfl unchanged

lemma unlocks {s : ℕ} {key} (old : s < w.nextSession)
    (fewer : (after.sessions s).locked key < (w.sessions s).locked key) :
    Unlocking w s key ∨ ∃ worker, w.stages worker = .retiring s .invalidating := by
  have unchanged : (after.sessions s).locked ≠ (w.sessions s).locked := by
    intro same
    rw [same] at fewer
    exact lt_irrefl _ fewer
  cases effect with
  | quiet quiet =>
    left
    by_contra kept
    have more := quiet.locked s key kept
    omega
  | connected t req connecting =>
    have same : update w.sessions w.nextSession {} s = w.sessions s := update_of_ne (by omega) _ _
    exact absurd (congrArg Session.locked same) unchanged
  | registered t alt s' locking valid =>
    change (update w.sessions s' _ s).locked key < _ at fewer
    by_cases it : s = s'
    · rw [it, update_self] at fewer
      have more := Sound.lock_locked (w.sessions s') alt key
      exact absurd (lt_of_le_of_lt more fewer) (lt_irrefl _)
    · rw [update_of_ne it] at fewer
      exact absurd fewer (lt_irrefl _)
  | popped t lease unlocking =>
    change (update w.sessions lease.session _ s).locked key < _ at fewer
    left
    by_cases it : s = lease.session
    · by_cases same : key = lease.key
      · exact ⟨t, lease, unlocking, it.symm, same.symm⟩
      · rw [it, update_self] at fewer
        change ((w.sessions lease.session).unlock lease.key).locked key < _ at fewer
        rw [unlock_locked _ same] at fewer
        exact absurd fewer (lt_irrefl _)
    · rw [update_of_ne it] at fewer
      exact absurd fewer (lt_irrefl _)
  | invalidated worker s' invalidating =>
    by_cases it : s = s'
    · rw [it]
      exact .inr ⟨worker, invalidating⟩
    · have same : update w.sessions s' { w.sessions s' with
          invalidated := true, locked := fun _ => 0 } s = w.sessions s := update_of_ne it _ _
      exact absurd (congrArg Session.locked same) unchanged
  | interrupted worker s' invalidating excused => exact absurd rfl unchanged
  | disconnected worker s' disconnecting =>
    cases worker <;> exact absurd (field_update Session.locked (by rfl) s) unchanged

lemma respects (inv : Sound w) : Respects w spared after := by
  constructor
  · intro s busy failed lease reg
    rcases effect.failure with quiet | same
    · exact quiet.fails s busy failed lease reg
    · have cur := (inv.shared.registered s lease reg).2.2
      have last := inv.shared.current s cur
      rw [same s (by omega), busy] at failed
      cases failed
  · intro s old failed
    constructor
    · rcases effect.failure with quiet | same
      · exact quiet.failed s failed
      · rw [same s old, failed]
    · intro lease issued here
      by_contra fresh
      have busy := (effect.issues inv issued fresh).2
      rw [here, failed] at busy
      cases busy
  · intro lease issued fresh alt noted earlier
    have cur := (effect.issues inv issued fresh).1
    apply inv.earlier_over noted
    rw [cur]
    intro same
    have equal := Option.some.inj same
    omega
  · intro s key fewer lease live here
    have old : s < w.nextSession := here ▸ inv.shared.bounded lease live.1
    rcases effect.unlocks old fewer with unlocking | ⟨worker, invalidating⟩
    · exact inv.unlocking_idle unlocking live here
    · have own := inv.workers worker
      rw [invalidating] at own
      have reg := inv.live_registered live
      rw [here] at reg
      have ended := own.2.2.2.2 lease reg
      rw [live.2.2] at ended
      cases ended

lemma renews (inv : Sound w) (discarded : Discarded w) : Renews w after := by
  intro lease issued fresh s earlier
  have cur := (effect.issues inv issued fresh).1
  have last := inv.shared.current _ cur
  apply discarded.earlier s (by omega)
  rw [cur]
  intro same
  have equal := Option.some.inj same
  omega

lemma discarded (intact : ¬torn) (inv : Sound w) (discarded : Discarded w) : Discarded after := by
  have done : ∀ worker stage, (∀ s, stage ≠ .retiring s .disconnecting) → ∀ alt s,
      update w.stages worker stage alt = .retiring s .disconnecting →
        (w.sessions s).invalidated = true := by
    intro worker stage elsewhere alt s same
    exact discarded.disconnecting alt s (Quiet.update_disconnecting elsewhere alt s same)
  cases effect with
  | quiet quiet =>
    constructor
    · intro s old alt
      rw [quiet.invalidated]
      exact discarded.earlier s (quiet.nextSession ▸ old) (quiet.current ▸ alt)
    · intro worker s disconnecting
      rw [quiet.invalidated]
      exact discarded.disconnecting worker s (quiet.disconnecting worker s disconnecting)
  | connected t req connecting =>
    have own := inv.workers (.task t)
    rw [connecting] at own
    have none : w.current = none := own.2
    constructor
    · intro s old alt
      change s < w.nextSession + 1 at old
      have ne : s ≠ w.nextSession := fun same => alt (congrArg some same.symm)
      show (update w.sessions w.nextSession {} s).invalidated = true
      rw [update_of_ne ne]
      exact discarded.earlier s (by omega) (by simp [none])
    · intro worker s disconnecting
      change update (update w.stages (.monitor w.nextSession) .sleeping)
        (.task t) (.waiting req w.nextSession) worker = _ at disconnecting
      rw [update_apply, update_apply] at disconnecting
      have earlier : w.stages worker = .retiring s .disconnecting := by
        split_ifs at disconnecting
        exact disconnecting
      have theirs := inv.workers worker
      rw [earlier] at theirs
      have cur : w.current = some s := theirs.2.1
      rw [none] at cur
      cases cur
  | registered t key s locking valid =>
    have same := @field_update κ τ _ Session.invalidated w.sessions s
      (((w.sessions s).lock key).register ⟨key, t, s, w.issued.length⟩) rfl
    constructor
    · intro s' old alt
      exact (same s').trans (discarded.earlier s' old alt)
    · intro worker s' disconnecting
      exact (same s').trans (done _ _ (by simp) worker s' disconnecting)
  | popped t lease unlocking =>
    have same := @field_update κ τ _ Session.invalidated w.sessions lease.session
      (((w.sessions lease.session).unlock lease.key).pop lease) rfl
    constructor
    · intro s old alt
      exact (same s).trans (discarded.earlier s old alt)
    · intro worker s disconnecting
      exact (same s).trans (done _ _ (by simp) worker s disconnecting)
  | invalidated worker s invalidating =>
    have stays : ∀ s', s' = s ∨ (w.sessions s').invalidated = true →
        (update w.sessions s { w.sessions s with
          invalidated := true, locked := fun _ => 0 } s').invalidated = true := by
      intro s' done
      by_cases it : s' = s
      · rw [it, update_self]
      · rw [update_of_ne it]
        exact done.resolve_left it
    constructor
    · intro s' old alt
      exact stays s' (.inr (discarded.earlier s' old alt))
    · intro alt s' disconnecting
      apply stays
      change update w.stages worker (.retiring s .disconnecting) alt = _ at disconnecting
      by_cases mine : alt = worker
      · rw [mine, update_self] at disconnecting
        injection disconnecting with here
        exact .inl here.symm
      · rw [update_of_ne mine] at disconnecting
        exact .inr (discarded.disconnecting alt s' disconnecting)
  | interrupted worker s invalidating excused => exact absurd excused intact
  | disconnected worker s disconnecting =>
    have own := inv.workers worker
    rw [disconnecting] at own
    have same := @field_update κ τ _ Session.invalidated w.sessions s { w.sessions s with leases := [] } rfl
    have earlier : ∀ {s'}, s' < w.nextSession →
        (update w.sessions s { w.sessions s with leases := [] } s').invalidated = true := by
      intro s' old
      rw [same s']
      by_cases it : s' = s
      · rw [it]
        exact discarded.disconnecting worker s disconnecting
      · apply discarded.earlier s' old
        rw [own.2.1]
        exact fun cur => it (Option.some.inj cur).symm
    have leaves : Quiet (w.setSession s { w.sessions s with leases := [] })
        ((w.setSession s { w.sessions s with leases := [] }).leave worker) spared
        (fun _ _ => False) := Quiet.leave worker
    constructor
    · intro s' old _
      exact (leaves.invalidated s').trans (earlier (leaves.nextSession ▸ old))
    · intro alt s' stage
      have pre := discarded.disconnecting alt s' (leaves.disconnecting alt s' stage)
      rw [← same s'] at pre
      exact (leaves.invalidated s').trans pre

end
end Effect

omit [DecidableEq κ] [DecidableEq τ] in
lemma Discarded.start (init : Initial w) : Discarded w := by
  constructor
  · intro s never
    have none : w.nextSession = 0 := by rw [init.start]
    omega
  · intro worker s disconnecting
    cases worker with
    | task t =>
      rw [init.tasks] at disconnecting
      cases disconnecting
    | monitor s' =>
      rw [init.monitors] at disconnecting
      cases disconnecting
    | retirement s' =>
      rw [init.retirements] at disconnecting
      cases disconnecting

/-- A key has one live lease, locked until its session fails; a failure stops every owner, and a new
session hands out leases once the earlier ones are over. -/
theorem leases_exclusive {start : World κ τ} (init : Initial start) (acts : List (Action κ τ)) :
    Exclusive (run step start acts) ∧ Always step (fun w act => Respects w act.task (step w act)) start acts ∧
      (Always step Discards start acts → Always step (fun w act => Renews w (step w act)) start acts) := by
  have steps : ∀ w (act : Action κ τ), Sound w → True → Sound (step w act) := fun _ act inv _ => inv.step act
  have discards : ∀ w (act : Action κ τ), Sound w ∧ Discarded w → Discards w act →
      Sound (step w act) ∧ Discarded (step w act) := by
    rintro w act ⟨inv, discarded⟩ intact
    exact ⟨inv.step act, (step_effect inv act).discarded (not_not_intro intact) inv discarded⟩
  have free : Always step (fun _ _ => True) start acts := Always.of_mem (fun _ _ _ => trivial) start
  refine ⟨?_, ?_, ?_⟩
  · exact (free.invariant steps (Sound.start init)).exclusive
  · apply Always.strengthen steps _ (Sound.start init) free
    intro w act inv _
    exact (step_effect inv act).respects inv
  · apply Always.strengthen discards _ ⟨Sound.start init, Discarded.start init⟩
    rintro w act ⟨inv, discarded⟩ _
    exact (step_effect inv act).renews inv discarded

def idle : World ℕ ℕ where
  stages
    | .task _ => .running
    | _ => .absent

lemma idle_initial : Initial idle := ⟨rfl, fun _ => rfl, fun _ => rfl, fun _ => rfl⟩
def returned (worker : Worker ℕ) : Action ℕ ℕ := .resume worker .returned true
def claims (t : ℕ) : List (Action ℕ ℕ) := .claim t ⟨7, false⟩ :: List.replicate 4 (returned (.task t))

/-- The session is lost to a ping, and another task claims the key after the invalidation. -/
def handover : List (Action ℕ ℕ) :=
  claims 0 ++ [returned (.monitor 0), .resume (.monitor 0) .timedOut false, .finish 0] ++
    List.replicate 5 (returned (.retirement 0)) ++
    [.resume (.retirement 0) .raised true, returned (.retirement 0)] ++ claims 1

theorem leases_exclusive_handover : Exclusive (run step idle handover) ∧
      Always step (fun w act => Respects w act.task (step w act)) idle handover ∧
      Always step (fun w act => Renews w (step w act)) idle handover ∧
      (run step idle handover).issued.map DiscordAdvisoryLease.session = [1, 0] := by
  obtain ⟨exclusive, respects, renews⟩ := leases_exclusive idle_initial handover
  exact ⟨exclusive, respects, renews (by decide +kernel), by decide +kernel⟩

end Clawdi.DiscordLocks
