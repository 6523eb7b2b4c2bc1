import Clawdi.DiscordLocks.Session
import Mathlib.Data.List.Nodup

namespace Clawdi.DiscordLocks
open Function (update update_of_ne update_self)
variable {κ τ : Type} [DecidableEq κ] [DecidableEq τ]

def Over (w : World κ τ) (s : ℕ) : Prop := ∀ lease ∈ (w.sessions s).leases, w.finished lease.owner

def RetireSound (w : World κ τ) (worker : Worker τ) (s : ℕ) : RetireStage τ → Prop
  | .joiningMonitor | .draining => True
  | .joiningOwners owners => ∀ lease ∈ (w.sessions s).leases, lease.owner ∈ owners
  | .discarding => Over w s
  | .invalidating | .disconnecting => w.serial = some worker ∧ Over w s

def WorkerSound (w : World κ τ) (worker : Worker τ) : Stage κ τ → Prop
  | .connecting _ => w.lifecycle = some worker ∧ w.current = none
  | .joining _ s | .waiting _ s => s < w.nextSession
  | .resolving _ s => s < w.nextSession ∧ w.serial = some worker
  | .locking key s => s < w.nextSession ∧ w.serial = some worker ∧ (w.sessions s).holds key = false
  | .releaseWaiting lease => worker = .task lease.owner ∧ lease ∈ w.givenUp
  | .unlocking lease => worker = .task lease.owner ∧ lease ∈ w.givenUp ∧
      w.serial = some worker ∧ lease ∈ (w.sessions lease.session).leases
  | .retiring s stage => w.lifecycle = some worker ∧ w.current = some s ∧
      (w.sessions s).closing = true ∧ RetireSound w worker s stage
  | .pinging => w.serial = some worker
  | _ => True

structure SharedSound (w : World κ τ) : Prop where
  current : ∀ s, w.current = some s → s + 1 = w.nextSession
  retired : ∀ s, s < w.nextSession → w.current = some s ∨ (w.sessions s).closing = true
  registered : ∀ s, ∀ lease ∈ (w.sessions s).leases, lease.session = s ∧ lease ∈ w.issued ∧ w.current = some s
  keys : ∀ s, ((w.sessions s).leases.map DiscordAdvisoryLease.key).Nodup
  bounded : ∀ lease ∈ w.issued, lease.session < w.nextSession
  accounted : ∀ lease ∈ w.issued, lease ∈ (w.sessions lease.session).leases ∨
    lease ∈ w.released ∨ w.finished lease.owner
  returned : ∀ lease ∈ w.released, lease ∈ w.givenUp
  locked : ∀ s, (w.sessions s).failure = false → (w.sessions s).invalidated = false →
    ∀ lease ∈ (w.sessions s).leases, lease ∉ w.givenUp → 0 < (w.sessions s).locked lease.key
  discarded : ∀ s, (w.sessions s).invalidated = true → Over w s
  valid : ∀ s, (w.sessions s).invalidated = true → (w.sessions s).closing = true

structure Sound (w : World κ τ) : Prop where
  shared : SharedSound w
  workers : ∀ worker, WorkerSound w worker (w.stages worker)

structure Spares (w after : World κ τ) (worker : Worker τ) : Prop where
  sessions : w.nextSession ≤ after.nextSession
  givenUp : ∀ lease ∈ w.givenUp, lease ∈ after.givenUp
  finished : ∀ t, w.finished t → after.finished t
  serial : w.serial = some worker → after.serial = some worker ∧
    ∀ s, (after.sessions s).leases = (w.sessions s).leases
  lifecycle : w.lifecycle = some worker → after.lifecycle = some worker ∧
    after.current = w.current ∧ ∀ s, (w.sessions s).closing = true → (after.sessions s).closing = true ∧
        ∀ lease ∈ (after.sessions s).leases, lease ∈ (w.sessions s).leases

lemma RetireSound.spared {w after : World κ τ} {worker : Worker τ} {s : ℕ}
    {stage : RetireStage τ} (inv : RetireSound w worker s stage)
    (spares : Spares w after worker) (mine : w.lifecycle = some worker)
    (closing : (w.sessions s).closing = true) : RetireSound after worker s stage := by
  have fewer := ((spares.lifecycle mine).2.2 s closing).2
  have past : Over w s → Over after s := by
    intro ended lease reg
    exact spares.finished _ (ended lease (fewer lease reg))
  cases stage with
  | joiningMonitor | draining => exact trivial
  | joiningOwners owners =>
    intro lease reg
    exact inv lease (fewer lease reg)
  | discarding => exact past inv
  | invalidating | disconnecting => exact ⟨(spares.serial inv.1).1, past inv.2⟩

lemma WorkerSound.spared {w after : World κ τ} {worker : Worker τ} {stage : Stage κ τ}
    (inv : WorkerSound w worker stage) (spares : Spares w after worker) : WorkerSound after worker stage := by
  cases stage with
  | connecting req =>
    obtain ⟨mine, none⟩ := inv
    obtain ⟨kept, same, -⟩ := spares.lifecycle mine
    exact ⟨kept, same.trans none⟩
  | joining | waiting => exact lt_of_lt_of_le inv spares.sessions
  | resolving key s => exact ⟨lt_of_lt_of_le inv.1 spares.sessions, (spares.serial inv.2).1⟩
  | locking key s =>
    obtain ⟨old, mine, unheld⟩ := inv
    obtain ⟨kept, same⟩ := spares.serial mine
    refine ⟨lt_of_lt_of_le old spares.sessions, kept, ?_⟩
    unfold Session.holds at unheld ⊢
    rw [same s]
    exact unheld
  | releaseWaiting lease => exact ⟨inv.1, spares.givenUp lease inv.2⟩
  | unlocking lease =>
    obtain ⟨owner, given, mine, reg⟩ := inv
    obtain ⟨kept, same⟩ := spares.serial mine
    rw [← same] at reg
    exact ⟨owner, spares.givenUp lease given, kept, reg⟩
  | retiring s stage =>
    obtain ⟨mine, cur, closing, retires⟩ := inv
    obtain ⟨kept, same, rest⟩ := spares.lifecycle mine
    exact ⟨kept, same.trans cur, (rest s closing).1, retires.spared spares mine closing⟩
  | pinging => exact (spares.serial inv).1
  | _ => exact trivial

namespace Sound
variable {w after : World κ τ}

lemma change (inv : Sound w) (shared : SharedSound after)
    (workers : ∀ worker, (after.stages worker = w.stages worker ∧ Spares w after worker) ∨
      WorkerSound after worker (after.stages worker)) : Sound after := by
  refine ⟨shared, ?_⟩
  intro worker
  rcases workers worker with ⟨same, spares⟩ | own
  · rw [same]
    exact (inv.workers worker).spared spares
  · exact own

structure Move (w after : World κ τ) (worker : Worker τ) : Prop where
  others : ∀ alt, alt ≠ worker → after.stages alt = w.stages alt
  unfinished : ∀ t, worker = .task t → w.stages worker ≠ .finished
  serial : after.serial = w.serial ∨ w.serial = none ∨ w.serial = some worker
  lifecycle : after.lifecycle = w.lifecycle ∨ w.lifecycle = none ∨ w.lifecycle = some worker

variable {worker : Worker τ} {givenUp : List (DiscordAdvisoryLease κ τ)}

lemma Move.finished (move : Move w after worker) {t} (ended : w.finished t) : after.finished t := by
  unfold World.finished at ended ⊢
  rw [decide_eq_true_eq] at ended ⊢
  rw [move.others (.task t)]
  · exact ended
  · intro same
    exact move.unfinished t same.symm (same ▸ ended)

lemma Move.spares {alt} (move : Move w after worker) (ne : alt ≠ worker)
    (sessions : w.nextSession ≤ after.nextSession) (givenUp : ∀ lease ∈ w.givenUp, lease ∈ after.givenUp)
    (leases : w.serial ≠ none ∧ w.serial ≠ some worker → ∀ s, (after.sessions s).leases = (w.sessions s).leases)
    (cur : w.lifecycle ≠ none ∧ w.lifecycle ≠ some worker → after.current = w.current)
    (closing : w.lifecycle ≠ none ∧ w.lifecycle ≠ some worker → ∀ s, (w.sessions s).closing = true →
      (after.sessions s).closing = true ∧ ∀ lease ∈ (after.sessions s).leases, lease ∈ (w.sessions s).leases) :
    Spares w after alt := by
  refine ⟨sessions, givenUp, fun _ => move.finished, ?_, ?_⟩
  · intro theirs
    have busy : w.serial ≠ none ∧ w.serial ≠ some worker := by
      rw [theirs]
      simpa using ne
    rcases move.serial with same | free | mine
    · exact ⟨same.trans theirs, leases busy⟩
    · exact absurd free busy.1
    · exact absurd mine busy.2
  · intro theirs
    have busy : w.lifecycle ≠ none ∧ w.lifecycle ≠ some worker := by
      rw [theirs]
      simpa using ne
    rcases move.lifecycle with same | free | mine
    · exact ⟨same.trans theirs, cur busy, closing busy⟩
    · exact absurd free busy.1
    · exact absurd mine busy.2

abbrev moved (w : World κ τ) (worker : Worker τ) (stage : Stage κ τ)
    (serial lifecycle : Option (Worker τ)) (closed : Bool) (cancels : τ → ℕ)
    (givenUp : List (DiscordAdvisoryLease κ τ)) : World κ τ :=
  { w with
    serial := serial
    lifecycle := lifecycle
    closed := closed
    cancels := cancels
    givenUp := givenUp
    stages := update w.stages worker stage }

variable {s : ℕ} {serial : Option (Worker τ)} {cancels : τ → ℕ}
variable {stage : Stage κ τ} {sess : Session κ τ} {lifecycle : Option (Worker τ)} {closed : Bool}

lemma over_moved (past : Over w s) (awaits : w.stages worker ≠ .finished) :
    Over (moved w worker stage serial lifecycle closed cancels givenUp) s := by
  intro lease reg
  have pre := past lease reg
  unfold World.finished at pre ⊢
  rw [decide_eq_true_eq] at pre ⊢
  show update w.stages worker stage (.task lease.owner) = .finished
  rw [update_of_ne]
  · exact pre
  · intro same
    exact awaits (same ▸ pre)

lemma quiet (inv : Sound w) (unfinished : ∀ t, worker = .task t → w.stages worker ≠ .finished)
    (serially : serial = w.serial ∨ w.serial = none ∨ w.serial = some worker)
    (cyclically : lifecycle = w.lifecycle ∨ w.lifecycle = none ∨ w.lifecycle = some worker)
    (gives : ∀ lease ∈ w.givenUp, lease ∈ givenUp)
    (own : WorkerSound (moved w worker stage serial lifecycle closed cancels givenUp) worker stage) :
    Sound (moved w worker stage serial lifecycle closed cancels givenUp) := by
  have move : Move w (moved w worker stage serial lifecycle closed cancels givenUp) worker :=
    ⟨fun alt ne => update_of_ne ne _ _, unfinished, serially, cyclically⟩
  have shared := inv.shared
  apply inv.change
  · constructor
    · exact shared.current
    · exact shared.retired
    · exact shared.registered
    · exact shared.keys
    · exact shared.bounded
    · intro lease issued
      rcases shared.accounted lease issued with reg | released | ended
      · exact .inl reg
      · exact .inr (.inl released)
      · exact .inr (.inr (move.finished ended))
    · intro lease released
      exact gives lease (shared.returned lease released)
    · intro s working valid lease reg kept
      exact shared.locked s working valid lease reg fun given => kept (gives lease given)
    · intro s invalidated lease reg
      exact move.finished (shared.discarded s invalidated lease reg)
    · exact shared.valid
  · intro alt
    by_cases same : alt = worker
    · subst same
      right
      show WorkerSound _ alt (update w.stages alt stage alt)
      rw [update_self]
      exact own
    · left
      refine ⟨move.others alt same, ?_⟩
      apply move.spares same le_rfl gives
      · exact fun _ _ => rfl
      · exact fun _ => rfl
      · exact fun _ _ closing => ⟨closing, fun _ reg => reg⟩

lemma moveOn (inv : Sound w) (unfinished : ∀ t, worker = .task t → w.stages worker ≠ .finished)
    (own : WorkerSound (w.go worker stage) worker stage) : Sound (w.go worker stage) :=
  inv.quiet unfinished (.inl rfl) (.inl rfl) (fun _ given => given) own

lemma leave (inv : Sound w) (unfinished : ∀ t, worker = .task t → w.stages worker ≠ .finished) :
    Sound (w.leave worker) := by
  cases worker <;> exact inv.moveOn unfinished trivial

lemma leaveSerial (inv : Sound w) (unfinished : ∀ t, worker = .task t → w.stages worker ≠ .finished)
    (mine : w.serial = none ∨ w.serial = some worker) : Sound ((w.setSerial none).leave worker) := by
  cases worker <;>
    exact inv.quiet unfinished (.inr mine) (.inl rfl) (fun _ given => given) trivial

lemma leaveLifecycle (inv : Sound w) (unfinished : ∀ t, worker = .task t → w.stages worker ≠ .finished)
    (mine : w.lifecycle = none ∨ w.lifecycle = some worker) : Sound ((w.setLifecycle none).leave worker) := by
  cases worker <;>
    exact inv.quiet unfinished (.inl rfl) (.inr mine) (fun _ given => given) trivial

lemma cancelAll (inv : Sound w) (doomed : τ → Bool) : Sound (w.cancelAll doomed) := by
  have shared := inv.shared
  apply inv.change
  · exact ⟨shared.current, shared.retired, shared.registered, shared.keys, shared.bounded,
      shared.accounted, shared.returned, shared.locked, shared.discarded, shared.valid⟩
  · intro worker
    left
    refine ⟨rfl, le_rfl, fun _ given => given, fun _ ended => ended, ?_, ?_⟩
    · exact fun mine => ⟨mine, fun _ => rfl⟩
    · exact fun mine => ⟨mine, rfl, fun _ closing => ⟨closing, fun _ reg => reg⟩⟩

lemma setSession (inv : Sound w) (leases : sess.leases = (w.sessions s).leases)
    (closing : (w.sessions s).closing = true → sess.closing = true)
    (locked : sess.failure = false → sess.invalidated = false → ∀ lease ∈ (w.sessions s).leases, lease ∉ w.givenUp →
      0 < sess.locked lease.key)
    (past : sess.invalidated = true → Over w s ∧ sess.closing = true) : Sound (w.setSession s sess) := by
  have shared := inv.shared
  have same : ∀ s', ((w.setSession s sess).sessions s').leases = (w.sessions s').leases := by
    intro s'
    show (update w.sessions s sess s').leases = (w.sessions s').leases
    by_cases it : s' = s
    · rw [it, update_self, leases]
    · rw [update_of_ne it]
  have closes : ∀ s', (w.sessions s').closing = true →
      ((w.setSession s sess).sessions s').closing = true := by
    intro s' pre
    show (update w.sessions s sess s').closing = true
    by_cases it : s' = s
    · rw [it, update_self]
      exact closing (it ▸ pre)
    · rw [update_of_ne it]
      exact pre
  apply inv.change
  · constructor
    · exact shared.current
    · intro s' old
      exact (shared.retired s' old).imp id (closes s')
    · intro s' lease reg
      rw [same] at reg
      exact shared.registered s' lease reg
    · intro s'
      rw [same]
      exact shared.keys s'
    · exact shared.bounded
    · intro lease issued
      rw [same]
      exact shared.accounted lease issued
    · exact shared.returned
    · intro s'
      rw [same]
      show (update w.sessions s sess s').failure = false → (update w.sessions s sess s').invalidated = false →
        ∀ lease ∈ (w.sessions s').leases, lease ∉ w.givenUp → 0 < (update w.sessions s sess s').locked lease.key
      by_cases it : s' = s
      · subst it
        rw [update_self]
        exact locked
      · rw [update_of_ne it]
        exact shared.locked s'
    · intro s' invalidated lease reg
      rw [same] at reg
      change (update w.sessions s sess s').invalidated = true at invalidated
      by_cases it : s' = s
      · subst it
        rw [update_self] at invalidated
        exact (past invalidated).1 lease reg
      · rw [update_of_ne it] at invalidated
        exact shared.discarded s' invalidated lease reg
    · intro s'
      show (update w.sessions s sess s').invalidated = true → (update w.sessions s sess s').closing = true
      by_cases it : s' = s
      · subst it
        rw [update_self]
        exact fun invalidated => (past invalidated).2
      · rw [update_of_ne it]
        exact shared.valid s'
  · intro worker
    left
    refine ⟨rfl, le_rfl, fun _ given => given, fun _ ended => ended, ?_, ?_⟩
    · exact fun mine => ⟨mine, same⟩
    · refine fun mine => ⟨mine, rfl, fun s' pre => ⟨closes s' pre, ?_⟩⟩
      intro lease reg
      rwa [same] at reg

lemma fail (inv : Sound w) (s : ℕ) (raisedIn : Option τ) : Sound (w.fail s raisedIn) := by
  unfold World.fail
  by_cases lost : (w.sessions s).lost
  · rw [if_pos lost]
    exact inv
  rw [if_neg lost]
  have cancelled := inv.cancelAll fun t => (w.sessions s).owns t && raisedIn != some t
  apply moveOn
  · apply cancelled.setSession
    · rfl
    · exact id
    · intro never
      cases never
    · exact fun invalidated => ⟨inv.shared.discarded s invalidated, inv.shared.valid s invalidated⟩
  · intro t never
    cases never
  · exact trivial

lemma broken {raisedIn} (unfinished : ∀ t, worker = .task t → w.stages worker ≠ .finished)
    (mine : w.serial = some worker) (ne : worker ≠ .retirement s)
    (changed : Sound (w.setSession s sess)) : Sound (w.broken worker s raisedIn sess) := by
  have serial : ((w.setSession s sess).fail s raisedIn).serial = w.serial := by
    unfold World.fail
    split <;> rfl
  have stage : ((w.setSession s sess).fail s raisedIn).stages worker = w.stages worker := by
    unfold World.fail
    split
    · rfl
    · exact update_of_ne ne _ _
  apply leaveSerial (changed.fail s raisedIn)
  · intro t task
    rw [stage]
    exact unfinished t task
  · rw [serial]
    exact .inr mine

end Sound
end Clawdi.DiscordLocks
