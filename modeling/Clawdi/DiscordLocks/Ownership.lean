import Clawdi.DiscordLocks.Steps

namespace Clawdi.DiscordLocks
open List Function
variable {κ τ : Type} [DecidableEq κ] [DecidableEq τ] {w : World κ τ}
namespace Sound
variable {worker : Worker τ} {s : ℕ}
section
variable (inv : Sound w)
include inv

lemma startClosing {closed} (cur : w.current = some s) (free : w.lifecycle = none)
    (unfinished : ∀ t, worker = .task t → w.stages worker ≠ .finished) :
    Sound { w with
      closed := closed
      lifecycle := some worker
      sessions := Function.update w.sessions s { w.sessions s with closing := true }
      stages := Function.update w.stages worker (.retiring s .joiningMonitor) } := by
  have closing : Sound (w.setSession s { w.sessions s with closing := true }) := by
    apply inv.setSession
    · rfl
    · exact fun _ => rfl
    · exact inv.shared.locked s
    · exact fun invalidated => ⟨inv.shared.discarded s invalidated, rfl⟩
  refine closing.quiet unfinished (.inl rfl) (.inr (.inl free)) (fun _ given => given) ?_
  refine ⟨rfl, cur, ?_, trivial⟩
  show (Function.update w.sessions s _ s).closing = true
  rw [update_self]

lemma closeSession {t} (gate : w.stages (.task t) = .closeGate) (free : w.lifecycle = none) :
    Sound (w.closeSession t) := by
  have awaits : ∀ t', Worker.task t = .task t' → w.stages (.task t) ≠ .finished := by
    apply task_unfinished
    rw [gate]
    simp
  unfold World.closeSession
  split
  · have left : Sound (moved w (.task t) .running w.serial w.lifecycle true w.cancels w.givenUp) :=
      inv.quiet awaits (.inl rfl) (.inl rfl) (fun _ given => given) trivial
    exact left
  · rename_i s cur
    split
    · have joins : Sound (moved w (.task t) (.closeJoining s) w.serial w.lifecycle true
          w.cancels w.givenUp) :=
        inv.quiet awaits (.inl rfl) (.inl rfl) (fun _ given => given) trivial
      exact joins
    · exact inv.startClosing cur free awaits

lemma retireFailed (free : w.lifecycle = none) : Sound (w.retireFailed s) := by
  have awaits : ∀ t : τ, Worker.retirement s = .task t →
      w.stages (.retirement s) ≠ .finished := by
    intro t never
    cases never
  unfold World.retireFailed
  by_cases cur : w.current ≠ some s
  · rw [if_pos cur]
    exact inv.leave awaits
  · rw [if_neg cur]
    exact inv.startClosing (not_not.mp cur) free awaits

lemma invalidate (invalidating : w.stages worker = .retiring s .invalidating) :
    Sound ((w.setSession s { w.sessions s with invalidated := true, locked := fun _ => 0 }).go
      worker (.retiring s .disconnecting)) := by
  have own := inv.workers worker
  rw [invalidating] at own
  obtain ⟨lifecycle, cur, closing, serial, past⟩ := own
  have changed : Sound
      (w.setSession s { w.sessions s with invalidated := true, locked := fun _ => 0 }) := by
    apply inv.setSession
    · rfl
    · exact id
    · intro _ never
      cases never
    · exact fun _ => ⟨past, closing⟩
  apply changed.moveOn
  · intro t _
    show w.stages worker ≠ .finished
    rw [invalidating]
    simp
  · refine ⟨lifecycle, cur, ?_, serial, ?_⟩
    · show (Function.update w.sessions s _ s).closing = true
      rw [update_self]
      exact closing
    · intro lease reg
      change lease ∈ (Function.update w.sessions s _ s).leases at reg
      rw [update_self] at reg
      have ended := past lease reg
      unfold World.finished at ended ⊢
      rw [decide_eq_true_eq] at ended ⊢
      show Function.update w.stages worker _ (.task lease.owner) = .finished
      rw [update_of_ne]
      · exact ended
      · intro same
        rw [same, invalidating] at ended
        cases ended

lemma disconnect (disconnecting : w.stages worker = .retiring s .disconnecting) :
    Sound { ((w.setSession s { w.sessions s with leases := [] }).leave worker) with
      current := none
      serial := none
      lifecycle := none } := by
  have own := inv.workers worker
  rw [disconnecting] at own
  obtain ⟨lifecycle, cur, closing, serial, past⟩ := own
  have shared := inv.shared
  obtain ⟨stage, left, quiet⟩ : ∃ stage, (w.setSession s { w.sessions s with leases := [] }).leave worker =
        (w.setSession s { w.sessions s with leases := [] }).go worker stage ∧
      ∀ after, WorkerSound after worker stage := by
    cases worker with
    | task t => exact ⟨.running, rfl, fun _ => trivial⟩
    | monitor | retirement => exact ⟨.finished, rfl, fun _ => trivial⟩
  rw [left]
  have empty : ∀ s', ((Function.update w.sessions s { w.sessions s with leases := [] }) s').leases =
      [] := by
    intro s'
    by_cases it : s' = s
    · rw [it, update_self]
    · rw [update_of_ne it]
      apply inv.leases_of_current
      rw [cur]
      simpa using Ne.symm it
  have flags : ∀ s', ((Function.update w.sessions s { w.sessions s with leases := [] }) s').closing =
        (w.sessions s').closing ∧
      ((Function.update w.sessions s { w.sessions s with leases := [] }) s').invalidated =
        (w.sessions s').invalidated := by
    intro s'
    by_cases it : s' = s
    · rw [it, update_self]
      exact ⟨rfl, rfl⟩
    · rw [update_of_ne it]
      exact ⟨rfl, rfl⟩
  have finished : ∀ t, w.finished t → decide (Function.update w.stages worker stage (.task t) =
      .finished) = true := by
    intro t ended
    unfold World.finished at ended
    rw [update_of_ne]
    · exact ended
    · intro same
      rw [same, disconnecting] at ended
      cases ended
  apply inv.change
  · constructor
    · intro s' never
      cases never
    · intro s' old
      right
      show (Function.update w.sessions s _ s').closing = true
      rw [(flags s').1]
      rcases shared.retired s' old with same | closed
      · have it : s = s' := Option.some.inj (cur.symm.trans same)
        exact it ▸ closing
      · exact closed
    · intro s' lease reg
      change lease ∈ (Function.update w.sessions s _ s').leases at reg
      rw [empty] at reg
      cases reg
    · intro s'
      show ((Function.update w.sessions s _ s').leases.map _).Nodup
      rw [empty]
      exact nodup_nil
    · exact shared.bounded
    · intro lease issued
      rcases shared.accounted lease issued with reg | released | ended
      · right
        right
        have place := (shared.registered _ lease reg).2.2
        have it : s = lease.session := Option.some.inj (cur.symm.trans place)
        rw [← it] at reg
        exact finished _ (past lease reg)
      · exact .inr (.inl released)
      · exact .inr (.inr (finished _ ended))
    · exact shared.returned
    · intro s' _ _ lease reg
      change lease ∈ (Function.update w.sessions s _ s').leases at reg
      rw [empty] at reg
      cases reg
    · intro s' _ lease reg
      change lease ∈ (Function.update w.sessions s _ s').leases at reg
      rw [empty] at reg
      cases reg
    · intro s' invalidated
      change (Function.update w.sessions s _ s').invalidated = true at invalidated
      rw [(flags s').2] at invalidated
      show (Function.update w.sessions s _ s').closing = true
      rw [(flags s').1]
      exact shared.valid s' invalidated
  · intro alt
    by_cases same : alt = worker
    · subst same
      right
      have here : Function.update w.stages alt stage alt = stage := update_self ..
      show WorkerSound _ alt (Function.update w.stages alt stage alt)
      rw [here]
      exact quiet _
    · left
      refine ⟨update_of_ne same _ _, le_rfl, fun _ given => given, finished, ?_, ?_⟩
      · intro theirs
        rw [serial] at theirs
        exact absurd (Option.some.inj theirs).symm same
      · intro theirs
        rw [lifecycle] at theirs
        exact absurd (Option.some.inj theirs).symm same

variable {stage : RetireStage τ}

lemma retireTurn (retiring : w.stages worker = .retiring s stage) : Sound (w.retireTurn worker s stage) := by
  have own := inv.workers worker
  rw [retiring] at own
  obtain ⟨lifecycle, cur, closing, retires⟩ := own
  have unfinished : w.stages worker ≠ .finished := by
    rw [retiring]
    simp
  have awaits : ∀ t, worker = .task t → w.stages worker ≠ .finished := fun _ _ => unfinished
  have advance : ∀ next, RetireSound (w.go worker (.retiring s next)) worker s next →
      Sound (w.go worker (.retiring s next)) := by
    intro next own
    have moves : WorkerSound (w.go worker (.retiring s next)) worker (.retiring s next) :=
      ⟨lifecycle, cur, closing, own⟩
    exact inv.moveOn awaits moves
  cases stage with
  | joiningMonitor =>
    rw [World.retireTurn]
    split
    · exact advance _ trivial
    · exact inv
  | draining =>
    have everyone : ∀ lease ∈ (w.sessions s).leases, lease.owner ∈ w.owners s := by
      intro lease reg
      exact mem_map_of_mem reg
    rw [World.retireTurn]
    split
    · exact inv
    · split
      · exact advance _ everyone
      · have moves : WorkerSound ((w.cancelAll (w.sessions s).owns).go worker
            (.retiring s (.joiningOwners (w.owners s)))) worker
            (.retiring s (.joiningOwners (w.owners s))) :=
          ⟨lifecycle, cur, closing, everyone⟩
        exact (inv.cancelAll _).moveOn awaits moves
  | joiningOwners owners =>
    rw [World.retireTurn]
    split
    · rename_i ended
      have past : Over w s := by
        intro lease reg
        exact all_eq_true.mp ended lease.owner (retires lease reg)
      exact advance _ (over_moved past unfinished)
    · exact inv
  | discarding =>
    rw [World.retireTurn]
    split
    · exact inv
    · rename_i free
      have moves : WorkerSound (moved w worker (.retiring s .invalidating) (some worker)
          w.lifecycle w.closed w.cancels w.givenUp) worker (.retiring s .invalidating) :=
        ⟨lifecycle, cur, closing, rfl, over_moved retires unfinished⟩
      exact inv.quiet awaits (.inr (.inl (not_not.mp free))) (.inl rfl) (fun _ given => given) moves
  | invalidating => exact inv.invalidate retiring
  | disconnecting => exact inv.disconnect retiring

lemma retireRaised (retiring : w.stages worker = .retiring s stage) (effect : Bool) :
    Sound (w.retireRaised worker s effect stage) := by
  have own := inv.workers worker
  rw [retiring] at own
  obtain ⟨lifecycle, cur, closing, retires⟩ := own
  have unfinished : w.stages worker ≠ .finished := by
    rw [retiring]
    simp
  have awaits : ∀ t, worker = .task t → w.stages worker ≠ .finished := fun _ _ => unfinished
  cases stage with
  | joiningMonitor | draining | discarding => exact inv.leaveLifecycle awaits (.inr lifecycle)
  | joiningOwners owners => exact (inv.cancelAll _).leaveLifecycle awaits (.inr lifecycle)
  | invalidating =>
    rw [World.retireRaised]
    split
    · exact inv.invalidate retiring
    · have moves : WorkerSound (w.go worker (.retiring s .disconnecting)) worker
          (.retiring s .disconnecting) :=
        ⟨lifecycle, cur, closing, retires.1, over_moved retires.2 unfinished⟩
      exact inv.moveOn awaits moves
  | disconnecting =>
    cases worker <;>
      exact inv.quiet awaits (.inr (.inr retires.1)) (.inr (.inr lifecycle)) (fun _ given => given) trivial

end
end Sound

variable {κ τ : Type} [DecidableEq κ] [DecidableEq τ] {w : World κ τ}
namespace Sound

lemma start (init : Initial w) : Sound w := by
  have sessions : ∀ s, w.sessions s = {} := by
    intro s
    rw [init.start]
  have issued : w.issued = [] := by rw [init.start]
  have released : w.released = [] := by rw [init.start]
  have cur : w.current = none := by rw [init.start]
  constructor
  · constructor
    · intro s never
      rw [cur] at never
      cases never
    · intro s never
      have none : w.nextSession = 0 := by rw [init.start]
      omega
    · intro s lease reg
      rw [sessions] at reg
      cases reg
    · intro s
      rw [sessions]
      exact nodup_nil
    · intro lease noted
      rw [issued] at noted
      cases noted
    · intro lease noted
      rw [issued] at noted
      cases noted
    · intro lease noted
      rw [released] at noted
      cases noted
    · intro s _ _ lease reg
      rw [sessions] at reg
      cases reg
    · intro s invalidated
      rw [sessions] at invalidated
      cases invalidated
    · intro s invalidated
      rw [sessions] at invalidated
      cases invalidated
  · intro worker
    cases worker with
    | task t =>
      rw [init.tasks]
      exact trivial
    | monitor s =>
      rw [init.monitors]
      exact trivial
    | retirement s =>
      rw [init.retirements]
      exact trivial

section
variable (inv : Sound w)
include inv

variable {t : τ} {lease : DiscordAdvisoryLease κ τ}

lemma getSession {req} (gate : w.stages (.task t) = .gate req)
    (free : w.lifecycle = none) : Sound (w.getSession t req) := by
  have awaits : ∀ t', Worker.task t = .task t' → w.stages (.task t) ≠ .finished := by
    apply task_unfinished
    rw [gate]
    simp
  have leaves : Sound (w.go (.task t) .running) := inv.moveOn awaits trivial
  unfold World.getSession
  split
  · exact leaves
  split
  · rename_i none
    have own : WorkerSound (moved w (.task t) (.connecting req) w.serial (some (.task t))
        w.closed w.cancels w.givenUp) (.task t) (.connecting req) := ⟨rfl, none⟩
    exact inv.quiet awaits (.inl rfl) (.inr (.inl free)) (fun _ given => given) own
  · rename_i s cur
    have old : s < w.nextSession := by
      have next := inv.shared.current s cur
      omega
    split
    · have own : WorkerSound (w.go (.task t) (.waiting req s)) (.task t) (.waiting req s) := old
      exact inv.moveOn awaits own
    split
    · exact leaves
    split
    · exact leaves
    · have own : WorkerSound (w.go (.task t) (.joining req s)) (.task t) (.joining req s) := old
      exact inv.moveOn awaits own

lemma claimKey {key} {s : ℕ} (awaits : ∀ t', Worker.task t = .task t' → w.stages (.task t) ≠ .finished)
    (mine : w.serial = none ∨ w.serial = some (.task t)) (old : s < w.nextSession) : Sound (w.claimKey t key s) := by
  unfold World.claimKey
  split
  · exact inv.leaveSerial awaits mine
  · rename_i unheld
    have own : WorkerSound (moved w (.task t) (.locking key s) (some (.task t)) w.lifecycle
        w.closed w.cancels w.givenUp) (.task t) (.locking key s) :=
      ⟨old, rfl, eq_false_of_ne_true unheld⟩
    exact inv.quiet awaits (.inr mine) (.inl rfl) (fun _ given => given) own

lemma releaseKey (waiting : w.stages (.task t) = .releaseWaiting lease) (free : w.serial = none) :
    Sound (w.releaseKey t lease) := by
  have given := inv.workers (.task t)
  rw [waiting] at given
  have awaits : ∀ t', Worker.task t = .task t' → w.stages (.task t) ≠ .finished := by
    apply task_unfinished
    rw [waiting]
    simp
  unfold World.releaseKey
  split
  · exact inv.moveOn awaits trivial
  · rename_i held
    have reg : lease ∈ (w.sessions lease.session).leases := not_not.mp (not_or.mp held).2
    have own : WorkerSound (moved w (.task t) (.unlocking lease) (some (.task t)) w.lifecycle
        w.closed w.cancels w.givenUp) (.task t) (.unlocking lease) :=
      ⟨given.1, given.2, rfl, reg⟩
    exact inv.quiet awaits (.inr (.inl free)) (.inl rfl) (fun _ given => given) own

lemma returnTask (t : τ) (effect : Bool) : Sound (w.returnTask t effect) := by
  have own := inv.workers (.task t)
  unfold World.returnTask
  cases stage : w.stages (.task t) <;> simp only [stage] at own ⊢
  case absent | running | finished | retireGate | sleeping | pingWaiting | pinging => exact inv
  case gate req =>
    split
    · rename_i free
      exact inv.getSession stage free
    · exact inv
  case connecting req => exact inv.connect stage
  case joining req s =>
    split
    · have awaits : w.stages (.task t) ≠ .finished := by
        rw [stage]
        simp
      exact inv.moveOn (task_unfinished awaits) trivial
    · exact inv
  case waiting req s =>
    have awaits : ∀ t', Worker.task t = .task t' → w.stages (.task t) ≠ .finished := by
      apply task_unfinished
      rw [stage]
      simp
    split
    · exact inv
    rename_i free
    have free := not_not.mp free
    split
    · exact inv.moveOn awaits trivial
    split
    · have resolves : WorkerSound (moved w (.task t) (.resolving req.key s) (some (.task t))
          w.lifecycle w.closed w.cancels w.givenUp) (.task t) (.resolving req.key s) :=
        ⟨own, rfl⟩
      exact inv.quiet awaits (.inr (.inl free)) (.inl rfl) (fun _ given => given) resolves
    · exact inv.claimKey awaits (.inl free) own
  case resolving key s =>
    apply inv.claimKey _ (.inr own.2) own.1
    apply task_unfinished
    rw [stage]
    simp
  case locking key s => exact inv.locked stage effect
  case releaseWaiting lease =>
    split
    · rename_i free
      exact inv.releaseKey stage free
    · exact inv
  case unlocking lease => exact inv.unlocked stage
  case closeGate =>
    split
    · rename_i free
      exact inv.closeSession stage free
    · exact inv
  case closeJoining s =>
    split
    · have awaits : w.stages (.task t) ≠ .finished := by
        rw [stage]
        simp
      exact inv.moveOn (task_unfinished awaits) trivial
    · exact inv
  case retiring s retire => exact inv.retireTurn stage

lemma setSession_unlock (given : lease ∈ w.givenUp) (held : lease ∈ (w.sessions lease.session).leases) :
    Sound (w.setSession lease.session ((w.sessions lease.session).unlock lease.key)) := by
  apply inv.setSession
  · rfl
  · exact id
  · intro busy valid alt reg kept
    have ne : alt.key ≠ lease.key := by
      intro same
      have it : alt = lease := inv.lease_eq reg held same
      exact kept (it ▸ given)
    show 0 < Function.update (w.sessions lease.session).locked lease.key _ alt.key
    rw [update_of_ne ne]
    exact inv.shared.locked _ busy valid alt reg kept
  · exact fun invalidated => ⟨inv.shared.discarded _ invalidated, inv.shared.valid _ invalidated⟩

lemma setSession_same (s : ℕ) : Sound (w.setSession s (w.sessions s)) := by
  unfold World.setSession
  rw [update_eq_self]
  exact inv

lemma raiseTask (t : τ) (effect : Bool) : Sound (w.raiseTask t effect) := by
  have own := inv.workers (.task t)
  have leaves : w.stages (.task t) ≠ .finished → Sound (w.go (.task t) .running) := by
    intro awaits
    exact inv.moveOn (task_unfinished awaits) trivial
  have breaks : w.stages (.task t) ≠ .finished → w.serial = some (.task t) →
      ∀ s raisedIn sess, Sound (w.setSession s sess) →
        Sound (w.broken (.task t) s raisedIn sess) := by
    intro awaits mine s raisedIn sess changed
    exact Sound.broken (task_unfinished awaits) mine (by simp) changed
  unfold World.raiseTask
  cases stage : w.stages (.task t) <;> simp only [stage] at own leaves breaks ⊢
  case absent | running | finished | retireGate | sleeping | pingWaiting | pinging => exact inv
  case gate | joining | waiting | releaseWaiting | closeGate | closeJoining => exact leaves (by simp)
  case connecting =>
    exact inv.leaveLifecycle (task_unfinished (by simp [stage])) (.inr own.1)
  case resolving key s => exact breaks (by simp) own.2 s _ _ (inv.setSession_same s)
  case locking key s =>
    apply breaks (by simp) own.2.1
    split
    · exact inv.setSession_lock s key
    · exact inv.setSession_same s
  case unlocking lease =>
    apply breaks (by simp) own.2.2.1
    split
    · exact inv.setSession_unlock own.2.1 own.2.2.2
    · exact inv.setSession_same _
  case retiring s retire => exact inv.retireRaised stage effect

lemma resumeMonitor (s : ℕ) (out : Outcome) : Sound (w.resumeMonitor s out) := by
  have own := inv.workers (.monitor s)
  have awaits : ∀ t : τ, Worker.monitor s = .task t → w.stages (.monitor s) ≠ .finished := by
    intro t never
    cases never
  have leaves : Sound (w.leave (.monitor s)) := inv.leave awaits
  unfold World.resumeMonitor
  cases stage : w.stages (.monitor s) <;> simp only [stage] at own <;> try exact inv
  case sleeping =>
    cases out with
    | returned => exact inv.moveOn awaits trivial
    | timedOut | raised => exact leaves
  case pingWaiting =>
    cases out with
    | returned =>
      simp only
      split
      · exact inv
      rename_i free
      split
      · exact leaves
      · have pings : WorkerSound (moved w (.monitor s) .pinging (some (.monitor s)) w.lifecycle
            w.closed w.cancels w.givenUp) (.monitor s) .pinging := rfl
        exact inv.quiet awaits (.inr (.inl (not_not.mp free))) (.inl rfl) (fun _ given => given) pings
    | timedOut =>
      apply (inv.fail s none).leave
      intro t never
      cases never
    | raised => exact leaves
  case pinging =>
    cases out with
    | returned =>
      simp only
      split
      · exact inv.leaveSerial awaits (.inr own)
      · exact inv.quiet awaits (.inr (.inr own)) (.inl rfl) (fun _ given => given) trivial
    | timedOut | raised => exact Sound.broken awaits own (by simp) (inv.setSession_same s)

lemma resumeRetirement (s : ℕ) (out : Outcome) (effect : Bool) : Sound (w.resumeRetirement s out effect) := by
  have awaits : ∀ t : τ, Worker.retirement s = .task t →
      w.stages (.retirement s) ≠ .finished := by
    intro t never
    cases never
  unfold World.resumeRetirement
  cases stage : w.stages (.retirement s) <;> try exact inv
  case retireGate =>
    cases out with
    | returned =>
      simp only
      split
      · rename_i free
        exact inv.retireFailed free
      · exact inv
    | timedOut | raised => exact inv.leave awaits
  case retiring sess retire =>
    cases out with
    | returned => exact inv.retireTurn stage
    | timedOut | raised => exact inv.retireRaised stage effect

end

lemma step (inv : Sound w) (act : Action κ τ) : Sound (DiscordLocks.step w act) := by
  cases act with
  | claim t req =>
    rw [DiscordLocks.step]
    split
    · rename_i claims
      have awaits : w.stages (.task t) ≠ .finished := by
        rw [claims.1]
        simp
      exact inv.moveOn (task_unfinished awaits) trivial
    · exact inv
  | release t lease =>
    rw [DiscordLocks.step]
    split
    · rename_i releases
      obtain ⟨running, -, owner⟩ := releases
      have own : WorkerSound (moved w (.task t) (.releaseWaiting lease) w.serial w.lifecycle
          w.closed w.cancels (lease :: w.givenUp)) (.task t) (.releaseWaiting lease) :=
        ⟨by rw [owner], mem_cons_self⟩
      refine inv.quiet ?_ (.inl rfl) (.inl rfl) (fun _ given => mem_cons_of_mem _ given) own
      apply task_unfinished
      rw [running]
      simp
    · exact inv
  | close t =>
    rw [DiscordLocks.step]
    split
    · rename_i closes
      have awaits : w.stages (.task t) ≠ .finished := by
        rw [closes.1]
        simp
      exact inv.moveOn (task_unfinished awaits) trivial
    · exact inv
  | finish t =>
    rw [DiscordLocks.step]
    split
    · rename_i running
      have awaits : w.stages (.task t) ≠ .finished := by
        rw [running]
        simp
      exact inv.moveOn (task_unfinished awaits) trivial
    · exact inv
  | cancel t => exact inv.cancelAll _
  | resume worker out effect =>
    cases worker with
    | task t =>
      cases out with
      | returned => exact inv.returnTask t effect
      | timedOut | raised => exact inv.raiseTask t effect
    | monitor s => exact inv.resumeMonitor s out
    | retirement s => exact inv.resumeRetirement s out effect

end Sound
end Clawdi.DiscordLocks
