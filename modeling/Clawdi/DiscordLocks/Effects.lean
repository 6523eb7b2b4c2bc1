import Clawdi.DiscordLocks.Ownership

namespace Clawdi.DiscordLocks
open Function (update update_of_ne update_self)
variable {κ τ : Type} {w after last : World κ τ}
  {spared : Option τ} {loose : ℕ → κ → Prop} {torn : Prop}

structure Quiet (w after : World κ τ) (spared : Option τ) (loose : ℕ → κ → Prop) : Prop where
  current : after.current = w.current
  nextSession : after.nextSession = w.nextSession
  issued : after.issued = w.issued
  leases : ∀ s, (after.sessions s).leases = (w.sessions s).leases
  invalidated : ∀ s, (after.sessions s).invalidated = (w.sessions s).invalidated
  disconnecting : ∀ worker s, after.stages worker = .retiring s .disconnecting →
    w.stages worker = .retiring s .disconnecting
  cancels : ∀ t, w.cancels t ≤ after.cancels t
  locked : ∀ s key, ¬loose s key → (w.sessions s).locked key ≤ (after.sessions s).locked key
  failed : ∀ s, (w.sessions s).failure = true → (after.sessions s).failure = true
  fails : ∀ s, (w.sessions s).failure = false → (after.sessions s).failure = true → ∀ lease ∈ (w.sessions s).leases,
      w.cancels lease.owner < after.cancels lease.owner ∨ spared = some lease.owner

namespace Quiet

lemma refl : Quiet w w spared loose := by
  refine ⟨rfl, rfl, rfl, fun _ => rfl, fun _ => rfl, fun _ _ same => same, fun _ => le_rfl,
    fun _ _ _ => le_rfl, fun _ failed => failed, ?_⟩
  intro s busy failed
  rw [busy] at failed
  cases failed

lemma trans (first : Quiet w after spared loose) (snd : Quiet after last spared loose) :
    Quiet w last spared loose := by
  refine ⟨snd.current.trans first.current, snd.nextSession.trans first.nextSession,
    snd.issued.trans first.issued, fun s => (snd.leases s).trans (first.leases s),
    fun s => (snd.invalidated s).trans (first.invalidated s),
    fun worker s same => first.disconnecting worker s (snd.disconnecting worker s same),
    fun t => (first.cancels t).trans (snd.cancels t),
    fun s key kept => (first.locked s key kept).trans (snd.locked s key kept),
    fun s failed => snd.failed s (first.failed s failed), ?_⟩
  intro s busy failed lease reg
  cases middle : (after.sessions s).failure with
  | true =>
    rcases first.fails s busy middle lease reg with more | same
    · exact .inl (lt_of_lt_of_le more (snd.cancels _))
    · exact .inr same
  | false =>
    rw [← first.leases] at reg
    rcases snd.fails s middle failed lease reg with more | same
    · exact .inl (lt_of_le_of_lt (first.cancels _) more)
    · exact .inr same

lemma of_same (cur : after.current = w.current)
    (nextSession : after.nextSession = w.nextSession) (issued : after.issued = w.issued)
    (sessions : after.sessions = w.sessions)
    (disconnecting : ∀ worker s, after.stages worker = .retiring s .disconnecting →
      w.stages worker = .retiring s .disconnecting)
    (cancels : ∀ t, w.cancels t ≤ after.cancels t) : Quiet w after spared loose := by
  refine ⟨cur, nextSession, issued, fun s => by rw [sessions], fun s => by rw [sessions],
    disconnecting, cancels, fun s key _ => by rw [sessions],
    fun s failed => by rw [sessions]; exact failed, ?_⟩
  intro s busy failed
  rw [sessions, busy] at failed
  cases failed

variable (holder : Option (Worker τ)) {stage : Stage κ τ} {sess : Session κ τ}

lemma setSerial : Quiet w (w.setSerial holder) spared loose :=
  of_same rfl rfl rfl rfl (fun _ _ same => same) fun _ => le_rfl

lemma setLifecycle : Quiet w (w.setLifecycle holder) spared loose :=
  of_same rfl rfl rfl rfl (fun _ _ same => same) fun _ => le_rfl

lemma cancelAll (doomed : τ → Bool) : Quiet w (w.cancelAll doomed) spared loose := by
  refine of_same rfl rfl rfl rfl (fun _ _ same => same) ?_
  intro t
  show w.cancels t ≤ if doomed t then w.cancels t + 1 else w.cancels t
  split <;> omega

lemma setSession {s : ℕ} (leases : sess.leases = (w.sessions s).leases)
    (invalidated : sess.invalidated = (w.sessions s).invalidated) (err : sess.failure = (w.sessions s).failure)
    (locked : ∀ key, ¬loose s key → (w.sessions s).locked key ≤ sess.locked key) :
    Quiet w (w.setSession s sess) spared loose := by
  have cases_of : ∀ s', update w.sessions s sess s' = w.sessions s' ∨
      s' = s ∧ update w.sessions s sess s' = sess := by
    intro s'
    by_cases it : s' = s
    · exact .inr ⟨it, by rw [it, update_self]⟩
    · exact .inl (update_of_ne it _ _)
  refine ⟨rfl, rfl, rfl, ?_, ?_, fun _ _ same => same, fun _ => le_rfl, ?_, ?_, ?_⟩
  · intro s'
    show (update w.sessions s sess s').leases = _
    rcases cases_of s' with same | ⟨it, same⟩
    · rw [same]
    · rw [same, leases, it]
  · intro s'
    show (update w.sessions s sess s').invalidated = _
    rcases cases_of s' with same | ⟨it, same⟩
    · rw [same]
    · rw [same, invalidated, it]
  · intro s' key kept
    show _ ≤ (update w.sessions s sess s').locked key
    rcases cases_of s' with same | ⟨it, same⟩
    · rw [same]
    · rw [same, it]
      exact locked key (it ▸ kept)
  · intro s' failed
    show (update w.sessions s sess s').failure = true
    rcases cases_of s' with same | ⟨it, same⟩
    · rw [same, failed]
    · rw [same, err, ← it, failed]
  · intro s' busy failed
    change (update w.sessions s sess s').failure = true at failed
    rcases cases_of s' with same | ⟨it, same⟩
    · rw [same, busy] at failed
      cases failed
    · rw [same, err, ← it, busy] at failed
      cases failed

variable [DecidableEq τ]

lemma update_disconnecting {worker} (elsewhere : ∀ s, stage ≠ .retiring s .disconnecting) (alt : Worker τ) (s : ℕ)
    (same : update w.stages worker stage alt = .retiring s .disconnecting) :
    w.stages alt = .retiring s .disconnecting := by
  by_cases it : alt = worker
  · rw [it, update_self] at same
    exact absurd same (elsewhere s)
  · rwa [update_of_ne it] at same

lemma go (worker : Worker τ) (elsewhere : ∀ s, stage ≠ .retiring s .disconnecting) :
    Quiet w (w.go worker stage) spared loose :=
  of_same rfl rfl rfl rfl (update_disconnecting elsewhere) fun _ => le_rfl

lemma leave (worker : Worker τ) : Quiet w (w.leave worker) spared loose := by
  cases worker <;> exact go _ (by simp)

lemma fail (s : ℕ) : Quiet w (w.fail s spared) spared loose := by
  unfold World.fail
  split
  · exact refl
  have cancels := @Quiet.cancelAll κ τ w spared loose fun t => (w.sessions s).owns t && spared != some t
  refine ⟨rfl, rfl, rfl, ?_, ?_, update_disconnecting (by simp), cancels.cancels, ?_, ?_, ?_⟩
  · intro s'
    show (update w.sessions s _ s').leases = _
    by_cases it : s' = s
    · rw [it, update_self]
    · rw [update_of_ne it]
  · intro s'
    show (update w.sessions s _ s').invalidated = _
    by_cases it : s' = s
    · rw [it, update_self]
    · rw [update_of_ne it]
  · intro s' key _
    show _ ≤ (update w.sessions s _ s').locked key
    by_cases it : s' = s
    · rw [it, update_self]
    · rw [update_of_ne it]
  · intro s' failed
    show (update w.sessions s _ s').failure = true
    by_cases it : s' = s
    · rw [it, update_self]
    · rw [update_of_ne it, failed]
  · intro s' busy failed lease reg
    change (update w.sessions s _ s').failure = true at failed
    by_cases it : s' = s
    · by_cases raised : spared = some lease.owner
      · exact .inr raised
      · left
        have owns : (w.sessions s).owns lease.owner = true := by
          unfold Session.owns
          rw [List.any_eq_true]
          exact ⟨lease, it ▸ reg, by simp⟩
        show w.cancels lease.owner < if (w.sessions s).owns lease.owner && spared != some lease.owner
          then w.cancels lease.owner + 1 else w.cancels lease.owner
        rw [owns, if_pos (by simpa using raised)]
        exact Nat.lt_succ_self _
    · rw [update_of_ne it, busy] at failed
      cases failed

lemma broken (worker : Worker τ) (s : ℕ) (leases : sess.leases = (w.sessions s).leases)
    (invalidated : sess.invalidated = (w.sessions s).invalidated) (err : sess.failure = (w.sessions s).failure)
    (locked : ∀ key, ¬loose s key → (w.sessions s).locked key ≤ sess.locked key) :
    Quiet w (w.broken worker s spared sess) spared loose :=
  (((setSession leases invalidated err locked).trans (fail s)).trans (setSerial none)).trans (leave worker)

end Quiet

variable [DecidableEq τ]

lemma quiet_session {s : ℕ} {stage worker} {lifecycle closed}
    (elsewhere : ∀ s, stage ≠ .retiring s .disconnecting) :
    Quiet w { w with
      closed := closed
      lifecycle := lifecycle
      sessions := update w.sessions s { w.sessions s with closing := true }
      stages := update w.stages worker stage } spared loose := by
  have closes : Quiet w (w.setSession s { w.sessions s with closing := true }) spared loose :=
    Quiet.setSession rfl rfl rfl fun _ _ => le_rfl
  apply closes.trans
  exact Quiet.of_same rfl rfl rfl rfl (Quiet.update_disconnecting elsewhere) fun _ => le_rfl

variable [DecidableEq κ]

omit [DecidableEq τ] in
lemma unlock_locked (sess : Session κ τ) {key alt} (ne : alt ≠ key) :
    (sess.unlock key).locked alt = sess.locked alt :=
  update_of_ne ne _ _

def Unlocking (w : World κ τ) (s : ℕ) (key : κ) : Prop :=
  ∃ t lease, w.stages (.task t) = .unlocking lease ∧ lease.session = s ∧ lease.key = key

inductive Effect (w : World κ τ) (spared : Option τ) (torn : Prop) : World κ τ → Prop where
  | quiet {after : World κ τ} (quiet : Quiet w after spared (Unlocking w)) :
    Effect w spared torn after
  | connected (t : τ) (req : Request κ)
    (connecting : w.stages (.task t) = .connecting req) :
    Effect w spared torn (w.connect t req)
  | registered (t : τ) (key : κ) (s : ℕ) (locking : w.stages (.task t) = .locking key s)
    (valid : (w.sessions s).lost = false) :
    Effect w spared torn { w with
      serial := none
      sessions := update w.sessions s (((w.sessions s).lock key).register ⟨key, t, s, w.issued.length⟩)
      issued := ⟨key, t, s, w.issued.length⟩ :: w.issued
      stages := update w.stages (.task t) .running }
  | popped (t : τ) (lease : DiscordAdvisoryLease κ τ)
    (unlocking : w.stages (.task t) = .unlocking lease) :
    Effect w spared torn { w with
      serial := none
      sessions := update w.sessions lease.session (((w.sessions lease.session).unlock lease.key).pop lease)
      released := lease :: w.released
      stages := update w.stages (.task t) .running }
  | invalidated (worker : Worker τ) (s : ℕ)
    (invalidating : w.stages worker = .retiring s .invalidating) :
    Effect w spared torn ((w.setSession s { w.sessions s with invalidated := true, locked := fun _ => 0 }).go worker
        (.retiring s .disconnecting))
  | interrupted (worker : Worker τ) (s : ℕ)
    (invalidating : w.stages worker = .retiring s .invalidating) (excused : torn) :
    Effect w spared torn (w.go worker (.retiring s .disconnecting))
  | disconnected (worker : Worker τ) (s : ℕ)
    (disconnecting : w.stages worker = .retiring s .disconnecting) :
    Effect w spared torn { ((w.setSession s { w.sessions s with leases := [] }).leave worker) with
      current := none
      serial := none
      lifecycle := none }

variable {worker : Worker τ} {s : ℕ} {stage : RetireStage τ} (t : τ) {effect : Bool}

lemma retireTurn_effect (retiring : w.stages worker = .retiring s stage) :
    Effect w spared torn (w.retireTurn worker s stage) := by
  cases stage with
  | joiningMonitor | joiningOwners =>
    rw [World.retireTurn]
    split
    · exact .quiet (Quiet.go worker (by simp))
    · exact .quiet .refl
  | draining =>
    rw [World.retireTurn]
    split
    · exact .quiet .refl
    · split
      · exact .quiet (Quiet.go worker (by simp))
      · exact .quiet ((Quiet.cancelAll _).trans (Quiet.go worker (by simp)))
  | discarding =>
    rw [World.retireTurn]
    split
    · exact .quiet .refl
    · exact .quiet ((Quiet.setSerial _).trans (Quiet.go worker (by simp)))
  | invalidating => exact .invalidated worker s retiring
  | disconnecting => exact .disconnected worker s retiring

lemma retireRaised_effect (retiring : w.stages worker = .retiring s stage)
    (tears : stage = .invalidating → effect = false → torn) :
    Effect w spared torn (w.retireRaised worker s effect stage) := by
  have leaves : ∀ {v : World κ τ}, Quiet w v spared (Unlocking w) →
      Effect w spared torn ((v.setLifecycle none).leave worker) := by
    intro v quiet
    exact .quiet ((quiet.trans (Quiet.setLifecycle none)).trans (Quiet.leave worker))
  cases stage with
  | joiningMonitor | draining | discarding => exact leaves .refl
  | joiningOwners owners => exact leaves (Quiet.cancelAll _)
  | invalidating =>
    rw [World.retireRaised]
    by_cases done : effect = true
    · rw [if_pos done]
      exact .invalidated worker s retiring
    · rw [if_neg done]
      exact .interrupted worker s retiring (tears rfl (eq_false_of_ne_true done))
  | disconnecting => exact leaves (Quiet.setSerial none)

lemma claimKey_quiet (key : κ) (s : ℕ) : Quiet w (w.claimKey t key s) spared loose := by
  unfold World.claimKey
  split <;> exact (Quiet.setSerial _).trans (Quiet.go _ (by simp))

lemma getSession_quiet (req : Request κ) : Quiet w (w.getSession t req) spared loose := by
  unfold World.getSession
  repeat' split
  · exact Quiet.go _ (by simp)
  · exact (Quiet.setLifecycle _).trans (Quiet.go _ (by simp))
  all_goals exact Quiet.go _ (by simp)

lemma closeSession_quiet : Quiet w (w.closeSession t) spared loose := by
  unfold World.closeSession
  split
  · exact Quiet.of_same rfl rfl rfl rfl (Quiet.update_disconnecting (by simp)) fun _ => le_rfl
  · split
    · exact Quiet.of_same rfl rfl rfl rfl (Quiet.update_disconnecting (by simp)) fun _ => le_rfl
    · exact quiet_session (by simp)

lemma returnTask_effect (inv : Sound w) (effect : Bool) : Effect w (some t) torn (w.returnTask t effect) := by
  have own := inv.workers (.task t)
  unfold World.returnTask
  cases stage : w.stages (.task t) <;> simp only [stage] at own ⊢ <;> try exact .quiet .refl
  case gate req =>
    split
    · exact .quiet (getSession_quiet t req)
    · exact .quiet .refl
  case connecting req => exact .connected t req stage
  case joining req s =>
    split
    · exact .quiet (Quiet.go _ (by simp))
    · exact .quiet .refl
  case waiting req s =>
    split
    · exact .quiet .refl
    split
    · exact .quiet (Quiet.go _ (by simp))
    split
    · exact .quiet ((Quiet.setSerial _).trans (Quiet.go _ (by simp)))
    · exact .quiet (claimKey_quiet t req.key s)
  case resolving key s => exact .quiet (claimKey_quiet t key s)
  case locking key s =>
    unfold World.locked
    split
    · exact .quiet ((Quiet.setSerial _).trans (Quiet.go _ (by simp)))
    split
    · have locks : Quiet w (w.setSession s ((w.sessions s).lock key)) (some t)
          (Unlocking w) :=
        Quiet.setSession rfl rfl rfl fun alt _ => Sound.lock_locked _ key alt
      exact .quiet ((locks.trans (Quiet.setSerial _)).trans (Quiet.go _ (by simp)))
    · rename_i valid
      exact .registered t key s stage (eq_false_of_ne_true valid)
  case releaseWaiting lease =>
    split
    · unfold World.releaseKey
      split
      · exact .quiet (Quiet.go _ (by simp))
      · exact .quiet ((Quiet.setSerial _).trans (Quiet.go _ (by simp)))
    · exact .quiet .refl
  case unlocking lease =>
    have owner : lease.owner = t := by
      have same := own.1
      simpa using same.symm
    unfold World.unlocked
    split
    · rw [owner]
      exact .quiet (((Quiet.fail lease.session).trans (Quiet.setSerial _)).trans (Quiet.go _ (by simp)))
    · exact .popped t lease stage
  case closeGate =>
    split
    · exact .quiet (closeSession_quiet t)
    · exact .quiet .refl
  case closeJoining s =>
    split
    · exact .quiet (Quiet.go _ (by simp))
    · exact .quiet .refl
  case retiring s retire => exact retireTurn_effect stage

lemma raiseTask_effect (inv : Sound w)
    (tears : ∀ s, w.stages (.task t) = .retiring s .invalidating → effect = false → torn) :
    Effect w (some t) torn (w.raiseTask t effect) := by
  have own := inv.workers (.task t)
  unfold World.raiseTask
  cases stage : w.stages (.task t) <;> simp only [stage] at own ⊢ <;>
    try first | exact .quiet .refl | exact .quiet (Quiet.go _ (by simp))
  case connecting => exact .quiet ((Quiet.setLifecycle _).trans (Quiet.go _ (by simp)))
  case resolving key s => exact .quiet (Quiet.broken _ s rfl rfl rfl fun _ _ => le_rfl)
  case locking key s =>
    split
    · exact .quiet (Quiet.broken _ s rfl rfl rfl fun alt _ => Sound.lock_locked _ key alt)
    · exact .quiet (Quiet.broken _ s rfl rfl rfl fun _ _ => le_rfl)
  case unlocking lease =>
    have owner : lease.owner = t := by
      have same := own.1
      simpa using same.symm
    rw [owner]
    split
    · have unlocks : ∀ key, ¬Unlocking w lease.session key → (w.sessions lease.session).locked key ≤
            ((w.sessions lease.session).unlock lease.key).locked key := by
        intro key kept
        rw [unlock_locked]
        intro same
        exact kept ⟨t, lease, stage, rfl, same.symm⟩
      exact .quiet (Quiet.broken _ _ rfl rfl rfl unlocks)
    · exact .quiet (Quiet.broken _ _ rfl rfl rfl fun _ _ => le_rfl)
  case retiring s retire =>
    exact retireRaised_effect stage fun same => tears s (same ▸ stage)

omit [DecidableEq κ] in
lemma resumeMonitor_quiet (s : ℕ) (out : Outcome) : Quiet w (w.resumeMonitor s out) none loose := by
  unfold World.resumeMonitor
  repeat' split
  · exact Quiet.go _ (by simp)
  · exact Quiet.leave _
  · exact .refl
  · exact Quiet.leave _
  · exact (Quiet.setSerial _).trans (Quiet.go _ (by simp))
  · exact (Quiet.fail s).trans (Quiet.leave _)
  · exact Quiet.leave _
  · exact (Quiet.setSerial _).trans (Quiet.leave _)
  · exact (Quiet.setSerial _).trans (Quiet.go _ (by simp))
  · exact Quiet.broken _ s rfl rfl rfl fun _ _ => le_rfl
  · exact .refl

lemma resumeRetirement_effect (s : ℕ) {out}
    (tears : ∀ sess, w.stages (.retirement s) = .retiring sess .invalidating → out ≠ .returned → effect =
      false → torn) : Effect w none torn (w.resumeRetirement s out effect) := by
  unfold World.resumeRetirement
  cases stage : w.stages (.retirement s) <;> try exact .quiet .refl
  case retireGate =>
    cases out with
    | returned =>
      simp only
      split
      · unfold World.retireFailed
        split
        · exact .quiet (Quiet.leave _)
        · exact .quiet (quiet_session (by simp))
      · exact .quiet .refl
    | timedOut | raised => exact .quiet (Quiet.leave _)
  case retiring sess retire =>
    cases out with
    | returned => exact retireTurn_effect stage
    | timedOut | raised => exact retireRaised_effect stage fun same => tears sess (same ▸ stage) (by decide)

def Stage.invalidates : Stage κ τ → Bool
  | .retiring _ .invalidating => true
  | _ => false

/-- `AsyncConnection.invalidate` discards its connection whether or not it raises. -/
def Discards (w : World κ τ) : Action κ τ → Prop
  | .resume worker out effect => out = .returned ∨ effect = true ∨ (w.stages worker).invalidates = false
  | _ => True

instance Discards.decidable (w : World κ τ) : ∀ act, Decidable (Discards w act)
  | .resume worker out effect => inferInstanceAs
      (Decidable (out = .returned ∨ effect = true ∨ (w.stages worker).invalidates = false))
  | .claim _ _ | .release _ _ | .close _ | .finish _ | .cancel _ => .isTrue trivial

def Action.task : Action κ τ → Option τ
  | .resume (.task t) _ _ => some t
  | _ => none

lemma step_effect (inv : Sound w) (act : Action κ τ) : Effect w act.task (¬Discards w act) (step w act) := by
  have tears : ∀ worker s out effect, w.stages worker = .retiring s .invalidating →
      out ≠ .returned → effect = false → ¬Discards w (.resume worker out effect) := by
    rintro worker s out effect stage raised rfl (returned | done | alt)
    · exact raised returned
    · cases done
    · rw [stage] at alt
      cases alt
  cases act with
  | release t lease =>
    rw [step]
    split
    · exact .quiet (Quiet.of_same rfl rfl rfl rfl (Quiet.update_disconnecting (by simp)) fun _ => le_rfl)
    · exact .quiet .refl
  | cancel t => exact .quiet (Quiet.cancelAll _)
  | resume worker out effect =>
    cases worker with
    | task t =>
      cases out with
      | returned => exact returnTask_effect t inv effect
      | timedOut | raised =>
        exact raiseTask_effect t inv fun s stage => tears (.task t) s _ effect stage (by decide)
    | monitor s => exact .quiet (resumeMonitor_quiet s out)
    | retirement s => exact resumeRetirement_effect s fun sess => tears (.retirement s) sess out effect
  | _ =>
    rw [step]
    split
    · exact .quiet (Quiet.go _ (by simp))
    · exact .quiet .refl

end Clawdi.DiscordLocks
