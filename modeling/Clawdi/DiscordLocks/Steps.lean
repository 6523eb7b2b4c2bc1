import Clawdi.DiscordLocks.Invariant

namespace Clawdi.DiscordLocks
open List Nat
open Function (update update_eq_self update_of_ne update_self)
variable {κ τ : Type} [DecidableEq κ] [DecidableEq τ] {w : World κ τ}
namespace Sound
variable {t : τ} {s : ℕ}

omit [DecidableEq κ] [DecidableEq τ] in
lemma task_unfinished (awaits : w.stages (.task t) ≠ .finished) :
    ∀ t', Worker.task t = .task t' → w.stages (.task t) ≠ .finished := fun _ _ => awaits

lemma leases_of_current (inv : Sound w) (alt : w.current ≠ some s) : (w.sessions s).leases = [] := by
  apply eq_nil_iff_forall_not_mem.mpr
  intro lease reg
  exact alt (inv.shared.registered s lease reg).2.2

lemma connect (inv : Sound w) {req}
    (connecting : w.stages (.task t) = .connecting req) : Sound (w.connect t req) := by
  have own := inv.workers (.task t)
  rw [connecting] at own
  obtain ⟨mine, none⟩ := own
  have shared := inv.shared
  have empty : ∀ s, (w.sessions s).leases = [] := by
    intro s
    apply inv.leases_of_current
    rw [none]
    simp
  have emptyAfter : ∀ s, ((w.connect t req).sessions s).leases = [] := by
    intro s
    show (update w.sessions w.nextSession {} s).leases = []
    by_cases new : s = w.nextSession
    · rw [new, update_self]
    · rw [update_of_ne new, empty]
  have fin : ∀ t', w.finished t' → (w.connect t req).finished t' := by
    intro t' ended
    unfold World.finished at ended ⊢
    rw [decide_eq_true_eq] at ended ⊢
    have ne : t' ≠ t := by
      intro same
      rw [same, connecting] at ended
      cases ended
    show update (update w.stages _ _) _ _ (Worker.task t') = _
    rw [update_of_ne (by simpa using ne), update_of_ne (by simp), ended]
  apply inv.change
  · constructor
    · intro s cur
      have same : w.nextSession = s := Option.some.inj cur
      exact congrArg (· + 1) same.symm
    · intro s old
      by_cases new : s = w.nextSession
      · left
        show some w.nextSession = some s
        rw [new]
      · right
        have pre : s < w.nextSession := by
          have bound : s < w.nextSession + 1 := old
          omega
        show (update w.sessions w.nextSession {} s).closing = true
        rw [update_of_ne new]
        rcases shared.retired s pre with cur | closing
        · rw [none] at cur
          cases cur
        · exact closing
    · intro s lease reg
      rw [emptyAfter] at reg
      cases reg
    · intro s
      rw [emptyAfter]
      exact nodup_nil
    · intro lease issued
      exact lt_succ_of_lt (shared.bounded lease issued)
    · intro lease issued
      rcases shared.accounted lease issued with reg | released | ended
      · rw [empty] at reg
        cases reg
      · exact .inr (.inl released)
      · exact .inr (.inr (fin _ ended))
    · exact shared.returned
    · intro s _ _ lease reg
      rw [emptyAfter] at reg
      cases reg
    · intro s _ lease reg
      rw [emptyAfter] at reg
      cases reg
    · intro s
      show (update w.sessions w.nextSession {} s).invalidated = true →
        (update w.sessions w.nextSession {} s).closing = true
      by_cases new : s = w.nextSession
      · rw [new, update_self]
        intro never
        cases never
      · rw [update_of_ne new]
        exact shared.valid s
  · intro worker
    by_cases same : worker = .task t
    · subst same
      right
      have here : (w.connect t req).stages (.task t) = .waiting req w.nextSession := update_self ..
      rw [here]
      exact lt_succ_self _
    by_cases monitor : worker = .monitor w.nextSession
    · subst monitor
      right
      have here : (w.connect t req).stages (.monitor w.nextSession) = .sleeping := by
        show update (update w.stages (.monitor w.nextSession) .sleeping)
          (.task t) (.waiting req w.nextSession) (.monitor w.nextSession) = .sleeping
        rw [update_of_ne same, update_self]
      rw [here]
      exact trivial
    left
    constructor
    · show update (update w.stages _ _) _ _ worker = w.stages worker
      rw [update_of_ne same, update_of_ne monitor]
    · refine ⟨le_succ _, fun _ given => given, fin, ?_, ?_⟩
      · intro theirs
        refine ⟨theirs, ?_⟩
        intro s
        rw [emptyAfter, empty]
      · intro theirs
        rw [mine] at theirs
        exact absurd (Option.some.inj theirs).symm same

omit [DecidableEq τ] in
lemma lock_locked (sess : Session κ τ) (key alt : κ) : sess.locked alt ≤ (sess.lock key).locked alt := by
  unfold Session.lock
  by_cases same : alt = key
  · subst same
    simp
  · simp [update_of_ne same]

section
variable (inv : Sound w)
include inv

lemma setSession_lock (s : ℕ) (key : κ) : Sound (w.setSession s ((w.sessions s).lock key)) := by
  apply inv.setSession
  · rfl
  · exact id
  · intro working valid lease reg kept
    have pre := inv.shared.locked s working valid lease reg kept
    exact lt_of_lt_of_le pre (lock_locked _ _ _)
  · exact fun invalidated => ⟨inv.shared.discarded s invalidated, inv.shared.valid s invalidated⟩

lemma register {key} (locking : w.stages (.task t) = .locking key s)
    (valid : (w.sessions s).lost = false) (lease : DiscordAdvisoryLease κ τ)
    (made : lease.key = key ∧ lease.owner = t ∧ lease.session = s) :
    Sound { w with
      serial := none
      sessions := update w.sessions s (((w.sessions s).lock key).register lease)
      issued := lease :: w.issued
      stages := update w.stages (.task t) .running } := by
  have own := inv.workers (.task t)
  rw [locking] at own
  obtain ⟨old, mine, unheld⟩ := own
  obtain ⟨keyed, -, placed⟩ := made
  have shared := inv.shared
  have closing : (w.sessions s).closing = false := by exact (Bool.or_eq_false_iff.mp valid).1
  have cur : w.current = some s := by
    rcases shared.retired s old with cur | closed
    · exact cur
    · rw [closing] at closed
      cases closed
  have move : Move w { w with
      serial := none
      sessions := update w.sessions s (((w.sessions s).lock key).register lease)
      issued := lease :: w.issued
      stages := update w.stages (.task t) .running } (.task t) := by
    refine ⟨fun alt ne => update_of_ne ne _ _, ?_, .inr (.inr mine), .inl rfl⟩
    apply task_unfinished
    rw [locking]
    simp
  have elsewhere : ∀ s', s' ≠ s → update w.sessions s
      (((w.sessions s).lock key).register lease) s' = w.sessions s' := by
    intro s' ne
    exact update_of_ne ne _ _
  apply inv.change
  · constructor
    · exact shared.current
    · intro s' pre
      by_cases it : s' = s
      · exact .inl (it ▸ cur)
      · show _ ∨ (update w.sessions s _ s').closing = true
        rw [elsewhere s' it]
        exact shared.retired s' pre
    · intro s' alt
      show alt ∈ (update w.sessions s _ s').leases → _
      by_cases it : s' = s
      · subst it
        rw [update_self]
        intro reg
        rcases mem_cons.mp reg with rfl | reg
        · exact ⟨placed, mem_cons_self, cur⟩
        · obtain ⟨place, issued, same⟩ := shared.registered s' alt reg
          exact ⟨place, mem_cons_of_mem _ issued, same⟩
      · rw [elsewhere s' it]
        intro reg
        obtain ⟨place, issued, same⟩ := shared.registered s' alt reg
        exact ⟨place, mem_cons_of_mem _ issued, same⟩
    · intro s'
      show ((update w.sessions s _ s').leases.map _).Nodup
      by_cases it : s' = s
      · subst it
        rw [update_self]
        apply nodup_cons.mpr
        refine ⟨?_, shared.keys s'⟩
        intro mem
        obtain ⟨alt, reg, same⟩ := mem_map.mp mem
        unfold Session.holds at unheld
        rw [any_eq_false] at unheld
        exact unheld alt reg (by simpa using same.trans keyed)
      · rw [elsewhere s' it]
        exact shared.keys s'
    · intro alt issued
      rcases mem_cons.mp issued with rfl | issued
      · rw [placed]
        exact old
      · exact shared.bounded alt issued
    · intro alt issued
      show alt ∈ (update w.sessions s _ alt.session).leases ∨ _
      rcases mem_cons.mp issued with rfl | issued
      · left
        rw [placed, update_self]
        exact mem_cons_self
      · rcases shared.accounted alt issued with reg | released | ended
        · left
          by_cases it : alt.session = s
          · rw [it] at reg ⊢
            rw [update_self]
            exact mem_cons_of_mem _ reg
          · rw [elsewhere _ it]
            exact reg
        · exact .inr (.inl released)
        · exact .inr (.inr (move.finished ended))
    · exact shared.returned
    · intro s'
      show (update w.sessions s _ s').failure = false → _
      by_cases it : s' = s
      · subst it
        show (update w.sessions s' _ s').failure = false → (update w.sessions s' _ s').invalidated = false →
          ∀ alt ∈ (update w.sessions s' _ s').leases, alt ∉ w.givenUp →
            0 < (update w.sessions s' _ s').locked alt.key
        rw [update_self]
        intro working connected alt reg kept
        rcases mem_cons.mp reg with rfl | reg
        · show 0 < update (w.sessions s').locked key _ alt.key
          rw [keyed, update_self]
          exact succ_pos _
        · have pre := shared.locked s' working connected alt reg kept
          exact lt_of_lt_of_le pre (lock_locked _ _ _)
      · show _ → (update w.sessions s _ s').invalidated = false →
          ∀ alt ∈ (update w.sessions s _ s').leases, alt ∉ w.givenUp → 0 < (update w.sessions s _ s').locked alt.key
        rw [elsewhere s' it]
        exact shared.locked s'
    · intro s' invalidated alt reg
      change (update w.sessions s _ s').invalidated = true at invalidated
      change alt ∈ (update w.sessions s _ s').leases at reg
      by_cases it : s' = s
      · subst it
        rw [update_self] at invalidated
        have closed := shared.valid s' invalidated
        rw [closing] at closed
        cases closed
      · rw [elsewhere s' it] at invalidated reg
        exact move.finished (shared.discarded s' invalidated alt reg)
    · intro s' invalidated
      change (update w.sessions s _ s').invalidated = true at invalidated
      show (update w.sessions s _ s').closing = true
      by_cases it : s' = s
      · subst it
        rw [update_self] at invalidated ⊢
        exact shared.valid s' invalidated
      · rw [elsewhere s' it] at invalidated ⊢
        exact shared.valid s' invalidated
  · intro worker
    by_cases same : worker = .task t
    · subst same
      right
      show WorkerSound _ _ (update w.stages _ _ _)
      rw [update_self]
      exact trivial
    · left
      refine ⟨move.others worker same, ?_⟩
      apply move.spares same le_rfl (fun _ given => given)
      · intro busy
        exact absurd mine busy.2
      · exact fun _ => rfl
      · intro _ s' pre
        have it : s' ≠ s := by
          intro it
          rw [it, closing] at pre
          cases pre
        show (update w.sessions s _ s').closing = true ∧
          ∀ alt ∈ (update w.sessions s _ s').leases, alt ∈ (w.sessions s').leases
        rw [elsewhere s' it]
        exact ⟨pre, fun _ reg => reg⟩

lemma locked {key} (locking : w.stages (.task t) = .locking key s) (granted : Bool) :
    Sound (w.locked t key s granted) := by
  have own := inv.workers (.task t)
  rw [locking] at own
  have mine : w.serial = none ∨ w.serial = some (.task t) := Or.inr own.2.1
  have awaits : ∀ t', Worker.task t = .task t' → w.stages (.task t) ≠ .finished := by
    apply task_unfinished
    rw [locking]
    simp
  unfold World.locked
  by_cases refused : ¬granted = true ∧ (w.sessions s).locked key = 0
  · rw [if_pos refused]
    exact inv.leaveSerial awaits mine
  rw [if_neg refused]
  by_cases lost : (w.sessions s).lost = true
  · rw [if_pos lost]
    exact (inv.setSession_lock s key).leaveSerial awaits mine
  · rw [if_neg lost]
    exact inv.register locking (eq_false_of_ne_true lost) _ ⟨rfl, rfl, rfl⟩

lemma lease_eq {first snd} (one : first ∈ (w.sessions s).leases)
    (alt : snd ∈ (w.sessions s).leases) (same : first.key = snd.key) : first = snd :=
  inj_on_of_nodup_map (inv.shared.keys s) one alt same

variable {lease : DiscordAdvisoryLease κ τ}

lemma pop (unlocking : w.stages (.task t) = .unlocking lease) :
    Sound { w with
      serial := none
      sessions := update w.sessions lease.session (((w.sessions lease.session).unlock lease.key).pop lease)
      released := lease :: w.released
      stages := update w.stages (.task t) .running } := by
  have own := inv.workers (.task t)
  rw [unlocking] at own
  obtain ⟨-, given, mine, held⟩ := own
  have shared := inv.shared
  have move : Move w { w with
      serial := none
      sessions := update w.sessions lease.session (((w.sessions lease.session).unlock lease.key).pop lease)
      released := lease :: w.released
      stages := update w.stages (.task t) .running } (.task t) := by
    refine ⟨fun alt ne => update_of_ne ne _ _, ?_, .inr (.inr mine), .inl rfl⟩
    apply task_unfinished
    rw [unlocking]
    simp
  have elsewhere : ∀ s, s ≠ lease.session → update w.sessions lease.session
      (((w.sessions lease.session).unlock lease.key).pop lease) s = w.sessions s := by
    intro s ne
    exact update_of_ne ne _ _
  have fewer : ∀ s, ∀ alt ∈ (update w.sessions lease.session
      (((w.sessions lease.session).unlock lease.key).pop lease) s).leases,
      alt ∈ (w.sessions s).leases := by
    intro s alt reg
    by_cases it : s = lease.session
    · subst it
      rw [update_self] at reg
      exact mem_of_mem_erase reg
    · rwa [elsewhere s it] at reg
  have flags : ∀ s, (update w.sessions lease.session
      (((w.sessions lease.session).unlock lease.key).pop lease) s).closing = (w.sessions s).closing ∧
      (update w.sessions lease.session
      (((w.sessions lease.session).unlock lease.key).pop lease) s).invalidated =
        (w.sessions s).invalidated := by
    intro s
    by_cases it : s = lease.session
    · subst it
      rw [update_self]
      exact ⟨rfl, rfl⟩
    · rw [elsewhere s it]
      exact ⟨rfl, rfl⟩
  apply inv.change
  · constructor
    · exact shared.current
    · intro s old
      rw [(flags s).1]
      exact shared.retired s old
    · intro s alt reg
      exact shared.registered s alt (fewer s alt reg)
    · intro s
      show ((update w.sessions lease.session _ s).leases.map _).Nodup
      by_cases it : s = lease.session
      · subst it
        rw [update_self]
        exact (shared.keys lease.session).sublist (List.Sublist.map _ erase_sublist)
      · rw [elsewhere s it]
        exact shared.keys s
    · exact shared.bounded
    · intro alt issued
      rcases shared.accounted alt issued with reg | released | ended
      · by_cases same : alt = lease
        · exact .inr (.inl (same ▸ mem_cons_self))
        · left
          show alt ∈ (update w.sessions lease.session _ alt.session).leases
          by_cases it : alt.session = lease.session
          · rw [it] at reg ⊢
            rw [update_self]
            exact (mem_erase_of_ne same).mpr reg
          · rw [elsewhere _ it]
            exact reg
      · exact .inr (.inl (mem_cons_of_mem _ released))
      · exact .inr (.inr (move.finished ended))
    · intro alt released
      rcases mem_cons.mp released with rfl | released
      · exact given
      · exact shared.returned alt released
    · intro s
      show (update w.sessions lease.session _ s).failure = false →
        (update w.sessions lease.session _ s).invalidated = false →
        ∀ alt ∈ (update w.sessions lease.session _ s).leases, alt ∉ w.givenUp →
          0 < (update w.sessions lease.session _ s).locked alt.key
      by_cases it : s = lease.session
      · subst it
        rw [update_self]
        intro working connected alt reg kept
        have pre := mem_of_mem_erase reg
        have ne : alt.key ≠ lease.key := by
          intro same
          have it : alt = lease := inv.lease_eq pre held same
          exact kept (it ▸ given)
        show 0 < update (w.sessions lease.session).locked lease.key _ alt.key
        rw [update_of_ne ne]
        exact shared.locked _ working connected alt pre kept
      · rw [elsewhere s it]
        exact shared.locked s
    · intro s invalidated alt reg
      rw [(flags s).2] at invalidated
      exact move.finished (shared.discarded s invalidated alt (fewer s alt reg))
    · intro s invalidated
      rw [(flags s).2] at invalidated
      rw [(flags s).1]
      exact shared.valid s invalidated
  · intro worker
    by_cases same : worker = .task t
    · subst same
      right
      have here : update w.stages (.task t) .running (.task t) = .running := update_self ..
      show WorkerSound _ _ (update w.stages (.task t) .running (.task t))
      rw [here]
      exact trivial
    · left
      refine ⟨move.others worker same, ?_⟩
      apply move.spares same le_rfl (fun _ given => given)
      · intro busy
        exact absurd mine busy.2
      · exact fun _ => rfl
      · intro _ s pre
        exact ⟨(flags s).1.trans pre, fewer s⟩

lemma unlocked (unlocking : w.stages (.task t) = .unlocking lease) : Sound (w.unlocked t lease) := by
  have own := inv.workers (.task t)
  rw [unlocking] at own
  unfold World.unlocked
  by_cases unheld : (w.sessions lease.session).locked lease.key = 0
  · rw [if_pos unheld]
    have same : w.setSession lease.session (w.sessions lease.session) = w := by
      unfold World.setSession
      rw [update_eq_self]
    have broken : Sound (w.broken (.task t) lease.session (some lease.owner)
        (w.sessions lease.session)) := by
      apply Sound.broken
      · apply task_unfinished
        rw [unlocking]
        simp
      · exact own.2.2.1
      · simp
      · rw [same]
        exact inv
    unfold World.broken at broken
    rw [same] at broken
    exact broken
  · rw [if_neg unheld]
    exact inv.pop unlocking

end
end Sound
end Clawdi.DiscordLocks
