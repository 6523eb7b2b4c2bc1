import Clawdi.CliUpdate.Calls
import Clawdi.Lib.Transition

namespace Clawdi.CliUpdate
open Program Transition
variable {τ V ι : Type} [DecidableEq V]

def Initial (host : Host τ V ι) (m : Machine τ V ι) : Prop :=
  (m.link = none ∧ m.receipt = none) ∨ ∃ tgt, m.link = some tgt.activeTarget ∧ m.receipt = some (.bootstrap tgt) ∧
      Sound host m tgt.activeTarget tgt.version

def Event.clear (s : System τ V ι) : Event τ V → Bool
  | .proceed _ =>
    match s.running with
    | some ⟨_, _, .perform op _⟩ => op.clear s.machine
    | _ => true
  | _ => true

def Finishes (call : Call V) (start : Machine τ V ι) (out : Except (Failure V) (Outcome V ι))
    (m : Machine τ V ι) : Prop :=
  match call with
  | .reconcile _ => ∀ res, out = .ok res → Agrees m
  | .rollback _ => ∀ st p, start.receipt = some (.state st) → st.previous = some p →
      (∃ res, out = .ok (.rolledBack res) ∧ res.status = .rolledBack) ∧
        ∃ state', Settled m state' ∧ state'.activeTarget = p.activeTarget ∧ state'.previous = none
  | _ => True

structure Valid (host : Host τ V ι) (s : System τ V ι) : Prop where
  consistent : Consistent host s.machine
  safe : ∀ proc ∈ s.running, Wp (rules host) proc.program (Finishes proc.call proc.start) s.machine

section
variable {host : Host τ V ι}
variable {m : Machine τ V ι}

omit [DecidableEq V] in
lemma consistent_initial (init : Initial host m) : Consistent host m := by
  rcases init with ⟨link, rcpt⟩ | ⟨tgt, link, rcpt, inv⟩
  · constructor
    · rw [link]
      exact fun _ => nofun
    · rw [rcpt]
      exact fun _ => nofun
    · rw [rcpt]
      exact fun _ => nofun
  · constructor
    · rw [link]
      rintro _ ⟨⟩
      exact ⟨tgt.version, inv⟩
    · rw [rcpt]
      exact fun _ => nofun
    · rw [rcpt]
      rintro _ ⟨⟩
      exact ⟨link, inv⟩

omit [DecidableEq V] in
lemma Finishes.wait {call start out} (finishes : Finishes call start out m)
    (elapsed : ℕ) : Finishes call start out (m.wait elapsed) := by
  have frame := (later_wait m elapsed).frame
  cases call with
  | reconcile runningVersion => exact fun res is => (finishes res is).frame frame
  | rollback reason =>
    intro st p wrote pend
    obtain ⟨res, state', settled, rest⟩ := finishes st p wrote pend
    exact ⟨res, state', settled.frame frame, rest⟩
  | apply | complete => exact trivial

lemma clear_later {m'} (op : Op V ι) (later : Later m m') : op.clear m' = op.clear m := by
  cases op with
  | install ver => rw [Op.clear, Op.clear, Machine.state, Machine.state, later.receipt]
  | _ => rfl

lemma execute_waited (m : Machine τ V ι) (ans : Answer τ V) (elapsed : ℕ) (op : Op V ι) :
    host.execute (m.wait (elapsed + ans.elapsed)) { ans with elapsed := elapsed + ans.elapsed } op =
      host.execute ((m.wait elapsed).wait ans.elapsed) ans op := by
  have same : m.wait (elapsed + ans.elapsed) = (m.wait elapsed).wait ans.elapsed := by
    simp only [Machine.wait, Nat.add_assoc]
  rw [same]
  cases op <;> rfl

lemma wp_wait {α : Type} {program} {post : α → Machine τ V ι → Prop}
    (stays : ∀ a m elapsed, post a m → post a (m.wait elapsed))
    (safe : Wp (rules host) program post m) (elapsed : ℕ) : Wp (rules host) program post (m.wait elapsed) := by
  cases program with
  | done a => exact stays a m elapsed safe
  | perform op next =>
    refine ⟨Allowed.later safe.1 (later_wait m elapsed), ?_⟩
    rintro res m' ⟨clear, consistent, ans, ran⟩
    apply safe.2 res m'
    refine ⟨clear, consistent, { ans with elapsed := elapsed + ans.elapsed }, ?_⟩
    rw [← ran]
    exact execute_waited m ans elapsed op

variable [DecidableEq ι]

lemma safe_call (consistent : Consistent host m) (call : Call V) :
    Wp (rules host) call.update.run (Finishes call m) m := by
  cases call with
  | apply desiredVersion runningVersion =>
    have meets : Meets host (Call.apply desiredVersion runningVersion).update (fun _ _ => True)
        (fun _ _ => True) m := meets_map.mpr (meets_apply consistent)
    exact Wp.mono (fun _ _ _ => trivial) meets
  | complete currentVersion =>
    have meets : Meets host (Call.complete currentVersion).update (fun _ _ => True)
        (fun _ _ => True) m := meets_map.mpr (meets_complete consistent)
    exact Wp.mono (fun _ _ _ => trivial) meets
  | reconcile runningVersion =>
    have meets : Meets host (Call.reconcile runningVersion).update (fun _ m' => Agrees m')
        (fun _ _ => False) m := by
      refine meets_map.mpr ((meets_reconcile consistent).mono ?_ fun _ _ fails => fails)
      exact fun _ _ ⟨_, agrees, _⟩ => agrees
    apply Wp.mono _ meets
    rintro (err | out) m' holds
    · exact absurd holds id
    · exact fun _ _ => holds
  | rollback reason =>
    have meets : Meets host (Call.rollback reason).update
        (fun out m' => Finishes (.rollback reason) m (.ok out) m') (fun _ _ => False) m := by
      refine meets_map.mpr ((meets_rollback consistent).mono ?_ fun _ _ fails => fails)
      intro res m' rolls st p wrote pend
      obtain ⟨status, restored⟩ := rolls st p wrote pend
      exact ⟨⟨res, rfl, status⟩, restored⟩
    apply Wp.mono _ meets
    rintro (err | out) m' holds
    · exact absurd holds id
    · exact holds

lemma Valid.step {s} {e : Event τ V} (valid : Valid host s)
    (clear : e.clear s = true) : Valid host (s.step host e) := by
  cases e with
  | call call =>
    rw [System.step]
    split
    · refine ⟨valid.consistent, ?_⟩
      rintro _ ⟨⟩
      exact safe_call valid.consistent call
    · exact valid
  | stop => exact ⟨valid.consistent, fun _ => nofun⟩
  | wait elapsed =>
    refine ⟨valid.consistent.later (later_wait s.machine elapsed), ?_⟩
    intro proc runs
    exact wp_wait (fun _ _ elapsed finishes => finishes.wait elapsed) (valid.safe proc runs) elapsed
  | proceed ans =>
    rw [System.step]
    split
    · rename_i call start op next runs
      have safe := valid.safe _ runs
      have later := later_wait s.machine ans.elapsed
      have ready : op.clear s.machine = true := by simpa [Event.clear, runs] using clear
      have consistent := (valid.consistent.later later).execute (Allowed.later safe.1 later)
        ((clear_later op later).trans ready) ans
      refine ⟨consistent, ?_⟩
      rintro _ ⟨⟩
      exact safe.2 _ _ ⟨ready, consistent, ans, rfl⟩
    · exact valid

end

structure Recoverable (host : Host τ V ι) (s : System τ V ι) : Prop where
  /-- The active link points into an installed prefix. -/
  linked : ∀ tgt ∈ s.machine.link, (s.machine.trees tgt).isSome
  /-- The rollback target is as it was verified. -/
  previous : ∀ st, s.machine.receipt = some (.state st) → ∀ p ∈ st.previous,
    s.machine.trees p.activeTarget = s.machine.verified p.activeTarget ∧
      (s.machine.trees p.activeTarget).bind host.version = some p.version
  /-- A rollback that has returned has restored it. -/
  rolledBack : ∀ reason start out, s.running = some ⟨.rollback reason, start, .done out⟩ →
      ∀ st p, start.receipt = some (.state st) → st.previous = some p →
        (∃ res, out = .ok (.rolledBack res) ∧ res.status = .rolledBack) ∧ s.machine.link = some p.activeTarget
  reconciled : ∀ runningVersion start res, s.running = some ⟨.reconcile runningVersion, start, .done (.ok res)⟩ →
      (s.machine.link = none ∧ s.machine.receipt = none) ∨ ∃ st, s.machine.receipt = some (.state st) ∧
          s.machine.link = some st.activeTarget ∧
          s.machine.trees st.activeTarget = s.machine.verified st.activeTarget ∧
          (s.machine.trees st.activeTarget).bind host.version = some st.version

def Activates (host : Host τ V ι) [DecidableEq ι] (s : System τ V ι) (e : Event τ V) : Prop :=
  ∀ tgt ver, (s.step host e).machine.link = some tgt → s.machine.link ≠ some tgt →
    (s.machine.trees tgt).bind host.version = some ver →
      ∀ st, s.machine.receipt = some (.state st) → ∀ bad ∈ st.bad, bad.version = ver →
        bad.retryAt ≤ (s.step host e).machine.now

section
variable {host : Host τ V ι}
variable {m : Machine τ V ι} {s : System τ V ι}

omit [DecidableEq V] in
lemma Sound.unchanged {tgt ver} (inv : Sound host m tgt ver) :
    m.trees tgt = m.verified tgt ∧ (m.trees tgt).bind host.version = some ver := by
  obtain ⟨tree, here, verified, _, _, hit⟩ := inv.tree
  rw [here, verified]
  exact ⟨rfl, hit⟩

lemma Valid.recoverable (valid : Valid host s) : Recoverable host s := by
  constructor
  · intro tgt linked
    obtain ⟨ver, inv⟩ := valid.consistent.link tgt linked
    obtain ⟨tree, here, _⟩ := inv.tree
    rw [here]
    rfl
  · intro st wrote p pend
    exact ((valid.consistent.state st wrote).previous p pend).unchanged
  · intro reason start out runs st p wrote pend
    obtain ⟨res, state', settled, tgt, _⟩ := valid.safe _ runs st p wrote pend
    exact ⟨res, tgt ▸ settled.link⟩
  · intro runningVersion start res runs
    rcases valid.safe _ runs res rfl with nothing | ⟨st, settled⟩
    · exact .inl nothing
    · have inv := (valid.consistent.state st settled.receipt).active.unchanged
      exact .inr ⟨st, settled.receipt, settled.link, inv⟩

variable [DecidableEq ι]

omit [DecidableEq ι] in
lemma execute_link {ans op tgt} (linked : (host.execute m ans op).2.link = some tgt) (alt : m.link ≠ some tgt) :
    op = .swap tgt := by
  cases op with
  | swap t =>
    cases linked
    rfl
  | unlink => exact nomatch linked
  | probe t =>
    have same : (m.probe host t).2.link = m.link := (later_probe t).link
    exact absurd (same.symm.trans linked) alt
  | receipt | link | now | inspect _ | write _ | install _ | prune _ => exact absurd linked alt

lemma Valid.activates {e} (valid : Valid host s) : Activates host s e := by
  intro tgt ver linked alt hit st wrote bad noted same
  cases e with
  | call call =>
    apply absurd _ alt
    rw [← linked, System.step]
    split <;> rfl
  | stop | wait => exact absurd linked alt
  | proceed ans =>
    rw [System.step] at linked ⊢
    split at linked
    · rename_i call start op next runs
      have safe := valid.safe _ runs
      have later := later_wait s.machine ans.elapsed
      obtain rfl := execute_link linked alt
      obtain ⟨_, active, inv, due⟩ := safe.1
      rw [inv.unchanged.2] at hit
      cases hit
      exact Nat.le_trans (due st wrote bad noted same) later.now
    · exact absurd linked alt

/-- Whatever npm, crashes and callers do, as long as no npm install of the version of the rollback
target starts. -/
theorem cli_upgrade_recoverable {m : Machine τ V ι} (init : Initial host m) (evs : List (Event τ V))
    (clear : Always (System.step host) (fun s e => e.clear s) ⟨m, none⟩ evs) :
    Recoverable host (run (System.step host) ⟨m, none⟩ evs) ∧
      Always (System.step host) (Activates host) ⟨m, none⟩ evs := by
  have valid : Valid host ⟨m, none⟩ := ⟨consistent_initial init, fun _ => nofun⟩
  constructor
  · exact (Always.invariant (fun _ _ valid clear => valid.step clear) valid clear).recoverable
  · exact clear.strengthen (fun _ _ valid clear => valid.step clear) (fun _ _ valid _ => valid.activates) valid

end

section

def plainHost : Host (ℕ × Option ℕ) ℕ ℕ where
  trusted _ := true
  identity tree := some tree.1
  version tree := tree.2

def calls (call : Call ℕ) (ans : Answer (ℕ × Option ℕ) ℕ) : List (Event (ℕ × Option ℕ) ℕ) :=
  .call call :: List.replicate 18 (.proceed ans) ++ [.stop]

def upgradeRun : List (Event (ℕ × Option ℕ) ℕ) :=
  calls (.apply (some 1) none) { tree := some (1, some 1) } ++
    calls (.apply (some 2) none) { tree := some (2, some 2) }

theorem cli_upgrade_recoverable_pending :
    ((run (System.step plainHost) ⟨{}, none⟩ upgradeRun).machine.state.map fun st =>
        (st.version, st.previous.map (·.version))) = some (2, some 1) ∧
      Recoverable plainHost (run (System.step plainHost) ⟨{}, none⟩ upgradeRun) ∧
      Always (System.step plainHost) (Activates plainHost) ⟨{}, none⟩ upgradeRun :=
  ⟨by decide +kernel, cli_upgrade_recoverable (.inl ⟨rfl, rfl⟩) upgradeRun (by decide +kernel)⟩

def returnRun : List (Event (ℕ × Option ℕ) ℕ) :=
  upgradeRun ++ calls (.apply (some 1) none) { tree := some (3, none), succeeds := false }

/-- The rollback target is not as it was verified, and nothing can be rolled back to. -/
theorem rollback_target_overwritten : ¬∀ evs : List (Event (ℕ × Option ℕ) ℕ), Recoverable plainHost
      (run (System.step plainHost) ⟨{}, none⟩ evs) := by
  intro recoverable
  have pend : ((run (System.step plainHost) ⟨{}, none⟩ returnRun).machine.state.bind
      (·.previous)) = some ⟨.package 1, 1⟩ := by decide +kernel
  obtain ⟨st, hit, prev⟩ := Option.bind_eq_some_iff.mp pend
  have kept := ((recoverable returnRun).previous st (state_receipt hit) _ prev).2
  exact nomatch kept

end
end Clawdi.CliUpdate
