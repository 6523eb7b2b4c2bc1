import Clawdi.CliUpdate.Verified

namespace Clawdi.CliUpdate
open Program Option
variable {τ V ι : Type} [DecidableEq V] [DecidableEq ι] {host : Host τ V ι} {m : Machine τ V ι}
  {raised : Failure V → Machine τ V ι → Prop}

structure Candidate (m : Machine τ V ι) (ver : V) : Prop where
  agrees : Agrees m
  due : Due m ver
  active : ∀ st, m.receipt = some (.state st) → st.version ≠ ver
  previous : ∀ st, m.receipt = some (.state st) → ∀ p ∈ st.previous, p.version ≠ ver

section

omit [DecidableEq V] [DecidableEq ι]

variable {m' : Machine τ V ι} {ver : V}

lemma Settled.frame {st} (settled : Settled m st) (frame : Frame m m') : Settled m' st :=
  ⟨frame.link.trans settled.link, frame.receipt.trans settled.receipt⟩

lemma Agrees.frame (agrees : Agrees m) (frame : Frame m m') : Agrees m' := by
  rcases agrees with ⟨link, rcpt⟩ | ⟨st, settled⟩
  · exact .inl ⟨frame.link.trans link, frame.receipt.trans rcpt⟩
  · exact .inr ⟨st, settled.frame frame⟩

lemma Due.frame (due : Due m ver) (frame : Frame m m') : Due m' ver := by
  intro st wrote b bad same
  rw [frame.receipt] at wrote
  exact Nat.le_trans (due st wrote b bad same) frame.now

lemma Later.frame (later : Later m m') : Frame m m' := ⟨later.link, later.receipt, later.now⟩

lemma Frame.trans {n} (first : Frame m m') (snd : Frame m' n) : Frame m n :=
  ⟨snd.link.trans first.link, snd.receipt.trans first.receipt, Nat.le_trans first.now snd.now⟩

lemma Candidate.frame (cand : Candidate m ver) (frame : Frame m m') : Candidate m' ver where
  agrees := cand.agrees.frame frame
  due := cand.due.frame frame
  active := by
    rw [frame.receipt]
    exact cand.active
  previous := by
    rw [frame.receipt]
    exact cand.previous

lemma Agrees.adopted (agrees : Agrees m) : ∀ t, m.receipt ≠ some (.bootstrap t) := by
  rcases agrees with ⟨_, rcpt⟩ | ⟨st, settled⟩
  · rw [rcpt]
    exact fun t => nofun
  · exact written_state settled.receipt

lemma state_receipt {st} (hit : m.state = some st) : m.receipt = some (.state st) := by
  obtain ⟨rcpt, wrote, parsed⟩ := bind_eq_some_iff.mp hit
  rw [wrote]
  cases rcpt with
  | bootstrap tgt => exact nomatch parsed
  | state alt =>
    cases parsed
    rfl

lemma state_none (rcpt : m.receipt = none) : m.state = none := by
  rw [Machine.state, rcpt]
  rfl

lemma Settled.state {st} (settled : Settled m st) : m.state = some st := by
  rw [Machine.state, settled.receipt]
  rfl

end

omit [DecidableEq ι] in
lemma meets_readCliState {post : Option (State V ι) → Machine τ V ι → Prop}
    (rest : ∀ m', Later m m' → post m'.state m') : Meets host readCliState post raised m := by
  rw [readCliState, meets_bind]
  apply meets_receipt
  intro m' later
  exact rest m' later

section
variable (agree : Consistent host m)
include agree

lemma meets_installCliPackage {ver} (agrees : Agrees m) (due : Due m ver)
    (alt : ∀ st, m.receipt = some (.state st) → st.version ≠ ver) : Meets host (installCliPackage ver)
      (fun installed m' => Consistent host m' ∧ Candidate m' ver ∧ Frame m m' ∧
        Passed host m' (.package ver) installed ∧ installed.version = ver)
      (fun _ m' => Consistent host m' ∧ Candidate m' ver ∧ Frame m m') m := by
  have unnamed : ∀ st, m.receipt = some (.state st) →
      st.activeTarget ≠ .package ver := by
    intro st wrote same
    have inv := (agree.state st wrote).active
    exact alt st wrote (inv.named ver same).symm
  have allowed : Allowed host m (.install ver) := by
    refine ⟨?_, unnamed⟩
    rcases agrees with ⟨link, _⟩ | ⟨st, settled⟩
    · rw [link]
      rintro ⟨⟩
    · rw [settled.link]
      exact fun same => unnamed st settled.receipt (Option.some.inj same)
  rw [installCliPackage, meets_bind]
  apply meets_install allowed
  intro succeeds m₁ clear frame agree
  have cand : Candidate m₁ ver := by
    refine ⟨agrees.frame frame, due.frame frame, ?_, ?_⟩
    · rw [frame.receipt]
      exact alt
    · rw [frame.receipt]
      intro st wrote p pend
      simpa [Op.clear, Machine.state, wrote, Receipt.parse, mem_def.mp pend] using clear
  split
  · exact ⟨agree, cand, frame⟩
  · rw [meets_bind]
    apply (meets_requireVerified (.package ver) m₁).mono
    · rintro installed m₂ ⟨later, passed⟩
      have kept := And.intro (agree.later later) (And.intro (cand.frame later.frame) (frame.trans later.frame))
      split
      · exact kept
      · rename_i same
        exact ⟨kept.1, kept.2.1, kept.2.2, passed, not_not.mp same⟩
    · intro err m₂ later
      exact ⟨agree.later later, cand.frame later.frame, frame.trans later.frame⟩

lemma meets_keepActive {ver err} (cand : Candidate m ver) :
    Meets host (keepActive m.state ver err) (fun _ _ => True) (fun _ _ => True) m := by
  apply Meets.then (meets_markBadVersion _ _ _ m)
  rintro bad m₁ ⟨later₁, badVersion⟩
  have agree := agree.later later₁
  rcases cand.agrees with ⟨link, rcpt⟩ | ⟨st, settled⟩
  · rw [state_none rcpt, meets_bind]
    apply meets_prune
    · intro tgt protects
      rw [Protected, later₁.link, later₁.receipt, link, rcpt] at protects
      rcases protects with linked | ⟨_, wrote, _⟩
      · cases linked
      · cases wrote
    · intro m₂ _ _
      rw [meets_bind]
      exact meets_link fun _ _ => trivial
  · rw [settled.state]
    have settled := settled.frame later₁.frame
    have cand := cand.frame later₁.frame
    have inv := agree.state st settled.receipt
    have kept : SoundState host m₁ ⟨st.active.activeTarget, st.active.version, st.active.verification,
          st.previous, some bad⟩ := by
      refine ⟨inv.active, inv.previous, inv.apart, ?_, ?_⟩
      · rintro b ⟨⟩ p pend
        rw [badVersion]
        exact (cand.previous st settled.receipt p pend).symm
      · rintro b ⟨⟩ same
        rw [badVersion] at same
        exact absurd same.symm (cand.active st settled.receipt)
    apply Meets.then (meets_settle settled.link kept fun _ _ _ _ => trivial)
    rintro _ m₂ ⟨_, settled⟩
    apply Meets.then (meets_prune_settled settled)
    intro _ m₃ _
    rw [meets_bind]
    exact meets_link fun _ _ => trivial

omit [DecidableEq ι] in
lemma Candidate.sound {ver} {installed : Verified V ι} (cand : Candidate m ver)
    (active : Sound host m installed.activeTarget ver) (same : installed.version = ver) :
    SoundState host m ⟨installed.activeTarget, installed.version, installed.verification,
      m.state.bind fun st => st.previous.or (some st.target),
      (m.state.bind (·.bad)).filter fun bad => bad.version = installed.version⟩ := by
  rcases cand.agrees with ⟨link, rcpt⟩ | ⟨st, settled⟩
  · rw [state_none rcpt]
    refine ⟨same ▸ active, ?_, ?_, ?_, ?_⟩ <;> rintro _ ⟨⟩
  · rw [settled.state]
    have inv := agree.state st settled.receipt
    have others : ∀ p ∈ (some st).bind fun st => st.previous.or (some st.target),
        Sound host m p.activeTarget p.version ∧ p.version ≠ ver := by
      intro p named
      rcases or_eq_some_iff.mp named with pend | ⟨_, ⟨⟩⟩
      · exact ⟨inv.previous p pend, cand.previous st settled.receipt p pend⟩
      · exact ⟨inv.active, cand.active st settled.receipt⟩
    have held : ∀ b ∈ ((some st).bind (·.bad)).filter fun bad => bad.version = installed.version,
        b ∈ st.bad ∧ b.version = ver := by
      intro b named
      obtain ⟨bad, matching⟩ := filter_eq_some_iff.mp named
      exact ⟨bad, (of_decide_eq_true matching).trans same⟩
    refine ⟨same ▸ active, fun p named => (others p named).1, ?_, ?_, ?_⟩
    · intro p named
      rw [same]
      exact (others p named).2
    · intro b bad p named
      rw [(held b bad).2]
      exact (others p named).2.symm
    · intro b bad _
      exact cand.due st settled.receipt b (held b bad).1 (held b bad).2

lemma meets_activateInstalled {ver installed}
    (cand : Candidate m ver) (passed : Passed host m (.package ver) installed) (same : installed.version = ver) :
    Meets host (activateInstalled installed) (fun _ _ => True) (fun _ _ => True) m := by
  subst same
  have active : Sound host m installed.activeTarget installed.version := by
    rw [passed.same]
    refine ⟨?_, passed.tree⟩
    rintro v ⟨⟩
    rfl
  unfold activateInstalled
  rw [meets_bind]
  apply meets_readCliState
  intro m₁ later₁
  have agree := agree.later later₁
  have cand := cand.frame later₁.frame
  have active := active.later later₁
  have inv := cand.sound agree active rfl
  rw [meets_bind]
  apply meets_swap ⟨cand.agrees.adopted, installed.version, active, cand.due⟩
  intro m₂ later₂ consistent₂
  have inv : SoundState host m₂ _ :=
    SoundState.later (inv.keep rfl rfl rfl : SoundState host (m₁.swap installed.activeTarget) _) later₂
  rw [meets_bind, meets_attempt]
  apply (meets_writeCliState inv).mono
  · intro _ m₃ ⟨later₃, _⟩
    have link : m₃.link = some installed.activeTarget := later₃.link.trans later₂.link
    have settled : Settled m₃ ⟨installed.activeTarget, installed.version, installed.verification,
      _, _⟩ := ⟨link, later₃.receipt⟩
    apply Meets.then (meets_prune_settled settled)
    exact fun _ _ _ => trivial
  · intro err m₃ ⟨later₃, _⟩
    have rcpt : m₃.receipt = m₁.receipt := later₃.receipt.trans later₂.receipt
    have consistent₃ := consistent₂.later later₃
    rcases cand.agrees with ⟨_, unwritten⟩ | ⟨st, settled⟩
    · rw [state_none unwritten, meets_bind]
      apply meets_unlink
      · show ∀ t, m₃.receipt ≠ some (.bootstrap t)
        rw [rcpt]
        exact cand.agrees.adopted
      · exact fun _ => trivial
    · rw [settled.state]
      have wrote : m₃.receipt = some (.state st) := rcpt.trans settled.receipt
      have kept := consistent₃.state st wrote
      rw [meets_bind]
      apply meets_swap ⟨written_state wrote, st.version, kept.active, kept.due_active wrote⟩
      exact fun _ _ _ => trivial

lemma meets_apply {desiredVersion runningVersion} :
    Meets host (applyRuntimeCliDesiredState desiredVersion runningVersion) (fun _ _ => True) (fun _ _ => True) m := by
  apply Meets.then (meets_reconcile agree)
  rintro reconciliation m₁ ⟨agree, agrees, _⟩
  split
  · rw [meets_bind]
    apply meets_readCliState
    intro m₂ later₂
    rw [meets_bind]
    exact meets_link fun _ _ => trivial
  · cases desiredVersion with
    | none => exact trivial
    | some want =>
      rw [meets_bind]
      apply meets_readCliState
      intro m₂ later₂
      rw [meets_bind]
      apply meets_link
      intro m₃ later₃
      split
      · exact trivial
      · rename_i cur
        rw [meets_bind]
        apply meets_now
        intro m₄ later₄
        split
        · exact trivial
        · rename_i due
          have frame := (later₂.trans (later₃.trans later₄)).frame
          have agree := agree.later (later₂.trans (later₃.trans later₄))
          have agrees := agrees.frame frame
          have st : m₂.state = m₄.state := by rw [Machine.state, Machine.state, later₄.receipt, later₃.receipt]
          have link : m₃.link = m₄.link := later₄.link.symm
          rw [st, link] at cur
          rw [st] at due
          have alt : ∀ st, m₄.receipt = some (.state st) → st.version ≠ want := by
            intro st wrote same
            rcases agrees with ⟨_, rcpt⟩ | ⟨alt, settled⟩
            · cases wrote.symm.trans rcpt
            · rw [settled.receipt] at wrote
              cases wrote
              simp [settled.state, settled.link, same] at cur
          have due : Due m₄ want := by
            intro st wrote b bad same
            by_contra early
            rw [filter_eq_none_iff] at due
            apply due b
            · rw [Machine.state, wrote]
              exact bad
            · simpa [same, Bad.active] using early
          rw [meets_bind, meets_attempt]
          apply (meets_installCliPackage agree agrees due alt).mono
          · rintro installed m₅ ⟨agree, cand, _, passed, same⟩
            exact meets_activateInstalled agree cand passed same
          · rintro err m₅ ⟨agree, cand, frame⟩
            have st : m₂.state = m₅.state := by rw [st, Machine.state, Machine.state, frame.receipt]
            rw [st]
            exact meets_keepActive agree cand

lemma meets_complete {currentVersion} :
    Meets host (completePendingRuntimeCliUpgrade currentVersion) (fun _ _ => True) (fun _ _ => True) m := by
  apply Meets.then (meets_reconcile agree)
  rintro reconciliation m₁ ⟨agree, agrees, _⟩
  split
  · exact trivial
  · rw [meets_bind]
    apply meets_readCliState
    intro m₂ later₂
    have agree := agree.later later₂
    split
    · exact trivial
    · rename_i st hit
      have wrote : m₂.receipt = some (.state st) := state_receipt (filter_eq_some_iff.mp hit).1
      rw [meets_bind]
      apply meets_link
      intro m₃ later₃
      have inv := (agree.state st wrote).later later₃
      split
      · rename_i linked
        have completed : SoundState host m₃ ⟨st.active.activeTarget, st.active.version, st.active.verification, none,
              st.bad.filter fun bad => bad.version ≠ st.version⟩ := by
          refine ⟨inv.active, ?_, ?_, ?_, ?_⟩
          · rintro _ ⟨⟩
          · rintro _ ⟨⟩
          · rintro _ _ _ ⟨⟩
          · intro b kept same
            have apart := of_decide_eq_true (filter_eq_some_iff.mp kept).2
            exact absurd same apart
        apply Meets.then (meets_settle linked completed fun _ _ _ _ => trivial)
        rintro _ m₄ ⟨_, settled⟩
        apply Meets.then (meets_prune_settled settled)
        exact fun _ _ _ => trivial
      · exact trivial

lemma meets_rollback {reason} : Meets host (rollbackPendingRuntimeCliUpgrade reason)
      (fun r m' => ∀ st p, m.receipt = some (.state st) → st.previous = some p →
        r.status = .rolledBack ∧ ∃ state', Settled m' state' ∧
          state'.activeTarget = p.activeTarget ∧ state'.previous = none) raised m := by
  rw [rollbackPendingRuntimeCliUpgrade, meets_bind]
  apply meets_readCliState
  intro m₁ later₁
  rw [meets_bind, meets_attempt]
  apply Meets.then (meets_reconcile (agree.later later₁))
  rintro reconciliation m₂ ⟨agree, agrees, pends⟩
  split
  · rename_i recovered
    intro st p wrote pend
    rcases pends st p (later₁.receipt.trans wrote) pend with
      ⟨state', settled, _, tgt, prev⟩ | ⟨_, _, unchanged, _⟩
    · exact ⟨rfl, state', settled, tgt, prev⟩
    · rw [unchanged] at recovered
      cases recovered.1
  · rename_i unrecovered
    have still : ∀ st p, m.receipt = some (.state st) → st.previous = some p →
        ∃ state', Settled m₂ state' ∧ state'.previous = some p := by
      intro st p wrote pend
      have pre : m₁.receipt = some (.state st) := later₁.receipt.trans wrote
      rcases pends st p pre pend with ⟨_, _, recovered, _⟩ | ⟨state', settled, _, same⟩
      · apply absurd _ unrecovered
        refine ⟨recovered, ?_⟩
        simp [Machine.state, pre, Receipt.parse, pend]
      · exact ⟨state', settled, same⟩
    rw [meets_bind]
    apply meets_readCliState
    intro m₃ later₃
    split
    · rename_i nothing
      intro st p wrote pend
      obtain ⟨state', settled, same⟩ := still st p wrote pend
      rw [(settled.frame later₃.frame).state, filter_some, same] at nothing
      cases nothing
    · rename_i st hit
      obtain ⟨here, some_pending⟩ := filter_eq_some_iff.mp hit
      obtain ⟨tgt, pend⟩ := isSome_iff_exists.mp some_pending
      apply Meets.then (meets_rollbackToPrevious (agree.later later₃) (state_receipt here) pend _)
      rintro _ m₄ ⟨_, restored⟩ pre p wrote there
      obtain ⟨state', settled, same⟩ := still pre p wrote there
      rw [(settled.frame later₃.frame).state] at here
      cases here
      rw [same] at pend
      cases pend
      exact ⟨rfl, restored⟩

end
end Clawdi.CliUpdate
