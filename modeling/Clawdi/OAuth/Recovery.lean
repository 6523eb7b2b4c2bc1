import Clawdi.OAuth.Undisturbed

namespace Clawdi.OAuth
open Transition
variable {toks : String → TokenPair}

def Action.isExternal : Action → Bool
  | .external _ => true
  | _ => false

def Action.follows (toks : String → TokenPair) : Action → Prop
  | .begin (some cred) => cred.material.tokens = toks cred.credentialRevision
  | _ => True

def Follows (toks : String → TokenPair) (desired : Option DesiredCredential) : Prop :=
  ∀ cred, desired = some cred → cred.material.tokens = toks cred.credentialRevision

lemma Action.follows_begin {desired} (follows : (Action.begin desired).follows toks) : Follows toks desired := by
  intro cred here
  subst here
  exact follows

section
variable {desired : Option DesiredCredential} {ledger : Option OAuthCredentialLedger}
  {native : Observation}

lemma ownTargets_written (own : OwnTargets toks ledger) (follows : Follows toks desired) :
    OwnTargets toks (writtenLedger desired ledger native) := by
  have decided : Decides _ ledger native (runDecision desired ledger native) := decide_decides _ _ _
  intro held op tgt isHeld st noted
  cases decided with
  | preserve act free next =>
    apply own held op tgt _ st noted
    unfold writtenLedger at isHeld
    simp only [free] at isHeld
    exact isHeld
  | seed _ _ wanted _ act _ ahead | upsert _ _ _ wanted _ act _ ahead =>
    obtain ⟨cred, rfl, rfl⟩ := Option.map_eq_some_iff.mp wanted
    rw [writtenLedger_of_mutation (congrArg NativeAction.intentOperation act)] at isHeld
    cases isHeld
    cases st
    cases noted
    obtain ⟨_, rfl⟩ | ⟨_, earlier⟩ := ahead
    · exact evidence_fingerprint (follows cred rfl)
    · exact own _ _ _ earlier rfl rfl
  | remove pre read unwanted hit isRead act next owned ahead =>
    rw [writtenLedger_of_mutation (congrArg NativeAction.intentOperation act)] at isHeld
    cases isHeld
    cases st
    cases noted

lemma ownTargets_stable {held : OAuthCredentialLedger} (stable : held.stable = true) :
    OwnTargets toks (some held) := by
  intro alt op tgt same st noted
  obtain rfl := Option.some.inj same
  simp [OAuthCredentialLedger.stable, st] at stable

lemma ownTargets_none : OwnTargets toks none := by
  intro held op tgt impossible
  cases impossible

lemma ownTargets_next (own : OwnTargets toks (writtenLedger desired ledger native)) :
    OwnTargets toks (runDecision desired ledger native).nextLedger := by
  have decided : Decides _ ledger native (runDecision desired ledger native) := decide_decides _ _ _
  cases decided with
  | preserve act free next =>
    have wrote : writtenLedger desired ledger native = ledger := by
      unfold writtenLedger
      simp only [free]
      rfl
    obtain kept | stable := next
    · rw [kept, ← wrote]
      exact own
    · cases noted : (runDecision desired ledger native).nextLedger with
      | none => exact ownTargets_none
      | some held => exact ownTargets_stable (stable held noted)
  | seed _ _ _ _ _ next | upsert _ _ _ _ _ _ next =>
    rw [next]
    exact ownTargets_stable rfl
  | remove pre held unwanted hit read act next owned ahead =>
    rw [next]
    exact ownTargets_none

end

structure Traceable (toks : String → TokenPair) (w : World) : Prop where
  coherent : Coherent w
  own : OwnTargets toks w.ledger
  follows : ∀ run, w.run = some run → Follows toks run.desired

structure Undisturbed (toks : String → TokenPair) (w : World) : Prop where
  consistent : Consistent toks w.ledger w.native
  staged : ∀ run, w.run = some run →
    match run.stage with
    | .read | .observe _ => True
    | .intend ledger native => native = runObservation run.desired ledger w.native
    | .mutate ledger native => native = runObservation run.desired ledger w.native ∧
        Consistent toks ledger w.native
    | .record ledger native =>
      (run.desired = none ∨ (runDecision run.desired ledger native).nextLedger.isSome = true) →
        Consistent toks (runDecision run.desired ledger native).nextLedger w.native

lemma Traceable.step {w} (traceable : Traceable toks w) {act : Action}
    (follows : act.follows toks) : Traceable toks (step w act) := by
  refine ⟨traceable.coherent.step act, ?_, ?_⟩
  · have stepped := step_stepped w act
    generalize OAuth.step w act = after at stepped ⊢
    cases stepped with
    | intended desired ledger wrote native held writes =>
      have same : w.ledger = ledger := traceable.coherent _ held
      rw [writes same]
      exact ownTargets_written (same ▸ traceable.own) (traceable.follows _ held)
    | recorded desired ledger next native held records =>
      have wrote : w.ledger = writtenLedger desired ledger native := traceable.coherent _ held
      obtain ⟨rfl, _⟩ | ⟨_, rfl⟩ := records
      · exact ownTargets_next (wrote ▸ traceable.own)
      · exact traceable.own
    | _ => exact traceable.own
  · apply step_desired traceable.follows
    intro desired begins
    subst begins
    exact Action.follows_begin follows

lemma Undisturbed.step {w} (traceable : Traceable toks w) (undisturbed : Undisturbed toks w) {act : Action}
    (inside : act.isExternal = false) : Undisturbed toks (step w act) := by
  have stepped := step_stepped w act
  generalize OAuth.step w act = after at stepped ⊢
  cases stepped with
  | kept => exact undisturbed
  | ended => exact ⟨undisturbed.consistent, fun _ impossible => by cases impossible⟩
  | external => cases inside
  | begun | read =>
    refine ⟨undisturbed.consistent, fun run here => ?_⟩
    cases here
    exact trivial
  | observed desired ledger held =>
    refine ⟨undisturbed.consistent, fun run here => ?_⟩
    cases here
    rfl
  | intended desired ledger wrote native held writes =>
    have same : w.ledger = ledger := traceable.coherent _ held
    have seen : native = runObservation desired ledger w.native := undisturbed.staged _ held
    have agree : Consistent toks ledger w.native := same ▸ undisturbed.consistent
    have carries := agree.carries (traceable.follows _ held)
    rw [← seen] at carries
    rw [writes same]
    refine ⟨carries.intended, fun run here => ?_⟩
    cases here
    exact ⟨seen, agree⟩
  | mutated desired ledger native held executed executes =>
    have staged : native = runObservation desired ledger w.native ∧ Consistent toks ledger w.native :=
      undisturbed.staged _ held
    obtain ⟨seen, agree⟩ := staged
    have wrote : w.ledger = writtenLedger desired ledger native := traceable.coherent _ held
    have carries := agree.carries (traceable.follows _ held)
    rw [← seen] at carries
    subst executes
    rw [if_pos carries.completed]
    constructor
    · show Consistent toks w.ledger _
      rw [wrote]
      exact carries.mutated
    · intro run here
      cases here
      exact carries.recorded
  | recorded desired ledger next native held records =>
    refine ⟨?_, fun _ impossible => by cases impossible⟩
    obtain ⟨rfl, told⟩ | ⟨_, rfl⟩ := records
    · exact undisturbed.staged _ held told
    · exact undisturbed.consistent

def desiredCredential (toks : String → TokenPair) (wanted : Option String)
    (lastRefresh : String) : Option DesiredCredential :=
  wanted.map fun rev => ⟨rev, ⟨toks rev, lastRefresh⟩⟩

def uncrashedRuns (toks : String → TokenPair) (wanted : Option String) (w : World)
    (refreshes : List String) : World :=
  refreshes.foldl (fun w lastRefresh => uncrashedRun w (desiredCredential toks wanted lastRefresh)) w

def Stable (w : World) : Prop := ∀ held, w.ledger = some held → held.stable = true

def Holds (toks : String → TokenPair) (wanted : Option String) (native : Option NativeEntry) : Prop :=
  match wanted with
  | none => native = none
  | some rev => ∃ e, native = some e ∧ e.tokens = some (toks rev)

def Stabilises (toks : String → TokenPair) (wanted : Option String) (w : World) : Prop :=
  ∃ enough, ∀ refreshes : List String, enough ≤ refreshes.length → Stable (uncrashedRuns toks wanted w refreshes)

def Recovers (toks : String → TokenPair) (wanted : Option String) (w : World) : Prop :=
  ∃ enough, ∀ refreshes : List String, enough ≤ refreshes.length → Stable (uncrashedRuns toks wanted w refreshes) ∧
      Holds toks wanted (uncrashedRuns toks wanted w refreshes).native

/-- A present entry meets an open intent that nothing resolves. -/
def Stranded (wanted : Option String) (ledger : Option OAuthCredentialLedger) (native : Option NativeEntry) : Prop :=
  ∃ e, native = some e ∧
    match ledger with
    | none => wanted = none
    | some held =>
      ∃ op, held.state = .intent op ∧
        match wanted with
        | some rev => rev ≠ held.credentialRevision
        | none => ∃ pre tgt, op = .upsert pre tgt ∧
            e.fingerprint held.credentialRevision ≠ tgt

section
variable {wanted : Option String} {w : World}

lemma desiredCredential_revision (toks : String → TokenPair) (wanted : Option String) (lastRefresh : String) :
    (desiredCredential toks wanted lastRefresh).map (·.credentialRevision) = wanted := by
  cases wanted <;> rfl

lemma desiredCredential_follows (wanted : Option String) (lastRefresh : String) :
    Follows toks (desiredCredential toks wanted lastRefresh) := by
  intro cred here
  cases wanted with
  | none => cases here
  | some rev =>
    cases here
    rfl

lemma settled_stays (idle : w.run = none) (done : Settled wanted w.ledger)
    (refreshes : List String) : Settled wanted (uncrashedRuns toks wanted w refreshes).ledger ∧
      (uncrashedRuns toks wanted w refreshes).native = w.native := by
  induction refreshes generalizing w with
  | nil => exact ⟨done, rfl⟩
  | cons lastRefresh rest ih =>
    have once := settled_reconciled done (desiredCredential_revision toks wanted lastRefresh) w.native
    have ran := uncrashedRun_eq idle (desiredCredential toks wanted lastRefresh)
    show Settled wanted (uncrashedRuns toks wanted (uncrashedRun w _) rest).ledger ∧
      (uncrashedRuns toks wanted (uncrashedRun w _) rest).native = _
    rw [ran]
    obtain ⟨stays, same⟩ := @ih ⟨_, _, none⟩ rfl once.1
    exact ⟨stays, same.trans once.2⟩

lemma stable_of_settled (done : Settled wanted w.ledger) : Stable w := by
  intro held isHeld
  cases wanted with
  | none =>
    have dropped : w.ledger = none := done
    rw [isHeld] at dropped
    cases dropped
  | some rev =>
    obtain ⟨alt, isOther, stable, _⟩ := done
    rw [isHeld] at isOther
    obtain rfl := Option.some.inj isOther
    exact stable

lemma reconciled_cases (own : OwnTargets toks w.ledger) (wanted : Option String)
    (lastRefresh : String) : (Resolvable wanted w.ledger w.native ∧
      Settled wanted (reconciled (desiredCredential toks wanted lastRefresh) w.ledger
        w.native).1) ∨ (¬Resolvable wanted w.ledger w.native ∧
      ∃ held, reconciled (desiredCredential toks wanted lastRefresh) w.ledger w.native =
          (some held, w.native) ∧ held.stable = false ∧ ¬Resolvable wanted (some held) w.native) := by
  cases wanted with
  | none =>
    cases reconciled_undesired w.ledger w.native with
    | dropped resolvable outcome | removed resolvable outcome => exact .inl ⟨resolvable, congrArg Prod.fst outcome⟩
    | unresolved unresolvable outcome => exact .inr ⟨unresolvable, outcome⟩
  | some rev =>
    obtain settles | ⟨unresolvable, ⟨held, isHeld, open_intent⟩, stuck⟩ :=
      @reconciled_desired toks ⟨rev, ⟨toks rev, lastRefresh⟩⟩ w.ledger own rfl w.native
    · exact .inl settles
    · right
      refine ⟨unresolvable, held, ?_, open_intent, ?_⟩
      · rw [← isHeld]
        exact stuck
      · rw [← isHeld]
        exact unresolvable

lemma uncrashedRun_idle (idle : w.run = none) (desired : Option DesiredCredential) :
    (uncrashedRun w desired).run = none := by
  rw [uncrashedRun_eq idle]

lemma always_follows {desired} (follows : Follows toks desired) :
    Always step (fun _ act => act.follows toks ∧ act.isExternal = false) w
      [.begin desired, .advance, .advance, .advance, .advance, .advance] := by
  have begins : (Action.begin desired).follows toks := by
    cases desired with
    | none => exact trivial
    | some cred => exact follows cred rfl
  apply Always.of_mem
  intro act mem _
  simp only [List.mem_cons, List.not_mem_nil, or_false, or_self] at mem
  obtain rfl | rfl := mem
  · exact ⟨begins, rfl⟩
  · exact ⟨trivial, rfl⟩

lemma Traceable.uncrashedRun (traceable : Traceable toks w) {desired} (follows : Follows toks desired) :
    Traceable toks (uncrashedRun w desired) :=
  Always.invariant (fun _ _ holds guarded => holds.step guarded.1) traceable (always_follows follows)

lemma undisturbed_uncrashedRun (traceable : Traceable toks w) (undisturbed : Undisturbed toks w) {desired}
    (follows : Follows toks desired) : Undisturbed toks (uncrashedRun w desired) := by
  have both : Traceable toks (uncrashedRun w desired) ∧
      Undisturbed toks (uncrashedRun w desired) := by
    apply @Always.invariant _ _ step _ (fun w => Traceable toks w ∧
      Undisturbed toks w) _ w ⟨traceable, undisturbed⟩ _ (always_follows follows)
    intro s a holds guarded
    exact ⟨holds.1.step guarded.1, holds.2.step holds.1 guarded.2⟩
  exact both.2

lemma stuck_run (idle : w.run = none) (traceable : Traceable toks w)
    (unresolvable : ¬Resolvable wanted w.ledger w.native) (lastRefresh : String) :
    ¬Resolvable wanted (uncrashedRun w (desiredCredential toks wanted lastRefresh)).ledger
        (uncrashedRun w (desiredCredential toks wanted lastRefresh)).native ∧
      ¬Stable (uncrashedRun w (desiredCredential toks wanted lastRefresh)) := by
  obtain ⟨resolvable, _⟩ | ⟨_, held, outcome, open_intent, still⟩ := reconciled_cases traceable.own wanted lastRefresh
  · exact absurd resolvable unresolvable
  · rw [uncrashedRun_eq idle, outcome]
    refine ⟨still, ?_⟩
    intro stable
    have stable := stable held rfl
    rw [open_intent] at stable
    cases stable

lemma stuck_runs (idle : w.run = none) (traceable : Traceable toks w)
    (unresolvable : ¬Resolvable wanted w.ledger w.native) {refreshes}
    (some_run : refreshes ≠ []) : ¬Stable (uncrashedRuns toks wanted w refreshes) := by
  induction refreshes generalizing w with
  | nil => exact absurd rfl some_run
  | cons lastRefresh rest ih =>
    obtain ⟨still, unstable⟩ := stuck_run idle traceable unresolvable lastRefresh
    cases rest with
    | nil => exact unstable
    | cons next rest =>
      have follows : Follows toks _ := desiredCredential_follows wanted lastRefresh
      exact ih (uncrashedRun_idle idle _) (traceable.uncrashedRun follows) still (by simp)

lemma stabilises_iff (idle : w.run = none) (traceable : Traceable toks w) :
    Stabilises toks wanted w ↔ Resolvable wanted w.ledger w.native := by
  constructor
  · intro stabilises
    obtain ⟨enough, stable⟩ := stabilises
    by_contra unresolvable
    apply stuck_runs idle traceable unresolvable _ (stable (List.replicate (enough + 1) "") _)
    · simp
    · simp
  · intro resolvable
    refine ⟨1, ?_⟩
    intro refreshes long
    cases refreshes with
    | nil => simp at long
    | cons lastRefresh rest =>
      obtain ⟨_, done⟩ | ⟨unresolvable, _⟩ := reconciled_cases traceable.own wanted lastRefresh
      · apply stable_of_settled
        refine (settled_stays (uncrashedRun_idle idle _) ?_ rest).1
        rw [uncrashedRun_eq idle]
        exact done
      · exact absurd resolvable unresolvable

end

section
variable {wanted : Option String} {ledger : Option OAuthCredentialLedger}
  {native : Option NativeEntry}

lemma Consistent.resolvable_or (agree : Consistent toks ledger native) : Resolvable wanted ledger native ∨
      ∃ rev e held op, wanted = some rev ∧ native = some e ∧
        ledger = some held ∧ held.state = .intent op ∧ rev ≠ held.credentialRevision := by
  cases ledger with
  | none => exact .inl trivial
  | some held =>
    have agrees := agree.agrees held rfl
    obtain ⟨rev, st⟩ := held
    cases st with
    | adopted | revoked => exact agrees.elim
    | seeded noted =>
      left
      obtain ⟨_, e, rfl, wrote⟩ := agrees
      intro _ _
      exact wrote.2
    | intent op =>
      cases native with
      | none =>
        cases op with
        | seed tgt => exact .inl trivial
        | remove pre => exact .inl trivial
        | upsert pre tgt =>
          obtain ⟨_, _, e, impossible, _⟩ := agrees
          cases impossible
      | some e =>
        by_cases same : wanted.getD rev = rev
        · left
          have ev : op.intentTargetFingerprint = some (e.fingerprint (wanted.getD rev)) ∨ op.beforeFingerprint =
                some (e.fingerprint (wanted.getD rev)) := by
            rw [same]
            cases op with
            | seed tgt =>
              left
              have wrote := agrees.2 e rfl
              exact congrArg some (agrees.1.trans (wrote.fingerprint rev).symm)
            | remove pre =>
              right
              have wrote := agrees.2 e rfl
              exact congrArg some (agrees.1.trans (wrote.fingerprint rev).symm)
            | upsert pre tgt =>
              obtain ⟨own, _, alt, here, untouched | wrote⟩ := agrees
              · obtain rfl := Option.some.inj here
                exact .inr (congrArg some untouched.symm)
              · obtain rfl := Option.some.inj here
                exact .inl (congrArg some (own.trans (wrote.fingerprint rev).symm))
          obtain ⟨alt, wrote⟩ := agree.written e rfl
          cases op <;> exact ⟨ev, fun _ => .inl wrote.2⟩
        · right
          cases wanted with
          | none => exact absurd rfl same
          | some desired => exact ⟨desired, e, _, op, rfl, rfl, rfl, rfl, same⟩

variable {rev : String} {e : NativeEntry}

lemma Consistent.unresolvable (agree : Consistent toks ledger native) {held op} (here : native = some e)
    (isHeld : ledger = some held) (st : held.state = .intent op) (ne : rev ≠ held.credentialRevision) :
    ¬Resolvable (some rev) ledger native := by
  obtain ⟨alt, wrote⟩ := agree.written e here
  have hit := wrote.fingerprint rev
  have agrees := agree.agrees held isHeld
  subst here isHeld
  unfold Agrees at agrees
  rw [st] at agrees
  have foreign : ∀ pair, oauthCredentialFingerprint held.credentialRevision pair ≠
      e.fingerprint rev := by
    intro pair same
    rw [hit] at same
    exact ne (oauthCredentialFingerprint_inj.mp same).1.symm
  intro resolvable
  unfold Resolvable at resolvable
  simp only [st] at resolvable
  cases op with
  | seed tgt =>
    obtain ev | impossible := resolvable.1
    · apply foreign (toks held.credentialRevision)
      exact agrees.1.symm.trans (Option.some.inj ev)
    · cases impossible
  | remove pre =>
    obtain impossible | ev := resolvable.1
    · cases impossible
    · apply foreign (toks held.credentialRevision)
      exact agrees.1.symm.trans (Option.some.inj ev)
  | upsert pre tgt =>
    obtain ⟨own, ⟨prior, before_eq⟩, _⟩ := agrees
    obtain ev | ev := resolvable.1
    · apply foreign (toks held.credentialRevision)
      exact own.symm.trans (Option.some.inj ev)
    · apply foreign prior
      exact before_eq.symm.trans (Option.some.inj ev)

lemma Consistent.stranded_of_leaves (agree : Consistent toks ledger (some e)) (leaves : Leaves ledger e) :
    Stranded none ledger (some e) := by
  refine ⟨e, rfl, ?_⟩
  cases ledger with
  | none => rfl
  | some held =>
    have agrees := agree.agrees held rfl
    unfold Agrees at agrees
    obtain st | st | ⟨noted, st, foreign⟩ | ⟨pre, tgt, st, ne⟩ := leaves held rfl
    · rw [st] at agrees
      exact agrees.elim
    · rw [st] at agrees
      exact agrees.elim
    · rw [st] at agrees
      obtain ⟨_, alt, here, wrote⟩ := agrees
      obtain rfl := Option.some.inj here
      have managed := wrote.2
      rw [foreign] at managed
      cases managed
    · exact ⟨_, st, pre, tgt, rfl, ne.symm⟩

lemma holds_of_settled (agree : Consistent toks ledger native)
    (done : Settled (some rev) ledger) : Holds toks (some rev) native := by
  obtain ⟨held, isHeld, stable, rfl⟩ := done
  have agrees := agree.agrees held isHeld
  unfold Agrees at agrees
  unfold OAuthCredentialLedger.stable at stable
  cases st : held.state with
  | intent op => simp [st] at stable
  | adopted | revoked =>
    rw [st] at agrees
    exact agrees.elim
  | seeded noted =>
    rw [st] at agrees
    obtain ⟨_, e, here, wrote⟩ := agrees
    exact ⟨e, here, wrote.1⟩

lemma stranded_stays {w : World} (idle : w.run = none) (agree : Consistent toks w.ledger w.native)
    (stranded : Stranded none w.ledger w.native) (lastRefresh : String) (rest : List String) :
    (uncrashedRuns toks none w (lastRefresh :: rest)).native = w.native := by
  obtain ⟨ledger, native, running⟩ := w
  obtain rfl : running = none := idle
  obtain ⟨e, here, shape⟩ := stranded
  obtain rfl : native = some e := here
  have outcome : reconciled none ledger (some e) = (none, some e) := by
    cases ledger with
    | none => exact reconciled_preserve rfl (.inl rfl)
    | some held =>
      obtain ⟨rev, st⟩ := held
      obtain ⟨op, isIntent, pre, tgt, rfl, unfinished⟩ := shape
      obtain rfl : st = .intent (.upsert pre tgt) := isIntent
      obtain ⟨own, _, alt, here, untouched | wrote⟩ := agree.agrees _ rfl
      · obtain rfl := Option.some.inj here
        apply reconciled_unfinished_upsert untouched
        rw [← untouched]
        exact unfinished.symm
      · obtain rfl := Option.some.inj here
        exact absurd ((wrote.fingerprint rev).trans own.symm) unfinished
  have ran := @uncrashedRun_eq ⟨ledger, some e, none⟩ rfl (desiredCredential toks none lastRefresh)
  have once : uncrashedRun ⟨ledger, some e, none⟩ (desiredCredential toks none lastRefresh) =
      ⟨none, some e, none⟩ := by
    rw [ran]
    show World.mk (reconciled none ledger (some e)).1 _ _ = _
    rw [outcome]
    show World.mk none (reconciled none ledger (some e)).2 _ = _
    rw [outcome]
  show (uncrashedRuns toks none (uncrashedRun _ _) rest).native = _
  rw [once]
  exact (@settled_stays toks none ⟨none, some e, none⟩ rfl rfl rest).2

lemma recovers_iff {w : World} (idle : w.run = none)
    (traceable : Traceable toks w) (undisturbed : Undisturbed toks w) :
    Recovers toks wanted w ↔ ¬Stranded wanted w.ledger w.native := by
  constructor
  · intro recovers stranded
    obtain ⟨enough, recovered⟩ := recovers
    cases wanted with
    | some rev =>
      have stabilises : Stabilises toks (some rev) w := ⟨enough, fun refreshes long => (recovered refreshes long).1⟩
      have resolvable := (stabilises_iff idle traceable).mp stabilises
      obtain ⟨e, here, shape⟩ := stranded
      cases isHeld : w.ledger with
      | none =>
        rw [isHeld] at shape
        cases shape
      | some held =>
        rw [isHeld] at shape
        obtain ⟨op, st, ne⟩ := shape
        exact undisturbed.consistent.unresolvable here isHeld st ne resolvable
    | none =>
      have stays := stranded_stays idle undisturbed.consistent stranded "" (List.replicate enough "")
      obtain ⟨e, here, _⟩ := stranded
      have gone := (recovered ("" :: List.replicate enough "") (by simp)).2
      rw [stays, here] at gone
      cases gone
  · intro free
    refine ⟨1, ?_⟩
    intro refreshes long
    cases refreshes with
    | nil => simp at long
    | cons lastRefresh rest =>
      obtain resolvable | ⟨rev, e, held, op, rfl, here, isHeld, st, ne⟩ :=
        @Consistent.resolvable_or toks wanted _ _ undisturbed.consistent
      · obtain ⟨_, done⟩ | ⟨unresolvable, _⟩ :=
          reconciled_cases traceable.own wanted lastRefresh
        · have follows : Follows toks _ := desiredCredential_follows wanted lastRefresh
          have after := undisturbed_uncrashedRun traceable undisturbed follows
          have ran := uncrashedRun_eq idle (desiredCredential toks wanted lastRefresh)
          have settledRun : Settled wanted
              (uncrashedRun w (desiredCredential toks wanted lastRefresh)).ledger := by
            rw [ran]
            exact done
          obtain ⟨stays, same⟩ := settled_stays (uncrashedRun_idle idle _) settledRun rest
          refine ⟨stable_of_settled stays, ?_⟩
          show Holds toks wanted (uncrashedRuns toks wanted (uncrashedRun w _) rest).native
          rw [same]
          cases wanted with
          | some rev => exact holds_of_settled after.consistent settledRun
          | none =>
            show (uncrashedRun w none).native = none
            have ran : uncrashedRun w none = _ := ran
            rw [ran]
            cases reconciled_undesired w.ledger w.native with
            | removed _ outcome => exact congrArg Prod.snd outcome
            | unresolved unresolvable _ => exact absurd resolvable unresolvable
            | dropped _ outcome left =>
              cases here : w.native with
              | none =>
                rw [here] at outcome
                exact congrArg Prod.snd outcome
              | some e =>
                have agree := undisturbed.consistent
                rw [here] at agree free
                exact absurd (agree.stranded_of_leaves (left e here)) free
        · exact absurd resolvable unresolvable
      · apply absurd _ free
        rw [here, isHeld]
        exact ⟨e, rfl, op, st, ne⟩

end

def fresh : World := ⟨none, none, none⟩

lemma traceable_fresh (toks : String → TokenPair) : Traceable toks fresh := by
  refine ⟨?_, ownTargets_none, ?_⟩
  · intro run impossible
    cases impossible
  · intro run impossible
    cases impossible

lemma undisturbed_fresh (toks : String → TokenPair) : Undisturbed toks fresh := by
  refine ⟨Consistent.absent, ?_⟩
  intro run impossible
  cases impossible

section
variable {acts : List Action}

lemma traceable_crashed (follows : ∀ act ∈ acts, act.follows toks) :
    Traceable toks (step (run step fresh acts) .crash) := by
  have always : Always step (fun _ act => act.follows toks) fresh acts :=
    Always.of_mem (fun act mem _ => follows act mem) fresh
  have reached : Traceable toks (run step fresh acts) :=
    Always.invariant (fun _ _ holds guarded => holds.step guarded) (traceable_fresh toks) always
  exact @Traceable.step toks _ reached .crash trivial

lemma undisturbed_crashed (follows : ∀ act ∈ acts, act.follows toks)
    (alone : ∀ act ∈ acts, act.isExternal = false) : Undisturbed toks (step (run step fresh acts) .crash) := by
  have always : Always step (fun _ act => act.follows toks ∧ act.isExternal = false)
      fresh acts :=
    Always.of_mem (fun act mem _ => ⟨follows act mem, alone act mem⟩) fresh
  have reached : Traceable toks (run step fresh acts) ∧
      Undisturbed toks (run step fresh acts) := by
    apply @Always.invariant _ _ step _ (fun w => Traceable toks w ∧
      Undisturbed toks w) _ fresh ⟨traceable_fresh toks, undisturbed_fresh toks⟩ _ always
    intro s a holds guarded
    exact ⟨holds.1.step guarded.1, holds.2.step holds.1 guarded.2⟩
  exact @Undisturbed.step toks _ reached.1 reached.2 .crash rfl

end

/-- After any runs, repeated runs reach a stable ledger exactly from a resolvable pair; and where no one
else touched the entry, they end with the wanted tokens exactly unless the pair is stranded. -/
theorem recovery_iff (toks : String → TokenPair) (acts : List Action)
    (follows : ∀ act ∈ acts, act.follows toks) (wanted : Option String) : let w := step (run step fresh acts) .crash
    (Stabilises toks wanted w ↔ Resolvable wanted w.ledger w.native) ∧
    ((∀ act ∈ acts, act.isExternal = false) →
      (Recovers toks wanted w ↔ ¬Stranded wanted w.ledger w.native)) := by
  intro w
  have traceable : Traceable toks w := traceable_crashed follows
  refine ⟨stabilises_iff rfl traceable, ?_⟩
  intro alone
  exact recovers_iff rfl traceable (undisturbed_crashed follows alone)

def sampleTokensFor (rev : String) : TokenPair :=
  if rev = "r2" then ⟨"access-2", "refresh-2", by decide, by decide⟩ else sampleTokens

def sampleDesired (rev : String) : Action := .begin (desiredCredential sampleTokensFor (some rev) "\"2026-01-01\"")

def crashedUpsert : List Action :=
  [sampleDesired "r1", .advance, .advance, .advance, .advance, .advance,
    sampleDesired "r2", .advance, .advance, .advance]

lemma crashedUpsert_stranded (wanted : Option String) (elsewhere : wanted = none ∨ wanted = some "r3") :
    Stranded wanted (step (run step fresh crashedUpsert) .crash).ledger
      (step (run step fresh crashedUpsert) .crash).native := by
  refine ⟨_, rfl, _, rfl, ?_⟩
  obtain rfl | rfl := elsewhere
  · refine ⟨_, _, rfl, ?_⟩
    decide +kernel
  · decide +kernel

lemma crashedUpsert_follows : ∀ act ∈ crashedUpsert, act.follows sampleTokensFor := by
  intro act mem
  simp only [crashedUpsert, List.mem_cons, List.not_mem_nil, or_false, or_self] at mem
  obtain rfl | rfl | rfl | rfl | rfl | rfl | rfl | rfl | rfl | rfl := mem <;>
    first | exact trivial | rfl

theorem recovery_iff_crashedUpsert :
    Recovers sampleTokensFor (some "r2") (step (run step fresh crashedUpsert) .crash) := by
  apply ((recovery_iff sampleTokensFor crashedUpsert crashedUpsert_follows (some "r2")).2
    (by decide +kernel)).mpr
  intro stranded
  obtain ⟨e, _, shape⟩ := stranded
  obtain ⟨op, _, ne⟩ := shape
  exact ne rfl

/-- A crashed change of revision leaves an intent that a third revision never resolves, and an
entry that is never removed once no revision is wanted. -/
theorem crashed_upsert_never_recovers :
    ¬Stabilises sampleTokensFor (some "r3") (step (run step fresh crashedUpsert) .crash) ∧
    ¬Recovers sampleTokensFor none (step (run step fresh crashedUpsert) .crash) := by
  have traceable := traceable_crashed crashedUpsert_follows
  have undisturbed := undisturbed_crashed crashedUpsert_follows (by decide +kernel)
  constructor
  · intro stabilises
    have resolvable := (stabilises_iff rfl traceable).mp stabilises
    obtain ⟨e, here, shape⟩ := crashedUpsert_stranded (some "r3") (.inr rfl)
    cases isHeld : (step (run step fresh crashedUpsert) .crash).ledger with
    | none =>
      rw [isHeld] at shape
      cases shape
    | some held =>
      rw [isHeld] at shape
      obtain ⟨op, st, ne⟩ := shape
      exact undisturbed.consistent.unresolvable here isHeld st ne resolvable
  · intro recovers
    exact (recovers_iff rfl traceable undisturbed).mp recovers (crashedUpsert_stranded none (.inl rfl))

end Clawdi.OAuth
