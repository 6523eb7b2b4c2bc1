import Clawdi.OAuth.Ownership

namespace Clawdi.OAuth
open Transition

def uncrashedRun (w : World) (want : Option DesiredCredential) : World :=
  run step w [.begin want, .advance, .advance, .advance, .advance, .advance]

def reconciled (want : Option DesiredCredential) (ledger : Option OAuthCredentialLedger)
    (native : Option NativeEntry) : Option OAuthCredentialLedger × Option NativeEntry :=
  let obs := runObservation want ledger native
  let decision := runDecision want ledger obs
  let wrote := writtenLedger want ledger obs
  let (completed, after) := executeDecision want ledger decision.nativeAction native
  if completed then
    (match decision.nextLedger with
      | some next => some next
      | none => if want.isSome then wrote else none, after)
  else (wrote, after)

lemma uncrashedRun_eq {w : World} (idle : w.run = none) (want : Option DesiredCredential) :
    uncrashedRun w want = ⟨(reconciled want w.ledger w.native).1, (reconciled want w.ledger w.native).2, none⟩ := by
  obtain ⟨ledger, native, runs⟩ := w
  obtain rfl : runs = none := idle
  have begun : step ⟨ledger, native, none⟩ (.begin want) = ⟨ledger, native, some ⟨want, .read⟩⟩ := rfl
  unfold uncrashedRun
  simp only [run_cons, run_nil, begun]
  by_cases nothing : want = none ∧ ledger = none
  · obtain ⟨rfl, rfl⟩ := nothing
    rfl
  · have observing : step ⟨ledger, native, some ⟨want, .read⟩⟩ .advance =
        ⟨ledger, native, some ⟨want, .observe ledger⟩⟩ := by
      cases want <;> cases ledger <;> first | rfl | exact absurd ⟨rfl, rfl⟩ nothing
    have obs : step ⟨ledger, native, some ⟨want, .observe ledger⟩⟩ .advance = ⟨ledger, native,
          some ⟨want, .intend ledger (runObservation want ledger native)⟩⟩ := rfl
    have intended : step ⟨ledger, native, some ⟨want, .intend ledger (runObservation want ledger native)⟩⟩ .advance =
          ⟨writtenLedger want ledger (runObservation want ledger native), native,
            some ⟨want, .mutate ledger (runObservation want ledger native)⟩⟩ :=
      step_intend ..
    rw [observing, obs, intended]
    unfold reconciled
    generalize runObservation want ledger native = seen
    cases ran : executeDecision want ledger
        (runDecision want ledger seen).nativeAction native with
    | mk completed after =>
      cases completed with
      | false => simp [step, advance, ran]
      | true =>
        cases next : (runDecision want ledger seen).nextLedger <;> cases want <;>
          simp [step, advance, ran, next]

section
variable {ledger : Option OAuthCredentialLedger}

lemma execute_seed (cred : DesiredCredential) :
    executeDecision (some cred) ledger (.seed cred.evidence.credentialFingerprint)
      none = (true, some (targetEntry cred.material)) := by
  simp [executeDecision, executeHostedRuntimeOAuthAction, mutate,
    assertRuntimeNativeMutationCompleted, DesiredCredential.evidence]

lemma execute_upsert (cred : DesiredCredential) {native : Option NativeEntry} {pre}
    (hit : native.map (·.fingerprint cred.credentialRevision) = some pre) :
    executeDecision (some cred) ledger (.upsert pre cred.evidence.credentialFingerprint) native =
        (true, some (targetEntry cred.material)) := by
  simp [executeDecision, executeHostedRuntimeOAuthAction, mutate, hit,
    assertRuntimeNativeMutationCompleted, DesiredCredential.evidence]

lemma execute_remove (e : NativeEntry) :
    executeDecision none ledger (.remove (e.fingerprint (runRevision none ledger))) (some e) =
        if e.managed true then (true, none) else (false, some e) := by
  cases managed : e.managed true <;>
    simp [executeDecision, removeHostedRuntimeOAuthCredential, mutate, managed, assertRuntimeNativeRemovalCompleted]

end

lemma inspect_some (e : NativeEntry) (rev : String) (owned : Bool) :
    inspect (some e) rev owned = .managed (e.fingerprint rev) ∨
      inspect (some e) rev owned = .foreign (e.fingerprint rev) := by
  by_cases managed : e.managed owned = true
  · exact .inl (if_pos managed)
  · exact .inr (if_neg managed)

section
variable {ledger : Option OAuthCredentialLedger} {native : Option NativeEntry}

lemma reconciled_preserve {want next} (decides : runDecision want ledger (runObservation want ledger native) =
      preserveDecision next) (kept : want = none ∨ next.isSome = true) :
    reconciled want ledger native = (next, native) := by
  have ran : executeDecision want ledger .preserve native = (true, native) := by
    cases want <;> rfl
  unfold reconciled
  simp only [decides, preserveDecision, ran]
  cases next with
  | some next => rfl
  | none =>
    obtain rfl | never := kept
    · rfl
    · cases never

variable {cred : DesiredCredential}

def seededOutcome (cred : DesiredCredential) : Option OAuthCredentialLedger × Option NativeEntry :=
  (some (seededLedger cred.credentialRevision
    (some cred.evidence.credentialFingerprint)), some (targetEntry cred.material))

variable {ahead : Bool}

lemma reconciled_seed (decides : runDecision (some cred) ledger (runObservation (some cred) ledger none) =
      seedDecision cred.credentialRevision cred.evidence.credentialFingerprint ahead) :
    reconciled (some cred) ledger none = seededOutcome cred := by
  unfold reconciled
  simp only [decides, seedDecision, execute_seed]
  rfl

lemma reconciled_upsert {pre} (decides : runDecision (some cred) ledger (runObservation (some cred) ledger native) =
      upsertDecision cred.credentialRevision pre cred.evidence.credentialFingerprint ahead)
    (hit : native.map (·.fingerprint cred.credentialRevision) = some pre) :
    reconciled (some cred) ledger native = seededOutcome cred := by
  unfold reconciled
  simp only [decides, upsertDecision, execute_upsert cred hit]
  rfl

lemma reconciled_remove {held e}
    (decides : runDecision none (some held) (runObservation none (some held) (some e)) =
      removeDecision (e.fingerprint held.credentialRevision) ahead) :
    reconciled none (some held) (some e) = if e.managed true then (none, none) else (some ⟨held.credentialRevision,
        .intent (.remove (e.fingerprint held.credentialRevision))⟩, some e) := by
  have wrote : writtenLedger none (some held) (runObservation none (some held) (some e)) =
      some ⟨held.credentialRevision,
        .intent (.remove (e.fingerprint held.credentialRevision))⟩ := by
    apply writtenLedger_of_mutation
    rw [decides]
    rfl
  have ran : executeDecision none (some held) (.remove (e.fingerprint held.credentialRevision)) (some e) =
        if e.managed true then (true, none) else (false, some e) := execute_remove e
  unfold reconciled
  simp only [wrote, decides, removeDecision, ran]
  by_cases managed : e.managed true = true <;> simp [managed]

end

variable (wanted : Option String)

/-- No intent is open or its evidence says what became of it, and an entry that has to go is Clawdi's. -/
def Resolvable (ledger : Option OAuthCredentialLedger) (native : Option NativeEntry) : Prop :=
  match ledger with
  | none => True
  | some ledger =>
    match ledger.state, native with
    | .intent (.upsert _ _), none => ∃ rev, wanted = some rev ∧
        rev ≠ ledger.credentialRevision
    | .intent op, some e =>
      let hit := e.fingerprint (wanted.getD ledger.credentialRevision)
      (op.intentTargetFingerprint = some hit ∨ op.beforeFingerprint = some hit) ∧
        (wanted = none → e.managed true = true ∨ ∃ pre tgt, op = .upsert pre tgt ∧ tgt ≠ hit)
    | .seeded noted, some e =>
      wanted = none → noted = some (e.fingerprint ledger.credentialRevision) → e.managed true = true
    | _, _ => True

def Settled (ledger : Option OAuthCredentialLedger) : Prop :=
  match wanted with
  | none => ledger = none
  | some rev => ∃ held, ledger = some held ∧ held.stable = true ∧
      held.credentialRevision = rev

lemma seededOutcome_settled (cred : DesiredCredential) :
    Settled (some cred.credentialRevision) (seededOutcome cred).1 :=
  ⟨_, rfl, rfl, rfl⟩

def OwnTargets (toks : String → TokenPair) (ledger : Option OAuthCredentialLedger) : Prop :=
  ∀ held op tgt, ledger = some held → held.state = .intent op → op.intentTargetFingerprint = some tgt →
    tgt = oauthCredentialFingerprint held.credentialRevision (toks held.credentialRevision)

lemma settled_reconciled {wanted ledger} (done : Settled wanted ledger) {want : Option DesiredCredential}
    (desires : want.map (·.credentialRevision) = wanted) (native : Option NativeEntry) :
    Settled wanted (reconciled want ledger native).1 ∧ (reconciled want ledger native).2 = native := by
  cases want with
  | none =>
    subst desires
    obtain rfl : ledger = none := done
    exact ⟨rfl, rfl⟩
  | some cred =>
    subst desires
    obtain ⟨held, rfl, stable, same⟩ := done
    have same : held.credentialRevision = cred.evidence.credentialRevision := same
    obtain ⟨next, preserves, nextStable, nextSame⟩ := decide_of_stable stable same
      (runObservation (some cred) (some held) native)
    have preserves : runDecision (some cred) (some held)
      (runObservation (some cred) (some held) native) = preserveDecision (some next) :=
      preserves
    rw [reconciled_preserve preserves (.inr rfl)]
    exact ⟨⟨next, rfl, nextStable, nextSame⟩, rfl⟩

lemma reconciled_desired_of_closed {cred : DesiredCredential} {ledger}
    (closed : ∀ held, ledger = some held → held.stable = true) (native : Option NativeEntry) :
    Settled (some cred.credentialRevision) (reconciled (some cred) ledger native).1 := by
  by_cases done : Settled (some cred.credentialRevision) ledger
  · exact (settled_reconciled done rfl native).1
  · have fresh : ∀ seen, runDecision (some cred) ledger seen = freshDecision cred.evidence seen := by
      intro seen
      cases ledger with
      | none => rfl
      | some held =>
        obtain ⟨rev, st⟩ := held
        have ne : ¬rev = cred.credentialRevision := by
          intro same
          exact done ⟨_, rfl, closed _ rfl, same⟩
        cases st with
        | intent op => cases closed _ rfl
        | seeded | adopted | revoked => exact if_neg ne
    cases native with
    | none =>
      have seeds := fresh (runObservation (some cred) ledger none)
      rw [reconciled_seed seeds]
      exact seededOutcome_settled cred
    | some e =>
      have upserts : runDecision (some cred) ledger (runObservation (some cred) ledger (some e)) =
            upsertDecision cred.credentialRevision (e.fingerprint cred.credentialRevision)
              cred.evidence.credentialFingerprint true := by
        rw [fresh]
        unfold runObservation
        obtain seen | seen := inspect_some e (runRevision (some cred) ledger) (runtimeOAuthLedgerOwnership ledger)
        · rw [seen]
          rfl
        · rw [seen]
          rfl
      rw [reconciled_upsert upserts rfl]
      exact seededOutcome_settled cred

section

@[simp] lemma runRevision_some (cred : DesiredCredential) (ledger : Option OAuthCredentialLedger) :
    runRevision (some cred) ledger = cred.credentialRevision := rfl

@[simp] lemma runRevision_none (held : OAuthCredentialLedger) :
    runRevision none (some held) = held.credentialRevision := rfl

variable {want : Option DesiredCredential}

@[simp] lemma observation_ne_missing {held} (e : NativeEntry) : runObservation want held (some e) ≠ .missing := by
  unfold runObservation
  obtain seen | seen := inspect_some e (runRevision want held) (runtimeOAuthLedgerOwnership held) <;> simp [seen]

@[simp] lemma observation_fingerprint {held} (e : NativeEntry) :
    (runObservation want held (some e)).credentialFingerprint = some (e.fingerprint (runRevision want held)) :=
  inspect_credentialFingerprint _ _ _

variable {toks : String → TokenPair} {cred : DesiredCredential}
  {ledger : OAuthCredentialLedger} {op : IntentOperation}

lemma runDecision_of_present (st : ledger.state = .intent op) (own : OwnTargets toks (some ledger))
    (follows : cred.material.tokens = toks cred.credentialRevision) (e : NativeEntry) :
    let hit := e.fingerprint cred.credentialRevision
    let decision := runDecision (some cred) (some ledger) (runObservation (some cred) (some ledger) (some e))
    ((op.intentTargetFingerprint = some hit ∨ op.beforeFingerprint = some hit) ∧
      ((ledger.credentialRevision = cred.credentialRevision ∧
          (op.intentTargetFingerprint = some hit ∨ op = .remove hit) ∧
          decision = preserveDecision (some (seededLedger cred.credentialRevision (some hit)))) ∨
        ∃ ahead, decision = upsertDecision cred.credentialRevision hit cred.evidence.credentialFingerprint ahead)) ∨
    (¬(op.intentTargetFingerprint = some hit ∨ op.beforeFingerprint = some hit) ∧
      decision = preserveDecision (some ledger)) := by
  intro hit decision
  obtain ⟨rev, held⟩ := ledger
  obtain rfl : held = .intent op := st
  have decides : decision = decideFromIntent cred.evidence ⟨rev, .intent op⟩
      op (runObservation (some cred) (some ⟨rev, .intent op⟩) (some e)) := rfl
  rw [decides]
  by_cases same : rev = cred.credentialRevision
  · subst same
    have sameIdentity : cred.evidence.credentialRevision =
      cred.credentialRevision := rfl
    cases op with
    | seed tgt =>
      by_cases completed : hit = tgt
      · left
        have target_found := congrArg some completed.symm
        refine ⟨.inl target_found, .inl ⟨rfl, .inl target_found, ?_⟩⟩
        simp [decideFromIntent, sameIdentity, ← completed, hit]
      · right
        have ne : tgt ≠ hit := fun equal => completed equal.symm
        refine ⟨by simp [IntentOperation.intentTargetFingerprint, IntentOperation.beforeFingerprint, ne], ?_⟩
        simp [decideFromIntent, sameIdentity, show ¬e.fingerprint _ = tgt from completed]
    | upsert pre tgt =>
      obtain rfl : tgt = cred.evidence.credentialFingerprint := by
        have own := own _ _ _ rfl rfl rfl
        rw [← follows] at own
        exact own
      by_cases completed : hit = cred.evidence.credentialFingerprint
      · left
        have target_found := congrArg some completed.symm
        refine ⟨.inl target_found, .inl ⟨rfl, .inl target_found, ?_⟩⟩
        simp [decideFromIntent, sameIdentity, ← completed, hit]
      · have unfinished : ¬e.fingerprint cred.credentialRevision =
          cred.evidence.credentialFingerprint := completed
        by_cases untouched : hit = pre
        · left
          refine ⟨.inr (congrArg some untouched.symm), .inr ⟨false, ?_⟩⟩
          simp [decideFromIntent, sameIdentity, unfinished, ← untouched, hit]
        · right
          refine ⟨?_, ?_⟩
          · intro ev
            obtain proven | proven := ev
            · exact completed (Option.some.inj proven).symm
            · exact untouched (Option.some.inj proven).symm
          · simp [decideFromIntent, sameIdentity, unfinished, show ¬e.fingerprint _ = pre from untouched]
    | remove pre =>
      by_cases untouched : hit = pre
      · left
        refine ⟨.inr (congrArg some untouched.symm), .inl ⟨rfl, .inr (congrArg _ untouched.symm), ?_⟩⟩
        simp [decideFromIntent, sameIdentity, ← untouched, hit]
      · right
        have ne : pre ≠ hit := fun equal => untouched equal.symm
        refine ⟨by simp [IntentOperation.intentTargetFingerprint, IntentOperation.beforeFingerprint, ne], ?_⟩
        simp [decideFromIntent, sameIdentity, show ¬e.fingerprint _ = pre from untouched]
  · have ne : ¬rev = cred.evidence.credentialRevision := same
    by_cases ev : op.intentTargetFingerprint = some hit ∨ op.beforeFingerprint = some hit
    · left
      refine ⟨ev, .inr ⟨true, ?_⟩⟩
      have proven : op.intentTargetFingerprint = some (e.fingerprint cred.credentialRevision) ∨ op.beforeFingerprint =
            some (e.fingerprint cred.credentialRevision) := ev
      simp only [decideFromIntent, ne, observation_fingerprint, runRevision_some, proven]
      rfl
    · right
      refine ⟨ev, ?_⟩
      have unproven : ¬(op.intentTargetFingerprint = some (e.fingerprint cred.credentialRevision) ∨
          op.beforeFingerprint = some (e.fingerprint cred.credentialRevision)) := ev
      simp only [decideFromIntent, ne, observation_fingerprint, runRevision_some, unproven]
      rfl

lemma runDecision_of_absent (st : ledger.state = .intent op) (own : OwnTargets toks (some ledger))
    (follows : cred.material.tokens = toks cred.credentialRevision) :
    let decision := runDecision (some cred) (some ledger) (runObservation (some cred) (some ledger) none)
    (Resolvable (some cred.credentialRevision) (some ledger) none ∧
      ∃ ahead, decision = seedDecision cred.credentialRevision cred.evidence.credentialFingerprint ahead) ∨
    (¬Resolvable (some cred.credentialRevision) (some ledger) none ∧
      decision = preserveDecision (some ledger)) := by
  intro decision
  obtain ⟨rev, held⟩ := ledger
  obtain rfl : held = .intent op := st
  by_cases same : rev = cred.credentialRevision
  · subst same
    cases op with
    | seed tgt =>
      obtain rfl : tgt = cred.evidence.credentialFingerprint := by
        have own := own _ _ _ rfl rfl rfl
        rw [← follows] at own
        exact own
      exact .inl ⟨trivial, false, if_pos rfl⟩
    | upsert pre tgt =>
      right
      constructor
      · intro resolvable
        obtain ⟨alt, wanted, ne⟩ := resolvable
        exact ne (Option.some.inj wanted).symm
      · exact if_pos rfl
    | remove pre => exact .inl ⟨trivial, true, if_pos rfl⟩
  · left
    have ne : ¬rev = cred.evidence.credentialRevision := same
    refine ⟨?_, true, if_neg ne⟩
    cases op with
    | seed | remove => exact trivial
    | upsert pre tgt => exact ⟨_, rfl, fun equal => same equal.symm⟩

lemma reconciled_desired_of_intent (st : ledger.state = .intent op) (own : OwnTargets toks (some ledger))
    (follows : cred.material.tokens = toks cred.credentialRevision)
    (native : Option NativeEntry) : (Resolvable (some cred.credentialRevision) (some ledger) native ∧
      Settled (some cred.credentialRevision) (reconciled (some cred) (some ledger) native).1) ∨
    (¬Resolvable (some cred.credentialRevision) (some ledger) native ∧
      reconciled (some cred) (some ledger) native = (some ledger, native)) := by
  cases native with
  | none =>
    obtain ⟨resolvable, ahead, seeds⟩ | ⟨unresolvable, preserves⟩ := runDecision_of_absent st own follows
    · left
      rw [reconciled_seed seeds]
      exact ⟨resolvable, seededOutcome_settled cred⟩
    · right
      exact ⟨unresolvable, reconciled_preserve preserves (.inr rfl)⟩
  | some e =>
    have resolvable_iff : Resolvable (some cred.credentialRevision) (some ledger) (some e) ↔
          op.intentTargetFingerprint = some (e.fingerprint cred.credentialRevision) ∨
          op.beforeFingerprint =
            some (e.fingerprint cred.credentialRevision) := by
      unfold Resolvable
      simp [st]
    rw [resolvable_iff]
    obtain ⟨ev, out⟩ | ⟨unproven, preserves⟩ := runDecision_of_present st own follows e
    · left
      refine ⟨ev, ?_⟩
      obtain ⟨_, _, preserves⟩ | ⟨ahead, upserts⟩ := out
      · rw [reconciled_preserve preserves (.inr rfl)]
        exact ⟨_, rfl, rfl, rfl⟩
      · rw [reconciled_upsert upserts rfl]
        exact seededOutcome_settled cred
    · right
      exact ⟨unproven, reconciled_preserve preserves (.inr rfl)⟩

end

lemma reconciled_desired {toks : String → TokenPair} {cred : DesiredCredential}
    {ledger} (own : OwnTargets toks ledger) (follows : cred.material.tokens = toks cred.credentialRevision)
    (native : Option NativeEntry) : (Resolvable (some cred.credentialRevision) ledger native ∧
      Settled (some cred.credentialRevision) (reconciled (some cred) ledger native).1) ∨
    (¬Resolvable (some cred.credentialRevision) ledger native ∧ (∃ held, ledger = some held ∧ held.stable = false) ∧
      reconciled (some cred) ledger native = (ledger, native)) := by
  cases ledger with
  | none =>
    left
    refine ⟨trivial, reconciled_desired_of_closed ?_ native⟩
    intro held never
    cases never
  | some held =>
    cases stable : held.stable with
    | false =>
      obtain ⟨rev, st⟩ := held
      cases st with
      | intent op =>
        obtain settles | ⟨unresolvable, stuck⟩ := reconciled_desired_of_intent rfl own follows native
        · exact .inl settles
        · exact .inr ⟨unresolvable, ⟨_, rfl, rfl⟩, stuck⟩
      | seeded | adopted | revoked => cases stable
    | true =>
      left
      constructor
      · obtain ⟨rev, st⟩ := held
        cases st with
        | intent op => cases stable
        | seeded noted =>
          cases native with
          | none => exact trivial
          | some e =>
            intro never
            cases never
        | adopted | revoked => cases native <;> exact trivial
      · apply reconciled_desired_of_closed
        intro alt same
        obtain rfl := Option.some.inj same
        exact stable

def Leaves (ledger : Option OAuthCredentialLedger) (e : NativeEntry) : Prop :=
  ∀ held, ledger = some held → held.state = .adopted ∨ held.state = .revoked ∨
      (∃ noted, held.state = .seeded noted ∧ e.managed true = false) ∨
      ∃ pre tgt, held.state = .intent (.upsert pre tgt) ∧ tgt ≠ e.fingerprint held.credentialRevision

lemma unresolvable_remove {rev} {e : NativeEntry} (foreign : e.managed true = false) (pre : Fingerprint) :
    ¬Resolvable none (some ⟨rev, .intent (.remove pre)⟩) (some e) := by
  intro resolvable
  obtain managed | ⟨alt, tgt, never, _⟩ := resolvable.2 rfl
  · rw [foreign] at managed
    cases managed
  · cases never

section
variable {held : OAuthCredentialLedger} {e : NativeEntry}

inductive Ends (ledger : Option OAuthCredentialLedger) (native : Option NativeEntry) : Prop where
  | dropped (resolvable : Resolvable none ledger native)
      (out : reconciled none ledger native = (none, native))
      (left : ∀ e, native = some e → Leaves ledger e)
  | removed (resolvable : Resolvable none ledger native)
      (out : reconciled none ledger native = (none, none))
  | unresolved (unresolvable : ¬Resolvable none ledger native)
      (out : ∃ next, reconciled none ledger native = (some next, native) ∧
        next.stable = false ∧ ¬Resolvable none (some next) native)

lemma ends_of_removal {ahead} (decides : runDecision none (some held) (runObservation none (some held) (some e)) =
      removeDecision (e.fingerprint held.credentialRevision) ahead)
    (resolvable_iff : Resolvable none (some held) (some e) ↔ e.managed true = true) : Ends (some held) (some e) := by
  have out := reconciled_remove decides
  cases managed : e.managed true with
  | true =>
    rw [managed] at out
    exact .removed (resolvable_iff.mpr managed) out
  | false =>
    rw [managed] at out
    apply Ends.unresolved
    · rw [resolvable_iff, managed]
      simp
    · exact ⟨_, out, rfl, unresolvable_remove managed _⟩

lemma ends_of_unresolved {native} (decides : runDecision none (some held) (runObservation none (some held) native) =
      preserveDecision (some held)) (open_intent : held.stable = false)
    (unresolvable : ¬Resolvable none (some held) native) : Ends (some held) native :=
  .unresolved unresolvable ⟨held, reconciled_preserve decides (.inl rfl), open_intent, unresolvable⟩

variable {rev : String}

lemma reconciled_unfinished_upsert {pre tgt} (untouched : e.fingerprint rev = pre) (unfinished : tgt ≠ pre) :
    reconciled none (some ⟨rev, .intent (.upsert pre tgt)⟩) (some e) = (none, some e) := by
  have decides : runDecision none (some ⟨rev, .intent (.upsert pre tgt)⟩)
      (runObservation none (some ⟨rev, .intent (.upsert pre tgt)⟩) (some e)) =
        decideWithoutDesiredCredential (some ⟨rev, .intent (.upsert pre tgt)⟩)
          (runObservation none (some ⟨rev, .intent (.upsert pre tgt)⟩) (some e)) :=
    rfl
  apply reconciled_preserve _ (.inl rfl)
  rw [decides]
  simp [decideWithoutDesiredCredential, untouched, unfinished.symm]

lemma ends_of_intent {op} (native : Option NativeEntry) : Ends (some ⟨rev, .intent op⟩) native := by
  cases native with
  | none =>
    cases op with
    | seed | remove =>
      refine .dropped trivial (reconciled_preserve ?_ (.inl rfl)) (by simp)
      rfl
    | upsert pre tgt =>
      apply ends_of_unresolved rfl rfl
      intro resolvable
      obtain ⟨alt, never, _⟩ := resolvable
      cases never
  | some e =>
    have decides : runDecision none (some ⟨rev, .intent op⟩) (runObservation none (some ⟨rev, .intent op⟩) (some e)) =
          decideWithoutDesiredCredential (some ⟨rev, .intent op⟩)
            (runObservation none (some ⟨rev, .intent op⟩) (some e)) := rfl
    cases op with
    | seed tgt =>
      by_cases completed : e.fingerprint rev = tgt
      · subst completed
        apply ends_of_removal
        · rw [decides]
          simp [decideWithoutDesiredCredential]
          rfl
        · simp [Resolvable, IntentOperation.intentTargetFingerprint]
      · have ne : tgt ≠ e.fingerprint rev := fun equal => completed equal.symm
        apply ends_of_unresolved _ rfl
        · simp [Resolvable, IntentOperation.intentTargetFingerprint, IntentOperation.beforeFingerprint, ne]
        · rw [decides]
          simp [decideWithoutDesiredCredential, completed]
    | upsert pre tgt =>
      by_cases completed : e.fingerprint rev = tgt
      · subst completed
        apply ends_of_removal
        · rw [decides]
          simp [decideWithoutDesiredCredential]
          rfl
        · simp [Resolvable, IntentOperation.intentTargetFingerprint]
      · have ne : tgt ≠ e.fingerprint rev := fun equal => completed equal.symm
        by_cases untouched : e.fingerprint rev = pre
        · subst untouched
          apply Ends.dropped
          · simp [Resolvable, IntentOperation.beforeFingerprint, ne]
          · exact reconciled_unfinished_upsert rfl ne
          · intro alt same held isHeld
            obtain rfl := Option.some.inj same
            obtain rfl := Option.some.inj isHeld
            right; right; right
            exact ⟨_, _, rfl, ne⟩
        · have changed : pre ≠ e.fingerprint rev := fun equal => untouched equal.symm
          apply ends_of_unresolved _ rfl
          · simp [Resolvable, IntentOperation.intentTargetFingerprint, IntentOperation.beforeFingerprint, ne, changed]
          · rw [decides]
            simp [decideWithoutDesiredCredential, completed, untouched]
    | remove pre =>
      by_cases untouched : e.fingerprint rev = pre
      · subst untouched
        apply ends_of_removal
        · rw [decides]
          simp [decideWithoutDesiredCredential]
          rfl
        · simp [Resolvable, IntentOperation.beforeFingerprint]
      · have changed : pre ≠ e.fingerprint rev := fun equal => untouched equal.symm
        apply ends_of_unresolved _ rfl
        · simp [Resolvable, IntentOperation.intentTargetFingerprint, IntentOperation.beforeFingerprint, changed]
        · rw [decides]
          simp [decideWithoutDesiredCredential, untouched]

lemma reconciled_undesired (ledger : Option OAuthCredentialLedger)
    (native : Option NativeEntry) : Ends ledger native := by
  cases ledger with
  | none =>
    refine .dropped trivial (reconciled_preserve rfl (.inl rfl)) ?_
    intro e here held never
    cases never
  | some held =>
    obtain ⟨rev, st⟩ := held
    cases st with
    | intent op => exact ends_of_intent native
    | adopted =>
      apply Ends.dropped
      · cases native <;> exact trivial
      · exact reconciled_preserve rfl (.inl rfl)
      · intro e here held same
        obtain rfl := Option.some.inj same
        exact .inl rfl
    | revoked =>
      apply Ends.dropped
      · cases native <;> exact trivial
      · exact reconciled_preserve rfl (.inl rfl)
      · intro e here held same
        obtain rfl := Option.some.inj same
        exact .inr (.inl rfl)
    | seeded noted =>
      cases native with
      | none =>
        refine .dropped trivial (reconciled_preserve ?_ (.inl rfl)) (by simp)
        rfl
      | some e =>
        have decides : runDecision none (some ⟨rev, .seeded noted⟩)
            (runObservation none (some ⟨rev, .seeded noted⟩) (some e)) =
              decideWithoutDesiredCredential (some ⟨rev, .seeded noted⟩) (inspect (some e) rev true) := rfl
        cases managed : e.managed true with
        | true =>
          have owned : inspect (some e) rev true = .managed (e.fingerprint rev) := if_pos managed
          apply @ends_of_removal _ _ true
          · rw [decides, owned]
            rfl
          · simp [Resolvable, managed]
        | false =>
          have foreign : inspect (some e) rev true = .foreign (e.fingerprint rev) := if_neg (by simp [managed])
          by_cases exactOwned : noted = some (e.fingerprint rev)
          · apply @ends_of_removal _ _ true
            · rw [decides, foreign]
              exact if_pos exactOwned
            · simp [Resolvable, exactOwned]
          · apply Ends.dropped
            · intro _ owned
              exact absurd owned exactOwned
            · apply reconciled_preserve _ (.inl rfl)
              rw [decides, foreign]
              exact if_neg exactOwned
            · intro alt same held isHeld
              obtain rfl := Option.some.inj same
              obtain rfl := Option.some.inj isHeld
              right; right; left
              exact ⟨noted, rfl, managed⟩

end
end Clawdi.OAuth
