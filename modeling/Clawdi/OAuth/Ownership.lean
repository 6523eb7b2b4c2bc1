import Clawdi.OAuth.Reconciliation
import Mathlib.Tactic.SplitIfs

namespace Clawdi.OAuth
open Transition Option
variable {native : Observation}

@[simp] lemma Observation.credentialFingerprint_eq_none :
    native.credentialFingerprint = none ↔ native = .missing := by
  cases native <;> simp [credentialFingerprint]

inductive Decides (want : Option DesiredEvidence) (ledger : Option OAuthCredentialLedger)
    (native : Observation) (decision : Decision) : Prop where
  | preserve (act : decision.nativeAction = .preserve)
      (free : decision.requiresWriteAheadIntent = false)
      (next : decision.nextLedger = ledger ∨ ∀ held, decision.nextLedger = some held → held.stable = true)
  | seed (tgt : Fingerprint) (ev : DesiredEvidence) (wanted : want = some ev)
      (missing : native = .missing) (act : decision.nativeAction = .seed tgt)
      (next : decision.nextLedger = some (seededLedger ev.credentialRevision (some tgt)))
      (ahead : decision.requiresWriteAheadIntent = true ∧ tgt = ev.credentialFingerprint ∨
        decision.requiresWriteAheadIntent = false ∧ ledger = some ⟨ev.credentialRevision, .intent (.seed tgt)⟩)
  | upsert (pre tgt : Fingerprint) (ev : DesiredEvidence)
      (wanted : want = some ev) (hit : native.credentialFingerprint = some pre)
      (act : decision.nativeAction = .upsert pre tgt)
      (next : decision.nextLedger = some (seededLedger ev.credentialRevision (some tgt)))
      (ahead : decision.requiresWriteAheadIntent = true ∧ tgt = ev.credentialFingerprint ∨
        decision.requiresWriteAheadIntent = false ∧
          ledger = some ⟨ev.credentialRevision, .intent (.upsert pre tgt)⟩)
  | remove (pre : Fingerprint) (held : OAuthCredentialLedger) (unwanted : want = none)
      (hit : native.credentialFingerprint = some pre) (read : ledger = some held)
      (act : decision.nativeAction = .remove pre) (next : decision.nextLedger = none)
      (owned : (∃ noted, held.state = .seeded noted) ∨ ∃ op, held.state = .intent op ∧
          (op.intentTargetFingerprint = some pre ∨ op = .remove pre))
      (ahead : decision.requiresWriteAheadIntent = true ∨
        decision.requiresWriteAheadIntent = false ∧ held.state = .intent (.remove pre))

lemma decides_unresolved {want ledger} : Decides want ledger native (preserveDecision ledger) :=
  .preserve rfl rfl (.inl rfl)

lemma decides_drop {want ledger} : Decides want ledger native (preserveDecision none) := by
  apply Decides.preserve rfl rfl
  right
  intro held never
  cases never

lemma decides_preserve {want ledger} {next : OAuthCredentialLedger} (stable : next.stable = true) :
    Decides want ledger native (preserveDecision (some next)) := by
  apply Decides.preserve rfl rfl
  right
  intro held same
  obtain rfl := Option.some.inj same
  exact stable

lemma decideFromIntent_decides (want : DesiredEvidence) (ledger : OAuthCredentialLedger)
    (op : IntentOperation) (st : ledger.state = .intent op) (native : Observation) :
    Decides (some want) (some ledger) native (decideFromIntent want ledger op native) := by
  obtain ⟨rev, held⟩ := ledger
  obtain rfl : held = .intent op := st
  unfold decideFromIntent
  by_cases same : rev = want.credentialRevision
  · subst same
    rw [if_pos rfl]
    cases op with
    | seed tgt =>
      show Decides _ _ _ (if _ then _ else if _ then _ else _)
      split_ifs with missing hit
      · exact .seed tgt want rfl missing rfl rfl (.inr ⟨rfl, rfl⟩)
      · exact decides_preserve rfl
      · exact decides_unresolved
    | upsert pre tgt =>
      show Decides _ _ _ (if _ then _ else if _ then _ else _)
      split_ifs with completed hit
      · exact decides_preserve rfl
      · exact .upsert pre tgt want rfl hit rfl rfl (.inr ⟨rfl, rfl⟩)
      · exact decides_unresolved
    | remove pre =>
      show Decides _ _ _ (if _ then _ else if _ then _ else _)
      split_ifs with missing hit
      · exact .seed _ want rfl missing rfl rfl (.inl ⟨rfl, rfl⟩)
      · exact decides_preserve rfl
      · exact decides_unresolved
  · rw [if_neg same]
    cases cur : native.credentialFingerprint with
    | none =>
      have missing : native = .missing := Observation.credentialFingerprint_eq_none.mp cur
      exact .seed _ want rfl missing rfl rfl (.inl ⟨rfl, rfl⟩)
    | some hit =>
      show Decides _ _ _ (if _ then _ else _)
      split_ifs with proven
      · exact .upsert hit _ want rfl cur rfl rfl (.inl ⟨rfl, rfl⟩)
      · exact decides_unresolved

lemma decideWithoutDesiredCredential_decides (ledger : Option OAuthCredentialLedger)
    (native : Observation) : Decides none ledger native (decideWithoutDesiredCredential ledger native) := by
  cases ledger with
  | none => exact decides_unresolved
  | some ledger =>
    obtain ⟨rev, st⟩ := ledger
    cases st with
    | intent op =>
      cases op with
      | seed tgt =>
        show Decides _ _ _ (if _ then _ else if _ then _ else _)
        split_ifs with completed missing
        · exact .remove tgt _ rfl completed rfl rfl rfl (.inr ⟨_, rfl, .inl rfl⟩) (.inl rfl)
        · exact decides_drop
        · exact decides_unresolved
      | upsert pre tgt =>
        show Decides _ _ _ (if _ then _ else if _ then _ else _)
        split_ifs with completed missing
        · exact .remove tgt _ rfl completed rfl rfl rfl (.inr ⟨_, rfl, .inl rfl⟩) (.inl rfl)
        · exact decides_drop
        · exact decides_unresolved
      | remove pre =>
        show Decides _ _ _ (if _ then _ else if _ then _ else _)
        split_ifs with missing hit
        · exact decides_drop
        · exact .remove pre _ rfl hit rfl rfl rfl (.inr ⟨_, rfl, .inr rfl⟩) (.inr ⟨rfl, rfl⟩)
        · exact decides_unresolved
    | seeded noted =>
      cases native with
      | missing => exact decides_drop
      | managed hit => exact .remove hit _ rfl rfl rfl rfl rfl (.inl ⟨noted, rfl⟩) (.inl rfl)
      | foreign hit =>
        show Decides _ _ _ (if _ then _ else _)
        split_ifs with exact_owned
        · exact .remove hit _ rfl rfl rfl rfl rfl (.inl ⟨noted, rfl⟩) (.inl rfl)
        · exact decides_drop
    | adopted | revoked => exact decides_drop

def freshDecision (want : DesiredEvidence) : Observation → Decision
  | .missing => seedDecision want.credentialRevision want.credentialFingerprint true
  | .managed hit | .foreign hit => upsertDecision want.credentialRevision hit want.credentialFingerprint true

lemma decide_decides (want : Option DesiredEvidence) (ledger : Option OAuthCredentialLedger)
    (native : Observation) : Decides want ledger native
      (decideChatGptOAuthCredentialReconciliation want ledger native) := by
  cases want with
  | none => exact decideWithoutDesiredCredential_decides ledger native
  | some want =>
    have fresh : Decides (some want) ledger native (freshDecision want native) := by
      cases native with
      | missing => exact .seed _ want rfl rfl rfl rfl (.inl ⟨rfl, rfl⟩)
      | managed hit | foreign hit => exact .upsert hit _ want rfl rfl rfl rfl (.inl ⟨rfl, rfl⟩)
    cases ledger with
    | none => exact fresh
    | some ledger =>
      obtain ⟨rev, st⟩ := ledger
      cases st with
      | intent op => exact decideFromIntent_decides want _ op rfl native
      | seeded noted =>
        show Decides _ _ _ (if _ then _ else _)
        split_ifs with same
        · cases native with
          | missing => exact decides_preserve rfl
          | managed hit => exact decides_preserve rfl
          | foreign hit =>
            show Decides _ _ _ (if _ then _ else _)
            split_ifs with exact_owned
            · exact decides_preserve rfl
            · exact decides_preserve rfl
        · exact fresh
      | adopted | revoked =>
        show Decides _ _ _ (if _ then _ else _)
        split_ifs with same
        · cases native <;> exact decides_preserve rfl
        · exact fresh

def writtenLedger (want : Option DesiredCredential) (ledger : Option OAuthCredentialLedger)
    (native : Observation) : Option OAuthCredentialLedger :=
  let decision := runDecision want ledger native
  if decision.requiresWriteAheadIntent then intentLedgerForDecision decision ledger else ledger

section
variable {want : Option DesiredCredential} {ledger : Option OAuthCredentialLedger}
  {native : Observation}

variable {op : IntentOperation}

lemma writtenLedger_of_mutation
    (mutates : (runDecision want ledger native).nativeAction.intentOperation = some op) :
    writtenLedger want ledger native = some ⟨runRevision want ledger, .intent op⟩ := by
  have decided := decide_decides (want.map (·.evidence)) ledger native
  unfold writtenLedger intentLedgerForDecision
  cases decided with
  | preserve act free next =>
    have silent : (runDecision want ledger native).nativeAction = .preserve := act
    rw [silent] at mutates
    cases mutates
  | seed tgt ev wanted missing act next ahead =>
    obtain ⟨cred, rfl, rfl⟩ := map_eq_some_iff.mp wanted
    have acts : (runDecision (some cred) ledger native).nativeAction = .seed tgt := act
    have follows : (runDecision (some cred) ledger native).nextLedger = _ := next
    rw [acts] at mutates
    obtain rfl : IntentOperation.seed tgt = op := Option.some.inj mutates
    obtain ⟨required, _⟩ | ⟨free, noted⟩ := ahead
    · have required : (runDecision (some cred) ledger native).requiresWriteAheadIntent =
          true := required
      simp only [required, acts, follows]
      rfl
    · have free : (runDecision (some cred) ledger native).requiresWriteAheadIntent =
          false := free
      simp only [free]
      exact noted
  | upsert pre tgt ev wanted hit act next ahead =>
    obtain ⟨cred, rfl, rfl⟩ := map_eq_some_iff.mp wanted
    have acts : (runDecision (some cred) ledger native).nativeAction =
        .upsert pre tgt := act
    have follows : (runDecision (some cred) ledger native).nextLedger = _ := next
    rw [acts] at mutates
    obtain rfl : IntentOperation.upsert pre tgt = op := Option.some.inj mutates
    obtain ⟨required, _⟩ | ⟨free, noted⟩ := ahead
    · have required : (runDecision (some cred) ledger native).requiresWriteAheadIntent =
          true := required
      simp only [required, acts, follows]
      rfl
    · have free : (runDecision (some cred) ledger native).requiresWriteAheadIntent =
          false := free
      simp only [free]
      exact noted
  | remove pre held unwanted hit read act next owned ahead =>
    obtain rfl : want = none := map_eq_none_iff.mp unwanted
    subst read
    have acts : (runDecision none (some held) native).nativeAction = .remove pre := act
    have follows : (runDecision none (some held) native).nextLedger = none := next
    rw [acts] at mutates
    obtain rfl : IntentOperation.remove pre = op := Option.some.inj mutates
    obtain required | ⟨free, noted⟩ := ahead
    · have required : (runDecision none (some held) native).requiresWriteAheadIntent = true :=
        required
      simp only [required, acts, follows]
      rfl
    · have free : (runDecision none (some held) native).requiresWriteAheadIntent = false := free
      simp only [free]
      show some held = some ⟨held.credentialRevision, _⟩
      rw [← noted]

lemma runDecision_expected (mutates : (runDecision want ledger native).nativeAction.intentOperation = some op) :
    op.beforeFingerprint = native.credentialFingerprint := by
  have decided := decide_decides (want.map (·.evidence)) ledger native
  unfold runDecision at mutates
  cases decided with
  | preserve act free next =>
    rw [act] at mutates
    cases mutates
  | seed tgt ev wanted missing act next ahead =>
    rw [act] at mutates
    cases mutates
    subst missing
    rfl
  | upsert _ _ _ _ hit act | remove _ _ _ hit _ act =>
    rw [act] at mutates
    cases mutates
    exact hit.symm

lemma runDecision_remove {pre} (removes : (runDecision want ledger native).nativeAction = .remove pre) :
    want = none ∧ ∃ held, ledger = some held ∧ ((∃ noted, held.state = .seeded noted) ∨
        ∃ op, held.state = .intent op ∧ (op.intentTargetFingerprint = some pre ∨
            op.beforeFingerprint = some pre)) := by
  have decided := decide_decides (want.map (·.evidence)) ledger native
  unfold runDecision at removes
  cases decided with
  | preserve act | seed _ _ _ _ act | upsert _ _ _ _ _ act => simp [act] at removes
  | remove hit held unwanted seen read act next owned ahead =>
    rw [act] at removes
    cases removes
    refine ⟨map_eq_none_iff.mp unwanted, held, read, ?_⟩
    obtain seeded | ⟨op, st, ev⟩ := owned
    · exact .inl seeded
    · right
      refine ⟨op, st, ev.imp_right ?_⟩
      intro removal
      rw [removal]
      rfl

end

variable {act : NativeAction}

lemma executeHostedRuntimeOAuthAction_changes {cred native}
    (changes : (executeHostedRuntimeOAuthAction cred act native).2 ≠ native) : ∃ op, act.intentOperation = some op ∧
      native.map (·.fingerprint cred.credentialRevision) = op.beforeFingerprint ∧
      (executeHostedRuntimeOAuthAction cred act native).2 = some (targetEntry cred.material) := by
  cases act with
  | preserve | remove => exact absurd rfl changes
  | seed tgt =>
    have mutated : (mutate native cred.credentialRevision false none
        (.seedIfMissing cred.material)).2 ≠ native := changes
    have matched := mutate_changes mutated
    refine ⟨_, rfl, matched, ?_⟩
    simp [executeHostedRuntimeOAuthAction, mutate, matched]
  | upsert pre tgt =>
    have mutated : (mutate native cred.credentialRevision false (some pre)
        (.upsert cred.material)).2 ≠ native := changes
    have matched := mutate_changes mutated
    refine ⟨_, rfl, matched, ?_⟩
    simp [executeHostedRuntimeOAuthAction, mutate, matched]

lemma removeHostedRuntimeOAuthCredential_changes {rev pre}
    {native} (changes : (removeHostedRuntimeOAuthCredential rev pre native).2 ≠ native) :
    native.map (·.fingerprint rev) = some pre ∧ (removeHostedRuntimeOAuthCredential rev pre native).2 = none := by
  have mutated : (mutate native rev true (some pre) .remove).2 ≠ native := changes
  have matched := mutate_changes mutated
  refine ⟨matched, ?_⟩
  by_cases managed : native.any (·.managed true) = true
  · simp [removeHostedRuntimeOAuthCredential, mutate, matched, managed]
  · apply absurd _ changes
    simp [removeHostedRuntimeOAuthCredential, mutate, matched, managed]

lemma executeDecision_changes {want ledger native}
    (changes : (executeDecision want ledger act native).2 ≠ native) : ∃ op, act.intentOperation = some op ∧
      native.map (·.fingerprint (runRevision want ledger)) = op.beforeFingerprint ∧
      ((executeDecision want ledger act native).2 = none → ∃ pre, act = .remove pre ∧ op = .remove pre) := by
  cases want with
  | some cred =>
    obtain ⟨op, acts, matched, left⟩ := executeHostedRuntimeOAuthAction_changes changes
    refine ⟨op, acts, matched, ?_⟩
    intro emptied
    have written : (executeDecision (some cred) ledger act native).2 = some (targetEntry cred.material) := left
    rw [emptied] at written
    cases written
  | none =>
    cases act with
    | preserve | seed | upsert => exact absurd rfl changes
    | remove pre =>
      obtain ⟨matched, emptied⟩ := removeHostedRuntimeOAuthCredential_changes changes
      exact ⟨.remove pre, rfl, matched, fun _ => ⟨pre, rfl, rfl⟩⟩

def Coherent (w : World) : Prop :=
  ∀ run, w.run = some run →
    match run.stage with
    | .read => True
    | .observe ledger | .intend ledger _ => w.ledger = ledger
    | .mutate ledger native | .record ledger native => w.ledger = writtenLedger run.desired ledger native

lemma intent_of_required {want ledger native}
    (required : (runDecision want ledger native).requiresWriteAheadIntent = true) :
    ∃ intent, intentLedgerForDecision (runDecision want ledger native) ledger = some intent := by
  have mutates : ∃ op,
      (runDecision want ledger native).nativeAction.intentOperation = some op := by
    have decided : Decides _ _ _ (runDecision want ledger native) :=
      decide_decides (want.map (·.evidence)) ledger native
    cases decided with
    | preserve act free next =>
      rw [required] at free
      cases free
    | seed _ _ _ _ act | upsert _ _ _ _ _ act => exact ⟨_, by rw [act]; rfl⟩
    | remove pre held unwanted hit read act next owned ahead => exact ⟨_, by rw [act]; rfl⟩
  obtain ⟨op, mutates⟩ := mutates
  have written := writtenLedger_of_mutation mutates
  unfold writtenLedger at written
  rw [if_pos required] at written
  exact ⟨_, written⟩

lemma step_intend (cur ledger : Option OAuthCredentialLedger) (e : Option NativeEntry)
    (want : Option DesiredCredential) (native : Observation) :
    step ⟨cur, e, some ⟨want, .intend ledger native⟩⟩ .advance =
      ⟨if (runDecision want ledger native).requiresWriteAheadIntent then
        intentLedgerForDecision (runDecision want ledger native) ledger else cur,
        e, some ⟨want, .mutate ledger native⟩⟩ := by
  cases required : (runDecision want ledger native).requiresWriteAheadIntent with
  | false => simp [step, advance, required]
  | true =>
    obtain ⟨intent, written⟩ := intent_of_required required
    simp [step, advance, required, written]

inductive Stepped (w : World) : Action → World → Prop
  | kept {act : Action} (inside : ∀ native, act ≠ .external native) : Stepped w act w
  | ended {act : Action} (inside : ∀ native, act ≠ .external native) :
    Stepped w act { w with run := none }
  | external (native : Option NativeEntry) : Stepped w (.external native) { w with native }
  | begun (want : Option DesiredCredential) :
    Stepped w (.begin want) { w with run := some ⟨want, .read⟩ }
  | read (want : Option DesiredCredential) (held : w.run = some ⟨want, .read⟩) :
    Stepped w .advance { w with run := some ⟨want, .observe w.ledger⟩ }
  | observed (want : Option DesiredCredential) (ledger : Option OAuthCredentialLedger)
      (held : w.run = some ⟨want, .observe ledger⟩) :
    Stepped w .advance { w with run := some ⟨want, .intend ledger (runObservation want ledger w.native)⟩ }
  | intended (want : Option DesiredCredential) (ledger written : Option OAuthCredentialLedger)
      (native : Observation) (held : w.run = some ⟨want, .intend ledger native⟩)
      (writes : w.ledger = ledger → written = writtenLedger want ledger native) :
    Stepped w .advance { w with ledger := written, run := some ⟨want, .mutate ledger native⟩ }
  | mutated (want : Option DesiredCredential) (ledger : Option OAuthCredentialLedger)
      (native : Observation) (held : w.run = some ⟨want, .mutate ledger native⟩)
      (ran : Bool × Option NativeEntry)
      (executes : executeDecision want ledger (runDecision want ledger native).nativeAction w.native = ran) :
    Stepped w .advance
      { w with
        native := ran.2
        run := if ran.1 then some ⟨want, .record ledger native⟩ else none }
  | recorded (want : Option DesiredCredential) (ledger next : Option OAuthCredentialLedger)
      (native : Observation) (held : w.run = some ⟨want, .record ledger native⟩)
      (records : next = (runDecision want ledger native).nextLedger ∧
          (want = none ∨ next.isSome = true) ∨ want.isSome = true ∧ next = w.ledger) :
    Stepped w .advance { w with ledger := next, run := none }

lemma step_stepped (w : World) (act : Action) : Stepped w act (step w act) := by
  obtain ⟨cur, e, running⟩ := w
  cases act with
  | begin want =>
    cases running with
    | none => exact .begun want
    | some run => exact .kept nofun
  | crash => exact .ended nofun
  | external native => exact .external native
  | advance =>
    cases running with
    | none => exact .kept nofun
    | some run =>
      obtain ⟨want, stage⟩ := run
      cases stage with
      | read =>
        cases want with
        | some cred => exact .read _ rfl
        | none =>
          cases cur with
          | none => exact .ended nofun
          | some held => exact .read _ rfl
      | observe ledger => exact .observed want ledger rfl
      | intend ledger native =>
        rw [step_intend]
        refine .intended want ledger _ native rfl fun same => ?_
        rw [writtenLedger, ← show cur = ledger from same]
      | mutate ledger native => exact .mutated want ledger native rfl _ rfl
      | record ledger native =>
        cases next : (runDecision want ledger native).nextLedger with
        | some held =>
          simp only [step, advance, next]
          exact .recorded want ledger _ native rfl (.inl ⟨next.symm, .inr rfl⟩)
        | none =>
          cases want with
          | some cred =>
            simp only [step, advance, next]
            exact .recorded _ ledger cur native rfl (.inr ⟨rfl, rfl⟩)
          | none =>
            simp only [step, advance, next]
            exact .recorded _ ledger _ native rfl (.inl ⟨next.symm, .inl rfl⟩)

lemma step_desired {holds : Option DesiredCredential → Prop} {w : World} {act}
    (pre : ∀ run, w.run = some run → holds run.desired) (begun : ∀ want, act = .begin want → holds want) :
    ∀ run, (OAuth.step w act).run = some run → holds run.desired := by
  intro run here
  have stepped := step_stepped w act
  generalize OAuth.step w act = after at stepped here
  cases stepped with
  | kept | external => exact pre run here
  | ended | recorded => cases here
  | begun want =>
    cases here
    exact begun want rfl
  | read want held | observed want _ held | intended want _ _ _ held =>
    cases here
    exact (pre _ held : holds want)
  | mutated want ledger native held ran =>
    obtain ⟨_, same⟩ := (ite_none_right_eq_some ..).mp here
    cases same
    exact (pre _ held : holds want)

lemma Coherent.step {w} (agree : Coherent w) (act : Action) : Coherent (step w act) := by
  intro run here
  have stepped := step_stepped w act
  generalize OAuth.step w act = after at stepped here ⊢
  cases stepped with
  | kept | external => exact agree run here
  | ended | recorded => cases here
  | begun want =>
    cases here
    exact trivial
  | read want held =>
    cases here
    rfl
  | observed want ledger held =>
    cases here
    exact agree _ held
  | intended want ledger written native held writes =>
    cases here
    exact writes (agree _ held)
  | mutated want ledger native held ran =>
    obtain ⟨_, same⟩ := (ite_none_right_eq_some ..).mp here
    cases same
    exact agree _ held

def Stage.seen : Stage → Option (Option OAuthCredentialLedger × Observation)
  | .read | .observe _ => none
  | .intend ledger native | .mutate ledger native | .record ledger native => some (ledger, native)

def Sees (want : Option DesiredCredential) (ledger : Option OAuthCredentialLedger)
    (native : Observation) (w : World) : Prop :=
  ∃ stage, w.run = some ⟨want, stage⟩ ∧ stage.seen = some (ledger, native)

section
variable {want : Option DesiredCredential} {ledger : Option OAuthCredentialLedger}
  {native : Observation}

lemma sees_begins {w act} (pre : ¬Sees want ledger native w)
    (after : Sees want ledger native (step w act)) : act = .advance ∧ w.run = some ⟨want, .observe ledger⟩ ∧
      native = runObservation want ledger w.native := by
  obtain ⟨stage, here, seen⟩ := after
  have stepped := step_stepped w act
  generalize OAuth.step w act = next at stepped here
  cases stepped with
  | kept | external => exact absurd ⟨stage, here, seen⟩ pre
  | ended | recorded => cases here
  | begun | read =>
    cases here
    cases seen
  | observed wanted ledger held =>
    cases here
    cases seen
    exact ⟨rfl, held, rfl⟩
  | intended wanted ledger written native held =>
    cases here
    exact absurd ⟨_, held, seen⟩ pre
  | mutated wanted ledger native held ran =>
    obtain ⟨_, same⟩ := (ite_none_right_eq_some ..).mp here
    cases same
    exact absurd ⟨_, held, seen⟩ pre

def ObservedInRun (start : World) (actions : List Action) (want : Option DesiredCredential)
    (ledger : Option OAuthCredentialLedger) (native : Observation) : Prop :=
  ∃ pre after, actions = pre ++ .advance :: after ∧ (run step start pre).run = some ⟨want, .observe ledger⟩ ∧
    native = runObservation want ledger (run step start pre).native ∧
    ∀ middle, middle <+: after → Sees want ledger native (run step start (pre ++ .advance :: middle))

lemma observedInRun {start : World} (idle : start.run = none) {actions}
    (sees : Sees want ledger native (run step start actions)) : ObservedInRun start actions want ledger native := by
  have blind : ¬Sees want ledger native start := by
    intro early
    obtain ⟨stage, here, _⟩ := early
    rw [idle] at here
    cases here
  obtain ⟨pre, act, after, rfl, off, on⟩ := run_turned blind sees
  have turned : Sees want ledger native (step (run step start pre) act) := by
    have first := on [] List.nil_prefix
    rw [run_append] at first
    exact first
  obtain ⟨rfl, observing, obs⟩ := sees_begins off turned
  exact ⟨pre, after, rfl, observing, obs, on⟩

end

lemma decide_of_stable {want : DesiredEvidence} {ledger : OAuthCredentialLedger} (stable : ledger.stable = true)
    (same : ledger.credentialRevision = want.credentialRevision) (native : Observation) :
    ∃ next, decideChatGptOAuthCredentialReconciliation (some want) (some ledger) native =
        preserveDecision (some next) ∧ next.stable = true ∧ next.credentialRevision = want.credentialRevision := by
  obtain ⟨rev, st⟩ := ledger
  obtain rfl : rev = want.credentialRevision := same
  cases st with
  | intent op => cases stable
  | seeded noted =>
    cases native with
    | missing | managed => exact ⟨_, if_pos rfl, rfl, rfl⟩
    | foreign hit =>
      by_cases exactOwned : noted = some hit
      · exact ⟨_, (if_pos rfl).trans (if_pos exactOwned), rfl, rfl⟩
      · exact ⟨_, (if_pos rfl).trans (if_neg exactOwned), rfl, rfl⟩
  | adopted | revoked =>
    cases native with
    | missing | managed | foreign => exact ⟨_, if_pos rfl, rfl, rfl⟩

lemma writtenLedger_of_stable {want ledger held}
    (written : writtenLedger want ledger native = some held) (stable : held.stable = true) : ledger = some held := by
  unfold writtenLedger at written
  cases required : (runDecision want ledger native).requiresWriteAheadIntent with
  | false =>
    simp only [required] at written
    exact written
  | true =>
    exfalso
    simp only [required, intentLedgerForDecision] at written
    cases op : (runDecision want ledger native).nativeAction.intentOperation <;>
      cases ident : (runDecision want ledger native).nextLedger.or ledger <;>
      simp [op, ident] at written
    subst written
    cases stable

structure SettledFor (rev : String) (w : World) : Prop where
  coherent : Coherent w
  stable : ∃ ledger, w.ledger = some ledger ∧ ledger.stable = true ∧ ledger.credentialRevision = rev
  desired : ∀ run, w.run = some run → ∃ cred, run.desired = some cred ∧ cred.credentialRevision = rev

def Action.desires (rev : String) : Action → Prop
  | .begin want => want.map (·.credentialRevision) = some rev
  | _ => True

namespace SettledFor
variable {rev : String} {w : World}

lemma decides (done : SettledFor rev w) {cred stage} (here : w.run = some ⟨some cred, stage⟩)
    {ledger native} (seen : stage.seen = some (ledger, native)) :
    ∃ next, runDecision (some cred) ledger native = preserveDecision (some next) ∧
      next.stable = true ∧ next.credentialRevision = rev := by
  obtain ⟨held, onDisk, stable, same⟩ := done.stable
  obtain ⟨wanted, desires, ofRevision⟩ := done.desired _ here
  obtain rfl : cred = wanted := Option.some.inj desires
  have agree := done.coherent _ here
  have read : ledger = some held := by
    cases stage with
    | read | observe => cases seen
    | intend ledger native =>
      cases seen
      have read : w.ledger = ledger := agree
      rw [← read]
      exact onDisk
    | mutate ledger native | record ledger native =>
      cases seen
      have written : w.ledger = writtenLedger _ ledger native := agree
      exact writtenLedger_of_stable (written.symm.trans onDisk) stable
  subst read ofRevision
  exact decide_of_stable stable same native

lemma native_kept (done : SettledFor rev w) {act}
    (inside : ∀ native, act ≠ .external native) : (step w act).native = w.native := by
  have stepped := step_stepped w act
  generalize OAuth.step w act = after at stepped ⊢
  cases stepped with
  | external native => exact absurd rfl (inside native)
  | mutated want ledger native held ran executes =>
    obtain ⟨cred, desires, _⟩ := done.desired _ held
    obtain rfl : want = some cred := desires
    obtain ⟨next, preserves, _⟩ := done.decides held rfl
    rw [preserves] at executes
    exact (congrArg Prod.snd executes).symm
  | _ => rfl

lemma step (done : SettledFor rev w) {act : Action} (desires : act.desires rev) : SettledFor rev (step w act) := by
  refine ⟨done.coherent.step act, ?_, ?_⟩
  · have stepped := step_stepped w act
    generalize OAuth.step w act = after at stepped ⊢
    cases stepped with
    | intended want ledger written native held writes =>
      obtain ⟨cred, wanted, _⟩ := done.desired _ held
      obtain rfl : want = some cred := wanted
      obtain ⟨next, preserves, _⟩ := done.decides held rfl
      have same : w.ledger = ledger := done.coherent _ held
      rw [writes same, writtenLedger, preserves, ← same]
      exact done.stable
    | recorded want ledger next native held records =>
      obtain ⟨cred, wanted, _⟩ := done.desired _ held
      obtain rfl : want = some cred := wanted
      obtain ⟨rfl, _⟩ | ⟨_, rfl⟩ := records
      · obtain ⟨next, preserves, stable, same⟩ := done.decides held rfl
        rw [preserves]
        exact ⟨next, rfl, stable, same⟩
      · exact done.stable
    | _ => exact done.stable
  · apply @step_desired (fun want => ∃ cred, want = some cred ∧ cred.credentialRevision = rev) _ _ done.desired
    intro want begins
    subst begins
    exact map_eq_some_iff.mp desires

end SettledFor

lemma native_changes {start : World} (idle : start.run = none) (actions : List Action)
    {act} (inside : ∀ native, act ≠ .external native)
    (changes : (step (run step start actions) act).native ≠ (run step start actions).native) :
    ∃ want ledger native, act = .advance ∧ (run step start actions).run = some ⟨want, .mutate ledger native⟩ ∧
      (run step start actions).ledger = writtenLedger want ledger native ∧
      ObservedInRun start actions want ledger native ∧ (step (run step start actions) act).native =
        (executeDecision want ledger (runDecision want ledger native).nativeAction
          (run step start actions).native).2 := by
  have agree : Coherent (run step start actions) := by
    apply run_invariant (fun s a holds => holds.step a)
    intro run here
    rw [idle] at here
    cases here
  have stepped := step_stepped (run step start actions) act
  generalize OAuth.step (run step start actions) act = after at stepped changes ⊢
  cases stepped with
  | external native => exact absurd rfl (inside native)
  | mutated want ledger native held ran executes =>
    refine ⟨want, ledger, native, rfl, held, agree _ held, ?_, executes ▸ rfl⟩
    exact observedInRun idle ⟨_, held, rfl⟩
  | _ => exact absurd rfl changes

/-- A run changes the native entry only under an intent on disk whose evidence is what it observed and
swaps; it removes only what Clawdi wrote, and a stable ledger stays. -/
theorem ownership_safety {start : World} (idle : start.run = none) (actions : List Action) :
    let w := run step start actions
    (∀ act, (∀ native, act ≠ .external native) → (step w act).native ≠ w.native → ∃ want ledger native op,
        w.run = some ⟨want, .mutate ledger native⟩ ∧
        ObservedInRun start actions want ledger native ∧
        w.ledger = some ⟨runRevision want ledger, .intent op⟩ ∧
        w.native.map (·.fingerprint (runRevision want ledger)) = op.beforeFingerprint ∧
        native.credentialFingerprint = op.beforeFingerprint ∧
        ((step w act).native = none → ∃ e held, w.native = some e ∧ want = none ∧ ledger = some held ∧
            op = .remove (e.fingerprint held.credentialRevision) ∧
            ((∃ noted, held.state = .seeded noted) ∨ ∃ earlier, held.state = .intent earlier ∧
                (earlier.intentTargetFingerprint = some (e.fingerprint held.credentialRevision) ∨
                  earlier.beforeFingerprint = some (e.fingerprint held.credentialRevision))))) ∧
    ∀ rev later, (∃ ledger, w.ledger = some ledger ∧ ledger.stable = true ∧ ledger.credentialRevision = rev) →
      (∀ run, w.run = some run → ∃ cred, run.desired = some cred ∧ cred.credentialRevision = rev) →
      (∀ act ∈ later, act.desires rev) →
      Always step (fun s a => (∃ native, a = .external native) ∨ (step s a).native = s.native)
        w later := by
  intro w
  constructor
  · intro act inside changes
    obtain ⟨want, ledger, native, rfl, here, written, obs, left⟩ := native_changes idle actions inside changes
    have ne : (executeDecision want ledger
        (runDecision want ledger native).nativeAction w.native).2 ≠ w.native := by
      rw [← left]
      exact changes
    obtain ⟨op, mutates, matched, removes⟩ := executeDecision_changes ne
    refine ⟨want, ledger, native, op, here, obs, ?_, matched, ?_, ?_⟩
    · exact written.trans (writtenLedger_of_mutation mutates)
    · exact (runDecision_expected mutates).symm
    · intro emptied
      obtain ⟨pre, acts, rfl⟩ := removes (left.symm.trans emptied)
      obtain ⟨rfl, held, rfl, owned⟩ := runDecision_remove acts
      cases here : w.native with
      | none =>
        rw [here] at matched
        cases matched
      | some e =>
        simp only [here, map_some] at matched
        obtain rfl : e.fingerprint held.credentialRevision = pre := Option.some.inj matched
        exact ⟨e, held, rfl, rfl, rfl, rfl, owned⟩
  · intro rev later stable want desires
    have agree : Coherent w := by
      apply run_invariant (fun s a holds => holds.step a)
      intro run here
      rw [idle] at here
      cases here
    have done : SettledFor rev w := ⟨agree, stable, want⟩
    have always : Always step (fun _ a => a.desires rev) w later := Always.of_mem (fun a mem _ => desires a mem) w
    apply Always.strengthen (fun s a holds => holds.step) _ done always
    · intro s a holds _
      by_cases outside : ∃ native, a = .external native
      · exact .inl outside
      · right
        apply holds.native_kept
        intro native same
        exact outside ⟨native, same⟩

def sampleTokens : TokenPair := ⟨"access", "refresh", by decide, by decide⟩
def sampleCredential (rev : String) : DesiredCredential := ⟨rev, ⟨sampleTokens, "\"2026-01-01\""⟩⟩

theorem ownership_safety_logout :
    let seeding : List Action := [.begin (some (sampleCredential "r1")), .advance, .advance, .advance]
    let fresh : World := ⟨none, none, none⟩
    (∃ op, (run step fresh seeding).ledger = some ⟨"r1", .intent op⟩ ∧
      none = op.beforeFingerprint) ∧
    (run step fresh (seeding ++ [.advance, .advance, .external none,
      .begin (some (sampleCredential "r1")), .advance, .advance, .advance, .advance,
      .advance])).native = none := by
  intro seeding fresh
  constructor
  · obtain ⟨want, ledger, native, op, here, _, written, matched, _⟩ :=
      (@ownership_safety fresh rfl seeding).1 .advance (by simp) (by decide +kernel)
    have same : runRevision want ledger = "r1" := by
      cases here
      rfl
    rw [same] at written
    exact ⟨op, written, matched⟩
  · have stays := (@ownership_safety fresh rfl (seeding ++ [.advance, .advance])).2 "r1"
      [.external none, .begin (some (sampleCredential "r1")), .advance, .advance, .advance,
        .advance, .advance]
      ⟨_, rfl, by decide +kernel, by decide +kernel⟩ (by decide +kernel) (by simp [Action.desires, sampleCredential])
    obtain ⟨_, begun, read, obs, intended, mutated, noted, _⟩ := stays
    simp only [reduceCtorEq, exists_const, false_or] at begun read obs intended mutated noted
    exact noted.trans (mutated.trans (intended.trans (obs.trans (read.trans begun))))

end Clawdi.OAuth
