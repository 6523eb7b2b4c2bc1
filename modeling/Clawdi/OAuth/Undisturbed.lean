import Clawdi.OAuth.Resolution

namespace Clawdi.OAuth
open Transition
variable {toks : String → TokenPair}

def revisionFingerprint (toks : String → TokenPair) (rev : String) : Fingerprint :=
  oauthCredentialFingerprint rev (toks rev)

def WrittenFor (toks : String → TokenPair) (rev : String) (e : NativeEntry) : Prop :=
  e.tokens = some (toks rev) ∧ e.managed true = true

def Agrees (toks : String → TokenPair) (held : OAuthCredentialLedger) (native : Option NativeEntry) : Prop :=
  match held.state with
  | .seeded noted => noted = some (revisionFingerprint toks held.credentialRevision) ∧
      ∃ e, native = some e ∧ WrittenFor toks held.credentialRevision e
  | .adopted | .revoked => False
  | .intent (.seed tgt) => tgt = revisionFingerprint toks held.credentialRevision ∧
      ∀ e, native = some e → WrittenFor toks held.credentialRevision e
  | .intent (.upsert pre tgt) =>
    tgt = revisionFingerprint toks held.credentialRevision ∧
      (∃ prior, pre = oauthCredentialFingerprint held.credentialRevision prior) ∧
      ∃ e, native = some e ∧ (e.fingerprint held.credentialRevision = pre ∨
        WrittenFor toks held.credentialRevision e)
  | .intent (.remove pre) => pre = revisionFingerprint toks held.credentialRevision ∧
      ∀ e, native = some e → WrittenFor toks held.credentialRevision e

structure Consistent (toks : String → TokenPair) (ledger : Option OAuthCredentialLedger)
    (native : Option NativeEntry) : Prop where
  written : ∀ e, native = some e → ∃ rev, WrittenFor toks rev e
  agrees : ∀ held, ledger = some held → Agrees toks held native

lemma WrittenFor.fingerprint {rev e} (wrote : WrittenFor toks rev e) (under : String) :
    e.fingerprint under = oauthCredentialFingerprint under (toks rev) :=
  NativeEntry.fingerprint_of_tokens wrote.1 under

variable {cred : DesiredCredential}

lemma writtenFor_targetEntry (follows : cred.material.tokens = toks cred.credentialRevision) :
    WrittenFor toks cred.credentialRevision (targetEntry cred.material) := by
  constructor
  · rw [targetEntry_tokens, follows]
  · exact targetEntry_managed cred.material true

lemma evidence_fingerprint (follows : cred.material.tokens = toks cred.credentialRevision) :
    cred.evidence.credentialFingerprint = revisionFingerprint toks cred.credentialRevision := by
  show oauthCredentialFingerprint _ cred.material.tokens = _
  rw [follows]
  rfl

namespace Consistent
variable {ledger : Option OAuthCredentialLedger} {native : Option NativeEntry}

lemma of_none (wrote : ∀ e, native = some e → ∃ rev, WrittenFor toks rev e) : Consistent toks none native := by
  refine ⟨wrote, ?_⟩
  intro held never
  cases never

lemma of_some {held} (wrote : ∀ e, native = some e → ∃ rev, WrittenFor toks rev e)
    (agrees : Agrees toks held native) : Consistent toks (some held) native := by
  refine ⟨wrote, ?_⟩
  intro alt same
  obtain rfl := Option.some.inj same
  exact agrees

lemma absent : Consistent toks none none := by
  apply of_none
  intro e never
  cases never

section
variable (agree : Consistent toks ledger native)
include agree

lemma writtenFor {e} (here : native = some e) {rev}
    (hit : e.fingerprint rev = revisionFingerprint toks rev) : WrittenFor toks rev e := by
  obtain ⟨alt, wrote⟩ := agree.written e here
  rw [wrote.fingerprint] at hit
  have same : toks alt = toks rev := (oauthCredentialFingerprint_inj.mp hit).2
  exact ⟨wrote.1.trans (congrArg some same), wrote.2⟩

lemma ownTargets : OwnTargets toks ledger := by
  intro held op tgt isHeld st noted
  have agrees := agree.agrees held isHeld
  unfold Agrees at agrees
  rw [st] at agrees
  cases op with
  | seed | upsert =>
    cases noted
    exact agrees.1
  | remove pre => cases noted

lemma removable {held} (isHeld : ledger = some held) {e} (here : native = some e)
    (owned : (∃ noted, held.state = .seeded noted) ∨ ∃ op, held.state = .intent op ∧
      (op.intentTargetFingerprint = some (e.fingerprint held.credentialRevision) ∨ op =
        .remove (e.fingerprint held.credentialRevision))) : WrittenFor toks held.credentialRevision e := by
  have agrees := agree.agrees held isHeld
  unfold Agrees at agrees
  obtain ⟨noted, st⟩ | ⟨op, st, ev⟩ := owned
  · rw [st] at agrees
    obtain ⟨_, alt, present', wrote⟩ := agrees
    rw [here] at present'
    obtain rfl := Option.some.inj present'
    exact wrote
  · rw [st] at agrees
    cases op with
    | seed | remove => exact agrees.2 e here
    | upsert pre tgt =>
      obtain target_found | never := ev
      · apply agree.writtenFor here
        rw [← agrees.1]
        exact (Option.some.inj target_found).symm
      · cases never

end
end Consistent

lemma native_of_missing {want ledger native}
    (missing : runObservation want ledger native = .missing) : native = none := by
  cases native with
  | none => rfl
  | some e => exact absurd missing (observation_ne_missing e)

lemma native_of_fingerprint {want ledger native hit}
    (obs : (runObservation want ledger native).credentialFingerprint = some hit) :
    ∃ e, native = some e ∧ e.fingerprint (runRevision want ledger) = hit := by
  cases native with
  | none => cases obs
  | some e =>
    rw [observation_fingerprint] at obs
    exact ⟨e, rfl, Option.some.inj obs⟩

structure Carries (toks : String → TokenPair) (want : Option DesiredCredential)
    (ledger : Option OAuthCredentialLedger) (native : Option NativeEntry) (decision : Decision)
    (wrote : Option OAuthCredentialLedger) : Prop where
  intended : Consistent toks wrote native
  completed : (executeDecision want ledger decision.nativeAction native).1 = true
  mutated : Consistent toks wrote (executeDecision want ledger decision.nativeAction native).2
  recorded : (want = none ∨ decision.nextLedger.isSome = true) → Consistent toks decision.nextLedger
      (executeDecision want ledger decision.nativeAction native).2

section
variable {want : Option DesiredCredential} {ledger : Option OAuthCredentialLedger}
  {native : Option NativeEntry} {cred : DesiredCredential}

variable {decision : Decision} {e : NativeEntry} {held : OAuthCredentialLedger}

lemma Consistent.of_entry {rev} (wrote : WrittenFor toks rev e) (agrees : Agrees toks held (some e)) :
    Consistent toks (some held) (some e) := by
  apply Consistent.of_some _ agrees
  intro alt same
  obtain rfl := Option.some.inj same
  exact ⟨rev, wrote⟩

lemma carries_seed (cred : DesiredCredential) (follows : cred.material.tokens = toks cred.credentialRevision)
    (act : decision.nativeAction = .seed cred.evidence.credentialFingerprint) (next : decision.nextLedger =
      some (seededLedger cred.credentialRevision (some cred.evidence.credentialFingerprint))) :
    Carries toks (some cred) ledger none decision (some ⟨cred.credentialRevision,
        .intent (.seed cred.evidence.credentialFingerprint)⟩) := by
  have ran : executeDecision (some cred) ledger decision.nativeAction none =
      (true, some (targetEntry cred.material)) := by
    rw [act]
    exact execute_seed cred
  have wrote := writtenFor_targetEntry follows
  have ev := evidence_fingerprint follows
  apply Carries.mk
  · apply Consistent.of_some
    · intro e never
      cases never
    · refine ⟨ev, ?_⟩
      intro e never
      cases never
  · rw [ran]
  · rw [ran]
    apply Consistent.of_entry wrote
    refine ⟨ev, ?_⟩
    intro e same
    obtain rfl := Option.some.inj same
    exact wrote
  · intro _
    rw [ran, next]
    apply Consistent.of_entry wrote
    exact ⟨congrArg some ev, _, rfl, wrote⟩

lemma carries_upsert (cred : DesiredCredential)
    (follows : cred.material.tokens = toks cred.credentialRevision) {earlier} (held : WrittenFor toks earlier e)
    (act : decision.nativeAction =
      .upsert (e.fingerprint cred.credentialRevision) cred.evidence.credentialFingerprint)
    (next : decision.nextLedger =
      some (seededLedger cred.credentialRevision (some cred.evidence.credentialFingerprint))) :
    Carries toks (some cred) ledger (some e) decision (some ⟨cred.credentialRevision,
        .intent (.upsert (e.fingerprint cred.credentialRevision) cred.evidence.credentialFingerprint)⟩) := by
  have ran : executeDecision (some cred) ledger decision.nativeAction (some e) =
      (true, some (targetEntry cred.material)) := by
    rw [act]
    exact execute_upsert cred rfl
  have wrote := writtenFor_targetEntry follows
  have ev := evidence_fingerprint follows
  have prior := held.fingerprint cred.credentialRevision
  apply Carries.mk
  · apply Consistent.of_entry held
    exact ⟨ev, ⟨_, prior⟩, e, rfl, .inl rfl⟩
  · rw [ran]
  · rw [ran]
    apply Consistent.of_entry wrote
    exact ⟨ev, ⟨_, prior⟩, _, rfl, .inr wrote⟩
  · intro _
    rw [ran, next]
    apply Consistent.of_entry wrote
    exact ⟨congrArg some ev, _, rfl, wrote⟩

lemma carries_remove (wrote : WrittenFor toks held.credentialRevision e)
    (act : decision.nativeAction = .remove (e.fingerprint held.credentialRevision))
    (next : decision.nextLedger = none) : Carries toks none (some held) (some e) decision
      (some ⟨held.credentialRevision, .intent (.remove (e.fingerprint held.credentialRevision))⟩) := by
  have ran : executeDecision none (some held) decision.nativeAction (some e) =
      (true, none) := by
    rw [act]
    have removed : executeDecision none (some held) (.remove (e.fingerprint held.credentialRevision)) (some e) =
          if e.managed true then (true, none) else (false, some e) := execute_remove e
    rw [removed, if_pos wrote.2]
  have ev := wrote.fingerprint held.credentialRevision
  apply Carries.mk
  · apply Consistent.of_entry wrote
    refine ⟨ev, ?_⟩
    intro alt same
    obtain rfl := Option.some.inj same
    exact wrote
  · rw [ran]
  · rw [ran]
    apply Consistent.of_some
    · intro e never
      cases never
    · refine ⟨ev, ?_⟩
      intro e never
      cases never
  · intro _
    rw [ran, next]
    exact Consistent.absent

lemma decision_eq_preserve (act : decision.nativeAction = .preserve)
    (free : decision.requiresWriteAheadIntent = false) : decision = preserveDecision decision.nextLedger := by
  obtain ⟨nativeAction, nextLedger, required⟩ := decision
  obtain rfl : nativeAction = .preserve := act
  obtain rfl : required = false := free
  rfl

lemma preserved_undesired (agree : Consistent toks ledger native)
    (act : (runDecision none ledger (runObservation none ledger native)).nativeAction = .preserve) :
    Consistent toks (runDecision none ledger (runObservation none ledger native)).nextLedger native := by
  have decided : Decides none ledger _
      (runDecision none ledger (runObservation none ledger native)) :=
    decide_decides _ _ _
  generalize decides : runDecision none ledger (runObservation none ledger native) = decision at *
  cases decided with
  | seed _ _ wanted | upsert _ _ _ wanted => cases wanted
  | remove pre held unwanted hit read acts next owned ahead =>
    rw [acts] at act
    cases act
  | preserve acts free next =>
    have preserves := decision_eq_preserve acts free
    have out := reconciled_preserve (decides.trans preserves) (.inl rfl)
    cases reconciled_undesired ledger native with
    | dropped resolvable dropped left =>
      rw [out] at dropped
      rw [(Prod.mk.inj dropped).1]
      exact Consistent.of_none agree.written
    | removed resolvable removed =>
      rw [out] at removed
      rw [(Prod.mk.inj removed).1]
      exact Consistent.of_none agree.written
    | unresolved unresolvable unresolved =>
      obtain ⟨held, same, open_intent, _⟩ := unresolved
      rw [out] at same
      have kept := (Prod.mk.inj same).1
      obtain unchanged | stable := next
      · rw [unchanged]
        exact agree
      · have stable := stable held kept
        rw [open_intent] at stable
        cases stable

lemma preserved_desired (agree : Consistent toks ledger native)
    (follows : cred.material.tokens = toks cred.credentialRevision) (act : (runDecision (some cred) ledger
      (runObservation (some cred) ledger native)).nativeAction = .preserve) :
    Consistent toks (runDecision (some cred) ledger
      (runObservation (some cred) ledger native)).nextLedger native := by
  cases ledger with
  | none =>
    cases native with
    | none => cases act
    | some e =>
      have foreign : runObservation (some cred) none (some e) =
          .foreign (e.fingerprint cred.credentialRevision) :=
        if_neg (by simp [NativeEntry.managed, runtimeOAuthLedgerOwnership])
      rw [foreign] at act
      cases act
  | some held =>
    obtain ⟨rev, st⟩ := held
    have agrees := agree.agrees _ rfl
    cases st with
    | adopted | revoked => exact agrees.elim
    | seeded noted =>
      obtain ⟨isOwn, e, rfl, wrote⟩ := agrees
      have owned : runObservation (some cred) (some ⟨rev, .seeded noted⟩)
          (some e) = .managed (e.fingerprint cred.credentialRevision) :=
        if_pos wrote.2
      rw [owned] at act ⊢
      by_cases same : rev = cred.credentialRevision
      · have preserves : runDecision (some cred) (some ⟨rev, .seeded noted⟩)
            (.managed (e.fingerprint cred.credentialRevision)) =
              preserveDecision (some (seededLedger cred.credentialRevision noted)) :=
          if_pos same
        rw [preserves, ← same]
        exact agree
      · have upserts : runDecision (some cred) (some ⟨rev, .seeded noted⟩)
            (.managed (e.fingerprint cred.credentialRevision)) =
              upsertDecision _ _ _ true := if_neg same
        rw [upserts] at act
        cases act
    | intent op =>
      cases native with
      | none =>
        obtain ⟨_, ahead, seeds⟩ | ⟨_, preserves⟩ := runDecision_of_absent rfl agree.ownTargets follows
        · rw [seeds] at act
          cases act
        · rw [preserves]
          exact agree
      | some e =>
        obtain ⟨_, out⟩ | ⟨_, preserves⟩ := runDecision_of_present rfl agree.ownTargets follows e
        · obtain ⟨same, ev, preserves⟩ | ⟨ahead, upserts⟩ := out
          · obtain rfl : rev = cred.credentialRevision := same
            have wrote := agree.removable rfl rfl (.inr ⟨_, rfl, ev⟩)
            rw [preserves]
            apply Consistent.of_entry wrote
            refine ⟨congrArg some (wrote.fingerprint _), _, rfl, wrote⟩
          · rw [upserts] at act
            cases act
        · rw [preserves]
          exact agree

lemma executeDecision_preserve (want : Option DesiredCredential)
    (ledger : Option OAuthCredentialLedger) (native : Option NativeEntry) :
    executeDecision want ledger .preserve native = (true, native) := by
  cases want <;> rfl

lemma Consistent.carries (agree : Consistent toks ledger native) (follows : ∀ cred, want = some cred →
      cred.material.tokens = toks cred.credentialRevision) :
    Carries toks want ledger native (runDecision want ledger (runObservation want ledger native))
      (writtenLedger want ledger (runObservation want ledger native)) := by
  have decided : Decides _ ledger _
      (runDecision want ledger (runObservation want ledger native)) :=
    decide_decides _ _ _
  cases decided with
  | preserve act free next =>
    have wrote : writtenLedger want ledger (runObservation want ledger native) = ledger := by
      unfold writtenLedger
      simp only [free]
      rfl
    have ran := executeDecision_preserve want ledger native
    rw [← act] at ran
    have noted : Consistent toks
        (runDecision want ledger (runObservation want ledger native)).nextLedger native := by
      cases want with
      | none => exact preserved_undesired agree act
      | some cred => exact preserved_desired agree (follows _ rfl) act
    rw [wrote]
    apply Carries.mk agree
    · rw [ran]
    · rw [ran]
      exact agree
    · intro _
      rw [ran]
      exact noted
  | seed tgt ev wanted missing act next ahead =>
    obtain ⟨cred, rfl, rfl⟩ := Option.map_eq_some_iff.mp wanted
    have follows := follows cred rfl
    have own : tgt = cred.evidence.credentialFingerprint := by
      obtain ⟨_, own⟩ | ⟨_, noted⟩ := ahead
      · exact own
      · rw [evidence_fingerprint follows]
        exact agree.ownTargets _ _ tgt noted rfl rfl
    subst own
    have wrote : writtenLedger (some cred) ledger
        (runObservation (some cred) ledger native) = _ :=
      writtenLedger_of_mutation (congrArg NativeAction.intentOperation act)
    obtain rfl := native_of_missing missing
    rw [wrote]
    exact carries_seed cred follows act next
  | upsert pre tgt ev wanted hit act next ahead =>
    obtain ⟨cred, rfl, rfl⟩ := Option.map_eq_some_iff.mp wanted
    have follows := follows cred rfl
    have own : tgt = cred.evidence.credentialFingerprint := by
      obtain ⟨_, own⟩ | ⟨_, noted⟩ := ahead
      · exact own
      · rw [evidence_fingerprint follows]
        exact agree.ownTargets _ _ tgt noted rfl rfl
    subst own
    have wrote : writtenLedger (some cred) ledger
        (runObservation (some cred) ledger native) = _ :=
      writtenLedger_of_mutation (congrArg NativeAction.intentOperation act)
    obtain ⟨e, rfl, rfl⟩ := native_of_fingerprint hit
    obtain ⟨earlier, held⟩ := agree.written e rfl
    rw [wrote]
    exact carries_upsert cred follows held act next
  | remove pre held unwanted hit read act next owned ahead =>
    obtain rfl : want = none := Option.map_eq_none_iff.mp unwanted
    subst read
    have wrote : writtenLedger none (some held) (runObservation none (some held) native) = _ :=
      writtenLedger_of_mutation (congrArg NativeAction.intentOperation act)
    obtain ⟨e, rfl, rfl⟩ := native_of_fingerprint hit
    rw [wrote]
    exact carries_remove (agree.removable rfl rfl owned) act next

end
end Clawdi.OAuth
