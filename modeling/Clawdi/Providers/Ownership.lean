import Clawdi.Lib.Transition
import Clawdi.Providers.Operations

namespace Clawdi.Providers
open Transition Table Option
variable {catalog : List NativeProvider} {attestation : Attestation} {w after : World}
  {prov row : AiProvider} {rcpt : HandoffReceipt}

section
variable {provId : String}

lemma loadProvider_spec {environment}
    (loaded : loadProviderForEnvironmentRepair w.providers provId = .ok (prov, environment)) :
    prov ∈ w.providers ∧ prov.providerId = provId ∧ prov.archived = false ∧
      prov.ownsConnection = true ∧ prov.auth.isManagedApiKey = true := by
  unfold loadProviderForEnvironmentRepair at loaded
  split at loaded
  · exact absurd loaded throw_ne_ok
  · rename_i hit isFound
    rw [filter_eq_some_iff] at isFound
    obtain ⟨was, key⟩ := get_eq_some.mp isFound.1
    have visible : hit.archived = false := by simpa using isFound.2
    split at loaded
    · rename_i owns managed _
      split at loaded
      · exact absurd loaded throw_ne_ok
      · cases loaded
        refine ⟨was, key, visible, owns, ?_⟩
        rw [managed]
        rfl
    · exact absurd loaded throw_ne_ok

lemma pending_of_filter (hit : prov.identityHandoff.filter (fun rcpt => rcpt.state = .prepared) = some rcpt) :
    prov.identityHandoff = some rcpt ∧ rcpt.state = .prepared := by
  rw [filter_eq_some_iff] at hit
  exact ⟨hit.1, by simpa using hit.2⟩

section
variable (agree : Consistent w)
include agree

lemma repaired_row (was : prov ∈ w.providers) (visible : prov.archived = false)
    (owns : prov.ownsConnection = true) {name handoff} {enabled}
    (unused : ∀ claimed, (name = some claimed ∨ ∃ rcpt, handoff = some rcpt ∧ rcpt.nativeEnvName = claimed) →
        prov.claims claimed = true ∨ Unused w prov claimed) (providers : after.providers =
      w.providers.put { prov with runtimeEnvName := name, identityHandoff := handoff, identityEnabled := enabled })
    (later : w.next ≤ after.next) (payloads : after.payloads = w.payloads) :
    Rewrites w { prov with
      runtimeEnvName := name, identityHandoff := handoff, identityEnabled := enabled } after := by
  have delivers := agree.delivers was owns visible
  refine ⟨providers, later, ?_, .inl ⟨prov, was, rfl, rfl⟩, ?_, fun _ _ => owns, ?_⟩
  · intro payload _
    rw [payloads]
  · intro connects
    exact agree.connected prov was connects
  · intro _ claimed claims
    have kept : prov.claims claimed = true →
        (∃ old ∈ w.providers, old.providerId = prov.providerId ∧ old.credentialed = true ∧
          old.claims claimed = true) := fun had => ⟨prov, was, rfl, delivers, had⟩
    rcases AiProvider.claims_iff.mp claims with named | named | named
    · exact (unused claimed (.inl named)).imp kept id
    · exact .inl (kept (AiProvider.claims_iff.mpr (.inr (.inl named))))
    · exact (unused claimed (.inr named)).imp kept id

lemma prepare_rewrites {body} (done : prepareIdentityHandoff attestation w body = .ok after) :
    ∃ prov ∈ w.providers, ∃ rcpt : HandoffReceipt, prov.providerId = body.providerId ∧ rcpt.state = .prepared ∧
      admitSupersede prov body = .ok () ∧ after.payloads = w.payloads ∧
      Rewrites w { prov with identityEnabled := true, identityHandoff := some rcpt } after := by
  simp only [prepareIdentityHandoff, bind_eq_ok, pure_eq_ok, raiseIf_eq_ok] at done
  obtain ⟨⟨prov, environment⟩, loaded, _, supersedes, _, _, _, _, _, _, _, _, _, _, _, free, rev, _, rfl⟩ := done
  obtain ⟨was, key, visible, owns, _⟩ := loadProvider_spec loaded
  refine ⟨prov, was, _, key, ?_, supersedes, rfl, repaired_row agree was visible owns ?_ rfl (Nat.le_succ _) rfl⟩
  · rfl
  · rintro claimed (named | ⟨rcpt, isReceipt, rfl⟩)
    · exact .inl (AiProvider.claims_iff.mpr (.inl named))
    · cases isReceipt
      rw [requireAvailableEnvironment, raiseIf_eq_ok, Bool.not_eq_true] at free
      exact .inr (unused_of_reserved was rfl agree free)

lemma complete_rewrites {body} (done : completeIdentityHandoff attestation w provId body = .ok after) :
    ∃ prov ∈ w.providers, ∃ rcpt, prov.providerId = provId ∧
      prov.identityHandoff = some rcpt ∧ rcpt.state = .prepared ∧
      body.handoffId = rcpt.handoffId ∧ after.payloads = w.payloads ∧
      Rewrites w { prov with
        runtimeEnvName := some rcpt.nativeEnvName
        identityHandoff := some { rcpt with state := .completed } } after := by
  simp only [completeIdentityHandoff, bind_eq_ok] at done
  obtain ⟨⟨prov, environment⟩, loaded, done⟩ := done
  obtain ⟨was, key, visible, owns, _⟩ := loadProvider_spec loaded
  split at done
  · exact absurd done throw_ne_ok
  · rename_i rcpt pend
    simp only [bind_eq_ok, pure_eq_ok, raiseIf_eq_ok] at done
    obtain ⟨_, _, _, _, _, same, _, _, _, free, rfl⟩ := done
    obtain ⟨has, prepared⟩ := pending_of_filter pend
    refine ⟨prov, was, rcpt, key, has, prepared, ?_, rfl, repaired_row agree was visible owns ?_ rfl le_rfl rfl⟩
    · by_contra different
      exact same (.inl different)
    · intro claimed named
      have isNative : rcpt.nativeEnvName = claimed := by
        rcases named with named | ⟨completed, isCompleted, named⟩
        · exact Option.some.inj named
        · cases isCompleted
          exact named
      exact .inl (AiProvider.claims_iff.mpr (.inr (.inr ⟨rcpt, has, isNative⟩)))

lemma restore_ordinary {body}
    (done : restoreProviderEnvironment attestation w body = .ok after) : Ordinary w after := by
  simp only [restoreProviderEnvironment, bind_eq_ok, pure_eq_ok, raiseIf_eq_ok] at done
  obtain ⟨⟨prov, environment⟩, loaded, _, settled, _, _, _, _, _, _, _, _, _, _, _, _, _, free, rfl⟩ := done
  obtain ⟨was, _, visible, owns, _⟩ := loadProvider_spec loaded
  refine ⟨_, repaired_row agree was visible owns ?_ rfl le_rfl rfl,
    Settles.of_stored was rfl (by simpa using settled)⟩
  rintro claimed (named | named)
  · cases named
    rw [requireAvailableEnvironment, raiseIf_eq_ok, Bool.not_eq_true] at free
    exact .inr (unused_of_reserved was rfl agree free)
  · exact .inl (AiProvider.claims_iff.mpr (.inr (.inr named)))

end
end

section

def Op.Unclaimed (w : World) : Op → Prop
  | .accept _ body cred _ => AcceptUnclaimed w body cred
  | _ => True

instance (w : World) (op : Op) : Decidable (op.Unclaimed w) := by
  cases op with
  | accept circ body cred replace => exact inferInstanceAs (Decidable (AcceptUnclaimed w body cred))
  | _ => exact inferInstanceAs (Decidable True)

structure HandoffKept (w : World) (op : Op) (after : World) (row : AiProvider)
    (rcpt : HandoffReceipt) : Prop where
  payloads : ∀ payload : AuthPayload, payload.providerId = row.providerId →
    (payload ∈ after.payloads ↔ payload ∈ w.payloads)
  row : row ∈ after.providers ∨ (∃ attestation body replacement, op = .prepare attestation body ∧
      body.providerId = row.providerId ∧ body.supersedesHandoffId = some rcpt.handoffId ∧
      replacement.state = .prepared ∧
      { row with identityEnabled := true, identityHandoff := some replacement } ∈ after.providers) ∨
    (∃ attestation body, op = .complete attestation row.providerId body ∧ body.handoffId = rcpt.handoffId ∧
      { row with runtimeEnvName := some rcpt.nativeEnvName
                 identityHandoff := some { rcpt with state := .completed } } ∈ after.providers)

def HandoffsKept (w : World) (op : Op) (after : World) : Prop :=
  ∀ row ∈ w.providers, ∀ rcpt, row.identityHandoff = some rcpt → rcpt.state = .prepared →
    HandoffKept w op after row rcpt

variable {op : Op}

lemma HandoffKept.untouched (kept : row ∈ after.providers)
    (payloads : ∀ payload : AuthPayload, payload.providerId = row.providerId →
      (payload ∈ after.payloads ↔ payload ∈ w.payloads)) : HandoffKept w op after row rcpt := ⟨payloads, .inl kept⟩

lemma Ordinary.handoffsKept (ordinary : Ordinary w after) : HandoffsKept w op after := by
  obtain ⟨wrote, rewrites, settles⟩ := ordinary
  intro row was rcpt has prepared
  have different : row.providerId ≠ wrote.providerId := by
    intro same
    have settled := settles row was same
    rw [AiProvider.handoffPending_iff.mpr ⟨rcpt, has, prepared⟩] at settled
    exact absurd settled.symm Bool.false_ne_true
  apply HandoffKept.untouched
  · rw [rewrites.providers, mem_put]
    exact .inr ⟨was, different⟩
  · intro payload same
    exact rewrites.payloads payload (same ▸ different)

lemma admitSupersede_pending {body} (passed : admitSupersede prov body = .ok ())
    (has : prov.identityHandoff = some rcpt) (prepared : rcpt.state = .prepared) :
    body.supersedesHandoffId = some rcpt.handoffId := by
  have pend : prov.identityHandoff.filter (fun rcpt => rcpt.state = .prepared) =
      some rcpt := by
    rw [filter_eq_some_iff]
    exact ⟨has, by simpa using prepared⟩
  rw [admitSupersede, pend, raiseIf_eq_ok] at passed
  by_contra different
  exact passed (.inl different)

section
variable (agree : Consistent w)
include agree

lemma prepare_handoffsKept {body} (done : prepareIdentityHandoff attestation w body = .ok after) :
    HandoffsKept w (.prepare attestation body) after := by
  obtain ⟨prov, was, replacement, key, isPrepared, supersedes, payloads, rewrites⟩ := prepare_rewrites agree done
  intro row mem rcpt has prepared
  have samePayloads : ∀ payload : AuthPayload, payload.providerId = row.providerId →
      (payload ∈ after.payloads ↔ payload ∈ w.payloads) := by
    intro payload _
    rw [payloads]
  by_cases same : row.providerId = prov.providerId
  · obtain rfl := eq_of_key mem was same
    refine ⟨samePayloads, .inr (.inl ⟨attestation, body, replacement, rfl, key.symm,
      admitSupersede_pending supersedes has prepared, isPrepared, ?_⟩)⟩
    rw [rewrites.providers]
    exact mem_put_self _ _
  · apply HandoffKept.untouched _ samePayloads
    rw [rewrites.providers, mem_put]
    exact .inr ⟨mem, same⟩

lemma complete_handoffsKept {provId body} (done : completeIdentityHandoff attestation w provId body = .ok after) :
    HandoffsKept w (.complete attestation provId body) after := by
  obtain ⟨prov, was, pend, key, had, _, answers, payloads, rewrites⟩ := complete_rewrites agree done
  intro row mem rcpt has prepared
  have samePayloads : ∀ payload : AuthPayload, payload.providerId = row.providerId →
      (payload ∈ after.payloads ↔ payload ∈ w.payloads) := by
    intro payload _
    rw [payloads]
  by_cases same : row.providerId = prov.providerId
  · obtain rfl := eq_of_key mem was same
    obtain rfl : pend = rcpt := Option.some.inj (had.symm.trans has)
    subst key
    refine ⟨samePayloads, .inr (.inr ⟨attestation, body, rfl, answers, ?_⟩)⟩
    rw [rewrites.providers]
    exact mem_put_self _ _
  · apply HandoffKept.untouched _ samePayloads
    rw [rewrites.providers, mem_put]
    exact .inr ⟨mem, same⟩

lemma perform_spec (unclaimed : op.Unclaimed w) (done : perform catalog w op = .ok after) :
    Consistent after ∧ HandoffsKept w op after := by
  have ordinary : Ordinary w after → Consistent after ∧ HandoffsKept w op after := by
    intro plain
    obtain ⟨row, rewrites, _⟩ := id plain
    exact ⟨rewrites.consistent agree, plain.handoffsKept⟩
  cases op with
  | upsert circ body replace => exact ordinary (upsert_ordinary agree done)
  | patch circ provId patch => exact ordinary (patch_ordinary agree done)
  | setApiKey circ provId v name => exact ordinary (setApiKey_ordinary agree done)
  | delete circ provId => exact ordinary (delete_ordinary agree done)
  | accept circ body cred replace => exact ordinary (accept_ordinary agree unclaimed done)
  | prepare attestation body =>
    obtain ⟨_, _, _, _, _, _, _, rewrites⟩ := prepare_rewrites agree done
    exact ⟨rewrites.consistent agree, prepare_handoffsKept agree done⟩
  | complete attestation provId body =>
    obtain ⟨_, _, _, _, _, _, _, _, rewrites⟩ := complete_rewrites agree done
    exact ⟨rewrites.consistent agree, complete_handoffsKept agree done⟩
  | restore attestation body => exact ordinary (restore_ordinary agree done)

lemma step_spec (unclaimed : op.Unclaimed w) :
    Consistent (step catalog w op) ∧ HandoffsKept w op (step catalog w op) := by
  unfold step
  cases done : perform catalog w op with
  | ok after => exact perform_spec agree unclaimed done
  | error refusal =>
    refine ⟨agree, ?_⟩
    intro row was rcpt _ _
    exact HandoffKept.untouched was fun _ _ => Iff.rfl

end

/-- As long as no OAuth accept revives a stored credential under a used name, every name has one owner. -/
theorem environment_names_have_one_owner (catalog : List NativeProvider) (ops : List Op)
    (unclaimed : Always (step catalog) (fun w op => op.Unclaimed w) World.empty ops) :
    (∀ pre, pre <+: ops → OneOwner (run (step catalog) World.empty pre)) ∧
      Always (step catalog) (fun w op => HandoffsKept w op (step catalog w op)) World.empty ops := by
  have keeps : ∀ w op, Consistent w → Op.Unclaimed w op → Consistent (step catalog w op) :=
    fun w op holds met => (step_spec holds met).1
  have handles : ∀ w op, Consistent w → Op.Unclaimed w op →
      HandoffsKept w op (step catalog w op) := fun w op holds met => (step_spec holds met).2
  constructor
  · rintro pre ⟨rest, rfl⟩
    have earlier := (Always.append.mp unclaimed).1
    exact (Always.invariant keeps Consistent.empty earlier).names
  · exact Always.strengthen keeps handles Consistent.empty unclaimed

end

section

def sampleBody (provId : String) (auth : Auth) (name : Option String) : AiProviderBody :=
  ⟨provId, "openai", none, none, none, none, "https://api.openai.com/v1", none, none, none, auth,
    .user, name⟩

def revivedReference : List Op :=
  [.upsert {} (sampleBody "first" (.secretRef (.env "SHARED_KEY")) none) false,
   .delete {} "first",
   .upsert {} (sampleBody "second" (.managedApiKey none) (some "SHARED_KEY")) false,
   .accept {} (sampleBody "first" (.agentProfile "codex" "default") none) (.oauth "codex") false]

def sampleBinding : RepairBinding := ⟨1, "deployment", "instance", 1, 1, "hermes", "clawdi", ["second"], "apply"⟩

def sampleProof (journal : Option ℕ) : NativeIdentityProof :=
  { binding := sampleBinding, incusInstanceUuid := 1, nativeState := .running, appliedPushGeneration := 1
    hostedSpecRevision := "spec", journalSha256 := some "journal", configSha256 := some "config"
    nativeEnvName := some "NATIVE_KEY", nativeBaseUrl := some "https://api.openai.com/v1"
    nativeApiMode := some "openai_responses", nativeEnvSha256 := some "env"
    journalEnvName := journal.map fun _ => "NATIVE_KEY", journalProviderUuid := journal.map fun _ => 3
    journalIncarnationId := journal.map fun _ => 4, handoffId := journal }

def sampleAttestation (rev : String) : Attestation :=
  { now := 0, inventory := .ok ⟨rev, [sampleBinding]⟩, flushed := .ok "prepared"
    boundary := fun _ _ => "boundary", repairBoundary := fun _ _ => "boundary" }

def sampleHandoff : HandoffRequest :=
  { providerId := "second", expectedRevision := "first", expectedBoundary := "boundary"
    expectedEnvName := "SECOND_KEY", nativeEnvName := "NATIVE_KEY", operatorFingerprint := "operator"
    operatorRef := "ref", supersedesHandoffId := none, observedAt := 0, proofs := [sampleProof none]
    expectedProviderUuid := 3, expectedIncarnationId := 4 }

/-- Two names apart, and a handoff that is pending while a deletion and a new key are refused. -/
def apartReference : List Op :=
  [.upsert {} (sampleBody "first" (.secretRef (.env "FIRST_KEY")) none) false,
   .delete {} "first",
   .upsert {} { sampleBody "second" (.managedApiKey none) (some "SECOND_KEY") with
      configurationMode := some .custom, apiMode := some "openai_responses" } false,
   .accept {} (sampleBody "first" (.agentProfile "codex" "default") none) (.oauth "codex") false,
   .prepare (sampleAttestation "first") sampleHandoff,
   .delete {} "second",
   .setApiKey {} "second" "key" none,
   .complete (sampleAttestation "prepared") "second" ⟨6, [sampleProof (some 6)], 0⟩]

theorem environment_names_have_one_owner_apart : OneOwner (run (step []) World.empty apartReference) ∧
    Always (step []) (fun w op => HandoffsKept w op (step [] w op)) World.empty apartReference := by
  obtain ⟨owned, handled⟩ := environment_names_have_one_owner [] apartReference (by decide +kernel)
  exact ⟨owned apartReference (List.prefix_refl _), handled⟩

theorem accept_revives_taken_name : ¬∀ pre, pre <+: revivedReference → OneOwner (run (step []) World.empty pre) := by
  intro owned
  have shared : ∃ a ∈ (run (step []) World.empty revivedReference).providers.rows,
      ∃ b ∈ (run (step []) World.empty revivedReference).providers.rows,
        a.credentialed = true ∧ b.credentialed = true ∧ a.claims "SHARED_KEY" = true ∧
          b.claims "SHARED_KEY" = true ∧ a.providerId ≠ b.providerId := by decide +kernel
  obtain ⟨a, memberA, b, memberB, deliversA, deliversB, claimsA, claimsB, different⟩ := shared
  have same := owned revivedReference (List.prefix_refl _) a memberA b memberB deliversA deliversB
    "SHARED_KEY" claimsA claimsB
  exact different (congrArg AiProvider.providerId same)

end
end Clawdi.Providers
