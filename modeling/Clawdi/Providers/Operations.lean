import Clawdi.Providers.Steps

namespace Clawdi.Providers
variable {catalog : List NativeProvider} {circ : Circumstances} {attestation : Attestation}
  {w after middle : World} {body admitted : AiProviderBody} {prov row old : AiProvider}
  {name exclude : String}

def Settles (w : World) (row : AiProvider) : Prop :=
  ∀ old ∈ w.providers, old.providerId = row.providerId → old.handoffPending = false

lemma Settles.of_stored (was : old ∈ w.providers) (same : row.providerId = old.providerId)
    (settled : old.handoffPending = false) : Settles w row := by
  intro alt mem key
  have equal : alt = old := Table.eq_of_key mem was (key.trans same)
  rw [equal]
  exact settled

lemma unused_of_check (free : runtimeEnvNameUsed w.providers name exclude = false)
    (excluded : ∀ alt ∈ w.providers, alt.providerId = exclude →
      alt.providerId = row.providerId) : Unused w row name := by
  intro alt mem different delivers
  have checked : alt.checked = true := by
    rw [AiProvider.credentialed, Bool.and_eq_true] at delivers
    exact delivers.1
  have apart : alt.providerId ≠ exclude := fun same => different (excluded alt mem same)
  exact (runtimeEnvNameUsed_eq_false w.providers).mp free alt mem apart checked

lemma unused_of_reserved (was : prov ∈ w.providers) (same : row.providerId = prov.providerId) (agree : Consistent w)
    (free : environmentReserved w.providers prov name = false) : Unused w row name := by
  intro alt mem different delivers
  obtain ⟨_, notNative, visible, _⟩ := AiProvider.credentialed_iff.mp delivers
  have apart : alt.id ≠ prov.id := by
    intro equal
    have rows := agree.ids alt mem prov was equal
    exact different (by rw [rows, same])
  exact (environmentReserved_eq_false w.providers).mp free alt mem apart visible notNative

def Inherits (row old : AiProvider) : Prop :=
  ∀ rcpt, row.identityHandoff = some rcpt → old.identityHandoff = some rcpt ∧ old.archived = false

lemma covered_of_names (agree : Consistent w) (was : old ∈ w.providers)
    (same : row.providerId = old.providerId) (inherits : Inherits row old)
    (unused : row.credentialed = true → ∀ name, row.runtimeEnvName = some name ∨
      row.auth.envName = some name → Unused w row name) : row.credentialed = true → ∀ name, row.claims name = true →
      (∃ old ∈ w.providers, old.providerId = row.providerId ∧ old.credentialed = true ∧
        old.claims name = true) ∨ Unused w row name := by
  intro delivers name claimed
  rcases AiProvider.claims_iff.mp claimed with named | named | ⟨rcpt, kept, named⟩
  · exact .inr (unused delivers name (.inl named))
  · exact .inr (unused delivers name (.inr named))
  · left
    obtain ⟨had, visible⟩ := inherits rcpt kept
    have owns := agree.handoff old was rcpt had
    exact ⟨old, was, same.symm, agree.delivers was owns visible,
      AiProvider.claims_iff.mpr (.inr (.inr ⟨rcpt, had, named⟩))⟩

lemma mem_namesToCheck (valid : validateProvider circ body = []) (delivered : body.auth.delivered = true)
    (named : body.runtimeEnvName = some name ∨ body.auth.envName = some name) : name ∈ body.namesToCheck := by
  rw [AiProviderBody.namesToCheck, List.mem_append, if_pos delivered]
  rcases named with named | named
  · left
    have filled := validateProvider_name valid named
    simp [named, filled]
  · right
    simp [named]

structure Carries (row : AiProvider) (body : AiProviderBody) : Prop where
  mode : row.configurationMode = body.configurationMode.getD .catalog
  managedBy : row.managedBy = body.managedBy
  name : row.runtimeEnvName = body.runtimeEnvName

section
variable (carries : Carries row body)
include carries

lemma Carries.connection : row.ownsConnection = connectionMode body.configurationMode := by
  rw [AiProvider.ownsConnection_eq, carries.mode]
  cases body.configurationMode with
  | none | some => rfl

lemma Carries.notNative (delivers : row.credentialed = true) : body.configurationMode ≠ some .native := by
  intro native
  obtain ⟨_, notNative, _⟩ := AiProvider.credentialed_iff.mp delivers
  rw [carries.mode, native] at notNative
  exact notNative rfl

lemma Carries.connected (valid : validateProvider circ body = [])
    (auth : connectionMode body.configurationMode = true → row.auth.delivered = true)
    (owns : row.ownsConnection = true) : row.managedBy = .user ∧ row.auth.delivered = true := by
  rw [carries.connection] at owns
  exact ⟨by rw [carries.managedBy, (validateProvider_connection valid owns).1], auth owns⟩

lemma Carries.unused (valid : validateProvider circ body = []) (auth : row.auth = body.auth)
    (free : body.configurationMode ≠ some .native → ∀ name ∈ body.namesToCheck,
      runtimeEnvNameUsed w.providers name exclude = false)
    (excluded : ∀ alt ∈ w.providers, alt.providerId = exclude → alt.providerId = row.providerId) :
    row.credentialed = true → ∀ name, row.runtimeEnvName = some name ∨
      row.auth.envName = some name → Unused w row name := by
  intro delivers name named
  obtain ⟨_, _, _, delivered⟩ := AiProvider.credentialed_iff.mp delivers
  rw [auth] at delivered named
  rw [carries.name] at named
  exact unused_of_check (free (carries.notNative delivers) name (mem_namesToCheck valid delivered named)) excluded

end

variable {provId : String}

lemma getProviderForUpdate_spec (hit : getProviderForUpdate w.providers provId = .ok prov) :
    prov ∈ w.providers ∧ prov.archived = false := by
  unfold getProviderForUpdate at hit
  split at hit
  · exact absurd hit throw_ne_ok
  · rename_i row isFound
    split at hit
    · exact absurd hit throw_ne_ok
    · cases hit
      obtain ⟨mem, _, visible⟩ := findProvider_mem isFound
      exact ⟨mem, visible rfl⟩

variable {catalog : List NativeProvider} {circ : Circumstances} {attestation : Attestation}
  {w after middle : World} {body admitted : AiProviderBody} {prov row old : AiProvider}

def Ordinary (w after : World) : Prop := ∃ row, Rewrites w row after ∧ Settles w row

lemma Applied.carries {was} (applied : Applied was prov body row) : Carries row body :=
  ⟨applied.mode, applied.managedBy, applied.name⟩

lemma Applied.keeps {was} (applied : Applied (some was) prov body row)
    (owns : connectionMode (some was) = true) : connectionMode body.configurationMode = true := by
  rw [applied.kept owns]
  exact owns

lemma self_alias (provId : String) : provId ∈ providerAliases provId := by
  unfold providerAliases
  split
  · assumption
  · exact List.mem_singleton_self provId

section
variable {incarnation : ℕ}

lemma new_row (taken : Admitted w circ body admitted)
    (missing : findProvider w.providers admitted.providerId true = none)
    (applied : Applied none (AiProvider.blank w.next incarnation admitted) admitted prov)
    (id : row.id = prov.id) (provId : row.providerId = prov.providerId)
    (auth : row.auth = admitted.auth) (handoff : row.identityHandoff = prov.identityHandoff)
    (carries : Carries row admitted) (providers : after.providers = w.providers.put row)
    (later : w.next < after.next) (payloads : ∀ payload : AuthPayload, payload.providerId ≠ row.providerId →
      (payload ∈ after.payloads ↔ payload ∈ w.payloads)) : Ordinary w after := by
  have key : row.providerId = admitted.providerId := provId.trans applied.providerId
  have noHandoff : row.identityHandoff = none := handoff.trans applied.handoff
  have gone : ∀ alt ∈ w.providers, alt.providerId ≠ admitted.providerId := by
    intro alt mem same
    have apart := findProvider_none missing mem
    rw [same] at apart
    exact apart (self_alias _)
  refine ⟨row, ⟨providers, later.le, payloads, .inr ⟨id.trans applied.id, later⟩, ?_, ?_, ?_⟩, ?_⟩
  · refine carries.connected taken.valid ?_
    intro owns
    rw [auth]
    exact (validateProvider_connection taken.valid owns).2
  · intro rcpt kept
    rw [noHandoff] at kept
    cases kept
  · intro delivers name claimed
    right
    have excluded : ∀ alt ∈ w.providers, alt.providerId = admitted.providerId →
        alt.providerId = row.providerId := fun alt mem same => absurd same (gone alt mem)
    rcases AiProvider.claims_iff.mp claimed with named | named | ⟨rcpt, kept, _⟩
    · exact carries.unused taken.valid auth taken.unused excluded delivers name (.inl named)
    · exact carries.unused taken.valid auth taken.unused excluded delivers name (.inr named)
    · rw [noHandoff] at kept
      cases kept
  · intro alt mem same
    exact absurd (same.trans key) (gone alt mem)

end

lemma stored_row (agree : Consistent w) (was : old ∈ w.providers)
    (settled : old.handoffPending = false) (kept : connectionMode (some old.configurationMode) = true →
      connectionMode body.configurationMode = true) (valid : validateProvider circ body = [])
    (id : row.id = old.id) (provId : row.providerId = old.providerId)
    (delivered : connectionMode body.configurationMode = true → row.auth.delivered = true)
    (inherits : Inherits row old) (carries : Carries row body)
    (unused : row.credentialed = true → ∀ name, row.runtimeEnvName = some name ∨
      row.auth.envName = some name → Unused w row name)
    (providers : after.providers = w.providers.put row) (later : w.next ≤ after.next)
    (payloads : ∀ payload : AuthPayload, payload.providerId ≠ row.providerId →
      (payload ∈ after.payloads ↔ payload ∈ w.payloads)) : Ordinary w after := by
  refine ⟨row, ⟨providers, later, payloads, .inl ⟨old, was, provId.symm, id.symm⟩, ?_, ?_, ?_⟩,
    Settles.of_stored was provId settled⟩
  · exact carries.connected valid delivered
  · intro rcpt has
    have owns := agree.handoff old was rcpt (inherits rcpt has).1
    rw [AiProvider.ownsConnection_eq] at owns
    rw [carries.connection]
    exact kept owns
  · exact covered_of_names agree was provId inherits unused

section
variable {replace : Bool}

lemma excluded_of_found (taken : Admitted w circ body admitted)
    (hit : findProvider w.providers admitted.providerId true = some old) (provId : row.providerId = old.providerId) :
    ∀ alt ∈ w.providers, alt.providerId = admitted.providerId → alt.providerId = row.providerId := by
  intro alt mem same
  rw [findProvider_exact hit taken.normal mem same, provId]

lemma upsert_ordinary (agree : Consistent w)
    (done : upsertAiProvider catalog circ w body replace = .ok after) : Ordinary w after := by
  simp only [upsertAiProvider, bind_eq_ok] at done
  obtain ⟨admitted, passed, done⟩ := done
  have taken := admitBody_spec passed
  cases hit : findProvider w.providers admitted.providerId true with
  | none =>
    simp only [hit, bind_eq_ok, pure_eq_ok] at done
    obtain ⟨prov, isApplied, _, _, rfl⟩ := done
    have applied := applyProviderBody_spec isApplied
    refine new_row taken hit applied rfl rfl applied.auth rfl applied.carries rfl ?_ fun _ _ => Iff.rfl
    exact Nat.lt_add_of_pos_right (by decide)
  | some old =>
    simp only [hit, bind_eq_ok, pure_eq_ok] at done
    obtain ⟨_, _, prov, isApplied, ⟨moved, middle⟩, isMoved, rfl⟩ := done
    have applied := applyProviderBody_spec isApplied
    have transitioned := transition_spec isMoved
    obtain ⟨was, _, _⟩ := findProvider_mem hit
    obtain ⟨id, provId, auth, mode, managedBy, name⟩ := moved.activate_same middle.next
    have key : (moved.activate middle.next).providerId = old.providerId := by
      rw [provId, transitioned.providerId, applied.providerId]
    have carries : Carries (moved.activate middle.next) admitted :=
      ⟨by rw [mode, transitioned.mode, applied.mode], by rw [managedBy, transitioned.managedBy,
        applied.managedBy], by rw [name, transitioned.name, applied.name]⟩
    have sameAuth : (moved.activate middle.next).auth = admitted.auth := by rw [auth, transitioned.auth]
    refine stored_row agree was applied.settled applied.keeps taken.valid
      (by rw [id, transitioned.id, applied.id]) key ?_ ?_ carries ?_ ?_ ?_ ?_
    · intro owns
      rw [sameAuth]
      exact (validateProvider_connection taken.valid owns).2
    · intro rcpt has
      obtain ⟨visible, had⟩ := AiProvider.activate_handoff has
      rw [transitioned.archived, applied.archived, Bool.or_false] at visible
      rw [transitioned.handoff, applied.handoff] at had
      exact ⟨had, visible⟩
    · exact carries.unused taken.valid sameAuth taken.unused (excluded_of_found taken hit key)
    · rw [transitioned.providers]
    · have later := transitioned.next
      show w.next ≤ middle.next + 1
      omega
    · intro payload different
      rw [key, ← applied.providerId] at different
      exact transitioned.payloads payload different

end

section
variable {patch : AiProviderPatch} {merged : AiProviderBody}

lemma transferToCustom_spec (transferred : transferToCustom circ old patch = .ok (prov, merged)) :
    prov.id = old.id ∧ prov.providerId = old.providerId ∧ prov.auth = old.auth ∧
      prov.archived = old.archived ∧ prov.identityHandoff = old.identityHandoff ∧
      merged.auth = old.auth ∧ (old.ownsConnection = true → prov.ownsConnection = true) := by
  unfold transferToCustom at transferred
  split at transferred
  · simp only [bind_eq_ok, pure_eq_ok, Prod.mk.injEq] at transferred
    obtain ⟨_, _, _, _, _, _, rfl, rfl⟩ := transferred
    exact ⟨rfl, rfl, rfl, rfl, rfl, rfl, fun _ => rfl⟩
  · obtain ⟨rfl, rfl⟩ := transferred
    exact ⟨rfl, rfl, rfl, rfl, rfl, rfl, id⟩

lemma mergePatch_auth (done : mergePatch catalog prov merged patch = .ok body) :
    body.auth = (patch.auth.bind id).getD merged.auth := by
  simp only [mergePatch, bind_eq_ok] at done
  obtain ⟨_, _, done⟩ := done
  split at done
  · split at done
    · rename_i hydrated
      cases done
      exact (hydrateNativeProvider_auth hydrated).1.trans (by
        split <;> rfl)
    · exact absurd done throw_ne_ok
  · cases done
    rfl

lemma patch_ordinary {provId} (agree : Consistent w)
    (done : patchAiProvider catalog circ w provId patch = .ok after) : Ordinary w after := by
  simp only [patchAiProvider, bind_eq_ok] at done
  obtain ⟨old, isFound, _, _, ⟨prov, merged⟩, isTransferred, _, _, body, isMerged, _, isValid, _, _, _,
    isUnique, applied, isApplied, done⟩ := done
  obtain ⟨was, visible⟩ := getProviderForUpdate_spec isFound
  obtain ⟨id, provId, auth, archived, handoff, mergedAuth, owns⟩ := transferToCustom_spec isTransferred
  have valid : validateProvider circ body = [] := by simpa [raiseIf_eq_ok] using isValid
  have wrote := applyProviderBody_spec isApplied
  have settled : old.handoffPending = false := by
    rw [AiProvider.handoffPending, ← handoff]
    exact wrote.settled
  have kept : connectionMode (some old.configurationMode) = true →
      connectionMode body.configurationMode = true := by
    intro connects
    rw [← AiProvider.ownsConnection_eq] at connects
    have still := owns connects
    rw [AiProvider.ownsConnection_eq] at still
    exact wrote.keeps still
  have free : body.configurationMode ≠ some .native → ∀ name ∈ body.namesToCheck,
      runtimeEnvNameUsed w.providers name prov.providerId = false := by
    intro alt name named
    rw [validateRuntimeEnvUnique, raiseIf_eq_ok] at isUnique
    by_contra used
    exact isUnique ⟨alt, name, named, by simpa using used⟩
  split at done
  · simp only [bind_eq_ok, pure_eq_ok] at done
    obtain ⟨⟨moved, middle⟩, isMoved, rfl⟩ := done
    have transitioned := transition_spec isMoved
    have key : moved.providerId = prov.providerId := by rw [transitioned.providerId, wrote.providerId]
    have carries : Carries moved body :=
      ⟨by rw [transitioned.mode, wrote.mode], by rw [transitioned.managedBy, wrote.managedBy],
        by rw [transitioned.name, wrote.name]⟩
    refine stored_row agree was settled kept valid (by rw [transitioned.id, wrote.id, id])
      (key.trans provId) ?_ ?_ carries ?_ ?_ transitioned.next.le ?_
    · intro connects
      rw [transitioned.auth]
      exact (validateProvider_connection valid connects).2
    · intro rcpt has
      rw [transitioned.handoff, wrote.handoff, handoff] at has
      exact ⟨has, visible⟩
    · refine carries.unused valid transitioned.auth free ?_
      intro alt _ same
      rw [same, key]
    · rw [transitioned.providers]
    · intro payload different
      rw [key, ← wrote.providerId] at different
      exact transitioned.payloads payload different
  · rename_i metadataOnly
    simp only [pure_eq_ok] at done
    subst done
    have unset : patch.auth = none := by
      by_contra isSet
      exact metadataOnly (.inl (Option.isSome_iff_ne_none.mpr isSet))
    have sameAuth : applied.auth = body.auth := by
      rw [wrote.auth, auth, mergePatch_auth isMerged, unset, mergedAuth]
      rfl
    refine stored_row agree was settled kept valid (wrote.id.trans id)
      (wrote.providerId.trans provId) ?_ ?_ wrote.carries ?_ rfl le_rfl fun _ _ => Iff.rfl
    · intro connects
      rw [sameAuth]
      exact (validateProvider_connection valid connects).2
    · intro rcpt has
      rw [wrote.handoff, handoff] at has
      exact ⟨has, visible⟩
    · refine wrote.carries.unused valid sameAuth free ?_
      intro alt _ same
      rw [same, wrote.providerId]

end

lemma delete_ordinary (agree : Consistent w)
    (done : deleteAiProvider circ w provId = .ok after) : Ordinary w after := by
  simp only [deleteAiProvider, bind_eq_ok, pure_eq_ok] at done
  obtain ⟨old, isFound, _, _, ⟨moved, middle⟩, isMoved, rfl⟩ := done
  obtain ⟨was, _⟩ := getProviderForUpdate_spec isFound
  have transitioned := transition_spec isMoved
  have owns : moved.ownsConnection = old.ownsConnection := by
    rw [AiProvider.ownsConnection_eq, transitioned.mode, ← AiProvider.ownsConnection_eq]
  refine ⟨moved, ⟨?_, transitioned.next.le, ?_, .inl ⟨old, was, transitioned.providerId.symm,
    transitioned.id.symm⟩, ?_, ?_, ?_⟩, Settles.of_stored was transitioned.providerId transitioned.settled⟩
  · rw [transitioned.providers]
  · intro payload different
    rw [transitioned.providerId] at different
    exact transitioned.payloads payload different
  · rw [owns, transitioned.managedBy, transitioned.auth]
    exact agree.connected old was
  · intro rcpt has
    rw [transitioned.handoff] at has
    rw [owns]
    exact agree.handoff old was rcpt has
  · intro delivers
    obtain ⟨_, _, visible, _⟩ := AiProvider.credentialed_iff.mp delivers
    rw [transitioned.archived, Bool.or_true] at visible
    exact absurd visible.symm Bool.false_ne_true

lemma admitKeyEnvName_free {name} (passed : admitKeyEnvName catalog w.providers old name = .ok ())
    (notNative : old.configurationMode ≠ .native) {proposed}
    (isProposed : name.or old.runtimeEnvName = some proposed) :
    runtimeEnvNameUsed w.providers proposed old.providerId = false := by
  simp only [admitKeyEnvName, bind_eq_ok] at passed
  obtain ⟨_, _, _, _, passed⟩ := passed
  rw [if_neg notNative, raiseIf_eq_ok] at passed
  by_contra used
  exact passed ⟨proposed, isProposed, by simpa using used⟩

lemma setApiKey_ordinary {v name} (agree : Consistent w)
    (done : setAiProviderApiKey catalog circ w provId v name = .ok after) : Ordinary w after := by
  simp only [setAiProviderApiKey, bind_eq_ok, pure_eq_ok] at done
  obtain ⟨old, isFound, _, passed, ⟨moved, middle⟩, isMoved, rfl⟩ := done
  obtain ⟨was, visible⟩ := getProviderForUpdate_spec isFound
  have transitioned := transition_spec isMoved
  have owns : moved.ownsConnection = old.ownsConnection := by
    rw [AiProvider.ownsConnection_eq, transitioned.mode, ← AiProvider.ownsConnection_eq]
  have named : name.or moved.runtimeEnvName = name.or old.runtimeEnvName := by rw [transitioned.name]
  refine ⟨{ moved with runtimeEnvName := name.or moved.runtimeEnvName },
    ⟨?_, transitioned.next.le, ?_, .inl ⟨old, was, transitioned.providerId.symm, transitioned.id.symm⟩, ?_, ?_, ?_⟩,
    Settles.of_stored was transitioned.providerId transitioned.settled⟩
  · rw [transitioned.providers]
  · intro payload different
    have apart : payload.providerId ≠ old.providerId := fun same =>
      different (same.trans transitioned.providerId.symm)
    exact transitioned.payloads payload apart
  · intro connects
    have pre := agree.connected old was (owns.symm.trans connects)
    refine ⟨transitioned.managedBy.trans pre.1, ?_⟩
    show moved.auth.delivered = true
    rw [transitioned.auth]
    rfl
  · intro rcpt has
    have had : old.identityHandoff = some rcpt := transitioned.handoff.symm.trans has
    exact owns.trans (agree.handoff old was rcpt had)
  · refine covered_of_names agree was transitioned.providerId ?_ ?_
    · intro rcpt has
      exact ⟨transitioned.handoff.symm.trans has, visible⟩
    · intro delivers proposed claimed
      obtain ⟨_, notNative, _, _⟩ := AiProvider.credentialed_iff.mp delivers
      have pre : old.configurationMode ≠ .native := by
        rw [← transitioned.mode]
        exact notNative
      rcases claimed with proposal | ref
      · refine unused_of_check (admitKeyEnvName_free passed pre (named.symm.trans proposal)) ?_
        intro alt _ same
        exact same.trans transitioned.providerId.symm
      · have none : moved.auth.envName = some proposed := ref
        rw [transitioned.auth] at none
        cases none

section
variable {cred : AcceptCredential} {replace : Bool}

/-- An OAuth accept leaves the stored auth columns of a provider it finds; the names that the row
then claims have to be free. -/
def AcceptUnclaimed (w : World) (body : AiProviderBody) : AcceptCredential → Prop
  | .apiKey _ => True
  | .oauth _ =>
    match findProvider w.providers (canonicalBody body).providerId true with
    | none => True
    | some existing =>
      body.managedBy = .user → body.configurationMode ≠ some .native → existing.auth.delivered = true →
          ∀ alt ∈ w.providers.rows, alt.providerId ≠ existing.providerId → alt.credentialed = true →
              ∀ name ∈ body.runtimeEnvName.toList ++ existing.auth.envName.toList, alt.claims name = false

instance : Decidable (AcceptUnclaimed w body cred) := by
  cases cred with
  | apiKey v => exact inferInstanceAs (Decidable True)
  | oauth tool =>
    unfold AcceptUnclaimed
    cases findProvider w.providers (canonicalBody body).providerId true with
    | none => exact inferInstanceAs (Decidable True)
    | some existing => infer_instance

lemma acceptContract_oauth {tool} (met : validateAcceptContract body (.oauth tool) = .ok ()) :
    body.auth = .agentProfile tool "default" := by
  simp only [validateAcceptContract, bind_eq_ok, raiseIf_eq_ok, not_not] at met
  obtain ⟨_, _, exact_auth⟩ := met
  exact exact_auth

lemma canonicalBody_managed (body : AiProviderBody) : (canonicalBody body).managedBy = body.managedBy ∧
      (canonicalBody body).runtimeEnvName = body.runtimeEnvName := by
  unfold canonicalBody
  split <;> exact ⟨rfl, rfl⟩

lemma accept_ordinary (agree : Consistent w) (unclaimed : AcceptUnclaimed w body cred)
    (done : acceptAiProvider catalog circ w body cred replace = .ok after) : Ordinary w after := by
  simp only [acceptAiProvider, bind_eq_ok] at done
  obtain ⟨_, contract, admitted, passed, done⟩ := done
  have taken := admitBody_spec passed
  cases hit : findProvider w.providers admitted.providerId true with
  | none =>
    simp only [hit, bind_eq_ok] at done
    obtain ⟨prov, isApplied, _, _, done⟩ := done
    have applied := applyProviderBody_spec isApplied
    cases cred with
    | apiKey v =>
      simp only [acceptCredential, bind_eq_ok, pure_eq_ok] at done
      obtain ⟨⟨moved, middle⟩, isMoved, rfl⟩ := done
      have transitioned := transition_spec isMoved
      have carries : Carries moved admitted :=
        ⟨by rw [transitioned.mode, applied.mode], by rw [transitioned.managedBy, applied.managedBy],
          by rw [transitioned.name, applied.name]⟩
      refine new_row taken hit applied transitioned.id transitioned.providerId transitioned.auth
        transitioned.handoff carries ?_ ?_ ?_
      · rw [transitioned.providers]
      · have later := transitioned.next
        show w.next < middle.next
        simp only at later
        omega
      · intro payload different
        rw [transitioned.providerId] at different
        exact transitioned.payloads payload different
    | oauth tool =>
      simp only [acceptCredential, bind_eq_ok, pure_eq_ok] at done
      obtain ⟨_, _, _, _, rfl⟩ := done
      refine new_row taken hit applied rfl rfl applied.auth rfl applied.carries rfl ?_ fun _ _ => Iff.rfl
      exact Nat.lt_add_of_pos_right (by decide)
  | some old =>
    simp only [hit, bind_eq_ok] at done
    obtain ⟨_, _, _, _, prov, isApplied, _, _, done⟩ := done
    have applied := applyProviderBody_spec isApplied
    obtain ⟨was, _, _⟩ := findProvider_mem hit
    obtain ⟨id, provId, auth, mode, managedBy, name⟩ := prov.activate_same w.next
    have inherits : Inherits (prov.activate w.next) old := by
      intro rcpt has
      obtain ⟨visible, had⟩ := AiProvider.activate_handoff has
      exact ⟨applied.handoff.symm.trans had, applied.archived.symm.trans visible⟩
    have key : (prov.activate w.next).providerId = old.providerId := by rw [provId, applied.providerId]
    cases cred with
    | apiKey v =>
      simp only [acceptCredential, bind_eq_ok, pure_eq_ok] at done
      obtain ⟨⟨moved, middle⟩, isMoved, rfl⟩ := done
      have transitioned := transition_spec isMoved
      have carries : Carries moved admitted :=
        ⟨by rw [transitioned.mode, mode, applied.mode],
          by rw [transitioned.managedBy, managedBy, applied.managedBy],
          by rw [transitioned.name, name, applied.name]⟩
      refine stored_row agree was applied.settled applied.keeps taken.valid
        (by rw [transitioned.id, id, applied.id]) (transitioned.providerId.trans key) ?_ ?_ carries ?_ ?_ ?_ ?_
      · intro owns
        rw [transitioned.auth]
        exact (validateProvider_connection taken.valid owns).2
      · intro rcpt has
        rw [transitioned.handoff] at has
        exact inherits rcpt has
      · exact carries.unused taken.valid transitioned.auth taken.unused
          (excluded_of_found taken hit (transitioned.providerId.trans key))
      · rw [transitioned.providers]
      · have later := transitioned.next
        show w.next ≤ middle.next
        simp only at later
        omega
      · intro payload different
        rw [transitioned.providerId] at different
        exact transitioned.payloads payload different
    | oauth tool =>
      simp only [acceptCredential, bind_eq_ok, pure_eq_ok] at done
      obtain ⟨_, _, _, _, rfl⟩ := done
      have carries : Carries (prov.activate w.next) admitted :=
        ⟨by rw [mode, applied.mode], by rw [managedBy, applied.managedBy], by rw [name, applied.name]⟩
      have sameAuth : (prov.activate w.next).auth = old.auth := by rw [auth, applied.auth]
      refine stored_row agree was applied.settled applied.keeps taken.valid
        (by rw [id, applied.id]) key ?_ inherits carries ?_ rfl (Nat.le_succ _) fun _ _ => Iff.rfl
      · intro owns
        have delivered := (validateProvider_connection taken.valid owns).2
        rw [taken.auth, acceptContract_oauth contract] at delivered
        exact absurd delivered Bool.false_ne_true
      · intro delivers proposed claimed alt mem different also
        obtain ⟨managed, _, _, delivered⟩ := AiProvider.credentialed_iff.mp delivers
        have notNative : body.configurationMode ≠ some .native := by
          rw [← taken.mode]
          exact carries.notNative delivers
        have parsed := taken.parsed notNative
        have names := canonicalBody_managed body
        rw [AcceptUnclaimed, ← parsed, hit] at unclaimed
        have free := unclaimed (by rw [← names.1, ← parsed, ← carries.managedBy, managed]) notNative
          (by rw [← sameAuth]; exact delivered) alt mem (by rw [← key]; exact different) also proposed
        apply free
        rw [carries.name, parsed, names.2, sameAuth] at claimed
        simpa using claimed

end
end Clawdi.Providers
