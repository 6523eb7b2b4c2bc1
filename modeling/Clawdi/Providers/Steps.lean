import Clawdi.Providers.Handoff

namespace Clawdi.Providers
variable {catalog : List NativeProvider} {circ : Circumstances} {attestation : Attestation}
  {w after : World} {body admitted : AiProviderBody} {prov row : AiProvider}

section

lemma isRuntimeEnvName_ne_empty {name} (valid : isRuntimeEnvName name = true) : name ≠ "" := by
  rintro rfl
  exact absurd valid (by decide)

lemma validateProvider_name (valid : validateProvider circ body = []) {name}
    (named : body.runtimeEnvName = some name) : name ≠ "" := by
  simp only [validateProvider, List.append_eq_nil_iff] at valid
  have checked := valid.1.1.1.2
  rw [named] at checked
  apply isRuntimeEnvName_ne_empty
  by_contra invalid
  simp [invalid] at checked

lemma validateProvider_connection (valid : validateProvider circ body = [])
    (owns : connectionMode body.configurationMode = true) : body.managedBy = .user ∧ body.auth.delivered = true := by
  simp only [validateProvider, List.append_eq_nil_iff] at valid
  have checked := valid.1.1.1.1.1.1.1
  simp only [owns, Bool.true_and, ite_eq_right_iff, reduceCtorEq, imp_false, Bool.not_eq_true,
    Bool.or_eq_false_iff, decide_eq_false_iff_not, Bool.not_eq_false', not_not] at checked
  exact checked.1

structure Admitted (w : World) (circ : Circumstances) (body admitted : AiProviderBody) :
    Prop where
  auth : admitted.auth = body.auth
  mode : admitted.configurationMode = body.configurationMode
  parsed : body.configurationMode ≠ some .native → admitted = canonicalBody body
  normal : admitted.providerId ∉ v2ManagedProviderIds ∨ admitted.providerId = v2ManagedProviderId
  valid : validateProvider circ admitted = []
  unused : admitted.configurationMode ≠ some .native → ∀ name ∈ admitted.namesToCheck,
    runtimeEnvNameUsed w.providers name admitted.providerId = false

lemma hydrateNativeProvider_auth {type baseUrl apiMode name}
    (hydrated : hydrateNativeProvider catalog body type baseUrl apiMode name = some admitted) :
    admitted.auth = body.auth ∧ admitted.configurationMode = body.configurationMode := by
  unfold hydrateNativeProvider at hydrated
  cases hit : nativeProvider catalog body.nativeProvider body.nativeVariant with
  | none => simp [hit] at hydrated
  | some routing =>
    simp only [hit, Option.bind_eq_bind, Option.bind_some] at hydrated
    split at hydrated
    · simp at hydrated
    · split at hydrated
      · simp at hydrated
      · simp only [Option.pure_def, Option.some.injEq] at hydrated
        subst hydrated
        exact ⟨rfl, rfl⟩

lemma parseUpsert_spec (parsed : parseUpsert catalog body = .ok admitted) :
    admitted.auth = body.auth ∧ admitted.configurationMode = body.configurationMode ∧
      (body.configurationMode ≠ some .native → admitted = body) := by
  simp only [parseUpsert, bind_eq_ok] at parsed
  obtain ⟨_, _, _, _, parsed⟩ := parsed
  split at parsed
  · rename_i native
    split at parsed
    · rename_i hydrated
      cases parsed
      have same := hydrateNativeProvider_auth hydrated
      exact ⟨same.1, same.2, fun alt => absurd native alt⟩
    · exact absurd parsed throw_ne_ok
  · cases parsed
    exact ⟨rfl, rfl, fun _ => rfl⟩

lemma canonicalBody_same (body : AiProviderBody) : (canonicalBody body).auth = body.auth ∧
      (canonicalBody body).configurationMode = body.configurationMode := by
  unfold canonicalBody
  split <;> exact ⟨rfl, rfl⟩

lemma admitBody_spec (passed : admitBody catalog circ w body = .ok admitted) : Admitted w circ body admitted := by
  simp only [admitBody, bind_eq_ok, raiseIf_eq_ok, pure_eq_ok] at passed
  obtain ⟨parsed, isParsed, _, _, _, valid, _, _, _, unique, rfl⟩ := passed
  have same := parseUpsert_spec isParsed
  have canonical := canonicalBody_same parsed
  constructor
  · rw [canonical.1, same.1]
  · rw [canonical.2, same.2.1]
  · intro alt
    rw [same.2.2 alt]
  · unfold canonicalBody
    split
    · exact .inr rfl
    · rename_i unmanaged
      exact .inl unmanaged
  · simpa using valid
  · intro alt name named
    rw [validateRuntimeEnvUnique, raiseIf_eq_ok] at unique
    by_contra used
    exact unique ⟨alt, name, named, by simpa using used⟩

end

section

structure Applied (was : Option ConfigurationMode) (prov : AiProvider) (body : AiProviderBody)
    (row : AiProvider) : Prop where
  settled : prov.handoffPending = false
  kept : connectionMode was = true → body.configurationMode = was
  id : row.id = prov.id
  providerId : row.providerId = prov.providerId
  auth : row.auth = prov.auth
  archived : row.archived = prov.archived
  handoff : row.identityHandoff = prov.identityHandoff
  mode : row.configurationMode = body.configurationMode.getD .catalog
  managedBy : row.managedBy = body.managedBy
  name : row.runtimeEnvName = body.runtimeEnvName

lemma applyProviderBody_spec {was}
    (applied : applyProviderBody was prov body = .ok row) : Applied was prov body row := by
  simp only [applyProviderBody, bind_eq_ok, raiseIf_eq_ok, pure_eq_ok] at applied
  obtain ⟨_, settled, _, kept, _, _, _, _, _, _, rfl⟩ := applied
  refine ⟨by simpa using settled, ?_, rfl, rfl, rfl, rfl, rfl, rfl, rfl, rfl⟩
  intro owns
  by_contra alt
  exact kept ⟨owns, alt⟩

structure Transitioned (w : World) (prov : AiProvider) (auth : Auth) (arc : Bool)
    (row : AiProvider) (after : World) : Prop where
  settled : prov.handoffPending = false
  managed : prov.ownsConnection = true → arc = false → auth.isManagedApiKey = true
  id : row.id = prov.id
  providerId : row.providerId = prov.providerId
  auth : row.auth = auth
  archived : row.archived = (prov.archived || arc)
  handoff : row.identityHandoff = prov.identityHandoff
  mode : row.configurationMode = prov.configurationMode
  managedBy : row.managedBy = prov.managedBy
  name : row.runtimeEnvName = prov.runtimeEnvName
  providers : after.providers = w.providers
  next : w.next < after.next
  payloads : ∀ payload : AuthPayload, payload.providerId ≠ prov.providerId →
    (payload ∈ after.payloads ↔ payload ∈ w.payloads)

variable {payloads : PayloadTable} {provId : String}

lemma mem_archivePayloads {payload : AuthPayload} (alt : payload.providerId ≠ provId) :
    payload ∈ archivePayloads payloads provId ↔ payload ∈ payloads := by
  rw [archivePayloads, Table.mem_update]
  constructor
  · rintro ⟨pre, mem, rfl⟩
    have different : pre.providerId ≠ provId := by
      intro same
      rw [archivePayload, if_pos same] at alt
      exact alt same
    rw [archivePayload, if_neg different]
    exact mem
  · intro mem
    exact ⟨payload, mem, by rw [archivePayload, if_neg alt]⟩

lemma mem_writeCredential {rev : ℕ} {cred} {payload : AuthPayload} (alt : payload.providerId ≠ provId) :
    payload ∈ writeCredential payloads provId rev cred ↔ payload ∈ payloads := by
  rw [writeCredential, Table.mem_put]
  constructor
  · rintro (rfl | ⟨mem, _⟩)
    · exact absurd rfl alt
    · exact mem
  · intro mem
    right
    refine ⟨mem, ?_⟩
    intro same
    exact alt (congrArg Prod.fst same)

lemma transition_spec {auth cred arc} (done : transitionAiProviderAuth circ w prov auth cred arc =
      .ok (row, after)) : Transitioned w prov auth arc row after := by
  simp only [transitionAiProviderAuth, bind_eq_ok, raiseIf_eq_ok, pure_eq_ok, Prod.mk.injEq] at done
  obtain ⟨_, _, _, settled, _, managed, _, _, _, _, rfl, rfl⟩ := done
  refine ⟨by simpa using settled, ?_, rfl, rfl, rfl, rfl, rfl, rfl, rfl, rfl, rfl, Nat.lt_succ_self _, ?_⟩
  · intro owns kept
    by_contra unmanaged
    exact managed ⟨owns, kept, unmanaged⟩
  · intro payload alt
    have archives : ∀ active : Bool, payload ∈ (if active = true then
        archivePayloads w.payloads prov.providerId else w.payloads) ↔
          payload ∈ w.payloads := by
      intro active
      cases active with
      | false => exact Iff.rfl
      | true => exact mem_archivePayloads alt
    cases cred with
    | none => exact archives _
    | some cred => exact (mem_writeCredential alt).trans (archives _)

end

open Table
variable {catalog : List NativeProvider} {circ : Circumstances} {attestation : Attestation}
  {w after : World} {body admitted : AiProviderBody} {prov row old alt : AiProvider}

namespace AiProvider

/-- Unarchived, managed by the user, not native, and authenticated by `api_key` or `secret_ref`. -/
def credentialed (row : AiProvider) : Bool := row.checked && row.auth.delivered

lemma claims_iff {name} : row.claims name = true ↔ row.runtimeEnvName = some name ∨ row.auth.envName = some name ∨
      ∃ rcpt, row.identityHandoff = some rcpt ∧ rcpt.nativeEnvName = name := by
  unfold claims
  rw [Bool.or_eq_true, Bool.or_eq_true, decide_eq_true_eq, decide_eq_true_eq, Auth.ref_eq_env, or_assoc,
    Option.any_eq_true]
  simp

lemma credentialed_iff : row.credentialed = true ↔ row.managedBy = .user ∧ row.configurationMode ≠ .native ∧
      row.archived = false ∧ row.auth.delivered = true := by
  simp [credentialed, checked, and_assoc]

lemma ownsConnection_not_native (owns : row.ownsConnection = true) : row.configurationMode ≠ .native := by
  intro native
  simp [ownsConnection, native] at owns

lemma ownsConnection_eq : row.ownsConnection = connectionMode (some row.configurationMode) := by
  simp [ownsConnection, connectionMode]

lemma activate_handoff {incarnation : ℕ} {rcpt} (kept : (row.activate incarnation).identityHandoff = some rcpt) :
    row.archived = false ∧ row.identityHandoff = some rcpt := by
  unfold activate at kept
  split at kept
  · simp at kept
  · rename_i visible
    exact ⟨by simpa using visible, kept⟩

lemma activate_same (row : AiProvider) (incarnation : ℕ) :
    (row.activate incarnation).id = row.id ∧ (row.activate incarnation).providerId = row.providerId ∧
      (row.activate incarnation).auth = row.auth ∧
      (row.activate incarnation).configurationMode = row.configurationMode ∧
      (row.activate incarnation).managedBy = row.managedBy ∧
      (row.activate incarnation).runtimeEnvName = row.runtimeEnvName := by
  unfold activate
  split <;> exact ⟨rfl, rfl, rfl, rfl, rfl, rfl⟩

lemma handoffPending_iff :
    row.handoffPending = true ↔ ∃ rcpt, row.identityHandoff = some rcpt ∧ rcpt.state = .prepared := by
  simp [handoffPending, Option.any_eq_true]

end AiProvider

def OneOwner (w : World) : Prop :=
  ∀ a ∈ w.providers, ∀ b ∈ w.providers, a.credentialed = true → b.credentialed = true →
    ∀ name, a.claims name = true → b.claims name = true → a = b

def Unused (w : World) (row : AiProvider) (name : String) : Prop :=
  ∀ alt ∈ w.providers, alt.providerId ≠ row.providerId → alt.credentialed = true → alt.claims name = false

structure Consistent (w : World) : Prop where
  ids : ∀ a ∈ w.providers, ∀ b ∈ w.providers, a.id = b.id → a = b
  fresh : ∀ a ∈ w.providers, a.id < w.next
  connected : ∀ a ∈ w.providers, a.ownsConnection = true → a.managedBy = .user ∧ a.auth.delivered = true
  handoff : ∀ a ∈ w.providers, ∀ rcpt, a.identityHandoff = some rcpt → a.ownsConnection = true
  names : OneOwner w

lemma Consistent.empty : Consistent World.empty := by
  constructor
  all_goals
    intro a mem
    exact absurd mem (not_mem_empty a)

lemma Consistent.delivers (agree : Consistent w) (mem : row ∈ w.providers)
    (owns : row.ownsConnection = true) (visible : row.archived = false) : row.credentialed = true := by
  obtain ⟨managed, delivered⟩ := agree.connected row mem owns
  exact AiProvider.credentialed_iff.mpr ⟨managed, AiProvider.ownsConnection_not_native owns, visible, delivered⟩

structure Rewrites (w : World) (row : AiProvider) (after : World) : Prop where
  providers : after.providers = w.providers.put row
  later : w.next ≤ after.next
  payloads : ∀ payload : AuthPayload, payload.providerId ≠ row.providerId →
    (payload ∈ after.payloads ↔ payload ∈ w.payloads)
  origin : (∃ old ∈ w.providers, old.providerId = row.providerId ∧ old.id = row.id) ∨
    row.id = w.next ∧ w.next < after.next
  connected : row.ownsConnection = true → row.managedBy = .user ∧ row.auth.delivered = true
  handoff : ∀ rcpt, row.identityHandoff = some rcpt → row.ownsConnection = true
  covered : row.credentialed = true → ∀ name, row.claims name = true →
    (∃ old ∈ w.providers, old.providerId = row.providerId ∧ old.credentialed = true ∧
      old.claims name = true) ∨ Unused w row name

lemma Rewrites.oneOwner (rewrites : Rewrites w row after) (owned : OneOwner w) : OneOwner after := by
  have apart : ∀ b ∈ w.providers, b.providerId ≠ row.providerId → row.credentialed = true →
      b.credentialed = true → ∀ name, row.claims name = true → b.claims name = false := by
    intro b mem different delivers also name claimed
    rcases rewrites.covered delivers name claimed with ⟨old, was, same, pre, had⟩ | unused
    · by_contra clash
      have equal := owned b mem old was also pre name (by simpa using clash) had
      exact different (equal ▸ same)
    · exact unused b mem different also
  intro a memberA b memberB deliversA deliversB name claimsA claimsB
  rw [rewrites.providers, mem_put] at memberA memberB
  rcases memberA with rfl | ⟨memberA, differA⟩
  · rcases memberB with rfl | ⟨memberB, differB⟩
    · rfl
    · rw [apart b memberB differB deliversA deliversB name claimsA] at claimsB
      exact absurd claimsB Bool.false_ne_true
  · rcases memberB with rfl | ⟨memberB, differB⟩
    · rw [apart a memberA differA deliversB deliversA name claimsB] at claimsA
      exact absurd claimsA Bool.false_ne_true
    · exact owned a memberA b memberB deliversA deliversB name claimsA claimsB

lemma Rewrites.consistent (rewrites : Rewrites w row after) (agree : Consistent w) : Consistent after := by
  have apart : ∀ b ∈ w.providers, b.providerId ≠ row.providerId → b.id ≠ row.id := by
    intro b mem different same
    rcases rewrites.origin with ⟨old, was, key, id⟩ | ⟨new, _⟩
    · have equal := agree.ids b mem old was (same.trans id.symm)
      exact different (equal ▸ key)
    · have bound := agree.fresh b mem
      omega
  refine ⟨?_, ?_, ?_, ?_, rewrites.oneOwner agree.names⟩
  · intro a memberA b memberB same
    rw [rewrites.providers, mem_put] at memberA memberB
    rcases memberA with rfl | ⟨memberA, differA⟩
    · rcases memberB with rfl | ⟨memberB, differB⟩
      · rfl
      · exact absurd same.symm (apart b memberB differB)
    · rcases memberB with rfl | ⟨memberB, differB⟩
      · exact absurd same (apart a memberA differA)
      · exact agree.ids a memberA b memberB same
  · intro a mem
    have later := rewrites.later
    rw [rewrites.providers, mem_put] at mem
    rcases mem with rfl | ⟨mem, _⟩
    · rcases rewrites.origin with ⟨old, was, _, id⟩ | ⟨new, grown⟩
      · have bound := agree.fresh old was
        omega
      · omega
    · have bound := agree.fresh a mem
      omega
  · intro a mem
    rw [rewrites.providers, mem_put] at mem
    rcases mem with rfl | ⟨mem, _⟩
    · exact rewrites.connected
    · exact agree.connected a mem
  · intro a mem
    rw [rewrites.providers, mem_put] at mem
    rcases mem with rfl | ⟨mem, _⟩
    · exact rewrites.handoff
    · exact agree.handoff a mem

end Clawdi.Providers
