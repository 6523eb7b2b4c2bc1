import Clawdi.PlatformMutations.Discipline

namespace Clawdi.PlatformMutations
open Program
variable {reqHash : PlatformOwner × Payload → ℕ} {req : MutationRequest} {view : View}
  {user : ℕ}

def Finishes (reqHash : PlatformOwner × Payload → ℕ) (req : MutationRequest)
    (handler : Handler Response) (view : View) : Prop :=
  Safe reqHash req handler (fun _ view => view.found = some none) view

lemma finishes_completeMutation (busy : Working user view) (resourceId : Option ℕ)
    (replay : PlatformReplay) (resp : Response) : Finishes reqHash req (do
      completeMutation reqHash req user resourceId replay return resp) view := by
  have fails : ∀ later : View, later.found = view.found →
      Final reqHash req (.error .internal) later := by
    intro later same
    rw [Final, same, busy.found]
    trivial
  rw [Finishes, safe_bind, completeMutation, recordPlatformAudit, commitSession, safe_bind]
  apply safe_perform
  · exact trivial
  intro _ _
  refine safe_ask trivial fun now => ?_
  rw [safe_bind]
  apply safe_perform
  · exact ⟨busy.found, rfl, rfl, busy.owner.symm⟩
  intro _ _
  rw [safe_bind]
  apply safe_flush
  · exact fails _ rfl
  apply safe_perform
  · exact .inr ⟨by simp [View.after], rfl⟩
  · intro _ _
    exact busy.found

lemma finishes_createAgent_refused (unwritten : Unwritten user view) (aid : ℕ) :
    Finishes reqHash req (do
      let exists_ : Bool ← ask (.agentExists aid)
      if exists_ then
        reject req (some user) (.http 403 (.text "Agent is not owned by requested owner"))
          "owner_mismatch"
      else
        reject req (some user) (.http 409 (.text "Agent could not be registered"))
          "resource_conflict") view := by
  refine safe_ask trivial fun known => ?_
  split <;> exact unwritten.reject

def Registered (user : ℕ) (registration : Registration) (view : View) : Prop :=
  Working user view ∧ (registration = none → Unwritten user view)

lemma registered_some {id : ℕ} {created} (busy : Working user view) :
    Registered user (some (id, created)) view := ⟨busy, fun same => by cases same⟩

section
variable (unwritten : Unwritten user view)
include unwritten

lemma registered_none : Registered user none view := ⟨unwritten.toWorking, fun _ => unwritten⟩

lemma safe_registerAgentEnvironment (sortOrder : ℕ) (body : PlatformAgentCreate) :
    Safe reqHash req (registerAgentEnvironment user sortOrder body) (Registered user) view := by
  have refreshes : ∀ (agent : AgentEnvironment) (view : View), Working user view →
      Safe reqHash req (do
        refreshAgentEnvironment user agent body
        flush
        return some (agent.id, false)) (Registered user) view := by
    intro agent view busy
    apply (works_refreshAgentEnvironment user agent body view busy).then
    intro _ view busy
    apply (works_flush view busy).then
    intro _ view busy
    exact registered_some busy
  have busy := unwritten.toWorking
  apply (safe_assertUserAuthorityActive busy user).then
  intro _ later same
  rw [same]
  refine safe_ask trivial fun old => ?_
  split
  · rename_i agent
    split
    · apply (works_reactivateAgentAndProject user agent.id _ busy).then
      intro _ view busy
      exact refreshes agent view busy
    · exact refreshes agent _ busy
  · refine safe_ask trivial fun owned => ?_
    split
    · exact registered_none unwritten
    split
    -- A name given and one that is asked for: the rows are created alike.
    on_goal 2 => refine safe_ask trivial fun name => ?_
    all_goals
      apply (works_createAgentRows user sortOrder body _ _ busy).then
      intro created view busy
      split
      · exact registered_some busy
      apply safe_perform
      · exact trivial
      intro _ _
      have cleared : Unwritten user { view with txn := {} } := ⟨⟨busy.found, busy.owner, rfl⟩, rfl⟩
      apply (safe_assertUserAuthorityActive cleared.toWorking user).then
      intro _ later same
      rw [same]
      refine safe_ask trivial fun winner => ?_
      split
      · refine safe_ask trivial fun known => ?_
        exact registered_none cleared
      · rename_i winner
        have ends : ∀ view, Working user view → Safe reqHash req (do
            flush
            return some (winner.id, false)) (Registered user) view := by
          intro view busy
          apply (works_flush view busy).then
          intro _ view busy
          exact registered_some busy
        apply (works_refreshAgentEnvironment user winner body _ cleared.toWorking).then
        intro _ view busy
        split
        · apply (works_reactivateAgentAndProject user winner.id view busy).then
          intro _ view busy
          exact ends view busy
        · exact ends view busy

lemma finishes_platformCreateAgent (body : PlatformAgentCreate) :
    Finishes reqHash req (platformCreateAgent reqHash req user body) view := by
  refine safe_ask trivial fun sortOrder => ?_
  apply (safe_registerAgentEnvironment unwritten sortOrder body).then
  rintro (_ | ⟨id, created⟩) view ⟨busy, refused⟩
  · exact finishes_createAgent_refused (refused rfl) body.agentId
  · exact finishes_completeMutation busy _ _ _

lemma safe_loadOwnedAgent (aid : ℕ) :
    Safe reqHash req (loadOwnedAgent req user aid) (fun _ later => later = view) view := by
  refine safe_ask trivial fun agent => ?_
  split
  · rfl
  · refine safe_ask trivial fun known => ?_
    split <;> exact unwritten.reject

lemma safe_loadOwnedKey (keyId : ℕ) :
    Safe reqHash req (loadOwnedKey req user keyId) (fun _ later => later = view) view := by
  refine safe_ask trivial fun key => ?_
  split
  · rfl
  · refine safe_ask trivial fun known => ?_
    split <;> exact unwritten.reject

end

lemma Works.finishes {α : Type} {handler} {rest : α → Handler Response}
    (works : Works reqHash req user handler) (busy : Working user view)
    (ends : ∀ a view, Working user view → Finishes reqHash req (rest a) view) :
    Finishes reqHash req (handler >>= rest) view :=
  (works view busy).then ends

lemma finishes_platformDeleteAgent (unwritten : Unwritten user view) (aid : ℕ) :
    Finishes reqHash req (platformDeleteAgent reqHash req user aid) view := by
  have busy := unwritten.toWorking
  have proves : Works reqHash req user (proveProject aid) := by
    refine works_ask trivial fun provable => ?_
    split
    · exact works_throw _
    · exact works_pure _
  apply (safe_loadOwnedAgent unwritten aid).then
  intro agent later same
  rw [same]
  apply (works_write (.manifestChanged agent.id)).finishes busy
  intro _ view busy
  apply proves.finishes busy
  intro _ view busy
  refine safe_ask trivial fun now => ?_
  apply (works_write (.archiveAgent aid now)).finishes busy
  intro _ view busy
  apply (works_write (.notifySubscriptions user)).finishes busy
  intro _ view busy
  exact finishes_completeMutation busy _ _ _

lemma safe_checkRuntimeState (unwritten : Unwritten user view) (aid : ℕ) (body : PlatformRuntimeStateUpsert) :
    Safe reqHash req (checkRuntimeState req user aid body) (fun _ later => later = view) view := by
  have busy := unwritten.toWorking
  refine safe_ask trivial fun fence => ?_
  split
  · exact unwritten.reject
  apply (safe_loadOwnedAgent unwritten aid).then
  intro agent later same
  rw [same]
  refine safe_ask trivial fun conflict => ?_
  split
  · exact safe_throw (busy.final _)
  refine safe_ask trivial fun st => ?_
  refine safe_ask trivial fun secrets => ?_
  refine safe_ask trivial fun _ => ?_
  split
  · exact unwritten.reject
  dsimp only
  split
  · exact unwritten.reject
  split
  · exact unwritten.reject
  · rfl

lemma works_initializePluginBundle (agent : AgentEnvironment) (body : PlatformRuntimeStateUpsert) :
    Works reqHash req user (initializePluginBundle agent body) := by
  rw [initializePluginBundle]
  split
  · exact works_pure _
  refine works_ask trivial fun refusal => ?_
  split
  · exact works_rollback.bind fun _ => works_throw _
  · exact (works_write _).bind fun _ => works_write _

section
variable (unwritten : Unwritten user view)
include unwritten

lemma finishes_platformUpsertRuntimeState (aid : ℕ) (body : PlatformRuntimeStateUpsert) :
    Finishes reqHash req (platformUpsertRuntimeState reqHash req user aid body) view := by
  have busy := unwritten.toWorking
  apply (safe_checkRuntimeState unwritten aid body).then
  intro (agent, applyGeneration, changed, secretsChanged) later same
  rw [same]
  refine safe_ask trivial fun conflict => ?_
  split
  · exact safe_throw (busy.final _)
  apply (works_write (.reconcileOauthClaims aid body.runtime)).finishes busy
  intro _ view busy
  apply (works_initializePluginBundle agent body).finishes busy
  intro _ view busy
  apply (works_write (.assignRuntimeState aid body applyGeneration)).finishes busy
  intro _ view busy
  apply (works_writeIf _ (.syncSecretValues aid body.secretValues)).finishes busy
  intro _ view busy
  apply (works_writeIf _ (.manifestChanged aid)).finishes busy
  intro _ view busy
  exact finishes_completeMutation busy _ _ _

lemma finishes_platformDeleteRuntimeState (aid : ℕ) :
    Finishes reqHash req (platformDeleteRuntimeState reqHash req user aid) view := by
  have busy := unwritten.toWorking
  apply (safe_loadOwnedAgent unwritten aid).then
  intro agent later same
  rw [same]
  refine safe_ask trivial fun st => ?_
  split
  · apply (works_write (.releaseOauthClaims aid)).finishes busy
    intro _ view busy
    apply (works_write (.deleteRuntimeState aid)).finishes busy
    intro _ view busy
    apply (works_write (.manifestChanged agent.id)).finishes busy
    intro _ view busy
    exact finishes_completeMutation busy _ _ _
  · exact finishes_completeMutation busy _ _ _

lemma finishes_platformMintApiKey (body : PlatformApiKeyCreate) :
    Finishes reqHash req (platformMintApiKey reqHash req user body) view := by
  have busy := unwritten.toWorking
  apply (safe_loadOwnedAgent unwritten body.environmentId).then
  intro _ later same
  rw [same]
  apply (safe_assertUserAuthorityActive busy user).then
  intro _ later same
  rw [same]
  refine safe_ask trivial fun agent => ?_
  split
  · exact safe_throw (busy.final _)
  refine safe_ask trivial fun minted => ?_
  apply (works_write (.createApiKey minted.1 user)).finishes busy
  intro _ view busy
  exact finishes_completeMutation busy _ _ _

lemma finishes_platformRevokeApiKey (keyId : ℕ) :
    Finishes reqHash req (platformRevokeApiKey reqHash req user keyId) view := by
  have busy := unwritten.toWorking
  apply (safe_loadOwnedKey unwritten keyId).then
  intro key later same
  rw [same]
  split
  · refine safe_ask trivial fun now => ?_
    apply (works_write (.revokeApiKey keyId now)).finishes busy
    intro _ view busy
    apply (works_write (.notifySubscriptions user)).finishes busy
    intro _ view busy
    exact finishes_completeMutation busy _ _ _
  · exact finishes_completeMutation busy _ _ _

lemma finishes_mutate : Finishes reqHash req (mutate reqHash req user) view := by
  rw [mutate]
  split
  · exact finishes_platformCreateAgent unwritten _
  · exact finishes_platformDeleteAgent unwritten _
  · exact finishes_platformUpsertRuntimeState unwritten _ _
  · exact finishes_platformDeleteRuntimeState unwritten _
  · exact finishes_platformMintApiKey unwritten _
  · exact finishes_platformRevokeApiKey unwritten _

end

structure Early (view : View) : Prop where
  found : view.found = none
  audited : view.audited = false
  written : view.txn.written = []
  row : view.txn.row = none

lemma Early.reject {α : Type} {error res} {id : Option ℕ} {post : α → View → Prop} (early : Early view) :
    Safe reqHash req (reject req id error res : Handler α) post view := by
  apply safe_reject early.written early.row
  intro later hit _
  rw [Final, Final, hit, early.found]
  exact ⟨⟨_, rfl⟩, ⟨_, rfl⟩⟩

lemma safe_resolveOwner (early : Early view) : Safe reqHash req (resolveOwner req)
      (fun user later => Early later ∧ later.user = some user) view := by
  apply safe_perform
  · exact early.found
  rintro (user | _ | _ | _) _
  · have resolved : Early { view with user := some user } :=
      ⟨early.found, early.audited, early.written, early.row⟩
    refine safe_ask trivial fun active => ?_
    split
    · exact ⟨resolved, rfl⟩
    · exact resolved.reject
  · exact early.reject
  · exact early.reject
  · exact early.reject

lemma safe_lockPlatformIdempotency (early : Early view) : Safe reqHash req (lockPlatformIdempotency req.slot)
      (fun old later => later.found = some old ∧ later.user = view.user ∧ later.audited = false ∧
        later.txn.written = [] ∧ later.txn.row = none) view := by
  rw [lockPlatformIdempotency, safe_bind]
  apply safe_perform
  · exact trivial
  intro _ _
  rw [safe_bind]
  apply safe_perform
  · exact ⟨rfl, early.found⟩
  rintro ⟨_ | row, now⟩ unexpired
  · exact ⟨rfl, rfl, early.audited, early.written, early.row⟩
  · have later : now < row.expiresAt := unexpired row rfl
    dsimp only
    rw [if_neg (Nat.not_le.mpr later)]
    refine ⟨?_, rfl, early.audited, early.written, early.row⟩
    simp [View.after, Option.filter, later]

lemma safe_beginMutation (early : Early view) (owner : view.user = some user) :
    Safe reqHash req (beginMutation reqHash req user)
      (fun replay later => match replay with
        | none => Unwritten user later
        | some replay => Final reqHash req (.ok (replayResponse replay)) later) view := by
  apply (safe_lockPlatformIdempotency early).then
  rintro old later ⟨hit, same, unaudited, wrote, row⟩
  rw [owner] at same
  cases old with
  | none => exact ⟨⟨hit, same, row⟩, wrote⟩
  | some old =>
    dsimp only
    by_cases alt : old.requestHash ≠ reqHash req.payload ∨ old.ownerUserId ≠ some user
    · rw [if_pos alt]
      apply safe_reject wrote row
      intro last kept owner
      rw [Final, Final, kept, hit]
      refine ⟨.inr ?_, .inl rfl⟩
      rw [if_neg]
      rw [owner, same]
      rintro ⟨hash, id⟩
      exact alt.elim (fun differ => differ hash) fun differ => differ id
    · rw [if_neg alt]
      have matching : old.requestHash = reqHash req.payload ∧
          old.ownerUserId = some user := by
        simpa only [not_or, not_not] using alt
      show Final reqHash req _ later
      rw [Final, hit]
      dsimp only
      rw [same, if_pos matching]
      exact .inr ⟨rfl, unaudited⟩

lemma safe_handle : Safe reqHash req (handle reqHash req) (fun resp => Final reqHash req (.ok resp)) {} := by
  apply (safe_resolveOwner ⟨rfl, rfl, rfl, rfl⟩).then
  rintro user view ⟨early, owner⟩
  split
  -- With the owner's lock and without it the mutation runs alike.
  on_goal 1 => refine safe_ask trivial fun _ => ?_
  all_goals
    apply (safe_beginMutation early owner).then
    rintro (_ | replay) later holds
    · apply (finishes_mutate holds).mono
      intro resp last hit
      rw [Final, hit]
      trivial
    · exact holds

end Clawdi.PlatformMutations
