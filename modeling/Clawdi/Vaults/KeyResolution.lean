import Clawdi.Vaults.Resolution

namespace Clawdi.Resolve
open List
variable {ι γ : Type} [DecidableEq ι] (db : Database ι γ) (caller : Caller ι) (decrypt : γ → Option String)
  (upper : String → String)

def Answer.values : Answer ι → Option (String → Option String)
  | .resolved _ => none
  | .env vs | .envDebug vs _ _ => some vs

/-- The items of a scope, those of an earlier project first. -/
def scopeItems (ordered : Precedence ι) : List (VaultItem ι γ) := (scopeRows db ordered).map (·.2.2)

/-- For every value: asking for the key answers it exactly when the environment of the scope has it. -/
def KeyAgrees (pid aid : Option ι) (debug : Bool) (key : String) : Prop :=
  ∀ v, (∃ resolution, resolveVault db caller decrypt upper
        { key := some key, projectId := pid, agentId := aid, flags := { allowConflicts := true, debug } } =
          .ok (.resolved resolution) ∧ resolution.value = some v) ↔
      ∃ ans vs, resolveVault db caller decrypt upper
        { projectId := pid, agentId := aid, flags := { allowConflicts := true, debug } } = .ok ans ∧
          ans.values = some vs ∧ vs (upper key) = some v

/-- The taken items decrypt too, and a project's last item with the key holds the same value. -/
def KeyMatches (pid aid : Option ι) (key : String) : Prop :=
  ∀ ordered, scopePrecedence caller pid aid = .ok ordered →
    ∀ item, (scopeItems db ordered).find? (envKey upper · = upper key) = some item →
      (decrypt item.encryptedValue).isSome →
        if aid.isSome then
          ∀ k first, (scopeItems db ordered).find? (envKey upper · = k) = some first →
            (decrypt first.encryptedValue).isSome
        else
          (∀ alt ∈ scopeItems db ordered, (decrypt alt.encryptedValue).isSome) ∧
            ∀ last, (scopeItems db ordered).reverse.find? (envKey upper · = upper key) = some last →
              decrypt last.encryptedValue = decrypt item.encryptedValue

section Key
variable {decrypt}

variable (decrypt) in
lemma visit_won {search : Search ι} {winner : Winner ι} (won : search.winner = some winner)
    (hits : List (Hit ι γ)) :
    ∃ after, hits.foldlM (Search.visit decrypt false) search = .ok after ∧ after.winner = some winner := by
  induction hits generalizing search with
  | nil => exact ⟨search, rfl, won⟩
  | cons found hits again =>
    obtain ⟨next, visited, still⟩ : ∃ next, Search.visit decrypt false search found = .ok next ∧
        next.winner = some winner := by
      obtain ⟨e, _ | ⟨vault, item⟩⟩ := found
      · exact ⟨_, rfl, won⟩
      · by_cases same : item.id = winner.itemId <;> simp [Search.visit, won, same]
    obtain ⟨after, ran, kept⟩ := again still
    exact ⟨after, by rw [foldlM_cons, visited]; exact ran, kept⟩

lemma resolveHits_value {debug : Bool} {label v : String} {hits : List (Hit ι γ)} :
    (∃ resolution, resolveHits decrypt { allowConflicts := true, debug } label hits = .ok resolution ∧
      resolution.value = some v) ↔
        (hits.findSome? (·.2)).bind (fun hit => decrypt hit.2.encryptedValue) = some v := by
  suffices search : ∀ search : Search ι, search.winner = none →
      ((∃ after winner, hits.foldlM (Search.visit decrypt false) search = .ok after ∧
        after.winner = some winner ∧ winner.value = some v) ↔
          (hits.findSome? (·.2)).bind (fun hit => decrypt hit.2.encryptedValue) = some v) by
    rw [← search {} rfl]
    constructor
    · rintro ⟨resolution, resolved, valued⟩
      obtain ⟨after, ran, rest⟩ := bind_eq_ok.mp resolved
      cases won : after.winner with
      | none => simp [won, throw, throwThe, MonadExceptOf.throw] at rest
      | some winner =>
        simp only [won, not_true_eq_false, and_false, if_false, pure_eq_ok] at rest
        exact ⟨after, winner, ran, won, by rw [← valued, ← rest]⟩
    · rintro ⟨after, winner, ran, won, valued⟩
      refine ⟨⟨label, winner.source, winner.value, if debug then some after.precedence else none,
        after.conflicts⟩, bind_eq_ok.mpr ⟨after, ran, ?_⟩, valued⟩
      simp [won, pure, Except.pure]
  intro search lost
  induction hits generalizing search with
  | nil => simp [lost, pure, Except.pure]
  | cons found hits again =>
    obtain ⟨e, _ | ⟨vault, item⟩⟩ := found
    · simpa [foldlM_cons, Search.visit, bind, Except.bind] using
        again { search with precedence := search.precedence ++ [⟨e, false, .notFound⟩] } lost
    · cases plain : decrypt item.encryptedValue with
      | none => simp [foldlM_cons, Search.visit, lost, plain, bind, Except.bind]
      | some found =>
        obtain ⟨after, ran, won⟩ := visit_won decrypt (show ({ search with
            precedence := search.precedence ++ [⟨e, true, .hit⟩]
            winner := some ⟨⟨e, vault.slug, item.sectionName, item.itemName⟩, item.id, some found⟩ } :
              Search ι).winner = some _ from rfl) hits
        simp [foldlM_cons, Search.visit, lost, plain, bind, Except.bind, ran, won]

lemma scopeRows_eq (ordered : Precedence ι) : scopeRows db ordered = ordered.flatMap fun e =>
      (vaultItemRowsForProjects db [e.projectId]).map fun row => (e, row.2) := by
  refine flatMap_congr fun e mem => congrArg _ ?_
  rw [vaultItemRowsForProjects, vaultItemRowsForProjects, filter_filter]
  refine filter_congr fun row _ => ?_
  have inside : row.1 = e.projectId → row.1 ∈ ordered.map (·.projectId) := fun same =>
    same ▸ mem_map_of_mem mem
  by_cases same : row.1 = e.projectId
  · simp [same, same ▸ inside same]
  · simp [same]

lemma keyHits_first {ordered : Precedence ι} {wanted : String} :
    ((ordered.map fun e => (e, firstVaultKeyHit db upper e.projectId wanted)).findSome? (·.2)).map (·.2) =
      (scopeItems db ordered).find? (envKey upper · = wanted) := by
  rw [scopeItems, scopeRows_eq, map_flatMap, find?_flatMap, findSome?_map, map_findSome?]
  simp only [firstVaultKeyHit, Function.comp_def, map_map, find?_map, Option.map_map]

lemma resolveKey_value {debug : Bool} {key v : String} {ordered : Precedence ι} :
    (∃ resolution, resolveKey db decrypt upper { allowConflicts := true, debug } key ordered = .ok resolution ∧
      resolution.value = some v) ↔
        ((scopeItems db ordered).find? (envKey upper · = upper key)).bind (decrypt ·.encryptedValue) =
          some v := by
  rw [resolveKey, resolveHits_value, ← keyHits_first, Option.bind_map]
  rfl

variable (decrypt) in
lemma agent_run (rows : List (ProjectPrecedenceEntry ι × Vault ι × VaultItem ι γ)) :
    (∃ env, rows.foldlM (AgentEnv.visit decrypt upper) {} = .ok env ∧ ∀ k, (env.seen k).map (some ·.2.2) =
        ((rows.map (·.2.2)).find? (envKey upper · = k)).map (decrypt ·.encryptedValue)) ∨
    (∃ err, rows.foldlM (AgentEnv.visit decrypt upper) {} = .error err) ∧
      ∃ k first, (rows.map (·.2.2)).find? (envKey upper · = k) = some first ∧
        decrypt first.encryptedValue = none := by
  induction rows using reverseRecOn with
  | nil => exact .inl ⟨{}, rfl, fun _ => rfl⟩
  | append_singleton rows row again =>
    obtain ⟨env, ran, firsts⟩ | ⟨⟨err, ran⟩, k, first, found, plain⟩ := again
    · have split : (rows ++ [row]).foldlM (AgentEnv.visit decrypt upper) {} =
        AgentEnv.visit decrypt upper env row := by
        rw [foldlM_append, ran]
        exact bind_pure (m := Outcome ι) _
      have here := firsts (envKey upper row.2.2)
      cases seen : env.seen (envKey upper row.2.2) with
      | some winner =>
        obtain ⟨first, found⟩ : ∃ first,
            (rows.map (·.2.2)).find? (envKey upper · = envKey upper row.2.2) = some first := by
          cases found : (rows.map (·.2.2)).find? (envKey upper · = envKey upper row.2.2) with
          | none => simp [seen, found] at here
          | some first => exact ⟨first, rfl⟩
        obtain ⟨after, visited, still⟩ : ∃ after, AgentEnv.visit decrypt upper env row = .ok after ∧
            after.seen = env.seen := by
          by_cases same : winner.2.1 = row.2.2.id <;> simp [AgentEnv.visit, seen, same]
        refine .inl ⟨after, split.trans visited, fun k => ?_⟩
        rw [still, firsts k, map_append, find?_append]
        by_cases named : envKey upper row.2.2 = k
        · subst named
          rw [found, Option.some_or]
        · simp [named]
      | none =>
        have fresh : (rows.map (·.2.2)).find? (envKey upper · = envKey upper row.2.2) = none := by
          simpa [seen] using here.symm
        cases plain : decrypt row.2.2.encryptedValue with
        | none =>
          refine .inr ⟨⟨.undecryptable, by simp [split, AgentEnv.visit, seen, plain]⟩, envKey upper row.2.2,
            row.2.2, ?_, plain⟩
          rw [map_append, find?_append, fresh]
          simp
        | some v =>
          refine .inl ⟨_, split.trans (by simp only [AgentEnv.visit, seen, plain]; rfl), fun k => ?_⟩
          rw [map_append, find?_append]
          by_cases named : envKey upper row.2.2 = k
          · subst named
            simp [fresh, plain]
          · simp [Function.update_of_ne (Ne.symm named), firsts k, named]
    · refine .inr ⟨⟨err, by rw [foldlM_append, ran]; rfl⟩, k, first, ?_, plain⟩
      rw [map_append, find?_append, found, Option.some_or]

variable (decrypt) in
lemma plain_run {items : List (VaultItem ι γ)}
    (unique : ∀ one ∈ items, ∀ alt ∈ items, one.id = alt.id → one = alt) :
    (∃ env, items.foldlM (visitPlain decrypt upper) (fun _ => none) = .ok env ∧
      (∀ k, (env k).map (fun kept => (kept.1, some kept.2)) =
        (items.reverse.find? (envKey upper · = k)).map fun last => (last.id, decrypt last.encryptedValue)) ∧
      ∀ item ∈ items, (decrypt item.encryptedValue).isSome) ∨
    (∃ err, items.foldlM (visitPlain decrypt upper) (fun _ => none) = .error err) ∧
      ∃ item ∈ items, decrypt item.encryptedValue = none := by
  induction items using reverseRecOn with
  | nil => exact .inl ⟨fun _ => none, rfl, fun _ => rfl, fun _ mem => nomatch mem⟩
  | append_singleton items item again =>
    have earlier : ∀ one ∈ items, one ∈ items ++ [item] := fun one mem => mem_append_left _ mem
    obtain ⟨env, ran, lasts, all⟩ | ⟨⟨err, ran⟩, bad, mem, plain⟩ :=
      again fun one mem alt mem' => unique one (earlier one mem) alt (earlier alt mem')
    · have split : (items ++ [item]).foldlM (visitPlain decrypt upper) (fun _ => none) =
          visitPlain decrypt upper env item := by
        rw [foldlM_append, ran]
        exact bind_pure (m := Outcome ι) _
      simp only [reverse_append, reverse_singleton, singleton_append, find?_cons, split]
      have here := lasts (envKey upper item)
      by_cases again : (env (envKey upper item)).map Prod.fst = some item.id
      · obtain ⟨⟨id, v⟩, kept, rfl⟩ := Option.map_eq_some_iff.mp again
        obtain ⟨last, found, same⟩ := Option.map_eq_some_iff.mp (here.symm.trans (by rw [kept]; rfl))
        have mem : last ∈ items := mem_reverse.mp (mem_of_find?_eq_some found)
        have alike : last = item := unique last (earlier last mem) item (by simp) (Prod.ext_iff.mp same).1
        subst alike
        refine .inl ⟨env, by simp [visitPlain, again], fun k => ?_, fun alt mem' => ?_⟩
        · by_cases named : envKey upper last = k
          · subst named
            simp [here, found]
          · simp [named, lasts k]
        · rcases mem_append.mp mem' with mem' | mem'
          · exact all alt mem'
          · exact mem_singleton.mp mem' ▸ all last mem
      · cases plain : decrypt item.encryptedValue with
        | none => exact .inr ⟨⟨.undecryptable, by simp [visitPlain, again, plain]⟩, item, by simp, plain⟩
        | some v =>
          refine .inl ⟨_, by simp only [visitPlain, if_neg again, plain]; rfl, fun k => ?_, fun alt mem' => ?_⟩
          · by_cases named : envKey upper item = k
            · subst named
              simp [plain]
            · simp [Function.update_of_ne (Ne.symm named), named, lasts k]
          · rcases mem_append.mp mem' with mem' | mem'
            · exact all alt mem'
            · rw [mem_singleton.mp mem', plain]
              rfl
    · exact .inr ⟨⟨err, by rw [foldlM_append, ran]; rfl⟩, bad, earlier bad mem, plain⟩

omit [DecidableEq ι] in
lemma map_eq_bind {α β : Type} {kept : Option α} {found : Option β} {f : α → String} {g : β → Option String}
    (same : kept.map (fun a => some (f a)) = found.map g) : kept.map f = found.bind g := by
  cases kept <;> cases found <;> simp_all

lemma agentEnvironment_value {debug : Bool} {ordered : Precedence ι} {key v : String} :
    (∃ ans vs, resolveAgentEnvironment db decrypt upper { allowConflicts := true, debug } ordered =
        .ok ans ∧ ans.values = some vs ∧ vs key = some v) ↔
      (∀ k first, (scopeItems db ordered).find? (envKey upper · = k) = some first →
        (decrypt first.encryptedValue).isSome) ∧
      ((scopeItems db ordered).find? (envKey upper · = key)).bind (decrypt ·.encryptedValue) = some v := by
  obtain ⟨env, ran, firsts⟩ | ⟨⟨err, ran⟩, k, first, found, plain⟩ := agent_run decrypt upper (scopeRows db ordered)
  · obtain ⟨ans, answered, valued⟩ : ∃ ans,
        resolveAgentEnvironment db decrypt upper { allowConflicts := true, debug } ordered = .ok ans ∧
          ans.values = some fun key => (env.seen key).map (·.2.2) := by
      cases debug <;> simp [resolveAgentEnvironment, ran, bind, Except.bind, pure, Except.pure, Answer.values]
    have same := map_eq_bind (firsts key)
    constructor
    · rintro ⟨_, vs, answered', valued', has⟩
      cases answered.symm.trans answered'
      cases valued.symm.trans valued'
      refine ⟨fun k first found => ?_, same.symm.trans has⟩
      obtain ⟨kept, -, decrypts⟩ := Option.map_eq_some_iff.mp ((firsts k).trans (congrArg _ found))
      exact Option.isSome_iff_exists.mpr ⟨_, decrypts.symm⟩
    · rintro ⟨-, has⟩
      exact ⟨ans, _, answered, valued, same.trans has⟩
  · constructor
    · rintro ⟨ans, vs, answered, -⟩
      simp [resolveAgentEnvironment, ran, bind, Except.bind] at answered
    · rintro ⟨all, -⟩
      exact absurd (all k first found) (by simp [plain])

lemma projectEnvironment_value {e : ProjectPrecedenceEntry ι} {key v : String} :
    (∃ ans vs, resolveProjectEnvironment db decrypt upper [e] = .ok ans ∧ ans.values = some vs ∧ vs key = some v) ↔
      (∀ item ∈ scopeItems db [e], (decrypt item.encryptedValue).isSome) ∧
      ((scopeItems db [e]).reverse.find? (envKey upper · = key)).bind (decrypt ·.encryptedValue) = some v := by
  have items : (vaultItemRowsForProjects db [e.projectId]).map (·.2.2) = scopeItems db [e] := by
    simp [scopeItems, scopeRows_eq, Function.comp_def]
  have unique : ∀ one ∈ scopeItems db [e], ∀ alt ∈ scopeItems db [e], one.id = alt.id → one = alt := by
    have was : ∀ one ∈ scopeItems db [e], one ∈ db.items := by
      intro one mem
      rw [← items] at mem
      simp only [vaultItemRowsForProjects, itemRows, mem_map, mem_filter, mem_flatMap] at mem
      obtain ⟨_, ⟨⟨row, -, item, ⟨mem, -⟩, rfl⟩, -⟩, rfl⟩ := mem
      exact mem
    exact fun one mem alt mem' => db.unique one (was one mem) alt (was alt mem')
  simp only [resolveProjectEnvironment, map_cons, map_nil, items]
  obtain ⟨env, ran, lasts, all⟩ | ⟨⟨err, ran⟩, bad, mem, plain⟩ := plain_run decrypt upper unique
  · have same : (env key).map Prod.snd =
        ((scopeItems db [e]).reverse.find? (envKey upper · = key)).bind (decrypt ·.encryptedValue) := by
      refine map_eq_bind ?_
      simpa [Function.comp_def] using congrArg (Option.map Prod.snd) (lasts key)
    constructor
    · rintro ⟨_, vs, answered, valued, has⟩
      rw [ran] at answered
      cases answered
      cases valued
      exact ⟨all, same.symm.trans has⟩
    · rintro ⟨-, has⟩
      exact ⟨_, _, by rw [ran]; rfl, rfl, same.trans has⟩
  · constructor
    · rintro ⟨ans, vs, answered, -⟩
      rw [ran] at answered
      cases answered
    · rintro ⟨all, -⟩
      exact absurd (all bad mem) (by simp [plain])

lemma scopePrecedence_project {pid : Option ι} {ordered : Precedence ι}
    (scope : scopePrecedence caller pid none = .ok ordered) : ∃ e, ordered = [e] := by
  obtain ⟨es, chosen, rest⟩ := bind_eq_ok.mp scope
  obtain ⟨sel, -, single⟩ := bind_eq_ok.mp chosen
  obtain ⟨allowed, -, single⟩ := bind_eq_ok.mp single
  by_cases none : es = []
  · rw [if_pos none] at rest
    cases rest
  · rw [if_neg none] at rest
    cases rest
    by_cases hidden : sel ∉ allowed
    · rw [if_pos hidden] at single
      cases single
      exact absurd rfl none
    · rw [if_neg hidden] at single
      cases found : caller.projects.find? (·.id = sel) with
      | none => simp_all [pure, Except.pure]
      | some proj =>
        rw [found] at single
        cases single
        exact ⟨proj.entry .project 0, rfl⟩

end Key

theorem key_agrees_iff (pid aid : Option ι) (debug : Bool) (key : String) :
    KeyAgrees db caller decrypt upper pid aid debug key ↔ KeyMatches db caller decrypt upper pid aid key := by
  cases scope : scopePrecedence caller pid aid with
  | error err => simp [KeyAgrees, KeyMatches, scope, resolveVault, bind, Except.bind]
  | ok ordered =>
    have keyed : ∀ v, (∃ resolution, resolveVault db caller decrypt upper
        { key := some key, projectId := pid, agentId := aid, flags := { allowConflicts := true, debug } } =
          .ok (.resolved resolution) ∧ resolution.value = some v) ↔
        ((scopeItems db ordered).find? (envKey upper · = upper key)).bind (decrypt ·.encryptedValue) =
          some v := by
      intro v
      rw [← resolveKey_value]
      cases resolved : resolveKey db decrypt upper { allowConflicts := true, debug } key ordered <;>
        simp [resolveVault, scope, resolved, bind, Except.bind, pure, Except.pure]
    cases aid with
    | some agent =>
      have environment : resolveVault db caller decrypt upper
          { projectId := pid, agentId := some agent, flags := { allowConflicts := true, debug } } =
            resolveAgentEnvironment db decrypt upper { allowConflicts := true, debug } ordered := by
        simp [resolveVault, scope, bind, Except.bind]
      simp only [KeyAgrees, KeyMatches, keyed, environment, agentEnvironment_value, scope, Except.ok.injEq,
        forall_eq', Option.isSome_some, if_true]
      constructor
      · intro agrees item found plain
        obtain ⟨v, decrypts⟩ := Option.isSome_iff_exists.mp plain
        exact ((agrees v).mp (by rw [found]; exact decrypts)).1
      · intro holds v
        refine ⟨fun has => ⟨?_, has⟩, And.right⟩
        obtain ⟨item, found, decrypts⟩ := Option.bind_eq_some_iff.mp has
        exact holds item found (Option.isSome_iff_exists.mpr ⟨v, decrypts⟩)
    | none =>
      obtain ⟨e, rfl⟩ := scopePrecedence_project caller scope
      have environment : resolveVault db caller decrypt upper
          { projectId := pid, agentId := none, flags := { allowConflicts := true, debug } } =
            resolveProjectEnvironment db decrypt upper [e] := by
        simp [resolveVault, scope, bind, Except.bind]
      simp only [KeyAgrees, KeyMatches, keyed, environment, projectEnvironment_value, scope, Except.ok.injEq,
        forall_eq', Option.isSome_none, Bool.false_eq_true, if_false]
      constructor
      · intro agrees item found plain
        obtain ⟨v, decrypts⟩ := Option.isSome_iff_exists.mp plain
        have both := (agrees v).mp (by rw [found]; exact decrypts)
        refine ⟨both.1, fun last ended => ?_⟩
        rw [ended] at both
        exact both.2.trans decrypts.symm
      · intro holds v
        constructor
        · intro has
          obtain ⟨item, found, decrypts⟩ := Option.bind_eq_some_iff.mp has
          obtain ⟨all, same⟩ := holds item found (Option.isSome_iff_exists.mpr ⟨v, decrypts⟩)
          refine ⟨all, ?_⟩
          cases ended : (scopeItems db [e]).reverse.find? (envKey upper · = upper key) with
          | none =>
            have named := find?_some found
            have mem := mem_reverse.mpr (mem_of_find?_eq_some found)
            exact absurd named (find?_eq_none.mp ended item mem)
          | some last => exact (same last ended).trans decrypts
        · rintro ⟨all, has⟩
          obtain ⟨last, ended, decrypts⟩ := Option.bind_eq_some_iff.mp has
          cases found : (scopeItems db [e]).find? (envKey upper · = upper key) with
          | none =>
            have named := find?_some ended
            have mem := mem_reverse.mp (mem_of_find?_eq_some ended)
            exact absurd named (find?_eq_none.mp found last mem)
          | some item =>
            have plain := all item (mem_of_find?_eq_some found)
            exact ((holds item found plain).2 last ended).symm.trans decrypts

namespace Sample

def item (id name secret : String) : VaultItem String String := ⟨id, "vault", "", name, secret⟩

def database : Database String String where
  attachments := [⟨"project", "vault"⟩]
  vaults := [⟨"vault", "deploy"⟩]
  aliases := []
  items := [item "first" "Token" "old", item "second" "TOKEN" "new"]
  unique := by decide

def user : Caller String where
  boundAgent := none
  readable := ["project"]
  defaultWriteProject := some "project"
  projects := [⟨"project", "main", "Main"⟩]
  agents := []
  bindings := []

def uppercase (name : String) : String := if name = "Token" then "TOKEN" else name

end Sample

/-- Asking for the key answers the first item, the environment has the last. -/
theorem key_disagrees_sample :
    ¬KeyAgrees Sample.database Sample.user some Sample.uppercase none none false "TOKEN" := by
  intro agrees
  have both := (agrees "old").mp ⟨_, rfl, rfl⟩
  obtain ⟨ans, vs, answered, valued, has⟩ := both
  cases answered
  cases valued
  exact absurd has (by decide)

end Clawdi.Resolve
