import Mathlib.Data.List.Nodup
import Clawdi.Vaults.KeyResolution

namespace Clawdi.Resolve
open List
variable {ι γ : Type} [DecidableEq ι] {db : Database ι γ} {caller : Caller ι} {decrypt : γ → Option String}

/-- No namespace of the list is answered by two vaults. -/
def Unambiguous (rows : List (ι × String × ι)) : Prop :=
  ∀ one ∈ rows, ∀ alt ∈ rows, one.1 = alt.1 → one.2.1 = alt.2.1 → one.2.2 = alt.2.2

lemma checkNamespaces_ok {pre rest : List (ι × String × ι)} (inv : Unambiguous pre) :
    checkNamespaces pre rest = .ok () ↔ Unambiguous (pre ++ rest) := by
  induction rest generalizing pre with
  | nil => simpa [checkNamespaces] using inv
  | cons row rest again =>
    obtain ⟨pid, slug, vaultId⟩ := row
    rw [checkNamespaces]
    by_cases clash : pre.any fun row => row.1 = pid ∧ row.2.1 = slug ∧ row.2.2 ≠ vaultId
    · rw [if_pos clash]
      obtain ⟨alt, mem, ne⟩ := any_eq_true.mp clash
      obtain ⟨same, slugged, apart⟩ := of_decide_eq_true ne
      refine ⟨nofun, fun all => ?_⟩
      have here : (pid, slug, vaultId) ∈ pre ++ (pid, slug, vaultId) :: rest := mem_append_right _ mem_cons_self
      exact absurd (all alt (mem_append_left _ mem) _ here same slugged) apart
    · have agree : ∀ alt ∈ pre, alt.1 = pid → alt.2.1 = slug → alt.2.2 = vaultId := by
        intro alt mem same slugged
        by_contra apart
        exact clash (any_eq_true.mpr ⟨alt, mem, decide_eq_true ⟨same, slugged, apart⟩⟩)
      have extended : Unambiguous (pre ++ [(pid, slug, vaultId)]) := by
        intro one mem alt mem' same slugged
        rcases mem_append.mp mem with mem | mem <;> rcases mem_append.mp mem' with mem' | mem'
        · exact inv one mem alt mem' same slugged
        · cases mem_singleton.mp mem'
          exact agree one mem same slugged
        · cases mem_singleton.mp mem
          exact (agree alt mem' same.symm slugged.symm).symm
        · rw [mem_singleton.mp mem, mem_singleton.mp mem']
      rw [if_neg clash, again extended, append_assoc, singleton_append]

/-- The last row of a key, which is the one an index keeps. -/
def lastRow (rows : List (LookupRow ι γ)) (key : Key ι) : Option (Vault ι × VaultItem ι γ) :=
  (rows.reverse.find? (·.key = key)).map fun row => (row.vault, row.item)

lemma vaultItemIndex_ok {rows : List (LookupRow ι γ)}
    (inv : ∀ one ∈ rows, ∀ alt ∈ rows, one.projectId = alt.projectId → one.lookupSlug = alt.lookupSlug →
      one.vault.id = alt.vault.id) : vaultItemIndex rows = .ok (lastRow rows) := by
  induction rows using reverseRecOn with
  | nil => rfl
  | append_singleton rows row again =>
    have earlier : ∀ one ∈ rows, one ∈ rows ++ [row] := fun one mem => mem_append_left _ mem
    have pre := again fun one mem alt mem' => inv one (earlier one mem) alt (earlier alt mem')
    rw [vaultItemIndex] at pre ⊢
    rw [foldlM_append, pre]
    have same : ¬(lastRow rows row.key).any (·.1.id ≠ row.vault.id) := by
      cases hit : rows.reverse.find? (·.key = row.key) with
      | none => simp [lastRow, hit]
      | some last =>
        have mem : last ∈ rows := mem_reverse.mp (mem_of_find?_eq_some hit)
        have keyed : last.key = row.key := by simpa using find?_some hit
        have alike := inv last (earlier last mem) row (by simp) (congrArg (·.1) keyed) (congrArg (·.2.1) keyed)
        simp [lastRow, hit, alike]
    have kept : Function.update (lastRow rows) row.key (some (row.vault, row.item)) = lastRow (rows ++ [row]) := by
      funext key
      by_cases keyed : row.key = key
      · subst keyed
        simp [lastRow]
      · simp [lastRow, Function.update_of_ne (Ne.symm keyed), keyed]
    rw [← kept]
    simp only [bind, Except.bind, foldlM_cons, foldlM_nil, if_neg same]
    rfl

local instance lawfulSearched : LawfulBEq (ι × String) := inferInstance

variable (db) in
/-- The identities of the searched namespaces, and the rows that a request asks for. -/
def named (searched : List (ι × String)) : List (ι × String × ι) :=
  (identities db).filter fun row => (row.1, row.2.1) ∈ searched

variable (db) in
def asked (references : List (String × String × String)) (searched : List (ι × String)) : List (LookupRow ι γ) :=
  (lookupRows db).filter fun row => (row.projectId, row.lookupSlug) ∈ searched ∧
    row.item.sectionName ∈ references.map (·.2.1) ∧ row.item.itemName ∈ references.map (·.2.2)

lemma lookupRow_identity {row : LookupRow ι γ} (mem : row ∈ lookupRows db) :
    (row.projectId, row.lookupSlug, row.vault.id) ∈ identities db := by
  have attachedRow : ∀ {hit}, hit ∈ itemRows db → (hit.1, hit.2.1) ∈ attached db := by
    intro hit mem
    obtain ⟨pair, here, item⟩ := mem_flatMap.mp mem
    obtain ⟨item, -, rfl⟩ := mem_map.mp item
    exact here
  rcases mem_append.mp mem with mem | mem
  · obtain ⟨hit, here, rfl⟩ := mem_map.mp mem
    exact mem_append_left _ (mem_map.mpr ⟨_, attachedRow here, rfl⟩)
  · obtain ⟨hit, here, slugged⟩ := mem_flatMap.mp mem
    obtain ⟨slug, known, rfl⟩ := mem_map.mp slugged
    exact mem_append_right _ (mem_flatMap.mpr ⟨_, attachedRow here, mem_map.mpr ⟨slug, known, rfl⟩⟩)

lemma exactIndex_ok {projectIds : List ι} {references : List (String × String × String)}
    {searched : List (ι × String)} (some : projectIds ≠ []) (asks : references ≠ []) {idx : Index ι γ} :
    vaultItemRowsForExactReferences db projectIds references searched >>= vaultItemIndex = .ok idx ↔
      Unambiguous (named db searched) ∧ lastRow (asked db references searched) = idx := by
  have check : checkNamespaces [] (named db searched) = .ok () ↔ Unambiguous (named db searched) :=
    checkNamespaces_ok fun one mem => nomatch mem
  have filled : Unambiguous (named db searched) →
      vaultItemIndex (asked db references searched) = .ok (lastRow (asked db references searched)) := by
    refine fun sole => vaultItemIndex_ok fun one mem alt mem' same slugged => ?_
    have inside : ∀ row ∈ asked db references searched,
        (row.projectId, row.lookupSlug, row.vault.id) ∈ named db searched := by
      intro row mem
      obtain ⟨mem, asked⟩ := mem_filter.mp mem
      exact mem_filter.mpr ⟨lookupRow_identity mem, decide_eq_true (of_decide_eq_true asked).1⟩
    exact sole _ (inside one mem) _ (inside alt mem') same slugged
  rw [bind_eq_ok]
  simp only [vaultItemRowsForExactReferences, some, asks, or_self, if_false]
  constructor
  · rintro ⟨rows, hit, indexed⟩
    obtain ⟨⟨⟩, checked, hit⟩ := bind_eq_ok.mp hit
    cases hit
    have sole := check.mp checked
    exact ⟨sole, Except.ok.inj ((filled sole).symm.trans indexed)⟩
  · rintro ⟨sole, rfl⟩
    exact ⟨_, bind_eq_ok.mpr ⟨(), check.mpr sole, rfl⟩, filled sole⟩

lemma lastRow_asked {references : List (String × String × String)} {searched : List (ι × String)} {key : Key ι}
    (space : (key.1, key.2.1) ∈ searched) (sections : key.2.2.1 ∈ references.map (·.2.1))
    (fields : key.2.2.2 ∈ references.map (·.2.2)) :
    lastRow (asked db references searched) key = lastRow (lookupRows db) key := by
  rw [lastRow, asked, ← filter_reverse, find?_filter, lastRow]
  congr 2
  funext row
  by_cases keyed : row.key = key
  · subst keyed
    simp only [LookupRow.key] at space sections fields
    simp [space, sections, fields]
  · simp [keyed]

variable (db) in
def hits (ref : VaultReferenceResolveInput ι) (ordered : Precedence ι) : List (Hit ι γ) :=
  ordered.map fun e =>
    (e, lastRow (lookupRows db) (e.projectId, ref.vaultSlug, ref.sectionName, ref.field))

def VaultReferenceResolveInput.query (ref : VaultReferenceResolveInput ι) (request : VaultBulkResolveRequest ι) :
    Query ι :=
  { vaultSlug := some ref.vaultSlug
    sectionName := ref.sectionName
    field := some ref.field
    projectId := ref.projectId.or request.projectId
    agentId := request.agentId
    flags := request.flags }

lemma resolveHits_relabel {flags : Flags} {label : String} (alt : String) {resolution : Resolution ι}
    {hits : List (Hit ι γ)} (resolved : resolveHits decrypt flags label hits = .ok resolution) :
    resolveHits decrypt flags alt hits = .ok { resolution with label := alt } := by
  obtain ⟨search, ran, rest⟩ := bind_eq_ok.mp resolved
  refine bind_eq_ok.mpr ⟨search, ran, ?_⟩
  cases won : search.winner with
  | none => simp [won, throw, throwThe, MonadExceptOf.throw] at rest
  | some winner =>
    by_cases blocked : search.conflicts ≠ [] ∧ ¬flags.allowConflicts
    · simp [won, blocked, throw, throwThe, MonadExceptOf.throw, bind, Except.bind] at rest
    · simp only [won, if_neg blocked] at rest ⊢
      cases rest
      rfl

lemma scopePrecedence_ok {pid aid : Option ι} {ordered : Precedence ι} :
    scopePrecedence caller pid aid = .ok ordered ↔ scopeEntries caller pid aid = .ok ordered ∧ ordered ≠ [] := by
  rw [scopePrecedence, bind_eq_ok]
  constructor
  · rintro ⟨es, chosen, rest⟩
    by_cases none : es = []
    · rw [if_pos none] at rest
      cases rest
    · rw [if_neg none] at rest
      cases rest
      exact ⟨chosen, none⟩
  · rintro ⟨chosen, some⟩
    exact ⟨ordered, chosen, if_neg some⟩

omit [DecidableEq ι] in
lemma scoped_ok {chosen : Outcome ι (Precedence ι)}
    {ref : VaultReferenceResolveInput ι} {pair : VaultReferenceResolveInput ι × Precedence ι} :
    chosen >>= ref.scoped = .ok pair ↔ pair.1 = ref ∧ chosen = .ok pair.2 ∧ pair.2 ≠ [] := by
  rw [bind_eq_ok]
  constructor
  · rintro ⟨es, rfl, rest⟩
    by_cases none : es = []
    · rw [VaultReferenceResolveInput.scoped, if_pos none] at rest
      cases rest
    · rw [VaultReferenceResolveInput.scoped, if_neg none] at rest
      cases rest
      exact ⟨rfl, rfl, none⟩
  · rintro ⟨rfl, rfl, some⟩
    exact ⟨pair.2, rfl, if_neg some⟩

def Scoped (caller : Caller ι) (request : VaultBulkResolveRequest ι) (ordered : Ordered ι) : Prop :=
  List.Forall₂ (fun ref pair => pair.1 = ref ∧
    scopePrecedence caller (ref.projectId.or request.projectId) request.agentId = .ok pair.2)
      request.references ordered

def Ordered.searched (ordered : Ordered ι) : List (ι × String) :=
  ordered.flatMap fun ref => ref.2.map fun e => (e.projectId, ref.1.vaultSlug)

def Ordered.references (ordered : Ordered ι) : List (String × String × String) :=
  ordered.map fun ref => (ref.1.vaultSlug, ref.1.sectionName, ref.1.field)

lemma bulkOrder_ok {request : VaultBulkResolveRequest ι} {ordered : Ordered ι} :
    resolveBulkReferenceOrder caller request = .ok ordered ↔ Scoped caller request ordered := by
  simp only [Scoped, scopePrecedence_ok, ← scoped_ok]
  cases agent : request.agentId with
  | none => simp only [resolveBulkReferenceOrder, agent, scopeEntries, mapM_eq_ok, bind_assoc]
  | some aid =>
    simp only [resolveBulkReferenceOrder, agent, scopeEntries]
    cases caller.agentProjectPrecedence aid with
    | error err =>
      obtain ⟨ref, refs, references⟩ := exists_cons_of_ne_nil request.nonempty
      refine ⟨nofun, fun all => ?_⟩
      rw [references] at all
      cases all with
      | cons first => cases first
    | ok es => exact mapM_eq_ok

omit [DecidableEq ι] in
lemma forall₂_congr {α β : Type} {l : List α} {u : List β} {first snd : α → β → Prop}
    (same : ∀ a ∈ l, ∀ b, first a b ↔ snd a b) : List.Forall₂ first l u ↔ List.Forall₂ snd l u := by
  simp only [forall₂_iff_zip]
  refine and_congr_right fun _ => ⟨fun all a b mem => ?_, fun all a b mem => ?_⟩
  · exact (same a (of_mem_zip mem).1 b).mp (all mem)
  · exact (same a (of_mem_zip mem).1 b).mpr (all mem)

variable (db) in
lemma hits_asked {ordered : Ordered ι} {pair : VaultReferenceResolveInput ι × Precedence ι} (mem : pair ∈ ordered) :
    pair.2.map (fun e => (e, lastRow (asked db ordered.references ordered.searched)
        (e.projectId, pair.1.vaultSlug, pair.1.sectionName, pair.1.field))) = hits db pair.1 pair.2 := by
  refine map_congr_left fun e here => congrArg (Prod.mk e) (lastRow_asked ?_ ?_ ?_)
  · exact mem_flatMap.mpr ⟨pair, mem, mem_map_of_mem here⟩
  · exact mem_map_of_mem (mem_map_of_mem mem)
  · exact mem_map_of_mem (mem_map_of_mem mem)

lemma bulk_ok {request : VaultBulkResolveRequest ι} {results : List (String × Resolution ι)} :
    resolveVaultBulk db caller decrypt request = .ok results ↔
      ∃ ordered : Ordered ι, Scoped caller request ordered ∧ Unambiguous (named db ordered.searched) ∧
        List.Forall₂ (fun ref res => ref.1.reference = res.1 ∧
          resolveHits decrypt request.flags ref.1.reference (hits db ref.1 ref.2) = .ok res.2)
            ordered results.reverse := by
  rw [resolveVaultBulk, bind_eq_ok]
  refine exists_congr fun ordered => ?_
  rw [bulkOrder_ok]
  refine and_congr_right fun alone => ?_
  obtain ⟨ref, refs, references⟩ := exists_cons_of_ne_nil request.nonempty
  have hit : ∃ pair pairs, ordered = pair :: pairs ∧ pair.2 ≠ [] := by
    rw [Scoped, references] at alone
    cases alone with
    | cons first => exact ⟨_, _, rfl, (scopePrecedence_ok.mp first.2).2⟩
  have projects : ordered.flatMap (·.2.map (·.projectId)) ≠ [] := by
    obtain ⟨pair, pairs, rfl, some⟩ := hit
    simp [some]
  have asks : Ordered.references ordered ≠ [] := by
    obtain ⟨pair, pairs, rfl, -⟩ := hit
    simp [Ordered.references]
  have resolves : ∀ pair ∈ ordered, ∀ res, (do
      return (pair.1.reference, ← resolveExactVaultReferenceFromIndex decrypt request.flags (lastRow (asked db
        (Ordered.references ordered)
          (Ordered.searched ordered))) pair.2 pair.1.reference pair.1.vaultSlug pair.1.sectionName pair.1.field)) =
            .ok res ↔
      pair.1.reference = res.1 ∧
        resolveHits decrypt request.flags pair.1.reference (hits db pair.1 pair.2) = .ok res.2 := by
    intro pair mem res
    rw [bind_eq_ok, resolveExactVaultReferenceFromIndex, hits_asked db mem]
    constructor
    · rintro ⟨resolution, resolved, same⟩
      cases same
      exact ⟨rfl, resolved⟩
    · rintro ⟨same, resolved⟩
      exact ⟨_, resolved, congrArg Except.ok (Prod.ext same rfl)⟩
  rw [← bind_assoc, bind_eq_ok]
  constructor
  · rintro ⟨idx, built, rest⟩
    obtain ⟨sole, rfl⟩ := (exactIndex_ok projects asks).mp built
    obtain ⟨pairs, all, same⟩ := bind_eq_ok.mp rest
    cases same
    rw [reverse_reverse]
    exact ⟨sole, (forall₂_congr resolves).mp (mapM_eq_ok.mp all)⟩
  · rintro ⟨sole, all⟩
    refine ⟨_, (exactIndex_ok projects asks).mpr ⟨sole, rfl⟩, bind_eq_ok.mpr ⟨results.reverse, ?_, ?_⟩⟩
    · exact mapM_eq_ok.mpr ((forall₂_congr resolves).mpr all)
    · rw [reverse_reverse]
      rfl

lemma single_ok {upper : String → String} {request : VaultBulkResolveRequest ι}
    {ref : VaultReferenceResolveInput ι} {resolution : Resolution ι} :
    resolveVault db caller decrypt upper (ref.query request) = .ok (.resolved resolution) ↔
      ∃ es, scopePrecedence caller (ref.projectId.or request.projectId) request.agentId = .ok es ∧
        Unambiguous (named db (es.map fun e => (e.projectId, ref.vaultSlug))) ∧
        resolveHits decrypt request.flags (formatVaultReference ref.vaultSlug ref.sectionName ref.field)
          (hits db ref es) = .ok resolution := by
  have alone : resolveVault db caller decrypt upper (ref.query request) = (do
      let es ← scopePrecedence caller (ref.projectId.or request.projectId) request.agentId
      return .resolved (← resolveReference db decrypt (ref.query request) es)) := by
    simp [resolveVault, VaultReferenceResolveInput.query]
  rw [alone, bind_eq_ok]
  refine exists_congr fun es => and_congr_right fun scope => ?_
  have some : es.map (·.projectId) ≠ [] := by simp [(scopePrecedence_ok.mp scope).2]
  have asks : [(ref.vaultSlug, ref.sectionName, ref.field)] ≠ [] := by simp
  have own : es.map (fun e => (e, lastRow (asked db [(ref.vaultSlug, ref.sectionName, ref.field)]
      (es.map fun e => (e.projectId, ref.vaultSlug)))
        (e.projectId, ref.vaultSlug, ref.sectionName, ref.field))) = hits db ref es := by
    have single := hits_asked db (mem_cons_self (a := (ref, es)) (l := []))
    simpa [Ordered.references, Ordered.searched] using single
  have read : resolveReference db decrypt (ref.query request) es = (do
      let idx ← vaultItemRowsForExactReferences db (es.map (·.projectId))
        [(ref.vaultSlug, ref.sectionName, ref.field)] (es.map fun e => (e.projectId, ref.vaultSlug)) >>=
          vaultItemIndex
      resolveExactVaultReferenceFromIndex decrypt request.flags idx es
        (formatVaultReference ref.vaultSlug ref.sectionName ref.field) ref.vaultSlug ref.sectionName ref.field) := by
    simp [resolveReference, VaultReferenceResolveInput.query, ref.slugged, ref.fielded]
  rw [read]
  constructor
  · intro resolved
    obtain ⟨v, hit, same⟩ := bind_eq_ok.mp resolved
    cases same
    obtain ⟨idx, built, rest⟩ := bind_eq_ok.mp hit
    obtain ⟨sole, rfl⟩ := (exactIndex_ok some asks).mp built
    rw [resolveExactVaultReferenceFromIndex, own] at rest
    exact ⟨sole, rest⟩
  · rintro ⟨sole, resolved⟩
    refine bind_eq_ok.mpr ⟨resolution, bind_eq_ok.mpr ⟨_, (exactIndex_ok some asks).mpr ⟨sole, rfl⟩, ?_⟩, rfl⟩
    rw [resolveExactVaultReferenceFromIndex, own]
    exact resolved

section Precedence

def Hit.source (e : ProjectPrecedenceEntry ι) (row : Vault ι × VaultItem ι γ) : Source ι :=
  ⟨e, row.1.slug, row.2.sectionName, row.2.itemName⟩

/-- The entries after the winning one that hold another item. -/
def rivals (item : VaultItem ι γ) (later : List (Hit ι γ)) : List (Source ι) :=
  later.filterMap fun hit => hit.2.bind fun row => if row.2.id = item.id then none else some (Hit.source hit.1 row)

def trail (item : VaultItem ι γ) (hit : Hit ι γ) : EntryDebug ι :=
  match hit.2 with
  | none => ⟨hit.1, false, .notFound⟩
  | some row => ⟨hit.1, true, if row.2.id = item.id then .sameVault else .conflict⟩

lemma visit_later (preview : Bool) (item : VaultItem ι γ) (src : Source ι) (value : Option String)
    (later : List (Hit ι γ)) (seen : List (EntryDebug ι)) (conflicts : List (Source ι)) :
    later.foldlM (Search.visit decrypt preview) ⟨seen, some ⟨src, item.id, value⟩, conflicts⟩ =
      .ok ⟨seen ++ later.map (trail item), some ⟨src, item.id, value⟩, conflicts ++ rivals item later⟩ := by
  induction later generalizing seen conflicts with
  | nil => simp [rivals, pure, Except.pure]
  | cons hit later ih =>
    obtain ⟨e, _ | ⟨vault, item'⟩⟩ := hit
    · simp [foldlM_cons, Search.visit, bind, Except.bind, ih, trail, rivals]
    · by_cases same : item'.id = item.id <;>
        simp [foldlM_cons, Search.visit, bind, Except.bind, same, ih, trail, rivals, Hit.source]

lemma visit_earlier {preview : Bool} {pre : List (Hit ι γ)} (lost : ∀ hit ∈ pre, hit.2 = none)
    (seen : List (EntryDebug ι)) : pre.foldlM (Search.visit decrypt preview) ⟨seen, none, []⟩ =
      .ok ⟨seen ++ pre.map fun hit => ⟨hit.1, false, .notFound⟩, none, []⟩ := by
  induction pre generalizing seen with
  | nil => simp [pure, Except.pure]
  | cons hit pre ih =>
    obtain ⟨e, empty⟩ := hit
    obtain rfl : empty = none := lost _ (.head _)
    simp [foldlM_cons, Search.visit, bind, Except.bind, ih fun hit mem => lost hit (.tail _ mem)]

omit [DecidableEq ι] in
lemma first_hit (hits : List (Hit ι γ)) : (∀ hit ∈ hits, hit.2 = none) ∨
    ∃ pre e row later, hits = pre ++ (e, some row) :: later ∧ ∀ hit ∈ pre, hit.2 = none := by
  induction hits with
  | nil => exact .inl fun hit mem => nomatch mem
  | cons hit hits ih =>
    obtain ⟨e, _ | row⟩ := hit
    · obtain all | ⟨pre, e', row, later, rfl, lost⟩ := ih
      · exact .inl (forall_mem_cons.mpr ⟨rfl, all⟩)
      · exact .inr ⟨(e, none) :: pre, e', row, later, rfl, forall_mem_cons.mpr ⟨rfl, lost⟩⟩
    · exact .inr ⟨[], e, row, hits, rfl, fun hit mem => nomatch mem⟩

variable {flags : Flags} {label : String} {pre later : List (Hit ι γ)} {e : ProjectPrecedenceEntry ι}
  {row : Vault ι × VaultItem ι γ} {resolution : Resolution ι}

/-- The answer where the row of `e` is the first hit. -/
def Answers (decrypt : γ → Option String) (flags : Flags) (label : String) (pre : List (Hit ι γ))
    (e : ProjectPrecedenceEntry ι) (row : Vault ι × VaultItem ι γ) (later : List (Hit ι γ))
    (resolution : Resolution ι) : Prop :=
  (flags.preview ∨ (decrypt row.2.encryptedValue).isSome) ∧ (flags.allowConflicts ∨ rivals row.2 later = []) ∧
    resolution = ⟨label, Hit.source e row, if flags.preview then none else decrypt row.2.encryptedValue,
      if flags.debug then some (pre.map (fun hit => ⟨hit.1, false, .notFound⟩) ++
        ⟨e, true, .hit⟩ :: later.map (trail row.2)) else none, rivals row.2 later⟩

lemma resolveHits_answers (lost : ∀ hit ∈ pre, hit.2 = none) :
    resolveHits decrypt flags label (pre ++ (e, some row) :: later) = .ok resolution ↔
      Answers decrypt flags label pre e row later resolution := by
  obtain ⟨vault, item⟩ := row
  have first : ∀ seen, Search.visit decrypt flags.preview ⟨seen, none, []⟩ (e, some (vault, item)) =
      if flags.preview ∨ (decrypt item.encryptedValue).isSome then
        .ok ⟨seen ++ [⟨e, true, .hit⟩], some ⟨Hit.source e (vault, item), item.id,
          if flags.preview then none else decrypt item.encryptedValue⟩, []⟩
      else .error .undecryptable := fun seen => by
    cases flags.preview <;> cases value : decrypt item.encryptedValue <;> simp [Search.visit, Hit.source, value]
  simp only [Answers, resolveHits, foldlM_append, visit_earlier lost, foldlM_cons, bind, Except.bind, first]
  by_cases readable : flags.preview ∨ (decrypt item.encryptedValue).isSome
  · simp only [readable, if_true, visit_later, nil_append, append_assoc, singleton_append, true_and]
    by_cases clear : flags.allowConflicts ∨ rivals item later = []
    · have passes : ¬(rivals item later ≠ [] ∧ ¬flags.allowConflicts) := by tauto
      rw [if_neg passes, pure_eq_ok, and_iff_right clear, eq_comm]
    · have blocked : rivals item later ≠ [] ∧ ¬flags.allowConflicts := by tauto
      simp [blocked, throw, throwThe, MonadExceptOf.throw]
  · simp [readable]

/-- A reference resolves exactly to the first entry of the scope that holds it, or is refused as ambiguous. -/
theorem reference_precedence {upper : String → String} {request : VaultBulkResolveRequest ι}
    {ref : VaultReferenceResolveInput ι} :
    resolveVault db caller decrypt upper (ref.query request) = .ok (.resolved resolution) ↔ ∃ es pre e row later,
        scopePrecedence caller (ref.projectId.or request.projectId) request.agentId = .ok es ∧
        Unambiguous (named db (es.map fun e => (e.projectId, ref.vaultSlug))) ∧
        hits db ref es = pre ++ (e, some row) :: later ∧ (∀ hit ∈ pre, hit.2 = none) ∧
        Answers decrypt request.flags (formatVaultReference ref.vaultSlug ref.sectionName ref.field)
          pre e row later resolution := by
  rw [single_ok]
  constructor
  · rintro ⟨es, scope, sole, resolved⟩
    obtain all | ⟨pre, e, row, later, is, lost⟩ := first_hit (hits db ref es)
    · simp [resolveHits, visit_earlier all, bind, Except.bind, throw, throwThe, MonadExceptOf.throw] at resolved
    · exact ⟨es, pre, e, row, later, scope, sole, is, lost, (resolveHits_answers lost).mp (is ▸ resolved)⟩
  · rintro ⟨es, pre, e, row, later, scope, sole, is, lost, answers⟩
    exact ⟨es, scope, sole, is ▸ (resolveHits_answers lost).mpr answers⟩

end Precedence

section Lists

omit [DecidableEq ι]

variable {α β : Type} {l : List α} {u : List β} {related : α → β → Prop}

lemma forall₂_left (all : List.Forall₂ related l u) : ∀ a ∈ l, ∃ b ∈ u, related a b := by
  induction all with
  | nil => exact nofun
  | cons first rest again =>
    intro a mem
    rcases mem_cons.mp mem with rfl | mem
    · exact ⟨_, mem_cons_self, first⟩
    · obtain ⟨b, mem', here⟩ := again a mem
      exact ⟨b, mem_cons_of_mem _ mem', here⟩

lemma lookup_of_mem {l : List (String × α)} {name : String} {a : α} (distinct : (l.map Prod.fst).Nodup)
    (mem : (name, a) ∈ l) : l.lookup name = some a := by
  induction l with
  | nil => cases mem
  | cons pair l again =>
    obtain ⟨fresh, rest⟩ := nodup_cons.mp distinct
    rcases mem_cons.mp mem with rfl | mem
    · exact lookup_cons_self
    · have apart : name ≠ pair.1 := fun same => fresh (same ▸ mem_map_of_mem mem)
      rw [lookup_cons, beq_false_of_ne apart]
      exact again rest mem

end Lists

lemma Unambiguous.named {searched alt : List (ι × String)} (sole : Unambiguous (named db searched))
    (within : ∀ space ∈ alt, space ∈ searched) : Unambiguous (named db alt) := by
  have inside : ∀ row ∈ Resolve.named db alt, row ∈ Resolve.named db searched := by
    intro row mem
    obtain ⟨mem, asked⟩ := mem_filter.mp mem
    exact mem_filter.mpr ⟨mem, decide_eq_true (within _ (of_decide_eq_true asked))⟩
  exact fun one mem row mem' => sole one (inside one mem) row (inside row mem')

/-- A bulk request resolves exactly when each of its references does alone, and each to the same. -/
theorem bulk_agrees (upper : String → String) (request : VaultBulkResolveRequest ι)
    (distinct : (request.references.map (·.reference)).Nodup) :
    ((∃ results, resolveVaultBulk db caller decrypt request = .ok results) ↔ ∀ ref ∈ request.references,
      ∃ resolution, resolveVault db caller decrypt upper (ref.query request) = .ok (.resolved resolution)) ∧
    ∀ results, resolveVaultBulk db caller decrypt request = .ok results → ∀ ref ∈ request.references,
      ∃ resolution, resolveVault db caller decrypt upper (ref.query request) = .ok (.resolved resolution) ∧
        results.lookup ref.reference = some { resolution with label := ref.reference } := by
  have each : ∀ results, resolveVaultBulk db caller decrypt request = .ok results → ∀ ref ∈ request.references,
      ∃ resolution, resolveVault db caller decrypt upper (ref.query request) = .ok (.resolved resolution) ∧
        results.lookup ref.reference = some { resolution with label := ref.reference } := by
    intro results bulk ref mem
    obtain ⟨ordered, alone, sole, all⟩ := bulk_ok.mp bulk
    obtain ⟨pair, mem', rfl, scope⟩ := forall₂_left alone ref mem
    obtain ⟨res, known, named, resolved⟩ := forall₂_left all pair mem'
    have within : ∀ space ∈ pair.2.map (fun e => (e.projectId, pair.1.vaultSlug)), space ∈ ordered.searched :=
      fun space here => mem_flatMap.mpr ⟨pair, mem', here⟩
    refine ⟨_, single_ok.mpr ⟨pair.2, scope, sole.named within, resolveHits_relabel _ resolved⟩, ?_⟩
    have labelled := Except.ok.inj (resolved.symm.trans (resolveHits_relabel pair.1.reference resolved))
    have names : results.reverse.map Prod.fst = request.references.map (·.reference) := by
      have first : request.references = ordered.map Prod.fst := by
        refine forall₂_eq_eq_eq ▸ (forall₂_map_right_iff.mpr (alone.imp fun _ _ both => both.1.symm))
      have snd : ordered.map (·.1.reference) = results.reverse.map Prod.fst := by
        refine forall₂_eq_eq_eq ▸ (forall₂_map_left_iff.mpr
          (forall₂_map_right_iff.mpr (all.imp fun _ _ both => both.1)))
      rw [← snd, first, map_map]
      rfl
    have once : (results.map Prod.fst).Nodup := by
      rw [← nodup_reverse, ← map_reverse, names]
      exact distinct
    rw [lookup_of_mem once (named ▸ mem_reverse.mp known : (pair.1.reference, res.2) ∈ results)]
    exact congrArg some labelled
  refine ⟨⟨fun ⟨results, bulk⟩ ref mem => ?_, fun all => ?_⟩, each⟩
  · obtain ⟨resolution, resolved, -⟩ := each results bulk ref mem
    exact ⟨resolution, resolved⟩
  · have scopes : ∀ ref ∈ request.references, ∃ pair : VaultReferenceResolveInput ι × Precedence ι, pair.1 = ref ∧
          scopePrecedence caller (ref.projectId.or request.projectId) request.agentId = .ok pair.2 := by
      intro ref mem
      obtain ⟨resolution, resolved⟩ := all ref mem
      obtain ⟨es, scope, -⟩ := single_ok.mp resolved
      exact ⟨(ref, es), rfl, scope⟩
    obtain ⟨ordered, alone⟩ := exists_forall₂ scopes
    have singles : ∀ pair ∈ ordered, Unambiguous (named db (pair.2.map fun e => (e.projectId, pair.1.vaultSlug))) ∧
          ∃ resolution, resolveHits decrypt request.flags pair.1.reference (hits db pair.1 pair.2) =
            .ok resolution := by
      intro pair mem
      obtain ⟨ref, mem', rfl, scope⟩ := forall₂_left alone.flip pair mem
      obtain ⟨resolution, resolved⟩ := all _ mem'
      obtain ⟨es, scope', sole, hit⟩ := single_ok.mp resolved
      cases scope.symm.trans scope'
      exact ⟨sole, _, resolveHits_relabel _ hit⟩
    have sole : Unambiguous (named db (Ordered.searched ordered)) := by
      intro one mem alt mem' same slugged
      obtain ⟨was, asked⟩ := mem_filter.mp mem
      obtain ⟨pair, here, space⟩ := mem_flatMap.mp (of_decide_eq_true asked)
      have space' : (alt.1, alt.2.1) ∈ pair.2.map fun e => (e.projectId, pair.1.vaultSlug) := by
        rwa [← same, ← slugged]
      exact (singles pair here).1 one (mem_filter.mpr ⟨was, decide_eq_true space⟩) alt
        (mem_filter.mpr ⟨(mem_filter.mp mem').1, decide_eq_true space'⟩) same slugged
    have answers : ∀ pair ∈ ordered, ∃ res : String × Resolution ι, pair.1.reference = res.1 ∧
        resolveHits decrypt request.flags pair.1.reference (hits db pair.1 pair.2) = .ok res.2 := by
      intro pair mem
      obtain ⟨resolution, resolved⟩ := (singles pair mem).2
      exact ⟨(pair.1.reference, resolution), rfl, resolved⟩
    obtain ⟨pairs, hit⟩ := exists_forall₂ answers
    exact ⟨pairs.reverse, bulk_ok.mpr ⟨ordered, alone, sole, by rwa [reverse_reverse]⟩⟩

namespace Sample

def request : VaultBulkResolveRequest String where
  references :=
    [⟨"clawdi://deploy/Token", "deploy", "", "Token", none, by decide, by decide⟩,
      ⟨"clawdi://deploy/TOKEN", "deploy", "", "TOKEN", some "project", by decide, by decide⟩]
  projectId := none
  agentId := none
  flags := {}
  nonempty := cons_ne_nil _ _

end Sample

theorem bulk_agrees_sample :
    ∃ results, resolveVaultBulk Sample.database Sample.user some Sample.request = .ok results := by
  refine (bulk_agrees Sample.uppercase Sample.request (by decide)).1.mpr fun ref mem => ?_
  rcases mem_cons.mp mem with rfl | mem
  · exact ⟨_, rfl⟩
  · rw [mem_singleton.mp mem]
    exact ⟨_, rfl⟩

end Clawdi.Resolve
