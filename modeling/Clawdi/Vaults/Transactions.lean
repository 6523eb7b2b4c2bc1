import Clawdi.Vaults.Requests

namespace Clawdi.Vaults
open List Option Function
variable {β γ : Type} {c : Crypto β γ} {v middle after : Vault β γ} {row : VaultSecretRequest γ}

structure Touches (sect : Name) (names : List Name) (v after : Vault β γ) : Prop where
  items : ∀ s field, (s = sect → field ∉ names) → after.items s field = v.items s field
  writes : ∀ s field, (s = sect → field ∉ names) → after.writes s field = v.writes s field
  requests : after.requests = v.requests
  nextRequest : after.nextRequest = v.nextRequest
  now : after.now = v.now

namespace Touches
variable {sect : Name} {names : List Name}

lemma refl : Touches sect names v v := ⟨fun _ _ _ => rfl, fun _ _ _ => rfl, rfl, rfl, rfl⟩

lemma trans (first : Touches sect names v middle)
    (snd : Touches sect names middle after) : Touches sect names v after := by
  constructor
  · intro s field alt
    rw [snd.items s field alt, first.items s field alt]
  · intro s field alt
    rw [snd.writes s field alt, first.writes s field alt]
  · exact snd.requests.trans first.requests
  · exact snd.nextRequest.trans first.nextRequest
  · exact snd.now.trans first.now

lemma setField {field} (named : field ∈ names) (item : Option (VaultItem β)) :
    Touches sect names v (v.setField sect field item) := by
  have elsewhere : ∀ {α : Type} (columns : Name → Name → α) (value : α) (s alt : Name),
      (s = sect → alt ∉ names) → Function.update columns sect
          (Function.update (columns sect) field value) s alt = columns s alt := by
    intro α columns value s alt unnamed
    by_cases here : s = sect
    · subst here
      rw [update_self, update_of_ne]
      intro same
      exact unnamed rfl (same ▸ named)
    · rw [update_of_ne here]
  exact ⟨elsewhere v.items item, elsewhere v.writes _, rfl, rfl, rfl⟩

lemma write {field} (named : field ∈ names) (plain : String) :
    Touches sect names v (v.write c sect field plain) := by
  exact ⟨(setField named _).items, (setField named none).writes, rfl, rfl, rfl⟩

lemma writeAll {fields} (named : ∀ field ∈ fields, field.1 ∈ names) :
    Touches sect names v (v.writeAll c sect fields) := by
  induction fields generalizing v with
  | nil => exact refl
  | cons field fields ih =>
    have first : Touches sect names v (v.write c sect field.1 field.2) := write (named field mem_cons_self) field.2
    exact first.trans (ih fun alt mem => named alt (mem_cons_of_mem _ mem))

lemma removeAll {fields} (named : ∀ field ∈ fields, field ∈ names) :
    Touches sect names v (v.removeAll sect fields) := by
  induction fields generalizing v with
  | nil => exact refl
  | cons field fields ih =>
    have first : Touches sect names v (v.setField sect field none) := setField (named field mem_cons_self) none
    exact first.trans (ih fun alt mem => named alt (mem_cons_of_mem _ mem))

end Touches

lemma pending_earlier {now later : ℕ} (pend : row.pending later = true) (order : now ≤ later) :
    row.pending now = true := by
  unfold VaultSecretRequest.pending at pend ⊢
  rw [Bool.and_eq_true, decide_eq_true_eq] at pend ⊢
  exact ⟨pend.1, by omega⟩

structure Closes (close : VaultSecretRequest γ → VaultSecretRequest γ) (now later : ℕ) : Prop where
  order : now ≤ later
  terms : ∀ row, (close row).terms = row.terms
  supplied : ∀ row, row.suppliedAt ≠ none → (close row).suppliedAt ≠ none
  pending : ∀ row, (close row).pending later = true → close row = row

structure Closing (close : VaultSecretRequest γ → VaultSecretRequest γ) (v after : Vault β γ) :
    Prop where
  closes : Closes close v.now after.now
  requests : ∀ row, row ∈ after.requests ↔ ∃ pre ∈ v.requests, close pre = row
  nextRequest : after.nextRequest = v.nextRequest
  kept : ∀ row ∈ v.requests, (close row).pending after.now = true → ∀ field ∈ row.fields,
    after.items row.sectionName field = v.items row.sectionName field ∧
      after.writes row.sectionName field = v.writes row.sectionName field

/-- Pending requests share no field, and their fields are as they were when they were created. -/
structure Sound (c : Crypto β γ) (v : Vault β γ) : Prop where
  numbered : ∀ row ∈ v.requests, row.id < v.nextRequest
  tokens : ∀ row ∈ v.requests, ∀ alt ∈ v.requests, row.tokenHash = alt.tokenHash → row = alt
  reserved : ∀ row ∈ v.requests, ∀ alt ∈ v.requests,
    row.pending v.now = true → alt.pending v.now = true → row.sectionName = alt.sectionName →
      ∀ field ∈ row.fields, field ∈ alt.fields → row = alt
  current : ∀ row ∈ v.requests, row.pending v.now = true → ∀ field ∈ row.fields,
    row.fieldBaselines field = some (fieldBaseline c (v.items row.sectionName field))

/-- A request keeps its terms, and while it is pending nobody has written its fields. -/
structure Later (v after : Vault β γ) : Prop where
  now : v.now ≤ after.now
  rows : ∀ row ∈ v.requests, ∃ later ∈ after.requests, later.terms = row.terms ∧
    (row.suppliedAt ≠ none → later.suppliedAt ≠ none) ∧
    (later.pending after.now = true → later = row ∧ row.pending v.now = true ∧ ∀ field ∈ row.fields,
        after.writes row.sectionName field = v.writes row.sectionName field)

variable {first : VaultSecretRequest γ} (moment : ℕ) {fields : List Name} {snd : VaultSecretRequest γ}

lemma terms_id (same : first.terms = snd.terms) : first.id = snd.id := congrArg Prod.fst same

lemma terms_tokenHash (same : first.terms = snd.terms) :
    first.tokenHash = snd.tokenHash := congrArg (fun terms => terms.2.1) same

lemma terms_fields (same : first.terms = snd.terms) :
    first.fields = snd.fields := congrArg (fun terms => terms.2.2.2.1) same

namespace Later

lemma refl : Later v v := ⟨le_rfl, fun row mem => ⟨row, mem, rfl, id, fun pend => ⟨rfl, pend, fun _ _ => rfl⟩⟩⟩

lemma trans (first : Later v middle) (snd : Later middle after) : Later v after := by
  refine ⟨first.now.trans snd.now, ?_⟩
  intro row mem
  obtain ⟨between, there, same, supplied, pend⟩ := first.rows row mem
  obtain ⟨last, there', sameLast, suppliedLast, pendingLast⟩ := snd.rows between there
  refine ⟨last, there', sameLast.trans same, fun gone => suppliedLast (supplied gone), ?_⟩
  intro stillPending
  obtain ⟨lastSame, pre, unwritten⟩ := pendingLast stillPending
  obtain ⟨same, start, untouched⟩ := pend pre
  refine ⟨lastSame.trans same, start, ?_⟩
  intro field named
  rw [← same] at named
  rw [← same, unwritten field named, same]
  exact untouched field (same ▸ named)

end Later

namespace Closing
variable {close : VaultSecretRequest γ → VaultSecretRequest γ}

lemma later (closing : Closing close v after) : Later v after := by
  refine ⟨closing.closes.order, ?_⟩
  intro row mem
  refine ⟨close row, (closing.requests _).mpr ⟨row, mem, rfl⟩, closing.closes.terms row,
    closing.closes.supplied row, ?_⟩
  intro pend
  have unchanged := closing.closes.pending row pend
  refine ⟨unchanged, ?_, fun field named => (closing.kept row mem pend field named).2⟩
  rw [unchanged] at pend
  exact pending_earlier pend closing.closes.order

lemma sound (closing : Closing close v after) (inv : Sound c v) : Sound c after := by
  constructor
  · intro row mem
    obtain ⟨pre, there, rfl⟩ := (closing.requests row).mp mem
    rw [closing.nextRequest, terms_id (closing.closes.terms pre)]
    exact inv.numbered pre there
  · intro row mem alt theirs same
    obtain ⟨pre, there, rfl⟩ := (closing.requests row).mp mem
    obtain ⟨former, here, rfl⟩ := (closing.requests alt).mp theirs
    rw [terms_tokenHash (closing.closes.terms pre), terms_tokenHash (closing.closes.terms former)] at same
    rw [inv.tokens pre there former here same]
  · intro row mem alt theirs pend alsoPending
    obtain ⟨pre, there, rfl⟩ := (closing.requests row).mp mem
    obtain ⟨former, here, rfl⟩ := (closing.requests alt).mp theirs
    have unchanged := closing.closes.pending pre pend
    have alsoUnchanged := closing.closes.pending former alsoPending
    rw [unchanged] at pend ⊢
    rw [alsoUnchanged] at alsoPending ⊢
    exact inv.reserved pre there former here (pending_earlier pend closing.closes.order)
      (pending_earlier alsoPending closing.closes.order)
  · intro row mem pend field named
    obtain ⟨pre, there, rfl⟩ := (closing.requests row).mp mem
    rw [terms_fields (closing.closes.terms pre)] at named
    have kept := closing.kept pre there pend field named
    have unchanged := closing.closes.pending pre pend
    rw [unchanged] at pend ⊢
    rw [kept.1]
    exact inv.current pre there (pending_earlier pend closing.closes.order) field named

end Closing

variable {β γ : Type} {c : Crypto β γ} {v middle after : Vault β γ}
  {row : VaultSecretRequest γ} {sect : Name} {names : List Name}

variable {body : Supply} {later now : ℕ}

lemma not_pending_of_supplied (supplied : row.suppliedAt ≠ none) : row.pending now = false := by
  unfold VaultSecretRequest.pending
  cases at_ : row.suppliedAt with
  | none => exact absurd at_ supplied
  | some moment => rfl

lemma not_pending_retire (now : ℕ) : (row.retire moment).pending now = false := by
  unfold VaultSecretRequest.pending VaultSecretRequest.retire
  rw [Option.isNone_some, Bool.and_false, Bool.false_and]

lemma closes_id (order : now ≤ later) : Closes (id : VaultSecretRequest γ → VaultSecretRequest γ) now later :=
  ⟨order, fun _ => rfl, fun _ supplied => supplied, fun _ _ => rfl⟩

lemma closes_fence (moment now : ℕ) : Closes (VaultSecretRequest.fence (γ := γ) sect names moment) now now := by
  refine ⟨le_rfl, ?_, ?_, ?_⟩
  all_goals
    intro row
    unfold VaultSecretRequest.fence
    split
  · rfl
  · rfl
  · exact id
  · exact id
  · intro pend
    rw [not_pending_retire] at pend
    cases pend
  · exact fun _ => rfl

lemma closes_succeed (order : now ≤ later) (queried moment : ℕ) :
    Closes (VaultSecretRequest.succeed (γ := γ) sect names queried moment) now later := by
  refine ⟨order, ?_, ?_, ?_⟩
  all_goals
    intro row
    unfold VaultSecretRequest.succeed
    split
  · rfl
  · rfl
  · exact id
  · exact id
  · intro pend
    rw [not_pending_retire] at pend
    cases pend
  · exact fun _ => rfl

lemma closes_consume (order : now ≤ later) (id moment : ℕ) :
    Closes (VaultSecretRequest.consume (γ := γ) id names moment) now later := by
  refine ⟨order, ?_, ?_, ?_⟩
  all_goals
    intro row
    unfold VaultSecretRequest.consume
    split
  · rfl
  · rfl
  · exact fun _ => some_ne_none _
  · exact fun supplied => supplied
  · intro pend
    cases pend
  · exact fun _ => rfl

lemma fenced (touches : Touches sect names v middle) : Closing (VaultSecretRequest.fence sect names middle.now) v
      ((middle.conflictVaultRequests sect names).notifyVaultChanged) := by
  refine ⟨?_, ?_, touches.nextRequest, ?_⟩
  · show Closes _ v.now middle.now
    rw [touches.now]
    exact closes_fence _ _
  · intro row
    rw [← touches.requests]
    exact @Table.mem_update _ _ _ middle.requests _ (VaultSecretRequest.id_fence sect names middle.now) row
  · intro row mem pend field named
    have unnamed : row.sectionName = sect → field ∉ names := by
      intro here touched
      have closes : Closes (VaultSecretRequest.fence (γ := γ) sect names middle.now)
          middle.now middle.now := closes_fence middle.now middle.now
      have unchanged := closes.pending row pend
      have overlaps : row.overlaps sect names = true := by
        unfold VaultSecretRequest.overlaps
        rw [decide_eq_true_eq]
        exact ⟨here, field, touched, named⟩
      have waits : row.pending middle.now = true := unchanged ▸ pend
      unfold VaultSecretRequest.pending at waits
      rw [Bool.and_eq_true] at waits
      unfold VaultSecretRequest.fence at pend
      rw [waits.1, overlaps, Bool.and_true, if_pos rfl, not_pending_retire] at pend
      cases pend
    exact ⟨touches.items _ _ unnamed, touches.writes _ _ unnamed⟩

lemma Closing.unchanged : Closing id v v :=
  ⟨closes_id le_rfl, fun row => by simp, rfl, fun _ _ _ _ _ => ⟨rfl, rfl⟩⟩

lemma Closing.wait (duration : ℕ) : Closing id v { v with now := v.now + duration } :=
  ⟨closes_id (Nat.le_add_right _ _), fun row => by simp, rfl, fun _ _ _ _ _ => ⟨rfl, rfl⟩⟩

lemma upsert_closing (fields : List (Name × String)) :
    ∃ close, Closing close v (v.upsertOwnedVaultItems c sect fields) := by
  have touches : Touches sect (fields.map Prod.fst) v
      (v.writeAll c sect fields) :=
    Touches.writeAll fun field mem => mem_map_of_mem mem
  exact ⟨_, fenced touches⟩

lemma delete_closing {globalDelete} {projectCount : ℕ}
    (done : v.deleteOwnedVaultItems sect fields globalDelete projectCount = some after) :
    ∃ close, Closing close v after := by
  unfold Vault.deleteOwnedVaultItems at done
  dsimp only at done
  split_ifs at done
  · cases done
    exact ⟨id, Closing.unchanged⟩
  · cases done
    exact ⟨_, fenced (Touches.removeAll fun _ mem => mem)⟩

lemma copy_closing {src : Name → Option (VaultItem β)} {stripPrefix}
    (done : v.copyVaultItems c src sect fields stripPrefix = some after) : ∃ close, Closing close v after := by
  unfold Vault.copyVaultItems at done
  rw [map_eq_some_iff] at done
  obtain ⟨copied, -, rfl⟩ := done
  split_ifs
  · exact ⟨id, Closing.unchanged⟩
  · exact ⟨_, fenced (Touches.writeAll fun field mem => mem_map_of_mem mem)⟩

variable [DecidableEq γ]

lemma Sound.no_conflict (inv : Sound c v) (mem : row ∈ v.requests)
    (pend : row.pending v.now = true) : fieldsConflict c row (v.items row.sectionName) = false := by
  have cur := inv.current row mem pend
  unfold VaultSecretRequest.pending at pend
  rw [Bool.and_eq_true, Bool.and_eq_true] at pend
  unfold fieldsConflict
  rw [Bool.or_eq_false_iff, Bool.or_eq_false_iff, Bool.not_eq_false',
    Option.isNone_iff_eq_none.mp pend.1.2, List.all_eq_true]
  refine ⟨⟨rfl, ?_⟩, ?_⟩
  · intro field named
    rw [cur field named]
    rfl
  · rw [List.any_eq_false]
    intro field named
    unfold VaultSecretRequest.baseline
    rw [cur field named]
    simp

lemma tokenRequest_eq {token} (hit : v.tokenRequest c token = some row) :
    row ∈ v.requests ∧ row.tokenHash = c.tokenDigest token ∧ row.pending v.now = true := by
  unfold Vault.tokenRequest at hit
  rw [filter_eq_some_iff] at hit
  refine ⟨mem_of_find?_eq_some hit.1, ?_, hit.2⟩
  simpa using List.find?_some hit.1

structure Supplied (c : Crypto β γ) (v : Vault β γ) (body : Supply)
    (row : VaultSecretRequest γ) : Prop where
  token : v.tokenRequest c body.token = some row
  unexpired : body.describedAt v.now < row.expiresAt
  complete : ∀ field ∈ row.fields, field ∈ body.names
  selected : v.checkSelection c row body.names (body.selectedAt v.now) = true

def supplied (c : Crypto β γ) (v : Vault β γ) (body : Supply) (row : VaultSecretRequest γ) : Vault β γ :=
  let wrote := (v.writeAll c row.sectionName body.fields).notifyVaultChanged
  { wrote with
    requests := wrote.requests.update (VaultSecretRequest.consume row.id body.names (body.suppliedAt v.now))
      (VaultSecretRequest.id_supplied v body row)
    now := body.suppliedAt v.now }

lemma supply_eq (done : v.supply c body = some after) :
    ∃ row, Supplied c v body row ∧ after = supplied c v body row := by
  unfold Vault.supply at done
  cases hit : v.tokenRequest c body.token with
  | none =>
    rw [hit] at done
    cases done
  | some row =>
    rw [hit] at done
    dsimp only at done
    split_ifs at done with ended incomplete refused
    rw [not_or, not_le] at ended
    refine ⟨row, ⟨hit, ended.1, incomplete, by simpa using refused⟩, ?_⟩
    exact (Option.some.inj done).symm

lemma Supplied.others (supplied : Supplied c v body row) (inv : Sound c v)
    {alt} (mem : alt ∈ v.requests) (ne : alt.id ≠ row.id) (pend : alt.pending (body.selectedAt v.now) = true)
    (here : alt.sectionName = row.sectionName) {field} (named : field ∈ alt.fields) : field ∉ body.names := by
  obtain ⟨mine, -, open'⟩ := tokenRequest_eq supplied.token
  have waits : alt.pending v.now = true := by
    apply pending_earlier pend
    unfold Supply.selectedAt Supply.describedAt
    omega
  intro chosen
  by_cases own : field ∈ row.fields
  · have same := inv.reserved alt mem row mine waits open' here field named own
    exact ne (congrArg VaultSecretRequest.id same)
  · have sel := supplied.selected
    unfold Vault.checkSelection at sel
    rw [Bool.and_eq_true, Bool.and_eq_true, List.all_eq_true] at sel
    have free := List.all_eq_true.mp sel.2 alt mem
    have overlaps : alt.overlaps row.sectionName
        (body.names.filter fun name => name ∉ row.fields) = true := by
      unfold VaultSecretRequest.overlaps
      rw [decide_eq_true_eq]
      exact ⟨here, field, by simp [chosen, own], named⟩
    have calm := inv.no_conflict mem waits
    rw [here] at calm
    rw [overlaps, calm, pend] at free
    simp [ne] at free

lemma supplied_closing (valid : Supplied c v body row) (inv : Sound c v) :
    Closing (VaultSecretRequest.consume row.id body.names (body.suppliedAt v.now)) v (supplied c v body row) := by
  have touches : Touches row.sectionName body.names v
      (v.writeAll c row.sectionName body.fields) :=
    Touches.writeAll fun field mem => mem_map_of_mem mem
  have order : v.now ≤ body.suppliedAt v.now := by
    unfold Supply.suppliedAt Supply.selectedAt Supply.describedAt
    omega
  have selection : body.selectedAt v.now ≤ body.suppliedAt v.now := by
    unfold Supply.suppliedAt
    omega
  refine ⟨closes_consume order _ _, ?_, touches.nextRequest, ?_⟩
  · intro alt
    rw [← touches.requests]
    exact @Table.mem_update _ _ _ (v.writeAll c row.sectionName body.fields).requests _
      (VaultSecretRequest.id_supplied v body row) alt
  · intro alt mem pend field named
    have unchanged := (closes_consume order row.id (body.suppliedAt v.now)).pending alt pend
    have ne : alt.id ≠ row.id := by
      intro same
      unfold VaultSecretRequest.consume at pend
      rw [if_pos same, not_pending_of_supplied (some_ne_none _)] at pend
      cases pend
    rw [unchanged] at pend
    have unnamed : alt.sectionName = row.sectionName → field ∉ body.names := fun here =>
      valid.others inv mem ne (pending_earlier pend selection) here named
    exact ⟨touches.items _ _ unnamed, touches.writes _ _ unnamed⟩

end Clawdi.Vaults
