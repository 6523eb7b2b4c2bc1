import Clawdi.Lib.Transition
import Clawdi.Vaults.Transactions
import Mathlib.Data.List.Dedup

namespace Clawdi.Vaults
open Transition List Table
variable {β γ : Type} [DecidableEq γ] {c : Crypto β γ} {v after : Vault β γ}

structure Created (c : Crypto β γ) (v : Vault β γ) (body : Creation) (middle after : Vault β γ) :
    Prop where
  closing : ∃ close, Closing close v middle
  fresh : ∀ row ∈ v.requests, row.tokenHash ≠ c.tokenDigest body.token
  free : ∀ row ∈ v.requests, row.pending v.now = true → row.overlaps body.sectionName body.fields = true →
      fieldsConflict c row (v.items row.sectionName) = true
  requests : after.requests = middle.requests.put (v.requestOf c body)
  nextRequest : after.nextRequest = v.nextRequest + 1
  now : after.now = middle.now
  items : after.items = v.items
  writes : after.writes = v.writes
  middleWrites : middle.writes = v.writes

lemma createRequest_eq {body} (done : v.createRequest c body = some after) :
    ∃ middle, Created c v body middle after := by
  unfold Vault.createRequest at done
  dsimp only at done
  split_ifs at done with refused
  obtain rfl := Option.some.inj done
  rw [Bool.or_eq_true, not_or, Bool.not_eq_true, Bool.not_eq_true, List.any_eq_false, List.any_eq_false] at refused
  have order : v.now ≤ v.now + body.delays.1 + body.delays.2 := by omega
  have closes : Closes (VaultSecretRequest.succeed (γ := γ) body.sectionName body.fields v.now
      (v.now + body.delays.1)) v.now (v.now + body.delays.1 + body.delays.2) :=
    closes_succeed order _ _
  refine ⟨{ v with
    requests := v.requests.update
      (VaultSecretRequest.succeed body.sectionName body.fields v.now (v.now + body.delays.1))
      (VaultSecretRequest.id_succeed _ _ _ _)
    now := v.now + body.delays.1 + body.delays.2 }, ?_, ?_, ?_, rfl, rfl, rfl, rfl, rfl, rfl⟩
  · refine ⟨_, closes, fun row => ?_, rfl, fun _ _ _ _ _ => ⟨rfl, rfl⟩⟩
    exact @mem_update _ _ _ v.requests _ (VaultSecretRequest.id_succeed body.sectionName
      body.fields v.now (v.now + body.delays.1)) row
  · intro row mem same
    exact refused.2 row mem (by simpa using same)
  · intro row mem pend overlaps
    have here : row.sectionName = body.sectionName := by
      unfold VaultSecretRequest.overlaps at overlaps
      rw [decide_eq_true_eq] at overlaps
      exact overlaps.1
    have free := refused.1 row mem
    rw [pend, overlaps] at free
    rw [here]
    simpa using free

namespace Created
variable {body : Creation} {middle : Vault β γ}
section
variable (created : Created c v body middle after)
include created

variable {row : VaultSecretRequest γ}

lemma numbered (inv : Sound c v) (mem : row ∈ middle.requests) : row.id ≠ (v.requestOf c body).id := by
  obtain ⟨close, closing⟩ := created.closing
  have below := (closing.sound inv).numbered row mem
  rw [closing.nextRequest] at below
  exact Nat.ne_of_lt below

lemma later (inv : Sound c v) : Later v after := by
  obtain ⟨close, closing⟩ := created.closing
  apply closing.later.trans
  refine ⟨created.now.ge, ?_⟩
  intro row mem
  refine ⟨row, ?_, rfl, id, ?_⟩
  · rw [created.requests, mem_put]
    exact .inr ⟨mem, created.numbered inv mem⟩
  · intro pend
    rw [created.now] at pend
    refine ⟨rfl, pend, fun field _ => ?_⟩
    rw [created.writes, created.middleWrites]

lemma apart (inv : Sound c v) (mem : row ∈ middle.requests)
    (pend : row.pending middle.now = true) (here : row.sectionName = body.sectionName)
    {field} (named : field ∈ row.fields) : field ∉ body.fields := by
  obtain ⟨close, closing⟩ := created.closing
  obtain ⟨pre, there, rfl⟩ := (closing.requests row).mp mem
  rw [closing.closes.pending pre pend] at here named
  have unchanged := closing.closes.pending pre pend
  rw [unchanged] at pend
  have waiting := pending_earlier pend closing.closes.order
  intro requested
  have overlaps : pre.overlaps body.sectionName body.fields = true := by
    unfold VaultSecretRequest.overlaps
    rw [decide_eq_true_eq]
    exact ⟨here, field, requested, named⟩
  have conflict := created.free pre there waiting overlaps
  rw [inv.no_conflict there waiting] at conflict
  cases conflict

lemma sound (inv : Sound c v) : Sound c after := by
  obtain ⟨close, closing⟩ := created.closing
  have between := closing.sound inv
  have rows : ∀ row, row ∈ after.requests ↔ row = v.requestOf c body ∨
      row ∈ middle.requests ∧ row.id ≠ (v.requestOf c body).id := by
    intro row
    rw [created.requests]
    exact mem_put
  have unknown : ∀ row ∈ middle.requests, row.tokenHash ≠ c.tokenDigest body.token := by
    intro row mem
    obtain ⟨pre, there, rfl⟩ := (closing.requests row).mp mem
    rw [terms_tokenHash (closing.closes.terms pre)]
    exact created.fresh pre there
  constructor
  · intro row mem
    rw [created.nextRequest]
    rcases (rows row).mp mem with rfl | ⟨old, -⟩
    · exact Nat.lt_succ_self _
    · have below := between.numbered row old
      rw [closing.nextRequest] at below
      omega
  · intro row mem alt theirs same
    rcases (rows row).mp mem with rfl | ⟨old, -⟩ <;>
      rcases (rows alt).mp theirs with rfl | ⟨oldOther, -⟩
    · rfl
    · exact absurd same.symm (unknown alt oldOther)
    · exact absurd same (unknown row old)
    · exact between.tokens row old alt oldOther same
  · intro row mem alt theirs pend alsoPending here field named alsoNamed
    rw [created.now] at pend alsoPending
    rcases (rows row).mp mem with rfl | ⟨old, -⟩ <;>
      rcases (rows alt).mp theirs with rfl | ⟨oldOther, -⟩
    · rfl
    · exact absurd named (created.apart inv oldOther alsoPending here.symm alsoNamed)
    · exact absurd alsoNamed (created.apart inv old pend here named)
    · exact between.reserved row old alt oldOther pend alsoPending here field named alsoNamed
  · intro row mem pend field named
    rw [created.now] at pend
    rw [created.items]
    rcases (rows row).mp mem with rfl | ⟨old, -⟩
    · exact if_pos named
    · obtain ⟨pre, there, rfl⟩ := (closing.requests row).mp old
      have unchanged := closing.closes.pending pre pend
      rw [unchanged] at pend named ⊢
      exact inv.current pre there (pending_earlier pend closing.closes.order) field named

end
end Created

variable {act : Action β} {creation : Creation}

lemma attempt_cases (inv : Sound c v) (done : attempt c v act = some after) :
    (∃ close, Closing close v after) ∨ ∃ body middle, act = .create body ∧ Created c v body middle after := by
  cases act with
  | wait duration =>
    obtain rfl := Option.some.inj done
    exact .inl ⟨id, Closing.wait duration⟩
  | create body =>
    obtain ⟨middle, created⟩ := createRequest_eq done
    exact .inr ⟨body, middle, rfl, created⟩
  | supply body =>
    obtain ⟨row, valid, rfl⟩ := supply_eq done
    exact .inl ⟨_, supplied_closing valid inv⟩
  | upsert sect fields =>
    obtain rfl := Option.some.inj done
    exact .inl (upsert_closing fields)
  | delete sect fields globalDelete projectCount => exact .inl (delete_closing done)
  | copy src sect fields stripPrefix => exact .inl (copy_closing done)

lemma step_eq (done : attempt c v act = some after) : step c v act = after := by
  unfold step
  rw [done]
  rfl

lemma step_sound (inv : Sound c v) (act : Action β) : Sound c (step c v act) ∧ Later v (step c v act) := by
  unfold step
  cases done : attempt c v act with
  | none => exact ⟨inv, Later.refl⟩
  | some after =>
    rcases attempt_cases inv done with ⟨close, closing⟩ | ⟨body, middle, -, created⟩
    · exact ⟨closing.sound inv, closing.later⟩
    · exact ⟨created.sound inv, created.later inv⟩

omit [DecidableEq γ] in
lemma Initial.sound {start} (init : Initial start) : Sound c start := by
  have empty : ∀ row, row ∉ start.requests := by
    intro row
    rw [init.requests]
    exact not_mem_empty row
  constructor
  · exact fun row mem => absurd mem (empty row)
  · exact fun row mem => absurd mem (empty row)
  · exact fun row mem => absurd mem (empty row)
  · exact fun row mem => absurd mem (empty row)

lemma run_sound (inv : Sound c v) (acts : List (Action β)) : Sound c (run (step c) v acts) := by
  have keeps : ∀ v act, Sound c v → Sound c (step c v act) := fun _ act inv => (step_sound inv act).1
  exact run_invariant keeps inv acts

lemma run_later (inv : Sound c v) (acts : List (Action β)) : Later v (run (step c) v acts) := by
  have keeps : ∀ v act, Sound c v → Sound c (step c v act) := fun _ act inv => (step_sound inv act).1
  have develops : ∀ v act, Sound c v → Later v (step c v act) := fun _ act inv => (step_sound inv act).2
  exact run_related (fun _ => Later.refl) (fun _ _ _ => Later.trans) keeps develops inv acts

def Knows (v : Vault β γ) (id : ℕ) : Prop := ∃ row ∈ v.requests, row.id = id

lemma step_creates (inv : Sound c v) {id : ℕ} (absent : ¬Knows v id)
    (present : Knows (step c v act) id) : ∃ body middle, act = .create body ∧ id = v.nextRequest ∧
      Created c v body middle (step c v act) := by
  unfold step at present ⊢
  cases done : attempt c v act with
  | none =>
    rw [done] at present
    exact absurd present absent
  | some after =>
    rw [done] at present
    rcases attempt_cases inv done with ⟨close, closing⟩ | ⟨body, middle, same, created⟩
    · obtain ⟨row, mem, rfl⟩ := present
      obtain ⟨pre, there, rfl⟩ := (closing.requests row).mp mem
      exact absurd ⟨pre, there, (terms_id (closing.closes.terms pre)).symm⟩ absent
    · refine ⟨body, middle, same, ?_, created⟩
      obtain ⟨row, mem, rfl⟩ := present
      change row ∈ after.requests at mem
      rw [created.requests, mem_put] at mem
      rcases mem with rfl | ⟨old, -⟩
      · rfl
      · obtain ⟨close, closing⟩ := created.closing
        obtain ⟨pre, there, rfl⟩ := (closing.requests row).mp old
        exact absurd ⟨pre, there, (terms_id (closing.closes.terms pre)).symm⟩ absent

def Reserved (v : Vault β γ) : Prop :=
  ∀ row ∈ v.requests, ∀ alt ∈ v.requests, row.pending v.now = true → alt.pending v.now = true →
    row.sectionName = alt.sectionName → ∀ field ∈ row.fields, field ∈ alt.fields → row = alt

/-- A supply of the request that was created in the state `origin`. -/
structure Honours (c : Crypto β γ) (origin : Vault β γ) (creation : Creation) (v : Vault β γ)
    (body : Supply) (after : Vault β γ) : Prop where
  request : v.tokenRequest c body.token = some (origin.requestOf c creation)
  unexpired : body.describedAt v.now < (origin.requestOf c creation).expiresAt
  complete : ∀ field ∈ creation.fields, field ∈ body.names
  unwritten : ∀ field ∈ creation.fields,
    v.writes creation.sectionName field = origin.writes creation.sectionName field
  unchanged : ∀ field ∈ body.names, v.items creation.sectionName field = origin.items creation.sectionName field
  written : ∀ field ∈ body.fields, ∃ item, after.items creation.sectionName field.1 = some item ∧
    item.encryptedValue = c.encrypt field.2 item.nonce
  kept : ∀ s field, (s = creation.sectionName → field ∉ body.names) → after.items s field = v.items s field

omit [DecidableEq γ] in
lemma writeAll_written {sect} {fields : List (Name × String)} (distinct : (fields.map Prod.fst).Nodup) :
    ∀ field ∈ fields, ∃ item, (v.writeAll c sect fields).items sect field.1 =
      some item ∧ item.encryptedValue = c.encrypt field.2 item.nonce := by
  induction fields generalizing v with
  | nil => exact fun _ mem => absurd mem not_mem_nil
  | cons first fields ih =>
    obtain ⟨fresh, rest⟩ := nodup_cons.mp distinct
    intro field mem
    rcases mem_cons.mp mem with rfl | later
    · have touches : Touches sect (fields.map Prod.fst) (v.write c sect field.1 field.2)
          (v.writeAll c sect (field :: fields)) :=
        Touches.writeAll fun alt mem => mem_map_of_mem mem
      rw [touches.items sect field.1 fun _ => fresh]
      have wrote : ∀ item, (v.setField sect field.1 (some item)).items sect field.1 =
          some item := by
        intro item
        simp only [Vault.setField, Function.update_self]
      exact ⟨_, wrote _, rfl⟩
    · exact ih rest field later

variable {origin : Vault β γ}

lemma Supplied.unchanged (distinct : Function.Injective c.itemDigest) {body}
    (supplied : Supplied c v body (origin.requestOf c creation)) :
    ∀ field ∈ body.names, v.items creation.sectionName field = origin.items creation.sectionName field := by
  intro field named
  have sel := supplied.selected
  unfold Vault.checkSelection at sel
  rw [Bool.and_eq_true, Bool.and_eq_true, all_eq_true, all_eq_true] at sel
  have same := sel.1.2 field (mem_dedup.mpr (mem_append_right _ named))
  rw [decide_eq_true_eq] at same
  have baseline : (origin.requestOf c creation).baseline field =
      fieldBaseline c (origin.items creation.sectionName field) := by
    unfold VaultSecretRequest.baseline Vault.requestOf
    dsimp only
    split_ifs
    · rfl
    · cases origin.items creation.sectionName field <;> rfl
  rw [baseline] at same
  exact Option.map_injective distinct same

lemma supply_honours (distinct : Function.Injective c.itemDigest) {created middle} (inv : Sound c created)
    (made : Created c origin creation middle created) {acts body row}
    (supplied : Supplied c (run (step c) created acts) body row) (same : row.id = origin.nextRequest) :
    Honours c origin creation (run (step c) created acts) body
      (Vaults.supplied c (run (step c) created acts) body row) := by
  obtain ⟨mem, -, pend⟩ := tokenRequest_eq supplied.token
  have there : origin.requestOf c creation ∈ created.requests := by
    rw [made.requests]
    exact mem_put_self _ _
  obtain ⟨last, here, terms, -, develops⟩ := (run_later inv acts).rows _ there
  have it : last = row := eq_of_key here mem ((terms_id terms).trans same.symm)
  subst it
  obtain ⟨rfl, -, unwritten⟩ := develops pend
  have touches : Touches creation.sectionName body.names (run (step c) created acts)
      ((run (step c) created acts).writeAll c creation.sectionName body.fields) :=
    Touches.writeAll fun field mem => mem_map_of_mem mem
  refine ⟨supplied.token, supplied.unexpired, supplied.complete, ?_, supplied.unchanged distinct,
    writeAll_written body.distinct, touches.items⟩
  intro field named
  exact (unwritten field named).trans (congrFun (congrFun made.writes _) _)

/-- A supply writes all of its fields or none, for a live creation, and no token twice. -/
theorem vault_requests_exact (distinct : Function.Injective c.itemDigest) {start : Vault β γ}
    (init : Initial start) (acts : List (Action β)) (body : Supply) :
    Reserved (run (step c) start acts) ∧ ((run (step c) start acts).supply c body = none ∧
          step c (run (step c) start acts) (.supply body) = run (step c) start acts ∨
        (∃ pre creation after, acts = pre ++ .create creation :: after ∧
          Honours c (run (step c) start pre) creation (run (step c) start acts)
            body (step c (run (step c) start acts) (.supply body))) ∧
        ∀ later again, c.tokenDigest again.token = c.tokenDigest body.token →
          (run (step c) start (acts ++ .supply body :: later)).supply c again = none) := by
  have inv : Sound c (run (step c) start acts) := run_sound (Initial.sound init) acts
  refine ⟨inv.reserved, ?_⟩
  cases done : (run (step c) start acts).supply c body with
  | none =>
    have stays : (attempt c (run (step c) start acts) (.supply body)).getD
        (run (step c) start acts) = run (step c) start acts := by
      rw [show attempt c (run (step c) start acts) (.supply body) = none from done]
      rfl
    exact .inl ⟨rfl, stays⟩
  | some after =>
    right
    obtain ⟨row, supplied, rfl⟩ := supply_eq done
    have stepped : step c (run (step c) start acts) (.supply body) =
        Vaults.supplied c (run (step c) start acts) body row :=
      step_eq done
    obtain ⟨mem, token, -⟩ := tokenRequest_eq supplied.token
    constructor
    · have absent : ¬Knows start row.id := by
        rintro ⟨alt, none, -⟩
        rw [init.requests] at none
        exact not_mem_empty alt none
      have present : Knows (run (step c) start acts) row.id := ⟨row, mem, rfl⟩
      obtain ⟨pre, act, rest, rfl, off, on⟩ := @run_turns _ _ (step c) (fun v => Knows v row.id) _ absent _ present
      obtain ⟨creation, middle, rfl, same, made⟩ := step_creates (run_sound (Initial.sound init) pre) off on
      refine ⟨pre, creation, rest, rfl, ?_⟩
      rw [stepped]
      rw [run_append, run_cons] at supplied ⊢
      have first : Sound c (run (step c) start pre) := run_sound (Initial.sound init) pre
      exact supply_honours distinct (step_sound first _).1 made supplied same
    · intro later again sameToken
      cases repeated : (run (step c) start (acts ++ .supply body :: later)).supply c
          again with
      | none => rfl
      | some twice =>
        rw [run_append, run_cons, stepped] at repeated
        obtain ⟨alt, resupplied, -⟩ := supply_eq repeated
        obtain ⟨present, otherToken, pend⟩ := tokenRequest_eq resupplied.token
        have closing := supplied_closing supplied inv
        have consumed := (closing.requests _).mpr ⟨row, mem, rfl⟩
        have after := closing.sound inv
        obtain ⟨last, here, terms, gone, -⟩ := (run_later after later).rows _ consumed
        have it : last = alt := by
          apply (run_sound after later).tokens last here alt present
          rw [terms_tokenHash terms, otherToken, sameToken, ← token]
          exact terms_tokenHash (closing.closes.terms row)
        subst it
        have spent : last.suppliedAt ≠ none := by
          apply gone
          unfold VaultSecretRequest.consume
          rw [if_pos rfl]
          exact Option.some_ne_none _
        rw [not_pending_of_supplied spent] at pend
        cases pend

def transparent : Crypto String (VaultItem String ⊕ String) where
  encrypt plain _ := plain
  decrypt ciphertext _ := some ciphertext
  itemDigest := Sum.inl
  tokenDigest := Sum.inr

def emptyVault : Vault String (VaultItem String ⊕ String) where
  items _ _ := none
  requests := Table.empty
  runtimeRevision := 0
  nextItem := 0
  nextNonce := 0
  nextRequest := 0
  now := 0
  writes _ _ := 0

def requested : List (Action String) :=
  [.create ⟨[], [['a']], "token", 300, (0, 0)⟩, .upsert [] [(['c'], "other")], .wait 5]

def answer : Supply :=
  ⟨"token", [(['a'], "value"), (['b'], "extra")], by decide, (1, 1, 1)⟩

theorem vault_requests_exact_answer : Reserved (run (step transparent) emptyVault requested) ∧
      ∃ pre creation after, requested = pre ++ .create creation :: after ∧
        Honours transparent (run (step transparent) emptyVault pre) creation
          (run (step transparent) emptyVault requested) answer
          (step transparent (run (step transparent) emptyVault requested) (.supply answer)) := by
  have distinct : Function.Injective transparent.itemDigest := Sum.inl_injective
  have init : Initial emptyVault := ⟨rfl⟩
  obtain ⟨reserved, supplied⟩ := vault_requests_exact distinct init requested answer
  have done : (run (step transparent) emptyVault requested).supply transparent answer ≠ none := by
    decide +kernel
  exact ⟨reserved, (supplied.resolve_left fun refused => done refused.1).1⟩

end Clawdi.Vaults
