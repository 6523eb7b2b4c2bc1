import Clawdi.Vaults.Revisions
import Clawdi.Vaults.Supplies

namespace Clawdi.Vaults
open Function (update update_of_ne update_self)
open Transition Option
variable {ι P τ ρ υ β γ δ η : Type} {crypto : Crypto β γ} {digests : Digests ι P υ δ η}

def Fresh (crypto : Crypto β γ) (digests : Digests ι P υ δ η) (i : ι) (v : Vault β γ)
    (obtained : δ × Fields) : Prop :=
  ∃ e, obtained.1 = digests.revision (i, e) ∧ e.contentVersion ≤ v.runtimeRevision ∧
    (e.contentVersion = v.runtimeRevision → obtained.2 = fieldsOf crypto digests e v)

structure Honest (crypto : Crypto β γ) (digests : Digests ι P υ δ η)
    (vaults : ι → StoredVault P β γ) (client : Client ι P δ η) : Prop where
  reading : ∀ listed etag, client.reading = some (listed, etag) → (∃ user, etag = digests.etag (user, listed)) ∧
      ∀ i e rev, listed i = some (e, rev) → rev = digests.revision (i, e) ∧
          e.contentVersion ≤ (vaults i).vault.runtimeRevision
  obtained : ∀ i, ∀ obtained ∈ client.obtained i, Fresh crypto digests i (vaults i).vault obtained
  etag : ∀ etag, client.etag = some etag → ∃ user listed, etag = digests.etag (user, listed) ∧
    ∀ i, client.listed i = (listed i).map Prod.snd

structure Consistent (crypto : Crypto β γ) (digests : Digests ι P υ δ η)
    (w : World ι P τ ρ β γ δ η) : Prop where
  waiting : ∀ t i act, w.transactions t = some (.locked i act) → w.locks i = some t
  running : ∀ t i draft left, w.transactions t = some (.running i draft left) →
    w.locks i = some t ∧ Advances (w.vaults i).vault (perform left draft)
  clients : ∀ c, Honest crypto digests w.vaults (w.clients c)

lemma Fresh.advance {i v after obtained} (fresh : Fresh crypto digests i v obtained) (advances : Advances v after) :
    Fresh crypto digests i after obtained := by
  obtain ⟨e, rev, older, same⟩ := fresh
  refine ⟨e, rev, older.trans advances.le, ?_⟩
  intro still
  rcases advances with more | ⟨num, items⟩
  · omega
  · rw [same (still.trans num)]
    unfold fieldsOf
    rw [items]

lemma Honest.advance {vaults after : ι → StoredVault P β γ} {client} (honest : Honest crypto digests vaults client)
    (advances : ∀ i, Advances (vaults i).vault (after i).vault) : Honest crypto digests after client := by
  constructor
  · intro listed etag reading
    obtain ⟨digest, es⟩ := honest.reading listed etag reading
    refine ⟨digest, ?_⟩
    intro i e rev there
    obtain ⟨same, older⟩ := es i e rev there
    exact ⟨same, older.trans (advances i).le⟩
  · intro i obtained mem
    exact (honest.obtained i obtained mem).advance (advances i)
  · exact honest.etag

section
variable [LinearOrder P] [DecidableEq δ]

omit [DecidableEq δ] in
lemma inventory_eq {vaults : ι → StoredVault P β γ} {sources i}
    {e rev} (listed : inventory digests vaults sources i = some (e, rev)) :
    rev = digests.revision (i, e) ∧ e.contentVersion = (vaults i).vault.runtimeRevision := by
  unfold inventory at listed
  rw [map_eq_some_iff] at listed
  obtain ⟨same, hit, pair⟩ := listed
  obtain ⟨rfl, rfl⟩ := Prod.mk.inj pair
  refine ⟨rfl, ?_⟩
  unfold RuntimeVault.of at hit
  dsimp only at hit
  split_ifs at hit
  obtain rfl := Option.some.inj hit
  rfl

omit [DecidableEq δ] in
lemma Honest.metadata {vaults : ι → StoredVault P β γ} {client}
    (honest : Honest crypto digests vaults client) (user : υ) (sources : Finset P) :
    Honest crypto digests vaults { client with
      reading := some (inventory digests vaults sources,
        digests.etag (user, inventory digests vaults sources)) } := by
  refine ⟨?_, honest.obtained, honest.etag⟩
  intro listed etag reading
  obtain ⟨rfl, rfl⟩ := Prod.mk.inj (Option.some.inj reading)
  refine ⟨⟨user, rfl⟩, ?_⟩
  intro i e rev there
  obtain ⟨same, num⟩ := inventory_eq there
  exact ⟨same, num.le⟩

omit [LinearOrder P] in
lemma Honest.receive {vaults : ι → StoredVault P β γ} {client}
    (honest : Honest crypto digests vaults client) {listed etag}
    (reading : client.reading = some (listed, etag)) (revisions : ι → Option δ) :
    Honest crypto digests vaults (client.receive listed etag
      (snapshotValues crypto digests vaults listed revisions)) := by
  obtain ⟨⟨user, digest⟩, es⟩ := honest.reading listed etag reading
  constructor
  · intro _ _ none
    cases none
  · intro i obtained mem
    rcases List.mem_append.mp mem with new | old
    · rw [mem_toList] at new
      unfold snapshotValues at new
      cases there : listed i with
      | none =>
        rw [there] at new
        cases new
      | some pair =>
        obtain ⟨e, rev⟩ := pair
        obtain ⟨same, older⟩ := es i e rev there
        rw [there] at new
        dsimp only at new
        split_ifs at new
        obtain rfl := Option.some.inj new
        exact ⟨e, same, older, fun _ => rfl⟩
    · exact honest.obtained i obtained old
  · intro last same
    obtain rfl := Option.some.inj same
    exact ⟨user, listed, digest, fun _ => rfl⟩

end

section
variable {w : World ι P τ ρ β γ δ η}
namespace Consistent

def Holds (w : World ι P τ ρ β γ δ η) (t : τ) : Option (Transaction ι β γ) → Prop
  | none => True
  | some (.locked i _) => w.locks i = some t
  | some (.running i draft left) => w.locks i = some t ∧ Advances (w.vaults i).vault (perform left draft)

lemma holds (agree : Consistent crypto digests w) (t : τ) : Holds w t (w.transactions t) := by
  cases under : w.transactions t with
  | none => exact trivial
  | some tx =>
    cases tx with
    | locked i act => exact agree.waiting t i act under
    | running i draft left => exact agree.running t i draft left under

lemma of_holds (holds : ∀ t, Holds w t (w.transactions t))
    (clients : ∀ c, Honest crypto digests w.vaults (w.clients c)) : Consistent crypto digests w := by
  refine ⟨?_, ?_, clients⟩
  · intro t i act under
    have own := holds t
    rw [under] at own
    exact own
  · intro t i draft left under
    have own := holds t
    rw [under] at own
    exact own

lemma others {after : World ι P τ ρ β γ δ η} (agree : Consistent crypto digests w) {t alt}
    {i} (mine : w.locks i = none ∨ w.locks i = some t) (ne : alt ≠ t)
    (transactions : after.transactions alt = w.transactions alt)
    (locks : ∀ j, j ≠ i → after.locks j = w.locks j) (vaults : ∀ j, j ≠ i → after.vaults j = w.vaults j) :
    Holds after alt (after.transactions alt) := by
  rw [transactions]
  have own := agree.holds alt
  have elsewhere : ∀ j, w.locks j = some alt → j ≠ i := by
    intro j theirs same
    subst same
    rw [theirs] at mine
    rcases mine with free | held
    · cases free
    · exact ne (Option.some.inj held)
  cases under : w.transactions alt with
  | none => exact trivial
  | some tx =>
    rw [under] at own
    cases tx with
    | locked j act =>
      show after.locks j = some alt
      rw [locks j (elsewhere j own)]
      exact own
    | running j draft left =>
      have there := elsewhere j own.1
      show after.locks j = some alt ∧ Advances (after.vaults j).vault _
      rw [locks j there, vaults j there]
      exact own

section
variable [DecidableEq ρ]

lemma setClient (agree : Consistent crypto digests w) {c client}
    (honest : Honest crypto digests w.vaults client) : Consistent crypto digests (w.setClient c client) := by
  refine ⟨agree.waiting, agree.running, ?_⟩
  intro alt
  show Honest crypto digests w.vaults (update w.clients c client alt)
  by_cases same : alt = c
  · rw [same, update_self]
    exact honest
  · rw [update_of_ne same]
    exact agree.clients alt

end

section
variable [DecidableEq ι] [DecidableEq τ]

omit [DecidableEq τ] in
lemma setAttachments (agree : Consistent crypto digests w) (i : ι) (projects : Finset P) :
    Consistent crypto digests (w.setVault i { w.vaults i with attachments := projects }) := by
  have same : ∀ j, ((w.setVault i { w.vaults i with attachments := projects }).vaults j).vault =
      (w.vaults j).vault := by
    intro j
    show (update w.vaults i _ j).vault = _
    by_cases here : j = i
    · rw [here, update_self]
    · rw [update_of_ne here]
  refine ⟨agree.waiting, ?_, ?_⟩
  · intro t j draft left under
    rw [same]
    exact agree.running t j draft left under
  · intro c
    apply (agree.clients c).advance
    intro j
    rw [same]
    exact Advances.refl _

omit [DecidableEq ι] in
lemma setTransaction (agree : Consistent crypto digests w) {t tx} (own : Holds w t tx) :
    Consistent crypto digests (w.setTransaction t tx) := by
  refine of_holds ?_ agree.clients
  intro alt
  show Holds w alt (update w.transactions t tx alt)
  by_cases same : alt = t
  · rw [same, update_self]
    exact own
  · rw [update_of_ne same]
    exact agree.holds alt

lemma finish (agree : Consistent crypto digests w) {t i}
    (mine : w.locks i = some t) : Consistent crypto digests (w.finish t i) := by
  refine of_holds ?_ agree.clients
  intro alt
  by_cases same : alt = t
  · show Holds _ alt (update w.transactions t none alt)
    rw [same, update_self]
    exact trivial
  · apply agree.others (.inr mine) same
    · exact update_of_ne same _ _
    · exact fun j there => update_of_ne there _ _
    · exact fun _ _ => rfl

lemma commit (agree : Consistent crypto digests w) {t i draft}
    (under : w.transactions t = some (.running i draft [])) : Consistent crypto digests
      ((w.setVault i { w.vaults i with vault := draft }).finish t i) := by
  obtain ⟨mine, advances⟩ := agree.running t i draft [] under
  apply of_holds
  · intro alt
    by_cases same : alt = t
    · show Holds _ alt (update w.transactions t none alt)
      rw [same, update_self]
      exact trivial
    · apply agree.others (.inr mine) same
      · exact update_of_ne same _ _
      · exact fun j there => update_of_ne there _ _
      · exact fun j there => update_of_ne there _ _
  · intro c
    apply (agree.clients c).advance
    intro j
    show Advances _ (update w.vaults i { w.vaults i with vault := draft } j).vault
    by_cases here : j = i
    · rw [here, update_self]
      exact advances
    · rw [update_of_ne here]
      exact Advances.refl _

end

variable [DecidableEq ι] [LinearOrder P] [DecidableEq τ] [DecidableEq ρ] [DecidableEq γ]
  [DecidableEq δ]

lemma step (agree : Consistent crypto digests w) (ev : Event ι P τ ρ υ β δ) :
    Consistent crypto digests (w.step crypto digests ev) := by
  cases ev with
  | lock t i act =>
    rw [World.step]
    split_ifs with free
    · refine of_holds ?_ agree.clients
      intro alt
      by_cases same : alt = t
      · subst same
        show Holds _ alt (update w.transactions alt _ alt)
        rw [update_self]
        exact update_self _ _ _
      · apply agree.others (.inl free.2) same
        · exact update_of_ne same _ _
        · exact fun j there => update_of_ne there _ _
        · exact fun _ _ => rfl
    · exact agree
  | load t =>
    rw [World.step]
    cases under : w.transactions t with
    | none => exact agree
    | some tx =>
      cases tx with
      | running i draft left => exact agree
      | locked i act =>
        have mine := agree.waiting t i act under
        have performed : (statements crypto (w.vaults i).vault act).map
            (perform · (w.vaults i).vault) = attempt crypto (w.vaults i).vault act :=
          statements_perform (w.vaults i).vault act
        dsimp only
        cases planned : statements crypto (w.vaults i).vault act with
        | none => exact agree.finish mine
        | some left =>
          rw [planned, map_some] at performed
          exact agree.setTransaction ⟨mine, attempt_advances performed.symm⟩
  | execute t =>
    rw [World.step]
    cases under : w.transactions t with
    | none => exact agree
    | some tx =>
      cases tx with
      | locked i act => exact agree
      | running i draft left =>
        cases left with
        | nil => exact agree
        | cons stmt left => exact agree.setTransaction (agree.running t i draft _ under)
  | commit t =>
    rw [World.step]
    cases under : w.transactions t with
    | none => exact agree
    | some tx =>
      cases tx with
      | locked i act => exact agree
      | running i draft left =>
        cases left with
        | nil => exact agree.commit under
        | cons stmt left => exact agree
  | rollback t =>
    rw [World.step]
    cases under : w.transactions t with
    | none => exact agree
    | some tx =>
      cases tx with
      | locked i act => exact agree.finish (agree.waiting t i act under)
      | running i draft left => exact agree.finish (agree.running t i draft left under).1
  | attach i | detach i => exact agree.setAttachments i _
  | metadata c user sources => exact agree.setClient ((agree.clients c).metadata user sources)
  | values c revisions =>
    rw [World.step]
    cases reading : (w.clients c).reading with
    | none => exact agree
    | some read => exact agree.setClient ((agree.clients c).receive reading revisions)
  | abandon c =>
    have honest := agree.clients c
    apply agree.setClient
    refine ⟨?_, honest.obtained, honest.etag⟩
    intro _ _ none
    cases none

lemma advances (agree : Consistent crypto digests w) (ev : Event ι P τ ρ υ β δ) (i : ι) :
    Advances (w.vaults i).vault ((w.step crypto digests ev).vaults i).vault := by
  have attached : ∀ j (projects : Finset P),
      ((w.setVault j { w.vaults j with attachments := projects }).vaults i).vault =
        (w.vaults i).vault := by
    intro j projects
    show (update w.vaults j _ i).vault = _
    by_cases here : i = j
    · rw [here, update_self]
    · rw [update_of_ne here]
  cases ev with
  | commit t =>
    rw [World.step]
    cases under : w.transactions t with
    | none => exact Advances.refl _
    | some tx =>
      cases tx with
      | locked j act => exact Advances.refl _
      | running j draft left =>
        cases left with
        | cons stmt left => exact Advances.refl _
        | nil =>
          show Advances _ (update w.vaults j { w.vaults j with vault := draft } i).vault
          by_cases here : i = j
          · subst here
            rw [update_self]
            exact (agree.running t i draft [] under).2
          · rw [update_of_ne here]
            exact Advances.refl _
  | attach | detach =>
    rw [World.step, attached]
    exact Advances.refl _
  | load t =>
    rw [World.step]
    repeat' split
    all_goals exact Advances.refl _
  | metadata | abandon => exact Advances.refl _
  | _ =>
    rw [World.step]
    split <;> exact Advances.refl _

end Consistent

lemma World.Initial.consistent {start : World ι P τ ρ β γ δ η} (init : start.Initial) :
    Consistent crypto digests start := by
  constructor
  · intro t i act under
    rw [init.transactions] at under
    cases under
  · intro t i draft left under
    rw [init.transactions] at under
    cases under
  · intro c
    rw [init.clients]
    refine ⟨?_, ?_, ?_⟩
    · intro _ _ none
      cases none
    · exact fun _ _ mem => absurd mem List.not_mem_nil
    · intro _ none
      cases none

variable [DecidableEq ι] [LinearOrder P] [DecidableEq τ] [DecidableEq ρ] [DecidableEq γ]
  [DecidableEq δ]

omit [DecidableEq ι] [DecidableEq γ] [DecidableEq δ] in
lemma revision_stays (revisions : Function.Injective digests.revision) {vaults after : ι → StoredVault P β γ} {i}
    (advances : Advances (vaults i).vault (after i).vault) {sources others e later rev}
    (pre : inventory digests vaults sources i = some (e, rev))
    (now : inventory digests after others i = some (later, rev)) :
    later = e ∧ (after i).vault.items = (vaults i).vault.items := by
  obtain ⟨first, num⟩ := inventory_eq pre
  obtain ⟨snd, numberLater⟩ := inventory_eq now
  have same : later = e := congrArg Prod.snd (revisions (snd.symm.trans first))
  refine ⟨same, ?_⟩
  rcases advances with more | ⟨-, items⟩
  · rw [same] at numberLater
    omega
  · exact items

/-- What revisions and etags tell in the state `w` of a run that has passed through `earlier`. -/
structure Tells (crypto : Crypto β γ) (digests : Digests ι P υ δ η)
    (earlier w : World ι P τ ρ β γ δ η) : Prop where
  /-- A client that is told the revision of fields that it has obtained holds the Vault's fields. -/
  fields : ∀ c i rev fields, (rev, fields) ∈ (w.clients c).obtained i →
    ∀ sources e, inventory digests w.vaults sources i = some (e, rev) →
      fields = fieldsOf crypto digests e (w.vaults i).vault
  /-- A client that is told its etag is told the revisions that came with it. -/
  listed : ∀ c user sources, (w.clients c).etag = some (digests.etag (user, inventory digests w.vaults sources)) →
      ∀ i, (w.clients c).listed i = (inventory digests w.vaults sources i).map Prod.snd
  revision : ∀ sources others i e later rev, inventory digests earlier.vaults sources i = some (e, rev) →
      inventory digests w.vaults others i = some (later, rev) →
        later = e ∧ (w.vaults i).vault.items = (earlier.vaults i).vault.items
  etag : ∀ user alt sources others, digests.etag (user, inventory digests earlier.vaults sources) =
        digests.etag (alt, inventory digests w.vaults others) →
      inventory digests w.vaults others = inventory digests earlier.vaults sources ∧
        ∀ i, (inventory digests w.vaults others i).isSome →
          (w.vaults i).vault.items = (earlier.vaults i).vault.items

/-- No change of an item, a name or an attachment hides behind a revision or an etag. -/
theorem runtime_revisions_tell (revisions : Function.Injective digests.revision)
    (etags : Function.Injective digests.etag) {start : World ι P τ ρ β γ δ η}
    (init : start.Initial) (pre after : List (Event ι P τ ρ υ β δ)) :
    Tells crypto digests (run (World.step crypto digests) start pre)
      (run (World.step crypto digests) start (pre ++ after)) := by
  have keeps : ∀ w (ev : Event ι P τ ρ υ β δ), Consistent crypto digests w →
      Consistent crypto digests (w.step crypto digests ev) :=
    fun _ ev agree => agree.step ev
  have related : ∀ w (ev : Event ι P τ ρ υ β δ), Consistent crypto digests w →
      ∀ i, Advances (w.vaults i).vault ((w.step crypto digests ev).vaults i).vault :=
    fun _ ev agree => agree.advances ev
  have first : Consistent crypto digests (run (World.step crypto digests) start pre) :=
    run_invariant keeps init.consistent pre
  have last : Consistent crypto digests (run (World.step crypto digests) start (pre ++ after)) :=
    run_invariant keeps init.consistent (pre ++ after)
  rw [run_append] at last ⊢
  generalize run (World.step crypto digests) start pre = earlier at first last ⊢
  have advances : ∀ i, Advances (earlier.vaults i).vault
      ((run (World.step crypto digests) earlier after).vaults i).vault := by
    apply @run_related _ _ _ _ (fun (v w : World ι P τ ρ β γ δ η) =>
      ∀ i, Advances (v.vaults i).vault (w.vaults i).vault) _ _ keeps related _ first after
    · exact fun _ _ => Advances.refl _
    · exact fun _ _ _ one two i => (one i).trans (two i)
  generalize run (World.step crypto digests) earlier after = w at last advances ⊢
  have stays : ∀ sources others i e later rev, inventory digests earlier.vaults sources i = some (e, rev) →
        inventory digests w.vaults others i = some (later, rev) →
          later = e ∧ (w.vaults i).vault.items = (earlier.vaults i).vault.items :=
    fun _ _ i _ _ _ there now => revision_stays revisions (advances i) there now
  refine ⟨?_, ?_, stays, ?_⟩
  · intro c i rev fields mem sources e listed
    obtain ⟨known, digest, -, fresh⟩ := (last.clients c).obtained i _ mem
    obtain ⟨same, num⟩ := inventory_eq listed
    have equal : known = e := congrArg Prod.snd (revisions (digest.symm.trans same))
    rw [equal] at fresh
    exact fresh num
  · intro c user sources told i
    obtain ⟨known, listed, digest, same⟩ := (last.clients c).etag _ told
    have equal : inventory digests w.vaults sources = listed := congrArg Prod.snd (etags digest)
    rw [same i, equal]
  · intro user alt sources others told
    have equal : inventory digests w.vaults others = inventory digests earlier.vaults sources :=
      (congrArg Prod.snd (etags told)).symm
    refine ⟨equal, ?_⟩
    intro i listed
    obtain ⟨⟨e, rev⟩, there⟩ := isSome_iff_exists.mp listed
    exact (stays sources others i e e rev (equal ▸ there) there).2

end

def plainDigests : Digests ℕ ℕ ℕ (ℕ × RuntimeVault ℕ) (ℕ × Inventory ℕ ℕ (ℕ × RuntimeVault ℕ)) where
  revision := id
  etag := id
  quote := id
  projectText := toString

def stocked : World ℕ ℕ ℕ ℕ String (VaultItem String ⊕ String) (ℕ × RuntimeVault ℕ)
    (ℕ × Inventory ℕ ℕ (ℕ × RuntimeVault ℕ)) where
  vaults _ := {
    name := "Vault"
    slug := "vault"
    attachments := {1}
    vault := emptyVault }
  locks _ := none
  transactions _ := none
  clients _ := {}

def overtaken : List (Event ℕ ℕ ℕ ℕ ℕ String (ℕ × RuntimeVault ℕ)) :=
  [.lock 0 5 (.upsert [] [(['a'], "value")]), .load 0, .execute 0, .metadata 0 7 {1}, .execute 0,
    .execute 0, .commit 0, .values 0 fun _ => none]

theorem runtime_revisions_tell_overtaken :
    Tells transparent plainDigests (run (World.step transparent plainDigests) stocked overtaken)
        (run (World.step transparent plainDigests) stocked (overtaken ++ [.metadata 0 7 {1}])) ∧
      (((run (World.step transparent plainDigests) stocked overtaken).clients 0).obtained 5).length = 1 := by
  have revisions : Function.Injective plainDigests.revision := Function.injective_id
  have etags : Function.Injective plainDigests.etag := Function.injective_id
  have init : stocked.Initial := ⟨fun _ => rfl, fun _ => rfl, fun _ => rfl⟩
  exact ⟨runtime_revisions_tell revisions etags init overtaken [.metadata 0 7 {1}], by decide +kernel⟩

end Clawdi.Vaults
