import Clawdi.Delivery.Archive
import Clawdi.Lib.Transition

namespace Clawdi.Delivery.Archive
open Transition Store Database List Table
open World (View expired)

def Kept (before after : ChannelDelivery) : Prop := before.status.terminal = true → after.status = before.status

variable (row : ChannelDelivery)

lemma Kept.refl : Kept row row := fun _ => rfl
def Unsettled : Prop := row.status.terminal = false

lemma Unsettled.kept {before} (unsettled : Unsettled before) (after : ChannelDelivery) : Kept before after := by
  intro terminal
  rw [unsettled] at terminal
  cases terminal

def Process.locks : Process → List Nat
  | .claiming id _ | .claimed id _ | .prepared id _ | .finalizing id _ _ => [id]
  | .reaping ids _ => ids
  | _ => []

def Process.loaded : Process → List ChannelDelivery
  | .archiving loaded _ _ => loaded
  | _ => []

def Unread (store : Store Nat ChannelDelivery.id) (loaded : List ChannelDelivery) : Prop :=
  ∀ stale ∈ loaded, ∀ row ∈ store, row.committed.id = stale.id → row.committed.status ≠ .succeeded

structure Sound (store : Store Nat ChannelDelivery.id) (processes : List Process) : Prop where
  drafts : Drafts Kept store
  held : ∀ (proc : Nat) stage, processes[proc]? = some stage → ∀ id ∈ stage.locks, Held store proc id Unsettled
  loaded : ∀ (proc : Nat) stage, processes[proc]? = some stage → Unread store stage.loaded

def Final (store next : Store Nat ChannelDelivery.id) : Prop :=
  ∀ row ∈ store.rows, row.committed.status.terminal = true → ∃ after ∈ next.rows,
      after.committed.id = row.committed.id ∧ after.committed.status = row.committed.status

instance (store next : Store Nat ChannelDelivery.id) : Decidable (Final store next) := by
  unfold Final
  infer_instance

structure Advance (store next : Store Nat ChannelDelivery.id) (processes : List Process) : Prop where
  sound : Sound next processes
  final : Final store next

section
variable {store next : Store Nat ChannelDelivery.id} {processes : List Process} {proc : Nat}
  {stage : Process}

lemma set_cases {alt : Nat} {found} (located : (processes.set proc stage)[alt]? = some found) :
    alt = proc ∧ found = stage ∨ alt ≠ proc ∧ processes[alt]? = some found := by
  rw [List.getElem?_set] at located
  by_cases same : proc = alt
  · rw [if_pos same] at located
    split at located
    · exact .inl ⟨same.symm, (Option.some.inj located).symm⟩
    · cases located
  · rw [if_neg same] at located
    exact .inr ⟨fun equal => same equal.symm, located⟩

lemma Sound.move (sound : Sound store processes) (drafts : Drafts Kept next)
    (others : ∀ alt id, alt ≠ proc → Held store alt id Unsettled → Held next alt id Unsettled)
    (unread : ∀ alt found, alt ≠ proc → processes[alt]? = some found → Unread next found.loaded)
    (mine : ∀ id ∈ stage.locks, Held next proc id Unsettled) (read : Unread next stage.loaded) :
    Sound next (processes.set proc stage) where
  drafts := drafts
  held := by
    intro alt found located id locked
    rcases set_cases located with ⟨rfl, rfl⟩ | ⟨differ, before⟩
    · exact mine id locked
    · exact others alt id differ (sound.held alt found before id locked)
  loaded := by
    intro alt found located
    rcases set_cases located with ⟨_, rfl⟩ | ⟨differ, before⟩
    · exact read
    · exact unread alt found differ before

lemma Unread.nil : Unread store [] := by
  intro stale listed
  cases listed

lemma Unread.of_committed {loaded} (unread : Unread store loaded)
    (committed : ∀ row ∈ next, ∃ before ∈ store, before.committed = row.committed) : Unread next loaded := by
  intro stale listed row mem same
  obtain ⟨before, was, equal⟩ := committed row mem
  rw [← equal] at same ⊢
  exact unread stale listed before was same

lemma Final.refl (store : Store Nat ChannelDelivery.id) : Final store store := by
  intro row mem _
  exact ⟨row, mem, rfl, rfl⟩

lemma Final.of_map {f : Row → Row} {keeps}
    (kept : ∀ row ∈ store, Kept row.committed (f row).committed) : Final store (store.update f keeps) := by
  intro row mem terminal
  exact ⟨f row, mem_update.mpr ⟨row, mem, rfl⟩, keeps row, kept row mem terminal⟩

section
variable {chosen : Row → Bool} {f : ChannelDelivery → ChannelDelivery}
  {keeps : ∀ row, (f row).id = row.id}

lemma write_committed : ∀ row ∈ store.write proc chosen f keeps,
    ∃ before ∈ store, before.committed = row.committed := by
  intro row mem
  obtain ⟨before, was, rfl⟩ := mem_write.mp mem
  exact ⟨before, was, (writeCell_committed _ _ _ _ before).symm⟩

lemma Sound.statement (sound : Sound store processes)
    (kept : ∀ row ∈ store, chosen row = true → Kept row.committed (f (row.current proc)))
    (mine : ∀ id ∈ stage.locks, Held (store.write proc chosen f keeps) proc id Unsettled)
    (read : Unread store stage.loaded) :
    Advance store (store.write proc chosen f keeps) (processes.set proc stage) where
  sound := by
    apply sound.move (sound.drafts.write fun row mem picked _ => kept row mem picked)
    · intro _ _ _ held
      exact held.write
    · intro alt found _ located
      exact (sound.loaded alt found located).of_committed write_committed
    · exact mine
    · exact read.of_committed write_committed
  final := by
    apply Final.of_map
    intro row _
    rw [writeCell_committed]
    exact Kept.refl _

lemma Sound.save (sound : Sound store processes) {id : Nat}
    (held : Held store proc id Unsettled) (locks : ∀ alt ∈ stage.locks, alt = id)
    (loaded : stage.loaded = []) : Advance store (store.write proc (fun row => row.committed.id = id) f keeps)
      (processes.set proc stage) := by
  apply sound.statement
  · intro row mem picked
    exact (held.holds mem (of_decide_eq_true picked)).kept _
  · intro alt locked
    rw [locks alt locked]
    exact held.write
  · rw [loaded]
    exact Unread.nil

end

section
variable (sound : Sound store processes)
include sound

lemma Sound.goto (mine : ∀ id ∈ stage.locks, Held store proc id Unsettled) (read : Unread store stage.loaded) :
    Advance store store (processes.set proc stage) where
  sound := sound.move sound.drafts (fun _ _ _ held => held)
    (fun alt found _ located => sound.loaded alt found located) mine read
  final := Final.refl store

lemma Sound.leave (locks : stage.locks = []) (loaded : stage.loaded = []) :
    Advance store store (processes.set proc stage) := by
  apply sound.goto
  · intro id locked
    rw [locks] at locked
    cases locked
  · rw [loaded]
    exact Unread.nil

lemma Sound.stay : Advance store store processes := ⟨sound, Final.refl store⟩

lemma Sound.rollback : Advance store (store.rollback proc) (processes.set proc .idle) where
  sound := by
    apply sound.move sound.drafts.rollback
    · intro alt id differ held
      exact held.rollback differ
    · intro alt found _ located
      apply (sound.loaded alt found located).of_committed
      intro row mem
      obtain ⟨before, was, rfl⟩ := mem_rollback.mp mem
      exact ⟨before, was, (Cell.rollback_committed proc before).symm⟩
    · intro id locked
      cases locked
    · exact Unread.nil
  final := by
    apply Final.of_map
    intro row _
    rw [Cell.rollback_committed]
    exact Kept.refl _

end
end

def Database.reads (db : Database) (id : Nat) : Bool :=
  db.processes.any fun stage => stage.loaded.any fun stale => stale.id = id

def Undisturbed (db : Database) : Action → Bool
  | .commit proc =>
    db.store.rows.all fun row => row.draft.all fun draft =>
      !(draft.1 = proc && draft.2.status = .succeeded && db.reads draft.2.id)
  | _ => true

abbrev Advances (db next : Database) : Prop := Advance db.store next.store next.processes

lemma owns_iff {id : Nat} {token row} : owns id token row = true ↔
      row.id = id ∧ row.status = .inProgress ∧ row.lockedBy = some token := by
  simp [owns, and_assoc]

section
variable {db : Database} (sound : Sound db.store db.processes)

include sound

variable (id : Nat) {stage : Process}

lemma commit_advances {proc : Nat} (undisturbed : Undisturbed db (.commit proc) = true)
    (locks : stage.locks = []) (loaded : stage.loaded = []) : Advances db (db.commit proc stage) := by
  constructor
  · apply sound.move sound.drafts.commit
    · intro alt id differ held
      exact held.commit differ
    · intro alt found _ located stale listed row mem same succeeded
      obtain ⟨before, was, rfl⟩ := mem_commit.mp mem
      have same : before.committed.id = stale.id := (Cell.key_commit proc before).symm.trans same
      have open' := sound.loaded alt found located stale listed before was same
      rw [Cell.commit] at succeeded
      split at succeeded
      · rename_i owner draft drafted
        split at succeeded
        · rename_i mine
          have reads : db.reads draft.id = true := by
            have here : draft.id = stale.id := (before.keyed owner draft drafted).trans same
            refine any_eq_true.mpr ⟨_, mem_of_getElem? located, ?_⟩
            exact any_eq_true.mpr ⟨stale, listed, decide_eq_true here.symm⟩
          have quiet := all_eq_true.mp undisturbed before was
          change draft.status = .succeeded at succeeded
          simp [drafted, mine, succeeded, reads] at quiet
        · exact open' succeeded
      · exact open' succeeded
    · intro id locked
      rw [locks] at locked
      cases locked
    · rw [loaded]
      exact Unread.nil
  · apply @Final.of_map _ (Cell.commit proc) (Cell.key_commit proc)
    intro row mem
    exact commit_related sound.drafts Kept.refl mem

lemma enqueue_advances (acctId mid : Nat) (link : Option Nat) : Advances db (db.enqueue id acctId mid link) := by
  rw [enqueue]
  split
  · exact sound.stay
  rename_i gone
  have fresh := get_eq_none.mp gone
  constructor
  · constructor
    · intro row mem owner draft drafted
      rcases mem_put.mp mem with rfl | ⟨before, _⟩
      · cases drafted
      · exact sound.drafts row before owner draft drafted
    · intro proc stage located alt locked
      obtain ⟨row, was, same, rest⟩ := sound.held proc stage located alt locked
      exact ⟨row, mem_put.mpr (.inr ⟨was, fresh row was⟩), same, rest⟩
    · intro proc stage located stale listed row mem same
      rcases mem_put.mp mem with rfl | ⟨before, _⟩
      · intro succeeded
        cases succeeded
      · exact sound.loaded proc stage located stale listed row before same
  · intro row mem _
    exact ⟨row, mem_put.mpr (.inr ⟨mem, fresh row mem⟩), rfl, rfl⟩

lemma start_advances : Advances db { db with processes := db.processes ++ [.idle] } := by
  have before : ∀ (proc : Nat) stage, (db.processes ++ [.idle])[proc]? = some stage →
      stage = .idle ∨ db.processes[proc]? = some stage := by
    intro proc stage located
    rw [List.getElem?_append] at located
    split at located
    · exact .inr located
    · exact .inl (mem_singleton.mp (mem_of_getElem? located))
  refine ⟨⟨sound.drafts, ?_, ?_⟩, Final.refl _⟩
  · intro proc stage located id locked
    rcases before proc stage located with rfl | old
    · cases locked
    · exact sound.held proc stage old id locked
  · intro proc stage located
    rcases before proc stage located with rfl | old
    · exact Unread.nil
    · exact sound.loaded proc stage old

lemma claim_advances (proc : Nat) (workerId : String) (view : View) :
    Advances db (db.claim proc workerId view) := by
  rw [claim]
  split
  · exact sound.stay
  rename_i row found
  obtain ⟨mem, selected⟩ := mem_select.mp (mem_of_head? found)
  simp only [View.claimable, Bool.and_eq_true, decide_eq_true_eq] at selected
  obtain ⟨free, ⟨⟨⟨pending, _⟩, _⟩, _⟩, _⟩ := selected
  apply sound.statement
  · intro alt was _
    exact sound.drafts.current Kept.refl proc was
  · intro id locked
    rw [mem_singleton.mp locked]
    apply held_lock mem (by simp) free
    rw [Unsettled, pending]
    rfl
  · exact Unread.nil

lemma reap_advances (proc limit : Nat) : Advances db (reap db proc limit) := by
  apply sound.statement
  · intro row was _
    exact sound.drafts.current Kept.refl proc was
  · intro id locked
    obtain ⟨row, taken, same⟩ := mem_map.mp locked
    obtain ⟨mem, selected⟩ := mem_select.mp (mem_of_mem_take taken)
    simp only [expired, Bool.and_eq_true, decide_eq_true_eq] at selected
    rw [← same]
    apply held_lock mem (decide_eq_true (same ▸ locked)) selected.1
    rw [Unsettled, selected.2.1]
    rfl
  · exact Unread.nil

lemma finalize_advances (proc id : Nat) (token : LeaseToken) (prov : String) (outcome : Outcome) :
    Advances db (finalize db proc id token prov outcome) := by
  rw [finalize]
  split
  · exact sound.stay
  rename_i ready
  split
  · rename_i found
    obtain ⟨row, mem, owned⟩ := any_eq_true.mp found
    have free : row.free proc = true := by
      by_contra busy
      apply ready
      exact any_eq_true.mpr ⟨row, mem, by simp [owned, busy]⟩
    obtain ⟨rfl, status, _⟩ := owns_iff.mp owned
    apply sound.statement
    · intro alt was _
      exact sound.drafts.current Kept.refl proc was
    · intro alt locked
      have unsettled : Unsettled row.committed := by rw [Unsettled, status]; rfl
      rw [mem_singleton.mp locked]
      exact held_lock mem owned free unsettled
    · exact Unread.nil
  · exact sound.leave rfl rfl

lemma release_advances (proc id : Nat) (token : LeaseToken) : Advances db (release db proc id token) := by
  rw [release]
  split
  · exact sound.stay
  · apply sound.statement
    · intro row _ owned
      have unsettled : Unsettled row.committed := by rw [Unsettled, (owns_iff.mp owned).2.1]; rfl
      exact unsettled.kept _
    · intro alt locked
      cases locked
    · exact Unread.nil

lemma check_advances {proc id : Nat} {token}
    (located : db.processes[proc]? = some (.prepared id token)) (lookups : Lookups) :
    Advances db (check db proc id token lookups) := by
  have held := sound.held proc _ located id mem_cons_self
  rw [check]
  split
  · exact sound.leave rfl rfl
  · split <;> exact sound.save held (forall_mem_nil _) rfl

lemma archive_advances (proc : Nat) (chosen : ChannelDelivery → Bool) (error : String)
    (useSafeDiagnostics : Bool) : Advances db (db.archive proc chosen error useSafeDiagnostics) := by
  apply sound.goto
  · intro id locked
    cases locked
  · intro stale listed row mem same succeeded
    rw [Process.loaded, openDeliveries, mem_insertionSort, mem_filter, mem_map] at listed
    obtain ⟨⟨found, was, rfl⟩, selected⟩ := listed
    have here : row = found := eq_of_key mem was (same.trans (Cell.key_current proc found))
    subst here
    have kept := sound.drafts.current Kept.refl proc was
    rw [Kept, succeeded] at kept
    simp [kept rfl, DeliveryStatus.terminal] at selected

lemma flush_advances {proc : Nat} (located : db.processes[proc]? = some stage) :
    Advances db (flush db proc stage) := by
  cases stage with
  | claiming id token =>
    apply sound.save (sound.held proc _ located id mem_cons_self)
    · intro alt locked
      exact mem_singleton.mp locked
    · rfl
  | finalizing id prov outcome =>
    have held := sound.held proc _ located id mem_cons_self
    cases outcome with
    | sent | raised => exact sound.save held (forall_mem_nil _) rfl
  | reaping ids now =>
    apply sound.statement
    · intro row mem picked
      have held := sound.held proc _ located row.committed.id (of_decide_eq_true picked)
      exact (held.holds mem rfl).kept _
    · intro alt locked
      cases locked
    · exact Unread.nil
  | archiving loaded error useSafeDiagnostics =>
    cases loaded with
    | nil => exact sound.stay
    | cons stale rest =>
      have unread := sound.loaded proc _ located
      rw [flush]
      split
      · exact sound.stay
      · apply sound.statement
        · intro row mem picked terminal
          have open' := unread stale mem_cons_self row mem (of_decide_eq_true picked)
          cases status : row.committed.status with
          | succeeded => exact absurd status open'
          | failed => rfl
          | pending | inProgress =>
            rw [status] at terminal
            cases terminal
        · intro alt locked
          cases locked
        · intro alt listed
          exact unread alt (mem_cons_of_mem stale listed)
  | _ => exact sound.stay

lemma step_advances (act : Action) (undisturbed : Undisturbed db act = true) : Advances db (step db act) := by
  cases act with
  | enqueue id acctId mid link => exact enqueue_advances sound id acctId mid link
  | start => exact start_advances sound
  | claim proc workerId view =>
    rw [step]
    split
    · exact claim_advances sound proc workerId view
    · exact sound.stay
  | flush proc =>
    rw [step]
    split
    · rename_i stage located
      exact flush_advances sound located
    · exact sound.stay
  | prepare proc =>
    rw [step]
    split
    · rename_i id token located
      split
      · apply sound.goto
        · intro alt locked
          exact sound.held proc _ located alt locked
        · exact Unread.nil
      · exact sound.leave rfl rfl
    · exact sound.stay
  | check proc lookups =>
    rw [step]
    split
    · rename_i id token located
      exact check_advances sound located lookups
    · exact sound.stay
  | sent | cancel =>
    rw [step]
    split
    · exact sound.leave rfl rfl
    · exact sound.stay
  | finalize proc =>
    rw [step]
    split
    · exact finalize_advances sound proc _ _ _ _
    · exact sound.stay
  | release proc =>
    rw [step]
    split
    · exact release_advances sound proc _ _
    · exact sound.stay
  | reap proc limit =>
    rw [step]
    split
    · exact reap_advances sound proc limit
    · exact sound.stay
  | archiveBotAgentLink proc | archiveChannelAccount proc =>
    rw [step]
    split
    · exact archive_advances sound proc _ _ _
    · exact archive_advances sound proc _ _ _
    · exact sound.stay
  | commit proc =>
    rw [step]
    split
    · exact commit_advances sound undisturbed rfl rfl
    · exact commit_advances sound undisturbed rfl rfl
    · exact commit_advances sound undisturbed rfl rfl
    · exact sound.stay
  | abort proc => exact sound.rollback
  | wait duration => exact sound.stay

end

lemma sound_start : Sound start.store start.processes where
  drafts := by
    intro row mem
    exact absurd mem (not_mem_empty row)
  held := by
    intro proc stage located
    simp [start] at located
  loaded := by
    intro proc stage located
    simp [start] at located

/-- As long as no success is committed under an archive that selected the delivery as open, a settled
delivery keeps its status. -/
theorem delivery_outcome_final (acts : List Action)
    (undisturbed : Always step (fun db act => Undisturbed db act = true) start acts) :
    Always step (fun db act => Final db.store (step db act).store) start acts := by
  have keeps : ∀ db act, Sound db.store db.processes → Undisturbed db act = true →
      Sound (step db act).store (step db act).processes :=
    fun _ act sound quiet => (step_advances sound act quiet).sound
  have concludes : ∀ db act, Sound db.store db.processes →
      Undisturbed db act = true → Final db.store (step db act).store :=
    fun _ act sound quiet => (step_advances sound act quiet).final
  exact Always.strengthen keeps concludes sound_start undisturbed

def activeLookups : Lookups :=
  { provider := fun _ => "telegram", accountActive := fun _ => true, linkActive := fun _ => some true
    linkLocked := fun _ => false, strictV2Authority := fun _ => true
    providerCardinality := fun _ => true, messageBinding := fun _ => some (some 0)
    bindingActive := fun _ => true }

def wholeView : View := ⟨fun _ => true, fun _ => true, fun _ => false, fun _ => 0⟩

def delivered : List Action :=
  [.enqueue 7 1 2 (some 3), .start, .start, .claim 0 "worker" wholeView, .flush 0, .prepare 0,
   .check 0 activeLookups, .commit 0, .sent 0 (.sent (some "42"))]

def recorded : List Action := [.finalize 0, .flush 0, .commit 0]

theorem delivery_outcome_final_archived : Always step (fun db act => Final db.store (step db act).store) start
      (delivered ++ recorded ++ [.archiveBotAgentLink 1 3 true, .flush 1, .commit 1]) :=
  delivery_outcome_final _ (by decide +kernel)

/-- The archive selects the delivery while it is in progress, and writes it after its success. -/
theorem success_overwritten : ¬Always step (fun db act => Final db.store (step db act).store) start
      (delivered ++ [.archiveBotAgentLink 1 3 true] ++ recorded ++ [.flush 1, .commit 1]) := by
  decide +kernel

end Clawdi.Delivery.Archive
