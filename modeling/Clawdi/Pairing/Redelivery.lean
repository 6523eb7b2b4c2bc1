import Clawdi.Pairing.Replay

namespace Clawdi.Pairing
open Transition Table Option
variable (codes : PairCodes)

def Spends (next : PairCodes) : Prop :=
  ∀ hash, (codes.get hash = none → next.get hash = none) ∧
    ∀ row, codes.get hash = some row → ∃ after, next.get hash = some after ∧
      after.accountId = row.accountId ∧ after.expiresAt = row.expiresAt ∧
      (row.status ≠ .pending → after.status ≠ .pending)

lemma Spends.refl : Spends codes codes :=
  fun _ => ⟨fun gone => gone, fun row hit => ⟨row, hit, rfl, rfl, fun done => done⟩⟩

lemma Spends.put {codes : PairCodes} {row after : ChannelPairCode}
    (hit : codes.get row.codeHash = some row) (same : after.codeHash = row.codeHash)
    (account : after.accountId = row.accountId) (expires : after.expiresAt = row.expiresAt)
    (done : after.status ≠ .pending) : Spends codes (codes.put after) := by
  intro hash
  by_cases here : after.codeHash = hash
  · rw [get_put_of_eq _ here]
    constructor
    · intro gone
      rw [same.symm.trans here] at hit
      rw [gone] at hit
      cases hit
    · intro alt was
      rw [same.symm.trans here, was] at hit
      cases hit
      exact ⟨after, rfl, account, expires, fun _ => done⟩
  · rw [get_put_of_ne _ here]
    exact Spends.refl codes hash

def Refused (update : TelegramUpdate) (code : String) : Prop :=
  code = "" ∨ (update.actor.isNone && pairingCommandRequiresActor update.chatType) = true

def Spent (hashToken : String → String) (codes : PairCodes) (now : Nat) (account : ChannelAccount)
    (update : TelegramUpdate) : Prop :=
  ∀ code, update.command = some (.pair code) → Refused update code ∨
      ∀ row, codes.get (hashToken code) = some row → row.accountId = account.id →
        row.status ≠ .pending ∨ row.expiresAt ≤ now

lemma Spent.mono {hashToken : String → String} {codes next} {now later : Nat} {account update}
    (spent : Spent hashToken codes now account update) (spends : Spends codes next)
    (le : now ≤ later) : Spent hashToken next later account update := by
  intro code command
  refine (spent code command).imp_right ?_
  intro done row hit here
  cases pre : codes.get (hashToken code) with
  | none =>
    rw [(spends _).1 pre] at hit
    cases hit
  | some old =>
    obtain ⟨after, was, account', expires, keeps⟩ := (spends _).2 old pre
    rw [was] at hit
    cases hit
    rcases done old pre (account'.symm.trans here) with closed | late
    · exact .inl (keeps closed)
    · exact .inr (by omega)

section
variable {hashToken : String → String} {account : ChannelAccount} {update : TelegramUpdate}
  {authority : Authority} {now : Nat} {db : Database} {code : String}

lemma claim_spent (spent : ∀ row, db.pairCodes.get (hashToken code) = some row →
      row.accountId = account.id → row.status ≠ .pending ∨ row.expiresAt ≤ now) :
    ∃ reason, claimPairCode hashToken account update now authority db code = (.error reason, db) := by
  rw [claimPairCode]
  split
  · exact ⟨_, rfl⟩
  · rename_i row hit
    obtain ⟨was, here⟩ := filter_eq_some_iff.mp hit
    rcases spent row was (of_decide_eq_true here) with closed | late
    · exact ⟨_, if_pos closed⟩
    · by_cases closed : row.status ≠ .pending
      · exact ⟨_, if_pos closed⟩
      · exact ⟨_, (if_neg closed).trans (if_pos late)⟩

lemma chatRow_active {bind} (hit : chatRow account update db = some bind)
    (active : bind.active = true) : bind ∈ findBindings account update db := by
  obtain ⟨was, here⟩ := mem_select.mp (List.mem_of_head? hit)
  exact mem_select.mpr ⟨was, by rw [here, active]; rfl⟩

lemma claim_keeps : Spends db.pairCodes
    (claimPairCode hashToken account update now authority db code).2.pairCodes := by
  rw [claimPairCode]
  split
  · exact Spends.refl _
  rename_i row hit
  obtain ⟨was, _⟩ := filter_eq_some_iff.mp hit
  have keyed := (get_eq_some.mp was).2
  rw [← keyed] at was
  split
  · exact Spends.refl _
  split
  · exact Spends.refl _
  split
  · exact Spends.put was rfl rfl rfl (by simp)
  split
  · exact Spends.refl _
  · rename_i bind bound made
    have codes : bound.pairCodes = db.pairCodes := by
      rw [getOrCreateBinding] at made
      split at made
      · split at made
        · cases made
        · cases made
          rfl
      · cases made
        rfl
    show Spends db.pairCodes (bound.pairCodes.put _)
    rw [codes]
    exact Spends.put was rfl rfl rfl (by simp)

lemma claim_fails {reason claimed}
    (failed : claimPairCode hashToken account update now authority db code = (.error reason, claimed))
    (unbound : findBindings account update db = []) :
    ∀ row, claimed.pairCodes.get (hashToken code) = some row → row.accountId = account.id →
      row.status ≠ .pending ∨ row.expiresAt ≤ now := by
  intro row hit here
  rw [claimPairCode] at failed
  split at failed
  · rename_i gone
    cases failed
    have missing := (filter_eq_none_iff.mp gone) row hit
    simp [here] at missing
  rename_i old filtered
  obtain ⟨was, _⟩ := filter_eq_some_iff.mp filtered
  split at failed
  · rename_i closed
    cases failed
    rw [was] at hit
    cases hit
    exact .inl closed
  split at failed
  · rename_i late
    cases failed
    rw [was] at hit
    cases hit
    exact .inr late
  split at failed
  · cases failed
    have keyed := (get_eq_some.mp was).2
    rw [get_put_of_eq _ (show ({ old with status := .revoked } : ChannelPairCode).codeHash =
      hashToken code from keyed)] at hit
    cases hit
    exact .inl (by simp)
  split at failed
  · rename_i refused
    rw [getOrCreateBinding] at refused
    split at refused
    · rename_i bind chosen
      split at refused
      · rename_i both
        rw [Bool.and_eq_true] at both
        have mem := chatRow_active chosen both.1
        rw [unbound] at mem
        cases mem
      · cases refused
    · cases refused
  · cases failed

end

section
variable (hashToken : String → String) (account : ChannelAccount) (update : TelegramUpdate)
  (authority : Authority) (now : Nat) (db : Database)

def controlled : List ChannelBinding := (findBindings account update db).filter (·.controlledBy update.actor)

inductive Resolution : InboundBindingResult × Database → Prop
  | unchanged (result : InboundBindingResult)
      (refused : ∀ code, update.command = some (.pair code) → Refused update code)
      (uncontrolled : unpairs update = true → controlled account update db = []) :
      Resolution (result, db)
  | failed (code reason : String) (claimed : Database) (result : InboundBindingResult)
      (command : update.command = some (.pair code)) (live : ¬Refused update code)
      (claim : claimPairCode hashToken account update now authority db code = (.error reason, claimed))
      (binds : result.bindings = findBindings account update db) : Resolution (result, claimed)
  | paired (code : String) (bind : ChannelBinding) (claimed : Database)
      (result : InboundBindingResult) (command : update.command = some (.pair code))
      (live : ¬Refused update code)
      (claim : claimPairCode hashToken account update now authority db code = (.ok bind, claimed))
      (binds : result.bindings = [bind]) : Resolution (result, claimed)
  | unpaired (result : InboundBindingResult) (command : unpairs update = true)
      (some' : controlled account update db ≠ [])
      (binds : result.bindings = (controlled account update db).map ChannelBinding.archived)
      (command' : result.commandHandled = true) : Resolution (result, archiveAll db (controlled account update db))

lemma resolution : Resolution hashToken account update authority now db
    (resolveInboundBinding hashToken account update authority now db) := by
  have idle : ∀ result, (∀ code, update.command ≠ some (.pair code)) → unpairs update = false →
      Resolution hashToken account update authority now db (result, db) := by
    intro result noPair noUnpair
    apply Resolution.unchanged
    · intro code same
      exact absurd same (noPair code)
    · intro command
      rw [noUnpair] at command
      cases command
  have forbidden : ∀ result, (update.actor.isNone && pairingCommandRequiresActor update.chatType) = true →
      Resolution hashToken account update authority now db (result, db) := by
    intro result refused
    apply Resolution.unchanged
    · intro _ _
      exact .inr refused
    · intro command
      rw [unpairs, refused, Bool.not_true, Bool.and_false] at command
      cases command
  rw [resolveInboundBinding]
  cases given : update.command with
  | none => exact idle _ (by simp [given]) (by simp [unpairs, given])
  | some command =>
    cases command with
    | help => exact idle _ (by simp [given]) (by simp [unpairs, given])
    | unknown =>
      dsimp only
      split <;> exact idle _ (by simp [given]) (by simp [unpairs, given])
    | pair code =>
      dsimp only
      split
      · rename_i refused
        exact forbidden _ refused
      rename_i actor
      split
      · rename_i blank
        apply Resolution.unchanged
        · intro alt same
          cases given.symm.trans same
          exact .inl blank
        · intro command
          rw [unpairs, given] at command
          cases command
      · rename_i filled
        have live : ¬Refused update code := not_or.mpr ⟨filled, actor⟩
        cases claim : claimPairCode hashToken account update now authority db code with
        | mk out claimed =>
          cases out with
          | error reason => exact Resolution.failed code reason claimed _ given live claim rfl
          | ok bind => exact Resolution.paired code bind claimed _ given live claim rfl
    | unpair =>
      dsimp only
      split
      · rename_i refused
        exact forbidden _ refused
      rename_i actor
      have noPair : ∀ code, update.command ≠ some (.pair code) := by simp [given]
      have unpair : unpairs update = true := by
        rw [unpairs, given, Bool.eq_false_of_not_eq_true actor]
        rfl
      by_cases none' : controlled account update db = []
      · have unchanged : ∀ result, Resolution hashToken account update authority now db (result, db) := by
          intro result
          apply Resolution.unchanged
          · intro code same
            exact absurd same (noPair code)
          · intro _
            exact none'
        split
        · exact unchanged _
        · split
          · exact unchanged _
          · rename_i some'
            exact absurd (List.isEmpty_iff.mpr none') some'
      · split
        · rename_i empty
          exact absurd (by rw [controlled, List.isEmpty_iff.mp empty]; rfl) none'
        · split
          · rename_i empty
            exact absurd (List.isEmpty_iff.mp empty) none'
          · exact Resolution.unpaired _ unpair none' rfl rfl

variable {hashToken account update authority now db}

lemma claim_messages (code : String) :
    (claimPairCode hashToken account update now authority db code).2.messages = db.messages := by
  have same := @claimPairCode_messages hashToken account update authority now db db.messages code
  exact congrArg (fun result => result.2.messages) same

variable (alt : ChannelAccount) (event : TelegramUpdate)

lemma recorded_archiveAll (archived : List ChannelBinding) :
    recorded alt event (archiveAll db archived).messages = recorded alt event db.messages := by
  unfold recorded archiveAll
  cases event.eventId with
  | none => rfl
  | some eventId =>
    simp only [Option.any_some, List.any_map]
    congr 1
    funext msg
    simp only [Function.comp_apply]
    split <;> rfl

lemma resolve_recorded : recorded alt event
        (resolveInboundBinding hashToken account update authority now db).2.messages =
      recorded alt event db.messages := by
  have way := resolution hashToken account update authority now db
  generalize resolveInboundBinding hashToken account update authority now db = resolved at way ⊢
  cases way with
  | unchanged => rfl
  | failed code _ claimed _ _ _ claim | paired code _ claimed _ _ _ claim =>
    have same := @claim_messages hashToken account update authority now db code
    rw [claim] at same
    rw [show claimed.messages = db.messages from same]
  | unpaired => exact recorded_archiveAll alt event _

lemma resolve_keeps : Spends db.pairCodes
    (resolveInboundBinding hashToken account update authority now db).2.pairCodes := by
  have way := resolution hashToken account update authority now db
  generalize resolveInboundBinding hashToken account update authority now db = resolved at way ⊢
  cases way with
  | unchanged | unpaired => exact Spends.refl _
  | failed code _ _ _ _ _ claim | paired code _ _ _ _ _ claim =>
    have keeps := @claim_keeps hashToken account update authority now db code
    rw [claim] at keeps
    exact keeps

lemma resolve_quiet (spent : Spent hashToken db.pairCodes now account update)
    (free : unpairs update = true → controlled account update db = []) :
    (resolveInboundBinding hashToken account update authority now db).2.bindings = db.bindings ∧
      (resolveInboundBinding hashToken account update authority now db).2.pairCodes = db.pairCodes := by
  have way := resolution hashToken account update authority now db
  generalize resolveInboundBinding hashToken account update authority now db = resolved at way ⊢
  have fails : ∀ code, update.command = some (.pair code) → ¬Refused update code →
      ∃ reason, claimPairCode hashToken account update now authority db code = (.error reason, db) :=
    fun code command live => claim_spent ((spent code command).resolve_left live)
  cases way with
  | unchanged => exact ⟨rfl, rfl⟩
  | failed code reason claimed result command live claim =>
    obtain ⟨alt, same⟩ := fails code command live
    rw [claim] at same
    cases same
    exact ⟨rfl, rfl⟩
  | paired code bind claimed result command live claim =>
    obtain ⟨alt, same⟩ := fails code command live
    rw [claim] at same
    cases same
  | unpaired result command some' => exact absurd (free command) some'

lemma resolve_traceless (nothing : traceless account
      (resolveInboundBinding hashToken account update authority now db).1 = true) :
    Spent hashToken (resolveInboundBinding hashToken account update authority now db).2.pairCodes now
      account update := by
  have way := resolution hashToken account update authority now db
  generalize resolveInboundBinding hashToken account update authority now db = resolved at way nothing ⊢
  simp only [traceless, Bool.and_eq_true, List.isEmpty_iff] at nothing
  intro code given
  cases way with
  | unchanged result refused => exact .inl (refused code given)
  | failed alt reason claimed result command live claim binds =>
    cases command.symm.trans given
    exact .inr (claim_fails claim (binds.symm.trans nothing.1.1.1))
  | paired alt bind claimed result command live claim binds =>
    rw [binds] at nothing
    cases nothing.1.1.1
  | unpaired result command =>
    rw [unpairs, given] at command
    cases command

end
end Clawdi.Pairing
