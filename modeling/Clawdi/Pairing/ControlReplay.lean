import Clawdi.Pairing.TwoRuns

namespace Clawdi.Pairing
open Transition List Table Bool

def start (binds : Bindings) (pairCodes : PairCodes) (now : Nat) : World :=
  { db := { bindings := binds, pairCodes := pairCodes, messages := [] }, now := now, history := [] }

def Replays (hashToken : String → String) (w : World) (acts : List Action) : Prop :=
  ∀ pre after, acts = pre ++ after → (run (step hashToken) w pre).db.bindings =
        (run (step hashToken) w (pre.map Action.original)).db.bindings ∧
      (run (step hashToken) w pre).db.pairCodes = (run (step hashToken) w (pre.map Action.original)).db.pairCodes

section
variable {hashToken : String → String} {binds : Bindings} {pairCodes : PairCodes} {now : Nat}

lemma recorded_nil (acct : ChannelAccount) (update : TelegramUpdate) : recorded acct update [] = false := by
  unfold recorded
  cases update.eventId <;> rfl

lemma start_sound : Sound hashToken (start binds pairCodes now) where
  keyed := by
    intro acct update known
    rw [start, recorded_nil] at known
    cases known
  spent := by
    intro e mem
    cases mem

lemma start_matches (hashToken : String → String) :
    Matches (start binds pairCodes now) (start binds pairCodes now) where
  bindings := rfl
  pairCodes := rfl
  now := rfl
  history := rfl
  keyed := (@start_sound hashToken binds pairCodes now).keyed

end

section
variable {hashToken : String → String} {full reduced : World}

lemma run_sound (inv : Sound hashToken full) (acts : List Action) :
    Sound hashToken (run (step hashToken) full acts) := by
  have keeps : ∀ w act, Sound hashToken w → Sound hashToken (step hashToken w act) :=
    fun _ act inv => step_sound inv act
  exact run_invariant keeps inv acts

lemma run_matches {acts} (inv : Sound hashToken full) (matches' : Matches full reduced)
    (harmless : Always (step hashToken) (fun w act => Recaptures w act = false) full acts) :
    Matches (run (step hashToken) full acts) (run (step hashToken) reduced (acts.map Action.original)) := by
  induction acts generalizing full reduced with
  | nil => exact matches'
  | cons act acts ih =>
    have together := step_matches inv matches' act harmless.1
    exact ih (step_sound inv act) together harmless.2

end

section
variable {hashToken : String → String} {acct : ChannelAccount} {update : TelegramUpdate}
  {auth : Authority} {now : Nat} {db : Database}

lemma newRows_public (public' : acct.visibility = .isPublic) (ownerless : acct.userId = none)
    {commandHandled targets} (bound : ∀ tgt ∈ targets, tgt ≠ none) :
    ∃ rows, newRows acct update commandHandled targets = some rows := by
  induction targets with
  | nil => exact ⟨[], rfl⟩
  | cons tgt rest ih =>
    cases tgt with
    | none => exact absurd rfl (bound none mem_cons_self)
    | some bind =>
      obtain ⟨rows, later⟩ := ih fun alt mem => bound alt (mem_cons_of_mem _ mem)
      have first : requireChannelTenantUserId acct (some bind.userId) = some bind.userId := by
        rw [requireChannelTenantUserId, public', ownerless]
        rfl
      rw [newRows, later, inboundMessage, Option.map_some, first, Option.bind_some]
      split <;> exact ⟨_, rfl⟩

lemma webhook_unpairs (public' : acct.visibility = .isPublic) (ownerless : acct.userId = none)
    (fresh : recorded acct update db.messages = false) (unpair : unpairs update = true)
    (some' : controlled acct update db ≠ []) : ∃ next, telegramWebhook hashToken acct update auth now db = some next ∧
      next.bindings = (archiveAll db (controlled acct update db)).bindings := by
  rw [webhook_fresh fresh]
  have way := resolution hashToken acct update auth now db
  generalize resolveInboundBinding hashToken acct update auth now db = resolved at way ⊢
  cases way with
  | unchanged res refused uncontrolled => exact absurd (uncontrolled unpair) some'
  | failed _ _ _ _ cmd | paired _ _ _ _ cmd =>
    rw [unpairs, cmd] at unpair
    cases unpair
  | unpaired res cmd hit binds handled =>
    have filled : res.bindings.isEmpty = false := by
      rw [binds, isEmpty_map]
      exact eq_false_of_not_eq_true fun empty => some' (isEmpty_iff.mp empty)
    have bound : ∀ tgt ∈ targets auth.active res, tgt ≠ none := by
      rw [targets, handled, foundTargets, filled]
      intro tgt mem none'
      rw [none'] at mem
      simp at mem
    obtain ⟨rows, made⟩ := @newRows_public acct update public' ownerless res.commandHandled
      (targets auth.active res) bound
    have left : leftRows acct update auth.active res = some rows := by
      rw [leftRows, traceless, filled, Bool.false_and, Bool.false_and, Bool.false_and, if_neg Bool.false_ne_true]
      exact made
    rw [left]
    exact ⟨_, rfl, rfl⟩

lemma archiveAll_changes (some' : controlled acct update db ≠ []) :
    (archiveAll db (controlled acct update db)).bindings ≠ db.bindings := by
  intro same
  obtain ⟨bind, mem⟩ := exists_mem_of_ne_nil _ some'
  have hit := mem_of_mem_filter mem
  obtain ⟨was, here⟩ := mem_select.mp hit
  have active : bind.active = true := (and_eq_true_iff.mp here).2
  have archived : bind.archived ∈ (archiveAll db (controlled acct update db)).bindings.rows :=
    mem_map.mpr ⟨bind, was, if_pos (mem_map_of_mem mem)⟩
  rw [same, mem_rows] at archived
  have equal : bind.archived = bind := eq_of_key archived was rfl
  rw [← equal] at active
  cases active

lemma redeliver_recaptures {w} (inv : Sound hashToken w) {act}
    (recaptures : Recaptures w act = true) : (step hashToken w act).db.bindings ≠ w.db.bindings := by
  cases act with
  | webhook | wait => cases recaptures
  | redeliver idx auth elapsed =>
    rw [Recaptures] at recaptures
    cases located : w.history[idx]? with
    | none =>
      rw [located] at recaptures
      cases recaptures
    | some e =>
      obtain ⟨acct, update⟩ := e
      rw [located] at recaptures
      simp only [and_eq_true, not_eq_true'] at recaptures
      obtain ⟨⟨⟨named, unpair⟩, fresh⟩, hit⟩ := recaptures
      have some' : controlled acct update w.db ≠ [] := by
        obtain ⟨bind, mem, control⟩ := any_eq_true.mp hit
        exact ne_nil_of_mem (mem_filter.mpr ⟨mem, control⟩)
      have ownerless : acct.visibility = .isPublic ∧ acct.userId = none := by
        rcases inv.spent _ (mem_of_getElem? located) named with known | ⟨_, public'⟩
        · exact absurd (known.symm.trans fresh) (by simp)
        · exact public'
      obtain ⟨next, handled, binds⟩ := @webhook_unpairs hashToken acct update auth
        (w.now + elapsed) w.db ownerless.1 ownerless.2 fresh unpair some'
      have stepped : (step hashToken w (.redeliver idx auth elapsed)).db = next := by
        rw [step]
        rw [located]
        dsimp only
        rw [handled]
        cases ev : update.eventId with
        | none =>
          rw [ev] at named
          cases named
        | some eventId => rfl
      rw [stepped, binds]
      exact archiveAll_changes some'

lemma original_of_recaptures {w act} (recaptures : Recaptures w act = true) (alt : World) :
    (step hashToken alt act.original).db = alt.db := by
  cases act with
  | webhook | wait => cases recaptures
  | redeliver idx auth elapsed => rfl

end

/-- Redeliveries change no binding and no pair code if and only if none of them is of an unpair
command that left no row and whose chat its actor has paired since. -/
theorem control_replay (hashToken : String → String) (binds : Bindings) (pairCodes : PairCodes)
    (now : Nat) (acts : List Action) : Replays hashToken (start binds pairCodes now) acts ↔
      Always (step hashToken) (fun w act => Recaptures w act = false) (start binds pairCodes now) acts := by
  have inv : Sound hashToken (start binds pairCodes now) := start_sound
  have both := @start_matches binds pairCodes now hashToken
  constructor
  · intro replays
    by_contra recaptured
    obtain ⟨pre, act, after, rfl, always, broken⟩ := Always.breaks recaptured
    have recaptures := eq_true_of_not_eq_false broken
    have together := run_matches inv both always
    have same := (replays (pre ++ [act]) after (by simp)).1
    rw [map_append, run_append, run_append] at same
    simp only [map_cons, map_nil, run_cons, run_nil] at same
    rw [original_of_recaptures recaptures, ← together.bindings] at same
    exact redeliver_recaptures (run_sound inv pre) recaptures same
  · intro harmless pre after split'
    rw [split'] at harmless
    have together := run_matches inv both (Always.append.mp harmless).1
    exact ⟨together.bindings, together.pairCodes⟩

def publicAccount : ChannelAccount := { id := 1, visibility := .isPublic, userId := none }

def privateChat (eventId : String) (cmd : ChannelControlCommand) : TelegramUpdate :=
  { chat := "42", chatType := some "private", chatName := none, actor := some "42"
    eventId := some eventId, scope := .account, command := some cmd }

def allowing : Authority :=
  { allowsNewPairing := fun _ _ => true, authorized := fun _ => true, active := fun _ => true }

def unclaimed : ChannelPairCode :=
  { codeHash := "code", accountId := 1, botAgentLinkId := 7, userId := 9, status := .pending
    expiresAt := 100, claimedAt := none, claimedExternalChatId := none
    claimedExternalUserId := none }

def unpairAgain : List Action :=
  [.webhook publicAccount (privateChat "1" .unpair) allowing 0,
    .webhook publicAccount (privateChat "2" (.pair "code")) allowing 1, .redeliver 0 allowing 1]

theorem unpair_recaptures :
    ((run (step id) (start Table.empty (Table.empty.put unclaimed) 0) unpairAgain).db.bindings.rows.map
        ChannelBinding.active = [false] ∧ (run (step id) (start Table.empty (Table.empty.put unclaimed) 0)
        (unpairAgain.map Action.original)).db.bindings.rows.map ChannelBinding.active = [true]) ∧
      ¬Replays id (start Table.empty (Table.empty.put unclaimed) 0) unpairAgain := by
  have archived : (run (step id) (start Table.empty (Table.empty.put unclaimed) 0)
      unpairAgain).db.bindings.rows.map ChannelBinding.active = [false] := by decide +kernel
  have kept : (run (step id) (start Table.empty (Table.empty.put unclaimed) 0)
      (unpairAgain.map Action.original)).db.bindings.rows.map ChannelBinding.active = [true] := by
    decide +kernel
  refine ⟨⟨archived, kept⟩, ?_⟩
  intro replays
  have same := (replays unpairAgain [] (by simp)).1
  rw [same, kept] at archived
  cases archived

end Clawdi.Pairing
