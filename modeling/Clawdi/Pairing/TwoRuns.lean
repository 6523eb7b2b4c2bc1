import Clawdi.Pairing.Redelivery

namespace Clawdi.Pairing
open Transition List Option Bool
section
variable {hashToken : String → String} {acct : ChannelAccount} {update : TelegramUpdate}
  {auth : Authority} {now : Nat} {db next : Database}

variable {msgs after : List ChannelMessage}

lemma recordTargets_append {commandHandled tgts}
    (made : recordTargets acct update commandHandled tgts msgs = some after) :
    ∃ rows, after = msgs ++ rows ∧ ∀ msg ∈ rows, msg.accountId = acct.id ∧
      msg.providerEventScope = update.scope ∧ msg.providerEventId = update.eventId ∧
      msg.externalChatId = update.chat := by
  induction tgts generalizing msgs with
  | nil =>
    cases made
    exact ⟨[], by simp⟩
  | cons bind rest ih =>
    rw [recordTargets] at made
    split at made
    · cases made
      exact ⟨[], by simp⟩
    split at made
    · cases made
    · rename_i msg first
      obtain ⟨rows, rfl, evs⟩ := ih made
      refine ⟨msg :: rows, by simp, ?_⟩
      intro alt mem
      rcases mem_cons.mp mem with rfl | later
      · exact inboundMessage_event first
      · exact evs alt later

lemma recordInboundMessages_append {active : Nat → Bool} {res}
    (made : recordInboundMessages acct update active res msgs = some after) :
    ∃ rows, after = msgs ++ rows ∧ ∀ msg ∈ rows, msg.accountId = acct.id ∧
      msg.providerEventScope = update.scope ∧ msg.providerEventId = update.eventId ∧
      msg.externalChatId = update.chat := by
  rw [recordInboundMessages] at made
  split at made
  · cases made
    exact ⟨[], by simp⟩
  · exact recordTargets_append made

lemma webhook_handled (handled : telegramWebhook hashToken acct update auth now db = some next) :
    next = db ∨ ∃ rows, next =
        { (resolveInboundBinding hashToken acct update auth now db).2 with
          messages := (resolveInboundBinding hashToken acct update auth now db).2.messages ++ rows } ∧
      ∀ msg ∈ rows, msg.accountId = acct.id ∧
        msg.providerEventScope = update.scope ∧ msg.providerEventId = update.eventId ∧
        msg.externalChatId = update.chat := by
  rw [telegramWebhook] at handled
  split at handled
  · cases handled
    exact .inl rfl
  · obtain ⟨after, made, rfl⟩ := map_eq_some_iff.mp handled
    obtain ⟨rows, rfl, evs⟩ := recordInboundMessages_append made
    exact .inr ⟨rows, rfl, evs⟩

variable {ev : TelegramUpdate} {alt : ChannelAccount}

lemma recorded_rows {rows}
    (evs : ∀ msg ∈ rows, msg.accountId = acct.id ∧ msg.providerEventScope = update.scope ∧ msg.providerEventId =
      update.eventId ∧ msg.externalChatId = update.chat)
    (known : recorded alt ev rows = true) : sameEvent alt ev (acct, update) = true := by
  rw [recorded] at known
  cases named : ev.eventId with
  | none =>
    rw [named] at known
    cases known
  | some eventId =>
    rw [named, any_some] at known
    obtain ⟨msg, mem, same⟩ := any_eq_true.mp known
    obtain ⟨account', scope, eventId', chat⟩ := evs msg mem
    simp only [ChannelMessage.ofEvent, account', scope, eventId', chat, and_eq_true,
      decide_eq_true_eq, or_eq_true] at same
    obtain ⟨⟨⟨sameAccount, sameScope⟩, sameId⟩, sameChat⟩ := same
    simp only [sameEvent, named, isSome_some, and_eq_true, decide_eq_true_eq, or_eq_true]
    refine ⟨⟨⟨⟨sameAccount.symm, sameScope.symm⟩, trivial⟩, sameId.symm⟩, ?_⟩
    exact sameChat.imp_right Eq.symm

lemma webhook_recorded (handled : telegramWebhook hashToken acct update auth now db = some next)
    (known : recorded alt ev next.messages = true) :
    recorded alt ev db.messages = true ∨ sameEvent alt ev (acct, update) = true := by
  rcases webhook_handled handled with rfl | ⟨rows, rfl, evs⟩
  · exact .inl known
  · rw [recorded_append, resolve_recorded, or_eq_true] at known
    exact known.imp_right (recorded_rows evs)

lemma webhook_recorded_mono (handled : telegramWebhook hashToken acct update auth now db = some next)
    (known : recorded alt ev db.messages = true) : recorded alt ev next.messages = true := by
  rcases webhook_handled handled with rfl | ⟨rows, rfl, evs⟩
  · exact known
  · rw [recorded_append, resolve_recorded, known]
    rfl

lemma webhook_keeps (handled : telegramWebhook hashToken acct update auth now db = some next) :
    Spends db.pairCodes next.pairCodes := by
  rcases webhook_handled handled with rfl | ⟨rows, rfl, evs⟩
  · exact Spends.refl _
  · exact resolve_keeps

lemma webhook_fresh (fresh : recorded acct update db.messages = false) :
    telegramWebhook hashToken acct update auth now db = (leftRows acct update auth.active
        (resolveInboundBinding hashToken acct update auth now db).1).map fun rows =>
        { (resolveInboundBinding hashToken acct update auth now db).2 with
          messages :=
            (resolveInboundBinding hashToken acct update auth now db).2.messages ++ rows } := by
  have still : recorded acct update
      (resolveInboundBinding hashToken acct update auth now db).2.messages = false := by
    rw [resolve_recorded, fresh]
  rw [telegramWebhook, fresh, Bool.and_false, if_neg Bool.false_ne_true]
  dsimp only
  rw [recordInboundMessages_fresh still, Option.map_map]
  rfl

lemma webhook_leaves (fresh : recorded acct update db.messages = false) (named : update.eventId.isSome = true)
    (handled : telegramWebhook hashToken acct update auth now db = some next) :
    recorded acct update next.messages = true ∨
      Spent hashToken next.pairCodes now acct update ∧ acct.visibility = .isPublic ∧ acct.userId = none := by
  rw [webhook_fresh fresh] at handled
  obtain ⟨rows, left, rfl⟩ := map_eq_some_iff.mp handled
  rw [leftRows] at left
  split at left
  · rename_i nothing
    right
    refine ⟨resolve_traceless nothing, ?_⟩
    simp only [traceless, and_eq_true, decide_eq_true_eq, isNone_iff_eq_none] at nothing
    exact ⟨nothing.1.2, nothing.2⟩
  · left
    rw [recorded_append, recorded_newRows left (targets_ne_nil _ _) named, Bool.or_true]

lemma webhook_quiet (handled : telegramWebhook hashToken acct update auth now db = some next)
    (spent : recorded acct update db.messages = true ∧ update.command.isSome = true ∨
      Spent hashToken db.pairCodes now acct update ∧ (unpairs update = true → controlled acct update db = [])) :
    next.bindings = db.bindings ∧ next.pairCodes = db.pairCodes := by
  rcases spent with ⟨known, cmd⟩ | ⟨spent, free⟩
  · rw [telegramWebhook, known, cmd] at handled
    cases handled
    exact ⟨rfl, rfl⟩
  · rcases webhook_handled handled with rfl | ⟨rows, rfl, _⟩
    · exact ⟨rfl, rfl⟩
    · exact resolve_quiet spent free

end

structure Sound (hashToken : String → String) (w : World) : Prop where
  keyed : ∀ acct update, recorded acct update w.db.messages = true → w.history.any (sameEvent acct update) = true
  spent : ∀ e ∈ w.history, e.2.eventId.isSome = true → recorded e.1 e.2 w.db.messages = true ∨
      Spent hashToken w.db.pairCodes w.now e.1 e.2 ∧ e.1.visibility = .isPublic ∧ e.1.userId = none

structure Matches (full reduced : World) : Prop where
  bindings : full.db.bindings = reduced.db.bindings
  pairCodes : full.db.pairCodes = reduced.db.pairCodes
  now : full.now = reduced.now
  history : full.history = reduced.history
  keyed : ∀ acct update, recorded acct update reduced.db.messages = true →
    reduced.history.any (sameEvent acct update) = true

section
variable {hashToken : String → String} {full reduced : World}

lemma Sound.wait (sound : Sound hashToken full) (elapsed : Nat) :
    Sound hashToken { full with now := full.now + elapsed } where
  keyed := sound.keyed
  spent := by
    intro e mem named
    refine (sound.spent e mem named).imp_right ?_
    intro ⟨spent, public'⟩
    exact ⟨spent.mono (Spends.refl _) (Nat.le_add_right _ _), public'⟩

lemma any_append_of {α : Type*} {l m : List α} {p : α → Bool} (known : l.any p = true) : (l ++ m).any p = true := by
  rw [List.any_append, known, Bool.true_or]

variable {auth : Authority}
section
variable (sound : Sound hashToken full)
include sound

variable {db : Database}

lemma Sound.handle {acct update} (fresh : full.history.any (sameEvent acct update) = false)
    (handled : telegramWebhook hashToken acct update auth full.now full.db = some db) :
    Sound hashToken { full with db := db, history := full.history ++ [(acct, update)] } where
  keyed := by
    intro alt ev known
    rcases webhook_recorded handled known with pre | same
    · exact any_append_of (sound.keyed alt ev pre)
    · show (full.history ++ [(acct, update)]).any _ = true
      rw [List.any_append, List.any_cons, same, Bool.true_or, Bool.or_true]
  spent := by
    intro e mem named
    rcases mem_append.mp mem with pre | new
    · rcases sound.spent e pre named with known | ⟨spent, public'⟩
      · exact .inl (webhook_recorded_mono handled known)
      · exact .inr ⟨spent.mono (webhook_keeps handled) le_rfl, public'⟩
    · rw [mem_singleton.mp new] at named ⊢
      apply webhook_leaves _ named handled
      by_contra known
      have listed := sound.keyed acct update (eq_true_of_not_eq_false known)
      rw [fresh] at listed
      cases listed

lemma Sound.again {acct update} (mem : (acct, update) ∈ full.history)
    (handled : telegramWebhook hashToken acct update auth full.now full.db = some db) :
    Sound hashToken { full with db := db } where
  keyed := by
    intro alt ev known
    rcases webhook_recorded handled known with pre | same
    · exact sound.keyed alt ev pre
    · exact any_eq_true.mpr ⟨(acct, update), mem, same⟩
  spent := by
    intro e listed named
    rcases sound.spent e listed named with known | ⟨spent, public'⟩
    · exact .inl (webhook_recorded_mono handled known)
    · exact .inr ⟨spent.mono (webhook_keeps handled) le_rfl, public'⟩

lemma step_sound (act : Action) : Sound hashToken (step hashToken full act) := by
  cases act with
  | webhook acct update auth elapsed =>
    rw [step]
    split
    · exact sound.wait elapsed
    · rename_i fresh
      split
      · exact sound.wait elapsed
      · rename_i db handled
        exact (sound.wait elapsed).handle (eq_false_of_not_eq_true fresh) handled
  | redeliver idx auth elapsed =>
    rw [step]
    split
    · exact sound.wait elapsed
    · rename_i acct update located
      split
      · exact sound.wait elapsed
      · split
        · exact sound.wait elapsed
        · rename_i db handled
          exact (sound.wait elapsed).again (mem_of_getElem? located) handled
  | wait elapsed => exact sound.wait elapsed

lemma redeliver_quiet {idx : Nat} {elapsed : Nat}
    (harmless : Recaptures full (.redeliver idx auth elapsed) = false) :
    (step hashToken full (.redeliver idx auth elapsed)).db.bindings = full.db.bindings ∧
      (step hashToken full (.redeliver idx auth elapsed)).db.pairCodes = full.db.pairCodes := by
  rw [step]
  split
  · exact ⟨rfl, rfl⟩
  rename_i acct update located
  split
  · exact ⟨rfl, rfl⟩
  rename_i named
  split
  · exact ⟨rfl, rfl⟩
  rename_i db handled
  have some' : update.eventId.isSome = true := by
    cases ev : update.eventId with
    | none => exact absurd (by rw [ev]; rfl) named
    | some eventId => rfl
  have e := (sound.wait elapsed).spent _ (mem_of_getElem? located) some'
  apply webhook_quiet handled
  by_cases cmd : update.command.isSome = true
  · rcases e with known | ⟨spent, _⟩
    · exact .inl ⟨known, cmd⟩
    · by_cases known : recorded acct update full.db.messages = true
      · exact .inl ⟨known, cmd⟩
      · refine Or.inr ⟨spent, ?_⟩
        intro unpair
        simp only [Recaptures, located, some', unpair, known, Bool.true_and, Bool.not_false] at harmless
        rw [controlled, List.filter_eq_nil_iff]
        intro bind mem control
        have hit : (findBindings acct update full.db).any (·.controlledBy update.actor) = true :=
          any_eq_true.mpr ⟨bind, mem, control⟩
        rw [harmless] at hit
        cases hit
  · right
    constructor
    · intro code pair
      rw [pair] at cmd
      exact absurd rfl cmd
    · intro unpair
      simp only [unpairs, and_eq_true, decide_eq_true_eq] at unpair
      rw [unpair.1] at cmd
      exact absurd rfl cmd

end

lemma webhook_matches {acct update} {auth} {now : Nat} {db alt : Database}
    (binds : db.bindings = alt.bindings) (pairCodes : db.pairCodes = alt.pairCodes)
    (fresh : recorded acct update db.messages = false)
    (fresh' : recorded acct update alt.messages = false) :
    match telegramWebhook hashToken acct update auth now db,
      telegramWebhook hashToken acct update auth now alt with
    | none, none => True
    | some next, some next' => next.bindings = next'.bindings ∧ next.pairCodes = next'.pairCodes
    | _, _ => False := by
  have same : alt = { db with messages := alt.messages } := by rw [binds, pairCodes]
  obtain ⟨res, bound, codes⟩ := @resolve_messages hashToken acct update auth now db alt.messages
  rw [← same] at res bound codes
  rw [webhook_fresh fresh, webhook_fresh fresh', res]
  cases leftRows acct update auth.active
      (resolveInboundBinding hashToken acct update auth now db).1 with
  | none => exact trivial
  | some rows => exact ⟨bound.symm, codes.symm⟩

lemma step_matches (sound : Sound hashToken full) (matches' : Matches full reduced)
    (act : Action) (harmless : Recaptures full act = false) :
    Matches (step hashToken full act) (step hashToken reduced act.original) := by
  cases act with
  | wait elapsed =>
    exact ⟨matches'.bindings, matches'.pairCodes, by simp [step, Action.original, matches'.now],
      matches'.history, matches'.keyed⟩
  | redeliver idx auth elapsed =>
    obtain ⟨binds, pairCodes⟩ := redeliver_quiet sound harmless
    have now : (step hashToken full (.redeliver idx auth elapsed)).now = full.now + elapsed ∧
        (step hashToken full (.redeliver idx auth elapsed)).history = full.history := by
      rw [step]
      split
      · exact ⟨rfl, rfl⟩
      split
      · exact ⟨rfl, rfl⟩
      split <;> exact ⟨rfl, rfl⟩
    constructor
    · rw [binds]
      exact matches'.bindings
    · rw [pairCodes]
      exact matches'.pairCodes
    · rw [now.1, matches'.now]
      rfl
    · rw [now.2]
      exact matches'.history
    · exact matches'.keyed
  | webhook acct update auth elapsed =>
    have keyed : ∀ alt ev, recorded alt ev reduced.db.messages = true →
        full.history.any (sameEvent alt ev) = true := by
      rw [matches'.history]
      exact matches'.keyed
    show Matches (step hashToken full (.webhook acct update auth elapsed))
      (step hashToken reduced (.webhook acct update auth elapsed))
    rw [step, step]
    rw [← matches'.history, ← matches'.now]
    split
    · exact ⟨matches'.bindings, matches'.pairCodes, rfl, rfl, keyed⟩
    rename_i fresh
    have unknown : recorded acct update full.db.messages = false := by
      by_contra known
      exact fresh (sound.keyed acct update (eq_true_of_not_eq_false known))
    have unknown' : recorded acct update reduced.db.messages = false := by
      by_contra known
      exact fresh (keyed acct update (eq_true_of_not_eq_false known))
    have out := @webhook_matches hashToken acct update auth (full.now + elapsed) full.db
      reduced.db matches'.bindings matches'.pairCodes unknown unknown'
    cases first : telegramWebhook hashToken acct update auth (full.now + elapsed) full.db with
    | none =>
      cases snd :
          telegramWebhook hashToken acct update auth (full.now + elapsed) reduced.db with
      | none => exact ⟨matches'.bindings, matches'.pairCodes, rfl, rfl, keyed⟩
      | some next' =>
        rw [first, snd] at out
        exact out.elim
    | some next =>
      cases snd :
          telegramWebhook hashToken acct update auth (full.now + elapsed) reduced.db with
      | none =>
        rw [first, snd] at out
        exact out.elim
      | some next' =>
        rw [first, snd] at out
        refine ⟨out.1, out.2, rfl, rfl, ?_⟩
        intro alt ev known
        show (full.history ++ [(acct, update)]).any _ = true
        rcases webhook_recorded snd known with pre | same
        · exact any_append_of (keyed alt ev pre)
        · rw [List.any_append, List.any_cons, same, Bool.true_or, Bool.or_true]

end
end Clawdi.Pairing
