import Clawdi.Pairing.Webhook

namespace Clawdi.Pairing
open Transition

structure World where
  db : Database
  now : Nat
  history : List (ChannelAccount × TelegramUpdate)

inductive Action
  | webhook (acct : ChannelAccount) (update : TelegramUpdate) (auth : Authority) (elapsed : Nat)
  | redeliver (idx : Nat) (auth : Authority) (elapsed : Nat)
  | wait (elapsed : Nat)

def Action.original : Action → Action
  | .redeliver _ _ elapsed => .wait elapsed
  | action => action

def sameEvent (acct : ChannelAccount) (update : TelegramUpdate) (known : ChannelAccount × TelegramUpdate) : Bool :=
  acct.id = known.1.id && update.scope = known.2.scope && update.eventId.isSome &&
    update.eventId = known.2.eventId && (update.scope ≠ .chat || update.chat = known.2.chat)

section
variable (hashToken : String → String)

def step (w : World) : Action → World
  | .webhook acct update auth elapsed =>
    let w := { w with now := w.now + elapsed }
    if w.history.any (sameEvent acct update) then w
    else
      match telegramWebhook hashToken acct update auth w.now w.db with
      | none => w
      | some db => { w with db := db, history := w.history ++ [(acct, update)] }
  | .redeliver idx auth elapsed =>
    let w := { w with now := w.now + elapsed }
    match w.history[idx]? with
    | none => w
    | some (acct, update) =>
      if update.eventId.isNone then w
      else
        match telegramWebhook hashToken acct update auth w.now w.db with
        | none => w
        | some db => { w with db := db }
  | .wait elapsed => { w with now := w.now + elapsed }

end

def unpairs (update : TelegramUpdate) : Bool :=
  update.command = some .unpair && !(update.actor.isNone && pairingCommandRequiresActor update.chatType)

def Recaptures (w : World) : Action → Bool
  | .redeliver idx _ _ =>
    match w.history[idx]? with
    | none => false
    | some (acct, update) =>
      update.eventId.isSome && unpairs update && !recorded acct update w.db.messages &&
        (findBindings acct update w.db).any (·.controlledBy update.actor)
  | _ => false

section
variable {acct : ChannelAccount} {update : TelegramUpdate}

def newRows (acct : ChannelAccount) (update : TelegramUpdate) (commandHandled : Bool) :
    List (Option ChannelBinding) → Option (List ChannelMessage)
  | [] => some []
  | binding :: rest =>
    (inboundMessage acct update commandHandled binding).bind fun msg =>
      if update.eventId.isSome then some [msg]
      else (newRows acct update commandHandled rest).map fun rows => msg :: rows

variable {commandHandled : Bool}

lemma inboundMessage_event {binding msg} (made : inboundMessage acct update commandHandled binding = some msg) :
    msg.accountId = acct.id ∧ msg.providerEventScope = update.scope ∧
      msg.providerEventId = update.eventId ∧ msg.externalChatId = update.chat := by
  rw [inboundMessage] at made
  split at made
  · cases made
  · cases made
    exact ⟨rfl, rfl, rfl, rfl⟩

lemma recorded_append {first snd} : recorded acct update (first ++ snd) =
      (recorded acct update first || recorded acct update snd) := by
  unfold recorded
  cases update.eventId with
  | none => rfl
  | some eventId => exact List.any_append

lemma recorded_made {binding msg} (made : inboundMessage acct update commandHandled binding = some msg) :
    recorded acct update [msg] = update.eventId.isSome := by
  obtain ⟨account', scope, eventId, chat⟩ := inboundMessage_event made
  unfold recorded
  cases ev : update.eventId with
  | none => rfl
  | some id => simp [ChannelMessage.ofEvent, account', scope, eventId, chat, ev]

lemma recordTargets_fresh {targets msgs} (fresh : recorded acct update msgs = false) :
    recordTargets acct update commandHandled targets msgs =
      (newRows acct update commandHandled targets).map fun rows => msgs ++ rows := by
  induction targets generalizing msgs with
  | nil => simp [recordTargets, newRows]
  | cons binding rest ih =>
    rw [recordTargets, fresh, newRows]
    cases made : inboundMessage acct update commandHandled binding with
    | none => rfl
    | some msg =>
      simp only [Bool.false_eq_true, if_false, Option.bind_some]
      have known : recorded acct update (msgs ++ [msg]) = update.eventId.isSome := by
        rw [recorded_append, fresh, recorded_made made, Bool.false_or]
      by_cases named : update.eventId.isSome = true
      · rw [if_pos named]
        rw [named] at known
        cases rest with
        | nil => rfl
        | cons alt rest => rw [recordTargets, known]; rfl
      · rw [if_neg named, ih (by rw [known]; exact Bool.eq_false_of_not_eq_true named)]
        simp [Function.comp_def]

def traceless (acct : ChannelAccount) (res : InboundBindingResult) : Bool :=
  res.bindings.isEmpty && res.binding.isNone && acct.visibility = .isPublic && acct.userId.isNone

def leftRows (acct : ChannelAccount) (update : TelegramUpdate) (active : Nat → Bool)
    (res : InboundBindingResult) : Option (List ChannelMessage) :=
  if traceless acct res then some []
  else newRows acct update res.commandHandled (targets active res)

lemma recordInboundMessages_fresh {active : Nat → Bool} {res msgs} (fresh : recorded acct update msgs = false) :
    recordInboundMessages acct update active res msgs =
      (leftRows acct update active res).map fun rows => msgs ++ rows := by
  have bare : (foundTargets res = [none] ∧ acct.visibility = .isPublic ∧
      acct.userId = none) ↔ traceless acct res = true := by
    rw [foundTargets]
    cases binds : res.bindings with
    | nil => simp [traceless, binds, and_assoc]
    | cons binding rest => simp [traceless, binds]
  rw [leftRows, recordInboundMessages]
  by_cases nothing : traceless acct res = true
  · rw [if_pos nothing, if_pos (bare.mpr nothing)]
    simp
  · rw [if_neg nothing, if_neg fun empty => nothing (bare.mp empty)]
    exact recordTargets_fresh fresh

lemma recorded_newRows {targets rows}
    (made : newRows acct update commandHandled targets = some rows) (some' : targets ≠ [])
    (named : update.eventId.isSome = true) : recorded acct update rows = true := by
  cases targets with
  | nil => exact absurd rfl some'
  | cons binding rest =>
    rw [newRows, Option.bind_eq_some_iff] at made
    obtain ⟨msg, first, only⟩ := made
    rw [if_pos named] at only
    cases only
    rw [recorded_made first, named]

lemma targets_ne_nil (active : Nat → Bool) (res : InboundBindingResult) : targets active res ≠ [] := by
  rw [targets]
  split
  · simp
  · rw [foundTargets]
    split
    · simp
    · rename_i hit
      simpa using hit

end

section
variable {hashToken : String → String} {acct : ChannelAccount} {update : TelegramUpdate}
  {auth : Authority} {now : Nat} {db : Database}

lemma getOrCreateBinding_messages (msgs : List ChannelMessage) (link user : Nat) :
    getOrCreateBinding acct update now { db with messages := msgs } link user =
      (getOrCreateBinding acct update now db link user).map fun res =>
        (res.1, { res.2 with messages := msgs }) := by
  have row : chatRow acct update { db with messages := msgs } = chatRow acct update db := rfl
  rw [getOrCreateBinding, getOrCreateBinding, row]
  cases chatRow acct update db with
  | none => rfl
  | some binding =>
    dsimp only
    split <;> rfl

lemma claimPairCode_messages (msgs : List ChannelMessage) (code : String) :
    claimPairCode hashToken acct update now auth { db with messages := msgs } code =
      ((claimPairCode hashToken acct update now auth db code).1,
        { (claimPairCode hashToken acct update now auth db code).2 with
          messages := msgs }) := by
  rw [claimPairCode, claimPairCode]
  cases (db.pairCodes.get (hashToken code)).filter (·.accountId = acct.id) with
  | none => rfl
  | some pairCode =>
    dsimp only
    split
    · rfl
    split
    · rfl
    split
    · rfl
    rw [getOrCreateBinding_messages]
    cases getOrCreateBinding acct update now db pairCode.botAgentLinkId pairCode.userId with
    | none | some => rfl

lemma resolve_messages (msgs : List ChannelMessage) : (resolveInboundBinding hashToken acct update auth now
        { db with messages := msgs }).1 = (resolveInboundBinding hashToken acct update auth now db).1 ∧
      (resolveInboundBinding hashToken acct update auth now { db with messages := msgs }).2.bindings =
        (resolveInboundBinding hashToken acct update auth now db).2.bindings ∧
      (resolveInboundBinding hashToken acct update auth now { db with messages := msgs }).2.pairCodes =
        (resolveInboundBinding hashToken acct update auth now db).2.pairCodes := by
  have hit : findBindings acct update { db with messages := msgs } =
    findBindings acct update db := rfl
  unfold resolveInboundBinding
  rw [hit]
  cases update.command with
  | none => exact ⟨rfl, rfl, rfl⟩
  | some cmd =>
    cases cmd with
    | help => exact ⟨rfl, rfl, rfl⟩
    | unknown =>
      dsimp only
      split <;> exact ⟨rfl, rfl, rfl⟩
    | pair code =>
      dsimp only
      split
      · exact ⟨rfl, rfl, rfl⟩
      split
      · exact ⟨rfl, rfl, rfl⟩
      rw [claimPairCode_messages]
      cases claimPairCode hashToken acct update now auth db code with
      | mk out claimed => cases out <;> exact ⟨rfl, rfl, rfl⟩
    | unpair =>
      dsimp only
      split
      · exact ⟨rfl, rfl, rfl⟩
      split
      · exact ⟨rfl, rfl, rfl⟩
      split <;> exact ⟨rfl, rfl, rfl⟩

end
end Clawdi.Pairing
