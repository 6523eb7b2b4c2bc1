import Clawdi.DiscordGateway.Delivered

namespace Clawdi.DiscordGateway
open Transition SessionStore List
variable {w : World}

/-- A live dispatch that the lease on the binding, the credentials of an interaction or the authority
of the agent refuse. -/
def World.refuses (w : World) (id : Nat) (turn : Turn) (proj : Option JsonObject) : Prop :=
  ∀ bid, turn.message.bindingId = some bid →
    w.scopes.leases (w.connections id).agent bid turn.message.externalChatId = false ∨
      turn.payload.interactionIsDeliverable = false ∨
      authorized turn.payload turn.authority = false ∨
      (turn.payload.lifecycle = false ∧ proj = none)

inductive GivesUp (w : World) (mid : Uuid) : Action → Prop
  | refused {id : Nat} {turn : Turn} {proj : Option JsonObject} {page : List ChannelMessage}
      {locked : Bool} : (w.connections id).stage = .deciding turn proj page →
      turn.message.id = mid → w.refuses id turn proj →
      GivesUp w mid (.lease id locked)
  | retired {act : Action} {row : ChannelMessage} {bind : ChannelBinding} :
      row ∈ w.messages → row.id = mid → row.bindingId = some bind.id →
      bind ∈ w.scopes.bindings → bind.status = .active →
      { bind with status := .archived } ∈ (step w act).scopes.bindings →
      GivesUp w mid act

def World.gaveUp (w : World) (mid : Uuid) : Prop := mid ∈ w.dropped ∨ mid ∈ w.retired

variable {mid : Uuid}

lemma Unmoved.gaveUp {after} (unmoved : Unmoved w after) (gone : after.gaveUp mid) : w.gaveUp mid := by
  rw [World.gaveUp, unmoved.dropped, unmoved.retired] at gone
  exact gone

lemma lease_gaveUp {id sid : Nat} {turn proj page locked}
    (gone : (w.lease id sid turn proj page locked).gaveUp mid) :
    w.gaveUp mid ∨ (turn.message.id = mid ∧ w.refuses id turn proj) := by
  have ended := unmoved_endTurn w id sid turn false page
  unfold World.lease at gone
  cases named : turn.message.bindingId with
  | none =>
    rw [named] at gone
    left
    exact ended.gaveUp gone
  | some bid =>
    rw [named] at gone
    dsimp only at gone
    split at gone
    · left
      exact ended.gaveUp gone
    · split at gone
      · split at gone
        · left
          exact (unmoved_close w id).gaveUp gone
        · left
          exact (unmoved_setStage w id _ rfl).gaveUp gone
      · rename_i refused
        rcases gone with dropped | retired
        · rcases mem_append.mp dropped with pre | here
          · left
            left
            exact pre
          · right
            refine ⟨(mem_singleton.mp here).symm, ?_⟩
            intro alt same
            rw [named] at same
            cases same
            by_contra acc
            push Not at acc
            simp only [Bool.not_eq_false] at acc
            apply refused
            refine ⟨acc.1, acc.2.1, acc.2.2.1, ?_⟩
            by_cases lifecycle : turn.payload.lifecycle = true
            · left
              exact lifecycle
            · right
              exact Option.isSome_iff_ne_none.mpr (acc.2.2.2 (Bool.eq_false_iff.mpr lifecycle))
        · left
          right
          exact retired

variable {scopes : Scopes} {act : Action}

lemma archiveBindings_gaveUp {chosen : ChannelBinding → Bool} (same : scopes.bindings = w.scopes.bindings)
    (acts : step w act = w.archiveBindings chosen scopes) (gone : (step w act).gaveUp mid) :
    w.gaveUp mid ∨ GivesUp w mid act := by
  rw [acts] at gone
  rcases gone with dropped | retired
  · left
    left
    exact dropped
  · rcases mem_append.mp retired with pre | new
    · left
      right
      exact pre
    · right
      obtain ⟨row, listed, named⟩ := mem_map.mp new
      obtain ⟨mem, attached⟩ := mem_filter.mp listed
      obtain ⟨bid, bound, among⟩ : ∃ bid, row.bindingId = some bid ∧ _ := by
        simpa only [Option.any_eq_true] using attached
      obtain ⟨bind, archived, rfl⟩ := mem_map.mp (of_decide_eq_true among)
      obtain ⟨old, active⟩ := mem_filter.mp archived
      rw [Bool.and_eq_true] at active
      refine GivesUp.retired mem named bound (same ▸ old) (of_decide_eq_true active.2) ?_
      rw [acts]
      refine mem_map.mpr ⟨bind, old, ?_⟩
      rw [if_pos active.1]

lemma step_gaveUp (gone : (step w act).gaveUp mid) : w.gaveUp mid ∨ GivesUp w mid act := by
  have still : ∀ {after : World}, Unmoved w after → after.gaveUp mid →
      w.gaveUp mid ∨ GivesUp w mid act :=
    fun unmoved gone => .inl (unmoved.gaveUp gone)
  cases act with
  | insert | commit | rollback | wait | connect => exact .inl gone
  | unpair bid =>
    by_cases sends : w.sendsUnder fun _ held => held = bid
    · rw [step, if_pos sends] at gone
      exact .inl gone
    · have acts : step w (.unpair bid) = w.archiveBindings (fun bind => bind.id = bid) w.scopes := if_neg sends
      exact archiveBindings_gaveUp rfl acts gone
  | pair bind =>
    by_cases sends : w.sendsUnder fun _ held => held = bind.id
    · rw [step, if_pos sends] at gone
      exact .inl gone
    · rw [step, if_neg sends] at gone
      exact .inl gone
  | archiveLink linkId =>
    by_cases sends : w.sendsUnder fun conn _ => conn.agent.botAgentLinkId = linkId
    · rw [step, if_pos sends] at gone
      exact .inl gone
    · have acts : step w (.archiveLink linkId) = w.archiveLink linkId := if_neg sends
      exact archiveBindings_gaveUp (by rfl) acts gone
  | archiveAccount acctId =>
    by_cases sends : w.sendsUnder fun conn _ => conn.agent.accountId = acctId
    · rw [step, if_pos sends] at gone
      exact .inl gone
    · have acts : step w (.archiveAccount acctId) = w.archiveAccount acctId :=
        if_neg sends
      exact archiveBindings_gaveUp (by rfl) acts gone
  | identify id agent =>
    simp only [step] at gone
    split at gone
    · split at gone
      · exact .inl gone
      · exact still (unmoved_close w id) gone
    · exact .inl gone
  | resume id agent sid sequence arrives =>
    have answered {after : World} (gone : (after.answerInvalid id arrives).gaveUp mid) :
        after.gaveUp mid := by
      cases arrives with
      | true => exact gone
      | false => exact gone
    simp only [step] at gone
    left
    split at gone
    · cases sid with
      | none => exact answered gone
      | some sid =>
        simp only [World.resume] at gone
        split at gone
        · exact (answered gone :)
        · split at gone
          · exact (answered gone :)
          · split at gone
            · exact (answered gone :)
            · exact gone
    · exact gone
  | claim id free arrives =>
    simp only [step] at gone
    left
    split at gone
    · simp only [World.claimIdentify] at gone
      split at gone <;> exact gone
    · simp only [World.claimResume] at gone
      split at gone
      · split at gone
        · exact gone
        · split at gone <;> exact gone
      · exact gone
    · exact gone
  | drop id =>
    simp only [step] at gone
    split at gone
    · exact .inl gone
    · exact .inl gone
    · exact still (unmoved_close w id) gone
  | settle id auth done =>
    simp only [step] at gone
    left
    split at gone
    · cases done with
      | committed => exact gone
      | failed => exact gone
      | lost => exact gone
    · exact gone
  | write id arrives =>
    simp only [step] at gone
    split at gone
    · exact still (unmoved_write w id _ arrives) gone
    · exact .inl gone
  | heartbeat id sequence done arrives =>
    have beats : ∀ {sid : Nat}, (w.heartbeat id sid sequence done arrives).gaveUp mid →
          w.gaveUp mid := by
      intro sid gone
      simp only [World.heartbeat] at gone
      split at gone
      · cases done with
        | committed =>
          cases arrives with
          | true => exact gone
          | false => exact gone
        | failed => exact gone
        | lost => exact gone
      · cases arrives with
        | true => exact gone
        | false => exact gone
    simp only [step] at gone
    split at gone
    · exact .inl (beats gone)
    · exact .inl (beats gone)
    · exact .inl (beats gone)
    · exact .inl gone
  | fetch id =>
    simp only [step] at gone
    left
    split at gone
    · split at gone <;> exact gone
    · exact gone
  | proceed id =>
    simp only [step] at gone
    split at gone
    · exact still (unmoved_proceed w id _) gone
    · exact .inl gone
  | lease id locked =>
    simp only [step] at gone
    split at gone
    · rename_i decides attached
      rcases lease_gaveUp gone with pre | ⟨named, refuses⟩
      · exact .inl pre
      · exact .inr (GivesUp.refused decides named refuses)
    · exact .inl gone
  | _ =>
    simp only [step] at gone
    split at gone <;> exact .inl gone

lemma gaveUp_run {actions} (gone : (run step (World.new scopes) actions).gaveUp mid) :
    ∃ pre act after, actions = pre ++ act :: after ∧ GivesUp (run step (World.new scopes) pre) mid act := by
  have first : ¬(World.new scopes).gaveUp mid := by
    rintro (dropped | retired)
    · cases dropped
    · cases retired
  obtain ⟨pre, act, after, split, off, on⟩ :=
    @run_turns World Action step (fun w => w.gaveUp mid) _ first actions gone
  refine ⟨pre, act, after, split, ?_⟩
  rcases step_gaveUp on with early | givesUp
  · exact absurd early off
  · exact givesUp

variable {w : World} {id sid : Nat}
section

lemma resume_answers (hello : w.stage id = .hello) (agent : Agent) (named : Option Nat)
    (sequence : Option Int) : (step w (.resume id agent named sequence true)).states = w.states ∧
      ((∃ sid, named = some sid ∧ (step w (.resume id agent named sequence true)).stage id = .resuming sid sequence ∧
          (step w (.resume id agent named sequence true)).written = w.written) ∨
        ((step w (.resume id agent named sequence true)).stage id = .hello ∧
          (step w (.resume id agent named sequence true)).written = w.written ++ [.invalidSession id])) := by
  have at_hello : (w.connections id).stage = .hello := hello
  simp only [step, at_hello]
  cases named with
  | none => exact ⟨rfl, .inr ⟨hello, rfl⟩⟩
  | some sid =>
    simp only [World.resume]
    split
    · exact ⟨rfl, .inr ⟨hello, rfl⟩⟩
    · split
      · exact ⟨rfl, .inr ⟨hello, rfl⟩⟩
      · split
        · exact ⟨rfl, .inr ⟨hello, rfl⟩⟩
        · refine ⟨rfl, .inl ⟨sid, rfl, ?_, rfl⟩⟩
          exact congrArg Connection.stage (setConnection_self (w.report sid sequence) id _)

lemma mem_discard {store e} (mem : e ∈ discard sid store) : e.sessionId ≠ sid :=
  of_decide_eq_true (mem_filter.mp mem).2

variable {sequence : Option Int}

lemma claim_answers (waits : w.stage id = .resuming sid sequence)
    (granted : w.leases (w.connections id).agent = none) :
    (∃ v, sequence = some v ∧ (w.states sid).accepts sequence = true ∧
        (step w (.claim id true true)).stage id = .acknowledging v ∧
        (step w (.claim id true true)).written = w.written) ∨ ((w.states sid).accepts sequence = false ∧
        (step w (.claim id true true)).written = w.written ++ [.invalidSession id] ∧
        ∀ e ∈ (step w (.claim id true true)).store, e.sessionId ≠ sid) := by
  have at_claim : (w.connections id).stage = .resuming sid sequence := waits
  simp only [step, at_claim, World.claimResume, granted, and_self, if_true]
  cases sequence with
  | none =>
    right
    exact ⟨rfl, rfl, fun e mem => mem_discard mem⟩
  | some v =>
    cases acc : (w.states sid).accepts (some v) with
    | true =>
      left
      have here := setConnection_self
        { w with leases := Function.update w.leases (w.connections id).agent (some id) } id
        { w.connections id with sessionId := some sid, stage := .acknowledging v }
      have staged := congrArg Connection.stage here
      exact ⟨v, rfl, rfl, staged, rfl⟩
    | false =>
      right
      exact ⟨rfl, rfl, fun e mem => mem_discard mem⟩

lemma settle_resumes {sequence : Int} (accepting : w.stage id = .acknowledging sequence)
    (attached : (w.connections id).sessionId = some sid) (auth : Authority) :
    (step w (.settle id auth .committed)).resumes = w.resumes ++
      [{ connection := id, sessionId := sid, sequence
         due := ((w.recordedOf sid).filter fun record =>
          sequence < (record.frame.s : Int)).map Recorded.frame }] := by
  have at_claim : (w.connections id).stage = .acknowledging sequence := accepting
  have chosen : (w.recordedOf sid).filter (fun record =>
      sequence < (record.frame.s : Int)) = w.recorded.filter fun record =>
        record.sessionId = sid ∧ sequence < (record.frame.s : Int) := by
    rw [World.recordedOf, filter_filter]
    apply filter_congr
    intro record _
    rw [Bool.and_comm, Bool.decide_and]
  rw [chosen]
  simp only [step, at_claim, attached]
  rfl

lemma claim_closes (waits : w.stage id = .resuming sid sequence) {free : Bool}
    (taken : ¬(w.leases (w.connections id).agent = none ∧ free)) :
    (step w (.claim id free true)).stage id = .closed ∧ (step w (.claim id free true)).written = w.written := by
  have at_claim : (w.connections id).stage = .resuming sid sequence := waits
  simp only [step, at_claim, World.claimResume, if_neg taken]
  exact ⟨congrArg Connection.stage (setConnection_self w id .closed), rfl⟩

end

def World.Received (w : World) (mid : Uuid) : Prop :=
  ∃ rcpt ∈ w.receipts, rcpt.messageId = mid ∧ w.Vouched rcpt ∧
    ∃ record ∈ w.recorded, ∃ id, record.sessionId = rcpt.sessionId ∧ record.frame.s = rcpt.sequence ∧
      record.checkpoint.map Checkpoint.messageId = some mid ∧
      Written.dispatch id record.sessionId record.frame true ∈ w.written

lemma Ledger.received (ledger : Ledger w) {mid}
    (covered : mid ∈ w.receipts.map Receipt.messageId) : w.Received mid := by
  obtain ⟨rcpt, mem, rfl⟩ := mem_map.mp covered
  have vouched := ledger.vouched rcpt mem
  obtain ⟨record, listed, checkpoint, sess, sequence, carries, same⟩ := vouched.recorded
  obtain ⟨id, sent⟩ := ledger.dispatched record listed
  refine ⟨rcpt, mem, rfl, vouched, record, listed, id, sess, sequence, ?_, sent⟩
  rw [carries, ← same]
  rfl

/-- A message is delivered by its receipt or given up, sequences grow, a RESUME is replayed whole or
refused, and the unacknowledged messages are bounded. -/
theorem gateway_keeps_receipts (scopes : Scopes) (actions : List Action) :
    let w := run step (World.new scopes) actions
    (∀ row ∈ w.messages, row.deliveredAt.isSome → w.Received row.id ∨
        ∃ pre act after, actions = pre ++ act :: after ∧ GivesUp (run step (World.new scopes) pre) row.id act) ∧
      ((∀ sid, (w.dispatchesOf sid).Pairwise fun first snd =>
          first.2 = true → first.1 < snd.1) ∧
        (∀ id, (w.dispatchesOn id).Pairwise (· < ·)) ∧
        ∀ sid, sid ∉ w.brokenOff → (w.dispatchesOf sid).Pairwise fun first snd => first.1 < snd.1) ∧
      ((∀ resume ∈ w.resumes, w.replaysOn resume.connection <+: resume.due ∧
          (w.dispatchesOn resume.connection ≠ [] → w.replaysOn resume.connection = resume.due)) ∧
        (∀ id sid sequence, w.stage id = .acknowledging sequence → (w.connections id).sessionId = some sid → ∀ auth,
          (step w (.settle id auth .committed)).resumes = w.resumes ++
            [{ connection := id, sessionId := sid, sequence
               due := ((w.recordedOf sid).filter fun record =>
                sequence < (record.frame.s : Int)).map Recorded.frame }]) ∧
        (∀ id, w.stage id = .hello → ∀ agent named sequence,
          (step w (.resume id agent named sequence true)).states = w.states ∧ ((∃ sid, named = some sid ∧
                (step w (.resume id agent named sequence true)).stage id = .resuming sid sequence ∧
                (step w (.resume id agent named sequence true)).written = w.written) ∨
              ((step w (.resume id agent named sequence true)).stage id = .hello ∧
                (step w (.resume id agent named sequence true)).written = w.written ++ [.invalidSession id]))) ∧
        ∀ id sid sequence, w.stage id = .resuming sid sequence → (w.leases (w.connections id).agent = none →
            (∃ v, sequence = some v ∧ (w.states sid).accepts sequence = true ∧
                (step w (.claim id true true)).stage id = .acknowledging v ∧
                (step w (.claim id true true)).written = w.written) ∨
              ((w.states sid).accepts sequence = false ∧
                (step w (.claim id true true)).written = w.written ++ [.invalidSession id] ∧
                ∀ e ∈ (step w (.claim id true true)).store, e.sessionId ≠ sid)) ∧
            ∀ free, ¬(w.leases (w.connections id).agent = none ∧ free = true) →
              (step w (.claim id free true)).stage id = .closed ∧
                (step w (.claim id free true)).written = w.written) ∧
      ∀ sid, (w.states sid).messageCheckpoints.length ≤ resumeBufferSize := by
  have inv := (serves_run scopes actions).sound
  have ledger := ledger_run scopes actions
  refine ⟨?_, ⟨?_, ?_, ?_⟩, ⟨?_, ?_, ?_, ?_⟩, ?_⟩
  · intro row mem delivered
    rcases ledger.delivered row mem delivered with received | gone
    · left
      exact ledger.received received
    · right
      exact gaveUp_run gone
  · exact fun sid => (inv.sessions sid).ordered
  · exact fun id => (inv.logs id).ascending
  · exact fun sid unbroken => (inv.sessions sid).strict unbroken
  · intro resume mem
    exact (inv.logs resume.connection).replayed resume mem rfl
  · intro id sid sequence accepting attached auth
    exact settle_resumes accepting attached auth
  · intro id hello agent named sequence
    exact resume_answers hello agent named sequence
  · intro id sid sequence waits
    refine ⟨claim_answers waits, ?_⟩
    intro free taken
    exact claim_closes waits taken
  · exact fun sid => (inv.sessions sid).capped

def sampleAgent : Agent := { accountId := "account", botAgentLinkId := "link" }

def sampleScopes : Scopes :=
  { bindings :=
      [{ id := "binding", accountId := "account", botAgentLinkId := "link", userId := "user"
         externalChatId := "chat", status := .active }]
    links :=
      [{ id := "link", accountId := "account", userId := "user", status := .active
         archivedAt := none }]
    accounts := [{ id := "account", provider := "discord", status := .active, archivedAt := none }] }

/-- An IDENTIFY up to the end of the startup dispatches, the loss of the connection, and a RESUME. -/
def sampleActions : List Action :=
  [.connect, .identify 0 sampleAgent, .claim 0 true true,
    .prepare 0 [] { guilds := [], channels := [] } [], .write 0 true, .write 0 true, .drop 0,
    .connect, .resume 1 sampleAgent (some 0) (some 1) true]

/-- A RESUME whose consumer lease is still held is neither accepted nor answered by opcode 9, and its
session stays. -/
theorem refused_resume_unanswered : let pre := run step (World.new sampleScopes) sampleActions
    let after := step pre (.claim 1 false true)
    pre.stage 1 = .resuming 0 (some 1) ∧ after.resumes.length = 0 ∧
      after.written.length = pre.written.length ∧ pre.written.length = 1 ∧
      after.store.map SessionEntry.sessionId = [0] ∧
      (after.stage 1).outside = true ∧ (after.connections 1).sessionId = none := by
  refine ⟨rfl, ?_⟩
  decide +kernel

end Clawdi.DiscordGateway
