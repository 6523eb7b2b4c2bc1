import Clawdi.DiscordGateway.Serves

namespace Clawdi.DiscordGateway
open List

def Connection.pledge (conn : Connection) : Option (Nat × Int) :=
  match conn.stage, conn.sessionId with
  | .resuming sid (some seq), _ => some (sid, seq)
  | .acknowledging seq, some sid => some (sid, seq)
  | _, _ => none

namespace World

structure Vouched (w : World) (rcpt : Receipt) : Prop where
  recorded : ∃ record ∈ w.recorded, ∃ checkpoint, record.sessionId = rcpt.sessionId ∧
    record.frame.s = rcpt.sequence ∧ record.checkpoint = some checkpoint ∧
    checkpoint.messageId = rcpt.messageId
  reported : (rcpt.sessionId, rcpt.reported) ∈ w.reported
  covered : (rcpt.sequence : Int) ≤ rcpt.reported ∧ rcpt.reported ≤ rcpt.last

def Accounts (w : World) (mid : Uuid) : Prop :=
  mid ∈ w.receipts.map Receipt.messageId ∨ mid ∈ w.dropped ∨ mid ∈ w.retired

end World

structure Ledger (w : World) : Prop where
  pledged : ∀ id pledge, (w.connections id).pledge = some pledge → pledge ∈ w.reported
  inserting : ∀ e ∈ w.inserting, e.2.deliveredAt = none
  delivered : ∀ row ∈ w.messages, row.deliveredAt.isSome → w.Accounts row.id
  vouched : ∀ rcpt ∈ w.receipts, w.Vouched rcpt
  dispatched : ∀ record ∈ w.recorded, ∃ id, Written.dispatch id record.sessionId record.frame true ∈ w.written

variable (scopes : Scopes)

lemma Ledger.new : Ledger (World.new scopes) where
  pledged := fun _ _ pledge => nomatch pledge
  inserting := fun _ mem => nomatch mem
  delivered := fun _ mem => nomatch mem
  vouched := fun _ mem => nomatch mem
  dispatched := fun _ mem => nomatch mem

structure Unmoved (w after : World) : Prop where
  messages : after.messages = w.messages
  inserting : after.inserting = w.inserting
  receipts : after.receipts = w.receipts
  dropped : after.dropped = w.dropped
  retired : after.retired = w.retired
  reported : w.reported ⊆ after.reported
  recorded : w.recorded ⊆ after.recorded
  written : w.written ⊆ after.written
  new : ∀ record ∈ after.recorded, record ∈ w.recorded ∨
    ∃ id, Written.dispatch id record.sessionId record.frame true ∈ after.written
  pledges : ∀ id, (after.connections id).pledge = none ∨ (after.connections id).pledge = (w.connections id).pledge

variable {w after : World}

lemma World.Vouched.follow {rcpt} (vouched : w.Vouched rcpt)
    (noted : w.recorded ⊆ after.recorded) (reported : w.reported ⊆ after.reported) : after.Vouched rcpt where
  recorded := by
    obtain ⟨record, mem, hit⟩ := vouched.recorded
    exact ⟨record, noted mem, hit⟩
  reported := reported vouched.reported
  covered := vouched.covered

lemma Unmoved.refl (w : World) : Unmoved w w where
  messages := rfl
  inserting := rfl
  receipts := rfl
  dropped := rfl
  retired := rfl
  reported := List.Subset.refl _
  recorded := List.Subset.refl _
  written := List.Subset.refl _
  new := fun _ mem => .inl mem
  pledges := fun _ => .inr rfl

lemma Unmoved.trans {third} (one : Unmoved w after) (alt : Unmoved after third) : Unmoved w third where
  messages := alt.messages.trans one.messages
  inserting := alt.inserting.trans one.inserting
  receipts := alt.receipts.trans one.receipts
  dropped := alt.dropped.trans one.dropped
  retired := alt.retired.trans one.retired
  reported := List.Subset.trans one.reported alt.reported
  recorded := List.Subset.trans one.recorded alt.recorded
  written := List.Subset.trans one.written alt.written
  new := by
    intro record mem
    rcases alt.new record mem with pre | sent
    · rcases one.new record pre with origin | ⟨id, sent⟩
      · left
        exact origin
      · right
        exact ⟨id, alt.written sent⟩
    · right
      exact sent
  pledges := by
    intro id
    rcases alt.pledges id with none_pledged | same
    · left
      exact none_pledged
    · rw [same]
      exact one.pledges id

lemma Ledger.follow (ledger : Ledger w) (unmoved : Unmoved w after) : Ledger after where
  pledged := by
    intro id pledge pledges
    rcases unmoved.pledges id with none_pledged | same
    · rw [none_pledged] at pledges
      cases pledges
    · rw [same] at pledges
      exact unmoved.reported (ledger.pledged id pledge pledges)
  inserting := by
    rw [unmoved.inserting]
    exact ledger.inserting
  delivered := by
    unfold World.Accounts
    rw [unmoved.messages, unmoved.receipts, unmoved.dropped, unmoved.retired]
    exact ledger.delivered
  vouched := by
    rw [unmoved.receipts]
    intro rcpt mem
    exact (ledger.vouched rcpt mem).follow unmoved.recorded unmoved.reported
  dispatched := by
    intro record mem
    rcases unmoved.new record mem with pre | sent
    · obtain ⟨id, sent⟩ := ledger.dispatched record pre
      exact ⟨id, unmoved.written sent⟩
    · exact sent

section
variable (w) (id sid : Nat)

lemma unmoved_setConnection (conn : Connection)
    (pledge : conn.pledge = none ∨ conn.pledge = (w.connections id).pledge) : Unmoved w (w.setConnection id conn) :=
  { Unmoved.refl w with
    pledges := by
      intro alt
      by_cases same : alt = id
      · rw [same, setConnection_self]
        exact pledge
      · rw [setConnection_other w conn same]
        right
        rfl }

lemma unmoved_setStage (stage : Stage)
    (pledge : ({ w.connections id with stage } : Connection).pledge = none) : Unmoved w (w.setStage id stage) :=
  unmoved_setConnection w id _ (.inl pledge)

lemma unmoved_setState (st : SessionState) : Unmoved w (w.setState sid st) :=
  { Unmoved.refl w with pledges := fun _ => .inr rfl }

lemma unmoved_quiet (same : (after.messages, after.inserting, after.receipts, after.dropped,
      after.retired, after.reported, after.recorded, after.written, after.connections) =
    (w.messages, w.inserting, w.receipts, w.dropped, w.retired,
      w.reported, w.recorded, w.written, w.connections)) : Unmoved w after := by
  simp only [Prod.mk.injEq] at same
  obtain ⟨msgs, inserting, rcpts, dropped, retired, reported, noted, wrote, conns⟩ := same
  constructor
  · exact msgs
  · exact inserting
  · exact rcpts
  · exact dropped
  · exact retired
  · rw [reported]
    exact List.Subset.refl _
  · rw [noted]
    exact List.Subset.refl _
  · rw [wrote]
    exact List.Subset.refl _
  · rw [noted]
    exact fun _ mem => .inl mem
  · rw [conns]
    exact fun _ => .inr rfl

lemma unmoved_reported (named : Option Int) : Unmoved w (w.report sid named) :=
  { Unmoved.refl w with
    reported := subset_append_left _ _
    pledges := fun _ => .inr rfl }

lemma unmoved_written (wrote : Written) : Unmoved w { w with written := w.written ++ [wrote] } :=
  { Unmoved.refl w with
    written := subset_append_left _ _
    new := fun _ mem => .inl mem
    pledges := fun _ => .inr rfl }

lemma unmoved_close : Unmoved w (w.close id) :=
  { Unmoved.refl w with
    pledges := by
      intro alt
      by_cases same : alt = id
      · rw [same, close_self]
        left
        rfl
      · rw [close_other w same]
        right
        rfl }

lemma unmoved_setProjection (projection : Projection) : Unmoved w (w.setProjection id sid projection) := by
  have connected := unmoved_setConnection w id { w.connections id with projection } (.inr rfl)
  exact connected.trans (unmoved_setState _ sid _)

variable (write : Write) (noted : Bool) (bid : Option Uuid)

lemma unmoved_register : Unmoved w (w.register id sid write noted bid) := by
  let frame : Frame := { t := write.t, s := w.sequence id + 1, d := write.d }
  let sent := (w.setState sid ((w.states sid).send frame noted write.checkpoint)).setConnection id
      { w.connections id with gatewaySequence := w.sequence id + 1 }
  have moved : Unmoved w sent := (unmoved_setState w sid _).trans (unmoved_setConnection _ id _ (.inr rfl))
  refine moved.trans ?_
  have logged : Unmoved sent { sent with
      written := sent.written ++ [Written.dispatch id sid frame noted] } :=
    unmoved_written sent _
  cases noted with
  | false => exact logged
  | true =>
    constructor
    · rfl
    · rfl
    · rfl
    · rfl
    · rfl
    · exact List.Subset.refl _
    · exact subset_append_left _ _
    · exact logged.written
    · intro record mem
      rcases mem_append.mp mem with pre | added
      · left
        exact pre
      · right
        rw [mem_singleton.mp added]
        exact ⟨id, mem_append_right _ (mem_singleton_self _)⟩
    · exact fun _ => .inr rfl

lemma unmoved_dispatch {next} (arrives : Bool)
    (pledge : ∀ conn : Connection, ({ conn with stage := next }).pledge = none) :
    Unmoved w (w.dispatch id sid write noted bid next arrives) := by
  have reg := unmoved_register w id sid write noted bid
  let sent := w.register id sid write noted bid
  cases arrives with
  | true =>
    have proj := reg.trans (unmoved_setProjection sent id sid write.after)
    have staged := proj.trans (unmoved_setStage (sent.setProjection id sid write.after) id next (pledge _))
    exact staged.trans (unmoved_quiet _ rfl)
  | false => exact reg.trans (unmoved_close sent id)

end

open Transition SessionStore
variable {w : World} {id sid : Nat}

lemma mem_acknowledged {st : SessionState} {seq : Option Int} {e : Nat × Checkpoint}
    (mem : e ∈ st.acknowledged seq) : e ∈ st.messageCheckpoints ∧ ∃ v, seq = some v ∧
      (e.1 : Int) ≤ v ∧ v ≤ st.last := by
  unfold SessionState.acknowledged at mem
  cases seq with
  | none => cases mem
  | some v =>
    dsimp only at mem
    split at mem
    · cases mem
    · rename_i covered
      push Not at covered
      obtain ⟨listed, below⟩ := mem_filter.mp mem
      exact ⟨listed, v, rfl, of_decide_eq_true below, covered.2⟩

section
variable (ledger : Ledger w)
include ledger

lemma Ledger.acknowledge (good : SessionGood w sid) (agent : Agent) (seq : Option Int)
    (reported : ∀ v, seq = some v → (sid, v) ∈ w.reported) : Ledger (w.acknowledge agent sid seq) where
  pledged := ledger.pledged
  inserting := ledger.inserting
  delivered := by
    intro row mem delivered
    have kept : ∀ {mid}, w.Accounts mid →
        (w.acknowledge agent sid seq).Accounts mid := by
      intro mid accounts
      rcases accounts with received | alt
      · left
        simp only [World.acknowledge, map_append]
        exact mem_append_left _ received
      · right
        exact alt
    obtain ⟨old, pre, same⟩ := mem_map.mp mem
    split at same
    · rename_i acknowledges
      rw [DiscordGateway.acknowledges] at acknowledges
      simp only [Bool.and_eq_true, decide_eq_true_eq] at acknowledges
      obtain ⟨e, among, named⟩ := mem_map.mp acknowledges.1.1.1.1
      left
      simp only [World.acknowledge, map_append, map_map]
      apply mem_append_right
      rw [← same]
      exact mem_map.mpr ⟨e, among, named⟩
    · rw [← same] at delivered ⊢
      exact kept (ledger.delivered old pre delivered)
  vouched := by
    intro rcpt mem
    rcases mem_append.mp mem with pre | added
    · exact (ledger.vouched rcpt pre).follow (List.Subset.refl _) (List.Subset.refl _)
    · obtain ⟨e, among, rfl⟩ := mem_map.mp added
      obtain ⟨checkpoint, v, rfl, below, covered⟩ := mem_acknowledged among
      obtain ⟨record, listed, seq, carries⟩ := good.state.traced e checkpoint
      obtain ⟨noted, sess⟩ := mem_filter.mp listed
      constructor
      · exact ⟨record, noted, e.2, of_decide_eq_true sess, seq, carries, rfl⟩
      · exact reported v rfl
      · exact ⟨below, covered⟩
  dispatched := ledger.dispatched

lemma Ledger.report (sid : Nat) (seq : Option Int) : Ledger (w.report sid seq) ∧
      ∀ v, seq = some v → (sid, v) ∈ (w.report sid seq).reported := by
  refine ⟨ledger.follow (unmoved_reported w sid seq), ?_⟩
  rintro v rfl
  exact mem_append_right _ (mem_singleton_self _)

lemma Ledger.heartbeat (good : SessionGood w sid) (seq : Option Int)
    (done : Settled) (arrives : Bool) : Ledger (w.heartbeat id sid seq done arrives) := by
  obtain ⟨reported, listed⟩ := ledger.report sid seq
  have carried : SessionGood (w.report sid seq) sid :=
    good.transfer rfl rfl rfl (fun unbroken => unbroken) fun _ _ _ has stage _ => ⟨has, stage⟩
  have acked := reported.acknowledge carried (w.connections id).agent seq listed
  simp only [World.heartbeat]
  split
  · cases done with
    | committed =>
      cases arrives with
      | true => exact acked.follow (unmoved_quiet _ rfl)
      | false => exact acked.follow (unmoved_close _ id)
    | failed => exact reported.follow (unmoved_close _ id)
    | lost => exact acked.follow (unmoved_close _ id)
  · cases arrives with
    | true => exact reported.follow (unmoved_quiet _ rfl)
    | false => exact reported.follow (unmoved_close _ id)

lemma Ledger.settle (good : SessionGood w sid) (attached : (w.connections id).sessionId = some sid) {seq : Int}
    (accepting : (w.connections id).stage = .acknowledging seq) (auth : Authority)
    (done : Settled) : Ledger (w.settle id sid seq auth done) := by
  have pledge : (w.connections id).pledge = some (sid, seq) := by simp only [Connection.pledge, accepting, attached]
  have reported : ∀ v, some seq = some v → (sid, v) ∈ w.reported := by
    rintro v ⟨⟩
    exact ledger.pledged id _ pledge
  have acked := ledger.acknowledge good (w.connections id).agent (some seq) reported
  cases done with
  | committed =>
    refine acked.follow ((unmoved_setConnection _ id _ ?_).trans (unmoved_quiet _ rfl))
    left
    rfl
  | failed => exact ledger.follow (unmoved_close _ id)
  | lost => exact acked.follow (unmoved_close _ id)

lemma Ledger.answerInvalid (id : Nat) (arrives : Bool) : Ledger (w.answerInvalid id arrives) := by
  have answered := ledger.follow (unmoved_written w (.invalidSession id))
  cases arrives with
  | true => exact answered
  | false => exact answered.follow (unmoved_close _ id)

lemma Ledger.resume (agent : Agent) (named : Option Nat) (seq : Option Int) (arrives : Bool) :
    Ledger (w.resume id agent named seq arrives) := by
  cases named with
  | none => exact ledger.answerInvalid id arrives
  | some sid =>
    obtain ⟨reported, listed⟩ := ledger.report sid seq
    simp only [World.resume]
    split
    · exact reported.answerInvalid id arrives
    · split
      · apply Ledger.answerInvalid
        exact reported.follow (unmoved_quiet _ rfl)
      · split
        · apply Ledger.answerInvalid
          exact reported.follow (unmoved_quiet _ rfl)
        · constructor
          · intro alt pledge pledges
            by_cases same : alt = id
            · subst same
              rw [setConnection_self] at pledges
              cases seq with
              | none => cases pledges
              | some v =>
                cases pledges
                exact listed v rfl
            · rw [setConnection_other _ _ same] at pledges
              exact reported.pledged alt pledge pledges
          · exact reported.inserting
          · exact reported.delivered
          · intro rcpt mem
            exact (reported.vouched rcpt mem).follow (List.Subset.refl _) (List.Subset.refl _)
          · exact reported.dispatched

lemma Ledger.claimResume {seq : Option Int}
    (waits : (w.connections id).stage = .resuming sid seq) (free arrives : Bool) :
    Ledger (w.claimResume id sid seq free arrives) := by
  unfold World.claimResume
  dsimp only
  split
  · split
    · let leased : World := { w with
        leases := Function.update w.leases (w.connections id).agent (some id) }
      have unmoved : Unmoved w leased := unmoved_quiet w rfl
      refine ledger.follow (unmoved.trans (unmoved_setConnection leased id _ ?_))
      right
      show _ = (w.connections id).pledge
      simp only [Connection.pledge, waits]
    · split
      · refine ledger.follow ((unmoved_setConnection w id
          { w.connections id with sessionId := none, stage := .hello } ?_).trans ?_)
        · left
          rfl
        · exact (unmoved_written _ (.invalidSession id)).trans (unmoved_quiet _ rfl)
      · -- the connection that is closed never waits for the acknowledgement of its zero
        refine ledger.follow { Unmoved.refl w with
          written := subset_append_left _ _
          new := fun _ mem => .inl mem
          pledges := ?_ }
        intro alt
        by_cases same : alt = id
        · rw [same, close_self]
          left
          rfl
        · rw [close_other _ same]
          right
          exact congrArg Connection.pledge (Function.update_of_ne same _ _)
  · refine ledger.follow ((unmoved_setConnection w id .closed ?_).trans ?_)
    · left
      rfl
    · exact unmoved_quiet _ rfl

lemma Ledger.claimIdentify (id : Nat) (free : Bool) : Ledger (w.claimIdentify id free) := by
  unfold World.claimIdentify
  dsimp only
  split
  · let stated := w.setState w.nextSession
      (.new (w.connections id).agent.accountId (w.connections id).agent.botAgentLinkId)
    have opened : Unmoved w stated := unmoved_setState w _ _
    refine ledger.follow ((opened.trans (unmoved_setConnection stated id _ (.inl ?_))).trans (unmoved_quiet _ rfl))
    rfl
  · exact ledger.follow (unmoved_setConnection w id _ (.inl rfl))

lemma Ledger.setStage (id : Nat) {stage} (pledge : ∀ conn : Connection, ({ conn with stage }).pledge = none) :
    Ledger (w.setStage id stage) :=
  ledger.follow (unmoved_setStage w id _ (pledge _))

end

lemma unmoved_endTurn (w : World) (id sid : Nat) (turn : Turn) (sent : Bool)
    (page : List ChannelMessage) : Unmoved w (w.endTurn id sid turn sent page) := by
  exact (unmoved_setConnection w id _ (.inl rfl)).trans (unmoved_setState _ sid _)

lemma unmoved_replayFrame (w : World) (id sid : Nat) (seq : Int) (frame : Frame)
    (rest : List Frame) (arrives : Bool) : Unmoved w (w.replayFrame id sid seq frame rest arrives) := by
  let stated := w.setState sid ((w.states sid).send frame false none)
  let staged := stated.setStage id (.replaying seq rest)
  have moved : Unmoved w staged := (unmoved_setState w sid _).trans (unmoved_setStage stated id _ rfl)
  have sent := moved.trans (unmoved_written staged (.replay id sid frame))
  cases arrives with
  | true => exact sent.trans (unmoved_quiet _ rfl)
  | false =>
    have broken : Unmoved w { staged with
        written := w.written ++ [Written.replay id sid frame]
        brokenOff := w.brokenOff ++ [sid] } := sent.trans (unmoved_quiet _ rfl)
    exact broken.trans (unmoved_close _ id)

lemma unmoved_write (w : World) (id sid : Nat) (arrives : Bool) : Unmoved w (w.write id sid arrives) := by
  unfold World.write
  split
  · exact unmoved_replayFrame w id sid _ _ _ arrives
  · exact (unmoved_setProjection w id sid _).trans (unmoved_dispatch _ id sid _ _ _ _ fun _ => rfl)
  · exact unmoved_dispatch w id sid _ _ _ arrives fun _ => rfl
  · exact (unmoved_setStage w id _ rfl).trans (unmoved_setState _ sid _)
  · exact unmoved_dispatch w id sid _ _ _ arrives fun _ => rfl
  · exact unmoved_dispatch w id sid _ _ _ arrives fun _ => rfl
  · exact unmoved_endTurn w id sid _ _ _
  · exact Unmoved.refl w

lemma unmoved_proceed (w : World) (id sid : Nat) : Unmoved w (w.proceed id sid) := by
  unfold World.proceed
  dsimp only
  split
  · split <;> exact (unmoved_setProjection w id sid _).trans (unmoved_setStage _ id _ rfl)
  · exact Unmoved.refl w

lemma Ledger.lease (ledger : Ledger w) (id sid : Nat) (turn : Turn)
    (proj : Option JsonObject) (page : List ChannelMessage) (locked : Bool) :
    Ledger (w.lease id sid turn proj page locked) := by
  have ended := ledger.follow (unmoved_endTurn w id sid turn false page)
  unfold World.lease
  dsimp only
  split
  · exact ended
  · split
    · exact ended
    · split
      · split
        · exact ledger.follow (unmoved_close w id)
        · exact ledger.setStage id fun _ => rfl
      · constructor
        · exact ended.pledged
        · exact ended.inserting
        · intro row mem delivered
          obtain ⟨old, pre, same⟩ := mem_map.mp mem
          have kept : ∀ {mid}, w.Accounts mid → mid ∈
              w.receipts.map Receipt.messageId ∨ mid ∈ w.dropped ++ [turn.message.id] ∨
                mid ∈ w.retired := by
            rintro mid (received | dropped | retired)
            · left
              exact received
            · right
              left
              exact mem_append_left _ dropped
            · right
              right
              exact retired
          split at same
          · rename_i chosen
            right
            left
            rw [← same]
            exact mem_append_right _ (mem_singleton.mpr chosen.1)
          · rw [← same] at delivered ⊢
            exact kept (ledger.delivered old pre delivered)
        · intro rcpt mem
          exact (ended.vouched rcpt mem).follow (List.Subset.refl _) (List.Subset.refl _)
        · exact ended.dispatched

lemma Ledger.archiveBindings (ledger : Ledger w) (chosen : ChannelBinding → Bool)
    (scopes : Scopes) : Ledger (w.archiveBindings chosen scopes) where
  pledged := ledger.pledged
  inserting := ledger.inserting
  delivered := by
    intro row mem delivered
    obtain ⟨old, pre, same⟩ := mem_map.mp mem
    split at same
    · rename_i consumed
      right
      right
      apply mem_append_right
      rw [← same]
      exact mem_map.mpr ⟨old, mem_filter.mpr ⟨pre, consumed.1⟩, rfl⟩
    · rw [← same] at delivered ⊢
      rcases ledger.delivered old pre delivered with received | dropped | retired
      · left
        exact received
      · right
        left
        exact dropped
      · right
        right
        exact mem_append_left _ retired
  vouched := fun rcpt mem =>
    (ledger.vouched rcpt mem).follow (List.Subset.refl _) (List.Subset.refl _)
  dispatched := ledger.dispatched

lemma Ledger.insert (ledger : Ledger w) (tx : Nat) (msg : ChannelMessage) : Ledger (w.insert tx msg) where
  pledged := ledger.pledged
  inserting := by
    intro e mem
    rcases mem_append.mp mem with pre | added
    · exact ledger.inserting e pre
    · rw [mem_singleton.mp added]
  delivered := ledger.delivered
  vouched := fun rcpt mem =>
    (ledger.vouched rcpt mem).follow (List.Subset.refl _) (List.Subset.refl _)
  dispatched := ledger.dispatched

lemma Ledger.commit (ledger : Ledger w) (tx : Nat) : Ledger (w.commit tx) where
  pledged := ledger.pledged
  inserting := fun e mem => ledger.inserting e (mem_of_mem_filter mem)
  delivered := by
    intro row mem delivered
    rcases mem_append.mp mem with pre | committed
    · exact ledger.delivered row pre delivered
    · obtain ⟨e, among, rfl⟩ := mem_map.mp committed
      rw [ledger.inserting e (mem_of_mem_filter among)] at delivered
      cases delivered
  vouched := fun rcpt mem =>
    (ledger.vouched rcpt mem).follow (List.Subset.refl _) (List.Subset.refl _)
  dispatched := ledger.dispatched

lemma Ledger.step (ledger : Ledger w) (serves : Serves w) (act : Action) : Ledger (step w act) := by
  have good := serves.sound.sessions
  cases act with
  | insert tx msg => exact ledger.insert tx msg
  | commit tx => exact ledger.commit tx
  | rollback tx =>
    exact ⟨ledger.pledged, fun e mem => ledger.inserting e (mem_of_mem_filter mem),
      ledger.delivered, fun rcpt mem =>
        (ledger.vouched rcpt mem).follow (List.Subset.refl _) (List.Subset.refl _),
      ledger.dispatched⟩
  | pair bind =>
    simp only [DiscordGateway.step]
    split
    · exact ledger
    · exact ledger.follow (unmoved_quiet w rfl)
  | wait ms => exact ledger.follow (unmoved_quiet w rfl)
  | connect =>
    refine ledger.follow ((unmoved_setConnection w w.nextConnection
      { Connection.closed with stage := .hello } (.inl rfl)).trans (unmoved_quiet _ rfl))
  | identify id agent =>
    simp only [DiscordGateway.step]
    split
    · split
      · exact ledger.follow (unmoved_setConnection w id _ (.inl rfl))
      · exact ledger.follow (unmoved_close w id)
    · exact ledger
  | resume id agent sid seq arrives =>
    simp only [DiscordGateway.step]
    split
    · exact ledger.resume agent sid seq arrives
    · exact ledger
  | claim id free arrives =>
    simp only [DiscordGateway.step]
    split
    · exact ledger.claimIdentify id free
    · rename_i waits
      exact ledger.claimResume waits free arrives
    · exact ledger
  | drop id =>
    simp only [DiscordGateway.step]
    split
    · exact ledger
    · exact ledger
    · exact ledger.follow (unmoved_close w id)
  | settle id auth done =>
    simp only [DiscordGateway.step]
    split
    · rename_i sid accepting attached
      exact ledger.settle (good sid) attached accepting auth done
    · exact ledger
  | prepare id | look id | read id | postpone id =>
    simp only [DiscordGateway.step]
    split
    · exact ledger.setStage id fun _ => rfl
    · exact ledger
  | write id arrives =>
    simp only [DiscordGateway.step]
    split
    · exact ledger.follow (unmoved_write w id _ arrives)
    · exact ledger
  | heartbeat id seq done arrives =>
    simp only [DiscordGateway.step]
    split
    · exact ledger.heartbeat (good _) seq done arrives
    · exact ledger.heartbeat (good _) seq done arrives
    · exact ledger.heartbeat (good _) seq done arrives
    · exact ledger
  | fetch id =>
    simp only [DiscordGateway.step]
    split
    · split
      · exact ledger.setStage id fun _ => rfl
      · exact ledger
    · exact ledger
  | proceed id =>
    simp only [DiscordGateway.step]
    split
    · exact ledger.follow (unmoved_proceed w id _)
    · exact ledger
  | lease id locked =>
    simp only [DiscordGateway.step]
    split
    · exact ledger.lease id _ _ _ _ locked
    · exact ledger
  | _ =>
    simp only [DiscordGateway.step]
    split
    · exact ledger
    · exact ledger.archiveBindings _ _

lemma ledger_run (acts : List Action) : Ledger (run DiscordGateway.step (World.new scopes) acts) := by
  have joint : ∀ w act, Serves w ∧ Ledger w →
      Serves (DiscordGateway.step w act) ∧ Ledger (DiscordGateway.step w act) :=
    fun _ act both => ⟨both.1.step act, both.2.step both.1 act⟩
  exact (run_invariant joint ⟨Serves.new scopes, Ledger.new scopes⟩ acts).2

end Clawdi.DiscordGateway
