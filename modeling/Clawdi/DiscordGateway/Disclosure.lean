import Clawdi.DiscordGateway.Contract

namespace Clawdi.DiscordGateway
open Transition List
variable {w : World} {id sid : Nat}

lemma guards_register (inv : Sound w) (attached : (w.connections id).sessionId = some sid)
    (may : (w.stage id).mayDispatch) (write : Write) (noted : Bool) (bid : Option Uuid) :
    Guards w (w.register id sid write noted bid) := by
  let after := w.register id sid write noted bid
  have here : after.connections id =
      { w.connections id with gatewaySequence := w.sequence id + 1 } :=
    setConnection_self _ _ _
  have there : ∀ alt, alt ≠ id → after.connections alt = w.connections alt :=
    fun alt apart => Function.update_of_ne apart _ _
  have stage : ∀ alt, after.stage alt = w.stage alt := by
    intro alt
    by_cases same : alt = id
    · rw [same, World.stage, here, World.stage]
    · rw [World.stage, there alt same, World.stage]
  have agent : ∀ alt, (after.connections alt).agent = (w.connections alt).agent := by
    intro alt
    by_cases same : alt = id
    · rw [same, here]
    · rw [there alt same]
  constructor
  · rfl
  · intro alt held sends
    rw [stage alt] at sends
    exact ⟨sends, agent alt⟩
  · intro alt held mem
    refine ⟨?_, agent alt⟩
    by_cases same : alt = id
    · subst same
      have ended : (w.stage alt).rest = [] := by
        rcases Stage.mayDispatch_cases may with ⟨v, again⟩ | runs
        · rw [again]
          rfl
        · cases at_stage : w.stage alt <;> simp_all [Stage.running, Stage.rest]
      rw [World.replays, stage alt, ended] at mem
      cases held_session : (after.connections alt).sessionId with
      | none =>
        rw [held_session] at mem
        cases mem
      | some sess =>
        rw [held_session] at mem
        simp only [bindingsOf_nil] at mem
        cases mem
    · rw [replays_congr (there alt same) ?_] at mem
      · exact mem
      · intro sess attached_other
        right
        have apart : sess ≠ sid := by
          rintro rfl
          exact same (inv.alone attached_other attached)
        have none_added : ¬(noted = true ∧ sid = sess) := fun both => apart both.2.symm
        rw [register_recordedOf, if_neg none_added, append_nil]

lemma guards_dispatch (inv : Sound w) (attached : (w.connections id).sessionId = some sid)
    (may : (w.stage id).mayDispatch) (write : Write) (noted : Bool)
    (bid : Option Uuid) {next : Stage} (rest : next.rest = [])
    (sends : next.sends = none ∨ next.sends = (w.stage id).sends) (arrives : Bool) :
    Guards w (w.dispatch id sid write noted bid next arrives) := by
  let sent := w.register id sid write noted bid
  let shown := sent.setProjection id sid write.after
  have reg : Guards w sent := guards_register inv attached may write noted bid
  cases arrives with
  | false => exact reg.trans (guards_close sent id)
  | true =>
    have proj : Guards w shown := reg.trans (guards_setProjection sent id sid write.after)
    have here : shown.connections id =
        { w.connections id with
          gatewaySequence := w.sequence id + 1, projection := write.after } := by
      simp [shown, sent, World.setProjection, World.register, World.setConnection, World.setState, World.sequence]
    have stage : shown.stage id = w.stage id := by rw [World.stage, here, World.stage]
    have staged : Guards shown (shown.setStage id next) := by
      apply guards_setConnection
      · rcases sends with none_sent | going
        · left
          exact none_sent
        · right
          rw [stage]
          exact ⟨going, rfl⟩
      · left
        exact rest
    exact (proj.trans staged).trans (guards_quiet _ rfl)

lemma guards_replayFrame (w : World) (id sid : Nat) {seq : Int} {frame}
    {rest} (again : w.stage id = .replaying seq (frame :: rest))
    (arrives : Bool) : Guards w (w.replayFrame id sid seq frame rest arrives) := by
  let stated := w.setState sid ((w.states sid).send frame false none)
  have staged : Guards stated (stated.setStage id (.replaying seq rest)) := by
    apply guards_setConnection
    · left
      rfl
    · right
      have pre : (stated.stage id).rest = frame :: rest := by
        show (w.stage id).rest = _
        rw [again]
        rfl
      rw [pre]
      exact ⟨subset_cons_self _ _, rfl, rfl⟩
  have moved : Guards w (stated.setStage id (.replaying seq rest)) := (guards_setState w sid _).trans staged
  cases arrives with
  | true => exact moved.trans (guards_quiet _ rfl)
  | false =>
    have sent : Guards w { stated.setStage id (.replaying seq rest) with
        written := w.written ++ [Written.replay id sid frame]
        brokenOff := w.brokenOff ++ [sid] } := moved.trans (guards_quiet _ rfl)
    exact sent.trans (guards_close _ id)

lemma guards_endTurn (w : World) (id sid : Nat) (turn : Turn) (sent : Bool)
    (page : List ChannelMessage) : Guards w (w.endTurn id sid turn sent page) := by
  exact (guards_setConnection w id _ (.inl rfl) (.inl rfl)).trans (guards_setState _ sid _)

lemma guards_write (serves : Serves w) (attached : (w.connections id).sessionId = some sid) (arrives : Bool) :
    Guards w (w.write id sid arrives) := by
  have running : ∀ {stage : Stage}, w.stage id = stage → stage.running = true →
      (w.stage id).mayDispatch := by
    intro stage at_stage runs
    rw [at_stage]
    exact running_dispatches runs
  have inv := serves.sound
  unfold World.write
  split
  · rename_i at_stage
    exact guards_replayFrame w id sid at_stage arrives
  · rename_i seq at_stage
    let projection := (w.connections id).projection
    have again : w.stage id = .replaying seq [] := at_stage
    have proj : Serves (w.setProjection id sid projection) := by
      apply serves.keepProjection attached
      intro held v named
      rw [again] at named
      cases named
    have conn : (w.setProjection id sid projection).connections id =
        { w.connections id with projection } := setConnection_self _ _ _
    have stage : (w.setProjection id sid projection).stage id =
        .replaying seq [] := by
      rw [World.stage, conn]
      exact again
    refine (guards_setProjection w id sid projection).trans
      (guards_dispatch proj.sound ?_ ?_ _ _ _ rfl (.inl rfl) arrives)
    · rw [conn]
      exact attached
    · rw [stage]
      rfl
  · rename_i at_stage
    exact guards_dispatch inv attached (running at_stage rfl) _ _ _ rfl (.inl rfl) arrives
  · exact (guards_setStage w id _ rfl rfl).trans (guards_setState _ sid _)
  · rename_i at_stage
    exact guards_dispatch inv attached (running at_stage rfl) _ _ _ rfl (.inl rfl) arrives
  · rename_i turn bid next writes page at_stage
    have going : (Stage.sending turn bid writes page).sends = (w.stage id).sends := by
      rw [World.stage, at_stage]
      rfl
    exact guards_dispatch inv attached (running at_stage rfl) _ _ _ rfl (.inr going) arrives
  · exact guards_endTurn w id sid _ _ _
  · exact Guards.refl w

section
variable {bid : Uuid}

lemma sendsUnder_spares {holds : Connection → Uuid → Bool} (none_sends : ¬w.sendsUnder holds)
    (opened : id < w.nextConnection) (sends : (w.stage id).sends = some bid) :
    holds (w.connections id) bid = false := by
  by_contra held
  apply none_sends
  refine any_eq_true.mpr ⟨id, mem_range.mpr opened, ?_⟩
  cases at_stage : (w.connections id).stage <;>
    simp_all [World.stage, Stage.sends]

lemma sends_open (inv : Sound w) (sends : (w.stage id).sends = some bid) : id < w.nextConnection := by
  apply inv.opened
  intro closed
  rw [closed] at sends
  cases sends

lemma replays_open (inv : Sound w) (mem : bid ∈ w.replays id) : id < w.nextConnection := by
  apply inv.opened
  intro closed
  rw [World.replays, closed] at mem
  cases held : (w.connections id).sessionId with
  | none =>
    rw [held] at mem
    cases mem
  | some sid =>
    rw [held] at mem
    change bid ∈ w.bindingsOf sid [] at mem
    rw [bindingsOf_nil] at mem
    cases mem

lemma Guarded.archiveBindings (guarded : Guarded w) {chosen : ChannelBinding → Bool}
    {scopes : Scopes} (same : scopes.bindings = w.scopes.bindings)
    (sending : ∀ id bid, (w.stage id).sends = some bid →
      ∀ bind ∈ w.scopes.bindings, bind.id = bid → bind.accountId = (w.connections id).agent.accountId →
        bind.botAgentLinkId = (w.connections id).agent.botAgentLinkId → chosen bind = false)
    (again : ∀ id, ∀ bid ∈ w.replays id, ∀ bind ∈ w.scopes.bindings,
      bind.id = bid → chosen bind = false) : Guarded (w.archiveBindings chosen scopes) where
  sends := by
    intro id bid sends
    exact archiveBindings_owns same (guarded.sends id bid sends) (sending id bid sends)
  replays := by
    intro id bid mem
    apply archiveBindings_owns same (guarded.replays id bid mem)
    intro bind listed named _ _
    exact again id bid mem bind listed named

end

lemma Guarded.settle (guarded : Guarded w) {seq : Int} (accepting : (w.connections id).stage = .acknowledging seq)
    (auth : Authority) (done : Settled) (owned : done = .committed →
      ∀ bid ∈ w.bindingsOf sid ((w.states sid).replay seq), w.scopes.owns (w.connections id).agent bid = true)
    (attached : (w.connections id).sessionId = some sid) : Guarded (w.settle id sid seq auth done) := by
  cases done with
  | failed => exact guarded.follow (guards_close w id)
  | lost =>
    have acked : Guards w (w.acknowledge (w.connections id).agent sid (some seq)) := guards_quiet w rfl
    exact guarded.follow (acked.trans (guards_close _ id))
  | committed =>
    let after := w.accept id sid seq auth
    have here : after.connections id =
        { w.connections id with
          gatewaySequence := (w.states sid).latestSequence
          lastInboxSequence := ((w.acknowledge (w.connections id).agent sid
            (some seq)).states sid).resumeInboxSequence
          projection := World.resumeProjection auth (w.states sid)
          stage := .replaying seq ((w.states sid).replay seq) } :=
      setConnection_self _ _ _
    have there : ∀ alt, alt ≠ id → after.connections alt = w.connections alt :=
      fun alt apart => Function.update_of_ne apart _ _
    show Guarded after
    constructor
    · intro alt bid sends
      by_cases same : alt = id
      · rw [World.stage, same, here] at sends
        cases sends
      · rw [World.stage, there alt same] at sends
        rw [there alt same]
        exact guarded.sends alt bid sends
    · intro alt bid mem
      by_cases same : alt = id
      · subst same
        rw [here]
        apply owned rfl
        rw [World.replays, World.stage, here] at mem
        simp only [attached] at mem
        exact mem
      · rw [replays_congr (there alt same) fun _ _ => .inr rfl] at mem
        rw [there alt same]
        exact guarded.replays alt bid mem

lemma Guarded.lease (guarded : Guarded w) (id sid : Nat) (turn : Turn)
    (proj : Option JsonObject) (page : List ChannelMessage) (locked : Bool) :
    Guarded (w.lease id sid turn proj page locked) := by
  have ended := guards_endTurn w id sid turn false page
  unfold World.lease
  dsimp only
  split
  · exact guarded.follow ended
  · rename_i bid bound
    split
    · exact guarded.follow ended
    · split
      · rename_i leased
        split
        · exact guarded.follow (guards_close w id)
        · rename_i writes built
          let conn : Connection := { w.connections id with stage := .sending turn bid writes page }
          have here : (w.setConnection id conn).connections id = conn := setConnection_self _ _ _
          have there : ∀ alt, alt ≠ id →
              (w.setConnection id conn).connections alt = w.connections alt :=
            fun alt apart => setConnection_other w conn apart
          show Guarded (w.setConnection id conn)
          constructor
          · intro alt held sends
            by_cases same : alt = id
            · subst same
              rw [World.stage, here] at sends
              cases sends
              rw [here]
              exact leases_owns leased.1
            · rw [World.stage, there alt same] at sends
              rw [there alt same]
              exact guarded.sends alt held sends
          · intro alt held mem
            by_cases same : alt = id
            · subst same
              rw [World.replays, World.stage, here] at mem
              have sent : conn.stage.rest = [] := rfl
              simp only [sent, bindingsOf_nil] at mem
              cases attached : conn.sessionId with
              | none | some =>
                rw [attached] at mem
                cases mem
            · rw [replays_congr (there alt same) fun _ _ => .inr rfl] at mem
              rw [there alt same]
              exact guarded.replays alt held mem
      · exact guarded.follow (ended.trans (guards_quiet _ rfl))

lemma Guarded.step (guarded : Guarded w) (serves : Serves w) {act}
    (undisturbed : Undisturbed w act) : Guarded (step w act) := by
  have inv := serves.sound
  cases act with
  | insert | commit | rollback | wait => exact guarded.follow (guards_quiet w rfl)
  | unpair alt =>
    simp only [DiscordGateway.step]
    split
    · exact guarded
    · rename_i none_sends
      apply guarded.archiveBindings rfl
      · intro id bid sends bind _ named _ _
        rw [named]
        exact sendsUnder_spares none_sends (sends_open inv sends) sends
      · intro id bid mem
        exact undisturbed id (replays_open inv mem) bid mem
  | pair alt =>
    simp only [DiscordGateway.step]
    split
    · exact guarded
    · rename_i none_sends
      constructor
      · intro id bid sends
        apply pair_owns (guarded.sends id bid sends)
        have apart := sendsUnder_spares none_sends (sends_open inv sends) sends
        exact Ne.symm (of_decide_eq_false apart)
      · intro id bid mem
        have owned := guarded.replays id bid mem
        apply pair_owns owned
        obtain ⟨bind, listed, named, -⟩ := owns_iff.mp owned
        have apart := undisturbed id (replays_open inv mem) bid mem bind listed named
        rw [← named]
        exact Ne.symm (of_decide_eq_false apart)
  | archiveLink linkId =>
    simp only [DiscordGateway.step]
    split
    · exact guarded
    · rename_i none_sends
      apply guarded.archiveBindings (by rfl)
      · intro id bid sends bind _ _ _ link
        rw [link]
        exact sendsUnder_spares none_sends (sends_open inv sends) sends
      · intro id bid mem
        exact undisturbed id (replays_open inv mem) bid mem
  | archiveAccount acctId =>
    simp only [DiscordGateway.step]
    split
    · exact guarded
    · rename_i none_sends
      apply guarded.archiveBindings (by rfl)
      · intro id bid sends bind _ _ acct _
        rw [acct]
        exact sendsUnder_spares none_sends (sends_open inv sends) sends
      · intro id bid mem
        exact undisturbed id (replays_open inv mem) bid mem
  | connect =>
    have connected := guards_setConnection w w.nextConnection
      { Connection.closed with stage := .hello } (.inl rfl) (.inl rfl)
    exact guarded.follow (connected.trans (guards_quiet _ rfl))
  | identify id agent =>
    simp only [DiscordGateway.step]
    split
    · split
      · exact guarded.follow (guards_setConnection w id _ (.inl rfl) (.inl rfl))
      · exact guarded.follow (guards_close w id)
    · exact guarded
  | resume id agent named seq arrives =>
    have answered : ∀ {after : World}, Guards w after →
        Guards w (after.answerInvalid id arrives) := by
      intro after guards
      cases arrives with
      | true => exact guards.trans (guards_quiet _ rfl)
      | false =>
        have sent : Guards after { after with written := after.written ++ [.invalidSession id] } :=
          guards_quiet after rfl
        exact (guards.trans sent).trans (guards_close _ id)
    simp only [DiscordGateway.step]
    split
    · cases named with
      | none => exact guarded.follow (answered (Guards.refl w))
      | some sid =>
        simp only [World.resume]
        split
        · exact guarded.follow (answered (guards_quiet w rfl))
        · split
          · exact guarded.follow (answered (guards_quiet w rfl))
          · split
            · exact guarded.follow (answered (guards_quiet w rfl))
            · have reported : Guards w (w.report sid seq) :=
                guards_quiet w rfl
              exact guarded.follow ((reported.trans (guards_setConnection _ id _ (.inl rfl)
                (.inl rfl))).trans (guards_quiet _ rfl))
    · exact guarded
  | claim id free arrives =>
    simp only [DiscordGateway.step]
    split
    · simp only [World.claimIdentify]
      split
      · exact guarded.follow (((guards_setState w _ _).trans
          (guards_setConnection _ id _ (.inl rfl) (.inl rfl))).trans (guards_quiet _ rfl))
      · exact guarded.follow (guards_setConnection w id _ (.inl rfl) (.inl rfl))
    · rename_i sid seq waits
      simp only [World.claimResume]
      split
      · let leased : World := { w with
          leases := Function.update w.leases (w.connections id).agent (some id) }
        have granted : Guards w leased := guards_quiet w rfl
        split
        · exact guarded.follow (granted.trans (guards_setConnection leased id _ (.inl rfl) (.inl rfl)))
        · split
          · exact guarded.follow ((guards_setConnection w id _ (.inl rfl) (.inl rfl)).trans (guards_quiet _ rfl))
          · let owned := leased.setConnection id
              { w.connections id with sessionId := some sid, stage := .acknowledging 0 }
            have owns : Guards leased owned := guards_setConnection leased id _ (.inl rfl) (.inl rfl)
            have sent : Guards owned { owned with
              written := w.written ++ [.invalidSession id] } := guards_quiet owned rfl
            exact guarded.follow (((granted.trans owns).trans sent).trans (guards_close _ id))
      · exact guarded.follow ((guards_setConnection w id _ (.inl rfl) (.inl rfl)).trans (guards_quiet _ rfl))
    · exact guarded
  | drop id =>
    simp only [DiscordGateway.step]
    split
    · exact guarded
    · exact guarded
    · exact guarded.follow (guards_close w id)
  | settle id auth done =>
    simp only [DiscordGateway.step]
    split
    · rename_i seq sid accepting attached
      apply guarded.settle accepting auth done _ attached
      rintro rfl
      simp only [Undisturbed, accepting, attached] at undisturbed
      exact undisturbed
    · exact guarded
  | prepare id | look id | read id | postpone id =>
    simp only [DiscordGateway.step]
    split
    · exact guarded.follow (guards_setStage w id _ rfl rfl)
    · exact guarded
  | write id arrives =>
    simp only [DiscordGateway.step]
    split
    · rename_i sid attached
      exact guarded.follow (guards_write serves attached arrives)
    · exact guarded
  | heartbeat id seq done arrives =>
    have beats : ∀ sid, Guards w (w.heartbeat id sid seq done arrives) := by
      intro sid
      let reported := w.report sid seq
      have told : Guards w reported := guards_quiet w rfl
      have acked : Guards w
          (reported.acknowledge (w.connections id).agent sid seq) :=
        guards_quiet w rfl
      simp only [World.heartbeat]
      split
      · cases done with
        | committed =>
          cases arrives with
          | true => exact acked.trans (guards_quiet _ rfl)
          | false => exact acked.trans (guards_close _ id)
        | failed => exact told.trans (guards_close _ id)
        | lost => exact acked.trans (guards_close _ id)
      · cases arrives with
        | true => exact told.trans (guards_quiet _ rfl)
        | false => exact told.trans (guards_close _ id)
    simp only [DiscordGateway.step]
    split
    · exact guarded.follow (beats _)
    · exact guarded.follow (beats _)
    · exact guarded.follow (beats _)
    · exact guarded
  | fetch id =>
    simp only [DiscordGateway.step]
    split
    · split
      · exact guarded.follow (guards_setStage w id _ rfl rfl)
      · exact guarded
    · exact guarded
  | proceed id =>
    simp only [DiscordGateway.step]
    split
    · rename_i sid attached
      unfold World.proceed
      dsimp only
      split
      · split
        · exact guarded.follow ((guards_setProjection w id sid _).trans (guards_setStage _ id _ rfl rfl))
        · exact guarded.follow ((guards_setProjection w id sid _).trans (guards_setStage _ id _ rfl rfl))
      · exact guarded
    · exact guarded
  | lease id locked =>
    simp only [DiscordGateway.step]
    split
    · exact guarded.lease id _ _ _ _ locked
    · exact guarded

lemma Guarded.fenced (guarded : Guarded w) (act : Action) : Fenced w act := by
  cases act with
  | write id arrives =>
    intro bid mem
    simp only [World.carried] at mem
    split at mem
    · rename_i turn held next writes page at_stage
      have same : bid = held := by
        cases carries : next.checkpoint with
        | none =>
          rw [carries] at mem
          cases mem
        | some checkpoint =>
          rw [carries] at mem
          exact mem_singleton.mp mem
      apply guarded.sends id
      rw [World.stage, at_stage, same]
      rfl
    · rename_i seq frame rest sid at_stage attached
      apply guarded.replays id
      rw [World.replays, World.stage, at_stage, attached]
      exact bindingsOf_mono w (cons_subset_cons frame (nil_subset rest)) mem
    · cases mem
  | _ => exact trivial

/-- As long as retained messages stay with their link while they may be replayed, no message reaches an
agent whose link has lost the binding. -/
theorem gateway_fenced (scopes : Scopes) (acts : List Action)
    (undisturbed : Always step Undisturbed (World.new scopes) acts) : Always step Fenced (World.new scopes) acts := by
  have start : Serves (World.new scopes) ∧ Guarded (World.new scopes) := ⟨Serves.new scopes, Guarded.new scopes⟩
  have keeps : ∀ w act, Serves w ∧ Guarded w → Undisturbed w act →
      Serves (step w act) ∧ Guarded (step w act) :=
    fun _ act both quiet => ⟨both.1.step act, both.2.step both.1 quiet⟩
  have fenced : ∀ w act, Serves w ∧ Guarded w → Undisturbed w act →
      Fenced w act := fun _ act both _ => both.2.fenced act
  exact Always.strengthen keeps fenced start undisturbed

def sampleMessage : ChannelMessage :=
  { id := "message", inboxSequence := 0, accountId := "account", botAgentLinkId := some "link"
    bindingId := some "binding", direction := .inbound, externalChatId := "chat"
    providerMessageId := some "1", text := some "hello", payload := .object [], createdAt := 0
    deliveredAt := none }

def sampleAuthority : Authority := { guilds := [], channels := [("chat", none)] }

def dispatchActions : List Action :=
  [.connect, .identify 0 sampleAgent, .claim 0 true true, .prepare 0 [] sampleAuthority [],
    .write 0 true, .write 0 true, .insert 0 sampleMessage, .commit 0, .fetch 0,
    .look 0 sampleAuthority, .proceed 0, .read 0 (some []) sampleAuthority, .lease 0 false,
    .write 0 true, .write 0 true, .drop 0]

def replayActions : List Action :=
  [.connect, .resume 1 sampleAgent (some 0) (some 2) true, .claim 1 true true, .settle 1 sampleAuthority .committed]

def Action.calm : Action → Bool
  | .settle _ _ _ => false
  | .unpair _ => false
  | .pair _ => false
  | .archiveLink _ => false
  | .archiveAccount _ => false
  | _ => true

lemma undisturbed_calm {act : Action} (calm : act.calm = true) (w : World) : Undisturbed w act := by
  cases act with
  | settle | unpair | pair | archiveLink | archiveAccount => cases calm
  | _ => exact fun _ _ _ _ _ _ _ => rfl

theorem gateway_fenced_resumed : Always step Undisturbed (World.new sampleScopes) (dispatchActions ++ replayActions) ∧
      Always step Fenced (World.new sampleScopes) (dispatchActions ++ replayActions) := by
  have undisturbed :
      Always step Undisturbed (World.new sampleScopes) (dispatchActions ++ replayActions) := by
    refine Always.append.mpr ⟨?_, ?_, ?_, ?_, ?_, trivial⟩
    · apply Always.of_mem
      intro act mem w
      have calm : ∀ act ∈ dispatchActions, act.calm = true := by decide
      exact undisturbed_calm (calm act mem) w
    · exact undisturbed_calm rfl _
    · exact undisturbed_calm rfl _
    · exact undisturbed_calm rfl _
    · let w := run step (World.new sampleScopes) (dispatchActions ++ replayActions.take 3)
      have accepts : (w.connections 1).stage = .acknowledging 2 := rfl
      have attached : (w.connections 1).sessionId = some 0 := by decide +kernel
      show Undisturbed w (.settle 1 sampleAuthority .committed)
      simp only [Undisturbed, accepts, attached]
      decide +kernel
  exact ⟨undisturbed, gateway_fenced sampleScopes _ undisturbed⟩

/-- The chat is unpaired before the RESUME, and its message is replayed to the former agent. -/
theorem unpaired_chat_replayed : ¬Always step Fenced (World.new sampleScopes)
      (dispatchActions ++ [.unpair "binding"] ++ replayActions ++ [.write 1 true]) := by
  intro fenced
  have last := (Always.append.mp fenced).2.1
  have carried : "binding" ∈ (run step (World.new sampleScopes)
      (dispatchActions ++ [.unpair "binding"] ++ replayActions)).carried 1 := by
    decide +kernel
  have owned := last "binding" carried
  cases owned

end Clawdi.DiscordGateway
