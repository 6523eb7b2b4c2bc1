import Clawdi.DiscordGateway.Service

namespace Clawdi.DiscordGateway
open Function (update update_eq_self_iff)
open Transition SessionStore List Option Nat
variable {w : World} {id sid : Nat}

structure Serves (w : World) : Prop where
  sound : Sound w
  known : Known w

lemma Serves.new (scopes : Scopes) : Serves (World.new scopes) := ⟨Sound.new scopes, Known.new scopes⟩

lemma Serves.quiet (serves : Serves w) {after : World} (same : after.core = w.core)
    (store : Within w.store after.store) : Serves after := by
  refine ⟨serves.sound.quiet same, serves.known.follow ?_⟩
  simp only [World.core, Prod.mk.injEq] at same
  obtain ⟨conns, sts, -, nextSession, -⟩ := same
  constructor
  · exact store
  · exact nextSession.ge
  · intro alt _
    rw [sts]
    exact ⟨rfl, rfl⟩
  · intro alt held seq stage
    rw [World.stage, conns] at stage
    rw [conns]
    exact ⟨stage, rfl⟩

section
section
variable (serves : Serves w)
include serves

lemma Serves.close (opened : w.stage id ≠ .closed)
    (point : ∀ seq sid, w.stage id = .replaying seq [] → (w.connections id).sessionId = some sid →
      sid ∈ w.brokenOff) : Serves (w.close id) :=
  ⟨serves.sound.close (serves.sound.opened opened) point, serves.known.follow (knows_close w id)⟩

lemma Serves.outside (silent : (w.stage id).silent = true)
    (outside : (w.stage id).outside = true) {conn : Connection}
    (still : conn.sessionId = none) (stays : conn.stage.outside = true)
    (named : ∀ sid seq, conn.stage ≠ .resuming sid seq) : Serves (w.setConnection id conn) := by
  have none_held : (w.connections id).sessionId = none := by
    have same := serves.sound.outside id
    rw [outside] at same
    exact isNone_iff_eq_none.mp same.symm
  have opened : w.stage id ≠ .closed := by
    intro closed
    rw [closed] at silent
    cases silent
  exact ⟨serves.sound.setOutside (serves.sound.opened opened) silent none_held still stays,
    serves.known.follow (knows_setConnection w id _ named)⟩

lemma Serves.answer (id : Nat) : Serves { w with written := w.written ++ [Written.invalidSession id] } :=
  ⟨serves.sound.answer id, serves.known.follow (knows_quiet w rfl)⟩

lemma Serves.answerInvalid (hello : w.stage id = .hello) (arrives : Bool) :
    Serves (w.answerInvalid id arrives) := by
  have answered := serves.answer id
  cases arrives with
  | true => exact answered
  | false =>
    apply answered.close
    · intro closed
      change w.stage id = _ at closed
      rw [hello] at closed
      cases closed
    · intro seq held again
      change w.stage id = _ at again
      rw [hello] at again
      cases again

lemma Serves.resume (hello : w.stage id = .hello) (agent : Agent) (named : Option Nat)
    (seq : Option Int) (arrives : Bool) : Serves (w.resume id agent named seq arrives) := by
  cases named with
  | none => exact serves.answerInvalid hello arrives
  | some sid =>
    let reported := w.report sid seq
    have serves_reported : Serves reported := serves.quiet rfl (Within.refl _)
    obtain ⟨within, was⟩ := within_connect sid w.now w.store
    simp only [World.resume]
    split
    · exact serves_reported.answerInvalid hello arrives
    · split
      · have connected : Serves { reported with
            store := (connect sid w.now w.store).2 } :=
          serves_reported.quiet rfl within
        exact connected.answerInvalid hello arrives
      · split
        · have left := within.trans (within_disconnect sid w.now _)
          have refused : Serves { reported with
              store := disconnect sid w.now (connect sid w.now w.store).2 } :=
            serves_reported.quiet rfl left
          exact refused.answerInvalid hello arrives
        · rename_i stays owned
          push Not at owned
          have connects : (connect sid w.now w.store).1 = true := by simpa using stays
          obtain ⟨e, mem, same⟩ := was connects
          have old : sid < w.nextSession := same ▸ serves.known.stored e mem
          have none_held : (w.connections id).sessionId = none := by
            have outside := serves.sound.outside id
            rw [hello] at outside
            exact isNone_iff_eq_none.mp outside.symm
          have silent : (reported.stage id).silent = true := by
            show (w.stage id).silent = true
            rw [hello]
            rfl
          have opened : w.stage id ≠ .closed := by
            rw [hello]
            intro closed
            cases closed
          let conn : Connection := { w.connections id with agent, stage := .resuming sid seq }
          have set : Sound (reported.setConnection id conn) :=
            serves_reported.sound.setOutside (serves.sound.opened opened) silent none_held none_held
              rfl
          refine ⟨set.quiet rfl, ?_⟩
          constructor
          · intro alt among
            obtain ⟨pre, listed, equal⟩ := within alt among
            exact equal ▸ serves.known.stored pre listed
          · intro alt held v stage
            by_cases at_other : alt = id
            · subst at_other
              change ((reported.setConnection alt conn).connections alt).stage = _ at stage
              rw [setConnection_self] at stage
              cases stage
              show _ ∧ _ = ((reported.setConnection alt conn).connections alt).agent.accountId
                ∧ _ = ((reported.setConnection alt conn).connections alt).agent.botAgentLinkId
              rw [setConnection_self]
              exact ⟨old, owned⟩
            · change ((reported.setConnection id conn).connections alt).stage = _ at stage
              rw [setConnection_other reported conn at_other] at stage
              show _ ∧ _ = ((reported.setConnection id conn).connections alt).agent.accountId
                ∧ _ = ((reported.setConnection id conn).connections alt).agent.botAgentLinkId
              rw [setConnection_other reported conn at_other]
              exact serves.known.resuming alt held v stage

end
end

section

lemma Serves.claimIdentify (serves : Serves w) (waits : w.stage id = .identifying)
    (free : Bool) : Serves (w.claimIdentify id free) := by
  have silent : (w.stage id).silent = true := by
    rw [waits]
    rfl
  have outside : (w.stage id).outside = true := by
    rw [waits]
    rfl
  simp only [World.claimIdentify]
  split
  · rename_i granted
    let agent := (w.connections id).agent
    let opened : World :=
      { w.setState w.nextSession (.new agent.accountId agent.botAgentLinkId) with
        nextSession := w.nextSession + 1 }
    let conn : Connection :=
      { w.connections id with
        sessionId := some w.nextSession, gatewaySequence := 0, lastInboxSequence := 0
        projection := .empty, stage := .preparing }
    have sound_opened : Sound opened := serves.sound.openSession agent.accountId agent.botAgentLinkId
    have none_held : (w.connections id).sessionId = none := by
      have same := serves.sound.outside id
      rw [outside] at same
      exact isNone_iff_eq_none.mp same.symm
    have is_open : w.stage id ≠ .closed := by
      rw [waits]
      intro closed
      cases closed
    obtain ⟨none_recorded, none_sent, -⟩ := serves.sound.fresh w.nextSession le_rfl
    have st : opened.states w.nextSession = .new agent.accountId agent.botAgentLinkId := setState_self _ _ _
    have attached : Sound { opened.setConnection id conn with
        leases := update w.leases agent (some id) } := by
      apply @Sound.attach _ _ w.nextSession _ sound_opened (serves.sound.opened is_open) silent none_held
      · exact granted.1
      · rfl
      · exact lt_succ_self _
      · rw [st]
        exact ⟨rfl, rfl⟩
      · rfl
      · intro seq rest again
        cases again
      · let after : World :=
          { opened.setConnection id conn with
            leases := update opened.leases conn.agent (some id) }
        have here : after.connections id = conn := setConnection_self _ _ _
        have stage : after.stage id = .preparing := by rw [World.stage, here]
        have num : after.sequence id = 0 := by rw [World.sequence, here]
        have fresh : after.states w.nextSession = .new agent.accountId agent.botAgentLinkId := st
        show Staged after id w.nextSession
        constructor
        · rw [stage]
          intro seq accepting
          cases accepting
        · intro _ record mem
          change record ∈ w.recordedOf w.nextSession at mem
          rw [none_recorded] at mem
          cases mem
        · rw [stage]
          intro seq rest again
          cases again
        · intro _
          rw [num, fresh]
          rfl
        · rw [stage, fresh]
          exact zero_le _
        · rw [stage]
          exact trivial
    have core : Sound (w.claimIdentify id free) := attached.quiet (by
      simp only [World.claimIdentify, granted, and_self, if_true]
      rfl)
    simp only [World.claimIdentify, granted, and_self, if_true] at core
    refine ⟨core, ?_⟩
    constructor
    · intro e mem
      show e.sessionId < w.nextSession + 1
      rcases mem_append.mp mem with pre | last
      · obtain ⟨origin, listed, same⟩ :=
          (within_prune w.now w.store).trans (within_discard _ _) e pre
        have old := serves.known.stored origin listed
        omega
      · rw [mem_singleton.mp last]
        exact lt_succ_self _
    · intro alt held seq stage
      by_cases same : alt = id
      · subst same
        change ((opened.setConnection alt conn).connections alt).stage = _ at stage
        rw [setConnection_self] at stage
        cases stage
      · change ((opened.setConnection id conn).connections alt).stage = _ at stage
        rw [setConnection_other opened conn same] at stage
        obtain ⟨old, acct, link⟩ := serves.known.resuming alt held seq stage
        have apart : held ≠ w.nextSession := Nat.ne_of_lt old
        show held < w.nextSession + 1 ∧ (opened.states held).accountId =
            ((opened.setConnection id conn).connections alt).agent.accountId ∧
          (opened.states held).botAgentLinkId =
            ((opened.setConnection id conn).connections alt).agent.botAgentLinkId
        rw [setConnection_other opened conn same,
          show opened.states held = w.states held from setState_other _ _ apart]
        exact ⟨old.trans (lt_succ_self _), acct, link⟩
  · apply serves.outside silent outside
    · rfl
    · rfl
    · intro held seq named
      cases named

lemma Serves.claimResume (serves : Serves w) {seq : Option Int}
    (waits : w.stage id = .resuming sid seq) (free arrives : Bool) :
    Serves (w.claimResume id sid seq free arrives) := by
  have silent : (w.stage id).silent = true := by
    rw [waits]
    rfl
  have outside : (w.stage id).outside = true := by
    rw [waits]
    rfl
  obtain ⟨old, acct, link⟩ := serves.known.resuming id sid seq waits
  have none_held : (w.connections id).sessionId = none := by
    have same := serves.sound.outside id
    rw [outside] at same
    exact isNone_iff_eq_none.mp same.symm
  have is_open : w.stage id ≠ .closed := by
    rw [waits]
    intro closed
    cases closed
  have touched := within_touch sid w.now w.store
  have gone : Serves (w.setConnection id .closed) := by
    apply serves.outside silent outside
    · rfl
    · rfl
    · intro held v named
      cases named
  have refused : Serves
      (if arrives then
        { w.setConnection id { w.connections id with sessionId := none, stage := .hello } with
          store := discard sid (touch sid w.now w.store)
          written := w.written ++ [Written.invalidSession id] }
      else
        let leased := { w with
          leases := update w.leases (w.connections id).agent (some id) }
        let owned := leased.setConnection id
          { w.connections id with sessionId := some sid, stage := .acknowledging 0 }
        { owned with written := w.written ++ [Written.invalidSession id] }.close id) ∨
      w.leases (w.connections id).agent ≠ none := by
    by_cases lease : w.leases (w.connections id).agent = none
    · left
      cases arrives with
      | true =>
        have back : Serves (w.setConnection id
            { w.connections id with sessionId := none, stage := .hello }) := by
          apply serves.outside silent outside
          · rfl
          · rfl
          · intro held v named
            cases named
        exact (back.answer id).quiet rfl (touched.trans (within_discard _ _))
      | false =>
        apply (gone.answer id).quiet
        · simp [World.core, World.close, World.setConnection, Stage.midReplay, lease, update_eq_self_iff]
        · exact within_close _ id
    · right
      exact lease
  simp only [World.claimResume]
  split
  · rename_i granted
    split
    · rename_i v acc
      let conn : Connection := { w.connections id with sessionId := some sid, stage := .acknowledging v }
      have good := serves.sound.sessions sid
      have attached : Sound { w.setConnection id conn with
          leases := update w.leases (w.connections id).agent (some id) } := by
        apply @Sound.attach _ _ sid _ serves.sound (serves.sound.opened is_open) silent none_held
        · exact granted.1
        · rfl
        · exact old
        · exact ⟨acct, link⟩
        · rfl
        · intro alt rest again
          cases again
        · let after : World :=
            { w.setConnection id conn with
              leases := update w.leases conn.agent (some id) }
          have here : after.connections id = conn := setConnection_self _ _ _
          have stage : after.stage id = .acknowledging v := by rw [World.stage, here]
          show Staged after id sid
          constructor
          · rw [stage]
            intro alt same
            cases same
            exact acc
          · intro not_accepting
            exact absurd stage (not_accepting v)
          · rw [stage]
            intro alt rest again
            cases again
          · rw [stage]
            intro runs
            cases runs
          · rw [stage]
            exact good.capped
          · rw [stage]
            exact trivial
      refine ⟨attached.quiet rfl, serves.known.follow ?_⟩
      have leased : Knows w { w with
          leases := update w.leases (w.connections id).agent (some id) } :=
        knows_quiet w rfl
      refine leased.trans (knows_setConnection _ id _ ?_)
      intro held alt named
      cases named
    · rcases refused with refused | taken
      · exact refused
      · exact absurd granted.1 taken
  · exact gone.quiet rfl (within_disconnect _ _ _)

end

variable {w : World} {id sid : Nat} {seq : Int} {stage : Stage}

lemma running_open (runs : stage.running = true) : stage ≠ .closed := by
  intro closed
  rw [closed] at runs
  cases runs

lemma running_unnamed (runs : stage.running = true) : ∀ held seq, stage ≠ .resuming held seq := by
  intro held seq named
  rw [named] at runs
  cases runs

lemma running_dispatches (runs : stage.running = true) : stage.mayDispatch := by
  cases stage <;> simp_all [Stage.running, Stage.mayDispatch]

section
variable (serves : Serves w)
include serves

lemma Serves.closeRunning (runs : (w.stage id).running = true) : Serves (w.close id) := by
  apply serves.close (running_open runs)
  intro seq held again
  rw [again] at runs
  cases runs

lemma Serves.restage (runs : (w.stage id).running = true) (stays : stage.running = true) (plain : stage.plain)
    (room : ∀ sid, (w.connections id).sessionId = some sid →
      (w.states sid).messageCheckpoints.length + stage.demand ≤ resumeBufferSize) : Serves (w.setStage id stage) := by
  obtain ⟨sid, attached⟩ := serves.sound.session (running_inside runs)
  exact ⟨serves.sound.restage attached runs stays (room sid attached) plain,
    serves.known.follow (knows_setConnection w id _ (running_unnamed stays))⟩

lemma Serves.restageWithin (runs : (w.stage id).running = true) (stays : stage.running = true)
    (plain : stage.plain) (fewer : stage.demand ≤ (w.stage id).demand) : Serves (w.setStage id stage) := by
  apply serves.restage runs stays plain
  intro sid attached
  have room := (serves.sound.staged id sid attached).room
  omega

lemma Serves.dispatch (attached : (w.connections id).sessionId = some sid)
    (may : (w.stage id).mayDispatch) {write : Write} {next : Stage} (stays : next.running = true) (plain : next.plain)
    (room : (w.states sid).messageCheckpoints.length +
      (if write.checkpoint.isSome then 1 else 0) + next.demand ≤ resumeBufferSize)
    (noted : Bool) (bid : Option Uuid) (arrives : Bool) :
    Serves (w.dispatch id sid write noted bid next arrives) := by
  refine ⟨serves.sound.dispatch attached may stays plain room noted bid arrives,
    serves.known.follow (knows_dispatch w id sid write noted bid next arrives ?_ (running_unnamed stays))⟩
  intro held seq named
  rcases Stage.mayDispatch_cases may with ⟨v, again⟩ | runs
  · rw [again] at named
    cases named
  · exact running_unnamed runs held seq named

lemma Serves.endTurn (attached : (w.connections id).sessionId = some sid)
    (runs : (w.stage id).running = true) (turn : Turn) (sent : Bool)
    {page : List ChannelMessage} (room : page.length ≤ (w.stage id).demand) :
    Serves (w.endTurn id sid turn sent page) := by
  refine ⟨serves.sound.endTurn attached runs turn sent room, serves.known.follow ?_⟩
  refine (knows_setConnection w id _ ?_).trans (knows_setState _ sid _ rfl rfl)
  intro held seq named
  cases named

lemma Serves.project (attached : (w.connections id).sessionId = some sid)
    (runs : (w.stage id).running = true) (projection : Projection) : Serves (w.setProjection id sid projection) :=
  ⟨serves.sound.project attached runs projection,
    serves.known.follow (knows_setProjection w id sid projection (running_unnamed runs))⟩

lemma Serves.acknowledge (agent : Agent) (attached : (w.connections id).sessionId = some sid) (seq : Option Int) :
    Serves (w.acknowledge agent sid seq) := by
  refine ⟨serves.sound.acknowledge agent attached seq, serves.known.follow ?_⟩
  have stated := knows_setState w sid ((w.states sid).acknowledge seq) rfl rfl
  exact stated.trans (knows_quiet _ rfl)

lemma Serves.heartbeat (attached : (w.connections id).sessionId = some sid)
    (runs : (w.stage id).running = true) (seq : Option Int) (done : Settled)
    (arrives : Bool) : Serves (w.heartbeat id sid seq done arrives) := by
  let reported := w.report sid seq
  have serves_reported : Serves reported := serves.quiet rfl (Within.refl _)
  have acked := serves_reported.acknowledge (w.connections id).agent attached seq
  have touched := within_touch sid w.now w.store
  simp only [World.heartbeat]
  split
  · cases done with
    | committed =>
      cases arrives with
      | true => exact acked.quiet rfl touched
      | false => exact acked.closeRunning runs
    | failed => exact serves_reported.closeRunning runs
    | lost => exact acked.closeRunning runs
  · cases arrives with
    | true => exact serves_reported.quiet rfl touched
    | false => exact serves_reported.closeRunning runs

lemma Serves.settle (attached : (w.connections id).sessionId = some sid)
    (accepting : w.stage id = .acknowledging seq) (auth : Authority)
    (done : Settled) : Serves (w.settle id sid seq auth done) := by
  have is_open : w.stage id ≠ .closed := by
    rw [accepting]
    intro closed
    cases closed
  have ends : ∀ after : World, after.stage id = w.stage id → Serves after →
      Serves (after.close id) := by
    intro after same serves_after
    apply serves_after.close
    · rw [same]
      exact is_open
    · intro v held again
      rw [same, accepting] at again
      cases again
  have acked := serves.acknowledge (w.connections id).agent attached (some seq)
  cases done with
  | committed =>
    refine ⟨serves.sound.accept attached accepting auth, acked.known.follow ?_⟩
    refine (knows_setConnection _ id _ ?_).trans (knows_quiet _ rfl)
    intro held v named
    cases named
  | failed => exact ends w rfl serves
  | lost => exact ends _ rfl acked

lemma Serves.replayFrame (attached : (w.connections id).sessionId = some sid) {frame rest}
    (again : w.stage id = .replaying seq (frame :: rest)) (arrives : Bool) :
    Serves (w.replayFrame id sid seq frame rest arrives) := by
  let sent : World :=
    { (w.setState sid ((w.states sid).send frame false none)).setStage id
        (.replaying seq rest) with
      written := w.written ++ [Written.replay id sid frame] }
  have knows : Knows w sent := by
    have stated := knows_setState w sid ((w.states sid).send frame false none) rfl rfl
    refine (stated.trans (knows_setConnection _ id _ ?_)).trans (knows_quiet _ rfl)
    intro held v named
    cases named
  have serves_sent : Serves sent := ⟨serves.sound.replay attached again, serves.known.follow knows⟩
  have here : sent.connections id =
      { w.connections id with stage := .replaying seq rest } := by
    simp [sent, World.setStage, World.setState, World.setConnection]
  cases arrives with
  | true => exact serves_sent.quiet rfl (within_touch sid w.now w.store)
  | false =>
    have still : (sent.connections id).sessionId = some sid := by
      rw [here]
      exact attached
    have broken : Serves { sent with brokenOff := w.brokenOff ++ [sid] } :=
      ⟨serves_sent.sound.breakOff still, serves_sent.known.follow (knows_quiet sent rfl)⟩
    apply broken.close
    · show sent.stage id ≠ .closed
      rw [World.stage, here]
      intro closed
      cases closed
    · intro v held _ same
      rw [still] at same
      rw [← Option.some.inj same]
      exact mem_append_right _ (mem_singleton_self _)

lemma Serves.keepProjection (attached : (w.connections id).sessionId = some sid)
    (unnamed : ∀ held v, w.stage id ≠ .resuming held v) :
    Serves (w.setProjection id sid (w.connections id).projection) := by
  let projection := (w.connections id).projection
  let st : SessionState := { w.states sid with projection }
  have alike : Alike (w.states sid) st := ⟨rfl, rfl, rfl, rfl, rfl, rfl⟩
  have restated := serves.sound.restate attached alike rfl
  refine ⟨restated.quiet ?_, serves.known.follow (knows_setProjection w id sid projection unnamed)⟩
  simp [World.core, World.setProjection, World.setConnection, World.setState, projection, st]

lemma Serves.resumed (attached : (w.connections id).sessionId = some sid)
    (again : w.stage id = .replaying seq []) (arrives : Bool) : Serves (w.resumed id sid arrives) := by
  let projection := (w.connections id).projection
  have proj : Serves (w.setProjection id sid projection) := by
    apply serves.keepProjection attached
    intro held v named
    rw [again] at named
    cases named
  have conn : (w.setProjection id sid projection).connections id =
      { w.connections id with projection } := setConnection_self _ _ _
  have stage : (w.setProjection id sid projection).stage id =
      .replaying seq [] := by
    rw [World.stage, conn]
    exact again
  apply proj.dispatch
  · rw [conn]
    exact attached
  · rw [stage]
    rfl
  · rfl
  · exact trivial
  · show ((w.setProjection id sid projection).states sid).messageCheckpoints.length + 0 + 0 ≤ resumeBufferSize
    have st : (w.setProjection id sid projection).states sid =
        { w.states sid with projection } := setState_self _ _ _
    rw [st]
    exact (serves.sound.sessions sid).capped

lemma Serves.write (attached : (w.connections id).sessionId = some sid) (arrives : Bool) :
    Serves (w.write id sid arrives) := by
  have staged := serves.sound.staged id sid attached
  have room := staged.room
  have plain := staged.plain
  unfold World.write
  cases at_stage : (w.connections id).stage with
  | replaying seq rest =>
    cases rest with
    | nil => exact serves.resumed attached at_stage arrives
    | cons frame rest => exact serves.replayFrame attached at_stage arrives
  | starting writes =>
    have stage : w.stage id = .starting writes := at_stage
    have runs : (w.stage id).running = true := by
      rw [stage]
      rfl
    rw [stage] at plain room
    cases writes with
    | nil =>
      have listened : Serves (w.setStage id (.listening [])) := serves.restageWithin runs rfl trivial (zero_le _)
      have done := serves.sound.settle attached { w.connections id with stage := .listening [] }
        { w.states sid with identified := true } attached rfl rfl runs rfl
        ⟨rfl, rfl, rfl, rfl, rfl, rfl⟩ room trivial
      exact ⟨done, listened.known.follow (knows_setState _ sid _ rfl rfl)⟩
    | cons next writes =>
      apply serves.dispatch attached (running_dispatches runs)
      · rfl
      · exact fun write mem => plain write (mem_cons_of_mem _ mem)
      · rw [plain next mem_cons_self]
        exact room
  | removing turn writes page =>
    have stage : w.stage id = .removing turn writes page := at_stage
    have runs : (w.stage id).running = true := by
      rw [stage]
      rfl
    rw [stage] at plain room
    cases writes with
    | nil => exact serves
    | cons next writes =>
      apply serves.dispatch attached (running_dispatches runs)
      · rfl
      · exact fun write mem => plain write (mem_cons_of_mem _ mem)
      · rw [plain next mem_cons_self]
        exact room
  | sending turn bid writes page =>
    have stage : w.stage id = .sending turn bid writes page := at_stage
    have runs : (w.stage id).running = true := by
      rw [stage]
      rfl
    cases writes with
    | nil =>
      apply serves.endTurn attached runs
      rw [stage]
      exact le_add_right _ _
    | cons next writes =>
      rw [stage] at room
      simp only [Stage.demand, countP_cons] at room
      apply serves.dispatch attached (running_dispatches runs)
      · rfl
      · exact trivial
      · simp only [Stage.demand]
        omega
  | _ => exact serves

end
end Clawdi.DiscordGateway
