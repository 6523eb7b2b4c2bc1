import Clawdi.DiscordGateway.Sends

namespace Clawdi.DiscordGateway
open List
open Function (update update_of_ne update_self)
variable {w : World} {id sid : Nat}

lemma Sound.breakOff (inv : Sound w) (attached : (w.connections id).sessionId = some sid) :
    Sound { w with brokenOff := w.brokenOff ++ [sid] } := by
  have grows : ∀ alt, alt ∉ w.brokenOff ++ [sid] → alt ∉ w.brokenOff :=
    fun alt gone mem => gone (mem_append_left _ mem)
  constructor
  · intro alt
    exact (inv.sessions alt).transfer rfl rfl rfl (grows alt) fun held num rest has again _ => ⟨has, again⟩
  · intro alt
    exact (inv.logs alt).transfer rfl ⟨rfl, rfl⟩ fun _ _ mem => mem
  · intro alt held has
    exact (inv.staged alt held has).transfer rfl rfl rfl rfl (grows held)
  · exact inv.outside
  · exact inv.held
  · intro alt new
    obtain ⟨none_recorded, none_sent, unbroken⟩ := inv.fresh alt new
    refine ⟨none_recorded, none_sent, ?_⟩
    intro mem
    rcases mem_append.mp mem with pre | here
    · exact unbroken pre
    · have old := (inv.held id sid attached).2.1
      rw [mem_singleton.mp here] at new
      exact absurd old (not_lt.mpr new)
  · exact inv.closed

lemma Sound.acknowledge (inv : Sound w) (agent : Agent)
    (attached : (w.connections id).sessionId = some sid) (sequence : Option Int) :
    Sound (w.acknowledge agent sid sequence) := by
  let after := w.setState sid ((w.states sid).acknowledge sequence)
  have st : after.states sid = (w.states sid).acknowledge sequence := setState_self _ _ _
  have fewer : (after.states sid).messageCheckpoints.length ≤
      (w.states sid).messageCheckpoints.length := by
    rw [st]
    exact length_filter_le _ _
  have staged := inv.staged id sid attached
  have good := inv.sessions sid
  have sound_after : Sound after := by
    apply inv.changed attached
    · constructor
      · exact fun _ _ => rfl
      · exact fun alt ne => setState_other _ _ ne
      · rfl
      · rfl
      · rfl
      · rfl
      · exact fun _ _ => rfl
      · exact fun _ _ => rfl
      · exact fun _ _ => ⟨rfl, rfl⟩
      · exact fun _ _ => Iff.rfl
      · exact ⟨rfl, rfl⟩
      · rw [st]
        exact ⟨rfl, rfl⟩
    · constructor
      · rw [st]
        exact good.state.acknowledge sequence
      · exact fewer.trans good.capped
      · intro unbroken none_replays
        rw [st]
        exact good.bound unbroken none_replays
      · exact good.matched
      · exact good.ordered
      · exact good.strict
    · exact (inv.logs id).transfer rfl ⟨rfl, rfl⟩ fun _ _ mem => mem
    · constructor
      · rw [st]
        exact staged.accepted
      · exact staged.ahead
      · exact staged.front
      · rw [st]
        exact staged.level
      · have room := staged.room
        show (after.states sid).messageCheckpoints.length + (w.stage id).demand ≤ _
        omega
      · exact staged.plain
    · show (w.stage id).outside = false
      rw [inv.outside id, attached]
      rfl
  exact sound_after.quiet rfl

lemma answer_logs (w : World) (id alt : Nat) :
    ({ w with written := w.written ++ [Written.invalidSession id] } : World).dispatchesOf alt = w.dispatchesOf alt ∧
      ({ w with written := w.written ++ [Written.invalidSession id] } : World).dispatchesOn
        alt = w.dispatchesOn alt ∧
      ({ w with written := w.written ++ [Written.invalidSession id] } : World).replaysOn alt = w.replaysOn alt := by
  simp [World.dispatchesOf, World.dispatchesOn, World.replaysOn, Written.ofSession,
    Written.dispatchOn, Written.replayOn]

lemma Sound.answer (inv : Sound w) (id : Nat) :
    Sound { w with written := w.written ++ [Written.invalidSession id] } := by
  constructor
  · intro alt
    exact (inv.sessions alt).transfer rfl rfl (answer_logs w id alt).1
      (fun unbroken => unbroken) fun held num rest has again _ => ⟨has, again⟩
  · intro alt
    exact (inv.logs alt).transfer rfl (answer_logs w id alt).2 fun _ _ mem => mem
  · intro alt held has
    exact (inv.staged alt held has).transfer rfl rfl rfl (answer_logs w id held).1 fun unbroken => unbroken
  · exact inv.outside
  · exact inv.held
  · intro alt new
    rw [(answer_logs w id alt).1]
    exact inv.fresh alt new
  · intro alt new
    rw [(answer_logs w id alt).2.1, (answer_logs w id alt).2.2]
    exact inv.closed alt new

section
variable {sequence : Int} {frame : Frame} {rest : List Frame}

lemma replay_logs (w : World) (id sid alt : Nat) (frame : Frame) :
    ({ w with written := w.written ++ [Written.replay id sid frame] } :
        World).dispatchesOf alt = w.dispatchesOf alt ∧
      ({ w with written := w.written ++ [Written.replay id sid frame] } :
        World).dispatchesOn alt = w.dispatchesOn alt ∧
      ({ w with written := w.written ++ [Written.replay id sid frame] } :
        World).replaysOn alt = w.replaysOn alt ++ if id = alt then [frame] else [] := by
  by_cases same : id = alt
  · simp [World.dispatchesOf, World.dispatchesOn, World.replaysOn, Written.ofSession,
      Written.dispatchOn, Written.replayOn, same]
  · simp [World.dispatchesOf, World.dispatchesOn, World.replaysOn, Written.ofSession,
      Written.dispatchOn, Written.replayOn, same]

lemma Sound.replay (inv : Sound w) (attached : (w.connections id).sessionId = some sid)
    (again : w.stage id = .replaying sequence (frame :: rest)) :
    Sound
      { (w.setState sid ((w.states sid).send frame false none)).setStage id
          (.replaying sequence rest) with
        written := w.written ++ [Written.replay id sid frame] } := by
  let sent : World :=
    { (w.setState sid ((w.states sid).send frame false none)).setStage id
        (.replaying sequence rest) with
      written := w.written ++ [Written.replay id sid frame] }
  have staged := inv.staged id sid attached
  have good := inv.sessions sid
  obtain ⟨none_sent, due⟩ := (inv.logs id).replaying sequence (frame :: rest) again
  have here : sent.connections id =
      { w.connections id with stage := .replaying sequence rest } := by
    simp [sent, World.setStage, World.setState, World.setConnection]
  have stage : sent.stage id = .replaying sequence rest := by rw [World.stage, here]
  have num : sent.sequence id = w.sequence id := by rw [World.sequence, here, World.sequence]
  have st : sent.states sid = (w.states sid).send frame false none := by
    simp [sent, World.setStage, World.setState, World.setConnection]
  have socket : sent.replaysOn id = w.replaysOn id ++ [frame] := by
    have whole := (replay_logs w id sid id frame).2.2
    rw [if_pos rfl] at whole
    exact whole
  have silent : sent.dispatchesOn id = [] := (replay_logs w id sid id frame).2.1.trans none_sent
  have dispatches : ∀ alt, sent.dispatchesOf alt = w.dispatchesOf alt :=
    fun alt => (replay_logs w id sid alt frame).1
  have paid : ∀ resume ∈ w.resumes, resume.connection = id →
      w.replaysOn id ++ [frame] ++ rest = resume.due := by
    intro resume mem same
    rw [append_assoc]
    exact due resume mem same
  show Sound sent
  apply inv.changed attached
  · constructor
    · intro alt ne
      simp [sent, World.setStage, World.setState, World.setConnection, ne]
    · intro alt ne
      simp [sent, World.setStage, World.setState, World.setConnection, ne]
    · rfl
    · rfl
    · rfl
    · rfl
    · exact fun _ _ => rfl
    · exact fun alt _ => dispatches alt
    · intro alt ne
      have logs := (replay_logs w id sid alt frame).2
      rw [if_neg (Ne.symm ne), append_nil] at logs
      exact logs
    · exact fun _ _ => Iff.rfl
    · rw [here]
      exact ⟨rfl, rfl⟩
    · rw [st]
      exact ⟨rfl, rfl⟩
  · constructor
    · rw [st]
      exact good.state.unrecorded
    · rw [st]
      exact good.capped
    · intro _ none_replays
      have still : (sent.connections id).sessionId = some sid := by
        rw [here]
        exact attached
      exact absurd stage (none_replays id sequence rest still)
    · rw [dispatches]
      exact good.matched
    · rw [dispatches]
      exact good.ordered
    · rw [dispatches]
      exact good.strict
  · constructor
    · rw [stage]
      intro is_silent
      cases is_silent
    · rw [stage, silent, socket]
      intro v left same
      cases same
      exact ⟨rfl, paid⟩
    · rw [stage]
      intro runs
      cases runs
    · rw [silent]
      exact List.Pairwise.nil
    · intro resume mem same
      rw [silent, socket]
      refine ⟨⟨rest, paid resume mem same⟩, ?_⟩
      intro some_sent
      exact absurd rfl some_sent
  · constructor
    · rw [stage]
      intro v accepting
      cases accepting
    · intro _
      rw [num]
      apply staged.ahead
      intro v accepting
      rw [again] at accepting
      cases accepting
    · rw [dispatches, num]
      intro v left _ unbroken
      exact staged.front sequence (frame :: rest) again unbroken
    · rw [stage]
      intro runs
      cases runs
    · rw [stage, st]
      exact good.capped
    · rw [stage]
      exact trivial
  · rw [stage]
    rfl

end

section
variable {sequence : Int}

lemma Sound.accept (inv : Sound w) (attached : (w.connections id).sessionId = some sid)
    (accepting : w.stage id = .acknowledging sequence) (auth : Authority) :
    Sound (w.accept id sid sequence auth) := by
  let done := w.acknowledge (w.connections id).agent sid (some sequence)
  let after := w.accept id sid sequence auth
  have sound_settled : Sound done := inv.acknowledge _ attached _
  have good := inv.sessions sid
  have good_settled := sound_settled.sessions sid
  have acc := (inv.staged id sid attached).accepted sequence accepting
  have is_silent : (w.stage id).silent = true := by
    rw [accepting]
    rfl
  obtain ⟨none_sent, none_replayed, none_resumed⟩ := (inv.logs id).silent is_silent
  have stage : after.stage id =
      .replaying sequence ((w.states sid).replay sequence) := by
    show (after.connections id).stage = _
    simp only [after, World.accept, setConnection_self]
  have num : after.sequence id = (w.states sid).latestSequence := by
    show (after.connections id).gatewaySequence = _
    simp only [after, World.accept, setConnection_self]
  have resumes : after.resumes = w.resumes ++
      [{ connection := id, sessionId := sid, sequence
         due := ((w.recordedOf sid).filter fun record =>
          sequence < (record.frame.s : Int)).map Recorded.frame }] := by
    have listed : (w.recorded.filter fun e =>
        e.sessionId = sid ∧ sequence < (e.frame.s : Int)) =
          (w.recordedOf sid).filter fun record => sequence < (record.frame.s : Int) := by
      rw [World.recordedOf, filter_filter]
      apply filter_congr
      intro record _
      rw [Bool.decide_and, Bool.and_comm]
    rw [← listed]
    rfl
  have due : ∀ resume ∈ after.resumes, resume.connection = id →
      (w.states sid).replay sequence = resume.due := by
    intro resume mem same
    rw [resumes] at mem
    rcases mem_append.mp mem with pre | added
    · exact absurd same (none_resumed resume pre)
    · rw [mem_singleton.mp added]
      exact good.state.replay acc
  have replays : after.replaysOn id = [] := none_replayed
  have sends : after.dispatchesOn id = [] := none_sent
  show Sound after
  refine @Sound.changed done sound_settled after id sid attached ?_ ?_ ?_ ?_ ?_
  · constructor
    · exact fun alt ne => setConnection_other done _ ne
    · exact fun _ _ => rfl
    · rfl
    · rfl
    · rfl
    · rfl
    · exact fun _ _ => rfl
    · exact fun _ _ => rfl
    · exact fun _ _ => ⟨rfl, rfl⟩
    · intro resume ne
      constructor
      · intro mem
        rcases mem_append.mp mem with pre | added
        · exact pre
        · rw [mem_singleton.mp added] at ne
          exact absurd rfl ne
      · exact fun mem => mem_append_left _ mem
    · simp only [after, World.accept, setConnection_self]
      exact ⟨rfl, rfl⟩
    · exact ⟨rfl, rfl⟩
  · refine good_settled.transfer rfl rfl rfl (fun unbroken => unbroken) ?_
    intro alt v rest has again _
    have same : alt = id := inv.alone has attached
    subst same
    change w.stage alt = _ at again
    rw [accepting] at again
    cases again
  · constructor
    · rw [stage]
      intro silent
      cases silent
    · rw [stage, sends, replays]
      intro v rest same
      cases same
      exact ⟨rfl, due⟩
    · rw [stage]
      intro runs
      cases runs
    · rw [sends]
      exact List.Pairwise.nil
    · rw [sends, replays]
      intro resume _ _
      exact ⟨List.nil_prefix, fun some_sent => absurd rfl some_sent⟩
  · constructor
    · rw [stage]
      intro v same
      cases same
    · intro _
      rw [num]
      exact good.state.latest
    · rw [num]
      intro v rest _ unbroken
      apply good.bound unbroken
      intro alt v rest has again
      have same : alt = id := inv.alone has attached
      subst same
      rw [accepting] at again
      cases again
    · rw [stage]
      intro runs
      cases runs
    · rw [stage]
      exact good_settled.capped
    · rw [stage]
      exact trivial
  · rw [stage]
    rfl

end

section
variable {conn : Connection}

lemma Sound.attach (inv : Sound w) (opened : id < w.nextConnection)
    (silent : (w.stage id).silent = true) (none_held : (w.connections id).sessionId = none)
    (free : w.leases conn.agent = none) (sess : conn.sessionId = some sid) (old : sid < w.nextSession)
    (owner : (w.states sid).accountId = conn.agent.accountId ∧
      (w.states sid).botAgentLinkId = conn.agent.botAgentLinkId) (inside : conn.stage.outside = false)
    (apart : ∀ sequence rest, conn.stage ≠ .replaying sequence rest) (staged : Staged
      { w.setConnection id conn with
        leases := update w.leases conn.agent (some id) } id sid) :
    Sound { w.setConnection id conn with
      leases := update w.leases conn.agent (some id) } := by
  let after : World :=
    { w.setConnection id conn with
      leases := update w.leases conn.agent (some id) }
  have others : ∀ alt, alt ≠ id → after.connections alt = w.connections alt := fun alt ne => update_of_ne ne _ _
  have here : after.connections id = conn := update_self _ _ _
  obtain ⟨none_sent, none_replayed, none_resumed⟩ := (inv.logs id).silent silent
  have stage : after.stage id = conn.stage := by rw [World.stage, here]
  show Sound after
  constructor
  · intro held
    refine (inv.sessions held).transfer rfl rfl rfl (fun unbroken => unbroken) ?_
    intro alt v rest has again _
    have ne : alt ≠ id := by
      rintro rfl
      rw [none_held] at has
      cases has
    rw [World.stage, others alt ne]
    exact ⟨has, again⟩
  · intro alt
    by_cases same : alt = id
    · subst same
      constructor
      · exact fun _ => ⟨none_sent, none_replayed, none_resumed⟩
      · rw [stage]
        intro v rest again
        exact absurd again (apart v rest)
      · intro _
        rw [show after.dispatchesOn alt = [] from none_sent]
        refine ⟨fun _ mem => absurd mem not_mem_nil, ?_⟩
        intro resume mem at_other
        exact absurd at_other (none_resumed resume mem)
      · rw [show after.dispatchesOn alt = [] from none_sent]
        exact List.Pairwise.nil
      · intro resume mem at_other
        exact absurd at_other (none_resumed resume mem)
    · exact (inv.logs alt).transfer (others alt same) ⟨rfl, rfl⟩ fun _ _ mem => mem
  · intro alt held has
    by_cases same : alt = id
    · rw [same, here, sess] at has
      rw [same, ← Option.some.inj has]
      exact staged
    · rw [others alt same] at has
      exact (inv.staged alt held has).transfer (others alt same) rfl rfl rfl fun unbroken => unbroken
  · intro alt
    by_cases same : alt = id
    · rw [same, stage, here, sess, inside]
      rfl
    · rw [World.stage, others alt same]
      exact inv.outside alt
  · intro alt held has
    by_cases same : alt = id
    · rw [same, here] at has ⊢
      rw [sess] at has
      cases has
      exact ⟨update_self _ _ _, old, owner⟩
    · rw [others alt same] at has ⊢
      obtain ⟨lease, known, owned⟩ := inv.held alt held has
      refine ⟨?_, known, owned⟩
      have differs : (w.connections alt).agent ≠ conn.agent := by
        intro same_agent
        rw [same_agent, free] at lease
        cases lease
      show update w.leases conn.agent (some id) _ = _
      rw [update_of_ne differs]
      exact lease
  · exact inv.fresh
  · intro alt new
    have ne : alt ≠ id := by
      rintro rfl
      exact absurd opened (not_lt.mpr new)
    rw [others alt ne]
    exact inv.closed alt new

lemma Sound.openSession (inv : Sound w) (acctId botAgentLinkId : Uuid) :
    Sound { w.setState w.nextSession (.new acctId botAgentLinkId) with
      nextSession := w.nextSession + 1 } := by
  obtain ⟨none_recorded, none_sent, unbroken⟩ := inv.fresh w.nextSession le_rfl
  have others : ∀ alt, alt ≠ w.nextSession → (w.setState w.nextSession (.new acctId botAgentLinkId)).states alt =
        w.states alt := fun alt ne => setState_other _ _ ne
  have apart : ∀ alt held, (w.connections alt).sessionId = some held →
      held ≠ w.nextSession := by
    rintro alt held has rfl
    exact lt_irrefl _ (inv.held alt _ has).2.1
  let after : World :=
    { w.setState w.nextSession (.new acctId botAgentLinkId) with
      nextSession := w.nextSession + 1 }
  show Sound after
  constructor
  · intro held
    by_cases same : held = w.nextSession
    · subst same
      constructor
      · show StateGood ((w.setState w.nextSession _).states w.nextSession) (w.recordedOf w.nextSession)
        rw [setState_self, none_recorded]
        exact ⟨List.Pairwise.nil, ⟨[], rfl, rfl, fun kept => absurd rfl kept⟩, fun _ mem => nomatch mem⟩
      · show ((w.setState w.nextSession _).states w.nextSession).messageCheckpoints.length ≤ _
        rw [setState_self]
        exact Nat.zero_le _
      · intro _ _ sent mem
        change sent ∈ w.dispatchesOf w.nextSession at mem
        rw [none_sent] at mem
        cases mem
      · intro sent mem
        change sent ∈ w.dispatchesOf w.nextSession at mem
        rw [none_sent] at mem
        cases mem
      · show List.Pairwise _ (w.dispatchesOf w.nextSession)
        rw [none_sent]
        exact List.Pairwise.nil
      · intro _
        show List.Pairwise _ (w.dispatchesOf w.nextSession)
        rw [none_sent]
        exact List.Pairwise.nil
    · exact (inv.sessions held).transfer (others held same) rfl rfl (fun unbroken => unbroken)
        fun alt v rest has again _ => ⟨has, again⟩
  · intro alt
    exact (inv.logs alt).transfer rfl ⟨rfl, rfl⟩ fun _ _ mem => mem
  · intro alt held has
    exact (inv.staged alt held has).transfer rfl (others held (apart alt held has)) rfl rfl fun unbroken => unbroken
  · exact inv.outside
  · intro alt held has
    obtain ⟨lease, old, owner⟩ := inv.held alt held has
    refine ⟨lease, old.trans (Nat.lt_succ_self _), ?_⟩
    show ((w.setState w.nextSession _).states held).accountId = _ ∧
      ((w.setState w.nextSession _).states held).botAgentLinkId = _
    rw [others held (apart alt held has)]
    exact owner
  · intro held new
    exact inv.fresh held (Nat.le_of_succ_le new)
  · exact inv.closed

end
end Clawdi.DiscordGateway
